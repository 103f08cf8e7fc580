import ChainTrust.Digest

namespace ChainTrust

/-- The bytes of the two algorithms are kept as they are written. -/
structure Sct where
  version : UInt8
  /-- The SHA-256 digest of the log's key. -/
  logId : Bytes
  /-- Milliseconds of Unix time. -/
  timestamp : UInt64
  extensions : Bytes
  hash : UInt8
  signer : UInt8
  signature : Bytes
deriving DecidableEq, Repr

/-- What a timestamp attests to. -/
inductive LogEntry where
  | certificate (encoded : Bytes)
  | precertificate (issuerKeyHash body : Bytes)
deriving DecidableEq, Repr

namespace Sct

def logIdLength : Nat := 32

def ofBytes? (bytes : Bytes) : Option Sct := do
  let (version, rest) ← Bytes.word? 1 bytes
  let (logId, rest) ← Bytes.split? logIdLength rest
  let (timestamp, rest) ← Bytes.word? 8 rest
  let (extensions, rest) ← Bytes.block? 2 rest
  let (hash, rest) ← Bytes.word? 1 rest
  let (signer, rest) ← Bytes.word? 1 rest
  let (signature, rest) ← Bytes.block? 2 rest
  guard rest.isEmpty
  return ⟨UInt8.ofNat version, logId, UInt64.ofNat timestamp, extensions, UInt8.ofNat hash,
    UInt8.ofNat signer, signature⟩

/-- Reads one timestamp with nothing after it. -/
def ofBytes (bytes : Bytes) : Result Sct :=
  match ofBytes? bytes with
  | some sct => .ok sct
  | none => .error .badLength

/-- Signature algorithms by the bytes of signer and hash. -/
def algorithmRows : List ((UInt8 × UInt8) × Oid) :=
  [ ((3, 4), .ecdsaWithSha256), ((3, 5), .ecdsaWithSha384), ((3, 6), .ecdsaWithSha512),
    ((1, 4), .sha256WithRsa), ((1, 5), .sha384WithRsa), ((1, 6), .sha512WithRsa) ]

def algorithm (sct : Sct) : Result Oid :=
  match algorithmRows.lookup (sct.signer, sct.hash) with
  | some id => .ok id
  | none => .error .unsupported

def entryBytes? : LogEntry → Option Bytes
  | .certificate encoded => (Bytes.block 3 encoded).map (Bytes.fixed 2 0 ++ ·)
  | .precertificate issuerKeyHash body =>
    (Bytes.block 3 body).map fun block => Bytes.fixed 2 1 ++ (issuerKeyHash ++ block)

/-- The data under the signature: the timestamp without its log, the entry and the extensions. -/
def signedData (sct : Sct) (entry : LogEntry) : Result Bytes :=
  match entryBytes? entry, Bytes.block 2 sct.extensions with
  | some entry, some extensions =>
    .ok (sct.version :: 0 :: (Bytes.fixed 8 sct.timestamp.toNat ++ (entry ++ extensions)))
  | _, _ => .error .badLength

/-- Blocks up to the end. -/
def blocks? (bytes : Bytes) : Option (List Bytes) :=
  if bytes.isEmpty then some []
  else do
    let (block, rest) ← Bytes.block? 2 bytes
    if rest.length < bytes.length then return block :: (← blocks? rest) else none
termination_by bytes.length

/-- The encodings in a list of timestamps, which may be malformed themselves. -/
def itemsOf (bytes : Bytes) : Result (List Bytes) :=
  match Bytes.block? 2 bytes with
  | some (items, []) =>
    match blocks? items with
    | some found => .ok found
    | none => .error .badLength
  | _ => .error .badLength

end Sct
end ChainTrust
