import ChainTrust.GeneralName

namespace ChainTrust.X509

open Der

structure Algorithm where
  id : Oid
  parameters : Option (UInt8 × Bytes)
deriving DecidableEq, Repr

structure PublicKey where
  algorithm : Algorithm
  key : BitString
deriving DecidableEq, Repr

inductive Time where
  | utc (seconds : UInt64)
  | generalized (seconds : UInt64)
deriving DecidableEq, Repr

structure Extension where
  id : Oid
  critical : Bool
  value : Bytes
deriving DecidableEq, Repr

structure Body where
  version : Nat
  serial : Bytes
  signature : Algorithm
  issuer : Name
  notBefore : Time
  notAfter : Time
  subject : Name
  publicKey : PublicKey
  issuerUniqueId : Option BitString
  subjectUniqueId : Option BitString
  extensions : Option (List Extension)
deriving DecidableEq, Repr

structure Certificate where
  body : Body
  algorithm : Algorithm
  signature : BitString
deriving DecidableEq, Repr

namespace Algorithm

def read : Reader Algorithm := Reader.sequence do
  let id ← Reader.objectId
  if (← Reader.peek).isSome then return ⟨id, some (← Reader.anyElement)⟩
  else return ⟨id, none⟩

def encode (a : Algorithm) : Bytes :=
  Der.sequence [oidElement a.id, (a.parameters.map fun (tag, value) => element tag value).getD []]

/-- The object identifier that stands as parameter of some key algorithms. -/
def parameterId? (a : Algorithm) : Option Oid :=
  a.parameters.bind fun (tag, value) => if tag = Tag.objectId then Oid.ofBody? value else none

end Algorithm

namespace PublicKey

def read : Reader PublicKey := Reader.sequence do
  let algorithm ← Algorithm.read
  return ⟨algorithm, ← Reader.bitString⟩

def encode (k : PublicKey) : Bytes :=
  Der.sequence [k.algorithm.encode, element Tag.bitString k.key.content]

def ofDer (der : Bytes) : Result PublicKey :=
  match Reader.all read der with
  | some key => .ok key
  | none => .error .badDer

end PublicKey

namespace Time

def seconds : Time → UInt64
  | .utc s => s
  | .generalized s => s

def read : Reader Time := do
  let (tag, content) ← Reader.anyElement
  if tag = Tag.utcTime then return .utc (← Reader.lift (utcTimeOf? content))
  else
    guard (tag = Tag.generalizedTime)
    return .generalized (← Reader.lift (generalizedTimeOf? content))

def encode : Time → Bytes
  | .utc s => element Tag.utcTime (utcTimeContent s)
  | .generalized s => element Tag.generalizedTime (generalizedTimeContent s)

end Time

namespace Extension

def read : Reader Extension := Reader.sequence do
  let id ← Reader.objectId
  let critical ← Reader.optional Tag.boolean Reader.boolean
  return ⟨id, critical.getD false, ← Reader.octetString⟩

def encode (e : Extension) : Bytes :=
  Der.sequence [oidElement e.id, booleanFlag e.critical, element Tag.octetString e.value]

end Extension

def maxSerialLength : Nat := 21

def readSerial : Reader Bytes := do
  let serial ← Reader.lift (signedOf? (← Reader.content Tag.integer))
  guard (serial.length ≤ maxSerialLength)
  return serial

/-- Versions are numbered from zero; the third is the last. -/
def readVersion : Reader Nat := do
  let version ← Reader.unsignedInteger 1
  guard (version ≤ 2)
  return version

namespace Body

def read : Reader Body := Reader.sequence do
  let version ← Reader.explicitField 0 readVersion
  let serial ← readSerial
  let signature ← Algorithm.read
  let issuer ← Name.read
  let (notBefore, notAfter) ← Reader.sequence do return (← Time.read, ← Time.read)
  let subject ← Name.read
  let publicKey ← PublicKey.read
  let issuerUniqueId ← Reader.implicitField (Tag.context 1) bitStringOf?
  let subjectUniqueId ← Reader.implicitField (Tag.context 2) bitStringOf?
  let extensions ← Reader.explicitField 3 (Reader.sequenceOf Extension.read)
  return ⟨version.getD 0, serial, signature, issuer, notBefore, notAfter, subject, publicKey,
    issuerUniqueId, subjectUniqueId, extensions⟩

def encodeField (number : UInt8) (id : Option BitString) : Bytes :=
  (id.map fun bits => element (Tag.context number) bits.content).getD []

/-- A version that is the default is left out. -/
def encode (b : Body) : Bytes :=
  Der.sequence
    [ if b.version = 0 then [] else element (Tag.contextHolder 0) (element Tag.integer (unsigned b.version)),
      element Tag.integer b.serial,
      b.signature.encode,
      b.issuer.encode,
      Der.sequence [b.notBefore.encode, b.notAfter.encode],
      b.subject.encode,
      b.publicKey.encode,
      encodeField 1 b.issuerUniqueId,
      encodeField 2 b.subjectUniqueId,
      (b.extensions.map fun es =>
        element (Tag.contextHolder 3) (Der.sequence (es.map Extension.encode))).getD [] ]

/-- The body without the embedded timestamps. A list of extensions that held nothing else is left
out. -/
def withoutScts (b : Body) : Body :=
  let kept := (b.extensions.getD []).filter (·.id != .embeddedSctList)
  { b with extensions := if kept.isEmpty then none else some kept }

end Body

namespace Certificate

def read : Reader Certificate := Reader.sequence do
  let body ← Body.read
  let algorithm ← Algorithm.read
  return ⟨body, algorithm, ← Reader.bitString⟩

def encode (c : Certificate) : Bytes :=
  Der.sequence [c.body.encode, c.algorithm.encode, element Tag.bitString c.signature.content]

end Certificate
end ChainTrust.X509
