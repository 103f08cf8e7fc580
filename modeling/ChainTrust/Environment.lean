import ChainTrust.Certificate.OfDer
import ChainTrust.Path
import ChainTrust.Signature
import ChainTrust.Uri.Host

namespace ChainTrust

structure TrustedLog where
  /-- The encoding of the log's public key. -/
  key : Bytes
  /-- The second at which the log stops being qualified. -/
  expiry : Option UInt64
deriving DecidableEq, Repr

def TrustedLog.id (log : TrustedLog) : Bytes :=
  sha256 log.key

/-- A digest takes an algorithm and a message. -/
abbrev DigestProvider := Oid → Bytes → Result Bytes

/-- A verification takes an algorithm, a key, a message and a signature. -/
abbrev SignatureVerifier := Oid → X509.PublicKey → Bytes → Bytes → Result Unit

structure Environment where
  digests : List DigestProvider
  verifiers : List SignatureVerifier
  requirements : List (String → Bool)
  anchorSources : List AnchorSource
  /-- SHA-1 digests of keys. -/
  blockedKeys : List Bytes
  graylistedKeys : List Bytes
  /-- SHA-256 digests of roots whose newer certificates are rejected. -/
  distrustedRoots : List Bytes
  /-- Policies and SHA-1 digests of the roots that are recognized for each. -/
  evAnchors : List (Oid × Bytes)
  trustedLogs : List TrustedLog
  /-- The host of a URI, if it has one. -/
  hostOf : String → Option String

namespace Environment

def empty : Environment :=
  ⟨[], [], [], [], [], [], [], [], [], Uri.host?⟩

/-- The environment with the digests and signatures of this library. -/
def standard : Environment :=
  { empty with digests := [Digest.byOid], verifiers := [Signature.verify] }

def withoutProviders (env : Environment) : Environment :=
  { env with digests := [], verifiers := [], requirements := [], anchorSources := [] }

def firstOk? {α : Type} : List (Result α) → Option α
  | [] => none
  | .ok a :: _ => some a
  | .error _ :: rest => firstOk? rest

/-- The first digest that a provider is able to give. -/
def digest (env : Environment) (algorithm : Oid) (message : Bytes) : Result Bytes :=
  match firstOk? (env.digests.map fun f => f algorithm message) with
  | some d => .ok d
  | none => .error .unrecognized

/-- One verifier has to accept the signature. -/
def verify (env : Environment) (algorithm : Oid) (key : X509.PublicKey) (message signature : Bytes) :
    Result Unit :=
  match firstOk? (env.verifiers.map fun f => f algorithm key message signature) with
  | some () => .ok ()
  | none => .error .signatureMismatch

def meetsRequirement (env : Environment) (requirement : String) : Bool :=
  env.requirements.any (· requirement)

def isBlockedKey (env : Environment) (keySha1 : Bytes) : Bool :=
  env.blockedKeys.contains keySha1

def isGraylistedKey (env : Environment) (keySha1 : Bytes) : Bool :=
  env.graylistedKeys.contains keySha1

def isDistrustedRoot (env : Environment) (sha256 : Bytes) : Bool :=
  env.distrustedRoots.contains sha256

def isEvAnchor (env : Environment) (policy : Oid) (sha1 : Bytes) : Bool :=
  env.evAnchors.contains (policy, sha1)

def applySources (env : Environment) (path : Path) : Path :=
  env.anchorSources.foldl Path.applySource path

end Environment
end ChainTrust
