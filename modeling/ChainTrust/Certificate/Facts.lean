import ChainTrust.Digest
import ChainTrust.GeneralName
import ChainTrust.Name.Matching

namespace ChainTrust

inductive KeyAlgorithm where
  | rsa
  | ec
  | other
deriving DecidableEq, Repr

/-- The digest that the signature on a certificate uses. -/
inductive SignatureHash where
  | md2 | md4 | md5 | sha1 | sha224 | sha256 | sha384 | sha512
  | unknown
deriving DecidableEq, Repr

namespace SignatureHash

def rows : List (Oid × SignatureHash) :=
  [ (.md2WithRsa, .md2), (.md4WithRsa, .md4), (.md5WithRsa, .md5),
    (.sha1WithRsa, .sha1), (.ecdsaWithSha1, .sha1),
    (.sha224WithRsa, .sha224), (.ecdsaWithSha224, .sha224),
    (.sha256WithRsa, .sha256), (.ecdsaWithSha256, .sha256),
    (.sha384WithRsa, .sha384), (.ecdsaWithSha384, .sha384),
    (.sha512WithRsa, .sha512), (.ecdsaWithSha512, .sha512) ]

def ofAlgorithm (algorithm : Oid) : SignatureHash :=
  (rows.lookup algorithm).getD .unknown

def name : SignatureHash → String
  | .md2 => "MD2"
  | .md4 => "MD4"
  | .md5 => "MD5"
  | .sha1 => "SHA1"
  | .sha224 => "SHA224"
  | .sha256 => "SHA256"
  | .sha384 => "SHA384"
  | .sha512 => "SHA512"
  | .unknown => "Unknown"

/-- Digests for which collisions take no effort. -/
def isBroken (h : SignatureHash) : Bool :=
  h == .md2 || h == .md4 || h == .md5

end SignatureHash

structure BasicConstraints where
  isCa : Bool
  pathLength : Option Nat
deriving DecidableEq, Repr

/-- Bits of the key usage extension. -/
structure KeyUsage where
  bits : UInt32
deriving DecidableEq, Repr

namespace KeyUsage

def digitalSignature : UInt32 := 1
def keyEncipherment : UInt32 := 4
def dataEncipherment : UInt32 := 8
def keyAgreement : UInt32 := 16
def certSign : UInt32 := 32
def crlSign : UInt32 := 64

/-- All bits of a mask are set. -/
def permits (usage : KeyUsage) (mask : UInt32) : Bool :=
  usage.bits &&& mask == mask

end KeyUsage

/-- Times are seconds of Unix time. -/
structure Facts where
  notBefore : UInt64
  notAfter : UInt64
  version : Nat
  serial : Bytes
  subject : Name
  issuer : Name
  altNames : Option (List GeneralName)
  altNamesCritical : Bool
  keyUsage : Option KeyUsage
  extendedKeyUsage : Option (List Oid)
  basicConstraints : Option BasicConstraints
  nameConstraints : Option NameConstraints
  policies : Option (List Oid)
  hasCrlPoints : Bool
  subjectKeyId : Option Bytes
  authorityKeyId : Option Bytes
  unknownCritical : Bool
  /-- Extension values in the order of the certificate. -/
  extensions : List (Oid × Bytes)
  keyAlgorithm : KeyAlgorithm
  keySize : UInt64
  signatureHash : SignatureHash
  sha1 : Bytes
  sha256 : Bytes
  keySha1 : Bytes
  spkiSha256 : Bytes
  sctList : Option Bytes
  /-- The part that is signed, without the embedded timestamps. -/
  precertificate : Option Bytes
  encoded : Bytes
deriving DecidableEq, Repr

namespace Facts

def isSelfIssued (c : Facts) : Bool :=
  c.issuer.sameAs c.subject

def isCa (c : Facts) : Bool :=
  c.basicConstraints.any (·.isCa)

def pathLength (c : Facts) : Option Nat :=
  c.basicConstraints.bind (·.pathLength)

def isValidAt (c : Facts) (time : UInt64) : Bool :=
  c.notBefore ≤ time && time ≤ c.notAfter

/-- The value of the first extension with an identifier. -/
def extension? (c : Facts) (id : Oid) : Option Bytes :=
  c.extensions.lookup id

/-- Keys of unknown algorithms are weak whatever their size. -/
def hasWeakKey (c : Facts) : Bool :=
  match c.keyAlgorithm with
  | .rsa => c.keySize < 1024
  | .ec => c.keySize < 224
  | .other => true

def hasKeyOfAtLeast (c : Facts) (rsa ec : UInt64) : Bool :=
  match c.keyAlgorithm with
  | .rsa => rsa ≤ c.keySize
  | .ec => ec ≤ c.keySize
  | .other => false

def hasWeakHash (c : Facts) : Bool :=
  c.signatureHash.isBroken

def commonNames (c : Facts) : List String := c.subject.values .commonName
def organizations (c : Facts) : List String := c.subject.values .organizationName
def organizationalUnits (c : Facts) : List String := c.subject.values .organizationalUnitName
def countries (c : Facts) : List String := c.subject.values .countryName

def dnsNames (c : Facts) : List String :=
  (c.altNames.getD []).filterMap fun
    | .dns host => some host
    | _ => none

/-- Alternative names come before the attributes of the subject. -/
def emailAddresses (c : Facts) : List String :=
  ((c.altNames.getD []).filterMap fun
    | .email address => some address
    | _ => none) ++ c.subject.values .emailAddress

def ipAddresses (c : Facts) : List Bytes :=
  (c.altNames.getD []).filterMap fun
    | .ip address => some address
    | _ => none

end Facts
end ChainTrust
