import ChainTrust.Certificate.Facts
import ChainTrust.Certificate.X509
import ChainTrust.Text.Pem

namespace ChainTrust

open Der X509

/-- Extensions whose meaning an evaluation takes into account, or may ignore. -/
def processedExtensions : List Oid :=
  [ .subjectKeyIdentifier, .keyUsage, .subjectAltName, .issuerAltName, .basicConstraints,
    .nameConstraints, .crlDistributionPoints, .certificatePolicies, .policyMappings,
    .authorityKeyIdentifier, .policyConstraints, .extendedKeyUsage, .inhibitAnyPolicy ]

namespace X509

def maskOfBits : List Bool → Nat
  | [] => 0
  | b :: rest => (if b then 1 else 0) + 2 * maskOfBits rest

/-- At most sixteen bits are read, of which nine have a meaning. -/
def readKeyUsage : Reader KeyUsage := do
  let bits := (← Reader.bitString).bits
  guard (bits.length ≤ 16)
  return ⟨UInt32.ofNat (maskOfBits bits % 512)⟩

def readBasicConstraints : Reader BasicConstraints := Reader.sequence do
  let isCa ← Reader.optional Tag.boolean Reader.boolean
  let pathLength ← Reader.optional Tag.integer (Reader.unsignedInteger 1)
  return ⟨isCa.getD false, pathLength⟩

def readQualifier : Reader Unit := Reader.sequence do
  let _ ← Reader.objectId
  if (← Reader.peek).isSome then let _ ← Reader.anyElement

def readPolicy : Reader Oid := Reader.sequence do
  let id ← Reader.objectId
  let _ ← Reader.optional Tag.sequence (Reader.sequenceOf readQualifier)
  return id

/-- The key identifier, if the extension has one. -/
def readAuthorityKeyId : Reader (Option Bytes) := Reader.sequence do
  let id ← Reader.implicitField (Tag.context 0) some
  let _ ← Reader.implicitField (Tag.contextHolder 1) (Reader.items GeneralName.read)
  let _ ← Reader.implicitField (Tag.context 2) fun c =>
    (signedOf? c).filter (·.length ≤ maxSerialLength)
  return id

/-- Bits of a modulus, whose bytes begin with a nonzero one unless it is zero. -/
def bitLength : Bytes → Nat
  | [] => 0
  | b :: rest => 8 * rest.length + (if b = 0 then 0 else b.toNat.log2 + 1)

def readRsaKey : Reader (Bytes × Bytes) := Reader.sequence do
  let modulus ← Reader.magnitude
  return (modulus, ← Reader.magnitude)

/-- Field sizes of the named curves. -/
def curveSizes : List (Oid × UInt64) :=
  [(.secp224r1, 224), (.secp256r1, 256), (.secp384r1, 384), (.secp521r1, 521)]

/-- The family of a key and its size in bits. -/
def PublicKey.size (k : PublicKey) : Result (KeyAlgorithm × UInt64) :=
  if k.algorithm.id = .rsaEncryption then
    match Reader.all readRsaKey k.key.bytes with
    | some (modulus, _) => .ok (.rsa, UInt64.ofNat (bitLength modulus))
    | none => .error .badStructure
  else if k.algorithm.id = .ecPublicKey then
    .ok (.ec, ((k.algorithm.parameterId?.bind fun id => curveSizes.lookup id).getD 0))
  else .ok (.other, 0)

end X509

namespace Facts

/-- The facts with one extension taken in, or nothing if its value cannot be read. -/
def extend? (f : Facts) (e : Extension) : Option Facts :=
  if e.id = .keyUsage then
    (Reader.all readKeyUsage e.value).map fun u => { f with keyUsage := some u }
  else if e.id = .extendedKeyUsage then
    (Reader.all (Reader.sequenceOf Reader.objectId) e.value).map fun ids =>
      { f with extendedKeyUsage := some ids }
  else if e.id = .subjectAltName then
    (Reader.all (Reader.sequenceOf GeneralName.read) e.value).map fun names =>
      { f with altNames := some names, altNamesCritical := e.critical }
  else if e.id = .basicConstraints then
    (Reader.all readBasicConstraints e.value).map fun bc => { f with basicConstraints := some bc }
  else if e.id = .nameConstraints then
    (Reader.all NameConstraints.read e.value).map fun nc => { f with nameConstraints := some nc }
  else if e.id = .certificatePolicies then
    (Reader.all (Reader.sequenceOf readPolicy) e.value).map fun ids => { f with policies := some ids }
  else if e.id = .crlDistributionPoints then
    some { f with hasCrlPoints := true }
  else if e.id = .subjectKeyIdentifier then
    (Reader.all Reader.octetString e.value).map fun id => { f with subjectKeyId := some id }
  else if e.id = .authorityKeyIdentifier then
    (Reader.all readAuthorityKeyId e.value).map fun id => { f with authorityKeyId := id }
  else if e.id = .embeddedSctList then
    (Reader.all Reader.octetString e.value).map fun list => { f with sctList := some list }
  else if e.critical && !processedExtensions.contains e.id then
    some { f with unknownCritical := true }
  else some f

/-- An extension that cannot be read counts as absent, and as unknown if it is critical. -/
def extend (f : Facts) (e : Extension) : Facts :=
  (f.extend? e).getD (if e.critical then { f with unknownCritical := true } else f)

/-- The facts of a certificate that is already read, apart from its extensions. -/
def withoutExtensions (encoded : Bytes) (c : Certificate) (key : KeyAlgorithm × UInt64) : Facts where
  notBefore := c.body.notBefore.seconds
  notAfter := c.body.notAfter.seconds
  version := c.body.version + 1
  serial := c.body.serial
  subject := c.body.subject
  issuer := c.body.issuer
  altNames := none
  altNamesCritical := false
  keyUsage := none
  extendedKeyUsage := none
  basicConstraints := none
  nameConstraints := none
  policies := none
  hasCrlPoints := false
  subjectKeyId := none
  authorityKeyId := none
  unknownCritical := false
  extensions := (c.body.extensions.getD []).map fun e => (e.id, e.value)
  keyAlgorithm := key.1
  keySize := key.2
  signatureHash := .ofAlgorithm c.algorithm.id
  sha1 := ChainTrust.sha1 encoded
  sha256 := ChainTrust.sha256 encoded
  keySha1 := ChainTrust.sha1 c.body.publicKey.key.bytes
  spkiSha256 := ChainTrust.sha256 c.body.publicKey.encode
  sctList := none
  precertificate := some c.body.withoutScts.encode
  encoded := encoded

def ofCertificate (encoded : Bytes) (c : Certificate) : Result Facts := do
  let key ← c.body.publicKey.size
  return (c.body.extensions.getD []).foldl extend (withoutExtensions encoded c key)

def ofDer (der : Bytes) : Result Facts :=
  match Reader.all Certificate.read der with
  | some c => ofCertificate der c
  | none => .error .badDer

def pemLabel : Bytes := Utf8.ofText "CERTIFICATE"

/-- What follows the certificate inside the armour is ignored. -/
def ofPem (text : Bytes) : Result Facts :=
  match Pem.decode? text with
  | some block =>
    match Certificate.read block.content with
    | some (c, _) => if block.label = pemLabel then ofCertificate c.encode c else .error .badDer
    | none => .error .badDer
  | none => .error .badDer

end Facts
end ChainTrust
