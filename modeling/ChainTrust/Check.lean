namespace ChainTrust

/-- Checks of the leaf come first, then checks of the path, the last of which are part of every
evaluation. -/
inductive Check where
  | sslHostname | email | subjectCommonName | subjectCommonNameStart | subjectCommonNameTest
  | subjectOrganization | subjectOrganizationalUnit | extendedKeyUsage | keyUsage | notValidBefore
  | eapTrustedServerNames | leafMarkerOid | leafMarkerOidWithoutValueCheck | leafMarkersProdAndQa
  | blackListedLeaf | grayListedLeaf | pinningRequired | notCa | leafSpkiSha256
  | validityPeriodMaximums | nonEmptySubject
  | issuerCommonName | intermediateMarkerOid | intermediateSpkiSha256 | intermediateEku
  | intermediateOrganization | intermediateCountry | caSpkiSha256 | anchorSha1 | anchorSha256
  | chainLength | keySize | weakKeySize | weakSignature | signatureHashAlgorithms
  | systemTrustedWeakHash | systemTrustedWeakKey | certificatePolicy | revocation
  | revocationResponseRequired | extendedValidation
  | ctRequired | basicCertificateProcessing | idLinkage | validLeaf | validIntermediates | validRoot
  | anchorTrusted | weakLeaf | weakIntermediates | nameConstraints | basicConstraints
  | basicConstraintsCa | criticalExtensions | blackListedKey | grayListedKey | usageConstraints
deriving DecidableEq, Repr

namespace Check

def ofLeaf : List Check :=
  [ .sslHostname, .email, .subjectCommonName, .subjectCommonNameStart, .subjectCommonNameTest,
    .subjectOrganization, .subjectOrganizationalUnit, .extendedKeyUsage, .keyUsage, .notValidBefore,
    .eapTrustedServerNames, .leafMarkerOid, .leafMarkerOidWithoutValueCheck, .leafMarkersProdAndQa,
    .blackListedLeaf, .grayListedLeaf, .pinningRequired, .notCa, .leafSpkiSha256,
    .validityPeriodMaximums, .nonEmptySubject ]

def ofPath : List Check :=
  [ .issuerCommonName, .intermediateMarkerOid, .intermediateSpkiSha256, .intermediateEku,
    .intermediateOrganization, .intermediateCountry, .caSpkiSha256, .anchorSha1, .anchorSha256,
    .chainLength, .keySize, .weakKeySize, .weakSignature, .signatureHashAlgorithms,
    .systemTrustedWeakHash, .systemTrustedWeakKey, .certificatePolicy, .revocation,
    .revocationResponseRequired, .extendedValidation ]

def always : List Check :=
  [ .ctRequired, .basicCertificateProcessing, .idLinkage, .validLeaf, .validIntermediates,
    .validRoot, .anchorTrusted, .weakLeaf, .weakIntermediates, .nameConstraints, .basicConstraints,
    .basicConstraintsCa, .criticalExtensions, .blackListedKey, .grayListedKey, .usageConstraints ]

/-- The place of a check among all checks. -/
def rank (c : Check) : Nat :=
  c.ctorIdx

def all : List Check :=
  ofLeaf ++ ofPath ++ always

def text : Check → String
  | .sslHostname => "SSLHostname"
  | .email => "Email"
  | .subjectCommonName => "SubjectCommonName"
  | .subjectCommonNameStart => "SubjectCommonNamePrefix"
  | .subjectCommonNameTest => "SubjectCommonNameTEST"
  | .subjectOrganization => "SubjectOrganization"
  | .subjectOrganizationalUnit => "SubjectOrganizationalUnit"
  | .extendedKeyUsage => "ExtendedKeyUsage"
  | .keyUsage => "KeyUsage"
  | .notValidBefore => "NotValidBefore"
  | .eapTrustedServerNames => "EAPTrustedServerNames"
  | .leafMarkerOid => "LeafMarkerOid"
  | .leafMarkerOidWithoutValueCheck => "LeafMarkerOidWithoutValueCheck"
  | .leafMarkersProdAndQa => "LeafMarkersProdAndQA"
  | .blackListedLeaf => "BlackListedLeaf"
  | .grayListedLeaf => "GrayListedLeaf"
  | .pinningRequired => "PinningRequired"
  | .notCa => "NotCA"
  | .leafSpkiSha256 => "LeafSPKISHA256"
  | .validityPeriodMaximums => "ValidityPeriodMaximums"
  | .nonEmptySubject => "NonEmptySubject"
  | .issuerCommonName => "IssuerCommonName"
  | .intermediateMarkerOid => "IntermediateMarkerOid"
  | .intermediateSpkiSha256 => "IntermediateSPKISHA256"
  | .intermediateEku => "IntermediateEKU"
  | .intermediateOrganization => "IntermediateOrganization"
  | .intermediateCountry => "IntermediateCountry"
  | .caSpkiSha256 => "CAspkiSHA256"
  | .anchorSha1 => "AnchorSHA1"
  | .anchorSha256 => "AnchorSHA256"
  | .chainLength => "ChainLength"
  | .keySize => "KeySize"
  | .weakKeySize => "WeakKeySize"
  | .weakSignature => "WeakSignature"
  | .signatureHashAlgorithms => "SignatureHashAlgorithms"
  | .systemTrustedWeakHash => "SystemTrustedWeakHash"
  | .systemTrustedWeakKey => "SystemTrustedWeakKey"
  | .certificatePolicy => "CertificatePolicy"
  | .revocation => "Revocation"
  | .revocationResponseRequired => "RevocationResponseRequired"
  | .extendedValidation => "ExtendedValidation"
  | .ctRequired => "CTRequired"
  | .basicCertificateProcessing => "BasicCertificateProcessing"
  | .idLinkage => "IdLinkage"
  | .validLeaf => "ValidLeaf"
  | .validIntermediates => "ValidIntermediates"
  | .validRoot => "ValidRoot"
  | .anchorTrusted => "AnchorTrusted"
  | .weakLeaf => "WeakLeaf"
  | .weakIntermediates => "WeakIntermediates"
  | .nameConstraints => "NameConstraints"
  | .basicConstraints => "BasicConstraints"
  | .basicConstraintsCa => "BasicConstraintsCA"
  | .criticalExtensions => "CriticalExtensions"
  | .blackListedKey => "BlackListedKey"
  | .grayListedKey => "GrayListedKey"
  | .usageConstraints => "UsageConstraints"

def ofText? (s : String) : Option Check :=
  all.find? fun c => c.text == s

/-- Status codes of an expired certificate, and of one that is not yet valid. -/
def expiredCode : Int := -2147409654
def notYetValidCode : Int := -2147409653

def notTrustedCode : Int := -2147409622
def hostMismatchCode : Int := -2147408896
def emailNotFoundCode : Int := -2147408872

/-- The status codes that a usage constraint may allow in order to waive a check. -/
def waiverCodes : Check → List Int
  | .validLeaf | .validIntermediates | .validRoot => [expiredCode, notYetValidCode]
  | .anchorTrusted => [notTrustedCode]
  | .sslHostname => [hostMismatchCode]
  | .email => [emailNotFoundCode]
  | _ => []

end Check

inductive CheckName where
  | known (check : Check)
  | other (name : String)
deriving DecidableEq, Repr

namespace CheckName

def text : CheckName → String
  | .known c => c.text
  | .other s => s

def ofText (s : String) : CheckName :=
  match Check.ofText? s with
  | some c => .known c
  | none => .other s

def isKnown : CheckName → Bool
  | .known _ => true
  | .other _ => false

def waiverCodes : CheckName → List Int
  | .known c => c.waiverCodes
  | .other _ => []

/-- Checks come in their own order, before other names in the order of text. -/
instance : Ord CheckName where
  compare
    | .known a, .known b => compare a.rank b.rank
    | .known _, .other _ => .lt
    | .other _, .known _ => .gt
    | .other a, .other b => compare a b

end CheckName
end ChainTrust
