import ChainTrust.Certificate.Facts
import ChainTrust.Policy

namespace ChainTrust.Policy

/-- Processing of a path as the public key infrastructure demands it of everyone, and lookups of
blocked keys. -/
def basicChecks : List Check :=
  [ .basicCertificateProcessing, .criticalExtensions, .idLinkage, .basicConstraints,
    .basicConstraintsCa, .nameConstraints, .validLeaf, .validIntermediates, .validRoot, .weakLeaf,
    .weakIntermediates, .blackListedKey, .grayListedKey, .usageConstraints, .nonEmptySubject ]

/-- The policy that requests each check of a list and nothing else. -/
def requesting (name oid : String) (checks : List Check) : Policy :=
  checks.foldl (fun p check => p.withOption check (.bool true)) ⟨name, oid, []⟩

/-- The basic checks for one extended key usage, whose identifier is also that of the policy. -/
def forUsage (name oid : String) : Policy :=
  (requesting name oid basicChecks).withOption .extendedKeyUsage (.array [.text oid])

def withText (p : Policy) (check : Check) (value : Option String) : Policy :=
  match value with
  | some s => p.withOption check (.text s)
  | none => p

def basic : Policy :=
  requesting "basicX509" "2.5.29.37.0" basicChecks

def sslServerName : String := "sslServer"
def sslClientName : String := "sslClient"
def smimeName : String := "SMIME"

/-- A policy for servers, bound to a host name if there is one. -/
def sslServer (host : Option String) : Policy :=
  ([.blackListedLeaf, .grayListedLeaf, .systemTrustedWeakHash, .systemTrustedWeakKey].foldl
    (fun p check => p.withOption check (.bool true))
    (forUsage sslServerName "1.3.6.1.5.5.7.3.1")).withText .sslHostname host

def sslClient : Policy :=
  forUsage sslClientName "1.3.6.1.5.5.7.3.2"

/-- A policy for mail, bound to an address if there is one. -/
def smime (address : Option String) : Policy :=
  (forUsage smimeName "1.3.6.1.5.5.7.3.4").withText .email address

def ocspSigner : Policy :=
  (forUsage "OCSPSigner" "1.3.6.1.5.5.7.3.9").withOption .keyUsage
    (.integer (Int64.ofNat KeyUsage.digitalSignature.toNat))

/-- The policy of a name, bound to a host name or an address if it takes one. -/
def preset (name : String) (value : Option String) : Result Policy :=
  match name with
  | "sslServer" => .ok (sslServer value)
  | "sslClient" => .ok sslClient
  | "SMIME" => .ok (smime value)
  | "OCSPSigner" => .ok ocspSigner
  | "basicX509" => .ok basic
  | "EV" => .ok ((sslServer value).withOption .extendedValidation (.bool true))
  | _ => .error (.invalidOption ("unknown policy preset: " ++ name))

end ChainTrust.Policy
