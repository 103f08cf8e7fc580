import ChainTrust.Certificate.OfDer
import ChainTrust.Host
import ChainTrust.Host.Address
import ChainTrust.Request
import ChainTrust.Word

namespace ChainTrust

namespace OptionValue

/-- The object identifiers among the texts of a value. -/
def oids (v : OptionValue) : List Oid :=
  (v.texts?.getD []).filterMap Oid.ofText?

/-- The digests among the texts of a value. -/
def digests (v : OptionValue) : List Bytes :=
  (v.texts?.getD []).filterMap fun s => (Hex.decode s).toOption

end OptionValue

namespace Facts

/-- An extension with one of the identifiers is there, with no content or a null if it matters. -/
def hasMarker (c : Facts) (oids : List Oid) (emptyOnly : Bool) : Bool :=
  oids.any fun oid => (c.extension? oid).any fun value =>
    !emptyOnly || value.isEmpty || value == [0x05, 0x00]

/-- The host names that a certificate is for: common names count only without others. -/
def hostNames (c : Facts) : List String :=
  if c.dnsNames.isEmpty then c.commonNames else c.dnsNames

def isForHost (c : Facts) (host : String) : Bool :=
  match Host.Address.ofHost? host with
  | some address => c.ipAddresses.contains address
  | none => c.hostNames.any (Host.isMatch · host)

end Facts

namespace BlockedLeaf

/-- The name of an authority that was made to issue certificates for names of others. -/
def issuer : Name :=
  [ (.countryName, "US"), (.stateName, "UT"), (.localityName, "Salt Lake City"),
    (.organizationName, "The USERTRUST Network"), (.organizationalUnitName, "http://www.usertrust.com"),
    (.commonName, "UTN-USERFirst-Hardware") ].map fun (type, text) =>
      [⟨type, Der.Tag.utf8String, Utf8.ofText text⟩]

def serials : List Nat :=
  [ 0x047ECBE9FCA55F7BD09EAE36E10CAE1E, 0xF5C86AF36162F13A64F54F6DC9587C06,
    0xD7558FDAF5F1105BB213282B707729A3, 0x392A434F0E07DF1F8AA305DE34E0C229,
    0x3E75CED46B693021218830AE86A82A71, 0xE9028B9578E415DC1A710A2B88154447,
    0xD8F35F4EB7872B2DAB0692E315382FB0, 0x9239D5348F40D1695A745470E1F23F43,
    0xB0B7133ED096F9B56FAE91C874BD3AC0 ]

/-- Zeros in front of a serial number do not count. -/
def matchesCertificate (c : Facts) : Bool :=
  issuer.sameAs c.issuer && (serials.map Bytes.ofNat).contains (Bytes.dropZeros c.serial)

end BlockedLeaf

namespace LeafCheck

def secondsPerDay : UInt64 := 86400

def subjectFails (values : List String) (v : OptionValue) (accepts : List Char → List Char → Bool) : Bool :=
  v.text?.any fun wanted => !values.any fun value => accepts value.toList wanted.toList

def usageFails (c : Facts) (v : OptionValue) : Bool :=
  match v.texts?, c.extendedKeyUsage with
  | some _, some usages =>
    !usages.contains .anyExtendedKeyUsage && !v.oids.any usages.contains
  | _, _ => false

/-- The masks among the integers of a value. -/
def masks (v : OptionValue) : List UInt32 :=
  (v.integers?.getD []).filterMap fun n =>
    if 0 ≤ n.toInt ∧ n.toInt < (UInt32.size : Int) then some n.toUInt64.toUInt32 else none

def keyUsageFails (c : Facts) (v : OptionValue) : Bool :=
  c.keyUsage.any fun usage => !(masks v).isEmpty && !(masks v).any usage.permits

def serverNamesFail (c : Facts) (v : OptionValue) : Bool :=
  v.texts?.any fun trusted => !trusted.isEmpty &&
    !c.hostNames.any fun name => trusted.any (Host.trustedMatches · name)

def markerFails (c : Facts) (v : OptionValue) (emptyOnly : Bool) : Bool :=
  !v.oids.isEmpty && !c.hasMarker v.oids emptyOnly

/-- Of a dictionary only one entry is looked at. -/
def markersFail (c : Facts) (v : OptionValue) : Bool :=
  (v.dictionary?.bind (Entries.get? "ProdMarker")).any fun marker => markerFails c marker true

def lifetimeFails (c : Facts) (v : OptionValue) : Bool :=
  v.integer?.any fun days => 0 ≤ days &&
    Word.times days.toUInt64 secondsPerDay < Word.minus c.notAfter c.notBefore

def isBlocked (r : Request) (c : Facts) : Bool :=
  BlockedLeaf.matchesCertificate c || r.environment.isBlockedKey c.keySha1

/-- Whether a leaf fails a check, given the value of the option that requests it. -/
def fails (r : Request) (c : Facts) (v : OptionValue) : Check → Bool
  | .sslHostname => v.text?.any fun host => !host.isEmpty && !c.isForHost host
  | .email => v.text?.any fun address =>
    !address.isEmpty && !c.emailAddresses.any (Text.sameAsciiCase · address)
  | .subjectCommonName => subjectFails c.commonNames v (· == ·)
  | .subjectCommonNameStart => subjectFails c.commonNames v fun value wanted => wanted.isPrefixOf value
  | .subjectCommonNameTest => subjectFails c.commonNames v fun value wanted =>
    value == wanted || value == "TEST ".toList ++ wanted
  | .subjectOrganization => subjectFails c.organizations v (· == ·)
  | .subjectOrganizationalUnit => subjectFails c.organizationalUnits v (· == ·)
  | .extendedKeyUsage => usageFails c v
  | .keyUsage => keyUsageFails c v
  | .notValidBefore => v.integer?.any (c.notBefore.toInt64 < ·)
  | .eapTrustedServerNames => serverNamesFail c v
  | .leafMarkerOid => markerFails c v true
  | .leafMarkerOidWithoutValueCheck => markerFails c v false
  | .leafMarkersProdAndQa => markersFail c v
  | .blackListedLeaf => isBlocked r c
  | .grayListedLeaf => r.environment.isGraylistedKey c.keySha1
  | .pinningRequired => r.policies.all fun p => p.name.isEmpty || p.name == "sslServer"
  | .notCa => c.isCa
  | .leafSpkiSha256 => !v.digests.isEmpty && !v.digests.contains c.spkiSha256
  | .validityPeriodMaximums => lifetimeFails c v
  | .nonEmptySubject => c.subject.isEmpty && !(c.altNames.isSome && c.altNamesCritical)
  | _ => false

end LeafCheck
end ChainTrust
