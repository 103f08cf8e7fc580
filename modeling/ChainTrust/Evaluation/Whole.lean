import ChainTrust.Evaluation.Leaf

namespace ChainTrust

namespace Path

def issuer? (p : Path) : Option Facts :=
  p.certificate? 1

/-- Where a failure of the issuer is noted. -/
def issuerPlace (p : Path) : Nat :=
  if 1 < p.length then 1 else 0

def isAnchoredInSystem (p : Path) : Bool :=
  p.isAnchored && p.storeAt (p.length - 1) == some .system

/-- The certificates that are not the anchor, with their places. -/
def belowAnchor (p : Path) : List (Facts × Nat) :=
  p.places.take p.nonAnchorCount

/-- The authorities of a path, the last of which may be left out. -/
def authorities (p : Path) (withLast : Bool) : List Facts :=
  (if withLast then p.certificates else p.certificates.dropLast).drop 1

end Path

namespace PathCheck

/-- The places among some certificates where a test fails. -/
def placesOf (places : List (Facts × Nat)) (failing : Facts → Bool) : List Nat :=
  (places.filter fun (c, _) => failing c).map (·.2)

def placeIf (fails : Bool) (ix : Nat) : List Nat :=
  if fails then [ix] else []

def issuerValueFails (p : Path) (v : OptionValue) (values : Facts → List String) : Bool :=
  v.texts?.any fun wanted => !p.issuer?.any fun c => (values c).any wanted.contains

def issuerMarkerFails (p : Path) (v : OptionValue) : Bool :=
  !v.oids.isEmpty && !p.issuer?.any fun c => c.hasMarker v.oids true

def issuerUsageFails (p : Path) (v : OptionValue) : Bool :=
  !v.oids.isEmpty && !p.issuer?.any fun c => v.oids.any (c.extendedKeyUsage.getD []).contains

def keyDigestFails (certificates : List Facts) (v : OptionValue) : Bool :=
  !v.digests.isEmpty && !certificates.any fun c => v.digests.contains c.spkiSha256

def anchorDigestFails (p : Path) (v : OptionValue) (digest : Facts → Bytes) : Bool :=
  p.root?.any fun root => !v.digests.isEmpty && !v.digests.contains (digest root)

/-- The least sizes by algorithm, if the value is a dictionary of nothing but integers. -/
def leastSizes? (v : OptionValue) : Option (List (String × Int64)) := do
  (← v.dictionary?).mapM fun (name, size) => size.integer?.map (name, ·)

def sizeName : KeyAlgorithm → String
  | .rsa => "RSA"
  | .ec => "EC"
  | .other => ""

/-- A key whose algorithm has no least size is too small. -/
def isTooSmall (sizes : List (String × Int64)) (c : Facts) : Bool :=
  !(Entries.get? (sizeName c.keyAlgorithm) sizes).any (· ≤ c.keySize.toInt64)

def isForeignHash (allowed : List String) (c : Facts) : Bool :=
  !allowed.any (Text.sameAsciiCase · c.signatureHash.name)

def isWeakForSystem (c : Facts) : Bool :=
  c.signatureHash.isBroken || c.signatureHash == .sha1

def policyFails (p : Path) (v : OptionValue) : Bool :=
  (v.text?.bind Oid.ofText?).any fun wanted =>
    !p.leaf?.any fun leaf => (leaf.policies.getD []).contains wanted

/-- The places where a path fails a check, given the value of the option that requests it. -/
def failures (p : Path) (v : OptionValue) : Check → List Nat
  | .issuerCommonName => placeIf (issuerValueFails p v (·.commonNames)) p.issuerPlace
  | .intermediateOrganization => placeIf (issuerValueFails p v (·.organizations)) p.issuerPlace
  | .intermediateCountry => placeIf (issuerValueFails p v (·.countries)) p.issuerPlace
  | .intermediateMarkerOid => placeIf (issuerMarkerFails p v) p.issuerPlace
  | .intermediateEku => placeIf (issuerUsageFails p v) p.issuerPlace
  | .intermediateSpkiSha256 => placeIf (keyDigestFails (p.authorities false) v) p.issuerPlace
  | .caSpkiSha256 => placeIf (keyDigestFails (p.authorities true) v) p.issuerPlace
  | .anchorSha1 => placeIf (anchorDigestFails p v (·.sha1)) (p.length - 1)
  | .anchorSha256 => placeIf (anchorDigestFails p v (·.sha256)) (p.length - 1)
  | .chainLength => placeIf (v.integer?.any (· != Int64.ofNat p.length)) 0
  | .keySize =>
    match leastSizes? v with
    | some sizes => placesOf p.places (isTooSmall sizes)
    | none => []
  | .weakKeySize => placesOf p.places (·.hasWeakKey)
  | .weakSignature => placesOf p.belowAnchor (·.hasWeakHash)
  | .signatureHashAlgorithms =>
    match v.texts? with
    | some allowed => placesOf p.belowAnchor (isForeignHash allowed)
    | none => []
  | .systemTrustedWeakHash =>
    if p.isAnchoredInSystem then placesOf p.belowAnchor isWeakForSystem else []
  | .systemTrustedWeakKey =>
    if p.isAnchoredInSystem then placesOf p.places fun c => !c.hasKeyOfAtLeast 2048 224 else []
  | .certificatePolicy => placeIf (policyFails p v) 0
  | _ => []

def positiveResponse : String := "RequirePositiveResponse"

/-- A policy demands a positive response about the revocation of each certificate. -/
def demandsResponses (p : Policy) : Bool :=
  p.text? .revocation == some positiveResponse || p.requests .revocationResponseRequired

end PathCheck
end ChainTrust
