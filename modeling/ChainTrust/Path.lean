import ChainTrust.Anchor

namespace ChainTrust

structure Path where
  certificates : List Facts
  /-- The last certificate is an anchor. -/
  isAnchored : Bool
  /-- Usage constraints of each certificate. -/
  constraints : List (List Constraint)
  stores : List (Option AnchorStore)
  /-- Revocation processing restored trust in an anchor or a key. -/
  isAllowlisted : Bool
  /-- The next two facts have been determined. -/
  isValidated : Bool
  isEv : Bool
  isCt : Bool
  builderScts : List Bytes
  ocspResponses : List Bytes

namespace Path

def ofCertificates (certificates : List Facts) : Path where
  certificates := certificates
  isAnchored := false
  constraints := certificates.map fun _ => []
  stores := certificates.map fun _ => none
  isAllowlisted := false
  isValidated := false
  isEv := false
  isCt := false
  builderScts := []
  ocspResponses := []

def length (p : Path) : Nat :=
  p.certificates.length

def certificate? (p : Path) (ix : Nat) : Option Facts :=
  p.certificates[ix]?

def leaf? (p : Path) : Option Facts :=
  p.certificates.head?

def root? (p : Path) : Option Facts :=
  p.certificates.getLast?

def constraintsAt (p : Path) (ix : Nat) : List Constraint :=
  (p.constraints[ix]?).getD []

def storeAt (p : Path) (ix : Nat) : Option AnchorStore :=
  (p.stores[ix]?).join

/-- How many certificates, from the leaf on, are not the anchor. -/
def nonAnchorCount (p : Path) : Nat :=
  if p.isAnchored then p.length - 1 else p.length

/-- The certificates with their places. -/
def places (p : Path) : List (Facts × Nat) :=
  p.certificates.zipIdx

/-- The source recognizes a certificate that no source before it did. -/
def isNewAnchor (p : Path) (s : AnchorSource) (c : Facts) (ix : Nat) : Bool :=
  (p.storeAt ix).isNone && s.isAnchor c

/-- Takes in what a source knows. The path is anchored if it recognizes the last certificate. -/
def applySource (p : Path) (s : AnchorSource) : Path :=
  { p with
    constraints := p.places.map fun (c, ix) =>
      if p.isNewAnchor s c ix then s.constraints c else p.constraintsAt ix
    stores := p.places.map fun (c, ix) => if p.isNewAnchor s c ix then s.store c else p.storeAt ix
    isAnchored := p.isAnchored || p.root?.any fun c => p.isNewAnchor s c (p.length - 1) }

end Path
end ChainTrust
