import ChainTrust.Request
import ChainTrust.Subtree.Set
import ChainTrust.Verdict

namespace ChainTrust

/-- What a part of an evaluation finds at a place of the path. -/
inductive Finding where
  /-- A failure that counts if something requests the check. -/
  | failed (check : Check) (ix : Nat)
  /-- A failure that counts in any case. -/
  | violated (check : Check) (ix : Nat)
  /-- A failure that cannot be waived. -/
  | fatal (check : Check) (ix : Nat)
  /-- An outcome that is at least this severe. -/
  | verdict (v : Verdict)
deriving DecidableEq, Repr

namespace Finding

def violatedIf (b : Bool) (check : Check) (ix : Nat) : List Finding :=
  if b then [.violated check ix] else []

end Finding

namespace Processing

/-- The identifiers of an issuer's key differ where both are given. -/
def isUnlinked (child parent : Facts) : Bool :=
  match child.authorityKeyId, parent.subjectKeyId with
  | some a, some b => a != b
  | _, _ => false

/-- From the top of the path down. -/
def linkage (p : Path) : List Finding :=
  ((p.places.zip (p.certificates.drop 1)).filter fun ((child, _), parent) =>
    isUnlinked child parent).reverse.map fun ((_, ix), _) => .failed .idLinkage ix

/-- What the authorities above a certificate allow below them. -/
structure Scope where
  permitted : SubtreeSet
  excluded : SubtreeSet
  /-- Further authorities that may follow, those that issue to themselves not counted. -/
  room : Nat

def Scope.initial (room : Nat) : Scope :=
  ⟨.initial, .initial, room⟩

/-- A subject and alternative names lie outside what is permitted, or inside what is excluded. -/
def Scope.forbids (s : Scope) (hostOf : String → Option String) (c : Facts) : Bool :=
  let subject := ConstrainedName.ofSubject c.subject
  let others := ConstrainedName.ofAltNames c.altNames hostOf
  s.excluded.excludes subject || s.excluded.excludes others ||
    !(s.permitted.permits subject && s.permitted.permits others)

def Scope.below (s : Scope) (c : Facts) : Scope where
  permitted := match c.nameConstraints.bind (·.permitted) with
    | some subtrees => s.permitted.intersect subtrees
    | none => s.permitted
  excluded := match c.nameConstraints.bind (·.excluded) with
    | some subtrees => s.excluded.union subtrees
    | none => s.excluded
  room :=
    let left := if c.isSelfIssued then s.room else s.room - 1
    match c.pathLength with
    | some n => min n left
    | none => left

def validityCheck (p : Path) (ix : Nat) : Check :=
  if ix = 0 then .validLeaf else if ix = p.length - 1 then .validRoot else .validIntermediates

/-- What is asked of every certificate, the leaf as well. -/
def certificateFindings (r : Request) (p : Path) (s : Scope) (c : Facts) (ix : Nat) : List Finding :=
  (if c.isValidAt r.time then [] else [.failed (validityCheck p ix) ix]) ++
  (if c.hasWeakKey then
    [.fatal (if ix = 0 then .weakLeaf else .weakIntermediates) ix, .verdict .fatal] else []) ++
  Finding.violatedIf ((ix = 0 || !c.isSelfIssued) && s.forbids r.environment.hostOf c)
    .nameConstraints ix

/-- What is asked of an authority only. -/
def authorityFindings (s : Scope) (c : Facts) (ix : Nat) : List Finding :=
  Finding.violatedIf (3 ≤ c.version && !c.isCa) .basicConstraintsCa ix ++
  Finding.violatedIf (!c.isSelfIssued && s.room == 0) .basicConstraints ix ++
  Finding.violatedIf c.unknownCritical .criticalExtensions ix

/-- Certificates from the top down, the leaf last. -/
def walk (r : Request) (p : Path) (s : Scope) : List (Facts × Nat) → List Finding
  | [] => []
  | (c, ix) :: rest =>
    certificateFindings r p s c ix ++
      (if ix = 0 then [] else authorityFindings s c ix) ++ walk r p (s.below c) rest

/-- How many certificates are processed. A trusted anchor is not. -/
def processedCount (r : Request) (p : Path) : Nat :=
  if r.trustsAnchor p then p.length - 1 else p.length

def basic (r : Request) (p : Path) : List Finding :=
  let n := processedCount r p
  Finding.violatedIf (!r.trustsAnchor p && !p.isAllowlisted) .anchorTrusted (p.length - 1) ++
  walk r p (.initial n) (p.places.take n).reverse ++
  Finding.violatedIf (p.leaf?.any (·.unknownCritical)) .criticalExtensions 0

/-- Blocked and graylisted keys of authorities, other than that of the anchor. -/
def listedKeys (r : Request) (p : Path) : List Finding :=
  ((p.places.take p.nonAnchorCount).drop 1).flatMap fun (c, ix) =>
    (if r.environment.isBlockedKey c.keySha1 then
      .fatal .blackListedKey ix :: (if p.isAllowlisted then [] else [.verdict .fatal]) else []) ++
    Finding.violatedIf (r.environment.isGraylistedKey c.keySha1) .grayListedKey ix

/-- The start of 2016-10-21. -/
def distrustStart : UInt64 := 1477008000

/-- Certificates under a distrusted root that are too new. -/
def distrusted (r : Request) (p : Path) : List Finding :=
  if p.root?.any fun root => r.environment.isDistrustedRoot root.sha256 then
    (p.places.dropLast.filter fun (c, _) => distrustStart ≤ c.notBefore).flatMap fun (_, ix) =>
      [.fatal .blackListedKey ix, .verdict .fatal]
  else []

/-- What follows from the usage constraints on one certificate. -/
def standingFindings (r : Request) (p : Path) (ix : Nat) : List Finding :=
  match r.standing p ix with
  | .deny => [.violated .usageConstraints ix, .verdict .deny]
  | .unspecified => []
  | _ =>
    if p.storeAt ix == some .admin || p.storeAt ix == some .user then [.verdict .proceed] else []

def findings (r : Request) (p : Path) : List Finding :=
  linkage p ++ basic r p ++ listedKeys r p ++ distrusted r p ++
    (List.range p.length).flatMap (standingFindings r p)

end Processing
end ChainTrust
