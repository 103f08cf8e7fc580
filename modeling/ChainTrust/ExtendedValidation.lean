import ChainTrust.Environment

namespace ChainTrust

namespace EvProfile

/-- Starts of 2006-10, 2011, 2014, 2016 and 2016-07. -/
def rootProfileStart : UInt64 := 1159660800
def largeKeyStart : UInt64 := 1293840000
def largeKeyEnd : UInt64 := 1388534400
def sha1End : UInt64 := 1451606400
def directIssueEnd : UInt64 := 1467331200

/-- Shorter keys are accepted in certificates from before 2011 that expired before 2014. -/
def hasKeySize (c : Facts) : Bool :=
  let old := c.notBefore < largeKeyStart && c.notAfter < largeKeyEnd
  c.hasKeyOfAtLeast (if old then 1024 else 2048) 256

def hasAuthorityUsage (c : Facts) : Bool :=
  c.keyUsage.any (·.permits (KeyUsage.certSign ||| KeyUsage.crlSign))

/-- What is demanded of an authority below the root. -/
def meetsSubordinate (c : Facts) : Bool :=
  !(c.policies.getD []).isEmpty && c.hasCrlPoints && c.isCa && hasAuthorityUsage c &&
    hasKeySize c && !(sha1End ≤ c.notBefore && c.signatureHash == .sha1)

/-- What is demanded of a root. Older roots are accepted as they are. -/
def meetsRoot (c : Facts) : Bool :=
  c.notBefore < rootProfileStart ||
    (3 ≤ c.version && c.isCa && hasAuthorityUsage c && hasKeySize c)

/-- The policies that are left below an authority. One that asserts any policy leaves them all. -/
def retained (policies : List Oid) (c : Facts) : List Oid :=
  let asserted := c.policies.getD []
  if asserted.contains .anyPolicy then policies else policies.filter asserted.contains

/-- The policies that are left below some authorities. Each has to meet the profile and to leave
one. -/
def remaining? : List Oid → List Facts → Option (List Oid)
  | policies, [] => some policies
  | policies, c :: rest =>
    let left := retained policies c
    if meetsSubordinate c && !left.isEmpty then remaining? left rest else none

end EvProfile

open EvProfile

/-- The authorities between the leaf and the last certificate. -/
def Path.subordinates (p : Path) : List Facts :=
  (p.certificates.drop 1).dropLast

/-- Some policy of the leaf is left below all authorities, and the root is recognized for it. From
mid 2016 on, a leaf must not be issued by the root itself. -/
def Path.isExtendedValidation (p : Path) (env : Environment) : Bool :=
  match p.leaf?, p.root? with
  | some leaf, some root =>
    let policies := (leaf.policies.getD []).filter (· != .anyPolicy)
    !policies.isEmpty && (leaf.notBefore < directIssueEnd || 3 ≤ p.length) &&
      match remaining? policies p.subordinates with
      | some left => left.any (env.isEvAnchor · root.sha1) && meetsRoot root
      | none => false
  | _, _ => false

end ChainTrust
