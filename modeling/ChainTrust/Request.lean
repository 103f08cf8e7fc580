import ChainTrust.Environment
import ChainTrust.Policy.Preset

namespace ChainTrust

/-- Failures that are accepted: values by check, for the certificate with a SHA-1 digest. -/
structure Exemption where
  sha1 : Option Bytes
  values : List (CheckName × Bool)
deriving Repr

structure Request where
  environment : Environment
  policies : List Policy
  time : UInt64
  exemptions : List Exemption

/-- The policy that matches both an identifier and a name, or else the one of them that is given,
the identifier before the name. -/
def findPolicy? (policies : List Policy) (oid name : Option String) : Option Policy :=
  (policies.find? fun p => some p.oid == oid && some p.name == name).or
    ((policies.find? fun p => some p.oid == oid).or (policies.find? fun p => some p.name == name))

/-- Options that say whom an evaluation is bound to. -/
def bindingChecks : List Check := [.sslHostname, .email, .eapTrustedServerNames]

def Policy.isBoundTo (p : Policy) (wanted : String) : Bool :=
  bindingChecks.any fun check =>
    (((p.option? check).bind (·.texts?)).getD []).any (Text.sameAsciiCase · wanted)

/-- The uses of a key that one policy names in its option. -/
def Policy.keyUses (p : Policy) : List UInt32 :=
  (((p.option? .keyUsage).bind (·.integers?)).getD []).map fun n =>
    KeyUse.ofKeyUsage n.toUInt64.toUInt32

/-- The uses of the key of the certificate at a place that an evaluation makes. -/
def evaluatedKeyUse (policies : List Policy) (ix : Nat) : UInt32 :=
  let forOcsp := if policies.any (·.name == "OCSPSigner") then KeyUse.signRevocation else 0
  let forPath := if ix ≠ 0 then KeyUse.signCertificate else 0
  (policies.flatMap Policy.keyUses).foldl (· ||| ·) (forOcsp ||| forPath)

namespace Constraint

/-- The policy that a constraint names; nothing inside if it names none. -/
def namedPolicy? (c : Constraint) (policies : List Policy) : Option (Option Policy) :=
  if c.policyOid.isNone && c.policyName.isNone then some none
  else (findPolicy? policies c.policyOid c.policyName).map some

def bindingMatches (c : Constraint) (policy : Option Policy) : Bool :=
  c.policyText.all fun wanted => policy.any (·.isBoundTo wanted)

def keyUseMatches (c : Constraint) (policies : List Policy) (ix : Nat) : Bool :=
  c.keyUse.all fun use => use == KeyUse.any || use == evaluatedKeyUse policies ix

end Constraint

namespace Request

def firstPolicy? (r : Request) : Option Policy :=
  r.policies.head?

/-- The constraint applies to the certificate at a place while the options of a policy are looked
at. -/
def isMet (r : Request) (current : Option Policy) (ix : Nat) (c : Constraint) : Bool :=
  match c.namedPolicy? r.policies with
  | none => false
  | some named =>
    c.bindingMatches (named.or current) && c.keyUseMatches r.policies ix &&
      c.requirement.all r.environment.meetsRequirement

/-- What the first constraint that applies declares, which is a root if it does not say. -/
def standing (r : Request) (path : Path) (ix : Nat) : Standing :=
  match (path.constraintsAt ix).find? (r.isMet r.firstPolicy? ix) with
  | some c => c.standing.getD .trustRoot
  | none => .invalid

/-- The path ends at an anchor whose constraints, if it has any, declare it a root. -/
def trustsAnchor (r : Request) (path : Path) : Bool :=
  let ix := path.length - 1
  let standing := r.standing path ix
  path.isAnchored && !path.certificates.isEmpty &&
    ((path.constraintsAt ix).isEmpty || standing == .trustRoot || standing == .trustAsRoot)

/-- Whether a policy or a constraint on the path asks for a check. -/
def isRequested (current : Option Policy) (path : Path) (check : CheckName) : Bool :=
  current.any (fun p => (p.optionNamed? check).isSome) ||
    path.constraints.flatten.any fun c => c.policyOptions.any (Entries.hasKey check)

/-- A constraint on the certificate itself allows one of the status codes of the check. -/
def isWaived (r : Request) (current : Option Policy) (path : Path) (check : CheckName) (ix : Nat) :
    Bool :=
  (path.constraintsAt ix).any fun c =>
    c.allowedError.any check.waiverCodes.contains && r.isMet current ix c

/-- The record that concerns a place: a single one without a digest concerns all. -/
def exemptionAt? (r : Request) (path : Path) (ix : Nat) : Option Exemption :=
  match r.exemptions with
  | [⟨none, values⟩] => some ⟨none, values⟩
  | exemptions => do
    let e ← exemptions[ix]?
    let c ← path.certificate? ix
    if e.sha1 = some c.sha1 then return e else none

def isExempt (r : Request) (path : Path) (check : CheckName) (ix : Nat) (value : Bool) : Bool :=
  (r.exemptionAt? path ix).any fun e => Entries.get? check e.values == some value

end Request
end ChainTrust
