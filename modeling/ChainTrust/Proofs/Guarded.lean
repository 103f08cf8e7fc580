import ChainTrust.Proofs.Recording

namespace ChainTrust

/-- What a guarded evaluation ends with if something goes wrong. -/
inductive Breach where
  /-- A list of this length has no such place. -/
  | missing (ix length : Nat)
  /-- More is taken from a number than it is. -/
  | negative (a b : Nat)
  /-- A call that records a finding is refused. -/
  | refused (f : Finding)
deriving DecidableEq, Repr

abbrev Guarded (α : Type) := Except Breach α

namespace Guarded

/-- What goes well is carried on with. -/
@[simp] theorem ok_bind {α β : Type} (value : α) (next : α → Guarded β) :
    ((.ok value : Guarded α) >>= next) = next value :=
  rfl

@[simp] theorem pure_eq_ok {α : Type} (value : α) : (pure value : Guarded α) = .ok value :=
  rfl

def entry {α : Type} (values : List α) (ix : Nat) : Guarded α :=
  match values[ix]? with
  | some value => .ok value
  | none => .error (.missing ix values.length)

def minus (a b : Nat) : Guarded Nat :=
  if b ≤ a then .ok (a - b) else .error (.negative a b)

def certificate (p : Path) (ix : Nat) : Guarded Facts :=
  entry p.certificates ix

/-- Certificates with their places, read one after the other. -/
def places (p : Path) (first count : Nat) : Guarded (List (Facts × Nat)) :=
  (List.range' first count).mapM fun ix => do return (← certificate p ix, ix)

section Recording

variable (r : Request) (current : Option Policy) (p : Path)

def record (e : Evaluation) (f : Finding) : Guarded Evaluation :=
  match e.perform r (f.recording current p) with
  | (true, after) => .ok after
  | (false, _) => .error (.refused f)

def recordAll (findings : List Finding) (e : Evaluation) : Guarded Evaluation :=
  findings.foldlM (record r current p) e

/-- Records what each option of each policy gives, before the next option is looked at. -/
def dispatch (findings : CheckName → OptionValue → Guarded (List Finding)) (e : Evaluation) :
    Guarded Evaluation :=
  r.policies.foldlM (fun e policy => policy.options.foldlM (fun e option => do
    recordAll r (some policy) p (← findings option.1 option.2) e) e) e

end Recording

section PathChecks

variable (p : Path) (v : OptionValue)

/-- An anchor with another digest is at fault, which is the last certificate. -/
def anchorFailures (digest : Facts → Bytes) : Guarded (List Nat) :=
  if PathCheck.anchorDigestFails p v digest then do return [← minus p.length 1] else return []

/-- The certificates that are not the anchor are read by their places. -/
def failuresBelowAnchor (failing : Facts → Bool) : Guarded (List Nat) := do
  return PathCheck.placesOf (← places p 0 p.nonAnchorCount) failing

def failures : Check → Guarded (List Nat)
  | .anchorSha1 => anchorFailures p v (·.sha1)
  | .anchorSha256 => anchorFailures p v (·.sha256)
  | .weakSignature => failuresBelowAnchor p (·.hasWeakHash)
  | .signatureHashAlgorithms =>
    match v.texts? with
    | some allowed => failuresBelowAnchor p (PathCheck.isForeignHash allowed)
    | none => return []
  | .systemTrustedWeakHash =>
    if p.isAnchoredInSystem then failuresBelowAnchor p PathCheck.isWeakForSystem else return []
  | check => return PathCheck.failures p v check

end PathChecks

def pathFindings (p : Path) (name : CheckName) (v : OptionValue) : Guarded (List Finding) :=
  match name with
  | .other _ => return [.verdict .otherError]
  | .known check => do return (← failures p v check).map (.failed check)

section Processing

open Processing

variable (r : Request) (p : Path)

/-- Each authority from the top of the path down, with the certificate in front of it. -/
def linkage : Guarded (List Finding) := do
  let pairs ← (List.range' 1 (p.length - 1)).reverse.mapM fun i => do
    let ix ← minus i 1
    return ((← certificate p ix, ix), ← certificate p i)
  return (pairs.filter fun ((child, _), parent) => isUnlinked child parent).map
    fun ((_, ix), _) => .failed .idLinkage ix

def trustsAnchor : Guarded Bool :=
  if !p.isAnchored || p.certificates.isEmpty then return false
  else do
    let ix ← minus p.length 1
    let standing := r.standing p ix
    return (p.constraintsAt ix).isEmpty || standing == .trustRoot || standing == .trustAsRoot

/-- An authority takes from the room that is left, if there is any. -/
def roomBelow (s : Scope) (c : Facts) : Guarded Nat :=
  if c.isSelfIssued || s.room == 0 then return s.room else minus s.room 1

def below (s : Scope) (c : Facts) : Guarded Scope := do
  let left ← roomBelow s c
  return { s.below c with
    room := match c.pathLength with
      | some n => min n left
      | none => left }

/-- Steps from the top down. The step `i` of `n` is about the place `n - i`, and it is told from the
length of the path whether that is the root. -/
def walk (n : Nat) : Scope → List Nat → Guarded (List Finding)
  | _, [] => return []
  | s, i :: rest => do
    let ix ← minus n i
    let c ← certificate p ix
    let _ ← minus p.length 1
    let lower ← if ix = 0 then pure s else below s c
    return certificateFindings r p s c ix ++
      (if ix = 0 then [] else authorityFindings s c ix) ++ (← walk n lower rest)

def basic : Guarded (List Finding) := do
  let trusted ← trustsAnchor r p
  let top ← minus p.length 1
  let n := if trusted then top else p.length
  let walked ← walk r p n (.initial n) (List.range' 1 n)
  let leaf ← certificate p 0
  return Finding.violatedIf (!trusted && !p.isAllowlisted) .anchorTrusted top ++ walked ++
    Finding.violatedIf leaf.unknownCritical .criticalExtensions 0

def listedKeys : Guarded (List Finding) := do
  return (← places p 1 (p.nonAnchorCount - 1)).flatMap fun (c, ix) =>
    (if r.environment.isBlockedKey c.keySha1 then
      .fatal .blackListedKey ix :: (if p.isAllowlisted then [] else [.verdict .fatal]) else []) ++
    Finding.violatedIf (r.environment.isGraylistedKey c.keySha1) .grayListedKey ix

def distrusted : Guarded (List Finding) :=
  if p.root?.any fun root => r.environment.isDistrustedRoot root.sha256 then do
    let top ← minus p.length 1
    return ((← places p 0 top).filter fun (c, _) => distrustStart ≤ c.notBefore).flatMap
      fun (_, ix) => [.fatal .blackListedKey ix, .verdict .fatal]
  else return []

def findings : Guarded (List Finding) := do
  return (← linkage p) ++ (← basic r p) ++ (← listedKeys r p) ++ (← distrusted r p) ++
    (List.range p.length).flatMap (standingFindings r p)

end Processing

section Classification

/-- The authorities between the leaf and the last certificate are read by their places. -/
def isExtendedValidation (env : Environment) (p : Path) : Guarded Bool := do
  let subordinates := (← places p 1 (p.length - 1 - 1)).map (·.1)
  match p.leaf?, p.root? with
  | some leaf, some root =>
    let policies := (leaf.policies.getD []).filter (· != .anyPolicy)
    return !policies.isEmpty && (leaf.notBefore < EvProfile.directIssueEnd || 3 ≤ p.length) &&
      match EvProfile.remaining? policies subordinates with
      | some left => left.any (env.isEvAnchor · root.sha1) && EvProfile.meetsRoot root
      | none => false
  | _, _ => return false

def classify (r : Request) (p : Path) : Guarded Path :=
  if p.isValidated then return p
  else do
    let ct := p.isCtQualified r.environment r.time
    let profile ← isExtendedValidation r.environment p
    let ev := r.policies.any (·.requests .extendedValidation) && profile
    return { p with isCt := ct, isEv := ev && ct, isValidated := true }

end Classification

section Sources

/-- As many entries as there are certificates. -/
def resize {α : Type} (n : Nat) (fill : α) (values : List α) : List α :=
  values.take n ++ List.replicate (n - values.length) fill

/-- What is known of a certificate after a source was asked: constraints, store, and whether it is
the last and newly recognized. -/
def recognize (p : Path) (s : AnchorSource) (place : Facts × Nat) :
    Guarded (List Constraint × Option AnchorStore × Bool) := do
  let (c, ix) := place
  let constraints ← entry (resize p.length [] p.constraints) ix
  let store ← entry (resize p.length none p.stores) ix
  return if store.isNone && s.isAnchor c then (s.constraints c, s.store c, ix + 1 == p.length)
    else (constraints, store, false)

def applySource (p : Path) (s : AnchorSource) : Guarded Path := do
  let known ← p.places.mapM (recognize p s)
  return { p with
    constraints := known.map (·.1)
    stores := known.map (·.2.1)
    isAnchored := p.isAnchored || known.any (·.2.2) }

def applySources (env : Environment) (p : Path) : Guarded Path :=
  env.anchorSources.foldlM applySource p

end Sources

variable (r : Request) (p : Path) (e : Evaluation)

/-- The failures of the leaf are read by its place once it was checked. -/
def leafChecks : Guarded (Verdict × Evaluation) :=
  match p.leaf? with
  | none => return (.fatal, { e with verdict := .fatal, details := [] })
  | some leaf =>
    match e.lastLeaf.filter (·.sha1 == leaf.sha1) with
    | some outcome => return (outcome.verdict, e)
    | none => do
      let e ← dispatch r p (fun name v => return Evaluation.leafFindings r leaf name v)
        { e with verdict := .unspecified, details := Evaluation.noFailures p }
      let failures ← entry e.details 0
      let e := { e with lastLeaf := some ⟨leaf.sha1, e.verdict, failures⟩ }
      return (e.verdict, e)

def requireCt : Guarded Evaluation :=
  r.policies.foldlM (fun e policy =>
    if policy.requests .ctRequired && !p.isCt then
      record r (some policy) p e (.failed .ctRequired 0)
    else return e) { e with isCt := p.isCt }

def pathChecks : Guarded (Verdict × Evaluation × Path) := do
  let (verdict, e) ← leafChecks r p e
  if p.certificates.isEmpty then return (verdict, e, p)
  else
    let e ← dispatch r p (pathFindings p) (e.reset p)
    let e ← recordAll r r.firstPolicy? p (← findings r p) (e.demandResponses r p)
    let p ← classify r p
    let e ← requireCt r p e
    return (e.verdict, e, p)

def evaluate : Guarded (Verdict × Evaluation × Path) := do
  pathChecks r (← applySources r.environment p) e

end Guarded
end ChainTrust
