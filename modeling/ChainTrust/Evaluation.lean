import ChainTrust.Evaluation.Processing
import ChainTrust.Evaluation.Whole
import ChainTrust.ExtendedValidation
import ChainTrust.Sct.Qualification

namespace ChainTrust

/-- Failed checks of one certificate and their values, in ascending order of names. -/
abbrev Failures := List (CheckName × Bool)

/-- The outcome of the checks of a leaf, for paths with the same leaf. -/
structure LeafOutcome where
  sha1 : Bytes
  verdict : Verdict
  failures : Failures
deriving DecidableEq, Repr

structure Evaluation where
  verdict : Verdict
  /-- Failures of each certificate of the path. -/
  details : List Failures
  lastLeaf : Option LeafOutcome
  /-- Whether a positive response about the revocation of a certificate is demanded. -/
  revocation : List Bool
  isCt : Bool
deriving DecidableEq, Repr

namespace Evaluation

def initial : Evaluation :=
  ⟨.unspecified, [], none, [], false⟩

def escalate (e : Evaluation) (v : Verdict) : Evaluation :=
  { e with verdict := e.verdict.combine v }

/-- Notes a failure at a place of the path. -/
def insert (e : Evaluation) (check : CheckName) (ix : Nat) (value : Bool) : Evaluation :=
  { e.escalate .recoverable with details := e.details.modify ix (Entries.put check value) }

/-- Records a failure unless nothing requests the check, a usage constraint waives it, or an exemption
accepts it. There is no result if the path has no such place. -/
def record? (r : Request) (current : Option Policy) (p : Path) (check : CheckName) (ix : Nat)
    (value force : Bool) (e : Evaluation) : Option Evaluation :=
  if e.details.length ≤ ix then none
  else if !force && !Request.isRequested current p check then some e
  else if r.isWaived current p check ix then some e
  else if r.isExempt p check ix value then some (e.escalate .proceed)
  else some (e.insert check ix value)

/-- Records a failure that nothing can waive. -/
def recordFatal? (check : CheckName) (ix : Nat) (value : Bool) (e : Evaluation) : Option Evaluation :=
  if e.details.length ≤ ix then none else some (e.insert check ix value)

def apply (r : Request) (current : Option Policy) (p : Path) (e : Evaluation) : Finding → Evaluation
  | .failed check ix => (e.record? r current p (.known check) ix false false).getD e
  | .violated check ix => (e.record? r current p (.known check) ix false true).getD e
  | .fatal check ix => (e.recordFatal? (.known check) ix false).getD e
  | .verdict v => e.escalate v

def applyAll (r : Request) (current : Option Policy) (p : Path) (findings : List Finding)
    (e : Evaluation) : Evaluation :=
  findings.foldl (apply r current p) e

/-- What the leaf of a path gives for one option. An unknown name is an error. -/
def leafFindings (r : Request) (leaf : Facts) (name : CheckName) (v : OptionValue) : List Finding :=
  match name with
  | .other _ => [.verdict .otherError]
  | .known .blackListedLeaf =>
    if LeafCheck.fails r leaf v .blackListedLeaf then [.fatal .blackListedLeaf 0, .verdict .fatal] else []
  | .known check => if LeafCheck.fails r leaf v check then [.failed check 0] else []

/-- What a path as a whole gives for one option. -/
def pathFindings (p : Path) (name : CheckName) (v : OptionValue) : List Finding :=
  match name with
  | .other _ => [.verdict .otherError]
  | .known check => (PathCheck.failures p v check).map (.failed check)

/-- Applies what each option of each policy gives, one policy after the other. -/
def dispatch (r : Request) (p : Path) (findings : CheckName → OptionValue → List Finding)
    (e : Evaluation) : Evaluation :=
  r.policies.foldl (fun e policy =>
    applyAll r (some policy) p (policy.options.flatMap fun (name, v) => findings name v) e) e

def noFailures (p : Path) : List Failures :=
  p.certificates.map fun _ => []

/-- The state after the checks of a leaf that was not checked last. -/
def checkLeaf (r : Request) (p : Path) (leaf : Facts) (e : Evaluation) : Evaluation :=
  let e := dispatch r p (leafFindings r leaf)
    { e with verdict := .unspecified, details := noFailures p }
  { e with lastLeaf := some ⟨leaf.sha1, e.verdict, e.details.headD []⟩ }

/-- The outcome of the checks of the leaf. A path without certificates is rejected. -/
def leafChecks (r : Request) (p : Path) (e : Evaluation) : Verdict × Evaluation :=
  match p.leaf? with
  | none => (.fatal, { e with verdict := .fatal, details := [] })
  | some leaf =>
    match e.lastLeaf.filter (·.sha1 == leaf.sha1) with
    | some outcome => (outcome.verdict, e)
    | none =>
      let e := e.checkLeaf r p leaf
      (e.verdict, e)

/-- The state before the checks of a path: what the leaf checked last gave, and nothing else. -/
def reset (p : Path) (e : Evaluation) : Evaluation where
  verdict := (e.lastLeaf.map (·.verdict)).getD .unspecified
  details := match e.lastLeaf, p.certificates with
    | some outcome, _ :: rest => outcome.failures :: rest.map fun _ => []
    | _, _ => noFailures p
  lastLeaf := e.lastLeaf
  revocation := p.certificates.map fun _ => false
  isCt := false

/-- Responses are demanded for all certificates but the anchor, if a policy demands them at all. -/
def demandResponses (r : Request) (p : Path) (e : Evaluation) : Evaluation :=
  let demanded := r.policies.any PathCheck.demandsResponses
  { e with revocation := p.places.map fun (_, ix) => demanded && ix < p.nonAnchorCount }

/-- Determines what the path qualifies for, unless that was done before. -/
def classify (r : Request) (p : Path) : Path :=
  if p.isValidated then p
  else
    let ct := p.isCtQualified r.environment r.time
    let ev := r.policies.any (·.requests .extendedValidation) && p.isExtendedValidation r.environment
    { p with isCt := ct, isEv := ev && ct, isValidated := true }

/-- A policy may require the path to be qualified by timestamps. -/
def requireCt (r : Request) (p : Path) (e : Evaluation) : Evaluation :=
  r.policies.foldl (fun e policy =>
    if policy.requests .ctRequired && !p.isCt then e.apply r (some policy) p (.failed .ctRequired 0)
    else e) { e with isCt := p.isCt }

/-- Evaluates a path whose anchors are known. -/
def pathChecks (r : Request) (p : Path) (e : Evaluation) : Verdict × Evaluation × Path :=
  let (verdict, e) := e.leafChecks r p
  if p.certificates.isEmpty then (verdict, e, p)
  else
    let e := ((e.reset p).dispatch r p (pathFindings p)).demandResponses r p
    let e := e.applyAll r r.firstPolicy? p (Processing.findings r p)
    let p := classify r p
    let e := e.requireCt r p
    (e.verdict, e, p)

/-- Evaluates a path after it has taken in what the sources of anchors know. -/
def evaluate (r : Request) (p : Path) (e : Evaluation) : Verdict × Evaluation × Path :=
  e.pathChecks r (r.environment.applySources p)

end Evaluation
end ChainTrust
