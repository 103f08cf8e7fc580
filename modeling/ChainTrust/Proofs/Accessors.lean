import ChainTrust.Proofs.Classification
import ChainTrust.Proofs.Recording
import ChainTrust.Proofs.Reuse

namespace ChainTrust

/-- A call on a context. -/
inductive Call where
  | leafChecks (p : Path)
  | pathChecks (p : Path)
  | evaluate (p : Path)

namespace Call

def path : Call → Path
  | .leafChecks p | .pathChecks p | .evaluate p => p

/-- The leaf is the one that was checked last, and nothing else is asked about. -/
def isRepeated (known : Option Bytes) : Call → Bool
  | .leafChecks p => p.leafDigest?.isSome && p.leafDigest? == known
  | .pathChecks _ | .evaluate _ => false

/-- The path that is evaluated as a whole. -/
def evaluated? (r : Request) : Call → Option Path
  | .leafChecks _ => none
  | .pathChecks p => if p.certificates.isEmpty then none else some p
  | .evaluate p =>
    if p.certificates.isEmpty then none else some (r.environment.applySources p)

/-- The digest of the leaf that some calls looked at last. -/
def leafDigest? (calls : List Call) : Option Bytes :=
  (calls.filterMap (·.path.leafDigest?)).getLast?

/-- The path that some calls evaluated last. -/
def lastEvaluated? (r : Request) (calls : List Call) : Option Path :=
  (calls.filterMap (evaluated? r)).getLast?

theorem leafDigest?_append (calls : List Call) (call : Call) :
    leafDigest? (calls ++ [call]) = call.path.leafDigest?.or (leafDigest? calls) := by
  unfold leafDigest?
  rw [List.filterMap_append, List.getLast?_append]
  cases h : call.path.leafDigest? <;> simp [h]

theorem lastEvaluated?_append (r : Request) (calls : List Call) (call : Call) :
    lastEvaluated? r (calls ++ [call]) = (call.evaluated? r).or (lastEvaluated? r calls) := by
  unfold lastEvaluated?
  rw [List.filterMap_append, List.getLast?_append]
  cases h : call.evaluated? r <;> simp [h]

end Call

theorem Environment.applySources_certificates (env : Environment) (p : Path) :
    (env.applySources p).certificates = p.certificates :=
  applySources_frame Path.certificates (fun _ _ => rfl) env p

namespace Evaluation

/-- The answer to a call, and the state after it. -/
def answer (r : Request) (e : Evaluation) : Call → Verdict × Evaluation
  | .leafChecks p => e.leafChecks r p
  | .pathChecks p => ((e.pathChecks r p).1, (e.pathChecks r p).2.1)
  | .evaluate p => ((e.evaluate r p).1, (e.evaluate r p).2.1)

def afterCalls (r : Request) (e : Evaluation) (calls : List Call) : Evaluation :=
  calls.foldl (fun e call => (e.answer r call).2) e

theorem afterCalls_append (r : Request) (e : Evaluation) (calls : List Call) (call : Call) :
    e.afterCalls r (calls ++ [call]) = ((e.afterCalls r calls).answer r call).2 := by
  simp [afterCalls, List.foldl_append]

section Leaf

variable {r : Request} {p : Path} {leaf : Facts} {e : Evaluation}

theorem leafChecks_of_isEmpty (r : Request) (h : p.certificates = []) (e : Evaluation) :
    e.leafChecks r p = (.fatal, { e with verdict := .fatal, details := [] }) := by
  simp [leafChecks, Path.leaf?, h]

theorem leafChecks_of_known {outcome : LeafOutcome} (hl : p.leaf? = some leaf)
    (h : e.lastLeaf = some outcome) (hd : outcome.sha1 = leaf.sha1) :
    e.leafChecks r p = (outcome.verdict, e) := by
  simp [leafChecks, hl, h, hd, Option.filter_some]

theorem leafChecks_of_unknown (hl : p.leaf? = some leaf)
    (h : e.lastLeaf.map (·.sha1) ≠ some leaf.sha1) :
    e.leafChecks r p = ((e.checkLeaf r p leaf).verdict, e.checkLeaf r p leaf) := by
  have hnone : e.lastLeaf.filter (·.sha1 == leaf.sha1) = none := by
    cases hlast : e.lastLeaf with
    | none => rfl
    | some outcome =>
      rw [hlast] at h
      simpa [Option.filter_some] using h
  simp only [leafChecks, hl, hnone]

theorem checkLeaf_details_length (r : Request) (p : Path) (leaf : Facts) (e : Evaluation) :
    (e.checkLeaf r p leaf).details.length = p.length := by
  simp only [checkLeaf]
  rw [(isKept_dispatch ..).length]
  exact List.length_map _

theorem leafChecks_lastLeaf_sha1 (hl : p.leaf? = some leaf) (e : Evaluation) :
    (e.leafChecks r p).2.lastLeaf.map (·.sha1) = some leaf.sha1 := by
  rw [leafChecks_lastLeaf hl]
  cases hf : e.lastLeaf.filter (·.sha1 == leaf.sha1) with
  | none => rfl
  | some known => exact congrArg some (eq_of_beq (Option.filter_eq_some_iff.mp hf).2)

theorem absorb_isCt (e : Evaluation) (f : Effect) : (e.absorb f).isCt = e.isCt := by
  cases f <;> rfl

theorem absorbAll_isCt (effects : List Effect) (e : Evaluation) :
    (absorbAll effects e).isCt = e.isCt := by
  induction effects generalizing e with
  | nil => rfl
  | cons f fs ih => exact (ih (e.absorb f)).trans (absorb_isCt e f)

/-- Checking a leaf leaves alone what is said of paths as a whole. -/
theorem leafChecks_frame (r : Request) (p : Path) (e : Evaluation) :
    (e.leafChecks r p).2.revocation = e.revocation ∧ (e.leafChecks r p).2.isCt = e.isCt := by
  have hlength : (noFailures p).length = p.length := List.length_map _
  unfold leafChecks
  split
  · exact ⟨rfl, rfl⟩
  · split
    · exact ⟨rfl, rfl⟩
    · simp only [checkLeaf]
      rw [dispatch_eq_absorbAll hlength, absorbAll_revocation, absorbAll_isCt]
      exact ⟨rfl, rfl⟩

end Leaf

section Whole

variable {r : Request} {p : Path}

theorem pathChecks_shows (r : Request) (p : Path) (e : Evaluation) :
    (e.pathChecks r p).2.1.verdict = (e.pathChecks r p).1 ∧
      (e.pathChecks r p).2.1.details.length = p.length := by
  by_cases hp : p.certificates = []
  · rw [pathChecks_of_isEmpty r hp]
    exact ⟨rfl, (congrArg List.length hp).symm⟩
  · rw [pathChecks_eq hp]
    refine ⟨rfl, ?_⟩
    simp only [closing, absorbAll_details_length, demandResponses_details, reset_details_length]

theorem pathChecks_isCt (hp : p.certificates ≠ []) (e : Evaluation) :
    (e.pathChecks r p).2.1.isCt = (classify r p).isCt := by
  rw [pathChecks_eq hp]
  exact absorbAll_isCt _ _

theorem pathChecks_lastLeaf_sha1 (r : Request) (p : Path) (e : Evaluation) :
    (e.pathChecks r p).2.1.lastLeaf.map (·.sha1) =
      p.leafDigest?.or (e.lastLeaf.map (·.sha1)) := by
  by_cases hp : p.certificates = []
  · rw [pathChecks_of_isEmpty r hp]
    simp [Path.leafDigest?, Path.leaf?, hp]
  · obtain ⟨leaf, hl⟩ := Path.exists_leaf hp
    rw [pathChecks_eq hp, closing_lastLeaf, leafChecks_lastLeaf_sha1 hl]
    simp [Path.leafDigest?, hl]

end Whole

section Calls

variable {r : Request} {e : Evaluation}

/-- Evaluating a path is checking it once the sources of anchors were applied. -/
theorem answer_evaluate (r : Request) (e : Evaluation) (p : Path) :
    e.answer r (.evaluate p) = e.answer r (.pathChecks (r.environment.applySources p)) :=
  rfl

/-- A repeated call answers from what is known. -/
theorem answer_of_isRepeated {call : Call}
    (h : call.isRepeated (e.lastLeaf.map (·.sha1)) = true) :
    (e.answer r call).2 = e ∧ e.lastLeaf.map (·.verdict) = some (e.answer r call).1 := by
  cases call with
  | pathChecks | evaluate => cases h
  | leafChecks p =>
    obtain ⟨hleaf, hknown⟩ := Bool.and_eq_true_iff.mp h
    obtain ⟨digest, hdigest⟩ := Option.isSome_iff_exists.mp hleaf
    obtain ⟨leaf, hl, rfl⟩ := Option.map_eq_some_iff.mp hdigest
    rw [hdigest] at hknown
    obtain ⟨outcome, hlast, hsha1⟩ := Option.map_eq_some_iff.mp (eq_of_beq hknown).symm
    simp [answer, leafChecks_of_known hl hlast hsha1, hlast]

/-- Any other call shows the answer and has details for each certificate. -/
theorem answer_shows {call : Call} (h : call.isRepeated (e.lastLeaf.map (·.sha1)) = false) :
    (e.answer r call).2.verdict = (e.answer r call).1 ∧
      (e.answer r call).2.details.length = call.path.length := by
  cases call with
  | pathChecks p => exact pathChecks_shows r p e
  | evaluate p =>
    have hlength : (r.environment.applySources p).length = p.length :=
      congrArg List.length (Environment.applySources_certificates _ p)
    rw [answer_evaluate]
    exact hlength ▸ pathChecks_shows r (r.environment.applySources p) e
  | leafChecks p =>
    by_cases hp : p.certificates = []
    · simp [answer, leafChecks_of_isEmpty r hp, Call.path, Path.length, hp]
    · obtain ⟨leaf, hl⟩ := Path.exists_leaf hp
      have hunknown : e.lastLeaf.map (·.sha1) ≠ some leaf.sha1 := by
        intro hknown
        simp [Call.isRepeated, Path.leafDigest?, hl, hknown] at h
      simp [answer, leafChecks_of_unknown hl hunknown, checkLeaf_details_length, Call.path]

theorem answer_lastLeaf_sha1 (call : Call) :
    (e.answer r call).2.lastLeaf.map (·.sha1) =
      call.path.leafDigest?.or (e.lastLeaf.map (·.sha1)) := by
  cases call with
  | pathChecks p => exact pathChecks_lastLeaf_sha1 r p e
  | evaluate p =>
    have hdigest : (r.environment.applySources p).leafDigest? = p.leafDigest? := by
      unfold Path.leafDigest? Path.leaf?
      rw [Environment.applySources_certificates]
    rw [answer_evaluate]
    exact hdigest ▸ pathChecks_lastLeaf_sha1 r (r.environment.applySources p) e
  | leafChecks p =>
    by_cases hp : p.certificates = []
    · simp [answer, leafChecks_of_isEmpty r hp, Call.path, Path.leafDigest?, Path.leaf?, hp]
    · obtain ⟨leaf, hl⟩ := Path.exists_leaf hp
      simp only [answer, leafChecks_lastLeaf_sha1 hl, Call.path, Path.leafDigest?, hl,
        Option.map_some, Option.some_or]

/-- What is said of a path as a whole is said of the one that is evaluated, if there is one. -/
theorem answer_whole (r : Request) (e : Evaluation) (call : Call) :
    (e.answer r call).2.revocation.length =
        (call.evaluated? r).elim e.revocation.length Path.length ∧
      (e.answer r call).2.isCt = (call.evaluated? r).elim e.isCt fun p => (classify r p).isCt := by
  have hpath : ∀ p : Path, p.certificates ≠ [] →
      (e.answer r (.pathChecks p)).2.revocation.length = p.length ∧
        (e.answer r (.pathChecks p)).2.isCt = (classify r p).isCt := by
    intro p hp
    refine ⟨?_, pathChecks_isCt hp e⟩
    change (e.pathChecks r p).2.1.revocation.length = p.length
    rw [pathChecks_revocation hp, List.length_map]
    exact List.length_zipIdx
  cases call with
  | leafChecks p =>
    obtain ⟨hrevocation, hct⟩ := leafChecks_frame r p e
    exact ⟨congrArg List.length hrevocation, hct⟩
  | pathChecks p =>
    by_cases hp : p.certificates = []
    · simp [answer, pathChecks_of_isEmpty r hp, Call.evaluated?, hp]
    · simpa [Call.evaluated?, hp] using hpath p hp
  | evaluate p =>
    have hsame := Environment.applySources_certificates r.environment p
    rw [answer_evaluate]
    by_cases hp : p.certificates = []
    · simp [answer, pathChecks_of_isEmpty r (hsame.trans hp), Call.evaluated?, hp]
    · have hne : (r.environment.applySources p).certificates ≠ [] := hsame ▸ hp
      simpa [Call.evaluated?, hp] using hpath (r.environment.applySources p) hne

/-- The leaf that was checked last is that of the last path that had one. -/
theorem afterCalls_lastLeaf_sha1 (r : Request) (e : Evaluation) (calls : List Call) :
    (e.afterCalls r calls).lastLeaf.map (·.sha1) =
      (Call.leafDigest? calls).or (e.lastLeaf.map (·.sha1)) := by
  induction calls using List.reverseRecOn with
  | nil => rfl
  | append_singleton calls call ih =>
    rw [afterCalls_append, answer_lastLeaf_sha1, ih, Call.leafDigest?_append, Option.or_assoc]

theorem afterCalls_whole (r : Request) (e : Evaluation) (calls : List Call) :
    (e.afterCalls r calls).revocation.length =
        (Call.lastEvaluated? r calls).elim e.revocation.length Path.length ∧
      (e.afterCalls r calls).isCt =
        (Call.lastEvaluated? r calls).elim e.isCt fun p => (classify r p).isCt := by
  induction calls using List.reverseRecOn with
  | nil => exact ⟨rfl, rfl⟩
  | append_singleton calls call ih =>
    obtain ⟨hrevocation, hct⟩ := answer_whole r (e.afterCalls r calls) call
    rw [afterCalls_append, Call.lastEvaluated?_append, hrevocation, hct]
    cases call.evaluated? r with
    | none => exact ih
    | some p => exact ⟨rfl, rfl⟩

end Calls

/-- After some calls and one more, a context shows the answer to that call and details of its path,
unless it just answered from what is known of the leaf. What else it shows is about the path that
was evaluated last. -/
theorem afterCalls_accessors (r : Request) (e : Evaluation) (calls : List Call) (call : Call) :
    let before := e.afterCalls r calls
    let answer := (before.answer r call).1
    let after := (before.answer r call).2
    let known := (Call.leafDigest? calls).or (e.lastLeaf.map (·.sha1))
    let evaluated := Call.lastEvaluated? r (calls ++ [call])
    (if call.isRepeated known then
        after = before ∧ before.lastLeaf.map (·.verdict) = some answer
      else after.verdict = answer ∧ after.details.length = call.path.length) ∧
    after.revocation.length = evaluated.elim e.revocation.length Path.length ∧
    after.isCt = evaluated.elim e.isCt fun p => (classify r p).isCt := by
  intro before answer after known evaluated
  have hknown : known = before.lastLeaf.map (·.sha1) := (afterCalls_lastLeaf_sha1 r e calls).symm
  refine ⟨?_, ?_⟩
  · rw [hknown]
    split
    · rename_i hrepeated
      exact answer_of_isRepeated hrepeated
    · rename_i hnew
      exact answer_shows (Bool.eq_false_iff.mpr hnew)
  · change (before.answer r call).2.revocation.length = _ ∧ (before.answer r call).2.isCt = _
    rw [← afterCalls_append]
    exact afterCalls_whole r e (calls ++ [call])

/-- After a path without certificates a context still shows what was said of the path before. -/
theorem accessors_outdated :
    ¬∀ (r : Request) (e : Evaluation) (calls : List Call) (call : Call),
      let answered := (e.afterCalls r calls).answer r call
      let after := answered.2
      let p := call.path
      (after.verdict = answered.1 ∧ after.details.length = p.length) ∧
        ((∀ q, call ≠ .leafChecks q) →
          after.revocation.length = p.length ∧ (p.certificates = [] → after.isCt = false)) := by
  intro h
  have hrevocation := ((h ⟨.empty, [], 5, []⟩ initial [.pathChecks (.ofCertificates [.plain [1]])]
    (.pathChecks (.ofCertificates []))).2 nofun).1
  revert hrevocation
  decide +kernel

/-- A leaf that was just checked is reported as it was, but the state is that of a path which failed
for want of a trusted anchor. -/
example :
    let r : Request := ⟨.empty, [], 5, []⟩
    let p := Path.ofCertificates [.plain [1]]
    let answered := (initial.afterCalls r [.pathChecks p]).answer r (.leafChecks p)
    answered.1 = .unspecified ∧ answered.2.verdict = .recoverable := by
  decide +kernel

end Evaluation
end ChainTrust
