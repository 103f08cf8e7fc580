import ChainTrust.Proofs.Coverage

namespace ChainTrust

/-- Failures of these checks are looked for in every path, and count if something asks for them. -/
def Check.onRequest : List Check := [.idLinkage, .validLeaf, .validIntermediates, .validRoot]

theorem Check.always_of_onRequest {c : Check} (h : c ∈ onRequest) : c ∈ always := by
  revert c
  decide

/-- Without usage constraints only the policy that is looked at can ask for a check. -/
theorem Request.isRequested_iff {current : Option Policy} {p : Path} {check : Check}
    (hc : ∀ cs ∈ p.constraints, cs = []) :
    isRequested current p (.known check) = true ↔
      ∃ policy ∈ current, policy.requests check = true := by
  have hnone : p.constraints.flatten = [] := List.flatten_eq_nil_iff.mpr hc
  simp only [isRequested, hnone, List.any_nil, Bool.or_false, Option.any_eq_true]
  rfl

namespace Processing

variable {r : Request} {p : Path} {check : Check} {ix : Nat}

theorem processedCount_le (r : Request) (p : Path) : processedCount r p ≤ p.length := by
  unfold processedCount
  split
  · exact Nat.sub_le _ _
  · exact le_rfl

theorem isUnlinked_iff {child parent : Facts} :
    isUnlinked child parent = true ↔
      ∃ a ∈ child.authorityKeyId, ∃ b ∈ parent.subjectKeyId, a ≠ b := by
  unfold isUnlinked
  cases child.authorityKeyId <;> cases parent.subjectKeyId <;> simp

theorem validityCheck_eq_validLeaf_iff : validityCheck p ix = .validLeaf ↔ ix = 0 := by
  unfold validityCheck
  split_ifs with h0 <;> simp [h0]

theorem validityCheck_eq_validRoot_iff :
    validityCheck p ix = .validRoot ↔ ix ≠ 0 ∧ ix = p.length - 1 := by
  unfold validityCheck
  split_ifs with h0 hl
  · simp [h0]
  · simp [← hl, h0]
  · simp [hl]

theorem validityCheck_eq_validIntermediates_iff :
    validityCheck p ix = .validIntermediates ↔ ix ≠ 0 ∧ ix ≠ p.length - 1 := by
  unfold validityCheck
  split_ifs with h0 hl
  · simp [h0]
  · simp [hl]
  · simp [h0, hl]

/-- What counts on request is found at certificates that are not linked and at those that are not
valid. -/
theorem found_failed_iff :
    Found r p (.failed check ix) ↔
      (check = .idLinkage ∧ ∃ child ∈ p.certificate? ix, ∃ parent ∈ p.certificate? (ix + 1),
        isUnlinked child parent = true) ∨
      (check = validityCheck p ix ∧ ix < processedCount r p ∧
        ∃ c ∈ p.certificate? ix, c.isValidAt r.time = false) := by
  constructor
  · intro h
    generalize hf : Finding.failed check ix = f at h
    cases h with
    | unlinked hc hp hu =>
      cases hf
      exact .inl ⟨rfl, _, hc, _, hp, hu⟩
    | invalid hn hc hv =>
      cases hf
      exact .inr ⟨rfl, hn, _, hc, hv⟩
    | _ => cases hf
  · intro h
    rcases h with ⟨rfl, child, hc, parent, hp, hu⟩ | ⟨rfl, hn, c, hc, hv⟩
    · exact .unlinked hc hp hu
    · exact .invalid hn hc hv

theorem lt_length_of_found_failed (h : Found r p (.failed check ix)) : ix < p.length := by
  rcases found_failed_iff.mp h with ⟨-, child, hc, -⟩ | ⟨-, -, c, hc, -⟩
  · exact Path.certificate?_eq_some_lt hc
  · exact Path.certificate?_eq_some_lt hc

theorem found_validLeaf_iff :
    Found r p (.failed .validLeaf ix) ↔ (ix = 0 ∧ 0 < processedCount r p) ∧
      ∃ c ∈ p.certificate? ix, c.isValidAt r.time = false := by
  rw [found_failed_iff, eq_comm (b := validityCheck p ix), validityCheck_eq_validLeaf_iff]
  simp only [reduceCtorEq, false_and, false_or, and_assoc]
  refine and_congr_right fun h0 => ?_
  rw [h0]

theorem found_validIntermediates_iff :
    Found r p (.failed .validIntermediates ix) ↔
      (0 < ix ∧ ix < processedCount r p ∧ ix < p.length - 1) ∧
        ∃ c ∈ p.certificate? ix, c.isValidAt r.time = false := by
  have hle := processedCount_le r p
  rw [found_failed_iff, eq_comm (b := validityCheck p ix), validityCheck_eq_validIntermediates_iff]
  simp only [reduceCtorEq, false_and, false_or, ← and_assoc]
  refine and_congr_left fun _ => ?_
  omega

theorem found_validRoot_iff :
    Found r p (.failed .validRoot ix) ↔
      (ix = p.length - 1 ∧ processedCount r p = p.length ∧ 1 < p.length) ∧
        ∃ c ∈ p.certificate? ix, c.isValidAt r.time = false := by
  have hle := processedCount_le r p
  rw [found_failed_iff, eq_comm (b := validityCheck p ix), validityCheck_eq_validRoot_iff]
  simp only [reduceCtorEq, false_and, false_or, ← and_assoc]
  refine and_congr_left fun _ => ?_
  omega

theorem found_idLinkage_iff :
    Found r p (.failed .idLinkage ix) ↔
      ∃ child ∈ p.certificate? ix, ∃ parent ∈ p.certificate? (ix + 1),
        ∃ a ∈ child.authorityKeyId, ∃ b ∈ parent.subjectKeyId, a ≠ b := by
  have hother : Check.idLinkage ≠ validityCheck p ix := by
    unfold validityCheck
    split_ifs <;> nofun
  simp only [found_failed_iff, hother, false_and, or_false, true_and, isUnlinked_iff]

end Processing

namespace Evaluation

variable {r : Request} {p : Path} {check : Check} {ix : Nat}

/-- What counts on request is never recorded in another way. -/
theorem not_arises_otherwise {current : Option Policy} (h : check ∈ Check.onRequest) :
    ¬Finding.Arises r p current (.violated check ix) ∧
      ¬Finding.Arises r p current (.fatal check ix) := by
  constructor
  · intro ha
    cases ha with
    | always hf => cases hf <;> exact absurd h (by decide)
  · intro ha
    cases ha with
    | blockedLeaf => exact absurd h (by decide)
    | always hf => cases hf <;> exact absurd h (by decide)

section Plain

variable (hx : r.exemptions = []) (hc : ∀ cs ∈ p.constraints, cs = [])

include hx hc

/-- What is found is noted if the first policy asks for it. -/
theorem noted_mem_effects_iff_asked (h : check ∈ Check.onRequest) :
    .noted check ix ∈ effects r p ↔
      (∃ policy ∈ r.policies.head?, policy.requests check = true) ∧
        Processing.Found r p (.failed check ix) := by
  have hct : check ≠ .ctRequired := by
    rintro rfl
    exact absurd h (by decide)
  rw [noted_mem_effects]
  simp only [arises_failed_iff_found (Check.always_of_onRequest h) hct, not_arises_otherwise h,
    Request.isRequested_iff hc, Request.isWaived_eq_false (Path.allowedError_eq_none hc),
    Request.isExempt_eq_false hx,
    exists_false, false_or, or_false, and_self, and_true]
  constructor
  · intro h
    obtain ⟨-, current, ⟨rfl, hf⟩, hasked⟩ := h
    exact ⟨hasked, hf⟩
  · intro h
    obtain ⟨hasked, hf⟩ := h
    exact ⟨Processing.lt_length_of_found_failed hf, _, ⟨rfl, hf⟩, hasked⟩

theorem hasFailed_iff_asked (hp : p.certificates ≠ []) (h : check ∈ Check.onRequest) :
    (initial.pathChecks r p).2.1.hasFailed check ix = true ↔
      (∃ policy ∈ r.policies.head?, policy.requests check = true) ∧
        Processing.Found r p (.failed check ix) := by
  rw [(isFresh_initial p).hasFailed_iff hp, noted_mem_effects_iff_asked hx hc h]

end Plain

/-- A certificate that is not valid or not linked to the next has failed the check of that exactly
if the first policy names the check. -/
theorem pathChecks_requests (r : Request) (p : Path) (hp : p.certificates ≠ [])
    (hx : r.exemptions = []) (hc : ∀ cs ∈ p.constraints, cs = []) (ix : Nat) :
    let count := p.length
    let processed := if p.EndsTrusted r then count - 1 else count
    let failed := fun check => (initial.pathChecks r p).2.1.hasFailed check ix = true
    let asked := fun check => ∃ policy ∈ r.policies.head?, policy.requests check = true
    let invalid := ∃ c ∈ p.certificate? ix, c.isValidAt r.time = false
    (failed .validLeaf ↔ asked .validLeaf ∧ (ix = 0 ∧ 0 < processed) ∧ invalid) ∧
    (failed .validIntermediates ↔ asked .validIntermediates ∧
      (0 < ix ∧ ix < processed ∧ ix < count - 1) ∧ invalid) ∧
    (failed .validRoot ↔ asked .validRoot ∧
      (ix = count - 1 ∧ processed = count ∧ 1 < count) ∧ invalid) ∧
    (failed .idLinkage ↔ asked .idLinkage ∧
      ∃ child ∈ p.certificate? ix, ∃ parent ∈ p.certificate? (ix + 1),
        ∃ a ∈ child.authorityKeyId, ∃ b ∈ parent.subjectKeyId, a ≠ b) := by
  intro count processed failed asked invalid
  have hfailed : ∀ check ∈ Check.onRequest,
      failed check ↔ asked check ∧ Processing.Found r p (.failed check ix) :=
    fun check h => hasFailed_iff_asked hx hc hp h
  have hprocessed : processed = Processing.processedCount r p := (Request.processedCount_eq hp).symm
  rw [hprocessed]
  refine ⟨?_, ?_, ?_, ?_⟩
  · rw [hfailed _ (by decide), Processing.found_validLeaf_iff]
  · rw [hfailed _ (by decide), Processing.found_validIntermediates_iff]
  · rw [hfailed _ (by decide), Processing.found_validRoot_iff]
  · rw [hfailed _ (by decide), Processing.found_idLinkage_iff]

/-- A request of all that counts on request, after some other policies. -/
def lateRequest (before : List Policy) : Request :=
  let all := Check.onRequest.map fun check => (CheckName.known check, OptionValue.bool true)
  ⟨.empty, before ++ [⟨"", "", all⟩], 11, []⟩

/-- No certificate of the path is valid, and none is linked to the next. -/
def faultyPath : Path :=
  Path.ofCertificates <| [1, 2, 3].map fun digest =>
    { Facts.plain [digest] with authorityKeyId := some [0], subjectKeyId := some [digest] }

/-- What the first policy asks for is heard. -/
theorem pathChecks_requests_first :
    (initial.pathChecks (lateRequest []) faultyPath).2.1.hasFailed .validIntermediates 1 = true :=
  (pathChecks_requests _ _ (List.cons_ne_nil _ _) rfl (by decide) 1).2.1.mpr (by decide +kernel)

/-- What another policy asks for is not. -/
theorem later_requests_ignored :
    ¬∀ (r : Request) (p : Path), p.certificates ≠ [] → r.exemptions = [] →
      (∀ cs ∈ p.constraints, cs = []) → ∀ policy ∈ r.policies,
        let count := p.length
        let processed := if p.EndsTrusted r then count - 1 else count
        let failed := fun check ix => (initial.pathChecks r p).2.1.hasFailed check ix = true
        let invalid := fun ix => ∃ c ∈ p.certificate? ix, c.isValidAt r.time = false
        (policy.requests .validLeaf = true → 0 < processed → invalid 0 → failed .validLeaf 0) ∧
        (policy.requests .validIntermediates = true →
          ∀ ix, 0 < ix → ix < processed → ix < count - 1 → invalid ix →
            failed .validIntermediates ix) ∧
        (policy.requests .validRoot = true → processed = count → 1 < count → invalid (count - 1) →
          failed .validRoot (count - 1)) ∧
        (policy.requests .idLinkage = true → ∀ ix, ix + 1 < count →
          (∃ child ∈ p.certificate? ix, ∃ parent ∈ p.certificate? (ix + 1),
            ∃ a ∈ child.authorityKeyId, ∃ b ∈ parent.subjectKeyId, a ≠ b) →
              failed .idLinkage ix) := by
  intro h
  have hleaf := (h (lateRequest [⟨"first", "1.2.3", []⟩]) faultyPath (List.cons_ne_nil _ _) rfl
    (by decide) _ (List.mem_cons_of_mem _ List.mem_cons_self)).1 (by decide) (by decide)
    (by decide)
  revert hleaf
  decide +kernel

end Evaluation
end ChainTrust
