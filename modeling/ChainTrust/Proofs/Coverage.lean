import ChainTrust.Proofs.Outcome

namespace ChainTrust

/-- Failures of these checks count although nothing asks for the check. -/
def Check.forced : List Check :=
  [ .anchorTrusted, .weakLeaf, .weakIntermediates, .nameConstraints, .basicConstraints,
    .basicConstraintsCa, .criticalExtensions, .blackListedKey, .grayListedKey, .usageConstraints ]

theorem Check.always_of_forced {c : Check} (h : c ∈ forced) : c ∈ always := by
  revert c
  decide

/-- The path is anchored, and its last certificate has no constraints or the first one that applies
declares it a root, if it declares anything. -/
def Path.EndsTrusted (r : Request) (p : Path) : Prop :=
  p.isAnchored = true ∧ (p.constraintsAt (p.length - 1) = [] ∨
    ∃ c ∈ (p.constraintsAt (p.length - 1)).find? (r.isMet r.firstPolicy? (p.length - 1)),
      c.standing = some .trustRoot ∨ c.standing = some .trustAsRoot ∨ c.standing = none)

instance (r : Request) (p : Path) : Decidable (p.EndsTrusted r) :=
  have : Decidable (p.constraintsAt (p.length - 1) = []) :=
    decidable_of_iff _ List.isEmpty_iff
  inferInstanceAs (Decidable (_ ∧ (_ ∨ ∃ c ∈ (_ : Option Constraint), _)))

/-- Nothing is allowed on a path without constraints. -/
theorem Path.allowedError_eq_none {p : Path} (h : ∀ cs ∈ p.constraints, cs = []) :
    ∀ cs ∈ p.constraints, ∀ c ∈ cs, c.allowedError = none := by
  intro cs hcs c hmem
  rw [h cs hcs] at hmem
  cases hmem

namespace Request

variable {r : Request} {p : Path}

theorem trustsAnchor_iff (hp : p.certificates ≠ []) :
    r.trustsAnchor p = true ↔ p.EndsTrusted r := by
  have hne : p.certificates.isEmpty = false := by simpa using hp
  have hstanding : r.standing p (p.length - 1) = .trustRoot ∨
      r.standing p (p.length - 1) = .trustAsRoot ↔
        ∃ c ∈ (p.constraintsAt (p.length - 1)).find? (r.isMet r.firstPolicy? (p.length - 1)),
          c.standing = some .trustRoot ∨ c.standing = some .trustAsRoot ∨ c.standing = none := by
    unfold standing
    cases (p.constraintsAt (p.length - 1)).find? (r.isMet r.firstPolicy? (p.length - 1)) with
    | none => simp
    | some c =>
      cases hc : c.standing with
      | none => simp [hc]
      | some s => cases s <;> simp [hc]
  simp only [trustsAnchor, hne, Bool.not_false, Bool.and_true, Bool.and_eq_true, Bool.or_eq_true,
    List.isEmpty_iff, beq_iff_eq, or_assoc, hstanding]
  rfl

theorem trustsAnchor_eq_false_iff (hp : p.certificates ≠ []) :
    r.trustsAnchor p = false ↔ ¬p.EndsTrusted r := by
  rw [← trustsAnchor_iff hp, Bool.not_eq_true]

theorem processedCount_eq (hp : p.certificates ≠ []) :
    Processing.processedCount r p = if p.EndsTrusted r then p.length - 1 else p.length :=
  if_congr (trustsAnchor_iff hp) rfl rfl

/-- Only a constraint that allows some status code can waive a failure. -/
theorem isWaived_eq_false {current : Option Policy} {name : CheckName} {ix : Nat}
    (h : ∀ cs ∈ p.constraints, ∀ c ∈ cs, c.allowedError = none) :
    r.isWaived current p name ix = false := by
  rw [isWaived, List.any_eq_false]
  intro c hc
  have hnone : c.allowedError = none := by
    unfold Path.constraintsAt at hc
    cases hcs : p.constraints[ix]? with
    | none => simp [hcs] at hc
    | some cs =>
      rw [hcs] at hc
      exact h cs (List.mem_of_getElem? hcs) c hc
  simp [hnone]

/-- Most checks have no status code that could be allowed. -/
theorem isWaived_eq_false_of_waiverCodes {current : Option Policy} {check : Check} {ix : Nat}
    (h : check.waiverCodes = []) : r.isWaived current p (.known check) ix = false := by
  rw [isWaived, List.any_eq_false]
  intro c _
  cases c.allowedError <;> simp [CheckName.waiverCodes, h]

theorem isExempt_eq_false {name : CheckName} {ix : Nat} {value : Bool} (h : r.exemptions = []) :
    r.isExempt p name ix value = false := by
  simp [isExempt, exemptionAt?, h]

end Request

namespace Processing

/-- Something is found that fails a check whether or not it was asked for. -/
def Forces (r : Request) (p : Path) (check : Check) (ix : Nat) : Prop :=
  Found r p (.violated check ix) ∨ Found r p (.fatal check ix)

variable {r : Request} {p : Path} {ix : Nat}

theorem forces_anchorTrusted_iff :
    Forces r p .anchorTrusted ix ↔
      ix = p.length - 1 ∧ r.trustsAnchor p = false ∧ p.isAllowlisted = false := by
  constructor
  · intro h
    rcases h with h | h
    · cases h with
      | untrusted ht ha => exact ⟨rfl, ht, ha⟩
    · cases h
  · intro h
    obtain ⟨rfl, ht, ha⟩ := h
    exact .inl (.untrusted ht ha)

theorem forces_basicConstraintsCa_iff :
    Forces r p .basicConstraintsCa ix ↔ (0 < ix ∧ ix < processedCount r p) ∧
      ∃ c ∈ p.certificate? ix, 3 ≤ c.version ∧ c.isCa = false := by
  constructor
  · intro h
    rcases h with h | h
    · cases h with
      | notCa h0 hn hc hv h => exact ⟨⟨Nat.pos_of_ne_zero h0, hn⟩, _, hc, hv, h⟩
    · cases h
  · intro h
    obtain ⟨⟨h0, hn⟩, c, hc, hv, h⟩ := h
    exact .inl (.notCa h0.ne' hn hc hv h)

theorem forces_basicConstraints_iff :
    Forces r p .basicConstraints ix ↔ (0 < ix ∧ ix < processedCount r p) ∧
      ∃ c ∈ p.certificate? ix, c.isSelfIssued = false ∧ (scopeAt r p ix).room = 0 := by
  constructor
  · intro h
    rcases h with h | h
    · cases h with
      | tooDeep h0 hn hc hs h => exact ⟨⟨Nat.pos_of_ne_zero h0, hn⟩, _, hc, hs, h⟩
    · cases h
  · intro h
    obtain ⟨⟨h0, hn⟩, c, hc, hs, h⟩ := h
    exact .inl (.tooDeep h0.ne' hn hc hs h)

theorem forces_criticalExtensions_iff :
    Forces r p .criticalExtensions ix ↔ (ix = 0 ∨ 0 < ix ∧ ix < processedCount r p) ∧
      ∃ c ∈ p.certificate? ix, c.unknownCritical = true := by
  constructor
  · intro h
    rcases h with h | h
    · cases h with
      | critical h0 hn hc h => exact ⟨.inr ⟨Nat.pos_of_ne_zero h0, hn⟩, _, hc, h⟩
      | criticalLeaf hc h => exact ⟨.inl rfl, _, hc, h⟩
    · cases h
  · intro h
    obtain ⟨rfl | ⟨h0, hn⟩, c, hc, h⟩ := h
    · exact .inl (.criticalLeaf hc h)
    · exact .inl (.critical h0.ne' hn hc h)

theorem forces_weakLeaf_iff :
    Forces r p .weakLeaf ix ↔ (ix = 0 ∧ 0 < processedCount r p) ∧
      ∃ c ∈ p.certificate? ix, c.hasWeakKey = true := by
  constructor
  · intro h
    rcases h with h | h
    · cases h
    · cases h with
      | weakLeaf hn hc h => exact ⟨⟨rfl, hn⟩, _, hc, h⟩
  · intro h
    obtain ⟨⟨rfl, hn⟩, c, hc, h⟩ := h
    exact .inr (.weakLeaf hn hc h)

theorem forces_weakIntermediates_iff :
    Forces r p .weakIntermediates ix ↔ (0 < ix ∧ ix < processedCount r p) ∧
      ∃ c ∈ p.certificate? ix, c.hasWeakKey = true := by
  constructor
  · intro h
    rcases h with h | h
    · cases h
    · cases h with
      | weakAuthority h0 hn hc h => exact ⟨⟨Nat.pos_of_ne_zero h0, hn⟩, _, hc, h⟩
  · intro h
    obtain ⟨⟨h0, hn⟩, c, hc, h⟩ := h
    exact .inr (.weakAuthority h0.ne' hn hc h)

theorem forces_grayListedKey_iff :
    Forces r p .grayListedKey ix ↔ (1 ≤ ix ∧ ix < p.nonAnchorCount) ∧
      ∃ c ∈ p.certificate? ix, r.environment.isGraylistedKey c.keySha1 = true := by
  constructor
  · intro h
    rcases h with h | h
    · cases h with
      | graylisted h1 he hc h => exact ⟨⟨h1, he⟩, _, hc, h⟩
    · cases h
  · intro h
    obtain ⟨⟨h1, he⟩, c, hc, h⟩ := h
    exact .inl (.graylisted h1 he hc h)

theorem forces_blackListedKey_iff :
    Forces r p .blackListedKey ix ↔
      ((1 ≤ ix ∧ ix < p.nonAnchorCount) ∧
        ∃ c ∈ p.certificate? ix, r.environment.isBlockedKey c.keySha1 = true) ∨
      ((∃ root ∈ p.root?, r.environment.isDistrustedRoot root.sha256 = true) ∧
        ix < p.length - 1 ∧ ∃ c ∈ p.certificate? ix, distrustStart ≤ c.notBefore) := by
  constructor
  · intro h
    rcases h with h | h
    · cases h
    · cases h with
      | blocked h1 he hc h => exact .inl ⟨⟨h1, he⟩, _, hc, h⟩
      | distrusted hr hd hl hc h =>
        exact .inr ⟨⟨_, hr, hd⟩, Nat.lt_sub_of_add_lt hl, _, hc, h⟩
  · intro h
    rcases h with ⟨⟨h1, he⟩, c, hc, h⟩ | ⟨⟨root, hr, hd⟩, hl, c, hc, h⟩
    · exact .inr (.blocked h1 he hc h)
    · exact .inr (.distrusted hr hd (Nat.add_lt_of_lt_sub hl) hc h)

theorem forces_usageConstraints_iff :
    Forces r p .usageConstraints ix ↔ ix < p.length ∧ r.standing p ix = .deny := by
  constructor
  · intro h
    rcases h with h | h
    · cases h with
      | denied hl h => exact ⟨hl, h⟩
    · cases h
  · intro h
    obtain ⟨hl, h⟩ := h
    exact .inl (.denied hl h)

theorem forces_nameConstraints_iff :
    Forces r p .nameConstraints ix ↔ ix < processedCount r p ∧ ∃ c ∈ p.certificate? ix,
      (ix = 0 ∨ c.isSelfIssued = false) ∧
        (scopeAt r p ix).forbids r.environment.hostOf c = true := by
  constructor
  · intro h
    rcases h with h | h
    · cases h with
      | forbidden hn hc hs h => exact ⟨hn, _, hc, hs, h⟩
    · cases h
  · intro h
    obtain ⟨hn, c, hc, hs, h⟩ := h
    exact .inl (.forbidden hn hc hs h)

theorem lt_length_of_forces {check : Check} (hp : p.certificates ≠ [])
    (h : Forces r p check ix) : ix < p.length := by
  rcases h with h | h
  · cases h with
    | untrusted => exact Nat.sub_lt (List.length_pos_iff.mpr hp) Nat.one_pos
    | denied hl => exact hl
    | forbidden _ hc | notCa _ _ hc | tooDeep _ _ hc | critical _ _ hc | criticalLeaf hc
    | graylisted _ _ hc => exact Path.certificate?_eq_some_lt hc
  · cases h with
    | weakLeaf _ hc | weakAuthority _ _ hc | blocked _ _ hc | distrusted _ _ _ hc =>
      exact Path.certificate?_eq_some_lt hc

end Processing

namespace Evaluation

variable {r : Request} {p : Path} {check : Check} {ix : Nat}

/-- What is part of every evaluation is found while the first policy is looked at. -/
theorem arises_failed_iff_found {current : Option Policy} (h : check ∈ Check.always)
    (hct : check ≠ .ctRequired) :
    Finding.Arises r p current (.failed check ix) ↔
      current = r.firstPolicy? ∧ Processing.Found r p (.failed check ix) := by
  constructor
  · intro ha
    cases ha with
    | leafCheck _ _ _ _ hf =>
      exact absurd h (Check.not_always_of_ofLeaf (LeafCheck.ofLeaf_of_fails hf))
    | pathCheck _ _ hf =>
      exact absurd h (Check.not_always_of_ofPath (PathCheck.ofPath_of_failures hf))
    | always hf => exact ⟨rfl, hf⟩
    | timestamps => exact absurd rfl hct
  · intro h
    obtain ⟨rfl, hf⟩ := h
    exact .always hf

theorem not_arises_failed_of_forced {current : Option Policy} (h : check ∈ Check.forced) :
    ¬Finding.Arises r p current (.failed check ix) := by
  have hct : check ≠ .ctRequired := by
    rintro rfl
    exact absurd h (by decide)
  rw [arises_failed_iff_found (Check.always_of_forced h) hct]
  intro hfound
  cases hfound.2 with
  | unlinked => exact absurd h (by decide)
  | invalid =>
    unfold Processing.validityCheck at h
    split_ifs at h <;> exact absurd h (by decide)

theorem arises_iff_forces (h : check ∈ Check.forced) :
    (∃ current, Finding.Arises r p current (.violated check ix) ∨
      Finding.Arises r p current (.fatal check ix)) ↔ Processing.Forces r p check ix := by
  constructor
  · intro h
    obtain ⟨current, ha | ha⟩ := h
    · cases ha with
      | always hf => exact .inl hf
    · cases ha with
      | blockedLeaf => exact absurd h (by decide)
      | always hf => exact .inr hf
  · intro h
    rcases h with hf | hf
    · exact ⟨_, .inl (.always hf)⟩
    · exact ⟨_, .inr (.always hf)⟩

section Kept

variable (hx : r.exemptions = []) (hw : ∀ current, r.isWaived current p (.known check) ix = false)

include hx hw

/-- If nothing waives or accepts a failure, all that is found is noted. -/
theorem noted_mem_effects_iff_forces (h : check ∈ Check.forced) :
    .noted check ix ∈ effects r p ↔ ix < p.length ∧ Processing.Forces r p check ix := by
  rw [noted_mem_effects, ← arises_iff_forces h]
  simp only [hw, Request.isExempt_eq_false hx, not_arises_failed_of_forced h, false_and, false_or,
    and_self, and_true, ← exists_or, or_comm]

theorem hasFailed_iff_forces_of_kept (hp : p.certificates ≠ []) (h : check ∈ Check.forced) :
    (initial.pathChecks r p).2.1.hasFailed check ix = true ↔ Processing.Forces r p check ix := by
  rw [(isFresh_initial p).hasFailed_iff hp, noted_mem_effects_iff_forces hx hw h]
  exact and_iff_right_of_imp (Processing.lt_length_of_forces hp)

end Kept

/-- Nothing waives the failure of a check that has no status code. -/
theorem hasFailed_iff_forces_of_waiverCodes (hx : r.exemptions = []) (hp : p.certificates ≠ [])
    (hw : check.waiverCodes = []) (h : check ∈ Check.forced) :
    (initial.pathChecks r p).2.1.hasFailed check ix = true ↔ Processing.Forces r p check ix :=
  hasFailed_iff_forces_of_kept hx (fun _ => Request.isWaived_eq_false_of_waiverCodes hw) hp h

section Strict

variable (hx : r.exemptions = []) (ha : ∀ cs ∈ p.constraints, ∀ c ∈ cs, c.allowedError = none)

include hx ha

theorem hasFailed_iff_forces (hp : p.certificates ≠ []) (h : check ∈ Check.forced) :
    (initial.pathChecks r p).2.1.hasFailed check ix = true ↔ Processing.Forces r p check ix :=
  hasFailed_iff_forces_of_kept hx (fun _ => Request.isWaived_eq_false ha) hp h

theorem not_forces_of_isOk (hp : p.certificates ≠ []) (h : check ∈ Check.forced)
    (hok : (initial.pathChecks r p).1.isOk = true) : ¬Processing.Forces r p check ix := by
  intro hforces
  refine (isFresh_initial p).not_noted_of_isOk hp hok check ix ?_
  rw [noted_mem_effects_iff_forces hx (fun _ => Request.isWaived_eq_false ha) h]
  exact ⟨Processing.lt_length_of_forces hp hforces, hforces⟩

/-- The leaf of an accepted path passes what the policies ask for. -/
theorem not_fails_of_isOk {policy : Policy} {leaf : Facts} {v : OptionValue}
    (hl : p.leaf? = some leaf) (hok : (initial.pathChecks r p).1.isOk = true)
    (hp : policy ∈ r.policies) (ho : (.known check, v) ∈ policy.options)
    (hb : check ≠ .blackListedLeaf) : LeafCheck.fails r leaf v check = false := by
  rw [← Bool.not_eq_true]
  intro hfails
  have hc : p.certificates ≠ [] := Path.ne_nil_of_leaf? hl
  have harises := Finding.Arises.leafCheck hp hl ho hb hfails
  refine (isFresh_initial p).not_noted_of_isOk hc hok check 0 (noted_mem_effects.mpr ?_)
  refine ⟨List.length_pos_iff.mpr hc, .inr ⟨some policy, .inl ⟨harises, ?_⟩, ?_, ?_⟩⟩
  · exact Request.isRequested_of_mem ho p
  · exact Request.isWaived_eq_false ha
  · exact Request.isExempt_eq_false hx

end Strict

/-- Each certificate fails exactly the checks that its place and its faults call for. -/
theorem pathChecks_coverage (r : Request) (p : Path) (hp : p.certificates ≠ [])
    (hx : r.exemptions = []) (ha : ∀ cs ∈ p.constraints, ∀ c ∈ cs, c.allowedError = none)
    (ix : Nat) :
    let count := p.length
    let processed := if p.EndsTrusted r then count - 1 else count
    let listed := if p.isAnchored then count - 1 else count
    let failed := fun check => (initial.pathChecks r p).2.1.hasFailed check ix = true
    (failed .anchorTrusted ↔ ix = count - 1 ∧ ¬p.EndsTrusted r ∧ p.isAllowlisted = false) ∧
    (failed .basicConstraintsCa ↔ (0 < ix ∧ ix < processed) ∧
      ∃ c ∈ p.certificate? ix, 3 ≤ c.version ∧ c.isCa = false) ∧
    (failed .criticalExtensions ↔ (ix = 0 ∨ 0 < ix ∧ ix < processed) ∧
      ∃ c ∈ p.certificate? ix, c.unknownCritical = true) ∧
    (failed .weakLeaf ↔ (ix = 0 ∧ 0 < processed) ∧
      ∃ c ∈ p.certificate? ix, c.hasWeakKey = true) ∧
    (failed .weakIntermediates ↔ (0 < ix ∧ ix < processed) ∧
      ∃ c ∈ p.certificate? ix, c.hasWeakKey = true) ∧
    (failed .grayListedKey ↔ (1 ≤ ix ∧ ix < listed) ∧
      ∃ c ∈ p.certificate? ix, r.environment.isGraylistedKey c.keySha1 = true) ∧
    (failed .blackListedKey ↔
      ((1 ≤ ix ∧ ix < listed) ∧
        ∃ c ∈ p.certificate? ix, r.environment.isBlockedKey c.keySha1 = true) ∨
      ((∃ root ∈ p.root?, r.environment.isDistrustedRoot root.sha256 = true) ∧
        ix < count - 1 ∧ ∃ c ∈ p.certificate? ix, Processing.distrustStart ≤ c.notBefore)) ∧
    (failed .usageConstraints ↔ ix < count ∧ r.standing p ix = .deny) := by
  intro count processed listed failed
  have hfailed : ∀ check ∈ Check.forced, failed check ↔ Processing.Forces r p check ix :=
    fun check h => hasFailed_iff_forces hx ha hp h
  have hprocessed : processed = Processing.processedCount r p := (Request.processedCount_eq hp).symm
  rw [hprocessed, ← Request.trustsAnchor_eq_false_iff hp]
  refine ⟨?_, ?_, ?_, ?_, ?_, ?_, ?_, ?_⟩
  · exact (hfailed _ (by decide)).trans Processing.forces_anchorTrusted_iff
  · exact (hfailed _ (by decide)).trans Processing.forces_basicConstraintsCa_iff
  · exact (hfailed _ (by decide)).trans Processing.forces_criticalExtensions_iff
  · exact (hfailed _ (by decide)).trans Processing.forces_weakLeaf_iff
  · exact (hfailed _ (by decide)).trans Processing.forces_weakIntermediates_iff
  · exact (hfailed _ (by decide)).trans Processing.forces_grayListedKey_iff
  · exact (hfailed _ (by decide)).trans Processing.forces_blackListedKey_iff
  · exact (hfailed _ (by decide)).trans Processing.forces_usageConstraints_iff

/-- A weak key between the leaf and a trusted anchor. -/
theorem pathChecks_coverage_weak :
    (initial.pathChecks ⟨.empty, [], 5, []⟩
      { Path.ofCertificates [.plain [1], { Facts.plain [2] with keySize := 512 }, .plain [3]] with
        isAnchored := true }).2.1.hasFailed .weakIntermediates 1 = true :=
  (pathChecks_coverage _ _ (List.cons_ne_nil _ _) rfl (by decide) 1).2.2.2.2.1.mpr (by decide)

end Evaluation
end ChainTrust
