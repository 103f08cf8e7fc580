import ChainTrust.Proofs.Coverage

namespace ChainTrust

/-- Some status code waives the failures of these checks. -/
def Check.waivable : List Check :=
  [.validLeaf, .validIntermediates, .validRoot, .anchorTrusted, .sslHostname, .email]

theorem Check.waivable_of_mem_waiverCodes {check : Check} {code : Int}
    (h : code ∈ check.waiverCodes) : check ∈ waivable := by
  cases check <;> first | decide | exact (List.not_mem_nil h).elim

def Constraint.withoutWaiver (c : Constraint) : Constraint :=
  { c with allowedError := none }

namespace Path

/-- The path with constraints that allow no status code, and are the same otherwise. -/
def withoutWaivers (p : Path) : Path :=
  { p with constraints := p.constraints.map (·.map Constraint.withoutWaiver) }

theorem constraintsAt_withoutWaivers (p : Path) (ix : Nat) :
    p.withoutWaivers.constraintsAt ix = (p.constraintsAt ix).map Constraint.withoutWaiver := by
  simp only [constraintsAt, withoutWaivers, List.getElem?_map]
  cases p.constraints[ix]? <;> rfl

end Path

namespace Request

/-- A policy that is looked at, or no policy if there is none. -/
def Considers (r : Request) (current : Option Policy) : Prop :=
  (∃ policy ∈ r.policies, current = some policy) ∨ r.policies = [] ∧ current = none

theorem considers_firstPolicy? (r : Request) : r.Considers r.firstPolicy? := by
  unfold Considers firstPolicy?
  cases r.policies with
  | nil => exact .inr ⟨rfl, rfl⟩
  | cons policy policies => exact .inl ⟨policy, List.mem_cons_self, rfl⟩

variable (r : Request) (current : Option Policy) (p : Path) (name : CheckName) (ix : Nat)

theorem isWaived_iff {r : Request} {current : Option Policy} {p : Path} {check : Check} {ix : Nat} :
    r.isWaived current p (.known check) ix = true ↔
      ∃ c ∈ p.constraintsAt ix, (∃ code ∈ c.allowedError, code ∈ check.waiverCodes) ∧
        r.isMet current ix c = true := by
  simp only [isWaived, CheckName.waiverCodes, List.any_eq_true, Bool.and_eq_true,
    Option.any_eq_true, List.contains_iff_mem]
  rfl

theorem isWaived_withoutWaivers : r.isWaived current p.withoutWaivers name ix = false := by
  apply isWaived_eq_false
  intro cs hcs c hc
  obtain ⟨_, -, rfl⟩ := List.mem_map.mp hcs
  obtain ⟨_, -, rfl⟩ := List.mem_map.mp hc
  rfl

theorem isRequested_withoutWaivers :
    isRequested current p.withoutWaivers name = isRequested current p name := by
  simp only [isRequested, Path.withoutWaivers, ← List.map_flatten, List.any_map]
  rfl

theorem isExempt_withoutWaivers (value : Bool) :
    r.isExempt p.withoutWaivers name ix value = r.isExempt p name ix value :=
  rfl

/-- What a constraint declares does not depend on the code that it allows. -/
theorem standing_withoutWaivers : r.standing p.withoutWaivers ix = r.standing p ix := by
  have hmet : r.isMet r.firstPolicy? ix ∘ Constraint.withoutWaiver = r.isMet r.firstPolicy? ix :=
    rfl
  unfold standing
  rw [p.constraintsAt_withoutWaivers, List.find?_map, hmet]
  cases (p.constraintsAt ix).find? (r.isMet r.firstPolicy? ix) <;> rfl

theorem trustsAnchor_withoutWaivers : r.trustsAnchor p.withoutWaivers = r.trustsAnchor p := by
  unfold trustsAnchor
  simp only [standing_withoutWaivers, Path.constraintsAt_withoutWaivers, List.isEmpty_map]
  rfl

/-- Recording a failure comes to the same, unless it is waived. -/
theorem recording_withoutWaivers (check : Check) (force : Bool) :
    r.recording current p check ix force =
      if r.isWaived current p (.known check) ix then .ignored
      else r.recording current p.withoutWaivers check ix force := by
  simp only [recording, isRequested_withoutWaivers, isWaived_withoutWaivers]
  cases r.isWaived current p (.known check) ix with
  | true => simp
  | false => rfl

end Request

namespace Finding

variable {r : Request} {p : Path} {current : Option Policy} {f : Finding}

theorem Arises.considers (h : Arises r p current f) : r.Considers current := by
  cases h with
  | unknownName hp | blockedLeaf hp | blockedLeafOutcome hp | leafCheck hp | pathCheck hp
  | timestamps hp => exact .inl ⟨_, hp, rfl⟩
  | always => exact r.considers_firstPolicy?

/-- What arises does not depend on what is waived. -/
theorem arises_withoutWaivers : Arises r p.withoutWaivers current f ↔ Arises r p current f := by
  have halike : Processing.Alike r p.withoutWaivers p :=
    ⟨rfl, rfl, rfl, rfl, r.trustsAnchor_withoutWaivers p, r.standing_withoutWaivers p⟩
  have hct : (Evaluation.classify r p.withoutWaivers).isCt = (Evaluation.classify r p).isCt := by
    have hvalidated : p.withoutWaivers.isValidated = p.isValidated := rfl
    unfold Evaluation.classify
    rw [hvalidated]
    split <;> rfl
  exact ⟨fun h => h.congr halike hct, fun h => h.congr halike.symm hct.symm⟩

theorem effect_verdict_le_withoutWaivers (r : Request) (current : Option Policy) (p : Path)
    (f : Finding) :
    (f.effect r current p).verdict ≤ (f.effect r current p.withoutWaivers).verdict := by
  cases f with
  | failed check ix | violated check ix =>
    simp only [effect]
    rw [Request.recording_withoutWaivers]
    split
    · exact Verdict.unspecified_le _
    · exact le_rfl
  | fatal check ix | verdict v => exact le_rfl

end Finding

namespace Evaluation

/-- The failures of the certificate at a place; none if there is no such place. -/
def failuresAt (e : Evaluation) (ix : Nat) : Failures :=
  (e.details[ix]?).getD []

/-- The failures of a certificate are those that are noted at its place. -/
theorem IsFresh.mem_failuresAt {r : Request} {p : Path} {e : Evaluation} (he : IsFresh e p)
    (hp : p.certificates ≠ []) {ix : Nat} {failure : CheckName × Bool} :
    failure ∈ (e.pathChecks r p).2.1.failuresAt ix ↔
      ∃ check, failure = (.known check, false) ∧ .noted check ix ∈ effects r p := by
  obtain ⟨name, value⟩ := failure
  rw [failuresAt, he.pathChecks_details hp]
  cases hc : p.certificate? ix with
  | none =>
    have hlength : p.length ≤ ix := List.getElem?_eq_none_iff.mp hc
    simp only [Option.map_none, Option.getD_none, List.not_mem_nil, false_iff, not_exists, not_and]
    intro check _ hnoted
    exact Nat.not_lt.mpr hlength (noted_mem_effects.mp hnoted).1
  | some c =>
    simp only [Option.map_some, Option.getD_some, Entries.mem_putKeys_nil, Effect.mem_namesAt_iff,
      Prod.mk.injEq]
    constructor
    · intro h
      obtain ⟨⟨check, hname, hnoted⟩, hvalue⟩ := h
      exact ⟨check, ⟨hname, hvalue⟩, hnoted⟩
    · intro h
      obtain ⟨check, ⟨hname, hvalue⟩, hnoted⟩ := h
      exact ⟨⟨check, hname, hnoted⟩, hvalue⟩

section Waivers

variable {r : Request} {p : Path} {check : Check} {ix : Nat}

/-- What is noted with waivers is noted without them. -/
theorem noted_withoutWaivers (h : .noted check ix ∈ effects r p) :
    .noted check ix ∈ effects r p.withoutWaivers := by
  rw [noted_mem_effects] at h ⊢
  simp only [Finding.arises_withoutWaivers, Request.isRequested_withoutWaivers,
    Request.isWaived_withoutWaivers, Request.isExempt_withoutWaivers, true_and]
  obtain ⟨hl, hfatal | ⟨current, hf, -, hx⟩⟩ := h
  · exact ⟨hl, .inl hfatal⟩
  · exact ⟨hl, .inr ⟨current, hf, hx⟩⟩

/-- What is noted only without waivers is waived while some policy is looked at. -/
theorem isWaived_of_not_noted (h : .noted check ix ∈ effects r p.withoutWaivers)
    (hn : .noted check ix ∉ effects r p) :
    ∃ current, r.Considers current ∧ r.isWaived current p (.known check) ix = true := by
  rw [noted_mem_effects] at h hn
  simp only [Finding.arises_withoutWaivers, Request.isRequested_withoutWaivers,
    Request.isWaived_withoutWaivers, Request.isExempt_withoutWaivers, true_and] at h
  obtain ⟨hl, hfatal | ⟨current, hf, hx⟩⟩ := h
  · exact absurd ⟨hl, .inl hfatal⟩ hn
  · refine ⟨current, ?_, ?_⟩
    · rcases hf with ⟨ha, -⟩ | ha
      · exact ha.considers
      · exact ha.considers
    · by_contra hw
      exact hn ⟨hl, .inr ⟨current, hf, Bool.eq_false_iff.mpr hw, hx⟩⟩

theorem raised_withoutWaivers {v : Verdict} :
    .raised v ∈ effects r p.withoutWaivers ↔ .raised v ∈ effects r p := by
  simp only [raised_mem_effects, Finding.arises_withoutWaivers]

theorem worst_effects_le_withoutWaivers (r : Request) (p : Path) :
    Verdict.worst ((effects r p).map Effect.verdict) ≤
      Verdict.worst ((effects r p.withoutWaivers).map Effect.verdict) := by
  rw [Verdict.worst_le_iff]
  intro v hv
  obtain ⟨e, he, rfl⟩ := List.mem_map.mp hv
  obtain ⟨current, f, ha, rfl⟩ := mem_effects.mp he
  have hstrict : f.effect r current p.withoutWaivers ∈ effects r p.withoutWaivers :=
    mem_effects.mpr ⟨current, f, Finding.arises_withoutWaivers.mpr ha, rfl⟩
  exact (f.effect_verdict_le_withoutWaivers r current p).trans
    (Verdict.le_worst (List.mem_map_of_mem hstrict))

/-- An outcome worse than the failure of a check was raised as such, and nothing waives that. -/
theorem worst_effects_withoutWaivers
    (h : .recoverable < Verdict.worst ((effects r p.withoutWaivers).map Effect.verdict)) :
    Verdict.worst ((effects r p).map Effect.verdict) =
      Verdict.worst ((effects r p.withoutWaivers).map Effect.verdict) := by
  refine le_antisymm (worst_effects_le_withoutWaivers r p) ?_
  have hmem := Verdict.worst_mem_of_eq rfl (ne_of_gt ((Verdict.unspecified_le _).trans_lt h))
  rw [Effect.mem_map_verdict_iff_raised h, raised_withoutWaivers] at hmem
  exact Verdict.le_worst ((Effect.mem_map_verdict_iff_raised h).mpr hmem)

end Waivers

/-- The codes that usage constraints allow take nothing out of what an evaluation finds but failures
of the checks that have such codes, each for a constraint on the certificate itself that applies to
the evaluation. The outcome is none the worse for it, and the same if it is worse than a failure. -/
theorem waivers_scope (r : Request) (p : Path) :
    let strict := initial.pathChecks r p.withoutWaivers
    let waived := initial.pathChecks r p
    (∀ ix, waived.2.1.failuresAt ix ⊆ strict.2.1.failuresAt ix) ∧
    (∀ ix, ∀ failure ∈ strict.2.1.failuresAt ix, failure ∉ waived.2.1.failuresAt ix →
      ∃ check, failure = (.known check, false) ∧ check ∈ Check.waivable ∧
        ∃ c ∈ p.constraintsAt ix, (∃ code ∈ c.allowedError, code ∈ check.waiverCodes) ∧
          ∃ current, r.Considers current ∧ r.isMet current ix c = true) ∧
    waived.1 ≤ strict.1 ∧
    (strict.1 = .deny ∨ strict.1 = .fatal ∨ strict.1 = .otherError → waived.1 = strict.1) := by
  intro strict waived
  by_cases hp : p.certificates = []
  · have hsame : waived.1 = strict.1 ∧ waived.2.1 = strict.2.1 := by
      have hq : p.withoutWaivers.certificates = [] := hp
      simp only [strict, waived, pathChecks_of_isEmpty r hp, pathChecks_of_isEmpty r hq, and_self]
    rw [hsame.1, hsame.2]
    exact ⟨fun _ => List.Subset.refl _, fun _ _ h hn => absurd h hn, le_rfl, fun _ => rfl⟩
  · have hq : p.withoutWaivers.certificates ≠ [] := hp
    have hstrict : strict.1 = _ := (isFresh_initial _).pathChecks_verdict hq
    have hwaived : waived.1 = _ := (isFresh_initial p).pathChecks_verdict hp
    refine ⟨?_, ?_, ?_, ?_⟩
    · intro ix failure hf
      obtain ⟨check, rfl, hnoted⟩ := ((isFresh_initial p).mem_failuresAt hp).mp hf
      exact ((isFresh_initial _).mem_failuresAt hq).mpr ⟨check, rfl, noted_withoutWaivers hnoted⟩
    · intro ix failure hf hn
      obtain ⟨check, rfl, hnoted⟩ := ((isFresh_initial _).mem_failuresAt hq).mp hf
      have hnot : .noted check ix ∉ effects r p :=
        fun h => hn (((isFresh_initial p).mem_failuresAt hp).mpr ⟨check, rfl, h⟩)
      obtain ⟨current, hcurrent, hw⟩ := isWaived_of_not_noted hnoted hnot
      obtain ⟨c, hc, ⟨code, hallowed, hcode⟩, hmet⟩ := Request.isWaived_iff.mp hw
      exact ⟨check, rfl, Check.waivable_of_mem_waiverCodes hcode,
        c, hc, ⟨code, hallowed, hcode⟩, current, hcurrent, hmet⟩
    · rw [hstrict, hwaived]
      exact worst_effects_le_withoutWaivers r p
    · intro h
      have hworse : .recoverable < strict.1 := by
        rcases h with h | h | h <;> rw [h] <;> decide
      rw [hstrict] at hworse ⊢
      rw [hwaived]
      exact worst_effects_withoutWaivers hworse

/-- A leaf that has expired is accepted under a constraint that allows just that. -/
example :
    let r : Request := ⟨.empty, [⟨"", "", [(.known .validLeaf, .bool true)]⟩], 11, []⟩
    let p := { Path.ofCertificates [.plain [1], .plain [2]] with
      isAnchored := true
      constraints := [[{ Constraint.empty with allowedError := some Check.expiredCode }], []] }
    (initial.pathChecks r p.withoutWaivers).1 = .recoverable ∧
      (initial.pathChecks r p).1 = .unspecified := by
  decide +kernel

end Evaluation
end ChainTrust
