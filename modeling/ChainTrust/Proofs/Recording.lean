import ChainTrust.Proofs.Effect
import ChainTrust.Proofs.Registry

namespace ChainTrust

/-- One call on a context. -/
inductive Recording where
  /-- A failure, while a policy is looked at. It counts unasked if it is forced. -/
  | failure (current : Option Policy) (p : Path) (check : CheckName) (ix : Nat)
      (value force : Bool)
  | fatal (check : CheckName) (ix : Nat) (value : Bool)
  | escalate (v : Verdict)
  | proceed

/-- The place at which a call records something. -/
def Recording.place? : Recording → Option Nat
  | .failure _ _ _ ix _ _ | .fatal _ ix _ => some ix
  | .escalate _ | .proceed => none

/-- The call that records a finding. -/
def Finding.recording (current : Option Policy) (p : Path) : Finding → Recording
  | .failed check ix => .failure current p (.known check) ix false false
  | .violated check ix => .failure current p (.known check) ix false true
  | .fatal check ix => .fatal (.known check) ix false
  | .verdict v => .escalate v

namespace Evaluation

/-- An outcome that is fine now relies on an override. -/
def proceed (e : Evaluation) : Evaluation :=
  if e.verdict.isOk then { e with verdict := .proceed } else e

/-- Whether a call is accepted, and the state after it. -/
def perform (r : Request) (e : Evaluation) : Recording → Bool × Evaluation
  | .failure current p check ix value force =>
    let recorded := e.record? r current p check ix value force
    (recorded.isSome, recorded.getD e)
  | .fatal check ix value =>
    let recorded := e.recordFatal? check ix value
    (recorded.isSome, recorded.getD e)
  | .escalate v => (true, e.escalate v)
  | .proceed => (true, e.proceed)

def performAll (r : Request) (e : Evaluation) (calls : List Recording) : Evaluation :=
  calls.foldl (fun e call => (e.perform r call).2) e

/-- A failure is noted for a certificate under some name. -/
def notes (e : Evaluation) (name : CheckName) (ix : Nat) : Bool :=
  e.details[ix]?.any (Entries.hasKey name)

/-- The outcome is fine only if there are no failures. -/
def IsHonest (e : Evaluation) : Prop :=
  e.hasFailures = true → e.verdict.isOk = false

instance (e : Evaluation) : Decidable e.IsHonest :=
  inferInstanceAs (Decidable (_ → _))

/-- What is known in one state is known in a later one, and is at least as severe there. -/
structure IsKept (e later : Evaluation) : Prop where
  verdict : e.verdict ≤ later.verdict
  notes : ∀ name ix, e.notes name ix = true → later.notes name ix = true
  length : later.details.length = e.details.length

theorem IsKept.refl (e : Evaluation) : e.IsKept e :=
  ⟨le_rfl, fun _ _ => id, rfl⟩

theorem IsKept.trans {e f g : Evaluation} (h : e.IsKept f) (h' : f.IsKept g) : e.IsKept g where
  verdict := h.verdict.trans h'.verdict
  notes := fun name ix hn => h'.notes name ix (h.notes name ix hn)
  length := h'.length.trans h.length

theorem proceed_eq_escalate (e : Evaluation) : e.proceed = e.escalate .proceed := by
  obtain ⟨verdict, details, lastLeaf, revocation, isCt⟩ := e
  cases verdict <;> rfl

theorem apply_eq_perform (r : Request) (current : Option Policy) (p : Path) (e : Evaluation)
    (f : Finding) : e.apply r current p f = (e.perform r (f.recording current p)).2 := by
  cases f <;> rfl

section State

variable {r : Request} {e : Evaluation}

theorem notes_insert (e : Evaluation) (check name : CheckName) (place ix : Nat) (value : Bool) :
    (e.insert check place value).notes name ix =
      ((check == name && place == ix && decide (ix < e.details.length)) || e.notes name ix) := by
  simp only [notes, insert, escalate, List.getElem?_modify]
  by_cases hplace : place = ix
  · subst hplace
    by_cases hl : place < e.details.length
    · simp [hl, Entries.hasKey_put]
    · simp [hl]
  · cases e.details[ix]? <;> simp [hplace]

theorem isKept_escalate (e : Evaluation) (v : Verdict) : e.IsKept (e.escalate v) where
  verdict := by
    rw [escalate, Verdict.combine_eq_max]
    exact le_max_left _ _
  notes := fun _ _ => id
  length := rfl

theorem isKept_insert (e : Evaluation) (check : CheckName) (ix : Nat) (value : Bool) :
    e.IsKept (e.insert check ix value) where
  verdict := (e.isKept_escalate .recoverable).verdict
  notes := by
    intro name place h
    rw [notes_insert, h, Bool.or_true]
  length := List.length_modify _ _ _

/-- What is not refused leaves the state as it is, makes it rely on an override, or notes a
failure. -/
theorem record?_cases (r : Request) (current : Option Policy) (p : Path) (check : CheckName)
    (value force : Bool) {ix : Nat} (hl : ix < e.details.length) :
    ∃ after, e.record? r current p check ix value force = some after ∧
      (after = e ∨ after = e.escalate .proceed ∨ after = e.insert check ix value) := by
  unfold record?
  rw [if_neg (Nat.not_le.mpr hl)]
  split_ifs
  · exact ⟨_, rfl, .inl rfl⟩
  · exact ⟨_, rfl, .inl rfl⟩
  · exact ⟨_, rfl, .inr (.inl rfl)⟩
  · exact ⟨_, rfl, .inr (.inr rfl)⟩

/-- A call is refused if the details have no such place, and does one of three things otherwise. -/
theorem perform_cases (r : Request) (e : Evaluation) (call : Recording) :
    (∃ ix ∈ call.place?, e.details.length ≤ ix ∧ e.perform r call = (false, e)) ∨
    (∀ ix ∈ call.place?, ix < e.details.length) ∧ (e.perform r call).1 = true ∧
      ((e.perform r call).2 = e ∨ (∃ v, (e.perform r call).2 = e.escalate v) ∨
        ∃ check ix value, (e.perform r call).2 = e.insert check ix value) := by
  cases call with
  | failure current p check ix value force =>
    by_cases hl : e.details.length ≤ ix
    · refine .inl ⟨ix, rfl, hl, ?_⟩
      simp [perform, record?, hl]
    · obtain ⟨after, hafter, hcases⟩ :=
        record?_cases r current p check value force (Nat.not_le.mp hl)
      refine .inr ⟨?_, by simp [perform, hafter], ?_⟩
      · intro place hplace
        cases hplace
        exact Nat.not_le.mp hl
      · simp only [perform, hafter, Option.getD_some]
        rcases hcases with rfl | rfl | rfl
        · exact .inl rfl
        · exact .inr (.inl ⟨_, rfl⟩)
        · exact .inr (.inr ⟨_, _, _, rfl⟩)
  | fatal check ix value =>
    by_cases hl : e.details.length ≤ ix
    · refine .inl ⟨ix, rfl, hl, ?_⟩
      simp [perform, recordFatal?, hl]
    · refine .inr ⟨?_, by simp [perform, recordFatal?, hl], ?_⟩
      · intro place hplace
        cases hplace
        exact Nat.not_le.mp hl
      · exact .inr (.inr ⟨check, ix, value, by simp [perform, recordFatal?, hl]⟩)
  | escalate v =>
    exact .inr ⟨fun _ h => absurd h (Option.not_mem_none _), rfl, .inr (.inl ⟨v, rfl⟩)⟩
  | proceed =>
    exact .inr ⟨fun _ h => absurd h (Option.not_mem_none _), rfl,
      .inr (.inl ⟨.proceed, proceed_eq_escalate e⟩)⟩

theorem perform_eq_false_iff {call : Recording} :
    (e.perform r call).1 = false ↔ ∃ ix ∈ call.place?, e.details.length ≤ ix := by
  rcases perform_cases r e call with ⟨ix, hix, hl, hperform⟩ | ⟨hwithin, haccepted, -⟩
  · rw [hperform]
    exact iff_of_true rfl ⟨ix, hix, hl⟩
  · rw [haccepted]
    refine iff_of_false nofun fun h => ?_
    obtain ⟨ix, hix, hl⟩ := h
    exact Nat.not_le.mpr (hwithin ix hix) hl

theorem perform_of_refused {call : Recording} (h : (e.perform r call).1 = false) :
    (e.perform r call).2 = e := by
  rcases perform_cases r e call with ⟨ix, -, -, hperform⟩ | ⟨-, haccepted, -⟩
  · rw [hperform]
  · rw [haccepted] at h
    cases h

theorem isKept_perform (r : Request) (e : Evaluation) (call : Recording) :
    e.IsKept (e.perform r call).2 := by
  rcases perform_cases r e call with
    ⟨-, -, -, hperform⟩ | ⟨-, -, hperform | ⟨v, hperform⟩ | ⟨check, ix, value, hperform⟩⟩
  · rw [hperform]
    exact .refl e
  · rw [hperform]
    exact .refl e
  · rw [hperform]
    exact e.isKept_escalate v
  · rw [hperform]
    exact e.isKept_insert check ix value

theorem IsHonest.escalate (h : e.IsHonest) (v : Verdict) : (e.escalate v).IsHonest := by
  intro hfailures
  have hbad := h hfailures
  rw [← Bool.not_eq_true, Verdict.isOk_iff, not_lt] at hbad ⊢
  exact hbad.trans (e.isKept_escalate v).verdict

/-- Noting a failure makes the outcome one. -/
theorem isHonest_insert (e : Evaluation) (check : CheckName) (ix : Nat) (value : Bool) :
    (e.insert check ix value).IsHonest := by
  intro _
  rw [← Bool.not_eq_true, Verdict.isOk_iff, not_lt]
  change Verdict.recoverable ≤ e.verdict.combine .recoverable
  rw [Verdict.combine_eq_max]
  exact le_max_right _ _

theorem IsHonest.perform (h : e.IsHonest) (r : Request) (call : Recording) :
    (e.perform r call).2.IsHonest := by
  rcases perform_cases r e call with
    ⟨-, -, -, hperform⟩ | ⟨-, -, hperform | ⟨v, hperform⟩ | ⟨check, ix, value, hperform⟩⟩
  · rw [hperform]
    exact h
  · rw [hperform]
    exact h
  · rw [hperform]
    exact h.escalate v
  · rw [hperform]
    exact isHonest_insert e check ix value

theorem isKept_performAll (r : Request) (e : Evaluation) (calls : List Recording) :
    e.IsKept (e.performAll r calls) := by
  induction calls generalizing e with
  | nil => exact .refl e
  | cons call calls ih => exact (isKept_perform r e call).trans (ih (e.perform r call).2)

/-- What an evaluation records keeps what is known, one finding or all that the options give. -/
theorem isKept_apply (r : Request) (current : Option Policy) (p : Path) (e : Evaluation)
    (f : Finding) : e.IsKept (e.apply r current p f) := by
  rw [apply_eq_perform]
  exact isKept_perform r e _

theorem isKept_applyAll (r : Request) (current : Option Policy) (p : Path)
    (findings : List Finding) (e : Evaluation) : e.IsKept (e.applyAll r current p findings) := by
  induction findings generalizing e with
  | nil => exact .refl e
  | cons f findings ih =>
    exact (isKept_apply r current p e f).trans (ih (e.apply r current p f))

theorem isKept_dispatch (r : Request) (p : Path)
    (findings : CheckName → OptionValue → List Finding) (e : Evaluation) :
    e.IsKept (e.dispatch r p findings) := by
  unfold dispatch
  generalize r.policies = policies
  induction policies generalizing e with
  | nil => exact .refl e
  | cons policy policies ih => exact (isKept_applyAll r (some policy) p _ e).trans (ih _)

theorem IsHonest.performAll (h : e.IsHonest) (r : Request) (calls : List Recording) :
    (e.performAll r calls).IsHonest := by
  induction calls generalizing e with
  | nil => exact h
  | cons call calls ih => exact ih (h.perform r call)

end State

/-- Each call of a sequence keeps what is known, and the failures of an outcome that is fine stay
none. It is refused exactly if it names a place that there is not, and then nothing changes. -/
theorem performAll_monotone (r : Request) (e : Evaluation) (h : e.IsHonest)
    (calls : List Recording) (call : Recording) :
    let before := e.performAll r calls
    let answer := (before.perform r call).1
    let after := (before.perform r call).2
    (e.verdict ≤ before.verdict ∧ before.verdict ≤ after.verdict) ∧
    (∀ name ix, before.notes name ix = true → after.notes name ix = true) ∧
    (before.IsHonest ∧ after.IsHonest) ∧
    (answer = false ↔ ∃ ix ∈ call.place?, before.details.length ≤ ix) ∧
    (answer = false → after = before) := by
  intro before answer after
  have hstep := isKept_perform r before call
  have hbefore : before.IsHonest := h.performAll r calls
  exact ⟨⟨(isKept_performAll r e calls).verdict, hstep.verdict⟩, hstep.notes,
    ⟨hbefore, hbefore.perform r call⟩, perform_eq_false_iff, perform_of_refused⟩

/-- A failure that is accepted is reason to proceed, and one that is not is a failure from then
on. -/
theorem performAll_monotone_accepted :
    let r : Request := ⟨.empty, [], 5, [⟨none, [(.known .email, false)]⟩]⟩
    let e : Evaluation := { initial with details := [[]] }
    let failure := fun check =>
      Recording.failure none (.ofCertificates []) (.known check) 0 false true
    let before := e.performAll r [failure .email]
    let after := (before.perform r (failure .notCa)).2
    e.IsHonest ∧ before.verdict = .proceed ∧ before.verdict ≤ after.verdict ∧ after.IsHonest := by
  intro r e failure before after
  have hhonest : e.IsHonest := by decide
  have hmonotone := performAll_monotone r e hhonest [failure .email] (failure .notCa)
  exact ⟨hhonest, by decide +kernel, hmonotone.1.2, hmonotone.2.2.1.2⟩

end Evaluation
end ChainTrust
