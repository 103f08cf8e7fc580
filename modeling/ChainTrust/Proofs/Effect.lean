import ChainTrust.Evaluation
import ChainTrust.Proofs.Entries
import ChainTrust.Proofs.Severity

namespace ChainTrust

/-- What a finding does to an evaluation. -/
inductive Effect where
  /-- Nothing asks for the check, a constraint waives it, or the path has no such place. -/
  | ignored
  /-- An exemption accepts the failure. -/
  | accepted
  | noted (check : Check) (ix : Nat)
  | raised (v : Verdict)
deriving DecidableEq, Repr

namespace Effect

def verdict : Effect → Verdict
  | .ignored => .unspecified
  | .accepted => .proceed
  | .noted .. => .recoverable
  | .raised v => v

/-- The name that an effect notes at a place. -/
def nameAt? (ix : Nat) : Effect → Option CheckName
  | .noted check place => if place = ix then some (.known check) else none
  | _ => none

theorem nameAt?_eq_some_iff {e : Effect} {ix : Nat} {name : CheckName} :
    e.nameAt? ix = some name ↔ ∃ check, e = .noted check ix ∧ .known check = name := by
  cases e with
  | noted check place =>
    by_cases h : place = ix
    · subst h
      simp [nameAt?]
    · simp [nameAt?, h]
  | ignored | accepted | raised => simp [nameAt?]

/-- The names that some effects note at a place, in order. -/
def namesAt (ix : Nat) (effects : List Effect) : List CheckName :=
  effects.filterMap (nameAt? ix)

theorem mem_namesAt_iff {name : CheckName} {ix : Nat} {effects : List Effect} :
    name ∈ namesAt ix effects ↔ ∃ check, name = .known check ∧ .noted check ix ∈ effects := by
  simp only [namesAt, List.mem_filterMap, nameAt?_eq_some_iff]
  constructor
  · intro h
    obtain ⟨e, he, check, rfl, rfl⟩ := h
    exact ⟨check, rfl, he⟩
  · intro h
    obtain ⟨check, rfl, he⟩ := h
    exact ⟨_, he, check, rfl, rfl⟩

theorem mem_namesAt {check : Check} {ix : Nat} {effects : List Effect} :
    .known check ∈ namesAt ix effects ↔ .noted check ix ∈ effects := by
  rw [mem_namesAt_iff]
  constructor
  · intro h
    obtain ⟨_, hname, he⟩ := h
    cases hname
    exact he
  · exact fun he => ⟨check, rfl, he⟩

theorem namesAt_append (ix : Nat) (effects more : List Effect) :
    namesAt ix (effects ++ more) = namesAt ix effects ++ namesAt ix more :=
  List.filterMap_append

theorem namesAt_eq_nil_iff {ix : Nat} {effects : List Effect} :
    namesAt ix effects = [] ↔ ∀ check, .noted check ix ∉ effects := by
  rw [List.eq_nil_iff_forall_not_mem]
  constructor
  · exact fun h check hc => h _ (mem_namesAt.mpr hc)
  · intro h name hn
    obtain ⟨check, -, he⟩ := mem_namesAt_iff.mp hn
    exact h check he

/-- What is worse than the failure of a check was raised as such. -/
theorem mem_map_verdict_iff_raised {v : Verdict} {effects : List Effect} (h : .recoverable < v) :
    v ∈ effects.map verdict ↔ .raised v ∈ effects := by
  rw [List.mem_map]
  constructor
  · intro h
    obtain ⟨e, he, rfl⟩ := h
    cases e with
    | raised v => exact he
    | noted => exact absurd h (lt_irrefl _)
    | ignored | accepted => exact absurd h (by decide)
  · exact fun he => ⟨_, he, rfl⟩

theorem recoverable_mem_map_verdict_iff {effects : List Effect}
    (h : .raised .recoverable ∉ effects) :
    .recoverable ∈ effects.map verdict ↔ ∃ check ix, .noted check ix ∈ effects := by
  rw [List.mem_map]
  constructor
  · intro h
    obtain ⟨e, he, hv⟩ := h
    cases e with
    | noted check ix => exact ⟨check, ix, he⟩
    | raised v =>
      cases hv
      exact absurd he h
    | ignored | accepted => cases hv
  · intro h
    obtain ⟨check, ix, he⟩ := h
    exact ⟨_, he, rfl⟩

theorem proceed_mem_map_verdict_iff {effects : List Effect} :
    .proceed ∈ effects.map verdict ↔ .accepted ∈ effects ∨ .raised .proceed ∈ effects := by
  rw [List.mem_map]
  constructor
  · intro h
    obtain ⟨e, he, hv⟩ := h
    cases e with
    | accepted => exact .inl he
    | raised v =>
      cases hv
      exact .inr he
    | ignored | noted => cases hv
  · intro h
    rcases h with he | he
    · exact ⟨_, he, rfl⟩
    · exact ⟨_, he, rfl⟩

end Effect

/-- Whether the certificate at a place has failed a check. -/
def Evaluation.hasFailed (e : Evaluation) (check : Check) (ix : Nat) : Bool :=
  e.details[ix]?.any (Entries.hasKey (.known check))

/-- Whether any certificate has failed anything. -/
def Evaluation.hasFailures (e : Evaluation) : Bool :=
  e.details.any (!·.isEmpty)

/-- What recording a failure comes to, whatever else is recorded. -/
def Request.recording (r : Request) (current : Option Policy) (p : Path) (check : Check) (ix : Nat)
    (force : Bool) : Effect :=
  if p.length ≤ ix then .ignored
  else if !force && !Request.isRequested current p (.known check) then .ignored
  else if r.isWaived current p (.known check) ix then .ignored
  else if r.isExempt p (.known check) ix false then .accepted
  else .noted check ix

def Finding.effect (r : Request) (current : Option Policy) (p : Path) : Finding → Effect
  | .failed check ix => r.recording current p check ix false
  | .violated check ix => r.recording current p check ix true
  | .fatal check ix => if p.length ≤ ix then .ignored else .noted check ix
  | .verdict v => .raised v

/-- A failure is noted if something asks for the check and nothing waives or accepts it. -/
theorem Request.recording_eq_noted_iff {r : Request} {current : Option Policy} {p : Path}
    {check noted : Check} {ix place : Nat} {force : Bool} :
    r.recording current p check ix force = .noted noted place ↔
      (check = noted ∧ ix = place) ∧ ix < p.length ∧
        (force = true ∨ Request.isRequested current p (.known check) = true) ∧
        r.isWaived current p (.known check) ix = false ∧
        r.isExempt p (.known check) ix false = false := by
  unfold Request.recording
  split
  · rename_i hl
    simp [Nat.not_lt.mpr hl]
  · rename_i hl
    rw [Nat.not_le] at hl
    cases force <;> cases Request.isRequested current p (.known check) <;>
      cases r.isWaived current p (.known check) ix <;>
      cases r.isExempt p (.known check) ix false <;> simp [hl]

theorem Finding.effect_eq_noted_iff {r : Request} {current : Option Policy} {p : Path}
    {f : Finding} {check : Check} {ix : Nat} :
    f.effect r current p = .noted check ix ↔ ix < p.length ∧
      (f = .fatal check ix ∨
        ((f = .failed check ix ∧ Request.isRequested current p (.known check) = true ∨
            f = .violated check ix) ∧
          r.isWaived current p (.known check) ix = false ∧
            r.isExempt p (.known check) ix false = false)) := by
  cases f with
  | failed other place =>
    simp only [Finding.effect, Request.recording_eq_noted_iff, reduceCtorEq, failed.injEq,
      false_or, or_false]
    constructor
    · intro h
      obtain ⟨⟨rfl, rfl⟩, hl, hr, h⟩ := h
      exact ⟨hl, ⟨⟨rfl, rfl⟩, hr⟩, h⟩
    · intro h
      obtain ⟨hl, ⟨⟨rfl, rfl⟩, hr⟩, h⟩ := h
      exact ⟨⟨rfl, rfl⟩, hl, hr, h⟩
  | violated other place =>
    simp only [Finding.effect, Request.recording_eq_noted_iff, reduceCtorEq, violated.injEq,
      false_and, false_or, true_or, true_and]
    constructor
    · intro h
      obtain ⟨⟨rfl, rfl⟩, hl, h⟩ := h
      exact ⟨hl, ⟨rfl, rfl⟩, h⟩
    · intro h
      obtain ⟨hl, ⟨rfl, rfl⟩, h⟩ := h
      exact ⟨⟨rfl, rfl⟩, hl, h⟩
  | fatal other place =>
    simp only [Finding.effect, reduceCtorEq, fatal.injEq, false_and, or_false]
    split
    · rename_i hl
      simp only [reduceCtorEq, false_iff, not_and]
      rintro hix rfl rfl
      exact Nat.not_lt.mpr hl hix
    · rename_i hl
      rw [Nat.not_le] at hl
      simp only [Effect.noted.injEq]
      constructor
      · intro h
        obtain ⟨rfl, rfl⟩ := h
        exact ⟨hl, rfl, rfl⟩
      · intro h
        obtain ⟨-, h⟩ := h
        exact h
  | verdict v => simp [Finding.effect]

theorem Finding.effect_eq_raised_iff {r : Request} {current : Option Policy} {p : Path}
    {f : Finding} {v : Verdict} : f.effect r current p = .raised v ↔ f = .verdict v := by
  cases f with
  | failed check ix | violated check ix =>
    simp only [Finding.effect, Request.recording, reduceCtorEq, iff_false]
    split_ifs <;> nofun
  | fatal check ix =>
    simp only [Finding.effect, reduceCtorEq, iff_false]
    split_ifs <;> nofun
  | verdict w => simp [Finding.effect]

namespace Evaluation

/-- The evaluation after an effect. -/
def absorb (e : Evaluation) : Effect → Evaluation
  | .ignored => e
  | .accepted => e.escalate .proceed
  | .noted check ix => e.insert (.known check) ix false
  | .raised v => e.escalate v

def absorbAll (effects : List Effect) (e : Evaluation) : Evaluation :=
  effects.foldl absorb e

/-- The state has no say in what a finding comes to. -/
theorem apply_eq_absorb {r : Request} {current : Option Policy} {p : Path} {e : Evaluation}
    (h : e.details.length = p.length) (f : Finding) :
    e.apply r current p f = e.absorb (f.effect r current p) := by
  cases f with
  | failed check ix =>
    simp only [apply, record?, Finding.effect, Request.recording, h]
    split_ifs <;> rfl
  | violated check ix =>
    simp only [apply, record?, Finding.effect, Request.recording, h]
    split_ifs <;> rfl
  | fatal check ix =>
    simp only [apply, recordFatal?, Finding.effect, h]
    split_ifs <;> rfl
  | verdict v => rfl

theorem absorb_verdict (e : Evaluation) (f : Effect) :
    (e.absorb f).verdict = max e.verdict f.verdict := by
  cases f with
  | ignored => exact (max_eq_left (Verdict.unspecified_le _)).symm
  | accepted | noted | raised => exact Verdict.combine_eq_max _ _

theorem absorb_details (e : Evaluation) (f : Effect) (ix : Nat) :
    (e.absorb f).details[ix]? =
      (e.details[ix]?).map (Entries.putKeys (f.nameAt? ix).toList false) := by
  cases f with
  | noted check place =>
    simp only [absorb, insert, escalate, List.getElem?_modify, Effect.nameAt?]
    split <;> cases e.details[ix]? <;> rfl
  | ignored | accepted | raised =>
    change e.details[ix]? = (e.details[ix]?).map id
    exact Option.map_id_apply.symm

theorem absorb_details_length (e : Evaluation) (f : Effect) :
    (e.absorb f).details.length = e.details.length := by
  cases f <;> simp [absorb, insert, escalate]

theorem absorbAll_details_length (effects : List Effect) (e : Evaluation) :
    (absorbAll effects e).details.length = e.details.length := by
  induction effects generalizing e with
  | nil => rfl
  | cons f fs ih => exact (ih (e.absorb f)).trans (absorb_details_length e f)

/-- The outcome is the worst of all effects. -/
theorem absorbAll_verdict (effects : List Effect) (e : Evaluation) :
    (absorbAll effects e).verdict = max e.verdict (Verdict.worst (effects.map Effect.verdict)) := by
  induction effects generalizing e with
  | nil => exact (max_eq_left (Verdict.unspecified_le _)).symm
  | cons f fs ih =>
    change (absorbAll fs (e.absorb f)).verdict = _
    rw [ih, absorb_verdict, List.map_cons, Verdict.worst_cons, max_assoc]

/-- The failures of a certificate are those noted at its place. -/
theorem absorbAll_details (effects : List Effect) (e : Evaluation) (ix : Nat) :
    (absorbAll effects e).details[ix]? =
      (e.details[ix]?).map (Entries.putKeys (Effect.namesAt ix effects) false) := by
  induction effects generalizing e with
  | nil => exact Option.map_id_apply.symm
  | cons f fs ih =>
    change (absorbAll fs (e.absorb f)).details[ix]? = _
    rw [ih, absorb_details, Option.map_map]
    congr 1
    funext m
    cases hf : f.nameAt? ix <;> simp [Effect.namesAt, hf, Entries.putKeys]

theorem absorbAll_append (effects more : List Effect) (e : Evaluation) :
    absorbAll (effects ++ more) e = absorbAll more (absorbAll effects e) :=
  List.foldl_append

end Evaluation
end ChainTrust
