import ChainTrust.Proofs.Arising

namespace ChainTrust

namespace Request

def withoutExemptions (r : Request) : Request :=
  { r with exemptions := [] }

/-- A record accepts the failure of a check by the certificate at a place: the only one there is, if
it has no digest, or else the one at that place, if it has the digest of the certificate. -/
def Accepts (r : Request) (p : Path) (ix : Nat) (name : CheckName) : Prop :=
  (∃ values, r.exemptions = [⟨none, values⟩] ∧ Entries.get? name values = some false) ∨
    ∃ record c, r.exemptions[ix]? = some record ∧ p.certificate? ix = some c ∧
      record.sha1 = some c.sha1 ∧ Entries.get? name record.values = some false

theorem isExempt_iff {r : Request} {p : Path} {ix : Nat} {name : CheckName} :
    r.isExempt p name ix false = true ↔ r.Accepts p ix name := by
  unfold isExempt exemptionAt? Accepts
  split
  · rename_i values heq
    rw [heq]
    constructor
    · intro h
      exact .inl ⟨values, rfl, by simpa using h⟩
    · intro h
      rcases h with ⟨_, hsame, hv⟩ | ⟨record, c, hrecord, -, hsha1, -⟩
      · cases hsame
        simpa using hv
      · -- the only record has no digest
        cases ix with
        | zero =>
          cases hrecord
          cases hsha1
        | succ ix => cases hrecord
  · rename_i hne
    constructor
    · intro h
      obtain ⟨found, hrecord, hv⟩ := (Option.any_eq_true _ _).mp h
      obtain ⟨record, he, hrecord⟩ := Option.bind_eq_some_iff.mp hrecord
      obtain ⟨c, hc, hrecord⟩ := Option.bind_eq_some_iff.mp hrecord
      split at hrecord
      · rename_i hsha1
        cases hrecord
        exact .inr ⟨found, c, he, hc, hsha1, by simpa using hv⟩
      · cases hrecord
    · intro h
      rcases h with ⟨values, heq, -⟩ | ⟨record, c, hrecord, hc, hsha1, hv⟩
      · exact absurd heq (hne values)
      · simp [hrecord, hc, hsha1, hv]

instance (r : Request) (p : Path) (ix : Nat) (name : CheckName) : Decidable (r.Accepts p ix name) :=
  decidable_of_iff _ isExempt_iff

/-- Without exemptions nothing is exempt. -/
theorem isExempt_withoutExemptions (r : Request) (p : Path) (name : CheckName) (ix : Nat)
    (value : Bool) : r.withoutExemptions.isExempt p name ix value = false :=
  rfl

/-- The failure of a check does not count for a certificate because of an exemption. -/
def Exempts (r : Request) (p : Path) (ix : Nat) (name : CheckName) : Prop :=
  name ∉ Check.ofIntegrity.map .known ∧ r.Accepts p ix name

instance (r : Request) (p : Path) (ix : Nat) (name : CheckName) : Decidable (r.Exempts p ix name) :=
  inferInstanceAs (Decidable (_ ∧ _))

end Request

/-- The effect of the same finding with exemptions. -/
def Effect.exempted (r : Request) (p : Path) : Effect → Effect
  | .noted check ix => if r.Exempts p ix (.known check) then .accepted else .noted check ix
  | e => e

namespace Finding

/-- The checks of integrity, and no others, are recorded as such. -/
def IsProper : Finding → Prop
  | .failed check _ | .violated check _ => check ∉ Check.ofIntegrity
  | .fatal check _ => check ∈ Check.ofIntegrity
  | .verdict _ => True

theorem isProper_of_mem_leafFindings {r : Request} {leaf : Facts} {name : CheckName}
    {v : OptionValue} {f : Finding} (h : f ∈ Evaluation.leafFindings r leaf name v) :
    f.IsProper := by
  rcases Evaluation.mem_leafFindings.mp h with
    ⟨s, -, rfl⟩ | ⟨-, -, rfl | rfl⟩ | ⟨check, -, hb, hfails, rfl⟩
  · trivial
  · exact List.mem_cons_self
  · trivial
  · exact Check.not_ofIntegrity_of_ofLeaf (LeafCheck.ofLeaf_of_fails hfails) hb

theorem isProper_of_mem_pathFindings {p : Path} {name : CheckName} {v : OptionValue} {f : Finding}
    (h : f ∈ Evaluation.pathFindings p name v) : f.IsProper := by
  rcases Evaluation.mem_pathFindings.mp h with ⟨s, -, rfl⟩ | ⟨check, ix, -, hix, rfl⟩
  · trivial
  · exact Check.not_ofIntegrity_of_ofPath (PathCheck.ofPath_of_failures hix)

theorem isProper_of_found {r : Request} {p : Path} {f : Finding} (h : Processing.Found r p f) :
    f.IsProper := by
  cases h with
  | @invalid ix =>
    change Processing.validityCheck p ix ∉ Check.ofIntegrity
    unfold Processing.validityCheck
    split_ifs <;> decide
  | _ => simp [IsProper, Check.ofIntegrity]

theorem effect_exempted {r : Request} {current : Option Policy} {p : Path} {f : Finding}
    (h : f.IsProper) :
    f.effect r current p = (f.effect r.withoutExemptions current p).exempted r p := by
  have hrecording : ∀ check ix force, check ∉ Check.ofIntegrity →
      r.recording current p check ix force =
        (r.withoutExemptions.recording current p check ix force).exempted r p := by
    intro check ix force hcheck
    have hwaived : r.withoutExemptions.isWaived current p (.known check) ix =
        r.isWaived current p (.known check) ix := rfl
    have hexempts :
        r.Exempts p ix (.known check) ↔ r.isExempt p (.known check) ix false = true := by
      rw [Request.isExempt_iff]
      exact and_iff_right (by simpa using hcheck)
    simp only [Request.recording, hwaived, Request.isExempt_withoutExemptions]
    split_ifs <;> simp_all [Effect.exempted]
  cases f with
  | failed check ix => exact hrecording check ix false h
  | violated check ix => exact hrecording check ix true h
  | fatal check ix =>
    have hexempts : ¬r.Exempts p ix (.known check) :=
      fun hx => hx.1 (List.mem_map_of_mem h)
    simp only [effect]
    split_ifs <;> simp [Effect.exempted, hexempts]
  | verdict v => rfl

/-- Findings come to the same with exemptions and without, but for what is accepted. -/
theorem map_effect_exempted {r : Request} {current : Option Policy} {p : Path} {fs : List Finding}
    (h : ∀ f ∈ fs, f.IsProper) :
    fs.map (effect r current p) =
      (fs.map (effect r.withoutExemptions current p)).map (Effect.exempted r p) := by
  rw [List.map_map]
  exact List.map_congr_left fun f hf => effect_exempted (h f hf)

end Finding

namespace Effect

variable {r : Request} {p : Path}

/-- A place keeps the names whose failures are not accepted there. -/
theorem namesAt_map_exempted (ix : Nat) (effects : List Effect) :
    namesAt ix (effects.map (exempted r p)) =
      (namesAt ix effects).filter fun name => ¬r.Exempts p ix name := by
  induction effects with
  | nil => rfl
  | cons e effects ih =>
    simp only [namesAt, List.map_cons, List.filterMap_cons] at ih ⊢
    cases e with
    | ignored | accepted | raised => exact ih
    | noted check place =>
      by_cases hplace : place = ix
      · subst hplace
        by_cases hx : r.Exempts p place (.known check) <;> simp [exempted, nameAt?, hx, ih]
      · by_cases hx : r.Exempts p place (.known check) <;>
          simp [exempted, nameAt?, hx, hplace, ih]

theorem verdict_exempted_le (e : Effect) : (e.exempted r p).verdict ≤ e.verdict := by
  cases e with
  | noted check ix =>
    simp only [exempted]
    split
    · exact Nat.le_succ 1
    · exact le_rfl
  | ignored | accepted | raised => exact le_rfl

theorem noted_mem_map_exempted {effects : List Effect} {check : Check} {ix : Nat} :
    .noted check ix ∈ effects.map (exempted r p) ↔
      .noted check ix ∈ effects ∧ ¬r.Exempts p ix (.known check) := by
  rw [List.mem_map]
  constructor
  · intro h
    obtain ⟨e, he, heq⟩ := h
    cases e with
    | noted other place =>
      simp only [exempted] at heq
      split at heq
      · cases heq
      · rename_i hx
        cases heq
        exact ⟨he, hx⟩
    | ignored | accepted | raised => cases heq
  · intro h
    obtain ⟨he, hx⟩ := h
    exact ⟨_, he, if_neg hx⟩

theorem raised_mem_map_exempted {effects : List Effect} {v : Verdict} :
    .raised v ∈ effects.map (exempted r p) ↔ .raised v ∈ effects := by
  rw [List.mem_map]
  constructor
  · intro h
    obtain ⟨e, he, heq⟩ := h
    cases e with
    | noted other place =>
      simp only [exempted] at heq
      split at heq <;> cases heq
    | raised w =>
      cases heq
      exact he
    | ignored | accepted => cases heq
  · exact fun he => ⟨_, he, rfl⟩

/-- Only a failure can be accepted. -/
theorem exempted_eq_self {e : Effect} (h : e.verdict ≠ .recoverable) : e.exempted r p = e := by
  cases e with
  | noted check ix => exact absurd rfl h
  | ignored | accepted | raised => rfl

theorem worst_map_exempted_le (effects : List Effect) :
    Verdict.worst ((effects.map (exempted r p)).map verdict) ≤
      Verdict.worst (effects.map verdict) := by
  rw [Verdict.worst_le_iff]
  intro v hv
  simp only [List.map_map, List.mem_map, Function.comp_apply] at hv
  obtain ⟨e, he, rfl⟩ := hv
  exact (verdict_exempted_le e).trans (Verdict.le_worst (List.mem_map_of_mem he))

/-- An outcome that is not just the failure of a check does not depend on what is accepted. -/
theorem worst_map_exempted_of_ne {effects : List Effect}
    (h : Verdict.worst (effects.map verdict) ≠ .recoverable) :
    Verdict.worst ((effects.map (exempted r p)).map verdict) =
      Verdict.worst (effects.map verdict) := by
  refine le_antisymm (worst_map_exempted_le effects) ?_
  rcases Verdict.worst_mem (effects.map verdict) with hw | hw
  · rw [hw]
    exact Verdict.unspecified_le _
  · obtain ⟨e, he, hv⟩ := List.mem_map.mp hw
    rw [← hv] at h ⊢
    apply Verdict.le_worst
    refine List.mem_map.mpr ⟨e, List.mem_map.mpr ⟨e, he, ?_⟩, rfl⟩
    exact exempted_eq_self h

/-- If nothing but checks failed and no failure is left, there is reason to proceed. -/
theorem worst_map_exempted_of_forall {effects : List Effect}
    (hraised : .raised .recoverable ∉ effects)
    (h : Verdict.worst (effects.map verdict) = .recoverable)
    (hnone : ∀ check ix, .noted check ix ∉ effects.map (exempted r p)) :
    Verdict.worst ((effects.map (exempted r p)).map verdict) = .proceed := by
  obtain ⟨check, ix, hnoted⟩ :=
    (recoverable_mem_map_verdict_iff hraised).mp (Verdict.worst_mem_of_eq h nofun)
  have haccepted : .accepted ∈ effects.map (exempted r p) := by
    by_cases hx : r.Exempts p ix (.known check)
    · exact List.mem_map.mpr ⟨_, hnoted, if_pos hx⟩
    · exact absurd (noted_mem_map_exempted.mpr ⟨hnoted, hx⟩) (hnone check ix)
  have hproceed := Verdict.le_worst (proceed_mem_map_verdict_iff.mpr (.inl haccepted))
  have hle := worst_map_exempted_le (r := r) (p := p) effects
  rw [h] at hle
  have hne : Verdict.worst ((effects.map (exempted r p)).map verdict) ≠ .recoverable := by
    intro hworst
    obtain ⟨check, ix, hleft⟩ :=
      (recoverable_mem_map_verdict_iff (mt raised_mem_map_exempted.mp hraised)).mp
        (Verdict.worst_mem_of_eq hworst nofun)
    exact hnone check ix hleft
  exact Verdict.eq_proceed hproceed (lt_of_le_of_ne hle hne)

end Effect

namespace Evaluation

variable (r : Request) (p : Path)

theorem optionEffects_exempted {findings : CheckName → OptionValue → List Finding}
    (h : ∀ name v, ∀ f ∈ findings name v, f.IsProper) :
    optionEffects r p findings =
      (optionEffects r.withoutExemptions p findings).map (Effect.exempted r p) := by
  unfold optionEffects
  rw [List.map_flatMap]
  congr 1
  funext policy
  apply Finding.map_effect_exempted
  intro f hf
  obtain ⟨⟨name, v⟩, -, hf⟩ := List.mem_flatMap.mp hf
  exact h name v f hf

theorem leafEffects_exempted :
    leafEffects r p = (leafEffects r.withoutExemptions p).map (Effect.exempted r p) := by
  unfold leafEffects
  cases p.leaf? with
  | none => rfl
  | some leaf =>
    exact optionEffects_exempted r p fun _ _ _ hf => Finding.isProper_of_mem_leafFindings hf

theorem basic_withoutExemptions :
    Processing.basic r.withoutExemptions p = Processing.basic r p := by
  have hwalk : Processing.walk r.withoutExemptions p = Processing.walk r p :=
    funext₂ (Processing.walk_congr rfl rfl rfl)
  simp only [Processing.basic, hwalk]
  rfl

theorem findings_withoutExemptions :
    Processing.findings r.withoutExemptions p = Processing.findings r p := by
  unfold Processing.findings
  rw [basic_withoutExemptions]
  rfl

theorem ctEffects_exempted :
    ctEffects r p = (ctEffects r.withoutExemptions p).map (Effect.exempted r p) := by
  unfold ctEffects
  rw [List.map_map]
  refine List.map_congr_left fun policy _ => Finding.effect_exempted ?_
  simp [Finding.IsProper, Check.ofIntegrity]

/-- The same is found with exemptions and without, but for what is accepted. -/
theorem effects_exempted :
    effects r p = (effects r.withoutExemptions p).map (Effect.exempted r p) := by
  have hproper : ∀ f ∈ Processing.findings r p, f.IsProper :=
    fun f hf => Finding.isProper_of_found (Processing.mem_findings.mp hf)
  rw [effects, pathEffects, leafEffects_exempted, ctEffects_exempted,
    Finding.map_effect_exempted hproper,
    optionEffects_exempted r p fun _ _ _ hf => Finding.isProper_of_mem_pathFindings hf,
    effects, pathEffects, findings_withoutExemptions]
  simp only [List.map_append]
  rfl

theorem not_accepted_withoutExemptions : .accepted ∉ effects r.withoutExemptions p := by
  rw [mem_effects]
  intro h
  obtain ⟨current, f, -, he⟩ := h
  have hrecording : ∀ check ix force,
      r.withoutExemptions.recording current p check ix force ≠ .accepted := by
    intro check ix force
    unfold Request.recording
    rw [Request.isExempt_withoutExemptions, if_neg Bool.false_ne_true]
    split_ifs <;> nofun
  cases f with
  | failed check ix => exact hrecording check ix false he
  | violated check ix => exact hrecording check ix true he
  | fatal check ix =>
    simp only [Finding.effect] at he
    split at he <;> cases he
  | verdict v => cases he

/-- If all failures are accepted, some were accepted unless there were none. -/
theorem accepted_mem_effects_iff (hnone : ∀ check ix, .noted check ix ∉ effects r p) :
    .accepted ∈ effects r p ↔ ∃ check ix, .noted check ix ∈ effects r.withoutExemptions p := by
  rw [effects_exempted] at hnone ⊢
  constructor
  · intro h
    obtain ⟨e, he, heq⟩ := List.mem_map.mp h
    cases e with
    | noted check ix => exact ⟨check, ix, he⟩
    | accepted => exact absurd he (not_accepted_withoutExemptions r p)
    | ignored | raised => cases heq
  · intro h
    obtain ⟨check, ix, hnoted⟩ := h
    by_cases hx : r.Exempts p ix (.known check)
    · exact List.mem_map.mpr ⟨_, hnoted, if_pos hx⟩
    · exact absurd (Effect.noted_mem_map_exempted.mpr ⟨hnoted, hx⟩) (hnone check ix)

theorem pathChecks_of_isEmpty {p : Path} (h : p.certificates = []) (e : Evaluation) :
    e.pathChecks r p = (.fatal, { e with verdict := .fatal, details := [] }, p) := by
  simp [pathChecks, leafChecks, Path.leaf?, h]

theorem IsFresh.pathChecks_details_exempted {r : Request} {p : Path} {e : Evaluation}
    (he : IsFresh e p) (hp : p.certificates ≠ []) (ix : Nat) :
    (e.pathChecks r p).2.1.details[ix]? =
      ((e.pathChecks r.withoutExemptions p).2.1.details[ix]?).map fun failures =>
        failures.filter fun failure => ¬r.Exempts p ix failure.1 := by
  rw [he.pathChecks_details hp, he.pathChecks_details hp, effects_exempted, Option.map_map]
  congr 1
  funext _
  rw [Effect.namesAt_map_exempted, Function.comp_apply]
  exact (Entries.filter_putKeys List.Pairwise.nil (fun name => ¬r.Exempts p ix name) _ _).symm

/-- Exemptions take exactly the failures that they accept out of what an evaluation finds, and they
change the outcome only if nothing worse than such failures was found. -/
theorem exemptions_scope (r : Request) (p : Path) :
    let plain := initial.pathChecks r.withoutExemptions p
    let exempted := initial.pathChecks r p
    (∀ ix : Nat, exempted.2.1.details[ix]? = (plain.2.1.details[ix]?).map fun failures : Failures =>
      failures.filter fun failure =>
        ¬(failure.1 ∉ Check.ofIntegrity.map .known ∧ r.Accepts p ix failure.1)) ∧
    (plain.1 ≠ .recoverable → exempted.1 = plain.1) ∧
    (plain.1 = .recoverable →
      exempted.1 = if exempted.2.1.hasFailures then .recoverable else .proceed) := by
  intro plain exempted
  by_cases hp : p.certificates = []
  · simp only [plain, exempted, pathChecks_of_isEmpty r hp, pathChecks_of_isEmpty _ hp]
    simp
  · have he := isFresh_initial p
    have hplain : plain.1 = _ := he.pathChecks_verdict hp
    have hexempted : exempted.1 = _ := he.pathChecks_verdict hp
    refine ⟨he.pathChecks_details_exempted hp, ?_, ?_⟩
    · intro hne
      rw [hplain] at hne ⊢
      rw [hexempted, effects_exempted]
      exact Effect.worst_map_exempted_of_ne hne
    · intro heq
      rw [hplain] at heq
      have hraised := not_raised_recoverable (r := r.withoutExemptions) (p := p)
      have hle := Effect.worst_map_exempted_le (r := r) (p := p) (effects r.withoutExemptions p)
      rw [heq, ← effects_exempted, ← hexempted] at hle
      split
      · rename_i hleft
        obtain ⟨check, ix, hnoted⟩ := (he.hasFailures_iff hp).mp hleft
        refine le_antisymm hle ?_
        rw [hexempted]
        exact Verdict.le_worst (List.mem_map.mpr ⟨_, hnoted, rfl⟩)
      · rename_i hnone
        rw [hexempted, effects_exempted]
        refine Effect.worst_map_exempted_of_forall hraised heq fun check ix hnoted => hnone ?_
        rw [← effects_exempted] at hnoted
        exact (he.hasFailures_iff hp).mpr ⟨check, ix, hnoted⟩

end Evaluation
end ChainTrust
