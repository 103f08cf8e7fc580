import ChainTrust.Proofs.Findings
import ChainTrust.Proofs.Timeline

namespace ChainTrust

namespace Policy

theorem optionNamed?_isSome_iff {policy : Policy} {name : CheckName} :
    (policy.optionNamed? name).isSome = true ↔ ∃ v, (name, v) ∈ policy.options := by
  unfold optionNamed? Entries.get?
  generalize policy.options = options
  induction options with
  | nil => simp
  | cons option options ih =>
    obtain ⟨other, value⟩ := option
    rw [List.lookup_cons]
    by_cases h : name = other
    · subst h
      simp
    · rw [beq_eq_false_iff_ne.mpr h]
      simp only [List.mem_cons, Prod.mk.injEq, h, false_and, false_or]
      exact ih

theorem requests_iff {policy : Policy} {check : Check} :
    policy.requests check = true ↔ ∃ v, (.known check, v) ∈ policy.options :=
  optionNamed?_isSome_iff

end Policy

theorem Request.isRequested_of_mem {policy : Policy} {name : CheckName} {v : OptionValue}
    (h : (name, v) ∈ policy.options) (p : Path) : isRequested (some policy) p name = true := by
  simp [isRequested, Policy.optionNamed?_isSome_iff.mpr ⟨v, h⟩]

/-- A finding is made while the options of a policy are looked at. -/
inductive Finding.Arises (r : Request) (p : Path) : Option Policy → Finding → Prop where
  | unknownName {policy : Policy} {s : String} {v : OptionValue} (hp : policy ∈ r.policies)
      (ho : (.other s, v) ∈ policy.options) : Arises r p (some policy) (.verdict .otherError)
  | blockedLeaf {policy : Policy} {leaf : Facts} (hp : policy ∈ r.policies)
      (hl : p.leaf? = some leaf) (ho : policy.requests .blackListedLeaf = true)
      (h : LeafCheck.isBlocked r leaf = true) : Arises r p (some policy) (.fatal .blackListedLeaf 0)
  | blockedLeafOutcome {policy : Policy} {leaf : Facts} (hp : policy ∈ r.policies)
      (hl : p.leaf? = some leaf) (ho : policy.requests .blackListedLeaf = true)
      (h : LeafCheck.isBlocked r leaf = true) : Arises r p (some policy) (.verdict .fatal)
  | leafCheck {policy : Policy} {leaf : Facts} {check : Check} {v : OptionValue}
      (hp : policy ∈ r.policies) (hl : p.leaf? = some leaf)
      (ho : (.known check, v) ∈ policy.options) (hb : check ≠ .blackListedLeaf)
      (h : LeafCheck.fails r leaf v check = true) : Arises r p (some policy) (.failed check 0)
  | pathCheck {policy : Policy} {check : Check} {v : OptionValue} {ix : Nat}
      (hp : policy ∈ r.policies) (ho : (.known check, v) ∈ policy.options)
      (h : ix ∈ PathCheck.failures p v check) : Arises r p (some policy) (.failed check ix)
  | always {f : Finding} (h : Processing.Found r p f) : Arises r p r.firstPolicy? f
  | timestamps {policy : Policy} (hp : policy ∈ r.policies)
      (hr : policy.requests .ctRequired = true) (h : (Evaluation.classify r p).isCt = false) :
      Arises r p (some policy) (.failed .ctRequired 0)

/-- Paths in which the same is looked at fail the same as a whole. -/
theorem PathCheck.failures_congr {r : Request} {p q : Path} (h : Processing.Alike r p q)
    (v : OptionValue) (check : Check) : failures p v check = failures q v check := by
  have hcertificates := h.certificates
  have hanchored := h.isAnchored
  have hstores := h.stores
  clear h
  cases p
  cases q
  subst hcertificates hanchored hstores
  cases check <;> rfl

/-- The same arises in paths in which the same is looked at. -/
theorem Finding.Arises.congr {r : Request} {p q : Path} {current : Option Policy} {f : Finding}
    (h : Arises r p current f) (ha : Processing.Alike r p q)
    (hct : (Evaluation.classify r p).isCt = (Evaluation.classify r q).isCt) :
    Arises r q current f := by
  have hleaf : p.leaf? = q.leaf? := congrArg List.head? ha.certificates
  cases h with
  | unknownName hp ho => exact .unknownName hp ho
  | blockedLeaf hp hl ho hb => exact .blockedLeaf hp (hleaf.symm.trans hl) ho hb
  | blockedLeafOutcome hp hl ho hb => exact .blockedLeafOutcome hp (hleaf.symm.trans hl) ho hb
  | leafCheck hp hl ho hb hf => exact .leafCheck hp (hleaf.symm.trans hl) ho hb hf
  | pathCheck hp ho hf =>
    rw [PathCheck.failures_congr ha] at hf
    exact .pathCheck hp ho hf
  | always hf =>
    rw [← Processing.mem_findings, Processing.findings_congr ha, Processing.mem_findings] at hf
    exact .always hf
  | timestamps hp hr hc => exact .timestamps hp hr (hct.symm.trans hc)

namespace Evaluation

variable {r : Request} {p : Path}

theorem mem_pathFindings {name : CheckName} {v : OptionValue} {f : Finding} :
    f ∈ pathFindings p name v ↔
      (∃ s, name = .other s ∧ f = .verdict .otherError) ∨
      (∃ check ix, name = .known check ∧ ix ∈ PathCheck.failures p v check ∧
        f = .failed check ix) := by
  unfold pathFindings
  cases name with
  | known check => simp [eq_comm]
  | other s => simp

theorem mem_leafEffects {e : Effect} :
    e ∈ leafEffects r p ↔ ∃ leaf, p.leaf? = some leaf ∧ ∃ policy ∈ r.policies, ∃ name v,
      (name, v) ∈ policy.options ∧ ∃ f ∈ leafFindings r leaf name v,
        f.effect r (some policy) p = e := by
  unfold leafEffects
  cases p.leaf? with
  | none => simp
  | some leaf =>
    simp only [mem_optionEffects, Option.some.injEq, exists_eq_left']

theorem mem_ctEffects {e : Effect} :
    e ∈ ctEffects r p ↔ ∃ policy ∈ r.policies, policy.requests .ctRequired = true ∧
      (classify r p).isCt = false ∧
        Finding.effect r (some policy) p (.failed .ctRequired 0) = e := by
  simp [ctEffects, and_assoc]

/-- The effects of an evaluation are those of the findings that arise in it. -/
theorem mem_effects {e : Effect} :
    e ∈ effects r p ↔
      ∃ current f, Finding.Arises r p current f ∧ f.effect r current p = e := by
  simp only [effects, pathEffects, List.mem_append]
  constructor
  · intro h
    rcases h with hl | (ho | ha) | hc
    · obtain ⟨leaf, hleaf, policy, hp, name, v, ho, f, hf, he⟩ := mem_leafEffects.mp hl
      refine ⟨some policy, f, ?_, he⟩
      rcases mem_leafFindings.mp hf with
        ⟨s, rfl, rfl⟩ | ⟨rfl, hb, rfl | rfl⟩ | ⟨check, rfl, hb, hfails, rfl⟩
      · exact .unknownName hp ho
      · exact .blockedLeaf hp hleaf (Policy.requests_iff.mpr ⟨v, ho⟩) hb
      · exact .blockedLeafOutcome hp hleaf (Policy.requests_iff.mpr ⟨v, ho⟩) hb
      · exact .leafCheck hp hleaf ho hb hfails
    · obtain ⟨policy, hp, name, v, ho, f, hf, he⟩ := mem_optionEffects.mp ho
      refine ⟨some policy, f, ?_, he⟩
      rcases mem_pathFindings.mp hf with ⟨s, rfl, rfl⟩ | ⟨check, ix, rfl, hix, rfl⟩
      · exact .unknownName hp ho
      · exact .pathCheck hp ho hix
    · obtain ⟨f, hf, he⟩ := List.mem_map.mp ha
      exact ⟨r.firstPolicy?, f, .always (Processing.mem_findings.mp hf), he⟩
    · obtain ⟨policy, hp, hr, hc, he⟩ := mem_ctEffects.mp hc
      exact ⟨some policy, _, .timestamps hp hr hc, he⟩
  · intro h
    obtain ⟨current, f, ha, he⟩ := h
    have hleaf : ∀ {policy leaf name v}, policy ∈ r.policies → p.leaf? = some leaf →
        (name, v) ∈ policy.options → f ∈ leafFindings r leaf name v → current = some policy →
        e ∈ leafEffects r p := by
      rintro policy leaf name v hp hl ho hf rfl
      exact mem_leafEffects.mpr ⟨leaf, hl, policy, hp, name, v, ho, f, hf, he⟩
    have hpath : ∀ {policy name v}, policy ∈ r.policies → (name, v) ∈ policy.options →
        f ∈ pathFindings p name v → current = some policy →
        e ∈ optionEffects r p (pathFindings p) := by
      rintro policy name v hp ho hf rfl
      exact mem_optionEffects.mpr ⟨policy, hp, name, v, ho, f, hf, he⟩
    cases ha with
    | unknownName hp ho =>
      exact .inr (.inl (.inl (hpath hp ho (mem_pathFindings.mpr (.inl ⟨_, rfl, rfl⟩)) rfl)))
    | blockedLeaf hp hl ho hb =>
      obtain ⟨v, ho⟩ := Policy.requests_iff.mp ho
      exact .inl (hleaf hp hl ho (mem_leafFindings.mpr (.inr (.inl ⟨rfl, hb, .inl rfl⟩))) rfl)
    | blockedLeafOutcome hp hl ho hb =>
      obtain ⟨v, ho⟩ := Policy.requests_iff.mp ho
      exact .inl (hleaf hp hl ho (mem_leafFindings.mpr (.inr (.inl ⟨rfl, hb, .inr rfl⟩))) rfl)
    | leafCheck hp hl ho hb hf =>
      exact .inl (hleaf hp hl ho (mem_leafFindings.mpr (.inr (.inr ⟨_, rfl, hb, hf, rfl⟩))) rfl)
    | pathCheck hp ho hf =>
      exact .inr (.inl (.inl (hpath hp ho (mem_pathFindings.mpr (.inr ⟨_, _, rfl, hf, rfl⟩)) rfl)))
    | always hf =>
      exact .inr (.inl (.inr (List.mem_map.mpr ⟨f, Processing.mem_findings.mpr hf, he⟩)))
    | timestamps hp hr hc => exact .inr (.inr (mem_ctEffects.mpr ⟨_, hp, hr, hc, he⟩))

/-- An outcome is raised if a finding says so. -/
theorem raised_mem_effects {v : Verdict} :
    .raised v ∈ effects r p ↔ ∃ current, Finding.Arises r p current (.verdict v) := by
  simp only [mem_effects, Finding.effect_eq_raised_iff]
  constructor
  · intro h
    obtain ⟨current, f, ha, rfl⟩ := h
    exact ⟨current, ha⟩
  · intro h
    obtain ⟨current, ha⟩ := h
    exact ⟨current, _, ha, rfl⟩

/-- Nothing raises the failure of a check as such. -/
theorem not_raised_recoverable : .raised .recoverable ∉ effects r p := by
  rw [raised_mem_effects]
  intro h
  obtain ⟨current, ha⟩ := h
  cases ha with
  | always h => cases h

/-- A failure is noted if a finding says so and nothing waives or accepts it. -/
theorem noted_mem_effects {check : Check} {ix : Nat} :
    .noted check ix ∈ effects r p ↔ ix < p.length ∧
      ((∃ current, Finding.Arises r p current (.fatal check ix)) ∨
        ∃ current, (Finding.Arises r p current (.failed check ix) ∧
              Request.isRequested current p (.known check) = true ∨
            Finding.Arises r p current (.violated check ix)) ∧
          r.isWaived current p (.known check) ix = false ∧
            r.isExempt p (.known check) ix false = false) := by
  simp only [mem_effects, Finding.effect_eq_noted_iff]
  constructor
  · intro h
    obtain ⟨current, f, ha, hl, rfl | ⟨⟨rfl, hr⟩ | rfl, h⟩⟩ := h
    · exact ⟨hl, .inl ⟨current, ha⟩⟩
    · exact ⟨hl, .inr ⟨current, .inl ⟨ha, hr⟩, h⟩⟩
    · exact ⟨hl, .inr ⟨current, .inr ha, h⟩⟩
  · intro h
    obtain ⟨hl, ⟨current, ha⟩ | ⟨current, ⟨ha, hr⟩ | ha, h⟩⟩ := h
    · exact ⟨current, _, ha, hl, .inl rfl⟩
    · exact ⟨current, _, ha, hl, .inr ⟨.inl ⟨rfl, hr⟩, h⟩⟩
    · exact ⟨current, _, ha, hl, .inr ⟨.inr rfl, h⟩⟩

section Fresh

variable {e : Evaluation} (he : IsFresh e p) (hp : p.certificates ≠ [])

include he hp

/-- A certificate has failed a check if that was noted at its place. -/
theorem IsFresh.hasFailed_iff {check : Check} {ix : Nat} :
    (e.pathChecks r p).2.1.hasFailed check ix = true ↔ .noted check ix ∈ effects r p := by
  rw [hasFailed, he.pathChecks_details hp]
  cases hc : p.certificate? ix with
  | none =>
    simp only [Option.map_none, Option.any_none, Bool.false_eq_true, false_iff]
    intro h
    have hl := (noted_mem_effects.mp h).1
    exact Nat.not_lt.mpr (List.getElem?_eq_none_iff.mp hc) hl
  | some c =>
    rw [Option.map_some, Option.any_some, Entries.hasKey_putKeys]
    simp [Entries.hasKey, Effect.mem_namesAt]

theorem IsFresh.hasFailures_iff :
    (e.pathChecks r p).2.1.hasFailures = true ↔ ∃ check ix, .noted check ix ∈ effects r p := by
  rw [hasFailures, List.any_eq_true]
  constructor
  · intro h
    obtain ⟨m, hm, hne⟩ := h
    obtain ⟨ix, hix⟩ := List.mem_iff_getElem?.mp hm
    rw [he.pathChecks_details hp] at hix
    obtain ⟨c, -, rfl⟩ := Option.map_eq_some_iff.mp hix
    have hnames : Effect.namesAt ix (effects r p) ≠ [] := by
      intro h
      rw [h] at hne
      simp [Entries.putKeys] at hne
    obtain ⟨check, hcheck⟩ := not_forall.mp (mt Effect.namesAt_eq_nil_iff.mpr hnames)
    exact ⟨check, ix, not_not.mp hcheck⟩
  · intro h
    obtain ⟨check, ix, hnoted⟩ := h
    have hl := (noted_mem_effects.mp hnoted).1
    have hm := he.pathChecks_details (r := r) hp ix
    rw [Path.certificate?, List.getElem?_eq_getElem hl, Option.map_some] at hm
    refine ⟨_, List.mem_of_getElem? hm, ?_⟩
    have hnames : Effect.namesAt ix (effects r p) ≠ [] := by
      intro h
      exact Effect.namesAt_eq_nil_iff.mp h check hnoted
    simp [Entries.putKeys_eq_nil_iff, hnames]

/-- A path that is accepted has failed nothing. -/
theorem IsFresh.not_noted_of_isOk (hok : (e.pathChecks r p).1.isOk = true) (check : Check)
    (ix : Nat) : .noted check ix ∉ effects r p := by
  intro hnoted
  rw [he.pathChecks_verdict hp, Verdict.isOk_iff] at hok
  have hmem : .recoverable ∈ (effects r p).map Effect.verdict := List.mem_map.mpr ⟨_, hnoted, rfl⟩
  exact absurd (Verdict.le_worst hmem) (not_le_of_gt hok)

end Fresh

end Evaluation
end ChainTrust
