import ChainTrust.Proofs.Effect
import ChainTrust.Proofs.Registry

namespace ChainTrust

namespace Path

theorem ne_nil_of_leaf? {p : Path} {leaf : Facts} (h : p.leaf? = some leaf) :
    p.certificates ≠ [] :=
  List.ne_nil_of_mem (List.mem_of_head? h)

theorem exists_leaf {p : Path} (h : p.certificates ≠ []) : ∃ leaf, p.leaf? = some leaf := by
  obtain ⟨leaf, rest, hc⟩ := List.exists_cons_of_ne_nil h
  exact ⟨leaf, by simp [leaf?, hc]⟩

end Path

namespace Evaluation

/-- The effects of what the options of the policies give. -/
def optionEffects (r : Request) (p : Path) (findings : CheckName → OptionValue → List Finding) :
    List Effect :=
  r.policies.flatMap fun policy =>
    (policy.options.flatMap fun (name, v) => findings name v).map (Finding.effect r (some policy) p)

def leafEffects (r : Request) (p : Path) : List Effect :=
  match p.leaf? with
  | some leaf => optionEffects r p (leafFindings r leaf)
  | none => []

def ctEffects (r : Request) (p : Path) : List Effect :=
  (r.policies.filter fun policy => policy.requests .ctRequired && !(classify r p).isCt).map
    fun policy => Finding.effect r (some policy) p (.failed .ctRequired 0)

/-- The effects of all that does not concern the leaf alone. -/
def pathEffects (r : Request) (p : Path) : List Effect :=
  optionEffects r p (pathFindings p) ++
    (Processing.findings r p).map (Finding.effect r r.firstPolicy? p) ++ ctEffects r p

/-- The effects of everything that the evaluation of a path finds. -/
def effects (r : Request) (p : Path) : List Effect :=
  leafEffects r p ++ pathEffects r p

theorem mem_optionEffects {r : Request} {p : Path}
    {findings : CheckName → OptionValue → List Finding} {e : Effect} :
    e ∈ optionEffects r p findings ↔
      ∃ policy ∈ r.policies, ∃ name v, (name, v) ∈ policy.options ∧
        ∃ f ∈ findings name v, f.effect r (some policy) p = e := by
  simp only [optionEffects, List.mem_flatMap, List.mem_map]
  constructor
  · intro h
    obtain ⟨policy, hp, f, ⟨⟨name, v⟩, ho, hf⟩, he⟩ := h
    exact ⟨policy, hp, name, v, ho, f, hf, he⟩
  · intro h
    obtain ⟨policy, hp, name, v, ho, f, hf, he⟩ := h
    exact ⟨policy, hp, f, ⟨(name, v), ho, hf⟩, he⟩

theorem applyAll_eq_absorbAll {r : Request} {current : Option Policy} {p : Path} {e : Evaluation}
    (h : e.details.length = p.length) (fs : List Finding) :
    e.applyAll r current p fs = absorbAll (fs.map (Finding.effect r current p)) e := by
  induction fs generalizing e with
  | nil => rfl
  | cons f fs ih =>
    change applyAll r current p fs (e.apply r current p f) = _
    rw [apply_eq_absorb h, ih ((absorb_details_length e _).trans h)]
    rfl

theorem dispatch_eq_absorbAll {r : Request} {p : Path} {e : Evaluation}
    (h : e.details.length = p.length) (findings : CheckName → OptionValue → List Finding) :
    e.dispatch r p findings = absorbAll (optionEffects r p findings) e := by
  unfold dispatch optionEffects
  generalize r.policies = policies
  induction policies generalizing e with
  | nil => rfl
  | cons policy policies ih =>
    rw [List.foldl_cons, List.flatMap_cons, absorbAll_append, applyAll_eq_absorbAll h]
    exact ih ((absorbAll_details_length _ e).trans h)

/-- What a path qualifies for has no bearing on what is recorded. -/
theorem effect_classify (r : Request) (current : Option Policy) (p : Path) (f : Finding) :
    f.effect r current (classify r p) = f.effect r current p := by
  unfold classify
  split <;> rfl

theorem requireCt_eq_absorbAll {r : Request} {p : Path} {e : Evaluation}
    (h : e.details.length = p.length) :
    e.requireCt r (classify r p) =
      absorbAll (ctEffects r p) { e with isCt := (classify r p).isCt } := by
  have hlength : (classify r p).length = p.length := by
    unfold classify
    split <;> rfl
  unfold requireCt ctEffects
  generalize r.policies = policies
  generalize hs : ({ e with isCt := (classify r p).isCt } : Evaluation) = s
  replace h : s.details.length = p.length := by
    rw [← hs]
    exact h
  clear hs
  induction policies generalizing s with
  | nil => rfl
  | cons policy policies ih =>
    rw [List.foldl_cons, List.filter_cons]
    split
    · rw [apply_eq_absorb (h.trans hlength.symm), effect_classify, List.map_cons]
      exact ih _ ((absorb_details_length s _).trans h)
    · exact ih s h

/-- An option gives a leaf no more than the one check that it names. -/
theorem mem_leafFindings {r : Request} {leaf : Facts} {name : CheckName} {v : OptionValue}
    {f : Finding} :
    f ∈ leafFindings r leaf name v ↔
      (∃ s, name = .other s ∧ f = .verdict .otherError) ∨
      (name = .known .blackListedLeaf ∧ LeafCheck.isBlocked r leaf = true ∧
        (f = .fatal .blackListedLeaf 0 ∨ f = .verdict .fatal)) ∨
      (∃ check, name = .known check ∧ check ≠ .blackListedLeaf ∧
        LeafCheck.fails r leaf v check = true ∧ f = .failed check 0) := by
  unfold leafFindings
  split
  · simp
  · have hfails : LeafCheck.fails r leaf v .blackListedLeaf = LeafCheck.isBlocked r leaf := rfl
    rw [hfails]
    cases LeafCheck.isBlocked r leaf <;> simp
  · rename_i check hne
    have hne : check ≠ .blackListedLeaf := fun h => hne h
    simp [hne]

/-- All that a leaf can fail is noted at the leaf. -/
theorem namesAt_leafEffects (r : Request) (p : Path) {ix : Nat} (h : ix ≠ 0) :
    Effect.namesAt ix (leafEffects r p) = [] := by
  rw [Effect.namesAt_eq_nil_iff]
  intro check hc
  unfold leafEffects at hc
  split at hc
  · obtain ⟨policy, -, name, v, -, f, hf, he⟩ := mem_optionEffects.mp hc
    rcases mem_leafFindings.mp hf with ⟨-, -, rfl⟩ | ⟨-, -, rfl | rfl⟩ | ⟨failed, -, -, -, rfl⟩
    · cases he
    · simp only [Finding.effect] at he
      split at he <;> cases he
      exact h rfl
    · cases he
    · simp only [Finding.effect, Request.recording] at he
      split_ifs at he
      cases he
      exact h rfl
  · cases hc

/-- What the checks of a leaf come to for a context that has not seen the leaf last. -/
def leafOutcome (r : Request) (p : Path) (leaf : Facts) : LeafOutcome where
  sha1 := leaf.sha1
  verdict := Verdict.worst ((leafEffects r p).map Effect.verdict)
  failures := Entries.putKeys (Effect.namesAt 0 (leafEffects r p)) false []

theorem noFailures_getElem? (p : Path) (ix : Nat) :
    (noFailures p)[ix]? = (p.certificate? ix).map fun _ => [] :=
  List.getElem?_map

theorem checkLeaf_lastLeaf {r : Request} {p : Path} {leaf : Facts} (h : p.leaf? = some leaf)
    (e : Evaluation) : (e.checkLeaf r p leaf).lastLeaf = some (leafOutcome r p leaf) := by
  have hlength : (noFailures p).length = p.length := List.length_map _
  have heffects : optionEffects r p (leafFindings r leaf) = leafEffects r p := by
    simp only [leafEffects, h]
  have hfirst : p.certificate? 0 = some leaf := by
    rw [← h]
    exact List.head?_eq_getElem?.symm
  simp only [checkLeaf, leafOutcome, Option.some.injEq, LeafOutcome.mk.injEq, true_and]
  rw [dispatch_eq_absorbAll hlength, heffects]
  constructor
  · rw [absorbAll_verdict, max_eq_right (Verdict.unspecified_le _)]
  · rw [List.headD_eq_head?_getD, List.head?_eq_getElem?, absorbAll_details, noFailures_getElem?,
      hfirst]
    rfl

/-- Either the leaf was checked last and its outcome stays, or it is checked now. -/
theorem leafChecks_lastLeaf {r : Request} {p : Path} {leaf : Facts} (h : p.leaf? = some leaf)
    (e : Evaluation) :
    (e.leafChecks r p).2.lastLeaf =
      some ((e.lastLeaf.filter (·.sha1 == leaf.sha1)).getD (leafOutcome r p leaf)) := by
  simp only [leafChecks, h]
  split
  · rename_i outcome houtcome
    rw [houtcome]
    exact (Option.filter_eq_some_iff.mp houtcome).1
  · rename_i hnone
    rw [hnone]
    exact checkLeaf_lastLeaf h e

theorem reset_verdict {e : Evaluation} {outcome : LeafOutcome} (h : e.lastLeaf = some outcome)
    (p : Path) : (e.reset p).verdict = outcome.verdict := by
  simp [reset, h]

theorem reset_details {e : Evaluation} {outcome : LeafOutcome} (h : e.lastLeaf = some outcome)
    (p : Path) (ix : Nat) :
    (e.reset p).details[ix]? =
      (p.certificate? ix).map fun _ => if ix = 0 then outcome.failures else [] := by
  unfold reset Path.certificate?
  simp only [h]
  cases hc : p.certificates with
  | nil => simp [noFailures, hc]
  | cons c rest =>
    cases ix with
    | zero => rfl
    | succ ix =>
      rw [List.getElem?_cons_succ, List.getElem?_cons_succ, if_neg ix.succ_ne_zero]
      exact List.getElem?_map

theorem reset_details_length (e : Evaluation) (p : Path) :
    (e.reset p).details.length = p.length := by
  unfold reset Path.length
  cases hl : e.lastLeaf <;> cases hc : p.certificates <;> simp [noFailures, hc]

/-- The state in which the checks of a path end. -/
def closing (r : Request) (p : Path) (e : Evaluation) : Evaluation :=
  let opened := (e.leafChecks r p).2.reset p
  let checked := (absorbAll (optionEffects r p (pathFindings p)) opened).demandResponses r p
  let walked :=
    absorbAll ((Processing.findings r p).map (Finding.effect r r.firstPolicy? p)) checked
  absorbAll (ctEffects r p) { walked with isCt := (classify r p).isCt }

theorem pathChecks_eq {r : Request} {p : Path} (h : p.certificates ≠ []) (e : Evaluation) :
    e.pathChecks r p = ((closing r p e).verdict, closing r p e, classify r p) := by
  have hempty : ¬p.certificates.isEmpty = true := by simpa using h
  have hopened := reset_details_length (e.leafChecks r p).2 p
  have hchecked : ((absorbAll (optionEffects r p (pathFindings p))
      ((e.leafChecks r p).2.reset p)).demandResponses r p).details.length = p.length :=
    (absorbAll_details_length _ _).trans hopened
  have hclosing : (((((e.leafChecks r p).2.reset p).dispatch r p (pathFindings p)).demandResponses
      r p).applyAll r r.firstPolicy? p (Processing.findings r p)).requireCt r (classify r p) =
        closing r p e := by
    rw [dispatch_eq_absorbAll hopened, applyAll_eq_absorbAll hchecked,
      requireCt_eq_absorbAll ((absorbAll_details_length _ _).trans hchecked)]
    rfl
  simp only [pathChecks, if_neg hempty, hclosing]

@[simp] theorem demandResponses_verdict (r : Request) (p : Path) (e : Evaluation) :
    (e.demandResponses r p).verdict = e.verdict :=
  rfl

@[simp] theorem demandResponses_details (r : Request) (p : Path) (e : Evaluation) :
    (e.demandResponses r p).details = e.details :=
  rfl

@[simp] theorem demandResponses_lastLeaf (r : Request) (p : Path) (e : Evaluation) :
    (e.demandResponses r p).lastLeaf = e.lastLeaf :=
  rfl

section Leaf

variable {r : Request} {p : Path} {e : Evaluation} {outcome : LeafOutcome}

/-- The outcome of a path is the worst of what its leaf and the path itself come to. -/
theorem pathChecks_verdict (hp : p.certificates ≠ [])
    (h : (e.leafChecks r p).2.lastLeaf = some outcome) :
    (e.pathChecks r p).1 =
      max outcome.verdict (Verdict.worst ((pathEffects r p).map Effect.verdict)) := by
  rw [pathChecks_eq hp]
  simp only [closing, absorbAll_verdict, demandResponses_verdict, reset_verdict h, pathEffects,
    List.map_append, Verdict.worst_append, max_assoc]

/-- A certificate fails what is noted at its place, and the leaf what was noted for it before. -/
theorem pathChecks_details (hp : p.certificates ≠ [])
    (h : (e.leafChecks r p).2.lastLeaf = some outcome) (ix : Nat) :
    (e.pathChecks r p).2.1.details[ix]? =
      (p.certificate? ix).map fun _ =>
        Entries.putKeys (Effect.namesAt ix (pathEffects r p)) false
          (if ix = 0 then outcome.failures else []) := by
  rw [pathChecks_eq hp]
  simp only [closing, absorbAll_details, demandResponses_details, reset_details h, Option.map_map,
    pathEffects, Effect.namesAt_append, Entries.putKeys_append]
  rfl

end Leaf

section Fresh

variable {r : Request} {p : Path} {e : Evaluation}

/-- The leaf of a path is not the one that was checked last. -/
def IsFresh (e : Evaluation) (p : Path) : Prop :=
  ∀ leaf ∈ p.leaf?, e.lastLeaf.filter (·.sha1 == leaf.sha1) = none

theorem isFresh_initial (p : Path) : IsFresh initial p :=
  fun _ _ => rfl

theorem IsFresh.leafChecks_lastLeaf (he : IsFresh e p) (hp : p.certificates ≠ []) :
    ∃ leaf, p.leaf? = some leaf ∧
      (e.leafChecks r p).2.lastLeaf = some (leafOutcome r p leaf) := by
  obtain ⟨leaf, hleaf⟩ := Path.exists_leaf hp
  refine ⟨leaf, hleaf, ?_⟩
  rw [Evaluation.leafChecks_lastLeaf hleaf, he leaf hleaf]
  rfl

/-- The outcome is the worst of all that the evaluation finds. -/
theorem IsFresh.pathChecks_verdict (he : IsFresh e p) (hp : p.certificates ≠ []) :
    (e.pathChecks r p).1 = Verdict.worst ((effects r p).map Effect.verdict) := by
  obtain ⟨leaf, -, hlast⟩ := he.leafChecks_lastLeaf (r := r) hp
  rw [Evaluation.pathChecks_verdict hp hlast, effects, List.map_append, Verdict.worst_append]
  rfl

/-- The failures of a certificate are all that the evaluation notes at its place. -/
theorem IsFresh.pathChecks_details (he : IsFresh e p) (hp : p.certificates ≠ []) (ix : Nat) :
    (e.pathChecks r p).2.1.details[ix]? =
      (p.certificate? ix).map fun _ =>
        Entries.putKeys (Effect.namesAt ix (effects r p)) false [] := by
  obtain ⟨leaf, -, hlast⟩ := he.leafChecks_lastLeaf (r := r) hp
  rw [Evaluation.pathChecks_details hp hlast]
  congr 1
  funext _
  rw [effects, Effect.namesAt_append, Entries.putKeys_append]
  by_cases hix : ix = 0
  · subst hix
    rfl
  · rw [if_neg hix, namesAt_leafEffects r p hix]
    rfl

end Fresh

end Evaluation
end ChainTrust
