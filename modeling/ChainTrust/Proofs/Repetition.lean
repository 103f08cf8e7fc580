import ChainTrust.Proofs.Reuse

namespace ChainTrust

/-- Each certificate that a source recognizes comes from a store. -/
def AnchorSource.NamesStores (s : AnchorSource) : Prop :=
  ∀ c, s.isAnchor c = true → (s.store c).isSome = true

theorem AnchorTable.source_namesStores (t : AnchorTable) : t.source.NamesStores := by
  intro c h
  simpa [source] using h

/-- What no source of anchors changes of a path is left alone by all of them. -/
theorem Environment.applySources_frame {α : Type} (f : Path → α)
    (h : ∀ (p : Path) (s : AnchorSource), f (p.applySource s) = f p) (env : Environment) (p : Path) :
    f (env.applySources p) = f p := by
  unfold applySources
  generalize env.anchorSources = sources
  induction sources generalizing p with
  | nil => rfl
  | cons s sources ih => rw [List.foldl_cons, ih, h]

namespace Path

theorem places_getElem? (p : Path) (ix : Nat) :
    p.places[ix]? = (p.certificate? ix).map fun c => (c, ix) := by
  simp [places, certificate?, List.getElem?_zipIdx]

theorem root?_eq_certificate? (p : Path) : p.root? = p.certificate? (p.length - 1) :=
  List.getLast?_eq_getElem?

/-- A list that has for each certificate what is told from it and its place. -/
theorem map_places_eq {α : Type} {p : Path} {f : Facts × Nat → α} {values : List α}
    (hl : values.length = p.length)
    (h : ∀ ix c, p.certificate? ix = some c → values[ix]? = some (f (c, ix))) :
    p.places.map f = values := by
  apply List.ext_getElem?
  intro ix
  rw [List.getElem?_map, places_getElem?]
  cases hc : p.certificate? ix with
  | none =>
    have hlength : values.length ≤ ix := by
      rw [hl]
      exact List.getElem?_eq_none_iff.mp hc
    exact (List.getElem?_eq_none_iff.mpr hlength).symm
  | some c => exact (h ix c hc).symm

/-- A source has nothing to add to a path. -/
structure IsSettled (s : AnchorSource) (p : Path) : Prop where
  constraints_length : p.constraints.length = p.length
  stores_length : p.stores.length = p.length
  not_isNewAnchor : ∀ ix c, p.certificate? ix = some c → p.isNewAnchor s c ix = false

variable {s t : AnchorSource} {p : Path}

theorem storeAt_applySource {ix : Nat} {c : Facts} (h : p.certificate? ix = some c) :
    (p.applySource s).storeAt ix = if p.isNewAnchor s c ix then s.store c else p.storeAt ix := by
  change ((p.places.map _)[ix]?).join = _
  rw [List.getElem?_map, places_getElem?, h]
  rfl

theorem IsSettled.applySource_eq (h : p.IsSettled s) : p.applySource s = p := by
  have hconstraints : (p.applySource s).constraints = p.constraints := by
    refine map_places_eq h.constraints_length fun ix c hc => ?_
    have hlt : ix < p.constraints.length := by
      rw [h.constraints_length]
      exact certificate?_eq_some_lt hc
    simp [h.not_isNewAnchor ix c hc, constraintsAt, hlt]
  have hstores : (p.applySource s).stores = p.stores := by
    refine map_places_eq h.stores_length fun ix c hc => ?_
    have hlt : ix < p.stores.length := by
      rw [h.stores_length]
      exact certificate?_eq_some_lt hc
    simp [h.not_isNewAnchor ix c hc, storeAt, hlt]
  have hroot : (p.root?.any fun c => p.isNewAnchor s c (p.length - 1)) = false := by
    cases hr : p.root? with
    | none => rfl
    | some c => exact h.not_isNewAnchor _ c ((root?_eq_certificate? p).symm.trans hr)
  have hanchored : (p.applySource s).isAnchored = p.isAnchored := by
    change (p.isAnchored || _) = p.isAnchored
    rw [hroot, Bool.or_false]
  calc
    p.applySource s = { p with
        constraints := (p.applySource s).constraints
        stores := (p.applySource s).stores
        isAnchored := (p.applySource s).isAnchored } := rfl
    _ = p := by rw [hconstraints, hstores, hanchored]

/-- What a source recognizes it has recognized once it was applied. -/
theorem isSettled_applySource (hs : s.NamesStores) (p : Path) :
    (p.applySource s).IsSettled s where
  constraints_length := by simp [applySource, places, length]
  stores_length := by simp [applySource, places, length]
  not_isNewAnchor := by
    intro ix c hc
    have hc : p.certificate? ix = some c := hc
    rw [isNewAnchor, storeAt_applySource hc]
    cases hnew : p.isNewAnchor s c ix with
    | true =>
      have hanchor : s.isAnchor c = true := (Bool.and_eq_true_iff.mp hnew).2
      simp [Option.isNone_eq_false_iff.mpr (hs c hanchor)]
    | false => exact hnew

/-- Another source takes no certificate away from those that are recognized. -/
theorem IsSettled.applySource (h : p.IsSettled s) (t : AnchorSource) :
    (p.applySource t).IsSettled s where
  constraints_length := by simp [Path.applySource, places, length]
  stores_length := by simp [Path.applySource, places, length]
  not_isNewAnchor := by
    intro ix c hc
    have hc : p.certificate? ix = some c := hc
    have hold : p.isNewAnchor s c ix = false := h.not_isNewAnchor ix c hc
    rw [isNewAnchor, storeAt_applySource hc]
    cases hnew : p.isNewAnchor t c ix with
    | true =>
      have hnone : (p.storeAt ix).isNone = true := (Bool.and_eq_true_iff.mp hnew).1
      have hnot : s.isAnchor c = false := by simpa [isNewAnchor, hnone] using hold
      simp [hnot]
    | false => exact hold

theorem IsSettled.foldl (h : p.IsSettled s) (sources : List AnchorSource) :
    (sources.foldl Path.applySource p).IsSettled s := by
  induction sources generalizing p with
  | nil => exact h
  | cons t sources ih => exact ih (h.applySource t)

theorem isSettled_foldl {sources : List AnchorSource} (hs : ∀ s ∈ sources, s.NamesStores)
    (p : Path) : ∀ s ∈ sources, (sources.foldl Path.applySource p).IsSettled s := by
  induction sources generalizing p with
  | nil => exact fun _ h => (List.not_mem_nil h).elim
  | cons t sources ih =>
    intro s hmem
    rcases List.mem_cons.mp hmem with rfl | hmem
    · exact (isSettled_applySource (hs s List.mem_cons_self) p).foldl sources
    · exact ih (fun s h => hs s (List.mem_cons_of_mem t h)) _ s hmem

theorem foldl_applySource_eq {sources : List AnchorSource} (h : ∀ s ∈ sources, p.IsSettled s) :
    sources.foldl Path.applySource p = p := by
  induction sources with
  | nil => rfl
  | cons t sources ih =>
    rw [List.foldl_cons, (h t List.mem_cons_self).applySource_eq]
    exact ih fun s hs => h s (List.mem_cons_of_mem t hs)

end Path

namespace Evaluation

variable {r : Request} {p : Path} {e e' : Evaluation}

theorem classify_of_isValidated (h : p.isValidated = true) : classify r p = p :=
  if_pos h

theorem isValidated_classify (r : Request) (p : Path) : (classify r p).isValidated = true := by
  unfold classify
  split
  · assumption
  · rfl

theorem isSettled_classify {s : AnchorSource} (h : p.IsSettled s) :
    (classify r p).IsSettled s := by
  unfold classify
  split <;> exact ⟨h.constraints_length, h.stores_length, h.not_isNewAnchor⟩

theorem leafChecks_classify (r : Request) (p : Path) (e : Evaluation) :
    e.leafChecks r (classify r p) = e.leafChecks r p := by
  unfold classify
  split <;> rfl

theorem pathFindings_classify (r : Request) (p : Path) :
    pathFindings (classify r p) = pathFindings p := by
  unfold classify
  split <;> rfl

theorem findings_classify (r : Request) (p : Path) :
    Processing.findings r (classify r p) = Processing.findings r p := by
  apply Processing.findings_congr
  unfold classify
  split <;> exact ⟨rfl, rfl, rfl, rfl, rfl, fun _ => rfl⟩

theorem optionEffects_classify (r : Request) (p : Path)
    (findings : CheckName → OptionValue → List Finding) :
    optionEffects r (classify r p) findings = optionEffects r p findings := by
  unfold classify
  split <;> rfl

theorem ctEffects_classify (r : Request) (p : Path) :
    ctEffects r (classify r p) = ctEffects r p := by
  unfold ctEffects
  rw [classify_of_isValidated (isValidated_classify r p)]
  exact List.map_congr_left fun policy _ => effect_classify r (some policy) p _

theorem closing_classify (r : Request) (p : Path) (e : Evaluation) :
    closing r (classify r p) e = closing r p e := by
  have heffect : Finding.effect r r.firstPolicy? (classify r p) =
      Finding.effect r r.firstPolicy? p :=
    funext (effect_classify r r.firstPolicy? p)
  have hreset : ∀ e : Evaluation, e.reset (classify r p) = e.reset p := by
    intro e
    unfold classify
    split <;> rfl
  have hdemand : ∀ e : Evaluation, e.demandResponses r (classify r p) = e.demandResponses r p := by
    intro e
    unfold classify
    split <;> rfl
  simp only [closing, leafChecks_classify, pathFindings_classify, findings_classify,
    optionEffects_classify, ctEffects_classify, heffect, hreset, hdemand,
    classify_of_isValidated (isValidated_classify r p)]

/-- The leaf of a path that was just evaluated is the one that was checked last. -/
theorem leafChecks_lastLeaf_again (hp : p.certificates ≠ [])
    (h : e'.lastLeaf = (e.leafChecks r p).2.lastLeaf) :
    (e'.leafChecks r p).2.lastLeaf = (e.leafChecks r p).2.lastLeaf := by
  obtain ⟨leaf, hl⟩ := Path.exists_leaf hp
  rw [leafChecks_lastLeaf hl, h, leafChecks_lastLeaf hl]
  generalize ho : (e.lastLeaf.filter (·.sha1 == leaf.sha1)).getD (leafOutcome r p leaf) = outcome
  have hsha1 : outcome.sha1 = leaf.sha1 := by
    rw [← ho]
    cases hf : e.lastLeaf.filter (·.sha1 == leaf.sha1) with
    | none => rfl
    | some known => exact eq_of_beq (Option.filter_eq_some_iff.mp hf).2
  simp [Option.filter_some, hsha1]

/-- Evaluating a path whose anchors are known leaves nothing to do for a second time. -/
theorem pathChecks_again (r : Request) (p : Path) (e : Evaluation) :
    (e.pathChecks r p).2.1.pathChecks r (e.pathChecks r p).2.2 = e.pathChecks r p := by
  by_cases hp : p.certificates = []
  · rw [pathChecks_of_isEmpty r hp, pathChecks_of_isEmpty r hp]
  · have hcertificates : (classify r p).certificates ≠ [] := by
      unfold classify
      split <;> exact hp
    have hlast := leafChecks_lastLeaf_again hp (closing_lastLeaf r p e)
    rw [pathChecks_eq hp, pathChecks_eq hcertificates, closing_classify,
      classify_of_isValidated (isValidated_classify r p), closing_congr hlast]

theorem isSettled_pathChecks {s : AnchorSource} (h : p.IsSettled s) (e : Evaluation) :
    (e.pathChecks r p).2.2.IsSettled s := by
  by_cases hp : p.certificates = []
  · rw [pathChecks_of_isEmpty r hp]
    exact h
  · rw [pathChecks_eq hp]
    exact isSettled_classify h

/-- Evaluating a path twice in a row is evaluating it once, whatever was evaluated before. -/
theorem evaluate_again (r : Request) (p : Path) (e : Evaluation)
    (hs : ∀ s ∈ r.environment.anchorSources, s.NamesStores) :
    let once := e.evaluate r p
    once.2.1.evaluate r once.2.2 = once := by
  intro once
  have hpath : r.environment.applySources once.2.2 = once.2.2 :=
    Path.foldl_applySource_eq fun s hmem =>
      isSettled_pathChecks (Path.isSettled_foldl hs p s hmem) e
  change once.2.1.pathChecks r (r.environment.applySources once.2.2) = once
  rw [hpath]
  exact pathChecks_again r (r.environment.applySources p) e

/-- An administrator's anchor is found by the first evaluation and known to the second. -/
theorem evaluate_again_admin :
    let anchors : AnchorTable := [⟨[2], .admin, []⟩]
    let r : Request := ⟨{ Environment.empty with anchorSources := [anchors.source] }, [], 5, []⟩
    let once := initial.evaluate r (Path.ofCertificates [.plain [1], .plain [2]])
    once.1 = .proceed ∧ once.2.1.evaluate r once.2.2 = once := by
  intro anchors r once
  refine ⟨by decide +kernel, evaluate_again r _ initial fun s hs => ?_⟩
  rw [List.mem_singleton.mp hs]
  exact anchors.source_namesStores

end Evaluation
end ChainTrust
