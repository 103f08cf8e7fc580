import ChainTrust.Proofs.Attribution
import ChainTrust.Proofs.Guarded
import ChainTrust.Proofs.Repetition
import ChainTrust.Proofs.Requests
import Mathlib.Data.List.Forall2

namespace ChainTrust

namespace Guarded

section Reads

variable {p : Path} {ix : Nat}

theorem entry_eq_ok_iff {α : Type} {values : List α} {value : α} :
    entry values ix = .ok value ↔ values[ix]? = some value := by
  unfold entry
  cases values[ix]? <;> simp

theorem entry_zero_eq_ok {α : Type} {values : List α} (h : 0 < values.length) (fill : α) :
    entry values 0 = .ok (values.headD fill) := by
  cases values with
  | nil => exact absurd h (Nat.lt_irrefl 0)
  | cons value values => rfl

theorem minus_eq_ok_iff {a b d : Nat} : minus a b = .ok d ↔ b ≤ a ∧ a - b = d := by
  unfold minus
  split
  · rename_i h
    simp [h]
  · rename_i h
    simp [h]

theorem minus_eq_ok {a b : Nat} (h : b ≤ a) : minus a b = .ok (a - b) :=
  minus_eq_ok_iff.mpr ⟨h, rfl⟩

/-- A path with certificates has a last one. -/
theorem top_eq_ok (hp : 0 < p.length) : minus p.length 1 = .ok (p.length - 1) :=
  minus_eq_ok hp

theorem certificate_eq_ok_iff {c : Facts} :
    certificate p ix = .ok c ↔ p.certificate? ix = some c :=
  entry_eq_ok_iff

/-- Reading entry by entry gives the list of what is read. -/
theorem mapM_eq_ok {α β : Type} {f : α → Guarded β} {values : List α} {read : List β}
    (h : List.Forall₂ (fun a b => f a = .ok b) values read) : values.mapM f = .ok read := by
  induction h with
  | nil => rfl
  | cons hab _ ih =>
    rw [List.mapM_cons, hab, ih]
    rfl

theorem places_eq_ok {first count : Nat} (h : count ≤ p.length - first) :
    places p first count = .ok ((p.places.drop first).take count) := by
  have hlength : p.places.length = p.length := List.length_zipIdx
  refine mapM_eq_ok (List.forall₂_iff_get.mpr ⟨?_, ?_⟩)
  · rw [List.length_range', List.length_take, List.length_drop, hlength]
    omega
  · intro i hi hi'
    rw [List.length_range'] at hi
    have hix : first + i < p.certificates.length := by
      change first + i < p.length
      omega
    have hread : certificate p (first + i) = .ok p.certificates[first + i] :=
      certificate_eq_ok_iff.mpr (List.getElem?_eq_getElem hix)
    simp only [List.get_eq_getElem, List.getElem_range', List.getElem_take, List.getElem_drop,
      Path.places, List.getElem_zipIdx, Nat.one_mul, Nat.zero_add, hread]
    rfl

end Reads

section Recording

variable {r : Request} {p : Path} {current : Option Policy} {e : Evaluation}

/-- A finding is recorded exactly if the details have its place. -/
theorem record_eq_ok_iff {f : Finding} {after : Evaluation} :
    record r current p e f = .ok after ↔
      (∀ ix ∈ (f.recording current p).place?, ix < e.details.length) ∧
        e.apply r current p f = after := by
  have hrefused : (e.perform r (f.recording current p)).1 = false ↔ _ :=
    Evaluation.perform_eq_false_iff
  rw [Evaluation.apply_eq_perform]
  unfold record
  rcases hperform : e.perform r (f.recording current p) with ⟨accepted, state⟩
  rw [hperform] at hrefused
  cases accepted with
  | true =>
    have hplaces : ∀ ix ∈ (f.recording current p).place?, ix < e.details.length := by
      intro ix hix
      by_contra hle
      exact absurd (hrefused.mpr ⟨ix, hix, Nat.not_lt.mp hle⟩) nofun
    rw [and_iff_right hplaces]
    simp
  | false =>
    obtain ⟨ix, hix, hle⟩ := hrefused.mp rfl
    simp only [reduceCtorEq, false_iff, not_and]
    exact fun hplaces => absurd (hplaces ix hix) (Nat.not_lt.mpr hle)

/-- A lone leaf has no issuer at which a failure could be noted. -/
example :
    let p := Path.ofCertificates [.plain [1]]
    let e := { Evaluation.initial with details := Evaluation.noFailures p }
    record ⟨.empty, [], 5, []⟩ none p e (.fatal .weakIntermediates 1) =
      .error (.refused (.fatal .weakIntermediates 1)) := by
  decide +kernel

theorem record_eq_ok (hl : e.details.length = p.length) {f : Finding} (hf : f.IsPlaced p) :
    record r current p e f = .ok (e.apply r current p f) := by
  refine record_eq_ok_iff.mpr ⟨?_, rfl⟩
  rw [hl]
  cases f with
  | failed check ix | violated check ix | fatal check ix =>
    intro place hplace
    cases hplace
    exact hf.1
  | verdict v => nofun

theorem recordAll_eq_ok (hl : e.details.length = p.length) {findings : List Finding}
    (hf : ∀ f ∈ findings, f.IsPlaced p) :
    recordAll r current p findings e = .ok (e.applyAll r current p findings) := by
  unfold recordAll
  induction findings generalizing e with
  | nil => rfl
  | cons f findings ih =>
    rw [List.foldlM_cons, record_eq_ok hl (hf f List.mem_cons_self)]
    exact ih ((Evaluation.isKept_apply ..).length.trans hl)
      fun g hg => hf g (List.mem_cons_of_mem f hg)

/-- The options of one policy. -/
theorem dispatchOptions_eq_ok {look : CheckName → OptionValue → Guarded (List Finding)}
    {findings : CheckName → OptionValue → List Finding}
    (hlook : ∀ name v, look name v = .ok (findings name v))
    (hf : ∀ name v, ∀ f ∈ findings name v, f.IsPlaced p)
    (options : List (CheckName × OptionValue)) (hl : e.details.length = p.length) :
    options.foldlM (fun e option => do recordAll r current p (← look option.1 option.2) e) e =
      .ok (e.applyAll r current p (options.flatMap fun (name, v) => findings name v)) := by
  induction options generalizing e with
  | nil => rfl
  | cons option options ih =>
    have hfirst : recordAll r current p (findings option.1 option.2) e = .ok _ :=
      recordAll_eq_ok hl (hf option.1 option.2)
    rw [List.foldlM_cons, hlook, List.flatMap_cons, Evaluation.applyAll, List.foldl_append]
    change (recordAll r current p (findings option.1 option.2) e >>= _) = _
    rw [hfirst]
    exact ih ((Evaluation.isKept_applyAll ..).length.trans hl)

theorem dispatch_eq_ok {look : CheckName → OptionValue → Guarded (List Finding)}
    {findings : CheckName → OptionValue → List Finding}
    (hlook : ∀ name v, look name v = .ok (findings name v))
    (hf : ∀ name v, ∀ f ∈ findings name v, f.IsPlaced p) (hl : e.details.length = p.length) :
    dispatch r p look e = .ok (e.dispatch r p findings) := by
  unfold dispatch Evaluation.dispatch
  generalize r.policies = policies
  induction policies generalizing e with
  | nil => rfl
  | cons policy policies ih =>
    rw [List.foldlM_cons, dispatchOptions_eq_ok hlook hf policy.options hl]
    exact ih ((Evaluation.isKept_applyAll ..).length.trans hl)

end Recording

section PathChecks

theorem anchorFailures_eq_ok (p : Path) (v : OptionValue) (digest : Facts → Bytes) :
    anchorFailures p v digest =
      .ok (PathCheck.placeIf (PathCheck.anchorDigestFails p v digest) (p.length - 1)) := by
  unfold anchorFailures
  cases hfails : PathCheck.anchorDigestFails p v digest with
  | false => rfl
  | true =>
    -- a digest can only differ if there is a last certificate
    obtain ⟨root, hroot, -⟩ := (Option.any_eq_true _ _).mp hfails
    have hpos : 0 < p.length := List.length_pos_of_mem (List.mem_of_getLast? hroot)
    simp only [if_true, top_eq_ok hpos]
    rfl

theorem failuresBelowAnchor_eq_ok (p : Path) (failing : Facts → Bool) :
    failuresBelowAnchor p failing = .ok (PathCheck.placesOf p.belowAnchor failing) := by
  unfold failuresBelowAnchor
  rw [places_eq_ok p.nonAnchorCount_le]
  rfl

theorem failures_eq_ok (p : Path) (v : OptionValue) (check : Check) :
    failures p v check = .ok (PathCheck.failures p v check) := by
  cases check with
  | anchorSha1 | anchorSha256 => exact anchorFailures_eq_ok p v _
  | weakSignature => exact failuresBelowAnchor_eq_ok p _
  | signatureHashAlgorithms =>
    simp only [failures, PathCheck.failures]
    cases v.texts? with
    | none => rfl
    | some allowed => exact failuresBelowAnchor_eq_ok p _
  | systemTrustedWeakHash =>
    simp only [failures, PathCheck.failures]
    split
    · exact failuresBelowAnchor_eq_ok p _
    · rfl
  | _ => rfl

theorem pathFindings_eq_ok (p : Path) (name : CheckName) (v : OptionValue) :
    pathFindings p name v = .ok (Evaluation.pathFindings p name v) := by
  cases name with
  | other s => rfl
  | known check =>
    simp only [pathFindings, failures_eq_ok]
    rfl

end PathChecks

section Processing

open Processing

theorem linkage_eq_ok (p : Path) : linkage p = .ok (Processing.linkage p) := by
  have hread : ((List.range' 1 (p.length - 1)).reverse.mapM fun i => do
      let ix ← minus i 1
      return ((← certificate p ix, ix), ← certificate p i)) =
        .ok (p.places.zip (p.certificates.drop 1)).reverse := by
    refine mapM_eq_ok (List.forall₂_reverse_iff.mpr (List.forall₂_iff_get.mpr ⟨?_, ?_⟩))
    · simp [Path.places, Path.length]
    · intro i hi _
      rw [List.length_range'] at hi
      have hparent : 1 + i < p.certificates.length := by
        change 1 + i < p.length
        omega
      have hchild : i < p.certificates.length := Nat.lt_of_add_left_lt hparent
      have hreads : certificate p (1 + i) = .ok p.certificates[1 + i] ∧
          certificate p i = .ok p.certificates[i] :=
        ⟨certificate_eq_ok_iff.mpr (List.getElem?_eq_getElem hparent),
          certificate_eq_ok_iff.mpr (List.getElem?_eq_getElem hchild)⟩
      have hminus : minus (1 + i) 1 = .ok i := minus_eq_ok_iff.mpr ⟨by omega, by omega⟩
      simp only [List.get_eq_getElem, List.getElem_range', List.getElem_zip, List.getElem_drop,
        Path.places, List.getElem_zipIdx, Nat.one_mul, Nat.zero_add]
      rw [hminus]
      change (do return ((← certificate p i, i), ← certificate p (1 + i))) = _
      rw [hreads.1, hreads.2]
      rfl
  unfold linkage
  rw [hread]
  simp only [Processing.linkage, ← List.filter_reverse]
  rfl

theorem trustsAnchor_eq_ok (r : Request) (p : Path) :
    trustsAnchor r p = .ok (r.trustsAnchor p) := by
  unfold trustsAnchor Request.trustsAnchor
  cases p.isAnchored with
  | false => rfl
  | true =>
    cases hempty : p.certificates.isEmpty with
    | true => rfl
    | false =>
      have hpos : 0 < p.length := List.length_pos_iff.mpr (List.isEmpty_eq_false_iff.mp hempty)
      rw [top_eq_ok hpos]
      rfl

theorem roomBelow_eq_ok (s : Scope) (c : Facts) :
    roomBelow s c = .ok (if c.isSelfIssued then s.room else s.room - 1) := by
  unfold roomBelow
  cases c.isSelfIssued with
  | true => rfl
  | false =>
    rcases Nat.eq_zero_or_pos s.room with hroom | hroom
    · simp [hroom]
    · have hminus : minus s.room 1 = .ok (s.room - 1) := minus_eq_ok hroom
      simp [hroom.ne', hminus]

theorem below_eq_ok (s : Scope) (c : Facts) : below s c = .ok (s.below c) := by
  rw [below, roomBelow_eq_ok]
  rfl

/-- With `k` steps left, the steps are about the places below `k`. -/
theorem walk_eq_ok (r : Request) {p : Path} {n k : Nat} (hn : n ≤ p.length) (hk : k ≤ n)
    (s : Scope) :
    walk r p n s (List.range' (n - k + 1) k) =
      .ok (Processing.walk r p s (p.places.take k).reverse) := by
  induction k generalizing s with
  | zero => rfl
  | succ k ih =>
    have hlt : k < p.certificates.length := hk.trans hn
    have hread : certificate p k = .ok p.certificates[k] :=
      certificate_eq_ok_iff.mpr (List.getElem?_eq_getElem hlt)
    have hplaces : (p.places.take (k + 1)).reverse =
        (p.certificates[k], k) :: (p.places.take k).reverse := by
      rw [List.take_add_one]
      simp [Path.places, hlt]
    have hfirst : n - (k + 1) + 1 = n - k := by omega
    have hstep : minus n (n - k) = .ok k := minus_eq_ok_iff.mpr ⟨Nat.sub_le n k, by omega⟩
    have htop : minus p.length 1 = .ok (p.length - 1) := top_eq_ok (Nat.zero_lt_of_lt hlt)
    rw [hplaces, hfirst, List.range'_succ]
    simp only [walk, hstep, hread, htop, ok_bind]
    by_cases hleaf : k = 0
    · -- the leaf is the last step, so the scope below it is not looked at
      subst hleaf
      rfl
    · simp only [if_neg hleaf, below_eq_ok, ok_bind]
      rw [ih (Nat.le_of_succ_le hk)]
      simp [Processing.walk, hleaf]

theorem basic_eq_ok (r : Request) {p : Path} (hp : p.certificates ≠ []) :
    basic r p = .ok (Processing.basic r p) := by
  have hpos : 0 < p.length := List.length_pos_iff.mpr hp
  obtain ⟨leaf, hl⟩ := Path.exists_leaf hp
  have hread : certificate p 0 = .ok leaf :=
    certificate_eq_ok_iff.mpr (Path.certificate?_zero hl)
  have hwalk := walk_eq_ok r (processedCount_le r p) le_rfl (.initial (processedCount r p))
  rw [Nat.sub_self, Nat.zero_add] at hwalk
  have hcount : (if r.trustsAnchor p then p.length - 1 else p.length) = processedCount r p := rfl
  simp only [basic, trustsAnchor_eq_ok, top_eq_ok hpos, ok_bind, hcount, hwalk, hread]
  simp [Processing.basic, hl]

theorem listedKeys_eq_ok (r : Request) (p : Path) :
    listedKeys r p = .ok (Processing.listedKeys r p) := by
  have hread : places p 1 (p.nonAnchorCount - 1) =
      .ok ((p.places.take p.nonAnchorCount).drop 1) := by
    rw [List.drop_take]
    exact places_eq_ok (Nat.sub_le_sub_right p.nonAnchorCount_le 1)
  simp only [listedKeys, hread, ok_bind]
  rfl

theorem distrusted_eq_ok (r : Request) (p : Path) :
    distrusted r p = .ok (Processing.distrusted r p) := by
  unfold distrusted Processing.distrusted
  split
  · rename_i hdistrusted
    obtain ⟨root, hroot, -⟩ := (Option.any_eq_true _ _).mp hdistrusted
    have hpos : 0 < p.length := List.length_pos_of_mem (List.mem_of_getLast? hroot)
    have hlength : p.places.length = p.length := List.length_zipIdx
    have hread : places p 0 (p.length - 1) = .ok p.places.dropLast := by
      rw [places_eq_ok (Nat.sub_le p.length 1), List.dropLast_eq_take, hlength]
      rfl
    simp only [top_eq_ok hpos, hread, ok_bind]
    rfl
  · rfl

theorem findings_eq_ok (r : Request) {p : Path} (hp : p.certificates ≠ []) :
    findings r p = .ok (Processing.findings r p) := by
  simp [findings, linkage_eq_ok, basic_eq_ok r hp, listedKeys_eq_ok, distrusted_eq_ok,
    Processing.findings]

end Processing

section Classification

theorem isExtendedValidation_eq_ok (env : Environment) (p : Path) :
    isExtendedValidation env p = .ok (p.isExtendedValidation env) := by
  have hread : places p 1 (p.length - 1 - 1) =
      .ok ((p.places.drop 1).take (p.length - 1 - 1)) :=
    places_eq_ok (Nat.sub_le _ _)
  have hsubordinates : ((p.places.drop 1).take (p.length - 1 - 1)).map (·.1) = p.subordinates := by
    rw [List.map_take, List.map_drop, Path.places, List.zipIdx_map_fst, Path.subordinates,
      List.dropLast_eq_take, List.length_drop]
    rfl
  simp only [isExtendedValidation, hread, ok_bind, hsubordinates, Path.isExtendedValidation]
  cases p.leaf? <;> cases p.root? <;> rfl

theorem classify_eq_ok (r : Request) (p : Path) :
    classify r p = .ok (Evaluation.classify r p) := by
  unfold classify Evaluation.classify
  split
  · rfl
  · rw [isExtendedValidation_eq_ok]
    rfl

end Classification

section Sources

variable {p : Path} {s : AnchorSource}

theorem resize_getElem? {α : Type} {n ix : Nat} (h : ix < n) (fill : α) (values : List α) :
    (resize n fill values)[ix]? = some ((values[ix]?).getD fill) := by
  unfold resize
  rcases Nat.lt_or_ge ix values.length with hix | hix
  · rw [List.getElem?_append_left (by rw [List.length_take]; omega), List.getElem?_take_of_lt h]
    simp [hix]
  · rw [List.getElem?_append_right (by rw [List.length_take]; omega), List.getElem?_replicate]
    rw [if_pos (by rw [List.length_take]; omega), List.getElem?_eq_none hix]
    rfl

/-- A source adds to what is known of a certificate that it is the first to recognize. -/
theorem recognize_eq_ok {c : Facts} {ix : Nat} (h : ix < p.length) :
    recognize p s (c, ix) = .ok (if p.isNewAnchor s c ix
      then (s.constraints c, s.store c, ix + 1 == p.length)
      else (p.constraintsAt ix, p.storeAt ix, false)) := by
  have hconstraints : entry (resize p.length [] p.constraints) ix = .ok (p.constraintsAt ix) :=
    entry_eq_ok_iff.mpr (resize_getElem? h _ _)
  have hstore : entry (resize p.length none p.stores) ix = .ok (p.storeAt ix) := by
    rw [entry_eq_ok_iff, resize_getElem? h, Path.storeAt]
    cases p.stores[ix]? <;> rfl
  simp only [recognize, hconstraints, hstore, ok_bind]
  rfl

/-- The last certificate of a path is newly recognized. -/
theorem any_places_last (p : Path) (s : AnchorSource) :
    (p.places.any fun (c, ix) => p.isNewAnchor s c ix && ix + 1 == p.length) =
      p.root?.any fun c => p.isNewAnchor s c (p.length - 1) := by
  rw [Bool.eq_iff_iff, List.any_eq_true, Option.any_eq_true, Path.root?_eq_certificate?]
  constructor
  · intro h
    obtain ⟨⟨c, ix⟩, hmem, h⟩ := h
    obtain ⟨hnew, hlast⟩ := Bool.and_eq_true_iff.mp h
    have hix : p.length - 1 = ix := by
      rw [← eq_of_beq hlast]
      rfl
    rw [hix]
    exact ⟨c, Path.mem_places.mp hmem, hnew⟩
  · intro h
    obtain ⟨c, hc, hnew⟩ := h
    have hpos : 0 < p.length := Nat.zero_lt_of_lt (Path.certificate?_eq_some_lt hc)
    refine ⟨(c, p.length - 1), Path.mem_places.mpr hc, ?_⟩
    simp [hnew, Nat.sub_add_cancel hpos]

theorem applySource_eq_ok (p : Path) (s : AnchorSource) :
    applySource p s = .ok (p.applySource s) := by
  have hread : p.places.mapM (recognize p s) = .ok (p.places.map fun (c, ix) =>
      if p.isNewAnchor s c ix then (s.constraints c, s.store c, ix + 1 == p.length)
      else (p.constraintsAt ix, p.storeAt ix, false)) := by
    refine mapM_eq_ok (List.forall₂_map_right_iff.mpr (List.forall₂_same.mpr ?_))
    intro place hplace
    exact recognize_eq_ok (Path.certificate?_eq_some_lt (Path.mem_places.mp hplace))
  simp only [applySource, hread, ok_bind, Path.applySource, ← any_places_last, List.map_map,
    List.any_map, Function.comp_def, apply_ite Prod.fst, apply_ite Prod.snd, Bool.if_false_right,
    Bool.decide_eq_true]
  rfl

end Sources

section Whole

variable (r : Request) (p : Path) (e : Evaluation)

theorem leafChecks_eq_ok : leafChecks r p e = .ok (e.leafChecks r p) := by
  cases hl : p.leaf? with
  | none =>
    simp only [leafChecks, Evaluation.leafChecks, hl]
    rfl
  | some leaf =>
    cases hlast : e.lastLeaf.filter (·.sha1 == leaf.sha1) with
    | some outcome =>
      simp only [leafChecks, Evaluation.leafChecks, hl, hlast]
      rfl
    | none =>
      have hpos : 0 < p.length := List.length_pos_iff.mpr (Path.ne_nil_of_leaf? hl)
      have hlength : (Evaluation.noFailures p).length = p.length := List.length_map _
      let start := { e with verdict := .unspecified, details := Evaluation.noFailures p }
      have hdispatch : dispatch r p (fun name v => pure (Evaluation.leafFindings r leaf name v))
          start = .ok (start.dispatch r p (Evaluation.leafFindings r leaf)) :=
        dispatch_eq_ok (fun _ _ => rfl)
          (fun _ _ _ => Finding.isPlaced_of_mem_leafFindings hpos) hlength
      have hchecked : 0 < (start.dispatch r p (Evaluation.leafFindings r leaf)).details.length := by
        rw [(Evaluation.isKept_dispatch ..).length]
        exact hlength ▸ hpos
      simp only [leafChecks, Evaluation.leafChecks, hl, hlast]
      rw [hdispatch, ok_bind, entry_zero_eq_ok hchecked []]
      rfl

theorem requireCt_eq_ok (hpos : 0 < p.length) (hl : e.details.length = p.length) :
    requireCt r p e = .ok (e.requireCt r p) := by
  have hplaced : (Finding.failed .ctRequired 0).IsPlaced p := Check.isAt_leaf hpos rfl
  unfold requireCt Evaluation.requireCt
  generalize r.policies = policies
  generalize hs : ({ e with isCt := p.isCt } : Evaluation) = s
  replace hl : s.details.length = p.length := by
    rw [← hs]
    exact hl
  clear hs
  induction policies generalizing s with
  | nil => rfl
  | cons policy policies ih =>
    rw [List.foldlM_cons, List.foldl_cons]
    split
    · rw [record_eq_ok hl hplaced]
      exact ih _ ((Evaluation.isKept_apply ..).length.trans hl)
    · exact ih _ hl

theorem pathChecks_eq_ok : pathChecks r p e = .ok (e.pathChecks r p) := by
  by_cases hp : p.certificates = []
  · simp [pathChecks, leafChecks_eq_ok, Evaluation.pathChecks, hp]
  · have hpos : 0 < p.length := List.length_pos_iff.mpr hp
    have hsome : p.certificates.isEmpty = false := List.isEmpty_eq_false_iff.mpr hp
    let opened := (e.leafChecks r p).2.reset p
    let checked := (opened.dispatch r p (Evaluation.pathFindings p)).demandResponses r p
    let walked := checked.applyAll r r.firstPolicy? p (Processing.findings r p)
    have hopened : opened.details.length = p.length := Evaluation.reset_details_length _ p
    have hchecked : checked.details.length = p.length :=
      (Evaluation.isKept_dispatch ..).length.trans hopened
    have hclassified : (Evaluation.classify r p).length = p.length := by
      unfold Evaluation.classify
      split <;> rfl
    have hwalked : walked.details.length = (Evaluation.classify r p).length :=
      ((Evaluation.isKept_applyAll ..).length.trans hchecked).trans hclassified.symm
    have hdispatch : dispatch r p (pathFindings p) opened = .ok _ :=
      dispatch_eq_ok (pathFindings_eq_ok p)
        (fun _ _ _ => Finding.isPlaced_of_mem_pathFindings hpos) hopened
    have hrecord : recordAll r r.firstPolicy? p (Processing.findings r p) checked = .ok walked :=
      recordAll_eq_ok hchecked fun f hf =>
        Finding.isPlaced_of_found hpos (Processing.mem_findings.mp hf)
    have hct : requireCt r (Evaluation.classify r p) walked = .ok _ :=
      requireCt_eq_ok _ _ _ (hclassified ▸ hpos) hwalked
    simp only [pathChecks, Evaluation.pathChecks, leafChecks_eq_ok, ok_bind, hsome, if_false,
      Bool.false_eq_true]
    change (dispatch r p (pathFindings p) opened >>= _) = _
    rw [hdispatch, ok_bind, findings_eq_ok r hp, ok_bind]
    change (recordAll r r.firstPolicy? p (Processing.findings r p) checked >>= _) = _
    rw [hrecord, ok_bind, classify_eq_ok, ok_bind, hct, ok_bind]
    rfl

theorem applySources_eq_ok (env : Environment) (p : Path) :
    applySources env p = .ok (env.applySources p) := by
  unfold applySources Environment.applySources
  generalize env.anchorSources = sources
  induction sources generalizing p with
  | nil => rfl
  | cons s sources ih =>
    rw [List.foldlM_cons, applySource_eq_ok]
    exact ih (p.applySource s)

/-- Evaluating a path never looks for a certificate or an entry that is not there, never takes more
from a number than it is, and never has a call refused: it comes to the same with all of that
checked. -/
theorem evaluation_within_bounds :
    pathChecks r p e = .ok (e.pathChecks r p) ∧ evaluate r p e = .ok (e.evaluate r p) := by
  refine ⟨pathChecks_eq_ok r p e, ?_⟩
  rw [evaluate, applySources_eq_ok, ok_bind, pathChecks_eq_ok]
  rfl

end Whole

end Guarded
end ChainTrust
