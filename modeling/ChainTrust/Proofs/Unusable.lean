import ChainTrust.Proofs.Outcome

namespace ChainTrust

namespace OptionValue

/-- A value is a text, or an array of texts. -/
inductive Spells : OptionValue → List String → Prop where
  | text (s : String) : Spells (.text s) [s]
  | array (texts : List String) : Spells (.array (texts.map .text)) texts

theorem mapM_text?_eq_some_iff {values : List OptionValue} {texts : List String} :
    values.mapM text? = some texts ↔ values = texts.map .text := by
  constructor
  · intro h
    induction values generalizing texts with
    | nil =>
      cases h
      rfl
    | cons v values ih =>
      rw [List.mapM_cons] at h
      obtain ⟨s, hs, h⟩ := Option.bind_eq_some_iff.mp h
      obtain ⟨rest, hrest, h⟩ := Option.bind_eq_some_iff.mp h
      cases h
      cases v <;> cases hs
      rw [ih hrest, List.map_cons]
  · rintro rfl
    induction texts with
    | nil => rfl
    | cons s texts ih =>
      rw [List.map_cons, List.mapM_cons, ih]
      rfl

theorem texts?_eq_some_iff {v : OptionValue} {texts : List String} :
    v.texts? = some texts ↔ v.Spells texts := by
  constructor
  · intro h
    cases v with
    | text s =>
      cases h
      exact .text s
    | array values =>
      rw [mapM_text?_eq_some_iff.mp h]
      exact .array texts
    | bool | integer | dictionary => cases h
  · intro h
    cases h with
    | text => rfl
    | array => exact mapM_text?_eq_some_iff.mpr rfl

/-- Nothing can be read from a value: it has other things in it than texts, or none that is read. -/
def HasNone {α : Type} (read : String → Option α) (v : OptionValue) : Prop :=
  ∀ texts, v.Spells texts → ∀ s ∈ texts, read s = none

theorem filterMap_texts?_eq_nil_iff {α : Type} {read : String → Option α} {v : OptionValue} :
    (v.texts?.getD []).filterMap read = [] ↔ v.HasNone read := by
  unfold HasNone
  simp only [← texts?_eq_some_iff, List.filterMap_eq_nil_iff]
  cases v.texts? <;> simp

/-- What a digest is read from. -/
def digest? (s : String) : Option Bytes :=
  (Hex.decode s).toOption

theorem oids_eq_nil_iff {v : OptionValue} : v.oids = [] ↔ v.HasNone Oid.ofText? :=
  filterMap_texts?_eq_nil_iff

theorem digests_eq_nil_iff {v : OptionValue} : v.digests = [] ↔ v.HasNone digest? :=
  filterMap_texts?_eq_nil_iff

/-- Checks that ask for one of several object identifiers. -/
def oidChecks : List Check :=
  [.extendedKeyUsage, .leafMarkerOid, .leafMarkerOidWithoutValueCheck, .intermediateMarkerOid,
    .intermediateEku]

/-- Checks that ask for one of several digests. -/
def digestChecks : List Check :=
  [.leafSpkiSha256, .intermediateSpkiSha256, .caSpkiSha256, .anchorSha1, .anchorSha256]

/-- A value has nothing in it that a check can use. A certificate policy must be a single text. -/
inductive Unusable (v : OptionValue) : Check → Prop where
  | oids {check : Check} (hcheck : check ∈ oidChecks) (hnone : v.HasNone Oid.ofText?) :
      Unusable v check
  | digests {check : Check} (hcheck : check ∈ digestChecks) (hnone : v.HasNone digest?) :
      Unusable v check
  | policy (hnone : ∀ s, v = .text s → Oid.ofText? s = none) : Unusable v .certificatePolicy

theorem bind_text?_eq_none {v : OptionValue} (h : ∀ s, v = .text s → Oid.ofText? s = none) :
    v.text?.bind Oid.ofText? = none := by
  cases v with
  | text s => exact h s rfl
  | bool | integer | array | dictionary => rfl

end OptionValue

open OptionValue

/-- The leaf lists the uses of its key, and not every use among them. -/
def Facts.limitsUse (c : Facts) : Bool :=
  c.extendedKeyUsage.any (!·.contains .anyExtendedKeyUsage)

variable {v : OptionValue} {check : Check}

/-- Of the checks of a leaf, only that of the use of its key fails for want of anything to look
for. -/
theorem LeafCheck.fails_of_unusable (h : v.Unusable check) (r : Request) (c : Facts) :
    fails r c v check = (check == .extendedKeyUsage && v.texts?.isSome && c.limitsUse) := by
  cases h with
  | oids hcheck hnone =>
    have hoids := oids_eq_nil_iff.mpr hnone
    simp only [oidChecks, List.mem_cons, List.not_mem_nil, or_false] at hcheck
    rcases hcheck with rfl | rfl | rfl | rfl | rfl
    · simp only [fails, usageFails, hoids, Facts.limitsUse]
      cases v.texts? <;> cases c.extendedKeyUsage <;> simp
    · simp [fails, markerFails, hoids]
    · simp [fails, markerFails, hoids]
    · rfl
    · rfl
  | digests hcheck hnone =>
    have hdigests := digests_eq_nil_iff.mpr hnone
    simp only [digestChecks, List.mem_cons, List.not_mem_nil, or_false] at hcheck
    rcases hcheck with rfl | rfl | rfl | rfl | rfl
    · simp [fails, hdigests]
    all_goals rfl
  | policy => rfl

theorem PathCheck.failures_of_unusable (h : v.Unusable check) (p : Path) :
    failures p v check = [] := by
  cases h with
  | oids hcheck hnone =>
    have hoids := oids_eq_nil_iff.mpr hnone
    simp only [oidChecks, List.mem_cons, List.not_mem_nil, or_false] at hcheck
    rcases hcheck with rfl | rfl | rfl | rfl | rfl
    · rfl
    · rfl
    · rfl
    · simp [failures, issuerMarkerFails, hoids, placeIf]
    · simp [failures, issuerUsageFails, hoids, placeIf]
  | digests hcheck hnone =>
    have hdigests := digests_eq_nil_iff.mpr hnone
    simp only [digestChecks, List.mem_cons, List.not_mem_nil, or_false] at hcheck
    rcases hcheck with rfl | rfl | rfl | rfl | rfl
    · rfl
    · simp [failures, keyDigestFails, hdigests, placeIf]
    · simp [failures, keyDigestFails, hdigests, placeIf]
    · simp [failures, anchorDigestFails, hdigests, placeIf]
    · simp [failures, anchorDigestFails, hdigests, placeIf]
  | policy hnone => simp [failures, policyFails, bind_text?_eq_none hnone, placeIf]

namespace Evaluation

theorem leafFindings_of_unusable (h : v.Unusable check) (r : Request) (leaf : Facts) :
    leafFindings r leaf (.known check) v =
      if check = .extendedKeyUsage ∧ v.texts?.isSome = true ∧ leaf.limitsUse = true then
        [.failed .extendedKeyUsage 0]
      else [] := by
  have hfails := LeafCheck.fails_of_unusable h r leaf
  by_cases huse : check = .extendedKeyUsage
  · subst huse
    simp only [leafFindings, hfails, beq_self_eq_true, Bool.true_and, Bool.and_eq_true, true_and]
  · have hnone : LeafCheck.fails r leaf v check = false := by
      rw [hfails, beq_eq_false_iff_ne.mpr huse]
      rfl
    rw [if_neg fun hall => huse hall.1, List.eq_nil_iff_forall_not_mem]
    intro f hf
    rcases mem_leafFindings.mp hf with ⟨s, hname, -⟩ | ⟨hname, hblocked, -⟩ | ⟨_, hname, -, hf, -⟩
    · cases hname
    · cases hname
      cases hnone.symm.trans hblocked
    · cases hname
      cases hnone.symm.trans hf

/-- A check whose value has nothing in it to look for leaves an evaluation as it is, as a check of the
leaf and of the path. Only the check of the use of the key of a leaf fails, if the leaf limits that
use and the value has the right type. -/
theorem applyAll_of_unusable (h : v.Unusable check) (r : Request) (policy : Policy) (p : Path)
    (leaf : Facts) (e : Evaluation) :
    e.applyAll r (some policy) p (pathFindings p (.known check) v) = e ∧
    e.applyAll r (some policy) p (leafFindings r leaf (.known check) v) =
      if check = .extendedKeyUsage ∧ v.texts?.isSome = true ∧ leaf.limitsUse = true then
        e.apply r (some policy) p (.failed .extendedKeyUsage 0)
      else e := by
  constructor
  · rw [pathFindings, PathCheck.failures_of_unusable h]
    rfl
  · rw [leafFindings_of_unusable h]
    split <;> rfl

/-- A leaf for the authentication of servers. -/
def serverLeaf : Facts :=
  { Facts.plain [1] with extendedKeyUsage := some [Oid.ofArcs [1, 3, 6, 1, 5, 5, 7, 3, 1]] }

def serverPath : Path :=
  { Path.ofCertificates [serverLeaf, .plain [2]] with isAnchored := true }

def usePolicy (v : OptionValue) : Policy :=
  ⟨"", "", [(.known .extendedKeyUsage, v)]⟩

/-- Nothing has failed yet. -/
def openEvaluation : Evaluation :=
  { initial with details := [[], []] }

/-- The use of the leaf stands in an array that has something else in it than texts. -/
theorem applyAll_of_unusable_array :
    let v : OptionValue := .array [.text "1.3.6.1.5.5.7.3.1", .bool true]
    v.Unusable .extendedKeyUsage ∧
      openEvaluation.applyAll ⟨.empty, [usePolicy v], 5, []⟩ (some (usePolicy v)) serverPath
        (leafFindings ⟨.empty, [usePolicy v], 5, []⟩ serverLeaf (.known .extendedKeyUsage) v) =
          openEvaluation := by
  intro v
  have h : v.Unusable .extendedKeyUsage := .oids (by decide) (oids_eq_nil_iff.mp rfl)
  exact ⟨h, (applyAll_of_unusable h _ _ _ _ _).2.trans (if_neg (by decide))⟩

/-- With a name instead of an object identifier, no leaf that limits its use is accepted. -/
theorem applyAll_of_unusable_denies :
    ¬∀ (v : OptionValue) (check : Check) (r : Request) (policy : Policy) (p : Path) (leaf : Facts)
      (e : Evaluation), v.Unusable check → policy.option? check = some v → p.leaf? = some leaf →
        e.applyAll r (some policy) p (leafFindings r leaf (.known check) v) = e := by
  intro h
  have hnone : OptionValue.HasNone Oid.ofText? (.text "serverAuth") :=
    oids_eq_nil_iff.mp (by decide +kernel)
  have hsame := h (.text "serverAuth") .extendedKeyUsage
    ⟨.empty, [usePolicy (.text "serverAuth")], 5, []⟩ (usePolicy (.text "serverAuth")) serverPath
    serverLeaf openEvaluation (.oids (by decide) hnone) rfl rfl
  revert hsame
  decide +kernel

end Evaluation
end ChainTrust
