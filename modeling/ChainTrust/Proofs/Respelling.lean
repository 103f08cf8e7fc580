import ChainTrust.Proofs.LetterCase
import ChainTrust.Proofs.Overreach

namespace ChainTrust

namespace Text

/-- One change that respells a text: of the case of a letter, or of a space that does not count. -/
inductive Respells : List Char → List Char → Prop where
  | letter {c d : Char} (front back : List Char) (h : c.toLower = d.toLower) :
      Respells (front ++ c :: back) (front ++ d :: back)
  | leading (s : List Char) : Respells (' ' :: s) s
  | trailing (s : List Char) : Respells (s ++ [' ']) s
  | repeated (front back : List Char) :
      Respells (front ++ ' ' :: ' ' :: back) (front ++ ' ' :: back)

/-- Any number of such changes, forth and back. -/
def Respelt : List Char → List Char → Prop :=
  Relation.EqvGen Respells

theorem dropEndWhile_append_of_pos {p : Char → Bool} {c : Char} (h : p c = true) (s : List Char) :
    dropEndWhile p (s ++ [c]) = dropEndWhile p s :=
  List.rdropWhile_concat_pos p s c h

theorem trim_cons_space (s : List Char) : trim (' ' :: s) = trim s := by
  unfold trim
  rw [List.dropWhile_cons_of_pos (by decide)]

theorem trim_append_space (s : List Char) : trim (s ++ [' ']) = trim s := by
  have hspace : isBlank ' ' = true := by decide
  unfold trim
  rw [List.dropWhile_append]
  split
  · rename_i h
    rw [List.isEmpty_iff.mp h, List.dropWhile_cons_of_pos hspace]
    rfl
  · exact dropEndWhile_append_of_pos hspace _

theorem dropEndWhile_append (p : Char → Bool) (s t : List Char) :
    dropEndWhile p (s ++ t) =
      if (dropEndWhile p t).isEmpty then dropEndWhile p s else s ++ dropEndWhile p t := by
  unfold dropEndWhile
  rw [List.reverse_append, List.dropWhile_append, List.isEmpty_reverse]
  split <;> simp

/-- Spaces inside a text are trimmed away with all that is in front or behind, or stay. -/
theorem trim_spaces (front back : List Char) :
    trim (front ++ ' ' :: ' ' :: back) = trim (front ++ ' ' :: back) ∨
      ∃ s t, trim (front ++ ' ' :: ' ' :: back) = s ++ ' ' :: ' ' :: t ∧
        trim (front ++ ' ' :: back) = s ++ ' ' :: t := by
  have hspace : isBlank ' ' = true := by decide
  unfold trim
  rw [List.dropWhile_append, List.dropWhile_append]
  split
  · left
    rw [List.dropWhile_cons_of_pos hspace]
  · generalize front.dropWhile isBlank = s
    have hone : s ++ ' ' :: back = s ++ [' '] ++ back := by simp
    have htwo : s ++ ' ' :: ' ' :: back = s ++ [' '] ++ [' '] ++ back := by simp
    rw [hone, htwo, dropEndWhile_append isBlank (s ++ [' '] ++ [' ']) back,
      dropEndWhile_append isBlank (s ++ [' ']) back]
    split
    · left
      rw [dropEndWhile_append_of_pos hspace (s ++ [' '])]
    · exact .inr ⟨s, dropEndWhile isBlank back, by simp, by simp⟩

/-- A word ends at a space, whatever comes behind it. -/
theorem startsCased_append_space (s t : List Char) :
    startsCased (s ++ ' ' :: t) = startsCased s := by
  have hspace : caseIgnorable.contains ' ' = false ∧ cased.contains ' ' = false := by decide +kernel
  unfold startsCased
  induction s with
  | nil =>
    rw [List.nil_append, List.dropWhile_cons_of_neg (by simp [hspace.1])]
    exact hspace.2
  | cons c rest ih =>
    by_cases hc : caseIgnorable.contains c = true
    · rw [List.cons_append, List.dropWhile_cons_of_pos hc, List.dropWhile_cons_of_pos hc]
      exact ih
    · rw [List.cons_append, List.dropWhile_cons_of_neg hc, List.dropWhile_cons_of_neg hc]

theorem lowerAfter_append_space (before front s : List Char) :
    lowerAfter (before ++ ' ' :: front) s = lowerAfter before s := by
  induction s generalizing before with
  | nil => rfl
  | cons c rest ih =>
    rw [lowerAfter, lowerAfter, ← List.cons_append, ih, lowerSigma, startsCased_append_space,
      ← lowerSigma]

/-- The words on both sides of a space have their lower case by themselves. -/
theorem lowerAfter_space (before front back : List Char) :
    lowerAfter before (front ++ ' ' :: back) = lowerAfter before front ++ ' ' :: lower back := by
  induction front generalizing before with
  | nil => exact congrArg ([' '] ++ ·) (lowerAfter_append_space [] before back)
  | cons c rest ih =>
    rw [List.cons_append, lowerAfter, lowerAfter, ih, List.append_assoc, lowerSigma,
      startsCased_append_space, ← lowerSigma]

theorem lower_space (front back : List Char) :
    lower (front ++ ' ' :: back) = lower front ++ ' ' :: lower back :=
  lowerAfter_space [] front back

theorem collapse_spaces (front back : List Char) :
    collapse (front ++ ' ' :: ' ' :: back) = collapse (front ++ ' ' :: back) := by
  induction front with
  | nil => rfl
  | cons c rest ih =>
    cases rest with
    | nil =>
      simp only [List.cons_append, List.nil_append] at ih ⊢
      rw [collapse, ih, collapse]
    | cons d rest =>
      simp only [List.cons_append] at ih ⊢
      rw [collapse, ih, collapse]

/-- Comparison ignores how a text is spelt. -/
theorem Respells.fold_eq {s t : List Char} (h : Respells s t) :
    collapse (lower (trim s)) = collapse (lower (trim t)) := by
  cases h with
  | letter front back h =>
    rw [← lower_map_toLower, ← lower_map_toLower (trim (front ++ _ :: back)),
      ← trim_map_toLower, ← trim_map_toLower]
    simp only [List.map_append, List.map_cons, h]
  | leading => rw [trim_cons_space]
  | trailing => rw [trim_append_space]
  | repeated front back =>
    rcases trim_spaces front back with h | ⟨s, t, htwo, hone⟩
    · rw [h]
    · have htail : lower (' ' :: t) = ' ' :: lower t := lower_space [] t
      rw [htwo, hone, lower_space, lower_space, htail]
      exact collapse_spaces (lower s) (lower t)

theorem Respelt.fold_eq {s t : List Char} (h : Respelt s t) :
    collapse (lower (trim s)) = collapse (lower (trim t)) := by
  induction h with
  | rel s t h => exact h.fold_eq
  | refl s => rfl
  | symm s t _ ih => exact ih.symm
  | trans s t u _ _ ih ih' => exact ih.trans ih'

end Text

open Text

namespace Attribute

/-- An attribute whose text is spelt in another way. One without a text is left as it is. -/
inductive Respelt : Attribute → Attribute → Prop where
  | same (a : Attribute) : Respelt a a
  | text {a b : Attribute} {s t : String} (htype : a.type = b.type) (htag : a.tag = b.tag)
      (hs : a.string? = some s) (ht : b.string? = some t) (h : Text.Respelt s.toList t.toList) :
      Respelt a b

theorem Respelt.sameText {a b : Attribute} (h : Respelt a b) : SameText a b := by
  cases h with
  | same => exact .refl a
  | text htype _ hs ht h =>
    refine ⟨htype, ?_⟩
    simp only [folded, valueText, hs, ht, Option.getD_some]
    exact h.fold_eq

theorem sameAs_iff {a b : Attribute} : a.sameAs b = true ↔ SameText a b := by
  simp [sameAs, SameText]

end Attribute

namespace Rdn

/-- What comparison sees of a set: types and texts without the differences that it ignores. -/
def folded (x : Rdn) : List (Oid × List Char) :=
  x.map fun a => (a.type, a.folded)

theorem sameText_iff {x y : Rdn} :
    List.Forall₂ Attribute.SameText x y ↔ x.folded = y.folded := by
  unfold folded
  rw [← List.forall₂_eq_eq_eq, List.forall₂_map_left_iff, List.forall₂_map_right_iff]
  simp only [Prod.mk.injEq]
  rfl

theorem agree_sameAs_iff {x y : Rdn} :
    x.agree Attribute.sameAs y = true ↔ x.folded = y.folded := by
  rw [agree_iff_forall₂ fun c => Attribute.sameAs_iff.mpr (.refl c), ← sameText_iff]
  simp only [Attribute.sameAs_iff]

theorem pairwise_of_isOrdered {x : Rdn} (h : x.isOrdered = true) :
    List.Pairwise (fun a b => a.encode < b.encode) x := by
  induction x with
  | nil => exact .nil
  | cons a rest ih =>
    cases rest with
    | nil => exact List.pairwise_singleton _ a
    | cons b rest =>
      rw [isOrdered, Bool.and_eq_true, decide_eq_true_eq] at h
      have hrest := ih h.2
      refine .cons (fun c hc => ?_) hrest
      rcases List.mem_cons.mp hc with rfl | hc
      · exact h.1
      · exact List.lt_trans h.1 (List.rel_of_pairwise_cons hrest hc)

/-- A set that is in order stays as it is. -/
theorem ofAttributes_eq_self {x : Rdn} (h : x.isOrdered = true) : ofAttributes x = x := by
  refine List.mergeSort_of_pairwise ((pairwise_of_isOrdered h).imp fun hlt => ?_)
  rw [decide_eq_false (List.lt_asymm hlt), Bool.not_false]

theorem ofAttributes_pair (a b : Attribute) :
    ofAttributes [a, b] = if b.encode < a.encode then [b, a] else [a, b] := by
  by_cases h : b.encode < a.encode <;>
    simp [ofAttributes, List.mergeSort, List.MergeSort.Internal.splitInTwo, h]

end Rdn

namespace Name

/-- Names are compared by what is seen of their sets. -/
theorem sameText_iff {a b : Name} :
    List.Forall₂ (List.Forall₂ Attribute.SameText) a b ↔ a.map Rdn.folded = b.map Rdn.folded := by
  rw [← List.forall₂_eq_eq_eq, List.forall₂_map_left_iff, List.forall₂_map_right_iff]
  exact ⟨.imp fun _ _ => Rdn.sameText_iff.mp, .imp fun _ _ => Rdn.sameText_iff.mpr⟩

theorem sameAs_iff {a b : Name} : a.sameAs b = true ↔ a.map Rdn.folded = b.map Rdn.folded := by
  rw [← List.forall₂_eq_eq_eq, List.forall₂_map_left_iff, List.forall₂_map_right_iff]
  simp only [sameAs, Bool.and_eq_true, beq_iff_eq, List.all_eq_true, List.forall₂_iff_zip]
  refine and_congr_right fun _ => ⟨fun h x y hmem => ?_, fun h pair hmem => ?_⟩
  · exact Rdn.agree_sameAs_iff.mp (h (x, y) hmem)
  · exact Rdn.agree_sameAs_iff.mpr (h hmem)

theorem begins_of_forall₂ {R : Attribute → Attribute → Prop} {a b : Name}
    (h : List.Forall₂ (List.Forall₂ R) a b) : Begins R a b := by
  induction h with
  | nil => exact .nil []
  | cons hab _ ih => exact .cons hab ih

theorem Begins.forall₂ {R : Attribute → Attribute → Prop} {a b : Name} (h : Begins R a b)
    (hlength : a.length = b.length) : List.Forall₂ (List.Forall₂ R) a b := by
  induction h with
  | nil name =>
    rw [List.length_eq_zero_iff.mp hlength.symm]
    exact .nil
  | cons hab _ ih => exact .cons hab (ih (Nat.succ.inj hlength))

/-- A name is under any that is the same. -/
theorem isUnder_of_sameAs {a b : Name} (h : a.sameAs b = true) : a.isUnder b 0 none = true := by
  have hbegins := begins_of_forall₂ (sameText_iff.mpr (sameAs_iff.mp h))
  exact isUnder_unlimited_iff.mpr (hbegins.imp Attribute.SameText.sameContent)

/-- A name under another of as many sets is the same, or the octets of an attribute stand for two
texts. -/
theorem sameAs_of_isUnder {a b : Name} (h : a.isUnder b 0 none = true)
    (hlength : a.length = b.length)
    (hnone : ∀ c ∈ a.attributes, ∀ d ∈ b.attributes, ¬c.Ambiguous d) : a.sameAs b = true := by
  have hsame : Begins Attribute.SameText a b :=
    (isUnder_unlimited_iff.mp h).imp_of_mem fun c hc d hd hcd => hcd.sameText (hnone c hc d hd)
  exact sameAs_iff.mpr (sameText_iff.mp (hsame.forall₂ hlength))

/-- A name whose attributes are spelt in another way, each left in its place. -/
def Respelt (a b : Name) : Prop :=
  List.Forall₂ (List.Forall₂ Attribute.Respelt) a b

/-- A name with every set put into order. -/
def ordered (name : Name) : Name :=
  name.map Rdn.ofAttributes

theorem Respelt.folded_eq {a b : Name} (h : Respelt a b) :
    a.map Rdn.folded = b.map Rdn.folded :=
  sameText_iff.mp (h.imp fun _ _ hxy => hxy.imp fun _ _ => Attribute.Respelt.sameText)

theorem length_ordered (name : Name) : name.ordered.length = name.length :=
  List.length_map _

/-- A name spelt in another way is the same name if putting its sets into order leaves each attribute
in a place of its text, as it does where the order is kept. It then lies under the name as well,
and it does so otherwise only through octets that stand for two texts. -/
theorem sameAs_ordered {a b : Name} (h : Respelt a b) :
    (a.sameAs b.ordered = true ↔ ∀ x ∈ b, (Rdn.ofAttributes x).folded = x.folded) ∧
    ((∀ x ∈ b, x.isOrdered = true) → a.sameAs b.ordered = true) ∧
    (a.sameAs b.ordered = true → a.isUnder b.ordered 0 none = true) ∧
    (a.isUnder b.ordered 0 none = true →
      (∀ c ∈ a.attributes, ∀ d ∈ b.ordered.attributes, ¬c.Ambiguous d) →
        a.sameAs b.ordered = true) := by
  have hplaces : a.sameAs b.ordered = true ↔
      ∀ x ∈ b, (Rdn.ofAttributes x).folded = x.folded := by
    rw [sameAs_iff, h.folded_eq, ordered, List.map_map, List.map_inj_left]
    exact forall₂_congr fun _ _ => eq_comm
  refine ⟨hplaces, fun hordered => ?_, isUnder_of_sameAs, fun hunder => ?_⟩
  · exact hplaces.mpr fun x hx => by rw [Rdn.ofAttributes_eq_self (hordered x hx)]
  · exact sameAs_of_isUnder hunder (h.length_eq.trans (length_ordered b).symm)

/-- A name of one set: a common name and a unit. -/
def ofUnit (common unit : String) : Name :=
  [SubtreeSet.rdn .commonName 0x0c common ++ SubtreeSet.rdn .organizationalUnitName 0x0c unit]

theorem sameAs_ordered_unit :
    (ofUnit "Ab" "c  d").Respelt (ofUnit "aB" "C d ") ∧
      (ofUnit "Ab" "c  d").sameAs (ofUnit "aB" "C d ").ordered = true ∧
      (ofUnit "Ab" "c  d").isUnder (ofUnit "aB" "C d ").ordered 0 none = true := by
  have hcommon : Text.Respelt "Ab".toList "aB".toList :=
    .trans _ ['a', 'b'] _ (.rel _ _ (.letter [] ['b'] (by decide)))
      (.rel _ _ (.letter ['a'] [] (by decide)))
  have hunit : Text.Respelt "c  d".toList "C d ".toList :=
    .trans _ "c d".toList _ (.rel _ _ (.repeated ['c'] ['d']))
      (.trans _ "C d".toList _ (.rel _ _ (.letter [] [' ', 'd'] (by decide)))
        (.symm _ _ (.rel _ _ (.trailing ['C', ' ', 'd']))))
  have hrespelt : (ofUnit "Ab" "c  d").Respelt (ofUnit "aB" "C d ") :=
    .cons (.cons (.text rfl rfl (by decide +kernel) (by decide +kernel) hcommon)
      (.cons (.text rfl rfl (by decide +kernel) (by decide +kernel) hunit) .nil)) .nil
  have hsame := (sameAs_ordered hrespelt).2.1 (by decide +kernel)
  exact ⟨hrespelt, hsame, (sameAs_ordered hrespelt).2.2.1 hsame⟩

/-- A comparison of names ignores how their texts are spelt. -/
def IgnoresSpelling (compare : Name → Name → Bool) : Prop :=
  ∀ a b : Name, (∀ x ∈ a, x.isOrdered = true) → a.Respelt b → compare a b.ordered = true

/-- With one space more, the common name is the longer attribute and comes second. -/
theorem not_ignoresSpelling :
    ¬IgnoresSpelling sameAs ∧ ¬IgnoresSpelling fun a b => a.isUnder b 0 none := by
  have hcommon : Text.Respelt "a".toList "a ".toList := .symm _ _ (.rel _ _ (.trailing ['a']))
  have hrespelt : (ofUnit "a" "b").Respelt (ofUnit "a " "b") :=
    .cons (.cons (.text rfl rfl (by decide +kernel) (by decide +kernel) hcommon)
      (.cons (.same _) .nil)) .nil
  have hordered : (ofUnit "a " "b").ordered =
      [SubtreeSet.rdn .organizationalUnitName 0x0c "b" ++ SubtreeSet.rdn .commonName 0x0c "a "] := by
    change [Rdn.ofAttributes [_, _]] = _
    rw [Rdn.ofAttributes_pair, if_pos (by decide +kernel)]
    rfl
  constructor
  · intro h
    have hsame := h _ _ (by decide +kernel) hrespelt
    rw [hordered] at hsame
    exact absurd hsame (by decide +kernel)
  · intro h
    have hunder := h _ _ (by decide +kernel) hrespelt
    simp only [hordered] at hunder
    exact absurd hunder (by decide +kernel)

/-- The letters make a difference as well: capitals come first. -/
example : Rdn.ofAttributes
    (SubtreeSet.rdn .commonName 0x0c "b" ++ SubtreeSet.rdn .commonName 0x0c "A") =
      SubtreeSet.rdn .commonName 0x0c "A" ++ SubtreeSet.rdn .commonName 0x0c "b" :=
  (Rdn.ofAttributes_pair _ _).trans (if_pos (by decide +kernel))

end Name
end ChainTrust
