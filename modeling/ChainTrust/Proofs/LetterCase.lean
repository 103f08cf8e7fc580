import ChainTrust.Proofs.AsciiCase
import Mathlib.Data.List.DropRight

namespace ChainTrust.Text

/-- The images of the first and the last code point of a row. -/
def rowImages (row : Nat × Nat × Nat × Int) : Nat × Nat :=
  ((row.1 + row.2.2.2).toNat, (row.2.1 + row.2.2.2).toNat)

/-- The images of a row are characters, and neither the full stop nor the dotted capital I. -/
def imagesAreLetters (row : Nat × Nat × Nat × Int) : Bool :=
  let (first, last) := rowImages row
  46 < first &&
    (last < 0x130 || 0x130 < first && last < 0xd800 || 0xdfff < first && last < 0x110000)

/-- The images of a row are outside of another row. -/
def imagesMiss (row other : Nat × Nat × Nat × Int) : Bool :=
  Nat.blt (rowImages row).2 other.1 || Nat.blt other.2.1 (rowImages row).1 ||
    (other.2.2.1 == 2 && (row.2.2.1 == 2 || row.1 == row.2.1) &&
      ((rowImages row).1 + other.1) % 2 == 1)

set_option maxRecDepth 8000 in
theorem lowerRows_imagesAreLetters : lowerRows.all imagesAreLetters = true :=
  rfl

/-- The rows that neither end before the first image of a row nor start after the last. -/
def rowsNear (row : Nat × Nat × Nat × Int) : Rows :=
  (lowerRows.dropWhile fun other => Nat.blt other.2.1 (rowImages row).1).takeWhile
    fun other => !Nat.blt (rowImages row).2 other.1

theorem rowsNear_imagesMiss :
    (lowerRows.all fun row => (rowsNear row).all (imagesMiss row)) = true := by
  decide +kernel

set_option maxRecDepth 8000 in
theorem lowerRows_ascending : lowerRows.Pairwise fun row other => row.1 ≤ other.1 := by
  have : IsTrans (Nat × Nat × Nat × Int) fun row other => row.1 ≤ other.1 :=
    ⟨fun _ _ _ => Nat.le_trans⟩
  rw [← List.isChain_iff_pairwise]
  decide

/-- What is left over starts at the first member without a property, which none after it has. -/
theorem not_of_mem_dropWhile {α : Type} {p : α → Bool} {l : List α} {x : α}
    (hl : l.Pairwise fun a b => p b = true → p a = true) (hx : x ∈ l.dropWhile p) :
    ¬p x = true := by
  induction l with
  | nil => exact absurd hx List.not_mem_nil
  | cons a rest ih =>
    obtain ⟨hfirst, hrest⟩ := List.pairwise_cons.mp hl
    by_cases ha : p a = true
    · rw [List.dropWhile_cons_of_pos ha] at hx
      exact ih hrest hx
    · rw [List.dropWhile_cons_of_neg ha] at hx
      rcases List.mem_cons.mp hx with rfl | hx
      · exact ha
      · exact fun hpx => ha (hfirst x hx hpx)

theorem imagesMiss_of_not_mem_rowsNear {row other : Nat × Nat × Nat × Int}
    (hother : other ∈ lowerRows) (hfar : other ∉ rowsNear row) : imagesMiss row other = true := by
  have hsplit : ∀ (p : Nat × Nat × Nat × Int → Bool) {l : Rows},
      other ∈ l → other ∈ l.takeWhile p ∨ other ∈ l.dropWhile p := fun p l h => by
    rwa [← List.mem_append, List.takeWhile_append_dropWhile]
  rcases hsplit (fun other => Nat.blt other.2.1 (rowImages row).1) hother with hbefore | hother
  · have hbefore := List.mem_takeWhile_imp hbefore
    simp only [imagesMiss, hbefore, Bool.or_true, Bool.true_or]
  rcases hsplit (fun other => !Nat.blt (rowImages row).2 other.1) hother with hnear | hbeyond
  · exact absurd hnear hfar
  · have hbeyond := not_of_mem_dropWhile
      ((lowerRows_ascending.sublist (List.dropWhile_sublist _)).imp fun hab hb => ?_) hbeyond
    · simp only [Bool.not_eq_true', Bool.not_eq_false] at hbeyond
      simp only [imagesMiss, hbeyond, Bool.true_or]
    · simp only [Bool.not_eq_true', ← Bool.not_eq_true, Nat.blt_eq, Nat.not_lt] at hb ⊢
      exact Nat.le_trans hab hb

/-- No letter in lower case has another lower case form. -/
theorem lowerRows_imagesMiss :
    (lowerRows.all fun row => lowerRows.all (imagesMiss row)) = true := by
  rw [List.all_eq_true]
  intro row hrow
  rw [List.all_eq_true]
  intro other hother
  by_cases hnear : other ∈ rowsNear row
  · exact List.all_eq_true.mp (List.all_eq_true.mp rowsNear_imagesMiss row hrow) other hnear
  · exact imagesMiss_of_not_mem_rowsNear hother hnear

theorem image?_eq_none {rows : Rows} {n : Nat}
    (h : ∀ row ∈ rows, row.1 ≤ n → n ≤ row.2.1 → (n - row.1) % row.2.2.1 ≠ 0) :
    rows.image? n = none := by
  unfold Rows.image?
  split
  · rename_i first last step offset hfind
    have hin := List.find?_some hfind
    simp only [Bool.and_eq_true, decide_eq_true_eq, beq_iff_eq] at hin
    exact absurd hin.2 (h _ (List.mem_of_find?_eq_some hfind) hin.1.1 hin.1.2)
  · rfl

/-- The images of a row lie between those of its ends, at even distances if it has only every
second code point. -/
theorem rowImages_bounds {row : Nat × Nat × Nat × Int} {n : Nat} (hletters : imagesAreLetters row)
    (hfirst : row.1 ≤ n) (hlast : n ≤ row.2.1) :
    (rowImages row).1 ≤ (n + row.2.2.2).toNat ∧ (n + row.2.2.2).toNat ≤ (rowImages row).2 ∧
      (n + row.2.2.2).toNat = (rowImages row).1 + (n - row.1) := by
  simp only [imagesAreLetters, Bool.and_eq_true, decide_eq_true_eq] at hletters
  unfold rowImages at hletters ⊢
  omega

theorem lowerCodePoint_of_image? {n m : Nat} (h : lowerRows.image? n = some m) :
    lowerRows.image? m = none ∧ 46 < m ∧ m ≠ 0x130 ∧ m.isValidChar := by
  obtain ⟨row, hrow, hfirst, hlast, hstep, rfl⟩ := image?_eq_some h
  have hletters := List.all_eq_true.mp lowerRows_imagesAreLetters row hrow
  obtain ⟨hge, hle, heq⟩ := rowImages_bounds hletters hfirst hlast
  refine ⟨image?_eq_none fun other hother hin hend hmod => ?_, ?_⟩
  · have hall := List.all_eq_true.mp lowerRows_imagesMiss row hrow
    have hmiss := List.all_eq_true.mp hall other hother
    simp only [imagesMiss, Bool.or_eq_true, Nat.blt_eq, Bool.and_eq_true, beq_iff_eq] at hmiss
    rcases hmiss with (hmiss | hmiss) | ⟨⟨hother2, hrow2⟩, hodd⟩
    · omega
    · omega
    · rw [hother2] at hmod
      rcases hrow2 with hrow2 | hrow2
      · rw [hrow2] at hstep
        omega
      · omega
  · simp only [imagesAreLetters, Bool.and_eq_true, Bool.or_eq_true, decide_eq_true_eq] at hletters
    unfold Nat.isValidChar
    omega

/-- A character that is its own lower case. -/
def IsLower (c : Char) : Prop :=
  lowerChar c = [c] ∧ c ≠ 'Σ'

theorem toNat_ofNat {n : Nat} (h : n.isValidChar) : (Char.ofNat n).toNat = n := by
  unfold Char.ofNat
  rw [dif_pos h]
  rfl

set_option maxRecDepth 8000 in
/-- What the capital sigma and the dotted capital I come to. -/
theorem isLower_special {c : Char} (h : c ∈ ['σ', 'ς', 'i', '\u0307']) : IsLower c := by
  simp only [List.mem_cons, List.not_mem_nil, or_false] at h
  rcases h with rfl | rfl | rfl | rfl <;> exact ⟨rfl, by decide⟩

theorem isLower_of_mem_lowerChar {c d : Char} (hc : c ≠ 'Σ') (h : d ∈ lowerChar c) :
    IsLower d := by
  unfold lowerChar at h
  split at h
  · simp only [List.mem_cons, List.not_mem_nil, or_false] at h
    rcases h with rfl | rfl <;> exact isLower_special (by decide)
  · rename_i hi
    obtain rfl := List.mem_singleton.mp h
    cases himage : lowerRows.image? c.toNat with
    | none =>
      have hself : Char.ofNat (lowerCodePoint c.toNat) = c := by
        simp [lowerCodePoint, himage]
      rw [hself]
      exact ⟨by rw [lowerChar, if_neg hi, hself], hc⟩
    | some m =>
      obtain ⟨hnone, -, hdotted, hvalid⟩ := lowerCodePoint_of_image? himage
      have hm : lowerCodePoint c.toNat = m := by simp [lowerCodePoint, himage]
      have hnat := toNat_ofNat hvalid
      rw [hm]
      constructor
      · have hne : Char.ofNat m ≠ 'İ' := by
          intro h
          rw [h] at hnat
          exact hdotted hnat.symm
        rw [lowerChar, if_neg hne, hnat, lowerCodePoint, hnone]
        rfl
      · intro h
        -- the capital sigma has an image
        rw [h] at hnat
        rw [← hnat] at hnone
        exact absurd hnone (by decide +kernel)

theorem isLower_lowerSigma (before after : List Char) : IsLower (lowerSigma before after) := by
  unfold lowerSigma
  split <;> exact isLower_special (by decide)

theorem isLower_of_mem_lowerAfter {before s : List Char} {d : Char}
    (h : d ∈ lowerAfter before s) : IsLower d := by
  induction s generalizing before with
  | nil => cases h
  | cons c rest ih =>
    rw [lowerAfter] at h
    rcases List.mem_append.mp h with h | h
    · split at h
      · rw [List.mem_singleton.mp h]
        exact isLower_lowerSigma before rest
      · rename_i hc
        exact isLower_of_mem_lowerChar hc h
    · exact ih h

theorem lowerAfter_eq_self {before s : List Char} (h : ∀ c ∈ s, IsLower c) :
    lowerAfter before s = s := by
  induction s generalizing before with
  | nil => rfl
  | cons c rest ih =>
    obtain ⟨hself, hc⟩ := h c List.mem_cons_self
    rw [lowerAfter, if_neg hc, hself, ih fun d hd => h d (List.mem_cons_of_mem c hd)]
    rfl

/-- A text in lower case stays as it is. -/
theorem lower_lower (s : List Char) : lower (lower s) = lower s :=
  lowerAfter_eq_self fun _ hd => isLower_of_mem_lowerAfter hd

/-- Nothing but a dot has a dot for its lower case. -/
theorem eq_dot_of_mem_lowerChar {c : Char} (h : '.' ∈ lowerChar c) : c = '.' := by
  unfold lowerChar at h
  split at h
  · exact absurd h (by decide)
  · have hdot := List.mem_singleton.mp h
    cases himage : lowerRows.image? c.toNat with
    | none => simpa [lowerCodePoint, himage] using hdot.symm
    | some m =>
      obtain ⟨-, hm, -, hvalid⟩ := lowerCodePoint_of_image? himage
      have hnat := toNat_ofNat hvalid
      rw [lowerCodePoint, himage, Option.getD_some] at hdot
      rw [← hdot] at hnat
      exact absurd hnat hm.ne

theorem lowerAfter_ne_nil (before : List Char) (c : Char) (rest : List Char) :
    lowerAfter before (c :: rest) ≠ [] := by
  rw [lowerAfter]
  split
  · simp
  · unfold lowerChar
    split <;> simp

theorem getLast?_of_lowerAfter {before s : List Char}
    (h : (lowerAfter before s).getLast? = some '.') : s.getLast? = some '.' := by
  induction s generalizing before with
  | nil => cases h
  | cons c rest ih =>
    cases rest with
    | nil =>
      rw [lowerAfter, lowerAfter, List.append_nil] at h
      split at h
      · have hsigma : lowerSigma before [] = '.' := by simpa using h
        unfold lowerSigma at hsigma
        split at hsigma <;> exact absurd hsigma (by decide)
      · rw [eq_dot_of_mem_lowerChar (List.mem_of_getLast? h)]
        rfl
    | cons d rest =>
      rw [lowerAfter, List.getLast?_append_of_ne_nil _ (lowerAfter_ne_nil _ _ _)] at h
      rw [List.getLast?_cons_cons]
      exact ih h

/-- A dot at the end stays there. -/
theorem getLast?_lowerAfter {before s : List Char} (h : s.getLast? = some '.') :
    (lowerAfter before s).getLast? = some '.' := by
  induction s generalizing before with
  | nil => cases h
  | cons c rest ih =>
    cases rest with
    | nil =>
      cases h
      rfl
    | cons d rest =>
      rw [lowerAfter, List.getLast?_append_of_ne_nil _ (lowerAfter_ne_nil _ _ _)]
      exact ih h

/-- No word begins at a dot, and none ends there that has not ended before. -/
theorem startsCased_append_dot (s : List Char) : startsCased (s ++ ['.']) = startsCased s := by
  unfold startsCased
  induction s with
  | nil => decide +kernel
  | cons c rest ih =>
    by_cases hc : caseIgnorable.contains c = true
    · rw [List.cons_append, List.dropWhile_cons_of_pos hc, List.dropWhile_cons_of_pos hc]
      exact ih
    · rw [List.cons_append, List.dropWhile_cons_of_neg hc, List.dropWhile_cons_of_neg hc]

theorem lowerAfter_append_dot (before s : List Char) :
    lowerAfter (before ++ ['.']) s = lowerAfter before s := by
  induction s generalizing before with
  | nil => rfl
  | cons c rest ih =>
    rw [lowerAfter, lowerAfter, ← List.cons_append, ih, lowerSigma, startsCased_append_dot,
      ← lowerSigma]

theorem lower_dot_cons (s : List Char) : lower ('.' :: s) = '.' :: lower s :=
  congrArg (['.'] ++ ·) (lowerAfter_append_dot [] s)

theorem head?_lower_ne_dot {c : Char} (h : c ≠ '.') (rest : List Char) :
    (lower (c :: rest)).head? ≠ some '.' := by
  rw [lower, lowerAfter]
  split
  · unfold lowerSigma
    split <;> simp
  · intro hhead
    obtain ⟨d, tail, hlower⟩ : ∃ d tail, lowerChar c = d :: tail := by
      unfold lowerChar
      split <;> exact ⟨_, _, rfl⟩
    rw [hlower, List.cons_append, List.head?_cons, Option.some.injEq] at hhead
    exact h (eq_dot_of_mem_lowerChar (by rw [hlower, hhead]; exact List.mem_cons_self))

/-- The dots in front are the same in lower case. -/
theorem lower_dropWhile_dot (s : List Char) :
    lower (s.dropWhile (· == '.')) = (lower s).dropWhile (· == '.') := by
  induction s with
  | nil => rfl
  | cons c rest ih =>
    by_cases hc : c = '.'
    · subst hc
      rw [lower_dot_cons, List.dropWhile_cons_of_pos rfl, List.dropWhile_cons_of_pos rfl, ih]
    · rw [List.dropWhile_cons_of_neg (by simpa using hc)]
      cases hlower : lower (c :: rest) with
      | nil => rfl
      | cons d tail =>
        have hd := head?_lower_ne_dot hc rest
        rw [hlower, List.head?_cons, ne_eq, Option.some.injEq] at hd
        rw [List.dropWhile_cons_of_neg (by simpa using hd)]

theorem dropEndWhile_eq_self_iff {p : Char → Bool} {s : List Char} :
    dropEndWhile p s = s ↔ ∀ c ∈ s.getLast?, p c = false := by
  change s.rdropWhile p = s ↔ _
  rw [List.rdropWhile_eq_self_iff]
  constructor
  · intro h c hc
    have hne : s ≠ [] := List.ne_nil_of_mem (List.mem_of_getLast? hc)
    rw [List.getLast?_eq_some_getLast hne] at hc
    cases hc
    simpa using h hne
  · intro h hne
    simpa using h _ (List.getLast?_eq_some_getLast hne)

theorem dropEndWhile_dropEndWhile (p : Char → Bool) (s : List Char) :
    dropEndWhile p (dropEndWhile p s) = dropEndWhile p s :=
  List.rdropWhile_idempotent p s

/-- A text without dots at its end has none there in lower case. -/
theorem dropEndWhile_lower {s : List Char} (h : dropEndWhile (· == '.') s = s) :
    dropEndWhile (· == '.') (lower s) = lower s := by
  rw [dropEndWhile_eq_self_iff] at h ⊢
  intro c hc
  by_contra hdot
  simp only [Bool.not_eq_false, beq_iff_eq] at hdot
  subst hdot
  exact absurd (h '.' (getLast?_of_lowerAfter hc)) (by decide)

theorem dropEndWhile_dot_eq_self {s : List Char} (h : (lower s).getLast? ≠ some '.') :
    dropEndWhile (· == '.') s = s := by
  refine dropEndWhile_eq_self_iff.mpr fun c hc => ?_
  by_contra hdot
  simp only [Bool.not_eq_false, beq_iff_eq] at hdot
  subst hdot
  exact h (getLast?_lowerAfter hc)

theorem getLast?_lower_dropEndWhile_ne (s : List Char) :
    (lower (dropEndWhile (· == '.') s)).getLast? ≠ some '.' := by
  intro h
  have hs := dropEndWhile_eq_self_iff.mp (dropEndWhile_dropEndWhile (· == '.') s) '.'
    (getLast?_of_lowerAfter h)
  exact absurd hs (by decide)

end ChainTrust.Text
