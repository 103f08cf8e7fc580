import ChainTrust.Text.Blank
import ChainTrust.Text.LetterCase

namespace ChainTrust.Text

theorem image?_eq_some {rows : Rows} {n m : Nat} (h : rows.image? n = some m) :
    ∃ row ∈ rows, row.1 ≤ n ∧ n ≤ row.2.1 ∧ (n - row.1) % row.2.2.1 = 0 ∧
      m = (n + row.2.2.2).toNat := by
  unfold Rows.image? at h
  split at h
  · rename_i first last step offset hfind
    have hin := List.find?_some hfind
    simp only [Bool.and_eq_true, decide_eq_true_eq, beq_iff_eq] at hin
    cases h
    exact ⟨_, List.mem_of_find?_eq_some hfind, hin.1.1, hin.1.2, hin.2, rfl⟩
  · cases h

/-- What a test of the members finds of each of them. That something holds of all members can be
decided by a test of every character there is, which is far more. -/
theorem forall_mem_of_all {p : Char → Prop} [DecidablePred p] {l : List Char}
    (h : (l.all fun c => decide (p c)) = true) : ∀ c ∈ l, p c :=
  fun c hc => of_decide_eq_true (List.all_eq_true.mp h c hc)

/-- The characters of ASCII. -/
def ascii : List Char :=
  (List.range 128).map Char.ofNat

theorem mem_ascii {c : Char} (h : c.toNat < 128) : c ∈ ascii :=
  List.mem_map.mpr ⟨c.toNat, List.mem_range.mpr h, Char.ofNat_toNat c⟩

set_option maxRecDepth 8000 in
theorem lowerRows_tail_beyond : lowerRows.tail.all (fun row => 128 ≤ row.1) = true :=
  rfl

/-- Of the letters of ASCII, the capitals have another lower case form. -/
theorem lowerCodePoint_of_ascii {n : Nat} (h : n < 128) :
    lowerCodePoint n = if 65 ≤ n ∧ n ≤ 90 then n + 32 else n := by
  have hrows : lowerRows = (65, 90, 1, 32) :: lowerRows.tail := rfl
  unfold lowerCodePoint
  cases himage : lowerRows.image? n with
  | some m =>
    obtain ⟨row, hrow, hfirst, hlast, -, rfl⟩ := image?_eq_some himage
    rw [hrows] at hrow
    rcases List.mem_cons.mp hrow with rfl | hrow
    · rw [if_pos ⟨hfirst, hlast⟩]
      rfl
    · have hrow := of_decide_eq_true (List.all_eq_true.mp lowerRows_tail_beyond row hrow)
      omega
  | none =>
    rw [if_neg, Option.getD_none]
    intro hletter
    rw [hrows] at himage
    simp [Rows.image?, hletter, Nat.mod_one] at himage

/-- The capital letters of ASCII. -/
def capitals : List Char :=
  (List.range 26).map fun n => Char.ofNat (65 + n)

theorem toLower_eq_self_or_mem_capitals (c : Char) : c.toLower = c ∨ c ∈ capitals := by
  by_cases h : 65 ≤ c.toNat ∧ c.toNat ≤ 90
  · right
    rw [capitals, List.mem_map]
    refine ⟨c.toNat - 65, List.mem_range.mpr (by omega), ?_⟩
    rw [Nat.add_sub_cancel' h.1, Char.ofNat_toNat]
  · left
    unfold Char.toLower
    rw [dif_neg]
    exact h

/-- What is the same for each of these and its small letter is so for all characters. -/
theorem toLower_congr {α : Type} {f : Char → α} (h : ∀ c ∈ capitals, f c.toLower = f c) (c : Char) :
    f c.toLower = f c := by
  rcases toLower_eq_self_or_mem_capitals c with hself | hmem
  · rw [hself]
  · exact h c hmem

theorem isBlank_toLower (c : Char) : isBlank c.toLower = isBlank c :=
  toLower_congr (forall_mem_of_all rfl) c

/-- What is no letter is compared with letters of either case alike. -/
theorem toLower_beq {d : Char} (hd : d.isAlpha = false) (c : Char) :
    (c.toLower == d) = (c == d) := by
  have hletters : ∀ c ∈ capitals, c.isAlpha = true ∧ c.toLower.isAlpha = true :=
    forall_mem_of_all rfl
  refine toLower_congr (f := (· == d)) (fun c hc => ?_) c
  have hne : ∀ e : Char, e.isAlpha = true → (e == d) = false := by
    intro e he
    rw [beq_eq_false_iff_ne]
    rintro rfl
    rw [hd] at he
    cases he
  rw [hne _ (hletters c hc).1, hne _ (hletters c hc).2]

theorem toLower_toLower (c : Char) : c.toLower.toLower = c.toLower :=
  toLower_congr (forall_mem_of_all rfl) c

theorem lowerChar_of_ascii {c : Char} (h : c ∈ ascii) : lowerChar c = [c.toLower] := by
  have hascii : ∀ c ∈ ascii, c ≠ 'İ' ∧ c.toNat < 128 ∧
      Char.ofNat (if 65 ≤ c.toNat ∧ c.toNat ≤ 90 then c.toNat + 32 else c.toNat) = c.toLower :=
    forall_mem_of_all rfl
  obtain ⟨hdotted, hlt, hletter⟩ := hascii c h
  rw [lowerChar, if_neg hdotted, lowerCodePoint_of_ascii hlt, hletter]

theorem lowerChar_toLower (c : Char) : lowerChar c.toLower = lowerChar c := by
  have hletters : ∀ c ∈ capitals, c.toNat < 128 ∧ c.toLower.toNat < 128 :=
    forall_mem_of_all rfl
  refine toLower_congr (fun c hc => ?_) c
  obtain ⟨hcapital, hsmall⟩ := hletters c hc
  rw [lowerChar_of_ascii (mem_ascii hcapital), lowerChar_of_ascii (mem_ascii hsmall),
    toLower_toLower]

theorem toLower_eq_sigma_iff (c : Char) : c.toLower = 'Σ' ↔ c = 'Σ' := by
  have hletters : ∀ c ∈ capitals, c.toLower ≠ 'Σ' ∧ c ≠ 'Σ' :=
    forall_mem_of_all rfl
  rcases toLower_eq_self_or_mem_capitals c with hself | hmem
  · rw [hself]
  · exact iff_of_false (hletters c hmem).1 (hletters c hmem).2

set_option maxRecDepth 8000 in
theorem caseIgnorable_between : caseIgnorable.all (fun range =>
    range.2 < 65 || 90 < range.1 && range.2 < 97 || 122 < range.1) = true :=
  rfl

/-- No letter of ASCII is among the characters that are ignored. -/
theorem not_contains_caseIgnorable {c : Char}
    (h : 65 ≤ c.toNat ∧ c.toNat ≤ 90 ∨ 97 ≤ c.toNat ∧ c.toNat ≤ 122) :
    caseIgnorable.contains c = false := by
  unfold Ranges.contains
  rw [List.any_eq_false]
  intro range hrange
  have hmisses := List.all_eq_true.mp caseIgnorable_between range hrange
  simp only [Bool.or_eq_true, Bool.and_eq_true, decide_eq_true_eq] at hmisses ⊢
  omega

theorem startsCased_map_toLower (s : List Char) :
    startsCased (s.map Char.toLower) = startsCased s := by
  have hletters : ∀ c ∈ capitals, (65 ≤ c.toNat ∧ c.toNat ≤ 90) ∧
      97 ≤ c.toLower.toNat ∧ c.toLower.toNat ≤ 122 := forall_mem_of_all rfl
  have hignorable : ∀ c, caseIgnorable.contains c.toLower = caseIgnorable.contains c :=
    toLower_congr fun c hc => by
      rw [not_contains_caseIgnorable (.inl (hletters c hc).1),
        not_contains_caseIgnorable (.inr (hletters c hc).2)]
  have hcased : ∀ c, cased.contains c.toLower = cased.contains c :=
    toLower_congr (forall_mem_of_all rfl)
  unfold startsCased
  induction s with
  | nil => rfl
  | cons c rest ih =>
    rw [List.map_cons]
    by_cases hc : caseIgnorable.contains c = true
    · rw [List.dropWhile_cons_of_pos hc, List.dropWhile_cons_of_pos ((hignorable c).trans hc)]
      exact ih
    · rw [List.dropWhile_cons_of_neg hc, List.dropWhile_cons_of_neg (by rwa [hignorable])]
      exact hcased c

theorem lowerAfter_map_toLower (before s : List Char) :
    lowerAfter (before.map Char.toLower) (s.map Char.toLower) = lowerAfter before s := by
  induction s generalizing before with
  | nil => rfl
  | cons c rest ih =>
    rw [List.map_cons, lowerAfter, lowerAfter, ← List.map_cons, ih]
    congr 1
    simp only [toLower_eq_sigma_iff, lowerSigma, startsCased_map_toLower, lowerChar_toLower]

/-- The case of ASCII letters has no say in the lower case of a text. -/
theorem lower_map_toLower (s : List Char) : lower (s.map Char.toLower) = lower s :=
  lowerAfter_map_toLower [] s

theorem dropEndWhile_map_toLower {p : Char → Bool} (h : ∀ c, p c.toLower = p c) (s : List Char) :
    dropEndWhile p (s.map Char.toLower) = (dropEndWhile p s).map Char.toLower := by
  unfold dropEndWhile
  rw [← List.map_reverse, List.dropWhile_map, List.map_reverse]
  congr 3
  funext c
  exact h c

theorem trim_map_toLower (s : List Char) :
    trim (s.map Char.toLower) = (trim s).map Char.toLower := by
  have hblank : (isBlank ∘ Char.toLower) = isBlank := funext isBlank_toLower
  unfold trim
  rw [List.dropWhile_map, hblank, dropEndWhile_map_toLower isBlank_toLower]

theorem lowerAfter_of_ascii (before : List Char) {s : List Char} (h : ∀ c ∈ s, c ∈ ascii) :
    lowerAfter before s = s.map Char.toLower := by
  have hsigma : ∀ c ∈ ascii, c ≠ 'Σ' := forall_mem_of_all rfl
  induction s generalizing before with
  | nil => rfl
  | cons c rest ih =>
    have hc := h c List.mem_cons_self
    rw [lowerAfter, if_neg (hsigma c hc), lowerChar_of_ascii hc,
      ih _ fun d hd => h d (List.mem_cons_of_mem c hd)]
    rfl

theorem map_toLower_toLower (s : List Char) :
    (s.map Char.toLower).map Char.toLower = s.map Char.toLower := by
  rw [List.map_map]
  exact List.map_congr_left fun c _ => toLower_toLower c

theorem contains_map_toLower {d : Char} (hd : ∀ c : Char, (c.toLower == d) = (c == d))
    (s : List Char) : (s.map Char.toLower).contains d = s.contains d := by
  rw [← List.any_beq', List.any_map, ← List.any_beq']
  exact congrArg s.any (funext hd)

end ChainTrust.Text
