import ChainTrust.Host

namespace ChainTrust

namespace Text

variable {separator c : Char} {s l : List Char} {ls : List (List Char)}

theorem pieces_eq_splitOn (separator : Char) (s : List Char) :
    pieces separator s = s.splitOn separator := by
  induction s with
  | nil => rfl
  | cons c rest ih =>
    rw [pieces, ih, List.splitOn_cons_eq_if_modifyHead]
    cases h : rest.splitOn separator with
    | nil => exact absurd h (List.splitOn_ne_nil separator rest)
    | cons l ls => simp

theorem pieces_injective (separator : Char) : Function.Injective (pieces separator) := by
  intro s t h
  rw [pieces_eq_splitOn, pieces_eq_splitOn] at h
  calc
    s = [separator].intercalate (s.splitOn separator) := (List.intercalate_splitOn separator).symm
    _ = [separator].intercalate (t.splitOn separator) := by rw [h]
    _ = t := List.intercalate_splitOn separator

/-- The first piece reaches up to the first separator. -/
theorem pieces_eq_cons_iff :
    pieces separator s = l :: ls ↔ separator ∉ l ∧
      (ls = [] ∧ s = l ∨ ∃ rest, ls = pieces separator rest ∧ s = l ++ separator :: rest) := by
  constructor
  · intro h
    rw [pieces_eq_splitOn] at h
    by_cases hs : separator ∈ s
    · obtain ⟨front, rest, rfl, hfront⟩ := List.eq_append_cons_of_mem hs
      rw [List.splitOn_append_cons_self_of_not_mem hfront] at h
      cases h
      exact ⟨hfront, .inr ⟨rest, (pieces_eq_splitOn separator rest).symm, rfl⟩⟩
    · rw [List.splitOn_eq_singleton hs] at h
      cases h
      exact ⟨hs, .inl ⟨rfl, rfl⟩⟩
  · intro h
    rcases h with ⟨hl, ⟨rfl, rfl⟩ | ⟨rest, rfl, rfl⟩⟩
    · rw [pieces_eq_splitOn, List.splitOn_eq_singleton hl]
    · rw [pieces_eq_splitOn, List.splitOn_append_cons_self_of_not_mem hl, ← pieces_eq_splitOn]

theorem exists_pieces_eq_cons (separator : Char) (s : List Char) :
    ∃ l ls, pieces separator s = l :: ls := by
  rw [pieces_eq_splitOn]
  exact List.exists_cons_of_ne_nil (List.splitOn_ne_nil separator s)

theorem pieces_append_separator (separator : Char) (s : List Char) :
    pieces separator (s ++ [separator]) = pieces separator s ++ [[]] := by
  induction s with
  | nil => simp [pieces]
  | cons c rest ih =>
    obtain ⟨l, ls, hrest⟩ := exists_pieces_eq_cons separator rest
    simp only [List.cons_append, pieces, ih, hrest]
    split <;> rfl

/-- The last piece ends as the text does. -/
theorem exists_mem_pieces_of_getLast? {separator d : Char} {s : List Char}
    (h : s.getLast? = some d) (hd : d ≠ separator) :
    ∃ l ∈ pieces separator s, l.getLast? = some d := by
  obtain ⟨front, rfl⟩ := List.getLast?_eq_some_iff.mp h
  clear h
  induction front with
  | nil => exact ⟨[d], by simp [pieces, hd], rfl⟩
  | cons c rest ih =>
    obtain ⟨first, ls, hrest⟩ := exists_pieces_eq_cons separator (rest ++ [d])
    rw [hrest] at ih
    obtain ⟨l, hl, hend⟩ := ih
    simp only [List.cons_append, pieces, hrest]
    split
    · exact ⟨l, List.mem_cons_of_mem _ hl, hend⟩
    · rcases List.mem_cons.mp hl with rfl | hl
      · refine ⟨c :: l, List.mem_cons_self, ?_⟩
        rw [List.getLast?_cons, hend]
        rfl
      · exact ⟨l, List.mem_cons_of_mem _ hl, hend⟩

theorem two_le_length_pieces_iff : 2 ≤ (pieces separator s).length ↔ separator ∈ s := by
  obtain ⟨l, ls, h⟩ := exists_pieces_eq_cons separator s
  obtain ⟨hl, ⟨rfl, rfl⟩ | ⟨rest, rfl, rfl⟩⟩ := pieces_eq_cons_iff.mp h
  · simp [h, hl]
  · have hpos : 0 < (pieces separator rest).length := by
      rw [pieces_eq_splitOn]
      exact List.length_pos_iff.mpr (List.splitOn_ne_nil separator rest)
    simp only [h, List.length_cons, List.mem_append, List.mem_cons, true_or, or_true, iff_true]
    omega

/-- What is not the separator is in some piece exactly if it is in the text. -/
theorem mem_flatten_pieces (hc : c ≠ separator) : c ∈ (pieces separator s).flatten ↔ c ∈ s := by
  rw [pieces_eq_splitOn]
  induction s with
  | nil => rfl
  | cons d rest ih =>
    rw [List.splitOn_cons_eq_if_modifyHead]
    cases hrest : rest.splitOn separator with
    | nil => exact absurd hrest (List.splitOn_ne_nil separator rest)
    | cons l ls =>
      rw [hrest] at ih
      split
      · rename_i hd
        rw [eq_of_beq hd, List.mem_cons, or_iff_right hc, ← ih]
        rfl
      · rw [List.mem_cons, ← ih]
        exact List.mem_cons

theorem all_pieces_iff (hc : c ≠ separator) :
    (pieces separator s).all (!·.contains c) = true ↔ c ∉ s := by
  rw [← mem_flatten_pieces hc]
  simp

/-- The letters of a text have no say in where it is cut if the separator is none of them. -/
theorem pieces_map_toLower (h : ∀ c : Char, (c.toLower == separator) = (c == separator))
    (s : List Char) : pieces separator (s.map Char.toLower) =
      (pieces separator s).map (List.map Char.toLower) := by
  induction s with
  | nil => rfl
  | cons c rest ih =>
    obtain ⟨l, ls, hrest⟩ := exists_pieces_eq_cons separator rest
    have hc : c.toLower = separator ↔ c = separator := by
      rw [← beq_iff_eq, h, beq_iff_eq]
    rw [List.map_cons, pieces, pieces, ih, hrest]
    simp only [List.map_cons, hc]
    split <;> rfl

end Text

namespace Host

open Text

/-- A wildcard matches the hosts that have one label in its place. -/
theorem wildcardMatches_iff {pattern host : List Char} :
    wildcardMatches pattern host = true ↔
      ∃ label rest, pattern = '*' :: '.' :: rest ∧ host = label ++ '.' :: rest ∧
        ('.' ∈ rest ∧ '*' ∉ rest) ∧ label ≠ [] ∧ '.' ∉ label := by
  constructor
  · intro h
    unfold wildcardMatches labels at h
    split at h
    · rename_i star ps label hs hpattern hhost
      simp only [Bool.and_eq_true, beq_iff_eq, decide_eq_true_eq, Bool.not_eq_true',
        List.isEmpty_eq_false_iff] at h
      obtain ⟨⟨⟨⟨rfl, htwo⟩, hall⟩, hlabel⟩, rfl⟩ := h
      have hne : ps ≠ [] := by
        rintro rfl
        exact absurd htwo (by decide)
      obtain ⟨-, hp⟩ := pieces_eq_cons_iff.mp hpattern
      obtain ⟨hdot, hh⟩ := pieces_eq_cons_iff.mp hhost
      obtain ⟨rest, rfl, rfl⟩ := hp.resolve_left fun hp => hne hp.1
      obtain ⟨other, hother, rfl⟩ := hh.resolve_left fun hh => hne hh.1
      obtain rfl := pieces_injective '.' hother
      refine ⟨label, rest, rfl, rfl, ?_, hlabel, hdot⟩
      exact ⟨two_le_length_pieces_iff.mp htwo, (all_pieces_iff (by decide)).mp hall⟩
    · cases h
  · intro h
    obtain ⟨label, rest, rfl, rfl, ⟨hrest, hplain⟩, hlabel, hdot⟩ := h
    have hpattern : labels ('*' :: '.' :: rest) = ['*'] :: pieces '.' rest :=
      pieces_eq_cons_iff.mpr ⟨by decide, .inr ⟨rest, rfl, rfl⟩⟩
    have hhost : labels (label ++ '.' :: rest) = label :: pieces '.' rest :=
      pieces_eq_cons_iff.mpr ⟨hdot, .inr ⟨rest, rfl, rfl⟩⟩
    simp only [wildcardMatches, hpattern, hhost, Bool.and_eq_true, beq_self_eq_true, true_and,
      decide_eq_true_eq, Bool.not_eq_true', List.isEmpty_eq_false_iff, and_true]
    exact ⟨⟨two_le_length_pieces_iff.mpr hrest, (all_pieces_iff (by decide)).mpr hplain⟩, hlabel⟩

/-- A pattern matches a host if they are the same in normal form, or if it is a wildcard with two
labels or more behind, which has exactly one label of the host in its place. -/
theorem isMatch_iff (pattern host : String) :
    let p := normalize pattern.toList
    let h := normalize host.toList
    isMatch pattern host = true ↔ p ≠ [] ∧ h ≠ [] ∧
      (p = h ∨ ∃ label rest, p = '*' :: '.' :: rest ∧ h = label ++ '.' :: rest ∧
        ('.' ∈ rest ∧ '*' ∉ rest) ∧ label ≠ [] ∧ '.' ∉ label) := by
  intro p h
  simp only [isMatch, patternMatches, Bool.and_eq_true, Bool.or_eq_true, Bool.not_eq_true',
    List.isEmpty_eq_false_iff, beq_iff_eq, wildcardMatches_iff, and_assoc, p, h]

end Host
end ChainTrust
