import ChainTrust.Host.Address
import ChainTrust.Proofs.AsciiCase
import ChainTrust.Proofs.Wildcards
import Mathlib.Data.List.DropRight

namespace ChainTrust

namespace Host.Address

open Text

section LetterCase

theorem dot_toLower (c : Char) : (c.toLower == '.') = (c == '.') :=
  toLower_beq rfl c

theorem colon_toLower (c : Char) : (c.toLower == ':') = (c == ':') :=
  toLower_beq rfl c

theorem toLower_of_isDigit {c : Char} (h : c.isDigit = true) : c.toLower = c := by
  have hletter : ∀ c ∈ capitals, c.isDigit = false := forall_mem_of_all rfl
  rcases toLower_eq_self_or_mem_capitals c with hself | hmem
  · exact hself
  · rw [hletter c hmem] at h
    cases h

theorem decimal?_map_toLower (s : List Char) : decimal? (s.map Char.toLower) = decimal? s := by
  have hdigit : (Char.isDigit ∘ Char.toLower) = Char.isDigit :=
    funext (toLower_congr (forall_mem_of_all rfl))
  unfold decimal?
  rw [List.all_map, hdigit]
  split
  · rename_i hall
    rw [List.map_congr_left fun c hc => toLower_of_isDigit (List.all_eq_true.mp hall c hc),
      List.map_id']
  · rfl

theorem octet?_map_toLower (s : List Char) : octet? (s.map Char.toLower) = octet? s := by
  have hzero : (s.map Char.toLower).head? = some '0' ↔ s.head? = some '0' := by
    cases s with
    | nil => rfl
    | cons c rest => simpa using Bool.eq_iff_iff.mp (toLower_beq rfl c)
  unfold octet?
  simp only [List.isEmpty_map, List.length_map, hzero, decimal?_map_toLower]

theorem dotted?_map_toLower (s : List Char) : dotted? (s.map Char.toLower) = dotted? s := by
  have hoctet : (octet? ∘ List.map Char.toLower) = octet? := funext octet?_map_toLower
  simp only [dotted?, pieces_map_toLower dot_toLower, List.length_map, List.mapM_map, hoctet]

theorem hexValue?_toLower (c : Char) : hexValue? c.toLower = hexValue? c :=
  toLower_congr (forall_mem_of_all rfl) c

theorem group?_map_toLower (s : List Char) : group? (s.map Char.toLower) = group? s := by
  unfold group?
  simp only [List.isEmpty_map, List.length_map, List.foldlM_map, hexValue?_toLower]

theorem groups?_cons_cons (dots : Bool) (s t : List Char) (rest : List (List Char)) :
    groups? dots (s :: t :: rest) =
      (do return (← group? s) ++ (← groups? dots (t :: rest))) :=
  rfl

theorem groups?_map_toLower (dots : Bool) (parts : List (List Char)) :
    groups? dots (parts.map (List.map Char.toLower)) = groups? dots parts := by
  induction parts with
  | nil => rfl
  | cons s rest ih =>
    cases rest with
    | nil =>
      simp only [List.map_cons, List.map_nil, groups?, contains_map_toLower dot_toLower,
        dotted?_map_toLower, group?_map_toLower]
    | cons t rest =>
      simp only [List.map_cons] at ih ⊢
      rw [groups?_cons_cons, groups?_cons_cons, ih, group?_map_toLower]

theorem side?_map_toLower (dots : Bool) (s : List Char) :
    side? dots (s.map Char.toLower) = side? dots s := by
  unfold side?
  rw [List.isEmpty_map, pieces_map_toLower colon_toLower, groups?_map_toLower]

theorem splitGap_map_toLower (s : List Char) :
    splitGap (s.map Char.toLower) =
      (splitGap s).map fun (l, r) => (l.map Char.toLower, r.map Char.toLower) := by
  have hcolon : ∀ c : Char, c.toLower = ':' → c = ':' := fun c hc => by
    simpa [hc] using (colon_toLower c).symm
  induction s using splitGap.induct with
  | case1 rest => rfl
  | case2 c rest hno ih =>
    have hnone : ∀ more, c.toLower = ':' → rest.map Char.toLower = ':' :: more → False := by
      intro more hc hmore
      obtain ⟨d, tail, rfl, hd, -⟩ := List.map_eq_cons_iff.mp hmore
      exact hno tail (hcolon c hc) (by rw [hcolon d hd])
    rw [List.map_cons, splitGap.eq_2 _ _ hnone, splitGap.eq_2 _ _ hno, ih]
    cases splitGap rest <;> rfl
  | case3 => rfl

theorem colons?_map_toLower (s : List Char) : colons? (s.map Char.toLower) = colons? s := by
  unfold colons?
  rw [splitGap_map_toLower, pieces_map_toLower colon_toLower]
  cases splitGap s with
  | none => simp only [Option.map_none, groups?_map_toLower]
  | some sides => simp only [Option.map_some, side?_map_toLower]

theorem ofLiteral?_map_toLower (s : List Char) : ofLiteral? (s.map Char.toLower) = ofLiteral? s := by
  rw [ofLiteral?, ofLiteral?, dotted?_map_toLower, colons?_map_toLower]

end LetterCase

section Characters

/-- The characters that literals are written with, and the brackets around them. -/
def characters : List Char :=
  "0123456789abcdefABCDEF.:[]".toList

/-- A text of such characters that does not end with a dot. -/
structure IsPlain (s : List Char) : Prop where
  mem : ∀ c ∈ s, c ∈ characters
  last : s.getLast? ≠ some '.'

theorem hexValue?_eq_none {c : Char} (h : 128 ≤ c.toNat) : hexValue? c = none := by
  have hbeyond : ∀ d : Char, d.toNat < 128 → ¬c ≤ d := by
    intro d hd hle
    exact absurd (Nat.le_trans h (UInt32.le_iff_toNat_le.mp hle)) (Nat.not_le.mpr hd)
  have hdigit : ¬c.isDigit = true := fun hc => hbeyond '9' (by decide) (by
    simp only [Char.isDigit, Bool.and_eq_true, decide_eq_true_eq] at hc
    exact hc.2)
  unfold hexValue?
  rw [if_neg hdigit, if_neg (by simp [hbeyond 'f' (by decide)]),
    if_neg (by simp [hbeyond 'F' (by decide)])]

theorem mem_characters_of_isSome {c : Char} (h : (hexValue? c).isSome = true) : c ∈ characters := by
  have hascii : ∀ c ∈ ascii, (hexValue? c).isSome = true → c ∈ characters :=
    forall_mem_of_all rfl
  refine hascii c (mem_ascii (Nat.not_le.mp fun hbeyond => ?_)) h
  rw [hexValue?_eq_none hbeyond] at h
  cases h

theorem IsPlain.of_digits {s : List Char} (h : ∀ c ∈ s, (hexValue? c).isSome = true) :
    IsPlain s where
  mem c hc := mem_characters_of_isSome (h c hc)
  last hlast := absurd (h '.' (List.mem_of_getLast? hlast)) (by decide)

theorem IsPlain.nil : IsPlain [] :=
  .of_digits fun _ hc => absurd hc List.not_mem_nil

theorem isPlain_of_octet? {s : List Char} (h : (octet? s).isSome = true) : IsPlain s ∧ s ≠ [] := by
  unfold octet? at h
  split at h
  · cases h
  · rename_i hlength
    unfold decimal? at h
    split at h
    · rename_i hall
      refine ⟨.of_digits fun c hc => ?_, ?_⟩
      · rw [hexValue?, if_pos (List.all_eq_true.mp hall c hc)]
        rfl
      · rintro rfl
        exact hlength (.inl rfl)
    · cases h

theorem isSome_of_mapM {α β : Type} {f : α → Option β} {l : List α} {r : List β}
    (h : l.mapM f = some r) : ∀ a ∈ l, (f a).isSome = true := by
  induction l generalizing r with
  | nil => exact fun _ ha => absurd ha List.not_mem_nil
  | cons b rest ih =>
    rw [List.mapM_cons] at h
    obtain ⟨x, hx, h⟩ := Option.bind_eq_some_iff.mp h
    obtain ⟨xs, hxs, -⟩ := Option.bind_eq_some_iff.mp h
    intro a ha
    rcases List.mem_cons.mp ha with rfl | ha
    · rw [hx]
      rfl
    · exact ih hxs a ha

theorem isPlain_of_dotted? {s : List Char} {a : Bytes} (h : dotted? s = some a) : IsPlain s := by
  simp only [dotted?] at h
  split at h
  · have hpart := fun l hl => isPlain_of_octet? (isSome_of_mapM h l hl)
    constructor
    · intro c hc
      by_cases hdot : c = '.'
      · rw [hdot]
        decide
      · obtain ⟨l, hl, hcl⟩ := List.mem_flatten.mp ((mem_flatten_pieces hdot).mpr hc)
        exact (hpart l hl).1.mem c hcl
    · intro hlast
      -- behind a dot at the end there would be an empty part
      obtain ⟨front, rfl⟩ := List.getLast?_eq_some_iff.mp hlast
      refine (hpart [] ?_).2 rfl
      rw [pieces_append_separator]
      exact List.mem_append_right _ List.mem_cons_self
  · cases h

theorem isSome_of_foldlM {s : List Char} {n m : Nat}
    (h : s.foldlM (fun n c => (hexValue? c).map (n * 16 + ·)) n = some m) :
    ∀ c ∈ s, (hexValue? c).isSome = true := by
  induction s generalizing n with
  | nil => exact fun _ hc => absurd hc List.not_mem_nil
  | cons d rest ih =>
    rw [List.foldlM_cons] at h
    obtain ⟨k, hk, h⟩ := Option.bind_eq_some_iff.mp h
    intro c hc
    rcases List.mem_cons.mp hc with rfl | hc
    · obtain ⟨v, hv, -⟩ := Option.map_eq_some_iff.mp hk
      rw [hv]
      rfl
    · exact ih h c hc

theorem isPlain_of_group? {s : List Char} {a : Bytes} (h : group? s = some a) : IsPlain s := by
  unfold group? at h
  split at h
  · cases h
  · obtain ⟨n, hn, -⟩ := Option.bind_eq_some_iff.mp h
    exact .of_digits (isSome_of_foldlM hn)

theorem isPlain_of_groups? {dots : Bool} {parts : List (List Char)} {a : Bytes}
    (h : groups? dots parts = some a) : ∀ l ∈ parts, IsPlain l := by
  induction parts generalizing a with
  | nil => exact fun _ hl => absurd hl List.not_mem_nil
  | cons s rest ih =>
    cases rest with
    | nil =>
      intro l hl
      rw [List.mem_singleton.mp hl]
      rw [groups?] at h
      split at h
      · exact isPlain_of_dotted? h
      · exact isPlain_of_group? h
    | cons t rest =>
      rw [groups?_cons_cons] at h
      obtain ⟨first, hfirst, h⟩ := Option.bind_eq_some_iff.mp h
      obtain ⟨others, hothers, -⟩ := Option.bind_eq_some_iff.mp h
      intro l hl
      rcases List.mem_cons.mp hl with rfl | hl
      · exact isPlain_of_group? hfirst
      · exact ih hothers l hl

theorem IsPlain.of_pieces {s : List Char} (h : ∀ l ∈ pieces ':' s, IsPlain l) : IsPlain s := by
  constructor
  · intro c hc
    by_cases hcolon : c = ':'
    · rw [hcolon]
      decide
    · obtain ⟨l, hl, hcl⟩ := List.mem_flatten.mp ((mem_flatten_pieces hcolon).mpr hc)
      exact (h l hl).mem c hcl
  · intro hlast
    obtain ⟨l, hl, hend⟩ := exists_mem_pieces_of_getLast? hlast (by decide : '.' ≠ ':')
    exact (h l hl).last hend

theorem isPlain_of_side? {dots : Bool} {s : List Char} {a : Bytes} (h : side? dots s = some a) :
    IsPlain s := by
  unfold side? at h
  split at h
  · rename_i hempty
    rw [List.isEmpty_iff.mp hempty]
    exact .nil
  · exact .of_pieces (isPlain_of_groups? h)

theorem eq_of_splitGap {s left right : List Char} (h : splitGap s = some (left, right)) :
    s = left ++ ':' :: ':' :: right := by
  induction s using splitGap.induct generalizing left with
  | case1 rest =>
    cases h
    rfl
  | case2 c rest hno ih =>
    rw [splitGap.eq_2 _ _ hno] at h
    obtain ⟨⟨l, r⟩, hsplit, heq⟩ := Option.map_eq_some_iff.mp h
    cases heq
    rw [ih hsplit]
    rfl
  | case3 => cases h

theorem isPlain_of_colons? {s : List Char} {a : Bytes} (h : colons? s = some a) : IsPlain s := by
  unfold colons? at h
  split at h
  · obtain ⟨bytes, hbytes, -⟩ := Option.bind_eq_some_iff.mp h
    exact .of_pieces (isPlain_of_groups? hbytes)
  · rename_i left right hsplit
    obtain ⟨l, hl, h⟩ := Option.bind_eq_some_iff.mp h
    obtain ⟨r, hr, -⟩ := Option.bind_eq_some_iff.mp h
    have hleft := isPlain_of_side? hl
    have hright := isPlain_of_side? hr
    rw [eq_of_splitGap hsplit]
    constructor
    · intro c hc
      simp only [List.mem_append, List.mem_cons] at hc
      rcases hc with hc | rfl | rfl | hc
      · exact hleft.mem c hc
      · decide
      · decide
      · exact hright.mem c hc
    · rw [List.getLast?_append_of_ne_nil _ (by simp), List.getLast?_cons_cons]
      cases right with
      | nil => decide
      | cons c rest => exact hright.last

theorem isPlain_of_ofLiteral? {s : List Char} {a : Bytes} (h : ofLiteral? s = some a) :
    IsPlain s := by
  rcases Option.or_eq_some_iff.mp h with hdotted | ⟨-, hcolons⟩
  · exact isPlain_of_dotted? hdotted
  · exact isPlain_of_colons? hcolons

end Characters

section Brackets

theorem mem_dropWhile_of_mem (p : Char → Bool) {s : List Char} {c : Char} (h : c ∈ s) :
    p c = true ∨ c ∈ s.dropWhile p := by
  rw [← List.takeWhile_append_dropWhile (p := p) (l := s), List.mem_append] at h
  exact h.imp_left List.mem_takeWhile_imp

theorem isPlain_of_ofHost? {host : String} {a : Bytes} (h : ofHost? host = some a) :
    IsPlain host.toList := by
  have hs : IsPlain (dropEndWhile (· == ']') (host.toList.dropWhile (· == '['))) :=
    isPlain_of_ofLiteral? h
  constructor
  · intro c hc
    rcases mem_dropWhile_of_mem (· == '[') hc with hbracket | hc
    · rw [eq_of_beq hbracket]
      decide
    rcases mem_dropWhile_of_mem (· == ']') (List.mem_reverse.mpr hc) with hbracket | hc
    · rw [eq_of_beq hbracket]
      decide
    · exact hs.mem c (List.mem_reverse.mpr hc)
  · intro hlast
    obtain ⟨front, hfront⟩ := List.getLast?_eq_some_iff.mp hlast
    -- a dot at the end is in no bracket's way
    obtain ⟨rest, hrest⟩ : ∃ rest, host.toList.dropWhile (· == '[') = rest ++ ['.'] := by
      rw [hfront, List.dropWhile_append]
      split
      · exact ⟨[], rfl⟩
      · exact ⟨_, rfl⟩
    have hdot : dropEndWhile (· == ']') (rest ++ ['.']) = rest ++ ['.'] :=
      List.rdropWhile_concat_neg _ rest '.' (by decide)
    rw [hrest, hdot] at hs
    exact hs.last List.getLast?_concat

theorem ofHost?_map_toLower (s : List Char) :
    ofHost? (String.ofList (s.map Char.toLower)) = ofHost? (String.ofList s) := by
  have hopening : ((· == '[') ∘ Char.toLower) = (· == '[') :=
    funext (toLower_beq rfl)
  have hclosing := dropEndWhile_map_toLower (p := (· == ']')) (toLower_beq rfl)
    (s.dropWhile (· == '['))
  unfold dropEndWhile at hclosing
  rw [ofHost?, ofHost?, String.toList_ofList, String.toList_ofList, List.dropWhile_map, hopening,
    hclosing, ofLiteral?_map_toLower]

end Brackets
end Host.Address

end ChainTrust
