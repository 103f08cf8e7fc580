import ChainTrust.Evaluation.Processing

namespace ChainTrust

namespace Path

theorem getElem?_take_places (p : Path) (n ix : Nat) :
    (p.places.take n)[ix]? = if ix < n then (p.certificate? ix).map fun c => (c, ix) else none := by
  simp [places, certificate?, List.getElem?_take, List.getElem?_zipIdx]

theorem eq_of_getElem?_take_places {p : Path} {n i ix : Nat} {c : Facts}
    (h : (p.places.take n)[i]? = some (c, ix)) : i = ix ∧ ix < n ∧ p.certificate? ix = some c := by
  rw [getElem?_take_places] at h
  split at h
  · rename_i hn
    obtain ⟨d, hd, heq⟩ := Option.map_eq_some_iff.mp h
    cases heq
    exact ⟨rfl, hn, hd⟩
  · cases h

/-- The places in front of a position are those before it. -/
theorem mem_take_places {p : Path} {n : Nat} {c : Facts} {ix : Nat} :
    (c, ix) ∈ p.places.take n ↔ ix < n ∧ p.certificate? ix = some c := by
  rw [List.mem_iff_getElem?]
  constructor
  · intro h
    obtain ⟨i, hi⟩ := h
    exact (eq_of_getElem?_take_places hi).2
  · intro h
    obtain ⟨hn, hc⟩ := h
    refine ⟨ix, ?_⟩
    rw [getElem?_take_places, if_pos hn, hc]
    rfl

theorem certificate?_eq_some_lt {p : Path} {c : Facts} {ix : Nat}
    (h : p.certificate? ix = some c) : ix < p.length :=
  (List.getElem?_eq_some_iff.mp h).1

theorem leaf?_eq_certificate? (p : Path) : p.leaf? = p.certificate? 0 :=
  List.head?_eq_getElem?

theorem certificate?_zero {p : Path} {leaf : Facts} (h : p.leaf? = some leaf) :
    p.certificate? 0 = some leaf := by
  rw [← leaf?_eq_certificate?]
  exact h

end Path

/-- A list is split at its first entry or at a later one. -/
theorem exists_split_cons_iff {α : Type} {a : α} {l : List α} {P : List α → α → List α → Prop} :
    (∃ before x after, a :: l = before ++ x :: after ∧ P before x after) ↔
      P [] a l ∨ ∃ before x after, l = before ++ x :: after ∧ P (a :: before) x after := by
  constructor
  · intro h
    obtain ⟨before, x, after, hsplit, h⟩ := h
    cases before with
    | nil =>
      cases hsplit
      exact .inl h
    | cons first before =>
      cases hsplit
      exact .inr ⟨before, x, after, rfl, h⟩
  · intro h
    rcases h with h | ⟨before, x, after, rfl, h⟩
    · exact ⟨[], a, l, rfl, h⟩
    · exact ⟨a :: before, x, after, rfl, h⟩

namespace Processing

/-- What is found at one certificate. -/
def station (r : Request) (p : Path) (s : Scope) (c : Facts) (ix : Nat) : List Finding :=
  certificateFindings r p s c ix ++ if ix = 0 then [] else authorityFindings s c ix

/-- What is left of a scope below some authorities. -/
def Scope.belowAll (s : Scope) (above : List Facts) : Scope :=
  above.foldl Scope.below s

theorem mem_walk {r : Request} {p : Path} {s : Scope} {places : List (Facts × Nat)} {f : Finding} :
    f ∈ walk r p s places ↔
      ∃ above c ix below, places = above ++ (c, ix) :: below ∧
        f ∈ station r p (s.belowAll (above.map (·.1))) c ix := by
  induction places generalizing s with
  | nil => simp [walk]
  | cons place places ih =>
    obtain ⟨d, place⟩ := place
    have hwalk : walk r p s ((d, place) :: places) =
        station r p s d place ++ walk r p (s.below d) places := rfl
    have hsplit := exists_split_cons_iff (a := (d, place)) (l := places)
      (P := fun above x _ => f ∈ station r p (s.belowAll (above.map (·.1))) x.1 x.2)
    simp only [Prod.exists] at hsplit
    rw [hwalk, List.mem_append, ih, hsplit]
    rfl

/-- The certificates above a place, from the top down, of those that are processed. -/
def above (p : Path) (n ix : Nat) : List Facts :=
  ((p.certificates.take n).drop (ix + 1)).reverse

/-- Walking the lowest certificates of a path meets each of them below all that are above it. -/
theorem mem_walk_places {r : Request} {p : Path} {n : Nat} {s : Scope} {f : Finding} :
    f ∈ walk r p s (p.places.take n).reverse ↔
      ∃ ix c, ix < n ∧ p.certificate? ix = some c ∧
        f ∈ station r p (s.belowAll (above p n ix)) c ix := by
  have hcertificates : (p.places.take n).map (·.1) = p.certificates.take n := by
    rw [List.map_take, Path.places, List.zipIdx_map_fst]
  rw [mem_walk]
  constructor
  · intro h
    obtain ⟨upper, c, ix, lower, hsplit, h⟩ := h
    have htake : p.places.take n = lower.reverse ++ (c, ix) :: upper.reverse := by
      rw [← List.reverse_reverse (p.places.take n), hsplit]
      simp
    have hget : (p.places.take n)[lower.length]? = some (c, ix) := by
      rw [htake]
      simp
    obtain ⟨hix, hn, hc⟩ := Path.eq_of_getElem?_take_places hget
    have habove : above p n ix = upper.map (·.1) := by
      rw [above, ← hcertificates, htake, ← hix, List.map_append, List.drop_append]
      simp
    refine ⟨ix, c, hn, hc, ?_⟩
    rw [habove]
    exact h
  · intro h
    obtain ⟨ix, c, hn, hc, h⟩ := h
    have hget : (p.places.take n)[ix]? = some (c, ix) := by
      rw [Path.getElem?_take_places, if_pos hn, hc]
      rfl
    obtain ⟨hlt, hget⟩ := List.getElem?_eq_some_iff.mp hget
    refine ⟨((p.places.take n).drop (ix + 1)).reverse, c, ix,
      ((p.places.take n).take ix).reverse, ?_, ?_⟩
    · have hsplit := List.take_append_drop ix (p.places.take n)
      rw [List.drop_eq_getElem_cons hlt, hget] at hsplit
      conv => lhs; rw [← hsplit]
      simp
    · rw [List.map_reverse, List.map_drop, hcertificates]
      exact h

end Processing
end ChainTrust
