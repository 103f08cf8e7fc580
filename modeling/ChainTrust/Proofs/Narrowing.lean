import ChainTrust.Proofs.Containment

namespace ChainTrust

namespace Bucket

variable {b : Bucket} {previous new among : List Subtree} {s : Subtree}

/-- The outcomes of an intersection. -/
inductive Intersects (b : Bucket) (new : List Subtree) : Bucket → Prop where
  | unchanged (h : b.isNull = true ∨ new = []) : Intersects b new b
  | first (hb : b.isNull = false) (hs : b.subtrees = []) (hn : new ≠ []) :
      Intersects b new ⟨new, false⟩
  | met (hb : b.isNull = false) (hs : b.subtrees ≠ [])
      (hm : new.flatMap (meet b.subtrees) ≠ []) :
      Intersects b new ⟨new.flatMap (meet b.subtrees), false⟩
  | disjoint (hb : b.isNull = false) (hs : b.subtrees ≠ []) (hn : new ≠ [])
      (hm : new.flatMap (meet b.subtrees) = []) : Intersects b new ⟨[], true⟩

theorem intersects (b : Bucket) (new : List Subtree) : Intersects b new (b.intersect new) := by
  unfold intersect
  split
  · rename_i h
    exact .unchanged (by simpa using h)
  · rename_i h
    simp only [Bool.or_eq_true, List.isEmpty_iff, not_or, Bool.not_eq_true] at h
    obtain ⟨hnull, hnew⟩ := h
    rw [hnull]
    by_cases hs : b.subtrees = []
    · simp only [hs, List.isEmpty_nil, if_true, List.isEmpty_iff, hnew, if_false]
      exact .first hnull hs hnew
    · simp only [List.isEmpty_iff, hs, if_false]
      split
      · rename_i hm
        exact .disjoint hnull hs hnew hm
      · rename_i hm
        exact .met hnull hs hm

/-- What two lists of subtrees leave over belongs to one of them and lies within a subtree on
either side. -/
theorem exists_of_mem_met (h : s ∈ new.flatMap (meet previous)) :
    ∃ n ∈ new, ∃ old ∈ previous, (s = n ∨ s = old) ∧ (s = n ∨ s.isWithin n = true) ∧
      (s = old ∨ s.isWithin old = true) := by
  obtain ⟨n, hn, hmeet⟩ := List.mem_flatMap.mp h
  obtain ⟨old, hold, hs⟩ := List.mem_filterMap.mp hmeet
  refine ⟨n, hn, old, hold, ?_⟩
  split at hs
  · rename_i hinner
    cases hs
    simp only [Bool.or_eq_true, beq_iff_eq] at hinner
    exact ⟨.inl rfl, .inl rfl, hinner⟩
  · split at hs
    · rename_i houter
      cases hs
      exact ⟨.inr rfl, .inr houter, .inl rfl⟩
    · cases hs

/-- Two subtrees of which one contains the other leave over one of the two. -/
theorem exists_mem_met {n old : Subtree} (hn : n ∈ new) (hold : old ∈ previous)
    (h : n = old ∨ n.isWithin old = true ∨ old.isWithin n = true) :
    ∃ s ∈ new.flatMap (meet previous), s = n ∨ s = old := by
  have hmem : ∀ {s}, s ∈ meet previous n → s ∈ new.flatMap (meet previous) :=
    fun hs => List.mem_flatMap.mpr ⟨n, hn, hs⟩
  by_cases hinner : n = old ∨ n.isWithin old = true
  · refine ⟨n, hmem (List.mem_filterMap.mpr ⟨old, hold, ?_⟩), .inl rfl⟩
    rw [if_pos (by simpa using hinner)]
  · have houter : old.isWithin n = true := by
      rcases h with h | h | h
      · exact absurd (.inl h) hinner
      · exact absurd (.inr h) hinner
      · exact h
    refine ⟨old, hmem (List.mem_filterMap.mpr ⟨old, hold, ?_⟩), .inr rfl⟩
    rw [if_neg (by simpa using hinner), if_pos houter]

theorem mem_of_mem_intersect (h : s ∈ (b.intersect new).subtrees) : s ∈ b.subtrees ∨ s ∈ new := by
  have hcases := b.intersects new
  generalize b.intersect new = c at h hcases
  cases hcases with
  | unchanged => exact .inl h
  | first => exact .inr h
  | met =>
    obtain ⟨n, hn, old, hold, rfl | rfl, -⟩ := exists_of_mem_met h
    · exact .inr hn
    · exact .inl hold
  | disjoint => cases h

/-- Something of the form is left out: there are subtrees, or nothing is permitted at all. -/
def IsConstrained (b : Bucket) : Prop :=
  b.isNull = true ∨ b.subtrees ≠ []

theorem isConstrained_intersect :
    (b.intersect new).IsConstrained ↔ b.IsConstrained ∨ new ≠ [] := by
  have hcases := b.intersects new
  generalize b.intersect new = c at hcases ⊢
  cases hcases with
  | unchanged h =>
    constructor
    · exact .inl
    · intro hc
      rcases hc with hc | hn
      · exact hc
      · exact .inl (h.resolve_right hn)
  | first _ _ hn => exact iff_of_true (.inr hn) (.inr hn)
  | met _ hs hm => exact iff_of_true (.inr hm) (.inl (.inr hs))
  | disjoint _ hs => exact iff_of_true (.inl rfl) (.inl (.inr hs))

theorem isConstrained_foldl {lists : List (List Subtree)} :
    (lists.foldl intersect b).IsConstrained ↔ b.IsConstrained ∨ ∃ new ∈ lists, new ≠ [] := by
  induction lists generalizing b with
  | nil => simp
  | cons new lists ih =>
    rw [List.foldl_cons, ih, isConstrained_intersect, or_assoc]
    simp only [List.mem_cons, exists_eq_or_imp]

section Admission

variable {W : Subtree → Prop}

/-- A bucket has a subtree with a property, or is not constrained. -/
def Admits (W : Subtree → Prop) (b : Bucket) : Prop :=
  b.isNull = false ∧ (b.subtrees = [] ∨ ∃ s ∈ b.subtrees, W s)

theorem permits_iff {name : ConstrainedName} :
    b.permits name = true ↔ b.Admits fun s => name.isWithin s = true := by
  simp [permits, Admits]

/-- A property of subtrees passes on to those that contain them. -/
def Widens (W : Subtree → Prop) (among : List Subtree) : Prop :=
  ∀ s ∈ among, ∀ t ∈ among, s.isWithin t = true → W s → W t

/-- One intersection: what it admits was admitted before and is in the new list. -/
theorem Admits.of_intersect (hW : Widens W among) (hb : b.subtrees ⊆ among) (hn : new ⊆ among)
    (h : (b.intersect new).Admits W) : b.Admits W ∧ (new = [] ∨ ∃ s ∈ new, W s) := by
  have hcases := b.intersects new
  generalize b.intersect new = c at h hcases
  cases hcases with
  | unchanged hsame =>
    refine ⟨h, .inl (hsame.resolve_left ?_)⟩
    rw [h.1]
    nofun
  | first hnull hs hne => exact ⟨⟨hnull, .inl hs⟩, .inr (h.2.resolve_left hne)⟩
  | met hnull hs hm =>
    obtain ⟨s, hmem, hWs⟩ := h.2.resolve_left hm
    obtain ⟨n, hnew, old, hold, hside, hin, hout⟩ := exists_of_mem_met hmem
    have hamong : s ∈ among := by
      rcases hside with rfl | rfl
      · exact hn hnew
      · exact hb hold
    have hpass : ∀ t ∈ among, (s = t ∨ s.isWithin t = true) → W t := by
      intro t ht hst
      rcases hst with rfl | hst
      · exact hWs
      · exact hW s hamong t ht hst hWs
    exact ⟨⟨hnull, .inr ⟨old, hold, hpass old (hb hold) hout⟩⟩,
      .inr ⟨n, hnew, hpass n (hn hnew) hin⟩⟩
  | disjoint => cases h.1

/-- Any number of intersections: by induction on the lists that are still to come. -/
theorem Admits.of_foldl {lists : List (List Subtree)} (hW : Widens W among)
    (hb : b.subtrees ⊆ among) (hl : ∀ new ∈ lists, new ⊆ among)
    (h : (lists.foldl intersect b).Admits W) :
    b.Admits W ∧ ∀ new ∈ lists, new = [] ∨ ∃ s ∈ new, W s := by
  induction lists generalizing b with
  | nil => exact ⟨h, nofun⟩
  | cons new lists ih =>
    have hn := hl new List.mem_cons_self
    have hstep : (b.intersect new).subtrees ⊆ among := by
      intro s hs
      rcases mem_of_mem_intersect hs with hs | hs
      · exact hb hs
      · exact hn hs
    obtain ⟨hfirst, hrest⟩ := ih hstep (fun l hmem => hl l (List.mem_cons_of_mem _ hmem)) h
    obtain ⟨hbefore, hnew⟩ := hfirst.of_intersect hW hb hn
    refine ⟨hbefore, fun l hmem => ?_⟩
    rcases List.mem_cons.mp hmem with rfl | hmem
    · exact hnew
    · exact hrest l hmem

end Admission
end Bucket

namespace SubtreeSet

variable {lists : List (List Subtree)} {form : NameForm} {name : ConstrainedName} {s : Subtree}

/-- What lists of permitted subtrees leave over, each intersected with all before it. -/
def intersectAll (lists : List (List Subtree)) : SubtreeSet :=
  lists.foldl intersect initial

theorem mem_ofForm {subtrees : List Subtree} :
    s ∈ ofForm form subtrees ↔ s ∈ subtrees ∧ s.base.form? = some form := by
  simp [ofForm]

theorem bucket_intersect (set : SubtreeSet) (new : List Subtree) (form : NameForm) :
    (set.intersect new).bucket form = (set.bucket form).intersect (ofForm form new) := by
  cases form <;> rfl

theorem bucket_foldl_intersect (set : SubtreeSet) (lists : List (List Subtree)) (form : NameForm) :
    (lists.foldl intersect set).bucket form =
      (lists.map (ofForm form)).foldl Bucket.intersect (set.bucket form) := by
  induction lists generalizing set with
  | nil => rfl
  | cons new lists ih => rw [List.foldl_cons, ih, bucket_intersect, List.map_cons, List.foldl_cons]

/-- The forms do not mix. -/
theorem bucket_intersectAll (lists : List (List Subtree)) (form : NameForm) :
    (intersectAll lists).bucket form =
      (lists.map (ofForm form)).foldl Bucket.intersect .initial := by
  rw [intersectAll, bucket_foldl_intersect, bucket_initial]

theorem isConstrained_intersectAll :
    ((intersectAll lists).bucket form).IsConstrained ↔ ∃ l ∈ lists, ofForm form l ≠ [] := by
  rw [bucket_intersectAll, Bucket.isConstrained_foldl]
  simp [Bucket.IsConstrained, Bucket.initial]

theorem admits_intersectAll {W : Subtree → Prop} (hW : Bucket.Widens W lists.flatten)
    (h : ((intersectAll lists).bucket form).Admits W) :
    ∀ l ∈ lists, ofForm form l = [] ∨ ∃ s ∈ ofForm form l, W s := by
  rw [bucket_intersectAll] at h
  have hsubset : ∀ new ∈ lists.map (ofForm form), new ⊆ lists.flatten := by
    intro new hnew s hs
    obtain ⟨l, hl, rfl⟩ := List.mem_map.mp hnew
    exact List.mem_flatten.mpr ⟨l, hl, (mem_ofForm.mp hs).1⟩
  intro l hl
  exact (h.of_foldl hW (List.nil_subset _) hsubset).2 _ (List.mem_map_of_mem hl)

theorem exists_isWithin_of_permits (hform : name.form ∈ [.dns, .email, .ip])
    (h : ((intersectAll lists).bucket name.form).permits name = true) :
    ∀ l ∈ lists, ofForm name.form l = [] ∨ ∃ s ∈ ofForm name.form l, name.isWithin s = true := by
  refine admits_intersectAll (fun s _ t _ hst hs => ?_) (Bucket.permits_iff.mp h)
  exact ConstrainedName.isWithin_trans hform hs hst

/-- Every host, mailbox and address that is permitted is within a subtree of each list that has some
of its form. A form that is constrained stays so, whatever lists follow. -/
theorem permitted_narrows (lists : List (List Subtree)) (name : ConstrainedName)
    (hform : name.form ∈ [.dns, .email, .ip]) :
    (((intersectAll lists).bucket name.form).permits name = true →
      ∀ l ∈ lists, ofForm name.form l = [] ∨
        ∃ s ∈ ofForm name.form l, name.isWithin s = true) ∧
    ∀ more, ((intersectAll lists).bucket name.form).IsConstrained →
      ((intersectAll (lists ++ more)).bucket name.form).IsConstrained := by
  constructor
  · exact exists_isWithin_of_permits hform
  · intro more h
    obtain ⟨l, hl, hne⟩ := isConstrained_intersectAll.mp h
    exact isConstrained_intersectAll.mpr ⟨l, List.mem_append_left more hl, hne⟩

/-- A mailbox of a host, below an authority that permits the whole domain in capitals. -/
theorem permitted_narrows_mailbox :
    (ConstrainedName.email "someone@mail.example.com").isWithin ⟨.email ".EXAMPLE.com", 0, none⟩ =
      true := by
  have h := (permitted_narrows
    [[⟨.email ".EXAMPLE.com", 0, none⟩], [⟨.email "mail.example.com", 0, none⟩]]
    (.email "someone@mail.example.com") (by decide)).1 (by decide +kernel)
    _ List.mem_cons_self
  simpa [ofForm, GeneralName.form?, ConstrainedName.form] using h

end SubtreeSet

end ChainTrust
