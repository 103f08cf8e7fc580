import ChainTrust.Entries

namespace ChainTrust.Entries

variable {κ α : Type} [Ord κ]

/-- Keys ascend, so none occurs twice. -/
def Ascending (m : List (κ × α)) : Prop :=
  m.Pairwise fun a b => compare a.1 b.1 = .lt

theorem Ascending.filter {m : List (κ × α)} (h : Ascending m) (keep : κ × α → Bool) :
    Ascending (m.filter keep) :=
  List.Pairwise.filter keep h

theorem mem_of_mem_put {e : κ × α} {k : κ} {v : α} {m : List (κ × α)} (h : e ∈ put k v m) :
    e = (k, v) ∨ e ∈ m := by
  induction m with
  | nil => exact .inl (List.mem_singleton.mp h)
  | cons x m ih =>
    obtain ⟨j, w⟩ := x
    simp only [put] at h
    split at h
    · exact List.mem_cons.mp h
    · exact (List.mem_cons.mp h).imp id (List.mem_cons_of_mem _)
    · rcases List.mem_cons.mp h with rfl | h
      · exact .inr List.mem_cons_self
      · exact (ih h).imp id (List.mem_cons_of_mem _)

theorem put_eq_cons {k : κ} {v : α} {m : List (κ × α)} (h : ∀ e ∈ m, compare k e.1 = .lt) :
    put k v m = (k, v) :: m := by
  cases m with
  | nil => rfl
  | cons x m => simp [put, h x List.mem_cons_self]

section Lawful

variable [Std.TransOrd κ] [Std.LawfulEqOrd κ]

theorem Ascending.put {m : List (κ × α)} (h : Ascending m) (k : κ) (v : α) :
    Ascending (put k v m) := by
  induction m with
  | nil => exact List.pairwise_singleton _ _
  | cons x m ih =>
    obtain ⟨j, w⟩ := x
    obtain ⟨hj, hm⟩ := List.pairwise_cons.mp h
    simp only [Entries.put]
    split
    · rename_i hlt
      refine List.pairwise_cons.mpr ⟨?_, h⟩
      intro e he
      rcases List.mem_cons.mp he with rfl | he
      · exact hlt
      · exact Std.TransCmp.lt_trans hlt (hj e he)
    · rename_i heq
      cases Std.LawfulEqCmp.eq_of_compare heq
      exact List.pairwise_cons.mpr ⟨hj, hm⟩
    · rename_i hgt
      refine List.pairwise_cons.mpr ⟨?_, ih hm⟩
      intro e he
      rcases mem_of_mem_put he with rfl | he
      · exact Std.OrientedCmp.lt_of_gt hgt
      · exact hj e he

/-- Entries of keys that are dropped anyway need not be put. -/
theorem filter_put {m : List (κ × α)} (h : Ascending m) (keep : κ → Bool) (k : κ) (v : α) :
    (put k v m).filter (fun e => keep e.1) =
      if keep k then put k v (m.filter fun e => keep e.1) else m.filter fun e => keep e.1 := by
  induction m with
  | nil => cases hk : keep k <;> simp [put, hk]
  | cons x m ih =>
    obtain ⟨j, w⟩ := x
    obtain ⟨hj, hm⟩ := List.pairwise_cons.mp h
    simp only [put]
    split
    · rename_i hlt
      -- the new entry stays in front of what is left
      have hput : put k v (((j, w) :: m).filter fun e => keep e.1) =
          (k, v) :: ((j, w) :: m).filter fun e => keep e.1 := by
        apply put_eq_cons
        intro e he
        rcases List.mem_cons.mp (List.mem_filter.mp he).1 with rfl | he
        · exact hlt
        · exact Std.TransCmp.lt_trans hlt (hj e he)
      rw [hput, List.filter_cons]
    · rename_i heq
      cases Std.LawfulEqCmp.eq_of_compare heq
      cases hk : keep k <;> simp [hk, put]
    · rename_i hgt
      rw [List.filter_cons, List.filter_cons, ih hm]
      cases hk : keep k <;> cases hjk : keep j <;> simp [put, hgt]

end Lawful

theorem get?_cons {κ : Type} [BEq κ] (i j : κ) (w : α) (m : List (κ × α)) :
    get? i ((j, w) :: m) = if i == j then some w else get? i m := by
  rw [get?, List.lookup_cons]
  cases i == j <;> rfl

/-- A key that is put has the value, and the others keep theirs. -/
theorem get?_put [BEq κ] [LawfulBEq κ] [Std.LawfulEqOrd κ] (i k : κ) (v : α) (m : List (κ × α)) :
    get? i (put k v m) = if i == k then some v else get? i m := by
  induction m with
  | nil => exact get?_cons i k v []
  | cons x m ih =>
    obtain ⟨j, w⟩ := x
    simp only [put]
    split
    · exact get?_cons i k v _
    · rename_i heq
      cases Std.LawfulEqCmp.eq_of_compare heq
      rw [get?_cons, get?_cons]
      split <;> rfl
    · rename_i hgt
      have hne : j ≠ k := by
        rintro rfl
        have hself : compare j j = .eq := Std.ReflCmp.compare_self
        rw [hself] at hgt
        cases hgt
      rw [get?_cons, get?_cons, ih]
      by_cases hij : i = j
      · simp [hij, hne]
      · simp [hij]

theorem hasKey_put [BEq κ] [LawfulBEq κ] [Std.LawfulEqOrd κ] (i k : κ) (v : α) (m : List (κ × α)) :
    hasKey i (put k v m) = (k == i || hasKey i m) := by
  induction m with
  | nil => rfl
  | cons x m ih =>
    obtain ⟨j, w⟩ := x
    simp only [put]
    split
    · rfl
    · rename_i heq
      cases Std.LawfulEqCmp.eq_of_compare heq
      simp [hasKey]
    · change (j == i || hasKey i (put k v m)) = (k == i || (j == i || hasKey i m))
      rw [ih, Bool.or_left_comm]

/-- Puts the same value under each of some keys. -/
def putKeys (keys : List κ) (v : α) (m : List (κ × α)) : List (κ × α) :=
  keys.foldl (fun m k => put k v m) m

theorem putKeys_append (ks ls : List κ) (v : α) (m : List (κ × α)) :
    putKeys (ks ++ ls) v m = putKeys ls v (putKeys ks v m) :=
  List.foldl_append

theorem put_ne_nil (k : κ) (v : α) (m : List (κ × α)) : put k v m ≠ [] := by
  cases m with
  | nil => nofun
  | cons x m =>
    simp only [put]
    split <;> nofun

theorem putKeys_eq_nil_iff {keys : List κ} {v : α} {m : List (κ × α)} :
    putKeys keys v m = [] ↔ keys = [] ∧ m = [] := by
  induction keys generalizing m with
  | nil => simp [putKeys]
  | cons k keys ih =>
    change putKeys keys v (put k v m) = [] ↔ _
    simp [ih, put_ne_nil]

theorem hasKey_putKeys [BEq κ] [LawfulBEq κ] [Std.LawfulEqOrd κ] (i : κ) (keys : List κ) (v : α)
    (m : List (κ × α)) : hasKey i (putKeys keys v m) = (keys.contains i || hasKey i m) := by
  induction keys generalizing m with
  | nil => rfl
  | cons k keys ih =>
    change hasKey i (putKeys keys v (put k v m)) = _
    rw [ih, hasKey_put, List.contains_cons, Bool.or_left_comm, Bool.or_assoc, BEq.comm]

theorem mem_of_mem_putKeys {e : κ × α} {keys : List κ} {v : α} {m : List (κ × α)}
    (h : e ∈ putKeys keys v m) : e.2 = v ∨ e ∈ m := by
  induction keys generalizing m with
  | nil => exact .inr h
  | cons k keys ih =>
    rcases ih h with hv | he
    · exact .inl hv
    · rcases mem_of_mem_put he with rfl | he
      · exact .inl rfl
      · exact .inr he

/-- Keys ascend after any number of entries are put. -/
theorem Ascending.putKeys [Std.TransOrd κ] [Std.LawfulEqOrd κ] {m : List (κ × α)}
    (h : Ascending m) (keys : List κ) (v : α) : Ascending (putKeys keys v m) := by
  induction keys generalizing m with
  | nil => exact h
  | cons k keys ih => exact ih (h.put k v)

/-- Maps with the same entries are the same. -/
theorem Ascending.ext [Std.TransOrd κ] [Std.LawfulEqOrd κ] {l m : List (κ × α)}
    (hl : Ascending l) (hm : Ascending m) (h : ∀ e, e ∈ l ↔ e ∈ m) : l = m := by
  have hirrefl : ∀ a b : κ × α, compare a.1 b.1 = .lt → a ≠ b := by
    rintro a _ hlt rfl
    have hself : compare a.1 a.1 = .eq := Std.ReflCmp.compare_self
    rw [hself] at hlt
    cases hlt
  have hperm : l.Perm m :=
    (List.perm_ext_iff_of_nodup (hl.imp (hirrefl _ _)) (hm.imp (hirrefl _ _))).mpr h
  refine hperm.eq_of_pairwise (fun a b _ _ hab hba => ?_) hl hm
  have hgt := Std.OrientedCmp.gt_of_lt hba
  rw [hab] at hgt
  cases hgt

theorem Ascending.nodup_keys [Std.LawfulEqOrd κ] {m : List (κ × α)} (h : Ascending m) :
    (m.map Prod.fst).Nodup := by
  refine List.pairwise_map.mpr (h.imp fun {a b} hlt heq => ?_)
  have hself : compare b.1 b.1 = .eq := Std.ReflCmp.compare_self
  rw [heq, hself] at hlt
  cases hlt

theorem Ascending.mapValues {β : Type} {m : List (κ × α)} (h : Ascending m) (f : α → β) :
    Ascending (m.map fun e => (e.1, f e.2)) :=
  List.pairwise_map.mpr h

/-- An entry with a new key is added to the others. -/
theorem put_perm {k : κ} {v : α} {m : List (κ × α)} (h : ∀ e ∈ m, compare k e.1 ≠ .eq) :
    (put k v m).Perm ((k, v) :: m) := by
  induction m with
  | nil => exact .refl _
  | cons x m ih =>
    obtain ⟨j, w⟩ := x
    obtain ⟨hj, hm⟩ := List.forall_mem_cons.mp h
    simp only [put]
    split
    · exact .refl _
    · rename_i heq
      exact absurd heq hj
    · exact ((ih hm).cons (j, w)).trans (.swap (k, v) (j, w) m)

section Adding

variable [Std.LawfulEqOrd κ]

theorem putAll_perm {l m : List (κ × α)} (h : ((l ++ m).map Prod.fst).Nodup) :
    (putAll l m).Perm (l ++ m) := by
  induction l generalizing m with
  | nil => exact .refl _
  | cons e l ih =>
    obtain ⟨k, v⟩ := e
    have hnew : ∀ e ∈ m, compare k e.1 ≠ .eq := by
      intro e he heq
      refine (List.nodup_cons.mp h).1 (List.mem_map.mpr ⟨e, List.mem_append_right _ he, ?_⟩)
      exact (Std.LawfulEqCmp.eq_of_compare heq).symm
    have hput : (l ++ put k v m).Perm ((k, v) :: (l ++ m)) :=
      ((put_perm hnew).append_left l).trans List.perm_middle
    exact (ih ((hput.map Prod.fst).nodup_iff.mpr h)).trans hput

/-- Entries of different keys make a map of just these. -/
theorem ofList_perm {l : List (κ × α)} (h : (l.map Prod.fst).Nodup) : (ofList l).Perm l := by
  have hall := putAll_perm (m := []) (by rwa [List.append_nil])
  rwa [List.append_nil] at hall

theorem Ascending.putAll [Std.TransOrd κ] {m : List (κ × α)} (h : Ascending m)
    (l : List (κ × α)) : Ascending (putAll l m) := by
  induction l generalizing m with
  | nil => exact h
  | cons e l ih => exact ih (h.put e.1 e.2)

/-- A map is made of its entries in any order. -/
theorem ofList_of_perm [Std.TransOrd κ] {l m : List (κ × α)} (hm : Ascending m) (h : l.Perm m) :
    ofList l = m := by
  have hnodup := (h.map Prod.fst).nodup_iff.mpr hm.nodup_keys
  have hperm := (ofList_perm hnodup).trans h
  exact Ascending.ext (.putAll .nil l) hm fun e => hperm.mem_iff

end Adding

/-- Where there was nothing, exactly the keys are put, all with the same value. -/
theorem mem_putKeys_nil [BEq κ] [LawfulBEq κ] [Std.LawfulEqOrd κ] {keys : List κ} {k : κ}
    {v w : α} : (k, w) ∈ putKeys keys v [] ↔ k ∈ keys ∧ w = v := by
  have hkey : hasKey k (putKeys keys v []) = true ↔ k ∈ keys := by
    rw [hasKey_putKeys]
    simp [hasKey]
  have hvalue : ∀ e ∈ putKeys keys v [], e.2 = v :=
    fun e he => (mem_of_mem_putKeys he).resolve_right List.not_mem_nil
  rw [← hkey, hasKey, List.any_eq_true]
  constructor
  · intro h
    exact ⟨⟨_, h, beq_self_eq_true k⟩, hvalue _ h⟩
  · intro h
    obtain ⟨⟨⟨j, u⟩, he, hj⟩, rfl⟩ := h
    cases eq_of_beq hj
    cases hvalue _ he
    exact he

theorem filter_putKeys [Std.TransOrd κ] [Std.LawfulEqOrd κ] {m : List (κ × α)} (h : Ascending m)
    (keep : κ → Bool) (keys : List κ) (v : α) :
    (putKeys keys v m).filter (fun e => keep e.1) =
      putKeys (keys.filter keep) v (m.filter fun e => keep e.1) := by
  induction keys generalizing m with
  | nil => rfl
  | cons k keys ih =>
    change (putKeys keys v (put k v m)).filter _ = _
    rw [ih (h.put k v), filter_put h, List.filter_cons]
    split <;> rfl

end ChainTrust.Entries
