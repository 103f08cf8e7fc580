import ChainTrust.Json.Shape
import ChainTrust.Proofs.Entries

namespace ChainTrust.Json

mutual

/-- The value that was written. Its objects are maps: the order of fields is lost, and of a key that
occurs twice the last value counts. -/
def value : Json → Json
  | .list items => .list (itemValues items)
  | .object fields => .object (Entries.ofList (fieldValues fields))
  | j => j

def itemValues : List Json → List Json
  | [] => []
  | item :: rest => value item :: itemValues rest

def fieldValues : List (String × Json) → List (String × Json)
  | [] => []
  | (key, j) :: rest => (key, value j) :: fieldValues rest

end

theorem itemValues_eq_map (items : List Json) : itemValues items = items.map value := by
  induction items with
  | nil => rfl
  | cons item items ih => rw [itemValues, ih, List.map_cons]

theorem fieldValues_eq_map (fields : List (String × Json)) :
    fieldValues fields = fields.map fun e => (e.1, value e.2) := by
  induction fields with
  | nil => rfl
  | cons field fields ih => rw [fieldValues, ih, List.map_cons]

variable {α β : Type}

theorem mapM_map_eq_self {f : β → Option α} {g : α → β} {l : List α}
    (h : ∀ a ∈ l, f (g a) = some a) : (l.map g).mapM f = some l := by
  induction l with
  | nil => rfl
  | cons a l ih =>
    obtain ⟨ha, hl⟩ := List.forall_mem_cons.mp h
    rw [List.map_cons, List.mapM_cons, ha, ih hl]
    rfl

theorem mapM_congr {f g : α → Option β} {l : List α} (h : ∀ a ∈ l, f a = g a) :
    l.mapM f = l.mapM g := by
  induction l with
  | nil => rfl
  | cons a l ih =>
    obtain ⟨ha, hl⟩ := List.forall_mem_cons.mp h
    rw [List.mapM_cons, List.mapM_cons, ha, ih hl]

theorem lookup_eq_of_perm {l m : List (String × α)} (h : l.Perm m)
    (hd : (l.map Prod.fst).Nodup) (name : String) : l.lookup name = m.lookup name := by
  induction h with
  | nil => rfl
  | cons e _ ih =>
    rw [List.lookup_cons, List.lookup_cons, ih (List.nodup_cons.mp hd).2]
  | swap a b l =>
    obtain ⟨i, v⟩ := a
    obtain ⟨j, w⟩ := b
    have hne : j ≠ i := fun heq => (List.nodup_cons.mp hd).1 (heq ▸ List.mem_cons_self)
    simp only [List.lookup_cons]
    by_cases hi : name = i
    · rw [hi, beq_self_eq_true, beq_eq_false_iff_ne.mpr hne.symm]
    · rw [beq_eq_false_iff_ne.mpr hi]
  | trans hlk _ ih ih' => exact (ih hd).trans (ih' ((hlk.map Prod.fst).nodup_iff.mp hd))

/-- A record that is written with all its fields is read with all of them. -/
theorem record?_of_perm {names : List String} {fields l : List (String × Json)}
    (hl : l.Perm fields) (hnames : fields.map Prod.fst = names) (hd : names.Nodup) :
    record? names (.object l) = some l := by
  subst hnames
  have hknown : l.filter (fun field => (fields.map Prod.fst).contains field.1) = l := by
    rw [List.filter_eq_self]
    intro field hfield
    exact List.contains_iff_mem.mpr (List.mem_map_of_mem (hl.subset hfield))
  rw [record?]
  change (if ((l.filter fun field => _).map (·.1)).Nodup then some _ else none) = _
  rw [hknown]
  exact if_pos ((hl.map Prod.fst).nodup_iff.mpr hd)

theorem optional?_of_perm {fields l : List (String × Json)} (hl : l.Perm fields)
    (hd : (fields.map Prod.fst).Nodup) (name : String) (missing : α) (f : Json → Option α) :
    optional? l name missing f = optional? fields name missing f := by
  unfold optional?
  rw [lookup_eq_of_perm hl ((hl.map Prod.fst).nodup_iff.mpr hd)]

theorem depth_le_depthOfItems {items : List Json} {j : Json} (h : j ∈ items) :
    j.depth ≤ depthOfItems items := by
  induction items with
  | nil => cases h
  | cons item items ih =>
    rw [depthOfItems]
    rcases List.mem_cons.mp h with rfl | h
    · exact Nat.le_max_left _ _
    · exact Nat.le_trans (ih h) (Nat.le_max_right _ _)

theorem depth_le_depthOfFields {fields : List (String × Json)} {field : String × Json}
    (h : field ∈ fields) : field.2.depth ≤ depthOfFields fields := by
  induction fields with
  | nil => cases h
  | cons first fields ih =>
    rw [depthOfFields]
    rcases List.mem_cons.mp h with rfl | h
    · exact Nat.le_max_left _ _
    · exact Nat.le_trans (ih h) (Nat.le_max_right _ _)

/-- What a record holds lies inside it. -/
theorem depth_lt_of_record? {names : List String} {j : Json} {fields : List (String × Json)}
    (h : record? names j = some fields) {field : String × Json} (hmem : field ∈ fields) :
    field.2.depth < j.depth := by
  unfold record? at h
  split at h
  · dsimp only at h
    split at h
    · cases h
      rw [depth]
      exact Nat.lt_succ_of_le (depth_le_depthOfFields (List.mem_filter.mp hmem).1)
    · cases h
  · split at h
    · cases h
      rw [depth]
      exact Nat.lt_succ_of_le (depth_le_depthOfItems (List.of_mem_zip hmem).2)
    · cases h
  · cases h

theorem optional?_congr {record : List (String × Json)} {name : String} {missing : α}
    {f g : Json → Option α} (h : ∀ field ∈ record, f field.2 = g field.2) :
    optional? record name missing f = optional? record name missing g := by
  unfold optional?
  split
  · rename_i hlookup
    obtain ⟨front, back, rfl, -⟩ := List.lookup_eq_some_iff.mp hlookup
    exact h _ (List.mem_append_right _ List.mem_cons_self)
  · rfl

theorem nullable?_congr {f g : Json → Option α} {j : Json} (h : f j = g j) :
    nullable? f j = nullable? g j := by
  unfold nullable?
  split
  · rfl
  · rw [h]

end ChainTrust.Json
