import ChainTrust.Proofs.Narrowing

namespace ChainTrust

namespace Bucket

variable {b : Bucket} {new : List Subtree} {W : Subtree → Prop}

/-- Of two subtrees with a property in common, one is seen to contain the other. -/
def Nested (W : Subtree → Prop) (s t : Subtree) : Prop :=
  W s → W t → t = s ∨ t.isWithin s = true ∨ s.isWithin t = true

/-- One intersection: a property on both sides is not lost. -/
theorem Admits.intersect (h : b.Admits W) (hn : new = [] ∨ ∃ t ∈ new, W t)
    (hnested : ∀ s ∈ b.subtrees, ∀ t ∈ new, Nested W s t) : (b.intersect new).Admits W := by
  have hkept : b.subtrees ≠ [] → new ≠ [] → ∃ s ∈ new.flatMap (meet b.subtrees), W s := by
    intro hs hne
    obtain ⟨old, hold, hWold⟩ := h.2.resolve_left hs
    obtain ⟨t, ht, hWt⟩ := hn.resolve_left hne
    obtain ⟨s, hmem, rfl | rfl⟩ := exists_mem_met ht hold (hnested old hold t ht hWold hWt)
    · exact ⟨s, hmem, hWt⟩
    · exact ⟨s, hmem, hWold⟩
  have hcases := b.intersects new
  generalize b.intersect new = c at hcases ⊢
  cases hcases with
  | unchanged => exact h
  | first _ _ hne => exact ⟨rfl, .inr (hn.resolve_left hne)⟩
  | met _ hs hm =>
    refine ⟨rfl, .inr (hkept hs ?_)⟩
    rintro rfl
    exact hm rfl
  | disjoint _ hs hne hm =>
    obtain ⟨s, hmem, -⟩ := hkept hs hne
    rw [hm] at hmem
    cases hmem

/-- Any number of intersections. What is left of the lists so far is nested with those to come. -/
theorem Admits.foldl {lists : List (List Subtree)} (h : b.Admits W)
    (hl : ∀ new ∈ lists, new = [] ∨ ∃ t ∈ new, W t)
    (hb : ∀ s ∈ b.subtrees, ∀ new ∈ lists, ∀ t ∈ new, Nested W s t)
    (hp : lists.Pairwise fun earlier later => ∀ s ∈ earlier, ∀ t ∈ later, Nested W s t) :
    (lists.foldl Bucket.intersect b).Admits W := by
  induction lists generalizing b with
  | nil => exact h
  | cons new lists ih =>
    obtain ⟨hnew, hrest⟩ := List.pairwise_cons.mp hp
    refine ih (h.intersect (hl new List.mem_cons_self) fun s hs => hb s hs new List.mem_cons_self)
      (fun l hmem => hl l (List.mem_cons_of_mem new hmem)) ?_ hrest
    intro s hs l hmem
    rcases mem_of_mem_intersect hs with hs | hs
    · exact hb s hs l (List.mem_cons_of_mem new hmem)
    · exact hnew l hmem s hs

/-- A constrained bucket that admits a property has a subtree with it. -/
theorem Admits.exists_mem (h : b.Admits W) (hb : b.IsConstrained) : ∃ s ∈ b.subtrees, W s := by
  rcases hb with hnull | hs
  · rw [h.1] at hnull
    cases hnull
  · exact h.2.resolve_left hs

end Bucket

namespace SubtreeSet

/-- A host, mailbox or address within a subtree of every list that has some of its form is permitted
by the intersection, if the masks of networks are prefixes and no two lists have the same domain
around the name in two spellings. -/
theorem permitted_retains (lists : List (List Subtree)) (name : ConstrainedName)
    (hform : name.form ∈ [.dns, .email, .ip])
    (hmask : ∀ l ∈ lists, ∀ s ∈ l, s.HasPrefixMask)
    (hspelt : lists.Pairwise fun earlier later => ∀ s ∈ earlier, ∀ t ∈ later,
      name.isWithin s = true → name.isWithin t = true → ¬s.IsRespelling t)
    (hname : ∀ l ∈ lists, ofForm name.form l = [] ∨
      ∃ s ∈ ofForm name.form l, name.isWithin s = true) :
    ((intersectAll lists).bucket name.form).isNull = false ∧
      ((intersectAll lists).bucket name.form).permits name = true ∧
      ((∃ l ∈ lists, ofForm name.form l ≠ []) →
        ∃ s ∈ ((intersectAll lists).bucket name.form).subtrees, name.isWithin s = true) := by
  have hnested : lists.Pairwise fun earlier later =>
      ∀ s ∈ ofForm name.form earlier, ∀ t ∈ ofForm name.form later,
        Bucket.Nested (fun s => name.isWithin s = true) s t := by
    refine hspelt.imp_of_mem fun hearlier hlater hspelt s hs t ht hws hwt => ?_
    have hs := (mem_ofForm.mp hs).1
    have ht := (mem_ofForm.mp ht).1
    rcases ConstrainedName.isWithin_nested hform hws hwt (hmask _ hearlier s hs)
      (hmask _ hlater t ht) (hspelt s hs t ht hws hwt) with rfl | hin | hin
    · exact .inl rfl
    · exact .inr (.inr hin)
    · exact .inr (.inl hin)
  have hadmits : ((intersectAll lists).bucket name.form).Admits
      fun s => name.isWithin s = true := by
    rw [bucket_intersectAll]
    refine Bucket.Admits.foldl ⟨rfl, .inl rfl⟩ ?_ nofun (List.pairwise_map.mpr hnested)
    intro new hnew
    obtain ⟨l, hl, rfl⟩ := List.mem_map.mp hnew
    exact hname l hl
  exact ⟨hadmits.1, Bucket.permits_iff.mpr hadmits,
    fun hsome => hadmits.exists_mem (isConstrained_intersectAll.mpr hsome)⟩

/-- A network with bits of a host in it, and two networks of which one lies within the first. -/
def networks : List (List Subtree) :=
  [[⟨.ip [10, 9, 9, 9, 255, 0, 0, 0], 0, none⟩],
   [⟨.ip [192, 168, 0, 0, 255, 255, 0, 0], 0, none⟩, ⟨.ip [10, 1, 0, 0, 255, 255, 0, 0], 0, none⟩]]

theorem hasPrefixMask_networks : ∀ l ∈ networks, ∀ s ∈ l, s.HasPrefixMask := by
  simp only [networks, List.forall_mem_cons, List.not_mem_nil, false_imp_iff, implies_true, and_true]
  refine ⟨?_, ?_, ?_⟩
  · rintro _ ⟨⟩
    exact ⟨8, by decide⟩
  · rintro _ ⟨⟩
    exact ⟨16, by decide⟩
  · rintro _ ⟨⟩
    exact ⟨16, by decide⟩

/-- An address in the inner network. -/
theorem permitted_retains_network :
    ((intersectAll networks).bucket .ip).permits (.ip [10, 1, 2, 3]) = true :=
  (permitted_retains networks (.ip [10, 1, 2, 3]) (by decide) hasPrefixMask_networks
    (by simp [networks, Subtree.IsRespelling]) (by decide)).2.1

/-- A host within a domain that two lists spell differently is not permitted. -/
theorem respelt_domain_loses :
    ¬∀ (lists : List (List Subtree)) (name : ConstrainedName), name.form ∈ [.dns, .email, .ip] →
      (∀ l ∈ lists, ∀ s ∈ l, s.HasPrefixMask) →
      (∀ l ∈ lists, ofForm name.form l = [] ∨
        ∃ s ∈ ofForm name.form l, name.isWithin s = true) →
      ((intersectAll lists).bucket name.form).permits name = true := by
  intro h
  have hpermits := h [[⟨.dns ".example.com", 0, none⟩], [⟨.dns ".EXAMPLE.com", 0, none⟩]]
    (.dns "www.example.com") (by decide) (by simp [Subtree.HasPrefixMask]) (by decide +kernel)
  revert hpermits
  decide +kernel

end SubtreeSet
end ChainTrust
