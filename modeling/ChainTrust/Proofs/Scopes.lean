import ChainTrust.Proofs.Findings

namespace ChainTrust

/-- The subtrees that an authority excludes. -/
def Facts.excludedSubtrees (c : Facts) : List Subtree :=
  (c.nameConstraints.bind (·.excluded)).getD []

namespace SubtreeSet

variable {set : SubtreeSet} {form : NameForm} {s : Subtree}

@[simp] theorem bucket_setBucket (set : SubtreeSet) (form other : NameForm) (b : Bucket) :
    (set.setBucket other b).bucket form = if form = other then b else set.bucket form := by
  cases form <;> cases other <;> rfl

theorem bucket_initial (form : NameForm) : initial.bucket form = .initial := by
  cases form <;> rfl

theorem mem_add {t : Subtree} :
    s ∈ ((set.add t).bucket form).subtrees ↔
      s ∈ (set.bucket form).subtrees ∨ s = t ∧ t.base.form? = some form := by
  unfold add
  cases hform : t.base.form? with
  | none => cases form <;> simp [bucket]
  | some other =>
    simp only [bucket_setBucket, Option.some.injEq]
    by_cases h : form = other
    · subst h
      unfold Bucket.add
      by_cases hmem : t ∈ (set.bucket form).subtrees
      · simp only [List.contains_iff_mem, hmem, if_true, and_true]
        constructor
        · exact .inl
        · intro h
          rcases h with h | rfl
          · exact h
          · exact hmem
      · simp [hmem]
    · simp [h, Ne.symm h]

theorem mem_union {new : List Subtree} :
    s ∈ ((set.union new).bucket form).subtrees ↔
      s ∈ (set.bucket form).subtrees ∨ s ∈ new ∧ s.base.form? = some form := by
  induction new generalizing set with
  | nil => simp [union]
  | cons t new ih =>
    change s ∈ (((set.add t).union new).bucket form).subtrees ↔ _
    rw [ih, mem_add, List.mem_cons]
    constructor
    · intro h
      rcases h with (h | ⟨rfl, hf⟩) | ⟨h, hf⟩
      · exact .inl h
      · exact .inr ⟨.inl rfl, hf⟩
      · exact .inr ⟨.inr h, hf⟩
    · intro h
      rcases h with h | ⟨rfl | h, hf⟩
      · exact .inl (.inl h)
      · exact .inl (.inr ⟨rfl, hf⟩)
      · exact .inr ⟨h, hf⟩

/-- A name is outside what a set excludes if it is within none of the subtrees of its form. -/
theorem not_isWithin_of_excludes_eq_false {names : List ConstrainedName}
    (h : set.excludes names = false) {name : ConstrainedName} (hname : name ∈ names)
    (hs : s ∈ (set.bucket name.form).subtrees) : name.isWithin s = false := by
  have hbucket := List.any_eq_false.mp h name hname
  exact eq_false_of_ne_true (List.any_eq_false.mp (eq_false_of_ne_true hbucket) s hs)

end SubtreeSet

namespace Processing

variable {r : Request} {p : Path} {form : NameForm} {s : Subtree}

theorem mem_excluded_below {scope : Scope} {c : Facts} :
    s ∈ ((scope.below c).excluded.bucket form).subtrees ↔
      s ∈ (scope.excluded.bucket form).subtrees ∨
        s ∈ c.excludedSubtrees ∧ s.base.form? = some form := by
  unfold Scope.below Facts.excludedSubtrees
  cases c.nameConstraints.bind (·.excluded) with
  | none => simp
  | some subtrees => exact SubtreeSet.mem_union

theorem mem_excluded_belowAll {scope : Scope} {above : List Facts} :
    s ∈ ((scope.belowAll above).excluded.bucket form).subtrees ↔
      s ∈ (scope.excluded.bucket form).subtrees ∨
        ∃ c ∈ above, s ∈ c.excludedSubtrees ∧ s.base.form? = some form := by
  induction above generalizing scope with
  | nil => simp [Scope.belowAll]
  | cons c above ih =>
    change s ∈ (((scope.below c).belowAll above).excluded.bucket form).subtrees ↔ _
    rw [ih, mem_excluded_below, or_assoc]
    simp only [List.mem_cons, exists_eq_or_imp]

theorem mem_above {n ix : Nat} {c : Facts} :
    c ∈ above p n ix ↔ ∃ j, ix < j ∧ j < n ∧ p.certificate? j = some c := by
  rw [above, List.mem_reverse, List.mem_iff_getElem?]
  simp only [List.getElem?_drop, List.getElem?_take]
  constructor
  · intro h
    obtain ⟨i, hi⟩ := h
    split at hi
    · rename_i hn
      exact ⟨ix + 1 + i, Nat.lt_of_lt_of_le ix.lt_succ_self (Nat.le_add_right _ _), hn, hi⟩
    · cases hi
  · intro h
    obtain ⟨j, hj, hn, hc⟩ := h
    refine ⟨j - (ix + 1), ?_⟩
    rw [Nat.add_sub_cancel' hj, if_pos hn]
    exact hc

/-- A certificate is processed in the scope of all that the authorities above it exclude. -/
theorem mem_excluded_scopeAt {ix : Nat} :
    s ∈ ((scopeAt r p ix).excluded.bucket form).subtrees ↔
      ∃ j c, ix < j ∧ j < processedCount r p ∧ p.certificate? j = some c ∧
        s ∈ c.excludedSubtrees ∧ s.base.form? = some form := by
  rw [scopeAt, mem_excluded_belowAll, Scope.initial, SubtreeSet.bucket_initial]
  simp only [Bucket.initial, List.not_mem_nil, false_or, mem_above]
  constructor
  · intro h
    obtain ⟨c, ⟨j, hj, hn, hc⟩, hs, hf⟩ := h
    exact ⟨j, c, hj, hn, hc, hs, hf⟩
  · intro h
    obtain ⟨j, c, hj, hn, hc, hs, hf⟩ := h
    exact ⟨c, ⟨j, hj, hn, hc⟩, hs, hf⟩

/-- A certificate that a scope does not forbid has no name within an excluded subtree. -/
theorem not_isWithin_of_forbids_eq_false {scope : Scope} {hostOf : String → Option String}
    {c : Facts} (h : scope.forbids hostOf c = false) {name : ConstrainedName}
    (hname : name ∈ ConstrainedName.ofAltNames c.altNames hostOf)
    (hs : s ∈ (scope.excluded.bucket name.form).subtrees) : name.isWithin s = false := by
  simp only [Scope.forbids, Bool.or_eq_false_iff] at h
  exact SubtreeSet.not_isWithin_of_excludes_eq_false h.1.2 hname hs

end Processing
end ChainTrust
