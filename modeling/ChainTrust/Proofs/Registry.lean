import ChainTrust.Evaluation.Whole

namespace ChainTrust

namespace Check

theorem mem_all (c : Check) : c ∈ all := by
  cases c <;> decide

theorem rank_injective : Function.Injective rank := by
  intro a b h
  rw [← Check.ofNat_ctorIdx a, ← Check.ofNat_ctorIdx b]
  exact congrArg Check.ofNat h

theorem not_always_of_ofLeaf {c : Check} (h : c ∈ ofLeaf) : c ∉ always := by
  revert c
  decide

theorem not_always_of_ofPath {c : Check} (h : c ∈ ofPath) : c ∉ always := by
  revert c
  decide

/-- Failures of these checks are noted whatever constraints and exemptions say. -/
def ofIntegrity : List Check := [.blackListedLeaf, .blackListedKey, .weakLeaf, .weakIntermediates]

theorem not_ofIntegrity_of_ofLeaf {c : Check} (h : c ∈ ofLeaf) :
    c ≠ .blackListedLeaf → c ∉ ofIntegrity := by
  revert c
  decide

theorem not_ofIntegrity_of_ofPath {c : Check} (h : c ∈ ofPath) : c ∉ ofIntegrity := by
  revert c
  decide

end Check

namespace CheckName

theorem compare_known (c d : Check) : compare (known c) (known d) = compare c.rank d.rank :=
  rfl

theorem compare_other (s t : String) : compare (other s) (other t) = compare s t :=
  rfl

instance : Std.LawfulEqOrd CheckName where
  compare_self := by
    intro a
    cases a with
    | known c =>
      rw [compare_known]
      exact Std.ReflCmp.compare_self
    | other s =>
      rw [compare_other]
      exact Std.ReflCmp.compare_self
  eq_of_compare := by
    intro a b h
    cases a with
    | known c =>
      cases b with
      | known d =>
        rw [compare_known] at h
        exact congrArg known (Check.rank_injective (Std.LawfulEqCmp.eq_of_compare h))
      | other t => cases h
    | other s =>
      cases b with
      | known d => cases h
      | other t =>
        rw [compare_other] at h
        exact congrArg other (Std.LawfulEqCmp.eq_of_compare h)

instance : Std.TransOrd CheckName where
  eq_swap := by
    intro a b
    cases a with
    | known c =>
      cases b with
      | known d =>
        rw [compare_known, compare_known]
        exact Std.OrientedCmp.eq_swap
      | other t => rfl
    | other s =>
      cases b with
      | known d => rfl
      | other t =>
        rw [compare_other, compare_other]
        exact Std.OrientedCmp.eq_swap
  isLE_trans := by
    intro a b c hab hbc
    cases a with
    | known x =>
      cases b with
      | known y =>
        cases c with
        | known z =>
          rw [compare_known] at hab hbc ⊢
          exact Std.TransCmp.isLE_trans hab hbc
        | other t => rfl
      | other s =>
        cases c with
        | known z => cases hbc
        | other t => rfl
    | other r =>
      cases b with
      | known y => cases hab
      | other s =>
        cases c with
        | known z => cases hbc
        | other t =>
          rw [compare_other] at hab hbc ⊢
          exact Std.TransCmp.isLE_trans hab hbc

end CheckName

/-- A leaf fails none but the checks of a leaf. -/
theorem LeafCheck.ofLeaf_of_fails {r : Request} {c : Facts} {v : OptionValue} {check : Check}
    (h : fails r c v check = true) : check ∈ Check.ofLeaf := by
  cases check <;> first | decide | cases h

/-- A path as a whole fails none but the checks of a path. -/
theorem PathCheck.ofPath_of_failures {p : Path} {v : OptionValue} {check : Check} {ix : Nat}
    (h : ix ∈ failures p v check) : check ∈ Check.ofPath := by
  cases check <;> first | decide | cases h

end ChainTrust
