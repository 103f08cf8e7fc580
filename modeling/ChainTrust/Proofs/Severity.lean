import ChainTrust.Verdict
import Mathlib.Order.Basic
import Mathlib.Order.MinMax

namespace ChainTrust.Verdict

theorem severity_injective : Function.Injective severity := by
  intro a b h
  cases a <;> cases b <;> first | rfl | cases h

instance : LinearOrder Verdict :=
  LinearOrder.lift' severity severity_injective

theorem unspecified_le (v : Verdict) : .unspecified ≤ v :=
  Nat.zero_le _

/-- Combining two outcomes is taking their maximum. -/
theorem combine_eq_max (a b : Verdict) : a.combine b = max a b := by
  cases a <;> cases b <;> rfl

theorem isOk_iff (v : Verdict) : v.isOk = true ↔ v < .recoverable := by
  cases v <;> decide

/-- There is no outcome between proceeding and the failure of a check. -/
theorem eq_proceed {v : Verdict} (h : .proceed ≤ v) (hlt : v < .recoverable) : v = .proceed := by
  cases v with
  | proceed => rfl
  | unspecified => exact absurd h (by decide)
  | recoverable | deny | fatal | otherError => exact absurd hlt (by decide)

/-- The most severe of some outcomes. -/
def worst (vs : List Verdict) : Verdict :=
  vs.foldl combine .unspecified

theorem foldl_combine (v : Verdict) (vs : List Verdict) :
    vs.foldl combine v = max v (worst vs) := by
  induction vs generalizing v with
  | nil => exact (max_eq_left (unspecified_le v)).symm
  | cons w ws ih =>
    have hw : worst (w :: ws) = max w (worst ws) := by
      change ws.foldl combine (combine .unspecified w) = _
      rw [ih, combine_eq_max, max_eq_right (unspecified_le w)]
    rw [List.foldl_cons, ih, hw, combine_eq_max, max_assoc]

theorem worst_cons (v : Verdict) (vs : List Verdict) : worst (v :: vs) = max v (worst vs) := by
  change vs.foldl combine (combine .unspecified v) = _
  rw [foldl_combine, combine_eq_max, max_eq_right (unspecified_le v)]

theorem worst_append (vs ws : List Verdict) : worst (vs ++ ws) = max (worst vs) (worst ws) := by
  rw [worst, List.foldl_append, foldl_combine]
  rfl

theorem worst_le_iff (vs : List Verdict) (v : Verdict) : worst vs ≤ v ↔ ∀ w ∈ vs, w ≤ v := by
  induction vs with
  | nil => exact ⟨fun _ w hw => (List.not_mem_nil hw).elim, fun _ => unspecified_le v⟩
  | cons w ws ih => simp [worst_cons, ih]

theorem le_worst {v : Verdict} {vs : List Verdict} (h : v ∈ vs) : v ≤ worst vs :=
  (worst_le_iff vs (worst vs)).mp le_rfl v h

/-- The worst outcome is one of those combined, unless there is nothing worse than no outcome. -/
theorem worst_mem (vs : List Verdict) : worst vs = .unspecified ∨ worst vs ∈ vs := by
  induction vs with
  | nil => exact .inl rfl
  | cons w ws ih =>
    rw [worst_cons]
    rcases max_choice w (worst ws) with h | h
    · rw [h]
      exact .inr List.mem_cons_self
    · rw [h]
      exact ih.imp id (List.mem_cons_of_mem w)

theorem worst_mem_of_eq {v : Verdict} {vs : List Verdict} (h : worst vs = v)
    (hv : v ≠ .unspecified) : v ∈ vs := by
  subst h
  exact (worst_mem vs).resolve_left hv

theorem worst_eq {v : Verdict} {vs : List Verdict} (hv : v ∈ vs) (h : ∀ w ∈ vs, w ≤ v) :
    worst vs = v :=
  le_antisymm ((worst_le_iff vs v).mpr h) (le_worst hv)

/-- The worst outcome is found by asking for each outcome in turn, the most severe first. -/
theorem worst_eq_ite (vs : List Verdict) :
    worst vs =
      if .otherError ∈ vs then .otherError
      else if .fatal ∈ vs then .fatal
      else if .deny ∈ vs then .deny
      else if .recoverable ∈ vs then .recoverable
      else if .proceed ∈ vs then .proceed
      else .unspecified := by
  -- what is more severe than the answer of a branch was ruled out in the branches before it
  split_ifs with ho hf hd hr hp
  · exact worst_eq ho (fun w _ => by cases w <;> decide)
  · exact worst_eq hf (fun w hw => by cases w <;> first | decide | contradiction)
  · exact worst_eq hd (fun w hw => by cases w <;> first | decide | contradiction)
  · exact worst_eq hr (fun w hw => by cases w <;> first | decide | contradiction)
  · exact worst_eq hp (fun w hw => by cases w <;> first | decide | contradiction)
  · rcases worst_mem vs with h | h
    · exact h
    · generalize worst vs = w at h ⊢
      cases w <;> first | rfl | contradiction

end ChainTrust.Verdict
