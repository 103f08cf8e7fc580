import ChainTrust.Proofs.Coverage

namespace ChainTrust

/-- The certificates of a list that are not self-issued. -/
def Facts.countForeign (certificates : List Facts) : Nat :=
  certificates.countP fun c => !c.isSelfIssued

/-- The certificates strictly between two places that are not self-issued. -/
def Path.foreignBetween (p : Path) (ix j : Nat) : Nat :=
  Facts.countForeign ((p.certificates.take j).drop (ix + 1))

theorem Facts.countForeign_cons (c : Facts) (l : List Facts) :
    countForeign (c :: l) = if c.isSelfIssued then countForeign l else countForeign l + 1 := by
  unfold countForeign
  rw [List.countP_cons]
  cases c.isSelfIssued <;> rfl

namespace Processing

variable {r : Request} {p : Path} {n ix : Nat}

/-- Below an authority there is no more room than before it, and than it allows. -/
theorem room_below_le_iff {s : Scope} {c : Facts} {k : Nat} :
    (s.below c).room ≤ k ↔
      s.room ≤ (if c.isSelfIssued then k else k + 1) ∨ ∃ limit ∈ c.pathLength, limit ≤ k := by
  have hleft : (if c.isSelfIssued then s.room else s.room - 1) ≤ k ↔
      s.room ≤ if c.isSelfIssued then k else k + 1 := by
    split
    · rfl
    · exact Nat.sub_le_iff_le_add
  rw [← hleft, Scope.below]
  cases c.pathLength with
  | none => simp
  | some limit => simp [or_comm]

/-- The room has run out if no more was left than has come since, or if some authority allowed no
more than has come since that. -/
theorem room_belowAll_eq_zero_iff {s : Scope} {above : List Facts} :
    (s.belowAll above).room = 0 ↔ s.room ≤ Facts.countForeign above ∨
      ∃ upper c lower, above = upper ++ c :: lower ∧
        ∃ limit ∈ c.pathLength, limit ≤ Facts.countForeign lower := by
  induction above generalizing s with
  | nil => simp [Scope.belowAll, Facts.countForeign]
  | cons c above ih =>
    change ((s.below c).belowAll above).room = 0 ↔ _
    rw [ih, room_below_le_iff, ← Facts.countForeign_cons, or_assoc, exists_split_cons_iff
      (P := fun _ d lower => ∃ limit ∈ d.pathLength, limit ≤ Facts.countForeign lower)]

/-- The certificates above a place are those above another, that one, and those in between. -/
theorem above_eq_append {j : Nat} {c : Facts} (hj : ix < j) (hn : j < n)
    (hc : p.certificate? j = some c) : above p n ix = above p n j ++ c :: above p j ix := by
  obtain ⟨hlt, hc⟩ := List.getElem?_eq_some_iff.mp hc
  have hlt' : j < (p.certificates.take n).length := by
    rw [List.length_take]
    exact lt_min hn hlt
  have hbetween : ((p.certificates.take n).drop (ix + 1)).take (j - (ix + 1)) =
      (p.certificates.take j).drop (ix + 1) := by
    rw [List.take_drop, Nat.add_sub_cancel' hj, List.take_take, Nat.min_eq_left hn.le]
  have hrest : ((p.certificates.take n).drop (ix + 1)).drop (j - (ix + 1)) =
      c :: (p.certificates.take n).drop (j + 1) := by
    rw [List.drop_drop, Nat.add_sub_cancel' hj, List.drop_eq_getElem_cons hlt', List.getElem_take,
      hc]
  unfold above
  rw [← List.take_append_drop (j - (ix + 1)) ((p.certificates.take n).drop (ix + 1)), hbetween,
    hrest, List.reverse_append, List.reverse_cons, List.append_assoc, List.singleton_append]

/-- To split what is above a place is to choose another place above it. -/
theorem above_eq_append_iff {upper lower : List Facts} {c : Facts} :
    above p n ix = upper ++ c :: lower ↔ ∃ j, ix < j ∧ j < n ∧ p.certificate? j = some c ∧
      upper = above p n j ∧ lower = above p j ix := by
  constructor
  · intro h
    have hlower : ((p.certificates.take n).drop (ix + 1))[lower.length]? = some c := by
      have hreverse := congrArg List.reverse h
      simp only [above, List.reverse_reverse, List.reverse_append, List.reverse_cons] at hreverse
      simp [hreverse]
    rw [List.getElem?_drop, List.getElem?_take] at hlower
    split at hlower
    case isFalse => cases hlower
    case isTrue hn =>
      have hj : ix < ix + 1 + lower.length :=
        Nat.lt_of_lt_of_le ix.lt_succ_self (Nat.le_add_right _ _)
      have hlength : (c :: lower).length = (c :: above p (ix + 1 + lower.length) ix).length := by
        have hlt := Path.certificate?_eq_some_lt hlower
        unfold Path.length at hlt
        simp [above, Nat.min_eq_left hlt.le]
      obtain ⟨hupper, htail⟩ :=
        List.append_inj' (h.symm.trans (above_eq_append hj hn hlower)) hlength
      exact ⟨_, hj, hn, hlower, hupper, List.tail_eq_of_cons_eq htail⟩
  · intro h
    obtain ⟨j, hj, hn, hc, rfl, rfl⟩ := h
    exact above_eq_append hj hn hc

theorem countForeign_above {j : Nat} :
    Facts.countForeign (above p j ix) = p.foreignBetween ix j :=
  List.countP_reverse

/-- A place is not above itself, so there are fewer above it than are processed. -/
theorem countForeign_above_lt (h : ix < n) : Facts.countForeign (above p n ix) < n := by
  have hlength : (above p n ix).length ≤ n - (ix + 1) := by
    rw [above, List.length_reverse, List.length_drop, List.length_take]
    exact Nat.sub_le_sub_right (Nat.min_le_left _ _) _
  have hcount : Facts.countForeign (above p n ix) ≤ (above p n ix).length :=
    List.countP_le_length
  omega

/-- No room is left for a certificate that some authority above has not allowed for. -/
theorem room_scopeAt_eq_zero_iff (h : ix < processedCount r p) :
    (scopeAt r p ix).room = 0 ↔ ∃ j, ix < j ∧ j < processedCount r p ∧
      ∃ a ∈ p.certificate? j, ∃ limit ∈ a.pathLength, limit ≤ p.foreignBetween ix j := by
  rw [scopeAt, room_belowAll_eq_zero_iff, Scope.initial,
    or_iff_right (Nat.not_le_of_lt (countForeign_above_lt h))]
  constructor
  · intro hroom
    obtain ⟨upper, a, lower, hsplit, hlimit⟩ := hroom
    obtain ⟨j, hj, hn, ha, -, rfl⟩ := above_eq_append_iff.mp hsplit
    rw [countForeign_above] at hlimit
    exact ⟨j, hj, hn, a, ha, hlimit⟩
  · intro hdeep
    obtain ⟨j, hj, hn, a, ha, hlimit⟩ := hdeep
    rw [← countForeign_above] at hlimit
    exact ⟨_, a, _, above_eq_append hj hn ha, hlimit⟩

end Processing

namespace Evaluation

/-- A certificate fails for its depth if it issues and is not self-issued, and some authority above
it allows no more certificates than are between the two, those that are self-issued not counted. -/
theorem pathChecks_pathLength (r : Request) (p : Path) (hp : p.certificates ≠ [])
    (hx : r.exemptions = []) (ix : Nat) :
    let n := if p.EndsTrusted r then p.length - 1 else p.length
    (initial.pathChecks r p).2.1.hasFailed .basicConstraints ix = true ↔
      (0 < ix ∧ ix < n) ∧ (∃ c ∈ p.certificate? ix, c.isSelfIssued = false) ∧
        ∃ j, ix < j ∧ j < n ∧
          ∃ a ∈ p.certificate? j, ∃ limit ∈ a.pathLength, limit ≤ p.foreignBetween ix j := by
  intro n
  have hn : n = Processing.processedCount r p := (Request.processedCount_eq hp).symm
  rw [hn, hasFailed_iff_forces_of_waiverCodes hx hp rfl (by decide),
    Processing.forces_basicConstraints_iff]
  refine and_congr_right fun h => ?_
  constructor
  · intro hdeep
    obtain ⟨c, hc, hs, hroom⟩ := hdeep
    exact ⟨⟨c, hc, hs⟩, (Processing.room_scopeAt_eq_zero_iff h.2).mp hroom⟩
  · intro hdeep
    obtain ⟨⟨c, hc, hs⟩, hlimit⟩ := hdeep
    exact ⟨c, hc, hs, (Processing.room_scopeAt_eq_zero_iff h.2).mpr hlimit⟩

/-- Under an authority that allows none below it, another one that it issued. -/
theorem pathChecks_pathLength_deep :
    let authority : Name := [[⟨Oid.commonName, 12, [67, 65]⟩]]
    (initial.pathChecks ⟨.empty, [], 5, []⟩
      { Path.ofCertificates [.plain [1], { Facts.plain [2] with issuer := authority },
          { Facts.plain [3] with subject := authority, basicConstraints := some ⟨true, some 0⟩ },
          .plain [4]] with
        isAnchored := true }).2.1.hasFailed .basicConstraints 1 = true :=
  (pathChecks_pathLength _ _ (List.cons_ne_nil _ _) rfl 1).mpr
    ⟨by decide, ⟨_, rfl, by decide⟩, 2, by decide, by decide, _, rfl, 0, rfl, by decide⟩

end Evaluation
end ChainTrust
