import ChainTrust.Proofs.Applicability
import ChainTrust.Proofs.Coverage
import ChainTrust.Proofs.Entries
import ChainTrust.Proofs.Recognition

namespace ChainTrust

/-- The integer is a mask of 32 bits. -/
def LeafCheck.isMask (n : Int64) : Bool :=
  0 ≤ n.toInt ∧ n.toInt < (UInt32.size : Int)

namespace OptionValue

def ofIntegers (ns : List Int64) : OptionValue :=
  .array (ns.map .integer)

theorem integers?_ofIntegers (ns : List Int64) : (ofIntegers ns).integers? = some ns := by
  change (ns.map integer).mapM integer? = some ns
  induction ns with
  | nil => rfl
  | cons n ns ih =>
    rw [List.map_cons, List.mapM_cons, ih]
    rfl

end OptionValue

namespace Policy

variable {policy : Policy} {check : Check} {v : OptionValue}

theorem option?_withOption (other : Check) :
    (policy.withOption check v).option? other =
      if other = check then some v else policy.option? other := by
  have hput := Entries.get?_put (.known other) (.known check) v policy.options
  simp only [beq_iff_eq, CheckName.known.injEq] at hput
  exact hput

/-- Constraints cannot see whether an option was changed that does not bind a policy to anyone. -/
theorem face_withOption (h : check ∉ bindingChecks) :
    (policy.withOption check v).face = policy.face := by
  have hbound : (policy.withOption check v).isBoundTo = policy.isBoundTo := by
    funext wanted
    unfold isBoundTo
    rw [Bool.eq_iff_iff, List.any_eq_true, List.any_eq_true]
    refine exists_congr fun other => and_congr_right fun hother => ?_
    rw [option?_withOption, if_neg (ne_of_mem_of_not_mem hother h)]
  rw [face, hbound]
  rfl

end Policy

namespace LeafCheck

theorem masks_ofIntegers (ns : List Int64) :
    masks (.ofIntegers ns) = (ns.filter isMask).map (·.toUInt64.toUInt32) := by
  rw [masks, OptionValue.integers?_ofIntegers, ← List.filterMap_eq_map, List.filterMap_filter]
  simp [isMask]

theorem masks_filter (ns : List Int64) :
    masks (.ofIntegers (ns.filter isMask)) = masks (.ofIntegers ns) := by
  rw [masks_ofIntegers, masks_ofIntegers, List.filter_filter]
  simp only [Bool.and_self]

/-- Integers that are no masks do not matter to the check of a leaf. -/
theorem keyUsageFails_filter (c : Facts) (ns : List Int64) :
    keyUsageFails c (.ofIntegers (ns.filter isMask)) = keyUsageFails c (.ofIntegers ns) := by
  rw [keyUsageFails, masks_filter]
  rfl

end LeafCheck

namespace KeyUse

/-- The bits of a mask are set in the integer. -/
def HasBits (n : Int64) (mask : UInt32) : Prop :=
  n.toUInt64 &&& mask.toUInt64 = mask.toUInt64

instance (n : Int64) (mask : UInt32) : Decidable (HasBits n mask) :=
  inferInstanceAs (Decidable (_ = _))

/-- The lower half has all bits of a mask of 32 bits that the whole has. -/
theorem hasBits_iff {n : Int64} {mask : UInt32} :
    HasBits n mask ↔ n.toUInt64.toUInt32 &&& mask = mask := by
  unfold HasBits
  rw [← UInt64.toNat_inj, ← UInt32.toNat_inj, UInt64.toNat_and, UInt32.toNat_and,
    UInt32.toNat_toUInt64, UInt64.toNat_toUInt32]
  have hlower : n.toUInt64.toNat % 2 ^ 32 &&& mask.toNat = n.toUInt64.toNat &&& mask.toNat := by
    have hmask : mask.toNat < 2 ^ 32 := mask.toNat_lt
    have hand : n.toUInt64.toNat &&& mask.toNat < 2 ^ 32 :=
      lt_of_le_of_lt Nat.and_le_right hmask
    rw [← Nat.mod_eq_of_lt hand, Nat.and_mod_two_pow, Nat.mod_eq_of_lt hmask]
  rw [hlower]

theorem testBit_foldl_iff {α : Type} {step : UInt32 → α → UInt32} {P : α → Prop} {j : Nat}
    (h : ∀ use a, (step use a).toNat.testBit j = true ↔ use.toNat.testBit j = true ∨ P a)
    (l : List α) (use : UInt32) :
    (l.foldl step use).toNat.testBit j = true ↔ use.toNat.testBit j = true ∨ ∃ a ∈ l, P a := by
  induction l generalizing use with
  | nil => simp
  | cons a l ih => rw [List.foldl_cons, ih, h, or_assoc, List.exists_mem_cons_iff]

/-- The integer has the bit of a use, of which this is one of the bits. -/
def Names (n : Int64) (j : Nat) : Prop :=
  ∃ row ∈ rows, HasBits n row.1 ∧ row.2.toNat.testBit j = true

theorem testBit_ofKeyUsage_iff {n : Int64} {j : Nat} :
    (ofKeyUsage n.toUInt64.toUInt32).toNat.testBit j = true ↔ Names n j := by
  rw [ofKeyUsage,
    testBit_foldl_iff (P := fun row => HasBits n row.1 ∧ row.2.toNat.testBit j = true)]
  · simp [Names]
  · intro use row
    by_cases hrow : HasBits n row.1
    · simp [hrow, hasBits_iff.mp hrow]
    · simp [hrow, mt hasBits_iff.mpr hrow]

end KeyUse

namespace Policy

variable {policy : Policy} {ns : List Int64}

theorem exists_keyUses_testBit_iff {j : Nat}
    (h : policy.option? .keyUsage = some (.ofIntegers ns)) :
    (∃ use ∈ policy.keyUses, use.toNat.testBit j = true) ↔ ∃ n ∈ ns, KeyUse.Names n j := by
  rw [keyUses, h]
  simp [OptionValue.integers?_ofIntegers, KeyUse.testBit_ofKeyUsage_iff]

end Policy

section Replaced

variable {policies : List Policy} {policy policy' : Policy} {i ix j : Nat}

theorem exists_eq_append_of_set (hp : policies[i]? = some policy) (policy' : Policy) :
    ∃ front back, policies = front ++ policy :: back ∧
      policies.set i policy' = front ++ policy' :: back := by
  obtain ⟨hi, rfl⟩ := List.getElem?_eq_some_iff.mp hp
  obtain ⟨front, back, heq, -, hset⟩ := List.exists_of_set hi
  exact ⟨front, back, heq, hset⟩

theorem map_face_set (hp : policies[i]? = some policy) (h : policy'.face = policy.face) :
    (policies.set i policy').map Policy.face = policies.map Policy.face := by
  obtain ⟨front, back, rfl, hset⟩ := exists_eq_append_of_set hp policy'
  rw [hset]
  simp only [List.map_append, List.map_cons, h]

/-- What another policy in the place of one adds to the uses of the key. -/
theorem testBit_evaluatedKeyUse_set {P : Prop} (hp : policies[i]? = some policy)
    (hname : policy'.name = policy.name)
    (h : (∃ use ∈ policy.keyUses, use.toNat.testBit j = true) ↔
      (∃ use ∈ policy'.keyUses, use.toNat.testBit j = true) ∨ P) :
    (evaluatedKeyUse policies ix).toNat.testBit j = true ↔
      (evaluatedKeyUse (policies.set i policy') ix).toNat.testBit j = true ∨ P := by
  obtain ⟨front, back, rfl, hset⟩ := exists_eq_append_of_set hp policy'
  have hor : ∀ a b : UInt32, (a ||| b).toNat.testBit j = true ↔
      a.toNat.testBit j = true ∨ b.toNat.testBit j = true := by
    intro a b
    rw [UInt32.toNat_or, Nat.testBit_or, Bool.or_eq_true]
  rw [hset]
  unfold evaluatedKeyUse
  simp only [List.any_append, List.any_cons, hname, List.flatMap_append, List.flatMap_cons]
  rw [KeyUse.testBit_foldl_iff hor, KeyUse.testBit_foldl_iff hor]
  simp only [List.mem_append, or_and_right, exists_or, h, or_assoc, or_comm (a := P)]

end Replaced

/-- The policy with only the masks among some integers as its option of the use of a key. -/
def Policy.withMasks (policy : Policy) (ns : List Int64) : Policy :=
  policy.withOption .keyUsage (.ofIntegers (ns.filter LeafCheck.isMask))

namespace Policy

variable {policies : List Policy} {policy : Policy} {ns : List Int64} {i ix : Nat}

theorem option?_withMasks : (policy.withMasks ns).option? .keyUsage =
    some (.ofIntegers (ns.filter LeafCheck.isMask)) := by
  rw [withMasks, option?_withOption, if_pos rfl]

theorem face_withMasks : (policy.withMasks ns).face = policy.face :=
  face_withOption (by decide)

section

variable (hp : policies[i]? = some policy) (ho : policy.option? .keyUsage = some (.ofIntegers ns))

include hp ho

/-- The integers that are no masks add exactly the uses whose bits they have. -/
theorem testBit_evaluatedKeyUse_withMasks {j : Nat} :
    (evaluatedKeyUse policies ix).toNat.testBit j = true ↔
      (evaluatedKeyUse (policies.set i (policy.withMasks ns)) ix).toNat.testBit j = true ∨
        ∃ n ∈ ns, LeafCheck.isMask n = false ∧ KeyUse.Names n j := by
  refine testBit_evaluatedKeyUse_set hp rfl ?_
  rw [exists_keyUses_testBit_iff ho, exists_keyUses_testBit_iff option?_withMasks]
  constructor
  · intro h
    obtain ⟨n, hn, hnames⟩ := h
    cases hmask : LeafCheck.isMask n with
    | true => exact .inl ⟨n, List.mem_filter.mpr ⟨hn, hmask⟩, hnames⟩
    | false => exact .inr ⟨n, hn, hmask, hnames⟩
  · intro h
    rcases h with ⟨n, hn, hnames⟩ | ⟨n, hn, -, hnames⟩
    · exact ⟨n, (List.mem_filter.mp hn).1, hnames⟩
    · exact ⟨n, hn, hnames⟩

/-- The uses of the key are the same without these integers if they are there anyway. -/
theorem evaluatedKeyUse_withMasks_iff :
    evaluatedKeyUse (policies.set i (policy.withMasks ns)) ix = evaluatedKeyUse policies ix ↔
      ∀ n ∈ ns, LeafCheck.isMask n = false → ∀ row ∈ KeyUse.rows, KeyUse.HasBits n row.1 →
        evaluatedKeyUse (policies.set i (policy.withMasks ns)) ix &&& row.2 = row.2 := by
  constructor
  · intro heq n hn hmask row hrow hhas
    refine KeyUsage.and_eq_mask_iff_testBit.mpr fun j hj => ?_
    rw [heq]
    exact (testBit_evaluatedKeyUse_withMasks hp ho).mpr (.inr ⟨n, hn, hmask, row, hrow, hhas, hj⟩)
  · intro h
    rw [← UInt32.toNat_inj]
    apply Nat.eq_of_testBit_eq
    intro j
    rw [Bool.eq_iff_iff, testBit_evaluatedKeyUse_withMasks hp ho]
    refine ⟨.inl, fun hj => ?_⟩
    rcases hj with hj | ⟨n, hn, hmask, row, hrow, hhas, hj⟩
    · exact hj
    · exact KeyUsage.and_eq_mask_iff_testBit.mp (h n hn hmask row hrow hhas) j hj

end
end Policy

namespace Request

variable {r : Request} {policy : Policy} {ns : List Int64} {i ix : Nat}

theorem isMet_withMasks (hp : r.policies[i]? = some policy) {c : Constraint}
    (hu : ∀ use ∈ c.keyUse, use = KeyUse.any ∨
      evaluatedKeyUse (r.policies.set i (policy.withMasks ns)) ix = evaluatedKeyUse r.policies ix)
    (k : Nat) :
    let r' := { r with policies := r.policies.set i (policy.withMasks ns) }
    r'.isMet r'.policies[k]? ix c = r.isMet r.policies[k]? ix c := by
  intro r'
  have hfaces : r'.policies.map Policy.face = r.policies.map Policy.face :=
    map_face_set hp Policy.face_withMasks
  refine isMet_congr rfl hfaces ?_ ?_
  · rw [← List.getElem?_map, hfaces, List.getElem?_map]
  · unfold Constraint.keyUseMatches
    cases hk : c.keyUse with
    | none => rfl
    | some use =>
      rcases hu use hk with rfl | heq
      · simp
      · rw [Option.all_some, Option.all_some, heq]

end Request

namespace Evaluation

variable {r : Request} {policy : Policy} {ns : List Int64}

/-- The check of a leaf comes to the same without the integers that are no masks. -/
theorem applyAll_withMasks (ho : policy.option? .keyUsage = some (.ofIntegers ns))
    (policies : List Policy) (p : Path) (leaf : Facts) (e : Evaluation) :
    let r' := { r with policies := policies }
    e.applyAll r' (some (policy.withMasks ns)) p
        (leafFindings r' leaf (.known .keyUsage) (.ofIntegers (ns.filter LeafCheck.isMask))) =
      e.applyAll r (some policy) p
        (leafFindings r leaf (.known .keyUsage) (.ofIntegers ns)) := by
  intro r'
  have hrecord : e.record? r' (some (policy.withMasks ns)) p (.known .keyUsage) 0 false false =
      e.record? r (some policy) p (.known .keyUsage) 0 false false := by
    have hwaived : ∀ (r : Request) (current : Option Policy),
        r.isWaived current p (.known .keyUsage) 0 = false :=
      fun _ _ => Request.isWaived_eq_false_of_waiverCodes rfl
    have hasked : ∀ q : Policy, (q.option? .keyUsage).isSome = true →
        Request.isRequested (some q) p (.known .keyUsage) = true := by
      intro q hq
      rw [Request.isRequested, Option.any_some, Bool.or_eq_true]
      exact .inl hq
    unfold record?
    rw [hwaived, hwaived, hasked policy (by rw [ho]; rfl),
      hasked (policy.withMasks ns) (by rw [Policy.option?_withMasks]; rfl)]
    rfl
  change (if LeafCheck.keyUsageFails leaf _ then _ else _ : List Finding).foldl _ e =
    (if LeafCheck.keyUsageFails leaf _ then _ else _ : List Finding).foldl _ e
  rw [LeafCheck.keyUsageFails_filter]
  split
  · exact congrArg (·.getD e) hrecord
  · rfl

end Evaluation

namespace Request

/-- If only the masks among some integers are left to a policy, the check of a leaf comes to the
same. Of the uses of the key that an evaluation makes, those are lost whose bits no more than the
other integers have. Constraints that are not limited to the uses of the key, or for a place that
loses none of them, apply as before. -/
theorem withMasks_loses_uses (r : Request) {i : Nat} {policy : Policy} {ns : List Int64}
    (hp : r.policies[i]? = some policy)
    (ho : policy.option? .keyUsage = some (.ofIntegers ns)) :
    let masks := OptionValue.ofIntegers (ns.filter LeafCheck.isMask)
    let policy' := policy.withMasks ns
    let r' := { r with policies := r.policies.set i policy' }
    (policy'.option? .keyUsage = some masks ∧ ∀ p leaf (e : Evaluation),
      e.applyAll r' (some policy') p (Evaluation.leafFindings r' leaf (.known .keyUsage) masks) =
        e.applyAll r (some policy) p
          (Evaluation.leafFindings r leaf (.known .keyUsage) (.ofIntegers ns))) ∧
    (∀ ix j, (evaluatedKeyUse r.policies ix).toNat.testBit j = true ↔
      (evaluatedKeyUse r'.policies ix).toNat.testBit j = true ∨
        ∃ n ∈ ns, LeafCheck.isMask n = false ∧ KeyUse.Names n j) ∧
    (∀ ix, evaluatedKeyUse r'.policies ix = evaluatedKeyUse r.policies ix ↔
      ∀ n ∈ ns, LeafCheck.isMask n = false → ∀ row ∈ KeyUse.rows, KeyUse.HasBits n row.1 →
        evaluatedKeyUse r'.policies ix &&& row.2 = row.2) ∧
    ∀ (k ix : Nat) (c : Constraint), (∀ use ∈ c.keyUse, use = KeyUse.any ∨
        evaluatedKeyUse r'.policies ix = evaluatedKeyUse r.policies ix) →
      r'.isMet r'.policies[k]? ix c = r.isMet r.policies[k]? ix c := by
  intro masks policy' r'
  refine ⟨⟨Policy.option?_withMasks, ?_⟩, ?_, ?_, ?_⟩
  · exact fun p leaf e => Evaluation.applyAll_withMasks ho r'.policies p leaf e
  · exact fun ix j => Policy.testBit_evaluatedKeyUse_withMasks hp ho
  · exact fun ix => Policy.evaluatedKeyUse_withMasks_iff hp ho
  · intro k ix c hu
    exact isMet_withMasks hp hu k

/-- A policy that asks for the bits of a signature, with an integer above all masks whose lower half
has the bit of the encipherment of keys. -/
def strayPolicy : Policy :=
  ⟨"any", "1.2.3", [(.known .keyUsage, .ofIntegers [1, 0x100000004])]⟩

theorem withMasks_loses_encipherment :
    let r : Request := ⟨.empty, [strayPolicy], 5, []⟩
    let left := [strayPolicy].set 0 (strayPolicy.withMasks [1, 0x100000004])
    (evaluatedKeyUse r.policies 1).toNat.testBit 2 = true ∧
      evaluatedKeyUse left 1 ≠ evaluatedKeyUse r.policies 1 := by
  intro r left
  have hp : r.policies[0]? = some strayPolicy := rfl
  have ho : strayPolicy.option? .keyUsage = some (.ofIntegers [1, 0x100000004]) := rfl
  obtain ⟨-, hbits, hsame, -⟩ := withMasks_loses_uses r hp ho
  have hstray : (0x100000004 : Int64) ∈ [1, 0x100000004] := by decide
  have hrow : (KeyUsage.keyEncipherment, KeyUse.key) ∈ KeyUse.rows := by decide
  refine ⟨(hbits 1 2).mpr (.inr ⟨_, hstray, by decide, _, hrow, by decide, by decide⟩), fun h => ?_⟩
  have hthere := (hsame 1).mp h _ hstray (by decide) _ hrow (by decide)
  revert hthere
  decide +kernel

/-- Constraints see uses of the key for which the check of a leaf does not look. -/
theorem evaluatedKeyUse_of_stray :
    ¬∀ (policies : List Policy) (i : Nat) (policy : Policy) (ns : List Int64) (ix : Nat),
      policies[i]? = some policy → policy.option? .keyUsage = some (.ofIntegers ns) →
        evaluatedKeyUse (policies.set i (policy.withMasks ns)) ix = evaluatedKeyUse policies ix := by
  intro h
  have hsame := h [strayPolicy] 0 strayPolicy [1, 0x100000004] 0 rfl rfl
  revert hsame
  decide +kernel

end Request
end ChainTrust
