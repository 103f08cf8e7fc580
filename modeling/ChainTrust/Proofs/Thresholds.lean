import ChainTrust.Proofs.Attribution
import ChainTrust.Proofs.Coverage
import ChainTrust.Proofs.Timestamps

namespace ChainTrust

namespace Word

/-- A word is less than a number, or it is taken for a negative number that is. -/
def IsBelow (n : UInt64) (v : Int64) : Prop :=
  (n.toNat : Int) < v.toInt ∨
    0x8000000000000000 ≤ n.toNat ∧ (n.toNat : Int) - 0x10000000000000000 < v.toInt

instance (n : UInt64) (v : Int64) : Decidable (IsBelow n v) :=
  inferInstanceAs (Decidable (_ ∨ _ ∧ _))

theorem toInt_toInt64 (n : UInt64) :
    n.toInt64.toInt = if n.toNat < 0x8000000000000000 then (n.toNat : Int)
      else n.toNat - 0x10000000000000000 := by
  have hsigned := BitVec.toInt_eq_toNat_cond n.toBitVec
  rw [UInt64.toNat_toBitVec] at hsigned
  change n.toBitVec.toInt = _
  rw [hsigned]
  split <;> split <;> omega

theorem toInt64_lt_iff {n : UInt64} {v : Int64} : n.toInt64 < v ↔ IsBelow n v := by
  have hle := v.toInt_le
  rw [Int64.lt_iff_toInt_lt, toInt_toInt64, IsBelow]
  split <;> omega

theorem toNat_minus (a b : UInt64) :
    ((minus a b).toNat : Int) = max 0 ((a.toNat : Int) - b.toNat) := by
  unfold minus
  split
  · rename_i hle
    have hsub := UInt64.toNat_sub_of_le a b hle
    rw [UInt64.le_iff_toNat_le] at hle
    rw [hsub]
    omega
  · rename_i hlt
    rw [UInt64.le_iff_toNat_le] at hlt
    rw [UInt64.toNat_zero]
    omega

end Word

namespace OptionValue

theorem integer?_eq_some_iff {v : OptionValue} {n : Int64} :
    v.integer? = some n ↔ v = .integer n := by
  cases v <;> simp [integer?]

theorem mapM_integer?_eq_some_iff {entries : List (String × OptionValue)}
    {sizes : List (String × Int64)} :
    entries.mapM (fun e => e.2.integer?.map (e.1, ·)) = some sizes ↔
      entries = sizes.map fun e => (e.1, .integer e.2) := by
  induction entries generalizing sizes with
  | nil => cases sizes <;> simp
  | cons entry entries ih =>
    obtain ⟨name, size⟩ := entry
    simp only [List.mapM_cons, Option.bind_eq_bind, Option.bind_eq_some_iff,
      Option.map_eq_some_iff, integer?_eq_some_iff, ih, Option.pure_def, Option.some.injEq]
    constructor
    · rintro ⟨_, ⟨n, rfl, rfl⟩, rest, rfl, rfl⟩
      rfl
    · intro h
      cases sizes with
      | nil => cases h
      | cons first rest =>
        cases h
        exact ⟨_, ⟨_, rfl, rfl⟩, rest, rfl, rfl⟩

end OptionValue

namespace LeafCheck

theorem fails_notValidBefore_iff {r : Request} {c : Facts} {v : OptionValue} :
    fails r c v .notValidBefore = true ↔
      ∃ earliest, v = .integer earliest ∧ Word.IsBelow c.notBefore earliest := by
  simp only [fails, Option.any_eq_true, OptionValue.integer?_eq_some_iff, decide_eq_true_eq,
    Word.toInt64_lt_iff]

theorem lifetimeFails_iff {c : Facts} {v : OptionValue} :
    lifetimeFails c v = true ↔ ∃ days : Int64, v = .integer days ∧ 0 ≤ days.toInt ∧
      86400 * days.toInt < max 0 ((c.notAfter.toNat : Int) - c.notBefore.toNat) := by
  simp only [lifetimeFails, Option.any_eq_true, OptionValue.integer?_eq_some_iff, Bool.and_eq_true,
    decide_eq_true_eq, ← Word.toNat_minus, ← UInt64.not_le, Word.le_times_iff,
    Int64.le_iff_toInt_le]
  refine exists_congr fun days => and_congr_right fun _ => and_congr_right fun hnonneg => ?_
  have hdays : days.toUInt64.toNat = days.toInt.toNat :=
    Int64.toNat_toUInt64_of_le (Int64.le_iff_toInt_le.mpr hnonneg)
  have hday : secondsPerDay.toNat = 86400 := rfl
  rw [hdays, hday]
  change 0 ≤ days.toInt at hnonneg
  omega

end LeafCheck

namespace PathCheck

theorem leastSizes?_eq_some_iff {v : OptionValue} {sizes : List (String × Int64)} :
    leastSizes? v = some sizes ↔ v = .dictionary (sizes.map fun e => (e.1, .integer e.2)) := by
  cases v with
  | dictionary entries =>
    rw [OptionValue.dictionary.injEq]
    exact OptionValue.mapM_integer?_eq_some_iff
  | _ => simp [leastSizes?, OptionValue.dictionary?]

theorem isTooSmall_iff {sizes : List (String × Int64)} {c : Facts} :
    isTooSmall sizes c = true ↔
      ∀ least ∈ Entries.get? (sizeName c.keyAlgorithm) sizes, Word.IsBelow c.keySize least := by
  simp only [isTooSmall, Bool.not_eq_true', Option.any_eq_false, decide_eq_false_iff_not,
    Int64.not_le, Word.toInt64_lt_iff, Option.mem_def]

theorem mem_failures_keySize {p : Path} {v : OptionValue} {ix : Nat} :
    ix ∈ failures p v .keySize ↔ ∃ c ∈ p.certificate? ix, ∃ sizes,
      v = .dictionary (sizes.map fun e => (e.1, .integer e.2)) ∧
        ∀ least ∈ Entries.get? (sizeName c.keyAlgorithm) sizes, Word.IsBelow c.keySize least := by
  simp only [failures, ← leastSizes?_eq_some_iff, ← isTooSmall_iff]
  cases leastSizes? v with
  | none => simp
  | some sizes => simp [mem_placesOf, Path.mem_places]

end PathCheck

namespace Evaluation

variable {r : Request} {p : Path} {check : Check} {ix : Nat}

/-- A check that only options ask for has failed where it fails for one of them, if no failure is
accepted and none of the check can be waived. -/
theorem hasFailed_iff_option (hx : r.exemptions = []) (hp : p.certificates ≠ [])
    (hw : check.waiverCodes = []) (h : check ∉ Check.always) (hb : check ≠ .blackListedLeaf) :
    (initial.pathChecks r p).2.1.hasFailed check ix = true ↔
      ∃ policy ∈ r.policies, ∃ v, (.known check, v) ∈ policy.options ∧
        ((ix = 0 ∧ ∃ leaf ∈ p.leaf?, LeafCheck.fails r leaf v check = true) ∨
          ix ∈ PathCheck.failures p v check) := by
  have hlength : 0 < p.length := List.length_pos_iff.mpr hp
  rw [(isFresh_initial p).hasFailed_iff hp, noted_mem_effects]
  simp only [Request.isWaived_eq_false_of_waiverCodes hw, Request.isExempt_eq_false hx, and_self,
    and_true]
  constructor
  · rintro ⟨-, ⟨current, ha⟩ | ⟨current, ⟨ha, -⟩ | ha⟩⟩
    · cases ha with
      | blockedLeaf => exact absurd rfl hb
      | always hf => cases hf <;> exact absurd (by decide) h
    · cases ha with
      | leafCheck hp hl ho _ hf => exact ⟨_, hp, _, ho, .inl ⟨rfl, _, hl, hf⟩⟩
      | pathCheck hp ho hf => exact ⟨_, hp, _, ho, .inr hf⟩
      | always hf =>
        cases hf with
        | unlinked => exact absurd (by decide) h
        | invalid =>
          unfold Processing.validityCheck at h
          split_ifs at h <;> exact absurd (by decide) h
      | timestamps => exact absurd (by decide) h
    · cases ha with
      | always hf => cases hf <;> exact absurd (by decide) h
  · rintro ⟨policy, hp, v, ho, hfails⟩
    have ha : Finding.Arises r p (some policy) (.failed check ix) := by
      rcases hfails with ⟨rfl, leaf, hl, hf⟩ | hf
      · exact .leafCheck hp hl ho hb hf
      · exact .pathCheck hp ho hf
    exact ⟨(ha.isPlaced hlength).1, .inr ⟨_, .inl ⟨ha, Request.isRequested_of_mem ho p⟩⟩⟩

/-- A check that compares a leaf with a number fails at the leaf, for the numbers that are asked
for. -/
theorem hasFailed_iff_integer (hx : r.exemptions = []) (hp : p.certificates ≠ [])
    (hw : check.waiverCodes = []) (h : check ∉ Check.always) (hb : check ≠ .blackListedLeaf)
    {IsPast : Facts → Int64 → Prop} (hleaf : ∀ {leaf v},
      LeafCheck.fails r leaf v check = true ↔ ∃ n, v = .integer n ∧ IsPast leaf n)
    (hpath : ∀ v, PathCheck.failures p v check = []) :
    (initial.pathChecks r p).2.1.hasFailed check ix = true ↔
      ix = 0 ∧ ∃ leaf ∈ p.leaf?, ∃ n,
        (∃ policy ∈ r.policies, (.known check, .integer n) ∈ policy.options) ∧ IsPast leaf n := by
  simp only [hasFailed_iff_option hx hp hw h hb, hleaf, hpath, List.not_mem_nil, or_false]
  constructor
  · rintro ⟨policy, hpolicy, _, ho, rfl, leaf, hl, n, rfl, hpast⟩
    exact ⟨rfl, leaf, hl, n, ⟨policy, hpolicy, ho⟩, hpast⟩
  · rintro ⟨rfl, leaf, hl, n, ⟨policy, hpolicy, ho⟩, hpast⟩
    exact ⟨policy, hpolicy, _, ho, rfl, leaf, hl, n, rfl, hpast⟩

/-- The start of a leaf, its lifetime and the sizes of keys are compared as numbers with those of
the options that ask for it. Only a start or a size that is taken for a negative number fails
although it is great enough. -/
theorem pathChecks_thresholds (r : Request) (p : Path) (hp : p.certificates ≠ [])
    (hx : r.exemptions = []) (ix : Nat) :
    let failed := fun check => (initial.pathChecks r p).2.1.hasFailed check ix = true
    let asked := fun check v => ∃ policy ∈ r.policies, (.known check, v) ∈ policy.options
    (failed .notValidBefore ↔ ix = 0 ∧ ∃ leaf ∈ p.leaf?, ∃ earliest,
      asked .notValidBefore (.integer earliest) ∧ Word.IsBelow leaf.notBefore earliest) ∧
    (failed .validityPeriodMaximums ↔ ix = 0 ∧ ∃ leaf ∈ p.leaf?, ∃ days,
      asked .validityPeriodMaximums (.integer days) ∧ 0 ≤ days.toInt ∧
        86400 * days.toInt < max 0 ((leaf.notAfter.toNat : Int) - leaf.notBefore.toNat)) ∧
    (failed .keySize ↔ ∃ c ∈ p.certificate? ix, ∃ sizes,
      asked .keySize (.dictionary (sizes.map fun e => (e.1, .integer e.2))) ∧
        ∀ least ∈ Entries.get? (PathCheck.sizeName c.keyAlgorithm) sizes,
          Word.IsBelow c.keySize least) := by
  refine ⟨?_, ?_, ?_⟩
  · refine hasFailed_iff_integer hx hp rfl (by decide) (by decide) ?_ fun _ => rfl
    exact LeafCheck.fails_notValidBefore_iff
  · refine hasFailed_iff_integer hx hp rfl (by decide) (by decide) ?_ fun _ => rfl
    exact LeafCheck.lifetimeFails_iff
  · refine (hasFailed_iff_option hx hp rfl (by decide) (by decide)).trans ?_
    simp only [LeafCheck.fails, Bool.false_eq_true, and_false, exists_false, false_or,
      PathCheck.mem_failures_keySize]
    constructor
    · rintro ⟨policy, hpolicy, _, ho, c, hc, sizes, rfl, hbelow⟩
      exact ⟨c, hc, sizes, ⟨policy, hpolicy, ho⟩, hbelow⟩
    · rintro ⟨c, hc, sizes, ⟨policy, hpolicy, ho⟩, hbelow⟩
      exact ⟨policy, hpolicy, _, ho, c, hc, sizes, rfl, hbelow⟩

/-- A leaf that starts one second early, lasts for one second more than a day, and is certified by a
key that is one bit too short. -/
theorem pathChecks_thresholds_missed :
    let r : Request := ⟨.empty, [⟨"", "", [(.known .notValidBefore, .integer 8),
      (.known .validityPeriodMaximums, .integer 1),
      (.known .keySize, .dictionary [("RSA", .integer 2048)])]⟩], 9, []⟩
    let leaf := { Facts.plain [1] with notBefore := 7, notAfter := 86408 }
    let p := Path.ofCertificates [leaf, { Facts.plain [2] with keySize := 2047 }]
    (initial.pathChecks r p).2.1.hasFailed .notValidBefore 0 = true ∧
      (initial.pathChecks r p).2.1.hasFailed .validityPeriodMaximums 0 = true ∧
      (initial.pathChecks r p).2.1.hasFailed .keySize 1 = true := by
  intro r leaf p
  have hp : p.certificates ≠ [] := List.cons_ne_nil _ _
  obtain ⟨hstart, hlifetime, -⟩ := pathChecks_thresholds r p hp rfl 0
  obtain ⟨-, -, hsize⟩ := pathChecks_thresholds r p hp rfl 1
  have hasked : ∀ option ∈ [(CheckName.known .notValidBefore, OptionValue.integer 8),
      (.known .validityPeriodMaximums, .integer 1),
      (.known .keySize, .dictionary [("RSA", .integer 2048)])],
      ∃ policy ∈ r.policies, option ∈ policy.options :=
    fun option hoption => ⟨_, List.mem_singleton_self _, hoption⟩
  refine ⟨hstart.mpr ⟨rfl, leaf, rfl, 8, hasked _ (by simp), by decide⟩,
    hlifetime.mpr ⟨rfl, leaf, rfl, 1, hasked _ (by simp), by decide, by decide⟩,
    hsize.mpr ⟨_, rfl, [("RSA", 2048)], hasked _ (by simp), fun least hleast => ?_⟩⟩
  cases hleast
  decide

/-- A start and a size with the first bit set fail although they are greater than any option. -/
theorem greatest_words_fail :
    let r : Request := ⟨.empty, [⟨"", "", [(.known .notValidBefore, .integer 0),
      (.known .keySize, .dictionary [("RSA", .integer 2048)])]⟩], 9, []⟩
    let leaf := { Facts.plain [1] with
      notBefore := 0x8000000000000000, keySize := 0x8000000000000000 }
    let failed := fun check =>
      (initial.pathChecks r (Path.ofCertificates [leaf, .plain [2]])).2.1.hasFailed check 0 = true
    ¬(failed .notValidBefore ↔ (leaf.notBefore.toNat : Int) < (0 : Int64).toInt) ∧
      ¬(failed .keySize ↔ (leaf.keySize.toNat : Int) < (2048 : Int64).toInt) := by
  decide +kernel

end Evaluation
end ChainTrust
