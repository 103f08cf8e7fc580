import ChainTrust.Sct
import Mathlib.Data.List.Induction

namespace ChainTrust

namespace Bytes

theorem toNat_concat (bytes : Bytes) (b : UInt8) :
    toNat (bytes ++ [b]) = toNat bytes * 256 + b.toNat :=
  List.foldl_append

theorem toNat_fixed {width n : Nat} (h : n < capacity width) : toNat (fixed width n) = n := by
  induction width generalizing n with
  | zero =>
    have hn : n = 0 := Nat.lt_one_iff.mp h
    rw [hn]
    rfl
  | succ width ih =>
    have hdiv : n / 256 < capacity width := Nat.div_lt_of_lt_mul h
    have hlast : (UInt8.ofNat n).toNat = n % 256 := UInt8.toNat_ofNat'
    rw [fixed, toNat_concat, ih hdiv, hlast]
    omega

theorem toNat_lt_capacity (bytes : Bytes) : toNat bytes < capacity bytes.length := by
  induction bytes using List.reverseRecOn with
  | nil => exact Nat.one_pos
  | append_singleton bytes b ih =>
    have hb : b.toNat < 256 := b.toNat_lt
    rw [toNat_concat, List.length_append, List.length_singleton, capacity]
    omega

/-- A word of some width is the one way to write its number in that width. -/
theorem fixed_toNat (bytes : Bytes) : fixed bytes.length (toNat bytes) = bytes := by
  induction bytes using List.reverseRecOn with
  | nil => rfl
  | append_singleton bytes b ih =>
    have hb : b.toNat < 256 := b.toNat_lt
    have hdiv : (toNat bytes * 256 + b.toNat) / 256 = toNat bytes := by omega
    have hlast : UInt8.ofNat (toNat bytes * 256 + b.toNat) = b := by
      apply UInt8.toNat_inj.mp
      rw [UInt8.toNat_ofNat']
      omega
    rw [toNat_concat, List.length_append, List.length_singleton, fixed, hdiv, ih, hlast]

theorem split?_eq_some_iff {n : Nat} {bytes front rest : Bytes} :
    split? n bytes = some (front, rest) ↔ bytes = front ++ rest ∧ front.length = n := by
  unfold split?
  constructor
  · intro h
    split at h
    · rename_i hn
      cases h
      exact ⟨(List.take_append_drop n bytes).symm, List.length_take_of_le hn⟩
    · cases h
  · intro h
    obtain ⟨rfl, rfl⟩ := h
    rw [if_pos (by simp), List.take_left', List.drop_left'] <;> rfl

theorem word?_eq_some_iff {width n : Nat} {bytes rest : Bytes} :
    word? width bytes = some (n, rest) ↔ bytes = fixed width n ++ rest ∧ n < capacity width := by
  unfold word?
  rw [Option.map_eq_some_iff]
  constructor
  · intro h
    obtain ⟨⟨word, left⟩, hsplit, heq⟩ := h
    obtain ⟨rfl, rfl⟩ := split?_eq_some_iff.mp hsplit
    cases heq
    rw [fixed_toNat]
    exact ⟨rfl, toNat_lt_capacity word⟩
  · intro h
    obtain ⟨rfl, hn⟩ := h
    refine ⟨(fixed width n, rest), split?_eq_some_iff.mpr ⟨rfl, length_fixed width n⟩, ?_⟩
    exact Prod.ext (toNat_fixed hn) rfl

theorem block_eq_some_iff {width : Nat} {content bytes : Bytes} :
    block width content = some bytes ↔
      content.length < capacity width ∧ bytes = fixed width content.length ++ content := by
  unfold block
  split
  · rename_i h
    simp [h, eq_comm]
  · rename_i h
    simp [h]

/-- What is read as a block was written as one. -/
theorem block?_eq_some_iff {width : Nat} {bytes content rest : Bytes} :
    block? width bytes = some (content, rest) ↔
      ∃ front, block width content = some front ∧ bytes = front ++ rest := by
  simp only [block?, Option.bind_eq_bind, Option.bind_eq_some_iff, Prod.exists,
    word?_eq_some_iff, split?_eq_some_iff, block_eq_some_iff]
  constructor
  · intro h
    obtain ⟨size, left, ⟨rfl, hsize⟩, rfl, rfl⟩ := h
    exact ⟨_, ⟨hsize, rfl⟩, (List.append_assoc _ _ _).symm⟩
  · intro h
    obtain ⟨front, ⟨hsize, rfl⟩, rfl⟩ := h
    exact ⟨content.length, content ++ rest, ⟨List.append_assoc _ _ _, hsize⟩, rfl, rfl⟩

end Bytes

namespace Sct

/-- Encodings as blocks, one after the other. -/
def joinBlocks? : List Bytes → Option Bytes
  | [] => some []
  | item :: items => do
    let block ← Bytes.block 2 item
    let rest ← joinBlocks? items
    return block ++ rest

/-- The list of some encodings, unless they are too long for one. -/
def listOf? (items : List Bytes) : Option Bytes := do
  Bytes.block 2 (← joinBlocks? items)

theorem joinBlocks?_cons_eq_some_iff {item bytes : Bytes} {items : List Bytes} :
    joinBlocks? (item :: items) = some bytes ↔
      ∃ block rest, Bytes.block 2 item = some block ∧ joinBlocks? items = some rest ∧
        bytes = block ++ rest := by
  simp only [joinBlocks?, Option.bind_eq_bind, Option.bind_eq_some_iff, pure, Option.some.injEq]
  constructor
  · intro h
    obtain ⟨block, hblock, rest, hrest, rfl⟩ := h
    exact ⟨block, rest, hblock, hrest, rfl⟩
  · intro h
    obtain ⟨block, rest, hblock, hrest, rfl⟩ := h
    exact ⟨block, hblock, rest, hrest, rfl⟩

theorem block_ne_nil {item block : Bytes} (h : Bytes.block 2 item = some block) : block ≠ [] := by
  obtain ⟨-, rfl⟩ := Bytes.block_eq_some_iff.mp h
  simp [Bytes.fixed]

/-- Reading blocks takes one from the front, as long as there is one. -/
theorem blocks?_cons_eq_some_iff {bytes item : Bytes} {items : List Bytes} :
    blocks? bytes = some (item :: items) ↔
      ∃ block rest, Bytes.block 2 item = some block ∧ blocks? rest = some items ∧
        bytes = block ++ rest := by
  rw [blocks?]
  constructor
  · intro h
    split at h
    · cases h
    · simp only [Option.bind_eq_bind, Option.bind_eq_some_iff, Prod.exists] at h
      obtain ⟨content, rest, hblock, h⟩ := h
      obtain ⟨block, hcontent, rfl⟩ := Bytes.block?_eq_some_iff.mp hblock
      split at h
      · obtain ⟨found, hfound, h⟩ := Option.bind_eq_some_iff.mp h
        cases h
        exact ⟨block, rest, hcontent, hfound, rfl⟩
      · cases h
  · intro h
    obtain ⟨block, rest, hblock, hrest, rfl⟩ := h
    have hne : (block ++ rest).isEmpty = false := by
      simp [block_ne_nil hblock]
    have hread : Bytes.block? 2 (block ++ rest) = some (item, rest) :=
      Bytes.block?_eq_some_iff.mpr ⟨block, hblock, rfl⟩
    rw [hne, hread]
    simp [block_ne_nil hblock, hrest]

theorem blocks?_eq_some_nil_iff {bytes : Bytes} : blocks? bytes = some [] ↔ bytes = [] := by
  constructor
  · intro h
    rw [blocks?] at h
    split at h
    · rename_i hempty
      exact List.isEmpty_iff.mp hempty
    · simp only [Option.bind_eq_bind, Option.bind_eq_some_iff, Prod.exists] at h
      obtain ⟨content, rest, -, h⟩ := h
      split at h
      · obtain ⟨found, -, h⟩ := Option.bind_eq_some_iff.mp h
        cases h
      · cases h
  · intro h
    rw [h, blocks?]
    rfl

/-- Blocks are read as they are written, and nothing else is. -/
theorem blocks?_eq_some_iff {bytes : Bytes} {items : List Bytes} :
    blocks? bytes = some items ↔ joinBlocks? items = some bytes := by
  induction items generalizing bytes with
  | nil => rw [blocks?_eq_some_nil_iff, joinBlocks?, Option.some.injEq, eq_comm]
  | cons item items ih => simp only [blocks?_cons_eq_some_iff, joinBlocks?_cons_eq_some_iff, ih]

/-- A list of timestamps is read as it is written, and nothing else is. -/
theorem itemsOf_eq_ok_iff {bytes : Bytes} {items : List Bytes} :
    itemsOf bytes = .ok items ↔ listOf? items = some bytes := by
  have hlist : listOf? items = some bytes ↔
      ∃ blocks, joinBlocks? items = some blocks ∧ Bytes.block 2 blocks = some bytes :=
    Option.bind_eq_some_iff
  simp only [hlist, ← blocks?_eq_some_iff]
  unfold itemsOf
  constructor
  · intro h
    split at h
    · rename_i blocks hblock
      obtain ⟨front, hfront, rfl⟩ := Bytes.block?_eq_some_iff.mp hblock
      rw [List.append_nil]
      split at h
      · rename_i found hfound
        cases h
        exact ⟨blocks, hfound, hfront⟩
      · cases h
    · cases h
  · intro h
    obtain ⟨blocks, hblocks, hbytes⟩ := h
    have hread : Bytes.block? 2 bytes = some (blocks, []) :=
      Bytes.block?_eq_some_iff.mpr ⟨bytes, hbytes, (List.append_nil bytes).symm⟩
    simp only [hread, hblocks]

end Sct

end ChainTrust
