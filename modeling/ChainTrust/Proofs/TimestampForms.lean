import ChainTrust.Proofs.Framing
import Mathlib.Data.Option.Basic
import Mathlib.Logic.Function.Iterate

namespace ChainTrust

namespace Bytes

/-- A content behind its length in two bytes, the most significant one first. -/
def measured (content : Bytes) : Bytes :=
  fixed 2 content.length ++ content

theorem length_measured (content : Bytes) : (measured content).length = content.length + 2 := by
  rw [measured, List.length_append, length_fixed, Nat.add_comm]

theorem block_two_eq_some_iff {content bytes : Bytes} :
    block 2 content = some bytes ↔ content.length ≤ 65535 ∧ bytes = measured content :=
  block_eq_some_iff.trans (and_congr_left fun _ => Nat.lt_succ_iff)

theorem block?_two_eq_some_iff {bytes content rest : Bytes} :
    block? 2 bytes = some (content, rest) ↔
      content.length ≤ 65535 ∧ bytes = measured content ++ rest := by
  simp only [block?_eq_some_iff, block_two_eq_some_iff]
  constructor
  · intro h
    obtain ⟨front, ⟨hfits, rfl⟩, rfl⟩ := h
    exact ⟨hfits, rfl⟩
  · intro h
    obtain ⟨hfits, rfl⟩ := h
    exact ⟨_, ⟨hfits, rfl⟩, rfl⟩

/-- Taking a block from the front leaves less. -/
theorem length_add_two_le_of_block? {bytes content rest : Bytes}
    (h : block? 2 bytes = some (content, rest)) : rest.length + 2 ≤ bytes.length := by
  obtain ⟨-, rfl⟩ := block?_two_eq_some_iff.mp h
  rw [List.length_append, length_measured]
  omega

theorem fixed_one (b : UInt8) : fixed 1 b.toNat = [b] := by
  rw [fixed, UInt8.ofNat_toNat]
  rfl

/-- A word of one byte is that byte. -/
theorem word?_one_eq_some_iff {n : Nat} {bytes rest : Bytes} :
    word? 1 bytes = some (n, rest) ↔ ∃ b : UInt8, n = b.toNat ∧ bytes = b :: rest := by
  rw [word?_eq_some_iff]
  constructor
  · intro h
    obtain ⟨rfl, hn⟩ := h
    exact ⟨UInt8.ofNat n, (UInt8.toNat_ofNat_of_lt' hn).symm, rfl⟩
  · intro h
    obtain ⟨b, rfl, rfl⟩ := h
    rw [fixed_one]
    exact ⟨rfl, b.toNat_lt⟩

/-- A word of eight bytes is a number of 64 bits. -/
theorem word?_eight_eq_some_iff {n : Nat} {bytes rest : Bytes} :
    word? 8 bytes = some (n, rest) ↔
      ∃ w : UInt64, n = w.toNat ∧ bytes = fixed 8 w.toNat ++ rest := by
  rw [word?_eq_some_iff]
  constructor
  · intro h
    obtain ⟨rfl, hn⟩ := h
    have hword : (UInt64.ofNat n).toNat = n := UInt64.toNat_ofNat_of_lt' hn
    exact ⟨UInt64.ofNat n, hword.symm, by rw [hword]⟩
  · intro h
    obtain ⟨w, rfl, rfl⟩ := h
    exact ⟨rfl, w.toNat_lt⟩

end Bytes

namespace Sct

/-- The lengths that there is room for. -/
structure Fits (s : Sct) : Prop where
  logId : s.logId.length = 32
  extensions : s.extensions.length ≤ 65535
  signature : s.signature.length ≤ 65535

instance (s : Sct) : Decidable s.Fits :=
  decidable_of_iff (s.logId.length = 32 ∧ s.extensions.length ≤ 65535 ∧
      s.signature.length ≤ 65535)
    ⟨fun h => ⟨h.1, h.2.1, h.2.2⟩, fun h => ⟨h.logId, h.extensions, h.signature⟩⟩

/-- The fields one after the other, those of no fixed width behind their lengths. -/
def encode (s : Sct) : Bytes :=
  s.version :: (s.logId ++ (Bytes.fixed 8 s.timestamp.toNat ++ (Bytes.measured s.extensions ++
    s.hash :: s.signer :: Bytes.measured s.signature)))

theorem ofBytes?_eq_some_iff {bytes : Bytes} {s : Sct} :
    ofBytes? bytes = some s ↔ s.Fits ∧ bytes = s.encode := by
  simp only [ofBytes?, Option.bind_eq_bind, Option.bind_eq_some_iff, Prod.exists,
    Bytes.word?_one_eq_some_iff, Bytes.word?_eight_eq_some_iff, Bytes.block?_two_eq_some_iff,
    Bytes.split?_eq_some_iff, Option.guard_eq_some', List.isEmpty_iff, pure, Option.some.injEq]
  constructor
  · intro h
    obtain ⟨_, _, ⟨version, rfl, rfl⟩, logId, _, ⟨rfl, hlog⟩, _, _, ⟨timestamp, rfl, rfl⟩,
      extensions, _, ⟨hextensions, rfl⟩, _, _, ⟨hash, rfl, rfl⟩, _, _, ⟨signer, rfl, rfl⟩,
      signature, _, ⟨hsignature, rfl⟩, _, rfl, rfl⟩ := h
    simp only [UInt8.ofNat_toNat, UInt64.ofNat_toNat, List.append_nil]
    exact ⟨⟨hlog, hextensions, hsignature⟩, rfl⟩
  · intro h
    obtain ⟨hs, rfl⟩ := h
    refine ⟨_, _, ⟨s.version, rfl, rfl⟩, s.logId, _, ⟨rfl, hs.logId⟩, _, _, ⟨s.timestamp, rfl, rfl⟩,
      s.extensions, _, ⟨hs.extensions, rfl⟩, _, _, ⟨s.hash, rfl, rfl⟩, _, _, ⟨s.signer, rfl, rfl⟩,
      s.signature, [], ⟨hs.signature, (List.append_nil _).symm⟩, (), rfl, ?_⟩
    simp only [UInt8.ofNat_toNat, UInt64.ofNat_toNat]

theorem ofBytes_eq_ok_iff_encode {bytes : Bytes} {s : Sct} :
    ofBytes bytes = .ok s ↔ s.Fits ∧ bytes = s.encode := by
  rw [← ofBytes?_eq_some_iff]
  unfold ofBytes
  cases ofBytes? bytes <;> simp

theorem ofBytes_eq_error_iff {bytes : Bytes} {e : Error} :
    ofBytes bytes = .error e ↔ e = .badLength ∧ ∀ s, ofBytes bytes ≠ .ok s := by
  unfold ofBytes
  cases ofBytes? bytes <;> simp [eq_comm]

/-- The items of a list, each behind its length. -/
def joined (items : List Bytes) : Bytes :=
  items.flatMap Bytes.measured

theorem length_le_joined {item : Bytes} {items : List Bytes} (h : item ∈ items) :
    item.length + 2 ≤ (joined items).length := by
  obtain ⟨before, after, rfl⟩ := List.append_of_mem h
  rw [joined, List.flatMap_append, List.flatMap_cons, List.length_append, List.length_append,
    Bytes.length_measured]
  omega

theorem joinBlocks?_eq_some_iff {items : List Bytes} {bytes : Bytes} :
    joinBlocks? items = some bytes ↔
      (∀ item ∈ items, item.length ≤ 65535) ∧ bytes = joined items := by
  induction items generalizing bytes with
  | nil => simp [joinBlocks?, joined, eq_comm]
  | cons item items ih =>
    simp only [joinBlocks?_cons_eq_some_iff, Bytes.block_two_eq_some_iff, ih, List.forall_mem_cons]
    constructor
    · intro h
      obtain ⟨_, _, ⟨hitem, rfl⟩, ⟨hitems, rfl⟩, rfl⟩ := h
      exact ⟨⟨hitem, hitems⟩, rfl⟩
    · intro h
      obtain ⟨⟨hitem, hitems⟩, rfl⟩ := h
      exact ⟨_, _, ⟨hitem, rfl⟩, ⟨hitems, rfl⟩, rfl⟩

/-- A list has one form, if its items fit into one. -/
theorem itemsOf_eq_ok_iff_joined {bytes : Bytes} {items : List Bytes} :
    itemsOf bytes = .ok items ↔
      (joined items).length ≤ 65535 ∧ bytes = Bytes.measured (joined items) := by
  rw [itemsOf_eq_ok_iff, listOf?, Option.bind_eq_bind, Option.bind_eq_some_iff]
  simp only [joinBlocks?_eq_some_iff, Bytes.block_two_eq_some_iff]
  constructor
  · intro h
    obtain ⟨_, ⟨-, rfl⟩, hfits, rfl⟩ := h
    exact ⟨hfits, rfl⟩
  · intro h
    obtain ⟨hfits, rfl⟩ := h
    refine ⟨_, ⟨fun item hitem => ?_, rfl⟩, hfits, rfl⟩
    have hlength := length_le_joined hitem
    omega

theorem itemsOf_eq_error_iff {bytes : Bytes} {e : Error} :
    itemsOf bytes = .error e ↔ e = .badLength ∧ ∀ items, itemsOf bytes ≠ .ok items := by
  unfold itemsOf
  split
  · split <;> simp [eq_comm]
  · simp [eq_comm]

/-- How far the reading of the items has come. -/
inductive Progress where
  | reading (found : List Bytes) (rest : Bytes)
  | finished (found : List Bytes)
  | stuck
deriving DecidableEq, Repr

namespace Progress

/-- Takes the next item, unless there is nothing left or nothing that could be one. -/
def turn : Progress → Progress
  | reading found rest =>
    if rest.isEmpty then finished found
    else
      match Bytes.block? 2 rest with
      | some (item, rest) => reading (found ++ [item]) rest
      | none => stuck
  | finished found => finished found
  | stuck => stuck

/-- Where the reading ends that has found some items and still comes across others. -/
def ending (found : List Bytes) : Option (List Bytes) → Progress
  | some items => finished (found ++ items)
  | none => stuck

theorem ending_map_cons (found : List Bytes) (item : Bytes) (others : Option (List Bytes)) :
    ending found (others.map (item :: ·)) = ending (found ++ [item]) others := by
  cases others <;> simp [ending]

end Progress

/-- Reading goes on behind the first item, which is always shorter. -/
theorem blocks?_of_ne_nil {bytes : Bytes} (h : bytes ≠ []) :
    blocks? bytes =
      (Bytes.block? 2 bytes).bind fun (item, rest) => (blocks? rest).map (item :: ·) := by
  have hempty : bytes.isEmpty = false := by simpa using h
  rw [blocks?, hempty]
  cases hblock : Bytes.block? 2 bytes with
  | none => rfl
  | some block =>
    obtain ⟨item, rest⟩ := block
    have hshorter := Bytes.length_add_two_le_of_block? hblock
    have hlt : rest.length < bytes.length := by omega
    simp only [Bool.false_eq_true, if_false, Option.bind_eq_bind, Option.bind_some, hlt, if_true]
    cases blocks? rest <;> rfl

namespace Progress

/-- Each turn takes two bytes at least, so about half as many turns as bytes are enough. -/
theorem iterate_turn_reading (found : List Bytes) (bytes : Bytes) :
    ∃ n ≤ bytes.length / 2 + 1, turn^[n] (reading found bytes) = ending found (blocks? bytes) := by
  by_cases hnil : bytes = []
  · subst hnil
    refine ⟨1, Nat.le_refl 1, ?_⟩
    rw [blocks?_eq_some_nil_iff.mpr rfl]
    simp [turn, ending]
  · have hempty : bytes.isEmpty = false := by simpa using hnil
    rw [blocks?_of_ne_nil hnil]
    cases hblock : Bytes.block? 2 bytes with
    | none =>
      refine ⟨1, Nat.le_add_left 1 _, ?_⟩
      simp [turn, hempty, hblock, ending]
    | some block =>
      obtain ⟨item, rest⟩ := block
      have hshorter := Bytes.length_add_two_le_of_block? hblock
      obtain ⟨n, hn, hends⟩ := iterate_turn_reading (found ++ [item]) rest
      have hturn : turn (reading found bytes) = reading (found ++ [item]) rest := by
        simp [turn, hempty, hblock]
      refine ⟨n + 1, by omega, ?_⟩
      rw [Function.iterate_succ_apply, hturn, hends, Option.bind_some, ending_map_cons]
termination_by bytes.length
decreasing_by omega

end Progress

/-- A timestamp is read from its own form and a list from its own. All else is refused for its
length, and the reading of a list ends. -/
theorem reads_exactly_written :
    (∀ bytes s, ofBytes bytes = .ok s ↔ s.Fits ∧ bytes = s.encode) ∧
    (∀ s, ofBytes s.encode = .ok s ↔ s.Fits) ∧
    (∀ bytes others s, ofBytes bytes = .ok s → ofBytes others = .ok s → bytes = others) ∧
    (∀ bytes e, ofBytes bytes = .error e ↔
      e = .badLength ∧ ∀ s : Sct, s.Fits → bytes ≠ s.encode) ∧
    (∀ bytes items, itemsOf bytes = .ok items ↔
      (joined items).length ≤ 65535 ∧ bytes = Bytes.measured (joined items)) ∧
    (∀ bytes e, itemsOf bytes = .error e ↔ e = .badLength ∧ ∀ items,
      (joined items).length ≤ 65535 → bytes ≠ Bytes.measured (joined items)) ∧
    (∀ bytes, ∃ n ≤ bytes.length / 2 + 1,
      Progress.turn^[n] (.reading [] bytes) = .ending [] (blocks? bytes)) := by
  refine ⟨fun _ _ => ofBytes_eq_ok_iff_encode, fun s => ?_, fun bytes others s h ho => ?_,
    fun bytes e => ?_, fun _ _ => itemsOf_eq_ok_iff_joined, fun bytes e => ?_,
    Progress.iterate_turn_reading []⟩
  · rw [ofBytes_eq_ok_iff_encode, and_iff_left rfl]
  · rw [(ofBytes_eq_ok_iff_encode.mp h).2, (ofBytes_eq_ok_iff_encode.mp ho).2]
  · simp only [ofBytes_eq_error_iff, ne_eq, ofBytes_eq_ok_iff_encode, not_and]
  · simp only [itemsOf_eq_error_iff, ne_eq, itemsOf_eq_ok_iff_joined, not_and]

/-- A timestamp without extensions, and a list of it alone. -/
theorem reads_exactly_written_alone :
    let s : Sct := ⟨0, List.replicate 32 1, 1000, [], 4, 3, [0xAA, 0xBB, 0xCC]⟩
    s.Fits ∧ ofBytes s.encode = .ok s ∧
      itemsOf (Bytes.measured (joined [s.encode])) = .ok [s.encode] :=
  ⟨by decide, (reads_exactly_written.2.1 _).mpr (by decide),
    (reads_exactly_written.2.2.2.2.1 _ _).mpr ⟨by decide, rfl⟩⟩

end Sct
end ChainTrust
