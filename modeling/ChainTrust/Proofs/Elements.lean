import ChainTrust.Der.Reader
import ChainTrust.Proofs.Framing
import Mathlib.Data.Option.Basic

namespace ChainTrust

namespace Bytes

theorem ofNat_zero : ofNat 0 = [] := by
  rw [ofNat, if_pos rfl]

theorem ofNat_of_ne_zero {n : Nat} (h : n ≠ 0) : ofNat n = ofNat (n / 256) ++ [UInt8.ofNat n] := by
  rw [ofNat, if_neg h]

theorem toNat_ofNat (n : Nat) : toNat (ofNat n) = n := by
  induction n using Nat.strongRecOn with
  | ind n ih =>
    by_cases h : n = 0
    · rw [h, ofNat_zero]
      rfl
    · have hlast : (UInt8.ofNat n).toNat = n % 256 := UInt8.toNat_ofNat'
      rw [ofNat_of_ne_zero h, toNat_concat, ih (n / 256) (by omega), hlast]
      omega

theorem head?_of_concat {bytes : Bytes} {b : UInt8} (h : (bytes ++ [b]).head? ≠ some 0) :
    bytes.head? ≠ some 0 := by
  intro hzero
  obtain ⟨rest, rfl⟩ := List.head?_eq_some_iff.mp hzero
  exact h rfl

theorem toNat_pos {bytes : Bytes} (h : bytes ≠ []) (hhead : bytes.head? ≠ some 0) :
    0 < toNat bytes := by
  induction bytes using List.reverseRecOn with
  | nil => exact absurd rfl h
  | append_singleton bytes b ih =>
    rw [toNat_concat]
    by_cases hbytes : bytes = []
    · subst hbytes
      have hb : b ≠ 0 := fun hzero => hhead (congrArg some hzero)
      have hpos : b.toNat ≠ 0 := fun hzero => hb (UInt8.toNat_inj.mp hzero)
      omega
    · have hpos := ih hbytes (head?_of_concat hhead)
      omega

/-- Bytes without a zero in front are those of their number. -/
theorem ofNat_toNat {bytes : Bytes} (h : bytes.head? ≠ some 0) : ofNat (toNat bytes) = bytes := by
  induction bytes using List.reverseRecOn with
  | nil => exact ofNat_zero
  | append_singleton bytes b ih =>
    have hpos := toNat_pos (by simp) h
    have hb : b.toNat < 256 := b.toNat_lt
    have hdiv : (toNat bytes * 256 + b.toNat) / 256 = toNat bytes := by omega
    have hlast : UInt8.ofNat (toNat bytes * 256 + b.toNat) = b := by
      apply UInt8.toNat_inj.mp
      rw [UInt8.toNat_ofNat']
      omega
    rw [ofNat_of_ne_zero (by omega), toNat_concat, hdiv, ih (head?_of_concat h), hlast]

theorem head?_ofNat (n : Nat) : (ofNat n).head? ≠ some 0 := by
  induction n using Nat.strongRecOn with
  | ind n ih =>
    by_cases h : n = 0
    · rw [h, ofNat_zero]
      nofun
    · rw [ofNat_of_ne_zero h]
      by_cases hdiv : n / 256 = 0
      · rw [hdiv, ofNat_zero]
        intro hzero
        have hlast : (UInt8.ofNat n).toNat = n % 256 := UInt8.toNat_ofNat'
        rw [Option.some.inj hzero] at hlast
        change 0 = n % 256 at hlast
        omega
      · have hfront : ofNat (n / 256) ≠ [] := by
          rw [ofNat_of_ne_zero hdiv]
          simp
        obtain ⟨d, ds, hds⟩ := List.exists_cons_of_ne_nil hfront
        have hhead := ih (n / 256) (by omega)
        rw [hds] at hhead ⊢
        exact hhead

theorem length_ofNat_mono {m n : Nat} (h : m ≤ n) : (ofNat m).length ≤ (ofNat n).length := by
  induction n using Nat.strongRecOn generalizing m with
  | ind n ih =>
    by_cases hm : m = 0
    · rw [hm, ofNat_zero]
      exact Nat.zero_le _
    · have hdiv := ih (n / 256) (by omega) (Nat.div_le_div_right (c := 256) h)
      rw [ofNat_of_ne_zero hm, ofNat_of_ne_zero (by omega : n ≠ 0)]
      simpa using hdiv

theorem length_ofNat_le {width n : Nat} (h : n < capacity width) : (ofNat n).length ≤ width := by
  induction width generalizing n with
  | zero =>
    rw [Nat.lt_one_iff.mp h, ofNat_zero]
    exact Nat.le_refl 0
  | succ width ih =>
    by_cases hn : n = 0
    · rw [hn, ofNat_zero]
      exact Nat.zero_le _
    · rw [ofNat_of_ne_zero hn, List.length_append]
      exact Nat.succ_le_succ (ih (Nat.div_lt_of_lt_mul h))

theorem capacity_mono {m n : Nat} (h : m ≤ n) : capacity m ≤ capacity n := by
  induction h with
  | refl => exact Nat.le_refl _
  | step _ ih => exact Nat.le_trans ih (Nat.le_mul_of_pos_left _ (by decide))

end Bytes

namespace Der

/-- Lengths of four bytes. -/
def lengthBound : Nat := Bytes.capacity 4

theorem lengthBytes_of_lt {n : Nat} (h : n < 128) : lengthBytes n = [UInt8.ofNat n] :=
  if_pos h

theorem lengthBytes_of_le {n : Nat} (h : 128 ≤ n) :
    lengthBytes n = UInt8.ofNat (128 + (Bytes.ofNat n).length) :: Bytes.ofNat n :=
  if_neg (Nat.not_lt.mpr h)

theorem length_lengthBytes_mono {m n : Nat} (h : m ≤ n) :
    (lengthBytes m).length ≤ (lengthBytes n).length := by
  by_cases hm : m < 128
  · rw [lengthBytes_of_lt hm]
    unfold lengthBytes
    split <;> simp
  · have hdigits := Bytes.length_ofNat_mono h
    rw [lengthBytes_of_le (by omega), lengthBytes_of_le (by omega)]
    simpa using hdigits

theorem length_element (tag : UInt8) (content : Bytes) :
    (element tag content).length = 1 + (lengthBytes content.length).length + content.length := by
  simp only [element, List.length_cons, List.length_append]
  omega

theorem length_element_mono (tag : UInt8) {c d : Bytes} (h : c.length ≤ d.length) :
    (element tag c).length ≤ (element tag d).length := by
  have hlength := length_lengthBytes_mono h
  rw [length_element, length_element]
  omega

theorem element_ne_nil (tag : UInt8) (content : Bytes) : element tag content ≠ [] := by
  simp [element]

namespace Reader

variable {α β : Type}

theorem bind_eq_some_iff {r : Reader α} {f : α → Reader β} {s rest : Bytes} {b : β} :
    (r >>= f) s = some (b, rest) ↔ ∃ a mid, r s = some (a, mid) ∧ f a mid = some (b, rest) := by
  change (r s).bind (fun p => f p.1 p.2) = some (b, rest) ↔ _
  rw [Option.bind_eq_some_iff]
  simp only [Prod.exists]

theorem pure_eq_some_iff {a b : α} {s rest : Bytes} :
    (pure a : Reader α) s = some (b, rest) ↔ a = b ∧ s = rest := by
  change some (a, s) = some (b, rest) ↔ _
  rw [Option.some.injEq, Prod.mk.injEq]

theorem guard_eq_some_iff {p : Prop} [Decidable p] {s rest : Bytes} {u : Unit} :
    (guard p : Reader Unit) s = some (u, rest) ↔ p ∧ s = rest := by
  by_cases h : p
  · rw [guard, if_pos h, pure_eq_some_iff]
    simp [h]
  · rw [guard, if_neg h]
    change none = some (u, rest) ↔ _
    simp [h]

theorem lift_eq_some_iff {o : Option α} {s rest : Bytes} {a : α} :
    lift o s = some (a, rest) ↔ o = some a ∧ s = rest := by
  simp only [lift, Option.map_eq_some_iff, Prod.mk.injEq]
  constructor
  · rintro ⟨a', ho, rfl, rfl⟩
    exact ⟨ho, rfl⟩
  · rintro ⟨ho, rfl⟩
    exact ⟨a, ho, rfl, rfl⟩

theorem lift_map (f : α → β) (o : Option α) : lift (o.map f) = do return f (← lift o) := by
  cases o <;> rfl

theorem lift_filter (o : Option α) (p : α → Bool) :
    lift (o.filter p) = do
      let a ← lift o
      guard (p a)
      return a := by
  cases o with
  | none => rfl
  | some a =>
    change lift (if p a = true then some a else none) = (do guard (p a); return a)
    by_cases h : p a = true
    · rw [if_pos h, guard, if_pos h]
      rfl
    · rw [if_neg h, guard, if_neg h]
      rfl

theorem byte_eq_some_iff {s rest : Bytes} {b : UInt8} : byte s = some (b, rest) ↔ s = b :: rest := by
  cases s <;> simp [byte]

theorem take_eq_some_iff {n : Nat} {s front rest : Bytes} :
    take n s = some (front, rest) ↔ s = front ++ rest ∧ front.length = n :=
  Bytes.split?_eq_some_iff

theorem all_eq_some_iff {r : Reader α} {content : Bytes} {a : α} :
    all r content = some a ↔ r content = some (a, []) := by
  unfold all
  split
  · rename_i b h
    simp [h]
  · rename_i h
    constructor
    · nofun
    · intro hr
      exact absurd hr (h a)

theorem tag_eq_some_iff {s rest : Bytes} {t : UInt8} :
    tag s = some (t, rest) ↔ isTag t = true ∧ s = t :: rest := by
  simp only [tag, bind_eq_some_iff, guard_eq_some_iff, pure_eq_some_iff, byte_eq_some_iff]
  constructor
  · rintro ⟨b, mid, rfl, u, mid', ⟨htag, rfl⟩, rfl, rfl⟩
    exact ⟨htag, rfl⟩
  · rintro ⟨htag, rfl⟩
    exact ⟨t, rest, rfl, (), rest, ⟨htag, rfl⟩, rfl, rfl⟩

/-- The byte in front of a length of one to four bytes. -/
theorem countByte_spec : ∀ k < 5, 0 < k →
    ¬UInt8.ofNat (128 + k) < 0x80 ∧ 0x81 ≤ UInt8.ofNat (128 + k) ∧ UInt8.ofNat (128 + k) ≤ 0x84 ∧
      (UInt8.ofNat (128 + k)).toNat - 0x80 = k := by
  decide

theorem length_lengthBytes {n : Nat} (h : n < lengthBound) (rest : Bytes) :
    length (lengthBytes n ++ rest) = some (n, rest) := by
  simp only [length, bind_eq_some_iff, byte_eq_some_iff]
  by_cases hn : n < 128
  · have hbyte : (UInt8.ofNat n).toNat = n := UInt8.toNat_ofNat_of_lt' (by change n < 256; omega)
    have hb : UInt8.ofNat n < 0x80 := by
      rw [UInt8.lt_iff_toNat_lt, hbyte]
      exact hn
    refine ⟨UInt8.ofNat n, rest, by rw [lengthBytes_of_lt hn, List.singleton_append], ?_⟩
    rw [if_pos hb, hbyte]
    rfl
  · have hn' : 128 ≤ n := Nat.not_lt.mp hn
    have hwidth : (Bytes.ofNat n).length < 5 := Nat.lt_succ_of_le (Bytes.length_ofNat_le h)
    have hpos : 0 < (Bytes.ofNat n).length := by
      rw [Bytes.ofNat_of_ne_zero (by omega)]
      simp
    obtain ⟨hlong, hlow, hhigh, hcount⟩ := countByte_spec _ hwidth hpos
    refine ⟨_, Bytes.ofNat n ++ rest, by rw [lengthBytes_of_le hn', List.cons_append], ?_⟩
    rw [if_neg hlong, hcount]
    simp only [bind_eq_some_iff, guard_eq_some_iff, pure_eq_some_iff, take_eq_some_iff,
      Bool.and_eq_true, decide_eq_true_eq, bne_iff_ne]
    refine ⟨(), _, ⟨⟨hlow, hhigh⟩, rfl⟩, Bytes.ofNat n, rest, ⟨rfl, rfl⟩, (), rest, ?_,
      Bytes.toNat_ofNat n, rfl⟩
    rw [Bytes.toNat_ofNat]
    exact ⟨⟨hn', Bytes.head?_ofNat n⟩, rfl⟩

/-- A length is read from its one form. -/
theorem length_eq_some_iff {s rest : Bytes} {n : Nat} :
    length s = some (n, rest) ↔ n < lengthBound ∧ s = lengthBytes n ++ rest := by
  constructor
  · intro h
    simp only [length, bind_eq_some_iff, byte_eq_some_iff] at h
    obtain ⟨b, mid, rfl, h⟩ := h
    split at h
    · rename_i hb
      obtain ⟨rfl, rfl⟩ := pure_eq_some_iff.mp h
      have hlt : b.toNat < 128 := UInt8.lt_iff_toNat_lt.mp hb
      refine ⟨Nat.lt_trans hlt (by decide), ?_⟩
      rw [lengthBytes_of_lt hlt, UInt8.ofNat_toNat, List.singleton_append]
    · simp only [bind_eq_some_iff, guard_eq_some_iff, pure_eq_some_iff, take_eq_some_iff,
        Bool.and_eq_true, decide_eq_true_eq, bne_iff_ne] at h
      obtain ⟨_, _, ⟨⟨hlow, hhigh⟩, rfl⟩, digits, mid, ⟨rfl, hcount⟩, _, _,
        ⟨⟨hlarge, hhead⟩, rfl⟩, rfl, rfl⟩ := h
      have hlow' : 129 ≤ b.toNat := UInt8.le_iff_toNat_le.mp hlow
      have hhigh' : b.toNat ≤ 132 := UInt8.le_iff_toNat_le.mp hhigh
      change digits.length = b.toNat - 128 at hcount
      have hwidth : digits.length ≤ 4 := by omega
      have hb : UInt8.ofNat (128 + digits.length) = b := by
        rw [hcount, Nat.add_sub_cancel' (by omega), UInt8.ofNat_toNat]
      refine ⟨Nat.lt_of_lt_of_le (Bytes.toNat_lt_capacity digits) (Bytes.capacity_mono hwidth), ?_⟩
      rw [lengthBytes_of_le hlarge, Bytes.ofNat_toNat hhead, hb, List.cons_append]
  · rintro ⟨hbound, rfl⟩
    exact length_lengthBytes hbound rest

/-- An element is read from what is written for it, and from nothing else. -/
theorem anyElement_eq_some_iff {s rest : Bytes} {t : UInt8} {c : Bytes} :
    anyElement s = some ((t, c), rest) ↔
      isTag t = true ∧ c.length < lengthBound ∧ s = element t c ++ rest := by
  simp only [anyElement, bind_eq_some_iff, pure_eq_some_iff, tag_eq_some_iff, length_eq_some_iff,
    take_eq_some_iff, Prod.mk.injEq, element]
  constructor
  · rintro ⟨_, _, ⟨htag, rfl⟩, _, _, ⟨hbound, rfl⟩, _, _, ⟨rfl, rfl⟩, ⟨rfl, rfl⟩, rfl⟩
    exact ⟨htag, hbound, by simp⟩
  · rintro ⟨htag, hbound, rfl⟩
    exact ⟨t, _, ⟨htag, by simp⟩, c.length, c ++ rest, ⟨hbound, rfl⟩, c, rest, ⟨rfl, rfl⟩, ⟨rfl, rfl⟩, rfl⟩

theorem content_eq_some_iff {s rest : Bytes} {t : UInt8} {c : Bytes} :
    content t s = some (c, rest) ↔
      isTag t = true ∧ c.length < lengthBound ∧ s = element t c ++ rest := by
  simp only [content, bind_eq_some_iff, pure_eq_some_iff, guard_eq_some_iff, beq_iff_eq]
  constructor
  · rintro ⟨⟨t', c'⟩, mid, helement, _, _, ⟨rfl, rfl⟩, rfl, rfl⟩
    exact anyElement_eq_some_iff.mp helement
  · intro h
    exact ⟨(t, c), rest, anyElement_eq_some_iff.mpr h, (), rest, ⟨rfl, rfl⟩, rfl, rfl⟩

end Reader
end Der
end ChainTrust
