import ChainTrust.Proofs.LetterCase
import ChainTrust.Text.Hex

namespace ChainTrust

namespace Text

set_option maxRecDepth 8000 in
theorem lowerRows_tail_imagesBeyond :
    lowerRows.tail.all (fun row => 102 < (rowImages row).1) = true :=
  rfl

/-- What has one of the first letters for its lower case is a letter of ASCII. The Kelvin sign has
a letter of ASCII too, but a later one. -/
theorem lt_of_mem_lowerChar {c d : Char} (h : d ∈ lowerChar c) (hd : d.toNat ≤ 102) :
    c.toNat < 128 := by
  unfold lowerChar at h
  split at h
  · have hlate : ∀ d ∈ ['i', '\u0307'], 102 < d.toNat := forall_mem_of_all rfl
    exact absurd (hlate d h) (Nat.not_lt.mpr hd)
  · obtain rfl := List.mem_singleton.mp h
    unfold lowerCodePoint at hd
    cases himage : lowerRows.image? c.toNat with
    | none =>
      rw [himage, Option.getD_none, Char.ofNat_toNat] at hd
      omega
    | some m =>
      rw [himage, Option.getD_some, toNat_ofNat (lowerCodePoint_of_image? himage).2.2.2] at hd
      obtain ⟨row, hrow, hfirst, hlast, -, rfl⟩ := image?_eq_some himage
      have hrows : lowerRows = (65, 90, 1, 32) :: lowerRows.tail := rfl
      rw [hrows] at hrow
      rcases List.mem_cons.mp hrow with rfl | hrow
      · exact Nat.lt_of_le_of_lt hlast (by decide)
      · have hbeyond := of_decide_eq_true
          (List.all_eq_true.mp lowerRows_tail_imagesBeyond row hrow)
        unfold rowImages at hbeyond
        omega

theorem mem_ascii_of_lowerAfter {before s : List Char}
    (h : ∀ d ∈ lowerAfter before s, d.toNat ≤ 102) : ∀ c ∈ s, c ∈ ascii := by
  induction s generalizing before with
  | nil => exact fun c hc => absurd hc List.not_mem_nil
  | cons c rest ih =>
    rw [lowerAfter] at h
    have hrest := ih fun d hd => h d (List.mem_append_right _ hd)
    refine List.forall_mem_cons.mpr ⟨mem_ascii ?_, hrest⟩
    have hfirst := fun d hd => h d (List.mem_append_left _ hd)
    split at hfirst
    · -- neither form of the small sigma is among the first letters
      have hsigma := hfirst _ (List.mem_singleton_self _)
      unfold lowerSigma at hsigma
      split at hsigma <;> exact absurd hsigma (by decide)
    · obtain ⟨d, hd⟩ : ∃ d, d ∈ lowerChar c := by
        unfold lowerChar
        split <;> exact ⟨_, List.mem_cons_self⟩
      exact lt_of_mem_lowerChar hd (hfirst d hd)

theorem lt_of_toUpper {c : Char} (h : c.toUpper.toNat < 128) : c.toNat < 128 := by
  unfold Char.toUpper at h
  split at h
  · rename_i hletter
    exact Nat.lt_of_le_of_lt hletter.2 (by decide)
  · exact h

theorem toUpper_toLower (c : Char) : c.toLower.toUpper = c.toUpper :=
  toLower_congr (forall_mem_of_all rfl) c

end Text

namespace Hex

open Text

/-- The digits, of either letter case. -/
def IsDigit (c : Char) : Prop :=
  ('0' ≤ c ∧ c ≤ '9') ∨ ('A' ≤ c ∧ c ≤ 'F') ∨ ('a' ≤ c ∧ c ≤ 'f')

instance : DecidablePred IsDigit :=
  fun _ => inferInstanceAs (Decidable (_ ∨ _ ∨ _))

theorem digits_cons (digit : Nat → Char) (b : UInt8) (bytes : Bytes) :
    digits digit (b :: bytes) =
      digit (b.toNat / 16) :: digit (b.toNat % 16) :: digits digit bytes :=
  rfl

/-- Bytes are written in digits below sixteen alone. -/
theorem digits_map {f : Char → Char} {digit other : Nat → Char}
    (h : ∀ n < 16, f (digit n) = other n) (bytes : Bytes) :
    (digits digit bytes).map f = digits other bytes := by
  induction bytes with
  | nil => rfl
  | cons b bytes ih =>
    have hb := b.toNat_lt
    rw [digits_cons, digits_cons, List.map_cons, List.map_cons, h _ (by omega), h _ (by omega), ih]

theorem exists_of_mem_digits {digit : Nat → Char} {bytes : Bytes} {c : Char}
    (h : c ∈ digits digit bytes) : ∃ n < 16, digit n = c := by
  obtain ⟨b, -, hc⟩ := List.mem_flatMap.mp h
  have hb := b.toNat_lt
  rcases List.mem_cons.mp hc with rfl | hc
  · exact ⟨_, by omega, rfl⟩
  · exact ⟨_, by omega, (List.mem_singleton.mp hc).symm⟩

theorem length_digits (digit : Nat → Char) (bytes : Bytes) :
    (digits digit bytes).length = 2 * bytes.length := by
  induction bytes with
  | nil => rfl
  | cons b bytes ih =>
    rw [digits_cons, List.length_cons, List.length_cons, List.length_cons, ih]
    omega

/-- Two digits are those of the byte that they give. -/
theorem digits_cons_ofNat {digit : Nat → Char} {m n : Nat} (hm : m < 16) (hn : n < 16)
    (bytes : Bytes) :
    digits digit (UInt8.ofNat (m * 16 + n) :: bytes) =
      digit m :: digit n :: digits digit bytes := by
  have hbyte : (UInt8.ofNat (m * 16 + n)).toNat = m * 16 + n :=
    UInt8.toNat_ofNat_of_lt' (by rw [UInt8.size]; omega)
  have hhigh : (m * 16 + n) / 16 = m := by omega
  have hlow : (m * 16 + n) % 16 = n := by omega
  rw [digits_cons, hbyte, hhigh, hlow]

theorem value?_eq_some_iff {c : Char} {n : Nat} :
    value? c = some n ↔ n < 16 ∧ lowerDigit n = c := by
  constructor
  · intro h
    have hascii : ∀ c ∈ ascii, ∀ n ∈ value? c, n < 16 ∧ lowerDigit n = c :=
      forall_mem_of_all (by decide +kernel)
    refine hascii c (mem_ascii ?_) n h
    unfold value? at h
    split at h
    · rename_i hc
      simp only [Bool.and_eq_true, decide_eq_true_eq, Char.le_def] at hc
      exact Nat.lt_of_le_of_lt hc.2 (by decide)
    · split at h
      · rename_i hc
        simp only [Bool.and_eq_true, decide_eq_true_eq, Char.le_def] at hc
        exact Nat.lt_of_le_of_lt hc.2 (by decide)
      · cases h
  · intro h
    obtain ⟨hn, rfl⟩ := h
    have hall : ∀ n < 16, value? (lowerDigit n) = some n := by decide
    exact hall n hn

/-- Only what is written for some bytes is read as these. -/
theorem bytes?_eq_some_iff {s : List Char} {bytes : Bytes} :
    bytes? s = some bytes ↔ s = digits lowerDigit bytes := by
  constructor
  · intro h
    fun_induction bytes? s generalizing bytes with
    | case1 =>
      cases h
      rfl
    | case2 => cases h
    | case3 a b rest ih =>
      obtain ⟨m, hm, h⟩ := Option.bind_eq_some_iff.mp h
      obtain ⟨n, hn, h⟩ := Option.bind_eq_some_iff.mp h
      obtain ⟨tail, htail, h⟩ := Option.bind_eq_some_iff.mp h
      cases h
      obtain ⟨hm16, rfl⟩ := value?_eq_some_iff.mp hm
      obtain ⟨hn16, rfl⟩ := value?_eq_some_iff.mp hn
      rw [digits_cons_ofNat hm16 hn16, ← ih htail]
  · rintro rfl
    induction bytes with
    | nil => rfl
    | cons b bytes ih =>
      have hb := b.toNat_lt
      have hhigh := value?_eq_some_iff.mpr ⟨show b.toNat / 16 < 16 by omega, rfl⟩
      have hlow := value?_eq_some_iff.mpr ⟨show b.toNat % 16 < 16 by omega, rfl⟩
      have hbyte : b.toNat / 16 * 16 + b.toNat % 16 = b.toNat := by omega
      rw [digits_cons, bytes?, hhigh, hlow, ih]
      simp only [Option.bind_eq_bind, Option.bind_some, Option.pure_def, hbyte, UInt8.ofNat_toNat]

/-- Up to letter case, the lower case of a text is made of digits exactly if the text is. -/
theorem lower_eq_digits_iff {s : List Char} {bytes : Bytes} :
    Text.lower s = digits lowerDigit bytes ↔ s.map Char.toUpper = digits upperDigit bytes := by
  constructor
  · intro h
    have hle : ∀ n < 16, (lowerDigit n).toNat ≤ 102 := by decide
    have hfirst : ∀ d ∈ Text.lower s, d.toNat ≤ 102 := by
      intro d hd
      rw [h] at hd
      obtain ⟨n, hn, rfl⟩ := exists_of_mem_digits hd
      exact hle n hn
    have hascii := mem_ascii_of_lowerAfter hfirst
    rw [Text.lower, lowerAfter_of_ascii [] hascii] at h
    calc s.map Char.toUpper = (s.map Char.toLower).map Char.toUpper := by
          rw [List.map_map]
          exact List.map_congr_left fun c _ => (toUpper_toLower c).symm
      _ = (digits lowerDigit bytes).map Char.toUpper := by rw [h]
      _ = digits upperDigit bytes := digits_map (by decide) bytes
  · intro h
    have hascii : ∀ c ∈ s, c ∈ ascii := by
      intro c hc
      have hupper : c.toUpper ∈ digits upperDigit bytes := h ▸ List.mem_map_of_mem hc
      obtain ⟨n, hn, hdigit⟩ := exists_of_mem_digits hupper
      have hlt : ∀ n < 16, (upperDigit n).toNat < 128 := by decide
      exact mem_ascii (lt_of_toUpper (hdigit ▸ hlt n hn))
    have hcase : ∀ c ∈ ascii, c.toUpper.toLower = c.toLower := forall_mem_of_all rfl
    rw [Text.lower, lowerAfter_of_ascii [] hascii]
    calc s.map Char.toLower = (s.map Char.toUpper).map Char.toLower := by
          rw [List.map_map]
          exact List.map_congr_left fun c hc => (hcase c (hascii c hc)).symm
      _ = (digits upperDigit bytes).map Char.toLower := by rw [h]
      _ = digits lowerDigit bytes := digits_map (by decide) bytes

/-- A text is read as the bytes that its digits write in capital letters, and as no others. -/
theorem decode_eq_ok_iff {s : String} {bytes : Bytes} :
    decode s = .ok bytes ↔ String.ofList ((clean s.toList).map Char.toUpper) = upper bytes := by
  have hdecode : decode s = .ok bytes ↔ bytes? (Text.lower (clean s.toList)) = some bytes := by
    unfold decode
    split <;> simp [*]
  rw [hdecode, bytes?_eq_some_iff, lower_eq_digits_iff, upper, String.ofList_inj]

theorem decode_eq_error {s : String} {e : Error} (h : decode s = .error e) :
    e = .invalidOption ("not hex: " ++ s) := by
  unfold decode at h
  split at h
  · cases h
  · exact (Except.error.inj h).symm

theorem isDigit_of_toUpper {c : Char} {n : Nat} (hn : n < 16) (h : upperDigit n = c.toUpper) :
    IsDigit c := by
  have hlt : ∀ n < 16, (upperDigit n).toNat < 128 := by decide
  have hall : ∀ c ∈ ascii, (∃ n < 16, upperDigit n = c.toUpper) → IsDigit c :=
    forall_mem_of_all (by decide +kernel)
  exact hall c (mem_ascii (lt_of_toUpper (h ▸ hlt n hn))) ⟨n, hn, h⟩

theorem IsDigit.exists_upperDigit {c : Char} (h : IsDigit c) :
    ∃ n < 16, upperDigit n = c.toUpper := by
  have hascii : c ∈ ascii := by
    refine mem_ascii ?_
    simp only [IsDigit, Char.le_def] at h
    rcases h with h | h | h
    · exact Nat.lt_of_le_of_lt h.2 (by decide)
    · exact Nat.lt_of_le_of_lt h.2 (by decide)
    · exact Nat.lt_of_le_of_lt h.2 (by decide)
  have hall : ∀ c ∈ ascii, IsDigit c → ∃ n < 16, upperDigit n = c.toUpper :=
    forall_mem_of_all (by decide +kernel)
  exact hall c hascii h

/-- An even number of digits writes some bytes. -/
theorem exists_digits_of_isDigit : ∀ {s : List Char}, s.length % 2 = 0 → (∀ c ∈ s, IsDigit c) →
    ∃ bytes, s.map Char.toUpper = digits upperDigit bytes
  | [], _, _ => ⟨[], rfl⟩
  | [_], h, _ => by cases h
  | a :: b :: rest, heven, h => by
    obtain ⟨ha, h⟩ := List.forall_mem_cons.mp h
    obtain ⟨hb, h⟩ := List.forall_mem_cons.mp h
    obtain ⟨m, hm, hma⟩ := ha.exists_upperDigit
    obtain ⟨n, hn, hnb⟩ := hb.exists_upperDigit
    have hrest : rest.length % 2 = 0 := by
      simp only [List.length_cons] at heven
      omega
    obtain ⟨bytes, hbytes⟩ := exists_digits_of_isDigit hrest h
    refine ⟨UInt8.ofNat (m * 16 + n) :: bytes, ?_⟩
    rw [digits_cons_ofNat hm hn, List.map_cons, List.map_cons, hma, hnb, hbytes]

theorem exists_digits_iff {s : List Char} :
    (∃ bytes, s.map Char.toUpper = digits upperDigit bytes) ↔
      s.length % 2 = 0 ∧ ∀ c ∈ s, IsDigit c := by
  constructor
  · intro h
    obtain ⟨bytes, hs⟩ := h
    have hlength := congrArg List.length hs
    rw [List.length_map, length_digits] at hlength
    refine ⟨by omega, fun c hc => ?_⟩
    obtain ⟨n, hn, hdigit⟩ := exists_of_mem_digits (hs ▸ List.mem_map_of_mem hc)
    exact isDigit_of_toUpper hn hdigit
  · intro h
    exact exists_digits_of_isDigit h.1 h.2

theorem exists_decode_iff {s : String} :
    (∃ bytes, decode s = .ok bytes) ↔
      (clean s.toList).length % 2 = 0 ∧ ∀ c ∈ clean s.toList, IsDigit c := by
  simp only [decode_eq_ok_iff, upper, String.ofList_inj, exists_digits_iff]

/-- Digits are neither blanks nor colons, and a capital letter is one already. -/
theorem clean_map_toUpper_upper (bytes : Bytes) :
    String.ofList ((clean (upper bytes).toList).map Char.toUpper) = upper bytes := by
  have hkept : ∀ n < 16, (!isBlank (upperDigit n) && upperDigit n != ':') = true := by
    decide +kernel
  have hclean : clean (upper bytes).toList = digits upperDigit bytes := by
    rw [upper, String.toList_ofList, clean, List.filter_eq_self]
    intro c hc
    obtain ⟨n, hn, rfl⟩ := exists_of_mem_digits hc
    exact hkept n hn
  have hcapital : ∀ n < 16, (upperDigit n).toUpper = upperDigit n := by decide
  rw [hclean, digits_map hcapital, upper]

/-- Bytes that are written are read back. A text is read exactly if an even number of digits is left
without its blanks and colons, namely as the bytes that these digits write in capital letters, and
is an invalid option otherwise. Texts that leave the same digits, in whatever case, are read alike,
and texts that are read as the same bytes leave the same digits. -/
theorem decode_reads_digits :
    (∀ bytes, decode (upper bytes) = .ok bytes) ∧
    (∀ s, ((∃ bytes, decode s = .ok bytes) ↔
        (clean s.toList).length % 2 = 0 ∧ ∀ c ∈ clean s.toList, IsDigit c) ∧
      (∀ bytes, decode s = .ok bytes →
        upper bytes = String.ofList ((clean s.toList).map Char.toUpper)) ∧
      ((¬∃ bytes, decode s = .ok bytes) →
        decode s = .error (.invalidOption ("not hex: " ++ s)))) ∧
    ∀ s t, let spelling := fun s : String => (clean s.toList).map Char.toUpper
      (spelling s = spelling t → ∀ bytes, decode s = .ok bytes ↔ decode t = .ok bytes) ∧
      ∀ bytes, decode s = .ok bytes → decode t = .ok bytes → spelling s = spelling t := by
  refine ⟨fun bytes => decode_eq_ok_iff.mpr (clean_map_toUpper_upper bytes), fun s => ?_, ?_⟩
  · refine ⟨exists_decode_iff, fun bytes h => (decode_eq_ok_iff.mp h).symm, fun hnone => ?_⟩
    cases h : decode s with
    | ok bytes => exact absurd ⟨bytes, h⟩ hnone
    | error e => rw [decode_eq_error h]
  · intro s t spelling
    refine ⟨fun h bytes => ?_, fun bytes hs ht => ?_⟩
    · rw [decode_eq_ok_iff, decode_eq_ok_iff]
      exact Eq.congr_left (congrArg String.ofList h)
    · exact String.ofList_inj.mp
        ((decode_eq_ok_iff.mp hs).trans (decode_eq_ok_iff.mp ht).symm)

example : decode "de:AD be\tef" = .ok [0xde, 0xad, 0xbe, 0xef] := by
  decide +kernel

end Hex
end ChainTrust
