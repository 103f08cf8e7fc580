import ChainTrust.Proofs.Bounds
import ChainTrust.Proofs.Loading
import ChainTrust.Proofs.StrictReading
import Mathlib.Data.Nat.Size

namespace ChainTrust

open Der

namespace Bytes

theorem capacity_eq_two_pow (width : Nat) : capacity width = 2 ^ (8 * width) := by
  induction width with
  | zero => rfl
  | succ width ih =>
    rw [capacity, ih, Nat.mul_succ, Nat.pow_add, Nat.mul_comm]

theorem toNat_cons (b : UInt8) (rest : Bytes) :
    toNat (b :: rest) = b.toNat * 2 ^ (8 * rest.length) + toNat rest := by
  induction rest using List.reverseRecOn with
  | nil => simp [toNat]
  | append_singleton rest last ih =>
    have hpow : 2 ^ (8 * (rest.length + 1)) = 2 ^ (8 * rest.length) * 256 := by
      rw [Nat.mul_succ, Nat.pow_add]
    rw [← List.cons_append, toNat_concat, toNat_concat, ih, List.length_append,
      List.length_singleton, hpow, Nat.add_mul, Nat.mul_assoc, Nat.add_assoc]

/-- The number in as few bytes as possible, but at least one. -/
def magnitude (n : Nat) : Bytes :=
  if n = 0 then [0] else ofNat n

theorem magnitude_zero : magnitude 0 = [0] :=
  if_pos rfl

/-- A number that is not zero begins with a byte that is not. -/
theorem exists_magnitude_eq_cons {n : Nat} (h : n ≠ 0) :
    ∃ b rest, b ≠ 0 ∧ ofNat n = b :: rest ∧ magnitude n = b :: rest := by
  have hne : ofNat n ≠ [] := by
    rw [ofNat_of_ne_zero h]
    simp
  obtain ⟨b, rest, hbytes⟩ := List.exists_cons_of_ne_nil hne
  refine ⟨b, rest, ?_, hbytes, (if_neg h).trans hbytes⟩
  rintro rfl
  exact head?_ofNat n (congrArg List.head? hbytes)

theorem toNat_magnitude (n : Nat) : toNat (magnitude n) = n := by
  by_cases h : n = 0
  · rw [h]
    rfl
  · rw [magnitude, if_neg h, toNat_ofNat]

end Bytes

open Bytes

/-- A number of some bits in front of `k` others. -/
theorem size_mul_two_pow_add {a r k : Nat} (ha : a ≠ 0) (hr : r < 2 ^ k) :
    (a * 2 ^ k + r).size = a.size + k := by
  have hfront : (a * 2 ^ k).size = a.size + k := by
    rw [← Nat.shiftLeft_eq, Nat.size_shiftLeft ha]
  apply Nat.le_antisymm
  · rw [Nat.size_le, Nat.pow_add]
    calc a * 2 ^ k + r < (a + 1) * 2 ^ k := by rw [Nat.succ_mul]; omega
      _ ≤ 2 ^ a.size * 2 ^ k := Nat.mul_le_mul_right _ (Nat.lt_size_self a)
  · rw [← hfront]
    exact Nat.size_le_size (Nat.le_add_right _ r)

theorem size_eq_log2_succ {n : Nat} (h : n ≠ 0) : n.size = n.log2 + 1 :=
  Nat.le_antisymm (Nat.size_le.mpr Nat.lt_log2_self) (Nat.lt_size.mpr (Nat.log2_self_le h))

/-- The bits of a byte are those that are left behind the zeros in front. -/
theorem size_eq_sub_clz (b : UInt8) : b.toNat.size = 8 - b.toBitVec.clz.toNat := by
  apply Nat.le_antisymm
  · exact Nat.size_le.mpr BitVec.toNat_lt_two_pow_sub_clz
  · by_cases hb : b.toBitVec = 0
    · have hclz : b.toBitVec.clz = 8 := BitVec.clz_eq_iff_eq_zero.mpr hb
      rw [hclz]
      exact Nat.zero_le _
    · -- the first bit that is set
      have hpow : 2 ^ (8 - 1 - b.toBitVec.clz.toNat) ≤ b.toNat :=
        BitVec.two_pow_sub_clz_le_toNat_of_ne_zero (by decide) hb
      have hsize := Nat.lt_size.mpr hpow
      omega

namespace X509

theorem bitLength_cons (b : UInt8) (rest : Bytes) :
    bitLength (b :: rest) = 8 * rest.length + b.toNat.size := by
  rw [bitLength]
  by_cases hb : b = 0
  · rw [if_pos hb, hb]
    rfl
  · have hne : b.toNat ≠ 0 := UInt8.toNat_inj.not.mpr hb
    rw [if_neg hb, size_eq_log2_succ hne]

/-- As many bits as the number has, for the bytes in which it is read. -/
theorem bitLength_magnitude (n : Nat) : bitLength (magnitude n) = n.size := by
  by_cases h : n = 0
  · rw [h, magnitude_zero]
    rfl
  · obtain ⟨b, rest, hb, hofNat, hbytes⟩ := exists_magnitude_eq_cons h
    have hne : b.toNat ≠ 0 := UInt8.toNat_inj.not.mpr hb
    -- the bytes behind the first are as many bits as they have room for
    have hrest : toNat rest < 2 ^ (8 * rest.length) :=
      capacity_eq_two_pow rest.length ▸ toNat_lt_capacity rest
    have hn : n = b.toNat * 2 ^ (8 * rest.length) + toNat rest := by
      rw [← toNat_cons, ← hbytes, toNat_magnitude]
    rw [hbytes, bitLength_cons, Nat.add_comm, ← size_mul_two_pow_add hne hrest, ← hn]

end X509

/-- The bits of a modulus, counted from the zeros in its first byte. What is taken from a number is
compared with it first. -/
def Guarded.bitLength (modulus : Bytes) : Guarded Nat :=
  match modulus.head? with
  | some b => do
    let whole ← minus modulus.length 1
    let top ← minus 8 b.toBitVec.clz.toNat
    return whole * 8 + top
  | none => return 0

/-- Nothing is taken from less, whatever the bytes are. -/
theorem Guarded.bitLength_eq_ok (modulus : Bytes) :
    Guarded.bitLength modulus = .ok (X509.bitLength modulus) := by
  cases modulus with
  | nil => rfl
  | cons b rest =>
    have hclz : b.toBitVec.clz.toNat ≤ 8 := BitVec.clz_le
    have hwhole : minus (b :: rest).length 1 = .ok rest.length := minus_eq_ok (Nat.le_add_left _ _)
    simp only [Guarded.bitLength, List.head?_cons, hwhole, minus_eq_ok hclz, ok_bind, pure_eq_ok]
    rw [X509.bitLength_cons, size_eq_sub_clz, Nat.mul_comm]

namespace Der

theorem magnitudeOf?_unsigned (n : Nat) : magnitudeOf? (unsigned n) = some (magnitude n) := by
  by_cases h : n = 0
  · rw [h, unsigned, ofNat_zero, magnitude_zero]
    rfl
  · obtain ⟨b, rest, hb, hofNat, hbytes⟩ := exists_magnitude_eq_cons h
    rw [unsigned, hofNat, hbytes]
    by_cases hlow : b < 0x80
    · cases rest <;> simp [magnitudeOf?, hlow, hb]
    · simp [magnitudeOf?, hlow]

theorem length_magnitude_le (n : Nat) : (magnitude n).length ≤ (unsigned n).length := by
  by_cases h : n = 0
  · rw [h, magnitude_zero, unsigned, ofNat_zero]
  · obtain ⟨b, rest, -, hofNat, hbytes⟩ := exists_magnitude_eq_cons h
    rw [unsigned, hofNat, hbytes]
    dsimp only
    split <;> simp

/-- A number is read from its one form, and comes as the bytes that it takes. -/
theorem magnitudeOf?_eq_some_iff {c digits : Bytes} :
    magnitudeOf? c = some digits ↔ ∃ n, c = unsigned n ∧ digits = magnitude n := by
  constructor
  · intro h
    have hc := content_of_magnitudeOf? h
    rw [hc, magnitudeOf?_unsigned, Option.some.injEq] at h
    exact ⟨_, hc, h.symm⟩
  · rintro ⟨n, rfl, rfl⟩
    exact magnitudeOf?_unsigned n

theorem length_le_element (tag : UInt8) (content : Bytes) :
    content.length ≤ (element tag content).length := by
  rw [length_element]
  omega

theorem length_le_sequence {parts : List Bytes} {part : Bytes} (h : part ∈ parts) :
    part.length ≤ (Der.sequence parts).length :=
  Nat.le_trans (List.sublist_flatten_of_mem h).length_le (length_le_element _ _)

end Der

namespace X509

open Reader

/-- A modulus and an exponent, as the two parts of a key. -/
def rsaParts (n e : Nat) : List Bytes :=
  [element Tag.integer (unsigned n), element Tag.integer (unsigned e)]

/-- An RSA key in the form of PKCS #1. -/
def rsaKey (n e : Nat) : Bytes :=
  Der.sequence (rsaParts n e)

theorem magnitude_eq_some_iff {s rest digits : Bytes} :
    Reader.magnitude s = some (digits, rest) ↔ ∃ n, digits = Bytes.magnitude n ∧
      (unsigned n).length < lengthBound ∧ s = element Tag.integer (unsigned n) ++ rest := by
  have htag : isTag Tag.integer = true := by decide
  unfold Reader.magnitude
  simp only [bind_lift_eq_some_iff, content_eq_some_iff, magnitudeOf?_eq_some_iff, htag, true_and]
  constructor
  · rintro ⟨_, ⟨n, rfl, rfl⟩, hbound, rfl⟩
    exact ⟨n, rfl, hbound, rfl⟩
  · rintro ⟨n, rfl, hbound, rfl⟩
    exact ⟨_, ⟨n, rfl, rfl⟩, hbound, rfl⟩

theorem length_unsigned_le (n e : Nat) :
    (unsigned n).length ≤ (rsaParts n e).flatten.length ∧
      (unsigned e).length ≤ (rsaParts n e).flatten.length := by
  have hfirst := length_le_element Tag.integer (unsigned n)
  have hsecond := length_le_element Tag.integer (unsigned e)
  simp only [rsaParts, List.flatten_cons, List.flatten_nil, List.append_nil, List.length_append]
  omega

/-- The size of a modulus is a word, as long as the key has a length of four bytes. -/
theorem size_lt_of_rsaParts {n e : Nat} (h : (rsaParts n e).flatten.length < lengthBound) :
    n.size < UInt64.size := by
  have hlength := Nat.le_trans (length_magnitude_le n) (length_unsigned_le n e).1
  have hvalue : n < 2 ^ (8 * (Bytes.magnitude n).length) := by
    have hcapacity := toNat_lt_capacity (Bytes.magnitude n)
    rwa [toNat_magnitude, capacity_eq_two_pow] at hcapacity
  have hsize := Nat.size_le.mpr hvalue
  have hbound : lengthBound = 4294967296 := rfl
  have hword : UInt64.size = 18446744073709551616 := rfl
  omega

/-- A key is read from what is written for a modulus and an exponent, and from nothing else. -/
theorem all_readRsaKey_eq_some_iff {bytes : Bytes} {key : Bytes × Bytes} :
    Reader.all readRsaKey bytes = some key ↔ ∃ n e,
      key = (Bytes.magnitude n, Bytes.magnitude e) ∧ (rsaParts n e).flatten.length < lengthBound ∧
        bytes = rsaKey n e := by
  have htag : isTag Tag.sequence = true := by decide
  have hpair : readRsaKey = Reader.sequence (Reader.pair Reader.magnitude Reader.magnitude) := rfl
  rw [hpair, all_eq_some_iff, Reader.sequence, Reader.holder]
  simp only [bind_lift_eq_some_iff, content_eq_some_iff, all_eq_some_iff, pair_eq_some_iff,
    magnitude_eq_some_iff, htag, true_and, List.append_nil]
  constructor
  · rintro ⟨c, ⟨_, ⟨n, hn, -, rfl⟩, e, he, -, rfl⟩, hbound, rfl⟩
    have hparts : (rsaParts n e).flatten =
        element Tag.integer (unsigned n) ++ element Tag.integer (unsigned e) := by
      simp [rsaParts]
    rw [← hparts] at hbound ⊢
    exact ⟨n, e, Prod.ext hn he, hbound, rfl⟩
  · rintro ⟨n, e, rfl, hbound, rfl⟩
    obtain ⟨hn, he⟩ := length_unsigned_le n e
    refine ⟨(rsaParts n e).flatten, ⟨_, ⟨n, rfl, Nat.lt_of_le_of_lt hn hbound, rfl⟩, e, rfl,
      Nat.lt_of_le_of_lt he hbound, ?_⟩, hbound, rfl⟩
    simp

namespace PublicKey

variable {k : PublicKey}

/-- The size of an RSA key is that of its modulus, if it can be read. -/
theorem size_eq_ok_iff (h : k.algorithm.id = .rsaEncryption) {key : KeyAlgorithm × UInt64} :
    k.size = .ok key ↔ ∃ modulus exponent,
      Reader.all readRsaKey k.key.bytes = some (modulus, exponent) ∧
        key = (.rsa, UInt64.ofNat (bitLength modulus)) := by
  rw [size, if_pos h]
  cases Reader.all readRsaKey k.key.bytes with
  | none => simp
  | some read =>
    obtain ⟨modulus, exponent⟩ := read
    simp [eq_comm]

theorem length_key_le (k : PublicKey) : k.key.bytes.length ≤ k.encode.length := by
  have hcontent : k.key.bytes.length ≤ k.key.content.length := Nat.le_succ _
  have helement := length_le_element Tag.bitString k.key.content
  have hpart : (element Tag.bitString k.key.content).length ≤ k.encode.length :=
    length_le_sequence (by simp)
  omega

end PublicKey

/-- A certificate that is read has a length of four bytes at most, and what stands in it is no
longer. -/
theorem Certificate.length_key_lt {c : Certificate} (h : read.Reads c) :
    c.body.publicKey.key.bytes.length < lengthBound := by
  obtain ⟨s, rest, hread⟩ := h
  obtain ⟨content, hinside, hcontent⟩ := bind_lift_eq_some_iff.mp hread
  obtain ⟨body, mid, hbody, hrest⟩ := bind_eq_some_iff.mp (all_eq_some_iff.mp hinside)
  have hc : c.body = body := by
    obtain ⟨algorithm, mid', -, hrest⟩ := bind_eq_some_iff.mp hrest
    obtain ⟨signature, mid'', -, hpure⟩ := bind_eq_some_iff.mp hrest
    obtain ⟨rfl, -⟩ := pure_eq_some_iff.mp hpure
    rfl
  have hkey := c.body.publicKey.length_key_le
  have hpart : c.body.publicKey.encode.length ≤ c.body.encode.length :=
    length_le_sequence (by simp)
  have hshorter := Body.codec.shorter hbody
  have hbound := (content_eq_some_iff.mp hcontent).2.1
  rw [← hc] at hshorter
  omega

end X509

namespace Facts

open X509

variable {f : Facts} {n : Nat}

/-- Extensions have no say in what the key is. -/
theorem key_of_ofCertificate {c : Certificate} {encoded : Bytes}
    (h : ofCertificate encoded c = .ok f) :
    c.body.publicKey.size = .ok (f.keyAlgorithm, f.keySize) := by
  obtain ⟨key, hkey, hf⟩ := exists_key_of_ofCertificate h
  rw [hkey, hf]
  rfl

theorem hasWeakKey_iff_lt (ha : f.keyAlgorithm = .rsa) (hs : f.keySize.toNat = n.size) :
    f.hasWeakKey = true ↔ n < 2 ^ 1023 := by
  rw [← Nat.size_le, ← hs, hasWeakKey, ha]
  simp only [decide_eq_true_eq, UInt64.lt_iff_toNat_lt]
  exact Nat.lt_succ_iff

theorem hasKeyOfAtLeast_iff_le (ha : f.keyAlgorithm = .rsa) (hs : f.keySize.toNat = n.size)
    (rsa ec : UInt64) :
    f.hasKeyOfAtLeast rsa ec = true ↔ rsa = 0 ∨ 2 ^ (rsa.toNat - 1) ≤ n := by
  rw [← Nat.lt_size, ← hs, hasKeyOfAtLeast, ha, ← UInt64.toNat_inj]
  simp only [decide_eq_true_eq, UInt64.le_iff_toNat_le, UInt64.toNat_zero]
  omega

/-- A certificate with an algorithm of RSA is loaded if its key has a modulus and an exponent, and
not otherwise. The modulus is read as the bytes of its number, the size of the key is how many bits
that has, and nothing is taken from less to find it. So bounds of the size are compared with it as
powers of two. -/
theorem keySize_modulus (c : Certificate) (hc : Certificate.read.Reads c)
    (hrsa : c.body.publicKey.algorithm.id = .rsaEncryption) (encoded : Bytes) :
    (∀ f, ofCertificate encoded c = .ok f → ∃ n e, c.body.publicKey.key.bytes = rsaKey n e) ∧
    ∀ n e, c.body.publicKey.key.bytes = rsaKey n e →
      Reader.all readRsaKey c.body.publicKey.key.bytes = some (magnitude n, magnitude e) ∧
      ∃ f, ofCertificate encoded c = .ok f ∧ f.keyAlgorithm = .rsa ∧ f.keySize.toNat = n.size ∧
        Guarded.bitLength (magnitude n) = .ok f.keySize.toNat ∧
        (f.hasWeakKey = true ↔ n < 2 ^ 1023) ∧
        ∀ rsa ec : UInt64,
          f.hasKeyOfAtLeast rsa ec = true ↔ rsa = 0 ∨ 2 ^ (rsa.toNat - 1) ≤ n := by
  constructor
  · intro f hf
    obtain ⟨modulus, exponent, hread, -⟩ :=
      (PublicKey.size_eq_ok_iff hrsa).mp (key_of_ofCertificate hf)
    obtain ⟨n, e, -, -, hbytes⟩ := all_readRsaKey_eq_some_iff.mp hread
    exact ⟨n, e, hbytes⟩
  · intro n e hbytes
    -- however large the modulus is, the certificate around it has been read
    have hbound : (rsaParts n e).flatten.length < lengthBound := by
      have hlength := Certificate.length_key_lt hc
      rw [hbytes] at hlength
      exact Nat.lt_of_le_of_lt (length_le_element Tag.sequence _) hlength
    have hread : Reader.all readRsaKey c.body.publicKey.key.bytes =
        some (magnitude n, magnitude e) :=
      all_readRsaKey_eq_some_iff.mpr ⟨n, e, rfl, hbound, hbytes⟩
    have hkey := (PublicKey.size_eq_ok_iff hrsa).mpr ⟨_, _, hread, rfl⟩
    obtain ⟨f, hf⟩ : ∃ f, ofCertificate encoded c = .ok f :=
      ⟨_, ofCertificate_eq_ok_iff.mpr ⟨_, hkey, rfl⟩⟩
    obtain ⟨halgorithm, hword⟩ :=
      Prod.mk.inj (Except.ok.inj ((key_of_ofCertificate hf).symm.trans hkey))
    have hsize : f.keySize.toNat = n.size := by
      rw [hword, bitLength_magnitude]
      exact UInt64.toNat_ofNat_of_lt' (size_lt_of_rsaParts hbound)
    have hguarded : Guarded.bitLength (magnitude n) = .ok f.keySize.toNat := by
      rw [Guarded.bitLength_eq_ok, bitLength_magnitude, hsize]
    exact ⟨hread, f, hf, halgorithm, hsize, hguarded,
      hasWeakKey_iff_lt halgorithm hsize, hasKeyOfAtLeast_iff_le halgorithm hsize⟩

/-- A certificate with an RSA key and little more. -/
def plainRsa (n e : Nat) : Certificate :=
  let c : Certificate := .plain none
  { c with body := { c.body with
    publicKey := ⟨⟨.rsaEncryption, some (Tag.null, [])⟩, ⟨0, rsaKey n e⟩⟩ } }

/-- A modulus of 128 bytes, in the first of which one bit is missing. -/
theorem keySize_modulus_short :
    let n := 2 ^ 1022
    let c : Certificate := plainRsa n 65537
    Certificate.read.Reads c ∧ c.body.publicKey.algorithm.id = .rsaEncryption ∧
      c.body.publicKey.key.bytes = rsaKey n 65537 ∧
      ∃ f, ofCertificate c.encode c = .ok f ∧ f.keySize.toNat = 1023 ∧ f.hasWeakKey = true ∧
        f.hasKeyOfAtLeast 1023 0 = true ∧ ¬f.hasKeyOfAtLeast 1024 0 = true := by
  intro n c
  have hread : Reader.all Certificate.read c.encode = some c := by decide +kernel
  have hc : Certificate.read.Reads c := ⟨_, _, Reader.all_eq_some_iff.mp hread⟩
  have hn : n.size = 1023 := by simp only [n, Nat.size_pow]
  obtain ⟨-, f, hf, -, hsize, -, hweak, hleast⟩ := (keySize_modulus c hc rfl c.encode).2 n 65537 rfl
  refine ⟨hc, rfl, rfl, f, hf, hsize.trans hn, hweak.mpr ?_, (hleast 1023 0).mpr (.inr ?_),
    fun h => ?_⟩
  · rw [← Nat.size_le, hn]
  · rw [← Nat.lt_size, hn]
    decide
  · rcases (hleast 1024 0).mp h with hzero | hpow
    · exact absurd hzero (by decide)
    · rw [← Nat.lt_size, hn] at hpow
      exact absurd hpow (by decide)

end Facts
end ChainTrust
