import ChainTrust.Der.Primitive
import ChainTrust.Proofs.Codecs
import ChainTrust.Proofs.Lifetime

namespace ChainTrust.Der

theorem content_of_booleanOf? {c : Bytes} {b : Bool} (h : booleanOf? c = some b) :
    c = [if b then 0xFF else 0] := by
  unfold booleanOf? at h
  split at h
  · split at h
    · rename_i hb
      cases h
      rw [hb]
      rfl
    · split at h
      · rename_i hb
        cases h
        rw [hb]
        rfl
      · cases h
  · cases h

/-- A zero stands in front of a first byte that needs it, and of no other. -/
theorem unsigned_toNat {b : UInt8} (h : b ≠ 0) (rest : Bytes) :
    unsigned (Bytes.toNat (b :: rest)) = if b < 0x80 then b :: rest else 0 :: b :: rest := by
  rw [unsigned, Bytes.ofNat_toNat (by simpa using h)]

theorem content_of_magnitudeOf? {c digits : Bytes} (h : magnitudeOf? c = some digits) :
    c = unsigned (Bytes.toNat digits) := by
  unfold magnitudeOf? at h
  split at h
  · cases h
  · rename_i b
    split at h
    · rename_i hb
      cases h
      by_cases hzero : b = 0
      · rw [hzero]
        decide +kernel
      · rw [unsigned_toNat hzero, if_pos hb]
    · cases h
  · rename_i b c rest
    split at h
    · rename_i hb
      split at h
      · cases h
      · rename_i hc
        cases h
        have hnonzero : c ≠ 0 := fun hzero => hc (hzero ▸ by decide)
        rw [unsigned_toNat hnonzero, if_neg hc, hb]
    · rename_i hzero
      split at h
      · rename_i hb
        cases h
        rw [unsigned_toNat hzero, if_pos hb]
      · cases h

theorem content_of_unsignedOf? {width n : Nat} {c : Bytes} (h : unsignedOf? width c = some n) :
    c = unsigned n := by
  obtain ⟨digits, hdigits, h⟩ := Option.bind_eq_some_iff.mp h
  split at h
  · cases h
    exact content_of_magnitudeOf? hdigits
  · cases h

theorem content_of_signedOf? {c a : Bytes} (h : signedOf? c = some a) : c = a := by
  unfold signedOf? at h
  split at h
  · cases h
  · split at h
    · cases h
    · exact Option.some.inj h
  · split at h
    · cases h
    · exact Option.some.inj h
  · exact Option.some.inj h

theorem content_of_bitStringOf? {c : Bytes} {b : BitString} (h : bitStringOf? c = some b) :
    c = b.content := by
  unfold bitStringOf? at h
  split at h
  · cases h
  · split at h
    · cases h
    · cases h
      rfl

theorem content_of_ofBody? {c : Bytes} {o : Oid} (h : Oid.ofBody? c = some o) : c = o.body := by
  unfold Oid.ofBody? at h
  split at h
  · cases h
    rfl
  · cases h

theorem twoDigits_add (n k : Nat) : twoDigits (n + 100 * k) = twoDigits n := by
  have htens : (n + 100 * k) / 10 % 10 = n / 10 % 10 := by omega
  have hones : (n + 100 * k) % 10 = n % 10 := by omega
  rw [twoDigits, htens, hones, twoDigits]

theorem bounds_of_isDigit {b : UInt8} (h : isDigit b = true) : 48 ≤ b.toNat ∧ b.toNat ≤ 57 := by
  simp only [isDigit, Bool.and_eq_true, decide_eq_true_eq, UInt8.le_iff_toNat_le] at h
  exact h

theorem number_two (a b : UInt8) : number [a, b] = (a.toNat - 48) * 10 + (b.toNat - 48) := by
  simp [number]

theorem twoDigits_number {a b : UInt8} (ha : isDigit a = true) (hb : isDigit b = true) :
    twoDigits (number [a, b]) = [a, b] := by
  have hfirst := bounds_of_isDigit ha
  have hsecond := bounds_of_isDigit hb
  have hnumber := number_two a b
  have htens : 48 + number [a, b] / 10 % 10 = a.toNat := by omega
  have hones : 48 + number [a, b] % 10 = b.toNat := by omega
  rw [twoDigits, htens, hones, UInt8.ofNat_toNat, UInt8.ofNat_toNat]

theorem number_lt {a b : UInt8} (ha : isDigit a = true) (hb : isDigit b = true) :
    number [a, b] < 100 := by
  have hfirst := bounds_of_isDigit ha
  have hsecond := bounds_of_isDigit hb
  have hnumber := number_two a b
  omega

theorem number_four (a b c d : UInt8) :
    number [a, b, c, d] = number [c, d] + 100 * number [a, b] := by
  simp only [number, List.foldl_cons, List.foldl_nil]
  omega

/-- The seconds of a date tell the day, and the time of day that was written. -/
theorem dayAndTime_of_secondsOf? {date : Date} {s : Bytes} {t : UInt64}
    (h : secondsOf? date s = some t) (hdigits : (s.take 6).all isDigit = true) :
    Date.ofDays (t.toNat / 86400) = date ∧
      dayAndTime date t.toNat = twoDigits date.month ++ twoDigits date.day ++ s := by
  unfold secondsOf? at h
  split at h
  · rename_i a b c d e f z
    simp only [List.take_succ_cons, List.take_zero, List.all_cons, List.all_nil, Bool.and_true,
      Bool.and_eq_true] at hdigits
    obtain ⟨ha, hb, hc, hd, he, hf⟩ := hdigits
    dsimp only at h
    split at h
    · rename_i hvalid
      obtain ⟨hdate, hhour, hminute, hsecond, rfl⟩ := hvalid
      have hdays := Date.toDays_le hdate
      have hlast : Calendar.lastSecond / 86400 = 2932896 := by decide
      rw [hlast] at hdays
      have ht : t.toNat = date.toDays * 86400 + number [a, b] * 3600 + number [c, d] * 60 +
          number [e, f] := by
        rw [← Option.some.inj h, UInt64.toNat_ofNat_of_lt']
        change _ < 18446744073709551616
        omega
      have hday : t.toNat / 86400 = date.toDays := by omega
      have hhours : t.toNat / 3600 % 24 = number [a, b] := by omega
      have hminutes : t.toNat / 60 % 60 = number [c, d] := by omega
      have hseconds : t.toNat % 60 = number [e, f] := by omega
      refine ⟨by rw [hday, Date.ofDays_toDays hdate], ?_⟩
      rw [dayAndTime, hhours, hminutes, hseconds, twoDigits_number ha hb, twoDigits_number hc hd,
        twoDigits_number he hf]
      simp
    · cases h
  · cases h

theorem content_of_utcTimeOf? {c : Bytes} {t : UInt64} (h : utcTimeOf? c = some t) :
    c = utcTimeContent t := by
  unfold utcTimeOf? at h
  split at h
  · rename_i a b c d e f rest
    split at h
    · rename_i hdigits
      simp only [List.take_succ_cons, List.all_cons, Bool.and_eq_true] at hdigits
      obtain ⟨ha, hb, hc, hd, he, hf, hrest⟩ := hdigits
      obtain ⟨hdate, htime⟩ := dayAndTime_of_secondsOf? h hrest
      have hyear : twoDigits (number [a, b] + if number [a, b] ≥ 50 then 1900 else 2000) = [a, b] := by
        split
        · exact (twoDigits_add (number [a, b]) 19).trans (twoDigits_number ha hb)
        · exact (twoDigits_add (number [a, b]) 20).trans (twoDigits_number ha hb)
      rw [utcTimeContent, hdate]
      dsimp only
      rw [htime, hyear, twoDigits_number hc hd, twoDigits_number he hf]
      rfl
    · cases h
  · cases h

theorem content_of_generalizedTimeOf? {c : Bytes} {t : UInt64} (h : generalizedTimeOf? c = some t) :
    c = generalizedTimeContent t := by
  unfold generalizedTimeOf? at h
  split at h
  · rename_i a b c d e f g i rest
    split at h
    · rename_i hdigits
      simp only [List.take_succ_cons, List.all_cons, Bool.and_eq_true] at hdigits
      obtain ⟨ha, hb, hc, hd, he, hf, hg, hi, hrest⟩ := hdigits
      obtain ⟨hdate, htime⟩ := dayAndTime_of_secondsOf? h hrest
      rw [generalizedTimeContent, hdate]
      dsimp only
      have hcentury : number [a, b, c, d] / 100 = number [a, b] := by
        have hlt := number_lt hc hd
        rw [number_four]
        omega
      rw [htime, hcentury, number_four, twoDigits_add, twoDigits_number ha hb, twoDigits_number hc hd,
        twoDigits_number he hf, twoDigits_number hg hi]
      rfl
    · cases h
  · cases h

end ChainTrust.Der
