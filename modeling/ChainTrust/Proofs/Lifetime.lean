import ChainTrust.Proofs.Timestamps
import Mathlib.Data.Nat.Find
import Mathlib.Order.Monotone.Basic

namespace ChainTrust

theorem greatest_eq_findGreatest (p : Nat → Bool) (n : Nat) :
    greatest p n = Nat.findGreatest (fun k => p k = true) n := by
  induction n with
  | zero => rfl
  | succ n ih => rw [greatest, Nat.findGreatest_succ, ih]

theorem greatest_le (p : Nat → Bool) (n : Nat) : greatest p n ≤ n := by
  rw [greatest_eq_findGreatest]
  exact Nat.findGreatest_le n

theorem greatest_mono {p q : Nat → Bool} {m n : Nat} (hpq : ∀ k, p k = true → q k = true)
    (hmn : m ≤ n) : greatest p m ≤ greatest q n := by
  rw [greatest_eq_findGreatest, greatest_eq_findGreatest]
  exact Nat.findGreatest_mono hpq hmn

/-- The greatest number of all with a property, if the property is that of zero and ends within the
bound. -/
theorem greatest_spec {p : Nat → Bool} {n : Nat} (hzero : p 0 = true)
    (hend : ∀ k, n < k → p k = false) : p (greatest p n) = true ∧ p (greatest p n + 1) = false := by
  rw [greatest_eq_findGreatest]
  constructor
  · exact Nat.findGreatest_spec (P := fun k => p k = true) (Nat.zero_le n) hzero
  · by_cases hn : Nat.findGreatest (fun k => p k = true) n + 1 ≤ n
    · exact eq_false_of_ne_true (Nat.findGreatest_is_greatest (Nat.lt_succ_self _) hn)
    · exact hend _ (Nat.not_le.mp hn)

namespace Calendar

theorem yearsIn_mono {a b : Nat} (h : a ≤ b) : yearsIn a ≤ yearsIn b := by
  refine greatest_mono (fun years hyears => ?_) (Nat.div_le_div_right h)
  rw [decide_eq_true_eq] at hyears ⊢
  omega

theorem monthsIn_mono (year : Nat) {a b : Nat} (h : a ≤ b) : monthsIn year a ≤ monthsIn year b := by
  refine greatest_mono (fun month hmonth => ?_) le_rfl
  rw [decide_eq_true_eq] at hmonth ⊢
  omega

theorem daysBeforeYear_succ (years : Nat) :
    daysBeforeYear (years + 1) =
      daysBeforeYear years + if isLeap (1970 + years) then 366 else 365 := by
  simp only [daysBeforeYear, leapsBefore, isLeap, Bool.and_eq_true, Bool.or_eq_true,
    decide_eq_true_eq]
  split <;> omega

theorem daysBeforeMonth_twelve (year : Nat) :
    daysBeforeMonth year 12 = if isLeap year then 366 else 365 := by
  cases h : isLeap year <;> simp [daysBeforeMonth, monthLength, h]

theorem yearsIn_spec (days : Nat) :
    daysBeforeYear (yearsIn days) ≤ days ∧ days < daysBeforeYear (yearsIn days + 1) := by
  have hspec := greatest_spec (p := fun years => daysBeforeYear years ≤ days) (n := days / 365)
    (decide_eq_true (Nat.zero_le days)) fun k hk => decide_eq_false (by unfold daysBeforeYear; omega)
  exact ⟨of_decide_eq_true hspec.1, Nat.not_le.mp (of_decide_eq_false hspec.2)⟩

theorem dayOfYear_lt (days : Nat) :
    days - daysBeforeYear (yearsIn days) < daysBeforeMonth (1970 + yearsIn days) 12 := by
  obtain ⟨hstart, hnext⟩ := yearsIn_spec days
  rw [daysBeforeYear_succ] at hnext
  rw [daysBeforeMonth_twelve]
  omega

theorem daysBeforeMonth_mono (year : Nat) {m n : Nat} (h : m ≤ n) :
    daysBeforeMonth year m ≤ daysBeforeMonth year n :=
  monotone_nat_of_le_succ (fun _ => Nat.le_add_right _ _) h

theorem daysBeforeYear_mono {m n : Nat} (h : m ≤ n) : daysBeforeYear m ≤ daysBeforeYear n := by
  refine monotone_nat_of_le_succ (fun years => ?_) h
  rw [daysBeforeYear_succ]
  exact Nat.le_add_right _ _

/-- A number lies in one step of a scale at most. -/
theorem step_unique {f : Nat → Nat} (hf : ∀ m n, m ≤ n → f m ≤ f n) {x j k : Nat}
    (hj : f j ≤ x ∧ x < f (j + 1)) (hk : f k ≤ x ∧ x < f (k + 1)) : j = k := by
  rcases Nat.lt_trichotomy j k with hlt | heq | hlt
  · have hbelow := hf (j + 1) k hlt
    omega
  · exact heq
  · have hbelow := hf (k + 1) j hlt
    omega

theorem monthsIn_spec {year day : Nat} (h : day < daysBeforeMonth year 12) :
    daysBeforeMonth year (monthsIn year day) ≤ day ∧
      day < daysBeforeMonth year (monthsIn year day + 1) := by
  have hspec := greatest_spec (p := fun month => daysBeforeMonth year month ≤ day) (n := 11)
    (decide_eq_true (Nat.zero_le day)) fun k hk =>
      decide_eq_false (Nat.not_le.mpr (Nat.lt_of_lt_of_le h (daysBeforeMonth_mono year hk)))
  exact ⟨of_decide_eq_true hspec.1, Nat.not_le.mp (of_decide_eq_false hspec.2)⟩

end Calendar

open Calendar

namespace Date

/-- The date of a day is the one that the day is counted to. -/
theorem toDays_ofDays (days : Nat) : (ofDays days).toDays = days := by
  have hyear := yearsIn_spec days
  have hmonth := monthsIn_spec (dayOfYear_lt days)
  simp only [toDays, ofDays, Nat.add_sub_cancel, Nat.add_sub_cancel_left]
  omega

theorem isValid_iff {d : Date} :
    d.isValid = true ↔ (1970 ≤ d.year ∧ d.year ≤ 9999) ∧ (1 ≤ d.month ∧ d.month ≤ 12) ∧
      1 ≤ d.day ∧ d.day ≤ monthLength d.year d.month := by
  simp [isValid, and_assoc]

/-- A day of the month is one of the days of its year. -/
theorem dayOfYear_bounds {d : Date} (h : d.isValid = true) :
    daysBeforeMonth d.year (d.month - 1) + (d.day - 1) < daysBeforeMonth d.year d.month ∧
      daysBeforeMonth d.year d.month ≤ daysBeforeMonth d.year 12 := by
  obtain ⟨-, ⟨hfirst, hlast⟩, hday, hlength⟩ := isValid_iff.mp h
  obtain ⟨month, hmonth⟩ := Nat.exists_eq_add_of_le' hfirst
  refine ⟨?_, daysBeforeMonth_mono d.year hlast⟩
  rw [hmonth, Nat.add_sub_cancel, daysBeforeMonth]
  rw [hmonth] at hlength
  omega

theorem toDays_bounds {d : Date} (h : d.isValid = true) :
    daysBeforeYear (d.year - 1970) ≤ d.toDays ∧ d.toDays < daysBeforeYear (d.year - 1970 + 1) := by
  have hyear := (isValid_iff.mp h).1.1
  obtain ⟨hday, hmonth⟩ := dayOfYear_bounds h
  rw [daysBeforeMonth_twelve] at hmonth
  rw [daysBeforeYear_succ, Nat.add_sub_cancel' hyear, toDays]
  omega

/-- Two dates of one day are the same as they are written. -/
theorem ofDays_toDays {d : Date} (h : d.isValid = true) : ofDays d.toDays = d := by
  obtain ⟨⟨hyear, -⟩, ⟨hfirst, -⟩, hday, -⟩ := isValid_iff.mp h
  obtain ⟨hdayOfYear, -⟩ := dayOfYear_bounds h
  have hyears : yearsIn d.toDays = d.year - 1970 :=
    step_unique (fun _ _ => daysBeforeYear_mono) (yearsIn_spec d.toDays) (toDays_bounds h)
  have hin := dayOfYear_lt d.toDays
  have hstart := (toDays_bounds h).1
  rw [hyears, Nat.add_sub_cancel' hyear] at hin
  have hmonths : monthsIn d.year (d.toDays - daysBeforeYear (d.year - 1970)) = d.month - 1 := by
    refine step_unique (fun _ _ => daysBeforeMonth_mono d.year) (monthsIn_spec hin) ?_
    rw [Nat.sub_add_cancel hfirst]
    unfold toDays
    omega
  rw [ofDays, hyears, Nat.add_sub_cancel' hyear, hmonths]
  unfold toDays
  cases d
  simp only [mk.injEq, true_and] at *
  omega

/-- The last day of the year 9999 is the last one with such a date. -/
theorem toDays_le {d : Date} (h : d.isValid = true) : d.toDays ≤ lastSecond / 86400 := by
  have hyear := (isValid_iff.mp h).1.2
  have hnext := (toDays_bounds h).2
  have hlast : daysBeforeYear (d.year - 1970 + 1) ≤ daysBeforeYear 8030 :=
    daysBeforeYear_mono (by omega)
  have hend : daysBeforeYear 8030 = lastSecond / 86400 + 1 := by decide +kernel
  omega

/-- Up to the end of the year 9999, a day has a date as it is written. -/
theorem isValid_ofDays {days : Nat} (h : days ≤ lastSecond / 86400) :
    (ofDays days).isValid = true := by
  obtain ⟨hmonth, hday⟩ := monthsIn_spec (dayOfYear_lt days)
  have hlast : monthsIn (1970 + yearsIn days) (days - daysBeforeYear (yearsIn days)) ≤ 11 :=
    greatest_le _ 11
  have hbound : yearsIn days ≤ 8029 := by
    by_contra hlate
    have hstart := (yearsIn_spec days).1
    simp only [daysBeforeYear, leapsBefore, lastSecond] at hstart h
    omega
  rw [daysBeforeMonth] at hday
  simp only [isValid_iff, ofDays]
  omega

/-- A number of months after one date, its day of the month has come by another. -/
def HasPassed (count : Nat) (start finish : Date) : Prop :=
  start.months + count < finish.months ∨
    start.months + count = finish.months ∧ start.day ≤ finish.day

/-- Spells that follow one another add up. -/
theorem HasPassed.trans {m n : Nat} {a b c : Date} (h : HasPassed m a b) (h' : HasPassed n b c) :
    HasPassed (m + n) a c := by
  unfold HasPassed at *
  omega

/-- A later day has a later date, or the same. -/
theorem hasPassed_ofDays {a b : Nat} (h : a ≤ b) : HasPassed 0 (ofDays a) (ofDays b) := by
  have hlast : monthsIn (1970 + yearsIn a) (a - daysBeforeYear (yearsIn a)) ≤ 11 :=
    greatest_le _ 11
  rcases Nat.lt_or_eq_of_le (yearsIn_mono h) with hyears | hyears
  · simp only [HasPassed, months, ofDays]
    omega
  · rw [hyears] at hlast
    have hday : a - daysBeforeYear (yearsIn b) ≤ b - daysBeforeYear (yearsIn b) :=
      Nat.sub_le_sub_right h _
    simp only [HasPassed, months, ofDays, hyears]
    rcases Nat.lt_or_eq_of_le (monthsIn_mono (1970 + yearsIn b) hday) with hmonths | hmonths
    · omega
    · rw [hmonths]
      omega

/-- Months from a date to a later one that have passed by then. -/
def monthsTo (start finish : Date) : Nat :=
  if finish.day < start.day then finish.months - start.months - 1
  else finish.months - start.months

theorem le_monthsTo_iff {start finish : Date} {count : Nat} :
    count ≤ start.monthsTo finish ↔ count = 0 ∨ HasPassed count start finish := by
  unfold HasPassed monthsTo
  split <;> omega

theorem monthsTo_ofDays_lt (a : Nat) {b : Nat} (h : b ≤ lastSecond / 86400) :
    (ofDays a).monthsTo (ofDays b) < UInt64.size := by
  have hvalid := isValid_iff.mp (isValid_ofDays h)
  unfold monthsTo months
  split <;> simp only [UInt64.size] <;> omega

end Date

namespace Calendar

open Date (HasPassed)

variable {start finish m : UInt64}

/-- The date of a time, in range or not. -/
def dateAt (seconds : UInt64) : Date :=
  Date.ofDays (seconds.toNat / 86400)

theorem date_eq_ok_iff {seconds : UInt64} {d : Date} :
    date seconds = .ok d ↔ seconds.toNat ≤ lastSecond ∧ dateAt seconds = d := by
  unfold date dateAt
  split <;> simp [*]

/-- The date of a time is the one of its day. There is none after the year 9999. -/
theorem date_eq_ok_iff_isValid {seconds : UInt64} {d : Date} :
    date seconds = .ok d ↔ d.isValid = true ∧ d.toDays = seconds.toNat / 86400 := by
  rw [date_eq_ok_iff]
  constructor
  · intro h
    obtain ⟨hlast, rfl⟩ := h
    exact ⟨Date.isValid_ofDays (Nat.div_le_div_right hlast), Date.toDays_ofDays _⟩
  · intro h
    obtain ⟨hvalid, hday⟩ := h
    have hle := Date.toDays_le hvalid
    refine ⟨?_, by rw [dateAt, ← hday, Date.ofDays_toDays hvalid]⟩
    rw [hday] at hle
    unfold lastSecond at *
    omega

theorem hasPassed_dateAt (h : start ≤ finish) : HasPassed 0 (dateAt start) (dateAt finish) :=
  Date.hasPassed_ofDays (Nat.div_le_div_right h)

theorem monthsBetween_of_le (h : finish ≤ start) : monthsBetween start finish = .ok 0 :=
  if_pos h

/-- There is no count for an end after the year 9999, unless the start is no earlier. -/
theorem monthsBetween_of_lt (h : start < finish) :
    monthsBetween start finish =
      if finish.toNat ≤ lastSecond then .ok (.ofNat ((dateAt start).monthsTo (dateAt finish)))
      else .error .badDer := by
  have hnot : ¬finish ≤ start := UInt64.not_le.mpr h
  rw [UInt64.lt_iff_toNat_lt] at h
  unfold monthsBetween
  rw [if_neg hnot]
  by_cases hlast : finish.toNat ≤ lastSecond
  · have hstart : start.toNat ≤ lastSecond := by omega
    rw [if_pos hlast, date_eq_ok_iff.mpr ⟨hlast, rfl⟩, date_eq_ok_iff.mpr ⟨hstart, rfl⟩]
    rfl
  · have hfinish : date finish = .error .badDer := if_neg hlast
    rw [if_neg hlast, hfinish]
    unfold date
    split <;> rfl

theorem exists_monthsBetween_iff :
    (∃ m, monthsBetween start finish = .ok m) ↔ finish ≤ start ∨ finish.toNat ≤ lastSecond := by
  by_cases h : finish ≤ start
  · exact iff_of_true ⟨0, monthsBetween_of_le h⟩ (.inl h)
  · rw [monthsBetween_of_lt (UInt64.not_le.mp h), or_iff_right h]
    split <;> simp [*]

/-- A number of months is counted if it is none, or if it has passed. -/
theorem le_monthsBetween_iff (h : monthsBetween start finish = .ok m) {count : Nat} :
    count ≤ m.toNat ↔ count = 0 ∨ HasPassed count (dateAt start) (dateAt finish) := by
  by_cases horder : finish ≤ start
  · rw [monthsBetween_of_le horder] at h
    cases h
    have hback := hasPassed_dateAt horder
    unfold HasPassed at hback ⊢
    rw [UInt64.toNat_zero]
    omega
  · rw [monthsBetween_of_lt (UInt64.not_le.mp horder)] at h
    split at h
    · rename_i hlast
      obtain rfl := Except.ok.inj h
      have hfits := Date.monthsTo_ofDays_lt (start.toNat / 86400) (Nat.div_le_div_right hlast)
      unfold dateAt
      rw [UInt64.toNat_ofNat_of_lt' hfits]
      exact Date.le_monthsTo_iff
    · cases h

theorem hasPassed_monthsBetween (h : monthsBetween start finish = .ok m) (horder : start ≤ finish) :
    HasPassed m.toNat (dateAt start) (dateAt finish) := by
  rcases (le_monthsBetween_iff h).mp le_rfl with hzero | hpassed
  · rw [hzero]
    exact hasPassed_dateAt horder
  · exact hpassed

/-- A spell within another has no more months. -/
theorem monthsBetween_le {outerStart outerFinish n : UInt64} (h : monthsBetween start finish = .ok m)
    (h' : monthsBetween outerStart outerFinish = .ok n) (hstart : outerStart ≤ start)
    (hfinish : finish ≤ outerFinish) : m ≤ n := by
  rw [UInt64.le_iff_toNat_le, le_monthsBetween_iff h']
  refine ((le_monthsBetween_iff h).mp le_rfl).imp_right fun hpassed => ?_
  have hall := ((hasPassed_dateAt hstart).trans hpassed).trans (hasPassed_dateAt hfinish)
  rwa [Nat.zero_add, Nat.add_zero] at hall

/-- The months of two spells that follow one another are counted in both together. -/
theorem monthsBetween_add_le {a b c first second whole : UInt64} (hab : a ≤ b) (hbc : b ≤ c)
    (hfirst : monthsBetween a b = .ok first) (hsecond : monthsBetween b c = .ok second)
    (hwhole : monthsBetween a c = .ok whole) : first.toNat + second.toNat ≤ whole.toNat :=
  (le_monthsBetween_iff hwhole).mpr
    (.inr ((hasPassed_monthsBetween hfirst hab).trans (hasPassed_monthsBetween hsecond hbc)))

end Calendar

open Calendar

theorem Word.le_greatest (a : UInt64) : a ≤ greatest := by
  have ha := a.toNat_lt_size
  have hgreatest := toNat_greatest
  rw [UInt64.le_iff_toNat_le]
  omega

/-- A longer lifetime has as many months or more, also if it is too long to be counted. -/
theorem Facts.lifetimeMonths_le {c d : Facts} (hstart : d.notBefore ≤ c.notBefore)
    (hend : c.notAfter ≤ d.notAfter) : c.lifetimeMonths ≤ d.lifetimeMonths := by
  unfold lifetimeMonths
  cases hd : monthsBetween d.notBefore d.notAfter with
  | error e => exact Word.le_greatest _
  | ok n =>
    have hcounted : c.notAfter ≤ c.notBefore ∨ c.notAfter.toNat ≤ lastSecond := by
      rcases exists_monthsBetween_iff.mp ⟨n, hd⟩ with hnone | hlast
      · exact .inl (UInt64.le_trans (UInt64.le_trans hend hnone) hstart)
      · exact .inr (Nat.le_trans hend hlast)
    obtain ⟨m, hc⟩ := exists_monthsBetween_iff.mpr hcounted
    rw [hc]
    exact monthsBetween_le hc hd hstart hend

theorem Sct.requiredLogs_mono {m n : UInt64} (h : m ≤ n) : requiredLogs m ≤ requiredLogs n := by
  unfold requiredLogs
  rw [UInt64.le_iff_toNat_le] at h
  simp only [UInt64.le_iff_toNat_le, UInt64.toNat_ofNat]
  split_ifs <;> omega

/-- A certificate that is valid for longer, earlier or later, needs as many logs or more, also beyond
the end of the calendar. Within it, the months of two spells that follow one another are counted,
and all of them in both together. Months are counted between the dates of the calendar. -/
theorem requiredLogs_lifetime :
    (∀ c d : Facts, d.notBefore ≤ c.notBefore → c.notAfter ≤ d.notAfter →
      Sct.requiredLogs c.lifetimeMonths ≤ Sct.requiredLogs d.lifetimeMonths) ∧
    (∀ a b c : UInt64, a ≤ b → b ≤ c → c.toNat ≤ lastSecond → ∃ first second whole,
      monthsBetween a b = .ok first ∧ monthsBetween b c = .ok second ∧
        monthsBetween a c = .ok whole ∧ first.toNat + second.toNat ≤ whole.toNat) ∧
    ∀ (seconds : UInt64) (d : Date),
      date seconds = .ok d ↔ d.isValid = true ∧ d.toDays = seconds.toNat / 86400 := by
  refine ⟨?_, ?_, fun _ _ => date_eq_ok_iff_isValid⟩
  · intro c d hstart hend
    exact Sct.requiredLogs_mono (Facts.lifetimeMonths_le hstart hend)
  · intro a b c hab hbc hlast
    have hmiddle : b.toNat ≤ lastSecond := Nat.le_trans hbc hlast
    obtain ⟨first, hfirst⟩ : ∃ m, monthsBetween a b = .ok m :=
      exists_monthsBetween_iff.mpr (.inr hmiddle)
    obtain ⟨second, hsecond⟩ : ∃ m, monthsBetween b c = .ok m :=
      exists_monthsBetween_iff.mpr (.inr hlast)
    obtain ⟨whole, hwhole⟩ : ∃ m, monthsBetween a c = .ok m :=
      exists_monthsBetween_iff.mpr (.inr hlast)
    exact ⟨first, second, whole, hfirst, hsecond, hwhole,
      monthsBetween_add_le hab hbc hfirst hsecond hwhole⟩

/-- Fifteen months need three logs, and a lifetime that leaves the calendar needs five. From the last
day of January to that of February and on to that of March, a month is lost on the way. -/
theorem requiredLogs_lifetime_beyond :
    let january : UInt64 := 1706659200
    let february : UInt64 := 1709164800
    let march : UInt64 := 1711843200
    let short := { Facts.plain [1] with notBefore := january, notAfter := 1746057600 }
    let long := { Facts.plain [1] with notBefore := january, notAfter := 253402300800 }
    (Sct.requiredLogs short.lifetimeMonths = 3 ∧ Sct.requiredLogs long.lifetimeMonths = 5 ∧
      Sct.requiredLogs short.lifetimeMonths ≤ Sct.requiredLogs long.lifetimeMonths) ∧
    ∃ first second whole, monthsBetween january february = .ok first ∧
      monthsBetween february march = .ok second ∧ monthsBetween january march = .ok whole ∧
        first.toNat + second.toNat ≤ whole.toNat := by
  intro january february march short long
  refine ⟨⟨by decide +kernel, by decide +kernel, ?_⟩, ?_⟩
  · exact requiredLogs_lifetime.1 short long (by decide) (by decide)
  · exact requiredLogs_lifetime.2.1 january february march (by decide) (by decide) (by decide)

end ChainTrust
