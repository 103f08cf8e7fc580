import ChainTrust.Error

namespace ChainTrust

/-- The greatest number up to a bound with a property, or zero. -/
def greatest (p : Nat → Bool) : Nat → Nat
  | 0 => 0
  | n + 1 => if p (n + 1) then n + 1 else greatest p n

structure Date where
  year : Nat
  month : Nat
  day : Nat
deriving DecidableEq, Repr

namespace Calendar

def isLeap (year : Nat) : Bool :=
  year % 4 = 0 && (year % 100 ≠ 0 || year % 400 = 0)

def leapsBefore (year : Nat) : Nat :=
  (year - 1) / 4 - (year - 1) / 100 + (year - 1) / 400

/-- Days from the start of 1970 to the start of a year counted from 1970. -/
def daysBeforeYear (years : Nat) : Nat :=
  365 * years + (leapsBefore (1970 + years) - leapsBefore 1970)

def monthLength (year month : Nat) : Nat :=
  if month = 2 then (if isLeap year then 29 else 28)
  else if month = 4 ∨ month = 6 ∨ month = 9 ∨ month = 11 then 30
  else 31

/-- Days from the start of a year to the start of a month counted from January as zero. -/
def daysBeforeMonth (year : Nat) : Nat → Nat
  | 0 => 0
  | month + 1 => daysBeforeMonth year month + monthLength year (month + 1)

def yearsIn (days : Nat) : Nat :=
  greatest (fun years => daysBeforeYear years ≤ days) (days / 365)

def monthsIn (year dayOfYear : Nat) : Nat :=
  greatest (fun month => daysBeforeMonth year month ≤ dayOfYear) 11

end Calendar

open Calendar

def Date.ofDays (days : Nat) : Date :=
  let years := yearsIn days
  let year := 1970 + years
  let dayOfYear := days - daysBeforeYear years
  let month := monthsIn year dayOfYear
  ⟨year, month + 1, dayOfYear - daysBeforeMonth year month + 1⟩

def Date.toDays (d : Date) : Nat :=
  daysBeforeYear (d.year - 1970) + daysBeforeMonth d.year (d.month - 1) + (d.day - 1)

def Date.isValid (d : Date) : Bool :=
  1970 ≤ d.year && d.year ≤ 9999 && 1 ≤ d.month && d.month ≤ 12 &&
    1 ≤ d.day && d.day ≤ monthLength d.year d.month

/-- Months since the year zero. -/
def Date.months (d : Date) : Nat :=
  12 * d.year + d.month

namespace Calendar

/-- The last second of the year 9999. -/
def lastSecond : Nat := 253402300799

def date (seconds : UInt64) : Result Date :=
  if seconds.toNat ≤ lastSecond then .ok (Date.ofDays (seconds.toNat / 86400)) else .error .badDer

/-- Whole months from one time to a later one. A month is whole once its day of month is reached. -/
def monthsBetween (start finish : UInt64) : Result UInt64 :=
  if finish ≤ start then .ok 0
  else do
    let s ← date start
    let f ← date finish
    let whole := f.months - s.months
    return UInt64.ofNat (if f.day < s.day then whole - 1 else whole)

/-- A number in decimal with leading zeros. -/
def padded (width n : Nat) : String :=
  let digits := toString n
  String.ofList (List.replicate (width - digits.length) '0') ++ digits

def text (seconds : UInt64) : Result String := do
  let d ← date seconds
  let s := seconds.toNat % 86400
  return s!"{padded 4 d.year}-{padded 2 d.month}-{padded 2 d.day}T" ++
    s!"{padded 2 (s / 3600)}:{padded 2 (s / 60 % 60)}:{padded 2 (s % 60)}Z"

end Calendar
end ChainTrust
