import ChainTrust.Calendar
import ChainTrust.Oid
import ChainTrust.Der.Reader

namespace ChainTrust.Der

open Reader

def booleanOf? : Bytes → Option Bool
  | [b] => if b = 0 then some false else if b = 0xFF then some true else none
  | _ => none

/-- The bytes of a nonnegative integer of any size, without a zero in front unless it is zero. -/
def magnitudeOf? (content : Bytes) : Option Bytes :=
  match content with
  | [] => none
  | [b] => if b < 0x80 then some [b] else none
  | b :: c :: rest =>
    if b = 0 then (if c < 0x80 then none else some (c :: rest))
    else if b < 0x80 then some content
    else none

/-- A nonnegative integer of at most `width` bytes, without needless zeros in front. -/
def unsignedOf? (width : Nat) (content : Bytes) : Option Nat :=
  (magnitudeOf? content).bind fun digits =>
    if digits.length ≤ width then some (Bytes.toNat digits) else none

/-- A signed integer of any size in its shortest form, left as bytes. -/
def signedOf? (content : Bytes) : Option Bytes :=
  match content with
  | [] => none
  | 0x00 :: b :: _ => if b < 0x80 then none else some content
  | 0xFF :: b :: _ => if b ≥ 0x80 then none else some content
  | _ => some content

structure BitString where
  unused : UInt8
  bytes : Bytes
deriving DecidableEq, Repr

def bitStringOf? : Bytes → Option BitString
  | [] => none
  | unused :: bytes =>
    if unused > 7 ∨ (unused ≠ 0 ∧ bytes.isEmpty) then none else some ⟨unused, bytes⟩

def BitString.content (b : BitString) : Bytes :=
  b.unused :: b.bytes

/-- The bits of a byte, the first being the highest. -/
def bitsOf (b : UInt8) : List Bool :=
  (List.range 8).map fun i => b.toNat.testBit (7 - i)

def BitString.bits (b : BitString) : List Bool :=
  (b.bytes.flatMap bitsOf).take (8 * b.bytes.length - b.unused.toNat)

def ia5Of? (content : Bytes) : Option String :=
  if content.all (· < 0x80) then some (String.ofList (content.map fun b => Char.ofNat b.toNat)) else none

def nullOf? (content : Bytes) : Option Unit :=
  if content.isEmpty then some () else none

namespace Reader

def boolean : Reader Bool := do lift (booleanOf? (← content Tag.boolean))
def unsignedInteger (width : Nat) : Reader Nat := do lift (unsignedOf? width (← content Tag.integer))
def magnitude : Reader Bytes := do lift (magnitudeOf? (← content Tag.integer))
def enumerated : Reader Nat := do lift (unsignedOf? 1 (← content Tag.enumerated))
def objectId : Reader Oid := do lift (Oid.ofBody? (← content Tag.objectId))
def octetString : Reader Bytes := content Tag.octetString
def bitString : Reader BitString := do lift (bitStringOf? (← content Tag.bitString))

end Reader

def oidElement (o : Oid) : Bytes := element Tag.objectId o.body

/-- A field that is left out when it has its default value false. -/
def booleanFlag (b : Bool) : Bytes :=
  if b then element Tag.boolean [0xFF] else []

def isDigit (b : UInt8) : Bool := 48 ≤ b && b ≤ 57

def number (digits : Bytes) : Nat :=
  digits.foldl (fun n b => n * 10 + (b.toNat - 48)) 0

/-- Unix time of a date and six digits of time of day followed by the letter for UTC. -/
def secondsOf? (date : Date) (rest : Bytes) : Option UInt64 :=
  match rest with
  | [a, b, c, d, e, f, z] =>
    let (hour, minute, second) := (number [a, b], number [c, d], number [e, f])
    if date.isValid ∧ hour < 24 ∧ minute < 60 ∧ second < 60 ∧ z = 90 then
      some (UInt64.ofNat (date.toDays * 86400 + hour * 3600 + minute * 60 + second))
    else none
  | _ => none

/-- Years of two digits are those from 1950 to 2049. -/
def utcTimeOf? (s : Bytes) : Option UInt64 :=
  match s with
  | a :: b :: c :: d :: e :: f :: rest =>
    if (s.take 12).all isDigit then
      let year := number [a, b]
      secondsOf? ⟨year + (if year ≥ 50 then 1900 else 2000), number [c, d], number [e, f]⟩ rest
    else none
  | _ => none

def generalizedTimeOf? (s : Bytes) : Option UInt64 :=
  match s with
  | a :: b :: c :: d :: e :: f :: g :: h :: rest =>
    if (s.take 14).all isDigit then
      secondsOf? ⟨number [a, b, c, d], number [e, f], number [g, h]⟩ rest
    else none
  | _ => none

def Reader.generalizedTime : Reader UInt64 := do lift (generalizedTimeOf? (← content Tag.generalizedTime))

/-- The last two digits of a number in ASCII. -/
def twoDigits (n : Nat) : Bytes :=
  [UInt8.ofNat (48 + n / 10 % 10), UInt8.ofNat (48 + n % 10)]

def dayAndTime (d : Date) (seconds : Nat) : Bytes :=
  twoDigits d.month ++ twoDigits d.day ++ twoDigits (seconds / 3600 % 24) ++
    twoDigits (seconds / 60 % 60) ++ twoDigits (seconds % 60) ++ [90]

def utcTimeContent (seconds : UInt64) : Bytes :=
  let d := Date.ofDays (seconds.toNat / 86400)
  twoDigits d.year ++ dayAndTime d seconds.toNat

def generalizedTimeContent (seconds : UInt64) : Bytes :=
  let d := Date.ofDays (seconds.toNat / 86400)
  twoDigits (d.year / 100) ++ twoDigits d.year ++ dayAndTime d seconds.toNat

end ChainTrust.Der
