import ChainTrust.Json
import ChainTrust.Text.Utf8

namespace ChainTrust.Json

inductive Token where
  | openList
  | closeList
  | openObject
  | closeObject
  | comma
  | colon
  | text (s : Option String)
  | scalar (value : Json)

namespace Token

/-- A part of a quoted text: a byte as it stands, or a UTF-16 unit given by its number. -/
inductive Piece where
  | byte (b : UInt8)
  | unit (n : Nat)

def hexValue? (b : UInt8) : Option Nat :=
  if 48 ≤ b && b ≤ 57 then some (b.toNat - 48)
  else if 97 ≤ b && b ≤ 102 then some (b.toNat - 87)
  else if 65 ≤ b && b ≤ 70 then some (b.toNat - 55)
  else none

def unit? (a b c d : UInt8) : Option Nat := do
  return (((← hexValue? a) * 16 + (← hexValue? b)) * 16 + (← hexValue? c)) * 16 + (← hexValue? d)

/-- What the letter after a backslash stands for. -/
def escaped? (b : UInt8) : Option UInt8 :=
  if b = 34 ∨ b = 92 ∨ b = 47 then some b
  else if b = 98 then some 8
  else if b = 102 then some 12
  else if b = 110 then some 10
  else if b = 114 then some 13
  else if b = 116 then some 9
  else none

/-- The pieces up to the closing quote, put before `pieces` in reverse. Control characters must be
escaped. -/
def quoted? (pieces : List Piece) : Bytes → Option (List Piece × Bytes)
  | [] => none
  | 34 :: rest => some (pieces.reverse, rest)
  | 92 :: 117 :: a :: b :: c :: d :: rest =>
    match unit? a b c d with
    | some n => quoted? (.unit n :: pieces) rest
    | none => none
  | 92 :: b :: rest =>
    match escaped? b with
    | some e => quoted? (.byte e :: pieces) rest
    | none => none
  | b :: rest => if b < 0x20 then none else quoted? (.byte b :: pieces) rest

def isHighUnit (n : Nat) : Bool := 0xD800 ≤ n && n < 0xDC00
def isLowUnit (n : Nat) : Bool := 0xDC00 ≤ n && n < 0xE000

/-- The bytes of a text. A unit that is half of a pair must have its other half beside it. -/
def joined? (bytes : Bytes) : List Piece → Option Bytes
  | [] => some bytes.reverse
  | .byte b :: rest => joined? (b :: bytes) rest
  | .unit n :: .unit m :: rest =>
    if isHighUnit n then
      if isLowUnit m then
        let c := Char.ofNat (0x10000 + (n - 0xD800) * 0x400 + (m - 0xDC00))
        joined? ((String.utf8EncodeChar c).reverse ++ bytes) rest
      else none
    else if isLowUnit n then none
    else joined? ((String.utf8EncodeChar (Char.ofNat n)).reverse ++ bytes) (.unit m :: rest)
  | .unit n :: rest =>
    if isHighUnit n || isLowUnit n then none
    else joined? ((String.utf8EncodeChar (Char.ofNat n)).reverse ++ bytes) rest

def textOf? (pieces : List Piece) : Option String :=
  (joined? [] pieces).bind Utf8.text?

def isDigit (b : UInt8) : Bool := 48 ≤ b && b ≤ 57

def valueOf (digits : Bytes) : Nat :=
  digits.foldl (fun n b => n * 10 + (b.toNat - 48)) 0

def digits (s : Bytes) : Bytes × Bytes :=
  (s.takeWhile isDigit, s.dropWhile isDigit)

/-- One digit at least, and no zero before another. -/
def whole? (s : Bytes) : Option (Bytes × Bytes) :=
  match digits s with
  | ([], _) => none
  | (48 :: _ :: _, _) => none
  | found => some found

def fraction? : Bytes → Option (Option Bytes × Bytes)
  | 46 :: rest =>
    match digits rest with
    | ([], _) => none
    | (found, rest) => some (some found, rest)
  | s => some (none, s)

def sign : Bytes → Bool × Bytes
  | 45 :: rest => (true, rest)
  | s => (false, s)

def exponent? : Bytes → Option (Option Int × Bytes)
  | b :: rest =>
    if b = 101 ∨ b = 69 then
      let (negative, rest) := match rest with
        | 43 :: rest => (false, rest)
        | rest => sign rest
      match digits rest with
      | ([], _) => none
      | (found, rest) =>
        let n : Int := valueOf found
        some (some (if negative then -n else n), rest)
    else some (none, b :: rest)
  | [] => some (none, [])

/-- The least number that is too large for a floating point number of 64 bits to be near it. -/
def realBound : Nat := (1 <<< 1024) - (1 <<< 970)

def tens : Nat → Nat
  | 0 => 1
  | e + 1 => tens e * 10

/-- Whether `n * 10 ^ e` is below the bound. Its count of digits decides unless it is close. -/
def isInRange (n : Nat) (e : Int) : Bool :=
  let size : Int := (toString n).length + e
  if n = 0 ∨ size ≤ 308 then true
  else if 310 ≤ size then false
  else if 0 ≤ e then n * tens e.toNat < realBound
  else n < realBound * tens (-e).toNat

def numberOf (negative : Bool) (whole : Bytes) (fraction : Option Bytes) (exponent : Option Int) : Json :=
  let n : Int := valueOf whole
  let signed := if negative then -n else n
  if fraction.isNone && exponent.isNone && leastInteger ≤ signed && signed < integerBound &&
      !(negative && n == 0) then .integer signed
  else
    let places := fraction.getD []
    if isInRange (valueOf (whole ++ places)) (exponent.getD 0 - places.length) then .real
    else .unreadable

def number? (s : Bytes) : Option (Json × Bytes) := do
  let (negative, rest) := sign s
  let (whole, rest) ← whole? rest
  let (fraction, rest) ← fraction? rest
  let (exponent, rest) ← exponent? rest
  return (numberOf negative whole fraction exponent, rest)

/-- The first token of a text that does not begin with white space. -/
def first? : Bytes → Option (Token × Bytes)
  | [] => none
  | 91 :: rest => some (.openList, rest)
  | 93 :: rest => some (.closeList, rest)
  | 123 :: rest => some (.openObject, rest)
  | 125 :: rest => some (.closeObject, rest)
  | 44 :: rest => some (.comma, rest)
  | 58 :: rest => some (.colon, rest)
  | 34 :: rest => (quoted? [] rest).map fun (pieces, rest) => (.text (textOf? pieces), rest)
  | 110 :: 117 :: 108 :: 108 :: rest => some (.scalar .null, rest)
  | 116 :: 114 :: 117 :: 101 :: rest => some (.scalar (.bool true), rest)
  | 102 :: 97 :: 108 :: 115 :: 101 :: rest => some (.scalar (.bool false), rest)
  | s => (number? s).map fun (value, rest) => (.scalar value, rest)

def isSpace (b : UInt8) : Bool :=
  b = 32 || b = 9 || b = 10 || b = 13

/-- All tokens of a text, put before `found` in reverse. -/
def scan? (found : List Token) (s : Bytes) : Option (List Token) :=
  let start := s.dropWhile isSpace
  if start.isEmpty then some found.reverse
  else match first? start with
    | none => none
    | some (token, rest) => if rest.length < s.length then scan? (token :: found) rest else none
termination_by s.length

end Token
end ChainTrust.Json
