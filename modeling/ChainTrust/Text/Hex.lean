import ChainTrust.Error
import ChainTrust.Bytes
import ChainTrust.Text.Blank
import ChainTrust.Text.LetterCase

namespace ChainTrust.Hex

open Text

def lowerDigit (n : Nat) : Char :=
  if n < 10 then Char.ofNat (48 + n) else Char.ofNat (87 + n)

def upperDigit (n : Nat) : Char :=
  if n < 10 then Char.ofNat (48 + n) else Char.ofNat (55 + n)

def digits (digit : Nat → Char) (bytes : Bytes) : List Char :=
  bytes.flatMap fun b => [digit (b.toNat / 16), digit (b.toNat % 16)]

def lower (bytes : Bytes) : String :=
  String.ofList (digits lowerDigit bytes)

def upper (bytes : Bytes) : String :=
  String.ofList (digits upperDigit bytes)

/-- Only lower case letters are digits. -/
def value? (c : Char) : Option Nat :=
  if '0' ≤ c && c ≤ '9' then some (c.toNat - 48)
  else if 'a' ≤ c && c ≤ 'f' then some (c.toNat - 87)
  else none

def bytes? : List Char → Option Bytes
  | [] => some []
  | [_] => none
  | a :: b :: rest => do
    return UInt8.ofNat ((← value? a) * 16 + (← value? b)) :: (← bytes? rest)

def clean (s : List Char) : List Char :=
  s.filter fun c => !isBlank c && c != ':'

def decode (s : String) : Result Bytes :=
  match bytes? (Text.lower (clean s.toList)) with
  | some bytes => .ok bytes
  | none => .error (.invalidOption ("not hex: " ++ s))

end ChainTrust.Hex
