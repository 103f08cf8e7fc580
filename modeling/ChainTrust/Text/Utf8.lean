import ChainTrust.Bytes

namespace ChainTrust.Utf8

def encode (s : List Char) : Bytes :=
  s.flatMap String.utf8EncodeChar

def ofText (s : String) : Bytes :=
  encode s.toList

/-- The six bits of a byte that continues a character. -/
def tail? (b : UInt8) : Option Nat :=
  if 0x80 ≤ b && b < 0xC0 then some (b.toNat - 0x80) else none

/-- The character numbered `n`, if its form is not longer than needed. -/
def char? (least n : Nat) : Option Char :=
  if h : least ≤ n ∧ n.isValidChar then some (Char.ofNatAux n h.2) else none

def two? (a b : UInt8) : Option Char := do
  char? 0x80 ((a.toNat - 0xC0) * 64 + (← tail? b))

def three? (a b c : UInt8) : Option Char := do
  char? 0x800 (((a.toNat - 0xE0) * 64 + (← tail? b)) * 64 + (← tail? c))

def four? (a b c d : UInt8) : Option Char := do
  char? 0x10000 ((((a.toNat - 0xF0) * 64 + (← tail? b)) * 64 + (← tail? c)) * 64 + (← tail? d))

def decode? : Bytes → Option (List Char)
  | [] => some []
  | a :: r =>
    if a < 0x80 then (decode? r).map (Char.ofNat a.toNat :: ·)
    else if a < 0xC0 then none
    else match r with
      | [] => none
      | b :: r =>
        if a < 0xE0 then do return (← two? a b) :: (← decode? r)
        else match r with
          | [] => none
          | c :: r =>
            if a < 0xF0 then do return (← three? a b c) :: (← decode? r)
            else match r with
              | [] => none
              | d :: r => if a < 0xF8 then do return (← four? a b c d) :: (← decode? r) else none

def text? (bytes : Bytes) : Option String :=
  (decode? bytes).map String.ofList

end ChainTrust.Utf8
