import ChainTrust.Bytes
import ChainTrust.Text.Pieces

namespace ChainTrust.Host.Address

open Text (pieces)

def decimal? (s : List Char) : Option Nat :=
  if s.all Char.isDigit then some (s.foldl (fun n c => n * 10 + (c.toNat - 48)) 0) else none

/-- One to three digits without a leading zero, at most 255. -/
def octet? (s : List Char) : Option UInt8 := do
  if s.isEmpty ∨ 3 < s.length ∨ (1 < s.length ∧ s.head? = some '0') then none
  else
    let n ← decimal? s
    if n < 256 then return UInt8.ofNat n else none

def dotted? (s : List Char) : Option Bytes :=
  let parts := pieces '.' s
  if parts.length = 4 then parts.mapM octet? else none

def hexValue? (c : Char) : Option Nat :=
  if c.isDigit then some (c.toNat - 48)
  else if 'a' ≤ c && c ≤ 'f' then some (c.toNat - 87)
  else if 'A' ≤ c && c ≤ 'F' then some (c.toNat - 55)
  else none

/-- One to four hexadecimal digits. -/
def group? (s : List Char) : Option Bytes := do
  if s.isEmpty ∨ 4 < s.length then none
  else
    let n ← s.foldlM (fun n c => (hexValue? c).map (n * 16 + ·)) 0
    return Bytes.fixed 2 n

/-- A list of groups, the last of which may be a dotted address if `dots` says so. -/
def groups? (dots : Bool) : List (List Char) → Option Bytes
  | [] => some []
  | [s] => if dots && s.contains '.' then dotted? s else group? s
  | s :: rest => do return (← group? s) ++ (← groups? dots rest)

/-- The groups on one side of a gap, which may be missing altogether. -/
def side? (dots : Bool) (s : List Char) : Option Bytes :=
  if s.isEmpty then some [] else groups? dots (pieces ':' s)

/-- What stands before and after the first pair of colons. -/
def splitGap : List Char → Option (List Char × List Char)
  | ':' :: ':' :: rest => some ([], rest)
  | c :: rest => (splitGap rest).map fun (l, r) => (c :: l, r)
  | [] => none

def colons? (s : List Char) : Option Bytes := do
  match splitGap s with
  | none =>
    let bytes ← groups? true (pieces ':' s)
    if bytes.length = 16 then return bytes else none
  | some (left, right) =>
    let l ← side? false left
    let r ← side? true right
    if l.length + r.length ≤ 14 then
      return l ++ List.replicate (16 - l.length - r.length) 0 ++ r
    else none

def ofLiteral? (s : List Char) : Option Bytes :=
  (dotted? s).or (colons? s)

/-- Brackets around a literal are ignored, however many there are. -/
def ofHost? (host : String) : Option Bytes :=
  ofLiteral? (((host.toList.dropWhile (· == '[')).reverse.dropWhile (· == ']')).reverse)

end ChainTrust.Host.Address
