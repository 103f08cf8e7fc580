import ChainTrust.Text.Blank
import ChainTrust.Text.Pieces
import ChainTrust.Text.Ranges

namespace ChainTrust.Text.Table

def digit (c : Char) : Nat :=
  if c.isDigit then c.toNat - 48 else c.toNat - 87

def number (s : List Char) : Nat :=
  s.foldl (fun n c => n * 16 + digit c) 0

def words (s : String) : List (List Char) :=
  (pieces ' ' (s.toList.map fun c => if isBlank c then ' ' else c)).filter (!·.isEmpty)

/-- A word is the first and the last member of a range, or its only one. -/
def ranges (s : String) : Ranges :=
  (words s).map fun w =>
    match pieces '-' w with
    | [first, last] => (number first, number last)
    | _ => (number w, number w)

/-- The code point that the next word is about, and the rows read so far. -/
structure Reading where
  next : Nat
  rows : List (Nat × List Nat)

def Reading.step (reading : Reading) (word : List Char) : Reading :=
  if word.getLast? = some ':' then ⟨number word.dropLast, reading.rows⟩
  else ⟨reading.next + 1, (reading.next, (pieces '.' word).map number) :: reading.rows⟩

/-- A word that ends in a colon says which code point the next word is about; each other word is the
sequence for one code point, and the next word is about the one after it. -/
def sequences (s : String) : List (Nat × List Nat) :=
  ((words s).foldl Reading.step ⟨0, []⟩).rows.reverse

end ChainTrust.Text.Table
