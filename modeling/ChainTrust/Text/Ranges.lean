namespace ChainTrust.Text

/-- First and last code point of each range, in ascending order. -/
abbrev Ranges := List (Nat × Nat)

def Ranges.contains (ranges : Ranges) (c : Char) : Bool :=
  ranges.any fun (first, last) => first ≤ c.toNat && c.toNat ≤ last

/-- First and last code point, the distance between two code points of the row, and the offset to
their images. -/
abbrev Rows := List (Nat × Nat × Nat × Int)

def Rows.image? (rows : Rows) (n : Nat) : Option Nat :=
  match rows.find? fun (first, last, step, _) => first ≤ n && n ≤ last && (n - first) % step == 0 with
  | some (_, _, _, offset) => some (n + offset).toNat
  | none => none

end ChainTrust.Text
