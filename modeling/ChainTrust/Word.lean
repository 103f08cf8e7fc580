namespace ChainTrust.Word

def greatest : UInt64 := 0xFFFFFFFFFFFFFFFF

/-- The product, or the greatest word if it is larger. -/
def times (a b : UInt64) : UInt64 :=
  if a.toNat * b.toNat < UInt64.size then a * b else greatest

/-- The difference, or zero if it is negative. -/
def minus (a b : UInt64) : UInt64 :=
  if b ≤ a then a - b else 0

end ChainTrust.Word
