namespace ChainTrust

abbrev Bytes := List UInt8

namespace Bytes

/-- The number a byte string writes, most significant byte first. -/
def toNat (bytes : Bytes) : Nat :=
  bytes.foldl (fun n b => n * 256 + b.toNat) 0

/-- How many numbers have a form of `width` bytes. -/
def capacity : Nat → Nat
  | 0 => 1
  | width + 1 => 256 * capacity width

/-- A number modulo the capacity, in exactly `width` bytes. -/
def fixed : Nat → Nat → Bytes
  | 0, _ => []
  | width + 1, n => fixed width (n / 256) ++ [UInt8.ofNat n]

theorem length_fixed (width n : Nat) : (fixed width n).length = width := by
  induction width generalizing n with
  | zero => rfl
  | succ width ih => simp [fixed, ih]

def split? (n : Nat) (bytes : Bytes) : Option (Bytes × Bytes) :=
  if n ≤ bytes.length then some (bytes.take n, bytes.drop n) else none

def word? (width : Nat) (bytes : Bytes) : Option (Nat × Bytes) :=
  (split? width bytes).map fun (word, rest) => (toNat word, rest)

/-- A block is a length of `width` bytes and as many bytes as it says. -/
def block? (width : Nat) (bytes : Bytes) : Option (Bytes × Bytes) := do
  let (size, rest) ← word? width bytes
  split? size rest

/-- Refuses a content whose length does not fit into `width` bytes. -/
def block (width : Nat) (content : Bytes) : Option Bytes :=
  if content.length < capacity width then some (fixed width content.length ++ content) else none

def dropZeros (bytes : Bytes) : Bytes :=
  bytes.dropWhile (· == 0)

end Bytes
end ChainTrust
