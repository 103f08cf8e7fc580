import ChainTrust.Digest.Padding

namespace ChainTrust.Digest.Sha1

structure State where
  a : UInt32
  b : UInt32
  c : UInt32
  d : UInt32
  e : UInt32

def initial : State :=
  ⟨0x67452301, 0xefcdab89, 0x98badcfe, 0x10325476, 0xc3d2e1f0⟩

def rotl (x : UInt32) (n : UInt32) : UInt32 :=
  x <<< n ||| x >>> (32 - n)

def words : Bytes → List UInt32
  | a :: b :: c :: d :: rest => UInt32.ofNat (Bytes.toNat [a, b, c, d]) :: words rest
  | _ => []

def extend (w : Array UInt32) (t : Nat) : Array UInt32 :=
  w.push (rotl (w.getD (t - 3) 0 ^^^ w.getD (t - 8) 0 ^^^ w.getD (t - 14) 0 ^^^ w.getD (t - 16) 0) 1)

def schedule (block : List UInt32) : List UInt32 :=
  ((List.range' 16 64).foldl extend block.toArray).toList

def choose (x y z : UInt32) : UInt32 := x &&& y ||| ~~~x &&& z
def parity (x y z : UInt32) : UInt32 := x ^^^ y ^^^ z
def majority (x y z : UInt32) : UInt32 := x &&& y ||| x &&& z ||| y &&& z

/-- The function and the constant of round `t`. -/
def roundRule (t : Nat) : (UInt32 → UInt32 → UInt32 → UInt32) × UInt32 :=
  if t < 20 then (choose, 0x5a827999)
  else if t < 40 then (parity, 0x6ed9eba1)
  else if t < 60 then (majority, 0x8f1bbcdc)
  else (parity, 0xca62c1d6)

def round (s : State) (item : UInt32 × Nat) : State :=
  let (f, k) := roundRule item.2
  ⟨rotl s.a 5 + f s.b s.c s.d + s.e + k + item.1, s.a, rotl s.b 30, s.c, s.d⟩

def compress (s : State) (block : List UInt32) : State :=
  let r := (schedule block).zipIdx.foldl round s
  ⟨s.a + r.a, s.b + r.b, s.c + r.c, s.d + r.d, s.e + r.e⟩

def digest (message : Bytes) : Bytes :=
  let s := foldBlocks 16 compress initial (words (pad 64 8 message))
  [s.a, s.b, s.c, s.d, s.e].flatMap fun w => Bytes.fixed 4 w.toNat

end ChainTrust.Digest.Sha1
