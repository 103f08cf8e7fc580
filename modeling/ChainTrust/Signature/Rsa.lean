import ChainTrust.Certificate.OfDer

namespace ChainTrust

/-- A power modulo `m`, by squaring. -/
def powMod (base exponent m : Nat) : Nat :=
  if exponent = 0 then 1 % m
  else
    let half := powMod (base * base % m) (exponent / 2) m
    if exponent % 2 = 1 then base * half % m else half
termination_by exponent
decreasing_by omega

namespace Rsa

structure Key where
  modulus : Nat
  exponent : Nat

def maxBits : Nat := 4096
def exponentBound : Nat := 0x200000000

/-- An odd modulus of at most 4096 bits, and a smaller odd exponent from 2 on, of at most 33 bits. -/
def Key.isSound (k : Key) : Bool :=
  k.modulus.log2 < maxBits && k.modulus % 2 = 1 && k.exponent % 2 = 1 &&
    2 ≤ k.exponent && k.exponent < exponentBound && k.exponent < k.modulus

/-- The key of a structure that names this algorithm with a null parameter. -/
def Key.ofPublicKey? (k : X509.PublicKey) : Option Key := do
  guard (k.algorithm == ⟨.rsaEncryption, some (Der.Tag.null, [])⟩)
  guard (k.key.unused = 0)
  let (modulus, exponent) ← Der.Reader.all X509.readRsaKey k.key.bytes
  let key : Key := ⟨Bytes.toNat modulus, Bytes.toNat exponent⟩
  guard key.isSound
  return key

/-- Length of the modulus in bytes. -/
def Key.size (k : Key) : Nat :=
  (Bytes.ofNat k.modulus).length

/-- The digest in the structure that names its algorithm. -/
def digestInfo (algorithm : Oid) (digest : Bytes) : Bytes :=
  Der.sequence
    [ Der.sequence [Der.oidElement algorithm, Der.element Der.Tag.null []],
      Der.element Der.Tag.octetString digest ]

/-- The padded form, at least eight bytes longer than its content with the three marks. -/
def padded? (size : Nat) (content : Bytes) : Option Bytes :=
  if content.length + 11 ≤ size then
    some (0 :: 1 :: List.replicate (size - content.length - 3) 0xFF ++ 0 :: content)
  else none

def verify (k : Key) (algorithm : Oid) (digest signature : Bytes) : Bool :=
  let s := Bytes.toNat signature
  signature.length == k.size && s < k.modulus &&
    padded? k.size (digestInfo algorithm digest) ==
      some (Bytes.fixed k.size (powMod s k.exponent k.modulus))

end Rsa
end ChainTrust
