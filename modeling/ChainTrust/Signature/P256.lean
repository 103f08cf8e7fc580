import ChainTrust.Signature.Rsa

namespace ChainTrust.P256

/-- The field, the order of the base point, the constant term, and the base point. -/
def p : Nat := 0xffffffff00000001000000000000000000000000ffffffffffffffffffffffff
def order : Nat := 0xffffffff00000000ffffffffffffffffbce6faada7179e84f3b9cac2fc632551
def b : Nat := 0x5ac635d8aa3a93e7b3ebbd55769886bc651d06b0cc53b0f63bce3c3e27d2604b
def baseX : Nat := 0x6b17d1f2e12c4247f8bce6e563a440f277037d812deb33a0f4a13945d898c296
def baseY : Nat := 0x4fe342e2fe1a7f9b8ee7eb4a7c0f9e162bce33576b315ececbb6406837bf51f5

/-- A point in Jacobian coordinates; it is at infinity if `z` is zero. -/
structure Point where
  x : Nat
  y : Nat
  z : Nat
deriving DecidableEq

def infinity : Point := ⟨1, 1, 0⟩
def base : Point := ⟨baseX, baseY, 1⟩

def sub (a c : Nat) : Nat := (a + (p - c % p)) % p

def double (q : Point) : Point :=
  let delta := q.z * q.z % p
  let gamma := q.y * q.y % p
  let beta := q.x * gamma % p
  let alpha := 3 * sub q.x delta * (q.x + delta) % p
  let x := sub (alpha * alpha) (8 * beta)
  let z := sub (sub ((q.y + q.z) * (q.y + q.z)) gamma) delta
  let y := sub (alpha * sub (4 * beta) x) (8 * gamma * gamma)
  ⟨x, y, z⟩

def add (q r : Point) : Point :=
  if q.z = 0 then r
  else if r.z = 0 then q
  else
    let z1z1 := q.z * q.z % p
    let z2z2 := r.z * r.z % p
    let u1 := q.x * z2z2 % p
    let u2 := r.x * z1z1 % p
    let s1 := q.y * r.z * z2z2 % p
    let s2 := r.y * q.z * z1z1 % p
    if u1 = u2 then (if s1 = s2 then double q else infinity)
    else
      let h := sub u2 u1
      let w := sub s2 s1
      let hh := h * h % p
      let hhh := h * hh % p
      let v := u1 * hh % p
      let x := sub (sub (w * w) hhh) (2 * v)
      let y := sub (w * sub v x) (s1 * hhh)
      ⟨x, y, q.z * r.z * h % p⟩

/-- The sum of `n` times one point and `m` times another. -/
def combine (n m : Nat) (q r : Point) : Point :=
  if n = 0 ∧ m = 0 then infinity
  else
    let d := double (combine (n / 2) (m / 2) q r)
    let d := if n % 2 = 1 then add d q else d
    if m % 2 = 1 then add d r else d
termination_by n + m
decreasing_by omega

/-- The first coordinate in the plane, unless the point is at infinity. -/
def affineX? (q : Point) : Option Nat :=
  if q.z % p = 0 then none
  else
    let inverse := powMod q.z (p - 2) p
    some (q.x * inverse * inverse % p)

def curveSide (x : Nat) : Nat :=
  sub (x * x * x + b) (3 * x)

def onCurve (x y : Nat) : Bool :=
  x < p && y < p && y * y % p == curveSide x

/-- A square root, if there is one. -/
def root? (n : Nat) : Option Nat :=
  let r := powMod n ((p + 1) / 4) p
  if r * r % p = n then some r else none

/-- The point with a given first coordinate whose second one is chosen by `pick` out of a root and
its negative. -/
def lift? (x : Nat) (pick : Nat → Nat → Nat) : Option Point := do
  guard (x < p)
  let y ← root? (curveSide x)
  return ⟨x, pick y (sub 0 y), 1⟩

def withParity (odd : Bool) (y negative : Nat) : Nat :=
  if (y % 2 == 1) == odd then y else negative

/-- A point written in full, or by its first coordinate and a choice of the second. -/
def point? : Bytes → Option Point
  | [] => none
  | tag :: rest => do
    let x := Bytes.toNat (rest.take 32)
    if tag = 4 ∧ rest.length = 64 then
      let y := Bytes.toNat (rest.drop 32)
      guard (onCurve x y)
      return ⟨x, y, 1⟩
    else
      guard (rest.length = 32)
      if tag = 2 then lift? x (withParity false)
      else if tag = 3 then lift? x (withParity true)
      else if tag = 5 then lift? x min
      else none

/-- Two numbers from 1 to below the order of the base point. -/
def signature? (der : Bytes) : Option (Nat × Nat) := do
  let (r, s) ← Der.Reader.all X509.readRsaKey der
  let (r, s) := (Bytes.toNat r, Bytes.toNat s)
  guard (0 < r ∧ r < order ∧ 0 < s ∧ s < order)
  return (r, s)

def verify (key : Point) (digest : Bytes) (r s : Nat) : Bool :=
  let inverse := powMod s (order - 2) order
  let e := Bytes.toNat digest
  match affineX? (combine (e * inverse % order) (r * inverse % order) base key) with
  | some x => x % order == r
  | none => false

end ChainTrust.P256
