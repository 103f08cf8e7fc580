import ChainTrust.Bytes

namespace ChainTrust

/-- An object identifier by the body of its DER form. -/
structure Oid where
  body : Bytes
deriving DecidableEq, Repr

namespace Oid

def maxLength : Nat := 39

/-- The groups of seven bits of a number, all but the last marked by a high bit. -/
def arcBytes (n : Nat) : Bytes :=
  if n < 128 then [UInt8.ofNat n] else marked (n / 128) ++ [UInt8.ofNat (n % 128)]
where
  marked (n : Nat) : Bytes :=
    if n < 128 then [UInt8.ofNat (n + 128)] else marked (n / 128) ++ [UInt8.ofNat (n % 128 + 128)]

/-- Refuses fewer than three arcs, root arcs outside `0..2` and `0..39`, and long forms. -/
def ofArcs? : List Nat → Option Oid
  | a :: b :: c :: rest =>
    if a ≤ 2 ∧ b ≤ 39 then
      let body := UInt8.ofNat (a * 40 + b) :: (c :: rest).flatMap arcBytes
      if body.length ≤ maxLength then some ⟨body⟩ else none
    else none
  | _ => none

/-- The arcs of a list of digits and dots, given the arc read so far. An arc may have no digits,
except the first and the last, and it is kept to 32 bits. -/
def arcsAfter? (arc : Nat) : List Char → Option (List Nat)
  | [] => some [arc]
  | c :: rest =>
    if c.isDigit then arcsAfter? ((arc * 10 + (c.toNat - 48)) % UInt32.size) rest
    else if c = '.' && !rest.isEmpty then (arcsAfter? 0 rest).map (arc :: ·)
    else none

def ofText? (s : String) : Option Oid :=
  match s.toList with
  | [] => none
  | c :: rest => if c.isDigit then (arcsAfter? 0 (c :: rest)).bind ofArcs? else none

/-- The identifier with the given arcs; empty if they are no identifier. -/
def ofArcs (arcs : List Nat) : Oid :=
  (ofArcs? arcs).getD ⟨[]⟩

/-- The arcs written after the first byte, given the bits of an unfinished arc and their bytes.
The fifth byte of an arc and those after it must be small. -/
def arcsFrom? (bits : UInt32) (count : Nat) : Bytes → Option (List Nat)
  | [] => if count = 0 then some [] else none
  | b :: rest =>
    if count ≥ 4 ∧ b &&& 0xF0 ≠ 0 then none
    else
      let bits := bits <<< 7 ||| (b &&& 0x7F).toUInt32
      if b < 0x80 then (arcsFrom? 0 0 rest).map (bits.toNat :: ·)
      else arcsFrom? bits (count + 1) rest

def arcs? (o : Oid) : Option (List Nat) :=
  match o.body with
  | [] => none
  | b :: rest =>
    if b.toNat / 40 ≤ 2 then (arcsFrom? 0 0 rest).map (b.toNat / 40 :: b.toNat % 40 :: ·) else none

/-- The identifier with a DER body, which has at least three bytes. -/
def ofBody? (body : Bytes) : Option Oid :=
  if 3 ≤ body.length ∧ body.length ≤ maxLength ∧ (arcs? ⟨body⟩).isSome then some ⟨body⟩ else none

def text (o : Oid) : String :=
  ".".intercalate ((o.arcs?.getD []).map toString)

end Oid

namespace Oid

def rsaEncryption : Oid := ofArcs [1, 2, 840, 113549, 1, 1, 1]
def ecPublicKey : Oid := ofArcs [1, 2, 840, 10045, 2, 1]
def secp224r1 : Oid := ofArcs [1, 3, 132, 0, 33]
def secp256r1 : Oid := ofArcs [1, 2, 840, 10045, 3, 1, 7]
def secp384r1 : Oid := ofArcs [1, 3, 132, 0, 34]
def secp521r1 : Oid := ofArcs [1, 3, 132, 0, 35]

def sha1 : Oid := ofArcs [1, 3, 14, 3, 2, 26]
def sha224 : Oid := ofArcs [2, 16, 840, 1, 101, 3, 4, 2, 4]
def sha256 : Oid := ofArcs [2, 16, 840, 1, 101, 3, 4, 2, 1]
def sha384 : Oid := ofArcs [2, 16, 840, 1, 101, 3, 4, 2, 2]
def sha512 : Oid := ofArcs [2, 16, 840, 1, 101, 3, 4, 2, 3]

def md2WithRsa : Oid := ofArcs [1, 2, 840, 113549, 1, 1, 2]
def md4WithRsa : Oid := ofArcs [1, 2, 840, 113549, 1, 1, 3]
def md5WithRsa : Oid := ofArcs [1, 2, 840, 113549, 1, 1, 4]
def sha1WithRsa : Oid := ofArcs [1, 2, 840, 113549, 1, 1, 5]
def sha224WithRsa : Oid := ofArcs [1, 2, 840, 113549, 1, 1, 14]
def sha256WithRsa : Oid := ofArcs [1, 2, 840, 113549, 1, 1, 11]
def sha384WithRsa : Oid := ofArcs [1, 2, 840, 113549, 1, 1, 12]
def sha512WithRsa : Oid := ofArcs [1, 2, 840, 113549, 1, 1, 13]
def ecdsaWithSha1 : Oid := ofArcs [1, 2, 840, 10045, 4, 1]
def ecdsaWithSha224 : Oid := ofArcs [1, 2, 840, 10045, 4, 3, 1]
def ecdsaWithSha256 : Oid := ofArcs [1, 2, 840, 10045, 4, 3, 2]
def ecdsaWithSha384 : Oid := ofArcs [1, 2, 840, 10045, 4, 3, 3]
def ecdsaWithSha512 : Oid := ofArcs [1, 2, 840, 10045, 4, 3, 4]

def subjectKeyIdentifier : Oid := ofArcs [2, 5, 29, 14]
def keyUsage : Oid := ofArcs [2, 5, 29, 15]
def subjectAltName : Oid := ofArcs [2, 5, 29, 17]
def issuerAltName : Oid := ofArcs [2, 5, 29, 18]
def basicConstraints : Oid := ofArcs [2, 5, 29, 19]
def nameConstraints : Oid := ofArcs [2, 5, 29, 30]
def crlDistributionPoints : Oid := ofArcs [2, 5, 29, 31]
def certificatePolicies : Oid := ofArcs [2, 5, 29, 32]
def policyMappings : Oid := ofArcs [2, 5, 29, 33]
def authorityKeyIdentifier : Oid := ofArcs [2, 5, 29, 35]
def policyConstraints : Oid := ofArcs [2, 5, 29, 36]
def extendedKeyUsage : Oid := ofArcs [2, 5, 29, 37]
def inhibitAnyPolicy : Oid := ofArcs [2, 5, 29, 54]
def anyPolicy : Oid := ofArcs [2, 5, 29, 32, 0]
def anyExtendedKeyUsage : Oid := ofArcs [2, 5, 29, 37, 0]

def embeddedSctList : Oid := ofArcs [1, 3, 6, 1, 4, 1, 11129, 2, 4, 2]
def ocspSctList : Oid := ofArcs [1, 3, 6, 1, 4, 1, 11129, 2, 4, 5]
def ocspBasic : Oid := ofArcs [1, 3, 6, 1, 5, 5, 7, 48, 1, 1]

def emailAddress : Oid := ofArcs [1, 2, 840, 113549, 1, 9, 1]
def commonName : Oid := ofArcs [2, 5, 4, 3]
def countryName : Oid := ofArcs [2, 5, 4, 6]
def localityName : Oid := ofArcs [2, 5, 4, 7]
def stateName : Oid := ofArcs [2, 5, 4, 8]
def organizationName : Oid := ofArcs [2, 5, 4, 10]
def organizationalUnitName : Oid := ofArcs [2, 5, 4, 11]
def domainComponent : Oid := ofArcs [0, 9, 2342, 19200300, 100, 1, 25]

end Oid
end ChainTrust
