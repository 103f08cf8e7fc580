import ChainTrust.Name.Text

namespace ChainTrust

open Text

/-- A text without the differences that comparison ignores. -/
def foldText (s : String) : List Char :=
  collapse (lower (trim s.toList))

namespace Attribute

def folded (a : Attribute) : List Char :=
  foldText a.valueText

def sameAs (a b : Attribute) : Bool :=
  a.type == b.type && a.folded == b.folded

/-- Equal contents also match when only the string types differ. -/
def sameContent (a b : Attribute) : Bool :=
  a.type == b.type && (a.value == b.value || a.folded == b.folded)

end Attribute

/-- Attributes of two sets in pairs, after a test for plain equality. -/
def Rdn.agree (same : Attribute → Attribute → Bool) (a b : Rdn) : Bool :=
  a == b || (a.length == b.length && (a.zip b).all fun (x, y) => same x y)

namespace Name

def sameAs (a b : Name) : Bool :=
  a.length == b.length && (a.zip b).all fun (x, y) => x.agree Attribute.sameAs y

/-- A name lies under a base if it begins with it. The number of further sets must lie within the
given limits. -/
def isUnder (base name : Name) (least : Nat) (most : Option Nat) : Bool :=
  let extra := name.length - base.length
  base.length ≤ name.length && least ≤ extra && most.all (extra ≤ ·) &&
    (base.zip name).all fun (x, y) => x.agree Attribute.sameContent y

end Name
end ChainTrust
