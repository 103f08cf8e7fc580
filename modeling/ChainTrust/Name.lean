import ChainTrust.Der.Primitive
import ChainTrust.Text.Utf8

namespace ChainTrust

/-- An attribute whose value is any one element, held as its tag and its content. -/
structure Attribute where
  type : Oid
  tag : UInt8
  value : Bytes
deriving DecidableEq, Repr

abbrev Rdn := List Attribute

/-- The most significant set of attributes comes first. -/
abbrev Name := List Rdn

open Der

def printablePunctuation : List Char :=
  [' ', '\'', '(', ')', '+', ',', '-', '.', '/', ':', '=', '?']

def isPrintable (c : Char) : Bool :=
  c.isAlphanum || printablePunctuation.contains c

namespace Attribute

/-- The text of a value of one of the common string types, unless its content breaks the rules of
that type. -/
def string? (a : Attribute) : Option String :=
  if a.tag = Tag.utf8String then Utf8.text? a.value
  else if a.tag = Tag.printableString then (ia5Of? a.value).filter (·.toList.all isPrintable)
  else if a.tag = Tag.ia5String ∨ a.tag = Tag.teletexString then ia5Of? a.value
  else none

def encode (a : Attribute) : Bytes :=
  Der.sequence [oidElement a.type, element a.tag a.value]

def read : Reader Attribute := Reader.sequence do
  let type ← Reader.objectId
  let (tag, value) ← Reader.anyElement
  return ⟨type, tag, value⟩

end Attribute

namespace Rdn

/-- Attributes in the order of a set, that of their encodings. -/
def ofAttributes (attributes : List Attribute) : Rdn :=
  attributes.mergeSort fun a b => !decide (b.encode < a.encode)

def encode (rdn : Rdn) : Bytes :=
  element Tag.set (rdn.map Attribute.encode).flatten

/-- The encodings ascend, so no attribute occurs twice. -/
def isOrdered : Rdn → Bool
  | a :: b :: rest => a.encode < b.encode && isOrdered (b :: rest)
  | _ => true

/-- Attributes may come in any order. None may occur twice. -/
def read : Reader Rdn := do
  let rdn := ofAttributes (← Reader.lift (Reader.items Attribute.read (← Reader.content Tag.set)))
  guard (isOrdered rdn)
  return rdn

end Rdn

namespace Name

def encode (name : Name) : Bytes :=
  Der.sequence (name.map Rdn.encode)

def read : Reader Name :=
  Reader.sequenceOf Rdn.read

def attributes (name : Name) : List Attribute :=
  name.flatten

/-- The texts of the attributes of one type, in the order of the name. -/
def values (name : Name) (type : Oid) : List String :=
  (name.attributes.filter (·.type == type)).filterMap Attribute.string?

end Name
end ChainTrust
