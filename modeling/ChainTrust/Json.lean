namespace ChainTrust

/-- Fields keep the order in which they were written, and a key may occur twice. -/
inductive Json where
  | null
  | bool (b : Bool)
  | integer (n : Int)
  /-- A number with a fraction or an exponent, or beyond the range of integers. -/
  | real
  | text (s : String)
  | list (items : List Json)
  | object (fields : List (String × Json))
  /-- A form that is well written but has no value: a number out of range, a text that is not
  Unicode, or an object with such a key. -/
  | unreadable

namespace Json

/-- Integers lie in the range of signed and unsigned numbers of 64 bits. -/
def leastInteger : Int := Int64.minValue.toInt
def integerBound : Int := UInt64.size

mutual

/-- Lists and objects inside each other. -/
def depth : Json → Nat
  | .list items => depthOfItems items + 1
  | .object fields => depthOfFields fields + 1
  | _ => 0

def depthOfItems : List Json → Nat
  | [] => 0
  | item :: rest => max (depth item) (depthOfItems rest)

def depthOfFields : List (String × Json) → Nat
  | [] => 0
  | (_, value) :: rest => max (depth value) (depthOfFields rest)

end

mutual

/-- Nothing inside is unreadable. -/
def isReadable : Json → Bool
  | .list items => areReadableItems items
  | .object fields => areReadableFields fields
  | .unreadable => false
  | _ => true

def areReadableItems : List Json → Bool
  | [] => true
  | item :: rest => isReadable item && areReadableItems rest

def areReadableFields : List (String × Json) → Bool
  | [] => true
  | (_, value) :: rest => isReadable value && areReadableFields rest

end

mutual

/-- The value in which each key of an object occurs once, with what was written last. -/
def withoutRepeats : Json → Json
  | .list items => .list (itemsWithoutRepeats items)
  | .object fields => .object (fieldsWithoutRepeats fields)
  | j => j

def itemsWithoutRepeats : List Json → List Json
  | [] => []
  | item :: rest => withoutRepeats item :: itemsWithoutRepeats rest

def fieldsWithoutRepeats : List (String × Json) → List (String × Json)
  | [] => []
  | (key, value) :: rest =>
    let others := fieldsWithoutRepeats rest
    if others.any (·.1 == key) then others else (key, withoutRepeats value) :: others

end

end Json
end ChainTrust
