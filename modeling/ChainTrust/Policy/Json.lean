import ChainTrust.Error
import ChainTrust.Json.Shape
import ChainTrust.Json.Text
import ChainTrust.Json.Tree
import ChainTrust.Policy

namespace ChainTrust

namespace OptionValue

mutual

def ofJson? : Json → Option OptionValue
  | .bool b => some (.bool b)
  | .integer n => if n ≤ Int64.maxValue.toInt then some (.integer (Int64.ofInt n)) else none
  | .text s => some (.text s)
  | .list items => (ofItems? items).map .array
  | .object fields => (ofFields? fields).map fun pairs => .dictionary (Entries.ofList pairs)
  | .null | .real | .unreadable => none

def ofItems? : List Json → Option (List OptionValue)
  | [] => some []
  | item :: rest => do return (← ofJson? item) :: (← ofItems? rest)

def ofFields? : List (String × Json) → Option (List (String × OptionValue))
  | [] => some []
  | (key, value) :: rest => do return (key, ← ofJson? value) :: (← ofFields? rest)

end

mutual

def toJson : OptionValue → Json
  | .bool b => .bool b
  | .integer n => .integer n.toInt
  | .text s => .text s
  | .array values => .list (itemsToJson values)
  | .dictionary entries => .object (fieldsToJson entries)

def itemsToJson : List OptionValue → List Json
  | [] => []
  | value :: rest => toJson value :: itemsToJson rest

def fieldsToJson : List (String × OptionValue) → List (String × Json)
  | [] => []
  | (key, value) :: rest => (key, toJson value) :: fieldsToJson rest

end

/-- The options of a policy or a constraint. -/
def entriesOfValue? : Json → Option (List (CheckName × OptionValue)) :=
  Json.entriesOf? CheckName.ofText ofJson?

/-- The options of a policy or a constraint that lies inside `outer` lists and objects of a text. -/
def entriesOfJson? (outer : Nat) (j : Json) : Option (List (CheckName × OptionValue)) :=
  Json.entriesOf? CheckName.ofText (Json.inside? (outer + 1) ofJson?) j

def entriesToJson (options : List (CheckName × OptionValue)) : Json :=
  .object (options.map fun (name, value) => (name.text, value.toJson))

end OptionValue

namespace Policy

open Json

/-- Reads a policy, given how its options are read. A missing field is empty. -/
def ofRecord? (options? : Json → Option (List (CheckName × OptionValue))) (j : Json) :
    Option Policy := do
  let fields ← record? ["name", "oid", "options"] j
  return ⟨← optional? fields "name" "" Json.text?, ← optional? fields "oid" "" Json.text?,
    ← optional? fields "options" [] options?⟩

/-- Reads a policy that was written in a text. -/
def ofJson? : Json → Option Policy :=
  ofRecord? (OptionValue.entriesOfJson? 1)

/-- Reads a policy from a value, which may have any depth. -/
def ofValue? : Json → Option Policy :=
  ofRecord? OptionValue.entriesOfValue?

def toJson (p : Policy) : Json :=
  .object [("name", .text p.name), ("oid", .text p.oid),
    ("options", OptionValue.entriesToJson p.options)]

def ofBytes (s : Bytes) : Result Policy :=
  match (Json.ofBytes? s).bind ofJson? with
  | some p => .ok p
  | none => .error .badJson

end Policy
end ChainTrust
