import ChainTrust.Entries
import ChainTrust.Json

namespace ChainTrust.Json

variable {α : Type}

def text? : Json → Option String
  | .text s => some s
  | _ => none

def bool? : Json → Option Bool
  | .bool b => some b
  | _ => none

/-- An integer from `least` on and below `bound`. -/
def integer? (least bound : Int) : Json → Option Int
  | .integer n => if least ≤ n ∧ n < bound then some n else none
  | _ => none

def word32? (j : Json) : Option UInt32 :=
  (integer? 0 UInt32.size j).map fun n => UInt32.ofNat n.toNat

def word64? (j : Json) : Option UInt64 :=
  (integer? 0 UInt64.size j).map fun n => UInt64.ofNat n.toNat

def nullable? (f : Json → Option α) : Json → Option (Option α)
  | .null => some none
  | j => (f j).map some

def listOf? (f : Json → Option α) : Json → Option (List α)
  | .list items => items.mapM f
  | _ => none

/-- The entries of an object. Of a key that occurs twice the last value counts, but all are read. -/
def entriesOf? {κ : Type} [Ord κ] (key : String → κ) (f : Json → Option α) : Json → Option (List (κ × α))
  | .object fields =>
    (fields.mapM fun (k, v) => (f v).map (key k, ·)).map Entries.ofList
  | _ => none

/-- One of several words, either alone or as the only key of an object with a null value. -/
def choice? (rows : List (String × α)) : Json → Option α
  | .text s => rows.lookup s
  | .object [(s, .null)] => rows.lookup s
  | _ => none

/-- The fields of a record that are given: those of an object, none of them twice, or a list of them
in order, which may end early. -/
def record? (names : List String) : Json → Option (List (String × Json))
  | .object fields =>
    let known := fields.filter fun (name, _) => names.contains name
    if (known.map (·.1)).Nodup then some known else none
  | .list items => if items.length ≤ names.length then some (names.zip items) else none
  | _ => none

def required? (record : List (String × Json)) (name : String) (f : Json → Option α) : Option α :=
  (record.lookup name).bind f

def optional? (record : List (String × Json)) (name : String) (missing : α) (f : Json → Option α) :
    Option α :=
  match record.lookup name with
  | some j => f j
  | none => some missing

/-- Lists and objects may lie at most this deep inside each other. -/
def maxDepth : Nat := 127

/-- Reads a value that lies inside `outer` lists and objects. -/
def inside? (outer : Nat) (f : Json → Option α) (j : Json) : Option α :=
  if outer + j.depth ≤ maxDepth then f j else none

end ChainTrust.Json
