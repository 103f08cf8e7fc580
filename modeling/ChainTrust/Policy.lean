import ChainTrust.Check
import ChainTrust.Entries

namespace ChainTrust

/-- A value of an option. The entries of a dictionary ascend by key. -/
inductive OptionValue where
  | bool (b : Bool)
  | integer (n : Int64)
  | text (s : String)
  | array (values : List OptionValue)
  | dictionary (entries : List (String × OptionValue))
deriving Repr

namespace OptionValue

def bool? : OptionValue → Option Bool
  | .bool b => some b
  | _ => none

def integer? : OptionValue → Option Int64
  | .integer n => some n
  | _ => none

def text? : OptionValue → Option String
  | .text s => some s
  | _ => none

def array? : OptionValue → Option (List OptionValue)
  | .array values => some values
  | _ => none

def dictionary? : OptionValue → Option (List (String × OptionValue))
  | .dictionary entries => some entries
  | _ => none

/-- A single text, or an array of nothing but texts. -/
def texts? : OptionValue → Option (List String)
  | .text s => some [s]
  | .array values => values.mapM text?
  | _ => none

/-- A single integer, or an array of nothing but integers. -/
def integers? : OptionValue → Option (List Int64)
  | .integer n => some [n]
  | .array values => values.mapM integer?
  | _ => none

end OptionValue

/-- The options ascend by name. -/
structure Policy where
  name : String
  oid : String
  options : List (CheckName × OptionValue)
deriving Repr

namespace Policy

def optionNamed? (p : Policy) (name : CheckName) : Option OptionValue :=
  Entries.get? name p.options

def option? (p : Policy) (check : Check) : Option OptionValue :=
  p.optionNamed? (.known check)

/-- The text of an option, if its value is a single text. -/
def text? (p : Policy) (check : Check) : Option String :=
  (p.option? check).bind (·.text?)

def requests (p : Policy) (check : Check) : Bool :=
  (p.option? check).isSome

def withOption (p : Policy) (check : Check) (value : OptionValue) : Policy :=
  { p with options := Entries.put (.known check) value p.options }

def withOptions (p : Policy) (options : List (CheckName × OptionValue)) : Policy :=
  { p with options := Entries.putAll options p.options }

end Policy
end ChainTrust
