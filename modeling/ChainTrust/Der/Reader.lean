import ChainTrust.Der.Writer

namespace ChainTrust.Der

/-- Takes bytes from the front. -/
abbrev Reader (α : Type) := StateT Bytes Option α

namespace Reader

def lift {α : Type} (o : Option α) : Reader α := fun s => o.map (·, s)

def byte : Reader UInt8
  | [] => none
  | b :: rest => some (b, rest)

def take (n : Nat) : Reader Bytes := Bytes.split? n

/-- Runs a reader that has to use up all of `content`. -/
def all {α : Type} (r : Reader α) (content : Bytes) : Option α :=
  match r content with
  | some (a, []) => some a
  | _ => none

def universalTags : List UInt8 :=
  [ 0x01, 0x02, 0x03, 0x04, 0x05, 0x06, 0x09, 0x0A, 0x0C, 0x12, 0x13, 0x14, 0x15, 0x16, 0x17, 0x18,
    0x1A, 0x1E, 0x30, 0x31 ]

/-- Beside the universal tags, those of one byte in the other classes. -/
def isTag (b : UInt8) : Bool :=
  universalTags.contains b || (0x40 ≤ b && b &&& 0x1F != 0x1F)

def tag : Reader UInt8 := do
  let b ← byte
  guard (isTag b)
  return b

/-- The shortest form only: below 128 in one byte, else in one to four bytes after their count. -/
def length : Reader Nat := do
  let b ← byte
  if b < 0x80 then return b.toNat
  else
    guard (0x81 ≤ b && b ≤ 0x84)
    let digits ← take (b.toNat - 0x80)
    let n := Bytes.toNat digits
    guard (128 ≤ n && digits.head? != some 0)
    return n

def anyElement : Reader (UInt8 × Bytes) := do
  let t ← tag
  let n ← length
  return (t, ← take n)

/-- The content of an element with the given tag. -/
def content (expected : UInt8) : Reader Bytes := do
  let (t, c) ← anyElement
  guard (t == expected)
  return c

/-- The tag that comes next, if anything does. -/
def peek : Reader (Option UInt8) := fun s =>
  match s with
  | [] => some (none, s)
  | b :: _ => if isTag b then some (some b, s) else none

def holder {α : Type} (expected : UInt8) (r : Reader α) : Reader α := do
  lift (all r (← content expected))

def sequence {α : Type} (r : Reader α) : Reader α :=
  holder Tag.sequence r

/-- Items up to the end. -/
def items {α : Type} (r : Reader α) (s : Bytes) : Option (List α) :=
  if s.isEmpty then some []
  else do
    let (a, rest) ← r s
    if rest.length < s.length then return a :: (← items r rest) else none
termination_by s.length

def sequenceOf {α : Type} (r : Reader α) : Reader (List α) := do
  lift (items r (← content Tag.sequence))

def optional {α : Type} (expected : UInt8) (r : Reader α) : Reader (Option α) := do
  if (← peek) = some expected then return some (← r) else return none

/-- Whether a context-specific field comes next. Fields with lower numbers are passed over. -/
def seek (number : UInt8) (s : Bytes) : Option (Bool × Bytes) := do
  match ← peek s with
  | (none, _) => return (false, s)
  | (some t, _) =>
    if t &&& 0xC0 ≠ 0x80 ∨ number < t &&& 0x1F then return (false, s)
    else if t &&& 0x1F = number then return (true, s)
    else
      let (_, rest) ← anyElement s
      if rest.length < s.length then seek number rest else none
termination_by s.length

/-- An optional field that holds a whole element. -/
def explicitField {α : Type} (number : UInt8) (r : Reader α) : Reader (Option α) := do
  if ← seek number then return some (← holder (Tag.contextHolder number) r) else return none

/-- An optional field whose tag stands in place of the element's own tag. -/
def implicitField {α : Type} (fieldTag : UInt8) (f : Bytes → Option α) : Reader (Option α) := do
  if ← seek (fieldTag &&& 0x1F) then return some (← lift (f (← content fieldTag))) else return none

def required {α : Type} (r : Reader (Option α)) : Reader α := do
  lift (← r)

end Reader
end ChainTrust.Der
