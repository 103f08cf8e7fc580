namespace ChainTrust.Text.Punycode

def digit (n : Nat) : Char :=
  if n < 26 then Char.ofNat (97 + n) else Char.ofNat (22 + n)

def digit? (c : Char) : Option Nat :=
  if 'a' ≤ c && c ≤ 'z' then some (c.toNat - 97)
  else if 'A' ≤ c && c ≤ 'Z' then some (c.toNat - 65)
  else if c.isDigit then some (c.toNat - 22)
  else none

/-- The least digit that does not end a number, at a place counted in steps of 36. -/
def threshold (bias place : Nat) : Nat :=
  if place ≤ bias then 1 else if bias + 26 ≤ place then 26 else place - bias

/-- Every number has a last digit, and every place holds at least ten digits that do not end it. -/
theorem threshold_bounds (bias place : Nat) : 1 ≤ threshold bias place ∧ threshold bias place ≤ 26 := by
  unfold threshold
  split
  · omega
  · split <;> omega

/-- The number of steps by which small thresholds last longer as the distances grow. -/
def scale (n bias : Nat) : Nat :=
  if 455 < n then scale (n / 35) (bias + 36) else bias + 36 * n / (n + 38)
termination_by n

/-- The bias after a distance, when `count` characters stand in the text. -/
def adapt (distance count : Nat) (first : Bool) : Nat :=
  let n := if first then distance / 700 else distance / 2
  scale (n + n / count) 0

def digits (bias place n : Nat) : List Char :=
  let t := threshold bias place
  if n < t then [digit n]
  else digit (t + (n - t) % (36 - t)) :: digits bias (place + 36) ((n - t) / (36 - t))
termination_by n
decreasing_by
  have := threshold_bounds bias place
  exact Nat.lt_of_le_of_lt (Nat.div_le_self _ _) (by omega)

/-- The state between two insertions: the last code point inserted, the position after it, the number
of characters in the text, and the bias. -/
structure Insertions where
  code : Nat
  position : Nat
  count : Nat
  bias : Nat
  isFirst : Bool

def Insertions.start (count : Nat) : Insertions :=
  ⟨128, 0, count, 72, true⟩

def Insertions.after (state : Insertions) (code position distance : Nat) : Insertions :=
  ⟨code, position + 1, state.count + 1, adapt distance (state.count + 1) state.isFirst, false⟩

/-- The distance to the insertion of a code point at a position. -/
def Insertions.distance (state : Insertions) (code position : Nat) : Nat :=
  (code - state.code) * (state.count + 1) + position - state.position

/-- The characters that are inserted, in order: code points and positions in the text so far. -/
def insertions (s : List Char) : List (Nat × Nat) :=
  let positions := s.zipIdx.filterMap fun (c, i) =>
    if c.toNat < 128 then none else some (c.toNat, ((s.take i).filter (· ≤ c)).length)
  positions.mergeSort fun a b => a.1 < b.1 || (a.1 == b.1 && a.2 ≤ b.2)

def distances (state : Insertions) : List (Nat × Nat) → List Char
  | [] => []
  | (code, position) :: rest =>
    let d := state.distance code position
    digits state.bias 36 d ++ distances (state.after code position d) rest

def encode (s : List Char) : List Char :=
  let plain := s.filter (·.toNat < 128)
  (if plain.isEmpty then [] else plain ++ ['-']) ++ distances (.start plain.length) (insertions s)

/-- A text that is being read: the number under way has the value `value` so far, and its next digit
counts `weight`. -/
structure Reading where
  text : List Char
  state : Insertions
  value : Nat
  place : Nat
  weight : Nat

/-- Between two numbers. -/
def Reading.between (text : List Char) (state : Insertions) : Reading :=
  ⟨text, state, 0, 36, 1⟩

/-- Numbers have 32 bits. -/
def fits (n : Nat) : Bool := n < UInt32.size

/-- Inserts the character that a distance leads to. -/
def Reading.insert? (reading : Reading) (distance : Nat) : Option Reading :=
  let state := reading.state
  let total := state.position + distance
  let code := state.code + total / (state.count + 1)
  let position := total % (state.count + 1)
  if fits total ∧ code.isValidChar then
    some (.between (reading.text.insertIdx position (Char.ofNat code)) (state.after code position distance))
  else none

def Reading.step? (reading : Reading) (c : Char) : Option Reading := do
  let d ← digit? c
  let t := threshold reading.state.bias reading.place
  let value := reading.value + d * reading.weight
  let weight := reading.weight * (36 - t)
  if d < t then reading.insert? value
  else if fits value ∧ fits weight then
    return ⟨reading.text, reading.state, value, reading.place + 36, weight⟩
  else none

/-- The plain characters and the numbers, which the last hyphen parts. -/
def splitLast (s : List Char) : List Char × List Char :=
  let numbers := (s.reverse.takeWhile (· ≠ '-')).reverse
  (s.take (s.length - numbers.length - 1), numbers)

def decode? (s : List Char) : Option (List Char) := do
  let (plain, numbers) := splitLast s
  if plain.isEmpty ∧ s.head? = some '-' then none
  else
    let reading ← numbers.foldlM Reading.step? (.between plain (.start plain.length))
    if reading.place = 36 ∧ plain.all (·.toNat < 128) then some reading.text else none

end ChainTrust.Text.Punycode
