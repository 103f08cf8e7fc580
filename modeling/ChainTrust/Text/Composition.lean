import ChainTrust.Text.Composition.Table

namespace ChainTrust.Text.Composition

/-- The class of the marks that silence a vowel. -/
def virama : Nat := 9

/-- Marks of different classes do not touch each other. Letters have the class zero. -/
def classOf (c : Char) : Nat :=
  match classes.find? fun (_, members) => members.contains c with
  | some (n, _) => n
  | none => 0

/-- The syllables of Hangul are numbered by an initial, a vowel and a final, which may be missing. -/
def firstSyllable : Nat := 0xAC00
def firstInitial : Nat := 0x1100
def firstVowel : Nat := 0x1161
def noFinal : Nat := 0x11A7
def initials : Nat := 19
def vowels : Nat := 21
def finals : Nat := 28

/-- The letters of a syllable. -/
def letters? (n : Nat) : Option (List Nat) :=
  let i := n - firstSyllable
  if firstSyllable ≤ n ∧ i < initials * vowels * finals then
    let start := [firstInitial + i / finals / vowels, firstVowel + i / finals % vowels]
    some (if i % finals = 0 then start else start ++ [noFinal + i % finals])
  else none

/-- The syllable of an initial and a vowel, or of such a syllable and a final. -/
def syllable? (a b : Nat) : Option Nat :=
  if firstInitial ≤ a ∧ a < firstInitial + initials ∧ firstVowel ≤ b ∧ b < firstVowel + vowels then
    some (firstSyllable + ((a - firstInitial) * vowels + (b - firstVowel)) * finals)
  else if firstSyllable ≤ a ∧ a < firstSyllable + initials * vowels * finals
      ∧ (a - firstSyllable) % finals = 0 ∧ noFinal < b ∧ b < noFinal + finals then
    some (a + (b - noFinal))
  else none

def parts? (n : Nat) : Option (List Nat) :=
  letters? n <|> composites.lookup n <|> replaced.lookup n

/-- The parts of a character, down to the given depth. -/
def parts : Nat → Nat → List Nat
  | 0, n => [n]
  | depth + 1, n =>
    match parts? n with
    | some ms => ms.flatMap (parts depth)
    | none => [n]

/-- No character has parts within parts more than four deep. -/
def decompose (s : List Char) : List Char :=
  s.flatMap fun c => (parts 4 c.toNat).map Char.ofNat

/-- Moves a mark past the marks of lower classes. -/
def insert (c : Char) : List Char → List Char
  | [] => [c]
  | d :: rest => if classOf d ≠ 0 ∧ classOf d < classOf c then d :: insert c rest else c :: d :: rest

def order : List Char → List Char
  | [] => []
  | c :: rest => insert c (order rest)

def pair? (a b : Char) : Option Char :=
  (syllable? a.toNat b.toNat <|> (composites.find? (·.2 = [a.toNat, b.toNat])).map Prod.fst).map Char.ofNat

/-- A letter takes up a character unless a mark between them touches it. -/
def isFree (marks : List Char) (c : Char) : Bool :=
  match marks.getLast? with
  | none => true
  | some mark => classOf mark < classOf c

/-- Composes a letter with what follows it; `marks` are those that it has not taken up. -/
def composeFrom (letter : Char) (marks : List Char) : List Char → List Char
  | [] => letter :: marks
  | c :: rest =>
    match if isFree marks c then pair? letter c else none with
    | some composed => composeFrom composed marks rest
    | none =>
      if classOf c = 0 then letter :: marks ++ composeFrom c [] rest
      else composeFrom letter (marks ++ [c]) rest

/-- The composed form of a text. -/
def compose (s : List Char) : List Char :=
  match order (decompose s) with
  | [] => []
  | c :: rest => composeFrom c [] rest

end ChainTrust.Text.Composition
