import ChainTrust.Text.Composition
import ChainTrust.Text.Mark
import ChainTrust.Text.Punycode
import ChainTrust.Text.Utf8
import ChainTrust.Uri.Idna.Direction
import ChainTrust.Uri.Idna.Joiner
import ChainTrust.Uri.Idna.Mapping

namespace ChainTrust.Uri.Idna

open Text

/-- The one spelling of a name, unless it holds a character that no name may hold. -/
def spelling? (s : List Char) : Option (List Char) :=
  (s.mapM replace?).map fun parts => Composition.compose parts.flatten

def isAscii (s : List Char) : Bool :=
  s.all (·.toNat < 128)

/-- The longest Punycode that is read, and the longest label that is written in it. -/
def longestRead : Nat := 2000
def longestWritten : Nat := 1000

/-- A label must not begin with a mark, and joiners stand only where they show. -/
def isLabel (label : List Char) : Bool :=
  !label.head?.any isMark && joinersStand [] label
    && (isAscii label || label.length ≤ longestWritten)

/-- The label that Punycode stands for, which must be in its one spelling and not in ASCII. -/
def read? (code : List Char) : Option (List Char) := do
  if longestRead < code.length then none
  else
    let label ← Punycode.decode? code
    if label.all (fun c => replace? c = some [c]) ∧ Composition.compose label = label ∧ !isAscii label
        ∧ isLabel label then
      some label
    else none

/-- The characters of a label. -/
def label? (label : List Char) : Option (List Char) :=
  match label with
  | 'x' :: 'n' :: '-' :: '-' :: code => read? code
  | _ => if isLabel label then some label else none

def write (label : List Char) : List Char :=
  if isAscii label then label else ['x', 'n', '-', '-'] ++ Punycode.encode label

def joined (labels : List (List Char)) : List Char :=
  ['.'].intercalate labels

def toAscii? (domain : List Char) : Option (List Char) := do
  let labels ← (pieces '.' (← spelling? domain)).mapM label?
  if isRightToLeft labels.flatten ∧ !labels.all keepsDirection then none
  else return joined (labels.map write)

end ChainTrust.Uri.Idna
