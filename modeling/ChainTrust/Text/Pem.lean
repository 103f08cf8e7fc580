import ChainTrust.Text.Base64

namespace ChainTrust.Pem

structure Block where
  label : Bytes
  content : Bytes

def opening : Bytes := Utf8.ofText "-----BEGIN "
def closing : Bytes := Utf8.ofText "-----END "
def dashes : Bytes := Utf8.ofText "-----"
def lineWidth : Nat := 64

def stripPrefix? : Bytes → Bytes → Option Bytes
  | [], s => some s
  | _ :: _, [] => none
  | p :: ps, c :: cs => if p = c then stripPrefix? ps cs else none

def stripSuffix? (p s : Bytes) : Option Bytes :=
  (stripPrefix? p.reverse s.reverse).map List.reverse

/-- A line ends with a line feed, a carriage return, or both in the other order. -/
def stripLineEnd? : Bytes → Option Bytes
  | 13 :: 10 :: rest => some rest
  | 13 :: rest => some rest
  | 10 :: rest => some rest
  | _ => none

def stripLastLineEnd? (s : Bytes) : Option Bytes :=
  match s.reverse with
  | 10 :: 13 :: rest => some rest.reverse
  | 13 :: rest => some rest.reverse
  | 10 :: rest => some rest.reverse
  | _ => none

/-- The text after the first opening boundary that starts a line; a null byte must not precede it. -/
def afterPreamble? : Bytes → Option Bytes
  | [] => none
  | b :: rest =>
    if b = 0 then none
    else if b = 10 then (stripPrefix? opening rest).or (afterPreamble? rest)
    else afterPreamble? rest

def isLabelByte (b : UInt8) : Bool :=
  (0x21 ≤ b && b ≤ 0x2C) || (0x2E ≤ b && b ≤ 0x7E)

/-- A label is words separated by single spaces; it ends at the first hyphen. -/
def label? (afterWord : Bool) : Bytes → Option (Bytes × Bytes)
  | [] => some ([], [])
  | b :: rest =>
    if b = 45 then some ([], b :: rest)
    else if isLabelByte b then (label? true rest).map fun (l, r) => (b :: l, r)
    else if b = 32 && afterWord then (label? false rest).map fun (l, r) => (b :: l, r)
    else none

/-- Joins lines of exactly `width` symbols; only the last may be shorter. -/
def unwrap? (width : Nat) (s : Bytes) : Option Bytes :=
  if s.length ≤ width ∨ width = 0 then some s
  else do
    let rest ← stripLineEnd? (s.drop width)
    if rest.length < s.length then return s.take width ++ (← unwrap? width rest) else none
termination_by s.length

def decode? (text : Bytes) : Option Block := do
  let start ← (stripPrefix? opening text).or (afterPreamble? text)
  let (label, rest) ← label? false start
  let body ← stripLineEnd? (← stripPrefix? dashes rest)
  let body ← stripSuffix? dashes ((stripLastLineEnd? body).getD body)
  let body ← stripSuffix? closing (← stripSuffix? label body)
  let lines ← stripLastLineEnd? body
  if lines.isEmpty then none
  else return { label, content := ← Base64.decode? (← unwrap? lineWidth lines) }

/-- Breaks a text into lines of `width` symbols, each with a line feed. -/
def wrap (width : Nat) (s : Bytes) : Bytes :=
  if s.length ≤ width ∨ width = 0 then s ++ [10]
  else s.take width ++ 10 :: wrap width (s.drop width)
termination_by s.length
decreasing_by simp_all; omega

def encode (block : Block) : Bytes :=
  opening ++ block.label ++ dashes ++ [10] ++ wrap lineWidth (Base64.encode block.content) ++
    closing ++ block.label ++ dashes ++ [10]

end ChainTrust.Pem
