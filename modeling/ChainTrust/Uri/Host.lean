import ChainTrust.Host.Address
import ChainTrust.Uri.Idna

namespace ChainTrust.Uri

open Host.Address (hexValue?)
open Text (pieces)

inductive Scheme where
  | web
  | file
  | other
deriving DecidableEq

def webSchemes : List String := ["http", "https", "ws", "wss", "ftp"]

def Scheme.ofText (s : List Char) : Scheme :=
  let name := String.ofList s
  if webSchemes.contains name then .web else if name = "file" then .file else .other

/-- Control characters and spaces at the ends are ignored, tabs and line ends everywhere. -/
def clean (s : List Char) : List Char :=
  let p := fun c : Char => c.toNat ≤ 0x20
  ((s.dropWhile p).reverse.dropWhile p).reverse.filter fun c => c ≠ '\t' ∧ c ≠ '\n' ∧ c ≠ '\r'

def isSchemeChar (c : Char) : Bool :=
  c.isAlphanum || c = '+' || c = '-' || c = '.'

/-- The scheme in lower case, and what follows its colon. -/
def scheme? (s : List Char) : Option (List Char × List Char) :=
  match s.head?, s.dropWhile isSchemeChar with
  | some c, ':' :: rest => if c.isAlpha then some ((s.takeWhile isSchemeChar).map Char.toLower, rest) else none
  | _, _ => none

/-- A backslash counts as a slash, except in other schemes. -/
def endsAuthority (scheme : Scheme) (c : Char) : Bool :=
  c = '/' || c = '?' || c = '#' || (c = '\\' && scheme ≠ .other)

def isSlash (c : Char) : Bool := c = '/' || c = '\\'

/-- What follows the last at sign. -/
def afterUser (authority : List Char) : List Char :=
  (authority.reverse.takeWhile (· ≠ '@')).reverse

/-- The host and what follows it, which begins at a colon outside brackets. -/
def splitPort (bracketed : Bool) : List Char → List Char × List Char
  | [] => ([], [])
  | c :: rest =>
    if c = ':' && !bracketed then ([], c :: rest)
    else
      let (host, after) := splitPort (if c = '[' then true else if c = ']' then false else bracketed) rest
      (c :: host, after)

def decimalValue (digits : List Char) : Nat :=
  digits.foldl (fun n c => n * 10 + (c.toNat - 48)) 0

/-- After the colon any number of digits may stand, for a number up to 65535; a slash of either kind
ends them. -/
def isPort (s : List Char) : Bool :=
  match s with
  | [] => true
  | _ :: rest =>
    let rest := rest.takeWhile (· ≠ '\\')
    rest.all Char.isDigit && decimalValue rest ≤ 65535

def percentDecode : List Char → Bytes
  | '%' :: a :: b :: rest =>
    match hexValue? a, hexValue? b with
    | some x, some y => UInt8.ofNat (x * 16 + y) :: percentDecode rest
    | _, _ => 37 :: percentDecode (a :: b :: rest)
  | c :: rest => String.utf8EncodeChar c ++ percentDecode rest
  | [] => []
termination_by s => s.length

def forbiddenMarks : List Char :=
  [' ', '#', '/', ':', '<', '>', '?', '@', '[', '\\', ']', '^', '|']

def isForbiddenInDomain (c : Char) : Bool :=
  c.toNat < 0x20 || c.toNat = 0x7F || c = '%' || forbiddenMarks.contains c

def isForbiddenInOther (c : Char) : Bool :=
  c = '\x00' || c = '\t' || c = '\n' || c = '\r' || forbiddenMarks.contains c

/-- A number in a domain: hexadecimal after `0x`, octal after `0`, else decimal. -/
def number? (s : List Char) : Option Nat :=
  let value (base : Nat) (digits : List Char) :=
    digits.foldlM (fun n c => (hexValue? c).bind fun d => if d < base then some (n * base + d) else none) 0
  match s with
  | [] => none
  | '0' :: 'x' :: rest => value 16 rest
  | '0' :: 'X' :: rest => value 16 rest
  | '0' :: d :: rest => value 8 (d :: rest)
  | _ => value 10 s

def dropLastEmpty (parts : List (List Char)) : List (List Char) :=
  if parts.getLast? = some [] then parts.dropLast else parts

def endsInNumber (domain : List Char) : Bool :=
  match (dropLastEmpty (pieces '.' domain)).getLast? with
  | some last => (!last.isEmpty && last.all Char.isDigit) || (number? last).isSome
  | none => false

/-- At most four numbers; the last fills the bytes that the others leave. -/
def address? (domain : List Char) : Option Bytes := do
  let numbers ← (dropLastEmpty (pieces '.' domain)).mapM number?
  let last ← numbers.getLast?
  let first := numbers.dropLast
  if numbers.length ≤ 4 ∧ first.all (· ≤ 255) ∧ last < Bytes.capacity (4 - first.length) then
    return first.map UInt8.ofNat ++ Bytes.fixed (4 - first.length) last
  else none

def addressText (bytes : Bytes) : String :=
  ".".intercalate (bytes.map fun b => toString b.toNat)

def groupsOf : Bytes → List Nat
  | a :: b :: rest => (a.toNat * 256 + b.toNat) :: groupsOf rest
  | _ => []

def zeroRun (groups : List Nat) : Nat :=
  (groups.takeWhile (· = 0)).length

/-- Position and length of the first longest run of at least two zero groups. -/
def longestGap (groups : List Nat) : Option (Nat × Nat) :=
  (List.range groups.length).foldl (fun best i =>
    let run := zeroRun (groups.drop i)
    match best with
    | some (_, length) => if length < run then some (i, run) else best
    | none => if 2 ≤ run then some (i, run) else none) none

def hexText (n : Nat) : String :=
  String.ofList (Nat.toDigits 16 n)

def joined (groups : List Nat) : String :=
  ":".intercalate (groups.map hexText)

def colonText (bytes : Bytes) : String :=
  let groups := groupsOf bytes
  match longestGap groups with
  | some (i, n) => joined (groups.take i) ++ "::" ++ joined (groups.drop (i + n))
  | none => joined groups

/-- An address in brackets. -/
def bracketed? (host : List Char) : Option String := do
  if host.getLast? = some ']' then
    return "[" ++ colonText (← Host.Address.colons? (host.drop 1).dropLast) ++ "]"
  else none

def domain? (host : List Char) : Option String := do
  if host.head? = some '[' then bracketed? host
  else
    let domain ← Idna.toAscii? (← Utf8.decode? (percentDecode host))
    if domain.isEmpty ∨ domain.any isForbiddenInDomain then none
    else if endsInNumber domain then return addressText (← address? domain)
    else return String.ofList domain

def escapeControl (c : Char) : List Char :=
  if c.toNat < 0x20 ∨ 0x7F ≤ c.toNat then
    (String.utf8EncodeChar c).flatMap fun b =>
      ['%', (Nat.digitChar (b.toNat / 16)).toUpper, (Nat.digitChar (b.toNat % 16)).toUpper]
  else [c]

def otherHost? (host : List Char) : Option String :=
  if host.head? = some '[' then bracketed? host
  else if host.isEmpty ∨ host.any isForbiddenInOther then none
  else some (String.ofList (host.flatMap escapeControl))

/-- The host of an authority, which must not be empty. -/
def authorityHost? (scheme : Scheme) (s : List Char) : Option String := do
  let (host, after) := splitPort false (afterUser (s.takeWhile (!endsAuthority scheme ·)))
  if host.isEmpty ∨ !isPort after then none
  else if scheme = .web then domain? host else otherHost? host

def isDriveLetter (s : List Char) : Bool :=
  match s with
  | [a, b] => a.isAlpha && (b = ':' || b = '|')
  | _ => false

def dotSegments : List String :=
  [".", "..", "%2e", ".%2e", "%2e.", "%2e%2e"]

/-- The first segment of a path that is no dot segment. -/
def firstSegment (path : List Char) : List Char :=
  let segments := (path.takeWhile fun c => c ≠ '?' ∧ c ≠ '#').splitOnP isSlash
  ((segments.drop 1).dropWhile fun s => dotSegments.contains (String.ofList (s.map Char.toLower))).headD []

/-- A file has a host only after two slashes, none on the local machine, and none before a drive
letter. -/
def fileHost? (s : List Char) : Option String := do
  match s with
  | a :: b :: rest =>
    if isSlash a && isSlash b then
      let host := rest.takeWhile (!endsAuthority .file ·)
      if host.isEmpty ∨ isDriveLetter host then none
      else
        let text ← domain? host
        if text = "localhost" ∨ isDriveLetter (firstSegment (rest.drop host.length)) then none
        else return text
    else none
  | _ => none

/-- The host in normal form, if the text is a URI and has one. -/
def host? (uri : String) : Option String := do
  let (name, rest) ← scheme? (clean uri.toList)
  match Scheme.ofText name with
  | .web => authorityHost? .web (rest.dropWhile isSlash)
  | .file => fileHost? rest
  | .other =>
    match rest with
    | '/' :: '/' :: authority => authorityHost? .other authority
    | _ => none

end ChainTrust.Uri
