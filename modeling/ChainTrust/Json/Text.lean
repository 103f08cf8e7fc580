import ChainTrust.Json
import ChainTrust.Text.Hex

namespace ChainTrust.Json

/-- Only quotes, backslashes and control characters are escaped. -/
def escape (c : Char) : List Char :=
  if c = '"' then ['\\', '"']
  else if c = '\\' then ['\\', '\\']
  else if c = '\n' then ['\\', 'n']
  else if c = '\r' then ['\\', 'r']
  else if c = '\t' then ['\\', 't']
  else if c.toNat = 8 then ['\\', 'b']
  else if c.toNat = 12 then ['\\', 'f']
  else if c.toNat < 0x20 then
    ['\\', 'u', '0', '0', Hex.lowerDigit (c.toNat / 16), Hex.lowerDigit (c.toNat % 16)]
  else [c]

def quote (s : String) : String :=
  "\"" ++ String.ofList (s.toList.flatMap escape) ++ "\""

def openBrace : String := "\x7b"
def closeBrace : String := "\x7d"

mutual

def compact : Json → String
  | .bool b => if b then "true" else "false"
  | .integer n => toString n
  | .text s => quote s
  | .list items => "[" ++ ",".intercalate (compactItems items) ++ "]"
  | .object fields => openBrace ++ ",".intercalate (compactFields fields) ++ closeBrace
  | .null | .real | .unreadable => "null"

def compactItems : List Json → List String
  | [] => []
  | item :: rest => compact item :: compactItems rest

def compactFields : List (String × Json) → List String
  | [] => []
  | (key, value) :: rest => (quote key ++ ":" ++ compact value) :: compactFields rest

end

/-- Lines at one level, between two brackets that stand at the level above. -/
def bracket (left right : String) (level : Nat) (lines : List String) : String :=
  if lines.isEmpty then left ++ right
  else
    let indent := fun n => String.ofList (List.replicate (2 * n) ' ')
    left ++ "\n" ++ ",\n".intercalate (lines.map (indent (level + 1) ++ ·)) ++ "\n" ++
      indent level ++ right

mutual

/-- The layout with one item a line, two more spaces for each level. -/
def indented (level : Nat) : Json → String
  | .list items => bracket "[" "]" level (indentedItems (level + 1) items)
  | .object fields => bracket openBrace closeBrace level (indentedFields (level + 1) fields)
  | .bool b => if b then "true" else "false"
  | .integer n => toString n
  | .text s => quote s
  | .null | .real | .unreadable => "null"

def indentedItems (level : Nat) : List Json → List String
  | [] => []
  | item :: rest => indented level item :: indentedItems level rest

def indentedFields (level : Nat) : List (String × Json) → List String
  | [] => []
  | (key, value) :: rest => (quote key ++ ": " ++ indented level value) :: indentedFields level rest

end

end ChainTrust.Json
