import ChainTrust.Json.Token

namespace ChainTrust.Json

open Token

/-- A list or an object before its last item, with what came before in reverse. -/
inductive Outer where
  | items (before : List Json)
  | fields (before : List (Option String × Json)) (key : Option String)

/-- What may come next. -/
inductive Expect where
  | value
  | itemOrEnd
  | keyOrEnd
  | key (before : List (Option String × Json))
  | colon (before : List (Option String × Json)) (key : Option String)
  | endOfItem (items : List Json)
  | endOfField (fields : List (Option String × Json))
  | nothing (value : Json)

structure Draft where
  expect : Expect
  outer : List Outer

namespace Draft

def start : Draft := ⟨.value, []⟩

def place (value : Json) : List Outer → Draft
  | [] => ⟨.nothing value, []⟩
  | .items before :: outer => ⟨.endOfItem (value :: before), outer⟩
  | .fields before key :: outer => ⟨.endOfField ((key, value) :: before), outer⟩

/-- The object with the given fields in reverse. -/
def objectOf (fields : List (Option String × Json)) : Json :=
  match fields.reverse.mapM fun (key, value) => key.map (·, value) with
  | some fields => .object fields
  | none => .unreadable

def textValue : Option String → Json
  | some s => .text s
  | none => .unreadable

def value? (outer : List Outer) : Token → Option Draft
  | .openList => some ⟨.itemOrEnd, outer⟩
  | .openObject => some ⟨.keyOrEnd, outer⟩
  | .text s => some (place (textValue s) outer)
  | .scalar v => some (place v outer)
  | _ => none

def step? (p : Draft) (token : Token) : Option Draft :=
  match p.expect, token with
  | .value, t => value? p.outer t
  | .itemOrEnd, .closeList => some (place (.list []) p.outer)
  | .itemOrEnd, t => value? (.items [] :: p.outer) t
  | .endOfItem items, .comma => some ⟨.value, .items items :: p.outer⟩
  | .endOfItem items, .closeList => some (place (.list items.reverse) p.outer)
  | .keyOrEnd, .closeObject => some (place (.object []) p.outer)
  | .keyOrEnd, .text s => some ⟨.colon [] s, p.outer⟩
  | .key before, .text s => some ⟨.colon before s, p.outer⟩
  | .colon before key, .colon => some ⟨.value, .fields before key :: p.outer⟩
  | .endOfField fields, .comma => some ⟨.key fields, p.outer⟩
  | .endOfField fields, .closeObject => some (place (objectOf fields) p.outer)
  | _, _ => none

end Draft

def ofTokens? (tokens : List Token) : Option Json :=
  match tokens.foldlM Draft.step? Draft.start with
  | some ⟨.nothing value, _⟩ => some value
  | _ => none

/-- The value written in a text, with nothing after it. -/
def ofBytes? (text : Bytes) : Option Json :=
  (scan? [] text).bind ofTokens?

end ChainTrust.Json
