import ChainTrust.Constraint
import ChainTrust.Policy.Json

namespace ChainTrust

open Json

def Standing.rows : List (String × Standing) :=
  [ ("Invalid", .invalid), ("TrustRoot", .trustRoot), ("TrustAsRoot", .trustAsRoot), ("Deny", .deny),
    ("Unspecified", .unspecified) ]

def Standing.text : Standing → String
  | .invalid => "Invalid"
  | .trustRoot => "TrustRoot"
  | .trustAsRoot => "TrustAsRoot"
  | .deny => "Deny"
  | .unspecified => "Unspecified"

def AnchorStore.rows : List (String × AnchorStore) :=
  [("System", .system), ("Admin", .admin), ("User", .user)]

def AnchorStore.text : AnchorStore → String
  | .system => "System"
  | .admin => "Admin"
  | .user => "User"

/-- A field that may be missing or null. -/
def Json.absent? {α : Type} (record : List (String × Json)) (name : String) (f : Json → Option α) :
    Option (Option α) :=
  optional? record name none (nullable? f)

def Json.ofOption {α : Type} (f : α → Json) (o : Option α) : Json :=
  (o.map f).getD .null

namespace Constraint

def fieldNames : List String :=
  [ "policy_oid", "policy_name", "policy_string", "key_usage", "application_requirement",
    "allowed_error", "result", "policy_options" ]

/-- Reads a constraint, given how its options are read. -/
def ofRecord? (options? : Json → Option (List (CheckName × OptionValue))) (j : Json) :
    Option Constraint := do
  let fields ← record? fieldNames j
  return {
    policyOid := ← absent? fields "policy_oid" text?
    policyName := ← absent? fields "policy_name" text?
    policyText := ← absent? fields "policy_string" text?
    keyUse := ← absent? fields "key_usage" word32?
    requirement := ← absent? fields "application_requirement" text?
    allowedError := ← absent? fields "allowed_error" (integer? (-0x80000000) 0x80000000)
    standing := ← absent? fields "result" (choice? Standing.rows)
    policyOptions := ← absent? fields "policy_options" options? }

/-- Reads a constraint that lies inside `outer` lists and objects of a text. -/
def ofJson? (outer : Nat) : Json → Option Constraint :=
  ofRecord? (OptionValue.entriesOfJson? (outer + 1))

/-- Reads a constraint from a value, which may have any depth. -/
def ofValue? : Json → Option Constraint :=
  ofRecord? OptionValue.entriesOfValue?

def toJson (c : Constraint) : Json :=
  .object
    [ ("policy_oid", ofOption .text c.policyOid),
      ("policy_name", ofOption .text c.policyName),
      ("policy_string", ofOption .text c.policyText),
      ("key_usage", ofOption (fun n => .integer n.toNat) c.keyUse),
      ("application_requirement", ofOption .text c.requirement),
      ("allowed_error", ofOption .integer c.allowedError),
      ("result", ofOption (fun s => .text s.text) c.standing),
      ("policy_options", ofOption OptionValue.entriesToJson c.policyOptions) ]

def ofBytes (s : Bytes) : Result Constraint :=
  match (Json.ofBytes? s).bind (ofJson? 0) with
  | some c => .ok c
  | none => .error .badJson

end Constraint
end ChainTrust
