import ChainTrust.Constraint.Json
import ChainTrust.Policy.Json
import ChainTrust.Policy.Preset

namespace ChainTrust

open Json

/-- The name of a file, or an encoding in Base64. -/
inductive CertificateRef where
  | file (name : String)
  | encoded (der : String)
deriving DecidableEq, Repr

/-- A policy by name, with further options, or in full. -/
inductive PolicyRef where
  | preset (name : String) (value : Option String) (options : List (CheckName × OptionValue))
  | full (policy : Policy)
deriving Repr

/-- An anchor is a certificate of the path, by its place. -/
structure AnchorRef where
  certificate : Nat
  store : AnchorStore
  constraints : List Constraint

structure ExemptionRef where
  /-- A digest in hexadecimal. -/
  sha1 : Option String
  values : List (CheckName × Bool)
deriving Repr

structure Scenario where
  certificates : List CertificateRef
  policies : List PolicyRef
  time : Option UInt64
  anchors : List AnchorRef
  exemptions : List ExemptionRef
  /-- Timestamps and responses in Base64. -/
  scts : List String
  ocspResponses : List String
  isAllowlisted : Bool

/-- Reads one of several forms of a value. The whole value has to be readable, whichever form it
has. -/
def Json.oneOf? {α : Type} (outer : Nat) (forms : List (Json → Option α)) (j : Json) : Option α :=
  inside? outer (fun j => if j.isReadable then forms.findSome? (· j) else none) j

/-- The fields of a record that has to be an object. -/
def Json.objectRecord? (names : List String) : Json → Option (List (String × Json))
  | .object fields => record? names (.object fields)
  | _ => none

namespace CertificateRef

def encodedOfJson? (j : Json) : Option CertificateRef := do
  let fields ← objectRecord? ["der"] j
  return .encoded (← required? fields "der" text?)

def ofJson? (outer : Nat) : Json → Option CertificateRef :=
  oneOf? outer [fun j => (text? j).map .file, encodedOfJson?]

end CertificateRef

namespace PolicyRef

def presetOfJson? (j : Json) : Option PolicyRef := do
  let fields ← objectRecord? ["preset", "value", "options"] j
  return .preset (← required? fields "preset" text?) (← absent? fields "value" text?)
    (← optional? fields "options" [] (OptionValue.entriesOfJson? 1))

/-- What names no policy is read as a policy in full, all fields of which may be missing. -/
def ofJson? (outer : Nat) : Json → Option PolicyRef :=
  oneOf? outer [presetOfJson?, fun j => (Policy.ofJson? j).map .full]

def policy : PolicyRef → Result Policy
  | .preset name value options => return (← Policy.preset name value).withOptions options
  | .full p => .ok p

end PolicyRef

namespace AnchorRef

def ofJson? (outer : Nat) (j : Json) : Option AnchorRef := do
  let fields ← record? ["certificate", "store", "constraints"] j
  return {
    certificate := (← required? fields "certificate" word64?).toNat
    store := ← optional? fields "store" .system (choice? AnchorStore.rows)
    constraints := ← optional? fields "constraints" [] (listOf? (Constraint.ofJson? (outer + 2))) }

end AnchorRef

def ExemptionRef.ofJson? (j : Json) : Option ExemptionRef := do
  let fields ← record? ["cert_sha1", "values"] j
  return ⟨← absent? fields "cert_sha1" text?,
    ← optional? fields "values" [] (entriesOf? CheckName.ofText bool?)⟩

namespace Scenario

def fieldNames : List String :=
  [ "certificates", "policies", "verify_time", "anchors", "exceptions", "builder_scts",
    "ocsp_responses", "allowlisted" ]

def ofJson? (j : Json) : Option Scenario := do
  let fields ← record? fieldNames j
  return {
    certificates := ← required? fields "certificates" (listOf? (CertificateRef.ofJson? 2))
    policies := ← required? fields "policies" (listOf? (PolicyRef.ofJson? 2))
    time := ← absent? fields "verify_time" word64?
    anchors := ← optional? fields "anchors" [] (listOf? (AnchorRef.ofJson? 2))
    exemptions := ← optional? fields "exceptions" [] (listOf? ExemptionRef.ofJson?)
    scts := ← optional? fields "builder_scts" [] (listOf? text?)
    ocspResponses := ← optional? fields "ocsp_responses" [] (listOf? text?)
    isAllowlisted := ← optional? fields "allowlisted" false bool? }

def ofBytes (s : Bytes) : Result Scenario :=
  match (Json.ofBytes? s).bind ofJson? with
  | some scenario => .ok scenario
  | none => .error .badJson

end Scenario
end ChainTrust
