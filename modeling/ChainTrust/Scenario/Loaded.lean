import ChainTrust.Request
import ChainTrust.Scenario
import ChainTrust.Text.Base64
import ChainTrust.Text.Pem

namespace ChainTrust

/-- Contents of files by name. -/
abbrev FileReader := String → Except FileFault Bytes

structure Loaded where
  certificates : List Facts
  policies : List Policy
  time : Option UInt64
  anchors : AnchorTable
  exemptions : List Exemption
  scts : List Bytes
  ocspResponses : List Bytes
  isAllowlisted : Bool

namespace Loaded

def decodeBase64 (what s : String) : Result Bytes :=
  match Base64.ofText? s with
  | some bytes => .ok bytes
  | none => .error (.invalidOption ("invalid base64 " ++ what ++ ": " ++ s))

def armourStart : Bytes := Utf8.ofText "-----BEGIN"

/-- The content of a file, without its armour if it begins with one. -/
def unarmoured (content : Bytes) : Result Bytes :=
  if armourStart.isPrefixOf content then
    match Pem.decode? content with
    | some block => .ok block.content
    | none => .error .badStructure
  else .ok content

def certificate (read : FileReader) : CertificateRef → Result Facts
  | .file name => do
    match read name with
    | .ok content => Facts.ofDer (← unarmoured content)
    | .error fault => .error (.file fault)
  | .encoded der => do Facts.ofDer (← decodeBase64 "certificate" der)

def anchor (certificates : List Facts) (a : AnchorRef) : Result Anchor :=
  match certificates[a.certificate]? with
  | some c => .ok ⟨c.sha1, a.store, a.constraints⟩
  | none =>
    .error (.invalidOption ("anchor index " ++ toString a.certificate ++ " is out of range"))

def exemption (e : ExemptionRef) : Result Exemption :=
  match e.sha1 with
  | some s => do return ⟨some (← Hex.decode s), e.values⟩
  | none => .ok ⟨none, e.values⟩

/-- The path of a scenario before anything is known of its anchors. -/
def path (l : Loaded) : Path :=
  { Path.ofCertificates l.certificates with
    builderScts := l.scts
    ocspResponses := l.ocspResponses
    isAllowlisted := l.isAllowlisted }

end Loaded

open Loaded

namespace Scenario

/-- The first part that cannot be read is reported. -/
def load (s : Scenario) (read : FileReader) : Result Loaded := do
  let certificates ← s.certificates.mapM (certificate read)
  let policies ← s.policies.mapM PolicyRef.policy
  let anchors ← s.anchors.mapM (anchor certificates)
  let exemptions ← s.exemptions.mapM exemption
  return {
    certificates
    policies
    time := s.time
    anchors := anchors.foldl AnchorTable.add []
    exemptions
    scts := ← s.scts.mapM (decodeBase64 "SCT")
    ocspResponses := ← s.ocspResponses.mapM (decodeBase64 "OCSP response")
    isAllowlisted := s.isAllowlisted }

/-- The files that a scenario names. -/
def fileNames (s : Scenario) : List String :=
  s.certificates.filterMap fun
    | .file name => some name
    | .encoded _ => none

end Scenario
end ChainTrust
