import ChainTrust.Evaluation
import ChainTrust.Json.Text
import ChainTrust.Name.Text
import ChainTrust.Scenario.Loaded

namespace ChainTrust

structure CertificateReport where
  index : Nat
  subject : String
  sha256 : String
  failures : Failures
  needsResponse : Bool
deriving DecidableEq, Repr

structure Report where
  verdict : Verdict
  time : UInt64
  policies : List String
  isAnchored : Bool
  isCt : Bool
  isEv : Bool
  certificates : List CertificateReport
deriving DecidableEq, Repr

namespace CertificateReport

def of (e : Evaluation) (c : Facts) (ix : Nat) : CertificateReport where
  index := ix
  subject := c.subject.text
  sha256 := Hex.upper c.sha256
  failures := (e.details[ix]?).getD []
  needsResponse := (e.revocation[ix]?).getD false

def lines (c : CertificateReport) : List String :=
  [ "Certificate " ++ toString c.index ++ ": " ++ c.subject, "\tSHA-256: " ++ c.sha256 ] ++
    (if c.needsResponse then ["\tRevocation response required"] else []) ++
    c.failures.map fun (name, value) => "\tFailed: " ++ name.text ++ " (" ++ toString value ++ ")"

def toJson (c : CertificateReport) : Json :=
  .object
    [ ("index", .integer c.index), ("subject", .text c.subject), ("sha256", .text c.sha256),
      ("failures", .object (c.failures.map fun (name, value) => (name.text, .bool value))),
      ("revocation_response_required", .bool c.needsResponse) ]

end CertificateReport

namespace Report

def of (r : Request) (p : Path) (verdict : Verdict) (e : Evaluation) : Report where
  verdict := verdict
  time := r.time
  policies := r.policies.map (·.name)
  isAnchored := p.isAnchored
  isCt := p.isCt
  isEv := p.isEv
  certificates := p.places.map fun (c, ix) => .of e c ix

def lines (r : Report) : List String :=
  [ "Trust result: " ++ r.verdict.text, "Verify time: " ++ toString r.time,
    "Policies: " ++ ", ".intercalate r.policies, "Anchored: " ++ toString r.isAnchored,
    "CT qualified: " ++ toString r.isCt, "EV: " ++ toString r.isEv ] ++
    r.certificates.flatMap CertificateReport.lines

/-- Every line ends with a line feed. -/
def text (r : Report) : String :=
  String.join (r.lines.map (· ++ "\n"))

def toJson (r : Report) : Json :=
  .object
    [ ("result", .text r.verdict.text), ("verify_time", .integer r.time.toNat),
      ("policies", .list (r.policies.map .text)), ("anchored", .bool r.isAnchored),
      ("ct_qualified", .bool r.isCt), ("extended_validation", .bool r.isEv),
      ("certificates", .list (r.certificates.map CertificateReport.toJson)) ]

def jsonText (r : Report) : String :=
  r.toJson.indented 0

end Report

/-- Evaluates what a scenario describes in an environment, to which its anchors are added last. -/
def Loaded.report (l : Loaded) (env : Environment) (time : UInt64) : Report :=
  let env := { env with anchorSources := env.anchorSources ++ [l.anchors.source] }
  let r : Request := ⟨env, l.policies, time, l.exemptions⟩
  let (verdict, e, p) := Evaluation.initial.evaluate r l.path
  .of r p verdict e

end ChainTrust
