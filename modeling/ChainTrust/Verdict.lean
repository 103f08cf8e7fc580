namespace ChainTrust

inductive Verdict where
  | unspecified
  | proceed
  | recoverable
  | deny
  | fatal
  | otherError
deriving DecidableEq, Repr

namespace Verdict

def severity : Verdict → Nat
  | .unspecified => 0
  | .proceed => 1
  | .recoverable => 2
  | .deny => 3
  | .fatal => 4
  | .otherError => 5

def isLess (a b : Verdict) : Bool :=
  a.severity < b.severity

/-- The more severe of two outcomes. -/
def combine (a b : Verdict) : Verdict :=
  if a.isLess b then b else a

def isOk (v : Verdict) : Bool :=
  v == .unspecified || v == .proceed

def all : List Verdict :=
  [.unspecified, .proceed, .recoverable, .deny, .fatal, .otherError]

def text : Verdict → String
  | .unspecified => "Unspecified"
  | .proceed => "Proceed"
  | .recoverable => "RecoverableTrustFailure"
  | .deny => "Deny"
  | .fatal => "FatalTrustFailure"
  | .otherError => "OtherError"

/-- Outcomes by their texts. -/
def rows : List (String × Verdict) :=
  all.map fun v => (v.text, v)

end Verdict
end ChainTrust
