import ChainTrust.Certificate.Facts
import ChainTrust.Policy

namespace ChainTrust

/-- What a usage constraint declares. It is invalid if none applies. -/
inductive Standing where
  | invalid
  | trustRoot
  | trustAsRoot
  | deny
  | unspecified
deriving DecidableEq, Repr

/-- The store that an anchor comes from. -/
inductive AnchorStore where
  | system
  | admin
  | user
deriving DecidableEq, Repr

/-- Every field that is present must match for the constraint to apply, apart from the last three,
which say what follows if it does. -/
structure Constraint where
  policyOid : Option String
  policyName : Option String
  /-- The host name or the address that an evaluation is bound to. -/
  policyText : Option String
  keyUse : Option UInt32
  requirement : Option String
  /-- A status code that is tolerated. -/
  allowedError : Option Int
  standing : Option Standing
  /-- Options whose names make the checks of those names apply to the whole path. -/
  policyOptions : Option (List (CheckName × OptionValue))
deriving Repr

def Constraint.empty : Constraint :=
  ⟨none, none, none, none, none, none, none, none⟩

namespace KeyUse

def signature : UInt32 := 1
def data : UInt32 := 2
def key : UInt32 := 4
def signCertificate : UInt32 := 8
def signRevocation : UInt32 := 16
def keyExchange : UInt32 := 32
def any : UInt32 := 0xFFFFFFFF

/-- Bits of the key usage extension, and the uses of a key that constraints call them. -/
def rows : List (UInt32 × UInt32) :=
  [ (KeyUsage.digitalSignature, signature), (KeyUsage.dataEncipherment, data),
    (KeyUsage.keyEncipherment, key), (KeyUsage.certSign, signCertificate),
    (KeyUsage.crlSign, signRevocation), (KeyUsage.keyAgreement, keyExchange) ]

def ofKeyUsage (usage : UInt32) : UInt32 :=
  rows.foldl (fun use (bit, u) => if usage &&& bit == bit then use ||| u else use) 0

end KeyUse
end ChainTrust
