namespace ChainTrust

/-- What a file system says about a file that cannot be read. -/
inductive FileFault where
  | notFound
  | permissionDenied
  | isADirectory
  | notADirectory
  | invalidInput
  | invalidName
  | other
deriving DecidableEq, Repr

def FileFault.name : FileFault → String
  | .notFound => "NotFound"
  | .permissionDenied => "PermissionDenied"
  | .isADirectory => "IsADirectory"
  | .notADirectory => "NotADirectory"
  | .invalidInput => "InvalidInput"
  | .invalidName => "InvalidFilename"
  | .other => "Other"

inductive Error where
  | notFound
  | unrecognized
  | badLength
  | badStructure
  | unsupported
  | signatureMismatch
  | unknownCheck (name : String)
  | invalidOption (what : String)
  | badDer
  | badJson
  | file (fault : FileFault)
deriving DecidableEq, Repr

namespace Error

/-- The kind of an error, without what it concerns. -/
def kind : Error → String
  | .notFound => "NotFound"
  | .unrecognized => "Unrecognized"
  | .badLength => "LengthError"
  | .badStructure => "ParseError"
  | .unsupported => "Unsupported"
  | .signatureMismatch => "SignatureVerificationFailure"
  | .unknownCheck _ => "UnknownCheck"
  | .invalidOption _ => "InvalidOption"
  | .badDer => "Asn1Error"
  | .badJson => "JsonError"
  | .file _ => "StdIoError"

def message (e : Error) : String :=
  match e with
  | .unknownCheck name => e.kind ++ ": " ++ name
  | .invalidOption what => e.kind ++ ": " ++ what
  | .file fault => e.kind ++ ": " ++ fault.name
  | _ => e.kind

end Error

abbrev Result (α : Type) := Except Error α

end ChainTrust
