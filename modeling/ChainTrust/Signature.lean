import ChainTrust.Signature.P256

namespace ChainTrust.Signature

/-- RSA algorithms and their digests. -/
def rsaRows : List (Oid × Oid) :=
  [(.sha256WithRsa, .sha256), (.sha384WithRsa, .sha384), (.sha512WithRsa, .sha512)]

def ecdsaAlgorithms : List Oid :=
  [.ecdsaWithSha256, .ecdsaWithSha384, .ecdsaWithSha224, .ecdsaWithSha512]

def verifyRsa (digestId : Oid) (key : X509.PublicKey) (message signature : Bytes) : Result Unit := do
  let digest ← Digest.byOid digestId message
  match Rsa.Key.ofPublicKey? key with
  | none => .error .badStructure
  | some k => if Rsa.verify k digestId digest signature then .ok () else .error .signatureMismatch

/-- Of the curves and digests, only P-256 with SHA-256 is supported. -/
def verifyEcdsa (algorithm : Oid) (key : X509.PublicKey) (message signature : Bytes) : Result Unit :=
  match key.algorithm.parameterId? with
  | none => .error .badStructure
  | some curve =>
    if curve ≠ .secp256r1 ∨ algorithm ≠ .ecdsaWithSha256 then .error .unsupported
    else
      match P256.point? key.key.bytes, P256.signature? signature with
      | some point, some (r, s) =>
        if P256.verify point (sha256 message) r s then .ok () else .error .signatureMismatch
      | _, _ => .error .badStructure

def verify (algorithm : Oid) (key : X509.PublicKey) (message signature : Bytes) : Result Unit :=
  match rsaRows.lookup algorithm with
  | some digestId => verifyRsa digestId key message signature
  | none =>
    if ecdsaAlgorithms.contains algorithm then verifyEcdsa algorithm key message signature
    else .error .unrecognized

end ChainTrust.Signature
