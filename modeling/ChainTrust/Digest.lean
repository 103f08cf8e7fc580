import ChainTrust.Error
import ChainTrust.Oid
import ChainTrust.Digest.Sha1
import ChainTrust.Digest.Sha256
import ChainTrust.Digest.Sha512

namespace ChainTrust

abbrev sha1 (message : Bytes) : Bytes := Digest.Sha1.digest message
abbrev sha256 (message : Bytes) : Bytes := Digest.Sha256.digest256 message

namespace Digest

/-- The digest that an object identifier names. -/
def byOid (algorithm : Oid) (message : Bytes) : Result Bytes :=
  if algorithm = .sha1 then .ok (Sha1.digest message)
  else if algorithm = .sha224 then .ok (Sha256.digest224 message)
  else if algorithm = .sha256 then .ok (Sha256.digest256 message)
  else if algorithm = .sha384 then .ok (Sha512.digest384 message)
  else if algorithm = .sha512 then .ok (Sha512.digest512 message)
  else .error .unrecognized

/-- Rows of signature algorithm and digest. -/
def signatureRows : List (Oid × Oid) :=
  [ (.sha256WithRsa, .sha256), (.ecdsaWithSha256, .sha256),
    (.sha384WithRsa, .sha384), (.ecdsaWithSha384, .sha384),
    (.sha224WithRsa, .sha224), (.ecdsaWithSha224, .sha224),
    (.sha512WithRsa, .sha512), (.ecdsaWithSha512, .sha512),
    (.sha1WithRsa, .sha1), (.ecdsaWithSha1, .sha1) ]

def ofSignature (algorithm : Oid) : Result Oid :=
  match signatureRows.lookup algorithm with
  | some digest => .ok digest
  | none => .error .unrecognized

end Digest
end ChainTrust
