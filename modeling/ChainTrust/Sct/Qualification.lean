import ChainTrust.Environment
import ChainTrust.Sct.Ocsp
import ChainTrust.Word

namespace ChainTrust

/-- A timestamp that verified under the key of a trusted log. -/
structure VerifiedSct where
  logId : Bytes
  logExpiry : Option UInt64
  timestamp : UInt64
deriving DecidableEq, Repr

namespace VerifiedSct

/-- The log is still qualified at a time. -/
def isCurrent (s : VerifiedSct) (time : UInt64) : Bool :=
  s.logExpiry.all (time < ·)

/-- The log was qualified when the timestamp was issued. -/
def wasQualified (s : VerifiedSct) : Bool :=
  s.logExpiry.all fun expiry => s.timestamp < Word.times expiry 1000

end VerifiedSct

namespace Sct

/-- The first log with the identifier of the timestamp has to be the one that signed it. -/
def verify? (env : Environment) (encoded : Bytes) (entry : LogEntry) (time : UInt64) :
    Option VerifiedSct := do
  let sct ← ofBytes? encoded
  guard (sct.version = 0 && sct.timestamp ≤ Word.times time 1000)
  let log ← env.trustedLogs.find? fun log => log.id == sct.logId
  let algorithm ← sct.algorithm.toOption
  let key ← (X509.PublicKey.ofDer log.key).toOption
  let message ← (sct.signedData entry).toOption
  let () ← (env.verify algorithm key message sct.signature).toOption
  return ⟨sct.logId, log.expiry, sct.timestamp⟩

/-- How many logs must have issued the embedded timestamps of a certificate, by its lifetime. -/
def requiredLogs (months : UInt64) : Nat :=
  if months ≤ 14 then 2 else if months ≤ 27 then 3 else if months ≤ 39 then 4 else 5

end Sct

namespace Path

/-- The verified timestamps inside the leaf. Without an issuer there are none. -/
def embeddedScts (p : Path) (env : Environment) (time : UInt64) : List VerifiedSct :=
  match p.leaf?.bind (·.sctList), p.certificate? 1, p.leaf?.bind (·.precertificate) with
  | some list, some issuer, some body =>
    let items := (Sct.itemsOf list).toOption.getD []
    items.filterMap fun s => Sct.verify? env s (.precertificate issuer.spkiSha256 body) time
  | _, _, _ => []

/-- The encodings of the timestamps that came with the path, those in responses last. -/
def externalItems (p : Path) : List Bytes :=
  p.builderScts ++ p.ocspResponses.flatMap fun der => (Ocsp.scts der).toOption.getD []

def externalScts (p : Path) (env : Environment) (leaf : Facts) (time : UInt64) : List VerifiedSct :=
  p.externalItems.filterMap fun s => Sct.verify? env s (.certificate leaf.encoded) time

end Path

def distinctLogs (scts : List VerifiedSct) : Nat :=
  (scts.map (·.logId)).eraseDups.length

/-- Two logs that are current suffice. Otherwise one embedded timestamp has to be of a current log,
and the embedded ones of as many logs as the lifetime of the leaf demands, each of which was
qualified at the time. -/
def suffice (embedded external : List VerifiedSct) (required : Nat) (time : UInt64) : Bool :=
  2 ≤ distinctLogs ((embedded ++ external).filter (·.isCurrent time)) ||
    (embedded.any (·.isCurrent time) && required ≤ distinctLogs (embedded.filter (·.wasQualified)))

/-- Months from the start to the end of a certificate's validity, the greatest word if a time is out
of range. -/
def Facts.lifetimeMonths (c : Facts) : UInt64 :=
  match Calendar.monthsBetween c.notBefore c.notAfter with
  | .ok months => months
  | .error _ => Word.greatest

def Path.isCtQualified (p : Path) (env : Environment) (time : UInt64) : Bool :=
  match p.leaf? with
  | none => false
  | some leaf =>
    !env.trustedLogs.isEmpty &&
      suffice (p.embeddedScts env time) (p.externalScts env leaf time)
        (Sct.requiredLogs leaf.lifetimeMonths) time

end ChainTrust
