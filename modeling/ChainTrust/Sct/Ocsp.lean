import ChainTrust.Certificate.X509
import ChainTrust.Sct

namespace ChainTrust.Ocsp

open Der X509

/-- Statuses of a response. The first is success. -/
def statuses : List Nat := [0, 1, 2, 3, 5, 6]

def revocationReasons : List Nat := [0, 1, 2, 3, 4, 5, 6, 8, 9, 10]

/-- An enumerated value out of a list. -/
def readChoice (values : List Nat) : Reader Nat := do
  let n ← Reader.enumerated
  guard (values.contains n)
  return n

/-- The status, and the type and the bytes of the response proper. -/
def readEnvelope : Reader (Nat × Option (Oid × Bytes)) := Reader.sequence do
  let status ← readChoice statuses
  let response ← Reader.explicitField 0 (Reader.sequence do
    let type ← Reader.objectId
    return (type, ← Reader.octetString))
  return (status, response)

def readVersion : Reader Unit := do
  let version ← Reader.unsignedInteger 1
  guard (version = 0)

/-- A name or the digest of a key. -/
def readResponder : Reader Unit := do
  let (tag, content) ← Reader.anyElement
  if tag = Tag.contextHolder 1 then
    let _ ← Reader.lift (Reader.all Name.read content)
  else
    guard (tag = Tag.contextHolder 2)
    let _ ← Reader.lift (Reader.all Reader.octetString content)

def readCertificateId : Reader Unit := Reader.sequence do
  let _ ← Algorithm.read
  let _ ← Reader.octetString
  let _ ← Reader.octetString
  let _ ← readSerial

def readRevocation (content : Bytes) : Option Unit :=
  Reader.all (do
    let _ ← Reader.generalizedTime
    let _ ← Reader.explicitField 0 (readChoice revocationReasons)) content

/-- Good, revoked or unknown. -/
def readStatus : Reader Unit := do
  let (tag, content) ← Reader.anyElement
  if tag = Tag.contextHolder 1 then Reader.lift (readRevocation content)
  else
    guard (tag = Tag.context 0 || tag = Tag.context 2)
    Reader.lift (nullOf? content)

def readExtensions : Reader (List Extension) :=
  Reader.sequenceOf Extension.read

/-- The extensions of a single answer. -/
def readSingle : Reader (List Extension) := Reader.sequence do
  readCertificateId
  readStatus
  let _ ← Reader.generalizedTime
  let _ ← Reader.explicitField 0 Reader.generalizedTime
  let extensions ← Reader.explicitField 1 readExtensions
  return extensions.getD []

def readAnswers : Reader (List Extension) := Reader.sequence do
  let _ ← Reader.explicitField 0 readVersion
  readResponder
  let _ ← Reader.generalizedTime
  let answers ← Reader.sequenceOf readSingle
  let _ ← Reader.explicitField 1 readExtensions
  return answers.flatten

/-- All extensions of single answers in a basic response. -/
def readBasic : Reader (List Extension) := Reader.sequence do
  let extensions ← readAnswers
  let _ ← Algorithm.read
  let _ ← Reader.bitString
  let _ ← Reader.explicitField 0 (Reader.sequenceOf Certificate.read)
  return extensions

def ofDer {α : Type} (r : Reader α) (der : Bytes) : Result α :=
  match Reader.all r der with
  | some a => .ok a
  | none => .error .badDer

/-- The encodings of the timestamps in a successful response. -/
def scts (der : Bytes) : Result (List Bytes) := do
  match ← ofDer readEnvelope der with
  | (0, some (type, response)) =>
    if type ≠ .ocspBasic then .error .unsupported
    else
      let extensions ← ofDer readBasic response
      let lists ← (extensions.filter (·.id == .ocspSctList)).mapM fun e => do
        Sct.itemsOf (← ofDer Reader.octetString e.value)
      return lists.flatten
  | _ => .error .notFound

end ChainTrust.Ocsp
