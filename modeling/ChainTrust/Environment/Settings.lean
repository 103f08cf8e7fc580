import ChainTrust.Constraint.Json
import ChainTrust.Environment
import ChainTrust.Text.Base64

namespace ChainTrust

open Json

structure LogSettings where
  key : String
  expiry : Option UInt64
deriving DecidableEq, Repr

structure Settings where
  blockedKeys : List String
  graylistedKeys : List String
  distrustedRoots : List String
  /-- Digests of roots by policy, in ascending order of the policies' texts. -/
  evAnchors : List (String × List String)
  trustedLogs : List LogSettings
deriving DecidableEq, Repr

namespace Settings

def logOfJson? (j : Json) : Option LogSettings := do
  let fields ← record? ["key", "expiry"] j
  return ⟨← required? fields "key" text?, ← absent? fields "expiry" word64?⟩

def fieldNames : List String :=
  ["blocked_keys", "graylisted_keys", "distrusted_roots", "ev_anchors", "trusted_logs"]

def ofJson? (j : Json) : Option Settings := do
  let fields ← record? fieldNames j
  return {
    blockedKeys := ← optional? fields "blocked_keys" [] (listOf? text?)
    graylistedKeys := ← optional? fields "graylisted_keys" [] (listOf? text?)
    distrustedRoots := ← optional? fields "distrusted_roots" [] (listOf? text?)
    evAnchors := ← optional? fields "ev_anchors" [] (entriesOf? (fun s => s) (listOf? text?))
    trustedLogs := ← optional? fields "trusted_logs" [] (listOf? logOfJson?) }

def ofBytes (s : Bytes) : Result Settings :=
  match (Json.ofBytes? s).bind ofJson? with
  | some settings => .ok settings
  | none => .error .badJson

def textsToJson (texts : List String) : Json :=
  .list (texts.map .text)

def toJson (s : Settings) : Json :=
  .object
    [ ("blocked_keys", textsToJson s.blockedKeys),
      ("graylisted_keys", textsToJson s.graylistedKeys),
      ("distrusted_roots", textsToJson s.distrustedRoots),
      ("ev_anchors", .object (s.evAnchors.map fun (oid, roots) => (oid, textsToJson roots))),
      ("trusted_logs", .list (s.trustedLogs.map fun log => .object
        [("key", .text log.key), ("expiry", ofOption (fun n => .integer n.toNat) log.expiry)])) ]

def evAnchorsOf (oid : String) (roots : List String) : Result (List (Oid × Bytes)) :=
  match Oid.ofText? oid with
  | some policy => do return (← roots.mapM Hex.decode).map (policy, ·)
  | none => .error (.invalidOption ("invalid EV policy OID: " ++ oid))

def logOf (log : LogSettings) : Result TrustedLog :=
  match Base64.ofText? log.key with
  | some key => .ok ⟨key, log.expiry⟩
  | none => .error (.invalidOption ("invalid log key: " ++ log.key))

end Settings

/-- Adds what the settings hold. The first value that cannot be read is reported. -/
def Environment.applySettings (env : Environment) (s : Settings) : Result Environment := do
  let blocked ← s.blockedKeys.mapM Hex.decode
  let graylisted ← s.graylistedKeys.mapM Hex.decode
  let distrusted ← s.distrustedRoots.mapM Hex.decode
  let anchors ← s.evAnchors.mapM fun (oid, roots) => Settings.evAnchorsOf oid roots
  let logs ← s.trustedLogs.mapM Settings.logOf
  return { env with
    blockedKeys := env.blockedKeys ++ blocked
    graylistedKeys := env.graylistedKeys ++ graylisted
    distrustedRoots := env.distrustedRoots ++ distrusted
    evAnchors := env.evAnchors ++ anchors.flatten
    trustedLogs := env.trustedLogs ++ logs }

end ChainTrust
