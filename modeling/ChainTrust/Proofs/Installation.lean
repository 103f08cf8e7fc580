import ChainTrust.Environment.Settings
import Mathlib

namespace ChainTrust

theorem bind_eq_ok_iff {α β : Type} {r : Result α} {next : α → Result β} {b : β} :
    r >>= next = .ok b ↔ ∃ a, r = .ok a ∧ next a = .ok b := by
  cases r <;> simp [bind, Except.bind]

theorem pure_eq_ok_iff {α : Type} {a b : α} : (pure a : Result α) = .ok b ↔ a = b :=
  Except.ok.injEq a b ▸ Iff.rfl

/-- Every text can be read, and each is read as the value in its place. -/
theorem mapM_eq_ok_iff {α β : Type} {f : α → Result β} {texts : List α} {values : List β} :
    texts.mapM f = .ok values ↔ List.Forall₂ (fun t v => f t = .ok v) texts values := by
  induction texts generalizing values with
  | nil => rw [List.mapM_nil, pure_eq_ok_iff, List.forall₂_nil_left_iff, eq_comm]
  | cons t texts ih =>
    simp only [List.mapM_cons, bind_eq_ok_iff, pure_eq_ok_iff, ih, List.forall₂_cons_left_iff]
    exact exists_congr fun v => ⟨fun ⟨hv, rest, hrest, h⟩ => ⟨rest, hv, hrest, h.symm⟩,
      fun ⟨rest, hv, hrest, h⟩ => ⟨hv, rest, hrest, h.symm⟩⟩

theorem mem_of_mapM_eq_ok {α β : Type} {f : α → Result β} {texts : List α} {values : List β}
    (h : texts.mapM f = .ok values) (v : β) : v ∈ values ↔ ∃ t ∈ texts, f t = .ok v := by
  have hall := mapM_eq_ok_iff.mp h
  clear h
  induction hall with
  | nil => simp
  | cons hv _ ih => simp [ih, hv, eq_comm]

theorem exists_mapM_eq_ok_iff {α β : Type} {f : α → Result β} {texts : List α} :
    (∃ values, texts.mapM f = .ok values) ↔ ∀ t ∈ texts, ∃ v, f t = .ok v := by
  simp only [mapM_eq_ok_iff]
  induction texts with
  | nil => simp
  | cons t texts ih =>
    simp only [List.forall₂_cons_left_iff, List.forall_mem_cons, ← ih]
    constructor
    · rintro ⟨_, v, values, hv, hvalues, -⟩
      exact ⟨⟨v, hv⟩, values, hvalues⟩
    · rintro ⟨⟨v, hv⟩, values, hvalues⟩
      exact ⟨_, v, values, hv, hvalues, rfl⟩

namespace Settings

/-- One of the texts is a way to write the digest. -/
def Lists (texts : List String) (digest : Bytes) : Prop :=
  ∃ t ∈ texts, Hex.decode t = .ok digest

/-- Roots may be listed for one policy under several texts of its identifier. -/
def Recognizes (s : Settings) (policy : Oid) (root : Bytes) : Prop :=
  ∃ entry ∈ s.evAnchors, Oid.ofText? entry.1 = some policy ∧ Lists entry.2 root

/-- No entry is at fault. -/
structure IsReadable (s : Settings) : Prop where
  blocked : ∀ t ∈ s.blockedKeys, ∃ key, Hex.decode t = .ok key
  graylisted : ∀ t ∈ s.graylistedKeys, ∃ key, Hex.decode t = .ok key
  distrusted : ∀ t ∈ s.distrustedRoots, ∃ root, Hex.decode t = .ok root
  anchors : ∀ entry ∈ s.evAnchors, (∃ policy, Oid.ofText? entry.1 = some policy) ∧
    ∀ t ∈ entry.2, ∃ root, Hex.decode t = .ok root
  logs : ∀ log ∈ s.trustedLogs, ∃ key, Base64.ofText? log.key = some key

theorem logOf_eq_ok_iff {log : LogSettings} {l : TrustedLog} :
    logOf log = .ok l ↔ Base64.ofText? log.key = some l.key ∧ l.expiry = log.expiry := by
  obtain ⟨key, expiry⟩ := l
  unfold logOf
  cases Base64.ofText? log.key with
  | none => simp
  | some k => simp [eq_comm]

theorem evAnchorsOf_eq_ok_iff {oid : String} {roots : List String} {pairs : List (Oid × Bytes)} :
    evAnchorsOf oid roots = .ok pairs ↔ ∃ policy digests, Oid.ofText? oid = some policy ∧
      roots.mapM Hex.decode = .ok digests ∧ pairs = digests.map (policy, ·) := by
  unfold evAnchorsOf
  cases Oid.ofText? oid with
  | none => simp
  | some policy =>
    simp only [bind_eq_ok_iff, pure_eq_ok_iff, Option.some.injEq, exists_and_left, exists_eq_left',
      eq_comm (a := pairs)]

theorem mem_evAnchorsOf {oid : String} {roots : List String} {pairs : List (Oid × Bytes)}
    (h : evAnchorsOf oid roots = .ok pairs) (policy : Oid) (root : Bytes) :
    (policy, root) ∈ pairs ↔ Oid.ofText? oid = some policy ∧ Lists roots root := by
  obtain ⟨named, digests, hnamed, hdigests, rfl⟩ := evAnchorsOf_eq_ok_iff.mp h
  simp [hnamed, Lists, mem_of_mapM_eq_ok hdigests, and_comm]

/-- An anchor is read from one of the entries, under whichever text its policy has there. -/
theorem mem_anchors {s : Settings} {anchors : List (List (Oid × Bytes))}
    (h : (s.evAnchors.mapM fun entry => evAnchorsOf entry.1 entry.2) = .ok anchors)
    (policy : Oid) (root : Bytes) : (policy, root) ∈ anchors.flatten ↔ s.Recognizes policy root := by
  rw [List.mem_flatten]
  constructor
  · intro hmem
    obtain ⟨pairs, hpairs, hroot⟩ := hmem
    obtain ⟨entry, hentry, hread⟩ := (mem_of_mapM_eq_ok h pairs).mp hpairs
    exact ⟨entry, hentry, (mem_evAnchorsOf hread policy root).mp hroot⟩
  · intro hlisted
    obtain ⟨entry, hentry, hroot⟩ := hlisted
    obtain ⟨pairs, hread⟩ := exists_mapM_eq_ok_iff.mp ⟨anchors, h⟩ entry hentry
    exact ⟨pairs, (mem_of_mapM_eq_ok h pairs).mpr ⟨entry, hentry, hread⟩,
      (mem_evAnchorsOf hread policy root).mpr hroot⟩

/-- What is read of the lists of roots has no fault if no entry has. -/
theorem exists_anchors_iff {s : Settings} :
    (∃ anchors, (s.evAnchors.mapM fun entry => evAnchorsOf entry.1 entry.2) = .ok anchors) ↔
      ∀ entry ∈ s.evAnchors, (∃ policy, Oid.ofText? entry.1 = some policy) ∧
        ∀ t ∈ entry.2, ∃ root, Hex.decode t = .ok root := by
  rw [exists_mapM_eq_ok_iff]
  refine forall₂_congr fun entry _ => ?_
  rw [← exists_mapM_eq_ok_iff]
  constructor
  · intro h
    obtain ⟨pairs, hpairs⟩ := h
    obtain ⟨policy, digests, hpolicy, hdigests, -⟩ := evAnchorsOf_eq_ok_iff.mp hpairs
    exact ⟨⟨policy, hpolicy⟩, digests, hdigests⟩
  · intro h
    obtain ⟨⟨policy, hpolicy⟩, digests, hdigests⟩ := h
    exact ⟨_, evAnchorsOf_eq_ok_iff.mpr ⟨policy, digests, hpolicy, hdigests, rfl⟩⟩

theorem exists_logs_iff {s : Settings} :
    (∃ logs, s.trustedLogs.mapM logOf = .ok logs) ↔
      ∀ log ∈ s.trustedLogs, ∃ key, Base64.ofText? log.key = some key := by
  rw [exists_mapM_eq_ok_iff]
  refine forall₂_congr fun log _ => ?_
  constructor
  · intro h
    obtain ⟨l, hl⟩ := h
    exact ⟨l.key, (logOf_eq_ok_iff.mp hl).1⟩
  · intro h
    obtain ⟨key, hkey⟩ := h
    exact ⟨⟨key, log.expiry⟩, logOf_eq_ok_iff.mpr ⟨hkey, rfl⟩⟩

end Settings

/-- A change of an environment that may stop with an error. What was changed by then stays so. -/
abbrev Installation := EStateM Error Environment

namespace Environment

open Settings

def addBlockedKey (env : Environment) (key : Bytes) : Environment :=
  { env with blockedKeys := env.blockedKeys ++ [key] }

def addGraylistedKey (env : Environment) (key : Bytes) : Environment :=
  { env with graylistedKeys := env.graylistedKeys ++ [key] }

def addDistrustedRoot (env : Environment) (root : Bytes) : Environment :=
  { env with distrustedRoots := env.distrustedRoots ++ [root] }

def addEvAnchor (env : Environment) (anchor : Oid × Bytes) : Environment :=
  { env with evAnchors := env.evAnchors ++ [anchor] }

def addTrustedLog (env : Environment) (log : TrustedLog) : Environment :=
  { env with trustedLogs := env.trustedLogs ++ [log] }

/-- Reads the entries of the settings, and then adds what was read to the environment one by one. -/
def install (s : Settings) : Installation Unit := do
  let blocked ← s.blockedKeys.mapM fun t => ofExcept (Hex.decode t)
  let graylisted ← s.graylistedKeys.mapM fun t => ofExcept (Hex.decode t)
  let distrusted ← s.distrustedRoots.mapM fun t => ofExcept (Hex.decode t)
  let anchors ← s.evAnchors.mapM fun (oid, roots) => ofExcept (evAnchorsOf oid roots)
  let logs ← s.trustedLogs.mapM fun log => ofExcept (logOf log)
  blocked.forM fun key => modify fun env => env.addBlockedKey key
  graylisted.forM fun key => modify fun env => env.addGraylistedKey key
  distrusted.forM fun root => modify fun env => env.addDistrustedRoot root
  anchors.flatten.forM fun anchor => modify fun env => env.addEvAnchor anchor
  logs.forM fun log => modify fun env => env.addTrustedLog log

/-- Entries are read one by one, or all at once and then handed over. -/
theorem mapM_ofExcept {α β : Type} (f : α → Result β) (texts : List α) :
    (texts.mapM fun t => (ofExcept (f t) : Installation β)) = ofExcept (texts.mapM f) := by
  induction texts with
  | nil => rfl
  | cons t texts ih =>
    rw [List.mapM_cons, List.mapM_cons, ih]
    cases f t with
    | error e => rfl
    | ok v => cases texts.mapM f <;> rfl

/-- Additions are made one after the other, up to the last. -/
theorem forM_modify {α : Type} (add : Environment → α → Environment) (values : List α) :
    (values.forM fun a => (modify fun env => add env a : Installation Unit)) =
      modify fun env => values.foldl add env := by
  induction values with
  | nil => rfl
  | cons a values ih =>
    change ((modify fun env => add env a : Installation Unit) >>= fun _ => values.forM _) = _
    rw [ih]
    rfl

/-- What is added to one list of an environment follows what the list holds. -/
theorem foldl_add {α : Type} (holding : List α → Environment) {add : Environment → α → Environment}
    (hadd : ∀ l a, add (holding l) a = holding (l ++ [a])) (l values : List α) :
    values.foldl add (holding l) = holding (l ++ values) := by
  induction values generalizing l with
  | nil => rw [List.append_nil, List.foldl_nil]
  | cons a values ih => rw [List.foldl_cons, hadd, ih, List.append_assoc, List.singleton_append]

@[simp]
theorem foldl_addBlockedKey (env : Environment) (keys : List Bytes) :
    keys.foldl addBlockedKey env = { env with blockedKeys := env.blockedKeys ++ keys } :=
  foldl_add (fun l => { env with blockedKeys := l }) (fun _ _ => rfl) env.blockedKeys keys

@[simp]
theorem foldl_addGraylistedKey (env : Environment) (keys : List Bytes) :
    keys.foldl addGraylistedKey env = { env with graylistedKeys := env.graylistedKeys ++ keys } :=
  foldl_add (fun l => { env with graylistedKeys := l }) (fun _ _ => rfl) env.graylistedKeys keys

@[simp]
theorem foldl_addDistrustedRoot (env : Environment) (roots : List Bytes) :
    roots.foldl addDistrustedRoot env = { env with distrustedRoots := env.distrustedRoots ++ roots } :=
  foldl_add (fun l => { env with distrustedRoots := l }) (fun _ _ => rfl) env.distrustedRoots roots

@[simp]
theorem foldl_addEvAnchor (env : Environment) (anchors : List (Oid × Bytes)) :
    anchors.foldl addEvAnchor env = { env with evAnchors := env.evAnchors ++ anchors } :=
  foldl_add (fun l => { env with evAnchors := l }) (fun _ _ => rfl) env.evAnchors anchors

@[simp]
theorem foldl_addTrustedLog (env : Environment) (logs : List TrustedLog) :
    logs.foldl addTrustedLog env = { env with trustedLogs := env.trustedLogs ++ logs } :=
  foldl_add (fun l => { env with trustedLogs := l }) (fun _ _ => rfl) env.trustedLogs logs

/-- The outcome of a change that is made in full or refused. -/
def outcome (env : Environment) : Result Environment → EStateM.Result Error Environment Unit
  | .ok env' => .ok () env'
  | .error e => .error e env

theorem outcome_eq_ok_iff {env env' : Environment} {r : Result Environment} :
    env.outcome r = .ok () env' ↔ r = .ok env' := by
  cases r <;> simp [outcome]

theorem outcome_eq_error_iff {env env' : Environment} {r : Result Environment} {e : Error} :
    env.outcome r = .error e env' ↔ r = .error e ∧ env' = env := by
  cases r <;> simp [outcome, eq_comm]

/-- Reading an entry changes nothing, whatever comes of it. -/
theorem run_ofExcept_bind {α : Type} {r : Result α} {env : Environment} {k : α → Installation Unit}
    {next : α → Result Environment} (h : ∀ a, (k a).run env = env.outcome (next a)) :
    (ofExcept r >>= k).run env = env.outcome (r >>= next) := by
  cases r with
  | error e => rfl
  | ok a => exact h a

/-- An installation reports what is at fault and changes nothing, or ends with the environment that
the settings make of the one before. -/
theorem run_install (env : Environment) (s : Settings) :
    (install s).run env = env.outcome (env.applySettings s) := by
  simp only [install, mapM_ofExcept, forM_modify]
  refine run_ofExcept_bind fun blocked => run_ofExcept_bind fun graylisted =>
    run_ofExcept_bind fun distrusted => run_ofExcept_bind fun anchors =>
      run_ofExcept_bind fun logs => congrArg (EStateM.Result.ok ()) ?_
  simp

/-- Settings can be installed if and only if all their entries can be read, and then each list of
the environment is followed by what was read for it. -/
theorem applySettings_eq_ok_iff {env env' : Environment} {s : Settings} :
    env.applySettings s = .ok env' ↔ ∃ blocked graylisted distrusted anchors logs,
      s.blockedKeys.mapM Hex.decode = .ok blocked ∧
      s.graylistedKeys.mapM Hex.decode = .ok graylisted ∧
      s.distrustedRoots.mapM Hex.decode = .ok distrusted ∧
      (s.evAnchors.mapM fun entry => evAnchorsOf entry.1 entry.2) = .ok anchors ∧
      s.trustedLogs.mapM logOf = .ok logs ∧
      { env with
        blockedKeys := env.blockedKeys ++ blocked
        graylistedKeys := env.graylistedKeys ++ graylisted
        distrustedRoots := env.distrustedRoots ++ distrusted
        evAnchors := env.evAnchors ++ anchors.flatten
        trustedLogs := env.trustedLogs ++ logs } = env' := by
  simp only [applySettings, bind_eq_ok_iff, pure_eq_ok_iff, exists_and_left]

theorem exists_applySettings_eq_ok_iff {env : Environment} {s : Settings} :
    (∃ env', env.applySettings s = .ok env') ↔ s.IsReadable := by
  constructor
  · intro h
    obtain ⟨env', h⟩ := h
    obtain ⟨_, _, _, _, _, hb, hg, hd, ha, hl, -⟩ := applySettings_eq_ok_iff.mp h
    exact {
      blocked := exists_mapM_eq_ok_iff.mp ⟨_, hb⟩
      graylisted := exists_mapM_eq_ok_iff.mp ⟨_, hg⟩
      distrusted := exists_mapM_eq_ok_iff.mp ⟨_, hd⟩
      anchors := exists_anchors_iff.mp ⟨_, ha⟩
      logs := exists_logs_iff.mp ⟨_, hl⟩ }
  · intro h
    obtain ⟨_, hb⟩ := exists_mapM_eq_ok_iff.mpr h.blocked
    obtain ⟨_, hg⟩ := exists_mapM_eq_ok_iff.mpr h.graylisted
    obtain ⟨_, hd⟩ := exists_mapM_eq_ok_iff.mpr h.distrusted
    obtain ⟨_, ha⟩ := exists_anchors_iff.mpr h.anchors
    obtain ⟨_, hl⟩ := exists_logs_iff.mpr h.logs
    exact ⟨_, applySettings_eq_ok_iff.mpr ⟨_, _, _, _, _, hb, hg, hd, ha, hl, rfl⟩⟩

/-- The second environment has what the first one has, and the entries of the settings. -/
structure Gains (env : Environment) (s : Settings) (env' : Environment) : Prop where
  providers : env'.digests = env.digests ∧ env'.verifiers = env.verifiers ∧
    env'.requirements = env.requirements ∧ env'.anchorSources = env.anchorSources ∧
      env'.hostOf = env.hostOf
  blocked : ∀ key, env'.isBlockedKey key = true ↔
    env.isBlockedKey key = true ∨ Lists s.blockedKeys key
  graylisted : ∀ key, env'.isGraylistedKey key = true ↔
    env.isGraylistedKey key = true ∨ Lists s.graylistedKeys key
  distrusted : ∀ root, env'.isDistrustedRoot root = true ↔
    env.isDistrustedRoot root = true ∨ Lists s.distrustedRoots root
  anchors : ∀ policy root, env'.isEvAnchor policy root = true ↔
    env.isEvAnchor policy root = true ∨ s.Recognizes policy root
  logs : ∃ logs, env'.trustedLogs = env.trustedLogs ++ logs ∧
    List.Forall₂ (fun log l => Base64.ofText? log.key = some l.key ∧ l.expiry = log.expiry)
      s.trustedLogs logs

theorem contains_append_iff {α : Type} [BEq α] [LawfulBEq α] {a : α} {held read : List α}
    {adds : Prop} (h : a ∈ read ↔ adds) :
    (held ++ read).contains a = true ↔ held.contains a = true ∨ adds := by
  rw [List.contains_iff_mem, List.contains_iff_mem, List.mem_append, h]

theorem gains_of_applySettings {env env' : Environment} {s : Settings}
    (h : env.applySettings s = .ok env') : env.Gains s env' := by
  obtain ⟨blocked, graylisted, distrusted, anchors, logs, hb, hg, hd, ha, hl, rfl⟩ :=
    applySettings_eq_ok_iff.mp h
  exact {
    providers := ⟨rfl, rfl, rfl, rfl, rfl⟩
    blocked := fun key => contains_append_iff (mem_of_mapM_eq_ok hb key)
    graylisted := fun key => contains_append_iff (mem_of_mapM_eq_ok hg key)
    distrusted := fun root => contains_append_iff (mem_of_mapM_eq_ok hd root)
    anchors := fun policy root => contains_append_iff (mem_anchors ha policy root)
    logs := ⟨logs, rfl, (mapM_eq_ok_iff.mp hl).imp fun _ _ => logOf_eq_ok_iff.mp⟩ }

/-- The environment after an attempt to install settings. -/
def attempt (env : Environment) (s : Settings) : Environment :=
  match (install s).run env with
  | .ok _ env' => env'
  | .error _ env' => env'

/-- The environment after attempts to install settings, one after the other. -/
def attemptAll (env : Environment) (ss : List Settings) : Environment :=
  ss.foldl attempt env

/-- An attempt adds to what holds of an environment if the settings can be read. -/
theorem holds_attempt_iff {holds : Environment → Prop} {adds : Settings → Prop}
    (hgains : ∀ env s env', Gains env s env' → (holds env' ↔ holds env ∨ adds s))
    (env : Environment) (s : Settings) :
    holds (env.attempt s) ↔ holds env ∨ s.IsReadable ∧ adds s := by
  have hreadable : (∃ env', env.applySettings s = .ok env') ↔ s.IsReadable :=
    exists_applySettings_eq_ok_iff
  rw [← hreadable]
  unfold attempt
  rw [run_install]
  cases h : env.applySettings s with
  | error e => simp [outcome]
  | ok env' => simpa [outcome] using hgains env s env' (gains_of_applySettings h)

/-- What holds in the end is what held at first, and what settings say that can be read. -/
theorem holds_attemptAll_iff {holds : Environment → Prop} {adds : Settings → Prop}
    (hgains : ∀ env s env', Gains env s env' → (holds env' ↔ holds env ∨ adds s))
    (env : Environment) (ss : List Settings) :
    holds (env.attemptAll ss) ↔ holds env ∨ ∃ s ∈ ss, s.IsReadable ∧ adds s := by
  induction ss generalizing env with
  | nil => simp [attemptAll]
  | cons s ss ih =>
    change holds ((env.attempt s).attemptAll ss) ↔ _
    rw [ih, holds_attempt_iff hgains, List.exists_mem_cons_iff, or_assoc]

/-- Environments of which the same is blocked, graylisted, distrusted and recognized. -/
structure Agrees (env env' : Environment) : Prop where
  blocked : ∀ key, env.isBlockedKey key = env'.isBlockedKey key
  graylisted : ∀ key, env.isGraylistedKey key = env'.isGraylistedKey key
  distrusted : ∀ root, env.isDistrustedRoot root = env'.isDistrustedRoot root
  anchors : ∀ policy root, env.isEvAnchor policy root = env'.isEvAnchor policy root

theorem agrees_attemptAll (env : Environment) {ss tt : List Settings}
    (h : ∀ s, s.IsReadable → (s ∈ ss ↔ s ∈ tt)) : (env.attemptAll ss).Agrees (env.attemptAll tt) := by
  have hadds : ∀ adds : Settings → Prop,
      (∃ s ∈ ss, s.IsReadable ∧ adds s) ↔ ∃ s ∈ tt, s.IsReadable ∧ adds s := fun adds =>
    exists_congr fun s => and_congr_left fun hs => h s hs.1
  have hholds : ∀ {holds : Environment → Bool} {adds : Settings → Prop},
      (∀ env s env', Gains env s env' → (holds env' = true ↔ holds env = true ∨ adds s)) →
        holds (env.attemptAll ss) = holds (env.attemptAll tt) := by
    intro holds adds hgains
    rw [Bool.eq_iff_iff, holds_attemptAll_iff hgains, holds_attemptAll_iff hgains, hadds]
  exact {
    blocked := fun key => hholds fun _ _ _ g => g.blocked key
    graylisted := fun key => hholds fun _ _ _ g => g.graylisted key
    distrusted := fun root => hholds fun _ _ _ g => g.distrusted root
    anchors := fun policy root => hholds fun _ _ _ g => g.anchors policy root }

/-- Settings are installed all or nothing. An installation stops at the first entry that cannot be
read, with the environment as it was; otherwise it ends with what was there before and the entries of
the settings. What is blocked, graylisted, distrusted and recognized after any number of attempts
depends on which of the settings can be read, whatever their order and the failures among them. -/
theorem install_all_or_nothing :
    (∀ (env : Environment) (s : Settings),
      (install s).run env = env.outcome (env.applySettings s)) ∧
    (∀ (env env' : Environment) (s : Settings) (e : Error),
      (install s).run env = .error e env' → env' = env ∧ ¬s.IsReadable) ∧
    (∀ (env env' : Environment) (s : Settings),
      (install s).run env = .ok () env' → s.IsReadable ∧ env.Gains s env') ∧
    (∀ (env : Environment) (ss tt : List Settings), (∀ s, s.IsReadable → (s ∈ ss ↔ s ∈ tt)) →
      (env.attemptAll ss).Agrees (env.attemptAll tt)) := by
  refine ⟨run_install, fun env env' s e h => ?_, fun env env' s h => ?_,
    fun env _ _ => agrees_attemptAll env⟩
  · rw [run_install, outcome_eq_error_iff] at h
    obtain ⟨hfault, rfl⟩ := h
    refine ⟨rfl, fun hreadable => ?_⟩
    obtain ⟨_, hok⟩ := exists_applySettings_eq_ok_iff.mpr hreadable
    cases hfault.symm.trans hok
  · rw [run_install, outcome_eq_ok_iff] at h
    exact ⟨exists_applySettings_eq_ok_iff.mp ⟨env', h⟩, gains_of_applySettings h⟩

/-- Two settings that name one policy in two ways, and settings whose last entry is at fault. -/
theorem install_all_or_nothing_respelt :
    let s : Settings := ⟨["0A:0b"], [], [], [("2.23.140.1.1", ["ff00"])], []⟩
    let t : Settings := ⟨[], [], [], [("2.023.140.01.1", ["FF 00"])], [⟨"AQID", some 5⟩]⟩
    let broken : Settings := ⟨["0c"], [], [], [], [⟨"AQI", none⟩]⟩
    (∃ env', (install broken).run empty = .error (.invalidOption "invalid log key: AQI") env' ∧
      env' = empty) ∧
    (∃ env', (install t).run empty = .ok () env' ∧ empty.Gains t env') ∧
    (empty.attemptAll [s, broken, t]).Agrees (empty.attemptAll [t, broken, s]) := by
  intro s t broken
  obtain ⟨-, hfail, hok, horder⟩ := install_all_or_nothing
  have hbroken : (install broken).run empty =
      .error (.invalidOption "invalid log key: AQI") empty := by rfl
  have ht : (install t).run empty = .ok () { empty with
      evAnchors := [(Oid.ofArcs [2, 23, 140, 1, 1], [255, 0])]
      trustedLogs := [⟨[1, 2, 3], some 5⟩] } := by
    cbv
  refine ⟨⟨_, hbroken, (hfail _ _ _ _ hbroken).1⟩, ⟨_, ht, (hok _ _ _ ht).2⟩,
    horder _ _ _ fun x _ => ?_⟩
  simp only [List.mem_cons, List.not_mem_nil, or_false]
  constructor <;> rintro (h | h | h) <;> simp [h]

end Environment
end ChainTrust
