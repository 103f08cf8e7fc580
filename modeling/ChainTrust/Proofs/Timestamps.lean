import ChainTrust.Proofs.Framing
import ChainTrust.Proofs.Outcome
import Mathlib.Data.List.Perm.Subperm
import Mathlib.Data.Option.Basic

namespace ChainTrust

namespace Word

theorem toNat_greatest : greatest.toNat + 1 = UInt64.size :=
  rfl

/-- A word is never above the bound, so the product may be taken without it. -/
theorem le_times_iff {a b c : UInt64} : a ≤ times b c ↔ a.toNat ≤ b.toNat * c.toNat := by
  have ha : a.toNat < UInt64.size := a.toNat_lt_size
  unfold times
  split
  · rename_i h
    have hproduct : (b * c).toNat = b.toNat * c.toNat := by
      rw [UInt64.toNat_mul]
      exact Nat.mod_eq_of_lt h
    rw [UInt64.le_iff_toNat_le, hproduct]
  · rename_i h
    have hgreatest := toNat_greatest
    rw [UInt64.le_iff_toNat_le]
    constructor
    · intro _
      omega
    · intro _
      omega

theorem lt_of_lt_times {a b c : UInt64} (h : a < times b c) : a.toNat < b.toNat * c.toNat := by
  have hle : a.toNat ≤ b.toNat * c.toNat := le_times_iff.mp (UInt64.le_of_lt h)
  apply Nat.lt_of_le_of_ne hle
  intro heq
  unfold times at h
  split at h
  · rename_i hfits
    rw [UInt64.lt_iff_toNat_lt, UInt64.toNat_mul, heq] at h
    exact absurd (Nat.mod_le _ _) (Nat.not_le.mpr h)
  · rename_i hfits
    have ha : a.toNat < UInt64.size := a.toNat_lt_size
    omega

end Word

/-- A timestamp, what it attests to, and the log that signed it. -/
structure Endorsement where
  encoded : Bytes
  entry : LogEntry
  sct : Sct
  log : TrustedLog

namespace Endorsement

/-- The timestamp is not from the future, and verifies under the key of a trusted log, the first one
that has the digest of its key for an identifier. -/
structure IsValid (n : Endorsement) (env : Environment) (time : UInt64) : Prop where
  reads : Sct.ofBytes n.encoded = .ok n.sct
  version : n.sct.version = 0
  isPast : n.sct.timestamp.toNat ≤ time.toNat * 1000
  isTrusted : env.trustedLogs.find? (fun log => sha256 log.key == n.sct.logId) = some n.log
  verifies : ∃ algorithm key message, n.sct.algorithm = .ok algorithm ∧
    X509.PublicKey.ofDer n.log.key = .ok key ∧ n.sct.signedData n.entry = .ok message ∧
      env.verify algorithm key message n.sct.signature = .ok ()

/-- The log has not expired at a time. -/
def IsCurrent (n : Endorsement) (time : UInt64) : Prop :=
  ∀ expiry ∈ n.log.expiry, time < expiry

/-- The log had not expired when it signed. -/
def IsTimely (n : Endorsement) : Prop :=
  ∀ expiry ∈ n.log.expiry, n.sct.timestamp.toNat < expiry.toNat * 1000

/-- What is kept of a timestamp once it is verified. -/
def verified (n : Endorsement) : VerifiedSct :=
  ⟨n.sct.logId, n.log.expiry, n.sct.timestamp⟩

theorem isCurrent_verified {n : Endorsement} {time : UInt64} :
    n.verified.isCurrent time = true ↔ n.IsCurrent time := by
  simp [verified, VerifiedSct.isCurrent, IsCurrent, Option.all_eq_true]

theorem isTimely_of_wasQualified {n : Endorsement} (h : n.verified.wasQualified = true) :
    n.IsTimely := by
  intro expiry hexpiry
  have hall : n.log.expiry.all (fun expiry => n.sct.timestamp < Word.times expiry 1000) = true := h
  rw [hexpiry] at hall
  exact Word.lt_of_lt_times (of_decide_eq_true hall)

end Endorsement

namespace Path

/-- The timestamp is embedded in the leaf. It attests to the leaf as it was without the timestamps,
and to the key of the issuer. -/
def Embeds (p : Path) (n : Endorsement) : Prop :=
  ∃ leaf ∈ p.leaf?, ∃ issuer ∈ p.certificate? 1, ∃ list ∈ leaf.sctList,
    ∃ body ∈ leaf.precertificate, n.entry = .precertificate issuer.spkiSha256 body ∧
      ∃ items, Sct.itemsOf list = .ok items ∧ n.encoded ∈ items

/-- The timestamp came with the path, by itself or in a response. It attests to the leaf as it is
now. -/
def Receives (p : Path) (n : Endorsement) : Prop :=
  ∃ leaf ∈ p.leaf?, n.entry = .certificate leaf.encoded ∧
    (n.encoded ∈ p.builderScts ∨
      ∃ der ∈ p.ocspResponses, ∃ items, Ocsp.scts der = .ok items ∧ n.encoded ∈ items)

/-- A valid timestamp for the leaf of the path, from wherever it was taken. -/
def HasEndorsement (p : Path) (env : Environment) (time : UInt64) (n : Endorsement) : Prop :=
  (p.Embeds n ∨ p.Receives n) ∧ n.IsValid env time

end Path

theorem toOption_eq_some_iff {α : Type} {result : Result α} {a : α} :
    result.toOption = some a ↔ result = .ok a := by
  cases result <;> simp [Except.toOption]

namespace Sct

theorem ofBytes_eq_ok_iff {bytes : Bytes} {sct : Sct} :
    ofBytes bytes = .ok sct ↔ ofBytes? bytes = some sct := by
  unfold ofBytes
  cases ofBytes? bytes <;> simp

/-- Exactly the valid timestamps of an entry are verified. -/
theorem verify?_eq_some_iff {env : Environment} {encoded : Bytes} {entry : LogEntry}
    {time : UInt64} {s : VerifiedSct} :
    verify? env encoded entry time = some s ↔
      ∃ n : Endorsement, n.encoded = encoded ∧ n.entry = entry ∧ n.IsValid env time ∧
        n.verified = s := by
  constructor
  · intro h
    obtain ⟨sct, hreads, h⟩ := Option.bind_eq_some_iff.mp h
    obtain ⟨passed, hguard, h⟩ := Option.bind_eq_some_iff.mp h
    obtain ⟨log, hlog, h⟩ := Option.bind_eq_some_iff.mp h
    obtain ⟨algorithm, ha, h⟩ := Option.bind_eq_some_iff.mp h
    obtain ⟨key, hk, h⟩ := Option.bind_eq_some_iff.mp h
    obtain ⟨message, hm, h⟩ := Option.bind_eq_some_iff.mp h
    obtain ⟨verified, hv, h⟩ := Option.bind_eq_some_iff.mp h
    obtain ⟨hversion, hpast⟩ := Bool.and_eq_true_iff.mp ((Option.guard_eq_some' _).mp hguard)
    refine ⟨⟨encoded, entry, sct, log⟩, rfl, rfl, ?_, Option.some.inj h⟩
    exact {
      reads := ofBytes_eq_ok_iff.mpr hreads
      version := of_decide_eq_true hversion
      isPast := Word.le_times_iff.mp (of_decide_eq_true hpast)
      isTrusted := hlog
      verifies := ⟨algorithm, key, message, toOption_eq_some_iff.mp ha, toOption_eq_some_iff.mp hk,
        toOption_eq_some_iff.mp hm, toOption_eq_some_iff.mp hv⟩ }
  · intro h
    obtain ⟨n, rfl, rfl, hn, rfl⟩ := h
    obtain ⟨algorithm, key, message, ha, hk, hm, hv⟩ := hn.verifies
    have hpast : n.sct.timestamp ≤ Word.times time 1000 := Word.le_times_iff.mpr hn.isPast
    have hguard : (n.sct.version = 0 && n.sct.timestamp ≤ Word.times time 1000) = true :=
      Bool.and_eq_true_iff.mpr ⟨decide_eq_true hn.version, decide_eq_true hpast⟩
    refine Option.bind_eq_some_iff.mpr ⟨n.sct, ofBytes_eq_ok_iff.mp hn.reads, ?_⟩
    refine Option.bind_eq_some_iff.mpr ⟨(), (Option.guard_eq_some' _).mpr hguard, ?_⟩
    refine Option.bind_eq_some_iff.mpr ⟨n.log, hn.isTrusted, ?_⟩
    refine Option.bind_eq_some_iff.mpr ⟨algorithm, toOption_eq_some_iff.mpr ha, ?_⟩
    refine Option.bind_eq_some_iff.mpr ⟨key, toOption_eq_some_iff.mpr hk, ?_⟩
    refine Option.bind_eq_some_iff.mpr ⟨message, toOption_eq_some_iff.mpr hm, ?_⟩
    exact Option.bind_eq_some_iff.mpr ⟨(), toOption_eq_some_iff.mpr hv, rfl⟩

end Sct

namespace Path

variable {p : Path} {env : Environment} {time : UInt64} {s : VerifiedSct}

theorem embeddedScts_eq {leaf issuer : Facts} {list body : Bytes} {items : List Bytes}
    (hl : p.leaf? = some leaf) (hi : p.certificate? 1 = some issuer) (hs : leaf.sctList = some list)
    (hb : leaf.precertificate = some body) (hitems : Sct.itemsOf list = .ok items)
    (env : Environment) (time : UInt64) :
    p.embeddedScts env time =
      items.filterMap fun s => Sct.verify? env s (.precertificate issuer.spkiSha256 body) time := by
  simp only [embeddedScts, hl, hi, Option.bind_some, hs, hb, hitems]
  rfl

/-- What is verified inside the leaf are the valid endorsements that it embeds. -/
theorem mem_embeddedScts :
    s ∈ p.embeddedScts env time ↔
      ∃ n, (p.Embeds n ∧ n.IsValid env time) ∧ n.verified = s := by
  constructor
  · intro h
    unfold embeddedScts at h
    split at h
    · rename_i list issuer body hlist hi hbody
      obtain ⟨leaf, hl, hs⟩ := Option.bind_eq_some_iff.mp hlist
      obtain ⟨leaf', hl', hb⟩ := Option.bind_eq_some_iff.mp hbody
      cases hl.symm.trans hl'
      obtain ⟨encoded, hmem, hverified⟩ := List.mem_filterMap.mp h
      obtain ⟨n, rfl, hentry, hn, rfl⟩ := Sct.verify?_eq_some_iff.mp hverified
      cases hitems : Sct.itemsOf list with
      | error e =>
        rw [hitems] at hmem
        exact (List.not_mem_nil hmem).elim
      | ok items =>
        rw [hitems] at hmem
        refine ⟨n, ⟨?_, hn⟩, rfl⟩
        exact ⟨leaf, hl, issuer, hi, list, hs, body, hb, hentry, items, hitems, hmem⟩
    · exact (List.not_mem_nil h).elim
  · intro h
    obtain ⟨n, ⟨hembeds, hn⟩, rfl⟩ := h
    obtain ⟨leaf, hl, issuer, hi, list, hs, body, hb, hentry, items, hitems, hmem⟩ := hembeds
    rw [embeddedScts_eq hl hi hs hb hitems, List.mem_filterMap]
    exact ⟨n.encoded, hmem, Sct.verify?_eq_some_iff.mpr ⟨n, rfl, hentry, hn, rfl⟩⟩

theorem mem_externalItems {encoded : Bytes} :
    encoded ∈ p.externalItems ↔ encoded ∈ p.builderScts ∨
      ∃ der ∈ p.ocspResponses, ∃ items, Ocsp.scts der = .ok items ∧ encoded ∈ items := by
  rw [externalItems, List.mem_append, List.mem_flatMap]
  refine or_congr_right (exists_congr fun der => and_congr_right fun _ => ?_)
  cases Ocsp.scts der with
  | error e => simp [Except.toOption]
  | ok items => simp [Except.toOption]

/-- What is verified of the timestamps that came with a path are the valid endorsements among
them. -/
theorem mem_externalScts {leaf : Facts} (hl : p.leaf? = some leaf) :
    s ∈ p.externalScts env leaf time ↔
      ∃ n, (p.Receives n ∧ n.IsValid env time) ∧ n.verified = s := by
  simp only [externalScts, List.mem_filterMap, mem_externalItems, Sct.verify?_eq_some_iff]
  constructor
  · intro h
    obtain ⟨encoded, hmem, n, rfl, hentry, hn, rfl⟩ := h
    exact ⟨n, ⟨⟨leaf, hl, hentry, hmem⟩, hn⟩, rfl⟩
  · intro h
    obtain ⟨n, ⟨⟨leaf', hl', hentry, hmem⟩, hn⟩, rfl⟩ := h
    cases hl.symm.trans hl'
    exact ⟨n.encoded, hmem, n, rfl, hentry, hn, rfl⟩

end Path

section Count

theorem nodup_eraseDups (ids : List Bytes) : ids.eraseDups.Nodup := by
  match ids with
  | [] => exact List.nodup_nil
  | id :: ids =>
    have hlength : (ids.filter fun other => !other == id).length ≤ ids.length :=
      List.length_filter_le _ _
    have ih := nodup_eraseDups (ids.filter fun other => !other == id)
    rw [List.eraseDups_cons, List.nodup_cons]
    refine ⟨?_, ih⟩
    intro hmem
    simpa using (List.mem_filter.mp (List.mem_eraseDups.mp hmem)).2
termination_by ids.length
decreasing_by
  exact Nat.lt_succ_of_le hlength

variable {scts : List VerifiedSct} {n : Nat}

/-- There are at least as many logs as there are identifiers to be named. -/
theorem le_distinctLogs_iff :
    n ≤ distinctLogs scts ↔
      ∃ ids : List Bytes, ids.Nodup ∧ ids.length = n ∧ ∀ id ∈ ids, ∃ s ∈ scts, s.logId = id := by
  unfold distinctLogs
  constructor
  · intro h
    refine ⟨(scts.map (·.logId)).eraseDups.take n, ?_, ?_, ?_⟩
    · exact (List.take_sublist _ _).nodup (nodup_eraseDups _)
    · exact List.length_take_of_le h
    · intro id hid
      exact List.mem_map.mp (List.mem_eraseDups.mp (List.mem_of_mem_take hid))
  · intro h
    obtain ⟨ids, hnodup, rfl, hids⟩ := h
    apply hnodup.length_le_of_subset
    intro id hid
    exact List.mem_eraseDups.mpr (List.mem_map.mpr (hids id hid))

theorem two_le_distinctLogs_iff :
    2 ≤ distinctLogs scts ↔ ∃ s ∈ scts, ∃ t ∈ scts, s.logId ≠ t.logId := by
  rw [le_distinctLogs_iff]
  constructor
  · intro h
    obtain ⟨ids, hnodup, hlength, hids⟩ := h
    obtain ⟨a, b, rfl⟩ := List.length_eq_two.mp hlength
    obtain ⟨s, hs, rfl⟩ := hids a (by simp)
    obtain ⟨t, ht, rfl⟩ := hids b (by simp)
    refine ⟨s, hs, t, ht, ?_⟩
    simpa using hnodup
  · intro h
    obtain ⟨s, hs, t, ht, hne⟩ := h
    refine ⟨[s.logId, t.logId], by simpa using hne, rfl, ?_⟩
    intro id hid
    rcases List.mem_pair.mp hid with rfl | rfl
    · exact ⟨s, hs, rfl⟩
    · exact ⟨t, ht, rfl⟩

end Count

/-- Either two logs are current, or one is that has a timestamp embedded, and enough logs were. -/
theorem suffice_iff {embedded external : List VerifiedSct} {required : Nat} {time : UInt64} :
    suffice embedded external required time = true ↔
      (∃ s ∈ embedded ++ external, s.isCurrent time = true ∧
        ∃ t ∈ embedded ++ external, t.isCurrent time = true ∧ s.logId ≠ t.logId) ∨
      (∃ s ∈ embedded, s.isCurrent time = true) ∧
        required ≤ distinctLogs (embedded.filter (·.wasQualified)) := by
  simp only [suffice, Bool.or_eq_true, Bool.and_eq_true, decide_eq_true_eq, List.any_eq_true,
    two_le_distinctLogs_iff, List.mem_filter, and_assoc]

theorem Sct.two_le_requiredLogs (months : UInt64) : 2 ≤ requiredLogs months := by
  unfold requiredLogs
  split_ifs <;> decide

namespace Path

variable {p : Path} {env : Environment} {time : UInt64}

theorem isCtQualified_iff :
    p.isCtQualified env time = true ↔ ∃ leaf ∈ p.leaf?, env.trustedLogs ≠ [] ∧
      suffice (p.embeddedScts env time) (p.externalScts env leaf time)
        (Sct.requiredLogs leaf.lifetimeMonths) time = true := by
  unfold isCtQualified
  cases p.leaf? with
  | none => simp
  | some leaf => simp

/-- All that is verified for a path are the valid endorsements that it has. -/
theorem mem_scts {leaf : Facts} {s : VerifiedSct} (hl : p.leaf? = some leaf) :
    s ∈ p.embeddedScts env time ++ p.externalScts env leaf time ↔
      ∃ n, p.HasEndorsement env time n ∧ n.verified = s := by
  simp only [List.mem_append, mem_embeddedScts, mem_externalScts hl, HasEndorsement, or_and_right,
    exists_or]

/-- Two logs stand behind a path that qualifies, whichever way it does. -/
theorem exists_two_logs (h : p.isCtQualified env time = true) :
    ∃ m n, p.HasEndorsement env time m ∧ p.HasEndorsement env time n ∧
      m.sct.logId ≠ n.sct.logId := by
  obtain ⟨leaf, hl, -, hsuffice⟩ := isCtQualified_iff.mp h
  have hpair : ∃ s ∈ p.embeddedScts env time ++ p.externalScts env leaf time,
      ∃ t ∈ p.embeddedScts env time ++ p.externalScts env leaf time, s.logId ≠ t.logId := by
    -- either the two that are current, or two of those that the lifetime demands
    rcases suffice_iff.mp hsuffice with ⟨s, hs, -, t, ht, -, hne⟩ | ⟨-, hrequired⟩
    · exact ⟨s, hs, t, ht, hne⟩
    · have htwo := Nat.le_trans (Sct.two_le_requiredLogs leaf.lifetimeMonths) hrequired
      obtain ⟨s, hs, t, ht, hne⟩ := two_le_distinctLogs_iff.mp htwo
      exact ⟨s, List.mem_append_left _ (List.mem_filter.mp hs).1,
        t, List.mem_append_left _ (List.mem_filter.mp ht).1, hne⟩
  obtain ⟨s, hs, t, ht, hne⟩ := hpair
  obtain ⟨m, hm, rfl⟩ := (mem_scts hl).mp hs
  obtain ⟨n, hn, rfl⟩ := (mem_scts hl).mp ht
  exact ⟨m, n, hm, hn, hne⟩

/-- The logs of which one is current are two that both are, or enough that have signed what the leaf
embeds. -/
theorem isCtQualified_cases (h : p.isCtQualified env time = true) :
    (∃ n, p.HasEndorsement env time n ∧ n.IsCurrent time) ∧
    ((∃ m n, p.HasEndorsement env time m ∧ p.HasEndorsement env time n ∧
        m.IsCurrent time ∧ n.IsCurrent time ∧ m.sct.logId ≠ n.sct.logId) ∨
      ∃ leaf ∈ p.leaf?, ∃ ids : List Bytes, ids.Nodup ∧
        ids.length = Sct.requiredLogs leaf.lifetimeMonths ∧
          ∀ id ∈ ids, ∃ n, p.Embeds n ∧ n.IsValid env time ∧ n.sct.logId = id ∧ n.IsTimely) := by
  obtain ⟨leaf, hl, -, hsuffice⟩ := isCtQualified_iff.mp h
  rcases suffice_iff.mp hsuffice with ⟨s, hs, hsc, t, ht, htc, hne⟩ | ⟨⟨s, hs, hsc⟩, hrequired⟩
  · obtain ⟨m, hm, rfl⟩ := (mem_scts hl).mp hs
    obtain ⟨n, hn, rfl⟩ := (mem_scts hl).mp ht
    have hmc := Endorsement.isCurrent_verified.mp hsc
    have hnc := Endorsement.isCurrent_verified.mp htc
    exact ⟨⟨m, hm, hmc⟩, .inl ⟨m, n, hm, hn, hmc, hnc, hne⟩⟩
  · obtain ⟨m, hm, rfl⟩ := (mem_scts hl).mp (List.mem_append_left _ hs)
    obtain ⟨ids, hnodup, hlength, hids⟩ := le_distinctLogs_iff.mp hrequired
    have hmc := Endorsement.isCurrent_verified.mp hsc
    refine ⟨⟨m, hm, hmc⟩, .inr ⟨leaf, hl, ids, hnodup, hlength, ?_⟩⟩
    intro id hid
    obtain ⟨t, ht, rfl⟩ := hids id hid
    obtain ⟨hmem, htimely⟩ := List.mem_filter.mp ht
    obtain ⟨n, ⟨hembeds, hvalid⟩, rfl⟩ := mem_embeddedScts.mp hmem
    exact ⟨n, hembeds, hvalid, rfl, Endorsement.isTimely_of_wasQualified htimely⟩

/-- A path qualifies only if two logs have signed valid timestamps for its leaf, and one that has is
current. Unless two of them are, the leaf has timestamps embedded from as many logs as its lifetime
demands, none of which had expired then. The timestamps of a single log never suffice. -/
theorem exists_endorsements_of_isCtQualified (p : Path) (env : Environment) (time : UInt64) :
    (p.isCtQualified env time = true →
      (∃ m n, p.HasEndorsement env time m ∧ p.HasEndorsement env time n ∧
        m.sct.logId ≠ n.sct.logId) ∧
      (∃ n, p.HasEndorsement env time n ∧ n.IsCurrent time) ∧
      ((∀ m n, p.HasEndorsement env time m → p.HasEndorsement env time n →
          m.IsCurrent time → n.IsCurrent time → m.sct.logId = n.sct.logId) →
        ∃ leaf ∈ p.leaf?, ∃ ids : List Bytes, ids.Nodup ∧
          ids.length = Sct.requiredLogs leaf.lifetimeMonths ∧
            ∀ id ∈ ids, ∃ n, p.Embeds n ∧ n.IsValid env time ∧ n.sct.logId = id ∧ n.IsTimely)) ∧
    (∀ id, (∀ n, p.HasEndorsement env time n → n.sct.logId = id) →
      p.isCtQualified env time = false) := by
  constructor
  · intro h
    obtain ⟨hcurrent, hcases⟩ := isCtQualified_cases h
    refine ⟨exists_two_logs h, hcurrent, fun hsame => hcases.resolve_left ?_⟩
    intro htwo
    obtain ⟨m, n, hm, hn, hmc, hnc, hne⟩ := htwo
    exact hne (hsame m n hm hn hmc hnc)
  · intro id hid
    by_contra h
    obtain ⟨m, n, hm, hn, hne⟩ := exists_two_logs (Bool.not_eq_false _ ▸ h)
    exact hne ((hid m hm).trans (hid n hn).symm)

end Path

/-- A log whose key is told from other keys by its last byte. -/
def TrustedLog.plain (last : UInt8) (expiry : Option UInt64) : TrustedLog :=
  ⟨X509.PublicKey.encode ⟨⟨.ecPublicKey, none⟩, ⟨0, [last]⟩⟩, expiry⟩

/-- A timestamp of a log, with nothing for a signature. -/
def TrustedLog.stamp (log : TrustedLog) (timestamp : Nat) : Bytes :=
  0 :: (log.id ++ Bytes.fixed 8 timestamp ++ [0, 0, 4, 3, 0, 0])

/-- One of the two logs that signed what the leaf embeds has expired since. -/
theorem exists_endorsements_expired :
    let expired := TrustedLog.plain 1 (some 5)
    let current := TrustedLog.plain 2 none
    let env := { Environment.empty with
      verifiers := [fun _ _ _ _ => .ok ()], trustedLogs := [expired, current] }
    let leaf := { Facts.plain [1] with
      sctList := Sct.listOf? [expired.stamp 4000, current.stamp 8000], precertificate := some [] }
    let p := Path.ofCertificates [leaf, .plain [2]]
    p.isCtQualified env 9 = true ∧
      ∃ ids : List Bytes, ids.Nodup ∧ ids.length = 2 ∧
        ∀ id ∈ ids, ∃ n, p.Embeds n ∧ n.IsValid env 9 ∧ n.sct.logId = id ∧ n.IsTimely := by
  intro expired current env leaf p
  have h : p.isCtQualified env 9 = true := by decide +kernel
  have hscts : ∀ s ∈ p.embeddedScts env 9 ++ p.externalScts env leaf 9,
      s.isCurrent 9 = true → s.logId = current.id := by decide +kernel
  have hlog : ∀ n, p.HasEndorsement env 9 n → n.IsCurrent 9 → n.sct.logId = current.id := by
    intro n hn hcurrent
    exact hscts n.verified ((Path.mem_scts rfl).mpr ⟨n, hn, rfl⟩)
      (Endorsement.isCurrent_verified.mpr hcurrent)
  obtain ⟨-, -, hembedded⟩ := (Path.exists_endorsements_of_isCtQualified p env 9).1 h
  obtain ⟨c, hc, ids, hnodup, hlength, hids⟩ :=
    hembedded fun m n hm hn hmc hnc => (hlog m hm hmc).trans (hlog n hn hnc).symm
  cases hc
  have htwo : Sct.requiredLogs leaf.lifetimeMonths = 2 := by decide +kernel
  exact ⟨h, ids, hnodup, hlength.trans htwo, hids⟩

end ChainTrust
