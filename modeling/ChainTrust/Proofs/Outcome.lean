import ChainTrust.Proofs.Exemptions

namespace ChainTrust

/-- Some policy has an option that is named after no check, of a leaf or of a path. -/
def Request.NamesUnknown (r : Request) : Prop :=
  ∃ policy ∈ r.policies, ∃ option ∈ policy.options, option.1 ∉ Check.all.map CheckName.known

instance (r : Request) : Decidable r.NamesUnknown :=
  inferInstanceAs (Decidable (∃ policy ∈ r.policies, ∃ option ∈ policy.options, _))

namespace Path

variable (r : Request) (p : Path)

/-- A policy asks about blocked leaves, and the leaf of the path is one. -/
def HasBlockedLeaf : Prop :=
  ∃ policy ∈ r.policies, policy.requests .blackListedLeaf = true ∧
    ∃ leaf ∈ p.leaf?, LeafCheck.isBlocked r leaf = true

/-- A certificate that is processed has a weak key. -/
def HasWeakKey : Prop :=
  ∃ ix < Processing.processedCount r p, ∃ c ∈ p.certificate? ix, c.hasWeakKey = true

/-- An authority below the anchor has a blocked key, and nothing restores trust in it. -/
def HasBlockedAuthority : Prop :=
  p.isAllowlisted = false ∧ ∃ ix < p.nonAnchorCount, 1 ≤ ix ∧
    ∃ c ∈ p.certificate? ix, r.environment.isBlockedKey c.keySha1 = true

/-- A distrusted root stands above a certificate that is too new. -/
def HasDistrustedRoot : Prop :=
  (∃ root ∈ p.root?, r.environment.isDistrustedRoot root.sha256 = true) ∧
    ∃ ix < p.length - 1, ∃ c ∈ p.certificate? ix, Processing.distrustStart ≤ c.notBefore

/-- What no exemption can make good. -/
def HasFatalFault : Prop :=
  p.HasBlockedLeaf r ∨ p.HasWeakKey r ∨ p.HasBlockedAuthority r ∨ p.HasDistrustedRoot r

def IsDenied : Prop :=
  ∃ ix < p.length, r.standing p ix = .deny

/-- An administrator or a user added a certificate, and no constraint denies it or leaves it
open. -/
def IsOverridden : Prop :=
  ∃ ix < p.length, (p.storeAt ix = some .admin ∨ p.storeAt ix = some .user) ∧
    r.standing p ix ∈ [Standing.trustRoot, .trustAsRoot, .invalid]

instance : Decidable (p.HasBlockedLeaf r) :=
  inferInstanceAs (Decidable (∃ policy ∈ r.policies, _ ∧ ∃ leaf ∈ p.leaf?, _))

instance : Decidable (p.HasWeakKey r) :=
  inferInstanceAs (Decidable (∃ ix < _, ∃ c ∈ p.certificate? ix, _))

instance : Decidable (p.HasBlockedAuthority r) :=
  inferInstanceAs (Decidable (_ ∧ ∃ ix < _, _ ∧ ∃ c ∈ p.certificate? ix, _))

instance : Decidable (p.HasDistrustedRoot r) :=
  inferInstanceAs (Decidable ((∃ root ∈ p.root?, _) ∧ ∃ ix < _, ∃ c ∈ p.certificate? ix, _))

instance : Decidable (p.HasFatalFault r) :=
  inferInstanceAs (Decidable (_ ∨ _))

instance : Decidable (p.IsDenied r) :=
  inferInstanceAs (Decidable (∃ ix < _, _))

instance : Decidable (p.IsOverridden r) :=
  inferInstanceAs (Decidable (∃ ix < _, _ ∧ _))

end Path

/-- A certificate that fails nothing for which every path is looked at. -/
def Facts.plain (digest : Bytes) : Facts where
  notBefore := 0
  notAfter := 10
  version := 3
  serial := [1]
  subject := []
  issuer := []
  altNames := none
  altNamesCritical := false
  keyUsage := none
  extendedKeyUsage := none
  basicConstraints := some ⟨true, none⟩
  nameConstraints := none
  policies := none
  hasCrlPoints := false
  subjectKeyId := none
  authorityKeyId := none
  unknownCritical := false
  extensions := []
  keyAlgorithm := .rsa
  keySize := 2048
  signatureHash := .sha256
  sha1 := digest
  sha256 := digest
  keySha1 := digest
  spkiSha256 := digest
  sctList := none
  precertificate := none
  encoded := []

namespace Evaluation

variable {r : Request} {p : Path}

theorem raised_otherError_iff : .raised .otherError ∈ effects r p ↔ r.NamesUnknown := by
  rw [raised_mem_effects]
  constructor
  · intro h
    obtain ⟨current, ha⟩ := h
    cases ha with
    | unknownName hp ho => exact ⟨_, hp, _, ho, by simp⟩
    | always h => cases h
  · intro h
    obtain ⟨policy, hp, ⟨name, v⟩, ho, hname⟩ := h
    cases name with
    | known check => exact absurd (List.mem_map_of_mem check.mem_all) hname
    | other s => exact ⟨_, .unknownName hp ho⟩

theorem raised_fatal_iff : .raised .fatal ∈ effects r p ↔ p.HasFatalFault r := by
  rw [raised_mem_effects]
  constructor
  · intro h
    obtain ⟨current, ha⟩ := h
    cases ha with
    | blockedLeafOutcome hp hl ho h => exact .inl ⟨_, hp, ho, _, hl, h⟩
    | always h =>
      cases h with
      | weak hn hc h => exact .inr (.inl ⟨_, hn, _, hc, h⟩)
      | blockedOutcome h1 he hc h ha => exact .inr (.inr (.inl ⟨ha, _, he, h1, _, hc, h⟩))
      | distrustedOutcome hr hd hl hc h =>
        exact .inr (.inr (.inr ⟨⟨_, hr, hd⟩, _, Nat.lt_sub_of_add_lt hl, _, hc, h⟩))
  · rintro (⟨policy, hp, ho, leaf, hl, h⟩ | ⟨ix, hn, c, hc, h⟩ | ⟨ha, ix, he, h1, c, hc, h⟩ |
      ⟨⟨root, hr, hd⟩, ix, hl, c, hc, h⟩)
    · exact ⟨_, .blockedLeafOutcome hp hl ho h⟩
    · exact ⟨_, .always (.weak hn hc h)⟩
    · exact ⟨_, .always (.blockedOutcome h1 he hc h ha)⟩
    · exact ⟨_, .always (.distrustedOutcome hr hd (Nat.add_lt_of_lt_sub hl) hc h)⟩

theorem raised_deny_iff : .raised .deny ∈ effects r p ↔ p.IsDenied r := by
  rw [raised_mem_effects]
  constructor
  · intro h
    obtain ⟨current, ha⟩ := h
    cases ha with
    | always h =>
      cases h with
      | deniedOutcome hl h => exact ⟨_, hl, h⟩
  · intro h
    obtain ⟨ix, hl, h⟩ := h
    exact ⟨_, .always (.deniedOutcome hl h)⟩

theorem raised_proceed_iff : .raised .proceed ∈ effects r p ↔ p.IsOverridden r := by
  rw [raised_mem_effects]
  constructor
  · intro h
    obtain ⟨current, ha⟩ := h
    cases ha with
    | always h =>
      cases h with
      | @overridden ix hl hd hu hs =>
        refine ⟨ix, hl, hs, ?_⟩
        cases hstanding : r.standing p ix with
        | deny => exact absurd hstanding hd
        | unspecified => exact absurd hstanding hu
        | invalid | trustRoot | trustAsRoot => decide
  · intro h
    obtain ⟨ix, hl, hs, h⟩ := h
    refine ⟨_, .always (.overridden hl ?_ ?_ hs)⟩
    · intro hd
      rw [hd] at h
      revert h
      decide
    · intro hu
      rw [hu] at h
      revert h
      decide

/-- The outcome of a path is the most severe one for which there is a reason. -/
theorem pathChecks_severity (r : Request) (p : Path) (hp : p.certificates ≠ []) :
    (initial.pathChecks r p).1 =
      if r.NamesUnknown then .otherError
      else if p.HasFatalFault r then .fatal
      else if p.IsDenied r then .deny
      else if (initial.pathChecks r p).2.1.hasFailures then .recoverable
      else if (initial.pathChecks r.withoutExemptions p).2.1.hasFailures ∨ p.IsOverridden r then
        .proceed
      else .unspecified := by
  have he := isFresh_initial p
  have hunknown : .otherError ∈ (effects r p).map Effect.verdict ↔ r.NamesUnknown :=
    (Effect.mem_map_verdict_iff_raised (by decide)).trans raised_otherError_iff
  have hfatal : .fatal ∈ (effects r p).map Effect.verdict ↔ p.HasFatalFault r :=
    (Effect.mem_map_verdict_iff_raised (by decide)).trans raised_fatal_iff
  have hdeny : .deny ∈ (effects r p).map Effect.verdict ↔ p.IsDenied r :=
    (Effect.mem_map_verdict_iff_raised (by decide)).trans raised_deny_iff
  have hfailures : .recoverable ∈ (effects r p).map Effect.verdict ↔
      (initial.pathChecks r p).2.1.hasFailures = true :=
    (Effect.recoverable_mem_map_verdict_iff not_raised_recoverable).trans
      (he.hasFailures_iff hp).symm
  rw [he.pathChecks_verdict hp, Verdict.worst_eq_ite]
  refine if_congr hunknown rfl (if_congr hfatal rfl (if_congr hdeny rfl ?_))
  refine ite_congr (propext hfailures) (fun _ => rfl) fun hnone => ?_
  -- no failure is left, so an exemption accepts each there would be without it
  have haccepted : .accepted ∈ effects r p ↔
      (initial.pathChecks r.withoutExemptions p).2.1.hasFailures = true := by
    rw [he.hasFailures_iff hp]
    refine accepted_mem_effects_iff r p fun check ix hnoted => hnone ?_
    exact (he.hasFailures_iff hp).mpr ⟨check, ix, hnoted⟩
  have hproceed := Effect.proceed_mem_map_verdict_iff.trans (or_congr haccepted raised_proceed_iff)
  exact if_congr hproceed rfl rfl

/-- A leaf without a subject, its issuer and an anchor above them. -/
def namelessPath : Path :=
  { Path.ofCertificates [.plain [1], .plain [2], .plain [3]] with isAnchored := true }

/-- Asks for a subject, and accepts that the leaf has none and that the key of its issuer is
blocked. -/
def namedRequest : Request where
  environment := .empty
  policies := [⟨"", "", [(.known .nonEmptySubject, .bool true)]⟩]
  time := 5
  exemptions := [⟨some [1], [(.known .nonEmptySubject, false)]⟩,
    ⟨some [2], [(.known .blackListedKey, false)]⟩]

/-- Without a subject the path can go on if that is accepted, but not below an issuer that is denied
or one whose key is blocked. -/
theorem pathChecks_severity_nameless :
    (initial.pathChecks namedRequest.withoutExemptions namelessPath).1 = .recoverable ∧
      (initial.pathChecks namedRequest namelessPath).1 = .proceed ∧
      (initial.pathChecks namedRequest { namelessPath with
        constraints := [[], [{ Constraint.empty with standing := some .deny }], []] }).1 = .deny ∧
      (initial.pathChecks { namedRequest with
        environment := { Environment.empty with blockedKeys := [[2]] } } namelessPath).1 =
          .fatal := by
  refine ⟨?_, ?_, ?_, ?_⟩
  all_goals exact (pathChecks_severity _ _ (List.cons_ne_nil _ _)).trans (by decide +kernel)

end Evaluation
end ChainTrust
