import ChainTrust.Proofs.Coverage
import ChainTrust.Proofs.Scopes

namespace ChainTrust

/-- The names of a certificate that constraints apply to: its subject if it has one, the mailboxes
in it, and the alternative names of an enforced form. -/
inductive Facts.Bears (hostOf : String → Option String) (c : Facts) : ConstrainedName → Prop where
  | subject (h : c.subject ≠ []) : Bears hostOf c (.directory c.subject)
  | subjectEmail {address : String} (h : address ∈ c.subject.values .emailAddress) :
      Bears hostOf c (.email address)
  | directory {name : Name} (h : .directory name ∈ c.altNames.getD []) :
      Bears hostOf c (.directory name)
  | email {address : String} (h : .email address ∈ c.altNames.getD []) :
      Bears hostOf c (.email address)
  | dns {host : String} (h : .dns host ∈ c.altNames.getD []) : Bears hostOf c (.dns host)
  | uri {text host : String} (h : .uri text ∈ c.altNames.getD []) (hh : hostOf text = some host) :
      Bears hostOf c (.uriHost host)
  | ip {address : Bytes} (h : .ip address ∈ c.altNames.getD []) : Bears hostOf c (.ip address)

/-- The subtrees that an authority permits, if it says. -/
def Facts.permittedSubtrees? (c : Facts) : Option (List Subtree) :=
  c.nameConstraints.bind (·.permitted)

/-- What the authorities above a place permit, intersected from the top down. -/
def Processing.permittedAbove (p : Path) (n ix : Nat) : SubtreeSet :=
  ((above p n ix).filterMap Facts.permittedSubtrees?).foldl SubtreeSet.intersect .initial

variable {hostOf : String → Option String} {c : Facts} {name : ConstrainedName}

theorem ConstrainedName.mem_ofSubject {subject : Name} :
    name ∈ ofSubject subject ↔ (subject ≠ [] ∧ name = .directory subject) ∨
      ∃ address ∈ subject.values .emailAddress, name = .email address := by
  unfold ofSubject
  cases subject with
  | nil => simp [Name.values, Name.attributes]
  | cons rdn rest => simp [eq_comm]

theorem Facts.bears_iff :
    c.Bears hostOf name ↔ name ∈ ConstrainedName.ofSubject c.subject ∨
      name ∈ ConstrainedName.ofAltNames c.altNames hostOf := by
  rw [ConstrainedName.mem_ofSubject, ConstrainedName.ofAltNames, List.mem_filterMap]
  constructor
  · intro h
    cases h with
    | subject h => exact .inl (.inl ⟨h, rfl⟩)
    | subjectEmail h => exact .inl (.inr ⟨_, h, rfl⟩)
    | directory h | email h | dns h | ip h => exact .inr ⟨_, h, rfl⟩
    | uri h hh => exact .inr ⟨_, h, by rw [ConstrainedName.ofAltName, hh]; rfl⟩
  · intro h
    rcases h with (⟨h, rfl⟩ | ⟨address, h, rfl⟩) | ⟨general, h, hname⟩
    · exact .subject h
    · exact .subjectEmail h
    · cases general with
      | directory =>
        cases hname
        exact .directory h
      | email =>
        cases hname
        exact .email h
      | dns =>
        cases hname
        exact .dns h
      | ip =>
        cases hname
        exact .ip h
      | uri text =>
        obtain ⟨host, hh, rfl⟩ := Option.map_eq_some_iff.mp hname
        exact .uri h hh
      | _ => cases hname

/-- A name is within subtrees of its own form only. -/
theorem ConstrainedName.form?_of_isWithin {s : Subtree} (h : name.isWithin s = true) :
    s.base.form? = some name.form := by
  unfold isWithin at h
  cases name <;> cases hbase : s.base <;> simp_all [GeneralName.form?, form]

namespace Processing

variable {r : Request} {p : Path} {ix : Nat} {scope : Scope}

theorem forbids_iff :
    scope.forbids hostOf c = true ↔
      (∃ name, c.Bears hostOf name ∧ (scope.excluded.bucket name.form).excludes name = true) ∨
        ∃ name, c.Bears hostOf name ∧ (scope.permitted.bucket name.form).permits name = false := by
  simp only [Scope.forbids, SubtreeSet.excludes, SubtreeSet.permits, Facts.bears_iff,
    Bool.or_eq_true, Bool.not_eq_true', Bool.and_eq_false_iff, List.any_eq_true, List.all_eq_false,
    or_and_right, exists_or, Bool.not_eq_true]

/-- A name is excluded at a place if it is within what some authority above excludes. -/
theorem excludes_scopeAt_iff :
    ((scopeAt r p ix).excluded.bucket name.form).excludes name = true ↔
      ∃ j a s, ix < j ∧ j < processedCount r p ∧ p.certificate? j = some a ∧
        s ∈ a.excludedSubtrees ∧ name.isWithin s = true := by
  rw [Bucket.excludes, List.any_eq_true]
  constructor
  · intro h
    obtain ⟨s, hs, hwithin⟩ := h
    obtain ⟨j, a, hj, hn, ha, hs, -⟩ := mem_excluded_scopeAt.mp hs
    exact ⟨j, a, s, hj, hn, ha, hs, hwithin⟩
  · intro h
    obtain ⟨j, a, s, hj, hn, ha, hs, hwithin⟩ := h
    have hform := ConstrainedName.form?_of_isWithin hwithin
    exact ⟨s, mem_excluded_scopeAt.mpr ⟨j, a, hj, hn, ha, hs, hform⟩, hwithin⟩

theorem permitted_belowAll {above : List Facts} :
    (scope.belowAll above).permitted =
      (above.filterMap Facts.permittedSubtrees?).foldl SubtreeSet.intersect scope.permitted := by
  induction above generalizing scope with
  | nil => rfl
  | cons c above ih =>
    change ((scope.below c).belowAll above).permitted = _
    rw [ih, List.filterMap_cons, Scope.below, ← Facts.permittedSubtrees?]
    cases c.permittedSubtrees? <;> rfl

theorem permitted_scopeAt :
    (scopeAt r p ix).permitted = permittedAbove p (processedCount r p) ix :=
  permitted_belowAll

end Processing

namespace Evaluation

/-- A certificate fails for its names if one of them is within a subtree that some authority above
excludes, or is not permitted by all of them together. Above the leaf, a self-issued one is let
off. -/
theorem pathChecks_nameConstraints (r : Request) (p : Path) (hp : p.certificates ≠ [])
    (hx : r.exemptions = []) (ix : Nat) :
    let n := if p.EndsTrusted r then p.length - 1 else p.length
    (initial.pathChecks r p).2.1.hasFailed .nameConstraints ix = true ↔
      ix < n ∧ ∃ c ∈ p.certificate? ix, (ix = 0 ∨ c.isSelfIssued = false) ∧
        ((∃ name, c.Bears r.environment.hostOf name ∧ ∃ j a s, ix < j ∧ j < n ∧
            p.certificate? j = some a ∧ s ∈ a.excludedSubtrees ∧ name.isWithin s = true) ∨
          ∃ name, c.Bears r.environment.hostOf name ∧
            ((Processing.permittedAbove p n ix).bucket name.form).permits name = false) := by
  intro n
  have hn : n = Processing.processedCount r p := (Request.processedCount_eq hp).symm
  rw [hn, hasFailed_iff_forces_of_waiverCodes hx hp rfl (by decide),
    Processing.forces_nameConstraints_iff]
  simp only [Processing.forbids_iff, Processing.excludes_scopeAt_iff, Processing.permitted_scopeAt]

/-- A host below one that is excluded, although its whole domain is permitted. -/
theorem pathChecks_nameConstraints_excluded :
    (initial.pathChecks ⟨.empty, [], 5, []⟩
      { Path.ofCertificates [
          { Facts.plain [1] with altNames := some [.dns "www.bad.example.com"] },
          { Facts.plain [2] with
            nameConstraints := some ⟨some [⟨.dns "example.com", 0, none⟩],
              some [⟨.dns "bad.example.com", 0, none⟩]⟩ },
          .plain [3]] with
        isAnchored := true }).2.1.hasFailed .nameConstraints 0 = true :=
  (pathChecks_nameConstraints _ _ (List.cons_ne_nil _ _) rfl 0).mpr
    ⟨by decide, _, rfl, .inl rfl, .inl ⟨.dns "www.bad.example.com", .dns List.mem_cons_self,
      1, _, ⟨.dns "bad.example.com", 0, none⟩, by decide, by decide, rfl, List.mem_cons_self,
      by decide +kernel⟩⟩

end Evaluation
end ChainTrust
