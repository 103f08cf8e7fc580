import ChainTrust.Proofs.Waivers

namespace ChainTrust

namespace Path

theorem mem_places {p : Path} {c : Facts} {ix : Nat} :
    (c, ix) ∈ p.places ↔ p.certificate? ix = some c := by
  rw [places, List.mem_zipIdx_iff_getElem?]
  rfl

theorem nonAnchorCount_le (p : Path) : p.nonAnchorCount ≤ p.length := by
  unfold nonAnchorCount
  split
  · exact Nat.sub_le _ _
  · exact le_rfl

theorem succ_ne_length (p : Path) {ix : Nat} (ha : p.isAnchored = true)
    (h : ix < p.nonAnchorCount) : ix + 1 ≠ p.length := by
  rw [nonAnchorCount, if_pos ha] at h
  exact ne_of_lt (Nat.add_lt_of_lt_sub h)

end Path

/-- The certificates of a path that can fail a check. -/
inductive Subject where
  | leaf
  /-- The issuer of the leaf, or the leaf if there is nothing else. -/
  | issuer
  | anchor
  | belowAnchor
  | any
  | none
deriving DecidableEq, Repr

/-- A certificate at this place is meant. -/
def Subject.Covers (p : Path) (ix : Nat) : Subject → Prop
  | .leaf => ix = 0
  | .issuer => ix = p.issuerPlace
  | .anchor => ix + 1 = p.length
  | .belowAnchor => ix < p.nonAnchorCount
  | .any => True
  | .none => False

namespace Check

def subject : Check → Subject
  | .sslHostname | .email | .subjectCommonName | .subjectCommonNameStart | .subjectCommonNameTest
  | .subjectOrganization | .subjectOrganizationalUnit | .extendedKeyUsage | .keyUsage
  | .notValidBefore | .eapTrustedServerNames | .leafMarkerOid | .leafMarkerOidWithoutValueCheck
  | .leafMarkersProdAndQa | .blackListedLeaf | .grayListedLeaf | .pinningRequired | .notCa
  | .leafSpkiSha256 | .validityPeriodMaximums | .nonEmptySubject
  | .chainLength | .certificatePolicy | .ctRequired => .leaf
  | .issuerCommonName | .intermediateMarkerOid | .intermediateSpkiSha256 | .intermediateEku
  | .intermediateOrganization | .intermediateCountry | .caSpkiSha256 => .issuer
  | .anchorSha1 | .anchorSha256 | .anchorTrusted => .anchor
  | .weakSignature | .signatureHashAlgorithms | .systemTrustedWeakHash => .belowAnchor
  | .keySize | .weakKeySize | .systemTrustedWeakKey | .idLinkage | .validLeaf | .validIntermediates
  | .validRoot | .weakLeaf | .weakIntermediates | .nameConstraints | .basicConstraints
  | .basicConstraintsCa | .criticalExtensions | .blackListedKey | .grayListedKey
  | .usageConstraints => .any
  | .revocation | .revocationResponseRequired | .extendedValidation
  | .basicCertificateProcessing => .none

theorem subject_of_ofLeaf {check : Check} (h : check ∈ ofLeaf) : check.subject = .leaf := by
  revert check
  decide

/-- The path has a certificate at the place, and the check is about it. -/
def IsAt (check : Check) (p : Path) (ix : Nat) : Prop :=
  ix < p.length ∧ check.subject.Covers p ix

/-- A place of one of several checks that are about the same certificates. -/
theorem IsAt.covers {check : Check} {p : Path} {ix : Nat} (h : check.IsAt p ix) (s : Subject)
    {checks : List Check} (hall : ∀ c ∈ checks, c.subject = s) (hmem : check ∈ checks) :
    s.Covers p ix :=
  hall check hmem ▸ h.2

section Places

variable {check : Check} {p : Path} {ix : Nat}

theorem isAt_leaf (hp : 0 < p.length) (h : check.subject = .leaf) : check.IsAt p 0 := by
  refine ⟨hp, ?_⟩
  rw [h]
  rfl

theorem isAt_issuer (hp : 0 < p.length) (h : check.subject = .issuer) :
    check.IsAt p p.issuerPlace := by
  refine ⟨?_, ?_⟩
  · unfold Path.issuerPlace
    split <;> assumption
  · rw [h]
    rfl

theorem isAt_anchor (hp : 0 < p.length) (h : check.subject = .anchor) :
    check.IsAt p (p.length - 1) := by
  refine ⟨Nat.sub_lt hp Nat.one_pos, ?_⟩
  rw [h]
  exact Nat.sub_add_cancel hp

theorem isAt_belowAnchor (hix : ix < p.nonAnchorCount) (h : check.subject = .belowAnchor) :
    check.IsAt p ix := by
  refine ⟨hix.trans_le p.nonAnchorCount_le, ?_⟩
  rw [h]
  exact hix

theorem isAt_any (hix : ix < p.length) (h : check.subject = .any) : check.IsAt p ix := by
  refine ⟨hix, ?_⟩
  rw [h]
  trivial

end Places

end Check

theorem LeafCheck.isAt_of_fails {r : Request} {leaf : Facts} {v : OptionValue} {check : Check}
    {p : Path} (hp : 0 < p.length) (h : fails r leaf v check = true) : check.IsAt p 0 :=
  Check.isAt_leaf hp (Check.subject_of_ofLeaf (ofLeaf_of_fails h))

namespace PathCheck

variable {p : Path} {check : Check} {ix : Nat}

theorem mem_placeIf {fails : Bool} {place : Nat} :
    ix ∈ placeIf fails place ↔ fails = true ∧ ix = place := by
  cases fails <;> simp [placeIf]

theorem mem_placesOf {places : List (Facts × Nat)} {failing : Facts → Bool} :
    ix ∈ placesOf places failing ↔ ∃ c, (c, ix) ∈ places ∧ failing c = true := by
  simp [placesOf]

theorem lt_length_of_mem_placesOf {failing : Facts → Bool} (h : ix ∈ placesOf p.places failing) :
    ix < p.length := by
  obtain ⟨c, hmem, -⟩ := mem_placesOf.mp h
  exact Path.certificate?_eq_some_lt (Path.mem_places.mp hmem)

theorem lt_nonAnchorCount_of_mem_placesOf {failing : Facts → Bool}
    (h : ix ∈ placesOf p.belowAnchor failing) : ix < p.nonAnchorCount := by
  obtain ⟨c, hmem, -⟩ := mem_placesOf.mp h
  exact (Path.mem_take_places.mp hmem).1

/-- A path as a whole fails a check at the places of the check. -/
theorem isAt_of_failures (hp : 0 < p.length) {v : OptionValue} (h : ix ∈ failures p v check) :
    check.IsAt p ix := by
  cases check with
  | issuerCommonName | intermediateMarkerOid | intermediateSpkiSha256 | intermediateEku
  | intermediateOrganization | intermediateCountry | caSpkiSha256 =>
    obtain rfl := (mem_placeIf.mp h).2
    exact Check.isAt_issuer hp rfl
  | anchorSha1 | anchorSha256 =>
    obtain rfl := (mem_placeIf.mp h).2
    exact Check.isAt_anchor hp rfl
  | chainLength | certificatePolicy =>
    obtain rfl := (mem_placeIf.mp h).2
    exact Check.isAt_leaf hp rfl
  | weakKeySize => exact Check.isAt_any (lt_length_of_mem_placesOf h) rfl
  | keySize | systemTrustedWeakKey =>
    simp only [failures] at h
    split at h
    · exact Check.isAt_any (lt_length_of_mem_placesOf h) rfl
    · cases h
  | weakSignature => exact Check.isAt_belowAnchor (lt_nonAnchorCount_of_mem_placesOf h) rfl
  | signatureHashAlgorithms | systemTrustedWeakHash =>
    simp only [failures] at h
    split at h
    · exact Check.isAt_belowAnchor (lt_nonAnchorCount_of_mem_placesOf h) rfl
    · cases h
  | _ => cases h

end PathCheck

namespace Finding

/-- What a finding says of a certificate, it says of one that can fail the check. -/
def IsPlaced (p : Path) : Finding → Prop
  | .failed check ix | .violated check ix | .fatal check ix => check.IsAt p ix
  | .verdict _ => True

variable {r : Request} {p : Path} {f : Finding}

theorem isPlaced_of_mem_leafFindings (hp : 0 < p.length) {leaf : Facts} {name : CheckName}
    {v : OptionValue} (h : f ∈ Evaluation.leafFindings r leaf name v) : f.IsPlaced p := by
  rcases Evaluation.mem_leafFindings.mp h with
    ⟨s, -, rfl⟩ | ⟨-, -, rfl | rfl⟩ | ⟨check, -, -, hfails, rfl⟩
  · trivial
  · exact Check.isAt_leaf hp rfl
  · trivial
  · exact LeafCheck.isAt_of_fails hp hfails

theorem isPlaced_of_mem_pathFindings (hp : 0 < p.length) {name : CheckName} {v : OptionValue}
    (h : f ∈ Evaluation.pathFindings p name v) : f.IsPlaced p := by
  rcases Evaluation.mem_pathFindings.mp h with ⟨s, -, rfl⟩ | ⟨check, ix, -, hix, rfl⟩
  · trivial
  · exact PathCheck.isAt_of_failures hp hix

theorem isPlaced_of_found (hp : 0 < p.length) (h : Processing.Found r p f) : f.IsPlaced p := by
  cases h with
  | untrusted => exact Check.isAt_anchor hp rfl
  | @invalid ix c hn hc =>
    refine Check.isAt_any (Path.certificate?_eq_some_lt hc) ?_
    unfold Processing.validityCheck
    split_ifs <;> rfl
  | denied hl => exact Check.isAt_any hl rfl
  | unlinked hc | weakLeaf _ hc | weakAuthority _ _ hc | forbidden _ hc | notCa _ _ hc
  | tooDeep _ _ hc | critical _ _ hc | criticalLeaf hc | blocked _ _ hc | graylisted _ _ hc
  | distrusted _ _ _ hc => exact Check.isAt_any (Path.certificate?_eq_some_lt hc) rfl
  | weak | blockedOutcome | distrustedOutcome | deniedOutcome | overridden => trivial

/-- Whatever arises keeps to the places of its check. -/
theorem Arises.isPlaced (hp : 0 < p.length) {current : Option Policy}
    (h : Arises r p current f) : f.IsPlaced p := by
  cases h with
  | unknownName | blockedLeafOutcome => trivial
  | blockedLeaf => exact Check.isAt_leaf hp rfl
  | leafCheck _ _ _ _ hf => exact LeafCheck.isAt_of_fails hp hf
  | pathCheck _ _ hf => exact PathCheck.isAt_of_failures hp hf
  | always hf => exact isPlaced_of_found hp hf
  | timestamps => exact Check.isAt_leaf hp rfl

end Finding

namespace Request

/-- A policy has an option for the check, or a usage constraint on the path does. -/
def Mentions (r : Request) (p : Path) (check : Check) : Prop :=
  (∃ policy ∈ r.policies, ∃ v, (.known check, v) ∈ policy.options) ∨
    ∃ c ∈ p.constraints.flatten, ∃ options ∈ c.policyOptions, ∃ v, (.known check, v) ∈ options

variable {r : Request} {p : Path} {check : Check}

theorem mentions_of_isRequested {current : Option Policy} (hc : r.Considers current)
    (h : isRequested current p (.known check) = true) : r.Mentions p check := by
  simp only [isRequested, Bool.or_eq_true, Option.any_eq_true, List.any_eq_true] at h
  rcases h with ⟨policy, rfl, hoption⟩ | ⟨c, hmem, options, hoptions, hkey⟩
  · rcases hc with ⟨asked, hp, heq⟩ | ⟨-, hnone⟩
    · cases heq
      exact .inl ⟨policy, hp, Policy.optionNamed?_isSome_iff.mp hoption⟩
    · cases hnone
  · obtain ⟨⟨name, v⟩, ho, hname⟩ := List.any_eq_true.mp hkey
    obtain rfl := eq_of_beq hname
    exact .inr ⟨c, hmem, options, hoptions, v, ho⟩

end Request

namespace Evaluation

variable {r : Request} {p : Path} {check : Check} {ix : Nat}

/-- What is noted was asked for, or counts in any case. -/
theorem mentions_of_noted (h : .noted check ix ∈ effects r p) :
    r.Mentions p check ∨ check ∈ Check.forced := by
  obtain ⟨-, ⟨current, ha⟩ | ⟨current, ⟨ha, hr⟩ | ha, -⟩⟩ := noted_mem_effects.mp h
  · cases ha with
    | blockedLeaf hp _ ho =>
      exact .inl (.inl ⟨_, hp, Policy.requests_iff.mp ho⟩)
    | always hf => cases hf <;> exact .inr (by decide)
  · exact .inl (Request.mentions_of_isRequested ha.considers hr)
  · cases ha with
    | always hf => cases hf <;> exact .inr (by decide)

theorem isAt_of_noted (hp : 0 < p.length) (h : .noted check ix ∈ effects r p) :
    check.IsAt p ix := by
  obtain ⟨-, ⟨current, ha⟩ | ⟨current, ⟨ha, -⟩ | ha, -⟩⟩ := noted_mem_effects.mp h
  · exact ha.isPlaced hp
  · exact ha.isPlaced hp
  · exact ha.isPlaced hp

/-- Every failure of a path is the failure of a check that something mentions or that counts in any
case, and is noted at a certificate that the check is about. -/
theorem pathChecks_attribution (r : Request) (p : Path) (hp : p.certificates ≠ []) (ix : Nat)
    (failures : Failures) (hix : (initial.pathChecks r p).2.1.details[ix]? = some failures)
    (name : CheckName) (value : Bool) (h : (name, value) ∈ failures) :
    value = false ∧ ∃ check, name = .known check ∧
      ((∃ policy ∈ r.policies, ∃ v, (name, v) ∈ policy.options) ∨
        (∃ c ∈ p.constraints.flatten, ∃ options ∈ c.policyOptions, ∃ v, (name, v) ∈ options) ∨
        check ∈ Check.forced) ∧
      check ∉ [.revocation, .revocationResponseRequired, .extendedValidation,
        .basicCertificateProcessing] ∧
      (check ∈ Check.ofLeaf ++ [.chainLength, .certificatePolicy, .ctRequired] → ix = 0) ∧
      (check ∈ [.issuerCommonName, .intermediateMarkerOid, .intermediateSpkiSha256,
        .intermediateEku, .intermediateOrganization, .intermediateCountry, .caSpkiSha256] →
          ix = if 1 < p.length then 1 else 0) ∧
      (check ∈ [.anchorSha1, .anchorSha256, .anchorTrusted] → ix + 1 = p.length) ∧
      (check ∈ [.weakSignature, .signatureHashAlgorithms, .systemTrustedWeakHash] →
        p.isAnchored = true → ix + 1 ≠ p.length) := by
  have hfailure : (name, value) ∈ (initial.pathChecks r p).2.1.failuresAt ix := by
    rw [failuresAt, hix]
    exact h
  obtain ⟨check, heq, hnoted⟩ := ((isFresh_initial p).mem_failuresAt hp).mp hfailure
  cases heq
  have hplace := isAt_of_noted (List.length_pos_iff.mpr hp) hnoted
  refine ⟨rfl, check, rfl, or_assoc.mp (mentions_of_noted hnoted), ?_, ?_, ?_, ?_, ?_⟩
  · exact fun hcheck => hplace.covers .none (by decide) hcheck
  · exact fun hcheck => hplace.covers .leaf (by decide) hcheck
  · exact fun hcheck => hplace.covers .issuer (by decide) hcheck
  · exact fun hcheck => hplace.covers .anchor (by decide) hcheck
  · intro hcheck hanchored
    exact p.succ_ne_length hanchored (hplace.covers .belowAnchor (by decide) hcheck)

/-- An issuer without the name that a policy wants is at fault, not the leaf or the anchor. -/
theorem pathChecks_attribution_issuer :
    let r : Request := ⟨.empty, [⟨"", "", [(.known .issuerCommonName, .text "CA")]⟩], 5, []⟩
    let p := { Path.ofCertificates [.plain [1], .plain [2], .plain [3]] with isAnchored := true }
    let failures : Failures := [(.known .issuerCommonName, false)]
    p.certificates ≠ [] ∧ (initial.pathChecks r p).2.1.details[1]? = some failures ∧
      (.known .issuerCommonName, false) ∈ failures ∧ 1 = if 1 < p.length then 1 else 0 := by
  intro r p failures
  have hp : p.certificates ≠ [] := List.cons_ne_nil _ _
  have hix : (initial.pathChecks r p).2.1.details[1]? = some failures := by decide +kernel
  have hmem : (.known .issuerCommonName, false) ∈ failures := List.mem_singleton_self _
  obtain ⟨-, check, hname, -, -, -, hissuer, -⟩ :=
    pathChecks_attribution r p hp 1 failures hix _ _ hmem
  cases hname
  exact ⟨hp, hix, hmem, hissuer List.mem_cons_self⟩

end Evaluation
end ChainTrust
