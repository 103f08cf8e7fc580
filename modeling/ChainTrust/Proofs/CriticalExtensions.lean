import ChainTrust.Proofs.Loading
import Mathlib.Data.List.Nodup

namespace ChainTrust

open Der X509

/-- The types of extensions whose values are looked at, and what it takes for a value to be read. -/
def valueReaders : List (Oid × (Bytes → Bool)) :=
  [ (.keyUsage, fun v => (Reader.all readKeyUsage v).isSome),
    (.extendedKeyUsage, fun v => (Reader.all (Reader.sequenceOf Reader.objectId) v).isSome),
    (.subjectAltName, fun v => (Reader.all (Reader.sequenceOf GeneralName.read) v).isSome),
    (.basicConstraints, fun v => (Reader.all readBasicConstraints v).isSome),
    (.nameConstraints, fun v => (Reader.all NameConstraints.read v).isSome),
    (.certificatePolicies, fun v => (Reader.all (Reader.sequenceOf readPolicy) v).isSome),
    (.subjectKeyIdentifier, fun v => (Reader.all Reader.octetString v).isSome),
    (.authorityKeyIdentifier, fun v => (Reader.all readAuthorityKeyId v).isSome),
    (.embeddedSctList, fun v => (Reader.all Reader.octetString v).isSome) ]

/-- The listed types whose values are not looked at. -/
def unreadExtensions : List Oid :=
  [ .issuerAltName, .crlDistributionPoints, .policyMappings, .policyConstraints, .inhibitAnyPolicy ]

namespace X509.Extension

/-- The type is one of those that an evaluation takes into account, or may ignore. -/
def IsListed (e : Extension) : Prop :=
  e.id ∈ processedExtensions ∨ e.id = .embeddedSctList

/-- Some readers refuse the value, or there is none for a type that is not processed either. -/
def isRefusedBy (readers : List (Oid × (Bytes → Bool))) (e : Extension) : Bool :=
  match readers.lookup e.id with
  | some accepts => !accepts e.value
  | none => !processedExtensions.contains e.id

theorem isRefusedBy_cons (id : Oid) (accepts : Bytes → Bool)
    (readers : List (Oid × (Bytes → Bool))) (e : Extension) :
    e.isRefusedBy ((id, accepts) :: readers) =
      if e.id = id then !accepts e.value else e.isRefusedBy readers := by
  unfold isRefusedBy
  rw [List.lookup_cons]
  by_cases h : e.id = id
  · rw [if_pos h, beq_iff_eq.mpr h]
  · rw [if_neg h, beq_eq_false_iff_ne.mpr h]

end X509.Extension

namespace Facts

/-- Whether unknown critical extensions are noted after an extension, given what comes of taking it
in. -/
def flagAfter (f : Facts) (critical : Bool) (o : Option Facts) : Bool :=
  (o.getD (if critical then { f with unknownCritical := true } else f)).unknownCritical

theorem flagAfter_map {α : Type} (f : Facts) (critical : Bool) (o : Option α) (g : α → Facts)
    (hg : ∀ a, (g a).unknownCritical = f.unknownCritical) :
    f.flagAfter critical (o.map g) = (f.unknownCritical || critical && !o.isSome) := by
  cases o with
  | some a => simp [flagAfter, hg]
  | none => cases critical <;> simp [flagAfter]

theorem extend?_of_crlDistributionPoints (f : Facts) {e : Extension}
    (h : e.id = .crlDistributionPoints) : f.extend? e = some { f with hasCrlPoints := true } := by
  have hother : ∀ row ∈ valueReaders, Oid.crlDistributionPoints ≠ row.1 := by decide +kernel
  simp only [valueReaders, List.forall_mem_cons] at hother
  simp only [extend?, h, hother, if_false, if_true]

/-- An extension is noted if it is critical and refused. -/
theorem unknownCritical_extend (f : Facts) (e : Extension) :
    (f.extend e).unknownCritical =
      (f.unknownCritical || e.critical && e.isRefusedBy valueReaders) := by
  change f.flagAfter e.critical (f.extend? e) = _
  by_cases hcrl : e.id = .crlDistributionPoints
  · -- these are processed, but there is no reader for them
    have hnone : valueReaders.lookup .crlDistributionPoints = none :=
      Option.isNone_iff_eq_none.mp (by decide +kernel)
    have hlisted : processedExtensions.contains .crlDistributionPoints = true := by decide +kernel
    rw [extend?_of_crlDistributionPoints f hcrl, Extension.isRefusedBy, hcrl, hnone, hlisted]
    simp [flagAfter]
  · have hlast : f.flagAfter e.critical
        (if e.critical && !processedExtensions.contains e.id then
          some { f with unknownCritical := true } else some f) =
        (f.unknownCritical || e.critical && e.isRefusedBy []) := by
      change _ = (f.unknownCritical || e.critical && !processedExtensions.contains e.id)
      cases e.critical <;> cases processedExtensions.contains e.id <;> simp [flagAfter]
    simp only [extend?, if_neg hcrl, apply_ite (f.flagAfter e.critical), flagAfter_map, implies_true]
    rw [← apply_ite (f.flagAfter e.critical), hlast]
    simp only [valueReaders, Extension.isRefusedBy_cons,
      apply_ite fun refused => f.unknownCritical || e.critical && refused]

/-- Extensions in any order and number are noted one by one. -/
theorem unknownCritical_foldl_extend (es : List Extension) (f : Facts) :
    (es.foldl extend f).unknownCritical =
      (f.unknownCritical || es.any fun e => e.critical && e.isRefusedBy valueReaders) := by
  induction es generalizing f with
  | nil => rw [List.foldl_nil, List.any_nil, Bool.or_false]
  | cons e es ih => rw [List.foldl_cons, ih, unknownCritical_extend, List.any_cons, Bool.or_assoc]

end Facts

/-- A notion of what encodes a value of each type. For a type whose values are looked at it is that of
the reader, and no type has an empty encoding. -/
structure IsDecoding (decodes : Oid → Bytes → Prop) : Prop where
  read : ∀ row ∈ valueReaders, ∀ v, decodes row.1 v ↔ row.2 v = true
  empty : ∀ id ∈ unreadExtensions, ¬decodes id []

/-- The readers, and for the types that have none any value that is not empty. -/
def decodesLoosely (id : Oid) (v : Bytes) : Prop :=
  v ≠ [] ∧ ∀ row ∈ valueReaders, row.1 = id → row.2 v = true

theorem isDecoding_decodesLoosely : IsDecoding decodesLoosely := by
  have hnodup : (valueReaders.map (·.1)).Nodup := by decide +kernel
  have hempty : ∀ row ∈ valueReaders, row.2 [] = false := by decide +kernel
  refine ⟨fun row hrow v => ⟨fun h => h.2 row hrow rfl, fun h => ⟨?_, ?_⟩⟩, fun _ _ h => h.1 rfl⟩
  · rintro rfl
    rw [hempty row hrow] at h
    cases h
  · intro other hother hid
    rw [List.inj_on_of_nodup_map hnodup hother hrow hid]
    exact h

namespace X509.Extension

variable {decodes : Oid → Bytes → Prop} {e : Extension}

/-- The extension is critical, and its type is not listed or its value encodes nothing of the type. -/
def IsUnknown (decodes : Oid → Bytes → Prop) (e : Extension) : Prop :=
  e.critical = true ∧ (¬e.IsListed ∨ ¬decodes e.id e.value)

/-- The listed types are those whose values are looked at, and five others. -/
theorem isListed_iff : e.IsListed ↔ e.id ∈ valueReaders.map (·.1) ∨ e.id ∈ unreadExtensions := by
  have hlisted : ∀ id ∈ .embeddedSctList :: processedExtensions,
      id ∈ valueReaders.map (·.1) ++ unreadExtensions := by decide +kernel
  have hcovered : ∀ id ∈ valueReaders.map (·.1) ++ unreadExtensions,
      id ∈ .embeddedSctList :: processedExtensions := by decide +kernel
  rw [IsListed, or_comm, ← List.mem_cons, ← List.mem_append]
  exact ⟨hlisted e.id, hcovered e.id⟩

theorem not_unread_of_mem_valueReaders (h : e.id ∈ valueReaders.map (·.1)) :
    e.id ∉ unreadExtensions := by
  have hdisjoint : ∀ id ∈ valueReaders.map (·.1), id ∉ unreadExtensions := by decide +kernel
  exact hdisjoint e.id h

/-- A value is refused if its type is not listed, or if it is looked at and encodes nothing. -/
theorem isRefusedBy_iff (h : IsDecoding decodes) :
    e.isRefusedBy valueReaders = true ↔
      ¬e.IsListed ∨ e.id ∉ unreadExtensions ∧ ¬decodes e.id e.value := by
  unfold isRefusedBy
  cases hlookup : valueReaders.lookup e.id with
  | some accepts =>
    have hrow : (e.id, accepts) ∈ valueReaders := by
      obtain ⟨front, back, heq, -⟩ := List.lookup_eq_some_iff.mp hlookup
      rw [heq]
      exact List.mem_append_right _ List.mem_cons_self
    have hkey : e.id ∈ valueReaders.map (·.1) := List.mem_map_of_mem hrow
    have hread : decodes e.id e.value ↔ accepts e.value = true := h.read _ hrow e.value
    simp [isListed_iff.mpr (.inl hkey), not_unread_of_mem_valueReaders hkey, hread]
  | none =>
    have hkey : e.id ∉ valueReaders.map (·.1) := by
      intro hmem
      obtain ⟨row, hrow, hid⟩ := List.mem_map.mp hmem
      exact bne_iff_ne.mp (List.lookup_eq_none_iff.mp hlookup row hrow) hid.symm
    have hscts : e.id ≠ .embeddedSctList := by
      intro heq
      refine hkey (heq ▸ ?_)
      decide +kernel
    have hprocessed : e.id ∈ processedExtensions ↔ e.IsListed := (or_iff_left hscts).symm
    have hunread : e.IsListed → e.id ∈ unreadExtensions :=
      fun hlisted => (isListed_iff.mp hlisted).resolve_left hkey
    simp only [Bool.not_eq_true', List.contains_eq_mem, decide_eq_false_iff_not, hprocessed]
    exact ⟨.inl, fun hor => hor.elim (fun hnot => hnot) fun hand hlisted => hand.1 (hunread hlisted)⟩

end X509.Extension

namespace Facts

open X509.Extension

variable {decodes : Oid → Bytes → Prop} {f : Facts} {c : Certificate}

theorem IsLoaded.unknownCritical_eq (h : f.IsLoaded c) : f.unknownCritical =
    (c.body.extensions.getD []).any fun e => e.critical && e.isRefusedBy valueReaders := by
  obtain ⟨encoded, hfacts⟩ := h.exists_encoded
  obtain ⟨key, -, rfl⟩ := ofCertificate_eq_ok_iff.mp hfacts
  rw [unknownCritical_foldl_extend]
  rfl

/-- A certificate has unknown critical extensions if and only if one is critical that is of no listed
type, or of a type whose values are looked at and with a value that encodes nothing. Were it not for
the five types whose values are not looked at, that would be any extension that is not understood. -/
theorem unknownCritical_iff (hd : IsDecoding decodes) (hf : f.IsLoaded c) :
    (f.unknownCritical = true ↔ ∃ e ∈ c.body.extensions.getD [],
      e.critical = true ∧ (¬e.IsListed ∨ e.id ∉ unreadExtensions ∧ ¬decodes e.id e.value)) ∧
    ((∀ e ∈ c.body.extensions.getD [], e.critical = true → e.id ∈ unreadExtensions →
        decodes e.id e.value) →
      (f.unknownCritical = true ↔ ∃ e ∈ c.body.extensions.getD [], e.IsUnknown decodes)) := by
  have hflag : f.unknownCritical = true ↔ ∃ e ∈ c.body.extensions.getD [],
      e.critical = true ∧ (¬e.IsListed ∨ e.id ∉ unreadExtensions ∧ ¬decodes e.id e.value) := by
    simp only [hf.unknownCritical_eq, List.any_eq_true, Bool.and_eq_true, isRefusedBy_iff hd]
  refine ⟨hflag, fun hunread => hflag.trans ?_⟩
  refine exists_congr fun e => and_congr_right fun he => and_congr_right fun hc => or_congr_right ?_
  exact ⟨And.right, fun hvalue => ⟨fun hmem => hvalue (hunread e he hc hmem), hvalue⟩⟩

/-- Policy constraints that are empty pass, and basic constraints that are cut off do not. -/
theorem unknownCritical_iff_truncated :
    let constraints : Extension := ⟨.policyConstraints, true, []⟩
    let basic : Extension := ⟨.basicConstraints, true, [48, 3, 1]⟩
    let c : Certificate := .plain (some [constraints, basic])
    IsDecoding decodesLoosely ∧ ∃ f : Facts, f.IsLoaded c ∧ f.unknownCritical = true ∧
      basic.critical = true ∧ basic.id ∉ unreadExtensions ∧ ¬decodesLoosely basic.id basic.value := by
  intro constraints basic c
  have hread : Reader.all Certificate.read c.encode = some c := by decide +kernel
  obtain ⟨f, hf⟩ := exists_ofCertificate_plain c.encode (some [constraints, basic])
  have hloaded : f.IsLoaded c := .of_encode hread hf
  have hunread : basic.id ∉ unreadExtensions := by
    change Oid.basicConstraints ∉ unreadExtensions
    decide +kernel
  have hvalue : ¬decodesLoosely basic.id basic.value := by
    have hrefused : ∃ row ∈ valueReaders, row.1 = .basicConstraints ∧ row.2 [48, 3, 1] = false := by
      decide +kernel
    intro h
    obtain ⟨row, hrow, hid, hfalse⟩ := hrefused
    rw [h.2 row hrow hid] at hfalse
    cases hfalse
  refine ⟨isDecoding_decodesLoosely, f, hloaded, ?_, rfl, hunread, hvalue⟩
  exact (unknownCritical_iff isDecoding_decodesLoosely hloaded).1.mpr
    ⟨basic, by simp [c, Certificate.plain], rfl, .inr ⟨hunread, hvalue⟩⟩

/-- Critical policy constraints without any content pass, although they encode nothing. -/
theorem empty_policyConstraints_pass :
    let constraints : Extension := ⟨.policyConstraints, true, []⟩
    let c : Certificate := .plain (some [constraints])
    ∃ f : Facts, f.IsLoaded c ∧ ∀ decodes, IsDecoding decodes →
      ¬(f.unknownCritical = true ↔ ∃ e ∈ c.body.extensions.getD [], e.IsUnknown decodes) := by
  intro constraints c
  have hread : Reader.all Certificate.read c.encode = some c := by decide +kernel
  obtain ⟨f, hf⟩ := exists_ofCertificate_plain c.encode (some [constraints])
  have hloaded : f.IsLoaded c := .of_encode hread hf
  refine ⟨f, hloaded, fun decodes hd hiff => ?_⟩
  have hunread : constraints.id ∈ unreadExtensions := by
    change Oid.policyConstraints ∈ unreadExtensions
    decide +kernel
  have hflag : f.unknownCritical = true := hiff.mpr
    ⟨constraints, by simp [c, Certificate.plain], rfl, .inr (hd.empty _ hunread)⟩
  rw [hloaded.unknownCritical_eq] at hflag
  revert hflag
  decide +kernel

end Facts
end ChainTrust
