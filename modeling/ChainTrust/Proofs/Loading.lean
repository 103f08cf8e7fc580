import ChainTrust.Certificate.OfDer

namespace ChainTrust

open Der X509

namespace Facts

variable {f : Facts} {c : Certificate}

theorem ofDer_eq_ok_iff {der : Bytes} :
    ofDer der = .ok f ↔ ∃ c, Reader.all Certificate.read der = some c ∧ ofCertificate der c = .ok f := by
  unfold ofDer
  cases Reader.all Certificate.read der <;> simp

theorem ofPem_eq_ok_iff {text : Bytes} :
    ofPem text = .ok f ↔ ∃ block c rest, Pem.decode? text = some block ∧ block.label = pemLabel ∧
      Certificate.read block.content = some (c, rest) ∧ ofCertificate c.encode c = .ok f := by
  unfold ofPem
  cases Pem.decode? text with
  | none => simp
  | some block =>
    cases hread : Certificate.read block.content with
    | none => simp [hread]
    | some r =>
      obtain ⟨c, rest⟩ := r
      by_cases hlabel : block.label = pemLabel <;> simp [hread, hlabel]

/-- The facts are those of the certificate, loaded in one way or the other. -/
def IsLoaded (f : Facts) (c : Certificate) : Prop :=
  (∃ der, Reader.all Certificate.read der = some c ∧ ofDer der = .ok f) ∨
    ∃ text block rest, Pem.decode? text = some block ∧ Certificate.read block.content = some (c, rest) ∧
      ofPem text = .ok f

theorem IsLoaded.exists_encoded (h : f.IsLoaded c) : ∃ encoded, ofCertificate encoded c = .ok f := by
  rcases h with ⟨der, hread, hload⟩ | ⟨text, block, rest, hblock, hread, hload⟩
  · obtain ⟨c', hread', hfacts⟩ := ofDer_eq_ok_iff.mp hload
    cases hread.symm.trans hread'
    exact ⟨der, hfacts⟩
  · obtain ⟨block', c', rest', hblock', -, hread', hfacts⟩ := ofPem_eq_ok_iff.mp hload
    cases hblock.symm.trans hblock'
    cases hread.symm.trans hread'
    exact ⟨c.encode, hfacts⟩

theorem ofCertificate_eq_ok_iff {encoded : Bytes} :
    ofCertificate encoded c = .ok f ↔ ∃ key, c.body.publicKey.size = .ok key ∧
      (c.body.extensions.getD []).foldl extend (withoutExtensions encoded c key) = f := by
  unfold ofCertificate
  cases c.body.publicKey.size with
  | error e => simp [bind, Except.bind]
  | ok key => simp [bind, Except.bind, pure, Except.pure]

theorem IsLoaded.of_encode (hread : Reader.all Certificate.read c.encode = some c)
    (hfacts : ofCertificate c.encode c = .ok f) : f.IsLoaded c :=
  .inl ⟨c.encode, hread, ofDer_eq_ok_iff.mpr ⟨c, hread, hfacts⟩⟩

/-- Facts with what the extensions say taken from others. -/
def withExtensionsOf (f g : Facts) : Facts :=
  { f with
    altNames := g.altNames
    altNamesCritical := g.altNamesCritical
    keyUsage := g.keyUsage
    extendedKeyUsage := g.extendedKeyUsage
    basicConstraints := g.basicConstraints
    nameConstraints := g.nameConstraints
    policies := g.policies
    hasCrlPoints := g.hasCrlPoints
    subjectKeyId := g.subjectKeyId
    authorityKeyId := g.authorityKeyId
    unknownCritical := g.unknownCritical
    sctList := g.sctList }

theorem extend?_withExtensionsOf (f g : Facts) (e : Extension) :
    (f.withExtensionsOf g).extend? e = (g.extend? e).map f.withExtensionsOf := by
  simp only [extend?, apply_ite (Option.map f.withExtensionsOf), Option.map_map, Option.map_some]
  rfl

theorem extend_withExtensionsOf (f g : Facts) (e : Extension) :
    (f.withExtensionsOf g).extend e = f.withExtensionsOf (g.extend e) := by
  unfold extend
  rw [extend?_withExtensionsOf]
  cases g.extend? e with
  | some h => rfl
  | none => cases e.critical <;> rfl

/-- An extension is taken in without regard to what is known apart from extensions. -/
theorem foldl_extend_withExtensionsOf (es : List Extension) (f g : Facts) :
    es.foldl extend (f.withExtensionsOf g) = f.withExtensionsOf (es.foldl extend g) := by
  induction es generalizing g with
  | nil => rfl
  | cons e es ih => rw [List.foldl_cons, List.foldl_cons, extend_withExtensionsOf, ih]

/-- Extensions leave alone what is known apart from them. -/
theorem foldl_extend_eq (es : List Extension) (f : Facts) :
    es.foldl extend f = f.withExtensionsOf (es.foldl extend f) :=
  foldl_extend_withExtensionsOf es f f

/-- What is loaded and is not from the extensions is as it was without them. -/
theorem exists_key_of_ofCertificate {encoded : Bytes} (h : ofCertificate encoded c = .ok f) :
    ∃ key, c.body.publicKey.size = .ok key ∧
      f = (withoutExtensions encoded c key).withExtensionsOf f := by
  obtain ⟨key, hkey, rfl⟩ := ofCertificate_eq_ok_iff.mp h
  exact ⟨key, hkey, foldl_extend_eq _ _⟩

end Facts

/-- A certificate with little more than its extensions, and a key of no known kind. -/
def X509.Certificate.plain (extensions : Option (List Extension)) : Certificate :=
  let algorithm : Algorithm := ⟨.ofArcs [1, 2, 3, 4], none⟩
  ⟨⟨2, [1], algorithm, [], .utc 1700000000, .utc 1800000000, [], ⟨algorithm, ⟨0, [7]⟩⟩, none, none,
    extensions⟩, algorithm, ⟨0, [1]⟩⟩

theorem Facts.exists_ofCertificate_plain (encoded : Bytes) (extensions : Option (List Extension)) :
    ∃ f, ofCertificate encoded (.plain extensions) = .ok f := by
  have hkey : (Certificate.plain extensions).body.publicKey.size = .ok (.other, 0) := by cbv
  exact ⟨_, ofCertificate_eq_ok_iff.mpr ⟨_, hkey, rfl⟩⟩

end ChainTrust
