import ChainTrust.Proofs.Armour
import ChainTrust.Proofs.Loading
import ChainTrust.Proofs.StrictReading

namespace ChainTrust

open Der X509

/-- The bytes are a certificate in which no default is written, no set is out of order, and no field is
out of place. -/
def IsDistinguished (der : Bytes) : Prop :=
  (Reader.all Certificate.readStrict der).isSome = true

instance (der : Bytes) : Decidable (IsDistinguished der) :=
  inferInstanceAs (Decidable (_ = true))

namespace X509.Certificate

variable {c : Certificate} {der : Bytes}

/-- A certificate that is written again is read again. -/
theorem readStrict_encode (h : Reader.all read der = some c) :
    Reader.all readStrict c.encode = some c :=
  (codec.all trivial).again h

theorem read_encode (h : Reader.all read der = some c) : Reader.all read c.encode = some c :=
  (codec.all trivial).sound (readStrict_encode h)

theorem isDistinguished_encode (h : Reader.all read der = some c) : IsDistinguished c.encode := by
  rw [IsDistinguished, readStrict_encode h]
  rfl

theorem length_encode_le (h : Reader.all read der = some c) : c.encode.length ≤ der.length :=
  (codec.all trivial).shorter h

theorem encode_eq_iff (h : Reader.all read der = some c) : c.encode = der ↔ IsDistinguished der := by
  constructor
  · intro heq
    rw [← heq]
    exact isDistinguished_encode h
  · intro hstrict
    obtain ⟨c', hc'⟩ := Option.isSome_iff_exists.mp hstrict
    have hsame : c' = c := Option.some.inj (((codec.all trivial).sound hc').symm.trans h)
    rw [← hsame]
    exact ((codec.all trivial).written hc').symm

end X509.Certificate

namespace Facts

/-- Facts of the same certificate in another encoding. -/
def withEncoding (f : Facts) (encoded : Bytes) : Facts :=
  { f with
    encoded := encoded
    sha1 := ChainTrust.sha1 encoded
    sha256 := ChainTrust.sha256 encoded }

def armour (der : Bytes) : Bytes :=
  Pem.encode ⟨pemLabel, der⟩

variable {f : Facts} {c : Certificate} {der : Bytes}

/-- The encoding has no part in the facts apart from itself and its digests. -/
theorem ofCertificate_withEncoding (h : ofCertificate der c = .ok f) (encoded : Bytes) :
    ofCertificate encoded c = .ok (f.withEncoding encoded) := by
  obtain ⟨key, hkey, rfl⟩ := ofCertificate_eq_ok_iff.mp h
  refine ofCertificate_eq_ok_iff.mpr ⟨key, hkey, ?_⟩
  have hfold := foldl_extend_withExtensionsOf (c.body.extensions.getD [])
    (withoutExtensions encoded c key) (withoutExtensions der c key)
  change List.foldl extend (withoutExtensions encoded c key) _ = _ at hfold
  rw [hfold, foldl_extend_eq _ (withoutExtensions der c key)]
  rfl

theorem encoded_of_ofCertificate (h : ofCertificate der c = .ok f) : f.encoded = der := by
  obtain ⟨key, -, hf⟩ := exists_key_of_ofCertificate h
  exact congrArg Facts.encoded hf

theorem withEncoding_eq_self_iff (h : ofCertificate der c = .ok f) {encoded : Bytes} :
    f.withEncoding encoded = f ↔ encoded = der := by
  constructor
  · intro heq
    exact (congrArg Facts.encoded heq).trans (encoded_of_ofCertificate h)
  · rintro rfl
    exact Except.ok.inj ((ofCertificate_withEncoding h encoded).symm.trans h)

theorem ofPem_of_read (hread : Reader.all Certificate.read der = some c)
    (h : ofCertificate der c = .ok f) : ofPem (armour der) = .ok (f.withEncoding c.encode) := by
  have hnonempty : der ≠ [] := by
    rintro rfl
    cases hread
  have hlabel : ∀ b ∈ pemLabel, Pem.isLabelByte b = true := by decide +kernel
  exact ofPem_eq_ok_iff.mpr ⟨⟨pemLabel, der⟩, c, [], Pem.decode?_encode hlabel hnonempty, rfl,
    Reader.all_eq_some_iff.mp hread, ofCertificate_withEncoding h c.encode⟩

/-- Every certificate that is loaded is loaded out of its armour too. Its encoding is then a
distinguished one, and all other facts but the digests are as they were. The encoding and its digests
are as they were exactly if the encoding was distinguished before. -/
theorem ofPem_armour (der : Bytes) (f : Facts) (h : ofDer der = .ok f) :
    ∃ e, IsDistinguished e ∧ e.length ≤ der.length ∧ ofDer e = .ok (f.withEncoding e) ∧
      ofPem (armour der) = .ok (f.withEncoding e) ∧
      (f.withEncoding e = f ↔ IsDistinguished der) := by
  obtain ⟨c, hread, hfacts⟩ := ofDer_eq_ok_iff.mp h
  refine ⟨c.encode, Certificate.isDistinguished_encode hread, Certificate.length_encode_le hread, ?_,
    ofPem_of_read hread hfacts, ?_⟩
  · exact ofDer_eq_ok_iff.mpr
      ⟨c, Certificate.read_encode hread, ofCertificate_withEncoding hfacts c.encode⟩
  · rw [withEncoding_eq_self_iff hfacts, Certificate.encode_eq_iff hread]

/-- A key usage that is critical, in the encoding that is written for it. -/
theorem ofPem_armour_plain :
    let der := (Certificate.plain (some [⟨.keyUsage, true, [3, 2, 5, 160]⟩])).encode
    ∃ f, ofDer der = .ok f ∧ ofPem (armour der) = .ok f := by
  intro der
  have hread : Reader.all Certificate.read der =
      some (.plain (some [⟨.keyUsage, true, [3, 2, 5, 160]⟩])) := by
    decide +kernel
  obtain ⟨f, hfacts⟩ := exists_ofCertificate_plain der (some [⟨.keyUsage, true, [3, 2, 5, 160]⟩])
  have hload : ofDer der = .ok f := ofDer_eq_ok_iff.mpr ⟨_, hread, hfacts⟩
  obtain ⟨e, -, -, -, hpem, hsame⟩ := ofPem_armour der f hload
  have hdistinguished : IsDistinguished der := by decide +kernel
  rw [hsame.mpr hdistinguished] at hpem
  exact ⟨f, hload, hpem⟩

/-- A key usage that is not critical, with the flag that tells so. -/
def flagged : Bytes :=
  let c : Certificate := .plain none
  let usage := Der.sequence
    [oidElement .keyUsage, element Tag.boolean [0], element Tag.octetString [3, 2, 5, 160]]
  Der.sequence
    [ Der.sequence
        [ element (Tag.contextHolder 0) (element Tag.integer (unsigned c.body.version)),
          element Tag.integer c.body.serial,
          c.body.signature.encode,
          c.body.issuer.encode,
          Der.sequence [c.body.notBefore.encode, c.body.notAfter.encode],
          c.body.subject.encode,
          c.body.publicKey.encode,
          element (Tag.contextHolder 3) (Der.sequence [usage]) ],
      c.algorithm.encode,
      element Tag.bitString c.signature.content ]

/-- The certificate is loaded in both ways, but not with the same bytes, nor the same digest. -/
theorem flagged_differs :
    ∃ f g, ofDer flagged = .ok f ∧ ofPem (armour flagged) = .ok g ∧
      g.encoded ≠ f.encoded ∧ g.sha256 ≠ f.sha256 := by
  let usage : Extension := ⟨.keyUsage, false, [3, 2, 5, 160]⟩
  let c : Certificate := .plain (some [usage])
  have hread : Reader.all Certificate.read flagged = some c := by decide +kernel
  obtain ⟨f, hfacts⟩ := exists_ofCertificate_plain flagged (some [usage])
  have hencoded : c.encode ≠ flagged := by decide +kernel
  have hdigest : ChainTrust.sha256 c.encode ≠ ChainTrust.sha256 flagged := by decide +kernel
  refine ⟨f, f.withEncoding c.encode, ofDer_eq_ok_iff.mpr ⟨c, hread, hfacts⟩,
    ofPem_of_read hread hfacts, ?_⟩
  rw [← (withEncoding_eq_self_iff hfacts).mpr rfl]
  exact ⟨hencoded, hdigest⟩

end Facts
end ChainTrust
