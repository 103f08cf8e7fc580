import ChainTrust.Proofs.Loading
import Mathlib.Logic.ExistsUnique
import Mathlib.Logic.Relation

namespace ChainTrust

open Der X509 Relation

namespace X509

def Extension.IsSctList (e : Extension) : Prop :=
  e.id = .embeddedSctList

namespace Body

/-- A list of timestamps is put in at some place, into a new list of extensions if there is none. -/
inductive Embeds : Body → Body → Prop where
  | insert (b : Body) (front back : List Extension) (e : Extension)
      (place : b.extensions.getD [] = front ++ back) (scts : e.IsSctList) :
      Embeds b { b with extensions := some (front ++ e :: back) }

/-- What a log is shown has no timestamps, and no list of extensions that holds none. -/
structure IsPrecertificate (b : Body) : Prop where
  noScts : ∀ e ∈ b.extensions.getD [], ¬e.IsSctList
  nonempty : b.extensions ≠ some []

/-- A body with a list of extensions, unless the list is empty. -/
def withExtensions (b : Body) (es : List Extension) : Body :=
  { b with extensions := if es.isEmpty then none else some es }

def kept (es : List Extension) : List Extension :=
  es.filter (·.id != .embeddedSctList)

variable {b b' t : Body} {es : List Extension}

theorem withoutScts_eq (b : Body) : b.withoutScts = b.withExtensions (kept (b.extensions.getD [])) :=
  rfl

theorem getD_withExtensions : (b.withExtensions es).extensions.getD [] = es := by
  cases es <;> rfl

theorem kept_cons_of_isSctList {e : Extension} (h : e.IsSctList) (es : List Extension) :
    kept (e :: es) = kept es :=
  List.filter_cons_of_neg (fun hne => bne_iff_ne.mp hne h)

theorem kept_cons_of_not_isSctList {e : Extension} (h : ¬e.IsSctList) (es : List Extension) :
    kept (e :: es) = e :: kept es :=
  List.filter_cons_of_pos (bne_iff_ne.mpr h)

theorem kept_append (front back : List Extension) : kept (front ++ back) = kept front ++ kept back :=
  List.filter_append front back

theorem kept_eq_self (h : ∀ e ∈ es, ¬e.IsSctList) : kept es = es :=
  List.filter_eq_self.mpr fun e he => bne_iff_ne.mpr (h e he)

theorem not_isSctList_of_mem_kept {e : Extension} (h : e ∈ kept es) : ¬e.IsSctList :=
  bne_iff_ne.mp (List.mem_filter.mp h).2

theorem withoutScts_of_isPrecertificate (h : b.IsPrecertificate) : b.withoutScts = b := by
  rw [withoutScts_eq, kept_eq_self h.noScts]
  obtain ⟨version, serial, signature, issuer, notBefore, notAfter, subject, key, id, id', es⟩ := b
  match es with
  | none => rfl
  | some [] => exact absurd rfl h.nonempty
  | some (_ :: _) => rfl

theorem isPrecertificate_withoutScts (b : Body) : b.withoutScts.IsPrecertificate := by
  rw [withoutScts_eq]
  constructor
  · intro e he
    rw [getD_withExtensions] at he
    exact not_isSctList_of_mem_kept he
  · unfold withExtensions
    split
    · nofun
    · rename_i h
      exact fun hempty => h (by simpa using hempty)

theorem withExtensions_of_ne_nil (h : es ≠ []) :
    b.withExtensions es = { b with extensions := some es } := by
  rw [withExtensions, if_neg (by simpa using h)]

/-- Another list of timestamps makes no difference to what is left without them. -/
theorem Embeds.withoutScts_eq (h : Embeds b b') : b'.withoutScts = b.withoutScts := by
  obtain ⟨front, back, e, hplace, hscts⟩ := h
  have hkept : kept (front ++ e :: back) = kept (b.extensions.getD []) := by
    rw [hplace, kept_append, kept_append, kept_cons_of_isSctList hscts]
  rw [Body.withoutScts_eq, Body.withoutScts_eq, ← hkept]
  rfl

theorem withoutScts_of_transGen (h : TransGen Embeds b b') : b'.withoutScts = b.withoutScts := by
  induction h with
  | single hstep => exact hstep.withoutScts_eq
  | tail _ hstep ih => exact hstep.withoutScts_eq.trans ih

theorem embeds_withExtensions (b : Body) (front back : List Extension) {e : Extension}
    (h : e.IsSctList) :
    Embeds (b.withExtensions (front ++ back)) (b.withExtensions (front ++ e :: back)) := by
  have hne : front ++ e :: back ≠ [] := by simp
  rw [withExtensions_of_ne_nil hne]
  exact .insert (b.withExtensions (front ++ back)) front back e getD_withExtensions h

/-- The timestamps behind some extensions are put in again, one after the other. -/
theorem reflTransGen_kept (b : Body) (front es : List Extension) :
    ReflTransGen Embeds (b.withExtensions (front ++ kept es)) (b.withExtensions (front ++ es)) := by
  induction es generalizing front with
  | nil => exact .refl
  | cons e es ih =>
    have hrest := ih (front ++ [e])
    rw [List.append_assoc, List.append_assoc, List.singleton_append, List.singleton_append] at hrest
    by_cases he : e.IsSctList
    · rw [kept_cons_of_isSctList he]
      exact .head (embeds_withExtensions b front (kept es) he) hrest
    · rw [kept_cons_of_not_isSctList he]
      exact hrest

/-- A body with timestamps was made of what is left without them. -/
theorem transGen_withoutScts (h : ∃ e ∈ b.extensions.getD [], e.IsSctList) :
    TransGen Embeds b.withoutScts b := by
  obtain ⟨e, he, hscts⟩ := h
  have hb : b.withExtensions (b.extensions.getD []) = b := by
    rw [withExtensions_of_ne_nil (List.ne_nil_of_mem he)]
    cases hes : b.extensions with
    | none => simp [hes] at he
    | some es => rw [Option.getD_some, ← hes]
  have hpath := reflTransGen_kept b [] (b.extensions.getD [])
  rw [List.nil_append, List.nil_append, hb, ← withoutScts_eq] at hpath
  rcases reflTransGen_iff_eq_or_transGen.mp hpath with heq | hgen
  · rw [heq] at he
    exact absurd hscts ((isPrecertificate_withoutScts b).noScts e he)
  · exact hgen

end Body
end X509

namespace Facts

open X509.Body

theorem IsLoaded.precertificate_eq {f : Facts} {c : Certificate} (h : f.IsLoaded c) :
    f.precertificate = some c.body.withoutScts.encode := by
  obtain ⟨encoded, hfacts⟩ := h.exists_encoded
  obtain ⟨key, -, hf⟩ := exists_key_of_ofCertificate hfacts
  exact congrArg Facts.precertificate hf

/-- What a log is shown is found again in every certificate that is made of it, and a certificate
with timestamps is made of one thing only. -/
theorem precertificate_of_embeds (c : Certificate) (f : Facts) (hf : f.IsLoaded c) :
    (∀ t : Body, t.IsPrecertificate → TransGen Embeds t c.body →
      f.precertificate = some t.encode) ∧
    ((∃ e ∈ c.body.extensions.getD [], e.IsSctList) →
      ∃! t : Body, t.IsPrecertificate ∧ TransGen Embeds t c.body) := by
  have hmade : ∀ t : Body, t.IsPrecertificate → TransGen Embeds t c.body →
      t = c.body.withoutScts := by
    intro t ht hc
    rw [withoutScts_of_transGen hc, withoutScts_of_isPrecertificate ht]
  constructor
  · intro t ht hc
    rw [hf.precertificate_eq, ← hmade t ht hc]
  · intro h
    refine ⟨c.body.withoutScts, ⟨isPrecertificate_withoutScts c.body, transGen_withoutScts h⟩, ?_⟩
    intro t ht
    exact hmade t ht.1 ht.2

/-- Two lists of timestamps around a key usage, one of them critical and no list at all. -/
theorem precertificate_of_embeds_twice :
    let usage : Extension := ⟨.keyUsage, true, [3, 2, 5, 160]⟩
    let scts : Extension := ⟨.embeddedSctList, false, [4, 0]⟩
    let noScts : Extension := ⟨.embeddedSctList, true, [9]⟩
    let t : Body := (Certificate.plain (some [usage])).body
    let c : Certificate := .plain (some [scts, usage, noScts])
    t.IsPrecertificate ∧ TransGen Embeds t c.body ∧
      ∃ f : Facts, f.IsLoaded c ∧ f.precertificate = some t.encode := by
  intro usage scts noScts t c
  have ht : t.IsPrecertificate := by
    refine ⟨fun e he => ?_, nofun⟩
    cases List.mem_singleton.mp he
    change ¬Oid.keyUsage = Oid.embeddedSctList
    decide +kernel
  have hc : TransGen Embeds t c.body :=
    .tail (.single (.insert t [] [usage] scts rfl rfl)) (.insert _ [scts, usage] [] noScts rfl rfl)
  have hread : Reader.all Certificate.read c.encode = some c := by decide +kernel
  obtain ⟨f, hf⟩ := exists_ofCertificate_plain c.encode (some [scts, usage, noScts])
  have hloaded : f.IsLoaded c := .of_encode hread hf
  exact ⟨ht, hc, f, hloaded, (precertificate_of_embeds c f hloaded).1 t ht hc⟩

end Facts
end ChainTrust
