import ChainTrust.Proofs.Respelling

namespace ChainTrust

section Relations

variable {α : Type} {R : α → α → Prop}

theorem forall₂_symm (hR : ∀ a b, R a b → R b a) {x y : List α} (h : List.Forall₂ R x y) :
    List.Forall₂ R y x :=
  (h.imp hR).flip

theorem equivalence_forall₂ (hR : Equivalence R) : Equivalence (List.Forall₂ R) where
  refl _ := List.forall₂_same.mpr fun a _ => hR.refl a
  symm := forall₂_symm fun _ _ => hR.symm
  trans := Name.forall₂_trans (R := R) fun _ _ _ => hR.trans

/-- What a relation lacks to relate everything to itself, equality adds. -/
theorem equivalence_eq_or (hsymm : ∀ a b, R a b → R b a) (htrans : ∀ a b c, R a b → R b c → R a c) :
    Equivalence fun a b => a = b ∨ R a b where
  refl _ := .inl rfl
  symm h := h.imp Eq.symm (hsymm _ _)
  trans h h' := by
    rcases h with rfl | h
    · exact h'
    · rcases h' with rfl | h'
      · exact .inr h
      · exact .inr (htrans _ _ _ h h')

end Relations

/-- The members of two lists of one length are the same in pairs. -/
def inPairs {α : Type} (same : α → α → Bool) (x y : List α) : Bool :=
  x.length == y.length && (x.zip y).all fun (a, b) => same a b

theorem inPairs_iff {α : Type} {same : α → α → Bool} {x y : List α} :
    inPairs same x y = true ↔ List.Forall₂ (fun a b => same a b = true) x y := by
  simp [inPairs, List.forall₂_iff_zip]

namespace Attribute

variable (render : Attribute → Option (List Char)) (a b : Attribute)

/-- Both values can be written, and are written alike. -/
def writtenAlike : Bool :=
  match render a, render b with
  | some s, some t => s == t
  | _, _ => false

def sameBy : Bool :=
  a.type == b.type && writtenAlike render a b

def sameContentBy : Bool :=
  a.type == b.type && (a.value == b.value || writtenAlike render a b)

theorem sameAs_eq_sameBy : sameAs = sameBy fun a => some a.folded :=
  rfl

end Attribute

namespace Name

variable (render : Attribute → Option (List Char))

/-- Comparison of names where it may be impossible to write a value. -/
def sameBy (a b : Name) : Bool :=
  inPairs (Rdn.agree (Attribute.sameBy render)) a b

/-- A name that lies under a base where it may be impossible to write a value. -/
def isUnderBy (base name : Name) (least : Nat) (most : Option Nat) : Bool :=
  let extra := name.length - base.length
  base.length ≤ name.length && least ≤ extra && most.all (extra ≤ ·) &&
    (base.zip name).all fun (x, y) => x.agree (Attribute.sameContentBy render) y

theorem sameAs_eq_sameBy : sameAs = sameBy fun a => some a.folded :=
  rfl

theorem isUnder_eq_isUnderBy : isUnder = isUnderBy fun a => some a.folded :=
  rfl

end Name

section

variable {render : Attribute → Option (List Char)}

namespace Attribute

variable {a b c : Attribute}

theorem sameBy_iff :
    sameBy render a b = true ↔ a.type = b.type ∧ ∃ s, render a = some s ∧ render b = some s := by
  unfold sameBy writtenAlike
  cases ha : render a <;> cases hb : render b <;> simp
  exact fun _ => eq_comm

theorem sameBy_symm (h : sameBy render a b = true) : sameBy render b a = true := by
  obtain ⟨htype, s, ha, hb⟩ := sameBy_iff.mp h
  exact sameBy_iff.mpr ⟨htype.symm, s, hb, ha⟩

theorem sameBy_trans (h : sameBy render a b = true) (h' : sameBy render b c = true) :
    sameBy render a c = true := by
  obtain ⟨htype, s, ha, hb⟩ := sameBy_iff.mp h
  obtain ⟨htype', t, hb', hc⟩ := sameBy_iff.mp h'
  cases hb.symm.trans hb'
  exact sameBy_iff.mpr ⟨htype.trans htype', s, ha, hc⟩

/-- An attribute that can be written is the same as itself. -/
theorem sameBy_self (h : (render a).isSome = true) : sameBy render a a = true := by
  obtain ⟨s, ha⟩ := Option.isSome_iff_exists.mp h
  exact sameBy_iff.mpr ⟨rfl, s, ha, ha⟩

theorem sameContentBy_of_sameBy (h : sameBy render a b = true) :
    sameContentBy render a b = true := by
  simp only [sameBy, sameContentBy, Bool.and_eq_true, Bool.or_eq_true] at h ⊢
  exact h.imp_right .inr

end Attribute

namespace Rdn

variable {same other : Attribute → Attribute → Bool} {x y : Rdn}

theorem agree_iff_eq_or :
    x.agree same y = true ↔ x = y ∨ List.Forall₂ (fun a b => same a b = true) x y := by
  rw [← inPairs_iff]
  simp only [agree, inPairs, Bool.or_eq_true, beq_iff_eq]

theorem agree_imp (h : x.agree same y = true) (hsame : ∀ a b, same a b = true → other a b = true) :
    x.agree other y = true :=
  agree_iff_eq_or.mpr ((agree_iff_eq_or.mp h).imp_right (List.Forall₂.imp hsame))

theorem equivalence_agree_sameBy :
    Equivalence fun x y : Rdn => x.agree (Attribute.sameBy render) y = true := by
  have htrans : ∀ a b c, Attribute.sameBy render a b = true → Attribute.sameBy render b c = true →
      Attribute.sameBy render a c = true := fun _ _ _ => Attribute.sameBy_trans
  simp only [agree_iff_eq_or]
  exact equivalence_eq_or (fun _ _ => forall₂_symm fun _ _ => Attribute.sameBy_symm)
    fun _ _ _ => Name.forall₂_trans htrans

/-- Sets that are equal as they stand are equal attribute by attribute, if these can be written. -/
theorem agree_sameBy_eq_inPairs (h : ∀ a ∈ x, (render a).isSome = true) :
    x.agree (Attribute.sameBy render) y = inPairs (Attribute.sameBy render) x y := by
  rw [Bool.eq_iff_iff, agree_iff_eq_or, inPairs_iff]
  refine or_iff_right_of_imp fun heq => ?_
  rw [← heq]
  exact List.forall₂_same.mpr fun a ha => Attribute.sameBy_self (h a ha)

end Rdn

namespace Name

variable {a b : Name}

theorem sameBy_iff :
    sameBy render a b = true ↔
      List.Forall₂ (fun x y => x.agree (Attribute.sameBy render) y = true) a b :=
  inPairs_iff

theorem equivalence_sameBy : Equivalence fun a b => sameBy render a b = true := by
  simp only [sameBy_iff]
  exact equivalence_forall₂ Rdn.equivalence_agree_sameBy

theorem sameBy_eq_inPairs (h : ∀ c ∈ a.attributes, (render c).isSome = true) :
    sameBy render a b = inPairs (inPairs (Attribute.sameBy render)) a b := by
  have hsets : ∀ x ∈ a, ∀ y,
      x.agree (Attribute.sameBy render) y = inPairs (Attribute.sameBy render) x y :=
    fun x hx y => Rdn.agree_sameBy_eq_inPairs fun c hc =>
      h c (List.mem_flatten.mpr ⟨x, hx, hc⟩)
  unfold sameBy inPairs
  refine congrArg _ (Bool.eq_iff_iff.mpr ?_)
  simp only [List.all_eq_true]
  exact forall₂_congr fun pair hpair =>
    iff_of_eq (congrArg (· = true) (hsets _ (List.of_mem_zip hpair).1 _))

theorem isUnderBy_of_sameBy (h : sameBy render a b = true) :
    isUnderBy render a b 0 none = true := by
  have hlength := (sameBy_iff.mp h).length_eq
  simp only [sameBy, inPairs, Bool.and_eq_true, List.all_eq_true] at h
  simp only [isUnderBy, Bool.and_eq_true, List.all_eq_true, decide_eq_true_eq]
  refine ⟨⟨⟨hlength.le, Nat.zero_le _⟩, rfl⟩, fun pair hpair => ?_⟩
  exact Rdn.agree_imp (h.2 pair hpair) fun _ _ => Attribute.sameContentBy_of_sameBy

end Name

end

/-- Comparison of names is an equivalence. It is the comparison of all attributes in pairs, and
names that are the same lie under each other. It may be impossible to write some values: all of this
stays so, except that the attributes have to be written in order to be compared in pairs. -/
theorem Name.sameAs_equivalence :
    Equivalence (fun a b : Name => a.sameAs b = true) ∧
    (∀ a b : Name, a.sameAs b = inPairs (inPairs Attribute.sameAs) a b) ∧
    (∀ a b : Name, a.sameAs b = true → a.isUnder b 0 none = true ∧ b.isUnder a 0 none = true) ∧
    ∀ render : Attribute → Option (List Char),
      Equivalence (fun a b => sameBy render a b = true) ∧
      (∀ a b : Name, (∀ c ∈ a.attributes ++ b.attributes, (render c).isSome = true) →
        sameBy render a b = inPairs (inPairs (Attribute.sameBy render)) a b) ∧
      ∀ a b, sameBy render a b = true →
        isUnderBy render a b 0 none = true ∧ isUnderBy render b a 0 none = true := by
  have hunder : ∀ {render a b}, sameBy render a b = true →
      isUnderBy render a b 0 none = true ∧ isUnderBy render b a 0 none = true :=
    fun h => ⟨isUnderBy_of_sameBy h, isUnderBy_of_sameBy (equivalence_sameBy.symm h)⟩
  refine ⟨?_, fun a b => ?_, fun a b h => ?_, fun render => ⟨equivalence_sameBy, ?_, ?_⟩⟩
  · rw [sameAs_eq_sameBy]
    exact equivalence_sameBy
  · rw [sameAs_eq_sameBy, Attribute.sameAs_eq_sameBy]
    exact sameBy_eq_inPairs fun _ _ => rfl
  · rw [sameAs_eq_sameBy] at h
    rw [isUnder_eq_isUnderBy]
    exact hunder h
  · exact fun a b hall => sameBy_eq_inPairs fun c hc => hall c (List.mem_append_left _ hc)
  · exact fun a b => hunder

end ChainTrust
