import ChainTrust.Proofs.Narrowing
import Mathlib.Data.List.Forall2
import Mathlib.Logic.Relation

namespace ChainTrust

open Text

section Uris

variable {base host : List Char}

/-- The host of a URI in normal form lies under a base in lower case. -/
def Subtree.IsUriBelow (base host : List Char) : Prop :=
  base = [] ∨ (∃ rest, base = '.' :: rest ∧ base <:+ host ∧ base.length < host.length) ∨
    (base.head? ≠ some '.' ∧ host = base)

namespace Subtree

theorem hostUnder_uri_iff (base host : String) :
    hostUnder true base host = true ↔
      IsUriBelow (lower base.toList) (lower (dropEndWhile (· == '.') host.toList)) := by
  simpa [IsUriBelow] using hostUnder_cases true rfl rfl

theorem IsUriBelow.suffix (h : IsUriBelow base host) : base <:+ host := by
  rcases h with rfl | ⟨rest, rfl, hs, -⟩ | ⟨-, rfl⟩
  · exact List.nil_suffix
  · exact hs
  · exact List.suffix_rfl

/-- A base whose dots in front are cut off is taken for the host that it has the subdomains of. -/
theorem IsUriBelow.widen {outer : List Char} (h : IsUriBelow base host)
    (h' : IsUriBelow outer (base.dropWhile (· == '.'))) :
    IsUriBelow outer host ∨ base.head? = some '.' ∧ base.dropWhile (· == '.') = outer := by
  have hstrip : base.dropWhile (· == '.') <:+ host :=
    (List.dropWhile_suffix _).trans h.suffix
  rcases h' with rfl | ⟨rest, rfl, hs, hlt⟩ | ⟨-, heq⟩
  · exact .inl (.inl rfl)
  · exact .inl (.inr (.inl ⟨rest, rfl, hs.trans hstrip, hlt.trans_le hstrip.length_le⟩))
  · by_cases hhead : base.head? = some '.'
    · exact .inr ⟨hhead, heq⟩
    · have hself : base.dropWhile (· == '.') = base := by
        cases base with
        | nil => rfl
        | cons c rest => exact List.dropWhile_cons_of_neg (by simpa using hhead)
      rw [← heq, hself]
      exact .inl h

theorem hostUnder_stripped_iff {outer inner : String}
    (h : (lower inner.toList).getLast? ≠ some '.') :
    hostUnder true outer (String.ofList (inner.toList.dropWhile (· == '.'))) = true ↔
      IsUriBelow (lower outer.toList) ((lower inner.toList).dropWhile (· == '.')) := by
  have hlast : (lower (inner.toList.dropWhile (· == '.'))).getLast? ≠ some '.' := by
    rw [lower_dropWhile_dot]
    exact getLast?_ne_of_suffix (List.dropWhile_suffix _) h
  rw [hostUnder_uri_iff, String.toList_ofList, dropEndWhile_dot_eq_self hlast, lower_dropWhile_dot]

theorem isWithin_of_uri {s t : Subtree} {base : String} (h : s.base = .uri base) :
    s.isWithin t = (ConstrainedName.uriHost
      (String.ofList (base.toList.dropWhile (· == '.')))).isWithin t := by
  unfold isWithin ConstrainedName.isWithin
  rw [h]
  cases t.base <;> rfl

end Subtree

theorem ConstrainedName.isWithin_uri_iff {host : String} {s : Subtree} :
    (uriHost host).isWithin s = true ↔
      ∃ base, s.base = .uri base ∧ Subtree.hostUnder true base host = true := by
  unfold isWithin
  cases s.base <;> simp

end Uris

namespace Attribute

def SameContent (a b : Attribute) : Prop :=
  a.sameContent b = true

def SameText (a b : Attribute) : Prop :=
  a.type = b.type ∧ a.folded = b.folded

/-- The same octets stand for two texts, by the types of the strings. -/
def Ambiguous (a b : Attribute) : Prop :=
  a.type = b.type ∧ a.value = b.value ∧ a.folded ≠ b.folded

variable {a b : Attribute}

theorem SameText.refl (a : Attribute) : SameText a a :=
  ⟨rfl, rfl⟩

theorem SameText.sameContent (h : SameText a b) : SameContent a b := by
  simp [SameContent, Attribute.sameContent, h.1, h.2]

theorem SameContent.sameText (h : SameContent a b) (hab : ¬Ambiguous a b) : SameText a b := by
  simp only [SameContent, Attribute.sameContent, Bool.and_eq_true, Bool.or_eq_true,
    beq_iff_eq] at h
  obtain ⟨htype, hvalue | hfolded⟩ := h
  · refine ⟨htype, ?_⟩
    by_contra hne
    exact hab ⟨htype, hvalue, hne⟩
  · exact ⟨htype, hfolded⟩

theorem SameText.trans {c : Attribute} (h : SameText a b) (h' : SameText b c) : SameText a c :=
  ⟨h.1.trans h'.1, h.2.trans h'.2⟩

end Attribute

/-- Sets agree if their attributes do in pairs. The test for plain equality changes nothing, since an
attribute is the same as itself. -/
theorem Rdn.agree_iff_forall₂ {same : Attribute → Attribute → Bool}
    (hself : ∀ c, same c c = true) {a b : Rdn} :
    a.agree same b = true ↔ List.Forall₂ (fun x y => same x y = true) a b := by
  simp only [agree, Bool.or_eq_true, beq_iff_eq, Bool.and_eq_true, List.all_eq_true,
    List.forall₂_iff_zip]
  constructor
  · intro h
    rcases h with rfl | ⟨hlength, hall⟩
    · refine ⟨rfl, fun hmem => ?_⟩
      rw [List.zip_eq_zipWith, List.zipWith_self, List.mem_map] at hmem
      obtain ⟨c, -, hc⟩ := hmem
      cases hc
      exact hself _
    · exact ⟨hlength, fun hmem => hall _ hmem⟩
  · intro h
    exact .inr ⟨h.1, fun pair hmem => h.2 hmem⟩

theorem Rdn.agree_iff {a b : Rdn} :
    a.agree Attribute.sameContent b = true ↔ List.Forall₂ Attribute.SameContent a b :=
  agree_iff_forall₂ fun c => (Attribute.SameText.refl c).sameContent

namespace Name

/-- A name that begins with another, up to a relation between attributes. -/
inductive Begins (Same : Attribute → Attribute → Prop) : Name → Name → Prop where
  | nil (name : Name) : Begins Same [] name
  | cons {a b : Rdn} {as bs : Name} (h : List.Forall₂ Same a b) (hs : Begins Same as bs) :
      Begins Same (a :: as) (b :: bs)

variable {R S : Attribute → Attribute → Prop} {base other name : Name}

theorem forall₂_trans {α : Type} {R : α → α → Prop} (hR : ∀ a b c, R a b → R b c → R a c)
    {x y z : List α} (h : List.Forall₂ R x y) (h' : List.Forall₂ R y z) : List.Forall₂ R x z := by
  induction h generalizing z with
  | nil => exact h'
  | cons hab _ ih =>
    cases h' with
    | cons hbc hrest => exact .cons (hR _ _ _ hab hbc) (ih hrest)

theorem Begins.trans (hR : ∀ a b c, R a b → R b c → R a c) (h : Begins R base other)
    (h' : Begins R other name) : Begins R base name := by
  induction h generalizing name with
  | nil => exact .nil name
  | cons hab _ ih =>
    cases h' with
    | cons hbc hrest => exact .cons (forall₂_trans hR hab hbc) (ih hrest)

theorem forall₂_imp_of_mem {x y : Rdn} (h : List.Forall₂ R x y)
    (hRS : ∀ a ∈ x, ∀ b ∈ y, R a b → S a b) : List.Forall₂ S x y := by
  induction h with
  | nil => exact .nil
  | cons hab _ ih =>
    refine .cons (hRS _ List.mem_cons_self _ List.mem_cons_self hab) (ih fun a ha b hb => ?_)
    exact hRS a (List.mem_cons_of_mem _ ha) b (List.mem_cons_of_mem _ hb)

theorem Begins.imp_of_mem (h : Begins R base name)
    (hRS : ∀ a ∈ base.attributes, ∀ b ∈ name.attributes, R a b → S a b) : Begins S base name := by
  induction h with
  | nil => exact .nil _
  | cons hab _ ih =>
    simp only [attributes, List.flatten_cons, List.mem_append] at hRS
    refine .cons (forall₂_imp_of_mem hab fun a ha b hb => hRS a (.inl ha) b (.inl hb)) ?_
    exact ih fun a ha b hb => hRS a (.inr ha) b (.inr hb)

theorem Begins.imp (h : Begins R base name) (hRS : ∀ {a b}, R a b → S a b) : Begins S base name :=
  h.imp_of_mem fun _ _ _ _ => hRS

theorem begins_iff :
    Begins Attribute.SameContent base name ↔ base.length ≤ name.length ∧
      ((base.zip name).all fun (x, y) => x.agree Attribute.sameContent y) = true := by
  constructor
  · intro h
    induction h with
    | nil => simp
    | cons hab _ ih =>
      rw [List.zip_cons_cons, List.all_cons, Bool.and_eq_true]
      exact ⟨Nat.succ_le_succ ih.1, Rdn.agree_iff.mpr hab, ih.2⟩
  · intro h
    induction base generalizing name with
    | nil => exact .nil name
    | cons a base ih =>
      cases name with
      | nil => exact absurd h.1 (by simp)
      | cons b name =>
        rw [List.zip_cons_cons, List.all_cons, Bool.and_eq_true] at h
        exact .cons (Rdn.agree_iff.mp h.2.1) (ih ⟨Nat.le_of_succ_le_succ h.1, h.2.2⟩)

theorem isUnder_unlimited_iff :
    base.isUnder name 0 none = true ↔ Begins Attribute.SameContent base name := by
  rw [begins_iff]
  simp [isUnder]

theorem isUnder_unlimited {least : Nat} {most : Option Nat}
    (h : base.isUnder name least most = true) : base.isUnder name 0 none = true := by
  simp only [isUnder, Bool.and_eq_true] at h ⊢
  exact ⟨⟨⟨h.1.1.1, by simp⟩, rfl⟩, h.2⟩

end Name

theorem ConstrainedName.isWithin_directory_iff {name : Name} {s : Subtree} :
    (directory name).isWithin s = true ↔
      ∃ base, s.base = .directory base ∧ base.isUnder name s.minimum s.maximum = true := by
  unfold isWithin
  cases s.base <;> simp

theorem Subtree.isWithin_of_directory {s t : Subtree} {base : Name} (h : s.base = .directory base) :
    s.isWithin t = true ↔ ∃ outer, t.base = .directory outer ∧ outer.isUnder base 0 none = true := by
  unfold isWithin
  rw [h]
  cases t.base <;> simp

def GeneralName.attributes : GeneralName → List Attribute
  | .directory name => name.attributes
  | _ => []

namespace Subtree

/-- The attributes that are compared: those of a name and those of the bases. -/
def compared (among : List Subtree) (name : Name) : List Attribute :=
  name.attributes ++ among.flatMap fun t => t.base.attributes

/-- Attributes that match one another by way of others that are compared. -/
def Linked (among : List Subtree) (name : Name) : Attribute → Attribute → Prop :=
  Relation.TransGen fun a b =>
    a ∈ compared among name ∧ b ∈ compared among name ∧ a.SameContent b

/-- A name that is not within a subtree gets there by way of others. -/
inductive Overreached (among : List Subtree) : ConstrainedName → Subtree → Prop where
  /-- The subtree is one host, and another one holds the subdomains of that host. -/
  | domain {host base other : String} {s t : Subtree} (hs : s.base = .uri base) (ht : t ∈ among)
      (hother : t.base = .uri other) (hdot : (lower other.toList).head? = some '.')
      (hsame : (lower other.toList).dropWhile (· == '.') = lower base.toList)
      (hwithin : hostUnder true other host = true) : Overreached among (.uriHost host) s
  /-- The name begins with the base and is not at one of the depths of the subtree. -/
  | depth {name base : Name} {s : Subtree} (hs : s.base = .directory base)
      (hbegins : base.isUnder name 0 none = true)
      (hdepth : base.isUnder name s.minimum s.maximum = false) :
      Overreached among (.directory name) s
  /-- The attributes of the name do not match those of the base, but they do so by way of others,
  two of which have the same octets for different texts. -/
  | content {name base : Name} {s : Subtree} {a b : Attribute} (hs : s.base = .directory base)
      (hout : base.isUnder name 0 none = false) (hlinked : Name.Begins (Linked among name) base name)
      (ha : a ∈ compared among name) (hb : b ∈ compared among name) (hab : a.Ambiguous b) :
      Overreached among (.directory name) s

variable {among : List Subtree}

/-- A name is within a subtree, or gets there by overreach. -/
def Reaches (among : List Subtree) (name : ConstrainedName) (s : Subtree) : Prop :=
  name.isWithin s = true ∨ s.Overreached among name

/-- A base under which a host lies leads on to all around it, or to the host that it is a domain
of. -/
theorem reaches_of_domain {host base outer : String} {s t : Subtree} (ht : t ∈ among)
    (hbase : t.base = .uri base) (hs : s.base = .uri outer) (hunder : hostUnder true base host = true)
    (h : IsUriBelow (lower outer.toList) ((lower base.toList).dropWhile (· == '.'))) :
    Reaches among (.uriHost host) s := by
  rcases ((hostUnder_uri_iff base host).mp hunder).widen h with hbelow | ⟨hdot, hsame⟩
  · exact .inl (ConstrainedName.isWithin_uri_iff.mpr
      ⟨outer, hs, (hostUnder_uri_iff outer host).mpr hbelow⟩)
  · exact .inr (.domain hs ht hbase hdot hsame hunder)

theorem getLast?_ne_of_hostUnder {base host : String} (h : hostUnder true base host = true) :
    (lower base.toList).getLast? ≠ some '.' :=
  getLast?_ne_of_suffix ((hostUnder_uri_iff base host).mp h).suffix
    (getLast?_lower_dropEndWhile_ne host.toList)

theorem widens_uriHost (host : String) : Bucket.Widens (Reaches among (.uriHost host)) among := by
  intro s hs t _ hst hreach
  rcases hreach with hwithin | hover
  · obtain ⟨base, hbase, hunder⟩ := ConstrainedName.isWithin_uri_iff.mp hwithin
    rw [isWithin_of_uri hbase] at hst
    obtain ⟨outer, houter, hin⟩ := ConstrainedName.isWithin_uri_iff.mp hst
    rw [hostUnder_stripped_iff (getLast?_ne_of_hostUnder hunder)] at hin
    exact reaches_of_domain hs hbase houter hunder hin
  · cases hover with
    | @domain _ base other _ r hbase hr hother hdot hsame hunder =>
      rw [isWithin_of_uri hbase] at hst
      obtain ⟨outer, houter, hin⟩ := ConstrainedName.isWithin_uri_iff.mp hst
      have hlast : (lower base.toList).getLast? ≠ some '.' := by
        rw [← hsame]
        exact getLast?_ne_of_suffix (List.dropWhile_suffix _) (getLast?_ne_of_hostUnder hunder)
      -- the domain has the same host, so it leads wherever the host does
      rw [hostUnder_stripped_iff hlast, ← hsame, List.dropWhile_idempotent] at hin
      exact reaches_of_domain hr hother houter hunder hin

variable {name base outer : Name} {s t : Subtree} {a : Attribute}

theorem mem_compared_of_mem (hs : s ∈ among) (hbase : s.base = .directory base)
    (ha : a ∈ base.attributes) : a ∈ compared among name := by
  refine List.mem_append_right _ (List.mem_flatMap.mpr ⟨s, hs, ?_⟩)
  rw [hbase]
  exact ha

/-- To match is to have the same text as long as no octets stand for two, and that carries over. -/
theorem Linked.sameText {b : Attribute}
    (hnone : ∀ a ∈ compared among name, ∀ b ∈ compared among name, ¬a.Ambiguous b)
    (h : Linked among name a b) : a.SameText b := by
  induction h with
  | single h => exact h.2.2.sameText (hnone _ h.1 _ h.2.1)
  | tail _ h ih => exact ih.trans (h.2.2.sameText (hnone _ h.1 _ h.2.1))

theorem exists_ambiguous_of_linked (hlinked : Name.Begins (Linked among name) base name)
    (hout : base.isUnder name 0 none = false) :
    ∃ a ∈ compared among name, ∃ b ∈ compared among name, a.Ambiguous b := by
  by_contra hnone
  push Not at hnone
  rw [Name.isUnder_unlimited_iff.mpr (hlinked.imp fun h => (h.sameText hnone).sameContent)] at hout
  cases hout

/-- A name whose attributes are linked to those of a base reaches the subtree. -/
theorem reaches_of_linked (hs : s.base = .directory base)
    (h : Name.Begins (Linked among name) base name) : Reaches among (.directory name) s := by
  by_cases hbegins : base.isUnder name 0 none = true
  · by_cases hdepth : base.isUnder name s.minimum s.maximum = true
    · exact .inl (ConstrainedName.isWithin_directory_iff.mpr ⟨base, hs, hdepth⟩)
    · exact .inr (.depth hs hbegins (eq_false_of_ne_true hdepth))
  · have hout := eq_false_of_ne_true hbegins
    obtain ⟨a, ha, b, hb, hab⟩ := exists_ambiguous_of_linked h hout
    exact .inr (.content hs hout h ha hb hab)

theorem Reaches.linked (hs : s ∈ among) (h : Reaches among (.directory name) s) :
    ∃ base, s.base = .directory base ∧ Name.Begins (Linked among name) base name := by
  have hlinked : ∀ {base}, s.base = .directory base → base.isUnder name 0 none = true →
      Name.Begins (Linked among name) base name := by
    intro base hbase hunder
    refine (Name.isUnder_unlimited_iff.mp hunder).imp_of_mem fun a ha b hb hsame => ?_
    exact .single ⟨mem_compared_of_mem hs hbase ha, List.mem_append_left _ hb, hsame⟩
  rcases h with hwithin | hover
  · obtain ⟨base, hbase, hunder⟩ := ConstrainedName.isWithin_directory_iff.mp hwithin
    exact ⟨base, hbase, hlinked hbase (Name.isUnder_unlimited hunder)⟩
  · cases hover with
    | depth hbase hbegins => exact ⟨_, hbase, hlinked hbase hbegins⟩
    | content hbase _ hlinked => exact ⟨_, hbase, hlinked⟩

theorem widens_directory (name : Name) :
    Bucket.Widens (Reaches among (.directory name)) among := by
  intro s hs t ht hst hreach
  obtain ⟨base, hbase, hlinked⟩ := hreach.linked hs
  obtain ⟨outer, houter, hin⟩ := (isWithin_of_directory hbase).mp hst
  have hbases : Name.Begins (Linked among name) outer base := by
    refine (Name.isUnder_unlimited_iff.mp hin).imp_of_mem fun a ha b hb hsame => ?_
    exact .single ⟨mem_compared_of_mem ht houter ha, mem_compared_of_mem hs hbase hb, hsame⟩
  exact reaches_of_linked houter (hbases.trans (fun _ _ _ => .trans) hlinked)

end Subtree

namespace SubtreeSet

/-- Every host of a URI and every directory name that is permitted reaches a subtree of each list
that has some of its form. -/
theorem permitted_reaches (lists : List (List Subtree)) (name : ConstrainedName)
    (hform : name.form ∈ [.uri, .directory])
    (h : ((intersectAll lists).bucket name.form).permits name = true) :
    ∀ l ∈ lists, ofForm name.form l = [] ∨ ∃ s ∈ ofForm name.form l,
      name.isWithin s = true ∨ s.Overreached lists.flatten name := by
  have hwidens : Bucket.Widens (Subtree.Reaches lists.flatten name) lists.flatten := by
    cases name with
    | uriHost host => exact Subtree.widens_uriHost host
    | directory name => exact Subtree.widens_directory name
    | dns | email | ip => exact absurd hform (by simp [ConstrainedName.form])
  obtain ⟨hnull, hsome⟩ := Bucket.permits_iff.mp h
  refine admits_intersectAll hwidens ⟨hnull, hsome.imp_right ?_⟩
  intro h
  obtain ⟨s, hs, hwithin⟩ := h
  exact ⟨s, hs, .inl hwithin⟩

/-- One host, and then all its subdomains. -/
def domainBelowHost : List (List Subtree) :=
  [[⟨.uri "example.com", 0, none⟩], [⟨.uri ".example.com", 0, none⟩]]

theorem permitted_reaches_subdomain :
    (⟨.uri "example.com", 0, none⟩ : Subtree).Overreached domainBelowHost.flatten
      (.uriHost "www.example.com") := by
  have h := permitted_reaches domainBelowHost (.uriHost "www.example.com") (by decide)
    (by decide +kernel) _ List.mem_cons_self
  have hout : (ConstrainedName.uriHost "www.example.com").isWithin ⟨.uri "example.com", 0, none⟩ =
      false := by decide +kernel
  simpa [ofForm, GeneralName.form?, ConstrainedName.form, hout] using h

/-- One attribute of a name, with the tag of its string type. -/
def rdn (type : Oid) (tag : UInt8) (text : String) : Rdn :=
  [⟨type, tag, text.toUTF8.toList⟩]

/-- A country with one set of attributes more at most, and then what is below one of its
organizations. -/
def organizationBelowCountry : List (List Subtree) :=
  [[⟨.directory [rdn .countryName 0x13 "US"], 0, some 1⟩],
   [⟨.directory [rdn .countryName 0x13 "US", rdn .organizationName 0x0c "Example"], 0, none⟩]]

/-- Whatever is permitted of a form is within a subtree of each list that has some. -/
def Narrows (form : NameForm) : Prop :=
  ∀ (lists : List (List Subtree)) (name : ConstrainedName), name.form = form →
    ((intersectAll lists).bucket form).permits name = true →
      ∀ l ∈ lists, ofForm form l = [] ∨ ∃ s ∈ ofForm form l, name.isWithin s = true

theorem permitted_widens : ¬Narrows .uri ∧ ¬Narrows .directory := by
  constructor
  · intro h
    have hwithin := h domainBelowHost (.uriHost "www.example.com") rfl (by decide +kernel)
      _ List.mem_cons_self
    revert hwithin
    decide +kernel
  · intro h
    have hwithin := h organizationBelowCountry
      (.directory [rdn .countryName 0x13 "US", rdn .organizationName 0x0c "Example",
        rdn .commonName 0x0c "someone"]) rfl (by decide +kernel) _ List.mem_cons_self
    revert hwithin
    decide +kernel

/-- The octets of a string of another type have no text but their encoding. -/
example :
    let name : ConstrainedName := .directory [rdn .organizationName 0x1a "example"]
    let upper : Subtree := ⟨.directory [rdn .organizationName 0x0c "Example"], 0, none⟩
    let lower : Subtree := ⟨.directory [rdn .organizationName 0x0c "example"], 0, none⟩
    ((intersectAll [[upper], [lower]]).bucket .directory).permits name = true ∧
      name.isWithin upper = false := by
  decide +kernel

end SubtreeSet
end ChainTrust
