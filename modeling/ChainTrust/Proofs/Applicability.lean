import ChainTrust.Request

namespace ChainTrust

/-- The fields that say what a constraint applies to. -/
inductive Constraint.Field where
  | policyOid
  | policyName
  | policyText
  | keyUse
  | requirement
deriving DecidableEq, Repr

/-- The constraint without a field. -/
def Constraint.without (c : Constraint) : Field → Constraint
  | .policyOid => { c with policyOid := none }
  | .policyName => { c with policyName := none }
  | .policyText => { c with policyText := none }
  | .keyUse => { c with keyUse := none }
  | .requirement => { c with requirement := none }

/-- What a constraint sees of one policy. -/
structure Policy.Face where
  oid : String
  name : String
  isBoundTo : String → Bool

def Policy.face (p : Policy) : Face :=
  ⟨p.oid, p.name, p.isBoundTo⟩

/-- Policies are found by what is seen of them. -/
theorem findPolicy?_congr {policies policies' : List Policy}
    (h : policies'.map Policy.face = policies.map Policy.face) (oid name : Option String) :
    (findPolicy? policies' oid name).map Policy.face =
      (findPolicy? policies oid name).map Policy.face := by
  have hfaces : ∀ policies : List Policy, (findPolicy? policies oid name).map Policy.face =
      let faces := policies.map Policy.face
      (faces.find? fun f => some f.oid == oid && some f.name == name).or
        ((faces.find? fun f => some f.oid == oid).or
          (faces.find? fun f => some f.name == name)) := by
    intro policies
    simp only [findPolicy?, List.find?_map, Option.map_or]
    rfl
  rw [hfaces, hfaces, h]

/-- A name that stands alone finds the first policy with it. -/
theorem findPolicy?_name (policies : List Policy) (name : String) :
    findPolicy? policies none (some name) = policies.find? (·.name == name) := by
  have hboth : (policies.find? fun p => some p.oid == none && some p.name == some name) = none :=
    List.find?_eq_none.mpr fun _ _ => Bool.false_ne_true
  have hoid : (policies.find? fun p => some p.oid == none) = none :=
    List.find?_eq_none.mpr fun _ _ => Bool.false_ne_true
  rw [findPolicy?, hboth, hoid, Option.none_or, Option.none_or]
  rfl

/-- An identifier that stands alone finds the first policy with it. -/
theorem findPolicy?_oid (policies : List Policy) (oid : String) :
    findPolicy? policies (some oid) none = policies.find? (·.oid == oid) := by
  have hboth : (policies.find? fun p => some p.oid == some oid && some p.name == none) = none :=
    List.find?_eq_none.mpr fun _ _ => by simp
  have hname : (policies.find? fun p => some p.name == none) = none :=
    List.find?_eq_none.mpr fun _ _ => Bool.false_ne_true
  rw [findPolicy?, hboth, hname, Option.none_or, Option.or_none]
  rfl

namespace Constraint

variable {c : Constraint} {policies : List Policy} {P : Option Policy → Prop}

theorem namedPolicy?_congr {policies' : List Policy}
    (h : policies'.map Policy.face = policies.map Policy.face) :
    (c.namedPolicy? policies').map (Option.map Policy.face) =
      (c.namedPolicy? policies).map (Option.map Policy.face) := by
  unfold namedPolicy?
  split
  · rfl
  · have hfound := congrArg (Option.map some) (findPolicy?_congr h c.policyOid c.policyName)
    rw [Option.map_map, Option.map_map] at hfound ⊢
    exact hfound

theorem bindingMatches_congr {policy policy' : Option Policy}
    (h : policy'.map Policy.face = policy.map Policy.face) :
    c.bindingMatches policy' = c.bindingMatches policy := by
  have hface : ∀ policy : Option Policy, c.bindingMatches policy =
      c.policyText.all fun wanted => (policy.map Policy.face).any (·.isBoundTo wanted) := by
    intro policy
    simp only [Option.any_map]
    rfl
  rw [hface, hface, h]

theorem exists_map_some_iff {found : Option Policy} :
    (∃ named, found.map some = some named ∧ P named) ↔ ∃ p, found = some p ∧ P (some p) := by
  constructor
  · rintro ⟨named, hnamed, hp⟩
    obtain ⟨p, hfound, rfl⟩ := Option.map_eq_some_iff.mp hnamed
    exact ⟨p, hfound, hp⟩
  · rintro ⟨p, hfound, hp⟩
    exact ⟨some p, Option.map_eq_some_iff.mpr ⟨p, hfound, rfl⟩, hp⟩

theorem exists_namedPolicy?_of_name (h : c.policyOid = none) :
    (∃ named, c.namedPolicy? policies = some named ∧ P named) ↔
      match c.policyName with
      | none => P none
      | some name => ∃ p, policies.find? (·.name == name) = some p ∧ P (some p) := by
  unfold namedPolicy?
  rw [h]
  cases c.policyName with
  | none => simp
  | some name =>
    rw [Option.isNone_some, Bool.and_false, if_neg Bool.false_ne_true, findPolicy?_name]
    exact exists_map_some_iff

theorem exists_namedPolicy?_of_oid (h : c.policyName = none) :
    (∃ named, c.namedPolicy? policies = some named ∧ P named) ↔
      match c.policyOid with
      | none => P none
      | some oid => ∃ p, policies.find? (·.oid == oid) = some p ∧ P (some p) := by
  unfold namedPolicy?
  rw [h]
  cases c.policyOid with
  | none => simp
  | some oid =>
    rw [Option.isNone_some, Bool.false_and, if_neg Bool.false_ne_true, findPolicy?_oid]
    exact exists_map_some_iff

end Constraint

namespace Request

variable {r : Request} {current : Option Policy} {ix : Nat} {c : Constraint}

/-- Every field that is there has a part in whether a constraint applies, and those that name a policy
decide which one the text is compared with. -/
theorem isMet_iff :
    r.isMet current ix c = true ↔
      (∃ named, c.namedPolicy? r.policies = some named ∧
        c.bindingMatches (named.or current) = true) ∧
      c.keyUseMatches r.policies ix = true ∧
        c.requirement.all r.environment.meetsRequirement = true := by
  unfold isMet
  cases c.namedPolicy? r.policies with
  | none => simp
  | some named => simp [and_assoc]

/-- A constraint sees of a request no more than the environment, the faces of its policies, and the
uses of the key that they make. -/
theorem isMet_congr {r' : Request} {current' : Option Policy}
    (henvironment : r'.environment.meetsRequirement = r.environment.meetsRequirement)
    (hpolicies : r'.policies.map Policy.face = r.policies.map Policy.face)
    (hcurrent : current'.map Policy.face = current.map Policy.face)
    (huse : c.keyUseMatches r'.policies ix = c.keyUseMatches r.policies ix) :
    r'.isMet current' ix c = r.isMet current ix c := by
  have hnamed := Constraint.namedPolicy?_congr (c := c) hpolicies
  unfold isMet
  cases hn : c.namedPolicy? r.policies with
  | none =>
    rw [hn, Option.map_none, Option.map_eq_none_iff] at hnamed
    rw [hnamed]
  | some named =>
    rw [hn] at hnamed
    obtain ⟨named', hn', hface⟩ := Option.map_eq_some_iff.mp hnamed
    have htext : c.bindingMatches (named'.or current') = c.bindingMatches (named.or current) := by
      apply Constraint.bindingMatches_congr
      rw [Option.map_or, Option.map_or, hface, hcurrent]
    simp only [hn', htext, huse, henvironment]

/-- A constraint that applies goes on doing so without a text, a use of the key or a requirement. -/
theorem isMet_without_limit (h : r.isMet current ix c = true) {field : Constraint.Field}
    (hfield : field ∈ [.policyText, .keyUse, .requirement]) :
    r.isMet current ix (c.without field) = true := by
  obtain ⟨⟨named, hnamed, htext⟩, huse, hrequirement⟩ := isMet_iff.mp h
  simp only [List.mem_cons, List.not_mem_nil, or_false] at hfield
  rcases hfield with rfl | rfl | rfl
  · exact isMet_iff.mpr ⟨⟨named, hnamed, rfl⟩, huse, hrequirement⟩
  · exact isMet_iff.mpr ⟨⟨named, hnamed, htext⟩, rfl, hrequirement⟩
  · exact isMet_iff.mpr ⟨⟨named, hnamed, htext⟩, huse, rfl⟩

/-- What names a policy can be exchanged in a constraint that applies, if the policy it then names,
or the current one, has the text. -/
theorem isMet_renamed_iff (h : r.isMet current ix c = true) {c' : Constraint}
    (oid name : Option String) (hc : c' = { c with policyOid := oid, policyName := name }) :
    r.isMet current ix c' = true ↔ ∃ named, c'.namedPolicy? r.policies = some named ∧
      c.bindingMatches (named.or current) = true := by
  subst hc
  obtain ⟨-, huse, hrequirement⟩ := isMet_iff.mp h
  rw [isMet_iff]
  exact and_iff_left ⟨huse, hrequirement⟩

/-- A constraint that applies goes on doing so without a text, a use of the key or a requirement.
Without the identifier of a policy it does so exactly if its name, if there is one, is that of a
policy and the first such policy has the text; without name and identifier, the current one has to. -/
theorem isMet_without (h : r.isMet current ix c = true) :
    (∀ field ∈ [.policyText, .keyUse, .requirement], r.isMet current ix (c.without field) = true) ∧
    (r.isMet current ix (c.without .policyOid) = true ↔
      match c.policyName with
      | none => c.bindingMatches current = true
      | some name => ∃ p, r.policies.find? (·.name == name) = some p ∧
          c.bindingMatches (some p) = true) ∧
    (r.isMet current ix (c.without .policyName) = true ↔
      match c.policyOid with
      | none => c.bindingMatches current = true
      | some oid => ∃ p, r.policies.find? (·.oid == oid) = some p ∧
          c.bindingMatches (some p) = true) := by
  refine ⟨fun field hfield => isMet_without_limit h hfield, ?_, ?_⟩
  · exact (isMet_renamed_iff h none c.policyName rfl).trans
      (Constraint.exists_namedPolicy?_of_name rfl)
  · exact (isMet_renamed_iff h c.policyOid none rfl).trans
      (Constraint.exists_namedPolicy?_of_oid rfl)

/-- A policy that is bound to a host, behind one that is not. -/
def boundRequest : Request :=
  ⟨.empty, [⟨"plain", "1.2.3", []⟩,
    ⟨"bound", "1.2.4", [(.known .sslHostname, .text "www.example.com")]⟩], 5, []⟩

/-- The name alone finds the policy that has the text. -/
theorem isMet_without_bound :
    let c := { Constraint.empty with
      policyOid := some "1.2.4", policyName := some "bound", policyText := some "WWW.example.com" }
    boundRequest.isMet boundRequest.firstPolicy? 0 c = true ∧
      boundRequest.isMet boundRequest.firstPolicy? 0 (c.without .policyOid) = true ∧
      boundRequest.isMet boundRequest.firstPolicy? 0 (c.without .policyText) = true := by
  intro c
  have h : boundRequest.isMet boundRequest.firstPolicy? 0 c = true := by decide +kernel
  obtain ⟨hlimits, hoid, -⟩ := isMet_without h
  exact ⟨h, hoid.mpr ⟨_, rfl, by decide +kernel⟩, hlimits .policyText (by decide)⟩

/-- With neither identifier nor name the text is compared with another policy. -/
theorem absent_identifier_unmet :
    ¬∀ (r : Request) (ix : Nat) (c : Constraint) (field : Constraint.Field),
      r.isMet r.firstPolicy? ix c = true → r.isMet r.firstPolicy? ix (c.without field) = true := by
  intro h
  have hunmet := h boundRequest 0
    { Constraint.empty with policyOid := some "1.2.4", policyText := some "www.example.com" }
    .policyOid (by decide +kernel)
  revert hunmet
  decide +kernel

end Request
end ChainTrust
