import ChainTrust.Constraint.Json
import ChainTrust.Proofs.JsonRecords
import ChainTrust.Proofs.Registry
import Mathlib.Data.List.Nodup
import Mathlib.Data.List.Perm.Basic

namespace ChainTrust

namespace CheckName

/-- A check that exists goes by its own name. -/
def IsCanonical : CheckName → Prop
  | .known _ => True
  | .other s => ∀ check : Check, check.text ≠ s

theorem text_ofText (s : String) : (ofText s).text = s := by
  unfold ofText Check.ofText?
  cases h : Check.all.find? fun c => c.text == s with
  | none => rfl
  | some check =>
    have hfound := List.find?_some h
    exact eq_of_beq hfound

theorem ofText_text {name : CheckName} (h : name.IsCanonical) : ofText name.text = name := by
  cases name with
  | known check =>
    have hall : ∀ check ∈ Check.all, ofText check.text = known check := by decide +kernel
    exact hall check check.mem_all
  | other s =>
    have hnone : Check.ofText? s = none :=
      List.find?_eq_none.mpr fun check _ heq => h check (eq_of_beq heq)
    change ofText s = other s
    rw [ofText, hnone]

end CheckName

namespace OptionValue

open Json

theorem ofItems?_eq_mapM (items : List Json) : ofItems? items = items.mapM ofJson? := by
  induction items with
  | nil => rfl
  | cons item items ih => rw [ofItems?, ih, List.mapM_cons]

theorem ofFields?_eq_mapM (fields : List (String × Json)) :
    ofFields? fields = fields.mapM fun e => (ofJson? e.2).map (e.1, ·) := by
  induction fields with
  | nil => rfl
  | cons field fields ih =>
    rw [ofFields?, ih, List.mapM_cons]
    cases ofJson? field.2 <;> rfl

theorem itemsToJson_eq_map (values : List OptionValue) :
    itemsToJson values = values.map toJson := by
  induction values with
  | nil => rfl
  | cons v values ih => rw [itemsToJson, ih, List.map_cons]

theorem fieldsToJson_eq_map (entries : List (String × OptionValue)) :
    fieldsToJson entries = entries.map fun e => (e.1, e.2.toJson) := by
  induction entries with
  | nil => rfl
  | cons e entries ih => rw [fieldsToJson, ih, List.map_cons]

/-- The entries of all dictionaries inside ascend by key. -/
inductive IsOrdered : OptionValue → Prop where
  | bool (b : Bool) : IsOrdered (.bool b)
  | integer (n : Int64) : IsOrdered (.integer n)
  | text (s : String) : IsOrdered (.text s)
  | array {values : List OptionValue} (h : ∀ v ∈ values, IsOrdered v) : IsOrdered (.array values)
  | dictionary {entries : List (String × OptionValue)} (hkeys : Entries.Ascending entries)
      (h : ∀ e ∈ entries, IsOrdered e.2) : IsOrdered (.dictionary entries)

/-- Each kind of value has a form of its own. -/
theorem IsOrdered.ofJson?_toJson {v : OptionValue} (h : v.IsOrdered) :
    ofJson? v.toJson = some v := by
  induction h with
  | bool b | text s => rfl
  | integer n =>
    rw [toJson, ofJson?, if_pos n.toInt_le, Int64.ofInt_toInt]
  | array _ ih =>
    rw [toJson, ofJson?, itemsToJson_eq_map, ofItems?_eq_mapM, mapM_map_eq_self ih]
    rfl
  | dictionary hkeys _ ih =>
    rw [toJson, ofJson?, fieldsToJson_eq_map, ofFields?_eq_mapM,
      mapM_map_eq_self fun e he => by rw [ih e he]; rfl, Option.map_some,
      Entries.ofList_of_perm hkeys (.refl _)]

/-- What is written of a value is in order already. -/
theorem IsOrdered.value_toJson {v : OptionValue} (h : v.IsOrdered) :
    v.toJson.value = v.toJson := by
  induction h with
  | bool b | integer n | text s => rfl
  | array _ ih =>
    rw [toJson, value, itemsToJson_eq_map, itemValues_eq_map, List.map_map]
    exact congrArg Json.list (List.map_congr_left ih)
  | @dictionary entries hkeys _ ih =>
    have hvalues : fieldValues (fieldsToJson entries) = fieldsToJson entries := by
      rw [fieldsToJson_eq_map, fieldValues_eq_map, List.map_map]
      exact List.map_congr_left fun e he => congrArg (e.1, ·) (ih e he)
    rw [toJson, value, hvalues, fieldsToJson_eq_map,
      Entries.ofList_of_perm (hkeys.mapValues toJson) (.refl _)]

/-- Options as they are held: in order, each by the name of its check. -/
structure AreCanonical (options : List (CheckName × OptionValue)) : Prop where
  ascending : Entries.Ascending options
  names : ∀ option ∈ options, option.1.IsCanonical
  values : ∀ option ∈ options, option.2.IsOrdered

/-- Options that do not lie too deep in a text are read like any others. -/
theorem entriesOfJson?_eq {outer : Nat} {j : Json} (h : outer + j.depth ≤ maxDepth) :
    entriesOfJson? outer j = entriesOfValue? j := by
  unfold entriesOfJson? entriesOfValue? entriesOf?
  cases j with
  | object fields =>
    refine congrArg (Option.map _) (mapM_congr fun field hfield => ?_)
    have hdepth := depth_le_depthOfFields hfield
    rw [depth] at h
    have hinside : inside? (outer + 1) ofJson? field.2 = ofJson? field.2 := if_pos (by omega)
    simp only [hinside]
  | _ => rfl

section Options

variable {options : List (CheckName × OptionValue)} (h : AreCanonical options)

include h

theorem AreCanonical.nodup_texts : (options.map fun e => e.1.text).Nodup := by
  have hnames : ((options.map Prod.fst).map CheckName.text).Nodup := by
    refine List.Nodup.map_on (fun a ha b hb heq => ?_) h.ascending.nodup_keys
    obtain ⟨x, hx, rfl⟩ := List.mem_map.mp ha
    obtain ⟨y, hy, rfl⟩ := List.mem_map.mp hb
    rw [← CheckName.ofText_text (h.names x hx), heq, CheckName.ofText_text (h.names y hy)]
  rwa [List.map_map] at hnames

/-- Options are read whatever their order. -/
theorem AreCanonical.entriesOfValue?_of_perm {fields : List (String × Json)}
    (hp : fields.Perm (options.map fun e => (e.1.text, e.2.toJson))) :
    entriesOfValue? (.object fields) = some options := by
  let write : CheckName × OptionValue → String × Json := fun e => (e.1.text, e.2.toJson)
  obtain ⟨reordered, rfl, hreordered⟩ :=
    (congrFun (congrFun (List.eq_map_comp_perm write) fields) options).mpr hp
  have hread : ∀ e ∈ reordered, (ofJson? (write e).2).map (CheckName.ofText (write e).1, ·) =
      some e := by
    intro e he
    have hmem := hreordered.subset he
    simp only [write, (h.values e hmem).ofJson?_toJson, CheckName.ofText_text (h.names e hmem),
      Option.map_some]
  rw [entriesOfValue?, entriesOf?, mapM_map_eq_self hread, Option.map_some,
    Entries.ofList_of_perm h.ascending hreordered]

theorem AreCanonical.entriesOfValue?_entriesToJson :
    entriesOfValue? (entriesToJson options) = some options :=
  h.entriesOfValue?_of_perm (.refl _)

theorem AreCanonical.entriesOfValue?_value :
    entriesOfValue? (entriesToJson options).value = some options := by
  have hvalues : fieldValues (options.map fun e => (e.1.text, e.2.toJson)) =
      options.map fun e => (e.1.text, e.2.toJson) := by
    rw [fieldValues_eq_map, List.map_map]
    exact List.map_congr_left fun e he => congrArg (e.1.text, ·) (h.values e he).value_toJson
  change entriesOfValue? (.object (Entries.ofList (fieldValues _))) = _
  rw [hvalues]
  refine h.entriesOfValue?_of_perm (Entries.ofList_perm ?_)
  rw [List.map_map]
  exact h.nodup_texts

end Options

end OptionValue

open Json OptionValue

namespace Policy

theorem ofValue?_of_perm {p : Policy} {options : Json}
    (ho : entriesOfValue? options = some p.options) {l : List (String × Json)}
    (hl : l.Perm [("name", .text p.name), ("oid", .text p.oid), ("options", options)]) :
    ofValue? (.object l) = some p := by
  have hd : ["name", "oid", "options"].Nodup := by decide
  have hrecord : record? ["name", "oid", "options"] (.object l) = some l :=
    record?_of_perm hl rfl hd
  rw [ofValue?, ofRecord?, hrecord]
  simp only [Option.bind_eq_bind, Option.bind_some, optional?_of_perm hl hd]
  simp [optional?, List.lookup_cons, Json.text?, ho]

/-- A policy that is not too deep for a text is read from it like any other. -/
theorem ofJson?_eq_ofValue? {j : Json} (h : j.depth ≤ maxDepth) : ofJson? j = ofValue? j := by
  unfold ofJson? ofValue? ofRecord?
  cases hrecord : record? ["name", "oid", "options"] j with
  | none => rfl
  | some fields =>
    have hoptions : optional? fields "options" [] (entriesOfJson? 1) =
        optional? fields "options" [] entriesOfValue? := by
      refine optional?_congr fun field hfield => entriesOfJson?_eq ?_
      have hinside := depth_lt_of_record? hrecord hfield
      omega
    simp only [Option.bind_eq_bind, Option.bind_some, hoptions]

/-- A policy is read back as it was written. -/
theorem ofValue?_toJson {p : Policy} (h : AreCanonical p.options) : ofValue? p.toJson = some p :=
  ofValue?_of_perm h.entriesOfValue?_entriesToJson (.refl _)

theorem ofValue?_value_toJson {p : Policy} (h : AreCanonical p.options) :
    ofValue? p.toJson.value = some p :=
  ofValue?_of_perm h.entriesOfValue?_value
    (Entries.ofList_perm (show ["name", "oid", "options"].Nodup by decide))

end Policy

namespace Constraint

/-- The status code is a number of 32 bits. -/
structure IsCanonical (c : Constraint) : Prop where
  allowedError : ∀ code ∈ c.allowedError, -0x80000000 ≤ code ∧ code < 0x80000000
  policyOptions : ∀ options ∈ c.policyOptions, AreCanonical options

/-- All fields of a constraint, whose options are written in some form. -/
def fieldsWith (c : Constraint) (options : Json) : List (String × Json) :=
  [ ("policy_oid", ofOption .text c.policyOid),
    ("policy_name", ofOption .text c.policyName),
    ("policy_string", ofOption .text c.policyText),
    ("key_usage", ofOption (fun n => .integer n.toNat) c.keyUse),
    ("application_requirement", ofOption .text c.requirement),
    ("allowed_error", ofOption .integer c.allowedError),
    ("result", ofOption (fun s => .text s.text) c.standing),
    ("policy_options", options) ]

theorem toJson_eq (c : Constraint) :
    c.toJson = .object (c.fieldsWith (ofOption entriesToJson c.policyOptions)) :=
  rfl

theorem value_toJson_eq (c : Constraint) :
    c.toJson.value =
      .object (Entries.ofList (c.fieldsWith (ofOption entriesToJson c.policyOptions).value)) := by
  have hscalar : ∀ {α : Type} {f : α → Json}, (∀ a, (f a).value = f a) →
      ∀ o, (ofOption f o).value = ofOption f o := by
    intro α f hf o
    cases o with
    | none => rfl
    | some a => exact hf a
  rw [toJson_eq, value, fieldsWith, fieldsWith]
  simp only [fieldValues, hscalar fun s : String => (rfl : (Json.text s).value = _),
    hscalar fun n : Int => (rfl : (Json.integer n).value = _),
    hscalar fun n : UInt32 => (rfl : (Json.integer n.toNat).value = _),
    hscalar fun s : Standing => (rfl : (Json.text s.text).value = _)]

/-- Nothing that is there is written as null. -/
theorem nullable?_ofOption {α : Type} {f : Json → Option α} {g : α → Json} {o : Option α}
    (h : ∀ a ∈ o, g a ≠ .null ∧ f (g a) = some a) : nullable? f (ofOption g o) = some o := by
  cases o with
  | none => rfl
  | some a =>
    obtain ⟨hnull, hread⟩ := h a rfl
    change nullable? f (g a) = _
    unfold nullable?
    split
    · rename_i heq
      exact absurd heq hnull
    · rw [hread, Option.map_some]

theorem ofValue?_of_perm {c : Constraint} (h : c.IsCanonical) {options : Json}
    (ho : nullable? entriesOfValue? options = some c.policyOptions) {l : List (String × Json)}
    (hl : l.Perm (c.fieldsWith options)) : ofValue? (.object l) = some c := by
  have hd : fieldNames.Nodup := by decide
  have hrecord : record? fieldNames (.object l) = some l := record?_of_perm hl rfl hd
  have htext : ∀ o : Option String, nullable? text? (ofOption .text o) = some o :=
    fun o => nullable?_ofOption fun s _ => ⟨nofun, rfl⟩
  have hword : nullable? word32? (ofOption (fun n => .integer n.toNat) c.keyUse) =
      some c.keyUse := by
    refine nullable?_ofOption fun n _ => ⟨nofun, ?_⟩
    have hlt := n.toNat_lt
    rw [word32?, Json.integer?, if_pos (by rw [UInt32.size]; omega)]
    simp
  have hcode : nullable? (Json.integer? (-0x80000000) 0x80000000)
      (ofOption .integer c.allowedError) = some c.allowedError :=
    nullable?_ofOption fun code hcode => ⟨nofun, if_pos (h.allowedError code hcode)⟩
  have hstanding : nullable? (choice? Standing.rows) (ofOption (fun s => .text s.text) c.standing) =
      some c.standing := by
    refine nullable?_ofOption fun s _ => ⟨nofun, ?_⟩
    cases s <;> rfl
  rw [ofValue?, ofRecord?, hrecord]
  simp only [Option.bind_eq_bind, Option.bind_some, absent?, optional?_of_perm hl hd]
  simp [optional?, fieldsWith, List.lookup_cons, htext, hword, hcode, hstanding, ho]

/-- A constraint that does not lie too deep in a text is read from it like any other. -/
theorem ofJson?_eq_ofValue? {outer : Nat} {j : Json} (h : outer + j.depth ≤ maxDepth) :
    ofJson? outer j = ofValue? j := by
  unfold ofJson? ofValue? ofRecord?
  cases hrecord : record? fieldNames j with
  | none => rfl
  | some fields =>
    have hoptions : absent? fields "policy_options" (entriesOfJson? (outer + 1)) =
        absent? fields "policy_options" entriesOfValue? := by
      refine optional?_congr fun field hfield => nullable?_congr (entriesOfJson?_eq ?_)
      have hinside := depth_lt_of_record? hrecord hfield
      omega
    simp only [Option.bind_eq_bind, Option.bind_some, hoptions]

/-- A constraint is read back as it was written. -/
theorem ofValue?_toJson {c : Constraint} (h : c.IsCanonical) : ofValue? c.toJson = some c := by
  rw [toJson_eq]
  refine ofValue?_of_perm h (nullable?_ofOption fun options ho => ?_) (.refl _)
  refine ⟨show Json.object _ ≠ _ from nofun, ?_⟩
  exact (h.policyOptions options ho).entriesOfValue?_entriesToJson

theorem ofValue?_value_toJson {c : Constraint} (h : c.IsCanonical) :
    ofValue? c.toJson.value = some c := by
  have hvalue : (ofOption entriesToJson c.policyOptions).value =
      ofOption (fun options => (entriesToJson options).value) c.policyOptions := by
    cases c.policyOptions <;> rfl
  rw [value_toJson_eq, hvalue]
  refine ofValue?_of_perm h (nullable?_ofOption fun options ho => ?_)
    (Entries.ofList_perm (show fieldNames.Nodup by decide))
  refine ⟨show Json.object _ ≠ _ from nofun, ?_⟩
  exact (h.policyOptions options ho).entriesOfValue?_value

end Constraint

/-- The name of a check is written as it was read. Option values, policies and constraints are read
back from what is written of them, at any depth, also after the fields have been sorted and those of
one key have become one. A text that is not too deep is read like the value that it writes. -/
theorem json_roundTrip :
    (∀ s : String, (CheckName.ofText s).text = s) ∧
    (∀ v : OptionValue, v.IsOrdered →
      OptionValue.ofJson? v.toJson = some v ∧ OptionValue.ofJson? v.toJson.value = some v) ∧
    (∀ p : Policy, AreCanonical p.options →
      Policy.ofValue? p.toJson = some p ∧ Policy.ofValue? p.toJson.value = some p) ∧
    (∀ c : Constraint, c.IsCanonical →
      Constraint.ofValue? c.toJson = some c ∧ Constraint.ofValue? c.toJson.value = some c) ∧
    ∀ j : Json, j.depth ≤ maxDepth →
      Policy.ofJson? j = Policy.ofValue? j ∧ Constraint.ofJson? 0 j = Constraint.ofValue? j := by
  refine ⟨CheckName.text_ofText, fun v h => ⟨h.ofJson?_toJson, ?_⟩, fun p h => ⟨?_, ?_⟩,
    fun c h => ⟨?_, ?_⟩, fun j h => ⟨?_, ?_⟩⟩
  · rw [h.value_toJson]
    exact h.ofJson?_toJson
  · exact Policy.ofValue?_toJson h
  · exact Policy.ofValue?_value_toJson h
  · exact Constraint.ofValue?_toJson h
  · exact Constraint.ofValue?_value_toJson h
  · exact Policy.ofJson?_eq_ofValue? h
  · exact Constraint.ofJson?_eq_ofValue? (by rwa [Nat.zero_add])

/-- A name that differs from that of a check by its case alone, and a list inside a dictionary. -/
theorem json_roundTrip_nested :
    let sizes := .dictionary [("EC", .integer 224), ("RSA", .array [.text "", .array []])]
    let p : Policy := ⟨"any", "", [(.known .keySize, sizes), (.other "keySize", .bool true)]⟩
    let c := { Constraint.empty with
      allowedError := some (-2147409654), standing := some .deny, policyOptions := some p.options }
    AreCanonical p.options ∧ Policy.ofValue? p.toJson.value = some p ∧
      c.IsCanonical ∧ Constraint.ofValue? c.toJson.value = some c := by
  intro sizes p c
  have hsizes : sizes.IsOrdered := by
    refine .dictionary (show List.Pairwise _ _ by decide) fun e he => ?_
    rcases List.mem_cons.mp he with rfl | he
    · exact .integer 224
    · obtain rfl := List.mem_singleton.mp he
      refine .array fun v hv => ?_
      rcases List.mem_cons.mp hv with rfl | hv
      · exact .text ""
      · obtain rfl := List.mem_singleton.mp hv
        exact .array nofun
  have hoptions : AreCanonical p.options := by
    refine ⟨show List.Pairwise _ _ by decide, fun e he => ?_, fun e he => ?_⟩
    · rcases List.mem_cons.mp he with rfl | he
      · trivial
      · obtain rfl := List.mem_singleton.mp he
        have hnone : ∀ check ∈ Check.all, check.text ≠ "keySize" := by decide +kernel
        exact fun check => hnone check check.mem_all
    · rcases List.mem_cons.mp he with rfl | he
      · exact hsizes
      · obtain rfl := List.mem_singleton.mp he
        exact .bool true
  have hconstraint : c.IsCanonical := by
    refine ⟨fun code hcode => ?_, fun options ho => ?_⟩
    · cases hcode
      decide
    · cases ho
      exact hoptions
  obtain ⟨-, -, hpolicy, hrest, -⟩ := json_roundTrip
  exact ⟨hoptions, (hpolicy p hoptions).2, hconstraint, (hrest c hconstraint).2⟩

end ChainTrust
