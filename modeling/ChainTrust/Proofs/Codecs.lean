import ChainTrust.Proofs.Elements

namespace ChainTrust.Der

variable {α β : Type}

/-- The value of some bytes, whatever follows them. -/
def Reader.Reads (r : Reader α) (a : α) : Prop :=
  ∃ s rest, r s = some (a, rest)

/-- A strict reader takes less than another, and only what is written. What is written for a value is
no longer than what it was read from, and is read again in front of anything that may come next. -/
structure Codec (r strict : Reader α) (w : α → Bytes) (next : Bytes → Prop) : Prop where
  sound {s rest : Bytes} {a : α} : strict s = some (a, rest) → r s = some (a, rest)
  written {s rest : Bytes} {a : α} : strict s = some (a, rest) → s = w a ++ rest
  again {a : α} {more : Bytes} : r.Reads a → next more → strict (w a ++ more) = some (a, more)
  shorter {s rest : Bytes} {a : α} : r s = some (a, rest) → (w a).length + rest.length ≤ s.length

/-- The same for the whole content of an element. -/
structure ContentCodec (p strict : Bytes → Option α) (w : α → Bytes) : Prop where
  sound {c : Bytes} {a : α} : strict c = some a → p c = some a
  written {c : Bytes} {a : α} : strict c = some a → c = w a
  again {c : Bytes} {a : α} : p c = some a → strict (w a) = some a
  shorter {c : Bytes} {a : α} : p c = some a → (w a).length ≤ c.length

namespace Reader

theorem bind_lift_eq_some_iff {r : Reader α} {p : α → Option β} {s rest : Bytes} {b : β} :
    (r >>= fun a => lift (p a)) s = some (b, rest) ↔ ∃ a, p a = some b ∧ r s = some (a, rest) := by
  simp only [bind_eq_some_iff, lift_eq_some_iff]
  constructor
  · rintro ⟨a, _, hr, hp, rfl⟩
    exact ⟨a, hp, hr⟩
  · rintro ⟨a, hp, hr⟩
    exact ⟨a, rest, hr, hp, rfl⟩

end Reader

namespace ContentCodec

open Reader

variable {p strict : Bytes → Option α} {w : α → Bytes}

/-- A value that is read from one content only is written back to it. -/
theorem of_written (h : ∀ c a, p c = some a → c = w a) : ContentCodec p p w where
  sound := fun hp => hp
  written := fun {c a} hp => h c a hp
  again := fun {c a} hp => by rwa [← h c a hp]
  shorter := fun {c a} hp => Nat.le_of_eq (congrArg List.length (h c a hp).symm)

theorem element (h : ContentCodec p strict w) (tag : UInt8) :
    Codec (do lift (p (← content tag))) (do lift (strict (← content tag)))
      (fun a => Der.element tag (w a)) (fun _ => True) := by
  constructor
  · intro s rest a hs
    obtain ⟨c, hstrict, hcontent⟩ := bind_lift_eq_some_iff.mp hs
    exact bind_lift_eq_some_iff.mpr ⟨c, h.sound hstrict, hcontent⟩
  · intro s rest a hs
    obtain ⟨c, hstrict, hcontent⟩ := bind_lift_eq_some_iff.mp hs
    rw [← h.written hstrict]
    exact (content_eq_some_iff.mp hcontent).2.2
  · intro a more hreads _
    obtain ⟨s, rest, hs⟩ := hreads
    obtain ⟨c, hp, hcontent⟩ := bind_lift_eq_some_iff.mp hs
    obtain ⟨htag, hbound, -⟩ := content_eq_some_iff.mp hcontent
    have hshorter := h.shorter hp
    exact bind_lift_eq_some_iff.mpr
      ⟨w a, h.again hp, content_eq_some_iff.mpr ⟨htag, by omega, rfl⟩⟩
  · intro s rest a hs
    obtain ⟨c, hp, hcontent⟩ := bind_lift_eq_some_iff.mp hs
    obtain ⟨-, -, rfl⟩ := content_eq_some_iff.mp hcontent
    rw [List.length_append]
    exact Nat.add_le_add_right (length_element_mono tag (h.shorter hp)) _

end ContentCodec

namespace Reader

/-- One reader after the other. -/
def pair (r : Reader α) (q : Reader β) : Reader (α × β) := do
  let a ← r
  return (a, ← q)

theorem pair_eq_some_iff {r : Reader α} {q : Reader β} {s rest : Bytes} {x : α × β} :
    pair r q s = some (x, rest) ↔ ∃ mid, r s = some (x.1, mid) ∧ q mid = some (x.2, rest) := by
  obtain ⟨a, b⟩ := x
  simp only [pair, bind_eq_some_iff, pure_eq_some_iff, Prod.mk.injEq]
  constructor
  · rintro ⟨_, mid, hr, _, _, hq, ⟨rfl, rfl⟩, rfl⟩
    exact ⟨mid, hr, hq⟩
  · rintro ⟨mid, hr, hq⟩
    exact ⟨a, mid, hr, b, rest, hq, ⟨rfl, rfl⟩, rfl⟩

theorem map_eq_some_iff {r : Reader α} {f : α → β} {s rest : Bytes} {b : β} :
    (f <$> r) s = some (b, rest) ↔ ∃ a, f a = b ∧ r s = some (a, rest) := by
  rw [map_eq_pure_bind]
  change (r >>= fun a => lift (some (f a))) s = some (b, rest) ↔ _
  simp only [bind_lift_eq_some_iff, Option.some.injEq]

/-- A part that is read if what comes next says so. -/
def ifNext (look : Reader Bool) (r : Reader α) : Reader (Option α) := do
  if ← look then return some (← r) else return none

theorem ifNext_eq_some_some_iff {look : Reader Bool} {r : Reader α} {s rest : Bytes} {a : α} :
    ifNext look r s = some (some a, rest) ↔
      ∃ mid, look s = some (true, mid) ∧ r mid = some (a, rest) := by
  simp only [ifNext, bind_eq_some_iff, Bool.exists_bool]
  simp [map_eq_some_iff, pure_eq_some_iff]

theorem ifNext_eq_some_none_iff {look : Reader Bool} {r : Reader α} {s rest : Bytes} :
    ifNext look r s = some (none, rest) ↔ look s = some (false, rest) := by
  simp only [ifNext, bind_eq_some_iff, Bool.exists_bool]
  simp [map_eq_some_iff, pure_eq_some_iff]

/-- A part that may be left out, and then has its default value. -/
def orDefault (default : α) (r : Reader (Option α)) : Reader α :=
  (·.getD default) <$> r

/-- A part that has to be left out if it has its default value. -/
def beyond [DecidableEq α] (default : α) (r : Reader (Option α)) : Reader α := do
  let a ← r
  guard (a ≠ some default)
  return a.getD default

theorem orDefault_eq_some_iff {default a : α} {r : Reader (Option α)} {s rest : Bytes} :
    orDefault default r s = some (a, rest) ↔ ∃ o, o.getD default = a ∧ r s = some (o, rest) :=
  map_eq_some_iff

theorem beyond_eq_some_iff [DecidableEq α] {default a : α} {r : Reader (Option α)} {s rest : Bytes} :
    beyond default r s = some (a, rest) ↔
      ∃ o, o ≠ some default ∧ o.getD default = a ∧ r s = some (o, rest) := by
  simp only [beyond, bind_eq_some_iff, guard_eq_some_iff, pure_eq_some_iff]
  constructor
  · rintro ⟨o, _, hr, _, _, ⟨hne, rfl⟩, ha, rfl⟩
    exact ⟨o, hne, ha, hr⟩
  · rintro ⟨o, hne, ha, hr⟩
    exact ⟨o, rest, hr, (), rest, ⟨hne, rfl⟩, ha, rfl⟩

end Reader

/-- A look at what comes next, and one that does not pass over anything for it. -/
structure Lookahead (look strict : Reader Bool) : Prop where
  sound {s rest : Bytes} {b : Bool} : strict s = some (b, rest) → look s = some (b, rest)
  still {s rest : Bytes} {b : Bool} : strict s = some (b, rest) → rest = s
  shorter {s rest : Bytes} {b : Bool} : look s = some (b, rest) → rest.length ≤ s.length

namespace Codec

open Reader

variable {r strict : Reader α} {w : α → Bytes} {next : Bytes → Prop}

theorem of_eq {w' : α → Bytes} (h : Codec r strict w next) (hw : ∀ a, w a = w' a) :
    Codec r strict w' next := by
  rwa [← funext hw]

theorem narrow (h : Codec r strict w next) (next' : Bytes → Prop) (hn : ∀ s, next' s → next s) :
    Codec r strict w next' :=
  ⟨h.sound, h.written, fun hreads hmore => h.again hreads (hn _ hmore), h.shorter⟩

/-- A reader that takes only what is written for a value is its own strict one. -/
theorem of_iff (good : α → Prop)
    (h : ∀ s rest a, r s = some (a, rest) ↔ good a ∧ s = w a ++ rest) : Codec r r w fun _ => True where
  sound := fun hr => hr
  written := fun hr => ((h _ _ _).mp hr).2
  again := by
    rintro a more ⟨s, rest, hr⟩ -
    exact (h _ _ _).mpr ⟨((h _ _ _).mp hr).1, rfl⟩
  shorter := by
    intro s rest a hr
    have hlength := congrArg List.length ((h _ _ _).mp hr).2
    rw [List.length_append] at hlength
    exact Nat.le_of_eq hlength.symm

theorem content (tag : UInt8) :
    Codec (Reader.content tag) (Reader.content tag) (element tag) fun _ => True :=
  of_iff (fun c => isTag tag = true ∧ c.length < lengthBound) fun s rest c => by
    rw [content_eq_some_iff, and_assoc]

theorem anyElement :
    Codec Reader.anyElement Reader.anyElement (fun x => element x.1 x.2) fun _ => True :=
  of_iff (fun x => isTag x.1 = true ∧ x.2.length < lengthBound) fun s rest x => by
    rw [anyElement_eq_some_iff, and_assoc]

/-- What is read is looked at once more, and stands for something else that is written the same. -/
theorem filterMap (h : Codec r strict w next) (p : α → Option β) {w' : β → Bytes}
    (hw : ∀ a b, p a = some b → w' b = w a) :
    Codec (do lift (p (← r))) (do lift (p (← strict))) w' next := by
  constructor
  · intro s rest b hs
    obtain ⟨a, hp, hstrict⟩ := bind_lift_eq_some_iff.mp hs
    exact bind_lift_eq_some_iff.mpr ⟨a, hp, h.sound hstrict⟩
  · intro s rest b hs
    obtain ⟨a, hp, hstrict⟩ := bind_lift_eq_some_iff.mp hs
    rw [hw a b hp, ← h.written hstrict]
  · intro b more hreads hmore
    obtain ⟨s, rest, hs⟩ := hreads
    obtain ⟨a, hp, hr⟩ := bind_lift_eq_some_iff.mp hs
    rw [hw a b hp]
    exact bind_lift_eq_some_iff.mpr ⟨a, hp, h.again ⟨s, rest, hr⟩ hmore⟩
  · intro s rest b hs
    obtain ⟨a, hp, hr⟩ := bind_lift_eq_some_iff.mp hs
    rw [hw a b hp]
    exact h.shorter hr

theorem map (h : Codec r strict w next) (f : α → β) {w' : β → Bytes} (hw : ∀ a, w' (f a) = w a) :
    Codec (f <$> r) (f <$> strict) w' next := by
  rw [map_eq_pure_bind, map_eq_pure_bind]
  refine h.filterMap (fun a => some (f a)) fun a b hp => ?_
  rw [← Option.some.inj hp, hw]

theorem pair {q strict' : Reader β} {w' : β → Bytes} {next' : Bytes → Prop}
    (h : Codec r strict w next) (h' : Codec q strict' w' next')
    (hnext : ∀ b more, q.Reads b → next' more → next (w' b ++ more)) :
    Codec (Reader.pair r q) (Reader.pair strict strict') (fun x => w x.1 ++ w' x.2) next' := by
  constructor
  · intro s rest x hs
    obtain ⟨mid, hstrict, hstrict'⟩ := pair_eq_some_iff.mp hs
    exact pair_eq_some_iff.mpr ⟨mid, h.sound hstrict, h'.sound hstrict'⟩
  · intro s rest x hs
    obtain ⟨mid, hstrict, hstrict'⟩ := pair_eq_some_iff.mp hs
    rw [List.append_assoc, ← h'.written hstrict', ← h.written hstrict]
  · intro x more hreads hmore
    obtain ⟨s, rest, hs⟩ := hreads
    obtain ⟨mid, hr, hq⟩ := pair_eq_some_iff.mp hs
    have hq' : q.Reads x.2 := ⟨mid, rest, hq⟩
    rw [List.append_assoc]
    exact pair_eq_some_iff.mpr
      ⟨w' x.2 ++ more, h.again ⟨s, mid, hr⟩ (hnext x.2 more hq' hmore), h'.again hq' hmore⟩
  · intro s rest x hs
    obtain ⟨mid, hr, hq⟩ := pair_eq_some_iff.mp hs
    have hfirst := h.shorter hr
    have hsecond := h'.shorter hq
    rw [List.length_append]
    omega

theorem ifNext {look lookStrict : Reader Bool} (h : Codec r strict w fun _ => True)
    (hlook : Lookahead look lookStrict)
    (hfound : ∀ a more, r.Reads a → lookStrict (w a ++ more) = some (true, w a ++ more)) :
    Codec (Reader.ifNext look r) (Reader.ifNext lookStrict strict) (fun o => (o.map w).getD [])
      (fun more => lookStrict more = some (false, more)) := by
  constructor
  · intro s rest o hs
    cases o with
    | none => exact ifNext_eq_some_none_iff.mpr (hlook.sound (ifNext_eq_some_none_iff.mp hs))
    | some a =>
      obtain ⟨mid, hmid, hstrict⟩ := ifNext_eq_some_some_iff.mp hs
      exact ifNext_eq_some_some_iff.mpr ⟨mid, hlook.sound hmid, h.sound hstrict⟩
  · intro s rest o hs
    cases o with
    | none => exact (hlook.still (ifNext_eq_some_none_iff.mp hs)).symm
    | some a =>
      obtain ⟨mid, hmid, hstrict⟩ := ifNext_eq_some_some_iff.mp hs
      rw [← hlook.still hmid]
      exact h.written hstrict
  · intro o more hreads hmore
    cases o with
    | none => exact ifNext_eq_some_none_iff.mpr hmore
    | some a =>
      obtain ⟨s, rest, hs⟩ := hreads
      obtain ⟨mid, -, hr⟩ := ifNext_eq_some_some_iff.mp hs
      have ha : r.Reads a := ⟨mid, rest, hr⟩
      exact ifNext_eq_some_some_iff.mpr ⟨w a ++ more, hfound a more ha, h.again ha trivial⟩
  · intro s rest o hs
    cases o with
    | none =>
      have hrest := hlook.shorter (ifNext_eq_some_none_iff.mp hs)
      simpa using hrest
    | some a =>
      obtain ⟨mid, hmid, hr⟩ := ifNext_eq_some_some_iff.mp hs
      exact Nat.le_trans (h.shorter hr) (hlook.shorter hmid)

theorem orDefault [DecidableEq α] {r strict : Reader (Option α)} (default : α)
    (h : Codec r strict (fun o => (o.map w).getD []) next) (hnone : r.Reads none) :
    Codec (Reader.orDefault default r) (Reader.beyond default strict)
      (fun a => if a = default then [] else w a) next := by
  constructor
  · intro s rest a hs
    obtain ⟨o, -, ha, hstrict⟩ := beyond_eq_some_iff.mp hs
    exact orDefault_eq_some_iff.mpr ⟨o, ha, h.sound hstrict⟩
  · intro s rest a hs
    obtain ⟨o, hne, rfl, hstrict⟩ := beyond_eq_some_iff.mp hs
    have hwritten := h.written hstrict
    cases o with
    | none => simpa using hwritten
    | some a =>
      have ha : a ≠ default := fun heq => hne (congrArg some heq)
      simpa [ha] using hwritten
  · intro a more hreads hmore
    obtain ⟨s, rest, hs⟩ := hreads
    obtain ⟨o, hgetD, hr⟩ := orDefault_eq_some_iff.mp hs
    by_cases ha : a = default
    · -- a default that was written is left out now
      rw [if_pos ha]
      exact beyond_eq_some_iff.mpr ⟨none, nofun, ha.symm, h.again hnone hmore⟩
    · have ho : o = some a := by
        cases o with
        | none => exact absurd hgetD.symm ha
        | some b => exact congrArg some hgetD
      rw [if_neg ha]
      rw [ho] at hr
      exact beyond_eq_some_iff.mpr
        ⟨some a, fun heq => ha (Option.some.inj heq), rfl, h.again ⟨s, rest, hr⟩ hmore⟩
  · intro s rest a hs
    obtain ⟨o, rfl, hr⟩ := orDefault_eq_some_iff.mp hs
    have hshorter := h.shorter hr
    cases o with
    | none => simpa using hshorter
    | some a =>
      rw [Option.map_some, Option.getD_some] at hshorter
      rw [Option.getD_some]
      split
      · rw [List.length_nil]
        omega
      · exact hshorter

theorem all (h : Codec r strict w next) (hnil : next []) :
    ContentCodec (Reader.all r) (Reader.all strict) w := by
  constructor
  · intro c a hc
    exact all_eq_some_iff.mpr (h.sound (all_eq_some_iff.mp hc))
  · intro c a hc
    have hwritten := h.written (all_eq_some_iff.mp hc)
    rwa [List.append_nil] at hwritten
  · intro c a hc
    have hagain := h.again ⟨c, [], all_eq_some_iff.mp hc⟩ hnil
    rw [List.append_nil] at hagain
    exact all_eq_some_iff.mpr hagain
  · intro c a hc
    exact h.shorter (all_eq_some_iff.mp hc)

theorem sequence (h : Codec r strict w next) (hnil : next []) :
    Codec (Reader.sequence r) (Reader.sequence strict) (fun a => element Tag.sequence (w a))
      (fun _ => True) :=
  (h.all hnil).element Tag.sequence

end Codec

namespace Reader

theorem sequence_map (f : α → β) (r : Reader α) : sequence (f <$> r) = f <$> sequence r := by
  have hall : ∀ c, all (f <$> r) c = (all r c).map f := by
    intro c
    ext b
    simp only [all_eq_some_iff, map_eq_some_iff, Option.map_eq_some_iff, and_comm]
  simp only [sequence, holder, hall, lift_map]
  rw [map_eq_pure_bind, bind_assoc]

end Reader

/-- The parts of something, one after the other in a sequence. -/
theorem Codec.record {r strict : Reader α} {w : α → Bytes} {w' : β → Bytes} {next : Bytes → Prop}
    (h : Codec r strict w next) (hnil : next []) (f : α → β)
    (hw : ∀ a, w' (f a) = element Tag.sequence (w a)) :
    Codec (Reader.sequence (f <$> r)) (Reader.sequence (f <$> strict)) w' fun _ => True := by
  rw [Reader.sequence_map, Reader.sequence_map]
  exact (h.sequence hnil).map f hw

namespace Reader

theorem items_eq_some_nil_iff {r : Reader α} {s : Bytes} : items r s = some [] ↔ s = [] := by
  rw [items]
  split
  · rename_i h
    simp [List.isEmpty_iff.mp h]
  · rename_i h
    constructor
    · intro hitems
      simp only [Option.bind_eq_bind, Option.bind_eq_some_iff] at hitems
      obtain ⟨⟨a, rest⟩, -, hitems⟩ := hitems
      split at hitems
      · simp [Option.bind_eq_some_iff] at hitems
      · cases hitems
    · intro hnil
      exact absurd (List.isEmpty_iff.mpr hnil) h

theorem items_eq_some_cons_iff {r : Reader α} {s : Bytes} {a : α} {as : List α} :
    items r s = some (a :: as) ↔
      ∃ rest, r s = some (a, rest) ∧ rest.length < s.length ∧ items r rest = some as := by
  rw [items]
  split
  · rename_i h
    simp [List.isEmpty_iff.mp h]
  · simp only [Option.bind_eq_bind, Option.bind_eq_some_iff, Prod.exists]
    constructor
    · rintro ⟨b, rest, hr, hitems⟩
      split at hitems
      · rename_i hlt
        simp only [Option.bind_eq_some_iff, pure, Option.some.injEq, List.cons.injEq] at hitems
        obtain ⟨_, hrest, rfl, rfl⟩ := hitems
        exact ⟨rest, hr, hlt, hrest⟩
      · cases hitems
    · rintro ⟨rest, hr, hlt, hrest⟩
      exact ⟨a, rest, hr, by simp [hlt, hrest]⟩

theorem reads_of_items {r : Reader α} {s : Bytes} {as : List α} (h : items r s = some as) :
    ∀ a ∈ as, r.Reads a := by
  induction as generalizing s with
  | nil => simp
  | cons a as ih =>
    obtain ⟨rest, hr, -, hrest⟩ := items_eq_some_cons_iff.mp h
    exact List.forall_mem_cons.mpr ⟨⟨s, rest, hr⟩, ih hrest⟩

end Reader

namespace Codec

open Reader

variable {r strict : Reader α} {w : α → Bytes}

/-- Items that can be read are read again, in whatever order they are written. -/
theorem items_again (h : Codec r strict w fun _ => True) (hw : ∀ a, w a ≠ []) {as : List α}
    (hreads : ∀ a ∈ as, r.Reads a) : Reader.items strict (as.map w).flatten = some as := by
  induction as with
  | nil => exact items_eq_some_nil_iff.mpr rfl
  | cons a as ih =>
    obtain ⟨ha, has⟩ := List.forall_mem_cons.mp hreads
    refine items_eq_some_cons_iff.mpr ⟨_, h.again ha trivial, ?_, ih has⟩
    have hpos := List.length_pos_iff.mpr (hw a)
    rw [List.map_cons, List.flatten_cons, List.length_append]
    omega

theorem items_shorter (h : Codec r strict w fun _ => True) {s : Bytes} {as : List α}
    (hs : Reader.items r s = some as) : (as.map w).flatten.length ≤ s.length := by
  induction as generalizing s with
  | nil => exact Nat.zero_le _
  | cons a as ih =>
    obtain ⟨rest, hr, -, hrest⟩ := items_eq_some_cons_iff.mp hs
    have hfirst := h.shorter hr
    have hothers := ih hrest
    rw [List.map_cons, List.flatten_cons, List.length_append]
    omega

theorem items (h : Codec r strict w fun _ => True) (hw : ∀ a, w a ≠ []) :
    ContentCodec (Reader.items r) (Reader.items strict) (fun as => (as.map w).flatten) := by
  constructor
  · intro c as hc
    induction as generalizing c with
    | nil => exact items_eq_some_nil_iff.mpr (items_eq_some_nil_iff.mp hc)
    | cons a as ih =>
      obtain ⟨rest, hstrict, hlt, hrest⟩ := items_eq_some_cons_iff.mp hc
      exact items_eq_some_cons_iff.mpr ⟨rest, h.sound hstrict, hlt, ih hrest⟩
  · intro c as hc
    induction as generalizing c with
    | nil => exact items_eq_some_nil_iff.mp hc
    | cons a as ih =>
      obtain ⟨rest, hstrict, -, hrest⟩ := items_eq_some_cons_iff.mp hc
      rw [h.written hstrict, ih hrest, List.map_cons, List.flatten_cons]
  · intro c as hc
    exact h.items_again hw (reads_of_items hc)
  · intro c as hc
    exact h.items_shorter hc

theorem sequenceOf (h : Codec r strict w fun _ => True) (hw : ∀ a, w a ≠ []) :
    Codec (Reader.sequenceOf r) (Reader.sequenceOf strict) (fun as => Der.sequence (as.map w))
      (fun _ => True) :=
  (h.items hw).element Tag.sequence

end Codec
end ChainTrust.Der
