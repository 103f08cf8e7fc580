import ChainTrust.Proofs.Repetition

namespace ChainTrust

namespace AnchorTable

/-- The table after anchors were added one by one. -/
def ofAdded (added : List Anchor) : AnchorTable :=
  added.foldl add []

/-- The anchor was added for a digest, and none for the same digest after it. -/
def IsLatest (added : List Anchor) (sha1 : Bytes) (a : Anchor) : Prop :=
  a.sha1 = sha1 ∧ ∃ before after, added = before ++ a :: after ∧ ∀ b ∈ after, b.sha1 ≠ sha1

/-- The anchor is the latest for a digest in the first list that has any for it. -/
def IsDecisive (lists : List (List Anchor)) (sha1 : Bytes) (a : Anchor) : Prop :=
  ∃ earlier added later, lists = earlier ++ added :: later ∧
    (∀ other ∈ earlier, ∀ b ∈ other, b.sha1 ≠ sha1) ∧ IsLatest added sha1 a

variable {added : List Anchor} {sha1 : Bytes} {a : Anchor}

theorem find?_filter_ne {a : Anchor} (ha : a.sha1 ≠ sha1) (t : List Anchor) :
    (t.filter (·.sha1 != a.sha1)).find? (·.sha1 == sha1) = t.find? (·.sha1 == sha1) := by
  rw [List.find?_filter]
  congr 1
  funext b
  by_cases hb : b.sha1 = sha1
  · simp [hb, Ne.symm ha]
  · simp [hb]

theorem find?_add (t : AnchorTable) (a : Anchor) (sha1 : Bytes) :
    (t.add a).find? sha1 = if a.sha1 = sha1 then some a else t.find? sha1 := by
  change List.find? (·.sha1 == sha1) (List.filter (·.sha1 != a.sha1) t ++ [a]) = _
  rw [List.find?_append]
  split
  · rename_i ha
    have hnone : (List.filter (·.sha1 != a.sha1) t).find? (·.sha1 == sha1) = none := by
      refine List.find?_eq_none.mpr fun b hb => ?_
      simpa [ha] using (List.mem_filter.mp hb).2
    rw [hnone]
    simp [ha]
  · rename_i ha
    rw [find?_filter_ne ha]
    simp [ha, find?]

/-- An anchor takes the place of those that were added for its digest before. -/
theorem find?_foldl_add (added : List Anchor) (t : AnchorTable) (sha1 : Bytes) :
    (added.foldl add t).find? sha1 = (added.reverse.find? (·.sha1 == sha1)).or (t.find? sha1) := by
  induction added generalizing t with
  | nil => rfl
  | cons a added ih =>
    rw [List.foldl_cons, ih, find?_add, List.reverse_cons, List.find?_append, Option.or_assoc]
    congr 1
    by_cases ha : a.sha1 = sha1 <;> simp [ha]

theorem find?_ofAdded (added : List Anchor) (sha1 : Bytes) :
    (ofAdded added).find? sha1 = added.reverse.find? (·.sha1 == sha1) := by
  rw [ofAdded, find?_foldl_add]
  exact Option.or_none

theorem find?_ofAdded_eq_some_iff :
    (ofAdded added).find? sha1 = some a ↔ IsLatest added sha1 a := by
  rw [find?_ofAdded, List.find?_eq_some_iff_append, beq_iff_eq]
  refine and_congr_right fun _ => ?_
  constructor
  · intro h
    obtain ⟨after, before, hreverse, hafter⟩ := h
    refine ⟨before.reverse, after.reverse, ?_, fun b hb => ?_⟩
    · simpa using List.reverse_eq_append_iff.mp hreverse
    · simpa using hafter b (List.mem_reverse.mp hb)
  · intro h
    obtain ⟨before, after, rfl, hafter⟩ := h
    refine ⟨after.reverse, before.reverse, by simp, fun b hb => ?_⟩
    simpa using hafter b (List.mem_reverse.mp hb)

theorem find?_ofAdded_eq_none_iff :
    (ofAdded added).find? sha1 = none ↔ ∀ a ∈ added, a.sha1 ≠ sha1 := by
  simp [find?_ofAdded]

/-- The tables that hold the anchors of several lists. -/
def sources (lists : List (List Anchor)) : List AnchorSource :=
  lists.map fun added => (ofAdded added).source

theorem isAnchor_source_ofAdded {c : Facts} :
    (ofAdded added).source.isAnchor c = true ↔ ∃ a ∈ added, a.sha1 = c.sha1 := by
  change ((ofAdded added).find? c.sha1).isSome = true ↔ _
  rw [← Option.ne_none_iff_isSome, ne_eq, find?_ofAdded_eq_none_iff]
  simp

/-- The source that decides about a certificate knows what the decisive anchor says. -/
theorem find?_sources_eq_some {lists : List (List Anchor)} {c : Facts} {s : AnchorSource}
    (h : (sources lists).find? (·.isAnchor c) = some s) :
    ∃ a, IsDecisive lists c.sha1 a ∧ s.store c = some a.store ∧ s.constraints c = a.constraints := by
  rw [sources, List.find?_map, Option.map_eq_some_iff] at h
  obtain ⟨added, hfind, rfl⟩ := h
  obtain ⟨hanchor, earlier, later, rfl, hearlier⟩ := List.find?_eq_some_iff_append.mp hfind
  obtain ⟨a, ha⟩ :=
    Option.isSome_iff_exists.mp (show ((ofAdded added).find? c.sha1).isSome from hanchor)
  refine ⟨a, ⟨earlier, added, later, rfl, ?_, find?_ofAdded_eq_some_iff.mp ha⟩, ?_, ?_⟩
  · intro other hother b hb hsha1
    have hnot := hearlier other hother
    simp only [Function.comp_apply, Bool.not_eq_true'] at hnot
    rw [isAnchor_source_ofAdded.mpr ⟨b, hb, hsha1⟩] at hnot
    cases hnot
  · simp [source, ha]
  · simp [source, ha]

theorem find?_sources_eq_none {lists : List (List Anchor)} {c : Facts} :
    (sources lists).find? (·.isAnchor c) = none ↔ ∀ added ∈ lists, ∀ a ∈ added, a.sha1 ≠ c.sha1 := by
  rw [sources, List.find?_map, Option.map_eq_none_iff, List.find?_eq_none]
  simp only [Function.comp_apply, isAnchor_source_ofAdded, not_exists, not_and, ne_eq]

end AnchorTable

namespace Path

variable {p : Path} {s : AnchorSource} {sources : List AnchorSource} {c : Facts} {ix : Nat}

theorem constraintsAt_applySource (h : p.certificate? ix = some c) :
    (p.applySource s).constraintsAt ix =
      if p.isNewAnchor s c ix then s.constraints c else p.constraintsAt ix := by
  change ((p.places.map _)[ix]?).getD [] = _
  rw [List.getElem?_map, places_getElem?, h]
  rfl

/-- Nothing is learnt of a certificate whose store is known. -/
theorem foldl_applySource_of_known (sources : List AnchorSource) (h : p.certificate? ix = some c)
    (hstore : (p.storeAt ix).isSome = true) :
    (sources.foldl applySource p).storeAt ix = p.storeAt ix ∧
      (sources.foldl applySource p).constraintsAt ix = p.constraintsAt ix := by
  induction sources generalizing p with
  | nil => exact ⟨rfl, rfl⟩
  | cons s sources ih =>
    have hnew : p.isNewAnchor s c ix = false := by
      rw [isNewAnchor, Option.isNone_eq_false_iff.mpr hstore, Bool.false_and]
    have hs : (p.applySource s).storeAt ix = p.storeAt ix := by
      rw [storeAt_applySource h, hnew]
      rfl
    have hc : (p.applySource s).constraintsAt ix = p.constraintsAt ix := by
      rw [constraintsAt_applySource h, hnew]
      rfl
    rw [List.foldl_cons, ← hs, ← hc]
    exact ih h (hs ▸ hstore)

/-- Of a certificate whose store is not known, the first source that recognizes it tells. -/
theorem foldl_applySource_of_unknown (hsources : ∀ s ∈ sources, s.NamesStores)
    (h : p.certificate? ix = some c) (hstore : p.storeAt ix = none) :
    (sources.foldl applySource p).storeAt ix =
        (sources.find? (·.isAnchor c)).bind (·.store c) ∧
      (sources.foldl applySource p).constraintsAt ix =
        ((sources.find? (·.isAnchor c)).map (·.constraints c)).getD (p.constraintsAt ix) := by
  induction sources generalizing p with
  | nil => exact ⟨hstore, rfl⟩
  | cons s sources ih =>
    have hnew : p.isNewAnchor s c ix = s.isAnchor c := by
      rw [isNewAnchor, hstore]
      rfl
    have hs := storeAt_applySource h (s := s)
    have hc := constraintsAt_applySource h (s := s)
    have hcert : (p.applySource s).certificate? ix = some c := h
    rw [hnew] at hs hc
    cases hanchor : s.isAnchor c with
    | true =>
      rw [hanchor, if_pos rfl] at hs hc
      have hknown : ((p.applySource s).storeAt ix).isSome = true := by
        rw [hs]
        exact hsources s List.mem_cons_self c hanchor
      obtain ⟨hq, hq'⟩ := foldl_applySource_of_known sources hcert hknown
      simp only [List.foldl_cons, List.find?_cons, hanchor, hq, hq', hs, hc, Option.bind_some,
        Option.map_some, Option.getD_some, and_self]
    | false =>
      rw [hanchor, if_neg Bool.false_ne_true] at hs hc
      have hsources' : ∀ t ∈ sources, t.NamesStores :=
        fun t ht => hsources t (List.mem_cons_of_mem s ht)
      obtain ⟨hq, hq'⟩ := ih hsources' hcert (hs.trans hstore)
      simp only [List.foldl_cons, List.find?_cons, hanchor, hq, hq', hc, and_self]

theorem storeAt_eq_none_of_applySource (h : p.certificate? ix = some c)
    (hnone : (p.applySource s).storeAt ix = none) : p.storeAt ix = none := by
  rw [storeAt_applySource h] at hnone
  split at hnone
  · rename_i hnew
    exact Option.isNone_iff_eq_none.mp (Bool.and_eq_true_iff.mp hnew).1
  · exact hnone

theorem isAnchored_applySource :
    (p.applySource s).isAnchored = true ↔ p.isAnchored = true ∨
      ∃ c, p.root? = some c ∧ p.storeAt (p.length - 1) = none ∧ s.isAnchor c = true := by
  simp [applySource, isNewAnchor, Option.any_eq_true]

/-- A path becomes anchored if some source recognizes its last certificate, the store of which was
not known. -/
theorem isAnchored_foldl_applySource :
    (sources.foldl applySource p).isAnchored = true ↔ p.isAnchored = true ∨
      ∃ c, p.root? = some c ∧ p.storeAt (p.length - 1) = none ∧
        ∃ s ∈ sources, s.isAnchor c = true := by
  induction sources generalizing p with
  | nil => simp
  | cons s sources ih =>
    rw [List.foldl_cons, ih, isAnchored_applySource, or_assoc]
    refine or_congr_right ?_
    constructor
    · intro h
      rcases h with ⟨c, hc, hnone, hs⟩ | ⟨c, hc, hnone, t, ht, hanchor⟩
      · exact ⟨c, hc, hnone, s, List.mem_cons_self, hs⟩
      · have hlast : p.certificate? (p.length - 1) = some c := (root?_eq_certificate? p).symm.trans hc
        exact ⟨c, hc, storeAt_eq_none_of_applySource hlast hnone, t, List.mem_cons_of_mem s ht,
          hanchor⟩
    · intro h
      obtain ⟨c, hc, hnone, t, ht, hanchor⟩ := h
      have hlast : p.certificate? (p.length - 1) = some c := (root?_eq_certificate? p).symm.trans hc
      cases hs : s.isAnchor c with
      | true => exact .inl ⟨c, hc, hnone, hs⟩
      | false =>
        have hstore : (p.applySource s).storeAt (p.length - 1) = none := by
          rw [storeAt_applySource hlast, isNewAnchor, hs, Bool.and_false]
          exact hnone
        rcases List.mem_cons.mp ht with rfl | ht
        · rw [hs] at hanchor
          cases hanchor
        · exact .inr ⟨c, hc, hstore, t, ht, hanchor⟩

/-- There are as many constraints and stores as certificates, and nothing but these and the anchoring
is not as it was. -/
structure IsAnchoringOf (p q : Path) : Prop where
  constraints_length : q.constraints.length = p.length
  stores_length : q.stores.length = p.length
  others_eq : { q with
    constraints := p.constraints, stores := p.stores, isAnchored := p.isAnchored } = p

theorem IsAnchoringOf.applySource {q : Path} (h : p.IsAnchoringOf q) (s : AnchorSource) :
    p.IsAnchoringOf (q.applySource s) := by
  have hsame := congrArg certificates h.others_eq
  have hlength : q.certificates.length = p.length := congrArg List.length hsame
  refine ⟨?_, ?_, h.others_eq⟩
  · simpa [Path.applySource, places] using hlength
  · simpa [Path.applySource, places] using hlength

theorem IsAnchoringOf.foldl {q : Path} (h : p.IsAnchoringOf q) (sources : List AnchorSource) :
    p.IsAnchoringOf (sources.foldl Path.applySource q) := by
  induction sources generalizing q with
  | nil => exact h
  | cons s sources ih => exact ih (h.applySource s)

theorem storeAt_ofCertificates (certificates : List Facts) (ix : Nat) :
    (ofCertificates certificates).storeAt ix = none := by
  change ((certificates.map fun _ => none)[ix]?).join = none
  rw [List.getElem?_map]
  cases certificates[ix]? <;> rfl

theorem constraintsAt_ofCertificates (certificates : List Facts) (ix : Nat) :
    (ofCertificates certificates).constraintsAt ix = [] := by
  change ((certificates.map fun _ => [])[ix]?).getD [] = []
  rw [List.getElem?_map]
  cases certificates[ix]? <;> rfl

theorem isAnchoringOf_ofCertificates (certificates : List Facts) :
    (ofCertificates certificates).IsAnchoringOf (ofCertificates certificates) :=
  ⟨List.length_map _, List.length_map _, rfl⟩

end Path

namespace AnchorTable

theorem sources_namesStores (lists : List (List Anchor)) : ∀ s ∈ sources lists, s.NamesStores := by
  intro s hs
  obtain ⟨added, -, rfl⟩ := List.mem_map.mp hs
  exact (ofAdded added).source_namesStores

end AnchorTable

/-- The first list of anchors that has any for a certificate decides about it, by the anchor that was
added last, whatever the lists and the certificates repeat. -/
theorem applySources_decisive (env : Environment) (lists : List (List Anchor))
    (certificates : List Facts) :
    let anchored := { env with anchorSources := AnchorTable.sources lists }
    let p := Path.ofCertificates certificates
    let q := anchored.applySources p
    (∀ ix c, certificates[ix]? = some c →
      (∃ a, AnchorTable.IsDecisive lists c.sha1 a ∧ q.storeAt ix = some a.store ∧
        q.constraintsAt ix = a.constraints) ∨
      (∀ added ∈ lists, ∀ a ∈ added, a.sha1 ≠ c.sha1) ∧ q.storeAt ix = none ∧
        q.constraintsAt ix = []) ∧
    (q.isAnchored = true ↔ ∃ c, certificates.getLast? = some c ∧
      ∃ added ∈ lists, ∃ a ∈ added, a.sha1 = c.sha1) ∧
    p.IsAnchoringOf q ∧ anchored.applySources q = q := by
  intro anchored p q
  refine ⟨fun ix c hc => ?_, ?_, ?_, ?_⟩
  · have hcert : p.certificate? ix = some c := hc
    obtain ⟨hstore, hconstraints⟩ := Path.foldl_applySource_of_unknown
      (AnchorTable.sources_namesStores lists) hcert
      (Path.storeAt_ofCertificates certificates ix)
    have hq : q = (AnchorTable.sources lists).foldl Path.applySource p := rfl
    rw [hq, hstore, hconstraints]
    cases hfind : (AnchorTable.sources lists).find? (·.isAnchor c) with
    | none =>
      refine .inr ⟨AnchorTable.find?_sources_eq_none.mp hfind, rfl, ?_⟩
      exact Path.constraintsAt_ofCertificates certificates ix
    | some s =>
      obtain ⟨a, hdecisive, hs, hcs⟩ := AnchorTable.find?_sources_eq_some hfind
      exact .inl ⟨a, hdecisive, hs, hcs⟩
  · have hnot : p.isAnchored ≠ true := Bool.false_ne_true
    change ((AnchorTable.sources lists).foldl Path.applySource p).isAnchored = true ↔ _
    rw [Path.isAnchored_foldl_applySource, or_iff_right hnot]
    refine exists_congr fun c => and_congr_right fun _ => ?_
    rw [Path.storeAt_ofCertificates, eq_self_iff_true, true_and]
    simp [AnchorTable.sources, AnchorTable.isAnchor_source_ofAdded]
  · exact (Path.isAnchoringOf_ofCertificates certificates).foldl _
  · exact Path.foldl_applySource_eq (Path.isSettled_foldl (AnchorTable.sources_namesStores lists) p)

/-- Lists that have a digest in common, which the first of them has twice. -/
def overlappingAnchors : List (List Anchor) :=
  [[⟨[1], .system, []⟩, ⟨[1], .admin, []⟩], [⟨[2], .user, []⟩, ⟨[1], .user, []⟩]]

/-- A certificate that occurs once more at the end is an anchor of the first list both times. -/
theorem applySources_decisive_overlapping :
    let sources := AnchorTable.sources overlappingAnchors
    let q := { Environment.empty with anchorSources := sources }.applySources
      (.ofCertificates [.plain [1], .plain [2], .plain [1]])
    q.isAnchored = true ∧ ∃ a, AnchorTable.IsDecisive overlappingAnchors [1] a ∧
      q.storeAt 2 = some a.store ∧ q.constraintsAt 2 = a.constraints := by
  intro sources q
  obtain ⟨hstores, hanchored, -⟩ := applySources_decisive .empty overlappingAnchors
    [.plain [1], .plain [2], .plain [1]]
  have hfirst : (⟨[1], .system, []⟩ : Anchor) ∈ [⟨[1], .system, []⟩, ⟨[1], .admin, []⟩] :=
    List.mem_cons_self
  constructor
  · exact hanchored.mpr ⟨.plain [1], rfl, _, List.mem_cons_self, _, hfirst, rfl⟩
  · exact (hstores 2 (.plain [1]) rfl).resolve_right fun h => h.1 _ List.mem_cons_self _ hfirst rfl

end ChainTrust
