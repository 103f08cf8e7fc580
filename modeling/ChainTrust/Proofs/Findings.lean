import ChainTrust.Proofs.Walk

namespace ChainTrust

theorem Finding.mem_violatedIf {b : Bool} {check : Check} {ix : Nat} {f : Finding} :
    f ∈ violatedIf b check ix ↔ b = true ∧ f = .violated check ix := by
  cases b <;> simp [violatedIf]

namespace Processing

/-- The scope in which a certificate is processed. -/
def scopeAt (r : Request) (p : Path) (ix : Nat) : Scope :=
  (Scope.initial (processedCount r p)).belowAll (above p (processedCount r p) ix)

/-- What is found in every path, one case for each thing that is looked at. -/
inductive Found (r : Request) (p : Path) : Finding → Prop where
  | unlinked {ix : Nat} {child parent : Facts} (hc : p.certificate? ix = some child)
      (hp : p.certificate? (ix + 1) = some parent) (h : isUnlinked child parent = true) :
      Found r p (.failed .idLinkage ix)
  | untrusted (ht : r.trustsAnchor p = false) (ha : p.isAllowlisted = false) :
      Found r p (.violated .anchorTrusted (p.length - 1))
  | invalid {ix : Nat} {c : Facts} (hn : ix < processedCount r p) (hc : p.certificate? ix = some c)
      (h : c.isValidAt r.time = false) : Found r p (.failed (validityCheck p ix) ix)
  | weakLeaf {c : Facts} (hn : 0 < processedCount r p) (hc : p.certificate? 0 = some c)
      (h : c.hasWeakKey = true) : Found r p (.fatal .weakLeaf 0)
  | weakAuthority {ix : Nat} {c : Facts} (h0 : ix ≠ 0) (hn : ix < processedCount r p)
      (hc : p.certificate? ix = some c) (h : c.hasWeakKey = true) :
      Found r p (.fatal .weakIntermediates ix)
  | weak {ix : Nat} {c : Facts} (hn : ix < processedCount r p) (hc : p.certificate? ix = some c)
      (h : c.hasWeakKey = true) : Found r p (.verdict .fatal)
  | forbidden {ix : Nat} {c : Facts} (hn : ix < processedCount r p) (hc : p.certificate? ix = some c)
      (hs : ix = 0 ∨ c.isSelfIssued = false)
      (h : (scopeAt r p ix).forbids r.environment.hostOf c = true) :
      Found r p (.violated .nameConstraints ix)
  | notCa {ix : Nat} {c : Facts} (h0 : ix ≠ 0) (hn : ix < processedCount r p)
      (hc : p.certificate? ix = some c) (hv : 3 ≤ c.version) (h : c.isCa = false) :
      Found r p (.violated .basicConstraintsCa ix)
  | tooDeep {ix : Nat} {c : Facts} (h0 : ix ≠ 0) (hn : ix < processedCount r p)
      (hc : p.certificate? ix = some c) (hs : c.isSelfIssued = false)
      (h : (scopeAt r p ix).room = 0) : Found r p (.violated .basicConstraints ix)
  | critical {ix : Nat} {c : Facts} (h0 : ix ≠ 0) (hn : ix < processedCount r p)
      (hc : p.certificate? ix = some c) (h : c.unknownCritical = true) :
      Found r p (.violated .criticalExtensions ix)
  | criticalLeaf {c : Facts} (hc : p.certificate? 0 = some c) (h : c.unknownCritical = true) :
      Found r p (.violated .criticalExtensions 0)
  | blocked {ix : Nat} {c : Facts} (h1 : 1 ≤ ix) (he : ix < p.nonAnchorCount)
      (hc : p.certificate? ix = some c) (h : r.environment.isBlockedKey c.keySha1 = true) :
      Found r p (.fatal .blackListedKey ix)
  | blockedOutcome {ix : Nat} {c : Facts} (h1 : 1 ≤ ix) (he : ix < p.nonAnchorCount)
      (hc : p.certificate? ix = some c) (h : r.environment.isBlockedKey c.keySha1 = true)
      (ha : p.isAllowlisted = false) : Found r p (.verdict .fatal)
  | graylisted {ix : Nat} {c : Facts} (h1 : 1 ≤ ix) (he : ix < p.nonAnchorCount)
      (hc : p.certificate? ix = some c) (h : r.environment.isGraylistedKey c.keySha1 = true) :
      Found r p (.violated .grayListedKey ix)
  | distrusted {ix : Nat} {root c : Facts} (hr : p.root? = some root)
      (hd : r.environment.isDistrustedRoot root.sha256 = true) (hl : ix + 1 < p.length)
      (hc : p.certificate? ix = some c) (h : distrustStart ≤ c.notBefore) :
      Found r p (.fatal .blackListedKey ix)
  | distrustedOutcome {ix : Nat} {root c : Facts} (hr : p.root? = some root)
      (hd : r.environment.isDistrustedRoot root.sha256 = true) (hl : ix + 1 < p.length)
      (hc : p.certificate? ix = some c) (h : distrustStart ≤ c.notBefore) :
      Found r p (.verdict .fatal)
  | denied {ix : Nat} (hl : ix < p.length) (h : r.standing p ix = .deny) :
      Found r p (.violated .usageConstraints ix)
  | deniedOutcome {ix : Nat} (hl : ix < p.length) (h : r.standing p ix = .deny) :
      Found r p (.verdict .deny)
  | overridden {ix : Nat} (hl : ix < p.length) (hd : r.standing p ix ≠ .deny)
      (hu : r.standing p ix ≠ .unspecified)
      (hs : p.storeAt ix = some .admin ∨ p.storeAt ix = some .user) :
      Found r p (.verdict .proceed)

theorem mem_zip_places {p : Path} {c parent : Facts} {ix : Nat} :
    ((c, ix), parent) ∈ p.places.zip (p.certificates.drop 1) ↔
      p.certificate? ix = some c ∧ p.certificate? (ix + 1) = some parent := by
  rw [List.mem_iff_getElem?]
  constructor
  · intro h
    obtain ⟨i, hi⟩ := h
    obtain ⟨hchild, hparent⟩ := List.getElem?_zip_eq_some.mp hi
    have htake : (p.places.take (i + 1))[i]? = some (c, ix) := by
      rw [List.getElem?_take_of_lt i.lt_succ_self]
      exact hchild
    obtain ⟨rfl, -, hc⟩ := Path.eq_of_getElem?_take_places htake
    rw [List.getElem?_drop, Nat.add_comm] at hparent
    exact ⟨hc, hparent⟩
  · intro h
    obtain ⟨hc, hparent⟩ := h
    refine ⟨ix, List.getElem?_zip_eq_some.mpr ⟨?_, ?_⟩⟩
    · have htake := Path.getElem?_take_places p (ix + 1) ix
      rw [List.getElem?_take_of_lt ix.lt_succ_self, if_pos ix.lt_succ_self, hc] at htake
      exact htake
    · rw [List.getElem?_drop, Nat.add_comm]
      exact hparent

theorem mem_linkage {p : Path} {f : Finding} :
    f ∈ linkage p ↔ ∃ ix child parent, p.certificate? ix = some child ∧
      p.certificate? (ix + 1) = some parent ∧ isUnlinked child parent = true ∧
        f = .failed .idLinkage ix := by
  simp only [linkage, List.mem_map, List.mem_reverse, List.mem_filter]
  constructor
  · intro h
    obtain ⟨⟨⟨child, ix⟩, parent⟩, ⟨hmem, hu⟩, rfl⟩ := h
    obtain ⟨hc, hp⟩ := mem_zip_places.mp hmem
    exact ⟨ix, child, parent, hc, hp, hu, rfl⟩
  · intro h
    obtain ⟨ix, child, parent, hc, hp, hu, rfl⟩ := h
    exact ⟨((child, ix), parent), ⟨mem_zip_places.mpr ⟨hc, hp⟩, hu⟩, rfl⟩

theorem mem_drop_take_places {p : Path} {n : Nat} {c : Facts} {ix : Nat} :
    (c, ix) ∈ (p.places.take n).drop 1 ↔ 1 ≤ ix ∧ ix < n ∧ p.certificate? ix = some c := by
  rw [List.mem_iff_getElem?]
  constructor
  · intro h
    obtain ⟨i, hi⟩ := h
    rw [List.getElem?_drop] at hi
    obtain ⟨rfl, hn, hc⟩ := Path.eq_of_getElem?_take_places hi
    exact ⟨Nat.le_add_right 1 i, hn, hc⟩
  · intro h
    obtain ⟨h1, hn, hc⟩ := h
    refine ⟨ix - 1, ?_⟩
    rw [List.getElem?_drop, Nat.add_sub_cancel' h1, Path.getElem?_take_places, if_pos hn, hc]
    rfl

theorem mem_listedKeys {r : Request} {p : Path} {f : Finding} :
    f ∈ listedKeys r p ↔ ∃ ix c, 1 ≤ ix ∧ ix < p.nonAnchorCount ∧ p.certificate? ix = some c ∧
      ((r.environment.isBlockedKey c.keySha1 = true ∧
          (f = .fatal .blackListedKey ix ∨ p.isAllowlisted = false ∧ f = .verdict .fatal)) ∨
        (r.environment.isGraylistedKey c.keySha1 = true ∧ f = .violated .grayListedKey ix)) := by
  simp only [listedKeys, List.mem_flatMap, List.mem_append, Finding.mem_violatedIf]
  constructor
  · intro h
    obtain ⟨⟨c, ix⟩, hplace, hf⟩ := h
    obtain ⟨h1, hn, hc⟩ := mem_drop_take_places.mp hplace
    refine ⟨ix, c, h1, hn, hc, hf.imp_left fun hf => ?_⟩
    split at hf
    · rename_i hb
      refine ⟨hb, (List.mem_cons.mp hf).imp_right fun hf => ?_⟩
      split at hf
      · cases hf
      · rename_i ha
        exact ⟨by simpa using ha, List.mem_singleton.mp hf⟩
    · cases hf
  · intro h
    obtain ⟨ix, c, h1, hn, hc, hf⟩ := h
    refine ⟨(c, ix), mem_drop_take_places.mpr ⟨h1, hn, hc⟩, hf.imp_left ?_⟩
    intro h
    obtain ⟨hb, rfl | ⟨ha, rfl⟩⟩ := h
    · simp [hb]
    · simp [hb, ha]

theorem mem_distrusted {r : Request} {p : Path} {f : Finding} :
    f ∈ distrusted r p ↔ ∃ root ix c, p.root? = some root ∧
      r.environment.isDistrustedRoot root.sha256 = true ∧ ix + 1 < p.length ∧
        p.certificate? ix = some c ∧ distrustStart ≤ c.notBefore ∧
          (f = .fatal .blackListedKey ix ∨ f = .verdict .fatal) := by
  have hplaces : ∀ c ix, (c, ix) ∈ p.places.dropLast ↔
      ix + 1 < p.length ∧ p.certificate? ix = some c := by
    intro c ix
    rw [List.dropLast_eq_take, Path.mem_take_places, Path.places, List.length_zipIdx]
    exact and_congr_left fun _ => Nat.lt_sub_iff_add_lt
  unfold distrusted
  constructor
  · intro hf
    split at hf
    · rename_i hany
      obtain ⟨root, hr, hd⟩ := (Option.any_eq_true _ _).mp hany
      obtain ⟨⟨c, ix⟩, hplace, hf⟩ := List.mem_flatMap.mp hf
      obtain ⟨hmem, hnew⟩ := List.mem_filter.mp hplace
      obtain ⟨hl, hc⟩ := (hplaces c ix).mp hmem
      refine ⟨root, ix, c, hr, hd, hl, hc, of_decide_eq_true hnew, ?_⟩
      simpa using hf
    · cases hf
  · intro h
    obtain ⟨root, ix, c, hr, hd, hl, hc, hnew, hf⟩ := h
    rw [if_pos ((Option.any_eq_true _ _).mpr ⟨root, hr, hd⟩)]
    refine List.mem_flatMap.mpr ⟨(c, ix), List.mem_filter.mpr ⟨(hplaces c ix).mpr ⟨hl, hc⟩, ?_⟩, ?_⟩
    · exact decide_eq_true hnew
    · simpa using hf

theorem mem_standingFindings {r : Request} {p : Path} {ix : Nat} {f : Finding} :
    f ∈ standingFindings r p ix ↔
      (r.standing p ix = .deny ∧ (f = .violated .usageConstraints ix ∨ f = .verdict .deny)) ∨
        (r.standing p ix ≠ .deny ∧ r.standing p ix ≠ .unspecified ∧
          (p.storeAt ix = some .admin ∨ p.storeAt ix = some .user) ∧ f = .verdict .proceed) := by
  unfold standingFindings
  cases r.standing p ix with
  | deny | unspecified => simp
  | invalid | trustRoot | trustAsRoot =>
    by_cases hs : p.storeAt ix = some .admin ∨ p.storeAt ix = some .user <;> simp [hs]

theorem mem_certificateFindings {r : Request} {p : Path} {s : Scope} {c : Facts} {ix : Nat}
    {f : Finding} :
    f ∈ certificateFindings r p s c ix ↔
      (c.isValidAt r.time = false ∧ f = .failed (validityCheck p ix) ix) ∨
        (c.hasWeakKey = true ∧ (f = .fatal (if ix = 0 then .weakLeaf else .weakIntermediates) ix ∨
          f = .verdict .fatal)) ∨
        ((ix = 0 ∨ c.isSelfIssued = false) ∧ s.forbids r.environment.hostOf c = true ∧
          f = .violated .nameConstraints ix) := by
  simp only [certificateFindings, List.mem_append, Finding.mem_violatedIf, or_assoc]
  refine or_congr ?_ (or_congr ?_ ?_)
  · cases c.isValidAt r.time <;> simp
  · cases c.hasWeakKey <;> simp
  · cases c.isSelfIssued <;> cases s.forbids r.environment.hostOf c <;> simp

theorem mem_authorityFindings {s : Scope} {c : Facts} {ix : Nat} {f : Finding} :
    f ∈ authorityFindings s c ix ↔
      (3 ≤ c.version ∧ c.isCa = false ∧ f = .violated .basicConstraintsCa ix) ∨
        (c.isSelfIssued = false ∧ s.room = 0 ∧ f = .violated .basicConstraints ix) ∨
        (c.unknownCritical = true ∧ f = .violated .criticalExtensions ix) := by
  simp only [authorityFindings, List.mem_append, Finding.mem_violatedIf, or_assoc, Bool.and_eq_true,
    decide_eq_true_eq, Bool.not_eq_true', beq_iff_eq, and_assoc]

/-- What is found at a certificate that is processed. -/
theorem found_of_mem_station {r : Request} {p : Path} {ix : Nat} {c : Facts} {f : Finding}
    (hn : ix < processedCount r p) (hc : p.certificate? ix = some c)
    (h : f ∈ station r p (scopeAt r p ix) c ix) : Found r p f := by
  rcases List.mem_append.mp h with h | h
  · rcases mem_certificateFindings.mp h with ⟨hv, rfl⟩ | ⟨hw, rfl | rfl⟩ | ⟨hs, hf, rfl⟩
    · exact .invalid hn hc hv
    · split
      · rename_i h0
        subst h0
        exact .weakLeaf hn hc hw
      · rename_i h0
        exact .weakAuthority h0 hn hc hw
    · exact .weak hn hc hw
    · exact .forbidden hn hc hs hf
  · split at h
    · cases h
    · rename_i h0
      rcases mem_authorityFindings.mp h with ⟨hv, ha, rfl⟩ | ⟨hs, hr, rfl⟩ | ⟨hu, rfl⟩
      · exact .notCa h0 hn hc hv ha
      · exact .tooDeep h0 hn hc hs hr
      · exact .critical h0 hn hc hu

theorem mem_basic {r : Request} {p : Path} {f : Finding} :
    f ∈ basic r p ↔
      (r.trustsAnchor p = false ∧ p.isAllowlisted = false ∧
        f = .violated .anchorTrusted (p.length - 1)) ∨
      (∃ ix c, ix < processedCount r p ∧ p.certificate? ix = some c ∧
        f ∈ station r p (scopeAt r p ix) c ix) ∨
      (∃ c, p.certificate? 0 = some c ∧ c.unknownCritical = true ∧
        f = .violated .criticalExtensions 0) := by
  simp only [basic, List.mem_append, Finding.mem_violatedIf, mem_walk_places, or_assoc,
    Option.any_eq_true, Path.leaf?_eq_certificate?, Bool.and_eq_true, Bool.not_eq_true', and_assoc]
  refine or_congr_right (or_congr_right ?_)
  constructor
  · intro h
    obtain ⟨⟨c, hc, hu⟩, hf⟩ := h
    exact ⟨c, hc, hu, hf⟩
  · intro h
    obtain ⟨c, hc, hu, hf⟩ := h
    exact ⟨⟨c, hc, hu⟩, hf⟩

theorem mem_findings_iff_segment {r : Request} {p : Path} {f : Finding} :
    f ∈ findings r p ↔ f ∈ linkage p ∨ f ∈ basic r p ∨ f ∈ listedKeys r p ∨ f ∈ distrusted r p ∨
      ∃ ix < p.length, f ∈ standingFindings r p ix := by
  simp only [findings, List.mem_append, List.mem_flatMap, List.mem_range, or_assoc]

/-- The relation holds of exactly what an evaluation finds. -/
theorem mem_findings {r : Request} {p : Path} {f : Finding} : f ∈ findings r p ↔ Found r p f := by
  rw [mem_findings_iff_segment]
  constructor
  · intro h
    rcases h with h | h | h | h | ⟨ix, hl, h⟩
    · obtain ⟨ix, child, parent, hc, hp, hu, rfl⟩ := mem_linkage.mp h
      exact .unlinked hc hp hu
    · rcases mem_basic.mp h with ⟨ht, ha, rfl⟩ | ⟨ix, c, hn, hc, h⟩ | ⟨c, hc, hu, rfl⟩
      · exact .untrusted ht ha
      · exact found_of_mem_station hn hc h
      · exact .criticalLeaf hc hu
    · obtain ⟨ix, c, h1, he, hc, ⟨hb, rfl | ⟨ha, rfl⟩⟩ | ⟨hg, rfl⟩⟩ := mem_listedKeys.mp h
      · exact .blocked h1 he hc hb
      · exact .blockedOutcome h1 he hc hb ha
      · exact .graylisted h1 he hc hg
    · obtain ⟨root, ix, c, hr, hd, hl, hc, hnew, rfl | rfl⟩ := mem_distrusted.mp h
      · exact .distrusted hr hd hl hc hnew
      · exact .distrustedOutcome hr hd hl hc hnew
    · rcases mem_standingFindings.mp h with ⟨hd, rfl | rfl⟩ | ⟨hd, hu, hs, rfl⟩
      · exact .denied hl hd
      · exact .deniedOutcome hl hd
      · exact .overridden hl hd hu hs
  · intro h
    have hstation : ∀ {ix c}, ix < processedCount r p → p.certificate? ix = some c →
        f ∈ station r p (scopeAt r p ix) c ix → f ∈ basic r p :=
      fun hn hc hf => mem_basic.mpr (.inr (.inl ⟨_, _, hn, hc, hf⟩))
    cases h with
    | unlinked hc hp hu => exact .inl (mem_linkage.mpr ⟨_, _, _, hc, hp, hu, rfl⟩)
    | untrusted ht ha => exact .inr (.inl (mem_basic.mpr (.inl ⟨ht, ha, rfl⟩)))
    | invalid hn hc hv =>
      refine .inr (.inl (hstation hn hc (List.mem_append_left _ ?_)))
      exact mem_certificateFindings.mpr (.inl ⟨hv, rfl⟩)
    | weakLeaf hn hc hw =>
      refine .inr (.inl (hstation hn hc (List.mem_append_left _ ?_)))
      exact mem_certificateFindings.mpr (.inr (.inl ⟨hw, .inl rfl⟩))
    | weakAuthority h0 hn hc hw =>
      refine .inr (.inl (hstation hn hc (List.mem_append_left _ ?_)))
      refine mem_certificateFindings.mpr (.inr (.inl ⟨hw, .inl ?_⟩))
      rw [if_neg h0]
    | weak hn hc hw =>
      refine .inr (.inl (hstation hn hc (List.mem_append_left _ ?_)))
      exact mem_certificateFindings.mpr (.inr (.inl ⟨hw, .inr rfl⟩))
    | forbidden hn hc hs hf =>
      refine .inr (.inl (hstation hn hc (List.mem_append_left _ ?_)))
      exact mem_certificateFindings.mpr (.inr (.inr ⟨hs, hf, rfl⟩))
    | notCa h0 hn hc hv ha =>
      refine .inr (.inl (hstation hn hc (List.mem_append_right _ ?_)))
      rw [if_neg h0]
      exact mem_authorityFindings.mpr (.inl ⟨hv, ha, rfl⟩)
    | tooDeep h0 hn hc hs hr =>
      refine .inr (.inl (hstation hn hc (List.mem_append_right _ ?_)))
      rw [if_neg h0]
      exact mem_authorityFindings.mpr (.inr (.inl ⟨hs, hr, rfl⟩))
    | critical h0 hn hc hu =>
      refine .inr (.inl (hstation hn hc (List.mem_append_right _ ?_)))
      rw [if_neg h0]
      exact mem_authorityFindings.mpr (.inr (.inr ⟨hu, rfl⟩))
    | criticalLeaf hc hu =>
      exact .inr (.inl (mem_basic.mpr (.inr (.inr ⟨_, hc, hu, rfl⟩))))
    | blocked h1 he hc hb =>
      refine .inr (.inr (.inl (mem_listedKeys.mpr ⟨_, _, h1, he, hc, .inl ⟨hb, .inl rfl⟩⟩)))
    | blockedOutcome h1 he hc hb ha =>
      refine .inr (.inr (.inl (mem_listedKeys.mpr ⟨_, _, h1, he, hc, .inl ⟨hb, ?_⟩⟩)))
      exact .inr ⟨ha, rfl⟩
    | graylisted h1 he hc hg =>
      exact .inr (.inr (.inl (mem_listedKeys.mpr ⟨_, _, h1, he, hc, .inr ⟨hg, rfl⟩⟩)))
    | distrusted hr hd hl hc hnew =>
      refine .inr (.inr (.inr (.inl (mem_distrusted.mpr ⟨_, _, _, hr, hd, hl, hc, hnew, ?_⟩))))
      exact .inl rfl
    | distrustedOutcome hr hd hl hc hnew =>
      refine .inr (.inr (.inr (.inl (mem_distrusted.mpr ⟨_, _, _, hr, hd, hl, hc, hnew, ?_⟩))))
      exact .inr rfl
    | denied hl hd =>
      exact .inr (.inr (.inr (.inr ⟨_, hl, mem_standingFindings.mpr (.inl ⟨hd, .inl rfl⟩)⟩)))
    | deniedOutcome hl hd =>
      exact .inr (.inr (.inr (.inr ⟨_, hl, mem_standingFindings.mpr (.inl ⟨hd, .inr rfl⟩)⟩)))
    | overridden hl hd hu hs =>
      refine .inr (.inr (.inr (.inr ⟨_, hl, mem_standingFindings.mpr (.inr ⟨hd, hu, hs, rfl⟩)⟩)))

/-- What every path is looked at for is the same in two paths. -/
structure Alike (r : Request) (p q : Path) : Prop where
  certificates : p.certificates = q.certificates
  isAnchored : p.isAnchored = q.isAnchored
  isAllowlisted : p.isAllowlisted = q.isAllowlisted
  stores : p.stores = q.stores
  trustsAnchor : r.trustsAnchor p = r.trustsAnchor q
  standing : ∀ ix, r.standing p ix = r.standing q ix

theorem Alike.symm {r : Request} {p q : Path} (h : Alike r p q) : Alike r q p where
  certificates := h.certificates.symm
  isAnchored := h.isAnchored.symm
  isAllowlisted := h.isAllowlisted.symm
  stores := h.stores.symm
  trustsAnchor := h.trustsAnchor.symm
  standing := fun ix => (h.standing ix).symm

/-- Of a request and a path, the walk looks at the time, how URIs are read, and at the length. -/
theorem walk_congr {r r' : Request} {p q : Path} (ht : r.time = r'.time)
    (hu : r.environment.hostOf = r'.environment.hostOf) (h : p.length = q.length) (s : Scope)
    (places : List (Facts × Nat)) : walk r p s places = walk r' q s places := by
  induction places generalizing s with
  | nil => rfl
  | cons place places ih =>
    simp only [walk, certificateFindings, validityCheck, ht, hu, h, ih]

theorem findings_congr {r : Request} {p q : Path} (h : Alike r p q) :
    findings r p = findings r q := by
  have hlength : p.length = q.length := congrArg List.length h.certificates
  have hplaces : p.places = q.places := congrArg List.zipIdx h.certificates
  have hleaf : p.leaf? = q.leaf? := congrArg List.head? h.certificates
  have hroot : p.root? = q.root? := congrArg List.getLast? h.certificates
  have hstanding : standingFindings r p = standingFindings r q := by
    funext ix
    have hstore : p.storeAt ix = q.storeAt ix := by
      simp only [Path.storeAt, h.stores]
    unfold standingFindings
    rw [h.standing, hstore]
  simp only [findings, linkage, basic, listedKeys, distrusted, processedCount,
    Path.nonAnchorCount, walk_congr rfl rfl hlength, hlength, hplaces, hleaf, hroot, hstanding,
    h.certificates, h.isAnchored, h.isAllowlisted, h.trustsAnchor]

end Processing
end ChainTrust
