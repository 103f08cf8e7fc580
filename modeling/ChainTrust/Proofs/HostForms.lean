import ChainTrust.Proofs.AddressLiterals
import ChainTrust.Proofs.HostNames

namespace ChainTrust

namespace Host

open Text Address

/-- What is written with the characters of addresses only has its letters changed. -/
theorem normalize_of_isPlain {s : List Char} (h : IsPlain s) :
    normalize s = s.map Char.toLower := by
  have hcharacters : ∀ c ∈ characters, isBlank c = false ∧ c.toNat < 128 :=
    forall_mem_of_all rfl
  have hblank : ∀ c ∈ s, isBlank c = false := fun c hc => (hcharacters c (h.mem c hc)).1
  have hfront : s.dropWhile isBlank = s := by
    cases s with
    | nil => rfl
    | cons c rest => exact List.dropWhile_cons_of_neg (by simp [hblank])
  have hend : dropEndWhile isBlank s = s :=
    dropEndWhile_eq_self_iff.mpr fun c hc => hblank c (List.mem_of_getLast? hc)
  have hdot : dropEndWhile (· == '.') s = s := by
    refine dropEndWhile_eq_self_iff.mpr fun c hc => beq_eq_false_iff_ne.mpr fun hdot => ?_
    exact h.last (by rw [← hdot]; exact hc)
  rw [normalize, trim, hfront, hend, hdot]
  exact lowerAfter_of_ascii [] fun c hc => mem_ascii (hcharacters c (h.mem c hc)).2

/-- The normal form of an address is the same address, and is final. -/
theorem ofHost?_normalizeText {host : String} {a : Bytes} (h : ofHost? host = some a) :
    ofHost? (normalizeText host) = some a ∧
      normalizeText (normalizeText host) = normalizeText host := by
  have hnormal : normalizeText host = String.ofList (host.toList.map Char.toLower) :=
    congrArg String.ofList (normalize_of_isPlain (isPlain_of_ofHost? h))
  have haddress : ofHost? (normalizeText host) = some a := by
    rw [hnormal, ofHost?_map_toLower, String.ofList_toList, h]
  refine ⟨haddress, ?_⟩
  rw [normalizeText, normalize_of_isPlain (isPlain_of_ofHost? haddress), hnormal,
    String.toList_ofList, map_toLower_toLower]

theorem normalize_sublist (host : List Char) :
    (normalize (normalize host)).Sublist (normalize host) := by
  have htrim : (dropEndWhile (· == '.') (trim (normalize host))).Sublist (normalize host) :=
    (List.rdropWhile_prefix _ _).sublist.trans ((List.rdropWhile_prefix _ _).sublist.trans
      (List.dropWhile_sublist _))
  have hlower : normalize (normalize host) = dropEndWhile (· == '.') (trim (normalize host)) :=
    lowerAfter_eq_self fun c hc => isLower_of_mem_lowerAfter (htrim.subset hc)
  rw [hlower]
  exact htrim

theorem normalize_ne_nil {host : String} (hne : normalizeText host ≠ "") :
    normalize host.toList ≠ [] :=
  fun h => hne (congrArg String.ofList h)

theorem isMatch_self {host : String} (hne : normalizeText host ≠ "") : isMatch host host = true :=
  (isMatch_iff host host).mpr ⟨normalize_ne_nil hne, normalize_ne_nil hne, .inl rfl⟩

/-- What becomes of a normal form is matched by the host only if nothing becomes of it. -/
theorem isMatch_normalizeText_iff {host : String} (hne : normalizeText host ≠ "") :
    isMatch host (normalizeText host) = true ↔
      normalizeText (normalizeText host) = normalizeText host := by
  have hnormal : normalizeText (normalizeText host) = normalizeText host ↔
      normalize host.toList = normalize (normalize host.toList) := by
    rw [normalizeText, normalizeText_toList, normalizeText, String.ofList_inj]
    exact eq_comm
  have hmatch := isMatch_iff host (normalizeText host)
  simp only [normalizeText_toList] at hmatch
  rw [hmatch, hnormal]
  constructor
  · intro h
    obtain ⟨-, -, heq | ⟨label, rest, hpattern, hhost, -, hlabel, -⟩⟩ := h
    · exact heq
    · -- a wildcard stands for one character or more, so it matches nothing shorter
      refine ((normalize_sublist host.toList).eq_of_length_le ?_).symm
      have hpos := List.length_pos_iff.mpr hlabel
      rw [hhost, hpattern]
      simp only [List.length_append, List.length_cons]
      omega
  · intro h
    have hnonempty := normalize_ne_nil hne
    exact ⟨hnonempty, h ▸ hnonempty, .inl h⟩

end Host

namespace Facts

open Host Host.Address

theorem isForHost_of_address {host : String} {a : Bytes} (h : ofHost? host = some a) (c : Facts) :
    c.isForHost host = c.ipAddresses.contains a := by
  simp only [isForHost, h]

theorem isForHost_of_name {host : String} (h : ofHost? host = none) (c : Facts) :
    c.isForHost host = c.hostNames.any (isMatch · host) := by
  simp only [isForHost, h]

/-- A leaf with one alternative name and no other. -/
def named (name : GeneralName) : Facts :=
  { Facts.plain [1] with altNames := some [name] }

theorem isForHost_named_ip {host : String} (h : ofHost? host = none) (a : Bytes) :
    (named (.ip a)).isForHost host = false :=
  isForHost_of_name h _

theorem isForHost_named_dns {name host : String} (h : ofHost? host = none) :
    (named (.dns name)).isForHost host = isMatch name host := by
  rw [isForHost_of_name h]
  exact Bool.or_false _

/-- A host and its normal form are the same to all leaves if they are the same address or no address,
and the normal form is final. -/
theorem isForHost_normalizeText_iff {host : String} (hne : normalizeText host ≠ "") :
    (∀ c : Facts, c.isForHost host = c.isForHost (normalizeText host)) ↔
      ofHost? (normalizeText host) = ofHost? host ∧
        normalizeText (normalizeText host) = normalizeText host := by
  constructor
  · intro h
    cases haddress : ofHost? host with
    | some a => exact ofHost?_normalizeText haddress
    | none =>
      have hnone : ofHost? (normalizeText host) = none := by
        cases hnormal : ofHost? (normalizeText host) with
        | none => rfl
        | some a =>
          have hip := h (named (.ip a))
          rw [isForHost_named_ip haddress, isForHost_of_address hnormal] at hip
          simp [named, ipAddresses] at hip
      have hdns := h (named (.dns host))
      rw [isForHost_named_dns haddress, isForHost_named_dns hnone, isMatch_self hne] at hdns
      exact ⟨hnone, (isMatch_normalizeText_iff hne).mp hdns.symm⟩
  · intro h c
    obtain ⟨haddress, hfinal⟩ := h
    cases hhost : ofHost? host with
    | some a =>
      rw [isForHost_of_address hhost, isForHost_of_address (haddress.trans hhost)]
    | none =>
      have hforms : normalize (normalizeText host).toList = normalize host.toList :=
        String.ofList_inj.mp hfinal
      rw [isForHost_of_name hhost, isForHost_of_name (haddress.trans hhost)]
      simp only [isMatch, hforms]

end Facts

namespace LeafCheck

open Host Host.Address

theorem fails_sslHostname {r : Request} {host : String} (hne : host ≠ "") (c : Facts) :
    fails r c (.text host) .sslHostname = !c.isForHost host := by
  have hempty : host.isEmpty = false := by simpa using hne
  simp [fails, OptionValue.text?, hempty]

/-- The check of a host and that of its normal form come to the same for all leaves exactly if both
are the same address, or neither is one, and the normal form is final. A host whose normal form is an
address is accepted by that address alone exactly if it is that address as it stands. -/
theorem fails_sslHostname_normalizeText (r : Request) {host : String}
    (hne : normalizeText host ≠ "") :
    ((∀ c, fails r c (.text host) .sslHostname =
        fails r c (.text (normalizeText host)) .sslHostname) ↔
      ofHost? (normalizeText host) = ofHost? host ∧
        normalizeText (normalizeText host) = normalizeText host) ∧
    ∀ a, ofHost? (normalizeText host) = some a →
      ((∀ c, fails r c (.text host) .sslHostname = false → a ∈ c.ipAddresses) ↔
        ofHost? host = some a) := by
  have hhost : host ≠ "" := by
    rintro rfl
    exact hne rfl
  constructor
  · rw [← Facts.isForHost_normalizeText_iff hne]
    refine forall_congr' fun c => ?_
    rw [fails_sslHostname hhost, fails_sslHostname hne, Bool.not_inj_iff]
  · intro a ha
    simp only [fails_sslHostname hhost, Bool.not_eq_false']
    constructor
    · intro h
      cases haddress : ofHost? host with
      | some b => exact (ofHost?_normalizeText haddress).1.symm.trans ha
      | none =>
        have hmem := h (Facts.named (.dns host))
          ((Facts.isForHost_named_dns haddress).trans (isMatch_self hne))
        exact absurd hmem (by simp [Facts.named, Facts.ipAddresses])
    · intro h c hc
      rw [Facts.isForHost_of_address h] at hc
      exact List.contains_iff_mem.mp hc

/-- The capital letters of an address in brackets make no difference. -/
theorem fails_sslHostname_normalizeText_bracketed :
    normalizeText "[2001:DB8::1]" = "[2001:db8::1]" ∧
      ∀ c, fails (Evaluation.hostRequest "") c (.text "[2001:DB8::1]") .sslHostname =
        fails (Evaluation.hostRequest "") c (.text "[2001:db8::1]") .sslHostname := by
  have hnormal : normalizeText "[2001:DB8::1]" = "[2001:db8::1]" := by decide +kernel
  have hne : normalizeText "[2001:DB8::1]" ≠ "" := by decide +kernel
  have hall := (fails_sslHostname_normalizeText (Evaluation.hostRequest "") hne).1.mpr
    ⟨by decide +kernel, by decide +kernel⟩
  rw [hnormal] at hall
  exact ⟨hnormal, hall⟩

/-- With a dot behind it, an address is matched by names. -/
theorem fails_sslHostname_ne_normalizeText :
    (¬∀ (r : Request) (host : String) (c : Facts), normalizeText host ≠ "" →
      fails r c (.text host) .sslHostname = fails r c (.text (normalizeText host)) .sslHostname) ∧
    ¬∀ (r : Request) (host : String) (c : Facts) (a : Bytes), normalizeText host ≠ "" →
      ofHost? (normalizeText host) = some a → fails r c (.text host) .sslHostname = false →
        a ∈ c.ipAddresses := by
  constructor
  · intro h
    have hsame := h (Evaluation.hostRequest "") "1.2.3.4." (.named (.dns "1.2.3.4"))
      (by decide +kernel)
    revert hsame
    decide +kernel
  · intro h
    have hmem := h (Evaluation.hostRequest "") "1.2.3.4." (.named (.dns "1.2.3.4")) [1, 2, 3, 4]
      (by decide +kernel) (by decide +kernel) (by decide +kernel)
    exact absurd hmem List.not_mem_nil

/-- The blank in front of the dots is not looked for once they are gone. -/
example : normalizeText "www.example.com ." = "www.example.com " := by
  decide +kernel

end LeafCheck
end ChainTrust
