import ChainTrust.Proofs.Coverage
import ChainTrust.Proofs.LetterCase
import ChainTrust.Proofs.Scopes
import ChainTrust.Proofs.Wildcards

namespace ChainTrust

namespace Text

/-- A suffix that starts with a character that the front lacks starts behind the front. -/
theorem suffix_of_not_mem {c : Char} {s l t : List Char} (h : c :: s <:+ l ++ t) (hc : c ∉ l) :
    c :: s <:+ t := by
  obtain ⟨front, hfront⟩ := h
  rcases List.append_eq_append_iff.mp hfront with ⟨more, hl, ht⟩ | ⟨more, rfl, rfl⟩
  · cases more with
    | nil => exact ⟨[], by simpa using ht⟩
    | cons d more =>
      cases ht
      exact absurd (by rw [hl]; simp) hc
  · exact ⟨more, rfl⟩

end Text

namespace Host

open Text

theorem normalizeText_toList (host : String) :
    (normalizeText host).toList = normalize host.toList :=
  String.toList_ofList

/-- A normal form has no dots left at its end and no letters left to change. -/
theorem lower_dropEndWhile_normalize (host : List Char) :
    lower (dropEndWhile (· == '.') (normalize host)) = normalize host := by
  rw [normalize, dropEndWhile_lower (dropEndWhile_dropEndWhile _ _), lower_lower]

end Host

namespace Subtree

open Text

/-- A host in normal form lies under a base in lower case. -/
def IsBelow (base host : List Char) : Prop :=
  base = [] ∨ (∃ rest, base = '.' :: rest ∧ base <:+ host ∧ base.length < host.length) ∨
    (base.head? ≠ some '.' ∧ (host = base ∨ '.' :: base <:+ host))

/-- A base is empty, has only what is below it, or is a host. -/
theorem hostUnder_cases (isUri : Bool) {base host : String} {b h : List Char}
    (hb : lower base.toList = b) (hh : lower (dropEndWhile (· == '.') host.toList) = h) :
    hostUnder isUri base host = true ↔
      b = [] ∨ (∃ rest, b = '.' :: rest ∧ b <:+ h ∧ b.length < h.length) ∨
        (b.head? ≠ some '.' ∧ (h = b ∨ isUri = false ∧ '.' :: b <:+ h)) := by
  unfold hostUnder
  rw [hb, hh]
  cases b with
  | nil => simp
  | cons c rest =>
    by_cases hc : c = '.'
    · subst hc
      simp
    · simp only
      split
      · rename_i heq
        cases heq
      · rename_i heq
        cases heq
        exact absurd rfl hc
      · simp [hc]

theorem hostUnder_iff (base host : String) :
    hostUnder false base host = true ↔
      IsBelow (lower base.toList) (lower (dropEndWhile (· == '.') host.toList)) := by
  simpa [IsBelow] using hostUnder_cases false rfl rfl

/-- Of the hosts that a wildcard stands for, a base that does not cover them all covers itself
alone. -/
theorem isBelow_of_wildcardMatches {base pattern host : List Char}
    (hmatch : Host.wildcardMatches pattern host = true) (h : IsBelow base host)
    (hnot : ¬IsBelow base pattern) : base = host := by
  obtain ⟨label, rest, rfl, rfl, -, -, hdot⟩ := Host.wildcardMatches_iff.mp hmatch
  have hsuffix : ∀ {s : List Char}, '.' :: s <:+ label ++ '.' :: rest →
      '.' :: s <:+ '*' :: '.' :: rest :=
    fun hs => (suffix_of_not_mem hs hdot).trans (List.suffix_cons '*' _)
  rcases h with rfl | ⟨s, rfl, hs, -⟩ | ⟨hhead, h | h⟩
  · exact absurd (.inl rfl) hnot
  · refine absurd (.inr (.inl ⟨s, rfl, hsuffix hs, ?_⟩)) hnot
    exact Nat.lt_succ_of_le (suffix_of_not_mem hs hdot).length_le
  · exact h.symm
  · exact absurd (.inr (.inr ⟨hhead, .inr (hsuffix h)⟩)) hnot

/-- A name that is spelt out without blanks around it lies where the host does that it matches. -/
theorem isBelow_normalize {name : String} (h : trim name.toList = name.toList) (base : String) :
    hostUnder false base name = true ↔
      IsBelow (lower base.toList) (Host.normalize name.toList) := by
  rw [hostUnder_iff, Host.normalize, h]

theorem isBelow_normalizeText (base host : String) :
    hostUnder false base (Host.normalizeText host) = true ↔
      IsBelow (lower base.toList) (Host.normalize host.toList) := by
  rw [hostUnder_iff, Host.normalizeText_toList, Host.lower_dropEndWhile_normalize]

end Subtree

namespace ConstrainedName

theorem isWithin_dns_iff {host : String} {s : Subtree} :
    (dns host).isWithin s = true ↔
      ∃ base, s.base = .dns base ∧ Subtree.hostUnder false base host = true := by
  unfold isWithin
  cases s.base <;> simp

theorem dns_mem_ofAltNames {c : Facts} {hostOf : String → Option String} {name : String}
    (h : name ∈ c.dnsNames) : .dns name ∈ ofAltNames c.altNames hostOf := by
  unfold Facts.dnsNames at h
  obtain ⟨general, hmem, hname⟩ := List.mem_filterMap.mp h
  refine List.mem_filterMap.mpr ⟨general, hmem, ?_⟩
  cases general <;> cases hname
  rfl

end ConstrainedName

/-- A name that is within none of the subtrees that contain the host it matches is a wildcard, and
those subtrees consist of the host alone. -/
theorem Subtree.isWildcard_of_isMatch {name host : String} {s : Subtree}
    (htrim : Text.trim name.toList = name.toList) (hmatch : Host.isMatch name host = true)
    (hs : (ConstrainedName.dns (Host.normalizeText host)).isWithin s = true)
    (hnot : (ConstrainedName.dns name).isWithin s = false) :
    Host.normalize name.toList ≠ Host.normalize host.toList ∧
      Host.wildcardMatches (Host.normalize name.toList) (Host.normalize host.toList) = true ∧
      ∃ base, s.base = .dns base ∧ Text.lower base.toList = Host.normalize host.toList := by
  obtain ⟨base, hbase, hunder⟩ := ConstrainedName.isWithin_dns_iff.mp hs
  have hout : ¬IsBelow (Text.lower base.toList) (Host.normalize name.toList) := by
    intro hbelow
    have hname := ConstrainedName.isWithin_dns_iff.mpr
      ⟨base, hbase, (isBelow_normalize htrim base).mpr hbelow⟩
    exact absurd hname (by simp [hnot])
  have hhost := (isBelow_normalizeText base host).mp hunder
  have hne : Host.normalize name.toList ≠ Host.normalize host.toList := by
    intro heq
    rw [heq] at hout
    exact hout hhost
  simp only [Host.isMatch, Host.patternMatches, Bool.and_eq_true, Bool.or_eq_true,
    beq_iff_eq] at hmatch
  have hwild := hmatch.2.resolve_left hne
  exact ⟨hne, hwild, base, hbase, isBelow_of_wildcardMatches hwild hhost hout⟩

namespace Evaluation

/-- The authorities of an accepted path forbid no name of its leaf. -/
theorem not_forbids_of_isOk {r : Request} {p : Path} {leaf : Facts} (hl : p.leaf? = some leaf)
    (hx : r.exemptions = []) (ha : ∀ cs ∈ p.constraints, ∀ c ∈ cs, c.allowedError = none)
    (hok : (initial.pathChecks r p).1.isOk = true) (hn : 0 < Processing.processedCount r p) :
    (Processing.scopeAt r p 0).forbids r.environment.hostOf leaf = false := by
  rw [← Bool.not_eq_true]
  intro hforbids
  have hcert := Path.certificate?_zero hl
  exact not_forces_of_isOk hx ha (Path.ne_nil_of_leaf? hl) (by decide) hok
    (Processing.forces_nameConstraints_iff.mpr ⟨hn, leaf, hcert, .inl rfl, hforbids⟩)

/-- If a path is accepted for a host, its leaf has a name that matches the host. An authority may
exclude the host all the same. A name without blanks around it is then a wildcard that the host
matches, never the host itself, and the host is excluded alone. -/
theorem pathChecks_host_excluded (r : Request) (p : Path) (leaf : Facts) (policy : Policy)
    (host : String) (hl : p.leaf? = some leaf) (hx : r.exemptions = [])
    (hc : ∀ cs ∈ p.constraints, cs = []) (hok : (initial.pathChecks r p).1.isOk = true)
    (hp : policy ∈ r.policies) (ho : (.known .sslHostname, .text host) ∈ policy.options)
    (hne : host ≠ "") (hip : Host.Address.ofHost? host = none) :
    (∃ name ∈ leaf.hostNames, Host.isMatch name host = true) ∧
    ∀ name ∈ leaf.dnsNames, Text.trim name.toList = name.toList → Host.isMatch name host = true →
      ∀ j c s, 0 < j → j < (if p.EndsTrusted r then p.length - 1 else p.length) →
        p.certificate? j = some c → s ∈ c.excludedSubtrees →
        (ConstrainedName.dns (Host.normalizeText host)).isWithin s = true →
          Host.normalize name.toList ≠ Host.normalize host.toList ∧
            Host.wildcardMatches (Host.normalize name.toList) (Host.normalize host.toList) = true ∧
            ∃ base, s.base = .dns base ∧ Text.lower base.toList = Host.normalize host.toList := by
  have hnonempty : p.certificates ≠ [] := Path.ne_nil_of_leaf? hl
  have ha := Path.allowedError_eq_none hc
  constructor
  · have hfails := not_fails_of_isOk hx ha hl hok hp ho (by decide)
    have hempty : host.isEmpty = false := by simpa using hne
    simpa [LeafCheck.fails, OptionValue.text?, hempty, Facts.isForHost, hip] using hfails
  · intro name hname htrim hmatch j c s hj hn hcert hs hwithin
    rw [← Request.processedCount_eq hnonempty] at hn
    have hforbids := not_forbids_of_isOk hl hx ha hok (hj.trans hn)
    obtain ⟨base, hbase, -⟩ := ConstrainedName.isWithin_dns_iff.mp hwithin
    have hform : s.base.form? = some .dns := by
      rw [hbase]
      rfl
    have hexcluded := Processing.mem_excluded_scopeAt.mpr ⟨j, c, hj, hn, hcert, hs, hform⟩
    have hnot := Processing.not_isWithin_of_forbids_eq_false hforbids
      (ConstrainedName.dns_mem_ofAltNames hname) hexcluded
    exact Subtree.isWildcard_of_isMatch htrim hmatch hwithin hnot

/-- A leaf for all hosts of a domain, under an authority that excludes one of them. -/
def wildcardPath : Path :=
  { Path.ofCertificates [
      { Facts.plain [1] with altNames := some [.dns "*.example.com"] },
      { Facts.plain [2] with
        nameConstraints := some ⟨none, some [⟨.dns "bad.example.com", 0, none⟩]⟩ },
      .plain [3]] with isAnchored := true }

def hostRequest (host : String) : Request :=
  ⟨.empty, [⟨"", "", [(.known .sslHostname, .text host)]⟩], 5, []⟩

/-- The path is accepted for the host that is excluded. -/
theorem isOk_wildcardPath :
    (initial.pathChecks (hostRequest "bad.example.com") wildcardPath).1.isOk = true := by
  decide +kernel

/-- It is as a wildcard that the name of the leaf matches the host, which is excluded alone. -/
theorem pathChecks_host_excluded_wildcard :
    (initial.pathChecks (hostRequest "bad.example.com") wildcardPath).1.isOk = true ∧
      (∃ name ∈ ["*.example.com"], Host.isMatch name "bad.example.com" = true) ∧
      Host.normalize "*.example.com".toList ≠ Host.normalize "bad.example.com".toList ∧
      Host.wildcardMatches (Host.normalize "*.example.com".toList)
        (Host.normalize "bad.example.com".toList) = true ∧
      Text.lower "bad.example.com".toList = Host.normalize "bad.example.com".toList := by
  have h := pathChecks_host_excluded _ _ _ _ "bad.example.com" rfl rfl (by decide)
    isOk_wildcardPath List.mem_cons_self List.mem_cons_self (by decide) (by decide +kernel)
  obtain ⟨hne, hwild, base, hbase, hlower⟩ := h.2 "*.example.com" (by decide) (by decide +kernel)
    (by decide +kernel) 1 _ ⟨.dns "bad.example.com", 0, none⟩ (by decide) (by decide) rfl
    (by decide) (by decide +kernel)
  cases hbase
  exact ⟨isOk_wildcardPath, h.1, hne, hwild, hlower⟩

/-- A path can be accepted for a host that one of its authorities excludes. -/
theorem excluded_host_accepted :
    ¬∀ (r : Request) (p : Path) (policy : Policy) (host : String), p.certificates ≠ [] →
      r.exemptions = [] → (∀ cs ∈ p.constraints, cs = []) →
      (initial.pathChecks r p).1.isOk = true → policy ∈ r.policies →
      (.known .sslHostname, .text host) ∈ policy.options → host ≠ "" →
      Host.Address.ofHost? host = none →
        ∀ j c s, 0 < j → j < (if p.EndsTrusted r then p.length - 1 else p.length) →
          p.certificate? j = some c → s ∈ c.excludedSubtrees →
            (ConstrainedName.dns (Host.normalizeText host)).isWithin s = false := by
  intro h
  have hout := h _ _ _ "bad.example.com" (List.cons_ne_nil _ _) rfl (by decide) isOk_wildcardPath
    List.mem_cons_self List.mem_cons_self (by decide) (by decide +kernel) 1 _
    ⟨.dns "bad.example.com", 0, none⟩ (by decide) (by decide) rfl (by decide)
  revert hout
  decide +kernel

end Evaluation
end ChainTrust
