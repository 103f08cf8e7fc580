import ChainTrust.Proofs.HostNames
import ChainTrust.Proofs.NameConstraints
import Mathlib.Algebra.Group.Nat.Defs

namespace ChainTrust

namespace Subtree

open Text

section Hosts

variable {base other host : List Char}

theorem getLast?_ne_of_suffix {s t : List Char} {c : Char} (h : s <:+ t)
    (ht : t.getLast? ≠ some c) : s.getLast? ≠ some c := by
  obtain ⟨front, rfl⟩ := h
  intro hs
  rw [List.getLast?_append, hs] at ht
  exact ht rfl

theorem IsBelow.suffix (h : IsBelow base host) : base <:+ host := by
  rcases h with rfl | ⟨rest, rfl, hs, -⟩ | ⟨-, rfl | hs⟩
  · exact List.nil_suffix
  · exact hs
  · exact List.suffix_rfl
  · exact (List.suffix_cons '.' base).trans hs

theorem IsBelow.trans (h : IsBelow base other) (h' : IsBelow other host) : IsBelow base host := by
  rcases h with rfl | ⟨rest, rfl, hs, hlt⟩ | ⟨hhead, rfl | hs⟩
  · exact .inl rfl
  · exact .inr (.inl ⟨rest, rfl, hs.trans h'.suffix, hlt.trans_le h'.suffix.length_le⟩)
  · exact h'
  · exact .inr (.inr ⟨hhead, .inr (hs.trans h'.suffix)⟩)

/-- A base with a dot in front does not lie under itself. -/
theorem IsBelow.of_suffix (h : IsBelow base host) (h' : IsBelow other host) (hs : base <:+ other) :
    IsBelow base other ∨ base = other ∧ base.head? = some '.' := by
  by_cases heq : base = other
  · by_cases hhead : base.head? = some '.'
    · exact .inr ⟨heq, hhead⟩
    · exact .inl (.inr (.inr ⟨hhead, .inl heq.symm⟩))
  · have hlt : base.length < other.length :=
      Nat.lt_of_le_of_ne hs.length_le fun hlength => heq (hs.eq_of_length hlength)
    left
    rcases h with rfl | ⟨rest, rfl, -, -⟩ | ⟨hhead, rfl | hdot⟩
    · exact .inl rfl
    · exact .inr (.inl ⟨rest, rfl, hs, hlt⟩)
    · exact absurd hlt h'.suffix.length_le.not_gt
    · exact .inr (.inr ⟨hhead, .inr (List.suffix_of_suffix_length_le hdot h'.suffix hlt)⟩)

theorem IsBelow.nested (h : IsBelow base host) (h' : IsBelow other host) :
    IsBelow base other ∨ IsBelow other base ∨ base = other ∧ base.head? = some '.' := by
  rcases List.suffix_or_suffix_of_suffix h.suffix h'.suffix with hs | hs
  · rcases h.of_suffix h' hs with hbelow | hsame
    · exact .inl hbelow
    · exact .inr (.inr hsame)
  · rcases h'.of_suffix h hs with hbelow | ⟨rfl, hhead⟩
    · exact .inr (.inl hbelow)
    · exact .inr (.inr ⟨rfl, hhead⟩)

/-- A base that hosts lie under has no dots at its end, so nothing is cut off when it is compared
in its turn. -/
theorem hostUnder_iff_of_suffix {base inner host : String}
    (h : lower inner.toList <:+ lower (dropEndWhile (· == '.') host.toList)) :
    hostUnder false base inner = true ↔ IsBelow (lower base.toList) (lower inner.toList) := by
  have hlast := getLast?_ne_of_suffix h (getLast?_lower_dropEndWhile_ne host.toList)
  rw [hostUnder_iff, dropEndWhile_dot_eq_self hlast]

theorem hostUnder_trans {base inner host : String} (h : hostUnder false base inner = true)
    (h' : hostUnder false inner host = true) : hostUnder false base host = true := by
  have hbelow := (hostUnder_iff inner host).mp h'
  rw [hostUnder_iff_of_suffix hbelow.suffix] at h
  exact (hostUnder_iff base host).mpr (h.trans hbelow)

theorem hostUnder_nested {base other host : String} (h : hostUnder false base host = true)
    (h' : hostUnder false other host = true) :
    hostUnder false base other = true ∨ hostUnder false other base = true ∨
      lower base.toList = lower other.toList ∧ (lower base.toList).head? = some '.' := by
  have hbelow := (hostUnder_iff base host).mp h
  have hbelow' := (hostUnder_iff other host).mp h'
  rw [hostUnder_iff_of_suffix hbelow'.suffix, hostUnder_iff_of_suffix hbelow.suffix]
  exact hbelow.nested hbelow'

end Hosts

section Mail

/-- A mailbox in lower case lies under a base in lower case. -/
def IsMailBelow (base address : List Char) : Prop :=
  '@' ∈ base ∧ base = address ∨
    '@' ∉ base ∧ base.head? = some '.' ∧ base <:+ mailHost address ∨
    '@' ∉ base ∧ base.head? ≠ some '.' ∧ mailHost address = base

theorem emailUnder_iff (base address : String) :
    emailUnder base address = true ↔
      IsMailBelow (lower base.toList) (lower address.toList) := by
  unfold emailUnder IsMailBelow
  generalize lower base.toList = b
  generalize lower address.toList = a
  by_cases hat : '@' ∈ b
  · simp [hat]
  · by_cases hhead : b.head? = some '.'
    · simp [hat, hhead]
    · simp [hat, hhead]

/-- Without an at sign, all of an address is its host. -/
theorem mailHost_eq_self {address : List Char} (h : '@' ∉ address) : mailHost address = address := by
  have hall : ∀ c ∈ address.reverse, decide (c ≠ '@') = true := by
    intro c hc
    simp only [decide_eq_true_eq]
    rintro rfl
    exact h (List.mem_reverse.mp hc)
  rw [mailHost, List.takeWhile_eq_self_iff.mpr hall, List.reverse_reverse]

variable {base other address : List Char}

theorem IsMailBelow.eq_of_mem (h : IsMailBelow base address) (hat : '@' ∈ base) :
    base = address := by
  rcases h with ⟨-, heq⟩ | ⟨hnot, -⟩ | ⟨hnot, -⟩
  · exact heq
  · exact absurd hat hnot
  · exact absurd hat hnot

/-- Bases without a mailbox are told apart by the host alone. -/
theorem isMailBelow_iff_of_not_mem (h : '@' ∉ base) :
    IsMailBelow base address ↔
      base.head? = some '.' ∧ base <:+ mailHost address ∨
        base.head? ≠ some '.' ∧ mailHost address = base := by
  simp [IsMailBelow, h]

theorem IsMailBelow.trans (h : IsMailBelow base other) (h' : IsMailBelow other address) :
    IsMailBelow base address := by
  by_cases hother : '@' ∈ other
  · obtain rfl := h'.eq_of_mem hother
    exact h
  by_cases hbase : '@' ∈ base
  · obtain rfl := h.eq_of_mem hbase
    exact h'
  rw [isMailBelow_iff_of_not_mem hbase] at h ⊢
  rw [mailHost_eq_self hother] at h
  rcases h with ⟨hhead, hs⟩ | ⟨-, rfl⟩
  · refine .inl ⟨hhead, hs.trans ?_⟩
    rcases (isMailBelow_iff_of_not_mem hother).mp h' with ⟨-, hs'⟩ | ⟨-, rfl⟩
    · exact hs'
    · exact List.suffix_rfl
  · exact (isMailBelow_iff_of_not_mem hother).mp h'

theorem IsMailBelow.nested (h : IsMailBelow base address) (h' : IsMailBelow other address) :
    IsMailBelow base other ∨ IsMailBelow other base := by
  by_cases hbase : '@' ∈ base
  · obtain rfl := h.eq_of_mem hbase
    exact .inr h'
  by_cases hother : '@' ∈ other
  · obtain rfl := h'.eq_of_mem hother
    exact .inl h
  rw [isMailBelow_iff_of_not_mem hbase] at h ⊢
  rw [isMailBelow_iff_of_not_mem hother] at h' ⊢
  rw [mailHost_eq_self hbase, mailHost_eq_self hother]
  rcases h with ⟨hhead, hs⟩ | ⟨hhead, heq⟩ <;> rcases h' with ⟨hhead', hs'⟩ | ⟨hhead', heq'⟩
  · rcases List.suffix_or_suffix_of_suffix hs hs' with hsuffix | hsuffix
    · exact .inl (.inl ⟨hhead, hsuffix⟩)
    · exact .inr (.inl ⟨hhead', hsuffix⟩)
  · exact .inl (.inl ⟨hhead, heq' ▸ hs⟩)
  · exact .inr (.inl ⟨hhead', heq ▸ hs'⟩)
  · exact .inl (.inr ⟨hhead, heq'.symm.trans heq⟩)

end Mail

section Addresses

/-- A mask of some length that fixes the given number of bits and no others. -/
def prefixMask : Nat → Nat → Bytes
  | 0, _ => []
  | n + 1, bits => UInt8.ofNat (256 - 2 ^ (8 - bits)) :: prefixMask n (bits - 8)

/-- The mask of a network fixes its first bits and no others. -/
def HasPrefixMask (s : Subtree) : Prop :=
  ∀ base, s.base = .ip base →
    ∃ bits, base.drop (base.length / 2) = prefixMask (base.length - base.length / 2) bits

theorem maskCovers_cons {i o : UInt8} {inner outer : Bytes} :
    maskCovers (i :: inner) (o :: outer) = true ↔ i &&& o = o ∧ maskCovers inner outer = true := by
  simp [maskCovers]

theorem maskedEqual_cons {a n m : UInt8} {as ns ms : Bytes} :
    maskedEqual (a :: as) (n :: ns) (m :: ms) = true ↔
      a &&& m = n &&& m ∧ maskedEqual as ns ms = true := by
  simp [maskedEqual]

/-- The first octet of a mask of more bits fixes every bit that one of fewer does. -/
theorem headMask_and {fewer more : Nat} (h : fewer ≤ more) :
    UInt8.ofNat (256 - 2 ^ (8 - more)) &&& UInt8.ofNat (256 - 2 ^ (8 - fewer)) =
      UInt8.ofNat (256 - 2 ^ (8 - fewer)) := by
  have hall : ∀ j ≤ 8, ∀ k ≤ j, UInt8.ofNat (256 - 2 ^ k) &&& UInt8.ofNat (256 - 2 ^ j) =
      UInt8.ofNat (256 - 2 ^ j) := by decide
  exact hall (8 - fewer) (Nat.sub_le _ _) (8 - more) (Nat.sub_le_sub_left h 8)

theorem maskCovers_prefixMask (n : Nat) {fewer more : Nat} (h : fewer ≤ more) :
    maskCovers (prefixMask n more) (prefixMask n fewer) = true := by
  induction n generalizing fewer more with
  | zero => rfl
  | succ n ih => exact maskCovers_cons.mpr ⟨headMask_and h, ih (Nat.sub_le_sub_right h 8)⟩

variable {address net net' mask mask' : Bytes}

theorem maskedEqual_trans (hnet : address.length ≤ net.length) (hmask : address.length ≤ mask.length)
    (h : maskedEqual address net mask = true) (hcovers : maskCovers mask mask' = true)
    (h' : maskedEqual net net' mask' = true) : maskedEqual address net' mask' = true := by
  induction address generalizing net net' mask mask' with
  | nil => rfl
  | cons a as ih =>
    obtain ⟨n, ns, rfl⟩ := List.exists_cons_of_length_pos (Nat.zero_lt_of_lt hnet)
    obtain ⟨m, ms, rfl⟩ := List.exists_cons_of_length_pos (Nat.zero_lt_of_lt hmask)
    cases net' with
    | nil => rfl
    | cons n' ns' =>
      cases mask' with
      | nil => rfl
      | cons m' ms' =>
        obtain ⟨hbits, hrest⟩ := maskedEqual_cons.mp h
        obtain ⟨hbits', hrest'⟩ := maskedEqual_cons.mp h'
        obtain ⟨hm, hms⟩ := maskCovers_cons.mp hcovers
        refine maskedEqual_cons.mpr ⟨?_, ih (Nat.le_of_succ_le_succ hnet)
          (Nat.le_of_succ_le_succ hmask) hrest hms hrest'⟩
        calc a &&& m' = a &&& m &&& m' := by rw [UInt8.and_assoc, hm]
          _ = n &&& m &&& m' := by rw [hbits]
          _ = n &&& m' := by rw [UInt8.and_assoc, hm]
          _ = n' &&& m' := hbits'

theorem maskedEqual_comm (address net mask : Bytes) :
    maskedEqual address net mask = maskedEqual net address mask := by
  induction address generalizing net mask with
  | nil => cases net <;> rfl
  | cons a as ih =>
    cases net with
    | nil => rfl
    | cons n ns =>
      cases mask with
      | nil => rfl
      | cons m ms => rw [maskedEqual, maskedEqual, ih, BEq.comm]

theorem addressUnder_iff {base : Bytes} :
    addressUnder base address = true ↔ base.length = 2 * address.length ∧
      maskedEqual address (base.take address.length) (base.drop address.length) = true := by
  simp [addressUnder]

theorem addressWithin_iff {inner outer : Bytes} {n : Nat} (h : inner.length = 2 * n) :
    addressWithin inner outer = true ↔ outer.length = 2 * n ∧
      maskCovers (inner.drop n) (outer.drop n) = true ∧
      maskedEqual (inner.take n) (outer.take n) (outer.drop n) = true := by
  have htake : (inner.take n).length = n := by
    rw [List.length_take]
    omega
  have hhalf : inner.length / 2 = n := by omega
  have heven : inner.length % 2 = 0 := by omega
  simp only [addressWithin, hhalf, heven, Bool.and_eq_true, beq_iff_eq, addressUnder_iff, htake]
  constructor
  · intro h
    exact ⟨h.2.1, h.1.2, h.2.2⟩
  · intro h
    obtain ⟨hlength, hcovers, hequal⟩ := h
    exact ⟨⟨⟨by omega, trivial⟩, hcovers⟩, hlength, hequal⟩

theorem addressUnder_trans {inner outer : Bytes} (h : addressWithin inner outer = true)
    (h' : addressUnder inner address = true) : addressUnder outer address = true := by
  obtain ⟨hlength, hequal⟩ := addressUnder_iff.mp h'
  obtain ⟨houter, hcovers, hequal'⟩ := (addressWithin_iff hlength).mp h
  have hnet : address.length ≤ (inner.take address.length).length := by
    rw [List.length_take]
    omega
  have hmask : address.length ≤ (inner.drop address.length).length := by
    rw [List.length_drop]
    omega
  exact addressUnder_iff.mpr ⟨houter, maskedEqual_trans hnet hmask hequal hcovers hequal'⟩

/-- Of two networks that share an address, the one with more bits lies within the other. -/
theorem addressWithin_of_bits {inner outer : Bytes} {fewer more : Nat}
    (h : addressUnder inner address = true) (h' : addressUnder outer address = true)
    (hinner : inner.drop address.length = prefixMask address.length more)
    (houter : outer.drop address.length = prefixMask address.length fewer)
    (hle : fewer ≤ more) : addressWithin inner outer = true := by
  obtain ⟨hlength, hequal⟩ := addressUnder_iff.mp h
  obtain ⟨hlength', hequal'⟩ := addressUnder_iff.mp h'
  have hcovers : maskCovers (inner.drop address.length) (outer.drop address.length) = true := by
    rw [hinner, houter]
    exact maskCovers_prefixMask _ hle
  have hnet : (inner.take address.length).length ≤ address.length := List.length_take_le _ _
  have hmask : (inner.take address.length).length ≤ (inner.drop address.length).length := by
    rw [List.length_drop]
    omega
  rw [maskedEqual_comm] at hequal
  exact (addressWithin_iff hlength).mpr
    ⟨hlength', hcovers, maskedEqual_trans hnet hmask hequal hcovers hequal'⟩

theorem HasPrefixMask.exists_bits {s : Subtree} {base : Bytes} (h : s.HasPrefixMask)
    (hbase : s.base = .ip base) (hunder : addressUnder base address = true) :
    ∃ bits, base.drop address.length = prefixMask address.length bits := by
  obtain ⟨hlength, -⟩ := addressUnder_iff.mp hunder
  obtain ⟨bits, hbits⟩ := h base hbase
  have hhalf : base.length / 2 = address.length := by omega
  have hrest : base.length - address.length = address.length := by omega
  rw [hhalf, hrest] at hbits
  exact ⟨bits, hbits⟩

end Addresses

variable {s t : Subtree}

/-- A subtree of hosts lies within another if its base does. -/
theorem isWithin_of_dns {base : String} (h : s.base = .dns base) :
    s.isWithin t = (ConstrainedName.dns base).isWithin t := by
  unfold isWithin ConstrainedName.isWithin
  rw [h]
  cases t.base <;> rfl

/-- A subtree of mailboxes lies within another if its base does. -/
theorem isWithin_of_email {base : String} (h : s.base = .email base) :
    s.isWithin t = (ConstrainedName.email base).isWithin t := by
  unfold isWithin ConstrainedName.isWithin
  rw [h]
  cases t.base <;> rfl

theorem isWithin_of_ip {base : Bytes} (h : s.base = .ip base) :
    s.isWithin t = true ↔ ∃ outer, t.base = .ip outer ∧ addressWithin base outer = true := by
  unfold isWithin
  rw [h]
  cases t.base <;> simp

/-- Two subtrees for the subdomains of one host that are written differently: the letters of the
host differ in case, or the limits do. -/
def IsRespelling (s t : Subtree) : Prop :=
  s ≠ t ∧ ∃ base other, s.base = .dns base ∧ t.base = .dns other ∧
    lower base.toList = lower other.toList ∧ (lower base.toList).head? = some '.'

end Subtree

namespace ConstrainedName

open Subtree

variable {name : ConstrainedName} {s t : Subtree}

theorem isWithin_email_iff {address : String} :
    (email address).isWithin s = true ↔
      ∃ base, s.base = .email base ∧ emailUnder base address = true := by
  unfold isWithin
  cases s.base <;> simp

theorem isWithin_ip_iff {address : Bytes} :
    (ip address).isWithin s = true ↔
      ∃ base, s.base = .ip base ∧ addressUnder base address = true := by
  unfold isWithin
  cases s.base <;> simp

/-- What lies within a subtree lies within all that contain it. -/
theorem isWithin_trans (hform : name.form ∈ [.dns, .email, .ip]) (h : name.isWithin s = true)
    (hst : s.isWithin t = true) : name.isWithin t = true := by
  cases name with
  | dns host =>
    obtain ⟨base, hbase, hunder⟩ := isWithin_dns_iff.mp h
    rw [isWithin_of_dns hbase] at hst
    obtain ⟨outer, houter, hunder'⟩ := isWithin_dns_iff.mp hst
    exact isWithin_dns_iff.mpr ⟨outer, houter, hostUnder_trans hunder' hunder⟩
  | email address =>
    obtain ⟨base, hbase, hunder⟩ := isWithin_email_iff.mp h
    rw [isWithin_of_email hbase] at hst
    obtain ⟨outer, houter, hunder'⟩ := isWithin_email_iff.mp hst
    rw [emailUnder_iff] at hunder hunder'
    exact isWithin_email_iff.mpr
      ⟨outer, houter, (emailUnder_iff outer address).mpr (hunder'.trans hunder)⟩
  | ip address =>
    obtain ⟨base, hbase, hunder⟩ := isWithin_ip_iff.mp h
    obtain ⟨outer, houter, hwithin⟩ := (isWithin_of_ip hbase).mp hst
    exact isWithin_ip_iff.mpr ⟨outer, houter, addressUnder_trans hwithin hunder⟩
  | directory | uriHost => exact absurd hform (by simp [form])

/-- Of two subtrees that share a name one contains the other, unless they are one domain spelt in
two ways. -/
theorem isWithin_nested (hform : name.form ∈ [.dns, .email, .ip]) (hs : name.isWithin s = true)
    (ht : name.isWithin t = true) (hmask : s.HasPrefixMask) (hmask' : t.HasPrefixMask)
    (hspelt : ¬s.IsRespelling t) : s = t ∨ s.isWithin t = true ∨ t.isWithin s = true := by
  cases name with
  | dns host =>
    obtain ⟨base, hbase, hunder⟩ := isWithin_dns_iff.mp hs
    obtain ⟨other, hother, hunder'⟩ := isWithin_dns_iff.mp ht
    rw [isWithin_of_dns hbase, isWithin_of_dns hother]
    rcases hostUnder_nested hunder hunder' with hbelow | hbelow | ⟨heq, hhead⟩
    · exact .inr (.inr (isWithin_dns_iff.mpr ⟨base, hbase, hbelow⟩))
    · exact .inr (.inl (isWithin_dns_iff.mpr ⟨other, hother, hbelow⟩))
    · left
      by_contra hne
      exact hspelt ⟨hne, base, other, hbase, hother, heq, hhead⟩
  | email address =>
    obtain ⟨base, hbase, hunder⟩ := isWithin_email_iff.mp hs
    obtain ⟨other, hother, hunder'⟩ := isWithin_email_iff.mp ht
    rw [isWithin_of_email hbase, isWithin_of_email hother]
    rw [emailUnder_iff] at hunder hunder'
    rcases hunder.nested hunder' with hbelow | hbelow
    · exact .inr (.inr (isWithin_email_iff.mpr
        ⟨base, hbase, (emailUnder_iff base other).mpr hbelow⟩))
    · exact .inr (.inl (isWithin_email_iff.mpr
        ⟨other, hother, (emailUnder_iff other base).mpr hbelow⟩))
  | ip address =>
    obtain ⟨base, hbase, hunder⟩ := isWithin_ip_iff.mp hs
    obtain ⟨other, hother, hunder'⟩ := isWithin_ip_iff.mp ht
    obtain ⟨bits, hbits⟩ := hmask.exists_bits hbase hunder
    obtain ⟨bits', hbits'⟩ := hmask'.exists_bits hother hunder'
    rw [isWithin_of_ip hbase, isWithin_of_ip hother]
    rcases Nat.le_total bits bits' with hle | hle
    · exact .inr (.inr ⟨base, hbase, addressWithin_of_bits hunder' hunder hbits' hbits hle⟩)
    · exact .inr (.inl ⟨other, hother, addressWithin_of_bits hunder hunder' hbits hbits' hle⟩)
  | directory | uriHost => exact absurd hform (by simp [form])

end ConstrainedName
end ChainTrust
