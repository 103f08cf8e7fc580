import ChainTrust.Proofs.Framing

namespace ChainTrust

namespace Bytes

/-- A word in front of other bytes can be told from them. -/
theorem fixed_append_inj {width m n : Nat} {left right : Bytes} (hm : m < capacity width)
    (hn : n < capacity width) (h : fixed width m ++ left = fixed width n ++ right) :
    m = n ∧ left = right := by
  have hlength : (fixed width m).length = (fixed width n).length := by
    rw [length_fixed, length_fixed]
  obtain ⟨hword, hrest⟩ := List.append_inj h hlength
  rw [← toNat_fixed hm, hword, toNat_fixed hn]
  exact ⟨rfl, hrest⟩

/-- A block in front of other bytes can be told from them, since its length comes first. -/
theorem block_append_inj {width : Nat} {content other block others left right : Bytes}
    (hcontent : Bytes.block width content = some block)
    (hother : Bytes.block width other = some others) (h : block ++ left = others ++ right) :
    content = other ∧ left = right := by
  obtain ⟨hfits, rfl⟩ := block_eq_some_iff.mp hcontent
  obtain ⟨hfits', rfl⟩ := block_eq_some_iff.mp hother
  rw [List.append_assoc, List.append_assoc] at h
  obtain ⟨hlength, hrest⟩ := fixed_append_inj hfits hfits' h
  exact List.append_inj hrest hlength

theorem block_eq_none_iff {width : Nat} {content : Bytes} :
    block width content = none ↔ capacity width ≤ content.length := by
  unfold block
  split
  · rename_i h
    simpa using h
  · rename_i h
    simpa using h

end Bytes

namespace LogEntry

/-- The certificate, or the part of it that is signed. -/
def body : LogEntry → Bytes
  | .certificate encoded => encoded
  | .precertificate _ body => body

/-- What stands for the key of an issuer, if anything does, is a SHA-256 digest. -/
def NamesDigest : LogEntry → Prop
  | .certificate _ => True
  | .precertificate issuerKeyHash _ => issuerKeyHash.length = 32

end LogEntry

namespace Sct

theorem entryBytes?_eq_none_iff {e : LogEntry} :
    entryBytes? e = none ↔ Bytes.capacity 3 ≤ e.body.length := by
  cases e <;> simp only [entryBytes?, LogEntry.body, Option.map_eq_none_iff, Bytes.block_eq_none_iff]

/-- An entry in front of other bytes can be told from them. The kind comes first, and what follows
it in an entry of either kind has a length that is known or comes before it. -/
theorem entryBytes?_append_inj {d e : LogEntry} {bytes others left right : Bytes}
    (hd : d.NamesDigest) (he : e.NamesDigest) (hbytes : entryBytes? d = some bytes)
    (hothers : entryBytes? e = some others) (h : bytes ++ left = others ++ right) :
    d = e ∧ left = right := by
  cases d with
  | certificate encoded =>
    obtain ⟨block, hblock, rfl⟩ := Option.map_eq_some_iff.mp hbytes
    cases e with
    | certificate encoded' =>
      obtain ⟨block', hblock', rfl⟩ := Option.map_eq_some_iff.mp hothers
      rw [List.append_assoc, List.append_assoc] at h
      obtain ⟨rfl, hrest⟩ := Bytes.block_append_inj hblock hblock' (List.append_cancel_left h)
      exact ⟨rfl, hrest⟩
    | precertificate issuerKeyHash' body' =>
      obtain ⟨block', hblock', rfl⟩ := Option.map_eq_some_iff.mp hothers
      rw [List.append_assoc, List.append_assoc] at h
      have hkind := (Bytes.fixed_append_inj (by decide) (by decide) h).1
      exact absurd hkind Nat.zero_ne_one
  | precertificate issuerKeyHash body =>
    obtain ⟨block, hblock, rfl⟩ := Option.map_eq_some_iff.mp hbytes
    cases e with
    | certificate encoded' =>
      obtain ⟨block', hblock', rfl⟩ := Option.map_eq_some_iff.mp hothers
      rw [List.append_assoc, List.append_assoc] at h
      have hkind := (Bytes.fixed_append_inj (by decide) (by decide) h).1
      exact absurd hkind Nat.one_ne_zero
    | precertificate issuerKeyHash' body' =>
      obtain ⟨block', hblock', rfl⟩ := Option.map_eq_some_iff.mp hothers
      simp only [List.append_assoc, List.append_cancel_left_eq] at h
      obtain ⟨rfl, hblocks⟩ := List.append_inj h (hd.trans he.symm)
      obtain ⟨rfl, hrest⟩ := Bytes.block_append_inj hblock hblock' hblocks
      exact ⟨rfl, hrest⟩

theorem signedData_eq_ok_iff {s : Sct} {e : LogEntry} {message : Bytes} :
    s.signedData e = .ok message ↔
      ∃ entry extensions, entryBytes? e = some entry ∧
        Bytes.block 2 s.extensions = some extensions ∧
        message = s.version :: 0 :: (Bytes.fixed 8 s.timestamp.toNat ++ (entry ++ extensions)) := by
  unfold signedData
  cases entryBytes? e with
  | none => simp
  | some entry =>
    cases Bytes.block 2 s.extensions with
    | none => simp
    | some extensions => simp [eq_comm]

theorem signedData_eq_error_iff {s : Sct} {e : LogEntry} {error : Error} :
    s.signedData e = .error error ↔ error = .badLength ∧
      (Bytes.capacity 3 ≤ e.body.length ∨ Bytes.capacity 2 ≤ s.extensions.length) := by
  rw [← entryBytes?_eq_none_iff, ← Bytes.block_eq_none_iff]
  unfold signedData
  cases entryBytes? e with
  | none => simp [eq_comm]
  | some entry =>
    cases Bytes.block 2 s.extensions with
    | none => simp [eq_comm]
    | some extensions => simp

/-- One message is signed for one version, time, entry and extensions only. There is a message
unless the entry or the extensions are too long. -/
theorem signedData_unambiguous :
    (∀ (s t : Sct) (d e : LogEntry) (message : Bytes), d.NamesDigest → e.NamesDigest →
      s.signedData d = .ok message → t.signedData e = .ok message →
        s.version = t.version ∧ s.timestamp = t.timestamp ∧ s.extensions = t.extensions ∧ d = e) ∧
    (∀ (s : Sct) (e : LogEntry) (error : Error), s.signedData e = .error error ↔
      error = .badLength ∧ (16777215 < e.body.length ∨ 65535 < s.extensions.length)) := by
  refine ⟨fun s t d e message hd he hs ht => ?_, fun _ _ _ => signedData_eq_error_iff⟩
  obtain ⟨entry, extensions, hentry, hextensions, rfl⟩ := signedData_eq_ok_iff.mp hs
  obtain ⟨entry', extensions', hentry', hextensions', hmessage⟩ := signedData_eq_ok_iff.mp ht
  obtain ⟨hversion, hrest⟩ := List.cons.inj hmessage
  obtain ⟨htime, hrest⟩ := Bytes.fixed_append_inj s.timestamp.toNat_lt t.timestamp.toNat_lt
    (List.cons.inj hrest).2
  obtain ⟨hentries, hrest⟩ := entryBytes?_append_inj hd he hentry hentry' hrest
  have hblocks : extensions ++ [] = extensions' ++ [] := by
    rw [hrest]
  have hcontents := (Bytes.block_append_inj hextensions hextensions' hblocks).1
  exact ⟨hversion, UInt64.toNat_inj.mp htime, hcontents, hentries⟩

/-- Two logs sign the same for an entry that they both saw at the same time. -/
theorem signedData_unambiguous_logs :
    let s : Sct := ⟨0, [1], 5, [], 4, 3, [7]⟩
    let t : Sct := ⟨0, [2], 5, [], 4, 3, [8, 9]⟩
    let e : LogEntry := .precertificate (List.replicate 32 0) [48, 0]
    e.NamesDigest ∧ s.signedData e = t.signedData e ∧ s.version = t.version ∧
      s.timestamp = t.timestamp ∧ s.extensions = t.extensions ∧ e = e :=
  ⟨rfl, rfl, signedData_unambiguous.1 _ _ _ _ _ rfl rfl rfl rfl⟩

end Sct
end ChainTrust
