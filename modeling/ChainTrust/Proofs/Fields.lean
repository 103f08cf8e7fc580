import ChainTrust.Proofs.Codecs

namespace ChainTrust.Der

namespace Reader

/-- Whether a context-specific field comes next. No other field may be passed over. -/
def seekNext (number : UInt8) (s : Bytes) : Option (Bool × Bytes) :=
  (seek number s).filter (·.2 == s)

def peekIs (p : Option UInt8 → Bool) : Reader Bool := do
  return p (← peek)

theorem peek_cons {t : UInt8} (h : isTag t = true) (s : Bytes) : peek (t :: s) = some (some t, t :: s) :=
  if_pos h

theorem eq_of_peek {s rest : Bytes} {o : Option UInt8} (h : peek s = some (o, rest)) : rest = s := by
  unfold peek at h
  split at h
  · cases h
    rfl
  · split at h
    · cases h
      rfl
    · cases h

theorem peekIs_cons (p : Option UInt8 → Bool) {t : UInt8} (h : isTag t = true) (s : Bytes) :
    peekIs p (t :: s) = some (p (some t), t :: s) := by
  change (peek (t :: s)).bind (fun x => some (p x.1, x.2)) = _
  rw [peek_cons h]
  rfl

theorem optional_eq_ifNext {α : Type} (expected : UInt8) (r : Reader α) :
    optional expected r = ifNext (peekIs fun t => t = some expected) r := by
  simp only [optional, ifNext, peekIs, bind_assoc, pure_bind, decide_eq_true_eq]

theorem seek_nil (number : UInt8) : seek number [] = some (false, []) := by
  rw [seek]
  rfl

theorem seek_of_not_tag {number t : UInt8} (h : ¬isTag t = true) (s : Bytes) :
    seek number (t :: s) = none := by
  rw [seek, show peek (t :: s) = none from if_neg h]
  rfl

theorem seek_cons {number t : UInt8} (htag : isTag t = true) (s : Bytes) :
    seek number (t :: s) =
      if t &&& 0xC0 ≠ 0x80 ∨ number < t &&& 0x1F then some (false, t :: s)
      else if t &&& 0x1F = number then some (true, t :: s)
      else (anyElement (t :: s)).bind fun x =>
        if x.2.length < (t :: s).length then seek number x.2 else none := by
  rw [seek, peek_cons htag]
  rfl

theorem seekNext_of_found {number t : UInt8} (htag : isTag t = true) (hclass : t &&& 0xC0 = 0x80)
    (hnumber : t &&& 0x1F = number) (s : Bytes) : seekNext number (t :: s) = some (true, t :: s) := by
  have hnot : ¬(t &&& 0xC0 ≠ 0x80 ∨ number < t &&& 0x1F) := by
    rw [hnumber, hclass]
    simp
  rw [seekNext, seek_cons htag, if_neg hnot, if_pos hnumber]
  simp

theorem seekNext_of_other {number t : UInt8} (htag : isTag t = true)
    (hother : t &&& 0xC0 ≠ 0x80 ∨ number < t &&& 0x1F) (s : Bytes) :
    seekNext number (t :: s) = some (false, t :: s) := by
  rw [seekNext, seek_cons htag, if_pos hother]
  simp

theorem seekNext_nil (number : UInt8) : seekNext number [] = some (false, []) := by
  rw [seekNext, seek_nil]
  rfl

theorem seek_shorter {number : UInt8} {s rest : Bytes} {b : Bool} (h : seek number s = some (b, rest)) :
    rest.length ≤ s.length := by
  induction s using seek.induct with
  | case1 s ih =>
    cases s with
    | nil =>
      rw [seek_nil] at h
      cases h
      exact Nat.le_refl _
    | cons t s =>
      by_cases htag : isTag t = true
      · rw [seek_cons htag] at h
        split at h
        · cases h
          exact Nat.le_refl _
        · split at h
          · cases h
            exact Nat.le_refl _
          · obtain ⟨⟨_, mid⟩, -, hseek⟩ := Option.bind_eq_some_iff.mp h
            split at hseek
            · rename_i hlt
              exact Nat.le_trans (ih mid hlt hseek) (Nat.le_of_lt hlt)
            · cases hseek
      · rw [seek_of_not_tag htag] at h
        cases h

end Reader

theorem lookahead_peekIs (p : Option UInt8 → Bool) : Lookahead (Reader.peekIs p) (Reader.peekIs p) := by
  have hstill : ∀ {s rest b}, Reader.peekIs p s = some (b, rest) → rest = s := by
    intro s rest b h
    simp only [Reader.peekIs, Reader.bind_eq_some_iff, Reader.pure_eq_some_iff] at h
    obtain ⟨o, mid, hpeek, -, rfl⟩ := h
    exact Reader.eq_of_peek hpeek
  exact ⟨fun h => h, hstill, fun h => Nat.le_of_eq (congrArg List.length (hstill h))⟩

theorem lookahead_seek (number : UInt8) : Lookahead (Reader.seek number) (Reader.seekNext number) := by
  constructor
  · intro s rest b h
    exact (Option.filter_eq_some_iff.mp h).1
  · intro s rest b h
    exact eq_of_beq (Option.filter_eq_some_iff.mp h).2
  · intro s rest b h
    exact Reader.seek_shorter h

/-- A field is found where it is written. -/
theorem Codec.field {α : Type} {number tag : UInt8} {p strict : Bytes → Option α} {w : α → Bytes}
    (h : ContentCodec p strict w) (htag : Reader.isTag tag = true)
    (hclass : tag &&& 0xC0 = 0x80) (hnumber : tag &&& 0x1F = number) :
    Codec (Reader.ifNext (Reader.seek number) (do Reader.lift (p (← Reader.content tag))))
      (Reader.ifNext (Reader.seekNext number) (do Reader.lift (strict (← Reader.content tag))))
      (fun o => (o.map fun a => element tag (w a)).getD [])
      fun more => Reader.seekNext number more = some (false, more) :=
  (h.element tag).ifNext (lookahead_seek number) fun _ _ _ =>
    Reader.seekNext_of_found htag hclass hnumber _

end ChainTrust.Der
