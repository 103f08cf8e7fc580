import ChainTrust.Text.Pem

namespace ChainTrust

namespace Base64

/-- A symbol stands for its number, and is neither padding nor a line end. -/
theorem symbol_spec : ∀ n < 64, value? (symbol n) = some n ∧ symbol n ≠ pad ∧ symbol n ≠ 13 := by
  decide

theorem value?_symbol {n : Nat} (h : n < 64) : value? (symbol n) = some n :=
  (symbol_spec n h).1

theorem symbol_ne_pad {n : Nat} (h : n < 64) : symbol n ≠ pad :=
  (symbol_spec n h).2.1

theorem ofNat_eq {n : Nat} {b : UInt8} (h : n = b.toNat) : UInt8.ofNat n = b := by
  rw [h, UInt8.ofNat_toNat]

theorem last?_one (a : UInt8) :
    last? (symbol (a.toNat / 4)) (symbol (a.toNat % 4 * 16)) pad pad = some [a] := by
  have ha : a.toNat < 256 := a.toNat_lt
  simp only [last?, value?_symbol (by omega : a.toNat / 4 < 64),
    value?_symbol (by omega : a.toNat % 4 * 16 < 64), Option.bind_eq_bind, Option.bind_some, if_true]
  rw [if_pos (by omega), ofNat_eq (b := a) (by omega)]

theorem last?_two (a b : UInt8) :
    last? (symbol (a.toNat / 4)) (symbol (a.toNat % 4 * 16 + b.toNat / 16))
      (symbol (b.toNat % 16 * 4)) pad = some [a, b] := by
  have ha : a.toNat < 256 := a.toNat_lt
  have hb : b.toNat < 256 := b.toNat_lt
  simp only [last?, value?_symbol (by omega : a.toNat / 4 < 64),
    value?_symbol (by omega : a.toNat % 4 * 16 + b.toNat / 16 < 64),
    value?_symbol (by omega : b.toNat % 16 * 4 < 64), Option.bind_eq_bind, Option.bind_some, if_true]
  rw [if_neg (symbol_ne_pad (by omega)), if_pos (by omega), ofNat_eq (b := a) (by omega),
    ofNat_eq (b := b) (by omega)]

theorem full?_three (a b c : UInt8) :
    full? (symbol (a.toNat / 4)) (symbol (a.toNat % 4 * 16 + b.toNat / 16))
      (symbol (b.toNat % 16 * 4 + c.toNat / 64)) (symbol (c.toNat % 64)) = some [a, b, c] := by
  have ha : a.toNat < 256 := a.toNat_lt
  have hb : b.toNat < 256 := b.toNat_lt
  have hc : c.toNat < 256 := c.toNat_lt
  simp only [full?, value?_symbol (by omega : a.toNat / 4 < 64),
    value?_symbol (by omega : a.toNat % 4 * 16 + b.toNat / 16 < 64),
    value?_symbol (by omega : b.toNat % 16 * 4 + c.toNat / 64 < 64),
    value?_symbol (by omega : c.toNat % 64 < 64), Option.bind_eq_bind, Option.bind_some]
  rw [ofNat_eq (b := a) (by omega), ofNat_eq (b := b) (by omega), ofNat_eq (b := c) (by omega)]
  rfl

/-- Four symbols without padding are read in the same way at the end and before it. -/
theorem decode?_of_ne_pad {a b c d : UInt8} (h : d ≠ pad) (rest : Bytes) :
    decode? (a :: b :: c :: d :: rest) = do return (← full? a b c d) ++ (← decode? rest) := by
  cases rest with
  | nil =>
    change last? a b c d = _
    rw [last?, if_neg h]
    cases full? a b c d <;> simp [decode?]
  | cons e rest => rfl

theorem decode?_encode (bytes : Bytes) : decode? (encode bytes) = some bytes := by
  fun_induction encode bytes with
  | case1 => rfl
  | case2 a => exact last?_one a
  | case3 a b => exact last?_two a b
  | case4 a b c rest ih =>
    rw [decode?_of_ne_pad (symbol_ne_pad (Nat.mod_lt _ (by decide))), full?_three, ih]
    rfl

theorem encode_ne_nil {bytes : Bytes} (h : bytes ≠ []) : encode bytes ≠ [] := by
  fun_cases encode bytes with
  | case1 => exact absurd rfl h
  | _ => simp

theorem ne_return_of_mem_encode {bytes : Bytes} : ∀ b ∈ encode bytes, b ≠ 13 := by
  have hsymbol : ∀ n < 64, symbol n ≠ 13 := fun n h => (symbol_spec n h).2.2
  fun_induction encode bytes with
  | case1 => simp
  | case2 a =>
    have ha : a.toNat < 256 := a.toNat_lt
    simp only [List.forall_mem_cons]
    exact ⟨hsymbol _ (by omega), hsymbol _ (by omega), by decide, by decide, by simp⟩
  | case3 a b =>
    have ha : a.toNat < 256 := a.toNat_lt
    have hb : b.toNat < 256 := b.toNat_lt
    simp only [List.forall_mem_cons]
    exact ⟨hsymbol _ (by omega), hsymbol _ (by omega), hsymbol _ (by omega), by decide, by simp⟩
  | case4 a b c rest ih =>
    have ha : a.toNat < 256 := a.toNat_lt
    have hb : b.toNat < 256 := b.toNat_lt
    have hc : c.toNat < 256 := c.toNat_lt
    simp only [List.forall_mem_cons]
    exact ⟨hsymbol _ (by omega), hsymbol _ (by omega), hsymbol _ (by omega), hsymbol _ (by omega), ih⟩

end Base64

namespace Pem

theorem stripPrefix?_append (p s : Bytes) : stripPrefix? p (p ++ s) = some s := by
  induction p with
  | nil => rfl
  | cons b p ih => rw [List.cons_append, stripPrefix?, if_pos rfl, ih]

theorem stripSuffix?_append (p s : Bytes) : stripSuffix? p (s ++ p) = some s := by
  rw [stripSuffix?, List.reverse_append, stripPrefix?_append, Option.map_some, List.reverse_reverse]

theorem stripLastLineEnd?_concat {s : Bytes} (h : s.getLast? ≠ some 13) :
    stripLastLineEnd? (s ++ [10]) = some s := by
  rw [List.getLast?_eq_head?_reverse] at h
  rw [stripLastLineEnd?, List.reverse_append]
  obtain ⟨t, rfl⟩ : ∃ t, s = List.reverse t := ⟨s.reverse, (List.reverse_reverse s).symm⟩
  rw [List.reverse_reverse] at h ⊢
  cases t with
  | nil => rfl
  | cons b t =>
    have hb : b ≠ 13 := fun hb => h (congrArg some hb)
    simp [hb]

/-- A label ends at the hyphen after it. -/
theorem label?_append {l : Bytes} (h : ∀ b ∈ l, isLabelByte b = true) (afterWord : Bool) (s : Bytes) :
    label? afterWord (l ++ 45 :: s) = some (l, 45 :: s) := by
  induction l generalizing afterWord with
  | nil => rfl
  | cons b l ih =>
    obtain ⟨hb, hl⟩ := List.forall_mem_cons.mp h
    have hne : b ≠ 45 := by
      rintro rfl
      exact absurd hb (by decide)
    rw [List.cons_append, label?, if_neg hne, if_pos hb, ih hl]
    rfl

/-- Lines end with line feeds; without the last one they are joined again. -/
theorem exists_lines (width : Nat) (s : Bytes) :
    ∃ lines, wrap width s = lines ++ [10] ∧ unwrap? width lines = some s ∧
      ((∀ b ∈ s, b ≠ 13) → ∀ b ∈ lines, b ≠ 13) ∧ s.length ≤ lines.length := by
  fun_induction wrap width s with
  | case1 s h => exact ⟨s, rfl, by rw [unwrap?, if_pos h], fun hs => hs, Nat.le_refl _⟩
  | case2 s h ih =>
    obtain ⟨lines, hwrap, hunwrap, hreturn, hlength⟩ := ih
    have hwidth : (s.take width).length = width := List.length_take_of_le (by omega)
    refine ⟨s.take width ++ 10 :: lines, by simp [hwrap], ?_, fun hs => ?_, ?_⟩
    · have hlong : ¬((s.take width ++ 10 :: lines).length ≤ width ∨ width = 0) := by
        rw [List.length_append, hwidth, List.length_cons]
        omega
      rw [unwrap?, if_neg hlong, List.drop_left' hwidth, List.take_left' hwidth]
      simp only [stripLineEnd?, Option.bind_eq_bind, Option.bind_some, hunwrap]
      rw [if_pos (by simp; omega), List.take_append_drop]
      rfl
    · intro b hb
      rcases List.mem_append.mp hb with hfront | hback
      · exact hs b (List.mem_of_mem_take hfront)
      · rcases List.mem_cons.mp hback with rfl | hline
        · decide
        · exact hreturn (fun b hb => hs b (List.mem_of_mem_drop hb)) b hline
    · simp only [List.length_append, List.length_cons, List.length_drop] at hlength hwidth ⊢
      omega

/-- A block is found in its armour. -/
theorem decode?_encode {block : Block} (hlabel : ∀ b ∈ block.label, isLabelByte b = true)
    (hcontent : block.content ≠ []) : decode? (encode block) = some block := by
  obtain ⟨lines, hwrap, hunwrap, hreturn, hlength⟩ :=
    exists_lines lineWidth (Base64.encode block.content)
  have hnonempty : lines ≠ [] := by
    have hpos := List.length_pos_iff.mpr (Base64.encode_ne_nil hcontent)
    exact List.length_pos_iff.mp (by omega)
  have hlast : lines.getLast? ≠ some 13 := fun h =>
    hreturn Base64.ne_return_of_mem_encode 13 (List.mem_of_getLast? h) rfl
  have hend : dashes.getLast? = some 45 := by decide
  let body := lines ++ [10] ++ closing ++ block.label ++ dashes
  have hstart : stripPrefix? opening (encode block) =
      some (block.label ++ 45 :: (dashes.tail ++ 10 :: (body ++ [10]))) := by
    rw [encode, hwrap]
    simp only [body, List.append_assoc, stripPrefix?_append]
    rfl
  have hboundary : stripPrefix? dashes (45 :: (dashes.tail ++ 10 :: (body ++ [10]))) =
      some (10 :: (body ++ [10])) :=
    stripPrefix?_append dashes _
  have hbody : stripLastLineEnd? (body ++ [10]) = some body := by
    refine stripLastLineEnd?_concat ?_
    rw [List.getLast?_append, hend]
    nofun
  simp only [decode?, hstart, Option.some_or, Option.bind_eq_bind, Option.bind_some,
    label?_append hlabel, hboundary, stripLineEnd?, hbody, Option.getD_some, body,
    stripSuffix?_append, stripLastLineEnd?_concat hlast, hunwrap, Base64.decode?_encode]
  rw [if_neg (by simpa using hnonempty)]
  rfl

end Pem
end ChainTrust
