import ChainTrust.Proofs.Waivers

namespace ChainTrust

/-- The path with trust restored in its anchor and its keys, or without. -/
def Path.allowlisted (p : Path) (restored : Bool) : Path :=
  { p with isAllowlisted := restored }

variable {r : Request} {p : Path}

namespace Processing

/-- What restored trust takes out of the findings. -/
inductive Restored (r : Request) (p : Path) : Finding → Prop where
  | anchor (h : r.trustsAnchor p = false) : Restored r p (.violated .anchorTrusted (p.length - 1))
  | keys (h : (p.allowlisted false).HasBlockedAuthority r) : Restored r p (.verdict .fatal)

theorem mem_basic_allowlisted {f : Finding} :
    f ∈ basic r (p.allowlisted false) ↔ f ∈ basic r (p.allowlisted true) ∨
      r.trustsAnchor p = false ∧ f = .violated .anchorTrusted (p.length - 1) := by
  rw [mem_basic, mem_basic]
  constructor
  · intro h
    rcases h with ⟨ht, -, rfl⟩ | h
    · exact .inr ⟨ht, rfl⟩
    · exact .inl (.inr h)
  · intro h
    rcases h with (⟨-, ha, -⟩ | h) | ⟨ht, rfl⟩
    · cases ha
    · exact .inr h
    · exact .inl ⟨ht, rfl, rfl⟩

theorem mem_listedKeys_allowlisted {f : Finding} :
    f ∈ listedKeys r (p.allowlisted false) ↔ f ∈ listedKeys r (p.allowlisted true) ∨
      (p.allowlisted false).HasBlockedAuthority r ∧ f = .verdict .fatal := by
  rw [mem_listedKeys, mem_listedKeys]
  constructor
  · intro h
    obtain ⟨ix, c, h1, hn, hc, ⟨hb, rfl | ⟨ha, rfl⟩⟩ | hg⟩ := h
    · exact .inl ⟨ix, c, h1, hn, hc, .inl ⟨hb, .inl rfl⟩⟩
    · exact .inr ⟨⟨ha, ix, hn, h1, c, hc, hb⟩, rfl⟩
    · exact .inl ⟨ix, c, h1, hn, hc, .inr hg⟩
  · intro h
    rcases h with ⟨ix, c, h1, hn, hc, ⟨hb, rfl | ⟨ha, -⟩⟩ | hg⟩ | ⟨⟨ha, ix, hn, h1, c, hc, hb⟩, rfl⟩
    · exact ⟨ix, c, h1, hn, hc, .inl ⟨hb, .inl rfl⟩⟩
    · cases ha
    · exact ⟨ix, c, h1, hn, hc, .inr hg⟩
    · exact ⟨ix, c, h1, hn, hc, .inl ⟨hb, .inr ⟨ha, rfl⟩⟩⟩

/-- Without restored trust the same is found, and what it takes out. -/
theorem found_allowlisted {f : Finding} :
    Found r (p.allowlisted false) f ↔ Found r (p.allowlisted true) f ∨ Restored r p f := by
  rw [← mem_findings, ← mem_findings, mem_findings_iff_segment, mem_findings_iff_segment,
    mem_basic_allowlisted, mem_listedKeys_allowlisted]
  constructor
  · intro h
    rcases h with h | (h | ⟨ht, rfl⟩) | (h | ⟨hb, rfl⟩) | h
    · exact .inl (.inl h)
    · exact .inl (.inr (.inl h))
    · exact .inr (.anchor ht)
    · exact .inl (.inr (.inr (.inl h)))
    · exact .inr (.keys hb)
    · exact .inl (.inr (.inr (.inr h)))
  · intro h
    rcases h with (h | h | h | h) | h
    · exact .inl h
    · exact .inr (.inl (.inl h))
    · exact .inr (.inr (.inl (.inl h)))
    · exact .inr (.inr (.inr h))
    · cases h with
      | anchor ht => exact .inr (.inl (.inr ⟨ht, rfl⟩))
      | keys hb => exact .inr (.inr (.inl (.inr ⟨hb, rfl⟩)))

end Processing

namespace Finding

theorem Arises.of_allowlisted {restored other : Bool} {current : Option Policy} {f : Finding}
    (h : Arises r (p.allowlisted restored) current f)
    (hfound : Processing.Found r (p.allowlisted restored) f →
      Processing.Found r (p.allowlisted other) f) :
    Arises r (p.allowlisted other) current f := by
  cases h with
  | unknownName hp ho => exact .unknownName hp ho
  | blockedLeaf hp hl ho hb => exact .blockedLeaf hp hl ho hb
  | blockedLeafOutcome hp hl ho hb => exact .blockedLeafOutcome hp hl ho hb
  | leafCheck hp hl ho hb hf => exact .leafCheck hp hl ho hb hf
  | @pathCheck policy check v ix hp ho hf =>
    refine .pathCheck hp ho ?_
    cases check <;> exact hf
  | always hf => exact .always (hfound hf)
  | timestamps hp hr hc =>
    refine .timestamps hp hr ?_
    unfold Evaluation.classify at hc ⊢
    split at hc <;> rename_i hv
    · rw [if_pos (by exact hv)]
      exact hc
    · rw [if_neg (by exact hv)]
      exact hc

/-- What arises where trust was restored arises without that. -/
theorem Arises.withoutAllowlisting {current : Option Policy} {f : Finding}
    (h : Arises r (p.allowlisted true) current f) : Arises r (p.allowlisted false) current f :=
  h.of_allowlisted fun hf => Processing.found_allowlisted.mpr (.inl hf)

/-- All else than the two things that restored trust takes out arises with it. -/
theorem Arises.withAllowlisting {current : Option Policy} {f : Finding}
    (h : Arises r (p.allowlisted false) current f) (hf : ¬Processing.Restored r p f) :
    Arises r (p.allowlisted true) current f :=
  h.of_allowlisted fun h => (Processing.found_allowlisted.mp h).resolve_right hf

end Finding

namespace Evaluation

/-- No anchor fails where trust in it was restored. -/
theorem not_noted_anchorTrusted {ix : Nat} :
    .noted .anchorTrusted ix ∉ effects r (p.allowlisted true) := by
  have hforced : .anchorTrusted ∈ Check.forced := by decide
  intro h
  obtain ⟨-, h⟩ := noted_mem_effects.mp h
  have hforces : Processing.Forces r (p.allowlisted true) .anchorTrusted ix := by
    rw [← arises_iff_forces hforced]
    rcases h with ⟨current, hf⟩ | ⟨current, ⟨hf, -⟩ | hf, -⟩
    · exact ⟨current, .inr hf⟩
    · exact absurd hf (not_arises_failed_of_forced hforced)
    · exact ⟨current, .inl hf⟩
  exact Bool.noConfusion (Processing.forces_anchorTrusted_iff.mp hforces).2.2

/-- Restored trust takes out no failure but that of the anchor. -/
theorem noted_allowlisted {check : Check} {ix : Nat} :
    .noted check ix ∈ effects r (p.allowlisted true) ↔
      .noted check ix ∈ effects r (p.allowlisted false) ∧
        ¬(ix = p.length - 1 ∧ check = .anchorTrusted) := by
  constructor
  · intro h
    constructor
    · obtain ⟨hl, ⟨current, hf⟩ | ⟨current, ⟨hf, hr⟩ | hf, hkept⟩⟩ := noted_mem_effects.mp h
      · exact noted_mem_effects.mpr ⟨hl, .inl ⟨current, hf.withoutAllowlisting⟩⟩
      · exact noted_mem_effects.mpr ⟨hl, .inr ⟨current, .inl ⟨hf.withoutAllowlisting, hr⟩, hkept⟩⟩
      · exact noted_mem_effects.mpr ⟨hl, .inr ⟨current, .inr hf.withoutAllowlisting, hkept⟩⟩
    · rintro ⟨-, rfl⟩
      exact not_noted_anchorTrusted h
  · intro h
    obtain ⟨h, hanchor⟩ := h
    have hrestored : ∀ f ∈ [Finding.fatal check ix, .failed check ix, .violated check ix],
        ¬Processing.Restored r p f := by
      intro f hf hrestored
      cases hrestored with
      | anchor =>
        simp only [List.mem_cons, reduceCtorEq, Finding.violated.injEq, List.not_mem_nil,
          false_or, or_false] at hf
        exact hanchor ⟨hf.2.symm, hf.1.symm⟩
      | keys => simp at hf
    obtain ⟨hl, ⟨current, hf⟩ | ⟨current, ⟨hf, hr⟩ | hf, hkept⟩⟩ := noted_mem_effects.mp h
    · exact noted_mem_effects.mpr
        ⟨hl, .inl ⟨current, hf.withAllowlisting (hrestored _ (by simp))⟩⟩
    · exact noted_mem_effects.mpr
        ⟨hl, .inr ⟨current, .inl ⟨hf.withAllowlisting (hrestored _ (by simp)), hr⟩, hkept⟩⟩
    · exact noted_mem_effects.mpr
        ⟨hl, .inr ⟨current, .inr (hf.withAllowlisting (hrestored _ (by simp))), hkept⟩⟩

theorem effects_allowlisted_subset :
    effects r (p.allowlisted true) ⊆ effects r (p.allowlisted false) := by
  intro e he
  obtain ⟨current, f, ha, rfl⟩ := mem_effects.mp he
  refine mem_effects.mpr ⟨current, f, ha.withoutAllowlisting, ?_⟩
  cases f <;> rfl

/-- The failures that are put at a place are the same but for that of the anchor. -/
theorem failures_allowlisted (ix : Nat) :
    Entries.putKeys (Effect.namesAt ix (effects r (p.allowlisted true))) false [] =
      (Entries.putKeys (Effect.namesAt ix (effects r (p.allowlisted false))) false []).filter
        fun failure => ¬(ix = p.length - 1 ∧ failure.1 = .known .anchorTrusted) := by
  have hascending : ∀ names : List CheckName,
      Entries.Ascending (Entries.putKeys names false []) :=
    fun names => Entries.Ascending.putKeys List.Pairwise.nil names false
  refine (hascending _).ext ((hascending _).filter _) fun failure => ?_
  obtain ⟨name, value⟩ := failure
  rw [List.mem_filter, Entries.mem_putKeys_nil, Entries.mem_putKeys_nil]
  cases name with
  | other s => simp [Effect.mem_namesAt_iff]
  | known check =>
    rw [Effect.mem_namesAt, Effect.mem_namesAt, noted_allowlisted]
    simp only [decide_eq_true_eq, CheckName.known.injEq, and_right_comm]

/-- Restored trust takes the failure of the anchor out of what an evaluation finds, and nothing else,
and the outcome is none the worse for it. -/
theorem allowlisting_scope (r : Request) (p : Path) :
    let plain := initial.pathChecks r (p.allowlisted false)
    let restored := initial.pathChecks r (p.allowlisted true)
    (∀ ix : Nat, restored.2.1.details[ix]? = (plain.2.1.details[ix]?).map fun failures : Failures =>
      failures.filter fun failure =>
        ¬(ix = p.length - 1 ∧ failure.1 = .known .anchorTrusted)) ∧
    restored.1 ≤ plain.1 := by
  intro plain restored
  by_cases hp : p.certificates = []
  · have hsame : ∀ b, initial.pathChecks r (p.allowlisted b) = _ :=
      fun b => pathChecks_of_isEmpty (p := p.allowlisted b) r hp initial
    simp only [plain, restored, hsame]
    exact ⟨fun _ => rfl, le_rfl⟩
  · have hq : ∀ b, (p.allowlisted b).certificates ≠ [] := fun _ => hp
    have hfresh : ∀ b, IsFresh initial (p.allowlisted b) := fun b => isFresh_initial _
    constructor
    · intro ix
      have hplain := (hfresh false).pathChecks_details (r := r) (hq false) ix
      have hrestored := (hfresh true).pathChecks_details (r := r) (hq true) ix
      rw [failures_allowlisted] at hrestored
      simp only [plain, restored, hplain, hrestored, Option.map_map]
      rfl
    · have hplain : plain.1 = _ := (hfresh false).pathChecks_verdict (hq false)
      have hrestored : restored.1 = _ := (hfresh true).pathChecks_verdict (hq true)
      rw [hplain, hrestored, Verdict.worst_le_iff]
      intro v hv
      obtain ⟨e, he, rfl⟩ := List.mem_map.mp hv
      exact Verdict.le_worst (List.mem_map_of_mem (effects_allowlisted_subset he))

end Evaluation
end ChainTrust
