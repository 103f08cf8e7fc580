import ChainTrust.Proofs.Framing
import ChainTrust.Proofs.Timestamps
import Mathlib.Data.List.Nodup

namespace ChainTrust

variable {p q : Path} {env other : Environment} {time : UInt64} {n : Endorsement}

theorem distinctLogs_mono {scts more : List VerifiedSct} (h : scts ⊆ more) :
    distinctLogs scts ≤ distinctLogs more := by
  obtain ⟨ids, hnodup, hlength, hids⟩ := le_distinctLogs_iff.mp (Nat.le_refl (distinctLogs scts))
  refine le_distinctLogs_iff.mpr ⟨ids, hnodup, hlength, fun id hid => ?_⟩
  obtain ⟨s, hs, heq⟩ := hids id hid
  exact ⟨s, h hs, heq⟩

theorem suffice_mono {embedded external moreEmbedded moreExternal : List VerifiedSct}
    {required : Nat} {time : UInt64} (hembedded : embedded ⊆ moreEmbedded)
    (hexternal : external ⊆ moreExternal) (h : suffice embedded external required time = true) :
    suffice moreEmbedded moreExternal required time = true := by
  have hall : embedded ++ external ⊆ moreEmbedded ++ moreExternal :=
    List.append_subset.mpr ⟨List.subset_append_of_subset_left _ hembedded,
      List.subset_append_of_subset_right _ hexternal⟩
  rw [suffice_iff] at h ⊢
  rcases h with ⟨s, hs, hsc, t, ht, htc, hne⟩ | ⟨⟨s, hs, hsc⟩, hrequired⟩
  · exact .inl ⟨s, hall hs, hsc, t, hall ht, htc, hne⟩
  · have hqualified : embedded.filter (·.wasQualified) ⊆ moreEmbedded.filter (·.wasQualified) := by
      intro t ht
      obtain ⟨hmem, hq⟩ := List.mem_filter.mp ht
      exact List.mem_filter.mpr ⟨hembedded hmem, hq⟩
    exact .inr ⟨⟨s, hembedded hs, hsc⟩, Nat.le_trans hrequired (distinctLogs_mono hqualified)⟩

/-- What endorses the leaf of one path in one environment endorses that of the other in another. -/
structure Path.IsOutdone (p : Path) (env : Environment) (q : Path) (other : Environment)
    (time : UInt64) : Prop where
  leaf : ∀ leaf ∈ p.leaf?, ∃ c ∈ q.leaf?, c.lifetimeMonths = leaf.lifetimeMonths
  logs : env.trustedLogs ≠ [] → other.trustedLogs ≠ []
  valid : ∀ n : Endorsement, n.IsValid env time → n.IsValid other time
  embeds : ∀ n, p.Embeds n → q.Embeds n
  receives : ∀ n, p.Receives n → q.Receives n

theorem Path.IsOutdone.isCtQualified (h : p.IsOutdone env q other time)
    (hp : p.isCtQualified env time = true) : q.isCtQualified other time = true := by
  rw [isCtQualified_iff] at hp ⊢
  obtain ⟨leaf, hl, hlogs, hsuffice⟩ := hp
  obtain ⟨c, hc, hmonths⟩ := h.leaf leaf hl
  refine ⟨c, hc, h.logs hlogs, ?_⟩
  rw [hmonths]
  refine suffice_mono ?_ ?_ hsuffice
  · intro s hs
    obtain ⟨n, ⟨hn, hvalid⟩, hs⟩ := mem_embeddedScts.mp hs
    exact mem_embeddedScts.mpr ⟨n, ⟨h.embeds n hn, h.valid n hvalid⟩, hs⟩
  · intro s hs
    obtain ⟨n, ⟨hn, hvalid⟩, hs⟩ := (mem_externalScts hl).mp hs
    exact (mem_externalScts hc).mpr ⟨n, ⟨h.receives n hn, h.valid n hvalid⟩, hs⟩

theorem Endorsement.IsValid.congr (h : n.IsValid env time) (hverify : other.verify = env.verify)
    (hlogs : other.trustedLogs.find? (fun log => sha256 log.key == n.sct.logId) = some n.log) :
    n.IsValid other time where
  reads := h.reads
  version := h.version
  isPast := h.isPast
  isTrusted := hlogs
  verifies := by
    rw [hverify]
    exact h.verifies

namespace Path

end Path

end ChainTrust
