import ChainTrust.Proofs.Outcome
import Mathlib.Data.List.Basic

namespace ChainTrust

namespace Path

def leafDigest? (p : Path) : Option Bytes :=
  p.leaf?.map (·.sha1)

/-- Certificates of some paths are told apart by their digests. -/
def AreIdentified (paths : List Path) : Prop :=
  ∀ c ∈ paths.flatMap (·.certificates), ∀ d ∈ paths.flatMap (·.certificates),
    c.sha1 = d.sha1 → c = d

/-- What the leaf of a path fails is waived on another path exactly if it is waived on its own. -/
def IsWaivedAlike (r : Request) (other p : Path) : Prop :=
  ∀ leaf ∈ p.leaf?, ∀ policy ∈ r.policies, ∀ check v, (.known check, v) ∈ policy.options →
    LeafCheck.fails r leaf v check = true →
      r.isWaived (some policy) other (.known check) 0 = r.isWaived (some policy) p (.known check) 0

end Path

namespace Evaluation

section State

variable {r : Request} {p : Path} {e e' : Evaluation}

theorem absorb_lastLeaf (e : Evaluation) (f : Effect) : (e.absorb f).lastLeaf = e.lastLeaf := by
  cases f <;> rfl

theorem absorbAll_lastLeaf (effects : List Effect) (e : Evaluation) :
    (absorbAll effects e).lastLeaf = e.lastLeaf := by
  induction effects generalizing e with
  | nil => rfl
  | cons f fs ih => exact (ih (e.absorb f)).trans (absorb_lastLeaf e f)

theorem reset_congr (h : e.lastLeaf = e'.lastLeaf) (p : Path) : e.reset p = e'.reset p := by
  unfold reset
  rw [h]

theorem closing_congr (h : (e.leafChecks r p).2.lastLeaf = (e'.leafChecks r p).2.lastLeaf) :
    closing r p e = closing r p e' := by
  unfold closing
  rw [reset_congr h]

/-- The outcome of the leaf is all that an evaluation takes from the state before it. -/
theorem pathChecks_congr (hp : p.certificates ≠ [])
    (h : (e.leafChecks r p).2.lastLeaf = (e'.leafChecks r p).2.lastLeaf) :
    e.pathChecks r p = e'.pathChecks r p := by
  rw [pathChecks_eq hp, pathChecks_eq hp, closing_congr h]

theorem closing_lastLeaf (r : Request) (p : Path) (e : Evaluation) :
    (closing r p e).lastLeaf = (e.leafChecks r p).2.lastLeaf := by
  simp only [closing, absorbAll_lastLeaf, demandResponses_lastLeaf]
  rfl

theorem leafChecks_lastLeaf_congr (hp : p.certificates ≠ []) (h : e.lastLeaf = e'.lastLeaf) :
    (e.leafChecks r p).2.lastLeaf = (e'.leafChecks r p).2.lastLeaf := by
  obtain ⟨leaf, hl⟩ := Path.exists_leaf hp
  rw [leafChecks_lastLeaf hl, leafChecks_lastLeaf hl, h]

end State

/-- The state of a context after it has evaluated some candidates, one after the other. -/
def afterAll (r : Request) (history : List Path) : Evaluation :=
  history.foldl (fun e q => (e.pathChecks r q).2.1) initial

/-- What the leaf of a path comes to on its own. -/
def leafOutcome? (r : Request) (p : Path) : Option LeafOutcome :=
  p.leaf?.map (leafOutcome r p)

/-- The candidate with which the leaf was checked, after one more candidate: the same as before if
the new one has the same leaf or none. -/
def checkedWith (known : Option Path) (q : Path) : Option Path :=
  if q.certificates.isEmpty || known.bind Path.leafDigest? == q.leafDigest? then known else some q

/-- The candidate with which the leaf was checked that a context knows at last. -/
def leafCandidate? (history : List Path) : Option Path :=
  history.foldl checkedWith none

theorem leafOutcome?_sha1 (r : Request) (q : Path) :
    (leafOutcome? r q).map (·.sha1) = q.leafDigest? := by
  unfold leafOutcome? Path.leafDigest?
  rw [Option.map_map]
  rfl

/-- One more candidate keeps the outcome of the leaf or puts its own in its place. -/
theorem pathChecks_lastLeaf {r : Request} {known : Option Path} {e : Evaluation}
    (h : e.lastLeaf = known.bind (leafOutcome? r)) (q : Path) :
    (e.pathChecks r q).2.1.lastLeaf = (checkedWith known q).bind (leafOutcome? r) := by
  unfold checkedWith
  by_cases hq : q.certificates = []
  · rw [pathChecks_of_isEmpty r hq, if_pos (by simp [hq])]
    exact h
  · obtain ⟨leaf, hl⟩ := Path.exists_leaf hq
    have hown : leafOutcome? r q = some (leafOutcome r q leaf) := by
      simp [leafOutcome?, hl]
    have hdigest : e.lastLeaf.map (·.sha1) = known.bind Path.leafDigest? := by
      rw [h, Option.map_bind]
      congr 1
      funext k
      exact leafOutcome?_sha1 r k
    have hleaf : q.leafDigest? = some leaf.sha1 := by
      simp [Path.leafDigest?, hl]
    rw [pathChecks_eq hq, closing_lastLeaf, leafChecks_lastLeaf hl, ← hdigest, hleaf]
    cases hlast : e.lastLeaf with
    | none => simp [hq, hown]
    | some outcome =>
      by_cases hsame : outcome.sha1 = leaf.sha1
      · simp [Option.filter_some, hsame, ← h, hlast]
      · simp [Option.filter_some, hq, hsame, hown]

/-- A context knows the outcome of one leaf, as it came to on one of the candidates. -/
theorem afterAll_lastLeaf (r : Request) (history : List Path) :
    (afterAll r history).lastLeaf = (leafCandidate? history).bind (leafOutcome? r) := by
  have hrun : ∀ (known : Option Path) (e : Evaluation), e.lastLeaf = known.bind (leafOutcome? r) →
      (history.foldl (fun e q => (e.pathChecks r q).2.1) e).lastLeaf =
        (history.foldl checkedWith known).bind (leafOutcome? r) := by
    induction history with
    | nil => exact fun _ _ h => h
    | cons q history ih => exact fun known e h => ih _ _ (pathChecks_lastLeaf h q)
  exact hrun none initial rfl

theorem mem_of_leafCandidate? {history : List Path} {q : Path}
    (h : leafCandidate? history = some q) : q ∈ history := by
  have hrun : ∀ known, history.foldl checkedWith known = some q → known = some q ∨ q ∈ history := by
    clear h
    induction history with
    | nil => exact fun _ h => .inl h
    | cons first history ih =>
      intro known h
      rcases ih _ h with hstep | hmem
      · unfold checkedWith at hstep
        split at hstep
        · exact .inl hstep
        · cases hstep
          exact .inr List.mem_cons_self
      · exact .inr (List.mem_cons_of_mem _ hmem)
  exact (hrun none h).resolve_left nofun

/-- All that a context knows it knows from one candidate. -/
theorem afterAll_leafCandidate?_lastLeaf (r : Request) (history : List Path) :
    (afterAll r (leafCandidate? history).toList).lastLeaf = (afterAll r history).lastLeaf := by
  rw [afterAll_lastLeaf, afterAll_lastLeaf]
  cases leafCandidate? history with
  | none => rfl
  | some q =>
    change (checkedWith none q).bind (leafOutcome? r) = leafOutcome? r q
    unfold checkedWith
    split
    · rename_i h
      have hnone : q.leaf? = none := by
        cases hl : q.leaf? with
        | none => rfl
        | some leaf => simp [Path.leafDigest?, hl, Path.ne_nil_of_leaf? hl] at h
      simp [leafOutcome?, hnone]
    · rfl

section Leaf

variable {r : Request} {q p : Path} {leaf : Facts}

/-- The leaf gives the same on two paths if the same is waived on them. -/
theorem leafEffects_congr (hq : q.leaf? = some leaf) (hp : p.leaf? = some leaf)
    (hw : q.IsWaivedAlike r p) : leafEffects r q = leafEffects r p := by
  have hql : ¬q.length ≤ 0 :=
    Nat.not_le.mpr (Path.certificate?_eq_some_lt (Path.certificate?_zero hq))
  have hpl : ¬p.length ≤ 0 :=
    Nat.not_le.mpr (Path.certificate?_eq_some_lt (Path.certificate?_zero hp))
  have hexempt : ∀ name, r.isExempt q name 0 false = r.isExempt p name 0 false := by
    intro name
    simp only [Request.isExempt, Request.exemptionAt?, Path.certificate?_zero hq,
      Path.certificate?_zero hp]
  simp only [leafEffects, hq, hp, optionEffects]
  refine List.flatMap_congr fun policy hpolicy => List.map_congr_left fun f hf => ?_
  obtain ⟨⟨name, v⟩, ho, hf⟩ := List.mem_flatMap.mp hf
  rcases mem_leafFindings.mp hf with ⟨s, -, rfl⟩ | ⟨-, -, rfl | rfl⟩ | ⟨check, rfl, -, hfails, rfl⟩
  · rfl
  · simp only [Finding.effect, if_neg hql, if_neg hpl]
  · rfl
  · simp only [Finding.effect, Request.recording, if_neg hql, if_neg hpl,
      Request.isRequested_of_mem ho, hw leaf hp policy hpolicy check v ho hfails, hexempt]

theorem leafOutcome_congr (hq : q.leaf? = some leaf) (hp : p.leaf? = some leaf)
    (hw : q.IsWaivedAlike r p) : leafOutcome r q leaf = leafOutcome r p leaf := by
  unfold leafOutcome
  rw [leafEffects_congr hq hp hw]

/-- A leaf that is known from a path like this one is as good as a leaf that is checked now. -/
theorem leafChecks_lastLeaf_of_known {e : Evaluation} {known : Option Path}
    (h : e.lastLeaf = known.bind (leafOutcome? r)) (hp : p.leaf? = some leaf)
    (hk : ∀ q ∈ known, q.leafDigest? = p.leafDigest? → q.leaf? = some leaf ∧ q.IsWaivedAlike r p) :
    (e.leafChecks r p).2.lastLeaf = (initial.leafChecks r p).2.lastLeaf := by
  rw [leafChecks_lastLeaf hp, leafChecks_lastLeaf hp, h]
  change _ = some (leafOutcome r p leaf)
  congr 1
  cases known with
  | none => rfl
  | some q =>
    by_cases hdigest : q.leafDigest? = p.leafDigest?
    · obtain ⟨hq, hw⟩ := hk q rfl hdigest
      have hsame : leafOutcome r q leaf = leafOutcome r p leaf := leafOutcome_congr hq hp hw
      have hown : leafOutcome? r q = some (leafOutcome r p leaf) := by
        simp [leafOutcome?, hq, hsame]
      simp [hown, Option.filter_some, leafOutcome]
    · have hother : ((leafOutcome? r q).filter (·.sha1 == leaf.sha1)) = none := by
        rw [Option.filter_eq_none_iff]
        intro outcome houtcome
        have hsha1 := leafOutcome?_sha1 r q
        rw [houtcome] at hsha1
        simp only [Option.map_some] at hsha1
        intro heq
        apply hdigest
        rw [← hsha1, eq_of_beq heq]
        simp [Path.leafDigest?, hp]
      simp [hother]

end Leaf

/-- A context that has evaluated some candidates evaluates a path as if it had evaluated only the
one with which the leaf was checked. It does so as if it were fresh if that one has another leaf, or
if the constraints on the leaf waive the same there. -/
theorem pathChecks_afterAll (r : Request) (history : List Path) (p : Path)
    (hp : p.certificates ≠ []) :
    (afterAll r history).pathChecks r p =
        (afterAll r (leafCandidate? history).toList).pathChecks r p ∧
      (Path.AreIdentified (p :: history) →
        (∀ q ∈ leafCandidate? history, q.leafDigest? = p.leafDigest? → q.IsWaivedAlike r p) →
          (afterAll r history).pathChecks r p = initial.pathChecks r p) := by
  constructor
  · exact pathChecks_congr hp
      (leafChecks_lastLeaf_congr hp (afterAll_leafCandidate?_lastLeaf r history).symm)
  · intro hid hw
    obtain ⟨leaf, hl⟩ := Path.exists_leaf hp
    refine pathChecks_congr hp (leafChecks_lastLeaf_of_known (afterAll_lastLeaf r history) hl ?_)
    intro q hq hdigest
    refine ⟨?_, hw q hq hdigest⟩
    have hsha1 : q.leaf?.map (·.sha1) = some leaf.sha1 := by
      rw [← Option.map_some, ← hl]
      exact hdigest
    obtain ⟨c, hc, hsame⟩ := Option.map_eq_some_iff.mp hsha1
    have heq : c = leaf := by
      refine hid c ?_ leaf ?_ hsame
      · exact List.mem_flatMap.mpr
          ⟨q, List.mem_cons_of_mem _ (mem_of_leafCandidate? hq), List.mem_of_head? hc⟩
      · exact List.mem_flatMap.mpr ⟨p, List.mem_cons_self, List.mem_of_head? hl⟩
    rw [hc, heq]

/-- A request about an address, and a path whose leaf is for none. -/
def mailRequest : Request :=
  ⟨.empty, [⟨"", "", [(.known .email, .text "a@example.com")]⟩], 5, []⟩

def mailPath (constraints : List Constraint) (leaf root : Bytes) : Path :=
  { Path.ofCertificates [.plain leaf, .plain root] with
    isAnchored := true, constraints := [constraints, []] }

def mailWaiver : Constraint :=
  { Constraint.empty with allowedError := some Check.emailNotFoundCode }

/-- The address does not matter on two paths with the same leaf. That it did on a path before
another leaf was checked is forgotten. -/
theorem pathChecks_afterAll_waived :
    let history := [mailPath [] [1] [2], mailPath [] [3] [2], mailPath [mailWaiver] [1] [4]]
    ((afterAll mailRequest history).pathChecks mailRequest (mailPath [mailWaiver] [1] [2])).1 =
      .unspecified := by
  intro history
  have hid : Path.AreIdentified (mailPath [mailWaiver] [1] [2] :: history) := by
    unfold Path.AreIdentified
    decide +kernel
  have hcandidate : leafCandidate? history = some (mailPath [mailWaiver] [1] [4]) := rfl
  have hsame := (pathChecks_afterAll mailRequest history (mailPath [mailWaiver] [1] [2])
    (List.cons_ne_nil _ _)).2 hid (by
      intro q hq _ _ _ _ _ _ _ _ _
      rw [hcandidate] at hq
      cases hq
      rfl)
  rw [hsame]
  decide +kernel

/-- A failure that is waived on one path stays waived on the next one with the same leaf. -/
theorem waiver_outlasts_candidate :
    ¬∀ (r : Request) (history : List Path) (p : Path), (∀ q ∈ history, q.certificates ≠ []) →
      p.certificates ≠ [] → p.isValidated = false → Path.AreIdentified (p :: history) →
        (afterAll r history).pathChecks r p = initial.pathChecks r p := by
  intro h
  have hid : Path.AreIdentified [mailPath [] [1] [2], mailPath [mailWaiver] [1] [2]] := by
    unfold Path.AreIdentified
    decide +kernel
  have hhistory : ∀ q ∈ [mailPath [mailWaiver] [1] [2]], q.certificates ≠ [] := by
    intro q hq
    rw [List.mem_singleton.mp hq]
    exact List.cons_ne_nil _ _
  have hsame := h mailRequest [mailPath [mailWaiver] [1] [2]] (mailPath [] [1] [2]) hhistory
    (List.cons_ne_nil _ _) rfl hid
  have hverdict := congrArg Prod.fst hsame
  revert hverdict
  decide +kernel

end Evaluation
end ChainTrust
