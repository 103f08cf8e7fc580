import ChainTrust.Proofs.Applicability
import ChainTrust.Proofs.Recognition

namespace ChainTrust

namespace Policy

variable (policy : Policy)

end Policy

namespace Request

variable (r : Request) (current : Option Policy) (p : Path)

end Request

namespace Finding

variable {r : Request} {p : Path} {f : Finding}

end Finding

namespace Evaluation

section Effects

variable (r : Request) (p : Path)

end Effects

section Revocation

theorem absorb_revocation (e : Evaluation) (f : Effect) :
    (e.absorb f).revocation = e.revocation := by
  cases f <;> rfl

theorem absorbAll_revocation (effects : List Effect) (e : Evaluation) :
    (absorbAll effects e).revocation = e.revocation := by
  induction effects generalizing e with
  | nil => rfl
  | cons f fs ih => exact (ih (e.absorb f)).trans (absorb_revocation e f)

/-- Responses are demanded for the certificates below the anchor by any policy that demands them. -/
theorem pathChecks_revocation {r : Request} {p : Path} (hp : p.certificates ≠ [])
    (e : Evaluation) :
    (e.pathChecks r p).2.1.revocation = p.places.map fun place =>
      r.policies.any PathCheck.demandsResponses && decide (place.2 < p.nonAnchorCount) := by
  rw [pathChecks_eq hp]
  simp only [closing, absorbAll_revocation]
  rfl

end Revocation

section Runs

variable {r r' : Request} {p p' : Path}

end Runs

end Evaluation

end ChainTrust
