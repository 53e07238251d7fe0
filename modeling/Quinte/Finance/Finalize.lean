import Mathlib
import Quinte.Finance.Ledger
import Quinte.Finance.Packets

/-! # The finalizer

    `finalize_bundle`, from the files of an input directory to the files of the
    bundle.  The review is everything up to the publication decision; it reads
    nothing of the arbiters.
-/

namespace Quinte.Finance

open Policy (require)
open Schemas (validateValue)

section code

variable (P : Platform)

/-! ### The inputs -/

/-- The documents that a run is opened with. -/
structure FinanceInputs where
  policy : FinancePolicy
  policyBytes : Bytes
  policyValue : Json
  profile : FinanceReviewProfile
  claims : FinanceClaimManifest
  evidence : FinanceEvidenceIndex
  invocation : FinanceReviewInvocation
  invocationBytes : Bytes
  invocationValue : Json
  /-- the files as they were read, by their paths in the input directory -/
  documents : List (String × Bytes)

/-- What a run's packets name, of the inputs. -/
def FinanceInputs.run (inputs : FinanceInputs) (invocation policy : PortableBinding) :
    RunBindings where
  runId := inputs.invocation.invocationId
  invocation := invocation
  policy := policy
  profile := inputs.invocation.profile
  claimManifest := inputs.invocation.claimManifest
  primary := inputs.invocation.primary.binding
  evidenceIndex := inputs.invocation.evidenceIndex

/-- The digests of the routes, the schools' first. -/
def routeBindingDigests (policy : FinancePolicy) : Except String (List String) := do
  let schools ← policy.schoolBindings.mapM
    (semanticDigestValue P FinanceSchoolRoute.codec "quinte.finance-route-binding.v1")
  let counterpart ← semanticDigestValue P FinanceArbiterRoute.codec
    "quinte.finance-arbiter-route-binding.v1" policy.counterpartArbiter
  let primary ← semanticDigestValue P FinanceArbiterRoute.codec
    "quinte.finance-arbiter-route-binding.v1" policy.primaryArbiter
  return schools ++ [counterpart, primary]

end code

end Quinte.Finance
