import Mathlib
import Quinte.Wire.Carriers
import Quinte.Wire.Home

/-! # Observing runs

    The commands of `host.rs` that look at a run and change nothing in it. Each
    scans all runs of the home first, and trusts no directory without a valid
    manifest.
-/

namespace Quinte.Wire

open Program

/-- What is fixed outside the home. What `worker_observation` and
    `attempt_observations` say of a run is a function of its directory: no
    reply depends on it. -/
structure Server where
  host : Host
  platform : Finance.Platform
  observe : RunManifest → RunDir → Except Chain (Json × Json)

/-! ### The scan -/

/-- One turn of the loop of `active_manifests`. -/
def trustedManifest (me : Pid) (id : String) : Hosted RunManifest := do
  Hosted.context ("QUINTE host found an invalid run directory " ++ id ++ "; reconcile manually")
    (validateRunId id)
  Hosted.context ("QUINTE host cannot trust run directory " ++ id ++ "; reconcile manually")
    (loadManifest me id)

/-- The loop of `active_manifests`: the manifests of the runs that have not ended. -/
def scanManifests (me : Pid) : List String → Hosted (List RunManifest)
  | [] => return []
  | id :: ids => do
    let manifest ← trustedManifest me id
    let manifests ← scanManifests me ids
    return if manifest.status.terminal then manifests else manifest :: manifests

/-- `active_manifests`. -/
def activeManifests (me : Pid) : Hosted (List RunManifest) := do
  return byCreation (← scanManifests me (← readRuns))

/-- `active_ids`. -/
def activeIds (manifests : List RunManifest) : List String := manifests.map (·.runId)

/-! ### Receipts -/

/-- `manifest_projection`. -/
structure ManifestProjection where
  status : RunStatus
  manifestVersion : String
  briefSha256 : Digest
  policySha256 : Digest
  snapshotSha256 : Digest
  runtimeSha256 : Digest
  error : Option RunError
  resultSha256 : Option Digest
  deriving DecidableEq

def manifestProjection (manifest : RunManifest) : ManifestProjection where
  status := manifest.status
  manifestVersion := manifest.manifestVersion
  briefSha256 := manifest.briefSha256
  policySha256 := manifest.policySha256
  snapshotSha256 := manifest.snapshotSha256
  runtimeSha256 := manifest.runtimeSha256
  error := manifest.error
  resultSha256 := manifest.resultSha256

/-- The receipt of an observation. -/
structure HostReceipt where
  invocationId : String
  operation : String
  code : String
  activeRunIds : List String
  runId : String
  manifest : ManifestProjection
  worker : Json
  attempts : Json
  /-- what `verify_result_integrity` says of a run that completed -/
  result : Option Run.ResultIntegrity
  deriving DecidableEq

/-- A file that holds no task record is written. -/
def writeFile (path : Home → Path) : Hosted Unit :=
  Prog.modify fun h => (h.writeAt (path h) none).touch (path h)

/-- `persist_receipt`: the receipt, and again as the latest. -/
def persistReceipt (invocationId : String) : Hosted Unit := do
  writeFile fun h => h.root ++ ["host", "receipts", invocationId ++ ".json"]
  writeFile fun h => h.root ++ ["host", "latest.json"]

/-- A run whose result is public. -/
def RunStatus.succeeded : RunStatus → Bool
  | .completed | .degraded => true
  | _ => false

/-- The result of a run that completed, verified. -/
def verifiedResult (S : Server) (me : Pid) (id : String) (manifest : RunManifest) :
    Hosted (Option Run.ResultIntegrity) :=
  if RunStatus.succeeded manifest.status then do
    match ← Hosted.onRun id (Run.verifyResultIntegrity me S.host) with
    | none => Prog.throw ["terminal success has no verifiable result"]
    | some integrity => return some integrity
  else return none

/-- `receipt_for_run`. -/
def receiptForRun (S : Server) (me : Pid) (operation id : String) : Hosted HostReceipt := do
  let invocationId ← Prog.answer Answer.nonce
  let manifest ← loadManifest me id
  let active ← activeManifests me
  let (worker, attempts) ← Prog.ofExcept (← Prog.observe (fun h => h.touch (h.runDir id))
    fun h => S.observe manifest (h.dir id))
  let result ← verifiedResult S me id manifest
  persistReceipt invocationId
  return {
    invocationId := invocationId
    operation := operation
    code := if manifest.status.terminal then "terminal" else "observed"
    activeRunIds := activeIds active
    runId := id
    manifest := manifestProjection manifest
    worker := worker
    attempts := attempts
    result := result }

/-- `status`. -/
def status (S : Server) (me : Pid) (id : String) : Hosted HostReceipt :=
  receiptForRun S me "status" id

/-- `inspect`. -/
def inspect (S : Server) (me : Pid) (id : String) : Hosted HostReceipt :=
  receiptForRun S me "inspect" id

end Quinte.Wire
