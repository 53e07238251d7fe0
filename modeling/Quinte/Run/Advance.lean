import Mathlib
import Quinte.Packet.Scrub
import Quinte.Run.Receipts

/-! # The commands

    The commands of `run.rs` that work on an existing run: `advance`, the two
    ways to submit a Primary Arbiter verdict, `amend_primary_arbiter_verdict`,
    `cancel`, `record_worker_failure` and `verify_result_integrity`.

    `advance` goes through stages. A stage returns what the next one needs, or
    the status with which `advance` ends there.
-/

namespace Quinte.Run

open Program

/-! ### Integrity -/

/-- `policy_route_bindings`. -/
def policyRouteBindings (policy : Policy) : List RouteBinding :=
  (policy.roster ++ [policy.counterpartArbiter, policy.primaryArbiter]).map (·.toRouteBinding)

/-- The snapshot and attachment files are the ones that were recorded. -/
def verifySnapshotFiles (inputs : Inputs) : Except String Unit := do
  inputs.snapshot.entries.forM fun entry => do
    let actual ← fileDigest id (inputs.snapshotFile entry.snapshotRef)
    Policy.require (actual == entry.sha256) ("snapshot artifact changed: " ++ entry.snapshotRef)
  inputs.snapshot.attachments.forM fun attachment => do
    let actual ← fileDigest id (inputs.snapshotFile attachment.attachmentRef)
    Policy.require (actual == attachment.sha256)
      ("attachment artifact changed: " ++ attachment.attachmentRef)

/-- `verify_resume_integrity`. -/
def verifyResumeIntegrity (host : Host) (s : RunDir) (manifest : RunManifest) :
    Except String Unit := do
  let policy := s.inputs.policy
  policy.validate
  Policy.require
    (manifest.seatBinding == policy.seat && manifest.routeBindings == policyRouteBindings policy)
    "seat or route binding changed since run creation"
  Policy.require (host.runtimeSha256 == manifest.runtimeSha256)
    "QUINTE runtime changed since run creation"
  Policy.require (host.briefDigest s.inputs.brief == manifest.briefSha256)
    "brief changed since run creation"
  Policy.require (host.policyDigest policy == manifest.policySha256)
    "policy changed since run creation"
  Policy.require (host.snapshotDigest s.inputs.snapshot == manifest.snapshotSha256)
    "snapshot manifest changed since run creation"
  verifySnapshotFiles s.inputs
  if manifest.r3InputReceipt.isSome then verifyR3InputReceipt host s policy manifest
  verifyPrimaryArbiterPacket s manifest
  if manifest.primaryArbiterSubmission.isSome then
    let _ ← recoverPrimaryArbiterSubmission host s manifest s.inputs.brief 0

/-! ### Stages -/

/-- How a stage ends. -/
inductive Stage (α : Type) where
  | go (a : α)
  | done (status : RunStatus)

/-- Go on with the next stage. -/
def Stage.andThen {α : Type} (stage : Proc (Stage α)) (next : α → Proc RunStatus) :
    Proc RunStatus := do
  match ← stage with
  | .done status => return status
  | .go a => next a

/-- End with `fail_run`. -/
def stageFails {α : Type} (me : Pid) (manifest : RunManifest) (status : RunStatus)
    (code message : String) : Proc (Stage α) := do
  let (status, _) ← failRun me manifest status code message
  return .done status

/-- A transition that ends `advance` where a cancellation won. -/
def stageTransition (me : Pid) (manifest : RunManifest) (status : RunStatus)
    (phase : Option String) (detail : String) : Proc (Stage RunManifest) := do
  let (status, manifest) ← Store.transition me manifest status phase detail
  if status = .cancelled then return .done .cancelled else return .go manifest

/-- `reconcile_orphan_processes`. A process that survives being killed ends it. -/
def reconcileOrphanProcesses (me : Pid) : Proc Unit := do
  let processes ← Proc.withLock me .activePids (Prog.read (·.activeProcesses))
  processes.forM fun process => do
    let survivor ← Prog.answer Answer.process
    Prog.ensure (survivor != some process)
      ("cannot recover run while verified orphan process " ++ toString process.pid ++ " is alive")
    removeActiveProcess me process

/-- Preflight. -/
def preflight (me : Pid) (policy : Policy) (manifest : RunManifest) :
    Proc (Stage RunManifest) := do
  if manifest.status = .queued ∨ manifest.status = .preflight then do
    match ← stageTransition me manifest .preflight none (jsonObject []) with
    | .done status => return .done status
    | .go manifest =>
      if policy.sandboxMode = .strict then
        stageFails me manifest .failedPolicy "strict_sandbox_unavailable"
          "strict mode is unavailable without a supported kernel sandbox backend"
      else do
        let missing ← Prog.answer Answer.missingAdapters
        if !missing.isEmpty then
          stageFails me manifest .failed "preflight_failed"
            ("required adapters unavailable: " ++ jsonArray (missing.map jsonString))
        else return .go manifest
  else return .go manifest

/-- Load a phase that is complete, or run it. -/
def enterPhase (me : Pid) (host : Host) (policy : Policy) (manifest : RunManifest)
    (phase : String) (running : RunStatus) (code : String) :
    Proc (Stage (RunManifest × List LaneAccepted)) := do
  if ← Prog.read (phaseComplete · phase policy) then do
    let lanes ← Prog.ofExcept (← Prog.read (loadPhase · phase policy))
    return .go (manifest, lanes)
  else do
    match ← stageTransition me manifest running (some phase) (jsonObject []) with
    | .done status => return .done status
    | .go manifest =>
      match ← (runPhase me host policy manifest phase).attempt with
      | .ok lanes => return .go (manifest, lanes)
      | .error message => stageFails me manifest .failed code message

/-- Pass a gate, unless it was passed before. -/
def passGate (me : Pid) (manifest : RunManifest) (before : List RunStatus) (gate : RunStatus)
    (phase : String) (accepted : Nat) : Proc (Stage RunManifest) :=
  if before.contains manifest.status then
    stageTransition me manifest gate (some phase) (jsonObject [("accepted", toString accepted)])
  else return .go manifest

/-- The packet of R2, once. -/
def ensureR2Packet (me : Pid) (policy : Policy) (brief : Brief) (manifest : RunManifest)
    (r1 : List LaneAccepted) : Proc (Stage RunManifest) := do
  if (← Prog.read (·.r2Packet)).isSome then return .go manifest
  else do
    match ← stageTransition me manifest .r2Packet (some "R2") (jsonObject []) with
    | .done status => return .done status
    | .go manifest =>
      let rotation ← Prog.answer Answer.rotation
      match buildR2Packet manifest brief r1 policy rotation with
      | none => Prog.throw "cannot scrub an R1 lane output"
      | some packet => do
        Prog.modify fun s => { s with r2Packet := some packet }
        return .go manifest

/-- R2: skipped where R1 contested nothing, or was skipped before. -/
def enterR2 (me : Pid) (host : Host) (policy : Policy) (brief : Brief) (manifest : RunManifest)
    (r1 : List LaneAccepted) : Proc (Stage (RunManifest × List LaneAccepted)) := do
  let skipped ← Prog.read (·.r2Skipped)
  if skipped || (r1Contestation r1).isEmpty then do
    if !skipped then Prog.modify fun s => { s with r2Skipped := true }
    return .go (manifest, [])
  else do
    match ← ensureR2Packet me policy brief manifest r1 with
    | .done status => return .done status
    | .go manifest => enterPhase me host policy manifest "R2" .r2Running "r2_failed"

/-- The entries of a map from parties, in the order of the map. -/
def partyOutputs (lanes : List LaneAccepted) : List (String × LaneOutput) :=
  (lanes.map fun lane => (lane.partyId, lane.output)).insertionSort (·.1 ≤ ·.1)

/-- `r3/evidence-packet.json`, once. -/
def ensureEvidencePacket (brief : Brief) (manifest : RunManifest) (r1 r2 : List LaneAccepted) :
    Proc Unit := do
  if (← Prog.read (·.evidencePacket)).isSome then return ()
  else Prog.modify fun s =>
    { s with
      evidencePacket := some {
        evidencePacketVersion := "1.0"
        runId := manifest.runId
        question := brief.question
        r1 := partyOutputs r1
        r2 := partyOutputs r2
        snapshotSha256 := manifest.snapshotSha256 } }

/-- The lane of an arbiter in R3: its verdict, or `none` if the run is being
    cancelled. -/
def runArbiter (me : Pid) (host : Host) (policy : Policy) (manifest : RunManifest)
    (route : RoutePolicy) : Proc (Option ArbiterVerdict) := do
  let numbers ← Prog.read (·.attempts "R3" route.routeId)
  let attempt ← Prog.ofExcept (nextAttempt "R3" route.routeId policy.maxAttempts numbers)
  waitForRetryDeadline me manifest "R3" route attempt
  build "R3" route.routeId attempt (policy.timeoutForPhase "R3")
  let outcome ← runAttempt me manifest route "R3" attempt (policy.timeoutForPhase "R3")
    policy.maxAttempts
  awaitArbiterOutput me host policy manifest "R3" route attempt outcome

/-- The Counterpart Arbiter, once. -/
def enterCounterpart (me : Pid) (host : Host) (policy : Policy) (manifest : RunManifest) :
    Proc (Stage RunManifest) := do
  if (← Prog.read (·.ccResponse)).isSome then return .go manifest
  else do
    match ← stageTransition me manifest .r3Cc (some "R3") (jsonObject []) with
    | .done status => return .done status
    | .go manifest =>
      match ← (runArbiter me host policy manifest policy.counterpartArbiter).attempt with
      | .error message =>
        -- `cancel_run` has changed the manifest of the caller before this error
        if message = runCancelled then return .done .cancelled
        else stageFails me manifest .failed "r3_cc_failed" message
      | .ok none => do
        let (status, _) ← cancelRun me manifest
        return .done status
      | .ok (some verdict) => do
        Prog.modify fun s => { s with ccResponse := some verdict }
        return .go manifest

/-- The receipt over the inputs of R3. -/
def bindInputs (me : Pid) (host : Host) (policy : Policy) (manifest : RunManifest)
    (r1 r2 : List LaneAccepted) : Proc (Stage RunManifest) := do
  match ← (ensureR3InputReceipt host policy manifest r1 r2).attempt with
  | .error message => stageFails me manifest .failedPolicy "r3_input_drift" message
  | .ok (manifest, .error message) =>
    stageFails me manifest .failedPolicy "r3_input_drift" message
  | .ok (manifest, .ok ()) => return .go manifest

/-- The challenge of an automatic Primary Arbiter. -/
def ensureChallenge (me : Pid) (host : Host) (brief : Brief) (manifest : RunManifest) :
    Proc (Stage RunManifest) := do
  if manifest.primaryArbiterChallenge.isSome then return .go manifest
  else do
    match ← (createPrimaryArbiterChallenge host manifest brief).attempt with
    | .error message =>
      stageFails me manifest .failedPolicy "r3_primary_arbiter_challenge_failed" message
    | .ok challenge => do
      let manifest := { manifest with primaryArbiterChallenge := some challenge }
      Store.saveManifest me manifest
      return .go manifest

/-- The automatic Primary Arbiter, once there are its challenge and its packet. -/
def runPrimary (me : Pid) (host : Host) (policy : Policy) (brief : Brief)
    (manifest : RunManifest) : Proc (Stage RunManifest) := do
  match ← (runArbiter me host policy manifest policy.primaryArbiter).attempt with
  | .error message => stageFails me manifest .failed "r3_primary_arbiter_failed" message
  | .ok none => do
    let (status, _) ← cancelRun me manifest
    return .done status
  | .ok (some verdict) =>
    match boundPrimaryResponse manifest verdict with
    | .error message =>
      stageFails me manifest .failedPolicy "r3_primary_arbiter_response_invalid" message
    | .ok response =>
      match ← stagePrimaryResponse me host manifest brief response with
      | (manifest, .error message) =>
        stageFails me manifest .failedPolicy "r3_primary_arbiter_response_invalid" message
      | (manifest, .ok ()) => return .go manifest

def enterPrimary (me : Pid) (host : Host) (policy : Policy) (brief : Brief)
    (manifest : RunManifest) : Proc (Stage RunManifest) := do
  if policy.autoPrimaryArbiter && manifest.primaryArbiterSubmission.isNone then do
    match ← ensureChallenge me host brief manifest with
    | .done status => return .done status
    | .go manifest =>
      match ← (ensurePrimaryArbiterPacket manifest).attempt with
      | .error message =>
        stageFails me manifest .failedPolicy "r3_primary_arbiter_input_drift" message
      | .ok () => runPrimary me host policy brief manifest
  else return .go manifest

/-- The challenge of a Primary Arbiter that is waited for. -/
def issueChallenge (me : Pid) (host : Host) (brief : Brief) (manifest : RunManifest) :
    Proc RunManifest := do
  if manifest.primaryArbiterChallenge.isSome then return manifest
  else do
    let challenge ← createPrimaryArbiterChallenge host manifest brief
    let manifest := { manifest with primaryArbiterChallenge := some challenge }
    Store.saveManifest me manifest
    return manifest

/-- Publish the request and wait for a submission. -/
def awaitSubmission (me : Pid) (host : Host) (brief : Brief) (manifest : RunManifest) :
    Proc RunStatus := do
  let manifest ← issueChallenge me host brief manifest
  Prog.modify fun s => { s with primaryRequest := manifest.primaryArbiterChallenge }
  let (status, _) ← Store.transition me manifest .waitingPrimaryArbiter (some "R3")
    (jsonObject [("primary_arbiter_request", jsonString "r3/primary-arbiter-request.json")])
  return status

/-! ### The result -/

/-- The checks of `write_run_result`, and the result. -/
def mergedResult (s : RunDir) (manifest : RunManifest) (r1 r2 : List LaneAccepted)
    (primary : ArbiterVerdict) : Except String ResultEnvelope := do
  match s.ccResponse with
  | none => .error "cannot read r3/cc-response.json"
  | some counterpart =>
    validateUniqueIds (counterpart.residuals.map (·.id)) "counterpart arbiter residual"
    match mergeVerdicts manifest s.inputs.brief s.inputs.policy r1 r2 primary counterpart with
    | none => .error "panic"
    | some result =>
      Policy.require (Schema.result result) "result does not match its schema"
      return result

/-- `write_run_result`. -/
def writeRunResult (manifest : RunManifest) (r1 r2 : List LaneAccepted)
    (primary : ArbiterVerdict) : Proc ResultEnvelope := do
  let result ← Prog.ofExcept (← Prog.read fun s => mergedResult s manifest r1 r2 primary)
  Prog.modify fun s => { s with result := some result }
  Prog.modify fun s => { s with report := true }
  return result

/-- The verdict that the merge reads, checked once more. -/
def ownedVerdict (host : Host) (s : RunDir) (manifest : RunManifest) :
    Except String ArbiterVerdict := do
  let response ← readOwnedPrimaryArbiterResponse s manifest
  validatePrimaryArbiterResponseBinding host s manifest response s.inputs.brief
  let (verdict, _) ← validateArbiterSemantics (allowedEvidenceRefs s.inputs.snapshot)
    response.verdict
  return verdict

/-- Write the result and complete the run. -/
def publishResult (me : Pid) (host : Host) (policy : Policy) (manifest : RunManifest)
    (r1 r2 : List LaneAccepted) (verdict : ArbiterVerdict) : Proc RunStatus := do
  let result ← writeRunResult manifest r1 r2 verdict
  let digest ← Prog.ofExcept (← Prog.read fun s => fileDigest host.resultDigest s.result)
  let (status, _) ← Store.transition me { manifest with resultSha256 := some digest }
    result.status (some "R3") (jsonObject [("result", jsonString "result.json")])
  let _ ← Store.event me manifest.runId "run.completed" none none none (jsonObject [
    ("timeout_seconds", toString policy.timeoutSeconds),
    ("r2_parallel", toString policy.r2Parallel),
    ("max_attempts", toString policy.maxAttempts),
    ("retry_backoff_seconds", toString policy.retryBackoffSeconds),
    ("retry_backoff_max_seconds", toString policy.retryBackoffMaxSeconds),
    ("r2_min_interval_seconds", toString policy.r2MinIntervalSeconds)])
  return status

/-- Publish the result under `finalization_guard`, unless the run is cancelled. -/
def finalize (me : Pid) (host : Host) (policy : Policy) (manifest : RunManifest)
    (r1 r2 : List LaneAccepted) (verdict : ArbiterVerdict) : Proc RunStatus := do
  let published ← Proc.withLock me .activePids do
    if ← Prog.read (·.cancelRequested) then return none
    else do
      let status ← publishResult me host policy manifest r1 r2 verdict
      return some status
  match published with
  | some status => return status
  | none => do
    let (status, _) ← cancelRun me manifest
    return status

/-- Merge what was submitted. -/
def mergeSubmission (me : Pid) (host : Host) (policy : Policy) (brief : Brief)
    (manifest : RunManifest) (r1 r2 : List LaneAccepted) : Proc RunStatus := do
  let now ← Proc.utcNow
  match ← Prog.read fun s => recoverPrimaryArbiterSubmission host s manifest brief now with
  | .error message => do
    let (status, _) ← failRun me manifest .failedPolicy "primary_arbiter_submission_drift" message
    return status
  | .ok none => do
    let (status, _) ← Store.transition me manifest .waitingPrimaryArbiter (some "R3")
      (jsonObject [("primary_arbiter_request", jsonString "r3/primary-arbiter-request.json"),
        ("submission", jsonString "staging")])
    return status
  | .ok (some manifest) => do
    match ← stageTransition me manifest .merging (some "R3")
      (jsonObject (if policy.autoPrimaryArbiter then [("submission", jsonString "automatic")]
        else [])) with
    | .done status => return status
    | .go manifest =>
      let verdict ← Prog.ofExcept (← Prog.read fun s => ownedVerdict host s manifest)
      finalize me host policy manifest r1 r2 verdict

/-! ### `advance` -/

/-- The statuses in which a run has not passed the gate of R1. -/
def beforeR1Gate : List RunStatus := [.queued, .preflight, .r1Running]

/-- The statuses in which a run has not passed the gate of R2. -/
def beforeR2Gate : List RunStatus :=
  [.r1Gate, .r2Packet, .r2Running, .queued, .preflight, .r1Running]

/-- R3, once both phases have been through their gates. -/
def enterR3 (me : Pid) (host : Host) (policy : Policy) (brief : Brief) (manifest : RunManifest)
    (r1 r2 : List LaneAccepted) : Proc RunStatus := do
  ensureEvidencePacket brief manifest r1 r2
  Stage.andThen (enterCounterpart me host policy manifest) fun manifest =>
    Stage.andThen (bindInputs me host policy manifest r1 r2) fun manifest =>
      Stage.andThen (enterPrimary me host policy brief manifest) fun manifest =>
        if manifest.primaryArbiterSubmission.isNone then awaitSubmission me host brief manifest
        else mergeSubmission me host policy brief manifest r1 r2

/-- The stages of `advance`. -/
def advanceStages (me : Pid) (host : Host) (policy : Policy) (brief : Brief)
    (manifest : RunManifest) : Proc RunStatus :=
  Stage.andThen (preflight me policy manifest) fun manifest =>
    Stage.andThen (enterPhase me host policy manifest "R1" .r1Running "r1_failed")
      fun (manifest, r1) =>
        Stage.andThen (passGate me manifest beforeR1Gate .r1Gate "R1" 5) fun manifest =>
          Stage.andThen (enterR2 me host policy brief manifest r1) fun (manifest, r2) =>
            Stage.andThen (passGate me manifest beforeR2Gate .r2Gate "R2" r2.length)
              fun manifest => enterR3 me host policy brief manifest r1 r2

/-- What `advance` does under the run lock. -/
def advanceLocked (me : Pid) (host : Host) : Proc RunStatus := do
  reconcileOrphanProcesses me
  let manifest ← Store.loadManifest me
  if manifest.status.terminal then return manifest.status
  else do
    let inputs ← Prog.read (·.inputs)
    match ← Prog.read fun s => verifyResumeIntegrity host s manifest with
    | .error message => do
      let (status, _) ← failRun me manifest .failedPolicy "integrity_drift" message
      return status
    | .ok () => advanceStages me host inputs.policy inputs.brief manifest

def advance (me : Pid) (host : Host) : Proc RunStatus :=
  Store.withRunLock me (advanceLocked me host)

/-- `record_worker_failure`. -/
def recordWorkerFailure (me : Pid) (message : String) : Proc RunStatus :=
  Store.withRunLock me do
    let manifest ← Store.loadManifest me
    if manifest.status.terminal || manifest.status == .waitingPrimaryArbiter
        || manifest.status == .cancelling then return manifest.status
    else do
      let (status, _) ← failRun me manifest .failed "worker_failed" message
      return status

end Quinte.Run
