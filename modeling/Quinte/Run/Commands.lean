import Mathlib
import Quinte.Model.Schema
import Quinte.Run.Advance

/-! # Submitting, amending, cancelling and verifying

    The other commands of `run.rs` on an existing run.
-/

namespace Quinte.Run

open Program

/-! ### Submitting a verdict -/

/-- `verdict_looks_degenerate`. -/
def verdictLooksDegenerate (verdict : ArbiterVerdict) : Bool :=
  verdict.residuals.isEmpty && (verdict.summary.length < 20 || verdict.recommendation.length < 20)

/-- `ensure_verdict_not_degenerate`. -/
def ensureVerdictNotDegenerate (verdict : ArbiterVerdict) (force : Bool) : Except String Unit :=
  Policy.require (force || !verdictLooksDegenerate verdict)
    ("verdict looks degenerate (empty residuals and trivial summary/recommendation); "
      ++ "pass --force to proceed anyway")

/-- The checks of `submit_primary_arbiter_response` on a response that no
    submission came before. -/
def checkFirstSubmission (host : Host) (s : RunDir) (manifest : RunManifest)
    (response : PrimaryArbiterResponse) (now : Nat) : Except String Unit := do
  Policy.require (manifest.status == .waitingPrimaryArbiter)
    ("run " ++ manifest.runId ++ " is not waiting for Primary Arbiter")
  Policy.require (!manifest.primaryArbiterChallenge.any (·.consumed))
    "primary arbiter challenge was already consumed"
  validateNewPrimaryArbiterResponse host s manifest response s.inputs.brief now

/-- The manifest with a receipt for the response, the one it has or a new one. -/
def claimSubmission (me : Pid) (host : Host) (manifest : RunManifest)
    (response : PrimaryArbiterResponse) : Proc RunManifest := do
  match manifest.primaryArbiterSubmission with
  | some receipt =>
    Prog.ensure (receipt.responseSha256 == host.responseDigest response)
      "primary arbiter challenge already has a different scheduler-owned submission"
    return manifest
  | none => do
    let now ← Proc.utcNow
    Prog.ofExcept (← Prog.read fun s => checkFirstSubmission host s manifest response now)
    let stagedAt ← Proc.utcNow
    let staged ← Prog.ofExcept (stageReceipt host manifest response stagedAt)
    Store.saveManifest me staged
    return staged

/-- What `submit_primary_arbiter_response` does under the run lock. -/
def submitLocked (me : Pid) (host : Host) (response : PrimaryArbiterResponse) :
    Proc (Stage Unit) := do
  let manifest ← Store.loadManifest me
  match ← Prog.read fun s => verifyResumeIntegrity host s manifest with
  | .error message => stageFails me manifest .failedPolicy "integrity_drift" message
  | .ok () => do
    let brief ← Prog.read (·.inputs.brief)
    let alreadyAccepted := manifest.primaryArbiterSubmission.any (·.state == .accepted)
    let staged ← claimSubmission me host manifest response
    let (_, accepted) ← acceptResponse me host staged brief response
    Prog.ofExcept accepted
    if !alreadyAccepted then
      let _ ← Store.event me manifest.runId "primary_arbiter.accepted" (some "R3") none none
        (jsonObject [("response_sha256", toString (host.responseDigest response).toNat)])
    return .go ()

/-- `submit_primary_arbiter_response`. -/
def submitPrimaryArbiterResponse (me : Pid) (host : Host) (response : PrimaryArbiterResponse) :
    Proc RunStatus :=
  Stage.andThen (Store.withRunLock me (submitLocked me host response)) fun () => advance me host

/-- `submit_primary_arbiter`, with the response of the file. -/
def submitPrimaryArbiter (me : Pid) (host : Host) (response : PrimaryArbiterResponse) :
    Proc RunStatus := do
  Prog.ensure (Schema.primaryArbiterResponse response)
    "primary-arbiter response does not match its schema"
  submitPrimaryArbiterResponse me host response

/-- `submit_primary_arbiter_verdict`, with the verdict of the file. -/
def submitPrimaryArbiterVerdict (me : Pid) (host : Host) (verdict : ArbiterVerdict)
    (force : Bool) : Proc RunStatus := do
  Prog.ofExcept (ensureVerdictNotDegenerate verdict force)
  let valid ← Prog.read fun s => allowedEvidenceRefs s.inputs.snapshot
  let (verdict, _) ← Prog.ofExcept (validateArbiterSemantics valid verdict)
  let manifest ← Store.loadManifest me
  match manifest.primaryArbiterChallenge with
  | none => Prog.throw "primary arbiter challenge is not ready"
  | some _ => do
    let response ← Prog.ofExcept (boundPrimaryResponse manifest verdict)
    Prog.ensure (Schema.primaryArbiterResponse response)
      "primary-arbiter response does not match its schema"
    submitPrimaryArbiterResponse me host response

/-! ### Amending a completed run -/

/-- The checks of `amend_primary_arbiter_verdict` on a completed run, and the
    lanes it merges again. -/
def amendInputs (host : Host) (s : RunDir) (manifest : RunManifest) (verdict : ArbiterVerdict) :
    Except String (List LaneAccepted × List LaneAccepted × ArbiterVerdict) := do
  Policy.require (manifest.status == .completed)
    ("run " ++ manifest.runId ++ " is not completed; `primary-arbiter amend` only applies to "
      ++ "completed runs (use `primary-arbiter submit` for a run in the arbiter handshake)")
  Policy.require (host.briefDigest s.inputs.brief == manifest.briefSha256)
    "brief changed since run creation"
  Policy.require (host.policyDigest s.inputs.policy == manifest.policySha256)
    "policy changed since run creation"
  if manifest.r3InputReceipt.isSome then
    verifyR3InputReceipt host s s.inputs.policy manifest
  let r1 ← loadPhase s "R1" s.inputs.policy
  let r2 ← loadPhase s "R2" s.inputs.policy
  let (verdict, _) ← validateArbiterSemantics (allowedEvidenceRefs s.inputs.snapshot) verdict
  return (r1, r2, verdict)

/-- What `amend_primary_arbiter_verdict` does under the run lock. `verdictFile`
    is what `sha256_file` says of the file the verdict came from. -/
def amendLocked (me : Pid) (host : Host) (verdict : ArbiterVerdict) (force : Bool)
    (verdictFile : Except String Digest) : Proc RunStatus := do
  let manifest ← Store.loadManifest me
  let (r1, r2, verdict) ← Prog.ofExcept (← Prog.read fun s =>
    amendInputs host s manifest verdict)
  let _ ← writeRunResult manifest r1 r2 verdict
  let digest ← Prog.ofExcept (← Prog.read fun s => fileDigest host.resultDigest s.result)
  let manifest := { manifest with resultSha256 := some digest }
  Store.saveManifestAfterTerminal me manifest
  let verdictSha256 ← Prog.ofExcept verdictFile
  let _ ← Store.event me manifest.runId "primary_arbiter.amended" (some "R3") none none
    (jsonObject [
      ("verdict_sha256", toString verdictSha256.toNat),
      ("result", jsonString "result.json"),
      ("force", toString force)])
  return manifest.status

/-- `amend_primary_arbiter_verdict`. -/
def amendPrimaryArbiterVerdict (me : Pid) (host : Host) (verdict : ArbiterVerdict) (force : Bool)
    (verdictFile : Except String Digest) : Proc RunStatus := do
  Prog.ofExcept (ensureVerdictNotDegenerate verdict force)
  Store.withRunLock me (amendLocked me host verdict force verdictFile)

/-! ### Cancelling -/

/-- `cancel`. Killing the processes on record leaves the run directory alone. -/
def cancel (me : Pid) : Proc RunStatus := do
  let manifest ← Store.loadManifest me
  if manifest.status.terminal then return manifest.status
  else do
    let (status, processes) ← Store.requestCancellation me
    if status.terminal then return status
    else do
      let manifest ← Store.loadManifest me
      let (status, manifest) ← Store.transition me manifest .cancelling manifest.currentPhase
        (jsonObject [])
      if status.terminal then return status
      else if !processes.isEmpty then return .cancelling
      else do
        let (status, _) ← Store.transition me manifest .cancelled manifest.currentPhase
          (jsonObject [])
        return status

/-! ### Verifying the result -/

structure ResultIntegrity where
  contractVersion : String
  actionable : Bool
  deriving DecidableEq, Repr

/-- The checks of `verify_result_integrity` on the manifest and the result that it
    reads, for the current revision of the result contract. -/
def checkResultIntegrity (host : Host) (manifest : RunManifest) (result : Option ResultEnvelope) :
    Except String (Option ResultIntegrity) :=
  if ¬ (manifest.status = .completed ∨ manifest.status = .degraded) then .ok none
  else
    match manifest.resultSha256, result with
    | none, _ => .error "completed run is missing its result digest"
    | some _, none => .error "completed run result is missing"
    | some expected, some result => do
      Policy.require (host.resultDigest result == expected)
        "completed run result integrity check failed"
      Policy.require (Schema.result result) "result does not match its schema"
      Policy.require (result.runId == manifest.runId)
        "completed run result identity does not match its manifest"
      Policy.require (result.status == manifest.status)
        "completed run result status does not match its manifest"
      Policy.require (result.briefSha256 == manifest.briefSha256)
        "completed run result brief digest does not match its manifest"
      Policy.require (result.seatBinding == manifest.seatBinding)
        "completed run result seat binding does not match its manifest"
      Policy.require (result.routeBindings == manifest.routeBindings)
        "completed run result bindings do not match its manifest"
      return some { contractVersion := result.resultVersion, actionable := true }

/-- `verify_result_integrity`. -/
def verifyResultIntegrity (me : Pid) (host : Host) : Proc (Option ResultIntegrity) := do
  let manifest ← Store.loadManifest me
  Prog.ofExcept (← Prog.read fun s => checkResultIntegrity host manifest s.result)

/-! ### A run for examples -/

/-- Digests that tell the recommendations of results apart. -/
def sampleHost : Host where
  textDigest := fun _ => 0
  briefDigest := fun _ => 0
  policyDigest := fun _ => 0
  snapshotDigest := fun _ => 0
  laneDigest := fun _ => 0
  evidencePacketDigest := fun _ => 0
  verdictDigest := fun _ => 0
  inputReceiptDigest := fun _ => 0
  responseDigest := fun _ => 0
  hmResponseDigest := fun _ => 0
  resultDigest := fun result => BitVec.ofNat 256 result.recommendation.length
  runtimeSha256 := 0
  startStagger := 0

def sampleBrief : Brief :=
  { (default : Brief) with briefVersion := "1.1", question := "ship?" }

/-- The manifest of a run with the sample policy. -/
def runManifest (status : RunStatus) : RunManifest :=
  { sampleManifest status with
    seatBinding := Policy.sampleSeat
    routeBindings := policyRouteBindings (Policy.samplePolicy "a") }

/-- A run that was just created. -/
def createdDir : RunDir :=
  { sampleDir .queued with
    manifest := some (runManifest .queued)
    inputs := {
      brief := sampleBrief
      policy := Policy.samplePolicy "a"
      snapshot := default
      snapshotFile := fun _ => none } }

end Quinte.Run
