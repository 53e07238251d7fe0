import Mathlib
import Quinte.Run.LaneSessions
import Quinte.Wire.ActionBinding
import Quinte.Wire.Requests

/-! # Starting runs

    `host::start`, what creates the directory of a run, and the two requests
    that change runs besides `CancelTask`: `SendMessage`, which starts a run or
    answers the challenge of one, and `host::reconcile`.

    A run is published by its manifest. `create_from_brief_bytes` removes what
    it has made before that, unless the process dies.
-/

namespace Quinte.Launch

open Program Wire
open Finance (Bytes)

/-- What a start finds outside the home. `admits` are the checks of
    `create_from_brief_bytes` that look at the ignore patterns, the installed
    programs and the attachments, and `snapshot` is `build_snapshot_with_ignore`,
    with the digests of the files it has copied. -/
structure Launcher where
  server : Server
  /-- `policy_or_error` -/
  policy : Except Chain Policy
  /-- `doctor::run(..).ok` -/
  preflight : Bool
  admits : Policy → Brief → Except String Unit
  snapshot : Policy → Brief → Except String (SnapshotManifest × (String → Option Digest))
  /-- `spawn_worker` -/
  spawn : Except Chain Nat
  /-- what the system says of a lock that is held -/
  contended : String
  /-- `serde_json::from_slice::<ArbiterVerdict>` -/
  verdict : Json → Except String ArbiterVerdict
  /-- how often `wait_until_interruptible` looks before its deadline -/
  patience : Nat

/-! ### The launch lock -/

def Home.takeLaunch (me : Pid) (h : Home) : Home :=
  if h.launchLock = none then { h with launchLock := some me } else h

def Home.dropLaunch (me : Pid) (h : Home) : Home :=
  if h.launchLock = some me then { h with launchLock := none } else h

/-- `acquire_host_lock`: the lock is not waited for. -/
def acquireHostLock (me : Pid) (contended : String) : Hosted Unit :=
  .act (fun _ => true) (Home.takeLaunch me) fun h =>
    if h.launchLock = none then .pure ()
    else .throw ["another QUINTE host launch is in progress", contended]

/-- Run `p` under the launch lock. -/
def withHostLock {α : Type} (me : Pid) (contended : String) (p : Hosted α) : Hosted α :=
  Prog.bracket (acquireHostLock me contended) (Prog.modify (Home.dropLaunch me)) p

/-! ### Creating a run -/

/-- The directory that `create_run_dirs` makes. -/
def emptyDir : RunDir where
  manifest := none
  pending := none
  events := []
  cancelRequested := false
  result := none
  report := false
  locks := fun _ => none
  nextId := 0
  replaced := []
  intent := none
  flagAtLock := false
  publishing := false
  toLanes := Run.newLanes 0
  activeProcesses := []
  inputs := {
    brief := default
    policy := default
    snapshot := default
    snapshotFile := fun _ => none }
  r2Skipped := false
  r2Packet := none
  evidencePacket := none
  ccResponse := none
  inputReceipt := none
  primaryPacket := none
  primaryRequest := none
  primaryResponse := none
  hmResponse := none

/-- The content of a directory goes; a lock is on the open file. -/
def clear (d : RunDir) : RunDir :=
  { emptyDir with locks := d.locks }

def Home.addRun (id : String) (h : Home) : Home :=
  { h.setDir id (clear (h.dir id)) with runs := h.runs ++ [id] }

def Home.removeRun (id : String) (h : Home) : Home :=
  { h.setDir id (clear (h.dir id)) with runs := h.runs.filter (· ≠ id) }

/-- `create_run_dirs`. -/
def createRunDirs (id : String) : Hosted Unit :=
  .act (fun _ => true) (fun h => if id ∈ h.runs then h else Home.addRun id h) fun h =>
    if id ∈ h.runs then .throw ["run " ++ id ++ " already exists"] else .pure ()

/-- `cleanup_unpublished_run_dir`. Of the files that only a worker writes, the
    model has `active-pids.json`. -/
def cleanupUnpublishedRunDir (id : String) : Hosted Unit := do
  if ← Prog.read fun h => decide (id ∈ h.runs) then
    Prog.ensure (← Prog.read fun h => (h.dir id).activeProcesses.isEmpty)
      ["refusing to clean run " ++ id ++ ": worker state was published (active-pids.json)"]
    Prog.modify (Home.removeRun id)
  else return ()

/-- The cleanup after the error `e`. -/
def cleanUpAfter {α : Type} (id : String) (e : Chain) : Hosted α := do
  match ← (cleanupUnpublishedRunDir id).attempt with
  | .ok () => Prog.throw e
  | .error cleanup => Prog.throw (("run directory cleanup failed: " ++ cleanup.text) :: e)

/-- The manifest that publishes a run. -/
def createdManifest (host : Host) (id : String) (policy : Policy) (brief : Brief)
    (snapshot : SnapshotManifest) (now : Nat) : RunManifest where
  manifestVersion := "2.0"
  runId := id
  createdAt := now
  updatedAt := now
  status := .queued
  briefSha256 := host.briefDigest brief
  policySha256 := host.policyDigest policy
  snapshotSha256 := host.snapshotDigest snapshot
  runtimeSha256 := host.runtimeSha256
  protocolVersion := "1.0"
  effectiveModel :=
    if snapshot.attachments.isEmpty then policy.textModel else policy.multimodalModel
  seatBinding := policy.seat
  routeBindings := Run.policyRouteBindings policy
  sandboxMode := policy.sandboxMode
  currentPhase := none
  error := none
  r3InputReceipt := none
  primaryArbiterChallenge := none
  primaryArbiterSubmission := none
  resultSha256 := none

/-- A result of code without effects. -/
def checked {α : Type} (r : Except String α) : Hosted α :=
  Prog.ofExcept (r.mapError ([·]))

/-- `run.created`, with the two digests. -/
def createdEvent (me : Pid) (host : Host) (id : String) (policy : Policy) (brief : Brief) :
    Proc Event :=
  Store.event me id "run.created" none none none (jsonObject [
    ("brief_sha256", toString (host.briefDigest brief).toNat),
    ("policy_sha256", toString (host.policyDigest policy).toNat)])

/-- The closure `creation` of `create_from_brief_bytes`. -/
def creation (L : Launcher) (me : Pid) (id : String) (policy : Policy) (brief : Brief) :
    Hosted Unit := do
  Hosted.onRun id (Prog.modify fun s => { s with inputs := { s.inputs with brief := brief } })
  Hosted.onRun id (Prog.modify fun s => { s with inputs := { s.inputs with policy := policy } })
  let copied ← checked (L.snapshot policy brief)
  Hosted.onRun id (Prog.modify fun s => { s with
    inputs := { s.inputs with snapshot := copied.1, snapshotFile := copied.2 } })
  let now ← Prog.answer Answer.now
  -- the first manifest publishes the run
  Hosted.onRun id
    (Store.saveManifest me (createdManifest L.server.host id policy brief copied.1 now))
  let _ ← Hosted.onRun id (createdEvent me L.server.host id policy brief)
  return ()

/-- The directory of a run, and what goes into it. -/
def createdRun (L : Launcher) (me : Pid) (id : String) (policy : Policy) (brief : Brief) :
    Hosted String := do
  let existedBefore ← Prog.observe (fun h => h.touch (h.runDir id)) fun h => decide (id ∈ h.runs)
  match ← (createRunDirs id).attempt with
  -- the directory of another run stays
  | .error e => if existedBefore then Prog.throw e else cleanUpAfter id e
  | .ok () =>
    match ← (creation L me id policy brief).attempt with
    | .error e => cleanUpAfter id e
    | .ok () => return id

/-- `create_from_brief_bytes`: the id of the run. -/
def createFromBriefBytes (L : Launcher) (me : Pid) (policy : Policy) (bytes : Bytes) :
    Hosted String := do
  let brief ← checked (intakeBrief L.server.platform bytes)
  checked (L.admits policy brief)
  let id ← Prog.answer Answer.nonce
  validateRunId id
  createdRun L me id policy brief

/-! ### Starting a run -/

/-- What `start` says of a run whose worker could not be launched. -/
def launchFailure (root : Path) (invocationId id : String) (launch : Chain)
    (recorded : Except Chain RunStatus) (receipt : Except Chain Unit) : String :=
  launch.text ++ "; run " ++ id ++ " was created; reconcile before another launch"
    ++ (match recorded with
      | .ok _ => ""
      | .error e => "; terminal state write also failed: " ++ e.text)
    ++ (match receipt with
      | .ok () => "; receipt /" ++ "/".intercalate
          (root ++ ["host", "receipts", invocationId ++ ".json"])
      | .error e => "; host invocation " ++ invocationId ++ ", run " ++ id
          ++ ": launch-failure receipt persistence also failed: " ++ e.text)

/-- The end of `start` where no worker was launched. -/
def recordLaunchFailure {α : Type} (me : Pid) (invocationId id : String) (launch : Chain) :
    Hosted α := do
  let recorded ← (Hosted.onRun id
    (Run.recordWorkerFailure me ("worker launch failed: " ++ launch.text))).attempt
  let _ ← (loadManifest me id).attempt
  let receipt ← (persistReceipt invocationId).attempt
  let root ← Prog.read (·.root)
  Prog.throw [launchFailure root invocationId id launch recorded receipt]

/-- `start` after the scan. -/
def launch (L : Launcher) (me : Pid) (invocationId : String) (policy : Policy)
    (brief : Except Chain Bytes) : Hosted String := do
  let bytes ← Prog.ofExcept brief
  let id ← createFromBriefBytes L me policy bytes
  let _ ← loadManifest me id
  Hosted.context ("host invocation " ++ invocationId ++ ", run " ++ id
    ++ ": run created but host receipt could not be persisted") (persistReceipt invocationId)
  match L.spawn with
  | .error e => recordLaunchFailure me invocationId id e
  | .ok _ => do
    Hosted.context ("host invocation " ++ invocationId ++ ", run " ++ id
      ++ ": worker started but final host receipt could not be persisted")
      (persistReceipt invocationId)
    return id

def refusal (active : List RunManifest) : String :=
  "QUINTE host refuses a second active run; active run ids: "
    ++ ", ".intercalate (activeIds active)

/-- `host::start`, of the brief that was read: the id of the run. -/
def start (L : Launcher) (me : Pid) (brief : Except Chain Bytes) : Hosted String :=
  withHostLock me L.contended do
    let invocationId ← Prog.answer Answer.nonce
    let policy ← Prog.ofExcept L.policy
    Prog.ensure L.preflight
      ["QUINTE host preflight failed; inspect `quinte host preflight --json`"]
    let active ← activeManifests me
    -- the scan and all that follows are under one lock
    Prog.ensure active.isEmpty [refusal active]
    launch L me invocationId policy brief

/-! ### Reconciling -/

/-- The receipt of `reconcile`. -/
structure Reconciliation where
  invocationId : String
  code : String
  activeRunIds : List String
  run : Option (String × ManifestProjection)
  result : Option Run.ResultIntegrity
  launchSafe : Bool
  deriving DecidableEq

/-- The manifest that `reconcile` selects. `durable` is the run of the last
    start receipt. -/
def selectManifest (me : Pid) (runId : Option String) (active : List RunManifest)
    (durable : Option String) : Hosted (Option RunManifest) :=
  match runId, active with
  | some id, _ => some <$> loadManifest me id
  | none, [only] => return some only
  | none, [] =>
    match durable with
    | some id => some <$> loadManifest me id
    | none => return none
  | none, _ => return none

/-- The code of a reconciliation. -/
def reconcileCode (active : List RunManifest) (selected : Option RunManifest) : String :=
  if selected.isSome then "reconciled"
  else if active.isEmpty then "no_active_run"
  else "ambiguous_active_runs"

/-- `host::reconcile`. `latest` is `latest_start_receipt`, by the run it names. -/
def reconcile (S : Server) (me : Pid) (contended : String)
    (latest : Except Chain (Option String)) (runId : Option String) : Hosted Reconciliation :=
  withHostLock me contended do
    let invocationId ← Prog.answer Answer.nonce
    let active ← activeManifests me
    -- the last start counts where no run is named and none is active
    let durable ← Prog.ofExcept (if runId.isNone && active.isEmpty then latest else .ok none)
    Prog.ensure (durable.all isRunId) ["run ID must be a canonical lowercase UUIDv7"]
    let selected ← selectManifest me runId active durable
    let result ← match selected with
      | none => pure none
      | some manifest => verifiedResult S me manifest.runId manifest
    persistReceipt invocationId
    return {
      invocationId := invocationId
      code := reconcileCode active selected
      activeRunIds := activeIds active
      run := selected.map fun manifest => (manifest.runId, manifestProjection manifest)
      result := result
      launchSafe := active.isEmpty }

/-! ### `SendMessage` -/

/-- `active_run_ids`. -/
def activeRunIds : Hosted (List String) := do
  let manifests ← listManifests
  return activeIds (manifests.filter (!·.status.terminal))

/-- `map_start_error`. -/
def mapStartError {α : Type} (e : Chain) : Wired α :=
  if "refuses a second active run".toList <:+: e.text.toList then do
    match ← activeRunIds.attempt.mapError internal with
    | .ok active => Prog.throw (.busyRun active)
    | .error _ => Prog.throw (.busyRun [])
  else if "preflight failed".toList <:+: e.text.toList
      ∨ "required adapters".toList <:+: e.text.toList then
    Prog.throw (.withState errPolicy e.text "preflight_failed")
  else Prog.throw (.plain errInternal e.text)

/-- `send_configuration`. -/
def sendConfiguration (params : Json) : Bool × Nat :=
  let configuration := (params.get "configuration").getD (.obj [])
  (((configuration.get "returnImmediately").bind Json.asBool).getD true,
    ((configuration.get "historyLength").bind Json.asNat).getD 0)

/-- `wait_until_interruptible`. -/
def waitUntilInterruptible (me : Pid) (id : String) : Nat → Hosted Unit
  | 0 => return ()
  | n + 1 => do
    match ← (loadManifest me id).attempt with
    | .ok manifest =>
      if manifest.status.terminal || manifest.status == .waitingPrimaryArbiter then return ()
      else waitUntilInterruptible me id n
    | .error _ => waitUntilInterruptible me id n

/-- A file of the inbox, by its name. -/
def writeInbox (name : String) : Hosted Unit :=
  writeFile fun h => h.root ++ ["a2a", "inbox", name]

/-- The verdict in a message: the first part that holds an object. -/
def verdictPart (message : Json) : Option Json :=
  ((message.get "parts").bind Json.asArr).bind fun parts =>
    parts.findSome? fun part => (part.get "data").filter Json.isObject

/-- `continue_task`: the answer to the challenge of a run. -/
def continueTask (L : Launcher) (me : Pid) (params message : Json) (taskId : String) :
    Wired Task := do
  let manifest ← (loadManifest me taskId).mapError fun _ => taskNotFound taskId
  Prog.ensure (manifest.status == .waitingPrimaryArbiter)
    (.withState errChallenge ("task " ++ taskId ++ " is not waiting for an arbiter verdict (state "
      ++ mapRunStatus manifest.status ++ ")") "challenge_rejected")
  match verdictPart message with
  | none => Prog.throw (.plain errInvalidParams "message carries no arbiter verdict JSON part")
  | some part => do
    let name ← Prog.answer Answer.nonce
    (writeInbox (name ++ ".verdict.json")).mapError internal
    let rejected (e : Chain) : A2aError :=
      .withState errChallenge ("arbiter verdict rejected: " ++ e.text) "challenge_rejected"
    let verdict ← (checked (L.verdict part)).mapError rejected
    let _ ← (Hosted.onRun taskId
      (Run.submitPrimaryArbiterVerdict me L.server.host verdict false)).mapError rejected
    let record ← loadOrRecover me taskId
    projectTask L.server me record (sendConfiguration params).2

/-- A run for the brief of a message. -/
def startTask (L : Launcher) (me : Pid) (params message : Json) : Wired Task := do
  let brief ← Prog.ofExcept
    ((extractBrief L.server.platform message).mapError A2aError.briefInvalid)
  -- without the launch lock: `start` looks again under it
  let active ← activeRunIds.mapError internal
  Prog.ensure active.isEmpty (.busyRun active)
  let name ← Prog.answer Answer.nonce
  (writeInbox (name ++ ".json")).mapError internal
  match ← (start L me (.ok (writeJson brief))).attempt.mapError internal with
  | .error e => mapStartError e
  | .ok id => do
    let now ← Prog.answer Answer.now
    let record : TaskRecord := {
      taskId := id
      contextId := textOf message "contextId"
      createdAt := now
      message := message
      artifactId := none
      highballRouteArtifactId := none
      highballTraceArtifactId := none }
    (saveRecord record).mapError internal
    if !(sendConfiguration params).1 then
      (waitUntilInterruptible me id L.patience).mapError internal
    projectTask L.server me record (sendConfiguration params).2

/-- `send_message`. -/
def sendMessage (L : Launcher) (me : Pid) (params : Json) : Wired Task :=
  match params.get "message" with
  | none => Prog.throw (.briefInvalid "SendMessage params.message is required")
  | some message =>
    match textOf message "taskId" with
    | some taskId => continueTask L me params message taskId
    | none => startTask L me params message

end Quinte.Launch
