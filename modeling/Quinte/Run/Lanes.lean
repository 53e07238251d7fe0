import Mathlib
import Quinte.Evidence.References
import Quinte.Framework.Interference
import Quinte.Merge.Replay
import Quinte.Model.Policy
import Quinte.Store.Journal

/-! # The lanes

    How `run.rs` carries out the attempts of one lane and of one phase: the
    budget, the persisted retry deadlines and the pacing of serial R2, one
    attempt, the retries that follow it, and `run_phase`.  All of it runs in
    the process that holds the run lock.

    Points in time and delays are milliseconds.  The payloads of events leave
    out measured durations and byte counts.
-/

namespace Quinte

open Program

/-! ### Payloads of events -/

/-- One character of a JSON string. -/
def jsonChar (c : Char) : String :=
  if c = '"' then "\\\"" else if c = '\\' then "\\\\"
  else if c = '\n' then "\\n" else if c = '\r' then "\\r" else if c = '\t' then "\\t"
  else if c.toNat < 0x20 then
    "\\u00" ++ String.ofList [Nat.digitChar (c.toNat / 16), Nat.digitChar (c.toNat % 16)]
  else c.toString

def jsonString (s : String) : String :=
  "\"" ++ s.toList.foldl (fun out c => out ++ jsonChar c) "" ++ "\""

def jsonOption {α : Type} (f : α → String) : Option α → String
  | none => "null"
  | some a => f a

/-- An object, from its keys and the texts of their values. -/
def jsonObject (fields : List (String × String)) : String :=
  "\x7b" ++ ",".intercalate (fields.map fun (key, value) => jsonString key ++ ":" ++ value)
    ++ "\x7d"

def jsonArray (items : List String) : String :=
  "[" ++ ",".intercalate items ++ "]"

/-! ### Retries -/

/-- `RetryClass::is_retryable`. -/
def RetryClass.isRetryable : RetryClass → Bool
  | .never => false
  | .transientTimeout | .transientAdapter | .rateLimited _ => true

/-- `RetryClass::failure_class`. -/
def RetryClass.failureClass : RetryClass → String
  | .never => "non_retryable"
  | .transientTimeout => "timeout"
  | .transientAdapter => "transient_adapter"
  | .rateLimited _ => "rate_limit"

def retryAllowed (retry : RetryClass) (attempt maxAttempts : Nat) : Bool :=
  retry.isRetryable && attempt < maxAttempts

structure RetrySchedule where
  source : String
  backoffSeconds : Nat
  retryAfterSeconds : Option Nat
  jitter : Nat
  delay : Nat
  deriving DecidableEq, Repr

/-- `u64::saturating_mul`. -/
def saturatingMul (a b : Nat) : Nat :=
  min (a * b) (2 ^ 64 - 1)

/-- `retry_schedule`. The jitter comes from the first four hexadecimal digits
    of the seed. -/
def retrySchedule (host : Host) (retry : RetryClass) (policy : Policy)
    (runId phase routeId : String) (attempt : Nat) : Except String RetrySchedule := do
  let (source, retryAfterSeconds) ← match retry with
    | .never => .error "non-retryable failure has no retry schedule"
    | .transientTimeout => .ok ("host_timeout", none)
    | .transientAdapter => .ok ("adapter_structured_error", none)
    | .rateLimited signal => .ok (signal.source, signal.retryAfterSeconds)
  Policy.require (!retryAfterSeconds.any (policy.retryBackoffMaxSeconds < ·))
    "provider Retry-After exceeds the bounded retry wait policy"
  let backoffSeconds := min (saturatingMul policy.retryBackoffSeconds
    (min (2 ^ (attempt - 1)) (2 ^ 64 - 1))) policy.retryBackoffMaxSeconds
  let seed := host.textDigest
    (runId ++ "\x00" ++ phase ++ "\x00" ++ routeId ++ "\x00" ++ toString attempt)
  let jitterBasisPoints := (seed >>> 240).toNat % 2001
  let jitter := saturatingMul (saturatingMul backoffSeconds 1000) jitterBasisPoints / 10000
  let boundedBackoff := min (backoffSeconds * 1000 + jitter) (policy.retryBackoffMaxSeconds * 1000)
  return {
    source := source
    backoffSeconds := backoffSeconds
    retryAfterSeconds := retryAfterSeconds
    jitter := jitter
    delay := max boundedBackoff (retryAfterSeconds.getD 0 * 1000) }

/-! ### Budgets -/

/-- The highest number among the directories of a lane. -/
def highestAttempt (numbers : List Nat) : Nat :=
  numbers.foldl max 0

/-- `next_attempt`, over the numbers of the `attempt-N` directories. -/
def nextAttempt (phase routeId : String) (maxAttempts : Nat) (numbers : List Nat) :
    Except String Nat :=
  if maxAttempts = 0 then
    .error ("attempt budget exhausted for " ++ phase ++ "/" ++ routeId ++ ": maximum is zero")
  else if maxAttempts < highestAttempt numbers + 1 then
    .error ("attempt budget exhausted for " ++ phase ++ "/" ++ routeId ++ ": "
      ++ toString (highestAttempt numbers) ++ " of " ++ toString maxAttempts
      ++ " attempts already consumed")
  else .ok (highestAttempt numbers + 1)

/-- The checks of `wait_for_retry_deadline`. -/
def RetryDeadlineState.isFor (state : RetryDeadlineState) (phase routeId : String)
    (attempt : Nat) : Bool :=
  state.retryStateVersion == "1.0" && state.phase == phase && state.routeId == routeId
    && state.nextAttempt == attempt && state.previousAttempt + 1 == state.nextAttempt

/-! ### Ending a run -/

namespace Run

/-- `fail_run`. -/
def failRun (me : Pid) (manifest : RunManifest) (status : RunStatus) (code message : String) :
    Proc (RunStatus × RunManifest) :=
  Store.transition me
    { manifest with error := some { code := code, message := message, retryable := false } }
    status manifest.currentPhase (jsonObject [("error", jsonString message)])

/-- `cancel_run`. -/
def cancelRun (me : Pid) (manifest : RunManifest) : Proc (RunStatus × RunManifest) :=
  Store.transition me
    { manifest with
      error := some { code := "cancelled", message := "run cancelled by explicit request",
                      retryable := false } }
    .cancelled manifest.currentPhase (jsonObject [])

/-- What the source says where it gives up after `cancel_run`. -/
def runCancelled : String := "run cancelled"

/-! ### Waiting -/

/-- `wait_cancellable` up to a point in time: whether the run was cancelled. -/
def waitCancellable (due : Nat) : Proc Bool :=
  .act (fun _ => true)
    (fun s => if s.cancelRequested then s else { s with clock := max s.clock due }) fun s =>
    .pure s.cancelRequested

/-- Wait from `now` until `due`, unless that is over, or the run is cancelled. -/
def waitUntil (me : Pid) (manifest : RunManifest) (now due : Nat) : Proc Unit :=
  if now < due then do
    if ← waitCancellable due then
      let _ ← cancelRun me manifest
      Prog.throw runCancelled
    else return ()
  else return ()

/-- Change one entry of a table of lanes. -/
def setLane {α : Type} (table : String → String → α) (phase routeId : String) (a : α) :
    String → String → α :=
  fun p r => if p = phase ∧ r = routeId then a else table p r

/-- `persist_retry_deadline`. -/
def persistRetryDeadline (phase : String) (route : RoutePolicy) (previousAttempt dueAt : Nat)
    (retry : RetryClass) (source : String) : Proc Unit :=
  let state : RetryDeadlineState := {
    retryStateVersion := "1.0"
    phase := phase
    routeId := route.routeId
    previousAttempt := previousAttempt
    nextAttempt := previousAttempt + 1
    dueAt := dueAt
    failureClass := retry.failureClass
    source := source }
  Prog.modify fun s =>
    { s with
      retryDeadlines := setLane s.retryDeadlines phase route.routeId (some state)
      scheduled := s.scheduled ++ [state] }

def removeRetryDeadline (phase routeId : String) : Proc Unit :=
  Prog.modify fun s => { s with retryDeadlines := setLane s.retryDeadlines phase routeId none }

def waitForRetryDeadline (me : Pid) (manifest : RunManifest) (phase : String)
    (route : RoutePolicy) (attempt : Nat) : Proc Unit := do
  match ← Prog.read (·.retryDeadlines phase route.routeId) with
  | none => return ()
  | some state =>
    Prog.ensure (state.isFor phase route.routeId attempt)
      ("retry deadline does not match " ++ phase ++ "/" ++ route.routeId ++ " attempt "
        ++ toString attempt)
    let now ← Proc.clock
    let _ ← Store.event me manifest.runId "lane.retry_wait" (some phase) (some route.partyId)
      (some attempt) (jsonObject [
        ("route_id", jsonString route.routeId),
        ("previous_attempt", toString state.previousAttempt),
        ("failure_class", jsonString state.failureClass),
        ("source", jsonString state.source),
        ("delay_milliseconds", toString (state.dueAt - now)),
        ("due_at", toString state.dueAt)])
    waitUntil me manifest now state.dueAt
    removeRetryDeadline phase route.routeId

/-- `persist_r2_pacing_until`: the later of the two points in time stays. The
    record written after an attempt paces it. -/
def persistR2PacingUntil (route : RoutePolicy) (attempt requestedDueAt : Nat) (reason : String) :
    Proc Unit :=
  Prog.modify fun s =>
    { s with
      r2RateState := some {
        rateStateVersion := "1.0"
        nextAllowedAt := match s.r2RateState with
          | some existing => max requestedDueAt existing.nextAllowedAt
          | none => requestedDueAt
        reason := reason
        routeId := route.routeId
        attempt := attempt }
      unpaced := s.unpaced && reason != "inter_call_pacing" }

/-- `persist_r2_pacing`. -/
def persistR2Pacing (route : RoutePolicy) (attempt intervalSeconds : Nat) (reason : String) :
    Proc Unit := do
  let now ← Proc.clock
  persistR2PacingUntil route attempt (now + intervalSeconds * 1000) reason

def removeR2Pacing : Proc Unit :=
  Prog.modify fun s => { s with r2RateState := none }

def waitForR2Pacing (me : Pid) (manifest : RunManifest) (route : RoutePolicy) (attempt : Nat) :
    Proc Unit := do
  match ← Prog.read (·.r2RateState) with
  | none => return ()
  | some state =>
    Prog.ensure (state.rateStateVersion == "1.0") "unsupported R2 rate state version"
    let now ← Proc.clock
    let _ ← Store.event me manifest.runId "r2.pacing_wait" (some "R2") (some route.partyId)
      (some attempt) (jsonObject [
        ("route_id", jsonString route.routeId),
        ("previous_route_id", jsonString state.routeId),
        ("previous_attempt", toString state.attempt),
        ("reason", jsonString state.reason),
        ("delay_milliseconds", toString (state.nextAllowedAt - now)),
        ("due_at", toString state.nextAllowedAt)])
    waitUntil me manifest now state.nextAllowedAt
    removeR2Pacing

/-! ### One attempt -/

/-- Create the directory of an attempt, unless it is there. -/
def openAttempt (phase routeId : String) (attempt : Nat) : Proc Unit :=
  Prog.modify fun s =>
    { s with
      attempts := setLane s.attempts phase routeId
        (if (s.attempts phase routeId).contains attempt then s.attempts phase routeId
          else attempt :: s.attempts phase routeId) }

/-- The same, while the adapter of the attempt is built. -/
def openBuilt (phase routeId : String) (attempt timeoutSeconds : Nat) : Proc Unit :=
  Prog.modify fun s =>
    { s with
      attempts := setLane s.attempts phase routeId
        (if (s.attempts phase routeId).contains attempt then s.attempts phase routeId
          else attempt :: s.attempts phase routeId)
      built := s.built ++ [{
        phase := phase
        routeId := routeId
        attempt := attempt
        timeoutSeconds := timeoutSeconds }] }

/-- `adapters::build`, as far as it touches the run directory. -/
def build (phase routeId : String) (attempt timeoutSeconds : Nat) : Proc Unit := do
  match ← Prog.answer Answer.build with
  | .unavailable error => Prog.throw error
  | .failed error =>
    openBuilt phase routeId attempt timeoutSeconds
    Prog.throw error
  | .built => openBuilt phase routeId attempt timeoutSeconds

/-- From here on the provider may be called. -/
def startTransport (phase routeId : String) (attempt timeoutSeconds : Nat) : Proc Unit := do
  let now ← Prog.answer Answer.now
  Prog.modify fun s =>
    { s with
      clock := max s.clock now
      started := s.started ++ [{
        phase := phase
        routeId := routeId
        attempt := attempt
        timeoutSeconds := timeoutSeconds
        time := max s.clock now }]
      unpaced := s.unpaced || phase == "R2" }

/-- What an execution comes to that was cancelled before it started. -/
def Execution.neverStarted : Execution where
  output := none
  error := some "cancelled"
  retry := .never
  timedOut := false
  cancelled := true
  cleanupError := none

/-- Put an adapter process on record, unless the run was cancelled. -/
def registerProcess (me : Pid) (process : ActiveProcess) : Proc Bool :=
  Proc.withLock me .activePids do
    if ← Prog.read (·.cancelRequested) then return false
    else do
      Prog.modify fun s =>
        { s with
          activeProcesses := if s.activeProcesses.contains process then s.activeProcesses
            else s.activeProcesses ++ [process] }
      return true

/-- `remove_active_process`. -/
def removeActiveProcess (me : Pid) (process : ActiveProcess) : Proc Unit :=
  Proc.withLock me .activePids do
    Prog.modify fun s => { s with activeProcesses := s.activeProcesses.filter (· ≠ process) }

/-- The execution of an attempt, in this process or in one of its own. The
    record of a process also goes where the execution fails (`ChildCleanup`). -/
def execute (me : Pid) (phase routeId : String) (attempt timeoutSeconds : Nat) :
    Proc Execution := do
  match ← Prog.answer Answer.process with
  | none =>
    startTransport phase routeId attempt timeoutSeconds
    Prog.ofExcept (← Prog.answer Answer.execution)
  | some process =>
    if ← registerProcess me process then
      startTransport phase routeId attempt timeoutSeconds
      let execution ← Prog.answer Answer.execution
      removeActiveProcess me process
      Prog.ofExcept execution
    else return Execution.neverStarted

/-- The checks of an attempt's output, which rewrite it in place. The pairs that
    were rewritten are dropped. -/
def validateOutput (valid : List String) : AdapterOutput → Except String AdapterOutput
  | .lane output => (validateEvidenceRefs valid output).map fun checked => .lane checked.1
  | .arbiter verdict =>
      (validateArbiterSemantics valid verdict).map fun checked => .arbiter checked.1

/-- What `run_attempt` makes of an execution. -/
def attemptOutcome (valid : List String) (execution : Execution) : AttemptOutcome :=
  let evaluated : AttemptOutcome :=
    match execution.output.map (validateOutput valid) with
    | none => {
        output := none
        error := execution.error
        cancelled := execution.cancelled
        retry := execution.retry }
    | some (.ok output) => {
        output := some output
        error := execution.error
        cancelled := execution.cancelled
        retry := execution.retry }
    | some (.error message) => {
        output := none
        error := some (if execution.timedOut
          then "timeout; captured adapter output failed evidence validation: " ++ message
          else "adapter output failed evidence validation: " ++ message)
        cancelled := execution.cancelled
        retry := if execution.timedOut then .transientTimeout else .never }
  match execution.cleanupError with
  | none => evaluated
  | some message =>
      { evaluated with
        output := none
        error := some ("temporary credential cleanup failed: " ++ message)
        retry := .never }

/-- `output_recovered_after_timeout`. -/
def recoveredAfterTimeout (outcome : AttemptOutcome) (execution : Execution) : Bool :=
  execution.timedOut && outcome.output.isSome

def writeStdout (phase routeId : String) (attempt : Nat) (output : Option AdapterOutput) :
    Proc Unit :=
  Prog.modify fun s =>
    { s with
      stdout := fun p r n =>
        if p = phase ∧ r = routeId ∧ n = attempt then output else s.stdout p r n }

/-- `run_attempt`. -/
def runAttempt (me : Pid) (manifest : RunManifest) (route : RoutePolicy) (phase : String)
    (attempt timeoutSeconds maxAttempts : Nat) : Proc AttemptOutcome := do
  if ← Prog.read (·.cancelRequested) then
    return { output := none, error := some "cancelled", cancelled := true, retry := .never }
  else do
    openAttempt phase route.routeId attempt
    let _ ← Store.event me manifest.runId "lane.started" (some phase) (some route.partyId)
      (some attempt) (jsonObject [("adapter", jsonString route.executable)])
    let execution ← execute me phase route.routeId attempt timeoutSeconds
    writeStdout phase route.routeId attempt execution.output
    let valid ← Prog.read fun s => allowedEvidenceRefs s.inputs.snapshot
    let outcome := attemptOutcome valid execution
    let _ ← Store.event me manifest.runId "lane.finished" (some phase) (some route.partyId)
      (some attempt) (jsonObject [
        ("timed_out", toString execution.timedOut),
        ("cancelled", toString execution.cancelled),
        ("accepted", toString outcome.output.isSome),
        ("error", jsonOption jsonString outcome.error),
        ("output_recovered_after_timeout", toString (recoveredAfterTimeout outcome execution)),
        ("failure_class", if outcome.output.isSome then "null"
          else jsonString outcome.retry.failureClass),
        ("retryable", toString (outcome.output.isNone
          && retryAllowed outcome.retry attempt maxAttempts))])
    return outcome

/-! ### Retries of a lane -/

/-- `run_retry_attempt`: the outcome of the attempt after `attempt`. -/
def runRetryAttempt (me : Pid) (host : Host) (policy : Policy) (manifest : RunManifest)
    (phase : String) (route : RoutePolicy) (attempt : Nat) (retry : RetryClass) :
    Proc AttemptOutcome := do
  let schedule ← Prog.ofExcept
    (retrySchedule host retry policy manifest.runId phase route.routeId attempt)
  let now ← Proc.clock
  let dueAt := now + schedule.delay
  persistRetryDeadline phase route attempt dueAt retry schedule.source
  let r2SerialPacing := phase == "R2" && !policy.r2Parallel
  if r2SerialPacing then
    persistR2PacingUntil route attempt dueAt
      (match retry with
        | .rateLimited _ => "rate_limit_backoff"
        | _ => "retry_backoff")
  let _ ← Store.event me manifest.runId "lane.retry_scheduled" (some phase) (some route.partyId)
    (some attempt) (jsonObject [
      ("route_id", jsonString route.routeId),
      ("failure_class", jsonString retry.failureClass),
      ("source", jsonString schedule.source),
      ("base_backoff_seconds", toString policy.retryBackoffSeconds),
      ("exponential_backoff_seconds", toString schedule.backoffSeconds),
      ("jitter_milliseconds", toString schedule.jitter),
      ("retry_after_seconds", jsonOption toString schedule.retryAfterSeconds),
      ("delay_milliseconds", toString schedule.delay),
      ("due_at", toString dueAt)])
  waitForRetryDeadline me manifest phase route (attempt + 1)
  if r2SerialPacing then waitForR2Pacing me manifest route (attempt + 1)
  let _ ← Store.event me manifest.runId "lane.retry_started" (some phase) (some route.partyId)
    (some (attempt + 1)) (jsonObject [("route_id", jsonString route.routeId)])
  build phase route.routeId (attempt + 1) policy.timeoutSeconds
  let outcome ← runAttempt me manifest route phase (attempt + 1) policy.timeoutSeconds
    policy.maxAttempts
  if r2SerialPacing then
    persistR2Pacing route (attempt + 1) policy.r2MinIntervalSeconds "inter_call_pacing"
  return outcome

/-- The refs_remapped payload. -/
def remappedText (pairs : List (String × String)) : String :=
  jsonObject [("remapped", jsonArray (pairs.map fun (old, new) =>
    jsonArray [jsonString old, jsonString new]))]

def writeAccepted (phase routeId : String) (output : LaneOutput) : Proc Unit :=
  Prog.modify fun s => { s with accepted := setLane s.accepted phase routeId (some output) }

/-- The part of `accept_or_retry_lane` that accepts an output. -/
def acceptLane (me : Pid) (policy : Policy) (manifest : RunManifest) (phase : String)
    (route : RoutePolicy) (firstAttempt attempt : Nat) (output : LaneOutput) :
    Proc LaneAccepted := do
  let valid ← Prog.read fun s => allowedEvidenceRefs s.inputs.snapshot
  let (output, remapped) ← Prog.ofExcept (validateEvidenceRefs valid output)
  if !remapped.isEmpty then
    let _ ← Store.event me manifest.runId "evidence.refs_remapped" (some phase)
      (some route.partyId) (some attempt) (remappedText remapped)
  writeAccepted phase route.routeId output
  let lane := laneAccepted phase route output
  let _ ← Store.event me manifest.runId "lane.accepted" (some phase) (some route.partyId)
    (some attempt) (jsonObject [
      ("route_id", jsonString route.routeId),
      ("artifact", jsonString lane.artifactRef),
      ("attempts", toString attempt),
      ("retries", toString (attempt - firstAttempt)),
      ("phase", jsonString phase),
      ("timeout_seconds", toString (policy.timeoutForPhase phase))])
  return lane

/-- The loop of `accept_or_retry_lane`, for an attempt that may be followed by
    `budget` more. -/
def acceptOrRetryLoop (me : Pid) (host : Host) (policy : Policy) (manifest : RunManifest)
    (phase : String) (route : RoutePolicy) (firstAttempt : Nat) :
    Nat → Nat → AttemptOutcome → Proc LaneAccepted
  | budget, attempt, outcome => do
    let cancelRequested ← Prog.read (·.cancelRequested)
    if outcome.cancelled || cancelRequested then
      let _ ← cancelRun me manifest
      Prog.throw runCancelled
    else match outcome.output with
      | some (.arbiter _) =>
          Prog.throw ("internal adapter contract mismatch: " ++ route.partyId
            ++ " returned ArbiterVerdict in " ++ phase)
      | some (.lane output) => acceptLane me policy manifest phase route firstAttempt attempt output
      | none =>
        match budget, retryAllowed outcome.retry attempt policy.maxAttempts with
        | budget + 1, true => do
          let outcome ← runRetryAttempt me host policy manifest phase route attempt outcome.retry
          acceptOrRetryLoop me host policy manifest phase route firstAttempt budget (attempt + 1)
            outcome
        | _, _ =>
          Prog.throw (route.partyId ++ " failed in " ++ phase ++ ": "
            ++ outcome.error.getD "invalid adapter output")

/-- `accept_or_retry_lane`: the lane that is accepted. -/
def acceptOrRetryLane (me : Pid) (host : Host) (policy : Policy) (manifest : RunManifest)
    (phase : String) (route : RoutePolicy) (attempt : Nat) (outcome : AttemptOutcome) :
    Proc LaneAccepted :=
  acceptOrRetryLoop me host policy manifest phase route attempt (policy.maxAttempts - attempt)
    attempt outcome

/-- The loop of `await_arbiter_output`. -/
def awaitArbiterLoop (me : Pid) (host : Host) (policy : Policy) (manifest : RunManifest)
    (phase : String) (route : RoutePolicy) :
    Nat → Nat → AttemptOutcome → Proc (Option ArbiterVerdict)
  | budget, attempt, outcome => do
    let cancelRequested ← Prog.read (·.cancelRequested)
    if outcome.cancelled || cancelRequested then return none
    else match outcome.output with
      | some (.lane _) =>
          Prog.throw ("internal adapter contract mismatch: " ++ route.partyId
            ++ " returned LaneOutput in " ++ phase)
      | some (.arbiter verdict) => do
        let valid ← Prog.read fun s => allowedEvidenceRefs s.inputs.snapshot
        let (verdict, _) ← Prog.ofExcept (validateArbiterSemantics valid verdict)
        return some verdict
      | none =>
        match budget, retryAllowed outcome.retry attempt policy.maxAttempts with
        | budget + 1, true => do
          let outcome ← runRetryAttempt me host policy manifest phase route attempt outcome.retry
          awaitArbiterLoop me host policy manifest phase route budget (attempt + 1) outcome
        | _, _ =>
          Prog.throw (route.partyId ++ " failed in " ++ phase ++ ": "
            ++ outcome.error.getD "invalid arbiter output")

/-- `await_arbiter_output`; `none` if the run is being cancelled. -/
def awaitArbiterOutput (me : Pid) (host : Host) (policy : Policy) (manifest : RunManifest)
    (phase : String) (route : RoutePolicy) (attempt : Nat) (outcome : AttemptOutcome) :
    Proc (Option ArbiterVerdict) :=
  awaitArbiterLoop me host policy manifest phase route (policy.maxAttempts - attempt) attempt
    outcome

/-! ### Phases -/

/-- `phase_complete`. -/
def phaseComplete (s : RunDir) (phase : String) (policy : Policy) : Bool :=
  policy.roster.all fun route => (s.accepted phase route.routeId).isSome

/-- The accepted lane of a route, if there is one. -/
def readAccepted (s : RunDir) (phase : String) (route : RoutePolicy) :
    Except String (Option LaneAccepted) :=
  match s.accepted phase route.routeId with
  | none => .ok none
  | some output =>
      if Schema.laneOutput output then .ok (some (laneAccepted phase route output))
      else .error "accepted.json does not match its schema"

/-- `load_phase`. -/
def loadPhase (s : RunDir) (phase : String) (policy : Policy) : Except String (List LaneAccepted) :=
  if phase = "R2" ∧ s.r2Skipped = true then .ok []
  else policy.roster.mapM fun route => do
    match ← readAccepted s phase route with
    | none => .error "cannot read accepted.json"
    | some lane => .ok lane

/-- `load_existing_phase_outputs`. -/
def loadExistingPhaseOutputs (s : RunDir) (phase : String) (policy : Policy) :
    Except String (List LaneAccepted) :=
  policy.roster.filterMapM (readAccepted s phase)

/-- What the fan-out of a phase comes to once every lane has been joined. -/
structure Fanout where
  finished : List (RoutePolicy × Nat × AttemptOutcome)
  joinErrors : List String
  cancelled : Bool

/-- The attempt of every lane, before any of them is built. -/
def nextAttempts (phase : String) (policy : Policy) :
    List RoutePolicy → Proc (List (RoutePolicy × Nat))
  | [] => return []
  | route :: rest => do
    let numbers ← Prog.read (·.attempts phase route.routeId)
    let attempt ← Prog.ofExcept (nextAttempt phase route.routeId policy.maxAttempts numbers)
    let rest ← nextAttempts phase policy rest
    return (route, attempt) :: rest

/-- Every invocation is built before any lane is spawned. -/
def buildLanes (me : Pid) (policy : Policy) (manifest : RunManifest) (phase : String) :
    List (RoutePolicy × Nat) → Proc Unit
  | [] => return ()
  | (route, attempt) :: rest => do
    waitForRetryDeadline me manifest phase route attempt
    build phase route.routeId attempt (policy.timeoutForPhase phase)
    buildLanes me policy manifest phase rest

/-- One lane's thread has been joined. -/
def Fanout.join (fanout : Fanout) (route : RoutePolicy) (attempt : Nat) :
    Except String AttemptOutcome → Fanout
  | .ok outcome => { fanout with finished := (route, attempt, outcome) :: fanout.finished }
  | .error e => { fanout with joinErrors := (route.partyId ++ ": " ++ e) :: fanout.joinErrors }

/-- The soft stagger between two starts: whether the run was cancelled in it. -/
def staggered (me : Pid) (host : Host) (manifest : RunManifest) : Proc Bool := do
  if host.startStagger = 0 then return false
  else do
    let now ← Proc.clock
    if ← waitCancellable (now + host.startStagger) then
      let _ ← (cancelRun me manifest).attempt
      return true
    else return false

/-- Spawn a thread for each lane, and join them all. A lane runs beside the rest
    of the loop. -/
def spawnLanes (me : Pid) (host : Host) (policy : Policy) (manifest : RunManifest)
    (phase : String) : List (RoutePolicy × Nat) → Proc Fanout
  | [] => return { finished := [], joinErrors := [], cancelled := false }
  | (route, attempt) :: rest => do
    let (outcome, fanout) ← Prog.interleave Answer.first
      (runAttempt me manifest route phase attempt (policy.timeoutForPhase phase)
        policy.maxAttempts)
      (if rest.isEmpty then return { finished := [], joinErrors := [], cancelled := false }
        else do
          if ← staggered me host manifest then
            return { finished := [], joinErrors := [], cancelled := true }
          else spawnLanes me host policy manifest phase rest)
    let fanout ← Prog.ofExcept fanout
    return fanout.join route attempt outcome

/-- Accept the lanes that have finished, one after another, and collect the
    errors. -/
def acceptLanes (me : Pid) (host : Host) (policy : Policy) (manifest : RunManifest)
    (phase : String) :
    List (RoutePolicy × Nat × AttemptOutcome) → Proc (List LaneAccepted × List String)
  | [] => return ([], [])
  | (route, attempt, outcome) :: rest => do
    let lane ← (acceptOrRetryLane me host policy manifest phase route attempt outcome).attempt
    let (accepted, errors) ← acceptLanes me host policy manifest phase rest
    match lane with
    | .ok lane => return (lane :: accepted, errors)
    | .error e => return (accepted, (route.partyId ++ ": " ++ e) :: errors)

/-- The parallel branch of `run_phase`: the lanes it adds. -/
def fanOut (me : Pid) (host : Host) (policy : Policy) (manifest : RunManifest) (phase : String)
    (missing : List RoutePolicy) : Proc (List LaneAccepted) := do
  let pending ← nextAttempts phase policy missing
  buildLanes me policy manifest phase pending
  let fanout ← spawnLanes me host policy manifest phase pending
  if fanout.cancelled then Prog.throw runCancelled
  else if !fanout.joinErrors.isEmpty then
    Prog.throw (phase ++ " lane execution failed: " ++ "; ".intercalate fanout.joinErrors)
  else do
    let (accepted, errors) ← acceptLanes me host policy manifest phase fanout.finished
    if !errors.isEmpty then
      Prog.throw (phase ++ " acceptance failed: " ++ "; ".intercalate errors)
    else return accepted

/-- The serial branch of `run_phase`: one lane at a time, with pacing. -/
def runSerial (me : Pid) (host : Host) (policy : Policy) (manifest : RunManifest)
    (phase : String) : List RoutePolicy → Proc (List LaneAccepted)
  | [] => return []
  | route :: rest => do
    let numbers ← Prog.read (·.attempts phase route.routeId)
    let attempt ← Prog.ofExcept (nextAttempt phase route.routeId policy.maxAttempts numbers)
    waitForRetryDeadline me manifest phase route attempt
    waitForR2Pacing me manifest route attempt
    build phase route.routeId attempt (policy.timeoutForPhase phase)
    let outcome ← runAttempt me manifest route phase attempt (policy.timeoutForPhase phase)
      policy.maxAttempts
    persistR2Pacing route attempt policy.r2MinIntervalSeconds "inter_call_pacing"
    let lane ← acceptOrRetryLane me host policy manifest phase route attempt outcome
    let lanes ← runSerial me host policy manifest phase rest
    return lane :: lanes

/-- R1 always fans out, R2 only under the `r2_parallel` switch. -/
def parallelFanOut (policy : Policy) (phase : String) : Bool :=
  phase == "R1" || (phase == "R2" && policy.r2Parallel)

/-- `run_phase`. -/
def runPhase (me : Pid) (host : Host) (policy : Policy) (manifest : RunManifest)
    (phase : String) : Proc (List LaneAccepted) := do
  let accepted ← Prog.ofExcept (← Prog.read (loadExistingPhaseOutputs · phase policy))
  let missing := policy.roster.filter fun route =>
    !accepted.any fun lane => lane.routeId = route.routeId
  let ran ← if parallelFanOut policy phase then fanOut me host policy manifest phase missing
    else runSerial me host policy manifest phase missing
  let lanes := accepted ++ ran
  Prog.ensure (lanes.length == 5) (phase ++ " five-party gate failed")
  let totalAttempts ← Prog.read fun s =>
    (lanes.map fun lane => (s.attempts phase lane.routeId).length).sum
  let _ ← Store.event me manifest.runId "phase.completed" (some phase) none none (jsonObject [
    ("phase", jsonString phase),
    ("lanes_completed", toString lanes.length),
    ("total_attempts", toString totalAttempts),
    ("timeout_seconds", toString (policy.timeoutForPhase phase)),
    ("r2_parallel", toString policy.r2Parallel),
    ("parallel_fan_out", toString (parallelFanOut policy phase))])
  return lanes

end Run

end Quinte
