import Mathlib
import Quinte.Model.Schema

/-! # The store

    The operations of `store.rs` on one run directory: the event ledger, the
    manifest, its journaled transitions, and cancellation.  A lock is held for
    as long as the guard lives in the source: what the source returns while a
    guard is in scope is computed under it.
-/

namespace Quinte

open Program

/-! ### Statuses -/

/-- `transition_allowed`. -/
def transitionAllowed (source target : RunStatus) : Bool :=
  if source = target then true
  else match target with
    | .failed | .failedPolicy | .cancelling | .cancelled => !source.terminal
    | _ =>
      match source, target with
      | .queued, .preflight => true
      | .preflight, .r1Running => true
      | .r1Running, .r1Gate => true
      | .r1Gate, .r2Packet => true
      | .r1Gate, .r2Running => true
      -- a unanimous R1 never builds an R2 packet
      | .r1Gate, .r2Gate => true
      | .r2Packet, .r2Running => true
      | .r2Packet, .r2Gate => true
      | .r2Running, .r2Gate => true
      | .r2Gate, .r3Cc => true
      | .r2Gate, .waitingPrimaryArbiter => true
      | .r3Cc, .waitingPrimaryArbiter => true
      | .r3Cc, .merging => true
      | .waitingPrimaryArbiter, .merging => true
      | .merging, .completed => true
      | .merging, .degraded => true
      | _, _ => false

/-- How far a run has come. A transition keeps the status or moves it up. -/
def RunStatus.rank : RunStatus → Nat
  | .queued => 0
  | .preflight => 1
  | .r1Running => 2
  | .r1Gate => 3
  | .r2Packet => 4
  | .r2Running => 5
  | .r2Gate => 6
  | .r3Cc => 7
  | .waitingPrimaryArbiter => 8
  | .merging => 9
  | .cancelling => 10
  | .completed | .degraded | .failed | .failedPolicy | .cancelled => 11

/-- **Transitions move up**: only a self-transition keeps the rank. -/
theorem rank_lt_of_allowed {source target : RunStatus} (h : transitionAllowed source target = true)
    (hne : source ≠ target) : source.rank < target.rank := by
  revert h hne
  cases source <;> cases target <;> decide

theorem rank_le_of_allowed {source target : RunStatus} (h : transitionAllowed source target = true) :
    source.rank ≤ target.rank := by
  by_cases hne : source = target
  · rw [hne]
  · exact (rank_lt_of_allowed h hne).le

/-- A run that is being cancelled or was. -/
def RunStatus.cancels : RunStatus → Bool
  | .cancelling | .cancelled => true
  | _ => false

namespace Store

/-! ### The event ledger -/

/-- `read_events`, over records that are whole. -/
def readEvents : Proc (List Event) := do
  let events ← Prog.read (·.events)
  Prog.ensure (events.map (·.sequence) == (List.range events.length).map (· + 1))
    "events.jsonl sequence mismatch"
  return events

def nextSequence (events : List Event) : Nat :=
  match events.getLast? with
  | none => 1
  | some event => event.sequence + 1

/-- `append_jsonl` on the ledger. -/
def appendEvent (event : Event) : Proc Unit :=
  Prog.modify fun s => { s with events := s.events ++ [event] }

/-- The record of a transition in the ledger. -/
def recordOfTransition (events : List Event) (id : Nat) : Option Event :=
  events.find? fun event => event.data.transitionId? = some id

def eventAt (me : Pid) (runId eventType : String) (phase partyId : Option String)
    (attempt : Option Nat) (data : EventData) (timestamp : Nat) : Proc Event :=
  Proc.withLock me .events do
    let existing ← readEvents
    let known :=
      if eventType = "run.transition" then data.transitionId?.bind (recordOfTransition existing)
      else none
    match known with
    | some event => return event
    | none =>
      let event : Event := {
        eventVersion := "1.0"
        sequence := nextSequence existing
        timestamp := timestamp
        runId := runId
        eventType := eventType
        phase := phase
        partyId := partyId
        attempt := attempt
        data := data }
      Prog.ensure (Schema.runEvent event) "run event does not match its schema"
      appendEvent event
      return event

def event (me : Pid) (runId eventType : String) (phase partyId : Option String)
    (attempt : Option Nat) (text : String) : Proc Event := do
  let now ← Proc.utcNow
  eventAt me runId eventType phase partyId attempt (.other text) now

/-! ### The pending transition -/

def PendingTransition.data (pending : PendingTransition) : EventData :=
  .transition pending.transitionId pending.from pending.to pending.requested pending.detail

def removePending : Proc Unit :=
  Prog.modify fun s => { s with pending := none }

/-- The end of `recover_pending_transition`: record the transition, unless it
    is recorded, and forget it. -/
def recordPending (me : Pid) (manifest : RunManifest) (pending : PendingTransition) : Proc Unit :=
  Proc.withLock me .events do
    let events ← readEvents
    match recordOfTransition events pending.transitionId with
    | some _ => removePending
    | none =>
      let event : Event := {
        eventVersion := "1.0"
        sequence := nextSequence events
        timestamp := pending.timestamp
        runId := manifest.runId
        eventType := "run.transition"
        phase := pending.phase
        partyId := none
        attempt := none
        data := PendingTransition.data pending }
      Prog.ensure (Schema.runEvent event) "run event does not match its schema"
      appendEvent event
      removePending

/-- `recover_pending_transition`, with the manifest its caller has read. -/
def recoverPendingTransition (me : Pid) (manifest : RunManifest) : Proc Unit := do
  if (← Prog.read (·.pending)).isNone then return ()
  else
    match ← Prog.read (·.pending) with
    | none => Prog.throw "cannot read diagnostics/pending-transition.json"
    | some pending =>
      if manifest.status = pending.from then removePending
      else if manifest.status ≠ pending.to then
        Prog.throw "pending transition does not match manifest"
      else recordPending me manifest pending

/-! ### The manifest -/

def loadManifest (me : Pid) : Proc RunManifest := do
  match ← Prog.read (·.manifest) with
  | none => Prog.throw "unknown or invalid run"
  | some manifest =>
    recoverPendingTransition me manifest
    return manifest

/-- `save_manifest_unlocked` outside of a transition. -/
def saveManifestUnlocked (manifest : RunManifest) : Proc Unit := do
  Prog.ensure (Schema.runManifest manifest) "run manifest does not match its schema"
  Prog.modify fun s => { s with manifest := some manifest }

def saveManifest (me : Pid) (manifest : RunManifest) : Proc Unit :=
  Proc.withLock me .manifest do
    match ← Prog.read (·.manifest) with
    | none => saveManifestUnlocked manifest
    | some current =>
      if current.status.terminal || current.status == .cancelling then return ()
      else if ← Prog.read (·.cancelRequested) then return ()
      else saveManifestUnlocked manifest

/-- `save_manifest_after_terminal`. -/
def saveManifestAfterTerminal (me : Pid) (manifest : RunManifest) : Proc Unit :=
  Proc.withLock me .manifest (saveManifestUnlocked manifest)

/-- Write down what is about to happen. -/
def writePending (pending : PendingTransition) : Proc Unit :=
  Prog.modify fun s => { s with pending := some pending, intent := some pending }

/-- `save_manifest_unlocked` of a transition. -/
def replaceManifest (pending : PendingTransition) (next : RunManifest) : Proc Unit := do
  Prog.ensure (Schema.runManifest next) "run manifest does not match its schema"
  Prog.modify fun s =>
    { s with
      manifest := some next
      replaced := s.replaced ++ [pending.transitionId] }

/-- `cancel.requested`, written by a transition to `cancelling`. -/
def writeCancelRequested : Proc Unit :=
  Prog.modify fun s => { s with cancelRequested := true }

/-- The manifest a transition writes. -/
def nextManifest (current manifest : RunManifest) (effective : RunStatus) (phase : Option String)
    (now : Nat) : RunManifest :=
  let next := if effective.cancels then current else manifest
  { next with
    status := effective
    currentPhase := phase
    updatedAt := now
    error :=
      if effective = .cancelled then
        some { code := "cancelled", message := "run cancelled by explicit request",
               retryable := false }
      else next.error }

/-- The status a transition asks for, unless a cancellation wins. -/
def effectiveStatus (cancellationWins : Bool) (requested : RunStatus) : RunStatus :=
  if cancellationWins && !requested.cancels then .cancelled else requested

/-- The end of `transition`: replace the manifest and record the transition. A
    transition that cannot be recorded now is left to a later recovery. -/
def commit (me : Pid) (runId : String) (pending : PendingTransition) (next : RunManifest) :
    Proc (RunStatus × RunManifest) := do
  replaceManifest pending next
  match ← (eventAt me runId "run.transition" pending.phase none none
      (PendingTransition.data pending) pending.timestamp).attempt with
  | .ok _ =>
    removePending
    return (pending.to, next)
  | .error _ => return (pending.to, next)

/-- `transition` of a run that is not terminal. Returns the status reached and
    the manifest the caller goes on with. -/
def carryOut (me : Pid) (current manifest : RunManifest) (status : RunStatus)
    (phase : Option String) (detail : String) : Proc (RunStatus × RunManifest) := do
  let requested ← Prog.read (·.cancelRequested)
  let effective := effectiveStatus (requested || current.status == .cancelling) status
  let updatedAt ← Proc.utcNow
  let next := nextManifest current manifest effective phase updatedAt
  Prog.ensure (transitionAllowed current.status effective) "illegal run transition"
  let id ← Proc.freshId
  let timestamp ← Proc.utcNow
  let pending : PendingTransition := {
    transitionId := id
    timestamp := timestamp
    «from» := current.status
    «to» := effective
    requested := status
    phase := phase
    detail := detail }
  writePending pending
  commit me manifest.runId pending next

/-- `transition`, once the current manifest is known. -/
def transitionFrom (me : Pid) (current manifest : RunManifest) (status : RunStatus)
    (phase : Option String) (detail : String) : Proc (RunStatus × RunManifest) :=
  if current.status.terminal then return (current.status, current)
  else if status = .cancelling then do
    writeCancelRequested
    carryOut me current manifest status phase detail
  else carryOut me current manifest status phase detail

def transition (me : Pid) (manifest : RunManifest) (status : RunStatus) (phase : Option String)
    (detail : String) : Proc (RunStatus × RunManifest) :=
  Proc.withLock me .manifest do
    match ← Prog.read (·.manifest) with
    | none => transitionFrom me manifest manifest status phase detail
    | some _ =>
      let current ← loadManifest me
      transitionFrom me current manifest status phase detail

/-- `events`: recovers once in `load_manifest` and once more by itself. -/
def events (me : Pid) : Proc (List Event) := do
  let manifest ← loadManifest me
  recoverPendingTransition me manifest
  Proc.withLock me .events readEvents

/-! ### Cancellation -/

/-- `request_cancellation`: the status and the supervised processes. -/
def requestCancellation (me : Pid) : Proc (RunStatus × List ActiveProcess) :=
  Proc.withLock me .activePids do
    match ← Prog.read (·.manifest) with
    | none => Prog.throw "cannot read manifest.json"
    | some manifest =>
      if manifest.status.terminal then return (manifest.status, [])
      else do
        Prog.modify fun s => { s with cancelRequested := true, publishing := true }
        Prog.modify fun s => { s with result := none }
        Prog.modify fun s => { s with report := false }
        let processes ← Prog.read (·.activeProcesses)
        return (manifest.status, processes)

/-- Taking the run lock. -/
def takeRun (me : Pid) (s : RunDir) : RunDir :=
  { s.control (·.take me .run) with stale := s.unpaced }

@[simp] theorem takeRun_toControl (me : Pid) (s : RunDir) :
    (takeRun me s).toControl = s.toControl.take me .run := rfl

/-- `lock`: the run lock is not waited for. -/
def lock (me : Pid) : Proc Unit :=
  .act (fun _ => true) (fun s => if s.locks .run = none then takeRun me s else s) fun s =>
    if s.locks .run = none then .pure () else .throw "run is already being advanced"

/-- Run `p` under the run lock. -/
def withRunLock {α : Type} (me : Pid) (p : Proc α) : Proc α :=
  Prog.bracket (lock me) (Prog.modify (·.control (·.drop me .run))) p

end Store

end Quinte
