import Mathlib
import Quinte.Framework.Program
import Quinte.Model.Types

/-! # The run directory

    The state that every process of a run shares: the files of the run
    directory and the advisory locks on it.  A program is a `Proc`; each of
    its steps is one durable effect on that state, so the states between steps
    are those a crash can leave behind.

    A JSON value that no code inspects is its text, a UUID is a number drawn
    from a counter that never repeats, and a point in time is a number.  The
    fields of history are written along with the effects they describe and
    never read by a program.
-/

namespace Quinte

open Program

/-! ### Files that the source keeps next to the manifest -/

abbrev Pid := Nat

/-- `PendingTransition` (`diagnostics/pending-transition.json`). -/
structure PendingTransition where
  transitionId : Nat
  timestamp : Nat
  «from» : RunStatus
  «to» : RunStatus
  requested : RunStatus
  phase : Option String
  detail : String
  deriving DecidableEq, Repr, Inhabited

/-- The payload of an event: that of a `run.transition`, or any other JSON
    value, by its text. -/
inductive EventData where
  | transition (transitionId : Nat) («from» «to» requested : RunStatus) (detail : String)
  | other (text : String)
  deriving DecidableEq, Repr, Inhabited

/-- `data.get("transition_id").and_then(Value::as_str)`. -/
def EventData.transitionId? : EventData → Option Nat
  | .transition id .. => some id
  | .other _ => none

structure Event where
  eventVersion : String
  sequence : Nat
  timestamp : Nat
  runId : String
  eventType : String
  phase : Option String
  partyId : Option String
  attempt : Option Nat
  data : EventData
  deriving DecidableEq, Repr, Inhabited

structure ActiveProcess where
  pid : Nat
  identity : String
  program : String
  deriving DecidableEq, Repr, Inhabited

/-- `packets/r2.json`; the map of participants is the list of its entries. -/
structure R2Packet where
  packetVersion : String
  runId : String
  question : String
  participants : List (String × LaneOutput)
  evidenceManifestSha256 : Digest
  deriving DecidableEq, Repr, Inhabited

/-- `r3/evidence-packet.json`; a map from parties is the list of its entries. -/
structure EvidencePacket where
  evidencePacketVersion : String
  runId : String
  question : String
  r1 : List (String × LaneOutput)
  r2 : List (String × LaneOutput)
  snapshotSha256 : Digest
  deriving DecidableEq, Repr, Inhabited

/-- `r3/primary-arbiter-packet.json`. -/
structure PrimaryArbiterPacket where
  primaryArbiterPacketVersion : String
  runId : String
  inputReceiptSha256 : Digest
  evidencePacket : EvidencePacket
  counterpartArbiterVerdict : ArbiterVerdict
  deriving DecidableEq, Repr, Inhabited

/-! ### Files of the lanes -/

/-- Where a rate limit was recognised, and what the provider asked for. -/
structure RateLimitSignal where
  source : String
  retryAfterSeconds : Option Nat
  deriving DecidableEq, Repr, Inhabited

/-- Why an adapter attempt failed. -/
inductive RetryClass where
  | never
  | transientTimeout
  | transientAdapter
  | rateLimited (signal : RateLimitSignal)
  deriving DecidableEq, Repr, Inhabited

/-- What an adapter's output parses to. -/
inductive AdapterOutput where
  | lane (output : LaneOutput)
  | arbiter (verdict : ArbiterVerdict)
  deriving DecidableEq, Repr, Inhabited

/-- `lanes/<phase>/<route>/retry-deadline.json`. -/
structure RetryDeadlineState where
  retryStateVersion : String
  phase : String
  routeId : String
  previousAttempt : Nat
  nextAttempt : Nat
  dueAt : Nat
  failureClass : String
  source : String
  deriving DecidableEq, Repr, Inhabited

/-- `diagnostics/r2-rate-state.json`. -/
structure R2RateState where
  rateStateVersion : String
  nextAllowedAt : Nat
  reason : String
  routeId : String
  attempt : Nat
  deriving DecidableEq, Repr, Inhabited

/-- The start of the provider call of an attempt. -/
structure TransportStart where
  phase : String
  routeId : String
  attempt : Nat
  timeoutSeconds : Nat
  time : Nat
  deriving DecidableEq, Repr, Inhabited

/-- The adapter of an attempt, once the directory of the attempt is there. -/
structure AdapterBuild where
  phase : String
  routeId : String
  attempt : Nat
  timeoutSeconds : Nat
  deriving DecidableEq, Repr, Inhabited

/-- The files of the lanes, the clock (in milliseconds) and four fields of
    history. The files of a lane are indexed by its phase and its route. -/
structure Lanes where
  /-- the numbers of the `attempt-N` directories -/
  attempts : String → String → List Nat
  retryDeadlines : String → String → Option RetryDeadlineState
  r2RateState : Option R2RateState
  /-- what the `stdout.bin` of an attempt parses to -/
  stdout : String → String → Nat → Option AdapterOutput
  /-- `accepted.json` -/
  accepted : String → String → Option LaneOutput
  clock : Nat
  /-- history: the provider calls, in the order in which they started -/
  started : List TransportStart
  /-- history: the retry deadlines, in the order in which they were set -/
  scheduled : List RetryDeadlineState
  /-- history: an R2 call has started since the next permitted start was
      last written down -/
  unpaced : Bool
  /-- history: `unpaced`, when the run lock was last taken -/
  stale : Bool

/-- `input/`: written at creation and never again. `snapshotFile` is the
    digest of the file a snapshot or attachment reference names. -/
structure Inputs where
  brief : Brief
  policy : Policy
  snapshot : SnapshotManifest
  snapshotFile : String → Option Digest

/-- The advisory locks `.run.lock`, `.manifest.lock`, `.events.lock` and
    `.active-pids.lock`. -/
inductive Lock where
  | run | manifest | events | activePids
  deriving DecidableEq, Repr

/-- The files and locks that decide the course of a run, and five fields of
    history. A missing file is `none`, or `false` where nothing depends on
    its content. -/
structure Control where
  manifest : Option RunManifest
  pending : Option PendingTransition
  events : List Event
  cancelRequested : Bool
  result : Option ResultEnvelope
  report : Bool
  locks : Lock → Option Pid
  /-- the next UUID -/
  nextId : Nat
  /-- history: the transitions whose manifest replacement became durable -/
  replaced : List Nat
  /-- history: the transition that the holder of the manifest lock has written
      down as pending -/
  intent : Option PendingTransition
  /-- history: `cancel.requested` existed when the manifest lock was taken -/
  flagAtLock : Bool
  /-- history: the holder of the lock on the active processes has published a
      cancellation under it -/
  publishing : Bool

/-- The run directory. -/
structure RunDir extends Control, Lanes where
  activeProcesses : List ActiveProcess
  inputs : Inputs
  r2Skipped : Bool
  r2Packet : Option R2Packet
  evidencePacket : Option EvidencePacket
  ccResponse : Option ArbiterVerdict
  inputReceipt : Option R3InputReceipt
  primaryPacket : Option PrimaryArbiterPacket
  primaryRequest : Option PrimaryArbiterChallenge
  primaryResponse : Option PrimaryArbiterResponse
  /-- `r3/hm-response.json`, which only an older version writes -/
  hmResponse : Option PrimaryArbiterResponse
  /-- history: the adapters that were built -/
  built : List AdapterBuild := []

/-! ### Locks -/

namespace Control

/-- A lock is taken or released. -/
def setLock (s : Control) (l : Lock) (o : Option Pid) : Control :=
  { s with locks := fun l' => if l' = l then o else s.locks l' }

@[simp] theorem setLock_self (s : Control) (l : Lock) (o : Option Pid) :
    (s.setLock l o).locks l = o := by
  simp [setLock]

@[simp] theorem setLock_ne (s : Control) {l l' : Lock} (o : Option Pid) (h : l' ≠ l) :
    (s.setLock l o).locks l' = s.locks l' := by
  simp [setLock, h]

/-- Taking a lock; the manifest lock also begins a critical section. -/
def take (s : Control) (me : Pid) (l : Lock) : Control :=
  { s.setLock l (some me) with
    flagAtLock := if l = .manifest then s.cancelRequested else s.flagAtLock }

/-- Releasing a lock that `me` holds; this ends the critical section it guards. -/
def drop (s : Control) (me : Pid) (l : Lock) : Control :=
  if s.locks l = some me then
    { s.setLock l none with
      intent := if l = .manifest then none else s.intent
      publishing := if l = .activePids then false else s.publishing }
  else s

/-- When a process dies, the operating system releases its locks. -/
def release (me : Pid) (s : Control) : Control :=
  { s with
    locks := fun l => if s.locks l = some me then none else s.locks l
    intent := if s.locks .manifest = some me then none else s.intent
    publishing := if s.locks .activePids = some me then false else s.publishing }

@[simp] theorem take_locks_self (s : Control) (me : Pid) (l : Lock) :
    (s.take me l).locks l = some me :=
  s.setLock_self l _

@[simp] theorem take_locks_ne (s : Control) (me : Pid) {l l' : Lock} (h : l' ≠ l) :
    (s.take me l).locks l' = s.locks l' :=
  s.setLock_ne _ h

theorem release_locks_of_ne {s : Control} {me q : Pid} {l : Lock} (h : s.locks l = some me)
    (hq : q ≠ me) : (s.release q).locks l = some me := by
  have hne : s.locks l ≠ some q := by
    rw [h]
    exact fun heq => hq (Option.some.inj heq).symm
  exact (if_neg hne).trans h

end Control

/-- Change the part of the run directory that decides its course. -/
def RunDir.control (s : RunDir) (f : Control → Control) : RunDir :=
  { s with toControl := f s.toControl }

@[simp] theorem RunDir.control_toControl (s : RunDir) (f : Control → Control) :
    (s.control f).toControl = f s.toControl := rfl

/-! ### Programs on a run directory -/

/-- What one adapter execution yields, and what `evaluate_attempt_output` makes
    of its streams. -/
structure Execution where
  output : Option AdapterOutput
  error : Option String
  retry : RetryClass
  timedOut : Bool
  cancelled : Bool
  /-- the error of `SensitiveCleanup::finish` -/
  cleanupError : Option String
  deriving DecidableEq, Repr, Inhabited

/-- What an attempt comes to. -/
structure AttemptOutcome where
  output : Option AdapterOutput
  error : Option String
  cancelled : Bool
  retry : RetryClass
  deriving DecidableEq, Repr, Inhabited

/-- How `adapters::build` ends: before it creates the directory of the attempt,
    after that, or with an invocation. -/
inductive Build where
  | unavailable (error : String)
  | failed (error : String)
  | built
  deriving DecidableEq, Repr, Inhabited

/-- What a program learns from outside the run directory. Each question uses
    one component. -/
structure Answer where
  now : Nat
  nonce : String
  rotation : Nat
  /-- which of two threads goes on -/
  first : Bool
  build : Build
  /-- the process an adapter runs in, unless it runs in this one -/
  process : Option ActiveProcess
  execution : Except String Execution
  missingAdapters : List String
  deriving DecidableEq, Inhabited

/-- What is fixed outside the run directory: the digests of texts, of files
    and of compact JSON texts, that of the running executable, and a setting. -/
structure Host where
  textDigest : String → Digest
  briefDigest : Brief → Digest
  policyDigest : Policy → Digest
  snapshotDigest : SnapshotManifest → Digest
  laneDigest : LaneOutput → Digest
  evidencePacketDigest : EvidencePacket → Digest
  verdictDigest : ArbiterVerdict → Digest
  inputReceiptDigest : R3InputReceipt → Digest
  responseDigest : PrimaryArbiterResponse → Digest
  hmResponseDigest : PrimaryArbiterResponse → Digest
  resultDigest : ResultEnvelope → Digest
  runtimeSha256 : Digest
  /-- `parallel_start_stagger`, in milliseconds -/
  startStagger : Nat

/-- A program on a run directory; an error is its message. -/
abbrev Proc (α : Type) := Prog RunDir Answer String α

namespace Proc

/-- Run `p` under a lock, waiting for it. -/
def withLock {α : Type} (me : Pid) (l : Lock) (p : Proc α) : Proc α :=
  Prog.bracket (Prog.await (fun s => s.locks l = none) (·.control (·.take me l)))
    (Prog.modify (·.control (·.drop me l))) p

/-- `utc_now()`. -/
def utcNow : Proc Nat :=
  Prog.answer Answer.now

/-- `Utc::now()` where a delay is computed from it: the clock never goes back. -/
def clock : Proc Nat := do
  let now ← Prog.answer Answer.now
  .act (fun _ => true) (fun s => { s with clock := max s.clock now }) fun s =>
    .pure (max s.clock now)

/-- `Uuid::now_v7()`. -/
def freshId : Proc Nat :=
  .act (fun _ => true) (fun s => { s with nextId := s.nextId + 1 }) fun s => .pure s.nextId

end Proc

end Quinte
