import Mathlib
import Quinte.Framework.Program
import Quinte.Contest.State

/-! # The supervisor

    One invocation of `contest_supervisor.py` on the files of a campaign.  The
    host, the clock and the file system answer what they like.  The log keeps
    the commands with what the files held when they were issued, the answers,
    and what the checks looked at.
-/

namespace Quinte.Contest

open Finance (Bytes)
open Program

/-! ### Campaigns -/

/-- A `quinte host` command. -/
inductive HostCall where
  | preflight
  | status (runId : String)
  | inspect (runId : String)
  | start (entry : Entry)

/-- `timeout`, in seconds. -/
def HostCall.timeout : HostCall → Nat
  | .start _ => 120
  | _ => 90

def HostCall.args : HostCall → List String
  | .preflight => ["host", "preflight"]
  | .status runId => ["host", "status", runId]
  | .inspect runId => ["host", "inspect", runId]
  | .start entry => ["host", "start", "--brief", entry.brief]

/-- What a check looks at. -/
inductive Look where
  | binary (files : Files)
  | plan (files : Files)
  | stateFile (state : Json) (planDigest : String) (count : Nat)
  | entry (entries : List Entry) (state : Json)
  | process (process : Process)
  | preflight (files : Files) (inv : Invocation)
  | status (files : Files) (inv : Invocation) (runId : String) (entry : Entry)
  | inspect (files : Files) (inv : Invocation) (runId : String) (entry : Entry)
      (expectedStatus : String)
  | result (files : Files) (data : Json) (runId : String) (entry : Entry)
  | start (files : Files) (inv : Invocation) (entry : Entry) (acceptedRunIds : List String)
  /-- a value that is about to be written -/
  | written (value : Json)

inductive Event where
  /-- a command is issued; the state file and `HALTED` hold this -/
  | issued (call : HostCall) (stateFile halted : Option Json)
  | answered (call : HostCall) (inv : Invocation)
  /-- a check is made -/
  | looked (look : Look)

/-- The files of a campaign, and what happened in it. -/
structure Campaign where
  stateFile : Option Json
  halted : Option Json
  log : List Event

def Campaign.fresh : Campaign where
  stateFile := none
  halted := none
  log := []

def Campaign.add (event : Event) (c : Campaign) : Campaign := { c with log := c.log ++ [event] }

/-- What is met at one point. -/
structure Observation where
  /-- no other supervisor holds the lock -/
  free : Bool
  now : String
  files : Files
  /-- how a command ends -/
  process : Process

/-- What an invocation returns. -/
inductive Outcome where
  | active (sequence : Nat) (runId : String) (state : Json)
  | done (state : Json)
  | dryRun (sequence : Nat) (brief : String) (command : List String) (state : Json)
  | launched (sequence : Nat) (runId : String) (state : Json)

abbrev Step (α : Type) := Prog Campaign Observation Raised α

/-! ### The code -/

section code

variable (S : Supervisor)

/-- The command line of `_invoke`. -/
def commandLine (call : HostCall) : List String :=
  [S.quinteBin, "--home", S.home] ++ call.args ++ ["--json"]

/-- Make a check. -/
def check {α : Type} (look : Look) (r : Checked α) : Step α := do
  Prog.modify (Campaign.add (.looked look))
  Prog.ofExcept r

/-- Whether a value can be written. -/
def writable (value : Json) : Checked Unit :=
  if S.python.encodes value then .ok () else .error (.uncaught "UnicodeEncodeError")

/-- `_invoke`. -/
def invoke (call : HostCall) : Step Invocation := do
  Prog.modify fun c => c.add (.issued call c.stateFile c.halted)
  let process ← Prog.answer (·.process)
  let inv ← check (.process process)
    (runCommand S.python (commandLine S call) call.timeout process)
  Prog.modify (Campaign.add (.answered call inv))
  return inv

/-- `_atomic_json`, to the state file. -/
def writeState (state : Json) : Step Json := do
  check (.written state) (writable S state)
  Prog.modify fun c => { c with stateFile := some state }
  return state

/-- `_save_state`. -/
def saveState (state : Json) : Step Json := do
  let now ← Prog.answer (·.now)
  writeState S (state.set "updated_at" (.str now))

/-- What `_halt` writes. -/
def sentinel (reason detail now : String) (state : Option Json) : Json :=
  .obj [
    ("schema", .str "quinte.contest.supervisor-halted.v1"),
    ("halted_at", .str now),
    ("reason", .str reason),
    ("detail", .str (String.ofList (detail.toList.take 4000))),
    ("plan", .str S.planPath),
    ("state", .str S.statePath),
    ("state_root", .str S.home),
    ("runtime_sha256", .str S.runtimeSha256),
    ("last_state", state.getD .null)]

/-- `_halt`. -/
def halt {α : Type} (reason detail : String) (state : Option Json) : Step α := do
  let there ← Prog.read (·.halted.isSome)
  if there then Prog.throw (.halted ("campaign halted: " ++ reason ++ ": " ++ detail))
  else do
    let now ← Prog.answer (·.now)
    check (.written (sentinel S reason detail now state))
      (writable S (sentinel S reason detail now state))
    Prog.modify fun c => { c with halted := some (sentinel S reason detail now state) }
    Prog.throw (.halted ("campaign halted: " ++ reason ++ ": " ++ detail))

/-- `_load_state`. -/
def loadState (planDigest : String) (count : Nat) : Step Json := do
  let file ← Prog.read (·.stateFile)
  match file with
  | some state => do
      check (.stateFile state planDigest count) (readState S state planDigest count)
      return state
  | none => do
      let now ← Prog.answer (·.now)
      writeState S (initialState S planDigest now)

/-- `state["next_sequence"]`. -/
def nextSequence (state : Json) : Int := ((state.get "next_sequence").bind asInt).getD 0

/-- `state["acceptances"]`. -/
def acceptances (state : Json) : List Json := ((state.get "acceptances").bind Json.asArr).getD []

/-- The run ids of the acceptances. -/
def acceptedRunIds (state : Json) : List String :=
  (acceptances state).filterMap fun acceptance => (acceptance.get "run_id").bind Json.asStr

/-- `entries[state["next_sequence"] - 1]`. -/
def nextEntry (entries : List Entry) (state : Json) : Checked Entry :=
  match entries[(nextSequence state - 1).toNat]? with
  | some entry => .ok entry
  | none => .error (.uncaught "IndexError")

/-- The active binding of an entry. -/
def binding (entry : Entry) (runId : Json) (now : String) : Json :=
  .obj [
    ("sequence", .int entry.sequence),
    ("brief", .str entry.brief),
    ("brief_sha256", .str entry.briefSha256),
    ("run_id", runId),
    ("launch_started_at", .str now)]

/-- An entry of `last_observation`. -/
def observed (kind now : String) (entry : Entry) (inv : Invocation) : List (String × Json) :=
  [("kind", .str kind), ("observed_at", .str now), ("sequence", .int entry.sequence),
    ("receipt", inv.record)]

/-- The state after the acceptance of an entry. -/
def accept (state : Json) (entry : Entry) (observation acceptance : Json) : Json :=
  ((((state.set "acceptances" (.arr (acceptances state ++ [acceptance]))).set
    "last_accepted_sequence" (.int entry.sequence)).set
    "next_sequence" (.int (entry.sequence + 1))).set "active" .null).set
    "last_observation" (observation.set "accepted" acceptance)

/-- The verification of a completed run, and its acceptance. -/
def settleCompleted (entries : List Entry) (state observation data : Json) (runId : String)
    (entry : Entry) : Step (Outcome ⊕ Json) := do
  let files ← Prog.answer (·.files)
  let now ← Prog.answer (·.now)
  let acceptance ← check (.result files data runId entry)
    (verifyCompletedResult S files data runId entry now)
  let state ← saveState S (accept state entry observation acceptance)
  if (entries.length : Int) < nextSequence state then return .inl (.done state)
  else return .inr state

/-- What is done about an active entry. -/
def settle (entries : List Entry) (state active : Json) : Step (Outcome ⊕ Json) := do
  let entry ← check (.entry entries state) (nextEntry entries state)
  Prog.ensure (active.get "brief" == some (.str entry.brief))
    (.safety "active brief does not match the next plan entry")
  Prog.ensure (active.get "brief_sha256" == some (.str entry.briefSha256))
    (.safety "active brief digest does not match the next plan entry")
  let runId := ((active.get "run_id").bind Json.asStr).getD ""
  let statusInv ← invoke S (.status runId)
  let files ← Prog.answer (·.files)
  let status ← check (.status files statusInv runId entry)
    (checkStatus S files statusInv runId entry)
  let now ← Prog.answer (·.now)
  let observation : Json := .obj (observed "status" now entry statusInv
    ++ [("run_id", .str runId), ("status", .str status)])
  let state ← saveState S (state.set "last_observation" observation)
  if activeStatuses.contains status then return .inl (.active entry.sequence runId state)
  else do
    let inspectInv ← invoke S (.inspect runId)
    let files ← Prog.answer (·.files)
    let data ← check (.inspect files inspectInv runId entry status)
      (checkInspect S files inspectInv runId entry status)
    let observation := observation.set "inspect" inspectInv.record
    let state ← saveState S (state.set "last_observation" observation)
    if status = "completed" then
      settleCompleted S entries state observation data runId entry
    else
      halt S "terminal_status_not_admissible" ("sequence " ++ toString entry.sequence
        ++ " reached " ++ status ++ "; manual review required") (some state)

/-- The dispatch of an entry, after its preflight. -/
def dispatch (state : Json) (entry : Entry) : Step Outcome := do
  let started ← Prog.answer (·.now)
  -- the intent is on disk before the start
  let state ← saveState S (state.set "active" (binding entry .null started))
  let inv ← invoke S (.start entry)
  let now ← Prog.answer (·.now)
  let observation : Json := .obj (observed "start" now entry inv)
  let state ← saveState S (state.set "last_observation" observation)
  let files ← Prog.answer (·.files)
  let runId ← check (.start files inv entry (acceptedRunIds state))
    (checkStart S files inv entry (acceptedRunIds state))
  let state ← saveState S ((state.set "active" (binding entry (.str runId) started)).set
    "last_observation" (observation.set "run_id" (.str runId)))
  return .launched entry.sequence runId state

/-- What is done when no entry is active. -/
def launch (execute : Bool) (entries : List Entry) (state : Json) : Step Outcome := do
  if (entries.length : Int) < nextSequence state then return .done state
  else do
    let entry ← check (.entry entries state) (nextEntry entries state)
    let inv ← invoke S .preflight
    let files ← Prog.answer (·.files)
    check (.preflight files inv) (checkPreflight S files inv)
    let now ← Prog.answer (·.now)
    let state ← saveState S
      (state.set "last_observation" (.obj (observed "preflight" now entry inv)))
    if execute then dispatch S state entry
    else return .dryRun entry.sequence entry.brief (commandLine S (.start entry)) state

/-- `_guard_binary`. -/
def guardBinary (files : Files) : Checked Unit :=
  match files.read S.quinteBin with
  | none => .error (.safety ("cannot hash " ++ S.quinteBin))
  | some bytes => safe (S.platform.sha256 bytes == S.runtimeSha256)
      ("pinned QUINTE binary digest drifted: expected " ++ S.runtimeSha256 ++ ", got "
        ++ S.platform.sha256 bytes)

/-- `_run_locked`, of a plan file that does not change. -/
def runLocked (plan : Bytes) (execute : Bool) : Step Outcome := do
  let halted ← Prog.read (·.halted)
  Prog.ensure halted.isNone (.halted "campaign is halted")
  let files ← Prog.answer (·.files)
  check (.binary files) (guardBinary S files)
  let files ← Prog.answer (·.files)
  let (planDigest, entries) ← check (.plan files) (loadPlan S files plan)
  let state ← loadState S planDigest entries.length
  match state.get "active" with
  | none | some .null => launch S execute entries state
  | some active => do
      let settled ← settle S entries state active
      match settled with
      | .inl outcome => return outcome
      | .inr state => launch S execute entries state

/-- `run`. -/
def run (plan : Bytes) (execute : Bool) : Step Outcome := do
  let free ← Prog.answer (·.free)
  Prog.ensure free .lockBusy
  let result ← (runLocked S plan execute).attempt
  match result with
  | .ok outcome => return outcome
  | .error (.safety detail) => do
      let file ← Prog.read (·.stateFile)
      halt S "SafetyError" detail
        (file.filter fun state => state.isObject && S.python.readable state)
  | .error raised => Prog.throw raised

/-- Campaigns: one invocation after another, and each may die at any point. -/
inductive Reached (plan : Bytes) : Campaign → Prop where
  | fresh : Reached plan Campaign.fresh
  | invocation {c c' : Campaign} {execute : Bool} {p : Step Outcome} :
      Reached plan c → Prog.Reaches (fun _ => True) (run S plan execute) c p c' →
      Reached plan c'

end code

end Quinte.Contest
