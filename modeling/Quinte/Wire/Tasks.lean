import Mathlib
import Quinte.Wire.Observation

/-! # Tasks

    `host_map.rs`: the task records of the server, and the requests that look at
    a task, list tasks and cancel one.
-/

namespace Quinte.Wire

open Program

/-! ### Errors -/

def errInvalidParams : Int := -32602
def errInternal : Int := -32603
def errTaskNotFound : Int := -32001
def errNotCancelable : Int := -32002
def errBusyRun : Int := -32010
def errBriefInvalid : Int := -32011
def errPolicy : Int := -32012
def errChallenge : Int := -32013

namespace A2aError

/-- `A2aError::new`. -/
def plain (code : Int) (message : String) : A2aError := ⟨code, message, none⟩

/-- `A2aError::with_state`. -/
def withState (code : Int) (message stateCode : String) : A2aError :=
  ⟨code, message, some (.obj [("state", .obj [("code", .str stateCode)])])⟩

/-- `A2aError::brief_invalid`. -/
def briefInvalid (detail : String) : A2aError := withState errBriefInvalid detail "brief_invalid"

/-- `A2aError::busy_run`. -/
def busyRun (active : List String) : A2aError :=
  ⟨errBusyRun, "a non-terminal review task already exists",
    some (.obj [("state", .obj [
      ("active_run_ids", textArray active),
      ("code", .str "busy_run")])])⟩

end A2aError

/-- `internal`. -/
def internal (e : Chain) : A2aError := .plain errInternal e.outermost

def taskNotFound (taskId : String) : A2aError :=
  .withState errTaskNotFound ("task " ++ taskId ++ " not found") "not_found"

/-! ### Task states -/

/-- `map_run_status`. -/
def mapRunStatus : RunStatus → String
  | .queued | .preflight => "TASK_STATE_SUBMITTED"
  | .r1Running | .r1Gate | .r2Packet | .r2Running | .r2Gate | .r3Cc | .merging =>
      "TASK_STATE_WORKING"
  | .waitingPrimaryArbiter => "TASK_STATE_INPUT_REQUIRED"
  | .completed | .degraded => "TASK_STATE_COMPLETED"
  | .failed | .failedPolicy => "TASK_STATE_FAILED"
  | .cancelled | .cancelling => "TASK_STATE_CANCELED"

/-! ### Records -/

/-- The file of a task. -/
def Home.recordPath (h : Home) (task : String) : Path := h.tasksDir ++ [task ++ ".json"]

/-- A file holds a record of this task with all three identities. -/
def assignedRecord (task : String) (content : Option (Option TaskRecord)) : Bool :=
  content.any fun c => c.any fun r => r.taskId == task && r.assigned

/-- Remember that the record of the task was contended for, if it was. -/
def Home.contend (b : Bool) (h : Home) : Home :=
  { h with watch := { h.watch with contended := h.watch.contended || b } }

/-- What is remembered when a request has taken `content` for the file at `p`. -/
def Home.noteRead (p : Path) (content : Option (Option TaskRecord)) (h : Home) : Home :=
  h.contend (p ≠ h.recordPath h.watch.task &&
    content.any (fun c => c.any fun r => r.taskId == h.watch.task))

/-- What is remembered when a request is about to write the file at `p`. -/
def Home.noteWrite (p : Path) (h : Home) : Home :=
  h.contend (p = h.recordPath h.watch.task && assignedRecord h.watch.task (h.recordAt p))

/-- What is remembered when a request has looked for the record of a task. -/
def Home.noteLoad (taskId : String) (h : Home) : Home :=
  match resolve h.isDirectory (h.taskPath taskId) with
  | none => h.touch (h.taskPath taskId)
  | some p => (h.noteRead p (h.recordAt p)).touch (h.taskPath taskId)

/-- The file a task id leads to. -/
def Home.fileFor (taskId : String) (h : Home) : Option (Option TaskRecord) :=
  (resolve h.isDirectory (h.taskPath taskId)).bind h.recordAt

/-- `load_record`. -/
def loadRecord (taskId : String) : Hosted (Option TaskRecord) := do
  match ← Prog.observe (Home.noteLoad taskId) (Home.fileFor taskId) with
  | none => return none
  | some none => Prog.throw ["JSON in " ++ taskId ++ ".json does not match expected schema"]
  | some (some record) => return some record

/-- The write of a record to its file, if the path leads to one. -/
def Home.putRecord (r : TaskRecord) (h : Home) : Home :=
  match resolve h.isDirectory (h.taskPath r.taskId) with
  | none => h.touch (h.taskPath r.taskId)
  | some p => ((h.noteWrite p).writeAt p (some r)).touch (h.taskPath r.taskId)

/-- The directory of the records is there. -/
def Home.makeTasksDir (h : Home) : Home := h.createDirAll h.tasksDir

/-- `save_record`. -/
def saveRecord (record : TaskRecord) : Hosted Unit := do
  let written ← Prog.act (fun _ => true) (fun h => h.makeTasksDir.putRecord record) fun h =>
    .pure (resolve h.makeTasksDir.isDirectory (h.taskPath record.taskId)).isSome
  Prog.ensure written ["cannot write " ++ record.taskId ++ ".json"]

section names

local instance nameOrder_trans : IsTrans String (· ≤ ·) := ⟨fun _ _ _ => le_trans⟩

local instance nameOrder_antisymm : Std.Antisymm fun a b : String => a ≤ b := ⟨fun _ _ => le_antisymm⟩

/-- The files in the directory of the records, by name. -/
def Home.recordNames (h : Home) : List String := h.tasks.names.sort (· ≤ ·)

end names

/-- `path.extension() == Some("json")`. -/
def hasJsonExtension (name : String) : Bool :=
  name.toList.length > 5 && ".json".toList <:+ name.toList

/-- The loop of `list_records`. -/
def readRecords : List String → Hosted (List TaskRecord)
  | [] => return []
  | name :: names =>
    if hasJsonExtension name then do
      let content ← Prog.observe
        (fun h => (h.noteRead (h.tasksDir ++ [name]) (h.tasks.file name)).touch
          (h.tasksDir ++ [name]))
        fun h => h.tasks.file name
      let records ← readRecords names
      return content.join.toList ++ records
    else readRecords names

/-- `list_records`. -/
def listRecords : Hosted (List TaskRecord) := do
  readRecords (← Prog.observe (fun h => h.touch h.tasksDir) Home.recordNames)

/-- `load_or_recover`. -/
def loadOrRecover (me : Pid) (taskId : String) : Wired TaskRecord := do
  match ← (loadRecord taskId).mapError internal with
  | some record => return record
  | none => do
    let manifest ← (loadManifest me taskId).mapError fun _ => taskNotFound taskId
    let record := TaskRecord.blank manifest
    let _ ← (saveRecord record).attempt.mapError internal
    return record

/-! ### Projecting a task -/

inductive ArtifactData where
  | result (result : ResultEnvelope)
  | carrier (value : Json)
  deriving DecidableEq

structure Artifact where
  artifactId : Option String
  name : String
  data : ArtifactData
  deriving DecidableEq

structure Task where
  id : String
  contextId : Option String
  state : String
  timestamp : Nat
  artifacts : List Artifact
  history : List Json
  deriving DecidableEq

/-- The identity an artifact has, or a new one. -/
def assignId (id : Option String) : Wired (Option String) :=
  match id with
  | some id => return some id
  | none => return some (← Prog.answer Answer.nonce)

/-- The record is saved if identities were assigned. -/
def saveAssigned (record persisted : TaskRecord) : Wired Unit :=
  if record.assigned then return () else (saveRecord persisted).mapError internal

/-- The artifacts of a run that completed. Their identities are assigned once
    and kept in the record. -/
def projectArtifacts (S : Server) (me : Pid) (record : TaskRecord) : Wired (List Artifact) := do
  let inspected ← (inspect S me record.taskId).mapError internal
  Prog.ensure inspected.result.isSome
    (.plain errInternal ("COMPLETED task " ++ record.taskId ++ " has no verifiable host result"))
  let result ← Prog.observe (fun h => h.touch (h.runDir record.taskId ++ ["result.json"]))
    fun h => (h.dir record.taskId).result
  match result with
  | none => Prog.throw (.plain errInternal "cannot read result.json")
  | some result => do
    let artifactId ← assignId record.artifactId
    let routeId ← assignId record.highballRouteArtifactId
    let traceId ← assignId record.highballTraceArtifactId
    let persisted := { record with
      artifactId := artifactId
      highballRouteArtifactId := routeId
      highballTraceArtifactId := traceId }
    saveAssigned record persisted
    let trace ← Prog.ofExcept ((residualTrace S.platform (resultValue result)).mapError fun e =>
      internal [e])
    return [
      { artifactId := persisted.artifactId
        name := "review.result"
        data := .result result },
      { artifactId := persisted.highballRouteArtifactId
        name := "highball.route-request.json"
        data := .carrier (routeRequest (resultValue result)) },
      { artifactId := persisted.highballTraceArtifactId
        name := "highball.residual-trace.json"
        data := .carrier trace }]

/-- The artifacts of a task: none before its run completed. -/
def artifactsOf (S : Server) (me : Pid) (record : TaskRecord) (manifest : RunManifest) :
    Wired (List Artifact) :=
  if RunStatus.succeeded manifest.status then projectArtifacts S me record else return []

/-- The last `historyLength` entries of a history that is the message, if it
    has a role. -/
def projectHistory (record : TaskRecord) (historyLength : Nat) : List Json :=
  if historyLength > 0 && !record.message.isNull && (record.message.get "role").isSome then
    [record.message]
  else []

/-- The error of `host::status` on the wire. -/
def statusError (taskId : String) (e : Chain) : A2aError :=
  if "unknown or invalid run".toList <:+: e.outermost.toList then taskNotFound taskId
  else internal e

/-- `project_task`. -/
def projectTask (S : Server) (me : Pid) (record : TaskRecord) (historyLength : Nat) :
    Wired Task := do
  let _ ← (status S me record.taskId).mapError (statusError record.taskId)
  let manifest ← (loadManifest me record.taskId).mapError internal
  let artifacts ← artifactsOf S me record manifest
  let timestamp ← Prog.answer Answer.now
  return {
    id := record.taskId
    contextId := record.contextId
    state := mapRunStatus manifest.status
    timestamp := timestamp
    artifacts := artifacts
    history := projectHistory record historyLength }

/-! ### Requests -/

/-- `get_task`. -/
def getTask (S : Server) (me : Pid) (params : Json) : Wired Task := do
  match textOf params "id" with
  | none => Prog.throw (.plain errInvalidParams "GetTask.id is required")
  | some taskId => do
    let historyLength := ((params.get "historyLength").bind Json.asNat).getD 0
    let record ← loadOrRecover me taskId
    projectTask S me record historyLength

structure TaskPage where
  tasks : List Task
  nextPageToken : Option String
  deriving DecidableEq

/-- The records a listing is made from. -/
def listedRecords : Hosted (List TaskRecord) := do
  let records ← listRecords
  if records.isEmpty then return (← listManifests).map .blank
  else return records

/-- Where the page after a token starts. -/
def pageStart (records : List TaskRecord) (token : String) : Nat :=
  if token = "" then 0
  else ((records.findIdx? (·.taskId == token)).map (· + 1)).getD 0

/-- The records on a page, and the token of the next one. -/
def pageOf (records : List TaskRecord) (pageSize : Nat) (token : String) :
    List TaskRecord × Option String :=
  let start := pageStart records token
  let slice := (records.drop start).take pageSize
  let next :=
    if start + slice.length < records.length then slice.getLast?.map (·.taskId) else none
  (slice, next)

/-- The loop of `list_tasks`. -/
def projectTasks (S : Server) (me : Pid) : List TaskRecord → Wired (List Task)
  | [] => return []
  | record :: records => do
    let task ← projectTask S me record 0
    return task :: (← projectTasks S me records)

/-- The size of the pages a request asks for. -/
def pageSizeOf (params : Json) : Nat :=
  min (((params.get "pageSize").bind Json.asNat).getD 50) 200

/-- `list_tasks`. -/
def listTasks (S : Server) (me : Pid) (params : Json) : Wired TaskPage := do
  let token := (textOf params "pageToken").getD ""
  let records ← listedRecords.mapError internal
  let (slice, next) := pageOf records (pageSizeOf params) token
  let tasks ← projectTasks S me slice
  return { tasks := tasks, nextPageToken := next }

/-- A run that ended otherwise than by being cancelled. -/
def RunStatus.settled : RunStatus → Bool
  | .completed | .degraded | .failed | .failedPolicy => true
  | _ => false

/-- `run::cancel`, unless the run is being cancelled or was. -/
def cancelUnlessCancelled (me : Pid) (taskId : String) (manifest : RunManifest) : Wired Unit :=
  if manifest.status.cancels then return ()
  else do
    let _ ← (Hosted.onRun taskId (Run.cancel me)).mapError internal
    return ()

/-- `cancel_task`. -/
def cancelTask (S : Server) (me : Pid) (params : Json) : Wired Task := do
  match ((params.get "id").or (params.get "name")).bind Json.asStr with
  | none => Prog.throw (.plain errInvalidParams "CancelTask.id is required")
  | some taskId => do
    let record ← loadOrRecover me taskId
    let manifest ← (loadManifest me taskId).mapError fun _ => taskNotFound taskId
    if RunStatus.settled manifest.status then
      Prog.throw (.withState errNotCancelable ("task " ++ taskId ++ " is not cancelable")
        "not_cancelable")
    else do
      cancelUnlessCancelled me taskId manifest
      projectTask S me record 0

end Quinte.Wire
