import Mathlib
import Quinte.Framework.FileTree
import Quinte.Framework.Focus
import Quinte.Framework.JsonAccess
import Quinte.Run.Commands

/-! # The store home

    What the requests of a host share: the directories of the runs, the task
    records, and the other files they come across.  A request is a `Wired`
    program, and a command of `host.rs` a `Hosted` one; each step reads or
    writes one file.

    An error of a `Hosted` program is a chain of messages, the outermost
    context first.  A path is the list of its components from the root, and
    `resolve` walks it as the system does: `..` only leaves a directory that is
    there.
-/

namespace Quinte.Wire

open Program

/-! ### Paths -/

/-- The components of an absolute path. -/
abbrev Path := List String

/-- The components of a text that is a path. -/
def segments (text : String) : List String :=
  ((text.toList.splitOn '/').map String.ofList).filter fun c => c ≠ "" ∧ c ≠ "."

/-- `Path::join`: an absolute text takes the place of the base. -/
def join (base : Path) (text : String) : Path :=
  if text.toList.head? = some '/' then segments text else base ++ segments text

/-- One component, read from the directory before it. -/
def enter (p : Path) (c : String) : Path :=
  if c = ".." then p.dropLast else p ++ [c]

/-- The path without its `..` components. -/
def normalise (path : Path) : Path :=
  path.foldl enter []

/-- Where a path leads to, through directories that exist. -/
def resolve (isDirectory : Path → Bool) (path : Path) : Option Path :=
  path.foldlM (fun p c => if isDirectory p then some (enter p c) else none) []

theorem foldlM_enter {isDirectory : Path → Bool} {path p q : Path}
    (h : path.foldlM (fun p c => if isDirectory p then some (enter p c) else none) p = some q) :
    path.foldl enter p = q := by
  induction path generalizing p with
  | nil => exact Option.some.inj h
  | cons c path ih =>
    rw [List.foldlM_cons] at h
    split at h
    · exact ih h
    · exact nomatch h

/-- What resolves, resolves to its normal form. -/
theorem resolve_eq {isDirectory : Path → Bool} {path p : Path}
    (h : resolve isDirectory path = some p) : normalise path = p :=
  foldlM_enter h

/-- A text without a separator that is no special component. -/
theorem segments_plain {text : String} (h : '/' ∉ text.toList) (hnonempty : text ≠ "")
    (hdot : text ≠ ".") : segments text = [text] := by
  rw [segments, List.splitOn_eq_singleton h]
  simp [String.ofList_toList, hnonempty, hdot]

theorem join_plain {base : Path} {text : String} (h : '/' ∉ text.toList) (hnonempty : text ≠ "")
    (hdot : text ≠ ".") : join base text = base ++ [text] := by
  have hrelative : text.toList.head? ≠ some '/' := fun hhead => h (List.mem_of_head? hhead)
  rw [join, if_neg hrelative, segments_plain h hnonempty hdot]

/-- Without `..`, a path through directories leads to itself. -/
theorem resolve_self {isDirectory : Path → Bool} {path : Path} (hup : ∀ c ∈ path, c ≠ "..")
    (hdir : ∀ p, p <+: path → p ≠ path → isDirectory p = true) :
    resolve isDirectory path = some path := by
  suffices h : ∀ rest done, done ++ rest = path →
      rest.foldlM (fun p c => if isDirectory p then some (enter p c) else none) done = some path from
    h path [] rfl
  intro rest
  induction rest with
  | nil => exact fun done hdone => by rw [← hdone, List.append_nil]; rfl
  | cons c rest ih =>
    intro done hdone
    have hpart : done <+: path := ⟨c :: rest, hdone⟩
    have hproper : done ≠ path := by
      rintro rfl
      simp at hdone
    have hc : c ≠ ".." := hup c (hdone ▸ by simp)
    rw [List.foldlM_cons, if_pos (hdir done hpart hproper)]
    refine ih (enter done c) ?_
    rw [enter, if_neg hc, List.append_assoc]
    exact hdone

theorem normalise_self {path : Path} (hup : ∀ c ∈ path, c ≠ "..") : normalise path = path := by
  have hself : resolve (fun _ => true) path = some path := resolve_self hup fun _ _ _ => rfl
  exact resolve_eq hself

/-! ### Run ids -/

def isLowerHex (c : Char) : Bool := ('0' ≤ c && c ≤ '9') || ('a' ≤ c && c ≤ 'f')

/-- A UUID of version 7 in its canonical text. -/
def isRunId (id : String) : Bool :=
  id.toList.length == 36 && id.toList.zipIdx.all fun (c, i) =>
    if i = 8 ∨ i = 13 ∨ i = 18 ∨ i = 23 then c == '-'
    else if i = 14 then c == '7'
    else if i = 19 then c == '8' || c == '9' || c == 'a' || c == 'b'
    else isLowerHex c

theorem isRunId_length {id : String} (h : isRunId id = true) : id.toList.length = 36 := by
  rw [isRunId, Bool.and_eq_true, beq_iff_eq] at h
  exact h.1

/-- A run id is a single component. -/
theorem isRunId_slash {id : String} (h : isRunId id = true) : '/' ∉ id.toList := by
  intro hmem
  rw [isRunId, Bool.and_eq_true, List.all_eq_true] at h
  obtain ⟨i, hi, hget⟩ := List.getElem_of_mem hmem
  have hchar := h.2 (id.toList[i], i) (List.mem_zipIdx_iff_getElem?.mpr (by simp [hi]))
  rw [hget] at hchar
  revert hchar
  simp only
  split_ifs <;> decide

/-! ### Task records -/

/-- `TaskRecord`: what the server keeps about a task. -/
structure TaskRecord where
  taskId : String
  contextId : Option String
  createdAt : Nat
  message : Json
  artifactId : Option String
  highballRouteArtifactId : Option String
  highballTraceArtifactId : Option String
  deriving DecidableEq, Inhabited

/-- The record the server makes up for a run without one. -/
def TaskRecord.blank (manifest : RunManifest) : TaskRecord where
  taskId := manifest.runId
  contextId := none
  createdAt := manifest.createdAt
  message := .obj []
  artifactId := none
  highballRouteArtifactId := none
  highballTraceArtifactId := none

/-- The identities of the three artifacts. -/
def TaskRecord.ids (r : TaskRecord) : List (Option String) :=
  [r.artifactId, r.highballRouteArtifactId, r.highballTraceArtifactId]

/-- All three identities are there. -/
def TaskRecord.assigned (r : TaskRecord) : Bool := r.ids.all (·.isSome)

/-! ### The home -/

/-- What is remembered about one task, for the statements about it. -/
structure Watch where
  task : String
  /-- a request wrote the file of the task while it held a record with all three
      identities, or took a record of the task from another file -/
  contended : Bool
  /-- the identities in the replies that carried the artifacts of the task, the
      latest first -/
  replies : List (List (Option String))
  deriving DecidableEq, Inhabited

/-- The directory `store.home()` and what the handlers reach from it, with two
    fields of history. -/
structure Home where
  root : Path
  /-- the system has resolved it -/
  root_up : ∀ c ∈ root, c ≠ ".."
  /-- the directories below `runs`, in the order of `read_dir` -/
  runs : List String
  /-- the directory of a run; one that is not there has no manifest -/
  dir : String → RunDir
  /-- the files in `a2a/tasks`, with the record each holds if it holds one -/
  tasks : FileTree (Option TaskRecord)
  /-- the other files, likewise -/
  elsewhere : Path → Option (Option TaskRecord)
  isDirectory : Path → Bool
  /-- who holds `host/launch.lock` -/
  launchLock : Option Pid
  /-- history: the paths of the files read and written -/
  accessed : List Path
  watch : Watch

namespace Home

/-- `store.runs_dir()`. -/
def runsDir (h : Home) : Path := h.root ++ ["runs"]

/-- `store.run_dir(..)` of a valid id. -/
def runDir (h : Home) (id : String) : Path := h.root ++ ["runs", id]

/-- `tasks_dir`. -/
def tasksDir (h : Home) : Path := h.root ++ ["a2a", "tasks"]

/-- `task_path`. -/
def taskPath (h : Home) (taskId : String) : Path := join h.tasksDir (taskId ++ ".json")

/-- A file is read or written. -/
def touch (p : Path) (h : Home) : Home := { h with accessed := p :: h.accessed }

def setDir (id : String) (d : RunDir) (h : Home) : Home :=
  { h with dir := fun q => if q = id then d else h.dir q }

/-- The file at a resolved path, by the record it holds. -/
def recordAt (h : Home) (p : Path) : Option (Option TaskRecord) :=
  match p.getLast? with
  | none => none
  | some name => if p.dropLast = h.tasksDir then h.tasks.file name else h.elsewhere p

/-- Write a file at a resolved path. -/
def writeAt (p : Path) (content : Option TaskRecord) (h : Home) : Home :=
  match p.getLast? with
  | none => h
  | some name =>
      if p.dropLast = h.tasksDir then { h with tasks := h.tasks.write name content }
      else { h with elsewhere := fun q => if q = p then some content else h.elsewhere q }

/-- `create_private_dir_all`. -/
def createDirAll (p : Path) (h : Home) : Home :=
  { h with isDirectory := fun q => decide (q <+: p) || h.isDirectory q }

@[simp] theorem touch_runs (p : Path) (h : Home) : (h.touch p).runs = h.runs := rfl
@[simp] theorem touch_dir (p : Path) (h : Home) : (h.touch p).dir = h.dir := rfl
@[simp] theorem touch_tasks (p : Path) (h : Home) : (h.touch p).tasks = h.tasks := rfl
@[simp] theorem touch_watch (p : Path) (h : Home) : (h.touch p).watch = h.watch := rfl
@[simp] theorem touch_root (p : Path) (h : Home) : (h.touch p).root = h.root := rfl

/-- The name of the file of a run is long, so it is no special component. -/
theorem recordName_ne {id text : String} (hid : isRunId id = true) (htext : text.toList.length < 41) :
    id ++ ".json" ≠ text := by
  intro heq
  have hlength : (id ++ ".json").toList.length = 41 := by
    rw [String.toList_append, List.length_append, isRunId_length hid]
    rfl
  rw [heq] at hlength
  omega

theorem recordName_inj {id id' : String} (h : id ++ ".json" = id' ++ ".json") : id = id' := by
  have hlist := congrArg String.toList h
  rw [String.toList_append, String.toList_append, List.append_cancel_right_eq] at hlist
  exact String.toList_inj.mp hlist

/-- The file of the task of a run. -/
theorem taskPath_run {h : Home} {id : String} (hid : isRunId id = true) :
    h.taskPath id = h.tasksDir ++ [id ++ ".json"] := by
  have hslash : '/' ∉ (id ++ ".json").toList := by
    rw [String.toList_append, List.mem_append, not_or]
    exact ⟨isRunId_slash hid, by decide⟩
  exact join_plain hslash (recordName_ne hid (by decide)) (recordName_ne hid (by decide))

/-- The path of the task of a run goes down only. -/
theorem taskPath_run_up {h : Home} {id : String}
    (hid : isRunId id = true) : ∀ c ∈ h.tasksDir ++ [id ++ ".json"], c ≠ ".." := by
  intro c hc
  rw [tasksDir, List.mem_append, List.mem_append, List.mem_singleton] at hc
  obtain (hc | hc) | rfl := hc
  · exact h.root_up c hc
  · rw [List.mem_pair] at hc
    rcases hc with rfl | rfl <;> decide
  · exact recordName_ne hid (by decide)

theorem recordAt_tasks (h : Home) (name : String) :
    h.recordAt (h.tasksDir ++ [name]) = h.tasks.file name := by
  simp [recordAt]

theorem writeAt_tasks (h : Home) (name : String) (content : Option TaskRecord) :
    h.writeAt (h.tasksDir ++ [name]) content = { h with tasks := h.tasks.write name content } := by
  simp [writeAt]

/-- The path of the task of a run leads to its file, if the directory is there. -/
theorem resolve_run {h : Home} {id : String}
    (hid : isRunId id = true) (hdirs : ∀ p, p <+: h.tasksDir → h.isDirectory p = true) :
    resolve h.isDirectory (h.taskPath id) = some (h.tasksDir ++ [id ++ ".json"]) := by
  rw [taskPath_run hid]
  refine resolve_self (taskPath_run_up hid) fun p hp hproper => hdirs p ?_
  rcases List.prefix_concat_iff.mp hp with heq | hprefix
  · exact absurd heq hproper
  · exact hprefix

@[simp] theorem setDir_dir_self (id : String) (d : RunDir) (h : Home) :
    (h.setDir id d).dir id = d :=
  if_pos rfl

theorem setDir_dir_ne {id q : String} (d : RunDir) (h : Home) (hq : q ≠ id) :
    (h.setDir id d).dir q = h.dir q :=
  if_neg hq

end Home

/-! ### Programs -/

/-- `anyhow::Error`: its messages, the outermost context first. -/
abbrev Chain := List String

/-- `{error:#}`. -/
def Chain.text (e : Chain) : String := ": ".intercalate e

/-- `error.to_string()`. -/
def Chain.outermost (e : Chain) : String := e.headD ""

/-- `A2aError`. -/
structure A2aError where
  code : Int
  message : String
  data : Option Json
  deriving DecidableEq, Inhabited

/-- A program of `host.rs` or `store.rs` on the home. -/
abbrev Hosted (α : Type) := Prog Home Answer Chain α

/-- A program of `host_map.rs`. -/
abbrev Wired (α : Type) := Prog Home Answer A2aError α

namespace Hosted

/-- `with_context`. -/
def context {α : Type} (message : String) (p : Hosted α) : Hosted α :=
  p.mapError (message :: ·)

/-- An operation on the directory of one run. -/
def onRun {α : Type} (id : String) (p : Proc α) : Hosted α :=
  (p.zoom (·.dir id) fun d h => (h.setDir id d).touch (h.runDir id)).mapError ([·])

end Hosted

/-! ### The store -/

/-- `validate_run_id`. A text that is no UUID at all has a message of its own
    in the source. -/
def validateRunId (id : String) : Hosted Unit :=
  Prog.ensure (isRunId id) ["run ID must be a canonical lowercase UUIDv7"]

/-- `read_json` of the manifest of a run. -/
def readManifest (id : String) : Hosted (Option RunManifest) :=
  Prog.observe (fun h => h.touch (h.runDir id ++ ["manifest.json"])) fun h => (h.dir id).manifest

/-- `Store::load_manifest`. -/
def loadManifest (me : Pid) (id : String) : Hosted RunManifest := do
  validateRunId id
  match ← readManifest id with
  | none => Prog.throw ["unknown or invalid run " ++ id]
  | some manifest => do
    Prog.ensure (manifest.runId == id) ["run manifest ID does not match its directory"]
    Hosted.onRun id (Store.recoverPendingTransition me manifest)
    return manifest

/-- `fs::read_dir` of the directory of the runs. -/
def readRuns : Hosted (List String) :=
  Prog.observe (fun h => h.touch h.runsDir) (·.runs)

/-- The newest first. -/
def byCreation (manifests : List RunManifest) : List RunManifest :=
  manifests.mergeSort fun left right => right.createdAt ≤ left.createdAt

/-- The loop of `Store::list_manifests`: what is no run is skipped. -/
def readManifests : List String → Hosted (List RunManifest)
  | [] => return []
  | id :: ids =>
    if isRunId id then do
      let manifest ← readManifest id
      let manifests ← readManifests ids
      return (manifest.filter (·.runId == id)).toList ++ manifests
    else readManifests ids

/-- `Store::list_manifests`. -/
def listManifests : Hosted (List RunManifest) := do
  return byCreation (← readManifests (← readRuns))

end Quinte.Wire
