import Mathlib
import Quinte.Finance.Digests
import Quinte.Framework.FramedLog
import Quinte.Framework.JsonAccess

/-! # The tasks of a PI seat

    `task.rs`: the records, the rows they become, and the store, which keeps
    its records in memory and appends every row to a file.

    * `fromJson_toJson`: a record is read back, with a null for a missing
      artifact;
    * `openTasks_log`: what is opened from whole rows;
    * `find?_reopened`: that is the last row of every task.
-/

namespace Quinte.Pi

open Finance (Bytes Platform utf8 fromUtf8)
open Policy (bind_ok)

inductive TaskState where
  | working | completed | failed
  deriving DecidableEq, Repr, Inhabited

/-- `TaskState::as_str`. -/
def TaskState.asStr : TaskState → String
  | .working => "working"
  | .completed => "completed"
  | .failed => "failed"

structure TaskRecord where
  taskId : String
  state : TaskState
  artifact : Option Json
  error : Option String
  createdAt : String
  deriving DecidableEq, Inhabited

namespace TaskRecord

/-- `TaskRecord::to_json`. A map is kept sorted. -/
def toJson (r : TaskRecord) : Json :=
  .obj [
    ("artifact", r.artifact.getD .null),
    ("created_at", .str r.createdAt),
    ("error", (r.error.map Json.str).getD .null),
    ("state", .str r.state.asStr),
    ("task_id", .str r.taskId)]

/-- The states that `TaskRecord::from_json` knows. -/
def parseState (s : String) : Option TaskState :=
  if s = "working" then some .working
  else if s = "completed" then some .completed
  else if s = "failed" then some .failed
  else none

/-- `TaskRecord::from_json`. -/
def fromJson (value : Json) : Option TaskRecord := do
  let state ← ((value.get "state").bind Json.asStr).bind parseState
  let taskId ← (value.get "task_id").bind Json.asStr
  return {
    taskId := taskId
    state := state
    artifact := value.get "artifact"
    error := (value.get "error").bind Json.asStr
    createdAt := ((value.get "created_at").bind Json.asStr).getD "" }

/-- The record that a row of this one is read as. -/
def reread (r : TaskRecord) : TaskRecord :=
  { r with artifact := some (r.artifact.getD .null) }

@[simp] theorem reread_taskId (r : TaskRecord) : r.reread.taskId = r.taskId := rfl

@[simp] theorem reread_state (r : TaskRecord) : r.reread.state = r.state := rfl

@[simp] theorem reread_error (r : TaskRecord) : r.reread.error = r.error := rfl

theorem parseState_asStr (state : TaskState) : parseState state.asStr = some state := by
  cases state <;> decide

theorem fromJson_toJson (r : TaskRecord) : fromJson r.toJson = some r.reread := by
  obtain ⟨taskId, state, artifact, error, createdAt⟩ := r
  have hstate : (((toJson ⟨taskId, state, artifact, error, createdAt⟩).get "state").bind
      Json.asStr).bind parseState = some state := parseState_asStr state
  unfold fromJson
  rw [hstate]
  cases error <;> rfl

end TaskRecord

/-! ### The file -/

/-- The text of a row: `to_string` of its value. -/
def rowText (r : TaskRecord) : Json.Text := Json.write Json.compact 0 r.toJson

/-- The bytes of a row. -/
def rowBytes (r : TaskRecord) : Bytes := utf8 (rowText r)

/-- The rows of the file, by what `serde_json` makes of their texts. -/
def rowCodec (P : Platform) : FramedLog.Codec TaskRecord UInt8 where
  encode := rowBytes
  decode line := ((fromUtf8 line).bind P.json.read).bind TaskRecord.fromJson

/-- Put a record in place of the first one of its task. -/
def replaceFirst (record : TaskRecord) : List TaskRecord → List TaskRecord
  | [] => []
  | first :: tasks =>
      if first.taskId = record.taskId then record :: tasks
      else first :: replaceFirst record tasks

/-- Put a record in place of the first one of its task, or behind all others. -/
def upsert (tasks : List TaskRecord) (record : TaskRecord) : List TaskRecord :=
  if tasks.any (·.taskId = record.taskId) then replaceFirst record tasks else tasks ++ [record]

/-- A line without the carriage return before its line feed. -/
def stripReturn (line : Bytes) : Bytes :=
  if line.getLast? = some 13 then line.dropLast else line

/-- `BufRead::lines` of what follows a line feed, behind which no line comes at
    the end of the file. -/
def linesOf : List Bytes → List Bytes
  | [] => []
  | [last] => if last = [] then [] else [last]
  | line :: parts => stripReturn line :: linesOf parts

/-- `BufRead::lines`. -/
def lines (file : Bytes) : List Bytes := linesOf (file.splitOn 10)

/-- One line of the file in `TaskStore::open`. -/
def openLine (P : Platform) (tasks : List TaskRecord) (line : Bytes) :
    Except String (List TaskRecord) :=
  match fromUtf8 line with
  | none => .error "stream did not contain valid UTF-8"
  | some text =>
      if text.all isWhiteSpace then .ok tasks
      else match P.json.read text with
        | none => .error "corrupt task record"
        | some value => match TaskRecord.fromJson value with
          | none => .ok tasks
          | some record => .ok (upsert tasks record)

/-- `TaskStore::open`. A missing file is an empty one. -/
def openTasks (P : Platform) (file : Bytes) : Except String (List TaskRecord) :=
  (lines file).foldlM (openLine P) []

/-! ### The store -/

structure TaskStore where
  file : Bytes
  tasks : List TaskRecord
  deriving DecidableEq, Inhabited

/-- How a write ends: the whole row is in the file, or a part of it and an error. -/
inductive Written where
  | whole
  | torn (length : Nat)
  deriving DecidableEq, Repr, Inhabited

/-- The row of a record and the line feed after it. -/
def frame (record : TaskRecord) : Bytes := rowBytes record ++ [10]

namespace TaskStore

/-- `TaskStore::get`. -/
def get (store : TaskStore) (taskId : String) : Option TaskRecord :=
  store.tasks.find? (·.taskId = taskId)

/-- `TaskStore::persist`: the store with the longer file, and whether there was
    no error. -/
def persist (store : TaskStore) (record : TaskRecord) : Written → TaskStore × Bool
  | .whole => ({ store with file := store.file ++ frame record }, true)
  | .torn length => ({ store with file := store.file ++ (frame record).take length }, false)

/-- `TaskStore::insert`. -/
def insert (store : TaskStore) (record : TaskRecord) (written : Written) : TaskStore × Bool :=
  match store.persist record written with
  | (store, true) => ({ store with tasks := store.tasks ++ [record] }, true)
  | (store, false) => (store, false)

/-- `TaskStore::update`. -/
def update (store : TaskStore) (record : TaskRecord) (written : Written) : TaskStore × Bool :=
  match store.persist record written with
  | (store, true) => ({ store with tasks := replaceFirst record store.tasks }, true)
  | (store, false) => (store, false)

end TaskStore

/-! ### First records -/

section first

variable {tasks : List TaskRecord} {record : TaskRecord} {taskId : String}

theorem find?_replaceFirst_of_ne (h : record.taskId ≠ taskId) :
    (replaceFirst record tasks).find? (·.taskId = taskId) = tasks.find? (·.taskId = taskId) := by
  induction tasks with
  | nil => rfl
  | cons first tasks ih =>
    unfold replaceFirst
    by_cases hfirst : first.taskId = record.taskId
    · rw [if_pos hfirst, List.find?_cons_of_neg (by simpa using h),
        List.find?_cons_of_neg (by simpa [hfirst] using h)]
    · rw [if_neg hfirst, List.find?_cons, List.find?_cons, ih]

/-- An update is found where there was a record. -/
theorem find?_replaceFirst_self (h : ∃ r ∈ tasks, r.taskId = record.taskId) :
    (replaceFirst record tasks).find? (·.taskId = record.taskId) = some record := by
  induction tasks with
  | nil =>
    obtain ⟨r, hr, -⟩ := h
    cases hr
  | cons first tasks ih =>
    unfold replaceFirst
    by_cases hfirst : first.taskId = record.taskId
    · rw [if_pos hfirst, List.find?_cons_of_pos (by simp)]
    · rw [if_neg hfirst, List.find?_cons_of_neg (by simpa using hfirst)]
      apply ih
      obtain ⟨r, hr, hid⟩ := h
      rcases List.mem_cons.mp hr with rfl | hrest
      · exact absurd hid hfirst
      · exact ⟨r, hrest, hid⟩

theorem find?_append_of_ne (h : record.taskId ≠ taskId) :
    (tasks ++ [record]).find? (·.taskId = taskId) = tasks.find? (·.taskId = taskId) := by
  rw [List.find?_append, List.find?_cons_of_neg (by simpa using h)]
  simp

theorem find?_upsert : (upsert tasks record).find? (·.taskId = taskId)
    = if record.taskId = taskId then some record else tasks.find? (·.taskId = taskId) := by
  unfold upsert
  by_cases hid : record.taskId = taskId
  · rw [if_pos hid]
    subst hid
    by_cases hany : tasks.any (·.taskId = record.taskId) = true
    · rw [if_pos hany]
      apply find?_replaceFirst_self
      simpa using hany
    · rw [if_neg hany, List.find?_append]
      have hnone : tasks.find? (·.taskId = record.taskId) = none := by
        simpa using hany
      rw [hnone, Option.none_or, List.find?_cons_of_pos (by simp)]
  · rw [if_neg hid]
    split
    · exact find?_replaceFirst_of_ne hid
    · exact find?_append_of_ne hid

end first

/-! ### Opening whole rows -/

/-- `serde_json` reads back the row that it prints, on one line. -/
def Storable (P : Platform) (r : TaskRecord) : Prop :=
  P.json.read (rowText r) = some r.toJson ∧ '\n' ∉ rowText r

/-- A row without numbers that only some readers keep. -/
theorem storable_of_regular (P : Platform) {r : TaskRecord} (h : Json.Regular 100 r.toJson) :
    Storable P r := by
  constructor
  · have hread := P.json.read_write Json.compact r.toJson [] (h.mono P.deep) (by simp)
    rwa [List.append_nil] at hread
  · exact Json.newline_notMem_write h 0

/-- The records of the rows, the last one of each task. -/
def reopened (rows : List TaskRecord) : List TaskRecord :=
  rows.foldl (fun tasks r => upsert tasks r.reread) []

/-- The last row of a task. -/
def lastRow (rows : List TaskRecord) (taskId : String) : Option TaskRecord :=
  (rows.filter (·.taskId = taskId)).getLast?

theorem lastRow_append (rows : List TaskRecord) (r : TaskRecord) (taskId : String) :
    lastRow (rows ++ [r]) taskId = if r.taskId = taskId then some r else lastRow rows taskId := by
  unfold lastRow
  rw [List.filter_append]
  by_cases hid : r.taskId = taskId
  · rw [if_pos hid, List.filter_cons_of_pos (by simpa using hid)]
    simp
  · rw [if_neg hid, List.filter_cons_of_neg (by simpa using hid)]
    simp

/-- **What is opened** is the last row of every task. -/
theorem find?_reopened (rows : List TaskRecord) (taskId : String) :
    (reopened rows).find? (·.taskId = taskId) = (lastRow rows taskId).map TaskRecord.reread := by
  induction rows using List.reverseRecOn with
  | nil => rfl
  | append_singleton rows r ih =>
    unfold reopened at ih ⊢
    rw [List.foldl_append, List.foldl_cons, List.foldl_nil, find?_upsert, lastRow_append, ih]
    by_cases hid : r.taskId = taskId
    · rw [TaskRecord.reread_taskId, if_pos hid, if_pos hid]
      rfl
    · rw [TaskRecord.reread_taskId, if_neg hid, if_neg hid]

section rows

variable {P : Platform} {r : TaskRecord} {rows : List TaskRecord}

/-- A row is an object. -/
theorem rowText_eq (r : TaskRecord) : ∃ body, rowText r = '\x7b' :: (body ++ ['\x7d']) := by
  unfold rowText TaskRecord.toJson
  rw [Json.write]
  exact ⟨_, rfl⟩

theorem lineFeed_notMem_rowBytes (h : Storable P r) : (10 : UInt8) ∉ rowBytes r := by
  intro hmem
  exact h.2 (Finance.lineFeed_mem_utf8 hmem)

theorem rowBytes_eq (r : TaskRecord) : ∃ body, rowBytes r = 123 :: (body ++ [125]) := by
  obtain ⟨body, hbody⟩ := rowText_eq r
  have hopen : utf8 ['\x7b'] = [123] := by decide
  have hclose : utf8 ['\x7d'] = [125] := by decide
  refine ⟨utf8 body, ?_⟩
  have hsplit : '\x7b' :: (body ++ ['\x7d']) = ['\x7b'] ++ (body ++ ['\x7d']) := rfl
  rw [rowBytes, hbody, hsplit, Finance.utf8_append, Finance.utf8_append, hopen, hclose]
  rfl

theorem stripReturn_rowBytes (r : TaskRecord) : stripReturn (rowBytes r) = rowBytes r := by
  obtain ⟨body, hbody⟩ := rowBytes_eq r
  unfold stripReturn
  rw [hbody, ← List.cons_append, List.getLast?_concat, if_neg (by decide)]

/-- A row adds its record. -/
theorem openLine_rowBytes (h : Storable P r) (tasks : List TaskRecord) :
    openLine P tasks (rowBytes r) = .ok (upsert tasks r.reread) := by
  obtain ⟨body, hbody⟩ := rowText_eq r
  have hshown : (rowText r).all isWhiteSpace = false := by
    rw [hbody]
    rfl
  unfold openLine
  rw [rowBytes, Finance.fromUtf8_utf8]
  dsimp only
  rw [hshown, if_neg Bool.false_ne_true, h.1]
  dsimp only
  rw [TaskRecord.fromJson_toJson]

theorem linesOf_cons {line : Bytes} {parts : List Bytes} (h : parts ≠ []) :
    linesOf (line :: parts) = stripReturn line :: linesOf parts := by
  cases parts with
  | nil => exact absurd rfl h
  | cons part parts => rfl

theorem lines_frame (h : Storable P r) (rest : Bytes) :
    lines (frame r ++ rest) = rowBytes r :: lines rest := by
  unfold lines frame
  rw [List.append_assoc, List.singleton_append,
    FramedLog.splitOn_frame (lineFeed_notMem_rowBytes h), linesOf_cons (List.splitOn_ne_nil _ _),
    stripReturn_rowBytes]

/-- The lines of a file that ends after whole rows and something more. -/
theorem foldlM_lines (hrows : ∀ r ∈ rows, Storable P r) (rest : Bytes)
    (tasks : List TaskRecord) :
    (lines (FramedLog.log (rowCodec P) 10 rows ++ rest)).foldlM (openLine P) tasks
      = (lines rest).foldlM (openLine P)
        (rows.foldl (fun tasks r => upsert tasks r.reread) tasks) := by
  induction rows generalizing tasks with
  | nil => rfl
  | cons r rows ih =>
    obtain ⟨hr, hrows⟩ := List.forall_mem_cons.mp hrows
    have hlog : FramedLog.log (rowCodec P) 10 (r :: rows) ++ rest
        = frame r ++ (FramedLog.log (rowCodec P) 10 rows ++ rest) := by
      rw [FramedLog.log_cons, frame]
      simp [rowCodec]
    rw [hlog, lines_frame hr, List.foldlM_cons, openLine_rowBytes hr]
    exact ih hrows _

/-- **Whole rows are opened**: the file yields the last row of each task. -/
theorem openTasks_log (hrows : ∀ r ∈ rows, Storable P r) :
    openTasks P (FramedLog.log (rowCodec P) 10 rows) = .ok (reopened rows) := by
  have hfold := foldlM_lines hrows [] []
  rw [List.append_nil] at hfold
  exact hfold

end rows

end Quinte.Pi
