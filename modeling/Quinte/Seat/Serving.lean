import Mathlib
import Quinte.Seat.Tasks

/-! # A PI seat at work

    `rpc.rs`: `SendMessage` starts a worker, `GetTask` says what the store
    holds, and a worker ends by updating its task once.  A restart reopens the
    store from its file and leaves no worker.

    * `reopened_equals_live`: when the live store and the file it has written
      answer alike.
-/

namespace Quinte.Pi

open Finance (Bytes Platform)
open FramedLog (log)

/-! ### Requests -/

/-- One round of the loop of `fold_parts`. A map is kept by its names. -/
def foldPart (folded : List String × List (String × Json)) (part : Json × Nat) :
    List String × List (String × Json) :=
  match (part.1.get "text").bind Json.asStr with
  | some text => (folded.1 ++ [text], folded.2)
  | none => match part.1.get "data" with
    | none => folded
    | some data =>
        let name := ((part.1.get "filename").bind Json.asStr).getD ("part-" ++ toString part.2)
        (folded.1, folded.2.filter (·.1 ≠ name) ++ [(name, data)])

/-- `fold_parts`. -/
def foldParts (params : Json) : Option String :=
  match ((params.get "message").bind (·.get "parts")).bind Json.asArr with
  | none => none
  | some parts =>
      let (texts, material) := parts.zipIdx.foldl foldPart ([], [])
      let document := String.ofList (Json.write Json.pretty 0 (Json.obj material).sorted)
      if material.isEmpty && texts.isEmpty then none
      else if texts.isEmpty then some document
      else some ("TEXT:\n" ++ "\n".intercalate texts ++ "\n" ++ document)

/-- The id that a message asks for, or a new one. -/
def requestedId (params : Json) (fresh : String) : String :=
  (((params.get "message").bind (·.get "taskId")).bind Json.asStr).getD fresh

/-- What `GetTask` says of a task, the time aside. -/
structure TaskReply where
  id : String
  state : String
  artifacts : List Json
  error : Option String
  deriving DecidableEq

/-- The reply of `get_task` about a record. -/
def TaskRecord.reply (r : TaskRecord) : TaskReply where
  id := r.taskId
  state := r.state.asStr
  artifacts := match r.state with
    | .completed => r.artifact.toList
    | .working | .failed => []
  error := r.error

/-- `get_task`. -/
def getTask (store : TaskStore) (params : Json) : Except (Int × String) TaskReply :=
  match (params.get "id").bind Json.asStr with
  | none => .error (-32602, "params.id must be a string")
  | some taskId => match store.get taskId with
    | none => .error (-32001, "task " ++ taskId ++ " not found")
    | some record => .ok record.reply

/-! ### The seat -/

/-- A worker that has not yet tried to record how its task ended. -/
structure Worker where
  taskId : String
  createdAt : String
  deriving DecidableEq, Inhabited

structure Seat where
  store : TaskStore
  workers : List Worker
  deriving Inhabited

/-- A seat that has never been used. -/
def Seat.empty : Seat where
  store := { file := [], tasks := [] }
  workers := []

/-- The record that `send_message` inserts. -/
def workingRecord (taskId now : String) : TaskRecord where
  taskId := taskId
  state := .working
  artifact := none
  error := none
  createdAt := now

/-- The record that a worker ends with. The outcome of a panic is an error. -/
def finishedRecord (worker : Worker) : Except String Json → TaskRecord
  | .ok artifact => {
      taskId := worker.taskId
      state := .completed
      artifact := some artifact
      error := none
      createdAt := worker.createdAt }
  | .error message => {
      taskId := worker.taskId
      state := .failed
      artifact := none
      error := some message
      createdAt := worker.createdAt }

/-- `send_message`: the id of the task that was started, or an error. -/
def Seat.sendMessage (seat : Seat) (params : Json) (fresh now : String) (written : Written) :
    Except (Int × String) String × Seat :=
  let taskId := requestedId params fresh
  match foldParts params with
  | none => (.error (-32602, "message carries no JSON parts"), seat)
  | some _ => match seat.store.insert (workingRecord taskId now) written with
    | (store, true) =>
        (.ok taskId, { store := store, workers := { taskId, createdAt := now } :: seat.workers })
    | (store, false) => (.error (-32603, "cannot write the task"), { seat with store := store })

/-- The end of a worker: its one update, whose error is dropped. -/
def Seat.finish (seat : Seat) (worker : Worker) (outcome : Except String Json)
    (written : Written) : Seat where
  store := (seat.store.update (finishedRecord worker outcome) written).1
  workers := seat.workers.erase worker

/-- What may happen at a seat. -/
inductive Event where
  | sendMessage (params : Json) (fresh now : String) (written : Written)
  | finish (worker : Worker) (outcome : Except String Json) (written : Written)
  | restart

/-- One event. A worker ends once, and a seat restarts when its file can be opened. -/
def Seat.step (P : Platform) (seat : Seat) : Event → Option Seat
  | .sendMessage params fresh now written => some (seat.sendMessage params fresh now written).2
  | .finish worker outcome written =>
      if worker ∈ seat.workers then some (seat.finish worker outcome written) else none
  | .restart => match openTasks P seat.store.file with
    | .error _ => none
    | .ok tasks => some { store := { seat.store with tasks := tasks }, workers := [] }

/-! ### Whole writes -/

/-- The id has not been reported completed or failed. -/
def Unsettled (store : TaskStore) (taskId : String) : Prop :=
  ∀ r, store.get taskId = some r → r.state = .working

/-- An event whose row is written as a whole and can be read back, and that
    starts no task whose id has been reported completed or failed. -/
def Orderly (P : Platform) (seat : Seat) : Event → Prop
  | .sendMessage params fresh _ written =>
      written = .whole
        ∧ ((foldParts params).isSome = true → Unsettled seat.store (requestedId params fresh))
  | .finish worker outcome written =>
      written = .whole ∧ Storable P (finishedRecord worker outcome)
  | .restart => True

/-- A run of such events. -/
inductive OrderlyRun (P : Platform) : Seat → Seat → Prop where
  | refl (seat : Seat) : OrderlyRun P seat seat
  | step {seat seat' seat'' : Seat} {event : Event} : OrderlyRun P seat seat' →
      Orderly P seat' event → seat'.step P event = some seat'' → OrderlyRun P seat seat''

/-- What the records of a seat have in common. -/
def WellMade (r : TaskRecord) : Prop :=
  (r.state = .working → r.error = none) ∧ (r.state = .completed → r.artifact.isSome = true)

theorem WellMade.reread {r : TaskRecord} (h : WellMade r) : WellMade r.reread :=
  ⟨h.1, fun _ => rfl⟩

theorem WellMade.reply_reread {r : TaskRecord} (h : WellMade r) : r.reread.reply = r.reply := by
  obtain ⟨taskId, state, artifact, error, createdAt⟩ := r
  cases state with
  | working | failed => rfl
  | completed =>
    obtain ⟨v, rfl⟩ := Option.isSome_iff_exists.mp (h.2 rfl)
    rfl

theorem wellMade_workingRecord (taskId now : String) : WellMade (workingRecord taskId now) :=
  ⟨fun _ => rfl, fun h => (by cases h)⟩

theorem wellMade_finishedRecord (worker : Worker) (outcome : Except String Json) :
    WellMade (finishedRecord worker outcome) := by
  cases outcome with
  | ok artifact => exact ⟨fun h => (by cases h), fun _ => rfl⟩
  | error message => exact ⟨fun h => (by cases h), fun h => (by cases h)⟩

theorem taskId_finishedRecord (worker : Worker) (outcome : Except String Json) :
    (finishedRecord worker outcome).taskId = worker.taskId := by
  cases outcome <;> rfl

theorem state_finishedRecord (worker : Worker) (outcome : Except String Json) :
    (finishedRecord worker outcome).state ≠ .working := by
  cases outcome <;> exact fun h => by cases h

theorem storable_workingRecord (P : Platform) (taskId now : String) :
    Storable P (workingRecord taskId now) := by
  apply storable_of_regular
  intro m hm
  simp only [List.mem_cons, List.not_mem_nil, or_false] at hm
  rcases hm with rfl | rfl | rfl | rfl | rfl <;> trivial

/-- The file of the seat is the log of these rows, and the store answers as the
    last row of each task does. -/
structure Logged (P : Platform) (seat : Seat) (rows : List TaskRecord) : Prop where
  file : seat.store.file = log (rowCodec P) 10 rows
  storable : ∀ r ∈ rows, Storable P r
  wellMade : ∀ r ∈ rows, WellMade r
  tasks : ∀ r ∈ seat.store.tasks, WellMade r
  workers : ∀ w ∈ seat.workers, ∃ r ∈ seat.store.tasks, r.taskId = w.taskId
  same : ∀ taskId, (seat.store.get taskId).map TaskRecord.reply
    = (lastRow rows taskId).map TaskRecord.reply

/-! ### One event -/

section steps

variable {P : Platform} {seat seat' : Seat} {rows : List TaskRecord}

theorem log_concat (rows : List TaskRecord) (r : TaskRecord) :
    log (rowCodec P) 10 rows ++ frame r = log (rowCodec P) 10 (rows ++ [r]) := by
  rw [FramedLog.log_append, FramedLog.log_cons, FramedLog.log_nil]
  rfl

theorem logged_empty : Logged P Seat.empty [] where
  file := rfl
  storable _ hr := absurd hr List.not_mem_nil
  wellMade _ hr := absurd hr List.not_mem_nil
  tasks _ hr := absurd hr List.not_mem_nil
  workers _ hw := absurd hw List.not_mem_nil
  same _ := rfl

theorem forall_concat {p : TaskRecord → Prop} {r : TaskRecord} (h : ∀ r ∈ rows, p r) (hr : p r) :
    ∀ r' ∈ rows ++ [r], p r' := by
  intro r' hr'
  rcases List.mem_append.mp hr' with hold | hlast
  · exact h r' hold
  · rwa [List.mem_singleton.mp hlast]

theorem mem_replaceFirst {record r : TaskRecord} {tasks : List TaskRecord}
    (h : r ∈ replaceFirst record tasks) : r = record ∨ r ∈ tasks := by
  induction tasks with
  | nil => cases h
  | cons first tasks ih =>
    unfold replaceFirst at h
    split at h
    · rcases List.mem_cons.mp h with rfl | hrest
      · exact Or.inl rfl
      · exact Or.inr (List.mem_cons_of_mem _ hrest)
    · rcases List.mem_cons.mp h with rfl | hrest
      · exact Or.inr List.mem_cons_self
      · rcases ih hrest with rfl | hmem
        · exact Or.inl rfl
        · exact Or.inr (List.mem_cons_of_mem _ hmem)

/-- A replacement takes no task away. -/
theorem exists_replaceFirst {record : TaskRecord} {tasks : List TaskRecord} {taskId : String}
    (h : ∃ r ∈ tasks, r.taskId = taskId) :
    ∃ r ∈ replaceFirst record tasks, r.taskId = taskId := by
  induction tasks with
  | nil =>
    obtain ⟨r, hr, -⟩ := h
    cases hr
  | cons first tasks ih =>
    obtain ⟨r, hr, hid⟩ := h
    unfold replaceFirst
    split
    case isTrue hfirst =>
      rcases List.mem_cons.mp hr with rfl | hrest
      · exact ⟨record, List.mem_cons_self, hfirst.symm.trans hid⟩
      · exact ⟨r, List.mem_cons_of_mem _ hrest, hid⟩
    case isFalse =>
      rcases List.mem_cons.mp hr with rfl | hrest
      · exact ⟨r, List.mem_cons_self, hid⟩
      · obtain ⟨r', hr', hid'⟩ := ih ⟨r, hrest, hid⟩
        exact ⟨r', List.mem_cons_of_mem _ hr', hid'⟩

theorem get_insert_self {store : TaskStore} {r : TaskRecord} (h : store.get r.taskId = none) :
    ({ store with tasks := store.tasks ++ [r] } : TaskStore).get r.taskId = some r := by
  unfold TaskStore.get at h ⊢
  rw [List.find?_append, h, Option.none_or, List.find?_cons_of_pos (by simp)]

theorem get_insert_of_some {store : TaskStore} {r found : TaskRecord} {taskId : String}
    (h : store.get taskId = some found) :
    ({ store with tasks := store.tasks ++ [r] } : TaskStore).get taskId = some found := by
  unfold TaskStore.get at h ⊢
  rw [List.find?_append, h, Option.some_or]

/-- A working task replies like any other of its id. -/
theorem reply_of_working {r r' : TaskRecord} (hr : WellMade r) (hr' : WellMade r')
    (hid : r.taskId = r'.taskId) (h : r.state = .working) (h' : r'.state = .working) :
    r.reply = r'.reply := by
  unfold TaskRecord.reply
  rw [h, h', hid, hr.1 h, hr'.1 h']

/-- A message whose row is written starts a task. -/
theorem Logged.sendMessage (h : Logged P seat rows) {params : Json} {fresh now : String}
    (hunsettled : (foldParts params).isSome = true →
      Unsettled seat.store (requestedId params fresh)) :
    ∃ rows', Logged P (seat.sendMessage params fresh now .whole).2 rows' := by
  unfold Seat.sendMessage
  cases hparts : foldParts params with
  | none => exact ⟨rows, h⟩
  | some material =>
    rw [hparts] at hunsettled
    have hworking := hunsettled rfl
    refine ⟨rows ++ [workingRecord (requestedId params fresh) now], ?_⟩
    constructor
    · show seat.store.file ++ frame _ = _
      rw [h.file, log_concat]
    · exact forall_concat h.storable (storable_workingRecord P _ _)
    · exact forall_concat h.wellMade (wellMade_workingRecord _ _)
    · exact forall_concat h.tasks (wellMade_workingRecord _ _)
    · intro w hw
      rcases List.mem_cons.mp hw with rfl | hold
      · exact ⟨_, List.mem_append_right _ (List.mem_singleton.mpr rfl), rfl⟩
      · obtain ⟨r, hr, hid⟩ := h.workers w hold
        exact ⟨r, List.mem_append_left _ hr, hid⟩
    · intro taskId
      rw [lastRow_append]
      by_cases hid : (workingRecord (requestedId params fresh) now).taskId = taskId
      · rw [if_pos hid]
        obtain rfl : requestedId params fresh = taskId := hid
        cases hget : seat.store.get (requestedId params fresh) with
        | none =>
          have hself := get_insert_self (r := workingRecord (requestedId params fresh) now) hget
          exact congrArg (Option.map TaskRecord.reply) hself
        | some found =>
          -- the first record of the task stays, and it is still working
          have hsome := get_insert_of_some (r := workingRecord (requestedId params fresh) now) hget
          have hmem : found ∈ seat.store.tasks := List.mem_of_find?_eq_some hget
          have hfound : found.taskId = requestedId params fresh := by
            simpa using List.find?_some hget
          have hreply : found.reply = (workingRecord (requestedId params fresh) now).reply :=
            reply_of_working (h.tasks found hmem) (wellMade_workingRecord _ _) hfound
              (hworking found hget) rfl
          refine (congrArg (Option.map TaskRecord.reply) hsome).trans ?_
          rw [Option.map_some, Option.map_some, hreply]
      · rw [if_neg hid, ← h.same taskId]
        have hkept : (seat.store.tasks ++ [workingRecord (requestedId params fresh) now]).find?
            (·.taskId = taskId) = seat.store.tasks.find? (·.taskId = taskId) :=
          find?_append_of_ne hid
        exact congrArg (Option.map TaskRecord.reply) hkept

/-- A worker whose row is written settles its task. -/
theorem Logged.finish (h : Logged P seat rows) {worker : Worker} (hworker : worker ∈ seat.workers)
    {outcome : Except String Json} (hstorable : Storable P (finishedRecord worker outcome)) :
    ∃ rows', Logged P (seat.finish worker outcome .whole) rows' := by
  refine ⟨rows ++ [finishedRecord worker outcome], ?_⟩
  have hwellMade := wellMade_finishedRecord worker outcome
  constructor
  · show seat.store.file ++ frame _ = _
    rw [h.file, log_concat]
  · exact forall_concat h.storable hstorable
  · exact forall_concat h.wellMade hwellMade
  · intro r hr
    rcases mem_replaceFirst hr with rfl | hold
    · exact hwellMade
    · exact h.tasks r hold
  · intro w hw
    exact exists_replaceFirst (h.workers w (List.mem_of_mem_erase hw))
  · intro taskId
    rw [lastRow_append]
    -- the last row of this task is the new one, and of the others their old one
    by_cases hid : (finishedRecord worker outcome).taskId = taskId
    · subst hid
      have hpresent : ∃ r ∈ seat.store.tasks,
          r.taskId = (finishedRecord worker outcome).taskId := by
        rw [taskId_finishedRecord]
        exact h.workers worker hworker
      rw [if_pos rfl]
      exact congrArg (Option.map TaskRecord.reply) (find?_replaceFirst_self hpresent)
    · rw [if_neg hid, ← h.same taskId]
      exact congrArg (Option.map TaskRecord.reply) (find?_replaceFirst_of_ne hid)

theorem mem_upsert {record r : TaskRecord} {tasks : List TaskRecord}
    (h : r ∈ upsert tasks record) : r = record ∨ r ∈ tasks := by
  unfold upsert at h
  split at h
  · exact mem_replaceFirst h
  · rcases List.mem_append.mp h with hold | hlast
    · exact Or.inr hold
    · exact Or.inl (List.mem_singleton.mp hlast)

theorem wellMade_reopened (h : ∀ r ∈ rows, WellMade r) : ∀ r ∈ reopened rows, WellMade r := by
  induction rows using List.reverseRecOn with
  | nil =>
    intro r hr
    cases hr
  | append_singleton rows last ih =>
    intro r hr
    unfold reopened at hr
    rw [List.foldl_append, List.foldl_cons, List.foldl_nil] at hr
    rcases mem_upsert hr with rfl | hold
    · exact (h last (by simp)).reread
    · exact ih (fun r hr => h r (List.mem_append_left _ hr)) r hold

/-- The seat that is started from the file. -/
theorem Logged.restart (h : Logged P seat rows) :
    seat.step P .restart
      = some { store := { seat.store with tasks := reopened rows }, workers := [] } := by
  unfold Seat.step
  dsimp only
  rw [h.file, openTasks_log h.storable]

theorem Logged.get_reopened (h : Logged P seat rows) (taskId : String) :
    (({ seat.store with tasks := reopened rows } : TaskStore).get taskId).map TaskRecord.reply
      = (seat.store.get taskId).map TaskRecord.reply := by
  rw [h.same taskId]
  unfold TaskStore.get
  rw [find?_reopened]
  cases hlast : lastRow rows taskId with
  | none => rfl
  | some r =>
    have hmem : r ∈ rows := List.mem_of_mem_filter (List.mem_of_getLast? hlast)
    rw [Option.map_some, Option.map_some, (h.wellMade r hmem).reply_reread, Option.map_some]

theorem Logged.restarted (h : Logged P seat rows) :
    Logged P { store := { seat.store with tasks := reopened rows }, workers := [] } rows where
  file := h.file
  storable := h.storable
  wellMade := h.wellMade
  tasks := wellMade_reopened h.wellMade
  workers _ hw := absurd hw List.not_mem_nil
  same taskId := (h.get_reopened taskId).trans (h.same taskId)

/-- An orderly event keeps the log and the store in step. -/
theorem Logged.step (h : Logged P seat rows) {event : Event} (horderly : Orderly P seat event)
    (hstep : seat.step P event = some seat') : ∃ rows', Logged P seat' rows' := by
  cases event with
  | sendMessage params fresh now written =>
    obtain ⟨rfl, hunsettled⟩ := horderly
    obtain rfl := Option.some.inj hstep
    exact h.sendMessage hunsettled
  | finish worker outcome written =>
    obtain ⟨rfl, hstorable⟩ := horderly
    unfold Seat.step at hstep
    dsimp only at hstep
    split at hstep
    case isTrue hworker =>
      obtain rfl := Option.some.inj hstep
      exact h.finish hworker hstorable
    case isFalse => cases hstep
  | restart =>
    rw [h.restart] at hstep
    obtain rfl := Option.some.inj hstep
    exact ⟨rows, h.restarted⟩

/-- A task that has ended. -/
def Settled (store : TaskStore) (taskId : String) : Prop :=
  ∃ r, store.get taskId = some r ∧ r.state ≠ .working

theorem asStr_ne_working {state : TaskState} : state.asStr ≠ "working" ↔ state ≠ .working := by
  cases state <;> decide

/-- A task that has ended stays so, whatever else happens. -/
theorem Logged.settled (h : Logged P seat rows) {event : Event} (horderly : Orderly P seat event)
    (hstep : seat.step P event = some seat') {taskId : String}
    (hsettled : Settled seat.store taskId) : Settled seat'.store taskId := by
  obtain ⟨r, hget, hstate⟩ := hsettled
  cases event with
  | sendMessage params fresh now written =>
    obtain ⟨rfl, -⟩ := horderly
    obtain rfl := Option.some.inj hstep
    unfold Seat.sendMessage
    cases hparts : foldParts params with
    | none => exact ⟨r, hget, hstate⟩
    | some material => exact ⟨r, get_insert_of_some hget, hstate⟩
  | finish worker outcome written =>
    obtain ⟨rfl, -⟩ := horderly
    unfold Seat.step at hstep
    dsimp only at hstep
    split at hstep
    case isFalse => cases hstep
    case isTrue hworker =>
      obtain rfl := Option.some.inj hstep
      by_cases hid : (finishedRecord worker outcome).taskId = taskId
      · subst hid
        have hpresent : ∃ r ∈ seat.store.tasks,
            r.taskId = (finishedRecord worker outcome).taskId := by
          have hfound := List.find?_some hget
          exact ⟨r, List.mem_of_find?_eq_some hget, by simpa using hfound⟩
        exact ⟨_, find?_replaceFirst_self hpresent, state_finishedRecord worker outcome⟩
      · exact ⟨r, (find?_replaceFirst_of_ne hid).trans hget, hstate⟩
  | restart =>
    rw [h.restart] at hstep
    obtain rfl := Option.some.inj hstep
    have hreply := h.get_reopened taskId
    rw [hget, Option.map_some, Option.map_eq_some_iff] at hreply
    obtain ⟨r', hget', hsame⟩ := hreply
    refine ⟨r', hget', ?_⟩
    have hstr : r'.state.asStr = r.state.asStr := congrArg TaskReply.state hsame
    rw [← asStr_ne_working, hstr, asStr_ne_working]
    exact hstate

/-- `GetTask` compares records by their replies. -/
theorem getTask_congr {store store' : TaskStore} (h : ∀ taskId,
    (store.get taskId).map TaskRecord.reply = (store'.get taskId).map TaskRecord.reply)
    (params : Json) : getTask store params = getTask store' params := by
  unfold getTask
  cases (params.get "id").bind Json.asStr with
  | none => rfl
  | some taskId =>
    have hsame := h taskId
    dsimp only
    cases hget : store.get taskId <;> cases hget' : store'.get taskId <;> rw [hget, hget'] at hsame
    · cases hsame
    · cases hsame
    · rw [Option.map_some, Option.map_some] at hsame
      dsimp only
      rw [Option.some.inj hsame]

theorem getTask_ok {store : TaskStore} {params : Json} {reply : TaskReply} :
    getTask store params = .ok reply ↔ ∃ taskId r, (params.get "id").bind Json.asStr = some taskId
      ∧ store.get taskId = some r ∧ r.reply = reply := by
  unfold getTask
  cases (params.get "id").bind Json.asStr with
  | none => simp
  | some taskId =>
    cases hget : store.get taskId <;> simp [hget]

/-- A task that is started under the id of one that has ended is working for
    the file, and has ended for the store. -/
theorem Logged.disagree (h : Logged P seat rows) {params : Json} {fresh now : String}
    {reopenedSeat : Seat} (hparts : (foldParts params).isSome = true)
    (hended : ¬ Unsettled seat.store (requestedId params fresh))
    (hreopen : (seat.sendMessage params fresh now .whole).2.step P .restart
      = some reopenedSeat) :
    ∃ query, getTask reopenedSeat.store query
      ≠ getTask (seat.sendMessage params fresh now .whole).2.store query := by
  unfold Unsettled at hended
  push Not at hended
  obtain ⟨found, hfound, hstate⟩ := hended
  obtain ⟨material, hmaterial⟩ := Option.isSome_iff_exists.mp hparts
  have hrows := forall_concat h.storable (storable_workingRecord P (requestedId params fresh) now)
  have hopen : openTasks P (seat.store.file ++ frame (workingRecord (requestedId params fresh) now))
      = .ok (reopened (rows ++ [workingRecord (requestedId params fresh) now])) := by
    rw [h.file, log_concat]
    exact openTasks_log hrows
  unfold Seat.sendMessage at hreopen ⊢
  rw [hmaterial] at hreopen ⊢
  unfold Seat.step at hreopen
  dsimp only [TaskStore.insert, TaskStore.persist] at hreopen ⊢
  rw [hopen] at hreopen
  obtain rfl := Option.some.inj hreopen
  refine ⟨.obj [("id", .str (requestedId params fresh))], ?_⟩
  intro hsame
  -- the live table finds the task that has ended, as it is the first of its id
  have hlive := get_insert_of_some (r := workingRecord (requestedId params fresh) now) hfound
  -- the reopened one finds the new row, as it is the last
  have hfile := find?_reopened (rows ++ [workingRecord (requestedId params fresh) now])
    (requestedId params fresh)
  have hid : (workingRecord (requestedId params fresh) now).taskId
      = requestedId params fresh := rfl
  rw [lastRow_append, if_pos hid, Option.map_some] at hfile
  have hreply : getTask ({ seat.store with
      tasks := seat.store.tasks ++ [workingRecord (requestedId params fresh) now] } : TaskStore)
      (.obj [("id", .str (requestedId params fresh))]) = .ok found.reply :=
    getTask_ok.mpr ⟨_, found, rfl, hlive, rfl⟩
  have hreply' : getTask ({ seat.store with
      tasks := reopened (rows ++ [workingRecord (requestedId params fresh) now]) } : TaskStore)
      (.obj [("id", .str (requestedId params fresh))])
      = .ok (workingRecord (requestedId params fresh) now).reread.reply :=
    getTask_ok.mpr ⟨_, _, rfl, hfile, rfl⟩
  have hboth : (workingRecord (requestedId params fresh) now).reread.reply = found.reply :=
    Except.ok.inj (hreply'.symm.trans (hsame.trans hreply))
  have hstr : "working" = found.state.asStr := congrArg TaskReply.state hboth
  exact asStr_ne_working.mpr hstate hstr.symm

/-! ### Whole runs -/

theorem OrderlyRun.logged (hrun : OrderlyRun P seat seat') (h : Logged P seat rows) :
    ∃ rows', Logged P seat' rows' := by
  induction hrun with
  | refl => exact ⟨rows, h⟩
  | step _ horderly hstep ih =>
    obtain ⟨rows', hlogged⟩ := ih
    exact hlogged.step horderly hstep

theorem OrderlyRun.settled (hrun : OrderlyRun P seat seat') (h : Logged P seat rows)
    {taskId : String} (hsettled : Settled seat.store taskId) : Settled seat'.store taskId := by
  induction hrun with
  | refl => exact hsettled
  | step hbefore horderly hstep ih =>
    obtain ⟨rows', hlogged⟩ := hbefore.logged h
    exact hlogged.settled horderly hstep ih

end steps

/-- **The reopened store equals the live one** along a run in which every row is
    written and read back, and no task is started under an id that has been
    reported completed or failed; and a task that was reported so is not
    reported working again.  A task that is started under such an id tells the
    two stores apart. -/
theorem reopened_equals_live (P : Platform) (seat : Seat) (hrun : OrderlyRun P Seat.empty seat) :
    (∃ reopened, seat.step P .restart = some reopened
      ∧ ∀ params, getTask reopened.store params = getTask seat.store params)
    ∧ (∀ later reopened, OrderlyRun P seat later → later.step P .restart = some reopened →
        ∀ params reply, getTask seat.store params = .ok reply → reply.state ≠ "working" →
          (∀ reply', getTask later.store params = .ok reply' → reply'.state ≠ "working")
          ∧ ∀ reply', getTask reopened.store params = .ok reply' → reply'.state ≠ "working")
    ∧ ∀ params fresh now reopened, (foldParts params).isSome = true →
        ¬ Unsettled seat.store (requestedId params fresh) →
        (seat.sendMessage params fresh now .whole).2.step P .restart = some reopened →
        ∃ query, getTask reopened.store query
          ≠ getTask (seat.sendMessage params fresh now .whole).2.store query := by
  obtain ⟨rows, hlogged⟩ := hrun.logged logged_empty
  refine ⟨?_, ?_, ?_⟩
  · exact ⟨_, hlogged.restart, getTask_congr hlogged.get_reopened⟩
  · intro later reopened hlater hreopen params reply hreply hended
    obtain ⟨taskId, r, hid, hget, rfl⟩ := getTask_ok.mp hreply
    have hsettled : Settled later.store taskId :=
      hlater.settled hlogged ⟨r, hget, asStr_ne_working.mp hended⟩
    obtain ⟨rows', hlogged'⟩ := hlater.logged hlogged
    have hboth : ∀ {store : TaskStore}, Settled store taskId → ∀ reply',
        getTask store params = .ok reply' → reply'.state ≠ "working" := by
      intro store hstore reply' hreply'
      obtain ⟨taskId', r', hid', hget', rfl⟩ := getTask_ok.mp hreply'
      obtain rfl : taskId = taskId' := Option.some.inj (hid.symm.trans hid')
      obtain ⟨found, hfound, hstate⟩ := hstore
      obtain rfl : found = r' := Option.some.inj (hfound.symm.trans hget')
      exact asStr_ne_working.mpr hstate
    have horderly : Orderly P later .restart := trivial
    exact ⟨hboth hsettled, hboth (hlogged'.settled horderly hreopen hsettled)⟩
  · intro params fresh now reopened hparts hended hreopen
    exact hlogged.disagree hparts hended hreopen

/-- A message with one text, for the task `t-1`. -/
def sampleMessage : Json :=
  .obj [("message", .obj [("taskId", .str "t-1"),
    ("parts", .arr [.obj [("text", .str "Review.")]])])]

/-- A task that has been started, and its store reopened. -/
theorem reopened_equals_live_started : ∃ reopened,
    (Seat.empty.sendMessage sampleMessage "t-2" "" .whole).2.step Platform.verbatim .restart
      = some reopened
    ∧ ∀ params, getTask reopened.store params
      = getTask (Seat.empty.sendMessage sampleMessage "t-2" "" .whole).2.store params := by
  have horderly : Orderly Platform.verbatim Seat.empty
      (.sendMessage sampleMessage "t-2" "" .whole) := by
    refine ⟨rfl, ?_⟩
    intro _ r hr
    cases hr
  exact (reopened_equals_live Platform.verbatim _
    (OrderlyRun.step (OrderlyRun.refl _) horderly rfl)).1

/-- The seat after a task was started, has failed, and was started again. -/
def restartedTask : Seat :=
  (((Seat.empty.sendMessage sampleMessage "t-2" "" .whole).2.finish ⟨"t-1", ""⟩ (.error "no reply")
    .whole).sendMessage sampleMessage "t-2" "" .whole).2

/-- The live store reports it failed, and the file has it working. -/
theorem reopened_differs_from_live : ¬ ∀ events : List Event, ∀ seat reopened,
    (∀ event ∈ events, event ≠ .restart) →
    events.foldlM (Seat.step Platform.verbatim) Seat.empty = some seat →
    seat.step Platform.verbatim .restart = some reopened →
    ∀ params, getTask reopened.store params = getTask seat.store params := by
  intro hall
  have hstate : (restartedTask.step Platform.verbatim .restart).map
      (fun seat => (seat.store.get "t-1").map (·.state)) = some (some .working) := by
    decide +kernel
  obtain ⟨reopened, hreopened, hworking⟩ := Option.map_eq_some_iff.mp hstate
  have hsame := hall [.sendMessage sampleMessage "t-2" "" .whole,
    .finish ⟨"t-1", ""⟩ (.error "no reply") .whole, .sendMessage sampleMessage "t-2" "" .whole]
    restartedTask reopened (by simp) rfl hreopened (.obj [("id", .str "t-1")])
  obtain ⟨r, hget, hr⟩ := Option.map_eq_some_iff.mp hworking
  have hreply : getTask reopened.store (.obj [("id", .str "t-1")]) = .ok r.reply :=
    getTask_ok.mpr ⟨_, r, rfl, hget, rfl⟩
  have hlive : (getTask restartedTask.store (.obj [("id", .str "t-1")])).map (·.state)
      = .ok "failed" := by decide +kernel
  rw [← hsame, hreply] at hlive
  have hstr : r.state.asStr = "failed" := Except.ok.inj hlive
  rw [hr] at hstr
  revert hstr
  decide

end Quinte.Pi
