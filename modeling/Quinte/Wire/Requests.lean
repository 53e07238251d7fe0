import Mathlib
import Quinte.Wire.Tasks

/-! # Requests as processes

    A server answers each request in a thread of its own, and a restart ends
    them all; `Requests` is the menu of a pool on the home. A thread that dies
    keeps no lock.

    What observes runs leaves the task records alone: `leaves_receiptForRun`,
    `leaves_listManifests`, `leaves_cancelUnlessCancelled`.
-/

namespace Quinte.Wire

open Program

/-! ### The menu -/

/-- What happens to the home when a process dies. -/
def Home.release (me : Pid) (h : Home) : Home :=
  { h with
    dir := fun id => (h.dir id).control (·.release me)
    launchLock := if h.launchLock = some me then none else h.launchLock }

/-- The identities in a reply, for each time it carries the artifacts of a task. -/
def shownIds (task : String) (tasks : List Task) : List (List (Option String)) :=
  (tasks.filter fun t => t.id == task && !t.artifacts.isEmpty).map fun t =>
    t.artifacts.map (·.artifactId)

/-- A reply with these tasks leaves the server. -/
def Home.reply (tasks : List Task) (h : Home) : Home :=
  { h with watch := { h.watch with replies := shownIds h.watch.task tasks ++ h.watch.replies } }

/-- A request about tasks, with its parameters. -/
inductive Request where
  | get (params : Json)
  | list (params : Json)
  | cancel (params : Json)

/-- The tasks a request replies with. -/
def Request.tasks (S : Server) (me : Pid) : Request → Wired (List Task)
  | .get params => do return [← getTask S me params]
  | .list params => do return (← listTasks S me params).tasks
  | .cancel params => do return [← cancelTask S me params]

/-- A thread of the server. The reply to a request that fails has no tasks. -/
def Request.respond (S : Server) (me : Pid) (request : Request) : Wired Unit := do
  Prog.modify (Home.reply (← request.tasks S me))

/-- The threads a server may start. -/
def Requests (S : Server) (me : Pid) (p : Wired Unit) : Prop :=
  ∃ request : Request, p = request.respond S me

/-! ### What leaves the records alone -/

/-- The part of the home that the records are in. -/
def ledger (h : Home) : Path × FileTree (Option TaskRecord) × Watch := (h.root, h.tasks, h.watch)

section leaves

variable {me : Pid} {S : Server} {id : String}

theorem leaves_onRun {α : Type} (p : Proc α) : Leaves ledger (Hosted.onRun id p) := by
  have hput : ∀ d h, ledger ((h.setDir id d).touch (h.runDir id)) = ledger h := fun _ _ => rfl
  exact Leaves.mapError (leaves_zoom hput p)

/-- A file is read. -/
theorem leaves_traced {α ε : Type} (path : Home → Path) (f : Home → α) :
    Leaves ledger (Prog.observe (fun h => h.touch (path h)) f : Prog Home Answer ε α) :=
  (leaves_observe _ _).mpr fun _ => rfl

theorem leaves_readManifest : Leaves ledger (readManifest id) :=
  leaves_traced _ _

theorem leaves_loadManifest : Leaves ledger (loadManifest me id) := by
  unfold loadManifest
  apply Leaves.bind (leaves_ensure _ _)
  intro _
  apply Leaves.bind leaves_readManifest
  intro manifest
  cases manifest with
  | none => exact leaves_throw _
  | some manifest =>
    apply Leaves.bind (leaves_ensure _ _)
    intro _
    apply Leaves.bind (leaves_onRun _)
    exact fun _ => leaves_pure _

theorem leaves_scanManifests (ids : List String) : Leaves ledger (scanManifests me ids) := by
  induction ids with
  | nil => exact leaves_pure _
  | cons id ids ih =>
    have htrusted : Leaves ledger (trustedManifest me id) :=
      (Leaves.mapError (leaves_ensure _ _)).bind fun _ => leaves_loadManifest.mapError
    exact htrusted.bind fun _ => ih.bind fun _ => leaves_pure _

theorem leaves_activeManifests : Leaves ledger (activeManifests me) := by
  unfold activeManifests readRuns
  apply Leaves.bind (leaves_traced _ _)
  intro ids
  exact (leaves_scanManifests ids).bind fun _ => leaves_pure _

/-- A file below `host` is no record. -/
theorem ledger_writeAt {h : Home} {p : Path} (hp : p.dropLast ≠ h.tasksDir)
    (content : Option TaskRecord) : ledger (h.writeAt p content) = ledger h := by
  unfold Home.writeAt
  cases p.getLast? with
  | none => rfl
  | some name =>
    simp only [if_neg hp]
    rfl

theorem leaves_persistReceipt (invocationId : String) : Leaves ledger (persistReceipt invocationId) := by
  have hreceipt : ∀ h : Home, (h.root ++ ["host", "receipts", invocationId ++ ".json"]).dropLast
      ≠ h.tasksDir := by
    intro h heq
    rw [Home.tasksDir, List.dropLast_append_of_ne_nil (by simp)] at heq
    exact absurd (List.append_cancel_left heq) (by simp)
  have hlatest : ∀ h : Home, (h.root ++ ["host", "latest.json"]).dropLast ≠ h.tasksDir := by
    intro h heq
    rw [Home.tasksDir, List.dropLast_append_of_ne_nil (by simp)] at heq
    exact absurd (List.append_cancel_left heq) (by simp)
  unfold persistReceipt writeFile
  apply Leaves.bind ((leaves_modify _).mpr fun h => ledger_writeAt (hreceipt h) none)
  exact fun _ => (leaves_modify _).mpr fun h => ledger_writeAt (hlatest h) none

theorem leaves_verifiedResult {manifest : RunManifest} :
    Leaves ledger (verifiedResult S me id manifest) := by
  unfold verifiedResult
  split
  · apply Leaves.bind (leaves_onRun _)
    intro integrity
    cases integrity with
    | none => exact leaves_throw _
    | some _ => exact leaves_pure _
  · exact leaves_pure _

/-- **An observation** leaves the records alone. -/
theorem leaves_receiptForRun {operation : String} :
    Leaves ledger (receiptForRun S me operation id) := by
  unfold receiptForRun
  apply Leaves.bind (leaves_answer _)
  intro invocationId
  apply Leaves.bind leaves_loadManifest
  intro manifest
  apply Leaves.bind leaves_activeManifests
  intro active
  apply Leaves.bind (leaves_traced _ _)
  intro observed
  apply Leaves.bind (leaves_ofExcept _)
  intro _
  apply Leaves.bind leaves_verifiedResult
  intro _
  apply Leaves.bind (leaves_persistReceipt _)
  exact fun _ => leaves_pure _

theorem leaves_readManifests (ids : List String) : Leaves ledger (readManifests ids) := by
  induction ids with
  | nil => exact leaves_pure _
  | cons id ids ih =>
    unfold readManifests
    split
    · exact leaves_readManifest.bind fun _ => ih.bind fun _ => leaves_pure _
    · exact ih

theorem leaves_listManifests : Leaves ledger listManifests := by
  unfold listManifests readRuns
  apply Leaves.bind (leaves_traced _ _)
  exact fun ids => (leaves_readManifests ids).bind fun _ => leaves_pure _

theorem leaves_cancelUnlessCancelled {manifest : RunManifest} :
    Leaves ledger (cancelUnlessCancelled me id manifest) := by
  unfold cancelUnlessCancelled
  split
  · exact leaves_pure _
  · apply Leaves.bind (leaves_onRun _).mapError
    exact fun _ => leaves_pure _

end leaves

end Quinte.Wire
