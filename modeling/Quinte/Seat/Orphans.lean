import Mathlib
import Quinte.Seat.Serving

/-! # Tasks that nobody works on

    A task is an orphan when `GetTask` reports it working and no worker is
    left that has yet to record how it ended.

    * `noOrphan_step_iff`: which events leave no orphan;
    * `noOrphan_throughout_iff`: which runs never have one.
-/

namespace Quinte.Pi

open Finance (Bytes Platform)

/-- Every task that is reported working has a worker. -/
def NoOrphan (seat : Seat) : Prop :=
  ∀ taskId r, seat.store.get taskId = some r → r.state = .working →
    ∃ worker ∈ seat.workers, worker.taskId = taskId

/-- The last row of no task in the file is working. -/
def EndedInFile (P : Platform) (file : Bytes) : Prop :=
  ∀ tasks, openTasks P file = .ok tasks →
    ∀ taskId r, tasks.find? (·.taskId = taskId) = some r → r.state ≠ .working

/-- An event that leaves no task without a worker: a restart finds no task
    working in the file, and a last update that is not written is about a task
    that is not reported working, or that another worker still works on. -/
def Covered (P : Platform) (seat : Seat) : Event → Prop
  | .sendMessage _ _ _ _ => True
  | .finish _ _ .whole => True
  | .finish worker _ (.torn _) =>
      (∀ r, seat.store.get worker.taskId = some r → r.state ≠ .working)
        ∨ ∃ other ∈ seat.workers.erase worker, other.taskId = worker.taskId
  | .restart => EndedInFile P seat.store.file

section steps

variable {P : Platform} {seat seat' : Seat}

/-- A message brings its own worker. -/
theorem NoOrphan.sendMessage (h : NoOrphan seat) (params : Json) (fresh now : String)
    (written : Written) : NoOrphan (seat.sendMessage params fresh now written).2 := by
  unfold Seat.sendMessage
  cases hparts : foldParts params with
  | none => exact h
  | some material =>
    cases written with
    | torn length => exact h
    | whole =>
      intro taskId r hget hstate
      by_cases hid : requestedId params fresh = taskId
      · exact ⟨_, List.mem_cons_self, hid⟩
      · have hold : seat.store.get taskId = some r := by
          rw [← hget]
          exact (find?_append_of_ne hid).symm
        obtain ⟨worker, hworker, hsame⟩ := h taskId r hold hstate
        exact ⟨worker, List.mem_cons_of_mem _ hworker, hsame⟩

/-- An update that is written ends the task. -/
theorem NoOrphan.finish (h : NoOrphan seat) (worker : Worker) (outcome : Except String Json) :
    NoOrphan (seat.finish worker outcome .whole) := by
  intro taskId r hget hstate
  have hreplaced : (replaceFirst (finishedRecord worker outcome) seat.store.tasks).find?
      (·.taskId = taskId) = some r := hget
  by_cases hid : (finishedRecord worker outcome).taskId = taskId
  · subst hid
    by_cases hpresent : ∃ r ∈ seat.store.tasks, r.taskId = (finishedRecord worker outcome).taskId
    · rw [find?_replaceFirst_self hpresent] at hreplaced
      obtain rfl := Option.some.inj hreplaced
      exact absurd hstate (state_finishedRecord worker outcome)
    · -- the store does not know the task
      exfalso
      have hmem := mem_replaceFirst (List.mem_of_find?_eq_some hreplaced)
      have hfound := List.find?_some hreplaced
      rcases hmem with rfl | hold
      · exact state_finishedRecord worker outcome hstate
      · exact hpresent ⟨r, hold, by simpa using hfound⟩
  · rw [find?_replaceFirst_of_ne hid] at hreplaced
    obtain ⟨other, hother, hsame⟩ := h taskId r hreplaced hstate
    have hne : other ≠ worker := by
      intro heq
      rw [taskId_finishedRecord, ← heq] at hid
      exact hid hsame
    exact ⟨other, (List.mem_erase_of_ne hne).mpr hother, hsame⟩

/-- An update that is not written leaves the task to the other workers. -/
theorem noOrphan_finish_torn (h : NoOrphan seat) (worker : Worker)
    (outcome : Except String Json) (length : Nat) :
    NoOrphan (seat.finish worker outcome (.torn length)) ↔
      Covered P seat (.finish worker outcome (.torn length)) := by
  constructor
  · intro hafter
    by_cases hworking : ∀ r, seat.store.get worker.taskId = some r → r.state ≠ .working
    · exact Or.inl hworking
    · push Not at hworking
      obtain ⟨r, hget, hstate⟩ := hworking
      exact Or.inr (hafter worker.taskId r hget hstate)
  · intro hcovered taskId r hget hstate
    have hsame : seat.store.get taskId = some r := hget
    by_cases hid : worker.taskId = taskId
    · subst hid
      rcases hcovered with hended | hother
      · exact absurd hstate (hended r hsame)
      · exact hother
    · obtain ⟨other, hother, hotherId⟩ := h taskId r hsame hstate
      have hne : other ≠ worker := by
        intro heq
        exact hid (heq ▸ hotherId)
      exact ⟨other, (List.mem_erase_of_ne hne).mpr hother, hotherId⟩

/-- **Which events leave no orphan**. -/
theorem noOrphan_step_iff (h : NoOrphan seat) {event : Event}
    (hstep : seat.step P event = some seat') : NoOrphan seat' ↔ Covered P seat event := by
  cases event with
  | sendMessage params fresh now written =>
    obtain rfl := Option.some.inj hstep
    exact iff_of_true (h.sendMessage params fresh now written) trivial
  -- a torn record leaves the task without its end
  | finish worker outcome written =>
    unfold Seat.step at hstep
    dsimp only at hstep
    split at hstep
    case isFalse => cases hstep
    case isTrue hworker =>
      obtain rfl := Option.some.inj hstep
      cases written with
      | whole => exact iff_of_true (h.finish worker outcome) trivial
      | torn length => exact noOrphan_finish_torn h worker outcome length
  -- a restart has no workers: a task must have ended by the log
  | restart =>
    unfold Seat.step at hstep
    dsimp only at hstep
    cases hopen : openTasks P seat.store.file with
    | error message =>
      rw [hopen] at hstep
      cases hstep
    | ok tasks =>
      rw [hopen] at hstep
      obtain rfl := Option.some.inj hstep
      constructor
      · intro hafter tasks' htasks taskId r hfound hstate
        rw [hopen] at htasks
        cases htasks
        obtain ⟨worker, hworker, -⟩ := hafter taskId r hfound hstate
        cases hworker
      · intro hended taskId r hget hstate
        exact absurd hstate (hended tasks hopen taskId r hget)

end steps

/-! ### Whole runs -/

/-- The states that the seat goes through. -/
inductive Visits (P : Platform) : Seat → List Event → Seat → Prop where
  | here (seat : Seat) (events : List Event) : Visits P seat events seat
  | later {seat next seat' : Seat} {event : Event} {events : List Event} :
      seat.step P event = some next → Visits P next events seat' →
      Visits P seat (event :: events) seat'

/-- Every event that happens meets a condition on it and on the state before it. -/
def Throughout (P : Platform) (p : Seat → Event → Prop) : Seat → List Event → Prop
  | _, [] => True
  | seat, event :: events =>
      ∀ next, seat.step P event = some next → p seat event ∧ Throughout P p next events

/-- **No orphan, ever**: along a run, no task is reported working that nobody
    works on, exactly when every event is covered. -/
theorem noOrphan_throughout_iff (P : Platform) (events : List Event) :
    (∀ seat, Visits P Seat.empty events seat → NoOrphan seat)
      ↔ Throughout P (Covered P) Seat.empty events := by
  -- the induction is on the events, from any seat without orphans
  have hgeneral : ∀ (events : List Event) (start : Seat), NoOrphan start →
      ((∀ seat, Visits P start events seat → NoOrphan seat)
        ↔ Throughout P (Covered P) start events) := by
    intro events
    induction events with
    | nil =>
      intro start hstart
      refine iff_of_true ?_ trivial
      intro seat hvisits
      cases hvisits
      exact hstart
    | cons event events ih =>
      intro start hstart
      constructor
      · intro hall next hstep
        have hnext := hall next (.later hstep (.here next events))
        refine ⟨(noOrphan_step_iff hstart hstep).mp hnext, (ih next hnext).mp ?_⟩
        intro seat hvisits
        exact hall seat (.later hstep hvisits)
      · intro hthroughout seat hvisits
        cases hvisits with
        | here => exact hstart
        | later hstep hvisits =>
          obtain ⟨hcovered, hrest⟩ := hthroughout _ hstep
          have hnext := (noOrphan_step_iff hstart hstep).mpr hcovered
          exact (ih _ hnext).mpr hrest seat hvisits
  apply hgeneral events Seat.empty
  intro taskId r hget
  cases hget

/-- A restart while a task is worked on. -/
theorem orphan_after_restart : ¬ ∀ events seat,
    Visits Platform.verbatim Seat.empty events seat → NoOrphan seat := by
  intro hall
  have hstate : (((Seat.empty.sendMessage sampleMessage "t-2" "" .whole).2.step Platform.verbatim
      .restart).map fun seat => ((seat.store.get "t-1").map (·.state), seat.workers))
      = some (some .working, []) := by
    decide +kernel
  obtain ⟨restarted, hrestart, hseat⟩ := Option.map_eq_some_iff.mp hstate
  obtain ⟨hworking, hworkers⟩ := Prod.mk.injEq .. ▸ hseat
  obtain ⟨r, hget, hr⟩ := Option.map_eq_some_iff.mp hworking
  have hnone := hall [.sendMessage sampleMessage "t-2" "" .whole, .restart] restarted
    (.later rfl (.later hrestart (.here _ _)))
  obtain ⟨worker, hworker, -⟩ := hnone "t-1" r hget hr
  rw [hworkers] at hworker
  cases hworker

end Quinte.Pi
