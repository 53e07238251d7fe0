import Mathlib
import Quinte.Framework.JsonAccess
import Quinte.Framework.JsonText
import Quinte.Framework.Pool
import Quinte.Model.Types

/-! # Calls to A2A seats

    `execute_a2a_call_signaled` of `adapters.rs`: a client thread takes a slot
    of the gate, sends its message, polls the task and gives the slot back.
    The seat works on the task on its own.  The gate counts its holders; here
    they are listed.

    * `safe_executeA2aCall`: what a client thread does to the gate;
    * `seat_work_bounded`: how many tasks the seats work on at once.
-/

namespace Quinte.Run

open Program

/-! ### The limit -/

/-- `str::parse::<usize>`. -/
def parseUsize (s : String) : Option Nat :=
  let digits : List Char := match s.toList with
    | '+' :: rest => rest
    | chars => chars
  let n := digits.foldl (fun n c => 10 * n + (c.toNat - '0'.toNat)) 0
  if digits ≠ [] ∧ digits.all Char.isDigit ∧ n < 2 ^ 64 then some n else none

/-- `a2a_concurrency_limit`, given `QUINTE_A2A_CONCURRENCY`. -/
def a2aConcurrencyLimit (setting : Option String) : Nat :=
  match setting.bind fun raw => parseUsize (trim raw) with
  | some n => max 1 (min n 8)
  | none => 2

/-- The limit of the gate, `CountingGate::new`. -/
def gateLimit (setting : Option String) : Nat := max 1 (a2aConcurrencyLimit setting)

theorem gateLimit_eq (setting : Option String) :
    gateLimit setting = a2aConcurrencyLimit setting := by
  unfold gateLimit a2aConcurrencyLimit
  split <;> omega

/-! ### Clients and seats -/

/-- A client thread. -/
abbrev Thread := Nat

/-- A task at a seat, and the thread whose message started it. -/
structure SeatTask where
  taskId : String
  owner : Thread
  working : Bool
  deriving DecidableEq

structure Seats where
  /-- who holds a slot of the gate -/
  holders : List Thread
  /-- who holds a slot and has not sent its message yet -/
  ready : List Thread
  /-- whose message is on its way -/
  inFlight : List Thread
  tasks : List SeatTask
  deriving DecidableEq

namespace Seats

def initial : Seats where
  holders := []
  ready := []
  inFlight := []
  tasks := []

/-- `CountingGate::acquire`. -/
def acquire (me : Thread) (s : Seats) : Seats :=
  { s with holders := me :: s.holders, ready := me :: s.ready }

/-- `GateSlot::drop`. -/
def release (me : Thread) (s : Seats) : Seats :=
  { s with holders := s.holders.erase me, ready := s.ready.erase me }

/-- The message of a thread leaves. -/
def send (me : Thread) (s : Seats) : Seats :=
  { s with ready := s.ready.erase me, inFlight := me :: s.inFlight }

/-- A seat starts the task of a message. -/
def accept (owner : Thread) (taskId : String) (s : Seats) : Seats :=
  { s with
    inFlight := s.inFlight.erase owner
    tasks := { taskId, owner, working := true } :: s.tasks }

/-- A message is lost, or refused. -/
def lose (owner : Thread) (s : Seats) : Seats :=
  { s with inFlight := s.inFlight.erase owner }

/-- A seat records how its tasks of this id ended. -/
def record (taskId : String) (s : Seats) : Seats :=
  { s with
    tasks := s.tasks.map fun t => if t.taskId = taskId then { t with working := false } else t }

/-- The threads on whose tasks the seats work. -/
def atWork (s : Seats) : List Thread := (s.tasks.filter (·.working)).map (·.owner)

/-- The message of this thread is on its way, or its task is being worked on. -/
def Pending (me : Thread) (s : Seats) : Prop := me ∈ s.inFlight ∨ me ∈ s.atWork

instance (me : Thread) (s : Seats) : Decidable (Pending me s) := by
  unfold Pending
  infer_instance

end Seats

/-! ### The call -/

/-- What comes back of a request, and whether the deadline has passed by then. -/
structure SeatAnswer where
  reply : Except String Json
  late : Bool

structure A2aCall where
  contextId : String
  parts : List Json
  timeoutSeconds : Nat

structure ChatCompletionsOutcome where
  stdout : Json.Text
  stderr : String
  exitCode : Option Nat
  timedOut : Bool
  outputLimitExceeded : Bool

inductive SeatTaskState where
  | inProgress | completed | failed
  deriving DecidableEq

/-- `classify_seat_state`. -/
def classifySeatState (raw : String) : Option SeatTaskState :=
  let normalized := (trim raw).toList.map Char.toLower
  let name := if "task_state_".toList.isPrefixOf normalized then normalized.drop 11 else normalized
  if name = "working".toList ∨ name = "submitted".toList then some .inProgress
  else if name = "completed".toList then some .completed
  else if name = "failed".toList ∨ name = "canceled".toList ∨ name = "rejected".toList then
    some .failed
  else none

/-- The step `/0` of a pointer. -/
def firstOf : Json → Option Json
  | .arr items => items.head?
  | v => v.get "0"

/-- `reply.pointer("/result/artifacts/0/parts/0/data")`. -/
def replyArtifact (reply : Json) : Option Json :=
  ((((((reply.get "result").bind (·.get "artifacts")).bind firstOf).bind (·.get "parts")).bind
    firstOf).bind (·.get "data"))

/-- The message of an error, or a default. -/
def errorMessage (reply : Json) (default : String) : String :=
  (((reply.get "error").bind (·.get "message")).bind Json.asStr).getD default

abbrev Call (α : Type) := Prog Seats SeatAnswer String α

/-- The outcome of a task that is still in progress at the deadline. -/
def overdue (call : A2aCall) (taskId : String) : ChatCompletionsOutcome where
  stdout := []
  stderr := "a2a seat task " ++ taskId ++ " did not reach a terminal state within "
    ++ toString call.timeoutSeconds ++ "s"
  exitCode := none
  timedOut := true
  outputLimitExceeded := false

/-- One round of the loop over `GetTask`; `wait` goes on with a task that is in
    progress. -/
def pollOnce (maxOutputBytes : Nat) (taskId : String)
    (wait : Bool → Call ChatCompletionsOutcome) : Call ChatCompletionsOutcome := do
  let answer ← Prog.answer id
  let reply ← Prog.ofExcept answer.reply
  Prog.ensure (reply.get "error").isNone
    ("seat GetTask error: " ++ errorMessage reply "unspecified")
  match (((reply.get "result").bind (·.get "status")).bind (·.get "state")).bind Json.asStr with
  | none => Prog.throw "GetTask result carries no status.state"
  | some state => match classifySeatState state with
    | some .inProgress => wait answer.late
    | some .completed => match replyArtifact reply with
      | none => Prog.throw "completed seat task carries no artifact"
      | some artifact =>
          let stdout := Json.write Json.compact 0 artifact
          return {
            stdout := stdout
            stderr := ""
            exitCode := some 0
            timedOut := false
            outputLimitExceeded := decide (maxOutputBytes < (String.ofList stdout).utf8ByteSize) }
    | some .failed =>
        let error := (((reply.get "result").bind (·.get "error")).bind Json.asStr).getD
          "seat task failed without an error detail"
        Prog.throw ("a2a seat task " ++ taskId ++ " failed: " ++ error)
    | none =>
        Prog.throw ("a2a seat task " ++ taskId ++ " reported unknown state '" ++ state ++ "'")

/-- The loop over `GetTask`. It sleeps two seconds between two requests, so that
    the deadline has passed when no rounds are left. -/
def pollTask (call : A2aCall) (maxOutputBytes : Nat) (taskId : String) :
    Nat → Call ChatCompletionsOutcome
  | 0 => pollOnce maxOutputBytes taskId fun _ => return overdue call taskId
  | rounds + 1 => pollOnce maxOutputBytes taskId fun late =>
      if late then return overdue call taskId else pollTask call maxOutputBytes taskId rounds

/-- `execute_a2a_call_inner`. -/
def executeA2aCallInner (me : Thread) (call : A2aCall) (maxOutputBytes : Nat) :
    Call ChatCompletionsOutcome := do
  Prog.modify (Seats.send me)
  let answer ← Prog.answer id
  let reply ← Prog.ofExcept answer.reply
  Prog.ensure (reply.get "error").isNone
    ("seat rejected SendMessage: " ++ errorMessage reply "unspecified")
  match ((reply.get "result").bind (·.get "id")).bind Json.asStr with
  | none => Prog.throw "SendMessage result carries no task id"
  | some taskId => pollTask call maxOutputBytes taskId (max 1 call.timeoutSeconds / 2 + 1)

/-- `execute_a2a_call_signaled`, behind a gate with this many slots. -/
def executeA2aCall (limit : Nat) (me : Thread) (call : A2aCall) (maxOutputBytes : Nat) :
    Call ChatCompletionsOutcome :=
  Prog.bracket (Prog.await (fun s => s.holders.length < limit) (Seats.acquire me))
    (Prog.modify (Seats.release me)) do
      let result ← (executeA2aCallInner me call maxOutputBytes).attempt
      match result with
      | .ok outcome => return outcome
      | .error error => return {
          stdout := []
          stderr := "a2a seat transport failed: " ++ error
          exitCode := some 1
          timedOut := false
          outputLimitExceeded := false }

/-- What runs at any time: calls, of which an attempt starts one and may stop
    waiting for it, and what happens to messages and tasks at the seats. -/
inductive Activity (limit : Nat) (me : Thread) : Call Unit → Prop where
  | call (call : A2aCall) (maxOutputBytes : Nat) :
      Activity limit me (executeA2aCall limit me call maxOutputBytes >>= fun _ => pure ())
  | accept (owner : Thread) (taskId : String) :
      Activity limit me
        (Prog.await (fun s => s.inFlight.contains owner) (Seats.accept owner taskId))
  | lose (owner : Thread) : Activity limit me (Prog.modify (Seats.lose owner))
  | record (taskId : String) : Activity limit me (Prog.modify (Seats.record taskId))

/-! ### What a thread does to the gate -/

/-- The steps of a thread. -/
inductive SeatMove (limit : Nat) (me : Thread) : Seats → Seats → Prop where
  | stay (s : Seats) : SeatMove limit me s s
  | acquire (s : Seats) (h : s.holders.length < limit) : SeatMove limit me s (s.acquire me)
  | release (s : Seats) : SeatMove limit me s (s.release me)
  | send (s : Seats) (h : me ∈ s.ready) : SeatMove limit me s (s.send me)
  | accept (s : Seats) (owner : Thread) (taskId : String) (h : owner ∈ s.inFlight) :
      SeatMove limit me s (s.accept owner taskId)
  | lose (s : Seats) (owner : Thread) : SeatMove limit me s (s.lose owner)
  | record (s : Seats) (taskId : String) : SeatMove limit me s (s.record taskId)

/-- The gate has no more holders than slots. A thread that dies gives its slot back. -/
def seatProtocol (limit : Nat) : Protocol Thread Seats where
  inv s := s.holders.length ≤ limit
  guar := SeatMove limit
  crash := Seats.release

theorem seatProtocol_lawful (limit : Nat) : (seatProtocol limit).Lawful where
  guar_refl _ s := SeatMove.stay s
  guar_inv me s s' hinv hmove := by
    have hle : s.holders.length ≤ limit := hinv
    show s'.holders.length ≤ limit
    cases hmove with
    | stay => exact hle
    | acquire h => exact h
    | release => exact List.length_erase_le.trans hle
    | send h => exact hle
    | accept owner taskId h => exact hle
    | lose owner => exact hle
    | record taskId => exact hle
  crash_inv me s hinv := List.length_erase_le.trans hinv

section safety

variable {limit : Nat} {me : Thread} {s s' : Seats}

/-- The others leave alone that a thread has yet to send its message. -/
theorem ready_rely (h : me ∈ s.ready) (hrely : (seatProtocol limit).Rely me s s') :
    me ∈ s'.ready := by
  induction hrely with
  | refl => exact h
  | tail _ hstep ih =>
    obtain ⟨q, hq, -, hmove | rfl⟩ := hstep
    · cases hmove with
      | stay | accept | lose | record => exact ih
      | acquire => exact List.mem_cons_of_mem _ ih
      | release => exact (List.mem_erase_of_ne hq.symm).mpr ih
      | send => exact (List.mem_erase_of_ne hq.symm).mpr ih
    · exact (List.mem_erase_of_ne hq.symm).mpr ih

variable {Q : Except String ChatCompletionsOutcome → Seats → Prop}

theorem safe_pollOnce (hQ : ∀ r t, Q r t) {maxOutputBytes : Nat} {taskId : String}
    {wait : Bool → Call ChatCompletionsOutcome}
    (hwait : ∀ late s, Safe (seatProtocol limit) me Q (wait late) s) :
    Safe (seatProtocol limit) me Q (pollOnce maxOutputBytes taskId wait) s := by
  unfold pollOnce
  apply Safe.answer
  intro answer
  cases answer.reply with
  | error message => exact Safe.throw fun t _ => hQ _ t
  | ok reply =>
    apply Safe.ensure
    · intro _
      split
      · exact Safe.throw fun t _ => hQ _ t
      · split
        · exact hwait _ _
        · split
          · exact Safe.throw fun t _ => hQ _ t
          · exact Safe.pure fun t _ => hQ _ t
        · exact Safe.throw fun t _ => hQ _ t
        · exact Safe.throw fun t _ => hQ _ t
    · intro _ t _
      exact hQ _ t

theorem safe_pollTask (hQ : ∀ r t, Q r t) (call : A2aCall) (maxOutputBytes : Nat)
    (taskId : String) (rounds : Nat) :
    Safe (seatProtocol limit) me Q (pollTask call maxOutputBytes taskId rounds) s := by
  induction rounds generalizing s with
  | zero =>
    apply safe_pollOnce hQ
    intro late t
    exact Safe.pure fun t _ => hQ _ t
  | succ rounds ih =>
    apply safe_pollOnce hQ
    intro late t
    cases late with
    | true => exact Safe.pure fun t _ => hQ _ t
    | false => exact ih

/-- A call sends one message, and only reads after that. -/
theorem safe_executeA2aCallInner (hQ : ∀ r t, Q r t) (hready : me ∈ s.ready) (call : A2aCall)
    (maxOutputBytes : Nat) :
    Safe (seatProtocol limit) me Q (executeA2aCallInner me call maxOutputBytes) s := by
  unfold executeA2aCallInner
  apply Safe.modify
  intro s' hrely _
  refine ⟨SeatMove.send s' (ready_rely hready hrely), ?_⟩
  apply Safe.answer
  intro answer
  cases answer.reply with
  | error message => exact Safe.throw fun t _ => hQ _ t
  | ok reply =>
    apply Safe.ensure
    · intro _
      split
      · exact Safe.throw fun t _ => hQ _ t
      · exact safe_pollTask hQ call maxOutputBytes _ _
    · intro _ t _
      exact hQ _ t

theorem safe_executeA2aCall (call : A2aCall) (maxOutputBytes : Nat) :
    Safe (seatProtocol limit) me (fun _ _ => True) (executeA2aCall limit me call maxOutputBytes)
      s := by
  unfold executeA2aCall
  apply Safe.bracket
  intro s' _ _ hfree
  refine ⟨SeatMove.acquire s' (of_decide_eq_true hfree), ?_⟩
  have hready : me ∈ (s'.acquire me).ready := List.mem_cons_self
  -- whatever the call ends with, the slot is given back
  apply Safe.bind
  apply Safe.attempt
  refine safe_executeA2aCallInner ?_ hready call maxOutputBytes
  intro r t
  cases r with
  | ok outcome => exact Safe.pure fun t _ t' _ _ => ⟨SeatMove.release t', fun _ _ => trivial⟩
  | error message => exact Safe.pure fun t _ t' _ _ => ⟨SeatMove.release t', fun _ _ => trivial⟩

theorem safe_activity {p : Call Unit} (h : Activity limit me p) :
    Safe (seatProtocol limit) me (fun _ _ => True) p s := by
  cases h with
  | call call maxOutputBytes =>
    apply Safe.bind
    refine (safe_executeA2aCall call maxOutputBytes).mono ?_
    intro r t _
    cases r with
    | ok outcome => exact Safe.pure fun _ _ => trivial
    | error message => trivial
  | accept owner taskId =>
    intro s' _ _ hmem
    exact ⟨SeatMove.accept s' owner taskId (by simpa using hmem), fun _ _ => trivial⟩
  | lose owner =>
    apply Safe.modify_end
    intro s' _ _
    exact ⟨SeatMove.lose s' owner, fun _ _ => trivial⟩
  | record taskId =>
    apply Safe.modify_end
    intro s' _ _
    exact ⟨SeatMove.record s' taskId, fun _ _ => trivial⟩

end safety

/-! ### The bound -/

/-- No thread gives its slot back while its message is on its way or its task
    is being worked on. -/
def SlotKept (s s' : Seats) : Prop :=
  ∀ me, Seats.Pending me s → s.holders.count me ≤ s'.holders.count me

instance (s s' : Seats) : Decidable (SlotKept s s') :=
  decidable_of_iff (∀ me ∈ s.inFlight ++ s.atWork, s.holders.count me ≤ s'.holders.count me)
    ⟨fun h me hme => h me (List.mem_append.mpr hme), fun h me hme => h me (List.mem_append.mp hme)⟩

/-- Whoever has yet to send a message, has one on its way or has a task that is
    worked on holds a slot for each of these. -/
def Slotted (s : Seats) : Prop :=
  ∀ t, s.ready.count t + s.inFlight.count t + s.atWork.count t ≤ s.holders.count t

section bound

variable {limit : Nat} {me : Thread} {s s' : Seats}

theorem count_atWork_record (taskId : String) (s : Seats) (t : Thread) :
    (s.record taskId).atWork.count t ≤ s.atWork.count t := by
  obtain ⟨holders, ready, inFlight, tasks⟩ := s
  unfold Seats.record Seats.atWork
  dsimp only
  induction tasks with
  | nil => simp
  | cons task tasks ih =>
    rw [List.map_cons, List.filter_cons, List.filter_cons]
    by_cases hid : task.taskId = taskId
    · rw [if_pos hid, if_neg (by simp)]
      split
      · rw [List.map_cons, List.count_cons]
        omega
      · exact ih
    · rw [if_neg hid]
      split
      · rw [List.map_cons, List.map_cons, List.count_cons, List.count_cons]
        omega
      · exact ih

theorem slotted_release (hslotted : Slotted s) (hkept : SlotKept s (s.release me)) :
    Slotted (s.release me) := by
  intro t
  have hbefore := hslotted t
  show (s.ready.erase me).count t + s.inFlight.count t + s.atWork.count t
    ≤ (s.holders.erase me).count t
  rw [List.count_erase, List.count_erase]
  by_cases ht : me = t
  · subst ht
    by_cases hpending : Seats.Pending me s
    · -- a pending thread holds a slot, and it would have kept it
      have hslot : s.holders.count me ≤ (s.holders.erase me).count me := hkept me hpending
      have hpositive : 0 < s.inFlight.count me + s.atWork.count me := by
        rcases hpending with hflight | hwork
        · have hcount := List.count_pos_iff.mpr hflight
          omega
        · have hcount := List.count_pos_iff.mpr hwork
          omega
      rw [List.count_erase_self] at hslot
      omega
    · have hflight : s.inFlight.count me = 0 :=
        List.count_eq_zero.mpr fun h => hpending (Or.inl h)
      have hwork : s.atWork.count me = 0 := List.count_eq_zero.mpr fun h => hpending (Or.inr h)
      simp only [BEq.rfl, if_true]
      omega
  · have hne : (me == t) = false := beq_false_of_ne ht
    rw [hne]
    simpa using hbefore

/-- **One step** in which no slot is given back too early. -/
theorem SeatMove.slotted (hmove : SeatMove limit me s s') (hslotted : Slotted s)
    (hkept : SlotKept s s') : Slotted s' := by
  cases hmove with
  | stay => exact hslotted
  | release => exact slotted_release hslotted hkept
  -- a slot more is held, and is ready
  | acquire h =>
    intro t
    have hbefore := hslotted t
    show (me :: s.ready).count t + s.inFlight.count t + s.atWork.count t
      ≤ (me :: s.holders).count t
    rw [List.count_cons, List.count_cons]
    omega
  -- the same slot, no longer ready but in flight
  | send h =>
    intro t
    have hbefore := hslotted t
    show (s.ready.erase me).count t + (me :: s.inFlight).count t + s.atWork.count t
      ≤ s.holders.count t
    rw [List.count_cons, List.count_erase]
    by_cases ht : me = t
    · subst ht
      have hpositive := List.count_pos_iff.mpr h
      simp only [BEq.rfl, if_true]
      omega
    · have hne : (me == t) = false := beq_false_of_ne ht
      rw [hne]
      simpa using hbefore
  -- the same slot, no longer in flight but at work
  | accept owner taskId h =>
    intro t
    have hbefore := hslotted t
    show s.ready.count t + (s.inFlight.erase owner).count t + (owner :: s.atWork).count t
      ≤ s.holders.count t
    rw [List.count_cons, List.count_erase]
    by_cases ht : owner = t
    · subst ht
      have hpositive := List.count_pos_iff.mpr h
      simp only [BEq.rfl, if_true]
      omega
    · have hne : (owner == t) = false := beq_false_of_ne ht
      rw [hne]
      simpa using hbefore
  -- an answer that is lost leaves the slot with its holder
  | lose owner =>
    intro t
    have hbefore := hslotted t
    have hfewer : (s.inFlight.erase owner).count t ≤ s.inFlight.count t :=
      List.erase_sublist.count_le t
    show s.ready.count t + (s.inFlight.erase owner).count t + s.atWork.count t
      ≤ s.holders.count t
    omega
  | record taskId =>
    intro t
    have hbefore := hslotted t
    have hfewer := count_atWork_record taskId s t
    show s.ready.count t + s.inFlight.count t + (s.record taskId).atWork.count t
      ≤ s.holders.count t
    omega

theorem Slotted.length_le (h : Slotted s) : s.atWork.length ≤ s.holders.length := by
  have hsub : s.atWork.Subperm s.holders := by
    rw [List.subperm_ext_iff]
    intro t _
    have hcount := h t
    omega
  exact hsub.length_le

end bound

/-- **Work in flight is bounded** along every run of calls, seats and the
    network in which no thread gives its slot back while its message is on its
    way or its task is being worked on. -/
theorem seat_work_bounded (setting : Option String) (c : Pool Thread Seats SeatAnswer String)
    (hrun : Pool.Run Seats.release (Activity (gateLimit setting)) (fun _ s s' => SlotKept s s')
      (Pool.idle Seats.initial) c) :
    (c.shared.tasks.filter (·.working)).length ≤ a2aConcurrencyLimit setting := by
  have hlawful := seatProtocol_lawful (gateLimit setting)
  have hidle : Pool.Sound (seatProtocol (gateLimit setting))
      (Pool.idle Seats.initial : Pool Thread Seats SeatAnswer String) :=
    Pool.sound_idle (Nat.zero_le _)
  have hmenu : ∀ me p s, Activity (gateLimit setting) me p →
      (seatProtocol (gateLimit setting)).inv s →
      Safe (seatProtocol (gateLimit setting)) me (fun _ _ => True) p s :=
    fun _ _ _ h _ => safe_activity h
  have hsound := Pool.run_sound hlawful hmenu hrun hidle
  -- each step keeps the slots, as long as it does not drop one that is at work
  have hslotted : Slotted c.shared := by
    apply Pool.run_invariant hlawful hmenu ?_ hrun hidle ?_
    · intro l s s' _ hslotted hallowed hkept
      cases l with
      | start me | finish me =>
        obtain rfl : s' = s := hallowed
        exact hslotted
      | move me => exact SeatMove.slotted hallowed hslotted hkept
      | crash me =>
        obtain rfl : s' = s.release me := hallowed
        exact slotted_release hslotted hkept
    · intro t
      simp [Pool.idle, Seats.initial, Seats.atWork]
  -- tasks at work are no more than slots that are held
  have hholders : c.shared.holders.length ≤ gateLimit setting := hsound.1
  have hwork := hslotted.length_le
  unfold Seats.atWork at hwork
  rw [List.length_map] at hwork
  rw [gateLimit_eq] at hholders
  omega

/-! ### One run of each kind -/

/-- A call that waits for one second. -/
def sampleCall : A2aCall where
  contextId := "lane"
  parts := []
  timeoutSeconds := 1

/-- The reply to a message. -/
def startedReply : SeatAnswer where
  reply := .ok (.obj [("result", .obj [("id", .str "task")])])
  late := false

/-- The reply to a poll. -/
def stateReply (state : String) (late : Bool) : SeatAnswer where
  reply := .ok (.obj [("result", .obj [("status", .obj [("state", .str state)])])])
  late := late

/-- Client `me` sends its message behind a gate with one slot, and the seat
    starts the task in thread `seat`. -/
def messaging (me seat : Thread) : List (Pool.Command Thread Seats SeatAnswer String) :=
  [.start me (executeA2aCall 1 me sampleCall 0 >>= fun _ => pure ()),
    .move me startedReply, .move me startedReply,
    .start seat (Prog.await (fun s => s.inFlight.contains me) (Seats.accept me "task")),
    .move seat startedReply, .move me startedReply]

theorem messaging_within (me seat : Thread) :
    ∀ x ∈ messaging me seat, x.Within (Activity (gateLimit (some "1"))) := by
  have hone : gateLimit (some "1") = 1 := by decide
  rw [hone]
  intro x hx
  simp only [messaging, List.mem_cons, List.not_mem_nil, or_false] at hx
  rcases hx with rfl | rfl | rfl | rfl | rfl | rfl
  · exact Activity.call sampleCall 0
  · trivial
  · trivial
  · exact Activity.accept me "task"
  · trivial
  · trivial

/-- The pool after a schedule. -/
def served (ok : Pool.Label Thread → Seats → Seats → Prop) [∀ l s s', Decidable (ok l s s')]
    (xs : List (Pool.Command Thread Seats SeatAnswer String)) :
    Option (Pool Thread Seats SeatAnswer String) :=
  Pool.schedule ok Seats.release xs (Pool.idle Seats.initial)

/-- A client stops polling at its deadline while the seat goes on working: the
    next client finds the slot free. -/
theorem seat_work_exceeds :
    ¬ ∀ (setting : Option String) (c : Pool Thread Seats SeatAnswer String),
      Pool.Run Seats.release (Activity (gateLimit setting)) (fun _ _ _ => True)
        (Pool.idle Seats.initial) c →
      (c.shared.tasks.filter (·.working)).length ≤ a2aConcurrencyLimit setting := by
  intro hall
  let xs := messaging 0 2 ++ [.move 0 (stateReply "working" true), .move 0 startedReply]
    ++ messaging 1 3
  have hrun : (served (fun _ _ _ => True) xs).any (fun c =>
      (c.shared.tasks.filter (·.working)).length == 2) = true := by
    decide +kernel
  obtain ⟨c, hc, htwo⟩ := (Option.any_eq_true _ _).mp hrun
  have hxs : ∀ x ∈ xs, x.Within (Activity (gateLimit (some "1"))) := by
    intro x hx
    rcases List.mem_append.mp hx with hx | hx
    · rcases List.mem_append.mp hx with hx | hx
      · exact messaging_within 0 2 x hx
      · simp only [List.mem_cons, List.not_mem_nil, or_false] at hx
        rcases hx with rfl | rfl <;> trivial
    · exact messaging_within 1 3 x hx
  have hle := hall (some "1") c (Pool.run_of_schedule _ Pool.Run.refl hxs hc)
  have hlimit : a2aConcurrencyLimit (some "1") = 1 := by decide
  have hworking : (c.shared.tasks.filter (·.working)).length = 2 := eq_of_beq htwo
  omega

theorem seat_work_bounded_sample :
    ∃ c : Pool Thread Seats SeatAnswer String, (c.shared.tasks.filter (·.working)).length = 1 ∧
      (c.shared.tasks.filter (·.working)).length ≤ a2aConcurrencyLimit (some "1") := by
  have hrun : (served (fun _ s s' => SlotKept s s') (messaging 0 2)).any (fun c =>
      (c.shared.tasks.filter (·.working)).length == 1) = true := by
    decide +kernel
  obtain ⟨c, hc, hone⟩ := (Option.any_eq_true _ _).mp hrun
  exact ⟨c, eq_of_beq hone, seat_work_bounded (some "1") c
    (Pool.run_of_schedule _ Pool.Run.refl (messaging_within 0 2) hc)⟩

end Quinte.Run
