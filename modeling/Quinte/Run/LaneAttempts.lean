import Mathlib
import Quinte.Run.Bystanders

/-! # The attempts of a lane

    The programs of one lane keep to its contract: what each step needs of the
    lane and of the pacing, and what it leaves.
-/

namespace Quinte.Run

open Program

/-! ### What the thread of a lane knows -/

/-- The pacing as the thread of a lane sees it: nothing, unless R2 is serial. -/
structure Pace where
  view : Option PacingView
  stale : Bool

/-- What the thread of a lane owns, and a point in time that has passed. -/
structure Own where
  lane : LaneView
  pace : Pace
  since : Nat

def paceOf (policy : Policy) (phase : String) (l : Lanes) : Pace where
  view := if phase = "R2" ∧ policy.r2Parallel = false then some (pacingView l) else none
  stale := l.stale

def own (policy : Policy) (phase routeId : String) (l : Lanes) (since : Nat) : Own where
  lane := laneView l phase routeId
  pace := paceOf policy phase l
  since := since

/-- A thread of the holder of the run lock, and what it knows of its own. -/
structure Holding (policy : Policy) (me : Pid) (phase routeId : String) (A : Own → Prop)
    (s : RunDir) : Prop where
  held : s.locks .run = some me
  knows : ∃ since ≤ s.clock, A (own policy phase routeId s.toLanes since)

/-- The last call was paced, unless it was not when the lock was taken. -/
def Pace.Ready (p : Pace) : Prop :=
  ∀ v ∈ p.view, p.stale = false → v.unpaced = false

/-- There is no permitted start to wait for. -/
def Pace.Calm (p : Pace) : Prop :=
  ∀ v ∈ p.view, v.state = none

/-- The lane is about to make the attempt `n`. -/
structure LaneView.Next (policy : Policy) (n : Nat) (v : LaneView) : Prop where
  number : n = highestAttempt v.attempts + 1
  budget : n ≤ policy.maxAttempts
  accepted : v.accepted = none

/-- The directory of the attempt `n` is there, and the provider was not called. -/
structure LaneView.Opened (n : Nat) (v : LaneView) : Prop where
  number : n = highestAttempt v.attempts
  opened : n ∈ v.attempts
  fresh : ∀ t ∈ v.calls, t.attempt < n
  deadline : v.deadline = none
  accepted : v.accepted = none

/-- The attempt `n` is over. -/
structure LaneView.Attempted (n : Nat) (v : LaneView) : Prop where
  number : n = highestAttempt v.attempts
  deadline : v.deadline = none
  accepted : v.accepted = none

/-- The output of an attempt is what the adapter returned, as rewritten. -/
def LaneView.Sourced (valid : List String) (n : Nat) (outcome : AttemptOutcome)
    (v : LaneView) : Prop :=
  ∀ output, outcome.output = some (.lane output) → ∃ returned pairs,
    v.stdout n = some (.lane returned) ∧ validateEvidenceRefs valid returned = .ok (output, pairs)

section attempts

variable {inputs : Inputs} {me : Pid} {phase routeId : String} {A B : Own → Prop} {s t : RunDir}

theorem own_eq {policy : Policy} {l l' : Lanes}
    (h : Frame policy (ownParts policy phase routeId) l l') (since : Nat) :
    own policy phase routeId l' since = own policy phase routeId l since := by
  have hlane := h.lane phase routeId (Or.inl rfl)
  by_cases hserial : phase = "R2" ∧ policy.r2Parallel = false
  · have hpacing := h.pacing (Or.inr ⟨rfl, hserial⟩) hserial.2
    simp only [own, paceOf, hlane, h.stale, hpacing]
  · simp only [own, paceOf, hlane, h.stale, if_neg hserial]

namespace Holding

variable {policy : Policy}

theorem mono (h : Holding policy me phase routeId A s) (hA : ∀ o, A o → B o) :
    Holding policy me phase routeId B s := by
  obtain ⟨hheld, since, hle, hknows⟩ := h
  exact ⟨hheld, since, hle, hA _ hknows⟩

/-- What the others do changes nothing of it. -/
theorem rely (h : Holding policy me phase routeId A s)
    (hrely : Kept policy me (ownParts policy phase routeId) s t) :
    Holding policy me phase routeId A t := by
  obtain ⟨hheld, hframe⟩ := hrely h.held
  obtain ⟨-, since, hle, hknows⟩ := h
  refine ⟨hheld, since, hle.trans hframe.clock, ?_⟩
  rw [own_eq hframe]
  exact hknows

end Holding

/-- The contract of the thread of a lane. -/
abbrev laneThread (inputs : Inputs) (me : Pid) (phase routeId : String) : Contract RunDir :=
  laneContract inputs me (ownParts inputs.policy phase routeId)

variable {α β : Type}

variable (inputs me phase routeId) in
/-- A program that keeps to the contract of the thread, and takes it from `A` to
    `B` where it returns. -/
def LaneSpec (A : Own → Prop) (p : Proc α) (B : α → Own → Prop) : Prop :=
  ∀ s, Holding inputs.policy me phase routeId A s →
    Upholds (laneThread inputs me phase routeId)
      (Returns fun a t => Holding inputs.policy me phase routeId (B a) t) p s

namespace LaneSpec

variable {p : Proc α} {f : α → Proc β} {P : α → Own → Prop} {R : β → Own → Prop}

theorem bind (hp : LaneSpec inputs me phase routeId A p P)
    (hf : ∀ a, LaneSpec inputs me phase routeId (P a) (f a) R) :
    LaneSpec inputs me phase routeId A (p >>= f) R :=
  fun s hs => Upholds.then laneContract_lawful (hp s hs) fun a t ht => hf a t ht

theorem pre (hp : LaneSpec inputs me phase routeId B p P) (hA : ∀ o, A o → B o) :
    LaneSpec inputs me phase routeId A p P :=
  fun s hs => hp s (hs.mono hA)

theorem post {P' : α → Own → Prop} (hp : LaneSpec inputs me phase routeId A p P)
    (hP : ∀ a o, P a o → P' a o) : LaneSpec inputs me phase routeId A p P' :=
  fun s hs => (hp s hs).returns fun a _ ht => ht.mono (hP a)

theorem pure (a : α) (hA : ∀ o, A o → P a o) :
    LaneSpec inputs me phase routeId A (.pure a : Proc α) P :=
  fun _ hs _ hrely => (hs.mono hA).rely hrely

theorem throw (e : String) : LaneSpec inputs me phase routeId A (.throw e : Proc α) P :=
  fun _ _ _ _ => trivial

/-- A program that leaves the lanes alone. -/
theorem leaves (hp : Leaves scope p) : LaneSpec inputs me phase routeId A p fun _ => A := by
  intro s hs
  have hkept := hp.upholds (C := laneThread inputs me phase routeId) (fun _ _ => guar_of_scope)
    Kept.refl (fun _ _ _ => Kept.trans) (fun _ _ hrely => hrely) (fun _ _ => Kept.of_scope) s
  refine hkept.mono fun r t ht => ?_
  cases r with
  | ok a => exact hs.rely ht
  | error e => trivial

/-- A value that was computed before. -/
theorem ofExcept (r : Except String α) :
    LaneSpec inputs me phase routeId A (Prog.ofExcept r) fun a o => r = .ok a ∧ A o := by
  cases r with
  | ok a => exact pure a fun o ho => ⟨rfl, ho⟩
  | error e => exact throw e

theorem ensure (b : Bool) (e : String) :
    LaneSpec inputs me phase routeId A (Prog.ensure b e) fun _ o => b = true ∧ A o := by
  cases b with
  | true => exact pure () fun o ho => ⟨rfl, ho⟩
  | false => exact throw e

/-- Reading the inputs. -/
theorem readInputs {g : Inputs → α} : LaneSpec inputs me phase routeId A
    (Prog.read fun s => g s.inputs) fun a o => a = g inputs ∧ A o := by
  intro s hs t hrely hinv _
  refine ⟨laneContract_lawful.guar_refl t, fun u hu => ?_⟩
  have hvalue : g t.inputs = g inputs := congrArg g hinv.1
  exact ((hs.rely hrely).rely hu).mono fun o ho => ⟨hvalue, ho⟩

/-- Reading a file of the thread's own, in a lane that is in order. -/
theorem readLane {g : RunDir → α} {q : Own → α}
    (h : ∀ t since, g t = q (own inputs.policy phase routeId t.toLanes since)) :
    LaneSpec inputs me phase routeId A (Prog.read g) fun a o => a = q o
      ∧ LaneOk inputs.policy (allowedEvidenceRefs inputs.snapshot) phase routeId o.lane ∧ A o := by
  intro s hs t hrely hinv _
  refine ⟨laneContract_lawful.guar_refl t, fun u hu => ?_⟩
  obtain ⟨hheld, since, hle, hknows⟩ := hs.rely hrely
  exact Holding.rely ⟨hheld, since, hle, h t since, hinv.2.2.lane phase routeId, hknows⟩ hu

theorem readOwn {g : RunDir → α} {q : Own → α}
    (h : ∀ t since, g t = q (own inputs.policy phase routeId t.toLanes since)) :
    LaneSpec inputs me phase routeId A (Prog.read g) fun a o => a = q o ∧ A o :=
  (readLane h).post fun _ _ ho => ⟨ho.1, ho.2.2⟩

/-- One step on the parts of the thread. -/
theorem step {update : RunDir → RunDir} {next : RunDir → Proc α} {K : Set Part}
    (haside : ∀ t, aside (update t) = aside t)
    (howned : K ⊆ ownParts inputs.policy phase routeId)
    (hstep : ∀ t, ∀ since ≤ t.clock, A (own inputs.policy phase routeId t.toLanes since) →
      LaneInv inputs.policy (allowedEvidenceRefs inputs.snapshot) t.toLanes →
      LaneStep inputs.policy (allowedEvidenceRefs inputs.snapshot) t.toLanes K
        (update t).toLanes
      ∧ ∃ a, next t = .pure a ∧ ∃ since ≤ (update t).clock,
        P a (own inputs.policy phase routeId (update t).toLanes since)) :
    LaneSpec inputs me phase routeId A (.act (fun _ => true) update next) P := by
  intro s hs t hrely hinv _
  obtain ⟨hheld, since, hle, hknows⟩ := hs.rely hrely
  obtain ⟨hlane, a, hnext, hP⟩ := hstep t since hle hknows hinv.2.2
  have hlock : (update t).locks .run = some me := (congrArg (·.2.1) (haside t)).trans hheld
  refine ⟨⟨haside t, Or.inr ⟨hheld, K, howned, hlane⟩⟩, ?_⟩
  rw [hnext]
  exact fun u hu => Holding.rely ⟨hlock, hP⟩ hu

end LaneSpec

/-! ### Steps of the thread -/

theorem lane_subset_ownParts (policy : Policy) (phase routeId : String) :
    {.lane phase routeId} ⊆ ownParts policy phase routeId :=
  fun _ hx => Or.inl hx

theorem pacing_subset_ownParts {policy : Policy} (hphase : phase = "R2")
    (hserial : policy.r2Parallel = false) : {.pacing} ⊆ ownParts policy phase routeId :=
  fun _ hx => Or.inr ⟨hx, hphase, hserial⟩

/-- `Own` after a change of the lane. -/
def Own.setView (o : Own) (v : LaneView) : Own :=
  { o with lane := v }

/-- `Own` after a change of the pacing. -/
def Own.setPacing (o : Own) (f : PacingView → PacingView) : Own :=
  { o with pace := { o.pace with view := o.pace.view.map f } }

/-- The directory of the next attempt is created. -/
theorem spec_openNext {n timeoutSeconds : Nat} {P : Pace → Prop} : LaneSpec inputs me phase routeId
    (fun o => (o.lane.Next inputs.policy n ∧ o.lane.deadline = none) ∧ P o.pace)
    (openBuilt phase routeId n timeoutSeconds) fun _ o => o.lane.Opened n ∧ P o.pace := by
  refine LaneSpec.step (fun _ => rfl) (lane_subset_ownParts ..) fun t since hle hown hinv => ?_
  obtain ⟨⟨hnext, hdeadline⟩, hpace⟩ := hown
  have hlane := hinv.lane phase routeId
  have hnumber : n = highestAttempt (t.attempts phase routeId) + 1 := hnext.number
  refine ⟨LaneStep.openAttempt phase routeId n
    (Or.inr ⟨hnumber, hnext.budget, hdeadline, hnext.accepted⟩), (), rfl, since, hle, ?_, hpace⟩
  have hview : (own inputs.policy phase routeId { t.toLanes with
        attempts := setLane t.attempts phase routeId (opening (t.attempts phase routeId) n) }
      since).lane = { laneView t.toLanes phase routeId with
        attempts := opening (t.attempts phase routeId) n } := by
    simp [own, laneView, laneCalls]
  refine hview ▸ ⟨?_, mem_opening.mpr (Or.inl rfl), fun u hu => ?_, hdeadline, hnext.accepted⟩
  · rw [hnumber, highestAttempt_opening_next]
  · exact (le_highestAttempt (hlane.opened u hu)).trans_lt (hnumber ▸ Nat.lt_succ_self _)

/-- The directory of an attempt that was opened stays. -/
theorem spec_openAgain {n : Nat} (hA : ∀ o, A o → n ∈ o.lane.attempts) :
    LaneSpec inputs me phase routeId A (openAttempt phase routeId n) fun _ => A := by
  refine LaneSpec.step (fun _ => rfl) (lane_subset_ownParts ..) fun t since hle hown _ => ?_
  have hmem : n ∈ t.attempts phase routeId := hA _ hown
  refine ⟨LaneStep.openAttempt phase routeId n (Or.inl hmem), (), rfl, since, hle, ?_⟩
  simpa [own, paceOf, laneView, laneCalls, pacingView, r2Calls, hmem] using hown

theorem spec_writeStdout {n : Nat} {output : Option AdapterOutput} :
    LaneSpec inputs me phase routeId
      (fun o => o.lane.accepted = none ∧ A (o.setView { o.lane with
        stdout := fun k => if k = n then output else o.lane.stdout k }))
      (writeStdout phase routeId n output) fun _ => A := by
  refine LaneSpec.step (fun _ => rfl) (lane_subset_ownParts ..) fun t since hle hown _ => ?_
  refine ⟨LaneStep.writeStdout phase routeId n output hown.1, (), rfl, since, hle, ?_⟩
  simpa [own, paceOf, Own.setView, laneView, laneCalls, pacingView, r2Calls] using hown.2

theorem spec_writeAccepted {output : LaneOutput} (hparty : phase ≠ "R3") :
    LaneSpec inputs me phase routeId
      (fun o => (∃ returned pairs,
          o.lane.stdout (highestAttempt o.lane.attempts) = some (.lane returned)
          ∧ validateEvidenceRefs (allowedEvidenceRefs inputs.snapshot) returned
            = .ok (output, pairs))
        ∧ A (o.setView { o.lane with accepted := some output }))
      (writeAccepted phase routeId output) fun _ => A := by
  refine LaneSpec.step (fun _ => rfl) (lane_subset_ownParts ..) fun t since hle hown _ => ?_
  obtain ⟨⟨returned, pairs, hlast, hchecked⟩, hA⟩ := hown
  refine ⟨LaneStep.accept phase routeId output returned pairs hparty hlast hchecked, (), rfl,
    since, hle, ?_⟩
  simpa [own, paceOf, Own.setView, laneView, laneCalls, pacingView, r2Calls] using hA

/-- The call of an attempt. -/
theorem spec_startTransport {n timeoutSeconds : Nat} : LaneSpec inputs me phase routeId
    (fun o => o.lane.Opened n ∧ o.pace.Ready ∧ o.pace.Calm)
    (startTransport phase routeId n timeoutSeconds) fun _ o => o.lane.Attempted n := by
  refine LaneSpec.bind (LaneSpec.leaves (leaves_answer _)) fun now => ?_
  refine LaneSpec.step (fun _ => rfl) (K := ownParts inputs.policy phase routeId) subset_rfl
    fun t since hle hown _ => ?_
  obtain ⟨hopened, hready, hcalm⟩ := hown
  have hstart : MayStart inputs.policy t.toLanes phase routeId n := {
    opened := hopened.opened
    fresh := hopened.fresh
    due := hopened.deadline
    paced := fun hphase hserial =>
      have hview : (own inputs.policy phase routeId t.toLanes since).pace.view
          = some (pacingView t.toLanes) := if_pos ⟨hphase, hserial⟩
      ⟨hcalm _ hview, hready _ hview⟩ }
  refine ⟨LaneStep.start phase routeId n timeoutSeconds now hstart, (), rfl, since,
    hle.trans (le_max_left ..), ?_⟩
  exact ⟨hopened.number, hopened.deadline, hopened.accepted⟩

/-- `Utc::now()`, which is after every call of R2. -/
theorem spec_clock (hA : ∀ o since, A o → A { o with since := since }) :
    LaneSpec inputs me phase routeId A Proc.clock fun now o => A o ∧ now ≤ o.since
      ∧ ∀ v ∈ o.pace.view, ∀ t ∈ v.calls, t.time ≤ now := by
  refine LaneSpec.bind (LaneSpec.leaves (leaves_answer _)) fun now => ?_
  refine LaneSpec.step (fun _ => rfl) (K := ∅) (Set.empty_subset _)
    fun t since hle hown hinv => ?_
  refine ⟨LaneStep.tick (max t.clock now) (le_max_left ..), _, rfl, max t.clock now, le_rfl,
    hA _ _ hown, le_rfl, fun v hv u hu => ?_⟩
  simp only [own, paceOf, Option.mem_def, Option.ite_none_right_eq_some, Option.some.injEq] at hv
  obtain ⟨-, rfl⟩ := hv
  have hcall : u ∈ t.started := List.mem_of_mem_filter hu
  exact (hinv.timed.past u hcall).trans (le_max_left ..)

/-! ### Waiting -/

theorem spec_waitCancellable {due : Nat} (hA : ∀ o since, A o → A { o with since := since }) :
    LaneSpec inputs me phase routeId A (waitCancellable due)
      fun cancelled o => A o ∧ (cancelled = false → due ≤ o.since) := by
  refine LaneSpec.step (K := ∅) (fun t => ?_) (Set.empty_subset _) fun t since hle hown _ => ?_
  · split <;> rfl
  · cases hcancel : t.cancelRequested with
    | true =>
      simp only [if_true]
      exact ⟨LaneStep.tick t.clock le_rfl, true, rfl, since, hle, hown, fun h => nomatch h⟩
    | false =>
      simp only [Bool.false_eq_true, if_false]
      exact ⟨LaneStep.tick (max t.clock due) (le_max_left ..), false, rfl, max t.clock due, le_rfl,
        hA _ _ hown, fun _ => le_max_right ..⟩

/-- Waiting ends when the point in time has passed, or in an error. -/
theorem spec_waitUntil {manifest : RunManifest} {now due : Nat}
    (hA : ∀ o since, A o → A { o with since := since }) :
    LaneSpec inputs me phase routeId (fun o => A o ∧ now ≤ o.since)
      (waitUntil me manifest now due) fun _ o => A o ∧ due ≤ o.since := by
  unfold waitUntil
  split
  case isTrue hlt =>
    refine LaneSpec.bind ((spec_waitCancellable hA).pre fun o ho => ho.1) fun cancelled => ?_
    cases cancelled with
    | true => exact LaneSpec.bind (LaneSpec.leaves leaves_cancelRun) fun _ => LaneSpec.throw _
    | false => exact LaneSpec.pure () fun o ho => ⟨ho.1, ho.2 rfl⟩
  case isFalse hlt => exact LaneSpec.pure () fun o ho => ⟨ho.1, (not_lt.mp hlt).trans ho.2⟩

theorem spec_staggered {host : Host} {manifest : RunManifest}
    (hA : ∀ o since, A o → A { o with since := since }) :
    LaneSpec inputs me phase routeId A (staggered me host manifest) fun _ => A := by
  unfold staggered
  split
  · exact LaneSpec.pure _ fun _ => id
  refine LaneSpec.bind (spec_clock hA) fun now => ?_
  refine LaneSpec.bind ((spec_waitCancellable hA).pre fun o ho => ho.1) fun cancelled => ?_
  split
  · refine LaneSpec.bind (LaneSpec.leaves leaves_cancelRun.attempt) fun _ => ?_
    exact LaneSpec.pure _ fun o ho => ho.1
  · exact LaneSpec.pure _ fun o ho => ho.1

theorem spec_removeRetryDeadline : LaneSpec inputs me phase routeId
    (fun o => (∀ d, o.lane.deadline = some d → d.dueAt ≤ o.since)
      ∧ A (o.setView { o.lane with deadline := none }))
    (removeRetryDeadline phase routeId) fun _ => A := by
  refine LaneSpec.step (fun _ => rfl) (lane_subset_ownParts ..) fun t since hle hown _ => ?_
  refine ⟨LaneStep.endWait phase routeId fun d hd => (hown.1 d hd).trans hle, (), rfl, since, hle,
    ?_⟩
  simpa [own, paceOf, Own.setView, laneView, laneCalls, pacingView, r2Calls] using hown.2

/-- **`wait_for_retry_deadline`**: nothing is left to wait for. -/
theorem spec_waitForRetryDeadline {manifest : RunManifest} {route : RoutePolicy} {n : Nat}
    (hroute : route.routeId = routeId) (hA : ∀ o since, A o → A { o with since := since })
    (hview : ∀ o v, A o → v = { o.lane with deadline := none } → A (o.setView v)) :
    LaneSpec inputs me phase routeId A (waitForRetryDeadline me manifest phase route n)
      fun _ o => A o ∧ o.lane.deadline = none := by
  subst hroute
  refine LaneSpec.bind (LaneSpec.readOwn (q := fun o => o.lane.deadline) fun _ _ => rfl)
    fun deadline => ?_
  cases deadline with
  | none => exact LaneSpec.pure () fun o ho => ⟨ho.2, ho.1.symm⟩
  | some d =>
    have hpending : ∀ (o : Own) since, some d = o.lane.deadline ∧ A o →
        some d = ({ o with since := since } : Own).lane.deadline ∧ A { o with since := since } :=
      fun o since ho => ⟨ho.1, hA o since ho.2⟩
    refine LaneSpec.bind (LaneSpec.ensure _ _) fun _ => ?_
    refine LaneSpec.bind ((spec_clock hpending).pre fun o ho => ho.2) fun now => ?_
    refine LaneSpec.bind (LaneSpec.leaves (leaves_event (by decide))) fun _ => ?_
    refine LaneSpec.bind ((spec_waitUntil hpending).pre fun o ho => ⟨ho.1, ho.2.1⟩) fun _ => ?_
    refine spec_removeRetryDeadline.pre fun o ho => ?_
    obtain ⟨⟨hsome, hown⟩, hdue⟩ := ho
    refine ⟨fun d' hd' => ?_, hview o _ hown rfl, rfl⟩
    obtain rfl := Option.some.inj (hsome.trans hd')
    exact hdue

/-! ### Deadlines and pacing -/

theorem spec_persistRetryDeadline {route : RoutePolicy} {n dueAt : Nat} {retry : RetryClass}
    {source : String} {P : Pace → Prop} (hroute : route.routeId = routeId)
    (hbudget : n < inputs.policy.maxAttempts) :
    LaneSpec inputs me phase routeId (fun o => o.lane.Attempted n ∧ P o.pace)
      (persistRetryDeadline phase route n dueAt retry source)
      fun _ o => o.lane.Next inputs.policy (n + 1) ∧ P o.pace := by
  subst hroute
  refine LaneSpec.step (fun _ => rfl) (lane_subset_ownParts ..) fun t since hle hown _ => ?_
  obtain ⟨hover, hpace⟩ := hown
  have hnumber : n = highestAttempt (t.attempts phase route.routeId) := hover.number
  refine ⟨LaneStep.schedule phase route.routeId _ ?_ ?_ hover.deadline, (), rfl, since, hle,
    ⟨?_, hbudget, hover.accepted⟩, hpace⟩
  · simp [RetryDeadlineState.isFor_iff, hnumber]
  · exact hnumber ▸ hbudget
  · exact congrArg (· + 1) hnumber

section pacing

variable {L : LaneView → Prop} (hphase : phase = "R2") (hserial : inputs.policy.r2Parallel = false)
include hphase hserial

theorem own_view (l : Lanes) (since : Nat) :
    (own inputs.policy phase routeId l since).pace.view = some (pacingView l) :=
  if_pos ⟨hphase, hserial⟩

/-- Writing down a later start than the interval asks for paces the calls; any
    other one leaves them as paced as they are. -/
theorem spec_persistR2PacingUntil {route : RoutePolicy} {n requestedDueAt : Nat}
    {reason : String} : LaneSpec inputs me phase routeId
      (fun o => L o.lane ∧ if reason = "inter_call_pacing"
        then ∀ v ∈ o.pace.view, ∀ t ∈ v.calls,
          t.time + inputs.policy.r2MinIntervalSeconds * 1000 ≤ requestedDueAt
        else o.pace.Ready)
      (persistR2PacingUntil route n requestedDueAt reason)
      fun _ o => L o.lane ∧ o.pace.Ready := by
  refine LaneSpec.step (fun _ => rfl) (pacing_subset_ownParts hphase hserial)
    fun t since hle hown _ => ?_
  have hview : (own inputs.policy phase routeId t.toLanes since).pace.view
      = some (pacingView t.toLanes) := own_view hphase hserial t.toLanes since
  obtain ⟨hlane, hpace⟩ := hown
  refine ⟨LaneStep.pace route n requestedDueAt reason fun hreason => ?_, (), rfl, since, hle,
    hlane, fun v hv hstale => ?_⟩
  · rw [if_pos hreason] at hpace
    exact hpace _ hview
  · obtain rfl := Option.some.inj ((own_view hphase hserial _ since).symm.trans hv)
    by_cases hreason : reason = "inter_call_pacing"
    · simp [pacingView, hreason]
    · rw [if_neg hreason] at hpace
      have hunpaced : t.unpaced = false := hpace _ hview hstale
      simp [pacingView, hunpaced]

/-- **`persist_r2_pacing`** after an attempt: its call is paced. -/
theorem spec_persistR2Pacing {route : RoutePolicy} {n : Nat} : LaneSpec inputs me phase routeId
      (fun o => L o.lane)
      (persistR2Pacing route n inputs.policy.r2MinIntervalSeconds "inter_call_pacing")
      fun _ o => L o.lane ∧ o.pace.Ready := by
  refine LaneSpec.bind (spec_clock fun _ _ => id) fun now => ?_
  refine (spec_persistR2PacingUntil hphase hserial).pre fun o ho => ⟨ho.1, ?_⟩
  rw [if_pos rfl]
  exact fun v hv t ht => Nat.add_le_add_right (ho.2.2 v hv t ht) _

theorem spec_removeR2Pacing : LaneSpec inputs me phase routeId
      (fun o => L o.lane ∧ o.pace.Ready
        ∧ ∀ v ∈ o.pace.view, ∀ state, v.state = some state → state.nextAllowedAt ≤ o.since)
      removeR2Pacing fun _ o => L o.lane ∧ o.pace.Ready ∧ o.pace.Calm := by
  refine LaneSpec.step (fun _ => rfl) (pacing_subset_ownParts hphase hserial)
    fun t since hle hown _ => ?_
  have hview : (own inputs.policy phase routeId t.toLanes since).pace.view
      = some (pacingView t.toLanes) := own_view hphase hserial t.toLanes since
  obtain ⟨hlane, hready, hdue⟩ := hown
  refine ⟨LaneStep.endPacing fun state hstate => (hdue _ hview state hstate).trans hle, (), rfl,
    since, hle, hlane, fun v hv hstale => ?_, fun v hv => ?_⟩
  · obtain rfl := Option.some.inj ((own_view hphase hserial _ since).symm.trans hv)
    have hunpaced : t.unpaced = false := hready _ hview hstale
    exact hunpaced
  · obtain rfl := Option.some.inj ((own_view hphase hserial _ since).symm.trans hv)
    rfl

/-- **`wait_for_r2_pacing`**: there is nothing left to wait for. -/
theorem spec_waitForR2Pacing {manifest : RunManifest} {route : RoutePolicy} {n : Nat} :
    LaneSpec inputs me phase routeId (fun o => L o.lane ∧ o.pace.Ready)
      (waitForR2Pacing me manifest route n)
      fun _ o => L o.lane ∧ o.pace.Ready ∧ o.pace.Calm := by
  refine LaneSpec.bind (LaneSpec.readOwn (q := fun o => o.pace.view.bind (·.state))
    fun t since => ?_) fun state => ?_
  · rw [own_view hphase hserial]
    rfl
  cases state with
  | none =>
    refine LaneSpec.pure () fun o ho => ⟨ho.2.1, ho.2.2, fun v hv => ?_⟩
    have hnone := ho.1
    rw [Option.mem_def.mp hv] at hnone
    exact hnone.symm
  | some state =>
    refine LaneSpec.bind (LaneSpec.ensure _ _) fun _ => ?_
    refine LaneSpec.bind ((spec_clock (A := fun o => some state = o.pace.view.bind (·.state)
      ∧ L o.lane ∧ o.pace.Ready) fun _ _ => id).pre fun o ho => ho.2) fun now => ?_
    refine LaneSpec.bind (LaneSpec.leaves (leaves_event (by decide))) fun _ => ?_
    refine LaneSpec.bind ((spec_waitUntil (A := fun o => some state = o.pace.view.bind (·.state)
      ∧ L o.lane ∧ o.pace.Ready) fun _ _ => id).pre fun o ho => ⟨ho.1, ho.2.1⟩) fun _ => ?_
    refine (spec_removeR2Pacing hphase hserial).pre fun o ho => ?_
    obtain ⟨⟨hstate, hlane, hready⟩, hdue⟩ := ho
    refine ⟨hlane, hready, fun v hv state' hstate' => ?_⟩
    rw [Option.mem_def.mp hv, Option.bind_some, hstate'] at hstate
    exact Option.some.inj hstate ▸ hdue

end pacing

/-! ### One attempt -/

theorem spec_build {n timeoutSeconds : Nat} {P : Pace → Prop} : LaneSpec inputs me phase routeId
    (fun o => (o.lane.Next inputs.policy n ∧ o.lane.deadline = none) ∧ P o.pace)
    (build phase routeId n timeoutSeconds) fun _ o => o.lane.Opened n ∧ P o.pace := by
  refine LaneSpec.bind (LaneSpec.leaves (leaves_answer _)) fun answer => ?_
  cases answer with
  | unavailable e => exact LaneSpec.throw e
  | failed e => exact LaneSpec.bind spec_openNext fun _ => LaneSpec.throw e
  | built => exact spec_openNext

theorem LaneView.Opened.attempted {n : Nat} {v : LaneView} (h : v.Opened n) : v.Attempted n :=
  ⟨h.number, h.deadline, h.accepted⟩

/-- An execution starts at most one call, that of its attempt; one that does not
    start yields nothing. -/
theorem spec_execute {n timeoutSeconds : Nat} : LaneSpec inputs me phase routeId
    (fun o => o.lane.Opened n ∧ o.pace.Ready ∧ o.pace.Calm)
    (execute me phase routeId n timeoutSeconds) fun _ o => o.lane.Attempted n := by
  refine LaneSpec.bind (LaneSpec.leaves (leaves_answer _)) fun process => ?_
  cases process with
  | none =>
    refine LaneSpec.bind spec_startTransport fun _ => ?_
    refine LaneSpec.bind (LaneSpec.leaves (leaves_answer _)) fun execution => ?_
    exact (LaneSpec.ofExcept execution).post fun _ _ ho => ho.2
  | some process =>
    refine LaneSpec.bind (LaneSpec.leaves leaves_registerProcess) fun registered => ?_
    cases registered with
    | false => exact LaneSpec.pure _ fun o ho => ho.1.attempted
    | true =>
      refine LaneSpec.bind spec_startTransport fun _ => ?_
      refine LaneSpec.bind (LaneSpec.leaves (leaves_answer _)) fun execution => ?_
      refine LaneSpec.bind (LaneSpec.leaves leaves_removeActiveProcess) fun _ => ?_
      exact (LaneSpec.ofExcept execution).post fun _ _ ho => ho.2

/-- An output that passes the checks of an attempt is what they make of the
    execution's. -/
theorem attemptOutcome_output {valid : List String} {execution : Execution} {output : LaneOutput}
    (h : (attemptOutcome valid execution).output = some (.lane output)) :
    ∃ returned pairs, execution.output = some (.lane returned)
      ∧ validateEvidenceRefs valid returned = .ok (output, pairs) := by
  unfold attemptOutcome at h
  cases hcleanup : execution.cleanupError with
  | some message => simp [hcleanup] at h
  | none =>
    cases hexecution : execution.output with
    | none => simp [hcleanup, hexecution] at h
    | some raw =>
      cases raw with
      | lane returned =>
        cases hvalid : validateEvidenceRefs valid returned with
        | error e => simp [hcleanup, hexecution, validateOutput, hvalid, Except.map] at h
        | ok checked =>
          have hchecked : checked.1 = output := by
            simpa [hcleanup, hexecution, validateOutput, hvalid, Except.map] using h
          exact ⟨returned, checked.2, rfl, hchecked ▸ hvalid⟩
      | arbiter verdict =>
        cases hvalid : validateArbiterSemantics valid verdict <;>
          simp [hcleanup, hexecution, validateOutput, hvalid, Except.map] at h

/-- **`run_attempt`**: the attempt is over, and an output it has is what the
    adapter returned, as rewritten. -/
theorem spec_runAttempt {manifest : RunManifest} {route : RoutePolicy} {n timeoutSeconds
    maxAttempts : Nat} (hroute : route.routeId = routeId) : LaneSpec inputs me phase routeId
      (fun o => o.lane.Opened n ∧ o.pace.Ready ∧ o.pace.Calm)
      (runAttempt me manifest route phase n timeoutSeconds maxAttempts)
      fun outcome o => o.lane.Attempted n
        ∧ o.lane.Sourced (allowedEvidenceRefs inputs.snapshot) n outcome := by
  subst hroute
  refine LaneSpec.bind (LaneSpec.leaves (leaves_read _)) fun cancelled => ?_
  split
  · exact LaneSpec.pure _ fun o ho => ⟨ho.1.attempted, fun output hout => nomatch hout⟩
  refine LaneSpec.bind (spec_openAgain fun o ho => ho.1.opened) fun _ => ?_
  refine LaneSpec.bind (LaneSpec.leaves (leaves_event (by decide))) fun _ => ?_
  refine LaneSpec.bind spec_execute fun execution => ?_
  refine LaneSpec.bind (P := fun _ o => o.lane.Attempted n ∧ o.lane.stdout n = execution.output)
    (spec_writeStdout.pre fun o ho => ⟨ho.accepted, ⟨ho.number, ho.deadline, ho.accepted⟩,
      if_pos rfl⟩) fun _ => ?_
  refine LaneSpec.bind (LaneSpec.readInputs (g := fun i => allowedEvidenceRefs i.snapshot))
    fun valid => ?_
  refine LaneSpec.bind (LaneSpec.leaves (leaves_event (by decide))) fun _ => ?_
  refine LaneSpec.pure _ fun o ho => ⟨ho.2.1, fun output hout => ?_⟩
  obtain ⟨rfl, -, hstdout⟩ := ho
  obtain ⟨returned, pairs, hraw, hchecked⟩ := attemptOutcome_output hout
  exact ⟨returned, pairs, hstdout.trans hraw, hchecked⟩

/-! ### Retries -/

/-- Where R2 is not serial there is no pacing. -/
theorem LaneSpec.parallel {p : Proc α} {P : α → Own → Prop}
    (hparallel : ¬(phase = "R2" ∧ inputs.policy.r2Parallel = false))
    (hp : LaneSpec inputs me phase routeId (fun o => A o ∧ o.pace.view = none) p P) :
    LaneSpec inputs me phase routeId A p P := by
  intro s hs
  obtain ⟨hheld, since, hle, hknows⟩ := hs
  exact hp s ⟨hheld, since, hle, hknows, if_neg hparallel⟩

theorem Pace.ready_of_none {p : Pace} (h : p.view = none) : p.Ready :=
  fun _ hv => nomatch h.symm.trans hv

theorem Pace.calm_of_none {p : Pace} (h : p.view = none) : p.Calm :=
  fun _ hv => nomatch h.symm.trans hv

/-- A step of the pacing, which is skipped where R2 is not serial. -/
theorem spec_whenSerial {b : Bool} {M : Own → Prop} {R : α → Own → Prop} {p : Proc Unit}
    {k : Unit → Proc α} (hb : b = true ↔ phase = "R2" ∧ inputs.policy.r2Parallel = false)
    (hp : phase = "R2" → inputs.policy.r2Parallel = false →
      LaneSpec inputs me phase routeId A p fun _ => M)
    (hskip : ∀ o, A o → o.pace.view = none → M o)
    (hk : ∀ u, LaneSpec inputs me phase routeId M (k u) R) :
    LaneSpec inputs me phase routeId A (if b = true then p >>= k else k ()) R := by
  cases hcase : b with
  | true =>
    obtain ⟨hphase, hserial⟩ := hb.mp hcase
    exact LaneSpec.bind (hp hphase hserial) hk
  | false =>
    have hparallel : ¬(phase = "R2" ∧ inputs.policy.r2Parallel = false) :=
      fun h => nomatch hcase.symm.trans (hb.mpr h)
    exact LaneSpec.parallel hparallel ((hk ()).pre fun o ho => hskip o ho.1 ho.2)

theorem serialPacing_iff (policy : Policy) (phase : String) :
    (phase == "R2" && !policy.r2Parallel) = true ↔ phase = "R2" ∧ policy.r2Parallel = false := by
  simp

/-- **`run_retry_attempt`**: the next attempt, after its deadline and paced. -/
theorem spec_runRetryAttempt {host : Host} {manifest : RunManifest} {route : RoutePolicy} {n : Nat}
    {retry : RetryClass} (hroute : route.routeId = routeId) (hbudget : n < inputs.policy.maxAttempts) :
    LaneSpec inputs me phase routeId (fun o => o.lane.Attempted n ∧ o.pace.Ready)
      (runRetryAttempt me host inputs.policy manifest phase route n retry)
      fun outcome o => (o.lane.Attempted (n + 1)
        ∧ o.lane.Sourced (allowedEvidenceRefs inputs.snapshot) (n + 1) outcome)
        ∧ o.pace.Ready := by
  have hserial := serialPacing_iff inputs.policy phase
  refine LaneSpec.bind (LaneSpec.ofExcept _) fun schedule => ?_
  refine LaneSpec.bind ((spec_clock fun _ _ => id).pre fun o ho => ho.2) fun now => ?_
  refine LaneSpec.bind ((spec_persistRetryDeadline (P := Pace.Ready) hroute hbudget).pre
    fun o ho => ho.1) fun _ => ?_
  -- a serial phase paces the next attempt by the same deadline
  refine spec_whenSerial (M := fun o => o.lane.Next inputs.policy (n + 1) ∧ o.pace.Ready) hserial
    (fun hphase hparallel => ?_) (fun o ho _ => ho) fun _ => ?_
  · refine (spec_persistR2PacingUntil hphase hparallel).pre fun o ho => ⟨ho.1, ?_⟩
    rw [if_neg (by cases retry <;> simp)]
    exact ho.2
  refine LaneSpec.bind (LaneSpec.leaves (leaves_event (by decide))) fun _ => ?_
  refine LaneSpec.bind (spec_waitForRetryDeadline hroute (fun _ _ => id) fun o v ho hv => ?_)
    fun _ => ?_
  · exact ⟨⟨hv ▸ ho.1.number, ho.1.budget, hv ▸ ho.1.accepted⟩, ho.2⟩
  -- the deadline is past: now the pacing of the phase
  subst hroute
  refine spec_whenSerial (M := fun o => (o.lane.Next inputs.policy (n + 1)
      ∧ o.lane.deadline = none) ∧ o.pace.Ready ∧ o.pace.Calm) hserial
    (fun hphase hparallel => ?_) (fun o ho hnone => ?_) fun _ => ?_
  · exact (spec_waitForR2Pacing (L := fun v => v.Next inputs.policy (n + 1) ∧ v.deadline = none)
      hphase hparallel).pre fun o ho => ⟨⟨ho.1.1, ho.2⟩, ho.1.2⟩
  · exact ⟨⟨ho.1.1, ho.2⟩, ho.1.2, Pace.calm_of_none hnone⟩
  refine LaneSpec.bind (LaneSpec.leaves (leaves_event (by decide))) fun _ => ?_
  refine LaneSpec.bind (spec_build (P := fun p => p.Ready ∧ p.Calm)) fun _ => ?_
  refine LaneSpec.bind (spec_runAttempt rfl) fun outcome => ?_
  refine spec_whenSerial hserial (fun hphase hparallel => ?_) (fun o ho hnone => ?_)
    fun _ => LaneSpec.pure _ fun _ => id
  · exact spec_persistR2Pacing (L := fun v => v.Attempted (n + 1)
      ∧ v.Sourced (allowedEvidenceRefs inputs.snapshot) (n + 1) outcome) hphase hparallel
  · exact ⟨ho, Pace.ready_of_none hnone⟩

/-- The number `next_attempt` computes. -/
theorem nextAttempt_ok {r : String} {m n : Nat} {numbers : List Nat} :
    nextAttempt phase r m numbers = .ok n ↔
      n = highestAttempt numbers + 1 ∧ highestAttempt numbers + 1 ≤ m := by
  unfold nextAttempt
  split
  · rename_i hzero
    simp [hzero]
  split
  · rename_i hover
    simp [Nat.not_le.mpr hover]
  · rename_i hle
    simp only [Except.ok.injEq, not_lt.mp hle, and_true]
    exact eq_comm

theorem spec_nextAttempt {route : RoutePolicy} (hroute : route.routeId = routeId) :
    LaneSpec inputs me phase routeId
      (fun o => (phase ≠ "R3" → o.lane.accepted = none) ∧ o.pace.Ready)
      (do
        let numbers ← Prog.read (·.attempts phase route.routeId)
        Prog.ofExcept (nextAttempt phase route.routeId inputs.policy.maxAttempts numbers))
      fun n o => o.lane.Next inputs.policy n ∧ o.pace.Ready := by
  subst hroute
  refine LaneSpec.bind (LaneSpec.readLane (q := fun o => o.lane.attempts) fun _ _ => rfl)
    fun numbers => ?_
  refine (LaneSpec.ofExcept _).post fun n o ho => ?_
  obtain ⟨hnext, hnumbers, hlane, haccepted, hready⟩ := ho
  obtain ⟨hnumber, hbudget⟩ := nextAttempt_ok.mp hnext
  have hnone : o.lane.accepted = none := by
    by_cases hr3 : phase = "R3"
    · exact hlane.parties hr3
    · exact haccepted hr3
  exact ⟨⟨hnumbers ▸ hnumber, hnumber ▸ hbudget, hnone⟩, hready⟩

/-- A lane that goes on with its next attempt. -/
theorem LaneSpec.nextAttempt {route : RoutePolicy} {f : Nat → Proc α} {P : α → Own → Prop}
    (hroute : route.routeId = routeId)
    (hf : ∀ n, LaneSpec inputs me phase routeId
      (fun o => o.lane.Next inputs.policy n ∧ o.pace.Ready) (f n) P) :
    LaneSpec inputs me phase routeId
      (fun o => (phase ≠ "R3" → o.lane.accepted = none) ∧ o.pace.Ready)
      (do
        let numbers ← Prog.read (·.attempts phase route.routeId)
        let n ← Prog.ofExcept
          (Quinte.nextAttempt phase route.routeId inputs.policy.maxAttempts numbers)
        f n) P := by
  rw [← Prog.bind_assoc]
  exact LaneSpec.bind (spec_nextAttempt hroute) hf

/-! ### Acceptance -/

theorem LaneSpec.absurd {p : Proc α} {P : α → Own → Prop} (h : ∀ o, ¬A o) :
    LaneSpec inputs me phase routeId A p P :=
  fun _ hs => let ⟨_, _, hknows⟩ := hs.knows; (h _ hknows).elim

/-- **Accepting an output** that an attempt returned rewrites nothing, and so
    records nothing of that kind. -/
theorem spec_acceptLane {manifest : RunManifest} {route : RoutePolicy} {first n : Nat}
    {outcome : AttemptOutcome} {output : LaneOutput} (hroute : route.routeId = routeId)
    (hparty : phase ≠ "R3") (houtput : outcome.output = some (.lane output)) :
    LaneSpec inputs me phase routeId
      (fun o => (o.lane.Attempted n
        ∧ o.lane.Sourced (allowedEvidenceRefs inputs.snapshot) n outcome) ∧ o.pace.Ready)
      (acceptLane me inputs.policy manifest phase route first n output)
      fun _ o => o.pace.Ready := by
  subst hroute
  refine LaneSpec.bind (LaneSpec.readInputs (g := fun i => allowedEvidenceRefs i.snapshot))
    fun valid => ?_
  refine LaneSpec.bind (LaneSpec.ofExcept _) fun checked => ?_
  obtain ⟨rewritten, remapped⟩ := checked
  -- the output was checked before
  have hagain : ∀ o : Own, (validateEvidenceRefs valid output = .ok (rewritten, remapped)
      ∧ valid = allowedEvidenceRefs inputs.snapshot ∧ (o.lane.Attempted n
        ∧ o.lane.Sourced (allowedEvidenceRefs inputs.snapshot) n outcome) ∧ o.pace.Ready) →
      remapped = [] ∧ (∃ returned pairs,
          o.lane.stdout (highestAttempt o.lane.attempts) = some (.lane returned)
          ∧ validateEvidenceRefs (allowedEvidenceRefs inputs.snapshot) returned
            = .ok (rewritten, pairs)) ∧ o.pace.Ready := by
    rintro o ⟨hchecked, rfl, ⟨hover, hsource⟩, hready⟩
    obtain ⟨returned, pairs, hlast, hreturned⟩ := hsource output houtput
    have hsame := (validateEvidenceRefs_again hreturned).symm.trans hchecked
    obtain ⟨rfl, rfl⟩ := Prod.mk.inj (Except.ok.inj hsame)
    exact ⟨rfl, ⟨returned, pairs, hover.number ▸ hlast, hreturned⟩, hready⟩
  have hrest : ∀ u : Unit, LaneSpec inputs me phase route.routeId
      (fun o => (∃ returned pairs,
          o.lane.stdout (highestAttempt o.lane.attempts) = some (.lane returned)
          ∧ validateEvidenceRefs (allowedEvidenceRefs inputs.snapshot) returned
            = .ok (rewritten, pairs)) ∧ o.pace.Ready)
      (do
        writeAccepted phase route.routeId rewritten
        let lane := laneAccepted phase route rewritten
        let _ ← Store.event me manifest.runId "lane.accepted" (some phase) (some route.partyId)
          (some n) (jsonObject [
            ("route_id", jsonString route.routeId),
            ("artifact", jsonString lane.artifactRef),
            ("attempts", toString n),
            ("retries", toString (n - first)),
            ("phase", jsonString phase),
            ("timeout_seconds", toString (inputs.policy.timeoutForPhase phase))])
        return lane) fun _ o => o.pace.Ready := fun _ => by
    refine LaneSpec.bind (spec_writeAccepted (A := fun o => o.pace.Ready) hparty) fun _ => ?_
    exact LaneSpec.bind (LaneSpec.leaves (leaves_event (by decide))) fun _ =>
      LaneSpec.pure _ fun _ => id
  cases remapped with
  | nil => exact (hrest ()).pre fun o ho => (hagain o ho).2
  | cons pair pairs => exact LaneSpec.absurd fun o ho => nomatch (hagain o ho).1

theorem lt_of_retryAllowed {retry : RetryClass} {n m : Nat} (h : retryAllowed retry n m = true) :
    n < m := by
  simp only [retryAllowed, Bool.and_eq_true, decide_eq_true_eq] at h
  exact h.2

/-- **`accept_or_retry_lane`**, for an attempt that is over. -/
theorem spec_acceptOrRetryLoop {host : Host} {manifest : RunManifest} {route : RoutePolicy}
    {first budget n : Nat} {outcome : AttemptOutcome} (hroute : route.routeId = routeId)
    (hparty : phase ≠ "R3") : LaneSpec inputs me phase routeId
      (fun o => (o.lane.Attempted n
        ∧ o.lane.Sourced (allowedEvidenceRefs inputs.snapshot) n outcome) ∧ o.pace.Ready)
      (acceptOrRetryLoop me host inputs.policy manifest phase route first budget n outcome)
      fun _ o => o.pace.Ready := by
  induction budget generalizing n outcome with
  | zero =>
    unfold acceptOrRetryLoop
    refine LaneSpec.bind (LaneSpec.leaves (leaves_read _)) fun cancelled => ?_
    split
    · exact LaneSpec.bind (LaneSpec.leaves leaves_cancelRun) fun _ => LaneSpec.throw _
    cases houtput : outcome.output with
    | none => exact LaneSpec.throw _
    | some output =>
      cases output with
      | arbiter verdict => exact LaneSpec.throw _
      | lane output => exact spec_acceptLane hroute hparty houtput
  -- one attempt more, if the class and the budget allow it
  | succ budget ih =>
    unfold acceptOrRetryLoop
    refine LaneSpec.bind (LaneSpec.leaves (leaves_read _)) fun cancelled => ?_
    split
    · exact LaneSpec.bind (LaneSpec.leaves leaves_cancelRun) fun _ => LaneSpec.throw _
    cases houtput : outcome.output with
    | none =>
      cases hallowed : retryAllowed outcome.retry n inputs.policy.maxAttempts with
      | false => exact LaneSpec.throw _
      | true =>
        exact LaneSpec.bind ((spec_runRetryAttempt hroute (lt_of_retryAllowed hallowed)).pre
          fun o ho => ⟨ho.1.1, ho.2⟩) fun outcome => ih
    | some output =>
      cases output with
      | arbiter verdict => exact LaneSpec.throw _
      | lane output => exact spec_acceptLane hroute hparty houtput

/-- **`await_arbiter_output`**, for an attempt that is over. -/
theorem spec_awaitArbiterLoop {host : Host} {manifest : RunManifest} {route : RoutePolicy}
    {budget n : Nat} {outcome : AttemptOutcome} (hroute : route.routeId = routeId) :
    LaneSpec inputs me phase routeId (fun o => o.lane.Attempted n ∧ o.pace.Ready)
      (awaitArbiterLoop me host inputs.policy manifest phase route budget n outcome)
      fun _ _ => True := by
  induction budget generalizing n outcome with
  | zero =>
    unfold awaitArbiterLoop
    refine LaneSpec.bind (LaneSpec.leaves (leaves_read _)) fun cancelled => ?_
    split
    · exact LaneSpec.pure _ fun _ _ => trivial
    rcases outcome.output with _ | output | verdict
    · exact LaneSpec.throw _
    · exact LaneSpec.throw _
    · refine LaneSpec.bind (LaneSpec.leaves (leaves_read _)) fun valid => ?_
      exact LaneSpec.bind (LaneSpec.ofExcept _) fun _ => LaneSpec.pure _ fun _ _ => trivial
  -- one attempt more, if the class and the budget allow it
  | succ budget ih =>
    unfold awaitArbiterLoop
    refine LaneSpec.bind (LaneSpec.leaves (leaves_read _)) fun cancelled => ?_
    split
    · exact LaneSpec.pure _ fun _ _ => trivial
    rcases outcome.output with _ | output | verdict
    · cases hallowed : retryAllowed outcome.retry n inputs.policy.maxAttempts with
      | false => exact LaneSpec.throw _
      | true =>
        exact LaneSpec.bind (spec_runRetryAttempt hroute (lt_of_retryAllowed hallowed))
          fun outcome => ih.pre fun o ho => ⟨ho.1.1, ho.2⟩
    · exact LaneSpec.throw _
    · refine LaneSpec.bind (LaneSpec.leaves (leaves_read _)) fun valid => ?_
      exact LaneSpec.bind (LaneSpec.ofExcept _) fun _ => LaneSpec.pure _ fun _ _ => trivial

end attempts

end Quinte.Run
