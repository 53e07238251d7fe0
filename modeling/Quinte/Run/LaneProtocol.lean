import Mathlib
import Quinte.Framework.Interference
import Quinte.Run.Commands

/-! # The protocol of the lanes

    What the holder of the run lock may do to the files of the lanes, as a
    relation between two states of them (`LaneStep`), what such steps keep
    (`LaneInv`), and the contract of a program that owns some parts of them.
    A thread of the R1 fan-out owns one lane; the process as a whole owns them
    all, and the pacing of R2.
-/

namespace Quinte.Run

open Program

/-! ### Parts -/

/-- One lane, or the pacing that all lanes of R2 share. -/
inductive Part where
  | lane (phase routeId : String)
  | pacing
  deriving DecidableEq

/-- What belongs to one lane. -/
structure LaneView where
  attempts : List Nat
  deadline : Option RetryDeadlineState
  accepted : Option LaneOutput
  stdout : Nat → Option AdapterOutput
  calls : List TransportStart

/-- The calls of a lane. -/
def laneCalls (l : Lanes) (phase routeId : String) : List TransportStart :=
  l.started.filter fun t => t.phase = phase ∧ t.routeId = routeId

/-- The calls of R2. -/
def r2Calls (l : Lanes) : List TransportStart :=
  l.started.filter fun t => t.phase = "R2"

def laneView (l : Lanes) (phase routeId : String) : LaneView where
  attempts := l.attempts phase routeId
  deadline := l.retryDeadlines phase routeId
  accepted := l.accepted phase routeId
  stdout := l.stdout phase routeId
  calls := laneCalls l phase routeId

/-- What belongs to the pacing. -/
structure PacingView where
  state : Option R2RateState
  unpaced : Bool
  calls : List TransportStart

def pacingView (l : Lanes) : PacingView where
  state := l.r2RateState
  unpaced := l.unpaced
  calls := r2Calls l

/-- The parts of `K` have not changed, and the clock has not gone back. The
    pacing is a part only where R2 is serial. -/
structure Frame (policy : Policy) (K : Set Part) (l l' : Lanes) : Prop where
  clock : l.clock ≤ l'.clock
  stale : l'.stale = l.stale
  lane : ∀ phase routeId, .lane phase routeId ∈ K →
    laneView l' phase routeId = laneView l phase routeId
  pacing : .pacing ∈ K → policy.r2Parallel = false → pacingView l' = pacingView l

namespace Frame

variable {policy : Policy} {K K' : Set Part} {l l' l'' : Lanes}

theorem refl (l : Lanes) : Frame policy K l l :=
  ⟨le_rfl, rfl, fun _ _ _ => rfl, fun _ _ => rfl⟩

theorem trans (h : Frame policy K l l') (h' : Frame policy K l' l'') : Frame policy K l l'' :=
  ⟨h.clock.trans h'.clock, h'.stale.trans h.stale,
    fun p r hr => (h'.lane p r hr).trans (h.lane p r hr),
    fun hp hs => (h'.pacing hp hs).trans (h.pacing hp hs)⟩

theorem mono (h : Frame policy K' l l') (hK : K ⊆ K') : Frame policy K l l' :=
  ⟨h.clock, h.stale, fun p r hr => h.lane p r (hK hr), fun hp => h.pacing (hK hp)⟩

end Frame

/-! ### Steps -/

/-- What a lane of the phase works on. -/
def ownParts (policy : Policy) (phase routeId : String) : Set Part :=
  {x | x = .lane phase routeId ∨ x = .pacing ∧ phase = "R2" ∧ policy.r2Parallel = false}

/-- A directory that may be created: that of the next attempt of a lane that is
    neither waiting nor accepted, or one that is there. -/
def MayOpen (policy : Policy) (v : LaneView) (n : Nat) : Prop :=
  n ∈ v.attempts ∨ (n = highestAttempt v.attempts + 1 ∧ n ≤ policy.maxAttempts
    ∧ v.deadline = none ∧ v.accepted = none)

/-- A call that may start: that of an attempt which has been opened and not been
    called, with nothing to wait for. -/
structure MayStart (policy : Policy) (l : Lanes) (phase routeId : String) (n : Nat) : Prop where
  opened : n ∈ l.attempts phase routeId
  fresh : ∀ t ∈ laneCalls l phase routeId, t.attempt < n
  due : l.retryDeadlines phase routeId = none
  paced : phase = "R2" → policy.r2Parallel = false →
    l.r2RateState = none ∧ (l.stale = false → l.unpaced = false)

/-- One step on the lanes, and the parts it touches. -/
inductive LaneStep (policy : Policy) (valid : List String) (l : Lanes) :
    Set Part → Lanes → Prop where
  | tick (now : Nat) (later : l.clock ≤ now) : LaneStep policy valid l ∅ { l with clock := now }
  | openAttempt (phase routeId : String) (n : Nat)
      (guard : MayOpen policy (laneView l phase routeId) n) :
      LaneStep policy valid l {.lane phase routeId}
        { l with
          attempts := setLane l.attempts phase routeId
            (if (l.attempts phase routeId).contains n then l.attempts phase routeId
              else n :: l.attempts phase routeId) }
  | start (phase routeId : String) (n timeoutSeconds now : Nat)
      (guard : MayStart policy l phase routeId n) :
      LaneStep policy valid l (ownParts policy phase routeId)
        { l with
          clock := max l.clock now
          started := l.started ++ [{
            phase := phase
            routeId := routeId
            attempt := n
            timeoutSeconds := timeoutSeconds
            time := max l.clock now }]
          unpaced := l.unpaced || phase == "R2" }
  | writeStdout (phase routeId : String) (n : Nat) (output : Option AdapterOutput)
      (running : l.accepted phase routeId = none) :
      LaneStep policy valid l {.lane phase routeId}
        { l with
          stdout := fun p r k =>
            if p = phase ∧ r = routeId ∧ k = n then output else l.stdout p r k }
  | schedule (phase routeId : String) (state : RetryDeadlineState)
      (matching : state.isFor phase routeId (highestAttempt (l.attempts phase routeId) + 1) = true)
      (budget : highestAttempt (l.attempts phase routeId) + 1 ≤ policy.maxAttempts)
      (free : l.retryDeadlines phase routeId = none) :
      LaneStep policy valid l {.lane phase routeId}
        { l with
          retryDeadlines := setLane l.retryDeadlines phase routeId (some state)
          scheduled := l.scheduled ++ [state] }
  | endWait (phase routeId : String)
      (elapsed : ∀ d, l.retryDeadlines phase routeId = some d → d.dueAt ≤ l.clock) :
      LaneStep policy valid l {.lane phase routeId}
        { l with retryDeadlines := setLane l.retryDeadlines phase routeId none }
  | pace (route : RoutePolicy) (attempt requestedDueAt : Nat) (reason : String)
      (spaced : reason = "inter_call_pacing" →
        ∀ t ∈ r2Calls l, t.time + policy.r2MinIntervalSeconds * 1000 ≤ requestedDueAt) :
      LaneStep policy valid l {.pacing}
        { l with
          r2RateState := some {
            rateStateVersion := "1.0"
            nextAllowedAt := match l.r2RateState with
              | some existing => max requestedDueAt existing.nextAllowedAt
              | none => requestedDueAt
            reason := reason
            routeId := route.routeId
            attempt := attempt }
          unpaced := l.unpaced && reason != "inter_call_pacing" }
  | endPacing (elapsed : ∀ st, l.r2RateState = some st → st.nextAllowedAt ≤ l.clock) :
      LaneStep policy valid l {.pacing} { l with r2RateState := none }
  | accept (phase routeId : String) (output returned : LaneOutput)
      (pairs : List (String × String)) (party : phase ≠ "R3")
      (last : l.stdout phase routeId (highestAttempt (l.attempts phase routeId))
        = some (.lane returned))
      (checked : validateEvidenceRefs valid returned = .ok (output, pairs)) :
      LaneStep policy valid l {.lane phase routeId}
        { l with accepted := setLane l.accepted phase routeId (some output) }

section step

variable {policy : Policy} {valid : List String} {l l' : Lanes} {touched : Set Part}

@[simp] theorem setLane_self {α : Type} (table : String → String → α) (phase routeId : String)
    (a : α) : setLane table phase routeId a phase routeId = a := by
  simp [setLane]

theorem setLane_ne {α : Type} (table : String → String → α) {phase routeId p r : String} (a : α)
    (h : ¬(p = phase ∧ r = routeId)) : setLane table phase routeId a p r = table p r :=
  if_neg h

theorem laneCalls_append (l : Lanes) (t : TransportStart) (clock : Nat) (unpaced : Bool)
    (phase routeId : String) :
    laneCalls { l with clock := clock, started := l.started ++ [t], unpaced := unpaced } phase
      routeId = laneCalls l phase routeId ++
        if t.phase = phase ∧ t.routeId = routeId then [t] else [] := by
  by_cases h : t.phase = phase ∧ t.routeId = routeId <;> simp [laneCalls, List.filter_append, h]

theorem r2Calls_append (l : Lanes) (t : TransportStart) (clock : Nat) (unpaced : Bool) :
    r2Calls { l with clock := clock, started := l.started ++ [t], unpaced := unpaced }
      = r2Calls l ++ if t.phase = "R2" then [t] else [] := by
  by_cases h : t.phase = "R2" <;> simp [r2Calls, List.filter_append, h]

/-- A lane that is not touched. -/
theorem lane_ne {phase routeId p r : String}
    (h : Part.lane p r ∉ ({.lane phase routeId} : Set Part)) : ¬(p = phase ∧ r = routeId) := by
  rintro ⟨rfl, rfl⟩
  exact h rfl

/-- **Frame**: a step leaves alone what it does not touch. -/
theorem LaneStep.frame (h : LaneStep policy valid l touched l') : Frame policy touchedᶜ l l' := by
  cases h with
  | tick now later => exact ⟨later, rfl, fun _ _ _ => rfl, fun _ _ => rfl⟩
  | openAttempt phase routeId n guard =>
    refine ⟨le_rfl, rfl, fun p r hpr => ?_, fun _ _ => rfl⟩
    simp [laneView, laneCalls, setLane_ne _ _ (lane_ne hpr)]
  | start phase routeId n timeoutSeconds now guard =>
    refine ⟨le_max_left .., rfl, fun p r hpr => ?_, fun hpacing hserial => ?_⟩
    · have hne : ¬(phase = p ∧ routeId = r) := by
        rintro ⟨rfl, rfl⟩
        exact hpr (Or.inl rfl)
      simp [laneView, laneCalls_append, hne]
    · have hphase : phase ≠ "R2" := fun hr2 => hpacing (Or.inr ⟨rfl, hr2, hserial⟩)
      simp [pacingView, r2Calls_append, hphase]
  | writeStdout phase routeId n output running =>
    refine ⟨le_rfl, rfl, fun p r hpr => ?_, fun _ _ => rfl⟩
    have hne := lane_ne hpr
    have hstdout : (fun k => if p = phase ∧ r = routeId ∧ k = n then output else l.stdout p r k)
        = l.stdout p r := by
      funext k
      exact if_neg fun h => hne ⟨h.1, h.2.1⟩
    simp [laneView, laneCalls, hstdout]
  | schedule phase routeId state matching budget free =>
    refine ⟨le_rfl, rfl, fun p r hpr => ?_, fun _ _ => rfl⟩
    simp [laneView, laneCalls, setLane_ne _ _ (lane_ne hpr)]
  | endWait phase routeId elapsed =>
    refine ⟨le_rfl, rfl, fun p r hpr => ?_, fun _ _ => rfl⟩
    simp [laneView, laneCalls, setLane_ne _ _ (lane_ne hpr)]
  | pace route attempt requestedDueAt reason spaced =>
    exact ⟨le_rfl, rfl, fun _ _ _ => rfl, fun hpacing => absurd rfl hpacing⟩
  | endPacing elapsed =>
    exact ⟨le_rfl, rfl, fun _ _ _ => rfl, fun hpacing => absurd rfl hpacing⟩
  | accept phase routeId output returned pairs party last checked =>
    refine ⟨le_rfl, rfl, fun p r hpr => ?_, fun _ _ => rfl⟩
    simp [laneView, laneCalls, setLane_ne _ _ (lane_ne hpr)]

/-! ### Numbers of attempts -/

theorem foldl_max (ns : List Nat) (m : Nat) : ns.foldl max m = max m (highestAttempt ns) := by
  induction ns generalizing m with
  | nil => simp [highestAttempt]
  | cons n ns ih =>
    have hcons : highestAttempt (n :: ns) = max (max 0 n) (highestAttempt ns) := ih (max 0 n)
    rw [List.foldl_cons, ih, hcons]
    omega

theorem highestAttempt_cons (n : Nat) (ns : List Nat) :
    highestAttempt (n :: ns) = max n (highestAttempt ns) := by
  rw [highestAttempt, List.foldl_cons, foldl_max, Nat.zero_max]

theorem le_highestAttempt {n : Nat} {ns : List Nat} (h : n ∈ ns) : n ≤ highestAttempt ns := by
  induction ns with
  | nil => exact nomatch h
  | cons m ns ih =>
    rw [highestAttempt_cons]
    rcases List.mem_cons.mp h with rfl | hmem
    · exact le_max_left ..
    · exact (ih hmem).trans (le_max_right ..)

/-- The numbers after the directory of `n` was created. -/
def opening (ns : List Nat) (n : Nat) : List Nat :=
  if ns.contains n then ns else n :: ns

theorem mem_opening {ns : List Nat} {n m : Nat} : m ∈ opening ns n ↔ m = n ∨ m ∈ ns := by
  by_cases h : n ∈ ns
  · simp only [opening, List.contains_iff_mem, h, if_true]
    exact ⟨Or.inr, fun hm => hm.elim (fun heq => heq ▸ h) id⟩
  · simp [opening, h]

theorem highestAttempt_opening_next (ns : List Nat) :
    highestAttempt (opening ns (highestAttempt ns + 1)) = highestAttempt ns + 1 := by
  have hfresh : highestAttempt ns + 1 ∉ ns := fun h => by
    have hle := le_highestAttempt h
    omega
  simp [opening, hfresh, highestAttempt_cons]

theorem RetryDeadlineState.isFor_iff {d : RetryDeadlineState} {phase routeId : String} {n : Nat} :
    d.isFor phase routeId n = true ↔ d.retryStateVersion = "1.0" ∧ d.phase = phase
      ∧ d.routeId = routeId ∧ d.nextAttempt = n ∧ d.previousAttempt + 1 = n := by
  simp only [RetryDeadlineState.isFor, Bool.and_eq_true, beq_iff_eq, and_assoc]
  refine and_congr_right fun _ => and_congr_right fun _ => and_congr_right fun _ => ?_
  exact ⟨fun ⟨h, h'⟩ => ⟨h, h'.trans h⟩, fun ⟨h, h'⟩ => ⟨h, h'.trans h.symm⟩⟩

/-- The attempts of a lane count up within the budget, each is called at most
    once, a pending deadline is that of the next one, and what was accepted is
    what the last one returned, as rewritten. -/
structure LaneOk (policy : Policy) (valid : List String) (phase routeId : String)
    (v : LaneView) : Prop where
  budget : ∀ n ∈ v.attempts, n ≤ policy.maxAttempts
  descending : v.attempts.Pairwise fun later earlier => earlier < later
  opened : ∀ t ∈ v.calls, t.attempt ∈ v.attempts
  increasing : v.calls.Pairwise fun a b => a.attempt < b.attempt
  pending : ∀ d, v.deadline = some d →
    d.isFor phase routeId (highestAttempt v.attempts + 1) = true
      ∧ highestAttempt v.attempts + 1 ≤ policy.maxAttempts
  sourced : ∀ output, v.accepted = some output → ∃ returned pairs,
    v.stdout (highestAttempt v.attempts) = some (.lane returned)
      ∧ validateEvidenceRefs valid returned = .ok (output, pairs)
  parties : phase = "R3" → v.accepted = none

namespace LaneOk

variable {phase routeId : String} {v : LaneView}

theorem open_ (h : LaneOk policy valid phase routeId v) {n : Nat} (guard : MayOpen policy v n) :
    LaneOk policy valid phase routeId { v with attempts := opening v.attempts n } := by
  rcases guard with hmem | ⟨rfl, hbudget, hdeadline, haccepted⟩
  · have hsame : opening v.attempts n = v.attempts := by simp [opening, hmem]
    rw [hsame]
    exact h
  · refine ⟨fun m hm => ?_, ?_, fun t ht => mem_opening.mpr (Or.inr (h.opened t ht)),
      h.increasing, fun d hd => ?_, fun output hout => ?_, h.parties⟩
    · rcases mem_opening.mp hm with rfl | hm
      · exact hbudget
      · exact h.budget m hm
    · have hlower : ∀ m ∈ v.attempts, m < highestAttempt v.attempts + 1 :=
        fun m hm => Nat.lt_succ_of_le (le_highestAttempt hm)
      have hfresh : highestAttempt v.attempts + 1 ∉ v.attempts :=
        fun hmem => absurd (hlower _ hmem) (lt_irrefl _)
      have hcons : opening v.attempts (highestAttempt v.attempts + 1)
          = (highestAttempt v.attempts + 1) :: v.attempts := by simp [opening, hfresh]
      exact hcons ▸ List.pairwise_cons.mpr ⟨hlower, h.descending⟩
    · exact nomatch hdeadline.symm.trans hd
    · exact nomatch haccepted.symm.trans hout

theorem call (h : LaneOk policy valid phase routeId v) {t : TransportStart}
    (hopened : t.attempt ∈ v.attempts) (hfresh : ∀ u ∈ v.calls, u.attempt < t.attempt) :
    LaneOk policy valid phase routeId { v with calls := v.calls ++ [t] } where
  budget := h.budget
  descending := h.descending
  opened := fun u hu => by
    rcases List.mem_append.mp hu with hu | hu
    · exact h.opened u hu
    · rw [List.mem_singleton.mp hu]
      exact hopened
  increasing := by
    refine List.pairwise_append.mpr ⟨h.increasing, List.pairwise_singleton .., fun u hu t' ht' => ?_⟩
    rw [List.mem_singleton.mp ht']
    exact hfresh u hu
  pending := h.pending
  sourced := h.sourced
  parties := h.parties

end LaneOk

/-- **One step** keeps what holds of each lane. -/
theorem LaneStep.laneOk (hstep : LaneStep policy valid l touched l')
    (h : ∀ phase routeId, LaneOk policy valid phase routeId (laneView l phase routeId))
    (phase routeId : String) : LaneOk policy valid phase routeId (laneView l' phase routeId) := by
  -- a lane that is not touched looks the same
  by_cases htouched : Part.lane phase routeId ∈ touched
  case neg =>
    rw [hstep.frame.lane phase routeId htouched]
    exact h phase routeId
  have hlane := h phase routeId
  cases hstep with
  | tick now later => exact hlane
  | openAttempt p r n guard =>
    obtain ⟨rfl, rfl⟩ : phase = p ∧ routeId = r := Part.lane.inj htouched
    have hview := hlane.open_ guard
    simpa [laneView, laneCalls, opening] using hview
  | start p r n timeoutSeconds now guard =>
    obtain ⟨rfl, rfl⟩ : phase = p ∧ routeId = r :=
      htouched.elim Part.lane.inj fun hpacing => nomatch hpacing.1
    have hview := hlane.call (t := {
      phase := phase
      routeId := routeId
      attempt := n
      timeoutSeconds := timeoutSeconds
      time := max l.clock now }) guard.opened guard.fresh
    simpa [laneView, laneCalls_append] using hview
  | writeStdout p r n output running =>
    obtain ⟨rfl, rfl⟩ : phase = p ∧ routeId = r := Part.lane.inj htouched
    exact ⟨hlane.budget, hlane.descending, hlane.opened, hlane.increasing, hlane.pending,
      fun a ha => (nomatch running.symm.trans ha), hlane.parties⟩
  | schedule p r state matching budget free =>
    obtain ⟨rfl, rfl⟩ : phase = p ∧ routeId = r := Part.lane.inj htouched
    refine ⟨hlane.budget, hlane.descending, hlane.opened, hlane.increasing, fun d hd => ?_, hlane.sourced,
      hlane.parties⟩
    obtain rfl : state = d := by simpa [laneView] using hd
    exact ⟨matching, budget⟩
  | endWait p r elapsed =>
    obtain ⟨rfl, rfl⟩ : phase = p ∧ routeId = r := Part.lane.inj htouched
    refine ⟨hlane.budget, hlane.descending, hlane.opened, hlane.increasing, fun d hd => ?_, hlane.sourced,
      hlane.parties⟩
    simp [laneView] at hd
  | pace route attempt requestedDueAt reason spaced => exact hlane
  | endPacing elapsed => exact hlane
  | accept p r output returned pairs party last checked =>
    obtain ⟨rfl, rfl⟩ : phase = p ∧ routeId = r := Part.lane.inj htouched
    refine ⟨hlane.budget, hlane.descending, hlane.opened, hlane.increasing, hlane.pending, fun a ha => ?_,
      fun hr3 => absurd hr3 party⟩
    obtain rfl : output = a := by simpa [laneView] using ha
    exact ⟨returned, pairs, last, checked⟩

/-! ### Points in time -/

/-- Calls and retry deadlines, in time: no retry has started before its
    deadline was over. -/
structure Timed (l : Lanes) : Prop where
  past : ∀ t ∈ l.started, t.time ≤ l.clock
  waited : ∀ d ∈ l.scheduled,
    l.retryDeadlines d.phase d.routeId = some d ∨ d.dueAt ≤ l.clock
  due : ∀ d ∈ l.scheduled, ∀ t ∈ laneCalls l d.phase d.routeId,
    t.attempt = d.nextAttempt → d.dueAt ≤ t.time

/-- Where R2 is serial and its last call was paced, the next one has to wait for
    the interval: by the clock, or by what is written down. -/
def Paced (policy : Policy) (l : Lanes) : Prop :=
  policy.r2Parallel = false → l.unpaced = false →
    ∀ t ∈ r2Calls l, t.time + policy.r2MinIntervalSeconds * 1000 ≤ l.clock
      ∨ ∃ state, l.r2RateState = some state
        ∧ t.time + policy.r2MinIntervalSeconds * 1000 ≤ state.nextAllowedAt

/-- What holds of the lanes between any two steps. -/
structure LaneInv (policy : Policy) (valid : List String) (l : Lanes) : Prop where
  lane : ∀ phase routeId, LaneOk policy valid phase routeId (laneView l phase routeId)
  timed : Timed l
  paced : Paced policy l

namespace Timed

/-- What a step keeps that neither calls nor schedules. -/
theorem keep (h : Timed l) (hclock : l.clock ≤ l'.clock) (hstarted : l'.started = l.started)
    (hscheduled : l'.scheduled = l.scheduled)
    (hdeadlines : ∀ phase routeId d, l.retryDeadlines phase routeId = some d →
      l'.retryDeadlines phase routeId = some d ∨ d.dueAt ≤ l'.clock) : Timed l' where
  past := fun t ht => (h.past t (hstarted ▸ ht)).trans hclock
  waited := fun d hd => by
    rcases h.waited d (hscheduled ▸ hd) with hpending | hdue
    · exact hdeadlines _ _ d hpending
    · exact Or.inr (hdue.trans hclock)
  due := fun d hd t ht => by
    rw [laneCalls, hstarted] at ht
    exact h.due d (hscheduled ▸ hd) t ht

/-- A call of a lane that waits for nothing. -/
theorem call (h : Timed l) {t : TransportStart} {now : Nat} {unpaced : Bool}
    (htime : t.time = max l.clock now) (hfree : l.retryDeadlines t.phase t.routeId = none) :
    Timed { l with clock := max l.clock now, started := l.started ++ [t], unpaced := unpaced } where
  past := fun u hu => by
    rcases List.mem_append.mp hu with hu | hu
    · exact (h.past u hu).trans (le_max_left ..)
    · rw [List.mem_singleton.mp hu]
      exact htime.le
  waited := fun d hd => (h.waited d hd).imp_right fun hdue => hdue.trans (le_max_left ..)
  due := fun d hd u hu hnext => by
    rw [laneCalls_append] at hu
    rcases List.mem_append.mp hu with hu | hu
    · exact h.due d hd u hu hnext
    · -- the deadline of this lane is no longer pending, so it is over
      split at hu
      case isFalse => exact nomatch hu
      case isTrue hlane =>
        obtain rfl := List.mem_singleton.mp hu
        rcases h.waited d hd with hpending | hdue
        · rw [← hlane.1, ← hlane.2, hfree] at hpending
          exact nomatch hpending
        · rw [htime]
          exact hdue.trans (le_max_left ..)

/-- A new deadline, for an attempt after those that were called. -/
theorem schedule (h : Timed l) {phase routeId : String} {state : RetryDeadlineState}
    (hlane : LaneOk policy valid phase routeId (laneView l phase routeId))
    (matching : state.isFor phase routeId (highestAttempt (l.attempts phase routeId) + 1) = true)
    (free : l.retryDeadlines phase routeId = none) :
    Timed { l with
      retryDeadlines := setLane l.retryDeadlines phase routeId (some state)
      scheduled := l.scheduled ++ [state] } := by
  obtain ⟨-, hphase, hroute, hnext, -⟩ := RetryDeadlineState.isFor_iff.mp matching
  refine ⟨h.past, fun d hd => ?_, fun d hd t ht heq => ?_⟩
  · rcases List.mem_append.mp hd with hd | hd
    · refine (h.waited d hd).imp_left fun hpending => ?_
      refine (setLane_ne _ _ fun hsame => ?_).trans hpending
      rw [hsame.1, hsame.2, free] at hpending
      exact nomatch hpending
    · obtain rfl := List.mem_singleton.mp hd
      exact Or.inl (by simp [hphase, hroute])
  · rcases List.mem_append.mp hd with hd | hd
    · exact h.due d hd t ht heq
    · obtain rfl := List.mem_singleton.mp hd
      have hcall : t ∈ laneCalls l phase routeId := by
        rw [hphase, hroute] at ht
        exact ht
      have hle := le_highestAttempt (hlane.opened t hcall)
      rw [heq, hnext] at hle
      exact absurd hle (Nat.not_succ_le_self _)

end Timed

/-- **One step** keeps calls and deadlines in order. -/
theorem LaneStep.timed (hstep : LaneStep policy valid l touched l')
    (hlane : ∀ phase routeId, LaneOk policy valid phase routeId (laneView l phase routeId))
    (h : Timed l) : Timed l' := by
  cases hstep with
  | tick now later => exact h.keep later rfl rfl fun _ _ _ => Or.inl
  | openAttempt p r n guard => exact h.keep le_rfl rfl rfl fun _ _ _ => Or.inl
  | start p r n timeoutSeconds now guard => exact h.call rfl guard.due
  | writeStdout p r n output running => exact h.keep le_rfl rfl rfl fun _ _ _ => Or.inl
  | schedule p r state matching budget free => exact h.schedule (hlane p r) matching free
  | endWait p r elapsed =>
    refine h.keep le_rfl rfl rfl fun phase routeId d hd => ?_
    by_cases hsame : phase = p ∧ routeId = r
    · obtain ⟨rfl, rfl⟩ := hsame
      exact Or.inr (elapsed d hd)
    · exact Or.inl ((setLane_ne _ _ hsame).trans hd)
  | pace route attempt requestedDueAt reason spaced =>
    exact h.keep le_rfl rfl rfl fun _ _ _ => Or.inl
  | endPacing elapsed => exact h.keep le_rfl rfl rfl fun _ _ _ => Or.inl
  | accept p r output returned pairs party last checked =>
    exact h.keep le_rfl rfl rfl fun _ _ _ => Or.inl

/-! ### Pacing -/

namespace Paced

theorem keep (h : Paced policy l) (hclock : l.clock ≤ l'.clock) (hunpaced : l'.unpaced = l.unpaced)
    (hcalls : r2Calls l' = r2Calls l)
    (hstate : ∀ state, l.r2RateState = some state →
      state.nextAllowedAt ≤ l'.clock ∨ l'.r2RateState = some state) : Paced policy l' := by
  intro hserial hp t ht
  rcases h hserial (hunpaced ▸ hp) t (hcalls ▸ ht) with hdue | ⟨state, hsome, hdue⟩
  · exact Or.inl (hdue.trans hclock)
  · rcases hstate state hsome with hover | hsame
    · exact Or.inl (hdue.trans hover)
    · exact Or.inr ⟨state, hsame, hdue⟩

/-- Writing down the next permitted start never brings it forward. -/
theorem pace (h : Paced policy l) {state : R2RateState} {requestedDueAt : Nat} {reason : String}
    (hallowed : state.nextAllowedAt = match l.r2RateState with
      | some existing => max requestedDueAt existing.nextAllowedAt
      | none => requestedDueAt)
    (spaced : reason = "inter_call_pacing" →
      ∀ t ∈ r2Calls l, t.time + policy.r2MinIntervalSeconds * 1000 ≤ requestedDueAt) :
    Paced policy { l with
      r2RateState := some state
      unpaced := l.unpaced && reason != "inter_call_pacing" } := by
  intro hserial hp t ht
  have hrequested : requestedDueAt ≤ state.nextAllowedAt := by
    rw [hallowed]
    split
    · exact le_max_left ..
    · exact le_rfl
  by_cases hreason : reason = "inter_call_pacing"
  · exact Or.inr ⟨state, rfl, (spaced hreason t ht).trans hrequested⟩
  · have hunpaced : l.unpaced = false := by simpa [hreason] using hp
    rcases h hserial hunpaced t ht with hdue | ⟨existing, hsome, hdue⟩
    · exact Or.inl hdue
    · refine Or.inr ⟨state, rfl, hdue.trans ?_⟩
      rw [hallowed, hsome]
      exact le_max_right ..

end Paced

/-- **One step** keeps the pacing. -/
theorem LaneStep.paced (hstep : LaneStep policy valid l touched l') (h : Paced policy l) :
    Paced policy l' := by
  cases hstep with
  | tick now later => exact h.keep later rfl rfl fun _ => Or.inr
  | openAttempt p r n guard => exact h.keep le_rfl rfl rfl fun _ => Or.inr
  | start p r n timeoutSeconds now guard =>
    by_cases hr2 : p = "R2"
    · intro _ hp
      simp [hr2] at hp
    · refine h.keep (le_max_left ..) (by simp [hr2]) ?_ fun _ => Or.inr
      simp [r2Calls_append, hr2]
  | writeStdout p r n output running => exact h.keep le_rfl rfl rfl fun _ => Or.inr
  | schedule p r state matching budget free => exact h.keep le_rfl rfl rfl fun _ => Or.inr
  | endWait p r elapsed => exact h.keep le_rfl rfl rfl fun _ => Or.inr
  | pace route attempt requestedDueAt reason spaced => exact h.pace rfl spaced
  | endPacing elapsed =>
    exact h.keep le_rfl rfl rfl fun state hsome => Or.inl (elapsed state hsome)
  | accept p r output returned pairs party last checked => exact h.keep le_rfl rfl rfl fun _ => Or.inr

/-- **One step** keeps the invariant. -/
theorem LaneStep.inv (hstep : LaneStep policy valid l touched l') (h : LaneInv policy valid l) :
    LaneInv policy valid l' :=
  ⟨hstep.laneOk h.lane, hstep.timed h.lane h.timed, hstep.paced h.paced⟩

/-- The calls of R2 keep the interval. -/
def Spaced (policy : Policy) (l : Lanes) : Prop :=
  (r2Calls l).Pairwise fun a b => a.time + policy.r2MinIntervalSeconds * 1000 ≤ b.time

/-- **One step** keeps the interval, unless it is the first call by a process that
    found the last one unpaced. -/
theorem LaneStep.spaced (hserial : policy.r2Parallel = false)
    (hstep : LaneStep policy valid l touched l') (hpaced : Paced policy l)
    (hfresh : r2Calls l' ≠ r2Calls l → l.stale = false ∨ l.unpaced = false) (h : Spaced policy l) :
    Spaced policy l' := by
  cases hstep with
  | start p r n timeoutSeconds now guard =>
    by_cases hr2 : p = "R2"
    · simp only [r2Calls_append, hr2, if_true] at hfresh
      obtain ⟨hstate, hready⟩ := guard.paced hr2 hserial
      have hunpaced : l.unpaced = false := (hfresh (by simp)).elim hready fun h => h
      simp only [Spaced, r2Calls_append, hr2, if_true]
      refine List.pairwise_append.mpr ⟨h, List.pairwise_singleton .., fun t ht u hu => ?_⟩
      rw [List.mem_singleton.mp hu]
      rcases hpaced hserial hunpaced t ht with hdue | ⟨state, hsome, -⟩
      · exact hdue.trans (le_max_left ..)
      · exact nomatch hstate.symm.trans hsome
    · simpa [Spaced, r2Calls_append, hr2] using h
  | tick | openAttempt | writeStdout | schedule | endWait | pace | endPacing | accept => exact h

end step

end Quinte.Run
