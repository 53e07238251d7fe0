import Mathlib
import Quinte.Run.LaneSessions

/-! # Budgets, deadlines and pacing over restarts

    What the scheduler promises of its attempts, whoever advances the run and
    wherever it crashes.

    * The attempts of a lane are numbered upwards within the budget, and a
      retry deadline that is pending is that of the attempt that comes next
      (`attempts_within_budget`).
    * No retry starts before its deadline.  The calls of a serial R2 keep the
      interval as long as no process goes on with R2 after a crash during one
      of them (`r2_calls_spaced`): the next permitted start is removed before
      a call and written down again after it (`r2_calls_not_spaced`).
-/

namespace Quinte.Run

open Program

variable {s : RunDir} {c : Pool Pid RunDir Answer String}

/-! ### Runs for examples -/

/-- What the outside answers where every attempt succeeds at once. -/
def sampleAnswer : Answer where
  now := 0
  nonce := ""
  rotation := 0
  first := true
  build := .built
  process := none
  execution := .ok {
    output := some (.lane {
      laneOutputVersion := "1.0"
      taskRestatement := "review"
      verdict := "revise"
      confidence := 0
      claims := []
      residuals := []
      uncertainties := []
      limitations := [] })
    error := none
    retry := .never
    timedOut := false
    cancelled := false
    cleanupError := none }
  missingAdapters := []

/-- A process starts to advance the run and takes `n` steps. -/
def advanceFor (n : Nat) : List (Pool.Command Pid RunDir Answer String) :=
  .start 0 (advance 0 sampleHost >>= fun _ => pure ()) :: List.replicate n (.move 0 sampleAnswer)

/-- The first process dies after `n` steps, and a second one takes `m`. -/
def interrupted (n m : Nat) : List (Pool.Command Pid RunDir Answer String) :=
  advanceFor n ++ .crash 0 :: advanceFor m

theorem advanceFor_within (n : Nat) : ∀ x ∈ advanceFor n, x.Within RunCommand := by
  intro x hx
  rcases List.mem_cons.mp hx with rfl | hx
  · exact RunCommand.advance sampleHost
  · rw [List.eq_of_mem_replicate hx]
    trivial

theorem interrupted_within (n m : Nat) : ∀ x ∈ interrupted n m, x.Within RunCommand := by
  intro x hx
  rcases List.mem_append.mp hx with hx | hx
  · exact advanceFor_within n x hx
  · rcases List.mem_cons.mp hx with rfl | hx
    · trivial
    · exact advanceFor_within m x hx

theorem newRun_createdDir : NewRun createdDir :=
  ⟨⟨0, rfl⟩, rfl, fun _ => rfl⟩

/-- Carry out a schedule on the created run. -/
def carriedOut (ok : Pool.Label Pid → RunDir → RunDir → Prop)
    [∀ l s s', Decidable (ok l s s')] (xs : List (Pool.Command Pid RunDir Answer String)) :
    Option (Pool Pid RunDir Answer String) :=
  Pool.schedule ok (fun me s => s.control (·.release me)) xs (Pool.idle createdDir)

theorem laneRun_of_carriedOut {ok : Pool.Label Pid → RunDir → RunDir → Prop}
    [∀ l s s', Decidable (ok l s s')] {xs : List (Pool.Command Pid RunDir Answer String)}
    (hxs : ∀ x ∈ xs, x.Within RunCommand) (h : carriedOut ok xs = some c) :
    LaneRun ok createdDir c :=
  Pool.run_of_schedule ok Pool.Run.refl hxs h

/-! ### The budget of a lane -/

/-- **Attempts over restarts**: the attempts of a lane are opened and called in
    the order of their numbers, each at most once and none beyond the budget,
    and a pending retry deadline is that of the attempt `next_attempt` goes on
    with. -/
theorem attempts_within_budget (h : NewRun s) (hrun : LaneRun (fun _ _ _ => True) s c)
    (phase routeId : String) :
    (c.shared.attempts phase routeId).Pairwise (fun later earlier => earlier < later)
      ∧ (laneCalls c.shared.toLanes phase routeId).Pairwise (fun a b => a.attempt < b.attempt)
      ∧ (∀ t ∈ laneCalls c.shared.toLanes phase routeId,
          t.attempt ≤ c.shared.inputs.policy.maxAttempts)
      ∧ ∀ d, c.shared.retryDeadlines phase routeId = some d →
          nextAttempt phase routeId c.shared.inputs.policy.maxAttempts
              (c.shared.attempts phase routeId) = .ok d.nextAttempt
            ∧ d.isFor phase routeId d.nextAttempt = true := by
  obtain ⟨hinputs, -, hinv⟩ := run_inOrder h hrun
  have hlane := hinv.lane phase routeId
  rw [hinputs]
  refine ⟨hlane.descending, hlane.increasing, fun t ht => hlane.budget _ (hlane.opened t ht),
    fun d hd => ?_⟩
  obtain ⟨hfor, hbudget⟩ := hlane.pending d hd
  have hnext : d.nextAttempt = highestAttempt (c.shared.attempts phase routeId) + 1 :=
    (RetryDeadlineState.isFor_iff.mp hfor).2.2.2.1
  exact ⟨nextAttempt_ok.mpr ⟨hnext, hbudget⟩, hnext ▸ hfor⟩

/-- A run in which the first process dies during an R2 call. -/
theorem attempts_within_budget_sample : ∃ c, LaneRun (fun _ _ _ => True) createdDir c
    ∧ (laneCalls c.shared.toLanes "R2" "a").map (·.attempt) = [1, 2]
    ∧ (laneCalls c.shared.toLanes "R2" "a").Pairwise (fun a b => a.attempt < b.attempt) := by
  have hcalls : (carriedOut (fun _ _ _ => True) (interrupted 320 50)).map
      (fun c => (laneCalls c.shared.toLanes "R2" "a").map (·.attempt)) = some [1, 2] := by
    decide +kernel
  obtain ⟨c, hc, hcalls⟩ := Option.map_eq_some_iff.mp hcalls
  have hrun := laneRun_of_carriedOut (interrupted_within 320 50) hc
  exact ⟨c, hrun, hcalls, (attempts_within_budget newRun_createdDir hrun "R2" "a").2.1⟩

/-! ### Pacing -/

/-- No R2 call starts in a process that took the run over while the last one was
    not paced, and has not paced it since. -/
def NoUnpacedResume (_ : Pool.Label Pid) (s s' : RunDir) : Prop :=
  r2Calls s'.toLanes ≠ r2Calls s.toLanes → s.stale = false ∨ s.unpaced = false

instance (l : Pool.Label Pid) (s s' : RunDir) : Decidable (NoUnpacedResume l s s') :=
  inferInstanceAs (Decidable (_ → _))

/-- An allowed step that meets the condition keeps the interval. -/
theorem spaced_of_allowed {inputs : Inputs} (hserial : inputs.policy.r2Parallel = false)
    {l : Pool.Label Pid} {s s' : RunDir} (hinv : LanesInOrder inputs s)
    (h : Spaced inputs.policy s.toLanes) (hstep : Pool.Allowed (laneProtocol inputs) l s s')
    (hok : NoUnpacedResume l s s') : Spaced inputs.policy s'.toLanes := by
  cases l with
  | move me =>
    rcases hstep with ⟨-, hsame | ⟨-, touched, -, hlane⟩⟩ | ⟨-, hhand⟩
    · exact hsame ▸ h
    · exact hlane.spaced hserial hinv.2.2.paced hok h
    · cases hhand with
      | take free held lanes => exact lanes ▸ h
      | drop held free lanes => exact lanes ▸ h
  | crash me =>
    obtain rfl : s' = s.control (·.release me) := hstep
    exact h
  | start me | finish me =>
    obtain rfl : s' = s := hstep
    exact h

/-- **Pacing over restarts**: the calls of a serial R2 are at least the minimum
    interval apart where no process resumes unpaced; and no retry starts before
    the deadline that was written down for it. -/
theorem r2_calls_spaced (h : NewRun s) (hserial : s.inputs.policy.r2Parallel = false)
    (hrun : LaneRun NoUnpacedResume s c) :
    Spaced s.inputs.policy c.shared.toLanes
      ∧ ∀ d ∈ c.shared.scheduled, ∀ t ∈ laneCalls c.shared.toLanes d.phase d.routeId,
          t.attempt = d.nextAttempt → d.dueAt ≤ t.time := by
  refine ⟨?_, (run_inOrder h hrun).2.2.timed.due⟩
  refine Pool.run_invariant (laneProtocol_lawful s.inputs)
    (fun _ _ _ hm _ => safe_runCommand hm) (J := fun s' => Spaced s.inputs.policy s'.toLanes)
    (fun l s₁ s₂ hinv hs hstep hok => spaced_of_allowed hserial hinv hs hstep hok) hrun
    (Pool.sound_idle h.inOrder) ?_
  obtain ⟨clock, hlanes⟩ := h.lanes
  rw [Pool.idle, hlanes]
  exact List.Pairwise.nil

/-- A run that is not interrupted. -/
theorem r2_calls_spaced_sample : ∃ c, LaneRun NoUnpacedResume createdDir c
    ∧ (r2Calls c.shared.toLanes).map (fun t => (t.routeId, t.time)) = [("a", 0), ("b", 10000)]
    ∧ Spaced createdDir.inputs.policy c.shared.toLanes := by
  have hcalls : (carriedOut NoUnpacedResume (advanceFor 400)).map
      (fun c => (r2Calls c.shared.toLanes).map fun t => (t.routeId, t.time))
        = some [("a", 0), ("b", 10000)] := by
    decide +kernel
  obtain ⟨c, hc, hcalls⟩ := Option.map_eq_some_iff.mp hcalls
  have hrun := laneRun_of_carriedOut (advanceFor_within 400) hc
  exact ⟨c, hrun, hcalls, (r2_calls_spaced newRun_createdDir rfl hrun).1⟩

/-- **A crash during an R2 call**: the process that resumes the run calls the
    provider again at once. -/
theorem r2_calls_not_spaced : ¬∀ (s : RunDir) (c : Pool Pid RunDir Answer String), NewRun s →
    s.inputs.policy.r2Parallel = false → LaneRun (fun _ _ _ => True) s c →
    Spaced s.inputs.policy c.shared.toLanes := by
  intro hall
  have hcalls : (carriedOut (fun _ _ _ => True) (interrupted 320 50)).map
      (fun c => (r2Calls c.shared.toLanes).map (·.time)) = some [0, 0] := by
    decide +kernel
  obtain ⟨c, hc, hcalls⟩ := Option.map_eq_some_iff.mp hcalls
  have hspaced := hall createdDir c newRun_createdDir rfl
    (laneRun_of_carriedOut (interrupted_within 320 50) hc)
  have htimes : ([0, 0] : List Nat).Pairwise
      fun a b => a + createdDir.inputs.policy.r2MinIntervalSeconds * 1000 ≤ b :=
    hcalls ▸ List.pairwise_map.mpr hspaced
  exact absurd htimes (by decide)

end Quinte.Run
