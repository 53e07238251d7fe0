import Mathlib
import Quinte.Run.Scheduling

/-! # Timeouts of phases

    A policy may give each phase a timeout of its own.  A lane is started with
    the timeout of its phase, and so is an arbiter, but `run_retry_attempt`
    takes the timeout that all phases have by default.

    * `run_timed`: in every run, an attempt has the timeout of its phase, or
      the default one and a record of its retry;
    * `attempts_in_time`: where only lanes of phases with the default timeout
      are retried, all attempts of a run keep to the timeouts of their phases.
-/

namespace Quinte.Run

open Program

/-! ### What is noted of timeouts -/

/-- The records of accepted lanes and of retries in the ledger. -/
def laneRecords (s : RunDir) : List Event :=
  s.events.filter fun e => e.eventType ∈ ["lane.accepted", "lane.retry_started"]

/-- Everything that has been noted of timeouts. -/
def timing (s : RunDir) : Inputs × List AdapterBuild × List TransportStart × List Event :=
  (s.inputs, s.built, s.started, laneRecords s)

instance : Bystands timing where
  kinds := ["lane.accepted", "lane.retry_started"]
  ofLanes := by decide
  looks s s' h := by
    simp only [standing, Prod.mk.injEq] at h
    obtain ⟨hlanes, hinputs, -, hbuilt, hevents⟩ := h
    simp only [timing, laneRecords, hlanes, hinputs, hbuilt, hevents]

/-- A retry of this attempt has been started, by the ledger. -/
def RetryStarted (s : RunDir) (phase routeId : String) (attempt : Nat) : Prop :=
  ∃ e ∈ s.events, e.eventType = "lane.retry_started" ∧ e.phase = some phase
    ∧ e.attempt = some attempt ∧ e.data = .other (jsonObject [("route_id", jsonString routeId)])

/-- The timeout of an attempt: that of its phase, or the default for a retry. -/
def Timeout (policy : Policy) (s : RunDir) (phase routeId : String)
    (attempt timeoutSeconds : Nat) : Prop :=
  timeoutSeconds = policy.timeoutForPhase phase ∨
    timeoutSeconds = policy.timeoutSeconds ∧ RetryStarted s phase routeId attempt

/-- The record of an accepted lane says the timeout of its phase. -/
def RecordsTimeout (policy : Policy) (e : Event) : Prop :=
  ∃ phase fields, e.phase = some phase ∧ e.data = .other (jsonObject
    (fields ++ [("timeout_seconds", toString (policy.timeoutForPhase phase))]))

/-- All timeouts that have been noted. -/
structure TimeoutsKept (policy : Policy) (s : RunDir) : Prop where
  built : ∀ b ∈ s.built, Timeout policy s b.phase b.routeId b.attempt b.timeoutSeconds
  started : ∀ t ∈ s.started, Timeout policy s t.phase t.routeId t.attempt t.timeoutSeconds
  accepted : ∀ e ∈ s.events, e.eventType = "lane.accepted" → RecordsTimeout policy e

/-- The records of retries stay. -/
def Grows (s s' : RunDir) : Prop :=
  ∀ e ∈ s.events, e.eventType = "lane.retry_started" → e ∈ s'.events

section timed

variable {policy : Policy} {s s' : RunDir}

theorem RetryStarted.mono {phase routeId : String} {attempt : Nat}
    (h : RetryStarted s phase routeId attempt) (hgrows : Grows s s') :
    RetryStarted s' phase routeId attempt := by
  obtain ⟨e, he, htype, hfor⟩ := h
  exact ⟨e, hgrows e he htype, htype, hfor⟩

theorem Timeout.mono {phase routeId : String} {attempt timeoutSeconds : Nat}
    (h : Timeout policy s phase routeId attempt timeoutSeconds) (hgrows : Grows s s') :
    Timeout policy s' phase routeId attempt timeoutSeconds :=
  h.imp_right fun ⟨hdefault, hretry⟩ => ⟨hdefault, hretry.mono hgrows⟩

theorem mem_events_of_timing (hsame : timing s' = timing s) {e : Event}
    (htype : e.eventType ∈ ["lane.accepted", "lane.retry_started"]) :
    e ∈ s'.events ↔ e ∈ s.events := by
  have hrecords : laneRecords s' = laneRecords s := congrArg (·.2.2.2) hsame
  have hmem : ∀ t : RunDir, e ∈ t.events ↔ e ∈ laneRecords t := by
    intro t
    rw [laneRecords, List.mem_filter, decide_eq_true_iff]
    exact (and_iff_left htype).symm
  rw [hmem, hmem, hrecords]

theorem grows_of_timing (h : timing s' = timing s) : Grows s s' :=
  fun _ he htype => (mem_events_of_timing h (by simp [htype])).mpr he

theorem TimeoutsKept.of_timing (h : TimeoutsKept policy s) (hsame : timing s' = timing s) :
    TimeoutsKept policy s' := by
  have hgrows := grows_of_timing hsame
  have hbuilt : s'.built = s.built := congrArg (·.2.1) hsame
  have hstarted : s'.started = s.started := congrArg (·.2.2.1) hsame
  refine ⟨?_, ?_, ?_⟩
  · rw [hbuilt]
    exact fun b hb => (h.built b hb).mono hgrows
  · rw [hstarted]
    exact fun t ht => (h.started t ht).mono hgrows
  · intro e he htype
    exact h.accepted e ((mem_events_of_timing hsame (by simp [htype])).mp he) htype

end timed

/-! ### The contract -/

/-- A thread in a run with these inputs. -/
def timeContract (inputs : Inputs) : Contract RunDir where
  inv s := s.inputs = inputs ∧ TimeoutsKept inputs.policy s
  rely := Grows
  guar s s' := Grows s s' ∧ s'.inputs = s.inputs
    ∧ (TimeoutsKept inputs.policy s → TimeoutsKept inputs.policy s')

section contract

variable {inputs : Inputs} {me : Pid} {α β : Type} {known : List (String × String × Nat)}

theorem timeContract_lawful : (timeContract inputs).Lawful where
  rely_refl _ _ he _ := he
  rely_trans _ _ _ h h' e he htype := h' e (h e he htype) htype
  guar_refl _ := ⟨fun _ he _ => he, rfl, id⟩

/-- All threads of a process are under the same contract. -/
theorem timeContract_threads :
    (timeContract inputs).Threads (timeContract inputs) (timeContract inputs) where
  lawful := timeContract_lawful
  lawful₁ := timeContract_lawful
  lawful₂ := timeContract_lawful
  inv₁ _ := id
  inv₂ _ := id
  rely₁ _ _ := id
  rely₂ _ _ := id
  guar₁ _ _ _ h := ⟨h.1, h⟩
  guar₂ _ _ _ h := ⟨h.1, h⟩

theorem time_guar_of_timing {s s' : RunDir} (h : timing s' = timing s) :
    (timeContract inputs).guar s s' :=
  ⟨grows_of_timing h, congrArg (·.1) h, fun htimed => htimed.of_timing h⟩

/-- The retries of these attempts have been started. -/
def Known (known : List (String × String × Nat)) (s : RunDir) : Prop :=
  ∀ k ∈ known, RetryStarted s k.1 k.2.1 k.2.2

theorem Known.mono {s s' : RunDir} (h : Known known s) (hgrows : Grows s s') : Known known s' :=
  fun k hk => (h k hk).mono hgrows

/-- A program that keeps the timeouts, once these retries have been started. -/
def InTime (inputs : Inputs) (known : List (String × String × Nat)) (p : Proc α) : Prop :=
  ∀ s, Known known s → Upholds (timeContract inputs) (fun _ t => Known known t) p s

theorem InTime.of_leaves {p : Proc α} (hp : Leaves timing p) : InTime inputs known p := by
  intro s hs
  refine (hp.upholds (fun _ _ => time_guar_of_timing) timeContract_lawful.rely_refl
    timeContract_lawful.rely_trans (fun _ _ h => h) (fun _ _ => grows_of_timing) s).mono ?_
  exact fun _ t ht => hs.mono ht

theorem InTime.bind {p : Proc α} {f : α → Proc β} (hp : InTime inputs known p)
    (hf : ∀ a, InTime inputs known (f a)) : InTime inputs known (p >>= f) := by
  intro s hs
  refine Upholds.bind timeContract_lawful ((hp s hs).stable timeContract_lawful |>.mono ?_)
  intro r t ht
  cases r with
  | ok a => exact hf a t (ht t (timeContract_lawful.rely_refl t))
  | error e => exact ht t (timeContract_lawful.rely_refl t)

theorem InTime.attempt {p : Proc α} (hp : InTime inputs known p) :
    InTime inputs known p.attempt :=
  fun s hs => Upholds.attempt (hp s hs)

/-- A program that leaves the timeouts alone comes first. -/
theorem InTime.after {p : Proc α} {f : α → Proc β} (hp : Leaves timing p)
    (hf : ∀ a, InTime inputs known (f a)) : InTime inputs known (p >>= f) :=
  InTime.bind (InTime.of_leaves hp) hf

theorem InTime.pure (a : α) : InTime inputs known (pure a : Proc α) :=
  InTime.of_leaves (leaves_pure a)

theorem InTime.throw (e : String) : InTime inputs known (.throw e : Proc α) :=
  InTime.of_leaves (leaves_throw e)

theorem InTime.bracket {enter leave : Proc Unit} {p : Proc α} (henter : Leaves timing enter)
    (hleave : Leaves timing leave) (hp : InTime inputs known p) :
    InTime inputs known (Prog.bracket enter leave p) :=
  InTime.after henter fun _ => InTime.bind hp.attempt fun _ =>
    InTime.after hleave fun _ => InTime.of_leaves (leaves_ofExcept _)

theorem InTime.interleave {first : Answer → Bool} {p : Proc α} {q : Proc β}
    (hp : InTime inputs known p) (hq : InTime inputs known q) :
    InTime inputs known (Prog.interleave first p q) := by
  intro s hs
  refine (Upholds.interleave timeContract_threads first (hp s hs) (hq s hs)).mono ?_
  exact fun _ t ⟨_, _, _, h, _⟩ => h

/-- A step that notes something of timeouts. -/
theorem InTime.step {update : RunDir → RunDir} (hgrows : ∀ s, Grows s (update s))
    (hinputs : ∀ s, (update s).inputs = s.inputs)
    (htimed : ∀ s, Known known s → TimeoutsKept inputs.policy s →
      TimeoutsKept inputs.policy (update s)) :
    InTime inputs known (Prog.modify update : Proc Unit) := by
  intro s hs
  refine Upholds.modify_end fun t hst _ => ?_
  have hknown : Known known t := hs.mono hst
  exact ⟨⟨hgrows t, hinputs t, htimed t hknown⟩, fun u hu => (hknown.mono (hgrows t)).mono hu⟩

end contract

/-! ### Waiting and pacing -/

section lanes

variable {inputs : Inputs} {me : Pid} {host : Host} {manifest : RunManifest} {phase : String}
  {route : RoutePolicy} {known : List (String × String × Nat)}

theorem leaves_clock : Leaves timing Proc.clock :=
  (leaves_answer _).bind fun _ => ⟨fun _ _ => rfl, fun _ => trivial⟩

theorem leaves_waitCancellable {due : Nat} : Leaves timing (waitCancellable due) := by
  refine ⟨fun s _ => ?_, fun _ => trivial⟩
  dsimp only
  split <;> rfl

theorem leaves_waitUntil {now due : Nat} : Leaves timing (waitUntil me manifest now due) := by
  unfold waitUntil
  split
  · refine leaves_waitCancellable.bind fun cancelled => ?_
    split
    · exact leaves_cancelRun.bind fun _ => leaves_throw _
    · exact leaves_pure _
  · exact leaves_pure _

theorem leaves_waitForRetryDeadline {attempt : Nat} :
    Leaves timing (waitForRetryDeadline me manifest phase route attempt) := by
  refine (leaves_read _).bind fun state => ?_
  cases state with
  | none => exact leaves_pure _
  | some state =>
    exact (leaves_ensure _ _).bind fun _ => leaves_clock.bind fun _ =>
      (leaves_event (by decide)).bind fun _ => leaves_waitUntil.bind fun _ =>
        (leaves_modify _).mpr fun _ => rfl

theorem leaves_persistR2PacingUntil {attempt requestedDueAt : Nat} {reason : String} :
    Leaves timing (persistR2PacingUntil route attempt requestedDueAt reason) :=
  (leaves_modify _).mpr fun _ => rfl

theorem leaves_persistR2Pacing {attempt intervalSeconds : Nat} {reason : String} :
    Leaves timing (persistR2Pacing route attempt intervalSeconds reason) :=
  leaves_clock.bind fun _ => leaves_persistR2PacingUntil

theorem leaves_waitForR2Pacing {attempt : Nat} :
    Leaves timing (waitForR2Pacing me manifest route attempt) := by
  refine (leaves_read _).bind fun state => ?_
  cases state with
  | none => exact leaves_pure _
  | some state =>
    exact (leaves_ensure _ _).bind fun _ => leaves_clock.bind fun _ =>
      (leaves_event (by decide)).bind fun _ => leaves_waitUntil.bind fun _ =>
        (leaves_modify _).mpr fun _ => rfl

theorem leaves_staggered : Leaves timing (staggered me host manifest) := by
  unfold staggered
  split
  · exact leaves_pure _
  · refine leaves_clock.bind fun _ => leaves_waitCancellable.bind fun cancelled => ?_
    split
    · exact leaves_cancelRun.attempt.bind fun _ => leaves_pure _
    · exact leaves_pure _

/-! ### One attempt -/

/-- A timeout that the attempt may have, once these retries have been started. -/
def MayHave (policy : Policy) (known : List (String × String × Nat)) (phase routeId : String)
    (attempt timeoutSeconds : Nat) : Prop :=
  timeoutSeconds = policy.timeoutForPhase phase ∨
    timeoutSeconds = policy.timeoutSeconds ∧ (phase, routeId, attempt) ∈ known

theorem MayHave.timeout {policy : Policy} {routeId : String} {attempt timeoutSeconds : Nat}
    {s : RunDir} (h : MayHave policy known phase routeId attempt timeoutSeconds)
    (hknown : Known known s) : Timeout policy s phase routeId attempt timeoutSeconds :=
  h.imp_right fun ⟨hdefault, hretry⟩ => ⟨hdefault, hknown _ hretry⟩

/-- The adapter of an attempt is built with a timeout that it may have. -/
theorem inTime_build {routeId : String} {attempt timeoutSeconds : Nat}
    (h : MayHave inputs.policy known phase routeId attempt timeoutSeconds) :
    InTime inputs known (build phase routeId attempt timeoutSeconds) := by
  have hopen : InTime inputs known (openBuilt phase routeId attempt timeoutSeconds) := by
    refine InTime.step (fun _ _ he _ => he) (fun _ => rfl) fun s hknown hkept => ?_
    refine ⟨fun b hb => ?_, hkept.started, hkept.accepted⟩
    rcases List.mem_append.mp hb with hb | hb
    · exact hkept.built b hb
    · rw [List.mem_singleton.mp hb]
      exact h.timeout hknown
  refine InTime.after (leaves_answer _) fun answer => ?_
  cases answer with
  | unavailable error => exact InTime.throw error
  | failed error => exact hopen.bind fun _ => InTime.throw error
  | built => exact hopen

theorem inTime_startTransport {routeId : String} {attempt timeoutSeconds : Nat}
    (h : MayHave inputs.policy known phase routeId attempt timeoutSeconds) :
    InTime inputs known (startTransport phase routeId attempt timeoutSeconds) := by
  refine InTime.after (leaves_answer _) fun now => ?_
  refine InTime.step (fun _ _ he _ => he) (fun _ => rfl) fun s hknown hkept => ?_
  refine ⟨hkept.built, fun t ht => ?_, hkept.accepted⟩
  rcases List.mem_append.mp ht with ht | ht
  · exact hkept.started t ht
  · rw [List.mem_singleton.mp ht]
    exact h.timeout hknown

theorem inTime_execute {routeId : String} {attempt timeoutSeconds : Nat}
    (h : MayHave inputs.policy known phase routeId attempt timeoutSeconds) :
    InTime inputs known (execute me phase routeId attempt timeoutSeconds) := by
  refine InTime.after (leaves_answer _) fun process => ?_
  cases process with
  | none =>
    exact (inTime_startTransport h).bind fun _ => InTime.after (leaves_answer _) fun _ =>
      InTime.of_leaves (leaves_ofExcept _)
  | some process =>
    refine InTime.after leaves_registerProcess fun registered => ?_
    split
    · exact (inTime_startTransport h).bind fun _ => InTime.after (leaves_answer _) fun _ =>
        InTime.after leaves_removeActiveProcess fun _ => InTime.of_leaves (leaves_ofExcept _)
    · exact InTime.pure _

/-- **`run_attempt`** runs under the timeout it is given. -/
theorem inTime_runAttempt {attempt timeoutSeconds maxAttempts : Nat}
    (h : MayHave inputs.policy known phase route.routeId attempt timeoutSeconds) :
    InTime inputs known
      (runAttempt me manifest route phase attempt timeoutSeconds maxAttempts) := by
  refine InTime.after (leaves_read _) fun cancelled => ?_
  split
  · exact InTime.pure _
  · exact InTime.after ((leaves_modify _).mpr fun _ => rfl) fun _ =>
      InTime.after (leaves_event (by decide)) fun _ => (inTime_execute h).bind fun _ =>
        InTime.after ((leaves_modify _).mpr fun _ => rfl) fun _ =>
          InTime.after (leaves_read _) fun _ =>
            InTime.after (leaves_event (by decide)) fun _ => InTime.pure _

/-! ### Retries -/

/-- A step that may be skipped. -/
theorem InTime.when {α : Type} {b : Bool} {p : Proc Unit} {k : Unit → Proc α}
    (hp : Leaves timing p) (hk : ∀ u, InTime inputs known (k u)) :
    InTime inputs known (if b = true then p >>= k else k ()) := by
  split
  · exact InTime.after hp hk
  · exact hk ()

/-- A record is added to the ledger. -/
theorem keeps_append {policy : Policy} {s : RunDir} {e : Event}
    (he : e.eventType = "lane.accepted" → RecordsTimeout policy e) (h : TimeoutsKept policy s) :
    TimeoutsKept policy { s with events := s.events ++ [e] } := by
  have hgrows : Grows s { s with events := s.events ++ [e] } :=
    fun _ he _ => List.mem_append_left _ he
  refine ⟨fun b hb => (h.built b hb).mono hgrows, fun t ht => (h.started t ht).mono hgrows, ?_⟩
  intro e' he' htype
  rcases List.mem_append.mp he' with he' | he'
  · exact h.accepted e' he' htype
  · rw [List.mem_singleton.mp he'] at htype ⊢
    exact he htype

/-- **The record of a retry** is in the ledger once it has been made. -/
theorem upholds_retryStarted {runId routeId : String} {party : Option String} {attempt : Nat}
    (s : RunDir) :
    Upholds (timeContract inputs) (Returns fun _ t => Known [(phase, routeId, attempt)] t)
      (Store.event me runId "lane.retry_started" (some phase) party (some attempt)
        (jsonObject [("route_id", jsonString routeId)])) s := by
  have hdrop : ∀ t : RunDir, timing (t.control (·.drop me .events)) = timing t :=
    (leaves_modify _).mp (leaves_dropLock (by decide))
  refine Upholds.answer fun now => ?_
  refine Upholds.bracket timeContract_lawful fun t _ _ _ => ⟨time_guar_of_timing rfl, ?_⟩
  refine leaves_readEvents.upholds_bind timeContract_lawful (fun _ _ => time_guar_of_timing)
    (fun _ _ => grows_of_timing) (fun existing u _ => ?_) fun _ u _ => ?_
  · dsimp only
    rw [if_neg (by decide)]
    refine Upholds.ensure (fun _ => ?_) fun _ v _ w _ _ => ?_
    · have hkind : "lane.retry_started" ≠ "lane.accepted" := by decide
      refine Upholds.modify fun v _ _ => ⟨⟨fun _ he _ => List.mem_append_left _ he, rfl, fun h =>
        keeps_append (fun htype => absurd htype hkind) h⟩, ?_⟩
      intro w hw x hx _
      refine ⟨time_guar_of_timing (hdrop x), fun y hy k hk => ?_⟩
      rw [List.mem_singleton.mp hk]
      have hrecorded := hx _ (hw _ (List.mem_append_right _ (List.mem_singleton_self _)) rfl) rfl
      exact ⟨_, hy _ ((grows_of_timing (hdrop x)) _ hrecorded rfl) rfl, rfl, rfl, rfl, rfl⟩
    · exact ⟨time_guar_of_timing (hdrop w), fun _ _ => trivial⟩
  · exact fun w _ _ => ⟨time_guar_of_timing (hdrop w), fun _ _ => trivial⟩

/-- What follows the record of a retry runs where the retry has been started. -/
theorem InTime.retried {α : Type} {runId routeId : String} {party : Option String} {attempt : Nat}
    {k : Event → Proc α} (hk : ∀ e, InTime inputs [(phase, routeId, attempt)] (k e)) :
    InTime inputs [] (Store.event me runId "lane.retry_started" (some phase) party (some attempt)
      (jsonObject [("route_id", jsonString routeId)]) >>= k) := by
  intro s _
  refine Upholds.bind timeContract_lawful ((upholds_retryStarted s).mono fun r t ht => ?_)
  cases r with
  | ok e => exact (hk e t ht).mono fun _ _ _ _ hk => nomatch hk
  | error _ => exact fun _ hk => nomatch hk

/-- **`run_retry_attempt`** takes the default timeout, for a retry that it has
    noted as started. -/
theorem inTime_runRetryAttempt {attempt : Nat} {retry : RetryClass} :
    InTime inputs []
      (runRetryAttempt me host inputs.policy manifest phase route attempt retry) := by
  refine InTime.after (leaves_ofExcept _) fun schedule => ?_
  refine InTime.after leaves_clock fun now => ?_
  refine InTime.after ((leaves_modify _).mpr fun _ => rfl) fun _ => ?_
  refine InTime.when leaves_persistR2PacingUntil fun _ => ?_
  refine InTime.after (leaves_event (by decide)) fun _ => ?_
  refine InTime.after leaves_waitForRetryDeadline fun _ => ?_
  refine InTime.when leaves_waitForR2Pacing fun _ => ?_
  refine InTime.retried fun _ => ?_
  have htimeout : MayHave inputs.policy [(phase, route.routeId, attempt + 1)] phase route.routeId
      (attempt + 1) inputs.policy.timeoutSeconds :=
    Or.inr ⟨rfl, List.mem_singleton_self _⟩
  refine InTime.bind (inTime_build htimeout) fun _ => ?_
  refine InTime.bind (inTime_runAttempt htimeout) fun outcome => ?_
  exact InTime.when leaves_persistR2Pacing fun _ => InTime.pure _

/-! ### Accepting a lane -/

/-- The record of an accepted lane, with the timeout of its phase. -/
theorem inTime_accepted {runId : String} {party : Option String} {attempt : Option Nat}
    {fields : List (String × String)} :
    InTime inputs known (Store.event me runId "lane.accepted" (some phase) party attempt
      (jsonObject (fields ++
        [("timeout_seconds", toString (inputs.policy.timeoutForPhase phase))]))) := by
  refine InTime.after (leaves_answer _) fun now => ?_
  refine InTime.bracket (leaves_takeLock (by decide)) (leaves_dropLock (by decide)) ?_
  refine InTime.after leaves_readEvents fun existing => ?_
  dsimp only
  split
  · exact InTime.pure _
  refine InTime.after (leaves_ensure _ _) fun _ => InTime.bind ?_ fun _ => InTime.pure _
  refine InTime.step (fun _ _ he _ => List.mem_append_left _ he) (fun _ => rfl) fun s _ hkept => ?_
  exact keeps_append (fun _ => ⟨phase, fields, rfl, rfl⟩) hkept

theorem inTime_acceptLane {firstAttempt attempt : Nat} {output : LaneOutput} :
    InTime inputs known
      (acceptLane me inputs.policy manifest phase route firstAttempt attempt output) := by
  refine InTime.after (leaves_read _) fun valid => ?_
  refine InTime.after (leaves_ofExcept _) fun checked => ?_
  have haccept : InTime inputs known (do
      writeAccepted phase route.routeId checked.1
      let lane := laneAccepted phase route checked.1
      let _ ← Store.event me manifest.runId "lane.accepted" (some phase) (some route.partyId)
        (some attempt) (jsonObject [
          ("route_id", jsonString route.routeId),
          ("artifact", jsonString lane.artifactRef),
          ("attempts", toString attempt),
          ("retries", toString (attempt - firstAttempt)),
          ("phase", jsonString phase),
          ("timeout_seconds", toString (inputs.policy.timeoutForPhase phase))])
      return lane) :=
    InTime.after ((leaves_modify _).mpr fun _ => rfl) fun _ =>
      InTime.bind (@inTime_accepted inputs me phase known _ _ _ [_, _, _, _, _]) fun _ =>
        InTime.pure _
  dsimp only
  split
  · exact InTime.after (leaves_event (by decide)) fun _ => haccept
  · exact haccept

/-- **A lane** is accepted or retried in time. -/
theorem inTime_acceptOrRetryLoop {firstAttempt budget attempt : Nat} {outcome : AttemptOutcome} :
    InTime inputs [] (acceptOrRetryLoop me host inputs.policy manifest phase route firstAttempt
      budget attempt outcome) := by
  induction budget generalizing attempt outcome with
  | zero =>
    unfold acceptOrRetryLoop
    refine InTime.after (leaves_read _) fun cancelled => ?_
    split
    · exact InTime.after leaves_cancelRun fun _ => InTime.throw _
    cases outcome.output with
    | none => exact InTime.throw _
    | some output =>
      cases output with
      | arbiter verdict => exact InTime.throw _
      | lane output => exact inTime_acceptLane
  | succ budget ih =>
    unfold acceptOrRetryLoop
    refine InTime.after (leaves_read _) fun cancelled => ?_
    split
    · exact InTime.after leaves_cancelRun fun _ => InTime.throw _
    cases outcome.output with
    | none =>
      cases retryAllowed outcome.retry attempt inputs.policy.maxAttempts with
      | false => exact InTime.throw _
      -- the retry is known by its record, and forgotten after the attempt
      | true => exact InTime.bind inTime_runRetryAttempt fun outcome => ih
    | some output =>
      cases output with
      | arbiter verdict => exact InTime.throw _
      | lane output => exact inTime_acceptLane

theorem inTime_awaitArbiterLoop {budget attempt : Nat} {outcome : AttemptOutcome} :
    InTime inputs [] (awaitArbiterLoop me host inputs.policy manifest phase route budget attempt
      outcome) := by
  induction budget generalizing attempt outcome with
  | zero =>
    unfold awaitArbiterLoop
    refine InTime.after (leaves_read _) fun cancelled => ?_
    split
    · exact InTime.pure _
    cases outcome.output with
    | none => exact InTime.throw _
    | some output =>
      cases output with
      | arbiter verdict =>
        exact InTime.after (leaves_read _) fun _ => InTime.after (leaves_ofExcept _) fun _ =>
          InTime.pure _
      | lane output => exact InTime.throw _
  | succ budget ih =>
    unfold awaitArbiterLoop
    refine InTime.after (leaves_read _) fun cancelled => ?_
    split
    · exact InTime.pure _
    cases outcome.output with
    | none =>
      cases retryAllowed outcome.retry attempt inputs.policy.maxAttempts with
      | false => exact InTime.throw _
      | true => exact InTime.bind inTime_runRetryAttempt fun outcome => ih
    | some output =>
      cases output with
      | arbiter verdict =>
        exact InTime.after (leaves_read _) fun _ => InTime.after (leaves_ofExcept _) fun _ =>
          InTime.pure _
      | lane output => exact InTime.throw _

/-! ### Phases -/

theorem leaves_nextAttempts {routes : List RoutePolicy} :
    Leaves timing (nextAttempts phase inputs.policy routes) := by
  induction routes with
  | nil => exact leaves_pure _
  | cons route routes ih =>
    exact (leaves_read _).bind fun _ => (leaves_ofExcept _).bind fun _ => ih.bind fun _ =>
      leaves_pure _

theorem inTime_buildLanes {pending : List (RoutePolicy × Nat)} :
    InTime inputs known (buildLanes me inputs.policy manifest phase pending) := by
  induction pending with
  | nil => exact InTime.pure _
  | cons lane pending ih =>
    exact InTime.after leaves_waitForRetryDeadline fun _ =>
      InTime.bind (inTime_build (Or.inl rfl)) fun _ => ih

theorem inTime_spawnLanes {pending : List (RoutePolicy × Nat)} :
    InTime inputs known (spawnLanes me host inputs.policy manifest phase pending) := by
  induction pending with
  | nil => exact InTime.pure _
  | cons lane pending ih =>
    refine InTime.bind (InTime.interleave (inTime_runAttempt (Or.inl rfl)) ?_) fun joined =>
      InTime.after (leaves_ofExcept _) fun _ => InTime.pure _
    split
    · exact InTime.pure _
    · refine InTime.after leaves_staggered fun cancelled => ?_
      split
      · exact InTime.pure _
      · exact ih

theorem inTime_acceptLanes {finished : List (RoutePolicy × Nat × AttemptOutcome)} :
    InTime inputs [] (acceptLanes me host inputs.policy manifest phase finished) := by
  induction finished with
  | nil => exact InTime.pure _
  | cons lane finished ih =>
    refine InTime.bind inTime_acceptOrRetryLoop.attempt fun accepted => ?_
    refine InTime.bind ih fun rest => ?_
    cases accepted <;> exact InTime.pure _

theorem inTime_fanOut {missing : List RoutePolicy} :
    InTime inputs [] (fanOut me host inputs.policy manifest phase missing) := by
  refine InTime.after leaves_nextAttempts fun pending => InTime.bind inTime_buildLanes fun _ =>
    InTime.bind inTime_spawnLanes fun fanout => ?_
  split
  · exact InTime.throw _
  split
  · exact InTime.throw _
  refine InTime.bind inTime_acceptLanes fun accepted => ?_
  dsimp only
  split
  · exact InTime.throw _
  · exact InTime.pure _

theorem inTime_runSerial {missing : List RoutePolicy} :
    InTime inputs [] (runSerial me host inputs.policy manifest phase missing) := by
  induction missing with
  | nil => exact InTime.pure _
  | cons route missing ih =>
    exact InTime.after (leaves_read _) fun _ => InTime.after (leaves_ofExcept _) fun _ =>
      InTime.after leaves_waitForRetryDeadline fun _ => InTime.after leaves_waitForR2Pacing fun _ =>
        InTime.bind (inTime_build (Or.inl rfl)) fun _ =>
          InTime.bind (inTime_runAttempt (Or.inl rfl)) fun _ =>
            InTime.after leaves_persistR2Pacing fun _ =>
              InTime.bind inTime_acceptOrRetryLoop fun _ => InTime.bind ih fun _ => InTime.pure _

/-- **`run_phase`** starts its lanes in time. -/
theorem inTime_runPhase : InTime inputs [] (runPhase me host inputs.policy manifest phase) := by
  refine InTime.after (leaves_read _) fun existing => ?_
  refine InTime.after (leaves_ofExcept _) fun accepted => ?_
  dsimp only
  split
  · exact InTime.bind inTime_fanOut fun _ => InTime.after (leaves_ensure _ _) fun _ =>
      InTime.after (leaves_read _) fun _ => InTime.after (leaves_event (by decide)) fun _ =>
        InTime.pure _
  · exact InTime.bind inTime_runSerial fun _ => InTime.after (leaves_ensure _ _) fun _ =>
      InTime.after (leaves_read _) fun _ => InTime.after (leaves_event (by decide)) fun _ =>
        InTime.pure _

/-- **The lane of an arbiter** starts in time. -/
theorem inTime_runArbiter :
    InTime inputs [] (runArbiter me host inputs.policy manifest route) :=
  InTime.after (leaves_read _) fun _ => InTime.after (leaves_ofExcept _) fun _ =>
    InTime.after leaves_waitForRetryDeadline fun _ =>
      InTime.bind (inTime_build (Or.inl rfl)) fun _ =>
        InTime.bind (inTime_runAttempt (Or.inl rfl)) fun _ => inTime_awaitArbiterLoop

/-! ### `advance` -/

theorem InTime.andThen {α : Type} {stage : Proc (Stage α)} {next : α → Proc RunStatus}
    (hstage : InTime inputs known stage) (hnext : ∀ a, InTime inputs known (next a)) :
    InTime inputs known (Stage.andThen stage next) := by
  refine InTime.bind hstage fun outcome => ?_
  cases outcome with
  | done status => exact InTime.pure _
  | go a => exact hnext a

theorem inTime_enterPhase {running : RunStatus} {code : String} :
    InTime inputs [] (enterPhase me host inputs.policy manifest phase running code) := by
  refine InTime.after (leaves_read _) fun complete => ?_
  split
  · exact InTime.after (leaves_read _) fun _ => InTime.after (leaves_ofExcept _) fun _ =>
      InTime.pure _
  refine InTime.after leaves_stageTransition fun stage => ?_
  cases stage with
  | done status => exact InTime.pure _
  | go manifest =>
    refine InTime.bind inTime_runPhase.attempt fun ran => ?_
    cases ran with
    | ok lanes => exact InTime.pure _
    | error message => exact InTime.of_leaves leaves_stageFails

theorem inTime_enterR2 {brief : Brief} {r1 : List LaneAccepted} :
    InTime inputs [] (enterR2 me host inputs.policy brief manifest r1) := by
  refine InTime.after (leaves_read _) fun skipped => ?_
  split
  · split
    · exact InTime.after ((leaves_modify _).mpr fun _ => rfl) fun _ => InTime.pure _
    · exact InTime.pure _
  refine InTime.after leaves_ensureR2Packet fun stage => ?_
  cases stage with
  | done status => exact InTime.pure _
  | go manifest => exact inTime_enterPhase

theorem inTime_enterCounterpart :
    InTime inputs [] (enterCounterpart me host inputs.policy manifest) := by
  refine InTime.after (leaves_read _) fun existing => ?_
  split
  · exact InTime.pure _
  refine InTime.after leaves_stageTransition fun stage => ?_
  cases stage with
  | done status => exact InTime.pure _
  | go manifest =>
    refine InTime.bind inTime_runArbiter.attempt fun ran => ?_
    rcases ran with message | _ | verdict
    · dsimp only
      split
      · exact InTime.pure _
      · exact InTime.of_leaves leaves_stageFails
    · exact InTime.after leaves_cancelRun fun _ => InTime.pure _
    · exact InTime.after ((leaves_modify _).mpr fun _ => rfl) fun _ => InTime.pure _

theorem inTime_runPrimary {brief : Brief} :
    InTime inputs [] (runPrimary me host inputs.policy brief manifest) := by
  refine InTime.bind inTime_runArbiter.attempt fun ran => ?_
  rcases ran with message | _ | verdict
  · exact InTime.of_leaves leaves_stageFails
  · exact InTime.after leaves_cancelRun fun _ => InTime.pure _
  · dsimp only
    cases boundPrimaryResponse manifest verdict with
    | error message => exact InTime.of_leaves leaves_stageFails
    | ok response =>
      refine InTime.after leaves_stagePrimaryResponse fun staged => ?_
      rcases staged with ⟨manifest, message | _⟩
      · exact InTime.of_leaves leaves_stageFails
      · exact InTime.pure _

theorem inTime_enterPrimary {brief : Brief} :
    InTime inputs [] (enterPrimary me host inputs.policy brief manifest) := by
  unfold enterPrimary
  split
  case isFalse => exact InTime.pure _
  refine InTime.after leaves_ensureChallenge fun stage => ?_
  cases stage with
  | done status => exact InTime.pure _
  | go manifest =>
    refine InTime.after leaves_ensurePrimaryArbiterPacket.attempt fun packet => ?_
    cases packet with
    | error message => exact InTime.of_leaves leaves_stageFails
    | ok _ => exact inTime_runPrimary

theorem inTime_enterR3 {brief : Brief} {r1 r2 : List LaneAccepted} :
    InTime inputs [] (enterR3 me host inputs.policy brief manifest r1 r2) := by
  refine InTime.after leaves_ensureEvidencePacket fun _ => ?_
  refine InTime.andThen inTime_enterCounterpart fun manifest => ?_
  refine InTime.andThen (InTime.of_leaves leaves_bindInputs) fun manifest => ?_
  refine InTime.andThen inTime_enterPrimary fun manifest => ?_
  split
  · exact InTime.of_leaves leaves_awaitSubmission
  · exact InTime.of_leaves leaves_mergeSubmission

/-- **`advance`** reads the policy of the run. -/
theorem inTime_advanceLocked : InTime inputs [] (advanceLocked me host) := by
  refine InTime.after leaves_reconcileOrphanProcesses fun _ => ?_
  refine InTime.after leaves_loadManifest fun manifest => ?_
  split
  · exact InTime.pure _
  intro s hs
  refine Upholds.read timeContract_lawful fun t ht hinv => ?_
  have hinputs : t.inputs = inputs := hinv.1
  have hstages : InTime inputs [] (advanceStages me host inputs.policy inputs.brief manifest) :=
    InTime.andThen (InTime.of_leaves leaves_preflight) fun _ =>
      InTime.andThen inTime_enterPhase fun _ =>
        InTime.andThen (InTime.of_leaves leaves_passGate) fun _ =>
          InTime.andThen inTime_enterR2 fun _ =>
            InTime.andThen (InTime.of_leaves leaves_passGate) fun _ => inTime_enterR3
  rw [hinputs]
  refine (InTime.after (leaves_read _) fun verified => ?_) t (hs.mono ht)
  cases verified with
  | error message => exact InTime.after leaves_failRun fun _ => InTime.pure _
  | ok _ => exact hstages

end lanes

/-! ### Runs -/

/-- The protocol of the timeouts, in a run with these inputs. -/
def timeProtocol (inputs : Inputs) : Protocol Pid RunDir where
  inv s := s.inputs = inputs ∧ TimeoutsKept inputs.policy s
  guar _ s s' := (timeContract inputs).guar s s'
  crash me s := s.control (·.release me)

section runs

variable {inputs : Inputs} {me : Pid} {host : Host} {s s' : RunDir} {α : Type}
  {c : Pool Pid RunDir Answer String}

theorem timeProtocol_lawful (inputs : Inputs) : (timeProtocol inputs).Lawful where
  guar_refl _ s := timeContract_lawful.guar_refl s
  guar_inv _ _ _ hinv hguar := ⟨hguar.2.1.trans hinv.1, hguar.2.2 hinv.2⟩
  crash_inv _ _ hinv := ⟨hinv.1, hinv.2.of_timing rfl⟩

theorem grows_of_rely (h : (timeProtocol inputs).Rely me s s') : Grows s s' := by
  induction h with
  | refl => exact fun _ he _ => he
  | tail _ hstep ih =>
    obtain ⟨q, -, -, hstep⟩ := hstep
    intro e he htype
    rcases hstep with hguar | rfl
    · exact hguar.1 e (ih e he htype) htype
    · exact ih e he htype

theorem InTime.safe {p : Proc α} (hp : InTime inputs [] p) :
    Safe (timeProtocol inputs) me (fun _ _ => True) p s :=
  ((hp s fun _ hr => nomatch hr).mono fun _ _ _ => trivial).safe (fun _ => id)
    (fun _ _ => grows_of_rely) fun _ _ => id

theorem leaves_lock : Leaves timing (Store.lock me) := by
  refine ⟨fun s _ => ?_, fun s => ?_⟩
  · dsimp only
    split <;> rfl
  · dsimp only
    split <;> exact trivial

theorem leaves_unlock : Leaves timing (Prog.modify (·.control (·.drop me .run)) : Proc Unit) := by
  refine (leaves_modify _).mpr fun s => ?_
  by_cases hheld : s.locks .run = some me <;>
    simp [timing, laneRecords, RunDir.control, Control.drop, Control.setLock, hheld]

theorem InTime.locked {p : Proc α} (hp : InTime inputs [] p) :
    InTime inputs [] (Store.withRunLock me p) :=
  InTime.bracket leaves_lock leaves_unlock hp

theorem inTime_submitResponse {response : PrimaryArbiterResponse} :
    InTime inputs [] (submitPrimaryArbiterResponse me host response) := by
  refine InTime.bind (InTime.of_leaves leaves_submitLocked).locked fun stage => ?_
  cases stage with
  | done status => exact InTime.pure _
  | go _ => exact inTime_advanceLocked.locked

/-- **Every command** keeps the timeouts. -/
theorem inTime_runCommand {p : Proc Unit} (h : RunCommand me p) : InTime inputs [] p := by
  cases h with
  | advance host => exact InTime.bind inTime_advanceLocked.locked fun _ => InTime.pure _
  | submit host response =>
    exact InTime.bind (InTime.after (leaves_ensure _ _) fun _ => inTime_submitResponse) fun _ =>
      InTime.pure _
  | submitVerdict host verdict force =>
    refine InTime.bind ?_ fun _ => InTime.pure _
    refine InTime.after (leaves_ofExcept _) fun _ => ?_
    refine InTime.after (leaves_read _) fun valid => ?_
    refine InTime.after (leaves_ofExcept _) fun checked => ?_
    refine InTime.after leaves_loadManifest fun manifest => ?_
    cases manifest.primaryArbiterChallenge with
    | none => exact InTime.throw _
    | some challenge =>
      refine InTime.after (leaves_ofExcept _) fun response => ?_
      exact InTime.after (leaves_ensure _ _) fun _ => inTime_submitResponse
  | amend host verdict force verdictFile =>
    exact InTime.bind (InTime.after (leaves_ofExcept _) fun _ =>
      (InTime.of_leaves leaves_amendLocked).locked) fun _ => InTime.pure _
  | cancel => exact InTime.after leaves_cancel fun _ => InTime.pure _
  | recordWorkerFailure message =>
    refine InTime.bind (InTime.locked ?_) fun _ => InTime.pure _
    refine InTime.after leaves_loadManifest fun manifest => ?_
    split
    · exact InTime.pure _
    · exact InTime.after leaves_failRun fun _ => InTime.pure _
  | verifyResultIntegrity host =>
    exact InTime.after leaves_verifyResultIntegrity fun _ => InTime.pure _
  | events => exact InTime.after leaves_events fun _ => InTime.pure _

/-- **The timeouts of a run**: in every state of it, an attempt has the timeout
    of its phase, or the default one and a record of its retry. -/
theorem run_timed {ok : Pool.Label Pid → RunDir → RunDir → Prop} (h : NewRun s)
    (hbuilt : s.built = []) (hrun : LaneRun ok s c) :
    c.shared.inputs = s.inputs ∧ TimeoutsKept s.inputs.policy c.shared := by
  obtain ⟨clock, hlanes⟩ := h.lanes
  have hstart : TimeoutsKept s.inputs.policy s := by
    refine ⟨?_, ?_, ?_⟩
    · rw [hbuilt]
      exact fun _ hb => nomatch hb
    · rw [hlanes]
      exact fun _ ht => nomatch ht
    · rw [h.events]
      exact fun _ he => nomatch he
  exact (Pool.run_sound (timeProtocol_lawful s.inputs)
    (fun _ _ _ hm _ => (inTime_runCommand hm).safe) hrun (Pool.sound_idle ⟨rfl, hstart⟩)).1

/-- Every attempt is built and runs with the timeout of its phase, and that is
    what the record of an accepted lane says. -/
structure InPhaseTime (policy : Policy) (s : RunDir) : Prop where
  built : ∀ b ∈ s.built, b.timeoutSeconds = policy.timeoutForPhase b.phase
  started : ∀ t ∈ s.started, t.timeoutSeconds = policy.timeoutForPhase t.phase
  accepted : ∀ e ∈ s.events, e.eventType = "lane.accepted" → RecordsTimeout policy e

/-- No step starts a retry in a phase with a timeout of its own. -/
def RetriesByDefault (_ : Pool.Label Pid) (s s' : RunDir) : Prop :=
  ∀ e ∈ s'.events, e.eventType = "lane.retry_started" → e ∉ s.events →
    ∀ phase ∈ e.phase, s.inputs.policy.timeoutForPhase phase = s.inputs.policy.timeoutSeconds

instance (l : Pool.Label Pid) (s s' : RunDir) : Decidable (RetriesByDefault l s s') :=
  inferInstanceAs (Decidable (∀ e ∈ s'.events, e.eventType = "lane.retry_started" →
    e ∉ s.events → ∀ phase ∈ e.phase,
      s.inputs.policy.timeoutForPhase phase = s.inputs.policy.timeoutSeconds))

/-- **Attempts keep to the timeouts of their phases** in every run that retries
    only lanes of phases with the default timeout. -/
theorem attempts_in_time (h : NewRun s) (hbuilt : s.built = [])
    (hrun : LaneRun RetriesByDefault s c) : InPhaseTime s.inputs.policy c.shared := by
  obtain ⟨-, hkept⟩ := run_timed h hbuilt hrun
  have hstart : (timeProtocol s.inputs).inv s :=
    run_timed h hbuilt (Pool.Run.refl : LaneRun RetriesByDefault s (Pool.idle s))
  have hretries : ∀ e ∈ c.shared.events, e.eventType = "lane.retry_started" →
      ∀ phase ∈ e.phase,
        s.inputs.policy.timeoutForPhase phase = s.inputs.policy.timeoutSeconds := by
    refine Pool.run_invariant (timeProtocol_lawful s.inputs)
      (fun _ _ _ hm _ => (inTime_runCommand hm).safe)
      (J := fun s' => ∀ e ∈ s'.events, e.eventType = "lane.retry_started" → ∀ phase ∈ e.phase,
        s.inputs.policy.timeoutForPhase phase = s.inputs.policy.timeoutSeconds)
      (fun l s₁ s₂ hinv hJ _ hok e he htype phase hphase => ?_) hrun (Pool.sound_idle hstart) ?_
    · by_cases hold : e ∈ s₁.events
      · exact hJ e hold htype phase hphase
      · have hnew := hok e he htype hold phase hphase
        rw [hinv.1] at hnew
        exact hnew
    · rw [Pool.idle, h.events]
      exact fun _ he => by cases he
  have htimeout : ∀ {phase routeId : String} {attempt timeoutSeconds : Nat},
      Timeout s.inputs.policy c.shared phase routeId attempt timeoutSeconds →
      timeoutSeconds = s.inputs.policy.timeoutForPhase phase := by
    intro phase routeId attempt timeoutSeconds htimeout
    rcases htimeout with hphase | ⟨hdefault, e, he, htype, hphase, -⟩
    · exact hphase
    · rw [hretries e he htype phase hphase]
      exact hdefault
  exact ⟨fun b hb => htimeout (hkept.built b hb), fun t ht => htimeout (hkept.started t ht),
    hkept.accepted⟩

end runs

/-! ### A retry in a phase with a timeout of its own -/

/-- What the outside answers where every attempt times out. -/
def timingOut : Answer :=
  { sampleAnswer with
    execution := .ok {
      output := none
      error := some "timeout"
      retry := .transientTimeout
      timedOut := true
      cancelled := false
      cleanupError := none } }

/-- A process advances the run for `n` steps, in which every attempt times out. -/
def timingOutFor (n : Nat) : List (Pool.Command Pid RunDir Answer String) :=
  .start 0 (advance 0 sampleHost >>= fun _ => pure ()) :: List.replicate n (.move 0 timingOut)

theorem timingOutFor_within (n : Nat) : ∀ x ∈ timingOutFor n, x.Within RunCommand := by
  intro x hx
  rcases List.mem_cons.mp hx with rfl | hx
  · exact RunCommand.advance sampleHost
  · rw [List.eq_of_mem_replicate hx]
    trivial

/-- A new run in which R1 has a timeout of its own. -/
def overriddenDir : RunDir :=
  { createdDir with
    inputs := { createdDir.inputs with
      policy := { createdDir.inputs.policy with r1TimeoutSeconds := some 60 } } }

theorem newRun_overriddenDir : NewRun overriddenDir :=
  ⟨⟨0, rfl⟩, rfl, fun _ => rfl⟩

/-- **The first retry of R1** runs under the default timeout. -/
theorem retry_not_in_time : ¬∀ (s : RunDir) (c : Pool Pid RunDir Answer String), NewRun s →
    s.built = [] → s.inputs.policy.validate = .ok () → LaneRun (fun _ _ _ => True) s c →
    InPhaseTime s.inputs.policy c.shared := by
  intro hall
  have hvalid : overriddenDir.inputs.policy.validate = .ok () := by decide +kernel
  have htimeouts : (Pool.schedule (fun _ _ _ => True) (fun me s => s.control (·.release me))
      (timingOutFor 250) (Pool.idle overriddenDir)).map
        (fun c => c.shared.started.map fun t => (t.phase, t.timeoutSeconds))
          = some [("R1", 60), ("R1", 60), ("R1", 60), ("R1", 60), ("R1", 60), ("R1", 300)] := by
    decide +kernel
  obtain ⟨c, hc, htimeouts⟩ := Option.map_eq_some_iff.mp htimeouts
  have hrun : LaneRun (fun _ _ _ => True) overriddenDir c :=
    Pool.run_of_schedule _ Pool.Run.refl (timingOutFor_within 250) hc
  have hkept := hall overriddenDir c newRun_overriddenDir rfl hvalid hrun
  have heach : ∀ x ∈ c.shared.started.map fun t => (t.phase, t.timeoutSeconds),
      x.2 = overriddenDir.inputs.policy.timeoutForPhase x.1 := by
    intro x hx
    obtain ⟨t, ht, rfl⟩ := List.mem_map.mp hx
    exact hkept.started t ht
  have hretry := heach ("R1", 300) (by rw [htimeouts]; decide)
  exact absurd hretry (by decide)

/-- Timeouts and retries of a run without overrides. -/
theorem attempts_in_time_sample : ∃ c, LaneRun RetriesByDefault createdDir c
    ∧ c.shared.started.map (fun t => (t.routeId, t.attempt, t.timeoutSeconds))
      = [("a", 1, 300), ("b", 1, 300), ("c", 1, 300), ("d", 1, 300), ("e", 1, 300), ("a", 2, 300)]
    ∧ InPhaseTime createdDir.inputs.policy c.shared := by
  have hstarted : (carriedOut RetriesByDefault (timingOutFor 250)).map
      (fun c => c.shared.started.map fun t => (t.routeId, t.attempt, t.timeoutSeconds))
        = some [("a", 1, 300), ("b", 1, 300), ("c", 1, 300), ("d", 1, 300), ("e", 1, 300),
          ("a", 2, 300)] := by
    decide +kernel
  obtain ⟨c, hc, hstarted⟩ := Option.map_eq_some_iff.mp hstarted
  have hrun := laneRun_of_carriedOut (timingOutFor_within 250) hc
  exact ⟨c, hrun, hstarted, attempts_in_time newRun_createdDir rfl hrun⟩

end Quinte.Run
