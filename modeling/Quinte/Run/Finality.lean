import Mathlib
import Quinte.Run.LaneSessions
import Quinte.Run.Scheduling
import Quinte.Store.Custody

/-! # The course of a run under every command

    Every command of `run.rs` keeps to the course of the run, whatever locks it
    has in hand: what a stage saves or reaches is honest about completion, and
    only `finalize` completes a run, with the run lock and the lock on the
    active processes in hand. The lanes are threads of their own.
-/

namespace Quinte.Run

open Program Store

variable {sealed : Seal} {me : Pid} {ρ : Option (Protected .run) → Prop} {K : RunDir → Prop}
  {α β : Type} {host : Host} {policy : Policy} {manifest : RunManifest} {phase : String}
  {route : RoutePolicy}

/-! ### Waiting -/

variable (sealed me ρ K) in
/-- An orderly program of which nothing is asked, and which changes nothing that
    a lock in hand protects. -/
abbrev Tidy (p : Proc α) : Prop :=
  Orderly sealed me ρ strict K (fun _ _ => True) p

theorem Tidy.bind {p : Proc α} {f : α → Proc β} (hp : Tidy sealed me ρ K p)
    (hf : ∀ a, Tidy sealed me ρ K (f a)) : Tidy sealed me ρ K (p >>= f) :=
  Orderly.bind hp fun a => (hf a).mono (fun _ hs => hs.1) fun _ _ hs => hs

theorem Tidy.after {p : Proc α} {f : α → Proc β} (hp : Leaves course p)
    (hf : ∀ a, Tidy sealed me ρ K (f a)) : Tidy sealed me ρ K (p >>= f) :=
  Orderly.after hp hf

theorem Tidy.pure (a : α) : Tidy sealed me ρ K (pure a : Proc α) :=
  Orderly.pure fun _ _ => trivial

theorem Tidy.attempt {p : Proc α} (hp : Tidy sealed me ρ K p) : Tidy sealed me ρ K p.attempt :=
  Orderly.ends (Orderly.attempt hp)

theorem Tidy.ofExcept (r : Except String α) : Tidy sealed me ρ K (Prog.ofExcept r) :=
  Orderly.ofExcept fun _ _ _ _ => trivial

/-- A step that may be skipped. -/
theorem Tidy.when {b : Bool} {p : Proc Unit} {k : Unit → Proc α} (hp : Tidy sealed me ρ K p)
    (hk : ∀ u, Tidy sealed me ρ K (k u)) :
    Tidy sealed me ρ K (if b = true then p >>= k else k ()) := by
  split
  · exact hp.bind hk
  · exact hk ()

theorem tidy_update {update : RunDir → RunDir} (h : ∀ s, course (update s) = course s) :
    Tidy sealed me ρ K (Prog.modify update : Proc Unit) :=
  Orderly.of_leaves ((leaves_modify _).mpr h)

theorem tidy_clock : Tidy sealed me ρ K Proc.clock :=
  Orderly.of_leaves ((leaves_answer _).bind fun _ => show Leaves course _ from
    ⟨fun _ _ => rfl, fun _ => trivial⟩)

theorem tidy_utcNow : Tidy sealed me ρ K Proc.utcNow :=
  Orderly.of_leaves (leaves_answer _)

theorem tidy_event {runId eventType : String} {phase partyId : Option String}
    {attempt : Option Nat} {text : String} :
    Tidy sealed me ρ K (Store.event me runId eventType phase partyId attempt text) :=
  orderly_event

/-- `fail_run` and `cancel_run` return a manifest that is honest. -/
theorem orderly_failRun {status : RunStatus} {code message : String}
    (hstatus : status ≠ .completed) :
    Orderly sealed me ρ strict K Reached (failRun me manifest status code message) :=
  orderly_transition hstatus

theorem orderly_cancelRun : Orderly sealed me ρ strict K Reached (cancelRun me manifest) :=
  orderly_transition (by decide)

theorem tidy_cancelRun : Tidy sealed me ρ K (cancelRun me manifest) :=
  (orderly_cancelRun).ends

theorem tidy_waitCancellable {due : Nat} : Tidy sealed me ρ K (waitCancellable due) := by
  refine Orderly.of_leaves ⟨fun s _ => ?_, fun _ => trivial⟩
  dsimp only
  split <;> rfl

theorem tidy_waitUntil {now due : Nat} : Tidy sealed me ρ K (waitUntil me manifest now due) := by
  unfold waitUntil
  split
  · refine (tidy_waitCancellable).bind fun cancelled => ?_
    split
    · exact (tidy_cancelRun).bind fun _ => Orderly.throw
    · exact Tidy.pure _
  · exact Tidy.pure _

theorem tidy_waitForRetryDeadline {attempt : Nat} :
    Tidy sealed me ρ K (waitForRetryDeadline me manifest phase route attempt) := by
  refine Orderly.read fun state => ?_
  cases state with
  | none => exact Tidy.pure _
  | some state =>
    refine Orderly.ensure fun _ => (tidy_clock).bind fun _ => (tidy_event).bind fun _ => ?_
    exact (tidy_waitUntil).bind fun _ => tidy_update fun _ => rfl

theorem tidy_persistR2PacingUntil {attempt requestedDueAt : Nat} {reason : String} :
    Tidy sealed me ρ K (persistR2PacingUntil route attempt requestedDueAt reason) :=
  tidy_update fun _ => rfl

theorem tidy_persistR2Pacing {attempt intervalSeconds : Nat} {reason : String} :
    Tidy sealed me ρ K (persistR2Pacing route attempt intervalSeconds reason) :=
  (tidy_clock).bind fun _ => tidy_persistR2PacingUntil

theorem tidy_waitForR2Pacing {attempt : Nat} :
    Tidy sealed me ρ K (waitForR2Pacing me manifest route attempt) := by
  refine Orderly.read fun state => ?_
  cases state with
  | none => exact Tidy.pure _
  | some state =>
    refine Orderly.ensure fun _ => (tidy_clock).bind fun _ => (tidy_event).bind fun _ => ?_
    exact (tidy_waitUntil).bind fun _ => tidy_update fun _ => rfl

theorem tidy_staggered : Tidy sealed me ρ K (staggered me host manifest) := by
  unfold staggered
  split
  · exact Tidy.pure _
  · refine (tidy_clock).bind fun _ => (tidy_waitCancellable).bind fun cancelled => ?_
    split
    · exact (tidy_cancelRun).attempt.bind fun _ => Tidy.pure _
    · exact Tidy.pure _

/-! ### One attempt -/

theorem tidy_build {routeId : String} {attempt timeoutSeconds : Nat} :
    Tidy sealed me ρ K (build phase routeId attempt timeoutSeconds) := by
  have hopen : Tidy sealed me ρ K (openBuilt phase routeId attempt timeoutSeconds) :=
    tidy_update fun _ => rfl
  refine Orderly.answer fun answer => ?_
  cases answer with
  | unavailable error => exact Orderly.throw
  | failed error => exact hopen.bind fun _ => Orderly.throw
  | built => exact hopen

/-- The processes on record change under the lock that the result is under. -/
theorem tidy_registerProcess {process : ActiveProcess} :
    Tidy sealed me ρ K (registerProcess me process) := by
  intro m hm _ _
  refine obeys_withLock fun v hnone => ?_
  refine Obeys.read (custody_lawful sealed) fun s _ => ?_
  split
  · exact Onward.dropped hnone hm fun _ _ => trivial
  · refine obeys_after ((leaves_modify _).mpr fun _ => rfl) (fun _ => ?_) fun _ => ?_
    · exact Onward.dropped hnone hm fun _ _ => trivial
    · exact Onward.dropped hnone hm fun _ _ => trivial

theorem tidy_removeActiveProcess {process : ActiveProcess} :
    Tidy sealed me ρ K (removeActiveProcess me process) := by
  intro m hm _ _
  refine obeys_withLock fun v hnone => ?_
  have hleaves : Leaves course (Prog.modify fun s =>
      { s with activeProcesses := s.activeProcesses.filter (· ≠ process) } : Proc Unit) :=
    (leaves_modify _).mpr fun _ => rfl
  refine (obeys_of_leaves hleaves).mono fun r k hk => ?_
  rw [hk]
  refine Onward.dropped hnone hm fun _ _ => ?_
  cases r <;> trivial

theorem tidy_startTransport {routeId : String} {attempt timeoutSeconds : Nat} :
    Tidy sealed me ρ K (startTransport phase routeId attempt timeoutSeconds) :=
  Orderly.answer fun _ => tidy_update fun _ => rfl

theorem tidy_execute {routeId : String} {attempt timeoutSeconds : Nat} :
    Tidy sealed me ρ K (execute me phase routeId attempt timeoutSeconds) := by
  refine Orderly.answer fun process => ?_
  cases process with
  | none => exact (tidy_startTransport).bind fun _ => Orderly.answer fun _ => Tidy.ofExcept _
  | some process =>
    refine (tidy_registerProcess).bind fun registered => ?_
    split
    · exact (tidy_startTransport).bind fun _ => Orderly.answer fun _ =>
        (tidy_removeActiveProcess).bind fun _ => Tidy.ofExcept _
    · exact Tidy.pure _

theorem tidy_runAttempt {attempt timeoutSeconds maxAttempts : Nat} :
    Tidy sealed me ρ K
      (runAttempt me manifest route phase attempt timeoutSeconds maxAttempts) := by
  refine Orderly.read fun cancelled => ?_
  split
  · exact Tidy.pure _
  · refine Tidy.after ((leaves_modify _).mpr fun _ => rfl) fun _ => (tidy_event).bind fun _ => ?_
    refine (tidy_execute).bind fun _ => Tidy.after ((leaves_modify _).mpr fun _ => rfl) fun _ => ?_
    exact Orderly.read fun _ => (tidy_event).bind fun _ => Tidy.pure _

/-! ### Lanes -/

theorem tidy_runRetryAttempt {attempt : Nat} {retry : RetryClass} :
    Tidy sealed me ρ K (runRetryAttempt me host policy manifest phase route attempt retry) := by
  refine (Tidy.ofExcept _).bind fun schedule => (tidy_clock).bind fun now => ?_
  refine Tidy.after ((leaves_modify _).mpr fun _ => rfl) fun _ => ?_
  refine Tidy.when tidy_persistR2PacingUntil fun _ => (tidy_event).bind fun _ => ?_
  refine (tidy_waitForRetryDeadline).bind fun _ => ?_
  refine Tidy.when tidy_waitForR2Pacing fun _ => (tidy_event).bind fun _ => ?_
  refine (tidy_build).bind fun _ => (tidy_runAttempt).bind fun outcome => ?_
  exact Tidy.when tidy_persistR2Pacing fun _ => Tidy.pure _

theorem tidy_acceptLane {firstAttempt attempt : Nat} {output : LaneOutput} :
    Tidy sealed me ρ K
      (acceptLane me policy manifest phase route firstAttempt attempt output) := by
  refine Orderly.read fun valid => (Tidy.ofExcept _).bind fun checked => ?_
  have haccept : Tidy sealed me ρ K (do
      writeAccepted phase route.routeId checked.1
      let lane := laneAccepted phase route checked.1
      let _ ← Store.event me manifest.runId "lane.accepted" (some phase) (some route.partyId)
        (some attempt) (jsonObject [
          ("route_id", jsonString route.routeId),
          ("artifact", jsonString lane.artifactRef),
          ("attempts", toString attempt),
          ("retries", toString (attempt - firstAttempt)),
          ("phase", jsonString phase),
          ("timeout_seconds", toString (policy.timeoutForPhase phase))])
      return lane) :=
    Tidy.after ((leaves_modify _).mpr fun _ => rfl) fun _ => (tidy_event).bind fun _ => Tidy.pure _
  dsimp only
  split
  · exact (tidy_event).bind fun _ => haccept
  · exact haccept

theorem tidy_acceptOrRetryLoop {firstAttempt budget attempt : Nat} {outcome : AttemptOutcome} :
    Tidy sealed me ρ K (acceptOrRetryLoop me host policy manifest phase route firstAttempt
      budget attempt outcome) := by
  induction budget generalizing attempt outcome with
  | zero =>
    unfold acceptOrRetryLoop
    refine Orderly.read fun cancelled => ?_
    split
    · exact (tidy_cancelRun).bind fun _ => Orderly.throw
    rcases outcome.output with _ | output | verdict
    · exact Orderly.throw
    · exact tidy_acceptLane
    · exact Orderly.throw
  | succ budget ih =>
    unfold acceptOrRetryLoop
    refine Orderly.read fun cancelled => ?_
    split
    · exact (tidy_cancelRun).bind fun _ => Orderly.throw
    rcases outcome.output with _ | output | verdict
    · cases retryAllowed outcome.retry attempt policy.maxAttempts with
      | false => exact Orderly.throw
      | true => exact (tidy_runRetryAttempt).bind fun outcome => ih
    · exact tidy_acceptLane
    · exact Orderly.throw

theorem tidy_awaitArbiterLoop {budget attempt : Nat} {outcome : AttemptOutcome} :
    Tidy sealed me ρ K (awaitArbiterLoop me host policy manifest phase route budget attempt
      outcome) := by
  have hverdict : ∀ verdict, Tidy sealed me ρ K (do
      let valid ← Prog.read fun s => allowedEvidenceRefs s.inputs.snapshot
      let checked ← Prog.ofExcept (validateArbiterSemantics valid verdict)
      return some checked.1) := fun verdict =>
    Orderly.read fun _ => (Tidy.ofExcept _).bind fun _ => Tidy.pure _
  induction budget generalizing attempt outcome with
  | zero =>
    unfold awaitArbiterLoop
    refine Orderly.read fun cancelled => ?_
    split
    · exact Tidy.pure _
    rcases outcome.output with _ | output | verdict
    · exact Orderly.throw
    · exact Orderly.throw
    · exact hverdict verdict
  | succ budget ih =>
    unfold awaitArbiterLoop
    refine Orderly.read fun cancelled => ?_
    split
    · exact Tidy.pure _
    rcases outcome.output with _ | output | verdict
    · cases retryAllowed outcome.retry attempt policy.maxAttempts with
      | false => exact Orderly.throw
      | true => exact (tidy_runRetryAttempt).bind fun outcome => ih
    · exact Orderly.throw
    · exact hverdict verdict

/-! ### Phases -/

theorem tidy_nextAttempts {routes : List RoutePolicy} :
    Tidy sealed me ρ K (nextAttempts phase policy routes) := by
  induction routes with
  | nil => exact Tidy.pure _
  | cons route routes ih =>
    exact Orderly.read fun _ => (Tidy.ofExcept _).bind fun _ => ih.bind fun _ => Tidy.pure _

theorem tidy_buildLanes {pending : List (RoutePolicy × Nat)} :
    Tidy sealed me ρ K (buildLanes me policy manifest phase pending) := by
  induction pending with
  | nil => exact Tidy.pure _
  | cons lane pending ih =>
    exact (tidy_waitForRetryDeadline).bind fun _ => (tidy_build).bind fun _ => ih

/-- **The lanes** run beside each other, and each has its own hand. -/
theorem tidy_spawnLanes {pending : List (RoutePolicy × Nat)} :
    Tidy sealed me ρ K (spawnLanes me host policy manifest phase pending) := by
  induction pending generalizing ρ K with
  | nil => exact Tidy.pure _
  | cons lane pending ih =>
    refine Tidy.bind (Orderly.interleave (Q := fun _ _ => True) tidy_runAttempt ?_) fun joined =>
      (Tidy.ofExcept _).bind fun _ => Tidy.pure _
    split
    · exact Tidy.pure _
    · refine (tidy_staggered).bind fun cancelled => ?_
      split
      · exact Tidy.pure _
      · exact ih

theorem tidy_acceptLanes {finished : List (RoutePolicy × Nat × AttemptOutcome)} :
    Tidy sealed me ρ K (acceptLanes me host policy manifest phase finished) := by
  induction finished with
  | nil => exact Tidy.pure _
  | cons lane finished ih =>
    refine (Tidy.attempt tidy_acceptOrRetryLoop).bind fun accepted => ih.bind fun rest => ?_
    cases accepted <;> exact Tidy.pure _

theorem tidy_fanOut {missing : List RoutePolicy} :
    Tidy sealed me ρ K (fanOut me host policy manifest phase missing) := by
  refine (tidy_nextAttempts).bind fun pending => (tidy_buildLanes).bind fun _ => ?_
  refine (tidy_spawnLanes).bind fun fanout => ?_
  split
  · exact Orderly.throw
  split
  · exact Orderly.throw
  refine (tidy_acceptLanes).bind fun accepted => ?_
  dsimp only
  split
  · exact Orderly.throw
  · exact Tidy.pure _

theorem tidy_runSerial {missing : List RoutePolicy} :
    Tidy sealed me ρ K (runSerial me host policy manifest phase missing) := by
  induction missing with
  | nil => exact Tidy.pure _
  | cons route missing ih =>
    refine Orderly.read fun _ => (Tidy.ofExcept _).bind fun _ => ?_
    refine (tidy_waitForRetryDeadline).bind fun _ => (tidy_waitForR2Pacing).bind fun _ => ?_
    refine (tidy_build).bind fun _ => (tidy_runAttempt).bind fun _ => ?_
    refine (tidy_persistR2Pacing).bind fun _ => Tidy.bind tidy_acceptOrRetryLoop fun _ => ?_
    exact ih.bind fun _ => Tidy.pure _

/-- **`run_phase`**. -/
theorem tidy_runPhase : Tidy sealed me ρ K (runPhase me host policy manifest phase) := by
  refine Orderly.read fun existing => (Tidy.ofExcept _).bind fun accepted => ?_
  dsimp only
  split
  · exact (tidy_fanOut).bind fun _ => Orderly.ensure fun _ => Orderly.read fun _ =>
      (tidy_event).bind fun _ => Tidy.pure _
  · exact (tidy_runSerial).bind fun _ => Orderly.ensure fun _ => Orderly.read fun _ =>
      (tidy_event).bind fun _ => Tidy.pure _

theorem tidy_runArbiter : Tidy sealed me ρ K (runArbiter me host policy manifest route) :=
  Orderly.read fun _ => (Tidy.ofExcept _).bind fun _ => (tidy_waitForRetryDeadline).bind fun _ =>
    (tidy_build).bind fun _ => (tidy_runAttempt).bind fun _ => tidy_awaitArbiterLoop

/-! ### Stages -/

variable {loose : Lock → Prop}

/-- The first of two stages changes nothing that is loose. -/
theorem Orderly.andThen {P : α → RunDir → Prop} {stage : Proc (Stage α)}
    {next : α → Proc RunStatus} (hstage : Orderly sealed me ρ strict K (Goes P) stage)
    (hnext : ∀ a, Orderly sealed me ρ loose (fun s => K s ∧ P a s) (fun _ _ => True) (next a)) :
    Orderly sealed me ρ loose K (fun _ _ => True) (Stage.andThen stage next) := by
  refine Orderly.bind hstage fun outcome => ?_
  cases outcome with
  | done status => exact Orderly.pure fun _ _ => trivial
  | go a => exact hnext a

theorem orderly_stageFails {P : α → RunDir → Prop} {status : RunStatus} {code message : String}
    (hstatus : status ≠ .completed) :
    Orderly sealed me ρ strict K (Goes P) (stageFails me manifest status code message) :=
  Orderly.bind (orderly_failRun hstatus) fun _ => Orderly.pure fun _ _ => trivial

theorem orderly_stageTransition {status : RunStatus} {phase : Option String} {detail : String}
    (hstatus : status ≠ .completed) :
    Orderly sealed me ρ strict K (Goes Honest)
      (stageTransition me manifest status phase detail) := by
  refine Orderly.bind (orderly_transition hstatus) fun reached => ?_
  dsimp only
  split
  · exact Orderly.pure fun _ _ => trivial
  · exact Orderly.pure fun _ hs => hs.2

theorem tidy_reconcileOrphanProcesses : Tidy sealed me ρ K (reconcileOrphanProcesses me) := by
  have hread : Tidy sealed me ρ K
      (Proc.withLock me .activePids (Prog.read (·.activeProcesses))) := by
    intro m hm _ _
    refine obeys_withLock fun v hnone => ?_
    refine (obeys_of_leaves (leaves_read _)).mono fun r k hk => ?_
    rw [hk]
    refine Onward.dropped hnone hm fun _ _ => ?_
    cases r <;> trivial
  refine hread.bind fun processes => ?_
  induction processes with
  | nil => exact Tidy.pure _
  | cons process processes ih =>
    refine Tidy.bind ?_ fun _ => ih
    exact Orderly.answer fun _ => Orderly.ensure fun _ => tidy_removeActiveProcess

theorem orderly_preflight (hK : ∀ s, K s → Honest manifest s) :
    Orderly sealed me ρ strict K (Goes Honest) (preflight me policy manifest) := by
  unfold preflight
  split
  case isFalse => exact Orderly.pure hK
  refine Orderly.bind (orderly_stageTransition (by decide)) fun stage => ?_
  cases stage with
  | done status => exact Orderly.pure fun _ _ => trivial
  | go manifest =>
    dsimp only
    split
    · exact orderly_stageFails (by decide)
    · refine Orderly.answer fun missing => ?_
      split
      · exact orderly_stageFails (by decide)
      · exact Orderly.pure fun _ hs => hs.2

theorem orderly_enterPhase {running : RunStatus} {code : String} (hrunning : running ≠ .completed)
    (hK : ∀ s, K s → Honest manifest s) :
    Orderly sealed me ρ strict K (Goes fun a s => Honest a.1 s)
      (enterPhase me host policy manifest phase running code) := by
  refine Orderly.read fun complete => ?_
  split
  · refine Orderly.read fun _ => Orderly.bind (Tidy.ofExcept _) fun _ => ?_
    exact Orderly.pure fun s hs => hK s hs.1
  refine Orderly.bind (orderly_stageTransition hrunning) fun stage => ?_
  cases stage with
  | done status => exact Orderly.pure fun _ _ => trivial
  | go manifest =>
    refine Orderly.bind (tidy_runPhase).attempt fun ran => ?_
    cases ran with
    | ok lanes => exact Orderly.pure fun _ hs => hs.1.2
    | error message => exact orderly_stageFails (by decide)

theorem orderly_passGate {before : List RunStatus} {gate : RunStatus} {accepted : Nat}
    (hgate : gate ≠ .completed) (hK : ∀ s, K s → Honest manifest s) :
    Orderly sealed me ρ strict K (Goes Honest)
      (passGate me manifest before gate phase accepted) := by
  unfold passGate
  split
  · exact orderly_stageTransition hgate
  · exact Orderly.pure hK

theorem orderly_ensureR2Packet {brief : Brief} {r1 : List LaneAccepted}
    (hK : ∀ s, K s → Honest manifest s) :
    Orderly sealed me ρ strict K (Goes Honest)
      (ensureR2Packet me policy brief manifest r1) := by
  refine Orderly.read fun existing => ?_
  split
  · exact Orderly.pure hK
  refine Orderly.bind (orderly_stageTransition (by decide)) fun stage => ?_
  cases stage with
  | done status => exact Orderly.pure fun _ _ => trivial
  | go manifest =>
    refine Orderly.answer fun rotation => ?_
    split
    · exact Orderly.throw
    · exact Orderly.after ((leaves_modify _).mpr fun _ => rfl) fun _ =>
        Orderly.pure fun _ hs => hs.2

theorem orderly_enterR2 {brief : Brief} {r1 : List LaneAccepted}
    (hK : ∀ s, K s → Honest manifest s) :
    Orderly sealed me ρ strict K (Goes fun a s => Honest a.1 s)
      (enterR2 me host policy brief manifest r1) := by
  refine Orderly.read fun skipped => ?_
  split
  · split
    · exact Orderly.after ((leaves_modify _).mpr fun _ => rfl) fun _ => Orderly.pure hK
    · exact Orderly.pure hK
  refine Orderly.bind (orderly_ensureR2Packet hK) fun stage => ?_
  cases stage with
  | done status => exact Orderly.pure fun _ _ => trivial
  | go manifest => exact orderly_enterPhase (by decide) fun _ hs => hs.2

theorem tidy_ensureEvidencePacket {brief : Brief} {r1 r2 : List LaneAccepted} :
    Tidy sealed me ρ K (ensureEvidencePacket brief manifest r1 r2) := by
  refine Orderly.read fun existing => ?_
  split
  · exact Tidy.pure _
  · exact tidy_update fun _ => rfl

theorem orderly_enterCounterpart (hK : ∀ s, K s → Honest manifest s) :
    Orderly sealed me ρ strict K (Goes Honest) (enterCounterpart me host policy manifest) := by
  refine Orderly.read fun existing => ?_
  split
  · exact Orderly.pure hK
  refine Orderly.bind (orderly_stageTransition (by decide)) fun stage => ?_
  cases stage with
  | done status => exact Orderly.pure fun _ _ => trivial
  | go manifest =>
    refine Orderly.bind (tidy_runArbiter).attempt fun ran => ?_
    rcases ran with message | _ | verdict
    · dsimp only
      split
      · exact Orderly.pure fun _ _ => trivial
      · exact orderly_stageFails (by decide)
    · exact Orderly.bind orderly_cancelRun fun _ => Orderly.pure fun _ _ => trivial
    · exact Orderly.after ((leaves_modify _).mpr fun _ => rfl) fun _ =>
        Orderly.pure fun _ hs => hs.1.2

/-! ### Receipts -/

/-- The manifest with the receipt bound has the status that it had. -/
theorem orderly_ensureR3InputReceipt {r1 r2 : List LaneAccepted}
    (hK : ∀ s, K s → Honest manifest s) :
    Orderly sealed me ρ strict K (fun a s => Honest a.1 s)
      (ensureR3InputReceipt host policy manifest r1 r2) := by
  unfold ensureR3InputReceipt
  split
  · exact Orderly.read fun _ => Orderly.pure hK
  · refine Orderly.after (leaves_answer _) fun issuedAt => Orderly.read fun _ => ?_
    refine Orderly.bind (Tidy.ofExcept _) fun receipt => ?_
    refine Orderly.after ((leaves_modify _).mpr fun _ => rfl) fun _ => Orderly.read fun _ => ?_
    exact Orderly.pure fun s hs => (hK s hs.1).of_status rfl

theorem orderly_bindInputs {r1 r2 : List LaneAccepted} (hK : ∀ s, K s → Honest manifest s) :
    Orderly sealed me ρ strict K (Goes Honest)
      (bindInputs me host policy manifest r1 r2) := by
  refine Orderly.bind (orderly_ensureR3InputReceipt hK).attempt fun bound => ?_
  rcases bound with message | ⟨manifest, message | _⟩
  · exact orderly_stageFails (by decide)
  · exact orderly_stageFails (by decide)
  · exact Orderly.pure fun _ hs => hs.2

theorem tidy_createPrimaryArbiterChallenge {brief : Brief} :
    Tidy sealed me ρ K (createPrimaryArbiterChallenge host manifest brief) := by
  unfold createPrimaryArbiterChallenge
  split
  · exact Orderly.throw
  · exact Orderly.answer fun _ => Orderly.read fun _ => (Tidy.ofExcept _).bind fun _ =>
      (tidy_utcNow).bind fun _ => (tidy_utcNow).bind fun _ => Tidy.pure _

theorem orderly_ensureChallenge {brief : Brief} (hK : ∀ s, K s → Honest manifest s) :
    Orderly sealed me ρ strict K (Goes Honest) (ensureChallenge me host brief manifest) := by
  unfold ensureChallenge
  split
  · exact Orderly.pure hK
  refine Orderly.bind (tidy_createPrimaryArbiterChallenge).attempt fun challenge => ?_
  cases challenge with
  | error message => exact orderly_stageFails (by decide)
  | ok challenge =>
    have hstaged : ∀ s, K s ∧ True →
        Honest { manifest with primaryArbiterChallenge := some challenge } s :=
      fun s hs => (hK s hs.1).of_status rfl
    exact Orderly.bind (orderly_saveManifest hstaged) fun _ => Orderly.pure fun s hs =>
      hstaged s hs.1

theorem tidy_ensurePrimaryArbiterPacket :
    Tidy sealed me ρ K (ensurePrimaryArbiterPacket manifest) := by
  refine Orderly.read fun _ => (Tidy.ofExcept _).bind fun packet => Orderly.read fun existing => ?_
  cases existing with
  | some existing => exact Orderly.of_leaves (leaves_ensure _ _)
  | none => exact tidy_update fun _ => rfl

theorem orderly_saveOwned (hK : ∀ s, K s → Honest manifest s) :
    Orderly sealed me ρ strict K (fun a s => Honest a.1 s) (saveOwned me manifest) :=
  Orderly.bind (orderly_saveManifest hK).attempt fun _ => Orderly.pure fun s hs => hK s hs.1

/-- A submission that is accepted leaves the status alone. -/
theorem recoverPrimaryArbiterSubmission_status {s : RunDir} {brief : Brief} {now : Nat}
    {accepted : RunManifest}
    (h : recoverPrimaryArbiterSubmission host s manifest brief now = .ok (some accepted)) :
    accepted.status = manifest.status := by
  unfold recoverPrimaryArbiterSubmission at h
  cases hreceipt : manifest.primaryArbiterSubmission with
  | none =>
    simp only [hreceipt] at h
    cases h
  | some receipt =>
    simp only [hreceipt] at h
    cases hdigest : responseFileDigest host s receipt.responseRef with
    | none =>
      simp only [hdigest] at h
      split at h
      · cases h
      · cases h
    | some digest =>
      simp only [hdigest] at h
      obtain ⟨_, -, h⟩ := Policy.bind_ok.mp h
      cases hinput : manifest.r3InputReceipt with
      | none =>
        simp only [hinput] at h
        cases h
      | some inputReceipt =>
        simp only [hinput] at h
        obtain ⟨_, -, h⟩ := Policy.bind_ok.mp h
        obtain ⟨response, -, h⟩ := Policy.bind_ok.mp h
        obtain ⟨_, -, h⟩ := Policy.bind_ok.mp h
        split at h
        · cases h
          rfl
        · obtain ⟨_, -, h⟩ := Policy.bind_ok.mp h
          cases h
          rfl

theorem orderly_acceptResponse {brief : Brief} {response : PrimaryArbiterResponse}
    (hK : ∀ s, K s → Honest manifest s) :
    Orderly sealed me ρ strict K (fun a s => Honest a.1 s)
      (acceptResponse me host manifest brief response) := by
  refine Orderly.after ((leaves_modify _).mpr fun _ => rfl) fun _ => ?_
  refine Orderly.after (leaves_answer _) fun now => Orderly.read_eq fun t => ?_
  cases hrecovered : recoverPrimaryArbiterSubmission host t manifest brief now with
  | error message => exact Orderly.pure hK
  | ok recovered =>
    cases recovered with
    | none => exact Orderly.pure hK
    | some accepted =>
      have hstatus := recoverPrimaryArbiterSubmission_status hrecovered
      exact orderly_saveOwned fun s hs => (hK s hs).of_status hstatus

theorem orderly_stagePrimaryResponse {brief : Brief} {response : PrimaryArbiterResponse}
    (hK : ∀ s, K s → Honest manifest s) :
    Orderly sealed me ρ strict K (fun a s => Honest a.1 s)
      (stagePrimaryResponse me host manifest brief response) := by
  refine Orderly.after (leaves_answer _) fun now => Orderly.read fun checked => ?_
  cases checked with
  | error message => exact Orderly.pure hK
  | ok response =>
    refine Orderly.after (leaves_answer _) fun stagedAt => ?_
    cases hstaged : stageReceipt host manifest response stagedAt with
    | error message => exact Orderly.pure hK
    | ok staged =>
      have hstatus : staged.status = manifest.status := by
        unfold stageReceipt at hstaged
        split at hstaged
        · cases hstaged
        · cases hstaged
          rfl
      have hsaved : ∀ s, K s → Honest staged s := fun s hs => (hK s hs).of_status hstatus
      refine Orderly.bind (orderly_saveOwned hsaved) fun saved => ?_
      rcases saved with ⟨staged, message | _⟩
      · exact Orderly.pure fun _ hs => hs.2
      · exact orderly_acceptResponse fun _ hs => hs.2

theorem orderly_runPrimary {brief : Brief} (hK : ∀ s, K s → Honest manifest s) :
    Orderly sealed me ρ strict K (Goes Honest)
      (runPrimary me host policy brief manifest) := by
  refine Orderly.bind (tidy_runArbiter).attempt fun ran => ?_
  rcases ran with message | _ | verdict
  · exact orderly_stageFails (by decide)
  · exact Orderly.bind orderly_cancelRun fun _ => Orderly.pure fun _ _ => trivial
  · dsimp only
    cases boundPrimaryResponse manifest verdict with
    | error message => exact orderly_stageFails (by decide)
    | ok response =>
      refine Orderly.bind (orderly_stagePrimaryResponse fun s hs => hK s hs.1) fun staged => ?_
      rcases staged with ⟨manifest, message | _⟩
      · exact orderly_stageFails (by decide)
      · exact Orderly.pure fun _ hs => hs.2

theorem orderly_enterPrimary {brief : Brief} (hK : ∀ s, K s → Honest manifest s) :
    Orderly sealed me ρ strict K (Goes Honest)
      (enterPrimary me host policy brief manifest) := by
  unfold enterPrimary
  split
  case isFalse => exact Orderly.pure hK
  refine Orderly.bind (orderly_ensureChallenge hK) fun stage => ?_
  cases stage with
  | done status => exact Orderly.pure fun _ _ => trivial
  | go manifest =>
    refine Orderly.bind (tidy_ensurePrimaryArbiterPacket).attempt fun packet => ?_
    cases packet with
    | error message => exact orderly_stageFails (by decide)
    | ok _ => exact orderly_runPrimary fun _ hs => hs.1.2

theorem tidy_awaitSubmission {brief : Brief} (hK : ∀ s, K s → Honest manifest s) :
    Tidy sealed me ρ K (awaitSubmission me host brief manifest) := by
  have hissue : Tidy sealed me ρ K (issueChallenge me host brief manifest) := by
    unfold issueChallenge
    split
    · exact Tidy.pure _
    · refine (tidy_createPrimaryArbiterChallenge).bind fun challenge => ?_
      have hstaged : ∀ s, K s →
          Honest { manifest with primaryArbiterChallenge := some challenge } s :=
        fun s hs => (hK s hs).of_status rfl
      exact Tidy.bind (orderly_saveManifest hstaged) fun _ => Tidy.pure _
  refine hissue.bind fun manifest => Tidy.after ((leaves_modify _).mpr fun _ => rfl) fun _ => ?_
  exact (orderly_transition (by decide)).ends.bind fun _ => Tidy.pure _

/-! ### The result -/

/-- What the run lock in hand says of a run that `advance` goes on with. -/
def Advancing (sealed : Seal) (o : Option (Protected .run)) : Prop :=
  ∃ b, o = some b ∧ (sealed.isSome = true → b = false)

/-- What is in hand of the lock on the active processes, of an open run. -/
def openResult (sealed : Seal) (o : Option ResultEnvelope) : Option (Protected .activePids) :=
  some (if sealed.isSome then (o, false) else (none, false))

/-- The result passes `verify_result_integrity` with the manifest. -/
def Verified (digest : ResultEnvelope → Digest) (manifest : RunManifest) (result : ResultEnvelope) :
    Prop :=
  ∀ host : Host, host.resultDigest = digest →
    checkResultIntegrity host manifest (some result) =
      .ok (some { contractVersion := result.resultVersion, actionable := true })

/-- The processes of a sealed run bind its result with the digest that they are
    verified by. -/
def Seals (sealed : Seal) (host : Host) : Prop :=
  ∀ binds, sealed = some binds → binds = Verified host.resultDigest

theorem checkResultIntegrity_ok {m : RunManifest} {result : ResultEnvelope}
    (hdigest : m.resultSha256 = some (host.resultDigest result))
    (hcompleted : m.status = .completed) (hschema : Schema.result result = true)
    (hrun : result.runId = m.runId) (hstatus : result.status = .completed)
    (hbrief : result.briefSha256 = m.briefSha256) (hseat : result.seatBinding = m.seatBinding)
    (hroutes : result.routeBindings = m.routeBindings) :
    checkResultIntegrity host m (some result) =
      .ok (some { contractVersion := result.resultVersion, actionable := true }) := by
  have holds : ∀ {b : Bool} {message : String}, b = true → Policy.require b message = .ok () :=
    fun h => Policy.require_ok.mpr h
  unfold checkResultIntegrity
  rw [if_neg (not_not.mpr (Or.inl hcompleted)), hdigest]
  refine Policy.bind_unit_ok.mpr ⟨holds (by simp), Policy.bind_unit_ok.mpr ⟨holds hschema, ?_⟩⟩
  refine Policy.bind_unit_ok.mpr ⟨holds (by simp [hrun]), ?_⟩
  refine Policy.bind_unit_ok.mpr ⟨holds (by simp [hstatus, hcompleted]), ?_⟩
  refine Policy.bind_unit_ok.mpr ⟨holds (by simp [hbrief]), ?_⟩
  refine Policy.bind_unit_ok.mpr ⟨holds (by simp [hseat]), ?_⟩
  exact Policy.bind_unit_ok.mpr ⟨holds (by simp [hroutes]), rfl⟩

/-- What a result takes from the manifest that it is merged under. -/
theorem mergeVerdicts_manifest {brief : Brief} {r1 r2 : List LaneAccepted}
    {primary counterpart : ArbiterVerdict} {result : ResultEnvelope}
    (h : mergeVerdicts manifest brief policy r1 r2 primary counterpart = some result) :
    result.runId = manifest.runId ∧ result.status = .completed ∧
      result.briefSha256 = manifest.briefSha256 ∧ result.seatBinding = manifest.seatBinding ∧
      result.routeBindings = manifest.routeBindings := by
  unfold mergeVerdicts at h
  obtain ⟨perspectives, -, h⟩ := Option.bind_eq_some_iff.mp h
  cases h
  exact ⟨rfl, rfl, rfl, rfl, rfl⟩

/-- **A merged result** verifies with the manifest that completes the run. -/
theorem verified_mergedResult {s : RunDir} {r1 r2 : List LaneAccepted} {verdict : ArbiterVerdict}
    {result : ResultEnvelope} (h : mergedResult s manifest r1 r2 verdict = .ok result)
    {digest : ResultEnvelope → Digest} (current : RunManifest) (phase : Option String) (now : Nat) :
    Verified digest (nextManifest current
      { manifest with resultSha256 := some (digest result) } .completed phase now) result := by
  intro host hhost
  unfold mergedResult at h
  cases hcc : s.ccResponse with
  | none =>
    simp only [hcc] at h
    cases h
  | some counterpart =>
    simp only [hcc] at h
    obtain ⟨-, h⟩ := Policy.bind_unit_ok.mp h
    cases hmerged : mergeVerdicts manifest s.inputs.brief s.inputs.policy r1 r2 verdict
        counterpart with
    | none =>
      simp only [hmerged] at h
      cases h
    | some merged =>
      simp only [hmerged] at h
      obtain ⟨hschema, h⟩ := Policy.bind_unit_ok.mp h
      obtain rfl := Except.ok.inj h
      rw [Policy.require_ok] at hschema
      obtain ⟨hrun, hstatus, hbrief, hseat, hroutes⟩ := mergeVerdicts_manifest hmerged
      refine checkResultIntegrity_ok ?_ rfl hschema hrun hstatus hbrief hseat hroutes
      rw [hhost]
      rfl

/-- `write_run_result`, with the result in hand. -/
theorem obeys_writeRunResult {m : RunHand} {r1 r2 : List LaneAccepted} {verdict : ArbiterVerdict}
    {o : Option ResultEnvelope} (hheld : m.held .activePids = openResult sealed o) :
    Obeys (custody sealed) me (fun r k => (∃ e, r = .error e ∧ k = m) ∨
        ∃ s result, mergedResult s manifest r1 r2 verdict = .ok result ∧ r = .ok result ∧
          k = m.put .activePids (openResult sealed (some result)))
      (writeRunResult manifest r1 r2 verdict) m := by
  refine Obeys.read (custody_lawful sealed) fun s _ => ?_
  refine Obeys.ofExcept (fun result hmerged => ?_) fun e he => Or.inl ⟨e, he ▸ rfl, rfl⟩
  refine obeys_result hheld ?_
  exact obeys_update (fun _ => rfl) (Or.inr ⟨s, result, hmerged, rfl, rfl⟩)

/-- **The result** is written and bound to the run under both locks. -/
theorem obeys_publishResult {m : RunHand} {r1 r2 : List LaneAccepted} {verdict : ArbiterVerdict}
    {o : Option ResultEnvelope} (hm : Steady sealed m) (hrun : (m.held .run).isSome = true)
    (hheld : m.held .activePids = openResult sealed o)
    (hhost : Seals sealed host) :
    Obeys (custody sealed) me (fun r k => Onward sealed (fun l => l = .run ∨ l = .activePids)
        (Returns (fun (_ : RunStatus) _ => True) r) m k)
      (publishResult me host policy manifest r1 r2 verdict) m := by
  refine Obeys.bind ((obeys_writeRunResult hheld).mono fun r k hk => ?_)
  rcases hk with ⟨e, rfl, rfl⟩ | ⟨s, result, hmerged, rfl, rfl⟩
  · exact Onward.refl hm fun _ _ => trivial
  have hput : Steady sealed (m.put .activePids (openResult sealed (some result))) := hm
  have honward : Onward sealed (fun l => l = .run ∨ l = .activePids) (fun _ => True) m
      (m.put .activePids (openResult sealed (some result))) := by
    refine ⟨fun l => ?_, hm, fun _ hs => ⟨hs, trivial⟩⟩
    by_cases hl : l = .activePids
    · subst hl
      exact Or.inr ⟨Or.inr rfl, by rw [Hand.put_self]; rfl, by rw [hheld]; rfl⟩
    · exact Or.inl (Hand.put_ne _ _ hl)
  refine Obeys.read (custody_lawful sealed) fun t ht => ?_
  refine Obeys.ofExcept (fun digest hread => ?_) fun e _ => honward
  -- the digest is that of the result in hand
  have hcompletes : result.status = .completed → ∀ c phase now,
      Completes sealed (m.put .activePids (openResult sealed (some result)))
        (nextManifest c { manifest with resultSha256 := some digest } .completed phase now) := by
    intro _ c phase now binds hbinds
    have hview : protectedView sealed .activePids t = (some result, false) := by
      refine ht.view .activePids _ ?_
      rw [Hand.put_self, openResult, hbinds]
      rfl
    have hresult : t.result = some result :=
      congrArg Prod.fst ((protectedView_sealed hbinds).symm.trans hview)
    rw [hresult] at hread
    refine ⟨?_, result, false, ?_, ?_⟩
    · rw [Hand.put_ne _ _ (by decide)]
      exact hrun
    · rw [Hand.put_self, openResult, hbinds]
      rfl
    · rw [hhost binds hbinds, ← Except.ok.inj hread]
      exact verified_mergedResult hmerged c phase now
  refine Obeys.bind ((obeys_transition hput hcompletes).mono fun r k hk => ?_)
  have hlater : Onward sealed (fun l => l = .run ∨ l = .activePids) (Returns Reached r) m k :=
    honward.trans (hk.relax fun _ hl => hl.2.2)
  cases r with
  | error e => exact hlater
  | ok reached =>
    have hrest : Tidy sealed me (fun _ => True) (fun _ => True) (do
        let _ ← Store.event me manifest.runId "run.completed" none none none (jsonObject [
          ("timeout_seconds", toString policy.timeoutSeconds),
          ("r2_parallel", toString policy.r2Parallel),
          ("max_attempts", toString policy.maxAttempts),
          ("retry_backoff_seconds", toString policy.retryBackoffSeconds),
          ("retry_backoff_max_seconds", toString policy.retryBackoffMaxSeconds),
          ("r2_min_interval_seconds", toString policy.r2MinIntervalSeconds)])
        return reached.1) := (tidy_event).bind fun _ => Tidy.pure _
    refine (hrest k (hk.stable) trivial fun _ _ => trivial).mono fun r w hw => ?_
    exact hlater.trans (hw.relax fun _ hl => hl.elim)

/-- **`finalize`** completes the run with the run lock in hand. -/
theorem orderly_finalize {r1 r2 : List LaneAccepted} {verdict : ArbiterVerdict}
    (hhost : Seals sealed host) :
    Orderly sealed me (Advancing sealed) (fun l => l = .run) K (fun _ _ => True)
      (finalize me host policy manifest r1 r2 verdict) := by
  have hpublish : Orderly sealed me (Advancing sealed) (fun l => l = .run) K (fun _ _ => True)
      (Proc.withLock me .activePids do
        if ← Prog.read (·.cancelRequested) then return none
        else do
          let status ← publishResult me host policy manifest r1 r2 verdict
          return some status) := by
    intro m hm hadvancing _
    obtain ⟨b, hb, hopen⟩ := hadvancing
    refine obeys_locked fun s hs hnone => ?_
    have hheld : some (protectedView sealed .activePids s) = openResult sealed s.result := by
      cases hsealed : sealed with
      | none => rfl
      | some binds =>
        -- the run lock says that the run has not completed
        have hview : protectedView sealed .run s = b :=
          hs.view .run b ((Hand.put_ne _ _ (by decide)).trans hb)
        have hcompleted : completed s = false := by
          rw [hopen (by rw [hsealed]; rfl), hsealed] at hview
          exact hview
        exact congrArg some (Prod.ext rfl hcompleted)
    refine Obeys.read (custody_lawful sealed) fun t _ => ?_
    split
    · exact Onward.dropped hnone hm fun _ _ => trivial
    · have hin : (m.put .activePids (some (protectedView sealed .activePids s))).held .activePids =
          openResult sealed s.result := (Hand.put_self ..).trans hheld
      have hrun : ((m.put .activePids
          (some (protectedView sealed .activePids s))).held .run).isSome = true := by
        rw [Hand.put_ne _ _ (by decide), hb]
        rfl
      refine Obeys.bind ((obeys_publishResult (m := m.put .activePids _) hm hrun hin
        hhost).mono fun r k hk => ?_)
      have hend : ∀ r' : Except String (Option RunStatus),
          (k.held .activePids).isSome = true ∧ Onward sealed (fun l => l = .run)
            (Returns (fun _ _ => True) r') m (k.put .activePids none) := by
        refine fun r' => ⟨hk.still, fun l => ?_, hk.stable, fun s hs => ⟨(hk.known s hs).1, ?_⟩⟩
        · by_cases hl : l = .activePids
          · subst hl
            exact Or.inl ((Hand.put_self ..).trans hnone.symm)
          · rw [Hand.put_ne _ _ hl]
            have hheld' := hk.held l
            rw [Hand.put_ne _ _ hl] at hheld'
            exact hheld'.imp_right fun h => ⟨h.1.resolve_right hl, h.2⟩
        · cases r' <;> trivial
      cases r with
      | ok status => exact hend _
      | error e => exact hend _
  refine Orderly.bind_last hpublish fun published => ?_
  cases published with
  | some status => exact Orderly.pure fun _ _ => trivial
  | none => exact ((tidy_cancelRun).bind fun _ => Tidy.pure _).relax fun _ hf => hf.elim

/-! ### `advance` -/

theorem orderly_mergeSubmission {brief : Brief} {r1 r2 : List LaneAccepted}
    (hhost : Seals sealed host) :
    Orderly sealed me (Advancing sealed) (fun l => l = .run) K (fun _ _ => True)
      (mergeSubmission me host policy brief manifest r1 r2) := by
  refine Orderly.after (leaves_answer _) fun now => Orderly.read fun recovered => ?_
  rcases recovered with message | _ | manifest
  · exact Orderly.bind (orderly_failRun (by decide)) fun _ => Orderly.pure fun _ _ => trivial
  · exact Orderly.bind (orderly_transition (by decide)) fun _ => Orderly.pure fun _ _ => trivial
  · refine Orderly.bind (orderly_stageTransition (by decide)) fun stage => ?_
    cases stage with
    | done status => exact Orderly.pure fun _ _ => trivial
    | go manifest =>
      refine Orderly.read fun owned => Orderly.bind (Tidy.ofExcept _) fun verdict => ?_
      exact orderly_finalize hhost

theorem orderly_enterR3 {brief : Brief} {r1 r2 : List LaneAccepted} (hhost : Seals sealed host)
    (hK : ∀ s, K s → Honest manifest s) :
    Orderly sealed me (Advancing sealed) (fun l => l = .run) K (fun _ _ => True)
      (enterR3 me host policy brief manifest r1 r2) := by
  refine Orderly.bind tidy_ensureEvidencePacket fun _ => ?_
  refine Orderly.andThen (orderly_enterCounterpart fun s hs => hK s hs.1) fun manifest => ?_
  refine Orderly.andThen (orderly_bindInputs fun _ hs => hs.2) fun manifest => ?_
  refine Orderly.andThen (orderly_enterPrimary fun _ hs => hs.2) fun manifest => ?_
  split
  · exact (tidy_awaitSubmission fun _ hs => hs.2).relax fun _ hf => hf.elim
  · exact orderly_mergeSubmission hhost

theorem orderly_advanceStages {brief : Brief} (hhost : Seals sealed host)
    (hK : ∀ s, K s → Honest manifest s) :
    Orderly sealed me (Advancing sealed) (fun l => l = .run) K (fun _ _ => True)
      (advanceStages me host policy brief manifest) := by
  refine Orderly.andThen (orderly_preflight hK) fun manifest => ?_
  refine Orderly.andThen (orderly_enterPhase (by decide) fun _ hs => hs.2) fun r1 => ?_
  refine Orderly.andThen (orderly_passGate (by decide) fun _ hs => hs.2) fun manifest => ?_
  refine Orderly.andThen (orderly_enterR2 fun _ hs => hs.2) fun r2 => ?_
  refine Orderly.andThen (orderly_passGate (by decide) fun _ hs => hs.2) fun manifest => ?_
  exact orderly_enterR3 hhost fun _ hs => hs.2

/-- **`advance`** goes on only with a run that has not completed, and the run
    lock says so from then on. -/
theorem orderly_advanceLocked (hhost : Seals sealed host) :
    Orderly sealed me (fun o => o.isSome = true) (fun l => l = .run) K (fun _ _ => True)
      (advanceLocked me host) := by
  refine Orderly.bind tidy_reconcileOrphanProcesses fun _ => ?_
  intro m hm hrun _
  refine Obeys.bind ((obeys_loadManifest hm).mono fun r k hk => ?_)
  have honward : Onward sealed (fun l => l = .run) (Returns Honest r) m k :=
    hk.1.relax fun _ hf => hf.elim
  cases r with
  | error e => exact honward
  | ok manifest =>
    have hmid : Onward sealed (fun l => l = .run) (Honest manifest) m k := honward
    show Obeys _ _ _ (if manifest.status.terminal then _ else _) k
    split
    case isTrue => exact hmid.mono fun _ _ => trivial
    case isFalse hopen =>
      -- the lock was taken with the run as the manifest has it
      obtain ⟨b, hb⟩ := Option.isSome_iff_exists.mp hrun
      have hadvancing : Advancing sealed (k.held .run) := by
        refine ⟨b, (hk.1.same .run).trans hb, fun hsealed => ?_⟩
        rw [(hk.2 manifest rfl).2 b hb hsealed]
        exact not_completed (Bool.eq_false_of_not_eq_true hopen)
      have henough : ∀ p : Proc RunStatus, Orderly sealed me (Advancing sealed) (fun l => l = .run)
          (fun s => Honest manifest s) (fun _ _ => True) p →
          Obeys (custody sealed) me (fun r w =>
            Onward sealed (fun l => l = .run) (Returns (fun _ _ => True) r) m w) p k := fun p hp =>
        (hp k hmid.stable hadvancing fun s hs => (hmid.known s hs).2).mono
          fun r w hw => hmid.trans hw
      refine henough _ (Orderly.read fun inputs => Orderly.read fun checked => ?_)
      cases checked with
      | error message =>
        exact Orderly.bind (orderly_failRun (by decide)) fun _ => Orderly.pure fun _ _ => trivial
      | ok _ => exact orderly_advanceStages hhost fun _ hs => hs

theorem orderly_advance (hhost : Seals sealed host) :
    Orderly sealed me ρ strict K (fun _ _ => True) (advance me host) :=
  (orderly_advanceLocked hhost).withRunLock

/-! ### The other commands -/

theorem orderly_recordWorkerFailure {message : String} :
    Orderly sealed me ρ strict K (fun _ _ => True) (recordWorkerFailure me message) := by
  refine Orderly.withRunLock (Orderly.bind orderly_loadManifest fun manifest => ?_)
  split
  · exact Orderly.pure fun _ _ => trivial
  · exact Orderly.bind (orderly_failRun (by decide)) fun _ => Orderly.pure fun _ _ => trivial

theorem claimed_status {staged : RunManifest} {response : PrimaryArbiterResponse} {now : Nat}
    (h : stageReceipt host manifest response now = .ok staged) :
    staged.status = manifest.status := by
  unfold stageReceipt at h
  split at h
  · cases h
  · cases h
    rfl

theorem orderly_claimSubmission {response : PrimaryArbiterResponse}
    (hK : ∀ s, K s → Honest manifest s) :
    Orderly sealed me ρ strict K (fun staged s => Honest staged s)
      (claimSubmission me host manifest response) := by
  unfold claimSubmission
  split
  · exact Orderly.ensure fun _ => Orderly.pure hK
  refine Orderly.after (leaves_answer _) fun now => Orderly.read fun checked => ?_
  refine Orderly.bind (Tidy.ofExcept _) fun _ => Orderly.after (leaves_answer _) fun stagedAt => ?_
  cases hstaged : stageReceipt host manifest response stagedAt with
  | error message => exact Orderly.throw
  | ok staged =>
    have hsaved : ∀ s, K s ∧ True → Honest staged s :=
      fun s hs => (hK s hs.1).of_status (claimed_status hstaged)
    show Orderly _ _ _ _ _ _ (do
      Store.saveManifest me staged
      return staged)
    exact Orderly.bind (orderly_saveManifest hsaved) fun _ => Orderly.pure fun s hs => hsaved s hs.1

theorem orderly_submitLocked {response : PrimaryArbiterResponse} :
    Orderly sealed me ρ strict K (fun _ _ => True) (submitLocked me host response) := by
  refine Orderly.bind orderly_loadManifest fun manifest => Orderly.read fun checked => ?_
  cases checked with
  | error message => exact (orderly_stageFails (P := fun _ _ => True) (by decide)).ends
  | ok _ =>
    refine Orderly.read fun brief => ?_
    refine Orderly.bind (orderly_claimSubmission fun _ hs => hs.2) fun staged => ?_
    refine Orderly.bind (orderly_acceptResponse fun _ hs => hs.2) fun accepted => ?_
    refine Orderly.bind (Tidy.ofExcept _) fun _ => ?_
    dsimp only
    split
    · exact Tidy.bind tidy_event fun _ => Tidy.pure _
    · exact Tidy.pure _

theorem orderly_submitResponse {response : PrimaryArbiterResponse} (hhost : Seals sealed host) :
    Orderly sealed me ρ strict K (fun _ _ => True)
      (submitPrimaryArbiterResponse me host response) := by
  have hlocked : Orderly sealed me ρ strict K (fun _ _ => True)
      (Store.withRunLock me (submitLocked me host response)) :=
    Orderly.withRunLock ((orderly_submitLocked).relax fun _ hf => hf.elim)
  refine Orderly.andThen (P := fun _ _ => True) ?_ fun _ => orderly_advance hhost
  refine hlocked.mono (fun _ hs => hs) fun stage s _ => ?_
  cases stage <;> trivial

/-- **`cancel`**. -/
theorem orderly_cancel : Orderly sealed me ρ strict K (fun _ _ => True) (cancel me) := by
  refine Orderly.bind orderly_loadManifest fun manifest => ?_
  split
  · exact Orderly.pure fun _ _ => trivial
  refine Orderly.bind orderly_requestCancellation fun requested => ?_
  obtain ⟨status, processes⟩ := requested
  dsimp only
  split
  · exact Orderly.pure fun _ _ => trivial
  refine Orderly.bind orderly_loadManifest fun manifest => ?_
  refine Orderly.bind (orderly_transition (by decide)) fun reached => ?_
  split
  · exact Orderly.pure fun _ _ => trivial
  split
  · exact Orderly.pure fun _ _ => trivial
  · exact Orderly.bind (orderly_transition (by decide)) fun _ => Orderly.pure fun _ _ => trivial

/-- A result that may be amended is not protected. -/
theorem tidy_result {update : RunDir → Option ResultEnvelope} :
    Tidy none me ρ K (Prog.modify fun s => { s with result := update s } : Proc Unit) := by
  intro m hm _ _
  refine Obeys.modify_end fun s hs => ⟨m, .aside hs ?_ (fun _ => rfl) fun l => ?_, ?_⟩
  · exact ⟨id, Or.inl rfl, Or.inl, Or.inl rfl, fun hsealed => (by cases hsealed), Or.inl rfl⟩
  · cases l <;> rfl
  · exact Onward.refl hm fun _ _ => trivial

/-- **`amend_primary_arbiter_verdict`** replaces the result of a completed run. -/
theorem orderly_amendLocked {verdict : ArbiterVerdict} {force : Bool}
    {verdictFile : Except String Digest} :
    Orderly none me ρ strict K (fun _ _ => True)
      (amendLocked me host verdict force verdictFile) := by
  refine Orderly.bind orderly_loadManifest fun manifest => Orderly.read_eq fun t => ?_
  cases hinputs : amendInputs host t manifest verdict with
  | error message => exact Orderly.throw
  | ok inputs =>
    have hstatus : manifest.status = .completed := by
      obtain ⟨hcompleted, -⟩ := Policy.bind_unit_ok.mp hinputs
      simpa using hcompleted
    obtain ⟨r1, r2, verdict⟩ := inputs
    have hwrite : ∀ {K' : RunDir → Prop}, Tidy none me ρ K'
        (writeRunResult manifest r1 r2 verdict) := by
      refine Orderly.read fun merged => (Tidy.ofExcept _).bind fun result => ?_
      exact (tidy_result).bind fun _ => Tidy.after ((leaves_modify _).mpr fun _ => rfl) fun _ =>
        Tidy.pure _
    refine Orderly.bind (p := writeRunResult manifest r1 r2 verdict) hwrite fun _ => ?_
    refine Orderly.read fun digested => ?_
    refine Orderly.bind (Tidy.ofExcept _) fun digest => ?_
    refine Orderly.bind (orderly_saveManifestAfterTerminal hstatus fun s hs => ?_) fun _ => ?_
    · exact hs.1.1.2 hstatus
    · exact Tidy.bind (Tidy.ofExcept _) fun _ => (tidy_event).bind fun _ => Tidy.pure _

theorem tidy_verifyResultIntegrity : Tidy sealed me ρ K (verifyResultIntegrity me host) := by
  refine Orderly.bind orderly_loadManifest fun manifest => Orderly.read fun checked => ?_
  exact Tidy.ofExcept _

/-! ### Runs -/

/-- What a process may run on a run with this seal: any command, but none that
    amends a result that is sealed. -/
inductive SealedCommand (sealed : Seal) (me : Pid) : Proc Unit → Prop where
  | advance (host : Host) (h : Seals sealed host) :
      SealedCommand sealed me (advance me host >>= fun _ => pure ())
  | submit (host : Host) (response : PrimaryArbiterResponse) (h : Seals sealed host) :
      SealedCommand sealed me (submitPrimaryArbiter me host response >>= fun _ => pure ())
  | submitVerdict (host : Host) (verdict : ArbiterVerdict) (force : Bool)
      (h : Seals sealed host) :
      SealedCommand sealed me
        (submitPrimaryArbiterVerdict me host verdict force >>= fun _ => pure ())
  | amend (host : Host) (verdict : ArbiterVerdict) (force : Bool)
      (verdictFile : Except String Digest) (h : sealed = none) :
      SealedCommand sealed me (amendPrimaryArbiterVerdict me host verdict force verdictFile
        >>= fun _ => pure ())
  | cancel : SealedCommand sealed me (cancel me >>= fun _ => pure ())
  | recordWorkerFailure (message : String) :
      SealedCommand sealed me (recordWorkerFailure me message >>= fun _ => pure ())
  | verifyResultIntegrity (host : Host) :
      SealedCommand sealed me (verifyResultIntegrity me host >>= fun _ => pure ())
  | events : SealedCommand sealed me (Store.events me >>= fun _ => pure ())

/-- Without a seal, these are all commands. -/
theorem RunCommand.unsealed {p : Proc Unit} (h : RunCommand me p) : SealedCommand none me p := by
  have hhost : ∀ host, Seals none host := fun _ _ h => by cases h
  cases h with
  | advance host => exact .advance host (hhost host)
  | submit host response => exact .submit host response (hhost host)
  | submitVerdict host verdict force => exact .submitVerdict host verdict force (hhost host)
  | amend host verdict force verdictFile => exact .amend host verdict force verdictFile rfl
  | cancel => exact .cancel
  | recordWorkerFailure message => exact .recordWorkerFailure message
  | verifyResultIntegrity host => exact .verifyResultIntegrity host
  | events => exact .events

theorem tidy_submitPrimaryArbiterVerdict {verdict : ArbiterVerdict} {force : Bool}
    (hhost : Seals sealed host) :
    Tidy sealed me ρ K (submitPrimaryArbiterVerdict me host verdict force) := by
  refine (Tidy.ofExcept _).bind fun _ => Orderly.read fun valid => ?_
  refine (Tidy.ofExcept _).bind fun checked => ?_
  refine Tidy.bind (orderly_loadManifest).ends fun manifest => ?_
  cases manifest.primaryArbiterChallenge with
  | none => exact Orderly.throw
  | some challenge =>
    exact (Tidy.ofExcept _).bind fun response => Orderly.ensure fun _ =>
      orderly_submitResponse hhost

/-- **Every command** keeps to the course of the run. -/
theorem tidy_command {p : Proc Unit} (h : SealedCommand sealed me p) : Tidy sealed me ρ K p := by
  have hend : ∀ (α : Type) (p : Proc α), Tidy sealed me ρ K p →
      Tidy sealed me ρ K (p >>= fun _ => pure ()) := fun _ _ hp => hp.bind fun _ => Tidy.pure _
  cases h with
  | advance host hhost => exact hend _ _ (orderly_advance hhost)
  | submit host response hhost =>
    exact hend _ _ (Orderly.ensure fun _ => orderly_submitResponse hhost)
  | submitVerdict host verdict force hhost =>
    exact hend _ _ (tidy_submitPrimaryArbiterVerdict hhost)
  | amend host verdict force verdictFile hsealed =>
    subst hsealed
    refine hend _ _ ((Tidy.ofExcept _).bind fun _ => ?_)
    exact Orderly.withRunLock ((orderly_amendLocked).relax fun _ hf => hf.elim)
  | cancel => exact hend _ _ orderly_cancel
  | recordWorkerFailure message => exact hend _ _ orderly_recordWorkerFailure
  | verifyResultIntegrity host => exact hend _ _ tidy_verifyResultIntegrity
  | events => exact hend _ _ orderly_events

/-! ### Runs -/

/-- A run that was just published. -/
structure Published (s : RunDir) : Prop extends NewRun s where
  manifest : ∃ m, s.manifest = some m ∧ m.status = .queued
  flagAtLock : s.flagAtLock = false

/-- A run of any number of processes under a seal, with crashes at any point. -/
abbrev SealedRun (sealed : Seal) (ok : Pool.Label Pid → RunDir → RunDir → Prop) (s : RunDir) :
    Pool Pid RunDir Answer String → Prop :=
  Pool.Run (fun me s => s.control (·.release me)) (SealedCommand sealed) ok (Pool.idle s)

section runs

variable {s : RunDir} {ok : Pool.Label Pid → RunDir → RunDir → Prop}
  {c c' : Pool Pid RunDir Answer String}

theorem Published.inCourse (h : Published s) : InCourse sealed s := by
  obtain ⟨m, hm, hstatus⟩ := h.manifest
  refine ⟨⟨m, hm⟩, ?_, ?_, fun hflag => ?_, fun _ _ m' hm' hcompleted => ?_⟩
  · rw [h.events]
    rfl
  · rw [logged, h.events]
    exact List.nodup_nil
  · rw [h.flagAtLock] at hflag
    cases hflag
  · obtain rfl := Option.some.inj (hm.symm.trans hm')
    rw [hstatus] at hcompleted
    cases hcompleted

theorem obeys_command {me : Pid} {p : Proc Unit} (h : SealedCommand sealed me p) :
    Obeys (custody sealed) me (fun _ _ => True) p Hand.empty := by
  have htidy : Tidy sealed me (fun _ => True) (fun _ => True) p := tidy_command h
  have hsteady : Steady sealed Hand.empty := fun _ _ _ _ _ => trivial
  exact (htidy _ hsteady trivial fun _ _ => trivial).mono fun _ _ _ => trivial

theorem kept_run (h : Published s) (hrun : LaneRun ok s c) : (custody none).Kept c :=
  (Locking.run_may (J := fun _ => True) (custody_lawful none)
    (fun _ _ hp => obeys_command hp.unsealed) (fun _ _ _ _ _ => trivial) hrun
    (Locking.kept_idle h.inCourse) trivial).1

/-- What every step keeps, later states have. -/
theorem run_later {J : RunDir → Prop} (h : Published s) (hrun : LaneRun ok s c)
    (hlater : Pool.Run (fun me s => s.control (·.release me)) RunCommand ok c c')
    (hJ : ∀ s s', InCourse none s → Course none s s' → J s → J s') (hnow : J c.shared) :
    J c'.shared :=
  (Locking.run_may (custody_lawful none) (fun _ _ hp => obeys_command hp.unsealed) hJ hlater
    (kept_run h hrun) hnow).2

/-! ### Runs for examples -/

theorem published_createdDir : Published createdDir :=
  ⟨newRun_createdDir, ⟨_, rfl, rfl⟩, rfl⟩

/-- While one process advances the run, another one begins to cancel it. -/
def cancelBegun : List (Pool.Command Pid RunDir Answer String) :=
  advanceFor 60 ++ .start 1 (cancel 1 >>= fun _ => pure ()) ::
    List.replicate 10 (.move 1 sampleAnswer)

theorem cancelBegun_within : ∀ x ∈ cancelBegun, x.Within RunCommand := by
  intro x hx
  rcases List.mem_append.mp hx with hx | hx
  · exact advanceFor_within 60 x hx
  · rcases List.mem_cons.mp hx with rfl | hx
    · exact RunCommand.cancel
    · rw [List.eq_of_mem_replicate hx]
      trivial

/-- The run when the cancellation is requested, and when it is carried out. -/
theorem cancelled_sample : ∃ c c', LaneRun (fun _ _ _ => True) createdDir c ∧
    Pool.Run (fun me s => s.control (·.release me)) RunCommand (fun _ _ _ => True) c c' ∧
    c.shared.cancelRequested = true ∧ c.shared.locks .manifest = none ∧
    c.shared.events.length = 2 ∧ c'.shared.events.length = 3 ∧
    ∃ m, c.shared.manifest = some m ∧ m.status = .r1Running := by
  have hboth : (carriedOut (fun _ _ _ => True) cancelBegun).any (fun c =>
      c.shared.cancelRequested && (c.shared.locks .manifest).isNone &&
      c.shared.events.length == 2 && c.shared.manifest.any (·.status == .r1Running) &&
      (Pool.schedule (fun _ _ _ => True) (fun me s => s.control (·.release me))
        (List.replicate 30 (.move 1 sampleAnswer)) c).any
          (·.shared.events.length == 3)) = true := by
    decide +kernel
  obtain ⟨c, hc, hboth⟩ := (Option.any_eq_true _ _).mp hboth
  simp only [Bool.and_eq_true, Option.isNone_iff_eq_none, beq_iff_eq] at hboth
  obtain ⟨⟨⟨⟨hflag, hfree⟩, hevents⟩, hstatus⟩, hlater⟩ := hboth
  obtain ⟨c', hc', hlater⟩ := (Option.any_eq_true _ _).mp hlater
  obtain ⟨m, hm, hstatus⟩ := (Option.any_eq_true _ _).mp hstatus
  refine ⟨c, c', laneRun_of_carriedOut cancelBegun_within hc,
    Pool.run_of_schedule _ Pool.Run.refl (fun x hx => ?_) hc', hflag, hfree, hevents,
    by simpa using hlater, m, hm, by simpa using hstatus⟩
  rw [List.eq_of_mem_replicate hx]
  trivial

/-! ### The end of a run -/

/-- A cancellation was requested, and no process is still at work on the manifest
    that took its lock before. -/
def CancelSeen (s : RunDir) : Prop :=
  s.cancelRequested = true ∧ (s.locks .manifest = none ∨ s.flagAtLock = true)

theorem CancelSeen.step {s s' : RunDir} (h : CancelSeen s) (hstep : Course sealed s s') :
    CancelSeen s' := by
  obtain ⟨hflag, hseen⟩ := h
  refine ⟨hstep.flag hflag, ?_⟩
  rcases hstep.flagAtLock with heq | heq
  · rcases hseen with hfree | hseen
    · exact (hstep.entry hfree).imp_right fun hentry => hentry.trans hflag
    · exact Or.inr (heq.trans hseen)
  · exact Or.inr (heq.trans hflag)

/-- **The end of a run**: whatever any processes do, crashes included, a terminal
    status stays. Once a cancellation is seen, the manifest stays as it is or says
    that the run is cancelled or being cancelled. -/
theorem run_final (h : Published s) (hrun : LaneRun ok s c)
    (hlater : Pool.Run (fun me s => s.control (·.release me)) RunCommand ok c c')
    {m : RunManifest} (hm : c.shared.manifest = some m) :
    ∃ m', c'.shared.manifest = some m' ∧ (m.status.terminal = true → m'.status = m.status) ∧
      (CancelSeen c.shared → m' = m ∨ m'.status.cancels = true ∨
        m.status.terminal = true ∧ m'.status = m.status) := by
  let J : RunDir → Prop := fun t => ∃ m', t.manifest = some m' ∧
    (m.status.terminal = true → m'.status = m.status) ∧
    (CancelSeen c.shared → CancelSeen t ∧ (m' = m ∨ m'.status.cancels = true ∨
      m.status.terminal = true ∧ m'.status = m.status))
  have hJ : ∀ t t', InCourse none t → Course none t t' → J t → J t' := by
    intro t t' _ hstep hJ
    obtain ⟨m', hm', hterminal, hcancel⟩ := hJ
    have hseen : CancelSeen c.shared → CancelSeen t' := fun hc => (hcancel hc).1.step hstep
    rcases hstep.manifest with heq | ⟨hheld, x, y, hx, hy, hreplaces⟩
    · exact ⟨m', heq.trans hm', hterminal, fun hc => ⟨hseen hc, (hcancel hc).2⟩⟩
    obtain rfl := Option.some.inj (hm'.symm.trans hx)
    refine ⟨y, hy, fun hm => ?_, fun hc => ⟨hseen hc, ?_⟩⟩
    · have hstatus := hterminal hm
      exact (hreplaces.terminal (hstatus ▸ hm)).2.trans hstatus
    · cases hopen : m'.status.terminal with
      | true =>
        -- only an amendment replaces such a manifest
        have hsame : y.status = m'.status := (hreplaces.terminal hopen).2
        rcases (hcancel hc).2 with rfl | hcancels | ⟨hm, hstatus⟩
        · exact Or.inr (Or.inr ⟨hopen, hsame⟩)
        · exact Or.inr (Or.inl (hsame ▸ hcancels))
        · exact Or.inr (Or.inr ⟨hm, hsame.trans hstatus⟩)
      | false =>
        -- its lock was taken after the request
        have hflag : t.flagAtLock = true := (hcancel hc).1.2.resolve_left hheld
        exact Or.inr (Or.inl (hreplaces.cancels hopen (Or.inl hflag)))
  obtain ⟨m', hm', hterminal, hcancel⟩ := run_later h hrun hlater hJ
    ⟨m, hm, fun _ => rfl, fun hc => ⟨hc, Or.inl rfl⟩⟩
  exact ⟨m', hm', hterminal, fun hc => (hcancel hc).2⟩

theorem run_final_sample : ∃ c c' : Pool Pid RunDir Answer String,
    LaneRun (fun _ _ _ => True) createdDir c ∧
    CancelSeen c.shared ∧ ∃ m m', c.shared.manifest = some m ∧ c'.shared.manifest = some m' ∧
      (m' = m ∨ m'.status.cancels = true) := by
  obtain ⟨c, c', hrun, hlater, hflag, hfree, -, -, m, hm, hstatus⟩ := cancelled_sample
  have hseen : CancelSeen c.shared := ⟨hflag, Or.inl hfree⟩
  obtain ⟨m', hm', -, hcancel⟩ := run_final published_createdDir hrun hlater hm
  refine ⟨c, c', hrun, hseen, m, m', hm, hm', ?_⟩
  rcases hcancel hseen with heq | hcancels | ⟨hterminal, -⟩
  · exact Or.inl heq
  · exact Or.inr hcancels
  · rw [hstatus] at hterminal
    cases hterminal

/-! ### The ledger -/

/-- **The ledger** only grows, its events are numbered from one without a gap, and
    no transition is in it twice. -/
theorem ledger_append_only (h : Published s) (hrun : LaneRun ok s c)
    (hlater : Pool.Run (fun me s => s.control (·.release me)) RunCommand ok c c') :
    c.shared.events <+: c'.shared.events ∧ Sequenced c'.shared.events ∧
      (logged c'.shared.toControl).Nodup := by
  have hJ : ∀ t t', InCourse none t → Course none t t' →
      c.shared.events <+: t.events ∧ InCourse none t →
      c.shared.events <+: t'.events ∧ InCourse none t' := by
    intro t t' hinv hstep hJ
    refine ⟨?_, Course.inCourse hinv hstep⟩
    rcases hstep.ledger with heq | ⟨e, heq, -⟩
    · rw [heq]
      exact hJ.1
    · rw [heq]
      exact hJ.1.trans (List.prefix_append _ _)
  obtain ⟨hgrows, hinv⟩ := run_later h hrun hlater hJ ⟨List.prefix_rfl, (kept_run h hrun).1⟩
  exact ⟨hgrows, hinv.sequences, hinv.once⟩

theorem ledger_append_only_sample : ∃ c c' : Pool Pid RunDir Answer String,
    c.shared.events.length = 2 ∧ c'.shared.events.length = 3 ∧
      c.shared.events <+: c'.shared.events := by
  obtain ⟨c, c', hrun, hlater, -, -, hevents, hevents', -⟩ := cancelled_sample
  exact ⟨c, c', hevents, hevents', (ledger_append_only published_createdDir hrun hlater).1⟩

/-! ### Verification -/

/-- **A completed run verifies**: as long as no verdict is amended, the result of a
    completed run is there and passes `verify_result_integrity`, in every state,
    whatever any processes do and wherever they crash. -/
theorem completed_verifies (host : Host) (h : Published s)
    (hrun : SealedRun (some (Verified host.resultDigest)) ok s c) {m : RunManifest}
    (hm : c.shared.manifest = some m) (hstatus : m.status = .completed) :
    ∃ integrity, checkResultIntegrity host m c.shared.result = .ok (some integrity) := by
  have hkept := (Locking.run_may (J := fun _ => True) (custody_lawful _)
    (fun _ _ hp => obeys_command hp) (fun _ _ _ _ _ => trivial) hrun
    (Locking.kept_idle h.inCourse) trivial).1
  obtain ⟨result, hresult, hverified⟩ := hkept.1.result _ rfl m hm hstatus
  rw [hresult]
  exact ⟨_, hverified host rfl⟩

/-- The lanes approve, and both arbiters ship. -/
def shipping : List (Pool.Command Pid RunDir Answer String) :=
  let lane : AdapterOutput := .lane {
    laneOutputVersion := "1.0"
    taskRestatement := "review"
    verdict := "approve"
    confidence := 1
    claims := []
    residuals := []
    uncertainties := []
    limitations := [] }
  let arbiter : AdapterOutput := .arbiter {
    arbiterVerdictVersion := "1.0"
    summary := "nothing against it"
    recommendation := "ship it"
    residuals := [] }
  let answer (output : AdapterOutput) : Answer :=
    { sampleAnswer with
      nonce := "0123456789abcdef0123456789abcdef"
      execution := .ok {
        output := some output
        error := none
        retry := .never
        timedOut := false
        cancelled := false
        cleanupError := none } }
  .start 0 (advance 0 sampleHost >>= fun _ => pure ()) ::
    (List.replicate 300 (.move 0 (answer lane)) ++ List.replicate 130 (.move 0 (answer arbiter)))

theorem shipping_within : ∀ x ∈ shipping,
    x.Within (SealedCommand (some (Verified sampleHost.resultDigest))) := by
  intro x hx
  rcases List.mem_cons.mp hx with rfl | hx
  · exact SealedCommand.advance sampleHost fun binds h => (Option.some.inj h).symm
  · rcases List.mem_append.mp hx with hx | hx
    · rw [List.eq_of_mem_replicate hx]
      trivial
    · rw [List.eq_of_mem_replicate hx]
      trivial

theorem completed_verifies_sample : ∃ c m,
    SealedRun (some (Verified sampleHost.resultDigest)) (fun _ _ _ => True) createdDir c ∧
      c.shared.manifest = some m ∧ m.status = .completed ∧
      ∃ integrity, checkResultIntegrity sampleHost m c.shared.result = .ok (some integrity) := by
  have hcompleted : (carriedOut (fun _ _ _ => True) shipping).any
      (fun c => c.shared.manifest.any (·.status == .completed)) = true := by
    decide +kernel
  obtain ⟨c, hc, hcompleted⟩ := (Option.any_eq_true _ _).mp hcompleted
  obtain ⟨m, hm, hstatus⟩ := (Option.any_eq_true _ _).mp hcompleted
  have hrun : SealedRun (some (Verified sampleHost.resultDigest)) (fun _ _ _ => True)
      createdDir c :=
    Pool.run_of_schedule _ Pool.Run.refl shipping_within hc
  rw [beq_iff_eq] at hstatus
  exact ⟨c, m, hrun, hm, hstatus,
    completed_verifies sampleHost published_createdDir hrun hm hstatus⟩

end runs

end Quinte.Run
