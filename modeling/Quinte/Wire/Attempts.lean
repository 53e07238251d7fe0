import Mathlib
import Quinte.Finance.Digests
import Quinte.Model.PolicyFile
import Quinte.Run.PhaseTimeouts

/-! # Observing attempts

    `attempt_observations` makes a row for each attempt that the ledger or a
    retry deadline tells of.  The timeout of a row comes from the policy that
    the home has now; an attempt runs under the policy of its run.

    * `timeout_of_row`: all rows have the timeout of the home;
    * `reported_timeout`: when that is the one that an attempt was given.
-/

namespace Quinte.Wire

open Program
open Finance (Platform)
open Policy (Failure bail lift loadForObservation bind_ok)

/-! ### Rows -/

inductive AttemptState where
  | running | retryWait | accepted | failed
  deriving DecidableEq, Repr, Inhabited

/-- The row of an attempt. -/
structure AttemptRow where
  phase : String
  partyId : String
  routeId : String
  attempt : Nat
  state : AttemptState
  startedAt : Option Nat
  finishedAt : Option Nat
  retryDueAt : Option Json
  failureClass : Option Json
  durationMs : Option Json
  timedOut : Option Json
  retryable : Option Json
  timeoutSeconds : Option Nat
  deriving Inhabited

/-- The key of a row in the map `attempts`. -/
def AttemptRow.key (row : AttemptRow) : String × String × Nat :=
  (row.phase, row.routeId, row.attempt)

/-- The row that `or_insert_with` makes. -/
def newRow (phase partyId routeId : String) (attempt : Nat) (state : AttemptState) : AttemptRow :=
  { (default : AttemptRow) with
    phase := phase
    partyId := partyId
    routeId := routeId
    attempt := attempt
    state := state
    startedAt := none
    finishedAt := none
    retryDueAt := none
    failureClass := none
    durationMs := none
    timedOut := none
    retryable := none
    timeoutSeconds := none }

/-- The order of the keys. -/
def AttemptRow.before (a b : AttemptRow) : Prop :=
  a.phase < b.phase ∨ a.phase = b.phase
    ∧ (a.routeId < b.routeId ∨ a.routeId = b.routeId ∧ a.attempt ≤ b.attempt)

instance : DecidableRel AttemptRow.before := fun _ _ =>
  inferInstanceAs (Decidable (_ ∨ _ ∧ (_ ∨ _ ∧ _)))

/-- `entry(key).or_insert_with(fresh)`, and a change of the row that is there then. -/
def updateRow (rows : List AttemptRow) (fresh : AttemptRow) (change : AttemptRow → AttemptRow) :
    List AttemptRow :=
  if rows.any (·.key == fresh.key) then
    rows.map fun row => if row.key = fresh.key then change row else row
  else rows ++ [change fresh]

/-! ### The events -/

section code

variable (P : Platform)

/-- `event.data.get(name)`. The data of a transition has none of these members. -/
def dataOf (e : Event) (name : String) : Option Json :=
  match e.data with
  | .transition .. => none
  | .other text => (P.json.read text.toList).bind (·.get name)

/-- The members of `lane.retry_wait` and of `lane.retry_scheduled`. -/
def noteRetry (e : Event) (row : AttemptRow) : AttemptRow :=
  { row with
    retryDueAt := (dataOf P e "due_at").or row.retryDueAt
    failureClass := (dataOf P e "failure_class").or row.failureClass }

/-- A member that is not null. -/
def presentData (e : Event) (name : String) : Option Json :=
  (dataOf P e name).filter fun value => !value.isNull

/-- What `lane.finished` says of an attempt. -/
def noteFinished (e : Event) (row : AttemptRow) : AttemptRow :=
  let row := { row with
    state := match dataOf P e "accepted" with
      | some (.bool true) => .accepted
      | _ => .failed
    finishedAt := some e.timestamp
    durationMs := (presentData P e "duration_ms").or row.durationMs
    timedOut := (presentData P e "timed_out").or row.timedOut
    retryable := (presentData P e "retryable").or row.retryable
    failureClass := (presentData P e "failure_class").or row.failureClass }
  { row with
    durationMs := row.durationMs.or
      (row.startedAt.map fun startedAt => .int (e.timestamp - startedAt : Nat)) }

/-- What an event says of the row of its attempt. -/
def noteEvent (e : Event) (row : AttemptRow) : AttemptRow :=
  match e.eventType with
  | "lane.started" | "lane.retry_started" =>
      { row with state := .running, startedAt := some e.timestamp }
  | "lane.retry_wait" => noteRetry P e { row with state := .retryWait }
  | "lane.finished" => noteFinished P e row
  | "lane.accepted" => { row with state := .accepted }
  | _ => row

/-- The rows, and the map `party_routes`, the last insertion first. -/
structure AttemptRows where
  rows : List AttemptRow
  partyRoutes : List (String × String)

/-- The route of an event's party. -/
def routeOf (manifest : RunManifest) (o : AttemptRows) (e : Event) (partyId : String) :
    Option String :=
  (((dataOf P e "route_id").bind Json.asStr).or (o.partyRoutes.lookup partyId)).or
    ((manifest.routeBindings.find? fun binding => binding.partyId = partyId).map (·.routeId))

/-- The row of the attempt that a scheduled retry announces. -/
def noteScheduled (e : Event) (row : AttemptRow) : AttemptRow :=
  noteRetry P e
    (if row.state ≠ .running ∧ row.state ≠ .accepted then { row with state := .retryWait } else row)

/-- The loop over the events, once. -/
def observeEvent (manifest : RunManifest) (o : AttemptRows) (e : Event) :
    Except Failure AttemptRows :=
  match e.phase, e.partyId, e.attempt with
  | some phase, some partyId, some attempt =>
    if phase ∈ ["R1", "R2", "R3"] then
      match routeOf P manifest o e partyId with
      | none => .ok o
      | some routeId =>
        let rows := updateRow o.rows (newRow phase partyId routeId attempt .running) (noteEvent P e)
        let partyRoutes := (partyId, routeId) :: o.partyRoutes
        if e.eventType = "lane.retry_scheduled" then
          if attempt + 1 < 2 ^ 64 then
            .ok ⟨updateRow rows (newRow phase partyId routeId (attempt + 1) .retryWait)
              (noteScheduled P e), partyRoutes⟩
          else bail "retry attempt overflow in host projection"
        else .ok ⟨rows, partyRoutes⟩
    else .ok o
  | _, _, _ => .ok o

end code

/-! ### Retry deadlines -/

/-- `persisted_retry_deadlines`, with the party of each. A scheduler sets a
    deadline for the routes of its manifest only. -/
def persistedRetryDeadlines (s : RunDir) (manifest : RunManifest) :
    Except Failure (List (String × RetryDeadlineState)) :=
  (["R1", "R2", "R3"].flatMap fun phase => manifest.routeBindings.filterMap fun binding =>
    (s.retryDeadlines phase binding.routeId).map fun state => (phase, binding, state)).mapM
    fun (phase, binding, state) =>
      if state.retryStateVersion = "1.0" ∧ state.phase = phase ∧ state.routeId = binding.routeId
          ∧ state.previousAttempt + 1 = state.nextAttempt then
        .ok (binding.partyId, state)
      else bail ("retry deadline does not match " ++ phase ++ "/" ++ binding.routeId)

/-- What a retry deadline says of the row of its attempt. A row that is not running,
    accepted or failed is waiting already. -/
def noteDeadline (state : RetryDeadlineState) (row : AttemptRow) : AttemptRow :=
  { row with
    retryDueAt := row.retryDueAt.or (some (.int state.dueAt))
    failureClass := row.failureClass.or (some (.str state.failureClass)) }

def observeDeadline (rows : List AttemptRow) (deadline : String × RetryDeadlineState) :
    List AttemptRow :=
  updateRow rows
    (newRow deadline.2.phase deadline.1 deadline.2.routeId deadline.2.nextAttempt .retryWait)
    (noteDeadline deadline.2)

/-- `attempt_observations`, of the ledger that `events` returns and of the
    document `raw` in the `policy.json` of the home. -/
def attemptObservations (P : Platform) (s : RunDir) (manifest : RunManifest) (path : String)
    (raw : Json) : Except Failure (List AttemptRow) := do
  let o ← s.events.foldlM (observeEvent P manifest) ⟨[], []⟩
  let deadlines ← persistedRetryDeadlines s manifest
  let rows := (deadlines.foldl observeDeadline o.rows).insertionSort AttemptRow.before
  let home ← loadForObservation path raw
  return rows.map fun row => { row with timeoutSeconds := some home.timeoutSeconds }

/-! ### Timeouts -/

/-- An attempt was built, or its provider call made, with this timeout. -/
def Enforced (s : RunDir) (row : AttemptRow) (timeoutSeconds : Nat) : Prop :=
  (∃ b ∈ s.built, b.phase = row.phase ∧ b.routeId = row.routeId ∧ b.attempt = row.attempt
      ∧ b.timeoutSeconds = timeoutSeconds)
    ∨ ∃ t ∈ s.started, t.phase = row.phase ∧ t.routeId = row.routeId ∧ t.attempt = row.attempt
      ∧ t.timeoutSeconds = timeoutSeconds

/-- The home has now, for every attempt, the timeout of its phase in the policy of the
    run, and the default of that policy for an attempt whose retry has been started. -/
def Agrees (home bound : Policy) (s : RunDir) (row : AttemptRow) : Prop :=
  home.timeoutSeconds = bound.timeoutForPhase row.phase
    ∧ (Run.RetryStarted s row.phase row.routeId row.attempt →
      home.timeoutSeconds = bound.timeoutSeconds)

section timeouts

variable {P : Platform} {s : RunDir} {manifest : RunManifest} {path : String} {raw : Json}
  {rows : List AttemptRow} {home bound : Policy} {row : AttemptRow} {timeoutSeconds : Nat}

/-- **All rows have the timeout of the home.** -/
theorem timeout_of_row (h : attemptObservations P s manifest path raw = .ok rows) :
    ∃ home, loadForObservation path raw = .ok home
      ∧ ∀ row ∈ rows, row.timeoutSeconds = some home.timeoutSeconds := by
  obtain ⟨o, -, h⟩ := Policy.failure_bind_ok.mp h
  obtain ⟨deadlines, -, h⟩ := Policy.failure_bind_ok.mp h
  obtain ⟨home, hhome, h⟩ := Policy.failure_bind_ok.mp h
  obtain rfl := Except.ok.inj h
  refine ⟨home, hhome, fun row hrow => ?_⟩
  obtain ⟨_, -, rfl⟩ := List.mem_map.mp hrow
  rfl

theorem timeout_of_enforced (hkept : Run.TimeoutsKept bound s)
    (h : Enforced s row timeoutSeconds) :
    Run.Timeout bound s row.phase row.routeId row.attempt timeoutSeconds := by
  rcases h with ⟨b, hb, hphase, hroute, hattempt, rfl⟩ | ⟨t, ht, hphase, hroute, hattempt, rfl⟩
  · rw [← hphase, ← hroute, ← hattempt]
    exact hkept.built b hb
  · rw [← hphase, ← hroute, ← hattempt]
    exact hkept.started t ht

theorem enforced_of_agrees (hkept : Run.TimeoutsKept bound s)
    (hagrees : Agrees home bound s row) (h : Enforced s row timeoutSeconds) :
    home.timeoutSeconds = timeoutSeconds := by
  rcases timeout_of_enforced hkept h with hphase | ⟨hdefault, hretry⟩
  · rw [hphase]
    exact hagrees.1
  · rw [hdefault]
    exact hagrees.2 hretry

/-- An attempt that is no retry has the timeout of its phase. -/
theorem agrees_iff_enforced (hkept : Run.TimeoutsKept bound s)
    (hfirst : ¬ Run.RetryStarted s row.phase row.routeId row.attempt)
    (h : Enforced s row timeoutSeconds) :
    Agrees home bound s row ↔ home.timeoutSeconds = timeoutSeconds := by
  refine ⟨fun hagrees => enforced_of_agrees hkept hagrees h, fun heq => ⟨?_, fun hretry => ?_⟩⟩
  · rcases timeout_of_enforced hkept h with hphase | ⟨-, hretry⟩
    · exact heq.trans hphase
    · exact absurd hretry hfirst
  · exact absurd hretry hfirst

end timeouts

/-- **The timeout of a row**: in every run, an attempt's row has the timeout that the
    attempt was given if the policy of the home agrees with that of the run; for an
    attempt without a retry, only then. -/
theorem reported_timeout {ok : Pool.Label Pid → RunDir → RunDir → Prop} {s : RunDir}
    {c : Pool Pid RunDir Answer String} (h : Run.NewRun s) (hbuilt : s.built = [])
    (hrun : Run.LaneRun ok s c) (P : Platform) (manifest : RunManifest) (path : String) (raw : Json)
    (rows : List AttemptRow)
    (hrows : attemptObservations P c.shared manifest path raw = .ok rows) :
    ∃ home, loadForObservation path raw = .ok home
      ∧ ∀ row ∈ rows, ∀ timeoutSeconds, Enforced c.shared row timeoutSeconds →
        (Agrees home s.inputs.policy c.shared row → row.timeoutSeconds = some timeoutSeconds)
          ∧ (¬ Run.RetryStarted c.shared row.phase row.routeId row.attempt →
            row.timeoutSeconds = some timeoutSeconds →
              Agrees home s.inputs.policy c.shared row) := by
  obtain ⟨-, hkept⟩ := Run.run_timed h hbuilt hrun
  obtain ⟨home, hhome, htimeout⟩ := timeout_of_row hrows
  refine ⟨home, hhome, fun row hrow timeoutSeconds henforced => ?_⟩
  rw [htimeout row hrow, Option.some.injEq]
  exact ⟨fun hagrees => enforced_of_agrees hkept hagrees henforced,
    fun hfirst => (agrees_iff_enforced hkept hfirst henforced).mpr⟩

/-! #### A home that is left as it was -/

/-- The policy file of the sample policy, with this timeout for R1. -/
def policyDocument (r1TimeoutSeconds : Json) : Json :=
  let policy := Policy.samplePolicy "a"
  .obj [("policy_version", .str "2.0"), ("seat", Policy.seatValue policy.seat),
    ("roster", .arr (policy.roster.map Policy.routeValue)),
    ("counterpart_arbiter", Policy.routeValue policy.counterpartArbiter),
    ("primary_arbiter", Policy.routeValue policy.primaryArbiter),
    ("auto_primary_arbiter", .bool true), ("text_model", .str "text"),
    ("multimodal_model", .str "multi"), ("max_parallel_r1", .int 5),
    ("max_parallel_r2", .int 1), ("max_attempts", .int 3), ("timeout_seconds", .int 300),
    ("r1_timeout_seconds", r1TimeoutSeconds),
    ("retry_backoff_seconds", .int 15), ("retry_backoff_max_seconds", .int 120),
    ("r2_min_interval_seconds", .int 10), ("max_output_bytes", .int 1048576),
    ("max_snapshot_files", .int 2000), ("max_snapshot_bytes", .int 20971520),
    ("max_attachment_bytes", .int 10485760), ("sandbox_mode", .str "process")]

set_option synthInstance.maxSize 512 in
/-- The first attempt of a run whose policy gives R1 a minute, observed in a home that
    still has this policy. -/
theorem observed_overridden : ∃ c rows, Run.LaneRun (fun _ _ _ => True) Run.overriddenDir c
    ∧ attemptObservations Platform.verbatim c.shared (Run.runManifest .queued) "policy.json"
        (policyDocument (.int 60)) = .ok rows
    ∧ rows.map (fun row => (row.key, row.timeoutSeconds)) = [(("R1", "a", 1), some 300)]
    ∧ c.shared.started.map (fun t => ((t.phase, t.routeId, t.attempt), t.timeoutSeconds))
      = [(("R1", "a", 1), 60)] := by
  have hseen : (Pool.schedule (fun _ _ _ => True) (fun me s => s.control (·.release me))
      (Run.timingOutFor 85) (Pool.idle Run.overriddenDir)).map (fun c =>
        (((attemptObservations Platform.verbatim c.shared (Run.runManifest .queued) "policy.json"
            (policyDocument (.int 60))).toOption.getD []).map
          fun row => (row.key, row.timeoutSeconds),
          c.shared.started.map fun t => ((t.phase, t.routeId, t.attempt), t.timeoutSeconds)))
      = some ([(("R1", "a", 1), some 300)], [(("R1", "a", 1), 60)]) := by
    decide +kernel
  obtain ⟨c, hc, hseen⟩ := Option.map_eq_some_iff.mp hseen
  obtain ⟨htimeouts, hstarted⟩ := Prod.mk.inj hseen
  have hrun : Run.LaneRun (fun _ _ _ => True) Run.overriddenDir c :=
    Pool.run_of_schedule _ Pool.Run.refl (Run.timingOutFor_within 85) hc
  cases hresult : attemptObservations Platform.verbatim c.shared (Run.runManifest .queued)
      "policy.json" (policyDocument (.int 60)) with
  | error e =>
    rw [hresult] at htimeouts
    cases htimeouts
  | ok rows =>
    rw [hresult] at htimeouts
    exact ⟨c, rows, hrun, hresult, htimeouts, hstarted⟩

theorem reported_timeout_overridden : ∃ (c : Pool Pid RunDir Answer String)
    (rows : List AttemptRow) (home : Policy),
    Run.LaneRun (fun _ _ _ => True) Run.overriddenDir c
      ∧ loadForObservation "policy.json" (policyDocument (.int 60)) = .ok home
      ∧ ∀ row ∈ rows, ∀ timeoutSeconds, Enforced c.shared row timeoutSeconds →
        (Agrees home Run.overriddenDir.inputs.policy c.shared row →
            row.timeoutSeconds = some timeoutSeconds)
          ∧ (¬ Run.RetryStarted c.shared row.phase row.routeId row.attempt →
            row.timeoutSeconds = some timeoutSeconds →
              Agrees home Run.overriddenDir.inputs.policy c.shared row) := by
  obtain ⟨c, rows, hrun, hrows, -, -⟩ := observed_overridden
  obtain ⟨home, hhome, hreported⟩ := reported_timeout Run.newRun_overriddenDir rfl hrun
    Platform.verbatim (Run.runManifest .queued) "policy.json" (policyDocument (.int 60)) rows hrows
  exact ⟨c, rows, home, hrun, hhome, hreported⟩

/-- Its row says five minutes. -/
theorem reported_timeout_not_enforced :
    ¬ ∀ (P : Platform) (s : RunDir) (c : Pool Pid RunDir Answer String) (manifest : RunManifest)
        (path : String) (raw : Json) (rows : List AttemptRow),
      Run.NewRun s → s.built = [] → s.inputs.policy.validate = .ok () →
      Run.LaneRun (fun _ _ _ => True) s c →
      attemptObservations P c.shared manifest path raw = .ok rows →
      ∀ row ∈ rows, ∀ timeoutSeconds, Enforced c.shared row timeoutSeconds →
        row.timeoutSeconds = some timeoutSeconds := by
  intro hall
  obtain ⟨c, rows, hrun, hrows, htimeouts, hstarted⟩ := observed_overridden
  have hvalid : Run.overriddenDir.inputs.policy.validate = .ok () := by decide +kernel
  obtain ⟨row, hrow, hkey⟩ := List.map_eq_singleton_iff.mp htimeouts
  obtain ⟨t, ht, hcall⟩ := List.map_eq_singleton_iff.mp hstarted
  obtain ⟨hrowKey, hreported⟩ := Prod.mk.inj hkey
  obtain ⟨hcallKey, htimeout⟩ := Prod.mk.inj hcall
  have hsame := hcallKey.trans hrowKey.symm
  simp only [AttemptRow.key, Prod.mk.injEq] at hsame
  obtain ⟨hphase, hroute, hattempt⟩ := hsame
  have henforced : Enforced c.shared row 60 :=
    Or.inr ⟨t, by simp [ht], hphase, hroute, hattempt, htimeout⟩
  have hequal := hall Platform.verbatim Run.overriddenDir c (Run.runManifest .queued) "policy.json"
    (policyDocument (.int 60)) rows Run.newRun_overriddenDir rfl hvalid hrun hrows row
    (by simp [hrow]) 60 henforced
  rw [hreported] at hequal
  exact absurd hequal (by decide)

end Quinte.Wire
