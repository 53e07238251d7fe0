import Mathlib
import Quinte.Run.LanePhases

/-! # The lanes over the life of a run

    Every command keeps to the protocol of the lanes: only the holder of the
    run lock touches them, by the steps of `LaneStep`.  So what one such step
    keeps holds in every state of a run, whatever its processes do, in any
    order, and wherever they crash.
-/

namespace Quinte.Run

open Program Relation

/-! ### Stages -/

section stages

variable {inputs : Inputs} {me : Pid} {K : Set Part} {s t : RunDir} {α : Type} {host : Host}
  {manifest : RunManifest}

/-- `me` holds the run lock, and the calls of R2 are paced unless they were not
    when it took it. -/
structure Working (inputs : Inputs) (me : Pid) (s : RunDir) : Prop where
  held : s.locks .run = some me
  ready : (paceOf inputs.policy "R2" s.toLanes).Ready

theorem Working.kept (h : Working inputs me s) (hkept : Kept inputs.policy me {.pacing} s t) :
    Working inputs me t := by
  obtain ⟨hheld, hframe⟩ := hkept h.held
  refine ⟨hheld, ?_⟩
  have hpace : paceOf inputs.policy "R2" t.toLanes = paceOf inputs.policy "R2" s.toLanes := by
    cases hr2 : inputs.policy.r2Parallel with
    | true => simp [paceOf, hr2, hframe.stale]
    | false => simp [paceOf, hr2, hframe.stale, hframe.pacing rfl hr2]
  exact hpace ▸ h.ready

/-- A stage that goes on only where `P` holds. -/
def Goes (P : α → RunDir → Prop) : Stage α → RunDir → Prop
  | .go a, t => P a t
  | .done _, _ => True

theorem Upholds.andThen {P : α → RunDir → Prop} {stage : Proc (Stage α)} {next : α → Proc RunStatus}
    (hstage : Upholds (laneContract inputs me K) (Returns (Goes P)) stage s)
    (hnext : ∀ a t, P a t → Upholds (laneContract inputs me K) (Returns fun _ _ => True) (next a) t) :
    Upholds (laneContract inputs me K) (Returns fun _ _ => True) (Stage.andThen stage next) s := by
  refine Upholds.then laneContract_lawful hstage fun outcome t ht => ?_
  cases outcome with
  | done status => exact fun _ _ => trivial
  | go a => exact hnext a t ht

/-- A program that leaves the lanes alone, and what stays meanwhile. -/
theorem upholds_leaves {p : Proc α} (hp : Leaves scope p) :
    Upholds (laneContract inputs me K) (fun _ t => Kept inputs.policy me K s t) p s :=
  hp.upholds (fun _ _ => guar_of_scope) Kept.refl (fun _ _ _ => Kept.trans) (fun _ _ h => h)
    (fun _ _ => Kept.of_scope) s

/-- A stage that leaves the lanes alone. -/
theorem upholds_stage {stage : Proc (Stage α)} (hstage : Leaves scope stage)
    (h : Working inputs me s) :
    Upholds (laneContract inputs me Set.univ) (Returns (Goes fun _ t => Working inputs me t)) stage
      s := by
  refine (upholds_leaves hstage).mono fun r t ht => ?_
  rcases r with e | a | status
  · trivial
  · exact h.kept (ht.mono (Set.subset_univ _))
  · trivial

/-- The lock is kept by whatever the process does. -/
theorem upholds_held {p : Proc α} {Q : Except String α → RunDir → Prop}
    (held : s.locks .run = some me) (hp : Upholds (laneContract inputs me K) Q p s) :
    Upholds (laneContract inputs me K) (fun r t => Q r t ∧ t.locks .run = some me) p s := by
  refine (Upholds.widen_parts hp subset_rfl).mono fun r t ht => ⟨ht.1, (ht.2 held).1⟩

/-- A phase is loaded or run. -/
theorem upholds_enterPhase {phase : String} {running : RunStatus} {code : String}
    (hrun : ∀ t manifest, Kept inputs.policy me K s t →
      Upholds (laneContract inputs me K) (Returns fun _ _ => True)
        (runPhase me host inputs.policy manifest phase) t) :
    Upholds (laneContract inputs me K) (Returns fun _ _ => True)
      (enterPhase me host inputs.policy manifest phase running code) s := by
  refine Upholds.read laneContract_lawful fun t ht _ => ?_
  split
  · refine Upholds.aside (leaves_read _) (fun lanes u _ => ?_) fun _ _ _ => trivial
    exact Upholds.aside (leaves_ofExcept lanes) (fun _ _ _ _ _ => trivial) fun _ _ _ => trivial
  refine Upholds.aside leaves_stageTransition (fun stage u hu => ?_) fun _ _ _ => trivial
  cases stage with
  | done status => exact fun _ _ => trivial
  | go manifest =>
    refine Upholds.then laneContract_lawful (P := fun _ _ => True)
      (Upholds.attempt ((hrun u manifest (ht.trans hu)).mono fun _ _ _ => trivial)) fun ran v _ => ?_
    cases ran with
    | ok lanes => exact fun _ _ => trivial
    | error message => exact (upholds_leaves leaves_stageFails).mono fun r _ _ => by cases r <;> trivial

/-- R1, and the pacing of R2 meanwhile. -/
theorem upholds_enterR1 {running : RunStatus} {code : String}
    (hnodup : (inputs.policy.roster.map (·.routeId)).Nodup) (h : Working inputs me s) :
    Upholds (laneContract inputs me Set.univ) (Returns (Goes fun _ t => Working inputs me t))
      (enterPhase me host inputs.policy manifest "R1" running code) s := by
  have hphase : Upholds _ _ (enterPhase me host inputs.policy manifest "R1" running code) s :=
    upholds_enterPhase (K := {.pacing}ᶜ) fun t manifest (ht : Kept inputs.policy me _ s t) =>
      upholds_r1 hnodup (ht h.held).1
  refine (Upholds.widen_parts hphase (Set.subset_univ _)).mono fun r t ht => ?_
  have hworking : Working inputs me t := h.kept (ht.2.mono (by simp))
  rcases r with e | a | status
  · trivial
  · exact hworking
  · trivial

/-- R2. -/
theorem upholds_enterR2 {brief : Brief} {r1 : List LaneAccepted}
    (hnodup : (inputs.policy.roster.map (·.routeId)).Nodup) (h : Working inputs me s) :
    Upholds (laneContract inputs me Set.univ) (Returns (Goes fun _ t => t.locks .run = some me))
      (enterR2 me host inputs.policy brief manifest r1) s := by
  have hheld : Upholds (laneContract inputs me Set.univ) (Returns fun _ _ => True)
      (enterR2 me host inputs.policy brief manifest r1) s := by
    refine Upholds.read laneContract_lawful fun t ht _ => ?_
    have hworking := h.kept (ht.mono (Set.subset_univ _))
    split
    · split
      · refine Upholds.aside ((leaves_modify _).mpr fun _ => rfl) (fun _ _ _ _ _ => trivial)
          fun _ _ _ => trivial
      · exact fun _ _ => trivial
    refine Upholds.then laneContract_lawful (upholds_stage leaves_ensureR2Packet hworking)
      fun stage u hu => ?_
    cases stage with
    | done status => exact fun _ _ => trivial
    | go manifest =>
      refine upholds_enterPhase fun v manifest hv => ?_
      have hready := Working.kept hu (hv.mono (Set.subset_univ _))
      exact upholds_r2 hnodup hready.held hready.ready
  refine (upholds_held h.held hheld).mono fun r t ht => ?_
  rcases r with e | a | status
  · trivial
  · exact ht.2
  · trivial

/-! ### R3 -/

/-- **The lane of an arbiter.** -/
theorem upholds_runArbiter {route : RoutePolicy} (held : s.locks .run = some me) :
    Upholds (laneContract inputs me Set.univ) (Returns fun _ _ => True)
      (runArbiter me host inputs.policy manifest route) s := by
  have hparallel : ¬("R3" = "R2" ∧ inputs.policy.r2Parallel = false) := fun h =>
    absurd h.1 (by decide)
  have hlane : LaneSpec inputs me "R3" route.routeId (fun _ => True)
      (runArbiter me host inputs.policy manifest route) fun _ _ => True := by
    refine LaneSpec.parallel hparallel (LaneSpec.pre (LaneSpec.nextAttempt rfl fun n => ?_)
      fun o ho => ⟨fun h => absurd rfl h, Pace.ready_of_none ho.2⟩)
    refine LaneSpec.bind (spec_waitForRetryDeadline rfl (fun _ _ ho => ho) fun o v ho hv => ?_)
      fun _ => ?_
    · exact ⟨⟨hv ▸ ho.1.number, ho.1.budget, hv ▸ ho.1.accepted⟩, ho.2⟩
    refine LaneSpec.bind ((spec_build (P := Pace.Ready)).pre fun o ho =>
      ⟨⟨ho.1.1, ho.2⟩, ho.1.2⟩) fun _ => ?_
    refine LaneSpec.bind (LaneSpec.parallel hparallel ((spec_runAttempt rfl).pre fun o ho =>
      ⟨ho.1.1, ho.1.2, Pace.calm_of_none ho.2⟩)) fun outcome => ?_
    exact LaneSpec.parallel hparallel ((spec_awaitArbiterLoop rfl).pre fun o ho =>
      ⟨ho.1.1, Pace.ready_of_none ho.2⟩)
  refine (Upholds.widen_parts (hlane s ⟨held, s.clock, le_rfl, trivial⟩)
    (Set.subset_univ _)).mono fun r t _ => ?_
  cases r <;> trivial

/-- A program that leaves the lanes alone ends a stage. -/
theorem upholds_ends {p : Proc α} (hp : Leaves scope p) :
    Upholds (laneContract inputs me K) (Returns fun _ _ => True) p s :=
  (upholds_leaves hp).mono fun r _ _ => by cases r <;> trivial

theorem upholds_enterCounterpart (held : s.locks .run = some me) :
    Upholds (laneContract inputs me Set.univ) (Returns (Goes fun _ t => t.locks .run = some me))
      (enterCounterpart me host inputs.policy manifest) s := by
  have hstage : Upholds (laneContract inputs me Set.univ) (Returns fun _ _ => True)
      (enterCounterpart me host inputs.policy manifest) s := by
    refine Upholds.aside (leaves_read _) (fun existing t ht => ?_) fun _ _ _ => trivial
    split
    · exact fun _ _ => trivial
    refine Upholds.aside leaves_stageTransition (fun stage u hu => ?_) fun _ _ _ => trivial
    cases stage with
    | done status => exact fun _ _ => trivial
    | go manifest =>
      refine Upholds.then laneContract_lawful (P := fun _ _ => True) (Upholds.attempt
        ((upholds_runArbiter ((ht.trans hu) held).1).mono fun _ _ _ => trivial)) fun ran v _ => ?_
      rcases ran with message | _ | verdict
      · dsimp only
        split
        · exact fun _ _ => trivial
        · exact upholds_ends leaves_stageFails
      · exact upholds_ends (leaves_cancelRun.bind fun _ => leaves_pure _)
      · exact upholds_ends (Leaves.bind ((leaves_modify _).mpr fun _ => rfl) fun _ => leaves_pure _)
  refine (upholds_held held hstage).mono fun r t ht => ?_
  rcases r with e | a | status
  · trivial
  · exact ht.2
  · trivial

theorem upholds_runPrimary {brief : Brief} (held : s.locks .run = some me) :
    Upholds (laneContract inputs me Set.univ) (Returns fun _ _ => True)
      (runPrimary me host inputs.policy brief manifest) s := by
  refine Upholds.then laneContract_lawful (P := fun _ _ => True) (Upholds.attempt
    ((upholds_runArbiter held).mono fun _ _ _ => trivial)) fun ran t _ => ?_
  rcases ran with message | _ | verdict
  · exact upholds_ends leaves_stageFails
  · exact upholds_ends (leaves_cancelRun.bind fun _ => leaves_pure _)
  · dsimp only
    cases boundPrimaryResponse manifest verdict with
    | error message => exact upholds_ends leaves_stageFails
    | ok response =>
      refine Upholds.aside leaves_stagePrimaryResponse (fun staged u _ => ?_) fun _ _ _ => trivial
      rcases staged with ⟨manifest, message | _⟩
      · exact upholds_ends leaves_stageFails
      · exact fun _ _ => trivial

theorem upholds_enterPrimary {brief : Brief} (held : s.locks .run = some me) :
    Upholds (laneContract inputs me Set.univ) (Returns fun _ _ => True)
      (enterPrimary me host inputs.policy brief manifest) s := by
  unfold enterPrimary
  split
  case isFalse => exact fun _ _ => trivial
  refine Upholds.aside leaves_ensureChallenge (fun stage t ht => ?_) fun _ _ _ => trivial
  cases stage with
  | done status => exact fun _ _ => trivial
  | go manifest =>
    refine Upholds.aside leaves_ensurePrimaryArbiterPacket.attempt (fun packet u hu => ?_)
      fun _ _ _ => trivial
    cases packet with
    | error message => exact upholds_ends leaves_stageFails
    | ok _ => exact upholds_runPrimary ((ht.trans hu) held).1

theorem upholds_enterR3 {brief : Brief} {r1 r2 : List LaneAccepted}
    (held : s.locks .run = some me) :
    Upholds (laneContract inputs me Set.univ) (Returns fun _ _ => True)
      (enterR3 me host inputs.policy brief manifest r1 r2) s := by
  refine Upholds.aside leaves_ensureEvidencePacket (fun _ t ht => ?_) fun _ _ _ => trivial
  refine Upholds.andThen (upholds_enterCounterpart (ht held).1) fun manifest u hu => ?_
  have hbind : Upholds (laneContract inputs me Set.univ)
      (Returns (Goes fun _ t => t.locks .run = some me))
      (bindInputs me host inputs.policy manifest r1 r2) u := by
    refine (upholds_leaves leaves_bindInputs).mono fun r v hv => ?_
    rcases r with e | a | status
    · trivial
    · exact (hv hu).1
    · trivial
  refine Upholds.andThen hbind fun manifest v hv => ?_
  have hprimary : Upholds (laneContract inputs me Set.univ) (Returns (Goes fun _ _ => True))
      (enterPrimary me host inputs.policy brief manifest) v := by
    refine (upholds_enterPrimary hv).returns fun stage _ _ => ?_
    cases stage <;> trivial
  refine Upholds.andThen hprimary fun manifest w _ => ?_
  split
  · exact upholds_ends leaves_awaitSubmission
  · exact upholds_ends leaves_mergeSubmission

/-! ### `advance` -/

theorem upholds_advanceStages {brief : Brief}
    (hnodup : (inputs.policy.roster.map (·.routeId)).Nodup) (h : Working inputs me s) :
    Upholds (laneContract inputs me Set.univ) (Returns fun _ _ => True)
      (advanceStages me host inputs.policy brief manifest) s := by
  refine Upholds.andThen (upholds_stage leaves_preflight h) fun manifest t ht => ?_
  refine Upholds.andThen (upholds_enterR1 hnodup ht) fun lanes u hu => ?_
  refine Upholds.andThen (upholds_stage leaves_passGate hu) fun manifest v hv => ?_
  refine Upholds.andThen (upholds_enterR2 hnodup hv) fun lanes w hw => ?_
  have hgate : Upholds (laneContract inputs me Set.univ)
      (Returns (Goes fun _ t => t.locks .run = some me))
      (passGate me lanes.1 beforeR2Gate .r2Gate "R2" lanes.2.length) w := by
    refine (upholds_leaves leaves_passGate).mono fun r x hx => ?_
    rcases r with e | a | status
    · trivial
    · exact (hx hw).1
    · trivial
  exact Upholds.andThen hgate fun manifest x hx => upholds_enterR3 hx

/-- **`advance`**, once it has the run lock. -/
theorem upholds_advanceLocked (h : Working inputs me s) :
    Upholds (laneContract inputs me Set.univ) (Returns fun _ _ => True) (advanceLocked me host)
      s := by
  refine Upholds.aside leaves_reconcileOrphanProcesses (fun _ t ht => ?_) fun _ _ _ => trivial
  refine Upholds.aside leaves_loadManifest (fun manifest u hu => ?_) fun _ _ _ => trivial
  split
  · exact fun _ _ => trivial
  refine Upholds.read laneContract_lawful fun v hv hinv => ?_
  have hinputs : v.inputs = inputs := hinv.1
  refine Upholds.read laneContract_lawful fun w hw hinv' => ?_
  have hworking := h.kept (((ht.trans hu).trans (hv.trans hw)).mono (Set.subset_univ _))
  cases hverified : verifyResumeIntegrity host w manifest with
  | error message => exact upholds_ends (leaves_failRun.bind fun _ => leaves_pure _)
  | ok _ =>
    have hvalid : w.inputs.policy.validate = .ok () := by
      simp only [verifyResumeIntegrity, Policy.bind_unit_ok] at hverified
      exact hverified.1
    have hpolicy : w.inputs = inputs := hinv'.1
    rw [hinputs]
    exact upholds_advanceStages (Policy.validate_nodup (hpolicy ▸ hvalid)) hworking

end stages

/-! ### Commands that leave the lanes alone -/

section bystanders

variable {me : Pid} {host : Host} {γ : Type} {v : RunDir → γ} [Bystands v]

theorem leaves_submitLocked {response : PrimaryArbiterResponse} :
    Leaves v (submitLocked me host response) := by
  refine leaves_loadManifest.bind fun manifest => (leaves_read _).bind fun verified => ?_
  cases verified with
  | error message => exact leaves_stageFails
  | ok _ =>
    have hclaim : Leaves v (claimSubmission me host manifest response) := by
      unfold claimSubmission
      cases manifest.primaryArbiterSubmission with
      | some receipt => exact (leaves_ensure _ _).bind fun _ => leaves_pure _
      | none =>
        exact leaves_utcNow.bind fun _ => (leaves_read _).bind fun _ => (leaves_ofExcept _).bind
          fun _ => leaves_utcNow.bind fun _ => (leaves_ofExcept _).bind fun _ =>
            leaves_saveManifest.bind fun _ => leaves_pure _
    refine (leaves_read _).bind fun brief => hclaim.bind fun staged =>
      leaves_acceptResponse.bind fun accepted => (leaves_ofExcept _).bind fun _ => ?_
    split
    · exact (leaves_event (Bystands.other (by decide))).bind fun _ => leaves_pure _
    · exact leaves_pure _

theorem leaves_amendLocked {verdict : ArbiterVerdict} {force : Bool}
    {verdictFile : Except String Digest} :
    Leaves v (amendLocked me host verdict force verdictFile) :=
  leaves_loadManifest.bind fun _ => (leaves_read _).bind fun _ => (leaves_ofExcept _).bind fun _ =>
    leaves_writeRunResult.bind fun _ => (leaves_read _).bind fun _ => (leaves_ofExcept _).bind
      fun _ => leaves_saveManifestAfterTerminal.bind fun _ => (leaves_ofExcept _).bind fun _ =>
        (leaves_event (Bystands.other (by decide))).bind fun _ => leaves_pure _

theorem leaves_cancel : Leaves v (cancel me) := by
  refine leaves_loadManifest.bind fun manifest => ?_
  split
  · exact leaves_pure _
  refine leaves_requestCancellation.bind fun requested => ?_
  dsimp only
  split
  · exact leaves_pure _
  refine leaves_loadManifest.bind fun manifest => leaves_transition.bind fun reached => ?_
  split
  · exact leaves_pure _
  split
  · exact leaves_pure _
  · exact leaves_transition.bind fun _ => leaves_pure _

theorem leaves_events : Leaves v (Store.events me) :=
  leaves_loadManifest.bind fun _ => leaves_recoverPendingTransition.bind fun _ =>
    leaves_withLock (by decide) leaves_readEvents

theorem leaves_verifyResultIntegrity : Leaves v (verifyResultIntegrity me host) :=
  leaves_loadManifest.bind fun _ => (leaves_read _).bind fun _ => leaves_ofExcept _

end bystanders

/-! ### The protocol -/

/-- What holds of the lanes of a run with these inputs, between any two steps. -/
def LanesInOrder (inputs : Inputs) (s : RunDir) : Prop :=
  s.inputs = inputs ∧ remappings s = []
    ∧ LaneInv inputs.policy (allowedEvidenceRefs inputs.snapshot) s.toLanes

/-- The run lock changes hands; a process that takes it finds the calls of R2 as
    they are. -/
inductive Handover (me : Pid) (s s' : RunDir) : Prop where
  | take (free : s.locks .run = none) (held : s'.locks .run = some me)
      (lanes : s'.toLanes = { s.toLanes with stale := s.unpaced })
  | drop (held : s.locks .run = some me) (free : s'.locks .run = none)
      (lanes : s'.toLanes = s.toLanes)

/-- The protocol of the lanes, in a run with these inputs. -/
def laneProtocol (inputs : Inputs) : Protocol Pid RunDir where
  inv := LanesInOrder inputs
  guar me s s' := (laneContract inputs me Set.univ).guar s s'
    ∨ (s'.inputs = s.inputs ∧ remappings s' = remappings s) ∧ Handover me s s'
  crash me s := s.control (·.release me)

section protocol

variable {inputs : Inputs} {me : Pid} {s s' : RunDir}

/-- What was noted when the lock was taken is history only. -/
theorem LaneInv.stale {policy : Policy} {valid : List String} {l : Lanes}
    (h : LaneInv policy valid l) (stale : Bool) : LaneInv policy valid { l with stale := stale } :=
  ⟨fun phase routeId => h.lane phase routeId, ⟨h.timed.past, h.timed.waited, h.timed.due⟩, h.paced⟩

theorem laneProtocol_lawful (inputs : Inputs) : (laneProtocol inputs).Lawful where
  guar_refl me s := Or.inl (laneContract_lawful.guar_refl s)
  guar_inv me s s' hinv hguar := by
    rcases hguar with hstep | ⟨⟨hinputs, hremapped⟩, hhand⟩
    · exact inv_of_guar hstep hinv
    · refine ⟨hinputs.trans hinv.1, hremapped.trans hinv.2.1, ?_⟩
      cases hhand with
      | take free held lanes => exact lanes ▸ hinv.2.2.stale _
      | drop held free lanes => exact lanes ▸ hinv.2.2
  crash_inv me s hinv := hinv

theorem kept_of_interferes (h : (laneProtocol inputs).Interferes me s s') :
    Kept inputs.policy me Set.univ s s' := by
  obtain ⟨q, hq, -, hstep⟩ := h
  intro hheld
  have hother : s.locks .run ≠ some q := fun h => hq (Option.some.inj (h.symm.trans hheld))
  rcases hstep with (⟨haside, hlanes⟩ | ⟨-, hhand⟩) | rfl
  · have hlock : s'.locks .run = s.locks .run := congrArg (·.2.1) haside
    refine ⟨hlock.trans hheld, ?_⟩
    rcases hlanes with hsame | ⟨hholds, -⟩
    · exact hsame ▸ Frame.refl _
    · exact absurd hholds hother
  · cases hhand with
    | take free held lanes => exact nomatch free.symm.trans hheld
    | drop held free lanes => exact absurd held hother
  · exact ⟨Control.release_locks_of_ne hheld hq, Frame.refl _⟩

theorem kept_of_rely (h : (laneProtocol inputs).Rely me s s') :
    Kept inputs.policy me Set.univ s s' := by
  induction h with
  | refl => exact Kept.refl s
  | tail _ hstep ih => exact ih.trans (kept_of_interferes hstep)

/-- What keeps to the contract of the lock's holder keeps to the protocol. -/
theorem safe_of_upholds {α : Type} {p : Proc α} {Q : Except String α → RunDir → Prop}
    (h : Upholds (laneContract inputs me Set.univ) Q p s) : Safe (laneProtocol inputs) me Q p s :=
  h.safe (fun _ => id) (fun _ _ => kept_of_rely) fun _ _ => Or.inl

theorem safe_leaves {α : Type} {p : Proc α} (hp : Leaves scope p) :
    Safe (laneProtocol inputs) me (fun _ _ => True) p s :=
  safe_of_upholds ((upholds_leaves hp).mono fun _ _ _ => trivial)

/-- **Under the run lock** a process works on lanes that are paced as it found
    them. -/
theorem safe_withRunLock {α : Type} {p : Proc α}
    (hp : ∀ s, Working inputs me s →
      Upholds (laneContract inputs me Set.univ) (fun _ _ => True) p s) :
    Safe (laneProtocol inputs) me (fun _ _ => True) (Store.withRunLock me p) s := by
  intro t _ _ _
  have hdrop : ∀ (r : Except String α) u, Safe (laneProtocol inputs) me (fun _ _ => True)
      (do
        Prog.modify (·.control (·.drop me .run))
        Prog.ofExcept r : Proc α) u := fun r u => by
    refine Safe.modify fun v _ _ => ⟨?_, ?_⟩
    · by_cases hheld : v.locks .run = some me
      · refine Or.inr ⟨⟨rfl, ?_⟩, Handover.drop hheld ?_ rfl⟩
        · simp [remappings, RunDir.control, Control.drop, Control.setLock, hheld]
        · simp [RunDir.control, Control.drop, hheld]
      · have hsame : v.control (·.drop me .run) = v := by
          simp [RunDir.control, Control.drop, hheld]
        rw [hsame]
        exact Or.inl (laneContract_lawful.guar_refl v)
    · cases r <;> exact fun _ _ => trivial
  by_cases hfree : t.locks .run = none
  · simp only [hfree, if_true]
    refine ⟨Or.inr ⟨⟨rfl, rfl⟩, Handover.take hfree (t.take_locks_self me .run) rfl⟩, ?_⟩
    -- a pacing that is stale was so when the lock was taken
    have hworking : Working inputs me (Store.takeRun me t) := by
      refine ⟨t.take_locks_self me .run, fun v hv hstale => ?_⟩
      simp only [paceOf, Option.mem_def, Option.ite_none_right_eq_some, Option.some.injEq] at hv
      exact hv.2 ▸ hstale
    have hbody : Safe (laneProtocol inputs) me (fun _ _ => True)
        (p.attempt >>= fun r => do
          Prog.modify (·.control (·.drop me .run))
          Prog.ofExcept r : Proc α) (Store.takeRun me t) :=
      Safe.bind (Safe.attempt ((safe_of_upholds (hp _ hworking)).mono fun r u _ => hdrop r u))
    exact hbody
  · simp only [hfree, if_false]
    exact ⟨Or.inl (laneContract_lawful.guar_refl t), fun _ _ => trivial⟩

/-- Two programs, one after the other. -/
theorem safe_then {α β : Type} {p : Proc α} {f : α → Proc β}
    (hp : Safe (laneProtocol inputs) me (fun _ _ => True) p s)
    (hf : ∀ a t, Safe (laneProtocol inputs) me (fun _ _ => True) (f a) t) :
    Safe (laneProtocol inputs) me (fun _ _ => True) (p >>= f) s := by
  refine Safe.bind (hp.mono fun r t _ => ?_)
  cases r with
  | ok a => exact hf a t
  | error e => trivial

end protocol

/-! ### Runs -/

/-- What a process may run: any command on the run. -/
inductive RunCommand (me : Pid) : Proc Unit → Prop where
  | advance (host : Host) : RunCommand me (advance me host >>= fun _ => pure ())
  | submit (host : Host) (response : PrimaryArbiterResponse) :
      RunCommand me (submitPrimaryArbiter me host response >>= fun _ => pure ())
  | submitVerdict (host : Host) (verdict : ArbiterVerdict) (force : Bool) :
      RunCommand me (submitPrimaryArbiterVerdict me host verdict force >>= fun _ => pure ())
  | amend (host : Host) (verdict : ArbiterVerdict) (force : Bool)
      (verdictFile : Except String Digest) :
      RunCommand me (amendPrimaryArbiterVerdict me host verdict force verdictFile
        >>= fun _ => pure ())
  | cancel : RunCommand me (cancel me >>= fun _ => pure ())
  | recordWorkerFailure (message : String) :
      RunCommand me (recordWorkerFailure me message >>= fun _ => pure ())
  | verifyResultIntegrity (host : Host) :
      RunCommand me (verifyResultIntegrity me host >>= fun _ => pure ())
  | events : RunCommand me (Store.events me >>= fun _ => pure ())

/-- The lanes of a run that was just created. -/
def newLanes (clock : Nat) : Lanes where
  attempts := fun _ _ => []
  retryDeadlines := fun _ _ => none
  r2RateState := none
  stdout := fun _ _ _ => none
  accepted := fun _ _ => none
  clock := clock
  started := []
  scheduled := []
  unpaced := false
  stale := false

/-- A run that was just created. -/
structure NewRun (s : RunDir) : Prop where
  lanes : ∃ clock, s.toLanes = newLanes clock
  events : s.events = []
  locks : ∀ l, s.locks l = none

/-- A run of any number of processes on a run directory, with crashes at any
    point. -/
abbrev LaneRun (ok : Pool.Label Pid → RunDir → RunDir → Prop) (s : RunDir) :
    Pool Pid RunDir Answer String → Prop :=
  Pool.Run (fun me s => s.control (·.release me)) RunCommand ok (Pool.idle s)

theorem laneInv_newLanes (policy : Policy) (valid : List String) (clock : Nat) :
    LaneInv policy valid (newLanes clock) := by
  refine ⟨fun phase routeId => ?_, ?_, fun _ _ t ht => nomatch ht⟩
  · exact ⟨fun _ h => (nomatch h), List.Pairwise.nil, fun _ h => (nomatch h), List.Pairwise.nil,
      fun _ h => (nomatch h), fun _ h => (nomatch h), fun _ => rfl⟩
  · exact ⟨fun _ h => (nomatch h), fun _ h => (nomatch h), fun _ h => (nomatch h)⟩

section runs

variable {me : Pid} {s : RunDir} {ok : Pool.Label Pid → RunDir → RunDir → Prop}
  {c : Pool Pid RunDir Answer String}

theorem NewRun.inOrder (h : NewRun s) : LanesInOrder s.inputs s := by
  obtain ⟨clock, hlanes⟩ := h.lanes
  refine ⟨rfl, by simp [remappings, h.events], ?_⟩
  rw [hlanes]
  exact laneInv_newLanes _ _ clock

theorem safe_advance {inputs : Inputs} {host : Host} :
    Safe (laneProtocol inputs) me (fun _ _ => True) (advance me host) s :=
  safe_withRunLock fun _ h => (upholds_advanceLocked h).mono fun _ _ _ => trivial

theorem safe_submitResponse {inputs : Inputs} {host : Host} {response : PrimaryArbiterResponse} :
    Safe (laneProtocol inputs) me (fun _ _ => True)
      (submitPrimaryArbiterResponse me host response) s := by
  refine safe_then (safe_withRunLock fun _ _ => (upholds_leaves leaves_submitLocked).mono
    fun _ _ _ => trivial) fun stage t => ?_
  cases stage with
  | done status => exact fun _ _ => trivial
  | go _ => exact safe_advance

/-- **Every command** keeps to the protocol of the lanes. -/
theorem safe_runCommand {inputs : Inputs} {p : Proc Unit} (h : RunCommand me p) :
    Safe (laneProtocol inputs) me (fun _ _ => True) p s := by
  have hend : ∀ (α : Type) (p : Proc α), Safe (laneProtocol inputs) me (fun _ _ => True) p s →
      Safe (laneProtocol inputs) me (fun _ _ => True) (p >>= fun _ => pure ()) s :=
    fun α p hp => safe_then hp fun _ _ _ _ => trivial
  cases h with
  | advance host => exact hend _ _ safe_advance
  | submit host response =>
    exact hend _ _ (safe_then (safe_leaves (leaves_ensure _ _)) fun _ _ => safe_submitResponse)
  | submitVerdict host verdict force =>
    refine hend _ _ ?_
    refine safe_then (safe_leaves (leaves_ofExcept _)) fun _ _ => ?_
    refine safe_then (safe_leaves (leaves_read _)) fun valid _ => ?_
    refine safe_then (safe_leaves (leaves_ofExcept _)) fun checked _ => ?_
    refine safe_then (safe_leaves leaves_loadManifest) fun manifest _ => ?_
    cases manifest.primaryArbiterChallenge with
    | none => exact fun _ _ => trivial
    | some challenge =>
      refine safe_then (safe_leaves (leaves_ofExcept _)) fun response _ => ?_
      exact safe_then (safe_leaves (leaves_ensure _ _)) fun _ _ => safe_submitResponse
  | amend host verdict force verdictFile =>
    refine hend _ _ (safe_then (safe_leaves (leaves_ofExcept _)) fun _ _ => ?_)
    exact safe_withRunLock fun _ _ => (upholds_leaves leaves_amendLocked).mono
      fun _ _ _ => trivial
  | cancel => exact hend _ _ (safe_leaves leaves_cancel)
  | recordWorkerFailure message =>
    refine hend _ _ (safe_withRunLock fun _ _ => (upholds_leaves ?_).mono fun _ _ _ => trivial)
    refine leaves_loadManifest.bind fun manifest => ?_
    split
    · exact leaves_pure _
    · exact leaves_failRun.bind fun _ => leaves_pure _
  | verifyResultIntegrity host => exact hend _ _ (safe_leaves leaves_verifyResultIntegrity)
  | events => exact hend _ _ (safe_leaves leaves_events)

/-- **The lanes are in order** in every state of a run. -/
theorem run_inOrder (h : NewRun s) (hrun : LaneRun ok s c) : LanesInOrder s.inputs c.shared :=
  (Pool.run_sound (laneProtocol_lawful s.inputs) (fun _ _ _ hm _ => safe_runCommand hm) hrun
    (Pool.sound_idle h.inOrder)).1

end runs

end Quinte.Run
