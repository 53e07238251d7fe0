import Mathlib
import Quinte.Run.LaneContract

/-! # Operations that leave the lanes alone

    The store, the receipts and most stages of a command change neither the
    files of the lanes nor who holds the run lock, build no adapter and record
    no rewritten reference, no accepted lane and no retry.
-/

namespace Quinte

open Program

namespace Run

variable {α : Type} {me : Pid}

/-! ### Views -/

/-- What these operations leave as it is, with the records of some kinds. -/
def standing (kinds : List String) (s : RunDir) :
    Lanes × Inputs × Option Pid × List AdapterBuild × List Event :=
  (s.toLanes, s.inputs, s.locks .run, s.built, s.events.filter fun e => e.eventType ∈ kinds)

/-- The kinds of records that only work on the lanes makes. -/
def laneKinds : List String :=
  ["evidence.refs_remapped", "lane.accepted", "lane.retry_started"]

/-- A view that looks at nothing else. -/
class Bystands {γ : Type} (v : RunDir → γ) where
  kinds : List String
  ofLanes : ∀ kind ∈ kinds, kind ∈ laneKinds
  looks : ∀ s s', standing kinds s' = standing kinds s → v s' = v s

instance : Bystands scope where
  kinds := ["evidence.refs_remapped"]
  ofLanes := by decide
  looks s s' h := by
    simp only [standing, Prod.mk.injEq, List.mem_singleton] at h
    obtain ⟨hlanes, hinputs, hlock, -, hevents⟩ := h
    simp only [scope, aside, remappings, hlanes, hinputs, hlock, hevents]

variable {γ : Type} {v : RunDir → γ} [Bystands v]

theorem Bystands.other {kind : String} (h : kind ∉ laneKinds) :
    kind ∉ Bystands.kinds v :=
  fun hkind => h (Bystands.ofLanes kind hkind)

/-- An update of other files. -/
theorem leaves_update {update : RunDir → RunDir}
    (h : ∀ s, standing (Bystands.kinds v) (update s) = standing (Bystands.kinds v) s) :
    Leaves v (Prog.modify update : Proc Unit) :=
  (leaves_modify _).mpr fun s => Bystands.looks _ _ (h s)

/-! ### The store -/

theorem leaves_takeLock {l : Lock} (hl : l ≠ .run) :
    Leaves v (Prog.await (fun s => s.locks l = none) (·.control (·.take me l)) : Proc Unit) := by
  refine ⟨fun s _ => Bystands.looks _ _ ?_, fun _ => trivial⟩
  simp [standing, RunDir.control, Control.take, Control.setLock, hl.symm]

theorem leaves_dropLock {l : Lock} (hl : l ≠ .run) :
    Leaves v (Prog.modify (·.control (·.drop me l)) : Proc Unit) := by
  refine leaves_update fun s => ?_
  by_cases hheld : s.locks l = some me <;>
    simp [standing, RunDir.control, Control.drop, Control.setLock, hl.symm, hheld]

theorem leaves_withLock {l : Lock} (hl : l ≠ .run) {p : Proc α} (hp : Leaves v p) :
    Leaves v (Proc.withLock me l p) :=
  Leaves.bracket (leaves_takeLock hl) (leaves_dropLock hl) hp

omit [Bystands v] in
theorem leaves_utcNow : Leaves v Proc.utcNow :=
  leaves_answer _

theorem leaves_freshId : Leaves v Proc.freshId :=
  ⟨fun _ _ => Bystands.looks _ _ rfl, fun _ => trivial⟩

omit [Bystands v] in
theorem leaves_readEvents : Leaves v Store.readEvents :=
  (leaves_read _).bind fun _ => (leaves_ensure _ _).bind fun _ => leaves_pure _

/-- A record of another kind. -/
theorem leaves_appendEvent {e : Event} (htype : e.eventType ∉ Bystands.kinds v) :
    Leaves v (Store.appendEvent e) := by
  refine leaves_update fun s => ?_
  simp [standing, List.filter_append, htype]

theorem leaves_eventAt {runId eventType : String} {phase partyId : Option String}
    {attempt : Option Nat} {data : EventData} {timestamp : Nat}
    (htype : eventType ∉ Bystands.kinds v) :
    Leaves v (Store.eventAt me runId eventType phase partyId attempt data timestamp) := by
  refine leaves_withLock (by decide) (leaves_readEvents.bind fun existing => ?_)
  dsimp only
  split
  · exact leaves_pure _
  · exact (leaves_ensure _ _).bind fun _ => (leaves_appendEvent htype).bind fun _ => leaves_pure _

theorem leaves_event {runId eventType : String} {phase partyId : Option String}
    {attempt : Option Nat} {text : String} (htype : eventType ∉ Bystands.kinds v) :
    Leaves v (Store.event me runId eventType phase partyId attempt text) :=
  leaves_utcNow.bind fun _ => leaves_eventAt htype

theorem leaves_recordPending {manifest : RunManifest} {pending : PendingTransition} :
    Leaves v (Store.recordPending me manifest pending) := by
  refine leaves_withLock (by decide) (leaves_readEvents.bind fun events => ?_)
  split
  · exact leaves_update fun _ => rfl
  · have htype : "run.transition" ∉ Bystands.kinds v := Bystands.other (by decide)
    exact (leaves_ensure _ _).bind fun _ => (leaves_appendEvent htype).bind fun _ =>
      leaves_update fun _ => rfl

theorem leaves_recoverPendingTransition {manifest : RunManifest} :
    Leaves v (Store.recoverPendingTransition me manifest) := by
  refine (leaves_read _).bind fun found => ?_
  split
  · exact leaves_pure _
  refine (leaves_read _).bind fun pending => ?_
  cases pending with
  | none => exact leaves_throw _
  | some pending =>
    dsimp only
    split
    · exact leaves_update fun _ => rfl
    split
    · exact leaves_throw _
    · exact leaves_recordPending

theorem leaves_loadManifest : Leaves v (Store.loadManifest me) := by
  refine (leaves_read _).bind fun manifest => ?_
  cases manifest with
  | none => exact leaves_throw _
  | some manifest => exact leaves_recoverPendingTransition.bind fun _ => leaves_pure _

theorem leaves_saveManifestUnlocked {manifest : RunManifest} :
    Leaves v (Store.saveManifestUnlocked manifest) :=
  (leaves_ensure _ _).bind fun _ => leaves_update fun _ => rfl

theorem leaves_saveManifest {manifest : RunManifest} :
    Leaves v (Store.saveManifest me manifest) := by
  refine leaves_withLock (by decide) ((leaves_read _).bind fun current => ?_)
  cases current with
  | none => exact leaves_saveManifestUnlocked
  | some current =>
    dsimp only
    split
    · exact leaves_pure _
    refine (leaves_read _).bind fun requested => ?_
    split
    · exact leaves_pure _
    · exact leaves_saveManifestUnlocked

theorem leaves_saveManifestAfterTerminal {manifest : RunManifest} :
    Leaves v (Store.saveManifestAfterTerminal me manifest) :=
  leaves_withLock (by decide) leaves_saveManifestUnlocked

theorem leaves_commit {runId : String} {pending : PendingTransition} {next : RunManifest} :
    Leaves v (Store.commit me runId pending next) := by
  have hreplace : Leaves v (Store.replaceManifest pending next) :=
    (leaves_ensure _ _).bind fun _ => leaves_update fun _ => rfl
  refine hreplace.bind fun _ => (leaves_eventAt (Bystands.other (by decide))).attempt.bind fun r => ?_
  cases r with
  | ok _ => exact Leaves.bind (leaves_update fun _ => rfl) fun _ => leaves_pure _
  | error _ => exact leaves_pure _

theorem leaves_carryOut {current manifest : RunManifest} {status : RunStatus}
    {phase : Option String} {detail : String} :
    Leaves v (Store.carryOut me current manifest status phase detail) :=
  (leaves_read _).bind fun _ => leaves_utcNow.bind fun _ => (leaves_ensure _ _).bind fun _ =>
    leaves_freshId.bind fun _ => leaves_utcNow.bind fun _ =>
      Leaves.bind (leaves_update fun _ => rfl) fun _ => leaves_commit

theorem leaves_transition {manifest : RunManifest} {status : RunStatus} {phase : Option String}
    {detail : String} : Leaves v (Store.transition me manifest status phase detail) := by
  have hfrom : ∀ current, Leaves v
      (Store.transitionFrom me current manifest status phase detail) := fun current => by
    unfold Store.transitionFrom
    split
    · exact leaves_pure _
    split
    · exact Leaves.bind (leaves_update fun _ => rfl) fun _ => leaves_carryOut
    · exact leaves_carryOut
  refine leaves_withLock (by decide) ((leaves_read _).bind fun current => ?_)
  cases current with
  | none => exact hfrom _
  | some _ => exact leaves_loadManifest.bind fun current => hfrom current

theorem leaves_requestCancellation : Leaves v (Store.requestCancellation me) := by
  refine leaves_withLock (by decide) ((leaves_read _).bind fun manifest => ?_)
  cases manifest with
  | none => exact leaves_throw _
  | some manifest =>
    dsimp only
    split
    · exact leaves_pure _
    · exact Leaves.bind (leaves_update fun _ => rfl) fun _ =>
        Leaves.bind (leaves_update fun _ => rfl) fun _ =>
          Leaves.bind (leaves_update fun _ => rfl) fun _ =>
            (leaves_read _).bind fun _ => leaves_pure _

theorem leaves_failRun {manifest : RunManifest} {status : RunStatus} {code message : String} :
    Leaves v (failRun me manifest status code message) :=
  leaves_transition

theorem leaves_cancelRun {manifest : RunManifest} : Leaves v (cancelRun me manifest) :=
  leaves_transition

theorem leaves_registerProcess {process : ActiveProcess} :
    Leaves v (registerProcess me process) := by
  refine leaves_withLock (by decide) ((leaves_read _).bind fun requested => ?_)
  split
  · exact leaves_pure _
  · exact Leaves.bind (leaves_update fun _ => rfl) fun _ => leaves_pure _

theorem leaves_removeActiveProcess {process : ActiveProcess} :
    Leaves v (removeActiveProcess me process) :=
  leaves_withLock (by decide) (leaves_update fun _ => rfl)

/-! ### Receipts -/

theorem leaves_ensureR3InputReceipt {host : Host} {policy : Policy} {manifest : RunManifest}
    {r1 r2 : List LaneAccepted} :
    Leaves v (ensureR3InputReceipt host policy manifest r1 r2) := by
  unfold ensureR3InputReceipt
  split
  · exact (leaves_read _).bind fun _ => leaves_pure _
  · exact leaves_utcNow.bind fun _ => (leaves_read _).bind fun _ => (leaves_ofExcept _).bind fun _ =>
      Leaves.bind (leaves_update fun _ => rfl) fun _ =>
        (leaves_read _).bind fun _ => leaves_pure _

omit [Bystands v] in
theorem leaves_createPrimaryArbiterChallenge {host : Host} {manifest : RunManifest}
    {brief : Brief} : Leaves v (createPrimaryArbiterChallenge host manifest brief) := by
  unfold createPrimaryArbiterChallenge
  cases manifest.r3InputReceipt with
  | none => exact leaves_throw _
  | some binding =>
    exact (leaves_answer _).bind fun _ => (leaves_read _).bind fun _ =>
      (leaves_ofExcept _).bind fun _ => leaves_utcNow.bind fun _ => leaves_utcNow.bind fun _ =>
        leaves_pure _

theorem leaves_ensurePrimaryArbiterPacket {manifest : RunManifest} :
    Leaves v (ensurePrimaryArbiterPacket manifest) := by
  refine (leaves_read _).bind fun _ => (leaves_ofExcept _).bind fun packet =>
    (leaves_read _).bind fun existing => ?_
  cases existing with
  | none => exact leaves_update fun _ => rfl
  | some existing => exact leaves_ensure _ _

theorem leaves_saveOwned {manifest : RunManifest} : Leaves v (saveOwned me manifest) :=
  leaves_saveManifest.attempt.bind fun _ => leaves_pure _

theorem leaves_acceptResponse {host : Host} {manifest : RunManifest} {brief : Brief}
    {response : PrimaryArbiterResponse} :
    Leaves v (acceptResponse me host manifest brief response) := by
  refine Leaves.bind (leaves_update fun _ => rfl) fun _ => leaves_utcNow.bind fun _ =>
    (leaves_read _).bind fun recovered => ?_
  rcases recovered with e | _ | accepted
  · exact leaves_pure _
  · exact leaves_pure _
  · exact leaves_saveOwned

theorem leaves_stagePrimaryResponse {host : Host} {manifest : RunManifest} {brief : Brief}
    {response : PrimaryArbiterResponse} :
    Leaves v (stagePrimaryResponse me host manifest brief response) := by
  refine leaves_utcNow.bind fun _ => (leaves_read _).bind fun checked => ?_
  cases checked with
  | error e => exact leaves_pure _
  | ok response =>
    refine leaves_utcNow.bind fun stagedAt => ?_
    cases stageReceipt host manifest response stagedAt with
    | error e => exact leaves_pure _
    | ok staged =>
      refine leaves_saveOwned.bind fun saved => ?_
      rcases saved with ⟨staged, e | _⟩
      · exact leaves_pure _
      · exact leaves_acceptResponse

/-! ### Stages -/

theorem leaves_stageFails {β : Type} {manifest : RunManifest} {status : RunStatus}
    {code message : String} :
    Leaves v (stageFails (α := β) me manifest status code message) :=
  leaves_failRun.bind fun _ => leaves_pure _

theorem leaves_stageTransition {manifest : RunManifest} {status : RunStatus}
    {phase : Option String} {detail : String} :
    Leaves v (stageTransition me manifest status phase detail) := by
  refine leaves_transition.bind fun reached => ?_
  dsimp only
  split <;> exact leaves_pure _

theorem leaves_reconcileOrphanProcesses : Leaves v (reconcileOrphanProcesses me) := by
  refine (leaves_withLock (by decide) (leaves_read _)).bind fun processes => ?_
  induction processes with
  | nil => exact leaves_pure _
  | cons process processes ih =>
    refine Leaves.bind (v := v) ?_ fun _ => ih
    exact (leaves_answer _).bind fun _ => (leaves_ensure _ _).bind fun _ =>
      leaves_removeActiveProcess

theorem leaves_preflight {policy : Policy} {manifest : RunManifest} :
    Leaves v (preflight me policy manifest) := by
  unfold preflight
  split
  case isFalse => exact leaves_pure _
  refine leaves_stageTransition.bind fun stage => ?_
  cases stage with
  | done status => exact leaves_pure _
  | go manifest =>
    dsimp only
    split
    · exact leaves_stageFails
    refine (leaves_answer _).bind fun missing => ?_
    split
    · exact leaves_stageFails
    · exact leaves_pure _

theorem leaves_passGate {manifest : RunManifest} {before : List RunStatus} {gate : RunStatus}
    {phase : String} {accepted : Nat} :
    Leaves v (passGate me manifest before gate phase accepted) := by
  unfold passGate
  split
  · exact leaves_stageTransition
  · exact leaves_pure _

theorem leaves_ensureR2Packet {policy : Policy} {brief : Brief} {manifest : RunManifest}
    {r1 : List LaneAccepted} : Leaves v (ensureR2Packet me policy brief manifest r1) := by
  refine (leaves_read _).bind fun existing => ?_
  split
  · exact leaves_pure _
  refine leaves_stageTransition.bind fun stage => ?_
  cases stage with
  | done status => exact leaves_pure _
  | go manifest =>
    refine (leaves_answer _).bind fun rotation => ?_
    cases buildR2Packet manifest brief r1 policy rotation with
    | none => exact leaves_throw _
    | some packet => exact Leaves.bind (leaves_update fun _ => rfl) fun _ => leaves_pure _

theorem leaves_ensureEvidencePacket {brief : Brief} {manifest : RunManifest}
    {r1 r2 : List LaneAccepted} : Leaves v (ensureEvidencePacket brief manifest r1 r2) := by
  refine (leaves_read _).bind fun existing => ?_
  split
  · exact leaves_pure _
  · exact leaves_update fun _ => rfl

theorem leaves_bindInputs {host : Host} {policy : Policy} {manifest : RunManifest}
    {r1 r2 : List LaneAccepted} : Leaves v (bindInputs me host policy manifest r1 r2) := by
  refine leaves_ensureR3InputReceipt.attempt.bind fun bound => ?_
  rcases bound with message | ⟨manifest, message | _⟩
  · exact leaves_stageFails
  · exact leaves_stageFails
  · exact leaves_pure _

theorem leaves_ensureChallenge {host : Host} {brief : Brief} {manifest : RunManifest} :
    Leaves v (ensureChallenge me host brief manifest) := by
  unfold ensureChallenge
  split
  · exact leaves_pure _
  refine leaves_createPrimaryArbiterChallenge.attempt.bind fun challenge => ?_
  cases challenge with
  | error message => exact leaves_stageFails
  | ok challenge => exact leaves_saveManifest.bind fun _ => leaves_pure _

theorem leaves_awaitSubmission {host : Host} {brief : Brief} {manifest : RunManifest} :
    Leaves v (awaitSubmission me host brief manifest) := by
  have hissue : Leaves v (issueChallenge me host brief manifest) := by
    unfold issueChallenge
    split
    · exact leaves_pure _
    · exact leaves_createPrimaryArbiterChallenge.bind fun _ => leaves_saveManifest.bind fun _ =>
        leaves_pure _
  exact hissue.bind fun _ => Leaves.bind (leaves_update fun _ => rfl) fun _ =>
    leaves_transition.bind fun _ => leaves_pure _

/-! ### The result -/

theorem leaves_writeRunResult {manifest : RunManifest} {r1 r2 : List LaneAccepted}
    {primary : ArbiterVerdict} : Leaves v (writeRunResult manifest r1 r2 primary) :=
  (leaves_read _).bind fun _ => (leaves_ofExcept _).bind fun _ =>
    Leaves.bind (leaves_update fun _ => rfl) fun _ =>
      Leaves.bind (leaves_update fun _ => rfl) fun _ => leaves_pure _

theorem leaves_finalize {host : Host} {policy : Policy} {manifest : RunManifest}
    {r1 r2 : List LaneAccepted} {verdict : ArbiterVerdict} :
    Leaves v (finalize me host policy manifest r1 r2 verdict) := by
  have hpublish : Leaves v (publishResult me host policy manifest r1 r2 verdict) :=
    leaves_writeRunResult.bind fun _ => (leaves_read _).bind fun _ => (leaves_ofExcept _).bind fun _ =>
      leaves_transition.bind fun _ => (leaves_event (Bystands.other (by decide))).bind fun _ => leaves_pure _
  refine Leaves.bind (leaves_withLock (by decide) ((leaves_read _).bind fun requested => ?_))
    fun published => ?_
  · split
    · exact leaves_pure _
    · exact hpublish.bind fun _ => leaves_pure _
  · cases published with
    | some status => exact leaves_pure _
    | none => exact leaves_cancelRun.bind fun _ => leaves_pure _

theorem leaves_mergeSubmission {host : Host} {policy : Policy} {brief : Brief}
    {manifest : RunManifest} {r1 r2 : List LaneAccepted} :
    Leaves v (mergeSubmission me host policy brief manifest r1 r2) := by
  refine leaves_utcNow.bind fun now => (leaves_read _).bind fun recovered => ?_
  rcases recovered with message | _ | manifest
  · exact leaves_failRun.bind fun _ => leaves_pure _
  · exact leaves_transition.bind fun _ => leaves_pure _
  · refine leaves_stageTransition.bind fun stage => ?_
    cases stage with
    | done status => exact leaves_pure _
    | go manifest =>
      exact (leaves_read _).bind fun _ => (leaves_ofExcept _).bind fun _ => leaves_finalize

end Run

end Quinte
