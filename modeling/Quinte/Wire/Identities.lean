import Mathlib
import Quinte.Wire.AtRest
import Quinte.Wire.Requests
import Quinte.Run.Amendment

/-! # The identities of artifacts

    The three identities are assigned by a read of the record and a write of it,
    and no lock holds the two together. As long as no request writes the file
    of the task when it has all three, all replies show the same ones
    (`artifact_ids_stable`): the file is written once, and whoever replies has
    read it since or has written it.
-/

namespace Quinte.Wire

open Program Relation

/-- Watch a task. -/
def Home.watching (task : String) (h : Home) : Home :=
  { h with watch := { task := task, contended := false, replies := [] } }

/-- All replies that carry the artifacts of the task show the same three identities. -/
def IdentitiesStable (h : Home) : Prop :=
  ∃ a b c : String, ∀ ids ∈ h.watch.replies, ids = [some a, some b, some c]

/-! ### The protocol -/

/-- The three identities in the file of the task, once it has them. -/
def Home.identities (h : Home) : Option (List (Option String)) :=
  match h.tasks.file (h.watch.task ++ ".json") with
  | some (some r) => if r.taskId = h.watch.task ∧ r.assigned = true then some r.ids else none
  | _ => none

/-- What a request may do: unless the record was contended for, identities that
    are there stay, and no others are shown. -/
structure Kept (h h' : Home) : Prop where
  task : h'.watch.task = h.watch.task
  contended : h'.watch.contended = false → h.watch.contended = false
  identities : h'.watch.contended = false → ∀ ids, h.identities = some ids →
    h'.identities = some ids
  replies : h'.watch.contended = false → ∀ ids ∈ h'.watch.replies,
    ids ∈ h.watch.replies ∨ h'.identities = some ids

theorem Kept.refl (h : Home) : Kept h h :=
  ⟨rfl, id, fun _ _ => id, fun _ _ => Or.inl⟩

theorem Kept.trans {h h' h'' : Home} (hk : Kept h h') (hk' : Kept h' h'') : Kept h h'' := by
  refine ⟨hk'.task.trans hk.task, fun hc => hk.contended (hk'.contended hc), ?_, ?_⟩
  · intro hc ids hids
    exact hk'.identities hc ids (hk.identities (hk'.contended hc) ids hids)
  · intro hc ids hids
    rcases hk'.replies hc ids hids with hbefore | hshown
    · rcases hk.replies (hk'.contended hc) ids hbefore with hfirst | hshown
      · exact Or.inl hfirst
      · exact Or.inr (hk'.identities hc ids hshown)
    · exact Or.inr hshown

/-- What leaves the records alone is allowed. -/
theorem Kept.of_ledger {h h' : Home} (hsame : ledger h' = ledger h) : Kept h h' := by
  have htasks : h'.tasks = h.tasks := congrArg (·.2.1) hsame
  have hwatch : h'.watch = h.watch := congrArg (·.2.2) hsame
  have hids : h'.identities = h.identities := by rw [Home.identities, htasks, hwatch]; rfl
  refine ⟨by rw [hwatch], fun hc => by rwa [hwatch] at hc, fun _ ids h => hids.trans h, ?_⟩
  intro _ ids hmem
  rw [hwatch] at hmem
  exact Or.inl hmem

/-- The record is read, or was contended for. -/
theorem Kept.contend (b : Bool) (h : Home) : Kept h (h.contend b) := by
  refine ⟨rfl, fun hc => ?_, fun _ _ => id, fun _ _ => Or.inl⟩
  have hboth : (h.watch.contended || b) = false := hc
  rw [Bool.or_eq_false_iff] at hboth
  exact hboth.1

/-- The protocol of the requests about one task. -/
def requestProtocol : Protocol Pid Home where
  inv _ := True
  guar _ := Kept
  crash := Home.release

theorem requestProtocol_lawful : requestProtocol.Lawful where
  guar_refl _ := Kept.refl
  guar_inv _ _ _ _ _ := trivial
  crash_inv _ _ _ := trivial

theorem Kept.of_rely {me : Pid} {h h' : Home} (hrely : requestProtocol.Rely me h h') :
    Kept h h' := by
  induction hrely with
  | refl => exact Kept.refl h
  | tail _ hstep ih =>
    obtain ⟨q, -, -, hguar | rfl⟩ := hstep
    · exact ih.trans hguar
    · exact ih.trans (Kept.of_ledger rfl)

/-! ### What a request knows -/

/-- What the record shows is what the file of the task holds. -/
def Assured (r : TaskRecord) (h : Home) : Prop :=
  r.taskId = h.watch.task → r.assigned = true →
    h.watch.contended = false → h.identities = some r.ids

/-- What the task shows is what the file of the task holds. -/
def Vouched (task : String) (artifacts : List Artifact) (h : Home) : Prop :=
  task = h.watch.task → artifacts ≠ [] →
    h.watch.contended = false → h.identities = some (artifacts.map (·.artifactId))

theorem Assured.kept {r : TaskRecord} {h h' : Home} (hr : Assured r h) (hk : Kept h h') :
    Assured r h' := by
  intro htask hassigned hc
  exact hk.identities hc _ (hr (htask.trans hk.task) hassigned (hk.contended hc))

theorem Vouched.kept {task : String} {artifacts : List Artifact} {h h' : Home}
    (ht : Vouched task artifacts h) (hk : Kept h h') : Vouched task artifacts h' := by
  intro htask hne hc
  exact hk.identities hc _ (ht (htask.trans hk.task) hne (hk.contended hc))

/-- The result of a program meets `P` where it ends, and the home was kept. -/
abbrev Keeping {α ε : Type} (h : Home) (P : α → Home → Prop) : Except ε α → Home → Prop
  | .ok a, h' => Kept h h' ∧ P a h'
  | .error _, h' => Kept h h'

section safe

variable {me : Pid} {S : Server} {α β ε ε' : Type}

/-- Sequencing, with what the first program has kept. -/
theorem safe_then {P : α → Home → Prop} {Q : β → Home → Prop} {p : Prog Home Answer ε α}
    {f : α → Prog Home Answer ε β} {h : Home} (hp : Safe requestProtocol me (Keeping h P) p h)
    (hf : ∀ a h', Kept h h' → P a h' → Safe requestProtocol me (Keeping h' Q) (f a) h') :
    Safe requestProtocol me (Keeping h Q) (p >>= f) h := by
  apply Safe.bind
  apply hp.mono
  intro r h' hr
  cases r with
  | error e => exact hr
  | ok a =>
    obtain ⟨hk, ha⟩ := hr
    apply (hf a h' hk ha).mono
    intro r h'' hr'
    cases r with
    | error e => exact hk.trans hr'
    | ok b => exact ⟨hk.trans hr'.1, hr'.2⟩

theorem safe_return {P : α → Home → Prop} {a : α} {h : Home} (hP : ∀ h', Kept h h' → P a h') :
    Safe requestProtocol me (Keeping h P) (pure a : Prog Home Answer ε α) h := by
  intro h' hrely
  exact ⟨Kept.of_rely hrely, hP h' (Kept.of_rely hrely)⟩

theorem safe_fail {P : α → Home → Prop} (e : ε) {h : Home} :
    Safe requestProtocol me (Keeping h P) (.throw e : Prog Home Answer ε α) h :=
  fun _ hrely => Kept.of_rely hrely

/-- What leaves the records alone says nothing about them. -/
theorem safe_aside {p : Prog Home Answer ε α} (hp : Leaves ledger p) {h : Home} :
    Safe requestProtocol me (Keeping h fun _ _ => True) p h := by
  have hsafe : Safe requestProtocol me (fun _ t => Kept h t) p h :=
    hp.safe (fun _ _ => Kept.of_ledger) Kept.refl (fun _ _ _ => Kept.trans)
      (fun _ _ => Kept.of_rely) (fun _ _ => Kept.of_ledger) h
  apply hsafe.mono
  intro r h' hk
  cases r with
  | ok a => exact ⟨hk, trivial⟩
  | error e => exact hk

theorem safe_ensure {b : Bool} {e : ε} (h : Home) :
    Safe requestProtocol me (Keeping h fun _ _ => b = true)
      (Prog.ensure b e : Prog Home Answer ε Unit) h := by
  cases b with
  | true => exact safe_return fun _ _ => rfl
  | false => exact safe_fail e

theorem safe_mapError {f : ε → ε'} {P : α → Home → Prop} {p : Prog Home Answer ε α} {h : Home}
    (hp : Safe requestProtocol me (Keeping h P) p h) :
    Safe requestProtocol me (Keeping h P) (p.mapError f) h := by
  apply Safe.mapError
  apply hp.mono
  intro r h' hr
  cases r with
  | ok a => exact hr
  | error e => exact hr

theorem safe_attempt {P : α → Home → Prop} {p : Prog Home Answer ε α} {h : Home}
    (hp : Safe requestProtocol me (Keeping h P) p h) :
    Safe requestProtocol me (Keeping h fun _ _ => True) p.attempt h := by
  apply Safe.attempt
  apply hp.mono
  intro r h' hr
  cases r with
  | ok a => exact ⟨hr.1, trivial⟩
  | error e => exact ⟨hr, trivial⟩

/-! ### Records -/

/-- The file at the path of the task is its file. -/
theorem recordAt_recordPath (h : Home) (task : String) :
    h.recordAt (h.recordPath task) = h.tasks.file (task ++ ".json") :=
  h.recordAt_tasks _

/-- A record that was read shows what is in the file of the task, or it was
    taken from another file. -/
theorem assured_noteRead {h : Home} {p : Path} {r : TaskRecord} :
    Assured r (h.noteRead p (some (some r))) ∨ h.recordAt p ≠ some (some r) := by
  by_cases hat : h.recordAt p = some (some r)
  · refine Or.inl fun htask hassigned hc => ?_
    have hown : p = h.recordPath h.watch.task := by
      by_contra hother
      have hcontended : (h.noteRead p (some (some r))).watch.contended = true := by
        show (h.watch.contended || _) = true
        simp [hother, show r.taskId = h.watch.task from htask]
      exact absurd (hc.symm.trans hcontended) (by decide)
    have hfile : h.tasks.file (h.watch.task ++ ".json") = some (some r) := by
      rw [← recordAt_recordPath, ← hown]
      exact hat
    show h.identities = _
    rw [Home.identities, hfile]
    exact if_pos ⟨htask, hassigned⟩
  · exact Or.inr hat

/-- `load_record`. -/
theorem safe_loadRecord (taskId : String) (h : Home) :
    Safe requestProtocol me (Keeping h fun o h' => ∀ r, o = some r → Assured r h')
      (loadRecord taskId) h := by
  unfold loadRecord
  apply Safe.observe
  intro h₁ hrely _
  have hload : Kept h₁ (h₁.noteLoad taskId) := by
    unfold Home.noteLoad
    split
    · exact Kept.of_ledger rfl
    · exact (Kept.contend _ _).trans (Kept.of_ledger rfl)
  refine ⟨hload, ?_⟩
  have hkept := (Kept.of_rely hrely).trans hload
  have hassured : ∀ r, h₁.fileFor taskId = some (some r) → Assured r (h₁.noteLoad taskId) := by
    intro r hr
    obtain ⟨p, hp, hat⟩ := Option.bind_eq_some_iff.mp hr
    rw [Home.noteLoad, hp]
    show Assured r ((h₁.noteRead p (h₁.recordAt p)).touch _)
    rw [hat]
    exact (assured_noteRead.resolve_right fun hne => hne hat).kept (Kept.of_ledger rfl)
  have hkeep : ∀ {h' : Home}, requestProtocol.Rely me (h₁.noteLoad taskId) h' → Kept h h' :=
    fun hrely' => hkept.trans (Kept.of_rely hrely')
  cases hfile : h₁.fileFor taskId with
  | none => exact fun h' hrely' => ⟨hkeep hrely', fun r hr => nomatch hr⟩
  | some content =>
    cases content with
    | none => exact fun h' hrely' => hkeep hrely'
    | some r =>
      intro h' hrely'
      refine ⟨hkeep hrely', fun r' hr' => ?_⟩
      obtain rfl := Option.some.inj hr'
      exact (hassured r hfile).kept (Kept.of_rely hrely')

theorem writeAt_watch (h : Home) (p : Path) (content : Option TaskRecord) :
    (h.writeAt p content).watch = h.watch := by
  unfold Home.writeAt
  cases p.getLast? with
  | none => rfl
  | some name => dsimp only; split <;> rfl

/-- The file of a task changes only where it is written. -/
theorem writeAt_other {h : Home} {p : Path} {task : String} (hp : p ≠ h.recordPath task)
    (content : Option TaskRecord) :
    (h.writeAt p content).tasks.file (task ++ ".json") = h.tasks.file (task ++ ".json") := by
  unfold Home.writeAt
  cases hlast : p.getLast? with
  | none => rfl
  | some name =>
    dsimp only
    split
    case isFalse => rfl
    case isTrue hdir =>
      have hname : task ++ ".json" ≠ name := by
        intro heq
        obtain ⟨ys, hys⟩ := List.getLast?_eq_some_iff.mp hlast
        apply hp
        rw [hys, List.dropLast_concat] at hdir
        rw [hys, hdir, ← heq]
        rfl
      exact if_neg hname

/-- The file that the identities are in. -/
theorem identities_eq_some {h : Home} {ids : List (Option String)} :
    h.identities = some ids ↔ ∃ r, h.tasks.file (h.watch.task ++ ".json") = some (some r) ∧
      r.taskId = h.watch.task ∧ r.assigned = true ∧ r.ids = ids := by
  unfold Home.identities
  constructor
  · intro hids
    split at hids
    case h_1 r hfile =>
      split at hids
      case isTrue hboth => exact ⟨r, hfile, hboth.1, hboth.2, Option.some.inj hids⟩
      case isFalse => exact nomatch hids
    case h_2 => exact nomatch hids
  · rintro ⟨r, hfile, htask, hassigned, rfl⟩
    rw [hfile]
    exact if_pos ⟨htask, hassigned⟩

/-- The write of a record: it is contended for if the file of the task is
    written when it has all identities. -/
theorem kept_writeAt (h : Home) (p : Path) (content : Option TaskRecord) :
    Kept h ((h.noteWrite p).writeAt p content) := by
  have hcontend : Kept h (h.noteWrite p) := Kept.contend _ _
  have hwatch := writeAt_watch (h.noteWrite p) p content
  refine ⟨by rw [hwatch]; rfl, fun hc => hcontend.contended (hwatch ▸ hc), ?_, ?_⟩
  · intro hc ids hids
    rw [hwatch] at hc
    obtain ⟨r, hfile, htask, hassigned, hr⟩ := identities_eq_some.mp hids
    -- the file of the task has its identities, so another file is written
    have hother : p ≠ h.recordPath h.watch.task := by
      intro hown
      have hcontended : (h.noteWrite p).watch.contended = true := by
        show (h.watch.contended || _) = true
        rw [hown, recordAt_recordPath, hfile]
        simp [assignedRecord, htask, hassigned]
      exact absurd (hc.symm.trans hcontended) (by decide)
    rw [identities_eq_some, hwatch]
    exact ⟨r, (writeAt_other (h := h.noteWrite p) hother content).trans hfile, htask, hassigned, hr⟩
  · intro _ ids hmem
    rw [hwatch] at hmem
    exact Or.inl hmem

/-- What `save_record` of a run does: the file of the task shows the record. -/
theorem kept_putRecord {r : TaskRecord} (hid : isRunId r.taskId = true) (h : Home) :
    Kept h (h.makeTasksDir.putRecord r) ∧ Assured r (h.makeTasksDir.putRecord r) := by
  have hwatch : (h.makeTasksDir.putRecord r).watch = (h.noteWrite (h.recordPath r.taskId)).watch := by
    rw [putRecord_run hid]
  constructor
  · have hwritten := kept_writeAt h (h.recordPath r.taskId) (some r)
    have hsame : ledger (h.makeTasksDir.putRecord r)
        = ledger ((h.noteWrite (h.recordPath r.taskId)).writeAt (h.recordPath r.taskId) (some r)) := by
      rw [putRecord_run hid]
      show _ = ledger (Home.writeAt ((h.noteWrite (h.recordPath r.taskId)).tasksDir
        ++ [r.taskId ++ ".json"]) (some r) _)
      rw [Home.writeAt_tasks]
      rfl
    exact hwritten.trans (Kept.of_ledger hsame)
  · intro htask hassigned _
    have hfile : (h.makeTasksDir.putRecord r).tasks.file (r.taskId ++ ".json") = some (some r) := by
      rw [putRecord_run hid]
      exact if_pos rfl
    exact identities_eq_some.mpr ⟨r, htask ▸ hfile, htask, hassigned, rfl⟩

/-- `save_record` of a run. -/
theorem safe_saveRecord {r : TaskRecord} (hid : isRunId r.taskId = true) (h : Home) :
    Safe requestProtocol me (Keeping h fun _ h' => Assured r h') (saveRecord r) h := by
  unfold saveRecord
  apply Safe.bind
  intro h₁ hrely _ _
  obtain ⟨hkept, hassured⟩ := kept_putRecord hid h₁
  refine ⟨hkept, fun h₂ hrely' => ?_⟩
  have hk₂ := ((Kept.of_rely hrely).trans hkept).trans (Kept.of_rely hrely')
  show Safe _ _ _ (Prog.ensure _ _) _
  rw [resolve_makeTasksDir hid]
  intro h₃ hrely''
  exact ⟨hk₂.trans (Kept.of_rely hrely''),
    hassured.kept ((Kept.of_rely hrely').trans (Kept.of_rely hrely''))⟩

/-- A record that was made up has no identities. -/
theorem assured_blank (manifest : RunManifest) (h : Home) : Assured (.blank manifest) h :=
  fun _ hassigned => nomatch hassigned

/-- The manifest that is loaded is that of the run, and its id is valid. -/
theorem safe_loadManifest {id : String} (h : Home) :
    Safe requestProtocol me (Keeping h fun m _ => m.runId = id ∧ isRunId id = true)
      (loadManifest me id) h := by
  unfold loadManifest
  apply safe_then (safe_ensure h)
  intro _ h₁ _ hid
  apply safe_then (safe_aside leaves_readManifest)
  intro manifest h₂ _ _
  cases manifest with
  | none => exact safe_fail _
  | some manifest =>
    apply safe_then (safe_ensure h₂)
    intro _ h₃ _ hrunId
    apply safe_then (safe_aside (leaves_onRun _))
    intro _ h₄ _ _
    exact safe_return fun _ _ => ⟨beq_iff_eq.mp hrunId, hid⟩

/-- An observation succeeds for valid ids only. -/
theorem safe_receiptForRun {operation id : String} (h : Home) :
    Safe requestProtocol me (Keeping h fun _ _ => isRunId id = true)
      (receiptForRun S me operation id) h := by
  by_cases hid : isRunId id = true
  · apply (safe_aside leaves_receiptForRun).mono
    intro r h' hr
    cases r with
    | ok a => exact ⟨hr.1, hid⟩
    | error e => exact hr
  · rw [Bool.not_eq_true] at hid
    intro _
    show Safe _ _ _ (validateRunId id >>= _ >>= _) h
    rw [validateRunId, hid]
    exact safe_fail _

/-- `load_or_recover`. -/
theorem safe_loadOrRecover (taskId : String) (h : Home) :
    Safe requestProtocol me (Keeping h fun r h' => Assured r h') (loadOrRecover me taskId) h := by
  unfold loadOrRecover
  apply safe_then (safe_mapError (safe_loadRecord taskId h))
  intro o h₁ _ ho
  cases o with
  | some r => exact safe_return fun h' hk => (ho r rfl).kept hk
  | none =>
    apply safe_then (safe_mapError (safe_loadManifest h₁))
    intro manifest h₂ _ ⟨hrunId, hid⟩
    have hblank : isRunId (TaskRecord.blank manifest).taskId = true := by
      show isRunId manifest.runId = true
      rwa [hrunId]
    apply safe_then (safe_mapError (safe_attempt (safe_saveRecord hblank h₂)))
    intro _ h₃ _ _
    exact safe_return fun h' _ => assured_blank manifest h'

/-! ### Tasks -/

/-- `assign_id`: what is there stays. -/
theorem safe_assignId (o : Option String) (h : Home) :
    Safe requestProtocol me
      (Keeping h fun o' _ => o'.isSome = true ∧ (o.isSome = true → o' = o)) (assignId o) h := by
  unfold assignId
  cases o with
  | some id => exact safe_return fun _ _ => ⟨rfl, fun _ => rfl⟩
  | none => exact fun _ => safe_return fun _ _ => ⟨rfl, fun hsome => nomatch hsome⟩

/-- The artifacts of a run show what is in the file of its task. -/
theorem safe_projectArtifacts {r : TaskRecord} {h : Home} (hr : Assured r h) :
    Safe requestProtocol me (Keeping h fun artifacts h' => Vouched r.taskId artifacts h')
      (projectArtifacts S me r) h := by
  unfold projectArtifacts inspect
  apply safe_then (safe_mapError (safe_receiptForRun h))
  intro inspected h₁ hk₁ hid
  apply safe_then (safe_aside (leaves_ensure _ _))
  intro _ h₂ hk₂ _
  apply safe_then (safe_aside (leaves_traced _ _))
  intro result h₃ hk₃ _
  cases result with
  | none => exact safe_fail _
  | some result =>
    apply safe_then (safe_assignId r.artifactId h₃)
    intro artifactId h₄ hk₄ ⟨hsome, hsame⟩
    apply safe_then (safe_assignId r.highballRouteArtifactId h₄)
    intro routeId h₅ hk₅ ⟨hsomeRoute, hsameRoute⟩
    apply safe_then (safe_assignId r.highballTraceArtifactId h₅)
    intro traceId h₆ hk₆ ⟨hsomeTrace, hsameTrace⟩
    let persisted : TaskRecord := { r with
      artifactId := artifactId
      highballRouteArtifactId := routeId
      highballTraceArtifactId := traceId }
    have hsaved : Safe requestProtocol me (Keeping h₆ fun _ h' => Assured persisted h')
        (saveAssigned r persisted) h₆ := by
      unfold saveAssigned
      by_cases hassigned : r.assigned = true
      · -- nothing was assigned: the record is the one that was read
        rw [if_pos hassigned]
        have hall := hassigned
        simp only [TaskRecord.assigned, TaskRecord.ids, List.all_cons, List.all_nil,
          Bool.and_true, Bool.and_eq_true] at hall
        have hpersisted : persisted = r := by
          simp [persisted, hsame hall.1, hsameRoute hall.2.1, hsameTrace hall.2.2]
        rw [hpersisted]
        have hk := (((hk₁.trans hk₂).trans hk₃).trans hk₄).trans (hk₅.trans hk₆)
        exact safe_return fun h' hk' => hr.kept (hk.trans hk')
      · rw [if_neg hassigned]
        exact safe_mapError (safe_saveRecord (r := persisted) hid h₆)
    apply safe_then hsaved
    intro _ h₇ hk₇ hassured
    apply safe_then (safe_aside (leaves_ofExcept _))
    intro trace h₈ hk₈ _
    apply safe_return
    intro h₉ hk₉ htask _ hc
    have hall : persisted.assigned = true := by
      simp [persisted, TaskRecord.assigned, TaskRecord.ids, hsome, hsomeRoute, hsomeTrace]
    exact hassured.kept (hk₈.trans hk₉) htask hall hc

/-- `project_task`. -/
theorem safe_projectTask {r : TaskRecord} {n : Nat} {h : Home} (hr : Assured r h) :
    Safe requestProtocol me (Keeping h fun task h' => Vouched task.id task.artifacts h')
      (projectTask S me r n) h := by
  unfold projectTask status
  apply safe_then (safe_mapError (safe_receiptForRun h))
  intro _ h₁ hk₁ _
  apply safe_then (safe_aside leaves_loadManifest.mapError)
  intro manifest h₂ hk₂ _
  have hartifacts : Safe requestProtocol me
      (Keeping h₂ fun artifacts h' => Vouched r.taskId artifacts h') (artifactsOf S me r manifest)
      h₂ := by
    unfold artifactsOf
    split
    · exact safe_projectArtifacts (hr.kept (hk₁.trans hk₂))
    · exact safe_return fun _ _ _ hne => absurd rfl hne
  apply safe_then hartifacts
  intro artifacts h₃ hk₃ hvouched
  apply safe_then (safe_aside (leaves_answer _))
  intro _ h₄ hk₄ _
  exact safe_return fun h' hk' => hvouched.kept (hk₄.trans hk')

/-- All tasks of a reply are vouched for. -/
def AllVouched (tasks : List Task) (h : Home) : Prop :=
  ∀ t ∈ tasks, Vouched t.id t.artifacts h

theorem safe_getTask (params : Json) (h : Home) :
    Safe requestProtocol me (Keeping h fun task h' => Vouched task.id task.artifacts h')
      (getTask S me params) h := by
  unfold getTask
  cases textOf params "id" with
  | none => exact safe_fail _
  | some taskId =>
    apply safe_then (safe_loadOrRecover taskId h)
    intro r h₁ _ hr
    exact safe_projectTask hr

theorem safe_cancelTask (params : Json) (h : Home) :
    Safe requestProtocol me (Keeping h fun task h' => Vouched task.id task.artifacts h')
      (cancelTask S me params) h := by
  unfold cancelTask
  cases ((params.get "id").or (params.get "name")).bind Json.asStr with
  | none => exact safe_fail _
  | some taskId =>
    apply safe_then (safe_loadOrRecover taskId h)
    intro r h₁ _ hr
    apply safe_then (safe_aside leaves_loadManifest.mapError)
    intro manifest h₂ hk₂ _
    by_cases hsettled : RunStatus.settled manifest.status = true
    · rw [if_pos hsettled]
      exact safe_fail _
    · rw [if_neg hsettled]
      apply safe_then (safe_aside leaves_cancelUnlessCancelled)
      intro _ h₃ hk₃ _
      exact safe_projectTask (hr.kept (hk₂.trans hk₃))

/-! ### Listing -/

theorem safe_readRecords (names : List String) (h : Home) :
    Safe requestProtocol me (Keeping h fun records h' => ∀ r ∈ records, Assured r h')
      (readRecords names) h := by
  induction names generalizing h with
  | nil => exact safe_return fun _ _ r hr => nomatch hr
  | cons name names ih =>
    unfold readRecords
    split
    case isFalse => exact ih h
    case isTrue =>
      apply Safe.observe
      intro h₁ hrely _
      have hread : Kept h₁ ((h₁.noteRead (h₁.tasksDir ++ [name]) (h₁.tasks.file name)).touch
          (h₁.tasksDir ++ [name])) := (Kept.contend _ _).trans (Kept.of_ledger rfl)
      refine ⟨hread, ?_⟩
      -- what is read of a record at its own path is noted as it is
      have hhere : ∀ r, h₁.tasks.file name = some (some r) →
          Assured r ((h₁.noteRead (h₁.tasksDir ++ [name]) (h₁.tasks.file name)).touch
            (h₁.tasksDir ++ [name])) := by
        intro r hfile
        have hat : h₁.recordAt (h₁.tasksDir ++ [name]) = some (some r) :=
          (h₁.recordAt_tasks name).trans hfile
        rw [hfile]
        exact (assured_noteRead.resolve_right fun hne => hne hat).kept (Kept.of_ledger rfl)
      have hrest : Safe requestProtocol me
          (Keeping ((h₁.noteRead (h₁.tasksDir ++ [name]) (h₁.tasks.file name)).touch
            (h₁.tasksDir ++ [name])) fun records h' => ∀ r ∈ records, Assured r h')
          (do
            let records ← readRecords names
            return (h₁.tasks.file name).join.toList ++ records)
          ((h₁.noteRead (h₁.tasksDir ++ [name]) (h₁.tasks.file name)).touch
            (h₁.tasksDir ++ [name])) := by
        apply safe_then (ih _)
        intro records h₂ hk₂ hrecords
        apply safe_return
        intro h' hk' r hr
        rcases List.mem_append.mp hr with hr | hr
        · rw [Option.mem_toList, Option.join_eq_some_iff] at hr
          exact (hhere r hr).kept (hk₂.trans hk')
        · exact (hrecords r hr).kept hk'
      apply hrest.mono
      intro r h' hr
      have hk := (Kept.of_rely hrely).trans hread
      cases r with
      | ok a => exact ⟨hk.trans hr.1, hr.2⟩
      | error e => exact hk.trans hr

theorem safe_listedRecords (h : Home) :
    Safe requestProtocol me (Keeping h fun records h' => ∀ r ∈ records, Assured r h')
      listedRecords h := by
  unfold listedRecords listRecords
  apply safe_then (P := fun records h' => ∀ r ∈ records, Assured r h')
  · apply safe_then (safe_aside (leaves_traced _ _))
    intro names h₁ _ _
    exact safe_readRecords names h₁
  · intro records h₁ _ hrecords
    split
    · apply safe_then (safe_aside leaves_listManifests)
      intro manifests h₂ _ _
      apply safe_return
      intro h' _ r hr
      obtain ⟨manifest, -, rfl⟩ := List.mem_map.mp hr
      exact assured_blank manifest h'
    · exact safe_return fun h' hk r hr => (hrecords r hr).kept hk

theorem safe_projectTasks {records : List TaskRecord} {h : Home}
    (hrecords : ∀ r ∈ records, Assured r h) :
    Safe requestProtocol me (Keeping h AllVouched) (projectTasks S me records) h := by
  induction records generalizing h with
  | nil => exact safe_return fun _ _ t ht => nomatch ht
  | cons r records ih =>
    unfold projectTasks
    apply safe_then (safe_projectTask (hrecords r List.mem_cons_self))
    intro task h₁ hk₁ htask
    apply safe_then (ih fun q hq => (hrecords q (List.mem_cons_of_mem _ hq)).kept hk₁)
    intro tasks h₂ hk₂ htasks
    apply safe_return
    intro h' hk' t ht
    rcases List.mem_cons.mp ht with rfl | ht
    · exact htask.kept (hk₂.trans hk')
    · exact (htasks t ht).kept hk'

theorem safe_listTasks (params : Json) (h : Home) :
    Safe requestProtocol me (Keeping h fun page h' => AllVouched page.tasks h')
      (listTasks S me params) h := by
  unfold listTasks
  apply safe_then (safe_mapError (safe_listedRecords h))
  intro records h₁ _ hrecords
  apply safe_then (safe_projectTasks fun r hr =>
    hrecords r (List.mem_of_mem_drop (List.mem_of_mem_take hr)))
  intro tasks h₂ _ htasks
  exact safe_return fun h' hk t ht => (htasks t ht).kept hk

/-! ### Runs -/

/-- **A request** keeps to the protocol, its reply included. -/
theorem safe_respond (request : Request) (h : Home) :
    Safe requestProtocol me (fun _ _ => True) (request.respond S me) h := by
  have htasks : Safe requestProtocol me (Keeping h AllVouched) (request.tasks S me) h := by
    cases request with
    | get params =>
      apply safe_then (safe_getTask params h)
      intro task h₁ _ htask
      apply safe_return
      intro h' hk t ht
      rw [List.mem_singleton] at ht
      exact ht ▸ htask.kept hk
    | list params =>
      apply safe_then (safe_listTasks params h)
      intro page h₁ _ hpage
      exact safe_return fun h' hk t ht => (hpage t ht).kept hk
    | cancel params =>
      apply safe_then (safe_cancelTask params h)
      intro task h₁ _ htask
      apply safe_return
      intro h' hk t ht
      rw [List.mem_singleton] at ht
      exact ht ▸ htask.kept hk
  unfold Request.respond
  apply Safe.bind
  apply htasks.mono
  intro r h₁ hr
  cases r with
  | error e => trivial
  | ok tasks =>
    apply Safe.modify_end
    intro h₂ hrely _
    refine ⟨⟨rfl, id, fun _ _ => id, ?_⟩, fun _ _ => trivial⟩
    intro hc ids hids
    rcases List.mem_append.mp (show ids ∈ shownIds _ tasks ++ h₂.watch.replies from hids) with
      hshown | hbefore
    · -- the identities in this reply are those of the file
      obtain ⟨t, ht, rfl⟩ := List.mem_map.mp hshown
      rw [List.mem_filter, Bool.and_eq_true, beq_iff_eq, Bool.not_eq_true',
        List.isEmpty_eq_false_iff] at ht
      exact Or.inr (((hr.2 t ht.1).kept (Kept.of_rely hrely)) ht.2.1 ht.2.2 hc)
    · exact Or.inl hbefore

/-- Identities of a file of the task are three. -/
theorem identities_three {h : Home} {ids : List (Option String)} (hids : h.identities = some ids) :
    ∃ a b c : String, ids = [some a, some b, some c] := by
  obtain ⟨r, -, -, hassigned, rfl⟩ := identities_eq_some.mp hids
  simp only [TaskRecord.assigned, TaskRecord.ids, List.all_cons, List.all_nil, Bool.and_true,
    Bool.and_eq_true, Option.isSome_iff_exists] at hassigned
  obtain ⟨⟨a, ha⟩, ⟨b, hb⟩, c, hc⟩ := hassigned
  exact ⟨a, b, c, by rw [TaskRecord.ids, ha, hb, hc]⟩

/-- **The identities are stable** in every run of any number of requests in
    which the record is never contended for. -/
theorem artifact_ids_stable (S : Server) (h : Home) (task : String) :
    ∀ c, Pool.Run Home.release (Requests S) (fun _ _ h' => h'.watch.contended = false)
        (Pool.idle (h.watching task)) c → IdentitiesStable c.shared := by
  intro c hrun
  -- all replies so far show the ids that are on disk, as long as no writers contend
  let J : Home → Prop := fun h' => h'.watch.contended = false ∧
    ∀ ids ∈ h'.watch.replies, h'.identities = some ids
  have hstart : J (h.watching task) := ⟨rfl, fun ids hids => nomatch hids⟩
  have hstep : ∀ (l : Pool.Label Pid) (h₁ h₂ : Home), requestProtocol.inv h₁ → J h₁ →
      Pool.Allowed requestProtocol l h₁ h₂ → h₂.watch.contended = false → J h₂ := by
    intro l h₁ h₂ _ hJ hallowed hc
    have hkept : Kept h₁ h₂ := by
      cases l with
      | start => exact hallowed ▸ Kept.refl _
      | move => exact hallowed
      | finish => exact hallowed ▸ Kept.refl _
      | crash => exact hallowed ▸ Kept.of_ledger rfl
    refine ⟨hc, fun ids hids => ?_⟩
    rcases hkept.replies hc ids hids with hbefore | hshown
    · exact hkept.identities hc ids (hJ.2 ids hbefore)
    · exact hshown
  have hmenu : ∀ me p h', Requests S me p → requestProtocol.inv h' →
      Safe requestProtocol me (fun _ _ => True) p h' := by
    rintro me p h' ⟨request, rfl⟩ _
    exact safe_respond request h'
  obtain ⟨-, hall⟩ := Pool.run_invariant requestProtocol_lawful hmenu hstep hrun
    (Pool.sound_idle trivial) hstart
  cases hreplies : c.shared.watch.replies with
  | nil => exact ⟨"", "", "", by rw [hreplies]; exact fun ids hids => nomatch hids⟩
  | cons first rest =>
    have hfirst := hall first (by rw [hreplies]; exact List.mem_cons_self)
    obtain ⟨a, b, c', habc⟩ := identities_three hfirst
    refine ⟨a, b, c', fun ids hids => ?_⟩
    rw [← habc]
    exact Option.some.inj ((hall ids hids).symm.trans hfirst)

end safe

/-! ### Two requests for one task -/

/-- The reply to GetTask, from the record on. -/
theorem respond_get {S : Server} {me : Pid} {params : Json} {id : String}
    (hid : textOf params "id" = some id) (hlength : params.get "historyLength" = none) :
    Request.respond S me (.get params) = (do
      let r ← loadOrRecover me id
      let task ← projectTask S me r 0
      Prog.modify (Home.reply [task])) := by
  have hget : getTask S me params = loadOrRecover me id >>= fun r => projectTask S me r 0 := by
    unfold getTask
    rw [hid]
    dsimp only
    rw [hlength]
    rfl
  show (getTask S me params >>= fun task => pure [task]) >>= (fun tasks =>
    Prog.modify (Home.reply tasks)) = _
  rw [hget, Prog.bind_assoc, Prog.bind_assoc]
  rfl

/-- Where a program may end, it does. -/
theorem reaches_pure {ε α : Type} {A : Answer → Prop} {p : Prog Home Answer ε α} {h : Home}
    {Q : α → Home → Prop} (hA : ∃ answer, A answer)
    (hwp : Prog.wp (fun _ => True) A (fun r h' => ∃ a, r = .ok a ∧ Q a h') p h) :
    ∃ h' a, Prog.Reaches A p h (.pure a) h' ∧ Q a h' := by
  obtain ⟨p', h', res, hreach, hres, a, rfl, hQ⟩ := Prog.wp_exists hA hwp
  obtain rfl : p' = .pure a := by
    cases p' with
    | pure b => exact congrArg _ (Except.ok.inj (Option.some.inj hres))
    | throw e => exact nomatch hres
    | act enabled update next => exact nomatch hres
    | ask next => exact nomatch hres
  exact ⟨h', a, hreach, hQ⟩

/-- A thread that finds no identities goes on without any. -/
theorem exists_load {S : Server} {A : Answer → Prop} (me : Pid) {h : Home} {id : String}
    (hA : ∃ answer, A answer) (hs : Settled S h) (hid : id ∈ h.runs)
    (hempty : ∀ r, h.recordOf id = some (some r) → r.ids = [none, none, none]) :
    ∃ h' r, Prog.Reaches A (loadOrRecover me id) h (.pure r) h' ∧ Grown (· = id) h h' ∧
      r.taskId = id ∧ r.ids = [none, none, none] ∧ h'.recordOf id = some (some r) := by
  apply reaches_pure hA
  apply wp_loadOrRecover hs
  · exact fun e h' habsent _ => absurd hid habsent
  · intro r h' hg hrun
    obtain ⟨htask, hrecord, hwhich⟩ := hrun hid
    refine ⟨r, rfl, htask ▸ hg, htask, ?_, hrecord⟩
    rcases hwhich with ⟨m', rfl⟩ | hfound
    · rfl
    · exact hempty r hfound

/-- A thread that holds a record without identities replies with new ones. -/
theorem exists_reply {S : Server} {A : Answer → Prop} (me : Pid) {h : Home} {r : TaskRecord}
    (hA : ∃ answer, A answer) (hs : Settled S h) (hid : r.taskId ∈ h.runs)
    (htask : h.watch.task = r.taskId) (hids : r.ids = [none, none, none])
    {m : RunManifest} (hm : (h.dir r.taskId).manifest = some m)
    (hsucceeded : RunStatus.succeeded m.status = true) :
    ∃ h' a b c, Prog.Reaches A (do
        let task ← projectTask S me r 0
        Prog.modify (Home.reply [task]) : Wired Unit) h (.pure ()) h' ∧
      Grown (· = r.taskId) h { h' with watch := { h'.watch with replies := h.watch.replies } } ∧
      (A a ∧ A b ∧ A c) ∧
      h'.watch.replies = [some a.nonce, some b.nonce, some c.nonce] :: h.watch.replies := by
  let Q : Unit → Home → Prop := fun _ h' => ∃ a b c,
    Grown (· = r.taskId) h { h' with watch := { h'.watch with replies := h.watch.replies } } ∧
    (A a ∧ A b ∧ A c) ∧
    h'.watch.replies = [some a.nonce, some b.nonce, some c.nonce] :: h.watch.replies
  have hwp : Prog.wp (fun _ => True) A (fun r h' => ∃ a, r = .ok a ∧ Q a h') (do
      let task ← projectTask S me r 0
      Prog.modify (Home.reply [task]) : Wired Unit) h := by
    refine (Prog.wp_bind _ _ _).mpr (wp_projectTask hs hid fun task h₁ hown hg hidentified => ?_)
    refine (Prog.wp_modify _ _).mpr ⟨trivial, (), rfl, ?_⟩
    have hforall := hidentified m hm hsucceeded
    rw [hids] at hforall
    -- the record has no ids yet, so each is the nonce of an answer
    obtain ⟨x, xs, ⟨a, ha, rfl⟩, hrest, hx⟩ := List.forall₂_cons_left_iff.mp hforall
    obtain ⟨y, ys, ⟨b, hb, rfl⟩, hrest', rfl⟩ := List.forall₂_cons_left_iff.mp hrest
    obtain ⟨z, zs, ⟨c, hc, rfl⟩, hnil, rfl⟩ := List.forall₂_cons_left_iff.mp hrest'
    obtain rfl := List.forall₂_nil_left_iff.mp hnil
    refine ⟨a, b, c, ?_, ⟨ha, hb, hc⟩, ?_⟩
    · have hwatch := hg.watch
      refine ⟨hg.root, hg.runs, hg.dir, hg.tasks, hg.directories, ?_⟩
      show ({ h₁.watch with replies := h.watch.replies } : Watch) = _
      rw [hwatch]
      rfl
    · have htask₁ : h₁.watch.task = task.id := by rw [hg.watch, hown]; exact htask
      have hne : task.artifacts ≠ [] := by
        intro hnil
        rw [hnil] at hx
        exact nomatch hx
      show shownIds h₁.watch.task [task] ++ h₁.watch.replies = _
      have hshown : shownIds h₁.watch.task [task] = [task.artifacts.map (·.artifactId)] := by
        simp [shownIds, htask₁, hne]
      rw [hshown, hx, hg.watch]
      rfl
  obtain ⟨h', _, hreach, a, b, c, hrest⟩ := reaches_pure hA hwp
  exact ⟨h', a, b, c, hreach, hrest⟩

/-- The directory of a run that completed. -/
def finishedDir : RunDir :=
  { Run.completedDir with
    manifest := some { Run.completedManifest with runId := firstRun }
    result := Run.completedDir.result.map fun result => { result with runId := firstRun } }

/-- A home with one run, which completed. -/
def finishedHome : Home :=
  { homeOf [firstRun] .queued with
    dir := fun id => if id = firstRun then finishedDir else { sampleDir .queued with manifest := none } }

theorem settled_finishedHome : Settled sampleServer finishedHome := by
  have hrun : isRunId firstRun = true := by decide +kernel
  have hrest : Settled sampleServer (homeOf [firstRun] .queued) :=
    settled_homeOf (by decide) (by decide +kernel) rfl
  refine ⟨hrest.nodup, hrest.ids, fun id hid => ?_, fun id hid => ?_, hrest.records,
    hrest.directories⟩
  · obtain rfl := List.mem_singleton.mp hid
    have hdir : finishedHome.dir firstRun = finishedDir := by simp [finishedHome]
    rw [hdir]
    refine ⟨⟨_, rfl, rfl⟩, ⟨rfl, rfl, _, rfl, ?_, fun p hp => by cases hp⟩,
      fun _ _ _ _ => ⟨_, rfl⟩, fun m hm _ => ?_⟩
    · show firstRun ≠ ""
      decide +kernel
    · obtain rfl : { Run.completedManifest with runId := firstRun } = m := Option.some.inj hm
      have hcheck : finishedDir.result.isSome = true ∧
          ((Run.checkResultIntegrity sampleServer.host
            { Run.completedManifest with runId := firstRun } finishedDir.result).toOption.bind
              id).isSome = true := by decide +kernel
      refine ⟨hcheck.1, ?_⟩
      cases h : Run.checkResultIntegrity sampleServer.host
          { Run.completedManifest with runId := firstRun } finishedDir.result with
      | error e => simp [h, Except.toOption] at hcheck
      | ok o =>
        obtain ⟨i, rfl⟩ : ∃ i, o = some i :=
          Option.isSome_iff_exists.mp (by simpa [h, Except.toOption] using hcheck.2)
        exact ⟨i, rfl⟩
  · have hne : id ≠ firstRun := fun heq => hid (List.mem_singleton.mpr heq)
    have hdir : finishedHome.dir id = { sampleDir .queued with manifest := none } := by
      simp [finishedHome, hne]
    rw [hdir]

/-- A task with its identities is projected without a write of its record. -/
theorem leaves_projectTask {S : Server} {me : Pid} {r : TaskRecord} {n : Nat}
    (hassigned : r.assigned = true) : Leaves ledger (projectTask S me r n) := by
  -- with the ids assigned nothing is drawn and nothing is saved
  have hassign : ∀ o, Leaves ledger (assignId o) := by
    intro o
    unfold assignId
    cases o with
    | some id => exact leaves_pure _
    | none => exact (leaves_answer _).bind fun _ => leaves_pure _
  have hsave : ∀ persisted, Leaves ledger (saveAssigned r persisted) := by
    intro persisted
    unfold saveAssigned
    rw [if_pos hassigned]
    exact leaves_pure _
  have hartifacts : Leaves ledger (projectArtifacts S me r) := by
    unfold projectArtifacts inspect
    apply Leaves.bind leaves_receiptForRun.mapError
    intro inspected
    apply Leaves.bind (leaves_ensure _ _)
    intro _
    apply Leaves.bind (leaves_traced _ _)
    intro result
    cases result with
    | none => exact leaves_throw _
    | some result =>
      apply Leaves.bind (hassign _)
      intro artifactId
      apply Leaves.bind (hassign _)
      intro routeId
      apply Leaves.bind (hassign _)
      intro traceId
      apply Leaves.bind (hsave _)
      intro _
      exact (leaves_ofExcept _).bind fun _ => leaves_pure _
  unfold projectTask status
  apply Leaves.bind leaves_receiptForRun.mapError
  intro _
  apply Leaves.bind leaves_loadManifest.mapError
  intro manifest
  have hwhole : Leaves ledger (artifactsOf S me r manifest) := by
    unfold artifactsOf
    split
    · exact hartifacts
    · exact leaves_pure _
  apply Leaves.bind hwhole
  intro artifacts
  exact (leaves_answer _).bind fun _ => leaves_pure _

theorem settled_watching {S : Server} {h : Home} (hs : Settled S h) (task : String) :
    Settled S (h.watching task) :=
  ⟨hs.nodup, hs.ids, hs.runs, hs.absent, hs.records, hs.directories⟩

/-- The record of the run, with its identities. -/
def assignedSample : TaskRecord where
  taskId := firstRun
  contextId := none
  createdAt := 0
  message := .null
  artifactId := some "a"
  highballRouteArtifactId := some "b"
  highballTraceArtifactId := some "c"

def assignedHome : Home :=
  { finishedHome with
    tasks := FileTree.empty.write (firstRun ++ ".json") (some assignedSample)
    isDirectory := fun _ => true }

theorem settled_assignedHome : Settled sampleServer assignedHome := by
  have hs := settled_finishedHome
  refine ⟨hs.nodup, hs.ids, hs.runs, hs.absent, fun name content hcontent => ?_, fun _ _ _ => rfl⟩
  have hfile : (if name = firstRun ++ ".json" then some (some assignedSample) else none)
      = some content := hcontent
  split at hfile
  case isTrue hname =>
    obtain rfl := Option.some.inj hfile
    exact ⟨firstRun, List.mem_singleton.mpr rfl, hname, assignedSample, rfl, rfl⟩
  case isFalse => exact nomatch hfile

/-- The parameters of GetTask for the run. -/
def sampleParams : Json := .obj [("id", .str firstRun)]

/-- The home, watched, and after a look for the record of its run. -/
def watchedHome : Home := assignedHome.watching firstRun

def lookedHome : Home := watchedHome.noteLoad firstRun

theorem settled_watchedHome : Settled sampleServer watchedHome :=
  settled_watching settled_assignedHome firstRun

theorem fileFor_watchedHome : watchedHome.fileFor firstRun = some (some assignedSample) := by
  rw [fileFor_run settled_watchedHome (by decide +kernel)]
  show (if firstRun ++ ".json" = firstRun ++ ".json" then some (some assignedSample) else none) = _
  exact if_pos rfl

/-- The record is read from its own file. -/
theorem lookedHome_watch : lookedHome.watch = watchedHome.watch := by
  unfold lookedHome Home.noteLoad
  rw [Home.resolve_run (by decide +kernel) fun _ _ => rfl]
  show (Home.noteRead (watchedHome.recordPath firstRun) _ _).watch = _
  unfold Home.noteRead Home.contend
  rw [show watchedHome.watch.task = firstRun from rfl]
  simp

theorem wp_projectTask_assigned :
    Prog.wp (fun _ => True) (fun _ => True) (fun r _ => ∃ task, r = .ok task ∧
      task.id = firstRun ∧ task.artifacts.map (·.artifactId) = [some "a", some "b", some "c"])
      (projectTask sampleServer 1 assignedSample 0) lookedHome := by
  have hg : Observed watchedHome lookedHome := Observed.noteLoad firstRun watchedHome
  have hid : firstRun ∈ watchedHome.runs := List.mem_singleton.mpr rfl
  apply wp_projectTask (hg.settled settled_watchedHome) (hg.runs ▸ hid)
  intro task h' htask _ hidentified
  have hm : (lookedHome.dir firstRun).manifest
      = some { Run.completedManifest with runId := firstRun } := by
    rw [(hg.dir firstRun).manifest]
    show (finishedHome.dir firstRun).manifest = _
    simp [finishedHome]
    rfl
  have hids := hidentified _ hm rfl
  obtain ⟨x, xs, rfl, hrest, hx⟩ := List.forall₂_cons_left_iff.mp hids
  obtain ⟨y, ys, rfl, hrest', rfl⟩ := List.forall₂_cons_left_iff.mp hrest
  obtain ⟨z, zs, rfl, hnil, rfl⟩ := List.forall₂_cons_left_iff.mp hrest'
  obtain rfl := List.forall₂_nil_left_iff.mp hnil
  exact ⟨task, rfl, htask, hx⟩

/-- The record is not contended for in a request for a task that has its identities. -/
theorem wp_respond_assigned :
    Prog.wp (fun h => h.watch.contended = false) (fun _ => True)
      (fun _ h => h.watch.replies = [[some "a", some "b", some "c"]])
      (Request.respond sampleServer 1 (.get sampleParams)) watchedHome := by
  let I : Home → Prop := fun h => h.watch.contended = false
  have htext : textOf sampleParams "id" = some firstRun := by decide +kernel
  have hfree : I lookedHome := congrArg Watch.contended lookedHome_watch
  have hI : ∀ h h' : Home, ledger h' = ledger h → I h → I h' := by
    intro h h' hsame hh
    have hwatch : h'.watch = h.watch := congrArg (·.2.2) hsame
    show h'.watch.contended = false
    rwa [hwatch]
  rw [respond_get htext (by decide +kernel)]
  refine (Prog.wp_bind _ _ _).mpr ?_
  unfold loadOrRecover loadRecord
  refine (Prog.wp_bind _ _ _).mpr ((Prog.wp_mapError _ _ _).mpr ?_)
  refine (Prog.wp_bind _ _ _).mpr ((Prog.wp_observe _ _ _).mpr ⟨hfree, ?_⟩)
  rw [fileFor_watchedHome]
  show Prog.wp I (fun _ => True) _ (projectTask sampleServer 1 assignedSample 0 >>= fun task =>
    Prog.modify (Home.reply [task])) lookedHome
  have hassigned : assignedSample.assigned = true := rfl
  have hleaves := @leaves_projectTask sampleServer 1 assignedSample 0 hassigned
  have hproject := hleaves.wp hI wp_projectTask_assigned hfree
  refine (Prog.wp_bind _ _ _).mpr (Prog.wp_mono hproject ?_)
  intro r h' hr
  have hsame := hr.2.1
  have hI' := hr.2.2
  obtain ⟨task, hok, htask, hids⟩ := hr.1
  subst hok
  refine (Prog.wp_modify _ _).mpr ⟨hI', ?_⟩
  have hwatch : h'.watch = { task := firstRun, contended := false, replies := [] } := by
    have hlooked : h'.watch = lookedHome.watch := congrArg (·.2.2) hsame
    rw [hlooked, lookedHome_watch]
    rfl
  have hne : task.artifacts ≠ [] := fun hnil => by rw [hnil] at hids; exact nomatch hids
  show shownIds h'.watch.task [task] ++ h'.watch.replies = _
  rw [hwatch]
  simp [shownIds, htask, hne, hids]

/-- A request for a task that has its identities. -/
theorem artifact_ids_stable_sample :
    ∃ c, Pool.Run Home.release (Requests sampleServer) (fun _ _ h' => h'.watch.contended = false)
        (Pool.idle watchedHome) c ∧
      c.shared.watch.replies = [[some "a", some "b", some "c"]] ∧ IdentitiesStable c.shared := by
  have hfree : watchedHome.watch.contended = false := rfl
  let request := Request.respond sampleServer 1 (.get sampleParams)
  let procs : Pid → Option (Wired Unit) := Pool.set (fun _ => none) 1 (some request)
  have hstart : Pool.Run Home.release (Requests sampleServer)
      (fun _ _ h' => h'.watch.contended = false) (Pool.idle watchedHome)
      { shared := watchedHome, procs := procs } :=
    Pool.Run.step Pool.Run.refl (Pool.Step.start rfl ⟨.get sampleParams, rfl⟩) hfree
  obtain ⟨h', r, hreplies, procs', hrun⟩ := Pool.run_of_wp Home.release (Requests sampleServer) 1
    ⟨default, trivial⟩ wp_respond_assigned (show procs 1 = some request from rfl) hfree
  have hwhole := hstart.trans hrun
  exact ⟨_, hwhole, hreplies, artifact_ids_stable sampleServer assignedHome firstRun _ hwhole⟩

/-- **Two requests, each with a record that has no identities**: both assign
    them, and the task is shown with two sets of identities. -/
theorem artifact_ids_change :
    ¬ ∀ (S : Server) (h : Home) (task : String) (m : RunManifest), Settled S h → task ∈ h.runs →
      (h.dir task).manifest = some m → m.status = .completed →
      ∀ c, Pool.Run Home.release (Requests S) (fun _ _ _ => True) (Pool.idle (h.watching task)) c →
        IdentitiesStable c.shared := by
  intro hall
  let A (nonce : String) : Answer → Prop := fun answer => answer.nonce = nonce
  have hA : ∀ nonce, ∃ answer, A nonce answer := fun nonce =>
    ⟨{ (default : Answer) with nonce := nonce }, rfl⟩
  let m : RunManifest := { Run.completedManifest with runId := firstRun }
  have hs := settled_watching settled_finishedHome firstRun
  have hid : firstRun ∈ (finishedHome.watching firstRun).runs := List.mem_singleton.mpr rfl
  have hm : ((finishedHome.watching firstRun).dir firstRun).manifest = some m := by
    show (finishedHome.dir firstRun).manifest = _
    simp [finishedHome]
    rfl
  have hnone : (finishedHome.watching firstRun).recordOf firstRun = none := rfl
  -- both threads look for the record, and find or make one without identities
  obtain ⟨h₁, r₁, hreach₁, hg₁, htask₁, hids₁, hfile₁⟩ := exists_load 1 (hA "") hs hid
    fun r hr => by cases hnone.symm.trans hr
  have hs₁ := hg₁.settled hs
  have hid₁ : firstRun ∈ h₁.runs := hg₁.runs ▸ hid
  obtain ⟨h₂, r₂, hreach₂, hg₂, htask₂, hids₂, -⟩ := exists_load 2 (hA "") hs₁ hid₁ fun r hr => by
    obtain rfl : r₁ = r := Option.some.inj (Option.some.inj (hfile₁.symm.trans hr))
    exact hids₁
  have hg := hg₁.trans hg₂
  have hs₂ := hg.settled hs
  have hid₂ : firstRun ∈ h₂.runs := hg.runs ▸ hid
  have hm₂ : (h₂.dir firstRun).manifest = some m := (hg.dir _).manifest.trans hm
  have hwatch₂ : h₂.watch.task = firstRun := by rw [hg.watch]; rfl
  -- then one of them ends
  obtain ⟨h₃, a, b, c, hreach₃, hg₃, ⟨ha, -, -⟩, hreplies₃⟩ :=
    exists_reply 1 (hA "1") hs₂ (htask₁ ▸ hid₂) (hwatch₂.trans htask₁.symm) hids₁ (htask₁ ▸ hm₂) rfl
  have hsame₃ := hg₃.settled hs₂
  have hs₃ : Settled sampleServer h₃ :=
    ⟨hsame₃.nodup, hsame₃.ids, hsame₃.runs, hsame₃.absent, hsame₃.records, hsame₃.directories⟩
  have hid₃ : firstRun ∈ h₃.runs := (show h₃.runs = h₂.runs from hg₃.runs) ▸ hid₂
  have hm₃ : (h₃.dir firstRun).manifest = some m := (hg₃.dir _).manifest.trans hm₂
  have htask₃ := congrArg (fun w : Watch => w.task) hg₃.watch
  have hwatch₃ : h₃.watch.task = firstRun := Eq.trans htask₃ hwatch₂
  obtain ⟨h₄, d, e, f, hreach₄, -, ⟨hd, -, -⟩, hreplies₄⟩ := exists_reply 2 (hA "2") hs₃
    (htask₂ ▸ hid₃) (hwatch₃.trans htask₂.symm) hids₂ (htask₂ ▸ hm₃) rfl
  -- the schedule of the two threads
  let rest (me : Pid) (r : TaskRecord) : Wired Unit := do
    let task ← projectTask sampleServer me r 0
    Prog.modify (Home.reply [task])
  have hmenu : ∀ me, Requests sampleServer me (loadOrRecover me firstRun >>= rest me) := fun me =>
    ⟨.get sampleParams, (respond_get (by decide +kernel) (by decide +kernel)).symm⟩
  obtain ⟨c, hrun, hshared⟩ := Pool.run_overlap Home.release (by decide)
    (hmenu 1) (hmenu 2) hreach₁ hreach₂ hreach₃ hreach₄
  obtain ⟨x, y, z, hstable⟩ := hall sampleServer finishedHome firstRun m settled_finishedHome
    (List.mem_singleton.mpr rfl) hm rfl c hrun
  rw [hshared, hreplies₄, hreplies₃] at hstable
  have hsecond := hstable _ List.mem_cons_self
  have hfirst := hstable _ (List.mem_cons_of_mem _ List.mem_cons_self)
  rw [show d.nonce = "2" from hd] at hsecond
  rw [show a.nonce = "1" from ha] at hfirst
  have hsame := (List.cons.inj hsecond).1.trans (List.cons.inj hfirst).1.symm
  exact absurd hsame (by decide)

end Quinte.Wire
