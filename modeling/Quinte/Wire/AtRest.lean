import Mathlib
import Quinte.Store.Alone
import Quinte.Wire.Tasks

/-! # A home at rest

    What the requests of `host_map.rs` reply and leave behind on a home where
    nobody else is at work: every run is published and can be observed, and
    every record is that of a run, under its own name.

    * `Grown`: what a request changes at most; it leaves the home at rest;
    * `wp_projectTask`: the runs of the home, and no others, can be projected;
    * `wp_getTask`, `wp_listTasks`: the replies.
-/

namespace Quinte.Wire

open Program Store

/-! ### Homes at rest -/

/-- A directory with a run that can be observed. -/
structure Observable (S : Server) (id : String) (d : RunDir) : Prop where
  runId : ∃ m, d.manifest = some m ∧ m.runId = id
  recoverable : Recoverable d
  observed : ∀ t m, d.manifest = some m → t.manifest = d.manifest →
    ∃ x, S.observe m t = .ok x
  verified : ∀ m, d.manifest = some m → RunStatus.succeeded m.status = true →
    d.result.isSome = true ∧ ∃ i, Run.checkResultIntegrity S.host m d.result = .ok (some i)

/-- Nobody is at work in the home, and its parts fit together. -/
structure Settled (S : Server) (h : Home) : Prop where
  nodup : h.runs.Nodup
  ids : ∀ id ∈ h.runs, isRunId id = true
  runs : ∀ id ∈ h.runs, Observable S id (h.dir id)
  absent : ∀ id, id ∉ h.runs → (h.dir id).manifest = none
  records : ∀ name content, h.tasks.file name = some content →
    ∃ id ∈ h.runs, name = id ++ ".json" ∧ ∃ r, content = some r ∧ r.taskId = id
  directories : (∃ name, (h.tasks.file name).isSome = true) →
    ∀ p, p <+: h.tasksDir → h.isDirectory p = true

/-- The file of a task of the home. -/
def Home.recordOf (h : Home) (id : String) : Option (Option TaskRecord) :=
  h.tasks.file (id ++ ".json")

/-- What a recovery may have changed in the directory of a run. -/
structure Rested (s t : RunDir) : Prop where
  same : t = { s with pending := t.pending, events := t.events }
  pending : t.pending = s.pending ∨ t.pending = none
  sequences : Sequenced s.events → Sequenced t.events

theorem Rested.refl (s : RunDir) : Rested s s := ⟨rfl, Or.inl rfl, id⟩

theorem Rested.trans {s t u : RunDir} (h : Rested s t) (h' : Rested t u) : Rested s u := by
  refine ⟨?_, ?_, fun hs => h'.sequences (h.sequences hs)⟩
  · rw [h'.same, h.same]
  · rcases h'.pending with heq | hnone
    · exact heq ▸ h.pending
    · exact Or.inr hnone

theorem Rested.of_quiet {me : Pid} {s t : RunDir} (h : Quiet me s t) (hlocks : t.locks = s.locks) :
    Rested s t := by
  refine ⟨?_, h.pending, h.sequences⟩
  rw [h.same, hlocks]

section rested

variable {s t : RunDir}

theorem Rested.manifest (h : Rested s t) : t.manifest = s.manifest := by rw [h.same]

theorem Rested.result (h : Rested s t) : t.result = s.result := by rw [h.same]

theorem Rested.recoverable (h : Rested s t) (hs : Recoverable s) : Recoverable t := by
  obtain ⟨m, hm, hrunId, hplaced⟩ := hs.manifest
  refine ⟨?_, h.sequences hs.sequences, m, h.manifest.trans hm, hrunId, fun p hp => ?_⟩
  · rw [h.same]
    exact hs.free
  · rcases h.pending with heq | hnone
    · exact hplaced p (heq ▸ hp)
    · exact nomatch hnone.symm.trans hp

theorem Rested.observable {S : Server} {id : String} (h : Rested s t) (hs : Observable S id s) :
    Observable S id t := by
  refine ⟨?_, h.recoverable hs.recoverable, ?_, ?_⟩
  · rw [h.manifest]
    exact hs.runId
  · intro u m hm hu
    rw [h.manifest] at hm hu
    exact hs.observed u m hm hu
  · intro m hm hsucceeded
    rw [h.manifest] at hm
    rw [h.result]
    exact hs.verified m hm hsucceeded

end rested

/-! ### What a request changes -/

/-- The home `h'` is `h` but for recoveries, for files that are no records, and
    for new records of the runs in `D`, under their own names. -/
structure Grown (D : String → Prop) (h h' : Home) : Prop where
  root : h'.root = h.root
  runs : h'.runs = h.runs
  dir : ∀ id, Rested (h.dir id) (h'.dir id)
  tasks : ∀ name, h'.tasks.file name = h.tasks.file name ∨
    ∃ id ∈ h.runs, D id ∧ name = id ++ ".json" ∧
      ∃ r, h'.tasks.file name = some (some r) ∧ r.taskId = id
  directories : ((∃ name, (h.tasks.file name).isSome = true) →
      ∀ p, p <+: h.tasksDir → h.isDirectory p = true) →
    (∃ name, (h'.tasks.file name).isSome = true) → ∀ p, p <+: h.tasksDir → h'.isDirectory p = true
  watch : h'.watch = { h.watch with contended := h'.watch.contended }

/-- Nothing but recoveries and files that are no records. -/
abbrev Observed (h h' : Home) : Prop := Grown (fun _ => False) h h'

namespace Grown

variable {D E : String → Prop} {h h' h'' : Home}

theorem refl (h : Home) : Grown D h h :=
  ⟨rfl, rfl, fun _ => Rested.refl _, fun _ => Or.inl rfl, id, rfl⟩

theorem mono (hg : Grown D h h') (hD : ∀ id, D id → E id) : Grown E h h' :=
  ⟨hg.root, hg.runs, hg.dir, fun name => (hg.tasks name).imp_right
    fun ⟨id, hid, hd, hrest⟩ => ⟨id, hid, hD id hd, hrest⟩, hg.directories, hg.watch⟩

theorem tasksDir (hg : Grown D h h') : h'.tasksDir = h.tasksDir := by
  rw [Home.tasksDir, hg.root]
  rfl

theorem trans (hg : Grown D h h') (hg' : Grown D h' h'') : Grown D h h'' := by
  refine ⟨hg'.root.trans hg.root, hg'.runs.trans hg.runs,
    fun id => (hg.dir id).trans (hg'.dir id), fun name => ?_, fun hdirs => ?_, ?_⟩
  · rcases hg'.tasks name with heq | ⟨id, hid, hrest⟩
    · rw [heq]
      exact hg.tasks name
    · exact Or.inr ⟨id, hg.runs ▸ hid, hrest⟩
  · have hmiddle := hg.directories hdirs
    have hlast := hg'.directories
    rw [hg.tasksDir] at hlast
    exact hlast hmiddle
  · rw [hg'.watch, hg.watch]

/-- A record that is there stays there. -/
theorem isSome (hg : Grown D h h') {name : String} (hname : (h.tasks.file name).isSome = true) :
    (h'.tasks.file name).isSome = true := by
  rcases hg.tasks name with heq | ⟨id, -, -, -, r, hr, -⟩
  · rwa [heq]
  · rw [hr]
    rfl

/-- A request leaves the home at rest. -/
theorem settled {S : Server} (hg : Grown D h h') (hs : Settled S h) : Settled S h' := by
  refine ⟨?_, ?_, ?_, ?_, ?_, ?_⟩
  · rw [hg.runs]
    exact hs.nodup
  · rw [hg.runs]
    exact hs.ids
  · intro id hid
    rw [hg.runs] at hid
    exact (hg.dir id).observable (hs.runs id hid)
  · intro id hid
    rw [hg.runs] at hid
    exact (hg.dir id).manifest.trans (hs.absent id hid)
  · intro name content hcontent
    rw [hg.runs]
    rcases hg.tasks name with heq | ⟨id, hid, -, hname, r, hr, htask⟩
    · exact hs.records name content (heq ▸ hcontent)
    · rw [hr] at hcontent
      exact ⟨id, hid, hname, r, (Option.some.inj hcontent).symm, htask⟩
  · rw [hg.tasksDir]
    exact hg.directories hs.directories

end Grown

/-- Only the directories of runs, by recoveries, and the history differ. -/
theorem Observed.of_dir {h : Home} {dir : String → RunDir} {accessed : List Path}
    {contended : Bool} (hdir : ∀ id, Rested (h.dir id) (dir id)) :
    Observed h { h with
      dir := dir
      accessed := accessed
      watch := { h.watch with contended := contended } } :=
  ⟨rfl, rfl, hdir, fun _ => Or.inl rfl, id, rfl⟩

theorem Observed.touch (p : Path) (h : Home) : Observed h (h.touch p) :=
  Observed.of_dir fun _ => Rested.refl _

theorem Observed.noteRead (p : Path) (content : Option (Option TaskRecord)) (h : Home) :
    Observed h (h.noteRead p content) :=
  Observed.of_dir fun _ => Rested.refl _

/-- A file outside of the records is written. -/
theorem Observed.writeAt {h : Home} {p : Path} (hp : p.dropLast ≠ h.tasksDir)
    (content : Option TaskRecord) : Observed h (h.writeAt p content) := by
  unfold Home.writeAt
  cases p.getLast? with
  | none => exact Grown.refl h
  | some name =>
    simp only [if_neg hp]
    exact ⟨rfl, rfl, fun _ => Rested.refl _, fun _ => Or.inl rfl, id, rfl⟩

section alone

variable {A : Answer → Prop} {S : Server} {me : Pid} {h : Home} {id : String}

/-! ### Loading manifests -/

theorem wp_validateRunId {Q : Except Chain Unit → Home → Prop} (hid : isRunId id = true)
    (hQ : Q (.ok ()) h) : Prog.wp (fun _ => True) A Q (validateRunId id) h := by
  rw [validateRunId, hid]
  exact hQ

/-- The directory of one run changes, and the rest of the home keeps still. -/
theorem wp_onRun {α : Type} {p : Proc α} {R : Except String α → RunDir → Prop}
    {Q : Except Chain α → Home → Prop} (hp : Prog.wp (fun _ => True) A R p (h.dir id))
    (hQ : ∀ r h', h' = { h with dir := h'.dir, accessed := h'.accessed } →
      (∀ q, q ≠ id → h'.dir q = h.dir q) → R r (h'.dir id) → Q (r.mapError ([·])) h') :
    Prog.wp (fun _ => True) A Q (Hosted.onRun id p) h := by
  let K : Home → Prop := fun h' =>
    h' = { h with dir := h'.dir, accessed := h'.accessed } ∧ ∀ q, q ≠ id → h'.dir q = h.dir q
  have hK : ∀ d h', K h' → K ((h'.setDir id d).touch (h'.runDir id)) := by
    rintro d h' ⟨hsame, hdir⟩
    refine ⟨?_, fun q hq => ?_⟩
    · rw [hsame]
      rfl
    · rw [Home.touch_dir, Home.setDir_dir_ne d h' hq]
      exact hdir q hq
  have hget : ∀ d (h' : Home), ((h'.setDir id d).touch (h'.runDir id)).dir id = d :=
    fun d h' => h'.setDir_dir_self id d
  have hzoom : Prog.wp (fun _ => True) A (fun r s' => K s' ∧ R r (s'.dir id))
      (p.zoom (·.dir id) fun d h' => (h'.setDir id d).touch (h'.runDir id)) h :=
    Prog.wp_zoom hget hK (fun _ _ => trivial) hp ⟨rfl, fun _ _ => rfl⟩
  refine (Prog.wp_mapError _ _ _).mpr (Prog.wp_mono hzoom ?_)
  exact fun r h' ⟨⟨hsame, hdir⟩, hr⟩ => hQ r h' hsame hdir hr

/-- **A run of the home can be loaded.** -/
theorem wp_loadManifest {Q : Except Chain RunManifest → Home → Prop} (hs : Settled S h)
    (hid : id ∈ h.runs) (hQ : ∀ m h', (h.dir id).manifest = some m → m.runId = id →
      Observed h h' → Q (.ok m) h') :
    Prog.wp (fun _ => True) A Q (Wire.loadManifest me id) h := by
  have hrun := hs.runs id hid
  obtain ⟨m, hm, hrunId⟩ := hrun.runId
  unfold Wire.loadManifest
  refine (Prog.wp_bind _ _ _).mpr (wp_validateRunId (hs.ids id hid) ?_)
  refine (Prog.wp_bind _ _ _).mpr ((Prog.wp_observe _ _ _).mpr ⟨trivial, ?_⟩)
  simp only [hm]
  refine (Prog.wp_bind _ _ _).mpr ((Prog.wp_ensure _ _ _).mpr ⟨fun _ => ?_, fun hbad => ?_⟩)
  · refine (Prog.wp_bind _ _ _).mpr (wp_onRun (wp_recoverPendingTransition hrun.recoverable hm
      (Q := fun r t => r = .ok () ∧ Rested (h.dir id) t) (fun _ _ => trivial)
      fun t ht hlocks _ => ⟨rfl, Rested.of_quiet ht hlocks⟩) ?_)
    rintro r h' hsame hdir ⟨rfl, hrested⟩
    refine hQ m h' hm hrunId ?_
    rw [hsame]
    refine Observed.of_dir fun q => ?_
    by_cases hq : q = id
    · exact hq ▸ hrested
    · exact hdir q hq ▸ Rested.refl _
  · simp [hrunId] at hbad

/-- What is no run of the home cannot be loaded. -/
theorem wp_loadManifest_absent {Q : Except Chain RunManifest → Home → Prop} (hs : Settled S h)
    (hid : id ∉ h.runs) (hQ : ∀ e h', Observed h h' → Q (.error e) h') :
    Prog.wp (fun _ => True) A Q (Wire.loadManifest me id) h := by
  unfold Wire.loadManifest validateRunId
  refine (Prog.wp_bind _ _ _).mpr ((Prog.wp_ensure _ _ _).mpr ⟨fun _ => ?_, fun _ => ?_⟩)
  · refine (Prog.wp_bind _ _ _).mpr ((Prog.wp_observe _ _ _).mpr ⟨trivial, ?_⟩)
    simp only [hs.absent id hid]
    exact hQ _ _ (Observed.touch _ h)
  · exact hQ _ _ (Grown.refl h)

/-! ### Observing -/

theorem wp_context {α : Type} {p : Hosted α} {Q : Except Chain α → Home → Prop} {message : String}
    (hp : Prog.wp (fun _ => True) A (fun r h' => Q (r.mapError (message :: ·)) h') p h) :
    Prog.wp (fun _ => True) A Q (Hosted.context message p) h :=
  (Prog.wp_mapError _ _ _).mpr hp

/-- The scan trusts every directory of a home at rest. -/
theorem wp_scanManifests {ids : List String} {Q : Except Chain (List RunManifest) → Home → Prop}
    (hs : Settled S h) (hids : ∀ id ∈ ids, id ∈ h.runs)
    (hQ : ∀ manifests h', Observed h h' → Q (.ok manifests) h') :
    Prog.wp (fun _ => True) A Q (scanManifests me ids) h := by
  induction ids generalizing h Q with
  | nil => exact hQ [] h (Grown.refl h)
  | cons id ids ih =>
    unfold scanManifests trustedManifest
    have hid : id ∈ h.runs := hids id List.mem_cons_self
    refine (Prog.wp_bind _ _ _).mpr ((Prog.wp_bind _ _ _).mpr ?_)
    apply wp_context
    apply wp_validateRunId (hs.ids id hid)
    apply wp_context
    apply wp_loadManifest hs hid
    intro m h' _ _ hgrown
    -- the rest of the scan sees a home at rest again
    apply (Prog.wp_bind _ _ _).mpr
    apply ih (hgrown.settled hs)
    · intro q hq
      rw [hgrown.runs]
      exact hids q (List.mem_cons_of_mem _ hq)
    · intro manifests h'' hgrown'
      exact hQ _ _ (hgrown.trans hgrown')

theorem wp_activeManifests {Q : Except Chain (List RunManifest) → Home → Prop}
    (hs : Settled S h) (hQ : ∀ manifests h', Observed h h' → Q (.ok manifests) h') :
    Prog.wp (fun _ => True) A Q (activeManifests me) h := by
  unfold activeManifests readRuns
  refine (Prog.wp_bind _ _ _).mpr ((Prog.wp_observe _ _ _).mpr ⟨trivial, ?_⟩)
  have htouch := Observed.touch h.runsDir h
  refine (Prog.wp_bind _ _ _).mpr (wp_scanManifests (htouch.settled hs) (fun _ hid => hid) ?_)
  exact fun manifests h' hgrown => hQ _ _ (htouch.trans hgrown)

theorem wp_writeFile {path : Home → Path} {Q : Except Chain Unit → Home → Prop}
    (hpath : (path h).dropLast ≠ h.tasksDir) (hQ : ∀ h', Observed h h' → Q (.ok ()) h') :
    Prog.wp (fun _ => True) A Q (writeFile path) h :=
  (Prog.wp_modify _ _).mpr
    ⟨trivial, hQ _ ((Observed.writeAt hpath none).trans (Observed.touch _ _))⟩

theorem wp_persistReceipt {invocationId : String} {Q : Except Chain Unit → Home → Prop}
    (hQ : ∀ h', Observed h h' → Q (.ok ()) h') :
    Prog.wp (fun _ => True) A Q (persistReceipt invocationId) h := by
  -- neither file is in the directory of the records
  have hhost : ∀ (h : Home) (name : String) (ps : Path),
      (h.root ++ (["host"] ++ ps ++ [name])).dropLast ≠ h.tasksDir := by
    intro h name ps heq
    rw [← List.append_assoc, List.dropLast_concat, Home.tasksDir, List.append_cancel_left_eq] at heq
    simp at heq
  unfold persistReceipt
  refine (Prog.wp_bind _ _ _).mpr (wp_writeFile (hhost h _ ["receipts"]) fun h' hgrown => ?_)
  exact wp_writeFile (hhost h' _ []) fun h'' hgrown' => hQ _ (hgrown.trans hgrown')

theorem wp_verifiedResult {m : RunManifest} {Q : Except Chain (Option Run.ResultIntegrity) → Home → Prop}
    (hs : Settled S h) (hid : id ∈ h.runs) (hm : (h.dir id).manifest = some m)
    (hQ : ∀ o h', (RunStatus.succeeded m.status = true → o.isSome = true) → Observed h h' →
      Q (.ok o) h') :
    Prog.wp (fun _ => True) A Q (verifiedResult S me id m) h := by
  have hrun := hs.runs id hid
  unfold verifiedResult
  split
  case isFalse hfailed => exact hQ none h (fun hsucceeded => absurd hsucceeded hfailed) (Grown.refl h)
  case isTrue hsucceeded =>
    obtain ⟨-, i, hcheck⟩ := hrun.verified m hm hsucceeded
    -- the check reads files at rest, so it finds what was verified at the end of the run
    have hverify : Prog.wp (fun _ => True) A
        (fun r t => r = .ok (some i) ∧ Rested (h.dir id) t)
        (Run.verifyResultIntegrity me S.host) (h.dir id) := by
      unfold Run.verifyResultIntegrity
      refine (Prog.wp_bind _ _ _).mpr (Store.wp_loadManifest hrun.recoverable hm
        (fun _ _ => trivial) fun t ht hlocks _ => ?_)
      have hrested := Rested.of_quiet ht hlocks
      refine (Prog.wp_bind _ _ _).mpr ((Prog.wp_read _ _).mpr ⟨trivial, ?_⟩)
      refine (Prog.wp_ofExcept _ _).mpr ⟨?_, hrested⟩
      rw [hrested.result, hcheck]
    refine (Prog.wp_bind _ _ _).mpr (wp_onRun hverify ?_)
    rintro r h' hsame hdir ⟨rfl, hrested⟩
    refine hQ (some i) h' (fun _ => rfl) ?_
    rw [hsame]
    refine Observed.of_dir fun q => ?_
    by_cases hq : q = id
    · exact hq ▸ hrested
    · exact hdir q hq ▸ Rested.refl _

/-- **A run of the home can be observed.** -/
theorem wp_receiptForRun {operation : String} {Q : Except Chain HostReceipt → Home → Prop}
    (hs : Settled S h) (hid : id ∈ h.runs)
    (hQ : ∀ receipt h', (∀ m, (h.dir id).manifest = some m →
      RunStatus.succeeded m.status = true → receipt.result.isSome = true) → Observed h h' →
      Q (.ok receipt) h') :
    Prog.wp (fun _ => True) A Q (receiptForRun S me operation id) h := by
  unfold receiptForRun
  refine (Prog.wp_bind _ _ _).mpr ((Prog.wp_answer _ _).mpr fun answer _ => ?_)
  refine (Prog.wp_bind _ _ _).mpr (wp_loadManifest hs hid fun m h₁ hm _ hg₁ => ?_)
  refine (Prog.wp_bind _ _ _).mpr (wp_activeManifests (hg₁.settled hs) fun active h₂ hg₂ => ?_)
  have hgrown := hg₁.trans hg₂
  have hs₂ := hgrown.settled hs
  have hid₂ : id ∈ h₂.runs := hgrown.runs ▸ hid
  have hm₂ : (h₂.dir id).manifest = some m := (hgrown.dir id).manifest.trans hm
  refine (Prog.wp_bind _ _ _).mpr ((Prog.wp_observe _ _ _).mpr ⟨trivial, ?_⟩)
  obtain ⟨x, hx⟩ := (hs₂.runs id hid₂).observed (h₂.dir id) m hm₂ rfl
  rw [hx]
  refine (Prog.wp_bind _ _ _).mpr ((Prog.wp_ofExcept _ _).mpr ?_)
  have hg₃ := hgrown.trans (Observed.touch (h₂.runDir id) h₂)
  have hs₃ := hg₃.settled hs
  refine (Prog.wp_bind _ _ _).mpr (wp_verifiedResult hs₃ (hg₃.runs ▸ hid) hm₂ fun o h₄ ho hg₄ => ?_)
  refine (Prog.wp_bind _ _ _).mpr (wp_persistReceipt fun h₅ hg₅ => ?_)
  refine hQ _ _ (fun m' hm' hsucceeded => ?_) ((hg₃.trans hg₄).trans hg₅)
  obtain rfl := Option.some.inj (hm.symm.trans hm')
  exact ho hsucceeded

/-- What is no run of the home cannot be observed. -/
theorem wp_receiptForRun_absent {operation : String} {Q : Except Chain HostReceipt → Home → Prop}
    (hs : Settled S h) (hid : id ∉ h.runs) (hQ : ∀ e h', Observed h h' → Q (.error e) h') :
    Prog.wp (fun _ => True) A Q (receiptForRun S me operation id) h := by
  unfold receiptForRun
  refine (Prog.wp_bind _ _ _).mpr ((Prog.wp_answer _ _).mpr fun answer _ => ?_)
  exact (Prog.wp_bind _ _ _).mpr (wp_loadManifest_absent hs hid hQ)

/-! ### Records -/

omit A in
/-- What a request finds in the place of the record of a run. -/
theorem fileFor_run (hs : Settled S h) (hid : isRunId id = true) : h.fileFor id = h.recordOf id := by
  unfold Home.recordOf Home.fileFor
  by_cases hthere : (h.tasks.file (id ++ ".json")).isSome = true
  · rw [Home.resolve_run hid (hs.directories ⟨_, hthere⟩), Option.bind_some,
      Home.recordAt_tasks]
  · -- no such file, whether its directory is there or not
    rw [Bool.not_eq_true, Option.isSome_eq_false_iff, Option.isNone_iff_eq_none] at hthere
    rw [hthere]
    cases hresolve : resolve h.isDirectory (h.taskPath id) with
    | none => rfl
    | some p =>
      have hp := resolve_eq hresolve
      rw [Home.taskPath_run hid, normalise_self (Home.taskPath_run_up hid)] at hp
      rw [← hp, Option.bind_some, Home.recordAt_tasks, hthere]

/-- The path of the task of a run leads to its file. -/
theorem resolve_makeTasksDir {h : Home} {id : String} (hid : isRunId id = true) :
    resolve h.makeTasksDir.isDirectory (h.taskPath id) = some (h.recordPath id) := by
  refine Home.resolve_run (h := h.makeTasksDir) hid fun p hp => ?_
  show (decide (p <+: h.tasksDir) || h.isDirectory p) = true
  rw [Bool.or_eq_true]
  exact Or.inl (decide_eq_true hp)

/-- The file of a run is written. -/
theorem putRecord_run {h : Home} {r : TaskRecord} (hid : isRunId r.taskId = true) :
    h.makeTasksDir.putRecord r = { h.makeTasksDir with
      tasks := h.tasks.write (r.taskId ++ ".json") (some r)
      accessed := h.taskPath r.taskId :: h.accessed
      watch := (h.noteWrite (h.recordPath r.taskId)).watch } := by
  have hresolve := resolve_makeTasksDir (h := h) hid
  unfold Home.putRecord
  rw [show h.makeTasksDir.taskPath r.taskId = h.taskPath r.taskId from rfl, hresolve]
  show (Home.writeAt ((h.makeTasksDir.noteWrite (h.recordPath r.taskId)).tasksDir
    ++ [r.taskId ++ ".json"]) (some r) _).touch _ = _
  rw [Home.writeAt_tasks]
  rfl

/-- The record of a run of the home can be saved. -/
theorem wp_saveRecord {r : TaskRecord} {Q : Except Chain Unit → Home → Prop} (hs : Settled S h)
    (hid : r.taskId ∈ h.runs)
    (hQ : ∀ h', Grown (· = r.taskId) h h' →
      (∀ name, h'.tasks.file name = if name = r.taskId ++ ".json" then some (some r)
        else h.tasks.file name) → Q (.ok ()) h') :
    Prog.wp (fun _ => True) A Q (saveRecord r) h := by
  have hrun := hs.ids _ hid
  unfold saveRecord
  refine (Prog.wp_bind _ _ _).mpr ⟨rfl, trivial, ?_⟩
  dsimp only
  rw [resolve_makeTasksDir hrun, putRecord_run hrun]
  show Q (.ok ()) _
  refine hQ _ ⟨rfl, rfl, fun _ => Rested.refl _, fun name => ?_, fun _ _ p hp => ?_, rfl⟩
    fun name => rfl
  · by_cases hname : name = r.taskId ++ ".json"
    · exact Or.inr ⟨r.taskId, hid, rfl, hname, r, if_pos hname, rfl⟩
    · exact Or.inl (if_neg hname)
  · show (decide (p <+: h.tasksDir) || h.isDirectory p) = true
    rw [Bool.or_eq_true]
    exact Or.inl (decide_eq_true hp)

/-! ### Projecting -/

/-- The identity that is there, or a new one. -/
def Minted (A : Answer → Prop) : Option String → Option String → Prop
  | some id, o => o = some id
  | none, o => ∃ answer, A answer ∧ o = some answer.nonce

/-- A task that carries the three artifacts of its run, if it succeeded. -/
def Identified (A : Answer → Prop) (d : RunDir) (r : TaskRecord) (artifacts : List Artifact) :
    Prop :=
  ∀ m, d.manifest = some m → RunStatus.succeeded m.status = true →
    List.Forall₂ (Minted A) r.ids (artifacts.map (·.artifactId))

theorem wp_assignId {o : Option String} {Q : Except A2aError (Option String) → Home → Prop}
    (hQ : ∀ id, Minted A o id → Q (.ok id) h) : Prog.wp (fun _ => True) A Q (assignId o) h := by
  unfold assignId
  cases o with
  | some id => exact hQ (some id) rfl
  | none =>
    exact (Prog.wp_bind _ _ _).mpr
      ((Prog.wp_answer _ _).mpr fun answer ha => hQ _ ⟨answer, ha, rfl⟩)

/-- The record is saved, or has its identities already. -/
theorem wp_saveAssigned {r persisted : TaskRecord} {Q : Except A2aError Unit → Home → Prop}
    (hs : Settled S h) (hid : persisted.taskId ∈ h.runs)
    (hQ : ∀ h', Grown (· = persisted.taskId) h h' → Q (.ok ()) h') :
    Prog.wp (fun _ => True) A Q (saveAssigned r persisted) h := by
  unfold saveAssigned
  split
  case isTrue => exact hQ h (Grown.refl h)
  case isFalse =>
    exact (Prog.wp_mapError _ _ _).mpr (wp_saveRecord hs hid fun h' hgrown _ => hQ h' hgrown)

theorem wp_projectArtifacts {r : TaskRecord} {m : RunManifest}
    {Q : Except A2aError (List Artifact) → Home → Prop} (hs : Settled S h)
    (hid : r.taskId ∈ h.runs) (hm : (h.dir r.taskId).manifest = some m)
    (hsucceeded : RunStatus.succeeded m.status = true)
    (hQ : ∀ artifacts h', Grown (· = r.taskId) h h' →
      List.Forall₂ (Minted A) r.ids (artifacts.map (·.artifactId)) → Q (.ok artifacts) h') :
    Prog.wp (fun _ => True) A Q (projectArtifacts S me r) h := by
  unfold projectArtifacts inspect
  refine (Prog.wp_bind _ _ _).mpr ((Prog.wp_mapError _ _ _).mpr
    (wp_receiptForRun hs hid fun receipt h₁ hverified hg₁ => ?_))
  have hresult : receipt.result.isSome = true := hverified m hm hsucceeded
  refine (Prog.wp_bind _ _ _).mpr ((Prog.wp_ensure _ _ _).mpr
    ⟨fun _ => ?_, fun hbad => absurd (hbad.symm.trans hresult) (by decide)⟩)
  refine (Prog.wp_bind _ _ _).mpr ((Prog.wp_observe _ _ _).mpr ⟨trivial, ?_⟩)
  -- the result of a run that succeeded is there
  have hs₁ := hg₁.settled hs
  have hm₁ : (h₁.dir r.taskId).manifest = some m := (hg₁.dir _).manifest.trans hm
  obtain ⟨hpublic, -⟩ := (hs₁.runs _ (hg₁.runs ▸ hid)).verified m hm₁ hsucceeded
  obtain ⟨result, hpublished⟩ := Option.isSome_iff_exists.mp hpublic
  rw [hpublished]
  have hg₂ := hg₁.trans (Observed.touch (h₁.runDir r.taskId ++ ["result.json"]) h₁)
  refine (Prog.wp_bind _ _ _).mpr (wp_assignId fun artifactId hartifact => ?_)
  refine (Prog.wp_bind _ _ _).mpr (wp_assignId fun routeId hroute => ?_)
  refine (Prog.wp_bind _ _ _).mpr (wp_assignId fun traceId htraceId => ?_)
  refine (Prog.wp_bind _ _ _).mpr (wp_saveAssigned (hg₂.settled hs) (hg₂.runs ▸ hid) ?_)
  intro h₃ hg₃
  obtain ⟨trace, htrace⟩ := exists_residualTrace S.platform result
  rw [htrace]
  have hwhole : Grown (· = r.taskId) h _ := hg₂.mono fun _ h => h.elim
  exact hQ _ h₃ (hwhole.trans hg₃) (.cons hartifact (.cons hroute (.cons htraceId .nil)))

theorem wp_artifactsOf {r : TaskRecord} {m : RunManifest}
    {Q : Except A2aError (List Artifact) → Home → Prop} (hs : Settled S h)
    (hid : r.taskId ∈ h.runs) (hm : (h.dir r.taskId).manifest = some m)
    (hQ : ∀ artifacts h', Grown (· = r.taskId) h h' →
      Identified A (h.dir r.taskId) r artifacts → Q (.ok artifacts) h') :
    Prog.wp (fun _ => True) A Q (artifactsOf S me r m) h := by
  unfold artifactsOf
  split
  case isTrue hsucceeded =>
    exact wp_projectArtifacts hs hid hm hsucceeded fun artifacts h' hg hids =>
      hQ artifacts h' hg fun _ _ _ => hids
  case isFalse hrunning =>
    refine hQ [] h (Grown.refl h) fun m' hm' hsucceeded => ?_
    obtain rfl := Option.some.inj (hm.symm.trans hm')
    exact absurd hsucceeded hrunning

/-- **A task of the home** can be projected. -/
theorem wp_projectTask {r : TaskRecord} {n : Nat} {Q : Except A2aError Task → Home → Prop}
    (hs : Settled S h) (hid : r.taskId ∈ h.runs)
    (hQ : ∀ task h', task.id = r.taskId → Grown (· = r.taskId) h h' →
      Identified A (h.dir r.taskId) r task.artifacts → Q (.ok task) h') :
    Prog.wp (fun _ => True) A Q (projectTask S me r n) h := by
  unfold projectTask status
  refine (Prog.wp_bind _ _ _).mpr ((Prog.wp_mapError _ _ _).mpr
    (wp_receiptForRun hs hid fun receipt h₁ _ hg₁ => ?_))
  have hs₁ := hg₁.settled hs
  refine (Prog.wp_bind _ _ _).mpr ((Prog.wp_mapError _ _ _).mpr
    (wp_loadManifest hs₁ (hg₁.runs ▸ hid) fun m h₂ hm _ hg₂ => ?_))
  have hgrown := hg₁.trans hg₂
  have hwhole : Grown (· = r.taskId) h h₂ := hgrown.mono fun _ h => h.elim
  have hm₂ : (h₂.dir r.taskId).manifest = some m := (hg₂.dir _).manifest.trans hm
  refine (Prog.wp_bind _ _ _).mpr (wp_artifactsOf (hgrown.settled hs) (hgrown.runs ▸ hid) hm₂ ?_)
  intro artifacts h₃ hg₃ hids
  have hidentified : Identified A (h.dir r.taskId) r artifacts := by
    intro m' hm'
    exact hids m' ((hgrown.dir _).manifest.trans hm')
  exact (Prog.wp_bind _ _ _).mpr
    ((Prog.wp_answer _ _).mpr fun answer _ => hQ _ h₃ rfl (hwhole.trans hg₃) hidentified)

/-- A record of a task that is no run of the home cannot be projected. -/
theorem wp_projectTask_absent {r : TaskRecord} {n : Nat} {Q : Except A2aError Task → Home → Prop}
    (hs : Settled S h) (hid : r.taskId ∉ h.runs)
    (hQ : ∀ e h', Observed h h' → Q (.error e) h') :
    Prog.wp (fun _ => True) A Q (projectTask S me r n) h := by
  unfold projectTask status
  exact (Prog.wp_bind _ _ _).mpr ((Prog.wp_mapError _ _ _).mpr
    (wp_receiptForRun_absent hs hid fun e h' hgrown => hQ _ h' hgrown))

/-- A page of tasks of the home can be projected. -/
theorem wp_projectTasks {records : List TaskRecord} {Q : Except A2aError (List Task) → Home → Prop}
    (hs : Settled S h) (hids : ∀ r ∈ records, r.taskId ∈ h.runs)
    (hQ : ∀ tasks h', tasks.map (·.id) = records.map (·.taskId) →
      Grown (· ∈ records.map (·.taskId)) h h' → Q (.ok tasks) h') :
    Prog.wp (fun _ => True) A Q (projectTasks S me records) h := by
  induction records generalizing h Q with
  | nil => exact hQ [] h rfl (Grown.refl h)
  | cons r records ih =>
    unfold projectTasks
    refine (Prog.wp_bind _ _ _).mpr (wp_projectTask hs (hids r List.mem_cons_self) ?_)
    intro task h₁ htask hg₁ _
    refine (Prog.wp_bind _ _ _).mpr (ih (hg₁.settled hs) ?_ ?_)
    · intro q hq
      rw [hg₁.runs]
      exact hids q (List.mem_cons_of_mem _ hq)
    · intro tasks h₂ htasks hg₂
      refine hQ _ h₂ ?_ ((hg₁.mono ?_).trans (hg₂.mono ?_))
      · rw [List.map_cons, List.map_cons, htask, htasks]
      · rintro id rfl
        exact List.mem_cons_self
      · exact fun id hid => List.mem_cons_of_mem _ hid

/-! ### Requests -/

theorem Observed.file {h' : Home} (hg : Observed h h') (name : String) :
    h'.tasks.file name = h.tasks.file name :=
  (hg.tasks name).resolve_right fun ⟨_, _, hfalse, _⟩ => hfalse

theorem Observed.noteLoad (taskId : String) (h : Home) : Observed h (h.noteLoad taskId) := by
  unfold Home.noteLoad
  split
  · exact Observed.touch ..
  · exact (Observed.noteRead ..).trans (Observed.touch ..)

theorem wp_loadRecord {taskId : String} {Q : Except Chain (Option TaskRecord) → Home → Prop}
    (hnone : ∀ h', h.fileFor taskId = none → Observed h h' → Q (.ok none) h')
    (hbroken : ∀ e h', h.fileFor taskId = some none → Observed h h' → Q (.error e) h')
    (hsome : ∀ r h', h.fileFor taskId = some (some r) → Observed h h' → Q (.ok (some r)) h') :
    Prog.wp (fun _ => True) A Q (loadRecord taskId) h := by
  have hread := Observed.noteLoad taskId h
  unfold loadRecord
  refine (Prog.wp_bind _ _ _).mpr ((Prog.wp_observe _ _ _).mpr ⟨trivial, ?_⟩)
  cases hfile : h.fileFor taskId with
  | none => exact hnone _ hfile hread
  | some content =>
    cases content with
    | none => exact hbroken _ _ hfile hread
    | some r => exact hsome r _ hfile hread

/-- **The record of a run** is its own or a blank one, and its file holds it then. -/
theorem wp_loadOrRecover {taskId : String} {Q : Except A2aError TaskRecord → Home → Prop}
    (hs : Settled S h) (herror : ∀ e h', taskId ∉ h.runs → Observed h h' → Q (.error e) h')
    (hok : ∀ r h', Grown (· = r.taskId) h h' → (taskId ∈ h.runs → r.taskId = taskId ∧
      h'.recordOf taskId = some (some r) ∧
      ((∃ m, r = .blank m) ∨ h.recordOf taskId = some (some r))) → Q (.ok r) h') :
    Prog.wp (fun _ => True) A Q (loadOrRecover me taskId) h := by
  -- the file of a run holds a record of that run
  have hrecord : ∀ content, taskId ∈ h.runs → h.fileFor taskId = some content →
      ∃ r, content = some r ∧ r.taskId = taskId := by
    intro content hid hcontent
    rw [fileFor_run hs (hs.ids _ hid)] at hcontent
    obtain ⟨id, -, hname, r, hr, htask⟩ := hs.records _ _ hcontent
    exact ⟨r, hr, htask.trans (Home.recordName_inj hname).symm⟩
  unfold loadOrRecover
  refine (Prog.wp_bind _ _ _).mpr ((Prog.wp_mapError _ _ _).mpr (wp_loadRecord ?_ ?_ ?_))
  · -- no record: a blank one is made up
    intro h₁ hnone hg₁
    have hs₁ := hg₁.settled hs
    by_cases hid : taskId ∈ h.runs
    · refine (Prog.wp_bind _ _ _).mpr ((Prog.wp_mapError _ _ _).mpr
        (wp_loadManifest hs₁ (hg₁.runs ▸ hid) fun m h₂ hm hrunId hg₂ => ?_))
      have hblank : (TaskRecord.blank m).taskId = taskId := hrunId
      have hmade := hg₁.trans hg₂
      refine (Prog.wp_bind _ _ _).mpr ((Prog.wp_mapError _ _ _).mpr ((Prog.wp_attempt _ _).mpr
        (wp_saveRecord (hmade.settled hs) (hblank ▸ hmade.runs ▸ hid) fun h₃ hg₃ hfile => ?_)))
      have hwhole : Grown (· = (TaskRecord.blank m).taskId) h h₂ := hmade.mono fun _ h => h.elim
      refine hok _ h₃ (hwhole.trans hg₃) fun _ => ⟨hblank, ?_, Or.inl ⟨m, rfl⟩⟩
      rw [Home.recordOf, hfile, hblank, if_pos rfl]
    · refine (Prog.wp_bind _ _ _).mpr ((Prog.wp_mapError _ _ _).mpr
        (wp_loadManifest_absent hs₁ (hg₁.runs ▸ hid) fun e h₂ hg₂ => ?_))
      exact herror _ h₂ hid (hg₁.trans hg₂)
  · intro e h₁ hbroken hg₁
    refine herror _ h₁ (fun hid => ?_) hg₁
    obtain ⟨r, hr, -⟩ := hrecord _ hid hbroken
    exact nomatch hr
  · intro r h₁ hfile hg₁
    refine hok r h₁ (hg₁.mono fun _ h => h.elim) fun hid => ?_
    obtain ⟨r', hr', htask⟩ := hrecord _ hid hfile
    obtain rfl := Option.some.inj hr'
    have hown : h.recordOf taskId = some (some r) :=
      (fileFor_run hs (hs.ids _ hid)).symm.trans hfile
    exact ⟨htask, (hg₁.file _).trans hown, Or.inr hown⟩

/-- **GetTask**, whatever it asks for, leaves records of runs under their own
    names. -/
theorem wp_getTask {params : Json} {Q : Except A2aError Task → Home → Prop} (hs : Settled S h)
    (hQ : ∀ r h', Grown (fun _ => True) h h' → Q r h') :
    Prog.wp (fun _ => True) A Q (getTask S me params) h := by
  unfold getTask
  cases textOf params "id" with
  | none => exact hQ _ h (Grown.refl h)
  | some taskId =>
    refine (Prog.wp_bind _ _ _).mpr (wp_loadOrRecover hs ?_ ?_)
    · exact fun e h₁ _ hg₁ => hQ _ h₁ (hg₁.mono fun _ _ => trivial)
    · intro r h₁ hg₁ _
      have hwhole : Grown (fun _ => True) h h₁ := hg₁.mono fun _ _ => trivial
      have hs₁ := hg₁.settled hs
      by_cases hid : r.taskId ∈ h₁.runs
      · exact wp_projectTask hs₁ hid fun task h₂ _ hg₂ _ =>
          hQ _ h₂ (hwhole.trans (hg₂.mono fun _ _ => trivial))
      · exact wp_projectTask_absent hs₁ hid fun e h₂ hg₂ =>
          hQ _ h₂ (hwhole.trans (hg₂.mono fun _ _ => trivial))

/-- **GetTask** of a run replies with its task, and there is a record then. -/
theorem wp_getTask_run {params : Json} {Q : Except A2aError Task → Home → Prop} (hs : Settled S h)
    (hid : id ∈ h.runs) (hparams : textOf params "id" = some id)
    (hQ : ∀ task h', task.id = id → Grown (· = id) h h' → (h'.recordOf id).isSome = true →
      Q (.ok task) h') :
    Prog.wp (fun _ => True) A Q (getTask S me params) h := by
  unfold getTask
  rw [hparams]
  refine (Prog.wp_bind _ _ _).mpr (wp_loadOrRecover hs ?_ ?_)
  · exact fun e h₁ habsent _ => absurd hid habsent
  · intro r h₁ hg₁ hrun
    obtain ⟨rfl, hthere, -⟩ := hrun hid
    refine wp_projectTask (hg₁.settled hs) (hg₁.runs ▸ hid) fun task h₂ htask hg₂ _ =>
      hQ task h₂ htask (hg₁.trans hg₂) (hg₂.isSome ?_)
    rw [show h₁.tasks.file _ = _ from hthere]
    rfl

/-- The ids a listing is made from: those of the records, by the names of their
    files, or those of all runs if there is no record. -/
def Listing (h : Home) (ids : List String) : Prop :=
  if h.recordNames = [] then ids.Perm h.runs else ids.map (· ++ ".json") = h.recordNames

theorem mem_recordNames {name : String} :
    name ∈ h.recordNames ↔ (h.tasks.file name).isSome = true := by
  rw [Home.recordNames, Finset.mem_sort, h.tasks.mem_names]

theorem Listing.mem_runs (hs : Settled S h) {ids : List String} (hids : Listing h ids) :
    ∀ id ∈ ids, id ∈ h.runs := by
  intro id hid
  unfold Listing at hids
  split at hids
  · exact hids.subset hid
  · have hname : id ++ ".json" ∈ h.recordNames := hids ▸ List.mem_map_of_mem hid
    obtain ⟨content, hcontent⟩ := Option.isSome_iff_exists.mp (mem_recordNames.mp hname)
    obtain ⟨q, hq, heq, -⟩ := hs.records _ _ hcontent
    exact Home.recordName_inj heq ▸ hq

/-- Every file in the directory is read as the record of its task. -/
theorem wp_readRecords {names : List String} {Q : Except Chain (List TaskRecord) → Home → Prop}
    (hs : Settled S h) (hnames : ∀ name ∈ names, name ∈ h.recordNames)
    (hQ : ∀ records h', records.map (fun r => r.taskId ++ ".json") = names → Observed h h' →
      Q (.ok records) h') :
    Prog.wp (fun _ => True) A Q (readRecords names) h := by
  induction names generalizing h Q with
  | nil => exact hQ [] h rfl (Grown.refl h)
  | cons name names ih =>
    have hname := mem_recordNames.mp (hnames name List.mem_cons_self)
    obtain ⟨content, hcontent⟩ := Option.isSome_iff_exists.mp hname
    obtain ⟨id, hid, rfl, r, rfl, htask⟩ := hs.records _ _ hcontent
    -- the name of a record is a run id with the extension
    have hextension : hasJsonExtension (id ++ ".json") = true := by
      have hlength := isRunId_length (hs.ids id hid)
      rw [hasJsonExtension, String.toList_append, Bool.and_eq_true, decide_eq_true_eq,
        decide_eq_true_eq, List.length_append]
      exact ⟨by omega, List.suffix_append _ _⟩
    unfold readRecords
    rw [if_pos hextension]
    refine (Prog.wp_bind _ _ _).mpr ((Prog.wp_observe _ _ _).mpr ⟨trivial, ?_⟩)
    have hread : Observed h ((h.noteRead (h.tasksDir ++ [id ++ ".json"])
        (h.tasks.file (id ++ ".json"))).touch (h.tasksDir ++ [id ++ ".json"])) :=
      (Observed.noteRead ..).trans (Observed.touch ..)
    refine (Prog.wp_bind _ _ _).mpr (ih (hread.settled hs) ?_ ?_)
    · intro q hq
      rw [mem_recordNames, hread.file]
      exact mem_recordNames.mp (hnames q (List.mem_cons_of_mem _ hq))
    · intro records h' hrecords hg
      rw [hcontent]
      refine hQ (r :: records) h' ?_ (hread.trans hg)
      rw [List.map_cons, hrecords, htask]

theorem Observed.recordNames {h' : Home} (hg : Observed h h') : h'.recordNames = h.recordNames := by
  have hnames : h'.tasks.names = h.tasks.names := by
    ext name
    rw [h'.tasks.mem_names, h.tasks.mem_names, hg.file]
  rw [Home.recordNames, hnames]
  rfl

theorem wp_listRecords {Q : Except Chain (List TaskRecord) → Home → Prop} (hs : Settled S h)
    (hQ : ∀ records h', records.map (fun r => r.taskId ++ ".json") = h.recordNames →
      Observed h h' → Q (.ok records) h') :
    Prog.wp (fun _ => True) A Q listRecords h := by
  have hread := Observed.touch h.tasksDir h
  unfold listRecords
  refine (Prog.wp_bind _ _ _).mpr ((Prog.wp_observe _ _ _).mpr ⟨trivial, ?_⟩)
  refine wp_readRecords (hread.settled hs) (fun name hname => ?_) fun records h' hrecords hg => ?_
  · rwa [hread.recordNames]
  · exact hQ records h' hrecords (hread.trans hg)

/-- Without a record, the runs are listed. -/
theorem wp_readManifests {ids : List String} {Q : Except Chain (List RunManifest) → Home → Prop}
    (hs : Settled S h) (hids : ∀ id ∈ ids, id ∈ h.runs)
    (hQ : ∀ manifests h', manifests.map (·.runId) = ids → Observed h h' → Q (.ok manifests) h') :
    Prog.wp (fun _ => True) A Q (readManifests ids) h := by
  induction ids generalizing h Q with
  | nil => exact hQ [] h rfl (Grown.refl h)
  | cons id ids ih =>
    have hid := hids id List.mem_cons_self
    obtain ⟨m, hm, hrunId⟩ := (hs.runs id hid).runId
    unfold readManifests readManifest
    rw [if_pos (hs.ids id hid)]
    refine (Prog.wp_bind _ _ _).mpr ((Prog.wp_observe _ _ _).mpr ⟨trivial, ?_⟩)
    have htouch := Observed.touch (h.runDir id ++ ["manifest.json"]) h
    refine (Prog.wp_bind _ _ _).mpr (ih (htouch.settled hs) ?_ ?_)
    · exact fun q hq => hids q (List.mem_cons_of_mem _ hq)
    · intro manifests h' hmanifests hg
      rw [hm]
      refine hQ _ h' ?_ (htouch.trans hg)
      simp [Option.filter, hrunId, hmanifests]

theorem wp_listManifests {Q : Except Chain (List RunManifest) → Home → Prop} (hs : Settled S h)
    (hQ : ∀ manifests h', (manifests.map (·.runId)).Perm h.runs → Observed h h' →
      Q (.ok manifests) h') :
    Prog.wp (fun _ => True) A Q listManifests h := by
  unfold listManifests readRuns
  refine (Prog.wp_bind _ _ _).mpr ((Prog.wp_observe _ _ _).mpr ⟨trivial, ?_⟩)
  have htouch := Observed.touch h.runsDir h
  refine (Prog.wp_bind _ _ _).mpr (wp_readManifests (htouch.settled hs) (fun _ hid => hid) ?_)
  intro manifests h' hmanifests hg
  refine hQ _ h' ?_ (htouch.trans hg)
  have hperm : (byCreation manifests).Perm manifests := List.mergeSort_perm _ _
  exact (hperm.map _).trans (hmanifests ▸ List.Perm.refl _)

theorem wp_listedRecords {Q : Except Chain (List TaskRecord) → Home → Prop} (hs : Settled S h)
    (hQ : ∀ records h', Listing h (records.map (·.taskId)) → Observed h h' → Q (.ok records) h') :
    Prog.wp (fun _ => True) A Q listedRecords h := by
  unfold listedRecords
  refine (Prog.wp_bind _ _ _).mpr (wp_listRecords hs fun records h₁ hrecords hg₁ => ?_)
  dsimp only
  split
  case isTrue hempty =>
    have hnone : h.recordNames = [] := by
      rw [← hrecords, List.isEmpty_iff.mp hempty]
      rfl
    refine (Prog.wp_bind _ _ _).mpr (wp_listManifests (hg₁.settled hs) ?_)
    intro manifests h₂ hmanifests hg₂
    refine hQ _ h₂ ?_ (hg₁.trans hg₂)
    rw [Listing, if_pos hnone, List.map_map, ← hg₁.runs]
    exact hmanifests
  case isFalse hthere =>
    have hsome : h.recordNames ≠ [] := by
      rw [← hrecords]
      simpa [List.isEmpty_iff] using hthere
    refine hQ _ h₁ ?_ hg₁
    rw [Listing, if_neg hsome, List.map_map]
    exact hrecords

/-! ### Pages -/

/-- Where the page after a token starts in a list of ids. -/
def startAfter (ids : List String) (token : String) : Nat :=
  if token = "" then 0 else ((ids.findIdx? (· == token)).map (· + 1)).getD 0

/-- The page after a token, and the token of the next one. -/
def idPage (ids : List String) (pageSize : Nat) (token : String) : List String × Option String :=
  let slice := (ids.drop (startAfter ids token)).take pageSize
  (slice, if startAfter ids token + slice.length < ids.length then slice.getLast? else none)

theorem pageOf_ids (records : List TaskRecord) (pageSize : Nat) (token : String) :
    ((pageOf records pageSize token).1.map (·.taskId), (pageOf records pageSize token).2)
      = idPage (records.map (·.taskId)) pageSize token := by
  have hstart : pageStart records token = startAfter (records.map (·.taskId)) token := by
    rw [pageStart, startAfter, List.findIdx?_map]
    rfl
  simp only [pageOf, idPage, hstart, List.map_take, List.map_drop, List.length_take,
    List.length_drop, List.length_map, Prod.mk.injEq, true_and]
  split
  · rw [← List.getLast?_map, List.map_take, List.map_drop]
  · rfl

/-- **ListTasks** replies with a page of the listing. -/
theorem wp_listTasks {params : Json} {Q : Except A2aError TaskPage → Home → Prop}
    (hs : Settled S h)
    (hQ : ∀ ids page h', Listing h ids →
      (page.tasks.map (·.id), page.nextPageToken)
        = idPage ids (pageSizeOf params) ((textOf params "pageToken").getD "") →
      Grown (· ∈ page.tasks.map (·.id)) h h' → Q (.ok page) h') :
    Prog.wp (fun _ => True) A Q (listTasks S me params) h := by
  unfold listTasks
  refine (Prog.wp_bind _ _ _).mpr ((Prog.wp_mapError _ _ _).mpr
    (wp_listedRecords hs fun records h₁ hlisting hg₁ => ?_))
  have hpage := pageOf_ids records (pageSizeOf params) ((textOf params "pageToken").getD "")
  -- the records of the page are those of runs
  have hids : ∀ r ∈ (pageOf records (pageSizeOf params) ((textOf params "pageToken").getD "")).1,
      r.taskId ∈ h₁.runs := by
    intro r hr
    rw [hg₁.runs]
    refine hlisting.mem_runs hs _ (List.mem_map_of_mem ?_)
    exact List.mem_of_mem_drop (List.mem_of_mem_take hr)
  refine (Prog.wp_bind _ _ _).mpr (wp_projectTasks (hg₁.settled hs) hids ?_)
  intro tasks h₂ htasks hg₂
  have hwhole : Grown (· ∈ tasks.map (·.id)) h h₂ :=
    (hg₁.mono fun _ h => h.elim).trans (htasks ▸ hg₂)
  refine hQ _ _ h₂ hlisting ?_ hwhole
  rw [← hpage]
  exact congrArg (·, _) htasks

end alone

/-! ### A home for examples -/

def sampleServer : Server where
  host := Run.sampleHost
  platform := .verbatim
  observe _ _ := .ok (.null, .null)

def firstRun : String := "01900000-0000-7000-8000-000000000001"

def secondRun : String := "01900000-0000-7000-8000-000000000002"

/-- The directory of a run with nothing but a manifest. -/
def runDirOf (id : String) (status : RunStatus) : RunDir :=
  { sampleDir status with manifest := some { sampleManifest status with runId := id } }

/-- A home with runs of one status and without records. -/
def homeOf (runs : List String) (status : RunStatus) : Home where
  root := ["srv", "quinte"]
  root_up := by decide
  runs := runs
  dir id := if id ∈ runs then runDirOf id status else { sampleDir status with manifest := none }
  tasks := .empty
  elsewhere _ := none
  isDirectory _ := false
  launchLock := none
  accessed := []
  watch := default

theorem observable_runDirOf {id : String} {status : RunStatus} (hid : isRunId id = true)
    (hstatus : RunStatus.succeeded status = false) :
    Observable sampleServer id (runDirOf id status) where
  runId := ⟨{ sampleManifest status with runId := id }, rfl, rfl⟩
  recoverable := {
    free := rfl
    sequences := rfl
    manifest := by
      refine ⟨{ sampleManifest status with runId := id }, rfl, fun hempty => ?_, fun p hp => ?_⟩
      · have hlength := isRunId_length hid
        rw [show id = "" from hempty] at hlength
        exact absurd hlength (by decide)
      · exact nomatch show none = some p from hp }
  observed _ _ _ _ := ⟨_, rfl⟩
  verified m hm hsucceeded := by
    obtain rfl : { sampleManifest status with runId := id } = m := Option.some.inj hm
    exact nomatch hstatus.symm.trans (show RunStatus.succeeded status = true from hsucceeded)

theorem settled_homeOf {runs : List String} {status : RunStatus} (hnodup : runs.Nodup)
    (hids : ∀ id ∈ runs, isRunId id = true) (hstatus : RunStatus.succeeded status = false) :
    Settled sampleServer (homeOf runs status) := by
  refine ⟨hnodup, hids, fun id hid => ?_, fun id hid => ?_, nofun, ?_⟩
  · have hdir : (homeOf runs status).dir id = runDirOf id status := if_pos hid
    rw [hdir]
    exact observable_runDirOf (hids id hid) hstatus
  · have hdir : (homeOf runs status).dir id = { sampleDir status with manifest := none } := if_neg hid
    rw [hdir]
  · rintro ⟨name, hname⟩
    exact nomatch hname

end Quinte.Wire
