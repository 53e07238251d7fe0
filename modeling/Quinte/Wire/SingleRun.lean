import Mathlib
import Quinte.Wire.AtRest
import Quinte.Wire.HomeLocks
import Quinte.Wire.Launch

/-! # One live run

    Any number of processes start runs, answer requests and work on the runs
    that were published, and each may die at any point.

    * `single_live_run`: no two runs are live;
    * `orphan_blocks_starts`: a directory without a manifest stays, and nothing
      is started beside it.
-/

namespace Quinte.Launch

open Program Wire
open Store (Protected protectedView Course InCourse custody custody_lawful course course_same
  Onward strict Sequenced)

/-! ### Creating a run -/

section creating

variable {blocked : Option String} {me : Pid} {L : Launcher} {id : String} {rs : List String}
  {m : HomeHand} {h : Home}

/-- With the launch lock in hand, and all runs `rs` at their ends, the directory
    of a new run is filled. -/
structure Creating (blocked : Option String) (id : String) (rs : List String) (m : HomeHand) :
    Prop where
  unblocked : blocked = none
  stable : (homeLocks blocked).Stable m.known
  ashore : Ashore m
  launch : ∃ f, m.held .launch = some (rs ++ [id], f) ∧ f id = some ([], false, false)
  ended : ∀ h, m.known h → ∀ q ∈ rs, Over h q

/-- The run was published, and the launch lock is in hand. -/
structure Launched (blocked : Option String) (id : String) (m : HomeHand) : Prop where
  stable : (homeLocks blocked).Stable m.known
  ashore : Ashore m
  holding : (m.held .launch).isSome = true
  published : ∀ h, m.known h → Published h id

/-- What is in hand after a part of the creation. -/
def Created (blocked : Option String) (id : String) (rs : List String) {ε α : Type} :
    Except ε α → HomeHand → Prop
  | .ok _, m => Launched blocked id m
  | .error _, m => Creating blocked id rs m

/-- What the hand says of the home. -/
structure Window (id : String) (rs : List String) (h : Home) : Prop where
  runs : h.runs = rs ++ [id]
  untouched : Untouched (h.dir id)
  alone : ∀ q, ¬Live h q

theorem Window.not_published (hw : Window id rs h) : ¬Published h id :=
  hw.untouched.not_published

theorem Creating.window {w : HomeHand} (hm : Creating blocked id rs m)
    (hlaunch : w.held .launch = m.held .launch) (hknown : ∀ h, w.known h → m.known h)
    (hh : (homeLocks blocked).Holds me w h) : Window id rs h := by
  obtain ⟨f, hheld, hid⟩ := hm.launch
  have hview : (h.runs, unpublished h) = (rs ++ [id], f) :=
    hh.view .launch _ (hlaunch.trans hheld)
  have hruns : h.runs = rs ++ [id] := congrArg Prod.fst hview
  have hdir : unpublished h id = some ([], false, false) :=
    (congrFun (congrArg Prod.snd hview) id).trans hid
  have hnot : ¬Published h id := by
    intro hpub
    rw [unpublished_of_published hpub] at hdir
    cases hdir
  have huntouched : Untouched (h.dir id) := by
    rw [unpublished_eq hnot] at hdir
    have hall := Option.some.inj hdir
    exact ⟨by simpa [Published] using hnot, congrArg Prod.fst hall,
      congrArg (fun x => x.2.1) hall, congrArg (fun x => x.2.2) hall⟩
  refine ⟨hruns, huntouched, fun q hlive => ?_⟩
  have hlisted := AtHome.listed hh.inv q hlive.published
  rw [hruns, List.mem_append, List.mem_singleton] at hlisted
  rcases hlisted with hq | rfl
  · exact (hm.ended h (hknown h hh.known) q hq).not_live hlive
  · exact hnot hlive.published

/-- A step on a directory without a manifest: the other ones stay as they are. It may
    publish the run, which is alone. -/
theorem hosts_directory {d : RunDir} (hw : Window id rs h)
    (hd : d.manifest.isSome = true → blocked = none ∧ InCourse none d) :
    Hosts blocked h (putBack id d h) := by
  have hlisted : id ∈ h.runs := by
    rw [hw.runs]
    simp
  refine ⟨fun q hpub => ?_, fun _ _ hin => hin, fun hold q hin => ?_, fun q hpub => ?_⟩
  · have hq : q ≠ id := by
      intro heq
      exact hw.not_published (heq ▸ hpub)
    rw [putBack_ne d h hq]
    exact (custody_lawful none).refl _
  · have hq : q ≠ id := by
      intro heq
      exact hin (heq ▸ hlisted)
    rw [putBack_ne d h hq]
    exact hold q hin
  · by_cases hq : q = id
    · subst hq
      rw [Published, putBack_self] at hpub
      obtain ⟨hunblocked, hcourse⟩ := hd hpub
      refine Or.inr ⟨hunblocked, ?_, hlisted, hw.alone, fun q' hpub' => ?_⟩
      · rw [putBack_self]
        exact hcourse
      · by_cases hq' : q' = q
        · exact Or.inr hq'
        · rw [Published, putBack_ne d h hq'] at hpub'
          exact Or.inl hpub'
    · rw [Published, putBack_ne d h hq] at hpub
      exact Or.inl hpub

/-- One that gives it none. -/
theorem hosts_window {d : RunDir} (hw : Window id rs h) (hd : d.manifest = none) :
    Hosts blocked h (putBack id d h) := by
  refine hosts_directory hw fun hsome => ?_
  rw [hd] at hsome
  cases hsome

/-- The launch lock protects the same. -/
theorem launch_window {d : RunDir} (hw : Window id rs h) (hd : Untouched d) :
    homeView .launch (putBack id d h) = homeView .launch h := by
  refine Prod.ext rfl (funext fun q => ?_)
  by_cases hq : q = id
  · subst hq
    refine unpublished_same ?_ ?_ ?_ ?_ <;> rw [putBack_self]
    · exact hd.manifest.trans hw.untouched.manifest.symm
    · exact hd.events.trans hw.untouched.events.symm
    · exact hd.cancelRequested.trans hw.untouched.cancelRequested.symm
    · exact hd.flagAtLock.trans hw.untouched.flagAtLock.symm
  · refine unpublished_same ?_ ?_ ?_ ?_ <;> rw [putBack_ne d h hq]

theorem protectedView_untouched {d d' : RunDir} (hd : Untouched d) (hd' : Untouched d')
    (l : Lock) : protectedView none l d = protectedView none l d' := by
  cases l with
  | run => rfl
  | manifest =>
    show (d.manifest, d.flagAtLock) = (d'.manifest, d'.flagAtLock)
    rw [hd.manifest, hd'.manifest, hd.flagAtLock, hd'.flagAtLock]
  | events => exact hd.events.trans hd'.events.symm
  | activePids => rfl

theorem Untouched.take {d : RunDir} (hd : Untouched d) (l : Lock) :
    Untouched (d.control (·.take me l)) := by
  refine ⟨hd.manifest, hd.events, hd.cancelRequested, ?_⟩
  show (if l = .manifest then d.cancelRequested else d.flagAtLock) = false
  rw [hd.cancelRequested, hd.flagAtLock, ite_self]

theorem Untouched.drop {d : RunDir} (hd : Untouched d) (l : Lock) :
    Untouched (d.control (·.drop me l)) := by
  have hdrop : d.toControl.drop me l = d.toControl ∨
      d.toControl.drop me l = { d.toControl.setLock l none with
        intent := if l = .manifest then none else d.intent
        publishing := if l = .activePids then false else d.publishing } := by
    unfold Control.drop
    split
    · exact Or.inr rfl
    · exact Or.inl rfl
  refine ⟨?_, ?_, ?_, ?_⟩
  · show (d.toControl.drop me l).manifest = none
    rcases hdrop with heq | heq <;> rw [heq] <;> exact hd.manifest
  · show (d.toControl.drop me l).events = []
    rcases hdrop with heq | heq <;> rw [heq] <;> exact hd.events
  · show (d.toControl.drop me l).cancelRequested = false
    rcases hdrop with heq | heq <;> rw [heq] <;> exact hd.cancelRequested
  · show (d.toControl.drop me l).flagAtLock = false
    rcases hdrop with heq | heq <;> rw [heq] <;> exact hd.flagAtLock

theorem harbour_putBack {d : RunDir} (hd : course d = course (h.dir id)) :
    harbour (putBack id d h) = harbour h := by
  refine Prod.ext rfl (Prod.ext (funext fun q => ?_) rfl)
  show course ((putBack id d h).dir q) = course (h.dir q)
  by_cases hq : q = id
  · subst hq
    rw [putBack_self]
    exact hd
  · rw [putBack_ne d h hq]

/-- The creator takes the manifest lock of the new directory. -/
theorem step_takeCreated (hm : Creating blocked id rs m) (hh : (homeLocks blocked).Holds me m h)
    (hfree : (h.dir id).locks .manifest = none) :
    (homeLocks blocked).Step me m h (putBack id ((h.dir id).control (·.take me .manifest)) h)
      (m.put (.run id .manifest) (some (homeView (.run id .manifest)
        (putBack id ((h.dir id).control (·.take me .manifest)) h)))) := by
  have hw := hm.window rfl (fun _ hs => hs) hh
  have hd : Untouched ((h.dir id).control (·.take me .manifest)) := hw.untouched.take .manifest
  have hmay : Hosts blocked h (putBack id ((h.dir id).control (·.take me .manifest)) h) :=
    hosts_window hw hd.manifest
  refine ⟨hmay, .take (.run id .manifest) hfree ?_ (fun l' hl' => ?_) (fun l' hl' => ?_)
    (Hand.put_self ..) fun l' hl' => Hand.put_ne _ _ hl', hm.stable,
    hm.stable _ _ hh.inv hmay hh.known⟩
  · exact (owner_putBack ..).trans ((h.dir id).toControl.take_locks_self me .manifest)
  · refine owner_putBack_same fun l heq => (h.dir id).toControl.take_locks_ne me fun hbad => ?_
    exact hl' (by rw [heq, hbad])
  · exact view_putBack_same (launch_window hw hd) fun l _ =>
      protectedView_untouched hd hw.untouched l

/-- The creator drops the manifest lock of a directory that has no manifest. -/
theorem step_dropCreated {v : Sheltered (.run id .manifest)} (hm : Creating blocked id rs m)
    (hh : (homeLocks blocked).Holds me (m.put (.run id .manifest) (some v)) h) :
    (homeLocks blocked).Step me (m.put (.run id .manifest) (some v)) h
      (putBack id ((h.dir id).control (·.drop me .manifest)) h) m := by
  have hw := hm.window (Hand.put_ne _ _ (by simp)) (fun _ hs => hs) hh
  have hd : Untouched ((h.dir id).control (·.drop me .manifest)) := hw.untouched.drop .manifest
  have hmay : Hosts blocked h (putBack id ((h.dir id).control (·.drop me .manifest)) h) :=
    hosts_window hw hd.manifest
  have howner : (h.dir id).locks .manifest = some me :=
    hh.owner (.run id .manifest) v (Hand.put_self ..)
  refine ⟨hmay, .drop (.run id .manifest) (by rw [Hand.put_self]; rfl) (fun l' hl' => ?_)
    (fun l' hl' => ?_) (hm.ashore id .manifest) fun l' hl' => (Hand.put_ne _ _ hl').symm, hm.stable,
    hm.stable _ _ hh.inv hmay hh.known⟩
  · refine owner_putBack_same fun l heq => ?_
    have hl : l ≠ .manifest := by
      intro hbad
      exact hl' (by rw [heq, hbad])
    show ((h.dir id).toControl.drop me .manifest).locks l = (h.dir id).locks l
    rw [Control.drop, if_pos howner]
    exact (h.dir id).toControl.setLock_ne none hl
  · exact view_putBack_same (launch_window hw hd) fun l _ =>
      protectedView_untouched hd hw.untouched l

/-- The hand of the creator once the run is published. -/
def launchedHand (id : String) (m : HomeHand) (h : Home) : HomeHand where
  held
    | .launch => some (homeView .launch h)
    | .run _ _ => none
  known s := m.known s ∧ Published s id

/-- A directory that gets its first manifest is on its course. -/
theorem Untouched.inCourse {d : RunDir} (hd : Untouched d) (manifest : RunManifest) :
    InCourse none { d with manifest := some manifest } := by
  refine ⟨⟨manifest, rfl⟩, ?_, ?_, fun hflag => ?_, fun _ hbinds => by cases hbinds⟩
  · show Sequenced d.events
    rw [hd.events]
    rfl
  · show (List.filterMap _ d.events).Nodup
    rw [hd.events]
    exact List.nodup_nil
  · have hfalse : d.flagAtLock = true := hflag
    rw [hd.flagAtLock] at hfalse
    cases hfalse

/-- All other locks of the runs protect the same. -/
theorem view_publish {manifest : RunManifest} {q : String} {l : Lock}
    (hl : HomeLock.run q l ≠ .run id .manifest) :
    homeView (.run q l) (putBack id { h.dir id with manifest := some manifest } h) =
      homeView (.run q l) h := by
  by_cases hq : q = id
  · subst hq
    refine (view_putBack q _ h l).trans ?_
    cases l with
    | manifest => exact absurd rfl hl
    | run => rfl
    | events => rfl
    | activePids => rfl
  · show protectedView none l _ = protectedView none l _
    rw [putBack_ne _ h hq]

/-- **The manifest is written**, and with it the run is published. -/
theorem step_publish {v : Sheltered (.run id .manifest)} {manifest : RunManifest} {h' : Home}
    (hm : Creating blocked id rs m)
    (hh : (homeLocks blocked).Holds me (m.put (.run id .manifest) (some v)) h)
    (hh' : h' = putBack id { h.dir id with manifest := some manifest } h) :
    (homeLocks blocked).Step me (m.put (.run id .manifest) (some v)) h h'
      (aboard id (launchedHand id m h') (Hand.empty.put .manifest
        (some (protectedView none .manifest (h'.dir id))))) := by
  have hw := hm.window (Hand.put_ne _ _ (by simp)) (fun _ hs => hs) hh
  have hmay : Hosts blocked h h' := by
    rw [hh']
    exact hosts_directory hw fun _ => ⟨hm.unblocked, hw.untouched.inCourse manifest⟩
  have hpub : Published h' id := by
    rw [hh', Published, putBack_self]
    rfl
  have hstable : (homeLocks blocked).Stable (launchedHand id m h').known :=
    fun s s' hinv hstep hs => ⟨hm.stable _ _ hinv hstep hs.1,
      stable_published blocked id _ _ hinv hstep hs.2⟩
  have howner : ∀ l, homeOwner l h' = homeOwner l h := by
    intro l
    rw [hh']
    exact owner_putBack_same fun l _ => rfl
  -- the launch lock, which protects what is not published, is in hand
  have hlaunch : ∀ o : Option (Sheltered (.run id .manifest)),
      (m.put (.run id .manifest) o).held .launch ≠ none := by
    intro o hnone
    obtain ⟨f, hheld, -⟩ := hm.launch
    rw [Hand.put_ne _ _ (by simp), hheld] at hnone
    cases hnone
  refine ⟨hmay, .act howner (fun l hl => ?_) fun l => ?_, ?_, ?_⟩
  · cases l with
    | launch => exact absurd hl (hlaunch _)
    | run q l =>
      have hne : HomeLock.run q l ≠ .run id .manifest := by
        intro heq
        rw [heq, Hand.put_self] at hl
        cases hl
      rw [hh']
      exact view_publish hne
  · cases l with
    | launch =>
      obtain ⟨f, hheld, -⟩ := hm.launch
      rw [Hand.put_ne _ _ (by simp), hheld]
      rfl
    | run q l =>
      by_cases hq : q = id
      · subst hq
        rw [aboard_self]
        by_cases hl : l = .manifest
        · subst hl
          rw [Hand.put_self, Hand.put_self]
          rfl
        · rw [Hand.put_ne _ _ hl, Hand.put_ne _ _ (by simpa using hl), hm.ashore q l]
          rfl
      · rw [aboard_ne _ _ _ hq, Hand.put_ne _ _ (by simp [hq]), hm.ashore q l]
        rfl
  · exact stable_aboard hstable (fun _ hs => hs.2) fun _ _ _ _ _ => trivial
  · exact ⟨⟨hm.stable _ _ hh.inv hmay hh.known, hpub⟩, trivial⟩

theorem launched_hand {h' : Home} (hm : Creating blocked id rs m) :
    Launched blocked id (launchedHand id m h') :=
  ⟨fun _ _ hinv hstep hs => ⟨hm.stable _ _ hinv hstep hs.1,
    stable_published blocked id _ _ hinv hstep hs.2⟩, fun _ _ => rfl, rfl, fun _ hs => hs.2⟩

/-- The creator drops the manifest lock of the run that it has published. -/
theorem step_dropLaunched {v : Protected .manifest} (hm : Launched blocked id m)
    (hh : (homeLocks blocked).Holds me (aboard id m (Hand.empty.put .manifest (some v))) h) :
    (homeLocks blocked).Step me (aboard id m (Hand.empty.put .manifest (some v))) h
      (putBack id ((h.dir id).control (·.drop me .manifest)) h) m := by
  have hsteady : (custody none).Stable
      ((Hand.empty : Store.RunHand).put .manifest (some v)).known := fun _ _ _ _ _ => trivial
  have hdrop := Store.step_drop (l := .manifest) (holds_aboard hm.published hsteady hh)
    (by rw [Hand.put_self]; rfl)
  have hstep := step_aboard hm.stable hm.published hh hdrop
  have hempty : (Hand.empty : Store.RunHand).put .manifest none = Hand.empty := Hand.put_held rfl
  rwa [Hand.put_put, hempty, aboard_empty id hm.ashore] at hstep

/-- **`save_manifest` publishes the run**, or leaves the directory without one. -/
theorem obeys_saveCreated {manifest : RunManifest} (hm : Creating blocked id rs m) :
    Obeys (homeLocks blocked) me (Created blocked id rs)
      (Hosted.onRun id (Store.saveManifest me manifest)) m := by
  intro h hh hen
  have hfree : (h.dir id).locks .manifest = none := of_decide_eq_true hen
  refine ⟨_, step_takeCreated hm hh hfree, ?_⟩
  -- under the lock, there is no manifest yet
  intro t ht _
  have hw := hm.window (Hand.put_ne _ _ (by simp)) (fun _ hs => hs) ht
  have hsame : harbour (putBack id (t.dir id) t) = harbour t := harbour_putBack rfl
  obtain ⟨hmay, hlocks⟩ := harbour_same blocked hsame
  refine ⟨_, .aside ht hmay (fun l => (hlocks l).1) fun l => (hlocks l).2, ?_⟩
  beta_reduce
  rw [hw.untouched.manifest]
  unfold Store.saveManifestUnlocked
  cases Schema.runManifest manifest with
  | false =>
    intro u hu _
    exact ⟨_, step_dropCreated hm hu, hm⟩
  | true =>
    intro u hu _
    refine ⟨_, step_publish hm hu rfl, ?_⟩
    -- now the lock is one on a published run
    intro w hw' _
    exact ⟨_, step_dropLaunched (launched_hand hm) hw', launched_hand hm⟩

/-- An input is written. -/
theorem obeys_input {update : RunDir → RunDir} {α : Type} {Q : Except Chain α → HomeHand → Prop}
    {f : Unit → Hosted α} (hupdate : ∀ d, course (update d) = course d)
    (hf : Obeys (homeLocks blocked) me Q (f ()) m) :
    Obeys (homeLocks blocked) me Q (Hosted.onRun id (Prog.modify update) >>= f) m := by
  intro h hh _
  have hsame : harbour (putBack id (update (h.dir id)) h) = harbour h :=
    harbour_putBack (hupdate _)
  obtain ⟨hmay, hlocks⟩ := harbour_same blocked hsame
  exact ⟨m, .aside hh hmay (fun l => (hlocks l).1) fun l => (hlocks l).2, hf⟩

theorem schema_created {e : Event} (hversion : e.eventVersion = "1.0") (hseq : 1 ≤ e.sequence)
    (hid : isRunId e.runId = true) (htype : e.eventType = "run.created")
    (hattempt : e.attempt = none) : Schema.runEvent e = true := by
  have hrun : e.runId ≠ "" := by
    intro heq
    have hlength := isRunId_length hid
    rw [heq] at hlength
    cases hlength
  simp [Schema.runEvent, hversion, hseq, hrun, htype, hattempt]

theorem one_le_nextSequence (events : List Event) : 1 ≤ Store.nextSequence events := by
  unfold Store.nextSequence
  split <;> omega

/-- **`run.created` is always appended**. -/
theorem obeys_createdEvent {host : Host} {policy : Policy} {brief : Brief}
    (hid : isRunId id = true) : Obeys (custody none) me
      (fun r k => (∃ e, r = .ok e) ∧ Onward none strict (fun _ => True) Hand.empty k)
      (createdEvent me host id policy brief) Hand.empty := by
  have hm : Store.Steady none Hand.empty := fun _ _ _ _ _ => trivial
  refine Obeys.answer fun now => Store.obeys_withLock fun events hnone => ?_
  refine Store.obeys_readEvents (Hand.put_self ..) fun hsequenced => ?_
  refine Obeys.ensure (fun _ => ?_) fun hbad => ?_
  · refine Store.obeys_appendEvent (Hand.put_self ..) rfl hsequenced (fun id hid => by cases hid) ?_
    rw [Hand.put_put]
    exact ⟨by rw [Hand.put_self]; rfl, ⟨_, rfl⟩,
      Store.Onward.drop hnone (Store.Onward.refl hm fun _ _ => trivial)⟩
  · have hvalid := hbad.symm.trans (schema_created rfl (one_le_nextSequence events) hid rfl rfl)
    cases hvalid

/-- **Creation**: the run is published, or the directory is still without a
    manifest. -/
theorem obeys_creation {policy : Policy} {brief : Brief} (hid : isRunId id = true)
    (hm : Creating blocked id rs m) :
    Obeys (homeLocks blocked) me (Created blocked id rs) (creation L me id policy brief) m := by
  refine obeys_input (fun _ => rfl) (obeys_input (fun _ => rfl) ?_)
  refine Obeys.ofExcept (fun copied _ => ?_) fun _ _ => hm
  refine obeys_input (fun _ => rfl) (Obeys.answer fun now => ?_)
  refine Obeys.bind ((obeys_saveCreated hm).mono fun r k hk => ?_)
  cases r with
  | error e => exact hk
  | ok _ =>
    have hlaunched : Launched blocked id k := hk
    have hsteady : (custody none).Stable (Hand.empty : Store.RunHand).known :=
      fun _ _ _ _ _ => trivial
    have hcreated : Obeys (custody none) me
        (fun r k => (∃ e, r = .ok e) ∧ Onward none strict (fun _ => True) Hand.empty k)
        (createdEvent me L.server.host id policy brief) Hand.empty := obeys_createdEvent hid
    have hevent := obeys_aboard hlaunched.stable hlaunched.published hsteady hcreated
    rw [aboard_empty id hlaunched.ashore] at hevent
    refine Obeys.bind (Obeys.mapError (hevent.mono fun r w hw => ?_))
    obtain ⟨k', rfl, hk', ⟨e, rfl⟩, honward⟩ := hw
    have hheld : (aboard id k k').held = k.held :=
      aboard_held hlaunched.ashore fun l => honward.same l
    exact ⟨stable_aboard hlaunched.stable hlaunched.published hk',
      fun q l => (congrFun hheld _).trans (hlaunched.ashore q l),
      (congrArg Option.isSome (congrFun hheld .launch)).trans hlaunched.holding,
      fun h hh => hlaunched.published h hh.1⟩

/-! ### The directory -/

/-- What a start has in hand after its scan. -/
structure Scanned (blocked : Option String) (rs : List String) (m : HomeHand) : Prop where
  stable : (homeLocks blocked).Stable m.known
  ashore : Ashore m
  launch : ∃ f, m.held .launch = some (rs, f)
  ended : ∀ h, m.known h → ∀ q ∈ rs, Over h q

/-- The launch lock is in hand. -/
structure Holding (blocked : Option String) (m : HomeHand) : Prop where
  stable : (homeLocks blocked).Stable m.known
  ashore : Ashore m
  holding : (m.held .launch).isSome = true

theorem Scanned.holding (hm : Scanned blocked rs m) : Holding blocked m := by
  obtain ⟨f, hheld⟩ := hm.launch
  exact ⟨hm.stable, hm.ashore, by rw [hheld]; rfl⟩

theorem Launched.held (hm : Launched blocked id m) : Holding blocked m :=
  ⟨hm.stable, hm.ashore, hm.holding⟩

theorem Scanned.runs (hm : Scanned blocked rs m) (hh : (homeLocks blocked).Holds me m h) :
    h.runs = rs := by
  obtain ⟨f, hheld⟩ := hm.launch
  have hview : (h.runs, unpublished h) = (rs, f) := hh.view .launch _ hheld
  exact congrArg Prod.fst hview

/-- A directory that was left behind would have stopped the scan. -/
theorem Scanned.unblocked (hm : Scanned blocked rs m) (hh : (homeLocks blocked).Holds me m h) :
    blocked = none := by
  cases blocked with
  | none => rfl
  | some b =>
    obtain ⟨hin, hnot⟩ := AtHome.blocked hh.inv b rfl
    rw [hm.runs hh] at hin
    exact absurd (hm.ended h hh.known b hin).published hnot

theorem untouched_clear (d : RunDir) : Untouched (clear d) :=
  ⟨rfl, rfl, rfl, rfl⟩

/-- The list of the runs changes, and the directory of a run that has no
    manifest is cleared. -/
theorem hosts_cleared {runs : List String} (hd : Untouched (h.dir id))
    (hothers : ∀ q, q ≠ id → (q ∈ runs ↔ q ∈ h.runs)) (hunblocked : blocked = none) :
    Hosts blocked h { h.setDir id (clear (h.dir id)) with runs := runs } := by
  have hdir : ∀ q, q ≠ id → (h.setDir id (clear (h.dir id))).dir q = h.dir q :=
    fun q hq => Home.setDir_dir_ne _ h hq
  have hpub : ∀ q, Published (h.setDir id (clear (h.dir id))) q → Published h q := by
    intro q hq
    by_cases hne : q = id
    · rw [hne, Published, Home.setDir_dir_self] at hq
      cases hq
    · rw [Published, hdir q hne] at hq
      exact hq
  refine ⟨fun q hq => ?_, fun q hq hin => ?_, fun hold q hin => ?_, fun q hq => Or.inl (hpub q hq)⟩
  · have hne : q ≠ id := by
      intro heq
      exact hd.not_published (heq ▸ hq)
    show Course none (h.dir q) ((h.setDir id (clear (h.dir id))).dir q)
    rw [hdir q hne]
    exact (custody_lawful none).refl _
  · have hne : q ≠ id := by
      rcases hq with hq | hq
      · intro heq
        exact hd.not_published (heq ▸ hq)
      · rw [hunblocked] at hq
        cases hq
    exact (hothers q hne).mpr hin
  · show Untouched ((h.setDir id (clear (h.dir id))).dir q)
    by_cases hne : q = id
    · rw [hne, Home.setDir_dir_self]
      exact untouched_clear _
    · rw [hdir q hne]
      exact hold q fun hbad => hin ((hothers q hne).mpr hbad)

/-- All that it changes is under the launch lock. -/
theorem step_cleared {runs : List String} (hheld : (m.held .launch).isSome = true)
    (hh : (homeLocks blocked).Holds me m h)
    (hd : Untouched (h.dir id)) (hothers : ∀ q, q ≠ id → (q ∈ runs ↔ q ∈ h.runs))
    (hunblocked : blocked = none) {h' : Home}
    (hh' : h' = { h.setDir id (clear (h.dir id)) with runs := runs }) :
    (homeLocks blocked).Step me m h h' (m.put .launch (some (homeView .launch h'))) := by
  subst hh'
  refine hh.write (hosts_cleared hd hothers hunblocked) (fun l => ?_) hheld fun l hl => ?_
  · cases l with
    | launch => rfl
    | run q l =>
      show ((h.setDir id (clear (h.dir id))).dir q).locks l = (h.dir q).locks l
      by_cases hq : q = id
      · rw [hq, Home.setDir_dir_self]
        rfl
      · rw [Home.setDir_dir_ne _ h hq]
  · cases l with
    | launch => exact absurd rfl hl
    | run q l =>
      show protectedView none l ((h.setDir id (clear (h.dir id))).dir q) =
        protectedView none l (h.dir q)
      by_cases hq : q = id
      · rw [hq, Home.setDir_dir_self]
        exact protectedView_untouched (untouched_clear _) hd l
      · rw [Home.setDir_dir_ne _ h hq]

/-- `cleanup_unpublished_run_dir` after a creation that has failed. -/
theorem obeys_cleanUpAfter {α : Type} {e : Chain} {Q : Except Chain α → HomeHand → Prop}
    (hm : Creating blocked id rs m) (hQ : ∀ e k, Holding blocked k → Q (.error e) k) :
    Obeys (homeLocks blocked) me Q (cleanUpAfter id e) m := by
  have hholding : Holding blocked m := by
    obtain ⟨f, hheld, -⟩ := hm.launch
    exact ⟨hm.stable, hm.ashore, by rw [hheld]; rfl⟩
  refine Obeys.bind (Obeys.attempt ?_)
  refine Obeys.read (homeLocks_lawful blocked) fun h hh => ?_
  split
  case isFalse => exact hQ _ _ hholding
  case isTrue =>
    refine Obeys.read (homeLocks_lawful blocked) fun t ht => ?_
    refine Obeys.ensure (fun _ => ?_) fun _ => hQ _ _ hholding
    refine Obeys.modify_end fun u hu => ?_
    have hw := hm.window rfl (fun _ hs => hs) hu
    refine ⟨_, step_cleared hholding.holding hu hw.untouched (fun q hq => ?_)
      hm.unblocked rfl, hQ _ _ ⟨hm.stable, fun q l => ?_, by rw [Hand.put_self]; rfl⟩⟩
    · simp [hq]
    · exact (Hand.put_ne _ _ (by simp)).trans (hm.ashore q l)

/-- **`create_from_brief_bytes`** under the launch lock, after the scan. -/
theorem obeys_createdRun {policy : Policy} {brief : Brief} (hid : isRunId id = true)
    (hm : Scanned blocked rs m) : Obeys (homeLocks blocked) me
      (fun r k => Holding blocked k ∧ ∀ a, r = .ok a → ∀ h, k.known h → Published h a)
      (createdRun L me id policy brief) m := by
  intro h hh _
  have htouched : harbour (h.touch (h.runDir id)) = harbour h := rfl
  obtain ⟨hmay, hlocks⟩ := harbour_same blocked htouched
  refine ⟨m, .aside hh hmay (fun l => (hlocks l).1) fun l => (hlocks l).2, ?_⟩
  show Obeys _ _ _ ((createRunDirs id).attempt >>= _) m
  refine Obeys.bind (Obeys.attempt ?_)
  intro t ht _
  have hruns : h.runs = rs := hm.runs hh
  have hruns' : t.runs = rs := hm.runs ht
  by_cases hin : id ∈ rs
  · -- the directory was there before, and stays
    rw [← hruns'] at hin
    simp only [if_pos hin]
    refine ⟨m, .aside ht ((homeLocks_lawful blocked).refl t) (fun _ => rfl) fun _ => rfl, ?_⟩
    have hexisted : decide (id ∈ h.runs) = true := by
      rw [hruns, ← hruns']
      exact decide_eq_true hin
    show Obeys _ _ _ (if decide (id ∈ h.runs) = true then _ else _) m
    rw [if_pos hexisted]
    exact ⟨hm.holding, fun _ hr => by cases hr⟩
  · have hnot : id ∉ t.runs := by rwa [hruns']
    simp only [if_neg hnot]
    have hd : Untouched (t.dir id) := AtHome.untouched ht.inv id hnot
    have hadded : Home.addRun id t =
        { t.setDir id (clear (t.dir id)) with runs := t.runs ++ [id] } := rfl
    have hview : homeView .launch (Home.addRun id t) =
        (rs ++ [id], unpublished (Home.addRun id t)) :=
      Prod.ext (by rw [← hruns']; rfl) rfl
    refine ⟨_, step_cleared hm.holding.holding ht hd (fun q hq => by simp [hq])
      (hm.unblocked ht) hadded, ?_⟩
    have hcreating : Creating blocked id rs
        (m.put .launch (some (homeView .launch (Home.addRun id t)))) := by
      have hdir : (Home.addRun id t).dir id = clear (t.dir id) := Home.setDir_dir_self ..
      have hempty : ¬ Published (Home.addRun id t) id := by
        rw [Published, hdir]
        exact Bool.noConfusion
      refine ⟨hm.unblocked ht, hm.stable, fun q l => ?_,
        ⟨unpublished (Home.addRun id t), ?_, ?_⟩, hm.ended⟩
      · exact (Hand.put_ne _ _ (by simp)).trans (hm.ashore q l)
      · rw [Hand.put_self, hview]
        rfl
      · rw [unpublished_eq hempty, hdir]
        rfl
    refine Obeys.bind (Obeys.attempt ((obeys_creation hid hcreating).mono fun r k hk => ?_))
    cases r with
    | error e =>
      exact obeys_cleanUpAfter hk fun _ _ hholding => ⟨hholding, fun _ hr => by cases hr⟩
    | ok _ =>
      have hlaunched : Launched blocked id k := hk
      refine ⟨hlaunched.held, fun a hr h hknown => ?_⟩
      cases hr
      exact hlaunched.published h hknown

/-- **`create_from_brief_bytes`**. -/
theorem obeys_createFromBriefBytes {policy : Policy} {bytes : Finance.Bytes}
    (hm : Scanned blocked rs m) : Obeys (homeLocks blocked) me (fun _ k => Holding blocked k)
      (createFromBriefBytes L me policy bytes) m := by
  refine Obeys.ofExcept (fun brief _ => ?_) fun _ _ => hm.holding
  refine Obeys.ofExcept (fun _ _ => ?_) fun _ _ => hm.holding
  refine Obeys.answer fun id => Obeys.ensure (fun hid => ?_) fun _ => hm.holding
  exact (obeys_createdRun hid hm).mono fun _ _ hk => hk.1

end creating

/-! ### Under the launch lock -/

section launching

variable {blocked : Option String} {me : Pid} {L : Launcher} {S : Server} {m : HomeHand}
  {K : Home → Prop} {α β ε : Type}

/-- A courteous program keeps the launch lock. -/
theorem Courteous.holding {P : α → Home → Prop} {p : Prog Home Answer ε α}
    (hp : Courteous blocked me (fun _ => True) P p) (hm : Holding blocked m) :
    Obeys (homeLocks blocked) me (fun _ k => Holding blocked k) p m := by
  refine (hp m hm.stable hm.ashore fun _ _ => trivial).mono fun r k hk => ?_
  have hheld : k.held .launch = m.held .launch := congrFun hk.held _
  exact ⟨hk.stable, hk.ashore hm.ashore, by rw [hheld, hm.holding]⟩

/-- **The scan under the launch lock**: where it finds no active run, all runs
    of the home have ended. -/
theorem obeys_activeManifests (hm : Holding blocked m) : Obeys (homeLocks blocked) me
    (fun r k => Holding blocked k ∧
      ∀ active, r = .ok active → active.isEmpty = true → ∃ rs, Scanned blocked rs k)
    (activeManifests me) m := by
  obtain ⟨v, hv⟩ := Option.isSome_iff_exists.mp hm.holding
  intro h hh _
  have htouched : harbour (h.touch h.runsDir) = harbour h := rfl
  obtain ⟨hmay, hlocks⟩ := harbour_same blocked htouched
  refine ⟨m, .aside hh hmay (fun l => (hlocks l).1) fun l => (hlocks l).2, ?_⟩
  have hview : (h.runs, unpublished h) = v := hh.view .launch v hv
  have hscan : Courteous blocked me (fun _ => True) (Surveyed h.runs) (scanManifests me h.runs) :=
    courteous_scanManifests
  show Obeys _ _ _ (scanManifests me h.runs >>= fun found => pure (byCreation found)) m
  refine Obeys.bind ((hscan m hm.stable hm.ashore fun _ _ => trivial).mono fun r k hk => ?_)
  have hheld : k.held .launch = some v := (congrFun hk.held _).trans hv
  have hholding : Holding blocked k := ⟨hk.stable, hk.ashore hm.ashore, by rw [hheld]; rfl⟩
  cases r with
  | error e => exact ⟨hholding, fun _ hr => by cases hr⟩
  | ok found =>
    refine ⟨hholding, fun active hr hnone => ?_⟩
    obtain rfl := Except.ok.inj hr
    refine ⟨h.runs, hk.stable, hk.ashore hm.ashore, ⟨unpublished h, ?_⟩, fun t ht => ?_⟩
    · rw [hheld, ← hview]
      rfl
    · exact (hk.known t ht).2.ended (byCreation_isEmpty hnone)

/-- What `start` does where no worker was launched. -/
theorem courteous_recordLaunchFailure {invocationId id : String} {e : Chain}
    (hK : ∀ h, K h → Published h id) :
    Courteous blocked me K (fun _ _ => True)
      (recordLaunchFailure (α := α) me invocationId id e) := by
  refine (courteous_onRun hK Run.orderly_recordWorkerFailure).attempt.ends.seq fun recorded => ?_
  refine (courteous_loadManifest).attempt.ends.seq fun _ => ?_
  refine (courteous_persistReceipt).attempt.ends.seq fun receipt => ?_
  refine Courteous.seq (P := fun _ _ => True)
    (Courteous.of_leaves ((leaves_observe _ _).mpr fun _ => rfl)) fun root => Courteous.throw

/-- **`start` after the scan**. -/
theorem obeys_launch {rs : List String} {invocationId : String} {policy : Policy}
    {brief : Except Chain Finance.Bytes} (hm : Scanned blocked rs m) :
    Obeys (homeLocks blocked) me (fun _ k => Holding blocked k)
      (launch L me invocationId policy brief) m := by
  refine Obeys.ofExcept (fun bytes _ => ?_) fun _ _ => hm.holding
  refine Obeys.bind ((obeys_createFromBriefBytes hm).mono fun r k hk => ?_)
  cases r with
  | error e => exact hk
  | ok id =>
    refine Courteous.holding (P := fun _ _ => True) ?_ hk
    refine (courteous_loadManifest).bind fun manifest => ?_
    refine (courteous_persistReceipt).mapError.seq fun _ => ?_
    cases L.spawn with
    | error e => exact courteous_recordLaunchFailure fun h hh => hh.2.2.1
    | ok _ =>
      exact (courteous_persistReceipt).mapError.seq fun _ => Courteous.pure fun _ _ => trivial

/-! ### Guests -/

/-- No lock is in hand. -/
structure EmptyHanded (blocked : Option String) (m : HomeHand) : Prop where
  stable : (homeLocks blocked).Stable m.known
  free : ∀ l, m.held l = none

theorem EmptyHanded.ashore (hm : EmptyHanded blocked m) : Ashore m :=
  fun _ _ => hm.free _

variable (blocked me) in
/-- A program that does what the home allows, and comes and goes empty-handed. -/
def Guest (p : Prog Home Answer ε α) : Prop :=
  ∀ m, EmptyHanded blocked m →
    Obeys (homeLocks blocked) me (fun _ k => EmptyHanded blocked k) p m

theorem Courteous.guest {P : α → Home → Prop} {p : Prog Home Answer ε α}
    (hp : Courteous blocked me (fun _ => True) P p) : Guest blocked me p := by
  intro m hm
  refine (hp m hm.stable hm.ashore fun _ _ => trivial).mono fun r k hk => ?_
  exact ⟨hk.stable, fun l => (congrFun hk.held l).trans (hm.free l)⟩

theorem Guest.seq {p : Prog Home Answer ε α} {f : α → Prog Home Answer ε β}
    (hp : Guest blocked me p) (hf : ∀ a, Guest blocked me (f a)) : Guest blocked me (p >>= f) := by
  intro m hm
  refine Obeys.bind ((hp m hm).mono fun r k hk => ?_)
  cases r with
  | error e => exact hk
  | ok a => exact hf a k hk

theorem Guest.attempt {p : Prog Home Answer ε α} (hp : Guest blocked me p) :
    Guest blocked me p.attempt :=
  fun m hm => Obeys.attempt (hp m hm)

theorem Guest.mapError {ε' : Type} {f : ε → ε'} {p : Prog Home Answer ε α}
    (hp : Guest blocked me p) : Guest blocked me (p.mapError f) :=
  fun m hm => Obeys.mapError (hp m hm)

theorem Guest.ends {p : Prog Home Answer ε α} (hp : Guest blocked me p) :
    Guest blocked me (p >>= fun _ => pure ()) :=
  hp.seq fun _ _ hm => hm

/-- The launch lock changes hands. -/
theorem launchLock_same (blocked : Option String) {h h' : Home} (hruns : h'.runs = h.runs)
    (hdir : h'.dir = h.dir) : Hosts blocked h h' ∧
      (∀ l, l ≠ .launch → homeOwner l h' = homeOwner l h) ∧
      ∀ l, homeView l h' = homeView l h := by
  have hpub : ∀ q, Published h' q ↔ Published h q := fun q => by rw [Published, Published, hdir]
  refine ⟨⟨fun q _ => ?_, fun q _ hin => by rwa [hruns], fun hold q hin => ?_,
    fun q hq => Or.inl ((hpub q).mp hq)⟩, fun l hl => ?_, fun l => ?_⟩
  · rw [hdir]
    exact (custody_lawful none).refl _
  · rw [hruns] at hin
    rw [hdir]
    exact hold q hin
  · cases l with
    | launch => exact absurd rfl hl
    | run q l => exact congrArg (fun d => (d q).locks l) hdir
  · cases l with
    | launch =>
      have hsame : unpublished h' = unpublished h :=
        funext fun q => unpublished_same (by rw [hdir]) (by rw [hdir]) (by rw [hdir]) (by rw [hdir])
      exact Prod.ext hruns hsame
    | run q l => exact congrArg (fun d => protectedView none l (d q)) hdir

/-- **`acquire_host_lock`** around what keeps the lock. -/
theorem guest_withHostLock {contended : String} {p : Hosted α}
    (hp : ∀ m, Holding blocked m →
      Obeys (homeLocks blocked) me (fun _ k => Holding blocked k) p m) :
    Guest blocked me (withHostLock me contended p) := by
  intro m hm h hh _
  by_cases hfree : h.launchLock = none
  · -- the lock is taken, and given back at the end
    have htaken : Home.takeLaunch me h = { h with launchLock := some me } := if_pos hfree
    have hruns : (Home.takeLaunch me h).runs = h.runs := by rw [htaken]
    have hdir : (Home.takeLaunch me h).dir = h.dir := by rw [htaken]
    obtain ⟨hmay, hothers, hsame⟩ := launchLock_same blocked hruns hdir
    have hstep : (homeLocks blocked).Step me m h (Home.takeLaunch me h)
        (m.put .launch (some (homeView .launch (Home.takeLaunch me h)))) :=
      ⟨hmay, .take .launch hfree (by rw [htaken]; rfl) hothers (fun l _ => hsame l)
        (Hand.put_self ..) fun l hl => Hand.put_ne _ _ hl, hm.stable,
        hm.stable _ _ hh.inv hmay hh.known⟩
    refine ⟨_, hstep, ?_⟩
    have hholding :
        Holding blocked (m.put .launch (some (homeView .launch (Home.takeLaunch me h)))) :=
      ⟨hm.stable, fun q l => (Hand.put_ne _ _ (by simp)).trans (hm.free _),
        by rw [Hand.put_self]; rfl⟩
    simp only [if_pos hfree]
    show Obeys _ _ _ (p.attempt >>= fun r => Prog.modify (Home.dropLaunch me) >>= fun _ =>
      Prog.ofExcept r) _
    refine Obeys.bind (Obeys.attempt ((hp _ hholding).mono fun r k hk => ?_))
    refine Obeys.modify fun t ht => ?_
    obtain ⟨v, hv⟩ := Option.isSome_iff_exists.mp hk.holding
    have hmine : t.launchLock = some me := ht.owner .launch v hv
    have hdropped : Home.dropLaunch me t = { t with launchLock := none } := if_pos hmine
    have hruns' : (Home.dropLaunch me t).runs = t.runs := by rw [hdropped]
    have hdir' : (Home.dropLaunch me t).dir = t.dir := by rw [hdropped]
    obtain ⟨hmay', hothers', hsame'⟩ := launchLock_same blocked hruns' hdir'
    have hdrop : (homeLocks blocked).Step me k t (Home.dropLaunch me t) (k.put .launch none) :=
      ⟨hmay', .drop .launch hk.holding hothers' (fun l _ => hsame' l) (Hand.put_self ..)
        fun l hl => Hand.put_ne _ _ hl, hk.stable, hk.stable _ _ ht.inv hmay' ht.known⟩
    have hempty : EmptyHanded blocked (k.put .launch none) := by
      refine ⟨hk.stable, fun l => ?_⟩
      cases l with
      | launch => exact Hand.put_self ..
      | run q l => exact (Hand.put_ne _ _ (by simp)).trans (hk.ashore q l)
    refine ⟨_, hdrop, ?_⟩
    cases r with
    | ok a => exact hempty
    | error e => exact hempty
  · -- another process has the lock
    have hkept : Home.takeLaunch me h = h := if_neg hfree
    refine ⟨m, ?_, ?_⟩
    · rw [hkept]
      exact .aside hh ((homeLocks_lawful blocked).refl h) (fun _ => rfl) fun _ => rfl
    · simp only [if_neg hfree]
      exact hm

/-- **`host::start`**. -/
theorem guest_start {brief : Except Chain Finance.Bytes} : Guest blocked me (start L me brief) := by
  refine guest_withHostLock fun m hm => Obeys.answer fun invocationId => ?_
  refine Obeys.ofExcept (fun policy _ => ?_) fun _ _ => hm
  refine Obeys.ensure (fun _ => ?_) fun _ => hm
  refine Obeys.bind ((obeys_activeManifests hm).mono fun r k hk => ?_)
  cases r with
  | error e => exact hk.1
  | ok active =>
    refine Obeys.ensure (fun hnone => ?_) fun _ => hk.1
    obtain ⟨rs, hscanned⟩ := hk.2 active rfl hnone
    exact obeys_launch hscanned

theorem courteous_selectManifest {runId durable : Option String} {active : List RunManifest}
    (hK : ∀ h, K h → ∀ manifest ∈ active, Published h manifest.runId) :
    Courteous blocked me K (fun selected h => ∀ manifest, selected = some manifest →
      Published h manifest.runId) (selectManifest me runId active durable) := by
  have hloaded : ∀ id, Courteous blocked me K (fun selected h => ∀ manifest,
      selected = some manifest → Published h manifest.runId) (some <$> loadManifest me id) := by
    intro id
    refine (courteous_loadManifest).bind fun loaded => Courteous.pure fun h hh manifest hm => ?_
    obtain rfl := Option.some.inj hm
    rw [hh.2.1]
    exact hh.2.2.1
  unfold selectManifest
  split
  · exact hloaded _
  · refine Courteous.pure fun h hh manifest hm => ?_
    obtain rfl := Option.some.inj hm
    exact hK h hh _ (List.mem_singleton_self _)
  · split
    · exact hloaded _
    · exact Courteous.pure fun _ _ _ hm => by cases hm
  · exact Courteous.pure fun _ _ _ hm => by cases hm

/-- **`host::reconcile`**. -/
theorem guest_reconcile {contended : String} {latest : Except Chain (Option String)}
    {runId : Option String} : Guest blocked me (reconcile S me contended latest runId) := by
  refine guest_withHostLock fun m hm => Courteous.holding (P := fun _ _ => True) ?_ hm
  refine Courteous.answer.seq fun invocationId => (courteous_activeManifests).bind fun active => ?_
  refine Courteous.ofExcept.seq fun durable => Courteous.ensure.seq fun _ => ?_
  refine (courteous_selectManifest fun h hh => hh.2).bind fun selected => ?_
  cases selected with
  | none => exact (courteous_persistReceipt).seq fun _ => Courteous.pure fun _ _ => trivial
  | some manifest =>
    refine (courteous_verifiedResult fun h hh => hh.2 manifest rfl).seq fun result => ?_
    exact (courteous_persistReceipt).seq fun _ => Courteous.pure fun _ _ => trivial

/-! ### `SendMessage` -/

theorem courteous_waitUntilInterruptible {id : String} {n : Nat} :
    Courteous blocked me K (fun _ _ => True) (waitUntilInterruptible me id n) := by
  induction n with
  | zero => exact Courteous.pure fun _ _ => trivial
  | succ n ih =>
    refine (courteous_loadManifest).attempt.ends.seq fun loaded => ?_
    cases loaded with
    | error e => exact ih
    | ok manifest =>
      show Courteous _ _ _ _ (if _ then _ else _)
      split
      · exact Courteous.pure fun _ _ => trivial
      · exact ih

theorem courteous_activeRunIds : Courteous blocked me K (fun _ _ => True) activeRunIds :=
  (courteous_listManifests).seq fun _ => Courteous.pure fun _ _ => trivial

theorem courteous_mapStartError {e : Chain} :
    Courteous blocked me K (fun _ _ => True) (mapStartError (α := α) e) := by
  unfold mapStartError
  split
  · refine (courteous_activeRunIds).attempt.ends.mapError.seq fun active => ?_
    cases active with
    | error e => exact Courteous.throw
    | ok ids => exact Courteous.throw
  · split
    · exact Courteous.throw
    · exact Courteous.throw

/-- **`continue_task`**. -/
theorem courteous_continueTask {params message : Json} {taskId : String} :
    Courteous blocked me K (fun _ _ => True) (continueTask L me params message taskId) := by
  refine (courteous_loadManifest).mapError.bind fun manifest => Courteous.ensure.seq fun _ => ?_
  cases verdictPart message with
  | none => exact Courteous.throw
  | some part =>
    refine Courteous.answer.seq fun name => (courteous_writeFile).mapError.seq fun _ => ?_
    refine Courteous.ofExcept.mapError.seq fun verdict => ?_
    refine (courteous_onRun (fun h hh => hh.2.2.1) (Run.tidy_submitPrimaryArbiterVerdict
      fun _ h => by cases h)).mapError.seq fun _ => ?_
    exact (courteous_loadOrRecover).seq fun record => courteous_projectTask

theorem guest_startTask {params message : Json} :
    Guest blocked me (startTask L me params message) := by
  refine Courteous.ofExcept.guest.seq fun brief => ?_
  refine (courteous_activeRunIds).mapError.guest.seq fun active => ?_
  refine Courteous.ensure.guest.seq fun _ => Courteous.answer.guest.seq fun name => ?_
  refine (courteous_writeFile).mapError.guest.seq fun _ => ?_
  refine (guest_start).attempt.mapError.seq fun started => ?_
  cases started with
  | error e => exact (courteous_mapStartError).guest
  | ok id =>
    refine Courteous.answer.guest.seq fun now => ?_
    refine (courteous_saveRecord).mapError.guest.seq fun _ => ?_
    show Guest _ _ (if _ then _ else _)
    split
    · exact (courteous_waitUntilInterruptible).mapError.guest.seq fun _ =>
        (courteous_projectTask).guest
    · exact (courteous_projectTask).guest

/-- **`send_message`**. -/
theorem guest_sendMessage {params : Json} : Guest blocked me (sendMessage L me params) := by
  unfold sendMessage
  split
  · exact Courteous.throw.guest (P := fun _ _ => True)
  · split
    · exact (courteous_continueTask).guest
    · exact guest_startTask

end launching

/-! ### Runs of a home -/

/-- A command on a run. Each loads the manifest first, and ends where there is
    none. -/
def onPublished (id : String) (p : Proc Unit) : Wired Unit := do
  if ← Prog.read fun h => (h.dir id).manifest.isSome then
    (Hosted.onRun id p).mapError internal
  else Prog.throw (.plain errInternal ("unknown or invalid run " ++ id))

/-- What a process of a home may run. `quinte run`, which starts a run without
    the launch lock, is left out. -/
inductive HostCommand (me : Pid) : Wired Unit → Prop where
  | start (L : Launcher) (brief : Except Chain Finance.Bytes) :
      HostCommand me ((start L me brief).mapError internal >>= fun _ => pure ())
  | reconcile (S : Server) (contended : String) (latest : Except Chain (Option String))
      (runId : Option String) :
      HostCommand me ((reconcile S me contended latest runId).mapError internal
        >>= fun _ => pure ())
  | observe (S : Server) (operation id : String) :
      HostCommand me ((receiptForRun S me operation id).mapError internal >>= fun _ => pure ())
  | send (L : Launcher) (params : Json) :
      HostCommand me (sendMessage L me params >>= fun _ => pure ())
  | request (S : Server) (request : Request) : HostCommand me (request.respond S me)
  | command (id : String) (p : Proc Unit) (h : Run.RunCommand me p) :
      HostCommand me (onPublished id p)

/-- **Every command of a home** does what the home allows. -/
theorem guest_hostCommand {blocked : Option String} {me : Pid} {p : Wired Unit}
    (h : HostCommand me p) : Guest blocked me p := by
  cases h with
  | start L brief => exact (guest_start).mapError.ends
  | reconcile S contended latest runId => exact (guest_reconcile).mapError.ends
  | observe S operation id => exact (courteous_receiptForRun).mapError.guest.ends
  | send L params => exact (guest_sendMessage).ends
  | request S request => exact (courteous_respond).guest
  | command id p hp =>
    have hread : Courteous blocked me (fun _ => True)
        (fun found h => found = true → Published h id)
        (Prog.read fun h => (h.dir id).manifest.isSome : Wired Bool) :=
      Courteous.observe (fun _ => rfl) (fun _ _ hfound => hfound) fun _ _ _ hinv hstep hs hfound =>
        stable_published blocked id _ _ hinv hstep (hs hfound)
    refine Courteous.guest (P := fun _ _ => True) (hread.bind fun found => ?_)
    cases found with
    | false => exact Courteous.throw
    | true => exact (courteous_onRun (fun h hh => hh.2 rfl) (Run.tidy_command hp.unsealed)).mapError

/-- A run of any number of processes on a home, with crashes at any point. -/
abbrev HostRun (ok : Pool.Label Pid → Home → Home → Prop) :
    Pool Pid Home Answer A2aError → Pool Pid Home Answer A2aError → Prop :=
  Pool.Run Home.release HostCommand ok

/-! ### Starts for examples -/

def sampleLauncher : Launcher where
  server := sampleServer
  policy := .ok (Policy.samplePolicy "a")
  preflight := true
  admits _ _ := .ok ()
  snapshot _ _ := .ok (default, fun _ => none)
  spawn := .ok 1
  contended := "would block"
  verdict _ := .error "not a verdict"
  patience := 0

def sampleDocument : Finance.Bytes :=
  Finance.utf8 (Json.write Json.compact 0 (.obj [
    ("brief_version", .str briefVersion),
    ("question", .str "Is the change safe?")]))

/-- The process `me` starts a run under the id `id`, and takes `n` steps. -/
def startFor (me : Pid) (id : String) (n : Nat) : List (Pool.Command Pid Home Answer A2aError) :=
  .start me ((start sampleLauncher me (.ok sampleDocument)).mapError internal >>= fun _ => pure ())
    :: List.replicate n (.move me { Run.sampleAnswer with nonce := id })

theorem startFor_within (me : Pid) (id : String) (n : Nat) :
    ∀ x ∈ startFor me id n, x.Within HostCommand := by
  intro x hx
  rcases List.mem_cons.mp hx with rfl | hx
  · exact HostCommand.start sampleLauncher (.ok sampleDocument)
  · rw [List.eq_of_mem_replicate hx]
    trivial

/-- Carry out a schedule on a home. -/
def hosted (xs : List (Pool.Command Pid Home Answer A2aError)) :
    Pool Pid Home Answer A2aError → Option (Pool Pid Home Answer A2aError) :=
  Pool.schedule (fun _ _ _ => True) Home.release xs

theorem hostRun_of_hosted {xs : List (Pool.Command Pid Home Answer A2aError)}
    {c c' : Pool Pid Home Answer A2aError} (hxs : ∀ x ∈ xs, x.Within HostCommand)
    (h : hosted xs c = some c') : HostRun (fun _ _ _ => True) c c' :=
  Pool.run_of_schedule _ Pool.Run.refl hxs h

/-- A home without runs. -/
theorem atHome_homeOf : AtHome none (homeOf [] .queued) := by
  have hnot : ∀ id, ¬Published (homeOf [] .queued) id := fun _ => Bool.noConfusion
  refine ⟨fun id hpub => ?_, fun id hpub => ?_, fun id _ hlive => ?_, fun id _ => ?_,
    fun id hid => ?_⟩
  · exact absurd hpub (hnot id)
  · exact absurd hpub (hnot id)
  · exact absurd hlive.published (hnot id)
  · exact ⟨rfl, rfl, rfl, rfl⟩
  · cases hid

section runs

variable {ok : Pool.Label Pid → Home → Home → Prop} {blocked : Option String} {h : Home}
  {c c' : Pool Pid Home Answer A2aError}

/-- **Every run** of a home is one of steps that the home allows. -/
theorem host_run {J : Home → Prop} (hrun : HostRun ok c c') (hc : (homeLocks blocked).Kept c)
    (hJ : ∀ s s', AtHome blocked s → Hosts blocked s s' → J s → J s') (hnow : J c.shared) :
    (homeLocks blocked).Kept c' ∧ J c'.shared := by
  refine Locking.run_may (homeLocks_lawful blocked) (fun me p hp => ?_) hJ hrun hc hnow
  have hempty : EmptyHanded blocked (Hand.empty : HomeHand) :=
    ⟨fun _ _ _ _ _ => trivial, fun _ => rfl⟩
  exact (guest_hostCommand hp _ hempty).mono fun _ _ _ => trivial

theorem kept_host (hh : AtHome blocked h) (hrun : HostRun ok (Pool.idle h) c) :
    (homeLocks blocked).Kept c :=
  (host_run (J := fun _ => True) hrun (Locking.kept_idle hh) (fun _ _ _ _ _ => trivial) trivial).1

/-- **One live run**: whatever the processes of a home do, crashes included, no
    two runs are live. A run that was published stays, and one that has ended
    does not become live again. -/
theorem single_live_run (hh : AtHome none h) (hrun : HostRun ok (Pool.idle h) c)
    (hlater : HostRun ok c c') :
    (∀ id id', Live c'.shared id → Live c'.shared id' → id = id') ∧
      ∀ id, (Published c.shared id → Published c'.shared id) ∧
        (Over c.shared id → Over c'.shared id) := by
  let J : Home → Prop := fun t => ∀ id, (Published c.shared id → Published t id) ∧
    (Over c.shared id → Over t id)
  have hJ : ∀ t t', AtHome none t → Hosts none t t' → J t → J t' := fun t t' _ hstep hJ id =>
    ⟨fun hpub => hstep.published ((hJ id).1 hpub), fun hover => hstep.over ((hJ id).2 hover)⟩
  obtain ⟨⟨hafter, -⟩, hstays⟩ := host_run hlater (kept_host hh hrun) hJ fun _ => ⟨id, id⟩
  exact ⟨AtHome.single hafter, hstays⟩

/-- A run is started, and a second one beside it is refused. -/
theorem single_live_run_sample : ∃ c c' : Pool Pid Home Answer A2aError,
    HostRun (fun _ _ _ => True) (Pool.idle (homeOf [] .queued)) c ∧
    HostRun (fun _ _ _ => True) c c' ∧ c'.shared.launchLock = none ∧ Live c'.shared firstRun ∧
      ∀ id, Live c'.shared id → id = firstRun := by
  have hboth : (hosted (startFor 0 firstRun 26) (Pool.idle (homeOf [] .queued))).any (fun c =>
      (hosted (startFor 1 secondRun 6) c).any fun c' => c'.shared.launchLock.isNone &&
        (c'.shared.dir firstRun).manifest.any (!·.status.terminal)) = true := by
    decide +kernel
  obtain ⟨c, hc, hboth⟩ := (Option.any_eq_true _ _).mp hboth
  obtain ⟨c', hc', hboth⟩ := (Option.any_eq_true _ _).mp hboth
  simp only [Bool.and_eq_true, Option.isNone_iff_eq_none] at hboth
  obtain ⟨m, hm, hlive⟩ := (Option.any_eq_true _ _).mp hboth.2
  have hrun := hostRun_of_hosted (startFor_within 0 firstRun 26) hc
  have hlater := hostRun_of_hosted (startFor_within 1 secondRun 6) hc'
  have hnow : Live c'.shared firstRun := ⟨m, hm, by simpa using hlive⟩
  exact ⟨c, c', hrun, hlater, hboth.1, hnow, fun id hid =>
    (single_live_run atHome_homeOf hrun hlater).1 id firstRun hid hnow⟩

end runs

end Quinte.Launch
