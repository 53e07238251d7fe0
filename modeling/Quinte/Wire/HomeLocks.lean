import Mathlib
import Quinte.Run.Finality
import Quinte.Wire.Requests

/-! # The locks of a home

    The launch lock protects the list of the runs and the directories that have
    no manifest yet; what a run directory protects with its own locks stays as
    it is (`Store.Custody`). A hand on the home carries one on a published run
    (`step_aboard`), so that whatever keeps to the course of a run can be done
    on the home (`courteous_onRun`).
-/

namespace Quinte.Launch

open Program Wire
open Store (Protected protectedView Course InCourse custody custody_lawful course course_same
  Orderly Onward strict Sequenced)

/-! ### What the locks of a home protect -/

/-- The directory of the run has a manifest. -/
def Published (h : Home) (id : String) : Prop :=
  (h.dir id).manifest.isSome = true

/-- The run has been published and has not ended. -/
def Live (h : Home) (id : String) : Prop :=
  ∃ m, (h.dir id).manifest = some m ∧ m.status.terminal = false

/-- The run has ended. -/
def Over (h : Home) (id : String) : Prop :=
  ∃ m, (h.dir id).manifest = some m ∧ m.status.terminal = true

/-- A directory as `create_run_dirs` makes it, as far as the course of a run goes. -/
structure Untouched (d : RunDir) : Prop where
  manifest : d.manifest = none
  events : d.events = []
  cancelRequested : d.cancelRequested = false
  flagAtLock : d.flagAtLock = false

/-- What holds of a home between any two steps. `blocked` is a directory that
    was left behind without a manifest. -/
structure AtHome (blocked : Option String) (h : Home) : Prop where
  runs : ∀ id, Published h id → InCourse none (h.dir id)
  listed : ∀ id, Published h id → id ∈ h.runs
  single : ∀ id id', Live h id → Live h id' → id = id'
  untouched : ∀ id, id ∉ h.runs → Untouched (h.dir id)
  blocked : ∀ id, blocked = some id → id ∈ h.runs ∧ ¬Published h id

/-- A run is published while none is live. -/
structure Publishes (blocked : Option String) (h h' : Home) (id : String) : Prop where
  unblocked : blocked = none
  course : InCourse none (h'.dir id)
  listed : id ∈ h'.runs
  alone : ∀ q, ¬Live h q
  only : ∀ q, Published h' q → Published h q ∨ q = id

/-- What one step may do: a run that was published keeps to its course. -/
structure Hosts (blocked : Option String) (h h' : Home) : Prop where
  course : ∀ id, Published h id → Course none (h.dir id) (h'.dir id)
  listed : ∀ id, Published h id ∨ blocked = some id → id ∈ h.runs → id ∈ h'.runs
  untouched : (∀ id, id ∉ h.runs → Untouched (h.dir id)) →
    ∀ id, id ∉ h'.runs → Untouched (h'.dir id)
  fresh : ∀ id, Published h' id → Published h id ∨ Publishes blocked h h' id

/-- The launch lock, and the locks of the runs. -/
inductive HomeLock where
  | launch
  | run (id : String) (l : Lock)
  deriving DecidableEq

/-- What a directory without a manifest is known by. -/
abbrev Unpublished := List Event × Bool × Bool

/-- What each lock protects. -/
def Sheltered : HomeLock → Type
  | .launch => List String × (String → Option Unpublished)
  | .run _ l => Protected l

/-- A directory without a manifest; the others are left out. -/
def unpublished (h : Home) (id : String) : Option Unpublished :=
  if (h.dir id).manifest.isSome then none
  else some ((h.dir id).events, (h.dir id).cancelRequested, (h.dir id).flagAtLock)

def homeOwner : HomeLock → Home → Option Pid
  | .launch, h => h.launchLock
  | .run id l, h => (h.dir id).locks l

def homeView : (l : HomeLock) → Home → Sheltered l
  | .launch, h => (h.runs, unpublished h)
  | .run id l, h => protectedView none l (h.dir id)

/-- The locks of a home. -/
def homeLocks (blocked : Option String) : Locking Pid Home HomeLock Sheltered where
  owner := homeOwner
  view := homeView
  inv := AtHome blocked
  may := Hosts blocked
  crash := Home.release

theorem unpublished_of_published {h : Home} {id : String} (hpub : Published h id) :
    unpublished h id = none :=
  if_pos hpub

theorem unpublished_eq {h : Home} {id : String} (hpub : ¬Published h id) :
    unpublished h id = some ((h.dir id).events, (h.dir id).cancelRequested,
      (h.dir id).flagAtLock) :=
  if_neg hpub

theorem unpublished_same {h h' : Home} {id : String} (hmanifest : (h'.dir id).manifest =
    (h.dir id).manifest) (hevents : (h'.dir id).events = (h.dir id).events)
    (hcancel : (h'.dir id).cancelRequested = (h.dir id).cancelRequested)
    (hlock : (h'.dir id).flagAtLock = (h.dir id).flagAtLock) :
    unpublished h' id = unpublished h id := by
  rw [unpublished, unpublished, hmanifest, hevents, hcancel, hlock]

/-! ### Steps -/

section steps

variable {blocked : Option String} {h h' : Home} {id : String}

theorem Live.published (hlive : Live h id) : Published h id := by
  obtain ⟨m, hm, -⟩ := hlive
  rw [Published, hm]
  rfl

theorem Over.published (hover : Over h id) : Published h id := by
  obtain ⟨m, hm, -⟩ := hover
  rw [Published, hm]
  rfl

theorem Over.not_live (hover : Over h id) : ¬Live h id := by
  rintro ⟨m, hm, hlive⟩
  obtain ⟨m', hm', hended⟩ := hover
  rw [hm] at hm'
  rw [Option.some.inj hm', hended] at hlive
  cases hlive

theorem Untouched.not_published (hd : Untouched (h.dir id)) : ¬Published h id := by
  rw [Published, hd.manifest]
  simp

/-- **A step on a published run** leaves it published. -/
theorem Hosts.published (hstep : Hosts blocked h h') (hpub : Published h id) : Published h' id := by
  rcases (hstep.course id hpub).manifest with hsame | ⟨-, _, x, _, hx, _⟩
  · rw [Published, hsame]
    exact hpub
  · rw [Published, hx]
    rfl

/-- A run that has ended stays ended. -/
theorem Hosts.over (hstep : Hosts blocked h h') (hover : Over h id) : Over h' id := by
  have hpub := hover.published
  obtain ⟨m, hm, hended⟩ := hover
  rcases (hstep.course id hpub).manifest with hsame | ⟨-, c, x, hc, hx, hreplaces⟩
  · exact ⟨m, hsame.trans hm, hended⟩
  · obtain rfl := Option.some.inj (hc.symm.trans hm)
    exact ⟨x, hx, (congrArg RunStatus.terminal (hreplaces.terminal hended).2).trans hended⟩

/-- A run that is live was so, unless it was published just now. -/
theorem Hosts.live (hstep : Hosts blocked h h') (hpub : Published h id) (hlive : Live h' id) :
    Live h id := by
  obtain ⟨m, hm⟩ := Option.isSome_iff_exists.mp hpub
  refine ⟨m, hm, Bool.eq_false_of_not_eq_true fun hended => ?_⟩
  exact (hstep.over ⟨m, hm, hended⟩).not_live hlive

/-- **One step** keeps what holds between steps. -/
theorem Hosts.atHome (hh : AtHome blocked h) (hstep : Hosts blocked h h') : AtHome blocked h' := by
  refine ⟨fun id hpub => ?_, fun id hpub => ?_, fun id id' hlive hlive' => ?_,
    hstep.untouched hh.untouched, fun id hblocked => ?_⟩
  · rcases hstep.fresh id hpub with hbefore | hnew
    · exact Course.inCourse (hh.runs id hbefore) (hstep.course id hbefore)
    · exact hnew.course
  · rcases hstep.fresh id hpub with hbefore | hnew
    · exact hstep.listed id (Or.inl hbefore) (hh.listed id hbefore)
    · exact hnew.listed
  · rcases hstep.fresh id hlive.published with hbefore | hnew
    · rcases hstep.fresh id' hlive'.published with hbefore' | hnew'
      · exact hh.single id id' (hstep.live hbefore hlive) (hstep.live hbefore' hlive')
      · exact absurd (hstep.live hbefore hlive) (hnew'.alone id)
    · rcases hnew.only id' hlive'.published with hbefore' | heq
      · exact absurd (hstep.live hbefore' hlive') (hnew.alone id')
      · exact heq.symm
  · obtain ⟨hin, hnot⟩ := hh.blocked id hblocked
    refine ⟨hstep.listed id (Or.inr hblocked) hin, fun hpub => ?_⟩
    rcases hstep.fresh id hpub with hbefore | hnew
    · exact hnot hbefore
    · rw [hnew.unblocked] at hblocked
      cases hblocked

/-- The part of a home that its locks are about. -/
def harbour (h : Home) := (h.runs, (fun id => course (h.dir id)), h.launchLock)

variable (blocked) in
theorem harbour_same (hsame : harbour h' = harbour h) : Hosts blocked h h' ∧
    ∀ l, homeOwner l h' = homeOwner l h ∧ homeView l h' = homeView l h := by
  have hruns : h'.runs = h.runs := congrArg Prod.fst hsame
  have hdir : ∀ id, course (h'.dir id) = course (h.dir id) :=
    fun id => congrFun (congrArg (fun x => x.2.1) hsame) id
  have hlaunch : h'.launchLock = h.launchLock := congrArg (fun x => x.2.2) hsame
  have hmanifest : ∀ id, (h'.dir id).manifest = (h.dir id).manifest :=
    fun id => congrArg Prod.fst (hdir id)
  have hflag : ∀ id, (h'.dir id).flagAtLock = (h.dir id).flagAtLock :=
    fun id => congrArg (fun x => x.2.1) (hdir id)
  have hcancel : ∀ id, (h'.dir id).cancelRequested = (h.dir id).cancelRequested :=
    fun id => congrArg (fun x => x.2.2.1) (hdir id)
  have hevents : ∀ id, (h'.dir id).events = (h.dir id).events :=
    fun id => congrArg (fun x => x.2.2.2.1) (hdir id)
  refine ⟨⟨fun id _ => (course_same none (hdir id)).1, fun id _ hin => ?_, fun hold id hin => ?_,
    fun id hpub => Or.inl ?_⟩, fun l => ?_⟩
  · rw [hruns]
    exact hin
  · rw [hruns] at hin
    obtain ⟨hm, he, hc, hf⟩ := hold id hin
    exact ⟨(hmanifest id).trans hm, (hevents id).trans he, (hcancel id).trans hc,
      (hflag id).trans hf⟩
  · rw [Published, ← hmanifest]
    exact hpub
  · cases l with
    | launch =>
      refine ⟨hlaunch, Prod.ext hruns (funext fun id => ?_)⟩
      exact unpublished_same (hmanifest id) (hevents id) (hcancel id) (hflag id)
    | run id l =>
      have hlock := (course_same none (hdir id)).2 l
      exact ⟨hlock.1, hlock.2⟩

theorem homeLocks_lawful (blocked : Option String) : (homeLocks blocked).Lawful where
  refl h := (harbour_same blocked rfl).1
  inv _ _ hh hstep := Hosts.atHome hh hstep
  crash q h hh := by
    refine ⟨fun id hpub => ?_, fun _ _ hin => hin, fun hold id hin => ?_, fun _ hpub => Or.inl hpub⟩
    · exact (custody_lawful none).crash q (h.dir id) (AtHome.runs hh id hpub)
    · obtain ⟨hm, he, hc, hf⟩ := hold id hin
      exact ⟨hm, he, hc, hf⟩
  crash_owner q q' h l hne howner := by
    cases l with
    | launch =>
      have hkept : h.launchLock ≠ some q' := by
        intro heq
        exact hne (Option.some.inj (howner.symm.trans heq))
      exact (if_neg hkept).trans howner
    | run id l => exact Control.release_locks_of_ne howner (Ne.symm hne)
  crash_view _ _ _ l _ _ := by
    cases l with
    | launch => rfl
    | run id l => exact Store.protectedView_locks none l _ fun _ => ⟨rfl, rfl, rfl, rfl⟩

/-! ### What no step undoes -/

theorem stable_published (blocked : Option String) (id : String) :
    (homeLocks blocked).Stable (Published · id) :=
  fun _ _ _ hstep hpub => Hosts.published hstep hpub

theorem stable_over (blocked : Option String) (id : String) :
    (homeLocks blocked).Stable (Over · id) :=
  fun _ _ _ hstep hover => Hosts.over hstep hover

end steps

/-! ### Hands -/

abbrev HomeHand := Hand Home HomeLock Sheltered

section hands

variable {blocked : Option String} {me : Pid} {m k : HomeHand} {α β ε : Type}

/-- No lock of a run is in hand. -/
def Ashore (m : HomeHand) : Prop :=
  ∀ id l, m.held (.run id l) = none

/-- The hand `k` of a thread on the directory of the run `id`, as one on the home. -/
def aboard (id : String) (m : HomeHand) (k : Store.RunHand) : HomeHand where
  held
    | .launch => m.held .launch
    | .run q l => if q = id then k.held l else none
  known h := m.known h ∧ k.known (h.dir id)

theorem aboard_self (id : String) (m : HomeHand) (k : Store.RunHand) (l : Lock) :
    (aboard id m k).held (.run id l) = k.held l :=
  if_pos rfl

theorem aboard_ne {id q : String} (m : HomeHand) (k : Store.RunHand) (l : Lock) (hq : q ≠ id) :
    (aboard id m k).held (.run q l) = none :=
  if_neg hq

/-- With no lock of the run, it is the hand on the home. -/
theorem aboard_held {id : String} {k : Store.RunHand} (hm : Ashore m)
    (hk : ∀ l, k.held l = none) : (aboard id m k).held = m.held := by
  funext l
  cases l with
  | launch => rfl
  | run q l =>
    by_cases hq : q = id
    · subst hq
      exact (aboard_self q m k l).trans ((hk l).trans (hm q l).symm)
    · exact (aboard_ne m k l hq).trans (hm q l).symm

theorem aboard_empty (id : String) (hm : Ashore m) : aboard id m Hand.empty = m := by
  have hheld : (aboard id m Hand.empty).held = m.held := aboard_held hm fun _ => rfl
  have hknown : (aboard id m Hand.empty).known = m.known :=
    funext fun h => propext (and_iff_left trivial)
  exact congrArg₂ Hand.mk hheld hknown

/-- What is known of a published run on its own is known on the home. -/
theorem stable_aboard {id : String} {k : Store.RunHand} (hm : (homeLocks blocked).Stable m.known)
    (hpub : ∀ h, m.known h → Published h id) (hk : (custody none).Stable k.known) :
    (homeLocks blocked).Stable (aboard id m k).known := by
  intro h h' hinv hstep hknown
  have hbefore := hpub h hknown.1
  refine ⟨hm h h' hinv hstep hknown.1, hk _ _ (AtHome.runs hinv id hbefore) ?_ hknown.2⟩
  exact Hosts.course hstep id hbefore

/-- The directory of a run is put back. -/
def putBack (id : String) (d : RunDir) (h : Home) : Home :=
  (h.setDir id d).touch (h.runDir id)

theorem putBack_self (id : String) (d : RunDir) (h : Home) : (putBack id d h).dir id = d :=
  Home.setDir_dir_self ..

theorem putBack_ne {id q : String} (d : RunDir) (h : Home) (hq : q ≠ id) :
    (putBack id d h).dir q = h.dir q :=
  Home.setDir_dir_ne d h hq

/-- A step on a published run is one that the home allows. -/
theorem hosts_putBack {id : String} {d : RunDir} {h : Home} (hpub : Published h id)
    (hlisted : id ∈ h.runs) (hstep : Course none (h.dir id) d) :
    Hosts blocked h (putBack id d h) := by
  have hothers : ∀ q, q ≠ id → (putBack id d h).dir q = h.dir q := fun q hq => putBack_ne d h hq
  refine ⟨fun q _ => ?_, fun _ _ hin => hin, fun hold q hin => ?_, fun q hq => Or.inl ?_⟩
  · by_cases hqid : q = id
    · subst hqid
      rw [putBack_self]
      exact hstep
    · rw [hothers q hqid]
      exact (custody_lawful none).refl _
  · have hqid : q ≠ id := by
      intro heq
      exact hin (heq ▸ hlisted)
    rw [hothers q hqid]
    exact hold q hin
  · by_cases hqid : q = id
    · rw [hqid]
      exact hpub
    · rw [Published, ← hothers q hqid]
      exact hq

/-- The launch lock protects nothing of a published run. -/
theorem launch_putBack {id : String} {d : RunDir} {h : Home} (hnow : Published h id)
    (hafter : Published (putBack id d h) id) :
    homeView .launch (putBack id d h) = homeView .launch h := by
  refine Prod.ext rfl (funext fun q => ?_)
  by_cases hq : q = id
  · subst hq
    exact (unpublished_of_published hafter).trans (unpublished_of_published hnow).symm
  · have hsame : (putBack id d h).dir q = h.dir q := putBack_ne d h hq
    refine unpublished_same ?_ ?_ ?_ ?_ <;> rw [hsame]

theorem owner_putBack (id : String) (d : RunDir) (h : Home) (l : Lock) :
    homeOwner (.run id l) (putBack id d h) = d.locks l := by
  show ((putBack id d h).dir id).locks l = d.locks l
  rw [putBack_self]

theorem view_putBack (id : String) (d : RunDir) (h : Home) (l : Lock) :
    homeView (.run id l) (putBack id d h) = protectedView none l d := by
  show protectedView none l ((putBack id d h).dir id) = protectedView none l d
  rw [putBack_self]

/-- The locks that a step on the directory leaves alone. -/
theorem owner_putBack_same {id : String} {d : RunDir} {h : Home} {l' : HomeLock}
    (hsame : ∀ l, l' = .run id l → d.locks l = (h.dir id).locks l) :
    homeOwner l' (putBack id d h) = homeOwner l' h := by
  cases l' with
  | launch => rfl
  | run q l =>
    by_cases hq : q = id
    · subst hq
      exact (owner_putBack q d h l).trans (hsame l rfl)
    · show ((putBack id d h).dir q).locks l = (h.dir q).locks l
      rw [putBack_ne d h hq]

theorem view_putBack_same {id : String} {d : RunDir} {h : Home} {l' : HomeLock}
    (hlaunch : homeView .launch (putBack id d h) = homeView .launch h)
    (hsame : ∀ l, l' = .run id l → protectedView none l d = protectedView none l (h.dir id)) :
    homeView l' (putBack id d h) = homeView l' h := by
  cases l' with
  | launch => exact hlaunch
  | run q l =>
    by_cases hq : q = id
    · subst hq
      exact (view_putBack q d h l).trans (hsame l rfl)
    · show protectedView none l ((putBack id d h).dir q) = protectedView none l (h.dir q)
      rw [putBack_ne d h hq]

/-- What is in hand of the other locks. -/
theorem aboard_rest {id : String} {k k' : Store.RunHand} {l : Lock}
    (hrest : ∀ l', l' ≠ l → k'.held l' = k.held l') {l' : HomeLock} (hl' : l' ≠ .run id l) :
    (aboard id m k').held l' = (aboard id m k).held l' := by
  cases l' with
  | launch => rfl
  | run q l' =>
    by_cases hq : q = id
    · subst hq
      rw [aboard_self, aboard_self]
      exact hrest l' fun heq => hl' (heq ▸ rfl)
    · rw [aboard_ne _ _ _ hq, aboard_ne _ _ _ hq]

/-- **A step on a published run**, with a hand on it, is a step on the home. -/
theorem step_aboard {id : String} {k k' : Store.RunHand} {h : Home} {d : RunDir}
    (hm : (homeLocks blocked).Stable m.known) (hpub : ∀ h, m.known h → Published h id)
    (hh : (homeLocks blocked).Holds me (aboard id m k) h)
    (hstep : (custody none).Step me k (h.dir id) d k') :
    (homeLocks blocked).Step me (aboard id m k) h (putBack id d h) (aboard id m k') := by
  have hnow : Published h id := hpub h hh.known.1
  have hmay : Hosts blocked h (putBack id d h) :=
    hosts_putBack hnow (AtHome.listed hh.inv id hnow) hstep.may
  have hlaunch : homeView .launch (putBack id d h) = homeView .launch h :=
    launch_putBack hnow (Hosts.published hmay hnow)
  have hinj : ∀ {l l' : Lock}, HomeLock.run id l ≠ .run id l' → l ≠ l' :=
    fun hne heq => hne (heq ▸ rfl)
  refine ⟨hmay, ?_, stable_aboard hm hpub hstep.stable, hm _ _ hh.inv hmay hh.known.1, ?_⟩
  · cases hstep.takes with
    | act hown hsame hheld =>
      -- the launch lock protects the same, whether it is in hand or not
      refine .act (fun l' => owner_putBack_same fun l _ => hown l)
        (fun l' hl' => view_putBack_same hlaunch fun l heq => hsame l ?_) fun l' => ?_
      · rw [heq, aboard_self] at hl'
        exact hl'
      · cases l' with
        | launch =>
          show m.held .launch = (m.held .launch).map fun _ => homeView .launch (putBack id d h)
          rw [hlaunch]
          cases hl : m.held .launch with
          | none => rfl
          | some v =>
            have hv : homeView .launch h = v := hh.view .launch v hl
            exact congrArg some hv.symm
        | run q l =>
          by_cases hq : q = id
          · subst hq
            rw [aboard_self, aboard_self, hheld]
            exact congrArg (fun v => (k.held l).map fun _ => v) (view_putBack q d h l).symm
          · rw [aboard_ne _ _ _ hq, aboard_ne _ _ _ hq]
            rfl
    | take l hfree hown hothers hsame hheld hrest =>
      refine .take (.run id l) hfree ((owner_putBack id d h l).trans hown)
        (fun l' hl' => owner_putBack_same fun l heq => hothers l (hinj (heq ▸ hl')))
        (fun l' hl' => view_putBack_same hlaunch fun l heq => hsame l (hinj (heq ▸ hl'))) ?_
        fun l' hl' => aboard_rest hrest hl'
      rw [aboard_self, hheld]
      exact congrArg some (view_putBack id d h l).symm
    | drop l hmine hothers hsame hheld hrest =>
      exact .drop (.run id l) (by rw [aboard_self]; exact hmine)
        (fun l' hl' => owner_putBack_same fun l heq => hothers l (hinj (heq ▸ hl')))
        (fun l' hl' => view_putBack_same hlaunch fun l heq => hsame l (hinj (heq ▸ hl')))
        ((aboard_self id m k' l).trans hheld) fun l' hl' => aboard_rest hrest hl'
  · rw [putBack_self]
    exact hstep.known

/-! ### Courteous programs -/

/-- What is known where a program has returned. -/
def Known (P : α → Home → Prop) : Except ε α → Home → Prop
  | .ok a, h => P a h
  | .error _, _ => True

/-- The same locks are in hand, and `P` is known besides. -/
structure Kept (blocked : Option String) (P : Home → Prop) (m k : HomeHand) : Prop where
  held : k.held = m.held
  stable : (homeLocks blocked).Stable k.known
  known : ∀ h, k.known h → m.known h ∧ P h

theorem Kept.refl {P : Home → Prop} (hm : (homeLocks blocked).Stable m.known)
    (h : ∀ s, m.known s → P s) : Kept blocked P m m :=
  ⟨rfl, hm, fun s hs => ⟨hs, h s hs⟩⟩

theorem Kept.trans {P Q : Home → Prop} {w : HomeHand} (h : Kept blocked P m k)
    (h' : Kept blocked Q k w) : Kept blocked Q m w :=
  ⟨h'.held.trans h.held, h'.stable, fun s hs =>
    ⟨(h.known s (h'.known s hs).1).1, (h'.known s hs).2⟩⟩

theorem Kept.mono {P P' : Home → Prop} (h : Kept blocked P m k) (hP : ∀ s, P s → P' s) :
    Kept blocked P' m k :=
  ⟨h.held, h.stable, fun s hs => ⟨(h.known s hs).1, hP s (h.known s hs).2⟩⟩

theorem Kept.ashore {P : Home → Prop} (h : Kept blocked P m k) (hm : Ashore m) : Ashore k :=
  fun id l => (congrFun h.held _).trans (hm id l)

variable (blocked me) in
/-- With `K` known, and with the launch lock in hand or without, the program does
    what the home allows, and where it returns `P` is known. -/
def Courteous (K : Home → Prop) (P : α → Home → Prop) (p : Prog Home Answer ε α) : Prop :=
  ∀ m, (homeLocks blocked).Stable m.known → Ashore m → (∀ h, m.known h → K h) →
    Obeys (homeLocks blocked) me (fun r k => Kept blocked (Known P r) m k) p m

variable {K K' : Home → Prop} {P : α → Home → Prop} {Q : β → Home → Prop}

theorem Courteous.mono {P' : α → Home → Prop} {p : Prog Home Answer ε α}
    (h : Courteous blocked me K P p) (hK : ∀ s, K' s → K s) (hP : ∀ a s, P a s → P' a s) :
    Courteous blocked me K' P' p := by
  intro m hm hashore hknown
  refine (h m hm hashore fun s hs => hK s (hknown s hs)).mono fun r k hk => hk.mono fun s hs => ?_
  cases r with
  | ok a => exact hP a s hs
  | error e => trivial

theorem Courteous.ends {p : Prog Home Answer ε α} (h : Courteous blocked me K P p) :
    Courteous blocked me K (fun _ _ => True) p :=
  h.mono (fun _ hs => hs) fun _ _ _ => trivial

theorem Courteous.bind {p : Prog Home Answer ε α} {f : α → Prog Home Answer ε β}
    (hp : Courteous blocked me K P p)
    (hf : ∀ a, Courteous blocked me (fun s => K s ∧ P a s) Q (f a)) :
    Courteous blocked me K Q (p >>= f) := by
  intro m hm hashore hknown
  refine Obeys.bind ((hp m hm hashore hknown).mono fun r k hk => ?_)
  cases r with
  | error e => exact hk
  | ok a =>
    refine (hf a k hk.stable (hk.ashore hashore) fun s hs =>
      ⟨hknown s (hk.known s hs).1, (hk.known s hs).2⟩).mono fun r w hw => hk.trans hw

/-- Nothing is asked of the result of the first program. -/
theorem Courteous.seq {p : Prog Home Answer ε α} {f : α → Prog Home Answer ε β}
    (hp : Courteous blocked me K P p) (hf : ∀ a, Courteous blocked me K Q (f a)) :
    Courteous blocked me K Q (p >>= f) :=
  hp.bind fun a => (hf a).mono (fun _ hs => hs.1) fun _ _ hs => hs

theorem Courteous.pure {a : α} (h : ∀ s, K s → P a s) :
    Courteous blocked me K P (pure a : Prog Home Answer ε α) :=
  fun _ hm _ hknown => Kept.refl hm fun s hs => h s (hknown s hs)

theorem Courteous.throw {e : ε} : Courteous blocked me K P (.throw e : Prog Home Answer ε α) :=
  fun _ hm _ _ => Kept.refl hm fun _ _ => trivial

theorem Courteous.attempt {p : Prog Home Answer ε α} (h : Courteous blocked me K P p) :
    Courteous blocked me K (Known P) p.attempt :=
  fun m hm hashore hknown => Obeys.attempt (h m hm hashore hknown)

theorem Courteous.mapError {ε' : Type} {f : ε → ε'} {p : Prog Home Answer ε α}
    (h : Courteous blocked me K P p) : Courteous blocked me K P (p.mapError f) := by
  intro m hm hashore hknown
  refine Obeys.mapError ((h m hm hashore hknown).mono fun r k hk => hk.mono fun s hs => ?_)
  cases r with
  | ok a => exact hs
  | error e => trivial

theorem Courteous.ensure {b : Bool} {e : ε} :
    Courteous blocked me K (fun _ _ => b = true) (Prog.ensure b e : Prog Home Answer ε Unit) := by
  cases b with
  | true => exact Courteous.pure fun _ _ => rfl
  | false => exact Courteous.throw

theorem Courteous.ofExcept {r : Except ε α} :
    Courteous blocked me K (fun _ _ => True) (Prog.ofExcept r : Prog Home Answer ε α) := by
  cases r with
  | ok a => exact Courteous.pure fun _ _ => trivial
  | error e => exact Courteous.throw

theorem Courteous.answer {f : Answer → α} :
    Courteous blocked me K (fun _ _ => True) (Prog.answer f : Prog Home Answer ε α) :=
  fun _ hm _ _ _ => Kept.refl hm fun _ _ => trivial

/-- What leaves the runs and the locks alone. -/
theorem Courteous.of_leaves {p : Prog Home Answer ε α} (hp : Leaves harbour p) :
    Courteous blocked me K (fun _ _ => True) p := by
  intro m hm _ _
  have hobeys : Obeys (homeLocks blocked) me (fun _ k => k = m) p m :=
    hp.obeys (fun _ _ h => (harbour_same blocked h).1)
      (fun _ _ l h => ((harbour_same blocked h).2 l).1)
      fun _ _ l h => ((harbour_same blocked h).2 l).2
  refine hobeys.mono fun r k hk => ?_
  rw [hk]
  refine Kept.refl hm fun _ _ => ?_
  cases r <;> trivial

/-- Reading a file, where something is learnt that no step undoes. -/
theorem Courteous.observe {trace : Home → Home} {f : Home → α}
    (htrace : ∀ h, harbour (trace h) = harbour h) (hlearn : ∀ h, AtHome blocked h → P (f h) h)
    (hstable : ∀ a, (homeLocks blocked).Stable (P a)) :
    Courteous blocked me K P (Prog.observe trace f : Prog Home Answer ε α) := by
  intro m hm _ _ h hh _
  obtain ⟨hmay, hlocks⟩ := harbour_same blocked (htrace h)
  have hstep : (homeLocks blocked).Step me m h (trace h) m :=
    .aside hh hmay (fun l => (hlocks l).1) fun l => (hlocks l).2
  have hknown : (homeLocks blocked).Stable (m.know (P (f h))).known := fun t t' hinv hstep' ht =>
    ⟨hm _ _ hinv hstep' ht.1, hstable _ _ _ hinv hstep' ht.2⟩
  refine ⟨m.know (P (f h)), ⟨hmay, ?_, hknown, hstep.known, ?_⟩, rfl, hknown, fun s hs => hs⟩
  · cases hstep.takes with
    | act hown hsame hheld => exact .act hown hsame hheld
    | take l hfree hown hothers hsame hheld hrest =>
      exact .take l hfree hown hothers hsame hheld hrest
    | drop l hmine hothers hsame hheld hrest => exact .drop l hmine hothers hsame hheld hrest
  · exact hstable _ _ _ hh.inv hmay (hlearn h hh.inv)

/-- The hand on a published run. -/
theorem holds_aboard {id : String} {k : Store.RunHand} {h : Home}
    (hpub : ∀ h, m.known h → Published h id) (hk : (custody none).Stable k.known)
    (hh : (homeLocks blocked).Holds me (aboard id m k) h) :
    (custody none).Holds me k (h.dir id) where
  inv := AtHome.runs hh.inv id (hpub h hh.known.1)
  stable := hk
  known := hh.known.2
  owner l v hl := hh.owner (.run id l) v ((aboard_self id m k l).trans hl)
  view l v hl := hh.view (.run id l) v ((aboard_self id m k l).trans hl)

/-- A program on a published run, with a hand on it. -/
theorem obeys_aboard {id : String} {k : Store.RunHand} {R : Except String α → Store.RunHand → Prop}
    {p : Proc α} (hm : (homeLocks blocked).Stable m.known)
    (hpub : ∀ h, m.known h → Published h id) (hk : (custody none).Stable k.known)
    (hp : Obeys (custody none) me R p k) :
    Obeys (homeLocks blocked) me
      (fun r w => ∃ k', w = aboard id m k' ∧ (custody none).Stable k'.known ∧ R r k')
      (p.zoom (fun h => h.dir id) (putBack id)) (aboard id m k) :=
  Obeys.zoom (aboard id m) (fun _ _ hk hh => holds_aboard hpub hk hh)
    (fun _ _ _ _ hh hstep => step_aboard hm hpub hh hstep) hk hp

/-- **A program on a published run** that keeps to the course of the run. -/
theorem courteous_onRun {id : String} {p : Proc α} (hpub : ∀ h, K h → Published h id)
    (hp : Run.Tidy none me (fun _ => True) (fun _ => True) p) :
    Courteous blocked me K (fun _ _ => True) (Hosted.onRun id p) := by
  intro m hm hashore hknown
  have hknown' : ∀ h, m.known h → Published h id := fun h hh => hpub h (hknown h hh)
  have hsteady : (custody none).Stable (Hand.empty : Store.RunHand).known :=
    fun _ _ _ _ _ => trivial
  have hrun := hp Hand.empty hsteady trivial fun _ _ => trivial
  -- the program starts and ends with no lock of the run in hand
  have hbegun : aboard id m Hand.empty = m := aboard_empty id hashore
  refine hbegun ▸ Obeys.mapError ((obeys_aboard hm hknown' hsteady hrun).mono fun r w hw => ?_)
  obtain ⟨k', rfl, hk', honward⟩ := hw
  have hnone : ∀ l, k'.held l = none := fun l => honward.same l
  refine ⟨(aboard_held hashore hnone).trans (congrArg Hand.held hbegun.symm),
    stable_aboard hm hknown' hk', fun h hh => ⟨?_, ?_⟩⟩
  · rw [hbegun]
    exact hh.1
  · cases r <;> trivial

end hands

/-! ### Observing -/

section observing

variable {blocked : Option String} {me : Pid} {S : Server} {K : Home → Prop} {α : Type}

theorem courteous_validateRunId {id : String} :
    Courteous blocked me K (fun _ _ => True) (validateRunId id) :=
  Courteous.ensure.ends

/-- Once a manifest was there, it stays, and it stays at its end. -/
def Seen (id : String) (manifest : RunManifest) (h : Home) : Prop :=
  Published h id ∧ (manifest.status.terminal = true → Over h id)

theorem stable_seen (id : String) (manifest : RunManifest) :
    (homeLocks blocked).Stable (Seen id manifest) :=
  fun _ _ hinv hstep hseen => ⟨stable_published blocked id _ _ hinv hstep hseen.1,
    fun hended => stable_over blocked id _ _ hinv hstep (hseen.2 hended)⟩

theorem courteous_readManifest {id : String} :
    Courteous blocked me K (fun o h => ∀ manifest, o = some manifest → Seen id manifest h)
      (readManifest id) := by
  refine Courteous.observe (fun _ => rfl) (fun h _ manifest hm => ?_) fun o s s' hinv hstep hs
    manifest hm => stable_seen id manifest _ _ hinv hstep (hs manifest hm)
  exact ⟨by rw [Published, hm]; rfl, fun hended => ⟨manifest, hm, hended⟩⟩

/-- **`load_manifest`**: a run whose manifest is returned was published, and the
    manifest is its own. -/
theorem courteous_loadManifest {id : String} :
    Courteous blocked me K (fun manifest h => manifest.runId = id ∧ Seen id manifest h)
      (loadManifest me id) := by
  refine (courteous_validateRunId).seq fun _ => (courteous_readManifest).bind fun o => ?_
  cases o with
  | none => exact Courteous.throw
  | some manifest =>
    refine Courteous.ensure.bind fun _ => ?_
    refine (courteous_onRun (fun h hh => (hh.1.2 manifest rfl).1)
      Store.orderly_recoverPendingTransition).seq fun _ => ?_
    exact Courteous.pure fun h hh => ⟨eq_of_beq hh.2, hh.1.2 manifest rfl⟩

/-- What a scan of the runs `ids` has found. -/
structure Surveyed (ids : List String) (active : List RunManifest) (h : Home) : Prop where
  ended : active = [] → ∀ id ∈ ids, Over h id
  published : ∀ manifest ∈ active, Published h manifest.runId

/-- **The scan**: where it finds no active run, all runs have ended. -/
theorem courteous_scanManifests {ids : List String} :
    Courteous blocked me K (Surveyed ids) (scanManifests me ids) := by
  induction ids generalizing K with
  | nil =>
    refine Courteous.pure fun _ _ => ⟨fun _ id hid => ?_, fun manifest hm => ?_⟩
    · cases hid
    · cases hm
  | cons id ids ih =>
    have htrusted : Courteous blocked me K
        (fun manifest h => manifest.runId = id ∧ Seen id manifest h) (trustedManifest me id) :=
      (courteous_validateRunId).mapError.seq fun _ => (courteous_loadManifest).mapError
    refine htrusted.bind fun manifest => ih.bind fun active => Courteous.pure fun h hh => ?_
    obtain ⟨⟨-, hown, hseen⟩, hrest⟩ := hh
    -- the run may go on while the others are looked at, but not out of its end
    cases hended : manifest.status.terminal with
    | false =>
      refine ⟨fun hnone => ?_, fun other hother => ?_⟩
      · cases hnone
      · rcases List.mem_cons.mp hother with rfl | hother
        · rw [hown]
          exact hseen.1
        · exact hrest.published other hother
    | true =>
      refine ⟨fun hnone q hq => ?_, hrest.published⟩
      rcases List.mem_cons.mp hq with rfl | hq
      · exact hseen.2 hended
      · exact hrest.ended hnone q hq

theorem byCreation_isEmpty {active : List RunManifest} (h : (byCreation active).isEmpty = true) :
    active = [] := by
  have hperm : (byCreation active).Perm active := List.mergeSort_perm ..
  rw [List.isEmpty_iff] at h
  rw [h] at hperm
  exact hperm.nil_eq.symm

theorem courteous_readRuns : Courteous blocked me K (fun _ _ => True) readRuns :=
  Courteous.of_leaves ((leaves_observe _ _).mpr fun _ => rfl)

theorem mem_byCreation {active : List RunManifest} {manifest : RunManifest} :
    manifest ∈ byCreation active ↔ manifest ∈ active :=
  List.mem_mergeSort

theorem courteous_activeManifests :
    Courteous blocked me K (fun active h => ∀ manifest ∈ active, Published h manifest.runId)
      (activeManifests me) :=
  (courteous_readRuns).seq fun _ => (courteous_scanManifests).bind fun _ =>
    Courteous.pure fun _ hh manifest hm => hh.2.published manifest (mem_byCreation.mp hm)

theorem courteous_readManifests {ids : List String} :
    Courteous blocked me K (fun _ _ => True) (readManifests ids) := by
  induction ids with
  | nil => exact Courteous.pure fun _ _ => trivial
  | cons id ids ih =>
    unfold readManifests
    split
    · exact (courteous_readManifest).ends.seq fun _ => ih.seq fun _ =>
        Courteous.pure fun _ _ => trivial
    · exact ih

theorem courteous_listManifests : Courteous blocked me K (fun _ _ => True) listManifests :=
  (courteous_readRuns).seq fun _ => (courteous_readManifests).seq fun _ =>
    Courteous.pure fun _ _ => trivial

theorem harbour_writeAt (h : Home) (p : Path) (content : Option TaskRecord) :
    harbour (h.writeAt p content) = harbour h := by
  unfold Home.writeAt
  cases p.getLast? with
  | none => rfl
  | some name =>
    dsimp only
    split <;> rfl

theorem courteous_writeFile {path : Home → Path} :
    Courteous blocked me K (fun _ _ => True) (writeFile path) :=
  Courteous.of_leaves ((leaves_modify _).mpr fun h => harbour_writeAt h _ _)

theorem courteous_persistReceipt {invocationId : String} :
    Courteous blocked me K (fun _ _ => True) (persistReceipt invocationId) :=
  (courteous_writeFile).seq fun _ => courteous_writeFile

theorem courteous_verifiedResult {id : String} {manifest : RunManifest}
    (hK : ∀ h, K h → Published h id) :
    Courteous blocked me K (fun _ _ => True) (verifiedResult S me id manifest) := by
  unfold verifiedResult
  split
  · refine (courteous_onRun hK Run.tidy_verifyResultIntegrity).seq fun integrity => ?_
    cases integrity with
    | none => exact Courteous.throw
    | some _ => exact Courteous.pure fun _ _ => trivial
  · exact Courteous.pure fun _ _ => trivial

/-- **`receipt_for_run`**. -/
theorem courteous_receiptForRun {operation id : String} :
    Courteous blocked me K (fun _ _ => True) (receiptForRun S me operation id) := by
  refine Courteous.answer.seq fun _ => (courteous_loadManifest).bind fun manifest => ?_
  refine (courteous_activeManifests).seq fun active => ?_
  refine Courteous.seq (P := fun _ _ => True)
    (Courteous.of_leaves ((leaves_observe _ _).mpr fun _ => rfl)) fun observed => ?_
  refine Courteous.ofExcept.seq fun both => ?_
  refine (courteous_verifiedResult fun h hh => hh.2.2.1).seq fun result => ?_
  exact (courteous_persistReceipt).seq fun _ => Courteous.pure fun _ _ => trivial

/-! ### Requests about tasks -/

theorem harbour_noteLoad (taskId : String) (h : Home) :
    harbour (h.noteLoad taskId) = harbour h := by
  unfold Home.noteLoad
  split <;> rfl

theorem harbour_putRecord (record : TaskRecord) (h : Home) :
    harbour (h.makeTasksDir.putRecord record) = harbour h := by
  unfold Home.putRecord
  split
  · rfl
  · exact harbour_writeAt _ _ _

theorem courteous_loadRecord {taskId : String} :
    Courteous blocked me K (fun _ _ => True) (loadRecord taskId) := by
  refine Courteous.seq (P := fun _ _ => True)
    (Courteous.of_leaves ((leaves_observe _ _).mpr (harbour_noteLoad taskId))) fun content => ?_
  rcases content with _ | _ | record
  · exact Courteous.pure fun _ _ => trivial
  · exact Courteous.throw
  · exact Courteous.pure fun _ _ => trivial

theorem courteous_saveRecord {record : TaskRecord} :
    Courteous blocked me K (fun _ _ => True) (saveRecord record) := by
  refine Courteous.seq (P := fun _ _ => True) (Courteous.of_leaves ?_) fun written =>
    Courteous.ensure.ends
  exact ⟨fun h _ => harbour_putRecord record h, fun _ => trivial⟩

theorem courteous_readRecords {names : List String} :
    Courteous blocked me K (fun _ _ => True) (readRecords names) := by
  induction names with
  | nil => exact Courteous.pure fun _ _ => trivial
  | cons name names ih =>
    unfold readRecords
    split
    · refine Courteous.seq (P := fun _ _ => True)
        (Courteous.of_leaves ((leaves_observe _ _).mpr fun _ => rfl)) fun content => ?_
      exact ih.seq fun _ => Courteous.pure fun _ _ => trivial
    · exact ih

theorem courteous_listRecords : Courteous blocked me K (fun _ _ => True) listRecords :=
  Courteous.seq (P := fun _ _ => True)
    (Courteous.of_leaves ((leaves_observe _ _).mpr fun _ => rfl)) fun _ => courteous_readRecords

theorem courteous_loadOrRecover {taskId : String} :
    Courteous blocked me K (fun _ _ => True) (loadOrRecover me taskId) := by
  refine (courteous_loadRecord).mapError.seq fun record => ?_
  cases record with
  | some record => exact Courteous.pure fun _ _ => trivial
  | none =>
    refine (courteous_loadManifest).ends.mapError.seq fun manifest => ?_
    exact (courteous_saveRecord).attempt.ends.mapError.seq fun _ =>
      Courteous.pure fun _ _ => trivial

theorem courteous_assignId {id : Option String} :
    Courteous blocked me K (fun _ _ => True) (assignId id) := by
  cases id with
  | some id => exact Courteous.pure fun _ _ => trivial
  | none => exact Courteous.answer.seq fun _ => Courteous.pure fun _ _ => trivial

theorem courteous_saveAssigned {record persisted : TaskRecord} :
    Courteous blocked me K (fun _ _ => True) (saveAssigned record persisted) := by
  unfold saveAssigned
  split
  · exact Courteous.pure fun _ _ => trivial
  · exact (courteous_saveRecord).mapError

theorem courteous_projectArtifacts {record : TaskRecord} :
    Courteous blocked me K (fun _ _ => True) (projectArtifacts S me record) := by
  refine (courteous_receiptForRun).mapError.seq fun inspected => Courteous.ensure.seq fun _ => ?_
  refine Courteous.seq (P := fun _ _ => True)
    (Courteous.of_leaves ((leaves_observe _ _).mpr fun _ => rfl)) fun result => ?_
  cases result with
  | none => exact Courteous.throw
  | some result =>
    refine (courteous_assignId).seq fun artifactId => (courteous_assignId).seq fun routeId => ?_
    refine (courteous_assignId).seq fun traceId => (courteous_saveAssigned).seq fun _ => ?_
    exact Courteous.ofExcept.seq fun trace => Courteous.pure fun _ _ => trivial

theorem courteous_projectTask {record : TaskRecord} {historyLength : Nat} :
    Courteous blocked me K (fun _ _ => True) (projectTask S me record historyLength) := by
  refine (courteous_receiptForRun).mapError.seq fun _ => ?_
  refine (courteous_loadManifest).ends.mapError.seq fun manifest => ?_
  refine Courteous.seq (P := fun _ _ => True) ?_ fun artifacts =>
    Courteous.answer.seq fun timestamp => Courteous.pure fun _ _ => trivial
  unfold artifactsOf
  split
  · exact courteous_projectArtifacts
  · exact Courteous.pure fun _ _ => trivial

theorem courteous_getTask {params : Json} :
    Courteous blocked me K (fun _ _ => True) (getTask S me params) := by
  unfold getTask
  cases textOf params "id" with
  | none => exact Courteous.throw
  | some taskId => exact (courteous_loadOrRecover).seq fun record => courteous_projectTask

theorem courteous_projectTasks {records : List TaskRecord} :
    Courteous blocked me K (fun _ _ => True) (projectTasks S me records) := by
  induction records with
  | nil => exact Courteous.pure fun _ _ => trivial
  | cons record records ih =>
    exact (courteous_projectTask).seq fun task => ih.seq fun _ => Courteous.pure fun _ _ => trivial

theorem courteous_listTasks {params : Json} :
    Courteous blocked me K (fun _ _ => True) (listTasks S me params) := by
  have hlisted : Courteous blocked me K (fun _ _ => True) listedRecords := by
    refine (courteous_listRecords).seq fun records => ?_
    split
    · exact (courteous_listManifests).seq fun _ => Courteous.pure fun _ _ => trivial
    · exact Courteous.pure fun _ _ => trivial
  exact hlisted.mapError.seq fun records => (courteous_projectTasks).seq fun tasks =>
    Courteous.pure fun _ _ => trivial

theorem courteous_cancelTask {params : Json} :
    Courteous blocked me K (fun _ _ => True) (cancelTask S me params) := by
  unfold cancelTask
  split
  · exact Courteous.throw
  case h_2 taskId _ =>
    refine (courteous_loadOrRecover).seq fun record => ?_
    refine (courteous_loadManifest).mapError.bind fun manifest => ?_
    split
    · exact Courteous.throw
    · refine Courteous.seq (P := fun _ _ => True) ?_ fun _ => courteous_projectTask
      unfold cancelUnlessCancelled
      split
      · exact Courteous.pure fun _ _ => trivial
      · exact (courteous_onRun (fun h hh => hh.2.2.1) Run.orderly_cancel).mapError.seq fun _ =>
          Courteous.pure fun _ _ => trivial

theorem courteous_respond {request : Request} :
    Courteous blocked me K (fun _ _ => True) (request.respond S me) := by
  refine Courteous.seq (P := fun _ _ => True) ?_ fun tasks =>
    Courteous.of_leaves ((leaves_modify _).mpr fun _ => rfl)
  cases request with
  | get params => exact (courteous_getTask).seq fun _ => Courteous.pure fun _ _ => trivial
  | list params => exact (courteous_listTasks).seq fun _ => Courteous.pure fun _ _ => trivial
  | cancel params => exact (courteous_cancelTask).seq fun _ => Courteous.pure fun _ _ => trivial

end observing

end Quinte.Launch
