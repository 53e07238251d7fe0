import Mathlib
import Quinte.Framework.Ownership
import Quinte.Store.Alone
import Quinte.Store.Operations

/-! # What the locks of a run directory protect

    The manifest lock protects the manifest, the lock on the ledger the events,
    and the lock on the active processes the result of the run. Whether the run
    has completed is protected by this lock and the run lock together. The lanes
    of one process are threads that use the same locks under the same process
    id, so that what a thread may change is decided by its hand
    (`Framework.Ownership`).

    `Course` says what a step may do to the course of a run, and the operations
    of the store are shown to keep to it with any hand: `orderly_transition`,
    `orderly_saveManifest`, `orderly_event`, ….
-/

namespace Quinte.Store

open Program

/-! ### The course of a run -/

/-- The run directory says that the run has completed. -/
def completed (s : RunDir) : Bool :=
  s.manifest.any (·.status == .completed)

theorem not_completed {status : RunStatus} (h : status.terminal = false) :
    (status == .completed) = false := by
  cases status <;> first | rfl | cases h

/-- What binds the manifest of a completed run to its result; `none` where results
    are amended. -/
abbrev Seal := Option (RunManifest → ResultEnvelope → Prop)

/-- The manifest `c` may be replaced by `x`: a status that is terminal stays, and
    after a cancellation only its statuses are written. -/
structure Replaces (sealed : Seal) (s : RunDir) (c x : RunManifest) : Prop where
  terminal : c.status.terminal = true → sealed = none ∧ x.status = c.status
  cancels : c.status.terminal = false → s.flagAtLock = true ∨ c.status = .cancelling →
    x.status.cancels = true
  result : ∀ binds, sealed = some binds → x.status = .completed →
    ∃ r, s.result = some r ∧ binds x r

/-- The event `e` may be appended: it has the next number, and its transition is
    not in the ledger. -/
structure Continues (s : RunDir) (e : Event) : Prop where
  sequence : e.sequence = s.events.length + 1
  once : ∀ id, e.data.transitionId? = some id → id ∉ logged s.toControl

/-- What one step may do. -/
structure Course (sealed : Seal) (s s' : RunDir) : Prop where
  flag : s.cancelRequested = true → s'.cancelRequested = true
  flagAtLock : s'.flagAtLock = s.flagAtLock ∨ s'.flagAtLock = s.cancelRequested
  entry : s.locks .manifest = none →
    s'.locks .manifest = none ∨ s'.flagAtLock = s.cancelRequested
  manifest : s'.manifest = s.manifest ∨ s.locks .manifest ≠ none ∧
    ∃ c x, s.manifest = some c ∧ s'.manifest = some x ∧ Replaces sealed s c x
  result : sealed.isSome = true →
    s'.result = s.result ∨ (completed s = false ∧ s'.manifest = s.manifest)
  ledger : s'.events = s.events ∨ ∃ e, s'.events = s.events ++ [e] ∧ Continues s e

/-- What holds between any two steps. -/
structure InCourse (sealed : Seal) (s : RunDir) : Prop where
  present : ∃ c, s.manifest = some c
  sequences : Sequenced s.events
  once : (logged s.toControl).Nodup
  flagAtLock : s.flagAtLock = true → s.cancelRequested = true
  result : ∀ binds, sealed = some binds → ∀ m, s.manifest = some m → m.status = .completed →
    ∃ r, s.result = some r ∧ binds m r

/-- What each lock protects. -/
def Protected : Lock → Type
  | .run => Bool
  | .manifest => Option RunManifest × Bool
  | .events => List Event
  | .activePids => Option ResultEnvelope × Bool

/-- A result that may be amended is not protected. -/
def protectedView (sealed : Seal) : (l : Lock) → RunDir → Protected l
  | .run, s => sealed.isSome && completed s
  | .manifest, s => (s.manifest, s.flagAtLock)
  | .events, s => s.events
  | .activePids, s => if sealed.isSome then (s.result, completed s) else (none, false)

theorem protectedView_sealed {sealed : Seal} {binds : RunManifest → ResultEnvelope → Prop}
    {s : RunDir} (h : sealed = some binds) :
    protectedView sealed .activePids s = (s.result, completed s) := by
  subst h
  rfl

theorem protectedView_same {sealed : Seal} {s s' : RunDir} (hmanifest : s'.manifest = s.manifest)
    (hlock : s'.flagAtLock = s.flagAtLock) (hevents : s'.events = s.events)
    (hresult : s'.result = s.result) (l : Lock) :
    protectedView sealed l s' = protectedView sealed l s := by
  have hcompleted : completed s' = completed s := by rw [completed, hmanifest]; rfl
  cases l with
  | run => exact congrArg (sealed.isSome && ·) hcompleted
  | manifest => exact Prod.ext hmanifest hlock
  | events => exact hevents
  | activePids =>
    cases sealed with
    | none => rfl
    | some binds => exact Prod.ext hresult hcompleted

theorem protectedView_completed {sealed : Seal} {s s' : RunDir} (hresult : s'.result = s.result)
    (hcompleted : sealed.isSome = true → completed s' = completed s) {l : Lock}
    (hl : l = .run ∨ l = .activePids) : protectedView sealed l s' = protectedView sealed l s := by
  cases sealed with
  | none => rcases hl with rfl | rfl <;> rfl
  | some binds =>
    rcases hl with rfl | rfl
    · exact hcompleted rfl
    · exact Prod.ext hresult (hcompleted rfl)

/-- Who holds which lock does not matter to what they protect. -/
theorem protectedView_locks (sealed : Seal) (l : Lock) (s : RunDir) {f : Control → Control}
    (h : ∀ c, (f c).manifest = c.manifest ∧ (f c).flagAtLock = c.flagAtLock ∧
      (f c).events = c.events ∧ (f c).result = c.result) :
    protectedView sealed l (s.control f) = protectedView sealed l s :=
  protectedView_same (h _).1 (h _).2.1 (h _).2.2.1 (h _).2.2.2 l

/-- The locks of a run directory. -/
def custody (sealed : Seal) : Locking Pid RunDir Lock Protected where
  owner l s := s.locks l
  view := protectedView sealed
  inv := InCourse sealed
  may := Course sealed
  crash q s := s.control (·.release q)

theorem Course.same {sealed : Seal} {s s' : RunDir} (hflag : s'.cancelRequested = s.cancelRequested)
    (hlock : s'.flagAtLock = s.flagAtLock ∨ s'.flagAtLock = s.cancelRequested)
    (hentry : s.locks .manifest = none →
      s'.locks .manifest = none ∨ s'.flagAtLock = s.cancelRequested)
    (hmanifest : s'.manifest = s.manifest) (hresult : s'.result = s.result)
    (hevents : s'.events = s.events) : Course sealed s s' where
  flag h := hflag.trans h
  flagAtLock := hlock
  entry := hentry
  manifest := Or.inl hmanifest
  result _ := Or.inl hresult
  ledger := Or.inl hevents

/-- **One step** keeps what holds between steps. -/
theorem Course.inCourse {sealed : Seal} {s s' : RunDir} (h : InCourse sealed s)
    (hstep : Course sealed s s') : InCourse sealed s' := by
  refine ⟨?_, ?_, ?_, ?_, ?_⟩
  · rcases hstep.manifest with heq | ⟨-, _, x, _, hx, _⟩
    · rw [heq]
      exact h.present
    · exact ⟨x, hx⟩
  · rcases hstep.ledger with heq | ⟨e, heq, hcont⟩
    · rw [heq]
      exact h.sequences
    · rw [heq]
      exact h.sequences.append hcont.sequence
  · rcases hstep.ledger with heq | ⟨e, heq, hcont⟩
    · rw [logged, heq]
      exact h.once
    · rw [logged, heq, List.filterMap_append]
      refine List.Nodup.append h.once ?_ ?_
      · cases hid : e.data.transitionId? <;> simp [hid]
      · intro id hid hnew
        rw [List.mem_filterMap] at hnew
        obtain ⟨e', he', hid'⟩ := hnew
        rw [List.mem_singleton.mp he'] at hid'
        exact hcont.once id hid' hid
  · intro hflag
    rcases hstep.flagAtLock with heq | heq
    · exact hstep.flag (h.flagAtLock (heq.symm.trans hflag))
    · exact hstep.flag (heq.symm.trans hflag)
  · intro binds hsealed m hm hstatus
    have hresult := hstep.result (by rw [hsealed, Option.isSome_some])
    rcases hstep.manifest with heq | ⟨-, c, x, hc, hx, hreplaces⟩
    · -- the result of a completed run stays
      have hcompleted : completed s = true := by
        rw [completed, ← heq, hm]
        simp [hstatus]
      rcases hresult with hsame | ⟨hopen, -⟩
      · rw [hsame]
        exact h.result binds hsealed m (heq.symm.trans hm) hstatus
      · rw [hcompleted] at hopen
        cases hopen
    · obtain rfl := Option.some.inj (hx.symm.trans hm)
      rcases hresult with hsame | ⟨-, hsame⟩
      · rw [hsame]
        exact hreplaces.result binds hsealed hstatus
      · -- nothing was replaced after all
        have hcx : c = x := Option.some.inj (hc.symm.trans (hsame.symm.trans hx))
        rw [hcx] at hreplaces
        have hnot := hreplaces.terminal (by rw [hstatus]; rfl)
        rw [hsealed] at hnot
        cases hnot.1

theorem custody_lawful (sealed : Seal) : (custody sealed).Lawful where
  refl _ := Course.same rfl (Or.inl rfl) Or.inl rfl rfl rfl
  inv _ _ h hstep := Course.inCourse h hstep
  crash q s _ := by
    refine Course.same rfl (Or.inl rfl) (fun hfree => Or.inl ?_) rfl rfl rfl
    exact (if_neg (by rw [hfree]; simp)).trans hfree
  crash_owner _ _ _ _ hne howner := Control.release_locks_of_ne howner (Ne.symm hne)
  crash_view _ _ _ l _ _ := protectedView_locks sealed l _ fun _ => ⟨rfl, rfl, rfl, rfl⟩

/-! ### What no step undoes -/

/-- If the manifest `m` says that the run has completed, then it has. -/
def Honest (m : RunManifest) (s : RunDir) : Prop :=
  m.status = .completed → completed s = true

theorem stable_honest (sealed : Seal) (m : RunManifest) :
    (custody sealed).Stable (Honest m) := by
  intro s s' _ hstep hs hm
  have hcompleted := hs hm
  rcases hstep.manifest with heq | ⟨-, c, x, hc, hx, hreplaces⟩
  · rw [completed, heq]
    exact hcompleted
  · rw [completed, hc] at hcompleted
    have hstatus : c.status = .completed := by simpa using hcompleted
    have hkept := (hreplaces.terminal (by rw [hstatus]; rfl)).2
    rw [completed, hx]
    simp [hkept, hstatus]

theorem Honest.of_current {m : RunManifest} {s : RunDir} (h : s.manifest = some m) :
    Honest m s := by
  intro hm
  rw [completed, h]
  simp [hm]

theorem Honest.of_status {m m' : RunManifest} {s : RunDir} (h : Honest m s)
    (heq : m'.status = m.status) : Honest m' s :=
  fun hm => h (heq.symm.trans hm)

/-! ### Locks in hand -/

abbrev RunHand := Hand RunDir Lock Protected

section hands

variable {sealed : Seal} {me : Pid} {m k : RunHand} {α β : Type}

theorem course_take (sealed : Seal) (s : RunDir) (l : Lock) :
    Course sealed s (s.control (·.take me l)) := by
  by_cases hl : l = .manifest
  · exact Course.same rfl (Or.inr (if_pos hl)) (fun _ => Or.inr (if_pos hl)) rfl rfl rfl
  · refine Course.same rfl (Or.inl (if_neg hl)) (fun hfree => Or.inl ?_) rfl rfl rfl
    exact (s.toControl.take_locks_ne me (Ne.symm hl)).trans hfree

/-- A free lock is taken. -/
theorem step_take {l : Lock} {s : RunDir} (hs : (custody sealed).Holds me m s)
    (hfree : s.locks l = none) : m.held l = none ∧ (custody sealed).Step me m s
      (s.control (·.take me l))
      (m.put l (some (protectedView sealed l (s.control (·.take me l))))) := by
  have hnone : m.held l = none := by
    cases hheld : m.held l with
    | none => rfl
    | some v =>
      have howner : s.locks l = some me := hs.owner l v hheld
      rw [hfree] at howner
      cases howner
  refine ⟨hnone, course_take sealed s l, .take l hfree (s.toControl.take_locks_self me l)
    (fun l' hne => s.toControl.take_locks_ne me hne) (fun l' hne => ?_) (Hand.put_self ..)
    fun l' hne => Hand.put_ne _ _ hne, hs.stable,
    hs.stable _ _ hs.inv (course_take sealed s l) hs.known⟩
  cases l' with
  | manifest => exact Prod.ext rfl (if_neg (Ne.symm hne))
  | _ => rfl

/-- A lock in hand is dropped. -/
theorem step_drop {l : Lock} {s : RunDir} (hs : (custody sealed).Holds me m s)
    (hheld : (m.held l).isSome = true) :
    (custody sealed).Step me m s (s.control (·.drop me l)) (m.put l none) := by
  obtain ⟨v, hv⟩ := Option.isSome_iff_exists.mp hheld
  have howner : s.locks l = some me := hs.owner l v hv
  have hdrop : s.control (·.drop me l) = s.control fun c => { c.setLock l none with
      intent := if l = .manifest then none else c.intent
      publishing := if l = .activePids then false else c.publishing } := by
    simp only [RunDir.control, Control.drop, howner, if_true]
  have hcourse : Course sealed s (s.control (·.drop me l)) := by
    rw [hdrop]
    refine Course.same rfl (Or.inl rfl) (fun hfree => Or.inl ?_) rfl rfl rfl
    by_cases hl : l = .manifest
    · subst hl
      exact s.toControl.setLock_self .manifest none
    · exact (s.toControl.setLock_ne none (Ne.symm hl)).trans hfree
  refine ⟨hcourse, .drop l hheld (fun l' hne => ?_) (fun l' _ => ?_) (Hand.put_self ..)
    fun l' hne => Hand.put_ne _ _ hne, hs.stable, hs.stable _ _ hs.inv hcourse hs.known⟩
  · rw [hdrop]
    exact s.toControl.setLock_ne none hne
  · rw [hdrop]
    exact protectedView_locks sealed l' s fun _ => ⟨rfl, rfl, rfl, rfl⟩

/-- Run `p` with the lock `l` in hand, in whose view it finds the state. -/
theorem obeys_locked {l : Lock} {Q : Except String α → RunHand → Prop} {p : Proc α}
    (h : ∀ s, (custody sealed).Holds me (m.put l (some (protectedView sealed l s))) s →
      m.held l = none →
      Obeys (custody sealed) me (fun r k => (k.held l).isSome = true ∧ Q r (k.put l none)) p
        (m.put l (some (protectedView sealed l s)))) :
    Obeys (custody sealed) me Q (Proc.withLock me l p) m := by
  refine Obeys.bracket fun s hs hen => ?_
  obtain ⟨hnone, hstep⟩ := step_take hs (by simpa using hen)
  have hbody := h _ (hstep.holds (custody_lawful sealed) hs) hnone
  exact ⟨_, hstep, hbody.mono fun r k hk t ht => ⟨_, step_drop ht hk.1, hk.2⟩⟩

/-- Run `p` with the lock `l` in hand. -/
theorem obeys_withLock {l : Lock} {Q : Except String α → RunHand → Prop} {p : Proc α}
    (h : ∀ v, m.held l = none →
      Obeys (custody sealed) me (fun r k => (k.held l).isSome = true ∧ Q r (k.put l none)) p
        (m.put l (some v))) : Obeys (custody sealed) me Q (Proc.withLock me l p) m :=
  obeys_locked fun _ _ hnone => h _ hnone

/-- Taking the run lock is taking a lock. -/
theorem step_takeRun {s : RunDir} (hs : (custody sealed).Holds me m s)
    (hfree : s.locks .run = none) : m.held .run = none ∧ (custody sealed).Step me m s
      (takeRun me s) (m.put .run (some (protectedView sealed .run (takeRun me s)))) := by
  obtain ⟨hnone, hstep⟩ := step_take hs hfree
  have hcourse : Course sealed s (takeRun me s) :=
    Course.same rfl (Or.inl rfl) (fun hfree' => Or.inl
      ((s.toControl.take_locks_ne me (by decide)).trans hfree')) rfl rfl rfl
  refine ⟨hnone, hcourse, ?_, hs.stable, hs.stable _ _ hs.inv hcourse hs.known⟩
  refine .take .run hfree (s.toControl.take_locks_self me .run)
    (fun l' hne => s.toControl.take_locks_ne me hne) (fun l' _ => ?_) (Hand.put_self ..)
    fun l' hne => Hand.put_ne _ _ hne
  show protectedView sealed l' (takeRun me s) = protectedView sealed l' s
  cases l' <;> rfl

/-- Run `p` with the run lock in hand, unless it is held. -/
theorem obeys_withRunLock {Q : Except String α → RunHand → Prop} {p : Proc α}
    (h : ∀ v, m.held .run = none →
      Obeys (custody sealed) me (fun r k => (k.held .run).isSome = true ∧ Q r (k.put .run none)) p
        (m.put .run (some v))) (hbusy : ∀ e, Q (.error e) m) :
    Obeys (custody sealed) me Q (withRunLock me p) m := by
  refine Obeys.bind (p := lock me) fun s hs _ => ?_
  by_cases hfree : s.locks .run = none
  · obtain ⟨hnone, hstep⟩ := step_takeRun hs hfree
    simp only [if_pos hfree]
    refine ⟨_, hstep, Obeys.bind (Obeys.attempt ((h _ hnone).mono fun r k hk => ?_))⟩
    refine Obeys.modify fun t ht => ⟨_, step_drop ht hk.1, ?_⟩
    cases r with
    | ok a => exact hk.2
    | error e => exact hk.2
  · simp only [if_neg hfree]
    exact ⟨m, .aside hs ((custody_lawful sealed).refl s) (fun _ => rfl) fun _ => rfl, hbusy _⟩

/-! ### Orderly programs -/

/-- What the thread knows stays so. -/
abbrev Steady (sealed : Seal) (m : RunHand) : Prop :=
  (custody sealed).Stable m.known

/-- The same locks are in hand, and `P` is known besides. What is in hand of a
    lock that is `loose` may have changed. -/
structure Onward (sealed : Seal) (loose : Lock → Prop) (P : RunDir → Prop) (m k : RunHand) :
    Prop where
  held : ∀ l, k.held l = m.held l ∨
    loose l ∧ (k.held l).isSome = true ∧ (m.held l).isSome = true
  stable : (custody sealed).Stable k.known
  known : ∀ s, k.known s → m.known s ∧ P s

/-- No lock. -/
def strict (_ : Lock) : Prop := False

variable {loose : Lock → Prop}

theorem Onward.refl {P : RunDir → Prop} (hm : (custody sealed).Stable m.known)
    (h : ∀ s, m.known s → P s) : Onward sealed loose P m m :=
  ⟨fun _ => Or.inl rfl, hm, fun s hs => ⟨hs, h s hs⟩⟩

theorem Onward.trans {P Q : RunDir → Prop} {w : RunHand} (h : Onward sealed loose P m k)
    (h' : Onward sealed loose Q k w) : Onward sealed loose Q m w := by
  refine ⟨fun l => ?_, h'.stable,
    fun s hs => ⟨(h.known s (h'.known s hs).1).1, (h'.known s hs).2⟩⟩
  rcases h.held l with heq | ⟨hloose, hk, hm⟩
  · rw [← heq]
    exact h'.held l
  · refine Or.inr ⟨hloose, ?_, hm⟩
    rcases h'.held l with heq' | ⟨-, hw, -⟩
    · rw [heq']
      exact hk
    · exact hw

theorem Onward.relax {loose' : Lock → Prop} {P : RunDir → Prop} (h : Onward sealed loose P m k)
    (hloose : ∀ l, loose l → loose' l) : Onward sealed loose' P m k :=
  ⟨fun l => (h.held l).imp_right (And.imp_left (hloose l)), h.stable, h.known⟩

theorem Onward.same {P : RunDir → Prop} (h : Onward sealed strict P m k) (l : Lock) :
    k.held l = m.held l :=
  (h.held l).resolve_right fun hf => hf.1

theorem Onward.firm {P : RunDir → Prop} (h : Onward sealed loose P m k) {l : Lock}
    (hl : ¬loose l) : k.held l = m.held l :=
  (h.held l).resolve_right fun hf => hl hf.1

theorem Onward.mono {P P' : RunDir → Prop} (h : Onward sealed loose P m k)
    (hP : ∀ s, P s → P' s) : Onward sealed loose P' m k :=
  ⟨h.held, h.stable, fun s hs => ⟨(h.known s hs).1, hP s (h.known s hs).2⟩⟩

/-- After the lock `l` has been dropped. -/
theorem Onward.drop {l : Lock} {P : RunDir → Prop} {o : Option (Protected l)}
    (hnone : m.held l = none) (h : Onward sealed loose P (m.put l o) k) :
    Onward sealed loose P m (k.put l none) := by
  refine ⟨fun l' => ?_, h.stable, h.known⟩
  by_cases hne : l' = l
  · subst hne
    rw [Hand.put_self, hnone]
    exact Or.inl rfl
  · have hheld := h.held l'
    rw [Hand.put_ne _ _ hne] at hheld
    rwa [Hand.put_ne _ _ hne]

/-- It was in hand until then. -/
theorem Onward.still {l : Lock} {P : RunDir → Prop} {v : Protected l}
    (h : Onward sealed loose P (m.put l (some v)) k) : (k.held l).isSome = true := by
  rcases h.held l with heq | ⟨-, hk, -⟩
  · rw [heq, Hand.put_self]
    rfl
  · exact hk

variable (sealed me) in
/-- With `K` known, any locks in hand, and of the run lock what `ρ` says, the
    program keeps to the course of the run, and where it returns `P` is known. -/
def Orderly (ρ : Option (Protected .run) → Prop) (loose : Lock → Prop) (K : RunDir → Prop)
    (P : α → RunDir → Prop) (p : Proc α) : Prop :=
  ∀ m, Steady sealed m → ρ (m.held .run) → (∀ s, m.known s → K s) →
    Obeys (custody sealed) me (fun r k => Onward sealed loose (Returns P r) m k) p m

variable {ρ : Option (Protected .run) → Prop} {K K' : RunDir → Prop} {P : α → RunDir → Prop}
  {Q : β → RunDir → Prop}

theorem Orderly.mono {P' : α → RunDir → Prop} {p : Proc α} (h : Orderly sealed me ρ loose K P p)
    (hK : ∀ s, K' s → K s) (hP : ∀ a s, P a s → P' a s) :
    Orderly sealed me ρ loose K' P' p := by
  intro m hm hρ hknown
  refine (h m hm hρ fun s hs => hK s (hknown s hs)).mono fun r k hk => hk.mono fun s hs => ?_
  cases r with
  | ok a => exact hP a s hs
  | error e => trivial

/-- Nothing is asked of the result. -/
theorem Orderly.ends {p : Proc α} (h : Orderly sealed me ρ loose K P p) :
    Orderly sealed me ρ loose K (fun _ _ => True) p :=
  h.mono (fun _ hs => hs) fun _ _ _ => trivial

theorem Orderly.bind {p : Proc α} {f : α → Proc β} (hp : Orderly sealed me ρ strict K P p)
    (hf : ∀ a, Orderly sealed me ρ loose (fun s => K s ∧ P a s) Q (f a)) :
    Orderly sealed me ρ loose K Q (p >>= f) := by
  intro m hm hρ hknown
  refine Obeys.bind ((hp m hm hρ hknown).mono fun r k hk => ?_)
  have hk' : Onward sealed loose (Returns P r) m k := hk.relax fun _ hf => hf.elim
  cases r with
  | error e => exact hk'
  | ok a =>
    refine (hf a k (hk.stable) (hk.same .run ▸ hρ) fun s hs =>
      ⟨hknown s (hk.known s hs).1, (hk.known s hs).2⟩).mono fun r w hw => hk'.trans hw

/-- After the last change of what is loose. -/
theorem Orderly.bind_last {p : Proc α} {f : α → Proc β} (hp : Orderly sealed me ρ loose K P p)
    (hf : ∀ a, Orderly sealed me (fun _ => True) loose (fun s => K s ∧ P a s) Q (f a)) :
    Orderly sealed me ρ loose K Q (p >>= f) := by
  intro m hm hρ hknown
  refine Obeys.bind ((hp m hm hρ hknown).mono fun r k hk => ?_)
  cases r with
  | error e => exact hk
  | ok a =>
    refine (hf a k (hk.stable) trivial fun s hs =>
      ⟨hknown s (hk.known s hs).1, (hk.known s hs).2⟩).mono fun r w hw => hk.trans hw

theorem Orderly.relax {loose' : Lock → Prop} {p : Proc α} (h : Orderly sealed me ρ loose K P p)
    (hloose : ∀ l, loose l → loose' l) : Orderly sealed me ρ loose' K P p :=
  fun m hm hρ hknown => (h m hm hρ hknown).mono fun _ _ hk => hk.relax hloose

theorem Orderly.pure {a : α} (h : ∀ s, K s → P a s) : Orderly sealed me ρ loose K P (pure a) :=
  fun _ hm _ hknown => Onward.refl hm fun s hs => h s (hknown s hs)

theorem Orderly.throw {e : String} : Orderly sealed me ρ loose K P (.throw e : Proc α) :=
  fun _ hm _ _ => Onward.refl hm fun _ _ => trivial

theorem Orderly.attempt {p : Proc α} (h : Orderly sealed me ρ loose K P p) :
    Orderly sealed me ρ loose K (Returns P) p.attempt :=
  fun m hm hρ hknown => Obeys.attempt (h m hm hρ hknown)

theorem Orderly.ensure {b : Bool} {e : String} {k : Unit → Proc β}
    (hk : b = true → Orderly sealed me ρ loose K Q (k ())) :
    Orderly sealed me ρ loose K Q (Prog.ensure b e >>= k) := by
  intro m hm hρ hknown
  exact Obeys.ensure (fun hb => hk hb m hm hρ hknown) fun _ => Onward.refl hm fun _ _ => trivial

theorem Orderly.ofExcept {r : Except String α} (h : ∀ a, r = .ok a → ∀ s, K s → P a s) :
    Orderly sealed me ρ loose K P (Prog.ofExcept r) := by
  cases r with
  | ok a => exact Orderly.pure (h a rfl)
  | error e => exact Orderly.throw

theorem Orderly.read {f : RunDir → α} {k : α → Proc β}
    (h : ∀ a, Orderly sealed me ρ loose K Q (k a)) :
    Orderly sealed me ρ loose K Q (Prog.read f >>= k) :=
  fun m hm hρ hknown => Obeys.read (custody_lawful sealed) fun s _ => h (f s) m hm hρ hknown

/-- Reading, where what is read says something of itself. -/
theorem Orderly.read_eq {f : RunDir → α} {k : α → Proc β}
    (h : ∀ s, Orderly sealed me ρ loose K Q (k (f s))) :
    Orderly sealed me ρ loose K Q (Prog.read f >>= k) :=
  fun m hm hρ hknown => Obeys.read (custody_lawful sealed) fun s _ => h s m hm hρ hknown

theorem Orderly.answer {f : Answer → α} {k : α → Proc β}
    (h : ∀ a, Orderly sealed me ρ loose K Q (k a)) :
    Orderly sealed me ρ loose K Q (Prog.answer f >>= k) :=
  fun m hm hρ hknown => Obeys.answer fun a => h a m hm hρ hknown

/-- The part of a run directory that its course is about. -/
def course (s : RunDir) : Option RunManifest × Bool × Bool × List Event × Option ResultEnvelope ×
    (Lock → Option Pid) :=
  (s.manifest, s.flagAtLock, s.cancelRequested, s.events, s.result, s.locks)

variable (sealed) in
theorem course_same {s s' : RunDir} (h : course s' = course s) :
    Course sealed s s' ∧ ∀ l, s'.locks l = s.locks l ∧
      protectedView sealed l s' = protectedView sealed l s := by
  simp only [course, Prod.mk.injEq] at h
  obtain ⟨hmanifest, hlock, hflag, hevents, hresult, hlocks⟩ := h
  have hentry : s.locks .manifest = none →
      s'.locks .manifest = none ∨ s'.flagAtLock = s.cancelRequested :=
    fun hfree => Or.inl ((congrFun hlocks .manifest).trans hfree)
  exact ⟨Course.same hflag (Or.inl hlock) hentry hmanifest hresult hevents, fun l =>
    ⟨congrFun hlocks l, protectedView_same hmanifest hlock hevents hresult l⟩⟩

/-- What leaves the course of the run alone keeps its hand. -/
theorem obeys_of_leaves {p : Proc α} (hp : Leaves course p) :
    Obeys (custody sealed) me (fun _ k => k = m) p m :=
  hp.obeys (fun _ _ h => (course_same sealed h).1) (fun _ _ l h => ((course_same sealed h).2 l).1)
    fun _ _ l h => ((course_same sealed h).2 l).2

/-- An update that leaves it alone. -/
theorem obeys_update {Q : Except String β → RunHand → Prop} {update : RunDir → RunDir}
    {k : Unit → Proc β} (hsame : ∀ s, course (update s) = course s)
    (h : Obeys (custody sealed) me Q (k ()) m) :
    Obeys (custody sealed) me Q (Prog.modify update >>= k) m := by
  refine Obeys.modify fun s hs => ?_
  obtain ⟨hcourse, hlocks⟩ := course_same sealed (hsame s)
  exact ⟨m, .aside hs hcourse (fun l => (hlocks l).1) fun l => (hlocks l).2, h⟩

theorem obeys_after {Q : Except String β → RunHand → Prop} {p : Proc α} {f : α → Proc β}
    (hp : Leaves course p) (hf : ∀ a, Obeys (custody sealed) me Q (f a) m)
    (he : ∀ e, Q (.error e) m) : Obeys (custody sealed) me Q (p >>= f) m := by
  refine Obeys.bind ((obeys_of_leaves hp).mono fun r k hk => ?_)
  rw [hk]
  cases r with
  | ok a => exact hf a
  | error e => exact he e

theorem Orderly.of_leaves {p : Proc α} (hp : Leaves course p) :
    Orderly sealed me ρ loose K (fun _ _ => True) p := by
  intro m hm _ _
  refine (obeys_of_leaves hp).mono fun r k hk => ?_
  rw [hk]
  refine Onward.refl hm fun _ _ => ?_
  cases r <;> trivial

/-- Such a program comes first. -/
theorem Orderly.after {p : Proc α} {f : α → Proc β} (hp : Leaves course p)
    (hf : ∀ a, Orderly sealed me ρ loose K Q (f a)) : Orderly sealed me ρ loose K Q (p >>= f) :=
  Orderly.bind (Orderly.of_leaves hp) fun a => (hf a).mono (fun _ hs => hs.1) fun _ _ hs => hs

/-- **Threads** that are orderly each. -/
theorem Orderly.interleave {first : Answer → Bool} {p : Proc α} {q : Proc β}
    (hp : Orderly sealed me (fun _ => True) strict (fun _ => True) P p)
    (hq : Orderly sealed me (fun _ => True) strict (fun _ => True) Q q) :
    Orderly sealed me ρ loose K (fun _ _ => True) (Prog.interleave first p q) := by
  intro m hm _ _
  have hempty : Steady sealed Hand.empty := fun _ _ _ _ _ => trivial
  have hboth := Obeys.interleave first hm hempty m.apart_empty
    (hp m hm trivial fun _ _ => trivial) (hq _ hempty trivial fun _ _ => trivial)
  rw [Hand.join_empty] at hboth
  refine hboth.mono fun r w hw => ?_
  obtain ⟨a, b, rfl, m', k', rfl, -, hstable, hstable', hleft, hright⟩ := hw
  refine ⟨fun l => Or.inl ?_, fun t t' hinv hmay ht =>
    ⟨hstable _ _ hinv hmay ht.1, hstable' _ _ hinv hmay ht.2⟩, fun s hs =>
    ⟨(hleft.known s hs.1).1, trivial⟩⟩
  show (m'.held l).or (k'.held l) = m.held l
  rw [hleft.same l, hright.same l]
  exact Option.or_none

end hands

/-! ### The ledger -/

section operations

variable {sealed : Seal} {loose : Lock → Prop} {me : Pid} {m : RunHand}
  {ρ : Option (Protected .run) → Prop} {K : RunDir → Prop} {α β : Type}

/-- A lock is dropped with what it protects changed. -/
theorem Onward.dropped {l : Lock} {P : RunDir → Prop} {v : Protected l} (hnone : m.held l = none)
    (hm : Steady sealed m) (hP : ∀ s, m.known s → P s) :
    ((m.put l (some v)).held l).isSome = true ∧
      Onward sealed loose P m ((m.put l (some v)).put l none) := by
  refine ⟨by simp, Onward.drop hnone (Onward.refl hm fun s hs => hP s hs)⟩

/-- `read_events`, with the lock on the ledger in hand. -/
theorem obeys_readEvents {Q : Except String β → RunHand → Prop} {k : List Event → Proc β}
    {events : List Event} (hheld : m.held .events = some events)
    (h : Sequenced events → Obeys (custody sealed) me Q (k events) m) :
    Obeys (custody sealed) me Q (readEvents >>= k) m := by
  refine Obeys.bind (Obeys.read (custody_lawful sealed) fun s hs => ?_)
  have hevents : s.events = events := hs.view .events events hheld
  have hsequenced : Sequenced events := hevents ▸ hs.inv.sequences
  rw [hevents]
  refine Obeys.ensure (fun _ => h hsequenced) fun hbad => ?_
  rw [hsequenced] at hbad
  simp at hbad

/-- An event is appended, with the lock on the ledger in hand. -/
theorem obeys_appendEvent {Q : Except String β → RunHand → Prop} {k : Unit → Proc β}
    {events : List Event} {e : Event} (hheld : m.held .events = some events)
    (hseq : e.sequence = nextSequence events) (hsequenced : Sequenced events)
    (honce : ∀ id, e.data.transitionId? = some id → recordOfTransition events id = none)
    (h : Obeys (custody sealed) me Q (k ()) (m.put .events (some (events ++ [e])))) :
    Obeys (custody sealed) me Q (appendEvent e >>= k) m := by
  refine Obeys.modify fun s hs => ⟨_, ?_, h⟩
  have hevents : s.events = events := hs.view .events events hheld
  have hcont : Continues s e := by
    refine ⟨?_, fun id hid hlogged => ?_⟩
    · rw [hevents, hseq, nextSequence_eq hsequenced]
    · have hnone := honce id hid
      rw [recordOfTransition, List.find?_eq_none] at hnone
      obtain ⟨e', he', hid'⟩ := List.mem_filterMap.mp hlogged
      exact hnone e' (hevents ▸ he') (by simpa using hid')
  have hcourse : Course sealed s { s with events := s.events ++ [e] } :=
    ⟨id, Or.inl rfl, Or.inl, Or.inl rfl, fun _ => Or.inl rfl, Or.inr ⟨e, rfl, hcont⟩⟩
  have hstep := hs.write hcourse (fun _ => rfl) (l := .events) (by rw [hheld]; rfl)
    fun l' hne => by cases l' <;> first | rfl | exact absurd rfl hne
  rwa [show (custody sealed).view .events { s with events := s.events ++ [e] } = events ++ [e] from
    congrArg (· ++ [e]) hevents] at hstep

theorem orderly_eventAt {runId eventType : String} {phase partyId : Option String}
    {attempt : Option Nat} {data : EventData} {timestamp : Nat}
    (hdata : ∀ id, data.transitionId? = some id → eventType = "run.transition") :
    Orderly sealed me ρ loose K (fun _ _ => True)
      (eventAt me runId eventType phase partyId attempt data timestamp) := by
  intro m hm _ _
  refine obeys_withLock fun events hnone => ?_
  refine obeys_readEvents (Hand.put_self ..) fun hsequenced => ?_
  dsimp only
  split
  case h_1 => exact Onward.dropped hnone hm fun _ _ => trivial
  case h_2 hknown =>
    refine Obeys.ensure (fun _ => ?_) fun _ => Onward.dropped hnone hm fun _ _ => trivial
    refine obeys_appendEvent (Hand.put_self ..) rfl hsequenced (fun id hid => ?_) ?_
    · have hid' : data.transitionId? = some id := hid
      rwa [if_pos (hdata id hid'), hid', Option.bind_some] at hknown
    · rw [Hand.put_put]
      exact Onward.dropped hnone hm fun _ _ => trivial

theorem orderly_event {runId eventType : String} {phase partyId : Option String}
    {attempt : Option Nat} {text : String} :
    Orderly sealed me ρ loose K (fun _ _ => True)
      (event me runId eventType phase partyId attempt text) :=
  Orderly.answer fun _ => orderly_eventAt fun _ h => by cases h

/-! ### Recovery -/

/-- What touches neither the manifest nor the ledger nor the result. -/
theorem obeys_removePending {Q : Except String Unit → RunHand → Prop} (h : Q (.ok ()) m) :
    Obeys (custody sealed) me Q removePending m :=
  Obeys.modify_end fun _ hs => ⟨m, .aside hs (Course.same rfl (Or.inl rfl) Or.inl rfl rfl rfl)
    (fun _ => rfl) fun l => by cases l <;> rfl, h⟩

theorem orderly_recordPending {manifest : RunManifest} {pending : PendingTransition} :
    Orderly sealed me ρ loose K (fun _ _ => True) (recordPending me manifest pending) := by
  intro m hm _ _
  refine obeys_withLock fun events hnone => ?_
  refine obeys_readEvents (Hand.put_self ..) fun hsequenced => ?_
  dsimp only
  split
  case h_1 => exact obeys_removePending (Onward.dropped hnone hm fun _ _ => trivial)
  case h_2 hknown =>
    refine Obeys.ensure (fun _ => ?_) fun _ => Onward.dropped hnone hm fun _ _ => trivial
    refine obeys_appendEvent (Hand.put_self ..) rfl hsequenced (fun id hid => ?_) ?_
    · have hid' : some pending.transitionId = some id := hid
      rwa [Option.some.inj hid'] at hknown
    · rw [Hand.put_put]
      exact obeys_removePending (Onward.dropped hnone hm fun _ _ => trivial)

theorem orderly_removePending : Orderly sealed me ρ loose K (fun _ _ => True) removePending :=
  fun _ hm _ _ => obeys_removePending (Onward.refl hm fun _ _ => trivial)

theorem orderly_recoverPendingTransition {manifest : RunManifest} :
    Orderly sealed me ρ loose K (fun _ _ => True) (recoverPendingTransition me manifest) := by
  refine Orderly.read fun there => ?_
  split
  · exact Orderly.pure fun _ _ => trivial
  refine Orderly.read fun pending => ?_
  cases pending with
  | none => exact Orderly.throw
  | some pending =>
    dsimp only
    split
    · exact orderly_removePending
    split
    · exact Orderly.throw
    · exact orderly_recordPending

/-! ### Loading -/

/-- What the locks in hand say of a manifest that was loaded. -/
def Shown (sealed : Seal) (m : RunHand) (manifest : RunManifest) : Prop :=
  (∀ v, m.held .manifest = some v → v.1 = some manifest) ∧
  ∀ b, m.held .run = some b → sealed.isSome = true → b = (manifest.status == .completed)

/-- `load_manifest`, from any hand: the manifest it returns was there, and is the
    one that the locks in hand protect. -/
theorem obeys_loadManifest (hm : Steady sealed m) :
    Obeys (custody sealed) me (fun r k => Onward sealed strict (Returns Honest r) m k ∧
      ∀ a, r = .ok a → Shown sealed m a) (loadManifest me) m := by
  refine Obeys.read_learn (custody_lawful sealed) fun s hs => ?_
  obtain ⟨manifest, hmanifest⟩ := hs.inv.present
  rw [hmanifest]
  refine ⟨Honest manifest, stable_honest sealed manifest, Honest.of_current hmanifest, ?_⟩
  have hshown : Shown sealed m manifest := by
    refine ⟨fun v hv => ?_, fun b hb hsealed => ?_⟩
    · have hview : (s.manifest, s.flagAtLock) = v := hs.view .manifest v hv
      rw [← hview]
      exact hmanifest
    · have hview : (sealed.isSome && completed s) = b := hs.view .run b hb
      rw [← hview, hsealed, completed, hmanifest]
      rfl
  have hsteady : Steady sealed (m.know (Honest manifest)) := fun t t' hinv hmay ht =>
    ⟨hm _ _ hinv hmay ht.1, stable_honest sealed manifest _ _ hinv hmay ht.2⟩
  have hrecover : Orderly sealed me (fun _ => True) strict (fun _ => True) (fun _ _ => True)
      (recoverPendingTransition me manifest) := orderly_recoverPendingTransition
  refine Obeys.bind ((hrecover _ hsteady trivial fun _ _ => trivial).mono fun r k hk => ?_)
  cases r with
  | error e =>
    exact ⟨⟨hk.held, hk.stable, fun t ht => ⟨(hk.known t ht).1.1, trivial⟩⟩,
      fun _ hr => by cases hr⟩
  | ok a =>
    refine ⟨⟨hk.held, hk.stable, fun t ht => (hk.known t ht).1⟩, fun a hr => ?_⟩
    cases hr
    exact hshown

theorem orderly_loadManifest :
    Orderly sealed me ρ loose K (fun manifest s => Honest manifest s) (loadManifest me) := by
  intro m hm _ _
  exact (obeys_loadManifest hm).mono fun r k hk => hk.1.relax fun _ hf => hf.elim

/-! ### Manifests -/

/-- Only a transition that completes the run changes what the lock on the active
    processes and the run lock protect. -/
def Loose (sealed : Seal) (status : RunStatus) (l : Lock) : Prop :=
  sealed.isSome = true ∧ status = .completed ∧ (l = .run ∨ l = .activePids)

/-- The result that `manifest` names is the one in hand, with the run lock. -/
def Completes (sealed : Seal) (m : RunHand) (manifest : RunManifest) : Prop :=
  ∀ binds, sealed = some binds → (m.held .run).isSome = true ∧
    ∃ r b, m.held .activePids = some (some r, b) ∧ binds manifest r

theorem Completes.put {manifest : RunManifest} {l : Lock} {o : Option (Protected l)}
    (h : Completes sealed m manifest) (hrun : Lock.run ≠ l) (hpids : Lock.activePids ≠ l) :
    Completes sealed (m.put l o) manifest := by
  intro binds hbinds
  rw [Hand.put_ne _ _ hrun, Hand.put_ne _ _ hpids]
  exact h binds hbinds

/-- What a loose lock protects is in hand. -/
theorem Loose.held {manifest : RunManifest} {l : Lock} (h : Loose sealed manifest.status l)
    (hcompletes : manifest.status = .completed → Completes sealed m manifest) :
    m.held l ≠ none := by
  obtain ⟨hsealed, hcompleted, hl⟩ := h
  obtain ⟨binds, hbinds⟩ := Option.isSome_iff_exists.mp hsealed
  obtain ⟨hrun, r, b, hpids, -⟩ := hcompletes hcompleted binds hbinds
  intro hnone
  rcases hl with rfl | rfl
  · rw [hnone] at hrun
    cases hrun
  · rw [hnone] at hpids
    cases hpids

section replace

variable {s t : RunDir} {c x : RunManifest}

/-- Where the manifest is replaced and nothing else, the run takes its course. -/
theorem course_replace (hmine : s.locks .manifest ≠ none) (hc : s.manifest = some c)
    (hx : t.manifest = some x)
    (hrest : t.flagAtLock = s.flagAtLock ∧ t.cancelRequested = s.cancelRequested ∧
      t.events = s.events ∧ t.result = s.result ∧ t.locks = s.locks)
    (hreplaced : Replaces sealed s c x) : Course sealed s t := by
  obtain ⟨hflag, hcancel, hevents, hresult, hlocks⟩ := hrest
  exact ⟨fun hf => hcancel.trans hf, Or.inl hflag,
    fun hfree => Or.inl ((congrFun hlocks .manifest).trans hfree),
    Or.inr ⟨hmine, c, x, hc, hx, hreplaced⟩, fun _ => Or.inl hresult, Or.inl hevents⟩

/-- All but the manifest is as it was, or is loose. -/
theorem firm_replace (hc : s.manifest = some c) (hx : t.manifest = some x)
    (hevents : t.events = s.events) (hresult : t.result = s.result)
    (hreplaces : c.status.terminal = true → sealed = none ∧ x.status = c.status) {l : Lock}
    (hne : l ≠ .manifest) (hnot : ¬Loose sealed x.status l) :
    protectedView sealed l t = protectedView sealed l s := by
  have hstays : x.status ≠ .completed → sealed.isSome = true → completed t = completed s := by
    intro hopen hsealed
    have hcne : c.status ≠ .completed := by
      intro hbad
      have hnone := (hreplaces (by rw [hbad]; rfl)).1
      rw [hnone] at hsealed
      cases hsealed
    rw [completed, completed, hx, hc]
    simp [hopen, hcne]
  by_cases hl : l = .run ∨ l = .activePids
  · exact protectedView_completed hresult (fun hsealed =>
      hstays (fun hcompleted => hnot ⟨hsealed, hcompleted, hl⟩) hsealed) hl
  · cases l with
    | run => exact absurd (Or.inl rfl) hl
    | manifest => exact absurd rfl hne
    | events => exact hevents
    | activePids => exact absurd (Or.inr rfl) hl

end replace

/-- The manifest is replaced, with its lock in hand. -/
theorem obeys_replace {Q : Except String β → RunHand → Prop} {k : Unit → Proc β}
    {update : RunDir → RunDir} {c x : RunManifest} {flagged : Bool} (hm : Steady sealed m)
    (hheld : m.held .manifest = some (some c, flagged))
    (hmanifest : ∀ s, (update s).manifest = some x)
    (hrest : ∀ s, (update s).flagAtLock = s.flagAtLock ∧
      (update s).cancelRequested = s.cancelRequested ∧ (update s).events = s.events ∧
      (update s).result = s.result ∧ (update s).locks = s.locks)
    (hreplaces : c.status.terminal = true → sealed = none ∧ x.status = c.status)
    (hcancels : c.status.terminal = false → flagged = true ∨ c.status = .cancelling →
      x.status.cancels = true)
    (hcompletes : x.status = .completed → Completes sealed m x)
    (h : ∀ w, Onward sealed (Loose sealed x.status) (Honest x)
        (m.put .manifest (some (some x, flagged))) w →
      Obeys (custody sealed) me Q (k ()) w) :
    Obeys (custody sealed) me Q (Prog.modify update >>= k) m := by
  refine Obeys.modify fun s hs => ?_
  obtain ⟨hflag, -, hevents, hresult, hlocks⟩ := hrest s
  have hview : (s.manifest, s.flagAtLock) = (some c, flagged) := hs.view .manifest _ hheld
  have hmine : s.locks .manifest ≠ none := by
    have howner : s.locks .manifest = some me := hs.owner .manifest _ hheld
    rw [howner]
    simp
  have hc : s.manifest = some c := congrArg Prod.fst hview
  have hflagged : s.flagAtLock = flagged := congrArg Prod.snd hview
  have hreplaced : Replaces sealed s c x := by
    refine ⟨hreplaces, fun ht hf => hcancels ht (hf.imp_left fun hf => hflagged ▸ hf), ?_⟩
    intro binds hsealed hx
    obtain ⟨-, r, b, hpids, hbinds⟩ := hcompletes hx binds hsealed
    have hpids' : protectedView sealed .activePids s = (some r, b) := hs.view .activePids _ hpids
    exact ⟨r, congrArg Prod.fst ((protectedView_sealed hsealed).symm.trans hpids'), hbinds⟩
  have hcourse : Course sealed s (update s) :=
    course_replace hmine hc (hmanifest s) (hrest s) hreplaced
  have hfirm : ∀ l, l ≠ .manifest → ¬Loose sealed x.status l →
      protectedView sealed l (update s) = protectedView sealed l s :=
    fun l => firm_replace hc (hmanifest s) hevents hresult hreplaces
  have hsame : ∀ l, m.held l = none →
      protectedView sealed l (update s) = protectedView sealed l s := by
    intro l hl
    refine hfirm l (fun hbad => ?_) fun hloose => hloose.held hcompletes hl
    rw [hbad, hheld] at hl
    cases hl
  let w : RunHand := ⟨fun l => (m.held l).map fun _ => protectedView sealed l (update s),
    fun t => m.known t ∧ Honest x t⟩
  have hstable : (custody sealed).Stable w.known := fun t t' hinv hmay ht =>
    ⟨hm _ _ hinv hmay ht.1, stable_honest sealed x _ _ hinv hmay ht.2⟩
  refine ⟨w, ⟨hcourse, .act (fun l => congrFun hlocks l) hsame fun _ => rfl, hstable, ?_, ?_⟩,
    h w ⟨fun l => ?_, hstable, fun t ht => ht⟩⟩
  · exact hm _ _ hs.inv hcourse hs.known
  · exact Honest.of_current (hmanifest s)
  · by_cases hl : l = .manifest
    · subst hl
      have hnow : w.held .manifest = some (protectedView sealed .manifest (update s)) :=
        congrArg (Option.map _) hheld
      rw [hnow, Hand.put_self]
      exact Or.inl (congrArg some (Prod.ext (hmanifest s) (hflag.trans hflagged)))
    · rw [Hand.put_ne _ _ hl]
      cases hin : m.held l with
      | none => exact Or.inl (congrArg (Option.map _) hin)
      | some v =>
        have hnow : w.held l = some (protectedView sealed l (update s)) :=
          congrArg (Option.map _) hin
        by_cases hloose : Loose sealed x.status l
        · exact Or.inr ⟨hloose, by rw [hnow]; rfl, rfl⟩
        · exact Or.inl (hnow.trans (congrArg some ((hfirm l hl hloose).trans (hs.view l v hin))))

/-- `save_manifest_unlocked`, of a run that is open. -/
theorem obeys_saveManifestUnlocked {manifest c : RunManifest} {flagged : Bool}
    (hm : Steady sealed m) (hnone : m.held .manifest = none)
    (hreplaces : c.status.terminal = true → sealed = none ∧ manifest.status = c.status)
    (hcancels : c.status.terminal = false → flagged = true ∨ c.status = .cancelling →
      manifest.status.cancels = true)
    (hopen : manifest.status ≠ .completed) :
    Obeys (custody sealed) me (fun r k => (k.held .manifest).isSome = true ∧
        Onward sealed strict (Returns (fun _ _ => True) r) m (k.put .manifest none))
      (saveManifestUnlocked manifest) (m.put .manifest (some (some c, flagged))) := by
  refine Obeys.ensure (fun _ => ?_) fun _ => Onward.dropped hnone hm fun _ _ => trivial
  refine obeys_replace (k := fun _ => .pure ()) hm (Hand.put_self ..) (fun _ => rfl)
    (fun _ => ⟨rfl, rfl, rfl, rfl, rfl⟩) hreplaces hcancels (fun hx binds hd => ?_) fun w hw => ?_
  · exact absurd hx hopen
  · rw [Hand.put_put] at hw
    exact ⟨hw.still, Onward.drop hnone ((hw.mono fun _ _ => trivial).relax
      fun _ hl => hopen hl.2.1)⟩

/-- **`save_manifest`** of a manifest that is honest about completion. -/
theorem orderly_saveManifest {manifest : RunManifest} (hK : ∀ s, K s → Honest manifest s) :
    Orderly sealed me ρ loose K (fun _ _ => True) (saveManifest me manifest) := by
  intro m hm _ hknown
  refine obeys_withLock fun v hnone => ?_
  refine Obeys.read (custody_lawful sealed) fun s hs => ?_
  have hview : (s.manifest, s.flagAtLock) = v := hs.view .manifest v (Hand.put_self ..)
  obtain ⟨c, hc⟩ := hs.inv.present
  rw [hc]
  dsimp only
  split
  · exact Onward.dropped hnone hm fun _ _ => trivial
  case isFalse hopen =>
    refine Obeys.read (custody_lawful sealed) fun t ht => ?_
    split
    · exact Onward.dropped hnone hm fun _ _ => trivial
    case isFalse hflag =>
      have hview' : (t.manifest, t.flagAtLock) = v := ht.view .manifest v (Hand.put_self ..)
      -- no cancellation was requested when the lock was taken
      have hunflagged : t.flagAtLock = false := by
        by_contra hbad
        exact hflag (ht.inv.flagAtLock (Bool.eq_true_of_not_eq_false hbad))
      have hv : v = (some c, false) := by
        rw [← hview, hc]
        exact congrArg (Prod.mk (some c)) ((congrArg Prod.snd (hview.trans hview'.symm)).trans
          hunflagged)
      simp only [Bool.or_eq_true, beq_iff_eq, not_or, Bool.not_eq_true] at hopen
      have hne : manifest.status ≠ .completed := by
        intro hx
        have hcompleted := hK s (hknown s hs.known) hx
        rw [completed, hc] at hcompleted
        have hstatus : c.status = .completed := by simpa using hcompleted
        rw [hstatus] at hopen
        exact absurd hopen.1 (by decide)
      rw [hv]
      refine (obeys_saveManifestUnlocked hm hnone (fun hbad => ?_) (fun _ hbad => ?_)
        fun hx => absurd hx hne).mono fun r k hk => ⟨hk.1, hk.2.relax fun _ hf => hf.elim⟩
      · rw [hopen.1] at hbad
        cases hbad
      · rcases hbad with hbad | hbad
        · cases hbad
        · exact absurd hbad hopen.2

/-- **`save_manifest_after_terminal`** of a completed run, where results are amended. -/
theorem orderly_saveManifestAfterTerminal {manifest : RunManifest}
    (hstatus : manifest.status = .completed) (hK : ∀ s, K s → completed s = true) :
    Orderly none me ρ loose K (fun _ _ => True) (saveManifestAfterTerminal me manifest) := by
  intro m hm _ hknown
  refine obeys_withLock fun v hnone => ?_
  refine Obeys.ensure (fun _ => ?_) fun _ => Onward.dropped hnone hm fun _ _ => trivial
  intro s hs _
  have hview : (s.manifest, s.flagAtLock) = v := hs.view .manifest v (Hand.put_self ..)
  have hcompleted := hK s (hknown s hs.known)
  obtain ⟨c, hc⟩ := hs.inv.present
  have hcstatus : c.status = .completed := by
    rw [completed, hc] at hcompleted
    simpa using hcompleted
  have hv : v = (some c, s.flagAtLock) := by
    rw [← hview, hc]
  have hsave : Obeys (custody none) me (fun r k => (k.held .manifest).isSome = true ∧
      Onward none loose (Returns (fun (_ : Unit) _ => True) r) m (k.put .manifest none))
      (Prog.modify fun s => { s with manifest := some manifest } : Proc Unit)
      (m.put .manifest (some v)) := by
    rw [hv]
    refine obeys_replace (k := fun _ => .pure ()) hm (Hand.put_self ..) (fun _ => rfl)
      (fun _ => ⟨rfl, rfl, rfl, rfl, rfl⟩) (fun _ => ⟨rfl, hstatus.trans hcstatus.symm⟩)
      (fun hopen => ?_) (fun _ _ hd => by cases hd) fun w hw => ?_
    · rw [hcstatus] at hopen
      cases hopen
    · rw [Hand.put_put] at hw
      exact ⟨hw.still, Onward.drop hnone ((hw.mono fun _ _ => trivial).relax
        fun _ hl => by cases hl.1)⟩
  exact hsave s hs rfl

/-! ### Transitions -/

theorem leaves_freshId : Leaves course Proc.freshId :=
  ⟨fun _ _ => rfl, fun _ => trivial⟩

/-- What is left of a hand when the manifest lock is dropped. -/
def Ended (sealed : Seal) (loose : Lock → Prop) (P : α → RunDir → Prop) (m : RunHand)
    (r : Except String α) (k : RunHand) : Prop :=
  (k.held .manifest).isSome = true ∧ Onward sealed loose (Returns P r) m (k.put .manifest none)

theorem Ended.of_onward {P : α → RunDir → Prop} {r : Except String α} {k : RunHand}
    {v : Protected .manifest} (hnone : m.held .manifest = none)
    (h : Onward sealed loose (Returns P r) (m.put .manifest (some v)) k) :
    Ended sealed loose P m r k :=
  ⟨h.still, h.drop hnone⟩

/-- What transitions return: a manifest that is honest about completion. -/
def Reached (a : RunStatus × RunManifest) (s : RunDir) : Prop :=
  Honest a.2 s

theorem obeys_commit {runId : String} {p : PendingTransition} {c next : RunManifest}
    {flagged : Bool} (hm : Steady sealed m) (hnone : m.held .manifest = none)
    (hopen : c.status.terminal = false)
    (hcancels : flagged = true ∨ c.status = .cancelling → next.status.cancels = true)
    (hcompletes : next.status = .completed → Completes sealed m next) :
    Obeys (custody sealed) me (Ended sealed (Loose sealed next.status) Reached m)
      (commit me runId p next)
      (m.put .manifest (some (some c, flagged))) := by
  have hfails : Ended sealed (Loose sealed next.status) Reached m
      (.error "run manifest does not match its schema")
      (m.put .manifest (some (some c, flagged))) := by
    refine Ended.of_onward (v := (some c, flagged)) hnone ?_
    exact Onward.refl hm fun _ _ => trivial
  refine Obeys.bind (Obeys.ensure (fun _ => ?_) fun _ => hfails)
  refine obeys_replace (k := fun _ => .pure ()) hm (Hand.put_self ..) (fun _ => rfl)
    (fun _ => ⟨rfl, rfl, rfl, rfl, rfl⟩) (fun hbad => ?_) (fun _ => hcancels)
    (fun hx => ?_) fun w hw => ?_
  · rw [hopen] at hbad
    cases hbad
  · exact (hcompletes hx).put (by decide) (by decide)
  · rw [Hand.put_put] at hw
    have hw' : Steady sealed w := hw.stable
    have hdata : ∀ id, (PendingTransition.data p).transitionId? = some id →
        "run.transition" = "run.transition" := fun _ _ => rfl
    have hevent : Orderly sealed me (fun _ => True) strict (fun _ => True) (fun _ _ => True)
        (eventAt me runId "run.transition" p.phase none none (PendingTransition.data p)
          p.timestamp) :=
      orderly_eventAt hdata
    refine Obeys.bind (Obeys.attempt ((hevent w hw' trivial fun _ _ => trivial).mono
      fun r k hk => ?_))
    have hend : Ended sealed (Loose sealed next.status) Reached m (.ok (p.to, next)) k := by
      refine Ended.of_onward (v := (some next, flagged)) hnone (hw.trans ?_)
      exact ⟨fun l => Or.inl (hk.same l), hk.stable, fun s hs =>
        ⟨(hk.known s hs).1, (hw.known s (hk.known s hs).1).2⟩⟩
    cases r with
    | ok e => exact Obeys.bind (obeys_removePending hend)
    | error e => exact hend

theorem obeys_carryOut {c manifest : RunManifest} {status : RunStatus} {phase : Option String}
    {detail : String} {flagged : Bool} (hm : Steady sealed m) (hnone : m.held .manifest = none)
    (hopen : c.status.terminal = false)
    (hcompletes : status = .completed → ∀ c phase now,
      Completes sealed m (nextManifest c manifest .completed phase now)) :
    Obeys (custody sealed) me (Ended sealed (Loose sealed status) Reached m)
      (carryOut me c manifest status phase detail) (m.put .manifest (some (some c, flagged))) := by
  have hfails : ∀ e, Ended sealed (Loose sealed status) Reached m (.error e)
      (m.put .manifest (some (some c, flagged))) := by
    refine fun e => Ended.of_onward (v := (some c, flagged)) hnone ?_
    exact Onward.refl hm fun _ _ => trivial
  refine Obeys.read (custody_lawful sealed) fun s hs => ?_
  have hview : (s.manifest, s.flagAtLock) = (some c, flagged) :=
    hs.view .manifest _ (Hand.put_self ..)
  -- what was requested when the lock was taken still is
  have hrequested : flagged = true → s.cancelRequested = true := by
    intro hf
    refine hs.inv.flagAtLock ?_
    rw [← hf]
    exact congrArg Prod.snd hview
  refine Obeys.answer fun updatedAt => ?_
  refine Obeys.ensure (fun _ => ?_) fun _ => hfails _
  refine obeys_after leaves_freshId (fun id => ?_) hfails
  refine Obeys.answer fun timestamp => ?_
  refine obeys_after ((leaves_modify _).mpr fun _ => rfl) (fun _ => ?_) hfails
  -- a transition asks for the status that it reaches, unless a cancellation wins
  have hstatus : effectiveStatus (s.cancelRequested || c.status == .cancelling) status =
      .completed → status = .completed := by
    intro hx
    rcases effectiveStatus_eq_or (s.cancelRequested || c.status == .cancelling) status with
      heq | heq
    · exact heq.symm.trans hx
    · rw [heq] at hx
      cases hx
  refine (obeys_commit hm hnone hopen (fun hf => ?_) fun hx => ?_).mono fun r k hk =>
    ⟨hk.1, hk.2.relax fun _ hl => ⟨hl.1, hstatus hl.2.1, hl.2.2⟩⟩
  · have hwins : (s.cancelRequested || c.status == .cancelling) = true := by
      rcases hf with hf | hf
      · rw [hrequested hf, Bool.true_or]
      · rw [hf]
        exact Bool.or_true _
    rw [nextManifest_status, hwins]
    exact effectiveStatus_cancels status
  · rw [nextManifest_status] at hx
    rw [hx]
    exact hcompletes (hstatus hx) _ _ _

/-- The flag is set. -/
theorem obeys_flag {Q : Except String β → RunHand → Prop} {k : Unit → Proc β}
    {update : RunDir → RunDir} (hset : ∀ s, (update s).cancelRequested = true)
    (hsame : ∀ s, (update s).manifest = s.manifest ∧ (update s).flagAtLock = s.flagAtLock ∧
      (update s).events = s.events ∧ (update s).result = s.result ∧ (update s).locks = s.locks)
    (h : Obeys (custody sealed) me Q (k ()) m) :
    Obeys (custody sealed) me Q (Prog.modify update >>= k) m := by
  refine Obeys.modify fun s hs => ?_
  obtain ⟨hmanifest, hlock, hevents, hresult, hlocks⟩ := hsame s
  have hentry : s.locks .manifest = none →
      (update s).locks .manifest = none ∨ (update s).flagAtLock = s.cancelRequested :=
    fun hfree => Or.inl ((congrFun hlocks .manifest).trans hfree)
  exact ⟨m, .aside hs ⟨fun _ => hset s, Or.inl hlock, hentry, Or.inl hmanifest,
    fun _ => Or.inl hresult, Or.inl hevents⟩ (fun l => congrFun hlocks l) fun l =>
    protectedView_same hmanifest hlock hevents hresult l, h⟩

/-- **`transition`**: to `completed` only with the result in hand. -/
theorem obeys_transition {manifest : RunManifest} {status : RunStatus} {phase : Option String}
    {detail : String} (hm : Steady sealed m)
    (hcompletes : status = .completed → ∀ c phase now,
      Completes sealed m (nextManifest c manifest .completed phase now)) :
    Obeys (custody sealed) me
      (fun r k => Onward sealed (Loose sealed status) (Returns Reached r) m k)
      (transition me manifest status phase detail) m := by
  refine obeys_withLock fun v hnone => ?_
  refine Obeys.read (custody_lawful sealed) fun s hs => ?_
  obtain ⟨c, hc⟩ := hs.inv.present
  rw [hc]
  dsimp only
  have hput : Steady sealed (m.put .manifest (some v)) := hm
  refine Obeys.bind ((obeys_loadManifest hput).mono fun r k hk => ?_)
  have hnow : k.held .manifest = some v := by
    rw [hk.1.same .manifest, Hand.put_self]
  cases r with
  | error e => exact Ended.of_onward hnone (hk.1.relax fun _ hf => hf.elim)
  | ok current =>
    have hmid : Onward sealed strict (fun s => Honest current s) m (k.put .manifest none) :=
      hk.1.drop hnone
    have hsteady : Steady sealed (k.put .manifest none) := hmid.stable
    -- the manifest that was loaded is the one in hand
    obtain ⟨v₁, flagged⟩ := v
    obtain rfl : v₁ = some current := (hk.2 current rfl).1 _ (Hand.put_self ..)
    have hback : (k.put .manifest none).put .manifest (some (some current, flagged)) = k := by
      rw [Hand.put_put]
      exact Hand.put_held hnow
    show Obeys _ _ _ (transitionFrom me current manifest status phase detail) k
    unfold transitionFrom
    split
    case isTrue =>
      refine ⟨by rw [hnow]; rfl, ⟨fun l => Or.inl (hmid.same l), hmid.stable, fun s hs => ?_⟩⟩
      exact hmid.known s hs
    case isFalse hterminal =>
      have hopen : current.status.terminal = false := Bool.eq_false_of_not_eq_true hterminal
      have hcompletes' : status = .completed → ∀ c phase now, Completes sealed
          (k.put .manifest none) (nextManifest c manifest .completed phase now) := by
        intro hx c phase now binds hbinds
        rw [hmid.same .run, hmid.same .activePids]
        exact hcompletes hx c phase now binds hbinds
      have hcarry : Obeys (custody sealed) me
          (Ended sealed (Loose sealed status) Reached (k.put .manifest none))
          (carryOut me current manifest status phase detail)
          ((k.put .manifest none).put .manifest (some (some current, flagged))) :=
        obeys_carryOut hsteady (Hand.put_self ..) hopen hcompletes'
      rw [hback] at hcarry
      have hend := hcarry.mono fun r w (hw : Ended sealed (Loose sealed status) Reached _ r w) =>
        And.intro hw.1 ((hmid.relax fun _ hf => hf.elim).trans hw.2)
      split
      · exact obeys_flag (fun _ => rfl) (fun _ => ⟨rfl, rfl, rfl, rfl, rfl⟩) hend
      · exact hend

theorem orderly_transition {manifest : RunManifest} {status : RunStatus} {phase : Option String}
    {detail : String} (hstatus : status ≠ .completed) :
    Orderly sealed me ρ loose K Reached (transition me manifest status phase detail) := by
  intro m hm _ _
  exact (obeys_transition hm fun hx => absurd hx hstatus).mono fun r k hk =>
    hk.relax fun _ hl => absurd hl.2.1 hstatus

/-! ### Cancelling -/

/-- The result of a run that is not completed changes, with the lock on the active
    processes in hand. -/
theorem obeys_result {Q : Except String β → RunHand → Prop} {k : Unit → Proc β}
    {o o' : Option ResultEnvelope} (hheld : m.held .activePids =
      some (if sealed.isSome then (o, false) else (none, false)))
    (h : Obeys (custody sealed) me Q (k ())
      (m.put .activePids (some (if sealed.isSome then (o', false) else (none, false))))) :
    Obeys (custody sealed) me Q (Prog.modify (fun s => { s with result := o' }) >>= k) m := by
  refine Obeys.modify fun s hs => ⟨_, ?_, h⟩
  have hview : protectedView sealed .activePids s = _ := hs.view .activePids _ hheld
  have hopen : sealed.isSome = true → completed s = false := by
    intro hsealed
    obtain ⟨binds, hbinds⟩ := Option.isSome_iff_exists.mp hsealed
    rw [protectedView_sealed hbinds, if_pos hsealed] at hview
    exact congrArg Prod.snd hview
  have hcourse : Course sealed s { s with result := o' } :=
    ⟨id, Or.inl rfl, Or.inl, Or.inl rfl, fun hsealed => Or.inr ⟨hopen hsealed, rfl⟩, Or.inl rfl⟩
  have hstep := hs.write hcourse (fun _ => rfl) (l := .activePids) (by rw [hheld]; rfl)
    fun l' hne => by cases l' <;> first | rfl | exact absurd rfl hne
  have hafter : protectedView sealed .activePids { s with result := o' } =
      if sealed.isSome then (o', false) else (none, false) := by
    cases hsealed : sealed with
    | none => rfl
    | some binds => exact Prod.ext rfl (hopen (by rw [hsealed]; rfl))
  exact hafter ▸ hstep

theorem orderly_requestCancellation :
    Orderly sealed me ρ loose K (fun _ _ => True) (requestCancellation me) := by
  intro m hm _ _
  refine obeys_withLock fun v hnone => ?_
  refine Obeys.read (custody_lawful sealed) fun s hs => ?_
  obtain ⟨c, hc⟩ := hs.inv.present
  rw [hc]
  dsimp only
  split
  · exact Onward.dropped hnone hm fun _ _ => trivial
  case isFalse hopen =>
    have hview : protectedView sealed .activePids s = v := hs.view .activePids v (Hand.put_self ..)
    have hv : v = if sealed.isSome then (s.result, false) else (none, false) := by
      rw [← hview]
      have hcompleted : completed s = false := by
        rw [completed, hc]
        cases hstatus : c.status <;> simp_all [RunStatus.terminal]
      cases sealed with
      | none => rfl
      | some binds => exact Prod.ext rfl hcompleted
    rw [hv]
    refine obeys_flag (fun _ => rfl) (fun _ => ⟨rfl, rfl, rfl, rfl, rfl⟩) ?_
    refine obeys_result (Hand.put_self ..) ?_
    rw [Hand.put_put]
    have hend : ∀ r : Except String (RunStatus × List ActiveProcess), ∀ v',
        (((m.put .activePids (some v')).held .activePids).isSome = true ∧
          Onward sealed loose (Returns (fun _ _ => True) r) m
            ((m.put .activePids (some v')).put .activePids none)) := by
      intro r v'
      refine Onward.dropped hnone hm fun _ _ => ?_
      cases r <;> trivial
    refine obeys_after ((leaves_modify _).mpr fun _ => rfl) (fun _ => ?_) fun _ => hend _ _
    exact Obeys.read (custody_lawful sealed) fun t _ => hend _ _

/-! ### The other operations -/

theorem orderly_events : Orderly sealed me ρ loose K (fun _ _ => True) (events me) := by
  refine Orderly.bind orderly_loadManifest fun manifest => ?_
  refine Orderly.bind orderly_recoverPendingTransition fun _ => ?_
  intro m hm _ _
  refine obeys_withLock fun es hnone => ?_
  refine Obeys.read (custody_lawful sealed) fun s _ => ?_
  refine Obeys.ensure (fun _ => ?_) fun _ => Onward.dropped hnone hm fun _ _ => trivial
  exact Onward.dropped hnone hm fun _ _ => trivial

/-- What runs under the run lock. -/
theorem Orderly.withRunLock {P : α → RunDir → Prop} {p : Proc α}
    (hp : Orderly sealed me (fun o => o.isSome = true) (fun l => l = .run) K P p) :
    Orderly sealed me ρ loose K P (withRunLock me p) := by
  intro m hm _ hknown
  refine obeys_withRunLock (fun v hnone => ?_) fun e => Onward.refl hm fun _ _ => trivial
  have hin : ((m.put .run (some v)).held .run).isSome = true := by
    rw [Hand.put_self]
    rfl
  refine (hp (m.put .run (some v)) hm hin hknown).mono fun r k hk => ⟨hk.still, ?_⟩
  refine ⟨fun l => ?_, hk.stable, hk.known⟩
  by_cases hl : l = .run
  · subst hl
    exact Or.inl ((Hand.put_self ..).trans hnone.symm)
  · rw [Hand.put_ne _ _ hl, hk.firm hl, Hand.put_ne _ _ hl]
    exact Or.inl rfl

end operations

end Quinte.Store
