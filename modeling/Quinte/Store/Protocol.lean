import Mathlib
import Quinte.Framework.Pool
import Quinte.Store.Journal

/-! # The protocol of the store

    What the processes of one run directory may do to the part of it that
    decides its course, as a relation on `Control`: which lock a step needs,
    and what it may write.  The store's programs are shown to keep to it in
    `Store.Operations`; the properties of runs are derived from it.

    Three regimes differ in what else the processes agree to:

    * `journaled`: every manifest is written by a transition;
    * `unrestricted`: the store's operations in any order, with any manifest;
    * `guarded`: a result is published, and a run is cancelled, only under the
      lock on the active processes.
-/

namespace Quinte

open Program

/-- A terminal run, or one that is being cancelled. -/
def RunStatus.closing (status : RunStatus) : Bool :=
  status.terminal || status == .cancelling

theorem RunStatus.closing_of_cancels {status : RunStatus} (h : status.cancels = true) :
    status.closing = true := by
  revert h
  cases status <;> decide

namespace Store

inductive Regime where
  | journaled
  | unrestricted
  | guarded (digest : ResultEnvelope → Digest)

/-- The events are numbered from 1 without a gap. -/
def Sequenced (events : List Event) : Prop :=
  events.map (·.sequence) = (List.range events.length).map (· + 1)

/-- The ids of the transitions in the ledger. -/
def logged (s : Control) : List Nat :=
  s.events.filterMap (·.data.transitionId?)

/-! ### Steps -/

/-- A result that may become that of the run: the process `me` publishes it
    alone and no cancellation came before. -/
structure Publishable (digest : ResultEnvelope → Digest) (me : Pid) (m : RunManifest)
    (s : Control) : Prop where
  run : s.locks .run = some me
  activePids : s.locks .activePids = some me
  flag : s.cancelRequested = false
  result : ∃ r, s.result = some r ∧ m.resultSha256 = some (digest r)

/-- One step of the process `me`. -/
inductive StoreStep (R : Regime) (me : Pid) (s : Control) : Control → Prop where
  | idle : StoreStep R me s s
  | take (l : Lock) (free : s.locks l = none) : StoreStep R me s (s.take me l)
  | drop (l : Lock)
      (clean : ∀ d, R = .guarded d → l = .activePids → s.locks .activePids = some me →
        s.publishing = true → s.result = none ∧ s.report = false) : StoreStep R me s (s.drop me l)
  | freshId : StoreStep R me s { s with nextId := s.nextId + 1 }
  | flag (again : ∀ d, R = .guarded d → s.cancelRequested = true) :
      StoreStep R me s { s with cancelRequested := true }
  | publish (held : s.locks .activePids = some me)
      (open_ : ∀ d m, R = .guarded d → s.manifest = some m → m.status ≠ .completed) :
      StoreStep R me s { s with cancelRequested := true, publishing := true }
  | prepare (p : PendingTransition) (held : s.locks .manifest = some me)
      (known : p.transitionId < s.nextId) (fresh : p.transitionId ∉ s.replaced)
      (empty : R = .journaled → s.pending = none)
      (source : ∀ m, s.manifest = some m → m.status = p.from)
      (allowed : transitionAllowed p.from p.to = true) :
      StoreStep R me s { s with pending := some p, intent := some p }
  | replace (p : PendingTransition) (m : RunManifest) (held : s.locks .manifest = some me)
      (intent : s.intent = some p) (known : p.transitionId < s.nextId)
      (fresh : p.transitionId ∉ s.replaced) (source : ∀ c, s.manifest = some c → c.status = p.from)
      (open_ : p.from.terminal = false) (target : m.status = p.to)
      (allowed : transitionAllowed p.from p.to = true)
      (flagged : s.flagAtLock = true → m.status.cancels = true)
      (runId : R = .journaled → m.runId ≠ "")
      (cancelled : ∀ d, R = .guarded d → m.status.cancels = true → s.cancelRequested = true)
      (completed : ∀ d, R = .guarded d → m.status = .completed → Publishable d me m s) :
      StoreStep R me s
        { s with manifest := some m, replaced := s.replaced ++ [p.transitionId] }
  | save (m : RunManifest) (held : s.locks .manifest = some me) (regime : R ≠ .journaled)
      (unflagged : ∀ c, s.manifest = some c → s.flagAtLock = false)
      (open_ : ∀ c, s.manifest = some c → c.status.closing = false)
      (status : ∀ d, R = .guarded d → m.status.closing = false) :
      StoreStep R me s { s with manifest := some m }
  | log (e : Event) (held : s.locks .events = some me)
      (sequence : e.sequence = s.events.length + 1)
      (durable : R = .journaled → ∀ id, e.data.transitionId? = some id → id ∈ s.replaced) :
      StoreStep R me s { s with events := s.events ++ [e] }
  | clear : StoreStep R me s { s with pending := none }
  | present (r : ResultEnvelope)
      (guard : ∀ d, R = .guarded d → s.locks .run = some me ∧ s.locks .activePids = some me ∧
        s.cancelRequested = false ∧ ∀ m, s.manifest = some m → m.status ≠ .completed) :
      StoreStep R me s { s with result := some r }
  | report (guard : ∀ d, R = .guarded d →
        s.locks .activePids = some me ∧ s.cancelRequested = false) :
      StoreStep R me s { s with report := true }
  | withdraw
      (guard : ∀ d, R = .guarded d → s.locks .activePids = some me ∧ s.publishing = true) :
      StoreStep R me s { s with result := none }
  | withdrawReport (guard : ∀ d, R = .guarded d → s.locks .activePids = some me) :
      StoreStep R me s { s with report := false }

/-! ### Invariants -/

/-- Where a transition that was written down stands. -/
def Placed (p : PendingTransition) (m : RunManifest) (s : Control) : Prop :=
  (p.transitionId ∈ s.replaced ∧ m.status = p.to) ∨
    (p.transitionId ∉ s.replaced ∧ m.status = p.from)

/-- What the journaled regime keeps. -/
structure Journaled (s : Control) : Prop where
  manifest : ∃ m, s.manifest = some m ∧ m.runId ≠ ""
  pending : ∀ p m, s.pending = some p → s.manifest = some m →
    Placed p m s ∧ transitionAllowed p.from p.to = true
  intent : ∀ p q, s.intent = some p → p.transitionId ∉ s.replaced → s.pending = some q → q = p
  ledger : ∀ id ∈ logged s, id ∈ s.replaced

/-- What the guarded regime keeps. -/
structure Guarded (digest : ResultEnvelope → Digest) (s : Control) : Prop where
  completed : ∀ m, s.manifest = some m → m.status = .completed →
    ∃ r, s.result = some r ∧ m.resultSha256 = some (digest r)
  cancels : ∀ m, s.manifest = some m → m.status.cancels = true → s.cancelRequested = true
  publishing : ∀ m, s.manifest = some m → s.publishing = true → m.status ≠ .completed

/-- What holds between any two steps. -/
structure StoreInv (R : Regime) (s : Control) : Prop where
  ids : ∀ id ∈ s.replaced, id < s.nextId
  sequences : Sequenced s.events
  intent : s.locks .manifest = none → s.intent = none
  publishing : s.locks .activePids = none → s.publishing = false
  published : s.publishing = true → s.cancelRequested = true
  flagAtLock : s.flagAtLock = true → s.cancelRequested = true
  journaled : R = .journaled → Journaled s
  guarded : ∀ d, R = .guarded d → Guarded d s

/-- The protocol of the store's processes. -/
def storeProtocol (R : Regime) : Protocol Pid RunDir where
  inv s := StoreInv R s.toControl
  guar me s s' := StoreStep R me s.toControl s'.toControl
  crash me s := s.control (·.release me)

/-! ### Every step keeps the invariant -/

theorem logged_append (s : Control) (e : Event) :
    logged { s with events := s.events ++ [e] } = logged s ++ e.data.transitionId?.toList := by
  cases h : e.data.transitionId? <;> simp [logged, h]

theorem Journaled.of_locks {s s' : Control} (h : Journaled s) (hm : s'.manifest = s.manifest)
    (hp : s'.pending = s.pending) (hi : s'.intent = s.intent ∨ s'.intent = none)
    (he : s'.events = s.events) (hr : s'.replaced = s.replaced) : Journaled s' := by
  refine ⟨hm ▸ h.manifest, ?_, ?_, ?_⟩
  · intro p m hp' hm'
    rw [hp] at hp'
    rw [hm] at hm'
    simpa only [Placed, hr] using h.pending p m hp' hm'
  · intro p q hp' hfresh hq
    rw [hr] at hfresh
    rw [hp] at hq
    rcases hi with hi | hi
    · exact h.intent p q (hi ▸ hp') hfresh hq
    · exact nomatch hi ▸ hp'
  · simpa only [logged, he, hr] using h.ledger

theorem Journaled.prepare {s : Control} (h : Journaled s) {p : PendingTransition}
    (fresh : p.transitionId ∉ s.replaced) (source : ∀ m, s.manifest = some m → m.status = p.from)
    (allowed : transitionAllowed p.from p.to = true) :
    Journaled { s with pending := some p, intent := some p } := by
  refine ⟨h.manifest, ?_, ?_, h.ledger⟩
  · rintro q m ⟨⟩ hm
    exact ⟨Or.inr ⟨fresh, source m hm⟩, allowed⟩
  · rintro q q' ⟨⟩ _ ⟨⟩
    rfl

theorem Journaled.replace {s : Control} (h : Journaled s) {p : PendingTransition}
    {m : RunManifest} (intent : s.intent = some p) (fresh : p.transitionId ∉ s.replaced)
    (target : m.status = p.to) (runId : m.runId ≠ "") :
    Journaled { s with manifest := some m, replaced := s.replaced ++ [p.transitionId] } := by
  refine ⟨⟨m, rfl, runId⟩, ?_, ?_, ?_⟩
  · -- the record on disk, if there still is one, is that of the transition carried out
    rintro q c hq ⟨⟩
    obtain rfl : q = p := h.intent p q intent fresh hq
    obtain ⟨c, hc, -⟩ := h.manifest
    exact ⟨Or.inl ⟨by simp, target⟩, (h.pending q c hq hc).2⟩
  · intro q q' hq hfresh
    obtain rfl : p = q := Option.some.inj (intent.symm.trans hq)
    simp at hfresh
  · exact fun id hid => List.mem_append_left _ (h.ledger id hid)

theorem Journaled.log {s : Control} (h : Journaled s) {e : Event}
    (durable : ∀ id, e.data.transitionId? = some id → id ∈ s.replaced) :
    Journaled { s with events := s.events ++ [e] } := by
  refine ⟨h.manifest, h.pending, h.intent, ?_⟩
  intro id hid
  rw [logged_append, List.mem_append, Option.mem_toList] at hid
  rcases hid with hid | hid
  · exact h.ledger id hid
  · exact durable id hid

theorem Journaled.clear {s : Control} (h : Journaled s) :
    Journaled { s with pending := none } :=
  ⟨h.manifest, fun _ _ hp => (nomatch hp), fun _ _ _ _ hq => (nomatch hq), h.ledger⟩

theorem Guarded.of_manifest {digest : ResultEnvelope → Digest} {s s' : Control}
    (h : Guarded digest s) (hm : s'.manifest = s.manifest) (hr : s'.result = s.result)
    (hf : s.cancelRequested = true → s'.cancelRequested = true)
    (hp : s'.publishing = true → s.publishing = true) : Guarded digest s' := by
  refine ⟨?_, ?_, ?_⟩
  · intro m hm' hc
    rw [hr]
    exact h.completed m (hm ▸ hm') hc
  · exact fun m hm' hc => hf (h.cancels m (hm ▸ hm') hc)
  · exact fun m hm' hc => h.publishing m (hm ▸ hm') (hp hc)

theorem Sequenced.append {events : List Event} {e : Event} (h : Sequenced events)
    (he : e.sequence = events.length + 1) : Sequenced (events ++ [e]) := by
  unfold Sequenced at h ⊢
  rw [List.length_append, List.length_singleton, List.range_succ]
  simp [h, he]

theorem StoreInv.take {R : Regime} {s : Control} (h : StoreInv R s) (me : Pid) (l : Lock) :
    StoreInv R (s.take me l) := by
  have hlock : ∀ l', (s.take me l).locks l' = none → s.locks l' = none := by
    intro l' hl'
    by_cases hl : l' = l
    · rw [hl, s.take_locks_self me l] at hl'
      exact nomatch hl'
    · rwa [s.take_locks_ne me hl] at hl'
  refine ⟨h.ids, h.sequences, fun hl => h.intent (hlock _ hl), fun hl => h.publishing (hlock _ hl),
    h.published, ?_, ?_, ?_⟩
  · intro hflag
    by_cases hl : l = .manifest
    · simpa [Control.take, Control.setLock, hl] using hflag
    · exact h.flagAtLock (by simpa [Control.take, hl] using hflag)
  · exact fun hR => (h.journaled hR).of_locks rfl rfl (Or.inl rfl) rfl rfl
  · exact fun d hd => (h.guarded d hd).of_manifest rfl rfl id id

theorem StoreInv.drop {R : Regime} {s : Control} (h : StoreInv R s) (me : Pid) (l : Lock) :
    StoreInv R (s.drop me l) := by
  by_cases hheld : s.locks l = some me
  · rw [Control.drop, if_pos hheld]
    -- another lock is as it was
    have hlock : ∀ l', l' ≠ l → (s.setLock l none).locks l' = none → s.locks l' = none :=
      fun l' hl' hnone => (s.setLock_ne none hl').symm.trans hnone
    have hpublishing : (if l = .activePids then false else s.publishing) = true →
        s.publishing = true := by
      split
      case isTrue => exact fun hp => nomatch hp
      case isFalse => exact id
    refine ⟨h.ids, h.sequences, ?_, ?_, fun hp => h.published (hpublishing hp), h.flagAtLock,
      ?_, ?_⟩
    · intro hnone
      by_cases hl : Lock.manifest = l
      · exact if_pos hl.symm
      · exact (if_neg (Ne.symm hl)).trans (h.intent (hlock _ hl hnone))
    · intro hnone
      by_cases hl : Lock.activePids = l
      · exact if_pos hl.symm
      · exact (if_neg (Ne.symm hl)).trans (h.publishing (hlock _ hl hnone))
    · intro hR
      refine (h.journaled hR).of_locks rfl rfl ?_ rfl rfl
      by_cases hl : l = .manifest
      · exact Or.inr (if_pos hl)
      · exact Or.inl (if_neg hl)
    · exact fun d hd => (h.guarded d hd).of_manifest rfl rfl id hpublishing
  · rwa [Control.drop, if_neg hheld]

/-- **Crash**: what the death of a process preserves. -/
theorem release_inv {R : Regime} {s : Control} (h : StoreInv R s) (me : Pid) :
    StoreInv R (s.release me) := by
  have hpublishing : (if s.locks .activePids = some me then false else s.publishing) = true →
      s.publishing = true := by
    split
    case isTrue => exact fun hp => nomatch hp
    case isFalse => exact id
  refine ⟨h.ids, h.sequences, ?_, ?_, fun hp => h.published (hpublishing hp), h.flagAtLock, ?_, ?_⟩
  · intro hnone
    by_cases hl : s.locks .manifest = some me
    · exact if_pos hl
    · exact (if_neg hl).trans (h.intent ((if_neg hl).symm.trans hnone))
  · intro hnone
    by_cases hl : s.locks .activePids = some me
    · exact if_pos hl
    · exact (if_neg hl).trans (h.publishing ((if_neg hl).symm.trans hnone))
  · intro hR
    refine (h.journaled hR).of_locks rfl rfl ?_ rfl rfl
    by_cases hl : s.locks .manifest = some me
    · exact Or.inr (if_pos hl)
    · exact Or.inl (if_neg hl)
  · exact fun d hd => (h.guarded d hd).of_manifest rfl rfl id hpublishing

/-- **Step**: what a step of the protocol preserves. -/
theorem step_inv {R : Regime} {me : Pid} {s s' : Control} (h : StoreInv R s)
    (hstep : StoreStep R me s s') : StoreInv R s' := by
  cases hstep with
  | idle => exact h
  | take l free => exact h.take me l
  | drop l clean => exact h.drop me l
  | freshId =>
    exact { h with
      ids := fun id hid => Nat.lt_succ_of_lt (h.ids id hid)
      journaled := fun hR => (h.journaled hR).of_locks rfl rfl (Or.inl rfl) rfl rfl
      guarded := fun d hd => (h.guarded d hd).of_manifest rfl rfl id id }
  | flag again =>
    exact { h with
      published := fun _ => rfl
      flagAtLock := fun _ => rfl
      journaled := fun hR => (h.journaled hR).of_locks rfl rfl (Or.inl rfl) rfl rfl
      guarded := fun d hd => (h.guarded d hd).of_manifest rfl rfl (fun _ => rfl) id }
  | publish held open_ =>
    refine ⟨h.ids, h.sequences, h.intent, ?_, fun _ => rfl, fun _ => rfl, ?_, ?_⟩
    · exact fun hl => nomatch held.symm.trans hl
    · exact fun hR => (h.journaled hR).of_locks rfl rfl (Or.inl rfl) rfl rfl
    · intro d hd
      have hg := h.guarded d hd
      exact ⟨hg.completed, fun _ _ _ => rfl, fun m hm _ => open_ d m hd hm⟩
  | prepare p held known fresh empty source allowed =>
    refine ⟨h.ids, h.sequences, ?_, h.publishing, h.published, h.flagAtLock, ?_, ?_⟩
    · exact fun hl => nomatch held.symm.trans hl
    · exact fun hR => (h.journaled hR).prepare fresh source allowed
    · exact fun d hd => (h.guarded d hd).of_manifest rfl rfl id id
  | replace p m held intent known fresh source open_ target allowed flagged runId cancelled completed =>
    refine ⟨?_, h.sequences, h.intent, h.publishing, h.published, h.flagAtLock, ?_, ?_⟩
    · intro id hid
      rcases List.mem_append.mp hid with hid | hid
      · exact h.ids id hid
      · rw [List.mem_singleton.mp hid]
        exact known
    · exact fun hR => (h.journaled hR).replace intent fresh target (runId hR)
    · intro d hd
      refine ⟨?_, ?_, ?_⟩
      · rintro c ⟨⟩ hc
        exact (completed d hd hc).result
      · rintro c ⟨⟩ hc
        exact cancelled d hd hc
      · rintro c ⟨⟩ hp hc
        have hflag := h.published hp
        rw [(completed d hd hc).flag] at hflag
        exact nomatch hflag
  | save m held regime unflagged open_ status =>
    refine { h with journaled := fun hR => absurd hR regime, guarded := ?_ }
    intro d hd
    have hm := status d hd
    refine ⟨?_, ?_, ?_⟩
    · rintro c ⟨⟩ hc
      rw [hc] at hm
      exact nomatch hm
    · rintro c ⟨⟩ hc
      rw [RunStatus.closing_of_cancels hc] at hm
      exact nomatch hm
    · rintro c ⟨⟩ _ hc
      rw [hc] at hm
      exact nomatch hm
  | log e held sequence durable =>
    exact { h with
      sequences := h.sequences.append sequence
      journaled := fun hR => (h.journaled hR).log (durable hR)
      guarded := fun d hd => (h.guarded d hd).of_manifest rfl rfl id id }
  | clear =>
    exact { h with
      journaled := fun hR => (h.journaled hR).clear
      guarded := fun d hd => (h.guarded d hd).of_manifest rfl rfl id id }
  | present r guard =>
    refine { h with
      journaled := fun hR => (h.journaled hR).of_locks rfl rfl (Or.inl rfl) rfl rfl
      guarded := fun d hd => ?_ }
    have hg := h.guarded d hd
    exact ⟨fun m hm hc => absurd hc ((guard d hd).2.2.2 m hm), hg.cancels, hg.publishing⟩
  | report guard =>
    exact { h with
      journaled := fun hR => (h.journaled hR).of_locks rfl rfl (Or.inl rfl) rfl rfl
      guarded := fun d hd => (h.guarded d hd).of_manifest rfl rfl id id }
  | withdraw guard =>
    refine { h with
      journaled := fun hR => (h.journaled hR).of_locks rfl rfl (Or.inl rfl) rfl rfl
      guarded := fun d hd => ?_ }
    have hg := h.guarded d hd
    exact ⟨fun m hm hc => absurd hc (hg.publishing m hm (guard d hd).2), hg.cancels, hg.publishing⟩
  | withdrawReport guard =>
    exact { h with
      journaled := fun hR => (h.journaled hR).of_locks rfl rfl (Or.inl rfl) rfl rfl
      guarded := fun d hd => (h.guarded d hd).of_manifest rfl rfl id id }

theorem storeProtocol_lawful (R : Regime) : (storeProtocol R).Lawful where
  guar_refl _ _ := StoreStep.idle
  guar_inv _ _ _ h hstep := step_inv h hstep
  crash_inv me _ h := release_inv h me

/-! ### What a process can rely on -/

theorem closing_of_allowed {source target : RunStatus} (h : transitionAllowed source target = true)
    (hsource : source.closing = true) (hopen : source.terminal = false) :
    target.closing = true := by
  revert h hsource hopen
  cases source <;> cases target <;> decide

/-- What has happened between `s` and `t`, where `me` has not let go of the
    locks in `K` and has not used them. -/
structure Keeps (R : Regime) (me : Pid) (K : Set Lock) (s t : Control) : Prop where
  locks : ∀ l ∈ K, s.locks l = some me → t.locks l = some me
  flag : s.cancelRequested = true → t.cancelRequested = true
  ids : s.nextId ≤ t.nextId
  replaced : ∀ id ∈ s.replaced, id ∈ t.replaced
  status : ∀ c, s.manifest = some c → ∃ c', t.manifest = some c' ∧
    (c.status.closing = true → c'.status.closing = true) ∧
    (R = .journaled → c.status.rank ≤ c'.status.rank)
  inManifest : .manifest ∈ K → s.locks .manifest = some me →
    t.manifest = s.manifest ∧ t.intent = s.intent ∧ t.flagAtLock = s.flagAtLock ∧
      t.replaced = s.replaced ∧ (s.pending = none → t.pending = none)
  inEvents : .events ∈ K → s.locks .events = some me → t.events = s.events
  inPids : .activePids ∈ K → s.locks .activePids = some me → t.publishing = s.publishing ∧
    ∀ d, R = .guarded d →
      t.cancelRequested = s.cancelRequested ∧ t.result = s.result ∧ t.report = s.report
  completed : .run ∈ K →
    (s.locks .run = some me ∨ (.activePids ∈ K ∧ s.locks .activePids = some me)) →
    ∀ d, R = .guarded d → (∀ c, s.manifest = some c → c.status ≠ .completed) →
      ∀ c, t.manifest = some c → c.status ≠ .completed

namespace Keeps

variable {R : Regime} {me : Pid} {K K' : Set Lock} {s t u : Control}

theorem refl (R : Regime) (me : Pid) (K : Set Lock) (s : Control) : Keeps R me K s s where
  locks _ _ h := h
  flag := id
  ids := le_rfl
  replaced _ h := h
  status c h := ⟨c, h, id, fun _ => le_rfl⟩
  inManifest _ _ := ⟨rfl, rfl, rfl, rfl, id⟩
  inEvents _ _ := rfl
  inPids _ _ := ⟨rfl, fun _ _ => ⟨rfl, rfl, rfl⟩⟩
  completed _ _ _ _ h := h

theorem mono (h : Keeps R me K s t) (hK : K' ⊆ K) : Keeps R me K' s t where
  locks l hl := h.locks l (hK hl)
  flag := h.flag
  ids := h.ids
  replaced := h.replaced
  status := h.status
  inManifest hl := h.inManifest (hK hl)
  inEvents hl := h.inEvents (hK hl)
  inPids hl := h.inPids (hK hl)
  completed hl hs := h.completed (hK hl) (hs.imp_right (And.imp_left fun hl => hK hl))

theorem trans (h : Keeps R me K s t) (h' : Keeps R me K t u) : Keeps R me K s u where
  locks l hl hs := h'.locks l hl (h.locks l hl hs)
  flag hs := h'.flag (h.flag hs)
  ids := h.ids.trans h'.ids
  replaced id hs := h'.replaced id (h.replaced id hs)
  status c hs := by
    obtain ⟨c', ht, hclosing, hrank⟩ := h.status c hs
    obtain ⟨c'', hu, hclosing', hrank'⟩ := h'.status c' ht
    exact ⟨c'', hu, fun hc => hclosing' (hclosing hc), fun hR => (hrank hR).trans (hrank' hR)⟩
  inManifest hl hs := by
    obtain ⟨hm, hi, hf, hr, hp⟩ := h.inManifest hl hs
    obtain ⟨hm', hi', hf', hr', hp'⟩ := h'.inManifest hl (h.locks _ hl hs)
    exact ⟨hm'.trans hm, hi'.trans hi, hf'.trans hf, hr'.trans hr, fun hnone => hp' (hp hnone)⟩
  inEvents hl hs := (h'.inEvents hl (h.locks _ hl hs)).trans (h.inEvents hl hs)
  inPids hl hs := by
    obtain ⟨hp, hd⟩ := h.inPids hl hs
    obtain ⟨hp', hd'⟩ := h'.inPids hl (h.locks _ hl hs)
    refine ⟨hp'.trans hp, fun d hR => ?_⟩
    obtain ⟨hf, hr, hrep⟩ := hd d hR
    obtain ⟨hf', hr', hrep'⟩ := hd' d hR
    exact ⟨hf'.trans hf, hr'.trans hr, hrep'.trans hrep⟩
  completed hl hheld d hR hs := by
    refine h'.completed hl ?_ d hR (h.completed hl hheld d hR hs)
    exact hheld.imp (h.locks _ hl) fun ⟨hK, hheld⟩ => ⟨hK, h.locks _ hK hheld⟩

end Keeps

theorem held_ne {s : Control} {l l' : Lock} {me : Pid} (held : s.locks l = some me)
    (h : s.locks l' ≠ some me) : l ≠ l' := by
  rintro rfl
  exact h held

section others

variable {R : Regime} {me q : Pid} {s s' : Control}

theorem ne_of_held {l : Lock} (hq : q ≠ me) (held : s.locks l = some me)
    (held' : s.locks l = some q) : False :=
  hq (Option.some.inj (held'.symm.trans held))

theorem keeps_take {l : Lock} (free : s.locks l = none) :
    Keeps R me Set.univ s (s.take q l) := by
  have hne : ∀ l', s.locks l' = some me → l' ≠ l :=
    fun l' held => held_ne held (by rw [free]; exact fun h => nomatch h)
  refine { Keeps.refl R me Set.univ s with locks := ?_, inManifest := ?_ }
  · exact fun l' _ held => (s.take_locks_ne q (hne l' held)).trans held
  · exact fun _ held => ⟨rfl, rfl, if_neg (hne _ held).symm, rfl, id⟩

/-- What a step of another process keeps. -/
theorem keeps_of_step (hq : q ≠ me) (hstep : StoreStep R q s s') :
    Keeps R me Set.univ s s' := by
  have hrefl := Keeps.refl R me Set.univ s
  cases hstep with
  | idle => exact hrefl
  | take l free => exact keeps_take free
  | drop l clean =>
    unfold Control.drop
    split
    case isFalse => exact hrefl
    case isTrue hheld =>
      have hne : ∀ l', s.locks l' = some me → l' ≠ l :=
        fun l' held => held_ne held fun h => ne_of_held hq h hheld
      refine { hrefl with locks := ?_, inManifest := ?_, inPids := ?_ }
      · exact fun l' _ held => (s.setLock_ne none (hne l' held)).trans held
      · exact fun _ held => ⟨rfl, if_neg (hne _ held).symm, rfl, rfl, id⟩
      · exact fun _ held => ⟨if_neg (hne _ held).symm, fun _ _ => ⟨rfl, rfl, rfl⟩⟩
  | freshId => exact { hrefl with ids := Nat.le_succ _ }
  | flag again =>
    exact { hrefl with
      flag := fun _ => rfl
      inPids := fun _ _ => ⟨rfl, fun d hd => ⟨(again d hd).symm, rfl, rfl⟩⟩ }
  | publish held' open_ =>
    exact { hrefl with
      flag := fun _ => rfl
      inPids := fun _ held => (ne_of_held hq held held').elim }
  | prepare p held' known fresh empty source allowed =>
    exact { hrefl with inManifest := fun _ held => (ne_of_held hq held held').elim }
  | replace p m held' intent known fresh source open_ target allowed flagged runId cancelled
      completed =>
    refine { hrefl with
      replaced := fun id hid => List.mem_append_left _ hid
      status := ?_
      inManifest := fun _ held => (ne_of_held hq held held').elim
      completed := ?_ }
    · intro c hc
      rw [← target, ← source c hc] at allowed
      rw [← source c hc] at open_
      exact ⟨m, rfl, fun hclosing => closing_of_allowed allowed hclosing open_,
        fun _ => rank_le_of_allowed allowed⟩
    · rintro - hheld d hd - c ⟨⟩ hc
      have hpub := completed d hd hc
      rcases hheld with held | ⟨-, held⟩
      · exact ne_of_held hq held hpub.run
      · exact ne_of_held hq held hpub.activePids
  | save m held' regime unflagged open_ status =>
    refine { hrefl with
      status := ?_
      inManifest := fun _ held => (ne_of_held hq held held').elim
      completed := ?_ }
    · intro c hc
      exact ⟨m, rfl, fun h => (nomatch (open_ c hc).symm.trans h), fun h => absurd h regime⟩
    · rintro - - d hd - c ⟨⟩ hc
      have hm := status d hd
      rw [hc] at hm
      exact nomatch hm
  | log e held' sequence durable =>
    exact { hrefl with inEvents := fun _ held => (ne_of_held hq held held').elim }
  | clear => exact { hrefl with inManifest := fun _ _ => ⟨rfl, rfl, rfl, rfl, fun _ => rfl⟩ }
  | present r guard =>
    exact { hrefl with
      inPids := fun _ held => ⟨rfl, fun d hd => (ne_of_held hq held (guard d hd).2.1).elim⟩ }
  | report guard =>
    exact { hrefl with
      inPids := fun _ held => ⟨rfl, fun d hd => (ne_of_held hq held (guard d hd).1).elim⟩ }
  | withdraw guard =>
    exact { hrefl with
      inPids := fun _ held => ⟨rfl, fun d hd => (ne_of_held hq held (guard d hd).1).elim⟩ }
  | withdrawReport guard =>
    exact { hrefl with
      inPids := fun _ held => ⟨rfl, fun d hd => (ne_of_held hq held (guard d hd)).elim⟩ }

/-- What the death of another process keeps. -/
theorem keeps_of_release (hq : q ≠ me) : Keeps R me Set.univ s (s.release q) := by
  have hne : ∀ l, s.locks l = some me → ¬ s.locks l = some q :=
    fun l held held' => ne_of_held hq held held'
  refine { Keeps.refl R me Set.univ s with locks := ?_, inManifest := ?_, inPids := ?_ }
  · exact fun l _ held => Control.release_locks_of_ne held hq
  · exact fun _ held => ⟨rfl, if_neg (hne _ held), rfl, rfl, id⟩
  · exact fun _ held => ⟨if_neg (hne _ held), fun _ _ => ⟨rfl, rfl, rfl⟩⟩

/-- **What the others keep**, however many steps they take. -/
theorem keeps_of_rely {s s' : RunDir} (h : (storeProtocol R).Rely me s s') :
    Keeps R me Set.univ s.toControl s'.toControl := by
  induction h with
  | refl => exact Keeps.refl R me _ _
  | tail _ hstep ih =>
    obtain ⟨q, hq, -, hstep | rfl⟩ := hstep
    · exact ih.trans (keeps_of_step hq hstep)
    · exact ih.trans (keeps_of_release hq)

end others

/-! ### What the steps of the process itself keep -/

section own

variable {R : Regime} {me : Pid} {s : Control}

theorem keeps_drop (l : Lock) : Keeps R me {l}ᶜ s (s.drop me l) := by
  have hne : ∀ {l'}, l' ∈ ({l}ᶜ : Set Lock) → l' ≠ l := fun h => h
  unfold Control.drop
  split
  case isFalse => exact Keeps.refl R me _ s
  case isTrue =>
    refine { Keeps.refl R me _ s with locks := ?_, inManifest := ?_, inPids := ?_ }
    · exact fun l' hl' held => (s.setLock_ne none (hne hl')).trans held
    · exact fun hl' _ => ⟨rfl, if_neg (hne hl').symm, rfl, rfl, id⟩
    · exact fun hl' _ => ⟨if_neg (hne hl').symm, fun _ _ => ⟨rfl, rfl, rfl⟩⟩

theorem keeps_freshId (K : Set Lock) : Keeps R me K s { s with nextId := s.nextId + 1 } :=
  { Keeps.refl R me K s with ids := Nat.le_succ _ }

theorem keeps_flag (again : ∀ d, R = .guarded d → s.cancelRequested = true) :
    Keeps R me Set.univ s { s with cancelRequested := true } :=
  { Keeps.refl R me Set.univ s with
    flag := fun _ => rfl
    inPids := fun _ _ => ⟨rfl, fun d hd => ⟨(again d hd).symm, rfl, rfl⟩⟩ }

theorem keeps_prepare (p : PendingTransition) :
    Keeps R me {.manifest}ᶜ s { s with pending := some p, intent := some p } :=
  { Keeps.refl R me _ s with inManifest := fun h => absurd rfl h }

theorem keeps_log (e : Event) :
    Keeps R me {.events}ᶜ s { s with events := s.events ++ [e] } :=
  { Keeps.refl R me _ s with inEvents := fun h => absurd rfl h }

theorem keeps_clear : Keeps R me Set.univ s { s with pending := none } :=
  { Keeps.refl R me _ s with inManifest := fun _ _ => ⟨rfl, rfl, rfl, rfl, fun _ => rfl⟩ }

/-- A new manifest, with a status the protocol allows. -/
theorem keeps_manifest {K : Set Lock} (hK : .manifest ∉ K) {m : RunManifest} {ids : List Nat}
    (hids : ∀ id ∈ s.replaced, id ∈ ids)
    (hstatus : ∀ c, s.manifest = some c →
      (c.status.closing = true → m.status.closing = true) ∧
      (R = .journaled → c.status.rank ≤ m.status.rank))
    (hcompleted : .run ∈ K → ∀ d, R = .guarded d → m.status ≠ .completed) :
    Keeps R me K s { s with manifest := some m, replaced := ids } :=
  { Keeps.refl R me K s with
    replaced := hids
    status := fun c hc => ⟨m, rfl, hstatus c hc⟩
    inManifest := fun h => absurd h hK
    completed := fun h _ d hd _ _ hc => Option.some.inj hc ▸ hcompleted h d hd }

end own

end Store

end Quinte
