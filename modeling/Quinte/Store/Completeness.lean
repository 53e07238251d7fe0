import Mathlib
import Quinte.Store.Operations

/-! # Completeness of the journal

    A transition writes down what it is about to do, replaces the manifest,
    records the event and removes the note.  After a crash, `load_manifest`
    of any process finishes what was left.  Is the ledger complete then?

    * No record is ever false: an id in the ledger is that of a transition
      whose manifest replacement is durable (`journal_complete`, first part).
    * A record can get lost.  Recovery removes a note without recording it if
      the manifest has the status the transition starts from, which a
      self-transition also has after the replacement (`journal_incomplete`);
      and a reader that is late removes whatever note is there.
    * As long as no step does that, the ledger is complete
      (`journal_complete`, second part).
-/

namespace Quinte.Store

open Program

/-- What a process may run: a transition of the run, or a reader. -/
inductive JournalClient (me : Pid) : Proc Unit → Prop where
  | transition {manifest : RunManifest} {status : RunStatus} {phase : Option String}
      {detail : String} (h : manifest.runId ≠ "") :
      JournalClient me (transition me manifest status phase detail >>= fun _ => pure ())
  | loadManifest : JournalClient me (loadManifest me >>= fun _ => pure ())
  | events : JournalClient me (events me >>= fun _ => pure ())

/-- A run directory before the first transition. -/
structure Created (s : RunDir) : Prop where
  manifest : ∃ m, s.manifest = some m ∧ m.runId ≠ ""
  pending : s.pending = none
  sequences : Sequenced s.events
  ledger : logged s.toControl = []
  replaced : s.replaced = []
  locks : ∀ l, s.locks l = none
  intent : s.intent = none
  publishing : s.publishing = false
  flagAtLock : s.flagAtLock = false

/-- A durable transition that the ledger does not show. -/
def Unrecorded (p : PendingTransition) (s : Control) : Prop :=
  p.transitionId ∈ s.replaced ∧ p.transitionId ∉ logged s

instance (p : PendingTransition) (s : Control) : Decidable (Unrecorded p s) :=
  inferInstanceAs (Decidable (_ ∧ _))

/-- The step gives up no unrecorded transition: its note is removed only
    while the process that carries it out is still at work, and that process
    stops only while the note is there. -/
def GivesUpNothing (s s' : Control) : Prop :=
  (∀ p ∈ s.pending, s'.pending ≠ some p → Unrecorded p s → s.intent = some p) ∧
    (∀ p ∈ s.intent, s'.intent ≠ some p → Unrecorded p s → s.pending = some p)

instance (s s' : Control) : Decidable (GivesUpNothing s s') :=
  inferInstanceAs (Decidable (_ ∧ _))

/-! ### Every process keeps to the protocol -/

theorem safe_discard {R : Regime} {me : Pid} {s : RunDir} {α : Type} {p : Proc α}
    (h : Safe (storeProtocol R) me (fun _ _ => True) p s) :
    Safe (storeProtocol R) me (fun _ _ => True) (p >>= fun _ => pure ()) s := by
  refine Safe.bind (h.mono fun r t _ => ?_)
  cases r with
  | ok a => exact fun _ _ => trivial
  | error e => trivial

theorem safe_journalClient {me : Pid} {p : Proc Unit} {s : RunDir} (h : JournalClient me p)
    (_ : StoreInv .journaled s.toControl) :
    Safe (storeProtocol .journaled) me (fun _ _ => True) p s := by
  cases h with
  | transition h =>
    refine safe_discard ((safe_transition ⟨fun _ => h, ?_, ?_, ?_⟩).mono fun _ _ _ => trivial)
    · exact fun d hd => nomatch hd
    · exact fun d hd => nomatch hd
    · exact fun d hd => nomatch hd
  | loadManifest => exact safe_discard (safe_loadManifest.mono fun _ _ _ => trivial)
  | events => exact safe_discard (safe_events.mono fun _ _ _ => trivial)

/-! ### The invariant -/

/-- An unrecorded transition can be found again. -/
def Traced (s : Control) : Prop :=
  ∀ id ∈ s.replaced, id ∈ logged s ∨ (∃ p, s.pending = some p ∧ p.transitionId = id) ∨
    ∃ p, s.intent = some p ∧ p.transitionId = id

/-- A step that gives up nothing, and changes the notes at most. -/
theorem Traced.of_notes {s s' : Control} (h : Traced s) (hr : s'.replaced = s.replaced)
    (he : s'.events = s.events) (hok : GivesUpNothing s s')
    (hkeep : s'.pending = s.pending ∨ s'.intent = s.intent) : Traced s' := by
  intro id hid
  rw [hr] at hid
  have hlogged : logged s' = logged s := congrArg (List.filterMap _) he
  rw [hlogged]
  by_cases hin : id ∈ logged s
  · exact Or.inl hin
  right
  rcases (h id hid).resolve_left hin with ⟨p, hp, rfl⟩ | ⟨p, hp, rfl⟩
  · by_cases hp' : s'.pending = some p
    · exact Or.inl ⟨p, hp', rfl⟩
    · have hi := hok.1 p hp hp' ⟨hid, hin⟩
      exact Or.inr ⟨p, (hkeep.resolve_left fun h => hp' (h.trans hp)).trans hi, rfl⟩
  · by_cases hp' : s'.intent = some p
    · exact Or.inr ⟨p, hp', rfl⟩
    · have hi := hok.2 p hp hp' ⟨hid, hin⟩
      exact Or.inl ⟨p, (hkeep.resolve_right fun h => hp' (h.trans hp)).trans hi, rfl⟩

theorem Traced.prepare {s : Control} (h : Traced s) {p : PendingTransition}
    (hempty : s.pending = none) (hfresh : p.transitionId ∉ s.replaced)
    (hok : GivesUpNothing s { s with pending := some p, intent := some p }) :
    Traced { s with pending := some p, intent := some p } := by
  intro id hid
  left
  by_contra hin
  rcases (h id hid).resolve_left hin with ⟨q, hq, rfl⟩ | ⟨q, hq, rfl⟩
  · exact nomatch hempty.symm.trans hq
  · -- the process would give up what it carried out before
    have hne : some p ≠ some q := by
      rintro ⟨⟩
      exact hfresh hid
    exact nomatch hempty.symm.trans (hok.2 q hq hne ⟨hid, hin⟩)

theorem Traced.replace {s : Control} (h : Traced s) {p : PendingTransition} (m : RunManifest)
    (hintent : s.intent = some p) :
    Traced { s with manifest := some m, replaced := s.replaced ++ [p.transitionId] } := by
  intro id hid
  rcases List.mem_append.mp hid with hid | hid
  · exact h id hid
  · exact Or.inr (Or.inr ⟨p, hintent, (List.mem_singleton.mp hid).symm⟩)

theorem Traced.log {s : Control} (h : Traced s) (e : Event) :
    Traced { s with events := s.events ++ [e] } := by
  intro id hid
  rcases h id hid with hin | hrest
  · refine Or.inl ?_
    rw [logged_append]
    exact List.mem_append_left _ hin
  · exact Or.inr hrest

/-- **Step**: a step of the protocol that gives up nothing. -/
theorem traced_step {me : Pid} {s s' : Control} (h : Traced s)
    (hstep : StoreStep .journaled me s s') (hok : GivesUpNothing s s') : Traced s' := by
  cases hstep with
  | prepare p held known fresh empty source allowed => exact h.prepare (empty rfl) fresh hok
  | replace p m held intent => exact h.replace m intent
  | save m held regime => exact absurd rfl regime
  | log e => exact h.log e
  | drop l =>
    unfold Control.drop at hok ⊢
    split at hok
    case isTrue hheld =>
      rw [if_pos hheld]
      exact h.of_notes rfl rfl hok (Or.inl rfl)
    case isFalse hheld =>
      rw [if_neg hheld]
      exact h
  | clear => exact h.of_notes rfl rfl hok (Or.inr rfl)
  | _ => exact h.of_notes rfl rfl hok (Or.inl rfl)

/-- What a process of the journal does at any point is traced. -/
theorem traced_allowed {l : Pool.Label Pid} {s s' : RunDir} (h : Traced s.toControl)
    (hstep : Pool.Allowed (storeProtocol .journaled) l s s')
    (hok : GivesUpNothing s.toControl s'.toControl) : Traced s'.toControl := by
  cases l with
  | start me => exact hstep ▸ h
  | move me => exact traced_step h hstep hok
  | finish me => exact hstep ▸ h
  | crash me =>
    obtain rfl := hstep
    exact h.of_notes rfl rfl hok (Or.inl rfl)

/-! ### Runs -/

theorem Created.inv {s : RunDir} (h : Created s) : StoreInv .journaled s.toControl where
  ids id hid := by simp [h.replaced] at hid
  sequences := h.sequences
  intent _ := h.intent
  publishing _ := h.publishing
  published hp := nomatch h.publishing.symm.trans hp
  flagAtLock hf := nomatch h.flagAtLock.symm.trans hf
  journaled _ := {
    manifest := h.manifest
    pending := fun p m hp _ => nomatch h.pending.symm.trans hp
    intent := fun p q hi => nomatch h.intent.symm.trans hi
    ledger := fun id hid => by simp [h.ledger] at hid }
  guarded d hd := nomatch hd

theorem Created.traced {s : RunDir} (h : Created s) : Traced s.toControl := by
  intro id hid
  simp [h.replaced] at hid

/-- The runs of a run directory from its creation. -/
abbrev JournalRun (ok : Pool.Label Pid → RunDir → RunDir → Prop) (s : RunDir) :
    Pool Pid RunDir Answer String → Prop :=
  Pool.Run (fun me s => s.control (·.release me)) JournalClient ok (Pool.idle s)

theorem journalRun_sound {ok : Pool.Label Pid → RunDir → RunDir → Prop} {s : RunDir}
    {c : Pool Pid RunDir Answer String} (h : Created s) (hrun : JournalRun ok s c) :
    Pool.Sound (storeProtocol .journaled) c :=
  Pool.run_sound (storeProtocol_lawful .journaled) (fun _ _ _ => safe_journalClient) hrun
    (Pool.sound_idle h.inv)

/-- **No record is false**: a transition in the ledger is durable, after every
    interleaving and every crash. -/
theorem ledger_truthful {ok : Pool.Label Pid → RunDir → RunDir → Prop} {s : RunDir}
    {c : Pool Pid RunDir Answer String} (hs : Created s) (hrun : JournalRun ok s c) :
    ∀ id ∈ logged c.shared.toControl, id ∈ c.shared.replaced :=
  ((journalRun_sound hs hrun).1.journaled rfl).ledger

theorem traced_of_run {s : RunDir} {c : Pool Pid RunDir Answer String} (hs : Created s)
    (hrun : JournalRun (fun _ s s' => GivesUpNothing s.toControl s'.toControl) s c) :
    Traced c.shared.toControl :=
  Pool.run_invariant (storeProtocol_lawful .journaled) (fun _ _ _ => safe_journalClient)
    (fun _ _ _ _ h hstep hok => traced_allowed h hstep hok) hrun (Pool.sound_idle hs.inv) hs.traced

/-- From `c` on, `me` loads the manifest while nobody holds a lock and nobody
    else moves, and it is done in `c'`. -/
structure FinalLoad (ok : Pool.Label Pid → RunDir → RunDir → Prop) (me : Pid)
    (c c' : Pool Pid RunDir Answer String) : Prop where
  free : c.procs me = none
  unlocked : ∀ l, c.shared.locks l = none
  run : Pool.Run (fun me s => s.control (·.release me)) JournalClient
    (fun l s s' => l = .move me ∧ ok l s s')
    { c with procs := Pool.set c.procs me (some (loadManifest me >>= fun _ => pure ())) } c'
  ended : ∃ p, c'.procs me = some p ∧ p.Ended

/-- What a final load finds and leaves. -/
theorem finalLoad_result {ok : Pool.Label Pid → RunDir → RunDir → Prop} {me : Pid}
    {c c' : Pool Pid RunDir Answer String} (hinv : StoreInv .journaled c.shared.toControl)
    (h : FinalLoad ok me c c') :
    c'.procs me = some (.pure ()) ∧ c'.shared.pending = none ∧ c'.shared.locks .manifest = none := by
  obtain ⟨p, hp, hended⟩ := h.ended
  obtain ⟨p', hp', hreach⟩ := Pool.reaches_of_run h.run (Pool.set_self ..)
  obtain rfl := Option.some.inj (hp.symm.trans hp')
  obtain ⟨m, hm, hrunId⟩ := (hinv.journaled rfl).manifest
  have hrecoverable : Recoverable c.shared := by
    refine ⟨h.unlocked _, hinv.sequences, m, hm, hrunId, fun q hq => ?_⟩
    rcases ((hinv.journaled rfl).pending q m hq hm).1 with ⟨-, hto⟩ | ⟨-, hfrom⟩
    · exact Or.inr hto
    · exact Or.inl hfrom
  have hwp : Prog.wp (fun _ => True) (fun _ => True)
      (fun r t => r = .ok () ∧ t.pending = none ∧ t.locks .manifest = none)
      (loadManifest me >>= fun _ => pure ()) c.shared := by
    refine (Prog.wp_bind _ _ _).mpr (wp_loadManifest hrecoverable hm (fun _ _ => trivial) ?_)
    intro t _ hlocks hnone
    exact ⟨rfl, hnone, by rw [hlocks]; exact h.unlocked _⟩
  obtain ⟨-, hend⟩ := Prog.wp_reaches hreach trivial hwp
  cases p with
  | pure a => exact ⟨hp, hend.2⟩
  | throw e => exact nomatch hend.1
  | act enabled update next => exact hended.elim
  | ask next => exact hended.elim

/-- **Completeness of the journal**: in a run whose steps give up nothing, a
    final `load_manifest` succeeds, and then the ledger shows the transitions
    whose manifest replacement became durable, and no other. -/
theorem journal_complete {s : RunDir} {c c' : Pool Pid RunDir Answer String} {me : Pid}
    (hs : Created s)
    (hrun : JournalRun (fun _ s s' => GivesUpNothing s.toControl s'.toControl) s c)
    (hlast : FinalLoad (fun _ s s' => GivesUpNothing s.toControl s'.toControl) me c c') :
    c'.procs me = some (.pure ()) ∧
      ∀ id, id ∈ logged c'.shared.toControl ↔ id ∈ c'.shared.replaced := by
  obtain ⟨hdone, hpending, hmanifest⟩ := finalLoad_result (journalRun_sound hs hrun).1 hlast
  have hrun' : JournalRun (fun _ s s' => GivesUpNothing s.toControl s'.toControl) s c' := by
    refine (Pool.Run.step hrun (Pool.Step.start hlast.free .loadManifest) ?_).trans
      (hlast.run.mono fun _ _ _ h => h.2)
    exact ⟨fun p hp hne => absurd hp hne, fun p hp hne => absurd hp hne⟩
  refine ⟨hdone, fun id => ⟨ledger_truthful hs hrun' id, fun hid => ?_⟩⟩
  have hintent := (journalRun_sound hs hrun').1.intent hmanifest
  rcases traced_of_run hs hrun' id hid with hin | ⟨p, hp, -⟩ | ⟨p, hp, -⟩
  · exact hin
  · exact nomatch hpending.symm.trans hp
  · exact nomatch hintent.symm.trans hp

/-! ### One run of each kind -/

/-- A writer that takes the run from `source` to `target` in so many steps. -/
def writing (source target : RunStatus) (steps : Nat) :
    List (Pool.Command Pid RunDir Answer String) :=
  .start 0 (transition 0 (sampleManifest source) target none "" >>= fun _ => pure ()) ::
    List.replicate steps (.move 0 default)

theorem writing_within {source target : RunStatus} {steps : Nat} :
    ∀ x ∈ writing source target steps, x.Within JournalClient := by
  intro x hx
  rcases List.mem_cons.mp hx with rfl | hx
  · exact JournalClient.transition (by simp [sampleManifest])
  · obtain rfl := List.eq_of_mem_replicate hx
    trivial

/-- The pool after a schedule on a run directory of that status. -/
def scheduled (ok : Pool.Label Pid → RunDir → RunDir → Prop) [∀ l s s', Decidable (ok l s s')]
    (status : RunStatus) (xs : List (Pool.Command Pid RunDir Answer String)) :
    Option (Pool Pid RunDir Answer String) :=
  Pool.schedule ok (fun me s => s.control (·.release me)) xs (Pool.idle (sampleDir status))

/-- Process 1 loads the manifest alone, in so many steps. -/
def loading (ok : Pool.Label Pid → RunDir → RunDir → Prop) [∀ l s s', Decidable (ok l s s')]
    (steps : Nat) (c : Pool Pid RunDir Answer String) : Option (Pool Pid RunDir Answer String) :=
  Pool.schedule (fun l s s' => l = .move 1 ∧ ok l s s') (fun me s => s.control (·.release me))
    (List.replicate steps (.move 1 default))
    { c with procs := Pool.set c.procs 1 (some (loadManifest 1 >>= fun _ => pure ())) }

theorem sampleDir_created (status : RunStatus) : Created (sampleDir status) where
  manifest := ⟨_, rfl, by simp [sampleManifest]⟩
  pending := rfl
  sequences := rfl
  ledger := rfl
  replaced := rfl
  locks _ := rfl
  intent := rfl
  publishing := rfl
  flagAtLock := rfl

instance (c : Pool Pid RunDir Answer String) : Decidable (∀ l, c.shared.locks l = none) :=
  decidable_of_iff (∀ l ∈ [Lock.run, .manifest, .events, .activePids], c.shared.locks l = none)
    ⟨fun h l => h l (by cases l <;> simp), fun h l _ => h l⟩

/-- A schedule and the final load after it, as runs. -/
theorem runs_of_schedules {ok : Pool.Label Pid → RunDir → RunDir → Prop}
    [∀ l s s', Decidable (ok l s s')] {status : RunStatus}
    {xs : List (Pool.Command Pid RunDir Answer String)} {steps : Nat}
    {c c' : Pool Pid RunDir Answer String} (hxs : ∀ x ∈ xs, x.Within JournalClient)
    (hc : scheduled ok status xs = some c) (hfree : (c.procs 1).isNone = true)
    (hunlocked : ∀ l, c.shared.locks l = none) (hc' : loading ok steps c = some c')
    (hended : (c'.procs 1).any (fun p => decide p.Ended) = true) :
    JournalRun ok (sampleDir status) c ∧ FinalLoad ok 1 c c' := by
  refine ⟨Pool.run_of_schedule ok Pool.Run.refl hxs hc, Option.isNone_iff_eq_none.mp hfree,
    hunlocked, ?_, ?_⟩
  · refine Pool.run_of_schedule _ Pool.Run.refl ?_ hc'
    intro x hx
    obtain rfl := List.eq_of_mem_replicate hx
    trivial
  · obtain ⟨p, hp, hdone⟩ := (Option.any_eq_true _ _).mp hended
    exact ⟨p, hp, of_decide_eq_true hdone⟩

/-- A crash after the manifest replacement of a self-transition: the final load
    takes the note for one of a transition that never happened. -/
theorem journal_incomplete :
    ¬ ∀ (s : RunDir) (c c' : Pool Pid RunDir Answer String) (me : Pid), Created s →
      JournalRun (fun _ _ _ => True) s c → FinalLoad (fun _ _ _ => True) me c c' →
      ∀ id, id ∈ logged c'.shared.toControl ↔ id ∈ c'.shared.replaced := by
  intro h
  have hrun : (scheduled (fun _ _ _ => True) .r1Running
      (writing .r1Running .r1Running 10 ++ [.crash 0])).any (fun c =>
        (c.procs 1).isNone && decide (∀ l, c.shared.locks l = none) &&
        (loading (fun _ _ _ => True) 4 c).any fun c' =>
          (c'.procs 1).any (fun p => decide p.Ended) && c'.shared.replaced == [0] &&
          logged c'.shared.toControl == []) = true := by
    decide +kernel
  obtain ⟨c, hc, hrest⟩ := (Option.any_eq_true _ _).mp hrun
  simp only [Bool.and_eq_true, decide_eq_true_eq] at hrest
  obtain ⟨⟨hfree, hunlocked⟩, hload⟩ := hrest
  obtain ⟨c', hc', hrest⟩ := (Option.any_eq_true _ _).mp hload
  simp only [Bool.and_eq_true, beq_iff_eq] at hrest
  obtain ⟨⟨hended, hreplaced⟩, hlogged⟩ := hrest
  have hxs : ∀ x ∈ writing .r1Running .r1Running 10 ++ [.crash 0], x.Within JournalClient := by
    intro x hx
    rcases List.mem_append.mp hx with hx | hx
    · exact writing_within x hx
    · obtain rfl := List.mem_singleton.mp hx
      trivial
  obtain ⟨hrun, hlast⟩ := runs_of_schedules hxs hc hfree hunlocked hc' hended
  -- the manifest was replaced, and its record is not in the ledger
  have hlost := (h _ c c' 1 (sampleDir_created .r1Running) hrun hlast 0).mpr (by simp [hreplaced])
  simp [hlogged] at hlost

/-- A transition from `queued` to `preflight` and a final load. -/
theorem journal_complete_sample :
    ∃ c' : Pool Pid RunDir Answer String, c'.shared.replaced = [0] ∧
      c'.procs 1 = some (.pure ()) ∧
      ∀ id, id ∈ logged c'.shared.toControl ↔ id ∈ c'.shared.replaced := by
  have hrun : (scheduled (fun _ s s' => GivesUpNothing s.toControl s'.toControl) .queued
      (writing .queued .preflight 16)).any (fun c =>
        (c.procs 1).isNone && decide (∀ l, c.shared.locks l = none) &&
        (loading (fun _ s s' => GivesUpNothing s.toControl s'.toControl) 2 c).any fun c' =>
          (c'.procs 1).any (fun p => decide p.Ended) && c'.shared.replaced == [0]) = true := by
    decide +kernel
  obtain ⟨c, hc, hrest⟩ := (Option.any_eq_true _ _).mp hrun
  simp only [Bool.and_eq_true, decide_eq_true_eq] at hrest
  obtain ⟨⟨hfree, hunlocked⟩, hload⟩ := hrest
  obtain ⟨c', hc', hrest⟩ := (Option.any_eq_true _ _).mp hload
  simp only [Bool.and_eq_true, beq_iff_eq] at hrest
  obtain ⟨hrun, hlast⟩ := runs_of_schedules writing_within hc hfree hunlocked hc' hrest.1
  exact ⟨c', hrest.2, journal_complete (sampleDir_created .queued) hrun hlast⟩

end Quinte.Store
