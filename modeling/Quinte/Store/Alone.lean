import Mathlib
import Quinte.Store.Protocol

/-! # The operations of the store, run alone

    For a process that nobody disturbs: no operation blocks, what it returns,
    and what it leaves behind at every point, so that a crash condition that
    does not depend on the ledger survives it.
-/

namespace Quinte.Store

open Program

/-- All that differs is the ledger, which has grown, the pending record, which may
    be gone, and the lock on the ledger, which `me` may hold. -/
structure Quiet (me : Pid) (s t : RunDir) : Prop where
  same : t = { s with pending := t.pending, events := t.events, locks := t.locks }
  locks : ∀ l, l ≠ .events → t.locks l = s.locks l
  holder : t.locks .events = s.locks .events ∨ t.locks .events = some me ∨ t.locks .events = none
  pending : t.pending = s.pending ∨ t.pending = none
  sequences : Sequenced s.events → Sequenced t.events

theorem Quiet.refl (me : Pid) (s : RunDir) : Quiet me s s :=
  ⟨rfl, fun _ _ => rfl, Or.inl rfl, Or.inl rfl, id⟩

theorem Quiet.trans {me : Pid} {s t u : RunDir} (h : Quiet me s t) (h' : Quiet me t u) :
    Quiet me s u := by
  refine ⟨?_, fun l hl => (h'.locks l hl).trans (h.locks l hl), ?_, ?_,
    fun hs => h'.sequences (h.sequences hs)⟩
  · rw [h'.same, h.same]
  · rcases h'.holder with heq | hother
    · exact heq ▸ h.holder
    · exact Or.inr hother
  · rcases h'.pending with heq | hnone
    · exact heq ▸ h.pending
    · exact Or.inr hnone

/-- A recovery has nothing to object to. -/
structure Recoverable (s : RunDir) : Prop where
  free : s.locks .events = none
  sequences : Sequenced s.events
  manifest : ∃ m, s.manifest = some m ∧ m.runId ≠ "" ∧
    ∀ p, s.pending = some p → m.status = p.from ∨ m.status = p.to

theorem Quiet.take (s : RunDir) (me : Pid) : Quiet me s (s.control (·.take me .events)) :=
  ⟨rfl, fun _ hl => s.toControl.take_locks_ne me hl,
    Or.inr (Or.inl (s.toControl.take_locks_self me _)), Or.inl rfl, id⟩

theorem drop_of_held {s : Control} {me : Pid} {l : Lock} (held : s.locks l = some me) :
    s.drop me l = { s.setLock l none with
      intent := if l = .manifest then none else s.intent
      publishing := if l = .activePids then false else s.publishing } :=
  if_pos held

theorem Quiet.drop {s : RunDir} {me : Pid} (held : s.locks .events = some me) :
    Quiet me s (s.control (·.drop me .events)) := by
  have hdrop := drop_of_held held
  refine ⟨?_, fun l hl => ?_, Or.inr (Or.inr ?_), Or.inl ?_, fun hs => ?_⟩
  · simp only [RunDir.control, hdrop]
    rfl
  · rw [RunDir.control_toControl, hdrop]
    exact s.toControl.setLock_ne none hl
  · rw [RunDir.control_toControl, hdrop]
    exact s.toControl.setLock_self .events none
  · rw [RunDir.control_toControl, hdrop]
    rfl
  · rwa [RunDir.control_toControl, hdrop]

theorem Quiet.append {me : Pid} {s : RunDir} {e : Event} (h : e.sequence = s.events.length + 1) :
    Quiet me s { s with events := s.events ++ [e] } :=
  ⟨rfl, fun _ _ => rfl, Or.inl rfl, Or.inl rfl, fun hs => hs.append h⟩

theorem Quiet.clear (me : Pid) (s : RunDir) : Quiet me s { s with pending := none } :=
  ⟨rfl, fun _ _ => rfl, Or.inl rfl, Or.inr rfl, id⟩

section alone

variable {I : RunDir → Prop} {A : Answer → Prop} {me : Pid} {s : RunDir}

/-- A program under the lock on the ledger, which nobody holds. -/
theorem wp_withEvents {α : Type} {Q : Except String α → RunDir → Prop} {p : Proc α}
    (hfree : s.locks .events = none) (hI : ∀ t, Quiet me s t → I t)
    (h : ∀ t, Quiet me s t → t.locks .events = some me → t.events = s.events → t.pending = s.pending →
      Prog.wp I A (fun r u => Quiet me s u ∧ u.locks .events = some me ∧
        ∀ v, Quiet me u v → v.locks = s.locks → v.pending = u.pending → v.events = u.events → Q r v)
        p t) : Prog.wp I A Q (Proc.withLock me .events p) s := by
  refine (Prog.wp_bracket _ _ _ _ _).mpr ⟨by simp [hfree], hI _ (Quiet.take s me), ?_⟩
  refine Prog.wp_mono (h _ (Quiet.take s me) (s.toControl.take_locks_self me _) rfl rfl) ?_
  rintro r u ⟨hsu, held, hQ⟩
  have hdrop := Quiet.drop held
  refine ⟨hI _ (hsu.trans hdrop), hQ _ hdrop ?_ ?_ ?_⟩
  · funext l
    by_cases hl : l = .events
    · rw [hl, hfree, RunDir.control_toControl, drop_of_held held]
      exact u.toControl.setLock_self _ _
    · exact (hdrop.locks l hl).trans (hsu.locks l hl)
  · rw [RunDir.control_toControl, drop_of_held held]
    rfl
  · rw [RunDir.control_toControl, drop_of_held held]
    rfl

theorem wp_readEvents {Q : Except String (List Event) → RunDir → Prop}
    (hsequences : Sequenced s.events) (hI : I s) (hQ : Q (.ok s.events) s) :
    Prog.wp I A Q readEvents s := by
  refine (Prog.wp_bind _ _ _).mpr ((Prog.wp_read _ _).mpr ⟨hI, ?_⟩)
  refine (Prog.wp_bind _ _ _).mpr ((Prog.wp_ensure _ _ _).mpr ⟨fun _ => hQ, fun hbad => ?_⟩)
  rw [hsequences] at hbad
  simp at hbad

theorem nextSequence_eq {events : List Event} (h : Sequenced events) :
    nextSequence events = events.length + 1 := by
  unfold nextSequence
  cases hlast : events.getLast? with
  | none =>
    obtain rfl := List.getLast?_eq_none_iff.mp hlast
    rfl
  | some e =>
    have hlen : e.sequence = events.length := by
      have hmap := congrArg List.getLast? h
      rw [List.getLast?_map, hlast, List.getLast?_map] at hmap
      cases hn : events.length with
      | zero => simp [List.length_eq_zero_iff.mp hn] at hlast
      | succ n => simpa [hn, List.range_succ] using hmap
    simp [hlen]

/-- The schema of an event asks for no more than a run id, a type and a number. -/
theorem runEvent_ok {e : Event} (hversion : e.eventVersion = "1.0") (hsequence : 1 ≤ e.sequence)
    (hrunId : e.runId ≠ "") (htype : e.eventType ≠ "") (hattempt : e.attempt.all (1 ≤ ·) = true) :
    Schema.runEvent e = true := by
  simp [Schema.runEvent, hversion, hsequence, hrunId, htype, hattempt]

theorem wp_recordPending {m : RunManifest} {p : PendingTransition}
    {Q : Except String Unit → RunDir → Prop} (hfree : s.locks .events = none)
    (hsequences : Sequenced s.events) (hrunId : m.runId ≠ "") (hI : ∀ t, Quiet me s t → I t)
    (hQ : ∀ t, Quiet me s t → t.locks = s.locks → t.pending = none → Q (.ok ()) t) :
    Prog.wp I A Q (recordPending me m p) s := by
  unfold recordPending
  refine wp_withEvents hfree hI fun t ht held hevents _ => ?_
  have hsequences' : Sequenced t.events := hevents ▸ hsequences
  have hend : ∀ {u : RunDir}, Quiet me s u → u.locks .events = some me →
      Prog.wp I A (fun r v => Quiet me s v ∧ v.locks .events = some me ∧ ∀ w, Quiet me v w →
        w.locks = s.locks → w.pending = v.pending → w.events = v.events → Q r w) removePending u := by
    intro u hu held'
    have hclear := hu.trans (Quiet.clear me u)
    refine (Prog.wp_modify _ _).mpr ⟨hI _ hclear, hclear, held', fun w hw hlocks hpending _ => ?_⟩
    exact hQ w (hclear.trans hw) hlocks hpending
  refine (Prog.wp_bind _ _ _).mpr (wp_readEvents hsequences' (hI t ht) ?_)
  dsimp only
  split
  -- the record is in the ledger already, and only the journal is left
  case h_1 => exact hend ht held
  case h_2 =>
    have hseq := nextSequence_eq hsequences'
    have happend : ∀ e : Event, e.sequence = nextSequence t.events →
        Quiet me s { t with events := t.events ++ [e] } :=
      fun e he => ht.trans (Quiet.append (he.trans hseq))
    refine (Prog.wp_bind _ _ _).mpr ((Prog.wp_ensure _ _ _).mpr ⟨fun _ => ?_, fun hbad => ?_⟩)
    · exact (Prog.wp_bind _ _ _).mpr ((Prog.wp_modify _ _).mpr
        ⟨hI _ (happend _ rfl), hend (happend _ rfl) held⟩)
    · have hpos : 1 ≤ nextSequence t.events := hseq ▸ Nat.le_add_left 1 _
      rw [runEvent_ok rfl hpos hrunId (by simp) rfl] at hbad
      exact nomatch hbad

theorem wp_recoverPendingTransition {m : RunManifest} {Q : Except String Unit → RunDir → Prop}
    (hs : Recoverable s) (hm : s.manifest = some m) (hI : ∀ t, Quiet me s t → I t)
    (hQ : ∀ t, Quiet me s t → t.locks = s.locks → t.pending = none → Q (.ok ()) t) :
    Prog.wp I A Q (recoverPendingTransition me m) s := by
  obtain ⟨hfree, hsequences, c, hc, hrunId, hplaced⟩ := hs
  obtain rfl := Option.some.inj (hm.symm.trans hc)
  have hIs := hI s (Quiet.refl me s)
  unfold recoverPendingTransition
  refine (Prog.wp_bind _ _ _).mpr ((Prog.wp_read _ _).mpr ⟨hIs, ?_⟩)
  cases hp : s.pending with
  | none => exact hQ s (Quiet.refl me s) rfl hp
  | some p =>
    refine (Prog.wp_bind _ _ _).mpr ((Prog.wp_read _ _).mpr ⟨hIs, ?_⟩)
    simp only [hp]
    split
    case isTrue =>
      have hclear := Quiet.clear me s
      exact (Prog.wp_modify _ _).mpr ⟨hI _ hclear, hQ _ hclear rfl rfl⟩
    case isFalse hfrom =>
      have hto := (hplaced p hp).resolve_left hfrom
      rw [if_neg (not_not.mpr hto)]
      exact wp_recordPending hfree hsequences hrunId hI hQ

/-- **A manifest can be loaded**, and no pending transition is left. -/
theorem wp_loadManifest {m : RunManifest} {Q : Except String RunManifest → RunDir → Prop}
    (hs : Recoverable s) (hm : s.manifest = some m) (hI : ∀ t, Quiet me s t → I t)
    (hQ : ∀ t, Quiet me s t → t.locks = s.locks → t.pending = none → Q (.ok m) t) :
    Prog.wp I A Q (loadManifest me) s := by
  unfold loadManifest
  refine (Prog.wp_bind _ _ _).mpr ((Prog.wp_read _ _).mpr ⟨hI s (Quiet.refl me s), ?_⟩)
  simp only [hm]
  exact (Prog.wp_bind _ _ _).mpr (wp_recoverPendingTransition hs hm hI hQ)

/-- The ledger can be written to, whatever comes of it. -/
theorem wp_eventAt {runId eventType : String} {phase partyId : Option String}
    {attempt : Option Nat} {data : EventData} {timestamp : Nat}
    {Q : Except String Event → RunDir → Prop} (hfree : s.locks .events = none)
    (hsequences : Sequenced s.events) (hI : ∀ t, Quiet me s t → I t)
    (hQ : ∀ r t, Quiet me s t → t.locks = s.locks → t.pending = s.pending → Q r t) :
    Prog.wp I A Q (eventAt me runId eventType phase partyId attempt data timestamp) s := by
  unfold eventAt
  refine wp_withEvents hfree hI fun t ht held hevents hpending => ?_
  have hsequences' : Sequenced t.events := hevents ▸ hsequences
  have hend : ∀ {u : RunDir} (r : Except String Event), Quiet me s u → u.pending = s.pending →
      ∀ w, Quiet me u w → w.locks = s.locks → w.pending = u.pending → w.events = u.events → Q r w :=
    fun r hu hup w hw hlocks hwp _ => hQ r w (hu.trans hw) hlocks (hwp.trans hup)
  refine (Prog.wp_bind _ _ _).mpr (wp_readEvents hsequences' (hI t ht) ?_)
  dsimp only
  split
  case h_1 event _ => exact ⟨ht, held, hend _ ht hpending⟩
  case h_2 =>
    have happend : ∀ e : Event, e.sequence = nextSequence t.events →
        Quiet me s { t with events := t.events ++ [e] } :=
      fun e he => ht.trans (Quiet.append (he.trans (nextSequence_eq hsequences')))
    refine (Prog.wp_bind _ _ _).mpr ((Prog.wp_ensure _ _ _).mpr ⟨fun _ => ?_, fun _ => ?_⟩)
    · exact (Prog.wp_bind _ _ _).mpr ((Prog.wp_modify _ _).mpr
        ⟨hI _ (happend _ rfl), happend _ rfl, held, hend _ (happend _ rfl) hpending⟩)
    · exact ⟨ht, held, hend _ ht hpending⟩

theorem wp_event {runId eventType : String} {phase partyId : Option String}
    {attempt : Option Nat} {text : String} {Q : Except String Event → RunDir → Prop}
    (hfree : s.locks .events = none) (hsequences : Sequenced s.events)
    (hI : ∀ t, Quiet me s t → I t)
    (hQ : ∀ r t, Quiet me s t → t.locks = s.locks → t.pending = s.pending → Q r t) :
    Prog.wp I A Q (event me runId eventType phase partyId attempt text) s := by
  refine (Prog.wp_bind _ _ _).mpr ((Prog.wp_answer _ _).mpr fun _ _ => ?_)
  exact wp_eventAt hfree hsequences hI hQ

/-- A program under the run lock, which nobody holds. -/
theorem wp_withRunLock {α : Type} {Q : Except String α → RunDir → Prop} {p : Proc α}
    (hfree : s.locks .run = none) (hI : I (takeRun me s))
    (h : Prog.wp I A (fun r t => I (t.control (·.drop me .run)) ∧ Q r (t.control (·.drop me .run)))
      p (takeRun me s)) : Prog.wp I A Q (withRunLock me p) s := by
  refine (Prog.wp_bind _ _ _).mpr ⟨rfl, ?_⟩
  simp only [hfree, if_true]
  refine ⟨hI, (Prog.wp_bind _ _ _).mpr ((Prog.wp_attempt _ _).mpr (Prog.wp_mono h ?_))⟩
  rintro r t ⟨hIt, hQ⟩
  exact (Prog.wp_bind _ _ _).mpr ((Prog.wp_modify _ _).mpr ⟨hIt, (Prog.wp_ofExcept _ _).mpr hQ⟩)

/-- What a program visits under the run lock. -/
theorem visits_withRunLock {α : Type} {p : Proc α} {t : RunDir} (hfree : s.locks .run = none)
    (h : Prog.Visits A p (takeRun me s) t) : Prog.Visits A (withRunLock me p) s t := by
  refine Prog.Visits.act rfl ?_
  simp only [hfree, if_true]
  exact h.attempt.bind _

end alone

end Quinte.Store
