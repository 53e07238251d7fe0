import Mathlib
import Quinte.Framework.Focus
import Quinte.Run.Commands
import Quinte.Store.Alone

/-! # Cancelling a run that nobody works on

    `cancel` leaves the last transition to the worker if a process is on record,
    dead or alive. Where no worker is left to make it, the run stays
    `cancelling`: `cancel_completes_iff`.
-/

namespace Quinte.Run

open Program Store

/-! ### Runs that nobody works on -/

/-- A run whose manifest can be loaded and replaced. -/
structure Loadable (s : RunDir) (m : RunManifest) : Prop where
  manifest : s.manifest = some m
  runId : m.runId ≠ ""
  schema : Schema.runManifest m = true
  sequences : Sequenced s.events
  placed : ∀ p, s.pending = some p → m.status = p.from ∨ m.status = p.to

/-- Such a run, and nobody at work on it. -/
structure Abandoned (s : RunDir) (m : RunManifest) : Prop extends Loadable s m where
  free : ∀ l, s.locks l = none

/-- `cancel` ends, and then the run is cancelled. -/
def CancelCompletes (s : RunDir) : Prop :=
  ∀ me, Prog.wp (fun _ => True) (fun _ => True)
    (fun _ t => t.manifest.map (·.status) = some .cancelled) (cancel me) s

section alone

variable {A : Answer → Prop} {me : Pid} {s t : RunDir} {m : RunManifest} {l : Lock}

theorem Loadable.recoverable (hs : Loadable s m) (hfree : s.locks .events = none) : Recoverable s :=
  ⟨hfree, hs.sequences, m, hs.manifest, hs.runId, hs.placed⟩

theorem Loadable.quiet (hs : Loadable s m) (hq : Quiet me s t) : Loadable t m := by
  refine ⟨?_, hs.runId, hs.schema, hq.sequences hs.sequences, fun p hp => ?_⟩
  · rw [hq.same]
    exact hs.manifest
  · rcases hq.pending with heq | hnone
    · exact hs.placed p (heq ▸ hp)
    · exact nomatch hnone.symm.trans hp

theorem Loadable.take (hs : Loadable s m) (me : Pid) (l : Lock) : Loadable (s.control (·.take me l)) m :=
  ⟨hs.manifest, hs.runId, hs.schema, hs.sequences, hs.placed⟩

/-- A lock that nobody else holds is released, and then they are all free. -/
theorem Loadable.drop (hs : Loadable t m) (hlocks : t.locks = (s.toControl.take me l).locks)
    (hfree : ∀ l, s.locks l = none) : Abandoned (t.control (·.drop me l)) m := by
  have held : t.locks l = some me := by
    rw [hlocks]
    exact s.toControl.take_locks_self me l
  have hdrop := drop_of_held held
  refine ⟨⟨?_, hs.runId, hs.schema, ?_, ?_⟩, fun l' => ?_⟩
  · rw [RunDir.control_toControl, hdrop]
    exact hs.manifest
  · rw [RunDir.control_toControl, hdrop]
    exact hs.sequences
  · rw [RunDir.control_toControl, hdrop]
    exact hs.placed
  · rw [RunDir.control_toControl, hdrop]
    by_cases hl : l' = l
    · rw [hl]
      exact t.toControl.setLock_self l none
    · refine (t.toControl.setLock_ne none hl).trans ?_
      rw [hlocks]
      exact (s.toControl.take_locks_ne me hl).trans (hfree l')

/-- Run `p` under a lock that nobody holds. -/
theorem wp_withLock {α : Type} {Q : Except String α → RunDir → Prop} {p : Proc α}
    (hs : Abandoned s m)
    (hp : Prog.wp (fun _ => True) A (fun r t => t.locks = (s.toControl.take me l).locks ∧
      ∃ m', Loadable t m' ∧ (Abandoned (t.control (·.drop me l)) m' →
        Q r (t.control (·.drop me l)))) p (s.control (·.take me l))) :
    Prog.wp (fun _ => True) A Q (Proc.withLock me l p) s := by
  refine (Prog.wp_bracket _ _ _ _ _).mpr ⟨by simp [hs.free], trivial, Prog.wp_mono hp ?_⟩
  intro r t ⟨hlocks, m', ht, hQ⟩
  exact ⟨trivial, hQ (ht.drop hlocks hs.free)⟩

/-- `load_manifest`, under any lock but that on the ledger. -/
theorem wp_load_loadable {Q : Except String RunManifest → RunDir → Prop} (hs : Loadable s m)
    (hfree : s.locks .events = none) (hQ : ∀ t, Loadable t m → t.locks = s.locks →
      t.activeProcesses = s.activeProcesses → Q (.ok m) t) :
    Prog.wp (fun _ => True) A Q (loadManifest me) s := by
  apply wp_loadManifest (hs.recoverable hfree) hs.manifest (fun _ _ => trivial)
  intro t hq hlocks _
  refine hQ t (hs.quiet hq) hlocks ?_
  rw [hq.same]

/-! ### The steps of `cancel` -/

/-- `request_cancellation` of a run that has not ended. -/
theorem wp_requestCancellation {Q : Except String (RunStatus × List ActiveProcess) → RunDir → Prop}
    (hs : Abandoned s m) (hopen : m.status.terminal = false)
    (hQ : ∀ t, Abandoned t m → t.activeProcesses = s.activeProcesses →
      Q (.ok (m.status, s.activeProcesses)) t) :
    Prog.wp (fun _ => True) A Q (requestCancellation me) s := by
  unfold requestCancellation
  apply wp_withLock hs
  refine (Prog.wp_bind _ _ _).mpr ((Prog.wp_read _ _).mpr ⟨trivial, ?_⟩)
  rw [show (s.control (·.take me .activePids)).manifest = some m from hs.manifest]
  dsimp only
  rw [hopen]
  refine (Prog.wp_bind _ _ _).mpr ((Prog.wp_modify _ _).mpr ⟨trivial, ?_⟩)
  refine (Prog.wp_bind _ _ _).mpr ((Prog.wp_modify _ _).mpr ⟨trivial, ?_⟩)
  refine (Prog.wp_bind _ _ _).mpr ((Prog.wp_modify _ _).mpr ⟨trivial, ?_⟩)
  refine (Prog.wp_bind _ _ _).mpr ((Prog.wp_read _ _).mpr ⟨trivial, rfl, m, ?_, fun ht => ?_⟩)
  · exact ⟨hs.manifest, hs.runId, hs.schema, hs.sequences, hs.placed⟩
  · exact hQ _ ht rfl

/-- The manifest of a cancellation keeps the schema. -/
theorem schema_nextManifest {current manifest : RunManifest} {effective : RunStatus}
    {phase : Option String} {now : Nat} (hcancels : effective.cancels = true)
    (hschema : Schema.runManifest current = true) :
    Schema.runManifest (nextManifest current manifest effective phase now) = true := by
  unfold nextManifest
  rw [hcancels]
  simp only [Schema.runManifest, Bool.and_eq_true, if_true] at hschema ⊢
  obtain ⟨⟨⟨⟨hleft, herror⟩, hreceipt⟩, hchallenge⟩, hsubmission⟩ := hschema
  refine ⟨⟨⟨⟨hleft, ?_⟩, hreceipt⟩, hchallenge⟩, hsubmission⟩
  split
  · rfl
  · exact herror

/-- The replacement of the manifest, and its record. -/
theorem wp_commit {runId : String} {p : PendingTransition} {next : RunManifest}
    {Q : Except String (RunStatus × RunManifest) → RunDir → Prop} (hs : Loadable s m)
    (hfree : s.locks .events = none) (hpending : s.pending = some p) (hto : next.status = p.to)
    (hrunId : next.runId ≠ "") (hschema : Schema.runManifest next = true)
    (hQ : ∀ t, Loadable t next → t.locks = s.locks → t.activeProcesses = s.activeProcesses →
      Q (.ok (p.to, next)) t) :
    Prog.wp (fun _ => True) A Q (commit me runId p next) s := by
  unfold commit replaceManifest
  refine (Prog.wp_bind _ _ _).mpr ((Prog.wp_bind _ _ _).mpr ((Prog.wp_ensure _ _ _).mpr
    ⟨fun _ => ?_, fun hbad => absurd (hbad.symm.trans hschema) (by decide)⟩))
  refine (Prog.wp_modify _ _).mpr ⟨trivial, ?_⟩
  have hnext : Loadable { s with manifest := some next, replaced := s.replaced ++ [p.transitionId] }
      next := by
    refine ⟨rfl, hrunId, hschema, hs.sequences, fun q hq => Or.inr ?_⟩
    obtain rfl : p = q := Option.some.inj (hpending.symm.trans hq)
    exact hto
  refine (Prog.wp_bind _ _ _).mpr ((Prog.wp_attempt _ _).mpr
    (wp_eventAt hfree hnext.sequences (fun _ _ => trivial) fun r t hq hlocks _ => ?_))
  have ht := hnext.quiet hq
  have hprocesses : t.activeProcesses = s.activeProcesses := by rw [hq.same]
  cases r with
  | ok e =>
    refine (Prog.wp_bind _ _ _).mpr ((Prog.wp_modify _ _).mpr ⟨trivial, ?_⟩)
    exact hQ _ ⟨ht.manifest, hrunId, hschema, ht.sequences, fun q hq => nomatch hq⟩ hlocks hprocesses
  | error e => exact hQ t ht hlocks hprocesses

/-- `transition` to `cancelling` or `cancelled`. -/
theorem wp_transition {manifest : RunManifest} {status : RunStatus} {phase : Option String}
    {detail : String} {Q : Except String (RunStatus × RunManifest) → RunDir → Prop}
    (hs : Abandoned s m) (hopen : m.status.terminal = false) (hcancels : status.cancels = true)
    (hQ : ∀ t m', Abandoned t m' → m'.status = status → t.activeProcesses = s.activeProcesses →
      Q (.ok (status, m')) t) :
    Prog.wp (fun _ => True) A Q (transition me manifest status phase detail) s := by
  have hallowed : transitionAllowed m.status status = true := by
    revert hopen hcancels
    cases m.status <;> cases status <;> decide
  have heffective : ∀ wins, effectiveStatus wins status = status := by
    intro wins
    simp [effectiveStatus, hcancels]
  -- once the manifest is loaded, under its lock
  have hcarry : ∀ u : RunDir, Loadable u m → u.locks = (s.toControl.take me .manifest).locks →
      u.activeProcesses = s.activeProcesses →
      Prog.wp (fun _ => True) A (fun r t => t.locks = (s.toControl.take me .manifest).locks ∧
        ∃ m', Loadable t m' ∧ (Abandoned (t.control (·.drop me .manifest)) m' →
          Q r (t.control (·.drop me .manifest)))) (carryOut me m manifest status phase detail) u := by
    intro u hu hlocks hprocesses
    have hfree : u.locks .events = none := by
      rw [hlocks]
      exact (s.toControl.take_locks_ne me (by decide)).trans (hs.free .events)
    unfold carryOut
    refine (Prog.wp_bind _ _ _).mpr ((Prog.wp_read _ _).mpr ⟨trivial, ?_⟩)
    refine (Prog.wp_bind _ _ _).mpr ((Prog.wp_answer _ _).mpr fun answer _ => ?_)
    dsimp only
    rw [heffective, hallowed]
    refine (Prog.wp_bind _ _ _).mpr ((Prog.wp_ensure _ _ _).mpr
      ⟨fun _ => ?_, fun hbad => nomatch hbad⟩)
    refine (Prog.wp_bind _ _ _).mpr ⟨rfl, trivial, ?_⟩
    refine (Prog.wp_bind _ _ _).mpr ((Prog.wp_answer _ _).mpr fun answer' _ => ?_)
    refine (Prog.wp_bind _ _ _).mpr ((Prog.wp_modify _ _).mpr ⟨trivial, ?_⟩)
    let p : PendingTransition := {
      transitionId := u.nextId
      timestamp := answer'.now
      «from» := m.status
      «to» := status
      requested := status
      phase := phase
      detail := detail }
    have hwritten : Loadable { u with
        nextId := u.nextId + 1, pending := some p, intent := some p } m := by
      refine ⟨hu.manifest, hu.runId, hu.schema, hu.sequences, fun q hq => Or.inl ?_⟩
      obtain rfl : p = q := Option.some.inj hq
      rfl
    have hnext : (nextManifest m manifest status phase answer.now).runId = m.runId := by
      simp [nextManifest, hcancels]
    apply wp_commit hwritten hfree rfl rfl (hnext ▸ hu.runId) (schema_nextManifest hcancels hu.schema)
    intro t ht hlocks' hprocesses'
    refine ⟨hlocks'.trans hlocks, _, ht, fun habandoned => ?_⟩
    refine hQ _ _ habandoned rfl ?_
    exact Eq.trans rfl (hprocesses'.trans hprocesses)
  unfold transition
  apply wp_withLock hs
  refine (Prog.wp_bind _ _ _).mpr ((Prog.wp_read _ _).mpr ⟨trivial, ?_⟩)
  rw [show (s.control (·.take me .manifest)).manifest = some m from hs.manifest]
  dsimp only
  have hfree : (s.control (·.take me .manifest)).locks .events = none :=
    (s.toControl.take_locks_ne me (by decide)).trans (hs.free .events)
  refine (Prog.wp_bind _ _ _).mpr (wp_load_loadable (hs.take me .manifest) hfree ?_)
  intro u hu hlocks hprocesses
  unfold transitionFrom
  dsimp only
  rw [hopen]
  by_cases hcancelling : status = .cancelling
  · rw [if_neg Bool.false_ne_true, if_pos hcancelling]
    refine (Prog.wp_bind _ _ _).mpr ((Prog.wp_modify _ _).mpr ⟨trivial, ?_⟩)
    exact hcarry _ ⟨hu.manifest, hu.runId, hu.schema, hu.sequences, hu.placed⟩ hlocks hprocesses
  · rw [if_neg Bool.false_ne_true, if_neg hcancelling]
    exact hcarry u hu hlocks hprocesses

/-- **`cancel` of a run that nobody works on**: it is cancelled, or left to a
    worker if a process is on record. -/
theorem wp_cancel (hs : Abandoned s m) (hopen : m.status.terminal = false) :
    Prog.wp (fun _ => True) A (fun _ t => ∃ m', t.manifest = some m' ∧
      m'.status = if s.activeProcesses = [] then .cancelled else .cancelling) (cancel me) s := by
  unfold cancel
  refine (Prog.wp_bind _ _ _).mpr (wp_load_loadable hs.toLoadable (hs.free _) ?_)
  intro s₁ h₁ hlocks₁ hprocesses₁
  have hs₁ : Abandoned s₁ m := ⟨h₁, fun l => by rw [hlocks₁]; exact hs.free l⟩
  dsimp only
  rw [hopen, if_neg Bool.false_ne_true]
  refine (Prog.wp_bind _ _ _).mpr (wp_requestCancellation hs₁ hopen ?_)
  intro s₂ hs₂ hprocesses₂
  dsimp only
  rw [hopen, if_neg Bool.false_ne_true]
  refine (Prog.wp_bind _ _ _).mpr (wp_load_loadable hs₂.toLoadable (hs₂.free _) ?_)
  intro s₃ h₃ hlocks₃ hprocesses₃
  have hs₃ : Abandoned s₃ m := ⟨h₃, fun l => by rw [hlocks₃]; exact hs₂.free l⟩
  refine (Prog.wp_bind _ _ _).mpr (wp_transition hs₃ hopen rfl ?_)
  intro s₄ m₄ hs₄ hstatus₄ hprocesses₄
  dsimp only
  rw [show RunStatus.cancelling.terminal = false from rfl, if_neg Bool.false_ne_true]
  rw [hprocesses₁]
  by_cases hnone : s.activeProcesses = []
  · -- no process is on record: the last transition is made here
    rw [hnone, if_pos rfl]
    have hopen₄ : m₄.status.terminal = false := by
      rw [hstatus₄]
      rfl
    refine (Prog.wp_bind _ _ _).mpr (wp_transition hs₄ hopen₄ rfl ?_)
    intro s₅ m₅ hs₅ hstatus₅ _
    exact ⟨m₅, hs₅.manifest, hstatus₅⟩
  · rw [if_neg hnone]
    have hsome : (!s.activeProcesses.isEmpty) = true := by simpa using hnone
    rw [if_pos hsome]
    exact ⟨m₄, hs₄.manifest, hstatus₄⟩

end alone

theorem wp_cancel_alone (me : Pid) {s : RunDir} {m : RunManifest} (hs : Abandoned s m)
    (hopen : m.status.terminal = false) :
    Prog.wp (fun _ => True) (fun _ => True) (fun _ t => ∃ m', t.manifest = some m' ∧
      m'.status = if s.activeProcesses = [] then .cancelled else .cancelling) (cancel me) s :=
  wp_cancel hs hopen

/-- **`cancel` completes** without a worker exactly if no process is on record. -/
theorem cancel_completes_iff {s : RunDir} {m : RunManifest} (hs : Abandoned s m)
    (hopen : m.status.terminal = false) : CancelCompletes s ↔ s.activeProcesses = [] := by
  constructor
  · intro hcompletes
    by_contra hsome
    obtain ⟨p, t, r, hreach, hr, m', hm', hstatus⟩ :=
      Prog.wp_exists ⟨default, trivial⟩ (wp_cancel_alone 0 hs hopen)
    have hend := Prog.wp_end hreach hr trivial (hcompletes 0)
    rw [if_neg hsome] at hstatus
    rw [hm', Option.map_some, hstatus] at hend
    exact absurd hend (by decide)
  · intro hnone me
    apply Prog.wp_mono (wp_cancel hs hopen)
    intro _ t ⟨m', hm', hstatus⟩
    rw [if_pos hnone] at hstatus
    rw [hm', Option.map_some, hstatus]

/-- A run in R1 whose worker died. -/
def deserted (processes : List ActiveProcess) : RunDir :=
  { sampleDir .r1Running with activeProcesses := processes }

theorem abandoned_deserted (processes : List ActiveProcess) :
    Abandoned (deserted processes) (sampleManifest .r1Running) where
  manifest := rfl
  runId := by decide
  schema := by decide +kernel
  sequences := rfl
  placed p hp := nomatch show none = some p from hp
  free _ := rfl

/-- No process was on record. -/
theorem cancel_completes_sample :
    (deserted []).activeProcesses = [] ∧ CancelCompletes (deserted []) :=
  ⟨rfl, (cancel_completes_iff (abandoned_deserted []) rfl).mpr rfl⟩

/-- **A process on record**, dead like the worker: the run stays `cancelling`. -/
theorem cancel_incomplete :
    ¬ ∀ (s : RunDir) (m : RunManifest), Abandoned s m → m.status.terminal = false →
      CancelCompletes s := by
  intro hall
  let process : ActiveProcess := { pid := 7, identity := "7:1", program := "adapter" }
  have hs := abandoned_deserted [process]
  obtain ⟨p, t, r, hreach, hr, m', hm', hstatus⟩ := Prog.wp_exists ⟨default, trivial⟩
    (wp_cancel_alone 0 hs rfl)
  have hend := Prog.wp_end hreach hr trivial (hall _ _ hs rfl 0)
  rw [if_neg (by decide)] at hstatus
  rw [hm', Option.map_some, hstatus] at hend
  exact absurd hend (by decide)

end Quinte.Run
