import Mathlib
import Quinte.Framework.Program

/-! # Processes over a shared state

    Any number of processes run programs over one shared state, a step at a
    time and in any order.  A process may be started at any time, and may
    crash between any two of its steps; the state keeps what was done, and the
    operating system releases what the process held (`Protocol.crash`).

    A `Protocol` says what the steps of a process may do (`guar`) and what
    holds of the state between steps (`inv`).  `Safe` is the proof obligation
    of a program: each of its steps is one the protocol allows, whatever the
    others did in the meantime.  Main results:

    * `Safe.bind`, `Safe.modify`, `Safe.bracket`, …: the rules of `Safe`;
    * `Pool.run_sound`: in a pool of safe programs every step is allowed;
    * `Pool.run_invariant`: what the allowed steps preserve, every run preserves.
-/

namespace Program

open Relation

/-- What processes of `π` may do to a shared state. -/
structure Protocol (π σ : Type) where
  /-- holds of the state between any two steps -/
  inv : σ → Prop
  /-- the steps a process may take -/
  guar : π → σ → σ → Prop
  /-- the state after a process dies -/
  crash : π → σ → σ

/-- The laws of a protocol: the invariant survives every step and every crash. -/
structure Protocol.Lawful {π σ : Type} (P : Protocol π σ) : Prop where
  guar_refl : ∀ me s, P.guar me s s
  guar_inv : ∀ me s s', P.inv s → P.guar me s s' → P.inv s'
  crash_inv : ∀ me s, P.inv s → P.inv (P.crash me s)

section safe

variable {π σ ι ε α β : Type} (P : Protocol π σ) (me : π)

/-- One step of a process other than `me`, or its death. -/
def Protocol.Interferes (s s' : σ) : Prop :=
  ∃ q, q ≠ me ∧ P.inv s ∧ (P.guar q s s' ∨ s' = P.crash q s)

/-- What the others may have done since `s`. -/
def Protocol.Rely : σ → σ → Prop :=
  ReflTransGen (P.Interferes me)

/-- Every step of the program is allowed, whatever the others do between its
    steps, and its result satisfies `Q`. -/
def Safe (Q : Except ε α → σ → Prop) : Prog σ ι ε α → σ → Prop
  | .pure a, s => ∀ s', P.Rely me s s' → Q (.ok a) s'
  | .throw e, s => ∀ s', P.Rely me s s' → Q (.error e) s'
  | .act enabled update next, s => ∀ s', P.Rely me s s' → P.inv s' → enabled s' = true →
      P.guar me s' (update s') ∧ Safe Q (next s') (update s')
  | .ask next, s => ∀ i, Safe Q (next i) s

variable {P me}

/-- Safety survives what the others do. -/
theorem Safe.rely {Q : Except ε α → σ → Prop} {p : Prog σ ι ε α} {s s' : σ}
    (h : Safe P me Q p s) (hrely : P.Rely me s s') : Safe P me Q p s' := by
  induction p generalizing s s' with
  | pure a => exact fun t ht => h t (hrely.trans ht)
  | throw e => exact fun t ht => h t (hrely.trans ht)
  | act enabled update next ih => exact fun t ht => h t (hrely.trans ht)
  | ask next ih => exact fun i => ih i (h i) hrely

theorem Safe.mono {Q Q' : Except ε α → σ → Prop} {p : Prog σ ι ε α} {s : σ}
    (h : Safe P me Q p s) (hQ : ∀ r s, Q r s → Q' r s) : Safe P me Q' p s := by
  induction p generalizing s with
  | pure a => exact fun t ht => hQ _ _ (h t ht)
  | throw e => exact fun t ht => hQ _ _ (h t ht)
  | act enabled update next ih =>
    exact fun t ht hinv hen => ⟨(h t ht hinv hen).1, ih t (h t ht hinv hen).2⟩
  | ask next ih => exact fun i => ih i (h i)

/-- Sequencing. -/
theorem Safe.bind {Q : Except ε β → σ → Prop} {p : Prog σ ι ε α} {f : α → Prog σ ι ε β} {s : σ}
    (h : Safe P me (fun r t => match r with
      | .ok a => Safe P me Q (f a) t
      | .error e => Q (.error e) t) p s) :
    Safe P me Q (p >>= f) s := by
  induction p generalizing s with
  | pure a => exact h s ReflTransGen.refl
  | throw e => exact h
  | act enabled update next ih =>
    exact fun t ht hinv hen => ⟨(h t ht hinv hen).1, ih t (h t ht hinv hen).2⟩
  | ask next ih => exact fun i => ih i (h i)

theorem Safe.attempt {Q : Except ε (Except ε α) → σ → Prop} {p : Prog σ ι ε α} {s : σ}
    (h : Safe P me (fun r t => Q (.ok r) t) p s) : Safe P me Q p.attempt s := by
  induction p generalizing s with
  | pure a => exact h
  | throw e => exact h
  | act enabled update next ih =>
    exact fun t ht hinv hen => ⟨(h t ht hinv hen).1, ih t (h t ht hinv hen).2⟩
  | ask next ih => exact fun i => ih i (h i)

/-! ### Rules -/

theorem Safe.pure {Q : Except ε α → σ → Prop} {a : α} {s : σ}
    (h : ∀ s', P.Rely me s s' → Q (.ok a) s') : Safe P me Q (pure a : Prog σ ι ε α) s :=
  h

theorem Safe.throw {Q : Except ε α → σ → Prop} {e : ε} {s : σ}
    (h : ∀ s', P.Rely me s s' → Q (.error e) s') : Safe P me Q (.throw e : Prog σ ι ε α) s :=
  h

/-- Reading: the state that is read is the one the others have left. -/
theorem Safe.read (hP : ∀ s, P.guar me s s) {Q : Except ε β → σ → Prop} {f : σ → α}
    {k : α → Prog σ ι ε β} {s : σ}
    (h : ∀ s', P.Rely me s s' → P.inv s' → Safe P me Q (k (f s')) s') :
    Safe P me Q (Prog.read f >>= k) s :=
  fun s' hrely hinv _ => ⟨hP s', h s' hrely hinv⟩

/-- A change of the state. -/
theorem Safe.modify {Q : Except ε β → σ → Prop} {update : σ → σ} {k : Unit → Prog σ ι ε β} {s : σ}
    (h : ∀ s', P.Rely me s s' → P.inv s' →
      P.guar me s' (update s') ∧ Safe P me Q (k ()) (update s')) :
    Safe P me Q (Prog.modify update >>= k) s :=
  fun s' hrely hinv _ => h s' hrely hinv

/-- A change of the state that ends the program. -/
theorem Safe.modify_end {Q : Except ε Unit → σ → Prop} {update : σ → σ} {s : σ}
    (h : ∀ s', P.Rely me s s' → P.inv s' →
      P.guar me s' (update s') ∧ ∀ t, P.Rely me (update s') t → Q (.ok ()) t) :
    Safe P me Q (Prog.modify update : Prog σ ι ε Unit) s :=
  fun s' hrely hinv _ => h s' hrely hinv

/-- An answer of the environment says nothing about the state. -/
theorem Safe.answer {Q : Except ε β → σ → Prop} {f : ι → α} {k : α → Prog σ ι ε β} {s : σ}
    (h : ∀ a, Safe P me Q (k a) s) : Safe P me Q (Prog.answer f >>= k) s :=
  fun i => h (f i)

theorem Safe.ensure {Q : Except ε β → σ → Prop} {b : Bool} {e : ε} {k : Unit → Prog σ ι ε β}
    {s : σ} (hk : b = true → Safe P me Q (k ()) s)
    (he : b = false → ∀ s', P.Rely me s s' → Q (.error e) s') :
    Safe P me Q (Prog.ensure b e >>= k) s := by
  cases b with
  | true => exact hk rfl
  | false => exact he rfl

/-- A bracket is safe if its ends are and what it encloses is; the result of
    the whole is that of the enclosed program. -/
theorem Safe.bracket {Q : Except ε α → σ → Prop} {enabled : σ → Bool} {enter leave : σ → σ}
    {p : Prog σ ι ε α} {s : σ}
    (h : ∀ s', P.Rely me s s' → P.inv s' → enabled s' = true →
      P.guar me s' (enter s') ∧
      Safe P me (fun r t => ∀ t', P.Rely me t t' → P.inv t' →
        P.guar me t' (leave t') ∧ ∀ t'', P.Rely me (leave t') t'' → Q r t'') p (enter s')) :
    Safe P me Q (Prog.bracket (Prog.await enabled enter) (Prog.modify leave) p) s := by
  intro s' hrely hinv hen
  obtain ⟨hguar, hbody⟩ := h s' hrely hinv hen
  have hrest : Safe P me Q (do
      let r ← p.attempt
      Prog.modify leave
      Prog.ofExcept r) (enter s') := by
    refine Safe.bind (Safe.attempt (hbody.mono ?_))
    intro r t hr
    refine Safe.modify fun t' hrely' hinv' => ⟨(hr t' hrely' hinv').1, ?_⟩
    cases r with
    | ok a => exact (hr t' hrely' hinv').2
    | error e => exact (hr t' hrely' hinv').2
  exact ⟨hguar, hrest⟩

end safe

/-! ### Pools -/

/-- The processes of a pool and their shared state. -/
structure Pool (π σ ι ε : Type) where
  shared : σ
  procs : π → Option (Prog σ ι ε Unit)

/-- What happens in one step of a pool. -/
inductive Pool.Label (π : Type) where
  | start (me : π)
  | move (me : π)
  | finish (me : π)
  | crash (me : π)
  deriving DecidableEq

namespace Pool

variable {π σ ι ε : Type} [DecidableEq π]

/-- Set what process `me` runs. -/
def set (procs : π → Option (Prog σ ι ε Unit)) (me : π) (o : Option (Prog σ ι ε Unit)) :
    π → Option (Prog σ ι ε Unit) :=
  fun q => if q = me then o else procs q

@[simp] theorem set_self (procs : π → Option (Prog σ ι ε Unit)) (me : π)
    (o : Option (Prog σ ι ε Unit)) : set procs me o me = o := by
  simp [set]

@[simp] theorem set_ne (procs : π → Option (Prog σ ι ε Unit)) {me q : π}
    (o : Option (Prog σ ι ε Unit)) (h : q ≠ me) : set procs me o q = procs q := by
  simp [set, h]

/-- The steps of a pool whose processes run the programs of `menu`. -/
inductive Step (crash : π → σ → σ) (menu : π → Prog σ ι ε Unit → Prop) :
    Label π → Pool π σ ι ε → Pool π σ ι ε → Prop where
  | start {c : Pool π σ ι ε} {me : π} {p : Prog σ ι ε Unit}
      (hfree : c.procs me = none) (hmenu : menu me p) :
      Step crash menu (.start me) c { c with procs := set c.procs me (some p) }
  | move {c : Pool π σ ι ε} {me : π} {p p' : Prog σ ι ε Unit} {s' : σ}
      (hproc : c.procs me = some p) (hmove : Prog.Moves (fun _ => True) p c.shared p' s') :
      Step crash menu (.move me) c { shared := s', procs := set c.procs me (some p') }
  | finish {c : Pool π σ ι ε} {me : π} {p : Prog σ ι ε Unit}
      (hproc : c.procs me = some p) (hended : p.Ended) :
      Step crash menu (.finish me) c { c with procs := set c.procs me none }
  | crash {c : Pool π σ ι ε} {me : π} {p : Prog σ ι ε Unit} (hproc : c.procs me = some p) :
      Step crash menu (.crash me) c
        { shared := crash me c.shared, procs := set c.procs me none }

/-- The runs of a pool from `c` whose steps all meet `ok`, a condition on
    what happens, the shared state before and the shared state after. -/
inductive Run (crash : π → σ → σ) (menu : π → Prog σ ι ε Unit → Prop)
    (ok : Label π → σ → σ → Prop) (c : Pool π σ ι ε) : Pool π σ ι ε → Prop where
  | refl : Run crash menu ok c c
  | step {c' c'' : Pool π σ ι ε} {l : Label π} :
      Run crash menu ok c c' → Step crash menu l c' c'' → ok l c'.shared c''.shared →
      Run crash menu ok c c''

theorem Run.trans {crash : π → σ → σ} {menu : π → Prog σ ι ε Unit → Prop}
    {ok : Label π → σ → σ → Prop} {c c' c'' : Pool π σ ι ε} (h : Run crash menu ok c c')
    (h' : Run crash menu ok c' c'') : Run crash menu ok c c'' := by
  induction h' with
  | refl => exact h
  | step _ hstep hok ih => exact Run.step ih hstep hok

theorem Run.mono {crash : π → σ → σ} {menu : π → Prog σ ι ε Unit → Prop}
    {ok ok' : Label π → σ → σ → Prop} {c c' : Pool π σ ι ε} (h : Run crash menu ok c c')
    (hok : ∀ l s s', ok l s s' → ok' l s s') : Run crash menu ok' c c' := by
  induction h with
  | refl => exact Run.refl
  | step _ hstep hs ih => exact Run.step ih hstep (hok _ _ _ hs)

/-- A pool without processes. -/
def idle (s : σ) : Pool π σ ι ε where
  shared := s
  procs := fun _ => none

section sound

variable {P : Protocol π σ} {menu : π → Prog σ ι ε Unit → Prop}

/-- The invariant holds and every process is safe. -/
def Sound (P : Protocol π σ) (c : Pool π σ ι ε) : Prop :=
  P.inv c.shared ∧ ∀ me p, c.procs me = some p → Safe P me (fun _ _ => True) p c.shared

/-- What a step of a pool does to the shared state. -/
def Allowed (P : Protocol π σ) : Label π → σ → σ → Prop
  | .move me, s, s' => P.guar me s s'
  | .crash me, s, s' => s' = P.crash me s
  | _, s, s' => s' = s

/-- After a change of one process, it suffices to check that one. -/
theorem safe_set {procs : π → Option (Prog σ ι ε Unit)} {me : π} {o : Option (Prog σ ι ε Unit)}
    {s : σ} (hme : ∀ p, o = some p → Safe P me (fun _ _ => True) p s)
    (hrest : ∀ q p, q ≠ me → procs q = some p → Safe P q (fun _ _ => True) p s) :
    ∀ q p, set procs me o q = some p → Safe P q (fun _ _ => True) p s := by
  intro q p hq
  by_cases hqme : q = me
  · subst hqme
    rw [set_self] at hq
    exact hme p hq
  · rw [set_ne _ _ hqme] at hq
    exact hrest q p hqme hq

/-- **One step** of a sound pool is allowed and leaves it sound. -/
theorem step_sound (hP : P.Lawful)
    (hmenu : ∀ me p s, menu me p → P.inv s → Safe P me (fun _ _ => True) p s)
    {l : Label π} {c c' : Pool π σ ι ε} (hstep : Step P.crash menu l c c') (hc : Sound P c) :
    Allowed P l c.shared c'.shared ∧ Sound P c' := by
  obtain ⟨hinv, hsafe⟩ := hc
  cases hstep with
  | start hfree hm =>
    refine ⟨rfl, hinv, safe_set ?_ fun q p _ hq => hsafe q p hq⟩
    rintro p ⟨⟩
    exact hmenu _ _ c.shared hm hinv
  | @move _ me p p' s' hproc hmove =>
    -- the step is allowed, and the other processes rely on that
    have hme := hsafe me p hproc
    have hboth : P.guar me c.shared s' ∧ Safe P me (fun _ _ => True) p' s' := by
      cases hmove with
      | act hen => exact hme c.shared ReflTransGen.refl hinv hen
      | @ask _ i _ => exact ⟨hP.guar_refl me _, hme i⟩
    refine ⟨hboth.1, hP.guar_inv me _ _ hinv hboth.1, safe_set ?_ fun q p'' hqme hq => ?_⟩
    · rintro p'' ⟨⟩
      exact hboth.2
    · exact (hsafe q p'' hq).rely
        (ReflTransGen.single ⟨me, fun h => hqme h.symm, hinv, Or.inl hboth.1⟩)
  | finish hproc hended =>
    exact ⟨rfl, hinv, safe_set (fun p h => nomatch h) fun q p _ hq => hsafe q p hq⟩
  | @crash _ me p hproc =>
    refine ⟨rfl, hP.crash_inv me _ hinv, safe_set (fun p h => nomatch h) fun q p' hqme hq => ?_⟩
    exact (hsafe q p' hq).rely
      (ReflTransGen.single ⟨me, fun h => hqme h.symm, hinv, Or.inr rfl⟩)

variable {ok : Label π → σ → σ → Prop}

/-- **Every run** of a sound pool is sound. -/
theorem run_sound (hP : P.Lawful)
    (hmenu : ∀ me p s, menu me p → P.inv s → Safe P me (fun _ _ => True) p s)
    {c c' : Pool π σ ι ε} (hrun : Run P.crash menu ok c c') (hc : Sound P c) : Sound P c' := by
  induction hrun with
  | refl => exact hc
  | step _ hstep _ ih => exact (step_sound hP hmenu hstep ih).2

/-- **Invariants over runs**: what the allowed steps that meet the condition
    preserve, holds after every run. -/
theorem run_invariant (hP : P.Lawful)
    (hmenu : ∀ me p s, menu me p → P.inv s → Safe P me (fun _ _ => True) p s)
    {J : σ → Prop} (hJ : ∀ l s s', P.inv s → J s → Allowed P l s s' → ok l s s' → J s')
    {c c' : Pool π σ ι ε} (hrun : Run P.crash menu ok c c') (hc : Sound P c)
    (h : J c.shared) : J c'.shared := by
  induction hrun with
  | refl => exact h
  | step hrun' hstep hok ih =>
    have hsound := run_sound hP hmenu hrun' hc
    exact hJ _ _ _ hsound.1 ih (step_sound hP hmenu hstep hsound).1 hok

omit [DecidableEq π] in
theorem sound_idle {s : σ} (h : P.inv s) : Sound P (idle s : Pool π σ ι ε) :=
  ⟨h, fun _ _ hq => nomatch hq⟩

end sound

/-! ### A process alone -/

/-- In a run in which only `me` moves, `me` runs alone. -/
theorem reaches_of_run {crash : π → σ → σ} {menu : π → Prog σ ι ε Unit → Prop}
    {ok : Label π → σ → σ → Prop} {me : π} {c c' : Pool π σ ι ε} {p : Prog σ ι ε Unit}
    (hrun : Run crash menu (fun l s s' => l = .move me ∧ ok l s s') c c')
    (hp : c.procs me = some p) :
    ∃ p', c'.procs me = some p' ∧ Prog.Reaches (fun _ => True) p c.shared p' c'.shared := by
  induction hrun with
  | refl => exact ⟨p, hp, Prog.Reaches.refl⟩
  | step _ hstep hok ih =>
    obtain ⟨q, hq, hreach⟩ := ih
    obtain ⟨rfl, -⟩ := hok
    cases hstep with
    | @move _ _ q₁ q' s' hproc hmove =>
      obtain rfl := Option.some.inj (hq.symm.trans hproc)
      exact ⟨q', set_self .., hreach.trans (Prog.Reaches.step hmove Prog.Reaches.refl)⟩

theorem set_eq {procs : π → Option (Prog σ ι ε Unit)} {me : π} {o : Option (Prog σ ι ε Unit)}
    (h : procs me = o) : set procs me o = procs := by
  funext q
  by_cases hq : q = me
  · rw [hq, set_self, h]
  · exact set_ne _ _ hq

@[simp] theorem set_set (procs : π → Option (Prog σ ι ε Unit)) (me : π)
    (o o' : Option (Prog σ ι ε Unit)) : set (set procs me o) me o' = set procs me o' := by
  funext q
  by_cases hq : q = me
  · rw [hq, set_self, set_self]
  · rw [set_ne _ _ hq, set_ne _ _ hq, set_ne _ _ hq]

/-- A process may run alone for a while. -/
theorem run_of_reaches (crash : π → σ → σ) (menu : π → Prog σ ι ε Unit → Prop) {A : ι → Prop}
    (me : π) {p p' : Prog σ ι ε Unit} {s s' : σ} (hreach : Prog.Reaches A p s p' s')
    {procs : π → Option (Prog σ ι ε Unit)} (hp : procs me = some p) :
    Run crash menu (fun _ _ _ => True) { shared := s, procs := procs }
      { shared := s', procs := set procs me (some p') } := by
  induction hreach generalizing procs with
  | refl =>
    rw [set_eq hp]
    exact Run.refl
  | @step p q _ s t _ hmove _ ih =>
    have hmove' : Prog.Moves (fun _ => True) p s q t := by
      cases hmove with
      | act hen => exact Prog.Moves.act hen
      | ask _ => exact Prog.Moves.ask trivial
    have hfirst : Step crash menu (.move me) { shared := s, procs := procs }
        { shared := t, procs := set procs me (some q) } := Step.move hp hmove'
    have hrest := ih (set_self procs me (some q))
    rw [set_set] at hrest
    exact (Run.step Run.refl hfirst trivial).trans hrest

/-- A process may run alone to its end, with the invariant of its proof. -/
theorem run_of_wp (crash : π → σ → σ) (menu : π → Prog σ ι ε Unit → Prop) (me : π) {I : σ → Prop}
    {A : ι → Prop} (hA : ∃ i, A i) {Q : Except ε Unit → σ → Prop} {p : Prog σ ι ε Unit} {s : σ}
    (h : Prog.wp I A Q p s) {procs : π → Option (Prog σ ι ε Unit)} (hp : procs me = some p)
    (hI : I s) : ∃ s' r, Q r s' ∧ ∃ procs', Run crash menu (fun _ _ s' => I s')
      { shared := s, procs := procs } { shared := s', procs := procs' } := by
  induction p generalizing s procs with
  | pure a => exact ⟨s, .ok a, h, procs, Run.refl⟩
  | throw e => exact ⟨s, .error e, h, procs, Run.refl⟩
  | act enabled update next ih =>
    obtain ⟨hen, hI', hnext⟩ := h
    obtain ⟨s', r, hQ, procs', hrun⟩ := ih s hnext (set_self procs me _) hI'
    exact ⟨s', r, hQ, procs', (Run.step Run.refl (Step.move hp (.act hen)) hI').trans hrun⟩
  | ask next ih =>
    obtain ⟨i, hi⟩ := hA
    obtain ⟨s', r, hQ, procs', hrun⟩ := ih i (h i hi) (set_self procs me _) hI
    exact ⟨s', r, hQ, procs', (Run.step Run.refl (Step.move hp (.ask trivial)) hI).trans hrun⟩

/-- Two processes overlap: both take the first part of their programs before
    either takes the second. -/
theorem run_overlap {α β : Type} (crash : π → σ → σ) {menu : π → Prog σ ι ε Unit → Prop}
    {A B C : ι → Prop} {me q : π} (hne : me ≠ q) {p : Prog σ ι ε α} {p' : Prog σ ι ε β}
    {f : α → Prog σ ι ε Unit} {f' : β → Prog σ ι ε Unit} {s s₁ s₂ s₃ s₄ : σ} {a : α} {b : β}
    {u u' : Prog σ ι ε Unit} (hmenu : menu me (p >>= f)) (hmenu' : menu q (p' >>= f'))
    (h₁ : Prog.Reaches A p s (.pure a) s₁) (h₂ : Prog.Reaches A p' s₁ (.pure b) s₂)
    (h₃ : Prog.Reaches B (f a) s₂ u s₃) (h₄ : Prog.Reaches C (f' b) s₃ u' s₄) :
    ∃ c, Run crash menu (fun _ _ _ => True) (idle s) c ∧ c.shared = s₄ := by
  let procs : π → Option (Prog σ ι ε Unit) :=
    set (set (fun _ => none) me (some (p >>= f))) q (some (p' >>= f'))
  have hq : set (fun _ => none) me (some (p >>= f)) q = none := set_ne _ _ hne.symm
  have hstart : Run crash menu (fun _ _ _ => True) (idle s) { shared := s, procs := procs } :=
    Run.step (Run.step Run.refl (Step.start rfl hmenu) trivial) (Step.start hq hmenu') trivial
  have hrun₁ := run_of_reaches crash menu me (h₁.bind f) (show procs me = _ by simp [procs, hne])
  have hrun₂ := run_of_reaches crash menu q (h₂.bind f')
    (show set procs me (some (f a)) q = _ by simp [procs, hne.symm])
  have hrun₃ := run_of_reaches crash menu me h₃
    (show set (set procs me (some (f a))) q (some (f' b)) me = _ by simp [hne])
  have hrun₄ := run_of_reaches crash menu q h₄
    (show set (set (set procs me (some (f a))) q (some (f' b))) me (some u) q = _ by
      simp [hne.symm])
  exact ⟨_, (((hstart.trans hrun₁).trans hrun₂).trans hrun₃).trans hrun₄, rfl⟩

/-! ### Schedules -/

/-- One entry of a schedule. -/
inductive Command (π σ ι ε : Type) where
  | start (me : π) (p : Prog σ ι ε Unit)
  | move (me : π) (i : ι)
  | crash (me : π)

/-- What an entry does. -/
def Command.label : Command π σ ι ε → Label π
  | .start me _ => .start me
  | .move me _ => .move me
  | .crash me => .crash me

/-- Carry out one entry, if it can be. -/
def command (crash : π → σ → σ) (c : Pool π σ ι ε) : Command π σ ι ε → Option (Pool π σ ι ε)
  | .start me p =>
      match c.procs me with
      | none => some { c with procs := set c.procs me (some p) }
      | some _ => none
  | .move me i =>
      match c.procs me with
      | none => none
      | some p => (Prog.move i p c.shared).map fun (p', s') =>
          { shared := s', procs := set c.procs me (some p') }
  | .crash me =>
      match c.procs me with
      | none => none
      | some _ => some { shared := crash me c.shared, procs := set c.procs me none }

/-- The entry starts only programs of the menu. -/
def Command.Within (menu : π → Prog σ ι ε Unit → Prop) : Command π σ ι ε → Prop
  | .start me p => menu me p
  | _ => True

/-- An entry that can be carried out is a step. -/
theorem step_of_command {crash : π → σ → σ} {menu : π → Prog σ ι ε Unit → Prop}
    {x : Command π σ ι ε} {c c' : Pool π σ ι ε} (hmenu : x.Within menu)
    (h : command crash c x = some c') : Step crash menu x.label c c' := by
  cases x with
  | start me p =>
    cases hproc : c.procs me with
    | none =>
      simp only [command, hproc, Option.some.injEq] at h
      exact h ▸ Step.start hproc hmenu
    | some q => simp [command, hproc] at h
  | move me i =>
    cases hproc : c.procs me with
    | none => simp [command, hproc] at h
    | some p =>
      simp only [command, hproc] at h
      obtain ⟨⟨p', s'⟩, hmove, rfl⟩ := Option.map_eq_some_iff.mp h
      exact Step.move hproc (Prog.moves_of_move hmove)
  | crash me =>
    cases hproc : c.procs me with
    | none => simp [command, hproc] at h
    | some p =>
      simp only [command, hproc, Option.some.injEq] at h
      exact h ▸ Step.crash hproc

variable (ok : Label π → σ → σ → Prop) [∀ l s s', Decidable (ok l s s')]

/-- Carry out a schedule whose steps all meet `ok`. -/
def schedule (crash : π → σ → σ) : List (Command π σ ι ε) → Pool π σ ι ε → Option (Pool π σ ι ε)
  | [], c => some c
  | x :: xs, c => (command crash c x).bind fun c' =>
      if ok x.label c.shared c'.shared then schedule crash xs c' else none

/-- A schedule that can be carried out is a run. -/
theorem run_of_schedule {crash : π → σ → σ} {menu : π → Prog σ ι ε Unit → Prop}
    {xs : List (Command π σ ι ε)} {c c' c'' : Pool π σ ι ε} (hrun : Run crash menu ok c c')
    (hmenu : ∀ x ∈ xs, x.Within menu) (h : schedule ok crash xs c' = some c'') :
    Run crash menu ok c c'' := by
  induction xs generalizing c' with
  | nil =>
    obtain rfl := Option.some.inj h
    exact hrun
  | cons x xs ih =>
    obtain ⟨d, hd, hrest⟩ := Option.bind_eq_some_iff.mp h
    split at hrest
    case isFalse => exact nomatch hrest
    case isTrue hok =>
      have hstep := step_of_command (hmenu x (List.mem_cons_self ..)) hd
      exact ih (Run.step hrun hstep hok) (fun y hy => hmenu y (List.mem_cons_of_mem _ hy)) hrest

end Pool

end Program
