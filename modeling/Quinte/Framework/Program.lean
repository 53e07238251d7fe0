import Mathlib

/-! # Programs over a shared state

    A `Prog` is a sequential program whose atomic steps read and change a
    shared state `σ` (the disk), or ask the environment for an answer in `ι`
    (the clock, a fresh nonce, what a child process printed).  It ends with a
    value, or with an error of `ε`.

    A step is one durable effect, so the states between two steps are the
    states a crash can leave behind.  A step may have to wait: `enabled` is
    the guard of a blocking lock.

    For a program that runs alone, `wp` is its weakest precondition with a
    crash condition: whatever the environment answers, every state after a
    step satisfies the condition, no step blocks, and the result satisfies the
    postcondition (`wp_reaches`, `wp_progress`).  Programs are finite trees, so a
    run that never crashes ends (`moves_wellFounded`).
-/

namespace Program

/-- A program that returns an `α`. -/
inductive Prog (σ ι ε α : Type) : Type where
  /-- return a value -/
  | pure (a : α)
  /-- end with an error -/
  | throw (e : ε)
  /-- one atomic step: wait for `enabled`, then change the state; what follows
      sees the state before the change -/
  | act (enabled : σ → Bool) (update : σ → σ) (next : σ → Prog σ ι ε α)
  /-- one answer of the environment -/
  | ask (next : ι → Prog σ ι ε α)

namespace Prog

variable {σ ι ε α β : Type}

/-! ### Sequencing -/

/-- Run `p`, then `f` on its value; an error ends the whole. -/
def bind : Prog σ ι ε α → (α → Prog σ ι ε β) → Prog σ ι ε β
  | .pure a, f => f a
  | .throw e, _ => .throw e
  | .act enabled update next, f => .act enabled update fun s => (next s).bind f
  | .ask next, f => .ask fun i => (next i).bind f

/-- Run `p` and hand over its result, an error included. -/
def attempt : Prog σ ι ε α → Prog σ ι ε (Except ε α)
  | .pure a => .pure (.ok a)
  | .throw e => .pure (.error e)
  | .act enabled update next => .act enabled update fun s => (next s).attempt
  | .ask next => .ask fun i => (next i).attempt

instance : Monad (Prog σ ι ε) where
  pure := .pure
  bind := bind

@[simp] theorem pure_bind (a : α) (f : α → Prog σ ι ε β) :
    (Prog.pure a : Prog σ ι ε α) >>= f = f a := rfl

@[simp] theorem throw_bind (e : ε) (f : α → Prog σ ι ε β) :
    (Prog.throw e : Prog σ ι ε α) >>= f = .throw e := rfl

@[simp] theorem act_bind (enabled : σ → Bool) (update : σ → σ) (next : σ → Prog σ ι ε α)
    (f : α → Prog σ ι ε β) :
    (Prog.act enabled update next) >>= f = .act enabled update fun s => next s >>= f := rfl

@[simp] theorem ask_bind (next : ι → Prog σ ι ε α) (f : α → Prog σ ι ε β) :
    (Prog.ask next) >>= f = .ask fun i => next i >>= f := rfl

theorem bind_assoc {γ : Type} (p : Prog σ ι ε α) (f : α → Prog σ ι ε β) (g : β → Prog σ ι ε γ) :
    p >>= f >>= g = p >>= fun a => f a >>= g := by
  induction p with
  | pure a => rfl
  | throw e => rfl
  | act enabled update next ih =>
    exact congrArg (Prog.act enabled update) (funext fun s => ih s)
  | ask next ih => exact congrArg Prog.ask (funext fun i => ih i)

theorem ite_bind (c : Prop) [Decidable c] (p q : Prog σ ι ε α) (f : α → Prog σ ι ε β) :
    (if c then p else q) >>= f = if c then p >>= f else q >>= f := by
  split <;> rfl

/-- Read a part of the state. -/
def read (f : σ → β) : Prog σ ι ε β :=
  .act (fun _ => true) id fun s => .pure (f s)

/-- Change the state. -/
def modify (update : σ → σ) : Prog σ ι ε Unit :=
  .act (fun _ => true) update fun _ => .pure ()

/-- Wait for `enabled`, then change the state. -/
def await (enabled : σ → Bool) (update : σ → σ) : Prog σ ι ε Unit :=
  .act enabled update fun _ => .pure ()

/-- A part of the environment's answer. -/
def answer (f : ι → β) : Prog σ ι ε β :=
  .ask fun i => .pure (f i)

/-- Fail with `e` unless `b`. -/
def ensure (b : Bool) (e : ε) : Prog σ ι ε Unit :=
  if b then .pure () else .throw e

/-- The value of an `Except`. -/
def ofExcept : Except ε α → Prog σ ι ε α
  | .ok a => .pure a
  | .error e => .throw e

/-- Run `p` between `enter` and `leave`; `leave` also runs on an error. -/
def bracket (enter leave : Prog σ ι ε Unit) (p : Prog σ ι ε α) : Prog σ ι ε α := do
  enter
  let r ← p.attempt
  leave
  ofExcept r

/-! ### Steps -/

/-- One step of a program, where the environment answers within `A`. -/
inductive Moves (A : ι → Prop) : Prog σ ι ε α → σ → Prog σ ι ε α → σ → Prop where
  | act {enabled : σ → Bool} {update : σ → σ} {next : σ → Prog σ ι ε α} {s : σ}
      (h : enabled s = true) : Moves A (.act enabled update next) s (next s) (update s)
  | ask {next : ι → Prog σ ι ε α} {i : ι} (hi : A i) {s : σ} : Moves A (.ask next) s (next i) s

/-- The step of a program under the answer `i`, if it can take one. -/
def move (i : ι) : Prog σ ι ε α → σ → Option (Prog σ ι ε α × σ)
  | .pure _, _ => none
  | .throw _, _ => none
  | .act enabled update next, s => if enabled s then some (next s, update s) else none
  | .ask next, s => some (next i, s)

theorem moves_of_move {i : ι} {p p' : Prog σ ι ε α} {s s' : σ}
    (h : move i p s = some (p', s')) : Moves (fun _ => True) p s p' s' := by
  cases p with
  | pure a => cases h
  | throw e => cases h
  | act enabled update next =>
    by_cases hen : enabled s = true
    · simp only [move, hen, if_true, Option.some.injEq, Prod.mk.injEq] at h
      obtain ⟨rfl, rfl⟩ := h
      exact Moves.act hen
    · simp [move, hen] at h
  | ask next =>
    simp only [move, Option.some.injEq, Prod.mk.injEq] at h
    obtain ⟨rfl, rfl⟩ := h
    exact Moves.ask trivial

/-- The program has ended. -/
def Ended : Prog σ ι ε α → Prop
  | .pure _ => True
  | .throw _ => True
  | _ => False

instance (p : Prog σ ι ε α) : Decidable p.Ended :=
  match p with
  | .pure _ => isTrue trivial
  | .throw _ => isTrue trivial
  | .act _ _ _ => isFalse id
  | .ask _ => isFalse id

/-- The result of a program that has ended. -/
def result? : Prog σ ι ε α → Option (Except ε α)
  | .pure a => some (.ok a)
  | .throw e => some (.error e)
  | _ => none

/-- The runs of a program alone, up to any point. -/
inductive Reaches (A : ι → Prop) : Prog σ ι ε α → σ → Prog σ ι ε α → σ → Prop where
  | refl {p : Prog σ ι ε α} {s : σ} : Reaches A p s p s
  | step {p p' p'' : Prog σ ι ε α} {s s' s'' : σ} :
      Moves A p s p' s' → Reaches A p' s' p'' s'' → Reaches A p s p'' s''

theorem Reaches.trans {A : ι → Prop} {p p' p'' : Prog σ ι ε α} {s s' s'' : σ}
    (h : Reaches A p s p' s') (h' : Reaches A p' s' p'' s'') : Reaches A p s p'' s'' := by
  induction h with
  | refl => exact h'
  | step hmove _ ih => exact Reaches.step hmove (ih h')

/-- The runs of a program are runs of every program that begins with it. -/
theorem Reaches.bind {A : ι → Prop} {p p' : Prog σ ι ε α} {s s' : σ} (h : Reaches A p s p' s')
    (f : α → Prog σ ι ε β) : Reaches A (p >>= f) s (p' >>= f) s' := by
  induction h with
  | refl => exact Reaches.refl
  | step hmove _ ih =>
    cases hmove with
    | act hen => exact Reaches.step (Moves.act hen) ih
    | ask hi => exact Reaches.step (Moves.ask hi) ih

theorem Reaches.attempt {A : ι → Prop} {p p' : Prog σ ι ε α} {s s' : σ}
    (h : Reaches A p s p' s') : Reaches A p.attempt s p'.attempt s' := by
  induction h with
  | refl => exact Reaches.refl
  | step hmove _ ih =>
    cases hmove with
    | act hen => exact Reaches.step (Moves.act hen) ih
    | ask hi => exact Reaches.step (Moves.ask hi) ih

/-- The program can be in the state `s'` when it stops, at its end or before. -/
def Visits (A : ι → Prop) (p : Prog σ ι ε α) (s s' : σ) : Prop :=
  ∃ p', Reaches A p s p' s'

theorem Visits.refl {A : ι → Prop} {p : Prog σ ι ε α} {s : σ} : Visits A p s s :=
  ⟨p, Reaches.refl⟩

theorem Visits.act {A : ι → Prop} {enabled : σ → Bool} {update : σ → σ}
    {next : σ → Prog σ ι ε α} {s s' : σ} (hen : enabled s = true)
    (h : Visits A (next s) (update s) s') : Visits A (.act enabled update next) s s' := by
  obtain ⟨p', hreach⟩ := h
  exact ⟨p', Reaches.step (Moves.act hen) hreach⟩

/-- A run of the second part, after one of the first. -/
theorem Visits.after {A : ι → Prop} {p : Prog σ ι ε α} {a : α} {f : α → Prog σ ι ε β}
    {s s' s'' : σ} (h : Reaches A p s (.pure a) s') (h' : Visits A (f a) s' s'') :
    Visits A (p >>= f) s s'' := by
  obtain ⟨q, hreach⟩ := h'
  exact ⟨q, (h.bind f).trans hreach⟩

/-- What a part visits, the whole visits. -/
theorem Visits.bind {A : ι → Prop} {p : Prog σ ι ε α} {s s' : σ} (h : Visits A p s s')
    (f : α → Prog σ ι ε β) : Visits A (p >>= f) s s' := by
  obtain ⟨p', hreach⟩ := h
  exact ⟨_, hreach.bind f⟩

theorem Visits.attempt {A : ι → Prop} {p : Prog σ ι ε α} {s s' : σ} (h : Visits A p s s') :
    Visits A p.attempt s s' := by
  obtain ⟨p', hreach⟩ := h
  exact ⟨_, hreach.attempt⟩

/-- A program is a finite tree: it has no infinite run. -/
theorem moves_wellFounded (A : ι → Prop) :
    WellFounded fun (q p : Prog σ ι ε α) => ∃ s s', Moves A p s q s' := by
  constructor
  intro p
  induction p with
  | pure a => exact ⟨_, fun q ⟨s, s', h⟩ => nomatch h⟩
  | throw e => exact ⟨_, fun q ⟨s, s', h⟩ => nomatch h⟩
  | act enabled update next ih =>
    constructor
    rintro q ⟨s, s', h⟩
    cases h with
    | act hen => exact ih s
  | ask next ih =>
    constructor
    rintro q ⟨s, s', h⟩
    cases h with
    | @ask _ i _ => exact ih i

/-- Run a program alone on a list of answers, one for each step. -/
def exec : List ι → Prog σ ι ε α → σ → Option (Prog σ ι ε α × σ)
  | [], p, s => some (p, s)
  | i :: is, p, s => (move i p s).bind fun (p', s') => exec is p' s'

theorem reaches_of_exec {is : List ι} {p p' : Prog σ ι ε α} {s s' : σ}
    (h : exec is p s = some (p', s')) : Reaches (fun _ => True) p s p' s' := by
  induction is generalizing p s with
  | nil =>
    obtain ⟨rfl, rfl⟩ := Prod.mk.inj (Option.some.inj h)
    exact Reaches.refl
  | cons i is ih =>
    obtain ⟨⟨q, t⟩, hmove, hrest⟩ := Option.bind_eq_some_iff.mp h
    exact Reaches.step (moves_of_move hmove) (ih hrest)

/-! ### Weakest preconditions with a crash condition -/

/-- Whatever the environment answers among the answers `A`, no step blocks,
    every state after a step satisfies `I`, and the result satisfies `Q`. -/
def wp (I : σ → Prop) (A : ι → Prop) (Q : Except ε α → σ → Prop) : Prog σ ι ε α → σ → Prop
  | .pure a, s => Q (.ok a) s
  | .throw e, s => Q (.error e) s
  | .act enabled update next, s =>
      enabled s = true ∧ I (update s) ∧ wp I A Q (next s) (update s)
  | .ask next, s => ∀ i, A i → wp I A Q (next i) s

section wp

variable {I : σ → Prop} {A : ι → Prop} {Q : Except ε α → σ → Prop}

@[simp] theorem wp_pure (a : α) (s : σ) : wp I A Q (.pure a) s ↔ Q (.ok a) s := Iff.rfl

@[simp] theorem wp_throw (e : ε) (s : σ) : wp I A Q (.throw e) s ↔ Q (.error e) s := Iff.rfl

theorem wp_mono {Q' : Except ε α → σ → Prop} {p : Prog σ ι ε α} {s : σ}
    (h : wp I A Q p s) (hQ : ∀ r s, Q r s → Q' r s) : wp I A Q' p s := by
  induction p generalizing s with
  | pure a => exact hQ _ _ h
  | throw e => exact hQ _ _ h
  | act enabled update next ih => exact ⟨h.1, h.2.1, ih s h.2.2⟩
  | ask next ih => exact fun i hi => ih i (h i hi)

/-- Sequencing: what follows is established where the first part ends. -/
theorem wp_bind {Q : Except ε β → σ → Prop} (p : Prog σ ι ε α) (f : α → Prog σ ι ε β) (s : σ) :
    wp I A Q (p >>= f) s ↔
      wp I A (fun r t => match r with
        | .ok a => wp I A Q (f a) t
        | .error e => Q (.error e) t) p s := by
  induction p generalizing s with
  | pure a => exact Iff.rfl
  | throw e => exact Iff.rfl
  | act enabled update next ih => exact and_congr Iff.rfl (and_congr Iff.rfl (ih s (update s)))
  | ask next ih => exact forall_congr' fun i => imp_congr Iff.rfl (ih i s)

theorem wp_attempt {Q : Except ε (Except ε α) → σ → Prop} (p : Prog σ ι ε α) (s : σ) :
    wp I A Q p.attempt s ↔ wp I A (fun r t => Q (.ok r) t) p s := by
  induction p generalizing s with
  | pure a => exact Iff.rfl
  | throw e => exact Iff.rfl
  | act enabled update next ih => exact and_congr Iff.rfl (and_congr Iff.rfl (ih s (update s)))
  | ask next ih => exact forall_congr' fun i => imp_congr Iff.rfl (ih i s)

@[simp] theorem wp_read (f : σ → α) (s : σ) :
    wp I A Q (read f) s ↔ I s ∧ Q (.ok (f s)) s := by
  simp [read, wp]

@[simp] theorem wp_modify {Q : Except ε Unit → σ → Prop} (update : σ → σ) (s : σ) :
    wp I A Q (modify update) s ↔ I (update s) ∧ Q (.ok ()) (update s) := by
  simp [modify, wp]

@[simp] theorem wp_await {Q : Except ε Unit → σ → Prop} (enabled : σ → Bool) (update : σ → σ)
    (s : σ) :
    wp I A Q (await enabled update) s ↔
      enabled s = true ∧ I (update s) ∧ Q (.ok ()) (update s) := by
  simp [await, wp]

@[simp] theorem wp_answer (f : ι → α) (s : σ) :
    wp I A Q (answer f) s ↔ ∀ i, A i → Q (.ok (f i)) s := Iff.rfl

@[simp] theorem wp_ofExcept (r : Except ε α) (s : σ) : wp I A Q (ofExcept r) s ↔ Q r s := by
  cases r <;> rfl

theorem wp_ensure {Q : Except ε Unit → σ → Prop} (b : Bool) (e : ε) (s : σ) :
    wp I A Q (ensure b e) s ↔ (b = true → Q (.ok ()) s) ∧ (b = false → Q (.error e) s) := by
  cases b <;> simp [ensure]

/-- A bracket runs its ends and hands over the result of what it encloses. -/
theorem wp_bracket (enabled : σ → Bool) (enter leave : σ → σ) (p : Prog σ ι ε α) (s : σ) :
    wp I A Q (bracket (await enabled enter) (modify leave) p) s ↔
      enabled s = true ∧ I (enter s) ∧
        wp I A (fun r t => I (leave t) ∧ Q r (leave t)) p (enter s) := by
  have hrest : ∀ (t : σ), wp I A Q (do
      let r ← p.attempt
      modify leave
      ofExcept r) t ↔ wp I A (fun r t => I (leave t) ∧ Q r (leave t)) p t := by
    intro t
    rw [wp_bind, wp_attempt]
    simp only [wp_bind, wp_modify, wp_ofExcept]
  have hbody := hrest (enter s)
  exact and_congr Iff.rfl (and_congr Iff.rfl hbody)

/-- A run keeps the weakest precondition, and the crash condition at every point. -/
theorem wp_reaches {p p' : Prog σ ι ε α} {s s' : σ} (hreach : Reaches A p s p' s') (hI : I s)
    (h : wp I A Q p s) : I s' ∧ wp I A Q p' s' := by
  induction hreach with
  | refl => exact ⟨hI, h⟩
  | step hmove hrest ih =>
    cases hmove with
    | act hen => exact ih h.2.1 h.2.2
    | @ask _ i hi _ => exact ih hI (h i hi)

/-- A program that keeps a weakest precondition has a run to its end. -/
theorem wp_exists {p : Prog σ ι ε α} {s : σ} (hA : ∃ i, A i) (h : wp I A Q p s) :
    ∃ p' s' r, Reaches A p s p' s' ∧ p'.result? = some r ∧ Q r s' := by
  induction p generalizing s with
  | pure a => exact ⟨_, s, .ok a, Reaches.refl, rfl, h⟩
  | throw e => exact ⟨_, s, .error e, Reaches.refl, rfl, h⟩
  | act enabled update next ih =>
    obtain ⟨p', s', r, hreach, hend⟩ := ih s h.2.2
    exact ⟨p', s', r, Reaches.step (Moves.act h.1) hreach, hend⟩
  | ask next ih =>
    obtain ⟨i, hi⟩ := hA
    obtain ⟨p', s', r, hreach, hend⟩ := ih i (h i hi)
    exact ⟨p', s', r, Reaches.step (Moves.ask hi) hreach, hend⟩

end wp

end Prog

end Program
