import Mathlib
import Quinte.Framework.Pool

/-! # Threads and interference

    A `Contract` says what holds of the state between steps, what the others
    may do to it in the meantime, and what a program's own steps may do.
    `Upholds` is the proof obligation of a program under a contract, with one
    rule for each way to build a program; `interleave` runs two programs as
    threads of one process, the environment choosing who moves.

    * `Upholds.interleave`: threads whose steps the other one's contract allows
      can be run together;
    * `Leaves.upholds`: a program that leaves a view of the state alone upholds
      every contract about that view;
    * `Upholds.safe`: what upholds a contract is safe in a pool whose other
      processes keep to it.
-/

namespace Program

open Relation

namespace Prog

variable {σ ι ε α β : Type}

/-! ### Threads -/

/-- The rest of `interleave` while both threads run: `p` is about to take the
    step `enabled`, `update`, and `next` interleaves what follows with the
    other thread. -/
def interleaveAct (first : ι → Bool) (enabled : σ → Bool) (update : σ → σ)
    (next : σ → Prog σ ι ε β → Prog σ ι ε (Except ε α × Except ε β))
    (alone : Except ε β → Prog σ ι ε (Except ε α × Except ε β)) :
    Prog σ ι ε β → Prog σ ι ε (Except ε α × Except ε β)
  | .pure b => alone (.ok b)
  | .throw e => alone (.error e)
  | .act enabled' update' next' => .ask fun i =>
      if first i then .act enabled update fun s => next s (.act enabled' update' next')
      else .act enabled' update' fun s =>
        interleaveAct first enabled update next alone (next' s)
  | .ask next' => .ask fun i => interleaveAct first enabled update next alone (next' i)

/-- Two threads. The environment chooses which one goes on. -/
def interleave (first : ι → Bool) : Prog σ ι ε α → Prog σ ι ε β →
    Prog σ ι ε (Except ε α × Except ε β)
  | .pure a => fun q => q.attempt >>= fun r => .pure (.ok a, r)
  | .throw e => fun q => q.attempt >>= fun r => .pure (.error e, r)
  | .act enabled update next => interleaveAct first enabled update
      (fun s q => interleave first (next s) q)
      fun r => .act enabled update fun s => (next s).attempt >>= fun l => .pure (l, r)
  | .ask next => fun q => .ask fun i => interleave first (next i) q

end Prog

/-! ### Contracts -/

/-- What a program may rely on, and what it guarantees. -/
structure Contract (σ : Type) where
  /-- holds of the state between any two steps -/
  inv : σ → Prop
  /-- what the others may do -/
  rely : σ → σ → Prop
  /-- what the program's own steps may do -/
  guar : σ → σ → Prop

structure Contract.Lawful {σ : Type} (C : Contract σ) : Prop where
  rely_refl : ∀ s, C.rely s s
  rely_trans : ∀ s s' s'', C.rely s s' → C.rely s' s'' → C.rely s s''
  guar_refl : ∀ s, C.guar s s

section upholds

variable {σ ι ε α β γ : Type} (C : Contract σ)

/-- Whatever the others do between its steps, every step of the program is one
    it may take, and its result satisfies `Q`. -/
def Upholds (Q : Except ε α → σ → Prop) : Prog σ ι ε α → σ → Prop
  | .pure a, s => ∀ s', C.rely s s' → Q (.ok a) s'
  | .throw e, s => ∀ s', C.rely s s' → Q (.error e) s'
  | .act enabled update next, s => ∀ s', C.rely s s' → C.inv s' → enabled s' = true →
      C.guar s' (update s') ∧ Upholds Q (next s') (update s')
  | .ask next, s => ∀ i, Upholds Q (next i) s

variable {C}

theorem Upholds.rely (hC : C.Lawful) {Q : Except ε α → σ → Prop} {p : Prog σ ι ε α} {s s' : σ}
    (h : Upholds C Q p s) (hrely : C.rely s s') : Upholds C Q p s' := by
  induction p generalizing s s' with
  | pure a => exact fun t ht => h t (hC.rely_trans _ _ _ hrely ht)
  | throw e => exact fun t ht => h t (hC.rely_trans _ _ _ hrely ht)
  | act enabled update next ih => exact fun t ht => h t (hC.rely_trans _ _ _ hrely ht)
  | ask next ih => exact fun i => ih i (h i) hrely

theorem Upholds.mono {Q Q' : Except ε α → σ → Prop} {p : Prog σ ι ε α} {s : σ}
    (h : Upholds C Q p s) (hQ : ∀ r t, Q r t → Q' r t) : Upholds C Q' p s := by
  induction p generalizing s with
  | pure a => exact fun t ht => hQ _ _ (h t ht)
  | throw e => exact fun t ht => hQ _ _ (h t ht)
  | act enabled update next ih =>
    exact fun t ht hinv hen => ⟨(h t ht hinv hen).1, ih t (h t ht hinv hen).2⟩
  | ask next ih => exact fun i => ih i (h i)

/-- Sequencing. -/
theorem Upholds.bind (hC : C.Lawful) {Q : Except ε β → σ → Prop} {p : Prog σ ι ε α}
    {f : α → Prog σ ι ε β} {s : σ}
    (h : Upholds C (fun r t => match r with
      | .ok a => Upholds C Q (f a) t
      | .error e => Q (.error e) t) p s) : Upholds C Q (p >>= f) s := by
  induction p generalizing s with
  | pure a => exact h s (hC.rely_refl s)
  | throw e => exact h
  | act enabled update next ih =>
    exact fun t ht hinv hen => ⟨(h t ht hinv hen).1, ih t (h t ht hinv hen).2⟩
  | ask next ih => exact fun i => ih i (h i)

theorem Upholds.attempt {Q : Except ε (Except ε α) → σ → Prop} {p : Prog σ ι ε α} {s : σ}
    (h : Upholds C (fun r t => Q (.ok r) t) p s) : Upholds C Q p.attempt s := by
  induction p generalizing s with
  | pure a => exact h
  | throw e => exact h
  | act enabled update next ih =>
    exact fun t ht hinv hen => ⟨(h t ht hinv hen).1, ih t (h t ht hinv hen).2⟩
  | ask next ih => exact fun i => ih i (h i)

/-! ### Rules -/

theorem Upholds.pure {Q : Except ε α → σ → Prop} {a : α} {s : σ}
    (h : ∀ s', C.rely s s' → Q (.ok a) s') : Upholds C Q (pure a : Prog σ ι ε α) s :=
  h

theorem Upholds.throw {Q : Except ε α → σ → Prop} {e : ε} {s : σ}
    (h : ∀ s', C.rely s s' → Q (.error e) s') : Upholds C Q (.throw e : Prog σ ι ε α) s :=
  h

/-- Reading: the state that is read is the one the others have left. -/
theorem Upholds.read (hC : C.Lawful) {Q : Except ε β → σ → Prop} {f : σ → α}
    {k : α → Prog σ ι ε β} {s : σ}
    (h : ∀ s', C.rely s s' → C.inv s' → Upholds C Q (k (f s')) s') :
    Upholds C Q (Prog.read f >>= k) s :=
  fun s' hrely hinv _ => ⟨hC.guar_refl s', h s' hrely hinv⟩

/-- A step that changes the state and may hand over a part of it. -/
theorem Upholds.act {Q : Except ε β → σ → Prop} {enabled : σ → Bool} {update : σ → σ}
    {next : σ → Prog σ ι ε α} {k : α → Prog σ ι ε β} {s : σ}
    (h : ∀ s', C.rely s s' → C.inv s' → C.guar s' (update s') ∧
      Upholds C Q (next s' >>= k) (update s')) :
    Upholds C Q (Prog.act enabled update next >>= k) s :=
  fun s' hrely hinv _ => h s' hrely hinv

theorem Upholds.modify {Q : Except ε β → σ → Prop} {update : σ → σ} {k : Unit → Prog σ ι ε β}
    {s : σ} (h : ∀ s', C.rely s s' → C.inv s' →
      C.guar s' (update s') ∧ Upholds C Q (k ()) (update s')) :
    Upholds C Q (Prog.modify update >>= k) s :=
  fun s' hrely hinv _ => h s' hrely hinv

theorem Upholds.modify_end {Q : Except ε Unit → σ → Prop} {update : σ → σ} {s : σ}
    (h : ∀ s', C.rely s s' → C.inv s' →
      C.guar s' (update s') ∧ ∀ t, C.rely (update s') t → Q (.ok ()) t) :
    Upholds C Q (Prog.modify update : Prog σ ι ε Unit) s :=
  fun s' hrely hinv _ => h s' hrely hinv

theorem Upholds.answer {Q : Except ε β → σ → Prop} {f : ι → α} {k : α → Prog σ ι ε β} {s : σ}
    (h : ∀ a, Upholds C Q (k a) s) : Upholds C Q (Prog.answer f >>= k) s :=
  fun i => h (f i)

/-- An `Except` that was computed before. -/
theorem Upholds.ofExcept {Q : Except ε β → σ → Prop} {r : Except ε α} {k : α → Prog σ ι ε β}
    {s : σ} (hk : ∀ a, r = .ok a → Upholds C Q (k a) s)
    (he : ∀ e, r = .error e → ∀ s', C.rely s s' → Q (.error e) s') :
    Upholds C Q (Prog.ofExcept r >>= k) s := by
  cases r with
  | ok a => exact hk a rfl
  | error e => exact he e rfl

theorem Upholds.ensure {Q : Except ε β → σ → Prop} {b : Bool} {e : ε} {k : Unit → Prog σ ι ε β}
    {s : σ} (hk : b = true → Upholds C Q (k ()) s)
    (he : b = false → ∀ s', C.rely s s' → Q (.error e) s') :
    Upholds C Q (Prog.ensure b e >>= k) s := by
  cases b with
  | true => exact hk rfl
  | false => exact he rfl

/-- A result that holds now holds whatever the others do next. -/
theorem Upholds.stable (hC : C.Lawful) {Q : Except ε α → σ → Prop} {p : Prog σ ι ε α} {s : σ}
    (h : Upholds C Q p s) : Upholds C (fun r t => ∀ t', C.rely t t' → Q r t') p s := by
  induction p generalizing s with
  | pure a => exact fun t ht t' ht' => h t' (hC.rely_trans _ _ _ ht ht')
  | throw e => exact fun t ht t' ht' => h t' (hC.rely_trans _ _ _ ht ht')
  | act enabled update next ih =>
    exact fun t ht hinv hen => ⟨(h t ht hinv hen).1, ih t (h t ht hinv hen).2⟩
  | ask next ih => exact fun i => ih i (h i)

/-- What upholds a contract upholds a wider one, and keeps what the steps of both
    keep. -/
theorem Upholds.widen {D : Contract σ} {Q : Except ε α → σ → Prop} {K : σ → σ → Prop}
    (hinv : ∀ s, D.inv s → C.inv s) (hrely : ∀ s s', D.rely s s' → C.rely s s')
    (hguar : ∀ s s', C.guar s s' → D.guar s s')
    (htrans : ∀ s s' s'', K s s' → K s' s'' → K s s'')
    (hrelyK : ∀ s s', D.rely s s' → K s s') (hguarK : ∀ s s', C.inv s → C.guar s s' → K s s')
    {p : Prog σ ι ε α} {s : σ} (hrefl : K s s) (h : Upholds C Q p s) :
    Upholds D (fun r t => Q r t ∧ K s t) p s := by
  suffices haux : ∀ s₀, K s₀ s → Upholds D (fun r t => Q r t ∧ K s₀ t) p s from haux s hrefl
  clear hrefl
  induction p generalizing s with
  | pure a => exact fun s₀ hs t ht => ⟨h t (hrely _ _ ht), htrans _ _ _ hs (hrelyK _ _ ht)⟩
  | throw e => exact fun s₀ hs t ht => ⟨h t (hrely _ _ ht), htrans _ _ _ hs (hrelyK _ _ ht)⟩
  | act enabled update next ih =>
    intro s₀ hs t ht hi hen
    obtain ⟨hg, hrest⟩ := h t (hrely _ _ ht) (hinv t hi) hen
    exact ⟨hguar _ _ hg, ih t hrest s₀
      (htrans _ _ _ (htrans _ _ _ hs (hrelyK _ _ ht)) (hguarK _ _ (hinv t hi) hg))⟩
  | ask next ih => exact fun s₀ hs i => ih i (h i) s₀ hs

/-- A bracket upholds what its ends and its body do. -/
theorem Upholds.bracket (hC : C.Lawful) {Q : Except ε α → σ → Prop} {enabled : σ → Bool}
    {enter leave : σ → σ} {p : Prog σ ι ε α} {s : σ}
    (h : ∀ s', C.rely s s' → C.inv s' → enabled s' = true →
      C.guar s' (enter s') ∧
      Upholds C (fun r t => ∀ t', C.rely t t' → C.inv t' →
        C.guar t' (leave t') ∧ ∀ t'', C.rely (leave t') t'' → Q r t'') p (enter s')) :
    Upholds C Q (Prog.bracket (Prog.await enabled enter) (Prog.modify leave) p) s := by
  intro s' hrely hinv hen
  obtain ⟨hguar, hbody⟩ := h s' hrely hinv hen
  have hrest : Upholds C Q (do
      let r ← p.attempt
      Prog.modify leave
      Prog.ofExcept r) (enter s') := by
    refine Upholds.bind hC (Upholds.attempt (hbody.mono ?_))
    intro r t hr
    refine Upholds.modify fun t' hrely' hinv' => ⟨(hr t' hrely' hinv').1, ?_⟩
    cases r with
    | ok a => exact (hr t' hrely' hinv').2
    | error e => exact (hr t' hrely' hinv').2
  exact ⟨hguar, hrest⟩

/-! ### Postconditions on success -/

/-- What holds where a program returns. -/
def Returns (P : α → σ → Prop) : Except ε α → σ → Prop
  | .ok a, t => P a t
  | .error _, _ => True

/-- Sequencing, where nothing is asked of an error. -/
theorem Upholds.then (hC : C.Lawful) {P : α → σ → Prop} {R : β → σ → Prop} {p : Prog σ ι ε α}
    {f : α → Prog σ ι ε β} {s : σ} (hp : Upholds C (Returns P) p s)
    (hf : ∀ a t, P a t → Upholds C (Returns R) (f a) t) : Upholds C (Returns R) (p >>= f) s := by
  refine Upholds.bind hC (hp.mono fun r t hr => ?_)
  cases r with
  | ok a => exact hf a t hr
  | error e => trivial

theorem Upholds.returns {P R : α → σ → Prop} {p : Prog σ ι ε α} {s : σ}
    (hp : Upholds C (Returns P) p s) (h : ∀ a t, P a t → R a t) : Upholds C (Returns R) p s :=
  hp.mono fun r t hr => by
    cases r with
    | ok a => exact h a t hr
    | error e => trivial

/-! ### Programs that leave a view alone -/

/-- No step of the program changes the view `v`. -/
def Leaves (v : σ → γ) : Prog σ ι ε α → Prop
  | .pure _ => True
  | .throw _ => True
  | .act enabled update next => (∀ s, enabled s = true → v (update s) = v s) ∧
      ∀ s, Leaves v (next s)
  | .ask next => ∀ i, Leaves v (next i)

section leaves

variable {v : σ → γ}

theorem Leaves.bind {p : Prog σ ι ε α} {f : α → Prog σ ι ε β} (hp : Leaves v p)
    (hf : ∀ a, Leaves v (f a)) : Leaves v (p >>= f) := by
  induction p with
  | pure a => exact hf a
  | throw e => exact trivial
  | act enabled update next ih => exact ⟨hp.1, fun s => ih s (hp.2 s)⟩
  | ask next ih => exact fun i => ih i (hp i)

theorem Leaves.attempt {p : Prog σ ι ε α} (hp : Leaves v p) : Leaves v p.attempt := by
  induction p with
  | pure a => exact trivial
  | throw e => exact trivial
  | act enabled update next ih => exact ⟨hp.1, fun s => ih s (hp.2 s)⟩
  | ask next ih => exact fun i => ih i (hp i)

@[simp] theorem leaves_pure (a : α) : Leaves v (pure a : Prog σ ι ε α) := trivial

@[simp] theorem leaves_throw (e : ε) : Leaves v (.throw e : Prog σ ι ε α) := trivial

@[simp] theorem leaves_read (f : σ → α) : Leaves v (Prog.read f : Prog σ ι ε α) :=
  ⟨fun _ _ => rfl, fun _ => trivial⟩

@[simp] theorem leaves_modify (update : σ → σ) :
    Leaves v (Prog.modify update : Prog σ ι ε Unit) ↔ ∀ s, v (update s) = v s :=
  ⟨fun h s => h.1 s rfl, fun h => ⟨fun s _ => h s, fun _ => trivial⟩⟩

@[simp] theorem leaves_answer (f : ι → α) : Leaves v (Prog.answer f : Prog σ ι ε α) :=
  fun _ => trivial

@[simp] theorem leaves_ensure (b : Bool) (e : ε) : Leaves v (Prog.ensure b e : Prog σ ι ε Unit) := by
  cases b <;> exact trivial

@[simp] theorem leaves_ofExcept (r : Except ε α) : Leaves v (Prog.ofExcept r : Prog σ ι ε α) := by
  cases r <;> exact trivial

theorem Leaves.bracket {enter leave : Prog σ ι ε Unit} {p : Prog σ ι ε α}
    (henter : Leaves v enter) (hleave : Leaves v leave) (hp : Leaves v p) :
    Leaves v (Prog.bracket enter leave p) :=
  henter.bind fun _ => hp.attempt.bind fun _ => hleave.bind fun _ => leaves_ofExcept _

/-- What leaves a view alone upholds every contract that allows it; `K` is
    what is known of the view meanwhile. -/
theorem Leaves.upholds {p : Prog σ ι ε α} (hp : Leaves v p)
    (hguar : ∀ s s', v s' = v s → C.guar s s') {K : σ → σ → Prop}
    (hrefl : ∀ s, K s s) (htrans : ∀ s s' s'', K s s' → K s' s'' → K s s'')
    (hrely : ∀ s s', C.rely s s' → K s s') (hview : ∀ s s', v s' = v s → K s s') (s : σ) :
    Upholds C (fun _ t => K s t) p s := by
  suffices haux : ∀ s', K s s' → Upholds C (fun _ t => K s t) p s' from haux s (hrefl s)
  induction p with
  | pure a => exact fun s' hs t ht => htrans _ _ _ hs (hrely _ _ ht)
  | throw e => exact fun s' hs t ht => htrans _ _ _ hs (hrely _ _ ht)
  | act enabled update next ih =>
    intro s' hs t ht _ hen
    have hsame := hp.1 t hen
    exact ⟨hguar _ _ hsame, ih t (hp.2 t) _
      (htrans _ _ _ (htrans _ _ _ hs (hrely _ _ ht)) (hview _ _ hsame))⟩
  | ask next ih => exact fun s' hs i => ih i (hp i) s' hs

/-- A program that leaves the view alone comes first: what the contract lets a
    program rely on holds across it. -/
theorem Leaves.upholds_bind (hC : C.Lawful) {Q : Except ε β → σ → Prop} {p : Prog σ ι ε α}
    {f : α → Prog σ ι ε β} {s : σ} (hp : Leaves v p)
    (hguar : ∀ s s', v s' = v s → C.guar s s') (hview : ∀ s s', v s' = v s → C.rely s s')
    (hf : ∀ a t, C.rely s t → Upholds C Q (f a) t)
    (he : ∀ e t, C.rely s t → Q (.error e) t) : Upholds C Q (p >>= f) s := by
  refine Upholds.bind hC ((hp.upholds hguar hC.rely_refl hC.rely_trans (fun _ _ h => h)
    hview s).mono ?_)
  intro r t ht
  cases r with
  | ok a => exact hf a t ht
  | error e => exact he e t ht

end leaves

/-! ### Two threads -/

section interleave

variable {C₁ C₂ : Contract σ}

/-- What two threads and the process they make up need of their contracts. -/
structure Contract.Threads (C C₁ C₂ : Contract σ) : Prop where
  lawful : C.Lawful
  lawful₁ : C₁.Lawful
  lawful₂ : C₂.Lawful
  inv₁ : ∀ s, C.inv s → C₁.inv s
  inv₂ : ∀ s, C.inv s → C₂.inv s
  rely₁ : ∀ s s', C.rely s s' → C₁.rely s s'
  rely₂ : ∀ s s', C.rely s s' → C₂.rely s s'
  guar₁ : ∀ s s', C.inv s → C₁.guar s s' → C₂.rely s s' ∧ C.guar s s'
  guar₂ : ∀ s s', C.inv s → C₂.guar s s' → C₁.rely s s' ∧ C.guar s s'

theorem Contract.Threads.symm (h : C.Threads C₁ C₂) : C.Threads C₂ C₁ where
  lawful := h.lawful
  lawful₁ := h.lawful₂
  lawful₂ := h.lawful₁
  inv₁ := h.inv₂
  inv₂ := h.inv₁
  rely₁ := h.rely₂
  rely₂ := h.rely₁
  guar₁ := h.guar₂
  guar₂ := h.guar₁

/-- The last thread, beside one that has ended with what `P` says. -/
theorem Upholds.beside (h : C.Threads C₁ C₂) {P : σ → Prop} {Q : Except ε α → σ → Prop}
    {q : Prog σ ι ε α} {s : σ} (hP : ∀ t, C₁.rely s t → P t) (hq : Upholds C₂ Q q s) :
    Upholds C (fun r t => P t ∧ Q r t) q s := by
  induction q generalizing s with
  | pure b => exact fun t ht => ⟨hP t (h.rely₁ _ _ ht), hq t (h.rely₂ _ _ ht)⟩
  | throw e => exact fun t ht => ⟨hP t (h.rely₁ _ _ ht), hq t (h.rely₂ _ _ ht)⟩
  | act enabled update next ih =>
    intro t ht hinv hen
    obtain ⟨hguar, hrest⟩ := hq t (h.rely₂ _ _ ht) (h.inv₂ t hinv) hen
    obtain ⟨hrely, hguar'⟩ := h.guar₂ _ _ hinv hguar
    refine ⟨hguar', ih t (fun t' ht' => hP t' ?_) hrest⟩
    exact h.lawful₁.rely_trans _ _ _ (h.lawful₁.rely_trans _ _ _ (h.rely₁ _ _ ht) hrely) ht'
  | ask next ih => exact fun i => ih i hP (hq i)

/-- The last thread, with the result of the other one put beside its own. -/
theorem Upholds.beside_attempt (h : C.Threads C₁ C₂) {P : σ → Prop} {Q : Except ε α → σ → Prop}
    {R : Except ε γ → σ → Prop} {pair : Except ε α → γ} {q : Prog σ ι ε α} {s : σ}
    (hP : ∀ t, C₁.rely s t → P t) (hq : Upholds C₂ Q q s)
    (hR : ∀ r t, P t → Q r t → R (.ok (pair r)) t) :
    Upholds C R (q.attempt >>= fun r => .pure (pair r)) s := by
  refine Upholds.bind h.lawful (Upholds.attempt ((hq.beside h hP).stable h.lawful |>.mono ?_))
  exact fun r t hr t' ht' => hR r t' (hr t' ht').1 (hr t' ht').2

/-- **Threads** whose steps the other one's contract allows run together. -/
theorem Upholds.interleave (h : C.Threads C₁ C₂) (first : ι → Bool)
    {Q₁ : Except ε α → σ → Prop} {Q₂ : Except ε β → σ → Prop} {p : Prog σ ι ε α}
    {q : Prog σ ι ε β} {s : σ} (hp : Upholds C₁ Q₁ p s) (hq : Upholds C₂ Q₂ q s) :
    Upholds C (fun r t => ∃ l r', r = .ok (l, r') ∧ Q₁ l t ∧ Q₂ r' t)
      (Prog.interleave first p q) s := by
  induction p generalizing q s with
  | pure a => exact Upholds.beside_attempt h hp hq fun r t hl hr => ⟨_, _, rfl, hl, hr⟩
  | throw e => exact Upholds.beside_attempt h hp hq fun r t hl hr => ⟨_, _, rfl, hl, hr⟩
  | ask next ih => exact fun i => ih i (hp i) hq
  | act enabled update next ih =>
    -- the other thread's program moves on while `p` waits
    induction q generalizing s with
    | pure b => exact Upholds.beside_attempt h.symm hq hp fun l t hr hl => ⟨_, _, rfl, hl, hr⟩
    | throw e => exact Upholds.beside_attempt h.symm hq hp fun l t hr hl => ⟨_, _, rfl, hl, hr⟩
    | ask next' ihq => exact fun i => ihq i hp (hq i)
    | act enabled' update' next' ihq =>
      intro i
      cases hfirst : first i with
      | true =>
        simp only [hfirst, if_true]
        intro t ht hinv hen
        obtain ⟨hguar, hrest⟩ := hp t (h.rely₁ _ _ ht) (h.inv₁ t hinv) hen
        obtain ⟨hrely, hguar'⟩ := h.guar₁ _ _ hinv hguar
        refine ⟨hguar', ih t hrest (hq.rely h.lawful₂ ?_)⟩
        exact h.lawful₂.rely_trans _ _ _ (h.rely₂ _ _ ht) hrely
      | false =>
        simp only [hfirst, Bool.false_eq_true, if_false]
        intro t ht hinv hen
        obtain ⟨hguar, hrest⟩ := hq t (h.rely₂ _ _ ht) (h.inv₂ t hinv) hen
        obtain ⟨hrely, hguar'⟩ := h.guar₂ _ _ hinv hguar
        refine ⟨hguar', ihq t (hp.rely h.lawful₁ ?_) hrest⟩
        exact h.lawful₁.rely_trans _ _ _ (h.rely₁ _ _ ht) hrely

end interleave

/-! ### Pools -/

/-- In a pool whose other processes keep to the contract, what upholds it is safe. -/
theorem Upholds.safe {π : Type} {P : Protocol π σ} {me : π} {Q : Except ε α → σ → Prop}
    {p : Prog σ ι ε α} {s : σ} (hinv : ∀ s, P.inv s → C.inv s)
    (hrely : ∀ s s', P.Rely me s s' → C.rely s s') (hguar : ∀ s s', C.guar s s' → P.guar me s s')
    (h : Upholds C Q p s) : Safe P me Q p s := by
  induction p generalizing s with
  | pure a => exact fun t ht => h t (hrely _ _ ht)
  | throw e => exact fun t ht => h t (hrely _ _ ht)
  | act enabled update next ih =>
    intro t ht hi hen
    obtain ⟨hg, hrest⟩ := h t (hrely _ _ ht) (hinv t hi) hen
    exact ⟨hguar _ _ hg, ih t hrest⟩
  | ask next ih => exact fun i => ih i (h i)

end upholds

end Program
