import Mathlib
import Quinte.Framework.Interference

/-! # Programs on a part of a state

    A program on a part of a state is a program on the whole: `Prog.zoom`
    reads the part with `get` and puts the changed one back with `put`, which
    may leave a trace elsewhere.  `Prog.mapError` says an error in other words.

    * `wp_zoom`, `Safe.zoom`: such a program does to the part what it does
      alone, and to the rest what `put` does;
    * `wp_mapError`, `Safe.mapError`: the words of an error change nothing else;
    * `Leaves.safe`: a program that leaves a view of the state alone is safe
      where the protocol is about that view.
-/

namespace Program

namespace Prog

variable {σ τ ι ε ε' α β : Type}

/-- Run `p` on a part of the state. -/
def zoom (get : σ → τ) (put : τ → σ → σ) : Prog τ ι ε α → Prog σ ι ε α
  | .pure a => .pure a
  | .throw e => .throw e
  | .act enabled update next =>
      .act (fun s => enabled (get s)) (fun s => put (update (get s)) s) fun s =>
        (next (get s)).zoom get put
  | .ask next => .ask fun i => (next i).zoom get put

/-- Run `p` and hand over its error in the words of `f`. -/
def mapError (f : ε → ε') : Prog σ ι ε α → Prog σ ι ε' α
  | .pure a => .pure a
  | .throw e => .throw (f e)
  | .act enabled update next => .act enabled update fun s => (next s).mapError f
  | .ask next => .ask fun i => (next i).mapError f

/-- Read a part of the state, and leave a trace of it. -/
def observe (trace : σ → σ) (f : σ → β) : Prog σ ι ε β :=
  .act (fun _ => true) trace fun s => .pure (f s)

@[simp] theorem mapError_pure (f : ε → ε') (a : α) :
    (Prog.pure a : Prog σ ι ε α).mapError f = .pure a := rfl

@[simp] theorem mapError_throw (f : ε → ε') (e : ε) :
    (Prog.throw e : Prog σ ι ε α).mapError f = .throw (f e) := rfl

section wp

variable {I : σ → Prop} {A : ι → Prop}

/-- Where a run has ended, the postcondition holds. -/
theorem wp_end {Q : Except ε α → σ → Prop} {p p' : Prog σ ι ε α} {s s' : σ} {r : Except ε α}
    (hreach : Reaches A p s p' s') (hr : p'.result? = some r) (hI : I s) (h : wp I A Q p s) :
    Q r s' := by
  have hend := (wp_reaches hreach hI h).2
  cases p' with
  | pure a =>
    obtain rfl := Option.some.inj hr
    exact hend
  | throw e =>
    obtain rfl := Option.some.inj hr
    exact hend
  | act enabled update next => exact nomatch hr
  | ask next => exact nomatch hr

@[simp] theorem wp_observe {Q : Except ε β → σ → Prop} (trace : σ → σ) (f : σ → β) (s : σ) :
    wp I A Q (observe trace f) s ↔ I (trace s) ∧ Q (.ok (f s)) (trace s) := by
  simp [observe, wp]

@[simp] theorem wp_mapError {Q : Except ε' α → σ → Prop} (f : ε → ε') (p : Prog σ ι ε α) (s : σ) :
    wp I A Q (p.mapError f) s ↔ wp I A (fun r t => Q (r.mapError f) t) p s := by
  induction p generalizing s with
  | pure a => exact Iff.rfl
  | throw e => exact Iff.rfl
  | act enabled update next ih => exact and_congr Iff.rfl (and_congr Iff.rfl (ih s (update s)))
  | ask next ih => exact forall_congr' fun i => imp_congr Iff.rfl (ih i s)

/-- On a part of the state: what the program does to it alone, and what `put`
    keeps of the rest. -/
theorem wp_zoom {get : σ → τ} {put : τ → σ → σ} (hget : ∀ t s, get (put t s) = t)
    {K : σ → Prop} (hK : ∀ t s, K s → K (put t s)) (hI : ∀ s, K s → I s) {J : τ → Prop}
    {R : Except ε α → τ → Prop} {p : Prog τ ι ε α} {s : σ} (h : wp J A R p (get s)) (hs : K s) :
    wp I A (fun r s' => K s' ∧ R r (get s')) (p.zoom get put) s := by
  induction p generalizing s with
  | pure a => exact ⟨hs, h⟩
  | throw e => exact ⟨hs, h⟩
  | act enabled update next ih =>
    obtain ⟨hen, -, hnext⟩ := h
    refine ⟨hen, hI _ (hK _ _ hs), ih (get s) ?_ (hK _ _ hs)⟩
    rwa [hget]
  | ask next ih => exact fun i hi => ih i (h i hi) hs

end wp

end Prog

section safe

open Relation

variable {π σ τ ι ε ε' α β : Type} {P : Protocol π σ} {me : π}

theorem Safe.mapError {Q : Except ε' α → σ → Prop} {f : ε → ε'} {p : Prog σ ι ε α} {s : σ}
    (h : Safe P me (fun r t => Q (r.mapError f) t) p s) : Safe P me Q (p.mapError f) s := by
  induction p generalizing s with
  | pure a => exact h
  | throw e => exact h
  | act enabled update next ih =>
    exact fun t ht hinv hen => ⟨(h t ht hinv hen).1, ih t (h t ht hinv hen).2⟩
  | ask next ih => exact fun i => ih i (h i)

/-- A program on a part of the state is safe where every change of that part is
    allowed, and keeps what neither these changes nor the others touch. -/
theorem Safe.zoom {get : σ → τ} {put : τ → σ → σ} {K : σ → Prop}
    (hguar : ∀ t s, P.guar me s (put t s)) (hK : ∀ t s, K s → K (put t s))
    (hrely : ∀ s s', K s → P.Rely me s s' → K s') {Q : Except ε α → σ → Prop}
    (hQ : ∀ r s, K s → Q r s) {p : Prog τ ι ε α} {s : σ} (hs : K s) :
    Safe P me Q (p.zoom get put) s := by
  induction p generalizing s with
  | pure a => exact fun s' h => hQ _ _ (hrely _ _ hs h)
  | throw e => exact fun s' h => hQ _ _ (hrely _ _ hs h)
  | act enabled update next ih =>
    exact fun s' h _ _ => ⟨hguar _ _, ih (get s') (hK _ _ (hrely _ _ hs h))⟩
  | ask next ih => exact fun i => ih i hs

/-- Reading, with a trace. -/
theorem Safe.observe {Q : Except ε β → σ → Prop} {trace : σ → σ} {f : σ → α}
    {k : α → Prog σ ι ε β} {s : σ}
    (h : ∀ s', P.Rely me s s' → P.inv s' →
      P.guar me s' (trace s') ∧ Safe P me Q (k (f s')) (trace s')) :
    Safe P me Q (Prog.observe trace f >>= k) s :=
  fun s' hrely hinv _ => h s' hrely hinv

end safe

section leaves

variable {π σ τ ι ε ε' α β γ : Type} {v : σ → γ}

theorem Leaves.mapError {f : ε → ε'} {p : Prog σ ι ε α} (hp : Leaves v p) :
    Leaves v (p.mapError f) := by
  induction p with
  | pure a => exact trivial
  | throw e => exact trivial
  | act enabled update next ih => exact ⟨hp.1, fun s => ih s (hp.2 s)⟩
  | ask next ih => exact fun i => ih i (hp i)

/-- The part of the state is not in view. -/
theorem leaves_zoom {get : σ → τ} {put : τ → σ → σ} (hput : ∀ t s, v (put t s) = v s)
    (p : Prog τ ι ε α) : Leaves v (p.zoom get put) := by
  induction p with
  | pure a => exact trivial
  | throw e => exact trivial
  | act enabled update next ih => exact ⟨fun s _ => hput _ s, fun s => ih (get s)⟩
  | ask next ih => exact fun i => ih i

@[simp] theorem leaves_observe (trace : σ → σ) (f : σ → α) :
    Leaves v (Prog.observe trace f : Prog σ ι ε α) ↔ ∀ s, v (trace s) = v s :=
  ⟨fun h s => h.1 s rfl, fun h => ⟨fun s _ => h s, fun _ => trivial⟩⟩

/-- A program that leaves a view alone is safe where the protocol is about that
    view; `K` is what a process knows of the past. -/
theorem Leaves.safe {P : Protocol π σ} {me : π} {p : Prog σ ι ε α} (hp : Leaves v p)
    (hguar : ∀ s s', v s' = v s → P.guar me s s') {K : σ → σ → Prop} (hrefl : ∀ s, K s s)
    (htrans : ∀ s s' s'', K s s' → K s' s'' → K s s'') (hrely : ∀ s s', P.Rely me s s' → K s s')
    (hview : ∀ s s', v s' = v s → K s s') (s : σ) : Safe P me (fun _ t => K s t) p s := by
  suffices haux : ∀ s', K s s' → Safe P me (fun _ t => K s t) p s' from haux s (hrefl s)
  induction p with
  | pure a => exact fun s' hs t ht => htrans _ _ _ hs (hrely _ _ ht)
  | throw e => exact fun s' hs t ht => htrans _ _ _ hs (hrely _ _ ht)
  | act enabled update next ih =>
    intro s' hs t ht _ hen
    have hsame := hp.1 t hen
    exact ⟨hguar _ _ hsame, ih t (hp.2 t) _
      (htrans _ _ _ (htrans _ _ _ hs (hrely _ _ ht)) (hview _ _ hsame))⟩
  | ask next ih => exact fun s' hs i => ih i (hp i) s' hs

/-- What leaves a view alone keeps what is in view. -/
theorem Leaves.wp {A : ι → Prop} {I : σ → Prop} (hI : ∀ s s', v s' = v s → I s → I s')
    {Q : Except ε α → σ → Prop} {p : Prog σ ι ε α} (hp : Leaves v p) {s : σ}
    (h : Prog.wp (fun _ => True) A Q p s) (hs : I s) :
    Prog.wp I A (fun r s' => Q r s' ∧ v s' = v s ∧ I s') p s := by
  suffices haux : ∀ s', v s' = v s → I s' → Prog.wp (fun _ => True) A Q p s' →
      Prog.wp I A (fun r s'' => Q r s'' ∧ v s'' = v s ∧ I s'') p s' from haux s rfl hs h
  clear h
  induction p with
  | pure a => exact fun s' hsame hs' h => ⟨h, hsame, hs'⟩
  | throw e => exact fun s' hsame hs' h => ⟨h, hsame, hs'⟩
  | act enabled update next ih =>
    intro s' hsame hs' ⟨hen, _, hnext⟩
    have hstep := hp.1 s' hen
    have hnew := hI _ _ hstep hs'
    exact ⟨hen, hnew, ih s' (hp.2 s') _ (hstep.trans hsame) hnew hnext⟩
  | ask next ih => exact fun s' hsame hs' h i hi => ih i (hp i) s' hsame hs' (h i hi)

end leaves

end Program
