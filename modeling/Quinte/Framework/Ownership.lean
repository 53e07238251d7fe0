import Mathlib
import Quinte.Framework.Focus

/-! # Locks, and what each of them protects

    Processes with threads share a state with locks.  A lock names the process
    that holds it, never the thread: two threads of one process must not be
    confused.  A `Locking` says which part of the state a lock protects
    (`view`), and what any step may do (`may`).  A thread has a `Hand`: the
    locks that it has itself, with what it has seen under each of them, and
    what it knows of the past.

    * `Obeys`: each step of a program changes what a lock protects only with
      that lock in hand, takes free locks and drops its own;
    * `Obeys.interleave`: two threads whose hands have no lock in common obey
      with their hands joined;
    * `Locking.run_may`: in a pool of programs that obey, every step is one that
      `may` allows, whatever the schedule and wherever processes crash.
-/

namespace Program

/-- Locks of `ℓ`, and what each of them protects. -/
structure Locking (π σ ℓ : Type) (ρ : ℓ → Type) where
  /-- the process that holds a lock -/
  owner : ℓ → σ → Option π
  /-- what a lock protects -/
  view : (l : ℓ) → σ → ρ l
  /-- holds of the state between any two steps -/
  inv : σ → Prop
  /-- what a step may do -/
  may : σ → σ → Prop
  /-- the state after a process dies -/
  crash : π → σ → σ

/-- What a thread has in its hands, and what it knows. -/
structure Hand (σ ℓ : Type) (ρ : ℓ → Type) where
  held : (l : ℓ) → Option (ρ l)
  known : σ → Prop

namespace Hand

variable {σ ℓ : Type} {ρ : ℓ → Type}

/-- No lock, and no knowledge. -/
def empty : Hand σ ℓ ρ where
  held := fun _ => none
  known := fun _ => True

/-- The hand of two threads. -/
def join (m k : Hand σ ℓ ρ) : Hand σ ℓ ρ where
  held := fun l => (m.held l).or (k.held l)
  known := fun s => m.known s ∧ k.known s

/-- The two have no lock in common. -/
def Apart (m k : Hand σ ℓ ρ) : Prop :=
  ∀ l, m.held l = none ∨ k.held l = none

/-- The same locks, and more knowledge. -/
def know (m : Hand σ ℓ ρ) (F : σ → Prop) : Hand σ ℓ ρ :=
  { m with known := fun s => m.known s ∧ F s }

/-- What is in hand of one lock changes. -/
def put [DecidableEq ℓ] (m : Hand σ ℓ ρ) (l : ℓ) (o : Option (ρ l)) : Hand σ ℓ ρ :=
  { m with held := Function.update m.held l o }

@[simp] theorem put_self [DecidableEq ℓ] (m : Hand σ ℓ ρ) (l : ℓ) (o : Option (ρ l)) :
    (m.put l o).held l = o :=
  Function.update_self ..

@[simp] theorem put_ne [DecidableEq ℓ] (m : Hand σ ℓ ρ) {l l' : ℓ} (o : Option (ρ l))
    (h : l' ≠ l) : (m.put l o).held l' = m.held l' :=
  Function.update_of_ne h ..

@[simp] theorem put_put [DecidableEq ℓ] (m : Hand σ ℓ ρ) (l : ℓ) (o o' : Option (ρ l)) :
    (m.put l o).put l o' = m.put l o' := by
  simp [put]

theorem put_held [DecidableEq ℓ] {m : Hand σ ℓ ρ} {l : ℓ} {o : Option (ρ l)}
    (h : m.held l = o) : m.put l o = m := by
  subst h
  simp [put]

variable {m k : Hand σ ℓ ρ}

theorem Apart.symm (h : m.Apart k) : k.Apart m :=
  fun l => (h l).symm

theorem join_comm (h : m.Apart k) : m.join k = k.join m := by
  have hheld : (m.join k).held = (k.join m).held := by
    funext l
    rcases h l with hl | hl <;> simp [join, hl]
  have hknown : (m.join k).known = (k.join m).known :=
    funext fun s => propext and_comm
  exact congrArg₂ Hand.mk hheld hknown

@[simp] theorem join_empty (m : Hand σ ℓ ρ) : m.join empty = m := by
  have hheld : (m.join empty).held = m.held := by
    funext l
    simp [join, empty]
  have hknown : (m.join empty).known = m.known :=
    funext fun s => propext (and_iff_left trivial)
  exact congrArg₂ Hand.mk hheld hknown

theorem apart_empty (m : Hand σ ℓ ρ) : m.Apart empty :=
  fun _ => Or.inr rfl

end Hand

section discipline

variable {π σ ι ε α β ℓ : Type} {ρ : ℓ → Type}

namespace Locking

variable (D : Locking π σ ℓ ρ) (me : π)

/-- What no step undoes. -/
def Stable (F : σ → Prop) : Prop :=
  ∀ s s', D.inv s → D.may s s' → F s → F s'

/-- A state in which a thread of `me` can have the hand `m`. -/
structure Holds (m : Hand σ ℓ ρ) (s : σ) : Prop where
  inv : D.inv s
  stable : D.Stable m.known
  known : m.known s
  owner : ∀ l r, m.held l = some r → D.owner l s = some me
  view : ∀ l r, m.held l = some r → D.view l s = r

/-- What a step does to the locks in hand. -/
inductive Takes (m : Hand σ ℓ ρ) (s s' : σ) (m' : Hand σ ℓ ρ) : Prop where
  | act (owner : ∀ l, D.owner l s' = D.owner l s)
      (view : ∀ l, m.held l = none → D.view l s' = D.view l s)
      (held : ∀ l, m'.held l = (m.held l).map fun _ => D.view l s')
  | take (l : ℓ) (free : D.owner l s = none) (owner : D.owner l s' = some me)
      (others : ∀ l', l' ≠ l → D.owner l' s' = D.owner l' s)
      (view : ∀ l', l' ≠ l → D.view l' s' = D.view l' s)
      (held : m'.held l = some (D.view l s')) (rest : ∀ l', l' ≠ l → m'.held l' = m.held l')
  | drop (l : ℓ) (mine : (m.held l).isSome) (others : ∀ l', l' ≠ l → D.owner l' s' = D.owner l' s)
      (view : ∀ l', l' ≠ l → D.view l' s' = D.view l' s)
      (held : m'.held l = none) (rest : ∀ l', l' ≠ l → m'.held l' = m.held l')

/-- A step of a thread. -/
structure Step (m : Hand σ ℓ ρ) (s s' : σ) (m' : Hand σ ℓ ρ) : Prop where
  may : D.may s s'
  takes : D.Takes me m s s' m'
  stable : D.Stable m'.known
  known : m'.known s'

/-- The laws: the invariant survives every step, and a crash is a step that
    leaves the locks of the other processes alone. -/
structure Lawful : Prop where
  refl : ∀ s, D.may s s
  inv : ∀ s s', D.inv s → D.may s s' → D.inv s'
  crash : ∀ q s, D.inv s → D.may s (D.crash q s)
  crash_owner : ∀ q q' s l, q ≠ q' → D.owner l s = some q → D.owner l (D.crash q' s) = some q
  crash_view : ∀ q q' s l, q ≠ q' → D.owner l s = some q → D.view l (D.crash q' s) = D.view l s

variable {D me}

/-! ### Hands -/

theorem Holds.empty {s : σ} (h : D.inv s) : D.Holds me Hand.empty s where
  inv := h
  stable := fun _ _ _ _ _ => trivial
  known := trivial
  owner := fun _ _ h => by cases h
  view := fun _ _ h => by cases h

theorem Holds.left {m k : Hand σ ℓ ρ} {s : σ} (h : D.Holds me (m.join k) s)
    (hm : D.Stable m.known) : D.Holds me m s where
  inv := h.inv
  stable := hm
  known := h.known.1
  owner := fun l r hl => h.owner l r (by simp [Hand.join, hl])
  view := fun l r hl => h.view l r (by simp [Hand.join, hl])

/-- **After a step** the thread has its new hand. -/
theorem Step.holds (hD : D.Lawful) {m m' : Hand σ ℓ ρ} {s s' : σ} (hstep : D.Step me m s s' m')
    (h : D.Holds me m s) : D.Holds me m' s' := by
  suffices hboth : ∀ l r, m'.held l = some r → D.owner l s' = some me ∧ D.view l s' = r from
    ⟨hD.inv _ _ h.inv hstep.may, hstep.stable, hstep.known, fun l r hl => (hboth l r hl).1,
      fun l r hl => (hboth l r hl).2⟩
  intro l r hl
  cases hstep.takes with
  | act howner hview hheld =>
    rw [hheld] at hl
    obtain ⟨r', hr', hr⟩ := Option.map_eq_some_iff.mp hl
    exact ⟨(howner l).trans (h.owner l r' hr'), hr⟩
  | take l₀ hfree howner hothers hview hheld hrest =>
    by_cases hne : l = l₀
    · subst hne
      rw [hheld] at hl
      exact ⟨howner, Option.some.inj hl⟩
    · rw [hrest l hne] at hl
      exact ⟨(hothers l hne).trans (h.owner l r hl), (hview l hne).trans (h.view l r hl)⟩
  | drop l₀ hmine hothers hview hheld hrest =>
    by_cases hne : l = l₀
    · subst hne
      rw [hheld] at hl
      cases hl
    · rw [hrest l hne] at hl
      exact ⟨(hothers l hne).trans (h.owner l r hl), (hview l hne).trans (h.view l r hl)⟩

/-- **A step of one process** leaves the hands of the others as they are. -/
theorem Step.others (hD : D.Lawful) {q : π} (hq : q ≠ me) {m m' k : Hand σ ℓ ρ} {s s' : σ}
    (hstep : D.Step me m s s' m') (h : D.Holds me m s) (hk : D.Holds q k s) : D.Holds q k s' := by
  have hmine : ∀ l r, k.held l = some r → m.held l = none := by
    intro l r hl
    cases hm : m.held l with
    | none => rfl
    | some r' =>
      have heq := (hk.owner l r hl).symm.trans (h.owner l r' hm)
      exact absurd (Option.some.inj heq) hq
  have hsame : ∀ l r, k.held l = some r →
      D.owner l s' = D.owner l s ∧ D.view l s' = D.view l s := by
    intro l r hl
    cases hstep.takes with
    | act howner hview hheld => exact ⟨howner l, hview l (hmine l r hl)⟩
    | take l₀ hfree howner hothers hview hheld hrest =>
      have hne : l ≠ l₀ := by
        intro heq
        rw [← heq, hk.owner l r hl] at hfree
        cases hfree
      exact ⟨hothers l hne, hview l hne⟩
    | drop l₀ hin hothers hview hheld hrest =>
      have hne : l ≠ l₀ := by
        intro heq
        rw [← heq, hmine l r hl] at hin
        cases hin
      exact ⟨hothers l hne, hview l hne⟩
  exact ⟨hD.inv _ _ h.inv hstep.may, hk.stable, hk.stable _ _ h.inv hstep.may hk.known,
    fun l r hl => (hsame l r hl).1.trans (hk.owner l r hl),
    fun l r hl => (hsame l r hl).2.trans (hk.view l r hl)⟩

/-- **Frame**: a step with a part of a hand is one with the whole. -/
theorem Step.frame {m m' k : Hand σ ℓ ρ} {s s' : σ} (hstep : D.Step me m s s' m')
    (hapart : m.Apart k) (h : D.Holds me (m.join k) s) (hk : D.Stable k.known) :
    m'.Apart k ∧ D.Step me (m.join k) s s' (m'.join k) := by
  have hkept : k.known s' := hk _ _ h.inv hstep.may h.known.2
  have hstable : D.Stable (m'.join k).known := fun t t' hinv hmay ht =>
    ⟨hstep.stable _ _ hinv hmay ht.1, hk _ _ hinv hmay ht.2⟩
  suffices hboth : m'.Apart k ∧ D.Takes me (m.join k) s s' (m'.join k) from
    ⟨hboth.1, hstep.may, hboth.2, hstable, hstep.known, hkept⟩
  cases hstep.takes with
  | act howner hsame hheld =>
    refine ⟨fun l => (hapart l).imp (fun hl => by rw [hheld, hl, Option.map_none]) id,
      Takes.act howner (fun l hl => hsame l ?_) fun l => ?_⟩
    · simp only [Hand.join, Option.or_eq_none_iff] at hl
      exact hl.1
    · cases hm : m.held l with
      | some r => simp [Hand.join, hheld, hm]
      | none =>
        cases hl : k.held l with
        | none => simp [Hand.join, hheld, hm, hl]
        | some r =>
          have hview : D.view l s = r := h.view l r (by simp [Hand.join, hm, hl])
          simp [Hand.join, hheld, hm, hl, hsame l hm, hview]
  | take l₀ hfree howner hothers hsame hheld hrest =>
    -- the lock was free, so the other part does not have it
    have hnone : k.held l₀ = none := by
      cases hl : k.held l₀ with
      | none => rfl
      | some r =>
        have hm : m.held l₀ = none := (hapart l₀).resolve_right (by simp [hl])
        have howned := h.owner l₀ r (by simp [Hand.join, hm, hl])
        rw [hfree] at howned
        cases howned
    refine ⟨fun l => ?_, Takes.take l₀ hfree howner hothers hsame ?_ fun l hne => ?_⟩
    · by_cases hne : l = l₀
      · exact Or.inr (hne ▸ hnone)
      · exact (hapart l).imp (fun hl => (hrest l hne).trans hl) id
    · simp [Hand.join, hheld]
    · simp [Hand.join, hrest l hne]
  | drop l₀ hmine hothers hsame hheld hrest =>
    have hnone : k.held l₀ = none := by
      refine (hapart l₀).resolve_left fun hm => ?_
      rw [hm] at hmine
      cases hmine
    refine ⟨fun l => ?_, Takes.drop l₀ ?_ hothers hsame ?_ fun l hne => ?_⟩
    · by_cases hne : l = l₀
      · exact Or.inr (hne ▸ hnone)
      · exact (hapart l).imp (fun hl => (hrest l hne).trans hl) id
    · simp [Hand.join, hmine]
    · simp [Hand.join, hheld, hnone]
    · simp [Hand.join, hrest l hne]

/-- A step that changes no lock and nothing that a lock protects. -/
theorem Step.aside {m : Hand σ ℓ ρ} {s s' : σ} (h : D.Holds me m s) (hmay : D.may s s')
    (howner : ∀ l, D.owner l s' = D.owner l s) (hview : ∀ l, D.view l s' = D.view l s) :
    D.Step me m s s' m := by
  refine ⟨hmay, Takes.act howner (fun l _ => hview l) fun l => ?_, h.stable,
    h.stable _ _ h.inv hmay h.known⟩
  cases hl : m.held l with
  | none => rfl
  | some r => simp [hview l, h.view l r hl]

/-- A step that changes what one lock in hand protects. -/
theorem Holds.write [DecidableEq ℓ] {m : Hand σ ℓ ρ} {s s' : σ} (h : D.Holds me m s)
    (hmay : D.may s s') (howner : ∀ l, D.owner l s' = D.owner l s) {l : ℓ}
    (hmine : (m.held l).isSome) (hothers : ∀ l', l' ≠ l → D.view l' s' = D.view l' s) :
    D.Step me m s s' (m.put l (some (D.view l s'))) := by
  refine ⟨hmay, Takes.act howner (fun l' hl' => hothers l' ?_) fun l' => ?_, h.stable,
    h.stable _ _ h.inv hmay h.known⟩
  · intro heq
    rw [heq] at hl'
    rw [hl'] at hmine
    cases hmine
  · by_cases hne : l' = l
    · subst hne
      obtain ⟨r, hr⟩ := Option.isSome_iff_exists.mp hmine
      simp [hr]
    · rw [Hand.put_ne _ _ hne]
      cases hl : m.held l' with
      | none => rfl
      | some r => simp [hothers l' hne, h.view l' r hl]

end Locking

/-! ### Programs -/

variable (D : Locking π σ ℓ ρ) (me : π)

/-- Every step of the program, begun with the hand `m`, is one that its hand
    allows, and the program ends with a hand that satisfies `Q`. -/
def Obeys (Q : Except ε α → Hand σ ℓ ρ → Prop) : Prog σ ι ε α → Hand σ ℓ ρ → Prop
  | .pure a, m => Q (.ok a) m
  | .throw e, m => Q (.error e) m
  | .act enabled update next, m => ∀ s, D.Holds me m s → enabled s = true →
      ∃ m', D.Step me m s (update s) m' ∧ Obeys Q (next s) m'
  | .ask next, m => ∀ i, Obeys Q (next i) m

variable {D me}

theorem Obeys.mono {Q Q' : Except ε α → Hand σ ℓ ρ → Prop} {p : Prog σ ι ε α} {m : Hand σ ℓ ρ}
    (h : Obeys D me Q p m) (hQ : ∀ r k, Q r k → Q' r k) : Obeys D me Q' p m := by
  induction p generalizing m with
  | pure a => exact hQ _ _ h
  | throw e => exact hQ _ _ h
  | act enabled update next ih =>
    intro s hs hen
    obtain ⟨m', hstep, hnext⟩ := h s hs hen
    exact ⟨m', hstep, ih s hnext⟩
  | ask next ih => exact fun i => ih i (h i)

/-- Sequencing. -/
theorem Obeys.bind {Q : Except ε β → Hand σ ℓ ρ → Prop} {p : Prog σ ι ε α} {f : α → Prog σ ι ε β}
    {m : Hand σ ℓ ρ} (h : Obeys D me (fun r k => match r with
      | .ok a => Obeys D me Q (f a) k
      | .error e => Q (.error e) k) p m) : Obeys D me Q (p >>= f) m := by
  induction p generalizing m with
  | pure a => exact h
  | throw e => exact h
  | act enabled update next ih =>
    intro s hs hen
    obtain ⟨m', hstep, hnext⟩ := h s hs hen
    exact ⟨m', hstep, ih s hnext⟩
  | ask next ih => exact fun i => ih i (h i)

theorem Obeys.attempt {Q : Except ε (Except ε α) → Hand σ ℓ ρ → Prop} {p : Prog σ ι ε α}
    {m : Hand σ ℓ ρ} (h : Obeys D me (fun r k => Q (.ok r) k) p m) :
    Obeys D me Q p.attempt m := by
  induction p generalizing m with
  | pure a => exact h
  | throw e => exact h
  | act enabled update next ih =>
    intro s hs hen
    obtain ⟨m', hstep, hnext⟩ := h s hs hen
    exact ⟨m', hstep, ih s hnext⟩
  | ask next ih => exact fun i => ih i (h i)

/-! ### Rules -/

section rules

variable {γ : Type} {v : σ → γ} {m : Hand σ ℓ ρ}

/-- Reading, under a lock or without one. -/
theorem Obeys.read (hD : D.Lawful) {Q : Except ε β → Hand σ ℓ ρ → Prop} {f : σ → α}
    {k : α → Prog σ ι ε β} (h : ∀ s, D.Holds me m s → Obeys D me Q (k (f s)) m) :
    Obeys D me Q (Prog.read f >>= k) m :=
  fun s hs _ => ⟨m, .aside hs (hD.refl s) (fun _ => rfl) fun _ => rfl, h s hs⟩

/-- Reading, where something is learnt that no step undoes. -/
theorem Obeys.read_learn (hD : D.Lawful) {Q : Except ε β → Hand σ ℓ ρ → Prop} {f : σ → α}
    {k : α → Prog σ ι ε β} (h : ∀ s, D.Holds me m s →
      ∃ F, D.Stable F ∧ F s ∧ Obeys D me Q (k (f s)) (m.know F)) :
    Obeys D me Q (Prog.read f >>= k) m := by
  intro s hs _
  obtain ⟨F, hF, hnow, hrest⟩ := h s hs
  have hstep : D.Step me m s s m := .aside hs (hD.refl s) (fun _ => rfl) fun _ => rfl
  refine ⟨m.know F, ⟨hD.refl s, ?_, ?_, hs.known, hnow⟩, hrest⟩
  · cases hstep.takes with
    | act howner hview hheld => exact .act howner hview hheld
    | take l hfree howner hothers hview hheld hrest =>
      exact .take l hfree howner hothers hview hheld hrest
    | drop l hmine hothers hview hheld hrest => exact .drop l hmine hothers hview hheld hrest
  · exact fun t t' hinv hmay ht => ⟨hs.stable _ _ hinv hmay ht.1, hF _ _ hinv hmay ht.2⟩

theorem Obeys.answer {Q : Except ε β → Hand σ ℓ ρ → Prop} {f : ι → α} {k : α → Prog σ ι ε β}
    (h : ∀ a, Obeys D me Q (k a) m) : Obeys D me Q (Prog.answer f >>= k) m :=
  fun i => h (f i)

theorem Obeys.ensure {Q : Except ε β → Hand σ ℓ ρ → Prop} {b : Bool} {e : ε}
    {k : Unit → Prog σ ι ε β} (hk : b = true → Obeys D me Q (k ()) m)
    (he : b = false → Q (.error e) m) : Obeys D me Q (Prog.ensure b e >>= k) m := by
  cases b with
  | true => exact hk rfl
  | false => exact he rfl

theorem Obeys.ofExcept {Q : Except ε β → Hand σ ℓ ρ → Prop} {r : Except ε α}
    {k : α → Prog σ ι ε β} (hk : ∀ a, r = .ok a → Obeys D me Q (k a) m)
    (he : ∀ e, r = .error e → Q (.error e) m) : Obeys D me Q (Prog.ofExcept r >>= k) m := by
  cases r with
  | ok a => exact hk a rfl
  | error e => exact he e rfl

/-- A change, with what is in hand afterwards. -/
theorem Obeys.modify {Q : Except ε β → Hand σ ℓ ρ → Prop} {update : σ → σ}
    {k : Unit → Prog σ ι ε β} (h : ∀ s, D.Holds me m s →
      ∃ m', D.Step me m s (update s) m' ∧ Obeys D me Q (k ()) m') :
    Obeys D me Q (Prog.modify update >>= k) m :=
  fun s hs _ => h s hs

theorem Obeys.modify_end {Q : Except ε Unit → Hand σ ℓ ρ → Prop} {update : σ → σ}
    (h : ∀ s, D.Holds me m s → ∃ m', D.Step me m s (update s) m' ∧ Q (.ok ()) m') :
    Obeys D me Q (Prog.modify update : Prog σ ι ε Unit) m :=
  fun s hs _ => h s hs

/-- A program that leaves what the locks are about alone keeps its hand. -/
theorem Leaves.obeys {p : Prog σ ι ε α} (hp : Leaves v p)
    (hmay : ∀ s s', v s' = v s → D.may s s')
    (howner : ∀ s s' l, v s' = v s → D.owner l s' = D.owner l s)
    (hview : ∀ s s' l, v s' = v s → D.view l s' = D.view l s) :
    Obeys D me (fun _ k => k = m) p m := by
  induction p with
  | pure a => rfl
  | throw e => rfl
  | act enabled update next ih =>
    intro s hs hen
    have hsame := hp.1 s hen
    exact ⟨m, .aside hs (hmay _ _ hsame) (fun l => howner _ _ l hsame) fun l => hview _ _ l hsame,
      ih s (hp.2 s)⟩
  | ask next ih => exact fun i => ih i (hp i)

/-- Run `p` under the lock `l`. -/
theorem Obeys.bracket {Q : Except ε α → Hand σ ℓ ρ → Prop} {enabled : σ → Bool}
    {enter leave : σ → σ} {p : Prog σ ι ε α}
    (h : ∀ s, D.Holds me m s → enabled s = true → ∃ m', D.Step me m s (enter s) m' ∧
      Obeys D me (fun r k => ∀ t, D.Holds me k t → ∃ k', D.Step me k t (leave t) k' ∧ Q r k')
        p m') :
    Obeys D me Q (Prog.bracket (Prog.await enabled enter) (Prog.modify leave) p) m := by
  intro s hs hen
  obtain ⟨m', hstep, hbody⟩ := h s hs hen
  have hrest : Obeys D me Q (do
      let r ← p.attempt
      Prog.modify leave
      Prog.ofExcept r) m' := by
    refine Obeys.bind (Obeys.attempt (hbody.mono ?_))
    intro r k hr
    refine Obeys.modify fun t ht => ?_
    obtain ⟨k', hstep', hQ⟩ := hr t ht
    refine ⟨k', hstep', ?_⟩
    cases r with
    | ok a => exact hQ
    | error e => exact hQ
  exact ⟨m', hstep, hrest⟩

/-- On a part of the state, which has locks of its own. -/
theorem Obeys.zoom {τ ℓ' : Type} {ρ' : ℓ' → Type} {D' : Locking π τ ℓ' ρ'} {get : σ → τ}
    {put : τ → σ → σ} (whole : Hand τ ℓ' ρ' → Hand σ ℓ ρ)
    (hholds : ∀ k s, D'.Stable k.known → D.Holds me (whole k) s → D'.Holds me k (get s))
    (hstep : ∀ k k' s t, D.Holds me (whole k) s → D'.Step me k (get s) t k' →
      D.Step me (whole k) s (put t s) (whole k'))
    {Q : Except ε α → Hand τ ℓ' ρ' → Prop} {p : Prog τ ι ε α} {k : Hand τ ℓ' ρ'}
    (hk : D'.Stable k.known) (h : Obeys D' me Q p k) :
    Obeys D me (fun r w => ∃ k', w = whole k' ∧ D'.Stable k'.known ∧ Q r k') (p.zoom get put)
      (whole k) := by
  induction p generalizing k with
  | pure a => exact ⟨k, rfl, hk, h⟩
  | throw e => exact ⟨k, rfl, hk, h⟩
  | act enabled update next ih =>
    intro s hs hen
    obtain ⟨k', hstep', hnext⟩ := h (get s) (hholds _ _ hk hs) hen
    exact ⟨whole k', hstep _ _ _ _ hs hstep', ih (get s) hstep'.stable hnext⟩
  | ask next ih => exact fun i => ih i hk (h i)

/-- The words of an error change nothing else. -/
theorem Obeys.mapError {ε' : Type} {f : ε → ε'} {Q : Except ε' α → Hand σ ℓ ρ → Prop}
    {p : Prog σ ι ε α} (h : Obeys D me (fun r k => Q (r.mapError f) k) p m) :
    Obeys D me Q (p.mapError f) m := by
  induction p generalizing m with
  | pure a => exact h
  | throw e => exact h
  | act enabled update next ih =>
    intro s hs hen
    obtain ⟨m', hstep, hnext⟩ := h s hs hen
    exact ⟨m', hstep, ih s hnext⟩
  | ask next ih => exact fun i => ih i (h i)

end rules

/-! ### Threads -/

section threads

variable {Q₁ : Except ε α → Hand σ ℓ ρ → Prop} {Q₂ : Except ε β → Hand σ ℓ ρ → Prop}
  {m k : Hand σ ℓ ρ}

/-- The hands at the end of two threads. -/
def Both (D : Locking π σ ℓ ρ) (P₁ P₂ : Hand σ ℓ ρ → Prop) (w : Hand σ ℓ ρ) : Prop :=
  ∃ m k, w = m.join k ∧ m.Apart k ∧ D.Stable m.known ∧ D.Stable k.known ∧ P₁ m ∧ P₂ k

theorem Both.symm {P₁ P₂ : Hand σ ℓ ρ → Prop} {w : Hand σ ℓ ρ} (h : Both D P₁ P₂ w) :
    Both D P₂ P₁ w := by
  obtain ⟨m, k, rfl, hapart, hm, hk, h₁, h₂⟩ := h
  exact ⟨k, m, Hand.join_comm hapart, hapart.symm, hk, hm, h₂, h₁⟩

/-- A thread runs beside one that has ended. -/
theorem Obeys.beside {P : Hand σ ℓ ρ → Prop} {q : Prog σ ι ε β} (hP : P m)
    (hm : D.Stable m.known) (hk : D.Stable k.known) (hapart : k.Apart m)
    (hq : Obeys D me Q₂ q k) : Obeys D me (fun r => Both D P (Q₂ r)) q (k.join m) := by
  induction q generalizing k with
  | pure b => exact ⟨m, k, Hand.join_comm hapart, hapart.symm, hm, hk, hP, hq⟩
  | throw e => exact ⟨m, k, Hand.join_comm hapart, hapart.symm, hm, hk, hP, hq⟩
  | act enabled update next ih =>
    intro s hs hen
    obtain ⟨k', hstep, hnext⟩ := hq s (hs.left hk) hen
    obtain ⟨hapart', hstep'⟩ := hstep.frame hapart hs hm
    exact ⟨k'.join m, hstep', ih s hstep.stable hapart' hnext⟩
  | ask next ih => exact fun i => ih i hk hapart (hq i)

/-- The last thread, with the result of the other one put beside its own. -/
theorem Obeys.beside_attempt {γ : Type} {P : Hand σ ℓ ρ → Prop}
    {R : Except ε γ → Hand σ ℓ ρ → Prop} {pair : Except ε β → γ} {q : Prog σ ι ε β} (hP : P m)
    (hm : D.Stable m.known) (hk : D.Stable k.known) (hapart : k.Apart m) (hq : Obeys D me Q₂ q k)
    (hR : ∀ r w, Both D P (Q₂ r) w → R (.ok (pair r)) w) :
    Obeys D me R (q.attempt >>= fun r => .pure (pair r)) (k.join m) :=
  Obeys.bind (Obeys.attempt ((hq.beside hP hm hk hapart).mono hR))

/-- **Threads** with no lock in common run together. -/
theorem Obeys.interleave (first : ι → Bool) {p : Prog σ ι ε α} {q : Prog σ ι ε β}
    (hm : D.Stable m.known) (hk : D.Stable k.known) (hapart : m.Apart k)
    (hp : Obeys D me Q₁ p m) (hq : Obeys D me Q₂ q k) :
    Obeys D me (fun r w => ∃ a b, r = .ok (a, b) ∧ Both D (Q₁ a) (Q₂ b) w)
      (Prog.interleave first p q) (m.join k) := by
  induction p generalizing q m k with
  | pure a =>
    rw [Hand.join_comm hapart]
    exact Obeys.beside_attempt (P := Q₁ (.ok a)) hp hm hk hapart.symm hq
      fun r w hw => ⟨_, _, rfl, hw⟩
  | throw e =>
    rw [Hand.join_comm hapart]
    exact Obeys.beside_attempt (P := Q₁ (.error e)) hp hm hk hapart.symm hq
      fun r w hw => ⟨_, _, rfl, hw⟩
  | ask next ih => exact fun i => ih i hm hk hapart (hp i) hq
  | act enabled update next ih =>
    -- the other thread's program moves on while `p` waits
    induction q generalizing k with
    | pure b =>
      exact Obeys.beside_attempt (P := Q₂ (.ok b)) hq hk hm hapart hp
        fun l w hw => ⟨_, _, rfl, hw.symm⟩
    | throw e =>
      exact Obeys.beside_attempt (P := Q₂ (.error e)) hq hk hm hapart hp
        fun l w hw => ⟨_, _, rfl, hw.symm⟩
    | ask next' ihq => exact fun i => ihq i hk hapart (hq i)
    | act enabled' update' next' ihq =>
      intro i
      cases hfirst : first i with
      | true =>
        simp only [hfirst, if_true]
        intro s hs hen
        obtain ⟨m', hstep, hrest⟩ := hp s (hs.left hm) hen
        obtain ⟨hapart', hstep'⟩ := hstep.frame hapart hs hk
        exact ⟨m'.join k, hstep', ih s hstep.stable hk hapart' hrest hq⟩
      | false =>
        simp only [hfirst, Bool.false_eq_true, if_false]
        intro s hs hen
        rw [Hand.join_comm hapart] at hs
        obtain ⟨k', hstep, hrest⟩ := hq s (hs.left hk) hen
        obtain ⟨hapart', hstep'⟩ := hstep.frame hapart.symm hs hm
        refine ⟨m.join k', ?_, ihq s hstep.stable hapart'.symm hrest⟩
        rw [Hand.join_comm hapart, Hand.join_comm hapart'.symm]
        exact hstep'

end threads

/-! ### Pools -/

section pools

variable {menu : π → Prog σ ι ε Unit → Prop}

/-- Every process of the pool has a hand with which it obeys. -/
def Locking.Kept (D : Locking π σ ℓ ρ) (c : Pool π σ ι ε) : Prop :=
  D.inv c.shared ∧ ∀ me p, c.procs me = some p →
    ∃ m, D.Holds me m c.shared ∧ Obeys D me (fun _ _ => True) p m

theorem Locking.kept_idle {s : σ} (h : D.inv s) : D.Kept (Pool.idle s : Pool π σ ι ε) :=
  ⟨h, fun _ _ hq => by cases hq⟩

variable [DecidableEq π]

/-- After a change of one process, it suffices to check that one. -/
theorem kept_set {procs : π → Option (Prog σ ι ε Unit)} {me : π} {o : Option (Prog σ ι ε Unit)}
    {s : σ} (hme : ∀ p, o = some p → ∃ m, D.Holds me m s ∧ Obeys D me (fun _ _ => True) p m)
    (hrest : ∀ q p, q ≠ me → procs q = some p →
      ∃ m, D.Holds q m s ∧ Obeys D q (fun _ _ => True) p m) :
    ∀ q p, Pool.set procs me o q = some p →
      ∃ m, D.Holds q m s ∧ Obeys D q (fun _ _ => True) p m := by
  intro q p hq
  by_cases hqme : q = me
  · subst hqme
    rw [Pool.set_self] at hq
    exact hme p hq
  · rw [Pool.set_ne _ _ hqme] at hq
    exact hrest q p hqme hq

/-- **One step** of a pool is one that `may` allows, and every process goes on
    with a hand. -/
theorem Locking.step_may (hD : D.Lawful)
    (hmenu : ∀ me p, menu me p → Obeys D me (fun _ _ => True) p Hand.empty)
    {l : Pool.Label π} {c c' : Pool π σ ι ε} (hstep : Pool.Step D.crash menu l c c')
    (hc : D.Kept c) : D.may c.shared c'.shared ∧ D.Kept c' := by
  obtain ⟨hinv, hkept⟩ := hc
  cases hstep with
  | start hfree hm =>
    refine ⟨hD.refl _, hinv, kept_set (fun p hp => ?_) fun q p _ hq => hkept q p hq⟩
    obtain rfl := Option.some.inj hp
    exact ⟨Hand.empty, .empty hinv, hmenu _ _ hm⟩
  | @move _ me p p' s' hproc hmove =>
    obtain ⟨m, hholds, hobeys⟩ := hkept me p hproc
    have hstep : ∃ m', D.Step me m c.shared s' m' ∧ Obeys D me (fun _ _ => True) p' m' := by
      cases hmove with
      | act hen => exact hobeys c.shared hholds hen
      | @ask _ i _ =>
        exact ⟨m, .aside hholds (hD.refl _) (fun _ => rfl) fun _ => rfl, hobeys i⟩
    obtain ⟨m', hstep, hrest⟩ := hstep
    refine ⟨hstep.may, hD.inv _ _ hinv hstep.may, kept_set (fun p'' hp => ?_) fun q p'' hq hp => ?_⟩
    · obtain rfl := Option.some.inj hp
      exact ⟨m', hstep.holds hD hholds, hrest⟩
    · obtain ⟨k, hk, hobeys'⟩ := hkept q p'' hp
      exact ⟨k, hstep.others hD hq hholds hk, hobeys'⟩
  | finish hproc hended =>
    exact ⟨hD.refl _, hinv, kept_set (fun p h => by cases h) fun q p _ hq => hkept q p hq⟩
  | @crash _ me p hproc =>
    refine ⟨hD.crash me _ hinv, hD.inv _ _ hinv (hD.crash me _ hinv),
      kept_set (fun p h => by cases h) fun q p' hq hp => ?_⟩
    obtain ⟨k, hk, hobeys⟩ := hkept q p' hp
    refine ⟨k, ⟨hD.inv _ _ hinv (hD.crash me _ hinv), hk.stable,
      hk.stable _ _ hinv (hD.crash me _ hinv) hk.known, fun l r hl => ?_, fun l r hl => ?_⟩, hobeys⟩
    · exact hD.crash_owner q me _ l hq (hk.owner l r hl)
    · exact (hD.crash_view q me _ l hq (hk.owner l r hl)).trans (hk.view l r hl)

/-- **Every run**: what the allowed steps preserve, every run preserves. -/
theorem Locking.run_may (hD : D.Lawful)
    (hmenu : ∀ me p, menu me p → Obeys D me (fun _ _ => True) p Hand.empty)
    {ok : Pool.Label π → σ → σ → Prop} {J : σ → Prop}
    (hJ : ∀ s s', D.inv s → D.may s s' → J s → J s') {c c' : Pool π σ ι ε}
    (hrun : Pool.Run D.crash menu ok c c') (hc : D.Kept c) (h : J c.shared) :
    D.Kept c' ∧ J c'.shared := by
  induction hrun with
  | refl => exact ⟨hc, h⟩
  | step _ hstep _ ih =>
    obtain ⟨hmay, hkept⟩ := Locking.step_may hD hmenu hstep ih.1
    exact ⟨hkept, hJ _ _ ih.1.1 hmay ih.2⟩

end pools

end discipline

end Program
