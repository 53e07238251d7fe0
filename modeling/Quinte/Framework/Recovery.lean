import Mathlib
import Quinte.Framework.FileTree

/-! # Durable steps and recovery

    A process changes a directory in durable steps, and a crash leaves the
    directory as it is between two of them.  A recovery reads the directory and
    decides on steps of its own, which a crash may cut short as well.

    * `Settles`: however often the recovery is cut short, the next one that is
      not brings the directory to one and the same state;
    * `settles_of_closed`: it is enough to know this of one recovery, for a set
      of states that its steps do not leave.
-/

namespace Recovery

variable {σ ε A : Type} (act : A → σ → σ)

/-- Take steps one after the other. -/
def perform (steps : List A) (s : σ) : σ := steps.foldl (fun s a => act a s) s

@[simp] theorem perform_nil (s : σ) : perform act [] s = s := rfl

@[simp] theorem perform_cons (a : A) (steps : List A) (s : σ) :
    perform act (a :: steps) s = perform act steps (act a s) := rfl

theorem perform_append (steps steps' : List A) (s : σ) :
    perform act (steps ++ steps') s = perform act steps' (perform act steps s) :=
  List.foldl_append

/-- The states that recoveries which are cut short can leave behind. -/
inductive Interrupted (plan : σ → Except ε (List A)) (s : σ) : σ → Prop where
  | refl : Interrupted plan s s
  | crash {t : σ} {steps : List A} (k : Nat) (h : Interrupted plan s t)
      (hplan : plan t = .ok steps) : Interrupted plan s (perform act (steps.take k) t)

/-- Recovery from `s`, however often it is cut short, ends in `final`. -/
def Settles (plan : σ → Except ε (List A)) (s final : σ) : Prop :=
  ∀ t, Interrupted act plan s t → ∃ steps, plan t = .ok steps ∧ perform act steps t = final

variable {act}

theorem settles_of_closed {plan : σ → Except ε (List A)} {final : σ} (K : σ → Prop)
    (hK : ∀ s, K s → ∃ steps, plan s = .ok steps ∧ perform act steps s = final ∧
      ∀ k, K (perform act (steps.take k) s))
    {s : σ} (hs : K s) : Settles act plan s final := by
  have hreached : ∀ t, Interrupted act plan s t → K t := by
    intro t ht
    induction ht with
    | refl => exact hs
    | crash k _ hplan ih =>
      obtain ⟨steps, hsteps, -, hclosed⟩ := hK _ ih
      obtain rfl := Except.ok.inj (hplan.symm.trans hsteps)
      exact hclosed k
  intro t ht
  obtain ⟨steps, hsteps, hfinal, -⟩ := hK t (hreached t ht)
  exact ⟨steps, hsteps, hfinal⟩

end Recovery

/-! ### Steps on files -/

/-- A durable step: a file is written whole, appended to, or removed. -/
inductive FileStep (β : Type) where
  | write (path : String) (bytes : List β)
  | append (path : String) (bytes : List β)
  | remove (path : String)
  deriving DecidableEq, Repr

namespace FileStep

variable {β : Type}

/-- The file that a step is about. -/
def path : FileStep β → String
  | write path _ | append path _ | remove path => path

def apply : FileStep β → FileTree (List β) → FileTree (List β)
  | write path bytes, t => t.write path bytes
  | append path bytes, t => t.write path ((t.file path).getD [] ++ bytes)
  | remove path, t => t.remove path

theorem apply_ne {step : FileStep β} {q : String} (h : q ≠ step.path) (t : FileTree (List β)) :
    (step.apply t).file q = t.file q := by
  cases step with
  | write path bytes => exact FileTree.write_ne h ..
  | append path bytes => exact FileTree.write_ne h ..
  | remove path => exact FileTree.remove_ne h t

/-- What becomes of a file depends on that file only. -/
theorem perform_congr (steps : List (FileStep β)) {q : String} {s t : FileTree (List β)}
    (h : s.file q = t.file q) :
    (Recovery.perform apply steps s).file q = (Recovery.perform apply steps t).file q := by
  induction steps generalizing s t with
  | nil => exact h
  | cons step steps ih =>
    refine ih ?_
    by_cases hq : q = step.path
    · subst hq
      cases step with
      | write path bytes => exact (FileTree.write_same ..).trans (FileTree.write_same ..).symm
      | append path bytes =>
        have hpath : s.file path = t.file path := h
        simp only [apply, FileStep.path, FileTree.write_same, hpath]
      | remove path => exact (FileTree.remove_same ..).trans (FileTree.remove_same ..).symm
    · rw [apply_ne hq, apply_ne hq, h]

/-- **Frame**: other files stay as they are. -/
theorem perform_frame {steps : List (FileStep β)} {q : String} (h : ∀ step ∈ steps, q ≠ step.path)
    (t : FileTree (List β)) : (Recovery.perform apply steps t).file q = t.file q := by
  induction steps generalizing t with
  | nil => rfl
  | cons step steps ih =>
    obtain ⟨hstep, hsteps⟩ := List.forall_mem_cons.mp h
    rw [Recovery.perform_cons, ih hsteps, apply_ne hstep]

end FileStep
