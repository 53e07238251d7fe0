import Mathlib
import Quinte.Run.LaneProtocol

/-! # The contract of the lanes

    What a thread of the holder of the run lock may rely on and may do, for
    the parts it owns, and the operations that leave the lanes alone.
-/

namespace Quinte.Run

open Program

/-! ### The contract -/

/-- The records of rewritten references in the ledger. -/
def remappings (s : RunDir) : List Event :=
  s.events.filter fun e => e.eventType = "evidence.refs_remapped"

/-- What the contract is about, apart from the lanes. -/
def aside (s : RunDir) : Inputs × Option Pid × List Event :=
  (s.inputs, s.locks .run, remappings s)

/-- What the contract is about. -/
def scope (s : RunDir) : Lanes × Inputs × Option Pid × List Event :=
  (s.toLanes, aside s)

/-- As long as `me` holds the run lock it keeps it, and the parts of `K` stay as
    they are. -/
def Kept (policy : Policy) (me : Pid) (K : Set Part) (s s' : RunDir) : Prop :=
  s.locks .run = some me → s'.locks .run = some me ∧ Frame policy K s.toLanes s'.toLanes

/-- A thread of `me` that owns the parts of `K`, in a run with these inputs. -/
def laneContract (inputs : Inputs) (me : Pid) (K : Set Part) : Contract RunDir where
  inv s := s.inputs = inputs ∧ remappings s = []
    ∧ LaneInv inputs.policy (allowedEvidenceRefs inputs.snapshot) s.toLanes
  rely := Kept inputs.policy me K
  guar s s' := aside s' = aside s ∧ (s'.toLanes = s.toLanes ∨ s.locks .run = some me
    ∧ ∃ touched ⊆ K, LaneStep inputs.policy (allowedEvidenceRefs inputs.snapshot) s.toLanes
        touched s'.toLanes)

namespace Kept

variable {policy : Policy} {me : Pid} {K K' : Set Part} {s s' s'' : RunDir}

theorem refl (s : RunDir) : Kept policy me K s s :=
  fun h => ⟨h, Frame.refl _⟩

theorem trans (h : Kept policy me K s s') (h' : Kept policy me K s' s'') :
    Kept policy me K s s'' := fun hheld =>
  have hfirst := h hheld
  have hsecond := h' hfirst.1
  ⟨hsecond.1, hfirst.2.trans hsecond.2⟩

theorem mono (h : Kept policy me K' s s') (hK : K ⊆ K') : Kept policy me K s s' := fun hheld =>
  have hkept := h hheld
  ⟨hkept.1, hkept.2.mono hK⟩

theorem of_scope (h : scope s' = scope s) : Kept policy me K s s' := by
  obtain ⟨hlanes, haside⟩ := Prod.mk.inj h
  have hlock : s'.locks .run = s.locks .run := congrArg (·.2.1) haside
  exact fun hheld => ⟨hlock.trans hheld, hlanes ▸ Frame.refl _⟩

end Kept

section contract

variable {inputs : Inputs} {me : Pid} {K K' : Set Part}

theorem laneContract_lawful : (laneContract inputs me K).Lawful where
  rely_refl := Kept.refl
  rely_trans := fun _ _ _ => Kept.trans
  guar_refl := fun _ => ⟨rfl, Or.inl rfl⟩

theorem guar_of_scope {s s' : RunDir} (h : scope s' = scope s) :
    (laneContract inputs me K).guar s s' :=
  have hparts := Prod.mk.inj h
  ⟨hparts.2, Or.inl hparts.1⟩

/-- What a step of one thread leaves to the others. -/
theorem kept_of_guar {s s' : RunDir} (h : (laneContract inputs me K).guar s s')
    (hdisjoint : Disjoint K K') : Kept inputs.policy me K' s s' := by
  obtain ⟨haside, hlanes⟩ := h
  have hlock : s'.locks .run = s.locks .run := congrArg (·.2.1) haside
  intro hheld
  refine ⟨hlock.trans hheld, ?_⟩
  rcases hlanes with hsame | ⟨-, touched, hsub, hstep⟩
  · exact hsame ▸ Frame.refl _
  · refine hstep.frame.mono fun x hx htouched => ?_
    exact Set.disjoint_left.mp hdisjoint (hsub htouched) hx

theorem guar_mono {s s' : RunDir} (h : (laneContract inputs me K).guar s s') (hK : K ⊆ K') :
    (laneContract inputs me K').guar s s' :=
  ⟨h.1, h.2.imp_right fun ⟨hheld, touched, hsub, hstep⟩ =>
    ⟨hheld, touched, hsub.trans hK, hstep⟩⟩

/-- A step of the program keeps the invariant. -/
theorem inv_of_guar {s s' : RunDir} (h : (laneContract inputs me K).guar s s')
    (hinv : (laneContract inputs me K).inv s) : (laneContract inputs me K).inv s' := by
  obtain ⟨hinputs, hremapped, hlane⟩ := hinv
  obtain ⟨haside, hlanes⟩ := h
  refine ⟨(congrArg (·.1) haside).trans hinputs, (congrArg (·.2.2) haside).trans hremapped, ?_⟩
  rcases hlanes with hsame | ⟨-, touched, -, hstep⟩
  · exact hsame ▸ hlane
  · exact hstep.inv hlane

variable {α β : Type} {Q : Except String β → RunDir → Prop}

/-- A program that leaves the lanes alone comes first. -/
theorem Upholds.aside {p : Proc α} {f : α → Proc β} {s : RunDir} (hp : Leaves scope p)
    (hf : ∀ a t, Kept inputs.policy me K s t → Upholds (laneContract inputs me K) Q (f a) t)
    (he : ∀ e t, Kept inputs.policy me K s t → Q (.error e) t) :
    Upholds (laneContract inputs me K) Q (p >>= f) s :=
  hp.upholds_bind laneContract_lawful (fun _ _ => guar_of_scope) (fun _ _ => Kept.of_scope) hf he

/-- The owner of more parts runs a program that owns some: the others stay. -/
theorem Upholds.widen_parts {Q : Except String α → RunDir → Prop} {p : Proc α} {s : RunDir}
    (h : Upholds (laneContract inputs me K) Q p s) (hK : K ⊆ K') :
    Upholds (laneContract inputs me K')
      (fun r t => Q r t ∧ Kept inputs.policy me ( K' \ K) s t) p s :=
  Upholds.widen (C := laneContract inputs me K) (D := laneContract inputs me K')
    (K := Kept inputs.policy me ( K' \ K)) (fun _ => id)
    (fun _ _ hrely => Kept.mono hrely hK) (fun _ _ hguar => guar_mono hguar hK)
    (fun _ _ _ => Kept.trans) (fun _ _ hrely => Kept.mono hrely Set.sdiff_subset)
    (fun _ _ _ hguar => kept_of_guar hguar Set.disjoint_sdiff_right) (Kept.refl s) h

/-- Two threads that own different parts. -/
theorem threads {K₁ K₂ : Set Part} (h₁ : K₁ ⊆ K) (h₂ : K₂ ⊆ K) (hdisjoint : Disjoint K₁ K₂) :
    (laneContract inputs me K).Threads (laneContract inputs me K₁) (laneContract inputs me K₂) where
  lawful := laneContract_lawful
  lawful₁ := laneContract_lawful
  lawful₂ := laneContract_lawful
  inv₁ := fun _ => id
  inv₂ := fun _ => id
  rely₁ := fun _ _ hrely => Kept.mono hrely h₁
  rely₂ := fun _ _ hrely => Kept.mono hrely h₂
  guar₁ := fun _ _ _ hguar => ⟨kept_of_guar hguar hdisjoint, guar_mono hguar h₁⟩
  guar₂ := fun _ _ _ hguar => ⟨kept_of_guar hguar hdisjoint.symm, guar_mono hguar h₂⟩

end contract

end Quinte.Run
