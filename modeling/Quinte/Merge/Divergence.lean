import Mathlib
import Quinte.Merge.Conservatism

/-! # The divergence gate

    `r1_contestation` against the predicate it is documented to compute,
    stated by position: lane `i` diverges if its verdict, one of its
    dispositions or its confidence does, or if some residual is reported by
    a majority of the lanes but not by all of them.

    * `r1_contestation_iff`: exactly the diverging positions are returned, in
      increasing order;
    * the list is empty iff no position diverges, and it follows every
      permutation of the lanes.
-/

namespace Quinte

open Tally

/-- How many lanes report the id. -/
def reporters (r1 : List LaneAccepted) (id : String) : Nat :=
  r1.countP fun lane => lane.output.residuals.any fun residual => residual.id == id

/-- What the gate looks for at lane `i`. -/
def Diverges (r1 : List LaneAccepted) (i : Nat) : Prop :=
  ∃ lane, r1[i]? = some lane ∧
    ((∃ other ∈ r1, trim other.output.verdict ≠ trim lane.output.verdict)
      ∨ (∃ other ∈ r1, ∃ a ∈ lane.output.residuals, ∃ b ∈ other.output.residuals,
          a.id = b.id ∧ a.disposition ≠ b.disposition)
      ∨ lane.output.confidence < 1 / 2
      ∨ ∃ id, r1.length < 2 * reporters r1 id ∧ reporters r1 id < r1.length)

/-! ### Unique ids -/

theorem foldl_reported (residuals : List Residual) (id : String) (o : Option Disposition)
    (h : ∀ residual ∈ residuals, residual.id ≠ id) :
    residuals.foldl (fun o residual => if residual.id = id then some residual.disposition else o) o
      = o := by
  induction residuals generalizing o with
  | nil => rfl
  | cons residual residuals ih =>
    rw [List.foldl_cons, if_neg (h residual (List.mem_cons_self ..))]
    exact ih o fun r hr => h r (List.mem_cons_of_mem _ hr)

/-- With unique ids a lane gives one disposition to an id. -/
theorem reported_eq_some_iff {lane : LaneAccepted} (h : UniqueResidualIds lane.output.residuals)
    (id : String) (x : Disposition) :
    reported lane id = some x ↔
      ∃ residual ∈ lane.output.residuals, residual.id = id ∧ residual.disposition = x := by
  unfold reported
  -- from any disposition the fold starts with: the last of this id wins
  have haux : ∀ (residuals : List Residual) (o : Option Disposition),
      (residuals.map (·.id)).Nodup →
      (residuals.foldl (fun o residual => if residual.id = id then some residual.disposition else o)
          o = some x ↔
        (∃ residual ∈ residuals, residual.id = id ∧ residual.disposition = x) ∨
          (∀ residual ∈ residuals, residual.id ≠ id) ∧ o = some x) := by
    intro residuals
    induction residuals with
    | nil => simp
    | cons residual residuals ih =>
      intro o hnodup
      obtain ⟨hnot, hnodup⟩ := List.nodup_cons.mp hnodup
      rw [List.foldl_cons]
      by_cases hid : residual.id = id
      · have hrest : ∀ r ∈ residuals, r.id ≠ id := fun r hr heq =>
          hnot (List.mem_map.mpr ⟨r, hr, heq.trans hid.symm⟩)
        rw [if_pos hid, foldl_reported residuals id _ hrest, Option.some.injEq]
        constructor
        · exact fun hx => Or.inl ⟨residual, List.mem_cons_self .., hid, hx⟩
        · rintro (⟨r, hr, hrid, hx⟩ | ⟨hall, -⟩)
          · rcases List.mem_cons.mp hr with rfl | hr
            · exact hx
            · exact absurd hrid (hrest r hr)
          · exact absurd hid (hall residual (List.mem_cons_self ..))
      · rw [if_neg hid, ih o hnodup]
        simp [hid]
  rw [haux _ _ h]
  simp

theorem count_id {residuals : List Residual} (h : UniqueResidualIds residuals) (id : String) :
    (residuals.map (·.id)).count id = if residuals.any (fun r => r.id == id) then 1 else 0 := by
  rw [List.Nodup.count h]
  simp [List.any_eq_true]

/-- With unique ids the attestations of an id are the lanes that report it. -/
theorem attested_eq_reporters {r1 : List LaneAccepted}
    (h : ∀ lane ∈ r1, UniqueResidualIds lane.output.residuals) (id : String) :
    attested r1 id = reporters r1 id := by
  unfold attested reporters
  induction r1 with
  | nil => rfl
  | cons lane r1 ih =>
    have hlane := count_id (h lane (List.mem_cons_self ..)) id
    have hrest := ih fun l hl => h l (List.mem_cons_of_mem _ hl)
    rw [List.flatMap_cons, List.count_append, hlane, hrest, List.countP_cons]
    split <;> simp_all [Nat.add_comm]

/-! ### The gate -/

/-- The property of a lane, and the position it has. -/
theorem diverges_iff {r1 : List LaneAccepted}
    (h : ∀ lane ∈ r1, UniqueResidualIds lane.output.residuals) {i : Nat} {lane : LaneAccepted}
    (hi : r1[i]? = some lane) : Diverges r1 i ↔ Contested r1 lane := by
  have hlane : lane ∈ r1 := List.mem_of_getElem? hi
  have hdisposition : (∃ other ∈ r1, ∃ a ∈ lane.output.residuals, ∃ b ∈ other.output.residuals,
        a.id = b.id ∧ a.disposition ≠ b.disposition) ↔
      ∃ other ∈ r1, ∃ id x y, reported lane id = some x ∧ reported other id = some y ∧ x ≠ y := by
    constructor
    · rintro ⟨other, ho, a, ha, b, hb, hid, hne⟩
      refine ⟨other, ho, a.id, a.disposition, b.disposition, ?_, ?_, hne⟩
      · exact (reported_eq_some_iff (h lane hlane) _ _).mpr ⟨a, ha, rfl, rfl⟩
      · exact (reported_eq_some_iff (h other ho) _ _).mpr ⟨b, hb, hid.symm, rfl⟩
    · rintro ⟨other, ho, id, x, y, hx, hy, hne⟩
      obtain ⟨a, ha, rfl, rfl⟩ := (reported_eq_some_iff (h lane hlane) _ _).mp hx
      obtain ⟨b, hb, hid, rfl⟩ := (reported_eq_some_iff (h other ho) _ _).mp hy
      exact ⟨other, ho, a, ha, b, hb, hid.symm, hne⟩
  -- a majority counts reporters, and with distinct ids these are the ones attested
  have hmajority : (∃ id, r1.length < 2 * reporters r1 id ∧ reporters r1 id < r1.length) ↔
      ∃ id, r1.length / 2 + 1 ≤ attested r1 id ∧ attested r1 id < r1.length := by
    refine exists_congr fun id => ?_
    rw [attested_eq_reporters h]
    omega
  have hrules : (∃ other ∈ r1, trim other.output.verdict ≠ trim lane.output.verdict)
        ↔ ∃ other ∈ r1, trim lane.output.verdict ≠ trim other.output.verdict :=
    exists_congr fun other => and_congr Iff.rfl ne_comm
  unfold Diverges Contested unsupportedConfidenceFloor
  rw [← hdisposition, ← hmajority, ← hrules]
  constructor
  · rintro ⟨lane', hi', hlane'⟩
    obtain rfl := Option.some.inj (hi.symm.trans hi')
    exact hlane'
  · exact fun hlane' => ⟨lane, hi, hlane'⟩

theorem mem_r1Contestation {r1 : List LaneAccepted}
    (h : ∀ lane ∈ r1, UniqueResidualIds lane.output.residuals) (i : Nat) :
    i ∈ r1Contestation r1 ↔ Diverges r1 i := by
  classical
  unfold r1Contestation
  split
  case isTrue hempty =>
    obtain rfl := List.length_eq_zero_iff.mp hempty
    simp [Diverges]
  case isFalse =>
    rw [mem_marked, r1_flags_eq, List.getElem?_map]
    cases hi : r1[i]? with
    | none => simp [Diverges, hi]
    | some lane => simp [diverges_iff h hi]

theorem r1Contestation_sorted (r1 : List LaneAccepted) :
    (r1Contestation r1).Pairwise (· < ·) := by
  unfold r1Contestation
  split
  case isTrue => exact List.Pairwise.nil
  case isFalse => exact marked_sorted _

theorem perm_of_equiv {α : Type} {xs ys : List α} (σ : Fin ys.length ≃ Fin xs.length)
    (hσ : ∀ i, ys.get i = xs.get (σ i)) : ys.Perm xs := by
  have hindices : ((List.finRange ys.length).map σ).Perm (List.finRange xs.length) := by
    refine (List.perm_ext_iff_of_nodup ?_ (List.nodup_finRange _)).mpr fun i => ?_
    · exact (List.nodup_finRange _).map σ.injective
    · simp only [List.mem_map, List.mem_finRange, true_and, iff_true]
      exact ⟨σ.symm i, σ.apply_symm_apply i⟩
  have hys : ys = ((List.finRange ys.length).map σ).map xs.get := by
    conv_lhs => rw [← List.map_get_finRange ys]
    rw [List.map_map]
    exact List.map_congr_left fun i _ => hσ i
  rw [hys]
  conv_rhs => rw [← List.map_get_finRange xs]
  exact hindices.map _

/-- A rearrangement takes diverging positions to diverging positions. -/
theorem diverges_perm {r1 r1' : List LaneAccepted}
    (h : ∀ lane ∈ r1, UniqueResidualIds lane.output.residuals)
    (σ : Fin r1'.length ≃ Fin r1.length) (hσ : ∀ i, r1'.get i = r1.get (σ i))
    (i : Fin r1'.length) : Diverges r1' i ↔ Diverges r1 (σ i) := by
  have hperm := perm_of_equiv σ hσ
  have h' : ∀ lane ∈ r1', UniqueResidualIds lane.output.residuals :=
    fun lane hlane => h lane (hperm.mem_iff.mp hlane)
  have hi' : r1'[(i : Nat)]? = some (r1'.get i) := List.getElem?_eq_getElem i.isLt
  have hi : r1[(σ i : Nat)]? = some (r1'.get i) := by
    rw [hσ]
    exact List.getElem?_eq_getElem (σ i).isLt
  rw [diverges_iff h' hi', diverges_iff h hi]
  exact contested_perm hperm _

/-- **The divergence gate** computes its predicate: the diverging positions in
    increasing order, none iff nothing diverges, whatever the order of the lanes. -/
theorem r1_contestation_iff {r1 : List LaneAccepted}
    (h : ∀ lane ∈ r1, UniqueResidualIds lane.output.residuals) :
    (r1Contestation r1).Pairwise (· < ·) ∧ (∀ i, i ∈ r1Contestation r1 ↔ Diverges r1 i) ∧
      (r1Contestation r1 = [] ↔ ∀ i, ¬ Diverges r1 i) ∧
      ∀ (r1' : List LaneAccepted) (σ : Fin r1'.length ≃ Fin r1.length),
        (∀ i, r1'.get i = r1.get (σ i)) →
        ∀ i : Fin r1'.length, (i : Nat) ∈ r1Contestation r1' ↔ (σ i : Nat) ∈ r1Contestation r1 := by
  refine ⟨r1Contestation_sorted r1, mem_r1Contestation h, ?_, ?_⟩
  · rw [List.eq_nil_iff_forall_not_mem]
    exact forall_congr' fun i => not_congr (mem_r1Contestation h i)
  · intro r1' σ hσ i
    have h' : ∀ lane ∈ r1', UniqueResidualIds lane.output.residuals := by
      intro lane hlane
      obtain ⟨j, rfl⟩ := List.mem_iff_get.mp hlane
      rw [hσ]
      exact h _ (List.get_mem ..)
    rw [mem_r1Contestation h', mem_r1Contestation h]
    exact diverges_perm h σ hσ i

/-- Two of five lanes report a residual, another three report nothing. -/
theorem r1_contestation_sample :
    let r1 := sampleLanes [sampleResidual "x" "leak"] [closedResidual "x"]
    (0 ∈ r1Contestation r1 ↔ Diverges r1 0) ∧ (2 ∈ r1Contestation r1 ↔ Diverges r1 2) := by
  have hunique : ∀ lane ∈ sampleLanes [sampleResidual "x" "leak"] [closedResidual "x"],
      UniqueResidualIds lane.output.residuals := by decide
  have h := r1_contestation_iff hunique
  exact ⟨h.2.1 0, h.2.1 2⟩

end Quinte
