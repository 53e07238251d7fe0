import Mathlib
import Quinte.Framework.Tally
import Quinte.Model.Types

/-! # R1 contestation

    The predicate of `r1_contestation`: pure code over the R1 lane outputs
    that decides which lanes are re-examined, and the observables of it that
    go into the trial manifest (`observed_contestation`).

    The four rules are loops that raise flags by position.  What they compute
    is the set of lanes that are `Contested`, a property of a lane and of the
    *collection* of lanes (`r1_flags_eq`); positions drop out, and with them
    the order in which the lanes are listed (`observed_contestation_perm`).
-/

namespace Quinte

open Std Tally

/-- `UNSUPPORTED_CONFIDENCE_FLOOR`. -/
def unsupportedConfidenceFloor : ℚ := 1 / 2

/-! ### The four rules -/

/-- Rule 1: verdict disagreement. -/
def verdictMarks (r1 : List LaneAccepted) : List Nat :=
  (pairs r1.zipIdx).flatMap fun ((a, i), (b, j)) =>
    if trim a.output.verdict ≠ trim b.output.verdict then [i, j] else []

/-- The map `by_id` of rule 2: the dispositions two lanes give to the ids the
    first one reports, the second one's own where it reports the id too. -/
def dispositionsById (a b : LaneAccepted) : TreeMap String (Disposition × Disposition) :=
  b.output.residuals.foldl (fun byId residual =>
      byId.modify residual.id fun entry => (entry.1, residual.disposition))
    (a.output.residuals.foldl (fun byId residual =>
      byId.insert residual.id (residual.disposition, residual.disposition)) ∅)

def dispositionConflict (a b : LaneAccepted) : Bool :=
  (dispositionsById a b).toList.any fun entry => entry.2.1 ≠ entry.2.2

/-- Rule 2: disposition conflict on the same residual id. -/
def dispositionMarks (r1 : List LaneAccepted) : List Nat :=
  (pairs r1.zipIdx).flatMap fun ((a, i), (b, j)) =>
    if dispositionConflict a b then [i, j] else []

/-- Rule 3: unsupported confidence. -/
def confidenceMarks (r1 : List LaneAccepted) : List Nat :=
  r1.zipIdx.flatMap fun (lane, i) =>
    if lane.output.confidence < unsupportedConfidenceFloor then [i] else []

/-- The map `attestations` of rule 4: the lanes that report each id, a lane
    once for every residual it reports under it. -/
def attestations (r1 : List LaneAccepted) : TreeMap String (List Nat) :=
  gather (r1.zipIdx.flatMap fun (lane, i) =>
    lane.output.residuals.map fun residual => (residual.id, i))

/-- Rule 4: attestation symmetry (majority-attested, minority-omitted). -/
def attestationMarks (r1 : List LaneAccepted) : List Nat :=
  let majority := r1.length / 2 + 1
  (attestations r1).toList.flatMap fun (_, lanes) =>
    if majority ≤ lanes.length ∧ lanes.length < r1.length then
      lanes ++ (List.range r1.length).filter fun i => !lanes.contains i
    else []

/-- The flags `contested` after the four rules. -/
def r1Flags (r1 : List LaneAccepted) : List Bool :=
  let contested := List.replicate r1.length false
  let contested := markAll contested (verdictMarks r1)
  let contested := markAll contested (dispositionMarks r1)
  let contested := markAll contested (confidenceMarks r1)
  markAll contested (attestationMarks r1)

/-- `r1_contestation`: the indices of the contested lanes. -/
def r1Contestation (r1 : List LaneAccepted) : List Nat :=
  if r1.length = 0 then [] else marked (r1Flags r1)

/-- `observed_contestation`.  The rate is the exact quotient that the double
    of the source rounds. -/
def observedContestation (r1 r2 : List LaneAccepted) : ObservedContestation where
  r1LaneCount := r1.length
  contestedLaneCount := (r1Contestation r1).length
  contestedRate := (r1Contestation r1).length / max r1.length 1
  verdictDistribution := (tally (r1.map fun lane => trim lane.output.verdict)).toList
  residualAttestations :=
    (tally (r1.flatMap fun lane => lane.output.residuals.map (·.id))).toList
  r2Skipped := r2.isEmpty

/-! ### What a lane is contested for -/

/-- The disposition a lane gives to an id: that of its last residual with it. -/
def reported (lane : LaneAccepted) (id : String) : Option Disposition :=
  lane.output.residuals.foldl
    (fun o residual => if residual.id = id then some residual.disposition else o) none

/-- How many residuals of the lanes carry the id. -/
def attested (r1 : List LaneAccepted) (id : String) : Nat :=
  (r1.flatMap fun lane => lane.output.residuals.map (·.id)).count id

/-- What the four rules look for, without positions. -/
def Contested (r1 : List LaneAccepted) (lane : LaneAccepted) : Prop :=
  (∃ other ∈ r1, trim lane.output.verdict ≠ trim other.output.verdict)
    ∨ (∃ other ∈ r1, ∃ id x y, reported lane id = some x ∧ reported other id = some y ∧ x ≠ y)
    ∨ lane.output.confidence < unsupportedConfidenceFloor
    ∨ ∃ id, r1.length / 2 + 1 ≤ attested r1 id ∧ attested r1 id < r1.length

theorem contested_perm {r1 r1' : List LaneAccepted} (h : r1.Perm r1') (lane : LaneAccepted) :
    Contested r1 lane ↔ Contested r1' lane := by
  have hatt : ∀ id, attested r1 id = attested r1' id := fun id => (h.flatMap_right _).count_eq id
  simp only [Contested, h.mem_iff, hatt, h.length_eq]

/-! ### The map of rule 2 -/

theorem dispositionsById_getElem? (a b : LaneAccepted) (id : String) :
    (dispositionsById a b)[id]?
      = (reported a id).map fun x => (x, (reported b id).getD x) := by
  -- the first loop leaves the last disposition of the id, twice
  have hfirst : ∀ (rs : List Residual) (m : TreeMap String (Disposition × Disposition))
      (o : Option Disposition), m[id]? = o.map (fun x => (x, x)) →
      (rs.foldl (fun byId residual =>
          byId.insert residual.id (residual.disposition, residual.disposition)) m)[id]?
        = (rs.foldl (fun o residual =>
            if residual.id = id then some residual.disposition else o) o).map
            fun x => (x, x) := by
    intro rs
    induction rs with
    | nil => intro m o h; exact h
    | cons r rs ih =>
      intro m o h
      refine ih _ _ ?_
      by_cases hid : r.id = id
      · simp [hid]
      · have hcmp : compare r.id id ≠ .eq := fun h => hid (LawfulEqOrd.eq_of_compare h)
        simp [TreeMap.getElem?_insert, hcmp, hid, h]
  -- the second loop changes the second component only
  have hsecond : ∀ (rs : List Residual) (m : TreeMap String (Disposition × Disposition))
      (o p : Option Disposition), m[id]? = o.map (fun x => (x, p.getD x)) →
      (rs.foldl (fun byId residual =>
          byId.modify residual.id fun entry => (entry.1, residual.disposition)) m)[id]?
        = o.map fun x => (x, (rs.foldl (fun o residual =>
            if residual.id = id then some residual.disposition else o) p).getD x) := by
    intro rs
    induction rs with
    | nil => intro m o p h; exact h
    | cons r rs ih =>
      intro m o p h
      refine ih _ _ _ ?_
      by_cases hid : r.id = id
      · cases o <;> simp_all
      · have hcmp : compare r.id id ≠ .eq := fun h => hid (LawfulEqOrd.eq_of_compare h)
        simp [TreeMap.getElem?_modify, hcmp, hid, h]
  exact hsecond _ _ _ none (hfirst _ _ none (by simp))

theorem dispositionConflict_iff (a b : LaneAccepted) :
    dispositionConflict a b = true ↔
      ∃ id x y, reported a id = some x ∧ reported b id = some y ∧ x ≠ y := by
  simp only [dispositionConflict, List.any_eq_true, decide_eq_true_eq, Prod.exists,
    TreeMap.mem_toList_iff_getElem?_eq_some, dispositionsById_getElem?]
  constructor
  · rintro ⟨id, x, y, h, hne⟩
    cases ha : reported a id with
    | none => simp [ha] at h
    | some x' =>
      cases hb : reported b id with
      | none =>
        simp [ha, hb] at h
        exact absurd (h.1.symm.trans h.2) hne
      | some y' =>
        simp [ha, hb] at h
        exact ⟨id, x, y, ha.trans (congrArg some h.1), hb.trans (congrArg some h.2), hne⟩
  · rintro ⟨id, x, y, ha, hb, hne⟩
    exact ⟨id, x, y, by simp [ha, hb], hne⟩

theorem dispositionConflict_comm (a b : LaneAccepted) :
    dispositionConflict a b = dispositionConflict b a := by
  rw [Bool.eq_iff_iff, dispositionConflict_iff, dispositionConflict_iff]
  constructor
  · rintro ⟨id, x, y, hx, hy, hne⟩
    exact ⟨id, y, x, hy, hx, hne.symm⟩
  · rintro ⟨id, x, y, hx, hy, hne⟩
    exact ⟨id, y, x, hy, hx, hne.symm⟩

theorem not_dispositionConflict_self (a : LaneAccepted) : dispositionConflict a a ≠ true := by
  rw [Ne, dispositionConflict_iff]
  rintro ⟨id, x, y, hx, hy, hne⟩
  exact hne (Option.some.inj (hx.symm.trans hy))

/-! ### What the rules mark -/

theorem mem_zipIdx_iff (r1 : List LaneAccepted) (lane : LaneAccepted) (i : Nat) :
    (lane, i) ∈ r1.zipIdx ↔ r1[i]? = some lane :=
  List.mk_mem_zipIdx_iff_getElem?

/-- A rule over pairs of lanes, symmetric and never between a lane and itself,
    marks the lanes that stand in it to some lane. -/
theorem mem_pair_marks (r1 : List LaneAccepted) (conflict : LaneAccepted → LaneAccepted → Bool)
    (hcomm : ∀ a b, conflict a b = conflict b a) (hself : ∀ a, conflict a a ≠ true)
    (i : Nat) (lane : LaneAccepted) (hi : r1[i]? = some lane) :
    i ∈ ((pairs r1.zipIdx).flatMap fun ((a, i), (b, j)) =>
        if conflict a b then [i, j] else []) ↔
      ∃ other ∈ r1, conflict lane other = true := by
  simp only [List.mem_flatMap, Prod.exists]
  constructor
  · rintro ⟨a, k, b, j, hpair, hmem⟩
    obtain ⟨ha, hb⟩ := mem_pairs hpair
    rw [mem_zipIdx_iff] at ha hb
    by_cases hc : conflict a b = true
    · simp only [hc, if_true, List.mem_cons, List.not_mem_nil, or_false] at hmem
      rcases hmem with rfl | rfl
      · have : lane = a := Option.some.inj (hi.symm.trans ha)
        exact ⟨b, List.mem_of_getElem? hb, this ▸ hc⟩
      · have : lane = b := Option.some.inj (hi.symm.trans hb)
        exact ⟨a, List.mem_of_getElem? ha, by rw [hcomm, this]; exact hc⟩
    · simp [hc] at hmem
  · rintro ⟨other, hother, hc⟩
    obtain ⟨j, hj⟩ := List.getElem?_of_mem hother
    -- the two lanes stand at different positions, so the loops meet them as a pair
    have hne : (lane, i) ≠ (other, j) := by
      intro heq
      obtain ⟨rfl, -⟩ := Prod.mk.inj heq
      exact hself lane hc
    have hmem := mem_pairs_or ((mem_zipIdx_iff r1 lane i).mpr hi)
      ((mem_zipIdx_iff r1 other j).mpr hj) hne
    rcases hmem with h | h
    · exact ⟨lane, i, other, j, h, by simp [hc]⟩
    · exact ⟨other, j, lane, i, h, by simp [hcomm other lane, hc]⟩

theorem mem_verdictMarks (r1 : List LaneAccepted) (i : Nat) (lane : LaneAccepted)
    (hi : r1[i]? = some lane) :
    i ∈ verdictMarks r1 ↔ ∃ other ∈ r1, trim lane.output.verdict ≠ trim other.output.verdict := by
  have h := mem_pair_marks r1
    (fun a b => decide (trim a.output.verdict ≠ trim b.output.verdict))
    (fun a b => by simp [eq_comm]) (fun a => by simp) i lane hi
  simpa [verdictMarks] using h

theorem mem_dispositionMarks (r1 : List LaneAccepted) (i : Nat) (lane : LaneAccepted)
    (hi : r1[i]? = some lane) :
    i ∈ dispositionMarks r1 ↔
      ∃ other ∈ r1, ∃ id x y,
        reported lane id = some x ∧ reported other id = some y ∧ x ≠ y := by
  have h := mem_pair_marks r1 dispositionConflict dispositionConflict_comm
    not_dispositionConflict_self i lane hi
  simpa [dispositionMarks, dispositionConflict_iff] using h

theorem mem_confidenceMarks (r1 : List LaneAccepted) (i : Nat) (lane : LaneAccepted)
    (hi : r1[i]? = some lane) :
    i ∈ confidenceMarks r1 ↔ lane.output.confidence < unsupportedConfidenceFloor := by
  simp only [confidenceMarks, List.mem_flatMap, Prod.exists, mem_zipIdx_iff]
  constructor
  · rintro ⟨a, k, ha, hmem⟩
    by_cases hc : a.output.confidence < unsupportedConfidenceFloor
    · simp only [hc, if_true, List.mem_singleton] at hmem
      have : lane = a := Option.some.inj (hi.symm.trans (hmem ▸ ha))
      exact this ▸ hc
    · simp [hc] at hmem
  · intro hc
    exact ⟨lane, i, hi, by simp [hc]⟩

/-- Rule 4 marks the lanes that report a majority id and also those that omit
    it, so it marks all of them or none. -/
theorem mem_attestationMarks (r1 : List LaneAccepted) (i : Nat) (hi : i < r1.length) :
    i ∈ attestationMarks r1 ↔
      ∃ id, r1.length / 2 + 1 ≤ attested r1 id ∧ attested r1 id < r1.length := by
  have hlen : ∀ id lanes, (attestations r1)[id]? = some lanes →
      lanes.length = attested r1 id := by
    intro id lanes h
    rw [attestations, gather_getElem?] at h
    split at h
    · obtain rfl := Option.some.inj h
      rw [List.length_map, ← List.countP_eq_length_filter, List.countP_flatMap, attested,
        List.count, List.countP_flatMap]
      have hmap : r1 = r1.zipIdx.map Prod.fst := by simp
      conv_rhs => rw [hmap]
      rw [List.map_map]
      congr 1
      apply List.map_congr_left
      rintro ⟨lane, k⟩ -
      simp [List.countP_map, Function.comp_def, beq_eq_decide]
    · cases h
  simp only [attestationMarks, List.mem_flatMap, Prod.exists,
    TreeMap.mem_toList_iff_getElem?_eq_some]
  constructor
  · rintro ⟨id, lanes, hlanes, hmem⟩
    rw [hlen id lanes hlanes] at hmem
    by_cases hc : r1.length / 2 + 1 ≤ attested r1 id ∧ attested r1 id < r1.length
    · exact ⟨id, hc⟩
    · simp only [if_neg hc, List.not_mem_nil] at hmem
  · rintro ⟨id, hc⟩
    -- a majority id is attested at all, so it has an entry
    have hmem : id ∈ (r1.zipIdx.flatMap fun (lane, i) =>
        lane.output.residuals.map fun residual => (residual.id, i)).map Prod.fst := by
      have hpos : 0 < attested r1 id := by omega
      obtain ⟨lane, hlane, hid⟩ := List.mem_flatMap.mp (List.count_pos_iff.mp hpos)
      obtain ⟨residual, hres, rfl⟩ := List.mem_map.mp hid
      obtain ⟨k, hk⟩ := List.getElem?_of_mem hlane
      refine List.mem_map.mpr ⟨(residual.id, k), ?_, rfl⟩
      exact List.mem_flatMap.mpr ⟨(lane, k), (mem_zipIdx_iff r1 lane k).mpr hk,
        List.mem_map.mpr ⟨residual, hres, rfl⟩⟩
    have hentry := gather_getElem? (r1.zipIdx.flatMap fun (lane, i) =>
      lane.output.residuals.map fun residual => (residual.id, i)) id
    rw [if_pos hmem] at hentry
    refine ⟨id, _, hentry, ?_⟩
    rw [hlen id _ hentry, if_pos hc]
    by_cases hin : i ∈ ((r1.zipIdx.flatMap fun (lane, i) =>
        lane.output.residuals.map fun residual => (residual.id, i)).filter
          (fun e => e.1 = id)).map Prod.snd
    · exact List.mem_append_left _ hin
    · exact List.mem_append_right _ (by simpa [hi] using hin)

/-! ### The characterisation -/

open Classical in
/-- **The flags after the four rules** are those of the contested lanes. -/
theorem r1_flags_eq (r1 : List LaneAccepted) :
    r1Flags r1 = r1.map fun lane => decide (Contested r1 lane) := by
  apply eq_map_of_getElem?
  · simp [r1Flags]
  · intro i lane hi
    have hlt : i < r1.length := (List.getElem?_eq_some_iff.mp hi).1
    simp only [r1Flags, markAll_getElem?, markAll_length, List.length_replicate, hlt, true_and,
      mem_verdictMarks r1 i lane hi, mem_dispositionMarks r1 i lane hi,
      mem_confidenceMarks r1 i lane hi, mem_attestationMarks r1 i hlt, Contested, or_assoc]
    simp [List.getElem?_replicate]

end Quinte
