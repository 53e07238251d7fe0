import Mathlib
import Quinte.Merge.Verdicts

/-! # Conservatism and truthfulness of the merge

    Two readings of the table and the notes of `mergeResiduals`:

    * what becomes of each residual id, whoever lists it, and that the
      outcome does not depend on which arbiter is the primary
      (`merge_conservative`);
    * whether the dissent entries that promise an unresolved/open residual
      keep the promise (`dissent_truthful_iff`).
-/

namespace Quinte

open Std KeyedMerge

/-! ### Membership in the result -/

section result

variable {primary counterpart : ArbiterVerdict}
  (hp : UniqueResidualIds primary.residuals) (hc : UniqueResidualIds counterpart.residuals)
  (r1 r2 : List LaneAccepted)

include hp hc

/-- A residual of the result is the arbiters' joint record of its id, or the
    lanes' first one made unresolved/open. -/
theorem mem_merged (residual : Residual) :
    residual ∈ listing (mergeResiduals r1 r2 primary counterpart).table ↔
      jointRecord primary counterpart residual.id = some residual
        ∨ (Omitted primary counterpart residual.id
            ∧ (recordOf (highRisk (r1 ++ r2)) residual.id).map conservativeUnresolved
                = some residual) := by
  rw [mem_listing (merged_keyed hp hc r1 r2), merged_getElem? hp hc, Option.or_eq_some_iff,
    jointRecord_eq_none]
  rfl

/-- The ids of the result: those an arbiter lists and the high-risk ones. -/
theorem mem_merged_ids (id : String) :
    (∃ residual ∈ listing (mergeResiduals r1 r2 primary counterpart).table, residual.id = id) ↔
      (∃ a ∈ primary.residuals, a.id = id) ∨ (∃ a ∈ counterpart.residuals, a.id = id)
        ∨ ∃ a ∈ highRisk (r1 ++ r2), a.id = id := by
  have hkeyed := merged_keyed hp hc r1 r2
  have hlookup : (∃ residual ∈ listing (mergeResiduals r1 r2 primary counterpart).table,
      residual.id = id) ↔ (mergeResiduals r1 r2 primary counterpart).table[id]? ≠ none := by
    rw [Option.ne_none_iff_exists']
    constructor
    · rintro ⟨residual, hmem, rfl⟩
      exact ⟨residual, (mem_listing hkeyed residual).mp hmem⟩
    · rintro ⟨residual, h⟩
      have hid := hkeyed id residual h
      exact ⟨residual, (mem_listing hkeyed residual).mpr (by rw [hid]; exact h), hid⟩
  rw [hlookup, merged_getElem? hp hc, Ne, Option.or_eq_none_iff, jointRecord_eq_none,
    Option.map_eq_none_iff, recordOf_eq_none, recordOf_eq_none, recordOf_eq_none]
  constructor
  · intro h
    by_contra hno
    push Not at hno
    exact h ⟨⟨hno.1, hno.2.1⟩, hno.2.2⟩
  · rintro h ⟨⟨h1, h2⟩, h3⟩
    rcases h with ⟨a, ha, hid⟩ | ⟨a, ha, hid⟩ | ⟨a, ha, hid⟩
    · exact h1 a ha hid
    · exact h2 a ha hid
    · exact h3 a ha hid

end result

/-! ### Conservatism -/

/-- What the merge promises about its residuals, given what the arbiters and
    the lanes list. -/
structure Conservative (r1 r2 : List LaneAccepted) (primary counterpart : ArbiterVerdict)
    (residuals : List Residual) : Prop where
  /-- every id is listed once -/
  ids_nodup : UniqueResidualIds residuals
  /-- the ids are those of the arbiters and the high-risk ones of the lanes -/
  mem_ids : ∀ id, (∃ residual ∈ residuals, residual.id = id) ↔
    (∃ a ∈ primary.residuals, a.id = id) ∨ (∃ a ∈ counterpart.residuals, a.id = id)
      ∨ ∃ lane ∈ r1 ++ r2, ∃ a ∈ lane.output.residuals,
          isHighRiskSeverity a.severity = true ∧ a.id = id
  /-- an id with two differing records is unresolved/open -/
  differing : ∀ a ∈ primary.residuals, ∀ b ∈ counterpart.residuals, a.id = b.id → a ≠ b →
    ∀ residual ∈ residuals, residual.id = a.id → residual.Unsettled
  /-- an id that both arbiters omit is unresolved/open -/
  omitted : ∀ residual ∈ residuals, (∀ a ∈ primary.residuals, a.id ≠ residual.id) →
    (∀ a ∈ counterpart.residuals, a.id ≠ residual.id) → residual.Unsettled
  /-- the primary's record is kept where it is the only or the common one -/
  kept_primary : ∀ a ∈ primary.residuals, (∀ b ∈ counterpart.residuals, b.id = a.id → b = a) →
    ∀ residual ∈ residuals, residual.id = a.id → residual = a
  /-- and so is the counterpart's -/
  kept_counterpart : ∀ b ∈ counterpart.residuals,
    (∀ a ∈ primary.residuals, a.id = b.id → a = b) →
    ∀ residual ∈ residuals, residual.id = b.id → residual = b

/-- Two lists of residuals with the same ids, each of the same disposition
    and closure state. -/
structure SameOutcomes (xs ys : List Residual) : Prop where
  same_ids : ∀ id, (∃ a ∈ xs, a.id = id) ↔ ∃ b ∈ ys, b.id = id
  same_outcome : ∀ a ∈ xs, ∀ b ∈ ys, a.id = b.id →
    a.disposition = b.disposition ∧ a.closureState = b.closureState

theorem mem_highRisk (lanes : List LaneAccepted) (id : String) :
    (∃ a ∈ highRisk lanes, a.id = id) ↔
      ∃ lane ∈ lanes, ∃ a ∈ lane.output.residuals,
        isHighRiskSeverity a.severity = true ∧ a.id = id := by
  simp only [highRisk, List.mem_filter, List.mem_flatMap]
  constructor
  · rintro ⟨a, ⟨⟨lane, hlane, ha⟩, hrisk⟩, hid⟩
    exact ⟨lane, hlane, a, ha, hrisk, hid⟩
  · rintro ⟨lane, hlane, a, ha, hrisk, hid⟩
    exact ⟨a, ⟨⟨lane, hlane, ha⟩, hrisk⟩, hid⟩

/-- The joint records of an id, seen from either side, have one outcome. -/
theorem jointRecord_swap {primary counterpart : ArbiterVerdict} {id : String} {a b : Residual}
    (ha : jointRecord primary counterpart id = some a)
    (hb : jointRecord counterpart primary id = some b) :
    a.disposition = b.disposition ∧ a.closureState = b.closureState := by
  unfold jointRecord at ha hb
  cases hA : recordOf primary.residuals id <;> cases hB : recordOf counterpart.residuals id <;>
    simp only [hA, hB, Option.some.injEq, reduceCtorEq] at ha hb
  · subst ha
    subst hb
    exact ⟨rfl, rfl⟩
  · subst ha
    subst hb
    exact ⟨rfl, rfl⟩
  · next x y =>
    by_cases hxy : y = x
    · rw [if_pos hxy] at ha
      rw [if_pos hxy.symm] at hb
      subst ha
      subst hb
      exact ⟨congrArg _ hxy.symm, congrArg _ hxy.symm⟩
    · rw [if_neg hxy] at ha
      rw [if_neg fun h => hxy h.symm] at hb
      subst ha
      subst hb
      exact ⟨rfl, rfl⟩

section conservative

variable {primary counterpart : ArbiterVerdict}
  (hp : UniqueResidualIds primary.residuals) (hc : UniqueResidualIds counterpart.residuals)
  (r1 r2 : List LaneAccepted)

include hp hc

theorem merged_conservative :
    Conservative r1 r2 primary counterpart
      (listing (mergeResiduals r1 r2 primary counterpart).table) := by
  -- a residual of an id that an arbiter lists is the joint record
  have hjoint : ∀ residual ∈ listing (mergeResiduals r1 r2 primary counterpart).table,
      ¬ Omitted primary counterpart residual.id →
      jointRecord primary counterpart residual.id = some residual := by
    intro residual hmem hlisted
    rcases (mem_merged hp hc r1 r2 residual).mp hmem with h | ⟨h, -⟩
    · exact h
    · exact absurd h hlisted
  constructor
  case ids_nodup => exact listing_keys_nodup (merged_keyed hp hc r1 r2)
  case mem_ids =>
    intro id
    rw [mem_merged_ids hp hc r1 r2 id, mem_highRisk]
  case differing =>
    intro a ha b hb hid hne residual hmem hrid
    have hA := recordOf_eq_some hp ha
    have hB := recordOf_eq_some hc hb
    rw [← hid] at hB
    have h := hjoint residual hmem (fun hom => by simp [Omitted, hrid, hA] at hom)
    have hne' : b ≠ a := fun h => hne h.symm
    simp only [jointRecord, hrid, hA, hB, if_neg hne', Option.some.injEq] at h
    exact h ▸ conservative_unsettled a
  case omitted =>
    intro residual hmem hp' hc'
    rcases (mem_merged hp hc r1 r2 residual).mp hmem with h | ⟨-, h⟩
    · have hnone : jointRecord primary counterpart residual.id = none :=
        jointRecord_eq_none.mpr ⟨recordOf_eq_none.mpr hp', recordOf_eq_none.mpr hc'⟩
      rw [hnone] at h
      cases h
    · obtain ⟨a, -, rfl⟩ := Option.map_eq_some_iff.mp h
      exact conservative_unsettled a
  case kept_primary =>
    intro a ha hsame residual hmem hrid
    have hA := recordOf_eq_some hp ha
    have h := hjoint residual hmem (fun hom => by simp [Omitted, hrid, hA] at hom)
    cases hB : recordOf counterpart.residuals a.id with
    | none =>
      simp only [jointRecord, hrid, hA, hB, Option.some.injEq] at h
      exact h.symm
    | some b =>
      have hba : b = a := hsame b (recordOf_mem hB) (recordOf_id hB)
      simp only [jointRecord, hrid, hA, hB, if_pos hba, Option.some.injEq] at h
      exact h.symm
  case kept_counterpart =>
    intro b hb hsame residual hmem hrid
    have hB := recordOf_eq_some hc hb
    have h := hjoint residual hmem (fun hom => by simp [Omitted, hrid, hB] at hom)
    cases hA : recordOf primary.residuals b.id with
    | none =>
      simp only [jointRecord, hrid, hA, hB, Option.some.injEq] at h
      exact h.symm
    | some a =>
      have hab : a = b := hsame a (recordOf_mem hA) (recordOf_id hA)
      simp only [jointRecord, hrid, hA, hB, if_pos hab.symm, Option.some.injEq] at h
      exact h.symm.trans hab

theorem merged_swap :
    SameOutcomes (listing (mergeResiduals r1 r2 primary counterpart).table)
      (listing (mergeResiduals r1 r2 counterpart primary).table) := by
  constructor
  · intro id
    rw [mem_merged_ids hp hc r1 r2 id, mem_merged_ids hc hp r1 r2 id]
    exact or_left_comm
  · intro a ha b hb hid
    rcases (mem_merged hp hc r1 r2 a).mp ha with hA | ⟨homA, hA⟩
    · rcases (mem_merged hc hp r1 r2 b).mp hb with hB | ⟨homB, -⟩
      · exact jointRecord_swap hA (hid ▸ hB)
      · have hnone := jointRecord_eq_none.mpr (show Omitted primary counterpart a.id from
          ⟨hid ▸ homB.2, hid ▸ homB.1⟩)
        rw [hnone] at hA
        cases hA
    · rcases (mem_merged hc hp r1 r2 b).mp hb with hB | ⟨-, hB⟩
      · have hnone := jointRecord_eq_none.mpr (show Omitted counterpart primary b.id from
          ⟨hid ▸ homA.2, hid ▸ homA.1⟩)
        rw [hnone] at hB
        cases hB
      · -- both sides preserve the same record of the lanes
        rw [hid] at hA
        have : a = b := Option.some.inj (hA.symm.trans hB)
        exact ⟨congrArg _ this, congrArg _ this⟩

end conservative

/-! ### Sample inputs -/

/-- A residual of severity `high` with the given id and finding. -/
def sampleResidual (id finding : String) : Residual where
  id := id
  severity := .high
  residualType := "risk"
  source := "review"
  finding := finding
  evidenceRefs := []
  disposition := .unresolved
  requiredClosure := "fix"
  closureState := .open
  closureEvidence := ["seen"]
  scope := "run"

/-- The accepted output of the lane `routeId`, with the given residuals. -/
def sampleLane (routeId : String) (residuals : List Residual) : LaneAccepted where
  partyId := routeId
  routeId := routeId
  output := { (default : LaneOutput) with
    laneOutputVersion := "1.0"
    taskRestatement := "review"
    verdict := "ok"
    confidence := 1
    residuals := residuals }
  artifactRef := "r1/" ++ routeId ++ "/accepted.json"

/-- Five lanes, of which the first two report the given residuals. -/
def sampleLanes (first second : List Residual) : List LaneAccepted :=
  [sampleLane "a" first, sampleLane "b" second, sampleLane "c" [], sampleLane "d" [],
    sampleLane "e" []]

/-- A policy whose roster is the five sample lanes. -/
def samplePolicy : Policy :=
  { (default : Policy) with
    roster := ["a", "b", "c", "d", "e"].map fun routeId =>
      { (default : RoutePolicy) with partyId := routeId, routeId := routeId } }

def sampleVerdict (residuals : List Residual) : ArbiterVerdict where
  arbiterVerdictVersion := "1.0"
  summary := "done"
  recommendation := "ship"
  residuals := residuals

/-- A verified, closed record of the id. -/
def closedResidual (id : String) : Residual :=
  { sampleResidual id "checked" with disposition := .verified, closureState := .closed }

/-! ### The theorem -/

/-- **Conservatism of the merge**: it fails only on a roster route without an
    R1 lane, and every result it returns is conservative and does not depend,
    in ids and outcomes, on which arbiter is the primary. -/
theorem merge_conservative (manifest : RunManifest) (brief : Brief) (policy : Policy)
    (r1 r2 : List LaneAccepted) (primary counterpart : ArbiterVerdict)
    (hp : UniqueResidualIds primary.residuals) (hc : UniqueResidualIds counterpart.residuals) :
    (mergeVerdicts manifest brief policy r1 r2 primary counterpart = none ↔
        ∃ route ∈ policy.roster, ∀ lane ∈ r1, lane.routeId ≠ route.routeId)
      ∧ ∀ result, mergeVerdicts manifest brief policy r1 r2 primary counterpart = some result →
          Conservative r1 r2 primary counterpart result.residuals
            ∧ ∀ swapped,
                mergeVerdicts manifest brief policy r1 r2 counterpart primary = some swapped →
                SameOutcomes result.residuals swapped.residuals := by
  refine ⟨mergeVerdicts_eq_none manifest brief policy r1 r2 primary counterpart, ?_⟩
  intro result hresult
  rw [(mergeVerdicts_some hresult).1]
  refine ⟨merged_conservative hp hc r1 r2, ?_⟩
  intro swapped hswapped
  rw [(mergeVerdicts_some hswapped).1]
  exact merged_swap hp hc r1 r2

/-- Two arbiters that differ on `x`, and a lane with an id they both omit. -/
theorem merge_conservative_sample :
    ∃ result, mergeVerdicts default default samplePolicy
        (sampleLanes [sampleResidual "x" "leak"] [sampleResidual "y" "leak"]) []
        (sampleVerdict [closedResidual "x"]) (sampleVerdict [sampleResidual "x" "leak"])
          = some result
      ∧ Conservative (sampleLanes [sampleResidual "x" "leak"] [sampleResidual "y" "leak"]) []
          (sampleVerdict [closedResidual "x"]) (sampleVerdict [sampleResidual "x" "leak"])
          result.residuals := by
  have h := merge_conservative default default samplePolicy
    (sampleLanes [sampleResidual "x" "leak"] [sampleResidual "y" "leak"]) []
    (sampleVerdict [closedResidual "x"]) (sampleVerdict [sampleResidual "x" "leak"])
    (by decide) (by decide)
  obtain ⟨result, hresult⟩ := Option.ne_none_iff_exists'.mp (h.1.not.mpr (by decide))
  exact ⟨result, hresult, (h.2 result hresult).1⟩

/-! ### Truthfulness of the dissent -/

/-- The dissent entry says that the id is retained or preserved as
    unresolved/open. -/
def SaysUnsettled (entry id : String) : Prop :=
  entry = differsNote id ∨ entry = variantsNote id ∨ entry = omittedNote id

/-- Every dissent entry that promises an unresolved/open residual names one. -/
def Truthful (dissent : List String) (residuals : List Residual) : Prop :=
  ∀ entry ∈ dissent, ∀ id, SaysUnsettled entry id →
    ∃ residual ∈ residuals, residual.id = id ∧ residual.Unsettled

/-- The merge made the id's residual unresolved/open: the arbiters' records
    differ, or there is none. -/
def Forced (primary counterpart : ArbiterVerdict) (id : String) : Prop :=
  ArbitersDiffer primary counterpart id ∨ Omitted primary counterpart id

/-- Every residual that was made unresolved/open has a dissent entry. -/
def ForcedNamed (primary counterpart : ArbiterVerdict) (dissent : List String)
    (residuals : List Residual) : Prop :=
  ∀ residual ∈ residuals, Forced primary counterpart residual.id →
    ∃ entry ∈ dissent, SaysUnsettled entry residual.id

/-- Two texts whose last `n` characters differ are different. -/
theorem append_ne_of_ends (n : Nat) {x y s t : String} (hs : n ≤ s.toList.length)
    (ht : n ≤ t.toList.length) (hne : s.toList.reverse.take n ≠ t.toList.reverse.take n) :
    x ++ s ≠ y ++ t := by
  intro h
  have hlist := congrArg (fun u => (String.toList u).reverse.take n) h
  simp only [String.toList_append, List.reverse_append] at hlist
  rw [List.take_append_of_le_length (by simpa using hs),
    List.take_append_of_le_length (by simpa using ht)] at hlist
  exact hne hlist

/-- Two texts whose first `n` characters differ are different. -/
theorem append_ne_of_starts (n : Nat) {x y s t : String} (hs : n ≤ s.toList.length)
    (ht : n ≤ t.toList.length) (hne : s.toList.take n ≠ t.toList.take n) : s ++ x ≠ t ++ y := by
  intro h
  have hlist := congrArg (fun u => (String.toList u).take n) h
  simp only [String.toList_append] at hlist
  rw [List.take_append_of_le_length hs, List.take_append_of_le_length ht] at hlist
  exact hne hlist

theorem residual_text_inj {id id' mid tail : String}
    (h : "Residual " ++ id ++ mid ++ tail = "Residual " ++ id' ++ mid ++ tail) : id = id' := by
  rw [String.append_left_inj, String.append_left_inj, String.append_right_inj] at h
  exact h

theorem differsNote_ne_variantsNote (id id' : String) : differsNote id ≠ variantsNote id' :=
  append_ne_of_ends 23 (by simp) (by simp) (by simp)

theorem differsNote_ne_omittedNote (id id' : String) : differsNote id ≠ omittedNote id' :=
  append_ne_of_ends 23 (by simp) (by simp) (by simp)

theorem variantsNote_ne_omittedNote (id id' : String) : variantsNote id ≠ omittedNote id' :=
  append_ne_of_ends 23 (by simp) (by simp) (by simp)

/-- The entry about the recommendations says nothing about a residual. -/
theorem not_saysUnsettled_recommendationNote (primary counterpart : ArbiterVerdict) (id : String) :
    ¬ SaysUnsettled (recommendationNote primary counterpart) id := by
  have hstart : ∀ tail, recommendationNote primary counterpart ≠ "Residual " ++ tail :=
    fun tail => append_ne_of_starts 9 (by simp) (by simp) (by simp)
  rintro (h | h | h)
  · exact hstart _ (h.trans (by rw [differsNote, String.append_assoc, String.append_assoc]))
  · exact hstart _ (h.trans (by rw [variantsNote, String.append_assoc, String.append_assoc]))
  · exact hstart _ (h.trans (by rw [omittedNote, String.append_assoc, String.append_assoc]))

theorem saysUnsettled_differsNote {id id' : String} (h : SaysUnsettled (differsNote id) id') :
    id = id' := by
  rcases h with h | h | h
  · exact residual_text_inj h
  · exact absurd h (differsNote_ne_variantsNote id id')
  · exact absurd h (differsNote_ne_omittedNote id id')

theorem saysUnsettled_variantsNote {id id' : String} (h : SaysUnsettled (variantsNote id) id') :
    id = id' := by
  rcases h with h | h | h
  · exact absurd h.symm (differsNote_ne_variantsNote id' id)
  · exact residual_text_inj h
  · exact absurd h (variantsNote_ne_omittedNote id id')

theorem saysUnsettled_omittedNote {id id' : String} (h : SaysUnsettled (omittedNote id) id') :
    id = id' := by
  rcases h with h | h | h
  · exact absurd h.symm (differsNote_ne_omittedNote id' id)
  · exact absurd h.symm (variantsNote_ne_omittedNote id' id)
  · exact residual_text_inj h

section truthful

variable {primary counterpart : ArbiterVerdict}
  (hp : UniqueResidualIds primary.residuals) (hc : UniqueResidualIds counterpart.residuals)
  (r1 r2 : List LaneAccepted)

include hp hc

/-- Every residual the merge forced is named by a note. -/
theorem merged_forcedNamed :
    ForcedNamed primary counterpart (mergeResiduals r1 r2 primary counterpart).notes
      (listing (mergeResiduals r1 r2 primary counterpart).table) := by
  intro residual hmem hforced
  rcases hforced with hdiffer | hom
  · refine ⟨differsNote residual.id, ?_, Or.inl rfl⟩
    exact (mem_notes_mergeResiduals hp hc r1 r2 _).mpr (Or.inl ⟨residual.id, rfl, hdiffer⟩)
  · refine ⟨omittedNote residual.id, ?_, Or.inr (Or.inr rfl)⟩
    -- an omitted id is in the result because a lane reports it
    have hids := (mem_merged_ids hp hc r1 r2 residual.id).mp ⟨residual, hmem, rfl⟩
    have hrisk : ∃ a ∈ highRisk (r1 ++ r2), a.id = residual.id := by
      rcases hids with ⟨a, ha, hid⟩ | ⟨a, ha, hid⟩ | h
      · exact absurd hid (recordOf_eq_none.mp hom.1 a ha)
      · exact absurd hid (recordOf_eq_none.mp hom.2 a ha)
      · exact h
    exact (mem_notes_mergeResiduals hp hc r1 r2 _).mpr
      (Or.inr (Or.inr ⟨residual.id, rfl, hom, hrisk⟩))

/-- The notes of the merge are truthful exactly when each id with conflicting
    lane variants is settled by no arbiter's record that the merge keeps. -/
theorem merged_truthful_iff :
    Truthful (mergeResiduals r1 r2 primary counterpart).notes
        (listing (mergeResiduals r1 r2 primary counterpart).table) ↔
      ∀ id, VariantsConflict r1 r2 id → ArbitersDiffer primary counterpart id
        ∨ ∀ a ∈ primary.residuals ++ counterpart.residuals, a.id = id → a.Unsettled := by
  have hcons := merged_conservative hp hc r1 r2
  have hids := mem_merged_ids hp hc r1 r2
  constructor
  · intro htrue id hconf
    by_cases hdiffer : ArbitersDiffer primary counterpart id
    · exact Or.inl hdiffer
    · right
      have hnote := (mem_notes_mergeResiduals hp hc r1 r2 (variantsNote id)).mpr
        (Or.inr (Or.inl ⟨id, rfl, hconf⟩))
      obtain ⟨residual, hmem, hrid, hunsettled⟩ := htrue _ hnote id (Or.inr (Or.inl rfl))
      -- the arbiters agree on the id, so the residual is the record of either
      have hagree : ∀ a ∈ primary.residuals, ∀ b ∈ counterpart.residuals,
          a.id = id → b.id = id → a = b := by
        intro a ha b hb haid hbid
        by_contra hne
        exact hdiffer ⟨a, b, haid ▸ recordOf_eq_some hp ha, hbid ▸ recordOf_eq_some hc hb, hne⟩
      intro a ha haid
      rcases List.mem_append.mp ha with ha | ha
      · have := hcons.kept_primary a ha
          (fun b hb hid => (hagree a ha b hb haid (hid.trans haid)).symm) residual hmem
          (hrid.trans haid.symm)
        exact this ▸ hunsettled
      · have := hcons.kept_counterpart a ha
          (fun b hb hid => hagree b hb a ha (hid.trans haid) haid) residual hmem
          (hrid.trans haid.symm)
        exact this ▸ hunsettled
  · intro hcond entry hentry id hsays
    rcases (mem_notes_mergeResiduals hp hc r1 r2 entry).mp hentry with
      ⟨id', rfl, hdiffer⟩ | ⟨id', rfl, hconf⟩ | ⟨id', rfl, hom, hrisk⟩
    · obtain rfl := saysUnsettled_differsNote hsays
      obtain ⟨a, b, ha, hb, hne⟩ := hdiffer
      obtain ⟨residual, hmem, hrid⟩ := (hids id').mpr (Or.inl ⟨a, recordOf_mem ha, recordOf_id ha⟩)
      exact ⟨residual, hmem, hrid, hcons.differing a (recordOf_mem ha) b (recordOf_mem hb)
        ((recordOf_id ha).trans (recordOf_id hb).symm) hne residual hmem
        (hrid.trans (recordOf_id ha).symm)⟩
    · obtain rfl := saysUnsettled_variantsNote hsays
      have hrisk : ∃ a ∈ highRisk (r1 ++ r2), a.id = id' := by
        obtain ⟨a, ha, -, -, haid, -⟩ := hconf
        exact ⟨a, ha, haid⟩
      obtain ⟨residual, hmem, hrid⟩ := (hids id').mpr (Or.inr (Or.inr hrisk))
      refine ⟨residual, hmem, hrid, ?_⟩
      rcases hcond id' hconf with ⟨a, b, ha, hb, hne⟩ | hall
      · exact hcons.differing a (recordOf_mem ha) b (recordOf_mem hb)
          ((recordOf_id ha).trans (recordOf_id hb).symm) hne residual hmem
          (hrid.trans (recordOf_id ha).symm)
      · -- no record is settled: whatever the merge took, it is unresolved/open
        rcases (mem_merged hp hc r1 r2 residual).mp hmem with h | ⟨-, h⟩
        · unfold jointRecord at h
          cases hA : recordOf primary.residuals residual.id with
          | none =>
            cases hB : recordOf counterpart.residuals residual.id with
            | none => simp [hA, hB] at h
            | some b =>
              simp only [hA, hB, Option.some.injEq] at h
              exact h ▸ hall b (List.mem_append_right _ (recordOf_mem hB))
                ((recordOf_id hB).trans hrid)
          | some a =>
            have ha := hall a (List.mem_append_left _ (recordOf_mem hA))
              ((recordOf_id hA).trans hrid)
            cases hB : recordOf counterpart.residuals residual.id with
            | none =>
              simp only [hA, hB, Option.some.injEq] at h
              exact h ▸ ha
            | some b =>
              simp only [hA, hB, Option.some.injEq, (unsettled_iff a).mp ha, ite_self] at h
              exact h ▸ ha
        · obtain ⟨c, -, rfl⟩ := Option.map_eq_some_iff.mp h
          exact conservative_unsettled c
    · obtain rfl := saysUnsettled_omittedNote hsays
      obtain ⟨residual, hmem, hrid⟩ := (hids id').mpr (Or.inr (Or.inr hrisk))
      refine ⟨residual, hmem, hrid, hcons.omitted residual hmem ?_ ?_⟩
      · exact fun a ha hid => recordOf_eq_none.mp hom.1 a ha (hid.trans hrid)
      · exact fun a ha hid => recordOf_eq_none.mp hom.2 a ha (hid.trans hrid)

end truthful

/-- **Truthfulness of the dissent**: every entry that promises an
    unresolved/open residual keeps the promise, and every forced residual has
    an entry, exactly when no id with conflicting lane variants is settled by
    an arbiter's record that the merge keeps. -/
theorem dissent_truthful_iff (manifest : RunManifest) (brief : Brief) (policy : Policy)
    (r1 r2 : List LaneAccepted) (primary counterpart : ArbiterVerdict) (result : ResultEnvelope)
    (hp : UniqueResidualIds primary.residuals) (hc : UniqueResidualIds counterpart.residuals)
    (h : mergeVerdicts manifest brief policy r1 r2 primary counterpart = some result) :
    (Truthful result.dissent result.residuals
        ∧ ForcedNamed primary counterpart result.dissent result.residuals) ↔
      ∀ id, VariantsConflict r1 r2 id → ArbitersDiffer primary counterpart id
        ∨ ∀ a ∈ primary.residuals ++ counterpart.residuals, a.id = id → a.Unsettled := by
  obtain ⟨hresiduals, hdissent⟩ := mergeVerdicts_some h
  have hforced := merged_forcedNamed hp hc r1 r2
  rw [← merged_truthful_iff hp hc r1 r2, hresiduals, hdissent]
  constructor
  · rintro ⟨htrue, -⟩ entry hentry
    exact htrue entry (List.mem_append_left _ hentry)
  · intro htrue
    constructor
    · intro entry hentry id hsays
      rcases List.mem_append.mp hentry with hnote | hrec
      · exact htrue entry hnote id hsays
      · split at hrec
        · obtain rfl := List.mem_singleton.mp hrec
          exact absurd hsays (not_saysUnsettled_recommendationNote primary counterpart id)
        · cases hrec
    · intro residual hmem hres
      obtain ⟨entry, hentry, hsays⟩ := hforced residual hmem hres
      exact ⟨entry, List.mem_append_left _ hentry, hsays⟩

/-- Both variants of `x` are listed by no arbiter, so the dissent is truthful. -/
theorem dissent_truthful_sample :
    ∃ result, mergeVerdicts default default samplePolicy
        (sampleLanes [sampleResidual "x" "leak"] [sampleResidual "x" "no leak"]) []
        (sampleVerdict []) (sampleVerdict []) = some result
      ∧ Truthful result.dissent result.residuals := by
  have hsome : mergeVerdicts default default samplePolicy
      (sampleLanes [sampleResidual "x" "leak"] [sampleResidual "x" "no leak"]) []
      (sampleVerdict []) (sampleVerdict []) ≠ none := by
    rw [Ne, mergeVerdicts_eq_none]
    decide
  obtain ⟨result, hresult⟩ := Option.ne_none_iff_exists'.mp hsome
  have h := dissent_truthful_iff default default samplePolicy _ [] _ _ result
    (by decide) (by decide) hresult
  refine ⟨result, hresult, (h.mpr ?_).1⟩
  intro id _
  exact Or.inr (by simp [sampleVerdict])

/-- The merge of two variants that the arbiters both list as closed: the
    dissent says the id is preserved as unresolved/open, the result says it
    is closed. -/
theorem dissent_untruthful :
    ¬ ∀ (manifest : RunManifest) (brief : Brief) (policy : Policy) (r1 r2 : List LaneAccepted)
        (primary counterpart : ArbiterVerdict) (result : ResultEnvelope),
        (∀ lane ∈ r1 ++ r2, UniqueResidualIds lane.output.residuals) →
        UniqueResidualIds primary.residuals → UniqueResidualIds counterpart.residuals →
        mergeVerdicts manifest brief policy r1 r2 primary counterpart = some result →
        Truthful result.dissent result.residuals
          ∧ ForcedNamed primary counterpart result.dissent result.residuals := by
  intro hall
  let lanes := sampleLanes [sampleResidual "x" "leak"] [sampleResidual "x" "no leak"]
  let verdict := sampleVerdict [closedResidual "x"]
  obtain ⟨result, hresult⟩ : ∃ result,
      mergeVerdicts default default samplePolicy lanes [] verdict verdict = some result := by
    rw [← Option.ne_none_iff_exists', Ne, mergeVerdicts_eq_none]
    decide
  obtain ⟨hresiduals, hdissent⟩ := mergeVerdicts_some hresult
  have htrue := (hall _ _ _ _ _ _ _ _ (by decide) (by decide) (by decide) hresult).1
  rw [hresiduals, hdissent] at htrue
  have hentry : variantsNote "x" ∈ (mergeResiduals lanes [] verdict verdict).notes := by decide
  obtain ⟨residual, hmem, -, hunsettled⟩ :=
    htrue (variantsNote "x") (List.mem_append_left _ hentry) "x" (Or.inr (Or.inl rfl))
  have hclosed : ∀ residual ∈ listing (mergeResiduals lanes [] verdict verdict).table,
      ¬ residual.Unsettled := by decide
  exact hclosed residual hmem hunsettled

end Quinte
