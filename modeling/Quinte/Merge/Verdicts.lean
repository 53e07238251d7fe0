import Mathlib
import Quinte.Framework.KeyedMerge
import Quinte.Merge.Contestation

/-! # The deterministic merge

    `merge_verdicts` builds the result from the two R3 verdicts and the
    accepted R1/R2 lanes in three ordered passes:

    1. the residuals of the two arbiters, first record wins;
    2. the high-risk residuals of the lanes, first record wins;
    3. what the second pass kept and the first does not list.

    Both tables are instances of `KeyedMerge`, so what they hold is read off
    key by key: `arbiters_getElem?`, `earlier_getElem?` and, for the table of
    the result, `merged_getElem?`.
-/

namespace Quinte

open Std KeyedMerge

/-! ### Residuals -/

def residualFieldsConflict (left right : Residual) : Bool :=
  left.disposition != right.disposition
    || left.closureState != right.closureState
    || left.finding != right.finding
    || left.severity != right.severity
    || left.residualType != right.residualType
    || left.source != right.source
    || left.evidenceRefs != right.evidenceRefs
    || left.requiredClosure != right.requiredClosure
    || left.scope != right.scope
    || left.closureEvidence != right.closureEvidence

def isHighRiskSeverity : Severity → Bool
  | .high | .critical | .p0 => true
  | _ => false

def conservativeUnresolved (residual : Residual) : Residual :=
  { residual with
    disposition := .unresolved
    closureState := .open
    closureEvidence := [] }

/-- `validate_unique_residual_ids`, as a property of what it accepts. -/
def UniqueResidualIds (residuals : List Residual) : Prop :=
  (residuals.map (·.id)).Nodup

instance (residuals : List Residual) : Decidable (UniqueResidualIds residuals) :=
  inferInstanceAs (Decidable (residuals.map (·.id)).Nodup)

/-- A residual the merge leaves to be worked on. -/
def Residual.Unsettled (residual : Residual) : Prop :=
  residual.disposition = .unresolved ∧ residual.closureState = .open
    ∧ residual.closureEvidence = []

instance (residual : Residual) : Decidable residual.Unsettled :=
  inferInstanceAs (Decidable (_ ∧ _ ∧ _))

theorem conservative_unsettled (residual : Residual) :
    (conservativeUnresolved residual).Unsettled := ⟨rfl, rfl, rfl⟩

@[simp] theorem conservative_id (residual : Residual) :
    (conservativeUnresolved residual).id = residual.id := rfl

theorem unsettled_iff (residual : Residual) :
    residual.Unsettled ↔ conservativeUnresolved residual = residual := by
  constructor
  · rintro ⟨hd, hs, he⟩
    cases residual
    simp_all [conservativeUnresolved]
  · intro h
    rw [← h]
    exact conservative_unsettled residual

/-- `residual_fields_conflict` compares every field but the id. -/
theorem residualFieldsConflict_eq_false {a b : Residual} (hid : a.id = b.id) :
    residualFieldsConflict a b = false ↔ a = b := by
  constructor
  · intro h
    cases a
    cases b
    simp only [residualFieldsConflict, Bool.or_eq_false_iff, bne_eq_false_iff_eq] at h hid
    simp_all
  · rintro rfl
    simp [residualFieldsConflict]

/-! ### The dissent entries -/

def differsNote (id : String) : String :=
  "Residual " ++ id ++ (" differs between primary arbiter and counterpart arbiter "
    ++ "(finding, disposition, closure, severity, type, source, evidence, required_closure, "
    ++ "or scope); ") ++ "retained as unresolved/open."

def variantsNote (id : String) : String :=
  "Residual " ++ id ++ " high-risk variants conflict across R1/R2; "
    ++ "preserving as unresolved/open."

def omittedNote (id : String) : String :=
  "Residual " ++ id ++ " was high-risk in R1/R2 but omitted by both R3 arbiters; "
    ++ "preserved as unresolved/open."

def recommendationNote (primary counterpart : ArbiterVerdict) : String :=
  "primary arbiter: " ++ (primary.recommendation ++ "\ncounterpart arbiter: "
    ++ counterpart.recommendation)

/-- The rule of a merge of residuals: they clash when a field differs, and
    the kept one becomes unresolved/open. -/
def residualRule (note : String → String) : Rule String Residual String where
  key := Residual.id
  clash := residualFieldsConflict
  soften := conservativeUnresolved
  note := note

theorem residualRule_lawful (note : String → String) : (residualRule note).Lawful where
  clash_eq_false _ _ h := residualFieldsConflict_eq_false h
  key_soften _ := rfl
  soften_idem _ := rfl

/-! ### The three passes -/

abbrev Merge := Acc String Residual String

/-- First pass: the residuals of the primary, then of the counterpart arbiter. -/
def mergeArbiters (primary counterpart : ArbiterVerdict) : Merge :=
  absorbAll (residualRule differsNote) { table := ∅, notes := [] }
    (primary.residuals ++ counterpart.residuals)

/-- The high-risk residuals of the lanes, R1 before R2. -/
def highRisk (lanes : List LaneAccepted) : List Residual :=
  (lanes.flatMap (·.output.residuals)).filter fun residual =>
    isHighRiskSeverity residual.severity

/-- Second pass: the high-risk residuals accepted in earlier phases. -/
def mergeEarlier (r1 r2 : List LaneAccepted) (dissent : List String) : Merge :=
  absorbAll (residualRule variantsNote) { table := ∅, notes := dissent } (highRisk (r1 ++ r2))

/-- The three passes: high-risk residuals accepted in earlier phases do not
    disappear because both R3 arbiters omitted them. -/
def mergeResiduals (r1 r2 : List LaneAccepted) (primary counterpart : ArbiterVerdict) : Merge :=
  let arbiters := mergeArbiters primary counterpart
  let earlier := mergeEarlier r1 r2 arbiters.notes
  fill (residualRule omittedNote) { table := arbiters.table, notes := earlier.notes }
    earlier.table.toList

/-! ### The envelope -/

/-- `base_model_relation`, from the actual roster. -/
def baseModelRelation (policy : Policy) : String :=
  let routes := policy.roster ++ [policy.counterpartArbiter, policy.primaryArbiter]
  if (routes.map (·.textModel)).dedup.length = 1 then "same_model"
  else if (routes.map (·.family)).dedup.length = 1 then "same_family"
  else "different_family"

def correlationRisk (policy : Policy) : String :=
  let routes := policy.roster ++ [policy.counterpartArbiter, policy.primaryArbiter]
  if (routes.map (·.textModel)).dedup.length = 1 then "same_model_error_correlation"
  else "cross_family_residual_correlation"

/-- The trial perspective of a route. `none` is the panic of `unwrap` on a
    route without an R1 lane. -/
def trialPerspective (r1 r2 : List LaneAccepted) (route : RoutePolicy) :
    Option TrialPerspective := do
  let lane ← r1.find? fun lane => lane.routeId = route.routeId
  return {
    partyId := route.partyId
    routeId := route.routeId
    r1Artifact := lane.artifactRef
    r2Artifact := ((r2.find? fun lane => lane.routeId = route.routeId).map
      (·.artifactRef)).getD "r2/skipped.json"
    independentFirstPass := true }

/-- `merge_verdicts`. `none` is a panic. -/
def mergeVerdicts (manifest : RunManifest) (brief : Brief) (policy : Policy)
    (r1 r2 : List LaneAccepted) (primaryArbiter counterpartArbiter : ArbiterVerdict) :
    Option ResultEnvelope := do
  let merged := mergeResiduals r1 r2 primaryArbiter counterpartArbiter
  let dissent :=
    if primaryArbiter.recommendation ≠ counterpartArbiter.recommendation then
      merged.notes ++ [recommendationNote primaryArbiter counterpartArbiter]
    else merged.notes
  let perspectives ← policy.roster.mapM (trialPerspective r1 r2)
  return {
    resultVersion := "2.1"
    runId := manifest.runId
    status := .completed
    briefSha256 := manifest.briefSha256
    question := brief.question
    actionScope := brief.actionScope
    affectedPaths := brief.affectedPaths
    actionBindingSha256 := brief.actionBindingSha256
    seatBinding := manifest.seatBinding
    routeBindings := manifest.routeBindings
    summary := primaryArbiter.summary
    recommendation := primaryArbiter.recommendation
    dissent := dissent
    residuals := listing merged.table
    trialManifest := {
      manifestVersion := "1.0"
      baseModelRelation := baseModelRelation policy
      perspectiveCount := 5
      perspectives := perspectives
      perturbationAxes := ["role", "reviewer_position", "evidence_budget"]
      independenceControls := ["per_lane_workdir", "participant_label_rotation",
        "identity_marker_scrubbing", "scheduler_captured_output", "closed_schema"]
      contaminationRisks := [correlationRisk policy, "process_isolation_is_not_an_os_sandbox",
        "label_rotation_is_not_content_anonymization"]
      wallTimeSeconds := none
      observedContestation := some (observedContestation r1 r2) } }

/-! ### What the tables hold -/

/-- The record of an id in a list of residuals. -/
def recordOf (residuals : List Residual) (id : String) : Option Residual :=
  residuals.find? fun residual => residual.id = id

theorem recordOf_id {residuals : List Residual} {id : String} {a : Residual}
    (h : recordOf residuals id = some a) : a.id = id := by
  simpa using List.find?_some h

theorem recordOf_mem {residuals : List Residual} {id : String} {a : Residual}
    (h : recordOf residuals id = some a) : a ∈ residuals :=
  List.mem_of_find?_eq_some h

theorem recordOf_eq_none {residuals : List Residual} {id : String} :
    recordOf residuals id = none ↔ ∀ a ∈ residuals, a.id ≠ id := by
  simp [recordOf, List.find?_eq_none]

theorem recordOf_eq_some {residuals : List Residual} (h : UniqueResidualIds residuals)
    {a : Residual} (ha : a ∈ residuals) : recordOf residuals a.id = some a := by
  induction residuals with
  | nil => simp at ha
  | cons b residuals ih =>
    obtain ⟨hb, hrest⟩ := List.nodup_cons.mp h
    rcases List.mem_cons.mp ha with rfl | ha'
    · simp [recordOf]
    · have hne : b.id ≠ a.id := fun heq => hb (List.mem_map.mpr ⟨a, ha', heq.symm⟩)
      have ih' := ih hrest ha'
      simpa [recordOf, hne] using ih'

/-- With unique ids, the records of an id are at most one. -/
theorem filter_eq_recordOf {residuals : List Residual} (h : UniqueResidualIds residuals)
    (id : String) :
    residuals.filter (fun residual => residual.id = id) = (recordOf residuals id).toList := by
  induction residuals with
  | nil => rfl
  | cons a residuals ih =>
    obtain ⟨ha, hrest⟩ := List.nodup_cons.mp h
    by_cases hid : a.id = id
    · have hnone : residuals.filter (fun residual => residual.id = id) = [] := by
        rw [List.filter_eq_nil_iff]
        intro b hb heq
        simp only [decide_eq_true_eq] at heq
        exact ha (List.mem_map.mpr ⟨b, hb, heq.trans hid.symm⟩)
      simp [recordOf, hid, hnone]
    · have ih' := ih hrest
      simpa [recordOf, hid] using ih'

/-- What the two arbiters leave under an id: the only record, the common
    one, or the primary's made unresolved/open. -/
def jointRecord (primary counterpart : ArbiterVerdict) (id : String) : Option Residual :=
  match recordOf primary.residuals id, recordOf counterpart.residuals id with
  | some a, some b => some (if b = a then a else conservativeUnresolved a)
  | some a, none => some a
  | none, o => o

theorem jointRecord_eq_none {primary counterpart : ArbiterVerdict} {id : String} :
    jointRecord primary counterpart id = none ↔
      recordOf primary.residuals id = none ∧ recordOf counterpart.residuals id = none := by
  unfold jointRecord
  cases recordOf primary.residuals id <;> cases recordOf counterpart.residuals id <;> simp

theorem arbiters_getElem? {primary counterpart : ArbiterVerdict}
    (hp : UniqueResidualIds primary.residuals) (hc : UniqueResidualIds counterpart.residuals)
    (id : String) :
    (mergeArbiters primary counterpart).table[id]? = jointRecord primary counterpart id := by
  have hR := residualRule_lawful differsNote
  unfold mergeArbiters
  rw [absorbAll_getElem?, List.filter_append]
  show settle _ (∅ : TreeMap String Residual)[id]?
    (primary.residuals.filter (fun residual => residual.id = id)
      ++ counterpart.residuals.filter (fun residual => residual.id = id)) = _
  rw [filter_eq_recordOf hp, filter_eq_recordOf hc, TreeMap.getElem?_emptyc, jointRecord]
  cases ha : recordOf primary.residuals id with
  | none =>
    cases hb : recordOf counterpart.residuals id with
    | none => rfl
    | some b => rfl
  | some a =>
    cases hb : recordOf counterpart.residuals id with
    | none => rfl
    | some b =>
      have hkey : ∀ c ∈ [b], (residualRule differsNote).key c = (residualRule differsNote).key a := by
        intro c hc
        rw [List.mem_singleton.mp hc]
        exact (recordOf_id hb).trans (recordOf_id ha).symm
      have hsettle := settle_cons hR a [b] hkey
      simpa [residualRule] using hsettle

/-- What is kept of the lanes' records of an id, once made unresolved/open:
    the first one. -/
theorem earlier_getElem? (r1 r2 : List LaneAccepted) (dissent : List String) (id : String) :
    ((mergeEarlier r1 r2 dissent).table[id]?).map conservativeUnresolved
      = (recordOf (highRisk (r1 ++ r2)) id).map conservativeUnresolved := by
  have hR := residualRule_lawful variantsNote
  unfold mergeEarlier
  rw [absorbAll_getElem?]
  show (settle _ (∅ : TreeMap String Residual)[id]?
    ((highRisk (r1 ++ r2)).filter (fun residual => residual.id = id))).map _ = _
  rw [TreeMap.getElem?_emptyc, recordOf, ← List.head?_filter]
  cases hrecs : (highRisk (r1 ++ r2)).filter (fun residual => residual.id = id) with
  | nil => rfl
  | cons a rest =>
    have hall : ∀ b ∈ a :: rest, b.id = id := by
      intro b hb
      rw [← hrecs] at hb
      simpa using (List.mem_filter.mp hb).2
    have hkey : ∀ b ∈ rest, (residualRule variantsNote).key b = (residualRule variantsNote).key a :=
      fun b hb => (hall b (List.mem_cons_of_mem _ hb)).trans (hall a (List.mem_cons_self ..)).symm
    rw [settle_cons hR a rest hkey, List.head?_cons, Option.map_some, Option.map_some]
    split
    · rfl
    · exact congrArg some ((residualRule_lawful variantsNote).soften_idem a)

/-- **The table of the result**: the arbiters' record, or else the lanes'
    first high-risk record made unresolved/open. -/
theorem merged_getElem? {primary counterpart : ArbiterVerdict}
    (hp : UniqueResidualIds primary.residuals) (hc : UniqueResidualIds counterpart.residuals)
    (r1 r2 : List LaneAccepted) (id : String) :
    (mergeResiduals r1 r2 primary counterpart).table[id]?
      = (jointRecord primary counterpart id).or
          ((recordOf (highRisk (r1 ++ r2)) id).map conservativeUnresolved) := by
  unfold mergeResiduals
  simp only [fill_getElem?]
  rw [arbiters_getElem? hp hc, ← earlier_getElem? r1 r2 (mergeArbiters primary counterpart).notes,
    ← find?_toList, Option.map_map]
  rfl

/-! ### What the notes say -/

/-- Two of the lanes' high-risk records of the id differ. -/
def VariantsConflict (r1 r2 : List LaneAccepted) (id : String) : Prop :=
  ∃ a ∈ highRisk (r1 ++ r2), ∃ b ∈ highRisk (r1 ++ r2), a.id = id ∧ b.id = id ∧ a ≠ b

/-- The two arbiters' records of the id differ. -/
def ArbitersDiffer (primary counterpart : ArbiterVerdict) (id : String) : Prop :=
  ∃ a b, recordOf primary.residuals id = some a ∧ recordOf counterpart.residuals id = some b
    ∧ a ≠ b

/-- No arbiter lists the id. -/
def Omitted (primary counterpart : ArbiterVerdict) (id : String) : Prop :=
  recordOf primary.residuals id = none ∧ recordOf counterpart.residuals id = none

/-- A first-wins merge of residuals from nothing writes a note for an id
    exactly when two of its records differ. -/
theorem mem_notes_residualRule (note : String → String) (notes : List String)
    (residuals : List Residual) (n : String) :
    n ∈ (absorbAll (residualRule note) { table := ∅, notes := notes } residuals).notes ↔
      n ∈ notes ∨ ∃ id, note id = n ∧
        ∃ a ∈ residuals, ∃ b ∈ residuals, a.id = id ∧ b.id = id ∧ a ≠ b := by
  rw [mem_notes_absorbAll]
  refine or_congr Iff.rfl (exists_congr fun id => and_congr Iff.rfl ?_)
  rw [TreeMap.getElem?_emptyc, noted_none_iff (residualRule_lawful note) (k := id)
    (fun b hb => by simpa using (List.mem_filter.mp hb).2)]
  simp only [List.mem_filter, decide_eq_true_eq]
  constructor
  · rintro ⟨a, ⟨ha, haid⟩, b, ⟨hb, hbid⟩, hne⟩
    exact ⟨a, ha, b, hb, haid, hbid, hne⟩
  · rintro ⟨a, ha, b, hb, haid, hbid, hne⟩
    exact ⟨a, ⟨ha, haid⟩, b, ⟨hb, hbid⟩, hne⟩

theorem arbitersDiffer_iff {primary counterpart : ArbiterVerdict}
    (hp : UniqueResidualIds primary.residuals) (hc : UniqueResidualIds counterpart.residuals)
    (id : String) :
    (∃ a ∈ primary.residuals ++ counterpart.residuals,
        ∃ b ∈ primary.residuals ++ counterpart.residuals, a.id = id ∧ b.id = id ∧ a ≠ b) ↔
      ArbitersDiffer primary counterpart id := by
  constructor
  · rintro ⟨a, ha, b, hb, rfl, hbid, hne⟩
    -- two records of one id and one list are equal, so the two come from both lists
    rcases List.mem_append.mp ha with ha | ha
    · rcases List.mem_append.mp hb with hb | hb
      · have := (recordOf_eq_some hp ha).symm.trans (hbid ▸ recordOf_eq_some hp hb)
        exact absurd (Option.some.inj this) hne
      · exact ⟨a, b, recordOf_eq_some hp ha, hbid ▸ recordOf_eq_some hc hb, hne⟩
    · rcases List.mem_append.mp hb with hb | hb
      · exact ⟨b, a, hbid ▸ recordOf_eq_some hp hb, recordOf_eq_some hc ha, hne.symm⟩
      · have := (recordOf_eq_some hc ha).symm.trans (hbid ▸ recordOf_eq_some hc hb)
        exact absurd (Option.some.inj this) hne
  · rintro ⟨a, b, ha, hb, hne⟩
    exact ⟨a, List.mem_append_left _ (recordOf_mem ha), b, List.mem_append_right _ (recordOf_mem hb),
      recordOf_id ha, recordOf_id hb, hne⟩

/-- **The notes of the three passes**, by what they say. -/
theorem mem_notes_mergeResiduals {primary counterpart : ArbiterVerdict}
    (hp : UniqueResidualIds primary.residuals) (hc : UniqueResidualIds counterpart.residuals)
    (r1 r2 : List LaneAccepted) (n : String) :
    n ∈ (mergeResiduals r1 r2 primary counterpart).notes ↔
      (∃ id, differsNote id = n ∧ ArbitersDiffer primary counterpart id)
        ∨ (∃ id, variantsNote id = n ∧ VariantsConflict r1 r2 id)
        ∨ ∃ id, omittedNote id = n ∧ Omitted primary counterpart id
            ∧ ∃ a ∈ highRisk (r1 ++ r2), a.id = id := by
  have harb : n ∈ (mergeArbiters primary counterpart).notes ↔
      ∃ id, differsNote id = n ∧ ArbitersDiffer primary counterpart id := by
    unfold mergeArbiters
    simp only [mem_notes_residualRule, arbitersDiffer_iff hp hc, List.not_mem_nil, false_or]
  have hearlier : n ∈ (mergeEarlier r1 r2 (mergeArbiters primary counterpart).notes).notes ↔
      n ∈ (mergeArbiters primary counterpart).notes
        ∨ ∃ id, variantsNote id = n ∧ VariantsConflict r1 r2 id := by
    unfold mergeEarlier
    rw [mem_notes_residualRule]
    rfl
  unfold mergeResiduals
  simp only [mem_notes_fill, hearlier, harb, or_assoc]
  refine or_congr Iff.rfl (or_congr Iff.rfl ?_)
  -- an entry of the second table stands for the high-risk records of its id
  have hentry : ∀ id, (∃ b, (mergeEarlier r1 r2
      (mergeArbiters primary counterpart).notes).table[id]? = some b) ↔
      ∃ a ∈ highRisk (r1 ++ r2), a.id = id := by
    intro id
    have h := congrArg Option.isSome
      (earlier_getElem? r1 r2 (mergeArbiters primary counterpart).notes id)
    rw [Option.isSome_map, Option.isSome_map] at h
    rw [← Option.isSome_iff_exists, h, recordOf, List.find?_isSome]
    simp
  simp only [Prod.exists, TreeMap.mem_toList_iff_getElem?_eq_some, arbiters_getElem? hp hc,
    jointRecord_eq_none, ← hentry, Omitted]
  constructor
  · rintro ⟨id, b, hb, hn, hnone⟩
    exact ⟨id, hn, hnone, b, hb⟩
  · rintro ⟨id, hn, hnone, b, hb⟩
    exact ⟨id, b, hb, hn, hnone⟩

/-! ### What the envelope takes from the merge -/

theorem mergeVerdicts_eq_none (manifest : RunManifest) (brief : Brief) (policy : Policy)
    (r1 r2 : List LaneAccepted) (primary counterpart : ArbiterVerdict) :
    mergeVerdicts manifest brief policy r1 r2 primary counterpart = none ↔
      ∃ route ∈ policy.roster, ∀ lane ∈ r1, lane.routeId ≠ route.routeId := by
  -- a perspective is missing exactly where the lane of its route is
  have hroute : ∀ route, trialPerspective r1 r2 route = none ↔
      ∀ lane ∈ r1, lane.routeId ≠ route.routeId := by
    intro route
    cases hfind : r1.find? fun lane => lane.routeId = route.routeId with
    | none =>
      have hnone := List.find?_eq_none.mp hfind
      simp only [decide_eq_true_eq] at hnone
      simpa [trialPerspective, hfind] using hnone
    | some lane =>
      have hid : lane.routeId = route.routeId := by simpa using List.find?_some hfind
      have hmem := List.mem_of_find?_eq_some hfind
      simp only [trialPerspective, hfind, Option.bind_eq_bind, Option.bind_some, Option.pure_def,
        reduceCtorEq, false_iff, not_forall, not_not]
      exact ⟨lane, hmem, hid⟩
  have hmapM : policy.roster.mapM (trialPerspective r1 r2) = none ↔
      ∃ route ∈ policy.roster, trialPerspective r1 r2 route = none := by
    induction policy.roster with
    | nil => simp
    | cons route routes ih =>
      cases h : trialPerspective r1 r2 route with
      | none => simp [List.mapM_cons, h]
      | some p =>
        cases hrest : routes.mapM (trialPerspective r1 r2) with
        | none => simpa [List.mapM_cons, h, hrest] using ih
        | some ps => simpa [List.mapM_cons, h, hrest] using ih
  simp only [← hroute, ← hmapM]
  unfold mergeVerdicts
  cases policy.roster.mapM (trialPerspective r1 r2) <;> simp

/-- The residuals and the dissent of a result. -/
theorem mergeVerdicts_some {manifest : RunManifest} {brief : Brief} {policy : Policy}
    {r1 r2 : List LaneAccepted} {primary counterpart : ArbiterVerdict} {result : ResultEnvelope}
    (h : mergeVerdicts manifest brief policy r1 r2 primary counterpart = some result) :
    result.residuals = listing (mergeResiduals r1 r2 primary counterpart).table
      ∧ result.dissent = (mergeResiduals r1 r2 primary counterpart).notes ++
          if primary.recommendation ≠ counterpart.recommendation then
            [recommendationNote primary counterpart] else [] := by
  unfold mergeVerdicts at h
  cases hps : policy.roster.mapM (trialPerspective r1 r2) with
  | none => simp [hps] at h
  | some ps =>
    simp only [hps, Option.bind_eq_bind, Option.bind_some, Option.pure_def,
      Option.some.injEq] at h
    subst h
    refine ⟨rfl, ?_⟩
    by_cases hrec : primary.recommendation = counterpart.recommendation <;> simp [hrec]

/-- A result names the run it belongs to. -/
theorem mergeVerdicts_identity {manifest : RunManifest} {brief : Brief} {policy : Policy}
    {r1 r2 : List LaneAccepted} {primary counterpart : ArbiterVerdict} {result : ResultEnvelope}
    (h : mergeVerdicts manifest brief policy r1 r2 primary counterpart = some result) :
    result.runId = manifest.runId ∧ result.status = .completed
      ∧ result.briefSha256 = manifest.briefSha256 ∧ result.seatBinding = manifest.seatBinding
      ∧ result.routeBindings = manifest.routeBindings := by
  unfold mergeVerdicts at h
  cases hps : policy.roster.mapM (trialPerspective r1 r2) with
  | none => simp [hps] at h
  | some ps =>
    simp only [hps, Option.bind_eq_bind, Option.bind_some, Option.pure_def,
      Option.some.injEq] at h
    subst h
    exact ⟨rfl, rfl, rfl, rfl, rfl⟩

theorem merged_keyed {primary counterpart : ArbiterVerdict}
    (hp : UniqueResidualIds primary.residuals) (hc : UniqueResidualIds counterpart.residuals)
    (r1 r2 : List LaneAccepted) :
    Keyed Residual.id (mergeResiduals r1 r2 primary counterpart).table := by
  intro id a h
  rw [merged_getElem? hp hc, Option.or_eq_some_iff] at h
  rcases h with h | ⟨-, h⟩
  · unfold jointRecord at h
    cases hA : recordOf primary.residuals id <;> cases hB : recordOf counterpart.residuals id <;>
      simp only [hA, hB, Option.some.injEq, reduceCtorEq] at h
    · exact recordOf_id (h ▸ hB)
    · exact recordOf_id (h ▸ hA)
    · rw [← h]
      split
      · exact recordOf_id hA
      · exact (conservative_id _).trans (recordOf_id hA)
  · rw [Option.map_eq_some_iff] at h
    obtain ⟨b, hb, rfl⟩ := h
    exact (conservative_id b).trans (recordOf_id hb)

end Quinte
