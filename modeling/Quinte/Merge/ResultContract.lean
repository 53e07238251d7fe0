import Mathlib
import Quinte.Adapter.Identifiers
import Quinte.Contest.BriefDigest
import Quinte.Evidence.Repair
import Quinte.Framework.JsonShape
import Quinte.Merge.Replay
import Quinte.Run.Advance

/-! # The contract of the result

    `write_run_result` checks the merged result against its schema, and a run
    whose result fails there stops in merging.  What the schema bounds is
    bounded by the schemas of the documents that the merge reads, with one
    exception: a reference is repaired after its document was checked, and
    what it is repaired to is as long as the snapshot has it.

    * `merged_residual_iff`: which residuals the result lists;
    * `residual_iff`: what a repair leaves of the schema of a residual;
    * `merge_validates_iff`: when the result passes.
-/

namespace Quinte

open Std KeyedMerge Tally
open Schema (text idPattern evidenceRefs lanePartyIds)
open Finance.Schemas (sha256Pattern)

/-! ### Contracts -/

/-- `RESULT_SCHEMA`, with the pattern and the bounds that no type of the result
    and no line of `Schema.result` states. -/
def resultSchema (r : ResultEnvelope) : Bool :=
  Schema.result r && r.actionBindingSha256.all (sha256Pattern "sha256:")
    && r.trialManifest.observedContestation.all fun o =>
      o.verdictDistribution.all (1 ≤ ·.2) && o.residualAttestations.all (1 ≤ ·.2)

/-- `write_run_result` up to its check: the result, where it passes. -/
def writtenResult (s : RunDir) (manifest : RunManifest) (r1 r2 : List LaneAccepted)
    (primary : ArbiterVerdict) : Except String ResultEnvelope := do
  let result ← Run.mergedResult s manifest r1 r2 primary
  Policy.require (resultSchema result) "result does not match its schema"
  return result

/-- A manifest that `save_manifest` has taken; the id of a run is a UUID. -/
structure Published (manifest : RunManifest) : Prop where
  named : manifest.runId ≠ ""
  saved : Schema.runManifest manifest = true

/-- An output that passed its schema, as the check of its references left it. -/
def OutputAccepted (valid : List String) (output : LaneOutput) : Prop :=
  ∃ received pairs, Schema.laneOutput received = true
    ∧ validateEvidenceRefs valid received = .ok (output, pairs)

/-- A verdict that passed its schema, as the check of its references left it. -/
def VerdictAccepted (valid : List String) (verdict : ArbiterVerdict) : Prop :=
  ∃ received pairs, Schema.arbiterVerdict received = true
    ∧ validateArbiterSemantics valid received = .ok (verdict, pairs)

/-- The lanes of a finished phase, one for each route and in any order. -/
structure PhaseAccepted (valid : List String) (phase : String) (policy : Policy)
    (lanes : List LaneAccepted) : Prop where
  order : ∃ outputs, lanes.Perm (rosterLanes phase policy outputs)
  outputs : ∀ lane ∈ lanes, OutputAccepted valid lane.output

/-! ### References -/

/-- The bound of a reference in every schema. -/
def WithinBound (refs : List String) : Prop := ∀ reference ∈ refs, reference.length ≤ 1000

instance (refs : List String) : Decidable (WithinBound refs) :=
  inferInstanceAs (Decidable (∀ reference ∈ refs, reference.length ≤ 1000))

/-- The schema of a residual, but for the length of its references. -/
def residualFields (r : Residual) : Bool :=
  idPattern r.id && text 1 100 r.residualType && text 1 1000 r.source && text 1 8000 r.finding
    && r.evidenceRefs.length ≤ 30 && text 1 2000 r.requiredClosure
    && r.closureEvidence.length ≤ 30 && text 1 2000 r.scope

/-- What the schemas leave open: the references of the residuals that the result
    lists are within the bound. A residual that becomes unresolved/open loses
    its closure evidence. -/
structure References (r1 r2 : List LaneAccepted) (primary counterpart : ArbiterVerdict) : Prop where
  ofPrimary : ∀ a ∈ primary.residuals, WithinBound a.evidenceRefs
    ∧ (WithinBound a.closureEvidence ∨ ∃ b ∈ counterpart.residuals, b.id = a.id ∧ b ≠ a)
  ofCounterpart : ∀ b ∈ counterpart.residuals, (∀ a ∈ primary.residuals, a.id ≠ b.id) →
    WithinBound b.evidenceRefs ∧ WithinBound b.closureEvidence
  ofLanes : ∀ c, recordOf (highRisk (r1 ++ r2)) c.id = some c → Omitted primary counterpart c.id →
    WithinBound c.evidenceRefs

section residuals

variable {valid : List String}

theorem ne_of_text {high : Nat} {s : String} (h : text 1 high s = true) : s ≠ "" := by
  rintro rfl
  simp [text] at h

theorem evidenceRefs_iff (refs : List String) :
    evidenceRefs refs = true ↔ refs.length ≤ 30 ∧ WithinBound refs := by
  simp [evidenceRefs, text, WithinBound]

/-- The two halves of the schema of a residual. -/
theorem residual_iff (r : Residual) : Schema.residual r = true ↔
    residualFields r = true ∧ WithinBound r.evidenceRefs ∧ WithinBound r.closureEvidence := by
  unfold Schema.residual residualFields
  simp only [Bool.and_eq_true, evidenceRefs_iff, decide_eq_true_eq]
  tauto

/-- A repair changes no number of references, and nothing else. -/
theorem residualFields_remap (valid : List String) (r : Residual) :
    residualFields (remapResidual valid r) = residualFields r := by
  simp [residualFields, remapResidual, remapEvidenceRefs]

theorem residualFields_conservative {r : Residual} (h : residualFields r = true) :
    residualFields (conservativeUnresolved r) = true := by
  unfold residualFields conservativeUnresolved at *
  simp only [Bool.and_eq_true] at h ⊢
  obtain ⟨⟨⟨hfields, hclosure⟩, -⟩, hscope⟩ := h
  exact ⟨⟨⟨hfields, hclosure⟩, by simp⟩, hscope⟩

/-- What a document of residuals in their schema is after its repair. -/
theorem residualFields_repaired {received : List Residual}
    (h : ∀ source ∈ received, Schema.residual source = true) :
    ∀ r ∈ received.map (remapResidual valid), residualFields r = true := by
  intro r hr
  obtain ⟨source, hsource, rfl⟩ := List.mem_map.mp hr
  rw [residualFields_remap]
  exact ((residual_iff source).mp (h source hsource)).1

/-- The residuals of a document that was accepted, with ids that occur once. -/
theorem OutputAccepted.residuals {output : LaneOutput} (h : OutputAccepted valid output) :
    ∀ r ∈ output.residuals, residualFields r = true := by
  obtain ⟨received, pairs, hschema, hchecked⟩ := h
  obtain ⟨-, -, -, rfl, -⟩ := validateEvidenceRefs_ok.mp hchecked
  unfold Schema.laneOutput at hschema
  simp only [Bool.and_eq_true, List.all_eq_true] at hschema
  obtain ⟨⟨⟨-, -, hresiduals⟩, -⟩, -⟩ := hschema
  exact residualFields_repaired hresiduals

theorem VerdictAccepted.unique {verdict : ArbiterVerdict} (h : VerdictAccepted valid verdict) :
    UniqueResidualIds verdict.residuals := by
  obtain ⟨received, pairs, -, hchecked⟩ := h
  obtain ⟨hunique, -, rfl, -⟩ := validateArbiterSemantics_ok.mp hchecked
  have hids := Adapter.validateUniqueIds_ok.mp hunique
  simpa [UniqueResidualIds, remapResidual, Function.comp_def] using hids

theorem VerdictAccepted.residuals {verdict : ArbiterVerdict} (h : VerdictAccepted valid verdict) :
    ∀ r ∈ verdict.residuals, residualFields r = true := by
  obtain ⟨received, pairs, hschema, hchecked⟩ := h
  obtain ⟨-, -, rfl, -⟩ := validateArbiterSemantics_ok.mp hchecked
  unfold Schema.arbiterVerdict at hschema
  simp only [Bool.and_eq_true, List.all_eq_true] at hschema
  obtain ⟨-, -, hresiduals⟩ := hschema
  exact residualFields_repaired hresiduals

/-- The texts of a verdict that the result takes over. -/
theorem VerdictAccepted.texts {verdict : ArbiterVerdict} (h : VerdictAccepted valid verdict) :
    verdict.summary ≠ "" ∧ verdict.recommendation ≠ "" := by
  obtain ⟨received, pairs, hschema, hchecked⟩ := h
  obtain ⟨-, -, rfl, -⟩ := validateArbiterSemantics_ok.mp hchecked
  unfold Schema.arbiterVerdict at hschema
  simp only [Bool.and_eq_true] at hschema
  obtain ⟨⟨⟨-, hsummary⟩, hrecommendation⟩, -⟩ := hschema
  exact ⟨ne_of_text hsummary, ne_of_text hrecommendation⟩

/-- What the two verdicts say of an id: the primary's residual, unresolved/open where
    the counterpart has another one, or the counterpart's alone. -/
theorem jointRecord_iff {primary counterpart : ArbiterVerdict}
    (hp : UniqueResidualIds primary.residuals) (hc : UniqueResidualIds counterpart.residuals)
    (r : Residual) :
    jointRecord primary counterpart r.id = some r ↔
      (∃ a ∈ primary.residuals,
        (r = a ∧ ∀ b ∈ counterpart.residuals, b.id = a.id → b = a)
          ∨ (r = conservativeUnresolved a ∧ ∃ b ∈ counterpart.residuals, b.id = a.id ∧ b ≠ a))
      ∨ (r ∈ counterpart.residuals ∧ ∀ a ∈ primary.residuals, a.id ≠ r.id) := by
  constructor
  · intro h
    unfold jointRecord at h
    cases ha : recordOf primary.residuals r.id with
    | none =>
      rw [ha] at h
      exact Or.inr ⟨recordOf_mem h, recordOf_eq_none.mp ha⟩
    | some a =>
      have hid := recordOf_id ha
      left
      refine ⟨a, recordOf_mem ha, ?_⟩
      cases hb : recordOf counterpart.residuals r.id with
      | none =>
        rw [ha, hb] at h
        obtain rfl := Option.some.inj h
        exact Or.inl ⟨rfl, fun b hmem heq => absurd heq (recordOf_eq_none.mp hb b hmem)⟩
      | some b =>
        rw [ha, hb] at h
        dsimp only at h
        by_cases heq : b = a
        · rw [if_pos heq] at h
          obtain rfl := Option.some.inj h
          refine Or.inl ⟨rfl, fun other hmem hother => ?_⟩
          -- the counterpart lists the id once
          have hsame := (recordOf_eq_some hc hmem).symm.trans (hother ▸ hb)
          exact (Option.some.inj hsame).trans heq
        · rw [if_neg heq] at h
          exact Or.inr ⟨(Option.some.inj h).symm, b, recordOf_mem hb,
            (recordOf_id hb).trans hid.symm, heq⟩
  · rintro (⟨a, ha, hcase⟩ | ⟨hb, hnone⟩)
    · have hrecord := recordOf_eq_some hp ha
      rcases hcase with ⟨rfl, hsame⟩ | ⟨rfl, b, hb, hid, hne⟩
      · unfold jointRecord
        rw [hrecord]
        cases hb : recordOf counterpart.residuals r.id with
        | none => rfl
        | some b =>
          have heq : b = r := hsame b (recordOf_mem hb) (recordOf_id hb)
          dsimp only
          rw [if_pos heq]
      · have hother := recordOf_eq_some hc hb
        rw [hid] at hother
        rw [conservative_id, jointRecord, hrecord, hother]
        dsimp only
        rw [if_neg hne]
    · rw [jointRecord, recordOf_eq_none.mpr hnone]
      exact recordOf_eq_some hc hb

/-- **The residuals of a result**: the primary's, the counterpart's other ones, and
    the lanes' first ones of the ids that both omit. -/
theorem merged_residual_iff {primary counterpart : ArbiterVerdict}
    (hp : UniqueResidualIds primary.residuals) (hc : UniqueResidualIds counterpart.residuals)
    (r1 r2 : List LaneAccepted) (r : Residual) :
    r ∈ listing (mergeResiduals r1 r2 primary counterpart).table ↔
      (∃ a ∈ primary.residuals,
        (r = a ∧ ∀ b ∈ counterpart.residuals, b.id = a.id → b = a)
          ∨ (r = conservativeUnresolved a ∧ ∃ b ∈ counterpart.residuals, b.id = a.id ∧ b ≠ a))
      ∨ (r ∈ counterpart.residuals ∧ ∀ a ∈ primary.residuals, a.id ≠ r.id)
      ∨ ∃ c, recordOf (highRisk (r1 ++ r2)) c.id = some c ∧ Omitted primary counterpart c.id
        ∧ r = conservativeUnresolved c := by
  rw [mem_listing (merged_keyed hp hc r1 r2), merged_getElem? hp hc, Option.or_eq_some_iff,
    jointRecord_iff hp hc, jointRecord_eq_none, or_assoc]
  refine or_congr_right (or_congr_right ?_)
  constructor
  · rintro ⟨homitted, hlane⟩
    obtain ⟨c, hrecord, rfl⟩ := Option.map_eq_some_iff.mp hlane
    rw [conservative_id] at homitted hrecord
    exact ⟨c, hrecord, homitted, rfl⟩
  · rintro ⟨c, hrecord, homitted, rfl⟩
    rw [conservative_id, hrecord]
    exact ⟨homitted, rfl⟩

theorem withinBound_nil : WithinBound [] := fun _ h => nomatch h

/-- The bound that the schemas leave open, over the residuals of the result. -/
theorem references_iff {primary counterpart : ArbiterVerdict}
    (hp : UniqueResidualIds primary.residuals) (hc : UniqueResidualIds counterpart.residuals)
    (r1 r2 : List LaneAccepted) :
    (∀ r ∈ listing (mergeResiduals r1 r2 primary counterpart).table,
        WithinBound r.evidenceRefs ∧ WithinBound r.closureEvidence) ↔
      References r1 r2 primary counterpart := by
  constructor
  · intro h
    refine ⟨fun a ha => ?_, fun b hb hnone => ?_, fun c hrecord homitted => ?_⟩
    · by_cases hsame : ∀ b ∈ counterpart.residuals, b.id = a.id → b = a
      · have hlisted := (merged_residual_iff hp hc r1 r2 a).mpr
          (Or.inl ⟨a, ha, Or.inl ⟨rfl, hsame⟩⟩)
        obtain ⟨hevidence, hclosure⟩ := h a hlisted
        exact ⟨hevidence, Or.inl hclosure⟩
      · push Not at hsame
        have hlisted := (merged_residual_iff hp hc r1 r2 (conservativeUnresolved a)).mpr
          (Or.inl ⟨a, ha, Or.inr ⟨rfl, hsame⟩⟩)
        exact ⟨(h _ hlisted).1, Or.inr hsame⟩
    · exact h b ((merged_residual_iff hp hc r1 r2 b).mpr (Or.inr (Or.inl ⟨hb, hnone⟩)))
    · have hlisted := (merged_residual_iff hp hc r1 r2 (conservativeUnresolved c)).mpr
        (Or.inr (Or.inr ⟨c, hrecord, homitted, rfl⟩))
      exact (h _ hlisted).1
  · intro h r hr
    rcases (merged_residual_iff hp hc r1 r2 r).mp hr with ⟨a, ha, hcase⟩ | ⟨hb, hnone⟩ |
      ⟨c, hrecord, homitted, rfl⟩
    · obtain ⟨hevidence, hclosure⟩ := h.ofPrimary a ha
      rcases hcase with ⟨rfl, hsame⟩ | ⟨rfl, -⟩
      · rcases hclosure with hclosure | ⟨b, hb, hid, hne⟩
        · exact ⟨hevidence, hclosure⟩
        · exact absurd (hsame b hb hid) hne
      · exact ⟨hevidence, withinBound_nil⟩
    · exact h.ofCounterpart r hb hnone
    · exact ⟨h.ofLanes c hrecord homitted, withinBound_nil⟩

/-- What the schemas do bound of the residuals of the result. -/
theorem residualFields_of_listed {primary counterpart : ArbiterVerdict} {r1 r2 : List LaneAccepted}
    (hp : VerdictAccepted valid primary) (hc : VerdictAccepted valid counterpart)
    (hlanes : ∀ lane ∈ r1 ++ r2, OutputAccepted valid lane.output) :
    ∀ r ∈ listing (mergeResiduals r1 r2 primary counterpart).table, residualFields r = true := by
  intro r hr
  rcases (merged_residual_iff hp.unique hc.unique r1 r2 r).mp hr with ⟨a, ha, hcase⟩ | ⟨hb, -⟩ |
    ⟨c, hrecord, -, rfl⟩
  · have hfields := hp.residuals a ha
    rcases hcase with ⟨rfl, -⟩ | ⟨rfl, -⟩
    · exact hfields
    · exact residualFields_conservative hfields
  · exact hc.residuals r hb
  · have hmem := (List.mem_filter.mp (recordOf_mem hrecord)).1
    obtain ⟨lane, hlane, hreported⟩ := List.mem_flatMap.mp hmem
    exact residualFields_conservative ((hlanes lane hlane).residuals c hreported)

end residuals

/-! ### The brief -/

section brief

open Wire Json.Schema
open Finance (Bytes Platform)

variable {P : Platform} {publish : Brief → Except String Unit} {bytes : Bytes} {brief typed : Brief}
  {digest : String} {v : Json}

/-- A member that is a text satisfies what its schema asks of texts. -/
theorem requiredText_test {schemas : List (String × Json.Schema)} {test : String → Bool}
    {name s : String} (h : (properties schemas).accepts v = true)
    (hschema : (name, textWith test) ∈ schemas) (htext : requiredText v name = some s) :
    test s = true := by
  obtain ⟨w, hget, hw⟩ := Option.bind_eq_some_iff.mp htext
  cases v with
  | obj members =>
    have hmember := accepts_member h name _ hschema hget
    cases w with
    | str text =>
      obtain rfl := Option.some.inj hw
      exact hmember
    | null | bool b | int n | float text | arr items | obj members => cases hw
  | null | bool b | int n | float text | str s | arr items => cases hget

theorem optionalText_test {schemas : List (String × Json.Schema)} {test : String → Bool}
    {name : String} {o : Option String} (h : (properties schemas).accepts v = true)
    (hschema : (name, orNull (textWith test)) ∈ schemas) (htext : optionalText v name = some o) :
    o.all test = true := by
  unfold optionalText at htext
  cases v with
  | obj members =>
    cases hget : Json.get (.obj members) name with
    | none =>
      rw [hget] at htext
      obtain rfl := Option.some.inj htext
      rfl
    | some w =>
      have hmember := accepts_member h name _ hschema hget
      rw [hget] at htext
      cases w with
      | null =>
        obtain rfl := Option.some.inj htext
        rfl
      | str text =>
        obtain rfl := Option.some.inj htext
        rw [orNull, oneOf_pair] at hmember
        simpa [Json.Schema.null, textWith] using hmember
      | bool b | int n | float text | arr items | obj members => cases htext
  | null | bool b | int n | float text | str s | arr items =>
    obtain rfl := Option.some.inj htext
    rfl

theorem defaultTexts_test {schemas : List (String × Json.Schema)} {test : String → Bool}
    {name : String} {high : Nat} {texts : List String} (h : (properties schemas).accepts v = true)
    (hschema : (name, both (textsUpTo (textWith test) high) uniqueItems) ∈ schemas)
    (htexts : defaultTexts v name = some texts) :
    texts.length ≤ high ∧ texts.Nodup ∧ texts.all test = true := by
  unfold defaultTexts at htexts
  cases v with
  | obj members =>
    cases hget : Json.get (.obj members) name with
    | none =>
      rw [hget] at htexts
      obtain rfl := Option.some.inj htexts
      simp
    | some w =>
      have hmember := accepts_member h name _ hschema hget
      rw [hget] at htexts
      cases w with
      | arr items =>
        obtain rfl := Contest.mapM_asStr htexts
        obtain ⟨hitems, hunique⟩ := Bool.and_eq_true_iff.mp hmember
        obtain ⟨hall, hcount⟩ := Bool.and_eq_true_iff.mp hitems
        have hnodup : ((texts.map Json.str).map Json.sorted).Nodup := of_decide_eq_true hunique
        rw [List.map_map] at hnodup
        refine ⟨?_, hnodup.of_map _, ?_⟩
        · simpa [count] using hcount
        · simpa [Json.Schema.items, textWith, Function.comp_def] using hall
      | null | bool b | int n | float text | str s | obj members => cases htexts
  | null | bool b | int n | float text | str s | arr items =>
    obtain rfl := Option.some.inj htexts
    simp

theorem textBetween_eq (low high : Nat) : textBetween low high = textWith (text low high) := rfl

/-- What the schemas of briefs say of the fields that the result takes over. -/
structure BriefBounds (brief : Brief) : Prop where
  question : text 1 20000 brief.question = true
  scope : brief.actionScope.all (text 0 2000) = true
  paths : brief.affectedPaths.length ≤ 1000 ∧ brief.affectedPaths.Nodup
    ∧ brief.affectedPaths.all (text 1 4000) = true
  binding : brief.actionBindingSha256.all (sha256Pattern "sha256:") = true

theorem typed_bounds (hvalid : validateBriefValue v = .ok ()) (h : briefFromValue v = some typed) :
    BriefBounds typed := by
  unfold briefFromValue at h
  rw [Option.ite_none_right_eq_some] at h
  simp only [Option.bind_eq_bind, Option.bind_eq_some_iff, Option.pure_def,
    Option.some.injEq] at h
  obtain ⟨-, version, hversion, question, hquestion, context, -, roots, -, ignored, -,
    attachments, -, scope, hscope, paths, hpaths, binding, hbinding, rfl⟩ := h
  unfold validateBriefValue at hvalid
  split at hvalid
  case h_1 => cases hvalid
  case h_2 _ _ =>
    split at hvalid
    case isTrue =>
      have haccepts := Policy.require_ok.mp hvalid
      have hprops := properties_of_record haccepts
      -- the legacy revision has no paths and no binding
      have hnone := get_eq_none_of_record "affected_paths" haccepts (by decide)
      have hnone' := get_eq_none_of_record "action_binding_sha256" haccepts (by decide)
      unfold defaultTexts at hpaths
      unfold optionalText at hbinding
      rw [hnone] at hpaths
      rw [hnone'] at hbinding
      obtain rfl := Option.some.inj hpaths
      obtain rfl := Option.some.inj hbinding
      exact ⟨requiredText_test hprops (by simp [briefProperties, textBetween_eq]) hquestion,
        optionalText_test hprops (by simp [briefProperties, textBetween_eq]) hscope,
        by simp, rfl⟩
    case isFalse =>
      split at hvalid
      case isTrue =>
        have hprops := properties_of_record (Policy.require_ok.mp hvalid)
        exact ⟨requiredText_test hprops (by simp [briefProperties, textBetween_eq]) hquestion,
          optionalText_test hprops (by simp [briefProperties, textBetween_eq]) hscope,
          defaultTexts_test hprops (by simp [briefProperties, textBetween_eq]) hpaths,
          optionalText_test hprops (by simp [Finance.Schemas.digest]) hbinding⟩
      case isFalse => cases hvalid

/-- The brief of a run. A binding that is derived is a digest too. -/
theorem brief_bounds (hdigest : ∀ bytes, sha256Pattern "sha256:" (P.sha256 bytes) = true)
    (h : createFromBriefBytes P publish bytes = .ok (brief, digest)) : BriefBounds brief := by
  obtain ⟨text, v, typed, derived, -, -, hvalid, htyped, hderived, rfl, -⟩ :=
    createFromBriefBytes_ok h
  obtain ⟨hquestion, hscope, hpaths, hbinding⟩ := typed_bounds hvalid htyped
  refine ⟨hquestion, hscope, hpaths, ?_⟩
  rw [intakeActionBinding_eq] at hderived
  obtain rfl := Except.ok.inj hderived
  cases hsupplied : typed.actionBindingSha256 with
  | none => exact hdigest _
  | some binding =>
    rw [hsupplied] at hbinding
    exact hbinding

end brief

/-! ### The trial manifest -/

section trial

variable {valid : List String} {policy : Policy} {phase : String} {lanes r1 r2 : List LaneAccepted}

theorem PhaseAccepted.artifactRef_ne (h : PhaseAccepted valid phase policy lanes) :
    ∀ lane ∈ lanes, lane.artifactRef ≠ "" := by
  intro lane hlane hempty
  obtain ⟨outputs, hperm⟩ := h.order
  obtain ⟨route, -, rfl⟩ := List.mem_map.mp (hperm.mem_iff.mp hlane)
  have hlength := congrArg String.length hempty
  simp [laneAccepted] at hlength

theorem PhaseAccepted.covers (h : PhaseAccepted valid phase policy lanes) :
    ∀ route ∈ policy.roster, ∃ lane ∈ lanes, lane.routeId = route.routeId := by
  intro route hroute
  obtain ⟨outputs, hperm⟩ := h.order
  exact ⟨_, hperm.mem_iff.mpr (List.mem_map.mpr ⟨route, hroute, rfl⟩), rfl⟩

theorem PhaseAccepted.length_eq (h : PhaseAccepted valid phase policy lanes) :
    lanes.length = policy.roster.length := by
  obtain ⟨outputs, hperm⟩ := h.order
  rw [hperm.length_eq, rosterLanes, List.length_map]

/-- The routes of a valid roster are the five parties'. -/
theorem roster_ok (h : policy.validate = .ok ()) : policy.roster.length = 5
    ∧ ∀ route ∈ policy.roster, route.partyId ∈ lanePartyIds ∧ route.routeId ≠ "" := by
  simp only [Policy.validate, Policy.bind_unit_ok, Policy.require_ok] at h
  obtain ⟨-, hfive, -, h⟩ := h
  obtain ⟨_, hroster, -⟩ := Policy.bind_ok.mp h
  have hlength : policy.roster.length = 5 := by simpa using hfive
  refine ⟨hlength, fun route hroute => ?_⟩
  obtain ⟨hparty, hid⟩ := Policy.validateRoster_ok hroster (by simp [hlength]) route hroute
  refine ⟨hparty, ?_⟩
  unfold Policy.validateRouteId at hid
  rw [Policy.require_ok] at hid
  simp only [Bool.and_eq_true, bne_iff_ne] at hid
  exact hid.1.1.1

theorem perspectives_of_mapM {routes : List RoutePolicy} {perspectives : List TrialPerspective}
    (h : routes.mapM (trialPerspective r1 r2) = some perspectives) :
    perspectives.length = routes.length
      ∧ ∀ p ∈ perspectives, ∃ route ∈ routes, trialPerspective r1 r2 route = some p := by
  induction routes generalizing perspectives with
  | nil =>
    obtain rfl := Option.some.inj h
    exact ⟨rfl, fun p hp => nomatch hp⟩
  | cons route routes ih =>
    rw [List.mapM_cons] at h
    obtain ⟨first, hfirst, h⟩ := Option.bind_eq_some_iff.mp h
    obtain ⟨rest, hrest, h⟩ := Option.bind_eq_some_iff.mp h
    obtain rfl := Option.some.inj h
    obtain ⟨hlength, hroutes⟩ := ih hrest
    refine ⟨congrArg (· + 1) hlength, List.forall_mem_cons.mpr ⟨⟨route, by simp, hfirst⟩, ?_⟩⟩
    intro p hp
    obtain ⟨other, hother, hp⟩ := hroutes p hp
    exact ⟨other, List.mem_cons_of_mem _ hother, hp⟩

/-- The perspective of a route matches the schema. -/
theorem trialPerspective_valid {route : RoutePolicy} {p : TrialPerspective}
    (hparty : route.partyId ∈ lanePartyIds) (hid : route.routeId ≠ "")
    (h1 : ∀ lane ∈ r1, lane.artifactRef ≠ "") (h2 : ∀ lane ∈ r2, lane.artifactRef ≠ "")
    (h : trialPerspective r1 r2 route = some p) : Schema.trialPerspective p = true := by
  obtain ⟨lane, hlane, h⟩ := Option.bind_eq_some_iff.mp h
  obtain rfl := Option.some.inj h
  have hfirst := h1 lane (List.mem_of_find?_eq_some hlane)
  have hsecond : ((r2.find? fun lane => lane.routeId = route.routeId).map
      (·.artifactRef)).getD "r2/skipped.json" ≠ "" := by
    cases hfind : r2.find? fun lane => lane.routeId = route.routeId with
    | none => decide
    | some other => exact h2 other (List.mem_of_find?_eq_some hfind)
  unfold Schema.trialPerspective
  simp only [Bool.and_eq_true, bne_iff_ne, List.contains_iff_mem]
  exact ⟨⟨⟨⟨hparty, hid⟩, hfirst⟩, hsecond⟩, trivial⟩

theorem baseModelRelation_mem (policy : Policy) :
    baseModelRelation policy ∈ ["same_model", "same_family", "different_family"] := by
  unfold baseModelRelation
  dsimp only
  split
  · simp
  · split <;> simp

theorem r1Contestation_length_le (r1 : List LaneAccepted) :
    (r1Contestation r1).length ≤ r1.length := by
  unfold r1Contestation
  split
  · simp
  · rw [marked_length]
    refine List.count_le_length.trans ?_
    simp [r1Flags]

/-- A key that is listed occurs. -/
theorem one_le_of_mem_tally {ks : List String} {e : String × Nat} (h : e ∈ (tally ks).toList) :
    1 ≤ e.2 := by
  obtain ⟨k, n⟩ := e
  rw [TreeMap.mem_toList_iff_getElem?_eq_some, tally_getElem?] at h
  obtain ⟨hmem, hcount⟩ := Option.ite_none_right_eq_some.mp h
  obtain rfl := Option.some.inj hcount
  exact List.count_pos_iff.mpr hmem

/-- The observables of a phase with lanes match the schema. -/
theorem observedContestation_valid (r1 r2 : List LaneAccepted) (hlanes : 1 ≤ r1.length) :
    Schema.observedContestation (observedContestation r1 r2) = true := by
  have hpositive : (0 : ℚ) < r1.length := by exact_mod_cast hlanes
  have hle : ((r1Contestation r1).length : ℚ) ≤ r1.length := by
    exact_mod_cast r1Contestation_length_le r1
  unfold Schema.observedContestation observedContestation
  simp only [Bool.and_eq_true, decide_eq_true_eq, Nat.max_eq_left hlanes]
  exact ⟨hlanes, by positivity, div_le_one_of_le₀ hle hpositive.le⟩

end trial

/-! ### The theorem -/

section contract

open Wire
open Finance (Bytes Platform)

variable {valid : List String} {manifest : RunManifest} {brief : Brief} {policy : Policy}
  {r1 r2 : List LaneAccepted} {primary counterpart : ArbiterVerdict}

/-- The documents of a run whose evidence was accepted. -/
structure EvidenceAccepted (valid : List String) (policy : Policy) (r1 r2 : List LaneAccepted)
    (primary counterpart : ArbiterVerdict) : Prop where
  first : PhaseAccepted valid "R1" policy r1
  second : r2 = [] ∨ PhaseAccepted valid "R2" policy r2
  primary : VerdictAccepted valid primary
  counterpart : VerdictAccepted valid counterpart

theorem EvidenceAccepted.outputs
    (h : EvidenceAccepted valid policy r1 r2 primary counterpart) :
    ∀ lane ∈ r1 ++ r2, OutputAccepted valid lane.output := by
  intro lane hlane
  rcases List.mem_append.mp hlane with hfirst | hsecond
  · exact h.first.outputs lane hfirst
  · rcases h.second with rfl | h2
    · cases hsecond
    · exact h2.outputs lane hsecond

/-- `unwrap` finds the lane of every route. -/
theorem EvidenceAccepted.merges (h : EvidenceAccepted valid policy r1 r2 primary counterpart)
    (manifest : RunManifest) (brief : Brief) :
    ∃ result, mergeVerdicts manifest brief policy r1 r2 primary counterpart = some result := by
  rw [← Option.ne_none_iff_exists', Ne, mergeVerdicts_eq_none]
  rintro ⟨route, hroute, hnone⟩
  obtain ⟨lane, hlane, hid⟩ := h.first.covers route hroute
  exact hnone lane hlane hid

theorem EvidenceAccepted.trial {result : ResultEnvelope}
    (h : EvidenceAccepted valid policy r1 r2 primary counterpart)
    (hpolicy : policy.validate = .ok ())
    (hmerge : mergeVerdicts manifest brief policy r1 r2 primary counterpart = some result) :
    Schema.trialManifest result.trialManifest = true
      ∧ result.trialManifest.observedContestation = some (observedContestation r1 r2) := by
  obtain ⟨perspectives, hps, hmerge⟩ := Option.bind_eq_some_iff.mp hmerge
  obtain rfl := Option.some.inj hmerge
  refine ⟨?_, rfl⟩
  obtain ⟨hfive, hroutes⟩ := roster_ok hpolicy
  obtain ⟨hlength, hof⟩ := perspectives_of_mapM hps
  have hrefs2 : ∀ lane ∈ r2, lane.artifactRef ≠ "" := by
    rcases h.second with rfl | h2
    · simp
    · exact h2.artifactRef_ne
  have hperspectives : perspectives.all Schema.trialPerspective = true := by
    rw [List.all_eq_true]
    intro p hp
    obtain ⟨route, hroute, hp⟩ := hof p hp
    obtain ⟨hparty, hid⟩ := hroutes route hroute
    exact trialPerspective_valid hparty hid h.first.artifactRef_ne hrefs2 hp
  have hlanes : 1 ≤ r1.length := by
    rw [h.first.length_eq, hfive]
    omega
  have hobserved := observedContestation_valid r1 r2 hlanes
  unfold Schema.trialManifest
  simp only [Bool.and_eq_true, beq_iff_eq, List.contains_iff_mem, Option.all_some]
  exact ⟨⟨⟨⟨trivial, baseModelRelation_mem policy⟩, trivial⟩, hlength.trans hfive, hperspectives⟩,
    hobserved⟩

/-- The schema of the result asks for no more than the one of its residuals. -/
theorem EvidenceAccepted.schema_iff {result : ResultEnvelope}
    (h : EvidenceAccepted valid policy r1 r2 primary counterpart)
    (hpolicy : policy.validate = .ok ()) (hbrief : BriefBounds brief)
    (hmanifest : Published manifest)
    (hmerge : mergeVerdicts manifest brief policy r1 r2 primary counterpart = some result) :
    resultSchema result = true ↔ result.residuals.all Schema.residual = true := by
  obtain ⟨htrial, hobserved⟩ := h.trial hpolicy hmerge
  have hsaved := hmanifest.saved
  unfold Schema.runManifest at hsaved
  simp only [Bool.and_eq_true] at hsaved
  obtain ⟨⟨⟨⟨⟨⟨-, hseat⟩, hlength, hroutes⟩, -⟩, -⟩, -⟩, -⟩ := hsaved
  obtain ⟨hsummary, hrecommendation⟩ := h.primary.texts
  obtain ⟨hcount, hnodup, hpaths⟩ := hbrief.paths
  have hcounts : ((observedContestation r1 r2).verdictDistribution.all fun e => 1 ≤ e.2) = true
      ∧ ((observedContestation r1 r2).residualAttestations.all fun e => 1 ≤ e.2) = true := by
    constructor
    · exact List.all_eq_true.mpr fun e he => decide_eq_true (one_le_of_mem_tally he)
    · exact List.all_eq_true.mpr fun e he => decide_eq_true (one_le_of_mem_tally he)
  unfold resultSchema
  rw [hobserved, Option.all_some, hcounts.1, hcounts.2]
  obtain ⟨perspectives, hps, hmerge⟩ := Option.bind_eq_some_iff.mp hmerge
  obtain rfl := Option.some.inj hmerge
  unfold Schema.result
  simp only [hbrief.question, hbrief.scope, hbrief.binding, hcount, hnodup, hpaths, hseat, hlength,
    hroutes, htrial, hmanifest.named, hsummary, hrecommendation, Bool.and_true, Bool.true_and,
    bne_iff_ne, ne_eq, not_false_eq_true, decide_true, Bool.and_eq_true, beq_self_eq_true,
    Bool.true_or, true_and, and_true]

theorem EvidenceAccepted.resultSchema_iff {result : ResultEnvelope}
    (h : EvidenceAccepted valid policy r1 r2 primary counterpart)
    (hpolicy : policy.validate = .ok ()) (hbrief : BriefBounds brief)
    (hmanifest : Published manifest)
    (hmerge : mergeVerdicts manifest brief policy r1 r2 primary counterpart = some result) :
    resultSchema result = true ↔ References r1 r2 primary counterpart := by
  rw [h.schema_iff hpolicy hbrief hmanifest hmerge, (mergeVerdicts_some hmerge).1, List.all_eq_true,
    ← references_iff h.primary.unique h.counterpart.unique r1 r2]
  have hfields := residualFields_of_listed h.primary h.counterpart h.outputs
  refine forall₂_congr fun r hr => ?_
  rw [residual_iff]
  exact and_iff_right (hfields r hr)

/-- `write_run_result` ends in the merge and its schema. -/
theorem writtenResult_ok {s : RunDir} {result : ResultEnvelope}
    (hcc : s.ccResponse = some counterpart) (hunique : UniqueResidualIds counterpart.residuals) :
    writtenResult s manifest r1 r2 primary = .ok result ↔
      mergeVerdicts manifest s.inputs.brief s.inputs.policy r1 r2 primary counterpart = some result
        ∧ resultSchema result = true := by
  unfold writtenResult Run.mergedResult
  rw [hcc]
  dsimp only
  rw [Adapter.validateUniqueIds_ok.mpr hunique]
  constructor
  · intro h
    obtain ⟨merged, hmerged, h⟩ := Policy.bind_ok.mp h
    obtain ⟨hschema, h⟩ := Policy.bind_unit_ok.mp h
    obtain rfl := Except.ok.inj h
    obtain ⟨-, hmerged⟩ := Policy.bind_unit_ok.mp hmerged
    split at hmerged
    case h_1 => cases hmerged
    case h_2 other hmerge =>
      obtain ⟨-, hmerged⟩ := Policy.bind_unit_ok.mp hmerged
      obtain rfl := Except.ok.inj hmerged
      exact ⟨hmerge, Policy.require_ok.mp hschema⟩
  · intro ⟨hmerge, hschema⟩
    have hresult := (Bool.and_eq_true_iff.mp (Bool.and_eq_true_iff.mp hschema).1).1
    refine Policy.bind_ok.mpr ⟨result, ?_, ?_⟩
    · rw [hmerge]
      exact Policy.bind_unit_ok.mpr ⟨rfl, Policy.bind_unit_ok.mpr
        ⟨Policy.require_ok.mpr hresult, rfl⟩⟩
    · exact Policy.bind_unit_ok.mpr ⟨Policy.require_ok.mpr hschema, rfl⟩

/-- **The merge and its contract**: where the evidence of a run was accepted,
    `merge_verdicts` does not panic, and its result passes the schema exactly
    when the references of the residuals that it lists are within their bound. -/
theorem merge_validates_iff (P : Platform)
    (hdigest : ∀ bytes, sha256Pattern "sha256:" (P.sha256 bytes) = true)
    (publish : Brief → Except String Unit) (bytes : Bytes) (digest : String) (s : RunDir)
    (hbrief : createFromBriefBytes P publish bytes = .ok (s.inputs.brief, digest))
    (hpolicy : s.inputs.policy.validate = .ok ()) (manifest : RunManifest)
    (hmanifest : Published manifest) (r1 r2 : List LaneAccepted)
    (primary counterpart : ArbiterVerdict) (hcc : s.ccResponse = some counterpart)
    (h : EvidenceAccepted (allowedEvidenceRefs s.inputs.snapshot) s.inputs.policy r1 r2
      primary counterpart) :
    (∃ result, mergeVerdicts manifest s.inputs.brief s.inputs.policy r1 r2 primary counterpart
        = some result)
      ∧ ((∃ result, writtenResult s manifest r1 r2 primary = .ok result) ↔
        References r1 r2 primary counterpart) := by
  obtain ⟨result, hmerge⟩ := h.merges manifest s.inputs.brief
  have hschema := h.resultSchema_iff hpolicy (brief_bounds hdigest hbrief) hmanifest hmerge
  refine ⟨⟨result, hmerge⟩, ?_⟩
  simp only [writtenResult_ok hcc h.counterpart.unique, hmerge, Option.some.injEq]
  rw [← hschema]
  simp

end contract

/-! #### A reference that a repair makes longer -/

section citing

open Wire

/-- A reference of `11 + n` characters. -/
def longReference (n : Nat) : String := "snapshot://" ++ String.ofList (List.replicate n 'a')

theorem longReference_length (n : Nat) : (longReference n).length = 11 + n := by
  have hrest : (String.ofList (List.replicate n 'a')).length = n := by simp
  rw [longReference, String.length_append, hrest]
  rfl

theorem longReference_injective : Function.Injective longReference := by
  intro m n h
  have hlength := congrArg String.length h
  rw [longReference_length, longReference_length] at hlength
  omega

theorem edits_refl {α : Type} (xs : List α) : EditDistance.Edits 0 xs xs := by
  induction xs with
  | nil => exact .nil
  | cons x xs ih => exact ih.keep x

/-- A character is missing, and no other reference is there. -/
theorem remapped_longReference (n : Nat) :
    remapped [longReference (n + 1)] (longReference n) = some (longReference (n + 1)) := by
  have hscheme : (longReference n).startsWith "snapshot://" = true := by
    rw [String.startsWith_string_iff]
    simp [longReference]
  have hne : longReference n ≠ longReference (n + 1) := fun h => by
    have := longReference_injective h
    omega
  have hdistance : levenshtein (longReference n) (longReference (n + 1)) ≤ 1 := by
    rw [levenshtein_eq]
    apply EditDistance.editDistance_le
    simp only [longReference, String.toList_append, String.toList_ofList, List.replicate_succ]
    exact (edits_refl _).append ((edits_refl _).insert 'a')
  have hempty : longReference n ≠ "" := fun h => by
    have hlength := congrArg String.length h
    rw [longReference_length] at hlength
    simp at hlength
  unfold remapped
  rw [if_neg (by simp [hempty, hscheme]), bestRefRemap_eq_some (by simp)]
  exact ⟨by simpa using hne, by simp, by omega, by simp⟩

/-- A residual with one reference. -/
def citing (n : Nat) : Residual :=
  { sampleResidual "x" "leak" with evidenceRefs := [longReference n], closureEvidence := [] }

/-- A run whose snapshot is one file, and whose counterpart arbiter cites it. -/
def citingRun (n : Nat) : RunDir :=
  { sampleDir .merging with
    inputs := {
      brief := Contest.boundBrief
      policy := Policy.samplePolicy "a"
      snapshot := { (default : SnapshotManifest) with
        entries := [{ (default : SnapshotEntry) with snapshotRef := longReference n }]
        attachments := [] }
      snapshotFile := fun _ => none }
    ccResponse := some (sampleVerdict [citing n]) }

def citingLanes : List LaneAccepted :=
  rosterLanes "R1" (Policy.samplePolicy "a") fun routeId => (sampleLane routeId []).output

/-- A platform whose digests have the format of digests. -/
def formatted : Finance.Platform :=
  { Finance.Platform.verbatim with
    sha256 := fun _ => String.ofList ("sha256:".toList ++ List.replicate 64 'a') }

theorem formatted_digest (bytes : Finance.Bytes) :
    sha256Pattern "sha256:" (formatted.sha256 bytes) = true := by
  show sha256Pattern "sha256:" (String.ofList ("sha256:".toList ++ List.replicate 64 'a')) = true
  decide +kernel

theorem allowedEvidenceRefs_citingRun (n : Nat) :
    allowedEvidenceRefs (citingRun n).inputs.snapshot = [longReference n] := by
  simp [allowedEvidenceRefs, citingRun]

theorem evidenceAccepted_citingRun {n : Nat} (hn : n ≤ 989) :
    EvidenceAccepted (allowedEvidenceRefs (citingRun (n + 1)).inputs.snapshot)
      (Policy.samplePolicy "a") citingLanes [] (sampleVerdict [])
      (sampleVerdict [citing (n + 1)]) := by
  rw [allowedEvidenceRefs_citingRun]
  refine ⟨⟨⟨_, .refl _⟩, ?_⟩, Or.inl rfl, ?_, ?_⟩
  · intro lane hlane
    obtain ⟨route, -, rfl⟩ := List.mem_map.mp hlane
    have hschema : Schema.laneOutput (sampleLane "" []).output = true := by decide +kernel
    exact ⟨(sampleLane "" []).output, [], hschema, rfl⟩
  · exact ⟨sampleVerdict [], [], by decide +kernel, rfl⟩
  · refine ⟨sampleVerdict [citing n], [(longReference n, longReference (n + 1))], ?_, ?_⟩
    · have hfields : residualFields (citing n) = true := by
        show residualFields (citing 0) = true
        decide +kernel
      have hbound : WithinBound (citing n).evidenceRefs := by
        intro reference hr
        obtain rfl := List.mem_singleton.mp hr
        rw [longReference_length]
        omega
      have hresidual : Schema.residual (citing n) = true :=
        (residual_iff _).mpr ⟨hfields, hbound, withinBound_nil⟩
      have htexts : Schema.arbiterVerdict (sampleVerdict []) = true := by decide +kernel
      simp only [Schema.arbiterVerdict, sampleVerdict] at htexts ⊢
      simpa [hresidual] using htexts
    · have hremap : remapEvidenceRefs [longReference (n + 1)] [longReference n]
          = ([longReference (n + 1)], [(longReference n, longReference (n + 1))]) := by
        simp [remapEvidenceRefs, remapped_longReference]
      have hnone : remapEvidenceRefs [longReference (n + 1)] [] = ([], []) := rfl
      refine validateArbiterSemantics_ok.mpr ⟨rfl, ?_, ?_, ?_⟩
      · simp [sampleVerdict, remapResidual, citing, hremap, hnone, Resolvable]
      · simp [sampleVerdict, remapResidual, citing, hremap, hnone]
      · simp [sampleVerdict, residualPairs, citing, hremap, hnone]

theorem created_citingRun (n : Nat) :
    createFromBriefBytes formatted (fun _ => .ok ()) (briefBytes Contest.boundBrief)
      = .ok ((citingRun n).inputs.brief, formatted.sha256 (briefBytes Contest.boundBrief)) := by
  have hparse : parseBrief formatted (briefBytes Contest.boundBrief) = .ok Contest.boundBrief :=
    parseBrief_ok.mpr
      ⟨_, _, Finance.fromUtf8_utf8 _, Contest.read_boundBrief, by decide +kernel, rfl⟩
  rw [createFromBriefBytes, intakeBrief, hparse]
  rfl

theorem validate_samplePolicy : (Policy.samplePolicy "a").validate = .ok () := by decide +kernel

theorem published_sample : Published (sampleManifest .merging) := ⟨by decide, by decide +kernel⟩

/-- A citation that is repaired, of a name that is not long. -/
theorem merge_validates_iff_citing :
    (∃ result, mergeVerdicts (sampleManifest .merging) Contest.boundBrief
        (Policy.samplePolicy "a") citingLanes [] (sampleVerdict []) (sampleVerdict [citing 4])
          = some result)
      ∧ ((∃ result, writtenResult (citingRun 4) (sampleManifest .merging) citingLanes []
          (sampleVerdict []) = .ok result) ↔
        References citingLanes [] (sampleVerdict []) (sampleVerdict [citing 4])) :=
  merge_validates_iff formatted formatted_digest (fun _ => .ok ())
    (briefBytes Contest.boundBrief) _ (citingRun 4) (created_citingRun 4) validate_samplePolicy
    (sampleManifest .merging) published_sample citingLanes [] (sampleVerdict [])
    (sampleVerdict [citing 4]) rfl (evidenceAccepted_citingRun (by decide))

/-- The counterpart arbiter cites a file by 1000 characters, and leaves out one. -/
theorem merge_fails_own_contract :
    ¬ ∀ (P : Finance.Platform) (publish : Brief → Except String Unit) (bytes : Finance.Bytes)
        (digest : String) (s : RunDir) (manifest : RunManifest) (r1 r2 : List LaneAccepted)
        (primary counterpart : ArbiterVerdict),
      (∀ bytes, sha256Pattern "sha256:" (P.sha256 bytes) = true) →
      createFromBriefBytes P publish bytes = .ok (s.inputs.brief, digest) →
      s.inputs.policy.validate = .ok () → Published manifest →
      s.ccResponse = some counterpart →
      EvidenceAccepted (allowedEvidenceRefs s.inputs.snapshot) s.inputs.policy r1 r2
        primary counterpart →
      ∃ result, writtenResult s manifest r1 r2 primary = .ok result := by
  intro hall
  have haccepted := evidenceAccepted_citingRun (n := 989) le_rfl
  obtain ⟨result, hresult⟩ := hall formatted (fun _ => .ok ()) (briefBytes Contest.boundBrief) _
    (citingRun 990) (sampleManifest .merging) citingLanes [] (sampleVerdict [])
    (sampleVerdict [citing 990]) formatted_digest (created_citingRun 990)
    validate_samplePolicy published_sample rfl haccepted
  obtain ⟨hmerge, hschema⟩ := (writtenResult_ok rfl haccepted.counterpart.unique).mp hresult
  have hbounds := brief_bounds formatted_digest (created_citingRun 990)
  have hrefs := (haccepted.resultSchema_iff validate_samplePolicy hbounds published_sample
    hmerge).mp hschema
  -- the name that is cited for it has 1001 characters
  have hlong := (hrefs.ofCounterpart (citing 990) (List.mem_singleton_self _) (by
    simp [sampleVerdict])).1 (longReference 990) (List.mem_singleton_self _)
  rw [longReference_length] at hlong
  omega

end citing

end Quinte
