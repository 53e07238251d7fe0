import Mathlib
import Quinte.Model.Policy

/-! # Evidence references

    What a lane or an arbiter may cite: the references of the snapshot
    manifest.  A reference that misses one of them by at most three edits, and
    every other one by three more, is rewritten to it; `validate_evidence_refs`
    and `validate_arbiter_semantics` rewrite in place and return the pairs.
-/

namespace Quinte

/-- `validate_unique_ids`. -/
def validateUniqueIds (ids : List String) (kind : String) : Except String Unit :=
  go [] ids
where
  go (seen : List String) : List String → Except String Unit
    | [] => .ok ()
    | id :: ids =>
        if seen.contains id then .error ("duplicate " ++ kind ++ " id: " ++ id)
        else go (id :: seen) ids

/-- `allowed_evidence_refs`, in the order of the set. -/
def allowedEvidenceRefs (snapshot : SnapshotManifest) : List String :=
  (snapshot.entries.map (·.snapshotRef) ++ snapshot.attachments.map (·.attachmentRef)).dedup
    |>.insertionSort (· ≤ ·)

/-- `validate_evidence_reference`. -/
def validateEvidenceReference (valid : List String) (reference : String) : Except String Unit :=
  if reference = "" ∨ reference ∈ valid then .ok ()
  else .error ("unresolvable evidence reference: " ++ reference)

/-! ### Rewriting near misses -/

/-- The inner loop of `levenshtein`: the row of `c` after `prev`, behind the
    entry `left`. -/
def levenshteinRow (c : Char) : List Char → List Nat → Nat → List Nat
  | d :: b, diagonal :: above :: prev, left =>
      let entry := min (min (diagonal + if c ≠ d then 1 else 0) (above + 1)) (left + 1)
      entry :: levenshteinRow c b (above :: prev) entry
  | _, _, _ => []

def levenshtein (a b : String) : Nat :=
  let rows := a.toList.zipIdx.foldl
    (fun prev (c, i) => (i + 1) :: levenshteinRow c b.toList prev (i + 1))
    (List.range (b.length + 1))
  rows.getLast?.getD 0

/-- The loop of `best_ref_remap`: the nearest candidate with its distance, and
    the distance of the runner-up (`none` for `usize::MAX`). -/
def nearest (reference : String) (valid : List String) : Option (String × Nat) × Option Nat :=
  valid.foldl (fun (best, second) candidate =>
    let distance := levenshtein reference candidate
    match best with
    | some (found, bestDistance) =>
        if bestDistance ≤ distance then
          (some (found, bestDistance), if second.all (distance < ·) then some distance else second)
        else (some (candidate, distance), some bestDistance)
    | none => (some (candidate, distance), second)) (none, none)

/-- `best_ref_remap`. -/
def bestRefRemap (reference : String) (valid : List String) : Option String :=
  if reference ∈ valid then none
  else match nearest reference valid with
    | (some (candidate, distance), second) =>
        if distance ≤ 3 ∧ second.all (distance + 3 ≤ ·) then some candidate else none
    | (none, _) => none

/-- What `remap_evidence_refs` makes of one reference. -/
def remapped (valid : List String) (reference : String) : Option String :=
  if reference = "" ∨ ¬ (reference.startsWith "snapshot://" ∨ reference.startsWith "attachment://")
  then none
  else bestRefRemap reference valid

/-- `remap_evidence_refs`: the references, and the pairs it adds to the list. -/
def remapEvidenceRefs (valid refs : List String) : List String × List (String × String) :=
  (refs.map fun reference => (remapped valid reference).getD reference,
    refs.filterMap fun reference => (remapped valid reference).map (reference, ·))

/-! ### Lane outputs and verdicts -/

def remapClaim (valid : List String) (claim : Claim) : Claim :=
  { claim with evidenceRefs := (remapEvidenceRefs valid claim.evidenceRefs).1 }

def remapResidual (valid : List String) (residual : Residual) : Residual :=
  { residual with
    evidenceRefs := (remapEvidenceRefs valid residual.evidenceRefs).1
    closureEvidence := (remapEvidenceRefs valid residual.closureEvidence).1 }

/-- The pairs that the residuals add. -/
def residualPairs (valid : List String) (residuals : List Residual) : List (String × String) :=
  residuals.flatMap fun residual => (remapEvidenceRefs valid residual.evidenceRefs).2
    ++ (remapEvidenceRefs valid residual.closureEvidence).2

/-- `validate_residual_evidence_refs`: the residuals as rewritten, and the pairs. -/
def validateResidualEvidenceRefs (valid : List String) (residuals : List Residual) :
    Except String (List Residual × List (String × String)) := do
  let rewritten := residuals.map (remapResidual valid)
  (rewritten.flatMap fun residual => residual.evidenceRefs ++ residual.closureEvidence).forM
    (validateEvidenceReference valid)
  return (rewritten, residualPairs valid residuals)

/-- `validate_arbiter_semantics`. -/
def validateArbiterSemantics (valid : List String) (verdict : ArbiterVerdict) :
    Except String (ArbiterVerdict × List (String × String)) := do
  validateUniqueIds (verdict.residuals.map (·.id)) "arbiter residual"
  let (residuals, pairs) ← validateResidualEvidenceRefs valid verdict.residuals
  return ({ verdict with residuals := residuals }, pairs)

/-- The references of a lane output, in the order in which they are checked. -/
def LaneOutput.references (output : LaneOutput) : List String :=
  output.claims.flatMap (·.evidenceRefs) ++ output.residuals.flatMap (·.evidenceRefs)
    ++ output.residuals.flatMap (·.closureEvidence)

/-- The rewriting of `validate_evidence_refs`. -/
def remapLaneOutput (valid : List String) (output : LaneOutput) : LaneOutput :=
  { output with
    claims := output.claims.map (remapClaim valid)
    residuals := output.residuals.map (remapResidual valid) }

/-- The pairs that `validate_evidence_refs` returns. -/
def lanePairs (valid : List String) (output : LaneOutput) : List (String × String) :=
  (output.claims.flatMap fun claim => (remapEvidenceRefs valid claim.evidenceRefs).2)
    ++ residualPairs valid output.residuals

/-- `validate_evidence_refs`: the output as rewritten, and the pairs. -/
def validateEvidenceRefs (valid : List String) (output : LaneOutput) :
    Except String (LaneOutput × List (String × String)) := do
  validateUniqueIds (output.claims.map (·.id)) "claim"
  validateUniqueIds (output.residuals.map (·.id)) "lane residual"
  (remapLaneOutput valid output).references.forM (validateEvidenceReference valid)
  return (remapLaneOutput valid output, lanePairs valid output)

example : levenshtein "kitten" "sitting" = 3 := by decide +kernel

/-! ### Rewriting twice -/

/-- A reference that passes the check: a blank or one of the snapshot. -/
def Resolvable (valid : List String) (reference : String) : Prop :=
  reference = "" ∨ reference ∈ valid

section twice

variable {valid : List String} {output : LaneOutput}

theorem validateEvidenceReference_ok {reference : String} :
    validateEvidenceReference valid reference = .ok () ↔ Resolvable valid reference := by
  unfold validateEvidenceReference Resolvable
  split <;> simp_all

theorem remapped_of_resolvable {reference : String} (h : Resolvable valid reference) :
    remapped valid reference = none := by
  unfold remapped
  rcases h with rfl | hmem
  · simp
  · simp [bestRefRemap, hmem]

theorem remapEvidenceRefs_of_resolvable {refs : List String}
    (h : ∀ reference ∈ refs, Resolvable valid reference) :
    remapEvidenceRefs valid refs = (refs, []) := by
  have hnone : ∀ reference ∈ refs, remapped valid reference = none :=
    fun reference hr => remapped_of_resolvable (h reference hr)
  refine Prod.ext ?_ ?_
  · refine (List.map_congr_left fun reference hr => ?_).trans (List.map_id _)
    simp [hnone reference hr]
  · exact List.filterMap_eq_nil_iff.mpr fun reference hr => by simp [hnone reference hr]

theorem mem_references {reference : String} : reference ∈ output.references ↔
    (∃ claim ∈ output.claims, reference ∈ claim.evidenceRefs)
      ∨ (∃ residual ∈ output.residuals, reference ∈ residual.evidenceRefs)
      ∨ ∃ residual ∈ output.residuals, reference ∈ residual.closureEvidence := by
  simp [LaneOutput.references]

/-- The rewriting leaves alone what passes the check. -/
theorem remapLaneOutput_of_resolvable
    (h : ∀ reference ∈ output.references, Resolvable valid reference) :
    remapLaneOutput valid output = output ∧ lanePairs valid output = [] := by
  -- a list of resolvable references is left as it is
  have hclaim : ∀ claim ∈ output.claims,
      remapEvidenceRefs valid claim.evidenceRefs = (claim.evidenceRefs, []) :=
    fun claim hc => remapEvidenceRefs_of_resolvable fun reference hr =>
      h reference (mem_references.mpr (Or.inl ⟨claim, hc, hr⟩))
  have hevidence : ∀ residual ∈ output.residuals,
      remapEvidenceRefs valid residual.evidenceRefs = (residual.evidenceRefs, []) :=
    fun residual hres => remapEvidenceRefs_of_resolvable fun reference hr =>
      h reference (mem_references.mpr (Or.inr (Or.inl ⟨residual, hres, hr⟩)))
  have hclosure : ∀ residual ∈ output.residuals,
      remapEvidenceRefs valid residual.closureEvidence = (residual.closureEvidence, []) :=
    fun residual hres => remapEvidenceRefs_of_resolvable fun reference hr =>
      h reference (mem_references.mpr (Or.inr (Or.inr ⟨residual, hres, hr⟩)))
  constructor
  · have hclaims : output.claims.map (remapClaim valid) = output.claims :=
      (List.map_congr_left fun claim hc => by simp [remapClaim, hclaim claim hc]).trans
        (List.map_id _)
    have hresiduals : output.residuals.map (remapResidual valid) = output.residuals :=
      (List.map_congr_left fun residual hres => by
        simp [remapResidual, hevidence residual hres, hclosure residual hres]).trans (List.map_id _)
    rw [remapLaneOutput, hclaims, hresiduals]
  · refine List.append_eq_nil_iff.mpr ⟨?_, ?_⟩
    · exact List.flatMap_eq_nil_iff.mpr fun claim hc => by simp [hclaim claim hc]
    · exact List.flatMap_eq_nil_iff.mpr fun residual hres => by
        simp [hevidence residual hres, hclosure residual hres]

theorem validateEvidenceRefs_ok {rewritten : LaneOutput} {pairs : List (String × String)} :
    validateEvidenceRefs valid output = .ok (rewritten, pairs) ↔
      validateUniqueIds (output.claims.map (·.id)) "claim" = .ok ()
      ∧ validateUniqueIds (output.residuals.map (·.id)) "lane residual" = .ok ()
      ∧ (∀ reference ∈ (remapLaneOutput valid output).references, Resolvable valid reference)
      ∧ remapLaneOutput valid output = rewritten ∧ lanePairs valid output = pairs := by
  have hpure : (pure (remapLaneOutput valid output, lanePairs valid output)
      : Except String (LaneOutput × List (String × String))) = .ok (rewritten, pairs) ↔
      remapLaneOutput valid output = rewritten ∧ lanePairs valid output = pairs := by
    simp [pure, Except.pure]
  simp only [validateEvidenceRefs, Policy.bind_unit_ok, Policy.forM_ok,
    validateEvidenceReference_ok, hpure]

/-- **A second check changes nothing**: it rewrites no reference. -/
theorem validateEvidenceRefs_again {rewritten : LaneOutput} {pairs : List (String × String)}
    (h : validateEvidenceRefs valid output = .ok (rewritten, pairs)) :
    validateEvidenceRefs valid rewritten = .ok (rewritten, []) := by
  obtain ⟨hclaims, hresiduals, hresolvable, rfl, -⟩ := validateEvidenceRefs_ok.mp h
  obtain ⟨hsame, hnone⟩ := remapLaneOutput_of_resolvable hresolvable
  refine validateEvidenceRefs_ok.mpr ⟨?_, ?_, hsame.symm ▸ hresolvable, hsame, hnone⟩
  · simpa [remapLaneOutput, remapClaim, Function.comp_def] using hclaims
  · simpa [remapLaneOutput, remapResidual, Function.comp_def] using hresiduals

end twice

end Quinte
