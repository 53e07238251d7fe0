import Mathlib
import Quinte.Framework.EditDistance
import Quinte.Evidence.References

/-! # What the repair of references rewrites

    * `levenshtein_eq`: the two rows compute the edit distance;
    * `nearest_spec`: one pass over the set finds the nearest reference and
      how far the others are at least;
    * `bestRefRemap_eq_some`: when a reference is rewritten, and to what.
-/

namespace Quinte

open EditDistance

/-! ### The rows of the table -/

/-- The distances of `p` to `q` and to the prefixes of `q ++ b` beyond it. -/
def distances (p q : List Char) : List Char → List Nat
  | [] => [editDistance p q]
  | d :: b => editDistance p q :: distances p (q ++ [d]) b

theorem distances_eq_cons (p q b : List Char) :
    distances p q b = editDistance p q :: (distances p q b).tail := by
  cases b <;> rfl

/-- The first row: from the empty text each prefix is as far as it is long. -/
theorem distances_nil (q b : List Char) :
    distances [] q b = List.range' q.length (b.length + 1) := by
  induction b generalizing q with
  | nil => simp [distances]
  | cons d b ih =>
    rw [distances, ih, editDistance_nil_left, List.length_append, List.length_singleton]
    rfl

theorem getLast?_distances (p q b : List Char) :
    (distances p q b).getLast? = some (editDistance p (q ++ b)) := by
  induction b generalizing q with
  | nil => simp [distances]
  | cons d b ih =>
    have happend : q ++ d :: b = (q ++ [d]) ++ b := by simp
    rw [distances, List.getLast?_cons, ih, happend]
    rfl

/-- One run of the inner loop leads from the row of `p` to the row of `p` and `c`. -/
theorem levenshteinRow_distances (c : Char) (p q b : List Char) :
    levenshteinRow c b (distances p q b) (editDistance (p ++ [c]) q)
      = (distances (p ++ [c]) q b).tail := by
  induction b generalizing q with
  | nil => simp [levenshteinRow, distances]
  | cons d b ih =>
    have hentry : min (min (editDistance p q + if c ≠ d then 1 else 0)
        (editDistance p (q ++ [d]) + 1)) (editDistance (p ++ [c]) q + 1)
        = editDistance (p ++ [c]) (q ++ [d]) := by
      rw [editDistance_concat, ite_not]
    -- the next entry is the left neighbour of the rest of the row
    have hrest := ih (q ++ [d])
    rw [distances_eq_cons p (q ++ [d]) b] at hrest
    rw [distances, distances_eq_cons p (q ++ [d]) b]
    show min (min (editDistance p q + if c ≠ d then 1 else 0)
        (editDistance p (q ++ [d]) + 1)) (editDistance (p ++ [c]) q + 1) :: levenshteinRow c b _ _
      = distances (p ++ [c]) (q ++ [d]) b
    rw [hentry, hrest, ← distances_eq_cons]

/-- The outer loop, after the characters `p`. -/
theorem foldl_levenshteinRow (p a b : List Char) :
    (a.zipIdx p.length).foldl
        (fun prev (c, i) => (i + 1) :: levenshteinRow c b prev (i + 1)) (distances p [] b)
      = distances (p ++ a) [] b := by
  induction a generalizing p with
  | nil => simp
  | cons c a ih =>
    have hlength : p.length + 1 = (p ++ [c]).length := by simp
    have hleft : p.length + 1 = editDistance (p ++ [c]) [] := by simp
    have hrow : (p.length + 1) :: levenshteinRow c b (distances p [] b) (p.length + 1)
        = distances (p ++ [c]) [] b := by
      rw [hleft, levenshteinRow_distances, ← distances_eq_cons]
    rw [List.zipIdx_cons, List.foldl_cons]
    dsimp only
    rw [hrow, hlength, ih (p ++ [c]), List.append_assoc, List.singleton_append]

/-- **Two rows suffice**: `levenshtein` is the edit distance. -/
theorem levenshtein_eq (a b : String) : levenshtein a b = editDistance a.toList b.toList := by
  have hfirst : List.range (b.length + 1) = distances [] [] b.toList := by
    rw [distances_nil, List.range_eq_range', String.length_toList]
    rfl
  have hrows := foldl_levenshteinRow [] a.toList b.toList
  rw [List.length_nil] at hrows
  unfold levenshtein
  rw [hfirst]
  show (List.getLast? (List.foldl _ _ _)).getD 0 = _
  rw [hrows, getLast?_distances]
  rfl

/-! ### The nearest reference and the runner-up -/

/-- What the scan knows of the candidates it has seen: the nearest of them, and
    a least distance of the others. -/
def Scanned (reference : String) (seen : List String) :
    Option (String × Nat) × Option Nat → Prop
  | (none, second) => seen = [] ∧ second = none
  | (some (found, distance), second) =>
      found ∈ seen ∧ distance = levenshtein reference found
        ∧ (∀ candidate ∈ seen, distance ≤ levenshtein reference candidate)
        ∧ ∀ n, second.all (n ≤ ·) = true
          ↔ ∀ candidate ∈ seen, candidate ≠ found → n ≤ levenshtein reference candidate

section scan

variable {reference : String} {seen valid : List String}

/-- One candidate. -/
theorem Scanned.step {found : String} {distance : Nat} {second : Option Nat} {candidate : String}
    (h : Scanned reference seen (some (found, distance), second)) (hnew : candidate ∉ seen) :
    Scanned reference (seen ++ [candidate])
      (if distance ≤ levenshtein reference candidate then
        (some (found, distance),
          if second.all (levenshtein reference candidate < ·)
          then some (levenshtein reference candidate) else second)
      else (some (candidate, levenshtein reference candidate), some distance)) := by
  obtain ⟨hmem, hdistance, hleast, hsecond⟩ := h
  have hne : candidate ≠ found := by
    intro heq
    exact hnew (heq ▸ hmem)
  by_cases hle : distance ≤ levenshtein reference candidate
  · -- the nearest stays, and the candidate may be the runner-up
    rw [if_pos hle]
    refine ⟨List.mem_append_left _ hmem, hdistance, ?_, ?_⟩
    · intro other hother
      rcases List.mem_append.mp hother with hseen | hlast
      · exact hleast other hseen
      · rwa [List.mem_singleton.mp hlast]
    · intro n
      have hsplit :
          (∀ other ∈ seen ++ [candidate], other ≠ found → n ≤ levenshtein reference other)
          ↔ second.all (n ≤ ·) = true ∧ n ≤ levenshtein reference candidate := by
        rw [hsecond n]
        simp only [List.forall_mem_append, List.forall_mem_singleton]
        exact and_congr_right fun _ => ⟨fun hlast => hlast hne, fun hlast _ => hlast⟩
      rw [hsplit]
      cases second with
      | none => simp
      | some runner =>
        by_cases hlt : levenshtein reference candidate < runner
        · simp [hlt]
          omega
        · simp [hlt]
          omega
  · -- the candidate is nearer, and what was nearest is the runner-up
    rw [if_neg hle]
    refine ⟨List.mem_append_right _ (List.mem_singleton.mpr rfl), rfl, ?_, ?_⟩
    · intro other hother
      rcases List.mem_append.mp hother with hseen | hlast
      · have hother := hleast other hseen
        omega
      · rw [List.mem_singleton.mp hlast]
    · intro n
      constructor
      · intro hall other hother hother_ne
        have hn : n ≤ distance := by simpa using hall
        rcases List.mem_append.mp hother with hseen | hlast
        · exact hn.trans (hleast other hseen)
        · exact absurd (List.mem_singleton.mp hlast) hother_ne
      · intro hall
        have hfound := hall found (List.mem_append_left _ hmem) hne.symm
        simpa [hdistance] using hfound

/-- The scan, after the candidates `seen`. -/
theorem scanned_foldl (rest : List String) :
    ∀ {seen : List String} {scan : Option (String × Nat) × Option Nat},
      Scanned reference seen scan → (seen ++ rest).Nodup →
      Scanned reference (seen ++ rest) (rest.foldl (fun (best, second) candidate =>
        let distance := levenshtein reference candidate
        match best with
        | some (found, bestDistance) =>
            if bestDistance ≤ distance then
              (some (found, bestDistance),
                if second.all (distance < ·) then some distance else second)
            else (some (candidate, distance), some bestDistance)
        | none => (some (candidate, distance), second)) scan) := by
  induction rest with
  | nil =>
    intro seen scan h _
    simpa using h
  | cons candidate rest ih =>
    intro seen scan h hnodup
    have happend : seen ++ candidate :: rest = (seen ++ [candidate]) ++ rest := by simp
    -- each candidate is seen once, as the references are distinct
    have hnew : candidate ∉ seen := by
      intro hmem
      exact (List.nodup_append.mp hnodup).2.2 candidate hmem candidate List.mem_cons_self rfl
    rw [happend] at hnodup ⊢
    rw [List.foldl_cons]
    apply ih _ hnodup
    rcases scan with ⟨_ | ⟨found, distance⟩, second⟩
    · obtain ⟨rfl, rfl⟩ := h
      simp [Scanned]
    · exact h.step hnew

theorem nearest_spec (reference : String) (hvalid : valid.Nodup) :
    Scanned reference valid (nearest reference valid) := by
  have hempty : Scanned reference [] (none, none) := ⟨rfl, rfl⟩
  exact scanned_foldl valid hempty (by simpa using hvalid)

/-- **A reference is rewritten** to the one that is at most three edits away,
    when every other is three edits farther. -/
theorem bestRefRemap_eq_some (hvalid : valid.Nodup) (found : String) :
    bestRefRemap reference valid = some found ↔
      reference ∉ valid ∧ found ∈ valid ∧ levenshtein reference found ≤ 3
        ∧ ∀ other ∈ valid, other ≠ found →
          levenshtein reference found + 3 ≤ levenshtein reference other := by
  unfold bestRefRemap
  by_cases hmem : reference ∈ valid
  · simp [hmem]
  rw [if_neg hmem]
  have hscan := nearest_spec reference hvalid
  generalize nearest reference valid = scan at hscan ⊢
  rcases scan with ⟨_ | ⟨best, distance⟩, second⟩
  · obtain ⟨rfl, -⟩ := hscan
    simp
  obtain ⟨hbest, rfl, hleast, hsecond⟩ := hscan
  simp only [hsecond]
  constructor
  · intro hfound
    split at hfound
    case isTrue hnear =>
      obtain rfl := Option.some.inj hfound
      exact ⟨hmem, hbest, hnear⟩
    case isFalse => cases hfound
  · intro ⟨_, hfound, hnear, hfar⟩
    -- the nearest is no other, as every other is farther
    have heq : best = found := by
      by_contra hne
      have hother := hfar best hbest hne
      have hmin := hleast found hfound
      omega
    subst heq
    exact if_pos ⟨hnear, hfar⟩

end scan

/-! ### Outputs and verdicts -/

/-- What a list of references becomes: all of them can be resolved, and those
    that could be before are the same. -/
def Repaired (valid before after : List String) : Prop :=
  (∀ reference ∈ after, reference ≠ "" → reference ∈ valid)
    ∧ List.Forall₂ (fun old new => old ∈ valid → new = old) before after

section outputs

variable {valid : List String}

/-- The references of a verdict, in the order in which they are checked. -/
def ArbiterVerdict.references (verdict : ArbiterVerdict) : List String :=
  verdict.residuals.flatMap fun residual => residual.evidenceRefs ++ residual.closureEvidence

theorem repaired_map {before : List String}
    (h : ∀ reference ∈ before.map fun reference => (remapped valid reference).getD reference,
      Resolvable valid reference) :
    Repaired valid before
      (before.map fun reference => (remapped valid reference).getD reference) := by
  constructor
  · intro reference hmem hne
    exact (h reference hmem).resolve_left hne
  · rw [List.forall₂_map_right_iff]
    apply List.forall₂_same.mpr
    intro reference _ hvalid
    rw [remapped_of_resolvable (Or.inr hvalid)]
    rfl

theorem references_remapLaneOutput (output : LaneOutput) :
    (remapLaneOutput valid output).references
      = output.references.map fun reference => (remapped valid reference).getD reference := by
  simp [LaneOutput.references, remapLaneOutput, remapClaim, remapResidual, remapEvidenceRefs,
    List.flatMap_map, List.map_flatMap]

theorem flatMap_remapResidual (residuals : List Residual) :
    ((residuals.map (remapResidual valid)).flatMap fun residual =>
        residual.evidenceRefs ++ residual.closureEvidence)
      = (residuals.flatMap fun residual => residual.evidenceRefs ++ residual.closureEvidence).map
        fun reference => (remapped valid reference).getD reference := by
  simp [remapResidual, remapEvidenceRefs, List.flatMap_map, List.map_flatMap]

theorem validateEvidenceRefs_repaired {output rewritten : LaneOutput}
    {pairs : List (String × String)}
    (h : validateEvidenceRefs valid output = .ok (rewritten, pairs)) :
    Repaired valid output.references rewritten.references := by
  obtain ⟨-, -, hresolvable, rfl, -⟩ := validateEvidenceRefs_ok.mp h
  rw [references_remapLaneOutput] at hresolvable ⊢
  exact repaired_map hresolvable

theorem validateArbiterSemantics_ok {verdict rewritten : ArbiterVerdict}
    {pairs : List (String × String)} :
    validateArbiterSemantics valid verdict = .ok (rewritten, pairs) ↔
      validateUniqueIds (verdict.residuals.map (·.id)) "arbiter residual" = .ok ()
      ∧ (∀ reference ∈ (verdict.residuals.map (remapResidual valid)).flatMap
            (fun residual => residual.evidenceRefs ++ residual.closureEvidence),
          Resolvable valid reference)
      ∧ { verdict with residuals := verdict.residuals.map (remapResidual valid) } = rewritten
      ∧ residualPairs valid verdict.residuals = pairs := by
  have hresiduals : ∀ residuals pairs', validateResidualEvidenceRefs valid verdict.residuals
      = .ok (residuals, pairs') ↔
      (∀ reference ∈ (verdict.residuals.map (remapResidual valid)).flatMap
          (fun residual => residual.evidenceRefs ++ residual.closureEvidence),
        Resolvable valid reference)
      ∧ verdict.residuals.map (remapResidual valid) = residuals
      ∧ residualPairs valid verdict.residuals = pairs' := by
    intro residuals pairs'
    unfold validateResidualEvidenceRefs
    simp only [Policy.bind_unit_ok, Policy.forM_ok, validateEvidenceReference_ok, pure, Except.pure,
      Except.ok.injEq, Prod.mk.injEq]
  unfold validateArbiterSemantics
  rw [Policy.bind_unit_ok]
  -- the ids are checked first
  apply and_congr_right
  intro _
  rw [Policy.bind_ok]
  constructor
  · intro ⟨⟨residuals, pairs'⟩, hchecked, hresult⟩
    obtain ⟨hresolvable, rfl, rfl⟩ := (hresiduals residuals pairs').mp hchecked
    cases hresult
    exact ⟨hresolvable, rfl, rfl⟩
  · intro ⟨hresolvable, hverdict, hpairs⟩
    refine ⟨_, (hresiduals _ _).mpr ⟨hresolvable, rfl, rfl⟩, ?_⟩
    rw [← hverdict, ← hpairs]
    rfl

theorem validateArbiterSemantics_repaired {verdict rewritten : ArbiterVerdict}
    {pairs : List (String × String)}
    (h : validateArbiterSemantics valid verdict = .ok (rewritten, pairs)) :
    Repaired valid verdict.references rewritten.references := by
  obtain ⟨-, hresolvable, rfl, -⟩ := validateArbiterSemantics_ok.mp h
  rw [flatMap_remapResidual] at hresolvable
  have hreferences : ArbiterVerdict.references
      { verdict with residuals := verdict.residuals.map (remapResidual valid) }
      = verdict.references.map fun reference => (remapped valid reference).getD reference :=
    flatMap_remapResidual verdict.residuals
  rw [hreferences]
  exact repaired_map hresolvable

/-- The rewriting leaves alone the residuals whose references can be resolved. -/
theorem remapResidual_of_resolvable {residuals : List Residual}
    (h : ∀ reference ∈ residuals.flatMap fun residual =>
      residual.evidenceRefs ++ residual.closureEvidence, Resolvable valid reference) :
    residuals.map (remapResidual valid) = residuals ∧ residualPairs valid residuals = [] := by
  have hboth : ∀ residual ∈ residuals,
      remapEvidenceRefs valid residual.evidenceRefs = (residual.evidenceRefs, [])
      ∧ remapEvidenceRefs valid residual.closureEvidence = (residual.closureEvidence, []) := by
    intro residual hres
    constructor
    · apply remapEvidenceRefs_of_resolvable
      intro reference hr
      exact h reference (List.mem_flatMap.mpr ⟨residual, hres, List.mem_append_left _ hr⟩)
    · apply remapEvidenceRefs_of_resolvable
      intro reference hr
      exact h reference (List.mem_flatMap.mpr ⟨residual, hres, List.mem_append_right _ hr⟩)
  constructor
  · refine (List.map_congr_left ?_).trans (List.map_id _)
    intro residual hres
    simp [remapResidual, hboth residual hres]
  · apply List.flatMap_eq_nil_iff.mpr
    intro residual hres
    simp [hboth residual hres]

/-- **A second check of a verdict** rewrites no reference either. -/
theorem validateArbiterSemantics_again {verdict rewritten : ArbiterVerdict}
    {pairs : List (String × String)}
    (h : validateArbiterSemantics valid verdict = .ok (rewritten, pairs)) :
    validateArbiterSemantics valid rewritten = .ok (rewritten, []) := by
  obtain ⟨hunique, hresolvable, rfl, -⟩ := validateArbiterSemantics_ok.mp h
  obtain ⟨hsame, hnone⟩ := remapResidual_of_resolvable hresolvable
  apply validateArbiterSemantics_ok.mpr
  refine ⟨?_, ?_, ?_, hnone⟩
  · simpa [remapResidual, Function.comp_def] using hunique
  · rwa [hsame]
  · rw [hsame]

end outputs

theorem nodup_allowedEvidenceRefs (snapshot : SnapshotManifest) :
    (allowedEvidenceRefs snapshot).Nodup :=
  (List.perm_insertionSort _ _).nodup_iff.mpr (List.nodup_dedup _)

/-- **The repair of references** is exact: the table computes the distance, a
    reference is rewritten to the only one that is near, and what a check
    accepts can be resolved, differs only where it could not be resolved
    before, and is not rewritten again.  A set is a list without repetitions,
    as `nodup_allowedEvidenceRefs` says of the references of a snapshot. -/
theorem evidence_repair_exact (valid : List String) (hvalid : valid.Nodup) :
    (∀ a b, IsLeast {n | Edits n a.toList b.toList} (levenshtein a b)
      ∧ levenshtein a b = editDistance a.toList b.toList)
    ∧ (∀ reference found, bestRefRemap reference valid = some found ↔
        reference ∉ valid ∧ found ∈ valid
          ∧ editDistance reference.toList found.toList ≤ 3
          ∧ ∀ other ∈ valid, other ≠ found →
            editDistance reference.toList found.toList + 3
              ≤ editDistance reference.toList other.toList)
    ∧ (∀ output rewritten pairs, validateEvidenceRefs valid output = .ok (rewritten, pairs) →
        Repaired valid output.references rewritten.references
          ∧ validateEvidenceRefs valid rewritten = .ok (rewritten, []))
    ∧ ∀ verdict rewritten pairs,
        validateArbiterSemantics valid verdict = .ok (rewritten, pairs) →
        Repaired valid verdict.references rewritten.references
          ∧ validateArbiterSemantics valid rewritten = .ok (rewritten, []) := by
  refine ⟨?_, ?_, ?_, ?_⟩
  · intro a b
    rw [levenshtein_eq]
    exact ⟨isLeast_editDistance _ _, rfl⟩
  · intro reference found
    rw [bestRefRemap_eq_some hvalid found]
    simp only [levenshtein_eq]
  · intro output rewritten pairs h
    exact ⟨validateEvidenceRefs_repaired h, validateEvidenceRefs_again h⟩
  · intro verdict rewritten pairs h
    exact ⟨validateArbiterSemantics_repaired h, validateArbiterSemantics_again h⟩

/-- Two references, of which one is near to what was cited. -/
theorem evidence_repair_exact_snapshot :
    bestRefRemap "snapshot://notes" ["snapshot://note", "snapshot://agenda"]
      = some "snapshot://note" := by
  apply ((evidence_repair_exact ["snapshot://note", "snapshot://agenda"] (by decide)).2.1
    "snapshot://notes" "snapshot://note").mpr
  simp only [← levenshtein_eq]
  decide +kernel

end Quinte
