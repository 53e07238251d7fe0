import Mathlib
import Quinte.Evidence.References
import Quinte.Model.Schema
import Quinte.Packet.Scrub

/-! # What scrubbing keeps of a lane output

    R2 reads a scrubbed output as it reads any other: by its ids, by its
    enumerations and by its references.  The scrubber rewrites these like
    prose, so they survive when no identity token occurs in them
    (`NoTokenInKept`), and an id or an enumeration only then.

    * `scrub_keeps_lane_output_iff`: the condition, in both directions;
    * `scrub_breaks_lane_output`: a route named like a severity.
-/

namespace Quinte

open Substitution

/-- The scrubbed output still is the lane output for what R2 does with it. -/
structure KeepsLaneOutput (valid : List String) (output scrubbed : LaneOutput) : Prop where
  version : scrubbed.laneOutputVersion = output.laneOutputVersion
  confidence : scrubbed.confidence = output.confidence
  claimConfidences : scrubbed.claims.map (·.confidence) = output.claims.map (·.confidence)
  severities : scrubbed.residuals.map (·.severity) = output.residuals.map (·.severity)
  dispositions : scrubbed.residuals.map (·.disposition) = output.residuals.map (·.disposition)
  closureStates : scrubbed.residuals.map (·.closureState) = output.residuals.map (·.closureState)
  claimIds : ∀ claim ∈ scrubbed.claims, Schema.idPattern claim.id = true
  claimIds_nodup : (scrubbed.claims.map (·.id)).Nodup
  residualIds : ∀ residual ∈ scrubbed.residuals, Schema.idPattern residual.id = true
  residualIds_nodup : (scrubbed.residuals.map (·.id)).Nodup
  references : List.Forall₂ (fun old new => old ∈ valid → new ∈ valid) output.references
    scrubbed.references

/-- The scrubber succeeds and keeps the lane output. -/
def ScrubKeeps (policy : Policy) (valid : List String) (output : LaneOutput) : Prop :=
  ∃ scrubbed, scrubLaneOutput output (r2IdentityReplacements policy) = some scrubbed ∧
    KeepsLaneOutput valid output scrubbed

/-- The strings of a lane output that are not prose: the version, the ids, the
    spellings, and the references that resolve. -/
def LaneOutput.keptStrings (output : LaneOutput) (valid : List String) : List String :=
  output.laneOutputVersion :: output.claims.map (·.id)
    ++ (output.residuals.flatMap fun residual => [residual.id, residual.severity.spelling,
        residual.disposition.spelling, residual.closureState.spelling])
    ++ output.references.filter (· ∈ valid)

/-- No identity token occurs in a string that is not prose. -/
def NoTokenInKept (policy : Policy) (valid : List String) (output : LaneOutput) : Prop :=
  ∀ text ∈ output.keptStrings valid, ∀ token ∈ identityTokens policy, ¬ ContainsToken token text

instance (policy : Policy) (valid : List String) (output : LaneOutput) :
    Decidable (NoTokenInKept policy valid output) :=
  inferInstanceAs (Decidable (∀ text ∈ _, _))

/-! ### Residuals -/

theorem scrubResidual_eq_some {tokens : List (String × String)} {residual scrubbed : Residual}
    (h : scrubResidual tokens residual = some scrubbed) :
    scrubbed.id = scrubText tokens residual.id ∧
    scrubbed.severity.spelling = scrubText tokens residual.severity.spelling ∧
    scrubbed.disposition.spelling = scrubText tokens residual.disposition.spelling ∧
    scrubbed.closureState.spelling = scrubText tokens residual.closureState.spelling ∧
    scrubbed.evidenceRefs = residual.evidenceRefs.map (scrubText tokens) ∧
    scrubbed.closureEvidence = residual.closureEvidence.map (scrubText tokens) := by
  obtain ⟨severity, hs, h⟩ := Option.bind_eq_some_iff.mp h
  obtain ⟨disposition, hd, h⟩ := Option.bind_eq_some_iff.mp h
  obtain ⟨closureState, hc, h⟩ := Option.bind_eq_some_iff.mp h
  cases h
  exact ⟨rfl, spelling_of_spelt hs, spelling_of_spelt hd, spelling_of_spelt hc, rfl, rfl⟩

/-- A residual whose enumerations are spelt without tokens is scrubbed. -/
theorem exists_scrubResidual {tokens : List (String × String)} {residual : Residual}
    (hs : scrubText tokens residual.severity.spelling = residual.severity.spelling)
    (hd : scrubText tokens residual.disposition.spelling = residual.disposition.spelling)
    (hc : scrubText tokens residual.closureState.spelling = residual.closureState.spelling) :
    ∃ scrubbed, scrubResidual tokens residual = some scrubbed ∧
      scrubbed.severity = residual.severity ∧ scrubbed.disposition = residual.disposition ∧
      scrubbed.closureState = residual.closureState := by
  simp [scrubResidual, hs, hd, hc]

theorem forall₂_of_mapM {α β : Type} {f : α → Option β} {xs : List α} {ys : List β}
    (h : xs.mapM f = some ys) : List.Forall₂ (fun x y => f x = some y) xs ys := by
  induction xs generalizing ys with
  | nil =>
    obtain rfl : ys = [] := by simpa using h.symm
    exact List.Forall₂.nil
  | cons x xs ih =>
    simp only [List.mapM_cons, Option.bind_eq_bind, Option.bind_eq_some_iff] at h
    obtain ⟨y, hy, ys', hys, heq⟩ := h
    cases heq
    exact List.Forall₂.cons hy (ih hys)

theorem mapM_of_forall {α β : Type} {f : α → Option β} {xs : List α}
    (h : ∀ x ∈ xs, ∃ y, f x = some y) : ∃ ys, xs.mapM f = some ys := by
  induction xs with
  | nil => exact ⟨[], rfl⟩
  | cons x xs ih =>
    obtain ⟨y, hy⟩ := h x (List.mem_cons_self ..)
    obtain ⟨ys, hys⟩ := ih fun x' hx' => h x' (List.mem_cons_of_mem _ hx')
    exact ⟨y :: ys, by simp [List.mapM_cons, hy, hys]⟩

theorem map_eq_of_forall₂ {α β γ : Type} {R : α → β → Prop} {f : α → γ} {g : β → γ}
    {xs : List α} {ys : List β} (h : List.Forall₂ R xs ys)
    (hfg : ∀ x ∈ xs, ∀ y, R x y → g y = f x) : ys.map g = xs.map f := by
  induction h with
  | nil => rfl
  | @cons x y _ _ hxy _ ih =>
    rw [List.map_cons, List.map_cons, hfg x (List.mem_cons_self ..) y hxy,
      ih fun x' hx' => hfg x' (List.mem_cons_of_mem _ hx')]

/-! ### The references -/

theorem scrubLaneOutput_eq_some {tokens : List (String × String)} {output scrubbed : LaneOutput}
    (h : scrubLaneOutput output tokens = some scrubbed) :
    output.residuals.mapM (scrubResidual tokens) = some scrubbed.residuals ∧
    scrubbed.laneOutputVersion = scrubText tokens output.laneOutputVersion ∧
    scrubbed.confidence = output.confidence ∧
    scrubbed.claims = output.claims.map (scrubClaim tokens) := by
  obtain ⟨residuals, hres, h⟩ := Option.bind_eq_some_iff.mp h
  cases h
  exact ⟨hres, rfl, rfl, rfl⟩

theorem scrubbed_references {tokens : List (String × String)} {output scrubbed : LaneOutput}
    (h : scrubLaneOutput output tokens = some scrubbed) :
    scrubbed.references = output.references.map (scrubText tokens) := by
  obtain ⟨hres, -, -, hclaims⟩ := scrubLaneOutput_eq_some h
  have hpairs := forall₂_of_mapM hres
  have hevidence := map_eq_of_forall₂ hpairs
    (f := fun residual => residual.evidenceRefs.map (scrubText tokens)) (g := (·.evidenceRefs))
    fun _ _ _ hxy => (scrubResidual_eq_some hxy).2.2.2.2.1
  have hclosure := map_eq_of_forall₂ hpairs
    (f := fun residual => residual.closureEvidence.map (scrubText tokens))
    (g := (·.closureEvidence)) fun _ _ _ hxy => (scrubResidual_eq_some hxy).2.2.2.2.2
  unfold LaneOutput.references
  rw [hclaims, List.map_append, List.map_append, List.map_flatMap, List.map_flatMap,
    List.map_flatMap, List.flatMap_map, List.flatMap_def, List.flatMap_def, List.flatMap_def,
    hevidence, hclosure, ← List.flatMap_def, ← List.flatMap_def, ← List.flatMap_def]
  rfl

/-! ### Strings without brackets -/

theorem no_bracket_of_idPattern {id : String} (h : Schema.idPattern id = true) :
    '[' ∉ id.toList := by
  intro hmem
  have hall := (Bool.and_eq_true_iff.mp h).2
  exact absurd (List.all_eq_true.mp hall _ hmem) (by decide)

theorem no_bracket_of_spelling :
    (∀ s : Severity, '[' ∉ s.spelling.toList) ∧ (∀ d : Disposition, '[' ∉ d.spelling.toList) ∧
      ∀ c : ClosureState, '[' ∉ c.spelling.toList := by
  refine ⟨fun s => ?_, fun d => ?_, fun c => ?_⟩
  · cases s <;> decide
  · cases d <;> decide
  · cases c <;> decide

theorem severity_eq_of_spelling {s t : Severity} (h : s.spelling = t.spelling) : s = t := by
  have h' := congrArg severityOf h
  simpa using h'

theorem disposition_eq_of_spelling {d e : Disposition} (h : d.spelling = e.spelling) : d = e := by
  have h' := congrArg dispositionOf h
  simpa using h'

theorem closureState_eq_of_spelling {c d : ClosureState} (h : c.spelling = d.spelling) :
    c = d := by
  have h' := congrArg closureStateOf h
  simpa using h'

theorem version_of_schema {output : LaneOutput} (h : Schema.laneOutput output = true) :
    output.laneOutputVersion = "1.0" := by
  unfold Schema.laneOutput at h
  simp only [Bool.and_eq_true, beq_iff_eq] at h
  exact h.1.1.1.1.1.1.1

theorem idPattern_of_schema {output : LaneOutput} (h : Schema.laneOutput output = true) :
    (∀ id ∈ output.claims.map (·.id), Schema.idPattern id = true) ∧
      ∀ id ∈ output.residuals.map (·.id), Schema.idPattern id = true := by
  unfold Schema.laneOutput at h
  simp only [Bool.and_eq_true, List.all_eq_true] at h
  obtain ⟨⟨⟨⟨-, -, hclaims⟩, -, hresiduals⟩, -⟩, -⟩ := h
  constructor
  · intro id hid
    obtain ⟨claim, hc, rfl⟩ := List.mem_map.mp hid
    have := hclaims claim hc
    unfold Schema.claim at this
    simp only [Bool.and_eq_true] at this
    exact this.1.1.1.1.1.1
  · intro id hid
    obtain ⟨residual, hr, rfl⟩ := List.mem_map.mp hid
    have := hresiduals residual hr
    unfold Schema.residual at this
    simp only [Bool.and_eq_true] at this
    exact this.1.1.1.1.1.1.1

theorem exists_of_forall₂_left {α β : Type} {R : α → β → Prop} {xs : List α} {ys : List β}
    (h : List.Forall₂ R xs ys) {x : α} (hx : x ∈ xs) : ∃ y ∈ ys, R x y := by
  induction h with
  | nil => exact nomatch hx
  | @cons a b _ _ hab _ ih =>
    obtain rfl | hx := List.mem_cons.mp hx
    · exact ⟨b, List.mem_cons_self .., hab⟩
    · obtain ⟨y, hy, hxy⟩ := ih hx
      exact ⟨y, List.mem_cons_of_mem _ hy, hxy⟩

theorem exists_of_forall₂_right {α β : Type} {R : α → β → Prop} {xs : List α} {ys : List β}
    (h : List.Forall₂ R xs ys) {y : β} (hy : y ∈ ys) : ∃ x ∈ xs, R x y :=
  exists_of_forall₂_left h.flip hy

section keeps

variable {policy : Policy} {valid : List String} {output : LaneOutput}

theorem noTokenInKept_iff : NoTokenInKept policy valid output ↔
    (∀ token ∈ identityTokens policy, ¬ ContainsToken token output.laneOutputVersion) ∧
    (∀ claim ∈ output.claims, ∀ token ∈ identityTokens policy, ¬ ContainsToken token claim.id) ∧
    (∀ residual ∈ output.residuals, ∀ token ∈ identityTokens policy,
      ¬ ContainsToken token residual.id ∧ ¬ ContainsToken token residual.severity.spelling ∧
      ¬ ContainsToken token residual.disposition.spelling ∧
      ¬ ContainsToken token residual.closureState.spelling) ∧
    ∀ ref ∈ output.references, ref ∈ valid → ∀ token ∈ identityTokens policy,
      ¬ ContainsToken token ref := by
  unfold NoTokenInKept LaneOutput.keptStrings
  grind

/-- Without a token in them, ids and enumerations stay, and so does whatever resolved. -/
theorem scrubKeeps_of_noToken (hschema : Schema.laneOutput output = true)
    (hclaims : (output.claims.map (·.id)).Nodup) (hresiduals : (output.residuals.map (·.id)).Nodup)
    (h : NoTokenInKept policy valid output) : ScrubKeeps policy valid output := by
  obtain ⟨hversion, hclaim, hresidual, href⟩ := noTokenInKept_iff.mp h
  have hspelling : ∀ residual ∈ output.residuals,
      scrubText (r2IdentityReplacements policy) residual.severity.spelling
        = residual.severity.spelling ∧
      scrubText (r2IdentityReplacements policy) residual.disposition.spelling
        = residual.disposition.spelling ∧
      scrubText (r2IdentityReplacements policy) residual.closureState.spelling
        = residual.closureState.spelling := by
    intro residual hr
    refine ⟨?_, ?_, ?_⟩
    · exact scrubText_of_not_contains fun token ht => (hresidual residual hr token ht).2.1
    · exact scrubText_of_not_contains fun token ht => (hresidual residual hr token ht).2.2.1
    · exact scrubText_of_not_contains fun token ht => (hresidual residual hr token ht).2.2.2
  obtain ⟨residuals, hres⟩ := mapM_of_forall fun residual hr =>
    let ⟨hs, hd, hc⟩ := hspelling residual hr
    (exists_scrubResidual hs hd hc).imp fun _ hscrub => hscrub.1
  have hscrub : ∃ scrubbed, scrubLaneOutput output (r2IdentityReplacements policy)
      = some scrubbed := by
    simp [scrubLaneOutput, hres]
  obtain ⟨scrubbed, hscrub⟩ := hscrub
  obtain ⟨hres', hversion', hconfidence, hclaims'⟩ := scrubLaneOutput_eq_some hscrub
  -- the residuals before and after, side by side
  have hpairs := forall₂_of_mapM hres'
  have hids : scrubbed.residuals.map (·.id) = output.residuals.map (·.id) :=
    map_eq_of_forall₂ hpairs fun residual hr _ hxy => (scrubResidual_eq_some hxy).1.trans
      (scrubText_of_not_contains fun token ht => (hresidual residual hr token ht).1)
  have hclaimIds : scrubbed.claims.map (·.id) = output.claims.map (·.id) := by
    rw [hclaims', List.map_map]
    exact List.map_congr_left fun claim hc =>
      scrubText_of_not_contains fun token ht => hclaim claim hc token ht
  have hidPattern := idPattern_of_schema hschema
  refine ⟨scrubbed, hscrub, {
    version := hversion'.trans (scrubText_of_not_contains hversion)
    confidence := hconfidence
    claimConfidences := by
      rw [hclaims', List.map_map]
      rfl
    severities := map_eq_of_forall₂ hpairs fun residual hr _ hxy =>
      severity_eq_of_spelling ((scrubResidual_eq_some hxy).2.1.trans (hspelling residual hr).1)
    dispositions := map_eq_of_forall₂ hpairs fun residual hr _ hxy =>
      disposition_eq_of_spelling
        ((scrubResidual_eq_some hxy).2.2.1.trans (hspelling residual hr).2.1)
    closureStates := map_eq_of_forall₂ hpairs fun residual hr _ hxy =>
      closureState_eq_of_spelling
        ((scrubResidual_eq_some hxy).2.2.2.1.trans (hspelling residual hr).2.2)
    claimIds := fun claim hc => hidPattern.1 _ (hclaimIds ▸ List.mem_map_of_mem hc)
    claimIds_nodup := hclaimIds ▸ hclaims
    residualIds := fun residual hr => hidPattern.2 _ (hids ▸ List.mem_map_of_mem hr)
    residualIds_nodup := hids ▸ hresiduals
    references := ?_ }⟩
  rw [scrubbed_references hscrub]
  refine List.forall₂_map_right_iff.mpr (List.forall₂_same.mpr fun ref hmem hvalid => ?_)
  rwa [scrubText_of_not_contains (href ref hmem hvalid)]

/-- What is kept shows no bracket, so nothing in it was replaced. -/
theorem noToken_of_scrubKeeps (hschema : Schema.laneOutput output = true)
    (hrefs : ∀ ref ∈ valid, '[' ∉ ref.toList) (h : ScrubKeeps policy valid output) :
    NoTokenInKept policy valid output := by
  obtain ⟨scrubbed, hscrub, hkeeps⟩ := h
  obtain ⟨hres, hversion, -, hclaims⟩ := scrubLaneOutput_eq_some hscrub
  have hpairs := forall₂_of_mapM hres
  refine noTokenInKept_iff.mpr ⟨?_, ?_, ?_, ?_⟩
  · refine not_contains_of_no_bracket ?_
    rw [← hversion, hkeeps.version, version_of_schema hschema]
    decide
  · intro claim hc
    have hid := hkeeps.claimIds (scrubClaim (r2IdentityReplacements policy) claim) (by
      rw [hclaims]
      exact List.mem_map_of_mem hc)
    exact not_contains_of_no_bracket (no_bracket_of_idPattern hid)
  · intro residual hr token htoken
    -- a token would have left a bracket, which no kept field may contain
    obtain ⟨y, hy, hxy⟩ := exists_of_forall₂_left hpairs hr
    obtain ⟨hid, hs, hd, hc, -⟩ := scrubResidual_eq_some hxy
    have hbracket := no_bracket_of_spelling
    refine ⟨?_, ?_, ?_, ?_⟩
    · exact not_contains_of_no_bracket
        (hid ▸ no_bracket_of_idPattern (hkeeps.residualIds y hy)) token htoken
    · exact not_contains_of_no_bracket (hs ▸ hbracket.1 y.severity) token htoken
    · exact not_contains_of_no_bracket (hd ▸ hbracket.2.1 y.disposition) token htoken
    · exact not_contains_of_no_bracket (hc ▸ hbracket.2.2 y.closureState) token htoken
  · intro ref hmem hvalid
    have hall := hkeeps.references
    rw [scrubbed_references hscrub] at hall
    have hresolves := List.forall₂_same.mp (List.forall₂_map_right_iff.mp hall) ref hmem hvalid
    exact not_contains_of_no_bracket (hrefs _ hresolves)

end keeps

/-! ### The law of the scrubber -/

/-- **A scrubbed lane output is one**, if no identity token occurs in the
    version, in an id, in the spelling of an enumeration or in a reference that
    resolves; and only then, as long as no reference of the snapshot has a
    bracket (with one, a rewritten reference may happen to resolve too). -/
theorem scrub_keeps_lane_output_iff (policy : Policy) (snapshot : SnapshotManifest)
    (output : LaneOutput) (hschema : Schema.laneOutput output = true)
    (hclaims : (output.claims.map (·.id)).Nodup)
    (hresiduals : (output.residuals.map (·.id)).Nodup) :
    (NoTokenInKept policy (allowedEvidenceRefs snapshot) output →
      ScrubKeeps policy (allowedEvidenceRefs snapshot) output) ∧
    ((∀ ref ∈ allowedEvidenceRefs snapshot, '[' ∉ ref.toList) →
      ScrubKeeps policy (allowedEvidenceRefs snapshot) output →
      NoTokenInKept policy (allowedEvidenceRefs snapshot) output) :=
  ⟨scrubKeeps_of_noToken hschema hclaims hresiduals, noToken_of_scrubKeeps hschema⟩

def sampleLaneResidual : Residual where
  id := "leak"
  severity := .high
  residualType := "security"
  source := "review"
  finding := "a key is logged"
  evidenceRefs := ["snapshot://docs/log.md"]
  disposition := .unresolved
  requiredClosure := "remove it"
  closureState := .open
  closureEvidence := []
  scope := "logging"

def sampleLaneOutput : LaneOutput where
  laneOutputVersion := "1.0"
  taskRestatement := "review the log"
  verdict := "revise"
  confidence := 1 / 4
  claims := []
  residuals := [sampleLaneResidual]
  uncertainties := []
  limitations := []

def sampleSnapshot : SnapshotManifest where
  snapshotVersion := "1.0"
  createdAt := ""
  entries := [{ (default : SnapshotEntry) with snapshotRef := "snapshot://docs/log.md" }]
  attachments := []
  totalBytes := 0

theorem scrub_keeps_lane_output_sample :
    ScrubKeeps (Policy.samplePolicy "lane-a") (allowedEvidenceRefs sampleSnapshot) sampleLaneOutput :=
  (scrub_keeps_lane_output_iff (Policy.samplePolicy "lane-a") sampleSnapshot sampleLaneOutput
    (by decide +kernel) (by decide) (by decide)).1 (by decide +kernel)

/-- **A route named like a severity**: the policy is valid, and no output with
    a residual of that severity can be scrubbed. -/
theorem scrub_breaks_lane_output :
    ¬ ∀ (policy : Policy) (snapshot : SnapshotManifest) (output : LaneOutput),
      policy.validate = .ok () → Schema.laneOutput output = true →
      (output.claims.map (·.id)).Nodup → (output.residuals.map (·.id)).Nodup →
      ScrubKeeps policy (allowedEvidenceRefs snapshot) output := by
  intro h
  obtain ⟨scrubbed, hscrub, -⟩ := h (Policy.samplePolicy "high") sampleSnapshot
    sampleLaneOutput (by decide +kernel) (by decide +kernel) (by decide) (by decide)
  have hnone : scrubLaneOutput sampleLaneOutput
      (r2IdentityReplacements (Policy.samplePolicy "high")) = none := by
    decide +kernel
  exact nomatch hnone.symm.trans hscrub

end Quinte
