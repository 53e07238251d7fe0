import Mathlib
import Quinte.Run.Scheduling

/-! # Rewritten evidence references

    `run_attempt` checks the output of an attempt and rewrites its references
    in place, and `accept_or_retry_lane` does so once more and records what
    it rewrote.  Whatever run it is, there is nothing left to rewrite the
    second time: what was rewritten at all is not recorded.
-/

namespace Quinte.Run

open Program

/-! ### The references of an accepted lane -/

/-- The references of an output, as rewritten, position by position. -/
theorem references_remapLaneOutput (valid : List String) (output : LaneOutput) :
    (remapLaneOutput valid output).references
      = output.references.map fun reference => (remapped valid reference).getD reference := by
  simp [LaneOutput.references, remapLaneOutput, remapClaim, remapResidual, remapEvidenceRefs,
    List.flatMap_map, List.map_flatMap]

/-- A pair of references has its place in an `evidence.refs_remapped` event of
    the attempt. -/
def PairRecorded (s : RunDir) (phase partyId : String) (attempt : Nat) (pair : String × String) :
    Prop :=
  ∃ e ∈ s.events, e.eventType = "evidence.refs_remapped" ∧ e.phase = some phase
    ∧ e.partyId = some partyId ∧ e.attempt = some attempt
    ∧ ∃ pairs, e.data = .other (remappedText pairs) ∧ pair ∈ pairs

/-- Every reference that was accepted in place of another one is recorded with it. -/
def RemappingsRecorded (s : RunDir) (phase partyId : String) (attempt : Nat)
    (returned accepted : LaneOutput) : Prop :=
  ∀ pair ∈ returned.references.zip accepted.references,
    pair.1 ≠ pair.2 → PairRecorded s phase partyId attempt pair

section recorded

variable {s : RunDir} {phase partyId : String} {attempt : Nat} {valid : List String}
  {returned accepted : LaneOutput} {pairs : List (String × String)}

theorem not_pairRecorded (h : remappings s = []) (pair : String × String) :
    ¬PairRecorded s phase partyId attempt pair := by
  rintro ⟨e, he, htype, -⟩
  have hmem : e ∈ remappings s := List.mem_filter.mpr ⟨he, by simpa using htype⟩
  rw [h] at hmem
  exact nomatch hmem

/-- Where nothing is recorded, the references are those that pass the check as
    they are. -/
theorem remappingsRecorded_iff (h : remappings s = [])
    (hchecked : validateEvidenceRefs valid returned = .ok (accepted, pairs)) :
    RemappingsRecorded s phase partyId attempt returned accepted ↔
      ∀ reference ∈ returned.references, Resolvable valid reference := by
  obtain ⟨-, -, hresolvable, rfl, -⟩ := validateEvidenceRefs_ok.mp hchecked
  constructor
  · intro hrecorded reference hmem
    by_contra hmissing
    have hplace : (reference, (remapped valid reference).getD reference)
        ∈ returned.references.zip (remapLaneOutput valid returned).references := by
      rw [references_remapLaneOutput, List.zip_map_right, List.zip_eq_zipWith]
      simpa using hmem
    have hrewritten : Resolvable valid ((remapped valid reference).getD reference) :=
      hresolvable _ (List.of_mem_zip hplace).2
    refine not_pairRecorded h _ (hrecorded _ hplace fun hsame => ?_)
    exact hmissing ((congrArg (Resolvable valid) hsame).mpr hrewritten)
  · intro hall pair hpair hdiffers
    rw [(remapLaneOutput_of_resolvable hall).1] at hpair
    have hsame : pair.1 = pair.2 := by
      rw [List.zip_eq_zipWith, List.zipWith_self, List.mem_map] at hpair
      obtain ⟨reference, -, rfl⟩ := hpair
      rfl
    exact absurd hsame hdiffers

end recorded

/-! ### Over runs -/

/-- **Rewriting is silent**: in every run, what a lane accepted is recorded next
    to what its last attempt returned exactly where there was nothing to
    record. -/
theorem remappings_recorded_iff {s : RunDir} {c : Pool Pid RunDir Answer String} (h : NewRun s)
    (hrun : LaneRun (fun _ _ _ => True) s c) {phase routeId : String} {accepted : LaneOutput}
    (haccepted : c.shared.accepted phase routeId = some accepted) :
    ∃ returned,
      c.shared.stdout phase routeId (highestAttempt (c.shared.attempts phase routeId))
          = some (.lane returned)
        ∧ ∀ partyId, RemappingsRecorded c.shared phase partyId
            (highestAttempt (c.shared.attempts phase routeId)) returned accepted ↔
          ∀ reference ∈ returned.references,
            Resolvable (allowedEvidenceRefs s.inputs.snapshot) reference := by
  obtain ⟨-, hremapped, hinv⟩ := run_inOrder h hrun
  obtain ⟨returned, pairs, hstdout, hchecked⟩ := (hinv.lane phase routeId).sourced accepted haccepted
  exact ⟨returned, hstdout, fun partyId => remappingsRecorded_iff hremapped hchecked⟩

/-! ### A reference that is cited almost right -/

/-- A run whose snapshot has one file. -/
def citedDir : RunDir :=
  { createdDir with
    inputs := { createdDir.inputs with
      snapshot := {
        snapshotVersion := "1.0"
        createdAt := ""
        entries := [{
          snapshotRef := "snapshot://report"
          sourceName := "report"
          sha256 := 0
          bytes := 0
          mediaType := "text/plain" }]
        attachments := []
        totalBytes := 0 }
      snapshotFile := fun _ => some 0 } }

/-- A review with one claim that cites the reference. -/
def citing (reference : String) : LaneOutput where
  laneOutputVersion := "1.0"
  taskRestatement := "review"
  verdict := "revise"
  confidence := 0
  claims := [{
    id := "c1"
    statement := "it holds"
    evidenceRefs := [reference]
    confidence := 0
    category := "evidence"
    warrant := none
    qualifier := none }]
  residuals := []
  uncertainties := []
  limitations := []

/-- What the outside answers where every attempt returns that review. -/
def citingAnswer (reference : String) : Answer :=
  { sampleAnswer with
    execution := .ok {
      output := some (.lane (citing reference))
      error := none
      retry := .never
      timedOut := false
      cancelled := false
      cleanupError := none } }

/-- A process advances the run to the end of R1. -/
def reviewing (reference : String) : List (Pool.Command Pid RunDir Answer String) :=
  .start 0 (advance 0 sampleHost >>= fun _ => pure ()) ::
    List.replicate 250 (.move 0 (citingAnswer reference))

theorem reviewing_within (reference : String) :
    ∀ x ∈ reviewing reference, x.Within RunCommand := by
  intro x hx
  rcases List.mem_cons.mp hx with rfl | hx
  · exact RunCommand.advance sampleHost
  · rw [List.eq_of_mem_replicate hx]
    trivial

/-- The run to the end of R1. -/
def reviewed (reference : String) : Option (Pool Pid RunDir Answer String) :=
  Pool.schedule (fun _ _ _ => True) (fun me s => s.control (·.release me)) (reviewing reference)
    (Pool.idle citedDir)

theorem newRun_citedDir : NewRun citedDir :=
  ⟨⟨0, rfl⟩, rfl, fun _ => rfl⟩

theorem laneRun_of_reviewed {reference : String} {c : Pool Pid RunDir Answer String}
    (h : reviewed reference = some c) : LaneRun (fun _ _ _ => True) citedDir c :=
  Pool.run_of_schedule _ Pool.Run.refl (reviewing_within reference) h

/-- What route `a` returned and what was accepted of it, with the records. -/
def reviewOf (c : Pool Pid RunDir Answer String) :
    Option AdapterOutput × Option LaneOutput × List Event :=
  (c.shared.stdout "R1" "a" (highestAttempt (c.shared.attempts "R1" "a")),
    c.shared.accepted "R1" "a", remappings c.shared)

/-- A reference that is cited as it is. -/
theorem remappings_recorded_iff_sample : ∃ c, LaneRun (fun _ _ _ => True) citedDir c
    ∧ c.shared.accepted "R1" "a" = some (citing "snapshot://report")
    ∧ ∃ returned, RemappingsRecorded c.shared "R1" "alpha"
        (highestAttempt (c.shared.attempts "R1" "a")) returned (citing "snapshot://report") := by
  have hreview : (reviewed "snapshot://report").map reviewOf
      = some (some (.lane (citing "snapshot://report")), some (citing "snapshot://report"), []) := by
    decide +kernel
  obtain ⟨c, hc, hreview⟩ := Option.map_eq_some_iff.mp hreview
  have hrun := laneRun_of_reviewed hc
  obtain ⟨hstdout, haccepted, -⟩ := Prod.mk.inj hreview |>.imp_right Prod.mk.inj
  obtain ⟨returned, hreturned, hiff⟩ :=
    remappings_recorded_iff newRun_citedDir hrun haccepted
  refine ⟨c, hrun, haccepted, returned, (hiff "alpha").mpr fun reference hmem => ?_⟩
  obtain rfl : citing "snapshot://report" = returned := by
    simpa using hstdout.symm.trans hreturned
  have hcited : reference = "snapshot://report" := by
    simpa [LaneOutput.references, citing] using hmem
  exact Or.inr (hcited ▸ by decide +kernel)

/-- **A reference that misses by one letter**: it is accepted as rewritten, and
    the ledger says nothing of it. -/
theorem remapping_not_recorded : ¬∀ (s : RunDir) (c : Pool Pid RunDir Answer String), NewRun s →
    LaneRun (fun _ _ _ => True) s c → ∀ (phase routeId : String) (returned accepted : LaneOutput),
      c.shared.stdout phase routeId (highestAttempt (c.shared.attempts phase routeId))
        = some (.lane returned) →
      c.shared.accepted phase routeId = some accepted →
      ∃ partyId, RemappingsRecorded c.shared phase partyId
        (highestAttempt (c.shared.attempts phase routeId)) returned accepted := by
  intro hall
  have hreview : (reviewed "snapshot://reports").map reviewOf
      = some (some (.lane (citing "snapshot://reports")), some (citing "snapshot://report"), []) := by
    decide +kernel
  obtain ⟨c, hc, hreview⟩ := Option.map_eq_some_iff.mp hreview
  obtain ⟨hstdout, haccepted, hnone⟩ := Prod.mk.inj hreview |>.imp_right Prod.mk.inj
  obtain ⟨partyId, hrecorded⟩ := hall citedDir c newRun_citedDir (laneRun_of_reviewed hc)
    "R1" "a" _ _ hstdout haccepted
  refine not_pairRecorded hnone ("snapshot://reports", "snapshot://report") (hrecorded _ ?_ ?_)
  · simp [LaneOutput.references, citing]
  · decide

end Quinte.Run
