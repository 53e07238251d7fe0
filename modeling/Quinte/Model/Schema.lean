import Mathlib
import Quinte.Model.RunDir

/-! # The embedded JSON schemas

    `validate_value` against each schema that the run reads or writes a
    document with, on the typed document.  What the types already say (an
    enumeration, a digest, a point in time, the set of keys) is not checked
    again; the length of a text is its number of characters.
-/

namespace Quinte.Schema

/-- `minLength` and `maxLength`. -/
def text (low high : Nat) (s : String) : Bool :=
  low ≤ s.length && s.length ≤ high

/-- The pattern `^[A-Za-z0-9._-]{1,64}$` of an id. -/
def idPattern (s : String) : Bool :=
  text 1 64 s && s.toList.all fun c => c.isAlphanum || c == '.' || c == '_' || c == '-'

/-- `identifier`: 1 to 128 characters, none of them white space. -/
def identifier (s : String) : Bool :=
  text 1 128 s && s.toList.all fun c => !isWhiteSpace c

def evidenceRefs (refs : List String) : Bool :=
  refs.length ≤ 30 && refs.all (text 0 1000)

/-! ### Lane outputs and verdicts -/

def claim (c : Claim) : Bool :=
  idPattern c.id && text 1 8000 c.statement && evidenceRefs c.evidenceRefs
    && (0 ≤ c.confidence && c.confidence ≤ 1) && text 1 100 c.category
    && c.warrant.all (text 1 2000) && c.qualifier.all (text 1 2000)

def residual (r : Residual) : Bool :=
  idPattern r.id && text 1 100 r.residualType && text 1 1000 r.source && text 1 8000 r.finding
    && evidenceRefs r.evidenceRefs && text 1 2000 r.requiredClosure
    && evidenceRefs r.closureEvidence && text 1 2000 r.scope

/-- `LANE_OUTPUT_SCHEMA`. -/
def laneOutput (o : LaneOutput) : Bool :=
  o.laneOutputVersion == "1.0" && text 1 4000 o.taskRestatement && text 1 20000 o.verdict
    && (0 ≤ o.confidence && o.confidence ≤ 1)
    && (o.claims.length ≤ 100 && o.claims.all claim)
    && (o.residuals.length ≤ 100 && o.residuals.all residual)
    && (o.uncertainties.length ≤ 100 && o.uncertainties.all (text 1 4000))
    && (o.limitations.length ≤ 100 && o.limitations.all (text 1 4000))

/-- `ARBITER_VERDICT_SCHEMA`. -/
def arbiterVerdict (v : ArbiterVerdict) : Bool :=
  v.arbiterVerdictVersion == "1.0" && text 1 20000 v.summary && text 1 20000 v.recommendation
    && (v.residuals.length ≤ 100 && v.residuals.all residual)

/-- `PRIMARY_ARBITER_RESPONSE_SCHEMA`. -/
def primaryArbiterResponse (r : PrimaryArbiterResponse) : Bool :=
  r.primaryArbiterResponseVersion == "1.0" && r.runId != "" && 32 ≤ r.nonce.length
    && r.actionScope.all (text 0 2000) && arbiterVerdict r.verdict

/-! ### The run's own documents -/

def seatBinding (b : SeatBinding) : Bool :=
  identifier b.seatId && identifier b.family && identifier b.provider && identifier b.textModel
    && identifier b.multimodalModel

/-- The party ids of the five lanes. -/
def lanePartyIds : List String := ["Party A", "Party B", "Party C", "Party D", "Party E"]

def routeBinding (b : RouteBinding) : Bool :=
  (lanePartyIds ++ ["Counterpart Arbiter", "Primary Arbiter"]).contains b.partyId
    && identifier b.routeId && identifier b.adapter && text 1 4000 b.executable
    && identifier b.family && identifier b.provider && identifier b.textModel
    && identifier b.multimodalModel && text 0 2000 b.perspective

def challenge (c : PrimaryArbiterChallenge) : Bool :=
  c.challengeVersion == "1.0" && c.runId != "" && 32 ≤ c.nonce.length

def submissionReceipt (r : PrimaryArbiterSubmissionReceipt) : Bool :=
  r.submissionReceiptVersion == "1.0"
    && (r.responseRef == "r3/primary-arbiter-response.json"
      || r.responseRef == "r3/hm-response.json")

/-- `RUN_MANIFEST_SCHEMA`. -/
def runManifest (m : RunManifest) : Bool :=
  m.manifestVersion == "2.0" && m.protocolVersion == "1.0" && text 1 128 m.effectiveModel
    && seatBinding m.seatBinding
    && (m.routeBindings.length == 7 && m.routeBindings.all routeBinding)
    && (m.error.all fun e => e.code != "" && e.message != "")
    && (m.r3InputReceipt.all fun b => b.artifactRef == "r3/input-receipt.json")
    && m.primaryArbiterChallenge.all challenge
    && m.primaryArbiterSubmission.all submissionReceipt

/-- `RUN_EVENT_SCHEMA`. -/
def runEvent (e : Event) : Bool :=
  e.eventVersion == "1.0" && 1 ≤ e.sequence && e.runId != "" && e.eventType != ""
    && e.attempt.all (1 ≤ ·)

def laneArtifactBinding (b : LaneArtifactBinding) : Bool :=
  lanePartyIds.contains b.partyId && b.routeId != "" && b.artifactRef != ""

/-- `R3_INPUT_RECEIPT_SCHEMA`. -/
def r3InputReceipt (r : R3InputReceipt) : Bool :=
  r.inputReceiptVersion == "1.0" && r.runId != ""
    && (r.r1.length == 5 && r.r1.all laneArtifactBinding)
    && (r.r2.length ≤ 5 && r.r2.all laneArtifactBinding)
    && r.evidencePacket.artifactRef != "" && r.ccResponse.artifactRef != ""

def trialPerspective (p : TrialPerspective) : Bool :=
  lanePartyIds.contains p.partyId && p.routeId != "" && p.r1Artifact != "" && p.r2Artifact != ""
    && p.independentFirstPass

def observedContestation (o : ObservedContestation) : Bool :=
  1 ≤ o.r1LaneCount && (0 ≤ o.contestedRate && o.contestedRate ≤ 1)

def trialManifest (t : TrialManifest) : Bool :=
  t.manifestVersion == "1.0"
    && ["same_model", "same_family", "different_family"].contains t.baseModelRelation
    && t.perspectiveCount == 5
    && (t.perspectives.length == 5 && t.perspectives.all trialPerspective)
    && t.observedContestation.all observedContestation

/-- `RESULT_SCHEMA`. -/
def result (r : ResultEnvelope) : Bool :=
  r.resultVersion == "2.1" && r.runId != ""
    && (r.status == .completed || r.status == .degraded)
    && text 1 20000 r.question && r.actionScope.all (text 0 2000)
    && (r.affectedPaths.length ≤ 1000 && decide r.affectedPaths.Nodup
      && r.affectedPaths.all (text 1 4000))
    && seatBinding r.seatBinding
    && (r.routeBindings.length == 7 && r.routeBindings.all routeBinding)
    && r.summary != "" && r.recommendation != ""
    && r.residuals.all residual && trialManifest r.trialManifest

end Quinte.Schema

namespace Quinte

/-! ### A run directory for examples -/

def sampleBinding (partyId : String) : RouteBinding where
  partyId := partyId
  routeId := partyId.map fun c => if c == ' ' then '-' else c
  adapter := "replay"
  executable := "adapter"
  family := "family"
  provider := "provider"
  textModel := "text"
  multimodalModel := "multimodal"
  perspective := ""

def sampleManifest (status : RunStatus) : RunManifest :=
  { (default : RunManifest) with
    manifestVersion := "2.0"
    runId := "run"
    status := status
    protocolVersion := "1.0"
    effectiveModel := "text"
    seatBinding := {
      seatId := "seat"
      family := "family"
      provider := "provider"
      textModel := "text"
      multimodalModel := "multimodal" }
    routeBindings := (Schema.lanePartyIds ++ ["Counterpart Arbiter", "Primary Arbiter"]).map
      sampleBinding }

example : Schema.runManifest (sampleManifest .queued) = true := by decide +kernel

/-- A run directory with nothing but a manifest. -/
def sampleDir (status : RunStatus) : RunDir where
  manifest := some (sampleManifest status)
  pending := none
  events := []
  cancelRequested := false
  result := none
  report := false
  locks := fun _ => none
  nextId := 0
  replaced := []
  intent := none
  flagAtLock := false
  publishing := false
  activeProcesses := []
  inputs := { brief := default, policy := default, snapshot := default, snapshotFile := fun _ => none }
  attempts := fun _ _ => []
  retryDeadlines := fun _ _ => none
  r2RateState := none
  stdout := fun _ _ _ => none
  accepted := fun _ _ => none
  clock := 0
  started := []
  scheduled := []
  unpaced := false
  stale := false
  r2Skipped := false
  r2Packet := none
  evidencePacket := none
  ccResponse := none
  inputReceipt := none
  primaryPacket := none
  primaryRequest := none
  primaryResponse := none
  hmResponse := none

end Quinte
