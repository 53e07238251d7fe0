import Mathlib
import Quinte.Finance.Review
import Quinte.Framework.HashChain

/-! # The event ledger

    A run's manifest changes only along `legalTransition`, and every change
    appends an event to the ledger: a line of canonical JSON that names the
    digest of the line before.  `expectedEventLedger` computes from a manifest
    the ledger that must stand beside it.
-/

namespace Quinte.Finance

open Policy (require require_ok bind_ok)
open Schemas (validateValue maxSafeJsonInteger)

variable (P : Platform)

/-! ### Transitions -/

/-- `legal_transition`. -/
def legalTransition : Option FinanceRunStatus → FinanceRunStatus → Bool
  | none, .r1Running => true
  | some .r1Running, .r2Running => true
  | some .r1Running, .failed | some .r1Running, .cancelled => true
  | some .r2Running, .failed | some .r2Running, .cancelled => true
  | some .r2Running, .merging => true
  | some .merging, .completed | some .merging, .degraded => true
  | some .merging, .failed | some .merging, .cancelled => true
  | _, _ => false

/-- `artifact_identity`: a binding without its place. -/
def artifactIdentity (binding : PortableBinding) : FinanceArtifactIdentity where
  contractFamily := binding.contractFamily
  schemaId := binding.schemaId
  revision := binding.revision
  exactSha256 := binding.exactSha256
  semanticDomain := binding.semanticDomain
  semanticSha256 := binding.semanticSha256

/-- `manifest_artifact_bindings`. -/
def manifestArtifactBindings (manifest : FinanceRunManifest) : List PortableBinding :=
  [manifest.policy, manifest.invocation] ++ manifest.r1Packets ++ manifest.r2Packets
    ++ manifest.r1Outputs ++ manifest.r2Outputs ++ manifest.arbiterOutputs ++ manifest.result.toList

/-- `manifest_artifact_identities`. -/
def manifestArtifactIdentities (manifest : FinanceRunManifest) : List FinanceArtifactIdentity :=
  (manifestArtifactBindings manifest).map artifactIdentity

/-- How many packets, outputs and verdicts there are, and whether there is a
    result. -/
def artifactCounts (manifest : FinanceRunManifest) : Nat × Nat × Nat × Nat × Nat × Bool :=
  (manifest.r1Packets.length, manifest.r2Packets.length, manifest.r1Outputs.length,
    manifest.r2Outputs.length, manifest.arbiterOutputs.length, manifest.result.isSome)

/-- The counts that belong to a phase. -/
def phaseCounts : FinanceRunStatus → Option (Nat × Nat × Nat × Nat × Nat × Bool)
  | .r1Running => some (5, 0, 0, 0, 0, false)
  | .r2Running => some (5, 5, 5, 0, 0, false)
  | .merging => some (5, 5, 5, 5, 2, false)
  | .completed | .degraded => some (5, 5, 5, 5, 2, true)
  | _ => none

/-- The phase whose artifacts a manifest has. -/
def countedPhase (manifest : FinanceRunManifest) : Except String FinanceRunStatus :=
  if manifest.status = .failed ∨ manifest.status = .cancelled then
    context "terminal finance manifest lacks typed termination facts"
      (manifest.termination.map (·.phase))
  else .ok manifest.status

/-- `validate_manifest_counts`. -/
def validateManifestCounts (manifest : FinanceRunManifest) : Except String Unit := do
  let phase ← countedPhase manifest
  require (phaseCounts phase == some (artifactCounts manifest))
    "finance manifest status has an illegal artifact-count projection"

/-- A run may end in one of the phases in which it runs. -/
def FinanceRunStatus.running (status : FinanceRunStatus) : Bool :=
  [r1Running, r2Running, merging].contains status

/-- `validate_manifest_termination`. -/
def validateManifestTermination (manifest : FinanceRunManifest) : Except String Unit :=
  match manifest.status, manifest.termination with
  | .failed, some termination =>
      require
        (termination.phase.running && !termination.retryable
          && termination.code != .operatorCancelled && manifest.result == none)
        "failed finance manifest has invalid typed termination facts"
  | .cancelled, some termination =>
      require
        (termination.phase.running && !termination.retryable
          && termination.code == .operatorCancelled && manifest.result == none)
        "cancelled finance manifest has invalid typed termination facts"
  | .failed, none | .cancelled, none =>
      .error "terminal finance manifest lacks typed termination facts"
  | _, none => .ok ()
  | _, some _ => .error "non-failure finance manifest carries termination facts"

/-! ### Events -/

/-- `transition_operation`. -/
def transitionOperation : FinanceRunEventBody → String
  | .runCreated _ => "create"
  | .phaseAdvanced _ => "advance"
  | .runTerminalized _ => "terminalize"

/-- `u64::saturating_add(1)`. -/
def saturatingSucc (n : UInt64) : UInt64 := if n = UInt64.ofNat (2 ^ 64 - 1) then n else n + 1

/-- The body of the event of a transition. -/
def transitionBody (oldStatus : Option FinanceRunStatus) (target : FinanceRunManifest) :
    FinanceRunEventBody :=
  match oldStatus with
  | none => .runCreated {
      status := target.status
      artifactBindings := manifestArtifactIdentities target }
  | some previousStatus =>
      if target.status.terminal then .runTerminalized {
        previousStatus := previousStatus
        status := target.status
        artifactBindings := manifestArtifactIdentities target
        result := target.result.map artifactIdentity
        termination := target.termination }
      else .phaseAdvanced {
        previousStatus := previousStatus
        status := target.status
        artifactBindings := manifestArtifactIdentities target }

/-- `build_transition_event`. -/
def buildTransitionEvent (old : Option FinanceRunManifest) (target : FinanceRunManifest) :
    Except String FinanceRunEvent := do
  require (legalTransition (old.map (·.status)) target.status)
    "illegal dormant finance manifest transition"
  require (old.all fun old =>
      old.runId == target.runId && old.runGenesisDigest == target.runGenesisDigest)
    "finance transition changed its run or genesis identity"
  let sequence := (old.map fun old => saturatingSucc old.eventCheckpoint.sequence).getD 0
  require (sequence.toNat ≤ maxSafeJsonInteger)
    "finance event sequence exceeds the I-JSON safe integer range"
  return {
    eventVersion := "2.0"
    runId := target.runId
    runGenesisDigest := target.runGenesisDigest
    sequence := sequence
    previousEventSha256 := old.map (·.eventCheckpoint.eventSha256)
    body := transitionBody (old.map (·.status)) target }

/-- `canonical_event_line`. -/
def canonicalEventLine (event : FinanceRunEvent) : Except String Bytes := do
  let value := toValue FinanceRunEvent.codec event
  validateValue value Schemas.runEvent
  let bytes ← canonicalJson value
  return bytes ++ [10]

/-- `placeholder_checkpoint`. -/
def placeholderCheckpoint : FinanceEventCheckpoint where
  sequence := 0
  eventSha256 := exactDigest P (asBytes "uncommitted finance transition")

/-! ### The expected ledger -/

/-- The line of a transition, and the checkpoint after it. -/
def transitionLine (old : Option FinanceRunManifest) (target : FinanceRunManifest)
    (sequence : UInt64) : Except String (Bytes × FinanceEventCheckpoint) := do
  let event ← buildTransitionEvent old target
  let line ← canonicalEventLine event
  return (line, { sequence := sequence, eventSha256 := exactDigest P line })

/-- The manifest at the start of the run. -/
def r1Manifest (target : FinanceRunManifest) : FinanceRunManifest :=
  { target with
    status := .r1Running
    termination := none
    r2Packets := []
    r1Outputs := []
    r2Outputs := []
    arbiterOutputs := []
    result := none
    eventCheckpoint := placeholderCheckpoint P }

/-- The manifest after the first phase. -/
def r2Manifest (target : FinanceRunManifest) : FinanceRunManifest :=
  { target with
    status := .r2Running
    termination := none
    r2Outputs := []
    arbiterOutputs := []
    result := none
    eventCheckpoint := placeholderCheckpoint P }

/-- The manifest before the result. -/
def mergingManifest (target : FinanceRunManifest) : FinanceRunManifest :=
  { target with
    status := .merging
    termination := none
    result := none
    eventCheckpoint := placeholderCheckpoint P }

/-- `expected_event_ledger`. -/
def expectedEventLedger (target : FinanceRunManifest) :
    Except String (Bytes × FinanceEventCheckpoint) := do
  require (target.status != .preflight)
    "unsupported dormant finance status for deterministic event reconstruction"
  let terminalPhase := target.termination.map (·.phase)
  let terminal := { target with eventCheckpoint := placeholderCheckpoint P }
  let (first, checkpoint) ← transitionLine P none (r1Manifest P target) 0
  let r1 := { r1Manifest P target with eventCheckpoint := checkpoint }
  if target.status = .r1Running then
    return (first, checkpoint)
  else if terminalPhase = some .r1Running then
    let (line, checkpoint) ← transitionLine P (some r1) terminal 1
    return (first ++ line, checkpoint)
  else
    let (second, checkpoint) ← transitionLine P (some r1) (r2Manifest P target) 1
    let r2 := { r2Manifest P target with eventCheckpoint := checkpoint }
    if target.status = .r2Running then
      return (first ++ second, checkpoint)
    else if terminalPhase = some .r2Running then
      let (line, checkpoint) ← transitionLine P (some r2) terminal 2
      return (first ++ second ++ line, checkpoint)
    else
      let (third, checkpoint) ← transitionLine P (some r2) (mergingManifest P target) 2
      let merging := { mergingManifest P target with eventCheckpoint := checkpoint }
      if target.status = .merging then
        return (first ++ second ++ third, checkpoint)
      else
        let (fourth, checkpoint) ← transitionLine P (some merging) terminal 3
        return (first ++ second ++ third ++ fourth, checkpoint)

/-! ### Reading the ledger -/

structure FinanceLedger where
  events : List FinanceRunEvent
  lines : List Bytes
  digests : List String
  deriving DecidableEq, Repr

/-- `FinanceLedger::checkpoint`. -/
def FinanceLedger.checkpoint (ledger : FinanceLedger) : Option FinanceEventCheckpoint :=
  match ledger.events.getLast?, ledger.digests.getLast? with
  | some event, some digest => some { sequence := event.sequence, eventSha256 := digest }
  | _, _ => none

/-- A line of the loop in `read_finance_ledger`. -/
def readLedgerLine (ledger : FinanceLedger) (line : Bytes) : Except String FinanceLedger := do
  require (line != [10]) "finance event ledger contains an empty line"
  let value ← parseStrictJson P line
  validateValue value Schemas.runEvent
  let event ← fromValue FinanceRunEvent.codec value
  let canonical ← canonicalEventLine event
  require (canonical == line) "finance event ledger line is not exact canonical JSON plus LF"
  require (event.eventVersion == "2.0" && event.sequence.toNat == ledger.events.length)
    "finance event ledger version or sequence is invalid"
  require (event.previousEventSha256 == ledger.digests.getLast?)
    "finance event ledger previous hash is invalid"
  require (ledger.events.head?.all fun first =>
      event.runId == first.runId && event.runGenesisDigest == first.runGenesisDigest)
    "finance event ledger contains a cross-run splice"
  return {
    events := ledger.events ++ [event]
    lines := ledger.lines ++ [line]
    digests := ledger.digests ++ [exactDigest P line] }

/-- `read_finance_ledger`. -/
def readFinanceLedger (state : FileTree Bytes) : Except String FinanceLedger := do
  let bytes := (state.file "events.jsonl").getD []
  require (bytes.isEmpty || bytes.getLast? == some 10)
    "finance event ledger has a torn final line"
  (HashChain.splitInclusive 10 bytes).foldlM (readLedgerLine P) ⟨[], [], []⟩

/-- `verify_manifest_checkpoint`. -/
def verifyManifestCheckpoint (state : FileTree Bytes) (manifest : FinanceRunManifest) :
    Except String Unit := do
  let ledger ← readFinanceLedger P state
  require (ledger.checkpoint == some manifest.eventCheckpoint)
    "finance manifest checkpoint does not equal the event ledger tail"
  let tail ← context "finance event ledger is empty" ledger.events.getLast?
  require (tail.runId == manifest.runId && tail.runGenesisDigest == manifest.runGenesisDigest)
    "finance manifest and event ledger identities differ"

/-- `verify_expected_event_ledger`. -/
def verifyExpectedEventLedger (state : FileTree Bytes) (manifest : FinanceRunManifest) :
    Except String Unit := do
  let (expectedBytes, expectedCheckpoint) ← expectedEventLedger P manifest
  require (manifest.eventCheckpoint == expectedCheckpoint)
    "finance event ledger is not the deterministic chain for its manifest graph"
  let bytes ← readFile state "events.jsonl"
  require (bytes == expectedBytes)
    "finance event ledger is not the deterministic chain for its manifest graph"
  verifyManifestCheckpoint P state manifest

end Quinte.Finance
