import Mathlib
import Quinte.Finance.Tampering
import Quinte.Framework.Recovery

/-! # The journal of a transition

    A manifest is replaced in four durable steps: the journal is published, the
    event is appended to the ledger, the manifest is written, and the journal
    is removed.  After a crash `reconcilePending` completes what the journal
    says.  Both functions read everything before their first step, so each is a
    list of steps or an error.
-/

namespace Quinte.Finance

open Policy (require require_ok bind_ok forM_ok)
open Json (Codec)
open Schemas (validateValue validateValue_ok maxSafeJsonInteger)
open Recovery (perform)

variable (P : Platform)

/-- A durable step in a state directory. -/
abbrev Step := FileStep UInt8

/-! ### Artifacts -/

/-- One artifact of `validate_state_artifacts`. -/
def validateStateArtifact (state : FileTree Bytes) (binding : PortableBinding) :
    Except String Unit := do
  validatePortableRelativePath binding.artifactRef
  let bytes ← context ("pending transition artifact is absent: " ++ binding.artifactRef)
    (state.file binding.artifactRef)
  let value ← parseStrictJson P bytes
  verifyPortableBinding P binding bytes value binding.contractFamily binding.revision
    binding.semanticDomain

/-- `validate_state_artifacts`. -/
def validateStateArtifacts (state : FileTree Bytes) (manifest : FinanceRunManifest) :
    Except String Unit :=
  (manifestArtifactBindings manifest).forM (validateStateArtifact P state)

/-! ### The journal -/

/-- `decode_canonical_base64`. -/
def decodeCanonicalBase64 (encoded : String) (expectedLength : UInt64) : Except String Bytes := do
  require (expectedLength.toNat ≤ maxSafeJsonInteger)
    "pending transition byte length exceeds the I-JSON safe integer range"
  let bytes ← context "pending transition contains invalid base64" (Base64.decode encoded.toList)
  require (Base64.encode bytes == encoded.toList && bytes.length == expectedLength.toNat)
    "pending transition base64 or byte length is not canonical"
  return bytes

/-- The artifacts that an event names. -/
def FinanceRunEventBody.artifactBindings : FinanceRunEventBody → List FinanceArtifactIdentity
  | .runCreated payload => payload.artifactBindings
  | .phaseAdvanced payload => payload.artifactBindings
  | .runTerminalized payload => payload.artifactBindings

/-- The status before an event. -/
def FinanceRunEventBody.previousStatus : FinanceRunEventBody → Option FinanceRunStatus
  | .runCreated _ => none
  | .phaseAdvanced payload => some payload.previousStatus
  | .runTerminalized payload => some payload.previousStatus

/-- `validate_event_target`. -/
def validateEventTarget (event : FinanceRunEvent) (target : FinanceRunManifest)
    (oldCheckpoint : Option FinanceEventCheckpoint) :
    Except String (Option FinanceRunStatus) := do
  require
    (event.runId == target.runId && event.runGenesisDigest == target.runGenesisDigest
      && event.sequence == (oldCheckpoint.map fun checkpoint => checkpoint.sequence + 1).getD 0
      && event.previousEventSha256 == oldCheckpoint.map (·.eventSha256)
      && manifestArtifactIdentities target == event.body.artifactBindings)
    "pending finance event does not bind its exact target manifest graph"
  match event.body with
  | .runCreated payload =>
      require (oldCheckpoint.isNone && payload.status == target.status)
        "invalid finance run.created transition"
  | .phaseAdvanced payload =>
      require (payload.status == target.status && !target.status.terminal)
        "invalid finance run.phase_advanced transition"
  | .runTerminalized payload =>
      require
        (payload.status == target.status && payload.result == target.result.map artifactIdentity
          && payload.termination == target.termination
          && target.termination.all (·.phase == payload.previousStatus)
          && target.status.terminal)
        "invalid finance run.terminalized transition"
  require (legalTransition event.body.previousStatus target.status)
    "pending finance event carries an illegal status transition"
  return event.body.previousStatus

/-- `validate_pending`. -/
def validatePending (state : FileTree Bytes) (pending : PendingFinanceTransition) :
    Except String (FinanceRunManifest × Bytes × FinanceRunEvent × Bytes) := do
  require (pending.pendingTransitionVersion == "2.0") "unsupported finance pending transition"
  let eventBytes ← decodeCanonicalBase64 pending.eventBytesBase64 pending.eventByteLength
  let manifestBytes ←
    decodeCanonicalBase64 pending.targetManifestBytesBase64 pending.targetManifestByteLength
  require
    (exactDigest P eventBytes == pending.eventExactSha256
      && exactDigest P manifestBytes == pending.targetManifestExactSha256)
    "pending transition exact byte digest mismatch"
  let eventValue ← parseStrictJson P eventBytes
  validateValue eventValue Schemas.runEvent
  let event ← fromValue FinanceRunEvent.codec eventValue
  let line ← canonicalEventLine event
  require (line == eventBytes && transitionOperation event.body == pending.operation)
    "pending transition event bytes or operation mismatch"
  let manifestValue ← parseStrictJson P manifestBytes
  validateValue manifestValue Schemas.runManifest
  let manifest ← fromValue FinanceRunManifest.codec manifestValue
  require
    (pending.runId == manifest.runId && pending.runGenesisDigest == manifest.runGenesisDigest
      && manifest.eventCheckpoint.sequence == event.sequence
      && manifest.eventCheckpoint.eventSha256 == pending.eventExactSha256
      && pending.artifactBindings == manifestArtifactBindings manifest)
    "pending transition target identity or artifact list mismatch"
  let _ ← validateEventTarget event manifest pending.oldEventCheckpoint
  validateStateArtifacts P state manifest
  return (manifest, manifestBytes, event, eventBytes)

/-! ### A transition -/

/-- The manifest of a state directory, with its bytes. -/
def currentManifest (state : FileTree Bytes) :
    Except String (Option (Bytes × FinanceRunManifest)) :=
  match state.file "manifest.json" with
  | none => .ok none
  | some bytes => do
      let value ← parseStrictJson P bytes
      let manifest ← fromValue FinanceRunManifest.codec value
      return some (bytes, manifest)

/-- What must hold of the manifest that is replaced. -/
def validateOld (state : FileTree Bytes) : Option FinanceRunManifest → Except String Unit
  | some old => do
      validateValue (toValue FinanceRunManifest.codec old) Schemas.runManifest
      validateStateArtifacts P state old
      verifyManifestCheckpoint P state old
  | none => do
      let ledger ← readFinanceLedger P state
      require ledger.events.isEmpty "finance event ledger exists without its creation manifest"

/-- `transition_id`. -/
def transitionId (target : FinanceRunManifest) (event : FinanceRunEvent)
    (oldManifestExactSha256 : Option String)
    (eventExactSha256 targetManifestExactSha256 : String) : Except String String :=
  semanticDigest P "quinte.finance-transition-id.v1" (.obj [
    ("run_id", .str target.runId),
    ("run_genesis_digest", .str target.runGenesisDigest),
    ("sequence", .int event.sequence.toNat),
    ("operation", .str (transitionOperation event.body)),
    ("old_manifest_exact_sha256", (oldManifestExactSha256.map Json.str).getD .null),
    ("event_exact_sha256", .str eventExactSha256),
    ("target_manifest_exact_sha256", .str targetManifestExactSha256)])

/-- `u64::try_from` of a length. -/
def lengthU64 (bytes : Bytes) : Except String UInt64 :=
  if bytes.length < 2 ^ 64 then .ok (UInt64.ofNat bytes.length)
  else .error "out of range integral type conversion attempted"

def base64 (bytes : Bytes) : String := String.ofList (Base64.encode bytes)

/-- The journal that `transition_with_pending` publishes. -/
def pendingOf (old : Option (Bytes × FinanceRunManifest)) (event : FinanceRunEvent)
    (eventBytes : Bytes) (target : FinanceRunManifest) (targetBytes : Bytes) :
    Except String PendingFinanceTransition := do
  let oldManifestExactSha256 := old.map fun (bytes, _) => exactDigest P bytes
  let transitionId ← transitionId P target event oldManifestExactSha256
    (exactDigest P eventBytes) (exactDigest P targetBytes)
  let eventByteLength ← lengthU64 eventBytes
  let targetManifestByteLength ← lengthU64 targetBytes
  return {
    pendingTransitionVersion := "2.0"
    runId := target.runId
    runGenesisDigest := target.runGenesisDigest
    transitionId := transitionId
    operation := transitionOperation event.body
    oldManifestExactSha256 := oldManifestExactSha256
    oldEventCheckpoint := old.map fun (_, manifest) => manifest.eventCheckpoint
    eventExactSha256 := exactDigest P eventBytes
    eventByteLength := eventByteLength
    eventBytesBase64 := base64 eventBytes
    targetManifestExactSha256 := exactDigest P targetBytes
    targetManifestByteLength := targetManifestByteLength
    targetManifestBytesBase64 := base64 targetBytes
    artifactBindings := manifestArtifactBindings target }

/-- The steps of a transition. -/
def transitionSteps (pending : PendingFinanceTransition) (eventBytes targetBytes : Bytes) :
    List Step :=
  [.write "pending-transition.json" (toVecPretty PendingFinanceTransition.codec pending),
    .append "events.jsonl" eventBytes,
    .write "manifest.json" targetBytes,
    .remove "pending-transition.json"]

/-- `transition_with_pending`: the manifest with its checkpoint, and the steps. -/
def transitionWithPending (state : FileTree Bytes) (manifest : FinanceRunManifest) :
    Except String (FinanceRunManifest × List Step) := do
  require (state.file "pending-transition.json").isNone
    "finance transition journal must be reconciled before a new transition"
  let old ← currentManifest P state
  validateOld P state (old.map (·.2))
  let event ← buildTransitionEvent (old.map (·.2)) manifest
  let eventBytes ← canonicalEventLine event
  let target := { manifest with
    eventCheckpoint := { sequence := event.sequence, eventSha256 := exactDigest P eventBytes } }
  validateValue (toValue FinanceRunManifest.codec target) Schemas.runManifest
  validateStateArtifacts P state target
  let targetBytes := toVecPretty FinanceRunManifest.codec target
  let pending ← pendingOf P old event eventBytes target targetBytes
  validateValue (toValue PendingFinanceTransition.codec pending) Schemas.pendingTransition
  return (target, transitionSteps pending eventBytes targetBytes)

/-! ### Reconciliation -/

/-- The checks of the manifest that is about to be replaced. -/
def validateReplaced (state : FileTree Bytes) (pending : PendingFinanceTransition)
    (event : FinanceRunEvent) : Option Bytes → Except String Unit
  | some bytes => do
      let value ← parseStrictJson P bytes
      let old ← fromValue FinanceRunManifest.codec value
      require
        (some old.status == event.body.previousStatus
          && some old.eventCheckpoint == pending.oldEventCheckpoint
          && old.runId == pending.runId && old.runGenesisDigest == pending.runGenesisDigest)
        "finance pending transition old manifest identity mismatch"
      validateStateArtifacts P state old
  | none =>
      require (pending.oldManifestExactSha256.isNone && pending.oldEventCheckpoint.isNone)
        "finance pending transition unexpectedly lost its old manifest"

/-- The journal of a state directory. -/
def readPending (state : FileTree Bytes) : Except String (Option PendingFinanceTransition) :=
  match state.file "pending-transition.json" with
  | none => .ok none
  | some bytes => do
      let value ← parseStrictJson P bytes
      validateValue value Schemas.pendingTransition
      let pending ← fromValue PendingFinanceTransition.codec value
      return some pending

/-- The steps that complete the transition of a journal. -/
def reconcileSteps (state : FileTree Bytes) (pending : PendingFinanceTransition) :
    Except String (List Step) := do
  let (target, targetBytes, event, eventBytes) ← validatePending P state pending
  let currentBytes := state.file "manifest.json"
  let currentDigest := currentBytes.map (exactDigest P)
  let manifestIsOld := currentDigest == pending.oldManifestExactSha256
  let manifestIsTarget := currentDigest == some pending.targetManifestExactSha256
  require (manifestIsOld || manifestIsTarget)
    "finance pending transition manifest is neither exact old nor exact target bytes"
  let ledger ← readFinanceLedger P state
  let ledgerIsOld := ledger.checkpoint == pending.oldEventCheckpoint
  let ledgerIsTarget := ledger.checkpoint == some target.eventCheckpoint
    && ledger.lines.getLast? == some eventBytes
  require (ledgerIsOld || ledgerIsTarget)
    "finance pending transition ledger is neither exact old head nor exact target event"
  require (!(manifestIsTarget && !ledgerIsTarget))
    "finance pending transition manifest is ahead of its event ledger"
  if manifestIsOld then
    validateReplaced P state pending event currentBytes
    return (if ledgerIsOld then [FileStep.append "events.jsonl" eventBytes] else [])
      ++ [.write "manifest.json" targetBytes, .remove "pending-transition.json"]
  else
    return [.remove "pending-transition.json"]

/-- `reconcile_pending`. -/
def reconcilePending (state : FileTree Bytes) : Except String (List Step) := do
  match ← readPending P state with
  | none => return []
  | some pending => reconcileSteps P state pending

/-! ### What the functions say -/

section spec

variable {P} {state : FileTree Bytes} {old : Option FinanceRunManifest}
  {manifest target : FinanceRunManifest} {event : FinanceRunEvent} {line : Bytes}

theorem depth_runManifest : FinanceRunManifest.codec.depth ≤ 100 := by decide

/-- What `build_transition_event` returns. -/
theorem buildTransitionEvent_ok :
    buildTransitionEvent old target = .ok event ↔
      legalTransition (old.map (·.status)) target.status = true ∧
      (∀ o ∈ old, o.runId = target.runId ∧ o.runGenesisDigest = target.runGenesisDigest) ∧
      ((old.map fun o => saturatingSucc o.eventCheckpoint.sequence).getD 0).toNat
        ≤ maxSafeJsonInteger ∧
      event = {
        eventVersion := "2.0"
        runId := target.runId
        runGenesisDigest := target.runGenesisDigest
        sequence := (old.map fun o => saturatingSucc o.eventCheckpoint.sequence).getD 0
        previousEventSha256 := old.map (·.eventCheckpoint.eventSha256)
        body := transitionBody (old.map (·.status)) target } := by
  simp only [buildTransitionEvent, bind_ok, exists_unit, require_ok, pure_ok, Option.all_eq_true,
    Bool.and_eq_true, beq_iff_eq, decide_eq_true_eq]
  exact and_congr_right fun _ => and_congr_right fun _ => and_congr_right fun _ => eq_comm

theorem currentManifest_ok {current : Option (Bytes × FinanceRunManifest)} :
    currentManifest P state = .ok current ↔
      state.file "manifest.json" = current.map (·.1) ∧
      ∀ c ∈ current, ∃ value, parseStrictJson P c.1 = .ok value ∧
        FinanceRunManifest.codec.dec value = some c.2 := by
  unfold currentManifest
  cases state.file "manifest.json" with
  | none => cases current <;> simp
  | some bytes =>
    simp only [bind_ok, pure_ok, fromValue_ok]
    constructor
    · rintro ⟨value, hvalue, m, hm, rfl⟩
      exact ⟨rfl, by rintro _ ⟨⟩; exact ⟨value, hvalue, hm⟩⟩
    · rintro ⟨hbytes, h⟩
      obtain ⟨_, rfl, rfl⟩ := Option.map_eq_some_iff.mp hbytes.symm
      obtain ⟨value, hvalue, hm⟩ := h _ rfl
      exact ⟨value, hvalue, _, hm, rfl⟩

/-- The checkpoint that a transition gives to its manifest. -/
def checkpointed (P : Platform) (manifest : FinanceRunManifest) (event : FinanceRunEvent)
    (line : Bytes) : FinanceRunManifest :=
  { manifest with
    eventCheckpoint := { sequence := event.sequence, eventSha256 := exactDigest P line } }

/-- What `transition_with_pending` returns. -/
theorem transitionWithPending_ok {steps : List Step} :
    transitionWithPending P state manifest = .ok (target, steps) ↔
      state.file "pending-transition.json" = none ∧ ∃ current event line pending,
        currentManifest P state = .ok current ∧
        validateOld P state (current.map (·.2)) = .ok () ∧
        buildTransitionEvent (current.map (·.2)) manifest = .ok event ∧
        canonicalEventLine event = .ok line ∧
        target = checkpointed P manifest event line ∧
        Schemas.runManifest.accepts (toValue FinanceRunManifest.codec target) = true ∧
        validateStateArtifacts P state target = .ok () ∧
        pendingOf P current event line target (toVecPretty FinanceRunManifest.codec target)
          = .ok pending ∧
        Schemas.pendingTransition.accepts (toValue PendingFinanceTransition.codec pending) = true ∧
        steps = transitionSteps pending line (toVecPretty FinanceRunManifest.codec target) := by
  simp only [transitionWithPending, bind_ok, exists_unit, require_ok, validateValue_ok, pure_ok,
    Option.isNone_iff_eq_none, Prod.mk.injEq]
  refine and_congr_right fun _ => ?_
  constructor
  · rintro ⟨current, hcurrent, hold, event, hevent, line, hline, htarget, hartifacts, pending,
      hpending, haccepts, rfl, rfl⟩
    exact ⟨current, event, line, pending, hcurrent, hold, hevent, hline, rfl, htarget, hartifacts,
      hpending, haccepts, rfl⟩
  · rintro ⟨current, event, line, pending, hcurrent, hold, hevent, hline, rfl, htarget, hartifacts,
      hpending, haccepts, rfl⟩
    exact ⟨current, hcurrent, hold, event, hevent, line, hline, htarget, hartifacts, pending,
      hpending, haccepts, rfl, rfl⟩

theorem saturatingSucc_of_safe {n : UInt64} (h : (saturatingSucc n).toNat ≤ maxSafeJsonInteger) :
    saturatingSucc n = n + 1 ∧ n.toNat + 1 < 2 ^ 64 := by
  unfold saturatingSucc at h ⊢
  split at h
  · rename_i hmax
    subst hmax
    exact absurd h (by decide)
  · rename_i hmax
    have hne : n.toNat ≠ 2 ^ 64 - 1 := fun heq => hmax (UInt64.toNat_inj.mp (by rw [heq]; rfl))
    have hlt := n.toNat_lt
    exact ⟨if_neg hmax, by omega⟩

theorem saturatingSucc_toNat {n : UInt64} (h : (saturatingSucc n).toNat ≤ maxSafeJsonInteger) :
    (saturatingSucc n).toNat = n.toNat + 1 := by
  obtain ⟨hsucc, hlt⟩ := saturatingSucc_of_safe h
  rw [hsucc, UInt64.toNat_add]
  exact Nat.mod_eq_of_lt hlt

/-- The last event of a ledger has the last number. -/
theorem sequence_of_checkpoint {ledger : FinanceLedger} (hledger : Chained P ledger)
    {checkpoint : FinanceEventCheckpoint} (h : ledger.checkpoint = some checkpoint) :
    checkpoint.sequence.toNat + 1 = ledger.events.length := by
  obtain ⟨event, hevent, hsequence, -⟩ := checkpoint_eq_some.mp h
  have hlast := congrArg List.getLast? hledger.sequences
  rw [List.getLast?_map, hevent, Option.map_some, hsequence, List.getLast?_range] at hlast
  have hpos : ledger.events ≠ [] := fun hnil => by
    rw [hnil] at hevent
    exact nomatch hevent
  have hlength := List.length_pos_of_ne_nil hpos
  split at hlast
  · omega
  · rw [Option.some.injEq] at hlast
    omega

/-- The line of a transition goes on with the ledger. -/
theorem readLedgerLine_transition (hold : validateOld P state old = .ok ())
    (hevent : buildTransitionEvent old manifest = .ok event)
    (hline : canonicalEventLine event = .ok line) :
    ∃ ledger, readFinanceLedger P state = .ok ledger ∧
      ledger.checkpoint = old.map (·.eventCheckpoint) ∧
      readLedgerLine P ledger line = .ok {
        events := ledger.events ++ [event], lines := ledger.lines ++ [line],
        digests := ledger.digests ++ [exactDigest P line] } := by
  obtain ⟨-, hrun, hsafe, hfields⟩ := buildTransitionEvent_ok.mp hevent
  -- the first event of a ledger, or one after the checkpoint of the old manifest
  cases old with
  | none =>
    simp only [validateOld, bind_ok, require_ok] at hold
    obtain ⟨ledger, hread, hempty⟩ := hold
    have hevents := List.isEmpty_iff.mp hempty
    obtain ⟨hchained, -⟩ := readFinanceLedger_ok hread
    have hlines : ledger.lines = [] := by
      rw [← List.length_eq_zero_iff, ← hchained.canonical.length_eq, hevents, List.length_nil]
    have hdigests : ledger.digests = [] := by rw [hchained.digests, hlines, List.map_nil]
    refine ⟨ledger, hread, ?_, readLedgerLine_ok.mpr ⟨event, hline, ?_, ?_, ?_, ?_, rfl⟩⟩
    · rw [FinanceLedger.checkpoint, hevents]
      rfl
    · rw [hfields]
    · rw [hfields, hevents]
      rfl
    · rw [hfields, hdigests]
      rfl
    · rw [hevents]
      exact fun _ h => by cases h
  | some o =>
    simp only [validateOld, bind_ok, exists_unit] at hold
    obtain ⟨-, -, hverify⟩ := hold
    obtain ⟨ledger, hread, hcheckpoint, tail, htail, hid, hgenesis⟩ :=
      verifyManifestCheckpoint_ok.mp hverify
    obtain ⟨hchained, -⟩ := readFinanceLedger_ok hread
    obtain ⟨-, -, -, hdigest⟩ := checkpoint_eq_some.mp hcheckpoint
    obtain ⟨hid', hgenesis'⟩ := hrun o rfl
    refine ⟨ledger, hread, hcheckpoint, readLedgerLine_ok.mpr ⟨event, hline, ?_, ?_, ?_, ?_, rfl⟩⟩
    · rw [hfields]
    · rw [hfields, ← sequence_of_checkpoint hchained hcheckpoint]
      exact saturatingSucc_toNat hsafe
    · rw [hfields, hdigest]
      rfl
    · intro first hfirst
      obtain ⟨hfirstId, hfirstGenesis⟩ := hchained.oneRun tail (List.mem_of_getLast? htail) first
        (List.mem_of_head? hfirst)
      rw [hfields]
      exact ⟨hid'.symm.trans (hid.symm.trans hfirstId),
        hgenesis'.symm.trans (hgenesis.symm.trans hfirstGenesis)⟩

/-- A directory after all steps of a transition. -/
theorem file_transitionSteps (pending : PendingFinanceTransition) (line bytes : Bytes)
    (state : FileTree Bytes) :
    (perform FileStep.apply (transitionSteps pending line bytes) state).file "events.jsonl"
        = some ((state.file "events.jsonl").getD [] ++ line) ∧
      (perform FileStep.apply (transitionSteps pending line bytes) state).file "manifest.json"
        = some bytes := by
  simp [transitionSteps, FileStep.apply]

end spec

/-! ### The transition that creates a run -/

/-- The bytes that all artifacts of the run have. -/
def sampleArtifact : Bytes := valuePretty .null

/-- An artifact, by its revision. -/
def sampleBound (revision : Nat) : PortableBinding where
  artifactRef := "artifact.json"
  contractFamily := "finance-task-packet"
  schemaId := none
  revision := toString revision
  exactSha256 := digestOf '3'
  semanticDomain := "quinte.finance-task-packet.v2"
  semanticSha256 := digestOf '4'

def sampleTarget : FinanceRunManifest where
  manifestVersion := "3.0"
  protocolVersion := "2.0"
  runId := "run"
  runGenesisDigest := digestOf '0'
  eventCheckpoint := { sequence := 0, eventSha256 := digestOf '1' }
  status := .r1Running
  termination := none
  policy := sampleBound 0
  invocation := sampleBound 1
  r1Packets := [2, 3, 4, 5, 6].map sampleBound
  r2Packets := []
  r1Outputs := []
  r2Outputs := []
  arbiterOutputs := []
  result := none

def sampleEvent : FinanceRunEvent where
  eventVersion := "2.0"
  runId := "run"
  runGenesisDigest := digestOf '0'
  sequence := 0
  previousEventSha256 := none
  body := transitionBody none sampleTarget

def sampleLine : Bytes := canonical FinanceRunEvent.codec sampleEvent ++ [10]

def sampleTargetBytes : Bytes := toVecPretty FinanceRunManifest.codec sampleTarget

/-- A platform on which the digests of the run are what its documents say. -/
def samplePlatform : Platform := .assigning [
  (sampleLine, digestOf '1'), (sampleTargetBytes, digestOf '2'), (sampleArtifact, digestOf '3'),
  (asBytes "quinte.finance-task-packet.v2" ++ 0 :: sampleArtifact, digestOf '4')]

/-- The artifact alone. -/
def sampleStart : FileTree Bytes := FileTree.ofList [("artifact.json", sampleArtifact)]

theorem samplePlatform_injective : Function.Injective samplePlatform.sha256 := by
  have hne : ∀ {c d}, c ≠ d → digestOf c ≠ digestOf d := fun h heq => h (digestOf_injective heq)
  refine Platform.assigning_injective ?_ ?_
  · simp [hne]
  · have hhead : ∀ c, (digestOf c).toList.head? ≠ some '=' := fun c => by
      have hfirst : "sha256:".toList.head? = some 's' := rfl
      rw [toList_digestOf, List.head?_append, hfirst]
      simp
    simp [hhead]

theorem getLast?_sampleTargetBytes : sampleTargetBytes.getLast? = some 125 := by
  rw [sampleTargetBytes]
  exact getLast?_toVecPretty (enc_runManifest sampleTarget) (List.cons_ne_nil _ _)

theorem samplePlatform_digests :
    exactDigest samplePlatform sampleLine = digestOf '1' ∧
      exactDigest samplePlatform sampleTargetBytes = digestOf '2' ∧
      exactDigest samplePlatform sampleArtifact = digestOf '3' ∧
      samplePlatform.sha256 (asBytes "quinte.finance-task-packet.v2" ++ 0 :: sampleArtifact)
        = digestOf '4' := by
  -- the documents are told apart by their last bytes
  have hline : sampleLine.getLast? = some 10 := by rw [sampleLine, List.getLast?_concat]
  have htarget := getLast?_sampleTargetBytes
  have hnull : sampleArtifact.getLast? = some 108 := by decide
  have hbound : (asBytes "quinte.finance-task-packet.v2" ++ 0 :: sampleArtifact).getLast?
      = some 108 := by decide
  have hzero : sampleArtifact ≠ asBytes "quinte.finance-task-packet.v2" ++ 0 :: sampleArtifact := by
    decide
  have hne : ∀ {a b : Bytes} {x y}, a.getLast? = some x → b.getLast? = some y → x ≠ y → a ≠ b := by
    rintro a b x y ha hb hxy rfl
    exact hxy (Option.some.inj (ha.symm.trans hb))
  have hnodup : [sampleLine, sampleTargetBytes, sampleArtifact,
      asBytes "quinte.finance-task-packet.v2" ++ 0 :: sampleArtifact].Nodup := by
    simp only [List.nodup_cons, List.mem_cons, List.not_mem_nil, or_false, not_or]
    exact ⟨⟨hne hline htarget (by decide), hne hline hnull (by decide), hne hline hbound (by decide)⟩,
      ⟨hne htarget hnull (by decide), hne htarget hbound (by decide)⟩, hzero, not_false,
      List.nodup_nil⟩
  rw [exactDigest, exactDigest, exactDigest, samplePlatform]
  exact ⟨Platform.assigning_mem hnodup (.head _), Platform.assigning_mem hnodup (.tail _ (.head _)),
    Platform.assigning_mem hnodup (.tail _ (.tail _ (.head _))),
    Platform.assigning_mem hnodup (.tail _ (.tail _ (.tail _ (.head _))))⟩

theorem accepts_sampleEvent :
    Schemas.runEvent.accepts (toValue FinanceRunEvent.codec sampleEvent) = true := by
  have hnodup : (manifestArtifactIdentities sampleTarget).Nodup :=
    List.Nodup.of_map (·.revision) (by decide)
  rw [accepts_toValue, sampleEvent, transitionBody, accepts_runCreated, wellFormedArtifacts,
    decide_eq_true hnodup]
  simp [manifestArtifactIdentities, manifestArtifactBindings, sampleTarget, sampleBound,
    artifactIdentity, FinanceArtifactIdentity.wellFormed, isDigest_digits]

theorem canonicalEventLine_sampleEvent : canonicalEventLine sampleEvent = .ok sampleLine :=
  canonicalEventLine_ok.mpr ⟨accepts_sampleEvent, rfl⟩

theorem wellFormed_sampleBound (n : Nat) : (sampleBound n).wellFormed = (toString n != "") := by
  simp [sampleBound, PortableBinding.wellFormed, artifactIdentity,
    FinanceArtifactIdentity.wellFormed, isDigest_digits]

theorem accepts_sampleTarget :
    Schemas.runManifest.accepts (toValue FinanceRunManifest.codec sampleTarget) = true := by
  rw [accepts_toValue]
  refine accepts_runManifest_r1Running sampleTarget rfl ⟨rfl, rfl⟩ (by decide) (isDigest_digits _ (by simp))
    ?_ ⟨?_, ?_⟩
    ⟨?_, rfl, List.Nodup.of_map (·.revision) (by decide)⟩ ⟨rfl, rfl, rfl, rfl, rfl, rfl⟩
  · simp [sampleTarget, FinanceEventCheckpoint.wellFormed, isDigest_digits]
  · rw [sampleTarget, wellFormed_sampleBound]
    decide
  · rw [sampleTarget, wellFormed_sampleBound]
    decide
  · simp only [sampleTarget, List.all_map, Function.comp_def, wellFormed_sampleBound]
    decide

theorem validate_sampleTarget {state : FileTree Bytes}
    (hfile : state.file "artifact.json" = some sampleArtifact) :
    validateStateArtifacts samplePlatform state sampleTarget = .ok () := by
  obtain ⟨-, -, hexact, hsemantic⟩ := samplePlatform_digests
  have hparse : parseStrictJson samplePlatform sampleArtifact = .ok .null :=
    parseStrictJson_text Json.pretty (v := .null) (n := 0) trivial (by decide) rfl
  have hdigest : semanticDigest samplePlatform "quinte.finance-task-packet.v2" .null
      = .ok (digestOf '4') := by
    rw [← hsemantic]
    rfl
  have hbound : ∀ n, validateStateArtifact samplePlatform state (sampleBound n) = .ok () := by
    intro n
    simp only [validateStateArtifact, bind_ok, exists_unit, validatePortableRelativePath, require_ok,
      context_ok, verifyPortableBinding_ok]
    have hpath : portableRelativePath "artifact.json" = true := by decide
    have hfamily : "finance-task-packet" ≠ "finance-review-result" := by decide
    refine ⟨hpath, _, hfile, _, hparse, hpath, ⟨trivial, trivial, trivial, ?_⟩, hexact.symm, hdigest⟩
    exact fun h => absurd h hfamily
  refine forM_ok.mpr fun b hb => ?_
  simp only [manifestArtifactBindings, sampleTarget, List.map_cons, List.map_nil,
    Option.toList_none, List.append_nil, List.cons_append, List.nil_append, List.mem_cons,
    List.not_mem_nil, or_false] at hb
  rcases hb with rfl | rfl | rfl | rfl | rfl | rfl | rfl <;> exact hbound _

theorem sampleEvent_built : buildTransitionEvent none sampleTarget = .ok sampleEvent :=
  buildTransitionEvent_ok.mpr ⟨rfl, fun _ h => (nomatch h), by decide, rfl⟩

/-- The documents of the run are not long. -/
theorem length_sampleLine : sampleLine.length ≤ maxSafeJsonInteger := by
  have hlength := length_canonical_le (C := FinanceRunEvent.codec) sampleEvent
  have hextent : Json.extent Json.compact 0 (FinanceRunEvent.codec.enc sampleEvent) ≤ 100000 := by
    decide +kernel
  rw [sampleLine, List.length_append, List.length_singleton, maxSafeJsonInteger]
  omega

theorem length_sampleTargetBytes : sampleTargetBytes.length ≤ maxSafeJsonInteger := by
  have hlength := length_toVecPretty_le (C := FinanceRunManifest.codec) sampleTarget
  have hextent : Json.extent Json.pretty 0 (FinanceRunManifest.codec.enc sampleTarget)
      ≤ 100000 := by decide +kernel
  rw [sampleTargetBytes, maxSafeJsonInteger]
  omega

/-- The journal of the run, with an id. -/
def samplePending (id : String) : PendingFinanceTransition where
  pendingTransitionVersion := "2.0"
  runId := "run"
  runGenesisDigest := digestOf '0'
  transitionId := id
  operation := "create"
  oldManifestExactSha256 := none
  oldEventCheckpoint := none
  eventExactSha256 := digestOf '1'
  eventByteLength := UInt64.ofNat sampleLine.length
  eventBytesBase64 := base64 sampleLine
  targetManifestExactSha256 := digestOf '2'
  targetManifestByteLength := UInt64.ofNat sampleTargetBytes.length
  targetManifestBytesBase64 := base64 sampleTargetBytes
  artifactBindings := manifestArtifactBindings sampleTarget

theorem accepts_samplePending {id : String} (hid : id ≠ "") : Schemas.pendingTransition.accepts
    (toValue PendingFinanceTransition.codec (samplePending id)) = true := by
  have hbase64 : ∀ {bytes : Bytes}, bytes ≠ [] →
      Schemas.canonicalBase64.accepts (.str (base64 bytes)) = true := by
    intro bytes hbytes
    have hfour := Base64.four_le_length_encode hbytes
    simp [Schemas.canonicalBase64, Json.Schema.textWith, base64, Base64.canonical_encode, hfour]
  have hpositive : ∀ {bytes : Bytes}, bytes ≠ [] → bytes.length ≤ maxSafeJsonInteger →
      Schemas.safePositiveInteger.accepts (.int (UInt64.ofNat bytes.length).toNat) = true := by
    intro bytes hbytes hlength
    have hpos := List.length_pos_of_ne_nil hbytes
    rw [UInt64.toNat_ofNat_of_lt' (by rw [maxSafeJsonInteger] at hlength; rw [UInt64.size]; omega)]
    simp only [Schemas.safePositiveInteger, Json.Schema.integer, Bool.and_eq_true, decide_eq_true_eq,
      Option.all_some]
    exact ⟨by omega, by exact_mod_cast hlength⟩
  have hline' : sampleLine ≠ [] := by simp [sampleLine]
  have htarget' : sampleTargetBytes ≠ [] := fun heq => by
    have hlast := getLast?_sampleTargetBytes
    rw [heq] at hlast
    cases hlast
  rw [accepts_toValue]
  have hrun : "run" ≠ "" := by decide
  have hbindings : (manifestArtifactBindings sampleTarget).all (·.wellFormed) = true := by
    simp [manifestArtifactBindings, sampleTarget, wellFormed_sampleBound]
  have hnodup : (manifestArtifactBindings sampleTarget).Nodup :=
    List.Nodup.of_map (·.revision) (by decide)
  exact accepts_pendingTransition_create _ rfl hrun (isDigest_digits _ (by simp)) hid rfl ⟨rfl, rfl⟩
    ⟨isDigest_digits _ (by simp), isDigest_digits _ (by simp)⟩ ⟨hpositive hline' length_sampleLine, hbase64 hline'⟩
    ⟨hpositive htarget' length_sampleTargetBytes, hbase64 htarget'⟩ ⟨hbindings, hnodup⟩

/-- No digest of the platform is empty, or begins with another letter. -/
theorem samplePlatform_head (bytes : Bytes) :
    (samplePlatform.sha256 bytes).toList.head? = some '='
      ∨ (samplePlatform.sha256 bytes).toList.head? = some 's' := by
  have hfirst : "sha256:".toList.head? = some 's' := rfl
  have hdigest : ∀ c, (digestOf c).toList.head? = some 's' := fun c => by
    rw [toList_digestOf, List.head?_append, hfirst, Option.some_or]
  rcases Platform.assigning_cases _ bytes with h | ⟨e, he, h⟩
  · have hequals : "=".toList.head? = some '=' := rfl
    refine .inl ?_
    rw [samplePlatform, h, String.toList_append, List.head?_append, hequals, Option.some_or]
  · refine .inr ?_
    rw [samplePlatform, h]
    simp only [List.mem_cons, List.not_mem_nil, or_false] at he
    rcases he with rfl | rfl | rfl | rfl <;> exact hdigest _

/-- The journal that the transition writes. -/
theorem pendingOf_sample : ∃ id, id ≠ "" ∧ id ≠ "forged" ∧
    transitionId samplePlatform sampleTarget sampleEvent none (digestOf '1') (digestOf '2')
      = .ok id ∧
    pendingOf samplePlatform none sampleEvent sampleLine sampleTarget sampleTargetBytes
      = .ok (samplePending id) := by
  obtain ⟨hline, htarget, -, -⟩ := samplePlatform_digests
  obtain ⟨hlength, hlength'⟩ : sampleLine.length < 2 ^ 64 ∧ sampleTargetBytes.length < 2 ^ 64 := by
    have hline := length_sampleLine
    have htarget := length_sampleTargetBytes
    rw [maxSafeJsonInteger] at hline htarget
    omega
  obtain ⟨bytes, hid⟩ : ∃ bytes, transitionId samplePlatform sampleTarget sampleEvent none
      (digestOf '1') (digestOf '2') = .ok (samplePlatform.sha256 bytes) := by
    simp only [transitionId, semanticDigest, canonicalJson, bind_ok, exists_unit, require_ok,
      pure_ok]
    exact ⟨_, by decide, _, ⟨rfl, rfl⟩, rfl⟩
  have hhead := samplePlatform_head bytes
  generalize samplePlatform.sha256 bytes = id at hid hhead
  refine ⟨id, ?_, ?_, hid, ?_⟩
  · rintro rfl
    exact absurd hhead (by decide)
  · rintro rfl
    exact absurd hhead (by decide)
  · simp only [pendingOf, hline, htarget, Option.map_none, bind_ok, pure_ok, lengthU64, hlength,
      hlength', if_true]
    exact ⟨id, hid, _, rfl, _, rfl, rfl⟩

end Quinte.Finance
