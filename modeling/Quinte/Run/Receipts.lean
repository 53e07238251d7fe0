import Mathlib
import Quinte.Evidence.References
import Quinte.Merge.Verdicts
import Quinte.Run.Lanes

/-! # Receipts and submissions

    The bindings of R3 in `run.rs`: the receipt over everything R3 reads, the
    Primary Arbiter's challenge and packet, and the two-step acceptance of a
    response.  The checks read the run directory and nothing else, so each is
    a function of its state.
-/

namespace Quinte.Run

open Program

/-! ### The R3 input receipt -/

/-- `sha256_file` of a file that may be missing. -/
def fileDigest {α : Type} (digest : α → Digest) : Option α → Except String Digest
  | none => .error "cannot read artifact"
  | some a => .ok (digest a)

/-- `verify_artifact_binding`, given the digest of the file at `expectedRef`. -/
def verifyArtifactBinding (binding : ArtifactBinding) (expectedRef : String)
    (actual : Except String Digest) : Except String Unit := do
  Policy.require (binding.artifactRef == expectedRef)
    ("R3 artifact binding changed: expected " ++ expectedRef)
  Policy.require ((← actual) == binding.sha256) ("R3 accepted artifact changed: " ++ expectedRef)

/-- `verify_phase_bindings`. -/
def verifyPhaseBindings (host : Host) (s : RunDir) (policy : Policy) (phase : String)
    (bindings : List LaneArtifactBinding) : Except String Unit :=
  if phase = "R2" ∧ s.r2Skipped = true then
    Policy.require bindings.isEmpty "R2 was skipped but the input receipt still lists R2 lanes"
  else do
    Policy.require (bindings.length == policy.roster.length)
      (phase ++ " input receipt has the wrong lane count")
    policy.roster.forM fun route =>
      match bindings.find? fun binding => binding.routeId = route.routeId with
      | none => .error (phase ++ " input receipt is missing " ++ route.routeId)
      | some binding => do
        let expectedRef := "lanes/" ++ phase ++ "/" ++ route.routeId ++ "/accepted.json"
        Policy.require (binding.partyId == route.partyId && binding.artifactRef == expectedRef)
          (phase ++ " input receipt route binding changed for " ++ route.routeId)
        verifyArtifactBinding { artifactRef := binding.artifactRef, sha256 := binding.sha256 }
          expectedRef (fileDigest host.laneDigest (s.accepted phase route.routeId))

/-- `verify_r3_input_receipt`. -/
def verifyR3InputReceipt (host : Host) (s : RunDir) (policy : Policy) (manifest : RunManifest) :
    Except String Unit := do
  match manifest.r3InputReceipt with
  | none => .error "R3 input receipt binding is missing"
  | some binding =>
    Policy.require (binding.artifactRef == "r3/input-receipt.json")
      "R3 input receipt has an invalid artifact reference"
    match s.inputReceipt with
    | none => .error "cannot read r3/input-receipt.json"
    | some receipt =>
      Policy.require (host.inputReceiptDigest receipt == binding.sha256)
        "R3 input receipt changed after scheduler acceptance"
      Policy.require (Schema.r3InputReceipt receipt) "R3 input receipt does not match its schema"
      Policy.require (receipt.runId == manifest.runId) "R3 input receipt belongs to another run"
      verifyPhaseBindings host s policy "R1" receipt.r1
      verifyPhaseBindings host s policy "R2" receipt.r2
      verifyArtifactBinding receipt.evidencePacket "r3/evidence-packet.json"
        (fileDigest host.evidencePacketDigest s.evidencePacket)
      verifyArtifactBinding receipt.ccResponse "r3/cc-response.json"
        (fileDigest host.verdictDigest s.ccResponse)

/-- `phase_artifact_bindings`. -/
def phaseArtifactBindings (host : Host) (s : RunDir) (phase : String) (lanes : List LaneAccepted) :
    Except String (List LaneArtifactBinding) :=
  lanes.mapM fun lane => do
    let sha256 ← fileDigest host.laneDigest (s.accepted phase lane.routeId)
    return {
      partyId := lane.partyId
      routeId := lane.routeId
      artifactRef := lane.artifactRef
      sha256 := sha256 }

/-- The receipt that `ensure_r3_input_receipt` issues. -/
def r3InputReceipt (host : Host) (s : RunDir) (manifest : RunManifest) (r1 r2 : List LaneAccepted)
    (issuedAt : Nat) : Except String R3InputReceipt := do
  let r1 ← phaseArtifactBindings host s "R1" r1
  let r2 ← phaseArtifactBindings host s "R2" r2
  let evidencePacket ← fileDigest host.evidencePacketDigest s.evidencePacket
  let ccResponse ← fileDigest host.verdictDigest s.ccResponse
  let receipt : R3InputReceipt := {
    inputReceiptVersion := "1.0"
    runId := manifest.runId
    issuedAt := issuedAt
    r1 := r1
    r2 := r2
    evidencePacket := { artifactRef := "r3/evidence-packet.json", sha256 := evidencePacket }
    ccResponse := { artifactRef := "r3/cc-response.json", sha256 := ccResponse } }
  Policy.require (Schema.r3InputReceipt receipt) "R3 input receipt does not match its schema"
  return receipt

/-- `ensure_r3_input_receipt`: the manifest with the receipt bound, and what the
    check of the receipt says. -/
def ensureR3InputReceipt (host : Host) (policy : Policy) (manifest : RunManifest)
    (r1 r2 : List LaneAccepted) : Proc (RunManifest × Except String Unit) := do
  if manifest.r3InputReceipt.isSome then
    let checked ← Prog.read fun s => verifyR3InputReceipt host s policy manifest
    return (manifest, checked)
  else do
    let issuedAt ← Proc.utcNow
    let receipt ← Prog.ofExcept (← Prog.read fun s =>
      r3InputReceipt host s manifest r1 r2 issuedAt)
    Prog.modify fun s => { s with inputReceipt := some receipt }
    let manifest := { manifest with
      r3InputReceipt := some {
        artifactRef := "r3/input-receipt.json"
        sha256 := host.inputReceiptDigest receipt } }
    let checked ← Prog.read fun s => verifyR3InputReceipt host s policy manifest
    return (manifest, checked)

/-! ### The challenge -/

/-- `create_primary_arbiter_challenge`. It expires after a day. -/
def createPrimaryArbiterChallenge (host : Host) (manifest : RunManifest) (brief : Brief) :
    Proc PrimaryArbiterChallenge := do
  match manifest.r3InputReceipt with
  | none => Prog.throw "R3 input receipt is missing"
  | some binding =>
    let nonce ← Prog.answer Answer.nonce
    let evidencePacket ← Prog.ofExcept (← Prog.read fun s =>
      fileDigest host.evidencePacketDigest s.evidencePacket)
    let issuedAt ← Proc.utcNow
    let now ← Proc.utcNow
    return {
      challengeVersion := "1.0"
      runId := manifest.runId
      nonce := nonce
      policySha256 := manifest.policySha256
      evidencePacketSha256 := evidencePacket
      inputReceiptSha256 := binding.sha256
      actionScope := brief.actionScope
      issuedAt := issuedAt
      expiresAt := now + 24 * 60 * 60 * 1000
      consumed := false }

/-- The fields of the challenge that a response has to repeat. -/
def boundFields (challenge : PrimaryArbiterChallenge) (response : PrimaryArbiterResponse) : Bool :=
  challenge.runId == response.runId && challenge.nonce == response.nonce
    && challenge.policySha256 == response.policySha256
    && challenge.evidencePacketSha256 == response.evidencePacketSha256
    && challenge.inputReceiptSha256 == response.inputReceiptSha256
    && challenge.actionScope == response.actionScope

/-- `validate_primary_arbiter_response_binding`. -/
def validatePrimaryArbiterResponseBinding (host : Host) (s : RunDir) (manifest : RunManifest)
    (response : PrimaryArbiterResponse) (brief : Brief) : Except String Unit := do
  match manifest.primaryArbiterChallenge with
  | none => .error "primary arbiter challenge is missing"
  | some challenge =>
    let evidencePacket ← fileDigest host.evidencePacketDigest s.evidencePacket
    Policy.require
      (boundFields challenge response && response.runId == manifest.runId
        && response.policySha256 == manifest.policySha256
        && response.evidencePacketSha256 == evidencePacket
        && (manifest.r3InputReceipt.any fun binding =>
          response.inputReceiptSha256 == binding.sha256)
        && response.actionScope == brief.actionScope)
      "primary-arbiter response does not bind the active challenge"

/-- `validate_new_primary_arbiter_response`. -/
def validateNewPrimaryArbiterResponse (host : Host) (s : RunDir) (manifest : RunManifest)
    (response : PrimaryArbiterResponse) (brief : Brief) (now : Nat) : Except String Unit := do
  validatePrimaryArbiterResponseBinding host s manifest response brief
  match manifest.primaryArbiterChallenge with
  | none => .error "primary arbiter challenge is missing"
  | some challenge =>
    Policy.require (!challenge.consumed) "primary arbiter challenge was already consumed"
    Policy.require (now ≤ challenge.expiresAt) "primary arbiter challenge expired"

/-- `bound_primary_response`. -/
def boundPrimaryResponse (manifest : RunManifest) (verdict : ArbiterVerdict) :
    Except String PrimaryArbiterResponse :=
  match manifest.primaryArbiterChallenge with
  | none => .error "primary arbiter challenge is missing"
  | some challenge => .ok {
      primaryArbiterResponseVersion := "1.0"
      runId := challenge.runId
      nonce := challenge.nonce
      policySha256 := challenge.policySha256
      evidencePacketSha256 := challenge.evidencePacketSha256
      inputReceiptSha256 := challenge.inputReceiptSha256
      actionScope := challenge.actionScope
      verdict := verdict }

/-! ### The packet of an automatic Primary Arbiter -/

/-- The packet that `ensure_primary_arbiter_packet` compares or writes. -/
def primaryArbiterPacket (s : RunDir) (manifest : RunManifest) :
    Except String PrimaryArbiterPacket :=
  match manifest.r3InputReceipt, s.evidencePacket, s.ccResponse with
  | none, _, _ => .error "R3 input receipt is missing"
  | _, none, _ => .error "cannot read r3/evidence-packet.json"
  | _, _, none => .error "cannot read r3/cc-response.json"
  | some receipt, some evidencePacket, some verdict => .ok {
      primaryArbiterPacketVersion := "1.0"
      runId := manifest.runId
      inputReceiptSha256 := receipt.sha256
      evidencePacket := evidencePacket
      counterpartArbiterVerdict := verdict }

/-- `verify_primary_arbiter_packet`. -/
def verifyPrimaryArbiterPacket (s : RunDir) (manifest : RunManifest) : Except String Unit :=
  match s.primaryPacket with
  | none => .ok ()
  | some existing => do
    let packet ← primaryArbiterPacket s manifest
    Policy.require (existing == packet) "primary arbiter packet changed after creation"

/-- `ensure_primary_arbiter_packet`. -/
def ensurePrimaryArbiterPacket (manifest : RunManifest) : Proc Unit := do
  let packet ← Prog.ofExcept (← Prog.read fun s => primaryArbiterPacket s manifest)
  match ← Prog.read (·.primaryPacket) with
  | some existing =>
    Prog.ensure (existing == packet) "primary arbiter packet changed after creation"
  | none => Prog.modify fun s => { s with primaryPacket := some packet }

/-! ### Submissions -/

/-- The response file that a receipt names. -/
def responseFile (s : RunDir) (responseRef : String) : Option PrimaryArbiterResponse :=
  if responseRef = "r3/primary-arbiter-response.json" then s.primaryResponse
  else if responseRef = "r3/hm-response.json" then s.hmResponse
  else none

/-- The digest of the response file that a receipt names. -/
def responseFileDigest (host : Host) (s : RunDir) (responseRef : String) : Option Digest :=
  if responseRef = "r3/primary-arbiter-response.json" then
    s.primaryResponse.map host.responseDigest
  else if responseRef = "r3/hm-response.json" then s.hmResponse.map host.hmResponseDigest
  else none

/-- `read_owned_primary_arbiter_response`. -/
def readOwnedPrimaryArbiterResponse (s : RunDir) (manifest : RunManifest) :
    Except String PrimaryArbiterResponse := do
  match manifest.primaryArbiterSubmission with
  | none => .error "primary-arbiter submission receipt is missing"
  | some receipt =>
    let ambiguous ←
      if receipt.responseRef = "r3/primary-arbiter-response.json" then .ok s.hmResponse.isSome
      else if receipt.responseRef = "r3/hm-response.json" then .ok s.primaryResponse.isSome
      else .error "primary-arbiter submission has an invalid artifact reference"
    Policy.require (!ambiguous) "primary-arbiter submission has ambiguous response artifacts"
    match responseFile s receipt.responseRef with
    | none => .error ("cannot read " ++ receipt.responseRef)
    | some response =>
      Policy.require (Schema.primaryArbiterResponse response)
        "primary-arbiter response does not match its schema"
      return response

/-- The manifest after the acceptance of a staged submission. -/
def acceptSubmission (manifest : RunManifest) (receipt : PrimaryArbiterSubmissionReceipt)
    (now : Nat) : RunManifest :=
  { manifest with
    primaryArbiterSubmission := some { receipt with state := .accepted, acceptedAt := some now }
    primaryArbiterChallenge := manifest.primaryArbiterChallenge.map fun challenge =>
      { challenge with consumed := true } }

/-- `recover_primary_arbiter_submission`: the manifest it leaves, or `none` where
    the submission is not ready. -/
def recoverPrimaryArbiterSubmission (host : Host) (s : RunDir) (manifest : RunManifest)
    (brief : Brief) (now : Nat) : Except String (Option RunManifest) := do
  match manifest.primaryArbiterSubmission with
  | none => return none
  | some receipt =>
    match responseFileDigest host s receipt.responseRef with
    | none =>
      if receipt.state = .staging then return none
      else .error "accepted primary-arbiter response artifact is missing"
    | some digest =>
      Policy.require (digest == receipt.responseSha256)
        "primary-arbiter response changed after scheduler staging"
      match manifest.r3InputReceipt with
      | none => .error "R3 input receipt is missing"
      | some inputReceipt =>
        Policy.require (receipt.inputReceiptSha256 == inputReceipt.sha256)
          "primary arbiter submission does not bind the accepted R3 inputs"
        let response ← readOwnedPrimaryArbiterResponse s manifest
        validatePrimaryArbiterResponseBinding host s manifest response brief
        if receipt.state = .staging then return some (acceptSubmission manifest receipt now)
        else do
          Policy.require (manifest.primaryArbiterChallenge.any (·.consumed))
            "accepted primary arbiter receipt has an unconsumed challenge"
          return some manifest

/-- The receipt of a response that is about to be written. -/
def stagingReceipt (host : Host) (response : PrimaryArbiterResponse) (inputReceipt : Digest)
    (stagedAt : Nat) : PrimaryArbiterSubmissionReceipt where
  submissionReceiptVersion := "1.0"
  state := .staging
  responseRef := "r3/primary-arbiter-response.json"
  responseSha256 := host.responseDigest response
  inputReceiptSha256 := inputReceipt
  stagedAt := stagedAt
  acceptedAt := none

/-- The manifest that announces a new response. -/
def stageReceipt (host : Host) (manifest : RunManifest) (response : PrimaryArbiterResponse)
    (stagedAt : Nat) : Except String RunManifest :=
  match manifest.r3InputReceipt with
  | none => .error "R3 input receipt is missing"
  | some binding => .ok { manifest with
      primaryArbiterSubmission := some (stagingReceipt host response binding.sha256 stagedAt) }

/-- `save_manifest` of a manifest that the caller goes on with in any case. -/
def saveOwned (me : Pid) (manifest : RunManifest) : Proc (RunManifest × Except String Unit) := do
  return (manifest, ← (Store.saveManifest me manifest).attempt)

/-- Write the response that the receipt announces, and accept it. -/
def acceptResponse (me : Pid) (host : Host) (manifest : RunManifest) (brief : Brief)
    (response : PrimaryArbiterResponse) : Proc (RunManifest × Except String Unit) := do
  Prog.modify fun s => { s with primaryResponse := some response }
  let now ← Proc.utcNow
  match ← Prog.read fun s => recoverPrimaryArbiterSubmission host s manifest brief now with
  | .error e => return (manifest, .error e)
  | .ok none =>
    return (manifest, .error "primary-arbiter response could not be durably accepted")
  | .ok (some accepted) => saveOwned me accepted

/-- The checks of `stage_primary_response`, and the response they rewrite. -/
def checkNewResponse (host : Host) (s : RunDir) (manifest : RunManifest) (brief : Brief)
    (response : PrimaryArbiterResponse) (now : Nat) : Except String PrimaryArbiterResponse := do
  validateNewPrimaryArbiterResponse host s manifest response brief now
  let (verdict, _) ← validateArbiterSemantics (allowedEvidenceRefs s.inputs.snapshot)
    response.verdict
  return { response with verdict := verdict }

/-- `stage_primary_response`: the manifest it leaves, also where it fails. -/
def stagePrimaryResponse (me : Pid) (host : Host) (manifest : RunManifest) (brief : Brief)
    (response : PrimaryArbiterResponse) : Proc (RunManifest × Except String Unit) := do
  let now ← Proc.utcNow
  match ← Prog.read fun s => checkNewResponse host s manifest brief response now with
  | .error e => return (manifest, .error e)
  | .ok response =>
    let stagedAt ← Proc.utcNow
    match stageReceipt host manifest response stagedAt with
    | .error e => return (manifest, .error e)
    | .ok staged =>
      match ← saveOwned me staged with
      | (staged, .error e) => return (staged, .error e)
      | (staged, .ok ()) => acceptResponse me host staged brief response

end Quinte.Run
