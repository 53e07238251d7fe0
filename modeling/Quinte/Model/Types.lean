import Mathlib

/-! # The data model

    The records a run reads and writes, with the fields of `model.rs`.  A
    path is a `String`, a point in time and a machine integer that no result
    depends on are a `Nat`, a digest is its 256 bits, and a confidence is the
    rational number its (finite) double stands for.
-/

namespace Quinte

/-- A SHA-256 digest: the value written `sha256:` and 64 hexadecimal digits. -/
abbrev Digest := BitVec 256

/-! ### Text -/

/-- The characters `str::trim` strips: the Unicode property `White_Space`. -/
def isWhiteSpace (c : Char) : Bool :=
  let n := c.toNat
  (9 ≤ n && n ≤ 13) || n == 0x20 || n == 0x85 || n == 0xA0 || n == 0x1680
    || (0x2000 ≤ n && n ≤ 0x200A) || n == 0x2028 || n == 0x2029 || n == 0x202F
    || n == 0x205F || n == 0x3000

/-- `str::trim`. -/
def trim (s : String) : String :=
  String.ofList (((s.toList.dropWhile isWhiteSpace).reverse.dropWhile isWhiteSpace).reverse)

/-! ### Residuals, lane outputs and verdicts -/

inductive Severity where
  | low | medium | high | critical | p0
  deriving DecidableEq, Repr, Inhabited

inductive Disposition where
  | verified | falsified | unresolved | escalated | discarded
  deriving DecidableEq, Repr, Inhabited

inductive ClosureState where
  | «open» | closed | blocked | waived | notApplicable
  deriving DecidableEq, Repr, Inhabited

/-- One unresolved finding of a lane or of an arbiter. -/
structure Residual where
  id : String
  severity : Severity
  residualType : String
  source : String
  finding : String
  evidenceRefs : List String
  disposition : Disposition
  requiredClosure : String
  closureState : ClosureState
  closureEvidence : List String
  scope : String
  deriving DecidableEq, Repr, Inhabited

structure Claim where
  id : String
  statement : String
  evidenceRefs : List String
  confidence : ℚ
  category : String
  warrant : Option String
  qualifier : Option String
  deriving DecidableEq, Repr, Inhabited

/-- What one R1 or R2 path returns. -/
structure LaneOutput where
  laneOutputVersion : String
  taskRestatement : String
  verdict : String
  confidence : ℚ
  claims : List Claim
  residuals : List Residual
  uncertainties : List String
  limitations : List String
  deriving DecidableEq, Repr, Inhabited

/-- An accepted lane output with the route it came from (`run.rs`). -/
structure LaneAccepted where
  partyId : String
  routeId : String
  output : LaneOutput
  artifactRef : String
  deriving DecidableEq, Repr, Inhabited

/-- What one R3 binding returns. -/
structure ArbiterVerdict where
  arbiterVerdictVersion : String
  summary : String
  recommendation : String
  residuals : List Residual
  deriving DecidableEq, Repr, Inhabited

/-! ### Brief, policy and snapshot -/

structure Brief where
  briefVersion : String
  question : String
  context : Option String
  evidenceRoots : List String
  snapshotIgnore : List String
  attachments : List String
  actionScope : Option String
  affectedPaths : List String
  actionBindingSha256 : Option String
  deriving DecidableEq, Repr, Inhabited

structure SeatBinding where
  seatId : String
  family : String
  provider : String
  textModel : String
  multimodalModel : String
  deriving DecidableEq, Repr, Inhabited

structure RoutePolicy where
  partyId : String
  routeId : String
  adapter : String
  executable : String
  required : Bool
  family : String
  provider : String
  textModel : String
  multimodalModel : String
  perspective : String
  deriving DecidableEq, Repr, Inhabited

structure RouteBinding where
  partyId : String
  routeId : String
  adapter : String
  executable : String
  family : String
  provider : String
  textModel : String
  multimodalModel : String
  perspective : String
  deriving DecidableEq, Repr, Inhabited

/-- `impl From<&RoutePolicy> for RouteBinding`. -/
def RoutePolicy.toRouteBinding (route : RoutePolicy) : RouteBinding where
  partyId := route.partyId
  routeId := route.routeId
  adapter := route.adapter
  executable := route.executable
  family := route.family
  provider := route.provider
  textModel := route.textModel
  multimodalModel := route.multimodalModel
  perspective := route.perspective

inductive SandboxMode where
  | strict | process
  deriving DecidableEq, Repr, Inhabited

structure Policy where
  legacyV1Source : Bool
  policyVersion : String
  seat : SeatBinding
  roster : List RoutePolicy
  counterpartArbiter : RoutePolicy
  primaryArbiter : RoutePolicy
  autoPrimaryArbiter : Bool
  textModel : String
  multimodalModel : String
  maxParallelR1 : Nat
  maxParallelR2 : Nat
  r2Parallel : Bool
  maxAttempts : Nat
  timeoutSeconds : Nat
  r1TimeoutSeconds : Option Nat
  r2TimeoutSeconds : Option Nat
  r3TimeoutSeconds : Option Nat
  retryBackoffSeconds : Nat
  retryBackoffMaxSeconds : Nat
  r2MinIntervalSeconds : Nat
  maxOutputBytes : Nat
  maxSnapshotFiles : Nat
  maxSnapshotBytes : Nat
  maxAttachmentBytes : Nat
  sandboxMode : SandboxMode
  deriving DecidableEq, Repr, Inhabited

/-- `Policy::timeout_for_phase`. -/
def Policy.timeoutForPhase (policy : Policy) (phase : String) : Nat :=
  if phase = "R1" then policy.r1TimeoutSeconds.getD policy.timeoutSeconds
  else if phase = "R2" then policy.r2TimeoutSeconds.getD policy.timeoutSeconds
  else if phase = "R3" then policy.r3TimeoutSeconds.getD policy.timeoutSeconds
  else policy.timeoutSeconds

structure SnapshotEntry where
  snapshotRef : String
  sourceName : String
  sha256 : Digest
  bytes : Nat
  mediaType : String
  deriving DecidableEq, Repr, Inhabited

structure AttachmentEntry where
  attachmentRef : String
  sourceName : String
  sha256 : Digest
  bytes : Nat
  mediaType : String
  deriving DecidableEq, Repr, Inhabited

structure SnapshotManifest where
  snapshotVersion : String
  createdAt : String
  entries : List SnapshotEntry
  attachments : List AttachmentEntry
  totalBytes : Nat
  deriving DecidableEq, Repr, Inhabited

/-! ### The run manifest -/

inductive RunStatus where
  | queued | preflight | r1Running | r1Gate | r2Packet | r2Running | r2Gate | r3Cc
  | waitingPrimaryArbiter | merging | completed | degraded | failed | failedPolicy
  | cancelling | cancelled
  deriving DecidableEq, Repr, Inhabited

def RunStatus.terminal : RunStatus → Bool
  | .completed | .degraded | .failed | .failedPolicy | .cancelled => true
  | _ => false

structure RunError where
  code : String
  message : String
  retryable : Bool
  deriving DecidableEq, Repr, Inhabited

structure ArtifactBinding where
  artifactRef : String
  sha256 : Digest
  deriving DecidableEq, Repr, Inhabited

structure LaneArtifactBinding where
  partyId : String
  routeId : String
  artifactRef : String
  sha256 : Digest
  deriving DecidableEq, Repr, Inhabited

/-- `r3/input-receipt.json`: the digests of everything R3 reads. -/
structure R3InputReceipt where
  inputReceiptVersion : String
  runId : String
  issuedAt : Nat
  r1 : List LaneArtifactBinding
  r2 : List LaneArtifactBinding
  evidencePacket : ArtifactBinding
  ccResponse : ArtifactBinding
  deriving DecidableEq, Repr, Inhabited

/-- The single-use challenge issued to the Primary Arbiter. -/
structure PrimaryArbiterChallenge where
  challengeVersion : String
  runId : String
  nonce : String
  policySha256 : Digest
  evidencePacketSha256 : Digest
  inputReceiptSha256 : Digest
  actionScope : Option String
  issuedAt : Nat
  expiresAt : Nat
  consumed : Bool
  deriving DecidableEq, Repr, Inhabited

/-- `r3/primary-arbiter-response.json`: a verdict bound to a challenge. -/
structure PrimaryArbiterResponse where
  primaryArbiterResponseVersion : String
  runId : String
  nonce : String
  policySha256 : Digest
  evidencePacketSha256 : Digest
  inputReceiptSha256 : Digest
  actionScope : Option String
  verdict : ArbiterVerdict
  deriving DecidableEq, Repr, Inhabited

inductive PrimaryArbiterSubmissionState where
  | staging | accepted
  deriving DecidableEq, Repr, Inhabited

structure PrimaryArbiterSubmissionReceipt where
  submissionReceiptVersion : String
  state : PrimaryArbiterSubmissionState
  responseRef : String
  responseSha256 : Digest
  inputReceiptSha256 : Digest
  stagedAt : Nat
  acceptedAt : Option Nat
  deriving DecidableEq, Repr, Inhabited

/-- `manifest.json`. -/
structure RunManifest where
  manifestVersion : String
  runId : String
  createdAt : Nat
  updatedAt : Nat
  status : RunStatus
  briefSha256 : Digest
  policySha256 : Digest
  snapshotSha256 : Digest
  runtimeSha256 : Digest
  protocolVersion : String
  effectiveModel : String
  seatBinding : SeatBinding
  routeBindings : List RouteBinding
  sandboxMode : SandboxMode
  currentPhase : Option String
  error : Option RunError
  r3InputReceipt : Option ArtifactBinding
  primaryArbiterChallenge : Option PrimaryArbiterChallenge
  primaryArbiterSubmission : Option PrimaryArbiterSubmissionReceipt
  resultSha256 : Option Digest
  deriving DecidableEq, Repr, Inhabited

/-! ### The result -/

structure TrialPerspective where
  partyId : String
  routeId : String
  r1Artifact : String
  r2Artifact : String
  independentFirstPass : Bool
  deriving DecidableEq, Repr, Inhabited

/-- R1 divergence observables. A `BTreeMap` of counts is the list of its
    entries in key order. -/
structure ObservedContestation where
  r1LaneCount : Nat
  contestedLaneCount : Nat
  contestedRate : ℚ
  verdictDistribution : List (String × Nat)
  residualAttestations : List (String × Nat)
  r2Skipped : Bool
  deriving DecidableEq, Repr, Inhabited

structure TrialManifest where
  manifestVersion : String
  baseModelRelation : String
  perspectiveCount : Nat
  perspectives : List TrialPerspective
  perturbationAxes : List String
  independenceControls : List String
  contaminationRisks : List String
  wallTimeSeconds : Option Nat
  observedContestation : Option ObservedContestation
  deriving DecidableEq, Repr, Inhabited

/-- `result.json`. -/
structure ResultEnvelope where
  resultVersion : String
  runId : String
  status : RunStatus
  briefSha256 : Digest
  question : String
  actionScope : Option String
  affectedPaths : List String
  actionBindingSha256 : Option String
  seatBinding : SeatBinding
  routeBindings : List RouteBinding
  summary : String
  recommendation : String
  dissent : List String
  residuals : List Residual
  trialManifest : TrialManifest
  deriving DecidableEq, Repr, Inhabited

end Quinte
