import Mathlib
import Quinte.Framework.Codec

/-! # The documents of a finance run

    The contracts of Finance Protocol 2.0, field by field in the order in
    which they are written.  A time, a session and a digest are texts, as they
    are in the source.
-/

namespace Quinte.Finance

open Json (StringMap)

def financeProtocolVersion : String := "2.0"
def financeManifestVersion : String := "3.0"
def financePacketVersion : String := "2.0"
def financeResultSchemaId : String :=
  "https://github.com/eric-stone-plus/QUINTE/contracts/finance-review-result/1.0/schema.json"

/-! ### Schools, routes and policy -/

inductive SchoolId where
  | factorRiskModel
  | eventDriven
  | fundamentalSupplyChain
  | trendTechnicalRegime
  | marketMicrostructure
  deriving DecidableEq, Repr, Inhabited

/-- `SCHOOL_BINDINGS`: each party's fixed school. -/
def schoolBindings : List (String × SchoolId) :=
  [("Party A", .factorRiskModel), ("Party B", .eventDriven), ("Party C", .fundamentalSupplyChain),
    ("Party D", .trendTechnicalRegime), ("Party E", .marketMicrostructure)]

/-- The five schools, in the order of their parties. -/
def schools : List SchoolId := schoolBindings.map (·.2)

theorem mem_schools (school : SchoolId) : school ∈ schools := by
  cases school <;> decide

instance : Fintype SchoolId :=
  ⟨schools.toFinset, fun school => List.mem_toFinset.mpr (mem_schools school)⟩

structure PortableBinding where
  artifactRef : String
  contractFamily : String
  schemaId : Option String
  revision : String
  exactSha256 : String
  semanticDomain : String
  semanticSha256 : String
  deriving DecidableEq, Repr

structure SchoolAuthority where
  partyId : String
  schoolId : SchoolId
  acceptedEvidenceClasses : List String
  forbiddenClaimClasses : List String
  questionCodes : List String
  deriving DecidableEq, Repr

structure FinanceSchoolRoute where
  partyId : String
  schoolId : SchoolId
  routeId : String
  family : String
  provider : String
  model : String
  deriving DecidableEq, Repr

structure FinanceArbiterRoute where
  arbiterRole : String
  routeId : String
  family : String
  provider : String
  model : String
  deriving DecidableEq, Repr

structure FinancePolicy where
  policyVersion : String
  protocolVersion : String
  profile : PortableBinding
  schoolBindings : List FinanceSchoolRoute
  counterpartArbiter : FinanceArbiterRoute
  primaryArbiter : FinanceArbiterRoute
  isolationBackend : String
  sameFamilyRequired : Bool
  deriving DecidableEq, Repr

structure FinanceReviewProfile where
  financeReviewProfileVersion : String
  profileId : String
  schools : List SchoolAuthority
  allowedPrimaryContracts : List String
  applicabilityPredicateCodes : List String
  closureRuleCodes : List String
  hashDomains : List String
  deriving DecidableEq, Repr

/-! ### Claims, evidence and invocation -/

inductive ApplicabilityMode where
  | mandatory
  | conditional
  | outOfScope
  deriving DecidableEq, Repr

structure PreregisteredApplicability where
  mode : ApplicabilityMode
  predicateCode : Option String
  predicateInputs : StringMap
  predicateResult : Option Bool
  deriving DecidableEq

structure FinanceClaim where
  claimId : String
  text : String
  claimClasses : List String
  schoolApplicability : SchoolId → Option PreregisteredApplicability
  deriving DecidableEq

structure FinanceClaimManifest where
  financeClaimManifestVersion : String
  claims : List FinanceClaim
  deriving DecidableEq

inductive EvidenceStatus where
  | accepted
  | descriptiveOnly
  | quarantined
  | expired
  | rejected
  deriving DecidableEq, Repr

structure FinanceEvidenceItem where
  evidenceRef : String
  evidenceClass : String
  binding : PortableBinding
  status : EvidenceStatus
  provenanceComplete : Bool
  availableAt : String
  expirySession : Option String
  deriving DecidableEq, Repr

structure FinanceEvidenceIndex where
  financeEvidenceIndexVersion : String
  asOf : String
  evaluationSession : String
  items : List FinanceEvidenceItem
  deriving DecidableEq, Repr

structure PrimaryAuthority where
  binding : PortableBinding
  status : EvidenceStatus
  provenanceComplete : Bool
  evaluationSession : String
  expirySession : String
  deriving DecidableEq, Repr

structure FinanceReviewInvocation where
  financeReviewInvocationVersion : String
  invocationId : String
  profile : PortableBinding
  claimManifest : PortableBinding
  primary : PrimaryAuthority
  evidenceIndex : PortableBinding
  deriving DecidableEq, Repr

/-! ### School outputs -/

inductive FinancePhase where
  | r1
  | r2
  deriving DecidableEq, Repr

inductive SchoolDisposition where
  | clear
  | notApplicable
  | insufficientEvidence
  | contradicted
  | quarantined
  | expired
  deriving DecidableEq, Repr

inductive Materiality where
  | nonMaterial
  | material
  deriving DecidableEq, Repr

inductive FinanceClosureState where
  | isOpen
  | isClosed
  deriving DecidableEq, Repr

structure FinanceResidual where
  residualCode : String
  affectedClaimIds : List String
  materiality : Materiality
  closureState : FinanceClosureState
  closureRuleCode : Option String
  closureEvidenceRefs : List String
  deriving DecidableEq, Repr

structure SchoolClaimDecision where
  claimId : String
  disposition : SchoolDisposition
  evidenceRefs : List String
  alternativeCodes : List String
  confounderCodes : List String
  falsifierCodes : List String
  invalidationCodes : List String
  limitationCodes : List String
  missingEvidenceCodes : List String
  closureRuleCode : Option String
  closureEvidenceRefs : List String
  deriving DecidableEq, Repr

structure SchoolLaneOutput where
  schoolLaneOutputVersion : String
  runId : String
  phase : FinancePhase
  schoolId : SchoolId
  expectedRouteDigest : String
  profileDigest : String
  primaryDigest : String
  evidenceIndexDigest : String
  inputPacketExactSha256 : String
  inputPacketSemanticSha256 : String
  decisions : List SchoolClaimDecision
  residuals : List FinanceResidual
  deriving DecidableEq, Repr

/-! ### Packets -/

structure FinanceTaskPacket where
  taskPacketVersion : String
  runId : String
  phase : FinancePhase
  invocation : PortableBinding
  policy : PortableBinding
  profile : PortableBinding
  claimManifest : PortableBinding
  primary : PortableBinding
  evidenceIndex : PortableBinding
  recipientRouteDigest : String
  authority : SchoolAuthority
  deriving DecidableEq, Repr

structure AnonymousDecision where
  claimId : String
  disposition : SchoolDisposition
  evidenceRefs : List String
  residualCodes : List String
  deriving DecidableEq, Repr

structure AnonymousR1Contribution where
  contributorAlias : String
  decisions : List AnonymousDecision
  deriving DecidableEq, Repr

structure UnaliasedR1Contribution where
  decisions : List AnonymousDecision
  deriving DecidableEq, Repr

structure R1SourceIdentity where
  exactSha256 : String
  semanticSha256 : String
  deriving DecidableEq, Repr

structure R1SourceSet where
  outputs : List R1SourceIdentity
  deriving DecidableEq, Repr

structure AnonymousR1Corpus where
  claims : List (String × String)
  contributions : List AnonymousR1Contribution
  deriving DecidableEq, Repr

structure BoundAnonymousCorpus where
  r1SourceSetSemanticSha256 : String
  corpus : AnonymousR1Corpus
  deriving DecidableEq, Repr

structure FinanceR2Packet where
  packetVersion : String
  runId : String
  recipientAuthority : SchoolAuthority
  policy : PortableBinding
  profile : PortableBinding
  claimManifest : PortableBinding
  primary : PortableBinding
  evidenceIndex : PortableBinding
  recipientRouteDigest : String
  r1SourceSetSemanticSha256 : String
  corpusSemanticSha256 : String
  corpus : AnonymousR1Corpus
  deriving DecidableEq, Repr

/-! ### Results -/

structure FoldedSchoolDecision where
  claimId : String
  schoolId : SchoolId
  applicability : ApplicabilityMode
  disposition : SchoolDisposition
  blocking : Bool
  deriving DecidableEq, Repr

inductive PublicationPosture where
  | publishBounded
  | abstain
  deriving DecidableEq, Repr

inductive PostureReason where
  | primaryNotAccepted
  | primaryExpired
  | primaryProvenanceIncomplete
  | evidenceProvenanceIncomplete
  | mandatorySchoolNotClear
  | conditionalSchoolNotClear
  | invalidNotApplicable
  | openMaterialResidual
  | activeInvalidation
  deriving DecidableEq, Repr

structure PublicationDecision where
  functionRevision : String
  posture : PublicationPosture
  reasonCodes : List PostureReason
  deriving DecidableEq, Repr

structure FinanceReviewResult where
  financeReviewResultVersion : String
  runId : String
  runGenesisDigest : String
  primary : PrimaryAuthority
  profile : PortableBinding
  claimManifest : PortableBinding
  evidenceIndex : PortableBinding
  schoolOutputs : List PortableBinding
  arbiterOutputs : List PortableBinding
  foldedDecisions : List FoldedSchoolDecision
  openMaterialResidualCodes : List String
  activeInvalidationCodes : List String
  publication : PublicationDecision
  routeBindings : List String
  contaminationRisks : List String
  deriving DecidableEq, Repr

structure HighballRouteRequest where
  carrierVersion : String
  sourceResult : PortableBinding
  requestedRoute : String
  publicationPosture : PublicationPosture
  deriving DecidableEq, Repr

structure HighballResidualTrace where
  carrierVersion : String
  sourceResult : PortableBinding
  residualCodes : List String
  invalidationCodes : List String
  foldedDecisions : List FoldedSchoolDecision
  deriving DecidableEq, Repr

structure FinanceArbiterVerdict where
  financeArbiterVerdictVersion : String
  runId : String
  arbiterRole : String
  policyDigest : String
  invocationDigest : String
  profileDigest : String
  claimManifestDigest : String
  primaryDigest : String
  evidenceIndexDigest : String
  schoolOutputDigests : List String
  routeBindingDigests : List String
  duplicateResidualGroups : List (List String)
  identifierReconciliations : StringMap
  scopeReconciliations : StringMap
  admittedClosureEvidenceRefs : List String
  deriving DecidableEq

/-! ### The run's manifest and its events -/

inductive FinanceRunStatus where
  | preflight
  | r1Running
  | r2Running
  | merging
  | completed
  | degraded
  | failed
  | cancelled
  deriving DecidableEq, Repr

namespace FinanceRunStatus

/-- The statuses that end a run with `run.terminalized`. -/
def terminal (status : FinanceRunStatus) : Bool :=
  [completed, degraded, failed, cancelled].contains status

end FinanceRunStatus

inductive FinanceTerminationCode where
  | outputInvalid
  | integrityFailure
  | operatorCancelled
  deriving DecidableEq, Repr

structure FinanceTerminationFacts where
  phase : FinanceRunStatus
  code : FinanceTerminationCode
  retryable : Bool
  deriving DecidableEq, Repr

structure FinanceEventCheckpoint where
  sequence : UInt64
  eventSha256 : String
  deriving DecidableEq, Repr

structure FinanceRunManifest where
  manifestVersion : String
  protocolVersion : String
  runId : String
  runGenesisDigest : String
  eventCheckpoint : FinanceEventCheckpoint
  status : FinanceRunStatus
  termination : Option FinanceTerminationFacts
  policy : PortableBinding
  invocation : PortableBinding
  r1Packets : List PortableBinding
  r2Packets : List PortableBinding
  r1Outputs : List PortableBinding
  r2Outputs : List PortableBinding
  arbiterOutputs : List PortableBinding
  result : Option PortableBinding
  deriving DecidableEq, Repr

structure FinanceArtifactIdentity where
  contractFamily : String
  schemaId : Option String
  revision : String
  exactSha256 : String
  semanticDomain : String
  semanticSha256 : String
  deriving DecidableEq, Repr

structure FinanceRunCreatedPayload where
  status : FinanceRunStatus
  artifactBindings : List FinanceArtifactIdentity
  deriving DecidableEq, Repr

structure FinancePhaseAdvancedPayload where
  previousStatus : FinanceRunStatus
  status : FinanceRunStatus
  artifactBindings : List FinanceArtifactIdentity
  deriving DecidableEq, Repr

structure FinanceRunTerminalizedPayload where
  previousStatus : FinanceRunStatus
  status : FinanceRunStatus
  artifactBindings : List FinanceArtifactIdentity
  result : Option FinanceArtifactIdentity
  termination : Option FinanceTerminationFacts
  deriving DecidableEq, Repr

inductive FinanceRunEventBody where
  | runCreated (payload : FinanceRunCreatedPayload)
  | phaseAdvanced (payload : FinancePhaseAdvancedPayload)
  | runTerminalized (payload : FinanceRunTerminalizedPayload)
  deriving DecidableEq, Repr

structure FinanceRunEvent where
  eventVersion : String
  runId : String
  runGenesisDigest : String
  sequence : UInt64
  previousEventSha256 : Option String
  body : FinanceRunEventBody
  deriving DecidableEq, Repr

/-- What a run's identity is computed from. -/
structure FinanceRunGenesis where
  runId : String
  writerCapability : String
  policy : FinanceArtifactIdentity
  invocation : FinanceArtifactIdentity
  profile : FinanceArtifactIdentity
  claimManifest : FinanceArtifactIdentity
  primary : FinanceArtifactIdentity
  evidenceIndex : FinanceArtifactIdentity
  schoolRoutes : List FinanceSchoolRoute
  counterpartArbiter : FinanceArbiterRoute
  primaryArbiter : FinanceArbiterRoute
  r1Packets : List FinanceArtifactIdentity
  deriving DecidableEq, Repr

/-- The journal of a transition that is under way. -/
structure PendingFinanceTransition where
  pendingTransitionVersion : String
  runId : String
  runGenesisDigest : String
  transitionId : String
  operation : String
  oldManifestExactSha256 : Option String
  oldEventCheckpoint : Option FinanceEventCheckpoint
  eventExactSha256 : String
  eventByteLength : UInt64
  eventBytesBase64 : String
  targetManifestExactSha256 : String
  targetManifestByteLength : UInt64
  targetManifestBytesBase64 : String
  artifactBindings : List PortableBinding
  deriving DecidableEq, Repr

end Quinte.Finance
