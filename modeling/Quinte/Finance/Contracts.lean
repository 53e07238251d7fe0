import Mathlib
import Quinte.Finance.Types

/-! # How the documents are written

    The JSON form of each contract: its members, in the order in which they
    are written, under the names they are written with.
-/

namespace Quinte.Finance

open Json (Codec Fields StringMap)
open Json.Codec (string bool uint64 named list pair)

namespace SchoolId

def name : SchoolId → String
  | .factorRiskModel => "factor_risk_model"
  | .eventDriven => "event_driven"
  | .fundamentalSupplyChain => "fundamental_supply_chain"
  | .trendTechnicalRegime => "trend_technical_regime"
  | .marketMicrostructure => "market_microstructure"

def codec : Codec SchoolId :=
  named [.factorRiskModel, .eventDriven, .fundamentalSupplyChain, .trendTechnicalRegime,
    .marketMicrostructure] name fun a => by cases a <;> decide

end SchoolId

namespace PortableBinding

def codec : Codec PortableBinding :=
  .record (Fields.start PortableBinding mk
    |>.required "artifact_ref" string (·.artifactRef)
    |>.required "contract_family" string (·.contractFamily)
    |>.skippable "schema_id" string (fun _ => nofun) (·.schemaId)
    |>.required "revision" string (·.revision)
    |>.required "exact_sha256" string (·.exactSha256)
    |>.required "semantic_domain" string (·.semanticDomain)
    |>.required "semantic_sha256" string (·.semanticSha256))
  (by decide) fun _ => rfl

end PortableBinding

namespace SchoolAuthority

def codec : Codec SchoolAuthority :=
  .record (Fields.start SchoolAuthority mk
    |>.required "party_id" string (·.partyId)
    |>.required "school_id" SchoolId.codec (·.schoolId)
    |>.required "accepted_evidence_classes" (list string) (·.acceptedEvidenceClasses)
    |>.required "forbidden_claim_classes" (list string) (·.forbiddenClaimClasses)
    |>.required "question_codes" (list string) (·.questionCodes))
  (by decide) fun _ => rfl

end SchoolAuthority

namespace FinanceSchoolRoute

def codec : Codec FinanceSchoolRoute :=
  .record (Fields.start FinanceSchoolRoute mk
    |>.required "party_id" string (·.partyId)
    |>.required "school_id" SchoolId.codec (·.schoolId)
    |>.required "route_id" string (·.routeId)
    |>.required "family" string (·.family)
    |>.required "provider" string (·.provider)
    |>.required "model" string (·.model))
  (by decide) fun _ => rfl

end FinanceSchoolRoute

namespace FinanceArbiterRoute

def codec : Codec FinanceArbiterRoute :=
  .record (Fields.start FinanceArbiterRoute mk
    |>.required "arbiter_role" string (·.arbiterRole)
    |>.required "route_id" string (·.routeId)
    |>.required "family" string (·.family)
    |>.required "provider" string (·.provider)
    |>.required "model" string (·.model))
  (by decide) fun _ => rfl

end FinanceArbiterRoute

namespace FinancePolicy

def codec : Codec FinancePolicy :=
  .record (Fields.start FinancePolicy mk
    |>.required "policy_version" string (·.policyVersion)
    |>.required "protocol_version" string (·.protocolVersion)
    |>.required "profile" PortableBinding.codec (·.profile)
    |>.required "school_bindings" (list FinanceSchoolRoute.codec) (·.schoolBindings)
    |>.required "counterpart_arbiter" FinanceArbiterRoute.codec (·.counterpartArbiter)
    |>.required "primary_arbiter" FinanceArbiterRoute.codec (·.primaryArbiter)
    |>.required "isolation_backend" string (·.isolationBackend)
    |>.required "same_family_required" bool (·.sameFamilyRequired))
  (by decide) fun _ => rfl

end FinancePolicy

namespace FinanceReviewProfile

def codec : Codec FinanceReviewProfile :=
  .record (Fields.start FinanceReviewProfile mk
    |>.required "finance_review_profile_version" string (·.financeReviewProfileVersion)
    |>.required "profile_id" string (·.profileId)
    |>.required "schools" (list SchoolAuthority.codec) (·.schools)
    |>.required "allowed_primary_contracts" (list string) (·.allowedPrimaryContracts)
    |>.required "applicability_predicate_codes" (list string) (·.applicabilityPredicateCodes)
    |>.required "closure_rule_codes" (list string) (·.closureRuleCodes)
    |>.required "hash_domains" (list string) (·.hashDomains))
  (by decide) fun _ => rfl

end FinanceReviewProfile

namespace ApplicabilityMode

def name : ApplicabilityMode → String
  | .mandatory => "mandatory"
  | .conditional => "conditional"
  | .outOfScope => "out_of_scope"

def codec : Codec ApplicabilityMode :=
  named [.mandatory, .conditional, .outOfScope] name fun a => by cases a <;> decide

end ApplicabilityMode

namespace PreregisteredApplicability

def codec : Codec PreregisteredApplicability :=
  .record (Fields.start PreregisteredApplicability mk
    |>.required "mode" ApplicabilityMode.codec (·.mode)
    |>.nullable "predicate_code" string (fun _ => nofun) (·.predicateCode)
    |>.required "predicate_inputs" StringMap.codec (·.predicateInputs)
    |>.nullable "predicate_result" bool (fun _ => nofun) (·.predicateResult))
  (by decide) fun _ => rfl

end PreregisteredApplicability

/-- The rules of the schools, under the schools' names. -/
def schoolRules : Codec (SchoolId → Option PreregisteredApplicability) :=
  .record (Fields.start (SchoolId → Option PreregisteredApplicability) (fun a b c d e school =>
      match school with
      | .factorRiskModel => a
      | .eventDriven => b
      | .fundamentalSupplyChain => c
      | .trendTechnicalRegime => d
      | .marketMicrostructure => e)
    |>.absent "factor_risk_model" PreregisteredApplicability.codec (· .factorRiskModel)
    |>.absent "event_driven" PreregisteredApplicability.codec (· .eventDriven)
    |>.absent "fundamental_supply_chain" PreregisteredApplicability.codec
      (· .fundamentalSupplyChain)
    |>.absent "trend_technical_regime" PreregisteredApplicability.codec (· .trendTechnicalRegime)
    |>.absent "market_microstructure" PreregisteredApplicability.codec (· .marketMicrostructure))
  (by decide) fun rules => funext fun school => by cases school <;> rfl

namespace FinanceClaim

def codec : Codec FinanceClaim :=
  .record (Fields.start FinanceClaim mk
    |>.required "claim_id" string (·.claimId)
    |>.required "text" string (·.text)
    |>.required "claim_classes" (list string) (·.claimClasses)
    |>.required "school_applicability" schoolRules (·.schoolApplicability))
  (by decide) fun _ => rfl

end FinanceClaim

namespace FinanceClaimManifest

def codec : Codec FinanceClaimManifest :=
  .record (Fields.start FinanceClaimManifest mk
    |>.required "finance_claim_manifest_version" string (·.financeClaimManifestVersion)
    |>.required "claims" (list FinanceClaim.codec) (·.claims))
  (by decide) fun _ => rfl

end FinanceClaimManifest

namespace EvidenceStatus

def name : EvidenceStatus → String
  | .accepted => "accepted"
  | .descriptiveOnly => "descriptive_only"
  | .quarantined => "quarantined"
  | .expired => "expired"
  | .rejected => "rejected"

def codec : Codec EvidenceStatus :=
  named [.accepted, .descriptiveOnly, .quarantined, .expired, .rejected] name
    fun a => by cases a <;> decide

end EvidenceStatus

namespace FinanceEvidenceItem

def codec : Codec FinanceEvidenceItem :=
  .record (Fields.start FinanceEvidenceItem mk
    |>.required "evidence_ref" string (·.evidenceRef)
    |>.required "evidence_class" string (·.evidenceClass)
    |>.required "binding" PortableBinding.codec (·.binding)
    |>.required "status" EvidenceStatus.codec (·.status)
    |>.required "provenance_complete" bool (·.provenanceComplete)
    |>.required "available_at" string (·.availableAt)
    |>.nullable "expiry_session" string (fun _ => nofun) (·.expirySession))
  (by decide) fun _ => rfl

end FinanceEvidenceItem

namespace FinanceEvidenceIndex

def codec : Codec FinanceEvidenceIndex :=
  .record (Fields.start FinanceEvidenceIndex mk
    |>.required "finance_evidence_index_version" string (·.financeEvidenceIndexVersion)
    |>.required "as_of" string (·.asOf)
    |>.required "evaluation_session" string (·.evaluationSession)
    |>.required "items" (list FinanceEvidenceItem.codec) (·.items))
  (by decide) fun _ => rfl

end FinanceEvidenceIndex

namespace PrimaryAuthority

def codec : Codec PrimaryAuthority :=
  .record (Fields.start PrimaryAuthority mk
    |>.required "binding" PortableBinding.codec (·.binding)
    |>.required "status" EvidenceStatus.codec (·.status)
    |>.required "provenance_complete" bool (·.provenanceComplete)
    |>.required "evaluation_session" string (·.evaluationSession)
    |>.required "expiry_session" string (·.expirySession))
  (by decide) fun _ => rfl

end PrimaryAuthority

namespace FinanceReviewInvocation

def codec : Codec FinanceReviewInvocation :=
  .record (Fields.start FinanceReviewInvocation mk
    |>.required "finance_review_invocation_version" string (·.financeReviewInvocationVersion)
    |>.required "invocation_id" string (·.invocationId)
    |>.required "profile" PortableBinding.codec (·.profile)
    |>.required "claim_manifest" PortableBinding.codec (·.claimManifest)
    |>.required "primary" PrimaryAuthority.codec (·.primary)
    |>.required "evidence_index" PortableBinding.codec (·.evidenceIndex))
  (by decide) fun _ => rfl

end FinanceReviewInvocation

namespace FinancePhase

def name : FinancePhase → String
  | .r1 => "R1"
  | .r2 => "R2"

def codec : Codec FinancePhase :=
  named [.r1, .r2] name fun a => by cases a <;> decide

end FinancePhase

namespace SchoolDisposition

def name : SchoolDisposition → String
  | .clear => "clear"
  | .notApplicable => "not_applicable"
  | .insufficientEvidence => "insufficient_evidence"
  | .contradicted => "contradicted"
  | .quarantined => "quarantined"
  | .expired => "expired"

def codec : Codec SchoolDisposition :=
  named [.clear, .notApplicable, .insufficientEvidence, .contradicted, .quarantined, .expired] name
    fun a => by cases a <;> decide

end SchoolDisposition

namespace Materiality

def name : Materiality → String
  | .nonMaterial => "non_material"
  | .material => "material"

def codec : Codec Materiality :=
  named [.nonMaterial, .material] name fun a => by cases a <;> decide

end Materiality

namespace FinanceClosureState

def name : FinanceClosureState → String
  | .isOpen => "open"
  | .isClosed => "closed"

def codec : Codec FinanceClosureState :=
  named [.isOpen, .isClosed] name fun a => by cases a <;> decide

end FinanceClosureState

namespace FinanceResidual

def codec : Codec FinanceResidual :=
  .record (Fields.start FinanceResidual mk
    |>.required "residual_code" string (·.residualCode)
    |>.required "affected_claim_ids" (list string) (·.affectedClaimIds)
    |>.required "materiality" Materiality.codec (·.materiality)
    |>.required "closure_state" FinanceClosureState.codec (·.closureState)
    |>.nullable "closure_rule_code" string (fun _ => nofun) (·.closureRuleCode)
    |>.required "closure_evidence_refs" (list string) (·.closureEvidenceRefs))
  (by decide) fun _ => rfl

end FinanceResidual

namespace SchoolClaimDecision

def codec : Codec SchoolClaimDecision :=
  .record (Fields.start SchoolClaimDecision mk
    |>.required "claim_id" string (·.claimId)
    |>.required "disposition" SchoolDisposition.codec (·.disposition)
    |>.required "evidence_refs" (list string) (·.evidenceRefs)
    |>.required "alternative_codes" (list string) (·.alternativeCodes)
    |>.required "confounder_codes" (list string) (·.confounderCodes)
    |>.required "falsifier_codes" (list string) (·.falsifierCodes)
    |>.required "invalidation_codes" (list string) (·.invalidationCodes)
    |>.required "limitation_codes" (list string) (·.limitationCodes)
    |>.required "missing_evidence_codes" (list string) (·.missingEvidenceCodes)
    |>.nullable "closure_rule_code" string (fun _ => nofun) (·.closureRuleCode)
    |>.required "closure_evidence_refs" (list string) (·.closureEvidenceRefs))
  (by decide) fun _ => rfl

end SchoolClaimDecision

namespace SchoolLaneOutput

def codec : Codec SchoolLaneOutput :=
  .record (Fields.start SchoolLaneOutput mk
    |>.required "school_lane_output_version" string (·.schoolLaneOutputVersion)
    |>.required "run_id" string (·.runId)
    |>.required "phase" FinancePhase.codec (·.phase)
    |>.required "school_id" SchoolId.codec (·.schoolId)
    |>.required "expected_route_digest" string (·.expectedRouteDigest)
    |>.required "profile_digest" string (·.profileDigest)
    |>.required "primary_digest" string (·.primaryDigest)
    |>.required "evidence_index_digest" string (·.evidenceIndexDigest)
    |>.required "input_packet_exact_sha256" string (·.inputPacketExactSha256)
    |>.required "input_packet_semantic_sha256" string (·.inputPacketSemanticSha256)
    |>.required "decisions" (list SchoolClaimDecision.codec) (·.decisions)
    |>.required "residuals" (list FinanceResidual.codec) (·.residuals))
  (by decide) fun _ => rfl

end SchoolLaneOutput

namespace FinanceTaskPacket

def codec : Codec FinanceTaskPacket :=
  .record (Fields.start FinanceTaskPacket mk
    |>.required "task_packet_version" string (·.taskPacketVersion)
    |>.required "run_id" string (·.runId)
    |>.required "phase" FinancePhase.codec (·.phase)
    |>.required "invocation" PortableBinding.codec (·.invocation)
    |>.required "policy" PortableBinding.codec (·.policy)
    |>.required "profile" PortableBinding.codec (·.profile)
    |>.required "claim_manifest" PortableBinding.codec (·.claimManifest)
    |>.required "primary" PortableBinding.codec (·.primary)
    |>.required "evidence_index" PortableBinding.codec (·.evidenceIndex)
    |>.required "recipient_route_digest" string (·.recipientRouteDigest)
    |>.required "authority" SchoolAuthority.codec (·.authority))
  (by decide) fun _ => rfl

end FinanceTaskPacket

namespace AnonymousDecision

def codec : Codec AnonymousDecision :=
  .record (Fields.start AnonymousDecision mk
    |>.required "claim_id" string (·.claimId)
    |>.required "disposition" SchoolDisposition.codec (·.disposition)
    |>.required "evidence_refs" (list string) (·.evidenceRefs)
    |>.required "residual_codes" (list string) (·.residualCodes))
  (by decide) fun _ => rfl

end AnonymousDecision

namespace AnonymousR1Contribution

def codec : Codec AnonymousR1Contribution :=
  .record (Fields.start AnonymousR1Contribution mk
    |>.required "contributor_alias" string (·.contributorAlias)
    |>.required "decisions" (list AnonymousDecision.codec) (·.decisions))
  (by decide) fun _ => rfl

end AnonymousR1Contribution

namespace UnaliasedR1Contribution

def codec : Codec UnaliasedR1Contribution :=
  .record (Fields.start UnaliasedR1Contribution mk
    |>.required "decisions" (list AnonymousDecision.codec) (·.decisions))
  (by decide) fun _ => rfl

end UnaliasedR1Contribution

namespace R1SourceIdentity

def codec : Codec R1SourceIdentity :=
  .record (Fields.start R1SourceIdentity mk
    |>.required "exact_sha256" string (·.exactSha256)
    |>.required "semantic_sha256" string (·.semanticSha256))
  (by decide) fun _ => rfl

end R1SourceIdentity

namespace R1SourceSet

def codec : Codec R1SourceSet :=
  .record (Fields.start R1SourceSet mk
    |>.required "outputs" (list R1SourceIdentity.codec) (·.outputs))
  (by decide) fun _ => rfl

end R1SourceSet

namespace AnonymousR1Corpus

def codec : Codec AnonymousR1Corpus :=
  .record (Fields.start AnonymousR1Corpus mk
    |>.required "claims" (list (pair string string)) (·.claims)
    |>.required "contributions" (list AnonymousR1Contribution.codec) (·.contributions))
  (by decide) fun _ => rfl

end AnonymousR1Corpus

namespace BoundAnonymousCorpus

def codec : Codec BoundAnonymousCorpus :=
  .record (Fields.start BoundAnonymousCorpus mk
    |>.required "r1_source_set_semantic_sha256" string (·.r1SourceSetSemanticSha256)
    |>.required "corpus" AnonymousR1Corpus.codec (·.corpus))
  (by decide) fun _ => rfl

end BoundAnonymousCorpus

namespace FinanceR2Packet

def codec : Codec FinanceR2Packet :=
  .record (Fields.start FinanceR2Packet mk
    |>.required "packet_version" string (·.packetVersion)
    |>.required "run_id" string (·.runId)
    |>.required "recipient_authority" SchoolAuthority.codec (·.recipientAuthority)
    |>.required "policy" PortableBinding.codec (·.policy)
    |>.required "profile" PortableBinding.codec (·.profile)
    |>.required "claim_manifest" PortableBinding.codec (·.claimManifest)
    |>.required "primary" PortableBinding.codec (·.primary)
    |>.required "evidence_index" PortableBinding.codec (·.evidenceIndex)
    |>.required "recipient_route_digest" string (·.recipientRouteDigest)
    |>.required "r1_source_set_semantic_sha256" string (·.r1SourceSetSemanticSha256)
    |>.required "corpus_semantic_sha256" string (·.corpusSemanticSha256)
    |>.required "corpus" AnonymousR1Corpus.codec (·.corpus))
  (by decide) fun _ => rfl

end FinanceR2Packet

namespace FoldedSchoolDecision

def codec : Codec FoldedSchoolDecision :=
  .record (Fields.start FoldedSchoolDecision mk
    |>.required "claim_id" string (·.claimId)
    |>.required "school_id" SchoolId.codec (·.schoolId)
    |>.required "applicability" ApplicabilityMode.codec (·.applicability)
    |>.required "disposition" SchoolDisposition.codec (·.disposition)
    |>.required "blocking" bool (·.blocking))
  (by decide) fun _ => rfl

end FoldedSchoolDecision

namespace PublicationPosture

def name : PublicationPosture → String
  | .publishBounded => "PUBLISH_BOUNDED"
  | .abstain => "ABSTAIN"

def codec : Codec PublicationPosture :=
  named [.publishBounded, .abstain] name fun a => by cases a <;> decide

end PublicationPosture

namespace PostureReason

def name : PostureReason → String
  | .primaryNotAccepted => "primary_not_accepted"
  | .primaryExpired => "primary_expired"
  | .primaryProvenanceIncomplete => "primary_provenance_incomplete"
  | .evidenceProvenanceIncomplete => "evidence_provenance_incomplete"
  | .mandatorySchoolNotClear => "mandatory_school_not_clear"
  | .conditionalSchoolNotClear => "conditional_school_not_clear"
  | .invalidNotApplicable => "invalid_not_applicable"
  | .openMaterialResidual => "open_material_residual"
  | .activeInvalidation => "active_invalidation"

def codec : Codec PostureReason :=
  named [.primaryNotAccepted, .primaryExpired, .primaryProvenanceIncomplete,
    .evidenceProvenanceIncomplete, .mandatorySchoolNotClear, .conditionalSchoolNotClear,
    .invalidNotApplicable, .openMaterialResidual, .activeInvalidation] name
    fun a => by cases a <;> decide

end PostureReason

namespace PublicationDecision

def codec : Codec PublicationDecision :=
  .record (Fields.start PublicationDecision mk
    |>.required "function_revision" string (·.functionRevision)
    |>.required "posture" PublicationPosture.codec (·.posture)
    |>.required "reason_codes" (list PostureReason.codec) (·.reasonCodes))
  (by decide) fun _ => rfl

end PublicationDecision

namespace FinanceReviewResult

def codec : Codec FinanceReviewResult :=
  .record (Fields.start FinanceReviewResult mk
    |>.required "finance_review_result_version" string (·.financeReviewResultVersion)
    |>.required "run_id" string (·.runId)
    |>.required "run_genesis_digest" string (·.runGenesisDigest)
    |>.required "primary" PrimaryAuthority.codec (·.primary)
    |>.required "profile" PortableBinding.codec (·.profile)
    |>.required "claim_manifest" PortableBinding.codec (·.claimManifest)
    |>.required "evidence_index" PortableBinding.codec (·.evidenceIndex)
    |>.required "school_outputs" (list PortableBinding.codec) (·.schoolOutputs)
    |>.required "arbiter_outputs" (list PortableBinding.codec) (·.arbiterOutputs)
    |>.required "folded_decisions" (list FoldedSchoolDecision.codec) (·.foldedDecisions)
    |>.required "open_material_residual_codes" (list string) (·.openMaterialResidualCodes)
    |>.required "active_invalidation_codes" (list string) (·.activeInvalidationCodes)
    |>.required "publication" PublicationDecision.codec (·.publication)
    |>.required "route_bindings" (list string) (·.routeBindings)
    |>.required "contamination_risks" (list string) (·.contaminationRisks))
  (by decide) fun _ => rfl

end FinanceReviewResult

namespace HighballRouteRequest

def codec : Codec HighballRouteRequest :=
  .record (Fields.start HighballRouteRequest mk
    |>.required "carrier_version" string (·.carrierVersion)
    |>.required "source_result" PortableBinding.codec (·.sourceResult)
    |>.required "requested_route" string (·.requestedRoute)
    |>.required "publication_posture" PublicationPosture.codec (·.publicationPosture))
  (by decide) fun _ => rfl

end HighballRouteRequest

namespace HighballResidualTrace

def codec : Codec HighballResidualTrace :=
  .record (Fields.start HighballResidualTrace mk
    |>.required "carrier_version" string (·.carrierVersion)
    |>.required "source_result" PortableBinding.codec (·.sourceResult)
    |>.required "residual_codes" (list string) (·.residualCodes)
    |>.required "invalidation_codes" (list string) (·.invalidationCodes)
    |>.required "folded_decisions" (list FoldedSchoolDecision.codec) (·.foldedDecisions))
  (by decide) fun _ => rfl

end HighballResidualTrace

namespace FinanceArbiterVerdict

def codec : Codec FinanceArbiterVerdict :=
  .record (Fields.start FinanceArbiterVerdict mk
    |>.required "finance_arbiter_verdict_version" string (·.financeArbiterVerdictVersion)
    |>.required "run_id" string (·.runId)
    |>.required "arbiter_role" string (·.arbiterRole)
    |>.required "policy_digest" string (·.policyDigest)
    |>.required "invocation_digest" string (·.invocationDigest)
    |>.required "profile_digest" string (·.profileDigest)
    |>.required "claim_manifest_digest" string (·.claimManifestDigest)
    |>.required "primary_digest" string (·.primaryDigest)
    |>.required "evidence_index_digest" string (·.evidenceIndexDigest)
    |>.required "school_output_digests" (list string) (·.schoolOutputDigests)
    |>.required "route_binding_digests" (list string) (·.routeBindingDigests)
    |>.required "duplicate_residual_groups" (list (list string)) (·.duplicateResidualGroups)
    |>.required "identifier_reconciliations" StringMap.codec (·.identifierReconciliations)
    |>.required "scope_reconciliations" StringMap.codec (·.scopeReconciliations)
    |>.required "admitted_closure_evidence_refs" (list string) (·.admittedClosureEvidenceRefs))
  (by decide) fun _ => rfl

end FinanceArbiterVerdict

namespace FinanceRunStatus

def name : FinanceRunStatus → String
  | .preflight => "preflight"
  | .r1Running => "r1_running"
  | .r2Running => "r2_running"
  | .merging => "merging"
  | .completed => "completed"
  | .degraded => "degraded"
  | .failed => "failed"
  | .cancelled => "cancelled"

def codec : Codec FinanceRunStatus :=
  named [.preflight, .r1Running, .r2Running, .merging, .completed, .degraded, .failed,
    .cancelled] name
    fun a => by cases a <;> decide

end FinanceRunStatus

namespace FinanceTerminationCode

def name : FinanceTerminationCode → String
  | .outputInvalid => "output_invalid"
  | .integrityFailure => "integrity_failure"
  | .operatorCancelled => "operator_cancelled"

def codec : Codec FinanceTerminationCode :=
  named [.outputInvalid, .integrityFailure, .operatorCancelled] name fun a => by cases a <;> decide

end FinanceTerminationCode

namespace FinanceTerminationFacts

def codec : Codec FinanceTerminationFacts :=
  .record (Fields.start FinanceTerminationFacts mk
    |>.required "phase" FinanceRunStatus.codec (·.phase)
    |>.required "code" FinanceTerminationCode.codec (·.code)
    |>.required "retryable" bool (·.retryable))
  (by decide) fun _ => rfl

end FinanceTerminationFacts

namespace FinanceEventCheckpoint

def codec : Codec FinanceEventCheckpoint :=
  .record (Fields.start FinanceEventCheckpoint mk
    |>.required "sequence" uint64 (·.sequence)
    |>.required "event_sha256" string (·.eventSha256))
  (by decide) fun _ => rfl

end FinanceEventCheckpoint

namespace FinanceRunManifest

def codec : Codec FinanceRunManifest :=
  .record (Fields.start FinanceRunManifest mk
    |>.required "manifest_version" string (·.manifestVersion)
    |>.required "protocol_version" string (·.protocolVersion)
    |>.required "run_id" string (·.runId)
    |>.required "run_genesis_digest" string (·.runGenesisDigest)
    |>.required "event_checkpoint" FinanceEventCheckpoint.codec (·.eventCheckpoint)
    |>.required "status" FinanceRunStatus.codec (·.status)
    |>.nullable "termination" FinanceTerminationFacts.codec (fun _ => nofun) (·.termination)
    |>.required "policy" PortableBinding.codec (·.policy)
    |>.required "invocation" PortableBinding.codec (·.invocation)
    |>.required "r1_packets" (list PortableBinding.codec) (·.r1Packets)
    |>.required "r2_packets" (list PortableBinding.codec) (·.r2Packets)
    |>.required "r1_outputs" (list PortableBinding.codec) (·.r1Outputs)
    |>.required "r2_outputs" (list PortableBinding.codec) (·.r2Outputs)
    |>.required "arbiter_outputs" (list PortableBinding.codec) (·.arbiterOutputs)
    |>.nullable "result" PortableBinding.codec (fun _ => nofun) (·.result))
  (by decide) fun _ => rfl

end FinanceRunManifest

namespace FinanceArtifactIdentity

def codec : Codec FinanceArtifactIdentity :=
  .record (Fields.start FinanceArtifactIdentity mk
    |>.required "contract_family" string (·.contractFamily)
    |>.skippable "schema_id" string (fun _ => nofun) (·.schemaId)
    |>.required "revision" string (·.revision)
    |>.required "exact_sha256" string (·.exactSha256)
    |>.required "semantic_domain" string (·.semanticDomain)
    |>.required "semantic_sha256" string (·.semanticSha256))
  (by decide) fun _ => rfl

end FinanceArtifactIdentity

namespace FinanceRunCreatedPayload

def codec : Codec FinanceRunCreatedPayload :=
  .record (Fields.start FinanceRunCreatedPayload mk
    |>.required "status" FinanceRunStatus.codec (·.status)
    |>.required "artifact_bindings" (list FinanceArtifactIdentity.codec) (·.artifactBindings))
  (by decide) fun _ => rfl

end FinanceRunCreatedPayload

namespace FinancePhaseAdvancedPayload

def codec : Codec FinancePhaseAdvancedPayload :=
  .record (Fields.start FinancePhaseAdvancedPayload mk
    |>.required "previous_status" FinanceRunStatus.codec (·.previousStatus)
    |>.required "status" FinanceRunStatus.codec (·.status)
    |>.required "artifact_bindings" (list FinanceArtifactIdentity.codec) (·.artifactBindings))
  (by decide) fun _ => rfl

end FinancePhaseAdvancedPayload

namespace FinanceRunTerminalizedPayload

def codec : Codec FinanceRunTerminalizedPayload :=
  .record (Fields.start FinanceRunTerminalizedPayload mk
    |>.required "previous_status" FinanceRunStatus.codec (·.previousStatus)
    |>.required "status" FinanceRunStatus.codec (·.status)
    |>.required "artifact_bindings" (list FinanceArtifactIdentity.codec) (·.artifactBindings)
    |>.nullable "result" FinanceArtifactIdentity.codec (fun _ => nofun) (·.result)
    |>.nullable "termination" FinanceTerminationFacts.codec (fun _ => nofun) (·.termination))
  (by decide) fun _ => rfl

end FinanceRunTerminalizedPayload

namespace FinanceRunEventBody

/-- The members `event_kind` and `payload`, flattened into the event. -/
def fields : Fields FinanceRunEventBody FinanceRunEventBody :=
  .tagged "event_kind" "payload" (by decide)
    (max FinanceRunCreatedPayload.codec.depth
      (max FinancePhaseAdvancedPayload.codec.depth FinanceRunTerminalizedPayload.codec.depth))
    (fun
      | .runCreated payload => ("run.created", FinanceRunCreatedPayload.codec.enc payload)
      | .phaseAdvanced payload =>
          ("run.phase_advanced", FinancePhaseAdvancedPayload.codec.enc payload)
      | .runTerminalized payload =>
          ("run.terminalized", FinanceRunTerminalizedPayload.codec.enc payload))
    (fun kind v =>
      if kind = "run.created" then (FinanceRunCreatedPayload.codec.dec v).map .runCreated
      else if kind = "run.phase_advanced" then
        (FinancePhaseAdvancedPayload.codec.dec v).map .phaseAdvanced
      else if kind = "run.terminalized" then
        (FinanceRunTerminalizedPayload.codec.dec v).map .runTerminalized
      else none)
    (fun body => by cases body <;> simp [Codec.dec_enc])
    (fun body => by
      cases body with
      | runCreated payload => exact (Codec.regular _ payload).mono (le_max_left ..)
      | phaseAdvanced payload =>
        exact (Codec.regular _ payload).mono ((le_max_left ..).trans (le_max_right ..))
      | runTerminalized payload =>
        exact (Codec.regular _ payload).mono ((le_max_right ..).trans (le_max_right ..)))
    (fun body => by
      cases body with
      | runCreated payload => exact FinanceRunCreatedPayload.codec.unique payload
      | phaseAdvanced payload => exact FinancePhaseAdvancedPayload.codec.unique payload
      | runTerminalized payload => exact FinanceRunTerminalizedPayload.codec.unique payload)

end FinanceRunEventBody

namespace FinanceRunEvent

def codec : Codec FinanceRunEvent :=
  .record ((Fields.start FinanceRunEvent mk
    |>.required "event_version" string (·.eventVersion)
    |>.required "run_id" string (·.runId)
    |>.required "run_genesis_digest" string (·.runGenesisDigest)
    |>.required "sequence" uint64 (·.sequence)
    |>.nullable "previous_event_sha256" string (fun _ => nofun) (·.previousEventSha256)).flatten
      FinanceRunEventBody.fields (·.body))
  (by decide) fun _ => rfl

end FinanceRunEvent

namespace FinanceRunGenesis

def codec : Codec FinanceRunGenesis :=
  .record (Fields.start FinanceRunGenesis mk
    |>.required "run_id" string (·.runId)
    |>.required "writer_capability" string (·.writerCapability)
    |>.required "policy" FinanceArtifactIdentity.codec (·.policy)
    |>.required "invocation" FinanceArtifactIdentity.codec (·.invocation)
    |>.required "profile" FinanceArtifactIdentity.codec (·.profile)
    |>.required "claim_manifest" FinanceArtifactIdentity.codec (·.claimManifest)
    |>.required "primary" FinanceArtifactIdentity.codec (·.primary)
    |>.required "evidence_index" FinanceArtifactIdentity.codec (·.evidenceIndex)
    |>.required "school_routes" (list FinanceSchoolRoute.codec) (·.schoolRoutes)
    |>.required "counterpart_arbiter" FinanceArbiterRoute.codec (·.counterpartArbiter)
    |>.required "primary_arbiter" FinanceArbiterRoute.codec (·.primaryArbiter)
    |>.required "r1_packets" (list FinanceArtifactIdentity.codec) (·.r1Packets))
  (by decide) fun _ => rfl

end FinanceRunGenesis

namespace PendingFinanceTransition

def codec : Codec PendingFinanceTransition :=
  .record (Fields.start PendingFinanceTransition mk
    |>.required "pending_transition_version" string (·.pendingTransitionVersion)
    |>.required "run_id" string (·.runId)
    |>.required "run_genesis_digest" string (·.runGenesisDigest)
    |>.required "transition_id" string (·.transitionId)
    |>.required "operation" string (·.operation)
    |>.nullable "old_manifest_exact_sha256" string (fun _ => nofun) (·.oldManifestExactSha256)
    |>.nullable "old_event_checkpoint" FinanceEventCheckpoint.codec (fun _ => nofun)
      (·.oldEventCheckpoint)
    |>.required "event_exact_sha256" string (·.eventExactSha256)
    |>.required "event_byte_length" uint64 (·.eventByteLength)
    |>.required "event_bytes_base64" string (·.eventBytesBase64)
    |>.required "target_manifest_exact_sha256" string (·.targetManifestExactSha256)
    |>.required "target_manifest_byte_length" uint64 (·.targetManifestByteLength)
    |>.required "target_manifest_bytes_base64" string (·.targetManifestBytesBase64)
    |>.required "artifact_bindings" (list PortableBinding.codec) (·.artifactBindings))
  (by decide) fun _ => rfl

end PendingFinanceTransition

end Quinte.Finance
