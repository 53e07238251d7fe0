import Mathlib
import Quinte.Finance.Digests
import Quinte.Finance.Schemas

/-! # The review logic

    What is checked of the inputs and of the schools' outputs, how the packets
    are built, how two phases of outputs are folded into decisions, and when a
    result may be published.  A loop with a set of what it has met is a
    recursion with a list of it.
-/

namespace Quinte.Finance

open Policy (require require_ok bind_ok forM_ok)

variable (P : Platform)

/-- `.context(message)?` on an option. -/
def context {α : Type} (message : String) : Option α → Except String α
  | some a => .ok a
  | none => .error message

@[simp] theorem context_ok {α : Type} {message : String} {o : Option α} {a : α} :
    context message o = .ok a ↔ o = some a := by
  cases o <;> simp [context]

/-! ### Policy, profile and claims -/

/-- `validate_profile`. -/
def validateProfile (profile : FinanceReviewProfile) : Except String Unit := do
  require (profile.financeReviewProfileVersion == "1.0")
    "finance_review_profile_version must be 1.0"
  require (profile.schools.length == schoolBindings.length)
    "finance profile must define exactly five schools"
  (schoolBindings.zip profile.schools).forM fun ((party, school), authority) =>
    require (authority.partyId == party && authority.schoolId == school)
      "finance profile school map does not match the fixed Party A-E authority map"

/-- A school, as a debug text. -/
def SchoolId.variant : SchoolId → String
  | .factorRiskModel => "FactorRiskModel"
  | .eventDriven => "EventDriven"
  | .fundamentalSupplyChain => "FundamentalSupplyChain"
  | .trendTechnicalRegime => "TrendTechnicalRegime"
  | .marketMicrostructure => "MarketMicrostructure"

/-- The accepted items' references. -/
def admittedEvidence (evidence : FinanceEvidenceIndex) : List String :=
  (evidence.items.filter (·.status == .accepted)).map (·.evidenceRef)

/-- The class of the first item with a reference is one the school may use. -/
def withinAuthority (authority : SchoolAuthority) (evidence : FinanceEvidenceIndex)
    (reference : String) : Bool :=
  (evidence.items.find? (·.evidenceRef == reference)).any fun item =>
    authority.acceptedEvidenceClasses.contains item.evidenceClass

/-- The set-valued fields of a decision. -/
def SchoolClaimDecision.setFields (decision : SchoolClaimDecision) : List (List String) :=
  [decision.evidenceRefs, decision.alternativeCodes, decision.confounderCodes,
    decision.falsifierCodes, decision.invalidationCodes, decision.limitationCodes,
    decision.missingEvidenceCodes, decision.closureEvidenceRefs]

/-- The order of the residuals of an output. -/
def FinanceResidual.before (a b : FinanceResidual) : Prop :=
  a.residualCode < b.residualCode
    ∨ a.residualCode = b.residualCode ∧ a.affectedClaimIds < b.affectedClaimIds

instance : DecidableRel FinanceResidual.before := fun _ _ =>
  inferInstanceAs (Decidable (_ ∨ _ ∧ _))

def validateDecision (profile : FinanceReviewProfile) (evidence : FinanceEvidenceIndex)
    (authority : SchoolAuthority) (decision : SchoolClaimDecision) : Except String Unit := do
  (decision.evidenceRefs ++ decision.closureEvidenceRefs).forM fun reference => do
    require ((admittedEvidence evidence).contains reference)
      "school output cites evidence absent from the pinned evidence index"
    require (withinAuthority authority evidence reference)
      "school output cites an evidence class outside its profile authority"
  match decision.closureRuleCode with
  | some rule => do
      require (profile.closureRuleCodes.contains rule)
        "school decision uses an unregistered closure rule"
      require (!decision.closureEvidenceRefs.isEmpty)
        "school decision closure requires admitted evidence"
  | none =>
      require decision.closureEvidenceRefs.isEmpty
        "school decision closure evidence requires a registered rule"

def validateResidual (profile : FinanceReviewProfile) (claimIds : List String)
    (evidence : FinanceEvidenceIndex) (authority : SchoolAuthority) (residual : FinanceResidual) :
    Except String Unit := do
  require
    (residual.affectedClaimIds.all claimIds.contains
      && residual.closureEvidenceRefs.all (admittedEvidence evidence).contains)
    "school residual cites an unregistered claim or evidence item"
  require (residual.closureRuleCode.all profile.closureRuleCodes.contains)
    "school residual uses an unregistered closure rule"
  residual.closureEvidenceRefs.forM fun reference =>
    require (withinAuthority authority evidence reference)
      "school residual cites an evidence class outside its profile authority"
  match residual.closureState with
  | .isClosed =>
      require (residual.closureRuleCode.isSome && !residual.closureEvidenceRefs.isEmpty)
        "closed school residual requires a registered rule and admitted evidence"
  | .isOpen =>
      require (residual.closureRuleCode.isNone && residual.closureEvidenceRefs.isEmpty)
        "open school residual cannot self-report closure authority"

/-- The check of one output in `validate_lane_claims_and_evidence`. -/
def validateLaneOutput (profile : FinanceReviewProfile) (claims : FinanceClaimManifest)
    (evidence : FinanceEvidenceIndex) (output : SchoolLaneOutput) : Except String Unit := do
  let expected : List String := claims.claims.map (·.claimId)
  let authority ← context "school output has no profile authority"
    (profile.schools.find? (·.schoolId == output.schoolId))
  let actual : List String := output.decisions.map (·.claimId)
  require (decide actual.Nodup && actual.toFinset == expected.toFinset)
    "school decision set must equal preregistered claims exactly once"
  output.decisions.forM fun decision =>
    require (decision.setFields.all fun values => values.IsChain (· < ·))
      "school decision set-valued fields must be sorted and duplicate-free"
  require (output.residuals.IsChain FinanceResidual.before)
    "school residuals must be sorted and duplicate-free"
  output.decisions.forM (validateDecision profile evidence authority)
  output.residuals.forM (validateResidual profile expected evidence authority)

/-- `validate_lane_claims_and_evidence`. -/
def validateLaneClaimsAndEvidence (profile : FinanceReviewProfile) (claims : FinanceClaimManifest)
    (evidence : FinanceEvidenceIndex) (outputs : List SchoolLaneOutput) : Except String Unit :=
  outputs.forM (validateLaneOutput profile claims evidence)

/-- The loop of `validate_school_output_set`, with the schools met. -/
def validateSchoolOutputs (runId : String) (phase : FinancePhase) :
    List SchoolLaneOutput → List SchoolId → Except String (List SchoolId)
  | [], met => .ok met
  | output :: outputs, met => do
    require
      (output.schoolLaneOutputVersion == "1.0" && output.runId == runId && output.phase == phase
        && !met.contains output.schoolId)
      "invalid, duplicate, or cross-run finance school output"
    validateSchoolOutputs runId phase outputs (output.schoolId :: met)

/-- `validate_school_output_set`. -/
def validateSchoolOutputSet (runId : String) (phase : FinancePhase)
    (outputs : List SchoolLaneOutput) : Except String Unit := do
  require (outputs.length == 5) "finance phase must contain exactly five school outputs"
  let met ← validateSchoolOutputs runId phase outputs []
  require (met.toFinset == schools.toFinset)
    "finance output set does not contain the fixed five schools"

/-! ### Packets -/

/-- `build_r1_packet`. -/
def buildR1Packet (runId : String)
    (invocation policy profile claimManifest primary evidenceIndex : PortableBinding)
    (recipientRouteDigest : String) (authority : SchoolAuthority) : FinanceTaskPacket where
  taskPacketVersion := financePacketVersion
  runId := runId
  phase := .r1
  invocation := invocation
  policy := policy
  profile := profile
  claimManifest := claimManifest
  primary := primary
  evidenceIndex := evidenceIndex
  recipientRouteDigest := recipientRouteDigest
  authority := authority

/-- The digests under which an output may have been bound: of the document as
    it is written, and of the same with its members sorted. -/
def exactCandidates (output : SchoolLaneOutput) : List String :=
  [exactDigest P (toVecPretty SchoolLaneOutput.codec output),
    exactDigest P (valuePretty (toValue SchoolLaneOutput.codec output))]

/-- A binding of the output, by its family, revision, domain and digest. -/
def bindsOutput (output : SchoolLaneOutput) (binding : PortableBinding) : Bool :=
  binding.contractFamily == "school-lane-output" && binding.revision == "1.0"
    && binding.semanticDomain == "quinte.school-lane-output.v1"
    && (exactCandidates P output).contains binding.exactSha256

/-- Texts, as a debug text. -/
def debugTexts (texts : List String) : String :=
  "[" ++ ", ".intercalate (texts.map String.quote) ++ "]"

/-- The loop of `build_r2_packet` that finds each output's binding, with the
    places of the bindings found. -/
def matchBindings (bindings : List PortableBinding) :
    List SchoolLaneOutput → List Nat → Except String (List Nat)
  | [], matched => .ok matched
  | output :: outputs, matched => do
    let index ← context
      ("R2 source set does not bind complete R1 output exact identities "
        ++ debugTexts (exactCandidates P output) ++ "; candidates: "
        ++ debugTexts (bindings.map (·.exactSha256)))
      (bindings.findIdx? (bindsOutput P output))
    require (!matched.contains index)
      "R2 source set reuses one R1 artifact for multiple outputs"
    matchBindings bindings outputs (index :: matched)

def R1SourceIdentity.le (a b : R1SourceIdentity) : Prop :=
  a.exactSha256 < b.exactSha256
    ∨ a.exactSha256 = b.exactSha256 ∧ a.semanticSha256 ≤ b.semanticSha256

instance : DecidableRel R1SourceIdentity.le := fun _ _ =>
  inferInstanceAs (Decidable (_ ∨ _ ∧ _))

/-- `sort` and `dedup`. -/
def sortDedup (values : List String) : List String := values.toFinset.sort (· ≤ ·)

/-- `validate_anonymous_evidence_id`. -/
def validateAnonymousEvidenceId (reference : String) : Except String Unit :=
  require (Schemas.sha256Pattern "evidence:sha256:" reference)
    "R2 projection evidence references must be anonymous content IDs"

/-- The codes of an output's residuals that affect a claim. -/
def residualCodes (output : SchoolLaneOutput) (claimId : String) : List String :=
  output.residuals.flatMap fun residual =>
    (residual.affectedClaimIds.filter (· == claimId)).map fun _ => residual.residualCode

/-- What the other schools see of a decision. -/
def projectDecision (output : SchoolLaneOutput) (decision : SchoolClaimDecision) :
    Except String AnonymousDecision := do
  decision.evidenceRefs.forM validateAnonymousEvidenceId
  return {
    claimId := decision.claimId
    disposition := decision.disposition
    evidenceRefs := sortDedup decision.evidenceRefs
    residualCodes := sortDedup (residualCodes output decision.claimId) }

/-- What the other schools see of an output, with the digest it is sorted by. -/
def projectOutput (output : SchoolLaneOutput) :
    Except String (String × List AnonymousDecision) := do
  let decisions ← output.decisions.mapM (projectDecision output)
  let decisions := decisions.insertionSort fun a b => a.claimId ≤ b.claimId
  let key ← semanticDigestValue P UnaliasedR1Contribution.codec "quinte.r2-contribution.v2"
    { decisions := decisions }
  return (key, decisions)

/-- The contributions, in the order of their digests. -/
def contributionsOf (projected : List (String × List AnonymousDecision)) :
    List AnonymousR1Contribution :=
  (projected.insertionSort fun a b => a.1 ≤ b.1).zipIdx.map fun ((_, decisions), index) =>
    { contributorAlias := "contributor-" ++ toString (index + 1), decisions := decisions }

/-- `build_r2_packet`. -/
def buildR2Packet (runId : String) (recipient : SchoolAuthority) (claims : List FinanceClaim)
    (r1 : List SchoolLaneOutput) (r1Bindings : List PortableBinding)
    (policy profile claimManifest primary evidenceIndex : PortableBinding)
    (recipientRouteDigest : String) : Except String FinanceR2Packet := do
  validateSchoolOutputSet runId .r1 r1
  require (r1Bindings.length == 5) "R2 source set must bind exactly five R1 artifacts"
  let matched ← matchBindings P r1Bindings r1 []
  require (matched.length == r1Bindings.length)
    "R2 source set contains an unrelated R1 artifact identity"
  let sourceIdentities := (r1Bindings.map fun binding =>
    ({ exactSha256 := binding.exactSha256, semanticSha256 := binding.semanticSha256 }
      : R1SourceIdentity)).insertionSort R1SourceIdentity.le
  require (sourceIdentities.IsChain (· ≠ ·))
    "R2 source set contains a duplicate R1 artifact identity"
  let r1SourceSetSemanticSha256 ← semanticDigestValue P R1SourceSet.codec
    "quinte.finance-r1-source-set.v1" { outputs := sourceIdentities }
  let projected ← r1.mapM (projectOutput P)
  let corpus : AnonymousR1Corpus :=
    { claims := claims.map fun claim => (claim.claimId, claim.text)
      contributions := contributionsOf projected }
  let corpusSemanticSha256 ← semanticDigestValue P BoundAnonymousCorpus.codec
    "quinte.finance-r2-corpus.v2"
    { r1SourceSetSemanticSha256 := r1SourceSetSemanticSha256, corpus := corpus }
  return {
    packetVersion := financePacketVersion
    runId := runId
    recipientAuthority := recipient
    policy := policy
    profile := profile
    claimManifest := claimManifest
    primary := primary
    evidenceIndex := evidenceIndex
    recipientRouteDigest := recipientRouteDigest
    r1SourceSetSemanticSha256 := r1SourceSetSemanticSha256
    corpusSemanticSha256 := corpusSemanticSha256
    corpus := corpus }

/-- `bind_output_to_packet`: the packet's members are sorted before it is
    written. -/
def bindOutputToPacket {α : Type} (C : Json.Codec α) (output : SchoolLaneOutput) (packet : α)
    (domain : String) : Except String Unit := do
  let value := toValue C packet
  require (output.inputPacketExactSha256 == exactDigest P (valuePretty value))
    "school output input packet binding mismatch"
  let semantic ← semanticDigest P domain value
  require (output.inputPacketSemanticSha256 == semantic)
    "school output input packet binding mismatch"

/-! ### The fold -/

/-- `blocking_disposition`. -/
def blockingDisposition : SchoolDisposition → Bool
  | .clear | .notApplicable => false
  | _ => true

/-- `rank`. -/
def rank : SchoolDisposition → Nat
  | .clear => 0
  | .notApplicable => 1
  | .insufficientEvidence => 2
  | .contradicted => 3
  | .quarantined => 4
  | .expired => 5

/-- `max_by_key`: the last one of the greatest. -/
def maxByRank : List SchoolClaimDecision → Option SchoolClaimDecision
  | [] => none
  | item :: items => match maxByRank items with
    | none => some item
    | some best => if rank item.disposition ≤ rank best.disposition then some best else some item

/-- `can_close` in `conservative_fold`. -/
def canClose (profile : FinanceReviewProfile) (admitted : List String)
    (item : SchoolClaimDecision) : Bool :=
  item.closureRuleCode.any profile.closureRuleCodes.contains && !item.closureEvidenceRefs.isEmpty
    && item.closureEvidenceRefs.all admitted.contains

/-- Whether a rule takes effect. -/
def PreregisteredApplicability.effective (rule : PreregisteredApplicability) : Bool :=
  rule.mode == .mandatory || rule.mode == .conditional && rule.predicateResult == some true

/-- The decision of a school on a claim. -/
def decisionOf (outputs : List SchoolLaneOutput) (school : SchoolId) (claimId : String) :
    Option SchoolClaimDecision :=
  (outputs.find? (·.schoolId == school)).bind fun output =>
    output.decisions.find? (·.claimId == claimId)

/-- The decision on one claim and school in `conservative_fold`. -/
def foldDecision (profile : FinanceReviewProfile) (admitted : List String)
    (r1 r2 : List SchoolLaneOutput) (claim : FinanceClaim) (school : SchoolId) :
    Except String FoldedSchoolDecision := do
  let applicability ← context "missing applicability" (claim.schoolApplicability school)
  let first ← context "R1 output is missing a preregistered claim"
    (decisionOf r1 school claim.claimId)
  let second ← context "R2 output is missing a preregistered claim"
    (decisionOf r2 school claim.claimId)
  let unresolved := maxByRank ([first, second].filter fun item =>
    blockingDisposition item.disposition && !canClose profile admitted item)
  let effective := applicability.effective
  require
    (effective || first.disposition == .notApplicable && second.disposition == .notApplicable)
    "inapplicable school must return not_applicable in both phases"
  require
    (!effective || first.disposition != .notApplicable && second.disposition != .notApplicable)
    "applicable school cannot return not_applicable"
  let disposition := if effective then (unresolved.map (·.disposition)).getD .clear
    else .notApplicable
  return {
    claimId := claim.claimId
    schoolId := school
    applicability := applicability.mode
    disposition := disposition
    blocking := effective && disposition != .clear }

/-- `conservative_fold`. -/
def conservativeFold (profile : FinanceReviewProfile) (manifest : FinanceClaimManifest)
    (r1 r2 : List SchoolLaneOutput) (admitted : List String) :
    Except String (List FoldedSchoolDecision) := do
  let first ← context "missing R1 outputs" r1.head?
  validateSchoolOutputSet first.runId .r1 r1
  validateSchoolOutputSet first.runId .r2 r2
  (manifest.claims.flatMap fun claim => schools.map fun school => (claim, school)).mapM
    fun (claim, school) => foldDecision profile admitted r1 r2 claim school

/-! ### Publication -/

/-- The open material residuals of the outputs, in order. -/
def openMaterialResiduals (outputs : List SchoolLaneOutput) : List String :=
  sortDedup (outputs.flatMap fun output =>
    (output.residuals.filter fun residual =>
      residual.materiality == .material && residual.closureState == .isOpen).map (·.residualCode))

/-- The invalidation codes of the outputs, in order. -/
def activeInvalidations (outputs : List SchoolLaneOutput) : List String :=
  sortDedup (outputs.flatMap fun output => output.decisions.flatMap (·.invalidationCodes))

/-- What a folded decision has against publication. -/
def postureReasonOf (decision : FoldedSchoolDecision) : Option PostureReason :=
  match decision.applicability with
  | .mandatory =>
      if decision.disposition != .clear then some .mandatorySchoolNotClear
      else if decision.disposition == .notApplicable then some .invalidNotApplicable
      else none
  | .conditional => if decision.blocking then some .conditionalSchoolNotClear else none
  | .outOfScope => none

/-- The reasons, in their order. -/
def allPostureReasons : List PostureReason :=
  [.primaryNotAccepted, .primaryExpired, .primaryProvenanceIncomplete,
    .evidenceProvenanceIncomplete, .mandatorySchoolNotClear, .conditionalSchoolNotClear,
    .invalidNotApplicable, .openMaterialResidual, .activeInvalidation]

/-- `publication_posture`. -/
def publicationPosture (primary : PrimaryAuthority) (evidence : FinanceEvidenceIndex)
    (folded : List FoldedSchoolDecision) (openMaterialResiduals activeInvalidations : List String) :
    PublicationDecision :=
  let inserted : List PostureReason :=
    (if primary.status != .accepted then [.primaryNotAccepted] else [])
      ++ (if primary.expirySession < primary.evaluationSession then [.primaryExpired] else [])
      ++ (if !primary.provenanceComplete then [.primaryProvenanceIncomplete] else [])
      ++ (if evidence.items.any (!·.provenanceComplete) then [.evidenceProvenanceIncomplete]
          else [])
      ++ folded.filterMap postureReasonOf
      ++ (if !openMaterialResiduals.isEmpty then [.openMaterialResidual] else [])
      ++ (if !activeInvalidations.isEmpty then [.activeInvalidation] else [])
  { functionRevision := "1.0"
    posture := if inserted.isEmpty then .publishBounded else .abstain
    reasonCodes := allPostureReasons.filter inserted.contains }

end Quinte.Finance
