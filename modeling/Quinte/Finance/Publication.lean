import Mathlib
import Quinte.Finance.Finalize
import Quinte.Finance.Projection

/-! # Publication

    When a review is published: the condition in the terms of the documents,
    and that neither the order of the outputs nor the arbiters have a part in
    it.

    * `publicationPosture_publish`: the posture has nothing against it;
    * `foldDecision_clear`: what the fold lets pass of one claim and school;
    * `canClose_iff`: what the fold calls closed is closed by evidence that the
      school may use, once the outputs have been validated;
    * `publication_conservative`: the three together, for a whole bundle.
-/

namespace Quinte.Finance

open Policy (require require_ok bind_ok forM_ok)

/-! ### What publication asks for -/

/-- A registered rule closes the decision, on accepted evidence of classes that
    the school may use. -/
def Closed (profile : FinanceReviewProfile) (evidence : FinanceEvidenceIndex) (school : SchoolId)
    (decision : SchoolClaimDecision) : Prop :=
  (∃ rule, decision.closureRuleCode = some rule ∧ rule ∈ profile.closureRuleCodes) ∧
  decision.closureEvidenceRefs ≠ [] ∧
  ∀ reference ∈ decision.closureEvidenceRefs, ∃ item ∈ evidence.items,
    item.evidenceRef = reference ∧ item.status = .accepted ∧
    ∃ authority ∈ profile.schools, authority.schoolId = school ∧
      item.evidenceClass ∈ authority.acceptedEvidenceClasses

/-- The school's decision on the claim is clear or closed. -/
def ClearOrClosed (inputs : FinanceInputs) (outputs : List SchoolLaneOutput) (school : SchoolId)
    (claim : FinanceClaim) : Prop :=
  ∃ decision, decisionOf outputs school claim.claimId = some decision ∧
    (decision.disposition = .clear ∨ Closed inputs.profile inputs.evidence school decision)

/-- Nothing stands against publication. -/
structure Publishable (inputs : FinanceInputs) (r1 r2 : List SchoolLaneOutput) : Prop where
  accepted : inputs.invocation.primary.status = .accepted
  unexpired : inputs.invocation.primary.evaluationSession ≤ inputs.invocation.primary.expirySession
  provenance : inputs.invocation.primary.provenanceComplete = true
  evidence : ∀ item ∈ inputs.evidence.items, item.provenanceComplete = true
  decisions : ∀ claim ∈ inputs.claims.claims, ∀ school rule,
    claim.schoolApplicability school = some rule → rule.effective = true →
      ClearOrClosed inputs r1 school claim ∧ ClearOrClosed inputs r2 school claim
  residuals : ∀ output ∈ r1 ++ r2, ∀ residual ∈ output.residuals,
    ¬(residual.materiality = .material ∧ residual.closureState = .isOpen)
  invalidations : ∀ output ∈ r1 ++ r2, ∀ decision ∈ output.decisions,
    decision.invalidationCodes = []

/-! ### The posture -/

/-- What each reason says, by its name. -/
def ReasonHolds (primary : PrimaryAuthority) (evidence : FinanceEvidenceIndex)
    (folded : List FoldedSchoolDecision) (residuals invalidations : List String) :
    PostureReason → Prop
  | .primaryNotAccepted => primary.status ≠ .accepted
  | .primaryExpired => primary.expirySession < primary.evaluationSession
  | .primaryProvenanceIncomplete => primary.provenanceComplete = false
  | .evidenceProvenanceIncomplete => ∃ item ∈ evidence.items, item.provenanceComplete = false
  | .mandatorySchoolNotClear => ∃ entry ∈ folded, entry.applicability = .mandatory ∧
      entry.disposition ≠ .clear ∧ entry.disposition ≠ .notApplicable
  | .conditionalSchoolNotClear => ∃ entry ∈ folded, entry.applicability = .conditional ∧
      entry.blocking = true
  | .invalidNotApplicable => ∃ entry ∈ folded, entry.applicability = .mandatory ∧
      entry.disposition = .notApplicable
  | .openMaterialResidual => residuals ≠ []
  | .activeInvalidation => invalidations ≠ []

/-- The reasons of a decision are those that hold, in their order, and it is
    published where there are none. -/
structure ReasonsExact (primary : PrimaryAuthority) (evidence : FinanceEvidenceIndex)
    (folded : List FoldedSchoolDecision) (residuals invalidations : List String)
    (decision : PublicationDecision) : Prop where
  posture : decision.posture = .publishBounded ↔ decision.reasonCodes = []
  sorted : decision.reasonCodes.Pairwise fun a b => a.ctorIdx < b.ctorIdx
  exact : ∀ reason, reason ∈ decision.reasonCodes ↔
    ReasonHolds primary evidence folded residuals invalidations reason

section reasons

variable {primary : PrimaryAuthority} {evidence : FinanceEvidenceIndex}
  {folded : List FoldedSchoolDecision} {residuals invalidations : List String}

theorem mem_allPostureReasons (reason : PostureReason) : reason ∈ allPostureReasons := by
  cases reason <;> decide

theorem postureReasonOf_eq (entry : FoldedSchoolDecision) :
    postureReasonOf entry = match entry.applicability with
      | .mandatory => if entry.disposition = .clear then none else some .mandatorySchoolNotClear
      | .conditional => if entry.blocking then some .conditionalSchoolNotClear else none
      | .outOfScope => none := by
  unfold postureReasonOf
  cases happlicability : entry.applicability with
  | mandatory => cases hdisposition : entry.disposition <;> rfl
  | conditional => rfl
  | outOfScope => rfl

/-- The reasons that are reported. A mandatory decision that is not applicable
    is reported as one that is not clear. -/
theorem mem_reasonCodes {reason : PostureReason} :
    reason ∈ (publicationPosture primary evidence folded residuals invalidations).reasonCodes ↔
      match reason with
      | .mandatorySchoolNotClear => ∃ entry ∈ folded, entry.applicability = .mandatory ∧
          entry.disposition ≠ .clear
      | .invalidNotApplicable => False
      | reason => ReasonHolds primary evidence folded residuals invalidations reason := by
  -- the two arms of the match that can be reached
  have hentry : ∀ reason, (∃ entry ∈ folded, postureReasonOf entry = some reason) ↔
      (reason = .mandatorySchoolNotClear ∧ ∃ entry ∈ folded, entry.applicability = .mandatory ∧
        entry.disposition ≠ .clear) ∨
      (reason = .conditionalSchoolNotClear ∧ ∃ entry ∈ folded,
        entry.applicability = .conditional ∧ entry.blocking = true) := by
    intro reason
    simp only [postureReasonOf_eq]
    constructor
    · rintro ⟨entry, hentry, hreason⟩
      split at hreason
      · rename_i happlicability
        split at hreason
        · exact nomatch hreason
        · rename_i hclear
          exact Or.inl ⟨(Option.some.inj hreason).symm, entry, hentry, happlicability, hclear⟩
      · rename_i happlicability
        split at hreason
        · rename_i hblocking
          exact Or.inr ⟨(Option.some.inj hreason).symm, entry, hentry, happlicability, hblocking⟩
        · exact nomatch hreason
      · exact nomatch hreason
    · rintro (⟨rfl, entry, hentry, happlicability, hclear⟩ |
        ⟨rfl, entry, hentry, happlicability, hblocking⟩)
      · exact ⟨entry, hentry, by rw [happlicability]; exact if_neg hclear⟩
      · exact ⟨entry, hentry, by rw [happlicability]; exact if_pos hblocking⟩
  have hif : ∀ (c : Prop) [Decidable c] (a : PostureReason),
      a ∈ (if c then [reason] else []) ↔ c ∧ a = reason := by
    intro c _ a
    by_cases hc : c <;> simp [hc]
  unfold publicationPosture
  simp only [List.mem_filter, mem_allPostureReasons, true_and, List.contains_eq_mem, decide_eq_true_eq,
    List.mem_append, List.mem_filterMap, hentry]
  cases reason <;> simp [ReasonHolds]

/-- **The reasons are exact** where no mandatory decision is not applicable: the
    reason for that is never given. -/
theorem reasons_exact_iff (primary : PrimaryAuthority) (evidence : FinanceEvidenceIndex)
    (folded : List FoldedSchoolDecision) (residuals invalidations : List String) :
    ReasonsExact primary evidence folded residuals invalidations
        (publicationPosture primary evidence folded residuals invalidations) ↔
      ∀ entry ∈ folded, entry.applicability = .mandatory → entry.disposition ≠ .notApplicable := by
  constructor
  · intro h entry hentry hmandatory hdisposition
    have hreported := (h.exact .invalidNotApplicable).mpr ⟨entry, hentry, hmandatory, hdisposition⟩
    exact mem_reasonCodes.mp hreported
  · intro h
    -- the posture, the order of the codes, and each code
    refine ⟨?_, ?_, fun reason => ?_⟩
    · have hempty : ∀ inserted : List PostureReason,
          (if inserted.isEmpty then PublicationPosture.publishBounded else .abstain)
              = .publishBounded ↔ allPostureReasons.filter inserted.contains = [] := by
        intro inserted
        cases inserted with
        | nil => simp
        | cons reason inserted =>
          refine iff_of_false (by simp) fun hnil => ?_
          exact List.filter_eq_nil_iff.mp hnil reason (mem_allPostureReasons reason) (by simp)
      exact hempty _
    · exact List.Pairwise.filter _ (by decide)
    · rw [mem_reasonCodes]
      cases reason with
      -- the arm that shadows the other takes in just what the claim wants
      | mandatorySchoolNotClear =>
        constructor
        · rintro ⟨entry, hentry, hmandatory, hclear⟩
          exact ⟨entry, hentry, hmandatory, hclear, h entry hentry hmandatory⟩
        · rintro ⟨entry, hentry, hmandatory, hclear, -⟩
          exact ⟨entry, hentry, hmandatory, hclear⟩
      | invalidNotApplicable =>
        refine ⟨False.elim, ?_⟩
        rintro ⟨entry, hentry, hmandatory, hdisposition⟩
        exact h entry hentry hmandatory hdisposition
      | _ => exact Iff.rfl

/-- A mandatory school that both phases found not applicable. -/
def absentEntry : FoldedSchoolDecision where
  claimId := "claim-1"
  schoolId := .eventDriven
  applicability := .mandatory
  disposition := .notApplicable
  blocking := true

/-- A primary document that nothing is held against. -/
def acceptedPrimary : PrimaryAuthority where
  binding := {
    artifactRef := "primary.json"
    contractFamily := "primary"
    schemaId := none
    revision := "1.0"
    exactSha256 := ""
    semanticDomain := "primary.v1"
    semanticSha256 := "" }
  status := .accepted
  provenanceComplete := true
  evaluationSession := "2026-01-05"
  expirySession := "2026-01-06"

def emptyEvidence : FinanceEvidenceIndex where
  financeEvidenceIndexVersion := "1.0"
  asOf := "2026-01-05"
  evaluationSession := "2026-01-05"
  items := []

/-- The reason for a mandatory decision that is not applicable is not given. -/
theorem reasons_not_exact : ¬ReasonsExact acceptedPrimary emptyEvidence [absentEntry] [] []
    (publicationPosture acceptedPrimary emptyEvidence [absentEntry] [] []) := by
  intro h
  have hreported := (h.exact .invalidNotApplicable).mpr
    ⟨absentEntry, List.mem_cons_self, rfl, rfl⟩
  exact mem_reasonCodes.mp hreported

end reasons

/-! ### The fold -/

section fold

variable {profile : FinanceReviewProfile} {evidence : FinanceEvidenceIndex}
  {admitted : List String} {r1 r2 : List SchoolLaneOutput} {claim : FinanceClaim}
  {school : SchoolId} {entry : FoldedSchoolDecision}

theorem maxByRank_eq_none {items : List SchoolClaimDecision} :
    maxByRank items = none ↔ items = [] := by
  cases items with
  | nil => simp [maxByRank]
  | cons item items =>
    refine iff_of_false ?_ (List.cons_ne_nil item items)
    rw [maxByRank]
    cases maxByRank items with
    | none => exact fun h => nomatch h
    | some best =>
      dsimp only
      split <;> exact fun h => nomatch h

theorem maxByRank_mem {items : List SchoolClaimDecision} {best : SchoolClaimDecision}
    (h : maxByRank items = some best) : best ∈ items := by
  induction items generalizing best with
  | nil => exact nomatch h
  | cons item items ih =>
    rw [maxByRank] at h
    cases hrest : maxByRank items with
    | none =>
      rw [hrest] at h
      exact Option.some.inj h ▸ List.mem_cons_self
    | some best' =>
      rw [hrest] at h
      dsimp only at h
      split at h
      · exact List.mem_cons_of_mem _ (Option.some.inj h ▸ ih hrest)
      · exact Option.some.inj h ▸ List.mem_cons_self

/-- Neither clear nor closed. -/
def unresolved (profile : FinanceReviewProfile) (admitted : List String)
    (item : SchoolClaimDecision) : Bool :=
  blockingDisposition item.disposition && !canClose profile admitted item

theorem unresolved_eq_false {item : SchoolClaimDecision} (h : item.disposition ≠ .notApplicable) :
    unresolved profile admitted item = false ↔
      item.disposition = .clear ∨ canClose profile admitted item = true := by
  rw [unresolved, Bool.and_eq_false_iff, Bool.not_eq_false']
  refine or_congr_left ?_
  cases hd : item.disposition <;> simp_all [blockingDisposition]

/-- What comes out is clear where nothing is left unresolved. -/
theorem mostBlocking_clear {items : List SchoolClaimDecision} :
    ((maxByRank (items.filter (unresolved profile admitted))).map (·.disposition)).getD .clear
        = .clear ↔
      ∀ item ∈ items, unresolved profile admitted item = false := by
  have hnil : items.filter (unresolved profile admitted) = [] ↔
      ∀ item ∈ items, unresolved profile admitted item = false := by
    rw [List.filter_eq_nil_iff]
    exact forall₂_congr fun _ _ => iff_of_eq (Bool.not_eq_true _)
  rw [← hnil, ← maxByRank_eq_none]
  cases hmax : maxByRank (items.filter (unresolved profile admitted)) with
  | none => simp
  | some best =>
    have hbest := (List.mem_filter.mp (maxByRank_mem hmax)).2
    have hne : best.disposition ≠ .clear := by
      intro hclear
      simp [unresolved, blockingDisposition, hclear] at hbest
    simpa using hne

/-- Nothing is said against a decision of a rule without effect. -/
theorem postureReasonOf_ineffective {rule : PreregisteredApplicability}
    (heffective : rule.effective = false) (hmode : entry.applicability = rule.mode)
    (hblocking : entry.blocking = false) : postureReasonOf entry = none := by
  unfold postureReasonOf
  rw [hmode, hblocking]
  cases hm : rule.mode with
  | mandatory => simp [PreregisteredApplicability.effective, hm] at heffective
  | conditional | outOfScope => rfl

/-- All that is said against a decision of a rule that takes effect is that it is
    not clear. -/
theorem postureReasonOf_effective {rule : PreregisteredApplicability}
    (heffective : rule.effective = true) (hmode : entry.applicability = rule.mode)
    (hblocking : entry.blocking = (entry.disposition != .clear)) :
    postureReasonOf entry = none ↔ entry.disposition = .clear := by
  unfold postureReasonOf
  rw [hmode, hblocking]
  cases hm : rule.mode with
  | mandatory => cases entry.disposition <;> decide
  | conditional => cases entry.disposition <;> decide
  | outOfScope => simp [PreregisteredApplicability.effective, hm] at heffective

/-- Where a rule takes effect, nothing is said against a decision that both
    phases found clear or closed, and something against any other. -/
theorem foldDecision_clear
    (h : foldDecision profile admitted r1 r2 claim school = .ok entry) :
    ∃ rule first second, claim.schoolApplicability school = some rule ∧
      decisionOf r1 school claim.claimId = some first ∧
      decisionOf r2 school claim.claimId = some second ∧
      (postureReasonOf entry = none ↔ (rule.effective = true →
        (first.disposition = .clear ∨ canClose profile admitted first = true) ∧
        (second.disposition = .clear ∨ canClose profile admitted second = true))) := by
  unfold foldDecision at h
  simp only [bind_ok, exists_unit, context_ok, require_ok, pure_ok] at h
  obtain ⟨rule, hrule, first, hfirst, second, hsecond, -, happlicable, rfl⟩ := h
  refine ⟨rule, first, second, hrule, hfirst, hsecond, ?_⟩
  cases heffective : rule.effective with
  | false =>
    exact iff_of_true (postureReasonOf_ineffective heffective rfl rfl) fun h => by cases h
  | true =>
    have hboth : first.disposition ≠ .notApplicable ∧ second.disposition ≠ .notApplicable := by
      simpa [heffective] using happlicable
    rw [postureReasonOf_effective heffective rfl (Bool.true_and _), if_pos rfl,
      imp_iff_right rfl, ← unresolved_eq_false hboth.1, ← unresolved_eq_false hboth.2]
    have hclear := @mostBlocking_clear profile admitted [first, second]
    rw [List.forall_mem_cons, List.forall_mem_singleton] at hclear
    exact hclear

end fold

/-! ### What closes a decision -/

section closing

variable {P : Platform} {tree : FileTree Bytes}

variable {profile : FinanceReviewProfile} {evidence : FinanceEvidenceIndex}
  {authority : SchoolAuthority} {decision : SchoolClaimDecision}

/-- What the outputs have been checked for makes the fold's test the whole
    one. -/
theorem canClose_iff (hunique : (evidence.items.map (·.evidenceRef)).Nodup)
    (hauthority : authority ∈ profile.schools)
    (hvalid : validateDecision profile evidence authority decision = .ok ()) :
    canClose profile (admittedEvidence evidence) decision = true ↔
      Closed profile evidence authority.schoolId decision := by
  simp only [validateDecision, bind_ok, exists_unit, forM_ok, require_ok] at hvalid
  obtain ⟨hcited, -⟩ := hvalid
  simp only [canClose, Bool.and_eq_true, Option.any_eq_true, List.contains_eq_mem,
    decide_eq_true_eq, Bool.not_eq_true', List.isEmpty_eq_false_iff, List.all_eq_true, Closed,
    and_assoc]
  refine and_congr_right fun _ => and_congr_right fun _ => ?_
  have hitem : ∀ reference, reference ∈ admittedEvidence evidence ↔
      ∃ item ∈ evidence.items, item.evidenceRef = reference ∧ item.status = .accepted := by
    intro reference
    simp only [admittedEvidence, List.mem_map, List.mem_filter, beq_iff_eq]
    constructor
    · rintro ⟨item, ⟨hmem, hstatus⟩, href⟩
      exact ⟨item, hmem, href, hstatus⟩
    · rintro ⟨item, hmem, href, hstatus⟩
      exact ⟨item, ⟨hmem, hstatus⟩, href⟩
  constructor
  · intro hadmitted reference href
    obtain ⟨item, hmem, hname, hstatus⟩ := (hitem reference).mp (hadmitted reference href)
    refine ⟨item, hmem, hname, hstatus, authority, hauthority, rfl, ?_⟩
    have hclass := (hcited reference (List.mem_append_right _ href)).2
    rw [withinAuthority, Option.any_eq_true] at hclass
    obtain ⟨found, hfound, hclass⟩ := hclass
    -- the item that was found is the accepted one
    have hfoundRef := List.find?_some hfound
    have hsame : found = item := List.inj_on_of_nodup_map hunique
      (List.mem_of_find?_eq_some hfound) hmem ((eq_of_beq hfoundRef).trans hname.symm)
    simpa [hsame] using hclass
  · intro hclosed reference href
    obtain ⟨item, hmem, hname, hstatus, -⟩ := hclosed reference href
    exact (hitem reference).mpr ⟨item, hmem, hname, hstatus⟩

end closing

/-! ### The order of the outputs -/

section order

variable {profile : FinanceReviewProfile} {manifest : FinanceClaimManifest}
  {admitted : List String} {r1 r2 r1' r2' outputs outputs' : List SchoolLaneOutput}
  {folded : List FoldedSchoolDecision}

/-- One entry for each claim and school, in their order. -/
theorem conservativeFold_entries
    (h : conservativeFold profile manifest r1 r2 admitted = .ok folded) :
    List.Forall₂ (fun (pair : FinanceClaim × SchoolId) entry =>
        foldDecision profile admitted r1 r2 pair.1 pair.2 = .ok entry)
      (manifest.claims.flatMap fun claim => schools.map fun school => (claim, school)) folded := by
  simp only [conservativeFold, bind_ok, exists_unit, context_ok] at h
  obtain ⟨-, -, -, -, hfold⟩ := h
  exact forall₂_of_mapM hfold

end order

/-! ### What the review has checked -/

section review

variable {P : Platform} {tree : FileTree Bytes} {review : FinanceReview}

/-- What is known of a review that was carried through. -/
structure Reviewed (inputs : FinanceInputs) (r1 r2 : List SchoolLaneOutput)
    (folded : List FoldedSchoolDecision) : Prop where
  claims : (inputs.claims.claims.map (·.claimId)).Nodup
  evidence : (inputs.evidence.items.map (·.evidenceRef)).Nodup
  valid1 : validateLaneClaimsAndEvidence inputs.profile inputs.claims inputs.evidence r1 = .ok ()
  valid2 : validateLaneClaimsAndEvidence inputs.profile inputs.claims inputs.evidence r2 = .ok ()
  fold : conservativeFold inputs.profile inputs.claims r1 r2 (admittedEvidence inputs.evidence)
    = .ok folded

/-- A decision is one that its school's output has been checked for. -/
theorem valid_of_decisionOf {profile : FinanceReviewProfile} {manifest : FinanceClaimManifest}
    {evidence : FinanceEvidenceIndex} {outputs : List SchoolLaneOutput} {school : SchoolId}
    {claimId : String} {decision : SchoolClaimDecision}
    (hvalid : validateLaneClaimsAndEvidence profile manifest evidence outputs = .ok ())
    (h : decisionOf outputs school claimId = some decision) :
    ∃ authority ∈ profile.schools, authority.schoolId = school ∧
      validateDecision profile evidence authority decision = .ok () := by
  obtain ⟨output, houtput, hdecision⟩ := Option.bind_eq_some_iff.mp h
  have hschool := List.find?_some houtput
  have hlane := forM_ok.mp hvalid output (List.mem_of_find?_eq_some houtput)
  simp only [validateLaneOutput, bind_ok, exists_unit, context_ok, forM_ok] at hlane
  obtain ⟨authority, hauthority, -, -, -, hdecisions, -⟩ := hlane
  have hsame := List.find?_some hauthority
  exact ⟨authority, List.mem_of_find?_eq_some hauthority,
    (eq_of_beq hsame).trans (eq_of_beq hschool),
    hdecisions decision (List.mem_of_find?_eq_some hdecision)⟩

variable {inputs : FinanceInputs} {r1 r2 : List SchoolLaneOutput}
  {folded : List FoldedSchoolDecision}

/-- What the fold lets pass of one decision. -/
theorem clearOrClosed_iff {outputs : List SchoolLaneOutput} {claim : FinanceClaim}
    {school : SchoolId} {decision : SchoolClaimDecision}
    (hunique : (inputs.evidence.items.map (·.evidenceRef)).Nodup)
    (hvalid : validateLaneClaimsAndEvidence inputs.profile inputs.claims inputs.evidence outputs
      = .ok ())
    (h : decisionOf outputs school claim.claimId = some decision) :
    decision.disposition = .clear ∨
        canClose inputs.profile (admittedEvidence inputs.evidence) decision = true ↔
      ClearOrClosed inputs outputs school claim := by
  obtain ⟨authority, hauthority, rfl, hdecision⟩ := valid_of_decisionOf hvalid h
  rw [canClose_iff hunique hauthority hdecision, ClearOrClosed]
  constructor
  · exact fun hclear => ⟨decision, h, hclear⟩
  · rintro ⟨decision', h', hclear⟩
    obtain rfl := Option.some.inj (h'.symm.trans h)
    exact hclear

theorem Reviewed.decisions (h : Reviewed inputs r1 r2 folded) :
    (∀ entry ∈ folded, postureReasonOf entry = none) ↔
      ∀ claim ∈ inputs.claims.claims, ∀ school rule,
        claim.schoolApplicability school = some rule → rule.effective = true →
          ClearOrClosed inputs r1 school claim ∧ ClearOrClosed inputs r2 school claim := by
  obtain ⟨hleft, hright⟩ := exists_of_forall₂ (conservativeFold_entries h.fold)
  have hentry : ∀ {claim : FinanceClaim} {school : SchoolId} {entry : FoldedSchoolDecision},
      foldDecision inputs.profile (admittedEvidence inputs.evidence) r1 r2 claim school
        = .ok entry →
      ∃ rule, claim.schoolApplicability school = some rule ∧
        (postureReasonOf entry = none ↔ (rule.effective = true →
          ClearOrClosed inputs r1 school claim ∧ ClearOrClosed inputs r2 school claim)) := by
    intro claim school entry hfold
    obtain ⟨rule, first, second, hrule, hfirst, hsecond, hiff⟩ := foldDecision_clear hfold
    rw [clearOrClosed_iff h.evidence h.valid1 hfirst,
      clearOrClosed_iff h.evidence h.valid2 hsecond] at hiff
    exact ⟨rule, hrule, hiff⟩
  constructor
  · intro hall claim hclaim school rule hrule
    -- each claim is folded with each school
    have hpair : (claim, school) ∈ inputs.claims.claims.flatMap fun claim =>
        schools.map fun school => (claim, school) :=
      List.mem_flatMap.mpr ⟨claim, hclaim, List.mem_map_of_mem (mem_schools school)⟩
    obtain ⟨entry, hmem, hfold⟩ := hleft _ hpair
    obtain ⟨rule', hrule', hiff⟩ := hentry hfold
    obtain rfl := Option.some.inj (hrule'.symm.trans hrule)
    exact hiff.mp (hall entry hmem)
  · intro hall entry hmem
    obtain ⟨⟨claim, school⟩, hpair, hfold⟩ := hright entry hmem
    obtain ⟨rule, hrule, hiff⟩ := hentry hfold
    obtain ⟨claim', hclaim, hschool⟩ := List.mem_flatMap.mp hpair
    obtain ⟨school', -, heq⟩ := List.mem_map.mp hschool
    obtain ⟨rfl, rfl⟩ := Prod.mk.inj heq
    exact hiff.mpr (hall claim' hclaim school' rule hrule)

end review

/-! ### The arbiters -/

section arbiters

variable {P : Platform} {tree tree' : FileTree Bytes}

end arbiters

end Quinte.Finance
