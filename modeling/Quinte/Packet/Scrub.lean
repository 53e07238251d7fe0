import Mathlib
import Quinte.Framework.Substitution
import Quinte.Merge.Contestation
import Quinte.Model.Policy
import Quinte.Model.RunDir

/-! # The R2 packet

    `build_r2_packet`: the contested R1 outputs under rotated labels, with the
    identity tokens of the policy scrubbed from every string.  The scrubber
    walks the JSON text of a lane output, so it also meets ids, references and
    the spellings of the enumerations, and what it leaves is read back as a
    lane output.
-/

namespace Quinte

open Substitution

/-! ### Identity tokens -/

def Policy.routes (policy : Policy) : List RoutePolicy :=
  policy.roster ++ [policy.counterpartArbiter, policy.primaryArbiter]

/-- `r2_identity_replacements`. -/
def r2IdentityReplacements (policy : Policy) : List (String × String) :=
  let tokens := policy.routes.flatMap fun route =>
    [(route.routeId, "[route]"), (route.partyId, "[party]")]
      ++ if route.perspective = "" then [] else [(route.perspective, "[perspective]")]
  (tokens ++ [(policy.seat.textModel, "[model]"), (policy.seat.multimodalModel, "[model]")]).filter
    fun token => 3 ≤ token.1.length

def isAscii (s : String) : Bool :=
  s.toList.all fun c => c.toNat < 128

/-- What `replace_identity_token` does, as a rule: ASCII tokens are searched
    for in the text in ASCII lower case, others as they are. -/
def tokenRule (token replacement : String) : Rule Char where
  fold := if isAscii token then Char.toLower else id
  pattern := token.toList
  marker := replacement.toList

/-- `replace_identity_token`. -/
def replaceIdentityToken (text token replacement : String) : String :=
  String.ofList ((tokenRule token replacement).replace text.toList)

/-- `scrub_identity_markers` on a string. -/
def scrubText (tokens : List (String × String)) (text : String) : String :=
  tokens.foldl (fun scrubbed token => replaceIdentityToken scrubbed token.1 token.2) text

/-! ### The spellings of the enumerations -/

def Severity.spelling : Severity → String
  | .low => "LOW"
  | .medium => "MEDIUM"
  | .high => "HIGH"
  | .critical => "CRITICAL"
  | .p0 => "P0"

def Disposition.spelling : Disposition → String
  | .verified => "verified"
  | .falsified => "falsified"
  | .unresolved => "unresolved"
  | .escalated => "escalated"
  | .discarded => "discarded"

def ClosureState.spelling : ClosureState → String
  | .open => "open"
  | .closed => "closed"
  | .blocked => "blocked"
  | .waived => "waived"
  | .notApplicable => "not_applicable"

/-- The value of an enumeration that is spelt so. -/
def spelt {α : Type} (values : List α) (spelling : α → String) (text : String) : Option α :=
  values.find? fun value => spelling value == text

def severityOf : String → Option Severity :=
  spelt [.low, .medium, .high, .critical, .p0] Severity.spelling

def dispositionOf : String → Option Disposition :=
  spelt [.verified, .falsified, .unresolved, .escalated, .discarded] Disposition.spelling

def closureStateOf : String → Option ClosureState :=
  spelt [.open, .closed, .blocked, .waived, .notApplicable] ClosureState.spelling

theorem spelling_of_spelt {α : Type} {values : List α} {spelling : α → String} {text : String}
    {value : α} (h : spelt values spelling text = some value) : spelling value = text := by
  simpa using List.find?_some h

@[simp] theorem severityOf_spelling (s : Severity) : severityOf s.spelling = some s := by
  cases s <;> decide

@[simp] theorem dispositionOf_spelling (d : Disposition) : dispositionOf d.spelling = some d := by
  cases d <;> decide

@[simp] theorem closureStateOf_spelling (c : ClosureState) :
    closureStateOf c.spelling = some c := by
  cases c <;> decide

/-! ### Lane outputs -/

/-- `scrub_lane_output` on a claim. -/
def scrubClaim (tokens : List (String × String)) (claim : Claim) : Claim :=
  { claim with
    id := scrubText tokens claim.id
    statement := scrubText tokens claim.statement
    evidenceRefs := claim.evidenceRefs.map (scrubText tokens)
    category := scrubText tokens claim.category
    warrant := claim.warrant.map (scrubText tokens)
    qualifier := claim.qualifier.map (scrubText tokens) }

/-- `scrub_lane_output` on a residual: an enumeration whose spelling is
    rewritten does not parse. -/
def scrubResidual (tokens : List (String × String)) (residual : Residual) : Option Residual := do
  let severity ← severityOf (scrubText tokens residual.severity.spelling)
  let disposition ← dispositionOf (scrubText tokens residual.disposition.spelling)
  let closureState ← closureStateOf (scrubText tokens residual.closureState.spelling)
  return {
    id := scrubText tokens residual.id
    severity := severity
    residualType := scrubText tokens residual.residualType
    source := scrubText tokens residual.source
    finding := scrubText tokens residual.finding
    evidenceRefs := residual.evidenceRefs.map (scrubText tokens)
    disposition := disposition
    requiredClosure := scrubText tokens residual.requiredClosure
    closureState := closureState
    closureEvidence := residual.closureEvidence.map (scrubText tokens)
    scope := scrubText tokens residual.scope }

/-- `scrub_lane_output`. -/
def scrubLaneOutput (output : LaneOutput) (tokens : List (String × String)) :
    Option LaneOutput := do
  let residuals ← output.residuals.mapM (scrubResidual tokens)
  return {
    laneOutputVersion := scrubText tokens output.laneOutputVersion
    taskRestatement := scrubText tokens output.taskRestatement
    verdict := scrubText tokens output.verdict
    confidence := output.confidence
    claims := output.claims.map (scrubClaim tokens)
    residuals := residuals
    uncertainties := output.uncertainties.map (scrubText tokens)
    limitations := output.limitations.map (scrubText tokens) }

/-! ### The packet -/

def participantLabels : List String :=
  ["Participant A", "Participant B", "Participant C", "Participant D", "Participant E"]

/-- `build_r2_packet`; `rotation` is the random one. -/
def buildR2Packet (manifest : RunManifest) (brief : Brief) (r1 : List LaneAccepted)
    (policy : Policy) (rotation : Nat) : Option R2Packet := do
  let labels := participantLabels.rotate rotation
  let contested := r1Contestation r1
  let tokens := r2IdentityReplacements policy
  let chosen := (labels.zip r1.zipIdx).filter fun (_, _, index) => contested.contains index
  let participants ← chosen.mapM fun (label, lane, _) =>
    (scrubLaneOutput lane.output tokens).map fun output => (label, output)
  return {
    packetVersion := "1.0"
    runId := manifest.runId
    question := brief.question
    participants := participants.insertionSort fun a b => a.1 ≤ b.1
    evidenceManifestSha256 := manifest.snapshotSha256 }

/-! ### Scrubbing a text -/

/-- The rules of the tokens. -/
def tokenRules (tokens : List (String × String)) : List (Rule Char) :=
  tokens.map fun token => tokenRule token.1 token.2

theorem scrubText_toList (tokens : List (String × String)) (text : String) :
    (scrubText tokens text).toList = applyAll (tokenRules tokens) text.toList := by
  induction tokens generalizing text with
  | nil => rfl
  | cons token tokens ih =>
    rw [scrubText, List.foldl_cons, ← scrubText, ih, replaceIdentityToken, String.toList_ofList]
    rfl

/-- The text contains the token: up to ASCII case if the token is ASCII. -/
def ContainsToken (token text : String) : Prop :=
  if isAscii token then token.toList.map Char.toLower <:+: text.toList.map Char.toLower
  else token.toList <:+: text.toList

instance (token text : String) : Decidable (ContainsToken token text) :=
  if h : isAscii token then
    decidable_of_iff (token.toList.map Char.toLower <:+: text.toList.map Char.toLower)
      (by rw [ContainsToken, if_pos h])
  else decidable_of_iff (token.toList <:+: text.toList) (by rw [ContainsToken, if_neg h])

theorem containsToken_iff (token replacement text : String) :
    ContainsToken token text ↔ (tokenRule token replacement).Occurs text.toList := by
  unfold ContainsToken Rule.Occurs tokenRule
  cases isAscii token <;> simp

/-! ### The tokens of a policy -/

/-- The strings that identify a participant: every route id, party id,
    perspective and model name of at least three characters. -/
def identityTokens (policy : Policy) : List String :=
  ((policy.routes.flatMap fun route => [route.routeId, route.partyId, route.perspective])
    ++ [policy.seat.textModel, policy.seat.multimodalModel]).filter (3 ≤ ·.length)

/-- The rules that scrub a packet of the policy. -/
def identityRules (policy : Policy) : List (Rule Char) :=
  tokenRules (r2IdentityReplacements policy)

def identityMarkers : List String :=
  ["[route]", "[party]", "[perspective]", "[model]"]

theorem mem_r2IdentityReplacements {policy : Policy} {token : String × String}
    (h : token ∈ r2IdentityReplacements policy) :
    token.1 ∈ identityTokens policy ∧ token.2 ∈ identityMarkers := by
  obtain ⟨h, hlen⟩ := List.mem_filter.mp h
  refine ⟨List.mem_filter.mpr ⟨?_, hlen⟩, ?_⟩
  · grind
  · grind [identityMarkers]

theorem replaced_of_identityToken {policy : Policy} {token : String}
    (h : token ∈ identityTokens policy) :
    ∃ replacement, (token, replacement) ∈ r2IdentityReplacements policy := by
  obtain ⟨hmem, hlen⟩ := List.mem_filter.mp h
  have hpos : token ≠ "" := by
    rintro rfl
    exact absurd hlen (by decide)
  suffices hin : ∃ replacement, (token, replacement) ∈ (policy.routes.flatMap fun route =>
      [(route.routeId, "[route]"), (route.partyId, "[party]")]
        ++ if route.perspective = "" then [] else [(route.perspective, "[perspective]")])
      ++ [(policy.seat.textModel, "[model]"), (policy.seat.multimodalModel, "[model]")] by
    obtain ⟨replacement, hin⟩ := hin
    exact ⟨replacement, List.mem_filter.mpr ⟨hin, hlen⟩⟩
  obtain hroute | hmodel := List.mem_append.mp hmem
  · obtain ⟨route, hr, htoken⟩ := List.mem_flatMap.mp hroute
    simp only [List.mem_cons, List.not_mem_nil, or_false] at htoken
    obtain rfl | rfl | rfl := htoken
    · exact ⟨"[route]", List.mem_append_left _ (List.mem_flatMap.mpr ⟨route, hr, by simp⟩)⟩
    · exact ⟨"[party]", List.mem_append_left _ (List.mem_flatMap.mpr ⟨route, hr, by simp⟩)⟩
    · exact ⟨"[perspective]", List.mem_append_left _
        (List.mem_flatMap.mpr ⟨route, hr, by simp [hpos]⟩)⟩
  · exact ⟨"[model]", List.mem_append_right _ (by simpa using hmodel)⟩

/-- Some rule finds its pattern in the text iff the text contains a token. -/
theorem exists_occurs_iff {policy : Policy} {text : String} :
    (∃ r ∈ identityRules policy, r.Occurs text.toList) ↔
      ∃ token ∈ identityTokens policy, ContainsToken token text := by
  constructor
  · rintro ⟨r, hr, hocc⟩
    obtain ⟨token, htoken, rfl⟩ := List.mem_map.mp hr
    exact ⟨token.1, (mem_r2IdentityReplacements htoken).1, (containsToken_iff _ _ _).mpr hocc⟩
  · rintro ⟨token, htoken, hcontains⟩
    obtain ⟨replacement, hr⟩ := replaced_of_identityToken htoken
    exact ⟨_, List.mem_map.mpr ⟨_, hr, rfl⟩, (containsToken_iff _ replacement _).mp hcontains⟩

theorem identityRules_ne {policy : Policy} : ∀ r ∈ identityRules policy, r.pattern ≠ [] := by
  intro r hr hnil
  obtain ⟨token, htoken, rfl⟩ := List.mem_map.mp hr
  have hlen := (List.mem_filter.mp (mem_r2IdentityReplacements htoken).1).2
  have hempty : token.1 = "" := String.toList_eq_nil_iff.mp hnil
  rw [hempty] at hlen
  exact absurd hlen (by decide)

theorem identityRules_marker {policy : Policy} :
    ∀ r ∈ identityRules policy, r.marker.head? = some '[' ∧ r.marker.getLast? = some ']' := by
  intro r hr
  obtain ⟨token, htoken, rfl⟩ := List.mem_map.mp hr
  have hmarkers : ∀ m ∈ identityMarkers, m.toList.head? = some '[' ∧ m.toList.getLast? = some ']' := by
    decide
  exact hmarkers _ (mem_r2IdentityReplacements htoken).2

/-! ### Texts that the scrubber leaves alone -/

theorem scrubText_of_not_contains {policy : Policy} {text : String}
    (h : ∀ token ∈ identityTokens policy, ¬ ContainsToken token text) :
    scrubText (r2IdentityReplacements policy) text = text := by
  refine String.toList_inj.mp ?_
  rw [scrubText_toList]
  refine applyAll_of_not_occurs identityRules_ne fun r hr hocc => ?_
  obtain ⟨token, htoken, hcontains⟩ := exists_occurs_iff.mp ⟨r, hr, hocc⟩
  exact h token htoken hcontains

/-- A marker shows: without an opening bracket, nothing was replaced. -/
theorem not_contains_of_no_bracket {policy : Policy} {text : String}
    (h : '[' ∉ (scrubText (r2IdentityReplacements policy) text).toList) :
    ∀ token ∈ identityTokens policy, ¬ ContainsToken token text := by
  intro token htoken hcontains
  obtain ⟨r, hr, hocc⟩ := exists_occurs_iff.mpr ⟨token, htoken, hcontains⟩
  rw [scrubText_toList] at h
  refine not_occurs_of_notMem identityRules_ne (fun r hr => ?_) h r hr hocc
  exact List.mem_of_mem_head? (identityRules_marker r hr).1

end Quinte
