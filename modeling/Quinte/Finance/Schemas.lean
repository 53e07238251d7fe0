import Mathlib
import Quinte.Finance.Types
import Quinte.Framework.JsonSchema
import Quinte.Framework.Base64
import Quinte.Model.Policy

/-! # The embedded finance schemas

    What `schema::validate_value` accepts of each finance contract, keyword by
    keyword.  A `format` is not asserted; a number that is not a 64-bit integer
    is no integer.
-/

namespace Quinte.Finance.Schemas

open Json (Schema)
open Json.Schema
open Policy (require)

/-! ### Patterns and definitions -/

def lowerHexDigit (c : Char) : Bool := c.isDigit || ('a' ≤ c && c ≤ 'f')

/-- `^sha256:[a-f0-9]{64}$`, or the same after other words. -/
def sha256Pattern (lead : String) (s : String) : Bool :=
  lead.toList.isPrefixOf s.toList && (s.toList.drop lead.length).length == 64
    && (s.toList.drop lead.length).all lowerHexDigit

def digest : Schema := textWith (sha256Pattern "sha256:")

/-- `MAX_SAFE_JSON_INTEGER`. -/
def maxSafeJsonInteger : Nat := 9007199254740991

def safeNonnegativeInteger : Schema := integer 0 (some maxSafeJsonInteger)
def safePositiveInteger : Schema := integer 1 (some maxSafeJsonInteger)

/-- Texts, each one once. -/
def strings : Schema := both (items nonempty) uniqueItems

def textOrNull : Schema where
  accepts
    | .str _ | .null => true
    | _ => false
  accepts_sorted v _ := by cases v <;> simp [Json.sorted_arr, Json.sorted_obj]

def schoolId : Schema :=
  oneOfTexts ["factor_risk_model", "event_driven", "fundamental_supply_chain",
    "trend_technical_regime", "market_microstructure"]

def disposition : Schema :=
  oneOfTexts ["clear", "contradicted", "insufficient_evidence", "quarantined", "expired",
    "not_applicable"]

def identityProperties : List (String × Schema) :=
  [("contract_family", nonempty), ("schema_id", nonempty), ("revision", nonempty),
    ("exact_sha256", digest), ("semantic_domain", nonempty), ("semantic_sha256", digest)]

def artifactIdentity : Schema := record identityProperties ["schema_id"]

def binding : Schema := record (("artifact_ref", nonempty) :: identityProperties) ["schema_id"]

def checkpoint : Schema :=
  record [("sequence", safeNonnegativeInteger), ("event_sha256", digest)] []

def activeStatus : Schema := oneOfTexts ["r1_running", "r2_running", "merging"]

def terminationFacts : Schema :=
  record [("phase", activeStatus),
    ("code", oneOfTexts ["output_invalid", "integrity_failure", "operator_cancelled"]),
    ("retryable", truth false)] []

/-- What more is asked of the binding of a result. -/
def resultIdentity : Schema :=
  allOf [required ["schema_id"],
    properties [("contract_family", oneOfTexts ["finance-review-result"]),
      ("schema_id", oneOfTexts [financeResultSchemaId]), ("revision", oneOfTexts ["1.0"]),
      ("semantic_domain", oneOfTexts ["quinte.finance-review-result.v1"])]]

/-- "If the status is one of these". -/
def whenStatus (statuses : List String) : Schema := properties [("status", oneOfTexts statuses)]

/-- "If the run ended in this phase". -/
def whenEndedIn (phase : String) : Schema :=
  properties [("status", oneOfTexts ["failed", "cancelled"]),
    ("termination", properties [("phase", oneOfTexts [phase])])]

def terminatedWith (codes : List String) : Schema :=
  both terminationFacts (properties [("code", oneOfTexts codes)])

/-! ### `run-manifest/3.0` -/

/-- At most `most` different bindings. -/
def bindings (most : Nat) : Schema := allOf [items binding, count 0 (some most), uniqueItems]

def exactly (n : Nat) : Schema := count n (some n)

/-- The numbers of packets, outputs and verdicts. -/
def counts (r1Packets r2Packets r1Outputs r2Outputs arbiterOutputs : Nat) :
    List (String × Schema) :=
  [("r1_packets", exactly r1Packets), ("r2_packets", exactly r2Packets),
    ("r1_outputs", exactly r1Outputs), ("r2_outputs", exactly r2Outputs),
    ("arbiter_outputs", exactly arbiterOutputs)]

def runManifest : Schema :=
  allOf [
    record [("manifest_version", oneOfTexts ["3.0"]), ("protocol_version", oneOfTexts ["2.0"]),
      ("run_id", nonempty), ("run_genesis_digest", digest), ("event_checkpoint", checkpoint),
      ("status", oneOfTexts ["preflight", "r1_running", "r2_running", "merging", "completed",
        "degraded", "failed", "cancelled"]),
      ("termination", orNull terminationFacts), ("policy", binding), ("invocation", binding),
      ("r1_packets", bindings 5), ("r2_packets", bindings 5), ("r1_outputs", bindings 5),
      ("r2_outputs", bindings 5), ("arbiter_outputs", bindings 2), ("result", orNull binding)] [],
    ifThen (whenStatus ["preflight"])
      (properties ([("termination", null), ("result", null)] ++ counts 0 0 0 0 0)),
    ifThen (whenStatus ["r1_running"])
      (properties ([("termination", null), ("result", null)] ++ counts 5 0 0 0 0)),
    ifThen (whenStatus ["r2_running"])
      (properties ([("termination", null), ("result", null)] ++ counts 5 5 5 0 0)),
    ifThen (whenStatus ["merging"])
      (properties ([("termination", null), ("result", null)] ++ counts 5 5 5 5 2)),
    ifThen (whenStatus ["completed", "degraded"])
      (properties ([("termination", null), ("result", both binding resultIdentity)]
        ++ counts 5 5 5 5 2)),
    ifThen (whenStatus ["failed"])
      (properties [("termination", terminatedWith ["output_invalid", "integrity_failure"]),
        ("result", null)]),
    ifThen (whenStatus ["cancelled"])
      (properties [("termination", terminatedWith ["operator_cancelled"]), ("result", null)]),
    ifThen (whenEndedIn "r1_running") (properties (counts 5 0 0 0 0)),
    ifThen (whenEndedIn "r2_running") (properties (counts 5 5 5 0 0)),
    ifThen (whenEndedIn "merging") (properties (counts 5 5 5 5 2))]

/-! ### `run-event/2.0` -/

def artifactIdentities : Schema := both (items artifactIdentity) uniqueItems

def createdPayload : Schema :=
  record [("status", oneOfTexts ["r1_running"]),
    ("artifact_bindings", both artifactIdentities (exactly 7))] []

def phaseAdvancedPayload : Schema :=
  both
    (record [("previous_status", activeStatus), ("status", activeStatus),
      ("artifact_bindings", artifactIdentities)] [])
    (oneOf [
      properties [("previous_status", oneOfTexts ["r1_running"]),
        ("status", oneOfTexts ["r2_running"]), ("artifact_bindings", exactly 17)],
      properties [("previous_status", oneOfTexts ["r2_running"]),
        ("status", oneOfTexts ["merging"]), ("artifact_bindings", exactly 24)]])

def terminalizedPayload : Schema :=
  allOf [
    record [("previous_status", activeStatus),
      ("status", oneOfTexts ["completed", "degraded", "failed", "cancelled"]),
      ("artifact_bindings", artifactIdentities), ("result", orNull artifactIdentity),
      ("termination", orNull terminationFacts)] [],
    ifElse (whenStatus ["completed", "degraded"])
      (properties [("artifact_bindings", exactly 25),
        ("result", both artifactIdentity resultIdentity), ("termination", null)])
      (properties [("result", null), ("termination", terminationFacts)]),
    ifThen (whenStatus ["completed", "degraded"])
      (properties [("previous_status", oneOfTexts ["merging"])]),
    ifThen (whenStatus ["failed"])
      (properties [("termination", terminatedWith ["output_invalid", "integrity_failure"])]),
    ifThen (whenStatus ["cancelled"])
      (properties [("termination", terminatedWith ["operator_cancelled"])]),
    ifThen (whenEndedIn "r1_running")
      (properties [("previous_status", oneOfTexts ["r1_running"]),
        ("artifact_bindings", exactly 7)]),
    ifThen (whenEndedIn "r2_running")
      (properties [("previous_status", oneOfTexts ["r2_running"]),
        ("artifact_bindings", exactly 17)]),
    ifThen (whenEndedIn "merging")
      (properties [("previous_status", oneOfTexts ["merging"]),
        ("artifact_bindings", exactly 24)])]

def runEvent : Schema :=
  allOf [
    record [("event_version", oneOfTexts ["2.0"]), ("run_id", nonempty),
      ("run_genesis_digest", digest), ("sequence", safeNonnegativeInteger),
      ("previous_event_sha256", orNull digest),
      ("event_kind", oneOfTexts ["run.created", "run.phase_advanced", "run.terminalized"]),
      ("payload", isObject)] [],
    ifElse (properties [("sequence", number 0)])
      (properties [("previous_event_sha256", null), ("event_kind", oneOfTexts ["run.created"])])
      (properties [("previous_event_sha256", digest)]),
    oneOf [
      properties [("sequence", number 0), ("event_kind", oneOfTexts ["run.created"]),
        ("payload", createdPayload)],
      properties [("sequence", integer 1 none),
        ("event_kind", oneOfTexts ["run.phase_advanced"]), ("payload", phaseAdvancedPayload)],
      properties [("sequence", integer 1 none),
        ("event_kind", oneOfTexts ["run.terminalized"]), ("payload", terminalizedPayload)]]]

/-! ### `pending-transition/2.0` -/

/-- `canonical_base64`. -/
def canonicalBase64 : Schema :=
  textWith fun s => 4 ≤ s.length && Base64.canonical s.toList

def pendingTransition : Schema :=
  both
    (record [("pending_transition_version", oneOfTexts ["2.0"]), ("run_id", nonempty),
      ("run_genesis_digest", digest), ("transition_id", nonempty),
      ("operation", oneOfTexts ["create", "advance", "terminalize"]),
      ("old_manifest_exact_sha256", orNull digest), ("old_event_checkpoint", orNull checkpoint),
      ("event_exact_sha256", digest), ("event_byte_length", safePositiveInteger),
      ("event_bytes_base64", canonicalBase64), ("target_manifest_exact_sha256", digest),
      ("target_manifest_byte_length", safePositiveInteger),
      ("target_manifest_bytes_base64", canonicalBase64),
      ("artifact_bindings", both (items binding) uniqueItems)] [])
    (ifElse (properties [("operation", oneOfTexts ["create"])])
      (properties [("old_manifest_exact_sha256", null), ("old_event_checkpoint", null)])
      (properties [("old_manifest_exact_sha256", digest), ("old_event_checkpoint", checkpoint)]))

/-! ### `policy/3.0` -/

def routeProperties : List (String × Schema) :=
  [("route_id", nonempty), ("family", nonempty), ("provider", nonempty), ("model", nonempty)]

/-- The route of a party to its school. -/
def party (partyId schoolId : String) : Schema :=
  both (record ([("party_id", text), ("school_id", text)] ++ routeProperties) [])
    (properties [("party_id", oneOfTexts [partyId]), ("school_id", oneOfTexts [schoolId])])

def arbiter (role : String) : Schema :=
  both (record (("arbiter_role", text) :: routeProperties) [])
    (properties [("arbiter_role", oneOfTexts [role])])

def policy : Schema :=
  record [("policy_version", oneOfTexts ["3.0"]), ("protocol_version", oneOfTexts ["2.0"]),
    ("profile", binding),
    ("school_bindings", allOf [items anything, exactly 5,
      tuple [party "Party A" "factor_risk_model", party "Party B" "event_driven",
        party "Party C" "fundamental_supply_chain", party "Party D" "trend_technical_regime",
        party "Party E" "market_microstructure"]]),
    ("counterpart_arbiter", arbiter "counterpart_arbiter"),
    ("primary_arbiter", arbiter "primary_arbiter"),
    ("isolation_backend", oneOfTexts ["process_information_flow_v1"]),
    ("same_family_required", truth true)] []

/-! ### `task-packet/2.0` and `r2-packet/2.0` -/

def authority : Schema :=
  record [("party_id", oneOfTexts ["Party A", "Party B", "Party C", "Party D", "Party E"]),
    ("school_id", schoolId), ("accepted_evidence_classes", strings),
    ("forbidden_claim_classes", strings), ("question_codes", strings)] []

def taskPacket : Schema :=
  record [("task_packet_version", oneOfTexts ["2.0"]), ("run_id", nonempty),
    ("phase", oneOfTexts ["R1"]), ("invocation", binding), ("policy", binding),
    ("profile", binding), ("claim_manifest", binding), ("primary", binding),
    ("evidence_index", binding), ("recipient_route_digest", digest), ("authority", authority)] []

def anonymousDecision : Schema :=
  record [("claim_id", nonempty), ("disposition", disposition),
    ("evidence_refs", both (items (textWith (sha256Pattern "evidence:sha256:"))) uniqueItems),
    ("residual_codes", strings)] []

def r2Packet : Schema :=
  record [("packet_version", oneOfTexts ["2.0"]), ("run_id", nonempty),
    ("recipient_authority", authority), ("policy", binding), ("profile", binding),
    ("claim_manifest", binding), ("primary", binding), ("evidence_index", binding),
    ("recipient_route_digest", digest), ("r1_source_set_semantic_sha256", digest),
    ("corpus_semantic_sha256", digest),
    ("corpus", record [
      ("claims", allOf [
        items (allOf [items anything, tuple [nonempty, nonempty], exactly 2]), count 1 none,
        uniqueItems]),
      ("contributions", allOf [
        items (record [
          ("contributor_alias", oneOfTexts ["contributor-1", "contributor-2", "contributor-3",
            "contributor-4", "contributor-5"]),
          ("decisions", allOf [items anonymousDecision, count 1 none, uniqueItems])] []),
        exactly 5, uniqueItems])] [])] []

/-! ### `school-lane-output/1.0` -/

def decision : Schema :=
  record [("claim_id", nonempty), ("disposition", disposition), ("evidence_refs", strings),
    ("alternative_codes", strings), ("confounder_codes", strings), ("falsifier_codes", strings),
    ("invalidation_codes", strings), ("limitation_codes", strings),
    ("missing_evidence_codes", strings), ("closure_rule_code", textOrNull),
    ("closure_evidence_refs", strings)] []

def residual : Schema :=
  record [("residual_code", nonempty), ("affected_claim_ids", strings),
    ("materiality", oneOfTexts ["non_material", "material"]),
    ("closure_state", oneOfTexts ["open", "closed"]), ("closure_rule_code", textOrNull),
    ("closure_evidence_refs", strings)] []

/-- `n` different digests. -/
def digests (n : Nat) : Schema := allOf [items digest, exactly n, uniqueItems]

def reconciliations : Schema := both isObject (values nonempty)

def arbiterVerdict : Schema :=
  record [("finance_arbiter_verdict_version", oneOfTexts ["1.0"]), ("run_id", nonempty),
    ("arbiter_role", oneOfTexts ["counterpart_arbiter", "primary_arbiter"]),
    ("policy_digest", digest), ("invocation_digest", digest), ("profile_digest", digest),
    ("claim_manifest_digest", digest), ("primary_digest", digest),
    ("evidence_index_digest", digest), ("school_output_digests", digests 10),
    ("route_binding_digests", digests 7),
    ("duplicate_residual_groups", items (allOf [items nonempty, count 2 none, uniqueItems])),
    ("identifier_reconciliations", reconciliations), ("scope_reconciliations", reconciliations),
    ("admitted_closure_evidence_refs", strings)] []

/-! ### `finance-review-result/1.0` -/

/-- `schema::validate_value`; which of its parts a value violates is not told. -/
def validateValue (v : Json) (schema : Schema) : Except String Unit :=
  require (schema.accepts v) "schema validation failed"

@[simp] theorem validateValue_ok {v : Json} {schema : Schema} :
    validateValue v schema = .ok () ↔ schema.accepts v = true := Policy.require_ok

end Quinte.Finance.Schemas
