import Mathlib
import Quinte.Finance.Digests
import Quinte.Framework.JsonAccess
import Quinte.Packet.Scrub

/-! # The HIGHBALL carriers

    `highball_carriers.rs`: the route request and the residual trace of a
    result, and the digest that binds the two.  The functions look into any
    value and put defaults where a member is missing.
-/

namespace Quinte.Wire

open Finance (Platform canonicalJson)

/-- `value.get(name).cloned().unwrap_or(default)`. -/
def memberOr (v : Json) (name : String) (default : Json) : Json := (v.get name).getD default

/-- `value.get(name).and_then(Value::as_str)`. -/
def textOf (v : Json) (name : String) : Option String := (v.get name).bind Json.asStr

/-! ### The action binding -/

/-- `ACTION_BINDING_FIELDS`. -/
def actionBindingFields : List String :=
  ["question", "action_boundary", "change_class", "affected_paths"]

/-- `DEFAULT_ACTION_BOUNDARY`. -/
def defaultActionBoundary : String := "none"

/-- `DEFAULT_CHANGE_CLASS`. -/
def defaultChangeClass : String := "claim"

/-- `action_binding_sha256`. The error is that of a panic. -/
def actionBindingSha256 (P : Platform) (routeRequest : Json) : Except String String := do
  let payload := Json.obj (actionBindingFields.map fun field =>
    (field, memberOr routeRequest field .null))
  let bytes ← canonicalJson payload
  return P.sha256 bytes

/-- `intake_action_binding`. -/
def intakeActionBinding (P : Platform) (question : String) (affectedPaths : Json) :
    Except String String :=
  actionBindingSha256 P (.obj [
    ("question", .str question),
    ("action_boundary", .str defaultActionBoundary),
    ("change_class", .str defaultChangeClass),
    ("affected_paths", affectedPaths)])

/-! ### The residuals of a result -/

/-- `str::to_lowercase`, as far as texts in ASCII can tell: two letters outside
    of it become letters of it. -/
def toLowercase (text : String) : List Char :=
  text.toList.flatMap fun c =>
    if c = '\u212a' then ['k'] else if c = '\u0130' then ['i', '\u0307'] else [c.toLower]

/-- `map_required_closure`. -/
def mapRequiredClosure (text : String) : String :=
  let lower := toLowercase text
  let mentions (words : List String) : Bool := words.any fun word => word.toList <:+: lower
  if ["none", "edit", "test", "command", "block", "waiver", "human_review"].contains text then text
  else if mentions ["waiv"] then "waiver"
  else if mentions ["human"] then "human_review"
  else if mentions ["block", "reject", "do not"] then "block"
  else if mentions ["test", "verify", "validate"] then "test"
  else if mentions ["command", "re-run", "rerun"] then "command"
  else if mentions ["edit", "fix", "supply", "provide", "attach", "add "] then "edit"
  else "human_review"

/-- `evidence_string`. -/
def evidenceString (refs : Option Json) : Json :=
  let joined := ((refs.bind Json.asArr).getD []).filterMap Json.asStr
  if joined.isEmpty then .null else .str (", ".intercalate joined)

/-- The closure states that end a residual. -/
def closedStates : List String := ["closed", "waived", "not_applicable"]

/-- `trace_evidence`. -/
def traceEvidence (residual : Json) : Json :=
  let direct := evidenceString (residual.get "evidence_refs")
  if !direct.isNull then direct
  else if (textOf residual "closure_state").any closedStates.contains then
    evidenceString (residual.get "closure_evidence")
  else .null

/-- `map_type`. -/
def mapType (residualType : String) : String :=
  if residualType = "evidence-gap" then "evidence_gap"
  else if residualType = "model-limitation" then "confidence_mismatch"
  else if residualType = "engineering-defect" then "execution_mismatch"
  else if residualType = "methodology-flaw" then "contradiction"
  else if residualType = "contract-ambiguity" || residualType = "compliance-risk" then
    "contradiction"
  else "omission"

/-- `severity_rank`. -/
def severityRank (severity : String) : Nat :=
  if severity = "P0" then 5
  else if severity = "CRITICAL" then 4
  else if severity = "HIGH" then 3
  else if severity = "MEDIUM" then 2
  else if severity = "LOW" then 1
  else 0

/-- `is_high`. -/
def isHigh (severity : String) : Bool := ["HIGH", "CRITICAL", "P0"].contains severity

/-- `is_open_closure`. -/
def isOpenClosure (state : Option String) : Bool := !state.any closedStates.contains

/-- `residuals_of`. -/
def residualsOf (result : Json) : List Json := ((result.get "residuals").bind Json.asArr).getD []

/-- A residual of high risk that is still open. -/
def openHighRisk (residual : Json) : Bool :=
  isHigh ((textOf residual "severity").getD "") && isOpenClosure (textOf residual "closure_state")

/-- `decision`. -/
def decision (result : Json) : String :=
  let residuals := residualsOf result
  if residuals.isEmpty then "pass"
  else if residuals.any openHighRisk then "block"
  else "review"

/-- `Iterator::max_by_key` of the severities: the last of the highest. -/
def maxSeverity (severities : List String) : Option String :=
  severities.foldl (fun best s => match best with
    | none => some s
    | some b => if severityRank b ≤ severityRank s then some s else some b) none

/-! ### The carriers -/

/-- `route_request`. -/
def routeRequest (result : Json) : Json :=
  let residuals := residualsOf result
  let severities := residuals.map fun r => (textOf r "severity").getD "LOW"
  .obj [
    ("question", memberOr result "question" (.str "review verdict")),
    ("action_boundary", .str defaultActionBoundary),
    ("change_class", .str defaultChangeClass),
    ("affected_paths", memberOr result "affected_paths" (.arr [])),
    ("action_scope", memberOr result "action_scope" .null),
    ("executable", .bool false),
    ("risk", .str ((maxSeverity severities).getD "LOW")),
    ("trace_quality_gate", .str (decision result)),
    ("open_high_risk_count", .int (residuals.countP openHighRisk))]

/-- A residual as the trace has it. -/
def traceResidual (r : Json) : Json :=
  .obj [
    ("id", memberOr r "id" .null),
    ("severity", memberOr r "severity" (.str "LOW")),
    ("type", .str (mapType ((textOf r "residual_type").getD "scope-limitation"))),
    ("source", memberOr r "source" .null),
    ("finding", memberOr r "finding" (.str "")),
    ("affected_paths", memberOr r "affected_paths" (.arr [])),
    ("error_signature", memberOr r "error_signature" .null),
    ("evidence", traceEvidence r),
    ("disposition", memberOr r "disposition" (.str "unresolved")),
    ("required_closure", .str (mapRequiredClosure ((textOf r "required_closure").getD "none"))),
    ("closure_state", memberOr r "closure_state" (.str "open")),
    ("closure_evidence", memberOr r "closure_evidence" (.arr [])),
    ("scope", memberOr r "scope" (.str ""))]

/-- `residual_trace`. -/
def residualTrace (P : Platform) (result : Json) : Except String Json := do
  let binding ← actionBindingSha256 P (routeRequest result)
  return .obj [
    ("trace_version", .str "1.1"),
    ("question", memberOr result "question" (.str "review verdict")),
    ("instrument", .str "QUINTE"),
    ("residuals", .arr ((residualsOf result).map traceResidual)),
    ("action_boundary", .str defaultActionBoundary),
    ("highball_decision", .str (decision result)),
    ("action_binding_sha256", .str binding)]

/-! ### Results as values -/

def textArray (items : List String) : Json := .arr (items.map Json.str)

def nullable (text : Option String) : Json := (text.map Json.str).getD .null

/-- A residual in `result.json`. -/
def residualValue (r : Residual) : Json :=
  .obj [
    ("id", .str r.id),
    ("severity", .str r.severity.spelling),
    ("residual_type", .str r.residualType),
    ("source", .str r.source),
    ("finding", .str r.finding),
    ("evidence_refs", textArray r.evidenceRefs),
    ("disposition", .str r.disposition.spelling),
    ("required_closure", .str r.requiredClosure),
    ("closure_state", .str r.closureState.spelling),
    ("closure_evidence", textArray r.closureEvidence),
    ("scope", .str r.scope)]

/-- The members of `result.json` that a carrier reads. -/
def resultValue (r : ResultEnvelope) : Json :=
  .obj [
    ("question", .str r.question),
    ("action_scope", nullable r.actionScope),
    ("affected_paths", textArray r.affectedPaths),
    ("action_binding_sha256", nullable r.actionBindingSha256),
    ("residuals", .arr (r.residuals.map residualValue))]

/-! ### The binding of a result -/

@[simp] theorem floats_textArray (items : List String) : (textArray items).floats = [] := by
  rw [textArray, Json.floats_arr, List.flatMap_eq_nil_iff]
  intro v hv
  obtain ⟨text, -, rfl⟩ := List.mem_map.mp hv
  rfl

/-- The payload of a binding, before its members are sorted. -/
def bindingPayload (question : String) (affectedPaths : List String) : Json :=
  .obj [
    ("question", .str question),
    ("action_boundary", .str defaultActionBoundary),
    ("change_class", .str defaultChangeClass),
    ("affected_paths", textArray affectedPaths)]

theorem intakeActionBinding_eq (P : Platform) (question : String) (affectedPaths : List String) :
    intakeActionBinding P question (textArray affectedPaths)
      = .ok (P.sha256 (Finance.utf8 (Json.write Json.compact 0
          (bindingPayload question affectedPaths).sorted))) := by
  have hfloats : (bindingPayload question affectedPaths).floats = [] := by
    simp [bindingPayload, Json.floats_obj, Json.floats]
  have hpayload : Json.obj (actionBindingFields.map fun field =>
      (field, memberOr (bindingPayload question affectedPaths) field .null))
        = bindingPayload question affectedPaths := rfl
  have hcanonical : canonicalJson (bindingPayload question affectedPaths)
      = .ok (Finance.utf8 (Json.write Json.compact 0
          (bindingPayload question affectedPaths).sorted)) := by
    rw [canonicalJson, hfloats]
    rfl
  show actionBindingSha256 P (bindingPayload question affectedPaths) = _
  rw [actionBindingSha256, hpayload, hcanonical]
  rfl

/-- **The route request of a result** has the binding that its question and its
    paths have at intake. -/
theorem actionBinding_routeRequest (P : Platform) (r : ResultEnvelope) :
    actionBindingSha256 P (routeRequest (resultValue r))
      = intakeActionBinding P r.question (textArray r.affectedPaths) := rfl

theorem exists_residualTrace (P : Platform) (r : ResultEnvelope) :
    ∃ trace, residualTrace P (resultValue r) = .ok trace := by
  rw [residualTrace, actionBinding_routeRequest, intakeActionBinding_eq]
  exact ⟨_, rfl⟩

end Quinte.Wire
