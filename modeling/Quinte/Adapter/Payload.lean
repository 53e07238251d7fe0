import Mathlib
import Quinte.Evidence.References
import Quinte.Framework.JsonEdit
import Quinte.Framework.JsonText
import Quinte.Model.Schema

/-! # Adapter payloads

    How `adapters.rs` reads the payload of a lane or of an arbiter: strict
    UTF-8, JSON with two repairs, near-valid shapes brought into the shape of
    the contract, the schema, and then the typed record.
-/

namespace Quinte

namespace Adapter

open Json (Text Decoder)

/-- What is used of `serde_json`: its reader of texts, the double that a number
    text stands for, and the text a double is printed as. -/
structure SerdeJson where
  fromStr : Text → Option Json
  double : String → ℚ
  print : ℚ → String

/-! ### JSON with repairs -/

/-- `char::is_control`. -/
def isControl (c : Char) : Bool :=
  c.toNat < 32 || (127 ≤ c.toNat && c.toNat < 160)

/-- The escape that `escape_raw_control_chars_in_strings` writes. -/
def controlEscape (c : Char) : Text :=
  if c = '\n' then ['\\', 'n']
  else if c = '\r' then ['\\', 'r']
  else if c = '\t' then ['\\', 't']
  else ['\\', 'u', '0', '0', Nat.digitChar (c.toNat / 16), Nat.digitChar (c.toNat % 16)]

/-- The loop of `escape_raw_control_chars_in_strings`. -/
def escapeScan : Bool → Bool → Text → Text
  | _, _, [] => []
  | inString, true, c :: rest => c :: escapeScan inString false rest
  | inString, false, c :: rest =>
      if c = '\\' ∧ inString = true then c :: escapeScan inString true rest
      else if c = '"' then c :: escapeScan (!inString) false rest
      else if inString = true ∧ isControl c = true then
        controlEscape c ++ escapeScan inString false rest
      else c :: escapeScan inString false rest

/-- `escape_raw_control_chars_in_strings`. -/
def escapeRawControlCharsInStrings (text : Text) : Text :=
  escapeScan false false text

/-- What an identifier starts with. -/
def isIdentifierStart (c : Char) : Bool :=
  c.isAlpha || c == '_' || c == '$'

def isIdentifierPart (c : Char) : Bool :=
  c.isAlphanum || c == '_' || c == '$'

/-- `u8::is_ascii_whitespace`. -/
def isAsciiWhitespace (c : Char) : Bool :=
  c == ' ' || c == '\t' || c == '\n' || c == '\x0c' || c == '\r'

/-- What follows an identifier. -/
def afterIdentifier (rest : Text) : Text :=
  rest.dropWhile isIdentifierPart

theorem length_afterIdentifier (rest : Text) : (afterIdentifier rest).length ≤ rest.length :=
  List.length_dropWhile_le ..

/-- The loop of `has_unquoted_identifier_key`. -/
def keyScan : Bool → Bool → Text → Bool
  | _, _, [] => false
  | true, escaped, c :: rest =>
      if escaped then keyScan true false rest
      else if c = '\\' then keyScan true true rest
      else if c = '"' then keyScan false false rest
      else keyScan true false rest
  | false, _, c :: rest =>
      if c = '"' then keyScan true false rest
      else if isIdentifierStart c then
        if ((afterIdentifier rest).dropWhile isAsciiWhitespace).head? = some ':' then true
        else keyScan false false (afterIdentifier rest)
      else keyScan false false rest
termination_by _ _ text => text.length
decreasing_by
  all_goals simp only [List.length_cons]
  all_goals have := length_afterIdentifier rest
  all_goals omega

/-- The bytes of a text, each `as char`. -/
def bytesAsChars (text : Text) : Text :=
  (text.flatMap String.utf8EncodeChar).map fun b => Char.ofNat b.toNat

/-- `has_unquoted_identifier_key`. -/
def hasUnquotedIdentifierKey (text : Text) : Bool :=
  keyScan false false (bytesAsChars text)

/-- The loop of `quote_unquoted_object_keys`. -/
def quoteScan : Bool → Bool → Text → Text
  | _, _, [] => []
  | true, escaped, c :: rest =>
      c :: if escaped then quoteScan true false rest
        else if c = '\\' then quoteScan true true rest
        else if c = '"' then quoteScan false false rest
        else quoteScan true false rest
  | false, _, c :: rest =>
      if c = '"' then c :: quoteScan true false rest
      else if isIdentifierStart c then
        let after := afterIdentifier rest
        if (after.dropWhile isWhiteSpace).head? = some ':' then
          '"' :: c :: rest.takeWhile isIdentifierPart ++ '"' :: after.takeWhile isWhiteSpace
            ++ ':' :: quoteScan false false (after.dropWhile isWhiteSpace).tail
        else c :: rest.takeWhile isIdentifierPart ++ quoteScan false false after
      else c :: quoteScan false false rest
termination_by _ _ text => text.length
decreasing_by
  all_goals simp only [List.length_cons, List.length_tail]
  all_goals have := length_afterIdentifier rest
  all_goals have := List.length_dropWhile_le isWhiteSpace (afterIdentifier rest)
  all_goals omega

/-- `quote_unquoted_object_keys`. -/
def quoteUnquotedObjectKeys (text : Text) : Text :=
  quoteScan false false text

/-- `str::contains`. -/
def occurs (pattern : String) (text : Text) : Bool :=
  text.tails.any (pattern.toList.isPrefixOf ·)

/-- `looks_like_unquoted_object_keys`. -/
def looksLikeUnquotedObjectKeys (text : Text) : Bool :=
  let trimmed := text.dropWhile isWhiteSpace
  trimmed.head? == some '\x7b'
    && (occurs "arbiter_verdict_version:" trimmed || occurs "lane_output_version:" trimmed
      || hasUnquotedIdentifierKey trimmed)

/-- `repair_candidates`. -/
def repairCandidates (text : Text) : List Text :=
  let escaped := escapeRawControlCharsInStrings text
  (if looksLikeUnquotedObjectKeys text then [quoteUnquotedObjectKeys text] else [])
    ++ if escaped ≠ text then [escaped] else []

/-- `parse_json_value`. -/
def parseJsonValue (serde : SerdeJson) (text : Text) : Except String Json :=
  match serde.fromStr text with
  | some value => .ok value
  | none =>
      match (repairCandidates text).findSome? serde.fromStr with
      | some value => .ok value
      | none => .error "payload is not valid JSON"

/-- The JSON value of a payload. -/
def payloadValue (serde : SerdeJson) (bytes : ByteArray) : Except String Json :=
  match String.fromUTF8? bytes with
  | some text => parseJsonValue serde text.toList
  | none => .error "payload is not strict UTF-8"

/-! ### Shapes -/

/-- A character in an id: what the contract does not allow becomes a dash. -/
def contractChar (c : Char) : Char :=
  if c.isAlphanum || c == '.' || c == '_' || c == '-' then c else '-'

/-- `sanitize_contract_id`. -/
def sanitizeContractId (raw : String) : String :=
  String.ofList ((raw.toList.map contractChar).take 64)

/-- A string that is sanitized. -/
def sanitizeId : Json → Json
  | .str id => .str (sanitizeContractId id)
  | id => id

/-- `normalize_id_field`. -/
def normalizeIdField : Json → Json :=
  Json.editMember "id" sanitizeId

/-- A reference that `normalize_ref_array` retains. -/
def isReference : Json → Bool
  | .str s => s == "" || "snapshot://".toList.isPrefixOf s.toList
      || "attachment://".toList.isPrefixOf s.toList
  | _ => false

/-- A bare string as an array of one. -/
def wrapText : Json → Json
  | .str s => .arr [.str s]
  | v => v

/-- The references of an array that are retained. -/
def retainReferences : Json → Json
  | .arr refs => .arr (refs.filter isReference)
  | v => v

/-- `normalize_ref_array`. -/
def normalizeRefArray (key : String) : Json → Json :=
  Json.editMember key fun refs => retainReferences (wrapText refs)

/-- What `normalize_residual_shapes` does to one residual. -/
def normalizeResidual (residual : Json) : Json :=
  normalizeRefArray "closure_evidence" (normalizeRefArray "evidence_refs"
    (normalizeIdField residual))

/-- `normalize_residual_shapes`. -/
def normalizeResidualShapes : Json → Json :=
  Json.editMember "residuals" (Json.editItems normalizeResidual)

/-- `normalize_verdict_shape`. -/
def normalizeVerdictShape : Json → Json :=
  normalizeResidualShapes

/-- One turn of the first loop over `uncertainties` and `limitations`: a null is
    an empty list, or goes where the list is optional. -/
def wrapTexts (key : String) : Json → Json :=
  Json.edit fun name v =>
    if name = key then
      if v.isNull then if key = "uncertainties" then some (.arr []) else none
      else some (wrapText v)
    else some v

/-- An annotation that was wrapped into an object. -/
def flattenItem (item : Json) : Json :=
  match item with
  | .str s => .str s
  | item =>
      match ((item.get "statement").or (item.get "text")).bind Json.asStr with
      | none => item
      | some text =>
          let id := ((item.get "id").bind Json.asStr).getD ""
          .str (if id = "" then text else id ++ ": " ++ text)

/-- One turn of the second loop over `uncertainties` and `limitations`. -/
def flattenTexts (key : String) : Json → Json :=
  Json.editMember key (Json.editItems flattenItem)

/-- What the first loop over the claims does to one of them. -/
def normalizeClaim (claim : Json) : Json :=
  normalizeRefArray "evidence_refs" (normalizeIdField claim)

/-- What the last loop over the claims does to one of them. -/
def dropClaimNulls (claim : Json) : Json :=
  Json.dropNull "qualifier" (Json.dropNull "warrant" claim)

/-- `normalize_lane_shape`. -/
def normalizeLaneShape (value : Json) : Json :=
  let value := Json.editMember "claims" (Json.editItems normalizeClaim) value
  let value := normalizeResidualShapes value
  let value := wrapTexts "limitations" (wrapTexts "uncertainties" value)
  let value := flattenTexts "limitations" (flattenTexts "uncertainties" value)
  Json.editMember "claims" (Json.editItems dropClaimNulls) value

/-! ### Schemas -/

/-- The double a number stands for. -/
def number (serde : SerdeJson) : Decoder ℚ
  | .int n => some n
  | .float text => some (serde.double text)
  | _ => none

/-- `"type": "number", "minimum": 0, "maximum": 1`. -/
def confidenceSchema (serde : SerdeJson) : Json.Schema where
  accepts v := (number serde v).any fun q => 0 ≤ q && q ≤ 1
  accepts_sorted v _ := by cases v <;> simp [Json.sorted_arr, Json.sorted_obj, number]

/-- `"type": "string"` with its lengths. -/
def textSchema (low high : Nat) : Json.Schema :=
  .textWith (Schema.text low high)

/-- `"type": "array"` with its length and its items. -/
def listSchema (most : Nat) (item : Json.Schema) : Json.Schema :=
  .both (.count 0 (some most)) (.items item)

/-- An array of references. -/
def refsSchema : Json.Schema :=
  listSchema 30 (textSchema 0 1000)

def claimSchema (serde : SerdeJson) : Json.Schema :=
  .record [
    ("id", .textWith Schema.idPattern),
    ("statement", textSchema 1 8000),
    ("evidence_refs", refsSchema),
    ("confidence", confidenceSchema serde),
    ("category", textSchema 1 100),
    ("warrant", textSchema 1 2000),
    ("qualifier", textSchema 1 2000)] ["warrant", "qualifier"]

def severityName : Severity → String
  | .low => "LOW"
  | .medium => "MEDIUM"
  | .high => "HIGH"
  | .critical => "CRITICAL"
  | .p0 => "P0"

def dispositionName : Disposition → String
  | .verified => "verified"
  | .falsified => "falsified"
  | .unresolved => "unresolved"
  | .escalated => "escalated"
  | .discarded => "discarded"

def closureStateName : ClosureState → String
  | .open => "open"
  | .closed => "closed"
  | .blocked => "blocked"
  | .waived => "waived"
  | .notApplicable => "not_applicable"

def residualSchema : Json.Schema :=
  .record [
    ("id", .textWith Schema.idPattern),
    ("severity", .oneOfTexts ["LOW", "MEDIUM", "HIGH", "CRITICAL", "P0"]),
    ("residual_type", textSchema 1 100),
    ("source", textSchema 1 1000),
    ("finding", textSchema 1 8000),
    ("evidence_refs", refsSchema),
    ("disposition", .oneOfTexts ["verified", "falsified", "unresolved", "escalated", "discarded"]),
    ("required_closure", textSchema 1 2000),
    ("closure_state", .oneOfTexts ["open", "closed", "blocked", "waived", "not_applicable"]),
    ("closure_evidence", refsSchema),
    ("scope", textSchema 1 2000)] []

/-- `LANE_OUTPUT_SCHEMA`. -/
def laneOutputSchema (serde : SerdeJson) : Json.Schema :=
  .record [
    ("lane_output_version", .oneOfTexts ["1.0"]),
    ("task_restatement", textSchema 1 4000),
    ("verdict", textSchema 1 20000),
    ("confidence", confidenceSchema serde),
    ("claims", listSchema 100 (claimSchema serde)),
    ("residuals", listSchema 100 residualSchema),
    ("uncertainties", listSchema 100 (textSchema 1 4000)),
    ("limitations", listSchema 100 (textSchema 1 4000))] ["limitations"]

/-- `ARBITER_VERDICT_SCHEMA`. -/
def arbiterVerdictSchema : Json.Schema :=
  .record [
    ("arbiter_verdict_version", .oneOfTexts ["1.0"]),
    ("summary", textSchema 1 20000),
    ("recommendation", textSchema 1 20000),
    ("residuals", listSchema 100 residualSchema)] []

/-! ### Typed records -/

def claimFields : List String :=
  ["id", "statement", "evidence_refs", "confidence", "category", "warrant", "qualifier"]

def decodeClaim (serde : SerdeJson) : Decoder Claim := fun v => do
  let look ← Decoder.fields claimFields v
  return {
    id := ← Decoder.required look "id" Decoder.string
    statement := ← Decoder.required look "statement" Decoder.string
    evidenceRefs := ← Decoder.required look "evidence_refs" (Decoder.list Decoder.string)
    confidence := ← Decoder.required look "confidence" (number serde)
    category := ← Decoder.required look "category" Decoder.string
    warrant := ← Decoder.defaulted look "warrant" (Decoder.option Decoder.string) none
    qualifier := ← Decoder.defaulted look "qualifier" (Decoder.option Decoder.string) none }

/-- What is read of a claim, field by field. -/
structure ClaimRead (serde : SerdeJson) (look : String → Option Json) (c : Claim) : Prop where
  id : Decoder.required look "id" Decoder.string = some c.id
  statement : Decoder.required look "statement" Decoder.string = some c.statement
  evidenceRefs : Decoder.required look "evidence_refs" (Decoder.list Decoder.string)
    = some c.evidenceRefs
  confidence : Decoder.required look "confidence" (number serde) = some c.confidence
  category : Decoder.required look "category" Decoder.string = some c.category
  warrant : Decoder.defaulted look "warrant" (Decoder.option Decoder.string) none = some c.warrant
  qualifier : Decoder.defaulted look "qualifier" (Decoder.option Decoder.string) none
    = some c.qualifier

theorem decodeClaim_iff {serde : SerdeJson} {v : Json} {c : Claim} :
    decodeClaim serde v = some c ↔
      ∃ look, Decoder.fields claimFields v = some look ∧ ClaimRead serde look c := by
  unfold decodeClaim
  constructor
  · intro h
    obtain ⟨look, hlook, h⟩ := Option.bind_eq_some_iff.mp h
    obtain ⟨id, hid, h⟩ := Option.bind_eq_some_iff.mp h
    obtain ⟨statement, hstatement, h⟩ := Option.bind_eq_some_iff.mp h
    obtain ⟨refs, hrefs, h⟩ := Option.bind_eq_some_iff.mp h
    obtain ⟨confidence, hconfidence, h⟩ := Option.bind_eq_some_iff.mp h
    obtain ⟨category, hcategory, h⟩ := Option.bind_eq_some_iff.mp h
    obtain ⟨warrant, hwarrant, h⟩ := Option.bind_eq_some_iff.mp h
    obtain ⟨qualifier, hqualifier, h⟩ := Option.bind_eq_some_iff.mp h
    obtain rfl := Option.some.inj h
    exact ⟨look, hlook, hid, hstatement, hrefs, hconfidence, hcategory, hwarrant, hqualifier⟩
  · intro ⟨look, hlook, h⟩
    simp only [hlook, h.id, h.statement, h.evidenceRefs, h.confidence, h.category, h.warrant,
      h.qualifier, Option.bind_eq_bind, Option.bind_some]
    rfl

def residualFields : List String :=
  ["id", "severity", "residual_type", "source", "finding", "evidence_refs", "disposition",
    "required_closure", "closure_state", "closure_evidence", "scope"]

def decodeResidual : Decoder Residual := fun v => do
  let look ← Decoder.fields residualFields v
  return {
    id := ← Decoder.required look "id" Decoder.string
    severity := ← Decoder.required look "severity"
      (Decoder.variant [.low, .medium, .high, .critical, .p0] severityName)
    residualType := ← Decoder.required look "residual_type" Decoder.string
    source := ← Decoder.required look "source" Decoder.string
    finding := ← Decoder.required look "finding" Decoder.string
    evidenceRefs := ← Decoder.required look "evidence_refs" (Decoder.list Decoder.string)
    disposition := ← Decoder.required look "disposition"
      (Decoder.variant [.verified, .falsified, .unresolved, .escalated, .discarded]
        dispositionName)
    requiredClosure := ← Decoder.required look "required_closure" Decoder.string
    closureState := ← Decoder.required look "closure_state"
      (Decoder.variant [.open, .closed, .blocked, .waived, .notApplicable] closureStateName)
    closureEvidence := ← Decoder.required look "closure_evidence" (Decoder.list Decoder.string)
    scope := ← Decoder.required look "scope" Decoder.string }

/-- What is read of a residual, field by field. -/
structure ResidualRead (look : String → Option Json) (r : Residual) : Prop where
  id : Decoder.required look "id" Decoder.string = some r.id
  severity : Decoder.required look "severity"
    (Decoder.variant [.low, .medium, .high, .critical, .p0] severityName) = some r.severity
  residualType : Decoder.required look "residual_type" Decoder.string = some r.residualType
  source : Decoder.required look "source" Decoder.string = some r.source
  finding : Decoder.required look "finding" Decoder.string = some r.finding
  evidenceRefs : Decoder.required look "evidence_refs" (Decoder.list Decoder.string)
    = some r.evidenceRefs
  disposition : Decoder.required look "disposition"
    (Decoder.variant [.verified, .falsified, .unresolved, .escalated, .discarded]
      dispositionName) = some r.disposition
  requiredClosure : Decoder.required look "required_closure" Decoder.string
    = some r.requiredClosure
  closureState : Decoder.required look "closure_state"
    (Decoder.variant [.open, .closed, .blocked, .waived, .notApplicable] closureStateName)
    = some r.closureState
  closureEvidence : Decoder.required look "closure_evidence" (Decoder.list Decoder.string)
    = some r.closureEvidence
  scope : Decoder.required look "scope" Decoder.string = some r.scope

theorem decodeResidual_iff {v : Json} {r : Residual} :
    decodeResidual v = some r ↔
      ∃ look, Decoder.fields residualFields v = some look ∧ ResidualRead look r := by
  unfold decodeResidual
  constructor
  · intro h
    obtain ⟨look, hlook, h⟩ := Option.bind_eq_some_iff.mp h
    obtain ⟨id, hid, h⟩ := Option.bind_eq_some_iff.mp h
    obtain ⟨severity, hseverity, h⟩ := Option.bind_eq_some_iff.mp h
    obtain ⟨type, htype, h⟩ := Option.bind_eq_some_iff.mp h
    obtain ⟨source, hsource, h⟩ := Option.bind_eq_some_iff.mp h
    obtain ⟨finding, hfinding, h⟩ := Option.bind_eq_some_iff.mp h
    obtain ⟨refs, hrefs, h⟩ := Option.bind_eq_some_iff.mp h
    obtain ⟨disposition, hdisposition, h⟩ := Option.bind_eq_some_iff.mp h
    obtain ⟨closure, hclosure, h⟩ := Option.bind_eq_some_iff.mp h
    obtain ⟨state, hstate, h⟩ := Option.bind_eq_some_iff.mp h
    obtain ⟨evidence, hevidence, h⟩ := Option.bind_eq_some_iff.mp h
    obtain ⟨scope, hscope, h⟩ := Option.bind_eq_some_iff.mp h
    obtain rfl := Option.some.inj h
    exact ⟨look, hlook, hid, hseverity, htype, hsource, hfinding, hrefs, hdisposition, hclosure,
      hstate, hevidence, hscope⟩
  · intro ⟨look, hlook, h⟩
    refine Option.bind_eq_some_iff.mpr ⟨look, hlook, ?_⟩
    refine Option.bind_eq_some_iff.mpr ⟨_, h.id, ?_⟩
    refine Option.bind_eq_some_iff.mpr ⟨_, h.severity, ?_⟩
    refine Option.bind_eq_some_iff.mpr ⟨_, h.residualType, ?_⟩
    refine Option.bind_eq_some_iff.mpr ⟨_, h.source, ?_⟩
    refine Option.bind_eq_some_iff.mpr ⟨_, h.finding, ?_⟩
    refine Option.bind_eq_some_iff.mpr ⟨_, h.evidenceRefs, ?_⟩
    refine Option.bind_eq_some_iff.mpr ⟨_, h.disposition, ?_⟩
    refine Option.bind_eq_some_iff.mpr ⟨_, h.requiredClosure, ?_⟩
    refine Option.bind_eq_some_iff.mpr ⟨_, h.closureState, ?_⟩
    refine Option.bind_eq_some_iff.mpr ⟨_, h.closureEvidence, ?_⟩
    refine Option.bind_eq_some_iff.mpr ⟨_, h.scope, ?_⟩
    rfl

def laneOutputFields : List String :=
  ["lane_output_version", "task_restatement", "verdict", "confidence", "claims", "residuals",
    "uncertainties", "limitations"]

def decodeLaneOutput (serde : SerdeJson) : Decoder LaneOutput := fun v => do
  let look ← Decoder.fields laneOutputFields v
  return {
    laneOutputVersion := ← Decoder.required look "lane_output_version" Decoder.string
    taskRestatement := ← Decoder.required look "task_restatement" Decoder.string
    verdict := ← Decoder.required look "verdict" Decoder.string
    confidence := ← Decoder.required look "confidence" (number serde)
    claims := ← Decoder.required look "claims" (Decoder.list (decodeClaim serde))
    residuals := ← Decoder.required look "residuals" (Decoder.list decodeResidual)
    uncertainties := ← Decoder.required look "uncertainties" (Decoder.list Decoder.string)
    limitations := ← Decoder.defaulted look "limitations" (Decoder.list Decoder.string) [] }

/-- What is read of a lane output, field by field. -/
structure LaneOutputRead (serde : SerdeJson) (look : String → Option Json) (o : LaneOutput) :
    Prop where
  laneOutputVersion : Decoder.required look "lane_output_version" Decoder.string
    = some o.laneOutputVersion
  taskRestatement : Decoder.required look "task_restatement" Decoder.string
    = some o.taskRestatement
  verdict : Decoder.required look "verdict" Decoder.string = some o.verdict
  confidence : Decoder.required look "confidence" (number serde) = some o.confidence
  claims : Decoder.required look "claims" (Decoder.list (decodeClaim serde)) = some o.claims
  residuals : Decoder.required look "residuals" (Decoder.list decodeResidual) = some o.residuals
  uncertainties : Decoder.required look "uncertainties" (Decoder.list Decoder.string)
    = some o.uncertainties
  limitations : Decoder.defaulted look "limitations" (Decoder.list Decoder.string) []
    = some o.limitations

theorem decodeLaneOutput_iff {serde : SerdeJson} {v : Json} {o : LaneOutput} :
    decodeLaneOutput serde v = some o ↔
      ∃ look, Decoder.fields laneOutputFields v = some look ∧ LaneOutputRead serde look o := by
  unfold decodeLaneOutput
  constructor
  · intro h
    obtain ⟨look, hlook, h⟩ := Option.bind_eq_some_iff.mp h
    obtain ⟨version, hversion, h⟩ := Option.bind_eq_some_iff.mp h
    obtain ⟨task, htask, h⟩ := Option.bind_eq_some_iff.mp h
    obtain ⟨verdict, hverdict, h⟩ := Option.bind_eq_some_iff.mp h
    obtain ⟨confidence, hconfidence, h⟩ := Option.bind_eq_some_iff.mp h
    obtain ⟨claims, hclaims, h⟩ := Option.bind_eq_some_iff.mp h
    obtain ⟨residuals, hresiduals, h⟩ := Option.bind_eq_some_iff.mp h
    obtain ⟨uncertainties, huncertainties, h⟩ := Option.bind_eq_some_iff.mp h
    obtain ⟨limitations, hlimitations, h⟩ := Option.bind_eq_some_iff.mp h
    obtain rfl := Option.some.inj h
    exact ⟨look, hlook, hversion, htask, hverdict, hconfidence, hclaims, hresiduals,
      huncertainties, hlimitations⟩
  · intro ⟨look, hlook, h⟩
    simp only [hlook, h.laneOutputVersion, h.taskRestatement, h.verdict, h.confidence, h.claims,
      h.residuals, h.uncertainties, h.limitations, Option.bind_eq_bind, Option.bind_some]
    rfl

def arbiterVerdictFields : List String :=
  ["arbiter_verdict_version", "summary", "recommendation", "residuals"]

def decodeArbiterVerdict : Decoder ArbiterVerdict := fun v => do
  let look ← Decoder.fields arbiterVerdictFields v
  return {
    arbiterVerdictVersion := ← Decoder.required look "arbiter_verdict_version" Decoder.string
    summary := ← Decoder.required look "summary" Decoder.string
    recommendation := ← Decoder.required look "recommendation" Decoder.string
    residuals := ← Decoder.required look "residuals" (Decoder.list decodeResidual) }

/-- What is read of a verdict, field by field. -/
structure ArbiterVerdictRead (look : String → Option Json) (verdict : ArbiterVerdict) :
    Prop where
  arbiterVerdictVersion : Decoder.required look "arbiter_verdict_version" Decoder.string
    = some verdict.arbiterVerdictVersion
  summary : Decoder.required look "summary" Decoder.string = some verdict.summary
  recommendation : Decoder.required look "recommendation" Decoder.string
    = some verdict.recommendation
  residuals : Decoder.required look "residuals" (Decoder.list decodeResidual)
    = some verdict.residuals

theorem decodeArbiterVerdict_iff {v : Json} {verdict : ArbiterVerdict} :
    decodeArbiterVerdict v = some verdict ↔
      ∃ look, Decoder.fields arbiterVerdictFields v = some look ∧
        ArbiterVerdictRead look verdict := by
  unfold decodeArbiterVerdict
  constructor
  · intro h
    obtain ⟨look, hlook, h⟩ := Option.bind_eq_some_iff.mp h
    obtain ⟨version, hversion, h⟩ := Option.bind_eq_some_iff.mp h
    obtain ⟨summary, hsummary, h⟩ := Option.bind_eq_some_iff.mp h
    obtain ⟨recommendation, hrecommendation, h⟩ := Option.bind_eq_some_iff.mp h
    obtain ⟨residuals, hresiduals, h⟩ := Option.bind_eq_some_iff.mp h
    obtain rfl := Option.some.inj h
    exact ⟨look, hlook, hversion, hsummary, hrecommendation, hresiduals⟩
  · intro ⟨look, hlook, h⟩
    simp only [hlook, h.arbiterVerdictVersion, h.summary, h.recommendation, h.residuals,
      Option.bind_eq_bind, Option.bind_some]
    rfl

/-! ### Parsing -/

/-- A value that has been brought into shape, against its schema and then into
    its record. -/
def readShape {α : Type} (schema : Json.Schema) (dec : Decoder α) (value : Json) :
    Except String α :=
  if schema.accepts value then
    match dec value with
    | some a => .ok a
    | none => .error "payload does not match typed contract"
  else .error "payload does not match its schema"

/-- `parse_lane_output`. -/
def parseLaneOutput (serde : SerdeJson) (bytes : ByteArray) : Except String LaneOutput := do
  let value ← payloadValue serde bytes
  readShape (laneOutputSchema serde) (decodeLaneOutput serde) (normalizeLaneShape value)

/-- `parse_arbiter_verdict`. -/
def parseArbiterVerdict (serde : SerdeJson) (bytes : ByteArray) :
    Except String ArbiterVerdict := do
  let value ← payloadValue serde bytes
  readShape arbiterVerdictSchema decodeArbiterVerdict (normalizeVerdictShape value)

theorem readShape_ok {α : Type} {schema : Json.Schema} {dec : Decoder α} {value : Json} {a : α} :
    readShape schema dec value = .ok a ↔ schema.accepts value = true ∧ dec value = some a := by
  unfold readShape
  split
  case isTrue haccepted =>
    cases dec value <;> simp [haccepted]
  case isFalse haccepted =>
    simp [haccepted]

end Adapter

end Quinte
