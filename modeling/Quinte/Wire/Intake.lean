import Mathlib
import Quinte.Finance.Schemas
import Quinte.Wire.Carriers

/-! # The intake of briefs

    `create_from_brief_bytes`, as far as it reads the document: the schema of
    its revision, the typed brief, the binding that a brief without one gets,
    and the digest that the manifest keeps.  What comes after reads the brief
    and changes nothing of it; it is a parameter.

    * `createFromBriefBytes_ok`: which documents are taken, and what becomes
      of them.
-/

namespace Quinte.Wire

open Json (Schema)
open Json.Schema
open Finance (Bytes Platform asBytes utf8 fromUtf8)
open Policy (require require_ok bind_ok bind_unit_ok)

/-! ### The contract -/

def legacyBriefVersion : String := "1.0"

/-- `BRIEF_VERSION`. -/
def briefVersion : String := "1.1"

/-- `"minLength"` and `"maxLength"`, in characters. -/
def textBetween (low high : Nat) : Schema :=
  textWith fun s => low ≤ s.length && s.length ≤ high

/-- `"type": "array"` of texts, with `"maxItems"`. -/
def textsUpTo (s : Schema) (high : Nat) : Schema := both (items s) (count 0 (some high))

/-- `^[^/\\](?:[^\\]*[^/\\])?$`. -/
def relativePattern (s : String) : Bool :=
  s != "" && s.toList.all (· != '\\') && s.toList.head? != some '/'
    && s.toList.getLast? != some '/'

def snapshotIgnoreItem : Schema := both (textBetween 1 1000) (textWith relativePattern)

/-- The members that both revisions have. -/
def briefProperties (version : String) : List (String × Schema) :=
  [("brief_version", oneOfTexts [version]), ("question", textBetween 1 20000),
    ("context", orNull (textBetween 0 100000)), ("evidence_roots", textsUpTo nonempty 20),
    ("snapshot_ignore", both (textsUpTo snapshotIgnoreItem 100) uniqueItems),
    ("attachments", textsUpTo nonempty 10), ("action_scope", orNull (textBetween 0 2000))]

/-- `brief-1.0.schema.json`. -/
def legacyBriefSchema : Schema :=
  record (briefProperties legacyBriefVersion)
    ["context", "evidence_roots", "snapshot_ignore", "attachments", "action_scope"]

/-- `brief.schema.json`. -/
def briefSchema : Schema :=
  record (briefProperties briefVersion
      ++ [("affected_paths", both (textsUpTo (textBetween 1 4000) 1000) uniqueItems),
        ("action_binding_sha256", orNull Finance.Schemas.digest)])
    ["context", "evidence_roots", "snapshot_ignore", "attachments", "action_scope",
      "affected_paths", "action_binding_sha256"]

/-- `validate_versioned_value` under the contract of briefs. -/
def validateBriefValue (v : Json) : Except String Unit :=
  match (v.get "brief_version").bind Json.asStr with
  | none => .error "brief payload has no string brief_version"
  | some version =>
      if version = legacyBriefVersion then
        require (legacyBriefSchema.accepts v) "schema validation failed"
      else if version = briefVersion then
        require (briefSchema.accepts v) "schema validation failed"
      else .error ("unsupported brief contract revision in brief_version: " ++ version)

/-! ### The typed brief -/

/-- The names of a `Brief`, in the order of the declaration. -/
def briefFields : List String :=
  ["brief_version", "question", "context", "evidence_roots", "snapshot_ignore", "attachments",
    "action_scope", "affected_paths", "action_binding_sha256"]

/-- A member that is a text. -/
def requiredText (v : Json) (name : String) : Option String := (v.get name).bind Json.asStr

/-- A member that is a text or null, and is null where it is missing. -/
def optionalText (v : Json) (name : String) : Option (Option String) :=
  match v.get name with
  | none | some .null => some none
  | some w => w.asStr.map some

/-- A member that is an array of texts, and is empty where it is missing. -/
def defaultTexts (v : Json) (name : String) : Option (List String) :=
  match v.get name with
  | none => some []
  | some w => w.asArr.bind (·.mapM Json.asStr)

/-- `serde_json::from_value::<Brief>`, which denies unknown members. -/
def briefFromValue (v : Json) : Option Brief :=
  if (closed briefFields).accepts v then do
    return {
      briefVersion := ← requiredText v "brief_version"
      question := ← requiredText v "question"
      context := ← optionalText v "context"
      evidenceRoots := ← defaultTexts v "evidence_roots"
      snapshotIgnore := ← defaultTexts v "snapshot_ignore"
      attachments := ← defaultTexts v "attachments"
      actionScope := ← optionalText v "action_scope"
      affectedPaths := ← defaultTexts v "affected_paths"
      actionBindingSha256 := ← optionalText v "action_binding_sha256" }
  else none

/-- The value of a brief. -/
def briefValue (b : Brief) : Json :=
  .obj [
    ("brief_version", .str b.briefVersion),
    ("question", .str b.question),
    ("context", nullable b.context),
    ("evidence_roots", textArray b.evidenceRoots),
    ("snapshot_ignore", textArray b.snapshotIgnore),
    ("attachments", textArray b.attachments),
    ("action_scope", nullable b.actionScope),
    ("affected_paths", textArray b.affectedPaths),
    ("action_binding_sha256", nullable b.actionBindingSha256)]

/-- `serde_json::to_vec` of a brief. -/
def briefBytes (b : Brief) : Bytes := utf8 (Json.write Json.compact 0 (briefValue b))

/-! ### Intake -/

/-- `parse_versioned` under the contract of briefs, of a document in which no
    object has two members of one name. -/
def parseBrief (P : Platform) (bytes : Bytes) : Except String Brief :=
  match fromUtf8 bytes with
  | none => .error "payload is not strict UTF-8"
  | some text => match P.json.read text with
    | none => .error "payload is not valid JSON"
    | some v => do
        validateBriefValue v
        match briefFromValue v with
        | none => .error "payload does not match typed contract"
        | some brief => return brief

/-- The brief with the binding that it has or gets. -/
def bindBrief (P : Platform) (brief : Brief) : Except String Brief :=
  match brief.actionBindingSha256 with
  | some _ => .ok brief
  | none => do
      let binding ← intakeActionBinding P brief.question (textArray brief.affectedPaths)
      return { brief with actionBindingSha256 := some binding }

/-- The head of `create_from_brief_bytes`: the brief that the run is created with. -/
def intakeBrief (P : Platform) (bytes : Bytes) : Except String Brief := do
  let brief ← parseBrief P bytes
  require (([legacyBriefVersion, briefVersion].contains brief.briefVersion)
    && trim brief.question != "") "brief contract revision is unsupported or question is empty"
  bindBrief P { brief with briefVersion := briefVersion }

/-- `create_from_brief_bytes`, whose remainder is `publish`: the brief it writes,
    and the `brief_sha256` of the manifest. -/
def createFromBriefBytes (P : Platform) (publish : Brief → Except String Unit) (bytes : Bytes) :
    Except String (Brief × String) := do
  let brief ← intakeBrief P bytes
  publish brief
  return (brief, P.sha256 (briefBytes brief))

/-! ### What is taken -/

section taken

variable {P : Platform} {publish : Brief → Except String Unit} {bytes : Bytes} {brief : Brief}
  {digest : String}

theorem parseBrief_ok : parseBrief P bytes = .ok brief ↔
    ∃ text v, fromUtf8 bytes = some text ∧ P.json.read text = some v
      ∧ validateBriefValue v = .ok () ∧ briefFromValue v = some brief := by
  unfold parseBrief
  constructor
  · intro h
    cases htext : fromUtf8 bytes with
    | none =>
      rw [htext] at h
      cases h
    | some text =>
      rw [htext] at h
      dsimp only at h
      cases hv : P.json.read text with
      | none =>
        rw [hv] at h
        cases h
      | some v =>
        rw [hv] at h
        dsimp only at h
        obtain ⟨hvalid, h⟩ := bind_unit_ok.mp h
        cases htyped : briefFromValue v with
        | none =>
          rw [htyped] at h
          cases h
        | some typed =>
          rw [htyped] at h
          cases h
          exact ⟨text, v, rfl, hv, hvalid, htyped⟩
  · intro ⟨text, v, htext, hv, hvalid, htyped⟩
    rw [htext]
    dsimp only
    rw [hv]
    dsimp only
    apply bind_unit_ok.mpr
    refine ⟨hvalid, ?_⟩
    rw [htyped]
    rfl

/-- The binding of a brief, and the one it gets where it has none. -/
theorem bindBrief_eq (P : Platform) (brief : Brief) : ∃ derived,
    intakeActionBinding P brief.question (textArray brief.affectedPaths) = .ok derived
      ∧ bindBrief P brief = .ok { brief with
          actionBindingSha256 := some (brief.actionBindingSha256.getD derived) } := by
  unfold bindBrief
  rw [intakeActionBinding_eq]
  refine ⟨P.sha256 (utf8 (Json.write Json.compact 0
    (bindingPayload brief.question brief.affectedPaths).sorted)), rfl, ?_⟩
  obtain ⟨version, question, context, roots, ignored, attachments, scope, paths,
    binding⟩ := brief
  cases binding with
  | none => rfl
  | some binding => rfl

/-- **A document that is taken** is one brief, and the run is created with it
    under the current version and with a binding. -/
theorem createFromBriefBytes_ok
    (h : createFromBriefBytes P publish bytes = .ok (brief, digest)) :
    ∃ text v typed derived, fromUtf8 bytes = some text ∧ P.json.read text = some v
      ∧ validateBriefValue v = .ok () ∧ briefFromValue v = some typed
      ∧ intakeActionBinding P typed.question (textArray typed.affectedPaths) = .ok derived
      ∧ brief = { typed with
          briefVersion := briefVersion
          actionBindingSha256 := some (typed.actionBindingSha256.getD derived) }
      ∧ digest = P.sha256 (briefBytes brief) := by
  obtain ⟨taken, htaken, h⟩ := bind_ok.mp h
  obtain ⟨-, h⟩ := bind_unit_ok.mp h
  cases h
  obtain ⟨typed, hparse, htaken⟩ := bind_ok.mp htaken
  obtain ⟨-, hbind⟩ := bind_unit_ok.mp htaken
  obtain ⟨text, v, htext, hv, hvalid, htyped⟩ := parseBrief_ok.mp hparse
  obtain ⟨derived, hintake, hderived⟩ := bindBrief_eq P { typed with briefVersion := briefVersion }
  rw [hderived] at hbind
  cases hbind
  exact ⟨text, v, typed, derived, htext, hv, hvalid, htyped, hintake, rfl, rfl⟩

end taken

end Quinte.Wire
