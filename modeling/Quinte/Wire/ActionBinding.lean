import Mathlib
import Quinte.Contest.BriefDigest
import Quinte.Framework.JsonShape
import Quinte.Merge.Conservatism

/-! # One action binding

    A brief comes from a file, or from a message of which `extract_brief` takes
    it.  A binding is derived from the question and the paths at three places
    of the intake, and once more from the route request of the result.  A
    binding that the submitter has written is carried along as it is.

    * `coherent_of_typed`: the binding a run is created with;
    * `coherent_iff_of_file`, `coherent_iff_of_message`: a brief by where it comes from;
    * `coherent_iff_derivable`: when result, trace and request have one.
-/

namespace Quinte.Wire

open Finance (Bytes Platform canonicalJson utf8 fromUtf8 valuePretty)
open Json (get_sorted asStr_sorted mapM_asStr_sorted unique_get unique_set regular_set)
open Json.Schema (Flat flat_textWith flat_orNull flat_both flat_items flat_items_both
  regular_of_record)
open Policy (require require_ok bind_ok bind_unit_ok)
open Contest (getOr requiredText_eq optionalText_eq defaultTexts_eq regular_textArray
  regular_nullable boundBrief regular_briefValue)

section code

variable (P : Platform)

/-! ### Briefs of a message -/

/-- `value.get(name).and_then(Value::as_array)`. -/
def arrayOf (v : Json) (name : String) : List Json := ((v.get name).bind Json.asArr).getD []

/-- The question of a host brief: its title, its objectives, or both. -/
def hostQuestion (value : Json) : String :=
  let title := trim (((textOf value "title").or (textOf value "question")).getD "")
  let objectives := " ".intercalate
    ((((arrayOf value "objectives").filterMap Json.asStr).map trim).filter (· != ""))
  if title != "" && objectives != "" then title ++ ": " ++ objectives
  else if title != "" then title
  else objectives

/-- The scope of a host brief; an empty text is one. -/
def hostScope (value : Json) : Json :=
  match value.get "action_scope" with
  | none | some .null => .str "decision support only"
  | some other => other

/-- `map_host_brief`. The members of a `Value` are in the order of their names. -/
def mapHostBrief (value : Json) : Except String Json := do
  let question := hostQuestion value
  require (question != "") "message carries no closed-schema Brief"
  let context := String.ofList (Json.write Json.compact 0 value.sorted)
  let evidenceRoots := (arrayOf value "evidence_roots").filter fun item => item.asStr.any (· != "")
  let actionBinding ← intakeActionBinding P question (.arr [])
  return .obj [
    ("brief_version", .str briefVersion),
    ("question", .str question),
    ("context", .str context),
    ("evidence_roots", .arr evidenceRoots),
    ("snapshot_ignore", .arr []),
    ("attachments", .arr []),
    ("action_scope", hostScope value),
    ("affected_paths", .arr []),
    ("action_binding_sha256", .str actionBinding)]

/-- The document with the binding that it has or gets. -/
def bindDocument (candidate : Json) : Except String Json :=
  if (memberOr candidate "action_binding_sha256" .null).isNull then do
    let binding ← intakeActionBinding P ((textOf candidate "question").getD "")
      (memberOr candidate "affected_paths" (.arr []))
    return candidate.set "action_binding_sha256" (.str binding)
  else .ok candidate

/-- `project_brief`. An error is the detail of `brief_invalid`. -/
def projectBrief (candidate : Json) : Except String Json := do
  require candidate.isObject "Brief must be a JSON object"
  if (candidate.get "brief_version").isSome then
    require (briefSchema.accepts candidate) "Brief violates the closed schema"
    bindDocument P candidate
  else
    let mapped ← mapHostBrief P candidate
    require (briefSchema.accepts mapped) "projected Brief is not a closed-schema Brief"
    return mapped

/-- A document in a part of a message, and whether it is called `brief.json`. -/
def jsonPart (part : Json) : Option (Json × Bool) :=
  match part.get "data" with
  | none | some .null => none
  | some data =>
      let named := (textOf part "filename").getD "" == "brief.json"
      if named || (textOf part "mediaType").getD "" == "application/json" || data.isObject then
        some (data, named)
      else none

/-- The choice among the documents of a message. -/
def candidateOf (documents : List (Json × Bool)) : Except String Json :=
  match (documents.filter (·.2)).getLast?, documents with
  | some (named, _), _ => .ok named
  | none, [(only, _)] => .ok only
  | none, [] => .error "message carries no closed-schema Brief"
  | none, _ => .error "message carries multiple JSON parts and none is named brief.json"

/-- `extract_brief` up to its call of `project_brief`. -/
def selectBrief (message : Json) : Except String Json :=
  match (message.get "parts").bind Json.asArr with
  | none => .error "message carries no parts"
  | some parts => do
      require (!parts.any fun part => ((part.get "data").bind
          (·.get "finance_review_invocation_version")).isSome)
        "finance invocation cannot enter the generic Brief endpoint"
      candidateOf (parts.filterMap jsonPart)

/-- `extract_brief`. -/
def extractBrief (message : Json) : Except String Json := do
  let candidate ← selectBrief message
  projectBrief P candidate

/-! ### Submissions -/

/-- How a brief comes in. No object of a message has two members of one name. -/
inductive Submission where
  | file (bytes : Bytes)
  | message (value : Json) (unique : value.unique = true)

/-- `write_json`, of a value. -/
def writeJson (v : Json) : Bytes := valuePretty v.sorted ++ [10]

/-- The run of a submission; a message's brief goes through the inbox. -/
def Submission.create (publish : Brief → Except String Unit) :
    Submission → Except String (Brief × String)
  | .file bytes => createFromBriefBytes P publish bytes
  | .message value _ => do
      let brief ← extractBrief P value
      createFromBriefBytes P publish (writeJson brief)

/-- The document that the submitter wrote. -/
def Submission.document : Submission → Option Json
  | .file bytes => (fromUtf8 bytes).bind P.json.read
  | .message value _ => (selectBrief value).toOption

/-! ### The binding of a result -/

/-- The result, its trace and its route request have one binding. -/
def Coherent (result : ResultEnvelope) : Prop :=
  ∃ binding trace, result.actionBindingSha256 = some binding
    ∧ residualTrace P (resultValue result) = .ok trace
    ∧ trace.get "action_binding_sha256" = some (.str binding)
    ∧ actionBindingSha256 P (routeRequest (resultValue result)) = .ok binding

/-- What two results emit is the same. -/
structure SameBinding (a b : ResultEnvelope) : Prop where
  request : actionBindingSha256 P (routeRequest (resultValue a))
    = actionBindingSha256 P (routeRequest (resultValue b))
  trace : (residualTrace P (resultValue a)).map (·.get "action_binding_sha256")
    = (residualTrace P (resultValue b)).map (·.get "action_binding_sha256")
  result : a.actionBindingSha256 = b.actionBindingSha256

/-- The document has no binding of its own, or the one that is derived from its
    question and its paths. A host brief has none. -/
def Derivable (document : Json) : Prop :=
  ∀ binding, (document.get "brief_version").isSome = true →
    textOf document "action_binding_sha256" = some binding →
    ∃ question paths, textOf document "question" = some question
      ∧ defaultTexts document "affected_paths" = some paths
      ∧ intakeActionBinding P question (textArray paths) = .ok binding

/-- The result of a run whose brief was submitted as this document. -/
def Reviewed (document : Json) (result : ResultEnvelope) : Prop :=
  ∃ (publish : Brief → Except String Unit) (submission : Submission) (brief : Brief)
      (digest : String) (manifest : RunManifest) (policy : Policy) (r1 r2 : List LaneAccepted)
      (primary counterpart : ArbiterVerdict),
    submission.document P = some document
      ∧ submission.create P publish = .ok (brief, digest)
      ∧ mergeVerdicts manifest brief policy r1 r2 primary counterpart = some result

end code

/-! ### What a result shows -/

section shown

variable {P : Platform}

/-- A result has its brief's question, paths and binding. -/
theorem mergeVerdicts_brief {manifest : RunManifest} {brief : Brief} {policy : Policy}
    {r1 r2 : List LaneAccepted} {primary counterpart : ArbiterVerdict} {result : ResultEnvelope}
    (h : mergeVerdicts manifest brief policy r1 r2 primary counterpart = some result) :
    result.question = brief.question ∧ result.affectedPaths = brief.affectedPaths
      ∧ result.actionBindingSha256 = brief.actionBindingSha256 := by
  obtain ⟨perspectives, -, h⟩ := Option.bind_eq_some_iff.mp h
  obtain rfl := Option.some.inj h
  exact ⟨rfl, rfl, rfl⟩

theorem residualTrace_eq (P : Platform) (result : ResultEnvelope) {binding : String}
    (h : intakeActionBinding P result.question (textArray result.affectedPaths) = .ok binding) :
    ∃ trace, residualTrace P (resultValue result) = .ok trace
      ∧ trace.get "action_binding_sha256" = some (.str binding) := by
  rw [residualTrace, actionBinding_routeRequest, h]
  exact ⟨_, rfl, rfl⟩

/-- A result is coherent where its binding is the derived one. -/
theorem coherent_iff (P : Platform) (result : ResultEnvelope) :
    Coherent P result ↔ ∃ binding, result.actionBindingSha256 = some binding
      ∧ intakeActionBinding P result.question (textArray result.affectedPaths) = .ok binding := by
  constructor
  · rintro ⟨binding, trace, hresult, -, -, hrequest⟩
    exact ⟨binding, hresult, hrequest⟩
  · rintro ⟨binding, hresult, hintake⟩
    obtain ⟨trace, htrace, hbinding⟩ := residualTrace_eq P result hintake
    exact ⟨binding, trace, hresult, htrace, hbinding, hintake⟩

/-- Two coherent results with one question and the same paths emit one binding. -/
theorem sameBinding_of_coherent {a b : ResultEnvelope} (hquestion : a.question = b.question)
    (hpaths : a.affectedPaths = b.affectedPaths) (ha : Coherent P a) (hb : Coherent P b) :
    SameBinding P a b := by
  obtain ⟨binding, hresult, hintake⟩ := (coherent_iff P a).mp ha
  obtain ⟨binding', hresult', hintake'⟩ := (coherent_iff P b).mp hb
  have hrequest : actionBindingSha256 P (routeRequest (resultValue a))
      = actionBindingSha256 P (routeRequest (resultValue b)) := by
    rw [actionBinding_routeRequest, actionBinding_routeRequest, hquestion, hpaths]
  obtain rfl : binding = binding' := by
    rw [hquestion, hpaths] at hintake
    exact Except.ok.inj (hintake.symm.trans hintake')
  refine ⟨hrequest, ?_, hresult.trans hresult'.symm⟩
  obtain ⟨trace, htrace, hbinding⟩ := residualTrace_eq P a hintake
  obtain ⟨trace', htrace', hbinding'⟩ := residualTrace_eq P b hintake'
  rw [htrace, htrace']
  exact congrArg Except.ok (hbinding.trans hbinding'.symm)

end shown

/-! ### What a document supplies -/

section supplied

variable {P : Platform} {v : Json} {typed : Brief} {derived : String}

theorem textOf_of_optionalText {name : String} {text : Option String}
    (h : optionalText v name = some text) : textOf v name = text := by
  unfold optionalText at h
  unfold textOf
  cases hget : v.get name with
  | none =>
    rw [hget] at h
    exact Option.some.inj h
  | some w =>
    rw [hget] at h
    cases w with
    | null => exact Option.some.inj h
    | str s => exact Option.some.inj h
    | bool b | int n | float text | arr items | obj members => cases h

/-- The fields of a brief that its binding is about. -/
theorem fields_of_brief (h : briefFromValue v = some typed) :
    (v.get "brief_version").isSome = true
      ∧ textOf v "question" = some typed.question
      ∧ defaultTexts v "affected_paths" = some typed.affectedPaths
      ∧ textOf v "action_binding_sha256" = typed.actionBindingSha256 := by
  unfold briefFromValue at h
  rw [Option.ite_none_right_eq_some] at h
  simp only [Option.bind_eq_bind, Option.bind_eq_some_iff, Option.pure_def,
    Option.some.injEq] at h
  obtain ⟨-, version, hversion, question, hquestion, context, -, roots, -, ignored, -,
    attachments, -, scope, -, paths, hpaths, binding, hbinding, rfl⟩ := h
  obtain ⟨w, hget, -⟩ := Option.bind_eq_some_iff.mp hversion
  refine ⟨?_, hquestion, hpaths, textOf_of_optionalText hbinding⟩
  rw [hget]
  rfl

/-- A document may keep its binding where that is the derived one. -/
theorem derivable_iff (htyped : briefFromValue v = some typed)
    (hderived : intakeActionBinding P typed.question (textArray typed.affectedPaths)
      = .ok derived) :
    Derivable P v ↔ ∀ binding, typed.actionBindingSha256 = some binding → derived = binding := by
  obtain ⟨hversion, hquestion, hpaths, hbinding⟩ := fields_of_brief htyped
  constructor
  · intro h binding hsupplied
    obtain ⟨question, paths, hquestion', hpaths', hintake⟩ :=
      h binding hversion (hbinding.trans hsupplied)
    obtain rfl := Option.some.inj (hquestion.symm.trans hquestion')
    obtain rfl := Option.some.inj (hpaths.symm.trans hpaths')
    exact Except.ok.inj (hderived.symm.trans hintake)
  · intro h binding _ hsupplied
    obtain rfl := h binding (hbinding.symm.trans hsupplied)
    exact ⟨typed.question, typed.affectedPaths, hquestion, hpaths, hderived⟩

/-- The result of a brief that kept its binding, or got the derived one. -/
theorem coherent_of_typed {result : ResultEnvelope} (hquestion : result.question = typed.question)
    (hpaths : result.affectedPaths = typed.affectedPaths)
    (hresult : result.actionBindingSha256 = some (typed.actionBindingSha256.getD derived))
    (hderived : intakeActionBinding P typed.question (textArray typed.affectedPaths)
      = .ok derived) :
    Coherent P result ↔
      ∀ binding, typed.actionBindingSha256 = some binding → derived = binding := by
  rw [coherent_iff, hquestion, hpaths, hresult, hderived]
  cases typed.actionBindingSha256 with
  | none => simp
  | some binding => simp

end supplied

/-! ### What is written and read back -/

section readback

variable {P : Platform} {v : Json}

theorem requiredText_sorted (h : v.unique = true) (name : String) :
    requiredText v.sorted name = requiredText v name := by
  unfold requiredText
  rw [get_sorted h]
  cases v.get name with
  | none => rfl
  | some w => exact asStr_sorted w

theorem optionalText_sorted (h : v.unique = true) (name : String) :
    optionalText v.sorted name = optionalText v name := by
  unfold optionalText
  rw [get_sorted h]
  cases v.get name with
  | none => rfl
  | some w =>
    cases w with
    | obj members =>
      rw [Option.map_some, Json.sorted_obj]
      rfl
    | arr items =>
      rw [Option.map_some, Json.sorted_arr]
      rfl
    | null | bool b | int n | float text | str s => rfl

theorem defaultTexts_sorted (h : v.unique = true) (name : String) :
    defaultTexts v.sorted name = defaultTexts v name := by
  unfold defaultTexts
  rw [get_sorted h]
  cases v.get name with
  | none => rfl
  | some w =>
    cases w with
    | obj members =>
      rw [Option.map_some, Json.sorted_obj]
      rfl
    | arr items =>
      rw [Option.map_some, Json.sorted_arr]
      exact mapM_asStr_sorted items
    | null | bool b | int n | float text | str s => rfl

/-- The order of its members is no difference to a brief. -/
theorem briefFromValue_sorted (h : v.unique = true) :
    briefFromValue v.sorted = briefFromValue v := by
  unfold briefFromValue
  simp only [requiredText_sorted h, optionalText_sorted h, defaultTexts_sorted h,
    Json.Schema.accepts_sorted _ v h]

/-- A document that was written is read, with its members in order. -/
theorem read_writeJson (h : Json.Regular 2 v) : ∃ text,
    fromUtf8 (writeJson v) = some text ∧ P.json.read text = some v.sorted := by
  have hregular : Json.Regular P.json.depth v.sorted :=
    h.sorted.mono ((by decide : 2 ≤ 100).trans P.deep)
  have hbytes : writeJson v = utf8 (Json.write Json.pretty 0 v.sorted ++ ['\n']) := by
    unfold writeJson valuePretty utf8
    rw [List.flatMap_append]
    rfl
  rw [hbytes]
  refine ⟨_, Finance.fromUtf8_utf8 _, P.json.read_write Json.pretty _ _ hregular ?_⟩
  intro c hc
  obtain rfl := List.mem_singleton.mp hc
  rfl

end readback

/-- A brief of the current revision is regular. -/
theorem regular_of_brief {v : Json} (hunique : v.unique = true)
    (h : briefSchema.accepts v = true) : Json.Regular 2 v := by
  refine regular_of_record ?_ hunique h
  intro p hp
  simp only [briefProperties, List.cons_append, List.nil_append, List.mem_cons, List.not_mem_nil,
    or_false] at hp
  rcases hp with rfl | rfl | rfl | rfl | rfl | rfl | rfl | rfl | rfl
  · exact flat_textWith _
  · exact flat_textWith _
  · exact flat_orNull (flat_textWith _)
  · exact flat_both flat_items
  · exact flat_both (flat_both flat_items_both)
  · exact flat_both flat_items
  · exact flat_orNull (flat_textWith _)
  · exact flat_both (flat_both flat_items)
  · exact flat_orNull (flat_textWith _)

/-! ### Documents of a message -/

section documents

variable {P : Platform}

theorem unique_jsonPart {part : Json} {document : Json × Bool} (hpart : part.unique = true)
    (h : jsonPart part = some document) : document.1.unique = true := by
  unfold jsonPart at h
  split at h
  case h_1 => cases h
  case h_2 => cases h
  case h_3 data hdata =>
    obtain ⟨-, h⟩ := Option.ite_none_right_eq_some.mp h
    obtain rfl := Option.some.inj h
    exact unique_get hpart hdata

theorem mem_of_candidateOf {documents : List (Json × Bool)} {candidate : Json}
    (h : candidateOf documents = .ok candidate) : ∃ named, (candidate, named) ∈ documents := by
  unfold candidateOf at h
  split at h
  case h_1 chosen named hlast =>
    obtain rfl := Except.ok.inj h
    exact ⟨named, List.mem_of_mem_filter (List.mem_of_getLast? hlast)⟩
  case h_2 only named _ =>
    obtain rfl := Except.ok.inj h
    exact ⟨named, List.mem_singleton_self _⟩
  case h_3 => cases h
  case h_4 => cases h

/-- The document of a message has no member twice either. -/
theorem unique_of_selectBrief {message candidate : Json} (hmessage : message.unique = true)
    (h : selectBrief message = .ok candidate) : candidate.unique = true := by
  unfold selectBrief at h
  split at h
  case h_1 => cases h
  case h_2 parts hparts =>
    obtain ⟨-, hcandidate⟩ := bind_unit_ok.mp h
    obtain ⟨named, hmem⟩ := mem_of_candidateOf hcandidate
    obtain ⟨part, hpart, hdocument⟩ := List.mem_filterMap.mp hmem
    obtain ⟨w, hw, harr⟩ := Option.bind_eq_some_iff.mp hparts
    have hunique := unique_get hmessage hw
    cases w with
    | arr items =>
      obtain rfl := Option.some.inj harr
      exact unique_jsonPart (Json.unique_arr.mp hunique part hpart) hdocument
    | null | bool b | int n | float text | str s | obj members => cases harr

/-- What `map_host_brief` makes has the binding of its own question. -/
theorem mapHostBrief_ok {value mapped : Json} (hvalue : value.unique = true)
    (h : mapHostBrief P value = .ok mapped) : mapped.unique = true ∧ ∃ binding,
      intakeActionBinding P (hostQuestion value) (.arr []) = .ok binding
        ∧ textOf mapped "question" = some (hostQuestion value)
        ∧ mapped.get "affected_paths" = some (.arr [])
        ∧ textOf mapped "action_binding_sha256" = some binding := by
  obtain ⟨-, h⟩ := bind_unit_ok.mp h
  obtain ⟨binding, hbinding, h⟩ := bind_ok.mp h
  obtain rfl := Except.ok.inj h
  refine ⟨?_, binding, hbinding, rfl, rfl, rfl⟩
  refine Json.unique_obj.mpr ⟨by simp, fun m hm => ?_⟩
  simp only [List.mem_cons, List.not_mem_nil, or_false] at hm
  rcases hm with rfl | rfl | rfl | rfl | rfl | rfl | rfl | rfl | rfl
  · rfl
  · rfl
  · rfl
  · refine Json.unique_arr.mpr fun item hitem => ?_
    have htext := (List.mem_filter.mp hitem).2
    cases item with
    | str s => rfl
    | null | bool b | int n | float text | arr items | obj members => cases htext
  · rfl
  · rfl
  · show (hostScope value).unique = true
    unfold hostScope
    split
    case h_1 => rfl
    case h_2 => rfl
    case h_3 other hother => exact unique_get hvalue hother
  · rfl
  · rfl

theorem memberOr_of_defaultTexts {v : Json} {name : String} {texts : List String}
    (h : defaultTexts v name = some texts) : memberOr v name (.arr []) = textArray texts := by
  unfold defaultTexts at h
  unfold memberOr
  cases hget : v.get name with
  | none =>
    rw [hget] at h
    obtain rfl := Option.some.inj h
    rfl
  | some w =>
    rw [hget] at h
    cases w with
    | arr items =>
      rw [Contest.mapM_asStr h]
      rfl
    | null | bool b | int n | float text | str s | obj members => cases h

end documents

/-! ### The brief of a run -/

section brief

variable {P : Platform} {publish : Brief → Except String Unit} {brief : Brief} {digest : String}
  {result : ResultEnvelope}

/-- The result is that of a run with this brief. -/
structure ResultOf (brief : Brief) (result : ResultEnvelope) : Prop where
  question : result.question = brief.question
  paths : result.affectedPaths = brief.affectedPaths
  binding : result.actionBindingSha256 = brief.actionBindingSha256

/-- The typed brief of a document that went through the inbox. -/
theorem typed_of_writeJson {v : Json} (hunique : v.unique = true) (hregular : Json.Regular 2 v)
    (h : createFromBriefBytes P publish (writeJson v) = .ok (brief, digest)) :
    ∃ typed derived, briefFromValue v = some typed
      ∧ intakeActionBinding P typed.question (textArray typed.affectedPaths) = .ok derived
      ∧ brief = { typed with
          briefVersion := briefVersion
          actionBindingSha256 := some (typed.actionBindingSha256.getD derived) } := by
  obtain ⟨text, w, typed, derived, htext, hread, -, htyped, hderived, hbrief, -⟩ :=
    createFromBriefBytes_ok h
  obtain ⟨text', htext', hread'⟩ := read_writeJson (P := P) hregular
  obtain rfl := Option.some.inj (htext.symm.trans htext')
  obtain rfl := Option.some.inj (hread.symm.trans hread')
  rw [briefFromValue_sorted hunique] at htyped
  exact ⟨typed, derived, htyped, hderived, hbrief⟩

/-- A result whose brief kept what its document supplies. -/
theorem coherent_iff_of_document {v : Json} {typed : Brief} {derived : String}
    (htyped : briefFromValue v = some typed)
    (hderived : intakeActionBinding P typed.question (textArray typed.affectedPaths) = .ok derived)
    (hbrief : brief = { typed with
      briefVersion := briefVersion
      actionBindingSha256 := some (typed.actionBindingSha256.getD derived) })
    (hresult : ResultOf brief result) : Coherent P result ↔ Derivable P v := by
  subst hbrief
  rw [derivable_iff htyped hderived]
  exact coherent_of_typed hresult.question hresult.paths hresult.binding hderived

/-- A result whose brief was given the derived binding on its way. -/
theorem coherent_of_bound {v : Json} {typed : Brief} {derived : String}
    (htyped : briefFromValue v = some typed)
    (hderived : intakeActionBinding P typed.question (textArray typed.affectedPaths) = .ok derived)
    (hbrief : brief = { typed with
      briefVersion := briefVersion
      actionBindingSha256 := some (typed.actionBindingSha256.getD derived) })
    (hbound : textOf v "action_binding_sha256" = some derived)
    (hresult : ResultOf brief result) : Coherent P result := by
  subst hbrief
  obtain ⟨-, -, -, hbinding⟩ := fields_of_brief htyped
  refine (coherent_of_typed hresult.question hresult.paths hresult.binding hderived).mpr ?_
  intro binding hsupplied
  rw [← hbinding, hbound] at hsupplied
  exact Option.some.inj hsupplied

/-- **A file**: what the submitter wrote is kept. -/
theorem coherent_iff_of_file {bytes : Bytes} {document : Json}
    (hdocument : (fromUtf8 bytes).bind P.json.read = some document)
    (h : createFromBriefBytes P publish bytes = .ok (brief, digest))
    (hresult : ResultOf brief result) : Coherent P result ↔ Derivable P document := by
  obtain ⟨text, v, typed, derived, htext, hread, -, htyped, hderived, hbrief, -⟩ :=
    createFromBriefBytes_ok h
  rw [htext, Option.bind_some] at hdocument
  obtain rfl := Option.some.inj (hdocument.symm.trans hread)
  exact coherent_iff_of_document htyped hderived hbrief hresult

/-- **A native brief of a message**: what the submitter wrote is kept, and where
    that is nothing the binding is derived before the inbox. -/
theorem coherent_iff_of_native {candidate projected : Json} (hunique : candidate.unique = true)
    (hobject : candidate.isObject = true) (haccepts : briefSchema.accepts candidate = true)
    (hbind : bindDocument P candidate = .ok projected)
    (h : createFromBriefBytes P publish (writeJson projected) = .ok (brief, digest))
    (hresult : ResultOf brief result) : Coherent P result ↔ Derivable P candidate := by
  have hregular := regular_of_brief hunique haccepts
  unfold bindDocument at hbind
  split at hbind
  case isTrue hnull =>
    obtain ⟨binding, hintake, hbind⟩ := bind_ok.mp hbind
    obtain rfl := Except.ok.inj hbind
    have htext : Json.Regular 1 (.str binding) := trivial
    obtain ⟨typed, derived, htyped, hderived, hbrief⟩ :=
      typed_of_writeJson (unique_set _ hunique rfl) (regular_set _ hregular htext) h
    obtain ⟨-, hquestion, hpaths, -⟩ := fields_of_brief htyped
    -- the other members are those of the candidate
    have hquestion' : textOf candidate "question" = some typed.question := by
      rw [← hquestion, textOf, textOf, Json.get_set_ne (by decide)]
    have hpaths' : defaultTexts candidate "affected_paths" = some typed.affectedPaths := by
      rw [← hpaths, defaultTexts, defaultTexts, Json.get_set_ne (by decide)]
    rw [hquestion', memberOr_of_defaultTexts hpaths', Option.getD_some] at hintake
    obtain rfl := Except.ok.inj (hintake.symm.trans hderived)
    have hbound : textOf (candidate.set "action_binding_sha256" (.str binding))
        "action_binding_sha256" = some binding := by
      rw [textOf, Json.get_set_self hobject]
      rfl
    refine iff_of_true (coherent_of_bound htyped hderived hbrief hbound hresult) ?_
    intro supplied _ hsupplied
    obtain ⟨w, hget, hstr⟩ := Option.bind_eq_some_iff.mp hsupplied
    rw [memberOr, hget, Option.getD_some] at hnull
    cases w with
    | null => cases hstr
    | bool b | int n | float text | str s | arr items | obj members => cases hnull
  case isFalse =>
    obtain rfl := Except.ok.inj hbind
    obtain ⟨typed, derived, htyped, hderived, hbrief⟩ := typed_of_writeJson hunique hregular h
    exact coherent_iff_of_document htyped hderived hbrief hresult

/-- **A host brief** has the binding of the question that is made for it. -/
theorem coherent_of_host {candidate mapped : Json} (hunique : candidate.unique = true)
    (hmapped : mapHostBrief P candidate = .ok mapped) (haccepts : briefSchema.accepts mapped = true)
    (h : createFromBriefBytes P publish (writeJson mapped) = .ok (brief, digest))
    (hresult : ResultOf brief result) : Coherent P result := by
  obtain ⟨hunique', binding, hintake, hquestion, hpaths, hbound⟩ := mapHostBrief_ok hunique hmapped
  obtain ⟨typed, derived, htyped, hderived, hbrief⟩ :=
    typed_of_writeJson hunique' (regular_of_brief hunique' haccepts) h
  obtain ⟨-, hquestion', hpaths', -⟩ := fields_of_brief htyped
  rw [Option.some.inj (hquestion.symm.trans hquestion')] at hintake
  have hempty : memberOr mapped "affected_paths" (.arr []) = .arr [] := by
    rw [memberOr, hpaths, Option.getD_some]
  rw [← hempty, memberOr_of_defaultTexts hpaths'] at hintake
  obtain rfl := Except.ok.inj (hintake.symm.trans hderived)
  exact coherent_of_bound htyped hderived hbrief hbound hresult

/-- **A message.** -/
theorem coherent_iff_of_message {message document : Json} (hunique : message.unique = true)
    (hdocument : selectBrief message = .ok document)
    (h : Submission.create P publish (.message message hunique) = .ok (brief, digest))
    (hresult : ResultOf brief result) : Coherent P result ↔ Derivable P document := by
  have hunique' := unique_of_selectBrief hunique hdocument
  obtain ⟨projected, hextract, hcreate⟩ := bind_ok.mp h
  obtain ⟨candidate, hselect, hproject⟩ := bind_ok.mp hextract
  obtain rfl := Except.ok.inj (hdocument.symm.trans hselect)
  obtain ⟨hobject, hproject⟩ := bind_unit_ok.mp hproject
  split at hproject
  case isTrue =>
    obtain ⟨haccepts, hbind⟩ := bind_unit_ok.mp hproject
    exact coherent_iff_of_native hunique' (require_ok.mp hobject) (require_ok.mp haccepts) hbind
      hcreate hresult
  case isFalse hhost =>
    obtain ⟨mapped, hmapped, hproject⟩ := bind_ok.mp hproject
    obtain ⟨haccepts, hproject⟩ := bind_unit_ok.mp hproject
    obtain rfl := Except.ok.inj hproject
    have hcoherent := coherent_of_host hunique' hmapped (require_ok.mp haccepts) hcreate hresult
    refine iff_of_true hcoherent ?_
    intro binding hnative
    exact absurd hnative hhost

/-- **A submission.** -/
theorem coherent_iff_of_submission {submission : Submission} {document : Json}
    (hdocument : submission.document P = some document)
    (h : submission.create P publish = .ok (brief, digest)) (hresult : ResultOf brief result) :
    Coherent P result ↔ Derivable P document := by
  cases submission with
  | file bytes => exact coherent_iff_of_file hdocument h hresult
  | message value hunique =>
    have hselected : (selectBrief value).toOption = some document := hdocument
    cases hselect : selectBrief value with
    | error message =>
      rw [hselect] at hselected
      cases hselected
    | ok candidate =>
      rw [hselect] at hselected
      obtain rfl := Option.some.inj hselected
      exact coherent_iff_of_message hunique hselect h hresult

theorem coherent_iff_of_reviewed {document : Json} (h : Reviewed P document result) :
    Coherent P result ↔ Derivable P document := by
  obtain ⟨publish, submission, brief, digest, manifest, policy, r1, r2, primary, counterpart,
    hdocument, hcreate, hmerge⟩ := h
  obtain ⟨hquestion, hpaths, hbinding⟩ := mergeVerdicts_brief hmerge
  exact coherent_iff_of_submission hdocument hcreate ⟨hquestion, hpaths, hbinding⟩

end brief

/-! ### The theorem -/

/-- **One action binding**: the result of a run, its residual trace and its route
    request have one binding exactly when the document that was submitted brings
    none, or the one that its question and paths give. Two such results with
    the same question and paths emit the same. -/
theorem coherent_iff_derivable (P : Platform) (document : Json) (result : ResultEnvelope)
    (h : Reviewed P document result) :
    (Coherent P result ↔ Derivable P document)
      ∧ ∀ document' result', Reviewed P document' result' → Derivable P document →
          Derivable P document' → result'.question = result.question →
          result'.affectedPaths = result.affectedPaths → SameBinding P result' result := by
  refine ⟨coherent_iff_of_reviewed h, ?_⟩
  intro document' result' h' hderivable hderivable' hquestion hpaths
  exact sameBinding_of_coherent hquestion hpaths
    ((coherent_iff_of_reviewed h').mpr hderivable')
    ((coherent_iff_of_reviewed h).mpr hderivable)

/-! #### A binding that a submitter supplies -/

theorem reviewed_bound :
    ∃ result, Reviewed Platform.verbatim (briefValue boundBrief) result := by
  obtain ⟨result, hresult⟩ : ∃ result, mergeVerdicts default boundBrief samplePolicy
      (sampleLanes [] []) [] (sampleVerdict []) (sampleVerdict []) = some result := by
    rw [← Option.ne_none_iff_exists', Ne, mergeVerdicts_eq_none]
    decide
  have hdocument : (fromUtf8 (briefBytes boundBrief)).bind Platform.verbatim.json.read
      = some (briefValue boundBrief) := by
    rw [briefBytes, Finance.fromUtf8_utf8, Option.bind_some, Contest.read_boundBrief]
  exact ⟨result, fun _ => .ok (), .file (briefBytes boundBrief), boundBrief, _, default,
    samplePolicy, sampleLanes [] [], [], sampleVerdict [], sampleVerdict [], hdocument,
    Contest.createFromBriefBytes_bound, hresult⟩

/-- It is not the one that its question and its paths give. -/
theorem not_derivable_bound : ¬ Derivable Platform.verbatim (briefValue boundBrief) := by
  intro h
  obtain ⟨question, paths, hquestion, hpaths, hintake⟩ := h _ rfl rfl
  obtain rfl := Option.some.inj hquestion
  obtain rfl := Option.some.inj hpaths
  rw [intakeActionBinding_eq] at hintake
  have hlength := congrArg String.length (Except.ok.inj hintake)
  revert hlength
  decide +kernel

theorem coherent_iff_derivable_bound :
    ∃ result, Reviewed Platform.verbatim (briefValue boundBrief) result
      ∧ (Coherent Platform.verbatim result
          ↔ Derivable Platform.verbatim (briefValue boundBrief))
      ∧ ∀ document' result', Reviewed Platform.verbatim document' result' →
          Derivable Platform.verbatim (briefValue boundBrief) →
          Derivable Platform.verbatim document' → result'.question = result.question →
          result'.affectedPaths = result.affectedPaths →
          SameBinding Platform.verbatim result' result := by
  obtain ⟨result, h⟩ := reviewed_bound
  exact ⟨result, h, coherent_iff_derivable Platform.verbatim (briefValue boundBrief) result h⟩

/-- A binding in the format of the schema is carried to the result, and neither
    the trace nor the request has it. -/
theorem supplied_binding_drifts : ¬ ∀ document result,
    Reviewed Platform.verbatim document result → Coherent Platform.verbatim result := by
  intro hall
  obtain ⟨result, h⟩ := reviewed_bound
  exact not_derivable_bound ((coherent_iff_of_reviewed h).mp (hall _ result h))

end Quinte.Wire
