import Mathlib
import Quinte.Wire.Intake

/-! # The supervisor's digest of a brief

    `_canonical_brief_digest` of `contest_supervisor.py` repeats in Python what
    the intake of a brief does before it hashes.  An error is the message of a
    `SafetyError`.

    * `canonicalBriefDigest_of_read`: what is hashed of a document that the
      intake takes;
    * `canonicalBriefDigest_eq_iff`: when both digests are the same one.
-/

namespace Quinte.Contest

open Finance (Bytes Platform asBytes utf8 fromUtf8)
open Policy (require require_ok bind_ok bind_unit_ok)
open Wire

/-! ### Python -/

/-- The characters that `str.strip` strips: also the four separators that
    `str::trim` leaves. -/
def isPythonSpace (c : Char) : Bool := isWhiteSpace c || (0x1c ≤ c.toNat && c.toNat ≤ 0x1f)

/-- `not value.strip()`. -/
def pythonBlank (s : String) : Bool := s.toList.all isPythonSpace

/-- `value.get(name, default)`. -/
def getOr (members : List (String × Json)) (name : String) (default : Json) : Json :=
  (members.lookup name).getD default

/-- `sorted(set(value) - allowed)`. -/
def unknownNames (members : List (String × Json)) (allowed : List String) : List String :=
  ((members.map (·.1)).filter (!allowed.contains ·)).dedup.insertionSort (· ≤ ·)

/-- `_read_json`, with the reader of texts. -/
def readJson (loads : Json.Text → Option Json) (label : String) (bytes : Bytes) :
    Except String Json :=
  match (fromUtf8 bytes).bind loads with
  | none => .error (label ++ " is unreadable or malformed")
  | some value => .ok value

/-- The document with the defaults, in the order in which `Brief` is declared. -/
def canonicalBrief (members : List (String × Json)) : Json :=
  .obj [
    ("brief_version", getOr members "brief_version" .null),
    ("question", getOr members "question" .null),
    ("context", getOr members "context" .null),
    ("evidence_roots", getOr members "evidence_roots" (.arr [])),
    ("snapshot_ignore", getOr members "snapshot_ignore" (.arr [])),
    ("attachments", getOr members "attachments" (.arr [])),
    ("action_scope", getOr members "action_scope" .null),
    ("affected_paths", getOr members "affected_paths" (.arr [])),
    ("action_binding_sha256", getOr members "action_binding_sha256" .null)]

/-- One round of the loop over the members that must be arrays. -/
def checkArray (members : List (String × Json)) (field : String) : Except String Unit :=
  require ((members.lookup field).all fun v => v.asArr.isSome)
    ("brief " ++ field ++ " must be an array")

/-- The fields that must be arrays. -/
def arrayFields : List String :=
  ["evidence_roots", "snapshot_ignore", "attachments", "affected_paths"]

/-- `_canonical_brief_digest` of a value that was read. -/
def valueBriefDigest (P : Platform) (label : String) : Json → Except String String
  | .obj members => do
      require (unknownNames members briefFields).isEmpty
        ("brief has unknown fields: " ++ ", ".intercalate (unknownNames members briefFields))
      require (getOr members "brief_version" .null == .str "1.1") "brief_version must be 1.1"
      require (((members.lookup "question").bind Json.asStr).any (!pythonBlank ·))
        "brief question must be a non-empty string"
      arrayFields.forM (checkArray members)
      return P.sha256 (utf8 (Json.write Json.compact 0 (canonicalBrief members)))
  | _ => .error ("brief is not a JSON object: " ++ label)

/-- `_canonical_brief_digest` of the bytes of the file. -/
def canonicalBriefDigest (P : Platform) (loads : Json.Text → Option Json) (label : String)
    (bytes : Bytes) : Except String String := do
  let value ← readJson loads ("brief " ++ label) bytes
  valueBriefDigest P label value

theorem canonicalBriefDigest_of_read {P : Platform} {loads : Json.Text → Option Json}
    {label : String} {bytes : Bytes} {text : Json.Text} {v : Json}
    (htext : fromUtf8 bytes = some text) (hread : loads text = some v) :
    canonicalBriefDigest P loads label bytes = valueBriefDigest P label v := by
  unfold canonicalBriefDigest readJson
  rw [htext, Option.bind_some, hread]
  rfl

/-! ### The document and the typed brief -/

section typed

variable {v : Json} {members : List (String × Json)} {name : String}

theorem requiredText_eq {s : String} (h : requiredText (.obj members) name = some s) :
    members.lookup name = some (.str s) := by
  obtain ⟨w, hget, hstr⟩ := Option.bind_eq_some_iff.mp h
  cases w with
  | str t =>
    obtain rfl := Option.some.inj hstr
    exact hget
  | null | bool b | int n | float text | arr items | obj members => cases hstr

theorem optionalText_eq {t : Option String} (h : optionalText (.obj members) name = some t) :
    getOr members name .null = nullable t := by
  unfold optionalText at h
  unfold getOr
  rw [Json.get_obj] at h
  cases hlook : members.lookup name with
  | none =>
    rw [hlook] at h
    obtain rfl := Option.some.inj h
    rfl
  | some w =>
    rw [hlook] at h
    cases w with
    | null =>
      obtain rfl := Option.some.inj h
      rfl
    | str s =>
      obtain rfl := Option.some.inj h
      rfl
    | bool b | int n | float text | arr items | obj members => cases h

theorem mapM_asStr {items : List Json} {texts : List String}
    (h : items.mapM Json.asStr = some texts) : items = texts.map Json.str := by
  induction items generalizing texts with
  | nil =>
    obtain rfl := Option.some.inj h
    rfl
  | cons item items ih =>
    rw [List.mapM_cons] at h
    obtain ⟨s, hitem, h⟩ := Option.bind_eq_some_iff.mp h
    obtain ⟨rest, hrest, h⟩ := Option.bind_eq_some_iff.mp h
    obtain rfl := Option.some.inj h
    cases item with
    | str t =>
      obtain rfl := Option.some.inj hitem
      rw [ih hrest, List.map_cons]
    | null | bool b | int n | float text | arr items | obj members => cases hitem

theorem defaultTexts_eq {texts : List String}
    (h : defaultTexts (.obj members) name = some texts) :
    getOr members name (.arr []) = textArray texts
      ∧ (members.lookup name).all (fun v => v.asArr.isSome) = true := by
  unfold defaultTexts at h
  unfold getOr
  rw [Json.get_obj] at h
  cases hlook : members.lookup name with
  | none =>
    rw [hlook] at h
    obtain rfl := Option.some.inj h
    exact ⟨rfl, rfl⟩
  | some w =>
    rw [hlook] at h
    cases w with
    | arr items =>
      rw [mapM_asStr h]
      exact ⟨rfl, rfl⟩
    | null | bool b | int n | float text | str s | obj members => cases h

theorem briefFromValue_ok {brief : Brief} (h : briefFromValue (.obj members) = some brief) :
    (∀ m ∈ members, m.1 ∈ briefFields)
      ∧ requiredText (.obj members) "question" = some brief.question
      ∧ (∀ field ∈ arrayFields, checkArray members field = .ok ())
      ∧ canonicalBrief members = briefValue brief := by
  unfold briefFromValue at h
  rw [Option.ite_none_right_eq_some] at h
  obtain ⟨hclosed, h⟩ := h
  simp only [Option.bind_eq_bind, Option.bind_eq_some_iff, Option.pure_def,
    Option.some.injEq] at h
  obtain ⟨version, hversion, question, hquestion, context, hcontext, roots, hroots,
    ignored, hignore, attachments, hattachments, scope, hscope, paths, hpaths, binding, hbinding,
    rfl⟩ := h
  -- the three that are left: the fields, the arrays, and what is written back
  refine ⟨?_, hquestion, ?_, ?_⟩
  · intro m hm
    simpa using List.all_eq_true.mp hclosed m hm
  · intro field hfield
    unfold checkArray
    rw [require_ok]
    simp only [arrayFields, List.mem_cons, List.not_mem_nil, or_false] at hfield
    rcases hfield with rfl | rfl | rfl | rfl
    · exact (defaultTexts_eq hroots).2
    · exact (defaultTexts_eq hignore).2
    · exact (defaultTexts_eq hattachments).2
    · exact (defaultTexts_eq hpaths).2
  · unfold canonicalBrief briefValue
    rw [optionalText_eq hcontext, (defaultTexts_eq hroots).1, (defaultTexts_eq hignore).1,
      (defaultTexts_eq hattachments).1, optionalText_eq hscope, (defaultTexts_eq hpaths).1,
      optionalText_eq hbinding]
    unfold getOr
    rw [requiredText_eq hversion, requiredText_eq hquestion]
    rfl

/-- A brief holds texts only. -/
theorem floats_of_brief {brief : Brief} (h : briefFromValue (.obj members) = some brief)
    (hunique : (Json.obj members).unique = true) : (Json.obj members).floats = [] := by
  unfold briefFromValue at h
  rw [Option.ite_none_right_eq_some] at h
  obtain ⟨hclosed, h⟩ := h
  simp only [Option.bind_eq_bind, Option.bind_eq_some_iff, Option.pure_def,
    Option.some.injEq] at h
  obtain ⟨version, hversion, question, hquestion, context, hcontext, roots, hroots,
    ignored, hignore, attachments, hattachments, scope, hscope, paths, hpaths, binding, hbinding,
    -⟩ := h
  -- what a field is read from has no number in it
  have htext : ∀ {name s w}, requiredText (.obj members) name = some s →
      members.lookup name = some w → w.floats = [] := by
    intro name s w h hlook
    rw [requiredText_eq h] at hlook
    obtain rfl := Option.some.inj hlook
    rfl
  have hnullable : ∀ {name t w}, optionalText (.obj members) name = some t →
      members.lookup name = some w → w.floats = [] := by
    intro name t w h hlook
    have hvalue := optionalText_eq h
    rw [getOr, hlook, Option.getD_some] at hvalue
    subst hvalue
    cases t <;> rfl
  have htexts : ∀ {name texts w}, defaultTexts (.obj members) name = some texts →
      members.lookup name = some w → w.floats = [] := by
    intro name texts w h hlook
    have hvalue := (defaultTexts_eq h).1
    rw [getOr, hlook, Option.getD_some] at hvalue
    rw [hvalue, floats_textArray]
  rw [Json.floats_obj, List.flatMap_eq_nil_iff]
  intro m hm
  have hlook : members.lookup m.1 = some m.2 :=
    Json.lookup_of_mem (Json.unique_obj.mp hunique).1 hm
  have hname : m.1 ∈ briefFields := by simpa using List.all_eq_true.mp hclosed m hm
  -- each member is one of the nine fields
  generalize m.1 = name at hlook hname
  simp only [briefFields, List.mem_cons, List.not_mem_nil, or_false] at hname
  rcases hname with rfl | rfl | rfl | rfl | rfl | rfl | rfl | rfl | rfl
  · exact htext hversion hlook
  · exact htext hquestion hlook
  · exact hnullable hcontext hlook
  · exact htexts hroots hlook
  · exact htexts hignore hlook
  · exact htexts hattachments hlook
  · exact hnullable hscope hlook
  · exact htexts hpaths hlook
  · exact hnullable hbinding hlook

end typed

/-! ### Both digests -/

theorem unknownNames_eq_nil {members : List (String × Json)} {allowed : List String}
    (h : ∀ m ∈ members, m.1 ∈ allowed) : unknownNames members allowed = [] := by
  have hfilter : (members.map (·.1)).filter (!allowed.contains ·) = [] := by
    rw [List.filter_eq_nil_iff]
    intro name hname
    obtain ⟨m, hm, rfl⟩ := List.mem_map.mp hname
    simpa using h m hm
  rw [unknownNames, hfilter]
  rfl

/-- **What the supervisor hashes** of a document that the intake takes: the
    brief as it is written, unless its question is blank for Python. -/
theorem valueBriefDigest_eq (P : Platform) (label : String) {members : List (String × Json)}
    {brief : Brief} (h : briefFromValue (.obj members) = some brief)
    (hversion : (Json.obj members).get "brief_version" = some (.str briefVersion)) :
    valueBriefDigest P label (.obj members)
      = if pythonBlank brief.question then .error "brief question must be a non-empty string"
        else .ok (P.sha256 (briefBytes brief)) := by
  obtain ⟨hnames, hquestion, harrays, hcanonical⟩ := briefFromValue_ok h
  have hlook : members.lookup "brief_version" = some (.str "1.1") := hversion
  have hforM : arrayFields.forM (checkArray members) = .ok () := Policy.forM_ok.mpr harrays
  have hfirst : (getOr members "brief_version" .null == Json.str "1.1") = true := by
    rw [getOr, hlook]
    rfl
  unfold valueBriefDigest
  dsimp only
  rw [unknownNames_eq_nil hnames, hfirst, requiredText_eq hquestion, hcanonical, hforM]
  cases hblank : pythonBlank brief.question with
  | true => simp [require, hblank, bind, Except.bind, Json.asStr]
  | false => simp [require, hblank, bind, Except.bind, Json.asStr, pure, Except.pure, briefBytes]

theorem regular_textArray (texts : List String) : Json.Regular 1 (textArray texts) := by
  unfold textArray
  intro v hv
  obtain ⟨text, -, rfl⟩ := List.mem_map.mp hv
  trivial

theorem regular_nullable (text : Option String) : Json.Regular 1 (nullable text) := by
  cases text <;> trivial

theorem regular_briefValue (brief : Brief) : Json.Regular 2 (briefValue brief) := by
  unfold briefValue
  intro m hm
  simp only [List.mem_cons, List.not_mem_nil, or_false] at hm
  rcases hm with rfl | rfl | rfl | rfl | rfl | rfl | rfl | rfl | rfl
  · trivial
  · trivial
  · exact regular_nullable _
  · exact regular_textArray _
  · exact regular_textArray _
  · exact regular_textArray _
  · exact regular_nullable _
  · exact regular_textArray _
  · exact regular_nullable _

/-- The bytes of a brief show its binding. -/
theorem binding_of_briefBytes {a b : Brief} (h : briefBytes a = briefBytes b) :
    a.actionBindingSha256 = b.actionBindingSha256 := by
  have hvalue : briefValue a = briefValue b :=
    Json.write_injective (regular_briefValue a) (regular_briefValue b) (Finance.utf8_injective h)
  have hmember : nullable a.actionBindingSha256 = nullable b.actionBindingSha256 := by
    have hget := congrArg (fun v => v.get "action_binding_sha256") hvalue
    exact Option.some.inj hget
  cases ha : a.actionBindingSha256 <;> cases hb : b.actionBindingSha256 <;>
    simp_all [nullable]

/-- **The two digests of a brief** are the same exactly when the document has a
    binding, and a question that is not blank for Python either. -/
theorem canonicalBriefDigest_eq_iff (P : Platform) (hinjective : Function.Injective P.sha256)
    (loads : Json.Text → Option Json)
    (hloads : ∀ text v, P.json.read text = some v → v.unique = true → v.floats = [] →
      loads text = some v)
    (publish : Brief → Except String Unit) (label : String) (bytes : Bytes) (text : Json.Text)
    (v : Json) (brief : Brief) (digest : String)
    (htext : fromUtf8 bytes = some text) (hv : P.json.read text = some v)
    (hunique : v.unique = true) (hversion : v.get "brief_version" = some (.str briefVersion))
    (hstart : createFromBriefBytes P publish bytes = .ok (brief, digest)) :
    canonicalBriefDigest P loads label bytes = .ok digest ↔
      (∃ binding, v.get "action_binding_sha256" = some (.str binding))
        ∧ ∃ question, v.get "question" = some (.str question)
          ∧ pythonBlank question = false := by
  obtain ⟨text', v', typed, derived, htext', hv', -, htyped, -, rfl, rfl⟩ :=
    createFromBriefBytes_ok hstart
  -- the document that was read is the given one
  obtain rfl : text = text' := Option.some.inj (htext.symm.trans htext')
  obtain rfl : v = v' := Option.some.inj (hv.symm.trans hv')
  cases v with
  | obj members =>
    have hread : loads text = some (.obj members) :=
      hloads text _ hv hunique (floats_of_brief htyped hunique)
    obtain ⟨-, hquestion, -, hcanonical⟩ := briefFromValue_ok htyped
    have hcurrent : typed.briefVersion = briefVersion := by
      have hmember := congrArg (fun v => v.get "brief_version") hcanonical
      have hvalue : getOr members "brief_version" .null = .str typed.briefVersion :=
        Option.some.inj hmember
      have hlook : members.lookup "brief_version" = some (.str briefVersion) := hversion
      rw [getOr, hlook, Option.getD_some, Json.str.injEq] at hvalue
      exact hvalue.symm
    have hbinding : (∃ binding, (Json.obj members).get "action_binding_sha256"
        = some (.str binding)) ↔ typed.actionBindingSha256.isSome := by
      have hmember := congrArg (fun v => v.get "action_binding_sha256") hcanonical
      have hvalue : getOr members "action_binding_sha256" .null
          = nullable typed.actionBindingSha256 := Option.some.inj hmember
      rw [Json.get_obj]
      rw [getOr] at hvalue
      cases hlook : members.lookup "action_binding_sha256" <;> rw [hlook] at hvalue <;>
        cases htypedBinding : typed.actionBindingSha256 <;> rw [htypedBinding] at hvalue <;>
        simp_all [nullable]
    have hshown : (∃ question, (Json.obj members).get "question" = some (.str question)
        ∧ pythonBlank question = false) ↔ pythonBlank typed.question = false := by
      have hlook : (Json.obj members).get "question" = some (.str typed.question) :=
        requiredText_eq hquestion
      rw [hlook]
      simp
    rw [canonicalBriefDigest_of_read htext hread, valueBriefDigest_eq P label htyped hversion,
      hbinding, hshown]
    constructor
    · intro heq
      cases hblank : pythonBlank typed.question with
      | true =>
        rw [hblank, if_pos rfl] at heq
        cases heq
      | false =>
        rw [hblank, if_neg Bool.false_ne_true] at heq
        have hbytes := binding_of_briefBytes (hinjective (Except.ok.inj heq))
        rw [hbytes]
        exact ⟨rfl, rfl⟩
    · intro ⟨hsome, hblank⟩
      rw [hblank, if_neg Bool.false_ne_true]
      obtain ⟨binding, hgiven⟩ := Option.isSome_iff_exists.mp hsome
      -- the brief that was read is the one the run was created with
      have hsame : typed = { typed with
          briefVersion := briefVersion
          actionBindingSha256 := some (typed.actionBindingSha256.getD derived) } := by
        rw [← hcurrent, hgiven, Option.getD_some, ← hgiven]
      rw [← hsame]
  | null | bool b | int n | float text | str s | arr items => cases hversion

/-- A brief that has its binding. -/
def boundBrief : Brief where
  briefVersion := briefVersion
  question := "Merge?"
  context := none
  evidenceRoots := []
  snapshotIgnore := []
  attachments := []
  actionScope := none
  affectedPaths := ["src/run.rs"]
  actionBindingSha256 :=
    some "sha256:0123456789abcdef0123456789abcdef0123456789abcdef0123456789abcdef"

theorem read_boundBrief :
    Platform.verbatim.json.read (Json.write Json.compact 0 (briefValue boundBrief))
      = some (briefValue boundBrief) := by
  have hregular := (regular_briefValue boundBrief).mono (by decide : 2 ≤ 100)
  have hwritten := Platform.verbatim.json.read_write Json.compact _ [] hregular (by simp)
  rwa [List.append_nil] at hwritten

/-- The run that is created with it. -/
theorem createFromBriefBytes_bound :
    createFromBriefBytes Platform.verbatim (fun _ => .ok ()) (briefBytes boundBrief)
      = .ok (boundBrief, Platform.verbatim.sha256 (briefBytes boundBrief)) := by
  have hparse : parseBrief Platform.verbatim (briefBytes boundBrief) = .ok boundBrief :=
    parseBrief_ok.mpr ⟨_, _, Finance.fromUtf8_utf8 _, read_boundBrief, by decide +kernel, rfl⟩
  rw [createFromBriefBytes, intakeBrief, hparse]
  rfl

set_option maxRecDepth 20000 in
theorem canonicalBriefDigest_eq_iff_bound :
    canonicalBriefDigest Platform.verbatim Json.scan "brief.json" (briefBytes boundBrief)
      = .ok (Platform.verbatim.sha256 (briefBytes boundBrief)) := by
  apply (canonicalBriefDigest_eq_iff Platform.verbatim Platform.verbatim_injective Json.scan
    (fun _ _ h _ _ => h) (fun _ => .ok ()) "brief.json" (briefBytes boundBrief)
    (Json.write Json.compact 0 (briefValue boundBrief)) (briefValue boundBrief) boundBrief
    (Platform.verbatim.sha256 (briefBytes boundBrief)) (Finance.fromUtf8_utf8 _) read_boundBrief
    (by decide +kernel) rfl createFromBriefBytes_bound).mpr
  exact ⟨⟨_, rfl⟩, "Merge?", rfl, by decide⟩

/-- A brief without a binding, as one is written by hand. -/
def unboundBrief : Bytes :=
  asBytes "\x7b\"brief_version\":\"1.1\",\"question\":\"Merge?\"\x7d"

set_option maxRecDepth 20000 in
/-- The intake derives a binding before it hashes, and the supervisor does not. -/
theorem brief_digests_of_unbound : ¬ ∀ bytes text v brief digest,
    fromUtf8 bytes = some text → Json.scan text = some v → v.unique = true →
    v.get "brief_version" = some (.str briefVersion) →
    createFromBriefBytes Platform.verbatim (fun _ => .ok ()) bytes = .ok (brief, digest) →
    canonicalBriefDigest Platform.verbatim Json.scan "brief.json" bytes = .ok digest := by
  intro hall
  have htaken : (createFromBriefBytes Platform.verbatim (fun _ => .ok ())
      unboundBrief).toOption.isSome = true := by decide +kernel
  have hread : Json.scan "\x7b\"brief_version\":\"1.1\",\"question\":\"Merge?\"\x7d".toList
      = some (.obj [("brief_version", .str "1.1"), ("question", .str "Merge?")]) := by
    decide +kernel
  have htext : fromUtf8 unboundBrief = some _ := Finance.fromUtf8_utf8 _
  cases hstart : createFromBriefBytes Platform.verbatim (fun _ => .ok ()) unboundBrief with
  | error message =>
    rw [hstart] at htaken
    cases htaken
  | ok r =>
    -- two equal digests would be of equal bytes
    have hsame := hall unboundBrief _ _ r.1 r.2 htext hread (by decide) rfl hstart
    obtain ⟨text, v, typed, derived, htext', hv, -, htyped, -, hbrief, hdigest⟩ :=
      createFromBriefBytes_ok hstart
    obtain rfl := Option.some.inj (htext.symm.trans htext')
    have hreader : Platform.verbatim.json.read = Json.scan := rfl
    rw [hreader, hread] at hv
    obtain rfl := Option.some.inj hv
    have hunbound : typed.actionBindingSha256 = none := by
      cases htyped
      rfl
    rw [canonicalBriefDigest_of_read htext hread, valueBriefDigest_eq _ _ htyped rfl] at hsame
    split at hsame
    case isTrue => cases hsame
    case isFalse =>
      rw [Except.ok.injEq, hdigest] at hsame
      -- but the brief that is stored has been bound to the policy
      have hbinding := binding_of_briefBytes (Platform.verbatim_injective hsame)
      rw [hunbound, hbrief] at hbinding
      cases hbinding

end Quinte.Contest
