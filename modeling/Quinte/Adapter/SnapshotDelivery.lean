import Mathlib
import Quinte.Finance.Utf8
import Quinte.Framework.JsonAccess
import Quinte.Seat.TornAppend
import Quinte.Wire.Carriers

/-! # The delivery of snapshot files

    A seat gets the files of the snapshot in its prompt
    (`inline_snapshot_files`) or as parts of a message (`build`, for `a2a`).
    The prompt says which files it leaves out; the parts do not.

    * `run_inv`: what the loop over the entries has done, and said;
    * `inlineSnapshotFiles_complete`: no file is missing in the prompt without a word;
    * `delivery_iff`: when that holds of both carriers.
-/

namespace Quinte.Adapter

open Finance (Bytes Platform utf8 fromUtf8)
open Json (Text)
open Wire (textOf textArray)

/-- `manifest.get("entries").and_then(Value::as_array)`. -/
def entriesOf (manifest : Json) : List Json := ((manifest.get "entries").bind Json.asArr).getD []

/-! ### The prompt -/

/-- `FILE_CAP`. -/
def fileCap : Nat := 16 * 1024

/-- `BUDGET`. -/
def budget : Nat := 64 * 1024

/-- The state of the loop of `inline_snapshot_files`. -/
structure Inlining where
  out : String
  used : Nat
  skipped : List String
  deriving DecidableEq, Repr

def Inlining.skip (s : Inlining) (snapshotRef reason : String) : Inlining :=
  { s with skipped := s.skipped ++ [snapshotRef ++ " (" ++ reason ++ ")"] }

def fileBlock (snapshotRef : String) (text : Text) : String :=
  snapshotRef ++ " (authoritative file content):\n" ++ String.ofList text ++ "\n"

section code

variable (readFile : String → Option Bytes)

/-- The loop of `inline_snapshot_files`, once. What `fs::read` gives for a path below
    `input/snapshot` is `readFile`. -/
def inlineEntry (s : Inlining) (entry : Json) : Inlining :=
  match textOf entry "snapshot_ref" with
  | none => s
  | some snapshotRef => match stripPrefix "snapshot://" snapshotRef with
    | none => s
    | some rel => match readFile rel with
      | none => s.skip snapshotRef "unreadable"
      | some bytes =>
        if fileCap < bytes.length then
          s.skip snapshotRef
            (toString bytes.length ++ " bytes exceeds " ++ toString fileCap ++ " cap")
        else match fromUtf8 bytes with
          | none => s.skip snapshotRef "binary, not inlined"
          | some text =>
            if budget < s.used + (utf8 text).length then s.skip snapshotRef "budget exhausted"
            else { s with
              out := s.out ++ fileBlock snapshotRef text
              used := s.used + (utf8 text).length }

/-- The text of the prompt, and what it says of the files that it leaves out. -/
def promptOf (out : String) (skipped : List String) : String :=
  (if out = "" then "(no snapshot file content beyond the manifest entries above)" else out)
    ++ if skipped = [] then ""
      else "\n[snapshot files not inlined: " ++ ", ".intercalate skipped ++ "]"

/-- `inline_snapshot_files`, of a manifest that was read. -/
def inlineSnapshotFiles (manifest : Json) : String :=
  let s := (entriesOf manifest).foldl (inlineEntry readFile) ⟨"", 0, []⟩
  promptOf s.out s.skipped

/-! ### The parts -/

def messagePart (data : Json) (filename : String) : Json :=
  .obj [("data", data), ("filename", .str filename), ("mediaType", .str "application/json")]

variable (P : Platform)

/-- The value of a file, as `serde_json::from_slice` reads it. -/
def fileValue (rel : String) : Option Json := do
  let bytes ← readFile rel
  let text ← fromUtf8 bytes
  P.json.read text

/-- The loop of `build` over the entries, once: the part it adds, if it adds one. -/
def snapshotPart (entry : Json) : Option Json := do
  let snapshotRef ← textOf entry "snapshot_ref"
  let rel ← stripPrefix "snapshot://" snapshotRef
  let data ← fileValue readFile P rel
  return messagePart data ("snapshot-" ++ rel)

/-- The parts of the message that `build` makes for an `a2a` route. -/
def a2aParts (packet manifest : Json) : List Json :=
  [messagePart packet "packet.json", messagePart manifest "snapshot-manifest.json"]
    ++ (entriesOf manifest).filterMap (snapshotPart readFile P)

/-! ### The contract -/

/-- A declaration says of a file that it was skipped, and why. -/
def Declared (skipped : List String) (snapshotRef : String) : Prop :=
  ∃ reason, snapshotRef ++ " (" ++ reason ++ ")" ∈ skipped

/-- A text that stands in the prompt is a file's whole content, within its cap. -/
structure Whole (file : String × Text) : Prop where
  content : ∃ rel, file.1 = "snapshot://" ++ rel ∧ readFile rel = some (utf8 file.2)
  cap : (utf8 file.2).length ≤ fileCap

def storedBytes (files : List (String × Text)) : Nat :=
  (files.map fun file => (utf8 file.2).length).sum

def blocks (files : List (String × Text)) : String :=
  String.join (files.map fun file => fileBlock file.1 file.2)

/-- What a prompt should be: whole files within the budget, and a declaration
    that names each of the other ones. -/
def PromptComplete (manifest : Json) (prompt : String) : Prop :=
  ∃ (files : List (String × Text)) (skipped : List String),
    prompt = promptOf (blocks files) skipped
      ∧ (∀ file ∈ files, Whole readFile file)
      ∧ storedBytes files ≤ budget
      ∧ ∀ entry ∈ entriesOf manifest, ∃ snapshotRef, textOf entry "snapshot_ref" = some snapshotRef
        ∧ ((∃ text, (snapshotRef, text) ∈ files) ∨ Declared skipped snapshotRef)

/-- The part of a file. -/
def FilePart (rel : String) (part : Json) : Prop :=
  ∃ data, fileValue readFile P rel = some data ∧ part = messagePart data ("snapshot-" ++ rel)

/-- What a message should be: a part for each file, or some other part, beyond
    the packet, the manifest and the files, that could declare what is missing. -/
def MessageComplete (packet manifest : Json) (parts : List Json) : Prop :=
  ∀ entry ∈ entriesOf manifest, ∃ snapshotRef, textOf entry "snapshot_ref" = some snapshotRef
    ∧ ((∃ rel part, snapshotRef = "snapshot://" ++ rel ∧ FilePart readFile P rel part
        ∧ part ∈ parts)
      ∨ ∃ part ∈ parts, part ≠ messagePart packet "packet.json"
        ∧ part ≠ messagePart manifest "snapshot-manifest.json"
        ∧ ∀ rel, ¬ FilePart readFile P rel part)

/-- An entry as the manifest of a run has them. -/
def Located (entry : Json) : Prop :=
  ∃ rel, textOf entry "snapshot_ref" = some ("snapshot://" ++ rel)

/-- An entry of a file that can be read, and is a JSON text. -/
def JsonFile (entry : Json) : Prop :=
  ∃ rel data, textOf entry "snapshot_ref" = some ("snapshot://" ++ rel)
    ∧ fileValue readFile P rel = some data

end code

/-! ### The loop of the prompt -/

section loop

variable {readFile : String → Option Bytes} {s : Inlining} {done : List Json} {entry : Json}

/-- The loop has put whole files into the prompt and named the other ones. -/
structure Accounted (readFile : String → Option Bytes) (s : Inlining) (done : List Json)
    (files : List (String × Text)) : Prop where
  out : s.out = blocks files
  used : s.used = storedBytes files
  whole : ∀ file ∈ files, Whole readFile file
  budget : storedBytes files ≤ budget
  entries : ∀ entry ∈ done, ∀ snapshotRef, textOf entry "snapshot_ref" = some snapshotRef →
    Located entry → (∃ text, (snapshotRef, text) ∈ files) ∨ Declared s.skipped snapshotRef

theorem Declared.mono {skipped more : List String} {snapshotRef : String}
    (h : Declared skipped snapshotRef) : Declared (skipped ++ more) snapshotRef := by
  obtain ⟨reason, hmem⟩ := h
  exact ⟨reason, List.mem_append_left _ hmem⟩

theorem Accounted.skip {files : List (String × Text)} (h : Accounted readFile s done files)
    {snapshotRef : String} (href : textOf entry "snapshot_ref" = some snapshotRef)
    (reason : String) :
    Accounted readFile (s.skip snapshotRef reason) (done ++ [entry]) files := by
  refine ⟨h.out, h.used, h.whole, h.budget, fun e he other hother hlocated => ?_⟩
  rcases List.mem_append.mp he with hold | hnew
  · rcases h.entries e hold other hother hlocated with hfile | hdeclared
    · exact Or.inl hfile
    · exact Or.inr hdeclared.mono
  · obtain rfl := List.mem_singleton.mp hnew
    obtain rfl := Option.some.inj (href.symm.trans hother)
    exact Or.inr ⟨reason, List.mem_append_right _ (List.mem_singleton_self _)⟩

theorem blocks_concat (files : List (String × Text)) (file : String × Text) :
    blocks (files ++ [file]) = blocks files ++ fileBlock file.1 file.2 := by
  simp [blocks]

theorem storedBytes_concat (files : List (String × Text)) (file : String × Text) :
    storedBytes (files ++ [file]) = storedBytes files + (utf8 file.2).length := by
  simp [storedBytes]

/-- An entry that is none of a manifest's asks for nothing. -/
theorem Accounted.pass {files : List (String × Text)} (h : Accounted readFile s done files)
    (hforeign : ¬ Located entry) : Accounted readFile s (done ++ [entry]) files := by
  refine ⟨h.out, h.used, h.whole, h.budget, fun e he other hother hlocated => ?_⟩
  rcases List.mem_append.mp he with hold | hnew
  · exact h.entries e hold other hother hlocated
  · obtain rfl := List.mem_singleton.mp hnew
    exact absurd hlocated hforeign

/-- A whole file for which there is room is put in. -/
theorem Accounted.store {files : List (String × Text)} (h : Accounted readFile s done files)
    {snapshotRef : String} (href : textOf entry "snapshot_ref" = some snapshotRef) {text : Text}
    (hwhole : Whole readFile (snapshotRef, text))
    (hroom : s.used + (utf8 text).length ≤ Adapter.budget) :
    Accounted readFile
      { s with out := s.out ++ fileBlock snapshotRef text, used := s.used + (utf8 text).length }
      (done ++ [entry]) (files ++ [(snapshotRef, text)]) := by
  rw [h.used] at hroom
  refine ⟨?_, ?_, ?_, ?_, ?_⟩
  · rw [blocks_concat, h.out]
  · rw [storedBytes_concat, h.used]
  · intro file hfile
    rcases List.mem_append.mp hfile with hold | hnew
    · exact h.whole file hold
    · exact List.mem_singleton.mp hnew ▸ hwhole
  · rw [storedBytes_concat]
    exact hroom
  · intro e he other hother hlocated
    rcases List.mem_append.mp he with hold | hnew
    · rcases h.entries e hold other hother hlocated with ⟨t, hmem⟩ | hdeclared
      · exact Or.inl ⟨t, List.mem_append_left _ hmem⟩
      · exact Or.inr hdeclared
    · obtain rfl := List.mem_singleton.mp hnew
      obtain rfl := Option.some.inj (href.symm.trans hother)
      exact Or.inl ⟨text, List.mem_append_right _ (List.mem_singleton_self _)⟩

/-- **One entry**: its file is put in whole, or it is named. -/
theorem Accounted.step {files : List (String × Text)} (h : Accounted readFile s done files)
    (entry : Json) :
    ∃ files', Accounted readFile (inlineEntry readFile s entry) (done ++ [entry]) files' := by
  unfold inlineEntry
  split
  case h_1 hnone =>
    refine ⟨files, h.pass ?_⟩
    rintro ⟨rel, hrel⟩
    rw [hnone] at hrel
    cases hrel
  case h_2 snapshotRef href =>
    split
    case h_1 hnone =>
      -- a reference without the scheme is not located
      refine ⟨files, h.pass ?_⟩
      rintro ⟨rel, hrel⟩
      obtain rfl := Option.some.inj (href.symm.trans hrel)
      rw [stripPrefix_append] at hnone
      cases hnone
    case h_2 rel hrel =>
      obtain rfl := stripPrefix_eq_some.mp hrel
      split
      case h_1 => exact ⟨files, h.skip href _⟩
      case h_2 bytes hread =>
        split
        case isTrue => exact ⟨files, h.skip href _⟩
        case isFalse hcap =>
          split
          case h_1 => exact ⟨files, h.skip href _⟩
          case h_2 text htext =>
            split
            case isTrue => exact ⟨files, h.skip href _⟩
            case isFalse hbudget =>
              have hbytes := Finance.utf8_of_fromUtf8 htext
              have hwhole : Whole readFile ("snapshot://" ++ rel, text) := by
                refine ⟨⟨rel, rfl, ?_⟩, ?_⟩
                · rw [hread, hbytes]
                · show (utf8 text).length ≤ fileCap
                  rw [hbytes]
                  omega
              exact ⟨_, h.store href hwhole (by omega)⟩

/-- **The loop**: every entry that was met is accounted for. -/
theorem run_inv {files : List (String × Text)} (h : Accounted readFile s done files)
    (entries : List Json) :
    ∃ files', Accounted readFile (entries.foldl (inlineEntry readFile) s) (done ++ entries)
      files' := by
  induction entries generalizing s done files with
  | nil => exact ⟨files, by simpa using h⟩
  | cons entry entries ih =>
    obtain ⟨files', hnext⟩ := h.step entry
    obtain ⟨final, hfinal⟩ := ih hnext
    exact ⟨final, by simpa using hfinal⟩

/-- **The prompt is never silent** about an entry as manifests have them. -/
theorem inlineSnapshotFiles_complete {manifest : Json}
    (hlocated : ∀ entry ∈ entriesOf manifest, Located entry) :
    PromptComplete readFile manifest (inlineSnapshotFiles readFile manifest) := by
  have hstart : Accounted readFile ⟨"", 0, []⟩ [] [] :=
    ⟨rfl, rfl, by simp, Nat.zero_le _, by simp⟩
  obtain ⟨files, h⟩ := run_inv hstart (entriesOf manifest)
  rw [List.nil_append] at h
  refine ⟨files, ((entriesOf manifest).foldl (inlineEntry readFile) ⟨"", 0, []⟩).skipped, ?_,
    h.whole, h.budget, fun entry he => ?_⟩
  · unfold inlineSnapshotFiles
    rw [← h.out]
  · obtain ⟨rel, href⟩ := hlocated entry he
    exact ⟨_, href, h.entries entry he _ href ⟨rel, href⟩⟩

end loop

/-! ### The parts of a message -/

section parts

variable {readFile : String → Option Bytes} {P : Platform} {packet manifest : Json}

theorem snapshotPart_eq_some {entry part : Json} : snapshotPart readFile P entry = some part ↔
    ∃ rel, textOf entry "snapshot_ref" = some ("snapshot://" ++ rel)
      ∧ FilePart readFile P rel part := by
  unfold snapshotPart FilePart
  simp only [Option.bind_eq_bind, Option.bind_eq_some_iff, Option.pure_def, Option.some.injEq,
    stripPrefix_eq_some]
  constructor
  · rintro ⟨_, href, rel, rfl, data, hdata, rfl⟩
    exact ⟨rel, href, data, hdata, rfl⟩
  · rintro ⟨rel, href, data, hdata, rfl⟩
    exact ⟨_, href, rel, rfl, data, hdata, rfl⟩

theorem mem_a2aParts {part : Json} : part ∈ a2aParts readFile P packet manifest ↔
    part = messagePart packet "packet.json" ∨ part = messagePart manifest "snapshot-manifest.json"
      ∨ ∃ entry ∈ entriesOf manifest, ∃ rel,
        textOf entry "snapshot_ref" = some ("snapshot://" ++ rel)
          ∧ FilePart readFile P rel part := by
  unfold a2aParts
  simp only [List.mem_append, List.mem_cons, List.not_mem_nil, or_false, List.mem_filterMap,
    snapshotPart_eq_some, or_assoc]

/-- **A message is silent** about a file exactly when it cannot be read as JSON. -/
theorem messageComplete_iff :
    MessageComplete readFile P packet manifest (a2aParts readFile P packet manifest) ↔
      ∀ entry ∈ entriesOf manifest, JsonFile readFile P entry := by
  refine forall₂_congr fun entry he => ⟨?_, ?_⟩
  · rintro ⟨snapshotRef, href, hcase⟩
    rcases hcase with ⟨rel, part, rfl, ⟨data, hdata, -⟩, -⟩ |
      ⟨part, hpart, hpacket, hmanifest, hother⟩
    · exact ⟨rel, data, href, hdata⟩
    · -- no part is added beyond those three kinds
      rcases mem_a2aParts.mp hpart with h | h | ⟨_, _, rel, _, hfile⟩
      · exact absurd h hpacket
      · exact absurd h hmanifest
      · exact absurd hfile (hother rel)
  · rintro ⟨rel, data, href, hdata⟩
    refine ⟨_, href, Or.inl ⟨rel, _, rfl, ⟨data, hdata, rfl⟩, ?_⟩⟩
    exact mem_a2aParts.mpr (Or.inr (Or.inr ⟨entry, he, rel, href, data, hdata, rfl⟩))

end parts

/-! ### The theorem -/

/-- **The delivery of snapshot files**: no file is missing without a word on
    either carrier exactly when each entry is that of a file that can be read as
    JSON. The prompt alone is never silent about an entry as manifests have them. -/
theorem delivery_iff (readFile : String → Option Bytes) (P : Platform) (packet manifest : Json) :
    (PromptComplete readFile manifest (inlineSnapshotFiles readFile manifest)
        ∧ MessageComplete readFile P packet manifest (a2aParts readFile P packet manifest) ↔
      ∀ entry ∈ entriesOf manifest, JsonFile readFile P entry)
    ∧ ((∀ entry ∈ entriesOf manifest, Located entry) →
      PromptComplete readFile manifest (inlineSnapshotFiles readFile manifest)) := by
  refine ⟨⟨fun h => messageComplete_iff.mp h.2, fun h => ⟨?_, messageComplete_iff.mpr h⟩⟩,
    inlineSnapshotFiles_complete⟩
  apply inlineSnapshotFiles_complete
  intro entry he
  obtain ⟨rel, data, href, -⟩ := h entry he
  exact ⟨rel, href⟩

/-- A snapshot of one file, which is not JSON. -/
def notesManifest : Json :=
  .obj [("entries", .arr [.obj [("snapshot_ref", .str "snapshot://root-0/notes.txt")]])]

/-- A text that is not JSON is in the prompt, and no part of the message tells of it. -/
theorem delivery_silent : ¬ ∀ (readFile : String → Option Bytes) (P : Platform)
    (packet manifest : Json), (∀ entry ∈ entriesOf manifest, Located entry) →
    PromptComplete readFile manifest (inlineSnapshotFiles readFile manifest)
      ∧ MessageComplete readFile P packet manifest (a2aParts readFile P packet manifest) := by
  intro hall
  have hlocated : ∀ entry ∈ entriesOf notesManifest, Located entry := by
    intro entry he
    obtain rfl := List.mem_singleton.mp he
    exact ⟨"root-0/notes.txt", rfl⟩
  obtain ⟨-, hmessage⟩ := hall (fun _ => some (utf8 "see the log".toList)) Platform.verbatim .null
    notesManifest hlocated
  obtain ⟨rel, data, -, hdata⟩ := messageComplete_iff.mp hmessage _ (List.mem_singleton_self _)
  have hread : Platform.verbatim.json.read "see the log".toList = none := by decide +kernel
  have hnone : fileValue (fun _ => some (utf8 "see the log".toList)) Platform.verbatim rel
      = none := by
    unfold fileValue
    rw [Option.bind_eq_bind, Option.bind_some, Finance.fromUtf8_utf8, Option.bind_eq_bind,
      Option.bind_some, hread]
  rw [hnone] at hdata
  cases hdata

end Quinte.Adapter
