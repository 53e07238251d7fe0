import Mathlib
import Quinte.Finance.Acceptance
import Quinte.Model.Types

/-! # The input receipt of R3 as a file

    `ensure_r3_input_receipt` and `verify_r3_input_receipt` over the bytes of
    the run directory.  A path is relative to it.

    * `verifyPhaseBindings_ok`: a phase verifies exactly when the artifacts of
      its lanes have the bytes that were bound;
    * `verifyIssued_ok`: what a receipt that was issued says of the files.
-/

namespace Quinte.Evidence

open Json (Codec Fields Schema)
open Json.Codec (string list)
open Json.Schema
open Finance (Bytes Platform fromUtf8 utf8 toValue toVecPretty fromValue fromValue_toValue)
open Policy (require require_ok bind_ok bind_unit_ok)

/-! ### The documents -/

structure ArtifactBinding where
  artifactRef : String
  sha256 : String
  deriving DecidableEq, Repr, Inhabited

structure LaneArtifactBinding where
  partyId : String
  routeId : String
  artifactRef : String
  sha256 : String
  deriving DecidableEq, Repr, Inhabited

structure R3InputReceipt where
  inputReceiptVersion : String
  runId : String
  issuedAt : String
  r1 : List LaneArtifactBinding
  r2 : List LaneArtifactBinding
  evidencePacket : ArtifactBinding
  ccResponse : ArtifactBinding
  deriving DecidableEq, Repr, Inhabited

/-- What the receipt needs of `RunManifest`. -/
structure Manifest where
  runId : String
  r3InputReceipt : Option ArtifactBinding
  deriving DecidableEq, Repr, Inhabited

namespace ArtifactBinding

def codec : Codec ArtifactBinding :=
  .record (Fields.start ArtifactBinding mk
    |>.required "artifact_ref" string (·.artifactRef)
    |>.required "sha256" string (·.sha256))
  (by decide) fun _ => rfl

end ArtifactBinding

namespace LaneArtifactBinding

def codec : Codec LaneArtifactBinding :=
  .record (Fields.start LaneArtifactBinding mk
    |>.required "party_id" string (·.partyId)
    |>.required "route_id" string (·.routeId)
    |>.required "artifact_ref" string (·.artifactRef)
    |>.required "sha256" string (·.sha256))
  (by decide) fun _ => rfl

end LaneArtifactBinding

namespace R3InputReceipt

def codec : Codec R3InputReceipt :=
  .record (Fields.start R3InputReceipt mk
    |>.required "input_receipt_version" string (·.inputReceiptVersion)
    |>.required "run_id" string (·.runId)
    |>.required "issued_at" string (·.issuedAt)
    |>.required "r1" (list LaneArtifactBinding.codec) (·.r1)
    |>.required "r2" (list LaneArtifactBinding.codec) (·.r2)
    |>.required "evidence_packet" ArtifactBinding.codec (·.evidencePacket)
    |>.required "cc_response" ArtifactBinding.codec (·.ccResponse))
  (by decide) fun _ => rfl

end R3InputReceipt

def artifactSchema : Schema :=
  record [("artifact_ref", nonempty), ("sha256", Finance.Schemas.digest)] []

def phaseItemSchema : Schema :=
  record [("party_id", oneOfTexts ["Party A", "Party B", "Party C", "Party D", "Party E"]),
    ("route_id", nonempty), ("artifact_ref", nonempty), ("sha256", Finance.Schemas.digest)] []

/-- `R3_INPUT_RECEIPT_SCHEMA`. The validator takes a format for a remark. -/
def r3InputReceiptSchema : Schema :=
  record [("input_receipt_version", oneOfTexts ["1.0"]), ("run_id", nonempty), ("issued_at", text),
    ("r1", both (items phaseItemSchema) (count 5 (some 5))),
    ("r2", both (items phaseItemSchema) (count 0 (some 5))),
    ("evidence_packet", artifactSchema), ("cc_response", artifactSchema)] []

/-! ### Files -/

/-- The files of the run directory. -/
abbrev Files := String → Option Bytes

def Files.write (files : Files) (path : String) (bytes : Bytes) : Files :=
  Function.update files path (some bytes)

@[simp] theorem Files.write_self (files : Files) (path : String) (bytes : Bytes) :
    files.write path bytes path = some bytes := Function.update_self ..

@[simp] theorem Files.write_of_ne (files : Files) {path other : String} (bytes : Bytes)
    (h : other ≠ path) : files.write path bytes other = files other := Function.update_of_ne h ..

/-- `sha256_file`. -/
def sha256File (P : Platform) (files : Files) (path : String) : Except String String :=
  match files path with
  | none => .error ("cannot read " ++ path)
  | some bytes => .ok (P.sha256 bytes)

/-- The bytes that `write_json` writes. -/
def jsonBytes {α : Type} (C : Codec α) (a : α) : Bytes := toVecPretty C a ++ [10]

/-- `read_json` as a value, of a file that names no member twice. -/
def readJson (P : Platform) (files : Files) (path : String) : Except String Json :=
  match files path with
  | none => .error ("cannot read " ++ path)
  | some bytes => match fromUtf8 bytes with
    | none => .error (path ++ " is not strict UTF-8")
    | some text => match P.json.read text with
      | none => .error ("invalid JSON syntax in " ++ path)
      | some v => .ok v.sorted

/-- `validate_file`. -/
def validateFile {α : Type} (P : Platform) (C : Codec α) (schema : Schema) (files : Files)
    (path : String) : Except String α := do
  let value ← readJson P files path
  require (schema.accepts value) "schema validation failed"
  fromValue C value

/-! ### Verification -/

/-- The reference of an accepted lane. -/
def acceptedRef (phase routeId : String) : String :=
  "lanes/" ++ phase ++ "/" ++ routeId ++ "/accepted.json"

/-- `verify_artifact_binding`. -/
def verifyArtifactBinding (P : Platform) (binding : ArtifactBinding) (expectedRef : String)
    (files : Files) : Except String Unit := do
  require (binding.artifactRef == expectedRef)
    ("R3 artifact binding changed: expected " ++ expectedRef)
  let actual ← sha256File P files expectedRef
  require (actual == binding.sha256) ("R3 accepted artifact changed: " ++ expectedRef)

/-- One round of the loop over the roster in `verify_phase_bindings`. -/
def verifyRoute (P : Platform) (bindings : List LaneArtifactBinding) (phase : String)
    (files : Files) (route : RoutePolicy) : Except String Unit :=
  match bindings.find? fun binding => binding.routeId = route.routeId with
  | none => .error (phase ++ " input receipt is missing " ++ route.routeId)
  | some binding => do
      let expectedRef := acceptedRef phase route.routeId
      require (binding.partyId == route.partyId && binding.artifactRef == expectedRef)
        (phase ++ " input receipt route binding changed for " ++ route.routeId)
      verifyArtifactBinding P { artifactRef := binding.artifactRef, sha256 := binding.sha256 }
        expectedRef files

/-- `verify_phase_bindings`. -/
def verifyPhaseBindings (P : Platform) (bindings : List LaneArtifactBinding) (phase : String)
    (policy : Policy) (files : Files) : Except String Unit :=
  if phase = "R2" ∧ (files "r2/skipped.json").isSome then
    require bindings.isEmpty "R2 was skipped but the input receipt still lists R2 lanes"
  else do
    require (bindings.length == policy.roster.length)
      (phase ++ " input receipt has the wrong lane count")
    policy.roster.forM (verifyRoute P bindings phase files)

/-- `verify_r3_input_receipt`. -/
def verifyR3InputReceipt (P : Platform) (manifest : Manifest) (policy : Policy) (files : Files) :
    Except String Unit :=
  match manifest.r3InputReceipt with
  | none => .error "R3 input receipt binding is missing"
  | some binding => do
      require (binding.artifactRef == "r3/input-receipt.json")
        "R3 input receipt has an invalid artifact reference"
      let actual ← sha256File P files binding.artifactRef
      require (actual == binding.sha256) "R3 input receipt changed after scheduler acceptance"
      let receipt ← validateFile P R3InputReceipt.codec r3InputReceiptSchema files
        binding.artifactRef
      require (receipt.runId == manifest.runId) "R3 input receipt belongs to another run"
      verifyPhaseBindings P receipt.r1 "R1" policy files
      verifyPhaseBindings P receipt.r2 "R2" policy files
      verifyArtifactBinding P receipt.evidencePacket "r3/evidence-packet.json" files
      verifyArtifactBinding P receipt.ccResponse "r3/cc-response.json" files

/-! ### Issue -/

/-- `phase_artifact_bindings`. -/
def phaseArtifactBindings (P : Platform) (lanes : List LaneAccepted) (files : Files) :
    Except String (List LaneArtifactBinding) :=
  lanes.mapM fun lane => do
    let sha256 ← sha256File P files lane.artifactRef
    return {
      partyId := lane.partyId
      routeId := lane.routeId
      artifactRef := lane.artifactRef
      sha256 := sha256 }

/-- `artifact_binding`. -/
def artifactBinding (P : Platform) (path : String) (files : Files) :
    Except String ArtifactBinding := do
  let sha256 ← sha256File P files path
  return { artifactRef := path, sha256 := sha256 }

/-- The receipt of `ensure_r3_input_receipt`, which its schema accepts. -/
def buildReceipt (P : Platform) (manifest : Manifest) (r1 r2 : List LaneAccepted)
    (evidencePacketPath ccPath now : String) (files : Files) : Except String R3InputReceipt := do
  let r1 ← phaseArtifactBindings P r1 files
  let r2 ← phaseArtifactBindings P r2 files
  let evidencePacket ← artifactBinding P evidencePacketPath files
  let ccResponse ← artifactBinding P ccPath files
  let receipt : R3InputReceipt := {
    inputReceiptVersion := "1.0"
    runId := manifest.runId
    issuedAt := now
    r1 := r1
    r2 := r2
    evidencePacket := evidencePacket
    ccResponse := ccResponse }
  require (r3InputReceiptSchema.accepts (toValue R3InputReceipt.codec receipt))
    "schema validation failed"
  return receipt

/-- `ensure_r3_input_receipt` at the time `now`: its result, and the manifest and
    the files as it leaves them. -/
def ensureR3InputReceipt (P : Platform) (manifest : Manifest) (policy : Policy)
    (r1 r2 : List LaneAccepted) (evidencePacketPath ccPath now : String) (files : Files) :
    Except String Unit × Manifest × Files :=
  if manifest.r3InputReceipt.isSome then
    (verifyR3InputReceipt P manifest policy files, manifest, files)
  else match buildReceipt P manifest r1 r2 evidencePacketPath ccPath now files with
    | .error message => (.error message, manifest, files)
    | .ok receipt =>
        let bytes := jsonBytes R3InputReceipt.codec receipt
        let written := files.write "r3/input-receipt.json" bytes
        let bound := { manifest with
          r3InputReceipt :=
            some { artifactRef := "r3/input-receipt.json", sha256 := P.sha256 bytes } }
        (verifyR3InputReceipt P bound policy written, bound, written)

/-! ### What the checks say -/

section checks

variable {P : Platform} {files later : Files} {policy : Policy} {phase : String}

theorem sha256File_ok {path digest : String} :
    sha256File P files path = .ok digest ↔
      ∃ bytes, files path = some bytes ∧ P.sha256 bytes = digest := by
  unfold sha256File
  cases files path with
  | none => simp
  | some bytes => simp

/-- Digests tell files apart. -/
theorem same_of_sha256File (hinjective : Function.Injective P.sha256) {path digest : String}
    (h : sha256File P files path = .ok digest) (h' : sha256File P later path = .ok digest) :
    later path = files path := by
  obtain ⟨bytes, hbytes, hdigest⟩ := sha256File_ok.mp h
  obtain ⟨bytes', hbytes', hdigest'⟩ := sha256File_ok.mp h'
  rw [hbytes, hbytes', hinjective (hdigest'.trans hdigest.symm)]

theorem sha256File_congr {path : String} (h : later path = files path) :
    sha256File P later path = sha256File P files path := by
  unfold sha256File
  rw [h]

theorem verifyArtifactBinding_ok {binding : ArtifactBinding} {expectedRef : String} :
    verifyArtifactBinding P binding expectedRef files = .ok () ↔
      binding.artifactRef = expectedRef
        ∧ sha256File P files expectedRef = .ok binding.sha256 := by
  unfold verifyArtifactBinding
  rw [bind_unit_ok, require_ok, beq_iff_eq]
  apply and_congr_right
  intro _
  rw [bind_ok]
  constructor
  · intro ⟨actual, hactual, hsame⟩
    rw [require_ok, beq_iff_eq] at hsame
    exact hsame ▸ hactual
  · intro hactual
    exact ⟨_, hactual, by simp⟩

/-! #### The lanes of a phase -/

/-- The binding of a lane. -/
def Binds (P : Platform) (files : Files) (lane : LaneAccepted) (binding : LaneArtifactBinding) :
    Prop :=
  binding.partyId = lane.partyId ∧ binding.routeId = lane.routeId
    ∧ binding.artifactRef = lane.artifactRef
    ∧ sha256File P files lane.artifactRef = .ok binding.sha256

theorem phaseArtifactBindings_ok {lanes : List LaneAccepted} {bindings : List LaneArtifactBinding}
    (h : phaseArtifactBindings P lanes files = .ok bindings) :
    List.Forall₂ (Binds P files) lanes bindings := by
  unfold phaseArtifactBindings at h
  induction lanes generalizing bindings with
  | nil =>
    cases h
    exact List.Forall₂.nil
  | cons lane lanes ih =>
    rw [List.mapM_cons] at h
    obtain ⟨binding, hbinding, h⟩ := bind_ok.mp h
    obtain ⟨rest, hrest, h⟩ := bind_ok.mp h
    cases h
    obtain ⟨digest, hdigest, hbinding⟩ := bind_ok.mp hbinding
    cases hbinding
    exact List.Forall₂.cons ⟨rfl, rfl, rfl, hdigest⟩ (ih hrest)

/-- The lanes that a phase has accepted, in any order: one of each route. -/
def Delivered (policy : Policy) (phase : String) (lanes : List LaneAccepted) : Prop :=
  (lanes.map fun lane => (lane.partyId, lane.routeId, lane.artifactRef)).Perm
    (policy.roster.map fun route =>
      (route.partyId, route.routeId, acceptedRef phase route.routeId))

theorem Delivered.route {lanes : List LaneAccepted} (h : Delivered policy phase lanes)
    {lane : LaneAccepted} (hlane : lane ∈ lanes) : ∃ route ∈ policy.roster,
      route.partyId = lane.partyId ∧ route.routeId = lane.routeId
        ∧ acceptedRef phase route.routeId = lane.artifactRef := by
  have hmem := h.mem_iff.mp (List.mem_map_of_mem hlane)
  obtain ⟨route, hroute, heq⟩ := List.mem_map.mp hmem
  simp only [Prod.mk.injEq] at heq
  exact ⟨route, hroute, heq⟩

theorem Delivered.lane {lanes : List LaneAccepted} (h : Delivered policy phase lanes)
    {route : RoutePolicy} (hroute : route ∈ policy.roster) : ∃ lane ∈ lanes,
      route.partyId = lane.partyId ∧ route.routeId = lane.routeId
        ∧ acceptedRef phase route.routeId = lane.artifactRef := by
  have hmem := h.mem_iff.mpr (List.mem_map_of_mem hroute)
  obtain ⟨lane, hlane, heq⟩ := List.mem_map.mp hmem
  simp only [Prod.mk.injEq] at heq
  exact ⟨lane, hlane, heq.1.symm, heq.2.1.symm, heq.2.2.symm⟩

theorem Delivered.length {lanes : List LaneAccepted} (h : Delivered policy phase lanes) :
    lanes.length = policy.roster.length := by
  simpa using h.length_eq

theorem Delivered.nodup {lanes : List LaneAccepted} (h : Delivered policy phase lanes)
    (hroutes : (policy.roster.map (·.routeId)).Nodup) : (lanes.map (·.routeId)).Nodup := by
  have hids := h.map fun ids => ids.2.1
  simp only [List.map_map, Function.comp_def] at hids
  exact hids.nodup_iff.mpr hroutes

/-- Among different names, a search finds the one that is asked for. -/
theorem find?_routeId {bindings : List LaneArtifactBinding}
    (hnodup : (bindings.map (·.routeId)).Nodup) {binding : LaneArtifactBinding}
    (hmem : binding ∈ bindings) {routeId : String} (hroute : binding.routeId = routeId) :
    bindings.find? (fun other => other.routeId = routeId) = some binding := by
  induction bindings with
  | nil => cases hmem
  | cons first bindings ih =>
    rw [List.map_cons, List.nodup_cons] at hnodup
    rcases List.mem_cons.mp hmem with rfl | hrest
    · rw [List.find?_cons_of_pos (by simpa using hroute)]
    · have hne : first.routeId ≠ routeId := by
        intro heq
        exact hnodup.1 (heq ▸ hroute ▸ List.mem_map_of_mem hrest)
      rw [List.find?_cons_of_neg (by simpa using hne)]
      exact ih hnodup.2 hrest

theorem map_routeId_of_binds {lanes : List LaneAccepted} {bindings : List LaneArtifactBinding}
    (h : List.Forall₂ (Binds P files) lanes bindings) :
    bindings.map (·.routeId) = lanes.map (·.routeId) := by
  induction h with
  | nil => rfl
  | cons hbinds _ ih => rw [List.map_cons, List.map_cons, hbinds.2.1, ih]

theorem exists_binding {lanes : List LaneAccepted} {bindings : List LaneArtifactBinding}
    (h : List.Forall₂ (Binds P files) lanes bindings) {lane : LaneAccepted}
    (hlane : lane ∈ lanes) :
    ∃ binding ∈ bindings, Binds P files lane binding := by
  induction h with
  | nil => cases hlane
  | cons hbinds _ ih =>
    rcases List.mem_cons.mp hlane with rfl | hrest
    · exact ⟨_, List.mem_cons_self, hbinds⟩
    · obtain ⟨binding, hmem, hbinding⟩ := ih hrest
      exact ⟨binding, List.mem_cons_of_mem _ hmem, hbinding⟩

/-- **The check of one route** compares the artifact with what was bound. -/
theorem verifyRoute_ok {bindings : List LaneArtifactBinding}
    (hnodup : (bindings.map (·.routeId)).Nodup) {lane : LaneAccepted}
    {binding : LaneArtifactBinding} (hmem : binding ∈ bindings)
    (hbinds : Binds P files lane binding) {route : RoutePolicy} (hparty : route.partyId = lane.partyId)
    (hroute : route.routeId = lane.routeId)
    (href : acceptedRef phase route.routeId = lane.artifactRef) :
    verifyRoute P bindings phase later route = .ok () ↔
      sha256File P later lane.artifactRef = sha256File P files lane.artifactRef := by
  obtain ⟨hpartyId, hrouteId, hartifactRef, hdigest⟩ := hbinds
  unfold verifyRoute
  rw [find?_routeId hnodup hmem (hrouteId.trans hroute.symm)]
  dsimp only
  rw [bind_unit_ok, require_ok, verifyArtifactBinding_ok, href, hdigest, hpartyId, hparty,
    hartifactRef]
  simp

/-- **A phase verifies** exactly when each artifact has the bytes it had. -/
theorem verifyPhaseBindings_ok (hinjective : Function.Injective P.sha256)
    (hroutes : (policy.roster.map (·.routeId)).Nodup) {lanes : List LaneAccepted}
    {bindings : List LaneArtifactBinding} (hdelivered : Delivered policy phase lanes)
    (hbinds : List.Forall₂ (Binds P files) lanes bindings)
    (hran : ¬ (phase = "R2" ∧ (later "r2/skipped.json").isSome)) :
    verifyPhaseBindings P bindings phase policy later = .ok () ↔
      ∀ lane ∈ lanes, later lane.artifactRef = files lane.artifactRef := by
  have hnodup : (bindings.map (·.routeId)).Nodup := by
    rw [map_routeId_of_binds hbinds]
    exact hdelivered.nodup hroutes
  have hlength : bindings.length = policy.roster.length :=
    hbinds.length_eq.symm.trans hdelivered.length
  unfold verifyPhaseBindings
  rw [if_neg hran, bind_unit_ok, require_ok, Policy.forM_ok, beq_iff_eq]
  constructor
  · intro ⟨_, hverified⟩ lane hlane
    -- each lane is that of a route, and each route has its lane
    obtain ⟨route, hmem, hparty, hroute, href⟩ := hdelivered.route hlane
    obtain ⟨binding, hbinding, hbound⟩ := exists_binding hbinds hlane
    have hsame := (verifyRoute_ok hnodup hbinding hbound hparty hroute href).mp
      (hverified route hmem)
    exact same_of_sha256File hinjective hbound.2.2.2 (hsame.trans hbound.2.2.2)
  · intro hsame
    refine ⟨hlength, ?_⟩
    intro route hmem
    obtain ⟨lane, hlane, hparty, hroute, href⟩ := hdelivered.lane hmem
    obtain ⟨binding, hbinding, hbound⟩ := exists_binding hbinds hlane
    exact (verifyRoute_ok hnodup hbinding hbound hparty hroute href).mpr
      (sha256File_congr (hsame lane hlane))

/-! #### The second phase -/

/-- The two shapes of R2: it ran, or it was skipped. -/
def SecondPhase (policy : Policy) (r2 : List LaneAccepted) (files : Files) : Prop :=
  Delivered policy "R2" r2 ∧ files "r2/skipped.json" = none
    ∨ r2 = [] ∧ (files "r2/skipped.json").isSome = true

/-- R2 verifies exactly when it still has its shape, and its artifacts their bytes. -/
theorem verifySecondPhase_ok (hinjective : Function.Injective P.sha256)
    (hroster : policy.roster ≠ []) (hroutes : (policy.roster.map (·.routeId)).Nodup)
    {lanes : List LaneAccepted} {bindings : List LaneArtifactBinding}
    (hsecond : SecondPhase policy lanes files)
    (hbinds : List.Forall₂ (Binds P files) lanes bindings) :
    verifyPhaseBindings P bindings "R2" policy later = .ok () ↔
      (∀ lane ∈ lanes, later lane.artifactRef = files lane.artifactRef)
        ∧ (later "r2/skipped.json").isSome = (files "r2/skipped.json").isSome := by
  have hlength := List.length_pos_of_ne_nil hroster
  rcases hsecond with ⟨hdelivered, hran⟩ | ⟨rfl, hskipped⟩
  · have hbindings : bindings.length ≠ 0 := by
      rw [← hbinds.length_eq, hdelivered.length]
      omega
    rw [hran, Option.isSome_none, Bool.eq_false_iff, ne_eq]
    by_cases hlater : (later "r2/skipped.json").isSome = true
    · -- a skip that was added meets bindings
      have hbranch : verifyPhaseBindings P bindings "R2" policy later
          = require bindings.isEmpty
            "R2 was skipped but the input receipt still lists R2 lanes" := if_pos ⟨rfl, hlater⟩
      rw [hbranch, require_ok, List.isEmpty_iff_length_eq_zero]
      constructor
      · intro hempty
        exact absurd hempty hbindings
      · intro ⟨_, hnone⟩
        exact absurd hlater hnone
    · rw [verifyPhaseBindings_ok hinjective hroutes hdelivered hbinds fun h => hlater h.2]
      exact (and_iff_left hlater).symm
  · obtain rfl := List.forall₂_nil_left_iff.mp hbinds
    rw [hskipped]
    by_cases hlater : (later "r2/skipped.json").isSome = true
    · have hbranch : verifyPhaseBindings P [] "R2" policy later = .ok () :=
        if_pos ⟨rfl, hlater⟩
      rw [hbranch]
      simp [hlater]
    · -- without the skip, every route is missing
      have hcount : (([] : List LaneArtifactBinding).length == policy.roster.length) = false := by
        simp only [List.length_nil, beq_eq_false_iff_ne]
        omega
      unfold verifyPhaseBindings
      rw [if_neg fun h => hlater h.2, bind_unit_ok, require_ok, hcount]
      constructor
      · intro ⟨hfalse, _⟩
        cases hfalse
      · intro ⟨_, hsame⟩
        exact absurd hsame hlater

/-! ### What a receipt says -/

theorem depth_r3InputReceipt : R3InputReceipt.codec.depth ≤ 100 := by decide

/-- A receipt that was written is read back. -/
theorem validateFile_jsonBytes {receipt : R3InputReceipt} {path : String}
    (hschema : r3InputReceiptSchema.accepts (toValue R3InputReceipt.codec receipt) = true)
    (hfile : files path = some (jsonBytes R3InputReceipt.codec receipt)) :
    validateFile P R3InputReceipt.codec r3InputReceiptSchema files path = .ok receipt := by
  have hspace : ∀ c ∈ ['\n'], Json.isSpace c = true := by simp [Json.isSpace]
  have htext := Finance.fromUtf8_utf8
    (Json.write Json.pretty 0 (R3InputReceipt.codec.enc receipt) ++ ['\n'])
  rw [Finance.utf8_append] at htext
  have hread : readJson P files path = .ok (toValue R3InputReceipt.codec receipt) := by
    have hbytes : fromUtf8 (jsonBytes R3InputReceipt.codec receipt) = some _ := htext
    unfold readJson
    rw [hfile]
    dsimp only
    rw [hbytes]
    dsimp only
    rw [P.json.read_write Json.pretty _ _ ((R3InputReceipt.codec.regular receipt).mono
      (depth_r3InputReceipt.trans P.deep)) hspace]
    rfl
  unfold validateFile
  rw [hread, bind_ok]
  refine ⟨_, rfl, ?_⟩
  rw [bind_unit_ok, require_ok]
  exact ⟨hschema, fromValue_toValue receipt⟩

/-- **The check of a receipt** that was bound to a run. -/
theorem verifyR3InputReceipt_ok (hinjective : Function.Injective P.sha256)
    {receipt : R3InputReceipt} {manifest : Manifest} (hrun : receipt.runId = manifest.runId)
    (hschema : r3InputReceiptSchema.accepts (toValue R3InputReceipt.codec receipt) = true)
    (hbound : manifest.r3InputReceipt = some {
      artifactRef := "r3/input-receipt.json"
      sha256 := P.sha256 (jsonBytes R3InputReceipt.codec receipt) }) :
    verifyR3InputReceipt P manifest policy later = .ok () ↔
      later "r3/input-receipt.json" = some (jsonBytes R3InputReceipt.codec receipt)
        ∧ verifyPhaseBindings P receipt.r1 "R1" policy later = .ok ()
        ∧ verifyPhaseBindings P receipt.r2 "R2" policy later = .ok ()
        ∧ verifyArtifactBinding P receipt.evidencePacket "r3/evidence-packet.json" later = .ok ()
        ∧ verifyArtifactBinding P receipt.ccResponse "r3/cc-response.json" later = .ok () := by
  unfold verifyR3InputReceipt
  rw [hbound]
  simp only [bind_unit_ok, require_ok, beq_self_eq_true, true_and]
  rw [bind_ok]
  constructor
  · rintro ⟨actual, hactual, h⟩
    rw [bind_unit_ok, require_ok, beq_iff_eq] at h
    obtain ⟨rfl, h⟩ := h
    obtain ⟨bytes, hbytes, hdigest⟩ := sha256File_ok.mp hactual
    -- equal digests: the receipt on disk is the one that was issued
    obtain rfl := hinjective hdigest
    rw [validateFile_jsonBytes hschema hbytes, bind_ok] at h
    obtain ⟨_, hreceipt, h⟩ := h
    cases hreceipt
    rw [bind_unit_ok, bind_unit_ok, bind_unit_ok, bind_unit_ok] at h
    exact ⟨hbytes, h.2⟩
  · rintro ⟨hbytes, h⟩
    refine ⟨_, sha256File_ok.mpr ⟨_, hbytes, rfl⟩, ?_⟩
    rw [bind_unit_ok, require_ok, beq_iff_eq, validateFile_jsonBytes hschema hbytes, bind_ok]
    refine ⟨rfl, receipt, rfl, ?_⟩
    rw [bind_unit_ok, bind_unit_ok, bind_unit_ok, bind_unit_ok, require_ok, beq_iff_eq]
    exact ⟨hrun, h⟩

/-- What `ensure_r3_input_receipt` leaves where it binds a receipt. -/
theorem buildReceipt_ok {manifest : Manifest} {r1 r2 : List LaneAccepted}
    {evidencePacketPath ccPath now : String} {receipt : R3InputReceipt}
    (h : buildReceipt P manifest r1 r2 evidencePacketPath ccPath now files = .ok receipt) :
    receipt.runId = manifest.runId
      ∧ r3InputReceiptSchema.accepts (toValue R3InputReceipt.codec receipt) = true
      ∧ List.Forall₂ (Binds P files) r1 receipt.r1
      ∧ List.Forall₂ (Binds P files) r2 receipt.r2
      ∧ receipt.evidencePacket.artifactRef = evidencePacketPath
      ∧ sha256File P files evidencePacketPath = .ok receipt.evidencePacket.sha256
      ∧ receipt.ccResponse.artifactRef = ccPath
      ∧ sha256File P files ccPath = .ok receipt.ccResponse.sha256 := by
  obtain ⟨bindings, hr1, h⟩ := bind_ok.mp h
  obtain ⟨bindings', hr2, h⟩ := bind_ok.mp h
  obtain ⟨packet, hpacket, h⟩ := bind_ok.mp h
  obtain ⟨response, hresponse, h⟩ := bind_ok.mp h
  obtain ⟨hschema, h⟩ := bind_unit_ok.mp h
  cases h
  obtain ⟨digest, hdigest, hpacket⟩ := bind_ok.mp hpacket
  cases hpacket
  obtain ⟨digest', hdigest', hresponse⟩ := bind_ok.mp hresponse
  cases hresponse
  exact ⟨rfl, require_ok.mp hschema, phaseArtifactBindings_ok hr1, phaseArtifactBindings_ok hr2,
    rfl, hdigest, rfl, hdigest'⟩

theorem acceptedRef_ne {phase routeId : String} :
    acceptedRef phase routeId ≠ "r3/input-receipt.json" := by
  intro h
  have hhead := congrArg (fun s => s.toList.head?) h
  simp [acceptedRef] at hhead

theorem Delivered.artifactRef_ne {lanes : List LaneAccepted} (h : Delivered policy phase lanes)
    {lane : LaneAccepted} (hlane : lane ∈ lanes) :
    lane.artifactRef ≠ "r3/input-receipt.json" := by
  obtain ⟨route, -, -, -, href⟩ := h.route hlane
  rw [← href]
  exact acceptedRef_ne

theorem SecondPhase.artifactRef_ne {lanes : List LaneAccepted}
    (h : SecondPhase policy lanes files) {lane : LaneAccepted} (hlane : lane ∈ lanes) :
    lane.artifactRef ≠ "r3/input-receipt.json" := by
  rcases h with ⟨hdelivered, -⟩ | ⟨rfl, -⟩
  · exact hdelivered.artifactRef_ne hlane
  · cases hlane

/-- An artifact verifies exactly when it has the bytes it had. -/
theorem verifyArtifactBinding_same (hinjective : Function.Injective P.sha256)
    {binding : ArtifactBinding} {path : String} (href : binding.artifactRef = path)
    (hdigest : sha256File P files path = .ok binding.sha256) :
    verifyArtifactBinding P binding path later = .ok () ↔ later path = files path := by
  rw [verifyArtifactBinding_ok]
  constructor
  · intro ⟨_, hlater⟩
    exact same_of_sha256File hinjective hdigest hlater
  · intro hsame
    exact ⟨href, (sha256File_congr hsame).trans hdigest⟩

end checks

/-- The files that a receipt vouches for are the same. -/
def Untouched (r1 r2 : List LaneAccepted) (files later : Files) : Prop :=
  (∀ lane ∈ r1, later lane.artifactRef = files lane.artifactRef)
    ∧ (∀ lane ∈ r2, later lane.artifactRef = files lane.artifactRef)
    ∧ later "r3/evidence-packet.json" = files "r3/evidence-packet.json"
    ∧ later "r3/cc-response.json" = files "r3/cc-response.json"
    ∧ later "r3/input-receipt.json" = files "r3/input-receipt.json"
    ∧ (later "r2/skipped.json").isSome = (files "r2/skipped.json").isSome

/-- Once a receipt is written and bound, it verifies exactly on the files that
    agree with those it was issued for. -/
theorem verifyIssued_ok {P : Platform} (hinjective : Function.Injective P.sha256)
    {policy : Policy} (hroster : policy.roster ≠ [])
    (hroutes : (policy.roster.map (·.routeId)).Nodup) {manifest : Manifest}
    {r1 r2 : List LaneAccepted} {now : String} {files written : Files} {receipt : R3InputReceipt}
    (hr1 : Delivered policy "R1" r1) (hr2 : SecondPhase policy r2 files)
    (hbuild : buildReceipt P manifest r1 r2 "r3/evidence-packet.json" "r3/cc-response.json" now
      files = .ok receipt)
    (hwritten : written
      = files.write "r3/input-receipt.json" (jsonBytes R3InputReceipt.codec receipt))
    (bound : Manifest) (hrunId : bound.runId = manifest.runId)
    (hbound : bound.r3InputReceipt = some {
      artifactRef := "r3/input-receipt.json"
      sha256 := P.sha256 (jsonBytes R3InputReceipt.codec receipt) }) (later : Files) :
    verifyR3InputReceipt P bound policy later = .ok () ↔ Untouched r1 r2 written later := by
  obtain ⟨hrun, hschema, hbinds1, hbinds2, hpacketRef, hpacket, hresponseRef, hresponse⟩ :=
    buildReceipt_ok hbuild
  -- the receipt is written where none of the other files is
  have hpath : ∀ {path : String}, path ≠ "r3/input-receipt.json" →
      written path = files path := by
    intro path hne
    rw [hwritten]
    exact Files.write_of_ne files _ hne
  have hreceiptFile : written "r3/input-receipt.json"
      = some (jsonBytes R3InputReceipt.codec receipt) := by
    rw [hwritten, Files.write_self]
  have hsame1 : (∀ lane ∈ r1, later lane.artifactRef = files lane.artifactRef) ↔
      ∀ lane ∈ r1, later lane.artifactRef = written lane.artifactRef :=
    forall₂_congr fun lane hlane => by rw [hpath (hr1.artifactRef_ne hlane)]
  have hsame2 : (∀ lane ∈ r2, later lane.artifactRef = files lane.artifactRef) ↔
      ∀ lane ∈ r2, later lane.artifactRef = written lane.artifactRef :=
    forall₂_congr fun lane hlane => by rw [hpath (hr2.artifactRef_ne hlane)]
  rw [verifyR3InputReceipt_ok hinjective (hrun.trans hrunId.symm) hschema hbound,
    verifyPhaseBindings_ok hinjective hroutes hr1 hbinds1 (by simp),
    verifySecondPhase_ok hinjective hroster hroutes hr2 hbinds2,
    verifyArtifactBinding_same hinjective hpacketRef hpacket,
    verifyArtifactBinding_same hinjective hresponseRef hresponse]
  unfold Untouched
  rw [← hsame1, ← hsame2, hreceiptFile, hpath (by decide), hpath (by decide), hpath (by decide)]
  constructor
  · intro ⟨hreceipt, hlanes1, ⟨hlanes2, hshape⟩, hev, hcc⟩
    exact ⟨hlanes1, hlanes2, hev, hcc, hreceipt, hshape⟩
  · intro ⟨hlanes1, hlanes2, hev, hcc, hreceipt, hshape⟩
    exact ⟨hreceipt, hlanes1, ⟨hlanes2, hshape⟩, hev, hcc⟩

/-- **The receipt of R3 shows every change**: it verifies on the files that it
    was issued for, and on later files exactly when they agree with these on
    all that it vouches for. -/
theorem r3_input_receipt_tamper_evident (P : Platform) (hinjective : Function.Injective P.sha256)
    (policy : Policy) (hroster : policy.roster ≠ [])
    (hroutes : (policy.roster.map (·.routeId)).Nodup) (manifest : Manifest)
    (hnew : manifest.r3InputReceipt = none) (r1 r2 : List LaneAccepted) (now : String)
    (files : Files) (hr1 : Delivered policy "R1" r1) (hr2 : SecondPhase policy r2 files)
    (result : Except String Unit) (bound : Manifest) (written : Files)
    (hensure : ensureR3InputReceipt P manifest policy r1 r2 "r3/evidence-packet.json"
      "r3/cc-response.json" now files = (result, bound, written))
    (hcarries : bound.r3InputReceipt.isSome = true) :
    result = .ok () ∧ verifyR3InputReceipt P bound policy written = .ok ()
      ∧ ∀ later, verifyR3InputReceipt P bound policy later = .ok ()
        ↔ Untouched r1 r2 written later := by
  unfold ensureR3InputReceipt at hensure
  rw [hnew, if_neg (by simp)] at hensure
  cases hbuild : buildReceipt P manifest r1 r2 "r3/evidence-packet.json" "r3/cc-response.json" now
      files with
  -- no receipt, so the manifest carries none
  | error message =>
    rw [hbuild] at hensure
    cases hensure
    rw [hnew] at hcarries
    cases hcarries
  | ok receipt =>
    rw [hbuild] at hensure
    cases hensure
    have hverify := verifyIssued_ok hinjective hroster hroutes hr1 hr2 hbuild rfl
      { manifest with r3InputReceipt := some {
        artifactRef := "r3/input-receipt.json"
        sha256 := P.sha256 (jsonBytes R3InputReceipt.codec receipt) } } rfl rfl
    have hnow := (hverify _).mpr ⟨fun _ _ => rfl, fun _ _ => rfl, rfl, rfl, rfl, rfl⟩
    exact ⟨hnow, hnow, hverify⟩

/-- Five routes, as a policy has them. -/
def sampleRoster : List RoutePolicy :=
  [("Party A", "a"), ("Party B", "b"), ("Party C", "c"), ("Party D", "d"), ("Party E", "e")].map
    fun (partyId, routeId) => { (default : RoutePolicy) with partyId, routeId }

/-- The lanes of R1, in another order. -/
def sampleLanes : List LaneAccepted :=
  sampleRoster.reverse.map fun route => {
    partyId := route.partyId
    routeId := route.routeId
    output := default
    artifactRef := acceptedRef "R1" route.routeId }

/-- SHA-256, as far as the sample goes. -/
def samplePlatform : Platform :=
  Platform.assigning
    [([1], "sha256:0123456789abcdef0123456789abcdef0123456789abcdef0123456789abcdef")]

/-- A run whose R2 was skipped. -/
theorem r3_input_receipt_tamper_evident_skipped :
    ∃ bound written, ensureR3InputReceipt samplePlatform ⟨"run", none⟩
        { (default : Policy) with roster := sampleRoster } sampleLanes [] "r3/evidence-packet.json"
        "r3/cc-response.json" "2026-08-09T00:00:00Z" (fun _ => some [1])
        = (.ok (), bound, written)
      ∧ verifyR3InputReceipt samplePlatform bound
        { (default : Policy) with roster := sampleRoster }
        (written.write "r3/cc-response.json" [2]) ≠ .ok () := by
  have hcarries : (ensureR3InputReceipt samplePlatform ⟨"run", none⟩
      { (default : Policy) with roster := sampleRoster } sampleLanes [] "r3/evidence-packet.json"
      "r3/cc-response.json" "2026-08-09T00:00:00Z"
      (fun _ => some [1])).2.1.r3InputReceipt.isSome = true := by
    decide +kernel
  have hkept : (ensureR3InputReceipt samplePlatform ⟨"run", none⟩
      { (default : Policy) with roster := sampleRoster } sampleLanes [] "r3/evidence-packet.json"
      "r3/cc-response.json" "2026-08-09T00:00:00Z"
      (fun _ => some [1])).2.2 "r3/cc-response.json" = some [1] := by
    decide +kernel
  have hordered :
      Delivered { (default : Policy) with roster := sampleRoster } "R1" sampleLanes := by
    unfold Delivered
    decide
  generalize hensure : ensureR3InputReceipt samplePlatform ⟨"run", none⟩
    { (default : Policy) with roster := sampleRoster } sampleLanes [] "r3/evidence-packet.json"
    "r3/cc-response.json" "2026-08-09T00:00:00Z" (fun _ => some [1]) = issued at hcarries hkept ⊢
  obtain ⟨result, bound, written⟩ := issued
  obtain ⟨rfl, hnow, hlater⟩ := r3_input_receipt_tamper_evident samplePlatform
    (Platform.assigning_injective (by decide) (by decide +kernel)) _ (by decide) (by decide) _ rfl
    sampleLanes [] _ _ hordered (Or.inr ⟨rfl, rfl⟩) result bound written hensure hcarries
  refine ⟨bound, written, rfl, ?_⟩
  intro hok
  have hsame := ((hlater _).mp hok).2.2.2.1
  rw [Files.write_self] at hsame
  dsimp only at hkept
  rw [hkept] at hsame
  cases hsame

end Quinte.Evidence
