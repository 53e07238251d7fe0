import Mathlib
import Quinte.Adapter.Payload

/-! # Ids under normalization

    `sanitize_contract_id` takes an id to the alphabet of the contract and to
    its length, so two ids may become one.  Which ids do is said of their
    characters (`Alike`), and from that which payloads with distinct ids are
    read into records with distinct ids.

    * `sanitizeContractId_eq_iff`: when two ids become one;
    * `claimIds_parse`, `residualIds_parse`: the ids of what is read;
    * `distinctIds_iff`: when they are distinct.
-/

namespace Quinte

namespace Adapter

open Json (Decoder)

variable {serde : SerdeJson}

/-! ### Ids that become one -/

/-- The contract cannot tell these ids apart: in their first 64 places they have
    the same characters, up to those that it does not allow. -/
def Alike (a b : String) : Prop :=
  ∀ i < 64, a.toList[i]?.map contractChar = b.toList[i]?.map contractChar

/-- No two of these ids, at different places, are alike. -/
def Apart (ids : List String) : Prop :=
  ids.Pairwise fun a b => ¬Alike a b

theorem sanitizeContractId_eq_iff {a b : String} :
    sanitizeContractId a = sanitizeContractId b ↔ Alike a b := by
  unfold sanitizeContractId Alike
  rw [String.ofList_inj]
  constructor
  · intro h i hi
    have hget := congrArg (·[i]?) h
    simpa [List.getElem?_take, hi] using hget
  · intro h
    apply List.ext_getElem?
    intro i
    by_cases hi : i < 64
    · simpa [List.getElem?_take, hi] using h i hi
    · simp [hi]

theorem nodup_sanitize_iff {ids : List String} :
    (ids.map sanitizeContractId).Nodup ↔ Apart ids := by
  simp only [List.Nodup, List.pairwise_map, Apart, ne_eq, sanitizeContractId_eq_iff]

/-! ### `validate_unique_ids` -/

theorem validateUniqueIds_go {kind : String} (ids seen : List String) :
    validateUniqueIds.go kind seen ids = .ok () ↔ ids.Nodup ∧ ∀ id ∈ ids, id ∉ seen := by
  induction ids generalizing seen with
  | nil => simp [validateUniqueIds.go]
  | cons id ids ih =>
    unfold validateUniqueIds.go
    by_cases hseen : id ∈ seen
    · simp [hseen]
    · rw [if_neg (by simpa using hseen), ih, List.nodup_cons, List.forall_mem_cons]
      constructor
      · intro ⟨hnodup, hfresh⟩
        refine ⟨⟨fun hmem => hfresh id hmem (List.mem_cons_self ..), hnodup⟩, hseen, ?_⟩
        intro other hother hmem
        exact hfresh other hother (List.mem_cons_of_mem _ hmem)
      · intro ⟨⟨hid, hnodup⟩, _, hfresh⟩
        refine ⟨hnodup, fun other hother hmem => ?_⟩
        rcases List.mem_cons.mp hmem with rfl | hmem
        · exact hid hother
        · exact hfresh other hother hmem

theorem validateUniqueIds_ok {ids : List String} {kind : String} :
    validateUniqueIds ids kind = .ok () ↔ ids.Nodup := by
  rw [validateUniqueIds, validateUniqueIds_go]
  simp

/-! ### Ids of a payload -/

/-- The id of a claim or a residual, where it is a string. -/
def idOf (item : Json) : Option String :=
  (item.get "id").bind Json.asStr

/-- The ids of the claims or the residuals of a payload, where it has an array of
    them and each has a string for its id. -/
def idsOf (key : String) (payload : Json) : Option (List String) :=
  ((payload.get key).bind Json.asArr).bind fun items => items.mapM idOf

theorem idOf_normalizeIdField (item : Json) :
    idOf (normalizeIdField item) = (idOf item).map sanitizeContractId := by
  unfold idOf normalizeIdField
  rw [Json.get_editMember_self]
  cases item.get "id" with
  | none => rfl
  | some id => cases id <;> rfl

theorem idOf_normalizeRefArray {key : String} (h : "id" ≠ key) (item : Json) :
    idOf (normalizeRefArray key item) = idOf item := by
  unfold idOf normalizeRefArray
  rw [Json.get_editMember_ne h]

theorem idOf_normalizeResidual (residual : Json) :
    idOf (normalizeResidual residual) = (idOf residual).map sanitizeContractId := by
  unfold normalizeResidual
  rw [idOf_normalizeRefArray (by decide), idOf_normalizeRefArray (by decide),
    idOf_normalizeIdField]

theorem idOf_normalizeClaim (claim : Json) :
    idOf (dropClaimNulls (normalizeClaim claim)) = (idOf claim).map sanitizeContractId := by
  have hdrop : ∀ v : Json, idOf (dropClaimNulls v) = idOf v := by
    intro v
    unfold idOf dropClaimNulls
    rw [Json.get_dropNull_ne (by decide), Json.get_dropNull_ne (by decide)]
  unfold normalizeClaim
  rw [hdrop, idOf_normalizeRefArray (by decide), idOf_normalizeIdField]

/-! ### Ids of a record -/

/-- An object is read by the names of its members. -/
theorem look_of_fields {names : List String} {v : Json} {look : String → Option Json}
    (h : Decoder.fields names v = some look) {name : String} {member : Json}
    (hmember : v.get name = some member) : look name = some member := by
  cases v with
  | obj members => rw [Decoder.fields_obj h, hmember]
  | null | bool b | int n | float text | str s | arr items => exact nomatch hmember

theorem get_of_idOf {item : Json} {id : String} (h : idOf item = some id) :
    item.get "id" = some (.str id) := by
  unfold idOf at h
  cases hget : item.get "id" with
  | none => simp [hget] at h
  | some v =>
    rw [hget] at h
    cases v with
    | str s => exact congrArg (some ∘ Json.str) (Option.some.inj h)
    | null | bool b | int n | float text | arr items | obj members => exact nomatch h

/-- The id that a reader of records finds is the one of the payload. -/
theorem required_id {names : List String} {item : Json} {look : String → Option Json}
    {id found : String} (hlook : Decoder.fields names item = some look) (hid : idOf item = some id)
    (hfound : Decoder.required look "id" Decoder.string = some found) : found = id := by
  rw [Decoder.required, look_of_fields hlook (get_of_idOf hid)] at hfound
  exact (Option.some.inj hfound).symm

theorem decodeClaim_id {item : Json} {claim : Claim} {id : String}
    (hclaim : decodeClaim serde item = some claim) (hid : idOf item = some id) : claim.id = id := by
  obtain ⟨look, hlook, hread⟩ := decodeClaim_iff.mp hclaim
  exact required_id hlook hid hread.id

theorem decodeResidual_id {item : Json} {residual : Residual} {id : String}
    (hresidual : decodeResidual item = some residual) (hid : idOf item = some id) :
    residual.id = id := by
  obtain ⟨look, hlook, hread⟩ := decodeResidual_iff.mp hresidual
  exact required_id hlook hid hread.id

/-- The items of a payload, each changed and then read. -/
theorem ids_of_items {α : Type} {dec : Decoder α} {idA : α → String} {change : Json → Json}
    {items : List Json} {ids : List String} {read : List α}
    (hchange : ∀ item, idOf (change item) = (idOf item).map sanitizeContractId)
    (hdec : ∀ item a id, dec item = some a → idOf item = some id → idA a = id)
    (hids : items.mapM idOf = some ids) (hread : (items.map change).mapM dec = some read) :
    read.map idA = ids.map sanitizeContractId := by
  induction items generalizing ids read with
  | nil =>
    obtain rfl : ids = [] := by simpa using hids.symm
    obtain rfl : read = [] := by simpa using hread.symm
    rfl
  | cons item items ih =>
    simp only [List.mapM_cons, bind, pure, Option.bind_eq_some_iff, Option.some.injEq] at hids
    simp only [List.map_cons, List.mapM_cons, bind, pure, Option.bind_eq_some_iff,
      Option.some.injEq] at hread
    obtain ⟨id, hid, rest, hrest, rfl⟩ := hids
    obtain ⟨a, ha, as, has, rfl⟩ := hread
    have hidA : idA a = sanitizeContractId id := hdec _ a _ ha (by rw [hchange, hid]; rfl)
    rw [List.map_cons, List.map_cons, hidA, ih hrest has]

/-- The list under a name, each of its items changed and then read. -/
theorem ids_of_list {α : Type} {dec : Decoder α} {idA : α → String} {change : Json → Json}
    {key : String} {payload shaped : Json} {names : List String} {look : String → Option Json}
    {ids : List String} {read : List α}
    (hchange : ∀ item, idOf (change item) = (idOf item).map sanitizeContractId)
    (hdec : ∀ item a id, dec item = some a → idOf item = some id → idA a = id)
    (hshaped : shaped.get key = (payload.get key).map (Json.editItems change))
    (hids : idsOf key payload = some ids) (hlook : Decoder.fields names shaped = some look)
    (hread : Decoder.required look key (Decoder.list dec) = some read) :
    read.map idA = ids.map sanitizeContractId := by
  unfold idsOf at hids
  obtain ⟨items, hitems, hids⟩ := Option.bind_eq_some_iff.mp hids
  obtain ⟨found, hfound, hitems⟩ := Option.bind_eq_some_iff.mp hitems
  cases found with
  | arr list =>
    obtain rfl : list = items := Option.some.inj hitems
    rw [hfound] at hshaped
    rw [Decoder.required, look_of_fields hlook hshaped] at hread
    exact ids_of_items hchange hdec hids hread
  | null | bool b | int n | float text | str s | obj members => exact nomatch hitems

/-! ### Ids after parsing -/

section payload

variable {payload : Json} {bytes : ByteArray} {ids : List String}

/-- The normalization of residuals, seen from its result. -/
theorem get_normalizeLaneShape (payload : Json) :
    (normalizeLaneShape payload).get "claims"
        = (payload.get "claims").map (Json.editItems fun claim =>
            dropClaimNulls (normalizeClaim claim)) ∧
      (normalizeLaneShape payload).get "residuals"
        = (payload.get "residuals").map (Json.editItems normalizeResidual) := by
  have hwrap : ∀ (name key : String) (v : Json), name ≠ key →
      (wrapTexts key v).get name = v.get name := by
    intro name key v hne
    have hkeep := @Json.get_edit (fun k v => if k = key then
      if v.isNull then if key = "uncertainties" then some (.arr []) else none
      else some (wrapText v) else some v) name id (fun v => if_neg hne) v
    rwa [Option.map_id, id] at hkeep
  unfold normalizeLaneShape normalizeResidualShapes flattenTexts
  constructor
  · rw [Json.get_editMember_self, Json.get_editMember_ne (by decide),
      Json.get_editMember_ne (by decide), hwrap _ _ _ (by decide), hwrap _ _ _ (by decide),
      Json.get_editMember_ne (by decide), Json.get_editMember_self, Option.map_map]
    congr 1
    funext claims
    cases claims <;> simp [Json.editItems, Function.comp_def]
  · rw [Json.get_editMember_ne (by decide), Json.get_editMember_ne (by decide),
      Json.get_editMember_ne (by decide), hwrap _ _ _ (by decide), hwrap _ _ _ (by decide),
      Json.get_editMember_self, Json.get_editMember_ne (by decide)]

/-- What a lane payload is read into. -/
theorem parseLaneOutput_ok {output : LaneOutput}
    (hpayload : payloadValue serde bytes = .ok payload)
    (h : parseLaneOutput serde bytes = .ok output) :
    (laneOutputSchema serde).accepts (normalizeLaneShape payload) = true ∧
      decodeLaneOutput serde (normalizeLaneShape payload) = some output := by
  unfold parseLaneOutput at h
  rw [hpayload] at h
  exact readShape_ok.mp h

theorem parseArbiterVerdict_ok {verdict : ArbiterVerdict}
    (hpayload : payloadValue serde bytes = .ok payload)
    (h : parseArbiterVerdict serde bytes = .ok verdict) :
    arbiterVerdictSchema.accepts (normalizeVerdictShape payload) = true ∧
      decodeArbiterVerdict (normalizeVerdictShape payload) = some verdict := by
  unfold parseArbiterVerdict at h
  rw [hpayload] at h
  exact readShape_ok.mp h

theorem claimIds_parse {output : LaneOutput} (hpayload : payloadValue serde bytes = .ok payload)
    (h : parseLaneOutput serde bytes = .ok output) (hids : idsOf "claims" payload = some ids) :
    output.claims.map (·.id) = ids.map sanitizeContractId := by
  obtain ⟨-, hdecode⟩ := parseLaneOutput_ok hpayload h
  obtain ⟨look, hlook, hread⟩ := decodeLaneOutput_iff.mp hdecode
  exact ids_of_list idOf_normalizeClaim (fun _ _ _ => decodeClaim_id)
    (get_normalizeLaneShape payload).1 hids hlook hread.claims

theorem residualIds_parse {output : LaneOutput}
    (hpayload : payloadValue serde bytes = .ok payload)
    (h : parseLaneOutput serde bytes = .ok output) (hids : idsOf "residuals" payload = some ids) :
    output.residuals.map (·.id) = ids.map sanitizeContractId := by
  obtain ⟨-, hdecode⟩ := parseLaneOutput_ok hpayload h
  obtain ⟨look, hlook, hread⟩ := decodeLaneOutput_iff.mp hdecode
  exact ids_of_list idOf_normalizeResidual (fun _ _ _ => decodeResidual_id)
    (get_normalizeLaneShape payload).2 hids hlook hread.residuals

theorem residualIds_parseVerdict {verdict : ArbiterVerdict}
    (hpayload : payloadValue serde bytes = .ok payload)
    (h : parseArbiterVerdict serde bytes = .ok verdict)
    (hids : idsOf "residuals" payload = some ids) :
    verdict.residuals.map (·.id) = ids.map sanitizeContractId := by
  obtain ⟨-, hdecode⟩ := parseArbiterVerdict_ok hpayload h
  obtain ⟨look, hlook, hread⟩ := decodeArbiterVerdict_iff.mp hdecode
  have hshaped := Json.get_editMember_self "residuals" (Json.editItems normalizeResidual) payload
  exact ids_of_list idOf_normalizeResidual (fun _ _ _ => decodeResidual_id) hshaped hids hlook
    hread.residuals

end payload

/-- **Ids stay distinct** exactly where no two of the payload are alike. -/
theorem distinctIds_iff (serde : SerdeJson) (bytes : ByteArray) (payload : Json)
    (residualIds : List String) (hpayload : payloadValue serde bytes = .ok payload)
    (hresiduals : idsOf "residuals" payload = some residualIds) :
    (∀ claimIds output, idsOf "claims" payload = some claimIds →
      parseLaneOutput serde bytes = .ok output →
      ((output.claims.map (·.id)).Nodup ∧ (output.residuals.map (·.id)).Nodup
          ↔ Apart claimIds ∧ Apart residualIds) ∧
        (validateUniqueIds (output.claims.map (·.id)) "claim" = .ok () ∧
          validateUniqueIds (output.residuals.map (·.id)) "lane residual" = .ok ()
          ↔ Apart claimIds ∧ Apart residualIds)) ∧
    ∀ verdict, parseArbiterVerdict serde bytes = .ok verdict →
      ((verdict.residuals.map (·.id)).Nodup ↔ Apart residualIds) ∧
      (validateUniqueIds (verdict.residuals.map (·.id)) "arbiter residual" = .ok ()
        ↔ Apart residualIds) := by
  constructor
  · intro claimIds output hclaims hparse
    rw [validateUniqueIds_ok, validateUniqueIds_ok, claimIds_parse hpayload hparse hclaims,
      residualIds_parse hpayload hparse hresiduals, nodup_sanitize_iff, nodup_sanitize_iff]
    exact ⟨Iff.rfl, Iff.rfl⟩
  · intro verdict hparse
    rw [validateUniqueIds_ok, residualIds_parseVerdict hpayload hparse hresiduals,
      nodup_sanitize_iff]
    exact ⟨Iff.rfl, Iff.rfl⟩

/-! ### Ids that differ in what the contract does not allow -/

/-- A reader of texts with integers, for examples. -/
def sampleSerde : SerdeJson where
  fromStr := Json.scan
  double _ := 0
  print _ := ""

/-- A claim of a payload. -/
def samplePayloadClaim (id : String) : Json :=
  .obj [("id", .str id), ("statement", .str "statement"), ("evidence_refs", .arr []),
    ("confidence", .int 1), ("category", .str "category")]

/-- A lane payload with claims under these ids. -/
def samplePayload (ids : List String) : Json :=
  .obj [("lane_output_version", .str "1.0"), ("task_restatement", .str "task"),
    ("verdict", .str "verdict"), ("confidence", .int 1),
    ("claims", .arr (ids.map samplePayloadClaim)), ("residuals", .arr []),
    ("uncertainties", .arr [])]

/-- What the payload is read into. -/
def sampleOutput (ids : List String) : LaneOutput where
  laneOutputVersion := "1.0"
  taskRestatement := "task"
  verdict := "verdict"
  confidence := 1
  claims := ids.map fun id => {
    id := id
    statement := "statement"
    evidenceRefs := []
    confidence := 1
    category := "category"
    warrant := none
    qualifier := none }
  residuals := []
  uncertainties := []
  limitations := []

/-- The bytes of a text. -/
def textBytes (text : Json.Text) : ByteArray :=
  (String.ofList text).toUTF8

theorem payloadValue_textBytes {text : Json.Text} {value : Json}
    (h : serde.fromStr text = some value) :
    payloadValue serde (textBytes text) = .ok value := by
  have hutf8 : String.fromUTF8? (textBytes text) = some (String.ofList text) := by
    unfold String.fromUTF8? textBytes
    exact dif_pos (String.ofList text).isValidUTF8
  unfold payloadValue
  rw [hutf8]
  simp [parseJsonValue, h]

theorem payloadValue_sample :
    payloadValue sampleSerde (textBytes (Json.write Json.compact 0 (samplePayload ["a b", "a-b"])))
      = .ok (samplePayload ["a b", "a-b"]) :=
  payloadValue_textBytes (by decide +kernel)

theorem parseLaneOutput_sample : parseLaneOutput sampleSerde
    (textBytes (Json.write Json.compact 0 (samplePayload ["a b", "a-b"])))
    = .ok (sampleOutput ["a-b", "a-b"]) := by
  unfold parseLaneOutput
  rw [payloadValue_sample]
  decide +kernel

/-- A space and a dash: both claims become `a-b`. -/
theorem ids_merged :
    ¬∀ (serde : SerdeJson) (bytes : ByteArray) (payload : Json) (claimIds residualIds : List String)
      (output : LaneOutput), payloadValue serde bytes = .ok payload →
      idsOf "claims" payload = some claimIds → idsOf "residuals" payload = some residualIds →
      claimIds.Nodup → residualIds.Nodup → parseLaneOutput serde bytes = .ok output →
      (output.claims.map (·.id)).Nodup ∧ (output.residuals.map (·.id)).Nodup ∧
        validateUniqueIds (output.claims.map (·.id)) "claim" = .ok () := by
  intro h
  have hids := h sampleSerde _ _ ["a b", "a-b"] [] _ payloadValue_sample (by decide +kernel)
    (by decide +kernel) (by decide) (by decide) parseLaneOutput_sample
  exact absurd hids.1 (by decide)

theorem distinctIds_iff_sample :
    ∃ bytes payload output, payloadValue sampleSerde bytes = .ok payload ∧
      parseLaneOutput sampleSerde bytes = .ok output ∧
      ((output.claims.map (·.id)).Nodup ∧ (output.residuals.map (·.id)).Nodup
        ↔ Apart ["a b", "a-b"] ∧ Apart []) := by
  refine ⟨_, _, _, payloadValue_sample, parseLaneOutput_sample, ?_⟩
  exact ((distinctIds_iff sampleSerde _ _ [] payloadValue_sample (by decide +kernel)).1
    ["a b", "a-b"] _ (by decide +kernel) parseLaneOutput_sample).1

end Adapter

end Quinte
