import Mathlib
import Quinte.Finance.Contracts
import Quinte.Framework.Base64
import Quinte.Framework.FileTree
import Quinte.Model.Policy

/-! # Bytes, digests and bindings

    How the finance documents become bytes, how bytes are read as documents,
    and the digests and the portable bindings that tie the two together.
    SHA-256 and the reader of JSON texts are other packages': they are a
    `Platform`.

    * `parseStrictJson_toVecPretty`, `parseStrictJson_canonical`: what is
      written is read back;
    * `toVecPretty_injective`, `canonical_injective`: bytes tell documents
      apart;
    * `verifyPortableBinding_ok`: what a verified binding says.

    An error is its message, with paths from the directory at hand.
-/

namespace Quinte.Finance

open Json (Codec Text)
open Policy (require require_ok bind_ok bind_unit_ok)

theorem exists_unit {p : Unit → Prop} : (∃ u, p u) ↔ p () :=
  ⟨fun ⟨_, h⟩ => h, fun h => ⟨(), h⟩⟩

theorem pure_ok {α : Type} {a b : α} : (pure a : Except String α) = .ok b ↔ a = b :=
  Except.ok.injEq a b ▸ Iff.rfl

/-! ### Bytes -/

abbrev Bytes := List UInt8

def utf8 (text : Text) : Bytes := text.flatMap String.utf8EncodeChar

def fromUtf8 (bytes : Bytes) : Option Text :=
  (ByteArray.mk bytes.toArray).utf8Decode?.map Array.toList

@[simp] theorem fromUtf8_utf8 (text : Text) : fromUtf8 (utf8 text) = some text := by
  have hbytes : ByteArray.mk (utf8 text).toArray = text.utf8Encode := by
    rw [List.utf8Encode, utf8]
    refine ByteArray.ext ?_
    rw [List.data_toByteArray]
  rw [fromUtf8, hbytes, List.utf8Decode?_utf8Encode]
  simp

theorem utf8_injective {t u : Text} (h : utf8 t = utf8 u) : t = u := by
  have hread := fromUtf8_utf8 t
  rw [h, fromUtf8_utf8] at hread
  exact (Option.some.inj hread).symm

@[simp] theorem utf8_append (t u : Text) : utf8 (t ++ u) = utf8 t ++ utf8 u :=
  List.flatMap_append

theorem length_utf8_le (text : Text) : (utf8 text).length ≤ 4 * text.length := by
  have hchars := List.sum_le_card_nsmul (text.map fun c => (String.utf8EncodeChar c).length) 4
    fun n hn => by
      obtain ⟨c, -, rfl⟩ := List.mem_map.mp hn
      rw [String.length_utf8EncodeChar]
      exact c.utf8Size_le_four
  rw [List.length_map, smul_eq_mul] at hchars
  rw [utf8, List.length_flatMap]
  omega

/-- The bytes of a string. -/
def asBytes (s : String) : Bytes := utf8 s.toList

/-! #### Line feeds -/

theorem ofNat_ne_lineFeed {n : Nat} (h : 128 ≤ n ∧ n < 256) : (10 : UInt8) ≠ UInt8.ofNat n := by
  intro heq
  have hnat := congrArg UInt8.toNat heq
  rw [UInt8.toNat_ofNat_of_lt' (by rw [UInt8.size]; omega)] at hnat
  simp at hnat
  omega

theorem lineFeed_of_mem {c : Char} (h : 10 ∈ String.utf8EncodeChar c) : c = '\n' := by
  have hval : c.val.toNat < 0x110000 := by
    rcases c.valid with h | h
    · exact h.trans (by decide)
    · exact h.2
  unfold String.utf8EncodeChar at h
  simp only at h
  split_ifs at h with h₁ h₂ h₃
  · refine Char.toNat_inj.mp ?_
    have hnat := congrArg UInt8.toNat (List.mem_singleton.mp h)
    rw [UInt8.toNat_ofNat_of_lt' (by rw [UInt8.size]; omega)] at hnat
    exact hnat.symm
  · simp only [List.mem_cons, List.not_mem_nil, or_false] at h
    rcases h with h | h <;> exact absurd h (ofNat_ne_lineFeed (by omega))
  · simp only [List.mem_cons, List.not_mem_nil, or_false] at h
    rcases h with h | h | h <;> exact absurd h (ofNat_ne_lineFeed (by omega))
  · simp only [List.mem_cons, List.not_mem_nil, or_false] at h
    rcases h with h | h | h | h <;> exact absurd h (ofNat_ne_lineFeed (by omega))

/-- A line feed in the bytes is one in the text. -/
theorem lineFeed_mem_utf8 {text : Text} (h : 10 ∈ utf8 text) : '\n' ∈ text := by
  obtain ⟨c, hc, hmem⟩ := List.mem_flatMap.mp h
  exact lineFeed_of_mem hmem ▸ hc

/-! ### Other packages -/

/-- SHA-256, with its digests as texts, and the reader of JSON texts. -/
structure Platform where
  sha256 : Bytes → String
  json : Json.Reader
  deep : 100 ≤ json.depth

/-- A platform whose digests are the bytes themselves: no two agree. -/
def Platform.verbatim : Platform where
  sha256 bytes := String.ofList (bytes.map fun b => Char.ofNat b.toNat)
  json := Json.scanner 100
  deep := le_rfl

theorem Platform.verbatim_injective : Function.Injective Platform.verbatim.sha256 := by
  have hchar : Function.Injective fun b : UInt8 => Char.ofNat b.toNat := by
    intro a b h
    have hnat := congrArg Char.toNat h
    have hvalid : ∀ c : UInt8, c.toNat.isValidChar := fun c => Or.inl (by
      have hlt := c.toNat_lt
      omega)
    simp only [Char.toNat_ofNat, hvalid, if_true] at hnat
    exact UInt8.toNat_inj.mp hnat
  exact fun a b h => hchar.list_map (String.ofList_injective h)

/-- A platform with given digests for given bytes; all others are told apart. -/
def Platform.assigning (table : List (Bytes × String)) : Platform where
  sha256 bytes := (table.lookup bytes).getD ("=" ++ Platform.verbatim.sha256 bytes)
  json := Json.scanner 100
  deep := le_rfl

theorem Platform.assigning_injective {table : List (Bytes × String)}
    (hnodup : (table.map (·.2)).Nodup) (hlead : ∀ e ∈ table, e.2.toList.head? ≠ some '=') :
    Function.Injective (Platform.assigning table).sha256 := by
  -- a digest of the table is never one of the others, which all begin with an equals sign
  have hlead' : ∀ {bytes bytes' digest}, table.lookup bytes = some digest →
      digest ≠ "=" ++ Platform.verbatim.sha256 bytes' := by
    rintro bytes bytes' _ hlook rfl
    obtain ⟨l, r, rfl, -⟩ := List.lookup_eq_some_iff.mp hlook
    exact hlead (bytes, "=" ++ Platform.verbatim.sha256 bytes') (by simp)
      (by rw [String.toList_append]; rfl)
  intro a b h
  simp only [Platform.assigning] at h
  cases ha : table.lookup a with
  | none =>
    cases hb : table.lookup b with
    | none =>
      rw [ha, hb] at h
      exact Platform.verbatim_injective (append_inj h)
    | some d =>
      rw [ha, hb] at h
      exact absurd h.symm (hlead' hb)
  | some d =>
    cases hb : table.lookup b with
    | none =>
      rw [ha, hb] at h
      exact absurd h (hlead' ha)
    | some d' =>
      rw [ha, hb] at h
      obtain rfl : d = d' := h
      obtain ⟨l, r, hl, -⟩ := List.lookup_eq_some_iff.mp ha
      obtain ⟨l', r', hl', -⟩ := List.lookup_eq_some_iff.mp hb
      have hmem : (a, d) ∈ table := hl ▸ by simp
      have hmem' : (b, d) ∈ table := hl' ▸ by simp
      exact congrArg (·.1) (List.inj_on_of_nodup_map hnodup hmem hmem' rfl)

theorem Platform.assigning_cases (table : List (Bytes × String)) (bytes : Bytes) :
    (Platform.assigning table).sha256 bytes = "=" ++ Platform.verbatim.sha256 bytes
      ∨ ∃ e ∈ table, (Platform.assigning table).sha256 bytes = e.2 := by
  simp only [Platform.assigning]
  cases hlook : table.lookup bytes with
  | none => exact .inl rfl
  | some digest =>
    obtain ⟨l, r, hsplit, -⟩ := List.lookup_eq_some_iff.mp hlook
    exact .inr ⟨(bytes, digest), hsplit ▸ by simp, rfl⟩

theorem Platform.assigning_mem {table : List (Bytes × String)} {bytes : Bytes} {digest : String}
    (hnodup : (table.map (·.1)).Nodup) (hmem : (bytes, digest) ∈ table) :
    (Platform.assigning table).sha256 bytes = digest := by
  have hlook : table.lookup bytes = some digest := by
    induction table with
    | nil => exact nomatch hmem
    | cons e l ih =>
      obtain ⟨hfresh, hnodup⟩ := List.nodup_cons.mp hnodup
      rcases List.mem_cons.mp hmem with rfl | hmem
      · exact List.lookup_cons_self
      · have hne : (bytes == e.1) = false := beq_eq_false_iff_ne.mpr fun heq =>
          hfresh (List.mem_map.mpr ⟨_, hmem, heq⟩)
        rw [List.lookup_cons, hne]
        exact ih hnodup hmem
  simp only [Platform.assigning, hlook, Option.getD_some]

variable (P : Platform)

/-- `exact_digest`. -/
def exactDigest (bytes : Bytes) : String := P.sha256 bytes

/-! ### Documents as bytes -/

/-- `serde_json::to_value`: a map that is kept sorted. -/
def toValue {α : Type} (C : Codec α) (a : α) : Json := (C.enc a).sorted

/-- `serde_json::to_vec_pretty` of a document. -/
def toVecPretty {α : Type} (C : Codec α) (a : α) : Bytes := utf8 (Json.write Json.pretty 0 (C.enc a))

/-- `serde_json::to_vec_pretty` of a value. -/
def valuePretty (v : Json) : Bytes := utf8 (Json.write Json.pretty 0 v)

/-- `parse_strict_json`. The reader does not say which of its two errors it is. -/
def parseStrictJson (bytes : Bytes) : Except String Json :=
  match fromUtf8 bytes with
  | none => .error "finance payload is not strict UTF-8"
  | some text => match P.json.read text with
    | none => .error "finance payload is not strict duplicate-free JSON"
    | some v =>
        if v.unique then .ok v.sorted
        else .error "finance payload is not strict duplicate-free JSON"

/-- `canonical_json`. A number is printed with a minus sign and a zero by no
    other value than this one. -/
def canonicalJson (v : Json) : Except String Bytes := do
  require (!v.floats.contains "-0") "negative zero is outside the finance canonical profile"
  return utf8 (Json.write Json.compact 0 v.sorted)

/-- The check of a domain in `semantic_digest`. -/
def semanticDomain (domain : String) : Bool :=
  domain.toList.all (·.toNat < 128) && domain != "" && !domain.toList.contains '\x00'

/-- `semantic_digest`. -/
def semanticDigest (domain : String) (v : Json) : Except String String := do
  require (semanticDomain domain) "semantic digest domain must be nonempty ASCII without NUL"
  let canonical ← canonicalJson v
  return P.sha256 (asBytes domain ++ 0 :: canonical)

/-- `semantic_digest_value`. -/
def semanticDigestValue {α : Type} (C : Codec α) (domain : String) (a : α) :
    Except String String :=
  semanticDigest P domain (toValue C a)

/-! ### Reading files -/

/-- `std::fs::read`. -/
def readFile (tree : FileTree Bytes) (path : String) : Except String Bytes :=
  match tree.file path with
  | some bytes => .ok bytes
  | none => .error "No such file or directory (os error 2)"

/-- `serde_json::from_value`. -/
def fromValue {α : Type} (C : Codec α) (v : Json) : Except String α :=
  match C.dec v with
  | some a => .ok a
  | none => .error "the value does not match its contract"

/-- `load_typed`. -/
def loadTyped {α : Type} (C : Codec α) (tree : FileTree Bytes) (path : String) :
    Except String (α × Bytes × Json) :=
  match tree.file path with
  | none => .error ("cannot read " ++ path)
  | some bytes => match parseStrictJson P bytes with
    | .error _ => .error ("invalid " ++ path)
    | .ok v => match C.dec v with
      | none => .error (path ++ " does not match its closed finance contract")
      | some a => .ok (a, bytes, v)

/-! ### Portable bindings -/

/-- The components of a path. -/
def components (reference : String) : List Text := reference.toList.splitOn '/'

/-- What `validate_portable_relative_path` accepts. -/
def portableRelativePath (reference : String) : Bool :=
  reference != "" && !reference.toList.contains '\\' && !reference.toList.contains ':'
    && !reference.toList.contains '\x00' && reference.toList.head? != some '/'
    && (components reference).all fun part => part != [] && part != ['.'] && part != ['.', '.']

/-- `validate_portable_relative_path`. -/
def validatePortableRelativePath (reference : String) : Except String Unit :=
  require (portableRelativePath reference) "artifact_ref must be a portable relative path"

/-- `verify_portable_binding`. -/
def verifyPortableBinding (binding : PortableBinding) (bytes : Bytes) (value : Json)
    (expectedFamily expectedRevision expectedDomain : String) : Except String Unit := do
  validatePortableRelativePath binding.artifactRef
  require
    (binding.contractFamily == expectedFamily && binding.revision == expectedRevision
      && binding.semanticDomain == expectedDomain
      && (expectedFamily != "finance-review-result"
        || binding.schemaId == some financeResultSchemaId))
    ("portable binding contract identity mismatch for " ++ binding.artifactRef)
  let semantic ← semanticDigest P expectedDomain value
  require (binding.exactSha256 == exactDigest P bytes && binding.semanticSha256 == semantic)
    ("portable binding digest mismatch for " ++ binding.artifactRef)

/-- `require_artifact_ref`. -/
def requireArtifactRef (binding : PortableBinding) (expected : String) : Except String Unit := do
  validatePortableRelativePath binding.artifactRef
  require (binding.artifactRef == expected)
    "portable binding is assigned to the wrong manifest slot"

/-- `binding_for`. -/
def bindingFor (artifactRef family revision domain : String) (bytes : Bytes) (value : Json) :
    Except String PortableBinding := do
  validatePortableRelativePath artifactRef
  let semantic ← semanticDigest P domain value
  return {
    artifactRef := artifactRef
    contractFamily := family
    schemaId := if family = "finance-review-result" then some financeResultSchemaId else none
    revision := revision
    exactSha256 := exactDigest P bytes
    semanticDomain := domain
    semanticSha256 := semantic }

/-! ### Reading back -/

section readback

variable {P} {α β : Type} {C : Codec α} {v w : Json} {bytes : Bytes}

theorem parseStrictJson_write (style : Json.Style) {n : Nat} (h : Json.Regular n v) (hn : n ≤ 100)
    (hunique : v.unique = true) {space : Text} (hspace : ∀ c ∈ space, Json.isSpace c = true) :
    parseStrictJson P (utf8 (Json.write style 0 v ++ space)) = .ok v.sorted := by
  have hread := P.json.read_write style v space (h.mono (hn.trans P.deep)) hspace
  simp only [parseStrictJson, fromUtf8_utf8, hread, hunique, if_true]

theorem parseStrictJson_text (style : Json.Style) {n : Nat} (h : Json.Regular n v) (hn : n ≤ 100)
    (hunique : v.unique = true) :
    parseStrictJson P (utf8 (Json.write style 0 v)) = .ok v.sorted := by
  have hnone : ∀ c ∈ ([] : Text), Json.isSpace c = true := fun _ hc => nomatch hc
  have hread := parseStrictJson_write (P := P) style h hn hunique hnone
  rwa [List.append_nil] at hread

/-- **A document is read back** from its bytes. -/
theorem parseStrictJson_toVecPretty (hC : C.depth ≤ 100) (a : α) :
    parseStrictJson P (toVecPretty C a) = .ok (toValue C a) :=
  parseStrictJson_text Json.pretty (C.regular a) hC (C.unique a)

theorem fromValue_toValue (a : α) : fromValue C (toValue C a) = .ok a := by
  simp only [fromValue, toValue, C.dec_enc]

theorem regular_toValue (a : α) : Json.Regular C.depth (toValue C a) := (C.regular a).sorted

theorem unique_toValue (a : α) : (toValue C a).unique = true := Json.unique_sorted (C.unique a)

@[simp] theorem sorted_toValue (a : α) : (toValue C a).sorted = toValue C a :=
  Json.sorted_sorted _

theorem toValue_injective {a b : α} (h : toValue C a = toValue C b) : a = b := C.enc_injective h

/-- The canonical bytes of a document. -/
def canonical (C : Codec α) (a : α) : Bytes := utf8 (Json.write Json.compact 0 (toValue C a))

theorem canonicalJson_toValue (a : α) : canonicalJson (toValue C a) = .ok (canonical C a) := by
  have hfloats := (regular_toValue (C := C) a).floats
  simp only [canonicalJson, hfloats, List.contains_nil, Bool.not_false, sorted_toValue]
  rfl

theorem parseStrictJson_canonical (hC : C.depth ≤ 100) (a : α) :
    parseStrictJson P (canonical C a) = .ok (toValue C a) := by
  have hread := parseStrictJson_text (P := P) Json.compact (regular_toValue (C := C) a) hC
    (unique_toValue a)
  rwa [sorted_toValue] at hread

/-- A canonical text, as a line. -/
theorem parseStrictJson_line (hC : C.depth ≤ 100) (a : α) :
    parseStrictJson P (canonical C a ++ [10]) = .ok (toValue C a) := by
  have hspace : ∀ c ∈ ['\n'], Json.isSpace c = true := by simp [Json.isSpace]
  have hread := parseStrictJson_write (P := P) Json.compact (regular_toValue (C := C) a) hC
    (unique_toValue a) hspace
  rw [utf8_append, sorted_toValue] at hread
  exact hread

/-- **Canonical bytes tell documents apart.** -/
theorem canonical_injective {a b : α} (h : canonical C a = canonical C b) : a = b :=
  toValue_injective (Json.write_injective (regular_toValue a) (regular_toValue b) (utf8_injective h))

theorem canonical_ne_nil (a : α) : canonical C a ≠ [] := fun h =>
  Json.write_ne_nil (regular_toValue (C := C) a) (utf8_injective (u := []) h)

theorem length_canonical_le (a : α) :
    (canonical C a).length ≤ 4 * Json.extent Json.compact 0 (C.enc a) := by
  rw [← Json.extent_sorted]
  exact (length_utf8_le _).trans (Nat.mul_le_mul_left 4 (Json.length_write_le ..))

theorem length_toVecPretty_le (a : α) :
    (toVecPretty C a).length ≤ 4 * Json.extent Json.pretty 0 (C.enc a) :=
  (length_utf8_le _).trans (Nat.mul_le_mul_left 4 (Json.length_write_le ..))

theorem getLast?_toVecPretty {a : α} {members : List (String × Json)} (h : C.enc a = .obj members)
    (hne : members ≠ []) : (toVecPretty C a).getLast? = some 125 := by
  obtain ⟨body, hbody⟩ := Json.write_obj_eq_append (S := Json.pretty) 0 hne
  have hlast : (utf8 ['}']).getLast? = some 125 := by decide
  rw [toVecPretty, h, hbody, utf8_append, List.getLast?_append, hlast, Option.some_or]

theorem lineFeed_notMem_canonical (a : α) : 10 ∉ canonical C a := fun h =>
  Json.newline_notMem_write (regular_toValue (C := C) a) 0 (lineFeed_mem_utf8 h)

theorem readFile_ok {tree : FileTree Bytes} {path : String} :
    readFile tree path = .ok bytes ↔ tree.file path = some bytes := by
  unfold readFile
  cases tree.file path with
  | none => simp
  | some b => simp

theorem fromValue_ok {a : α} : fromValue C v = .ok a ↔ C.dec v = some a := by
  unfold fromValue
  cases C.dec v with
  | none => simp
  | some b => simp

theorem loadTyped_ok {tree : FileTree Bytes} {path : String} {a : α} :
    loadTyped P C tree path = .ok (a, bytes, v) ↔
      tree.file path = some bytes ∧ parseStrictJson P bytes = .ok v ∧ C.dec v = some a := by
  unfold loadTyped
  cases tree.file path with
  | none => simp
  | some b =>
    simp only [Option.some.injEq]
    constructor
    · intro h
      cases hparse : parseStrictJson P b with
      | error e => simp [hparse] at h
      | ok w =>
        cases hdec : C.dec w with
        | none => simp [hparse, hdec] at h
        | some c =>
          simp only [hparse, hdec, Except.ok.injEq, Prod.mk.injEq] at h
          obtain ⟨rfl, rfl, rfl⟩ := h
          exact ⟨rfl, hparse, hdec⟩
    · rintro ⟨rfl, hparse, hdec⟩
      simp only [hparse, hdec]

theorem semanticDigest_toValue {domain : String} (hdomain : semanticDomain domain = true) (a : α) :
    semanticDigest P domain (toValue C a)
      = .ok (P.sha256 (asBytes domain ++ 0 :: canonical C a)) := by
  simp only [semanticDigest, hdomain, require_ok.mpr, canonicalJson_toValue]
  rfl

theorem bindingFor_ok {artifactRef family revision domain : String} {b : PortableBinding} :
    bindingFor P artifactRef family revision domain bytes v = .ok b ↔
      portableRelativePath artifactRef = true ∧ ∃ semantic,
        semanticDigest P domain v = .ok semantic ∧
        b = { artifactRef := artifactRef, contractFamily := family,
              schemaId := if family = "finance-review-result" then some financeResultSchemaId
                else none,
              revision := revision, exactSha256 := exactDigest P bytes, semanticDomain := domain,
              semanticSha256 := semantic } := by
  simp only [bindingFor, validatePortableRelativePath, bind_ok, exists_unit, require_ok, pure_ok]
  exact and_congr_right fun _ => exists_congr fun semantic => and_congr_right fun _ => eq_comm

theorem requireArtifactRef_ok {b : PortableBinding} {expected : String} :
    requireArtifactRef b expected = .ok () ↔
      portableRelativePath b.artifactRef = true ∧ b.artifactRef = expected := by
  simp only [requireArtifactRef, validatePortableRelativePath, bind_ok, exists_unit, require_ok,
    beq_iff_eq]

theorem verifyPortableBinding_ok {b : PortableBinding} {family revision domain : String} :
    verifyPortableBinding P b bytes v family revision domain = .ok () ↔
      portableRelativePath b.artifactRef = true ∧
      (b.contractFamily = family ∧ b.revision = revision ∧ b.semanticDomain = domain ∧
        (family = "finance-review-result" → b.schemaId = some financeResultSchemaId)) ∧
      b.exactSha256 = exactDigest P bytes ∧ semanticDigest P domain v = .ok b.semanticSha256 := by
  simp only [verifyPortableBinding, validatePortableRelativePath, bind_ok, exists_unit, require_ok,
    Bool.and_eq_true, Bool.or_eq_true, beq_iff_eq, bne_iff_ne, ne_eq, and_assoc]
  refine and_congr_right fun _ => and_congr_right fun _ => and_congr_right fun _ =>
    and_congr_right fun _ => and_congr ?_ ?_
  · exact imp_iff_not_or.symm
  · constructor
    · rintro ⟨semantic, hsemantic, hexact, rfl⟩
      exact ⟨hexact, hsemantic⟩
    · rintro ⟨hexact, hsemantic⟩
      exact ⟨_, hsemantic, hexact, rfl⟩

end readback

end Quinte.Finance
