import Mathlib
import Quinte.Adapter.Payload
import Quinte.Framework.JsonLexemes

/-! # Repaired texts

    What the two repairs of `parse_json_value` make of a text that would be JSON
    but for keys without quotes, or for control characters that are not escaped.
    The scanners are followed lexeme by lexeme; what JSON itself says of such
    texts is said of their tokens (`ReadsTokens`).

    * `keyScan_key`, `quoteScan_unquotes`: words before a colon are found, and
      put into quotes;
    * `escapeScan_render`: control characters are escaped, and nothing else
      changes what a string stands for;
    * `parseJsonValue_preserves`: both repairs read the value that was meant.
-/

namespace Quinte

namespace Adapter

open Json (Text StringItem Lexeme Token itemsText render tokens isSpace isWordChar puncts)

/-! ### Bytes as characters -/

section bytes

theorem high_of_encode {c : Char} (h : 128 ≤ c.toNat) :
    ∀ b ∈ String.utf8EncodeChar c, 128 ≤ b.toNat := by
  intro b hb
  have hval : c.val.toNat = c.toNat := rfl
  have hlt : c.toNat < 0x110000 := by
    have := c.valid
    unfold UInt32.isValidChar Nat.isValidChar at this
    omega
  unfold String.utf8EncodeChar at hb
  rw [hval] at hb
  dsimp only at hb
  split at hb
  · omega
  split at hb
  · simp only [List.mem_cons, List.not_mem_nil, or_false] at hb
    rcases hb with rfl | rfl <;> simp only [UInt8.toNat_ofNat'] <;> omega
  split at hb
  · simp only [List.mem_cons, List.not_mem_nil, or_false] at hb
    rcases hb with rfl | rfl | rfl <;> simp only [UInt8.toNat_ofNat'] <;> omega
  · simp only [List.mem_cons, List.not_mem_nil, or_false] at hb
    rcases hb with rfl | rfl | rfl | rfl <;> simp only [UInt8.toNat_ofNat'] <;> omega

/-- The bytes of one character. -/
def byteChars (c : Char) : Text :=
  (String.utf8EncodeChar c).map fun b => Char.ofNat b.toNat

theorem bytesAsChars_cons (c : Char) (text : Text) :
    bytesAsChars (c :: text) = byteChars c ++ bytesAsChars text := by
  simp [bytesAsChars, byteChars]

theorem byteChars_ascii {c : Char} (h : c.toNat < 128) : byteChars c = [c] := by
  have hsize : c.utf8Size = 1 := by
    rw [Char.utf8Size_eq_one_iff, UInt32.le_iff_toNat_le]
    exact Nat.le_of_lt_succ h
  have hbyte : c.val.toUInt8.toNat = c.toNat := by
    rw [UInt32.toNat_toUInt8]
    exact Nat.mod_eq_of_lt (by have : c.val.toNat = c.toNat := rfl; omega)
  rw [byteChars, String.utf8EncodeChar_eq_singleton hsize, List.map_cons, hbyte, Char.ofNat_toNat]
  rfl

theorem byteChars_high {c : Char} (h : 128 ≤ c.toNat) :
    byteChars c ≠ [] ∧ ∀ d ∈ byteChars c, 128 ≤ d.toNat := by
  constructor
  · have hlength : (byteChars c).length = c.utf8Size := by
      rw [byteChars, List.length_map, String.length_utf8EncodeChar]
    intro hnil
    rw [hnil] at hlength
    exact absurd hlength.symm (Nat.ne_of_gt c.utf8Size_pos)
  · intro d hd
    obtain ⟨b, hb, rfl⟩ := List.mem_map.mp hd
    have hlow := high_of_encode h b hb
    have hsmall : b.toNat < 256 := b.toNat_lt
    rw [Char.toNat_ofNat, if_pos (by unfold Nat.isValidChar; omega)]
    exact hlow

/-- Tests that no byte of a longer character passes. -/
def Ascii (p : Char → Bool) : Prop :=
  ∀ c, p c = true → c.toNat < 128

theorem alphanum_lt {c : Char} (h : c.isAlphanum = true) : c.toNat < 128 := by
  simp only [Char.isAlphanum, Char.isAlpha, Char.isUpper, Char.isLower, Char.isDigit,
    Bool.or_eq_true, Bool.and_eq_true, decide_eq_true_eq, ge_iff_le, UInt32.le_iff_toNat_le] at h
  have hval : c.val.toNat = c.toNat := rfl
  have hupper : 'Z'.val.toNat = 90 := rfl
  have hlower : 'z'.val.toNat = 122 := rfl
  have hdigit : '9'.val.toNat = 57 := rfl
  omega

theorem ascii_identifierPart : Ascii isIdentifierPart := by
  intro c hc
  simp only [isIdentifierPart, Bool.or_eq_true, beq_iff_eq] at hc
  rcases hc with (halnum | rfl) | rfl
  · exact alphanum_lt halnum
  · decide
  · decide

theorem identifierPart_of_start {c : Char} (h : isIdentifierStart c = true) :
    isIdentifierPart c = true := by
  simp only [isIdentifierStart, Bool.or_eq_true, beq_iff_eq] at h
  rcases h with (halpha | rfl) | rfl
  · simp [isIdentifierPart, Char.isAlphanum, halpha]
  · rfl
  · rfl

theorem ascii_whitespace : Ascii isAsciiWhitespace := by
  intro c hc
  simp only [isAsciiWhitespace, Bool.or_eq_true, beq_iff_eq] at hc
  rcases hc with (((rfl | rfl) | rfl) | rfl) | rfl <;> decide

theorem high_false {p : Char → Bool} (hp : Ascii p) {c : Char} (h : 128 ≤ c.toNat) :
    p c = false := by
  cases hc : p c with
  | false => rfl
  | true => exact absurd (hp c hc) (Nat.not_lt.mpr h)

theorem high_ne {c d : Char} (hd : d.toNat < 128) (h : 128 ≤ c.toNat) : c ≠ d := by
  rintro rfl
  omega

theorem dropWhile_bytes {p : Char → Bool} (hp : Ascii p) (text : Text) :
    (bytesAsChars text).dropWhile p = bytesAsChars (text.dropWhile p) := by
  induction text with
  | nil => rfl
  | cons c text ih =>
    rw [bytesAsChars_cons]
    by_cases hascii : c.toNat < 128
    · rw [byteChars_ascii hascii, List.singleton_append]
      cases hc : p c with
      | true => rw [List.dropWhile_cons_of_pos hc, List.dropWhile_cons_of_pos hc, ih]
      | false =>
        rw [List.dropWhile_cons_of_neg (by simp [hc]), List.dropWhile_cons_of_neg (by simp [hc]),
          bytesAsChars_cons, byteChars_ascii hascii, List.singleton_append]
    · obtain ⟨hne, hhigh⟩ := byteChars_high (Nat.not_lt.mp hascii)
      have hc := high_false hp (Nat.not_lt.mp hascii)
      rw [List.dropWhile_cons_of_neg (by simp [hc]), bytesAsChars_cons]
      obtain ⟨d, ds, hds⟩ := List.exists_cons_of_ne_nil hne
      have hd := high_false hp (hhigh d (by rw [hds]; exact List.mem_cons_self ..))
      rw [hds, List.cons_append, List.dropWhile_cons_of_neg (by simp [hd])]

theorem head_bytes (text : Text) :
    (bytesAsChars text).head? = some ':' ↔ text.head? = some ':' := by
  cases text with
  | nil => rfl
  | cons c text =>
    rw [bytesAsChars_cons]
    by_cases hascii : c.toNat < 128
    · rw [byteChars_ascii hascii]
      rfl
    · obtain ⟨hne, hhigh⟩ := byteChars_high (Nat.not_lt.mp hascii)
      obtain ⟨d, ds, hds⟩ := List.exists_cons_of_ne_nil hne
      have hd : 128 ≤ d.toNat := hhigh d (by rw [hds]; exact List.mem_cons_self ..)
      rw [hds]
      simp only [List.cons_append, List.head?_cons, Option.some.injEq]
      exact iff_of_false (high_ne (by decide) hd) (high_ne (by decide) (Nat.not_lt.mp hascii))

theorem ascii_identifierStart : Ascii isIdentifierStart := fun c hc =>
  ascii_identifierPart c (identifierPart_of_start hc)

/-- The scanner passes over what is not ASCII. -/
theorem keyScan_high {c : Char} (h : 128 ≤ c.toNat) (inString escaped : Bool) (rest : Text) :
    keyScan inString escaped (c :: rest) = keyScan inString false rest := by
  have hquote : c ≠ '"' := high_ne (by decide) h
  have hslash : c ≠ '\\' := high_ne (by decide) h
  cases inString with
  | true => cases escaped <;> simp [keyScan, hquote, hslash]
  | false => simp [keyScan, hquote, high_false ascii_identifierStart h]

theorem keyScan_outside (escaped escaped' : Bool) (text : Text) :
    keyScan false escaped text = keyScan false escaped' text := by
  cases text <;> simp only [keyScan]

/-- **Scanning bytes** is scanning characters. -/
theorem keyScan_bytes (inString escaped : Bool) (text : Text) :
    keyScan inString escaped (bytesAsChars text) = keyScan inString escaped text := by
  induction hn : text.length using Nat.strong_induction_on generalizing inString escaped text with
  | _ n ih =>
    cases text with
    | nil => rfl
    | cons c rest =>
      subst hn
      have hrest : ∀ inString escaped,
          keyScan inString escaped (bytesAsChars rest) = keyScan inString escaped rest :=
        fun _ _ => ih _ (Nat.lt_succ_self _) _ _ rest rfl
      rw [bytesAsChars_cons]
      -- an ASCII character is its own byte
      by_cases hascii : c.toNat < 128
      · rw [byteChars_ascii hascii, List.singleton_append]
        cases inString with
        | true => simp only [keyScan, hrest]
        | false =>
          have hafter : afterIdentifier (bytesAsChars rest) = bytesAsChars (afterIdentifier rest) :=
            dropWhile_bytes ascii_identifierPart rest
          have hlater := ih _ (Nat.lt_succ_of_le (length_afterIdentifier rest)) false false
            (afterIdentifier rest) rfl
          simp only [keyScan, hrest, hafter, dropWhile_bytes ascii_whitespace, head_bytes, hlater]
      · obtain ⟨hne, hhigh⟩ := byteChars_high (Nat.not_lt.mp hascii)
        -- the bytes of another character are passed over one by one, as it is
        have hpass : ∀ (ds : Text), ds ≠ [] → (∀ d ∈ ds, 128 ≤ d.toNat) → ∀ escaped,
            keyScan inString escaped (ds ++ bytesAsChars rest)
              = keyScan inString false (bytesAsChars rest) := by
          intro ds hds hall
          induction ds with
          | nil => exact absurd rfl hds
          | cons d ds ihds =>
            intro escaped
            obtain ⟨hd, hall⟩ := List.forall_mem_cons.mp hall
            rw [List.cons_append, keyScan_high hd]
            cases ds with
            | nil => rfl
            | cons d' ds => exact ihds (List.cons_ne_nil _ _) hall false
        rw [hpass _ hne hhigh, hrest, keyScan_high (Nat.not_lt.mp hascii)]

end bytes

/-! ### Inside of strings -/

section strings

variable {items : List StringItem} {t : Text}

theorem hex_plain {a : Char} (h : (Json.hexValue a).isSome = true) :
    a ≠ '"' ∧ a ≠ '\\' ∧ isControl a = false := by
  have hrange : '0' ≤ a ∧ a ≤ '9' ∨ 'a' ≤ a ∧ a ≤ 'f' ∨ 'A' ≤ a ∧ a ≤ 'F' := by
    unfold Json.hexValue at h
    split at h
    · exact Or.inl ‹_›
    split at h
    · exact Or.inr (Or.inl ‹_›)
    split at h
    · exact Or.inr (Or.inr ‹_›)
    · exact nomatch h
  have hnat : 48 ≤ a.toNat ∧ a.toNat ≤ 57 ∨ 97 ≤ a.toNat ∧ a.toNat ≤ 102
      ∨ 65 ≤ a.toNat ∧ a.toNat ≤ 70 := hrange
  refine ⟨?_, ?_, ?_⟩
  · rintro rfl
    exact absurd hnat (by decide)
  · rintro rfl
    exact absurd hnat (by decide)
  · simp only [isControl, Bool.or_eq_false_iff, Bool.and_eq_false_iff, decide_eq_false_iff_not]
    omega

theorem hexes_of_code {a b c d : Char} (h : (StringItem.code a b c d).WellFormed) :
    ∀ x ∈ [a, b, c, d], (Json.hexValue x).isSome = true := by
  obtain ⟨n, hn⟩ := Option.isSome_iff_exists.mp h
  simp only [Json.hexNumber, bind, Option.bind_eq_some_iff] at hn
  obtain ⟨_, ha, _, hb, _, hc, _, hd, _⟩ := hn
  simp [ha, hb, hc, hd]

/-- Characters that mean nothing to the scanners. -/
theorem keyScan_plain {cs : Text} (h : ∀ c ∈ cs, c ≠ '"' ∧ c ≠ '\\') :
    keyScan true false (cs ++ t) = keyScan true false t := by
  induction cs with
  | nil => rfl
  | cons c cs ih =>
    obtain ⟨⟨hquote, hslash⟩, hcs⟩ := List.forall_mem_cons.mp h
    rw [List.cons_append, keyScan, if_neg (by decide), if_neg hslash, if_neg hquote, ih hcs]

theorem quoteScan_plain {cs : Text} (h : ∀ c ∈ cs, c ≠ '"' ∧ c ≠ '\\') :
    quoteScan true false (cs ++ t) = cs ++ quoteScan true false t := by
  induction cs with
  | nil => rfl
  | cons c cs ih =>
    obtain ⟨⟨hquote, hslash⟩, hcs⟩ := List.forall_mem_cons.mp h
    rw [List.cons_append, quoteScan, if_neg (by decide), if_neg hslash, if_neg hquote, ih hcs,
      List.cons_append]

theorem escapeScan_plain {cs : Text}
    (h : ∀ c ∈ cs, c ≠ '"' ∧ c ≠ '\\' ∧ isControl c = false) :
    escapeScan true false (cs ++ t) = cs ++ escapeScan true false t := by
  induction cs with
  | nil => rfl
  | cons c cs ih =>
    obtain ⟨⟨hquote, hslash, hcontrol⟩, hcs⟩ := List.forall_mem_cons.mp h
    rw [List.cons_append, escapeScan, if_neg (fun h' => hslash h'.1), if_neg hquote,
      if_neg (by simp [hcontrol]), ih hcs, List.cons_append]

theorem keyScan_items (h : ∀ i ∈ items, i.WellFormed) :
    keyScan true false (itemsText items ++ '"' :: t) = keyScan false false t := by
  induction items with
  | nil => simp [itemsText, keyScan]
  | cons i items ih =>
    obtain ⟨hi, hitems⟩ := List.forall_mem_cons.mp h
    rw [Json.itemsText_cons, List.append_assoc]
    cases i with
    | raw c => rw [StringItem.text, keyScan_plain (List.forall_mem_singleton.mpr hi), ih hitems]
    | short e =>
      rw [StringItem.text, List.cons_append, List.singleton_append, keyScan, if_neg (by decide),
        if_pos rfl, keyScan, if_pos rfl, ih hitems]
    | code a b c d =>
      have hplain : ∀ x ∈ [a, b, c, d], x ≠ '"' ∧ x ≠ '\\' := fun x hx =>
        ⟨(hex_plain (hexes_of_code hi x hx)).1, (hex_plain (hexes_of_code hi x hx)).2.1⟩
      have hrest := keyScan_plain (t := itemsText items ++ '"' :: t) hplain
      rw [StringItem.text, List.cons_append, List.cons_append, keyScan, if_neg (by decide),
        if_pos rfl, keyScan, if_pos rfl, hrest, ih hitems]

theorem quoteScan_items (h : ∀ i ∈ items, i.WellFormed) :
    quoteScan true false (itemsText items ++ '"' :: t)
      = itemsText items ++ '"' :: quoteScan false false t := by
  induction items with
  | nil => simp [itemsText, quoteScan]
  | cons i items ih =>
    obtain ⟨hi, hitems⟩ := List.forall_mem_cons.mp h
    rw [Json.itemsText_cons, List.append_assoc, List.append_assoc]
    cases i with
    | raw c => rw [StringItem.text, quoteScan_plain (List.forall_mem_singleton.mpr hi), ih hitems]
    | short e =>
      rw [StringItem.text, List.cons_append, List.singleton_append, quoteScan, if_neg (by decide),
        if_pos rfl, quoteScan, if_pos rfl, ih hitems]
      rfl
    | code a b c d =>
      have hplain : ∀ x ∈ [a, b, c, d], x ≠ '"' ∧ x ≠ '\\' := fun x hx =>
        ⟨(hex_plain (hexes_of_code hi x hx)).1, (hex_plain (hexes_of_code hi x hx)).2.1⟩
      have hrest := quoteScan_plain (t := itemsText items ++ '"' :: t) hplain
      rw [StringItem.text, List.cons_append, List.cons_append, quoteScan, if_neg (by decide),
        if_pos rfl, quoteScan, if_pos rfl, hrest, ih hitems]
      rfl

/-- The escape of a control character. -/
def controlItem (c : Char) : StringItem :=
  if c = '\n' then .short 'n'
  else if c = '\r' then .short 'r'
  else if c = '\t' then .short 't'
  else .code '0' '0' (Nat.digitChar (c.toNat / 16)) (Nat.digitChar (c.toNat % 16))

/-- What `escape_raw_control_chars_in_strings` makes of an item. -/
def escapeItem : StringItem → StringItem
  | .raw c => if isControl c then controlItem c else .raw c
  | i => i

theorem escapeItem_raw (c : Char) :
    escapeItem (.raw c) = if isControl c then controlItem c else .raw c := rfl

theorem text_controlItem (c : Char) : (controlItem c).text = controlEscape c := by
  unfold controlItem controlEscape
  split
  · rfl
  split
  · rfl
  split <;> rfl

/-- A fact about the control characters, checked one by one. -/
theorem control_forall {P : Char → Prop} (h : ∀ n < 160, P (Char.ofNat n)) {c : Char}
    (hc : isControl c = true) : P c := by
  have hlt : c.toNat < 160 := by
    simp only [isControl, Bool.or_eq_true, Bool.and_eq_true, decide_eq_true_eq] at hc
    omega
  have hP := h c.toNat hlt
  rwa [Char.ofNat_toNat] at hP

theorem controlItem_spec {c : Char} (h : isControl c = true) :
    (controlItem c).units = Json.utf16 c ∧ (controlItem c).strict = true ∧
      (controlItem c).WellFormed :=
  control_forall (P := fun c => (controlItem c).units = Json.utf16 c ∧
    (controlItem c).strict = true ∧ (controlItem c).WellFormed) (by decide +kernel) h

theorem units_escapeItem (i : StringItem) : (escapeItem i).units = i.units := by
  cases i with
  | raw c =>
    rw [escapeItem_raw]
    split
    · exact (controlItem_spec ‹_›).1
    · rfl
  | short e | code a b c d => rfl

theorem wellFormed_escapeItem {i : StringItem} (h : i.WellFormed) : (escapeItem i).WellFormed := by
  cases i with
  | raw c =>
    rw [escapeItem_raw]
    split
    · exact (controlItem_spec ‹_›).2.2
    · exact h
  | short e | code a b c d => exact h

theorem strict_escapeItem (i : StringItem) : (escapeItem i).strict = true := by
  cases i with
  | raw c =>
    rw [escapeItem_raw]
    split
    case isTrue hcontrol => exact (controlItem_spec hcontrol).2.1
    case isFalse hcontrol =>
      simp only [isControl, Bool.or_eq_true, decide_eq_true_eq, not_or] at hcontrol
      exact decide_eq_true (Nat.not_lt.mp hcontrol.1)
  | short e | code a b c d => rfl

/-- What a string stands for is kept when its control characters are escaped. -/
theorem content_escapeItem (items : List StringItem) :
    Json.content (items.map escapeItem) = Json.content items := by
  simp only [Json.content, List.flatMap_map, units_escapeItem]

theorem escapeScan_items (h : ∀ i ∈ items, i.WellFormed) :
    escapeScan true false (itemsText items ++ '"' :: t)
      = itemsText (items.map escapeItem) ++ '"' :: escapeScan false false t := by
  induction items with
  | nil => simp [itemsText, escapeScan]
  | cons i items ih =>
    obtain ⟨hi, hitems⟩ := List.forall_mem_cons.mp h
    rw [List.map_cons, Json.itemsText_cons, Json.itemsText_cons, List.append_assoc,
      List.append_assoc]
    cases i with
    | raw c =>
      obtain ⟨hquote, hslash⟩ := hi
      rw [StringItem.text, List.singleton_append, escapeScan, if_neg (fun h' => hslash h'.1),
        if_neg hquote, ih hitems, escapeItem_raw]
      by_cases hcontrol : isControl c = true
      · rw [if_pos ⟨rfl, hcontrol⟩, if_pos hcontrol, text_controlItem]
      · rw [if_neg (fun h' => hcontrol h'.2), if_neg hcontrol]
        rfl
    | short e =>
      rw [StringItem.text, List.cons_append, List.singleton_append, escapeScan, if_pos ⟨rfl, rfl⟩,
        escapeScan, ih hitems]
      rfl
    | code a b c d =>
      -- the four digits are passed over outside the escape
      have hrest := escapeScan_plain (t := itemsText items ++ '"' :: t)
        fun x hx => hex_plain (hexes_of_code hi x hx)
      rw [StringItem.text, List.cons_append, List.cons_append, escapeScan, if_pos ⟨rfl, rfl⟩,
        escapeScan, hrest, ih hitems]
      rfl

end strings

/-! ### Outside of strings -/

section outside

variable {t : Text} {w : Text}

/-- A test that fails where something else begins. -/
theorem scan_append {p : Char → Bool} (h : ∀ c ∈ t.head?, p c = false) (w : Text) :
    (w ++ t).takeWhile p = w.takeWhile p ∧ (w ++ t).dropWhile p = w.dropWhile p ++ t := by
  induction w with
  | nil =>
    cases t with
    | nil => exact ⟨rfl, rfl⟩
    | cons c t => simp [h c rfl]
  | cons c w ih =>
    cases hc : p c with
    | true => simp [hc, ih.1, ih.2]
    | false => simp [hc]

theorem wordChar_of_identifierPart {c : Char} (h : isIdentifierPart c = true) :
    isWordChar c = true := by
  simp only [isIdentifierPart, Bool.or_eq_true, beq_iff_eq] at h
  rcases h with (halnum | rfl) | rfl
  · simp [isWordChar, halnum]
  · rfl
  · rfl

theorem not_identifierPart {c : Char} (h : isWordChar c = false) : isIdentifierPart c = false := by
  cases hc : isIdentifierPart c with
  | false => rfl
  | true => exact absurd (wordChar_of_identifierPart hc) (by simp [h])

theorem not_identifierStart {c : Char} (h : isWordChar c = false) :
    isIdentifierStart c = false := by
  cases hc : isIdentifierStart c with
  | false => rfl
  | true => exact absurd (wordChar_of_identifierPart (identifierPart_of_start hc)) (by simp [h])

/-- A test for white space, as the scanners skip it before a colon. -/
structure Blank (p : Char → Bool) : Prop where
  space : ∀ c, isSpace c = true → p c = true
  word : ∀ c, isWordChar c = true → p c = false
  punct : ∀ c ∈ puncts, p c = false
  quote : p '"' = false

theorem wordChar_cases {c : Char} (h : isWordChar c = true) :
    48 ≤ c.toNat ∧ c.toNat ≤ 57 ∨ 65 ≤ c.toNat ∧ c.toNat ≤ 90 ∨ 97 ≤ c.toNat ∧ c.toNat ≤ 122
      ∨ c.toNat = 43 ∨ c.toNat = 45 ∨ c.toNat = 46 ∨ c.toNat = 95 ∨ c.toNat = 36 := by
  simp only [isWordChar, Char.isAlphanum, Char.isAlpha, Char.isUpper, Char.isLower, Char.isDigit,
    Bool.or_eq_true, Bool.and_eq_true, decide_eq_true_eq, ge_iff_le, UInt32.le_iff_toNat_le,
    beq_iff_eq] at h
  have hval : c.val.toNat = c.toNat := rfl
  have hA : 'A'.val.toNat = 65 := rfl
  have hZ : 'Z'.val.toNat = 90 := rfl
  have ha : 'a'.val.toNat = 97 := rfl
  have hz : 'z'.val.toNat = 122 := rfl
  have h0 : '0'.val.toNat = 48 := rfl
  have h9 : '9'.val.toNat = 57 := rfl
  rcases h with ((((((h | h) | h) | rfl) | rfl) | rfl) | rfl) | rfl
  · omega
  · omega
  · omega
  all_goals decide

theorem blank_whiteSpace : Blank isWhiteSpace where
  space c hc := by
    simp only [isSpace, Bool.or_eq_true, decide_eq_true_eq] at hc
    rcases hc with ((rfl | rfl) | rfl) | rfl <;> rfl
  word c hc := by
    have hcases := wordChar_cases hc
    simp only [isWhiteSpace, Bool.or_eq_false_iff, Bool.and_eq_false_iff, decide_eq_false_iff_not,
      beq_eq_false_iff_ne, ne_eq]
    omega
  punct c hc := by
    simp only [puncts, List.mem_cons, List.not_mem_nil, or_false] at hc
    rcases hc with rfl | rfl | rfl | rfl | rfl | rfl <;> rfl
  quote := rfl

theorem blank_asciiWhitespace : Blank isAsciiWhitespace where
  space c hc := by
    simp only [isSpace, Bool.or_eq_true, decide_eq_true_eq] at hc
    rcases hc with ((rfl | rfl) | rfl) | rfl <;> rfl
  word c hc := by
    cases hblank : isAsciiWhitespace c with
    | false => rfl
    | true =>
      simp only [isAsciiWhitespace, Bool.or_eq_true, beq_iff_eq] at hblank
      rcases hblank with (((rfl | rfl) | rfl) | rfl) | rfl <;> exact absurd hc (by decide)
  punct c hc := by
    simp only [puncts, List.mem_cons, List.not_mem_nil, or_false] at hc
    rcases hc with rfl | rfl | rfl | rfl | rfl | rfl <;> rfl
  quote := rfl

/-- What follows an identifier within a word. -/
theorem head_after {p : Char → Bool} (hp : Blank p) (hw : ∀ c ∈ w, isWordChar c = true)
    (hcolon : (t.dropWhile p).head? ≠ some ':') :
    ((afterIdentifier w ++ t).dropWhile p).head? ≠ some ':' := by
  cases hafter : afterIdentifier w with
  | nil => exact hcolon
  | cons d ds =>
    have hd : isWordChar d = true := hw d ((List.dropWhile_suffix _).mem (by
      rw [show w.dropWhile isIdentifierPart = d :: ds from hafter]
      exact List.mem_cons_self ..))
    rw [List.cons_append, List.dropWhile_cons_of_neg (by simp [hp.word d hd])]
    intro h
    obtain rfl : d = ':' := Option.some.inj h
    exact absurd hd (by decide)

/-- A word that no colon follows. -/
theorem keyScan_word (hw : ∀ c ∈ w, isWordChar c = true)
    (ht : ∀ c ∈ t.head?, isWordChar c = false)
    (hcolon : (t.dropWhile isAsciiWhitespace).head? ≠ some ':') :
    keyScan false false (w ++ t) = keyScan false false t := by
  induction hn : w.length using Nat.strong_induction_on generalizing w with
  | _ n ih =>
    cases w with
    | nil => rfl
    | cons c w =>
      subst hn
      obtain ⟨hc, hw⟩ := List.forall_mem_cons.mp hw
      have hquote : c ≠ '"' := by
        rintro rfl
        exact nomatch hc
      rw [List.cons_append, keyScan, if_neg hquote]
      by_cases hstart : isIdentifierStart c = true
      · have hafter : afterIdentifier (w ++ t) = afterIdentifier w ++ t :=
          (scan_append (fun c hc => not_identifierPart (ht c hc)) w).2
        rw [if_pos hstart, hafter, if_neg (head_after blank_asciiWhitespace hw hcolon)]
        exact ih _ (Nat.lt_succ_of_le (length_afterIdentifier w))
          (fun c hc => hw c ((List.dropWhile_suffix _).mem hc)) rfl
      · rw [if_neg hstart]
        exact ih _ (Nat.lt_succ_self _) hw rfl

theorem quoteScan_word (hw : ∀ c ∈ w, isWordChar c = true)
    (ht : ∀ c ∈ t.head?, isWordChar c = false)
    (hcolon : (t.dropWhile isWhiteSpace).head? ≠ some ':') :
    quoteScan false false (w ++ t) = w ++ quoteScan false false t := by
  induction hn : w.length using Nat.strong_induction_on generalizing w with
  | _ n ih =>
    cases w with
    | nil => rfl
    | cons c w =>
      subst hn
      obtain ⟨hc, hw⟩ := List.forall_mem_cons.mp hw
      have hquote : c ≠ '"' := by
        rintro rfl
        exact nomatch hc
      rw [List.cons_append, quoteScan, if_neg hquote]
      by_cases hstart : isIdentifierStart c = true
      · obtain ⟨htake, hafter⟩ := scan_append (fun c hc => not_identifierPart (ht c hc)) w
        have hafter : afterIdentifier (w ++ t) = afterIdentifier w ++ t := hafter
        have hlater := ih _ (Nat.lt_succ_of_le (length_afterIdentifier w))
          (fun c hc => hw c ((List.dropWhile_suffix _).mem hc)) rfl
        rw [if_pos hstart, hafter, if_neg (head_after blank_whiteSpace hw hcolon), htake]
        rw [show quoteScan false false (afterIdentifier w ++ t)
          = afterIdentifier w ++ quoteScan false false t from hlater]
        rw [List.cons_append, List.cons_append, ← List.append_assoc]
        exact congrArg (c :: · ++ _) (List.takeWhile_append_dropWhile ..)
      · rw [if_neg hstart, ih _ (Nat.lt_succ_self _) hw rfl, List.cons_append]

/-- An identifier: what a key may be without its quotes. -/
def IsIdentifier : Text → Prop
  | [] => False
  | c :: w => isIdentifierStart c = true ∧ ∀ d ∈ w, isIdentifierPart d = true

/-- A key without quotes is found. -/
theorem keyScan_key (hw : IsIdentifier w) (ht : ∀ c ∈ t.head?, isWordChar c = false)
    (hcolon : (t.dropWhile isAsciiWhitespace).head? = some ':') :
    keyScan false false (w ++ t) = true := by
  cases w with
  | nil => exact hw.elim
  | cons c w =>
    obtain ⟨hstart, hparts⟩ := hw
    have hquote : c ≠ '"' := by
      rintro rfl
      exact nomatch hstart
    have hafter : afterIdentifier (w ++ t) = t := by
      have hdrop := (scan_append (fun c hc => not_identifierPart (ht c hc)) w).2
      rwa [List.dropWhile_eq_nil_iff.mpr hparts, List.nil_append] at hdrop
    rw [List.cons_append, keyScan, if_neg hquote, if_pos hstart, hafter, if_pos hcolon]

/-- A key without quotes is put into quotes. -/
theorem quoteScan_key {sp : Text} (hw : IsIdentifier w) (hsp : ∀ c ∈ sp, isSpace c = true) :
    quoteScan false false (w ++ (sp ++ ':' :: t))
      = '"' :: (w ++ '"' :: (sp ++ ':' :: quoteScan false false t)) := by
  cases w with
  | nil => exact hw.elim
  | cons c w =>
    obtain ⟨hstart, hparts⟩ := hw
    have hquote : c ≠ '"' := by
      rintro rfl
      exact nomatch hstart
    -- the identifier ends before the white space or the colon
    have hhead : ∀ d ∈ (sp ++ ':' :: t).head?, isIdentifierPart d = false := by
      intro d hd
      cases sp with
      | nil =>
        obtain rfl : ':' = d := by simpa using hd
        rfl
      | cons e sp =>
        obtain rfl : e = d := by simpa using hd
        exact not_identifierPart (Json.not_word_of_space (hsp _ (List.mem_cons_self ..)))
    obtain ⟨htake, hdrop⟩ := scan_append hhead w
    rw [List.takeWhile_eq_self_iff.mpr hparts] at htake
    rw [List.dropWhile_eq_nil_iff.mpr hparts, List.nil_append] at hdrop
    have hafter : afterIdentifier (w ++ (sp ++ ':' :: t)) = sp ++ ':' :: t := hdrop
    have hcolon : ∀ d ∈ (':' :: t).head?, isWhiteSpace d = false := by
      intro d hd
      obtain rfl : ':' = d := by simpa using hd
      rfl
    obtain ⟨hblank, hrest⟩ := scan_append hcolon sp
    have hspace : ∀ d ∈ sp, isWhiteSpace d = true := fun d hd => blank_whiteSpace.space d (hsp d hd)
    rw [List.takeWhile_eq_self_iff.mpr hspace] at hblank
    rw [List.dropWhile_eq_nil_iff.mpr hspace, List.nil_append] at hrest
    rw [List.cons_append, quoteScan, if_neg hquote, if_pos hstart]
    simp only [hafter, hblank, hrest, htake, List.head?_cons, if_true, List.tail_cons]
    simp

end outside

/-! ### Lexeme by lexeme -/

section lexemes

variable {l l' : List Lexeme} {x : Lexeme}

/-- The next token is a colon. -/
def BeforeColon (l : List Lexeme) : Prop :=
  (tokens l).head? = some (.punct ':')

/-- Every key has its quotes: no word comes before a colon. -/
def QuotedKeys : List Token → Prop
  | [] => True
  | .word _ :: rest => rest.head? ≠ some (.punct ':') ∧ QuotedKeys rest
  | .punct _ :: rest | .str _ :: rest => QuotedKeys rest

theorem head_text_not_word (h : Json.Lexed (x :: l)) (hsolid : x.solid = false) :
    ∃ c, x.text = [c] ∧ (isSpace c = true ∨ c ∈ puncts) := by
  cases x with
  | space c => exact ⟨c, rfl, Or.inl h.1⟩
  | punct c => exact ⟨c, rfl, Or.inr h.1⟩
  | str items | word w => exact nomatch hsolid

/-- A colon is the next token where it is the next character after white space. -/
theorem beforeColon_iff {p : Char → Bool} (hp : Blank p) (h : Json.Lexed l) :
    ((render l).dropWhile p).head? = some ':' ↔ BeforeColon l := by
  unfold BeforeColon
  induction l with
  | nil => exact iff_of_false (fun h => by cases h) fun h => by cases h
  | cons x l ih =>
    rw [Json.render_cons, Json.tokens_cons]
    cases x with
    | space c =>
      rw [Lexeme.text, List.singleton_append, List.dropWhile_cons_of_pos (hp.space c h.1)]
      exact ih h.2
    | punct c =>
      rw [Lexeme.text, List.singleton_append,
        List.dropWhile_cons_of_neg (by simp [hp.punct c h.1])]
      simp [Lexeme.token]
    | str items =>
      rw [Lexeme.text, List.cons_append, List.dropWhile_cons_of_neg (by simp [hp.quote])]
      simp [Lexeme.token]
    | word w =>
      obtain ⟨c, w, rfl⟩ := List.exists_cons_of_ne_nil h.1.1
      have hc := h.1.2 c (List.mem_cons_self ..)
      have hcolon : c ≠ ':' := by
        rintro rfl
        cases hc
      rw [Lexeme.text, List.cons_append, List.dropWhile_cons_of_neg (by simp [hp.word c hc])]
      simp [Lexeme.token, hcolon]

theorem render_of_beforeColon (h : Json.Lexed l) (hcolon : BeforeColon l) :
    ∃ sp l₂, (∀ c ∈ sp, isSpace c = true) ∧ render l = sp ++ ':' :: render l₂ ∧
      quoteScan false false (render l) = sp ++ ':' :: quoteScan false false (render l₂) := by
  unfold BeforeColon at hcolon
  induction l with
  | nil => cases hcolon
  | cons x l ih =>
    rw [Json.tokens_cons] at hcolon
    cases x with
    -- white space before the colon is kept
    | space c =>
      obtain ⟨sp, l₂, hsp, hrender, hquote⟩ := ih h.2 hcolon
      have hword := Json.not_word_of_space h.1
      have hne : c ≠ '"' := by
        rintro rfl
        cases h.1
      refine ⟨c :: sp, l₂, List.forall_mem_cons.mpr ⟨h.1, hsp⟩, ?_, ?_⟩
      · rw [Json.render_cons, hrender]
        rfl
      · rw [Json.render_cons, Lexeme.text, List.singleton_append, quoteScan, if_neg hne,
          if_neg (by simp [not_identifierStart hword]), hquote]
        rfl
    | punct c =>
      obtain rfl : c = ':' := by simpa [Lexeme.token] using hcolon
      refine ⟨[], l, fun _ hc => (by cases hc), rfl, ?_⟩
      rw [Json.render_cons, Lexeme.text, List.singleton_append, quoteScan, if_neg (by decide),
        if_neg (by decide)]
      rfl
    | str items => exact absurd hcolon (by simp [Lexeme.token])
    | word w => exact absurd hcolon (by simp [Lexeme.token])

/-- **Both scanners** pass over a lexeme, unless it is a word before a colon. -/
theorem scan_lexeme (h : Json.Lexed (x :: l)) (hkey : ∀ w, x = .word w → ¬BeforeColon l) :
    keyScan false false (render (x :: l)) = keyScan false false (render l) ∧
      quoteScan false false (render (x :: l)) = x.text ++ quoteScan false false (render l) := by
  rw [Json.render_cons]
  cases x with
  | space c =>
    have hword := not_identifierStart (Json.not_word_of_space h.1)
    have hne : c ≠ '"' := by
      rintro rfl
      exact nomatch h.1
    simp [Lexeme.text, keyScan, quoteScan, hne, hword]
  | punct c =>
    have hword := not_identifierStart (Json.not_word_of_punct h.1)
    have hne : c ≠ '"' := by
      rintro rfl
      exact absurd h.1 (by decide)
    simp [Lexeme.text, keyScan, quoteScan, hne, hword]
  | str items =>
    rw [Lexeme.text, List.cons_append, List.append_assoc, List.singleton_append, keyScan,
      if_pos rfl, keyScan_items h.1, quoteScan, if_pos rfl, quoteScan_items h.1]
    exact ⟨rfl, by simp⟩
  -- a word that is no key is passed over by both scanners
  | word w =>
    obtain ⟨⟨-, hw⟩, hsolid, hl⟩ := h
    have hhead := Json.not_word_after hl hsolid
    have hcolon := hkey w rfl
    constructor
    · apply keyScan_word hw hhead
      intro h'
      exact hcolon ((beforeColon_iff blank_asciiWhitespace hl).mp h')
    · apply quoteScan_word hw hhead
      intro h'
      exact hcolon ((beforeColon_iff blank_whiteSpace hl).mp h')

theorem lexed_tail (h : Json.Lexed (x :: l)) : Json.Lexed l := by
  cases x with
  | space c | punct c | str items => exact h.2
  | word w => exact h.2.2

theorem quotedKeys_cons (h : QuotedKeys (tokens (x :: l))) :
    (∀ w, x = .word w → ¬BeforeColon l) ∧ QuotedKeys (tokens l) := by
  rw [Json.tokens_cons] at h
  cases x with
  | space c => exact ⟨fun _ hw => (nomatch hw), h⟩
  | punct c | str items => exact ⟨fun _ hw => (nomatch hw), h⟩
  | word w => exact ⟨fun _ _ => h.1, h.2⟩

/-- A text whose keys have their quotes is left as it is. -/
theorem scan_quoted (h : Json.Lexed l) (hkeys : QuotedKeys (tokens l)) :
    keyScan false false (render l) = false ∧ quoteScan false false (render l) = render l := by
  induction l with
  | nil => exact ⟨by simp [render, keyScan], by simp [render, quoteScan]⟩
  | cons x l ih =>
    obtain ⟨hkey, htail⟩ := quotedKeys_cons hkeys
    obtain ⟨hscan, hquote⟩ := scan_lexeme h hkey
    obtain ⟨hnone, hsame⟩ := ih (lexed_tail h) htail
    exact ⟨hscan.trans hnone, by rw [hquote, hsame, Json.render_cons]⟩

/-! ### Keys without quotes -/

/-- Some of the keys lose their quotes, of those that are identifiers. -/
inductive Unquotes : List Lexeme → List Lexeme → Prop where
  | nil : Unquotes [] []
  | keep (x : Lexeme) {l l' : List Lexeme} (rest : Unquotes l l') : Unquotes (x :: l) (x :: l')
  | unquote {items : List StringItem} {w : Text} {l l' : List Lexeme} (name : IsIdentifier w)
      (same : Json.content items = w.flatMap Json.utf16) (key : BeforeColon l)
      (rest : Unquotes l l') : Unquotes (.str items :: l) (.word w :: l')

theorem Unquotes.beforeColon (h : Unquotes l l') : BeforeColon l' ↔ BeforeColon l := by
  unfold BeforeColon
  induction h with
  | nil => exact Iff.rfl
  | keep x rest ih =>
    rw [Json.tokens_cons, Json.tokens_cons]
    cases x with
    | space c => exact ih
    | punct c | str items | word w => exact Iff.rfl
  | unquote name same key rest ih =>
    rw [Json.tokens_cons, Json.tokens_cons]
    exact iff_of_false (by simp [Lexeme.token]) (by simp [Lexeme.token])

theorem Unquotes.head (h : Unquotes l l') (hsolid : ∀ y ∈ l.head?, y.solid = false) :
    ∀ y ∈ l'.head?, y.solid = false := by
  cases h with
  | nil => exact hsolid
  | keep x rest => exact hsolid
  | unquote name same key rest => exact nomatch hsolid _ rfl

theorem solid_of_beforeColon (h : BeforeColon l) : ∀ y ∈ l.head?, y.solid = false := by
  cases l with
  | nil => exact fun _ hy => nomatch hy
  | cons x l =>
    intro y hy
    obtain rfl : x = y := by simpa using hy
    cases x with
    | space c | punct c => rfl
    | str items | word w =>
      unfold BeforeColon at h
      rw [Json.tokens_cons] at h
      exact absurd h (by simp [Lexeme.token])

theorem wordChars_of_identifier {w : Text} (h : IsIdentifier w) :
    w ≠ [] ∧ ∀ c ∈ w, isWordChar c = true := by
  cases w with
  | nil => exact h.elim
  | cons c w =>
    refine ⟨List.cons_ne_nil _ _, List.forall_mem_cons.mpr ⟨?_, fun d hd => ?_⟩⟩
    · exact wordChar_of_identifierPart (identifierPart_of_start h.1)
    · exact wordChar_of_identifierPart (h.2 d hd)

theorem Unquotes.lexed (h : Unquotes l l') (hl : Json.Lexed l) : Json.Lexed l' := by
  induction h with
  | nil => exact hl
  | keep x rest ih =>
    have htail := ih (lexed_tail hl)
    cases x with
    | space c | punct c | str items => exact ⟨hl.1, htail⟩
    | word w => exact ⟨hl.1, rest.head hl.2.1, htail⟩
  | unquote name same key rest ih =>
    exact ⟨wordChars_of_identifier name, rest.head (solid_of_beforeColon key), ih hl.2⟩

theorem Unquotes.strict (h : Unquotes l l') (hl : l.all Lexeme.strict = true) :
    l'.all Lexeme.strict = true := by
  induction h with
  | nil => exact hl
  | keep x rest ih =>
    rw [List.all_cons, Bool.and_eq_true] at hl ⊢
    exact ⟨hl.1, ih hl.2⟩
  | unquote name same key rest ih =>
    rw [List.all_cons, Bool.and_eq_true] at hl ⊢
    exact ⟨rfl, ih hl.2⟩

/-- Keys without quotes are found, if there are any. -/
theorem Unquotes.found (h : Unquotes l l') (hl : Json.Lexed l) (hkeys : QuotedKeys (tokens l)) :
    l' = l ∨ keyScan false false (render l') = true := by
  induction h with
  | nil => exact Or.inl rfl
  | keep x rest ih =>
    obtain ⟨hkey, htail⟩ := quotedKeys_cons hkeys
    rcases ih (lexed_tail hl) htail with rfl | hfound
    · exact Or.inl rfl
    · have hlexed := (Unquotes.keep x rest).lexed hl
      have hscan := (scan_lexeme hlexed fun w hw hcolon => hkey w hw (rest.beforeColon.mp hcolon)).1
      exact Or.inr (hscan.trans hfound)
  | unquote name same key rest ih =>
    have hlexed := (Unquotes.unquote name same key rest).lexed hl
    have hcolon := (beforeColon_iff blank_asciiWhitespace (lexed_tail hlexed)).mpr
      (rest.beforeColon.mpr key)
    exact Or.inr (keyScan_key name (Json.not_word_after (lexed_tail hlexed) hlexed.2.1) hcolon)

theorem identifier_strict {w : Text} (h : IsIdentifier w) :
    (∀ i ∈ Json.rawItems w, i.WellFormed) ∧ (Json.rawItems w).all StringItem.strict = true := by
  have hchars := (wordChars_of_identifier h).2
  have hplain : ∀ c ∈ w, (StringItem.raw c).WellFormed ∧ (StringItem.raw c).strict = true := by
    intro c hc
    have hcases := wordChar_cases (hchars c hc)
    refine ⟨⟨?_, ?_⟩, decide_eq_true (by omega)⟩
    · rintro rfl
      exact absurd hcases (by decide)
    · rintro rfl
      exact absurd hcases (by decide)
  constructor
  · intro i hi
    obtain ⟨c, hc, rfl⟩ := List.mem_map.mp hi
    exact (hplain c hc).1
  · rw [List.all_eq_true]
    intro i hi
    obtain ⟨c, hc, rfl⟩ := List.mem_map.mp hi
    exact (hplain c hc).2

/-- **Quoting**: the keys get their quotes back, and the text has the tokens it
    had. -/
theorem quoteScan_unquotes (h : Unquotes l l') (hl : Json.Lexed l)
    (hstrict : l.all Lexeme.strict = true) (hkeys : QuotedKeys (tokens l)) :
    ∃ l₂, quoteScan false false (render l') = render l₂ ∧ Json.Lexed l₂ ∧
      l₂.all Lexeme.strict = true ∧ tokens l₂ = tokens l ∧
      l₂.map Lexeme.solid = l.map Lexeme.solid := by
  induction h with
  | nil => exact ⟨[], by simp [render, quoteScan], trivial, rfl, rfl, rfl⟩
  -- a lexeme that was kept: a word among them is no key
  | @keep x l l' rest ih =>
    rw [List.all_cons, Bool.and_eq_true] at hstrict
    obtain ⟨hkey, htail⟩ := quotedKeys_cons hkeys
    obtain ⟨l₂, hquote, hlexed, hall, htokens, hsolids⟩ := ih (lexed_tail hl) hstrict.2 htail
    have hscan := (scan_lexeme ((Unquotes.keep x rest).lexed hl)
      fun w hw hcolon => hkey w hw (rest.beforeColon.mp hcolon)).2
    refine ⟨x :: l₂, ?_, ?_, ?_, ?_, ?_⟩
    · rw [hscan, hquote, Json.render_cons]
    · cases x with
      | space c | punct c | str items => exact ⟨hl.1, hlexed⟩
      | word w =>
        refine ⟨hl.1, ?_, hlexed⟩
        have hhead := hl.2.1
        cases l₂ <;> cases l <;> simp_all
    · rw [List.all_cons, hstrict.1, hall]
      rfl
    · rw [Json.tokens_cons, Json.tokens_cons, htokens]
    · rw [List.map_cons, List.map_cons, hsolids]
  -- a key that lost its quotes gets them back
  | @unquote items w l l' name same key rest ih =>
    rw [List.all_cons, Bool.and_eq_true] at hstrict
    obtain ⟨l₂, hquote, hlexed, hall, htokens, hsolids⟩ := ih hl.2 hstrict.2 hkeys
    obtain ⟨hwell, hplain⟩ := identifier_strict name
    have hrest := rest.lexed hl.2
    obtain ⟨sp, l₃, hsp, hrender, hscan⟩ :=
      render_of_beforeColon hrest (rest.beforeColon.mpr key)
    refine ⟨.str (Json.rawItems w) :: l₂, ?_, ⟨hwell, hlexed⟩, ?_, ?_, ?_⟩
    · rw [Json.render_cons, Json.render_cons, Lexeme.text, Lexeme.text, ← hquote, hscan, hrender,
        quoteScan_key name hsp, Json.itemsText_rawItems]
      simp
    · rw [List.all_cons, hall, Bool.and_true]
      exact hplain
    · rw [Json.tokens_cons, Json.tokens_cons, htokens, Lexeme.token, Lexeme.token, same]
      simp [Json.content, Json.rawItems, List.flatMap_map, StringItem.units]
    · rw [List.map_cons, List.map_cons, hsolids]
      rfl

end lexemes

/-! ### Control characters -/

section controls

variable {l l' : List Lexeme}

/-- A control character that may have lost its escape. -/
inductive UnescapesItem : StringItem → StringItem → Prop where
  | keep (i : StringItem) : UnescapesItem i i
  | unescape {i : StringItem} {c : Char} (same : i.units = Json.utf16 c)
      (control : isControl c = true) : UnescapesItem i (.raw c)

/-- Some of the control characters in strings lose their escapes. -/
inductive Unescapes : List Lexeme → List Lexeme → Prop where
  | nil : Unescapes [] []
  | keep (x : Lexeme) {l l' : List Lexeme} (rest : Unescapes l l') : Unescapes (x :: l) (x :: l')
  | str {items items' : List StringItem} {l l' : List Lexeme}
      (each : List.Forall₂ UnescapesItem items items') (rest : Unescapes l l') :
      Unescapes (.str items :: l) (.str items' :: l')

theorem control_plain {c : Char} (h : isControl c = true) : (StringItem.raw c).WellFormed := by
  constructor
  · rintro rfl
    exact absurd h (by decide)
  · rintro rfl
    exact absurd h (by decide)

theorem Unescapes.items {items items' : List StringItem}
    (h : List.Forall₂ UnescapesItem items items') :
    Json.content items' = Json.content items ∧
      ((∀ i ∈ items, i.WellFormed) → ∀ i ∈ items', i.WellFormed) := by
  induction h with
  | nil => exact ⟨rfl, id⟩
  | cons hitem _ ih =>
    obtain ⟨hcontent, hwell⟩ := ih
    rw [Json.content_cons, Json.content_cons, hcontent]
    cases hitem with
    | keep =>
      exact ⟨rfl, fun h => List.forall_mem_cons.mpr
        ⟨(List.forall_mem_cons.mp h).1, hwell (List.forall_mem_cons.mp h).2⟩⟩
    | unescape same control =>
      exact ⟨by rw [same]; rfl, fun h => List.forall_mem_cons.mpr
        ⟨control_plain control, hwell (List.forall_mem_cons.mp h).2⟩⟩

/-- The tokens stay what they were. -/
theorem Unescapes.tokens (h : Unescapes l l') : tokens l' = tokens l := by
  induction h with
  | nil => rfl
  | keep x rest ih => rw [Json.tokens_cons, Json.tokens_cons, ih]
  | str each rest ih =>
    rw [Json.tokens_cons, Json.tokens_cons, ih, Lexeme.token, Lexeme.token,
      (Unescapes.items each).1]

theorem Unescapes.head (h : Unescapes l l') (hsolid : ∀ y ∈ l.head?, y.solid = false) :
    ∀ y ∈ l'.head?, y.solid = false := by
  cases h with
  | nil => exact hsolid
  | keep x rest => exact hsolid
  | str each rest => exact nomatch hsolid _ rfl

theorem Unescapes.lexed (h : Unescapes l l') (hl : Json.Lexed l) : Json.Lexed l' := by
  induction h with
  | nil => exact hl
  | keep x rest ih =>
    have htail := ih (lexed_tail hl)
    cases x with
    | space c | punct c | str items => exact ⟨hl.1, htail⟩
    | word w => exact ⟨hl.1, rest.head hl.2.1, htail⟩
  | str each rest ih => exact ⟨(Unescapes.items each).2 hl.1, ih hl.2⟩

/-- What `escape_raw_control_chars_in_strings` makes of a lexeme. -/
def escapeLexeme : Lexeme → Lexeme
  | .str items => .str (items.map escapeItem)
  | x => x

theorem escapeScan_outside {cs t : Text} (h : '"' ∉ cs) :
    escapeScan false false (cs ++ t) = cs ++ escapeScan false false t := by
  induction cs with
  | nil => rfl
  | cons c cs ih =>
    obtain ⟨hc, hcs⟩ := not_or.mp (List.mem_cons.not.mp h)
    have hne : c ≠ '"' := fun h' => hc h'.symm
    rw [List.cons_append, escapeScan, if_neg (by simp), if_neg hne, if_neg (by simp), ih hcs,
      List.cons_append]

/-- **Escaping** changes control characters in strings, and nothing else. -/
theorem escapeScan_render (h : Json.Lexed l) :
    escapeScan false false (render l) = render (l.map escapeLexeme) ∧
      Json.Lexed (l.map escapeLexeme) ∧ (l.map escapeLexeme).all Lexeme.strict = true ∧
      tokens (l.map escapeLexeme) = tokens l := by
  induction l with
  | nil => exact ⟨by simp [render, escapeScan], trivial, rfl, rfl⟩
  | cons x l ih =>
    obtain ⟨hscan, hlexed, hstrict, htokens⟩ := ih (lexed_tail h)
    rw [List.map_cons, Json.render_cons, Json.render_cons, Json.tokens_cons, Json.tokens_cons,
      htokens, List.all_cons, hstrict, Bool.and_true]
    cases x with
    | space c =>
      have hne : '"' ∉ [c] := by
        rw [List.mem_singleton]
        rintro rfl
        cases h.1
      exact ⟨by rw [Lexeme.text, escapeScan_outside hne, hscan]; rfl, ⟨h.1, hlexed⟩, rfl, rfl⟩
    | punct c =>
      have hne : '"' ∉ [c] := by
        rw [List.mem_singleton]
        rintro rfl
        exact absurd h.1 (by decide)
      exact ⟨by rw [Lexeme.text, escapeScan_outside hne, hscan]; rfl, ⟨h.1, hlexed⟩, rfl, rfl⟩
    | str items =>
      have hitems : ∀ i ∈ items.map escapeItem, i.WellFormed := by
        intro i hi
        obtain ⟨j, hj, rfl⟩ := List.mem_map.mp hi
        exact wellFormed_escapeItem (h.1 j hj)
      have hall : (items.map escapeItem).all StringItem.strict = true := by
        rw [List.all_eq_true]
        intro i hi
        obtain ⟨j, -, rfl⟩ := List.mem_map.mp hi
        exact strict_escapeItem j
      refine ⟨?_, ⟨hitems, hlexed⟩, hall, ?_⟩
      · rw [Lexeme.text, List.cons_append, List.append_assoc, List.singleton_append, escapeScan,
          if_neg (by decide), if_pos rfl, Bool.not_false, escapeScan_items h.1, hscan]
        simp [escapeLexeme, Lexeme.text]
      · rw [escapeLexeme, Lexeme.token, Lexeme.token, content_escapeItem]
    -- a word has no quote in it, and what follows it is what followed before
    | word w =>
      have hne : '"' ∉ w := fun hmem => by cases h.1.2 _ hmem
      refine ⟨by rw [Lexeme.text, escapeScan_outside hne, hscan]; rfl, ⟨h.1, ?_, hlexed⟩, rfl, rfl⟩
      have hhead := h.2.1
      cases l with
      | nil => exact fun _ hy => by cases hy
      | cons y l =>
        intro z hz
        obtain rfl : escapeLexeme y = z := by simpa using hz
        have hy := hhead y rfl
        cases y with
        | space c | punct c => rfl
        | str items | word w => cases hy

end controls

/-! ### Literals of any text -/

section literals

variable {t : Text}

/-- A string literal. -/
def literal (items : List StringItem) : Text :=
  '"' :: (itemsText items ++ ['"'])

/-- A text by its string literals: what lies before each, and after the last. -/
def literalText (parts : List (Text × List StringItem)) (last : Text) : Text :=
  parts.flatMap (fun part => part.1 ++ literal part.2) ++ last

/-- The literals are well formed, and what is between them has no quotes. -/
def LiteralsWellFormed (parts : List (Text × List StringItem)) (last : Text) : Prop :=
  (∀ part ∈ parts, '"' ∉ part.1 ∧ ∀ i ∈ part.2, i.WellFormed) ∧ '"' ∉ last

/-- What is outside of strings is quoted by itself. -/
theorem quoteScan_outside {cs : Text} (hcs : '"' ∉ cs) (ht : ∀ c ∈ t.head?, c = '"') :
    quoteScan false false (cs ++ t) = quoteScan false false cs ++ quoteScan false false t := by
  induction hn : cs.length using Nat.strong_induction_on generalizing cs with
  | _ n ih =>
    cases cs with
    | nil => simp [quoteScan]
    | cons c cs =>
      subst hn
      obtain ⟨hc, hrest⟩ := not_or.mp (List.mem_cons.not.mp hcs)
      have hne : c ≠ '"' := fun h' => hc h'.symm
      have hpart : ∀ d ∈ t.head?, isIdentifierPart d = false := fun d hd => ht d hd ▸ rfl
      have hwhite : ∀ d ∈ t.head?, isWhiteSpace d = false := fun d hd => ht d hd ▸ rfl
      rw [List.cons_append, quoteScan, if_neg hne, quoteScan, if_neg hne]
      -- what follows is a quote or nothing, so no identifier reaches into it
      by_cases hstart : isIdentifierStart c = true
      · obtain ⟨htake, hafter⟩ := scan_append hpart cs
        have hafter : afterIdentifier (cs ++ t) = afterIdentifier cs ++ t := hafter
        obtain ⟨hblank, hlater⟩ := scan_append hwhite (afterIdentifier cs)
        have hsub : '"' ∉ afterIdentifier cs := fun hmem =>
          hrest ((List.dropWhile_suffix _).mem hmem)
        rw [if_pos hstart, if_pos hstart]
        simp only [hafter, htake, hblank, hlater]
        cases hdrop : (afterIdentifier cs).dropWhile isWhiteSpace with
        | nil =>
          have hcolon : t.head? ≠ some ':' := fun h' => by cases ht ':' h'
          rw [List.nil_append, if_neg hcolon, if_neg (by simp),
            ih _ (Nat.lt_succ_of_le (length_afterIdentifier cs)) hsub rfl]
          simp
        | cons d ds =>
          have hds : '"' ∉ ds := fun hmem => hsub ((List.dropWhile_suffix isWhiteSpace).mem (by
            rw [hdrop]
            exact List.mem_cons_of_mem _ hmem))
          have hlength : ds.length < (c :: cs).length := by
            have hle := List.length_dropWhile_le isWhiteSpace (afterIdentifier cs)
            rw [hdrop] at hle
            have hafterle := length_afterIdentifier cs
            simp only [List.length_cons] at hle ⊢
            omega
          rw [List.cons_append, List.head?_cons, List.head?_cons]
          by_cases hcolon : d = ':'
          · rw [if_pos (congrArg some hcolon), if_pos (congrArg some hcolon), List.tail_cons,
              List.tail_cons, ih _ hlength hds rfl]
            simp
          · have hne' : some d ≠ some ':' := fun h' => hcolon (Option.some.inj h')
            rw [if_neg hne', if_neg hne',
              ih _ (Nat.lt_succ_of_le (length_afterIdentifier cs)) hsub rfl]
            simp
      · rw [if_neg hstart, if_neg hstart, ih _ (Nat.lt_succ_self _) hrest rfl]
        rfl

/-- **Quoting** keeps every literal as it is. -/
theorem quote_literalText {parts : List (Text × List StringItem)} {last : Text}
    (h : LiteralsWellFormed parts last) :
    quoteUnquotedObjectKeys (literalText parts last)
      = literalText (parts.map fun part => (quoteUnquotedObjectKeys part.1, part.2))
          (quoteUnquotedObjectKeys last) := by
  obtain ⟨hparts, hlast⟩ := h
  unfold quoteUnquotedObjectKeys literalText
  induction parts with
  | nil => rfl
  | cons part parts ih =>
    obtain ⟨⟨hquote, hitems⟩, hrest⟩ := List.forall_mem_cons.mp hparts
    obtain ⟨cs, items⟩ := part
    rw [List.flatMap_cons, List.map_cons, List.flatMap_cons, List.append_assoc, List.append_assoc,
      quoteScan_outside hquote (fun c hc => by simpa [literal] using hc.symm), literal,
      List.cons_append, List.append_assoc, List.singleton_append, quoteScan, if_pos rfl,
      quoteScan_items hitems, ih hrest]
    simp

/-- **Escaping** keeps what every literal stands for, and all that is outside. -/
theorem escape_literalText {parts : List (Text × List StringItem)} {last : Text}
    (h : LiteralsWellFormed parts last) :
    escapeRawControlCharsInStrings (literalText parts last)
      = literalText (parts.map fun part => (part.1, part.2.map escapeItem)) last := by
  obtain ⟨hparts, hlast⟩ := h
  unfold escapeRawControlCharsInStrings literalText
  induction parts with
  | nil =>
    have hsame := escapeScan_outside (t := []) hlast
    rw [List.append_nil] at hsame
    simpa [escapeScan] using hsame
  | cons part parts ih =>
    obtain ⟨⟨hquote, hitems⟩, hrest⟩ := List.forall_mem_cons.mp hparts
    obtain ⟨cs, items⟩ := part
    rw [List.flatMap_cons, List.map_cons, List.flatMap_cons, List.append_assoc, List.append_assoc,
      escapeScan_outside hquote, literal, List.cons_append, List.append_assoc,
      List.singleton_append, escapeScan, if_neg (by decide), if_pos rfl, Bool.not_false,
      escapeScan_items hitems, ih hrest]
    simp [literal]

end literals

/-! ### `parse_json_value` -/

/-- What a JSON reader is documented to do: it reads a text through its tokens,
    takes no word for a key, and finds an object only in a text that opens with
    a brace. -/
structure ReadsTokens (read : Text → Option Json) (parse : List Token → Option Json) : Prop where
  through : ∀ text, read text = (Json.lex text).bind parse
  keys : ∀ toks v, parse toks = some v → QuotedKeys toks
  brace : ∀ toks members, parse toks = some (.obj members) →
    toks.head? = some (.punct '\x7b')

section parse

variable {serde : SerdeJson} {parse : List Token → Option Json} {l l' : List Lexeme} {v : Json}

theorem read_render (h : ReadsTokens serde.fromStr parse) (hl : Json.Lexed l) :
    serde.fromStr (render l) = if l.all Lexeme.strict then parse (tokens l) else none := by
  rw [h.through, Json.lex_render hl]
  split <;> rfl

/-- A text whose first token is a brace, after its white space. -/
theorem trim_of_brace (hl : Json.Lexed l) (hbrace : (tokens l).head? = some (.punct '\x7b')) :
    ((render l).dropWhile isWhiteSpace).head? = some '\x7b' ∧
      keyScan false false ((render l).dropWhile isWhiteSpace) = keyScan false false (render l) := by
  induction l with
  | nil => exact nomatch hbrace
  | cons x l ih =>
    rw [Json.tokens_cons] at hbrace
    cases x with
    | space c =>
      have hscan := (scan_lexeme hl fun _ hw => nomatch hw).1
      rw [Json.render_cons, Lexeme.text, List.singleton_append] at hscan ⊢
      rw [List.dropWhile_cons_of_pos (blank_whiteSpace.space c hl.1), hscan]
      exact ih hl.2 hbrace
    | punct c =>
      obtain rfl : c = '\x7b' := by simpa [Lexeme.token] using hbrace
      rw [Json.render_cons, Lexeme.text, List.singleton_append,
        List.dropWhile_cons_of_neg (by simp [blank_whiteSpace.punct _ hl.1])]
      exact ⟨rfl, rfl⟩
    | str items | word w => exact absurd hbrace (by simp [Lexeme.token])

theorem parseJsonValue_of_read {text : Text} (h : serde.fromStr text = some v) :
    parseJsonValue serde text = .ok v := by
  simp only [parseJsonValue, h]

/-- **Keys without quotes**: the value that was meant is read. -/
theorem parse_unquotes (h : ReadsTokens serde.fromStr parse) {members : List (String × Json)}
    (hl : Json.Lexed l) (hread : serde.fromStr (render l) = some (.obj members))
    (hunquotes : Unquotes l l') : parseJsonValue serde (render l') = .ok (.obj members) := by
  rw [read_render h hl] at hread
  have hstrict : l.all Lexeme.strict = true := by
    by_contra hnot
    rw [if_neg hnot] at hread
    exact nomatch hread
  rw [if_pos hstrict] at hread
  have hkeys := h.keys _ _ hread
  have hl' := hunquotes.lexed hl
  rcases hunquotes.found hl hkeys with rfl | hfound
  · exact parseJsonValue_of_read (by rw [read_render h hl, if_pos hstrict, hread])
  -- with a key unquoted the text itself is refused
  have hrefused : serde.fromStr (render l') = none := by
    rw [read_render h hl', if_pos (hunquotes.strict hstrict)]
    cases hparse : parse (tokens l') with
    | none => rfl
    | some w =>
      have hnone := (scan_quoted hl' (h.keys _ _ hparse)).1
      exact nomatch hfound.symm.trans hnone
  -- it still opens with a brace, as the first key comes after one
  have hbrace : (tokens l').head? = some (.punct '\x7b') := by
    have hopen := h.brace _ _ hread
    clear hread hkeys hrefused hfound hstrict hl hl'
    induction hunquotes with
    | nil => exact hopen
    | keep x rest ih =>
      rw [Json.tokens_cons] at hopen ⊢
      cases x with
      | space c => exact ih hopen
      | punct c | str items | word w => exact hopen
    | unquote name same key rest ih =>
      rw [Json.tokens_cons] at hopen
      exact absurd hopen (by simp [Lexeme.token])
  obtain ⟨hhead, hscan⟩ := trim_of_brace hl' hbrace
  have hlooks : looksLikeUnquotedObjectKeys (render l') = true := by
    unfold looksLikeUnquotedObjectKeys hasUnquotedIdentifierKey
    dsimp only
    rw [keyScan_bytes, hscan, hfound, hhead]
    simp
  obtain ⟨l₂, hquote, hlexed, hall, htokens, -⟩ :=
    quoteScan_unquotes hunquotes hl hstrict hkeys
  have hrepaired : serde.fromStr (quoteUnquotedObjectKeys (render l')) = some (.obj members) := by
    rw [quoteUnquotedObjectKeys, hquote, read_render h hlexed, if_pos hall, htokens, hread]
  simp only [parseJsonValue, hrefused, repairCandidates, hlooks, if_true, List.singleton_append,
    List.findSome?_cons, hrepaired]

/-- **Control characters that are not escaped**: the value that was meant is read. -/
theorem parse_unescapes (h : ReadsTokens serde.fromStr parse) (hl : Json.Lexed l)
    (hread : serde.fromStr (render l) = some v) (hunescapes : Unescapes l l') :
    parseJsonValue serde (render l') = .ok v := by
  rw [read_render h hl] at hread
  have hstrict : l.all Lexeme.strict = true := by
    by_contra hnot
    rw [if_neg hnot] at hread
    exact nomatch hread
  rw [if_pos hstrict] at hread
  have hl' := hunescapes.lexed hl
  have htokens := hunescapes.tokens
  -- without raw control characters it is read as it is
  by_cases hstrict' : l'.all Lexeme.strict = true
  · exact parseJsonValue_of_read (by rw [read_render h hl', if_pos hstrict', htokens, hread])
  have hrefused : serde.fromStr (render l') = none := by
    rw [read_render h hl', if_neg hstrict']
  -- the first repair changes nothing, so it cannot take the text
  have hquoted : serde.fromStr (quoteUnquotedObjectKeys (render l')) = none := by
    have hkeys : QuotedKeys (tokens l') := htokens ▸ h.keys _ _ hread
    rw [quoteUnquotedObjectKeys, (scan_quoted hl' hkeys).2, hrefused]
  obtain ⟨hescape, hlexed, hall, hsame⟩ := escapeScan_render hl'
  have hrepaired : serde.fromStr (escapeRawControlCharsInStrings (render l')) = some v := by
    rw [escapeRawControlCharsInStrings, hescape, read_render h hlexed, if_pos hall, hsame, htokens,
      hread]
  have hchanged : escapeRawControlCharsInStrings (render l') ≠ render l' := by
    intro hsame'
    rw [hsame', hrefused] at hrepaired
    exact nomatch hrepaired
  unfold parseJsonValue repairCandidates
  cases looksLikeUnquotedObjectKeys (render l') with
  | true => simp [hrefused, hquoted, hrepaired, hchanged]
  | false => simp [hrefused, hrepaired, hchanged]

end parse

/-- **JSON repair preserves values.** -/
theorem parseJsonValue_preserves (serde : SerdeJson) (parse : List Token → Option Json)
    (h : ReadsTokens serde.fromStr parse) :
    (∀ l l' members, Json.Lexed l → serde.fromStr (render l) = some (.obj members) →
      Unquotes l l' ∨ Unescapes l l' → parseJsonValue serde (render l') = .ok (.obj members)) ∧
    (∀ text v, serde.fromStr text = some v → parseJsonValue serde text = .ok v) ∧
    ∀ parts last, LiteralsWellFormed parts last →
      quoteUnquotedObjectKeys (literalText parts last)
        = literalText (parts.map fun part => (quoteUnquotedObjectKeys part.1, part.2))
            (quoteUnquotedObjectKeys last) ∧
      escapeRawControlCharsInStrings (literalText parts last)
        = literalText (parts.map fun part => (part.1, part.2.map escapeItem)) last ∧
      ∀ part ∈ parts, Json.content (part.2.map escapeItem) = Json.content part.2 := by
  refine ⟨fun l l' members hl hread hchanged => ?_, fun _ _ => parseJsonValue_of_read,
    fun parts last hwell => ⟨quote_literalText hwell, escape_literalText hwell,
      fun part _ => content_escapeItem part.2⟩⟩
  rcases hchanged with hunquotes | hunescapes
  · exact parse_unquotes h hl hread hunquotes
  · exact parse_unescapes h hl hread hunescapes

/-! ### A reader -/

/-- The text `{"a":1}`, by its lexemes. -/
def sampleLexemes : List Lexeme :=
  [.punct '\x7b', .str (Json.rawItems ['a']), .punct ':', .word ['1'], .punct '\x7d']

/-- The same text with its key not in quotes. -/
def sampleUnquoted : List Lexeme :=
  [.punct '\x7b', .word ['a'], .punct ':', .word ['1'], .punct '\x7d']

/-- A parser that knows one text. -/
def sampleParse (toks : List Token) : Option Json :=
  if toks = tokens sampleLexemes then some (.obj [("a", .int 1)]) else none

def sampleReader : SerdeJson where
  fromStr text := (Json.lex text).bind sampleParse
  double _ := 0
  print _ := ""

theorem readsTokens_sample : ReadsTokens sampleReader.fromStr sampleParse where
  through _ := rfl
  keys toks v hparse := by
    unfold sampleParse at hparse
    split at hparse
    case isTrue hsame =>
      rw [hsame]
      exact ⟨by decide, trivial⟩
    case isFalse => exact nomatch hparse
  brace toks members hparse := by
    unfold sampleParse at hparse
    split at hparse
    case isTrue hsame => rw [hsame]; rfl
    case isFalse => exact nomatch hparse

theorem parseJsonValue_preserves_sample :
    parseJsonValue sampleReader "\x7ba:1\x7d".toList = .ok (.obj [("a", .int 1)]) := by
  have hunquotes : Unquotes sampleLexemes sampleUnquoted := by
    refine .keep _ (.unquote ⟨by decide, fun _ hd => nomatch hd⟩ rfl rfl ?_)
    exact .keep _ (.keep _ (.keep _ .nil))
  have hlexed : Json.Lexed sampleLexemes := by
    refine ⟨by decide, by decide, by decide, ⟨⟨by decide, List.forall_mem_singleton.mpr rfl⟩, ?_,
      by decide, trivial⟩⟩
    intro y hy
    obtain rfl : Lexeme.punct '\x7d' = y := by simpa using hy
    rfl
  have htext : render sampleUnquoted = "\x7ba:1\x7d".toList := by decide +kernel
  have hread : sampleReader.fromStr (render sampleLexemes) = some (.obj [("a", .int 1)]) := by
    decide +kernel
  rw [← htext]
  exact (parseJsonValue_preserves sampleReader sampleParse readsTokens_sample).1 sampleLexemes
    sampleUnquoted _ hlexed hread (Or.inl hunquotes)

end Adapter

end Quinte
