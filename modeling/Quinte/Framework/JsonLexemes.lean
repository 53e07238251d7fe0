import Mathlib
import Quinte.Framework.JsonText

/-! # The lexemes of JSON texts

    A text as the space, the punctuation, the strings and the words it is made
    of; a word is a number, a literal, or a key without its quotes.  A string is
    a list of items, each a character or an escape, and stands for UTF-16 code
    units.  `lex` finds the tokens of a text: space goes, and strings are what
    they stand for.

    * `lex_render`: the tokens of a text that is made of lexemes; a string may
      have control characters in it, but then there are no tokens.
-/

namespace Json

/-! ### Strings -/

/-- What a string literal is made of. -/
inductive StringItem where
  | raw (c : Char)
  | short (e : Char)
  | code (a b c d : Char)
  deriving DecidableEq, Repr

/-- The UTF-16 code units of a character. -/
def utf16 (c : Char) : List Nat :=
  if c.toNat < 0x10000 then [c.toNat]
  else [0xD800 + (c.toNat - 0x10000) / 0x400, 0xDC00 + (c.toNat - 0x10000) % 0x400]

/-- The number that four hexadecimal digits stand for. -/
def hexNumber (a b c d : Char) : Option Nat := do
  return 4096 * (← hexValue a) + 256 * (← hexValue b) + 16 * (← hexValue c) + (← hexValue d)

namespace StringItem

def text : StringItem → Text
  | raw c => [c]
  | short e => ['\\', e]
  | code a b c d => ['\\', 'u', a, b, c, d]

/-- The code units an item stands for. -/
def units : StringItem → List Nat
  | raw c => utf16 c
  | short e => ((unescape e).map utf16).getD []
  | code a b c d => [(hexNumber a b c d).getD 0]

/-- An item of a string whose control characters may not be escaped. -/
def WellFormed : StringItem → Prop
  | raw c => c ≠ '"' ∧ c ≠ '\\'
  | short e => (unescape e).isSome = true
  | code a b c d => (hexNumber a b c d).isSome = true

instance : DecidablePred WellFormed
  | raw c => inferInstanceAs (Decidable (c ≠ '"' ∧ c ≠ '\\'))
  | short e => inferInstanceAs (Decidable ((unescape e).isSome = true))
  | code a b c d => inferInstanceAs (Decidable ((hexNumber a b c d).isSome = true))

/-- Not a control character that has to be escaped. -/
def strict : StringItem → Bool
  | raw c => 32 ≤ c.toNat
  | short _ | code _ _ _ _ => true

end StringItem

/-- The characters between the quotes of a string. -/
def itemsText (items : List StringItem) : Text :=
  items.flatMap StringItem.text

/-- What a string stands for. -/
def content (items : List StringItem) : List Nat :=
  items.flatMap StringItem.units

/-- The string of these characters as they are. -/
def rawItems (cs : Text) : List StringItem :=
  cs.map .raw

theorem itemsText_rawItems (cs : Text) : itemsText (rawItems cs) = cs := by
  simp [itemsText, rawItems, List.flatMap_map, StringItem.text]

/-! ### Lexemes and tokens -/

inductive Lexeme where
  | space (c : Char)
  | punct (c : Char)
  | str (items : List StringItem)
  | word (w : Text)
  deriving DecidableEq, Repr

def puncts : List Char :=
  ['\x7b', '\x7d', '[', ']', ',', ':']

/-- A character of a number, a literal or an identifier. -/
def isWordChar (c : Char) : Bool :=
  c.isAlphanum || c == '+' || c == '-' || c == '.' || c == '_' || c == '$'

/-- A string or a word. -/
def Lexeme.solid : Lexeme → Bool
  | str _ | word _ => true
  | space _ | punct _ => false

def Lexeme.text : Lexeme → Text
  | space c | punct c => [c]
  | str items => '"' :: (itemsText items ++ ['"'])
  | word w => w

def render (l : List Lexeme) : Text :=
  l.flatMap Lexeme.text

/-- A list of lexemes; something that is no string or word comes after a word. -/
def Lexed : List Lexeme → Prop
  | [] => True
  | .space c :: l => isSpace c = true ∧ Lexed l
  | .punct c :: l => c ∈ puncts ∧ Lexed l
  | .str items :: l => (∀ i ∈ items, i.WellFormed) ∧ Lexed l
  | .word w :: l =>
      (w ≠ [] ∧ ∀ c ∈ w, isWordChar c = true) ∧ (∀ x ∈ l.head?, x.solid = false) ∧ Lexed l

/-- Control characters are escaped. -/
def Lexeme.strict : Lexeme → Bool
  | str items => items.all StringItem.strict
  | _ => true

inductive Token where
  | punct (c : Char)
  | str (units : List Nat)
  | word (w : Text)
  deriving DecidableEq, Repr

def Lexeme.token : Lexeme → Option Token
  | space _ => none
  | punct c => some (.punct c)
  | str items => some (.str (content items))
  | word w => some (.word w)

def tokens (l : List Lexeme) : List Token :=
  l.filterMap Lexeme.token

/-! ### The lexer -/

/-- The rest of a string, and what follows its closing quote. -/
def lexString : Text → Option (List Nat × Text)
  | [] => none
  | c :: rest =>
      if c = '"' then some ([], rest)
      else if c = '\\' then
        match rest with
        | 'u' :: a :: b :: c :: d :: rest => do
            let unit ← hexNumber a b c d
            let (units, rest) ← lexString rest
            some (unit :: units, rest)
        | e :: rest => do
            let c ← unescape e
            let (units, rest) ← lexString rest
            some (utf16 c ++ units, rest)
        | [] => none
      else if c.toNat < 32 then none
      else do
        let (units, rest) ← lexString rest
        some (utf16 c ++ units, rest)

/-- The tokens of a text, at most `fuel` characters and tokens long. -/
def lexTokens : Nat → Text → Option (List Token)
  | _, [] => some []
  | 0, _ :: _ => none
  | fuel + 1, c :: rest =>
      if isSpace c then lexTokens fuel rest
      else if puncts.contains c then (lexTokens fuel rest).map (.punct c :: ·)
      else if c = '"' then do
        let (units, rest) ← lexString rest
        (lexTokens fuel rest).map (.str units :: ·)
      else if isWordChar c then
        (lexTokens fuel (rest.dropWhile isWordChar)).map
          (.word (c :: rest.takeWhile isWordChar) :: ·)
      else none

/-- The tokens of a text. -/
def lex (text : Text) : Option (List Token) :=
  lexTokens text.length text

example : lex "\x7b \"a\\u0062\" : true\x7d".toList
    = some [.punct '\x7b', .str [97, 98], .punct ':', .word "true".toList, .punct '\x7d'] := by
  decide +kernel

section lex

variable {items : List StringItem} {rest : Text} {l : List Lexeme} {w : Text}

theorem content_cons (i : StringItem) (items : List StringItem) :
    content (i :: items) = i.units ++ content items := rfl

theorem itemsText_cons (i : StringItem) (items : List StringItem) :
    itemsText (i :: items) = i.text ++ itemsText items := rfl

theorem hexValue_u : hexValue 'u' = none := by decide

theorem unescape_u : unescape 'u' = none := by decide

/-- A string is read up to its closing quote, unless a control character is in
    the way. -/
theorem lexString_items (h : ∀ i ∈ items, i.WellFormed) (rest : Text) :
    lexString (itemsText items ++ '"' :: rest)
      = if items.all StringItem.strict then some (content items, rest) else none := by
  induction items with
  | nil =>
    rw [itemsText, List.flatMap_nil, List.nil_append, lexString.eq_def]
    rfl
  | cons i items ih =>
    obtain ⟨hi, hitems⟩ := List.forall_mem_cons.mp h
    have hrest := ih hitems
    rw [itemsText_cons, List.append_assoc, content_cons, List.all_cons]
    cases i with
    | raw c =>
      obtain ⟨hquote, hslash⟩ := hi
      rw [StringItem.text, List.singleton_append, lexString.eq_def]
      simp only [if_neg hquote, if_neg hslash, hrest, StringItem.units, StringItem.strict]
      by_cases hcontrol : c.toNat < 32
      · simp [hcontrol, Nat.not_le.mpr hcontrol]
      · cases items.all StringItem.strict <;> simp [hcontrol, Nat.not_lt.mp hcontrol]
    | short e =>
      obtain ⟨c, hc⟩ := Option.isSome_iff_exists.mp hi
      have hu : e ≠ 'u' := by
        rintro rfl
        exact nomatch unescape_u.symm.trans hc
      rw [StringItem.text, lexString.eq_def]
      simp only [List.cons_append, List.nil_append, Char.reduceEq, if_false, if_true,
        StringItem.units, StringItem.strict, Bool.true_and]
      split
      -- not the escape of a code unit, as the letter is no u
      · simp_all
      · rename_i heq
        obtain ⟨rfl, rfl⟩ := List.cons.inj heq
        rw [hc, hrest]
        cases items.all StringItem.strict <;> simp
      · simp_all
    | code a b c d =>
      obtain ⟨unit, hunit⟩ := Option.isSome_iff_exists.mp hi
      rw [StringItem.text, lexString.eq_def]
      simp only [List.cons_append, List.nil_append, Char.reduceEq, if_false, if_true,
        StringItem.units, StringItem.strict, Bool.true_and, hunit, hrest]
      cases items.all StringItem.strict <;> simp

theorem render_cons (x : Lexeme) (l : List Lexeme) : render (x :: l) = x.text ++ render l := rfl

/-- What begins after a word is no part of it. -/
theorem takeWhile_word (hw : ∀ c ∈ w, isWordChar c = true)
    (hrest : ∀ c ∈ rest.head?, isWordChar c = false) :
    (w ++ rest).takeWhile isWordChar = w ∧ (w ++ rest).dropWhile isWordChar = rest := by
  induction w with
  | nil =>
    cases rest with
    | nil => exact ⟨rfl, rfl⟩
    | cons c rest => simp [hrest c rfl]
  | cons c w ih =>
    obtain ⟨hc, hw⟩ := List.forall_mem_cons.mp hw
    obtain ⟨htake, hdrop⟩ := ih hw
    simp [hc, htake, hdrop]

theorem head_render (h : Lexed l) (hsolid : ∀ x ∈ l.head?, x.solid = false) :
    ∀ c ∈ (render l).head?, isSpace c = true ∨ c ∈ puncts := by
  cases l with
  | nil => exact fun _ hc => nomatch hc
  | cons x l =>
    intro c hc
    cases x with
    | space d =>
      obtain rfl : d = c := by simpa [render, Lexeme.text] using hc
      exact Or.inl h.1
    | punct d =>
      obtain rfl : d = c := by simpa [render, Lexeme.text] using hc
      exact Or.inr h.1
    | str items | word w => exact nomatch hsolid _ rfl

theorem not_word_of_space {c : Char} (h : isSpace c = true) : isWordChar c = false := by
  simp only [isSpace, Bool.or_eq_true, decide_eq_true_eq] at h
  rcases h with ((rfl | rfl) | rfl) | rfl <;> rfl

theorem not_word_of_punct {c : Char} (h : c ∈ puncts) : isWordChar c = false := by
  simp only [puncts, List.mem_cons, List.not_mem_nil, or_false] at h
  rcases h with rfl | rfl | rfl | rfl | rfl | rfl <;> rfl

theorem not_space_of_punct {c : Char} (h : c ∈ puncts) : isSpace c = false := by
  simp only [puncts, List.mem_cons, List.not_mem_nil, or_false] at h
  rcases h with rfl | rfl | rfl | rfl | rfl | rfl <;> rfl

theorem not_word_after (h : Lexed l) (hsolid : ∀ x ∈ l.head?, x.solid = false) :
    ∀ c ∈ (render l).head?, isWordChar c = false := by
  intro c hc
  rcases head_render h hsolid c hc with hspace | hpunct
  · exact not_word_of_space hspace
  · exact not_word_of_punct hpunct

theorem tokens_cons (x : Lexeme) (l : List Lexeme) :
    tokens (x :: l) = x.token.toList ++ tokens l := by
  cases x <;> rfl

theorem lexTokens_render (h : Lexed l) {fuel : Nat} (hfuel : (render l).length ≤ fuel) :
    lexTokens fuel (render l) = if l.all Lexeme.strict then some (tokens l) else none := by
  induction l generalizing fuel with
  | nil => simp [render, lexTokens, tokens]
  | cons x l ih =>
    rw [render_cons, List.length_append] at hfuel
    rw [render_cons, tokens_cons, List.all_cons]
    -- a lexeme takes at least a character of the fuel
    cases fuel with
    | zero =>
      have hempty : x.text = [] := List.length_eq_zero_iff.mp (by omega)
      cases x with
      | word w => exact absurd hempty h.1.1
      | space c | punct c | str items => exact nomatch hempty
    | succ fuel =>
      cases x with
      | space c =>
        have hrest := @ih h.2 fuel (by
          simp only [Lexeme.text, List.length_singleton] at hfuel; omega)
        rw [Lexeme.text, List.singleton_append, lexTokens, if_pos h.1, hrest]
        rfl
      | punct c =>
        have hrest := @ih h.2 fuel (by
          simp only [Lexeme.text, List.length_singleton] at hfuel; omega)
        have hcontains : puncts.contains c = true := List.contains_iff_mem.mpr h.1
        rw [Lexeme.text, List.singleton_append, lexTokens,
          if_neg (by simp [not_space_of_punct h.1]), if_pos hcontains, hrest]
        cases l.all Lexeme.strict <;> rfl
      | str items =>
        have hrest := @ih h.2 fuel (by
          simp only [Lexeme.text, List.length_cons, List.length_append] at hfuel; omega)
        have hstring := lexString_items h.1 (render l)
        rw [Lexeme.text, List.cons_append, List.append_assoc, List.singleton_append, lexTokens,
          if_neg (by decide), if_neg (by decide), if_pos rfl, hstring]
        cases hstrict : items.all StringItem.strict with
        | false => simp [Lexeme.strict, hstrict]
        | true =>
          cases hall : l.all Lexeme.strict <;>
            simp [Lexeme.strict, Lexeme.token, hstrict, hall, hrest]
      | word w =>
        obtain ⟨⟨hne, hchars⟩, hsolid, hl⟩ := h
        obtain ⟨c, w, rfl⟩ := List.exists_cons_of_ne_nil hne
        obtain ⟨hc, hw⟩ := List.forall_mem_cons.mp hchars
        have hrest := @ih hl fuel (by
          simp only [Lexeme.text, List.length_cons] at hfuel; omega)
        -- the word is taken whole: what follows does not continue it
        obtain ⟨htake, hdrop⟩ := takeWhile_word hw (not_word_after hl hsolid)
        have hspace : isSpace c ≠ true := fun h' => nomatch hc.symm.trans (not_word_of_space h')
        have hpunct : ¬puncts.contains c = true := fun h' =>
          nomatch hc.symm.trans (not_word_of_punct (List.contains_iff_mem.mp h'))
        have hquote : c ≠ '"' := by
          rintro rfl
          exact nomatch hc
        rw [Lexeme.text, List.cons_append, lexTokens, if_neg hspace, if_neg hpunct, if_neg hquote,
          if_pos hc, htake, hdrop, hrest]
        cases l.all Lexeme.strict <;> rfl

/-- **The tokens of a text** that is made of lexemes. -/
theorem lex_render (h : Lexed l) :
    lex (render l) = if l.all Lexeme.strict then some (tokens l) else none :=
  lexTokens_render h le_rfl

end lex

end Json
