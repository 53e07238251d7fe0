import Mathlib
import Quinte.Framework.Json

/-! # The texts of JSON values

    `write` prints a value, on one line (`compact`) or with an indented line
    for every item and member (`pretty`).  A `JsonReader` is a program that
    reads texts back; what is asked of it is that it reads what `write` prints
    of the values that no reader may refuse (`Regular`).  Main results:

    * `write_injective`: two such values with one text are one value;
    * `scanner`: the recursive descent `scan` is such a reader.
-/

namespace Json

/-- A text, by its characters. -/
abbrev Text := List Char

def isSpace (c : Char) : Bool :=
  c = ' ' || c = '\n' || c = '\t' || c = '\r'

/-- Where a style starts a new line, and what it puts after a colon. -/
structure Style where
  newline : Nat → Text
  space : Text
  newline_space : ∀ depth, ∀ c ∈ newline depth, isSpace c = true
  space_space : ∀ c ∈ space, isSpace c = true

/-- Everything on one line. -/
def compact : Style where
  newline _ := []
  space := []
  newline_space _ _ h := nomatch h
  space_space _ h := nomatch h

/-- An indented line for every item and member. -/
def pretty : Style where
  newline depth := '\n' :: List.replicate (2 * depth) ' '
  space := [' ']
  newline_space depth c h := by
    rcases List.mem_cons.mp h with rfl | h
    · rfl
    · rw [List.eq_of_mem_replicate h]
      rfl
  space_space c h := by
    rw [List.mem_singleton.mp h]
    rfl

/-! ### Writing -/

/-- The text of a character inside a string. -/
def escape (c : Char) : Text :=
  if c = '"' then ['\\', '"']
  else if c = '\\' then ['\\', '\\']
  else if c = '\x08' then ['\\', 'b']
  else if c = '\t' then ['\\', 't']
  else if c = '\n' then ['\\', 'n']
  else if c = '\x0c' then ['\\', 'f']
  else if c = '\r' then ['\\', 'r']
  else if c.toNat < 32 then
    ['\\', 'u', '0', '0', Nat.digitChar (c.toNat / 16), Nat.digitChar (c.toNat % 16)]
  else [c]

def quote (s : String) : Text :=
  '"' :: (s.toList.flatMap escape ++ ['"'])

def writeInt : Int → Text
  | .ofNat n => Nat.toDigits 10 n
  | .negSucc n => '-' :: Nat.toDigits 10 (n + 1)

mutual

/-- The text of a value that starts at a depth. -/
def write (style : Style) (depth : Nat) : Json → Text
  | .null => ['n', 'u', 'l', 'l']
  | .bool true => ['t', 'r', 'u', 'e']
  | .bool false => ['f', 'a', 'l', 's', 'e']
  | .int n => writeInt n
  | .float text => text.toList
  | .str s => quote s
  | .arr [] => ['[', ']']
  | .arr (v :: vs) =>
      '[' :: (style.newline (depth + 1) ++ write style (depth + 1) v
        ++ writeItems style (depth + 1) vs ++ style.newline depth ++ [']'])
  | .obj [] => ['{', '}']
  | .obj ((k, v) :: ms) =>
      '{' :: (style.newline (depth + 1) ++ quote k ++ ':' :: style.space
        ++ write style (depth + 1) v ++ writeMembers style (depth + 1) ms
        ++ style.newline depth ++ ['}'])

/-- The items after the first one. -/
def writeItems (style : Style) (depth : Nat) : List Json → Text
  | [] => []
  | v :: vs => ',' :: (style.newline depth ++ write style depth v ++ writeItems style depth vs)

/-- The members after the first one. -/
def writeMembers (style : Style) (depth : Nat) : List (String × Json) → Text
  | [] => []
  | (k, v) :: ms =>
      ',' :: (style.newline depth ++ quote k ++ ':' :: style.space ++ write style depth v
        ++ writeMembers style depth ms)

end

/-- The values that no reader may refuse: 64-bit integers, and no more than
    `depth` values inside one another. -/
def Regular : Nat → Json → Prop
  | _, .null | _, .bool _ | _, .str _ => True
  | _, .int n => -2 ^ 63 ≤ n ∧ n < 2 ^ 64
  | _, .float _ => False
  | 0, .arr _ | 0, .obj _ => False
  | depth + 1, .arr items => ∀ v ∈ items, Regular depth v
  | depth + 1, .obj members => ∀ m ∈ members, Regular depth m.2

theorem Regular.mono {v : Json} {m n : Nat} (h : Regular m v) (hle : m ≤ n) : Regular n v := by
  induction v generalizing m n with
  | null | bool b | str s | int i => cases m <;> cases n <;> exact h
  | float text => cases m <;> exact absurd h (by simp [Regular])
  | arr items ih =>
    cases m with
    | zero => exact absurd h (by simp [Regular])
    | succ m =>
      cases n with
      | zero => omega
      | succ n => exact fun v hv => ih v hv (h v hv) (by omega)
  | obj members ih =>
    cases m with
    | zero => exact absurd h (by simp [Regular])
    | succ m =>
      cases n with
      | zero => omega
      | succ n => exact fun v hv => ih v hv (h v hv) (by omega)

theorem Regular.sorted {v : Json} {n : Nat} (h : Regular n v) : Regular n v.sorted := by
  induction v generalizing n with
  | null | bool b | str s | int i | float text => exact h
  | arr items ih =>
    cases n with
    | zero => exact absurd h (by simp [Regular])
    | succ n =>
      rw [sorted_arr]
      intro w hw
      obtain ⟨v, hv, rfl⟩ := List.mem_map.mp hw
      exact ih v hv (h v hv)
  | obj members ih =>
    cases n with
    | zero => exact absurd h (by simp [Regular])
    | succ n =>
      rw [sorted_obj]
      intro w hw
      obtain ⟨m, hm, rfl⟩ := List.mem_map.mp ((perm_sortedMembers members).mem_iff.mp hw)
      exact ih m hm (h m hm)

theorem Regular.floats {v : Json} {n : Nat} (h : Regular n v) : v.floats = [] := by
  induction v generalizing n with
  | null | bool b | str s | int i => rfl
  | float text => cases n <;> exact absurd h (by simp [Regular])
  | arr items ih =>
    cases n with
    | zero => exact absurd h (by simp [Regular])
    | succ n =>
      rw [floats_arr]
      exact List.flatMap_eq_nil_iff.mpr fun v hv => ih v hv (h v hv)
  | obj members ih =>
    cases n with
    | zero => exact absurd h (by simp [Regular])
    | succ n =>
      rw [floats_obj]
      exact List.flatMap_eq_nil_iff.mpr fun m hm => ih m hm (h m hm)

/-- A reader of JSON texts. It reads back what either style prints of a
    regular value, with or without space after it. -/
structure Reader where
  read : Text → Option Json
  depth : Nat
  read_write : ∀ style v space, Regular depth v → (∀ c ∈ space, isSpace c = true) →
    read (write style 0 v ++ space) = some v

/-! ### Reading -/

def skip (text : Text) : Text :=
  text.dropWhile isSpace

def hexValue (c : Char) : Option Nat :=
  if '0' ≤ c ∧ c ≤ '9' then some (c.toNat - 48)
  else if 'a' ≤ c ∧ c ≤ 'f' then some (c.toNat - 87)
  else if 'A' ≤ c ∧ c ≤ 'F' then some (c.toNat - 55)
  else none

def unescape (c : Char) : Option Char :=
  if c = '"' ∨ c = '\\' ∨ c = '/' then some c
  else if c = 'b' then some '\x08'
  else if c = 't' then some '\t'
  else if c = 'n' then some '\n'
  else if c = 'f' then some '\x0c'
  else if c = 'r' then some '\r'
  else none

/-- The rest of a string, up to its closing quote. Surrogates are refused. -/
def readChars : Text → Option (Text × Text)
  | [] => none
  | c :: rest =>
      if c = '"' then some ([], rest)
      else if c = '\\' then
        match rest with
        | 'u' :: c₁ :: c₂ :: c₃ :: c₄ :: rest => do
            let code := 4096 * (← hexValue c₁) + 256 * (← hexValue c₂) + 16 * (← hexValue c₃)
              + (← hexValue c₄)
            let (cs, rest) ← readChars rest
            if code.isValidChar then some (Char.ofNat code :: cs, rest) else none
        | e :: rest => do
            let c ← unescape e
            let (cs, rest) ← readChars rest
            some (c :: cs, rest)
        | [] => none
      else if c.toNat < 32 then none
      else do
        let (cs, rest) ← readChars rest
        some (c :: cs, rest)

/-- The digits of an integer. -/
def readDigits (negative : Bool) (text : Text) : Option (Json × Text) :=
  let digits := text.takeWhile Char.isDigit
  let rest := text.dropWhile Char.isDigit
  if digits = [] ∨ rest.head? = some '.' ∨ rest.head? = some 'e' ∨ rest.head? = some 'E' then none
  else
    let n : Int := Nat.ofDigitChars 10 digits 0
    some (.int (if negative then -n else n), rest)

/-- A number that is an integer. -/
def readInt (text : Text) : Option (Json × Text) :=
  if text.head? = some '-' then readDigits true text.tail else readDigits false text

/-- The rest of a word that stands for a value. -/
def readWord (word : Text) (v : Json) (text : Text) : Option (Json × Text) :=
  if text.take word.length = word then some (v, text.drop word.length) else none

mutual

/-- One value, in at most `fuel` calls inside one another. -/
def readValue : Nat → Text → Option (Json × Text)
  | 0, _ => none
  | fuel + 1, text =>
      match skip text with
      | [] => none
      | c :: rest =>
          if c = 'n' then readWord ['u', 'l', 'l'] .null rest
          else if c = 't' then readWord ['r', 'u', 'e'] (.bool true) rest
          else if c = 'f' then readWord ['a', 'l', 's', 'e'] (.bool false) rest
          else if c = '"' then (readChars rest).map fun (cs, rest) => (.str (String.ofList cs), rest)
          else if c = '[' then
            if (skip rest).head? = some ']' then some (.arr [], (skip rest).tail)
            else do
              let (v, rest) ← readValue fuel rest
              let (vs, rest) ← readItems fuel rest
              some (.arr (v :: vs), rest)
          else if c = '{' then
            if (skip rest).head? = some '}' then some (.obj [], (skip rest).tail)
            else do
              let (m, rest) ← readMember fuel rest
              let (ms, rest) ← readMembers fuel rest
              some (.obj (m :: ms), rest)
          else readInt (c :: rest)

/-- The items after the first one, up to the closing bracket. -/
def readItems : Nat → Text → Option (List Json × Text)
  | 0, _ => none
  | fuel + 1, text =>
      match skip text with
      | [] => none
      | c :: rest =>
          if c = ']' then some ([], rest)
          else if c = ',' then do
            let (v, rest) ← readValue fuel rest
            let (vs, rest) ← readItems fuel rest
            some (v :: vs, rest)
          else none

def readMember : Nat → Text → Option ((String × Json) × Text)
  | 0, _ => none
  | fuel + 1, text =>
      match skip text with
      | [] => none
      | c :: rest =>
          if c = '"' then do
            let (cs, rest) ← readChars rest
            if (skip rest).head? = some ':' then do
              let (v, rest) ← readValue fuel (skip rest).tail
              some ((String.ofList cs, v), rest)
            else none
          else none

/-- The members after the first one, up to the closing brace. -/
def readMembers : Nat → Text → Option (List (String × Json) × Text)
  | 0, _ => none
  | fuel + 1, text =>
      match skip text with
      | [] => none
      | c :: rest =>
          if c = '}' then some ([], rest)
          else if c = ',' then do
            let (m, rest) ← readMember fuel rest
            let (ms, rest) ← readMembers fuel rest
            some (m :: ms, rest)
          else none

end

/-- A text that holds one value. -/
def scan (text : Text) : Option Json :=
  match readValue (2 * text.length) text with
  | some (v, rest) => if skip rest = [] then some v else none
  | none => none

example : scan "\x7b\"a\": [1, -2, \"\\u00e9\"], \"b\": \x7b\x7d\x7d".toList
    = some (.obj [("a", .arr [.int 1, .int (-2), .str "é"]), ("b", .obj [])]) := by
  decide +kernel

/-! ### Reading what was written -/

section roundtrip

variable {S : Style} {rest : Text}

/-- What may follow a number. -/
def Delimited (rest : Text) : Prop :=
  ∀ c ∈ rest.head?, c.isDigit = false ∧ c ≠ '.' ∧ c ≠ 'e' ∧ c ≠ 'E'

theorem delimited_cons {c : Char} (h : c.isDigit = false ∧ c ≠ '.' ∧ c ≠ 'e' ∧ c ≠ 'E') :
    Delimited (c :: rest) := by
  rintro d hd
  obtain rfl : c = d := by simpa using hd
  exact h

theorem delimited_of_space {space : Text} (hspace : ∀ c ∈ space, isSpace c = true)
    (h : Delimited rest) : Delimited (space ++ rest) := by
  cases space with
  | nil => exact h
  | cons c space =>
    have hc := hspace c (List.mem_cons_self ..)
    refine delimited_cons ?_
    simp only [isSpace, decide_eq_true_eq, Bool.or_eq_true] at hc
    rcases hc with ((rfl | rfl) | rfl) | rfl <;> decide

theorem skip_append {space : Text} (hspace : ∀ c ∈ space, isSpace c = true) :
    skip (space ++ rest) = skip rest := by
  induction space with
  | nil => rfl
  | cons c space ih =>
    rw [List.cons_append, skip, List.dropWhile_cons, if_pos (hspace c (List.mem_cons_self ..))]
    exact ih fun d hd => hspace d (List.mem_cons_of_mem _ hd)

theorem skip_cons {c : Char} (h : isSpace c = false) : skip (c :: rest) = c :: rest := by
  rw [skip, List.dropWhile_cons, if_neg (by simp [h])]

theorem skip_newline (depth : Nat) : skip (S.newline depth ++ rest) = skip rest :=
  skip_append (S.newline_space depth)

/-! #### Strings -/

theorem hexValue_digitChar : ∀ d < 16, hexValue (Nat.digitChar d) = some d := by
  decide

/-- A character that is escaped by its code. -/
theorem readChars_code {c : Char} (h : c.toNat < 32) :
    readChars (['\\', 'u', '0', '0', Nat.digitChar (c.toNat / 16), Nat.digitChar (c.toNat % 16)]
        ++ rest)
      = (readChars rest).map fun r => (c :: r.1, r.2) := by
  have hcode : 4096 * 0 + 256 * 0 + 16 * (c.toNat / 16) + c.toNat % 16 = c.toNat := by omega
  have hzero : hexValue '0' = some 0 := rfl
  simp only [List.cons_append, List.nil_append, readChars, hzero,
    hexValue_digitChar _ (show c.toNat / 16 < 16 by omega),
    hexValue_digitChar _ (show c.toNat % 16 < 16 by omega), Option.bind_eq_bind, Option.bind_some,
    hcode, Char.ofNat_toNat]
  have hvalid : c.toNat.isValidChar := Or.inl (by omega)
  cases readChars rest with
  | none => rfl
  | some r => simp [hvalid]

theorem readChars_escape (c : Char) :
    readChars (escape c ++ rest) = (readChars rest).map fun r => (c :: r.1, r.2) := by
  have hbind : ∀ d : Char, (do
      let (cs, rest) ← readChars rest
      some (d :: cs, rest)) = (readChars rest).map fun r => (d :: r.1, r.2) := fun d => by
    cases readChars rest <;> rfl
  unfold escape
  split_ifs with h₁ h₂ h₃ h₄ h₅ h₆ h₇ h₈
  all_goals try subst c
  all_goals try exact hbind _
  · exact readChars_code h₈
  · rw [List.singleton_append, readChars.eq_def]
    simp only [if_neg h₁, if_neg h₂, if_neg h₈]
    exact hbind c

theorem readChars_quoted (cs : Text) :
    readChars (cs.flatMap escape ++ '"' :: rest) = some (cs, rest) := by
  induction cs with
  | nil =>
    rw [List.flatMap_nil, List.nil_append, readChars.eq_def]
    rfl
  | cons c cs ih =>
    rw [List.flatMap_cons, List.append_assoc, readChars_escape, ih]
    rfl

/-! #### Numbers -/

theorem readDigits_toDigits {n : Nat} {negative : Bool} (hrest : Delimited rest) :
    readDigits negative (Nat.toDigits 10 n ++ rest)
      = some (.int (if negative then -(n : Int) else n), rest) := by
  have hdigits : ∀ c ∈ Nat.toDigits 10 n, c.isDigit = true :=
    fun c hc => Nat.isDigit_of_mem_toDigits (by omega) (by omega) hc
  have hnumber : rest.takeWhile Char.isDigit = [] ∧ rest.dropWhile Char.isDigit = rest := by
    cases rest with
    | nil => exact ⟨rfl, rfl⟩
    | cons c rest =>
      have hc : c.isDigit = false := (hrest c rfl).1
      exact ⟨List.takeWhile_cons_of_neg (by simp [hc]), List.dropWhile_cons_of_neg (by simp [hc])⟩
  have hstop : ¬(rest.head? = some '.' ∨ rest.head? = some 'e' ∨ rest.head? = some 'E') := by
    rintro (h | h | h)
    · exact (hrest _ h).2.1 rfl
    · exact (hrest _ h).2.2.1 rfl
    · exact (hrest _ h).2.2.2 rfl
  have htake : (Nat.toDigits 10 n ++ rest).takeWhile Char.isDigit = Nat.toDigits 10 n := by
    rw [List.takeWhile_append_of_pos hdigits, hnumber.1, List.append_nil]
  have hdrop : (Nat.toDigits 10 n ++ rest).dropWhile Char.isDigit = rest := by
    rw [List.dropWhile_append_of_pos hdigits, hnumber.2]
  simp only [readDigits, htake, hdrop, Nat.toDigits_ne_nil, false_or, if_neg hstop,
    Nat.ofDigitChars_ten_toDigits]

/-- A digit comes first, or a sign. -/
theorem writeInt_head (n : Int) : ∃ c cs, writeInt n = c :: cs ∧ (c.isDigit = true ∨ c = '-') := by
  cases n with
  | ofNat n =>
    obtain ⟨c, cs, hcs⟩ := List.exists_cons_of_ne_nil (Nat.toDigits_ne_nil (n := n) (b := 10))
    exact ⟨c, cs, hcs, Or.inl (Nat.isDigit_of_mem_toDigits (n := n) (b := 10) (by omega) (by omega)
      (hcs ▸ List.mem_cons_self ..))⟩
  | negSucc n => exact ⟨'-', _, rfl, Or.inr rfl⟩

theorem readInt_writeInt (n : Int) (hrest : Delimited rest) :
    readInt (writeInt n ++ rest) = some (.int n, rest) := by
  cases n with
  | ofNat n =>
    obtain ⟨c, cs, hcs⟩ := List.exists_cons_of_ne_nil (Nat.toDigits_ne_nil (n := n) (b := 10))
    have hdigit : c.isDigit = true :=
      Nat.isDigit_of_mem_toDigits (n := n) (b := 10) (by omega) (by omega)
        (hcs ▸ List.mem_cons_self ..)
    have hsign : (writeInt (.ofNat n) ++ rest).head? ≠ some '-' := by
      rw [writeInt, hcs, List.cons_append, List.head?_cons]
      rintro ⟨rfl⟩
      exact absurd hdigit (by decide)
    rw [readInt, if_neg hsign]
    exact readDigits_toDigits hrest
  | negSucc n =>
    rw [readInt, if_pos (by rfl)]
    exact readDigits_toDigits hrest

/-! #### Values -/

mutual

/-- How many calls inside one another a value takes. -/
def size : Json → Nat
  | .arr items => sizeItems items + 1
  | .obj members => sizeMembers members + 1
  | .null | .bool _ | .int _ | .float _ | .str _ => 1

def sizeItems : List Json → Nat
  | [] => 1
  | v :: vs => size v + sizeItems vs + 1

def sizeMembers : List (String × Json) → Nat
  | [] => 1
  | (_, v) :: ms => size v + sizeMembers ms + 2

end

/-- What `readValue` makes of the text of a value. -/
def ReadsBack (S : Style) (v : Json) : Prop :=
  ∀ fuel depth rest, size v ≤ fuel → Delimited rest →
    readValue fuel (write S depth v ++ rest) = some (v, rest)

/-- A text starts with a character that is no space, and that does not close
    anything. -/
theorem write_head {n : Nat} {v : Json} (h : Regular n v) (depth : Nat) :
    ∃ c cs, write S depth v = c :: cs ∧ isSpace c = false ∧ c ≠ ']' ∧ c ≠ '}' := by
  cases v with
  | null => exact ⟨'n', _, rfl, rfl, by decide, by decide⟩
  | bool b =>
    cases b with
    | false => exact ⟨'f', _, rfl, rfl, by decide, by decide⟩
    | true => exact ⟨'t', _, rfl, rfl, by decide, by decide⟩
  | int i =>
    obtain ⟨c, cs, hcs, hc⟩ := writeInt_head i
    refine ⟨c, cs, hcs, ?_⟩
    rcases hc with hc | rfl
    · refine ⟨?_, ?_, ?_⟩
      · simp only [isSpace, Bool.or_eq_false_iff, decide_eq_false_iff_not]
        refine ⟨⟨⟨?_, ?_⟩, ?_⟩, ?_⟩ <;> (rintro rfl; exact absurd hc (by decide))
      all_goals (rintro rfl; exact absurd hc (by decide))
    · exact ⟨rfl, by decide, by decide⟩
  | float text => cases n <;> exact absurd h (by simp [Regular])
  | str s => exact ⟨'"', _, rfl, rfl, by decide, by decide⟩
  | arr items => cases items <;> exact ⟨'[', _, rfl, rfl, by decide, by decide⟩
  | obj members =>
    cases members with
    | nil => exact ⟨'{', _, rfl, rfl, by decide, by decide⟩
    | cons m ms => exact ⟨'{', _, rfl, rfl, by decide, by decide⟩

/-- `readValue` passes over spaces. -/
theorem readValue_skip (fuel : Nat) {text text' : Text} (h : skip text = skip text') :
    readValue fuel text = readValue fuel text' := by
  cases fuel with
  | zero => rfl
  | succ fuel => simp only [readValue, h]

/-- What follows the first item or member. -/
theorem delimited_items (S : Style) (depth : Nat) (vs : List Json) (rest : Text) :
    Delimited (writeItems S (depth + 1) vs ++ (S.newline depth ++ ']' :: rest)) := by
  cases vs with
  | nil =>
    rw [writeItems, List.nil_append]
    exact delimited_of_space (S.newline_space depth) (delimited_cons (by decide))
  | cons v vs => exact delimited_cons (by decide)

theorem delimited_members (S : Style) (depth : Nat) (ms : List (String × Json))
    (rest : Text) :
    Delimited (writeMembers S (depth + 1) ms ++ (S.newline depth ++ '}' :: rest)) := by
  cases ms with
  | nil =>
    rw [writeMembers, List.nil_append]
    exact delimited_of_space (S.newline_space depth) (delimited_cons (by decide))
  | cons m ms => exact delimited_cons (by decide)

theorem readMember_skip (fuel : Nat) {text text' : Text} (h : skip text = skip text') :
    readMember fuel text = readMember fuel text' := by
  cases fuel with
  | zero => rfl
  | succ fuel => simp only [readMember, h]

theorem readItems_writeItems {vs : List Json} (hread : ∀ v ∈ vs, ReadsBack S v) :
    ∀ fuel depth rest, sizeItems vs ≤ fuel →
      readItems fuel (writeItems S (depth + 1) vs ++ (S.newline depth ++ ']' :: rest))
        = some (vs, rest) := by
  induction vs with
  | nil =>
    rintro (_ | fuel) depth rest hfuel
    · exact absurd hfuel (by simp [sizeItems])
    · simp [writeItems, readItems, skip_newline, skip_cons (show isSpace ']' = false from rfl)]
  | cons v vs ih =>
    rintro (_ | fuel) depth rest hfuel
    · exact absurd hfuel (by simp [sizeItems])
    · obtain ⟨hv, hvs⟩ := List.forall_mem_cons.mp hread
      simp only [sizeItems] at hfuel
      have hvalue := hv fuel (depth + 1) _ (by omega) (delimited_items S depth vs rest)
      have hskip : skip (S.newline (depth + 1) ++ (write S (depth + 1) v
          ++ (writeItems S (depth + 1) vs ++ (S.newline depth ++ ']' :: rest))))
          = skip (write S (depth + 1) v
            ++ (writeItems S (depth + 1) vs ++ (S.newline depth ++ ']' :: rest))) :=
        skip_newline _
      simp only [writeItems, List.cons_append, List.append_assoc, readItems,
        skip_cons (show isSpace ',' = false from rfl), Char.reduceEq, if_false, if_true,
        readValue_skip fuel hskip, hvalue, Option.bind_eq_bind, Option.bind_some,
        ih hvs fuel depth rest (by omega)]

theorem readMember_write {k : String} {v : Json} (hread : ReadsBack S v) {fuel : Nat} (depth : Nat)
    (hfuel : size v < fuel) (hrest : Delimited rest) :
    readMember fuel (quote k ++ ':' :: (S.space ++ (write S depth v ++ rest)))
      = some ((k, v), rest) := by
  obtain ⟨fuel, rfl⟩ := Nat.exists_eq_succ_of_ne_zero (Nat.ne_zero_of_lt hfuel)
  have hskip : skip (S.space ++ (write S depth v ++ rest))
      = skip (write S depth v ++ rest) := skip_append S.space_space
  have hvalue := hread fuel depth rest (by omega) hrest
  simp only [quote, List.cons_append, List.append_assoc, List.nil_append, readMember,
    skip_cons (show isSpace '"' = false from rfl), if_true, readChars_quoted,
    skip_cons (show isSpace ':' = false from rfl), List.head?_cons, List.tail_cons,
    Option.bind_eq_bind, Option.bind_some, readValue_skip fuel hskip, hvalue, String.ofList_toList]

theorem readMembers_writeMembers {ms : List (String × Json)}
    (hread : ∀ m ∈ ms, ReadsBack S m.2) :
    ∀ fuel depth rest, sizeMembers ms ≤ fuel →
      readMembers fuel (writeMembers S (depth + 1) ms ++ (S.newline depth ++ '}' :: rest))
        = some (ms, rest) := by
  induction ms with
  | nil =>
    rintro (_ | fuel) depth rest hfuel
    · exact absurd hfuel (by simp [sizeMembers])
    · simp [writeMembers, readMembers, skip_newline, skip_cons (show isSpace '}' = false from rfl)]
  | cons m ms ih =>
    rintro (_ | fuel) depth rest hfuel
    · exact absurd hfuel (by simp [sizeMembers])
    · obtain ⟨hm, hms⟩ := List.forall_mem_cons.mp hread
      simp only [sizeMembers] at hfuel
      have hmember := readMember_write (k := m.1) hm (depth + 1)
        (show size m.2 < fuel by omega) (delimited_members S depth ms rest)
      have hquote : skip (S.newline (depth + 1) ++ (quote m.1 ++ ':' :: (S.space
          ++ (write S (depth + 1) m.2 ++ (writeMembers S (depth + 1) ms
          ++ (S.newline depth ++ '}' :: rest))))))
          = skip (quote m.1 ++ ':' :: (S.space
          ++ (write S (depth + 1) m.2 ++ (writeMembers S (depth + 1) ms
          ++ (S.newline depth ++ '}' :: rest))))) := skip_newline _
      simp only [writeMembers, List.cons_append, List.append_assoc, readMembers,
        skip_cons (show isSpace ',' = false from rfl), Char.reduceEq, if_false, if_true,
        readMember_skip fuel hquote, hmember, Option.bind_eq_bind, Option.bind_some,
        ih hms fuel depth rest (by omega)]

/-- **Reading back**: induction on the value. -/
theorem readsBack {v : Json} {n : Nat} (h : Regular n v) : ReadsBack S v := by
  induction v generalizing n with
  | null =>
    rintro (_ | fuel) depth rest hfuel hrest
    · exact absurd hfuel (by simp [size])
    · rfl
  | bool b =>
    rintro (_ | fuel) depth rest hfuel hrest
    · exact absurd hfuel (by simp [size])
    · cases b <;> rfl
  | int i =>
    rintro (_ | fuel) depth rest hfuel hrest
    · exact absurd hfuel (by simp [size])
    · obtain ⟨c, cs, hcs, hc⟩ := writeInt_head i
      obtain ⟨c', cs', hcs', hspace, -, -⟩ := write_head (S := S) h depth
      obtain ⟨rfl, rfl⟩ := List.cons.inj (hcs.symm.trans hcs')
      -- no other kind of value starts with a digit or a minus
      have hkind : c ≠ 'n' ∧ c ≠ 't' ∧ c ≠ 'f' ∧ c ≠ '"' ∧ c ≠ '[' ∧ c ≠ '{' := by
        rcases hc with hc | rfl
        · refine ⟨?_, ?_, ?_, ?_, ?_, ?_⟩ <;> (rintro rfl; exact absurd hc (by decide))
        · decide
      obtain ⟨hn, ht, hf, hq, hb, hc⟩ := hkind
      have hint := readInt_writeInt i hrest
      rw [hcs, List.cons_append] at hint
      simp only [write, hcs, List.cons_append, readValue, skip_cons hspace, hn, ht, hf, hq, hb, hc,
        if_false, hint]
  | float text => cases n <;> exact absurd h (by simp [Regular])
  | str s =>
    rintro (_ | fuel) depth rest hfuel hrest
    · exact absurd hfuel (by simp [size])
    · simp only [write, quote, List.cons_append, List.append_assoc, List.nil_append, readValue,
        skip_cons (show isSpace '"' = false from rfl), Char.reduceEq, if_false, if_true,
        readChars_quoted, Option.map_some, String.ofList_toList]
  | arr items ih =>
    cases n with
    | zero => exact absurd h (by simp [Regular])
    | succ n =>
      rintro (_ | fuel) depth rest hfuel hrest
      · exact absurd hfuel (by simp [size])
      · cases items with
        | nil => rfl
        | cons v vs =>
          simp only [size, sizeItems] at hfuel
          obtain ⟨hv, hvs⟩ := List.forall_mem_cons.mp fun w hw => ih w hw (h w hw)
          obtain ⟨c, cs, hcs, hspace, hclose, -⟩ :=
            write_head (S := S) (h v (List.mem_cons_self ..)) (depth + 1)
          have hskip : ∀ tail, skip (S.newline (depth + 1) ++ (write S (depth + 1) v ++ tail))
              = write S (depth + 1) v ++ tail := fun tail => by
            rw [skip_newline, hcs, List.cons_append, skip_cons hspace]
          -- a list with items does not close at once
          have hopen : ∀ tail, (write S (depth + 1) v ++ tail).head? ≠ some ']' := fun tail => by
            rw [hcs, List.cons_append, List.head?_cons]
            exact fun heq => hclose (Option.some.inj heq)
          have hvalue := hv fuel (depth + 1) _ (by omega) (delimited_items S depth vs rest)
          rw [← readValue_skip fuel (skip_newline (S := S) (depth + 1))] at hvalue
          simp only [write, List.cons_append, List.append_assoc, List.nil_append, readValue,
            skip_cons (show isSpace '[' = false from rfl), Char.reduceEq, if_false, if_true, hskip,
            if_neg (hopen _), hvalue, Option.bind_eq_bind, Option.bind_some,
            readItems_writeItems hvs fuel depth rest (by omega)]
  | obj members ih =>
    cases n with
    | zero => exact absurd h (by simp [Regular])
    | succ n =>
      rintro (_ | fuel) depth rest hfuel hrest
      · exact absurd hfuel (by simp [size])
      · cases members with
        | nil => rfl
        | cons m ms =>
          simp only [size, sizeMembers] at hfuel
          obtain ⟨hm, hms⟩ := List.forall_mem_cons.mp fun w hw => ih w hw (h w hw)
          have hskip : ∀ tail, skip (S.newline (depth + 1) ++ (quote m.1 ++ tail))
              = quote m.1 ++ tail := fun tail => by
            rw [skip_newline]
            exact skip_cons rfl
          -- nor does an object with members
          have hopen : ∀ tail, (quote m.1 ++ tail).head? ≠ some '}' := fun tail => by
            rw [quote, List.cons_append, List.head?_cons]
            decide
          have hmember := readMember_write (k := m.1) hm (depth + 1)
            (show size m.2 < fuel by omega) (delimited_members S depth ms rest)
          rw [← readMember_skip fuel (skip_newline (S := S) (depth + 1))] at hmember
          simp only [write, List.cons_append, List.append_assoc, List.nil_append, readValue,
            skip_cons (show isSpace '{' = false from rfl), Char.reduceEq, if_false, if_true, hskip,
            if_neg (hopen _), hmember, Option.bind_eq_bind, Option.bind_some,
            readMembers_writeMembers hms fuel depth rest (by omega)]

/-! #### The fuel -/

theorem size_le (S : Style) {v : Json} {n : Nat} (h : Regular n v) (depth : Nat) :
    size v ≤ 2 * (write S depth v).length := by
  induction v generalizing n depth with
  | null => simp [size, write]
  | str s =>
    simp only [size, write, quote, List.length_cons]
    omega
  | bool b => cases b <;> simp [size, write]
  | int i =>
    obtain ⟨c, cs, hcs, -⟩ := writeInt_head i
    simp only [size, write, hcs, List.length_cons]
    omega
  | float text => cases n <;> exact absurd h (by simp [Regular])
  | arr items ih =>
    cases n with
    | zero => exact absurd h (by simp [Regular])
    | succ n =>
      -- an item is preceded by a comma, which pays for its cell
      have hitems : ∀ vs : List Json, (∀ v ∈ vs, v ∈ items) →
          sizeItems vs ≤ 2 * (writeItems S (depth + 1) vs).length + 1 := by
        intro vs hvs
        induction vs with
        | nil => simp [sizeItems]
        | cons v vs ihs =>
          obtain ⟨hv, hvs⟩ := List.forall_mem_cons.mp hvs
          have hfirst := ih v hv (h v hv) (depth + 1)
          have hothers := ihs hvs
          simp only [sizeItems, writeItems, List.length_cons, List.length_append]
          omega
      cases items with
      | nil => simp [size, sizeItems, write]
      | cons v vs =>
        have hfirst := ih v (List.mem_cons_self ..) (h v (List.mem_cons_self ..)) (depth + 1)
        have hothers := hitems vs fun w hw => List.mem_cons_of_mem _ hw
        simp only [size, sizeItems, write, List.length_cons, List.length_append, List.length_nil]
        omega
  | obj members ih =>
    cases n with
    | zero => exact absurd h (by simp [Regular])
    | succ n =>
      have hmembers : ∀ ms : List (String × Json), (∀ m ∈ ms, m ∈ members) →
          sizeMembers ms ≤ 2 * (writeMembers S (depth + 1) ms).length + 1 := by
        intro ms hms
        induction ms with
        | nil => simp [sizeMembers]
        | cons m ms ihs =>
          obtain ⟨hm, hms⟩ := List.forall_mem_cons.mp hms
          have hfirst := ih m hm (h m hm) (depth + 1)
          have hothers := ihs hms
          simp only [sizeMembers, writeMembers, List.length_cons, List.length_append]
          omega
      cases members with
      | nil => simp [size, sizeMembers, write]
      | cons m ms =>
        have hfirst := ih m (List.mem_cons_self ..) (h m (List.mem_cons_self ..)) (depth + 1)
        have hothers := hmembers ms fun w hw => List.mem_cons_of_mem _ hw
        simp only [size, sizeMembers, write, List.length_cons, List.length_append, List.length_nil]
        omega

theorem scan_write (S : Style) {v : Json} {n : Nat} (h : Regular n v) {space : Text}
    (hspace : ∀ c ∈ space, isSpace c = true) : scan (write S 0 v ++ space) = some v := by
  have hsize := size_le S h 0
  have hread := readsBack (S := S) h (2 * (write S 0 v ++ space).length) 0 space
    (by rw [List.length_append]; omega)
    (by
      have hdelimited : Delimited (space ++ []) := delimited_of_space hspace fun _ hc => nomatch hc
      rwa [List.append_nil] at hdelimited)
  have hskip : skip space = [] := by
    have hskip : skip (space ++ []) = skip [] := skip_append hspace
    rwa [List.append_nil] at hskip
  simp only [scan, hread, hskip, if_true]

/-- **A lawful reader** of values of any depth. -/
def scanner (depth : Nat) : Reader where
  read := scan
  depth := depth
  read_write S _ _ h hspace := scan_write S h hspace

theorem write_ne_nil {v : Json} {n : Nat} (h : Regular n v) : write S 0 v ≠ [] := by
  intro hnil
  have hnone : ∀ c ∈ ([] : Text), isSpace c = true := fun _ hc => nomatch hc
  have hread := scan_write S h hnone
  rw [hnil] at hread
  exact nomatch hread

/-- **Texts tell values apart.** -/
theorem write_injective {v w : Json} {m n : Nat} (hv : Regular m v) (hw : Regular n w)
    (h : write S 0 v = write S 0 w) : v = w := by
  have hnone : ∀ c ∈ ([] : Text), isSpace c = true := fun _ hc => nomatch hc
  have hread := scan_write S hv hnone
  rw [h, scan_write S hw hnone] at hread
  exact (Option.some.inj hread).symm

theorem write_obj_eq_append (depth : Nat) {members : List (String × Json)} (h : members ≠ []) :
    ∃ body, write S depth (.obj members) = body ++ ['}'] := by
  obtain ⟨m, ms, rfl⟩ := List.exists_cons_of_ne_nil h
  exact ⟨_, by rw [write, ← List.cons_append]⟩

end roundtrip

/-! ### Lengths -/

mutual

/-- A bound of the length of a text, without the text. -/
def extent (style : Style) (depth : Nat) : Json → Nat
  | .null => 4
  | .bool _ => 5
  | .int n => (writeInt n).length
  | .float text => text.length
  | .str s => 6 * s.length + 2
  | .arr vs => extentItems style (depth + 1) vs + (style.newline depth).length + 2
  | .obj ms => extentMembers style (depth + 1) ms + (style.newline depth).length + 2

def extentItems (style : Style) (depth : Nat) : List Json → Nat
  | [] => 0
  | v :: vs =>
      (style.newline depth).length + extent style depth v + extentItems style depth vs + 1

def extentMembers (style : Style) (depth : Nat) : List (String × Json) → Nat
  | [] => 0
  | (k, v) :: ms =>
      (style.newline depth).length + (6 * k.length + 2) + style.space.length
        + extent style depth v + extentMembers style depth ms + 2

end

theorem extentItems_eq (style : Style) (depth : Nat) (items : List Json) :
    extentItems style depth items = (items.map fun v =>
      (style.newline depth).length + extent style depth v + 1).sum := by
  induction items with
  | nil => rfl
  | cons v vs ih =>
    rw [extentItems, ih, List.map_cons, List.sum_cons]
    omega

theorem extentMembers_eq (style : Style) (depth : Nat) (members : List (String × Json)) :
    extentMembers style depth members = (members.map fun m =>
      (style.newline depth).length + (6 * m.1.length + 2) + style.space.length
        + extent style depth m.2 + 2).sum := by
  induction members with
  | nil => rfl
  | cons m ms ih =>
    rw [extentMembers, ih, List.map_cons, List.sum_cons]
    omega

theorem extent_sorted (style : Style) (v : Json) (depth : Nat) :
    extent style depth v.sorted = extent style depth v := by
  induction v generalizing depth with
  | null | bool b | int n | float text | str s => rfl
  | arr items ih =>
    have hitems : (items.map sorted).map (fun v =>
          (style.newline (depth + 1)).length + extent style (depth + 1) v + 1)
        = items.map fun v => (style.newline (depth + 1)).length + extent style (depth + 1) v + 1 := by
      rw [List.map_map]
      exact List.map_congr_left fun v hv => by rw [Function.comp_apply, ih v hv]
    rw [sorted_arr, extent, extent, extentItems_eq, extentItems_eq, hitems]
  | obj members ih =>
    have hmembers : (members.map fun m => (m.1, m.2.sorted)).map (fun m =>
          (style.newline (depth + 1)).length + (6 * m.1.length + 2) + style.space.length
            + extent style (depth + 1) m.2 + 2)
        = members.map fun m => (style.newline (depth + 1)).length + (6 * m.1.length + 2)
            + style.space.length + extent style (depth + 1) m.2 + 2 := by
      rw [List.map_map]
      exact List.map_congr_left fun m hm => by rw [Function.comp_apply, ih m hm]
    rw [sorted_obj, extent, extent, extentMembers_eq, extentMembers_eq,
      ((perm_sortedMembers members).map _).sum_eq, hmembers]

theorem length_escape_le (c : Char) : (escape c).length ≤ 6 := by
  unfold escape
  split_ifs <;> simp

theorem length_quote_le (s : String) : (quote s).length ≤ 6 * s.length + 2 := by
  have hchars := List.sum_le_card_nsmul (s.toList.map fun c => (escape c).length) 6 fun n hn => by
    obtain ⟨c, -, rfl⟩ := List.mem_map.mp hn
    exact length_escape_le c
  simp only [List.length_map, smul_eq_mul, String.length_toList] at hchars
  simp only [quote, List.length_cons, List.length_append, List.length_flatMap, List.length_nil]
  omega

theorem length_write_le (style : Style) (v : Json) (depth : Nat) :
    (write style depth v).length ≤ extent style depth v := by
  induction v generalizing depth with
  | null => simp [write, extent]
  | bool b => cases b <;> simp [write, extent]
  | int n => simp [write, extent]
  | float text => simp [write, extent, String.length_toList]
  | str s => exact length_quote_le s
  | arr items ih =>
    -- the others are induction over the list, with the items as in the tree
    have hitems : ∀ vs : List Json, (∀ v ∈ vs, v ∈ items) →
        (writeItems style (depth + 1) vs).length ≤ extentItems style (depth + 1) vs := by
      intro vs hvs
      induction vs with
      | nil => simp [writeItems]
      | cons v vs ihs =>
        obtain ⟨hv, hvs⟩ := List.forall_mem_cons.mp hvs
        have hfirst := ih v hv (depth + 1)
        have hothers := ihs hvs
        simp only [writeItems, extentItems, List.length_cons, List.length_append]
        omega
    cases items with
    | nil => simp [write, extent]
    | cons v vs =>
      have hall := hitems (v :: vs) fun w hw => hw
      simp only [writeItems, List.length_cons, List.length_append] at hall
      simp only [write, extent, List.length_cons, List.length_append, List.length_nil]
      omega
  | obj members ih =>
    have hmembers : ∀ ms : List (String × Json), (∀ m ∈ ms, m ∈ members) →
        (writeMembers style (depth + 1) ms).length ≤ extentMembers style (depth + 1) ms := by
      intro ms hms
      induction ms with
      | nil => simp [writeMembers]
      | cons m ms ihs =>
        obtain ⟨hm, hms⟩ := List.forall_mem_cons.mp hms
        have hname := length_quote_le m.1
        have hfirst := ih m hm (depth + 1)
        have hothers := ihs hms
        simp only [writeMembers, extentMembers, List.length_cons, List.length_append]
        omega
    cases members with
    | nil => simp [write, extent]
    | cons m ms =>
      have hall := hmembers (m :: ms) fun w hw => hw
      simp only [writeMembers, List.length_cons, List.length_append] at hall
      simp only [write, extent, List.length_cons, List.length_append, List.length_nil]
      omega

/-! ### One line -/

@[simp] theorem compact_newline (depth : Nat) : compact.newline depth = [] := rfl
@[simp] theorem compact_space : compact.space = [] := rfl

theorem newline_notMem_escape (c : Char) : '\n' ∉ escape c := by
  have hdigit : ∀ d < 16, '\n' ≠ Nat.digitChar d := by decide
  unfold escape
  split_ifs with h₁ h₂ h₃ h₄ h₅ h₆ h₇ h₈
  · decide
  · decide
  · decide
  · decide
  · decide
  · decide
  · decide
  · simp [hdigit (c.toNat / 16) (by omega), hdigit (c.toNat % 16) (by omega)]
  · exact fun h => h₅ (List.mem_singleton.mp h).symm

theorem newline_notMem_quote (s : String) : '\n' ∉ quote s := by
  simp [quote, newline_notMem_escape]

theorem newline_notMem_writeInt (n : Int) : '\n' ∉ writeInt n := by
  have hdigits : ∀ m : Nat, '\n' ∉ Nat.toDigits 10 m := fun m h =>
    absurd (Nat.isDigit_of_mem_toDigits (b := 10) (by omega) (by omega) h) (by decide)
  cases n with
  | ofNat n => exact hdigits n
  | negSucc n =>
    rw [writeInt, List.mem_cons, not_or]
    exact ⟨by decide, hdigits _⟩

/-- **On one line** there is no new line. -/
theorem newline_notMem_write {v : Json} {n : Nat} (h : Regular n v) (depth : Nat) :
    '\n' ∉ write compact depth v := by
  induction v generalizing n depth with
  | null => simp [write]
  | bool b => cases b <;> simp [write]
  | int i => exact newline_notMem_writeInt i
  | float text => cases n <;> exact absurd h (by simp [Regular])
  | str s => exact newline_notMem_quote s
  -- the compact style has no line ends of its own
  | arr items ih =>
    cases n with
    | zero => exact absurd h (by simp [Regular])
    | succ n =>
      have hitems : ∀ vs : List Json, (∀ v ∈ vs, v ∈ items) →
          '\n' ∉ writeItems compact (depth + 1) vs := by
        intro vs hvs
        induction vs with
        | nil => simp [writeItems]
        | cons v vs ihs =>
          obtain ⟨hv, hvs⟩ := List.forall_mem_cons.mp hvs
          simp [writeItems, ih v hv (h v hv), ihs hvs]
      cases items with
      | nil => simp [write]
      | cons v vs =>
        have hfirst := ih v (List.mem_cons_self ..) (h v (List.mem_cons_self ..)) (depth + 1)
        have hothers := hitems vs fun w hw => List.mem_cons_of_mem _ hw
        simp [write, hfirst, hothers]
  | obj members ih =>
    cases n with
    | zero => exact absurd h (by simp [Regular])
    | succ n =>
      have hmembers : ∀ ms : List (String × Json), (∀ m ∈ ms, m ∈ members) →
          '\n' ∉ writeMembers compact (depth + 1) ms := by
        intro ms hms
        induction ms with
        | nil => simp [writeMembers]
        | cons m ms ihs =>
          obtain ⟨hm, hms⟩ := List.forall_mem_cons.mp hms
          simp [writeMembers, newline_notMem_quote, ih m hm (h m hm), ihs hms]
      cases members with
      | nil => simp [write]
      | cons m ms =>
        have hfirst := ih m (List.mem_cons_self ..) (h m (List.mem_cons_self ..)) (depth + 1)
        have hothers := hmembers ms fun w hw => List.mem_cons_of_mem _ hw
        simp [write, hfirst, hothers, newline_notMem_quote]

end Json
