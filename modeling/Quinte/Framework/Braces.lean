import Mathlib
import Quinte.Framework.JsonAccess
import Quinte.Framework.JsonText

/-! # Braces of JSON texts

    In a JSON text the braces outside the strings balance.  `Nested` says so
    of a text, and `ObjectParser` of the texts that a parser reads as objects.
    `firstBlock` walks from an opening brace to the one that closes it.

    * `firstBlock_nested`: the block that the walk finds is the balanced one;
    * `objectParser_scan`: the recursive descent is such a parser.
-/

namespace Json

/-! ### Balanced texts -/

/-- What stands between the quotes of a string. -/
inductive Quoted : Text → Prop where
  | nil : Quoted []
  | char {c : Char} {cs : Text} (h : c ≠ '"' ∧ c ≠ '\\') : Quoted cs → Quoted (c :: cs)
  | escape (c : Char) {cs : Text} : Quoted cs → Quoted ('\\' :: c :: cs)

/-- A text whose braces balance outside its strings. -/
inductive Nested : Text → Prop where
  | nil : Nested []
  | char {c : Char} {cs : Text} (h : c ≠ '"' ∧ c ≠ '\x7b' ∧ c ≠ '\x7d') :
      Nested cs → Nested (c :: cs)
  | string {q cs : Text} : Quoted q → Nested cs → Nested ('"' :: (q ++ '"' :: cs))
  | braces {inner cs : Text} :
      Nested inner → Nested cs → Nested ('\x7b' :: (inner ++ '\x7d' :: cs))

theorem Nested.append {a b : Text} (ha : Nested a) (hb : Nested b) : Nested (a ++ b) := by
  induction ha with
  | nil => exact hb
  | char h _ ih => exact Nested.char h ih
  | string hq _ ih =>
    rw [List.cons_append, List.append_assoc, List.cons_append]
    exact Nested.string hq ih
  | braces hinner _ _ ih =>
    rw [List.cons_append, List.append_assoc, List.cons_append]
    exact Nested.braces hinner ih

theorem nested_plain {cs : Text} (h : ∀ c ∈ cs, c ≠ '"' ∧ c ≠ '\x7b' ∧ c ≠ '\x7d') :
    Nested cs := by
  induction cs with
  | nil => exact Nested.nil
  | cons c cs ih =>
    exact Nested.char (h c List.mem_cons_self) (ih fun d hd => h d (List.mem_cons_of_mem c hd))

/-- A parser that reads a text as an object only if the text is one pair of
    braces around a balanced text. -/
structure ObjectParser (parse : Text → Option Json) : Prop where
  brace : ∀ cs v, parse ('\x7b' :: cs) = some v → v.isObject = true
  nested : ∀ text v, parse text = some v → v.isObject = true →
    ∃ space inner space', (∀ c ∈ space ++ space', isSpace c = true) ∧ Nested inner ∧
      text = space ++ '\x7b' :: (inner ++ '\x7d' :: space')

/-! ### The walk -/

/-- From an opening brace to the brace that closes it, or to the one that
    closes `depth` braces more. Braces inside strings do not count. -/
def firstBlock (depth : Nat) (inString escaped : Bool) : Text → Option Text
  | [] => none
  | c :: cs =>
      if inString then
        if escaped then (firstBlock depth true false cs).map (c :: ·)
        else if c = '\\' then (firstBlock depth true true cs).map (c :: ·)
        else (firstBlock depth (c ≠ '"') false cs).map (c :: ·)
      else if c = '"' then (firstBlock depth true false cs).map (c :: ·)
      else if c = '\x7b' then (firstBlock (depth + 1) false false cs).map (c :: ·)
      else if c = '\x7d' then
        if depth - 1 = 0 then some [c] else (firstBlock (depth - 1) false false cs).map (c :: ·)
      else (firstBlock depth false false cs).map (c :: ·)

/-- The walk passes through a string. -/
theorem firstBlock_quoted {q : Text} (h : Quoted q) (depth : Nat) (rest : Text) :
    firstBlock depth true false (q ++ '"' :: rest)
      = (firstBlock depth false false rest).map ((q ++ ['"']) ++ ·) := by
  induction h with
  | nil =>
    rw [List.nil_append, firstBlock]
    simp
  | char h _ ih =>
    rw [List.cons_append, firstBlock]
    simp [h.1, h.2, ih, Function.comp_def]
  | escape c _ ih =>
    rw [List.cons_append, List.cons_append, firstBlock]
    simp [firstBlock, ih, Function.comp_def]

/-- The walk passes through a balanced text. -/
theorem firstBlock_balanced {text : Text} (h : Nested text) (depth : Nat) (hdepth : 0 < depth)
    (rest : Text) :
    firstBlock depth false false (text ++ rest)
      = (firstBlock depth false false rest).map (text ++ ·) := by
  induction h generalizing depth rest with
  | nil => simp
  | char h _ ih =>
    rw [List.cons_append, firstBlock]
    simp [h.1, h.2.1, h.2.2, ih depth hdepth, Function.comp_def]
  | @string q cs hq _ ih =>
    have htext : '"' :: (q ++ '"' :: cs) ++ rest = '"' :: (q ++ '"' :: (cs ++ rest)) := by simp
    rw [htext, firstBlock]
    simp [firstBlock_quoted hq, ih depth hdepth, Function.comp_def]
  | @braces inner cs _ _ ihinner ih =>
    have htext : '\x7b' :: (inner ++ '\x7d' :: cs) ++ rest
        = '\x7b' :: (inner ++ ('\x7d' :: (cs ++ rest))) := by simp
    rw [htext, firstBlock]
    simp only [Bool.false_eq_true, if_false, if_true, (by decide : ¬ '\x7b' = '"')]
    -- the closing brace leads back to the depth before the opening one
    rw [ihinner (depth + 1) (by omega), firstBlock]
    simp only [Bool.false_eq_true, if_false, if_true, (by decide : ¬ '\x7d' = '"'),
      (by decide : ¬ '\x7d' = '\x7b'), Nat.add_sub_cancel, if_neg hdepth.ne']
    rw [ih depth hdepth]
    simp [Function.comp_def]

/-- **The walk finds the balanced block** that starts where it starts. -/
theorem firstBlock_nested {inner : Text} (h : Nested inner) (rest : Text) :
    firstBlock 0 false false ('\x7b' :: (inner ++ '\x7d' :: rest))
      = some ('\x7b' :: (inner ++ ['\x7d'])) := by
  rw [firstBlock]
  simp only [Bool.false_eq_true, if_false, if_true, (by decide : ¬ '\x7b' = '"'), Nat.zero_add]
  rw [firstBlock_balanced h 1 (by omega), firstBlock]
  simp

/-- A block ends in a brace, and the text starts with it. -/
def BlockOf (text block : Text) : Prop :=
  ∃ front rest, block = front ++ ['\x7d'] ∧ text = block ++ rest

theorem blockOf_cons {c : Char} {cs block : Text} {found : Option Text}
    (h : ∀ block, found = some block → BlockOf cs block)
    (hfound : found.map (c :: ·) = some block) : BlockOf (c :: cs) block := by
  obtain ⟨block', hblock', rfl⟩ := Option.map_eq_some_iff.mp hfound
  obtain ⟨front, rest, rfl, rfl⟩ := h block' hblock'
  exact ⟨c :: front, rest, rfl, rfl⟩

theorem blockOf_firstBlock {depth : Nat} {inString escaped : Bool} {text block : Text}
    (h : firstBlock depth inString escaped text = some block) : BlockOf text block := by
  induction text generalizing depth inString escaped block with
  | nil => cases h
  | cons c cs ih =>
    rw [firstBlock] at h
    split at h
    · split at h
      · exact blockOf_cons (fun _ => ih) h
      · split at h <;> exact blockOf_cons (fun _ => ih) h
    · split at h
      · exact blockOf_cons (fun _ => ih) h
      · split at h
        · exact blockOf_cons (fun _ => ih) h
        · split at h
          case isTrue hclose =>
            split at h
            · obtain rfl := Option.some.inj h
              exact ⟨[], cs, by rw [hclose]; rfl, rfl⟩
            · exact blockOf_cons (fun _ => ih) h
          case isFalse => exact blockOf_cons (fun _ => ih) h

/-! ### The recursive descent -/

/-- What is read of a text is balanced. -/
def Consumes (text rest : Text) : Prop := ∃ used, Nested used ∧ text = used ++ rest

theorem Consumes.refl (text : Text) : Consumes text text := ⟨[], Nested.nil, rfl⟩

theorem Consumes.trans {a b c : Text} (h : Consumes a b) (h' : Consumes b c) : Consumes a c := by
  obtain ⟨used, hused, rfl⟩ := h
  obtain ⟨used', hused', rfl⟩ := h'
  exact ⟨used ++ used', hused.append hused', by rw [List.append_assoc]⟩

theorem Consumes.char {c : Char} {text rest : Text} (hc : c ≠ '"' ∧ c ≠ '\x7b' ∧ c ≠ '\x7d')
    (h : Consumes text rest) : Consumes (c :: text) rest := by
  obtain ⟨used, hused, rfl⟩ := h
  exact ⟨c :: used, Nested.char hc hused, rfl⟩

theorem plain_of_isSpace {c : Char} (h : isSpace c = true) :
    c ≠ '"' ∧ c ≠ '\x7b' ∧ c ≠ '\x7d' := by
  simp only [isSpace, Bool.or_eq_true, decide_eq_true_eq] at h
  rcases h with ((rfl | rfl) | rfl) | rfl <;> decide

theorem consumes_skip (text : Text) : Consumes text (skip text) := by
  refine ⟨text.takeWhile isSpace, nested_plain ?_, (List.takeWhile_append_dropWhile).symm⟩
  intro c hc
  exact plain_of_isSpace (List.mem_takeWhile_imp hc)

/-- The first character after the space, and what is read from there. -/
theorem consumes_of_skip {text cs rest : Text} {c : Char} (h : skip text = c :: cs)
    (hrest : Consumes (c :: cs) rest) : Consumes text rest :=
  (consumes_skip text).trans (h ▸ hrest)

theorem plain_of_hexValue {c : Char} {d : Nat} (h : hexValue c = some d) :
    c ≠ '"' ∧ c ≠ '\\' := by
  constructor <;> rintro rfl <;> cases h

theorem quoted_of_readChars {text cs rest : Text} (h : readChars text = some (cs, rest)) :
    ∃ q, Quoted q ∧ text = q ++ '"' :: rest := by
  induction text using readChars.induct generalizing cs rest with
  | case1 => cases h
  | case2 text =>
    rw [readChars.eq_def] at h
    dsimp only at h
    rw [if_pos rfl] at h
    obtain ⟨rfl, rfl⟩ := Prod.mk.inj (Option.some.inj h)
    exact ⟨[], Quoted.nil, rfl⟩
  -- an escape of a code unit: its digits are no quotes and no backslashes
  | case3 c₁ c₂ c₃ c₄ tail hne ih =>
    rw [readChars.eq_def] at h
    dsimp only at h
    rw [if_neg hne, if_pos rfl] at h
    simp only [Option.bind_eq_bind, Option.bind_eq_some_iff] at h
    obtain ⟨d₁, hd₁, d₂, hd₂, d₃, hd₃, d₄, hd₄, ⟨cs', rest'⟩, hread, h⟩ := h
    dsimp only at h
    rw [Option.ite_none_right_eq_some] at h
    obtain ⟨-, rfl⟩ := Prod.mk.inj (Option.some.inj h.2)
    obtain ⟨q, hq, rfl⟩ := ih hread
    refine ⟨'\\' :: 'u' :: c₁ :: c₂ :: c₃ :: c₄ :: q, Quoted.escape 'u' ?_, rfl⟩
    exact Quoted.char (plain_of_hexValue hd₁) (Quoted.char (plain_of_hexValue hd₂)
      (Quoted.char (plain_of_hexValue hd₃) (Quoted.char (plain_of_hexValue hd₄) hq)))
  -- any other escape
  | case4 e tail hnot hne ih =>
    rw [readChars.eq_def] at h
    dsimp only at h
    rw [if_neg hne, if_pos rfl] at h
    split at h
    · next heq =>
      obtain ⟨rfl, htail⟩ := List.cons.inj heq
      exact (hnot _ _ _ _ _ rfl htail).elim
    · next heq =>
      obtain ⟨rfl, rfl⟩ := List.cons.inj heq
      simp only [Option.bind_eq_bind, Option.bind_eq_some_iff] at h
      obtain ⟨c, -, ⟨cs', rest'⟩, hread, h⟩ := h
      obtain ⟨-, rfl⟩ := Prod.mk.inj (Option.some.inj h)
      obtain ⟨q, hq, rfl⟩ := ih hread
      exact ⟨'\\' :: e :: q, Quoted.escape e hq, rfl⟩
    · cases h
  | case5 hne => simp [readChars.eq_def] at h
  -- a raw control character is refused
  | case6 c tail hquote hslash hcontrol =>
    rw [readChars.eq_def] at h
    dsimp only at h
    rw [if_neg hquote, if_neg hslash, if_pos hcontrol] at h
    cases h
  | case7 c tail hquote hslash hcontrol ih =>
    rw [readChars.eq_def] at h
    dsimp only at h
    rw [if_neg hquote, if_neg hslash, if_neg hcontrol] at h
    simp only [Option.bind_eq_bind, Option.bind_eq_some_iff] at h
    obtain ⟨⟨cs', rest'⟩, hread, h⟩ := h
    obtain ⟨-, rfl⟩ := Prod.mk.inj (Option.some.inj h)
    obtain ⟨q, hq, rfl⟩ := ih hread
    exact ⟨c :: q, Quoted.char ⟨hquote, hslash⟩ hq, rfl⟩

theorem plain_of_isDigit {c : Char} (h : c.isDigit = true) :
    c ≠ '"' ∧ c ≠ '\x7b' ∧ c ≠ '\x7d' := by
  refine ⟨?_, ?_, ?_⟩ <;> rintro rfl <;> cases h

theorem consumes_readDigits {negative : Bool} {text rest : Text} {v : Json}
    (h : readDigits negative text = some (v, rest)) : Consumes text rest := by
  unfold readDigits at h
  dsimp only at h
  rw [Option.ite_none_left_eq_some] at h
  obtain ⟨-, rfl⟩ := Prod.mk.inj (Option.some.inj h.2)
  refine ⟨text.takeWhile Char.isDigit, nested_plain ?_, (List.takeWhile_append_dropWhile).symm⟩
  intro c hc
  exact plain_of_isDigit (List.mem_takeWhile_imp hc)

theorem consumes_readInt {text rest : Text} {v : Json} (h : readInt text = some (v, rest)) :
    Consumes text rest := by
  unfold readInt at h
  split at h
  case isTrue hminus =>
    obtain ⟨text', rfl⟩ : ∃ text', text = '-' :: text' := by
      cases text with
      | nil => cases hminus
      | cons c cs => exact ⟨cs, by rw [Option.some.inj hminus]⟩
    exact Consumes.char (by decide) (consumes_readDigits h)
  case isFalse => exact consumes_readDigits h

theorem consumes_readWord {word text rest : Text} {v w : Json}
    (hword : ∀ c ∈ word, c ≠ '"' ∧ c ≠ '\x7b' ∧ c ≠ '\x7d')
    (h : readWord word v text = some (w, rest)) : Consumes text rest := by
  unfold readWord at h
  rw [Option.ite_none_right_eq_some] at h
  obtain ⟨htake, h⟩ := h
  obtain ⟨-, rfl⟩ := Prod.mk.inj (Option.some.inj h)
  refine ⟨word, nested_plain hword, ?_⟩
  have hsplit := List.take_append_drop word.length text
  rw [htake] at hsplit
  exact hsplit.symm

theorem eq_cons_of_head? {text : Text} {c : Char} (h : text.head? = some c) :
    text = c :: text.tail := by
  cases text with
  | nil => cases h
  | cons d cs => rw [Option.some.inj h, List.tail_cons]

/-- The readers consume balanced texts with this fuel. The reader of members
    also consumes a closing brace. -/
structure Balances (fuel : Nat) : Prop where
  value : ∀ text v rest, readValue fuel text = some (v, rest) → Consumes text rest
  items : ∀ text vs rest, readItems fuel text = some (vs, rest) → Consumes text rest
  member : ∀ text m rest, readMember fuel text = some (m, rest) → Consumes text rest
  members : ∀ text ms rest, readMembers fuel text = some (ms, rest) →
    Consumes text ('\x7d' :: rest)

section step

variable {fuel : Nat} {text rest : Text}

/-- The text of an object is a pair of braces around a balanced text. -/
theorem braces_of_readValue (ih : Balances fuel) {ms : List (String × Json)}
    (h : readValue (fuel + 1) text = some (.obj ms, rest)) :
    ∃ inner, Nested inner ∧ skip text = '\x7b' :: (inner ++ '\x7d' :: rest) := by
  rw [readValue] at h
  split at h
  · cases h
  next c cs hskip =>
  rw [hskip]
  split_ifs at h with h₁ h₂ h₃ h₄ h₅ h₆ h₇ h₈
  · simp [readWord] at h
  · simp [readWord] at h
  · simp [readWord] at h
  · simp at h
  · simp at h
  · simp only [Option.bind_eq_bind, Option.bind_eq_some_iff] at h
    obtain ⟨_, _, _, _, h⟩ := h
    simp at h
  · -- no members
    obtain ⟨-, rfl⟩ := Prod.mk.inj (Option.some.inj h)
    obtain ⟨used, hused, hcs⟩ := consumes_skip cs
    rw [eq_cons_of_head? h₈] at hcs
    exact ⟨used, hused, by rw [h₇, ← hcs]⟩
  · simp only [Option.bind_eq_bind, Option.bind_eq_some_iff] at h
    obtain ⟨⟨m, rest₁⟩, hmember, ⟨ms', rest₂⟩, hmembers, h⟩ := h
    obtain ⟨-, rfl⟩ := Prod.mk.inj (Option.some.inj h)
    obtain ⟨inner, hinner, hcs⟩ :=
      (ih.member _ _ _ hmember).trans (ih.members _ _ _ hmembers)
    exact ⟨inner, hinner, by rw [h₇, hcs]⟩
  · unfold readInt readDigits at h
    dsimp only at h
    split_ifs at h <;> simp at h

theorem Balances.value_step (ih : Balances fuel) {v : Json}
    (h : readValue (fuel + 1) text = some (v, rest)) : Consumes text rest := by
  cases v with
  | obj ms =>
    obtain ⟨inner, hinner, hskip⟩ := braces_of_readValue ih h
    refine consumes_of_skip hskip ⟨_, Nested.braces hinner Nested.nil, ?_⟩
    simp
  | null | bool b | int n | float t | str s | arr vs =>
    rw [readValue] at h
    split at h
    · cases h
    next c cs hskip =>
    apply consumes_of_skip hskip
    split_ifs at h with h₁ h₂ h₃ h₄ h₅ h₆ h₇ h₈
    · apply Consumes.char (by rw [h₁]; decide)
      refine consumes_readWord ?_ h
      simp
    · apply Consumes.char (by rw [h₂]; decide)
      refine consumes_readWord ?_ h
      simp
    · apply Consumes.char (by rw [h₃]; decide)
      refine consumes_readWord ?_ h
      simp
    · -- a string
      obtain ⟨⟨text', rest'⟩, hread, h⟩ := Option.map_eq_some_iff.mp h
      obtain ⟨-, rfl⟩ := Prod.mk.inj h
      obtain ⟨q, hq, rfl⟩ := quoted_of_readChars hread
      rw [h₄]
      exact ⟨'"' :: (q ++ ['"']), Nested.string hq Nested.nil, by simp⟩
    · -- no items
      obtain ⟨-, rfl⟩ := Prod.mk.inj (Option.some.inj h)
      apply Consumes.char (by rw [h₅]; decide)
      apply (consumes_skip cs).trans
      rw [eq_cons_of_head? h₆]
      exact Consumes.char (by decide) (Consumes.refl _)
    · simp only [Option.bind_eq_bind, Option.bind_eq_some_iff] at h
      obtain ⟨⟨w, rest₁⟩, hvalue, ⟨ws, rest₂⟩, hitems, h⟩ := h
      obtain ⟨-, rfl⟩ := Prod.mk.inj (Option.some.inj h)
      apply Consumes.char (by rw [h₅]; decide)
      exact (ih.value _ _ _ hvalue).trans (ih.items _ _ _ hitems)
    · simp at h
    · simp only [Option.bind_eq_bind, Option.bind_eq_some_iff] at h
      obtain ⟨_, _, _, _, h⟩ := h
      simp at h
    · exact consumes_readInt h

theorem Balances.items_step (ih : Balances fuel) {vs : List Json}
    (h : readItems (fuel + 1) text = some (vs, rest)) : Consumes text rest := by
  rw [readItems] at h
  split at h
  · cases h
  next c cs hskip =>
  apply consumes_of_skip hskip
  split at h
  case isTrue hclose =>
    obtain ⟨-, rfl⟩ := Prod.mk.inj (Option.some.inj h)
    rw [hclose]
    exact Consumes.char (by decide) (Consumes.refl _)
  case isFalse =>
    rw [Option.ite_none_right_eq_some] at h
    obtain ⟨rfl, h⟩ := h
    simp only [Option.bind_eq_bind, Option.bind_eq_some_iff] at h
    obtain ⟨⟨w, rest₁⟩, hvalue, ⟨ws, rest₂⟩, hitems, h⟩ := h
    obtain ⟨-, rfl⟩ := Prod.mk.inj (Option.some.inj h)
    exact Consumes.char (by decide) ((ih.value _ _ _ hvalue).trans (ih.items _ _ _ hitems))

theorem Balances.member_step (ih : Balances fuel) {m : String × Json}
    (h : readMember (fuel + 1) text = some (m, rest)) : Consumes text rest := by
  rw [readMember] at h
  split at h
  · cases h
  next c cs hskip =>
  apply consumes_of_skip hskip
  rw [Option.ite_none_right_eq_some] at h
  obtain ⟨rfl, h⟩ := h
  simp only [Option.bind_eq_bind, Option.bind_eq_some_iff] at h
  obtain ⟨⟨name, rest₁⟩, hname, h⟩ := h
  dsimp only at h
  rw [Option.ite_none_right_eq_some] at h
  obtain ⟨hcolon, h⟩ := h
  simp only [Option.bind_eq_some_iff] at h
  obtain ⟨⟨w, rest₂⟩, hvalue, h⟩ := h
  obtain ⟨-, rfl⟩ := Prod.mk.inj (Option.some.inj h)
  obtain ⟨q, hq, rfl⟩ := quoted_of_readChars hname
  have hquoted : Consumes ('"' :: (q ++ '"' :: rest₁)) rest₁ :=
    ⟨'"' :: (q ++ ['"']), Nested.string hq Nested.nil, by simp⟩
  apply (hquoted.trans (consumes_skip rest₁)).trans
  rw [eq_cons_of_head? hcolon]
  exact Consumes.char (by decide) (ih.value _ _ _ hvalue)

theorem Balances.members_step (ih : Balances fuel) {ms : List (String × Json)}
    (h : readMembers (fuel + 1) text = some (ms, rest)) : Consumes text ('\x7d' :: rest) := by
  rw [readMembers] at h
  split at h
  · cases h
  next c cs hskip =>
  apply consumes_of_skip hskip
  split at h
  case isTrue hclose =>
    obtain ⟨-, rfl⟩ := Prod.mk.inj (Option.some.inj h)
    rw [hclose]
    exact Consumes.refl _
  case isFalse =>
    rw [Option.ite_none_right_eq_some] at h
    obtain ⟨rfl, h⟩ := h
    simp only [Option.bind_eq_bind, Option.bind_eq_some_iff] at h
    obtain ⟨⟨m, rest₁⟩, hmember, ⟨ms', rest₂⟩, hmembers, h⟩ := h
    obtain ⟨-, rfl⟩ := Prod.mk.inj (Option.some.inj h)
    apply Consumes.char (by decide)
    exact (ih.member _ _ _ hmember).trans (ih.members _ _ _ hmembers)

end step

theorem balances (fuel : Nat) : Balances fuel := by
  induction fuel with
  | zero =>
    constructor <;> intro text v rest h
    · rw [readValue] at h; cases h
    · rw [readItems] at h; cases h
    · rw [readMember] at h; cases h
    · rw [readMembers] at h; cases h
  | succ fuel ih =>
    constructor <;> intro text v rest h
    · exact ih.value_step h
    · exact ih.items_step h
    · exact ih.member_step h
    · exact ih.members_step h

/-- **The recursive descent** reads one pair of braces around a balanced text
    as an object, and nothing else. -/
theorem objectParser_scan : ObjectParser scan where
  brace cs v h := by
    unfold scan at h
    split at h
    case h_2 => cases h
    next w rest hread =>
    rw [Option.ite_none_right_eq_some] at h
    obtain rfl := Option.some.inj h.2
    -- there is fuel for the brace, and no other kind of value starts with it
    obtain ⟨fuel, hfuel⟩ : ∃ fuel, 2 * ('\x7b' :: cs).length = fuel + 1 :=
      ⟨2 * cs.length + 1, by rw [List.length_cons]; omega⟩
    rw [hfuel, readValue, skip_cons (by decide)] at hread
    simp only [(by decide : ¬ '\x7b' = 'n'), (by decide : ¬ '\x7b' = 't'),
      (by decide : ¬ '\x7b' = 'f'), (by decide : ¬ '\x7b' = '"'), (by decide : ¬ '\x7b' = '['),
      if_false, if_true] at hread
    split at hread
    · obtain ⟨rfl, -⟩ := Prod.mk.inj (Option.some.inj hread)
      rfl
    · simp only [Option.bind_eq_bind, Option.bind_eq_some_iff] at hread
      obtain ⟨_, _, _, _, h⟩ := hread
      obtain ⟨rfl, -⟩ := Prod.mk.inj (Option.some.inj h)
      rfl
  nested text v h hobject := by
    obtain ⟨ms, rfl⟩ : ∃ ms, v = .obj ms := by
      cases v with
      | obj ms => exact ⟨ms, rfl⟩
      | _ => cases hobject
    unfold scan at h
    split at h
    case h_2 => cases h
    next w rest hread =>
    rw [Option.ite_none_right_eq_some] at h
    obtain ⟨hempty, h⟩ := h
    obtain rfl := Option.some.inj h
    cases hfuel : 2 * text.length with
    | zero =>
      rw [hfuel, readValue] at hread
      cases hread
    | succ fuel =>
      rw [hfuel] at hread
      -- what is read has balanced braces, with white space around it
      obtain ⟨inner, hinner, hskip⟩ := braces_of_readValue (balances fuel) hread
      refine ⟨text.takeWhile isSpace, inner, rest, ?_, hinner, ?_⟩
      · intro c hc
        rcases List.mem_append.mp hc with hc | hc
        · exact List.mem_takeWhile_imp hc
        · exact List.dropWhile_eq_nil_iff.mp hempty c hc
      · rw [← hskip]
        exact (List.takeWhile_append_dropWhile).symm

end Json
