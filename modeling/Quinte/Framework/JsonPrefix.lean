import Mathlib
import Quinte.Framework.JsonText

/-! # Texts that break off

    What has been read of a text is read in the same way when the text goes on,
    unless it is a number at the end of it.

    * `read_extend`: reading, where the text goes on;
    * `scan_broken`: the text of an object that breaks off is no text.
-/

namespace Json

/-- A number may go on where it stands at the end of a text. -/
def complete : Json → Bool
  | .int _ => false
  | _ => true

/-! ### Spaces, words, strings and numbers -/

theorem skip_extend {text rest : Text} {c : Char} (h : skip text = c :: rest) (u : Text) :
    skip (text ++ u) = c :: (rest ++ u) := by
  induction text with
  | nil => cases h
  | cons d ds ih =>
    rw [skip, List.dropWhile_cons] at h
    rw [List.cons_append, skip, List.dropWhile_cons]
    by_cases hd : isSpace d = true
    · rw [if_pos hd] at h ⊢
      exact ih h
    · rw [if_neg hd] at h ⊢
      cases h
      rfl

theorem readWord_extend {word text rest : Text} {v w : Json}
    (h : readWord word v text = some (w, rest)) (u : Text) :
    readWord word v (text ++ u) = some (w, rest ++ u) := by
  unfold readWord at h ⊢
  by_cases hword : text.take word.length = word
  · have hlength : word.length ≤ text.length := by
      have hmin := congrArg List.length hword
      rw [List.length_take] at hmin
      omega
    rw [if_pos hword] at h
    obtain ⟨rfl, rfl⟩ := Prod.mk.inj (Option.some.inj h)
    rw [List.take_append_of_le_length hlength, List.drop_append_of_le_length hlength, if_pos hword]
  · rw [if_neg hword] at h
    cases h

/-- An escape that is not one by a code. -/
theorem readChars_unescape {e : Char} {text : Text}
    (h : ∀ c₁ c₂ c₃ c₄ rest, e = 'u' → text = c₁ :: c₂ :: c₃ :: c₄ :: rest → False) :
    readChars ('\\' :: e :: text) = (unescape e).bind fun c =>
      (readChars text).bind fun r => some (c :: r.1, r.2) := by
  rw [readChars.eq_def]
  simp only [Char.reduceEq, if_false, if_true]
  rfl

theorem readChars_extend {text cs rest : Text} (h : readChars text = some (cs, rest)) (u : Text) :
    readChars (text ++ u) = some (cs, rest ++ u) := by
  induction text using readChars.induct generalizing cs rest with
  | case1 => cases h
  | case2 after =>
    rw [readChars.eq_def] at h
    obtain ⟨rfl, rfl⟩ := Prod.mk.inj (Option.some.inj h)
    rw [List.cons_append, readChars.eq_def]
    rfl
  | case3 c₁ c₂ c₃ c₄ after _ ih =>
    simp only [readChars, Option.bind_eq_bind] at h
    obtain ⟨n₁, hn₁, h⟩ := Option.bind_eq_some_iff.mp h
    obtain ⟨n₂, hn₂, h⟩ := Option.bind_eq_some_iff.mp h
    obtain ⟨n₃, hn₃, h⟩ := Option.bind_eq_some_iff.mp h
    obtain ⟨n₄, hn₄, h⟩ := Option.bind_eq_some_iff.mp h
    obtain ⟨⟨ds, left⟩, hread, h⟩ := Option.bind_eq_some_iff.mp h
    simp only [List.cons_append, readChars, Option.bind_eq_bind, hn₁, hn₂, hn₃, hn₄,
      Option.bind_some, ih hread]
    split at h
    case isFalse => cases h
    case isTrue hvalid =>
      rw [if_pos hvalid]
      cases h
      rfl
  | case4 e after hother _ ih =>
    rw [readChars_unescape hother] at h
    obtain ⟨c, hc, h⟩ := Option.bind_eq_some_iff.mp h
    obtain ⟨⟨ds, left⟩, hread, h⟩ := Option.bind_eq_some_iff.mp h
    obtain ⟨rfl, rfl⟩ := Prod.mk.inj (Option.some.inj h)
    have hplain : ∀ c₁ c₂ c₃ c₄ tail, e = 'u' →
        after ++ u = c₁ :: c₂ :: c₃ :: c₄ :: tail → False := by
      rintro _ _ _ _ _ rfl
      cases hc
    rw [List.cons_append, List.cons_append, readChars_unescape hplain, hc, Option.bind_some,
      ih hread]
    rfl
  | case5 => cases h
  | case6 c after hquote hslash hlow =>
    rw [readChars.eq_def] at h
    simp only [if_neg hquote, if_neg hslash, if_pos hlow] at h
    cases h
  | case7 c after hquote hslash hlow ih =>
    rw [readChars.eq_def] at h
    simp only [if_neg hquote, if_neg hslash, if_neg hlow, Option.bind_eq_bind,
      Option.bind_eq_some_iff] at h
    obtain ⟨⟨ds, left⟩, hread, hlast⟩ := h
    obtain ⟨rfl, rfl⟩ := Prod.mk.inj (Option.some.inj hlast)
    rw [List.cons_append, readChars.eq_def]
    simp only [if_neg hquote, if_neg hslash, if_neg hlow, ih hread, Option.bind_eq_bind,
      Option.bind_some]

/-- Digits, where something comes after them. -/
theorem readDigits_extend {negative : Bool} {text rest : Text} {v : Json}
    (h : readDigits negative text = some (v, rest)) (hrest : rest ≠ []) (u : Text) :
    readDigits negative (text ++ u) = some (v, rest ++ u) := by
  dsimp only [readDigits] at h
  by_cases hbad : text.takeWhile Char.isDigit = [] ∨ (text.dropWhile Char.isDigit).head? = some '.'
      ∨ (text.dropWhile Char.isDigit).head? = some 'e'
      ∨ (text.dropWhile Char.isDigit).head? = some 'E'
  · rw [if_pos hbad] at h
    cases h
  · rw [if_neg hbad] at h
    obtain ⟨rfl, rfl⟩ := Prod.mk.inj (Option.some.inj h)
    have hafter : (text ++ u).dropWhile Char.isDigit = text.dropWhile Char.isDigit ++ u := by
      rw [List.dropWhile_append, if_neg (by simpa using hrest)]
    have hdigits : (text ++ u).takeWhile Char.isDigit = text.takeWhile Char.isDigit := by
      rw [List.takeWhile_append, if_neg]
      intro hall
      have hsplit := congrArg List.length
        (List.takeWhile_append_dropWhile (p := Char.isDigit) (l := text))
      rw [List.length_append] at hsplit
      exact hrest (List.eq_nil_of_length_eq_zero (by omega))
    dsimp only [readDigits]
    rw [hafter, hdigits, List.head?_append_of_ne_nil _ hrest, if_neg hbad]

theorem readDigits_int {negative : Bool} {text rest : Text} {v : Json}
    (h : readDigits negative text = some (v, rest)) : complete v = false := by
  dsimp only [readDigits] at h
  split at h
  · cases h
  · obtain ⟨rfl, -⟩ := Prod.mk.inj (Option.some.inj h)
    rfl

theorem readInt_int {text rest : Text} {v : Json} (h : readInt text = some (v, rest)) :
    complete v = false := by
  unfold readInt at h
  split at h
  · exact readDigits_int h
  · exact readDigits_int h

theorem readInt_extend {text rest : Text} {v : Json} (h : readInt text = some (v, rest))
    (hrest : rest ≠ []) (u : Text) : readInt (text ++ u) = some (v, rest ++ u) := by
  cases text with
  | nil => cases h
  | cons c cs =>
    unfold readInt at h
    rw [readInt, List.cons_append]
    by_cases hminus : c = '-'
    · have hhead : ∀ ds : Text, (c :: ds).head? = some '-' := fun _ => congrArg some hminus
      rw [if_pos (hhead _)] at h ⊢
      exact readDigits_extend h hrest u
    · have hhead : ∀ ds : Text, (c :: ds).head? ≠ some '-' :=
        fun _ heq => hminus (Option.some.inj heq)
      rw [if_neg (hhead _)] at h ⊢
      exact readDigits_extend h hrest u

/-! ### Values -/

/-- What is read is read with more fuel too, and where the text goes on, unless it
    is at the end of the text and may go on itself. -/
def Extends {α : Type} (closed : α → Bool) (read : Nat → Text → Option (α × Text))
    (fuel : Nat) : Prop :=
  ∀ fuel' text a rest u, fuel ≤ fuel' → read fuel text = some (a, rest) →
    rest ≠ [] ∨ closed a = true → read fuel' (text ++ u) = some (a, rest ++ u)

/-- With this fuel, the readers go on. -/
structure ReadsOn (fuel : Nat) : Prop where
  value : Extends complete readValue fuel
  items : Extends (fun _ => true) readItems fuel
  member : Extends (fun m => complete m.2) readMember fuel
  members : Extends (fun _ => true) readMembers fuel

theorem readValue_blank {fuel : Nat} {text : Text} (h : skip text = []) :
    readValue fuel text = none := by
  cases fuel with
  | zero => rfl
  | succ fuel => rw [readValue, h]

theorem readMember_blank {fuel : Nat} {text : Text} (h : skip text = []) :
    readMember fuel text = none := by
  cases fuel with
  | zero => rfl
  | succ fuel => rw [readMember, h]

theorem readItems_nil (fuel : Nat) : readItems fuel [] = none := by
  cases fuel <;> rfl

theorem readMembers_nil (fuel : Nat) : readMembers fuel [] = none := by
  cases fuel <;> rfl

section step

variable {fuel : Nat}

/-- A first element and those after it, of which the end has been read. -/
theorem sequence_extend {α β γ : Type} {closed : α → Bool}
    {first : Nat → Text → Option (α × Text)} {others : Nat → Text → Option (β × Text)}
    (make : α → β → γ) (hfirst : Extends closed first fuel)
    (hothers : Extends (fun _ => true) others fuel) (hnil : others fuel [] = none) {k : Nat}
    (hk : fuel ≤ k) {text rest : Text} {c : γ} (u : Text)
    (h : ((first fuel text).bind fun r => (others fuel r.2).bind fun s =>
      some (make r.1 s.1, s.2)) = some (c, rest)) :
    ((first k (text ++ u)).bind fun r => (others k r.2).bind fun s =>
      some (make r.1 s.1, s.2)) = some (c, rest ++ u) := by
  obtain ⟨⟨a, left⟩, ha, h⟩ := Option.bind_eq_some_iff.mp h
  obtain ⟨⟨b, left'⟩, hb, h⟩ := Option.bind_eq_some_iff.mp h
  obtain ⟨rfl, rfl⟩ := Prod.mk.inj (Option.some.inj h)
  -- the first element is not at the end of the text
  have hmore : left ≠ [] := by
    intro hend
    rw [hend] at hb
    rw [hnil] at hb
    cases hb
  rw [hfirst k text a left u hk ha (Or.inl hmore), Option.bind_some,
    hothers k left b left' u hk hb (Or.inr rfl), Option.bind_some]

theorem readItems_extend (ih : ReadsOn fuel) :
    Extends (fun _ => true) readItems (fuel + 1) := by
  intro fuel' text vs rest u hle h _
  obtain ⟨k, rfl⟩ : ∃ k, fuel' = k + 1 := ⟨fuel' - 1, by omega⟩
  have hk : fuel ≤ k := by omega
  cases hskip : skip text with
  | nil =>
    rw [readItems, hskip] at h
    cases h
  | cons c after =>
    rw [readItems, hskip] at h
    rw [readItems, skip_extend hskip u]
    dsimp only at h ⊢
    by_cases hclose : c = ']'
    · rw [if_pos hclose] at h ⊢
      obtain ⟨rfl, rfl⟩ := Prod.mk.inj (Option.some.inj h)
      rfl
    rw [if_neg hclose] at h ⊢
    by_cases hcomma : c = ','
    · rw [if_pos hcomma] at h ⊢
      exact sequence_extend List.cons ih.value ih.items (readItems_nil fuel) hk u h
    · rw [if_neg hcomma] at h
      cases h

theorem readMembers_extend (ih : ReadsOn fuel) :
    Extends (fun _ => true) readMembers (fuel + 1) := by
  intro fuel' text ms rest u hle h _
  obtain ⟨k, rfl⟩ : ∃ k, fuel' = k + 1 := ⟨fuel' - 1, by omega⟩
  have hk : fuel ≤ k := by omega
  cases hskip : skip text with
  | nil =>
    rw [readMembers, hskip] at h
    cases h
  | cons c after =>
    rw [readMembers, hskip] at h
    rw [readMembers, skip_extend hskip u]
    dsimp only at h ⊢
    by_cases hclose : c = '}'
    · rw [if_pos hclose] at h ⊢
      obtain ⟨rfl, rfl⟩ := Prod.mk.inj (Option.some.inj h)
      rfl
    rw [if_neg hclose] at h ⊢
    by_cases hcomma : c = ','
    · rw [if_pos hcomma] at h ⊢
      exact sequence_extend List.cons ih.member ih.members (readMembers_nil fuel) hk u h
    · rw [if_neg hcomma] at h
      cases h

theorem readMember_extend (ih : ReadsOn fuel) :
    Extends (fun m => complete m.2) readMember (fuel + 1) := by
  intro fuel' text m rest u hle h hclosed
  obtain ⟨k, rfl⟩ : ∃ k, fuel' = k + 1 := ⟨fuel' - 1, by omega⟩
  have hk : fuel ≤ k := by omega
  cases hskip : skip text with
  | nil =>
    rw [readMember, hskip] at h
    cases h
  | cons c after =>
    rw [readMember, hskip] at h
    rw [readMember, skip_extend hskip u]
    dsimp only at h ⊢
    by_cases hquote : c = '"'
    · rw [if_pos hquote] at h ⊢
      obtain ⟨⟨cs, left⟩, hcs, h⟩ := Option.bind_eq_some_iff.mp h
      rw [readChars_extend hcs u, Option.bind_eq_bind, Option.bind_some]
      dsimp only at h ⊢
      by_cases hcolon : (skip left).head? = some ':'
      · rw [if_pos hcolon] at h
        obtain ⟨ds, hds⟩ := List.head?_eq_some_iff.mp hcolon
        rw [hds] at h
        have hstill : (skip (left ++ u)).head? = some ':' := by
          rw [skip_extend hds u, List.head?_cons]
        rw [if_pos hstill, skip_extend hds u]
        obtain ⟨⟨v, left'⟩, hv, h⟩ := Option.bind_eq_some_iff.mp h
        obtain ⟨rfl, rfl⟩ := Prod.mk.inj (Option.some.inj h)
        have hvalue := ih.value k ds v left' u hk hv hclosed
        rw [List.tail_cons, hvalue]
        rfl
      · rw [if_neg hcolon] at h
        cases h
    · rw [if_neg hquote] at h
      cases h

theorem readValue_extend (ih : ReadsOn fuel) : Extends complete readValue (fuel + 1) := by
  intro fuel' text v rest u hle h hclosed
  obtain ⟨k, rfl⟩ : ∃ k, fuel' = k + 1 := ⟨fuel' - 1, by omega⟩
  have hk : fuel ≤ k := by omega
  cases hskip : skip text with
  | nil =>
    rw [readValue, hskip] at h
    cases h
  | cons c after =>
    rw [readValue, hskip] at h
    rw [readValue, skip_extend hskip u]
    dsimp only at h ⊢
    by_cases hnull : c = 'n'
    · rw [if_pos hnull] at h ⊢
      exact readWord_extend h u
    rw [if_neg hnull] at h ⊢
    by_cases htrue : c = 't'
    · rw [if_pos htrue] at h ⊢
      exact readWord_extend h u
    rw [if_neg htrue] at h ⊢
    by_cases hfalse : c = 'f'
    · rw [if_pos hfalse] at h ⊢
      exact readWord_extend h u
    rw [if_neg hfalse] at h ⊢
    by_cases hquote : c = '"'
    · rw [if_pos hquote] at h ⊢
      obtain ⟨⟨cs, left⟩, hcs, h⟩ := Option.map_eq_some_iff.mp h
      obtain ⟨rfl, rfl⟩ := Prod.mk.inj h
      rw [readChars_extend hcs u]
      rfl
    rw [if_neg hquote] at h ⊢
    by_cases harr : c = '['
    · rw [if_pos harr] at h ⊢
      cases hopen : skip after with
      | nil =>
        rw [hopen, if_neg (by simp), readValue_blank hopen] at h
        cases h
      | cons d ds =>
        rw [hopen] at h
        rw [skip_extend hopen u]
        rw [List.head?_cons, List.tail_cons] at h ⊢
        by_cases hempty : some d = some ']'
        · rw [if_pos hempty] at h ⊢
          obtain ⟨rfl, rfl⟩ := Prod.mk.inj (Option.some.inj h)
          rfl
        rw [if_neg hempty] at h ⊢
        exact sequence_extend (fun v vs => Json.arr (v :: vs)) ih.value ih.items
          (readItems_nil fuel) hk u h
    rw [if_neg harr] at h ⊢
    by_cases hobj : c = '{'
    · rw [if_pos hobj] at h ⊢
      cases hopen : skip after with
      | nil =>
        rw [hopen, if_neg (by simp), readMember_blank hopen] at h
        cases h
      | cons d ds =>
        rw [hopen] at h
        rw [skip_extend hopen u]
        rw [List.head?_cons, List.tail_cons] at h ⊢
        by_cases hempty : some d = some '}'
        · rw [if_pos hempty] at h ⊢
          obtain ⟨rfl, rfl⟩ := Prod.mk.inj (Option.some.inj h)
          rfl
        rw [if_neg hempty] at h ⊢
        exact sequence_extend (fun m ms => Json.obj (m :: ms)) ih.member ih.members
          (readMembers_nil fuel) hk u h
    -- what is left is a number
    rw [if_neg hobj] at h ⊢
    have hmore : rest ≠ [] := by
      rcases hclosed with hmore | hcomplete
      · exact hmore
      · rw [readInt_int h] at hcomplete
        cases hcomplete
    exact readInt_extend h hmore u

end step

/-- **Reading, where the text goes on**: induction on the fuel. -/
theorem read_extend (fuel : Nat) : ReadsOn fuel := by
  induction fuel with
  | zero =>
    refine ⟨?_, ?_, ?_, ?_⟩ <;> intro fuel' text a rest u hle h
    · rw [readValue] at h
      cases h
    · rw [readItems] at h
      cases h
    · rw [readMember] at h
      cases h
    · rw [readMembers] at h
      cases h
  | succ fuel ih =>
    exact ⟨readValue_extend ih, readItems_extend ih, readMember_extend ih, readMembers_extend ih⟩

/-! ### Texts of objects -/

theorem readValue_open {fuel : Nat} {text rest : Text} {v : Json}
    (h : readValue fuel ('{' :: text) = some (v, rest)) : complete v = true := by
  cases fuel with
  | zero =>
    rw [readValue] at h
    cases h
  | succ fuel =>
    rw [readValue, skip_cons rfl] at h
    simp only [Char.reduceEq, if_false, if_true] at h
    split at h
    · obtain ⟨rfl, -⟩ := Prod.mk.inj (Option.some.inj h)
      rfl
    · obtain ⟨m, -, h⟩ := Option.bind_eq_some_iff.mp h
      obtain ⟨ms, -, h⟩ := Option.bind_eq_some_iff.mp h
      obtain ⟨rfl, -⟩ := Prod.mk.inj (Option.some.inj h)
      rfl

theorem write_open (S : Style) (members : List (String × Json)) :
    ∃ body, write S 0 (.obj members) = '{' :: body := by
  cases members with
  | nil => exact ⟨_, rfl⟩
  | cons m ms => exact ⟨_, rfl⟩

/-- **An object that breaks off** is refused. -/
theorem scan_broken {S : Style} {members : List (String × Json)} {n : Nat}
    (h : Regular n (.obj members)) {text : Text} (hpart : text <+: write S 0 (.obj members))
    (hne : text ≠ write S 0 (.obj members)) : scan text = none := by
  obtain ⟨u, hu⟩ := hpart
  rw [scan]
  cases hread : readValue (2 * text.length) text with
  | none => rfl
  | some r =>
    exfalso
    obtain ⟨v, rest⟩ := r
    have hcomplete : complete v = true := by
      obtain ⟨body, hbody⟩ := write_open S members
      cases text with
      | nil =>
        rw [readValue_blank rfl] at hread
        cases hread
      | cons c cs =>
        rw [hbody] at hu
        obtain ⟨rfl, -⟩ := List.cons.inj hu
        exact readValue_open hread
    -- then the whole text is read up to the same place
    have hlength : text.length ≤ (write S 0 (.obj members)).length := by
      rw [← hu, List.length_append]
      omega
    have hlonger := (read_extend _).value (2 * (write S 0 (.obj members)).length) text v rest u
      (by omega) hread (Or.inr hcomplete)
    have hwhole := readsBack (S := S) h (2 * (write S 0 (.obj members)).length) 0 []
      (size_le S h 0) (fun _ hc => by cases hc)
    rw [hu] at hlonger
    rw [List.append_nil, hlonger] at hwhole
    obtain ⟨-, hend⟩ := Prod.mk.inj (Option.some.inj hwhole)
    obtain ⟨-, rfl⟩ := List.append_eq_nil_iff.mp hend
    exact hne ((List.append_nil text).symm.trans hu)

end Json
