import Mathlib

/-! # Keyed merge with a first-wins rule

    A list of records is folded into a table that keeps, for each key, the
    first record seen.  A later record of the same key either agrees with
    the kept one (and is dropped) or *clashes* with it: then the kept record
    is *softened* and a note about the newcomer is written down.

    The results of this file say what such a fold computes, key by key:

    * the table at `k` only depends on the records of key `k`, in order
      (`absorbAll_getElem?`);
    * under the laws of `Lawful`, that value is the first record, softened
      exactly when some later record differs from it (`settle_cons`);
    * a note about `k` is written exactly when two records of key `k`
      differ (`mem_notes_absorbAll`).
-/

namespace KeyedMerge

open Std

variable {κ β ε : Type}

/-- The rule of a keyed merge: the key of a record, when a later record
    clashes with the kept one, what becomes of the kept one, and the note
    that is written. -/
structure Rule (κ β ε : Type) where
  key : β → κ
  clash : β → β → Bool
  soften : β → β
  note : κ → ε

/-- The laws a rule must obey for its merge to have a closed form: a clash
    is a difference, and softening keeps the key and is done at most once. -/
structure Rule.Lawful (R : Rule κ β ε) : Prop where
  clash_eq_false : ∀ a b, R.key a = R.key b → (R.clash a b = false ↔ a = b)
  key_soften : ∀ a, R.key (R.soften a) = R.key a
  soften_idem : ∀ a, R.soften (R.soften a) = R.soften a

/-- The accumulator: the kept records and the notes written so far. -/
structure Acc (κ β ε : Type) [Ord κ] where
  table : TreeMap κ β
  notes : List ε

section fold

variable [Ord κ]

/-- Fold one record into the accumulator. -/
def absorb (R : Rule κ β ε) (acc : Acc κ β ε) (b : β) : Acc κ β ε :=
  match acc.table[R.key b]? with
  | some a =>
      if R.clash a b then
        { table := acc.table.insert (R.key b) (R.soften a)
          notes := acc.notes ++ [R.note (R.key b)] }
      else acc
  | none => { acc with table := acc.table.insert (R.key b) b }

/-- Fold a list of records into the accumulator, from left to right. -/
def absorbAll (R : Rule κ β ε) (acc : Acc κ β ε) (bs : List β) : Acc κ β ε :=
  bs.foldl (absorb R) acc

@[simp] theorem absorbAll_nil (R : Rule κ β ε) (acc : Acc κ β ε) :
    absorbAll R acc [] = acc := rfl

@[simp] theorem absorbAll_cons (R : Rule κ β ε) (acc : Acc κ β ε) (b : β) (bs : List β) :
    absorbAll R acc (b :: bs) = absorbAll R (absorb R acc b) bs := rfl

theorem absorb_notes (R : Rule κ β ε) (acc : Acc κ β ε) (b : β) (n : ε) :
    n ∈ (absorb R acc b).notes ↔
      n ∈ acc.notes ∨
        (R.note (R.key b) = n ∧ ∃ a, acc.table[R.key b]? = some a ∧ R.clash a b = true) := by
  unfold absorb
  cases h : acc.table[R.key b]? with
  | none => simp
  | some a =>
    by_cases hc : R.clash a b = true
    · simp [hc, @eq_comm _ n]
    · simp [hc]

end fold

/-! ## The table, key by key -/

/-- The same step seen at one key: `none` before the first record of the key. -/
def settleOne (R : Rule κ β ε) : Option β → β → Option β
  | none, b => some b
  | some a, b => if R.clash a b then some (R.soften a) else some a

/-- The value at one key after the records `bs` of that key. -/
def settle (R : Rule κ β ε) (o : Option β) (bs : List β) : Option β :=
  bs.foldl (settleOne R) o

@[simp] theorem settle_nil (R : Rule κ β ε) (o : Option β) : settle R o [] = o := rfl

section lookup

variable [Ord κ] [TransOrd κ] [LawfulEqOrd κ]

theorem absorb_getElem?_self (R : Rule κ β ε) (acc : Acc κ β ε) (b : β) :
    (absorb R acc b).table[R.key b]? = settleOne R acc.table[R.key b]? b := by
  unfold absorb
  cases h : acc.table[R.key b]? with
  | none => simp [settleOne]
  | some a =>
    by_cases hc : R.clash a b = true
    · simp [settleOne, hc]
    · simp [settleOne, hc, h]

theorem absorb_getElem?_ne (R : Rule κ β ε) (acc : Acc κ β ε) (b : β) {k : κ}
    (hk : R.key b ≠ k) : (absorb R acc b).table[k]? = acc.table[k]? := by
  have hcmp : compare (R.key b) k ≠ .eq := fun h => hk (LawfulEqOrd.eq_of_compare h)
  unfold absorb
  cases acc.table[R.key b]? with
  | none => simp [TreeMap.getElem?_insert, hcmp]
  | some a =>
    by_cases hc : R.clash a b = true
    · simp [hc, TreeMap.getElem?_insert, hcmp]
    · simp [hc]

/-- **Key by key**: the table at `k` only sees the records of key `k`. -/
theorem absorbAll_getElem? [DecidableEq κ] (R : Rule κ β ε) (acc : Acc κ β ε) (bs : List β) (k : κ) :
    (absorbAll R acc bs).table[k]?
      = settle R acc.table[k]? (bs.filter (fun b => R.key b = k)) := by
  induction bs generalizing acc with
  | nil => rfl
  | cons b bs ih =>
    rw [absorbAll_cons, ih]
    by_cases hk : R.key b = k
    · subst hk
      simp [settle, absorb_getElem?_self]
    · simp [hk, absorb_getElem?_ne R acc b hk]

/-! ## The notes, key by key -/

/-- Some record of `bs` clashes with what is kept at its key when it
    arrives, starting from `o`. -/
def Noted (R : Rule κ β ε) : Option β → List β → Prop
  | _, [] => False
  | o, b :: bs => (∃ a, o = some a ∧ R.clash a b = true) ∨ Noted R (settleOne R o b) bs

/-- **Key by key**: a note is written for `k` exactly when a clash happens
    among the records of key `k`. -/
theorem mem_notes_absorbAll [DecidableEq κ] (R : Rule κ β ε) (acc : Acc κ β ε)
    (bs : List β) (n : ε) :
    n ∈ (absorbAll R acc bs).notes ↔
      n ∈ acc.notes ∨
        ∃ k, R.note k = n ∧ Noted R acc.table[k]? (bs.filter (fun b => R.key b = k)) := by
  induction bs generalizing acc with
  | nil => simp [Noted]
  | cons b bs ih =>
    rw [absorbAll_cons, ih, absorb_notes, or_assoc]
    refine or_congr Iff.rfl ⟨?_, ?_⟩
    · rintro (⟨hn, hclash⟩ | ⟨k, hn, hk⟩)
      · -- the clash is at `b` itself
        refine ⟨R.key b, hn, ?_⟩
        rw [List.filter_cons_of_pos (by simp)]
        exact Or.inl hclash
      · refine ⟨k, hn, ?_⟩
        by_cases hb : R.key b = k
        · subst hb
          rw [List.filter_cons_of_pos (by simp)]
          rw [absorb_getElem?_self] at hk
          exact Or.inr hk
        · rw [List.filter_cons_of_neg (by simpa using hb)]
          rwa [absorb_getElem?_ne R acc b hb] at hk
    · rintro ⟨k, hn, hk⟩
      by_cases hb : R.key b = k
      · subst hb
        rw [List.filter_cons_of_pos (by simp)] at hk
        rcases hk with hclash | hlater
        · exact Or.inl ⟨hn, hclash⟩
        · exact Or.inr ⟨R.key b, hn, by rwa [absorb_getElem?_self]⟩
      · rw [List.filter_cons_of_neg (by simpa using hb)] at hk
        exact Or.inr ⟨k, hn, by rwa [absorb_getElem?_ne R acc b hb]⟩

end lookup

/-- From a kept record, a note is written iff a later record clashes with it:
    until the first clash the kept record does not change. -/
theorem noted_some (R : Rule κ β ε) (a : β) (bs : List β) :
    Noted R (some a) bs ↔ ∃ b ∈ bs, R.clash a b = true := by
  induction bs with
  | nil => simp [Noted]
  | cons b bs ih =>
    by_cases hc : R.clash a b = true
    · simp [Noted, hc]
    · simp [Noted, settleOne, hc, ih]

theorem noted_none_cons (R : Rule κ β ε) (a : β) (bs : List β) :
    Noted R none (a :: bs) ↔ ∃ b ∈ bs, R.clash a b = true := by
  rw [← noted_some R a bs]
  simp [Noted, settleOne]

/-! ## Closed form under the laws -/

section lawful

variable {R : Rule κ β ε} (hR : R.Lawful)

include hR

/-- A softened record stays as it is, whatever comes after. -/
theorem settle_softened (a : β) (bs : List β) :
    settle R (some (R.soften a)) bs = some (R.soften a) := by
  induction bs with
  | nil => rfl
  | cons b bs ih =>
    have hstep : settleOne R (some (R.soften a)) b = some (R.soften a) := by
      simp [settleOne, hR.soften_idem]
    simpa [settle, hstep] using ih

/-- **Closed form**: the first record wins, and it is softened exactly when
    some later record of the key differs from it. -/
theorem settle_cons [DecidableEq β] (a : β) (bs : List β)
    (hkey : ∀ b ∈ bs, R.key b = R.key a) :
    settle R none (a :: bs)
      = some (if ∀ b ∈ bs, b = a then a else R.soften a) := by
  show settle R (some a) bs = _
  induction bs with
  | nil => simp
  | cons b bs ih =>
    have hb : R.key a = R.key b := (hkey b (List.mem_cons_self ..)).symm
    have ih' := ih (fun c hc => hkey c (List.mem_cons_of_mem _ hc))
    by_cases hab : a = b
    · -- the newcomer equals the kept record, so it is dropped
      have hc : R.clash a b = false := (hR.clash_eq_false a b hb).mpr hab
      have hstep : settle R (some a) (b :: bs) = settle R (some a) bs := by
        simp [settle, settleOne, hc]
      rw [hstep, ih']
      simp [hab]
    · have hc : R.clash a b = true := by
        cases h : R.clash a b with
        | true => rfl
        | false => exact absurd ((hR.clash_eq_false a b hb).mp h) hab
      have hstep : settle R (some a) (b :: bs) = settle R (some (R.soften a)) bs := by
        simp [settle, settleOne, hc]
      rw [hstep, settle_softened hR]
      have hne : ¬ ∀ c ∈ b :: bs, c = a := fun h => hab (h b (List.mem_cons_self ..)).symm
      rw [if_neg hne]

theorem clash_eq_true {a b : β} (hkey : R.key a = R.key b) :
    R.clash a b = true ↔ a ≠ b := by
  rw [Ne, ← hR.clash_eq_false a b hkey, Bool.not_eq_false]

/-- Starting from nothing, a note is written iff two records differ. -/
theorem noted_none_iff {bs : List β} {k : κ} (hkey : ∀ b ∈ bs, R.key b = k) :
    Noted R none bs ↔ ∃ b ∈ bs, ∃ c ∈ bs, b ≠ c := by
  cases bs with
  | nil => simp [Noted]
  | cons a bs =>
    have ha : R.key a = k := hkey a (List.mem_cons_self ..)
    have hbs : ∀ b ∈ bs, R.key a = R.key b := fun b hb =>
      ha.trans (hkey b (List.mem_cons_of_mem _ hb)).symm
    rw [noted_none_cons]
    constructor
    · rintro ⟨b, hb, hc⟩
      exact ⟨a, List.mem_cons_self .., b, List.mem_cons_of_mem _ hb,
        (clash_eq_true hR (hbs b hb)).mp hc⟩
    · rintro ⟨b, hb, c, hc, hne⟩
      by_contra hall
      -- no clash with the first record makes every record equal to it
      have heq : ∀ d ∈ a :: bs, d = a := by
        intro d hd
        rcases List.mem_cons.mp hd with rfl | hd
        · rfl
        · by_contra hda
          exact hall ⟨d, hd, (clash_eq_true hR (hbs d hd)).mpr fun h => hda h.symm⟩
      exact hne ((heq b hb).trans (heq c hc).symm)

end lawful

/-! ## Filling in what is missing -/

section fill

variable [Ord κ]

/-- Add one entry under a key that is still missing, softened and noted; an
    entry whose key is there is skipped. -/
def fillOne (R : Rule κ β ε) (acc : Acc κ β ε) (e : κ × β) : Acc κ β ε :=
  if acc.table.contains e.1 then acc
  else
    { table := acc.table.insert e.1 (R.soften e.2)
      notes := acc.notes ++ [R.note e.1] }

/-- Add the entries `es`, from left to right. -/
def fill (R : Rule κ β ε) (acc : Acc κ β ε) (es : List (κ × β)) : Acc κ β ε :=
  es.foldl (fillOne R) acc

variable [TransOrd κ] [LawfulEqOrd κ]

theorem fillOne_getElem? [DecidableEq κ] (R : Rule κ β ε) (acc : Acc κ β ε) (e : κ × β) (k : κ) :
    (fillOne R acc e).table[k]?
      = acc.table[k]?.or (if e.1 = k then some (R.soften e.2) else none) := by
  unfold fillOne
  by_cases hk : e.1 = k
  · subst hk
    cases h : acc.table[e.1]? with
    | none => simp [TreeMap.contains_eq_isSome_getElem?, h]
    | some b => simp [TreeMap.contains_eq_isSome_getElem?, h]
  · have hcmp : compare e.1 k ≠ .eq := fun h => hk (LawfulEqOrd.eq_of_compare h)
    rw [if_neg hk, Option.or_none]
    split
    · rfl
    · simp [TreeMap.getElem?_insert, hcmp]

/-- **Filled in**: what was there stays, and a missing key gets its first entry. -/
theorem fill_getElem? [DecidableEq κ] (R : Rule κ β ε) (acc : Acc κ β ε)
    (es : List (κ × β)) (k : κ) :
    (fill R acc es).table[k]?
      = acc.table[k]?.or ((es.find? (fun e => e.1 = k)).map fun e => R.soften e.2) := by
  induction es generalizing acc with
  | nil => simp [fill]
  | cons e es ih =>
    show (fill R (fillOne R acc e) es).table[k]? = _
    rw [ih, fillOne_getElem?, Option.or_assoc]
    by_cases hk : e.1 = k
    · simp [hk]
    · simp [hk]

theorem mem_notes_fill [DecidableEq κ] (R : Rule κ β ε) (acc : Acc κ β ε)
    (es : List (κ × β)) (n : ε) :
    n ∈ (fill R acc es).notes ↔
      n ∈ acc.notes ∨ ∃ e ∈ es, R.note e.1 = n ∧ acc.table[e.1]? = none := by
  induction es generalizing acc with
  | nil => simp [fill]
  | cons e es ih =>
    show n ∈ (fill R (fillOne R acc e) es).notes ↔ _
    rw [ih]
    cases h : acc.table[e.1]? with
    | some b =>
      have hone : fillOne R acc e = acc := by
        simp [fillOne, TreeMap.contains_eq_isSome_getElem?, h]
      have hne : ¬ (R.note e.1 = n ∧ acc.table[e.1]? = none) := by
        rw [h]
        simp
      rw [hone, List.exists_mem_cons_iff, or_iff_right hne]
    | none =>
      have hnotes : (fillOne R acc e).notes = acc.notes ++ [R.note e.1] := by
        simp [fillOne, TreeMap.contains_eq_isSome_getElem?, h]
      simp only [hnotes, List.mem_append, List.mem_singleton, fillOne_getElem?]
      constructor
      · rintro ((hn | hn) | ⟨e', he', hn, hnone⟩)
        · exact Or.inl hn
        · exact Or.inr ⟨e, List.mem_cons_self .., hn.symm, h⟩
        · rw [Option.or_eq_none_iff] at hnone
          exact Or.inr ⟨e', List.mem_cons_of_mem _ he', hn, hnone.1⟩
      · rintro (hn | ⟨e', he', hn, hnone⟩)
        · exact Or.inl (Or.inl hn)
        · by_cases hk : e.1 = e'.1
          · -- an entry of the same key was noted already
            exact Or.inl (Or.inr (by rw [hk, hn]))
          · have he'' : e' ∈ es := by
              rcases List.mem_cons.mp he' with rfl | he''
              · exact absurd rfl hk
              · exact he''
            exact Or.inr ⟨e', he'', hn, by simp [hnone, hk]⟩

/-- The entries of a table, looked up by key. -/
theorem find?_toList [DecidableEq κ] (t : TreeMap κ β) (k : κ) :
    (t.toList.find? (fun e => e.1 = k)).map Prod.snd = t[k]? := by
  cases h : t[k]? with
  | none =>
    rw [Option.map_eq_none_iff, List.find?_eq_none]
    rintro ⟨k', b⟩ hmem hk
    rw [TreeMap.mem_toList_iff_getElem?_eq_some] at hmem
    simp only [decide_eq_true_eq] at hk
    simp [hk, h] at hmem
  | some b =>
    have hmem : (k, b) ∈ t.toList := TreeMap.mem_toList_iff_getElem?_eq_some.mpr h
    cases hfind : t.toList.find? (fun e => e.1 = k) with
    | none =>
      rw [List.find?_eq_none] at hfind
      exact absurd (by simp) (hfind (k, b) hmem)
    | some e =>
      have hk : e.1 = k := by simpa using List.find?_some hfind
      have he : t[e.1]? = some e.2 :=
        TreeMap.mem_toList_iff_getElem?_eq_some.mp (List.mem_of_find?_eq_some hfind)
      rw [hk, h] at he
      exact he.symm

end fill

/-! ## Listing a table -/

section listing

variable [Ord κ] [TransOrd κ] [LawfulEqOrd κ] {key : β → κ} {t t' : TreeMap κ β}

/-- The values of a table in key order. -/
def listing (t : TreeMap κ β) : List β :=
  t.toList.map Prod.snd

/-- Every record of the table stands under its own key. -/
def Keyed (key : β → κ) (t : TreeMap κ β) : Prop :=
  ∀ k b, t[k]? = some b → key b = k

theorem mem_listing (h : Keyed key t) (b : β) : b ∈ listing t ↔ t[key b]? = some b := by
  simp only [listing, List.mem_map, Prod.exists, TreeMap.mem_toList_iff_getElem?_eq_some]
  constructor
  · rintro ⟨k, b', hk, rfl⟩
    rwa [h k b' hk]
  · intro hb
    exact ⟨key b, b, hb, rfl⟩

theorem listing_keys_nodup (h : Keyed key t) : ((listing t).map key).Nodup := by
  have hkeys : (listing t).map key = t.keys := by
    rw [← TreeMap.map_fst_toList_eq_keys, listing, List.map_map]
    apply List.map_congr_left
    rintro ⟨k, b⟩ hmem
    exact h k b (TreeMap.mem_toList_iff_getElem?_eq_some.mp hmem)
  rw [hkeys]
  exact TreeMap.nodup_keys

end listing

end KeyedMerge
