import Mathlib

/-! # Edit distance

    The least number of insertions, deletions and substitutions of single
    elements that lead from one list to another.

    * `isLeast_editDistance`: the recursion computes that number;
    * `editDistance_reverse`: it does not matter from which end the lists are
      compared;
    * `editDistance_concat`: the recursion from the other end, as a table of
      prefixes is filled.
-/

namespace EditDistance

variable {α : Type} {xs ys : List α} {n : Nat}

/-- `n` insertions, deletions and substitutions lead from one list to the other. -/
inductive Edits : Nat → List α → List α → Prop where
  | nil : Edits 0 [] []
  | keep (x : α) {n : Nat} {xs ys : List α} : Edits n xs ys → Edits n (x :: xs) (x :: ys)
  | substitute (x y : α) {n : Nat} {xs ys : List α} :
      Edits n xs ys → Edits (n + 1) (x :: xs) (y :: ys)
  | delete (x : α) {n : Nat} {xs ys : List α} : Edits n xs ys → Edits (n + 1) (x :: xs) ys
  | insert (y : α) {n : Nat} {xs ys : List α} : Edits n xs ys → Edits (n + 1) xs (y :: ys)

/-! ### Scripts from either end -/

/-- A script, and then one for what comes after. -/
theorem Edits.append {m : Nat} {us vs : List α} (h : Edits n xs ys) (h' : Edits m us vs) :
    Edits (n + m) (xs ++ us) (ys ++ vs) := by
  induction h with
  | nil => simpa using h'
  | keep x _ ih => exact ih.keep x
  | substitute x y _ ih =>
    rw [Nat.add_right_comm]
    exact ih.substitute x y
  | delete x _ ih =>
    rw [Nat.add_right_comm]
    exact ih.delete x
  | insert y _ ih =>
    rw [Nat.add_right_comm]
    exact ih.insert y

theorem Edits.reverse (h : Edits n xs ys) : Edits n xs.reverse ys.reverse := by
  induction h with
  | nil => exact Edits.nil
  | keep x _ ih =>
    rw [List.reverse_cons, List.reverse_cons]
    exact ih.append (Edits.nil.keep x)
  | substitute x y _ ih =>
    rw [List.reverse_cons, List.reverse_cons]
    exact ih.append (Edits.nil.substitute x y)
  | delete x _ ih =>
    rw [List.reverse_cons]
    simpa using ih.append (Edits.nil.delete x)
  | insert y _ ih =>
    rw [List.reverse_cons]
    simpa using ih.append (Edits.nil.insert y)

theorem edits_nil_left (ys : List α) : Edits ys.length [] ys := by
  induction ys with
  | nil => exact Edits.nil
  | cons y ys ih => exact ih.insert y

theorem edits_nil_right (xs : List α) : Edits xs.length xs [] := by
  induction xs with
  | nil => exact Edits.nil
  | cons x xs ih => exact ih.delete x

/-! ### The distance -/

variable [DecidableEq α]

/-- The distance, by recursion on both lists. -/
def editDistance : List α → List α → Nat
  | [], ys => ys.length
  | x :: xs, [] => (x :: xs).length
  | x :: xs, y :: ys =>
      min (min (editDistance xs ys + if x = y then 0 else 1) (editDistance xs (y :: ys) + 1))
        (editDistance (x :: xs) ys + 1)
termination_by xs ys => xs.length + ys.length

@[simp] theorem editDistance_nil_left (ys : List α) : editDistance [] ys = ys.length := by
  unfold editDistance
  rfl

@[simp] theorem editDistance_nil_right (xs : List α) : editDistance xs [] = xs.length := by
  cases xs with
  | nil => simp
  | cons x xs =>
    unfold editDistance
    rfl

theorem editDistance_cons (x y : α) (xs ys : List α) : editDistance (x :: xs) (y :: ys)
    = min (min (editDistance xs ys + if x = y then 0 else 1) (editDistance xs (y :: ys) + 1))
      (editDistance (x :: xs) ys + 1) := by
  conv_lhs => unfold editDistance

theorem editDistance_delete (x : α) (xs ys : List α) :
    editDistance (x :: xs) ys ≤ editDistance xs ys + 1 := by
  cases ys with
  | nil => simp
  | cons y ys =>
    rw [editDistance_cons]
    omega

theorem editDistance_insert (y : α) (xs ys : List α) :
    editDistance xs (y :: ys) ≤ editDistance xs ys + 1 := by
  cases xs with
  | nil => simp
  | cons x xs =>
    rw [editDistance_cons]
    omega

/-- No script is shorter. -/
theorem editDistance_le (h : Edits n xs ys) : editDistance xs ys ≤ n := by
  induction h with
  | nil => simp
  | @keep x n xs ys _ ih =>
    rw [editDistance_cons, if_pos rfl]
    omega
  | @substitute x y n xs ys _ ih =>
    rw [editDistance_cons]
    split <;> omega
  | @delete x n xs ys _ ih =>
    have hdelete := editDistance_delete x xs ys
    omega
  | @insert y n xs ys _ ih =>
    have hinsert := editDistance_insert y xs ys
    omega

/-- There is a script of that length. -/
theorem edits_editDistance (xs ys : List α) : Edits (editDistance xs ys) xs ys := by
  induction xs, ys using editDistance.induct with
  | case1 ys =>
    rw [editDistance_nil_left]
    exact edits_nil_left ys
  | case2 x xs =>
    rw [editDistance_nil_right]
    exact edits_nil_right (x :: xs)
  | case3 x xs y ys ihboth ihleft ihright =>
    rw [editDistance_cons]
    have hboth : Edits (editDistance xs ys + if x = y then 0 else 1) (x :: xs) (y :: ys) := by
      split
      case isTrue hxy =>
        subst hxy
        exact ihboth.keep x
      case isFalse => exact ihboth.substitute x y
    -- the least of the three is one of them
    rcases min_choice (min (editDistance xs ys + if x = y then 0 else 1)
      (editDistance xs (y :: ys) + 1)) (editDistance (x :: xs) ys + 1) with hmin | hmin
    · rw [hmin]
      rcases min_choice (editDistance xs ys + if x = y then 0 else 1)
        (editDistance xs (y :: ys) + 1) with hmin' | hmin'
      · rw [hmin']
        exact hboth
      · rw [hmin']
        exact ihleft.delete x
    · rw [hmin]
      exact ihright.insert y

/-- **The distance** is the least number of edits. -/
theorem isLeast_editDistance (xs ys : List α) :
    IsLeast {n | Edits n xs ys} (editDistance xs ys) :=
  ⟨edits_editDistance xs ys, fun _ h => editDistance_le h⟩

/-! ### From the other end -/

@[simp] theorem editDistance_reverse (xs ys : List α) :
    editDistance xs.reverse ys.reverse = editDistance xs ys := by
  apply le_antisymm
  · exact editDistance_le (edits_editDistance xs ys).reverse
  · have hback := (edits_editDistance xs.reverse ys.reverse).reverse
    rw [List.reverse_reverse, List.reverse_reverse] at hback
    exact editDistance_le hback

/-- The recursion on the last elements. -/
theorem editDistance_concat (x y : α) (xs ys : List α) : editDistance (xs ++ [x]) (ys ++ [y])
    = min (min (editDistance xs ys + if x = y then 0 else 1) (editDistance xs (ys ++ [y]) + 1))
      (editDistance (xs ++ [x]) ys + 1) := by
  have hcons := editDistance_cons x y xs.reverse ys.reverse
  have hx : x :: xs.reverse = (xs ++ [x]).reverse := by simp
  have hy : y :: ys.reverse = (ys ++ [y]).reverse := by simp
  rw [hx, hy] at hcons
  simpa only [editDistance_reverse] using hcons

end EditDistance
