import Mathlib

/-! # Chains of digests

    A log whose lines each name the digest of the line before: `prevOf` reads
    it off a line, and the first line names none.

    * `Linked.commit`: where digests tell lines apart, the last digest of such
      a log determines all of its lines;
    * `splitInclusive`: the lines of a file, each with the byte that ends it;
      `flatten_splitInclusive` and `splitInclusive_flatten` say that the file
      and its lines determine each other.
-/

namespace HashChain

variable {β L H : Type} {digest : L → H} {prevOf : L → Option H}

/-- Each line names the digest of the one before; the first one names `p`. -/
def Linked (digest : L → H) (prevOf : L → Option H) : Option H → List L → Prop
  | _, [] => True
  | p, l :: ls => prevOf l = p ∧ Linked digest prevOf (some (digest l)) ls

/-- The digest of the last line. -/
def head (digest : L → H) (lines : List L) : Option H := lines.getLast?.map digest

@[simp] theorem head_append (lines : List L) (l : L) :
    head digest (lines ++ [l]) = some (digest l) := by
  rw [head, List.getLast?_append]
  rfl

/-- One more line. -/
theorem linked_append {p : Option H} {lines : List L} {l : L} :
    Linked digest prevOf p (lines ++ [l]) ↔
      Linked digest prevOf p lines ∧ prevOf l = (head digest lines).or p := by
  induction lines generalizing p with
  | nil => simp [Linked, head]
  | cons m ms ih =>
    have hhead : (head digest ms).or (some (digest m)) = (head digest (m :: ms)).or p := by
      cases hms : ms.getLast? with
      | none =>
        obtain rfl := List.getLast?_eq_none_iff.mp hms
        rfl
      | some last =>
        have hcons : (m :: ms).getLast? = some last := by
          rw [List.getLast?_cons, hms]
          rfl
        rw [head, head, hms, hcons]
        rfl
    rw [List.cons_append, Linked, ih, Linked, hhead, and_assoc]

/-- **Commitment**: the last digest determines the lines. -/
theorem Linked.commit {A B : List L} (hdigest : ∀ a ∈ A, ∀ b ∈ B, digest a = digest b → a = b)
    (hA : Linked digest prevOf none A) (hB : Linked digest prevOf none B)
    (hlast : head digest A = head digest B) : A = B := by
  induction A using List.reverseRecOn generalizing B with
  | nil =>
    cases B using List.reverseRecOn with
    | nil => rfl
    | append_singleton B b =>
      rw [head_append] at hlast
      exact nomatch hlast
  | append_singleton A a ih =>
    cases B using List.reverseRecOn with
    | nil =>
      rw [head_append] at hlast
      exact nomatch hlast
    | append_singleton B b =>
      rw [head_append, head_append] at hlast
      obtain rfl := hdigest a (by simp) b (by simp) (Option.some.inj hlast)
      obtain ⟨hA, hprevA⟩ := linked_append.mp hA
      obtain ⟨hB, hprevB⟩ := linked_append.mp hB
      rw [Option.or_none] at hprevA hprevB
      have hrest : A = B := ih (fun x hx y hy => hdigest x (by simp [hx]) y (by simp [hy])) hA hB
        (hprevA.symm.trans hprevB)
      rw [hrest]

/-! ### Lines of a file -/

variable [DecidableEq β] {sep : β}

/-- The lines of a file, each with the byte `sep` that ends it. -/
def splitInclusive (sep : β) : List β → List (List β)
  | [] => []
  | b :: bs =>
      if b = sep then [b] :: splitInclusive sep bs
      else match splitInclusive sep bs with
        | [] => [[b]]
        | line :: lines => (b :: line) :: lines

@[simp] theorem flatten_splitInclusive (bytes : List β) :
    (splitInclusive sep bytes).flatten = bytes := by
  induction bytes with
  | nil => rfl
  | cons b bs ih =>
    rw [splitInclusive]
    split
    · rw [List.flatten_cons, ih]
      rfl
    · cases hsplit : splitInclusive sep bs with
      | nil =>
        rw [hsplit] at ih
        rw [← ih]
        rfl
      | cons line lines =>
        rw [hsplit] at ih
        rw [← ih]
        rfl

/-- A line: one `sep`, at its end. -/
def IsLine (sep : β) (line : List β) : Prop := ∃ text, sep ∉ text ∧ line = text ++ [sep]

theorem splitInclusive_append {line rest : List β} (h : IsLine sep line) :
    splitInclusive sep (line ++ rest) = line :: splitInclusive sep rest := by
  obtain ⟨text, hfree, rfl⟩ := h
  induction text with
  | nil => simp [splitInclusive]
  | cons b text ih =>
    obtain ⟨hb, hfree⟩ := not_or.mp (List.mem_cons.not.mp hfree)
    have hne : b ≠ sep := fun heq => hb heq.symm
    rw [List.cons_append, List.cons_append, splitInclusive, if_neg hne, ih hfree]

theorem splitInclusive_flatten {lines : List (List β)} (h : ∀ line ∈ lines, IsLine sep line) :
    splitInclusive sep lines.flatten = lines := by
  induction lines with
  | nil => rfl
  | cons line lines ih =>
    obtain ⟨hline, hlines⟩ := List.forall_mem_cons.mp h
    rw [List.flatten_cons, splitInclusive_append hline, ih hlines]

end HashChain
