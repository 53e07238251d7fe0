import Mathlib

/-! # Replacing patterns in a text

    A `Rule` replaces every occurrence of a pattern in a text by a marker,
    from left to right; letters are compared up to `fold`.  A list of rules is
    applied one rule after another (`applyAll`), so that a later rule also
    reads the markers of the earlier ones.

    * `replace_cases`: the leftmost occurrence is replaced, the rest follows;
    * `replace_append`: a boundary that no occurrence crosses splits the work;
    * `applyAll_clean_iff`: when no pattern overlaps a marker in part, the
      rules leave no pattern in any text iff none is inside a marker that they
      can insert, in the form that the later rules give it.
-/

namespace Substitution

variable {α : Type}

/-- A pattern, compared up to `fold`, and the marker that takes its place. -/
structure Rule (α : Type) where
  fold : α → α
  pattern : List α
  marker : List α

namespace Rule

/-! ### Occurrences -/

/-- The pattern occurs in the text. -/
def Occurs (r : Rule α) (text : List α) : Prop :=
  r.pattern.map r.fold <:+: text.map r.fold

/-- The text begins with the pattern. -/
def AtFront (r : Rule α) (text : List α) : Prop :=
  r.pattern.map r.fold <+: text.map r.fold

theorem Occurs.within {r : Rule α} {text text' : List α} (h : r.Occurs text)
    (hpart : text <:+: text') : r.Occurs text' :=
  h.trans (hpart.map r.fold)

theorem occurs_of_match {r : Rule α} {w : List α} (hw : w.map r.fold = r.pattern.map r.fold) :
    r.Occurs w := by
  unfold Occurs
  rw [hw]

theorem occurs_cons_iff {r : Rule α} {a : α} {text : List α} :
    r.Occurs (a :: text) ↔ r.AtFront (a :: text) ∨ r.Occurs text := by
  unfold Occurs AtFront
  rw [List.map_cons, List.infix_cons_iff]

/-- A part of an occurrence ends `u`, and the rest of it begins `v`. -/
def Crosses (r : Rule α) (u v : List α) : Prop :=
  ∃ a b, a ≠ [] ∧ b ≠ [] ∧ r.pattern.map r.fold = a ++ b ∧ a <:+ u.map r.fold ∧ b <+: v.map r.fold

theorem occurs_append_iff {r : Rule α} {u v : List α} :
    r.Occurs (u ++ v) ↔ r.Occurs u ∨ r.Occurs v ∨ r.Crosses u v := by
  unfold Occurs Crosses
  rw [List.map_append, List.infix_append_iff_ne_nil]

/-- No occurrence of the pattern overlaps `w` in part: none ends inside `w`,
    none begins inside it, and none has more than `w` around it. -/
def Apart (r : Rule α) (w : List α) : Prop :=
  (∀ k < r.pattern.length, 0 < k →
    ¬ (r.pattern.map r.fold).drop k <+: w.map r.fold ∧
    ¬ (r.pattern.map r.fold).take k <:+ w.map r.fold) ∧
  (w.map r.fold <:+: r.pattern.map r.fold → w.map r.fold = r.pattern.map r.fold)

theorem Apart.part {r : Rule α} {w a b : List α} (h : r.Apart w) (ha : a ≠ []) (hb : b ≠ [])
    (hab : r.pattern.map r.fold = a ++ b) : ¬ b <+: w.map r.fold ∧ ¬ a <:+ w.map r.fold := by
  have hlen : a.length + b.length = r.pattern.length := by
    rw [← List.length_append, ← hab, List.length_map]
  have hapos := List.length_pos_iff.mpr ha
  have hbpos := List.length_pos_iff.mpr hb
  have hk := h.1 a.length (by omega) hapos
  rwa [hab, List.drop_left, List.take_left] at hk

theorem Apart.not_crosses_left {r : Rule α} {w : List α} (h : r.Apart w) (u v : List α) :
    ¬ r.Crosses u (w ++ v) := by
  rintro ⟨a, b, ha, hb, hab, -, t, ht⟩
  rw [List.map_append] at ht
  obtain ⟨as, hin, -⟩ | ⟨b', hb', -⟩ := List.append_eq_append_iff.mp ht
  · exact (h.part ha hb hab).1 ⟨as, hin.symm⟩
  · -- all of `w` is inside the pattern, and `a` before it
    have hw := h.2 ⟨a, b', by rw [hab, hb', List.append_assoc]⟩
    have hlen := congrArg List.length (hab.trans (congrArg (a ++ ·) hb'))
    rw [hw, List.length_append, List.length_append] at hlen
    have := List.length_pos_iff.mpr ha
    omega

theorem Apart.not_crosses_right {r : Rule α} {w : List α} (h : r.Apart w) (v : List α) :
    ¬ r.Crosses w v :=
  fun ⟨_, _, ha, hb, hab, haw, _⟩ => (h.part ha hb hab).2 haw

theorem Apart.occurs_iff {r : Rule α} {w : List α} (h : r.Apart w) (u v : List α) :
    r.Occurs (u ++ (w ++ v)) ↔ r.Occurs u ∨ r.Occurs w ∨ r.Occurs v := by
  rw [occurs_append_iff, occurs_append_iff]
  have hleft := h.not_crosses_left u v
  have hright := h.not_crosses_right v
  tauto

/-! ### Replacing -/

variable [DecidableEq α]

instance (r : Rule α) (text : List α) : Decidable (r.Occurs text) :=
  inferInstanceAs (Decidable (_ <:+: _))

instance (r : Rule α) (text : List α) : Decidable (r.AtFront text) :=
  inferInstanceAs (Decidable (_ <+: _))

instance (r : Rule α) (w : List α) : Decidable (r.Apart w) :=
  inferInstanceAs (Decidable (_ ∧ _))

/-- Replace from left to right; `skip` letters are what is left of an
    occurrence already replaced. -/
def replaceFrom (r : Rule α) : Nat → List α → List α
  | _, [] => []
  | skip + 1, _ :: text => r.replaceFrom skip text
  | 0, a :: text =>
      if r.AtFront (a :: text) then r.marker ++ r.replaceFrom (r.pattern.length - 1) text
      else a :: r.replaceFrom 0 text

/-- Replace every occurrence of the pattern. -/
def replace (r : Rule α) (text : List α) : List α :=
  if r.pattern = [] then text else r.replaceFrom 0 text

/-! ### One rule -/

theorem replaceFrom_eq_drop (r : Rule α) (skip : Nat) (text : List α) :
    r.replaceFrom skip text = r.replaceFrom 0 (text.drop skip) := by
  induction text generalizing skip with
  | nil => simp [replaceFrom]
  | cons a text ih =>
    cases skip with
    | zero => rfl
    | succ skip => exact ih skip

section nonempty

variable {r : Rule α} (hne : r.pattern ≠ [])

include hne

theorem replace_nil : r.replace [] = [] := by
  simp [replace, hne, replaceFrom]

theorem replace_cons_of_not_atFront {a : α} {text : List α} (h : ¬ r.AtFront (a :: text)) :
    r.replace (a :: text) = a :: r.replace text := by
  simp [replace, hne, replaceFrom, h]

/-- What matches the pattern at the front is replaced. -/
theorem replace_append_of_match {w : List α} (hw : w.map r.fold = r.pattern.map r.fold)
    (v : List α) : r.replace (w ++ v) = r.marker ++ r.replace v := by
  have hlen : w.length = r.pattern.length := by simpa using congrArg List.length hw
  cases w with
  | nil => exact absurd (List.length_eq_zero_iff.mp hlen.symm) hne
  | cons a w =>
    have hfront : r.AtFront (a :: (w ++ v)) := by
      refine ⟨v.map r.fold, ?_⟩
      rw [← hw, ← List.map_append]
      rfl
    have hskip : r.pattern.length - 1 = w.length := by
      rw [← hlen]
      simp
    simp only [replace, hne, if_false, List.cons_append, replaceFrom, hfront, if_true]
    rw [replaceFrom_eq_drop, hskip, List.drop_left]

/-- **The leftmost occurrence** is replaced, and the rest of the text after it. -/
theorem replace_cases (text : List α) :
    (¬ r.Occurs text ∧ r.replace text = text) ∨
    ∃ u w v, text = u ++ (w ++ v) ∧ w.map r.fold = r.pattern.map r.fold ∧ ¬ r.Occurs u ∧
      r.replace text = u ++ (r.marker ++ r.replace v) := by
  have hnil : ¬ r.Occurs [] := by
    intro h
    exact hne (List.map_eq_nil_iff.mp (List.infix_nil.mp h))
  induction text with
  | nil => exact .inl ⟨hnil, replace_nil hne⟩
  | cons a text ih =>
    by_cases hfront : r.AtFront (a :: text)
    case pos =>
      -- the occurrence is the front of the text
      obtain ⟨w, v, htext, hw, -⟩ := List.map_eq_append_iff.mp hfront.choose_spec.symm
      refine .inr ⟨[], w, v, htext, hw, hnil, ?_⟩
      rw [htext]
      exact replace_append_of_match hne hw v
    case neg =>
      have hcons := replace_cons_of_not_atFront hne hfront
      obtain ⟨hnot, heq⟩ | ⟨u, w, v, rfl, hw, hu, heq⟩ := ih
      · refine .inl ⟨fun h => ?_, by rw [hcons, heq]⟩
        exact (occurs_cons_iff.mp h).elim hfront hnot
      · refine .inr ⟨a :: u, w, v, rfl, hw, fun h => ?_, by rw [hcons, heq]; rfl⟩
        refine (occurs_cons_iff.mp h).elim (fun h' => hfront ?_) hu
        exact h'.trans ((List.prefix_append (a :: u) (w ++ v)).map r.fold)

/-- A text without the pattern stays as it is. -/
theorem replace_of_not_occurs {text : List α} (h : ¬ r.Occurs text) : r.replace text = text := by
  obtain ⟨-, heq⟩ | ⟨u, w, v, rfl, hw, -, -⟩ := replace_cases hne text
  · exact heq
  · refine absurd ?_ h
    exact (occurs_of_match hw).within (List.infix_append' u w v)

/-- Where the pattern occurs, its marker is inserted. -/
theorem marker_infix_replace {text : List α} (h : r.Occurs text) :
    r.marker <:+: r.replace text := by
  obtain ⟨hnot, -⟩ | ⟨u, w, v, -, -, -, heq⟩ := replace_cases hne text
  · exact absurd h hnot
  · rw [heq]
    exact List.infix_append' u r.marker _

/-- A boundary that no occurrence crosses splits the work. -/
theorem replace_append {u v : List α} (h : ¬ r.Crosses u v) :
    r.replace (u ++ v) = r.replace u ++ r.replace v := by
  induction hlen : u.length using Nat.strong_induction_on generalizing u with
  | _ n ih =>
    have hsub : ∀ u₁ u₂, u = u₁ ++ u₂ → ¬ r.Crosses u₂ v := by
      rintro u₁ u₂ rfl ⟨a, b, ha, hb, hab, hau, hbv⟩
      refine h ⟨a, b, ha, hb, hab, hau.trans ?_, hbv⟩
      exact (List.suffix_append u₁ u₂).map r.fold
    cases u with
    | nil => rw [replace_nil hne]; rfl
    | cons c u =>
      by_cases hfront : r.AtFront (c :: u)
      · obtain ⟨w, u₂, htext, hw, -⟩ := List.map_eq_append_iff.mp hfront.choose_spec.symm
        have hlt : u₂.length < n := by
          have hwlen : w.length = r.pattern.length := by simpa using congrArg List.length hw
          have hpos := List.length_pos_iff.mpr hne
          have hsum := congrArg List.length htext
          rw [List.length_append] at hsum
          omega
        rw [htext, List.append_assoc, replace_append_of_match hne hw,
          replace_append_of_match hne hw, ih _ hlt (hsub w u₂ htext) rfl, List.append_assoc]
      · have hfront' : ¬ r.AtFront (c :: (u ++ v)) := by
          intro hat
          -- an occurrence at the front is inside `c :: u`, or crosses the boundary
          obtain ⟨t, ht⟩ := hat
          rw [← List.cons_append, List.map_append] at ht
          obtain ⟨as, hin, -⟩ | ⟨b, hb, hbv⟩ := List.append_eq_append_iff.mp ht
          · exact hfront ⟨as, hin.symm⟩
          · by_cases hbn : b = []
            · refine hfront ⟨[], ?_⟩
              rw [hb, hbn, List.append_nil, List.append_nil]
            · exact h ⟨(c :: u).map r.fold, b, by simp, hbn, hb, List.suffix_rfl, t, hbv.symm⟩
        have hlt : u.length < n := by
          rw [← hlen]
          simp
        rw [List.cons_append, replace_cons_of_not_atFront hne hfront',
          replace_cons_of_not_atFront hne hfront, ih _ hlt (hsub [c] u rfl) rfl]
        rfl

end nonempty

theorem Apart.replace_eq {r : Rule α} (hne : r.pattern ≠ []) {w : List α} (h : r.Apart w)
    (u v : List α) :
    r.replace (u ++ (w ++ v)) = r.replace u ++ (r.replace w ++ r.replace v) := by
  rw [replace_append hne (h.not_crosses_left u v), replace_append hne (h.not_crosses_right v)]

end Rule

/-! ### Delimited texts -/

namespace Rule

/-- A text between the letters `a` and `b`. -/
def Delimited (a b : α) (text : List α) : Prop :=
  text.head? = some a ∧ text.getLast? = some b

theorem apart_of_delimited {r : Rule α} {a b : α} {w : List α} (h : Delimited a b w)
    (ha : r.fold a ∉ r.pattern.map r.fold) (hb : r.fold b ∉ r.pattern.map r.fold) :
    r.Apart w := by
  have hhead : (w.map r.fold).head? = some (r.fold a) := by rw [List.head?_map, h.1]; rfl
  have hlast : (w.map r.fold).getLast? = some (r.fold b) := by rw [List.getLast?_map, h.2]; rfl
  refine ⟨fun k hk hpos => ⟨fun hpre => ha ?_, fun hsuf => hb ?_⟩, fun hin => ?_⟩
  -- a part of the pattern that begins the word has its first character
  · have hne : (r.pattern.map r.fold).drop k ≠ [] := by
      intro hnil
      have hlen := congrArg List.length hnil
      rw [List.length_drop, List.length_map] at hlen
      simp only [List.length_nil] at hlen
      omega
    refine (List.drop_suffix k _).subset (List.mem_of_mem_head? (?_ : _ = some (r.fold a)))
    obtain ⟨t, ht⟩ := hpre
    rw [← ht, List.head?_append_of_ne_nil _ hne] at hhead
    exact hhead
  -- and one that ends it has its last
  · have hne : (r.pattern.map r.fold).take k ≠ [] := by
      intro hnil
      have hlen := congrArg List.length hnil
      rw [List.length_take, List.length_map] at hlen
      simp only [List.length_nil] at hlen
      omega
    refine (List.take_prefix k _).subset (List.mem_of_getLast? (?_ : _ = some (r.fold b)))
    obtain ⟨t, ht⟩ := hsuf
    rw [← ht, List.getLast?_append_of_ne_nil _ hne] at hlast
    exact hlast
  · exact absurd (hin.subset (List.mem_of_mem_head? hhead)) ha

variable [DecidableEq α]

theorem delimited_replace {r : Rule α} (hne : r.pattern ≠ []) {a b : α}
    (hm : Delimited a b r.marker) {text : List α} (h : Delimited a b text) :
    Delimited a b (r.replace text) := by
  have hmarker : r.marker ≠ [] := by
    intro hnil
    have hhead := hm.1
    rw [hnil] at hhead
    exact nomatch hhead
  -- by induction on the length: what follows the first occurrence is shorter
  have hlast : ∀ (n : ℕ) (v : List α), v.length = n → v.getLast? = some b →
      (r.replace v).getLast? = some b := by
    intro n
    induction n using Nat.strong_induction_on with
    | _ n ih =>
      intro v hlen hv
      obtain ⟨-, heq⟩ | ⟨u, w, rest, rfl, hw, -, heq⟩ := replace_cases hne v
      · rw [heq, hv]
      · by_cases hrest : rest = []
        · rw [heq, hrest, replace_nil hne, List.append_nil,
            List.getLast?_append_of_ne_nil _ hmarker]
          exact hm.2
        · have hlt : rest.length < n := by
            have hwlen : w.length = r.pattern.length := by simpa using congrArg List.length hw
            have hpos := List.length_pos_iff.mpr hne
            rw [← hlen, List.length_append, List.length_append]
            omega
          have hrestLast : rest.getLast? = some b := by
            rwa [← List.append_assoc, List.getLast?_append_of_ne_nil _ hrest] at hv
          have hih := ih _ hlt rest rfl hrestLast
          have hne' : r.replace rest ≠ [] := by
            intro hnil
            rw [hnil] at hih
            exact nomatch hih
          rw [heq, ← List.append_assoc, List.getLast?_append_of_ne_nil _ hne', hih]
  refine ⟨?_, hlast _ text rfl h.2⟩
  obtain ⟨-, heq⟩ | ⟨u, w, rest, rfl, hw, -, heq⟩ := replace_cases hne text
  · rw [heq]
    exact h.1
  · rw [heq]
    cases u with
    | nil =>
      rw [List.nil_append, List.head?_append_of_ne_nil _ hmarker]
      exact hm.1
    | cons c u => exact h.1

end Rule

/-! ### Texts made of pieces and markers -/

/-- A text of kept pieces with markers between them. -/
inductive Layout (kept marker : List α → Prop) : List α → Prop where
  | piece {p : List α} (hp : kept p) : Layout kept marker p
  | cons {p m rest : List α} (hp : kept p) (hm : marker m) (hrest : Layout kept marker rest) :
      Layout kept marker (p ++ (m ++ rest))

namespace Layout

variable {kept kept' marker marker' : List α → Prop} {x y : List α}

theorem mono (h : Layout kept marker x) (hk : ∀ p, kept p → kept' p)
    (hm : ∀ m, marker m → marker' m) : Layout kept' marker' x := by
  induction h with
  | piece hp => exact piece (hk _ hp)
  | cons hp hmark _ ih => exact cons (hk _ hp) (hm _ hmark) ih

theorem append (h : Layout kept marker x) {m : List α} (hm : marker m)
    (hy : Layout kept marker y) : Layout kept marker (x ++ (m ++ y)) := by
  induction h with
  | piece hp => exact cons hp hm hy
  | cons hp hmark _ ih =>
    rw [List.append_assoc, List.append_assoc]
    exact cons hp hmark ih

theorem not_occurs {r : Rule α} (h : Layout kept marker x)
    (hapart : ∀ m, marker m → r.Apart m) (hkept : ∀ p, kept p → ¬ r.Occurs p)
    (hmarker : ∀ m, marker m → ¬ r.Occurs m) : ¬ r.Occurs x := by
  induction h with
  | piece hp => exact hkept _ hp
  | cons hp hmark _ ih =>
    rw [(hapart _ hmark).occurs_iff]
    rintro (hu | hw | hv)
    · exact hkept _ hp hu
    · exact hmarker _ hmark hw
    · exact ih hv

variable [DecidableEq α]

/-- What a rule makes of a piece: parts of it without the pattern, and markers
    between them if the pattern occurred. -/
theorem of_replace {r : Rule α} (hne : r.pattern ≠ []) (p : List α) :
    Layout (fun q => q <:+: p ∧ ¬ r.Occurs q) (fun m => m = r.marker ∧ r.Occurs p)
      (r.replace p) := by
  induction hlen : p.length using Nat.strong_induction_on generalizing p with
  | _ n ih =>
    obtain ⟨hnot, heq⟩ | ⟨u, w, v, rfl, hw, hu, heq⟩ := Rule.replace_cases hne p
    · rw [heq]
      exact piece ⟨List.infix_rfl, hnot⟩
    · have hocc : r.Occurs (u ++ (w ++ v)) :=
        (Rule.occurs_of_match hw).within (List.infix_append' u w v)
      have hlt : v.length < n := by
        have hwlen : w.length = r.pattern.length := by simpa using congrArg List.length hw
        have hpos := List.length_pos_iff.mpr hne
        rw [← hlen, List.length_append, List.length_append]
        omega
      have hv : v <:+: u ++ (w ++ v) :=
        List.infix_append_of_infix_right (List.infix_append_of_infix_right List.infix_rfl)
      rw [heq]
      refine cons ⟨List.infix_append_left, hu⟩ ⟨rfl, hocc⟩ ((ih _ hlt v rfl).mono ?_ ?_)
      · exact fun q hq => ⟨hq.1.trans hv, hq.2⟩
      · exact fun m hm => ⟨hm.1, hocc⟩

/-- **One rule** acts on every piece and on every marker by itself. -/
theorem replace {r : Rule α} (hne : r.pattern ≠ []) (h : Layout kept marker x)
    (hapart : ∀ m, marker m → r.Apart m)
    (hkept : ∀ p q, kept p → q <:+: p → ¬ r.Occurs q → kept' q)
    (hold : ∀ m, marker m → marker' (r.replace m))
    (hnew : ∀ p, kept p → r.Occurs p → marker' r.marker) :
    Layout kept' marker' (r.replace x) := by
  have hpiece : ∀ p, kept p → Layout kept' marker' (r.replace p) := by
    intro p hp
    refine (of_replace hne p).mono (fun q hq => hkept p q hp hq.1 hq.2) ?_
    rintro m ⟨rfl, hocc⟩
    exact hnew p hp hocc
  induction h with
  | piece hp => exact hpiece _ hp
  | cons hp hmark _ ih =>
    rw [(hapart _ hmark).replace_eq hne]
    exact (hpiece _ hp).append (hold _ hmark) ih

end Layout

/-! ### One rule after another -/

variable [DecidableEq α]

/-- Apply the rules in order. -/
def applyAll (rules : List (Rule α)) (text : List α) : List α :=
  rules.foldl (fun text r => r.replace text) text

@[simp] theorem applyAll_nil (text : List α) : applyAll [] text = text := rfl

@[simp] theorem applyAll_cons (r : Rule α) (rules : List (Rule α)) (text : List α) :
    applyAll (r :: rules) text = applyAll rules (r.replace text) := rfl

theorem applyAll_append (rules later : List (Rule α)) (text : List α) :
    applyAll (rules ++ later) text = applyAll later (applyAll rules text) :=
  List.foldl_append

/-- The forms a marker takes under the rules that come after it. -/
def formsUnder : List (Rule α) → List α → List (List α)
  | [], m => [m]
  | r :: later, m => m :: formsUnder later (r.replace m)

/-- The rules that can fire on a text that the rules before them have been
    applied to, each with the rules after it: no earlier pattern is inside
    theirs. -/
def firing (earlier : List (Rule α)) : List (Rule α) → List (Rule α × List (Rule α))
  | [] => []
  | r :: later =>
      (if ∃ e ∈ earlier, e.Occurs r.pattern then [] else [(r, later)])
        ++ firing (earlier ++ [r]) later

theorem applyAll_mem_formsUnder (later : List (Rule α)) (m : List α) :
    applyAll later m ∈ formsUnder later m := by
  induction later generalizing m with
  | nil => exact List.mem_singleton_self _
  | cons r later ih => exact List.mem_cons_of_mem _ (ih _)

theorem mem_formsUnder_self (later : List (Rule α)) (m : List α) : m ∈ formsUnder later m := by
  cases later <;> simp [formsUnder]

/-- Between delimiters, a marker stays between them. -/
theorem delimited_of_mem_formsUnder {a b : α} {later : List (Rule α)}
    (hne : ∀ r ∈ later, r.pattern ≠ []) (hlater : ∀ r ∈ later, Rule.Delimited a b r.marker)
    {m : List α} (hm : Rule.Delimited a b m) : ∀ form ∈ formsUnder later m,
      Rule.Delimited a b form := by
  induction later generalizing m with
  | nil =>
    intro form hform
    exact List.mem_singleton.mp hform ▸ hm
  | cons r later ih =>
    rintro form (_ | ⟨_, hform⟩)
    · exact hm
    · exact ih (fun s hs => hne s (List.mem_cons_of_mem _ hs))
        (fun s hs => hlater s (List.mem_cons_of_mem _ hs))
        (Rule.delimited_replace (hne r (List.mem_cons_self ..)) (hlater r (List.mem_cons_self ..))
          hm) form hform

theorem mem_firing {earlier rules later : List (Rule α)} {r : Rule α}
    (h : (r, later) ∈ firing earlier rules) :
    ∃ before, rules = before ++ r :: later ∧ ∀ e ∈ earlier ++ before, ¬ e.Occurs r.pattern := by
  induction rules generalizing earlier with
  | nil => exact nomatch h
  | cons s rules ih =>
    obtain h | h := List.mem_append.mp h
    · split at h
      case isTrue => exact nomatch h
      case isFalse hnot =>
        obtain ⟨rfl, rfl⟩ := Prod.mk.inj (List.mem_singleton.mp h)
        refine ⟨[], rfl, fun e he hocc => hnot ⟨e, ?_, hocc⟩⟩
        simpa using he
    · obtain ⟨before, rfl, hbefore⟩ := ih h
      exact ⟨s :: before, rfl, by simpa using hbefore⟩

/-- Texts without the patterns stay as they are. -/
theorem applyAll_of_not_occurs {rules : List (Rule α)} (hne : ∀ r ∈ rules, r.pattern ≠ [])
    {text : List α} (h : ∀ r ∈ rules, ¬ r.Occurs text) : applyAll rules text = text := by
  induction rules with
  | nil => rfl
  | cons r rules ih =>
    have hr : r.replace text = text :=
      Rule.replace_of_not_occurs (hne r (List.mem_cons_self ..)) (h r (List.mem_cons_self ..))
    have hrest := ih (fun s hs => hne s (List.mem_cons_of_mem _ hs))
      (fun s hs => h s (List.mem_cons_of_mem _ hs))
    rw [applyAll_cons, hr]
    exact hrest

/-- A letter of every marker shows that a rule has fired. -/
theorem not_occurs_of_notMem {rules : List (Rule α)} (hne : ∀ r ∈ rules, r.pattern ≠ [])
    {c : α} (hc : ∀ r ∈ rules, c ∈ r.marker) {text : List α} (h : c ∉ applyAll rules text) :
    ∀ r ∈ rules, ¬ r.Occurs text := by
  induction rules generalizing text with
  | nil => exact fun r hr => nomatch hr
  | cons r rules ih =>
    have hne' := fun s hs => hne s (List.mem_cons_of_mem r hs)
    have hrest := ih hne' (fun s hs => hc s (List.mem_cons_of_mem r hs)) h
    have hsame : applyAll rules (r.replace text) = r.replace text :=
      applyAll_of_not_occurs hne' hrest
    have hr : ¬ r.Occurs text := by
      intro hocc
      refine h ?_
      show c ∈ applyAll rules (r.replace text)
      rw [hsame]
      exact (Rule.marker_infix_replace (hne r (List.mem_cons_self ..)) hocc).subset
        (hc r (List.mem_cons_self ..))
    have htext := Rule.replace_of_not_occurs (hne r (List.mem_cons_self ..)) hr
    rintro s (_ | ⟨_, hs⟩)
    · exact hr
    · exact htext ▸ hrest s hs

/-- **A run of the rules**: pieces without any of the patterns, and between
    them the markers, old and new, in the form the later rules give them. -/
theorem layout_applyAll (earlier : List (Rule α)) {rules : List (Rule α)}
    (hne : ∀ r ∈ rules, r.pattern ≠ [])
    (hcompat : ∀ e ∈ earlier ++ rules, ∀ r ∈ rules, ∀ text, r.Occurs text → e.Occurs r.pattern →
      e.Occurs text)
    {current : List α → Prop} {text : List α}
    (htext : Layout (fun p => ∀ e ∈ earlier, ¬ e.Occurs p) current text)
    (hcurrent : ∀ m, current m → ∀ form ∈ formsUnder rules m, ∀ r ∈ rules, r.Apart form)
    (hnew : ∀ x ∈ firing earlier rules, ∀ form ∈ formsUnder x.2 x.1.marker, ∀ r ∈ rules,
      r.Apart form) :
    Layout (fun p => ∀ e ∈ earlier ++ rules, ¬ e.Occurs p)
      (fun m => (∃ m₀, current m₀ ∧ m = applyAll rules m₀) ∨
        ∃ x ∈ firing earlier rules, m = applyAll x.2 x.1.marker)
      (applyAll rules text) := by
  induction rules generalizing earlier current text with
  | nil =>
    rw [List.append_nil]
    exact htext.mono (fun p hp => hp) fun m hm => .inl ⟨m, hm, rfl⟩
  | cons r rules ih =>
    -- the markers there are after the rule `r`
    let next : List α → Prop := fun m =>
      (∃ m₀, current m₀ ∧ m = r.replace m₀) ∨ ((r, rules) ∈ firing earlier (r :: rules) ∧ m = r.marker)
    have hfire : ∀ p, (∀ e ∈ earlier, ¬ e.Occurs p) → r.Occurs p →
        (r, rules) ∈ firing earlier (r :: rules) := by
      intro p hp hocc
      have hnot : ¬ ∃ e ∈ earlier, e.Occurs r.pattern := by
        rintro ⟨e, he, hin⟩
        exact hp e he (hcompat e (List.mem_append_left _ he) r (List.mem_cons_self ..) p hocc hin)
      simp [firing, hnot]
    have hstep : Layout (fun p => ∀ e ∈ earlier ++ [r], ¬ e.Occurs p) next (r.replace text) := by
      refine htext.replace (hne r (List.mem_cons_self ..)) ?_ ?_ ?_ ?_
      · exact fun m hm => hcurrent m hm m (mem_formsUnder_self _ m) r (List.mem_cons_self ..)
      · intro p q hp hq hr e he
        obtain he | he := List.mem_append.mp he
        · exact fun hocc => hp e he (hocc.within hq)
        · exact List.mem_singleton.mp he ▸ hr
      · exact fun m hm => .inl ⟨m, hm, rfl⟩
      · exact fun p hp hocc => .inr ⟨hfire p hp hocc, rfl⟩
    have hrun := ih (earlier ++ [r]) (fun s hs => hne s (List.mem_cons_of_mem _ hs))
      (fun e he s hs => hcompat e (by simpa using he) s (List.mem_cons_of_mem _ hs)) hstep ?_ ?_
    · rw [List.append_assoc, List.singleton_append] at hrun
      refine hrun.mono (fun p hp => hp) ?_
      rintro m (⟨m₁, ⟨m₀, hm₀, rfl⟩ | ⟨hr, rfl⟩, rfl⟩ | ⟨x, hx, rfl⟩)
      · exact .inl ⟨m₀, hm₀, rfl⟩
      · exact .inr ⟨_, hr, rfl⟩
      · exact .inr ⟨x, List.mem_append_right _ hx, rfl⟩
    · rintro m (⟨m₀, hm₀, rfl⟩ | ⟨hr, rfl⟩) form hform s hs
      · exact hcurrent m₀ hm₀ form (List.mem_cons_of_mem _ hform) s (List.mem_cons_of_mem _ hs)
      · exact hnew _ hr form hform s (List.mem_cons_of_mem _ hs)
    · intro x hx form hform s hs
      exact hnew x (List.mem_append_right _ hx) form hform s (List.mem_cons_of_mem _ hs)

/-- **When the rules leave no pattern in any text.** -/
theorem applyAll_clean_iff {rules : List (Rule α)} (hne : ∀ r ∈ rules, r.pattern ≠ [])
    (hcompat : ∀ e ∈ rules, ∀ r ∈ rules, ∀ text, r.Occurs text → e.Occurs r.pattern →
      e.Occurs text)
    (hapart : ∀ x ∈ firing [] rules, ∀ form ∈ formsUnder x.2 x.1.marker, ∀ r ∈ rules,
      r.Apart form) :
    (∀ text, ∀ r ∈ rules, ¬ r.Occurs (applyAll rules text)) ↔
      ∀ x ∈ firing [] rules, ∀ r ∈ rules, ¬ r.Occurs (applyAll x.2 x.1.marker) := by
  constructor
  · rintro h ⟨r, later⟩ hx s hs
    obtain ⟨before, rfl, hbefore⟩ := mem_firing hx
    -- the pattern itself is a text that ends up as the settled marker
    have hpattern : applyAll (before ++ r :: later) r.pattern = applyAll later r.marker := by
      have hfirst : applyAll before r.pattern = r.pattern :=
        applyAll_of_not_occurs (fun e he => hne e (List.mem_append_left _ he)) hbefore
      have hr := Rule.replace_append_of_match
        (hne r (List.mem_append_right _ (List.mem_cons_self ..))) (w := r.pattern) rfl []
      rw [Rule.replace_nil (hne r (List.mem_append_right _ (List.mem_cons_self ..))),
        List.append_nil, List.append_nil] at hr
      rw [applyAll_append, hfirst, applyAll_cons, hr]
    exact hpattern ▸ h r.pattern s hs
  · intro h text s hs
    have hlayout := layout_applyAll [] hne hcompat
      (Layout.piece (p := text) fun e he => nomatch he) (fun m (hm : False) => hm.elim) hapart
    refine hlayout.not_occurs ?_ (fun p hp => hp s hs) ?_
    · rintro m (⟨_, hfalse, -⟩ | ⟨x, hx, rfl⟩)
      · exact hfalse.elim
      · exact hapart x hx _ (applyAll_mem_formsUnder ..) s hs
    · rintro m (⟨_, hfalse, -⟩ | ⟨x, hx, rfl⟩)
      · exact hfalse.elim
      · exact h x hx s hs

end Substitution
