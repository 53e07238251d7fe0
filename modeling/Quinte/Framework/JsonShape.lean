import Mathlib
import Quinte.Framework.JsonAccess
import Quinte.Framework.JsonSchema
import Quinte.Framework.JsonText

/-! # The shape of JSON values

    What a program finds in a value does not depend on the order of the members,
    and a value keeps its shape where a member is put into it.  Of several members
    of one name a map keeps the last.

    * `get_sorted`: a member is found in either order;
    * `unique_set`, `regular_set`: a member that is put;
    * `lastMembers_of_unique`: a value without repeated names is its own map;
    * `Schema.regular_of_record`: which records any reader reads.
-/

namespace Json

/-! ### In the order of names -/

section sorted

variable {v : Json}

theorem get_sorted (h : v.unique = true) (name : String) :
    v.sorted.get name = (v.get name).map sorted := by
  cases v with
  | obj members =>
    rw [sorted_obj]
    exact lookup_sorted (unique_obj.mp h).1 name
  | arr items =>
    rw [sorted_arr]
    rfl
  | null | bool b | int n | float text | str s => rfl

@[simp] theorem asStr_sorted (v : Json) : v.sorted.asStr = v.asStr := by
  cases v with
  | obj members =>
    rw [sorted_obj]
    rfl
  | arr items =>
    rw [sorted_arr]
    rfl
  | null | bool b | int n | float text | str s => rfl

theorem mapM_asStr_sorted (items : List Json) :
    (items.map sorted).mapM asStr = items.mapM asStr := by
  induction items with
  | nil => rfl
  | cons item items ih => rw [List.map_cons, List.mapM_cons, List.mapM_cons, asStr_sorted, ih]

end sorted

/-! ### Members -/

theorem unique_get {v w : Json} {name : String} (h : v.unique = true) (hw : v.get name = some w) :
    w.unique = true := by
  cases v with
  | obj members => exact Schema.unique_of_lookup (unique_obj.mp h).2 hw
  | null | bool b | int n | float text | str s | arr items => cases hw

/-- A member that was put is the only one of its name. -/
theorem unique_set {v member : Json} (name : String) (h : v.unique = true)
    (hmember : member.unique = true) : (v.set name member).unique = true := by
  cases v with
  | obj members =>
    obtain ⟨hnodup, hvalues⟩ := unique_obj.mp h
    unfold set
    dsimp only
    split
    case isTrue =>
      have hnames : (members.map fun m => if m.1 = name then (name, member) else m).map (·.1)
          = members.map (·.1) := by
        rw [List.map_map]
        apply List.map_congr_left
        intro m _
        by_cases hm : m.1 = name <;> simp [hm]
      refine unique_obj.mpr ⟨hnames ▸ hnodup, fun w hw => ?_⟩
      obtain ⟨m, hm, rfl⟩ := List.mem_map.mp hw
      by_cases hname : m.1 = name
      · rw [if_pos hname]
        exact hmember
      · rw [if_neg hname]
        exact hvalues m hm
    case isFalse hnot =>
      have hfresh : name ∉ members.map (·.1) := by
        intro hmem
        obtain ⟨m, hm, rfl⟩ := List.mem_map.mp hmem
        rw [lookup_of_mem hnodup hm] at hnot
        exact hnot rfl
      refine unique_obj.mpr ⟨?_, fun w hw => ?_⟩
      · rw [List.map_append]
        refine List.nodup_append.mpr ⟨hnodup, List.nodup_singleton _, fun a ha b hb heq => ?_⟩
        obtain rfl : b = name := List.mem_singleton.mp hb
        exact hfresh (heq ▸ ha)
      · rcases List.mem_append.mp hw with hold | hnew
        · exact hvalues w hold
        · obtain rfl := List.mem_singleton.mp hnew
          exact hmember
  | null | bool b | int n | float text | str s | arr items => exact h

theorem regular_set {v member : Json} {n : Nat} (name : String) (h : Regular (n + 1) v)
    (hmember : Regular n member) : Regular (n + 1) (v.set name member) := by
  cases v with
  | obj members =>
    unfold set
    dsimp only
    split
    · intro w hw
      obtain ⟨m, hm, rfl⟩ := List.mem_map.mp hw
      by_cases hname : m.1 = name
      · rw [if_pos hname]
        exact hmember
      · rw [if_neg hname]
        exact h m hm
    · intro w hw
      rcases List.mem_append.mp hw with hold | hnew
      · exact h w hold
      · obtain rfl := List.mem_singleton.mp hnew
        exact hmember
  | null | bool b | int n | float text | str s | arr items => exact h

/-! ### Repeated names -/

mutual

/-- A map keeps the last of several members of one name. -/
def lastMembers : Json → Json
  | .arr items => .arr (lastOfItems items)
  | .obj members => .obj (lastOfMembers members)
  | .null => .null
  | .bool b => .bool b
  | .int n => .int n
  | .float text => .float text
  | .str s => .str s

def lastOfItems : List Json → List Json
  | [] => []
  | v :: vs => lastMembers v :: lastOfItems vs

def lastOfMembers : List (String × Json) → List (String × Json)
  | [] => []
  | (k, v) :: ms =>
      if (lastOfMembers ms).any (·.1 == k) then lastOfMembers ms
      else (k, lastMembers v) :: lastOfMembers ms

end

theorem lastOfItems_eq (items : List Json) : lastOfItems items = items.map lastMembers := by
  induction items with
  | nil => rfl
  | cons v vs ih => rw [lastOfItems, ih, List.map_cons]

theorem lastOfMembers_eq {members : List (String × Json)} (h : (members.map (·.1)).Nodup) :
    lastOfMembers members = members.map fun m => (m.1, lastMembers m.2) := by
  induction members with
  | nil => rfl
  | cons m ms ih =>
    obtain ⟨k, v⟩ := m
    rw [List.map_cons, List.nodup_cons] at h
    rw [lastOfMembers, ih h.2, List.map_cons, if_neg]
    -- no later member has this name
    intro hlater
    obtain ⟨m', hm', hname⟩ := List.any_eq_true.mp hlater
    obtain ⟨m, hm, rfl⟩ := List.mem_map.mp hm'
    exact h.1 (List.mem_map.mpr ⟨m, hm, eq_of_beq hname⟩)

/-- **A value without repeated names** is its own map. -/
theorem lastMembers_of_unique {v : Json} (h : v.unique = true) : lastMembers v = v := by
  induction v with
  | null | bool b | int n | float text | str s => rfl
  | arr items ih =>
    have hitems := unique_arr.mp h
    rw [lastMembers, lastOfItems_eq]
    congr 1
    conv_rhs => rw [← List.map_id items]
    exact List.map_congr_left fun v hv => ih v hv (hitems v hv)
  | obj members ih =>
    obtain ⟨hnodup, hvalues⟩ := unique_obj.mp h
    rw [lastMembers, lastOfMembers_eq hnodup]
    congr 1
    conv_rhs => rw [← List.map_id members]
    exact List.map_congr_left fun m hm => by rw [ih m hm (hvalues m hm)]; rfl

namespace Schema

/-! ### Records -/

variable {v : Json}

/-- A closed object has no member beyond the ones that its schema names. -/
theorem get_eq_none_of_record {schemas : List (String × Schema)} {optional : List String}
    (name : String) (h : (record schemas optional).accepts v = true)
    (hname : name ∉ schemas.map (·.1)) : v.get name = none := by
  cases v with
  | obj members =>
    have hclosed : (closed (schemas.map (·.1))).accepts (.obj members) = true :=
      List.all_eq_true.mp h _ (by simp)
    refine List.lookup_eq_none_iff.mpr fun m hm => bne_iff_ne.mpr fun heq => hname ?_
    have hmem := List.all_eq_true.mp hclosed m hm
    rw [heq]
    simpa using hmem
  | null | bool b | int n | float text | str s | arr items => rfl

/-- What the schema accepts has no array or object in an array, and no object. -/
def Flat (s : Json.Schema) : Prop := ∀ v, s.accepts v = true → Regular 1 v

theorem flat_textWith (test : String → Bool) : Flat (textWith test) := by
  intro v h
  cases v with
  | str s => trivial
  | null | bool b | int n | float text | arr items | obj members => cases h

theorem flat_orNull {s : Json.Schema} (hs : Flat s) : Flat (orNull s) := by
  intro v h
  cases v with
  | null => trivial
  | bool b | int n | float text | str t | arr items | obj members =>
    apply hs
    by_contra hrefused
    simp [orNull, oneOf, null, hrefused] at h

theorem flat_both {s t : Json.Schema} (hs : Flat s) : Flat (both s t) :=
  fun v h => hs v (Bool.and_eq_true_iff.mp h).1

theorem flat_items {test : String → Bool} :
    Flat (items (textWith test)) := by
  intro v h
  cases v with
  | arr items =>
    intro w hw
    have hitem := List.all_eq_true.mp h w hw
    cases w with
    | str s => trivial
    | null | bool b | int n | float text | arr items | obj members => cases hitem
  | null | bool b | int n | float text | str s | obj members => cases h

/-- An array of texts, of which more than one thing is asked. -/
theorem flat_items_both {test : String → Bool} {s : Json.Schema} :
    Flat (items (both s (textWith test))) := by
  intro v h
  cases v with
  | arr items =>
    refine flat_items (.arr items) (?_ : (Schema.items (textWith test)).accepts _ = true)
    exact List.all_eq_true.mpr fun w hw =>
      (Bool.and_eq_true_iff.mp (List.all_eq_true.mp h w hw)).2
  | null | bool b | int n | float text | str s | obj members => cases h

/-- What a record accepts is regular where its members' schemas are flat. -/
theorem regular_of_record {schemas : List (String × Json.Schema)} {optional : List String}
    (hflat : ∀ p ∈ schemas, Flat p.2) (hunique : v.unique = true)
    (h : (record schemas optional).accepts v = true) : Regular 2 v := by
  have hall := List.all_eq_true.mp h
  have hobject := hall isObject (by simp)
  have hclosed := hall (closed (schemas.map (·.1))) (by simp)
  have hproperties := properties_of_record h
  cases v with
  | obj members =>
    intro m hm
    have hlook : members.lookup m.1 = some m.2 :=
      lookup_of_mem (unique_obj.mp hunique).1 hm
    have hname : m.1 ∈ schemas.map (·.1) := by simpa using List.all_eq_true.mp hclosed m hm
    obtain ⟨p, hp, hpname⟩ := List.mem_map.mp hname
    apply hflat p hp
    exact accepts_member hproperties p.1 p.2 hp (hpname ▸ hlook)
  | null | bool b | int n | float text | str s | arr items => cases hobject

end Schema

end Json
