import Mathlib
import Quinte.Framework.Json

/-! # JSON schemas

    A `Schema` is what a schema accepts, which never depends on the order of
    the members of an object.  Below are the keywords the schemas at hand are
    made of; a keyword about one kind of value accepts every other kind, as
    `properties` does with what is not an object.
-/

namespace Json

structure Schema where
  accepts : Json → Bool
  accepts_sorted : ∀ v, v.unique = true → accepts v.sorted = accepts v

namespace Schema

/-! ### Values -/

def anything : Schema where
  accepts _ := true
  accepts_sorted _ _ := rfl

/-- `"type": "null"`. -/
def null : Schema where
  accepts
    | .null => true
    | _ => false
  accepts_sorted v _ := by cases v <;> simp [sorted_arr, sorted_obj]

/-- `"type": "object"`. -/
def isObject : Schema where
  accepts
    | .obj _ => true
    | _ => false
  accepts_sorted v _ := by cases v <;> simp [sorted_arr, sorted_obj]

/-- `"type": "string"` with a test, such as a pattern. -/
def textWith (test : String → Bool) : Schema where
  accepts
    | .str s => test s
    | _ => false
  accepts_sorted v _ := by cases v <;> simp [sorted_arr, sorted_obj]

/-- `"type": "string"`. -/
def text : Schema := textWith fun _ => true

/-- `"type": "string", "minLength": 1`. -/
def nonempty : Schema := textWith fun s => s != ""

/-- `"enum"` of texts; `"const"` for a single one. -/
def oneOfTexts (texts : List String) : Schema := textWith texts.contains

/-- `"const"` of a number. -/
def number (n : Int) : Schema where
  accepts
    | .int m => m == n
    | _ => false
  accepts_sorted v _ := by cases v <;> simp [sorted_arr, sorted_obj]

/-- `"const"` of a truth value. -/
def truth (b : Bool) : Schema where
  accepts
    | .bool c => c == b
    | _ => false
  accepts_sorted v _ := by cases v <;> simp [sorted_arr, sorted_obj]

/-- `"type": "integer"` with its bounds. -/
def integer (low : Int) (high : Option Int) : Schema where
  accepts
    | .int n => low ≤ n && high.all (n ≤ ·)
    | _ => false
  accepts_sorted v _ := by cases v <;> simp [sorted_arr, sorted_obj]

/-! ### Combinations -/

def both (s t : Schema) : Schema where
  accepts v := s.accepts v && t.accepts v
  accepts_sorted v h := by rw [s.accepts_sorted v h, t.accepts_sorted v h]

/-- `"allOf"`. -/
def allOf (schemas : List Schema) : Schema where
  accepts v := schemas.all fun s => s.accepts v
  accepts_sorted v h := by
    refine List.all_congr rfl fun s => s.accepts_sorted v h

/-- `"oneOf"`: no fewer and no more. -/
def oneOf (schemas : List Schema) : Schema where
  accepts v := schemas.countP (fun s => s.accepts v) == 1
  accepts_sorted v h := by
    simp only [Schema.accepts_sorted _ v h]

theorem oneOf_pair (s t : Schema) (v : Json) :
    (oneOf [s, t]).accepts v = (s.accepts v != t.accepts v) := by
  cases hs : s.accepts v <;> cases ht : t.accepts v <;> simp [oneOf, hs, ht]

theorem oneOf_triple (s t u : Schema) (v : Json) :
    (oneOf [s, t, u]).accepts v
      = (s.accepts v && !t.accepts v && !u.accepts v || !s.accepts v && t.accepts v && !u.accepts v
        || !s.accepts v && !t.accepts v && u.accepts v) := by
  cases hs : s.accepts v <;> cases ht : t.accepts v <;> cases hu : u.accepts v <;>
    simp [oneOf, hs, ht, hu]

/-- `"if"`, `"then"` and `"else"`. -/
def ifElse (condition yes no : Schema) : Schema where
  accepts v := if condition.accepts v then yes.accepts v else no.accepts v
  accepts_sorted v h := by
    rw [condition.accepts_sorted v h, yes.accepts_sorted v h, no.accepts_sorted v h]

/-- `"if"` and `"then"`. -/
def ifThen (condition yes : Schema) : Schema := ifElse condition yes anything

/-- `"oneOf"` of null and a schema that does not accept it. -/
def orNull (s : Schema) : Schema := oneOf [null, s]

/-! ### Arrays -/

theorem all_eq_all {α : Type} {l : List α} {p q : α → Bool} (h : ∀ a ∈ l, p a = q a) :
    l.all p = l.all q := by
  induction l with
  | nil => rfl
  | cons a l ih =>
    obtain ⟨ha, hl⟩ := List.forall_mem_cons.mp h
    rw [List.all_cons, List.all_cons, ha, ih hl]

/-- `"type": "array"` and `"items"`. -/
def items (s : Schema) : Schema where
  accepts
    | .arr vs => vs.all s.accepts
    | _ => false
  accepts_sorted v h := by
    cases v with
    | arr vs =>
      have hvs := unique_arr.mp h
      simp only [sorted_arr, List.all_map]
      exact all_eq_all fun w hw => s.accepts_sorted w (hvs w hw)
    | obj ms => simp [sorted_obj]
    | null | bool b | int n | float text | str s => rfl

/-- `"minItems"` and `"maxItems"`. -/
def count (low : Nat) (high : Option Nat) : Schema where
  accepts
    | .arr vs => low ≤ vs.length && high.all (vs.length ≤ ·)
    | _ => true
  accepts_sorted v _ := by cases v <;> simp [sorted_arr, sorted_obj]

/-- `"uniqueItems"`: the order of members is no difference. -/
def uniqueItems : Schema where
  accepts
    | .arr vs => (vs.map sorted).Nodup
    | _ => true
  accepts_sorted v _ := by
    cases v with
    | arr vs => simp only [sorted_arr, List.map_map, Function.comp_def, sorted_sorted]
    | obj ms => simp [sorted_obj]
    | null | bool b | int n | float text | str s => rfl

/-- `"prefixItems"` with no further items. -/
def tuple (schemas : List Schema) : Schema where
  accepts
    | .arr vs => vs.length ≤ schemas.length && (vs.zip schemas).all fun p => p.2.accepts p.1
    | _ => true
  accepts_sorted v h := by
    cases v with
    | arr vs =>
      have hvs := unique_arr.mp h
      have hzip : ((vs.map sorted).zip schemas) = (vs.zip schemas).map fun p => (p.1.sorted, p.2) :=
        List.zip_map_left ..
      simp only [sorted_arr, List.length_map, hzip, List.all_map]
      exact congrArg _ (all_eq_all fun p hp => p.2.accepts_sorted _ (hvs _ (List.of_mem_zip hp).1))
    | obj ms => simp [sorted_obj]
    | null | bool b | int n | float text | str s => rfl

/-! ### Objects -/

/-- `"required"`. -/
def required (names : List String) : Schema where
  accepts
    | .obj ms => names.all fun name => (ms.lookup name).isSome
    | _ => true
  accepts_sorted v h := by
    cases v with
    | obj ms => simp only [sorted_obj, lookup_sorted (unique_obj.mp h).1, Option.isSome_map]
    | arr vs => simp [sorted_arr]
    | null | bool b | int n | float text | str s => rfl

theorem unique_of_lookup {ms : List (String × Json)} (h : ∀ m ∈ ms, m.2.unique = true)
    {name : String} {v : Json} (hv : ms.lookup name = some v) : v.unique = true := by
  obtain ⟨l, r, rfl, -⟩ := List.lookup_eq_some_iff.mp hv
  exact h (name, v) (by simp)

/-- `"properties"`. -/
def properties (schemas : List (String × Schema)) : Schema where
  accepts
    | .obj ms => schemas.all fun p => (ms.lookup p.1).all p.2.accepts
    | _ => true
  accepts_sorted v h := by
    cases v with
    | obj ms =>
      obtain ⟨hnames, hvalues⟩ := unique_obj.mp h
      simp only [sorted_obj]
      refine List.all_congr rfl fun p => ?_
      rw [lookup_sorted hnames]
      cases hlook : ms.lookup p.1 with
      | none => rfl
      | some v => exact p.2.accepts_sorted v (unique_of_lookup hvalues hlook)
    | arr vs => simp [sorted_arr]
    | null | bool b | int n | float text | str s => rfl

/-- `"additionalProperties": false`. -/
def closed (names : List String) : Schema where
  accepts
    | .obj ms => ms.all fun m => names.contains m.1
    | _ => true
  accepts_sorted v _ := by
    cases v with
    | obj ms =>
      simp only [sorted_obj, (perm_sortedMembers ms).all_eq, List.all_map]
      rfl
    | arr vs => simp [sorted_arr]
    | null | bool b | int n | float text | str s => rfl

/-- `"additionalProperties"` where there are no others. -/
def values (s : Schema) : Schema where
  accepts
    | .obj ms => ms.all fun m => s.accepts m.2
    | _ => true
  accepts_sorted v h := by
    cases v with
    | obj ms =>
      have hvalues := (unique_obj.mp h).2
      simp only [sorted_obj, (perm_sortedMembers ms).all_eq, List.all_map]
      exact all_eq_all fun m hm => s.accepts_sorted _ (hvalues m hm)
    | arr vs => simp [sorted_arr]
    | null | bool b | int n | float text | str s => rfl

/-- An object with these members, of which all but the optional ones must be
    there, and no others. -/
def record (schemas : List (String × Schema)) (optional : List String) : Schema :=
  allOf [isObject, required ((schemas.map (·.1)).filter (!optional.contains ·)),
    closed (schemas.map (·.1)), properties schemas]

/-- What is asked of a member. -/
theorem accepts_member {schemas : List (String × Schema)} {members : List (String × Json)}
    (h : (properties schemas).accepts (.obj members) = true) (name : String) (s : Schema) {v : Json}
    (hschema : (name, s) ∈ schemas) (hv : members.lookup name = some v) : s.accepts v = true := by
  have hmember := List.all_eq_true.mp h _ hschema
  rwa [hv] at hmember

theorem properties_of_record {schemas : List (String × Schema)} {optional : List String} {v : Json}
    (h : (record schemas optional).accepts v = true) : (properties schemas).accepts v = true :=
  List.all_eq_true.mp h _ (by simp)

end Schema

end Json
