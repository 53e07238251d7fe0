import Mathlib
import Quinte.Framework.Json

/-! # Looking into JSON values

    What a program asks of a JSON value: a member by its name, and the value
    as one of a given kind.  The members of an object have different names.
-/

namespace Json

/-- The member with this name of an object. -/
def get (v : Json) (name : String) : Option Json :=
  match v with
  | .obj members => members.lookup name
  | _ => none

def asStr : Json → Option String
  | .str s => some s
  | _ => none

/-- A natural number. -/
def asNat : Json → Option Nat
  | .int (.ofNat n) => some n
  | _ => none

def asBool : Json → Option Bool
  | .bool b => some b
  | _ => none

def asArr : Json → Option (List Json)
  | .arr items => some items
  | _ => none

def isNull : Json → Bool
  | .null => true
  | _ => false

def isObject : Json → Bool
  | .obj _ => true
  | _ => false

/-- Put a member into an object, in place of the one with its name. -/
def set (v : Json) (name : String) (member : Json) : Json :=
  match v with
  | .obj members =>
      if (members.lookup name).isSome then
        .obj (members.map fun m => if m.1 = name then (name, member) else m)
      else .obj (members ++ [(name, member)])
  | v => v

@[simp] theorem get_obj (members : List (String × Json)) (name : String) :
    get (.obj members) name = members.lookup name := rfl

/-! ### Members that were put -/

theorem isObject_set {v : Json} (h : v.isObject = true) (name : String) (member : Json) :
    (v.set name member).isObject = true := by
  cases v with
  | obj members =>
    unfold set
    dsimp only
    split <;> rfl
  | _ => cases h

theorem lookup_map_replace (members : List (String × Json)) (name other : String) (member : Json) :
    (members.map fun m => if m.1 = name then (name, member) else m).lookup other
      = if other = name then (members.lookup name).map fun _ => member
        else members.lookup other := by
  induction members with
  | nil => simp
  | cons m members ih =>
    obtain ⟨key, value⟩ := m
    rw [List.map_cons, List.lookup_cons, List.lookup_cons, List.lookup_cons]
    by_cases hkey : key = name
    · subst hkey
      by_cases hother : other = key
      · subst hother
        simp
      · have hne : (other == key) = false := beq_false_of_ne hother
        simp only [if_true, hne, ih, if_neg hother]
    · by_cases hother : other = name
      · subst hother
        have hne : (other == key) = false := beq_false_of_ne (Ne.symm hkey)
        simp only [if_neg hkey, hne, ih, if_true]
      · simp only [if_neg hkey, ih, if_neg hother]

theorem get_set_self {v : Json} (h : v.isObject = true) (name : String) (member : Json) :
    (v.set name member).get name = some member := by
  cases v with
  | obj members =>
    unfold set
    dsimp only
    split
    case isTrue hthere =>
      obtain ⟨old, hold⟩ := Option.isSome_iff_exists.mp hthere
      rw [get_obj, lookup_map_replace, if_pos rfl, hold]
      rfl
    case isFalse hnot =>
      have hnone : members.lookup name = none := Option.not_isSome_iff_eq_none.mp hnot
      rw [get_obj, List.lookup_append, hnone]
      simp
  | _ => cases h

theorem get_set_ne {v : Json} {name other : String} (hne : other ≠ name) (member : Json) :
    (v.set name member).get other = v.get other := by
  cases v with
  | obj members =>
    unfold set
    dsimp only
    split
    · rw [get_obj, lookup_map_replace, if_neg hne]
      rfl
    · rw [get_obj, get_obj, List.lookup_append]
      have hnone : [(name, member)].lookup other = none := by
        simp [List.lookup_cons, beq_false_of_ne hne]
      rw [hnone, Option.or_none]
  | _ => rfl

end Json
