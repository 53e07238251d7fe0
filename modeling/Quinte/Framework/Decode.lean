import Mathlib
import Quinte.Framework.JsonAccess

/-! # Reading typed values

    A `Decoder α` reads an `α` off a JSON value.  A record is read from an
    object of its members, no others, or from an array of their values in the
    order of the names; either way it is a function from names to values
    (`fields`).  A member may be required, or have a default where it is
    missing; an optional value may be null.

    * `fields_obj`, `defaulted_some`, …: what a reader makes of what is there.
-/

namespace Json

abbrev Decoder (α : Type) := Json → Option α

namespace Decoder

variable {α : Type}

def string : Decoder String := asStr

def bool : Decoder Bool
  | .bool b => some b
  | _ => none

/-- An unsigned 64-bit integer. -/
def uint64 : Decoder Nat
  | .int n => if 0 ≤ n ∧ n < 2 ^ 64 then some n.toNat else none
  | _ => none

def list (dec : Decoder α) : Decoder (List α)
  | .arr items => items.mapM dec
  | _ => none

/-- A value, or a null for none. -/
def option (dec : Decoder α) : Decoder (Option α)
  | .null => some none
  | v => (dec v).map some

/-- A value out of a list, by its name or by an object that has the name with a
    null. -/
def variant (all : List α) (name : α → String) : Decoder α
  | .str s => all.find? fun a => name a = s
  | .obj [(s, .null)] => all.find? fun a => name a = s
  | _ => none

/-! ### Records -/

/-- The members of a record with these names. -/
def fields (names : List String) : Decoder (String → Option Json)
  | .obj members =>
      if members.all fun m => names.contains m.1 then some fun name => members.lookup name
      else none
  | .arr items =>
      if items.length ≤ names.length then some fun name => items[names.idxOf name]? else none
  | _ => none

/-- A member that must be there. -/
def required (look : String → Option Json) (name : String) (dec : Decoder α) : Option α :=
  (look name).bind dec

/-- A member that has a default. -/
def defaulted (look : String → Option Json) (name : String) (dec : Decoder α) (value : α) :
    Option α :=
  match look name with
  | none => some value
  | some v => dec v

theorem fields_obj {names : List String} {members : List (String × Json)}
    {look : String → Option Json} (h : fields names (.obj members) = some look) (name : String) :
    look name = get (.obj members) name := by
  simp only [fields] at h
  split at h
  · exact congrFun (Option.some.inj h).symm name
  · exact nomatch h

theorem defaulted_some {look : String → Option Json} {name : String} {dec : Decoder α}
    {value : α} {v : Json} (h : look name = some v) : defaulted look name dec value = dec v := by
  rw [defaulted, h]

end Decoder

end Json
