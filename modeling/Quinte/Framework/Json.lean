import Mathlib

/-! # JSON values

    A `Json` is what a reader finds in a text: the members of an object in
    their order, repeated names and all.  `sorted` puts the members of every
    object into the order of their names, as a map that is kept sorted does.

    * `sorted_sorted`, `perm_sortedMembers`: sorting is a normal form, and
      keeps the members;
    * `lookup_sorted`: where no name is repeated, a member is found under its
      name in either order.
-/

/-- A JSON value. A `float` is a number that is not a 64-bit integer, by the
    text it is printed as. -/
inductive Json where
  | null
  | bool (b : Bool)
  | int (n : Int)
  | float (text : String)
  | str (s : String)
  | arr (items : List Json)
  | obj (members : List (String × Json))
  deriving Inhabited, Repr

namespace Json

/-- Induction on values: the items and the members come first. -/
@[elab_as_elim, induction_eliminator]
theorem ind {motive : Json → Prop} (null : motive .null) (bool : ∀ b, motive (.bool b))
    (int : ∀ n, motive (.int n)) (float : ∀ text, motive (.float text))
    (str : ∀ s, motive (.str s)) (arr : ∀ items, (∀ v ∈ items, motive v) → motive (.arr items))
    (obj : ∀ members, (∀ m ∈ members, motive m.2) → motive (.obj members)) (v : Json) :
    motive v :=
  Json.rec (motive_1 := motive) (motive_2 := fun items => ∀ v ∈ items, motive v)
    (motive_3 := fun members => ∀ m ∈ members, motive m.2) (motive_4 := fun m => motive m.2)
    null bool int float str arr obj (fun _ h => (nomatch h))
    (fun _ _ hv hvs => List.forall_mem_cons.mpr ⟨hv, hvs⟩) (fun _ h => (nomatch h))
    (fun _ _ hm hms => List.forall_mem_cons.mpr ⟨hm, hms⟩) (fun _ _ hv => hv) v

/-! ### Equality -/

mutual

def decEq : (v w : Json) → Decidable (v = w)
  | .null, .null => isTrue rfl
  | .bool a, .bool b => decidable_of_iff (a = b) (by simp)
  | .int a, .int b => decidable_of_iff (a = b) (by simp)
  | .float a, .float b => decidable_of_iff (a = b) (by simp)
  | .str a, .str b => decidable_of_iff (a = b) (by simp)
  | .arr a, .arr b =>
      match decEqItems a b with
      | isTrue h => isTrue (congrArg _ h)
      | isFalse h => isFalse fun h' => h (Json.arr.inj h')
  | .obj a, .obj b =>
      match decEqMembers a b with
      | isTrue h => isTrue (congrArg _ h)
      | isFalse h => isFalse fun h' => h (Json.obj.inj h')
  | .null, .bool _ | .null, .int _ | .null, .float _ | .null, .str _ | .null, .arr _
  | .null, .obj _ | .bool _, .null | .bool _, .int _ | .bool _, .float _ | .bool _, .str _
  | .bool _, .arr _ | .bool _, .obj _ | .int _, .null | .int _, .bool _ | .int _, .float _
  | .int _, .str _ | .int _, .arr _ | .int _, .obj _ | .float _, .null | .float _, .bool _
  | .float _, .int _ | .float _, .str _ | .float _, .arr _ | .float _, .obj _ | .str _, .null
  | .str _, .bool _ | .str _, .int _ | .str _, .float _ | .str _, .arr _ | .str _, .obj _
  | .arr _, .null | .arr _, .bool _ | .arr _, .int _ | .arr _, .float _ | .arr _, .str _
  | .arr _, .obj _ | .obj _, .null | .obj _, .bool _ | .obj _, .int _ | .obj _, .float _
  | .obj _, .str _ | .obj _, .arr _ => isFalse nofun

def decEqItems : (a b : List Json) → Decidable (a = b)
  | [], [] => isTrue rfl
  | [], _ :: _ | _ :: _, [] => isFalse nofun
  | v :: a, w :: b =>
      match decEq v w with
      | isFalse h => isFalse fun h' => h (List.cons.inj h').1
      | isTrue h =>
        match decEqItems a b with
        | isFalse h' => isFalse fun h'' => h' (List.cons.inj h'').2
        | isTrue h' => isTrue (by rw [h, h'])

def decEqMembers : (a b : List (String × Json)) → Decidable (a = b)
  | [], [] => isTrue rfl
  | [], _ :: _ | _ :: _, [] => isFalse nofun
  | (k, v) :: a, (l, w) :: b =>
      if hk : k = l then
        match decEq v w with
        | isFalse h => isFalse fun h' => h (Prod.mk.inj (List.cons.inj h').1).2
        | isTrue h =>
          match decEqMembers a b with
          | isFalse h' => isFalse fun h'' => h' (List.cons.inj h'').2
          | isTrue h' => isTrue (by rw [hk, h, h'])
      else isFalse fun h' => hk (Prod.mk.inj (List.cons.inj h').1).1

end

instance : DecidableEq Json := decEq

/-! ### Sorted members -/

/-- Members by name. -/
def byName (a b : String × Json) : Prop := a.1 ≤ b.1

instance : DecidableRel byName := fun a b => inferInstanceAs (Decidable (a.1 ≤ b.1))

instance : Std.Total byName := ⟨fun a b => le_total a.1 b.1⟩

instance : IsTrans (String × Json) byName := ⟨fun _ _ _ => le_trans⟩

mutual

/-- The members of every object in the order of their names. -/
def sorted : Json → Json
  | .arr items => .arr (sortedItems items)
  | .obj members => .obj ((sortedMembers members).insertionSort byName)
  | .null => .null
  | .bool b => .bool b
  | .int n => .int n
  | .float text => .float text
  | .str s => .str s

def sortedItems : List Json → List Json
  | [] => []
  | v :: vs => v.sorted :: sortedItems vs

def sortedMembers : List (String × Json) → List (String × Json)
  | [] => []
  | (k, v) :: ms => (k, v.sorted) :: sortedMembers ms

end

theorem sortedItems_eq (items : List Json) : sortedItems items = items.map sorted := by
  induction items with
  | nil => rfl
  | cons v vs ih => rw [sortedItems, ih, List.map_cons]

theorem sortedMembers_eq (members : List (String × Json)) :
    sortedMembers members = members.map fun m => (m.1, m.2.sorted) := by
  induction members with
  | nil => rfl
  | cons m ms ih => rw [sortedMembers, ih, List.map_cons]

@[simp] theorem sorted_null : sorted .null = .null := rfl
@[simp] theorem sorted_bool (b : Bool) : sorted (.bool b) = .bool b := rfl
@[simp] theorem sorted_int (n : Int) : sorted (.int n) = .int n := rfl
@[simp] theorem sorted_float (text : String) : sorted (.float text) = .float text := rfl
@[simp] theorem sorted_str (s : String) : sorted (.str s) = .str s := rfl

theorem sorted_arr (items : List Json) : sorted (.arr items) = .arr (items.map sorted) := by
  rw [sorted, sortedItems_eq]

theorem sorted_obj (members : List (String × Json)) :
    sorted (.obj members)
      = .obj ((members.map fun m => (m.1, m.2.sorted)).insertionSort byName) := by
  rw [sorted, sortedMembers_eq]

theorem perm_sortedMembers (members : List (String × Json)) :
    ((members.map fun m => (m.1, m.2.sorted)).insertionSort byName).Perm
      (members.map fun m => (m.1, m.2.sorted)) :=
  List.perm_insertionSort ..

/-- Sorting is a normal form. -/
@[simp] theorem sorted_sorted (v : Json) : v.sorted.sorted = v.sorted := by
  induction v with
  | null | bool b | int n | float text | str s => rfl
  | arr items ih =>
    rw [sorted_arr, sorted_arr, List.map_map]
    exact congrArg Json.arr (List.map_congr_left ih)
  | obj members ih =>
    have hsame : ∀ m ∈ (members.map fun m => (m.1, m.2.sorted)).insertionSort byName,
        (m.1, m.2.sorted) = m := by
      intro m hm
      obtain ⟨m', hm', rfl⟩ := List.mem_map.mp ((perm_sortedMembers members).mem_iff.mp hm)
      exact Prod.ext rfl (ih m' hm')
    rw [sorted_obj, sorted_obj, List.map_congr_left hsame, List.map_id']
    exact congrArg Json.obj (List.Pairwise.insertionSort_eq (List.pairwise_insertionSort _ _))

/-- Where no name is repeated, each member is the one that is found. -/
theorem lookup_of_mem {α : Type} {members : List (String × α)} {name : String} {v : α}
    (hnodup : (members.map (·.1)).Nodup) (hmem : (name, v) ∈ members) :
    members.lookup name = some v := by
  induction members with
  | nil => exact nomatch hmem
  | cons m members ih =>
    obtain ⟨hfresh, hnodup⟩ := List.nodup_cons.mp hnodup
    rcases List.mem_cons.mp hmem with rfl | hlater
    · exact List.lookup_cons_self
    · have hne : name ≠ m.1 := by
        rintro rfl
        exact hfresh (List.mem_map.mpr ⟨_, hlater, rfl⟩)
      rw [List.lookup_cons, beq_eq_false_iff_ne.mpr hne]
      exact ih hnodup hlater

theorem mem_of_lookup {α : Type} {members : List (String × α)} {name : String} {v : α}
    (h : members.lookup name = some v) : (name, v) ∈ members := by
  obtain ⟨before, after, rfl, -⟩ := List.lookup_eq_some_iff.mp h
  simp

/-- Where names are not repeated, the order of the members does not matter. -/
theorem lookup_eq_of_perm {ms ms' : List (String × Json)} (h : ms.Perm ms')
    (hnodup : (ms.map (·.1)).Nodup) (name : String) : ms.lookup name = ms'.lookup name := by
  have hnodup' : (ms'.map (·.1)).Nodup := (h.map _).nodup_iff.mp hnodup
  refine Option.ext fun v => ⟨fun hv => ?_, fun hv => ?_⟩
  · exact lookup_of_mem hnodup' (h.mem_iff.mp (mem_of_lookup hv))
  · exact lookup_of_mem hnodup (h.mem_iff.mpr (mem_of_lookup hv))

/-! ### Numbers that are not integers -/

mutual

/-- The texts of the numbers that are not 64-bit integers. -/
def floats : Json → List String
  | .float text => [text]
  | .arr items => floatsOfItems items
  | .obj members => floatsOfMembers members
  | .null | .bool _ | .int _ | .str _ => []

def floatsOfItems : List Json → List String
  | [] => []
  | v :: vs => v.floats ++ floatsOfItems vs

def floatsOfMembers : List (String × Json) → List String
  | [] => []
  | (_, v) :: ms => v.floats ++ floatsOfMembers ms

end

theorem floats_arr (items : List Json) : floats (.arr items) = items.flatMap floats := by
  rw [floats]
  induction items with
  | nil => rfl
  | cons v vs ih => rw [floatsOfItems, ih, List.flatMap_cons]

theorem floats_obj (members : List (String × Json)) :
    floats (.obj members) = members.flatMap fun m => m.2.floats := by
  rw [floats]
  induction members with
  | nil => rfl
  | cons m ms ih => rw [floatsOfMembers, ih, List.flatMap_cons]

/-! ### Repeated names -/

mutual

/-- No object names a member twice. -/
def unique : Json → Bool
  | .arr items => uniqueItems items
  | .obj members => (members.map (·.1)).Nodup && uniqueMembers members
  | .null | .bool _ | .int _ | .float _ | .str _ => true

def uniqueItems : List Json → Bool
  | [] => true
  | v :: vs => v.unique && uniqueItems vs

def uniqueMembers : List (String × Json) → Bool
  | [] => true
  | (_, v) :: ms => v.unique && uniqueMembers ms

end

theorem unique_arr {items : List Json} :
    unique (.arr items) = true ↔ ∀ v ∈ items, v.unique = true := by
  rw [unique]
  induction items with
  | nil => simp [uniqueItems]
  | cons v vs ih => rw [uniqueItems, Bool.and_eq_true, ih, List.forall_mem_cons]

theorem unique_obj {members : List (String × Json)} :
    unique (.obj members) = true ↔
      (members.map (·.1)).Nodup ∧ ∀ m ∈ members, m.2.unique = true := by
  have hmembers : ∀ ms, uniqueMembers ms = true ↔ ∀ m ∈ ms, m.2.unique = true := fun ms => by
    induction ms with
    | nil => simp [uniqueMembers]
    | cons m ms ih => rw [uniqueMembers, Bool.and_eq_true, ih, List.forall_mem_cons]
  rw [unique, Bool.and_eq_true, decide_eq_true_eq, hmembers]

theorem unique_sorted {v : Json} (h : v.unique = true) : v.sorted.unique = true := by
  induction v with
  | null | bool b | int n | float text | str s => rfl
  | arr items ih =>
    rw [sorted_arr]
    refine unique_arr.mpr fun w hw => ?_
    obtain ⟨v, hv, rfl⟩ := List.mem_map.mp hw
    exact ih v hv (unique_arr.mp h v hv)
  | obj members ih =>
    obtain ⟨hnames, hvalues⟩ := unique_obj.mp h
    rw [sorted_obj]
    refine unique_obj.mpr ⟨?_, fun w hw => ?_⟩
    · rw [((perm_sortedMembers members).map _).nodup_iff, List.map_map]
      exact hnames
    · obtain ⟨m, hm, rfl⟩ := List.mem_map.mp ((perm_sortedMembers members).mem_iff.mp hw)
      exact ih m hm (hvalues m hm)

/-- Members, sorted, are found as before. -/
theorem lookup_sorted {members : List (String × Json)} (h : (members.map (·.1)).Nodup)
    (name : String) :
    ((members.map fun m => (m.1, m.2.sorted)).insertionSort byName).lookup name
      = (members.lookup name).map sorted := by
  have hnames : ((members.map fun m => (m.1, m.2.sorted)).map (·.1)).Nodup := by
    rwa [List.map_map]
  rw [← lookup_eq_of_perm (perm_sortedMembers members).symm hnames]
  clear hnames h
  induction members with
  | nil => rfl
  | cons m ms ih =>
    rw [List.map_cons, List.lookup_cons, List.lookup_cons, ih]
    cases name == m.1 <;> rfl

end Json
