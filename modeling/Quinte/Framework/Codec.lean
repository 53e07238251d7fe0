import Mathlib
import Quinte.Framework.JsonText

/-! # Typed JSON

    A `Codec α` writes an `α` as a JSON value and reads it back, whatever order
    the members come in.  `Fields` are the members of a record, put together
    one by one under the record's constructor: `required`, `nullable` (a null
    for `none`), `skippable` and `absent` (no member for `none`), `flatten`
    (the members of a component).  A record may also be read from an array of
    its fields, and a value out of a list from an object with its name.

    * `Codec.record`: members with different names make a codec, which refuses
      every other member;
    * `Codec.enc_injective`.
-/

namespace Json

/-- How an `α` is written and read. What is written names no member twice, and
    nests no deeper than `depth`. -/
structure Codec (α : Type) where
  enc : α → Json
  dec : Json → Option α
  depth : Nat
  dec_enc : ∀ a, dec (enc a).sorted = some a
  regular : ∀ a, Regular depth (enc a)
  unique : ∀ a, (enc a).unique = true

namespace Codec

variable {α β : Type}

/-- **What is written tells values apart**, also by its sorted form. -/
theorem enc_injective (C : Codec α) {a b : α} (h : (C.enc a).sorted = (C.enc b).sorted) :
    a = b := by
  have hread := C.dec_enc a
  rw [h, C.dec_enc b] at hread
  exact (Option.some.inj hread).symm

/-! ### Simple values -/

def string : Codec String where
  enc := .str
  dec
    | .str s => some s
    | _ => none
  depth := 0
  dec_enc _ := rfl
  regular _ := trivial
  unique _ := rfl

def bool : Codec Bool where
  enc := .bool
  dec
    | .bool b => some b
    | _ => none
  depth := 0
  dec_enc _ := rfl
  regular _ := trivial
  unique _ := rfl

/-- An unsigned 64-bit integer is read back. -/
theorem uint64_read (n : UInt64) :
    (if 0 ≤ (n.toNat : Int) ∧ (n.toNat : Int) < 2 ^ 64 then some (UInt64.ofNat (n.toNat : Int).toNat)
      else none) = some n := by
  have hlt := n.toNat_lt
  rw [if_pos (by omega), Int.toNat_natCast, UInt64.ofNat_toNat]

theorem uint64_regular (n : UInt64) : Regular 0 (.int n.toNat) := by
  have hlt := n.toNat_lt
  simp only [Regular]
  omega

theorem uint64_unique (n : UInt64) : (Json.int n.toNat).unique = true := rfl

/-- An unsigned 64-bit integer. -/
def uint64 : Codec UInt64 where
  enc n := .int n.toNat
  dec
    | .int n => if 0 ≤ n ∧ n < 2 ^ 64 then some (UInt64.ofNat n.toNat) else none
    | _ => none
  depth := 0
  dec_enc := uint64_read
  regular := uint64_regular
  unique := uint64_unique

/-- A value out of a list, by its name; a reader also takes an object in which
    the name has a null. -/
def named (all : List α) (name : α → String)
    (h : ∀ a, all.find? (fun b => name b = name a) = some a) : Codec α where
  enc a := .str (name a)
  dec
    | .str s => all.find? fun b => name b = s
    | .obj [(s, .null)] => all.find? fun b => name b = s
    | _ => none
  depth := 0
  dec_enc a := h a
  regular _ := trivial
  unique _ := rfl

/-- A null, or a value that is not written as one. -/
def nullable (C : Codec α) (h : ∀ a, C.enc a ≠ .null) : Codec (Option α) where
  enc
    | none => .null
    | some a => C.enc a
  dec
    | .null => some none
    | v => (C.dec v).map some
  depth := C.depth
  dec_enc a := by
    cases a with
    | none => rfl
    | some a =>
      have hread := C.dec_enc a
      have hvalue : (C.enc a).sorted ≠ .null := by
        have henc := h a
        cases hv : C.enc a with
        | null => exact absurd hv henc
        | arr items => simp [sorted_arr]
        | obj members => simp [sorted_obj]
        | bool b | int n | float text | str s => simp
      have hmap := congrArg (Option.map some) hread
      cases hv : (C.enc a).sorted with
      | null => exact absurd hv hvalue
      | arr items | obj members | bool b | int n | float text | str s => rwa [hv] at hmap
  regular a := by
    cases a with
    | none => exact Regular.mono (m := 0) trivial (Nat.zero_le _)
    | some a => exact C.regular a
  unique a := by
    cases a with
    | none => rfl
    | some a => exact C.unique a

theorem mapM_dec (C : Codec α) (as : List α) :
    (as.map fun a => (C.enc a).sorted).mapM C.dec = some as := by
  induction as with
  | nil => rfl
  | cons a as ih => simp [C.dec_enc, ih]

def list (C : Codec α) : Codec (List α) where
  enc as := .arr (as.map C.enc)
  dec
    | .arr items => items.mapM C.dec
    | _ => none
  depth := C.depth + 1
  dec_enc as := by
    simp only [sorted_arr, List.map_map]
    exact C.mapM_dec as
  regular as := by
    intro v hv
    obtain ⟨a, -, rfl⟩ := List.mem_map.mp hv
    exact C.regular a
  unique as := by
    refine unique_arr.mpr fun v hv => ?_
    obtain ⟨a, -, rfl⟩ := List.mem_map.mp hv
    exact C.unique a

/-- A pair, as an array. -/
def pair (C : Codec α) (D : Codec β) : Codec (α × β) where
  enc p := .arr [C.enc p.1, D.enc p.2]
  dec
    | .arr [v, w] => do
        let a ← C.dec v
        let b ← D.dec w
        some (a, b)
    | _ => none
  depth := max C.depth D.depth + 1
  dec_enc p := by
    simp only [sorted_arr, List.map_cons, List.map_nil, C.dec_enc, D.dec_enc,
      Option.bind_eq_bind, Option.bind_some]
  regular p := by
    intro v hv
    rcases List.mem_pair.mp hv with rfl | rfl
    · exact (C.regular _).mono (le_max_left ..)
    · exact (D.regular _).mono (le_max_right ..)
  unique p := by
    refine unique_arr.mpr fun v hv => ?_
    rcases List.mem_pair.mp hv with rfl | rfl
    · exact C.unique _
    · exact D.unique _

end Codec

/-! ### Maps -/

/-- Texts by names, in the order of the names. -/
structure StringMap where
  entries : List (String × String)
  ordered : entries.Pairwise (·.1 < ·.1)
  deriving DecidableEq

namespace StringMap

theorem mapM_entries (entries : List (String × String)) :
    (entries.map fun e => (e.1, Json.str e.2)).mapM
      (fun m => match m.2 with
        | .str s => some (m.1, s)
        | _ => none) = some entries := by
  induction entries with
  | nil => rfl
  | cons e es ih => simp [ih]

def codec : Codec StringMap where
  enc m := .obj (m.entries.map fun e => (e.1, .str e.2))
  dec
    | .obj members => do
        let entries ← members.mapM fun m => match m.2 with
          | .str s => some (m.1, s)
          | _ => none
        if h : entries.Pairwise (·.1 < ·.1) then some ⟨entries, h⟩ else none
    | _ => none
  depth := 1
  dec_enc m := by
    have hordered : ((m.entries.map fun e => (e.1, Json.str e.2)).map
        fun e => (e.1, e.2.sorted)).insertionSort byName
        = m.entries.map fun e => (e.1, Json.str e.2) := by
      rw [List.map_map]
      refine List.Pairwise.insertionSort_eq (List.pairwise_map.mpr ?_)
      exact m.ordered.imp fun h => le_of_lt h
    rw [sorted_obj, hordered]
    simp only [mapM_entries, Option.bind_eq_bind, Option.bind_some, m.ordered, dif_pos]
  regular m := by
    intro v hv
    obtain ⟨e, -, rfl⟩ := List.mem_map.mp hv
    trivial
  unique m := by
    refine unique_obj.mpr ⟨?_, fun v hv => ?_⟩
    · rw [List.map_map]
      exact List.pairwise_map.mpr (m.ordered.imp fun h => ne_of_lt h)
    · obtain ⟨e, -, rfl⟩ := List.mem_map.mp hv
      rfl

end StringMap

/-! ### Records -/

/-- The first members of a record `ρ`, with what becomes of their values. `seq`
    reads the values by their places, and returns the values after them. -/
structure Fields (ρ γ : Type) where
  names : List String
  enc : ρ → List (String × Json)
  dec : (String → Option Json) → Option γ
  seq : List Json → Option (γ × List Json)
  proj : ρ → γ
  depth : Nat
  enc_names : ∀ r, ((enc r).map (·.1)).Sublist names
  dec_enc : names.Nodup → ∀ r look,
    (∀ k ∈ names, look k = ((enc r).lookup k).map Json.sorted) → dec look = some (proj r)
  regular : ∀ r, ∀ m ∈ enc r, Regular depth m.2
  unique : ∀ r, ∀ m ∈ enc r, m.2.unique = true

namespace Fields

variable {ρ α γ : Type}

/-- No members yet. -/
def start (ρ : Type) (make : γ) : Fields ρ γ where
  names := []
  enc _ := []
  dec _ := some make
  seq items := some (make, items)
  proj _ := make
  depth := 0
  enc_names _ := List.Sublist.slnil
  dec_enc _ _ _ _ := rfl
  regular _ _ h := nomatch h
  unique _ _ h := nomatch h

/-- A single member: `put` writes it, `take` reads it. -/
def single (name : String) (depth : Nat) (put : α → Option Json)
    (take : Option Json → Option α) (htake : ∀ a, take ((put a).map Json.sorted) = some a)
    (hregular : ∀ a, ∀ v ∈ put a, Regular depth v)
    (hunique : ∀ a, ∀ v ∈ put a, v.unique = true) : Fields α α where
  names := [name]
  enc a := ((put a).map fun v => (name, v)).toList
  dec look := take (look name)
  seq
    | v :: items => (take (some v)).map fun a => (a, items)
    | [] => none
  proj a := a
  depth := depth
  enc_names a := by
    cases put a with
    | none => exact List.nil_sublist _
    | some v => exact List.Sublist.refl _
  dec_enc _ a look hlook := by
    have hname : look name = (put a).map Json.sorted := by
      rw [hlook name (List.mem_singleton_self _)]
      cases put a with
      | none => rfl
      | some v => simp
    rw [hname, htake]
  regular a m hm := by
    obtain ⟨v, hv, rfl⟩ := Option.map_eq_some_iff.mp (Option.mem_toList.mp hm)
    exact hregular _ v hv
  unique a m hm := by
    obtain ⟨v, hv, rfl⟩ := Option.map_eq_some_iff.mp (Option.mem_toList.mp hm)
    exact hunique _ v hv

/-- The members of one more component, among those of the record itself. -/
def flatten {δ : Type} (f : Fields ρ (δ → γ)) (g : Fields α δ) (get : ρ → α) : Fields ρ γ where
  names := f.names ++ g.names
  enc r := f.enc r ++ g.enc (get r)
  dec look := do
    let make ← f.dec look
    let a ← g.dec look
    some (make a)
  seq items := do
    let (make, items) ← f.seq items
    let (a, items) ← g.seq items
    some (make a, items)
  proj r := f.proj r (g.proj (get r))
  depth := max f.depth g.depth
  enc_names r := by
    rw [List.map_append]
    exact (f.enc_names r).append (g.enc_names (get r))
  dec_enc hnodup r look hlook := by
    obtain ⟨hf, hg, hfresh⟩ := List.nodup_append.mp hnodup
    have hold : ∀ k ∈ f.names, look k = ((f.enc r).lookup k).map Json.sorted := by
      intro k hk
      have hother : (g.enc (get r)).lookup k = none := by
        refine List.lookup_eq_none_iff.mpr fun m hm => bne_iff_ne.mpr fun heq => ?_
        have hmem : m.1 ∈ g.names := (g.enc_names _).subset (List.mem_map_of_mem hm)
        exact hfresh k hk m.1 hmem heq
      rw [hlook k (List.mem_append_left _ hk), List.lookup_append, hother, Option.or_none]
    have hnew : ∀ k ∈ g.names, look k = ((g.enc (get r)).lookup k).map Json.sorted := by
      intro k hk
      have hother : (f.enc r).lookup k = none := by
        refine List.lookup_eq_none_iff.mpr fun m hm => bne_iff_ne.mpr fun heq => ?_
        have hmem : m.1 ∈ f.names := (f.enc_names _).subset (List.mem_map_of_mem hm)
        exact hfresh m.1 hmem k hk heq.symm
      rw [hlook k (List.mem_append_right _ hk), List.lookup_append, hother, Option.none_or]
    rw [f.dec_enc hf r look hold, g.dec_enc hg (get r) look hnew]
    rfl
  regular r m hm := by
    rcases List.mem_append.mp hm with hm | hm
    · exact (f.regular r m hm).mono (le_max_left ..)
    · exact (g.regular _ m hm).mono (le_max_right ..)
  unique r m hm := by
    rcases List.mem_append.mp hm with hm | hm
    · exact f.unique r m hm
    · exact g.unique _ m hm

/-- One of several kinds of content, each under the tag of its kind. -/
def tagged (tag content : String) (hne : tag ≠ content) (depth : Nat) (put : α → String × Json)
    (take : String → Json → Option α) (htake : ∀ a, take (put a).1 (put a).2.sorted = some a)
    (hregular : ∀ a, Regular depth (put a).2) (hunique : ∀ a, (put a).2.unique = true) :
    Fields α α where
  names := [tag, content]
  enc a := [(tag, .str (put a).1), (content, (put a).2)]
  dec look := match look tag, look content with
    | some (.str kind), some v => take kind v
    | _, _ => none
  seq _ := none
  proj a := a
  depth := depth
  enc_names a := List.Sublist.refl _
  dec_enc _ a look hlook := by
    have htag : look tag = some (.str (put a).1) := by
      rw [hlook tag (by simp)]
      simp
    have hcontent : look content = some (put a).2.sorted := by
      rw [hlook content (by simp)]
      simp [List.lookup_cons, beq_eq_false_iff_ne.mpr hne.symm]
    rw [htag, hcontent]
    exact htake a
  regular a m hm := by
    rcases List.mem_pair.mp hm with rfl | rfl
    · exact Regular.mono (m := 0) trivial (Nat.zero_le _)
    · exact hregular a
  unique a m hm := by
    rcases List.mem_pair.mp hm with rfl | rfl
    · rfl
    · exact hunique a

/-- One more member: `put` writes it, `take` reads it. -/
def member (f : Fields ρ (α → γ)) (name : String) (depth : Nat) (get : ρ → α)
    (put : α → Option Json) (take : Option Json → Option α)
    (htake : ∀ a, take ((put a).map Json.sorted) = some a)
    (hregular : ∀ a, ∀ v ∈ put a, Regular depth v)
    (hunique : ∀ a, ∀ v ∈ put a, v.unique = true) : Fields ρ γ :=
  f.flatten (single name depth put take htake hregular hunique) get

/-- A member that must be there. -/
def required (f : Fields ρ (α → γ)) (name : String) (C : Codec α) (get : ρ → α) : Fields ρ γ :=
  f.member name C.depth get (fun a => some (C.enc a)) (fun v => v.bind C.dec) C.dec_enc
    (fun a _ hv => Option.some.inj hv ▸ C.regular a)
    (fun a _ hv => Option.some.inj hv ▸ C.unique a)

/-- A member that is null for `none`; where it is not there, that is `none` too. -/
def nullable (f : Fields ρ (Option α → γ)) (name : String) (C : Codec α)
    (h : ∀ a, C.enc a ≠ .null) (get : ρ → Option α) : Fields ρ γ :=
  f.member name C.depth get (fun a => some ((C.nullable h).enc a))
    (fun v => match v with
      | none => some none
      | some v => (C.nullable h).dec v)
    (C.nullable h).dec_enc
    (fun a _ hv => Option.some.inj hv ▸ (C.nullable h).regular a)
    (fun a _ hv => Option.some.inj hv ▸ (C.nullable h).unique a)

/-- A member that is not written for `none`, and may be null. -/
def skippable (f : Fields ρ (Option α → γ)) (name : String) (C : Codec α)
    (h : ∀ a, C.enc a ≠ .null) (get : ρ → Option α) : Fields ρ γ :=
  f.member name C.depth get (fun a => a.map C.enc)
    (fun v => match v with
      | none => some none
      | some v => (C.nullable h).dec v)
    (fun a => by
      cases a with
      | none => rfl
      | some a => exact (C.nullable h).dec_enc (some a))
    (fun a v hv => by
      obtain ⟨a, rfl, rfl⟩ := Option.map_eq_some_iff.mp hv
      exact C.regular a)
    (fun a v hv => by
      obtain ⟨a, rfl, rfl⟩ := Option.map_eq_some_iff.mp hv
      exact C.unique a)

/-- A member that may be missing. -/
def absent (f : Fields ρ (Option α → γ)) (name : String) (C : Codec α) (get : ρ → Option α) :
    Fields ρ γ :=
  { f.member name C.depth get (fun a => a.map C.enc)
      (fun v => match v with
        | none => some none
        | some v => (C.dec v).map some)
      (fun a => by
        cases a with
        | none => rfl
        | some a => simp [C.dec_enc])
      (fun a v hv => by
        obtain ⟨a, rfl, rfl⟩ := Option.map_eq_some_iff.mp hv
        exact C.regular a)
      (fun a v hv => by
        obtain ⟨a, rfl, rfl⟩ := Option.map_eq_some_iff.mp hv
        exact C.unique a) with
    seq := fun _ => none }

end Fields

/-- **A record**: an object with these members and no others, or an array of its fields. -/
def Codec.record {ρ : Type} (f : Fields ρ ρ) (hnodup : f.names.Nodup) (hproj : ∀ r, f.proj r = r) :
    Codec ρ where
  enc r := .obj (f.enc r)
  dec
    | .obj members =>
        if ∀ m ∈ members, m.1 ∈ f.names then f.dec fun name => members.lookup name else none
    | .arr items => match f.seq items with
        | some (r, []) => some r
        | _ => none
    | _ => none
  depth := f.depth + 1
  dec_enc r := by
    have hnames : ((f.enc r).map (·.1)).Nodup := (f.enc_names r).nodup hnodup
    simp only [sorted_obj]
    rw [if_pos, f.dec_enc hnodup r _ fun k _ => lookup_sorted hnames k, hproj]
    intro m hm
    obtain ⟨m', hm', rfl⟩ := List.mem_map.mp ((perm_sortedMembers _).mem_iff.mp hm)
    exact (f.enc_names r).subset (List.mem_map.mpr ⟨m', hm', rfl⟩)
  regular r := f.regular r
  unique r := unique_obj.mpr ⟨(f.enc_names r).nodup hnodup, f.unique r⟩

end Json
