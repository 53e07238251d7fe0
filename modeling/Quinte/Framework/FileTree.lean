import Mathlib

/-! # Trees of files

    A directory with what lies below it: the files, each by its path from the
    directory.  Directories without files in them are not in it.

    * `below p t` is what lies at the paths that start with `p`, and
      `mount p u t` puts `u` there in place of it;
    * `below_mount`, `mount_file_append`: the two undo each other, and nothing else
      changes.
-/

/-- The rest of a path after a prefix. -/
def stripPrefix (p path : String) : Option String :=
  if path.toList.take p.length = p.toList then some (String.ofList (path.toList.drop p.length))
  else none

theorem stripPrefix_eq_some {p path rest : String} :
    stripPrefix p path = some rest ↔ path = p ++ rest := by
  unfold stripPrefix
  constructor
  · intro h
    split at h
    · rename_i htake
      rw [← Option.some.inj h]
      refine String.toList_inj.mp ?_
      rw [String.toList_append, String.toList_ofList, ← htake, List.take_append_drop]
    · exact nomatch h
  · rintro rfl
    have hlength : p.length = p.toList.length := rfl
    rw [String.toList_append, hlength, List.take_left, List.drop_left, if_pos rfl,
      String.ofList_toList]

@[simp] theorem stripPrefix_append (p rest : String) : stripPrefix p (p ++ rest) = some rest :=
  stripPrefix_eq_some.mpr rfl

theorem stripPrefix_inj {p path path' rest : String} (h : rest ∈ stripPrefix p path)
    (h' : rest ∈ stripPrefix p path') : path = path' :=
  (stripPrefix_eq_some.mp h).trans (stripPrefix_eq_some.mp h').symm

theorem append_inj {p a b : String} (h : p ++ a = p ++ b) : a = b := by
  have hstrip := stripPrefix_append p a
  rw [h, stripPrefix_append] at hstrip
  exact (Option.some.inj hstrip).symm

/-- Files by their paths. -/
structure FileTree (β : Type) where
  file : String → Option β
  names : Finset String
  mem_names : ∀ path, path ∈ names ↔ (file path).isSome = true

namespace FileTree

variable {β : Type} {t u : FileTree β} {p path : String}

theorem names_ext (h : t.file = u.file) : t.names = u.names := by
  ext path
  rw [t.mem_names, u.mem_names, h]

theorem ext (h : ∀ path, t.file path = u.file path) : t = u := by
  have hfile : t.file = u.file := funext h
  have hnames := names_ext hfile
  cases t
  cases u
  cases hfile
  cases hnames
  rfl

instance [DecidableEq β] : DecidableEq (FileTree β) := fun t u =>
  decidable_of_iff (t.names = u.names ∧ ∀ path ∈ t.names, t.file path = u.file path) <| by
    constructor
    · rintro ⟨hnames, hfiles⟩
      refine ext fun path => ?_
      by_cases hmem : path ∈ t.names
      · exact hfiles path hmem
      · have hother : path ∉ u.names := hnames ▸ hmem
        rw [t.mem_names, Bool.not_eq_true, Option.isSome_eq_false_iff, Option.isNone_iff_eq_none]
          at hmem
        rw [u.mem_names, Bool.not_eq_true, Option.isSome_eq_false_iff, Option.isNone_iff_eq_none]
          at hother
        rw [hmem, hother]
    · rintro rfl
      exact ⟨rfl, fun _ _ => rfl⟩

/-- No files. -/
def empty : FileTree β where
  file _ := none
  names := ∅
  mem_names _ := by simp

/-- These files; the first one where a path is there twice. -/
def ofList (files : List (String × β)) : FileTree β where
  file path := files.lookup path
  names := (files.map (·.1)).toFinset
  mem_names path := by
    rw [List.mem_toFinset, ← Option.ne_none_iff_isSome, ne_eq, List.lookup_eq_none_iff]
    simp only [List.mem_map, bne_iff_ne, ne_eq, not_forall, not_not, exists_prop]
    exact exists_congr fun m => and_congr_right fun _ => eq_comm

/-- Write a file, in place of what was there. -/
def write (path : String) (content : β) (t : FileTree β) : FileTree β where
  file q := if q = path then some content else t.file q
  names := insert path t.names
  mem_names q := by
    rw [Finset.mem_insert, t.mem_names]
    split <;> simp_all

def remove (path : String) (t : FileTree β) : FileTree β where
  file q := if q = path then none else t.file q
  names := t.names.erase path
  mem_names q := by
    rw [Finset.mem_erase, t.mem_names]
    split <;> simp_all

/-- Write a file, or remove it. -/
def set (path : String) : Option β → FileTree β → FileTree β
  | some content, t => t.write path content
  | none, t => t.remove path

/-- What lies at the paths that start with `p`. -/
def below (p : String) (t : FileTree β) : FileTree β where
  file path := t.file (p ++ path)
  names := t.names.filterMap (stripPrefix p) fun _ _ _ => stripPrefix_inj
  mem_names path := by
    rw [Finset.mem_filterMap, ← t.mem_names]
    constructor
    · rintro ⟨q, hq, hrest⟩
      rwa [← stripPrefix_eq_some.mp hrest]
    · exact fun h => ⟨p ++ path, h, stripPrefix_append p path⟩

/-- Put a tree below `p`, in place of what was there. -/
def mount (p : String) (u t : FileTree β) : FileTree β where
  file path := match stripPrefix p path with
    | some rest => u.file rest
    | none => t.file path
  names := (t.names.filter fun path => stripPrefix p path = none)
    ∪ u.names.map ⟨(p ++ ·), fun _ _ => append_inj⟩
  mem_names path := by
    simp only [Finset.mem_union, Finset.mem_filter, Finset.mem_map, Function.Embedding.coeFn_mk]
    cases hstrip : stripPrefix p path with
    | none =>
      rw [t.mem_names]
      refine ⟨?_, fun h => Or.inl ⟨h, rfl⟩⟩
      rintro (⟨h, -⟩ | ⟨rest, -, rfl⟩)
      · exact h
      · exact nomatch hstrip.symm.trans (stripPrefix_append p rest)
    | some rest =>
      obtain rfl := stripPrefix_eq_some.mp hstrip
      rw [← u.mem_names]
      refine ⟨?_, fun h => Or.inr ⟨rest, h, rfl⟩⟩
      rintro (⟨-, h⟩ | ⟨rest', h, heq⟩)
      · exact nomatch h
      · rwa [← append_inj heq]

/-! ### What is where -/

@[simp] theorem write_same (path : String) (content : β) (t : FileTree β) :
    (t.write path content).file path = some content := by
  simp [write]

@[simp] theorem write_ne {q : String} (h : q ≠ path) (content : β) (t : FileTree β) :
    (t.write path content).file q = t.file q := by
  simp [write, h]

@[simp] theorem remove_same (path : String) (t : FileTree β) :
    (t.remove path).file path = none := by
  simp [remove]

@[simp] theorem remove_ne {q : String} (h : q ≠ path) (t : FileTree β) :
    (t.remove path).file q = t.file q := by
  simp [remove, h]

@[simp] theorem set_same (path : String) (content : Option β) (t : FileTree β) :
    (t.set path content).file path = content := by
  cases content with
  | none => exact remove_same path t
  | some content => exact write_same path content t

@[simp] theorem set_ne {q : String} (h : q ≠ path) (content : Option β) (t : FileTree β) :
    (t.set path content).file q = t.file q := by
  cases content with
  | none => exact remove_ne h t
  | some content => exact write_ne h content t

@[simp] theorem below_file (p path : String) (t : FileTree β) :
    (t.below p).file path = t.file (p ++ path) := rfl

@[simp] theorem mount_file_append (p rest : String) (u t : FileTree β) :
    (mount p u t).file (p ++ rest) = u.file rest := by
  simp [mount]

@[simp] theorem below_mount (p : String) (u t : FileTree β) : (mount p u t).below p = u :=
  ext fun path => by rw [below_file, mount_file_append]

end FileTree
