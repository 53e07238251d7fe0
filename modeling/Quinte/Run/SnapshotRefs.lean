import Mathlib
import Quinte.Framework.FileTree
import Quinte.Run.Snapshot
import Quinte.Seat.TornAppend

/-! # Snapshot references

    A snapshot manifest names the files of a snapshot by references, and whoever
    reads one takes the scheme off and joins the rest to `input/snapshot`.  A
    name that is no UTF-8 text is replaced in a reference, so that the reference
    no longer leads to the file.

    * `relativeSlash_components`: a path of texts is read back from its reference;
    * `mem_filesBelow`, `nodup_filesBelow`: what a walk finds;
    * `snapshot_faithful_iff`: which snapshots have faithful references.
-/

namespace Quinte

namespace Snapshot

/-! ### Texts and their bytes -/

theorem utf8_ofList (text : List Char) : utf8 (String.ofList text) = Finance.utf8 text := by
  have hbytes : (String.ofList text).toUTF8 = text.utf8Encode := rfl
  rw [utf8, hbytes, List.utf8Encode]
  simp [Finance.utf8]

theorem utf8_eq (s : String) : utf8 s = Finance.utf8 s.toList := by
  rw [← utf8_ofList, String.ofList_toList]

theorem utf8_injective {s t : String} (h : utf8 s = utf8 t) : s = t := by
  rw [utf8_eq, utf8_eq] at h
  exact String.toList_inj.mp (Finance.utf8_injective h)

theorem slash_mem_utf8 {s : String} (h : '/' ∈ s.toList) : 47 ∈ utf8 s := by
  rw [utf8_eq, Finance.utf8]
  exact List.mem_flatMap.mpr ⟨'/', h, by decide⟩

/-- The name is the bytes of a text. -/
def IsText (name : Name) : Prop := ∃ s, utf8 s = name

theorem toStringLossy_utf8 (s : String) : toStringLossy (utf8 s) = s := by
  have hbytes : (utf8 s).toByteArray = s.toUTF8 := by
    apply ByteArray.ext
    rw [List.data_toByteArray, utf8]
  have hread : String.fromUTF8? (utf8 s).toByteArray = some s := by
    rw [hbytes]
    exact dif_pos s.isValidUTF8
  unfold toStringLossy
  rw [hread]

/-! ### Paths as text -/

/-- The components of a relative path, as `Path` has them. -/
def components (relative : String) : List Name :=
  ((relative.toList.splitOn '/').map fun component => utf8 (String.ofList component)).filter
    fun name => name ≠ [] ∧ name ≠ utf8 "."

/-- What a directory entry may be called. -/
structure Legal (name : Name) : Prop where
  nonempty : name ≠ []
  no_separator : 47 ∉ name
  no_nul : 0 ∉ name
  not_dot : name ≠ utf8 "."
  not_dotdot : name ≠ utf8 ".."

theorem isText_of_mem_components {relative : String} {name : Name}
    (h : name ∈ components relative) : IsText name := by
  obtain ⟨component, -, rfl⟩ := List.mem_map.mp (List.mem_filter.mp h).1
  exact ⟨_, rfl⟩

/-- **A path of texts** is read back from its text. -/
theorem relativeSlash_components {path : List Name} (hpath : path ≠ [])
    (hlegal : ∀ name ∈ path, Legal name) (htext : ∀ name ∈ path, IsText name) :
    components (relativeSlash path) = path := by
  -- a name that is a text is not changed by the lossy conversion
  have hlossy : ∀ name ∈ path, utf8 (toStringLossy name) = name := by
    intro name hmem
    obtain ⟨s, rfl⟩ := htext name hmem
    rw [toStringLossy_utf8]
  have hsplit : (relativeSlash path).toList.splitOn '/'
      = path.map fun name => (toStringLossy name).toList := by
    unfold relativeSlash
    rw [String.toList_intercalate, List.map_map]
    apply List.splitOn_intercalate
    · intro component hmem hslash
      obtain ⟨name, hname, rfl⟩ := List.mem_map.mp hmem
      have hbyte := slash_mem_utf8 hslash
      rw [hlossy name hname] at hbyte
      exact (hlegal name hname).no_separator hbyte
    · simpa using hpath
  unfold components
  rw [hsplit, List.map_map]
  have hmap : path.map ((fun component => utf8 (String.ofList component))
      ∘ fun name => (toStringLossy name).toList) = path := by
    rw [List.map_congr_left (g := id), List.map_id]
    intro name hmem
    simpa [String.ofList_toList] using hlossy name hmem
  rw [hmap, List.filter_eq_self]
  intro name hmem
  simpa using ⟨(hlegal name hmem).nonempty, (hlegal name hmem).not_dot⟩

/-- Where a reference leads to below `input/snapshot`. -/
def resolve (reference : String) : Option (List Name) :=
  (stripPrefix "snapshot://" reference).map components

/-- Where a file is copied to. -/
def target (file : Nat × List Name × Bytes) : List Name :=
  utf8 (rootName file.1) :: file.2.1

theorem resolve_snapshotEntry (host : Host) (file : Nat × List Name × Bytes) :
    resolve (snapshotEntry host file.1 file.2.1 file.2.2).snapshotRef
      = some (components (relativeSlash (target file))) := by
  unfold resolve snapshotEntry
  rw [stripPrefix_append]
  rfl

/-! ### What a walk finds -/

/-- A regular file below a node, reached without following a link and without
    passing an entry that is not allowed. -/
inductive Below (allowed : List Name → Prop) : List Name → Node → List Name → Bytes → Prop
  | file {path content} : Below allowed path (.file content) path content
  | entry {path len entries name node found content} :
      (name, node) ∈ entries → allowed (path ++ [name]) →
      Below allowed (path ++ [name]) node found content →
      Below allowed path (.dir len entries) found content

/-- A tree as a file system has it. -/
inductive Node.Sound : Node → Prop
  | file {content} : Node.Sound (.file content)
  | symlink : Node.Sound .symlink
  | special : Node.Sound .special
  | dir {len entries} : (entries.map Prod.fst).Nodup → (∀ e ∈ entries, Legal e.1) →
      (∀ e ∈ entries, Node.Sound e.2) → Node.Sound (.dir len entries)

variable {allowed : List Name → Bool}

mutual

/-- **The walk** finds the files that are below the node. -/
theorem mem_filesBelow {path found : List Name} {content : Bytes} :
    (node : Node) → ((found, content) ∈ filesBelow allowed path node ↔
      Below (allowed · = true) path node found content)
  | .file held => by
    rw [filesBelow, List.mem_singleton]
    constructor
    · intro h
      obtain ⟨rfl, rfl⟩ := Prod.mk.inj h
      exact .file
    · intro h
      cases h
      rfl
  | .dir len entries => by
    rw [filesBelow, mem_filesOf entries]
    constructor
    · intro ⟨name, node, hmem, hallowed, hbelow⟩
      exact .entry hmem hallowed hbelow
    · intro h
      cases h with
      | entry hmem hallowed hbelow => exact ⟨_, _, hmem, hallowed, hbelow⟩
  | .symlink => by
    rw [filesBelow]
    exact iff_of_false List.not_mem_nil (fun h => nomatch h)
  | .special => by
    rw [filesBelow]
    exact iff_of_false List.not_mem_nil (fun h => nomatch h)

theorem mem_filesOf {path found : List Name} {content : Bytes} :
    (entries : List (Name × Node)) → ((found, content) ∈ filesOf allowed path entries ↔
      ∃ name node, (name, node) ∈ entries ∧ allowed (path ++ [name]) = true ∧
        Below (allowed · = true) (path ++ [name]) node found content)
  | [] => by
    rw [filesOf]
    simp
  | (name, node) :: entries => by
    have hnode := @mem_filesBelow (path ++ [name]) found content node
    rw [filesOf, List.mem_append, mem_filesOf entries]
    constructor
    · intro h
      rcases h with h | ⟨other, held, hmem, hrest⟩
      · by_cases hallowed : allowed (path ++ [name]) = true
        · rw [if_pos hallowed] at h
          exact ⟨name, node, List.mem_cons_self, hallowed, hnode.mp h⟩
        · rw [if_neg hallowed] at h
          exact absurd h List.not_mem_nil
      · exact ⟨other, held, List.mem_cons_of_mem _ hmem, hrest⟩
    · intro ⟨other, held, hmem, hallowed, hbelow⟩
      rcases List.mem_cons.mp hmem with heq | hmem
      · obtain ⟨rfl, rfl⟩ := Prod.mk.inj heq
        rw [if_pos hallowed]
        exact Or.inl (hnode.mpr hbelow)
      · exact Or.inr ⟨other, held, hmem, hallowed, hbelow⟩

end

theorem next_unique {path found : List Name} {a b : Name} (ha : path ++ [a] <+: found)
    (hb : path ++ [b] <+: found) : a = b := by
  obtain ⟨t, rfl⟩ := ha
  obtain ⟨u, hu⟩ := hb
  simp only [List.append_assoc, List.append_cancel_left_eq, List.singleton_append,
    List.cons.injEq] at hu
  exact hu.1.symm

/-- Whatever is found below a path starts with it. -/
theorem Below.starts {P : List Name → Prop} {path found : List Name} {node : Node}
    {content : Bytes} (h : Below P path node found content) : path <+: found := by
  induction h with
  | file => exact List.prefix_rfl
  | entry _ _ _ ih => exact (List.prefix_append _ _).trans ih

theorem Below.mono {P Q : List Name → Prop} {path found : List Name} {node : Node}
    {content : Bytes} (h : Below P path node found content)
    (himp : ∀ front, front <+: found → P front → Q front) : Below Q path node found content := by
  induction h with
  | file => exact .file
  | entry hmem hallowed hbelow ih =>
    exact .entry hmem (himp _ hbelow.starts hallowed) (ih himp)

/-- The names of a found path are names of the tree. -/
theorem Below.legal {P : List Name → Prop} {path found : List Name} {node : Node}
    {content : Bytes} (h : Below P path node found content) (hsound : node.Sound)
    (hpath : ∀ name ∈ path, Legal name) : ∀ name ∈ found, Legal name := by
  induction h with
  | file => exact hpath
  | entry hmem _ _ ih =>
    cases hsound with
    | dir _ hlegal hentries =>
      apply ih (hentries _ hmem)
      intro name hname
      rcases List.mem_append.mp hname with hname | hname
      · exact hpath name hname
      · rw [List.mem_singleton.mp hname]
        exact hlegal _ hmem

/-- Below a directory of distinct names, a path leads to one file. -/
theorem Below.content_unique {P : List Name → Prop} {path found : List Name} {node : Node}
    {content other : Bytes} (h : Below P path node found content)
    (h' : Below P path node found other) (hsound : node.Sound) : content = other := by
  induction h with
  | file =>
    cases h'
    rfl
  | @entry path len entries name node found content hmem _ hbelow ih =>
    cases hsound with
    | dir hnodup _ hentries =>
      cases h' with
      | @entry _ _ _ name' node' _ _ hmem' _ hbelow' =>
        obtain rfl := next_unique hbelow.starts hbelow'.starts
        obtain rfl : node = node' :=
          (Prod.mk.inj (List.inj_on_of_nodup_map hnodup hmem hmem' rfl)).2
        exact ih hbelow' (hentries _ hmem)

mutual

/-- **The walk** finds nothing twice. -/
theorem nodup_filesBelow {path : List Name} : (node : Node) → node.Sound →
    ((filesBelow allowed path node).map Prod.fst).Nodup
  | .file _, _ => by
    rw [filesBelow]
    exact List.nodup_singleton _
  | .dir _ entries, hsound => by
    rw [filesBelow]
    cases hsound with
    | dir hnodup _ hentries => exact nodup_filesOf entries hnodup hentries
  | .symlink, _ => by
    rw [filesBelow]
    exact List.nodup_nil
  | .special, _ => by
    rw [filesBelow]
    exact List.nodup_nil

theorem nodup_filesOf {path : List Name} : (entries : List (Name × Node)) →
    (entries.map Prod.fst).Nodup → (∀ e ∈ entries, Node.Sound e.2) →
    ((filesOf allowed path entries).map Prod.fst).Nodup
  | [], _, _ => by
    rw [filesOf]
    exact List.nodup_nil
  | (name, node) :: entries, hnodup, hsound => by
    obtain ⟨hfresh, hnodup⟩ := List.nodup_cons.mp hnodup
    rw [filesOf, List.map_append, List.nodup_append']
    refine ⟨?_, nodup_filesOf entries hnodup
      (fun e he => hsound e (List.mem_cons_of_mem _ he)), ?_⟩
    · by_cases hallowed : allowed (path ++ [name]) = true
      · rw [if_pos hallowed]
        exact nodup_filesBelow node (hsound _ List.mem_cons_self)
      · rw [if_neg hallowed]
        exact List.nodup_nil
    · -- a path in both would go on with two names
      intro found hleft hright
      obtain ⟨⟨_, content⟩, hfound, rfl⟩ := List.mem_map.mp hleft
      obtain ⟨⟨_, other⟩, hfound', hsame⟩ := List.mem_map.mp hright
      dsimp only at hsame
      subst hsame
      obtain ⟨name', node', hmem', _, hbelow'⟩ := (mem_filesOf entries).mp hfound'
      by_cases hallowed : allowed (path ++ [name]) = true
      · rw [if_pos hallowed] at hfound
        have hname := next_unique ((mem_filesBelow node).mp hfound).starts hbelow'.starts
        have hlisted := List.mem_map_of_mem (f := Prod.fst) hmem'
        exact hfresh (hname ▸ hlisted)
      · rw [if_neg hallowed] at hfound
        exact absurd hfound List.not_mem_nil

end

/-! ### The evidence -/

/-- The names that evidence may not contain. -/
def Excluded (name : Name) : Prop :=
  name ∈ [".git", "node_modules", "target", ".quinte", ".env"].map utf8 ∨
    utf8 ".key" <:+ name ∨ utf8 ".pem" <:+ name

/-- The bytes of a relative path. -/
def pathBytes (path : List Name) : Bytes :=
  [47].intercalate path

/-- No pattern matches the path, and its last name is not excluded. -/
def Admitted (host : Host) (path : List Name) : Prop :=
  ¬Excluded (path.getLastD []) ∧ host.ignored (pathBytes path) = false

/-- The files of a root, where a directory may contain what is allowed. -/
def Offers (host : Host) (allowed : List Name → Prop) (resolved : Name × Node)
    (path : List Name) (content : Bytes) : Prop :=
  match resolved with
  | (name, .file held) => host.ignored name = false ∧ path = [name] ∧ content = held
  | (_, node) => Below allowed [] node path content

/-- The files of the evidence roots, each with the index of its root. -/
def Evidence (host : Host) (allowed : List Name → Prop) (brief : Brief)
    (file : Nat × List Name × Bytes) : Prop :=
  ∃ root resolved, brief.evidenceRoots[file.1]? = some root ∧
    host.canonical root = some resolved ∧ Offers host allowed resolved file.2.1 file.2.2

/-- A file system: distinct entries, under names that a file can have. -/
structure Host.Sound (host : Host) : Prop where
  names : ∀ {root name content}, host.canonical root = some (name, .file content) → Legal name
  trees : ∀ {root name node}, host.canonical root = some (name, node) → node.Sound

/-- The last character, where it is a single byte. -/
theorem eq_concat_of_utf8 {text : List Char} {front : Bytes} {c : Char} (hc : c.toNat < 128)
    (h : Finance.utf8 text = front ++ Finance.utf8 [c]) :
    ∃ rest, text = rest ++ [c] ∧ Finance.utf8 rest = front := by
  have hone : ∀ d, Finance.utf8 [d] = String.utf8EncodeChar d := by
    intro d
    simp [Finance.utf8]
  have hsingle : Finance.utf8 [c] = [UInt8.ofNat c.toNat] := by
    have hle : c.val.toNat ≤ 127 := Nat.le_of_lt_succ hc
    rw [hone]
    unfold String.utf8EncodeChar
    exact if_pos hle
  have hnat : (UInt8.ofNat c.toNat).toNat = c.toNat :=
    UInt8.toNat_ofNat_of_lt' (by rw [UInt8.size]; omega)
  rcases List.eq_nil_or_concat text with rfl | ⟨rest, d, rfl⟩
  · rw [hsingle] at h
    simp [Finance.utf8] at h
  · rw [List.concat_eq_append, Finance.utf8_append, hone, hsingle] at h
    -- the last byte is ASCII, so it is all of the last character
    have hlast : UInt8.ofNat c.toNat ∈ String.utf8EncodeChar d := by
      rcases List.eq_nil_or_concat (String.utf8EncodeChar d) with hnil | ⟨bytes, b, hbytes⟩
      · exact absurd hnil String.utf8EncodeChar_ne_nil
      · rw [hbytes, List.concat_eq_append, ← List.append_assoc] at h
        rw [hbytes, List.concat_eq_append, (List.append_inj' h rfl).2]
        exact List.mem_append_right _ (List.mem_singleton_self _)
    obtain rfl : d = c := by
      apply Char.toNat_inj.mp
      rw [Pi.toNat_of_mem_utf8EncodeChar (hnat.trans_lt hc) hlast, hnat]
    rw [← hone, hsingle, List.append_cancel_right_eq] at h
    exact ⟨rest, List.concat_eq_append, h⟩

/-- An ending of single bytes is one of the text. -/
theorem utf8_suffix {ending text : List Char} (hbytes : ∀ c ∈ ending, c.toNat < 128) :
    Finance.utf8 ending <:+ Finance.utf8 text ↔ ending <:+ text := by
  constructor
  · intro h
    induction ending using List.reverseRecOn generalizing text with
    | nil => exact List.nil_suffix
    | append_singleton ending c ih =>
      obtain ⟨front, hfront⟩ := h
      rw [Finance.utf8_append, ← List.append_assoc] at hfront
      obtain ⟨rest, rfl, hrest⟩ := eq_concat_of_utf8 (hbytes c (by simp)) hfront.symm
      obtain ⟨start, rfl⟩ := ih (fun c hc => hbytes c (by simp [hc])) ⟨front, hrest.symm⟩
      exact ⟨start, (List.append_assoc ..).symm⟩
  · intro ⟨front, hfront⟩
    rw [← hfront, Finance.utf8_append]
    exact List.suffix_append _ _

theorem utf8_relativeSlash {path : List Name} (htext : ∀ name ∈ path, IsText name) :
    utf8 (relativeSlash path) = pathBytes path := by
  unfold relativeSlash pathBytes
  induction path with
  | nil => rfl
  | cons name path ih =>
    obtain ⟨⟨s, rfl⟩, hrest⟩ := List.forall_mem_cons.mp htext
    cases path with
    | nil =>
      simp [toStringLossy_utf8]
    | cons next path =>
      have ih := ih hrest
      rw [List.map_cons, List.map_cons, String.intercalate_cons_cons, List.intercalate_cons_cons,
        ← ih, utf8_eq, toStringLossy_utf8]
      simp only [String.toList_append, Finance.utf8_append, utf8_eq, List.map_cons]
      rfl

/-- **The filter** of the walk is that of the bytes, on texts. -/
theorem snapshotEntryAllowed_iff {host : Host} {path : List Name}
    (htext : ∀ name ∈ path, IsText name) :
    snapshotEntryAllowed host path = true ↔ Admitted host path := by
  have hlast : IsText (path.getLastD []) := by
    rcases List.eq_nil_or_concat path with rfl | ⟨front, name, rfl⟩
    · exact ⟨"", rfl⟩
    · rw [List.concat_eq_append, List.getLastD_concat]
      exact htext name (by simp)
  obtain ⟨s, hs⟩ := hlast
  have hkey : Finance.utf8 ".key".toList <:+ Finance.utf8 s.toList ↔
      ".key".toList <:+ s.toList :=
    @utf8_suffix ['.', 'k', 'e', 'y'] s.toList (by simp)
  have hpem : Finance.utf8 ".pem".toList <:+ Finance.utf8 s.toList ↔
      ".pem".toList <:+ s.toList :=
    @utf8_suffix ['.', 'p', 'e', 'm'] s.toList (by simp)
  have hnamed : utf8 s ∈ [".git", "node_modules", "target", ".quinte", ".env"].map utf8 ↔
      s ∈ [".git", "node_modules", "target", ".quinte", ".env"] :=
    List.mem_map_of_injective fun _ _ => utf8_injective
  unfold snapshotEntryAllowed Admitted Excluded
  rw [utf8_relativeSlash htext, ← hs, toStringLossy_utf8, hnamed, utf8_eq s, utf8_eq ".key",
    utf8_eq ".pem", hkey, hpem]
  simp only [Bool.and_eq_true, Bool.not_eq_true', List.contains_eq_mem, decide_eq_false_iff_not,
    not_or, ← List.isSuffixOf_iff_suffix, Bool.not_eq_true, and_assoc]

/-! ### What is staged -/

variable {host : Host}

/-- On a path of texts, the walk of the code offers what it should. -/
theorem offers_iff {resolved : Name × Node} {path : List Name} {content : Bytes}
    (htext : ∀ name ∈ path, IsText name) :
    Offers host (snapshotEntryAllowed host · = true) resolved path content ↔
      Offers host (Admitted host) resolved path content := by
  have hfront : ∀ front, front <+: path →
      (snapshotEntryAllowed host front = true ↔ Admitted host front) := fun front h =>
    snapshotEntryAllowed_iff fun name hname => htext name (h.subset hname)
  obtain ⟨name, node⟩ := resolved
  unfold Offers
  cases node with
  | file held => exact Iff.rfl
  | dir len entries | symlink | special =>
    constructor
    · intro h
      exact h.mono fun front hprefix => (hfront front hprefix).mp
    · intro h
      exact h.mono fun front hprefix => (hfront front hprefix).mpr

theorem mem_rootFiles {resolved : Name × Node} {path : List Name} {content : Bytes} :
    (path, content) ∈ rootFiles host resolved ↔
      Offers host (snapshotEntryAllowed host · = true) resolved path content := by
  obtain ⟨name, node⟩ := resolved
  cases node with
  | file held =>
    rw [rootFiles, Offers]
    by_cases hignored : host.ignored name = true
    · rw [if_pos hignored]
      simp [hignored]
    · rw [if_neg hignored]
      simp [hignored]
  | dir len entries | symlink | special => exact mem_filesBelow _

theorem nodup_rootFiles {resolved : Name × Node} (hsound : resolved.2.Sound) :
    ((rootFiles host resolved).map Prod.fst).Nodup := by
  obtain ⟨name, node⟩ := resolved
  cases node with
  | file held =>
    rw [rootFiles]
    split
    · exact List.nodup_nil
    · exact List.nodup_singleton _
  | dir len entries | symlink | special => exact nodup_filesBelow _ hsound

theorem mem_inputFiles {start : Nat} {roots : List String} {file : Nat × List Name × Bytes} :
    file ∈ inputFiles host start roots ↔
      ∃ index root resolved, file.1 = start + index ∧ roots[index]? = some root ∧
        host.canonical root = some resolved ∧ file.2 ∈ rootFiles host resolved := by
  induction roots generalizing start with
  | nil => simp [inputFiles]
  | cons root roots ih =>
    rw [inputFiles, List.mem_append, ih]
    constructor
    · intro h
      rcases h with h | ⟨index, other, resolved, hindex, hroot, hrest⟩
      · obtain ⟨found, hfound, rfl⟩ := List.mem_map.mp h
        cases hcanonical : host.canonical root with
        | none =>
          rw [hcanonical] at hfound
          cases hfound
        | some resolved =>
          rw [hcanonical] at hfound
          exact ⟨0, root, resolved, rfl, rfl, hcanonical, hfound⟩
      -- a file of a later root, counted from the next index
      · exact ⟨index + 1, other, resolved, by omega, hroot, hrest⟩
    · rintro ⟨index, other, resolved, hindex, hroot, hcanonical, hfile⟩
      cases index with
      | zero =>
        obtain rfl := Option.some.inj hroot
        refine Or.inl (List.mem_map.mpr ⟨file.2, ?_, Prod.ext hindex.symm rfl⟩)
        rw [hcanonical]
        exact hfile
      | succ index => exact Or.inr ⟨index, other, resolved, by omega, hroot, hcanonical, hfile⟩

/-- **The staged files** are those that the walk of the code offers. -/
theorem mem_inputFiles_iff {brief : Brief} {file : Nat × List Name × Bytes} :
    file ∈ inputFiles host 0 brief.evidenceRoots ↔
      Evidence host (snapshotEntryAllowed host · = true) brief file := by
  rw [mem_inputFiles]
  constructor
  · intro ⟨index, root, resolved, hindex, hroot, hcanonical, hfile⟩
    obtain rfl : file.1 = index := by omega
    exact ⟨root, resolved, hroot, hcanonical, mem_rootFiles.mp hfile⟩
  · intro ⟨root, resolved, hroot, hcanonical, hoffers⟩
    exact ⟨file.1, root, resolved, by omega, hroot, hcanonical, mem_rootFiles.mpr hoffers⟩

theorem target_inj {file other : Nat × List Name × Bytes} (h : target file = target other) :
    file.1 = other.1 ∧ file.2.1 = other.2.1 := by
  obtain ⟨hroot, hpath⟩ := List.cons.inj h
  have hname := utf8_injective hroot
  unfold rootName at hname
  exact ⟨Nat.repr_injective ((String.append_right_inj _).mp hname), hpath⟩

/-- **No two files** are copied to one place. -/
theorem nodup_targets (hsound : host.Sound) (start : Nat) (roots : List String) :
    ((inputFiles host start roots).map target).Nodup := by
  induction roots generalizing start with
  | nil => exact List.nodup_nil
  | cons root roots ih =>
    rw [inputFiles, List.map_append, List.nodup_append']
    refine ⟨?_, ih (start + 1), ?_⟩
    · cases hcanonical : host.canonical root with
      | none => exact List.nodup_nil
      | some resolved =>
        have hnodup := @nodup_rootFiles host resolved (hsound.trees hcanonical)
        have hmap : ((rootFiles host resolved).map (start, ·)).map target
            = ((rootFiles host resolved).map Prod.fst).map (utf8 (rootName start) :: ·) := by
          simp [target, Function.comp_def]
        rw [Option.elim_some, hmap]
        exact hnodup.map fun _ _ h => (List.cons.inj h).2
    · -- the two come from roots of different indices
      intro place hleft hright
      obtain ⟨file, hfile, rfl⟩ := List.mem_map.mp hleft
      obtain ⟨other, hother, hsame⟩ := List.mem_map.mp hright
      obtain ⟨found, -, rfl⟩ := List.mem_map.mp hfile
      obtain ⟨index, -, -, hindex, -⟩ := mem_inputFiles.mp hother
      have hroot := (target_inj hsame).1
      dsimp only at hroot
      omega

theorem copyAll_ok {policy : Policy} {files : List (Nat × List Name × Bytes)} {s t : Staging}
    (h : copyAll host policy files s = (.ok (), t)) : t = files.foldl (copied host) s := by
  induction files generalizing s with
  | nil => exact (Prod.mk.inj h).2.symm
  | cons file files ih =>
    obtain ⟨rootIndex, path, content⟩ := file
    rw [copyAll, copySnapshotFile] at h
    split_ifs at h
    · cases (Prod.mk.inj h).1
    · cases (Prod.mk.inj h).1
    · exact ih h

theorem stageRoots_isSome {policy : Policy} {roots : List String} {start : Nat} {s t : Staging}
    (h : stageRoots host policy start roots s = (.ok (), t)) :
    ∀ root ∈ roots, (host.canonical root).isSome := by
  induction roots generalizing start s with
  | nil => exact fun _ hmem => by cases hmem
  | cons root roots ih =>
    rw [stageRoots] at h
    cases hcanonical : host.canonical root with
    | none =>
      rw [hcanonical] at h
      cases (Prod.mk.inj h).1
    | some resolved =>
      rw [hcanonical] at h
      dsimp only at h
      rcases hfiles : stageFiles host policy start (rootFiles host resolved) s with ⟨_ | _, u⟩
      · rw [hfiles] at h
        cases (Prod.mk.inj h).1
      · rw [hfiles] at h
        exact List.forall_mem_cons.mpr ⟨by rw [hcanonical]; rfl, ih h⟩

/-- A copy stays where it is while files go to other places. -/
theorem snapshot_foldl_of_notMem {files : List (Nat × List Name × Bytes)} {s : Staging}
    {place : List Name} (h : place ∉ files.map target) :
    (files.foldl (copied host) s).snapshot place = s.snapshot place := by
  induction files generalizing s with
  | nil => rfl
  | cons file files ih =>
    rw [List.map_cons, List.mem_cons, not_or] at h
    rw [List.foldl_cons, ih h.2]
    exact if_neg h.1

theorem snapshot_foldl {files : List (Nat × List Name × Bytes)} {s : Staging}
    (hnodup : (files.map target).Nodup) {file : Nat × List Name × Bytes} (hmem : file ∈ files) :
    (files.foldl (copied host) s).snapshot (target file) = some file.2.2 := by
  induction files generalizing s with
  | nil => exact nomatch hmem
  | cons head files ih =>
    obtain ⟨hfresh, hnodup⟩ := List.nodup_cons.mp hnodup
    rcases List.mem_cons.mp hmem with rfl | hmem
    · rw [List.foldl_cons, snapshot_foldl_of_notMem hfresh]
      exact if_pos rfl
    · exact ih hnodup hmem

/-! ### Attachments -/

/-- The attachments noted so far, each with its copy, under numbers that have been
    given out. -/
def Kept (host : Host) (given : Nat) (s : Staging) : Prop :=
  ∀ a ∈ s.attachments, ∃ index extension content, index < given ∧
    a.attachmentRef = "attachment://" ++ attachmentName index extension ∧
    s.attachmentFiles (attachmentName index extension) = some content ∧
    a.sha256 = host.sha256 content

theorem attachmentName_inj {index other : Nat} {extension extension' : String}
    (h : attachmentName index extension = attachmentName other extension') : index = other := by
  unfold attachmentName at h
  simp only [String.append_assoc, String.append_right_inj] at h
  have hlist := congrArg String.toList h
  simp only [String.toList_append] at hlist
  have hdigits : ∀ n : Nat, '.' ∉ (toString n).toList := by
    intro n hmem
    have hdigit := Nat.isDigit_of_mem_toDigits (by omega) (by omega) (b := 10) (n := n)
      (c := '.') (by simpa using hmem)
    exact absurd hdigit (by decide)
  have hdot : ".".toList = ['.'] := rfl
  rw [hdot, List.singleton_append, List.singleton_append] at hlist
  have hsplit := congrArg (List.splitOn '.') hlist
  rw [List.splitOn_append_cons_self_of_not_mem (hdigits index),
    List.splitOn_append_cons_self_of_not_mem (hdigits other)] at hsplit
  exact Nat.repr_injective (String.toList_inj.mp (List.cons.inj hsplit).1)

/-- **One attachment** leaves the snapshot as it is, and is kept with the others. -/
theorem stageAttachment_ok {policy : Policy} {index : Nat} {path : String} {s t : Staging}
    (h : stageAttachment host policy index path s = (.ok (), t)) :
    t.snapshot = s.snapshot ∧ t.entries = s.entries ∧
      (Kept host index s → Kept host (index + 1) t) := by
  rcases stageAttachment_cases host policy index path s with ⟨-, message, hturn⟩ |
    ⟨-, ⟨message, hturn⟩ | ⟨name, content, mediaType, extension, -, -, hturn⟩⟩
  · exact nomatch (Prod.mk.inj (hturn.symm.trans h)).1
  · exact nomatch (Prod.mk.inj (hturn.symm.trans h)).1
  · obtain rfl := (Prod.mk.inj (hturn.symm.trans h)).2
    refine ⟨rfl, rfl, fun hkept a ha => ?_⟩
    rcases List.mem_append.mp ha with ha | ha
    · obtain ⟨number, extension', held, hnumber, href, hfile, hsha⟩ := hkept a ha
      have hne : attachmentName number extension' ≠ attachmentName index extension :=
        fun heq => absurd (attachmentName_inj heq) (Nat.ne_of_lt hnumber)
      exact ⟨number, extension', held, Nat.lt_succ_of_lt hnumber, href,
        (if_neg hne).trans hfile, hsha⟩
    · obtain rfl := List.mem_singleton.mp ha
      exact ⟨index, extension, content, Nat.lt_succ_self _, rfl, if_pos rfl, rfl⟩

theorem stageAttachments_ok {policy : Policy} {index : Nat} {paths : List String} {s t : Staging}
    (h : stageAttachments host policy index paths s = (.ok (), t)) :
    t.snapshot = s.snapshot ∧ t.entries = s.entries ∧
      (Kept host index s → ∃ given, Kept host given t) := by
  induction paths generalizing index s with
  | nil =>
    obtain rfl := (Prod.mk.inj h).2
    exact ⟨rfl, rfl, fun hkept => ⟨index, hkept⟩⟩
  | cons path paths ih =>
    rw [stageAttachments] at h
    rcases hturn : stageAttachment host policy index path s with ⟨_ | _, u⟩
    · rw [hturn] at h
      cases (Prod.mk.inj h).1
    · rw [hturn] at h
      obtain ⟨hsnapshot, hentries, hkeep⟩ := stageAttachment_ok hturn
      obtain ⟨hsnapshot', hentries', hkeep'⟩ := ih h
      exact ⟨hsnapshot'.trans hsnapshot, hentries'.trans hentries,
        fun hkept => hkeep' (hkeep hkept)⟩

/-! ### Verification -/

/-- `verify_resume_integrity`, its loop over the entries. A reference without the
    scheme makes it panic. -/
def verifyEntries (host : Host) (s : Staging) : List SnapshotEntry → Except String Unit
  | [] => .ok ()
  | entry :: entries =>
      match stripPrefix "snapshot://" entry.snapshotRef with
      | none => .error "called Option::unwrap() on a None value"
      | some relative =>
        match s.snapshot (components relative) with
        | none => .error ("cannot open input/snapshot/" ++ relative)
        | some content =>
          if host.sha256 content ≠ entry.sha256 then
            .error ("snapshot artifact changed: " ++ entry.snapshotRef)
          else verifyEntries host s entries

/-- Its loop over the attachments. -/
def verifyAttachments (host : Host) (s : Staging) : List AttachmentEntry → Except String Unit
  | [] => .ok ()
  | attachment :: attachments =>
      match stripPrefix "attachment://" attachment.attachmentRef with
      | none => .error ("invalid attachment reference " ++ attachment.attachmentRef)
      | some relative =>
        match s.attachmentFiles relative with
        | none => .error ("cannot open input/attachments/" ++ relative)
        | some content =>
          if host.sha256 content ≠ attachment.sha256 then
            .error ("attachment artifact changed: " ++ attachment.attachmentRef)
          else verifyAttachments host s attachments

def verifySnapshot (host : Host) (s : Staging) (manifest : SnapshotManifest) :
    Except String Unit :=
  match verifyEntries host s manifest.entries with
  | .ok _ => verifyAttachments host s manifest.attachments
  | .error message => .error message

theorem verifyEntries_ok {s : Staging} {entries : List SnapshotEntry}
    (h : ∀ entry ∈ entries, ∃ place content, resolve entry.snapshotRef = some place ∧
      s.snapshot place = some content ∧ entry.sha256 = host.sha256 content) :
    verifyEntries host s entries = .ok () := by
  induction entries with
  | nil => rfl
  | cons entry entries ih =>
    obtain ⟨⟨place, content, hresolve, hheld, hsha⟩, hrest⟩ := List.forall_mem_cons.mp h
    obtain ⟨relative, hstrip, rfl⟩ := Option.map_eq_some_iff.mp hresolve
    rw [verifyEntries, hstrip]
    simp only [hheld, hsha, ne_eq, not_true_eq_false, if_false]
    exact ih hrest

theorem verifyAttachments_ok {s : Staging} {given : Nat} (h : Kept host given s) :
    verifyAttachments host s s.attachments = .ok () := by
  have hloop : ∀ attachments, (∀ a ∈ attachments, a ∈ s.attachments) →
      verifyAttachments host s attachments = .ok () := by
    intro attachments hsub
    induction attachments with
    | nil => rfl
    | cons a attachments ih =>
      obtain ⟨hmem, hrest⟩ := List.forall_mem_cons.mp hsub
      obtain ⟨index, extension, content, -, href, hheld, hsha⟩ := h a hmem
      rw [verifyAttachments, href, stripPrefix_append]
      simp only [hheld, hsha, ne_eq, not_true_eq_false, if_false]
      exact ih hrest
  exact hloop _ fun _ hmem => hmem

/-! ### Faithful snapshots -/

/-- The entry stands for the file: its reference leads to the copy of that file. -/
structure StandsFor (host : Host) (s : Staging) (file : Nat × List Name × Bytes)
    (entry : SnapshotEntry) : Prop where
  resolves : resolve entry.snapshotRef = some (target file)
  staged : s.snapshot (target file) = some file.2.2
  sha256 : entry.sha256 = host.sha256 file.2.2
  bytes : entry.bytes = file.2.2.length

/-- The entries are in one-to-one correspondence with the files that are wanted,
    by references that differ, and what has been built is accepted. -/
structure Faithful (host : Host) (brief : Brief) (manifest : SnapshotManifest)
    (s : Staging) : Prop where
  files : ∀ file, Evidence host (Admitted host) brief file →
    ∃! entry, entry ∈ manifest.entries ∧ StandsFor host s file entry
  entries : ∀ entry ∈ manifest.entries,
    ∃! file, Evidence host (Admitted host) brief file ∧ StandsFor host s file entry
  references : (manifest.entries.map (·.snapshotRef)).Nodup
  accepted : verifySnapshot host s manifest = .ok ()

/-- The names on the way to every file that is wanted, by its bytes or by its text,
    are texts. -/
def TextPaths (host : Host) (brief : Brief) : Prop :=
  ∀ file, Evidence host (Admitted host) brief file ∨
    Evidence host (snapshotEntryAllowed host · = true) brief file →
      ∀ name ∈ file.2.1, IsText name

/-- **What a build leaves**: the entries and the copies of the staged files. -/
theorem build_ok {policy : Policy} {brief : Brief} {manifest : SnapshotManifest} {s : Staging}
    (h : buildSnapshotWithIgnore host policy brief = (.ok manifest, s)) :
    manifest.entries.Perm ((inputFiles host 0 brief.evidenceRoots).map
        fun file => snapshotEntry host file.1 file.2.1 file.2.2) ∧
      s.snapshot = ((inputFiles host 0 brief.evidenceRoots).foldl (copied host)
        emptyStaging).snapshot ∧
      manifest.attachments = s.attachments ∧ ∃ given, Kept host given s := by
  have hleft : s = (stageInputs host policy brief).2 := by
    rw [← build_staging, h]
  obtain ⟨hdone, rfl⟩ := build_manifest (congrArg Prod.fst h)
  have hstage : stageInputs host policy brief = (.ok (), s) := by
    rw [hleft, ← hdone]
  rw [← hleft]
  unfold stageInputs at hstage
  rcases hroots : stageRoots host policy 0 brief.evidenceRoots emptyStaging with ⟨_ | _, u⟩
  · rw [hroots] at hstage
    exact nomatch (Prod.mk.inj hstage).1
  · rw [hroots] at hstage
    have hcopied := @stageRoots_eq host policy _ (stageRoots_isSome hroots) 0 emptyStaging
    rw [hroots] at hcopied
    obtain rfl := copyAll_ok hcopied.symm
    obtain ⟨hsnapshot, hentries, hkept⟩ := stageAttachments_ok hstage
    obtain ⟨hnoted, -, hattachments, -⟩ :=
      @foldl_copied host (inputFiles host 0 brief.evidenceRoots) emptyStaging
    refine ⟨?_, hsnapshot, rfl, hkept fun a ha => ?_⟩
    · have hnotes : s.entries = (inputFiles host 0 brief.evidenceRoots).map
          fun file => snapshotEntry host file.1 file.2.1 file.2.2 := hentries.trans hnoted
      rw [← hnotes]
      exact List.perm_insertionSort byRef s.entries
    · rw [hattachments] at ha
      exact nomatch ha

theorem legal_rootName (index : Nat) : Legal (utf8 (rootName index)) := by
  have hbytes : utf8 (rootName index)
      = [114, 111, 111, 116, 45] ++ Finance.utf8 (toString index).toList := by
    unfold rootName
    rw [utf8_eq, String.toList_append, Finance.utf8_append]
    rfl
  have hdigits : ∀ b ∈ Finance.utf8 (toString index).toList, 48 ≤ b.toNat ∨ 128 ≤ b.toNat := by
    intro b hb
    obtain ⟨c, hc, hbyte⟩ := List.mem_flatMap.mp hb
    have hdigit : c.isDigit = true := by
      apply Nat.isDigit_of_mem_toDigits (b := 10) (n := index) (by omega) (by omega)
      simpa using hc
    by_cases hsmall : b.toNat < 128
    · have hnat := Pi.toNat_of_mem_utf8EncodeChar hsmall hbyte
      unfold Char.isDigit at hdigit
      simp only [Bool.and_eq_true, decide_eq_true_eq] at hdigit
      exact Or.inl (hnat ▸ hdigit.1)
    · exact Or.inr (Nat.not_lt.mp hsmall)
  have hnot : ∀ b : UInt8, b ∉ [(114 : UInt8), 111, 111, 116, 45] → b.toNat < 48 →
      b ∉ utf8 (rootName index) := by
    intro b hfixed hsmall hb
    rw [hbytes] at hb
    rcases List.mem_append.mp hb with hb | hb
    · exact hfixed hb
    · have hlarge := hdigits b hb
      omega
  refine ⟨?_, hnot 47 (by decide) (by decide), hnot 0 (by decide) (by decide), ?_, ?_⟩
  · rw [hbytes]
    exact nofun
  · rw [hbytes]
    exact fun h => nomatch (List.cons.inj h).2
  · rw [hbytes]
    exact fun h => nomatch (List.cons.inj (List.cons.inj h).2).2

theorem Evidence.legal {allowed : List Name → Prop} {brief : Brief}
    {file : Nat × List Name × Bytes} (hsound : host.Sound)
    (h : Evidence host allowed brief file) : ∀ name ∈ file.2.1, Legal name := by
  obtain ⟨root, ⟨name, node⟩, -, hcanonical, hoffers⟩ := h
  unfold Offers at hoffers
  cases node with
  | file held =>
    rw [hoffers.2.1]
    exact List.forall_mem_singleton.mpr (hsound.names hcanonical)
  | dir len entries | symlink | special =>
    exact hoffers.legal (hsound.trees hcanonical) fun _ h => nomatch h

/-- **A reference** leads to the copy, where the path is one of texts. -/
theorem resolve_eq_target {allowed : List Name → Prop} {brief : Brief}
    {file : Nat × List Name × Bytes} (hsound : host.Sound)
    (hfile : Evidence host allowed brief file) (htext : ∀ name ∈ file.2.1, IsText name) :
    resolve (snapshotEntry host file.1 file.2.1 file.2.2).snapshotRef = some (target file) := by
  have hcomponents : components (relativeSlash (target file)) = target file :=
    relativeSlash_components (List.cons_ne_nil _ _)
      (List.forall_mem_cons.mpr ⟨legal_rootName _, hfile.legal hsound⟩)
      (List.forall_mem_cons.mpr ⟨⟨_, rfl⟩, htext⟩)
  rw [resolve_snapshotEntry, hcomponents]

/-- Only a path of texts is read from a reference. -/
theorem StandsFor.text {s : Staging} {file : Nat × List Name × Bytes} {entry : SnapshotEntry}
    (h : StandsFor host s file entry) : ∀ name ∈ file.2.1, IsText name := by
  intro name hname
  obtain ⟨relative, -, hcomponents⟩ := Option.map_eq_some_iff.mp h.resolves
  apply @isText_of_mem_components relative
  rw [hcomponents]
  exact List.mem_cons_of_mem _ hname

theorem evidence_iff {brief : Brief} {file : Nat × List Name × Bytes}
    (htext : ∀ name ∈ file.2.1, IsText name) :
    Evidence host (snapshotEntryAllowed host · = true) brief file ↔
      Evidence host (Admitted host) brief file := by
  unfold Evidence
  simp only [offers_iff htext]

/-- **What is staged** of a faithful snapshot is what is wanted: there are as many
    files of the one kind as of the other. -/
theorem Faithful.wanted {policy : Policy} {brief : Brief} {manifest : SnapshotManifest}
    {s : Staging} (hbuild : buildSnapshotWithIgnore host policy brief = (.ok manifest, s))
    (h : Faithful host brief manifest s) {file : Nat × List Name × Bytes}
    (hfile : Evidence host (snapshotEntryAllowed host · = true) brief file) :
    Evidence host (Admitted host) brief file := by
  obtain ⟨hperm, -⟩ := build_ok hbuild
  have hchosen : ∀ e : { e // e ∈ manifest.entries }, ∃ file,
      Evidence host (Admitted host) brief file ∧ StandsFor host s file e.1 :=
    fun e => (h.entries e.1 e.2).exists
  choose chosen hwanted hstands using hchosen
  have hnodup : (manifest.entries.attach.map chosen).Nodup := by
    refine (List.nodup_attach.mpr h.references.of_map).map_on fun e _ e' _ heq => ?_
    have hsame := (h.files _ (hwanted e)).unique ⟨e.2, hstands e⟩
      ⟨e'.2, heq ▸ hstands e'⟩
    exact Subtype.ext hsame
  have hsubset : manifest.entries.attach.map chosen ⊆ inputFiles host 0 brief.evidenceRoots := by
    intro other hother
    obtain ⟨e, -, rfl⟩ := List.mem_map.mp hother
    exact mem_inputFiles_iff.mpr ((evidence_iff (hstands e).text).mpr (hwanted e))
  have hlength : (inputFiles host 0 brief.evidenceRoots).length
      ≤ (manifest.entries.attach.map chosen).length := by
    rw [List.length_map, List.length_attach, hperm.length_eq, List.length_map]
  have hall := (hnodup.subperm hsubset).perm_of_length_le hlength
  obtain ⟨e, -, rfl⟩ := List.mem_map.mp (hall.mem_iff.mpr (mem_inputFiles_iff.mpr hfile))
  exact hwanted e

section text

variable {policy : Policy} {brief : Brief} {manifest : SnapshotManifest} {s : Staging}

/-- Where all paths are of texts, the files that are staged are those that are wanted. -/
theorem TextPaths.mem_inputFiles (htext : TextPaths host brief)
    (file : Nat × List Name × Bytes) :
    file ∈ inputFiles host 0 brief.evidenceRoots ↔ Evidence host (Admitted host) brief file := by
  rw [mem_inputFiles_iff]
  constructor
  · intro h
    exact (evidence_iff (htext file (Or.inr h))).mp h
  · intro h
    exact (evidence_iff (htext file (Or.inl h))).mpr h

/-- The entry of a staged file stands for it. -/
theorem TextPaths.standsFor (htext : TextPaths host brief) (hsound : host.Sound)
    (hsnapshot : s.snapshot = ((inputFiles host 0 brief.evidenceRoots).foldl (copied host)
      emptyStaging).snapshot) {file : Nat × List Name × Bytes}
    (hfile : file ∈ inputFiles host 0 brief.evidenceRoots) :
    StandsFor host s file (snapshotEntry host file.1 file.2.1 file.2.2) := by
  have hevidence := (htext.mem_inputFiles file).mp hfile
  refine ⟨resolve_eq_target hsound hevidence (htext file (Or.inl hevidence)), ?_, rfl, rfl⟩
  rw [hsnapshot]
  exact snapshot_foldl (nodup_targets hsound 0 brief.evidenceRoots) hfile

/-- References that lead to one place are of one file. -/
theorem eq_of_resolve (hsound : host.Sound) {file other : Nat × List Name × Bytes}
    {entry entry' : SnapshotEntry} (hfile : file ∈ inputFiles host 0 brief.evidenceRoots)
    (hother : other ∈ inputFiles host 0 brief.evidenceRoots) (h : StandsFor host s file entry)
    (h' : StandsFor host s other entry') (hsame : entry.snapshotRef = entry'.snapshotRef) :
    file = other := by
  have hresolve := congrArg resolve hsame
  rw [h.resolves, h'.resolves] at hresolve
  exact List.inj_on_of_nodup_map (nodup_targets hsound 0 brief.evidenceRoots) hfile hother
    (Option.some.inj hresolve)

theorem TextPaths.faithful (hsound : host.Sound) (htext : TextPaths host brief)
    (hbuild : buildSnapshotWithIgnore host policy brief = (.ok manifest, s)) :
    Faithful host brief manifest s := by
  obtain ⟨hperm, hsnapshot, hattachments, given, hkept⟩ := build_ok hbuild
  have hmem := htext.mem_inputFiles
  have hstands : ∀ {file}, file ∈ inputFiles host 0 brief.evidenceRoots →
      StandsFor host s file (snapshotEntry host file.1 file.2.1 file.2.2) :=
    htext.standsFor hsound hsnapshot
  have hentry : ∀ entry ∈ manifest.entries, ∃ file ∈ inputFiles host 0 brief.evidenceRoots,
      entry = snapshotEntry host file.1 file.2.1 file.2.2 ∧ StandsFor host s file entry := by
    intro entry hentry
    obtain ⟨file, hfile, rfl⟩ := List.mem_map.mp (hperm.mem_iff.mp hentry)
    exact ⟨file, hfile, rfl, hstands hfile⟩
  refine ⟨?_, ?_, ?_, ?_⟩
  · intro file hfile
    have hfile := (hmem file).mpr hfile
    refine ⟨_, ⟨hperm.mem_iff.mpr (List.mem_map.mpr ⟨file, hfile, rfl⟩), hstands hfile⟩, ?_⟩
    rintro other ⟨hother, h⟩
    obtain ⟨file', hfile', rfl, h'⟩ := hentry other hother
    rw [eq_of_resolve hsound hfile hfile' h h' rfl]
  · intro entry hmember
    obtain ⟨file, hfile, -, h⟩ := hentry entry hmember
    refine ⟨file, ⟨(hmem file).mp hfile, h⟩, ?_⟩
    rintro other ⟨hother, h'⟩
    exact eq_of_resolve hsound ((hmem other).mpr hother) hfile h' h rfl
  · rw [(hperm.map _).nodup_iff, List.map_map]
    refine (nodup_targets hsound 0 brief.evidenceRoots).of_map.map_on ?_
    intro file hfile other hother hsame
    exact eq_of_resolve hsound hfile hother (hstands hfile) (hstands hother) hsame
  · have hentries : verifyEntries host s manifest.entries = .ok () := by
      apply verifyEntries_ok
      intro entry hmember
      obtain ⟨file, -, -, h⟩ := hentry entry hmember
      exact ⟨_, _, h.resolves, h.staged, h.sha256⟩
    unfold verifySnapshot
    rw [hentries, hattachments]
    exact verifyAttachments_ok hkept

end text

/-- **Snapshot references are faithful** exactly where every file on the way is
    named by a text. -/
theorem snapshot_faithful_iff {policy : Policy} {brief : Brief} {manifest : SnapshotManifest}
    {s : Staging} (hsound : host.Sound)
    (hbuild : buildSnapshotWithIgnore host policy brief = (.ok manifest, s)) :
    Faithful host brief manifest s ↔ TextPaths host brief := by
  constructor
  · intro h file hfile
    have hwanted : Evidence host (Admitted host) brief file :=
      hfile.elim id fun hstaged => h.wanted hbuild hstaged
    obtain ⟨entry, ⟨-, hstands⟩, -⟩ := h.files file hwanted
    exact hstands.text
  · intro htext
    exact htext.faithful hsound hbuild

/-! ### A file that is no text -/

/-- A host with one directory, and one file in it. -/
def oneFile (name : Name) : Host where
  canonical root := if root = "evidence" then
    some (utf8 "evidence", .dir 0 [(name, .file [1])]) else none
  ignored _ := false
  sha256 _ := 0
  infer _ := none
  utcNow := ""

/-- A brief with that directory for its evidence. -/
def evidenceBrief : Brief :=
  { (default : Brief) with evidenceRoots := ["evidence"] }

theorem oneFile_canonical {name base : Name} {root : String} {node : Node}
    (h : (oneFile name).canonical root = some (base, node)) :
    node = .dir 0 [(name, .file [1])] := by
  unfold oneFile at h
  dsimp only at h
  by_cases hroot : root = "evidence"
  · rw [if_pos hroot] at h
    exact (Prod.mk.inj (Option.some.inj h)).2.symm
  · rw [if_neg hroot] at h
    exact nomatch h

theorem oneFile_sound {name : Name} (hlegal : Legal name) : (oneFile name).Sound where
  names h := nomatch oneFile_canonical h
  trees h := by
    rw [oneFile_canonical h]
    refine .dir (List.nodup_singleton _) ?_ ?_
    · exact List.forall_mem_singleton.mpr hlegal
    · exact List.forall_mem_singleton.mpr .file

theorem oneFile_path {name : Name} {allowed : List Name → Prop}
    {file : Nat × List Name × Bytes} (h : Evidence (oneFile name) allowed evidenceBrief file) :
    file.2.1 = [name] := by
  obtain ⟨index, found, content⟩ := file
  obtain ⟨root, ⟨base, node⟩, -, hcanonical, hoffers⟩ := h
  obtain rfl := oneFile_canonical hcanonical
  have hbelow : Below allowed [] (.dir 0 [(name, .file [1])]) found content := hoffers
  cases hbelow with
  | entry hmem _ hbelow =>
    obtain ⟨rfl, rfl⟩ := Prod.mk.inj (List.mem_singleton.mp hmem)
    cases hbelow
    rfl

/-- **What has just been built is rejected**, where a file has a name of one byte
    that is no text. -/
theorem references_unfaithful :
    ¬∀ (host : Host) (policy : Policy) (brief : Brief) (manifest : SnapshotManifest)
        (s : Staging), policy.validate = .ok () → host.Sound →
      buildSnapshotWithIgnore host policy brief = (.ok manifest, s) →
      Faithful host brief manifest s := by
  intro h
  have hrejected : (match buildSnapshotWithIgnore (oneFile [255]) (Policy.samplePolicy "rule")
      evidenceBrief with
    | (.ok manifest, s) => (verifySnapshot (oneFile [255]) s manifest).isOk
    | (.error _, _) => true) = false := by decide +kernel
  have hvalid : (Policy.samplePolicy "rule").validate = .ok () := by decide +kernel
  have hlegal : Legal [255] := ⟨by decide, by decide, by decide, by decide, by decide⟩
  rcases hbuild : buildSnapshotWithIgnore (oneFile [255]) (Policy.samplePolicy "rule")
      evidenceBrief with ⟨_ | manifest, s⟩
  · rw [hbuild] at hrejected
    exact nomatch hrejected
  · rw [hbuild] at hrejected
    dsimp only at hrejected
    rw [(h _ _ _ _ _ hvalid (oneFile_sound hlegal) hbuild).accepted] at hrejected
    exact nomatch hrejected

theorem snapshot_faithful_iff_sample : ∃ manifest s,
    buildSnapshotWithIgnore (oneFile (utf8 "a")) (Policy.samplePolicy "rule") evidenceBrief
      = (.ok manifest, s) ∧ Faithful (oneFile (utf8 "a")) evidenceBrief manifest s := by
  have hok : (buildSnapshotWithIgnore (oneFile (utf8 "a")) (Policy.samplePolicy "rule")
      evidenceBrief).1.isOk = true := by decide +kernel
  have hlegal : Legal (utf8 "a") := ⟨by decide, by decide, by decide, by decide, by decide⟩
  rcases hbuild : buildSnapshotWithIgnore (oneFile (utf8 "a")) (Policy.samplePolicy "rule")
      evidenceBrief with ⟨_ | manifest, s⟩
  · rw [hbuild] at hok
    exact nomatch hok
  · refine ⟨manifest, s, rfl, ?_⟩
    apply (snapshot_faithful_iff (oneFile_sound hlegal) hbuild).mpr
    intro file hfile
    rw [hfile.elim oneFile_path oneFile_path]
    exact List.forall_mem_singleton.mpr ⟨"a", rfl⟩

end Snapshot

end Quinte
