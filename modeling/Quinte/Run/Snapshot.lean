import Mathlib
import Quinte.Model.Policy

/-! # Snapshots

    `build_snapshot_with_ignore`: the files below the evidence roots and the
    attachments of a brief are copied into the run directory, under limits that
    come from the policy.  A file system is a tree per path; what walking it
    finds is a list of files (`filesBelow`), and the rest of the function is a
    loop over such lists.

    * `stageRoots_eq`: which roots are staged;
    * `snapshot_accounted_iff`: when no operation on sizes overflows, and what
      the sizes then add up to.
-/

namespace Quinte

namespace Snapshot

abbrev Bytes := List UInt8

/-- A file name, by its bytes. -/
abbrev Name := List UInt8

/-- What a path leads to. A directory has its entries in the order in which they
    are read. -/
inductive Node where
  | file (content : Bytes)
  | dir (len : Nat) (entries : List (Name × Node))
  | symlink
  | special
  deriving Inhabited

/-- `Metadata::len`. -/
def Node.len : Node → Nat
  | .file content => content.length
  | .dir len _ => len
  | .symlink | .special => 0

/-! ### Names as text -/

/-- The bytes `low..=high` or not. -/
def within (low high : UInt8) (b : Option UInt8) : Bool :=
  b.any fun b => low ≤ b && b ≤ high

/-- The extent of the next character, or of the longest start of one that is to
    be replaced, and which of the two it is. -/
def nextChunk : Bytes → Nat × Bool
  | [] => (0, true)
  | b :: rest =>
      let continued (low high : UInt8) (more : Nat) : Nat × Bool :=
        if within low high rest[0]? = false then (1, false)
        else if more = 1 then (2, true)
        else if within 0x80 0xBF rest[1]? = false then (2, false)
        else if more = 2 then (3, true)
        else if within 0x80 0xBF rest[2]? = false then (3, false)
        else (4, true)
      if b < 0x80 then (1, true)
      else if b < 0xC2 then (1, false)
      else if b < 0xE0 then continued 0x80 0xBF 1
      else if b = 0xE0 then continued 0xA0 0xBF 2
      else if b = 0xED then continued 0x80 0x9F 2
      else if b < 0xF0 then continued 0x80 0xBF 2
      else if b = 0xF0 then continued 0x90 0xBF 3
      else if b < 0xF4 then continued 0x80 0xBF 3
      else if b = 0xF4 then continued 0x80 0x8F 3
      else (1, false)

/-- Every maximal part that is no character becomes a replacement character. -/
def replaceInvalid : Bytes → List Char
  | [] => []
  | b :: rest =>
      let (extent, valid) := nextChunk (b :: rest)
      (if valid then
        ((String.fromUTF8? ((b :: rest).take extent).toByteArray).map String.toList).getD []
      else ['\uFFFD']) ++ replaceInvalid (rest.drop (extent - 1))
termination_by bytes => bytes.length
decreasing_by
  simp only [List.length_drop, List.length_cons]
  omega

/-- `OsStr::to_string_lossy`. -/
def toStringLossy (name : Name) : String :=
  match String.fromUTF8? name.toByteArray with
  | some s => s
  | none => String.ofList (replaceInvalid name)

/-- `relative_slash`. -/
def relativeSlash (path : List Name) : String :=
  "/".intercalate (path.map toStringLossy)

/-- The bytes of a text. -/
def utf8 (s : String) : Bytes :=
  s.toUTF8.data.toList

/-! ### Host and inputs -/

/-- What a snapshot is taken with: where a path leads once symbolic links are
    resolved, with the name it then ends in, the patterns of `snapshot_ignore`
    on the bytes of a path, `sha256`, the media type and the extension of a
    file that starts with these bytes, and the time. -/
structure Host where
  canonical : String → Option (Name × Node)
  ignored : Bytes → Bool
  sha256 : Bytes → Digest
  infer : Bytes → Option (String × String)
  utcNow : String

variable {host : Host} {policy : Policy}

/-- `snapshot_entry_allowed`, for an entry below the root. -/
def snapshotEntryAllowed (host : Host) (path : List Name) : Bool :=
  let name := toStringLossy (path.getLastD [])
  let allowed := !([".git", "node_modules", "target", ".quinte", ".env"].contains name)
    && !".key".toList.isSuffixOf name.toList && !".pem".toList.isSuffixOf name.toList
  allowed && !host.ignored (utf8 (relativeSlash path))

mutual

/-- The files that `WalkDir` yields below a node, each with its path from the
    root. -/
def filesBelow (allowed : List Name → Bool) (path : List Name) : Node → List (List Name × Bytes)
  | .file content => [(path, content)]
  | .dir _ entries => filesOf allowed path entries
  | .symlink | .special => []

def filesOf (allowed : List Name → Bool) (path : List Name) :
    List (Name × Node) → List (List Name × Bytes)
  | [] => []
  | (name, node) :: entries =>
      (if allowed (path ++ [name]) then filesBelow allowed (path ++ [name]) node else [])
        ++ filesOf allowed path entries

end

/-- What is staged of an evidence root: a file goes by its own name, whatever
    the names that a directory may not contain. -/
def rootFiles (host : Host) : Name × Node → List (List Name × Bytes)
  | (name, .file content) => if host.ignored name then [] else [([name], content)]
  | (_, node) => filesBelow (snapshotEntryAllowed host) [] node

/-! ### Staging -/

/-- `input/snapshot` and `input/attachments` with what has been noted of them.
    `overflowed` is history: an operation on 64-bit numbers has overflowed. -/
structure Staging where
  snapshot : List Name → Option Bytes
  attachmentFiles : String → Option Bytes
  entries : List SnapshotEntry
  attachments : List AttachmentEntry
  totalBytes : Nat
  overflowed : Bool

def emptyStaging : Staging where
  snapshot _ := none
  attachmentFiles _ := none
  entries := []
  attachments := []
  totalBytes := 0
  overflowed := false

/-- `root-{root_index}`. -/
def rootName (rootIndex : Nat) : String :=
  "root-" ++ toString rootIndex

/-- The media type of a snapshot file. -/
def mediaType (host : Host) (content : Bytes) : String :=
  ((host.infer (content.take (16 * 1024))).map (·.1)).getD "text/plain"

/-- The entry of a file that has been copied. -/
def snapshotEntry (host : Host) (rootIndex : Nat) (path : List Name) (content : Bytes) :
    SnapshotEntry where
  snapshotRef := "snapshot://" ++ relativeSlash (utf8 (rootName rootIndex) :: path)
  sourceName := toStringLossy (path.getLastD [])
  sha256 := host.sha256 content
  bytes := content.length
  mediaType := mediaType host content

/-- `copy_snapshot_file`. -/
def copySnapshotFile (host : Host) (policy : Policy) (rootIndex : Nat) (path : List Name)
    (content : Bytes) (s : Staging) : Except String Unit × Staging :=
  let nextTotal := s.totalBytes + content.length
  if 2 ^ 64 ≤ nextTotal then (.error "evidence snapshot byte count overflow", s)
  else if policy.maxSnapshotFiles < s.entries.length + 1 ∨ policy.maxSnapshotBytes < nextTotal then
    (.error "evidence snapshot exceeds policy file/byte limit", s)
  else
    (.ok (), { s with
      snapshot := fun target =>
        if target = utf8 (rootName rootIndex) :: path then some content else s.snapshot target
      entries := s.entries ++ [snapshotEntry host rootIndex path content]
      totalBytes := nextTotal })

/-- The loop over what is staged of a root. -/
def stageFiles (host : Host) (policy : Policy) (rootIndex : Nat) :
    List (List Name × Bytes) → Staging → Except String Unit × Staging
  | [], s => (.ok (), s)
  | (path, content) :: files, s =>
      match copySnapshotFile host policy rootIndex path content s with
      | (.ok _, s) => stageFiles host policy rootIndex files s
      | failed => failed

/-- The loop over the evidence roots. -/
def stageRoots (host : Host) (policy : Policy) :
    Nat → List String → Staging → Except String Unit × Staging
  | _, [], s => (.ok (), s)
  | rootIndex, root :: roots, s =>
      match host.canonical root with
      | none => (.error ("path does not exist: " ++ root), s)
      | some resolved =>
        match stageFiles host policy rootIndex (rootFiles host resolved) s with
        | (.ok _, s) => stageRoots host policy (rootIndex + 1) roots s
        | failed => failed

/-- `policy.max_snapshot_bytes + policy.max_attachment_bytes * 10`, which wraps. -/
def attachmentLimit (policy : Policy) : Nat :=
  (policy.maxSnapshotBytes + policy.maxAttachmentBytes * 10 % 2 ^ 64) % 2 ^ 64

/-- One of the two operations overflows. -/
def limitOverflows (policy : Policy) : Bool :=
  2 ^ 64 ≤ policy.maxAttachmentBytes * 10
    || 2 ^ 64 ≤ policy.maxSnapshotBytes + policy.maxAttachmentBytes * 10 % 2 ^ 64

def attachmentName (index : Nat) (extension : String) : String :=
  "attachment-" ++ toString index ++ "." ++ extension

/-- One turn of the loop over the attachments. The limit is only computed where
    the attachment is a regular file that is not too long by itself. -/
def stageAttachment (host : Host) (policy : Policy) (index : Nat) (path : String) (s : Staging) :
    Except String Unit × Staging :=
  match host.canonical path with
  | none => (.error ("path does not exist: " ++ path), s)
  | some (name, node) =>
    let nextTotal := s.totalBytes + node.len
    if 2 ^ 64 ≤ nextTotal then (.error "snapshot attachment byte count overflow", s)
    else
      match node with
      | .file content =>
        if policy.maxAttachmentBytes < content.length then
          (.error ("attachment " ++ path ++ " is not a permitted regular file"), s)
        else
          let s := { s with overflowed := s.overflowed || limitOverflows policy }
          if attachmentLimit policy < nextTotal then
            (.error ("attachment " ++ path ++ " is not a permitted regular file"), s)
          else
            match host.infer (content.take (16 * 1024)) with
            | none => (.error ("cannot detect attachment type for " ++ path), s)
            | some (mediaType, extension) =>
              if !(["image/png", "image/jpeg", "image/webp", "image/gif"].contains mediaType) then
                (.error ("unsupported attachment media type " ++ mediaType), s)
              else
                (.ok (), { s with
                  attachmentFiles := fun target =>
                    if target = attachmentName index extension then some content
                    else s.attachmentFiles target
                  attachments := s.attachments ++ [{
                    attachmentRef := "attachment://" ++ attachmentName index extension
                    sourceName := toStringLossy name
                    sha256 := host.sha256 content
                    bytes := content.length
                    mediaType := mediaType }]
                  totalBytes := nextTotal })
      | _ => (.error ("attachment " ++ path ++ " is not a permitted regular file"), s)

def stageAttachments (host : Host) (policy : Policy) :
    Nat → List String → Staging → Except String Unit × Staging
  | _, [], s => (.ok (), s)
  | index, path :: paths, s =>
      match stageAttachment host policy index path s with
      | (.ok _, s) => stageAttachments host policy (index + 1) paths s
      | failed => failed

/-- Both loops. -/
def stageInputs (host : Host) (policy : Policy) (brief : Brief) : Except String Unit × Staging :=
  match stageRoots host policy 0 brief.evidenceRoots emptyStaging with
  | (.ok _, s) => stageAttachments host policy 0 brief.attachments s
  | failed => failed

def byRef (a b : SnapshotEntry) : Prop := a.snapshotRef ≤ b.snapshotRef

instance : DecidableRel byRef := fun a b =>
  inferInstanceAs (Decidable (a.snapshotRef ≤ b.snapshotRef))

/-- The manifest of what has been staged. -/
def snapshotManifest (host : Host) (s : Staging) : SnapshotManifest where
  snapshotVersion := "1.0"
  createdAt := host.utcNow
  entries := s.entries.insertionSort byRef
  attachments := s.attachments
  totalBytes := s.totalBytes

/-- `build_snapshot_with_ignore`, and what it leaves in the run directory. -/
def buildSnapshotWithIgnore (host : Host) (policy : Policy) (brief : Brief) :
    Except String SnapshotManifest × Staging :=
  match stageInputs host policy brief with
  | (.ok _, s) => (.ok (snapshotManifest host s), s)
  | (.error message, s) => (.error message, s)

/-! ### Copying -/

/-- Everything that is staged of the evidence roots, by the index of its root. -/
def inputFiles (host : Host) : Nat → List String → List (Nat × List Name × Bytes)
  | _, [] => []
  | rootIndex, root :: roots =>
      ((host.canonical root).elim [] (rootFiles host)).map (rootIndex, ·)
        ++ inputFiles host (rootIndex + 1) roots

/-- Copy one file after another. -/
def copyAll (host : Host) (policy : Policy) :
    List (Nat × List Name × Bytes) → Staging → Except String Unit × Staging
  | [], s => (.ok (), s)
  | (rootIndex, path, content) :: files, s =>
      match copySnapshotFile host policy rootIndex path content s with
      | (.ok _, s) => copyAll host policy files s
      | failed => failed

theorem copyAll_append (files others : List (Nat × List Name × Bytes)) (s : Staging) :
    copyAll host policy (files ++ others) s
      = match copyAll host policy files s with
        | (.ok _, s) => copyAll host policy others s
        | failed => failed := by
  induction files generalizing s with
  | nil => rfl
  | cons file files ih =>
    obtain ⟨rootIndex, path, content⟩ := file
    rw [List.cons_append, copyAll, copyAll]
    rcases copySnapshotFile host policy rootIndex path content s with ⟨_ | _, t⟩
    · rfl
    · exact ih t

theorem stageFiles_eq (rootIndex : Nat) (files : List (List Name × Bytes)) (s : Staging) :
    stageFiles host policy rootIndex files s
      = copyAll host policy (files.map (rootIndex, ·)) s := by
  induction files generalizing s with
  | nil => rfl
  | cons file files ih =>
    obtain ⟨path, content⟩ := file
    rw [stageFiles, List.map_cons, copyAll]
    rcases copySnapshotFile host policy rootIndex path content s with ⟨_ | _, t⟩
    · rfl
    · exact ih t

/-- Roots that exist are staged file by file. -/
theorem stageRoots_eq {roots : List String} (h : ∀ root ∈ roots, (host.canonical root).isSome)
    (rootIndex : Nat) (s : Staging) :
    stageRoots host policy rootIndex roots s
      = copyAll host policy (inputFiles host rootIndex roots) s := by
  induction roots generalizing rootIndex s with
  | nil => rfl
  | cons root roots ih =>
    obtain ⟨hroot, hroots⟩ := List.forall_mem_cons.mp h
    obtain ⟨resolved, hresolved⟩ := Option.isSome_iff_exists.mp hroot
    rw [stageRoots, inputFiles, hresolved, copyAll_append]
    simp only [Option.elim, stageFiles_eq]
    rcases copyAll host policy ((rootFiles host resolved).map (rootIndex, ·)) s with ⟨_ | _, t⟩
    · rfl
    · exact ih hroots _ t

/-- The bytes of these files. -/
def sizeOf (files : List (Nat × List Name × Bytes)) : Nat :=
  (files.map fun file => file.2.2.length).sum

/-- Within the limits of the policy. -/
def Fits (policy : Policy) (count bytes : Nat) : Prop :=
  count ≤ policy.maxSnapshotFiles ∧ bytes ≤ policy.maxSnapshotBytes

/-- Where the files are copied to. -/
def copied (host : Host) (s : Staging) (file : Nat × List Name × Bytes) : Staging :=
  { s with
    snapshot := fun target =>
      if target = utf8 (rootName file.1) :: file.2.1 then some file.2.2 else s.snapshot target
    entries := s.entries ++ [snapshotEntry host file.1 file.2.1 file.2.2]
    totalBytes := s.totalBytes + file.2.2.length }

theorem copySnapshotFile_eq (hbytes : policy.maxSnapshotBytes < 2 ^ 64)
    (file : Nat × List Name × Bytes) (s : Staging) :
    (Fits policy (s.entries.length + 1) (s.totalBytes + file.2.2.length) ∧
      copySnapshotFile host policy file.1 file.2.1 file.2.2 s = (.ok (), copied host s file)) ∨
    (¬Fits policy (s.entries.length + 1) (s.totalBytes + file.2.2.length) ∧
      ∃ message,
        copySnapshotFile host policy file.1 file.2.1 file.2.2 s = (.error message, s)) := by
  unfold copySnapshotFile Fits
  by_cases hover : 2 ^ 64 ≤ s.totalBytes + file.2.2.length
  · refine Or.inr ⟨fun hfits => ?_, _, if_pos hover⟩
    omega
  · simp only [if_neg hover]
    by_cases hlimit : policy.maxSnapshotFiles < s.entries.length + 1
        ∨ policy.maxSnapshotBytes < s.totalBytes + file.2.2.length
    · refine Or.inr ⟨fun hfits => ?_, _, if_pos hlimit⟩
      omega
    · refine Or.inl ⟨?_, if_neg hlimit⟩
      omega

/-- **Copying** goes through exactly where everything fits, and touches nothing
    else. -/
theorem copyAll_spec (hbytes : policy.maxSnapshotBytes < 2 ^ 64)
    (files : List (Nat × List Name × Bytes)) (s : Staging)
    (hstart : Fits policy s.entries.length s.totalBytes) :
    (Fits policy (s.entries.length + files.length) (s.totalBytes + sizeOf files) ∧
      copyAll host policy files s = (.ok (), files.foldl (copied host) s)) ∨
    (¬Fits policy (s.entries.length + files.length) (s.totalBytes + sizeOf files) ∧
      ∃ message t, copyAll host policy files s = (.error message, t) ∧
        t.overflowed = s.overflowed) := by
  induction files generalizing s with
  | nil => exact Or.inl ⟨hstart, rfl⟩
  | cons file files ih =>
    have hsize : sizeOf (file :: files) = file.2.2.length + sizeOf files := by
      simp [sizeOf]
    rw [copyAll, hsize, List.length_cons]
    rcases @copySnapshotFile_eq host policy hbytes file s with ⟨hfits, hcopy⟩ | ⟨hnot, _, hcopy⟩
    · rw [hcopy]
      have hnext := ih (copied host s file) (by simpa [copied] using hfits)
      have hlength : (copied host s file).entries.length = s.entries.length + 1 := by
        simp [copied]
      have htotal : (copied host s file).totalBytes = s.totalBytes + file.2.2.length := rfl
      rw [hlength, htotal, Nat.add_assoc, Nat.add_assoc, Nat.add_comm 1] at hnext
      exact hnext
    · rw [hcopy]
      refine Or.inr ⟨fun hfits => hnot ?_, _, _, rfl, rfl⟩
      obtain ⟨hcount, hsum⟩ := hfits
      exact ⟨by omega, by omega⟩

theorem foldl_copied (files : List (Nat × List Name × Bytes)) (s : Staging) :
    (files.foldl (copied host) s).entries
        = s.entries ++ files.map (fun file => snapshotEntry host file.1 file.2.1 file.2.2) ∧
      (files.foldl (copied host) s).totalBytes = s.totalBytes + sizeOf files ∧
      (files.foldl (copied host) s).attachments = s.attachments ∧
      (files.foldl (copied host) s).attachmentFiles = s.attachmentFiles ∧
      (files.foldl (copied host) s).overflowed = s.overflowed := by
  induction files generalizing s with
  | nil => simp [sizeOf]
  | cons file files ih =>
    obtain ⟨hentries, htotal, hrest⟩ := ih (copied host s file)
    refine ⟨?_, ?_, hrest⟩
    · rw [List.foldl_cons, hentries]
      simp [copied]
    · rw [List.foldl_cons, htotal]
      simp [copied, sizeOf, Nat.add_assoc]

/-! ### Accounts -/

/-- The bytes of the entries. -/
def entryBytes (entries : List SnapshotEntry) : Nat :=
  (entries.map (·.bytes)).sum

def attachmentBytes (attachments : List AttachmentEntry) : Nat :=
  (attachments.map (·.bytes)).sum

/-- The sizes add up, and are within the limits in exact arithmetic. -/
structure Accounts (policy : Policy) (entries : List SnapshotEntry)
    (attachments : List AttachmentEntry) (totalBytes : Nat) : Prop where
  total : totalBytes = entryBytes entries + attachmentBytes attachments
  files : entries.length ≤ policy.maxSnapshotFiles
  bytes : entryBytes entries ≤ policy.maxSnapshotBytes
  each : ∀ a ∈ attachments, a.bytes ≤ policy.maxAttachmentBytes
  limit : totalBytes ≤ policy.maxSnapshotBytes + 10 * policy.maxAttachmentBytes

abbrev Staging.Accounts (policy : Policy) (s : Staging) : Prop :=
  Snapshot.Accounts policy s.entries s.attachments s.totalBytes

theorem limitOverflows_iff :
    limitOverflows policy = true ↔
      2 ^ 64 ≤ policy.maxSnapshotBytes + 10 * policy.maxAttachmentBytes := by
  unfold limitOverflows
  rw [Bool.or_eq_true, decide_eq_true_eq, decide_eq_true_eq]
  omega

/-- A limit that wraps is the stricter for it. -/
theorem attachmentLimit_le :
    attachmentLimit policy ≤ policy.maxSnapshotBytes + 10 * policy.maxAttachmentBytes := by
  unfold attachmentLimit
  omega

/-- The attachment gets as far as the limit. -/
def Reaches (host : Host) (policy : Policy) (total : Nat) (path : String) : Prop :=
  ∃ name content, host.canonical path = some (name, .file content) ∧
    total + content.length < 2 ^ 64 ∧ content.length ≤ policy.maxAttachmentBytes

/-- What one attachment adds. -/
def attached (host : Host) (policy : Policy) (index : Nat) (name : Name) (content : Bytes)
    (mediaType extension : String) (s : Staging) : Staging :=
  { s with
    overflowed := s.overflowed || limitOverflows policy
    attachmentFiles := fun target =>
      if target = attachmentName index extension then some content else s.attachmentFiles target
    attachments := s.attachments ++ [{
      attachmentRef := "attachment://" ++ attachmentName index extension
      sourceName := toStringLossy name
      sha256 := host.sha256 content
      bytes := content.length
      mediaType := mediaType }]
    totalBytes := s.totalBytes + content.length }

/-- **One attachment**: it does not get as far as the limit, or it fails there or
    later, or it is staged. -/
theorem stageAttachment_cases (host : Host) (policy : Policy) (index : Nat) (path : String)
    (s : Staging) :
    (¬Reaches host policy s.totalBytes path ∧
      ∃ message, stageAttachment host policy index path s = (.error message, s)) ∨
    (Reaches host policy s.totalBytes path ∧
      ((∃ message, stageAttachment host policy index path s
          = (.error message, { s with overflowed := s.overflowed || limitOverflows policy })) ∨
        ∃ name content mediaType extension, content.length ≤ policy.maxAttachmentBytes ∧
          s.totalBytes + content.length ≤ attachmentLimit policy ∧
          stageAttachment host policy index path s
            = (.ok (), attached host policy index name content mediaType extension s))) := by
  unfold stageAttachment
  cases hcanonical : host.canonical path with
  | none =>
    refine Or.inl ⟨fun ⟨_, _, hfile, _⟩ => ?_, _, rfl⟩
    exact nomatch hcanonical.symm.trans hfile
  | some resolved =>
    obtain ⟨name, node⟩ := resolved
    dsimp only
    -- the limit is for regular files, as only they get as far as it
    have hfound : ∀ {other content}, host.canonical path = some (other, .file content) →
        node = .file content := fun hfile =>
      (Prod.mk.inj (Option.some.inj (hcanonical.symm.trans hfile))).2
    by_cases hover : 2 ^ 64 ≤ s.totalBytes + node.len
    · rw [if_pos hover]
      refine Or.inl ⟨fun ⟨_, content, hfile, hsum, _⟩ => ?_, _, rfl⟩
      obtain rfl := hfound hfile
      exact absurd hsum (Nat.not_lt.mpr hover)
    rw [if_neg hover]
    cases node with
    | dir len entries | symlink | special =>
      exact Or.inl ⟨fun ⟨_, _, hfile, _⟩ => (nomatch hfound hfile), _, rfl⟩
    | file content =>
      dsimp only
      by_cases hlong : policy.maxAttachmentBytes < content.length
      · rw [if_pos hlong]
        refine Or.inl ⟨fun ⟨_, content', hfile, _, hshort⟩ => ?_, _, rfl⟩
        obtain rfl := Node.file.inj (hfound hfile)
        exact absurd hshort (Nat.not_le.mpr hlong)
      rw [if_neg hlong]
      -- from here on the limit has been computed
      have hreaches : Reaches host policy s.totalBytes path :=
        ⟨name, content, hcanonical, Nat.not_le.mp hover, Nat.not_lt.mp hlong⟩
      refine Or.inr ⟨hreaches, ?_⟩
      by_cases hlimit : attachmentLimit policy < s.totalBytes + (Node.file content).len
      · rw [if_pos hlimit]
        exact Or.inl ⟨_, rfl⟩
      rw [if_neg hlimit]
      cases hinfer : host.infer (content.take (16 * 1024)) with
      | none => exact Or.inl ⟨_, rfl⟩
      | some kind =>
        obtain ⟨mediaType, extension⟩ := kind
        dsimp only
        split
        · exact Or.inl ⟨_, rfl⟩
        · exact Or.inr ⟨name, content, mediaType, extension, Nat.not_lt.mp hlong,
            Nat.not_lt.mp hlimit, rfl⟩

/-- The sizes still add up where an attachment is staged. -/
theorem accounts_attached {index : Nat} {name : Name} {content : Bytes}
    {mediaType extension : String} {s : Staging}
    (hshort : content.length ≤ policy.maxAttachmentBytes)
    (hlimit : s.totalBytes + content.length ≤ attachmentLimit policy) (h : s.Accounts policy) :
    (attached host policy index name content mediaType extension s).Accounts policy := by
  refine ⟨?_, h.files, h.bytes, ?_, hlimit.trans attachmentLimit_le⟩
  · have htotal := h.total
    simp only [attached, attachmentBytes, List.map_append, List.sum_append, List.map_cons,
      List.map_nil, List.sum_cons, List.sum_nil] at htotal ⊢
    omega
  · intro a ha
    rcases List.mem_append.mp ha with ha | ha
    · exact h.each a ha
    · rw [List.mem_singleton.mp ha]
      exact hshort

/-- The limit is computed where it is reached. -/
theorem stageAttachment_spec (host : Host) (policy : Policy) (index : Nat) (path : String)
    (s : Staging) :
    ((stageAttachment host policy index path s).2.overflowed = true ↔
      s.overflowed = true ∨ Reaches host policy s.totalBytes path ∧ limitOverflows policy = true) ∧
    ((stageAttachment host policy index path s).1 = .ok () →
      Reaches host policy s.totalBytes path ∧
      (s.Accounts policy → (stageAttachment host policy index path s).2.Accounts policy)) := by
  rcases stageAttachment_cases host policy index path s with ⟨hnot, message, hturn⟩ |
    ⟨hreaches, ⟨message, hturn⟩ | ⟨name, content, mediaType, extension, hshort, hlimit, hturn⟩⟩
  · rw [hturn]
    exact ⟨by simp [hnot], fun hok => nomatch hok⟩
  · rw [hturn]
    exact ⟨by simp [hreaches], fun hok => nomatch hok⟩
  · rw [hturn]
    exact ⟨by simp [hreaches, attached], fun _ => ⟨hreaches, accounts_attached hshort hlimit⟩⟩

/-- **The loop** overflows where its first turn does. -/
theorem stageAttachments_spec (host : Host) (policy : Policy) (index : Nat) (paths : List String)
    (s : Staging) :
    ((stageAttachments host policy index paths s).2.overflowed = true ↔
      s.overflowed = true ∨
        (∃ path ∈ paths.head?, Reaches host policy s.totalBytes path) ∧
          limitOverflows policy = true) ∧
    ((stageAttachments host policy index paths s).1 = .ok () → s.Accounts policy →
      (stageAttachments host policy index paths s).2.Accounts policy) := by
  induction paths generalizing index s with
  | nil => exact ⟨by simp [stageAttachments], fun _ => id⟩
  | cons path paths ih =>
    obtain ⟨hover, hok⟩ := stageAttachment_spec host policy index path s
    rw [stageAttachments]
    rcases hturn : stageAttachment host policy index path s with ⟨message | _, t⟩
    · rw [hturn] at hover
      exact ⟨by simpa using hover, fun h => nomatch h⟩
    · rw [hturn] at hover hok
      obtain ⟨hreaches, haccounts⟩ := hok rfl
      obtain ⟨hover', hok'⟩ := ih (index + 1) t
      refine ⟨hover'.trans ?_, fun hdone h => hok' hdone (haccounts h)⟩
      dsimp only at hover
      rw [hover]
      simp only [hreaches, List.head?_cons, Option.mem_def, Option.some.injEq, exists_eq_left',
        true_and]
      exact or_iff_left_of_imp fun ⟨_, hlimit⟩ => Or.inr hlimit

theorem entryBytes_sort (entries : List SnapshotEntry) :
    entryBytes (entries.insertionSort byRef) = entryBytes entries :=
  ((List.perm_insertionSort byRef entries).map _).sum_eq

/-- Snapshot accounting in order: nothing has overflowed, and the sizes of a
    manifest add up to its total, all within the limits. -/
def Accounted (host : Host) (policy : Policy) (brief : Brief) : Prop :=
  (buildSnapshotWithIgnore host policy brief).2.overflowed = false ∧
    ∀ manifest, (buildSnapshotWithIgnore host policy brief).1 = .ok manifest →
      Accounts policy manifest.entries manifest.attachments manifest.totalBytes

/-- The evidence goes through, and the first attachment is a regular file that is
    short enough for the limit to be computed. -/
def ComputesLimit (host : Host) (policy : Policy) (brief : Brief) : Prop :=
  Fits policy (inputFiles host 0 brief.evidenceRoots).length
      (sizeOf (inputFiles host 0 brief.evidenceRoots)) ∧
    ∃ path ∈ brief.attachments.head?,
      Reaches host policy (sizeOf (inputFiles host 0 brief.evidenceRoots)) path

/-- The evidence roots, staged or not. -/
theorem stageInputs_eq (hbytes : policy.maxSnapshotBytes < 2 ^ 64) {brief : Brief}
    (hroots : ∀ root ∈ brief.evidenceRoots, (host.canonical root).isSome) :
    (Fits policy (inputFiles host 0 brief.evidenceRoots).length
        (sizeOf (inputFiles host 0 brief.evidenceRoots)) ∧
      stageInputs host policy brief = stageAttachments host policy 0 brief.attachments
        ((inputFiles host 0 brief.evidenceRoots).foldl (copied host) emptyStaging)) ∨
    (¬Fits policy (inputFiles host 0 brief.evidenceRoots).length
        (sizeOf (inputFiles host 0 brief.evidenceRoots)) ∧
      ∃ message t, stageInputs host policy brief = (.error message, t) ∧
        t.overflowed = false) := by
  have hspec := @copyAll_spec host policy hbytes (inputFiles host 0 brief.evidenceRoots)
    emptyStaging ⟨Nat.zero_le _, Nat.zero_le _⟩
  simp only [emptyStaging, List.length_nil, Nat.zero_add] at hspec
  unfold stageInputs
  rw [stageRoots_eq hroots]
  rcases hspec with ⟨hfits, hcopy⟩ | ⟨hnot, message, t, hcopy, hover⟩
  · refine Or.inl ⟨hfits, ?_⟩
    simp only [emptyStaging, hcopy]
  · refine Or.inr ⟨hnot, message, t, ?_, hover⟩
    simp only [emptyStaging, hcopy]

theorem accounts_copied {files : List (Nat × List Name × Bytes)}
    (hfits : Fits policy files.length (sizeOf files)) :
    (files.foldl (copied host) emptyStaging).Accounts policy := by
  obtain ⟨hentries, htotal, hattachments, -⟩ := @foldl_copied host files emptyStaging
  have hbytes : entryBytes (files.map fun file => snapshotEntry host file.1 file.2.1 file.2.2)
      = sizeOf files := by
    simp [entryBytes, sizeOf, snapshotEntry, Function.comp_def]
  unfold Staging.Accounts
  rw [hentries, htotal, hattachments]
  simp only [emptyStaging, List.nil_append, Nat.zero_add]
  refine ⟨by simp [hbytes, attachmentBytes], by simpa using hfits.1, hbytes ▸ hfits.2,
    fun _ ha => (nomatch ha), hfits.2.trans (Nat.le_add_right ..)⟩

theorem build_staging (host : Host) (policy : Policy) (brief : Brief) :
    (buildSnapshotWithIgnore host policy brief).2 = (stageInputs host policy brief).2 := by
  unfold buildSnapshotWithIgnore
  rcases stageInputs host policy brief with ⟨_ | _, t⟩ <;> rfl

theorem build_manifest {brief : Brief} {manifest : SnapshotManifest}
    (h : (buildSnapshotWithIgnore host policy brief).1 = .ok manifest) :
    (stageInputs host policy brief).1 = .ok () ∧
      manifest = snapshotManifest host (stageInputs host policy brief).2 := by
  unfold buildSnapshotWithIgnore at h
  rcases hinputs : stageInputs host policy brief with ⟨_ | _, t⟩
  · rw [hinputs] at h
    exact nomatch h
  · rw [hinputs] at h
    exact ⟨rfl, (Except.ok.inj h).symm⟩

/-- The manifest has the entries of the staging in another order. -/
theorem accounts_manifest {s : Staging} (h : s.Accounts policy) :
    Accounts policy (snapshotManifest host s).entries (snapshotManifest host s).attachments
      (snapshotManifest host s).totalBytes := by
  unfold snapshotManifest
  refine ⟨?_, ?_, ?_, h.each, h.limit⟩
  · rw [entryBytes_sort]
    exact h.total
  · rw [List.length_insertionSort]
    exact h.files
  · rw [entryBytes_sort]
    exact h.bytes

/-- **Snapshot accounting** is in order exactly where the limit on attachments is
    a 64-bit number or is never computed. -/
theorem snapshot_accounted_iff (host : Host) (policy : Policy) (brief : Brief)
    (hbytes : policy.maxSnapshotBytes < 2 ^ 64)
    (hroots : ∀ root ∈ brief.evidenceRoots, (host.canonical root).isSome) :
    Accounted host policy brief ↔
      policy.maxSnapshotBytes + 10 * policy.maxAttachmentBytes < 2 ^ 64 ∨
        ¬ComputesLimit host policy brief := by
  unfold Accounted ComputesLimit
  rw [build_staging]
  rcases stageInputs_eq hbytes hroots with ⟨hfits, hstage⟩ | ⟨hnofit, message, t, hstage, hover⟩
  · obtain ⟨-, htotal, -, -, hstart⟩ :=
      @foldl_copied host (inputFiles host 0 brief.evidenceRoots) emptyStaging
    have hspec := stageAttachments_spec host policy 0 brief.attachments
      ((inputFiles host 0 brief.evidenceRoots).foldl (copied host) emptyStaging)
    rw [← hstage, hstart, htotal, limitOverflows_iff] at hspec
    simp only [emptyStaging, Nat.zero_add, Bool.false_eq_true, false_or] at hspec
    obtain ⟨hoverflows, haccounts⟩ := hspec
    have hsizes : ∀ manifest, (buildSnapshotWithIgnore host policy brief).1 = .ok manifest →
        Accounts policy manifest.entries manifest.attachments manifest.totalBytes := by
      intro manifest hok
      obtain ⟨hdone, rfl⟩ := build_manifest hok
      exact accounts_manifest (haccounts hdone (accounts_copied hfits))
    rw [← Bool.not_eq_true, hoverflows]
    constructor
    · intro ⟨hfalse, _⟩
      by_cases hlimit : policy.maxSnapshotBytes + 10 * policy.maxAttachmentBytes < 2 ^ 64
      · exact Or.inl hlimit
      · exact Or.inr fun hcomputes => hfalse ⟨hcomputes.2, Nat.not_lt.mp hlimit⟩
    · intro hcond
      refine ⟨fun ⟨hreaches, hlimit⟩ => ?_, hsizes⟩
      rcases hcond with hsmall | hnever
      · exact absurd hlimit (Nat.not_le.mpr hsmall)
      · exact hnever ⟨hfits, hreaches⟩
  · rw [hstage]
    -- it does not fit, and nothing has overflowed on the way there
    refine iff_of_true ⟨hover, fun manifest hok => ?_⟩ (Or.inr fun hcomputes => hnofit hcomputes.1)
    have hdone := (build_manifest hok).1
    rw [hstage] at hdone
    exact nomatch hdone

/-! ### A limit that overflows -/

/-- A host on which every path leads to an image of one byte. -/
def sampleHost : Host where
  canonical _ := some (utf8 "image.png", .file [137])
  ignored _ := false
  sha256 _ := 0
  infer _ := some ("image/png", "png")
  utcNow := ""

/-- A policy that no check refuses, with an attachment limit of `u64::MAX`. -/
def hugePolicy : Policy :=
  { Policy.samplePolicy "rule" with maxAttachmentBytes := 2 ^ 64 - 1 }

/-- A brief with one attachment. -/
def sampleBrief : Brief :=
  { (default : Brief) with attachments := ["image.png"] }

/-- **The limit overflows** for a valid policy and one small image. -/
theorem limit_overflows :
    ¬∀ (host : Host) (policy : Policy) (brief : Brief), policy.validate = .ok () →
      policy.maxSnapshotFiles < 2 ^ 64 → policy.maxSnapshotBytes < 2 ^ 64 →
      policy.maxAttachmentBytes < 2 ^ 64 →
      (∀ root ∈ brief.evidenceRoots, (host.canonical root).isSome) →
      (∀ path ∈ brief.attachments, (host.canonical path).isSome) →
      Accounted host policy brief := by
  intro h
  have hvalid : hugePolicy.validate = .ok () := by decide +kernel
  have hover := (h sampleHost hugePolicy sampleBrief hvalid (by decide) (by decide) (by decide)
    (by decide) (by decide)).1
  revert hover
  decide +kernel

theorem snapshot_accounted_iff_sample :
    Accounted sampleHost (Policy.samplePolicy "rule") sampleBrief :=
  (snapshot_accounted_iff sampleHost (Policy.samplePolicy "rule") sampleBrief (by decide)
    (by decide)).mpr (Or.inl (by decide))

end Snapshot

end Quinte
