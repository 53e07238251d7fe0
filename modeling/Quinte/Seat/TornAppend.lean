import Mathlib
import Quinte.Finance.Utf8
import Quinte.Seat.Tasks

/-! # A torn row in the task log

    A crash may leave any part of the next row in the file.  `TaskStore::open`
    reads every line strictly, and `persist` appends to whatever is there.

    * `survives_iff`: the log survives when nothing of the row is left, or all
      of it with its line feed, and else not.
-/

namespace Quinte.Pi

open Finance (Bytes Platform utf8 fromUtf8 utf8_of_fromUtf8)
open FramedLog (log)

/-! ### Bytes of texts -/

/-- A byte below 128 stands for itself. -/
theorem toNat_of_mem_utf8EncodeChar {c : Char} {b : UInt8} (hb : b.toNat < 128)
    (h : b ∈ String.utf8EncodeChar c) : c.toNat = b.toNat := by
  have hlarge : ∀ {n : Nat}, 128 ≤ n ∧ n < 256 → b ≠ UInt8.ofNat n := by
    intro n hn heq
    have hnat := congrArg UInt8.toNat heq
    rw [UInt8.toNat_ofNat_of_lt' (by rw [UInt8.size]; omega)] at hnat
    omega
  have hval : c.val.toNat < 0x110000 := by
    rcases c.valid with h | h
    · exact h.trans (by decide)
    · exact h.2
  unfold String.utf8EncodeChar at h
  simp only at h
  split_ifs at h with h₁ h₂ h₃
  · have hnat := congrArg UInt8.toNat (List.mem_singleton.mp h)
    rw [UInt8.toNat_ofNat_of_lt' (by rw [UInt8.size]; omega)] at hnat
    exact hnat.symm
  · simp only [List.mem_cons, List.not_mem_nil, or_false] at h
    rcases h with h | h <;> exact absurd h (hlarge (by omega))
  · simp only [List.mem_cons, List.not_mem_nil, or_false] at h
    rcases h with h | h | h <;> exact absurd h (hlarge (by omega))
  · simp only [List.mem_cons, List.not_mem_nil, or_false] at h
    rcases h with h | h | h | h <;> exact absurd h (hlarge (by omega))

/-- A line that starts with a brace is not blank. -/
theorem shown_of_brace {rest : Bytes} {text : Json.Text}
    (h : fromUtf8 (123 :: rest) = some text) : text.all isWhiteSpace = false := by
  have hbytes := utf8_of_fromUtf8 h
  have hmem : (123 : UInt8) ∈ utf8 text := by
    rw [hbytes]
    exact List.mem_cons_self
  obtain ⟨c, hc, hbyte⟩ := List.mem_flatMap.mp hmem
  have hbrace : c.toNat = 123 := toNat_of_mem_utf8EncodeChar (by decide) hbyte
  rw [List.all_eq_false]
  refine ⟨c, hc, ?_⟩
  simp [isWhiteSpace, hbrace]

/-! ### What is left of a row -/

/-- What the file yields: the last of these rows for each task. -/
def Yields (P : Platform) (file : Bytes) (rows : List TaskRecord) : Prop :=
  ∃ tasks, openTasks P file = .ok tasks ∧ ∀ taskId,
    tasks.find? (·.taskId = taskId) = (lastRow rows taskId).map TaskRecord.reread

/-- The rows that are complete when `left` is what there is of the next one. -/
def completeRows (rows : List TaskRecord) (next : TaskRecord) (left : Bytes) : List TaskRecord :=
  if rowBytes next <+: left then rows ++ [next] else rows

/-- The log can be opened after a crash, and also when rows were appended
    since, and yields the complete rows. -/
def Survives (P : Platform) (rows : List TaskRecord) (next : TaskRecord) (left : Bytes) : Prop :=
  Yields P (log (rowCodec P) 10 rows ++ left) (completeRows rows next left)
    ∧ ∀ more, (∀ r ∈ more, Storable P r) →
      Yields P (log (rowCodec P) 10 rows ++ left ++ log (rowCodec P) 10 more)
        (completeRows rows next left ++ more)

section torn

variable {P : Platform} {rows : List TaskRecord} {next : TaskRecord} {left : Bytes}

theorem yields_log (hrows : ∀ r ∈ rows, Storable P r) :
    Yields P (log (rowCodec P) 10 rows) rows :=
  ⟨reopened rows, openTasks_log hrows, find?_reopened rows⟩

theorem rowBytes_ne_nil (r : TaskRecord) : rowBytes r ≠ [] := by
  obtain ⟨body, hbody⟩ := rowBytes_eq r
  rw [hbody]
  exact List.cons_ne_nil _ _

/-- Nothing of the row is left. -/
theorem survives_nothing (hrows : ∀ r ∈ rows, Storable P r) : Survives P rows next [] := by
  have hcomplete : completeRows rows next [] = rows := by
    unfold completeRows
    rw [if_neg]
    intro hprefix
    exact rowBytes_ne_nil next (List.prefix_nil.mp hprefix)
  unfold Survives
  rw [hcomplete, List.append_nil]
  constructor
  · exact yields_log hrows
  · intro more hmore
    rw [← FramedLog.log_append]
    apply yields_log
    intro r hr
    exact (List.mem_append.mp hr).elim (hrows r) (hmore r)

/-- All of the row is left, and its line feed. -/
theorem survives_whole (hrows : ∀ r ∈ rows, Storable P r) (hnext : Storable P next) :
    Survives P rows next (frame next) := by
  have hcomplete : completeRows rows next (frame next) = rows ++ [next] :=
    if_pos ⟨[10], rfl⟩
  have hlog : log (rowCodec P) 10 rows ++ frame next = log (rowCodec P) 10 (rows ++ [next]) := by
    rw [FramedLog.log_append, FramedLog.log_cons, FramedLog.log_nil]
    rfl
  have hboth : ∀ r ∈ rows ++ [next], Storable P r := by
    intro r hr
    rcases List.mem_append.mp hr with hold | hlast
    · exact hrows r hold
    · rw [List.mem_singleton.mp hlast]
      exact hnext
  unfold Survives
  rw [hcomplete, hlog]
  constructor
  · exact yields_log hboth
  · intro more hmore
    rw [← FramedLog.log_append]
    apply yields_log
    intro r hr
    exact (List.mem_append.mp hr).elim (hboth r) (hmore r)

/-- A line that is no document. -/
theorem openLine_unread {body : Bytes} (hunread : (fromUtf8 (123 :: body)).bind P.json.read = none)
    (tasks : List TaskRecord) : ∃ message, openLine P tasks (123 :: body) = .error message := by
  unfold openLine
  cases htext : fromUtf8 (123 :: body) with
  | none => exact ⟨_, rfl⟩
  | some text =>
    rw [htext] at hunread
    have hread : P.json.read text = none := hunread
    dsimp only
    rw [shown_of_brace htext, if_neg Bool.false_ne_true, hread]
    exact ⟨_, rfl⟩

/-- A file with such a line behind whole rows cannot be opened. -/
theorem not_yields_of_unread (hrows : ∀ r ∈ rows, Storable P r) {rest body : Bytes}
    {others : List Bytes} (hlines : lines rest = (123 :: body) :: others)
    (hunread : (fromUtf8 (123 :: body)).bind P.json.read = none) (complete : List TaskRecord) :
    ¬ Yields P (log (rowCodec P) 10 rows ++ rest) complete := by
  intro ⟨tasks, hopen, _⟩
  obtain ⟨message, hline⟩ := openLine_unread hunread (reopened rows)
  unfold openTasks at hopen
  rw [foldlM_lines hrows, hlines, List.foldlM_cons] at hopen
  have hfirst : openLine P (rows.foldl (fun tasks r => upsert tasks r.reread) []) (123 :: body)
      = .error message := hline
  rw [hfirst] at hopen
  cases hopen

theorem lines_single {line : Bytes} (hline : (10 : UInt8) ∉ line) (hne : line ≠ []) :
    lines line = [line] := by
  have hsplit : line.splitOn 10 = [line] := by
    apply List.splitOnP_eq_singleton
    intro b hb
    rw [beq_eq_false_iff_ne]
    intro heq
    exact hline (heq ▸ hb)
  unfold lines
  rw [hsplit]
  exact if_neg hne

/-- **The log survives a torn row** when nothing of it is left, or all of it
    with its line feed, and only then.  `serde_json` refuses a row that breaks
    off, and two rows on one line. -/
theorem survives_iff (P : Platform) (rows : List TaskRecord) (next : TaskRecord) (left : Bytes)
    (hrows : ∀ r ∈ rows, Storable P r) (hnext : Storable P next)
    (hbreaks : left <+: rowBytes next → left ≠ rowBytes next →
      (fromUtf8 left).bind P.json.read = none)
    (htrailing : (fromUtf8 (rowBytes next ++ rowBytes next)).bind P.json.read = none)
    (hleft : left <+: frame next) :
    Survives P rows next left ↔ left = [] ∨ left = frame next := by
  obtain ⟨body, hbody⟩ := rowBytes_eq next
  have hfeed := lineFeed_notMem_rowBytes hnext
  constructor
  · intro hsurvives
    by_contra hother
    obtain ⟨hnonempty, hbroken⟩ := not_or.mp hother
    have hprefix : left <+: rowBytes next := by
      rcases List.prefix_concat_iff.mp hleft with hwhole | hpart
      · exact absurd hwhole hbroken
      · exact hpart
    by_cases hrow : left = rowBytes next
    · -- the next row is appended to this one, on the same line
      have hmore : ∀ r ∈ [next], Storable P r := by
        intro r hr
        rw [List.mem_singleton.mp hr]
        exact hnext
      have hyields := hsurvives.2 [next] hmore
      have hfile : left ++ log (rowCodec P) 10 [next]
          = (rowBytes next ++ rowBytes next) ++ [10] := by
        rw [FramedLog.log_cons, FramedLog.log_nil, hrow, List.append_assoc]
        rfl
      have hmerged : lines ((rowBytes next ++ rowBytes next) ++ [10])
          = [rowBytes next ++ rowBytes next] := by
        have hnotMem : (10 : UInt8) ∉ rowBytes next ++ rowBytes next := by
          simpa using hfeed
        have hstrip : stripReturn (rowBytes next ++ rowBytes next)
            = rowBytes next ++ rowBytes next := by
          unfold stripReturn
          rw [hbody, ← List.cons_append, ← List.append_assoc, List.getLast?_concat,
            if_neg (by decide)]
        unfold lines
        rw [FramedLog.splitOn_frame hnotMem, linesOf_cons (List.splitOn_ne_nil _ _), hstrip]
        rfl
      rw [List.append_assoc, hfile] at hyields
      rw [hbody] at hmerged htrailing hyields
      exact not_yields_of_unread hrows hmerged htrailing _ hyields
    · -- the line breaks off
      obtain ⟨c, cs, rfl⟩ := List.exists_cons_of_ne_nil hnonempty
      have hfirst : c = 123 := by
        rw [hbody] at hprefix
        exact (List.cons_prefix_cons.mp hprefix).1
      subst hfirst
      have hline : lines (123 :: cs) = [123 :: cs] :=
        lines_single (fun hmem => hfeed ( hprefix.subset hmem)) hnonempty
      exact not_yields_of_unread hrows hline (hbreaks hprefix hrow) _ hsurvives.1
  · intro hwhole
    rcases hwhole with rfl | rfl
    · exact survives_nothing hrows
    · exact survives_whole hrows hnext

end torn

/-- A task that has just been started. -/
def startedTask : TaskRecord where
  taskId := "t-1"
  state := .working
  artifact := none
  error := none
  createdAt := ""

theorem storable_startedTask : Storable Platform.verbatim startedTask := by
  apply storable_of_regular
  intro m hm
  simp only [List.mem_cons, List.not_mem_nil, or_false] at hm
  rcases hm with rfl | rfl | rfl | rfl | rfl <;> trivial

/-- Nine bytes of a row. -/
theorem survives_iff_part : ¬ Survives Platform.verbatim [startedTask] startedTask
    ((frame startedTask).take 9) := by
  intro hsurvives
  have hstored : ∀ r ∈ [startedTask], Storable Platform.verbatim r := by
    intro r hr
    rw [List.mem_singleton.mp hr]
    exact storable_startedTask
  have hwhole := (survives_iff Platform.verbatim [startedTask] startedTask
    ((frame startedTask).take 9) hstored storable_startedTask (fun _ _ => by decide +kernel)
    (by decide +kernel) (List.take_prefix ..)).mp hsurvives
  revert hwhole
  decide +kernel

/-- A crash after the first byte of the first row. -/
theorem torn_append_not_survived : ¬ ∀ rows next left,
    (∀ r ∈ rows, Storable Platform.verbatim r) → Storable Platform.verbatim next →
    left <+: frame next → Survives Platform.verbatim rows next left := by
  intro hall
  obtain ⟨⟨tasks, hopen, -⟩, -⟩ := hall [] startedTask [123]
    (fun _ h => absurd h List.not_mem_nil) storable_startedTask (by
      obtain ⟨body, hbody⟩ := rowBytes_eq startedTask
      rw [frame, hbody]
      exact ⟨body ++ [125] ++ [10], rfl⟩)
  have herror : (openTasks Platform.verbatim [123]).toOption = none := by decide +kernel
  have hfile : log (rowCodec Platform.verbatim) 10 [] ++ [123] = [123] := rfl
  rw [hfile] at hopen
  rw [hopen] at herror
  cases herror

end Quinte.Pi
