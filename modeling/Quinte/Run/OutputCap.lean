import Mathlib

/-! # The cap on captured output

    `read_capped` runs once for the standard output of an adapter and once for
    its standard error.  The two loops share the count of all bytes that were
    read, which they advance by `fetch_add`, and a flag.  A schedule says which
    loop takes the next step; a step touches what is shared at most once.

    The count is a natural number: 2^64 bytes do not come in.

    * `retained_add`: what the two keep together does not depend on whose chunk
      is counted first;
    * `advance_kept`, `run_kept`: the step and the run;
    * `capture_bounded`: what both have when both have ended.
-/

namespace Quinte.Run.OutputCap

abbrev Bytes := List UInt8

/-! ### The loops -/

/-- The two streams of a process. -/
inductive Stream where
  | stdout | stderr
  deriving DecidableEq, Repr

/-- What a reader returns, read by read, until it returns nothing. -/
structure Delivery where
  chunks : List Bytes
  sized : ∀ chunk ∈ chunks, chunk ≠ [] ∧ chunk.length ≤ 16 * 1024

/-- Where a loop is. -/
inductive Phase where
  /-- before `read` -/
  | reading
  /-- before `fetch_add` -/
  | counting (chunk : Bytes)
  /-- before `extend_from_slice`, with what the counter was -/
  | keeping (chunk : Bytes) (previous : Nat)
  /-- before `exceeded.store`, with `previous.saturating_add(count)` -/
  | flagging (reached : Nat)
  | ended
  deriving DecidableEq, Repr

/-- A call of `read_capped`. -/
structure Loop where
  pending : List Bytes
  phase : Phase
  captured : Bytes
  deriving DecidableEq, Repr

/-- Both calls, and what they share. -/
structure Capture where
  total : Nat
  exceeded : Bool
  loop : Stream → Loop

/-- `count.min(limit - previous)` where `previous < limit`, and nothing else. -/
def retained (limit previous count : Nat) : Nat :=
  if previous < limit then min count (limit - previous) else 0

def Capture.put (s : Capture) (i : Stream) (l : Loop) : Capture :=
  { s with loop := fun j => if j = i then l else s.loop j }

/-- The next step of one loop; `none` is a loop that has returned. -/
def advance (limit : Nat) (s : Capture) (i : Stream) : Option Capture :=
  let l := s.loop i
  match l.phase with
  | .reading => match l.pending with
    | [] => some (s.put i { l with phase := .ended })
    | chunk :: pending => some (s.put i { l with pending := pending, phase := .counting chunk })
  | .counting chunk =>
      some ({ s with total := s.total + chunk.length }.put i
        { l with phase := .keeping chunk s.total })
  | .keeping chunk previous =>
      some (s.put i { l with
        phase := .flagging (previous + chunk.length)
        captured := l.captured ++ chunk.take (retained limit previous chunk.length) })
  | .flagging reached =>
      some ({ s with exceeded := s.exceeded || decide (limit < reached) }.put i
        { l with phase := .reading })
  | .ended => none

/-- The call for a stream, before its first read. -/
def opened (delivery : Delivery) : Loop where
  pending := delivery.chunks
  phase := .reading
  captured := []

def start (delivery : Stream → Delivery) : Capture where
  total := 0
  exceeded := false
  loop i := opened (delivery i)

/-- The steps of both, in the order of a schedule. -/
def run (limit : Nat) (schedule : List Stream) (s : Capture) : Option Capture :=
  schedule.foldlM (advance limit) s

/-! ### Accounts -/

/-- The chunk that a loop has in its hands. -/
def Loop.inHand (l : Loop) : List Bytes :=
  match l.phase with
  | .counting chunk | .keeping chunk _ => [chunk]
  | .reading | .flagging _ | .ended => []

/-- The bytes that are still to be counted. -/
def Loop.uncounted (l : Loop) : Nat :=
  l.pending.flatten.length + match l.phase with
    | .counting chunk => chunk.length
    | .reading | .keeping _ _ | .flagging _ | .ended => 0

/-- The bytes that a loop has, or may keep of the chunk that it has counted. -/
def Loop.claimed (limit : Nat) (l : Loop) : Nat :=
  l.captured.length + match l.phase with
    | .keeping chunk previous => retained limit previous chunk.length
    | .reading | .counting _ | .flagging _ | .ended => 0

/-- The loop is about to raise the flag. -/
def Loop.alarmed (limit : Nat) (l : Loop) : Prop :=
  match l.phase with
  | .keeping chunk previous => limit < previous + chunk.length
  | .flagging reached => limit < reached
  | .reading | .counting _ | .ended => False

/-- Over both streams. -/
def Capture.sum (f : Loop → Nat) (s : Capture) : Nat := f (s.loop .stdout) + f (s.loop .stderr)

/-- What is captured of some chunks: of each, its beginning. -/
def TruncatedChunks (captured : Bytes) (chunks : List Bytes) : Prop :=
  ∃ kept, List.Forall₂ (· <+: ·) kept chunks ∧ captured = kept.flatten

/-- What a loop has done with its chunks. -/
structure Loop.Kept (chunks : List Bytes) (l : Loop) : Prop where
  split : ∃ read, TruncatedChunks l.captured read ∧ chunks = read ++ l.inHand ++ l.pending
  ended : l.phase = .ended → l.pending = []

/-- What holds after every step. -/
structure Kept (limit : Nat) (delivery : Stream → Delivery) (s : Capture) : Prop where
  conserved : s.total + s.sum Loop.uncounted
    = (delivery .stdout).chunks.flatten.length + (delivery .stderr).chunks.flatten.length
  claimed : s.sum (Loop.claimed limit) = min limit s.total
  alarm : (s.exceeded = true ∨ ∃ i, (s.loop i).alarmed limit) ↔ limit < s.total
  loops : ∀ i, (s.loop i).Kept (delivery i).chunks

section accounts

variable {limit previous count : Nat} {s : Capture} {i : Stream} {l : Loop}

/-- **Whose chunk is counted first is no difference** to what is kept in all. -/
theorem retained_add (limit total count : Nat) :
    min limit total + retained limit total count = min limit (total + count) := by
  unfold retained
  split <;> omega

theorem length_take_retained (chunk : Bytes) :
    (chunk.take (retained limit previous chunk.length)).length
      = retained limit previous chunk.length := by
  rw [List.length_take]
  unfold retained
  split <;> omega

@[simp] theorem put_loop_self : (s.put i l).loop i = l := by
  simp [Capture.put]

theorem put_loop_ne {j : Stream} (h : j ≠ i) : (s.put i l).loop j = s.loop j := by
  simp [Capture.put, h]

/-- One loop's share changes. -/
theorem sum_put (f : Loop → Nat) : (s.put i l).sum f + f (s.loop i) = s.sum f + f l := by
  cases i <;> simp [Capture.sum, Capture.put] <;> omega

theorem exists_put {p : Loop → Prop} :
    (∃ j, p ((s.put i l).loop j)) ↔ p l ∨ ∃ j, j ≠ i ∧ p (s.loop j) := by
  constructor
  · rintro ⟨j, hj⟩
    by_cases hji : j = i
    · subst hji
      rw [put_loop_self] at hj
      exact Or.inl hj
    · rw [put_loop_ne hji] at hj
      exact Or.inr ⟨j, hji, hj⟩
  · rintro (hl | ⟨j, hji, hj⟩)
    · exact ⟨i, by rwa [put_loop_self]⟩
    · exact ⟨j, by rwa [put_loop_ne hji]⟩

theorem exists_split {p : Loop → Prop} :
    (∃ j, p (s.loop j)) ↔ p (s.loop i) ∨ ∃ j, j ≠ i ∧ p (s.loop j) := by
  constructor
  · rintro ⟨j, hj⟩
    by_cases hji : j = i
    · exact Or.inl (hji ▸ hj)
    · exact Or.inr ⟨j, hji, hj⟩
  · rintro (hi | ⟨j, -, hj⟩)
    · exact ⟨i, hi⟩
    · exact ⟨j, hj⟩

theorem TruncatedChunks.concat {captured kept chunk : Bytes} {chunks : List Bytes}
    (h : TruncatedChunks captured chunks) (hkept : kept <+: chunk) :
    TruncatedChunks (captured ++ kept) (chunks ++ [chunk]) := by
  obtain ⟨pieces, hpieces, rfl⟩ := h
  refine ⟨pieces ++ [kept], List.rel_append hpieces (.cons hkept .nil), ?_⟩
  rw [List.flatten_append, List.flatten_singleton]

end accounts

/-! ### A step -/

section step

variable {limit : Nat} {delivery : Stream → Delivery} {s s' : Capture} {i : Stream}

/-- A step of one loop that may change what is shared: what its own share gains or loses
    is what is shared that changes. -/
theorem Kept.share {total : Nat} {exceeded : Bool} {l : Loop} (h : Kept limit delivery s)
    (huncounted : total + l.uncounted = s.total + (s.loop i).uncounted)
    (hclaimed : l.claimed limit + min limit s.total
      = (s.loop i).claimed limit + min limit total)
    (halarm : ∀ others : Prop,
      (s.exceeded = true ∨ (s.loop i).alarmed limit ∨ others ↔ limit < s.total) →
        (exceeded = true ∨ l.alarmed limit ∨ others ↔ limit < total))
    (hloop : l.Kept (delivery i).chunks) :
    Kept limit delivery ({ s with total := total, exceeded := exceeded }.put i l) := by
  let shared : Capture := { s with total := total, exceeded := exceeded }
  have hsum : (shared.put i l).sum Loop.uncounted + (s.loop i).uncounted
      = s.sum Loop.uncounted + l.uncounted := sum_put Loop.uncounted
  have hsum' : (shared.put i l).sum (Loop.claimed limit) + (s.loop i).claimed limit
      = s.sum (Loop.claimed limit) + l.claimed limit := sum_put (Loop.claimed limit)
  refine ⟨?_, ?_, ?_, fun j => ?_⟩
  · have hconserved := h.conserved
    show total + (shared.put i l).sum Loop.uncounted = _
    omega
  · have hold := h.claimed
    show (shared.put i l).sum (Loop.claimed limit) = min limit total
    omega
  · have hold := h.alarm
    have hexists : (∃ j, ((shared.put i l).loop j).alarmed limit)
        ↔ l.alarmed limit ∨ ∃ j, j ≠ i ∧ (s.loop j).alarmed limit := exists_put
    rw [exists_split (i := i)] at hold
    show (exceeded = true ∨ ∃ j, ((shared.put i l).loop j).alarmed limit) ↔ limit < total
    rw [hexists]
    exact halarm _ hold
  · by_cases hji : j = i
    · subst hji
      rwa [put_loop_self]
    · rw [put_loop_ne hji]
      exact h.loops j

/-- A step that leaves what is shared alone. -/
theorem Kept.put {l : Loop} (h : Kept limit delivery s)
    (huncounted : l.uncounted = (s.loop i).uncounted)
    (hclaimed : l.claimed limit = (s.loop i).claimed limit)
    (halarmed : l.alarmed limit ↔ (s.loop i).alarmed limit)
    (hloop : l.Kept (delivery i).chunks) : Kept limit delivery (s.put i l) := by
  refine h.share (by rw [huncounted]) (by rw [hclaimed]) (fun others hold => ?_) hloop
  rwa [halarmed]

/-- `read` returns a chunk. -/
theorem Kept.read {chunk : Bytes} {pending : List Bytes} (h : Kept limit delivery s)
    (hphase : (s.loop i).phase = .reading) (hpending : (s.loop i).pending = chunk :: pending) :
    Kept limit delivery
      (s.put i { s.loop i with pending := pending, phase := .counting chunk }) := by
  obtain ⟨⟨read, hread, hsplit⟩, -⟩ := h.loops i
  refine h.put ?_ ?_ ?_ ⟨⟨read, hread, ?_⟩, fun hended => nomatch hended⟩
  · simp only [Loop.uncounted, hphase, hpending, List.flatten_cons, List.length_append]
    omega
  · simp only [Loop.claimed, hphase]
  · simp only [Loop.alarmed, hphase]
  · rw [hsplit, hpending]
    simp [Loop.inHand, hphase]

/-- `read` returns nothing. -/
theorem Kept.close (h : Kept limit delivery s) (hphase : (s.loop i).phase = .reading)
    (hpending : (s.loop i).pending = []) :
    Kept limit delivery (s.put i { s.loop i with pending := [], phase := .ended }) := by
  obtain ⟨⟨read, hread, hsplit⟩, -⟩ := h.loops i
  refine h.put ?_ ?_ ?_ ⟨⟨read, hread, ?_⟩, fun _ => rfl⟩
  · simp only [Loop.uncounted, hphase, hpending]
  · simp only [Loop.claimed, hphase]
  · simp only [Loop.alarmed, hphase]
  · rw [hsplit, hpending]
    simp [Loop.inHand, hphase]

/-- `fetch_add`: the chunk is counted, and its share is settled. -/
theorem Kept.count {chunk : Bytes} (h : Kept limit delivery s)
    (hphase : (s.loop i).phase = .counting chunk) :
    Kept limit delivery ({ s with total := s.total + chunk.length }.put i
      { s.loop i with phase := .keeping chunk s.total }) := by
  obtain ⟨⟨read, hread, hsplit⟩, -⟩ := h.loops i
  refine h.share ?_ ?_ (fun others hold => ?_) ⟨⟨read, hread, ?_⟩, fun hended => nomatch hended⟩
  · simp only [Loop.uncounted, hphase]
    omega
  · have hadd := retained_add limit s.total chunk.length
    simp only [Loop.claimed, hphase]
    omega
  · -- the loop is alarmed from now on if the bytes are too many by now
    have hbefore : ¬ (s.loop i).alarmed limit := by simp [Loop.alarmed, hphase]
    rw [or_iff_right hbefore] at hold
    show (s.exceeded = true ∨ limit < s.total + chunk.length ∨ others)
      ↔ limit < s.total + chunk.length
    constructor
    · rintro (hflag | hnow | hother)
      · have hpast := hold.mp (Or.inl hflag)
        omega
      · exact hnow
      · have hpast := hold.mp (Or.inr hother)
        omega
    · exact fun hnow => Or.inr (Or.inl hnow)
  · rw [hsplit]
    simp [Loop.inHand, hphase]

/-- `extend_from_slice`: the share is captured. -/
theorem Kept.keep {chunk : Bytes} {previous : Nat} (h : Kept limit delivery s)
    (hphase : (s.loop i).phase = .keeping chunk previous) :
    Kept limit delivery (s.put i { s.loop i with
      phase := .flagging (previous + chunk.length)
      captured := (s.loop i).captured
        ++ chunk.take (retained limit previous chunk.length) }) := by
  obtain ⟨⟨read, hread, hsplit⟩, -⟩ := h.loops i
  refine h.put ?_ ?_ ?_ ⟨⟨read ++ [chunk], ?_, ?_⟩, fun hended => nomatch hended⟩
  · simp only [Loop.uncounted, hphase]
  · simp only [Loop.claimed, hphase, List.length_append, length_take_retained, Nat.add_zero]
  · simp only [Loop.alarmed, hphase]
  · exact hread.concat (List.take_prefix _ _)
  · rw [hsplit]
    simp [Loop.inHand, hphase]

/-- `exceeded.store`. -/
theorem Kept.flag {reached : Nat} (h : Kept limit delivery s)
    (hphase : (s.loop i).phase = .flagging reached) :
    Kept limit delivery ({ s with exceeded := s.exceeded || decide (limit < reached) }.put i
      { s.loop i with phase := .reading }) := by
  obtain ⟨⟨read, hread, hsplit⟩, -⟩ := h.loops i
  refine h.share ?_ ?_ (fun others hold => ?_) ⟨⟨read, hread, ?_⟩, fun hended => nomatch hended⟩
  · simp only [Loop.uncounted, hphase]
  · simp only [Loop.claimed, hphase]
  · -- the alarm goes from the loop to the flag
    have hbefore : (s.loop i).alarmed limit ↔ limit < reached := by simp [Loop.alarmed, hphase]
    have hafter : ¬ Loop.alarmed limit { s.loop i with phase := .reading } := id
    rw [hbefore] at hold
    rw [or_iff_right hafter, Bool.or_eq_true, decide_eq_true_iff, or_assoc]
    exact hold
  · rw [hsplit]
    simp [Loop.inHand, hphase]

/-- **Step.** -/
theorem advance_kept (h : Kept limit delivery s) (hstep : advance limit s i = some s') :
    Kept limit delivery s' := by
  unfold advance at hstep
  cases hphase : (s.loop i).phase with
  | reading =>
    cases hpending : (s.loop i).pending with
    | nil =>
      simp only [hphase, hpending, Option.some.injEq] at hstep
      subst hstep
      exact h.close hphase hpending
    | cons chunk pending =>
      simp only [hphase, hpending, Option.some.injEq] at hstep
      subst hstep
      exact h.read hphase hpending
  | counting chunk =>
    simp only [hphase, Option.some.injEq] at hstep
    subst hstep
    exact h.count hphase
  | keeping chunk previous =>
    simp only [hphase, Option.some.injEq] at hstep
    subst hstep
    exact h.keep hphase
  | flagging reached =>
    simp only [hphase, Option.some.injEq] at hstep
    subst hstep
    exact h.flag hphase
  | ended =>
    simp only [hphase] at hstep
    cases hstep

end step

/-! ### A run -/

section runs

variable {limit : Nat} {delivery : Stream → Delivery} {s s' : Capture}

theorem start_kept (limit : Nat) (delivery : Stream → Delivery) :
    Kept limit delivery (start delivery) where
  conserved := by simp [start, opened, Capture.sum, Loop.uncounted]
  claimed := by simp [start, opened, Capture.sum, Loop.claimed]
  alarm := by simp [start, opened, Loop.alarmed]
  loops i := {
    split := ⟨[], ⟨[], .nil, rfl⟩, rfl⟩
    ended := fun h => nomatch h }

/-- **Run**, by induction on the schedule. -/
theorem run_kept {schedule : List Stream} (h : Kept limit delivery s)
    (hrun : run limit schedule s = some s') : Kept limit delivery s' := by
  induction schedule generalizing s with
  | nil =>
    obtain rfl := Option.some.inj hrun
    exact h
  | cons i schedule ih =>
    obtain ⟨t, ht, hrest⟩ := Option.bind_eq_some_iff.mp hrun
    exact ih (advance_kept h ht) hrest

/-- A loop that has not returned can take a step. -/
theorem advance_eq_none {i : Stream} :
    advance limit s i = none ↔ (s.loop i).phase = .ended := by
  unfold advance
  cases hphase : (s.loop i).phase with
  | reading => cases hpending : (s.loop i).pending <;> simp [hphase, hpending]
  | counting chunk => simp [hphase]
  | keeping chunk previous => simp [hphase]
  | flagging reached => simp [hphase]
  | ended => simp [hphase]

end runs

/-- **The shared cap**: under every limit, with all chunks that the two readers
    return and in every order of the steps, what is captured is the beginnings
    of the chunks, as many bytes in all as the limit allows, and the flag says
    whether more came. -/
theorem capture_bounded (limit : Nat) (delivery : Stream → Delivery) (schedule : List Stream)
    (final : Capture) (hrun : run limit schedule (start delivery) = some final)
    (hended : ∀ i, (final.loop i).phase = .ended) :
    let read := (delivery .stdout).chunks.flatten.length
      + (delivery .stderr).chunks.flatten.length
    (∀ i, TruncatedChunks (final.loop i).captured (delivery i).chunks)
      ∧ (final.loop .stdout).captured.length + (final.loop .stderr).captured.length
          = min limit read
      ∧ (final.exceeded = true ↔ limit < read) := by
  intro read
  have hkept := run_kept (start_kept limit delivery) hrun
  -- a loop that has returned has nothing in its hands and nothing to come
  have huncounted : ∀ i, (final.loop i).uncounted = 0 := by
    intro i
    simp [Loop.uncounted, hended i, (hkept.loops i).ended (hended i)]
  have htotal : final.total = read := by
    have hconserved := hkept.conserved
    rw [Capture.sum, huncounted, huncounted] at hconserved
    exact hconserved
  refine ⟨fun i => ?_, ?_, ?_⟩
  · obtain ⟨⟨chunks, hchunks, hsplit⟩, hrest⟩ := hkept.loops i
    rw [hrest (hended i), Loop.inHand, hended i] at hsplit
    simpa [hsplit] using hchunks
  · have hclaimed := hkept.claimed
    rw [htotal] at hclaimed
    simpa only [Capture.sum, Loop.claimed, hended, Nat.add_zero] using hclaimed
  · have halarm := hkept.alarm
    rw [htotal] at halarm
    simpa [Loop.alarmed, hended] using halarm

/-! #### Two chunks and a limit between them -/

def threeBytes : Delivery where
  chunks := [[1, 2], [3]]
  sized := by decide

/-- The error stream's chunk is counted between the two of the output. -/
def turns : List Stream :=
  [.stdout, .stdout, .stderr, .stderr, .stderr] ++ List.replicate 7 .stdout
    ++ List.replicate 6 .stderr

theorem capture_bounded_sample : ∃ final, run 4 turns (start fun _ => threeBytes) = some final
    ∧ (∀ i, (final.loop i).phase = .ended)
    ∧ (∀ i, TruncatedChunks (final.loop i).captured threeBytes.chunks)
    ∧ (final.loop .stdout).captured.length + (final.loop .stderr).captured.length = min 4 (3 + 3)
    ∧ (final.exceeded = true ↔ 4 < 3 + 3) := by
  have hruns : (run 4 turns (start fun _ => threeBytes)).any (fun final =>
      (final.loop .stdout).phase = .ended ∧ (final.loop .stderr).phase = .ended) = true := by
    decide
  rw [Option.any_eq_true] at hruns
  obtain ⟨final, hrun, hphases⟩ := hruns
  have hended : ∀ i, (final.loop i).phase = .ended := by
    obtain ⟨hout, herr⟩ := of_decide_eq_true hphases
    intro i
    cases i with
    | stdout => exact hout
    | stderr => exact herr
  obtain ⟨hchunks, hlength, hflag⟩ :=
    capture_bounded 4 (fun _ => threeBytes) turns final hrun hended
  exact ⟨final, hrun, hended, hchunks, hlength, hflag⟩

end Quinte.Run.OutputCap
