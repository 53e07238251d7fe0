import Mathlib

/-! # Atomic writes

    `atomic_write` of `util.rs`, in a directory that many processes write to,
    one after the other and side by side.  A call takes the next number of its
    process, creates a temporary file that must not be there, writes it, syncs
    it and renames it.  A process may crash before each of these steps; the
    system may then give its identifier to a new one, which numbers its calls
    from 1 again.

    * `sound_step`, `sound_of_reachable`: the step and the run;
    * `atomic_write_exact`: a destination holds what the last rename put there,
      and a temporary is there already exactly where a crash has left it.
-/

namespace Quinte.AtomicWrite

abbrev Bytes := List UInt8

/-! ### Calls -/

/-- A call of `atomic_write`: the file name of its path, the process, and the
    value of `TEMPORARY_SEQUENCE`. -/
structure Call where
  name : String
  pid : Nat
  number : Nat
  deriving DecidableEq, Repr

/-- `.{name}.{pid}.{sequence}.tmp`. -/
def Call.temporary (c : Call) : String :=
  "." ++ c.name ++ "." ++ toString c.pid ++ "." ++ toString c.number ++ ".tmp"

inductive Stage where
  /-- before `options.open` -/
  | starting
  /-- in `write_all`, with what is written -/
  | writing (written : Bytes)
  /-- after `sync_all` -/
  | renaming
  deriving DecidableEq, Repr

/-- A call in progress. -/
structure Flight where
  bytes : Bytes
  stage : Stage
  deriving DecidableEq, Repr

/-- What its temporary holds, once it is created. -/
def Flight.written (f : Flight) : Option Bytes :=
  match f.stage with
  | .starting => none
  | .writing written => some written
  | .renaming => some f.bytes

/-! ### Processes on a directory -/

/-- The directory and the processes, with what is known of the past. -/
structure World where
  files : String → Option Bytes
  /-- the next number of each process that runs -/
  sequence : Nat → Option Nat
  flights : Call → Option Flight
  /-- all calls that were made -/
  calls : List Call
  /-- the renames that were made, the last one first -/
  completed : List (String × Bytes)
  /-- the calls that a crash has cut short between their creation and their rename -/
  left : Call → Prop

/-- A directory that nobody has written to. -/
def World.start : World where
  files _ := none
  sequence _ := none
  flights _ := none
  calls := []
  completed := []
  left _ := False

/-- What the system may do next. -/
inductive Step (w : World) : World → Prop where
  /-- No two processes that run have one identifier. -/
  | spawn (pid : Nat) (hfree : w.sequence pid = none) :
      Step w { w with sequence := Function.update w.sequence pid (some 1) }
  /-- `TEMPORARY_SEQUENCE.fetch_add`. -/
  | call (c : Call) (bytes : Bytes) (hnumber : w.sequence c.pid = some c.number) :
      Step w { w with
        sequence := Function.update w.sequence c.pid (some (c.number + 1))
        flights := Function.update w.flights c (some ⟨bytes, .starting⟩)
        calls := c :: w.calls }
  /-- `create_new`. -/
  | create (c : Call) (bytes : Bytes) (hflight : w.flights c = some ⟨bytes, .starting⟩)
      (hnew : w.files c.temporary = none) :
      Step w { w with
        files := Function.update w.files c.temporary (some [])
        flights := Function.update w.flights c (some ⟨bytes, .writing []⟩) }
  /-- The call fails: its temporary is there already. -/
  | refuse (c : Call) (bytes : Bytes) (hflight : w.flights c = some ⟨bytes, .starting⟩)
      (hthere : w.files c.temporary ≠ none) :
      Step w { w with flights := Function.update w.flights c none }
  | write (c : Call) (bytes written more : Bytes)
      (hflight : w.flights c = some ⟨bytes, .writing written⟩)
      (hmore : written <+: more) (hbytes : more <+: bytes) :
      Step w { w with
        files := Function.update w.files c.temporary (some more)
        flights := Function.update w.flights c (some ⟨bytes, .writing more⟩) }
  | sync (c : Call) (bytes : Bytes) (hflight : w.flights c = some ⟨bytes, .writing bytes⟩) :
      Step w { w with flights := Function.update w.flights c (some ⟨bytes, .renaming⟩) }
  /-- `replace_file`. -/
  | rename (c : Call) (bytes : Bytes) (hflight : w.flights c = some ⟨bytes, .renaming⟩) :
      Step w { w with
        files := Function.update (Function.update w.files c.name (w.files c.temporary))
          c.temporary none
        flights := Function.update w.flights c none
        completed := (c.name, bytes) :: w.completed }
  /-- A process ends, in the middle of its calls or between them. -/
  | crash (pid : Nat) :
      Step w { w with
        sequence := Function.update w.sequence pid none
        flights := fun c => if c.pid = pid then none else w.flights c
        left := fun c => w.left c ∨
          c.pid = pid ∧ ∃ f, w.flights c = some f ∧ f.written.isSome = true }

/-- No destination is the temporary of a call, nor has been one. -/
def Apart (w : World) : Prop :=
  ∀ c ∈ w.calls, ∀ c' ∈ w.calls, c.name ≠ c'.temporary

/-- The histories in which no destination is the temporary of a call. -/
inductive Reachable : World → Prop where
  | start : Reachable .start
  | step {w w' : World} : Reachable w → Step w w' → Apart w' → Reachable w'

/-! ### Names of temporaries -/

section names

theorem dot_notMem_digits (n : Nat) : '.' ∉ (toString n).toList := by
  intro hmem
  have hdigit := Nat.isDigit_of_mem_toDigits (by omega) (by omega) (b := 10) (n := n) (c := '.')
    (by simpa using hmem)
  exact absurd hdigit (by decide)

/-- The number after the last dot. -/
theorem append_digits_inj {front front' : List Char} {n n' : Nat}
    (h : front ++ '.' :: (toString n).toList = front' ++ '.' :: (toString n').toList) :
    front = front' ∧ n = n' := by
  have hreversed := congrArg List.reverse h
  simp only [List.reverse_append, List.reverse_cons, List.append_assoc, List.singleton_append]
    at hreversed
  have hdot : ∀ m, '.' ∉ (toString m).toList.reverse := fun m hmem =>
    dot_notMem_digits m (List.mem_reverse.mp hmem)
  have hsplit := congrArg (List.span (· ≠ '.')) hreversed
  have hspan : ∀ (m : Nat) (rest : List Char), ((toString m).toList.reverse ++ '.' :: rest).span
      (· ≠ '.') = ((toString m).toList.reverse, '.' :: rest) := by
    intro m rest
    rw [List.span_eq_takeWhile_dropWhile, List.takeWhile_append_of_pos,
      List.dropWhile_append_of_pos]
    · simp
    · intro c hc
      simpa using fun heq : c = '.' => hdot m (heq ▸ hc)
    · intro c hc
      simpa using fun heq : c = '.' => hdot m (heq ▸ hc)
  rw [hspan, hspan, Prod.mk.injEq] at hsplit
  obtain ⟨hdigits, hfront⟩ := hsplit
  refine ⟨List.reverse_injective (List.cons.inj hfront).2, ?_⟩
  exact Nat.repr_injective (String.toList_inj.mp (List.reverse_injective hdigits))

/-- **A temporary belongs to one call**: the last two of its parts are numbers. -/
theorem temporary_injective : Function.Injective Call.temporary := by
  intro c c' h
  unfold Call.temporary at h
  have hlist := congrArg String.toList h
  have htmp : ∀ a b : List Char, a ++ ".tmp".toList = b ++ ".tmp".toList ↔ a = b :=
    fun a b => List.append_left_inj _
  simp only [String.toList_append, htmp] at hlist
  have hdot : ".".toList = ['.'] := rfl
  simp only [hdot, List.append_assoc, List.singleton_append] at hlist
  have hlist' : ('.' :: c.name.toList ++ '.' :: (toString c.pid).toList)
        ++ '.' :: (toString c.number).toList
      = ('.' :: c'.name.toList ++ '.' :: (toString c'.pid).toList)
        ++ '.' :: (toString c'.number).toList := by
    simpa using hlist
  obtain ⟨hfront, hnumber⟩ := append_digits_inj hlist'
  obtain ⟨hname, hpid⟩ := append_digits_inj hfront
  cases c
  cases c'
  simp only [Call.mk.injEq]
  exact ⟨String.toList_inj.mp (List.cons.inj hname).2, hpid, hnumber⟩

end names

/-! ### What holds after every step -/

/-- The temporary of a call is there: a crash has left it, or it is being written. -/
def World.Occupied (w : World) (c : Call) : Prop :=
  w.left c ∨ ∃ f, w.flights c = some f ∧ f.written.isSome = true

structure Sound (w : World) : Prop where
  /-- a call in progress was made by a process that runs -/
  made : ∀ c f, w.flights c = some f →
    c ∈ w.calls ∧ ∃ next, w.sequence c.pid = some next ∧ c.number < next
  /-- a temporary of a call is there where it is occupied -/
  temporaries : ∀ c ∈ w.calls, w.files c.temporary ≠ none ↔ w.Occupied c
  /-- and holds what the call has written -/
  contents : ∀ c f v, w.flights c = some f → f.written = some v →
    w.files c.temporary = some v ∧ ¬ w.left c
  /-- all other files are as the last rename has left them -/
  settled : ∀ x, (∀ c ∈ w.calls, x ≠ c.temporary) → w.files x = w.completed.lookup x
  /-- renames and crashes are those of calls -/
  renamed : ∀ x v, (x, v) ∈ w.completed → ∃ c ∈ w.calls, c.name = x
  leftCalled : ∀ c, w.left c → c ∈ w.calls

section sound

variable {w w' : World} {c : Call} {bytes : Bytes}

theorem sound_start : Sound .start where
  made _ _ h := nomatch h
  temporaries _ h := nomatch h
  contents _ _ _ h := nomatch h
  settled _ _ := rfl
  renamed _ _ h := nomatch h
  leftCalled _ h := h.elim

/-- A name that nobody has written to is no key of a rename. -/
theorem lookup_completed_eq_none (h : Sound w) {x : String} (hx : ∀ c ∈ w.calls, c.name ≠ x) :
    w.completed.lookup x = none := by
  rw [List.lookup_eq_none_iff]
  intro p hp
  obtain ⟨c, hc, hname⟩ := h.renamed p.1 p.2 hp
  simpa [hname] using (hx c hc).symm

/-- Only what is said of one call changes, and its temporary. -/
theorem temporary_ne {c c' : Call} (h : c ≠ c') : c.temporary ≠ c'.temporary :=
  fun heq => h (temporary_injective heq)

/-- A call that is in progress after one has ended is another one. -/
theorem flight_ended {d : Call} {g : Flight}
    (h : Function.update w.flights c none d = some g) : d ≠ c ∧ w.flights d = some g := by
  by_cases hd : d = c
  · rw [hd, Function.update_self] at h
    cases h
  · exact ⟨hd, by rwa [Function.update_of_ne hd] at h⟩

/-- After one has gone on it is that one or another. -/
theorem flight_updated {d : Call} {f g : Flight}
    (h : Function.update w.flights c (some f) d = some g) :
    (d = c ∧ f = g) ∨ (d ≠ c ∧ w.flights d = some g) := by
  by_cases hd : d = c
  · rw [hd, Function.update_self] at h
    exact Or.inl ⟨hd, Option.some.inj h⟩
  · exact Or.inr ⟨hd, by rwa [Function.update_of_ne hd] at h⟩

theorem sound_spawn (h : Sound w) {pid : Nat} (hfree : w.sequence pid = none) :
    Sound { w with sequence := Function.update w.sequence pid (some 1) } where
  made c f hf := by
    dsimp only at hf ⊢
    obtain ⟨hc, next, hnext, hlt⟩ := h.made c f hf
    have hne : c.pid ≠ pid := by
      intro heq
      rw [heq, hfree] at hnext
      cases hnext
    exact ⟨hc, next, by rw [Function.update_of_ne hne, hnext], hlt⟩
  temporaries := h.temporaries
  contents := h.contents
  settled := h.settled
  renamed := h.renamed
  leftCalled := h.leftCalled

/-- A new call has the number of its process, and no temporary of its own yet. -/
theorem sound_call (h : Sound w) (hnumber : w.sequence c.pid = some c.number)
    (hapart : ∀ d ∈ c :: w.calls, ∀ d' ∈ c :: w.calls, d.name ≠ d'.temporary) :
    Sound { w with
      sequence := Function.update w.sequence c.pid (some (c.number + 1))
      flights := Function.update w.flights c (some ⟨bytes, .starting⟩)
      calls := c :: w.calls } := by
  -- no call of this number is in progress
  have hnone : w.flights c = none := by
    cases hflight : w.flights c with
    | none => rfl
    | some f =>
      obtain ⟨-, next, hnext, hlt⟩ := h.made c f hflight
      rw [hnumber, Option.some.injEq] at hnext
      omega
  have hoccupied : ∀ d, World.Occupied { w with
      sequence := Function.update w.sequence c.pid (some (c.number + 1))
      flights := Function.update w.flights c (some ⟨bytes, .starting⟩)
      calls := c :: w.calls } d ↔ w.Occupied d := by
    intro d
    unfold World.Occupied
    by_cases hd : d = c
    · subst hd
      simp [hnone, Flight.written]
    · simp [Function.update_of_ne hd]
  refine ⟨?_, ?_, ?_, ?_, ?_, ?_⟩
  · intro d f hf
    rcases flight_updated hf with ⟨rfl, -⟩ | ⟨-, hf⟩
    · exact ⟨List.mem_cons_self .., _, Function.update_self .., by omega⟩
    · obtain ⟨hmem, next, hnext, hlt⟩ := h.made d f hf
      refine ⟨List.mem_cons_of_mem _ hmem, ?_⟩
      dsimp only
      by_cases hpid : d.pid = c.pid
      · rw [hpid, hnumber, Option.some.injEq] at hnext
        exact ⟨c.number + 1, by rw [hpid, Function.update_self], by omega⟩
      · exact ⟨next, by rw [Function.update_of_ne hpid, hnext], hlt⟩
  · intro d hd
    rw [hoccupied]
    by_cases hold : d ∈ w.calls
    · exact h.temporaries d hold
    · -- its name is new, and no destination
      obtain rfl : d = c := (List.mem_cons.mp hd).resolve_right hold
      have hfile : w.files d.temporary = none := by
        rw [h.settled d.temporary fun d' hd' => temporary_ne fun heq => hold (heq ▸ hd')]
        exact lookup_completed_eq_none h fun d' hd' =>
          hapart d' (List.mem_cons_of_mem _ hd') d hd
      refine iff_of_false (not_not.mpr hfile) ?_
      rintro (hleft | ⟨f, hf, -⟩)
      · exact hold (h.leftCalled d hleft)
      · rw [hnone] at hf
        cases hf
  · intro d f v hf hv
    rcases flight_updated hf with ⟨rfl, rfl⟩ | ⟨-, hf⟩
    · cases hv
    · exact h.contents d f v hf hv
  · exact fun x hx => h.settled x fun d hd => hx d (List.mem_cons_of_mem _ hd)
  · intro x v hx
    obtain ⟨d, hd, hname⟩ := h.renamed x v hx
    exact ⟨d, List.mem_cons_of_mem _ hd, hname⟩
  · exact fun d hd => List.mem_cons_of_mem _ (h.leftCalled d hd)

/-- A call in progress goes on, and its temporary is written anew or not at all. -/
theorem sound_progress (h : Sound w) {f f' : Flight} (hflight : w.flights c = some f)
    (hfree : ¬ w.left c) {v : Bytes} (hv : f'.written = some v) :
    Sound { w with
      files := Function.update w.files c.temporary (some v)
      flights := Function.update w.flights c (some f') } := by
  obtain ⟨hmem, next, hnext, hlt⟩ := h.made c f hflight
  refine ⟨?_, ?_, ?_, ?_, h.renamed, h.leftCalled⟩
  · intro d g hg
    rcases flight_updated hg with ⟨rfl, -⟩ | ⟨-, hg⟩
    · exact ⟨hmem, next, hnext, hlt⟩
    · exact h.made d g hg
  · intro d hd
    by_cases hdc : d = c
    · subst hdc
      refine iff_of_true ?_ (Or.inr ⟨f', Function.update_self .., by rw [hv]; rfl⟩)
      dsimp only
      rw [Function.update_self]
      exact Option.some_ne_none v
    · have hold := h.temporaries d hd
      simp only [World.Occupied, Function.update_of_ne hdc,
        Function.update_of_ne (temporary_ne hdc)] at hold ⊢
      exact hold
  · intro d g u hg hu
    rcases flight_updated hg with ⟨rfl, rfl⟩ | ⟨hdc, hg⟩
    · obtain rfl := Option.some.inj (hv.symm.trans hu)
      exact ⟨Function.update_self .., hfree⟩
    · dsimp only
      rw [Function.update_of_ne (temporary_ne hdc)]
      exact h.contents d g u hg hu
  · intro x hx
    dsimp only
    rw [Function.update_of_ne (hx c hmem)]
    exact h.settled x hx

/-- A call whose temporary was there is given up. -/
theorem sound_refuse (h : Sound w) (hflight : w.flights c = some ⟨bytes, .starting⟩) :
    Sound { w with flights := Function.update w.flights c none } := by
  refine ⟨?_, ?_, ?_, h.settled, h.renamed, h.leftCalled⟩
  · exact fun d g hg => h.made d g (flight_ended hg).2
  · intro d hd
    have hold := h.temporaries d hd
    by_cases hdc : d = c
    · subst hdc
      simp only [World.Occupied, Function.update_self, hflight] at hold ⊢
      simpa [Flight.written] using hold
    · simp only [World.Occupied, Function.update_of_ne hdc] at hold ⊢
      exact hold
  · exact fun d g u hg hu => h.contents d g u (flight_ended hg).2 hu

/-- The temporary takes the place of the destination. -/
theorem sound_rename (h : Sound w) (hapart : Apart w)
    (hflight : w.flights c = some ⟨bytes, .renaming⟩) :
    Sound { w with
      files := Function.update (Function.update w.files c.name (w.files c.temporary))
        c.temporary none
      flights := Function.update w.flights c none
      completed := (c.name, bytes) :: w.completed } := by
  obtain ⟨hmem, -⟩ := h.made c _ hflight
  obtain ⟨hheld, hfree⟩ := h.contents c _ bytes hflight rfl
  refine ⟨?_, ?_, ?_, ?_, ?_, h.leftCalled⟩
  · exact fun d g hg => h.made d g (flight_ended hg).2
  · intro d hd
    by_cases hdc : d = c
    · subst hdc
      refine iff_of_false ?_ ?_
      · dsimp only
        rw [Function.update_self]
        exact not_not.mpr rfl
      · rintro (hleft | ⟨g, hg, -⟩)
        · exact hfree hleft
        · exact (flight_ended hg).1 rfl
    · have hold := h.temporaries d hd
      have hname : d.temporary ≠ c.name := (hapart c hmem d hd).symm
      simp only [World.Occupied, Function.update_of_ne hdc, Function.update_of_ne hname,
        Function.update_of_ne (temporary_ne hdc)] at hold ⊢
      exact hold
  · intro d g u hg hu
    obtain ⟨hdc, hg⟩ := flight_ended hg
    obtain ⟨hd, -⟩ := h.made d g hg
    dsimp only
    rw [Function.update_of_ne (temporary_ne hdc), Function.update_of_ne (hapart c hmem d hd).symm]
    exact h.contents d g u hg hu
  · intro x hx
    dsimp only
    rw [Function.update_of_ne (hx c hmem), List.lookup_cons]
    by_cases hxc : x = c.name
    · subst hxc
      rw [Function.update_self, hheld, beq_self_eq_true]
    · rw [Function.update_of_ne hxc, beq_false_of_ne hxc]
      exact h.settled x hx
  · intro x v hx
    rcases List.mem_cons.mp hx with heq | hold
    · obtain ⟨rfl, -⟩ := Prod.mk.inj heq
      exact ⟨c, hmem, rfl⟩
    · exact h.renamed x v hold

/-- What a crash leaves behind was being written. -/
theorem sound_crash (h : Sound w) (pid : Nat) :
    Sound { w with
      sequence := Function.update w.sequence pid none
      flights := fun c => if c.pid = pid then none else w.flights c
      left := fun c => w.left c ∨
        c.pid = pid ∧ ∃ f, w.flights c = some f ∧ f.written.isSome = true } := by
  refine ⟨?_, ?_, ?_, h.settled, h.renamed, ?_⟩
  · intro d g hg
    obtain ⟨hpid, hg⟩ := Option.ite_none_left_eq_some.mp hg
    obtain ⟨hd, next, hnext, hlt⟩ := h.made d g hg
    exact ⟨hd, next, (Function.update_of_ne hpid ..).trans hnext, hlt⟩
  · intro d hd
    have hold := h.temporaries d hd
    unfold World.Occupied at hold ⊢
    rw [hold]
    by_cases hpid : d.pid = pid
    · simp [hpid]
    · simp [hpid]
  · intro d g u hg hu
    obtain ⟨hpid, hg⟩ := Option.ite_none_left_eq_some.mp hg
    obtain ⟨hfile, hfree⟩ := h.contents d g u hg hu
    refine ⟨hfile, ?_⟩
    rintro (hleft | ⟨hd, -⟩)
    · exact hfree hleft
    · exact hpid hd
  · rintro d (hleft | ⟨-, f, hf, -⟩)
    · exact h.leftCalled d hleft
    · exact (h.made d f hf).1

/-- **Step.** -/
theorem sound_step (h : Sound w) (hstep : Step w w') (hapart : Apart w') : Sound w' := by
  cases hstep with
  | spawn pid hfree => exact sound_spawn h hfree
  | call c bytes hnumber => exact sound_call h hnumber hapart
  | create c bytes hflight hnew =>
    refine sound_progress h hflight ?_ rfl
    intro hleft
    exact (h.temporaries c (h.leftCalled c hleft)).mpr (Or.inl hleft) hnew
  | refuse c bytes hflight hthere => exact sound_refuse h hflight
  | write c bytes written more hflight hmore hbytes =>
    exact sound_progress h hflight (h.contents c _ _ hflight rfl).2 rfl
  | sync c bytes hflight =>
    obtain ⟨hheld, hfree⟩ := h.contents c _ _ hflight rfl
    have hwritten : Flight.written ⟨bytes, .renaming⟩ = some bytes := rfl
    have hsynced := sound_progress h hflight hfree hwritten
    rwa [← hheld, Function.update_eq_self] at hsynced
  | rename c bytes hflight => exact sound_rename h hapart hflight
  | crash pid => exact sound_crash h pid

/-- **Run.** -/
theorem sound_of_reachable (h : Reachable w) : Sound w ∧ Apart w := by
  induction h with
  | start => exact ⟨sound_start, fun _ hc => nomatch hc⟩
  | step _ hstep hapart ih => exact ⟨sound_step ih.1 hstep hapart, hapart⟩

end sound

/-! ### The theorem -/

/-- **Atomic writes**: however processes take turns and crash, a destination
    holds the bytes of the last call that was completed, or nothing where there
    is none. A call finds its temporary there exactly where a crash has cut
    short a call of the same name, process identifier and number. -/
theorem atomic_write_exact (w : World) (h : Reachable w) :
    (∀ c ∈ w.calls, w.files c.name = w.completed.lookup c.name)
      ∧ ∀ c bytes, w.flights c = some ⟨bytes, .starting⟩ →
          (w.files c.temporary = none ↔ ¬ w.left c) := by
  obtain ⟨hsound, hapart⟩ := sound_of_reachable h
  refine ⟨fun c hc => hsound.settled c.name (hapart c hc), ?_⟩
  intro c bytes hflight
  have hoccupied := hsound.temporaries c (hsound.made c _ hflight).1
  have hwritten : w.Occupied c ↔ w.left c := by
    simp [World.Occupied, hflight, Flight.written]
  rw [hwritten] at hoccupied
  rw [← hoccupied, not_not]

/-! #### A process identifier that is used again -/

/-- The first call of the process 1. -/
def firstCall : Call := ⟨"manifest.json", 1, 1⟩

/-- The first process has created its temporary. -/
def created : World where
  files := Function.update (fun _ => none) firstCall.temporary (some [])
  sequence := Function.update (Function.update (fun _ => none) 1 (some 1)) 1 (some 2)
  flights := Function.update (Function.update (fun _ => none) firstCall (some ⟨[0], .starting⟩))
    firstCall (some ⟨[0], .writing []⟩)
  calls := [firstCall]
  completed := []
  left _ := False

/-- It has crashed, and another process has its identifier and makes the same call. -/
def reused : World where
  files := created.files
  sequence := Function.update (Function.update (Function.update created.sequence 1 none) 1 (some 1))
    1 (some 2)
  flights := Function.update (fun c => if c.pid = 1 then none else created.flights c) firstCall
    (some ⟨[0], .starting⟩)
  calls := [firstCall, firstCall]
  completed := []
  left c := False ∨ c.pid = 1 ∧ ∃ f, created.flights c = some f ∧ f.written.isSome = true

theorem name_firstCall : firstCall.name ≠ firstCall.temporary := by decide +kernel

theorem reachable_created : Reachable created := by
  have hspawned := Reachable.step .start (.spawn 1 rfl) fun _ hc => nomatch hc
  have hcalled := hspawned.step (.call firstCall [0] rfl) fun c hc c' hc' => by
    rw [List.mem_singleton.mp hc, List.mem_singleton.mp hc']
    exact name_firstCall
  refine hcalled.step (.create firstCall [0] rfl rfl) fun c hc c' hc' => ?_
  rw [List.mem_singleton.mp hc, List.mem_singleton.mp hc']
  exact name_firstCall

theorem reachable_reused : Reachable reused := by
  have hone : ∀ c ∈ [firstCall], ∀ c' ∈ [firstCall], c.name ≠ c'.temporary := by
    intro c hc c' hc'
    rw [List.mem_singleton.mp hc, List.mem_singleton.mp hc']
    exact name_firstCall
  have hcrashed := reachable_created.step (.crash 1) hone
  have hspawned := hcrashed.step (.spawn 1 rfl) hone
  refine hspawned.step (.call firstCall [0] rfl) fun c hc c' hc' => ?_
  have hsame : ∀ d ∈ [firstCall, firstCall], d = firstCall := by simp
  rw [hsame c hc, hsame c' hc']
  exact name_firstCall

theorem atomic_write_exact_reused :
    (∀ c ∈ reused.calls, reused.files c.name = reused.completed.lookup c.name)
      ∧ ∀ c bytes, reused.flights c = some ⟨bytes, .starting⟩ →
          (reused.files c.temporary = none ↔ ¬ reused.left c) :=
  atomic_write_exact reused reachable_reused

/-- The second process is refused, because of the temporary that the first has left. -/
theorem refused_after_crash : ¬ ∀ w, Reachable w → ∀ c bytes,
    w.flights c = some ⟨bytes, .starting⟩ → w.files c.temporary = none := by
  intro hall
  have hnone := hall reused reachable_reused firstCall [0] rfl
  have hthere : reused.files firstCall.temporary = some [] := by
    simp [reused, created]
  rw [hthere] at hnone
  cases hnone

end Quinte.AtomicWrite
