import Mathlib
import Quinte.Contest.Receipts

/-! # Campaigns in order

    What holds after any number of invocations, each of which may die at any
    point.  The state file is behind or level with what happened (`Linked`):
    an entry that was started is accepted or active.

    * `kept_run`: one invocation keeps the invariant at every point;
    * `campaign_in_order`: order, uniqueness and provenance over a campaign.
-/

namespace Quinte.Contest

open Finance (Bytes Platform)
open Program

/-! ### What the log shows -/

/-- A start of this entry is issued. -/
def isStart (sequence : Nat) : Event → Bool
  | .issued (.start entry) _ _ => entry.sequence = sequence
  | _ => false

/-- How often the entry was started. -/
def starts (log : List Event) (sequence : Nat) : Nat := log.countP (isStart sequence)

/-- The entry as some reading of the plan shows it. -/
def FromPlan (S : Supervisor) (plan : Bytes) (entry : Entry) : Prop :=
  ∃ files planDigest entries, loadPlan S files plan = .ok (planDigest, entries) ∧
    entries[entry.sequence - 1]? = some entry

/-- The start of the entry returned this run id. -/
def Returned (log : List Event) (entry : Entry) (runId : String) : Prop :=
  ∃ inv, .answered (.start entry) inv ∈ log ∧
    inv.data.bind (·.get "run_id") = some (.str runId)

/-- What an acceptance rests on: the run was started for the entry, was then
    reported completed, then inspected, and then the bytes of its result had the
    digest of the inspect receipt. -/
def RestsOn (S : Supervisor) (plan : Bytes) (log : List Event) (sequence : Nat)
    (acceptance : Json) : Prop :=
  ∃ (entry : Entry) (runId digest : String) (startInv statusInv inspectInv : Invocation)
      (data : Json) (files : Files) (bytes : Bytes),
    FromPlan S plan entry ∧ entry.sequence = sequence ∧
    Accepts acceptance sequence runId digest ∧
    List.Sublist [.answered (.start entry) startInv, .answered (.status runId) statusInv,
      .answered (.inspect runId) inspectInv, .looked (.result files data runId entry)] log ∧
    startInv.data.bind (·.get "run_id") = some (.str runId) ∧
    statusInv.manifest.bind (·.get "status") = some (.str "completed") ∧
    inspectInv.data = some data ∧ data.get "run_id" = some (.str runId) ∧
    inspectInv.manifest.bind (·.get "brief_sha256") = some (.str entry.briefSha256) ∧
    (data.get "result").bind (·.get "sha256") = some (.str digest) ∧
    files.resultOf S.home runId bytes ∧ S.platform.sha256 bytes = digest

/-- The sequences of the acceptances in a state file. -/
def recorded (stateFile : Option Json) : List (Option Json) :=
  ((stateFile.map acceptances).getD []).map (·.get "sequence")

/-- The commands were issued in order. -/
structure LogInOrder (log : List Event) : Prop where
  once : ∀ k, starts log k ≤ 1
  quiet : ∀ call stateFile halted, .issued call stateFile halted ∈ log → halted = none
  ordered : ∀ entry stateFile halted, .issued (.start entry) stateFile halted ∈ log →
    recorded stateFile
      = (List.range' 1 (entry.sequence - 1)).map fun (i : Nat) => some (Json.int i)

/-! ### What the state file says -/

/-- The members of a state. -/
structure Holds (state : Json) (n : Nat) (accs : List Json) (active : Json) : Prop where
  object : state.isObject = true
  next : state.get "next_sequence" = some (.int (n + 1))
  acceptances : state.get "acceptances" = some (.arr accs)
  active : state.get "active" = some active

/-- The active entry was started with this binding. -/
structure Started (S : Supervisor) (plan : Bytes) (log : List Event) (n : Nat)
    (accs : List Json) (active : Json) : Prop where
  bound : ∃ entry runId now, active = binding entry runId now ∧ entry.sequence = n + 1 ∧
    FromPlan S plan entry ∧
    (runId = .null ∨ ∃ r, runId = .str r ∧ Returned log entry r ∧
      ∀ acc ∈ accs, acc.get "run_id" ≠ some (.str r))

/-- The state file and the log. -/
structure Linked (S : Supervisor) (plan : Bytes) (log : List Event) (n : Nat)
    (accs : List Json) (active : Json) : Prop where
  length : accs.length = n
  rests : ∀ i acc, accs[i]? = some acc → RestsOn S plan log (i + 1) acc
  distinct : (accs.map (·.get "run_id")).Nodup
  started : ∀ k, 0 < starts log k → k ≤ n + 1
  idle : active = .null → ∀ k, 0 < starts log k → k ≤ n
  current : active ≠ .null → Started S plan log n accs active

/-- The invariant of a campaign. -/
structure Kept (S : Supervisor) (plan : Bytes) (c : Campaign) : Prop where
  log : LogInOrder c.log
  none : c.stateFile = none → ∀ k, starts c.log k = 0
  some : ∀ state, c.stateFile = some state →
    ∃ n accs active, Holds state n accs active ∧ Linked S plan c.log n accs active

section facts

variable {S : Supervisor} {plan : Bytes} {log log' : List Event} {n : Nat} {accs : List Json}
  {active state : Json} {event : Event}

theorem starts_append (log log' : List Event) (k : Nat) :
    starts (log ++ log') k = starts log k + starts log' k := List.countP_append

theorem starts_add (hevent : ∀ k, isStart k event = false) (k : Nat) :
    starts (log ++ [event]) k = starts log k := by
  rw [starts_append]
  simp [starts, hevent k]

theorem RestsOn.append {k : Nat} {acc : Json} (h : RestsOn S plan log k acc) :
    RestsOn S plan (log ++ log') k acc := by
  obtain ⟨entry, runId, digest, startInv, statusInv, inspectInv, data, files, bytes, hplan, hentry,
    haccepts, hsub, hrest⟩ := h
  exact ⟨entry, runId, digest, startInv, statusInv, inspectInv, data, files, bytes, hplan, hentry,
    haccepts, hsub.trans (List.sublist_append_left log log'), hrest⟩

theorem Returned.append {entry : Entry} {r : String} (h : Returned log entry r) :
    Returned (log ++ log') entry r := by
  obtain ⟨inv, hmem, hrun⟩ := h
  exact ⟨inv, List.mem_append_left log' hmem, hrun⟩

theorem Started.append (h : Started S plan log n accs active) :
    Started S plan (log ++ log') n accs active := by
  obtain ⟨entry, runId, now, hactive, hentry, hplan, hrun⟩ := h.bound
  refine ⟨entry, runId, now, hactive, hentry, hplan, ?_⟩
  rcases hrun with hnull | ⟨r, hr, hreturned, hnew⟩
  · exact Or.inl hnull
  · exact Or.inr ⟨r, hr, hreturned.append, hnew⟩

/-- An event that starts nothing. -/
theorem Linked.add (h : Linked S plan log n accs active)
    (hevent : ∀ k, isStart k event = false) : Linked S plan (log ++ [event]) n accs active where
  length := h.length
  rests i acc hacc := (h.rests i acc hacc).append
  distinct := h.distinct
  started k hk := h.started k (by rwa [starts_add hevent] at hk)
  idle hnull k hk := h.idle hnull k (by rwa [starts_add hevent] at hk)
  current hne := (h.current hne).append

theorem LogInOrder.add (h : LogInOrder log) (hevent : ∀ k, isStart k event = false)
    (hquiet : ∀ call stateFile halted, event = .issued call stateFile halted → halted = none) :
    LogInOrder (log ++ [event]) where
  once k := by
    rw [starts_add hevent]
    exact h.once k
  quiet call stateFile halted hmem := by
    rcases List.mem_append.mp hmem with hmem | hmem
    · exact h.quiet call stateFile halted hmem
    · exact hquiet call stateFile halted (List.mem_singleton.mp hmem).symm
  ordered entry stateFile halted hmem := by
    rcases List.mem_append.mp hmem with hmem | hmem
    · exact h.ordered entry stateFile halted hmem
    · have hstart := hevent entry.sequence
      rw [← List.mem_singleton.mp hmem] at hstart
      simp [isStart] at hstart

/-- A check starts nothing. -/
theorem Kept.look {c : Campaign} (h : Kept S plan c) (look : Look) :
    Kept S plan (c.add (.looked look)) where
  log := h.log.add (fun _ => rfl) (fun _ _ _ heq => nomatch heq)
  none hnone k := by
    have hstarts : starts (c.log ++ [.looked look]) k = starts c.log k :=
      starts_add (fun _ => rfl) k
    exact hstarts.trans (h.none hnone k)
  some state hstate := by
    obtain ⟨n, accs, active, hholds, hlinked⟩ := h.some state hstate
    exact ⟨n, accs, active, hholds, hlinked.add fun _ => rfl⟩

/-- A member that is none of those that count. -/
theorem Holds.set (h : Holds state n accs active) {name : String} (member : Json)
    (hname : name ≠ "next_sequence" ∧ name ≠ "acceptances" ∧ name ≠ "active") :
    Holds (state.set name member) n accs active where
  object := Json.isObject_set h.object name member
  next := by rw [Json.get_set_ne hname.1.symm, h.next]
  acceptances := by rw [Json.get_set_ne hname.2.1.symm, h.acceptances]
  active := by rw [Json.get_set_ne hname.2.2.symm, h.active]

theorem Holds.setActive (h : Holds state n accs active) (active' : Json) :
    Holds (state.set "active" active') n accs active' where
  object := Json.isObject_set h.object _ _
  next := by rw [Json.get_set_ne (by decide), h.next]
  acceptances := by rw [Json.get_set_ne (by decide), h.acceptances]
  active := Json.get_set_self h.object _ _

theorem Holds.nextSequence (h : Holds state n accs active) : nextSequence state = n + 1 := by
  unfold Contest.nextSequence
  rw [h.next]
  rfl

theorem Holds.acceptances_eq (h : Holds state n accs active) : Contest.acceptances state = accs := by
  unfold Contest.acceptances
  rw [h.acceptances]
  rfl

theorem Linked.recorded (h : Linked S plan log n accs active) (hstate : Holds state n accs active) :
    recorded (some state) = (List.range' 1 n).map fun (i : Nat) => some (Json.int i) := by
  unfold Contest.recorded
  rw [Option.map_some, Option.getD_some, hstate.acceptances_eq]
  apply List.ext_getElem?
  intro i
  rw [List.getElem?_map, List.getElem?_map]
  rcases Nat.lt_or_ge i n with hlt | hge
  · have hi : i < accs.length := by rw [h.length]; exact hlt
    rw [List.getElem?_eq_getElem hi, List.getElem?_range' hlt]
    obtain ⟨entry, runId, digest, _, _, _, _, _, _, _, _, haccepts, _⟩ :=
      h.rests i accs[i] (List.getElem?_eq_getElem hi)
    rw [Option.map_some, Option.map_some, haccepts.sequence]
    congr 3
    push_cast
    ring
  · rw [List.getElem?_eq_none (by rw [h.length]; exact hge),
      List.getElem?_eq_none (by rw [List.length_range']; exact hge)]
    rfl

end facts

/-! ### Rules -/

section rules

variable {α β : Type} {I : Campaign → Prop} {A : Observation → Prop}
  {Q : Except Raised β → Campaign → Prop} {c : Campaign}

theorem wp_answer_bind {f : Observation → α} {g : α → Step β}
    (h : ∀ o, Prog.wp I A Q (g (f o)) c) : Prog.wp I A Q (Prog.answer f >>= g) c :=
  fun o _ => h o

theorem wp_check_bind {look : Look} {r : Checked α} {g : α → Step β}
    (hI : I (c.add (.looked look)))
    (hok : ∀ a, r = .ok a → Prog.wp I A Q (g a) (c.add (.looked look)))
    (herror : ∀ e, r = .error e → Q (.error e) (c.add (.looked look))) :
    Prog.wp I A Q (check look r >>= g) c := by
  cases r with
  | ok a => exact ⟨rfl, hI, hok a rfl⟩
  | error e => exact ⟨rfl, hI, herror e rfl⟩

theorem wp_ensure_bind {b : Bool} {e : Raised} {g : Unit → Step β}
    (htrue : b = true → Prog.wp I A Q (g ()) c) (hfalse : Q (.error e) c) :
    Prog.wp I A Q (Prog.ensure b e >>= g) c := by
  cases b with
  | true => exact htrue rfl
  | false => exact hfalse

theorem wp_read_bind {f : Campaign → α} {g : α → Step β} (hI : I c)
    (h : Prog.wp I A Q (g (f c)) c) : Prog.wp I A Q (Prog.read f >>= g) c :=
  ⟨rfl, hI, h⟩

theorem wp_modify_bind {update : Campaign → Campaign} {g : Unit → Step β} (hI : I (update c))
    (h : Prog.wp I A Q (g ()) (update c)) : Prog.wp I A Q (Prog.modify update >>= g) c :=
  ⟨rfl, hI, h⟩

end rules

/-! ### Inside an invocation -/

/-- A state is in memory, and the state file holds it. -/
structure Current (S : Supervisor) (plan : Bytes) (c : Campaign) (state : Json) (n : Nat)
    (accs : List Json) (active : Json) : Prop where
  quiet : c.halted = none
  log : LogInOrder c.log
  file : c.stateFile = some state
  holds : Holds state n accs active
  linked : Linked S plan c.log n accs active

section inside

variable {S : Supervisor} {plan : Bytes} {c : Campaign} {state : Json} {n : Nat}
  {accs : List Json} {active : Json} {A : Observation → Prop}

theorem Current.kept (h : Current S plan c state n accs active) : Kept S plan c where
  log := h.log
  none hnone := nomatch h.file.symm.trans hnone
  some state' hsome := by
    obtain rfl := Option.some.inj (h.file.symm.trans hsome)
    exact ⟨n, accs, active, h.holds, h.linked⟩

/-- An event that starts nothing. -/
theorem Current.add (h : Current S plan c state n accs active) (event : Event)
    (hevent : ∀ k, isStart k event = false)
    (hquiet : ∀ call stateFile halted, event = .issued call stateFile halted → halted = none) :
    Current S plan (c.add event) state n accs active where
  quiet := h.quiet
  log := h.log.add hevent hquiet
  file := h.file
  holds := h.holds
  linked := h.linked.add hevent

/-- A check. -/
theorem Current.look (h : Current S plan c state n accs active) (look : Look) :
    Current S plan (c.add (.looked look)) state n accs active :=
  h.add (.looked look) (fun _ => rfl) (fun _ _ _ heq => nomatch heq)

/-- The state file is written. -/
theorem kept_writeState (h : Kept S plan c) (hquiet : c.halted = none)
    (hholds : Holds state n accs active) (hlinked : Linked S plan c.log n accs active)
    {Q : Except Raised Json → Campaign → Prop}
    (hQ : ∀ c', Current S plan c' state n accs active → (∃ l, c'.log = c.log ++ l) →
      starts c'.log = starts c.log → Q (.ok state) c')
    (herror : ∀ e c', Kept S plan c' → Q (.error e) c') :
    Prog.wp (Kept S plan) A Q (writeState S state) c := by
  unfold writeState
  have hlook := h.look (.written state)
  apply wp_check_bind hlook
  · intro _ _
    have hsaved : Current S plan { c.add (.looked (.written state)) with stateFile := some state }
        state n accs active :=
      ⟨hquiet, hlook.log, rfl, hholds, hlinked.add fun _ => rfl⟩
    apply wp_modify_bind hsaved.kept
    exact hQ _ hsaved ⟨_, rfl⟩ (funext fun k => starts_add (fun _ => rfl) k)
  · intro e _
    exact herror e _ hlook

/-- The state file is replaced. -/
theorem Current.saveState (h : Current S plan c state n accs active) {state' : Json} {n' : Nat}
    {accs' : List Json} {active' : Json} (hholds : Holds state' n' accs' active')
    (hlinked : Linked S plan c.log n' accs' active') {Q : Except Raised Json → Campaign → Prop}
    (hQ : ∀ c' saved, Current S plan c' saved n' accs' active' → (∃ l, c'.log = c.log ++ l) →
      starts c'.log = starts c.log → Q (.ok saved) c')
    (herror : ∀ e c', Kept S plan c' → Q (.error e) c') :
    Prog.wp (Kept S plan) A Q (Contest.saveState S state') c := by
  unfold Contest.saveState
  apply wp_answer_bind
  intro o
  have hsaved : Holds (state'.set "updated_at" (.str o.now)) n' accs' active' :=
    hholds.set _ (by decide)
  exact kept_writeState h.kept h.quiet hsaved hlinked (fun c' => hQ c' _) herror

/-- A command that starts nothing is issued and answered. -/
theorem Current.invoke (h : Current S plan c state n accs active) {call : HostCall}
    (hcall : ∀ entry, call ≠ .start entry) {Q : Except Raised Invocation → Campaign → Prop}
    (hQ : ∀ c' inv, Current S plan c' state n accs active →
      (∃ l, c'.log = c.log ++ l ++ [.answered call inv]) → Q (.ok inv) c')
    (herror : ∀ e c', Kept S plan c' → Q (.error e) c') :
    Prog.wp (Kept S plan) A Q (Contest.invoke S call) c := by
  unfold Contest.invoke
  -- only the start of an entry counts against it
  have hissued : Current S plan (c.add (.issued call c.stateFile c.halted)) state n accs active := by
    apply h.add _
    · intro k
      cases call with
      | start entry => exact (hcall entry rfl).elim
      | _ => rfl
    · intro call' stateFile halted heq
      obtain ⟨-, -, rfl⟩ := Event.issued.inj heq
      exact h.quiet
  apply wp_modify_bind hissued.kept
  apply wp_answer_bind
  intro o
  have hlooked := hissued.look (.process o.process)
  apply wp_check_bind hlooked.kept
  · intro inv _
    have hanswered := hlooked.add (.answered call inv) (fun k => rfl)
      (fun _ _ _ heq => nomatch heq)
    apply wp_modify_bind hanswered.kept
    refine hQ _ inv hanswered ⟨[.issued call c.stateFile c.halted, .looked (.process o.process)], ?_⟩
    simp [Campaign.add]
  · intro e _
    exact herror e _ hlooked.kept

/-- The command that starts the next entry is issued and answered. -/
theorem Current.start (h : Current S plan c state n accs active) {entry : Entry}
    (hentry : entry.sequence = n + 1) (hactive : active ≠ .null)
    (hfresh : starts c.log (n + 1) = 0) {Q : Except Raised Invocation → Campaign → Prop}
    (hQ : ∀ c' inv, Current S plan c' state n accs active →
      .answered (.start entry) inv ∈ c'.log → Q (.ok inv) c')
    (herror : ∀ e c', Kept S plan c' → Q (.error e) c') :
    Prog.wp (Kept S plan) A Q (Contest.invoke S (.start entry)) c := by
  unfold Contest.invoke
  have hcount : ∀ k, starts (c.log ++ [.issued (.start entry) c.stateFile c.halted]) k
      = starts c.log k + if n + 1 = k then 1 else 0 := by
    intro k
    rw [starts_append]
    simp [starts, isStart, hentry, List.countP_cons]
  have hissued : Current S plan (c.add (.issued (.start entry) c.stateFile c.halted)) state n accs
      active := by
    refine ⟨h.quiet, ⟨?_, ?_, ?_⟩, h.file, h.holds,
      ⟨h.linked.length, ?_, h.linked.distinct, ?_, ?_, ?_⟩⟩
    · intro k
      show starts (c.log ++ _) k ≤ 1
      rw [hcount]
      split
      case isTrue heq => rw [← heq, hfresh]
      case isFalse => exact h.log.once k
    · intro call stateFile halted hmem
      rcases List.mem_append.mp hmem with hmem | hmem
      · exact h.log.quiet call stateFile halted hmem
      · obtain ⟨-, -, rfl⟩ := Event.issued.inj (List.mem_singleton.mp hmem)
        exact h.quiet
    · intro entry' stateFile halted hmem
      rcases List.mem_append.mp hmem with hmem | hmem
      · exact h.log.ordered entry' stateFile halted hmem
      · -- the state file records the entries before this one
        obtain ⟨hcall, rfl, -⟩ := Event.issued.inj (List.mem_singleton.mp hmem)
        obtain rfl := HostCall.start.inj hcall
        rw [h.file, h.linked.recorded h.holds, hentry, Nat.add_sub_cancel]
    · exact fun i acc hacc => (h.linked.rests i acc hacc).append
    · intro k hk
      change 0 < starts (c.log ++ _) k at hk
      rw [hcount] at hk
      split at hk
      case isTrue heq => exact heq.ge
      case isFalse => exact h.linked.started k hk
    · exact fun hnull => (hactive hnull).elim
    · exact fun hne => (h.linked.current hne).append
  apply wp_modify_bind hissued.kept
  apply wp_answer_bind
  intro o
  have hlooked := hissued.look (.process o.process)
  apply wp_check_bind hlooked.kept
  · intro inv _
    have hanswered := hlooked.add (.answered (.start entry) inv) (fun k => rfl)
      (fun _ _ _ heq => nomatch heq)
    apply wp_modify_bind hanswered.kept
    exact hQ _ inv hanswered (List.mem_append_right _ (List.mem_singleton_self _))
  · intro e _
    exact herror e _ hlooked.kept

theorem binding_ne_null {entry : Entry} {runId : Json} {now : String} :
    binding entry runId now ≠ .null := nofun

theorem notMem_acceptedRunIds (h : Holds state n accs active) {r : String}
    (hnew : r ∉ acceptedRunIds state) : ∀ acc ∈ accs, acc.get "run_id" ≠ some (.str r) := by
  intro acc hacc hrun
  apply hnew
  unfold acceptedRunIds
  rw [h.acceptances_eq]
  exact List.mem_filterMap.mpr ⟨acc, hacc, by rw [hrun]; rfl⟩

/-- **A dispatch** keeps the invariant: the intent is in the state file before
    the start, and the run id after it. -/
theorem kept_dispatch (h : Current S plan c state n accs .null) {entry : Entry}
    (hentry : entry.sequence = n + 1) (hplan : FromPlan S plan entry) :
    Prog.wp (Kept S plan) A (fun _ c' => Kept S plan c') (dispatch S state entry) c := by
  -- nothing is active, so the entry has not been started
  have hnone : starts c.log (n + 1) = 0 := by
    by_contra hne
    have hle := h.linked.idle rfl (n + 1) (by omega)
    omega
  unfold dispatch
  apply wp_answer_bind
  intro o
  rw [Prog.wp_bind]
  -- the intent is on disk before the host is called
  have hintent : Linked S plan c.log n accs (binding entry .null o.now) :=
    ⟨h.linked.length, h.linked.rests, h.linked.distinct, h.linked.started,
      fun hnull => (binding_ne_null hnull).elim,
      fun _ => ⟨entry, .null, o.now, rfl, hentry, hplan, Or.inl rfl⟩⟩
  refine h.saveState (h.holds.setActive _) hintent ?_ fun _ _ hkept => hkept
  intro c₁ state₁ h₁ _ hstarts₁
  show Prog.wp (Kept S plan) A _ _ c₁
  rw [Prog.wp_bind]
  refine h₁.start hentry binding_ne_null (by rw [hstarts₁]; exact hnone) ?_ fun _ _ hkept => hkept
  intro c₂ inv h₂ hmem
  apply wp_answer_bind
  intro o₂
  rw [Prog.wp_bind]
  refine h₂.saveState (h₂.holds.set _ (by decide)) h₂.linked ?_ fun _ _ hkept => hkept
  intro c₃ state₃ h₃ hlog₃ _
  apply wp_answer_bind
  intro o₃
  have hlooked := h₃.look (.start o₃.files inv entry (acceptedRunIds state₃))
  apply wp_check_bind hlooked.kept
  · intro runId hstart
    obtain ⟨hrun, hnew⟩ := checkStart_ok hstart
    -- the run id that is bound was returned by this start
    have hreturned : Returned c₃.log entry runId := by
      obtain ⟨l, hl⟩ := hlog₃
      exact ⟨inv, by rw [hl]; exact List.mem_append_left l hmem, hrun⟩
    rw [Prog.wp_bind]
    have hbound : Linked S plan (c₃.add (.looked (.start o₃.files inv entry
        (acceptedRunIds state₃)))).log n accs (binding entry (.str runId) o.now) := by
      have hl := hlooked.linked
      refine ⟨hl.length, hl.rests, hl.distinct, hl.started,
        fun hnull => (binding_ne_null hnull).elim, fun _ => ⟨entry, .str runId, o.now, rfl,
        hentry, hplan, Or.inr ⟨runId, rfl, hreturned.append, ?_⟩⟩⟩
      exact notMem_acceptedRunIds h₃.holds hnew
    refine hlooked.saveState ((h₃.holds.setActive _).set _ (by decide)) hbound ?_
      fun _ _ hkept => hkept
    intro c₄ state₄ h₄ _ _
    exact h₄.kept
  · intro e _
    exact hlooked.kept

theorem nextEntry_ok (h : Holds state n accs active) {entries : List Entry} {entry : Entry}
    (hnext : nextEntry entries state = .ok entry) : entries[n]? = some entry := by
  unfold nextEntry at hnext
  have hn : ((n : Int) + 1 - 1).toNat = n := by omega
  rw [h.nextSequence, hn] at hnext
  split at hnext
  next entry' hget => rw [hget, Except.ok.inj hnext]
  · cases hnext

/-- **A launch** keeps the invariant. -/
theorem kept_launch (h : Current S plan c state n accs .null) {files : Files} {planDigest : String}
    {entries : List Entry} (hloaded : loadPlan S files plan = .ok (planDigest, entries))
    (execute : Bool) :
    Prog.wp (Kept S plan) A (fun _ c' => Kept S plan c') (launch S execute entries state) c := by
  unfold launch
  split
  · exact h.kept
  have hlooked := h.look (.entry entries state)
  apply wp_check_bind hlooked.kept
  · intro entry hnext
    have hindex := nextEntry_ok h.holds hnext
    have hentry : entry.sequence = n + 1 := loadPlan_sequence hloaded hindex
    -- the next entry is that of the plan
    have hplan : FromPlan S plan entry :=
      ⟨files, planDigest, entries, hloaded, by rw [hentry, Nat.add_sub_cancel]; exact hindex⟩
    rw [Prog.wp_bind]
    refine hlooked.invoke ?_ ?_ fun _ _ hkept => hkept
    · intro other heq
      cases heq
    intro c₁ inv h₁ _
    apply wp_answer_bind
    intro o₁
    have hlooked₁ := h₁.look (.preflight o₁.files inv)
    apply wp_check_bind hlooked₁.kept
    · intro _ _
      apply wp_answer_bind
      intro o₂
      rw [Prog.wp_bind]
      refine hlooked₁.saveState (h₁.holds.set _ (by decide)) hlooked₁.linked ?_
        fun _ _ hkept => hkept
      intro c₂ state₂ h₂ _ _
      show Prog.wp (Kept S plan) A _ _ c₂
      split
      · exact kept_dispatch h₂ hentry hplan
      · exact h₂.kept
    · intro e _
      exact hlooked₁.kept
  · intro e _
    exact hlooked.kept

/-- What the active entry leaves to be done. -/
def Settled (S : Supervisor) (plan : Bytes) (r : Except Raised (Outcome ⊕ Json)) (c : Campaign) :
    Prop :=
  match r with
  | .ok (.inr state) => ∃ n accs, Current S plan c state n accs .null
  | _ => Kept S plan c

theorem Settled.of_kept {r : Except Raised (Outcome ⊕ Json)} (h : Kept S plan c)
    (hr : ∀ state, r ≠ .ok (.inr state)) : Settled S plan r c := by
  unfold Settled
  split
  case h_1 state => exact (hr state rfl).elim
  case h_2 => exact h

theorem kept_halt {α : Type} {Q : Except Raised α → Campaign → Prop} (h : Kept S plan c)
    (reason detail : String) (last : Option Json)
    (hQ : ∀ e c', Kept S plan c' → Q (.error e) c') :
    Prog.wp (Kept S plan) A Q (halt S reason detail last) c := by
  unfold halt
  apply wp_read_bind h
  split
  · exact hQ _ _ h
  · apply wp_answer_bind
    intro o
    have hlooked := h.look (.written (sentinel S reason detail o.now last))
    apply wp_check_bind hlooked
    · intro _ _
      have hwritten : Kept S plan { c.add (.looked (.written (sentinel S reason detail o.now last)))
          with halted := some (sentinel S reason detail o.now last) } :=
        ⟨hlooked.log, hlooked.none, hlooked.some⟩
      exact wp_modify_bind hwritten (hQ _ _ hwritten)
    · intro e _
      exact hQ e _ hlooked

theorem holds_accept (h : Holds state n accs active) {entry : Entry}
    (hentry : entry.sequence = n + 1) (observation acceptance : Json) :
    Holds (accept state entry observation acceptance) (n + 1) (accs ++ [acceptance]) .null := by
  unfold accept
  have hlast : ((state.set "acceptances" (.arr (acceptances state ++ [acceptance]))).set
      "last_accepted_sequence" (.int entry.sequence)).isObject = true :=
    Json.isObject_set (Json.isObject_set h.object _ _) _ _
  have hobject := Json.isObject_set hlast "next_sequence" (.int (entry.sequence + 1))
  constructor
  · exact Json.isObject_set (Json.isObject_set hobject _ _) _ _
  · rw [Json.get_set_ne (by decide), Json.get_set_ne (by decide), Json.get_set_self hlast, hentry]
  · rw [Json.get_set_ne (by decide), Json.get_set_ne (by decide), Json.get_set_ne (by decide),
      Json.get_set_ne (by decide), Json.get_set_self h.object, h.acceptances_eq]
  · rw [Json.get_set_ne (by decide), Json.get_set_self hobject]

/-- The acceptance of the active entry, and the log that it rests on. -/
theorem linked_accept (h : Linked S plan log n accs active) {runId : String} {acceptance : Json}
    (hnew : ∀ acc ∈ accs, acc.get "run_id" ≠ some (.str runId))
    (hrun : acceptance.get "run_id" = some (.str runId))
    (hrests : RestsOn S plan log (n + 1) acceptance) :
    Linked S plan log (n + 1) (accs ++ [acceptance]) .null := by
  constructor
  · rw [List.length_append, h.length, List.length_singleton]
  · intro i acc hacc
    rcases Nat.lt_or_ge i accs.length with hlt | hge
    · rw [List.getElem?_append_left hlt] at hacc
      exact h.rests i acc hacc
    · rw [List.getElem?_append_right hge] at hacc
      obtain ⟨hi, rfl⟩ := List.getElem?_eq_some_iff.mp hacc
      -- the new acceptance is the last one
      obtain rfl : i = n := by
        rw [List.length_singleton, h.length] at hi
        rw [h.length] at hge
        omega
      simpa using hrests
  · rw [List.map_append, List.map_singleton, List.nodup_append]
    refine ⟨h.distinct, List.nodup_singleton _, ?_⟩
    intro a ha b hb heq
    obtain ⟨acc, hacc, rfl⟩ := List.mem_map.mp ha
    rw [List.mem_singleton.mp hb, hrun] at heq
    exact hnew acc hacc heq
  · intro k hk
    have hle := h.started k hk
    omega
  · exact fun _ => h.started
  · exact fun hne => (hne rfl).elim

/-- **An acceptance** keeps the invariant. -/
theorem settled_completed (h : Current S plan c state n accs active) {entries : List Entry}
    {observation data : Json} {runId : String} {entry : Entry}
    {startInv statusInv inspectInv : Invocation}
    (hentry : entry.sequence = n + 1) (hplan : FromPlan S plan entry)
    (hnew : ∀ acc ∈ accs, acc.get "run_id" ≠ some (.str runId))
    (hsub : List.Sublist [.answered (.start entry) startInv, .answered (.status runId) statusInv,
      .answered (.inspect runId) inspectInv] c.log)
    (hstart : startInv.data.bind (·.get "run_id") = some (.str runId))
    (hstatus : statusInv.manifest.bind (·.get "status") = some (.str "completed"))
    (hdata : inspectInv.data = some data) (hrun : data.get "run_id" = some (.str runId))
    (hbrief : inspectInv.manifest.bind (·.get "brief_sha256") = some (.str entry.briefSha256)) :
    Prog.wp (Kept S plan) A (Settled S plan)
      (settleCompleted S entries state observation data runId entry) c := by
  unfold settleCompleted
  apply wp_answer_bind
  intro o₁
  apply wp_answer_bind
  intro o₂
  have hlooked := h.look (.result o₁.files data runId entry)
  apply wp_check_bind hlooked.kept
  · intro acceptance hverified
    obtain ⟨digest, bytes, haccepts, hdigest, hresult, hbytes⟩ := verifyCompletedResult_ok hverified
    rw [Prog.wp_bind]
    -- what the acceptance rests on: the three answers, in this order, and the bytes on disk
    have hrests : RestsOn S plan (c.add (.looked (.result o₁.files data runId entry))).log (n + 1)
        acceptance :=
      ⟨entry, runId, digest, startInv, statusInv, inspectInv, data, o₁.files, bytes, hplan, hentry,
        hentry ▸ haccepts, hsub.append (List.Sublist.refl _), hstart, hstatus, hdata, hrun, hbrief,
        hdigest, hresult, hbytes⟩
    refine hlooked.saveState (holds_accept h.holds hentry observation acceptance)
      (linked_accept hlooked.linked hnew haccepts.runId hrests) ?_
      fun _ _ hkept => Settled.of_kept hkept nofun
    intro c₂ saved h₂ _ _
    show Prog.wp (Kept S plan) A _ _ c₂
    split
    · exact h₂.kept
    · exact ⟨_, _, h₂⟩
  · intro e _
    exact hlooked.kept

/-- One more answer. -/
theorem sublist_answered {seen log log' : List Event} {answered : Event}
    (h : List.Sublist seen log) (hlog : ∃ l, log' = log ++ l ++ [answered]) :
    List.Sublist (seen ++ [answered]) log' := by
  obtain ⟨l, rfl⟩ := hlog
  exact (h.trans (List.sublist_append_left log l)).append (List.Sublist.refl _)

theorem sublist_grown {seen log log' : List Event} (h : List.Sublist seen log)
    (hlog : ∃ l, log' = log ++ l) : List.Sublist seen log' := by
  obtain ⟨l, rfl⟩ := hlog
  exact h.trans (List.sublist_append_left log l)

/-- **What is done about an active entry** keeps the invariant. -/
theorem settled_settle (h : Current S plan c state n accs active) (hne : active ≠ .null)
    {runId : String} (hrun : active.get "run_id" = some (.str runId)) {files : Files}
    {planDigest : String} {entries : List Entry}
    (hloaded : loadPlan S files plan = .ok (planDigest, entries)) :
    Prog.wp (Kept S plan) A (Settled S plan) (settle S entries state active) c := by
  obtain ⟨started, bound, now, rfl, hsequence, hplan, hbound⟩ := (h.linked.current hne).bound
  have hbind : bound = .str runId := Option.some.inj hrun
  subst hbind
  -- the run id was returned by the start, and no acceptance has it
  obtain ⟨returned, hreturned, hnew⟩ : ∃ startInv : Invocation,
      (.answered (.start started) startInv ∈ c.log ∧
        startInv.data.bind (·.get "run_id") = some (.str runId)) ∧
      ∀ acc ∈ accs, acc.get "run_id" ≠ some (.str runId) := by
    rcases hbound with hnull | ⟨r, hr, ⟨startInv, hmem, hrun'⟩, hnew⟩
    · cases hnull
    · obtain rfl := Json.str.inj hr
      exact ⟨startInv, ⟨hmem, hrun'⟩, hnew⟩
  have herror : ∀ e c', Kept S plan c' → Settled S plan (.error e) c' :=
    fun e c' hkept => Settled.of_kept hkept nofun
  unfold settle
  have hlooked := h.look (.entry entries state)
  apply wp_check_bind hlooked.kept _ (fun e _ => herror e _ hlooked.kept)
  intro entry hnext
  have hindex := nextEntry_ok h.holds hnext
  have hentry : entry.sequence = n + 1 := loadPlan_sequence hloaded hindex
  apply wp_ensure_bind _ (herror _ _ hlooked.kept)
  intro hbrief
  apply wp_ensure_bind _ (herror _ _ hlooked.kept)
  intro hsha
  -- the entry is the one that was started
  have hsame : started = entry := by
    have hb : started.brief = entry.brief := by
      simpa [binding, Json.get, List.lookup] using hbrief
    have hs : started.briefSha256 = entry.briefSha256 := by
      simpa [binding, Json.get, List.lookup] using hsha
    cases started
    cases entry
    simp_all
  subst hsame
  rw [hrun, Option.bind_some, Json.asStr, Option.getD_some, Prog.wp_bind]
  refine hlooked.invoke ?_ ?_ herror
  · intro other heq
    cases heq
  intro c₁ statusInv h₁ hlog₁
  apply wp_answer_bind
  intro o₁
  have hlooked₁ := h₁.look (.status o₁.files statusInv runId started)
  apply wp_check_bind hlooked₁.kept _ (fun e _ => herror e _ hlooked₁.kept)
  intro status hchecked
  have hstatus := checkStatus_ok hchecked
  apply wp_answer_bind
  intro o₂
  rw [Prog.wp_bind]
  refine hlooked₁.saveState (h₁.holds.set _ (by decide)) hlooked₁.linked ?_ herror
  intro c₂ state₂ h₂ hlog₂ _
  show Prog.wp (Kept S plan) A _ _ c₂
  split
  · exact h₂.kept
  rw [Prog.wp_bind]
  refine h₂.invoke ?_ ?_ herror
  · intro other heq
    cases heq
  intro c₃ inspectInv h₃ hlog₃
  apply wp_answer_bind
  intro o₃
  have hlooked₃ := h₃.look (.inspect o₃.files inspectInv runId started status)
  apply wp_check_bind hlooked₃.kept _ (fun e _ => herror e _ hlooked₃.kept)
  intro data hinspected
  obtain ⟨hdata, hrun₃, hbrief₃⟩ := checkInspect_ok hinspected
  rw [Prog.wp_bind]
  refine hlooked₃.saveState (h₃.holds.set _ (by decide)) hlooked₃.linked ?_ herror
  intro c₄ state₄ h₄ hlog₄ _
  show Prog.wp (Kept S plan) A _ _ c₄
  split
  next hcompleted =>
    subst hcompleted
    have hstart : List.Sublist [.answered (.start started) returned] c.log :=
      List.singleton_sublist.mpr hreturned.1
    have hsub₁ := sublist_answered (hstart.trans (List.sublist_append_left c.log _)) hlog₁
    have hsub₂ := sublist_grown (hsub₁.trans (List.sublist_append_left c₁.log _)) hlog₂
    have hsub₃ := sublist_answered hsub₂ hlog₃
    have hsub₄ := sublist_grown (hsub₃.trans (List.sublist_append_left c₃.log _)) hlog₄
    exact settled_completed h₄ hentry hplan hnew hsub₄ hreturned.2 hstatus hdata hrun₃ hbrief₃
  · exact kept_halt h₄.kept _ _ _ herror

theorem holds_initialState (S : Supervisor) (planDigest now : String) :
    Holds (initialState S planDigest now) 0 [] .null :=
  ⟨rfl, rfl, rfl, rfl⟩

/-- A campaign in which nothing was started. -/
theorem linked_nothing (hnone : ∀ k, starts log k = 0) : Linked S plan log 0 [] .null := by
  refine ⟨rfl, ?_, List.nodup_nil, ?_, ?_, fun hne => (hne rfl).elim⟩
  · intro i acc hacc
    cases hacc
  · intro k hk
    rw [hnone k] at hk
    exact absurd hk (lt_irrefl 0)
  · intro _ k hk
    rw [hnone k] at hk
    exact absurd hk (lt_irrefl 0)

/-- What follows when the state is loaded. -/
theorem kept_loaded (h : Current S plan c state n accs active) {files : Files} {planDigest : String}
    {entries : List Entry} (hloaded : loadPlan S files plan = .ok (planDigest, entries))
    (hactive : active ≠ .null → ∃ runId, active.get "run_id" = some (.str runId))
    (execute : Bool) :
    Prog.wp (Kept S plan) A (fun _ c' => Kept S plan c') (match state.get "active" with
      | none | some .null => launch S execute entries state
      | some active => do
          let settled ← settle S entries state active
          match settled with
          | .inl outcome => return outcome
          | .inr state => launch S execute entries state) c := by
  rw [h.holds.active]
  split
  · next heq => cases heq
  · next heq =>
    obtain rfl := Option.some.inj heq
    exact kept_launch h hloaded execute
  · next given hnotNone heq =>
    obtain rfl := Option.some.inj heq
    -- an active entry is settled first
    have hne : active ≠ .null := fun hnull => hnotNone (by rw [hnull])
    obtain ⟨runId, hrun⟩ := hactive hne
    rw [Prog.wp_bind]
    refine Prog.wp_mono (settled_settle h hne hrun hloaded) ?_
    intro r c' hsettled
    cases r with
    | error e => exact hsettled
    | ok settled =>
      cases settled with
      | inl outcome => exact hsettled
      | inr state' =>
        obtain ⟨n', accs', h'⟩ := hsettled
        exact kept_launch h' hloaded execute

/-- What follows when the plan is loaded. -/
theorem kept_planned (h : Kept S plan c) (hquiet : c.halted = none) {files : Files}
    {planDigest : String} {entries : List Entry}
    (hloaded : loadPlan S files plan = .ok (planDigest, entries)) (execute : Bool) :
    Prog.wp (Kept S plan) A (fun _ c' => Kept S plan c') (do
      let state ← loadState S planDigest entries.length
      match state.get "active" with
      | none | some .null => launch S execute entries state
      | some active => do
          let settled ← settle S entries state active
          match settled with
          | .inl outcome => return outcome
          | .inr state => launch S execute entries state) c := by
  rw [Prog.wp_bind]
  unfold loadState
  apply wp_read_bind h
  -- a campaign goes on from its file, or begins
  cases hfile : c.stateFile with
  | some state =>
    obtain ⟨n, accs, active, hholds, hlinked⟩ := h.some state hfile
    have hcurrent : Current S plan c state n accs active := ⟨hquiet, h.log, hfile, hholds, hlinked⟩
    have hlooked := hcurrent.look (.stateFile state planDigest entries.length)
    apply wp_check_bind hlooked.kept
    · intro _ hvalid
      exact kept_loaded hlooked hloaded (readState_active hvalid hholds.active) execute
    · intro e _
      exact hlooked.kept
  | none =>
    apply wp_answer_bind
    intro o
    refine kept_writeState h hquiet (holds_initialState S planDigest o.now)
      (linked_nothing (h.none hfile)) ?_ fun _ _ hkept => hkept
    intro c' hcurrent _ _
    exact kept_loaded hcurrent hloaded (fun hne => (hne rfl).elim) execute

theorem kept_runLocked (h : Kept S plan c) (execute : Bool) :
    Prog.wp (Kept S plan) A (fun _ c' => Kept S plan c') (runLocked S plan execute) c := by
  unfold runLocked
  apply wp_read_bind h
  apply wp_ensure_bind
  · intro hhalted
    have hquiet : c.halted = none := Option.isNone_iff_eq_none.mp hhalted
    apply wp_answer_bind
    intro o₁
    have hlooked₁ := h.look (.binary o₁.files)
    apply wp_check_bind hlooked₁
    · intro _ _
      apply wp_answer_bind
      intro o₂
      have hlooked₂ := hlooked₁.look (.plan o₂.files)
      apply wp_check_bind hlooked₂
      · intro loaded hloaded
        obtain ⟨planDigest, entries⟩ := loaded
        exact kept_planned hlooked₂ hquiet hloaded execute
      · intro e _
        exact hlooked₂
    · intro e _
      exact hlooked₁
  · exact h

/-- **One invocation** keeps the invariant at every point. -/
theorem kept_run (h : Kept S plan c) (execute : Bool) :
    Prog.wp (Kept S plan) A (fun _ c' => Kept S plan c') (run S plan execute) c := by
  unfold run
  apply wp_answer_bind
  intro o
  apply wp_ensure_bind
  · intro _
    rw [Prog.wp_bind, Prog.wp_attempt]
    refine Prog.wp_mono (kept_runLocked h execute) ?_
    intro r c' hkept
    cases r with
    | ok outcome => exact hkept
    | error raised =>
      cases raised with
      | safety detail =>
        apply wp_read_bind hkept
        exact kept_halt hkept _ _ _ fun _ _ hkept' => hkept'
      | halted detail | lockBusy | uncaught kind => exact hkept
  · exact h

end inside

/-! ### Campaigns -/

theorem kept_fresh (S : Supervisor) (plan : Bytes) : Kept S plan Campaign.fresh where
  log := ⟨fun _ => Nat.zero_le 1, fun _ _ _ hmem => (nomatch hmem), fun _ _ _ hmem => (nomatch hmem)⟩
  none _ _ := rfl
  some _ hsome := nomatch hsome

theorem kept_reached {S : Supervisor} {plan : Bytes} {c : Campaign} (h : Reached S plan c) :
    Kept S plan c := by
  induction h with
  | fresh => exact kept_fresh S plan
  | invocation _ hrun ih => exact (Prog.wp_reaches hrun ih (kept_run ih _)).1

/-- **A campaign is in order**: no entry is started twice; an entry is started
    only when the state file records the acceptances of the entries before it;
    every acceptance rests on the start of its entry, on a completed status, on
    an inspect receipt of the run and on the bytes of its result; no two
    acceptances name one run; and no command is issued when `HALTED` exists. -/
theorem campaign_in_order (S : Supervisor) (plan : Bytes) (c : Campaign) (h : Reached S plan c) :
    (∀ k, starts c.log k ≤ 1) ∧
    (∀ entry stateFile halted, .issued (.start entry) stateFile halted ∈ c.log →
      recorded stateFile
        = (List.range' 1 (entry.sequence - 1)).map fun (i : Nat) => some (Json.int i)) ∧
    (∀ state, c.stateFile = some state → ∀ i acc, (acceptances state)[i]? = some acc →
      RestsOn S plan c.log (i + 1) acc) ∧
    (∀ state, c.stateFile = some state →
      ((acceptances state).map (·.get "run_id")).Nodup) ∧
    ∀ call stateFile halted, .issued call stateFile halted ∈ c.log → halted = none := by
  have hkept := kept_reached h
  refine ⟨hkept.log.once, hkept.log.ordered, ?_, ?_, hkept.log.quiet⟩
  · intro state hstate i acc hacc
    obtain ⟨n, accs, active, hholds, hlinked⟩ := hkept.some state hstate
    rw [hholds.acceptances_eq] at hacc
    exact hlinked.rests i acc hacc
  · intro state hstate
    obtain ⟨n, accs, active, hholds, hlinked⟩ := hkept.some state hstate
    rw [hholds.acceptances_eq]
    exact hlinked.distinct

/-! ### A first invocation -/

def sampleDigest : String := String.ofList ("sha256:".toList ++ List.replicate 64 'a')

def sampleRunId : String := "01890000-0000-7000-8000-000000000000"

/-- The plan is the text `p`, its brief the text `b`, and a receipt the text `r`. -/
def samplePython : Python where
  loads text :=
    if text = ['p'] then .ok (.obj [
      ("schema", .str "quinte.contest.plan.v1"),
      ("state_root", .str "/home"),
      ("runtime_sha256", .str sampleDigest),
      ("entries", .arr [.obj [("sequence", .int 1), ("brief", .str "/home")]])])
    else if text = ['b'] then .ok (.obj [("brief_version", .str "1.1"), ("question", .str "q")])
    else .ok (.obj [("ok", .bool true), ("data", .obj [
      ("host_receipt_version", .str "1.0"),
      ("operation", .str "preflight"),
      ("state_root", .str "/home"),
      ("invocation_id", .str sampleRunId),
      ("receipt_path", .str "/home"),
      ("state", .obj [("active_run_ids", .arr []), ("code", .str "ready")]),
      ("preflight", .obj [("ok", .bool true)])])])
  dumps _ := ""
  repr _ := ""
  encodes _ := true
  readable _ := true
  floatIs _ _ := false

/-- A supervisor on a machine with one path and one digest. -/
def sampleSupervisor : Supervisor where
  platform := { Platform.verbatim with sha256 := fun _ => sampleDigest }
  python := samplePython
  planPath := "/home"
  statePath := "/home"
  home := "/home"
  quinteBin := "/home"
  runtimeSha256 := sampleDigest

/-- A host that is ready. -/
def sampleObservation : Observation where
  free := true
  now := "now"
  files := {
    resolve := fun _ => "/home"
    there := fun _ => true
    isFile := fun _ => true
    read := fun _ => some [98] }
  process := .exited 0 [114] []

/-- A first invocation dies right after the start of its entry. -/
theorem campaign_in_order_sample :
    ∃ c : Campaign, starts c.log 1 = 1 ∧ (∀ k, starts c.log k ≤ 1) ∧
      ∀ call stateFile halted, .issued call stateFile halted ∈ c.log → halted = none := by
  have hrun : (Prog.exec (List.replicate 26 sampleObservation)
      (run sampleSupervisor [112] true) Campaign.fresh).any (fun r => starts r.2.log 1 == 1)
      = true := by
    decide +kernel
  obtain ⟨⟨p, c⟩, hexec, hstarted⟩ := (Option.any_eq_true _ _).mp hrun
  have hfresh : Reached sampleSupervisor [112] Campaign.fresh := Reached.fresh
  have hreached := Reached.invocation hfresh (Prog.reaches_of_exec hexec)
  obtain ⟨honce, -, -, -, hquiet⟩ := campaign_in_order sampleSupervisor [112] c hreached
  exact ⟨c, eq_of_beq hstarted, honce, hquiet⟩

end Quinte.Contest
