import Mathlib
import Quinte.Finance.Utf8
import Quinte.Framework.Codec
import Quinte.Framework.FramedLog
import Quinte.Framework.JsonAccess
import Quinte.Framework.JsonPrefix

/-! # The event ledger in its file

    `events.jsonl` has one event on each line. `read_events` repairs the end of
    the file: a last event without its line feed gets one, and what is no event
    is cut off. Reading and appending are done under the lock of the ledger, so
    that calls follow one another; a process may die in any of them, between two
    writes or at any byte of one.

    * `ledger_durable`: what a call has answered stays in the ledger, in its
      place, and a transition is recorded once.
-/

namespace Quinte.EventLog

open Json (Codec Fields)
open Finance (Bytes Platform utf8 fromUtf8)

/-! ### Events -/

/-- The program writes no fractional numbers into events, and does not nest deeply. -/
def decidableRegular : (n : Nat) → (v : Json) → Decidable (Json.Regular n v)
  | 0, .null | 0, .bool _ | 0, .str _ => isTrue trivial
  | 0, .int m => inferInstanceAs (Decidable (-2 ^ 63 ≤ m ∧ m < 2 ^ 64))
  | 0, .float _ | 0, .arr _ | 0, .obj _ => isFalse id
  | _ + 1, .null | _ + 1, .bool _ | _ + 1, .str _ => isTrue trivial
  | _ + 1, .int m => inferInstanceAs (Decidable (-2 ^ 63 ≤ m ∧ m < 2 ^ 64))
  | _ + 1, .float _ => isFalse id
  | n + 1, .arr items =>
      have := decidableRegular n
      inferInstanceAs (Decidable (∀ v ∈ items, Json.Regular n v))
  | n + 1, .obj members =>
      have (m : String × Json) : Decidable (Json.Regular n m.2) := decidableRegular n m.2
      inferInstanceAs (Decidable (∀ m ∈ members, Json.Regular n m.2))

instance instDecidableRegular (n : Nat) (v : Json) : Decidable (Json.Regular n v) :=
  decidableRegular n v

/-- A `Value` in an event: a map is kept sorted, and has no fractional numbers. -/
structure Payload where
  value : Json
  regular : Json.Regular 90 value
  unique : value.unique = true
  sorted : value.sorted = value

namespace Payload

def ofJson (v : Json) : Option Payload :=
  if h : Json.Regular 90 v.sorted ∧ v.sorted.unique = true then
    some ⟨v.sorted, h.1, h.2, v.sorted_sorted⟩
  else none

theorem ofJson_value (p : Payload) : ofJson p.value.sorted = some p := by
  obtain ⟨v, hregular, hunique, hsorted⟩ := p
  have h : Json.Regular 90 v.sorted.sorted ∧ v.sorted.sorted.unique = true := by
    rw [Json.sorted_sorted, hsorted]
    exact ⟨hregular, hunique⟩
  rw [ofJson, dif_pos h]
  simp only [hsorted]

def codec : Codec Payload where
  enc := value
  dec := ofJson
  depth := 90
  dec_enc := ofJson_value
  regular := regular
  unique := unique

end Payload

/-- `Event`, as it is on a line. -/
structure EventRecord where
  eventVersion : String
  sequence : UInt64
  timestamp : String
  runId : String
  eventType : String
  phase : Option String
  partyId : Option String
  attempt : Option UInt64
  data : Payload

namespace EventRecord

theorem string_enc_ne_null (s : String) : Codec.string.enc s ≠ .null := fun h => by cases h

theorem uint64_enc_ne_null (n : UInt64) : Codec.uint64.enc n ≠ .null := fun h => by cases h

def codec : Codec EventRecord :=
  .record (Fields.start EventRecord mk
    |>.required "event_version" .string (·.eventVersion)
    |>.required "sequence" .uint64 (·.sequence)
    |>.required "timestamp" .string (·.timestamp)
    |>.required "run_id" .string (·.runId)
    |>.required "event_type" .string (·.eventType)
    |>.nullable "phase" .string string_enc_ne_null (·.phase)
    |>.nullable "party_id" .string string_enc_ne_null (·.partyId)
    |>.nullable "attempt" .uint64 uint64_enc_ne_null (·.attempt)
    |>.required "data" Payload.codec (·.data))
  (by decide) fun _ => rfl

/-- `RUN_EVENT_SCHEMA`. -/
def valid (e : EventRecord) : Bool :=
  e.eventVersion == "1.0" && 1 ≤ e.sequence && e.runId != "" && e.eventType != ""
    && e.attempt.all (1 ≤ ·)

/-- `data.get("transition_id").and_then(Value::as_str)`. -/
def transitionId (e : EventRecord) : Option String :=
  (e.data.value.get "transition_id").bind Json.asStr

end EventRecord

/-! ### Reading -/

/-- The lines of the file: `to_vec` of an event, and `from_slice`. -/
def lineCodec (P : Platform) : FramedLog.Codec EventRecord UInt8 where
  encode e := utf8 (Json.write Json.compact 0 (EventRecord.codec.enc e))
  decode line := ((fromUtf8 line).bind P.json.read).bind fun v =>
    if v.unique then EventRecord.codec.dec v.sorted else none

/-- The check of `read_events` on the numbers of the events. -/
def checkSequence : UInt64 → List EventRecord → Except String Unit
  | _, [] => .ok ()
  | expected, e :: es =>
      if e.sequence = expected then checkSequence (expected + 1) es
      else .error ("events.jsonl sequence mismatch: expected " ++ toString expected ++ ", found "
        ++ toString e.sequence)

/-- `read_events`: what it returns, and the file it leaves. -/
def readEvents (P : Platform) (file : Bytes) : Except String (List EventRecord) × Bytes :=
  match FramedLog.recover (lineCodec P) 10 file with
  | (none, file) => (.error "events.jsonl contains an invalid committed record", file)
  | (some events, file) => (do checkSequence 1 events; return events, file)

/-! ### Appending -/

/-- The arguments of `event_at`. `recover_pending_transition` makes an event of the
    same kind out of the pending transition. -/
structure Draft where
  runId : String
  eventType : String
  phase : Option String
  partyId : Option String
  attempt : Option UInt64
  data : Payload
  timestamp : String

def Draft.record (d : Draft) (sequence : UInt64) : EventRecord where
  eventVersion := "1.0"
  sequence := sequence
  timestamp := d.timestamp
  runId := d.runId
  eventType := d.eventType
  phase := d.phase
  partyId := d.partyId
  attempt := d.attempt
  data := d.data

/-- The transition that an event is about, if it is of this type. -/
def EventRecord.transition (e : EventRecord) : Option String :=
  if e.eventType = "run.transition" then e.transitionId else none

/-- The event of a transition that is in the ledger already. -/
def recorded (existing : List EventRecord) (d : Draft) : Option EventRecord :=
  (d.record 0).transition.bind fun id => existing.find? fun e => e.transitionId = some id

def nextSequence (existing : List EventRecord) : UInt64 :=
  match existing.getLast? with
  | none => 1
  | some e => e.sequence + 1

/-- What a caller gets to know. -/
inductive Reply where
  | events (events : List EventRecord)
  | event (e : EventRecord)
  | failed

/-- What a call does: first it repairs the file, then it appends to it. -/
structure Outcome where
  reply : Reply
  repaired : Bytes
  appended : Bytes

inductive Call where
  | events
  | eventAt (d : Draft)

/-- `Store::events`, under the lock of the ledger. -/
def events (P : Platform) (file : Bytes) : Outcome :=
  match readEvents P file with
  | (.error _, repaired) => ⟨.failed, repaired, []⟩
  | (.ok existing, repaired) => ⟨.events existing, repaired, []⟩

/-- `event_at`, under the lock of the ledger. -/
def eventAt (P : Platform) (d : Draft) (file : Bytes) : Outcome :=
  match readEvents P file with
  | (.error _, repaired) => ⟨.failed, repaired, []⟩
  | (.ok existing, repaired) =>
    match recorded existing d with
    | some e => ⟨.event e, repaired, []⟩
    | none =>
      let e := d.record (nextSequence existing)
      if e.valid then ⟨.event e, repaired, (lineCodec P).encode e ++ [10]⟩
      else ⟨.failed, repaired, []⟩

def Call.outcome (P : Platform) : Call → Bytes → Outcome
  | .events => EventLog.events P
  | .eventAt d => EventLog.eventAt P d

/-- The calls so far, the last one first, with what they replied, and the file.
    A process that dies in a call, or whose write fails, has left the file as it
    was, or repaired it and written the first bytes of what it had to append. -/
inductive Run (P : Platform) : List (Call × Option Reply) → Bytes → Prop
  | new : Run P [] []
  | answered {past : List (Call × Option Reply)} {file : Bytes} (call : Call) :
      Run P past file →
      Run P ((call, some (call.outcome P file).reply) :: past)
        ((call.outcome P file).repaired ++ (call.outcome P file).appended)
  | unread {past : List (Call × Option Reply)} {file : Bytes} (call : Call) :
      Run P past file → Run P ((call, none) :: past) file
  | died {past : List (Call × Option Reply)} {file left : Bytes} (call : Call) :
      Run P past file → left <+: (call.outcome P file).appended →
      Run P ((call, none) :: past) ((call.outcome P file).repaired ++ left)

/-! ### Lines -/

/-- The reader refuses the text of an object that breaks off, as `serde_json` does. -/
def RefusesBroken (P : Platform) : Prop :=
  ∀ members text, Json.Regular 100 (.obj members) →
    text <+: Json.write Json.compact 0 (.obj members) →
    text ≠ Json.write Json.compact 0 (.obj members) → P.json.read text = none

theorem verbatim_refusesBroken : RefusesBroken Platform.verbatim :=
  fun _ _ hregular hpart hne => Json.scan_broken hregular hpart hne

section lines

variable {P : Platform}

theorem enc_regular (e : EventRecord) : Json.Regular 100 (EventRecord.codec.enc e) :=
  (EventRecord.codec.regular e).mono (by decide)

theorem enc_members (e : EventRecord) : ∃ members, EventRecord.codec.enc e = .obj members :=
  ⟨_, rfl⟩

theorem lineCodec_decode_encode (e : EventRecord) :
    (lineCodec P).decode ((lineCodec P).encode e) = some e := by
  have hnone : ∀ c ∈ ([] : Json.Text), Json.isSpace c = true := fun _ hc => by cases hc
  have hread := P.json.read_write Json.compact _ [] ((enc_regular e).mono P.deep) hnone
  rw [List.append_nil] at hread
  have hunique := EventRecord.codec.unique e
  simp only [lineCodec, Finance.fromUtf8_utf8, Option.bind_some, hread, hunique, if_true]
  exact EventRecord.codec.dec_enc e

/-- **One line is one event**, and a part of it is none. -/
theorem lineCodec_lawful (hP : RefusesBroken P) : (lineCodec P).Lawful 10 where
  decode_encode := lineCodec_decode_encode
  sep_free e hmem :=
    Json.newline_notMem_write (enc_regular e) 0 (Finance.lineFeed_mem_utf8 hmem)
  nonempty e hnil := by
    obtain ⟨members, hmembers⟩ := enc_members e
    obtain ⟨body, hbody⟩ := Json.write_open Json.compact members
    simp only [lineCodec, hmembers, hbody, utf8, List.flatMap_cons] at hnil
    exact String.utf8EncodeChar_ne_nil (List.append_eq_nil_iff.mp hnil).1
  prefix_free e line hpart hne := by
    have hbroken : ∀ text, fromUtf8 line = some text → P.json.read text = none := by
      intro text htext
      obtain ⟨members, hmembers⟩ := enc_members e
      have hline := Finance.utf8_of_fromUtf8 htext
      have hregular := enc_regular e
      rw [← hline] at hpart hne
      simp only [lineCodec] at hpart hne
      rw [hmembers] at hpart hne hregular
      apply hP members text hregular (Finance.prefix_of_utf8 hpart)
      intro heq
      exact hne (congrArg utf8 heq)
    simp only [lineCodec]
    -- the line may break off inside a character
    cases htext : fromUtf8 line with
    | none => rfl
    | some text => rw [Option.bind_some, hbroken text htext, Option.bind_none]

end lines

/-! ### Numbers -/

/-- The events are numbered from here on. -/
def Numbered (first : Nat) (es : List EventRecord) : Prop :=
  ∀ i e, es[i]? = some e → e.sequence.toNat = first + i

theorem checkSequence_numbered {first : UInt64} {es : List EventRecord}
    (h : Numbered first.toNat es) (hfew : first.toNat + es.length ≤ 2 ^ 64) :
    checkSequence first es = .ok () := by
  induction es generalizing first with
  | nil => rfl
  | cons e es ih =>
    rw [List.length_cons] at hfew
    have hhead : e.sequence = first := UInt64.toNat_inj.mp (h 0 e rfl)
    have hnext : (first + 1).toNat = (first.toNat + 1) % 2 ^ 64 := UInt64.toNat_add first 1
    rw [checkSequence, if_pos hhead]
    apply ih
    · intro i f hf
      -- there is an event after this one, so that the number does not wrap around
      have hi := (List.getElem?_eq_some_iff.mp hf).1
      have hlater := h (i + 1) f hf
      omega
    · omega

theorem nextSequence_numbered {es : List EventRecord} (h : Numbered 1 es)
    (hfew : es.length + 1 < 2 ^ 64) : (nextSequence es).toNat = 1 + es.length := by
  unfold nextSequence
  cases hlast : es.getLast? with
  | none =>
    rw [List.getLast?_eq_none_iff.mp hlast]
    rfl
  | some e =>
    rw [List.getLast?_eq_getElem?] at hlast
    have hlength := (List.getElem?_eq_some_iff.mp hlast).1
    have hnumber := h _ e hlast
    have hadd : (e.sequence + 1).toNat = (e.sequence.toNat + 1) % 2 ^ 64 :=
      UInt64.toNat_add e.sequence 1
    show (e.sequence + 1).toNat = 1 + es.length
    omega

theorem Numbered.append {first : Nat} {es : List EventRecord} {e : EventRecord}
    (h : Numbered first es) (he : e.sequence.toNat = first + es.length) :
    Numbered first (es ++ [e]) := by
  intro i f hf
  rcases Nat.lt_trichotomy i es.length with hlt | rfl | hgt
  · rw [List.getElem?_append_left hlt] at hf
    exact h i f hf
  · rw [List.getElem?_concat_length] at hf
    rw [← Option.some.inj hf, he]
  · have hi := (List.getElem?_eq_some_iff.mp hf).1
    rw [List.length_append, List.length_singleton] at hi
    omega

/-- What is recovered as numbered events is read. -/
theorem readEvents_recovered {P : Platform} {file : Bytes} {ledger : List EventRecord}
    (hfile : FramedLog.recover (lineCodec P) 10 file
      = (some ledger, FramedLog.log (lineCodec P) 10 ledger))
    (hnumbered : Numbered 1 ledger) (hfew : ledger.length < 2 ^ 64) :
    readEvents P file = (.ok ledger, FramedLog.log (lineCodec P) 10 ledger) := by
  have hcheck : checkSequence 1 ledger = .ok () :=
    checkSequence_numbered hnumbered (by rw [UInt64.toNat_one]; omega)
  rw [readEvents, hfile]
  simp only [hcheck]
  rfl

/-! ### The ledger -/

/-- What holds of the events in the file, after these calls. -/
structure Ledger (past : List (Call × Option Reply)) (ledger : List EventRecord) : Prop where
  numbered : Numbered 1 ledger
  /-- A call that was answered has its event there, or the one of its transition. -/
  answered : ∀ d e, (Call.eventAt d, some (.event e)) ∈ past → e ∈ ledger ∧
    (e = d.record e.sequence ∨ ∃ id, (d.record 0).transition = some id ∧ e.transitionId = some id)
  /-- What a reader was told is how the ledger starts. -/
  told : ∀ es, (Call.events, some (.events es)) ∈ past → es <+: ledger
  /-- Every event is the one of a call, which got it as its answer or died. -/
  written : ∀ e ∈ ledger, ∃ d, e = d.record e.sequence ∧
    ((Call.eventAt d, some (.event e)) ∈ past ∨ (Call.eventAt d, none) ∈ past)
  once : (ledger.filterMap EventRecord.transition).Nodup
  few : ledger.length ≤ past.length

namespace Ledger

variable {past : List (Call × Option Reply)} {ledger : List EventRecord}

theorem nil : Ledger [] [] where
  numbered _ _ h := by cases h
  answered _ _ h := by cases h
  told _ h := by cases h
  written _ h := by cases h
  once := List.nodup_nil
  few := le_rfl

/-- A call that leaves the ledger as it is. -/
theorem keep (h : Ledger past ledger) {call : Call} {reply : Option Reply}
    (hevent : ∀ d e, (call, reply) = (.eventAt d, some (.event e)) → e ∈ ledger ∧
      ∃ id, (d.record 0).transition = some id ∧ e.transitionId = some id)
    (hevents : ∀ es, (call, reply) = (.events, some (.events es)) → es <+: ledger) :
    Ledger ((call, reply) :: past) ledger where
  numbered := h.numbered
  answered d e hmem := by
    rcases List.mem_cons.mp hmem with heq | hold
    · obtain ⟨hin, hknown⟩ := hevent d e heq.symm
      exact ⟨hin, Or.inr hknown⟩
    · exact h.answered d e hold
  told es hmem := by
    rcases List.mem_cons.mp hmem with heq | hold
    · exact hevents es heq.symm
    · exact h.told es hold
  written e he := by
    obtain ⟨d, hd, hcall⟩ := h.written e he
    exact ⟨d, hd, hcall.imp (List.mem_cons_of_mem _) (List.mem_cons_of_mem _)⟩
  once := h.once
  few := by
    rw [List.length_cons]
    exact h.few.trans (Nat.le_succ _)

/-- A call that died. -/
theorem silent (h : Ledger past ledger) (call : Call) : Ledger ((call, none) :: past) ledger :=
  h.keep (fun _ _ heq => by cases heq) (fun _ heq => by cases heq)

/-- No event of the ledger has the identity of a transition that is not recorded. -/
theorem transition_fresh {d : Draft} (hnew : recorded ledger d = none) {sequence : UInt64}
    {id : String} (hid : (d.record sequence).transition = some id) :
    id ∉ ledger.filterMap EventRecord.transition := by
  intro hmem
  obtain ⟨e, he, htransition⟩ := List.mem_filterMap.mp hmem
  have hdraft : (d.record 0).transition = some id := hid
  have hnone := hnew
  rw [recorded, hdraft, Option.bind_some, List.find?_eq_none] at hnone
  unfold EventRecord.transition at htransition
  split at htransition
  · exact hnone e he (decide_eq_true htransition)
  · cases htransition

/-- A call that appends its event. -/
theorem append (h : Ledger past ledger) {d : Draft} (hnew : recorded ledger d = none)
    (hfew : past.length + 1 < 2 ^ 64) {reply : Option Reply}
    (hreply : reply = none ∨ reply = some (.event (d.record (nextSequence ledger)))) :
    Ledger ((.eventAt d, reply) :: past) (ledger ++ [d.record (nextSequence ledger)]) where
  numbered := by
    have hlength := h.few
    exact h.numbered.append (nextSequence_numbered h.numbered (by omega))
  answered d' e hmem := by
    rcases List.mem_cons.mp hmem with heq | hold
    · obtain ⟨hcall, hanswer⟩ := Prod.mk.inj heq
      obtain rfl := Call.eventAt.inj hcall
      rcases hreply with rfl | rfl
      · cases hanswer
      · obtain rfl := Reply.event.inj (Option.some.inj hanswer)
        exact ⟨List.mem_append_right _ (List.mem_singleton_self _), Or.inl rfl⟩
    · obtain ⟨hin, hkind⟩ := h.answered d' e hold
      exact ⟨List.mem_append_left _ hin, hkind⟩
  told es hmem := by
    rcases List.mem_cons.mp hmem with heq | hold
    · cases (Prod.mk.inj heq).1
    · exact (h.told es hold).trans (List.prefix_append _ _)
  written e he := by
    rcases List.mem_append.mp he with hold | hlast
    · obtain ⟨d', hd, hcall⟩ := h.written e hold
      exact ⟨d', hd, hcall.imp (List.mem_cons_of_mem _) (List.mem_cons_of_mem _)⟩
    · obtain rfl := List.mem_singleton.mp hlast
      refine ⟨d, rfl, ?_⟩
      rcases hreply with rfl | rfl
      · exact Or.inr List.mem_cons_self
      · exact Or.inl List.mem_cons_self
  once := by
    -- `event_at` has looked for the identity among all events
    rw [List.filterMap_append]
    cases hid : (d.record (nextSequence ledger)).transition with
    | none =>
      have hnone : [d.record (nextSequence ledger)].filterMap EventRecord.transition = [] := by
        rw [List.filterMap_cons_none hid, List.filterMap_nil]
      rw [hnone, List.append_nil]
      exact h.once
    | some id =>
      have hsome : [d.record (nextSequence ledger)].filterMap EventRecord.transition = [id] := by
        rw [List.filterMap_cons_some hid, List.filterMap_nil]
      rw [hsome, List.nodup_append_comm]
      exact List.nodup_cons.mpr ⟨transition_fresh hnew hid, h.once⟩
  few := by
    have hlength := h.few
    rw [List.length_append, List.length_singleton, List.length_cons]
    omega

end Ledger

/-! ### Calls -/

section calls

variable {P : Platform} {file : Bytes} {ledger : List EventRecord}

/-- `read_events` finds these events, and leaves a file of them. -/
def Recovers (P : Platform) (file : Bytes) (ledger : List EventRecord) : Prop :=
  FramedLog.recover (lineCodec P) 10 file = (some ledger, FramedLog.log (lineCodec P) 10 ledger)

/-- What `event_at` does, where the ledger is found. -/
theorem eventAt_cases (d : Draft)
    (hread : readEvents P file = (.ok ledger, FramedLog.log (lineCodec P) 10 ledger)) :
    (∃ e ∈ ledger, (∃ id, (d.record 0).transition = some id ∧ e.transitionId = some id) ∧
        eventAt P d file = ⟨.event e, FramedLog.log (lineCodec P) 10 ledger, []⟩) ∨
      eventAt P d file = ⟨.failed, FramedLog.log (lineCodec P) 10 ledger, []⟩ ∨
      (recorded ledger d = none ∧ eventAt P d file =
        ⟨.event (d.record (nextSequence ledger)), FramedLog.log (lineCodec P) 10 ledger,
          (lineCodec P).encode (d.record (nextSequence ledger)) ++ [10]⟩) := by
  cases hknown : recorded ledger d with
  | some e =>
    refine Or.inl ⟨e, ?_, ?_, ?_⟩
    · obtain ⟨id, -, hfind⟩ := Option.bind_eq_some_iff.mp hknown
      exact List.mem_of_find?_eq_some hfind
    · obtain ⟨id, hid, hfind⟩ := Option.bind_eq_some_iff.mp hknown
      have hsame := List.find?_some hfind
      exact ⟨id, hid, by simpa using hsame⟩
    · rw [eventAt, hread]
      simp only [hknown]
  | none =>
    by_cases hvalid : (d.record (nextSequence ledger)).valid = true
    · refine Or.inr (Or.inr ⟨rfl, ?_⟩)
      rw [eventAt, hread]
      simp only [hknown, if_pos hvalid]
    · refine Or.inr (Or.inl ?_)
      rw [eventAt, hread]
      simp only [hknown, if_neg hvalid]

theorem recovers_log (hP : RefusesBroken P) (ledger : List EventRecord) :
    Recovers P (FramedLog.log (lineCodec P) 10 ledger ++ []) ledger := by
  rw [List.append_nil]
  exact FramedLog.recover_log (lineCodec_lawful hP) ledger

/-- What `events` does, where the ledger is found. -/
theorem events_eq
    (hread : readEvents P file = (.ok ledger, FramedLog.log (lineCodec P) 10 ledger)) :
    events P file = ⟨.events ledger, FramedLog.log (lineCodec P) 10 ledger, []⟩ := by
  rw [events, hread]

variable {past : List (Call × Option Reply)}

/-- A call that is answered. -/
theorem step_answered (hP : RefusesBroken P) (call : Call)
    (hread : readEvents P file = (.ok ledger, FramedLog.log (lineCodec P) 10 ledger))
    (hledger : Ledger past ledger) (hfew : past.length + 1 < 2 ^ 64) :
    ∃ ledger', Recovers P ((call.outcome P file).repaired ++ (call.outcome P file).appended) ledger'
      ∧ Ledger ((call, some (call.outcome P file).reply) :: past) ledger' := by
  cases call with
  | events =>
    rw [Call.outcome, events_eq hread]
    refine ⟨ledger, recovers_log hP ledger, hledger.keep (fun _ _ heq => by cases heq) ?_⟩
    intro es heq
    obtain rfl := Reply.events.inj (Option.some.inj (Prod.mk.inj heq).2)
    exact List.prefix_rfl
  | eventAt d =>
    rw [Call.outcome]
    rcases eventAt_cases d hread with ⟨e, he, hknown, hcall⟩ | hcall | ⟨hnew, hcall⟩
    · rw [hcall]
      refine ⟨ledger, recovers_log hP ledger, hledger.keep ?_ (fun _ heq => by cases heq)⟩
      intro d' e' heq
      obtain ⟨hd, hreply⟩ := Prod.mk.inj heq
      obtain rfl := Call.eventAt.inj hd
      obtain rfl := Reply.event.inj (Option.some.inj hreply)
      exact ⟨he, hknown⟩
    · rw [hcall]
      exact ⟨ledger, recovers_log hP ledger,
        hledger.keep (fun _ _ heq => by cases heq) (fun _ heq => by cases heq)⟩
    · rw [hcall]
      refine ⟨_, ?_, hledger.append hnew hfew (Or.inr rfl)⟩
      have hwhole := recovers_log hP (ledger ++ [d.record (nextSequence ledger)])
      rw [List.append_nil, FramedLog.log_append, FramedLog.log_cons, FramedLog.log_nil] at hwhole
      exact hwhole

/-- A call in which the process dies. -/
theorem step_died (hP : RefusesBroken P) (call : Call)
    (hread : readEvents P file = (.ok ledger, FramedLog.log (lineCodec P) 10 ledger))
    (hledger : Ledger past ledger) (hfew : past.length + 1 < 2 ^ 64) {left : Bytes}
    (hleft : left <+: (call.outcome P file).appended) :
    ∃ ledger', Recovers P ((call.outcome P file).repaired ++ left) ledger'
      ∧ Ledger ((call, none) :: past) ledger' := by
  cases call with
  | events =>
    rw [Call.outcome, events_eq hread] at hleft ⊢
    obtain rfl := List.prefix_nil.mp hleft
    exact ⟨ledger, recovers_log hP ledger, hledger.silent _⟩
  | eventAt d =>
    rw [Call.outcome] at hleft ⊢
    rcases eventAt_cases d hread with ⟨e, -, -, hcall⟩ | hcall | ⟨hnew, hcall⟩
    · rw [hcall] at hleft ⊢
      obtain rfl := List.prefix_nil.mp hleft
      exact ⟨ledger, recovers_log hP ledger, hledger.silent _⟩
    · rw [hcall] at hleft ⊢
      obtain rfl := List.prefix_nil.mp hleft
      exact ⟨ledger, recovers_log hP ledger, hledger.silent _⟩
    · rw [hcall] at hleft ⊢
      -- the next reader has the event or does not have it
      rcases FramedLog.recover_torn (lineCodec_lawful hP) ledger hleft with hlost | hkept
      · exact ⟨ledger, hlost, hledger.silent _⟩
      · exact ⟨_, hkept, hledger.append hnew hfew (Or.inl rfl)⟩

end calls

/-- **Whatever the calls are and wherever they die**, the file can be read, and has
    every event that was answered, each in its place. -/
theorem ledger_durable {P : Platform} (hP : RefusesBroken P) {past : List (Call × Option Reply)}
    {file : Bytes} (hrun : Run P past file) (hfew : past.length < 2 ^ 64) :
    ∃ ledger, readEvents P file = (.ok ledger, FramedLog.log (lineCodec P) 10 ledger)
      ∧ Ledger past ledger := by
  -- the file recovers to a ledger, after every call
  suffices h : ∃ ledger, Recovers P file ledger ∧ Ledger past ledger by
    obtain ⟨ledger, hfile, hledger⟩ := h
    have hlength := hledger.few
    exact ⟨ledger, readEvents_recovered hfile hledger.numbered (by omega), hledger⟩
  induction hrun with
  | new => exact ⟨[], FramedLog.recover_log (lineCodec_lawful hP) [], Ledger.nil⟩
  | @answered past file call _ ih =>
    rw [List.length_cons] at hfew
    obtain ⟨ledger, hfile, hledger⟩ := ih (by omega)
    have hlength := hledger.few
    have hread := readEvents_recovered hfile hledger.numbered (by omega)
    exact step_answered hP call hread hledger hfew
  | @unread past file call _ ih =>
    rw [List.length_cons] at hfew
    obtain ⟨ledger, hfile, hledger⟩ := ih (by omega)
    exact ⟨ledger, hfile, hledger.silent call⟩
  | @died past file left call _ hleft ih =>
    rw [List.length_cons] at hfew
    obtain ⟨ledger, hfile, hledger⟩ := ih (by omega)
    have hlength := hledger.few
    have hread := readEvents_recovered hfile hledger.numbered (by omega)
    exact step_died hP call hread hledger hfew hleft

section sample

def sampleDraft (data : Payload) : Draft where
  runId := "run"
  eventType := "run.transition"
  phase := some "R1"
  partyId := none
  attempt := none
  data := data
  timestamp := "2026-01-01T00:00:00Z"

def sampleFirst : Draft := sampleDraft
  { value := .obj [("transition_id", .str "first")]
    regular := by decide
    unique := by decide
    sorted := by simp [Json.sorted_obj] }

def sampleSecond : Draft := sampleDraft
  { value := .obj [("transition_id", .str "second")]
    regular := by decide
    unique := by decide
    sorted := by simp [Json.sorted_obj] }

/-- An event that is answered. -/
def sampleOutcome : Outcome := eventAt Platform.verbatim sampleFirst []

/-- One whose append breaks off. -/
def sampleTorn : Outcome :=
  eventAt Platform.verbatim sampleSecond (sampleOutcome.repaired ++ sampleOutcome.appended)

theorem sampleRun : Run Platform.verbatim
    [(.eventAt sampleSecond, none), (.eventAt sampleFirst, some sampleOutcome.reply)]
    (sampleTorn.repaired ++ sampleTorn.appended.take 20) :=
  have hleft : sampleTorn.appended.take 20 <+: sampleTorn.appended := List.take_prefix 20 _
  Run.died (.eventAt sampleSecond) (Run.answered (.eventAt sampleFirst) Run.new) hleft

theorem ledger_durable_sample :
    ∃ ledger, readEvents Platform.verbatim (sampleTorn.repaired ++ sampleTorn.appended.take 20)
        = (.ok ledger, FramedLog.log (lineCodec Platform.verbatim) 10 ledger)
      ∧ Ledger [(.eventAt sampleSecond, none), (.eventAt sampleFirst, some sampleOutcome.reply)]
        ledger :=
  ledger_durable verbatim_refusesBroken sampleRun (by decide)

end sample

end Quinte.EventLog
