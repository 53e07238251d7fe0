import Mathlib
import Quinte.Adapter.ProviderFaces
import Quinte.Seat.Contract
import Quinte.Seat.Serving

/-! # What the text of a model decides

    `evaluate_attempt_output` classifies an attempt that fails by its output and
    its error text, and both may hold text of the model: the content of a message,
    on either face of a provider, and what the contract validator of a seat quotes
    of a reply.

    * `find_blankContent`: nothing is found in the content of a message;
    * `lot_messages_iff`: when two messages without an output share a class;
    * `executeA2aCall_failed`: how a seat's refusal reaches the error text;
    * `retryClass_iff`: when two texts of a model lead to the same class.
-/

namespace Quinte.Adapter

open Finance (Bytes Platform utf8 fromUtf8 fromUtf8_utf8)
open Json (Text)
open Program

/-! ### Values without their content -/

def isText : Json → Bool
  | .str _ => true
  | _ => false

mutual

/-- The value with no text in the members named `content`. -/
def blankContent : Json → Json
  | .arr items => .arr (blankItems items)
  | .obj members => .obj (blankMembers members)
  | .null => .null
  | .bool b => .bool b
  | .int n => .int n
  | .float text => .float text
  | .str s => .str s

def blankItems : List Json → List Json
  | [] => []
  | v :: vs => blankContent v :: blankItems vs

def blankMembers : List (String × Json) → List (String × Json)
  | [] => []
  -- a text of another name may be a code, and stays
  | (name, v) :: ms =>
      (name, if name = "content" ∧ isText v = true then .str "" else blankContent v)
        :: blankMembers ms

end

theorem lookup_blankMembers {name : String} (hname : name ≠ "content")
    (members : List (String × Json)) :
    (blankMembers members).lookup name = (members.lookup name).map blankContent := by
  induction members with
  | nil => rfl
  | cons m ms ih =>
    obtain ⟨name', v⟩ := m
    rw [blankMembers, List.lookup_cons, List.lookup_cons, ih]
    by_cases heq : name = name'
    · subst heq
      simp [hname]
    · have hne : (name == name') = false := beq_eq_false_iff_ne.mpr heq
      simp [hne]

theorem asNat_blankContent (v : Json) : (blankContent v).asNat = v.asNat := by
  cases v <;> rfl

theorem asStr_blankContent (v : Json) : (blankContent v).asStr = v.asStr := by
  cases v <;> rfl

theorem asNat_lookup_blank {name : String} (hname : name ≠ "content")
    (members : List (String × Json)) :
    ((blankMembers members).lookup name).bind Json.asNat
      = (members.lookup name).bind Json.asNat := by
  rw [lookup_blankMembers hname]
  cases members.lookup name with
  | none => rfl
  | some v => exact asNat_blankContent v

theorem asStr_lookup_blank {name : String} (hname : name ≠ "content")
    (members : List (String × Json)) :
    ((blankMembers members).lookup name).bind Json.asStr
      = (members.lookup name).bind Json.asStr := by
  rw [lookup_blankMembers hname]
  cases members.lookup name with
  | none => rfl
  | some v => exact asStr_blankContent v

theorem firstNumber_blank {names : List String} (hnames : "content" ∉ names)
    (members : List (String × Json)) :
    firstNumber names (blankMembers members) = firstNumber names members := by
  induction names with
  | nil => rfl
  | cons name names ih =>
    obtain ⟨hname, hrest⟩ := not_or.mp (List.mem_cons.not.mp hnames)
    rw [firstNumber, firstNumber, List.findSome?_cons, List.findSome?_cons,
      asNat_lookup_blank (Ne.symm hname)]
    cases (members.lookup name).bind Json.asNat with
    | none => exact ih hrest
    | some n => rfl

theorem saysRateLimit_blank (members : List (String × Json)) :
    saysRateLimit (blankMembers members) = saysRateLimit members := by
  simp only [saysRateLimit, List.any_cons, List.any_nil,
    asNat_lookup_blank (show "status" ≠ "content" by decide),
    asNat_lookup_blank (show "status_code" ≠ "content" by decide),
    asNat_lookup_blank (show "http_status" ≠ "content" by decide),
    asStr_lookup_blank (show "code" ≠ "content" by decide),
    asStr_lookup_blank (show "type" ≠ "content" by decide),
    asStr_lookup_blank (show "error_code" ≠ "content" by decide)]

theorem find_of_isText {v : Json} (h : isText v = true) : findStructuredRateLimit v = none := by
  cases v with
  | str s => rfl
  | null | bool b | int n | float text | arr items | obj members => cases h

mutual

/-- **Nothing is found in the content** of a message: the search looks at numbers, at
    codes and at what is nested, whatever a content says. -/
theorem find_blankContent :
    (v : Json) → findStructuredRateLimit (blankContent v) = findStructuredRateLimit v
  | .arr items => by
    rw [blankContent, findStructuredRateLimit, findStructuredRateLimit]
    exact find_blankItems items
  | .obj members => by
    rw [blankContent, findStructuredRateLimit, findStructuredRateLimit, saysRateLimit_blank,
      firstNumber_blank (by decide), find_blankMembers members]
  | .null => rfl
  | .bool _ => rfl
  | .int _ => rfl
  | .float _ => rfl
  | .str _ => rfl

theorem find_blankItems : (items : List Json) → findInItems (blankItems items) = findInItems items
  | [] => rfl
  | v :: vs => by
    rw [blankItems, findInItems, findInItems, find_blankContent v, find_blankItems vs]

theorem find_blankMembers :
    (members : List (String × Json)) → findInMembers (blankMembers members) = findInMembers members
  | [] => rfl
  | (name, v) :: ms => by
    rw [blankMembers, findInMembers, findInMembers, find_blankMembers ms]
    by_cases hcontent : name = "content" ∧ isText v = true
    · -- nothing is nested in a text
      rw [if_pos hcontent, find_of_isText hcontent.2]
      rfl
    · rw [if_neg hcontent, find_blankContent v]

end

/-! ### Messages of a provider -/

inductive Face where
  | openAi
  | anthropic
  deriving DecidableEq

section messages

variable {P : Platform} (texts : ProviderTexts P) (extract : Extractor) (d : Delivery P)
  (face : Face)

namespace Delivery

def url : String :=
  match face with
  | .openAi => d.openAiUrl
  | .anthropic => d.anthropicUrl

def body : Bytes :=
  match face with
  | .openAi => d.openAiBody
  | .anthropic => d.anthropicBody

/-- The verdict on the reply, as it comes from this face. -/
def attempt : Verdict := d.verdict texts extract (d.url face) (d.body face)

/-- What an envelope within the cap says of a rate limit, the message aside. An
    envelope of Anthropic is reshaped, and then says nothing. -/
def envelopeSignal : Option (Option Nat) :=
  match face with
  | .openAi => structuredRateLimit P d.openAiBody
  | .anthropic => none

/-- Nothing in the response asks for another attempt. -/
def Silent : Prop :=
  if isSuccess d.status then d.envelopeSignal face = none
  else d.status ≠ 429 ∧ d.Quiet texts (d.body face)

end Delivery

/-- Two deliveries of messages that differ in what the model wrote. Whatever else
    the second face says besides a message is lost. -/
structure Reworded (d d' : Delivery P) : Prop where
  family : d'.family = d.family
  contract : d'.contract = d.contract
  maxOutputBytes : d'.maxOutputBytes = d.maxOutputBytes
  status : d'.status = d.status
  retryAfter : d'.retryAfter = d.retryAfter
  message : ∃ text, d.reply = .message text
  message' : ∃ text, d'.reply = .message text
  envelope : blankContent d'.openAiValue = blankContent d.openAiValue

/-- The envelopes of the first face say the same. -/
theorem Reworded.envelopeSignal {d d' : Delivery P} (h : Reworded d d') (face : Face) :
    d'.envelopeSignal face = d.envelopeSignal face := by
  cases face with
  | anthropic => rfl
  | openAi =>
    unfold Delivery.envelopeSignal
    dsimp only
    -- through the blanked envelope that the two have in common
    rw [structuredRateLimit_of_value d'.openAiReads, structuredRateLimit_of_value d.openAiReads,
      ← find_blankContent, h.envelope, find_blankContent]

theorem Reworded.failure {d d' : Delivery P} (h : Reworded d d') :
    d'.failure texts = d.failure texts := by
  unfold Delivery.failure
  rw [h.status, h.retryAfter]

variable {texts} {extract} {d} {face}

theorem lot_attempt_over (h : d.Over (d.body face)) :
    lot (d.attempt texts extract face) = (none, .never) := by
  cases face with
  | openAi => exact Delivery.lot_openAi_over h
  | anthropic => exact Delivery.lot_anthropic_over h

/-- A lot without an output is that of its signal. -/
theorem settled_none {output : Option AdapterOutput} {signal : Option (Option Nat)}
    (h : (settled output signal).1 = none) : settled output signal = (none, classOf signal) := by
  cases output with
  | none => rfl
  | some output => cases h

/-- **A message without an output**, within the cap, in a response that is a success. -/
theorem lot_attempt_success (hmessage : ∃ text, d.reply = .message text)
    (hsuccess : isSuccess d.status = true) (h : ¬ d.Over (d.body face))
    (hrefused : (lot (d.attempt texts extract face)).1 = none) :
    lot (d.attempt texts extract face) = (none, classOf (d.envelopeSignal face)) := by
  cases face with
  | openAi =>
    have hlot : lot (d.attempt texts extract .openAi)
        = settled (d.output extract) (structuredRateLimit P d.openAiBody) :=
      Delivery.lot_openAi hsuccess h
    rw [hlot] at hrefused ⊢
    exact settled_none hrefused
  | anthropic =>
    obtain ⟨text, hreply⟩ := hmessage
    have hlot : lot (d.attempt texts extract .anthropic)
        = settled (if messageBytes text (finishReason d.anthropicValue) ≤ d.maxOutputBytes then
            d.output extract else none) none :=
      Delivery.lot_anthropic_message hreply hsuccess h
    rw [hlot] at hrefused ⊢
    exact settled_none hrefused

/-- Such a message is refused for good where the response is silent. -/
theorem silent_iff (hmessage : ∃ text, d.reply = .message text) (h : ¬ d.Over (d.body face))
    (hrefused : (lot (d.attempt texts extract face)).1 = none) :
    lot (d.attempt texts extract face) = (none, .never) ↔ d.Silent texts face := by
  unfold Delivery.Silent
  cases hsuccess : isSuccess d.status with
  | true =>
    rw [lot_attempt_success hmessage hsuccess h hrefused, if_pos rfl]
    cases d.envelopeSignal face <;> simp [classOf]
  | false =>
    rw [if_neg Bool.false_ne_true]
    exact refused_failed hsuccess h

/-! #### Two messages -/

variable (texts face)

/-- What the model wrote is not heard in either of the deliveries. -/
structure MessagesUnheard (d d' : Delivery P) : Prop where
  within : ¬ d.Over (d.body face) → ¬ d'.Over (d'.body face) → isSuccess d.status = false →
    d.status = 429 ∨ d.Alike texts (d.body face) (d'.body face)
  secondOver : ¬ d.Over (d.body face) → d'.Over (d'.body face) → d.Silent texts face
  firstOver : d.Over (d.body face) → ¬ d'.Over (d'.body face) → d'.Silent texts face

variable {texts face} {d' : Delivery P}

/-- Two messages within the cap. -/
theorem lot_within_iff (h : Reworded d d') (ho : ¬ d.Over (d.body face))
    (ho' : ¬ d'.Over (d'.body face))
    (hrefused : (lot (d.attempt texts extract face)).1 = none)
    (hrefused' : (lot (d'.attempt texts extract face)).1 = none) :
    lot (d.attempt texts extract face) = lot (d'.attempt texts extract face)
      ↔ (isSuccess d.status = false →
        d.status = 429 ∨ d.Alike texts (d.body face) (d'.body face)) := by
  cases hsuccess : isSuccess d.status with
  | true =>
    have hsuccess' : isSuccess d'.status = true := h.status ▸ hsuccess
    rw [lot_attempt_success h.message hsuccess ho hrefused,
      lot_attempt_success h.message' hsuccess' ho' hrefused', h.envelopeSignal]
    simp
  | false =>
    have hsuccess' : isSuccess d'.status = false := h.status ▸ hsuccess
    unfold Delivery.attempt
    by_cases hstatus : d.status = 429
    · -- the header alone says how long to wait
      have hstatus' : d'.status = 429 := h.status.trans hstatus
      rw [Delivery.lot_tooMany hstatus ho, Delivery.lot_tooMany hstatus' ho', h.retryAfter]
      simp [hstatus]
    · have hstatus' : d'.status ≠ 429 := h.status ▸ hstatus
      rw [Delivery.lot_failed hsuccess hstatus ho, Delivery.lot_failed hsuccess' hstatus' ho',
        h.failure, ← alike_iff]
      simp [hstatus]

theorem lot_messages_iff (h : Reworded d d')
    (hrefused : (lot (d.attempt texts extract face)).1 = none)
    (hrefused' : (lot (d'.attempt texts extract face)).1 = none) :
    lot (d.attempt texts extract face) = lot (d'.attempt texts extract face)
      ↔ MessagesUnheard texts face d d' := by
  constructor
  · intro hsame
    refine ⟨fun ho ho' => (lot_within_iff h ho ho' hrefused hrefused').mp hsame,
      fun ho ho' => ?_, fun ho ho' => ?_⟩
    · exact (silent_iff h.message ho hrefused).mp (hsame.trans (lot_attempt_over ho'))
    · exact (silent_iff h.message' ho' hrefused').mp (hsame.symm.trans (lot_attempt_over ho))
  · intro hkept
    -- by which of the bodies are too long
    by_cases ho : d.Over (d.body face)
    · rw [lot_attempt_over ho]
      by_cases ho' : d'.Over (d'.body face)
      · exact (lot_attempt_over ho').symm
      · exact ((silent_iff h.message' ho' hrefused').mpr (hkept.firstOver ho ho')).symm
    · by_cases ho' : d'.Over (d'.body face)
      · rw [lot_attempt_over ho']
        exact (silent_iff h.message ho hrefused).mpr (hkept.secondOver ho ho')
      · exact (lot_within_iff h ho ho' hrefused hrefused').mpr (hkept.within ho ho')

end messages

/-! ### Refusals of a seat -/

/-- `validate`, given what the package `jsonschema` says of a value. -/
def validateContract (errors : Json → List String) (schemaName seatRole : String)
    (value : Json) : Except String Unit :=
  -- each of the messages may quote the value
  let messages := (errors value).take 5
  if messages.isEmpty then .ok ()
  else .error (schemaName ++ " contract violated by seat '" ++ seatRole ++ "': "
    ++ "; ".intercalate messages)

/-- What `GetTask` answers. -/
def getTaskReply (now : String) (reply : Pi.TaskReply) : Json :=
  .obj [
    ("id", .int 2),
    ("jsonrpc", .str "2.0"),
    ("result", .obj [
      ("artifacts", .arr (reply.artifacts.map fun artifact => .obj [
        ("name", .str "result.json"),
        ("parts", .arr [.obj [("data", artifact), ("mediaType", .str "application/json")]])])),
      ("error", match reply.error with
        | some error => .str error
        | none => .null),
      ("id", .str reply.id),
      ("status", .obj [("state", .str reply.state), ("timestamp", .str now)])])]

/-- What `SendMessage` answers. -/
def sendMessageReply (taskId : String) : Json :=
  .obj [
    ("id", .int 1),
    ("jsonrpc", .str "2.0"),
    ("result", .obj [("id", .str taskId), ("status", .obj [("state", .str "working")])])]

/-- The error of a call whose task failed. -/
def seatFailure (taskId error : String) : String :=
  "a2a seat task " ++ taskId ++ " failed: " ++ error

/-- What `execute_a2a_call_signaled` makes of an error. -/
def transportFailure (error : String) : Run.ChatCompletionsOutcome where
  stdout := []
  stderr := "a2a seat transport failed: " ++ error
  exitCode := some 1
  timedOut := false
  outputLimitExceeded := false

/-- The outcome of a call to a seat, in bytes. -/
def ofSeat (outcome : Run.ChatCompletionsOutcome) : ChatCompletionsOutcome where
  stdout := utf8 outcome.stdout
  stderr := outcome.stderr.toList
  exitCode := outcome.exitCode.map Int.ofNat
  timedOut := outcome.timedOut
  outputLimitExceeded := outcome.outputLimitExceeded

section call

variable {limit : Nat} {me : Run.Thread} {call : Run.A2aCall} {maxOutputBytes : Nat}
  {s : Run.Seats}

/-- The round that asks for a task that failed ends the loop with the recorded error. -/
theorem pollOnce_failed (worker : Pi.Worker) (error now : String) (late : Bool)
    (wait : Bool → Run.Call Run.ChatCompletionsOutcome) :
    Prog.move ⟨.ok (getTaskReply now (Pi.finishedRecord worker (.error error)).reply), late⟩
        (Run.pollOnce maxOutputBytes worker.taskId wait) s
      = some (Prog.throw (seatFailure worker.taskId error), s) := by
  have hstate : Run.classifySeatState "failed" = some .failed := by decide +kernel
  simp [Run.pollOnce, Prog.move, getTaskReply, Pi.finishedRecord, Pi.TaskRecord.reply,
    Pi.TaskState.asStr, seatFailure, Prog.ofExcept, Prog.ensure, Prog.answer, List.lookup,
    Json.asStr, hstate]

/-- A call that sends its message and then asks for the task. -/
theorem executeA2aCallInner_failed (worker : Pi.Worker) (error now : String) (late : Bool) :
    Prog.Reaches (fun _ => True) (Run.executeA2aCallInner me call maxOutputBytes) s
      (Prog.throw (seatFailure worker.taskId error)) (s.send me) := by
  have hsent : Prog.exec [⟨.ok (sendMessageReply worker.taskId), late⟩,
        ⟨.ok (sendMessageReply worker.taskId), late⟩]
        (Run.executeA2aCallInner me call maxOutputBytes) s
      = some (Run.pollTask call maxOutputBytes worker.taskId (max 1 call.timeoutSeconds / 2 + 1),
          s.send me) := by
    simp [Run.executeA2aCallInner, Prog.exec, Prog.move, sendMessageReply, Prog.ofExcept,
      Prog.ensure, Prog.answer, Prog.modify, List.lookup, Json.asStr]
  have hpoll : Prog.Moves (fun _ => True)
      (Run.pollTask call maxOutputBytes worker.taskId (max 1 call.timeoutSeconds / 2 + 1))
      (s.send me) (Prog.throw (seatFailure worker.taskId error)) (s.send me) :=
    Prog.moves_of_move (pollOnce_failed worker error now late _)
  exact (Prog.reaches_of_exec hsent).trans (.step hpoll .refl)

/-- **The error of a task that failed** is the error text of the attempt. -/
theorem executeA2aCall_failed (worker : Pi.Worker) (error : String)
    (hslot : s.holders.length < limit) :
    ∃ s', Prog.Reaches (fun _ => True) (Run.executeA2aCall limit me call maxOutputBytes) s
      (Prog.pure (transportFailure (seatFailure worker.taskId error))) s' := by
  have hinner : Prog.Reaches (fun _ => True) (Run.executeA2aCallInner me call maxOutputBytes)
      (s.acquire me) (Prog.throw (seatFailure worker.taskId error)) ((s.acquire me).send me) :=
    executeA2aCallInner_failed worker error "" false
  -- the slot is taken, the call fails, and the slot is given back
  exact ⟨_, .step (.act (decide_eq_true hslot))
    (((hinner.attempt.bind _).attempt.bind _).trans (.step (.act rfl) .refl))⟩

end call

/-- `evaluate_attempt_output`, of a call to a seat, given how a direct JSON output is
    parsed: the outputs of `a2a` are none that are retried as unusable. -/
def evaluateSeatOutput (P : Platform)
    (parse : OutputContract → Bytes → Nat → Except String AdapterOutput)
    (contract : OutputContract) (outcome : ChatCompletionsOutcome) (cancelled : Bool)
    (maxOutputBytes : Nat) : Verdict :=
  if cancelled then (none, some "cancelled", .never)
  else if outcome.outputLimitExceeded then
    (none, some ("adapter output exceeds policy limit of " ++ toString maxOutputBytes ++ " bytes"),
      .never)
  else if outcome.timedOut then
    match parse contract outcome.stdout maxOutputBytes with
    | .ok output => (some output, none, .never)
    | .error _ => (none, some "timeout", .transientTimeout)
  else if outcome.exitCode ≠ some 0 then
    -- the whole error text is searched, what the seat quoted included
    match classifyRateLimit P "a2a" outcome.stdout outcome.stderr with
    | some signal => rateLimited signal
    | none => (none, some ("adapter exited " ++ printExitCode outcome.exitCode),
        if seatTaskFailed outcome.stderr then .transientAdapter else .never)
  else match parse contract outcome.stdout maxOutputBytes with
    | .ok output => (some output, none, .never)
    | .error error => (none, some error, .never)

/-- The error text of an attempt at a seat whose task failed. -/
def seatStderr (taskId error : String) : Text :=
  (transportFailure (seatFailure taskId error)).stderr.toList

section seats

variable {P : Platform}
  (parse : OutputContract → Bytes → Nat → Except String AdapterOutput)
  (contract : OutputContract) (maxOutputBytes : Nat) (taskId error : String)

theorem occurs_append (pattern : String) (before after : Text) :
    occurs pattern (before ++ (pattern.toList ++ after)) = true := by
  refine List.any_eq_true.mpr ⟨pattern.toList ++ after, ?_, ?_⟩
  · exact (List.mem_tails _ _).mpr (List.suffix_append _ _)
  · exact List.isPrefixOf_iff_prefix.mpr (List.prefix_append _ _)

theorem seatTaskFailed_seatStderr : seatTaskFailed (seatStderr taskId error) = true := by
  have hmark : "a2a seat task ".toList = "a2a seat task".toList ++ [' '] := by decide
  rw [seatTaskFailed, seatStderr, transportFailure, seatFailure, String.toList_append,
    String.toList_append, String.toList_append, String.toList_append, hmark, List.append_assoc,
    List.append_assoc, List.append_assoc]
  exact occurs_append ..

/-- **What becomes of a refusal**, by the markers in its error text. -/
theorem lot_seat (texts : ProviderTexts P) :
    lot (evaluateSeatOutput P parse contract (ofSeat (transportFailure (seatFailure taskId error)))
      false maxOutputBytes) = (none, textClass (seatStderr taskId error)) := by
  have hknown : ["deepseek", "qwen", "a2a"].contains "a2a" = true := by decide
  have hexit : (some 1 : Option Int) ≠ some 0 := by decide
  have houtcome : ofSeat (transportFailure (seatFailure taskId error))
      = ⟨[], seatStderr taskId error, some 1, false, false⟩ := rfl
  rw [houtcome, evaluateSeatOutput, if_neg Bool.false_ne_true, if_neg Bool.false_ne_true,
    if_neg Bool.false_ne_true, if_pos hexit, classifyRateLimit, if_pos hknown,
    structuredRateLimit_nil texts, textClass]
  cases marksRateLimit (seatStderr taskId error) <;> rfl

end seats

/-- Two replies of a model that a seat refuses, and the errors it records. -/
structure SeatRefusals (P : Platform) (errors : Json → List String) where
  worker : Pi.Worker
  schemaName : String
  seatRole : String
  contract : OutputContract
  maxOutputBytes : Nat
  content : String
  content' : String
  error : String
  error' : String
  refused : Pi.extractArtifact (valueOfText P) (validateContract errors schemaName seatRole)
    schemaName content = .error error
  refused' : Pi.extractArtifact (valueOfText P) (validateContract errors schemaName seatRole)
    schemaName content' = .error error'

/-- What the seat quotes of the replies is not heard in either of the error texts. -/
structure RefusalsUnheard {P : Platform} {errors : Json → List String}
    (r : SeatRefusals P errors) : Prop where
  marks : marksRateLimit (seatStderr r.worker.taskId r.error)
    = marksRateLimit (seatStderr r.worker.taskId r.error')
  retryAfter : marksRateLimit (seatStderr r.worker.taskId r.error) = true →
    parseRetryAfter (seatStderr r.worker.taskId r.error)
      = parseRetryAfter (seatStderr r.worker.taskId r.error')

theorem textClass_refusals_iff {P : Platform} {errors : Json → List String}
    (r : SeatRefusals P errors) :
    textClass (seatStderr r.worker.taskId r.error) = textClass (seatStderr r.worker.taskId r.error')
      ↔ RefusalsUnheard r := by
  rw [textClass_eq_iff]
  constructor
  · rintro ⟨hmarks, hretry, -⟩
    exact ⟨hmarks, hretry⟩
  · intro h
    -- both texts name the failed task of a seat
    refine ⟨h.marks, h.retryAfter, fun _ => ?_⟩
    rw [seatTaskFailed_seatStderr, seatTaskFailed_seatStderr]

/-! ### Two texts of a model -/

theorem lot_snd (v : Verdict) : (lot v).2 = v.2.2 := rfl

/-- Two attempts that differ in what the model wrote, neither with an output. -/
inductive Attempts {P : Platform} (texts : ProviderTexts P) (extract : Extractor)
    (errors : Json → List String) where
  | messages (face : Face) (d d' : Delivery P) (reworded : Reworded d d')
      (refused : (d.attempt texts extract face).1 = none)
      (refused' : (d'.attempt texts extract face).1 = none)
  | refusals (r : SeatRefusals P errors)

namespace Attempts

variable {P : Platform} {texts : ProviderTexts P} {extract : Extractor}
  {errors : Json → List String}
  (parse : OutputContract → Bytes → Nat → Except String AdapterOutput)

/-- The verdict on the first attempt. -/
def first : Attempts texts extract errors → Verdict
  | .messages face d _ _ _ _ => d.attempt texts extract face
  | .refusals r => evaluateSeatOutput P parse r.contract
      (ofSeat (transportFailure (seatFailure r.worker.taskId r.error))) false r.maxOutputBytes

/-- The verdict on the second attempt. -/
def second : Attempts texts extract errors → Verdict
  | .messages face _ d' _ _ _ => d'.attempt texts extract face
  | .refusals r => evaluateSeatOutput P parse r.contract
      (ofSeat (transportFailure (seatFailure r.worker.taskId r.error'))) false r.maxOutputBytes

/-- What the model wrote is not heard in either attempt. -/
def Unheard : Attempts texts extract errors → Prop
  | .messages face d d' _ _ _ => MessagesUnheard texts face d d'
  | .refusals r => RefusalsUnheard r

theorem first_refusals (r : SeatRefusals P errors) :
    ((refusals r : Attempts texts extract errors).first parse).2.2
      = textClass (seatStderr r.worker.taskId r.error) := by
  rw [first, ← lot_snd, lot_seat parse r.contract r.maxOutputBytes _ _ texts]

theorem second_refusals (r : SeatRefusals P errors) :
    ((refusals r : Attempts texts extract errors).second parse).2.2
      = textClass (seatStderr r.worker.taskId r.error') := by
  rw [second, ← lot_snd, lot_seat parse r.contract r.maxOutputBytes _ _ texts]

end Attempts

/-- **When the text of a model leaves the retry class alone.** -/
theorem retryClass_iff {P : Platform} {texts : ProviderTexts P} {extract : Extractor}
    {errors : Json → List String}
    (parse : OutputContract → Bytes → Nat → Except String AdapterOutput)
    (a : Attempts texts extract errors) :
    (a.first parse).2.2 = (a.second parse).2.2 ↔ a.Unheard := by
  -- neither has an output, so their lots differ in the class
  have hlots {v v' : Verdict} (h : v.1 = none) (h' : v'.1 = none) :
      v.2.2 = v'.2.2 ↔ lot v = lot v' := by
    constructor
    · intro hclass
      rw [lot, lot, h, h', hclass]
    · intro hlot
      rw [← lot_snd v, hlot, lot_snd]
  cases a with
  | messages face d d' reworded refused refused' =>
    exact (hlots refused refused').trans (lot_messages_iff reworded refused refused')
  | refusals r =>
    rw [Attempts.first_refusals, Attempts.second_refusals]
    exact textClass_refusals_iff r

/-! #### A refusal that is heard -/

/-- What is said of a value that is no object. -/
def typeErrors (v : Json) : List String :=
  if v.isObject then []
  else [String.ofList (Json.write Json.compact 0 v) ++ " is not of type \"object\""]

theorem loud_refused : Pi.extractArtifact (valueOfText Platform.verbatim)
    (validateContract typeErrors "lane-output.schema.json" "skeptic") "lane-output.schema.json"
      "\"rate limit\""
    = .error ("lane-output.schema.json contract violated by seat 'skeptic': "
        ++ "\"rate limit\" is not of type \"object\"") := by
  decide +kernel

theorem quiet_refused : Pi.extractArtifact (valueOfText Platform.verbatim)
    (validateContract typeErrors "lane-output.schema.json" "skeptic") "lane-output.schema.json"
      "\"no comment\""
    = .error ("lane-output.schema.json contract violated by seat 'skeptic': "
        ++ "\"no comment\" is not of type \"object\"") := by
  decide +kernel

/-- A model that replies with a text, and with another one. -/
def loudRefusals : SeatRefusals Platform.verbatim typeErrors where
  worker := { taskId := "task-1", createdAt := "" }
  schemaName := "lane-output.schema.json"
  seatRole := "skeptic"
  contract := .lane
  maxOutputBytes := 1024
  content := "\"rate limit\""
  content' := "\"no comment\""
  error := "lane-output.schema.json contract violated by seat 'skeptic': "
    ++ "\"rate limit\" is not of type \"object\""
  error' := "lane-output.schema.json contract violated by seat 'skeptic': "
    ++ "\"no comment\" is not of type \"object\""
  refused := loud_refused
  refused' := quiet_refused

/-- The attempts, where no text holds an output. -/
def loudAttempts : Attempts longTexts (fun _ _ => .error "no output") typeErrors :=
  .refusals loudRefusals

/-- The quoted words make the attempt one that a provider has limited. -/
theorem wording_heard :
    (∃ signal, (loudAttempts.first fun _ _ _ => .error "no output").2.2 = .rateLimited signal)
    ∧ (loudAttempts.second fun _ _ _ => .error "no output").2.2 = .transientAdapter
    ∧ ¬ ∀ a : Attempts longTexts (fun _ _ => .error "no output") typeErrors,
        (a.first fun _ _ _ => .error "no output").2.2
          = (a.second fun _ _ _ => .error "no output").2.2 := by
  have hloud : marksRateLimit (seatStderr loudRefusals.worker.taskId loudRefusals.error)
      = true := by decide +kernel
  have hquiet : textClass (seatStderr loudRefusals.worker.taskId loudRefusals.error')
      = .transientAdapter := by decide +kernel
  have hfirst : ∃ signal,
      (loudAttempts.first fun _ _ _ => .error "no output").2.2 = .rateLimited signal := by
    rw [loudAttempts, Attempts.first_refusals, textClass, if_pos hloud]
    exact ⟨_, rfl⟩
  have hsecond : (loudAttempts.second fun _ _ _ => .error "no output").2.2 = .transientAdapter := by
    rw [loudAttempts, Attempts.second_refusals, hquiet]
  refine ⟨hfirst, hsecond, fun h => ?_⟩
  obtain ⟨signal, hsignal⟩ := hfirst
  have hsame := h loudAttempts
  rw [hsignal, hsecond] at hsame
  cases hsame

end Quinte.Adapter
