import Mathlib
import Quinte.Adapter.Payload
import Quinte.Finance.Digests
import Quinte.Framework.JsonShape
import Quinte.Model.RunDir
import Quinte.Run.SeatCalls
import Quinte.Run.Snapshot

/-! # The two faces of a provider

    A provider answers on the chat-completions face of OpenAI or on the Messages
    face of Anthropic.  `execute_chat_completions` brings the second into the shape
    of the first, and `evaluate_attempt_output` judges what comes out.

    * `find_errorEnvelope`, `find_messageEnvelope`: what the classifier finds in a
      value that was reshaped;
    * `lot_openAi`, `lot_anthropic_message`, `lot_anthropic_failure`: what becomes of a
      reply on either face;
    * `faces_agree_iff`: when that is the same.
-/

namespace Quinte.Adapter

open Finance (Bytes Platform utf8 fromUtf8 fromUtf8_utf8)
open Json (Text lastMembers lastMembers_of_unique)
open Run (parseUsize)

/-! ### Values -/

/-- `serde_json::from_str::<Value>`. -/
def valueOfText (P : Platform) (text : Text) : Option Json :=
  (P.json.read text).map fun v => (lastMembers v).sorted

/-- `serde_json::from_slice::<Value>`. -/
def valueOfBytes (P : Platform) (bytes : Bytes) : Option Json :=
  (fromUtf8 bytes).bind (valueOfText P)

/-- `serde_json::to_vec` of a value. -/
def toVec (v : Json) : Bytes := utf8 (Json.write Json.compact 0 v)

/-! ### Rate limits -/

/-- The number of a member, if one of these names has one. -/
def firstNumber (names : List String) (members : List (String × Json)) : Option Nat :=
  names.findSome? fun name => (members.lookup name).bind Json.asNat

/-- The `code`s that `find_structured_rate_limit` matches. -/
def rateLimitCodes : List String :=
  ["rate_limit_error", "rate_limited", "too_many_requests", "resource_exhausted",
    "overloaded_error"]

/-- An object that says itself that it is about a rate limit. -/
def saysRateLimit (members : List (String × Json)) : Bool :=
  (["status", "status_code", "http_status"].any fun name =>
    (members.lookup name).bind Json.asNat = some 429)
  || (["code", "type", "error_code"].any fun name =>
    ((members.lookup name).bind Json.asStr).any rateLimitCodes.contains)

mutual

/-- `find_structured_rate_limit`. -/
def findStructuredRateLimit : Json → Option (Option Nat)
  | .arr items => findInItems items
  | .obj members =>
      if saysRateLimit members then
        some (firstNumber ["retry_after", "retry_after_seconds"] members)
      else findInMembers members
  | .null => none
  | .bool _ => none
  | .int _ => none
  | .float _ => none
  | .str _ => none

def findInItems : List Json → Option (Option Nat)
  | [] => none
  | v :: vs => (findStructuredRateLimit v).or (findInItems vs)

def findInMembers : List (String × Json) → Option (Option Nat)
  | [] => none
  | (_, v) :: ms => (findStructuredRateLimit v).or (findInMembers ms)

end

/-- The lines of a text that was split at its line feeds. -/
def linesOfPieces : List Text → List Text
  | [] => []
  | [last] => if last = [] then [] else [last]
  | piece :: pieces =>
      (if piece.getLast? = some '\r' then piece.dropLast else piece) :: linesOfPieces pieces

/-- `str::lines`. -/
def textLines (text : Text) : List Text := linesOfPieces (text.splitOn '\n')

/-- `structured_rate_limit`. -/
def structuredRateLimit (P : Platform) (stdout : Bytes) : Option (Option Nat) :=
  (fromUtf8 stdout).bind fun text =>
    (match valueOfText P text with
      | some v => [v]
      | none => (textLines text).filterMap (valueOfText P)).findSome? findStructuredRateLimit

/-- What `parse_retry_after` makes of a line. -/
def retryAfterOfLine (line : Text) : Option Nat :=
  let trimmed := (trim (String.ofList line)).toList
  match trimmed.dropWhile (· ≠ ':') with
  | [] => none
  | _ :: value =>
      if (trimmed.takeWhile (· ≠ ':')).map Char.toLower = "retry-after".toList then
        parseUsize (trim (String.ofList value))
      else none

/-- `parse_retry_after`. -/
def parseRetryAfter (stderr : Text) : Option Nat := (textLines stderr).findSome? retryAfterOfLine

/-- The markers of `classify_rate_limit`. -/
def rateLimitMarkers : List String :=
  ["http 429", "http/1.1 429", "http/2 429", "status=429", "status_code=429", "status code: 429",
    "too many requests", "provider returned 429", "rate limit", "速率限制"]

/-- A text that speaks of a rate limit. -/
def marksRateLimit (stderr : Text) : Bool :=
  rateLimitMarkers.any fun marker => occurs marker (stderr.map Char.toLower)

/-- `classify_rate_limit`. -/
def classifyRateLimit (P : Platform) (adapter : String) (stdout : Bytes) (stderr : Text) :
    Option RateLimitSignal :=
  if ["deepseek", "qwen", "a2a"].contains adapter then
    match structuredRateLimit P stdout with
    | some retryAfterSeconds => some ⟨"adapter_structured_error", retryAfterSeconds⟩
    | none =>
        if marksRateLimit stderr then some ⟨"adapter_stderr_marker", parseRetryAfter stderr⟩
        else none
  else none

/-! ### The call -/

/-- What the server sends back. The body may be longer than what is read of it. -/
structure HttpResponse where
  status : Nat
  retryAfter : Option Bytes
  body : Bytes

/-- The error text of a call that fails. -/
def transportFailed (error : Text) : Text := "provider adapter transport failed: ".toList ++ error

/-- The mark of a seat's failure in an error text. -/
def seatTaskFailed (stderr : Text) : Bool := occurs "a2a seat task" stderr

/-- What is used of the packages `http` and `serde_json`: what a status is printed
    as, and the error of a body that is no JSON text, with its context. Such an error
    is about syntax: it speaks neither of a rate limit nor of a seat. The empty text is
    no JSON text. -/
structure ProviderTexts (P : Platform) where
  status : Nat → Text
  unread : Bytes → Text
  empty : P.json.read [] = none
  syntactic : ∀ body, marksRateLimit (transportFailed (unread body)) = false
    ∧ seatTaskFailed (transportFailed (unread body)) = false

/-- `MAX_ADAPTER_OUTPUT_BYTES`. -/
def maxAdapterOutputBytes : Nat := 16 * 1024 * 1024

/-- `is_anthropic_endpoint`. -/
def isAnthropicEndpoint (baseUrl : String) : Bool :=
  let trimmed := (baseUrl.toList.reverse.dropWhile (· = '/')).reverse
  "/anthropic".toList.isSuffixOf trimmed || "/anthropic/v1".toList.isSuffixOf trimmed

/-- The texts of the blocks of type `text`, one after the other. -/
def blocksText (blocks : List Json) : String :=
  String.join (blocks.filterMap fun block =>
    if (block.get "type").bind Json.asStr = some "text" then (block.get "text").bind Json.asStr
    else none)

/-- `pointer("/error/…")` and `as_str`. -/
def errorText (envelope : Json) (name : String) : Option String :=
  ((envelope.get "error").bind (·.get name)).bind Json.asStr

/-- The envelope of an error, as `anthropic_envelope_to_openai` writes it. -/
def errorEnvelope (errorType message : String) : Json :=
  .obj [("error", .obj [("message", .str message), ("type", .str errorType)])]

/-- The envelope of a message, as `anthropic_envelope_to_openai` writes it. -/
def messageEnvelope (text finishReason : String) : Json :=
  .obj [("choices", .arr [.obj [
    ("finish_reason", .str finishReason),
    ("index", .int 0),
    ("message", .obj [("content", .str text), ("role", .str "assistant")])]])]

def finishReason (envelope : Json) : String :=
  if (envelope.get "stop_reason").bind Json.asStr = some "max_tokens" then "length" else "stop"

/-- The value that `anthropic_envelope_to_openai` writes for a value that was read. -/
def reshaped (envelope : Json) : Json :=
  if (envelope.get "error").isSome then
    errorEnvelope ((errorText envelope "type").getD "api_error")
      ((errorText envelope "message").getD "unspecified provider error")
  else
    messageEnvelope (blocksText (((envelope.get "content").bind Json.asArr).getD []))
      (finishReason envelope)

structure ChatCompletionsOutcome where
  stdout : Bytes
  stderr : Text
  exitCode : Option Int
  timedOut : Bool
  outputLimitExceeded : Bool
  deriving DecidableEq

section code

variable {P : Platform} (texts : ProviderTexts P)

/-- `anthropic_envelope_to_openai`. -/
def anthropicEnvelopeToOpenai (body : Bytes) : Except Text Bytes :=
  match valueOfBytes P body with
  | none => .error (texts.unread body)
  | some envelope => .ok (toVec (reshaped envelope))

/-- `HeaderValue::to_str`, and the number in it. -/
def retryAfterSeconds (header : Bytes) : Option Nat :=
  if header.all fun b => b = 9 || (32 ≤ b && b < 127) then
    (fromUtf8 header).bind fun text => parseUsize (trim (String.ofList text))
  else none

/-- The beginning of a body, in an error text. -/
def snippet (body : Bytes) : Text :=
  match fromUtf8 body with
  | some text =>
      if trim (String.ofList (text.take 512)) = "" then [] else '\n' :: text.take 512
  | none => []

/-- The error text of a response that is no success. -/
def failureText (status : Nat) (retryAfter : Option Nat) (body : Bytes) : Text :=
  "provider adapter HTTP ".toList ++ texts.status status
    ++ (match retryAfter with
      | some seconds => "\nRetry-After: ".toList ++ (toString seconds).toList
      | none => [])
    ++ snippet body

/-- The error that stands for the body of a response with the status 429. -/
def rateLimitEnvelope (retryAfter : Option Nat) (body : Bytes) : Json :=
  .obj [("error", .obj (
    (match retryAfter with
      | some seconds => [("retry_after", Json.int seconds)]
      | none => [])
    ++ [("type", .str "rate_limit_error"),
      ("upstream_body", .str (String.ofList ((Snapshot.toStringLossy body).toList.take 512)))]))]

/-- `StatusCode::is_success`. -/
def isSuccess (status : Nat) : Bool := 200 ≤ status && status < 300

/-- `execute_chat_completions_inner`, from the response on. -/
def executeChatCompletionsInner (baseUrl : String) (maxOutputBytes : Nat)
    (response : HttpResponse) : Except Text ChatCompletionsOutcome := do
  let retryAfter := response.retryAfter.bind retryAfterSeconds
  let cap := min maxOutputBytes maxAdapterOutputBytes
  let body := response.body.take (cap + 1)
  let outputLimitExceeded := decide (cap < body.length)
  if isSuccess response.status then
    let stdout ← if isAnthropicEndpoint baseUrl then anthropicEnvelopeToOpenai texts body
      else .ok body
    return ⟨stdout, [], some 0, false, outputLimitExceeded⟩
  else
    let stdout := if response.status = 429 then toVec (rateLimitEnvelope retryAfter body) else body
    return ⟨stdout, failureText texts response.status retryAfter body, some 1, false,
      outputLimitExceeded⟩

/-- `execute_chat_completions`, of a call that a response comes back of. -/
def executeChatCompletions (baseUrl : String) (maxOutputBytes : Nat) (response : HttpResponse) :
    ChatCompletionsOutcome :=
  match executeChatCompletionsInner texts baseUrl maxOutputBytes response with
  | .ok outcome => outcome
  | .error error => ⟨[], transportFailed error, some 1, false, false⟩

end code

/-! ### The verdict -/

inductive OutputContract where
  | lane
  | arbiter
  deriving DecidableEq

/-- The content of the first choice. -/
def choiceContent (envelope : Json) : Option String :=
  (((((envelope.get "choices").bind Json.asArr).bind List.head?).bind (·.get "message")).bind
    (·.get "content")).bind Json.asStr

/-- `chat_completion_content`, of a value. -/
def contentOf (envelope : Json) : Except String String :=
  match envelope.get "error" with
  | some error => .error ("chat completion response carries an error: "
      ++ ((error.get "message").bind Json.asStr).getD "unspecified provider error")
  | none => match choiceContent envelope with
    | some content => .ok content
    | none => .error "chat completion response has no choices[0].message.content"

section code

variable (P : Platform)

/-- `chat_completion_content`. -/
def chatCompletionContent (stdout : Bytes) : Except String String :=
  match valueOfBytes P stdout with
  | none => .error "invalid chat completion response JSON"
  | some envelope => contentOf envelope

/-- `extract_json_from_text` or `extract_typed_from_text`, by the contract. -/
abbrev Extractor := OutputContract → String → Except String AdapterOutput

variable (extract : Extractor)

/-- `parse_typed_output_with_limit`, of chat completions. -/
def parseTypedOutputWithLimit (contract : OutputContract) (stdout : Bytes)
    (maxOutputBytes : Nat) : Except String AdapterOutput :=
  if maxAdapterOutputBytes < maxOutputBytes then
    .error ("policy output limit exceeds adapter hard limit of "
      ++ toString maxAdapterOutputBytes ++ " bytes")
  else if maxOutputBytes < stdout.length then
    .error ("adapter output exceeds policy limit of " ++ toString maxOutputBytes ++ " bytes")
  else if maxAdapterOutputBytes < stdout.length then
    .error "adapter output exceeds hard 16 MiB limit"
  else do extract contract (← chatCompletionContent P stdout)

/-- What `evaluate_attempt_output` returns: the output, the error and the class. -/
abbrev Verdict := Option AdapterOutput × Option String × RetryClass

def rateLimited (signal : RateLimitSignal) : Verdict :=
  (none, some ("adapter transport was rate limited (" ++ signal.source ++ ")"),
    .rateLimited signal)

/-- `{:?}` of an exit code. -/
def printExitCode : Option Int → String
  | some code => "Some(" ++ toString code ++ ")"
  | none => "None"

/-- `evaluate_attempt_output`, of chat completions: the adapters that make them are
    not those whose outputs are retried as unusable. -/
def evaluateAttemptOutput (adapter : String) (contract : OutputContract)
    (outcome : ChatCompletionsOutcome) (cancelled : Bool) (maxOutputBytes : Nat) : Verdict :=
  if cancelled then (none, some "cancelled", .never)
  else if outcome.outputLimitExceeded then
    (none, some ("adapter output exceeds policy limit of " ++ toString maxOutputBytes ++ " bytes"),
      .never)
  else if outcome.timedOut then
    match parseTypedOutputWithLimit P extract contract outcome.stdout maxOutputBytes with
    | .ok output => (some output, none, .never)
    | .error _ => (none, some "timeout", .transientTimeout)
  else if outcome.exitCode ≠ some 0 then
    match classifyRateLimit P adapter outcome.stdout outcome.stderr with
    | some signal => rateLimited signal
    | none => (none, some ("adapter exited " ++ printExitCode outcome.exitCode),
        if seatTaskFailed outcome.stderr then .transientAdapter else .never)
  else match parseTypedOutputWithLimit P extract contract outcome.stdout maxOutputBytes with
    | .ok output => (some output, none, .never)
    | .error error => match classifyRateLimit P adapter outcome.stdout outcome.stderr with
      | some signal => rateLimited signal
      | none => (none, some error, .never)

end code

/-! ### What is read of what was written -/

section written

variable {P : Platform}

/-- A value whose members are in order, without a name twice, is what is read of its text. -/
theorem valueOfText_write {v : Json} (hregular : Json.Regular 100 v) (hunique : v.unique = true)
    (hsorted : v.sorted = v) : valueOfText P (Json.write Json.compact 0 v) = some v := by
  have hread := P.json.read_write Json.compact v [] (hregular.mono P.deep) (by simp)
  rw [List.append_nil] at hread
  rw [valueOfText, hread, Option.map_some, lastMembers_of_unique hunique, hsorted]

theorem valueOfBytes_toVec {v : Json} (hregular : Json.Regular 100 v) (hunique : v.unique = true)
    (hsorted : v.sorted = v) : valueOfBytes P (toVec v) = some v := by
  rw [valueOfBytes, toVec, fromUtf8_utf8, Option.bind_some,
    valueOfText_write hregular hunique hsorted]

/-- Of a text that is a JSON text as a whole, the classifier looks at its value. -/
theorem structuredRateLimit_of_value {bytes : Bytes} {v : Json}
    (hread : valueOfBytes P bytes = some v) :
    structuredRateLimit P bytes = findStructuredRateLimit v := by
  obtain ⟨text, htext, hvalue⟩ := Option.bind_eq_some_iff.mp hread
  rw [structuredRateLimit, htext, Option.bind_some, hvalue]
  simp only [List.findSome?_cons, List.findSome?_nil]
  cases findStructuredRateLimit v <;> rfl

/-- No output, no signal in it. -/
theorem structuredRateLimit_nil (texts : ProviderTexts P) : structuredRateLimit P [] = none := by
  have htext : fromUtf8 [] = some [] := fromUtf8_utf8 []
  have hvalue : valueOfText P [] = none := by rw [valueOfText, texts.empty, Option.map_none]
  rw [structuredRateLimit, htext, Option.bind_some, hvalue]
  rfl

@[simp] theorem firstNumber_nil (members : List (String × Json)) :
    firstNumber [] members = none := rfl

@[simp] theorem firstNumber_cons (name : String) (names : List String)
    (members : List (String × Json)) : firstNumber (name :: names) members
      = ((members.lookup name).bind Json.asNat).or (firstNumber names members) := by
  unfold firstNumber
  rw [List.findSome?_cons]
  cases (members.lookup name).bind Json.asNat <;> rfl

/-- The names that `find_structured_rate_limit` looks for. -/
def rateLimitNames : List String :=
  ["status", "status_code", "http_status", "code", "type", "error_code"]

theorem saysRateLimit_of_names {members : List (String × Json)} {names : List String}
    (hnames : members.map (·.1) = names) (h : ∀ name ∈ rateLimitNames, name ∉ names) :
    saysRateLimit members = false := by
  have hnone (name : String) (hname : name ∈ rateLimitNames) : members.lookup name = none := by
    refine List.lookup_eq_none_iff.mpr fun m hm => bne_iff_ne.mpr fun heq => h name hname ?_
    rw [← hnames, heq]
    exact List.mem_map_of_mem hm
  have hnumbers : ∀ name ∈ ["status", "status_code", "http_status"], name ∈ rateLimitNames := by
    decide
  have hcodes : ∀ name ∈ ["code", "type", "error_code"], name ∈ rateLimitNames := by decide
  rw [saysRateLimit, Bool.or_eq_false_iff]
  constructor
  · refine List.any_eq_false.mpr fun name hname => ?_
    rw [hnone name (hnumbers name hname)]
    decide
  · refine List.any_eq_false.mpr fun name hname => ?_
    rw [hnone name (hcodes name hname)]
    decide

/-- An object with none of these names is searched further. -/
theorem find_obj {members : List (String × Json)} {names : List String}
    (hnames : members.map (·.1) = names) (h : ∀ name ∈ rateLimitNames, name ∉ names) :
    findStructuredRateLimit (.obj members) = findInMembers members := by
  rw [findStructuredRateLimit, saysRateLimit_of_names hnames h]
  rfl

theorem find_error_member (v : Json) :
    findStructuredRateLimit (.obj [("error", v)]) = findStructuredRateLimit v := by
  have hnames : ∀ name ∈ rateLimitNames, name ∉ ["error"] := by decide
  calc findStructuredRateLimit (.obj [("error", v)])
      = findInMembers [("error", v)] := find_obj rfl hnames
    _ = findStructuredRateLimit v := by rw [findInMembers, findInMembers, Option.or_none]

theorem saysRateLimit_error (errorType message : String) :
    saysRateLimit [("message", .str message), ("type", .str errorType)]
      = rateLimitCodes.contains errorType := by
  unfold saysRateLimit
  generalize rateLimitCodes.contains = known
  simp [List.lookup, Json.asNat, Json.asStr]

theorem find_errorEnvelope (errorType message : String) :
    findStructuredRateLimit (errorEnvelope errorType message)
      = if errorType ∈ rateLimitCodes then some none else none := by
  rw [errorEnvelope, find_error_member, findStructuredRateLimit, saysRateLimit_error]
  simp only [List.contains_iff_mem]
  congr 1

theorem find_messageEnvelope (text finishReason : String) :
    findStructuredRateLimit (messageEnvelope text finishReason) = none := by
  have houter : ∀ name ∈ rateLimitNames, name ∉ ["choices"] := by decide
  have hchoice : ∀ name ∈ rateLimitNames, name ∉ ["finish_reason", "index", "message"] := by decide
  have hmessage : ∀ name ∈ rateLimitNames, name ∉ ["content", "role"] := by decide
  let message := Json.obj [("content", .str text), ("role", .str "assistant")]
  let members := [("finish_reason", .str finishReason), ("index", .int 0), ("message", message)]
  have hinner : findStructuredRateLimit message = none := find_obj rfl hmessage
  have hfirst : findStructuredRateLimit (.obj members) = none := by
    calc findStructuredRateLimit (.obj members) = findInMembers members := find_obj rfl hchoice
      _ = findStructuredRateLimit message := by
        rw [findInMembers, findInMembers, findInMembers, findInMembers, Option.or_none]
        rfl
      _ = none := hinner
  calc findStructuredRateLimit (messageEnvelope text finishReason)
      = findInMembers _ := find_obj rfl houter
    _ = none := by
      rw [findInMembers, findInMembers, findStructuredRateLimit.eq_1, findInItems, findInItems,
        hfirst]
      rfl
theorem saysRateLimit_of_type {members : List (String × Json)} {errorType : String}
    (htype : members.lookup "type" = some (.str errorType)) (hcode : errorType ∈ rateLimitCodes) :
    saysRateLimit members = true := by
  have hknown : rateLimitCodes.contains errorType = true := List.contains_iff_mem.mpr hcode
  unfold saysRateLimit
  generalize rateLimitCodes.contains = known at hknown ⊢
  simp [htype, Json.asStr, hknown]

theorem find_rateLimitEnvelope (retryAfter : Option Nat) (body : Bytes) :
    findStructuredRateLimit (rateLimitEnvelope retryAfter body) = some retryAfter := by
  have hcode : "rate_limit_error" ∈ rateLimitCodes := by decide
  unfold rateLimitEnvelope
  rw [find_error_member]
  generalize String.ofList _ = upstream
  cases retryAfter with
  | none =>
    rw [findStructuredRateLimit, saysRateLimit_of_type (by simp) hcode]
    simp [List.lookup]
  | some n =>
    rw [findStructuredRateLimit, saysRateLimit_of_type (by simp [List.lookup]) hcode]
    simp [List.lookup, Json.asNat]

theorem valueOfBytes_errorEnvelope (errorType message : String) :
    valueOfBytes P (toVec (errorEnvelope errorType message))
      = some (errorEnvelope errorType message) := by
  refine valueOfBytes_toVec (by simp [errorEnvelope, Json.Regular])
    (by simp [errorEnvelope, Json.unique, Json.uniqueMembers]) ?_
  have hle : ("message" : String) ≤ "type" := by decide
  simp [errorEnvelope, Json.sorted_obj, Json.byName, hle]

theorem valueOfBytes_messageEnvelope (text finishReason : String) :
    valueOfBytes P (toVec (messageEnvelope text finishReason))
      = some (messageEnvelope text finishReason) := by
  refine valueOfBytes_toVec (by simp [messageEnvelope, Json.Regular])
    (by simp [messageEnvelope, Json.unique, Json.uniqueMembers, Json.uniqueItems]) ?_
  have hchoice : ("finish_reason" : String) ≤ "index" ∧ ("index" : String) ≤ "message" := by decide
  have hmessage : ("content" : String) ≤ "role" := by decide
  simp [messageEnvelope, Json.sorted_obj, Json.sorted_arr, Json.byName, hchoice, hmessage]

theorem parseUsize_lt {s : String} {n : Nat} (h : Run.parseUsize s = some n) : n < 2 ^ 64 := by
  unfold Run.parseUsize at h
  extract_lets digits m at h
  split at h
  case isTrue hdigits => exact Option.some.inj h ▸ hdigits.2.2
  case isFalse => exact nomatch h

theorem retryAfterSeconds_lt {header : Bytes} {n : Nat} (h : retryAfterSeconds header = some n) :
    n < 2 ^ 64 := by
  unfold retryAfterSeconds at h
  split at h
  case isTrue =>
    obtain ⟨text, -, hparsed⟩ := Option.bind_eq_some_iff.mp h
    exact parseUsize_lt hparsed
  case isFalse => exact nomatch h

theorem valueOfBytes_rateLimitEnvelope {retryAfter : Option Nat}
    (h : ∀ n, retryAfter = some n → n < 2 ^ 64) (body : Bytes) :
    valueOfBytes P (toVec (rateLimitEnvelope retryAfter body))
      = some (rateLimitEnvelope retryAfter body) := by
  have hle : ("retry_after" : String) ≤ "type" ∧ ("type" : String) ≤ "upstream_body" := by decide
  cases retryAfter with
  | none =>
    refine valueOfBytes_toVec (by simp [rateLimitEnvelope, Json.Regular])
      (by simp [rateLimitEnvelope, Json.unique, Json.uniqueMembers]) ?_
    simp [rateLimitEnvelope, Json.sorted_obj, Json.byName, hle]
  | some n =>
    have hn := h n rfl
    refine valueOfBytes_toVec ?_
      (by simp [rateLimitEnvelope, Json.unique, Json.uniqueMembers]) ?_
    · have hint : Json.Regular 98 (.int n) := ⟨by omega, by exact_mod_cast hn⟩
      simp [rateLimitEnvelope, Json.Regular] at hint ⊢
      exact hint
    · simp [rateLimitEnvelope, Json.sorted_obj, Json.byName, hle]

/-- The bytes of a message in the shape of the other face: its text as a string,
    and the members around it. -/
def messageBytes (text finishReason : String) : Nat :=
  (utf8 (Json.quote text)).length + finishReason.length + 86

theorem write_messageEnvelope (text reason : String) :
    Json.write Json.compact 0 (messageEnvelope text reason)
      = "\x7b\"choices\":[\x7b\"finish_reason\":".toList ++ Json.quote reason
        ++ ",\"index\":0,\"message\":\x7b\"content\":".toList ++ Json.quote text
        ++ ",\"role\":\"assistant\"\x7d\x7d]\x7d".toList := by
  simp [messageEnvelope, Json.write, Json.writeItems, Json.writeMembers, Json.compact,
    Json.quote, Json.writeInt, Json.escape]

theorem length_messageEnvelope (text : String) (envelope : Json) :
    (toVec (messageEnvelope text (finishReason envelope))).length
      = messageBytes text (finishReason envelope) := by
  have hfront : (utf8 "\x7b\"choices\":[\x7b\"finish_reason\":".toList).length = 29 := by
    decide +kernel
  have hmiddle : (utf8 ",\"index\":0,\"message\":\x7b\"content\":".toList).length = 32 := by
    decide +kernel
  have hback : (utf8 ",\"role\":\"assistant\"\x7d\x7d]\x7d".toList).length = 23 := by
    decide +kernel
  have hreason : (utf8 (Json.quote (finishReason envelope))).length
      = (finishReason envelope).length + 2 := by
    unfold finishReason
    split <;> decide +kernel
  rw [toVec, write_messageEnvelope, messageBytes]
  simp only [Finance.utf8_append, List.length_append, hfront, hmiddle, hback, hreason]
  omega
end written

/-! ### One reply on two faces -/

/-- What a provider says, on either face. -/
inductive Reply where
  | message (text : String)
  | failure (errorType message : Option String)

/-- An error with this type and this message. -/
def CarriesError (envelope : Json) (errorType message : Option String) : Prop :=
  (envelope.get "error").isSome = true ∧ errorText envelope "type" = errorType
    ∧ errorText envelope "message" = message

def OpenAiSays (envelope : Json) : Reply → Prop
  | .message text => envelope.get "error" = none ∧ choiceContent envelope = some text
  | .failure errorType message => CarriesError envelope errorType message

def AnthropicSays (envelope : Json) : Reply → Prop
  | .message text => envelope.get "error" = none
      ∧ ∃ blocks, envelope.get "content" = some (.arr blocks) ∧ blocksText blocks = text
  | .failure errorType message => CarriesError envelope errorType message

/-- The adapters that make chat completions. -/
inductive ChatFamily where
  | deepseek
  | qwen
  deriving DecidableEq

def ChatFamily.adapter : ChatFamily → String
  | .deepseek => "deepseek"
  | .qwen => "qwen"

/-- One reply, as it comes from either face of a provider. -/
structure Delivery (P : Platform) where
  family : ChatFamily
  contract : OutputContract
  maxOutputBytes : Nat
  status : Nat
  retryAfter : Option Bytes
  reply : Reply
  openAiUrl : String
  openAiBody : Bytes
  openAiValue : Json
  anthropicUrl : String
  anthropicBody : Bytes
  anthropicValue : Json
  openAiFace : isAnthropicEndpoint openAiUrl = false
  openAiReads : valueOfBytes P openAiBody = some openAiValue
  openAiSays : OpenAiSays openAiValue reply
  anthropicFace : isAnthropicEndpoint anthropicUrl = true
  anthropicReads : valueOfBytes P anthropicBody = some anthropicValue
  anthropicSays : AnthropicSays anthropicValue reply

section faces

variable {P : Platform} (texts : ProviderTexts P) (extract : Extractor) (d : Delivery P)

namespace Delivery

def outcome (baseUrl : String) (body : Bytes) : ChatCompletionsOutcome :=
  executeChatCompletions texts baseUrl d.maxOutputBytes ⟨d.status, d.retryAfter, body⟩

def verdict (baseUrl : String) (body : Bytes) : Verdict :=
  evaluateAttemptOutput P extract d.family.adapter d.contract (d.outcome texts baseUrl body) false
    d.maxOutputBytes

def cap : Nat := min d.maxOutputBytes maxAdapterOutputBytes

/-- A body that is longer than the cap. -/
def Over (body : Bytes) : Prop := d.cap < body.length

instance (body : Bytes) : Decidable (d.Over body) := Nat.decLt ..

/-- The error text of this body, when the status is no success. -/
def failure (body : Bytes) : Text :=
  failureText texts d.status (d.retryAfter.bind retryAfterSeconds) body

end Delivery

/-- The accepted output and the class. -/
def lot (v : Verdict) : Option AdapterOutput × RetryClass := (v.1, v.2.2)

/-- **The faces agree**: the same output is accepted or the attempt fails in the same
    class, and a body that is longer than the cap exceeds the output limit. -/
structure FacesAgree : Prop where
  same : lot (d.verdict texts extract d.openAiUrl d.openAiBody)
    = lot (d.verdict texts extract d.anthropicUrl d.anthropicBody)
  openAiLimit : d.Over d.openAiBody →
    (d.outcome texts d.openAiUrl d.openAiBody).outputLimitExceeded = true
  anthropicLimit : d.Over d.anthropicBody →
    (d.outcome texts d.anthropicUrl d.anthropicBody).outputLimitExceeded = true

/-! #### When they do -/

def Reply.content : Reply → Option String
  | .message text => some text
  | .failure _ _ => none

/-- The output in the text of the reply, if it is a message. -/
def Delivery.output : Option AdapterOutput :=
  if d.maxOutputBytes ≤ maxAdapterOutputBytes then
    d.reply.content.bind fun content => (extract d.contract content).toOption
  else none

/-- The message of the second face still fits when it is in the shape of the first. -/
def Delivery.Fits : Prop :=
  ∀ text, d.reply = .message text →
    messageBytes text (finishReason d.anthropicValue) ≤ d.maxOutputBytes

/-- What the type of an error says of a rate limit. -/
def Reply.signal : Reply → Option (Option Nat)
  | .message _ => none
  | .failure errorType _ => if errorType.any rateLimitCodes.contains then some none else none

/-- A body of no success in which nothing speaks of a rate limit or of a seat. -/
structure Delivery.Quiet (body : Bytes) : Prop where
  structured : structuredRateLimit P body = none
  marks : marksRateLimit (d.failure texts body) = false
  seat : seatTaskFailed (d.failure texts body) = false

/-- Two bodies of no success that speak of the same, and first of all by a value. -/
structure Delivery.Alike (body body' : Bytes) : Prop where
  structured : structuredRateLimit P body = structuredRateLimit P body'
  marks : structuredRateLimit P body = none →
    marksRateLimit (d.failure texts body) = marksRateLimit (d.failure texts body')
  retryAfter : structuredRateLimit P body = none → marksRateLimit (d.failure texts body) = true →
    parseRetryAfter (d.failure texts body) = parseRetryAfter (d.failure texts body')
  seat : structuredRateLimit P body = none → marksRateLimit (d.failure texts body) = false →
    seatTaskFailed (d.failure texts body) = seatTaskFailed (d.failure texts body')

/-- What two bodies within the cap must have in common. -/
def Delivery.Meets : Prop :=
  if isSuccess d.status then
    ((d.output extract).isSome = true → d.Fits)
      ∧ (d.output extract = none → structuredRateLimit P d.openAiBody = d.reply.signal)
  else d.status = 429 ∨ d.Alike texts d.openAiBody d.anthropicBody

/-- What comes from the first face is refused for good. -/
def Delivery.OpenAiRefused : Prop :=
  if isSuccess d.status then
    d.output extract = none ∧ structuredRateLimit P d.openAiBody = none
  else d.status ≠ 429 ∧ d.Quiet texts d.openAiBody

/-- What comes from the second face is refused for good. -/
def Delivery.AnthropicRefused : Prop :=
  if isSuccess d.status then (d.output extract = none ∨ ¬ d.Fits) ∧ d.reply.signal = none
  else d.status ≠ 429 ∧ d.Quiet texts d.anthropicBody

/-- The deliveries on which the faces agree. -/
structure FacesMeet : Prop where
  /-- What is read of a message that is too long is a JSON text still. -/
  cutReads : d.Over d.anthropicBody → isSuccess d.status = true →
    (valueOfBytes P (d.anthropicBody.take (d.cap + 1))).isSome = true
  within : ¬ d.Over d.openAiBody → ¬ d.Over d.anthropicBody → d.Meets texts extract
  anthropicOver : ¬ d.Over d.openAiBody → d.Over d.anthropicBody → d.OpenAiRefused texts extract
  openAiOver : d.Over d.openAiBody → ¬ d.Over d.anthropicBody → d.AnthropicRefused texts extract

/-! #### What becomes of a response -/

/-- The class of a signal in the output. -/
def classOf : Option (Option Nat) → RetryClass
  | some retryAfter => .rateLimited ⟨"adapter_structured_error", retryAfter⟩
  | none => .never

theorem classOf_injective : Function.Injective classOf := by
  intro a b h
  cases a <;> cases b <;> simp_all [classOf]

/-- The class of a failed attempt, from its error text. -/
def textClass (stderr : Text) : RetryClass :=
  if marksRateLimit stderr then .rateLimited ⟨"adapter_stderr_marker", parseRetryAfter stderr⟩
  else if seatTaskFailed stderr then .transientAdapter else .never

/-- The class of a failed attempt. -/
def failedClass (P : Platform) (stdout : Bytes) (stderr : Text) : RetryClass :=
  match structuredRateLimit P stdout with
  | some retryAfter => classOf (some retryAfter)
  | none => textClass stderr

theorem classify_family (family : ChatFamily) (stdout : Bytes) (stderr : Text) :
    classifyRateLimit P family.adapter stdout stderr =
      match structuredRateLimit P stdout with
      | some retryAfter => some ⟨"adapter_structured_error", retryAfter⟩
      | none =>
          if marksRateLimit stderr then some ⟨"adapter_stderr_marker", parseRetryAfter stderr⟩
          else none := by
  have hknown : ["deepseek", "qwen", "a2a"].contains family.adapter = true := by
    cases family <;> decide
  rw [classifyRateLimit, if_pos hknown]

section evaluate

variable (family : ChatFamily) (contract : OutputContract) (maxOutputBytes : Nat)

theorem lot_of_limit {outcome : ChatCompletionsOutcome}
    (h : outcome.outputLimitExceeded = true) :
    lot (evaluateAttemptOutput P extract family.adapter contract outcome false maxOutputBytes)
      = (none, .never) := by
  rw [evaluateAttemptOutput, if_neg Bool.false_ne_true, if_pos h]
  rfl

theorem lot_of_failed (stdout : Bytes) (stderr : Text) :
    lot (evaluateAttemptOutput P extract family.adapter contract
      ⟨stdout, stderr, some 1, false, false⟩ false maxOutputBytes)
      = (none, failedClass P stdout stderr) := by
  have hexit : (some 1 : Option Int) ≠ some 0 := by decide
  rw [evaluateAttemptOutput, if_neg Bool.false_ne_true, if_neg Bool.false_ne_true,
    if_neg Bool.false_ne_true, if_pos hexit, classify_family, failedClass]
  cases structuredRateLimit P stdout with
  | some retryAfter => rfl
  | none =>
    unfold textClass
    cases marksRateLimit stderr <;> rfl

/-- The lot of an attempt by its output and, where there is none, by the signal. -/
def settled (output : Option AdapterOutput) (signal : Option (Option Nat)) :
    Option AdapterOutput × RetryClass :=
  match output with
  | some output => (some output, .never)
  | none => (none, classOf signal)

theorem lot_of_success (stdout : Bytes) :
    lot (evaluateAttemptOutput P extract family.adapter contract
      ⟨stdout, [], some 0, false, false⟩ false maxOutputBytes)
      = settled (parseTypedOutputWithLimit P extract contract stdout maxOutputBytes).toOption
        (structuredRateLimit P stdout) := by
  have hexit : ¬ (some 0 : Option Int) ≠ some 0 := by decide
  have hmarks : marksRateLimit [] = false := by decide
  rw [evaluateAttemptOutput, if_neg Bool.false_ne_true, if_neg Bool.false_ne_true,
    if_neg Bool.false_ne_true, if_neg hexit, classify_family, hmarks]
  cases parseTypedOutputWithLimit P extract contract stdout maxOutputBytes with
  | ok output => rfl
  | error error => cases structuredRateLimit P stdout <;> rfl

end evaluate

section outputs

variable {extract}

/-- The output in chat completions of this value. -/
theorem parsed_of_value {contract : OutputContract} {stdout : Bytes} {maxOutputBytes : Nat}
    {v : Json} (hread : valueOfBytes P stdout = some v) :
    (parseTypedOutputWithLimit P extract contract stdout maxOutputBytes).toOption
      = if maxOutputBytes ≤ maxAdapterOutputBytes ∧ stdout.length ≤ maxOutputBytes then
          (contentOf v).toOption.bind fun content => (extract contract content).toOption
        else none := by
  unfold parseTypedOutputWithLimit chatCompletionContent
  rw [hread]
  by_cases hmax : maxOutputBytes ≤ maxAdapterOutputBytes
  · by_cases hlength : stdout.length ≤ maxOutputBytes
    · rw [if_neg (by omega), if_neg (by omega), if_neg (by omega), if_pos ⟨hmax, hlength⟩]
      dsimp only
      cases contentOf v <;> rfl
    · rw [if_neg (by omega), if_pos (by omega), if_neg (by omega)]
      rfl
  · rw [if_pos (by omega), if_neg (by omega)]
    rfl

theorem contentOf_failure {v : Json} (h : (v.get "error").isSome = true) :
    (contentOf v).toOption = none := by
  obtain ⟨error, herror⟩ := Option.isSome_iff_exists.mp h
  rw [contentOf, herror]
  rfl

theorem contentOf_message {v : Json} {text : String} (herror : v.get "error" = none)
    (hcontent : choiceContent v = some text) : (contentOf v).toOption = some text := by
  rw [contentOf, herror, hcontent]
  rfl

theorem contentOf_messageEnvelope (text reason : String) :
    (contentOf (messageEnvelope text reason)).toOption = some text := by
  refine contentOf_message ?_ ?_
  · simp [messageEnvelope, List.lookup]
  · simp [messageEnvelope, choiceContent, List.lookup, Json.asArr, Json.asStr]

end outputs

namespace Delivery

variable {d}

theorem over_take (body : Bytes) :
    decide (d.cap < (body.take (d.cap + 1)).length) = decide (d.Over body) := by
  refine decide_eq_decide.mpr ?_
  rw [List.length_take, Over]
  omega

theorem take_of_within {body : Bytes} (h : ¬ d.Over body) : body.take (d.cap + 1) = body :=
  List.take_of_length_le (by unfold Over at h; omega)

/-- The outcome of a response that is no success. -/
theorem outcome_failed (hstatus : isSuccess d.status = false) (baseUrl : String) (body : Bytes) :
    d.outcome texts baseUrl body =
      { stdout := if d.status = 429 then
          toVec (rateLimitEnvelope (d.retryAfter.bind retryAfterSeconds) (body.take (d.cap + 1)))
          else body.take (d.cap + 1)
        stderr := d.failure texts (body.take (d.cap + 1))
        exitCode := some 1
        timedOut := false
        outputLimitExceeded := decide (d.Over body) } := by
  have hlimit := over_take (d := d) body
  unfold outcome executeChatCompletions executeChatCompletionsInner
  simp only [hstatus]
  rw [← hlimit]
  rfl

theorem outcome_openAi (hstatus : isSuccess d.status = true) :
    d.outcome texts d.openAiUrl d.openAiBody =
      ⟨d.openAiBody.take (d.cap + 1), [], some 0, false, decide (d.Over d.openAiBody)⟩ := by
  have hlimit := over_take (d := d) d.openAiBody
  unfold outcome executeChatCompletions executeChatCompletionsInner
  simp only [hstatus, d.openAiFace]
  rw [← hlimit]
  rfl

theorem outcome_anthropic (hstatus : isSuccess d.status = true) :
    d.outcome texts d.anthropicUrl d.anthropicBody =
      match valueOfBytes P (d.anthropicBody.take (d.cap + 1)) with
      | some v => ⟨toVec (reshaped v), [], some 0, false, decide (d.Over d.anthropicBody)⟩
      | none => ⟨[], transportFailed (texts.unread (d.anthropicBody.take (d.cap + 1))), some 1,
          false, false⟩ := by
  have hlimit := over_take (d := d) d.anthropicBody
  unfold outcome executeChatCompletions executeChatCompletionsInner anthropicEnvelopeToOpenai
  simp only [hstatus, d.anthropicFace]
  rw [← hlimit]
  unfold cap
  cases valueOfBytes P (d.anthropicBody.take (min d.maxOutputBytes maxAdapterOutputBytes + 1)) <;>
    rfl

variable {texts} {extract}

/-- A body that is longer than the cap exceeds the limit, but for one that is reshaped
    and is no JSON text any more. -/
theorem limit_failed (hstatus : isSuccess d.status = false) {baseUrl : String} {body : Bytes}
    (h : d.Over body) : (d.outcome texts baseUrl body).outputLimitExceeded = true := by
  rw [outcome_failed texts hstatus]
  exact decide_eq_true h

theorem limit_openAi (h : d.Over d.openAiBody) :
    (d.outcome texts d.openAiUrl d.openAiBody).outputLimitExceeded = true := by
  cases hstatus : isSuccess d.status with
  | false => exact limit_failed hstatus h
  | true =>
    rw [outcome_openAi texts hstatus]
    exact decide_eq_true h

theorem limit_anthropic (h : d.Over d.anthropicBody) :
    (d.outcome texts d.anthropicUrl d.anthropicBody).outputLimitExceeded = true
      ↔ (isSuccess d.status = true →
        (valueOfBytes P (d.anthropicBody.take (d.cap + 1))).isSome = true) := by
  cases hstatus : isSuccess d.status with
  | false => simp [limit_failed hstatus h]
  | true =>
    rw [outcome_anthropic texts hstatus]
    cases valueOfBytes P (d.anthropicBody.take (d.cap + 1)) <;> simp [h]

/-- **Too long a body** is refused for good, on either face. -/
theorem lot_openAi_over (h : d.Over d.openAiBody) :
    lot (d.verdict texts extract d.openAiUrl d.openAiBody) = (none, .never) :=
  lot_of_limit extract _ _ _ (limit_openAi h)

theorem lot_anthropic_over (h : d.Over d.anthropicBody) :
    lot (d.verdict texts extract d.anthropicUrl d.anthropicBody) = (none, .never) := by
  by_cases hread : isSuccess d.status = true →
      (valueOfBytes P (d.anthropicBody.take (d.cap + 1))).isSome = true
  · exact lot_of_limit extract _ _ _ ((limit_anthropic h).mpr hread)
  · -- the reshaping fails, and its error takes the place of the limit
    obtain ⟨hstatus, hread⟩ := Classical.not_imp.mp hread
    have hnone := Option.not_isSome_iff_eq_none.mp hread
    have hsyntax := texts.syntactic (d.anthropicBody.take (d.cap + 1))
    have hclass : textClass (transportFailed (texts.unread (d.anthropicBody.take (d.cap + 1))))
        = .never := by
      rw [textClass, hsyntax.1, hsyntax.2]
      rfl
    rw [verdict, outcome_anthropic texts hstatus, hnone, lot_of_failed, failedClass,
      structuredRateLimit_nil texts, hclass]

/-- A response with the status 429 is put off for as long as its header says. -/
theorem lot_tooMany (hstatus : d.status = 429) {baseUrl : String} {body : Bytes}
    (h : ¬ d.Over body) : lot (d.verdict texts extract baseUrl body)
      = (none, classOf (some (d.retryAfter.bind retryAfterSeconds))) := by
  have hfailed : isSuccess d.status = false := by rw [hstatus]; decide
  have hheader : ∀ n, d.retryAfter.bind retryAfterSeconds = some n → n < 2 ^ 64 := by
    intro n hn
    obtain ⟨header, -, hn⟩ := Option.bind_eq_some_iff.mp hn
    exact retryAfterSeconds_lt hn
  have hread := structuredRateLimit_of_value
    (valueOfBytes_rateLimitEnvelope (P := P) hheader (body.take (d.cap + 1)))
  rw [find_rateLimitEnvelope] at hread
  rw [verdict, outcome_failed texts hfailed, if_pos hstatus, decide_eq_false h, lot_of_failed,
    failedClass, hread]

/-- Any other response that is no success is judged by its body. -/
theorem lot_failed (hfailed : isSuccess d.status = false) (hstatus : d.status ≠ 429)
    {baseUrl : String} {body : Bytes} (h : ¬ d.Over body) :
    lot (d.verdict texts extract baseUrl body)
      = (none, failedClass P body (d.failure texts body)) := by
  rw [verdict, outcome_failed texts hfailed, if_neg hstatus, decide_eq_false h, lot_of_failed,
    take_of_within h]

theorem contentOf_openAi : (contentOf d.openAiValue).toOption = d.reply.content := by
  have hsays := d.openAiSays
  cases hreply : d.reply with
  | message text =>
    rw [hreply] at hsays
    exact contentOf_message hsays.1 hsays.2
  | failure errorType message =>
    rw [hreply] at hsays
    exact contentOf_failure hsays.1

/-- **What the first face says**, within the cap. -/
theorem lot_openAi (hstatus : isSuccess d.status = true) (h : ¬ d.Over d.openAiBody) :
    lot (d.verdict texts extract d.openAiUrl d.openAiBody)
      = settled (d.output extract) (structuredRateLimit P d.openAiBody) := by
  have houtput : (parseTypedOutputWithLimit P extract d.contract d.openAiBody
      d.maxOutputBytes).toOption = d.output extract := by
    rw [parsed_of_value d.openAiReads, contentOf_openAi, output]
    by_cases hmax : d.maxOutputBytes ≤ maxAdapterOutputBytes
    · -- within the hard limit the cap is the policy's, so a whole body passes it
      have hcap : d.cap = d.maxOutputBytes := min_eq_left hmax
      unfold Over at h
      rw [if_pos ⟨hmax, by omega⟩, if_pos hmax]
    · rw [if_neg fun hboth => hmax hboth.1, if_neg hmax]
  rw [verdict, outcome_openAi texts hstatus, decide_eq_false h, lot_of_success, take_of_within h,
    houtput]

/-- What the second face says is reshaped into a message or an error of the first. -/
theorem reshaped_message {text : String} (hreply : d.reply = .message text) :
    reshaped d.anthropicValue = messageEnvelope text (finishReason d.anthropicValue) := by
  have hsays := d.anthropicSays
  rw [hreply] at hsays
  obtain ⟨herror, blocks, hcontent, htext⟩ := hsays
  rw [reshaped, herror, hcontent, ← htext]
  rfl

theorem reshaped_failure {errorType message : Option String}
    (hreply : d.reply = .failure errorType message) :
    reshaped d.anthropicValue = errorEnvelope (errorType.getD "api_error")
      (message.getD "unspecified provider error") := by
  have hsays := d.anthropicSays
  rw [hreply] at hsays
  obtain ⟨herror, htype, hmessage⟩ := hsays
  rw [reshaped, if_pos herror, htype, hmessage]

theorem lot_reshaped (hstatus : isSuccess d.status = true) (h : ¬ d.Over d.anthropicBody) :
    lot (d.verdict texts extract d.anthropicUrl d.anthropicBody)
      = settled (parseTypedOutputWithLimit P extract d.contract
          (toVec (reshaped d.anthropicValue)) d.maxOutputBytes).toOption
        (structuredRateLimit P (toVec (reshaped d.anthropicValue))) := by
  rw [verdict, outcome_anthropic texts hstatus, take_of_within h, d.anthropicReads]
  simp only [decide_eq_false h]
  exact lot_of_success extract _ _ _ _

/-- **An error that the second face says**, within the cap. -/
theorem lot_anthropic_failure {errorType message : Option String}
    (hreply : d.reply = .failure errorType message) (hstatus : isSuccess d.status = true)
    (h : ¬ d.Over d.anthropicBody) :
    lot (d.verdict texts extract d.anthropicUrl d.anthropicBody)
      = settled none d.reply.signal := by
  have hread := valueOfBytes_errorEnvelope (P := P) (errorType.getD "api_error")
    (message.getD "unspecified provider error")
  have hcontent : (contentOf (errorEnvelope (errorType.getD "api_error")
      (message.getD "unspecified provider error"))).toOption = none :=
    contentOf_failure (by simp [errorEnvelope, List.lookup])
  have hsignal : (if errorType.getD "api_error" ∈ rateLimitCodes then some none else none)
      = d.reply.signal := by
    rw [hreply, Reply.signal]
    cases errorType with
    | none => decide  -- the default type is none of a rate limit
    | some code => simp
  rw [lot_reshaped hstatus h, reshaped_failure hreply, structuredRateLimit_of_value hread,
    find_errorEnvelope, hsignal, parsed_of_value hread, hcontent, Option.bind_none, ite_self]

/-- **A message that the second face says**, within the cap. -/
theorem lot_anthropic_message {text : String} (hreply : d.reply = .message text)
    (hstatus : isSuccess d.status = true) (h : ¬ d.Over d.anthropicBody) :
    lot (d.verdict texts extract d.anthropicUrl d.anthropicBody)
      = settled (if messageBytes text (finishReason d.anthropicValue) ≤ d.maxOutputBytes then
          d.output extract else none) none := by
  have hread := valueOfBytes_messageEnvelope (P := P) text (finishReason d.anthropicValue)
  have houtput : (parseTypedOutputWithLimit P extract d.contract
      (toVec (messageEnvelope text (finishReason d.anthropicValue))) d.maxOutputBytes).toOption
      = if messageBytes text (finishReason d.anthropicValue) ≤ d.maxOutputBytes then
          d.output extract else none := by
    rw [parsed_of_value hread, contentOf_messageEnvelope, length_messageEnvelope, output, hreply]
    by_cases hmax : d.maxOutputBytes ≤ maxAdapterOutputBytes
    · simp only [hmax, true_and, if_true]
      rfl
    · simp only [hmax, false_and, if_false, ite_self]
  rw [lot_reshaped hstatus h, reshaped_message hreply, structuredRateLimit_of_value hread,
    find_messageEnvelope, houtput]

end Delivery
variable {texts} {extract} {d}

/-! #### Equal lots -/

theorem settled_refused {output : Option AdapterOutput} {signal : Option (Option Nat)} :
    settled output signal = (none, .never) ↔ output = none ∧ signal = none := by
  cases output <;> cases signal <;> simp [settled, classOf]

theorem settled_eq_iff {output output' : Option AdapterOutput}
    {signal signal' : Option (Option Nat)} :
    settled output signal = settled output' signal'
      ↔ output = output' ∧ (output = none → signal = signal') := by
  cases output <;> cases output' <;> simp [settled, classOf_injective.eq_iff]

theorem textClass_ne (retryAfter : Option Nat) (stderr : Text) :
    textClass stderr ≠ classOf (some retryAfter) := by
  unfold textClass
  cases marksRateLimit stderr <;> cases seatTaskFailed stderr <;> simp [classOf]

theorem textClass_never {stderr : Text} :
    textClass stderr = .never ↔ marksRateLimit stderr = false ∧ seatTaskFailed stderr = false := by
  unfold textClass
  cases marksRateLimit stderr <;> cases seatTaskFailed stderr <;> simp

theorem textClass_eq_iff {stderr stderr' : Text} :
    textClass stderr = textClass stderr'
      ↔ marksRateLimit stderr = marksRateLimit stderr'
        ∧ (marksRateLimit stderr = true → parseRetryAfter stderr = parseRetryAfter stderr')
        ∧ (marksRateLimit stderr = false → seatTaskFailed stderr = seatTaskFailed stderr') := by
  unfold textClass
  cases marksRateLimit stderr <;> cases marksRateLimit stderr' <;>
    cases seatTaskFailed stderr <;> cases seatTaskFailed stderr' <;> simp

theorem quiet_iff {body : Bytes} :
    failedClass P body (d.failure texts body) = .never ↔ d.Quiet texts body := by
  have hnever (retryAfter : Option Nat) : classOf (some retryAfter) ≠ .never := nofun
  unfold failedClass
  constructor
  · intro h
    cases hstructured : structuredRateLimit P body with
    | some retryAfter =>
      rw [hstructured] at h
      exact absurd h (hnever retryAfter)
    | none =>
      rw [hstructured] at h
      obtain ⟨hmarks, hseat⟩ := textClass_never.mp h
      exact ⟨hstructured, hmarks, hseat⟩
  · intro h
    rw [h.structured]
    exact textClass_never.mpr ⟨h.marks, h.seat⟩

theorem alike_iff {body body' : Bytes} :
    failedClass P body (d.failure texts body) = failedClass P body' (d.failure texts body')
      ↔ d.Alike texts body body' := by
  unfold failedClass
  constructor
  · intro h
    cases hs : structuredRateLimit P body with
    | some retryAfter =>
      cases hs' : structuredRateLimit P body' with
      | some retryAfter' =>
        rw [hs, hs'] at h
        have heq := classOf_injective h
        exact ⟨hs.trans (heq.trans hs'.symm), by simp [hs], by simp [hs], by simp [hs]⟩
      | none =>
        -- a signal in the value and one in the text name different sources
        rw [hs, hs'] at h
        exact absurd h.symm (textClass_ne retryAfter _)
    | none =>
      cases hs' : structuredRateLimit P body' with
      | some retryAfter' =>
        rw [hs, hs'] at h
        exact absurd h (textClass_ne retryAfter' _)
      | none =>
        rw [hs, hs'] at h
        obtain ⟨hmarks, hretry, hseat⟩ := textClass_eq_iff.mp h
        exact ⟨hs.trans hs'.symm, fun _ => hmarks, fun _ => hretry, fun _ => hseat⟩
  · intro h
    rw [← h.structured]
    cases hs : structuredRateLimit P body with
    | some retryAfter => rfl
    | none => exact textClass_eq_iff.mpr ⟨h.marks hs, h.retryAfter hs, h.seat hs⟩

theorem fits_iff {text : String} (hreply : d.reply = .message text) :
    d.Fits ↔ messageBytes text (finishReason d.anthropicValue) ≤ d.maxOutputBytes := by
  constructor
  · exact fun h => h text hreply
  · intro h text' hreply'
    obtain rfl : text = text' := Reply.message.inj (hreply.symm.trans hreply')
    exact h

theorem output_of_failure {errorType message : Option String}
    (hreply : d.reply = .failure errorType message) : d.output extract = none := by
  rw [Delivery.output, hreply, Reply.content, Option.bind_none, ite_self]

/-- A body of no success is refused for good where nothing in it asks for a retry. -/
theorem refused_failed (hfailed : isSuccess d.status = false) {baseUrl : String} {body : Bytes}
    (h : ¬ d.Over body) : lot (d.verdict texts extract baseUrl body) = (none, .never)
      ↔ d.status ≠ 429 ∧ d.Quiet texts body := by
  by_cases hstatus : d.status = 429
  · -- its own error says when to try again
    rw [Delivery.lot_tooMany hstatus h]
    simp [hstatus, classOf]
  · rw [Delivery.lot_failed hfailed hstatus h, ← quiet_iff]
    simp [hstatus]

theorem openAiRefused_iff (h : ¬ d.Over d.openAiBody) :
    lot (d.verdict texts extract d.openAiUrl d.openAiBody) = (none, .never)
      ↔ d.OpenAiRefused texts extract := by
  unfold Delivery.OpenAiRefused
  cases hsuccess : isSuccess d.status with
  | true => rw [Delivery.lot_openAi hsuccess h, settled_refused, if_pos rfl]
  | false =>
    rw [if_neg Bool.false_ne_true]
    exact refused_failed hsuccess h

theorem anthropicRefused_iff (h : ¬ d.Over d.anthropicBody) :
    lot (d.verdict texts extract d.anthropicUrl d.anthropicBody) = (none, .never)
      ↔ d.AnthropicRefused texts extract := by
  unfold Delivery.AnthropicRefused
  cases hsuccess : isSuccess d.status with
  | true =>
    rw [if_pos rfl]
    cases hreply : d.reply with
    | message text =>
      rw [Delivery.lot_anthropic_message hreply hsuccess h, settled_refused, fits_iff hreply]
      by_cases hfits : messageBytes text (finishReason d.anthropicValue) ≤ d.maxOutputBytes
      · simp [hfits, Reply.signal]
      · simp [hfits, Reply.signal]
    | failure errorType message =>
      rw [Delivery.lot_anthropic_failure hreply hsuccess h, settled_refused,
        output_of_failure hreply, hreply]
      simp
  | false =>
    rw [if_neg Bool.false_ne_true]
    exact refused_failed hsuccess h

theorem meets_iff (ho : ¬ d.Over d.openAiBody) (ha : ¬ d.Over d.anthropicBody) :
    lot (d.verdict texts extract d.openAiUrl d.openAiBody)
        = lot (d.verdict texts extract d.anthropicUrl d.anthropicBody)
      ↔ d.Meets texts extract := by
  unfold Delivery.Meets
  cases hsuccess : isSuccess d.status with
  | true =>
    rw [if_pos rfl, Delivery.lot_openAi hsuccess ho]
    cases hreply : d.reply with
    | message text =>
      rw [Delivery.lot_anthropic_message hreply hsuccess ha, settled_eq_iff, fits_iff hreply]
      by_cases hfits : messageBytes text (finishReason d.anthropicValue) ≤ d.maxOutputBytes
      · simp [hfits, Reply.signal]
      · -- the first face accepts an output that the second has no room for
        cases d.output extract <;> simp [hfits, Reply.signal]
    | failure errorType message =>
      rw [Delivery.lot_anthropic_failure hreply hsuccess ha, settled_eq_iff,
        output_of_failure hreply, hreply]
      simp
  | false =>
    rw [if_neg Bool.false_ne_true]
    by_cases hstatus : d.status = 429
    · simp [Delivery.lot_tooMany hstatus ho, Delivery.lot_tooMany hstatus ha, hstatus]
    · rw [Delivery.lot_failed hsuccess hstatus ho, Delivery.lot_failed hsuccess hstatus ha,
        ← alike_iff]
      simp [hstatus]

/-- **When the two faces of a provider agree** on what becomes of a reply. -/
theorem faces_agree_iff {P : Platform} (texts : ProviderTexts P) (extract : Extractor)
    (d : Delivery P) :
    FacesAgree texts extract d ↔ FacesMeet texts extract d := by
  constructor
  · intro h
    refine ⟨fun hover => (Delivery.limit_anthropic hover).mp (h.anthropicLimit hover),
      fun ho ha => (meets_iff ho ha).mp h.same, fun ho ha => ?_, fun ho ha => ?_⟩
    · exact (openAiRefused_iff ho).mp (h.same.trans (Delivery.lot_anthropic_over ha))
    · exact (anthropicRefused_iff ha).mp (h.same.symm.trans (Delivery.lot_openAi_over ho))
  · intro h
    refine ⟨?_, Delivery.limit_openAi, fun hover =>
      (Delivery.limit_anthropic hover).mpr (h.cutReads hover)⟩
    -- by which of the bodies are too long
    by_cases ho : d.Over d.openAiBody
    · rw [Delivery.lot_openAi_over ho]
      by_cases ha : d.Over d.anthropicBody
      · exact (Delivery.lot_anthropic_over ha).symm
      · exact ((anthropicRefused_iff ha).mpr (h.openAiOver ho ha)).symm
    · by_cases ha : d.Over d.anthropicBody
      · rw [Delivery.lot_anthropic_over ha]
        exact (openAiRefused_iff ho).mpr (h.anthropicOver ho ha)
      · exact (meets_iff ho ha).mpr (h.within ho ha)
end faces

/-! #### A body that is too long -/

theorem long_openAiFace : isAnthropicEndpoint "https://api.example/v1" = false := by
  decide +kernel

theorem long_anthropicFace : isAnthropicEndpoint "https://api.example/anthropic" = true := by
  decide +kernel

theorem long_openAiSays : OpenAiSays (messageEnvelope "" "stop") (.message "") :=
  ⟨by decide +kernel, by decide +kernel⟩

theorem long_anthropicReads : valueOfBytes Platform.verbatim (toVec (.obj [("content", .arr [])]))
    = some (.obj [("content", .arr [])]) :=
  valueOfBytes_toVec (by simp [Json.Regular]) (by simp [Json.unique_obj, Json.unique_arr])
    (by simp [Json.sorted_obj, Json.sorted_arr])

theorem long_anthropicSays : AnthropicSays (.obj [("content", .arr [])]) (.message "") :=
  ⟨by decide +kernel, [], by decide +kernel, by decide +kernel⟩

/-- A provider that says nothing, with a cap of ten bytes. -/
def longDelivery : Delivery Platform.verbatim where
  family := .deepseek
  contract := .lane
  maxOutputBytes := 10
  status := 200
  retryAfter := none
  reply := .message ""
  openAiUrl := "https://api.example/v1"
  openAiBody := toVec (messageEnvelope "" "stop")
  openAiValue := messageEnvelope "" "stop"
  anthropicUrl := "https://api.example/anthropic"
  anthropicBody := toVec (.obj [("content", .arr [])])
  anthropicValue := .obj [("content", .arr [])]
  openAiFace := long_openAiFace
  openAiReads := valueOfBytes_messageEnvelope ..
  openAiSays := long_openAiSays
  anthropicFace := long_anthropicFace
  anthropicReads := long_anthropicReads
  anthropicSays := long_anthropicSays

def longTexts : ProviderTexts Platform.verbatim where
  status _ := "200 OK".toList
  unread _ := ("invalid Anthropic Messages response JSON: "
    ++ "EOF while parsing a value at line 1 column 11").toList
  empty := by decide +kernel
  syntactic _ := by decide +kernel

/-- Both bodies are longer than the cap; only the first face says so. -/
theorem faces_disagree :
    longDelivery.Over longDelivery.openAiBody ∧ longDelivery.Over longDelivery.anthropicBody
      ∧ (longDelivery.outcome longTexts longDelivery.openAiUrl
          longDelivery.openAiBody).outputLimitExceeded = true
      ∧ (longDelivery.outcome longTexts longDelivery.anthropicUrl
          longDelivery.anthropicBody).outputLimitExceeded = false
      ∧ ¬ FacesAgree longTexts (fun _ _ => .error "no output") longDelivery := by
  have hlimit : (longDelivery.outcome longTexts longDelivery.anthropicUrl
      longDelivery.anthropicBody).outputLimitExceeded = false := by decide +kernel
  have hover : longDelivery.Over longDelivery.anthropicBody := by decide +kernel
  refine ⟨by decide +kernel, hover, by decide +kernel, hlimit, fun h => ?_⟩
  exact Bool.false_ne_true (hlimit.symm.trans (h.anthropicLimit hover))

end Quinte.Adapter
