import Mathlib
import Quinte.Contest.BriefDigest

/-! # What the supervisor reads

    The plan, the state file and the receipts of the host, as
    `contest_supervisor.py` checks them.  A check that fails raises a
    `SafetyError`; some values make Python raise an error of its own.
-/

namespace Quinte.Contest

open Finance (Bytes Platform fromUtf8)

/-! ### Python -/

/-- What leaves a function besides its value. -/
inductive Raised where
  /-- `SafetyError` -/
  | safety (detail : String)
  /-- `HaltedError` -/
  | halted (detail : String)
  /-- `LockBusyError` -/
  | lockBusy
  /-- any other exception -/
  | uncaught (kind : String)
  deriving DecidableEq

abbrev Checked (α : Type) := Except Raised α

/-- Raise a `SafetyError` unless `b`. -/
def safe (b : Bool) (detail : String) : Checked Unit :=
  if b then .ok () else .error (.safety detail)

/-- What `json.loads` raises. -/
inductive LoadError where
  /-- `JSONDecodeError` -/
  | decode (message : String)
  /-- nesting beyond the recursion limit, or an integer with too many digits -/
  | limit (kind : String)

/-- What the interpreter makes of JSON values. -/
structure Python where
  /-- `json.loads` -/
  loads : Json.Text → Except LoadError Json
  /-- `json.dumps`, for a message -/
  dumps : Json → String
  /-- `repr`, for a message -/
  repr : Json → String
  /-- whether `json.dumps(..., ensure_ascii=False)` and its encoding succeed -/
  encodes : Json → Bool
  /-- whether `json.loads` takes back the text of this value -/
  readable : Json → Bool
  /-- whether the float that a text stands for is this integer -/
  floatIs : String → Int → Bool

/-- `value == n`. -/
def Python.equals (py : Python) (n : Int) : Option Json → Bool
  | some (.int m) => m = n
  | some (.bool b) => (if b then 1 else 0) = n
  | some (.float text) => py.floatIs text n
  | _ => false

/-- `_read_json`, of the bytes of a file. -/
def readFile (py : Python) (label : String) (bytes : Bytes) : Checked Json :=
  match fromUtf8 bytes with
  | none => .error (.safety (label ++ " is unreadable or malformed"))
  | some text => match py.loads text with
    | .ok value => .ok value
    | .error (.decode _) => .error (.safety (label ++ " is unreadable or malformed"))
    | .error (.limit kind) => .error (.uncaught kind)

/-- What the file system shows. -/
structure Files where
  /-- `Path.resolve()` -/
  resolve : String → String
  /-- whether `Path.resolve(strict=True)` succeeds -/
  there : String → Bool
  isFile : String → Bool
  /-- `read_bytes`, unless it fails -/
  read : String → Option Bytes

/-- `_absolute`. A path with a null character makes `resolve` raise a `ValueError`. -/
def absolute (py : Python) (files : Files) (value : Option Json) (label : String)
    (mustExist : Bool) : Checked String :=
  match value.bind Json.asStr with
  | none => .error (.safety (label ++ " must be a non-empty absolute path"))
  | some path =>
      if path.isEmpty then .error (.safety (label ++ " must be a non-empty absolute path"))
      else if path.toList.head? ≠ some '/' then
        .error (.safety (label ++ " must be absolute: " ++ py.repr (.str path)))
      else if path.toList.contains '\x00' then .error (.uncaught "ValueError")
      else if mustExist && !files.there path then
        .error (.safety ("cannot resolve " ++ label ++ " " ++ py.repr (.str path)))
      else .ok (files.resolve path)

/-! ### Shapes -/

def isHexDigit (c : Char) : Bool := ('0' ≤ c && c ≤ '9') || ('a' ≤ c && c ≤ 'f')

/-- `fullmatch`, of a pattern that has one class for each character. -/
def fullMatch (shape : List (Char → Bool)) (s : String) : Bool :=
  shape.length = s.length && (List.zipWith (fun p c => p c) shape s.toList).all id

/-- `DIGEST_RE`. -/
def digestShape : List (Char → Bool) :=
  "sha256:".toList.map (fun d c => c == d) ++ List.replicate 64 isHexDigit

/-- `UUIDV7_RE`. -/
def uuidV7Shape : List (Char → Bool) :=
  List.replicate 8 isHexDigit ++ [(· == '-')] ++ List.replicate 4 isHexDigit ++ [(· == '-')]
    ++ [(· == '7')] ++ List.replicate 3 isHexDigit ++ [(· == '-')]
    ++ [fun c => "89ab".toList.contains c] ++ List.replicate 3 isHexDigit ++ [(· == '-')]
    ++ List.replicate 12 isHexDigit

/-- `_valid_run_id`, of a value that is a text. -/
def validRunId (value : Option Json) : Option String :=
  (value.bind Json.asStr).filter (fullMatch uuidV7Shape)

/-- `_require_digest`. -/
def requireDigest (value : Option Json) (label : String) : Checked String :=
  match (value.bind Json.asStr).filter (fullMatch digestShape) with
  | some digest => .ok digest
  | none => .error (.safety (label ++ " must be canonical sha256:<64 lowercase hex>"))

/-- `TERMINAL_STATUSES`. -/
def terminalStatuses : List String :=
  ["completed", "degraded", "failed", "failed_policy", "cancelled"]

/-- `ACTIVE_STATUSES`. -/
def activeStatuses : List String :=
  ["queued", "preflight", "r1_running", "r1_gate", "r2_packet", "r2_running", "r2_gate", "r3_cc",
    "waiting_primary_arbiter", "merging", "cancelling"]

/-! ### The plan -/

/-- What a supervisor is started with. -/
structure Supervisor where
  platform : Platform
  python : Python
  planPath : String
  statePath : String
  home : String
  quinteBin : String
  runtimeSha256 : String

/-- A plan entry, normalized. -/
structure Entry where
  sequence : Nat
  brief : String
  briefSha256 : String
  deriving DecidableEq

def planFields : List String :=
  ["schema", "state_root", "runtime_sha256", "entries", "campaign_id", "created_at"]

def entryFields : List String := ["sequence", "brief", "brief_sha256", "batch_id", "label"]

variable (S : Supervisor)

/-- `_canonical_brief_digest`, of a value that was read. -/
def encodedDigest (path : String) (value : Json) : Checked String :=
  match value, valueBriefDigest S.platform path value with
  | _, .error message => .error (.safety message)
  | .obj members, .ok digest =>
      if S.python.encodes (canonicalBrief members) then .ok digest
      else .error (.uncaught "UnicodeEncodeError")
  | _, .ok digest => .ok digest

/-- `_canonical_brief_digest`, of a file. -/
def briefDigest (files : Files) (path : String) : Checked String :=
  match files.read path with
  | none => .error (.safety ("brief " ++ path ++ " is unreadable or malformed"))
  | some bytes => do
      let value ← readFile S.python ("brief " ++ path) bytes
      encodedDigest S path value

/-- The digest that an entry states, or else the one of its brief. -/
def expectedDigest (files : Files) (brief label : String) : Json → Checked String
  | .null => briefDigest S files brief
  | given => requireDigest (some given) label

/-- One round of the loop over the entries. -/
def loadEntry (files : Files) (index : Nat) (item : Json) : Checked Entry := do
  let label := "plan entry " ++ toString index
  match item with
  | .obj members =>
      safe (members.lookup "sequence" == some (.int index))
        "campaign plan sequences must be contiguous starting at 1"
      safe (unknownNames members entryFields).isEmpty
        (label ++ " has unknown fields: " ++ ", ".intercalate (unknownNames members entryFields))
      let brief ← absolute S.python files (members.lookup "brief") (label ++ " brief") true
      safe (files.isFile brief) (label ++ " brief is not a regular file: " ++ brief)
      let expected ← expectedDigest S files brief (label ++ " brief_sha256")
        (getOr members "brief_sha256" .null)
      let actual ← briefDigest S files brief
      safe (actual == expected)
        (label ++ " brief changed: expected " ++ expected ++ ", got " ++ actual)
      return { sequence := index, brief, briefSha256 := expected }
  | _ => .error (.safety "campaign plan sequences must be contiguous starting at 1")

/-- The loop over the entries. -/
def loadEntries (files : Files) : Nat → List Json → Checked (List Entry)
  | _, [] => .ok []
  | index, item :: items => do
      let entry ← loadEntry S files index item
      let entries ← loadEntries files (index + 1) items
      return entry :: entries

/-- The entries of a plan, from its member. -/
def loadItems (files : Files) : Option (List Json) → Checked (List Entry)
  | none => .error (.safety "campaign plan entries must be an array")
  | some items => do
      let entries ← loadEntries S files 1 items
      safe (!entries.isEmpty) "campaign plan must contain at least one entry"
      return entries

/-- `_load_plan`, of the bytes of the plan file. -/
def loadPlan (files : Files) (plan : Bytes) : Checked (String × List Entry) := do
  let value ← readFile S.python "campaign plan" plan
  match value with
  | .obj members =>
      safe (members.lookup "schema" == some (.str "quinte.contest.plan.v1"))
        "campaign plan schema must be quinte.contest.plan.v1"
      safe (unknownNames members planFields).isEmpty
        ("campaign plan has unknown fields: "
          ++ ", ".intercalate (unknownNames members planFields))
      safe (getOr members "state_root" .null != .null)
        "campaign plan must pin state_root explicitly"
      let home ← absolute S.python files (members.lookup "state_root") "plan state_root" false
      safe (home == S.home) "plan state_root does not equal pinned QUINTE_HOME"
      let runtime ← requireDigest (members.lookup "runtime_sha256") "plan runtime_sha256"
      safe (runtime == S.runtimeSha256)
        "plan runtime_sha256 does not equal the pinned runtime digest"
      let entries ← loadItems S files ((members.lookup "entries").bind Json.asArr)
      return (S.platform.sha256 plan, entries)
  | _ => .error (.safety "campaign plan schema must be quinte.contest.plan.v1")

/-! ### The state file -/

/-- `_initial_state`. -/
def initialState (planDigest now : String) : Json :=
  .obj [
    ("schema", .str "quinte.contest.supervisor-state.v1"),
    ("created_at", .str now),
    ("updated_at", .str now),
    ("plan_sha256", .str planDigest),
    ("state_root", .str S.home),
    ("quinte_bin", .str S.quinteBin),
    ("runtime_sha256", .str S.runtimeSha256),
    ("last_accepted_sequence", .int 0),
    ("next_sequence", .int 1),
    ("active", .null),
    ("acceptances", .arr []),
    ("last_observation", .null)]

/-- The member as an integer: `type(value) is int`. -/
def asInt : Json → Option Int
  | .int n => some n
  | _ => none

/-- `range(1, value)`, of a number: it takes no float. -/
def rangeTo : Option Json → Checked Unit
  | some (.float _) => .error (.uncaught "TypeError")
  | _ => .ok ()

/-- The loop over the acceptances; what comes back are their run ids. -/
def checkAcceptances : Nat → List String → List Json → Checked (List String)
  | _, seen, [] => .ok seen
  | index, seen, item :: items => do
      safe (item.isObject && item.get "sequence" == some (.int index))
        "supervisor acceptance history has a sequence gap"
      match validRunId (item.get "run_id") with
      | none => .error (.safety "supervisor acceptance history has an invalid run_id")
      | some runId => do
          safe (!seen.contains runId) "supervisor acceptance history reuses a run_id"
          let _ ← requireDigest (item.get "result_sha256") "supervisor accepted result_sha256"
          checkAcceptances (index + 1) (runId :: seen) items

/-- The checks of an active binding, `accepted` entries being accepted. -/
def checkBinding (next : Int) (accepted : Nat) (acceptedRunIds : List String) (active : Json) :
    Checked Unit := do
  safe (active.isObject && S.python.equals next (active.get "sequence"))
    "supervisor active binding is not the next sequence"
  rangeTo (active.get "sequence")
  safe (next == (accepted : Int) + 1) "supervisor active binding has an unaccepted predecessor"
  safe ((active.get "brief").bind Json.asStr).isSome "supervisor active binding has no brief"
  safe ((active.get "brief_sha256").bind Json.asStr).isSome
    "supervisor active binding has no brief_sha256"
  safe ((active.get "run_id").any (· != .null)) "supervisor has an unresolved launch intent"
  match validRunId (active.get "run_id") with
  | none => .error (.safety "supervisor active run_id is not canonical UUIDv7")
  | some runId =>
      safe (!acceptedRunIds.contains runId)
        "supervisor active binding reuses an accepted run_id"

/-- The checks of what stands under `active`. -/
def checkActive (next : Int) (accepted : Nat) (acceptedRunIds : List String) :
    Option Json → Checked Unit
  | none | some .null => .ok ()
  | some active => checkBinding S next accepted acceptedRunIds active

/-- What binds a state file to its campaign. -/
def bindings (planDigest : String) : List (String × String) :=
  [("plan_sha256", planDigest), ("state_root", S.home), ("quinte_bin", S.quinteBin),
    ("runtime_sha256", S.runtimeSha256)]

/-- Where a campaign stands: the cursor, the acceptances and their run ids. -/
structure Cursor where
  last : Int
  next : Int
  acceptances : List Json
  runIds : List String

/-- The checks of `_validate_state` before the active binding. -/
def checkCursor (state : Json) (planDigest : String) (count : Nat) : Checked Cursor := do
  safe (state.get "schema" == some (.str "quinte.contest.supervisor-state.v1"))
    "supervisor state schema must be quinte.contest.supervisor-state.v1"
  (bindings S planDigest).forM fun (key, expected) =>
    safe (state.get key == some (.str expected))
      ("supervisor state binding drifted for " ++ key)
  match (state.get "last_accepted_sequence").bind asInt,
      (state.get "next_sequence").bind asInt with
  | some last, some next => do
      safe (decide (0 ≤ last) && next == last + 1) "supervisor state sequence cursor is invalid"
      safe (decide (last ≤ count)) "supervisor state accepted sequence exceeds plan"
      match (state.get "acceptances").bind Json.asArr with
      | none => .error (.safety "supervisor acceptance history is not contiguous")
      | some acceptances => do
          let runIds ← checkAcceptances 1 [] acceptances
          return { last, next, acceptances, runIds }
  | _, _ => .error (.safety "supervisor state sequence cursor is invalid")

/-- `_validate_state`. -/
def validateState (state : Json) (planDigest : String) (count : Nat) : Checked Unit := do
  let cursor ← checkCursor S state planDigest count
  checkActive S cursor.next cursor.acceptances.length cursor.runIds (state.get "active")
  safe (cursor.last == cursor.acceptances.length)
    "supervisor acceptance history is not contiguous"

/-- `_validate_state`, of what the state file holds. -/
def readState (state : Json) (planDigest : String) (count : Nat) : Checked Unit :=
  if S.python.readable state then validateState S state planDigest count
  else .error (.uncaught "RecursionError")

/-! ### Processes -/

/-- `Invocation`. -/
structure Invocation where
  command : List String
  returncode : Option Int
  stdout : String
  stderr : String
  payload : Option Json
  parseError : Option String
  timedOut : Bool
  executionError : Option String

/-- The last characters of a text. -/
def lastChars (n : Nat) (s : String) : String := String.ofList (s.toList.drop (s.length - n))

/-- `Invocation.record`. -/
def Invocation.record (inv : Invocation) : Json :=
  .obj [
    ("command", .arr (inv.command.map Json.str)),
    ("returncode", (inv.returncode.map Json.int).getD .null),
    ("timed_out", .bool inv.timedOut),
    ("execution_error", (inv.executionError.map Json.str).getD .null),
    ("parse_error", (inv.parseError.map Json.str).getD .null),
    ("payload", inv.payload.getD .null),
    ("stderr", .str (lastChars 2000 inv.stderr)),
    ("stdout", if inv.payload.isNone then .str (lastChars 2000 inv.stdout) else .null)]

/-- `Invocation.output_ok`. -/
def Invocation.outputOk (inv : Invocation) : Bool :=
  !inv.timedOut && inv.executionError.isNone && inv.parseError.isNone

/-- How the process of a command ends. -/
inductive Process where
  | exited (code : Int) (stdout stderr : Bytes)
  | timedOut (stdout stderr : Option Bytes)
  /-- `OSError` -/
  | failed (message : String)

/-- The line ends of a stream that is read as text. -/
def translateNewlines : Json.Text → Json.Text
  | '\r' :: '\n' :: cs => '\n' :: translateNewlines cs
  | '\r' :: cs => '\n' :: translateNewlines cs
  | c :: cs => c :: translateNewlines cs
  | [] => []

/-- The text of a stream. -/
def decode (bytes : Bytes) : Checked Json.Text :=
  match fromUtf8 bytes with
  | some text => .ok text
  | none => .error (.uncaught "UnicodeDecodeError")

/-- `_parse_payload`. -/
def parsePayload (py : Python) (stdout : Json.Text) : Checked (Option Json × Option String) :=
  match py.loads stdout with
  | .error (.decode message) => .ok (none, some message)
  | .error (.limit kind) => .error (.uncaught kind)
  | .ok value =>
      if value.isObject then .ok (some value, none)
      else .ok (none, some "stdout JSON is not an object")

/-- `_run_command`. -/
def runCommand (py : Python) (command : List String) (timeout : Nat) :
    Process → Checked Invocation
  | .exited code out err => do
      let out ← decode out
      let err ← decode err
      let (payload, parseError) ← parsePayload py (translateNewlines out)
      return {
        command, payload, parseError
        returncode := some code
        stdout := String.ofList (translateNewlines out)
        stderr := String.ofList (translateNewlines err)
        timedOut := false
        executionError := none }
  | .timedOut out err => do
      let out ← decode (out.getD [])
      let err ← decode (err.getD [])
      let (payload, parseError) ← parsePayload py out
      return {
        command, payload, parseError
        returncode := none
        stdout := String.ofList out
        stderr := String.ofList err
        timedOut := true
        executionError := some ("timed out after " ++ toString timeout ++ "s") }
  | .failed message => .ok {
      command
      returncode := none
      stdout := ""
      stderr := ""
      payload := none
      parseError := none
      timedOut := false
      executionError := some message }

/-! ### Receipts -/

/-- The checks of `_receipt` before its path; what comes back are the data and
    the invocation id. -/
def receiptData (inv : Invocation) (operation : String) (runId : Option String)
    (allowNonzero : Bool) : Checked (Json × String) := do
  let host := "host " ++ operation
  match inv.payload with
  | none => .error (.safety (host ++ " produced malformed output: " ++ S.python.dumps inv.record))
  | some envelope => do
      safe inv.outputOk (host ++ " produced malformed output: " ++ S.python.dumps inv.record)
      safe (allowNonzero || inv.returncode == some 0)
        (host ++ " exited " ++ (inv.returncode.map toString).getD "None" ++ ": "
          ++ S.python.dumps inv.record)
      safe (envelope.get "ok" == some (.bool true)) (host ++ " envelope is not ok")
      match (envelope.get "data").filter Json.isObject with
      | none => .error (.safety (host ++ " has no data object"))
      | some data => do
          safe (data.get "host_receipt_version" == some (.str "1.0"))
            (host ++ " receipt version is not 1.0")
          safe (data.get "operation" == some (.str operation))
            ("expected " ++ host ++ " receipt, got "
              ++ S.python.repr ((data.get "operation").getD .null))
          safe (data.get "state_root" == some (.str S.home))
            (host ++ " receipt state_root does not match QUINTE_HOME")
          safe (runId.all fun id => data.get "run_id" == some (.str id))
            (host ++ " receipt run_id does not match active run")
          match validRunId (data.get "invocation_id") with
          | none => .error (.safety (host ++ " receipt invocation_id is not canonical UUIDv7"))
          | some invocationId => .ok (data, invocationId)

/-- The checks of `_receipt` from its path on. -/
def receiptPath (files : Files) (operation invocationId : String) (data : Json) :
    Checked Unit := do
  let host := "host " ++ operation
  safe ((data.get "receipt_path").bind Json.asStr).isSome (host ++ " receipt has no receipt_path")
  let path ← absolute S.python files (data.get "receipt_path") (host ++ " receipt_path") false
  safe (path == files.resolve (S.home ++ "/host/receipts/" ++ invocationId ++ ".json"))
    (host ++ " receipt_path is not bound to invocation_id")
  match (data.get "manifest").filter Json.isObject with
  | none => .ok ()
  | some manifest => do
      let runtime ← requireDigest (manifest.get "runtime_sha256") (host ++ " runtime_sha256")
      safe (runtime == S.runtimeSha256) (host ++ " reports a different runtime digest")

/-- `_receipt`. -/
def receipt (files : Files) (inv : Invocation) (operation : String) (runId : Option String)
    (allowNonzero : Bool) : Checked Json := do
  let (data, invocationId) ← receiptData S inv operation runId allowNonzero
  receiptPath S files operation invocationId data
  return data

/-- `_active_ids`. -/
def activeIds (data : Json) (operation : String) : Checked (List String) :=
  match ((data.get "state").bind (·.get "active_run_ids")).bind Json.asArr with
  | none => .error (.safety ("host " ++ operation ++ " receipt has malformed active_run_ids"))
  | some ids => match ids.mapM fun v => validRunId (some v) with
    | none => .error (.safety ("host " ++ operation ++ " receipt has invalid active run ids"))
    | some runIds =>
        if runIds.Nodup then .ok runIds
        else .error (.safety ("host " ++ operation ++ " receipt has invalid active run ids"))

/-- `_check_manifest`; what comes back is the status. -/
def checkManifest (data : Json) (entry : Entry) (operation : String) : Checked String :=
  match (data.get "manifest").filter Json.isObject with
  | none => .error (.safety ("host " ++ operation ++ " receipt has no manifest"))
  | some manifest => match manifest.get "status" with
    -- arrays and objects have no hash
    | some (.arr _) | some (.obj _) => .error (.uncaught "TypeError")
    | status => match (status.bind Json.asStr).filter
          (terminalStatuses ++ activeStatuses).contains with
      | none => .error (.safety ("host " ++ operation ++ " reports unknown status "
          ++ S.python.repr (status.getD .null)))
      | some status => do
          safe (manifest.get "brief_sha256" == some (.str entry.briefSha256))
            ("host " ++ operation ++ " brief binding does not match plan entry")
          return status

/-- What `_preflight` asks of the receipt. -/
def checkPreflight (files : Files) (inv : Invocation) : Checked Unit := do
  let data ← receipt S files inv "preflight" none true
  let ids ← activeIds data "preflight"
  let code := (data.get "state").bind (·.get "code")
  safe (code == some (.str "ready") && ids.isEmpty)
    ("preflight is not launch-safe: code=" ++ S.python.repr (code.getD .null)
      ++ ", active_run_ids=" ++ S.python.repr (.arr (ids.map Json.str)))
  safe (inv.returncode == some 0) "launch-safe preflight returned a nonzero process status"
  safe (((data.get "preflight").bind (·.get "ok")) == some (.bool true))
    "preflight receipt is not ok"

/-- What `_status` asks of the receipt; what comes back is the status. -/
def checkStatus (files : Files) (inv : Invocation) (runId : String) (entry : Entry) :
    Checked String := do
  let data ← receipt S files inv "status" (some runId) false
  let status ← checkManifest S data entry "status"
  let ids ← activeIds data "status"
  let shown := S.python.repr (.arr (ids.map Json.str))
  safe (!(activeStatuses.contains status && ids != [runId]))
    ("active status is ambiguous: " ++ shown)
  safe (!(terminalStatuses.contains status && !ids.isEmpty))
    ("terminal status still reports active runs: " ++ shown)
  return status

/-- What `_inspect_terminal` asks of the receipt. -/
def checkInspect (files : Files) (inv : Invocation) (runId : String) (entry : Entry)
    (expectedStatus : String) : Checked Json := do
  let data ← receipt S files inv "inspect" (some runId) true
  let status ← checkManifest S data entry "inspect"
  safe (status == expectedStatus) "status changed between host status and host inspect"
  safe (!(expectedStatus == "completed" && inv.returncode != some 0))
    "completed host inspect returned a nonzero process status"
  return data

/-- `_verify_completed_result`, of the receipt of an inspect for this run. -/
def verifyCompletedResult (files : Files) (data : Json) (runId : String) (entry : Entry)
    (now : String) : Checked Json := do
  match (data.get "result").filter Json.isObject, (data.get "manifest").filter Json.isObject with
  | some result, some manifest => do
      safe (result.get "verified" == some (.bool true)
          && result.get "actionable" == some (.bool true))
        "terminal result is not verified and actionable"
      let digest ← requireDigest (result.get "sha256") "terminal result sha256"
      safe (manifest.get "result_sha256" == some (.str digest))
        "terminal result digest does not match manifest"
      let path ← absolute S.python files (result.get "path") "terminal result path" true
      let runsRoot := files.resolve (S.home ++ "/runs")
      safe (path == runsRoot || (runsRoot ++ "/").toList.isPrefixOf path.toList)
        "terminal result path escapes QUINTE_HOME/runs"
      safe (path == files.resolve (runsRoot ++ "/" ++ runId ++ "/result.json"))
        "terminal result path is not the active run's result.json"
      safe (files.isFile path) "terminal result bytes do not match inspect digest"
      match files.read path with
      | none => .error (.safety ("cannot hash " ++ path))
      | some bytes => do
          safe (S.platform.sha256 bytes == digest)
            "terminal result bytes do not match inspect digest"
          safe (manifest.get "brief_sha256" == some (.str entry.briefSha256))
            "terminal result brief binding does not match plan entry"
          safe (((result.get "contract_version").bind Json.asStr).any (!·.isEmpty))
            "terminal result has no contract_version"
          return .obj [
            ("run_id", .str runId),
            ("sequence", .int entry.sequence),
            ("result_sha256", .str digest),
            ("contract_version", (result.get "contract_version").getD .null),
            ("inspect_invocation_id", (data.get "invocation_id").getD .null),
            ("accepted_at", .str now)]
  | _, _ => .error (.safety "completed inspect has no result binding")

/-- What is asked of the receipt of a start; what comes back is the run id. -/
def checkStart (files : Files) (inv : Invocation) (entry : Entry) (acceptedRunIds : List String) :
    Checked String := do
  let data ← receipt S files inv "start" none false
  match validRunId (data.get "run_id") with
  | none => .error (.safety "host start did not return a canonical run_id")
  | some runId => do
      safe (!acceptedRunIds.contains runId) "host start reused an accepted campaign run_id"
      safe (((data.get "state").bind (·.get "code")) == some (.str "started"))
        "host start did not return state.code=started"
      let ids ← activeIds data "start"
      safe (ids == [runId]) "host start active run set is not exactly the new run"
      let _ ← checkManifest S data entry "start"
      return runId

end Quinte.Contest
