import Mathlib
import Quinte.Contest.Campaign

/-! # Values that a check does not survive

    A check of the supervisor either passes or raises a `SafetyError`, except on
    the values that make Python raise an error of its own.  `Exact` says of a
    check on which values that is.
-/

namespace Quinte.Contest

open Finance (Bytes fromUtf8)

/-! ### Checks -/

/-- The check raises an error of Python's own exactly if `m`, and never ends the
    campaign by itself. -/
def Exact {α : Type} (r : Checked α) (m : Prop) : Prop :=
  match r with
  | .ok _ | .error (.safety _) => ¬ m
  | .error (.uncaught _) => m
  | .error (.halted _) | .error .lockBusy => False

section exact

variable {α β : Type} {x : Checked α} {f : α → Checked β} {m m' : Prop}

theorem Exact.congr (h : Exact x m) (hiff : m ↔ m') : Exact x m' := by
  rwa [← propext hiff]

end exact

/-! ### Paths and texts -/

/-- An absolute path with a null character. -/
def NullPath (value : Option Json) : Prop :=
  ∃ path : String, value = some (.str path) ∧ path.toList.head? = some '/' ∧
    '\x00' ∈ path.toList

/-- A text that the interpreter's limits keep from being read. -/
def BeyondLimits (py : Python) (text : Json.Text) : Prop :=
  ∃ kind, py.loads text = .error (.limit kind)

section files

variable (S : Supervisor) (files : Files)

/-- A brief that cannot be read, or whose canonical form cannot be encoded. -/
def MalformedBrief (path : String) : Prop :=
  ∃ bytes, files.read path = some bytes ∧
    ((∃ text, fromUtf8 bytes = some text ∧ BeyondLimits S.python text) ∨
      ∃ members digest, readFile S.python ("brief " ++ path) bytes = .ok (.obj members) ∧
        valueBriefDigest S.platform path (.obj members) = .ok digest ∧
        S.python.encodes (canonicalBrief members) = false)

/-- An entry that is in order up to a path with a null character, or up to a
    malformed brief. -/
def MalformedEntry (index : Nat) (item : Json) : Prop :=
  ∃ members, item = .obj members ∧
    members.lookup "sequence" = some (.int index) ∧
    (unknownNames members entryFields).isEmpty = true ∧
    (NullPath (members.lookup "brief") ∨
      ∃ brief, absolute S.python files (members.lookup "brief")
          ("plan entry " ++ toString index ++ " brief") true = .ok brief ∧
        files.isFile brief = true ∧ MalformedBrief S files brief ∧
        (getOr members "brief_sha256" .null = .null ∨
          ∃ digest, requireDigest (some (getOr members "brief_sha256" .null))
            ("plan entry " ++ toString index ++ " brief_sha256") = .ok digest))

/-- The first entry that does not load is malformed. -/
def MalformedEntries : Nat → List Json → Prop
  | _, [] => False
  | index, item :: items => MalformedEntry S files index item ∨
      ∃ entry, loadEntry S files index item = .ok entry ∧ MalformedEntries (index + 1) items

/-- A plan that cannot be read, or that is in order up to a path with a null
    character or a malformed entry. -/
def MalformedPlan (plan : Bytes) : Prop :=
  (∃ text, fromUtf8 plan = some text ∧ BeyondLimits S.python text) ∨
    ∃ members, readFile S.python "campaign plan" plan = .ok (.obj members) ∧
      members.lookup "schema" = some (.str "quinte.contest.plan.v1") ∧
      (unknownNames members planFields).isEmpty = true ∧
      (getOr members "state_root" .null != .null) = true ∧
      (NullPath (members.lookup "state_root") ∨
        absolute S.python files (members.lookup "state_root") "plan state_root" false = .ok S.home ∧
        requireDigest (members.lookup "runtime_sha256") "plan runtime_sha256"
          = .ok S.runtimeSha256 ∧
        ∃ items, members.lookup "entries" = some (.arr items) ∧ MalformedEntries S files 1 items)

end files

/-! ### The state file -/

section state

variable (S : Supervisor)

/-- An active binding whose sequence is the next one, as a float. -/
def FloatSequence (next : Int) (active : Option Json) : Prop :=
  ∃ binding text, active = some binding ∧ binding.isObject = true ∧
    binding.get "sequence" = some (.float text) ∧ S.python.floatIs text next = true

/-- A state that cannot be read back, or that is in order up to an active
    binding with a float. -/
def MalformedState (state : Json) (planDigest : String) (count : Nat) : Prop :=
  S.python.readable state = false ∨
    S.python.readable state = true ∧ ∃ cursor, checkCursor S state planDigest count = .ok cursor ∧
      FloatSequence S cursor.next (state.get "active")

end state

/-! ### Processes -/

/-- Output that is not a text, or a text beyond the interpreter's limits. -/
def MalformedOutput (py : Python) : Process → Prop
  | .exited _ out err => fromUtf8 out = none ∨ fromUtf8 err = none ∨
      ∃ text, fromUtf8 out = some text ∧ BeyondLimits py (translateNewlines text)
  | .timedOut out err => fromUtf8 (out.getD []) = none ∨ fromUtf8 (err.getD []) = none ∨
      ∃ text, fromUtf8 (out.getD []) = some text ∧ BeyondLimits py text
  | .failed _ => False

section receipts

variable (S : Supervisor) (files : Files) (inv : Invocation)

/-- A receipt that is in order up to a path with a null character. -/
def MalformedReceipt (operation : String) (runId : Option String) (allowNonzero : Bool) : Prop :=
  ∃ data invocationId, receiptData S inv operation runId allowNonzero = .ok (data, invocationId) ∧
    NullPath (data.get "receipt_path")

/-- The status of the manifest is an array or an object. -/
def Unhashable (data : Json) : Prop :=
  ∃ manifest status, data.get "manifest" = some manifest ∧ manifest.isObject = true ∧
    manifest.get "status" = some status ∧ (status.isObject = true ∨ status.asArr.isSome = true)

/-- A receipt that is in order up to a path with a null character, or up to a
    status that has no hash. -/
def MalformedBinding (operation runId : String) (allowNonzero : Bool) : Prop :=
  MalformedReceipt S inv operation (some runId) allowNonzero ∨
    ∃ data, receipt S files inv operation (some runId) allowNonzero = .ok data ∧ Unhashable data

/-- A result that is in order up to a path with a null character. -/
def MalformedResult (data : Json) : Prop :=
  ∃ result manifest digest, data.get "result" = some result ∧ result.isObject = true ∧
    data.get "manifest" = some manifest ∧ manifest.isObject = true ∧
    result.get "verified" = some (.bool true) ∧ result.get "actionable" = some (.bool true) ∧
    requireDigest (result.get "sha256") "terminal result sha256" = .ok digest ∧
    manifest.get "result_sha256" = some (.str digest) ∧ NullPath (result.get "path")

/-- A receipt of a start that is in order up to a path with a null character, or
    up to a status that has no hash. -/
def MalformedStart (accepted : List String) : Prop :=
  MalformedReceipt S inv "start" none false ∨
    ∃ data runId, receipt S files inv "start" none false = .ok data ∧
      validRunId (data.get "run_id") = some runId ∧ runId ∉ accepted ∧
      (data.get "state").bind (·.get "code") = some (.str "started") ∧
      activeIds data "start" = .ok [runId] ∧ Unhashable data

end receipts

/-! ### Looks -/

section looks

variable (S : Supervisor) (plan : Bytes)

/-- What the supervisor looks at makes Python raise an error of its own. -/
def Malformed : Look → Prop
  | .binary _ => False
  | .plan files => MalformedPlan S files plan
  | .stateFile state planDigest count => MalformedState S state planDigest count
  | .entry entries state => entries.length ≤ (nextSequence state - 1).toNat
  | .process process => MalformedOutput S.python process
  | .preflight _ inv => MalformedReceipt S inv "preflight" none true
  | .status files inv runId _ => MalformedBinding S files inv "status" runId false
  | .inspect files inv runId _ _ => MalformedBinding S files inv "inspect" runId true
  | .result _ data _ _ => MalformedResult data
  | .start files inv _ accepted => MalformedStart S files inv accepted
  | .written value => S.python.encodes value = false

end looks

end Quinte.Contest
