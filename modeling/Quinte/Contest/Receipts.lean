import Mathlib
import Quinte.Contest.Supervisor

/-! # What passed checks say

    One lemma for each check of the supervisor: what a value holds that passed it.
-/

namespace Quinte.Contest

open Program

section checked

variable {α β : Type}

theorem safe_ok {b : Bool} {detail : String} : safe b detail = .ok () ↔ b = true := by
  cases b <;> simp [safe]

theorem checked_bind_ok {x : Checked α} {f : α → Checked β} {b : β} :
    x >>= f = .ok b ↔ ∃ a, x = .ok a ∧ f a = .ok b := by
  cases x with
  | error e => exact ⟨fun h => (nomatch h), fun ⟨_, h, _⟩ => (nomatch h)⟩
  | ok a => exact ⟨fun h => ⟨a, rfl, h⟩, fun ⟨_, ha, h⟩ => Except.ok.inj ha ▸ h⟩

theorem safe_bind_ok {b : Bool} {detail : String} {f : Unit → Checked β} {c : β} :
    safe b detail >>= f = .ok c ↔ b = true ∧ f () = .ok c := by
  rw [checked_bind_ok]
  exact ⟨fun ⟨_, hb, hf⟩ => ⟨safe_ok.mp hb, hf⟩, fun ⟨hb, hf⟩ => ⟨(), safe_ok.mpr hb, hf⟩⟩

end checked

/-! ### Receipts -/

/-- The data of a receipt. -/
def Invocation.data (inv : Invocation) : Option Json := inv.payload.bind (·.get "data")

/-- The manifest of a receipt. -/
def Invocation.manifest (inv : Invocation) : Option Json := inv.data.bind (·.get "manifest")

variable {S : Supervisor} {files : Files} {inv : Invocation} {runId : String} {entry : Entry}

theorem receiptData_ok {operation invocationId : String} {wanted : Option String}
    {allowNonzero : Bool} {data : Json}
    (h : receiptData S inv operation wanted allowNonzero = .ok (data, invocationId)) :
    inv.data = some data ∧ ∀ id, wanted = some id → data.get "run_id" = some (.str id) := by
  unfold receiptData at h
  dsimp only at h
  unfold Invocation.data
  cases hpayload : inv.payload with
  | none =>
    rw [hpayload] at h
    cases h
  | some envelope =>
    rw [hpayload] at h
    simp only [safe_bind_ok] at h
    obtain ⟨-, -, -, h⟩ := h
    split at h
    · cases h
    next data' hdata =>
    simp only [safe_bind_ok] at h
    obtain ⟨-, -, -, hrun, h⟩ := h
    split at h
    · cases h
    obtain ⟨rfl, -⟩ := Prod.mk.inj (Except.ok.inj h)
    refine ⟨(Option.filter_eq_some_iff.mp hdata).1, ?_⟩
    intro id hid
    subst hid
    simpa using hrun

theorem receipt_ok {operation : String} {wanted : Option String} {allowNonzero : Bool} {data : Json}
    (h : receipt S files inv operation wanted allowNonzero = .ok data) :
    inv.data = some data ∧ ∀ id, wanted = some id → data.get "run_id" = some (.str id) := by
  unfold receipt at h
  rw [checked_bind_ok] at h
  obtain ⟨⟨data', invocationId⟩, hdata, h⟩ := h
  dsimp only at h
  rw [checked_bind_ok] at h
  obtain ⟨_, -, h⟩ := h
  obtain rfl := Except.ok.inj h
  exact receiptData_ok hdata

theorem checkManifest_ok {data : Json} {operation status : String}
    (h : checkManifest S data entry operation = .ok status) :
    ∃ manifest, data.get "manifest" = some manifest ∧
      manifest.get "status" = some (.str status) ∧
      manifest.get "brief_sha256" = some (.str entry.briefSha256) := by
  unfold checkManifest at h
  split at h
  · cases h
  next manifest hmanifest =>
  refine ⟨manifest, (Option.filter_eq_some_iff.mp hmanifest).1, ?_⟩
  split at h
  · cases h
  · cases h
  · split at h
    · cases h
    next status' hstatus =>
    rw [safe_bind_ok] at h
    obtain ⟨hbrief, h⟩ := h
    obtain rfl := Except.ok.inj h
    obtain ⟨value, hvalue, hstr⟩ :=
      Option.bind_eq_some_iff.mp (Option.filter_eq_some_iff.mp hstatus).1
    cases value with
    | str s =>
      obtain rfl := Option.some.inj hstr
      exact ⟨hvalue, by simpa using hbrief⟩
    | _ => cases hstr

theorem checkStatus_ok {status : String} (h : checkStatus S files inv runId entry = .ok status) :
    inv.manifest.bind (·.get "status") = some (.str status) := by
  unfold checkStatus at h
  rw [checked_bind_ok] at h
  obtain ⟨data, hreceipt, h⟩ := h
  rw [checked_bind_ok] at h
  obtain ⟨status', hmanifest, h⟩ := h
  rw [checked_bind_ok] at h
  obtain ⟨ids, -, h⟩ := h
  simp only [safe_bind_ok] at h
  obtain ⟨-, -, h⟩ := h
  obtain rfl := Except.ok.inj h
  obtain ⟨manifest, hget, hstatus, -⟩ := checkManifest_ok hmanifest
  unfold Invocation.manifest
  rw [(receipt_ok hreceipt).1, Option.bind_some, hget]
  exact hstatus

theorem checkInspect_ok {status : String} {data : Json}
    (h : checkInspect S files inv runId entry status = .ok data) :
    inv.data = some data ∧ data.get "run_id" = some (.str runId) ∧
      inv.manifest.bind (·.get "brief_sha256") = some (.str entry.briefSha256) := by
  unfold checkInspect at h
  rw [checked_bind_ok] at h
  obtain ⟨data', hreceipt, h⟩ := h
  rw [checked_bind_ok] at h
  obtain ⟨status', hmanifest, h⟩ := h
  simp only [safe_bind_ok] at h
  obtain ⟨-, -, h⟩ := h
  obtain rfl := Except.ok.inj h
  obtain ⟨hdata, hrun⟩ := receipt_ok hreceipt
  obtain ⟨manifest, hget, -, hbrief⟩ := checkManifest_ok hmanifest
  refine ⟨hdata, hrun runId rfl, ?_⟩
  unfold Invocation.manifest
  rw [hdata, Option.bind_some, hget]
  exact hbrief

theorem requireDigest_ok {value : Option Json} {label digest : String}
    (h : requireDigest value label = .ok digest) : value = some (.str digest) := by
  unfold requireDigest at h
  split at h
  next digest' hdigest =>
    obtain rfl := Except.ok.inj h
    obtain ⟨v, hv, hstr⟩ := Option.bind_eq_some_iff.mp (Option.filter_eq_some_iff.mp hdigest).1
    cases v with
    | str s =>
      obtain rfl := Option.some.inj hstr
      exact hv
    | _ => cases hstr
  · cases h

/-- The bytes of the result of a run, as the file system shows them. -/
def Files.resultOf (files : Files) (home runId : String) (bytes : Finance.Bytes) : Prop :=
  files.read (files.resolve (files.resolve (home ++ "/runs") ++ "/" ++ runId ++ "/result.json"))
    = some bytes

/-- What an acceptance says of an entry. -/
structure Accepts (acceptance : Json) (sequence : Nat) (runId digest : String) : Prop where
  sequence : acceptance.get "sequence" = some (.int sequence)
  runId : acceptance.get "run_id" = some (.str runId)
  digest : acceptance.get "result_sha256" = some (.str digest)

theorem verifyCompletedResult_ok {data acceptance : Json} {now : String}
    (h : verifyCompletedResult S files data runId entry now = .ok acceptance) :
    ∃ digest bytes, Accepts acceptance entry.sequence runId digest ∧
      (data.get "result").bind (·.get "sha256") = some (.str digest) ∧
      files.resultOf S.home runId bytes ∧ S.platform.sha256 bytes = digest := by
  unfold verifyCompletedResult at h
  split at h
  case h_2 => cases h
  next result manifest hresult hmanifest =>
  simp only [↓safe_bind_ok, checked_bind_ok] at h
  obtain ⟨-, digest, hdigest, -, path, -, -, hpath, -, h⟩ := h
  split at h
  · cases h
  next bytes hbytes =>
  simp only [safe_bind_ok] at h
  obtain ⟨hsame, -, -, h⟩ := h
  obtain rfl := Except.ok.inj h
  have hresolved := eq_of_beq hpath
  refine ⟨digest, bytes, ⟨rfl, rfl, rfl⟩, ?_, by rw [Files.resultOf, ← hresolved, hbytes],
    by simpa using hsame⟩
  rw [(Option.filter_eq_some_iff.mp hresult).1]
  exact requireDigest_ok hdigest

theorem validRunId_eq_some {value : Option Json} (h : validRunId value = some runId) :
    value = some (.str runId) := by
  obtain ⟨v, hv, hstr⟩ := Option.bind_eq_some_iff.mp (Option.filter_eq_some_iff.mp h).1
  cases v with
  | str s =>
    obtain rfl := Option.some.inj hstr
    exact hv
  | _ => cases hstr

theorem checkStart_ok {accepted : List String}
    (h : checkStart S files inv entry accepted = .ok runId) :
    inv.data.bind (·.get "run_id") = some (.str runId) ∧ runId ∉ accepted := by
  unfold checkStart at h
  rw [checked_bind_ok] at h
  obtain ⟨data, hreceipt, h⟩ := h
  split at h
  · cases h
  next id hid =>
  simp only [↓safe_bind_ok, checked_bind_ok] at h
  obtain ⟨hnew, -, ids, -, -, status, -, h⟩ := h
  obtain rfl := Except.ok.inj h
  refine ⟨?_, by simpa using hnew⟩
  rw [(receipt_ok hreceipt).1]
  exact validRunId_eq_some hid

/-! ### The files -/

theorem checkActive_ok {next : Int} {accepted : Nat} {acceptedRunIds : List String} {active : Json}
    (h : checkActive S next accepted acceptedRunIds (some active) = .ok ())
    (hnull : active ≠ .null) : ∃ runId, active.get "run_id" = some (.str runId) := by
  have hbinding : checkBinding S next accepted acceptedRunIds active = .ok () := by
    cases active with
    | null => exact (hnull rfl).elim
    | _ => exact h
  unfold checkBinding at hbinding
  simp only [↓safe_bind_ok, checked_bind_ok] at hbinding
  obtain ⟨-, _, -, -, -, -, -, hrun⟩ := hbinding
  split at hrun
  · cases hrun
  next runId hvalid =>
  exact ⟨runId, validRunId_eq_some hvalid⟩

/-- An active binding of a state that passed the checks has a run id. -/
theorem validateState_active {state active : Json} {planDigest : String} {count : Nat}
    (h : validateState S state planDigest count = .ok ())
    (hactive : state.get "active" = some active) (hnull : active ≠ .null) :
    ∃ runId, active.get "run_id" = some (.str runId) := by
  unfold validateState at h
  rw [checked_bind_ok] at h
  obtain ⟨cursor, -, h⟩ := h
  rw [checked_bind_ok] at h
  obtain ⟨_, hchecked, -⟩ := h
  rw [hactive] at hchecked
  exact checkActive_ok hchecked hnull

theorem readState_active {state active : Json} {planDigest : String} {count : Nat}
    (h : readState S state planDigest count = .ok ())
    (hactive : state.get "active" = some active) (hnull : active ≠ .null) :
    ∃ runId, active.get "run_id" = some (.str runId) := by
  unfold readState at h
  split at h
  · exact validateState_active h hactive hnull
  · cases h

theorem loadEntry_sequence {index : Nat} {item : Json}
    (h : loadEntry S files index item = .ok entry) : entry.sequence = index := by
  unfold loadEntry at h
  dsimp only at h
  split at h
  case h_2 => cases h
  simp only [↓safe_bind_ok, checked_bind_ok] at h
  obtain ⟨-, -, brief, -, -, expected, -, actual, -, -, h⟩ := h
  obtain rfl := Except.ok.inj h
  rfl

theorem loadEntries_sequence {items : List Json} {index : Nat} {entries : List Entry}
    (h : loadEntries S files index items = .ok entries) {i : Nat} (hi : entries[i]? = some entry) :
    entry.sequence = index + i := by
  induction items generalizing index entries i with
  | nil =>
    obtain rfl := Except.ok.inj h
    cases hi
  | cons item items ih =>
    rw [loadEntries, checked_bind_ok] at h
    obtain ⟨first, hfirst, h⟩ := h
    rw [checked_bind_ok] at h
    obtain ⟨rest, hrest, h⟩ := h
    obtain rfl := Except.ok.inj h
    cases i with
    | zero =>
      obtain rfl := Option.some.inj hi
      exact loadEntry_sequence hfirst
    | succ i =>
      have hsequence := ih hrest hi
      omega

theorem loadPlan_sequence {plan : Finance.Bytes} {planDigest : String} {entries : List Entry}
    (h : loadPlan S files plan = .ok (planDigest, entries)) {i : Nat}
    (hi : entries[i]? = some entry) : entry.sequence = i + 1 := by
  unfold loadPlan at h
  rw [checked_bind_ok] at h
  obtain ⟨value, -, h⟩ := h
  split at h
  case h_2 => cases h
  simp only [↓safe_bind_ok, checked_bind_ok] at h
  obtain ⟨-, -, -, home, -, -, runtime, -, -, loaded, hloaded, h⟩ := h
  obtain ⟨-, rfl⟩ := Prod.mk.inj (Except.ok.inj h)
  unfold loadItems at hloaded
  split at hloaded
  · cases hloaded
  rw [checked_bind_ok] at hloaded
  obtain ⟨all, hall, hloaded⟩ := hloaded
  rw [safe_bind_ok] at hloaded
  obtain ⟨-, hloaded⟩ := hloaded
  obtain rfl := Except.ok.inj hloaded
  rw [loadEntries_sequence hall hi, Nat.add_comm]

end Quinte.Contest
