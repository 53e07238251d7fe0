import Mathlib
import Quinte.Framework.Decode
import Quinte.Model.Policy

/-! # The policy file

    `policy::load` and its two variants, from the JSON document that is stored:
    a version 1 document is normalized first, and then either is read into one
    record with optional members.  A panic is told apart from an error.

    * `normalizeV1Policy_complete`: the normalization supplies what the reader
      later expects;
    * `loading_total_iff`: for which documents no loader panics.
-/

namespace Quinte

namespace Policy

open Json (Decoder)

/-- How a loader fails. -/
inductive Failure where
  | error (message : String)
  | panic (message : String)
  deriving DecidableEq, Repr

/-- `bail!`. -/
def bail {α : Type} (message : String) : Except Failure α :=
  .error (.error message)

/-- `expect`. -/
def expect {α : Type} (o : Option α) (message : String) : Except Failure α :=
  match o with
  | some a => .ok a
  | none => .error (.panic message)

/-- A check that fails with its message. -/
def lift {α : Type} (x : Except String α) : Except Failure α :=
  x.mapError .error

/-! ### Reading the records -/

def seatFields : List String :=
  ["seat_id", "family", "provider", "text_model", "multimodal_model"]

def decodeSeat : Decoder SeatBinding := fun v => do
  let look ← Decoder.fields seatFields v
  return {
    seatId := ← Decoder.required look "seat_id" Decoder.string
    family := ← Decoder.required look "family" Decoder.string
    provider := ← Decoder.required look "provider" Decoder.string
    textModel := ← Decoder.required look "text_model" Decoder.string
    multimodalModel := ← Decoder.required look "multimodal_model" Decoder.string }

def routeFields : List String :=
  ["party_id", "route_id", "adapter", "executable", "required", "family", "provider", "text_model",
    "multimodal_model", "perspective"]

def decodeRoute : Decoder RoutePolicy := fun v => do
  let look ← Decoder.fields routeFields v
  return {
    partyId := ← Decoder.required look "party_id" Decoder.string
    routeId := ← Decoder.required look "route_id" Decoder.string
    adapter := ← Decoder.required look "adapter" Decoder.string
    executable := ← Decoder.required look "executable" Decoder.string
    required := ← Decoder.required look "required" Decoder.bool
    family := ← Decoder.required look "family" Decoder.string
    provider := ← Decoder.required look "provider" Decoder.string
    textModel := ← Decoder.required look "text_model" Decoder.string
    multimodalModel := ← Decoder.required look "multimodal_model" Decoder.string
    perspective := ← Decoder.defaulted look "perspective" Decoder.string "" }

def sandboxName : SandboxMode → String
  | .strict => "strict"
  | .process => "process"

/-- `CompatiblePolicy`. -/
structure CompatiblePolicy where
  policyVersion : String
  seat : Option SeatBinding
  roster : List RoutePolicy
  counterpartArbiter : Option RoutePolicy
  auditor : Option RoutePolicy
  primaryArbiter : Option RoutePolicy
  autoPrimaryArbiter : Bool
  textModel : String
  multimodalModel : String
  maxParallelR1 : Nat
  maxParallelR2 : Nat
  r2Parallel : Bool
  maxAttempts : Nat
  timeoutSeconds : Nat
  r1TimeoutSeconds : Option Nat
  r2TimeoutSeconds : Option Nat
  r3TimeoutSeconds : Option Nat
  retryBackoffSeconds : Nat
  retryBackoffMaxSeconds : Nat
  r2MinIntervalSeconds : Nat
  maxOutputBytes : Nat
  maxSnapshotFiles : Nat
  maxSnapshotBytes : Nat
  maxAttachmentBytes : Nat
  sandboxMode : SandboxMode

def compatibleFields : List String :=
  ["policy_version", "seat", "roster", "counterpart_arbiter", "auditor", "primary_arbiter",
    "auto_primary_arbiter", "text_model", "multimodal_model", "max_parallel_r1", "max_parallel_r2",
    "r2_parallel", "max_attempts", "timeout_seconds", "r1_timeout_seconds", "r2_timeout_seconds",
    "r3_timeout_seconds", "retry_backoff_seconds", "retry_backoff_max_seconds",
    "r2_min_interval_seconds", "max_output_bytes", "max_snapshot_files", "max_snapshot_bytes",
    "max_attachment_bytes", "sandbox_mode"]

/-- `deserialize_present_route`: a route that is there may not be null. -/
def decodePresentRoute : Decoder (Option RoutePolicy) := fun v => (decodeRoute v).map some

def decodeCompatible : Decoder CompatiblePolicy := fun v => do
  let look ← Decoder.fields compatibleFields v
  return {
    policyVersion := ← Decoder.required look "policy_version" Decoder.string
    seat := ← Decoder.defaulted look "seat" (Decoder.option decodeSeat) none
    roster := ← Decoder.required look "roster" (Decoder.list decodeRoute)
    counterpartArbiter := ← Decoder.defaulted look "counterpart_arbiter" decodePresentRoute none
    auditor := ← Decoder.defaulted look "auditor" decodePresentRoute none
    primaryArbiter := ← Decoder.defaulted look "primary_arbiter" (Decoder.option decodeRoute) none
    autoPrimaryArbiter := ← Decoder.defaulted look "auto_primary_arbiter" Decoder.bool false
    textModel := ← Decoder.required look "text_model" Decoder.string
    multimodalModel := ← Decoder.required look "multimodal_model" Decoder.string
    maxParallelR1 := ← Decoder.required look "max_parallel_r1" Decoder.uint64
    maxParallelR2 := ← Decoder.required look "max_parallel_r2" Decoder.uint64
    r2Parallel := ← Decoder.defaulted look "r2_parallel" Decoder.bool false
    maxAttempts := ← Decoder.required look "max_attempts" Decoder.uint64
    timeoutSeconds := ← Decoder.required look "timeout_seconds" Decoder.uint64
    r1TimeoutSeconds :=
      ← Decoder.defaulted look "r1_timeout_seconds" (Decoder.option Decoder.uint64) none
    r2TimeoutSeconds :=
      ← Decoder.defaulted look "r2_timeout_seconds" (Decoder.option Decoder.uint64) none
    r3TimeoutSeconds :=
      ← Decoder.defaulted look "r3_timeout_seconds" (Decoder.option Decoder.uint64) none
    retryBackoffSeconds := ← Decoder.required look "retry_backoff_seconds" Decoder.uint64
    retryBackoffMaxSeconds := ← Decoder.required look "retry_backoff_max_seconds" Decoder.uint64
    r2MinIntervalSeconds := ← Decoder.required look "r2_min_interval_seconds" Decoder.uint64
    maxOutputBytes := ← Decoder.required look "max_output_bytes" Decoder.uint64
    maxSnapshotFiles := ← Decoder.required look "max_snapshot_files" Decoder.uint64
    maxSnapshotBytes := ← Decoder.required look "max_snapshot_bytes" Decoder.uint64
    maxAttachmentBytes := ← Decoder.required look "max_attachment_bytes" Decoder.uint64
    sandboxMode := ← Decoder.required look "sandbox_mode"
      (Decoder.variant [.strict, .process] sandboxName) }

/-! ### Version 1 -/

/-- `route`. -/
def legacyRoute (partyId routeId adapter executable : String) : RoutePolicy where
  partyId := partyId
  routeId := routeId
  adapter := adapter
  executable := executable
  required := true
  family := "mimo"
  provider := "xiaomi-token-plan-cn"
  textModel := "mimo-v2.5-pro"
  multimodalModel := "mimo-v2.5"
  perspective := ""

/-- `legacy_seat_binding`. -/
def legacySeatBinding : SeatBinding where
  seatId := "legacy-mimo"
  family := "mimo"
  provider := "xiaomi-token-plan-cn"
  textModel := "mimo-v2.5-pro"
  multimodalModel := "mimo-v2.5"

def seatValue (seat : SeatBinding) : Json :=
  .obj [("seat_id", .str seat.seatId), ("family", .str seat.family),
    ("provider", .str seat.provider), ("text_model", .str seat.textModel),
    ("multimodal_model", .str seat.multimodalModel)]

/-- A route as it is written: an empty perspective is left out. -/
def routeValue (route : RoutePolicy) : Json :=
  .obj ([("party_id", .str route.partyId), ("route_id", .str route.routeId),
    ("adapter", .str route.adapter), ("executable", .str route.executable),
    ("required", .bool route.required), ("family", .str route.family),
    ("provider", .str route.provider), ("text_model", .str route.textModel),
    ("multimodal_model", .str route.multimodalModel)]
      ++ if route.perspective = "" then [] else [("perspective", .str route.perspective)])

/-- `add_binding`. -/
def addBinding (value : Json) (seat : SeatBinding) : Except Failure Json :=
  if value.isObject then
    .ok ((((value.set "family" (.str seat.family)).set "provider" (.str seat.provider)).set
      "text_model" (.str seat.textModel)).set "multimodal_model" (.str seat.multimodalModel))
  else bail "route must be a JSON object"

/-- One round of the loop over the members that hold routes. -/
def bindRoute (seat : SeatBinding) (name : String) (value : Json) : Except Failure Json :=
  match value.get name with
  | some (.arr routes) => do
      let routes ← routes.mapM (addBinding · seat)
      return value.set name (.arr routes)
  | some (.obj members) => do
      let route ← addBinding (.obj members) seat
      return value.set name route
  | _ => .ok value

/-- The loop over the members that hold routes in `normalize_v1_policy`. -/
def bindRoutes (seat : SeatBinding) : List String → Json → Except Failure Json
  | [], value => .ok value
  | name :: names, value => do
    let value ← bindRoute seat name value
    bindRoutes seat names value

/-- `normalize_v1_policy`. -/
def normalizeV1Policy (raw : Json) : Except Failure Json := do
  if !raw.isObject then bail "policy must be a JSON object"
  else
    let seat := legacySeatBinding
    let value := (raw.set "policy_version" (.str "2.0")).set "seat" (seatValue seat)
    let value ← bindRoutes seat ["roster", "counterpart_arbiter", "auditor"] value
    return (value.set "primary_arbiter"
      (routeValue (legacyRoute "Primary Arbiter" "pa" "omp" "omp"))).set
        "auto_primary_arbiter" (.bool false)

/-! ### Loading -/

def isLegacy (raw : Json) : Bool :=
  raw.get "policy_version" == some (.str "1.0")

/-- The Counterpart Arbiter, which older documents call an auditor. -/
def counterpartOf (path : String) (compatible : CompatiblePolicy) : Except Failure RoutePolicy :=
  match compatible.counterpartArbiter, compatible.auditor with
  | some route, none => .ok route
  | none, some route =>
      if route.partyId ≠ "Auditor B" then bail "policy must bind required Counterpart Arbiter"
      else .ok { route with partyId := "Counterpart Arbiter" }
  | some _, some _ =>
      bail ("invalid JSON in " ++ path ++ ": duplicate field counterpart_arbiter")
  | none, none => bail ("invalid JSON in " ++ path ++ ": missing field counterpart_arbiter")

/-- The document that is read: itself, or what it is normalized to. -/
def sourceDocument (raw : Json) : Except Failure Json :=
  if isLegacy raw then normalizeV1Policy raw else .ok raw

/-- `serde_json::from_value`, for a document of the file. -/
def fromValue (path : String) (document : Json) : Except Failure CompatiblePolicy :=
  match decodeCompatible document with
  | some compatible => .ok compatible
  | none => bail ("invalid JSON in " ++ path)

/-- The policy that a document comes to, with what it has to have. -/
def CompatiblePolicy.toPolicy (compatible : CompatiblePolicy) (legacy : Bool) (seat : SeatBinding)
    (counterpartArbiter primaryArbiter : RoutePolicy) : Policy where
  legacyV1Source := legacy
  policyVersion := compatible.policyVersion
  seat := seat
  roster := compatible.roster
  counterpartArbiter := counterpartArbiter
  primaryArbiter := primaryArbiter
  autoPrimaryArbiter := compatible.autoPrimaryArbiter
  textModel := compatible.textModel
  multimodalModel := compatible.multimodalModel
  maxParallelR1 := compatible.maxParallelR1
  maxParallelR2 := compatible.maxParallelR2
  r2Parallel := compatible.r2Parallel
  maxAttempts := compatible.maxAttempts
  timeoutSeconds := compatible.timeoutSeconds
  r1TimeoutSeconds := compatible.r1TimeoutSeconds
  r2TimeoutSeconds := compatible.r2TimeoutSeconds
  r3TimeoutSeconds := compatible.r3TimeoutSeconds
  retryBackoffSeconds := compatible.retryBackoffSeconds
  retryBackoffMaxSeconds := compatible.retryBackoffMaxSeconds
  r2MinIntervalSeconds := compatible.r2MinIntervalSeconds
  maxOutputBytes := compatible.maxOutputBytes
  maxSnapshotFiles := compatible.maxSnapshotFiles
  maxSnapshotBytes := compatible.maxSnapshotBytes
  maxAttachmentBytes := compatible.maxAttachmentBytes
  sandboxMode := compatible.sandboxMode

/-- `read_compatible`. -/
def readCompatible (path : String) (raw : Json) : Except Failure Policy := do
  let document ← sourceDocument raw
  let compatible ← fromValue path document
  let counterpartArbiter ← counterpartOf path compatible
  let seat ← expect compatible.seat "normalized policy has seat"
  let primaryArbiter ← expect compatible.primaryArbiter "normalized policy has primary arbiter"
  return compatible.toPolicy (isLegacy raw) seat counterpartArbiter primaryArbiter

/-- `load`. -/
def load (path : String) (raw : Json) : Except Failure Policy := do
  let policy ← readCompatible path raw
  lift policy.validate
  return policy

/-- `load_for_runtime`. -/
def loadForRuntime (path : String) (raw : Json) : Except Failure Policy := do
  let policy ← readCompatible path raw
  if policy.legacyV1Source then
    bail ("policy v1 is read-only compatible and cannot start a new run; back up policy.json, "
      ++ "then run `quinte init --force` to install the production v2 policy")
  else if !policy.autoPrimaryArbiter then
    bail "production policy v2 requires auto_primary_arbiter=true"
  else do
    lift policy.validate
    return policy

/-- `load_for_observation`. -/
def loadForObservation (path : String) (raw : Json) : Except Failure Policy := do
  let policy ← readCompatible path raw
  lift policy.validate
  return policy

/-! ### What a validated policy is -/

/-- The route has the binding of the seat, and an id that is one. -/
structure Bound (seat : SeatBinding) (route : RoutePolicy) : Prop where
  required : route.required = true
  routeId : validateRouteId route.routeId = .ok ()
  family : route.family = seat.family
  provider : route.provider = seat.provider
  textModel : route.textModel = seat.textModel
  multimodalModel : route.multimodalModel = seat.multimodalModel

/-- A policy that a run may be started with. -/
structure RuntimePolicy (policy : Policy) : Prop where
  source : policy.legacyV1Source = false
  automatic : policy.autoPrimaryArbiter = true
  parties : policy.roster.map (·.partyId) = ["Party A", "Party B", "Party C", "Party D", "Party E"]
  arbiters : policy.counterpartArbiter.partyId = "Counterpart Arbiter" ∧
    policy.primaryArbiter.partyId = "Primary Arbiter"
  bound : ∀ route ∈ policy.roster ++ [policy.counterpartArbiter, policy.primaryArbiter],
    Bound policy.seat route
  distinct : ((policy.roster ++ [policy.counterpartArbiter, policy.primaryArbiter]).map
    (·.routeId)).Nodup
  perspectives : (policy.roster.map fun route => trim route.perspective).Nodup ∧
    ∀ route ∈ policy.roster, trim route.perspective ≠ ""
  models : policy.textModel = policy.seat.textModel ∧
    policy.multimodalModel = policy.seat.multimodalModel

section validated

variable {seat : SeatBinding} {parties : List String} {routes : List RoutePolicy}
  {route : RoutePolicy} {routeIds perspectives out : List String} {policy : Policy}

theorem validateRouteBinding_ok {legacyV1Source : Bool}
    (h : validateRouteBinding route seat legacyV1Source = .ok ()) :
    route.family = seat.family ∧ route.provider = seat.provider ∧
      route.textModel = seat.textModel ∧ route.multimodalModel = seat.multimodalModel := by
  simp only [validateRouteBinding, bind_unit_ok, require_ok, Bool.and_eq_true, beq_iff_eq] at h
  obtain ⟨-, -, -, ⟨⟨⟨hfamily, hprovider⟩, htext⟩, hmultimodal⟩, -⟩ := h
  exact ⟨hfamily, hprovider, htext, hmultimodal⟩

/-- What the loop over the roster has checked. -/
theorem validateRoster_bound
    (h : validateRoster seat false parties routes routeIds perspectives = .ok out)
    (hlength : routes.length = parties.length) :
    routes.map (·.partyId) = parties ∧ (∀ route ∈ routes, Bound seat route) ∧
    (routes.map fun route => trim route.perspective).Nodup ∧
    (∀ route ∈ routes, trim route.perspective ≠ "" ∧ trim route.perspective ∉ perspectives) ∧
    out = (routes.map (·.routeId)).reverse ++ routeIds := by
  induction routes generalizing parties routeIds perspectives with
  | nil =>
    obtain rfl := List.length_eq_zero_iff.mp hlength.symm
    obtain rfl := Except.ok.inj h
    exact ⟨rfl, fun _ hr => (nomatch hr), List.nodup_nil, fun _ hr => (nomatch hr), rfl⟩
  | cons first routes ih =>
    cases parties with
    | nil => exact nomatch hlength
    | cons partyId parties =>
      simp only [validateRoster, bind_unit_ok, require_ok, Bool.and_eq_true, beq_iff_eq,
        Bool.false_or, bne_iff_ne, Bool.not_eq_true', List.contains_eq_mem,
        decide_eq_false_iff_not] at h
      obtain ⟨⟨hparty, hrequired⟩, hid, -, hdeclared, hnew, hbinding, hrest⟩ := h
      -- the others are checked against the ids and perspectives so far
      obtain ⟨hparties, hbound, hnodup, hothers, rfl⟩ := ih hrest (Nat.succ.inj hlength)
      obtain ⟨hfamily, hprovider, htext, hmultimodal⟩ := validateRouteBinding_ok hbinding
      refine ⟨?_, ?_, ?_, ?_, ?_⟩
      · rw [List.map_cons, hparty, hparties]
      · exact List.forall_mem_cons.mpr
          ⟨⟨hrequired, hid, hfamily, hprovider, htext, hmultimodal⟩, hbound⟩
      · refine List.nodup_cons.mpr ⟨fun hmem => ?_, hnodup⟩
        obtain ⟨other, hother, hsame⟩ := List.mem_map.mp hmem
        exact (hothers other hother).2 (hsame ▸ List.mem_cons_self)
      · exact List.forall_mem_cons.mpr ⟨⟨hdeclared, hnew⟩, fun other hother =>
          ⟨(hothers other hother).1, fun hmem =>
            (hothers other hother).2 (List.mem_cons_of_mem _ hmem)⟩⟩
      · rw [List.map_cons, List.reverse_cons, List.append_assoc]
        rfl

theorem validateArbiter_bound {partyId : String}
    (h : validateArbiter seat false partyId route routeIds = .ok out) :
    route.partyId = partyId ∧ Bound seat route ∧ route.routeId ∉ routeIds ∧
      out = route.routeId :: routeIds := by
  simp only [validateArbiter, bind_unit_ok, require_ok, Bool.and_eq_true, beq_iff_eq,
    Bool.not_eq_true', List.contains_eq_mem, decide_eq_false_iff_not] at h
  obtain ⟨⟨hparty, hrequired⟩, hid, hnew, hbinding, hout⟩ := h
  obtain ⟨hfamily, hprovider, htext, hmultimodal⟩ := validateRouteBinding_ok hbinding
  exact ⟨hparty, ⟨hrequired, hid, hfamily, hprovider, htext, hmultimodal⟩, hnew,
    (Except.ok.inj hout).symm⟩

theorem runtimePolicy_of_validate (hsource : policy.legacyV1Source = false)
    (hautomatic : policy.autoPrimaryArbiter = true) (h : policy.validate = .ok ()) :
    RuntimePolicy policy := by
  have hnodup := validate_nodup h
  simp only [validate, bind_unit_ok, require_ok, hsource] at h
  obtain ⟨-, hfive, -, h⟩ := h
  obtain ⟨ids, hroster, h⟩ := bind_ok.mp h
  obtain ⟨ids', hcounterpart, h⟩ := bind_ok.mp h
  obtain ⟨ids'', hprimary, h⟩ := bind_ok.mp h
  simp only [bind_unit_ok, require_ok, Bool.and_eq_true, beq_iff_eq] at h
  obtain ⟨hmodels, -⟩ := h
  obtain ⟨hparties, hbound, hperspectives, hdeclared, rfl⟩ :=
    validateRoster_bound hroster (by simpa using hfive)
  obtain ⟨hcparty, hcbound, hcnew, rfl⟩ := validateArbiter_bound hcounterpart
  obtain ⟨hpparty, hpbound, hpnew, -⟩ := validateArbiter_bound hprimary
  refine ⟨hsource, hautomatic, hparties, ⟨hcparty, hpparty⟩, ?_, ?_,
    ⟨hperspectives, fun route hr => (hdeclared route hr).1⟩, hmodels⟩
  · intro route hr
    rcases List.mem_append.mp hr with hr | hr
    · exact hbound route hr
    · rcases List.mem_pair.mp hr with rfl | rfl
      · exact hcbound
      · exact hpbound
  · simp only [List.append_nil, List.mem_reverse, List.mem_cons, not_or] at hcnew hpnew
    -- the ids of the arbiters are checked against those of the roster
    rw [List.map_append]
    refine List.nodup_append.mpr ⟨hnodup, ?_, ?_⟩
    · simpa using fun heq => hpnew.1 heq.symm
    · intro id hid other hother heq
      rw [heq] at hid
      rcases List.mem_pair.mp hother with rfl | rfl
      · exact hcnew hid
      · exact hpnew.2 hid

end validated

/-! ### Panics -/

def Panics {α : Type} (x : Except Failure α) : Prop :=
  ∃ message, x = .error (.panic message)

section panics

variable {α β : Type} {x : Except Failure α} {f : α → Except Failure β}

theorem not_panics_ok (a : α) : ¬Panics (.ok a : Except Failure α) :=
  fun ⟨_, h⟩ => nomatch h

theorem not_panics_bail (message : String) : ¬Panics (bail message : Except Failure α) :=
  fun ⟨_, h⟩ => nomatch h

theorem not_panics_lift (x : Except String α) : ¬Panics (lift x) := by
  cases x with
  | error message => exact fun ⟨_, h⟩ => nomatch h
  | ok a => exact fun ⟨_, h⟩ => nomatch h

theorem panics_bind : Panics (x >>= f) ↔ Panics x ∨ ∃ a, x = .ok a ∧ Panics (f a) := by
  cases x with
  | error e =>
    constructor
    · exact fun ⟨message, h⟩ => Or.inl ⟨message, congrArg Except.error (Except.error.inj h)⟩
    · rintro (⟨message, h⟩ | ⟨a, h, -⟩)
      · exact ⟨message, congrArg Except.error (Except.error.inj h)⟩
      · exact nomatch h
  | ok a =>
    constructor
    · exact fun h => Or.inr ⟨a, rfl, h⟩
    · rintro (h | ⟨a', h, hpanics⟩)
      · exact absurd h (not_panics_ok a)
      · obtain rfl := Except.ok.inj h
        exact hpanics

theorem not_panics_mapM (h : ∀ a, ¬Panics (f a)) (as : List α) : ¬Panics (as.mapM f) := by
  induction as with
  | nil => exact not_panics_ok _
  | cons a as ih =>
    rw [List.mapM_cons, panics_bind]
    rintro (hpanics | ⟨b, -, hpanics⟩)
    · exact h a hpanics
    · rcases panics_bind.mp hpanics with hpanics | ⟨bs, -, hpanics⟩
      · exact ih hpanics
      · exact not_panics_ok _ hpanics

theorem panics_expect {o : Option α} {message : String} :
    Panics (expect o message) ↔ o = none := by
  cases o with
  | none => exact iff_of_true ⟨message, rfl⟩ rfl
  | some a => exact iff_of_false (not_panics_ok a) (fun h => nomatch h)

end panics

section loading

variable {raw document value value' : Json} {seat : SeatBinding} {compatible : CompatiblePolicy}

theorem not_panics_addBinding (value : Json) (seat : SeatBinding) :
    ¬Panics (addBinding value seat) := by
  unfold addBinding
  split
  · exact not_panics_ok _
  · exact not_panics_bail _

theorem not_panics_bindRoutes (seat : SeatBinding) (names : List String) (value : Json) :
    ¬Panics (bindRoutes seat names value) := by
  induction names generalizing value with
  | nil => exact not_panics_ok _
  | cons name names ih =>
    rw [bindRoutes, panics_bind]
    rintro (hpanics | ⟨value', -, hpanics⟩)
    · unfold bindRoute at hpanics
      split at hpanics
      · rcases panics_bind.mp hpanics with hpanics | ⟨_, -, hpanics⟩
        · exact not_panics_mapM (fun route => not_panics_addBinding route seat) _ hpanics
        · exact not_panics_ok _ hpanics
      · rcases panics_bind.mp hpanics with hpanics | ⟨_, -, hpanics⟩
        · exact not_panics_addBinding _ _ hpanics
        · exact not_panics_ok _ hpanics
      · exact not_panics_ok _ hpanics
    · exact ih value' hpanics

theorem not_panics_sourceDocument (raw : Json) : ¬Panics (sourceDocument raw) := by
  unfold sourceDocument normalizeV1Policy
  split
  · split
    · exact not_panics_bail _
    · rw [panics_bind]
      rintro (hpanics | ⟨_, -, hpanics⟩)
      · exact not_panics_bindRoutes _ _ _ hpanics
      · exact not_panics_ok _ hpanics
  · exact not_panics_ok _

theorem failure_bind_ok {α β : Type} {x : Except Failure α} {f : α → Except Failure β} {b : β} :
    x >>= f = .ok b ↔ ∃ a, x = .ok a ∧ f a = .ok b := by
  cases x with
  | error e => exact ⟨fun h => (nomatch h), fun ⟨_, h, _⟩ => (nomatch h)⟩
  | ok a => exact ⟨fun h => ⟨a, rfl, h⟩, fun ⟨_, ha, h⟩ => Except.ok.inj ha ▸ h⟩

/-- The members that hold routes are all that is changed. -/
theorem bindRoutes_get {names : List String} (h : bindRoutes seat names value = .ok value')
    (hvalue : value.isObject = true) :
    value'.isObject = true ∧ ∀ other, other ∉ names → value'.get other = value.get other := by
  induction names generalizing value with
  | nil =>
    obtain rfl := Except.ok.inj h
    exact ⟨hvalue, fun _ _ => rfl⟩
  | cons name names ih =>
    obtain ⟨next, hnext, hrest⟩ := failure_bind_ok.mp h
    -- a step sets the member of this name, or nothing
    have hset : next = value ∨ ∃ member, next = value.set name member := by
      unfold bindRoute at hnext
      split at hnext
      · obtain ⟨routes, -, hok⟩ := failure_bind_ok.mp hnext
        exact Or.inr ⟨_, (Except.ok.inj hok).symm⟩
      · obtain ⟨route, -, hok⟩ := failure_bind_ok.mp hnext
        exact Or.inr ⟨_, (Except.ok.inj hok).symm⟩
      · exact Or.inl (Except.ok.inj hnext).symm
    have hobject : next.isObject = true := by
      rcases hset with rfl | ⟨member, rfl⟩
      · exact hvalue
      · exact Json.isObject_set hvalue _ _
    obtain ⟨hlast, hothers⟩ := ih hrest hobject
    refine ⟨hlast, fun other hother => ?_⟩
    rw [List.mem_cons, not_or] at hother
    rw [hothers other hother.2]
    rcases hset with rfl | ⟨member, rfl⟩
    · rfl
    · exact Json.get_set_ne hother.1 member

theorem decodeCompatible_some (h : decodeCompatible document = some compatible) :
    ∃ look, Decoder.fields compatibleFields document = some look ∧
      Decoder.defaulted look "seat" (Decoder.option decodeSeat) none = some compatible.seat ∧
      Decoder.defaulted look "primary_arbiter" (Decoder.option decodeRoute) none
        = some compatible.primaryArbiter := by
  obtain ⟨look, hlook, h⟩ := Option.bind_eq_some_iff.mp h
  obtain ⟨_, -, h⟩ := Option.bind_eq_some_iff.mp h
  obtain ⟨seat, hseat, h⟩ := Option.bind_eq_some_iff.mp h
  iterate 3 obtain ⟨_, -, h⟩ := Option.bind_eq_some_iff.mp h
  obtain ⟨primaryArbiter, hprimary, h⟩ := Option.bind_eq_some_iff.mp h
  iterate 19 obtain ⟨_, -, h⟩ := Option.bind_eq_some_iff.mp h
  obtain rfl := Option.some.inj h
  exact ⟨look, hlook, hseat, hprimary⟩

/-- A normalized document has what the loader expects of it. -/
theorem normalizeV1Policy_complete (h : normalizeV1Policy raw = .ok document)
    (hdecode : decodeCompatible document = some compatible) :
    compatible.seat = some legacySeatBinding ∧
      compatible.primaryArbiter = some (legacyRoute "Primary Arbiter" "pa" "omp" "omp") := by
  unfold normalizeV1Policy at h
  cases hraw : raw.isObject with
  | false =>
    rw [hraw] at h
    exact nomatch h
  | true =>
    rw [hraw] at h
    obtain ⟨value, hvalue, hdocument⟩ := failure_bind_ok.mp h
    obtain rfl := Except.ok.inj hdocument
    -- the seat is set before the routes are bound, and they do not touch it
    have hstart : ((raw.set "policy_version" (.str "2.0")).set "seat"
        (seatValue legacySeatBinding)).isObject = true :=
      Json.isObject_set (Json.isObject_set hraw _ _) _ _
    obtain ⟨hobject, hothers⟩ := bindRoutes_get hvalue hstart
    have hseat : ((value.set "primary_arbiter"
        (routeValue (legacyRoute "Primary Arbiter" "pa" "omp" "omp"))).set "auto_primary_arbiter"
        (.bool false)).get "seat" = some (seatValue legacySeatBinding) := by
      rw [Json.get_set_ne (by decide), Json.get_set_ne (by decide), hothers "seat" (by decide)]
      exact Json.get_set_self (Json.isObject_set hraw _ _) _ _
    have hprimary : ((value.set "primary_arbiter"
        (routeValue (legacyRoute "Primary Arbiter" "pa" "omp" "omp"))).set "auto_primary_arbiter"
        (.bool false)).get "primary_arbiter"
        = some (routeValue (legacyRoute "Primary Arbiter" "pa" "omp" "omp")) := by
      rw [Json.get_set_ne (by decide)]
      exact Json.get_set_self hobject _ _
    obtain ⟨look, hlook, hdecodeSeat, hdecodePrimary⟩ := decodeCompatible_some hdecode
    have hget : ∀ name, look name = ((value.set "primary_arbiter"
        (routeValue (legacyRoute "Primary Arbiter" "pa" "omp" "omp"))).set "auto_primary_arbiter"
        (.bool false)).get name := by
      intro name
      have hlast : ((value.set "primary_arbiter" (routeValue (legacyRoute "Primary Arbiter" "pa"
          "omp" "omp"))).set "auto_primary_arbiter" (.bool false)).isObject = true :=
        Json.isObject_set (Json.isObject_set hobject _ _) _ _
      revert hlook hlast
      generalize (value.set _ _).set _ _ = last
      intro hlook hlast
      cases last with
      | obj members => exact Decoder.fields_obj hlook name
      | _ => exact nomatch hlast
    rw [Decoder.defaulted_some ((hget _).trans hseat)] at hdecodeSeat
    rw [Decoder.defaulted_some ((hget _).trans hprimary)] at hdecodePrimary
    exact ⟨(Option.some.inj hdecodeSeat).symm, (Option.some.inj hdecodePrimary).symm⟩

/-- The document binds one Counterpart Arbiter, under either of its names. -/
def bindsCounterpart (compatible : CompatiblePolicy) : Bool :=
  match compatible.counterpartArbiter, compatible.auditor with
  | some _, none => true
  | none, some route => route.partyId = "Auditor B"
  | _, _ => false

theorem counterpartOf_ok (path : String) :
    (∃ route, counterpartOf path compatible = .ok route) ↔ bindsCounterpart compatible = true := by
  unfold counterpartOf bindsCounterpart
  cases compatible.counterpartArbiter with
  | some route =>
    cases compatible.auditor with
    | none => exact iff_of_true ⟨route, rfl⟩ rfl
    | some auditor => exact iff_of_false (fun ⟨_, h⟩ => nomatch h) (fun h => nomatch h)
  | none =>
    cases compatible.auditor with
    | none => exact iff_of_false (fun ⟨_, h⟩ => nomatch h) (fun h => nomatch h)
    | some auditor =>
      by_cases hparty : auditor.partyId = "Auditor B"
      · simp [hparty]
      · simp [hparty, bail]

theorem not_panics_counterpartOf (path : String) (compatible : CompatiblePolicy) :
    ¬Panics (counterpartOf path compatible) := by
  unfold counterpartOf
  split
  · exact not_panics_ok _
  · split
    · exact not_panics_bail _
    · exact not_panics_ok _
  · exact not_panics_bail _
  · exact not_panics_bail _

/-- The two `expect` calls. -/
theorem panics_expects {compatible : CompatiblePolicy} {finish : SeatBinding → RoutePolicy → Policy} :
    Panics (do
      let seat ← expect compatible.seat "normalized policy has seat"
      let primaryArbiter ← expect compatible.primaryArbiter
        "normalized policy has primary arbiter"
      (pure (finish seat primaryArbiter) : Except Failure Policy)) ↔
      compatible.seat = none ∨ compatible.primaryArbiter = none := by
  rw [panics_bind, panics_expect]
  cases compatible.seat with
  | none => simp
  | some seat =>
    simp only [reduceCtorEq, false_or]
    constructor
    · rintro ⟨_, -, hpanics⟩
      rcases panics_bind.mp hpanics with hpanics | ⟨_, -, hpanics⟩
      · exact panics_expect.mp hpanics
      · exact absurd hpanics (not_panics_ok _)
    · intro hnone
      exact ⟨seat, rfl, panics_bind.mpr (Or.inl (panics_expect.mpr hnone))⟩

theorem panics_readCompatible (path : String) (raw : Json) :
    Panics (readCompatible path raw) ↔ ∃ document compatible,
      sourceDocument raw = .ok document ∧ decodeCompatible document = some compatible ∧
      bindsCounterpart compatible = true ∧
      (compatible.seat = none ∨ compatible.primaryArbiter = none) := by
  unfold readCompatible
  rw [panics_bind, or_iff_right (not_panics_sourceDocument raw)]
  refine exists_congr fun document => ?_
  rw [exists_and_left]
  refine and_congr_right fun _ => ?_
  rw [panics_bind, fromValue]
  cases decodeCompatible document with
  | none =>
    refine iff_of_false ?_ (fun ⟨_, h, _⟩ => nomatch h)
    rintro (hpanics | ⟨_, h, -⟩)
    · exact not_panics_bail _ hpanics
    · exact nomatch h
  | some compatible =>
    have hsome : ∀ {p : CompatiblePolicy → Prop},
        (∃ c, (Except.ok compatible : Except Failure CompatiblePolicy) = .ok c ∧ p c) ↔
          ∃ c, some compatible = some c ∧ p c := by
      intro p
      simp only [Except.ok.injEq, Option.some.injEq]
    rw [or_iff_right (not_panics_ok compatible), hsome]
    refine exists_congr fun compatible => and_congr_right fun _ => ?_
    rw [panics_bind, or_iff_right (not_panics_counterpartOf path compatible),
      ← counterpartOf_ok path, ← exists_and_right]
    exact exists_congr fun route => and_congr_right fun _ => panics_expects

/-- A version 1 document, or one that has both a seat and a Primary Arbiter
    unless it is refused before they are looked at. -/
def Complete (raw : Json) : Prop :=
  isLegacy raw = true ∨ ∀ compatible, decodeCompatible raw = some compatible →
    bindsCounterpart compatible = true →
      compatible.seat.isSome = true ∧ compatible.primaryArbiter.isSome = true

theorem complete_iff (path : String) (raw : Json) :
    Complete raw ↔ ¬Panics (readCompatible path raw) := by
  rw [panics_readCompatible]
  unfold Complete sourceDocument
  cases hlegacy : isLegacy raw with
  -- the normalization of version 1 supplies both
  | true =>
    refine iff_of_true (Or.inl rfl) ?_
    rintro ⟨document, compatible, hdocument, hdecode, -, hnone⟩
    obtain ⟨hseat, hprimary⟩ := normalizeV1Policy_complete hdocument hdecode
    rw [hseat, hprimary] at hnone
    exact hnone.elim (fun h => nomatch h) (fun h => nomatch h)
  | false =>
    simp only [Bool.false_eq_true, false_or, if_false]
    constructor
    · rintro hall ⟨_, compatible, hdocument, hdecode, hbinds, hnone⟩
      obtain rfl := Except.ok.inj hdocument
      obtain ⟨hseat, hprimary⟩ := hall compatible hdecode hbinds
      rcases hnone with hnone | hnone
      · rw [hnone] at hseat
        exact nomatch hseat
      · rw [hnone] at hprimary
        exact nomatch hprimary
    · intro hnot compatible hdecode hbinds
      constructor
      · rw [Option.isSome_iff_ne_none]
        exact fun hnone => hnot ⟨raw, compatible, rfl, hdecode, hbinds, Or.inl hnone⟩
      · rw [Option.isSome_iff_ne_none]
        exact fun hnone => hnot ⟨raw, compatible, rfl, hdecode, hbinds, Or.inr hnone⟩

theorem loadForRuntime_ok {path : String} {policy : Policy}
    (h : loadForRuntime path raw = .ok policy) : RuntimePolicy policy := by
  obtain ⟨policy', -, h⟩ := failure_bind_ok.mp h
  cases hsource : policy'.legacyV1Source with
  | true =>
    rw [hsource] at h
    exact nomatch h
  | false =>
    rw [hsource] at h
    cases hautomatic : policy'.autoPrimaryArbiter with
    | false =>
      rw [hautomatic] at h
      exact nomatch h
    | true =>
      rw [hautomatic] at h
      obtain ⟨_, hvalid, hpolicy⟩ := failure_bind_ok.mp h
      obtain rfl := Except.ok.inj hpolicy
      cases hvalidate : policy'.validate with
      | error message =>
        rw [hvalidate] at hvalid
        exact nomatch hvalid
      | ok _ => exact runtimePolicy_of_validate hsource hautomatic hvalidate

end loading

/-- **Loading is total** on the documents that are complete: no loader panics,
    and what a run is started with is a production policy. -/
theorem loading_total_iff (path : String) (raw : Json) :
    (¬Panics (load path raw) ∧ ¬Panics (loadForRuntime path raw) ∧
      ¬Panics (loadForObservation path raw) ∧
      ∀ policy, loadForRuntime path raw = .ok policy → RuntimePolicy policy) ↔ Complete raw := by
  rw [complete_iff path]
  -- after the reading only checks follow, and a check refuses without a panic
  have hcheck : ∀ policy : Policy, ¬Panics (do
      lift policy.validate
      return policy : Except Failure Policy) := by
    intro policy
    rw [panics_bind]
    rintro (hpanics | ⟨_, -, hpanics⟩)
    · exact not_panics_lift _ hpanics
    · exact not_panics_ok _ hpanics
  constructor
  · rintro ⟨hload, -⟩ hpanics
    exact hload (panics_bind.mpr (Or.inl hpanics))
  · intro hread
    refine ⟨?_, ?_, ?_, fun policy => loadForRuntime_ok⟩
    · rw [load, panics_bind]
      rintro (hpanics | ⟨policy, -, hpanics⟩)
      · exact hread hpanics
      · exact hcheck policy hpanics
    · rw [loadForRuntime, panics_bind]
      rintro (hpanics | ⟨policy, -, hpanics⟩)
      · exact hread hpanics
      · split at hpanics
        · exact not_panics_bail _ hpanics
        · split at hpanics
          · exact not_panics_bail _ hpanics
          · exact hcheck policy hpanics
    · rw [loadForObservation, panics_bind]
      rintro (hpanics | ⟨policy, -, hpanics⟩)
      · exact hread hpanics
      · exact hcheck policy hpanics

/-- A document of version 2 with every member but the seat. -/
def seatlessDocument : Json :=
  let route := legacyRoute "Party A" "a" "deepseek" "deepseek"
  .obj [("policy_version", .str "2.0"), ("roster", .arr []),
    ("counterpart_arbiter", routeValue route), ("primary_arbiter", routeValue route),
    ("text_model", .str "text"), ("multimodal_model", .str "multi"), ("max_parallel_r1", .int 5),
    ("max_parallel_r2", .int 1), ("max_attempts", .int 3), ("timeout_seconds", .int 300),
    ("retry_backoff_seconds", .int 15), ("retry_backoff_max_seconds", .int 120),
    ("r2_min_interval_seconds", .int 10), ("max_output_bytes", .int 1048576),
    ("max_snapshot_files", .int 2000), ("max_snapshot_bytes", .int 20971520),
    ("max_attachment_bytes", .int 10485760), ("sandbox_mode", .str "process")]

/-- Loading it panics. -/
theorem loading_panics :
    Panics (load "policy.json" seatlessDocument) ∧
      Panics (loadForRuntime "policy.json" seatlessDocument) ∧
      Panics (loadForObservation "policy.json" seatlessDocument) := by
  have hread : readCompatible "policy.json" seatlessDocument
      = .error (.panic "normalized policy has seat") := by rfl
  refine ⟨⟨"normalized policy has seat", ?_⟩, ⟨"normalized policy has seat", ?_⟩,
    ⟨"normalized policy has seat", ?_⟩⟩
  · rw [load, hread]
    rfl
  · rw [loadForRuntime, hread]
    rfl
  · rw [loadForObservation, hread]
    rfl

end Policy

end Quinte
