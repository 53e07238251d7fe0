import Mathlib
import Quinte.Model.Types

/-! # The policy

    `policy::validate`: what a policy must satisfy before a run is created
    with it.  The test adapters, which need a feature of their own, are left
    out.  An error is its message.
-/

namespace Quinte

namespace Policy

/-- Fail with `message` unless `b`. -/
def require (b : Bool) (message : String) : Except String Unit :=
  if b then .ok () else .error message

@[simp] theorem require_ok {b : Bool} {message : String} :
    require b message = .ok () ↔ b = true := by
  cases b <;> simp [require]

theorem bind_ok {α β : Type} {x : Except String α} {f : α → Except String β} {b : β} :
    x >>= f = .ok b ↔ ∃ a, x = .ok a ∧ f a = .ok b := by
  cases x with
  | error e => exact ⟨fun h => (nomatch h), fun ⟨_, h, _⟩ => (nomatch h)⟩
  | ok a => exact ⟨fun h => ⟨a, rfl, h⟩, fun ⟨_, ha, h⟩ => Except.ok.inj ha ▸ h⟩

theorem bind_unit_ok {β : Type} {x : Except String Unit} {f : Unit → Except String β} {b : β} :
    x >>= f = .ok b ↔ x = .ok () ∧ f () = .ok b := by
  rw [bind_ok]
  exact ⟨fun ⟨_, hx, hf⟩ => ⟨hx, hf⟩, fun ⟨hx, hf⟩ => ⟨(), hx, hf⟩⟩

/-- The characters of an identifier. -/
def bindingChar (c : Char) : Bool :=
  c.isAlphanum || c == '.' || c == '-' || c == '_'

/-- `valid_binding_identifier`. -/
def validBindingIdentifier (value : String) : Bool :=
  value != "" && value.utf8ByteSize ≤ 128 && value.toList.all bindingChar

def routeIdChar (c : Char) : Bool :=
  c.isLower || c.isDigit || c == '-' || c == '_'

/-- `validate_route_id`. -/
def validateRouteId (routeId : String) : Except String Unit :=
  require
    (routeId != "" && routeId.utf8ByteSize ≤ 64 && routeId.toList.all routeIdChar
      && routeId.toList.head?.any Char.isAlphanum)
    ("route_id " ++ routeId.quote ++ " must be 1-64 lowercase ASCII letters, digits, '-' or '_', "
      ++ "and start with a letter or digit")

/-- `validate_seat_binding`. -/
def validateSeatBinding (seat : SeatBinding) : Except String Unit :=
  [("seat_id", seat.seatId), ("family", seat.family), ("provider", seat.provider),
    ("text_model", seat.textModel), ("multimodal_model", seat.multimodalModel)].forM
    fun (name, value) => require (validBindingIdentifier value)
      ("seat " ++ name ++ " must be a safe non-empty identifier up to 128 characters")

/-- The provider and the adapter of a production seat family. -/
def productionBinding (family : String) : Option (String × String) :=
  if family = "deepseek" then some ("deepseek", "deepseek")
  else if family = "qwen" then some ("qwen", "qwen")
  else if family = "pi" then some ("pi", "a2a")
  else none

/-- `validate_adapter_capability`. -/
def validateAdapterCapability (route : RoutePolicy) (seat : SeatBinding) (legacyV1Source : Bool) :
    Except String Unit :=
  if legacyV1Source then
    require (["codewhale", "opencode", "kilo", "mimo", "omp", "claude"].contains route.adapter)
      (route.partyId ++ " uses an adapter incompatible with the legacy v1 roster")
  else
    match productionBinding seat.family with
    | none => .error ("unsupported production seat family " ++ seat.family)
    | some (provider, adapter) => do
      require (seat.provider == provider)
        ("production seat family " ++ seat.family ++ " requires provider " ++ provider)
      require (route.adapter == adapter)
        (route.partyId ++ " must use the isolated " ++ adapter ++ " adapter for production family "
          ++ seat.family ++ "; " ++ route.adapter
          ++ " is not a proven stateless binding for that family")

/-- `validate_route_binding`. -/
def validateRouteBinding (route : RoutePolicy) (seat : SeatBinding) (legacyV1Source : Bool) :
    Except String Unit := do
  require (trim route.executable != "" && trim route.adapter != "")
    (route.partyId ++ " has an empty adapter or executable")
  require (legacyV1Source || ["deepseek", "qwen", "a2a"].contains route.adapter)
    (route.partyId ++ " uses unsupported adapter " ++ route.adapter)
  [("family", route.family), ("provider", route.provider), ("text_model", route.textModel),
    ("multimodal_model", route.multimodalModel)].forM
    fun (name, value) => require (validBindingIdentifier value)
      (route.partyId ++ " " ++ name ++ " must be a safe non-empty identifier up to 128 characters")
  require
    (route.family == seat.family && route.provider == seat.provider
      && route.textModel == seat.textModel && route.multimodalModel == seat.multimodalModel)
    (route.partyId ++ " violates the single-family seat invariant")
  validateAdapterCapability route seat legacyV1Source

/-- The roster loop of `validate_with_options`. Returns the route ids met. -/
def validateRoster (seat : SeatBinding) (legacyV1Source : Bool) :
    List String → List RoutePolicy → List String → List String → Except String (List String)
  | partyId :: parties, route :: routes, routeIds, perspectives => do
    require (route.partyId == partyId && route.required)
      "roster must bind required Party A through Party E in order"
    validateRouteId route.routeId
    require (!routeIds.contains route.routeId) "route_id values must be globally unique"
    let perspective := trim route.perspective
    require (legacyV1Source || perspective != "")
      ("roster school perspective for " ++ partyId ++ " must be declared (non-empty)")
    require (legacyV1Source || !perspectives.contains perspective)
      ("roster school perspectives must be pairwise distinct (duplicate: " ++ perspective ++ ")")
    validateRouteBinding route seat legacyV1Source
    validateRoster seat legacyV1Source parties routes (route.routeId :: routeIds)
      (perspective :: perspectives)
  | _, _, routeIds, _ => .ok routeIds

/-- The checks of an arbiter's route in `validate_with_options`. -/
def validateArbiter (seat : SeatBinding) (legacyV1Source : Bool) (partyId : String)
    (route : RoutePolicy) (routeIds : List String) : Except String (List String) := do
  require (route.partyId == partyId && route.required) ("policy must bind required " ++ partyId)
  validateRouteId route.routeId
  require (!routeIds.contains route.routeId) "route_id values must be globally unique"
  validateRouteBinding route seat legacyV1Source
  return route.routeId :: routeIds

/-- `policy::validate`. -/
def validate (policy : Policy) : Except String Unit := do
  require (policy.policyVersion == "2.0") "policy_version must be 2.0"
  require (policy.roster.length == 5) "QUINTE policy must contain exactly five R1/R2 parties"
  validateSeatBinding policy.seat
  let routeIds ← validateRoster policy.seat policy.legacyV1Source
    ["Party A", "Party B", "Party C", "Party D", "Party E"] policy.roster [] []
  let routeIds ← validateArbiter policy.seat policy.legacyV1Source "Counterpart Arbiter"
    policy.counterpartArbiter routeIds
  let _ ← validateArbiter policy.seat policy.legacyV1Source "Primary Arbiter"
    policy.primaryArbiter routeIds
  require
    (policy.textModel == policy.seat.textModel
      && policy.multimodalModel == policy.seat.multimodalModel)
    "policy model aliases must match the seat binding"
  require (policy.maxParallelR1 == 5 && policy.maxParallelR2 == 1)
    "phase concurrency is fixed to R1=5 and R2=1"
  require (policy.maxAttempts == 3) "max_attempts is fixed to 3"
  require (5 ≤ policy.timeoutSeconds && policy.timeoutSeconds ≤ 3600)
    "timeout_seconds must be between 5 and 3600"
  [("r1_timeout_seconds", policy.r1TimeoutSeconds), ("r2_timeout_seconds", policy.r2TimeoutSeconds),
    ("r3_timeout_seconds", policy.r3TimeoutSeconds)].forM
    fun (name, value) => require (value.all fun t => 5 ≤ t && t ≤ 3600)
      (name ++ " must be between 5 and 3600 when set")
  require
    (policy.retryBackoffSeconds == 15 && policy.retryBackoffMaxSeconds == 120
      && policy.r2MinIntervalSeconds == 10)
    "R2 rate-limit controls are fixed to base=15s, cap=120s, and pacing=10s"
  require (4 * 1024 ≤ policy.maxOutputBytes && policy.maxOutputBytes ≤ 16 * 1024 * 1024)
    "max_output_bytes must be between 4096 and 16777216"

/-! ### What a valid policy promises -/

theorem forM_ok {α : Type} {f : α → Except String Unit} {xs : List α} :
    xs.forM f = .ok () ↔ ∀ x ∈ xs, f x = .ok () := by
  induction xs with
  | nil => simp [pure, Except.pure]
  | cons x xs ih =>
    show (f x >>= fun _ => xs.forM f) = .ok () ↔ _
    rw [bind_unit_ok, ih, List.forall_mem_cons]

theorem validateRoster_ok {seat : SeatBinding} {legacyV1Source : Bool} {parties : List String}
    {routes : List RoutePolicy} {routeIds perspectives out : List String}
    (h : validateRoster seat legacyV1Source parties routes routeIds perspectives = .ok out)
    (hlen : routes.length ≤ parties.length) :
    ∀ route ∈ routes, route.partyId ∈ parties ∧ validateRouteId route.routeId = .ok () := by
  induction routes generalizing parties routeIds perspectives with
  | nil => exact fun route hr => nomatch hr
  | cons r routes ih =>
    cases parties with
    | nil => exact absurd hlen (by simp)
    | cons p parties =>
      simp only [validateRoster, bind_unit_ok, require_ok] at h
      obtain ⟨hparty, hid, -, -, -, -, hrest⟩ := h
      rintro route (_ | ⟨_, hr⟩)
      · simp only [Bool.and_eq_true, beq_iff_eq] at hparty
        exact ⟨hparty.1 ▸ List.mem_cons_self .., hid⟩
      · obtain ⟨hmem, hroute⟩ := ih hrest (by simpa using hlen) route hr
        exact ⟨List.mem_cons_of_mem _ hmem, hroute⟩

theorem validateRoster_nodup {seat : SeatBinding} {legacyV1Source : Bool} {parties : List String}
    {routes : List RoutePolicy} {routeIds perspectives out : List String}
    (h : validateRoster seat legacyV1Source parties routes routeIds perspectives = .ok out)
    (hlen : routes.length ≤ parties.length) :
    (routes.map (·.routeId)).Nodup ∧ ∀ route ∈ routes, route.routeId ∉ routeIds := by
  induction routes generalizing parties routeIds perspectives with
  | nil => exact ⟨List.nodup_nil, fun route hr => nomatch hr⟩
  | cons r routes ih =>
    cases parties with
    | nil => exact absurd hlen (by simp)
    | cons p parties =>
      simp only [validateRoster, bind_unit_ok, require_ok] at h
      obtain ⟨-, -, hfresh, -, -, -, hrest⟩ := h
      obtain ⟨hnodup, hothers⟩ := ih hrest (by simpa using hlen)
      have hfirst : r.routeId ∉ routeIds := by simpa using hfresh
      refine ⟨List.nodup_cons.mpr ⟨fun hmem => ?_, hnodup⟩, ?_⟩
      · obtain ⟨other, hother, hid⟩ := List.mem_map.mp hmem
        exact hothers other hother (hid ▸ List.mem_cons_self ..)
      · rintro route (_ | ⟨_, hr⟩)
        · exact hfirst
        · exact fun hmem => hothers route hr (List.mem_cons_of_mem _ hmem)

/-- The parties have different routes. -/
theorem validate_nodup {policy : Policy} (h : policy.validate = .ok ()) :
    (policy.roster.map (·.routeId)).Nodup := by
  simp only [validate, bind_unit_ok, require_ok] at h
  obtain ⟨-, hfive, -, h⟩ := h
  obtain ⟨_, hroster, -⟩ := bind_ok.mp h
  have hlen : policy.roster.length = 5 := by simpa using hfive
  exact (validateRoster_nodup hroster (by simp [hlen])).1

/-- The party ids are fixed, route ids and model names are plain. -/
theorem validate_ok {policy : Policy} (h : policy.validate = .ok ()) :
    (∀ route ∈ policy.roster ++ [policy.counterpartArbiter, policy.primaryArbiter],
      route.partyId ∈ ["Party A", "Party B", "Party C", "Party D", "Party E",
        "Counterpart Arbiter", "Primary Arbiter"] ∧ route.routeId.toList.all routeIdChar = true) ∧
    policy.seat.textModel.toList.all bindingChar = true ∧
    policy.seat.multimodalModel.toList.all bindingChar = true := by
  have hroute : ∀ {id : String}, validateRouteId id = .ok () → id.toList.all routeIdChar = true := by
    intro id hid
    unfold validateRouteId at hid
    rw [require_ok] at hid
    simp only [Bool.and_eq_true] at hid
    exact hid.1.2
  have harbiter : ∀ {partyId : String} {route : RoutePolicy} {ids out : List String},
      validateArbiter policy.seat policy.legacyV1Source partyId route ids = .ok out →
      route.partyId = partyId ∧ route.routeId.toList.all routeIdChar = true := by
    intro partyId route ids out ha
    simp only [validateArbiter, bind_unit_ok, require_ok, Bool.and_eq_true, beq_iff_eq] at ha
    obtain ⟨⟨hparty, -⟩, hid, -⟩ := ha
    exact ⟨hparty, hroute hid⟩
  simp only [validate, bind_unit_ok, require_ok] at h
  obtain ⟨-, hfive, hseat, h⟩ := h
  obtain ⟨_, hroster, h⟩ := bind_ok.mp h
  obtain ⟨_, hcounterpart, h⟩ := bind_ok.mp h
  obtain ⟨_, hprimary, -⟩ := bind_ok.mp h
  -- the identifiers of the seat are checked in a loop
  have hidentifier : ∀ entry ∈ [("seat_id", policy.seat.seatId), ("family", policy.seat.family),
      ("provider", policy.seat.provider), ("text_model", policy.seat.textModel),
      ("multimodal_model", policy.seat.multimodalModel)],
      entry.2.toList.all bindingChar = true := by
    intro entry he
    have hentry := forM_ok.mp hseat entry he
    rw [require_ok] at hentry
    exact (Bool.and_eq_true_iff.mp hentry).2
  refine ⟨?_, hidentifier ("text_model", _) (by simp), hidentifier ("multimodal_model", _) (by simp)⟩
  intro route hr
  obtain hr | hr := List.mem_append.mp hr
  · have hfive' : policy.roster.length = 5 := by simpa using hfive
    obtain ⟨hparty, hid⟩ := validateRoster_ok hroster (by simp [hfive']) route hr
    exact ⟨by grind, hroute hid⟩
  · obtain ⟨hc, hcid⟩ := harbiter hcounterpart
    obtain ⟨hp, hpid⟩ := harbiter hprimary
    simp only [List.mem_cons, List.not_mem_nil, or_false] at hr
    obtain rfl | rfl := hr
    · exact ⟨by simp [hc], hcid⟩
    · exact ⟨by simp [hp], hpid⟩

/-! ### A policy for examples -/

def sampleSeat : SeatBinding where
  seatId := "seat"
  family := "qwen"
  provider := "qwen"
  textModel := "text"
  multimodalModel := "multi"

def sampleRoute (partyId routeId perspective : String) : RoutePolicy where
  partyId := partyId
  routeId := routeId
  adapter := "qwen"
  executable := "in-process"
  required := true
  family := "qwen"
  provider := "qwen"
  textModel := "text"
  multimodalModel := "multi"
  perspective := perspective

/-- A policy with the given route for Party A. -/
def samplePolicy (routeId : String) : Policy where
  legacyV1Source := false
  policyVersion := "2.0"
  seat := sampleSeat
  roster := [sampleRoute "Party A" routeId "rule", sampleRoute "Party B" "b" "risk",
    sampleRoute "Party C" "c" "data", sampleRoute "Party D" "d" "rest",
    sampleRoute "Party E" "e" "all"]
  counterpartArbiter := sampleRoute "Counterpart Arbiter" "cc" ""
  primaryArbiter := sampleRoute "Primary Arbiter" "pa" ""
  autoPrimaryArbiter := true
  textModel := "text"
  multimodalModel := "multi"
  maxParallelR1 := 5
  maxParallelR2 := 1
  r2Parallel := false
  maxAttempts := 3
  timeoutSeconds := 300
  r1TimeoutSeconds := none
  r2TimeoutSeconds := none
  r3TimeoutSeconds := none
  retryBackoffSeconds := 15
  retryBackoffMaxSeconds := 120
  r2MinIntervalSeconds := 10
  maxOutputBytes := 1048576
  maxSnapshotFiles := 2000
  maxSnapshotBytes := 20971520
  maxAttachmentBytes := 10485760
  sandboxMode := .process

end Policy

end Quinte
