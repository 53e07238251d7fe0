import Mathlib
import Quinte.Finance.Ledger

/-! # The schemas on typed documents

    What a schema asks of a document that is written from its type: each
    lemma says it with the document's own fields.
-/

namespace Quinte.Finance

open Json (Codec Fields Schema)
open Json.Schema
open Schemas

/-! ### Parts -/

/-- A digest. -/
abbrev isDigest (s : String) : Bool := sha256Pattern "sha256:" s

theorem sha256Pattern_append (lead : String) (rest : List Char) :
    sha256Pattern lead (String.ofList (lead.toList ++ rest))
      = (rest.length == 64 && rest.all lowerHexDigit) := by
  have hlead : lead.toList.isPrefixOf (lead.toList ++ rest) = true :=
    List.isPrefixOf_iff_prefix.mpr (List.prefix_append _ _)
  have hrest : (lead.toList ++ rest).drop lead.length = rest := by
    rw [← String.length_toList, List.drop_left]
  simp only [sha256Pattern, String.toList_ofList, hlead, hrest, Bool.true_and]

/-- A digest, by the character that it repeats. -/
def digestOf (c : Char) : String := String.ofList ("sha256:".toList ++ List.replicate 64 c)

theorem toList_digestOf (c : Char) :
    (digestOf c).toList = "sha256:".toList ++ List.replicate 64 c := String.toList_ofList

theorem isDigest_digestOf {c : Char} (h : lowerHexDigit c = true) : isDigest (digestOf c) = true := by
  refine (sha256Pattern_append "sha256:" (List.replicate 64 c)).trans ?_
  rw [List.length_replicate, List.all_replicate, h]
  rfl

theorem isDigest_digits : ∀ c ∈ ['0', '1', '2', '3', '4'], isDigest (digestOf c) = true := by
  simp only [List.forall_mem_cons]
  exact ⟨isDigest_digestOf (by decide), isDigest_digestOf (by decide), isDigest_digestOf (by decide),
    isDigest_digestOf (by decide), isDigest_digestOf (by decide), fun _ h => (nomatch h)⟩

theorem digestOf_injective {c d : Char} (h : digestOf c = digestOf d) : c = d := by
  have hrest := List.append_cancel_left (String.ofList_injective h)
  exact List.eq_of_mem_replicate (hrest ▸ List.mem_replicate.mpr ⟨by decide, rfl⟩)

/-- A digest of zeros. -/
def sampleDigest : String := digestOf '0'

theorem isDigest_sampleDigest : isDigest sampleDigest = true := isDigest_digestOf (by decide)

theorem accepts_toValue {α : Type} {C : Codec α} (schema : Schema) (a : α) :
    schema.accepts (toValue C a) = schema.accepts (C.enc a) :=
  schema.accepts_sorted _ (C.unique a)

/-- Items are told apart by their values. -/
theorem accepts_uniqueItems {α : Type} {C : Codec α} (as : List α) [DecidableEq α] :
    uniqueItems.accepts ((Codec.list C).enc as) = decide as.Nodup := by
  have hinj : Function.Injective fun a => (C.enc a).sorted := fun _ _ h => C.enc_injective h
  simp only [uniqueItems, Codec.list, List.map_map, decide_eq_decide]
  exact List.nodup_map_iff hinj

theorem accepts_items {α : Type} {C : Codec α} (schema : Schema) (as : List α) :
    (items schema).accepts ((Codec.list C).enc as) = as.all fun a => schema.accepts (C.enc a) := by
  simp only [items, Codec.list, List.all_map]
  rfl

theorem accepts_count {α : Type} {C : Codec α} (low : Nat) (high : Option Nat) (as : List α) :
    (count low high).accepts ((Codec.list C).enc as)
      = (decide (low ≤ as.length) && high.all (as.length ≤ ·)) := by
  simp only [count, Codec.list, List.length_map]

theorem accepts_exactly {α : Type} {C : Codec α} (n : Nat) (as : List α) :
    (exactly n).accepts ((Codec.list C).enc as) = decide (as.length = n) := by
  rw [exactly, accepts_count, Bool.eq_iff_iff]
  simp only [Option.all_some, Bool.and_eq_true, decide_eq_true_eq]
  omega

@[simp] theorem accepts_nonempty (s : String) : nonempty.accepts (.str s) = (s != "") := rfl

@[simp] theorem accepts_digest (s : String) : digest.accepts (.str s) = isDigest s := rfl

theorem accepts_constant (text s : String) :
    (oneOfTexts [text]).accepts (.str s) = (s == text) := by
  simp only [oneOfTexts, textWith, List.contains_cons, List.contains_nil, Bool.or_false]

/-- "Null or something else", of an option that is written so. -/
theorem accepts_orNull {α : Type} {C : Codec α} (h : ∀ a, C.enc a ≠ .null) (schema : Schema)
    (hnull : schema.accepts .null = false) (o : Option α) :
    (orNull schema).accepts ((C.nullable h).enc o) = o.all fun a => schema.accepts (C.enc a) := by
  cases o with
  | none => simp [orNull, oneOf, Codec.nullable, null, hnull]
  | some a =>
    have hne : null.accepts (C.enc a) = false := by
      have henc := h a
      cases hv : C.enc a <;> first | exact absurd hv henc | rfl
    cases hs : schema.accepts (C.enc a) <;> simp [orNull, oneOf, Codec.nullable, hne, hs]

theorem orNull_null {s : Schema} (h : s.accepts .null = false) :
    (orNull s).accepts .null = true := by
  simp [orNull, oneOf_pair, h, null]

theorem accepts_null {α : Type} {C : Codec α} (h : ∀ a, C.enc a ≠ .null) (o : Option α) :
    null.accepts ((C.nullable h).enc o) = o.isNone := by
  cases o with
  | none => rfl
  | some a =>
    have henc := h a
    cases hv : C.enc a <;> simp_all [Codec.nullable, null]

/-- The statuses that a schema lists. -/
theorem accepts_status (statuses : List FinanceRunStatus) (status : FinanceRunStatus) :
    (oneOfTexts (statuses.map (·.name))).accepts (.str status.name) = statuses.contains status := by
  have hname : Function.Injective FinanceRunStatus.name := by
    intro a b h
    cases a <;> cases b <;> first | rfl | exact absurd h (by decide)
  simp [oneOfTexts, textWith, hname.eq_iff]

section statuses

variable (status : FinanceRunStatus)

theorem accepts_r1Running :
    (oneOfTexts ["r1_running"]).accepts (.str status.name) = [.r1Running].contains status :=
  accepts_status [.r1Running] status

theorem accepts_r2Running :
    (oneOfTexts ["r2_running"]).accepts (.str status.name) = [.r2Running].contains status :=
  accepts_status [.r2Running] status

theorem accepts_merging :
    (oneOfTexts ["merging"]).accepts (.str status.name) = [.merging].contains status :=
  accepts_status [.merging] status

theorem accepts_preflight :
    (oneOfTexts ["preflight"]).accepts (.str status.name) = [.preflight].contains status :=
  accepts_status [.preflight] status

theorem accepts_failed :
    (oneOfTexts ["failed"]).accepts (.str status.name) = [.failed].contains status :=
  accepts_status [.failed] status

theorem accepts_cancelled :
    (oneOfTexts ["cancelled"]).accepts (.str status.name) = [.cancelled].contains status :=
  accepts_status [.cancelled] status

theorem accepts_finished :
    (oneOfTexts ["completed", "degraded"]).accepts (.str status.name)
      = [.completed, .degraded].contains status :=
  accepts_status [.completed, .degraded] status

theorem accepts_broken :
    (oneOfTexts ["failed", "cancelled"]).accepts (.str status.name)
      = [.failed, .cancelled].contains status :=
  accepts_status [.failed, .cancelled] status

theorem accepts_terminal :
    (oneOfTexts ["completed", "degraded", "failed", "cancelled"]).accepts (.str status.name)
      = status.terminal :=
  accepts_status [.completed, .degraded, .failed, .cancelled] status

theorem accepts_activeStatus : activeStatus.accepts (.str status.name) = status.running :=
  accepts_status [.r1Running, .r2Running, .merging] status

theorem accepts_anyStatus :
    (oneOfTexts ["preflight", "r1_running", "r2_running", "merging", "completed", "degraded",
      "failed", "cancelled"]).accepts (.str status.name) = true := by
  cases status <;> decide

end statuses

/-! ### Identities -/

/-- What is asked of an identity. -/
def FinanceArtifactIdentity.wellFormed (identity : FinanceArtifactIdentity) : Bool :=
  identity.contractFamily != "" && identity.schemaId.all (· != "") && identity.revision != ""
    && isDigest identity.exactSha256 && identity.semanticDomain != ""
    && isDigest identity.semanticSha256

theorem enc_artifactIdentity (identity : FinanceArtifactIdentity) :
    FinanceArtifactIdentity.codec.enc identity
      = .obj ([("contract_family", .str identity.contractFamily)]
        ++ (identity.schemaId.map fun s => ("schema_id", Json.str s)).toList
        ++ [("revision", .str identity.revision), ("exact_sha256", .str identity.exactSha256),
          ("semantic_domain", .str identity.semanticDomain),
          ("semantic_sha256", .str identity.semanticSha256)]) := by
  cases hschema : identity.schemaId <;>
    simp [FinanceArtifactIdentity.codec, Codec.record, Fields.required, Fields.skippable,
      Fields.member, Fields.flatten, Fields.single, Fields.start, hschema, Codec.string]

theorem accepts_artifactIdentity (identity : FinanceArtifactIdentity) :
    Schemas.artifactIdentity.accepts (FinanceArtifactIdentity.codec.enc identity)
      = identity.wellFormed := by
  rw [enc_artifactIdentity, FinanceArtifactIdentity.wellFormed]
  cases hschema : identity.schemaId <;>
    simp [Schemas.artifactIdentity, identityProperties, record, allOf, isObject, required, closed,
      properties, textWith, nonempty, digest, List.lookup, Bool.and_assoc]

/-- What is asked of a binding. -/
def PortableBinding.wellFormed (binding : PortableBinding) : Bool :=
  binding.artifactRef != "" && (artifactIdentity binding).wellFormed

theorem enc_binding (binding : PortableBinding) :
    PortableBinding.codec.enc binding
      = .obj ([("artifact_ref", .str binding.artifactRef),
          ("contract_family", .str binding.contractFamily)]
        ++ (binding.schemaId.map fun s => ("schema_id", Json.str s)).toList
        ++ [("revision", .str binding.revision), ("exact_sha256", .str binding.exactSha256),
          ("semantic_domain", .str binding.semanticDomain),
          ("semantic_sha256", .str binding.semanticSha256)]) := by
  cases hschema : binding.schemaId <;>
    simp [PortableBinding.codec, Codec.record, Fields.required, Fields.skippable, Fields.member,
      Fields.flatten, Fields.single, Fields.start, hschema, Codec.string]

theorem accepts_binding (binding : PortableBinding) :
    Schemas.binding.accepts (PortableBinding.codec.enc binding) = binding.wellFormed := by
  rw [enc_binding, PortableBinding.wellFormed, FinanceArtifactIdentity.wellFormed]
  cases hschema : binding.schemaId <;>
    simp [Schemas.binding, identityProperties, record, allOf, isObject, required, closed,
      properties, textWith, nonempty, digest, List.lookup, artifactIdentity, hschema,
      Bool.and_assoc]

/-- The identity of a result. -/
def FinanceArtifactIdentity.ofResult (identity : FinanceArtifactIdentity) : Bool :=
  identity.contractFamily == "finance-review-result"
    && identity.schemaId == some financeResultSchemaId && identity.revision == "1.0"
    && identity.semanticDomain == "quinte.finance-review-result.v1"

/-- What is asked of a checkpoint. -/
def FinanceEventCheckpoint.wellFormed (checkpoint : FinanceEventCheckpoint) : Bool :=
  checkpoint.sequence.toNat ≤ maxSafeJsonInteger && isDigest checkpoint.eventSha256

theorem enc_checkpoint (c : FinanceEventCheckpoint) :
    FinanceEventCheckpoint.codec.enc c
      = .obj [("sequence", .int c.sequence.toNat), ("event_sha256", .str c.eventSha256)] := rfl

theorem accepts_checkpoint (c : FinanceEventCheckpoint) :
    Schemas.checkpoint.accepts (FinanceEventCheckpoint.codec.enc c) = c.wellFormed := by
  rw [enc_checkpoint]
  simp [Schemas.checkpoint, record, allOf, isObject, required, closed, properties, textWith,
    digest, integer, safeNonnegativeInteger, List.lookup, FinanceEventCheckpoint.wellFormed]

/-- What is asked of the facts of a termination. -/
def FinanceTerminationFacts.wellFormed (facts : FinanceTerminationFacts) : Bool :=
  facts.phase.running && !facts.retryable

theorem accepts_terminationFacts (facts : FinanceTerminationFacts) :
    Schemas.terminationFacts.accepts (FinanceTerminationFacts.codec.enc facts)
      = facts.wellFormed := by
  have henc : FinanceTerminationFacts.codec.enc facts
      = .obj [("phase", .str facts.phase.name), ("code", .str facts.code.name),
          ("retryable", .bool facts.retryable)] := rfl
  rw [henc]
  obtain ⟨phase, code, retryable⟩ := facts
  cases phase <;> cases code <;> cases retryable <;> decide

/-! ### Events -/

/-- The artifacts that an event of a run may name, by their number. -/
def wellFormedArtifacts (identities : List FinanceArtifactIdentity) (n : Nat) : Bool :=
  identities.all (·.wellFormed) && decide identities.Nodup && decide (identities.length = n)

/-- How many artifacts there are at the end of a phase. -/
def artifactsAfter : FinanceRunStatus → Nat
  | .r1Running => 7
  | .r2Running => 17
  | .merging => 24
  | _ => 25

/-- What is asked of the body of an event that is not the first one. -/
def FinanceRunEventBody.wellFormed : FinanceRunEventBody → Bool
  | .runCreated payload =>
      payload.status == .r1Running && wellFormedArtifacts payload.artifactBindings 7
  | .phaseAdvanced payload =>
      (payload.previousStatus == .r1Running && payload.status == .r2Running
          || payload.previousStatus == .r2Running && payload.status == .merging)
        && wellFormedArtifacts payload.artifactBindings (artifactsAfter payload.status)
  | .runTerminalized payload => match payload.status, payload.termination with
      | .completed, none | .degraded, none =>
          payload.previousStatus == .merging
            && payload.result.any (fun result => result.wellFormed && result.ofResult)
            && wellFormedArtifacts payload.artifactBindings 25
      | .failed, some facts =>
          payload.previousStatus == facts.phase && facts.wellFormed
            && facts.code != .operatorCancelled && payload.result == none
            && wellFormedArtifacts payload.artifactBindings (artifactsAfter facts.phase)
      | .cancelled, some facts =>
          payload.previousStatus == facts.phase && facts.wellFormed
            && facts.code == .operatorCancelled && payload.result == none
            && wellFormedArtifacts payload.artifactBindings (artifactsAfter facts.phase)
      | _, _ => false

def FinanceRunEventBody.isCreated : FinanceRunEventBody → Bool
  | .runCreated _ => true
  | _ => false

/-- What is asked of an event. -/
def FinanceRunEvent.wellFormed (event : FinanceRunEvent) : Bool :=
  event.eventVersion == "2.0" && event.runId != "" && isDigest event.runGenesisDigest
    && event.sequence.toNat ≤ maxSafeJsonInteger
    && (if event.body.isCreated then event.sequence == 0 && event.previousEventSha256 == none
        else event.sequence != 0 && event.previousEventSha256.any isDigest)
    && event.body.wellFormed

theorem accepts_artifactIdentities (identities : List FinanceArtifactIdentity) :
    artifactIdentities.accepts ((Codec.list FinanceArtifactIdentity.codec).enc identities)
      = (identities.all (·.wellFormed) && decide identities.Nodup) := by
  simp only [artifactIdentities, both, accepts_items, accepts_uniqueItems,
    accepts_artifactIdentity]

theorem accepts_createdPayload (payload : FinanceRunCreatedPayload) :
    createdPayload.accepts (FinanceRunCreatedPayload.codec.enc payload)
      = (payload.status == .r1Running && wellFormedArtifacts payload.artifactBindings 7) := by
  have henc : FinanceRunCreatedPayload.codec.enc payload
      = .obj [("status", .str payload.status.name), ("artifact_bindings",
          (Codec.list FinanceArtifactIdentity.codec).enc payload.artifactBindings)] := rfl
  rw [henc]
  simp [createdPayload, record, allOf, isObject, required, closed, properties, List.lookup, both,
    accepts_artifactIdentities, accepts_exactly, accepts_r1Running, wellFormedArtifacts]
  cases payload.status <;> rfl

/-- What a schema asks of an option that must be there. -/
theorem accepts_nullable {α : Type} {C : Codec α} (h : ∀ a, C.enc a ≠ .null) (schema : Schema)
    (hnull : schema.accepts .null = false) (o : Option α) :
    schema.accepts ((C.nullable h).enc o) = o.any fun a => schema.accepts (C.enc a) := by
  cases o with
  | none => exact hnull
  | some a => rfl

theorem enc_terminalizedPayload (payload : FinanceRunTerminalizedPayload) :
    FinanceRunTerminalizedPayload.codec.enc payload
      = .obj [("previous_status", .str payload.previousStatus.name),
          ("status", .str payload.status.name),
          ("artifact_bindings",
            (Codec.list FinanceArtifactIdentity.codec).enc payload.artifactBindings),
          ("result", (FinanceArtifactIdentity.codec.nullable (fun _ => nofun)).enc payload.result),
          ("termination",
            (FinanceTerminationFacts.codec.nullable (fun _ => nofun)).enc payload.termination)] :=
  rfl

/-- "If the run ended in this phase", of a payload with its facts. -/
theorem accepts_whenEndedIn (previous status : FinanceRunStatus)
    (identities : List FinanceArtifactIdentity) (result : Option FinanceArtifactIdentity)
    (facts : FinanceTerminationFacts) (phase : String) :
    (whenEndedIn phase).accepts (FinanceRunTerminalizedPayload.codec.enc
        { previousStatus := previous, status := status, artifactBindings := identities,
          result := result, termination := some facts })
      = ([FinanceRunStatus.failed, .cancelled].contains status && facts.phase.name == phase) := by
  have henc : (FinanceTerminationFacts.codec.nullable (fun _ => nofun)).enc (some facts)
      = .obj [("phase", .str facts.phase.name), ("code", .str facts.code.name),
          ("retryable", .bool facts.retryable)] := rfl
  rw [enc_terminalizedPayload, henc]
  simp [whenEndedIn, properties, List.lookup, accepts_broken, accepts_constant]

/-- The facts that a terminal event carries are of the phase the run was in. -/
theorem phase_of_accepts_terminalizedPayload {previous status : FinanceRunStatus}
    {identities : List FinanceArtifactIdentity} {result : Option FinanceArtifactIdentity}
    {facts : FinanceTerminationFacts}
    (h : terminalizedPayload.accepts (FinanceRunTerminalizedPayload.codec.enc
      { previousStatus := previous, status := status, artifactBindings := identities,
        result := result, termination := some facts }) = true) :
    facts.phase = previous := by
  have hparts := List.all_eq_true.mp h
  -- the record, the rule for runs that finished, and one rule for each phase
  have hrecord := hparts _ (.head _)
  have hfinished := hparts _ (.tail _ (.head _))
  have hr1 := hparts _ (.tail _ (.tail _ (.tail _ (.tail _ (.tail _ (.head _))))))
  have hr2 := hparts _ (.tail _ (.tail _ (.tail _ (.tail _ (.tail _ (.tail _ (.head _)))))))
  have hmerging :=
    hparts _ (.tail _ (.tail _ (.tail _ (.tail _ (.tail _ (.tail _ (.tail _ (.head _))))))))
  simp only [ifThen, ifElse, accepts_whenEndedIn] at hr1 hr2 hmerging
  rw [enc_terminalizedPayload] at hrecord hfinished hr1 hr2 hmerging
  simp [record, allOf, properties, List.lookup, accepts_terminal] at hrecord
  simp [ifElse, whenStatus, properties, List.lookup, accepts_finished, accepts_null,
    accepts_nullable _ terminationFacts rfl, accepts_terminationFacts] at hfinished
  simp [properties, List.lookup, accepts_r1Running] at hr1
  simp [properties, List.lookup, accepts_r2Running] at hr2
  simp [properties, List.lookup, accepts_merging] at hmerging
  obtain ⟨-, -, -, -, hterminal, -⟩ := hrecord
  obtain ⟨⟨hcompleted, hdegraded⟩, -, hfacts⟩ := hfinished
  have hbroken : status = .failed ∨ status = .cancelled := by
    cases status <;> simp_all [FinanceRunStatus.terminal]
  have hrunning : facts.phase.running = true := (Bool.and_eq_true_iff.mp hfacts).1
  cases hphase : facts.phase with
  | r1Running => exact ((if_pos ⟨hbroken, by rw [hphase]; rfl⟩).mp hr1).1.symm
  | r2Running => exact ((if_pos ⟨hbroken, by rw [hphase]; rfl⟩).mp hr2).1.symm
  | merging => exact ((if_pos ⟨hbroken, by rw [hphase]; rfl⟩).mp hmerging).1.symm
  | preflight | completed | degraded | failed | cancelled =>
    rw [hphase] at hrunning
    exact absurd hrunning (by decide)

theorem enc_runEvent (event : FinanceRunEvent) :
    FinanceRunEvent.codec.enc event
      = .obj ([("event_version", .str event.eventVersion), ("run_id", .str event.runId),
          ("run_genesis_digest", .str event.runGenesisDigest),
          ("sequence", .int event.sequence.toNat),
          ("previous_event_sha256",
            (Codec.string.nullable (fun _ => nofun)).enc event.previousEventSha256)]
        ++ FinanceRunEventBody.fields.enc event.body) :=
  rfl

theorem isObject_obj (members : List (String × Json)) :
    isObject.accepts (.obj members) = true := rfl

theorem accepts_safe (n : UInt64) :
    safeNonnegativeInteger.accepts (.int n.toNat) = decide (n.toNat ≤ maxSafeJsonInteger) := by
  simp [safeNonnegativeInteger, integer]

theorem le_of_accepts_safePositive {n : UInt64}
    (h : safePositiveInteger.accepts (.int n.toNat) = true) : n.toNat ≤ maxSafeJsonInteger := by
  have hupper := (Bool.and_eq_true_iff.mp h).2
  exact Int.ofNat_le.mp (of_decide_eq_true hupper)

theorem accepts_zero (n : UInt64) : (number 0).accepts (.int n.toNat) = (n == 0) := by
  simp [number, ← UInt64.toNat_inj, Bool.beq_eq_decide_eq]

/-- What is asked of the event that creates a run. -/
theorem accepts_runCreated (eventVersion runId runGenesisDigest : String) (sequence : UInt64)
    (previous : Option String) (payload : FinanceRunCreatedPayload) :
    runEvent.accepts (FinanceRunEvent.codec.enc
        { eventVersion := eventVersion, runId := runId, runGenesisDigest := runGenesisDigest,
          sequence := sequence, previousEventSha256 := previous, body := .runCreated payload })
      = (eventVersion == "2.0" && runId != "" && isDigest runGenesisDigest && sequence == 0
        && previous.isNone && payload.status == .r1Running
        && wellFormedArtifacts payload.artifactBindings 7) := by
  have hbody : FinanceRunEventBody.fields.enc (.runCreated payload)
      = [("event_kind", .str "run.created"),
          ("payload", FinanceRunCreatedPayload.codec.enc payload)] := rfl
  have hpayload : isObject.accepts (FinanceRunCreatedPayload.codec.enc payload) = true := rfl
  have hkind : (oneOfTexts ["run.created", "run.phase_advanced", "run.terminalized"]).accepts
      (.str "run.created") = true := by decide
  have hsafe : sequence = 0 → decide (sequence.toNat ≤ maxSafeJsonInteger) = true := by
    rintro rfl
    rfl
  rw [enc_runEvent, hbody]
  by_cases hsequence : sequence = 0
  · have hzero : (sequence == 0) = true := by simpa using hsequence
    cases previous <;>
      simp [runEvent, allOf, record, isObject_obj, required, closed, properties, List.lookup,
        ifElse, hkind, hpayload, oneOf_triple, accepts_constant, accepts_null,
        accepts_orNull _ digest rfl, accepts_createdPayload, accepts_safe, accepts_zero, hzero,
        hsafe hsequence, Bool.and_assoc]
  · have hzero : (sequence == 0) = false := by simpa using hsequence
    simp [runEvent, allOf, record, isObject_obj, required, closed, properties, List.lookup,
      ifElse, hkind, hpayload, oneOf_triple, accepts_constant, accepts_orNull _ digest rfl,
      accepts_createdPayload, accepts_safe, accepts_zero, hzero]

/-- What is asked of every event. -/
theorem fields_of_accepts_runEvent {event : FinanceRunEvent}
    (h : runEvent.accepts (FinanceRunEvent.codec.enc event) = true) :
    event.eventVersion = "2.0" ∧ event.sequence.toNat ≤ maxSafeJsonInteger ∧
      (event.sequence = 0 → event.previousEventSha256 = none) := by
  have hparts := List.all_eq_true.mp h
  have hrecord := properties_of_record (hparts _ (.head _))
  have hfirst := hparts _ (.tail _ (.head _))
  rw [enc_runEvent] at hrecord hfirst
  refine ⟨?_, ?_, fun hzero => ?_⟩
  · have hversion := accepts_member hrecord "event_version" _ (.head _) rfl
    rwa [accepts_constant, beq_iff_eq] at hversion
  · have hsequence := accepts_member hrecord "sequence" safeNonnegativeInteger (by simp)
      (v := .int event.sequence.toNat) (by simp [List.lookup])
    rwa [accepts_safe, decide_eq_true_eq] at hsequence
  -- the rule for the first event takes effect
  · have hcondition : (properties [("sequence", number 0)]).accepts (.obj ([
        ("event_version", .str event.eventVersion), ("run_id", .str event.runId),
        ("run_genesis_digest", .str event.runGenesisDigest),
        ("sequence", .int event.sequence.toNat),
        ("previous_event_sha256",
          (Codec.string.nullable (fun _ => nofun)).enc event.previousEventSha256)]
        ++ FinanceRunEventBody.fields.enc event.body)) = true := by
      simp [properties, List.lookup, hzero]
      rfl
    rw [ifElse] at hfirst
    simp only [hcondition, if_true] at hfirst
    have hprevious := accepts_member hfirst "previous_event_sha256" null (.head _)
      (by simp [List.lookup]; rfl)
    rw [accepts_null] at hprevious
    exact Option.isNone_iff_eq_none.mp hprevious

theorem accepts_runTerminalized {event : FinanceRunEvent} {payload : FinanceRunTerminalizedPayload}
    (h : runEvent.accepts (FinanceRunEvent.codec.enc event) = true)
    (hbody : event.body = .runTerminalized payload) :
    terminalizedPayload.accepts (FinanceRunTerminalizedPayload.codec.enc payload) = true := by
  have hfields : FinanceRunEventBody.fields.enc (.runTerminalized payload)
      = [("event_kind", .str "run.terminalized"),
          ("payload", FinanceRunTerminalizedPayload.codec.enc payload)] := rfl
  have hparts := List.all_eq_true.mp h _ (.tail _ (.tail _ (.head _)))
  rw [enc_runEvent, hbody, hfields] at hparts
  simp [oneOf_triple, properties, List.lookup, accepts_constant] at hparts
  exact hparts.2

/-! ### Manifests -/

theorem enc_runManifest (m : FinanceRunManifest) :
    FinanceRunManifest.codec.enc m
      = .obj [("manifest_version", .str m.manifestVersion),
          ("protocol_version", .str m.protocolVersion), ("run_id", .str m.runId),
          ("run_genesis_digest", .str m.runGenesisDigest),
          ("event_checkpoint", FinanceEventCheckpoint.codec.enc m.eventCheckpoint),
          ("status", .str m.status.name),
          ("termination",
            (FinanceTerminationFacts.codec.nullable (fun _ => nofun)).enc m.termination),
          ("policy", PortableBinding.codec.enc m.policy),
          ("invocation", PortableBinding.codec.enc m.invocation),
          ("r1_packets", (Codec.list PortableBinding.codec).enc m.r1Packets),
          ("r2_packets", (Codec.list PortableBinding.codec).enc m.r2Packets),
          ("r1_outputs", (Codec.list PortableBinding.codec).enc m.r1Outputs),
          ("r2_outputs", (Codec.list PortableBinding.codec).enc m.r2Outputs),
          ("arbiter_outputs", (Codec.list PortableBinding.codec).enc m.arbiterOutputs),
          ("result", (PortableBinding.codec.nullable (fun _ => nofun)).enc m.result)] :=
  rfl

theorem accepts_bindings (most : Nat) (bs : List PortableBinding) :
    (bindings most).accepts ((Codec.list PortableBinding.codec).enc bs)
      = (bs.all (·.wellFormed) && decide (bs.length ≤ most) && decide bs.Nodup) := by
  simp only [bindings, allOf, List.all_cons, List.all_nil, accepts_items, accepts_count,
    accepts_uniqueItems, accepts_binding, Option.all_some, Bool.and_true, Nat.zero_le,
    decide_true, Bool.true_and, Bool.and_assoc]

/-- The manifest of a run in its first phase. -/
theorem accepts_runManifest_r1Running (m : FinanceRunManifest) (hstatus : m.status = .r1Running)
    (hversions : m.manifestVersion = "3.0" ∧ m.protocolVersion = "2.0") (hid : m.runId ≠ "")
    (hgenesis : isDigest m.runGenesisDigest = true)
    (hcheckpoint : m.eventCheckpoint.wellFormed = true)
    (hbindings : m.policy.wellFormed = true ∧ m.invocation.wellFormed = true)
    (hpackets : m.r1Packets.all (·.wellFormed) = true ∧ m.r1Packets.length = 5 ∧ m.r1Packets.Nodup)
    (hnone : m.termination = none ∧ m.r2Packets = [] ∧ m.r1Outputs = [] ∧ m.r2Outputs = [] ∧
      m.arbiterOutputs = [] ∧ m.result = none) :
    runManifest.accepts (FinanceRunManifest.codec.enc m) = true := by
  obtain ⟨hmanifest, hprotocol⟩ := hversions
  obtain ⟨hpolicy, hinvocation⟩ := hbindings
  obtain ⟨hwell, hlength, hnodup⟩ := hpackets
  obtain ⟨htermination, hr2, ho1, ho2, ha, hresult⟩ := hnone
  rw [enc_runManifest, hmanifest, hprotocol, hstatus, htermination, hr2, ho1, ho2, ha, hresult]
  have hterm : (FinanceTerminationFacts.codec.nullable (fun _ => nofun)).enc none = .null := rfl
  have hres : (PortableBinding.codec.nullable (fun _ => nofun)).enc none = .null := rfl
  rw [hterm, hres]
  simp only [runManifest, allOf, List.all_cons, List.all_nil, Bool.and_true, Bool.and_eq_true]
  refine ⟨?_, ?_⟩
  · simp [record, allOf, isObject, required, closed, properties, List.lookup, accepts_bindings,
      accepts_constant, accepts_anyStatus, hgenesis, hid, hpolicy, hinvocation, accepts_binding,
      accepts_checkpoint, hcheckpoint, hlength, hnodup, orNull_null (s := terminationFacts) rfl,
      orNull_null (s := binding) rfl]
    simpa using hwell
  · simp [ifThen, ifElse, whenStatus, whenEndedIn, properties, counts, List.lookup, accepts_exactly,
      accepts_preflight, accepts_r1Running, accepts_r2Running, accepts_merging, accepts_finished,
      accepts_failed, accepts_cancelled, accepts_broken, anything, null, hlength]

/-! ### Journals -/

theorem enc_pendingTransition (pending : PendingFinanceTransition) :
    PendingFinanceTransition.codec.enc pending
      = .obj [("pending_transition_version", .str pending.pendingTransitionVersion),
          ("run_id", .str pending.runId), ("run_genesis_digest", .str pending.runGenesisDigest),
          ("transition_id", .str pending.transitionId), ("operation", .str pending.operation),
          ("old_manifest_exact_sha256",
            (Codec.string.nullable (fun _ => nofun)).enc pending.oldManifestExactSha256),
          ("old_event_checkpoint", (FinanceEventCheckpoint.codec.nullable (fun _ => nofun)).enc
            pending.oldEventCheckpoint),
          ("event_exact_sha256", .str pending.eventExactSha256),
          ("event_byte_length", .int pending.eventByteLength.toNat),
          ("event_bytes_base64", .str pending.eventBytesBase64),
          ("target_manifest_exact_sha256", .str pending.targetManifestExactSha256),
          ("target_manifest_byte_length", .int pending.targetManifestByteLength.toNat),
          ("target_manifest_bytes_base64", .str pending.targetManifestBytesBase64),
          ("artifact_bindings", (Codec.list PortableBinding.codec).enc pending.artifactBindings)] :=
  rfl

/-- The lengths in a journal are safe integers. -/
theorem lengths_of_accepts_pendingTransition {pending : PendingFinanceTransition}
    (h : pendingTransition.accepts (PendingFinanceTransition.codec.enc pending) = true) :
    pending.eventByteLength.toNat ≤ maxSafeJsonInteger ∧
      pending.targetManifestByteLength.toNat ≤ maxSafeJsonInteger := by
  simp only [pendingTransition, both, Bool.and_eq_true] at h
  have hrecord := properties_of_record h.1
  rw [enc_pendingTransition] at hrecord
  have hevent := accepts_member hrecord "event_byte_length" safePositiveInteger (by simp)
    (v := .int pending.eventByteLength.toNat) (by simp [List.lookup])
  have htarget := accepts_member hrecord "target_manifest_byte_length" safePositiveInteger (by simp)
    (v := .int pending.targetManifestByteLength.toNat) (by simp [List.lookup])
  exact ⟨le_of_accepts_safePositive hevent, le_of_accepts_safePositive htarget⟩

/-- The journal of the transition that creates a run. -/
theorem accepts_pendingTransition_create (pending : PendingFinanceTransition)
    (hversion : pending.pendingTransitionVersion = "2.0") (hid : pending.runId ≠ "")
    (hgenesis : isDigest pending.runGenesisDigest = true) (htransition : pending.transitionId ≠ "")
    (hoperation : pending.operation = "create")
    (hold : pending.oldManifestExactSha256 = none ∧ pending.oldEventCheckpoint = none)
    (hdigests : isDigest pending.eventExactSha256 = true ∧
      isDigest pending.targetManifestExactSha256 = true)
    (hevent : safePositiveInteger.accepts (.int pending.eventByteLength.toNat) = true ∧
      canonicalBase64.accepts (.str pending.eventBytesBase64) = true)
    (htarget : safePositiveInteger.accepts (.int pending.targetManifestByteLength.toNat) = true ∧
      canonicalBase64.accepts (.str pending.targetManifestBytesBase64) = true)
    (hbindings : pending.artifactBindings.all (·.wellFormed) = true ∧
      pending.artifactBindings.Nodup) :
    pendingTransition.accepts (PendingFinanceTransition.codec.enc pending) = true := by
  obtain ⟨holdDigest, holdCheckpoint⟩ := hold
  obtain ⟨hwell, hnodup⟩ := hbindings
  have hdigest : (Codec.string.nullable (fun _ => nofun)).enc none = .null := rfl
  have hcheckpoint : (FinanceEventCheckpoint.codec.nullable (fun _ => nofun)).enc none = .null := rfl
  rw [enc_pendingTransition, hversion, hoperation, holdDigest, holdCheckpoint, hdigest, hcheckpoint]
  simp only [pendingTransition, both, Bool.and_eq_true]
  refine ⟨?_, ?_⟩
  · simp [record, allOf, isObject, required, closed, properties, List.lookup, hid,
      hgenesis, htransition, hdigests, hevent, htarget, accepts_items, accepts_uniqueItems,
      accepts_binding, hnodup, orNull_null (s := digest) rfl, orNull_null (s := checkpoint) rfl,
      oneOfTexts, textWith]
    simpa using hwell
  · simp [ifElse, properties, List.lookup, accepts_constant, null]

end Quinte.Finance
