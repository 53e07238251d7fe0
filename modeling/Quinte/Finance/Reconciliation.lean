import Mathlib
import Quinte.Finance.Journal

/-! # Crashes during a transition

    A transition that is cut short after its journal was published is completed
    by `reconcilePending`, and a reconciliation that is cut short by the next
    one.

    * `buildTransitionEvent_iff`: the check of an event against its target says
      that the event is the one that is built;
    * `Transition`, `CrashState`: a transition, and the directories in which it
      was cut short;
    * `reconcilePending_crashAt`: reconciliation takes the steps that are
      missing; `settles_of_crashState`: so it settles.
-/

namespace Quinte.Finance

open Policy (require_ok bind_ok forM_ok)
open Schemas (validateValue_ok maxSafeJsonInteger)
open Recovery (perform Settles)

variable {P : Platform}

/-! ### Events and their targets -/

section target

variable {event : FinanceRunEvent} {target : FinanceRunManifest}

/-- What is asked of the body of an event. -/
def bodyFits (target : FinanceRunManifest) (created : Bool) : FinanceRunEventBody → Bool
  | .runCreated payload => created && payload.status == target.status
  | .phaseAdvanced payload => payload.status == target.status && !target.status.terminal
  | .runTerminalized payload =>
      payload.status == target.status && payload.result == target.result.map artifactIdentity
        && payload.termination == target.termination
        && target.termination.all (·.phase == payload.previousStatus) && target.status.terminal

theorem validateEventTarget_ok {oldCheckpoint : Option FinanceEventCheckpoint}
    {previous : Option FinanceRunStatus} :
    validateEventTarget event target oldCheckpoint = .ok previous ↔
      (event.runId = target.runId ∧ event.runGenesisDigest = target.runGenesisDigest ∧
        event.sequence = (oldCheckpoint.map fun c => c.sequence + 1).getD 0 ∧
        event.previousEventSha256 = oldCheckpoint.map (·.eventSha256) ∧
        manifestArtifactIdentities target = event.body.artifactBindings) ∧
      bodyFits target oldCheckpoint.isNone event.body = true ∧
      legalTransition event.body.previousStatus target.status = true ∧
      event.body.previousStatus = previous := by
  unfold validateEventTarget bodyFits
  cases event.body <;>
    simp only [bind_ok, exists_unit, require_ok, pure_ok, Bool.and_eq_true, beq_iff_eq, and_assoc]

@[simp] theorem transitionBody_artifactBindings (previous : Option FinanceRunStatus)
    (target : FinanceRunManifest) :
    (transitionBody previous target).artifactBindings = manifestArtifactIdentities target := by
  cases previous with
  | none => rfl
  | some status =>
    simp only [transitionBody]
    split <;> rfl

@[simp] theorem transitionBody_previousStatus (previous : Option FinanceRunStatus)
    (target : FinanceRunManifest) : (transitionBody previous target).previousStatus = previous := by
  cases previous with
  | none => rfl
  | some status =>
    simp only [transitionBody]
    split <;> rfl

/-- The body that is built is the one that fits. -/
theorem bodyFits_iff {previous : Option FinanceRunStatus} {body : FinanceRunEventBody}
    (hbindings : manifestArtifactIdentities target = body.artifactBindings)
    (hprevious : body.previousStatus = previous)
    (hphase : ∀ payload, body = .runTerminalized payload →
      ∀ facts ∈ payload.termination, facts.phase = payload.previousStatus) :
    bodyFits target previous.isNone body = true ↔ body = transitionBody previous target := by
  subst hprevious
  cases body with
  | runCreated payload =>
    obtain ⟨status, identities⟩ := payload
    obtain rfl : _ = identities := hbindings
    simp [bodyFits, transitionBody, FinanceRunEventBody.previousStatus]
  | phaseAdvanced payload =>
    obtain ⟨previous, status, identities⟩ := payload
    obtain rfl : _ = identities := hbindings
    cases hterminal : target.status.terminal <;>
      simp [bodyFits, transitionBody, FinanceRunEventBody.previousStatus, hterminal]
  -- the termination is bound through the phase that it names
  | runTerminalized payload =>
    obtain ⟨previous, status, identities, result, termination⟩ := payload
    obtain rfl : _ = identities := hbindings
    have hfacts := hphase _ rfl
    cases hterminal : target.status.terminal with
    | false => simp [bodyFits, transitionBody, FinanceRunEventBody.previousStatus, hterminal]
    | true =>
      simp only [bodyFits, transitionBody, FinanceRunEventBody.previousStatus, hterminal, if_true,
        Bool.and_eq_true, beq_iff_eq, and_true, Option.all_eq_true]
      constructor
      · rintro ⟨⟨⟨rfl, rfl⟩, rfl⟩, -⟩
        rfl
      · intro h
        simp only [FinanceRunEventBody.runTerminalized.injEq,
          FinanceRunTerminalizedPayload.mk.injEq] at h
        obtain ⟨-, rfl, -, rfl, rfl⟩ := h
        exact ⟨⟨⟨rfl, rfl⟩, rfl⟩, hfacts⟩

/-- **The check of an event against its target** says how it was built. -/
theorem buildTransitionEvent_iff {old : Option FinanceRunManifest}
    (haccepts : Schemas.runEvent.accepts (FinanceRunEvent.codec.enc event) = true)
    (hrun : ∀ o ∈ old, o.runId = target.runId ∧ o.runGenesisDigest = target.runGenesisDigest) :
    buildTransitionEvent old target = .ok event ↔
      validateEventTarget event target (old.map (·.eventCheckpoint)) = .ok (old.map (·.status)) := by
  obtain ⟨hversion, hsafe, hfirst⟩ := fields_of_accepts_runEvent haccepts
  have hphase : ∀ payload, event.body = .runTerminalized payload →
      ∀ facts ∈ payload.termination, facts.phase = payload.previousStatus := by
    rintro ⟨previous, status, identities, result, termination⟩ hbody facts ⟨⟩
    exact phase_of_accepts_terminalizedPayload (accepts_runTerminalized haccepts hbody)
  rw [buildTransitionEvent_ok, validateEventTarget_ok]
  constructor
  · rintro ⟨hlegal, -, hbound, rfl⟩
    refine ⟨⟨rfl, rfl, ?_, by cases old <;> rfl, (transitionBody_artifactBindings ..).symm⟩, ?_,
      by rwa [transitionBody_previousStatus], transitionBody_previousStatus ..⟩
    · cases old with
      | none => rfl
      | some o => exact (saturatingSucc_of_safe hbound).1
    · have hfits := (bodyFits_iff (transitionBody_artifactBindings ..).symm
        (transitionBody_previousStatus ..) hphase).mpr rfl
      rwa [Option.isNone_map] at hfits ⊢
  · rintro ⟨⟨hid, hgenesis, hsequence, hprevious, hbindings⟩, hfits, hlegal, hstatus⟩
    rw [Option.isNone_map, ← Option.isNone_map (f := (·.status))] at hfits
    have hbody := (bodyFits_iff hbindings hstatus hphase).mp hfits
    have hsucc : (old.map fun o => saturatingSucc o.eventCheckpoint.sequence).getD 0
        = event.sequence := by
      rw [hsequence]
      cases old with
      | none => rfl
      | some o =>
        -- a number that wraps around is 0, and the event would be the first one
        have hmax : o.eventCheckpoint.sequence ≠ UInt64.ofNat (2 ^ 64 - 1) := by
          intro hmax
          have hzero : event.sequence = 0 := by
            rw [hsequence]
            simp only [Option.map_some, Option.getD_some, hmax]
            rfl
          exact absurd (hfirst hzero) (by rw [hprevious]; simp)
        simp only [Option.map_some, Option.getD_some, saturatingSucc, if_neg hmax]
    refine ⟨by rwa [← hstatus], hrun, by rwa [hsucc], ?_⟩
    rw [hsucc, ← hid, ← hgenesis, ← hversion, ← hbody]
    cases event
    cases old <;> simp_all

end target

/-! ### Journals -/

theorem decodeCanonicalBase64_ok {encoded : String} {length : UInt64} {bytes : Bytes} :
    decodeCanonicalBase64 encoded length = .ok bytes ↔
      length.toNat ≤ maxSafeJsonInteger ∧ encoded = base64 bytes ∧ bytes.length = length.toNat := by
  have hencoded : ∀ {cs : List Char}, encoded = String.ofList cs ↔ cs = encoded.toList :=
    fun {cs} => ⟨fun h => by rw [h, String.toList_ofList], fun h => by rw [h, String.ofList_toList]⟩
  simp only [decodeCanonicalBase64, bind_ok, exists_unit, require_ok, context_ok, pure_ok,
    decide_eq_true_eq, Bool.and_eq_true, beq_iff_eq, base64, hencoded]
  refine and_congr_right fun _ => ?_
  constructor
  · rintro ⟨b, -, ⟨hencode, hlength⟩, rfl⟩
    exact ⟨hencode, hlength⟩
  · rintro ⟨hencode, hlength⟩
    exact ⟨bytes, by rw [← hencode, Base64.decode_encode], ⟨hencode, hlength⟩, rfl⟩

theorem readPending_ok {state : FileTree Bytes} {bytes : Bytes} {pending : PendingFinanceTransition}
    (hfile : state.file "pending-transition.json" = some bytes) :
    readPending P state = .ok (some pending) ↔ ∃ value, parseStrictJson P bytes = .ok value ∧
      Schemas.pendingTransition.accepts value = true ∧
      PendingFinanceTransition.codec.dec value = some pending := by
  simp only [readPending, hfile, bind_ok, exists_unit, validateValue_ok, fromValue_ok, pure_ok,
    Option.some.injEq, exists_eq_right]

/-- What a journal that is checked says. -/
structure Checked (P : Platform) (state : FileTree Bytes) (pending : PendingFinanceTransition)
    (target : FinanceRunManifest) (targetBytes : Bytes) (event : FinanceRunEvent) (line : Bytes) :
    Prop where
  version : pending.pendingTransitionVersion = "2.0"
  eventDecodes : decodeCanonicalBase64 pending.eventBytesBase64 pending.eventByteLength = .ok line
  targetDecodes : decodeCanonicalBase64 pending.targetManifestBytesBase64
    pending.targetManifestByteLength = .ok targetBytes
  eventDigest : exactDigest P line = pending.eventExactSha256
  targetDigest : exactDigest P targetBytes = pending.targetManifestExactSha256
  eventLine : canonicalEventLine event = .ok line
  operation : transitionOperation event.body = pending.operation
  targetReads : ∃ value, parseStrictJson P targetBytes = .ok value ∧
    Schemas.runManifest.accepts value = true ∧ FinanceRunManifest.codec.dec value = some target
  runId : pending.runId = target.runId
  runGenesisDigest : pending.runGenesisDigest = target.runGenesisDigest
  checkpoint : target.eventCheckpoint
    = { sequence := event.sequence, eventSha256 := pending.eventExactSha256 }
  bindings : pending.artifactBindings = manifestArtifactBindings target
  fits : validateEventTarget event target pending.oldEventCheckpoint
    = .ok event.body.previousStatus
  artifacts : validateStateArtifacts P state target = .ok ()

theorem validatePending_ok {state : FileTree Bytes} {pending : PendingFinanceTransition}
    {target : FinanceRunManifest} {targetBytes line : Bytes} {event : FinanceRunEvent} :
    validatePending P state pending = .ok (target, targetBytes, event, line) ↔
      Checked P state pending target targetBytes event line := by
  simp only [validatePending, bind_ok, exists_unit, require_ok, validateValue_ok, fromValue_ok,
    pure_ok, beq_iff_eq, Bool.and_eq_true, Prod.mk.injEq]
  constructor
  · rintro ⟨hversion, bytes, hbytes, tbytes, htbytes, ⟨hdigest, htdigest⟩, value, hvalue, haccepts,
      ev, hev, text, htext, ⟨rfl, hoperation⟩, tvalue, htvalue, htaccepts, t, ht,
      ⟨⟨⟨⟨hid, hgenesis⟩, hsequence⟩, hsha⟩, hbindings⟩, previous, hfits, hartifacts, rfl, rfl, rfl, rfl⟩
    obtain ⟨-, -, -, hprevious⟩ := validateEventTarget_ok.mp hfits
    exact ⟨hversion, hbytes, htbytes, hdigest, htdigest, htext, hoperation, ⟨_, htvalue, htaccepts,
      ht⟩, hid, hgenesis, by rw [← hsequence, ← hsha], hbindings, hprevious ▸ hfits, hartifacts⟩
  · intro h
    obtain ⟨haccepts, hline⟩ := canonicalEventLine_ok.mp h.eventLine
    obtain ⟨tvalue, htvalue, htaccepts, ht⟩ := h.targetReads
    exact ⟨h.version, line, h.eventDecodes, targetBytes, h.targetDecodes, ⟨h.eventDigest,
      h.targetDigest⟩, _, hline ▸ parseStrictJson_line depth_runEvent event, haccepts, event,
      fromValue_ok.mp (fromValue_toValue event), line, h.eventLine, ⟨rfl, h.operation⟩, tvalue, htvalue,
      htaccepts, target, ht, ⟨⟨⟨⟨h.runId, h.runGenesisDigest⟩, by rw [h.checkpoint]⟩,
      by rw [h.checkpoint]⟩, h.bindings⟩, _, h.fits, h.artifacts, rfl, rfl, rfl, rfl⟩

/-- The ledger ends with the event of a journal. -/
def LedgerIsTarget (ledger : FinanceLedger) (target : FinanceRunManifest) (line : Bytes) : Prop :=
  ledger.checkpoint = some target.eventCheckpoint ∧ ledger.lines.getLast? = some line

instance (ledger : FinanceLedger) (target : FinanceRunManifest) (line : Bytes) :
    Decidable (LedgerIsTarget ledger target line) := inferInstanceAs (Decidable (_ ∧ _))

/-- What the functions of reconciliation return. -/
theorem reconcileSteps_ok {state : FileTree Bytes} {pending : PendingFinanceTransition}
    {steps : List Step} :
    reconcileSteps P state pending = .ok steps ↔ ∃ target targetBytes event line ledger,
      Checked P state pending target targetBytes event line ∧
      readFinanceLedger P state = .ok ledger ∧
      ((state.file "manifest.json").map (exactDigest P) = some pending.targetManifestExactSha256 →
        LedgerIsTarget ledger target line) ∧
      (((state.file "manifest.json").map (exactDigest P) = pending.oldManifestExactSha256 ∧
          validateReplaced P state pending event (state.file "manifest.json") = .ok () ∧
          (ledger.checkpoint = pending.oldEventCheckpoint ∨ LedgerIsTarget ledger target line) ∧
          steps = (if ledger.checkpoint = pending.oldEventCheckpoint
              then [FileStep.append "events.jsonl" line] else [])
            ++ [.write "manifest.json" targetBytes, .remove "pending-transition.json"])
        ∨ ((state.file "manifest.json").map (exactDigest P) ≠ pending.oldManifestExactSha256 ∧
          (state.file "manifest.json").map (exactDigest P)
            = some pending.targetManifestExactSha256 ∧
          steps = [.remove "pending-transition.json"])) := by
  -- the checks of the source, one after the other
  simp only [reconcileSteps, bind_ok, exists_unit, require_ok, Prod.exists, validatePending_ok,
    Bool.or_eq_true, beq_iff_eq, Bool.and_eq_true, Bool.not_eq_true', Bool.and_eq_false_iff,
    beq_eq_false_iff_ne, Bool.not_eq_false']
  constructor
  · rintro ⟨target, targetBytes, event, line, hchecked, hmanifest, ledger, hread, hledger, hahead,
      hsteps⟩
    refine ⟨target, targetBytes, event, line, ledger, hchecked, hread,
      fun h => hahead.resolve_left fun hne => hne h, ?_⟩
    split at hsteps
    · rename_i hold
      simp only [bind_ok, exists_unit, pure_ok] at hsteps
      exact .inl ⟨hold, hsteps.1, hledger, hsteps.2.symm⟩
    · rename_i hold
      exact .inr ⟨hold, hmanifest.resolve_left hold, (Except.ok.inj hsteps).symm⟩
  · rintro ⟨target, targetBytes, event, line, ledger, hchecked, hread, hahead, hcases⟩
    refine ⟨target, targetBytes, event, line, hchecked, ?_, ledger, hread, ?_,
      or_iff_not_imp_left.mpr fun h => hahead (not_not.mp h), ?_⟩
    · exact hcases.imp (fun h => h.1) fun h => h.2.1
    · rcases hcases with h | h
      · exact h.2.2.1
      · exact .inr (hahead h.2.1)
    · rcases hcases with ⟨hold, hreplaced, -, rfl⟩ | ⟨hold, -, rfl⟩
      · simp only [if_pos hold, bind_ok, exists_unit, pure_ok]
        exact ⟨hreplaced, trivial⟩
      · rw [if_neg hold]
        rfl

/-- Artifacts are checked where they lie. -/
theorem validateStateArtifacts_congr {s t : FileTree Bytes} {manifest : FinanceRunManifest}
    (h : ∀ binding ∈ manifestArtifactBindings manifest,
      s.file binding.artifactRef = t.file binding.artifactRef)
    (hs : validateStateArtifacts P s manifest = .ok ()) :
    validateStateArtifacts P t manifest = .ok () := by
  unfold validateStateArtifacts at hs ⊢
  rw [forM_ok] at hs ⊢
  intro binding hbinding
  have hartifact := hs binding hbinding
  rwa [validateStateArtifact, h binding hbinding] at hartifact

theorem pendingOf_ok {current : Option (Bytes × FinanceRunManifest)} {event : FinanceRunEvent}
    {target : FinanceRunManifest} {line targetBytes : Bytes} {pending : PendingFinanceTransition} :
    pendingOf P current event line target targetBytes = .ok pending ↔ ∃ id,
      transitionId P target event (current.map fun c => exactDigest P c.1) (exactDigest P line)
        (exactDigest P targetBytes) = .ok id ∧
      line.length < 2 ^ 64 ∧ targetBytes.length < 2 ^ 64 ∧
      pending = {
        pendingTransitionVersion := "2.0"
        runId := target.runId
        runGenesisDigest := target.runGenesisDigest
        transitionId := id
        operation := transitionOperation event.body
        oldManifestExactSha256 := current.map fun c => exactDigest P c.1
        oldEventCheckpoint := current.map fun c => c.2.eventCheckpoint
        eventExactSha256 := exactDigest P line
        eventByteLength := UInt64.ofNat line.length
        eventBytesBase64 := base64 line
        targetManifestExactSha256 := exactDigest P targetBytes
        targetManifestByteLength := UInt64.ofNat targetBytes.length
        targetManifestBytesBase64 := base64 targetBytes
        artifactBindings := manifestArtifactBindings target } := by
  have hlength : ∀ {bytes : Bytes} {n : UInt64}, lengthU64 bytes = .ok n ↔
      bytes.length < 2 ^ 64 ∧ UInt64.ofNat bytes.length = n := by
    intro bytes n
    unfold lengthU64
    split <;> simp_all
  simp only [pendingOf, bind_ok, pure_ok, hlength]
  constructor
  · rintro ⟨id, hid, _, ⟨hline, rfl⟩, _, ⟨htarget, rfl⟩, rfl⟩
    exact ⟨id, hid, hline, htarget, rfl⟩
  · rintro ⟨id, hid, hline, htarget, rfl⟩
    exact ⟨id, hid, _, ⟨hline, rfl⟩, _, ⟨htarget, rfl⟩, rfl⟩

theorem decodeCanonicalBase64_base64 {bytes : Bytes} (hlength : bytes.length < 2 ^ 64)
    (hsafe : (UInt64.ofNat bytes.length).toNat ≤ maxSafeJsonInteger) :
    decodeCanonicalBase64 (base64 bytes) (UInt64.ofNat bytes.length) = .ok bytes :=
  decodeCanonicalBase64_ok.mpr ⟨hsafe, rfl, (UInt64.toNat_ofNat_of_lt' hlength).symm⟩

/-- A journal that a transition writes passes its checks. -/
theorem checked_of_pendingOf {state : FileTree Bytes} {current : Option (Bytes × FinanceRunManifest)}
    {event : FinanceRunEvent} {target : FinanceRunManifest} {line : Bytes}
    {pending : PendingFinanceTransition}
    (hevent : buildTransitionEvent (current.map (·.2)) target = .ok event)
    (hline : canonicalEventLine event = .ok line)
    (hcheckpoint : target.eventCheckpoint
      = { sequence := event.sequence, eventSha256 := exactDigest P line })
    (htarget : Schemas.runManifest.accepts (toValue FinanceRunManifest.codec target) = true)
    (hartifacts : validateStateArtifacts P state target = .ok ())
    (hpending : pendingOf P current event line target
      (toVecPretty FinanceRunManifest.codec target) = .ok pending)
    (haccepts : Schemas.pendingTransition.accepts
      (toValue PendingFinanceTransition.codec pending) = true) :
    Checked P state pending target (toVecPretty FinanceRunManifest.codec target) event line := by
  obtain ⟨hlegal, hrun, -, hfields⟩ := buildTransitionEvent_ok.mp hevent
  have hfits := (buildTransitionEvent_iff (accepts_toValue _ _ ▸ (canonicalEventLine_ok.mp hline).1)
    hrun).mp hevent
  have hread := parseStrictJson_toVecPretty (P := P) depth_runManifest target
  rw [accepts_toValue] at haccepts
  obtain ⟨hsafe, hsafe'⟩ := lengths_of_accepts_pendingTransition haccepts
  -- the bytes of the target only matter as they are read back
  generalize toVecPretty FinanceRunManifest.codec target = targetBytes at hpending hread ⊢
  obtain ⟨id, -, hlength, hlength', rfl⟩ := pendingOf_ok.mp hpending
  refine ⟨rfl, decodeCanonicalBase64_base64 hlength hsafe, decodeCanonicalBase64_base64 hlength'
    hsafe', rfl, rfl, hline, rfl, ⟨_, hread, htarget, fromValue_ok.mp (fromValue_toValue target)⟩,
    rfl, rfl, hcheckpoint, rfl, ?_, hartifacts⟩
  have hstatus : event.body.previousStatus = (current.map (·.2)).map (·.status) := by
    rw [hfields, transitionBody_previousStatus]
  rw [hstatus]
  simpa only [Option.map_map, Function.comp_def] using hfits

/-! ### Transitions that are cut short -/

/-- The three files that a transition writes. -/
def controlFiles : List String := ["pending-transition.json", "events.jsonl", "manifest.json"]

/-- The artifacts are other files. -/
def Apart (manifest : FinanceRunManifest) : Prop :=
  ∀ binding ∈ manifestArtifactBindings manifest, binding.artifactRef ∉ controlFiles

/-- A transition whose artifacts are other files than the three. -/
structure Transition (P : Platform) (start : FileTree Bytes) (target : FinanceRunManifest)
    (steps : List Step) : Prop where
  runs : ∃ manifest, transitionWithPending P start manifest = .ok (target, steps)
  apart : Apart target
  oldApart : ∀ current, currentManifest P start = .ok (some current) → Apart current.2

/-- A directory in which the transition was cut short after `k` steps.  The
    journal is the same value, however it is laid out. -/
structure CrashAt (P : Platform) (start : FileTree Bytes) (steps : List Step) (k : Nat)
    (s : FileTree Bytes) : Prop where
  position : k = 1 ∨ k = 2 ∨ k = 3
  journal : (s.file "pending-transition.json").map (parseStrictJson P)
    = ((perform FileStep.apply (steps.take k) start).file "pending-transition.json").map
      (parseStrictJson P)
  files : ∀ path, path ≠ "pending-transition.json" →
    s.file path = (perform FileStep.apply (steps.take k) start).file path

/-- A directory in which a transition to `final` was cut short. -/
def CrashState (P : Platform) (s final : FileTree Bytes) : Prop :=
  ∃ start target steps k, Transition P start target steps ∧ CrashAt P start steps k s ∧
    final = perform FileStep.apply steps start

section crash

variable {start s : FileTree Bytes} {target : FinanceRunManifest} {steps : List Step} {k : Nat}
  {pending : PendingFinanceTransition} {line targetBytes : Bytes}

/-- The files after `k` steps. -/
theorem file_take_transitionSteps (start : FileTree Bytes) (pending : PendingFinanceTransition)
    (line targetBytes : Bytes) (hk : k = 1 ∨ k = 2 ∨ k = 3) :
    let t := perform FileStep.apply ((transitionSteps pending line targetBytes).take k) start
    t.file "pending-transition.json"
        = some (toVecPretty PendingFinanceTransition.codec pending) ∧
      t.file "events.jsonl"
        = (if k = 1 then start.file "events.jsonl"
          else some ((start.file "events.jsonl").getD [] ++ line)) ∧
      t.file "manifest.json" = (if k = 3 then some targetBytes else start.file "manifest.json") ∧
      ∀ path ∉ controlFiles, t.file path = start.file path := by
  rcases hk with rfl | rfl | rfl <;>
    simp +contextual [transitionSteps, FileStep.apply, controlFiles, FileTree.write]

theorem readFinanceLedger_congr {s t : FileTree Bytes}
    (h : s.file "events.jsonl" = t.file "events.jsonl") :
    readFinanceLedger P s = readFinanceLedger P t := by
  rw [readFinanceLedger, readFinanceLedger, h]

/-- A transition changes the status. -/
theorem not_legalTransition_self (status : FinanceRunStatus) :
    legalTransition (some status) status = false := by
  cases status <;> rfl

theorem validateReplaced_of {state : FileTree Bytes} {event : FinanceRunEvent}
    {current : Option (Bytes × FinanceRunManifest)}
    (hfile : state.file "manifest.json" = current.map (·.1))
    (hread : ∀ c ∈ current, ∃ value, parseStrictJson P c.1 = .ok value ∧
      FinanceRunManifest.codec.dec value = some c.2)
    (hold : pending.oldManifestExactSha256 = current.map fun c => exactDigest P c.1)
    (hcheckpoint : pending.oldEventCheckpoint = current.map fun c => c.2.eventCheckpoint)
    (hstatus : event.body.previousStatus = current.map fun c => c.2.status)
    (hrun : ∀ c ∈ current, c.2.runId = pending.runId ∧
      c.2.runGenesisDigest = pending.runGenesisDigest)
    (hartifacts : ∀ c ∈ current, validateStateArtifacts P state c.2 = .ok ()) :
    validateReplaced P state pending event (state.file "manifest.json") = .ok () := by
  cases current with
  | none =>
    rw [hfile]
    simp only [Option.map_none, validateReplaced, require_ok, hold, hcheckpoint]
    rfl
  | some c =>
    obtain ⟨value, hvalue, hdec⟩ := hread c rfl
    obtain ⟨hid, hgenesis⟩ := hrun c rfl
    rw [hfile]
    simp only [Option.map_some, validateReplaced, bind_ok, exists_unit, require_ok, fromValue_ok,
      Bool.and_eq_true, beq_iff_eq]
    exact ⟨value, hvalue, c.2, hdec, ⟨⟨⟨hstatus.symm, hcheckpoint.symm⟩, hid⟩, hgenesis⟩,
      hartifacts c rfl⟩

/-- The manifest that is replaced is another one than the target, with another
    checkpoint. -/
theorem ne_target {old : FinanceRunManifest} {bytes : Bytes} {value : Json} {event : FinanceRunEvent}
    (hevent : buildTransitionEvent (some old) target = .ok event)
    (hcheckpoint : target.eventCheckpoint.sequence = event.sequence)
    (hvalue : parseStrictJson P bytes = .ok value)
    (hdec : FinanceRunManifest.codec.dec value = some old) :
    bytes ≠ toVecPretty FinanceRunManifest.codec target ∧
      old.eventCheckpoint ≠ target.eventCheckpoint := by
  obtain ⟨hlegal, -, hsafe, hfields⟩ := buildTransitionEvent_ok.mp hevent
  constructor
  · intro heq
    rw [heq, parseStrictJson_toVecPretty depth_runManifest] at hvalue
    obtain rfl := Except.ok.inj hvalue
    have hdec' := fromValue_ok.mp (fromValue_toValue (C := FinanceRunManifest.codec) target)
    obtain rfl := Option.some.inj (hdec'.symm.trans hdec)
    exact absurd hlegal (by simp [not_legalTransition_self])
  · intro heq
    have hnat := congrArg UInt64.toNat (hcheckpoint.trans (congrArg (·.sequence) hfields))
    rw [← heq] at hnat
    have hsucc := saturatingSucc_toNat hsafe
    simp only [Option.map_some, Option.getD_some] at hnat hsucc
    omega

theorem depth_pendingTransition : PendingFinanceTransition.codec.depth ≤ 100 := by decide

/-- What a transition that was cut short has left behind. -/
structure Cut (P : Platform) (start : FileTree Bytes) (target : FinanceRunManifest) (k : Nat)
    (s : FileTree Bytes) (current : Option (Bytes × FinanceRunManifest)) (event : FinanceRunEvent)
    (line : Bytes) (pending : PendingFinanceTransition) : Prop where
  currentReads : currentManifest P start = .ok current
  old : validateOld P start (current.map (·.2)) = .ok ()
  built : buildTransitionEvent (current.map (·.2)) target = .ok event
  eventLine : canonicalEventLine event = .ok line
  written : pendingOf P current event line target (toVecPretty FinanceRunManifest.codec target)
    = .ok pending
  apart : Apart target
  oldApart : ∀ c ∈ current, Apart c.2
  journal : (s.file "pending-transition.json").map (parseStrictJson P)
    = some (.ok (toValue PendingFinanceTransition.codec pending))
  reads : readPending P s = .ok (some pending)
  checked : Checked P s pending target (toVecPretty FinanceRunManifest.codec target) event line
  ledgerFile : s.file "events.jsonl" = if k = 1 then start.file "events.jsonl"
    else some ((start.file "events.jsonl").getD [] ++ line)
  manifestFile : s.file "manifest.json"
    = if k = 3 then some (toVecPretty FinanceRunManifest.codec target)
      else start.file "manifest.json"
  others : ∀ path ∉ controlFiles, s.file path = start.file path

theorem readPending_of_journal {s : FileTree Bytes} {pending : PendingFinanceTransition}
    (h : (s.file "pending-transition.json").map (parseStrictJson P)
      = some (.ok (toValue PendingFinanceTransition.codec pending)))
    (haccepts : Schemas.pendingTransition.accepts
      (toValue PendingFinanceTransition.codec pending) = true) :
    readPending P s = .ok (some pending) := by
  obtain ⟨bytes, hbytes, hvalue⟩ := Option.map_eq_some_iff.mp h
  exact (readPending_ok hbytes).mpr ⟨_, hvalue, haccepts, fromValue_ok.mp (fromValue_toValue pending)⟩

theorem cut_of_crashAt (h : Transition P start target steps) (hs : CrashAt P start steps k s) :
    ∃ current event line pending, Cut P start target k s current event line pending ∧
      steps = transitionSteps pending line (toVecPretty FinanceRunManifest.codec target) := by
  obtain ⟨⟨manifest, hruns⟩, hapart, holdApart⟩ := h
  obtain ⟨-, current, event, line, pending, hcurrent, hold, hevent, hline, htarget, haccepts,
    hartifacts, hpending, hpaccepts, rfl⟩ := transitionWithPending_ok.mp hruns
  have hcheckpoint : target.eventCheckpoint
      = { sequence := event.sequence, eventSha256 := exactDigest P line } := by
    rw [htarget]
    rfl
  have hbuilt : buildTransitionEvent (current.map (·.2)) target = .ok event := by
    rw [htarget]
    exact hevent
  obtain ⟨hjournalFile, hledgerFile, hmanifestFile, hother⟩ :=
    file_take_transitionSteps start pending line (toVecPretty FinanceRunManifest.codec target)
      hs.position
  rw [← hs.files _ (by decide)] at hledgerFile hmanifestFile
  have hothers : ∀ path ∉ controlFiles, s.file path = start.file path := fun path hpath =>
    (hs.files path fun heq => hpath (by rw [heq]; decide)).trans (hother path hpath)
  have hjournal := hs.journal
  rw [hjournalFile, Option.map_some, parseStrictJson_toVecPretty depth_pendingTransition]
    at hjournal
  -- everything but the three control files is as it was
  exact ⟨current, event, line, pending, {
    currentReads := hcurrent
    old := hold
    built := hbuilt
    eventLine := hline
    written := hpending
    apart := hapart
    oldApart := fun c hc => holdApart c (hcurrent.trans (congrArg _ hc))
    journal := hjournal
    reads := readPending_of_journal hjournal hpaccepts
    checked := checked_of_pendingOf hbuilt hline hcheckpoint haccepts
      (validateStateArtifacts_congr (fun b hb => (hothers _ (hapart b hb)).symm) hartifacts)
      hpending hpaccepts
    ledgerFile := hledgerFile
    manifestFile := hmanifestFile
    others := hothers }, rfl⟩

section cut

variable {event : FinanceRunEvent} {line : Bytes} {current : Option (Bytes × FinanceRunManifest)}

theorem Cut.oldDigest (hcut : Cut P start target k s current event line pending) :
    pending.oldManifestExactSha256 = current.map fun c => exactDigest P c.1 := by
  obtain ⟨-, -, -, -, rfl⟩ := pendingOf_ok.mp hcut.written
  rfl

theorem Cut.oldCheckpoint (hcut : Cut P start target k s current event line pending) :
    pending.oldEventCheckpoint = current.map fun c => c.2.eventCheckpoint := by
  obtain ⟨-, -, -, -, rfl⟩ := pendingOf_ok.mp hcut.written
  rfl

/-- Until the last step the old manifest is in place, and passes the checks. -/
theorem Cut.replaced (hcut : Cut P start target k s current event line pending) (hk : k ≠ 3) :
    s.file "manifest.json" = current.map (·.1) ∧
      validateReplaced P s pending event (s.file "manifest.json") = .ok () := by
  obtain ⟨hcurrentFile, hcurrentRead⟩ := currentManifest_ok.mp hcut.currentReads
  obtain ⟨-, hrun, -, hfields⟩ := buildTransitionEvent_ok.mp hcut.built
  have hfile : s.file "manifest.json" = current.map (·.1) := by
    rw [hcut.manifestFile, if_neg hk]
    exact hcurrentFile
  refine ⟨hfile, validateReplaced_of hfile hcurrentRead hcut.oldDigest hcut.oldCheckpoint ?_ ?_ ?_⟩
  · rw [hfields, transitionBody_previousStatus, Option.map_map]
    rfl
  · rw [hcut.checked.runId, hcut.checked.runGenesisDigest]
    exact fun c hc => hrun c.2 (Option.mem_map_of_mem _ hc)
  · intro c hc
    have hold := hcut.old
    rw [hc] at hold
    simp only [Option.map_some, validateOld, bind_ok, exists_unit] at hold
    exact validateStateArtifacts_congr
      (fun b hb => (hcut.others _ (hcut.oldApart c hc b hb)).symm) hold.2.1

/-- The old manifest is not the target, nor is its checkpoint. -/
theorem Cut.ne_target (hsha : Function.Injective P.sha256)
    (hcut : Cut P start target k s current event line pending) :
    pending.oldManifestExactSha256 ≠ some pending.targetManifestExactSha256 ∧
      some target.eventCheckpoint ≠ pending.oldEventCheckpoint := by
  have hne : ∀ c ∈ current, exactDigest P c.1 ≠ pending.targetManifestExactSha256 ∧
      c.2.eventCheckpoint ≠ target.eventCheckpoint := by
    intro c hc
    obtain rfl := Option.mem_def.mp hc
    obtain ⟨value, hvalue, hdec⟩ := (currentManifest_ok.mp hcut.currentReads).2 c rfl
    obtain ⟨hbytes, hcheckpoint⟩ := Quinte.Finance.ne_target hcut.built
      (congrArg (·.sequence) hcut.checked.checkpoint) hvalue hdec
    rw [← hcut.checked.targetDigest]
    exact ⟨fun heq => hbytes (hsha heq), hcheckpoint⟩
  constructor
  · rw [hcut.oldDigest]
    intro heq
    obtain ⟨c, hc, heq⟩ := Option.map_eq_some_iff.mp heq
    exact (hne c hc).1 heq
  · rw [hcut.oldCheckpoint]
    intro heq
    obtain ⟨c, hc, heq⟩ := Option.map_eq_some_iff.mp heq.symm
    exact (hne c hc).2 heq

end cut

/-- **Reconciliation takes the steps that are missing.** -/
theorem reconcilePending_crashAt (hsha : Function.Injective P.sha256)
    (h : Transition P start target steps) (hs : CrashAt P start steps k s) :
    reconcilePending P s = .ok (steps.drop k) := by
  obtain ⟨current, event, line, pending, hcut, rfl⟩ := cut_of_crashAt h hs
  obtain ⟨hdigest_ne, hcheckpoint_ne⟩ := hcut.ne_target hsha
  obtain ⟨ledger, hledger, hledgerCheckpoint, hnext⟩ :=
    readLedgerLine_transition hcut.old hcut.built hcut.eventLine
  have hdigest : s.file "manifest.json" = current.map (·.1) →
      (s.file "manifest.json").map (exactDigest P) = pending.oldManifestExactSha256 := by
    intro hfile
    rw [hfile, hcut.oldDigest, Option.map_map]
    rfl
  have htargetLedger : LedgerIsTarget ⟨ledger.events ++ [event], ledger.lines ++ [line],
      ledger.digests ++ [exactDigest P line]⟩ target line := by
    constructor
    · simp [FinanceLedger.checkpoint, hcut.checked.checkpoint, hcut.checked.eventDigest]
    · simp
  rw [reconcilePending, hcut.reads]
  refine reconcileSteps_ok.mpr ?_
  rcases hs.position with rfl | rfl | rfl
  · obtain ⟨hfile, hvalid⟩ := hcut.replaced (by decide)
    have hread : readFinanceLedger P s = .ok ledger :=
      (readFinanceLedger_congr hcut.ledgerFile).trans hledger
    have hold := hledgerCheckpoint.trans (hcut.oldCheckpoint.trans (Option.map_map ..).symm).symm
    refine ⟨target, _, event, line, ledger, hcut.checked, hread, fun htarget => ?_,
      .inl ⟨hdigest hfile, hvalid, .inl hold, ?_⟩⟩
    · exact absurd ((hdigest hfile).symm.trans htarget) hdigest_ne
    · rw [if_pos hold]
      rfl
  · obtain ⟨hfile, hvalid⟩ := hcut.replaced (by decide)
    refine ⟨target, _, event, line, _, hcut.checked,
      readFinanceLedger_append hledger hcut.ledgerFile hnext,
      fun _ => htargetLedger, .inl ⟨hdigest hfile, hvalid, .inr htargetLedger, ?_⟩⟩
    rw [if_neg fun hold => hcheckpoint_ne (htargetLedger.1.symm.trans hold)]
    rfl
  · have htargetDigest : (s.file "manifest.json").map (exactDigest P)
        = some pending.targetManifestExactSha256 := by
      rw [hcut.manifestFile, if_pos rfl, Option.map_some, hcut.checked.targetDigest]
    refine ⟨target, _, event, line, _, hcut.checked,
      readFinanceLedger_append hledger hcut.ledgerFile hnext,
      fun _ => htargetLedger, .inr ⟨?_, htargetDigest, rfl⟩⟩
    exact fun hold => hdigest_ne (hold.symm.trans htargetDigest)

theorem perform_drop (hs : CrashAt P start (transitionSteps pending line targetBytes) k s) :
    perform FileStep.apply ((transitionSteps pending line targetBytes).drop k) s
      = perform FileStep.apply (transitionSteps pending line targetBytes) start := by
  refine FileTree.ext fun path => ?_
  by_cases hpath : path = "pending-transition.json"
  · subst hpath
    rcases hs.position with rfl | rfl | rfl <;> simp [transitionSteps, FileStep.apply]
  · rw [FileStep.perform_congr _ (hs.files path hpath), ← Recovery.perform_append,
      List.take_append_drop]

/-- A reconciliation that is cut short leaves the directory further on. -/
theorem crashAt_take (hs : CrashAt P start (transitionSteps pending line targetBytes) k s) {j : Nat}
    (hj : k + j ≤ 3) :
    CrashAt P start (transitionSteps pending line targetBytes) (k + j)
      (perform FileStep.apply (((transitionSteps pending line targetBytes).drop k).take j) s) := by
  have hk := hs.position
  have hposition : k + j = 1 ∨ k + j = 2 ∨ k + j = 3 := by omega
  obtain ⟨hjournal, -⟩ := file_take_transitionSteps start pending line targetBytes hk
  obtain ⟨hjournal', -⟩ := file_take_transitionSteps start pending line targetBytes hposition
  refine ⟨hposition, ?_, fun path hpath => ?_⟩
  · have hsame : (perform FileStep.apply (((transitionSteps pending line targetBytes).drop k).take j)
        s).file "pending-transition.json" = s.file "pending-transition.json" := by
      refine FileStep.perform_frame (fun step hstep => ?_) s
      have hpath : step.path = "events.jsonl" ∨ step.path = "manifest.json" := by
        have hbound : j ≤ 2 := by omega
        rcases hk with rfl | rfl | rfl <;> interval_cases j <;>
          simp [transitionSteps] at hstep hj
        · exact .inl (hstep ▸ rfl)
        · rcases hstep with rfl | rfl
          · exact .inl rfl
          · exact .inr rfl
        · exact .inr (hstep ▸ rfl)
      rcases hpath with h | h <;> rw [h] <;> decide
    rw [hsame, hs.journal, hjournal, hjournal']
  · rw [FileStep.perform_congr _ (hs.files path hpath), ← Recovery.perform_append, List.take_add]

/-- **Reconciliation settles** a transition that was cut short. -/
theorem settles_of_crashState (hsha : Function.Injective P.sha256) {final : FileTree Bytes}
    (h : CrashState P s final) : Settles FileStep.apply (reconcilePending P) s final := by
  obtain ⟨start, target, steps, k, htransition, hs, rfl⟩ := h
  obtain ⟨⟨manifest, hruns⟩, -⟩ := id htransition
  obtain ⟨-, current, event, line, pending, -, -, -, -, -, -, -, -, -, rfl⟩ :=
    transitionWithPending_ok.mp hruns
  refine Recovery.settles_of_closed (fun t => (∃ k, CrashAt P start (transitionSteps pending line
      (toVecPretty FinanceRunManifest.codec target)) k t)
    ∨ t = perform FileStep.apply (transitionSteps pending line
      (toVecPretty FinanceRunManifest.codec target)) start) ?_ (.inl ⟨k, hs⟩)
  rintro t (⟨k, ht⟩ | rfl)
  · refine ⟨_, reconcilePending_crashAt hsha htransition ht, perform_drop ht, fun j => ?_⟩
    by_cases hj : k + j ≤ 3
    · exact .inl ⟨k + j, crashAt_take ht hj⟩
    · right
      rw [List.take_of_length_le (by simp [transitionSteps]; omega), perform_drop ht]
  · refine ⟨[], ?_, rfl, fun j => .inr (by rw [List.take_nil]; rfl)⟩
    have hnone : (perform FileStep.apply (transitionSteps pending line
        (toVecPretty FinanceRunManifest.codec target)) start).file "pending-transition.json"
          = none := by
      simp [transitionSteps, FileStep.apply]
    simp only [reconcilePending, readPending, hnone]
    rfl

end crash

end Quinte.Finance
