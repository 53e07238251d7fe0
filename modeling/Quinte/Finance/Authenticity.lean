import Mathlib
import Quinte.Finance.Reconciliation

/-! # The journals that reconciliation accepts

    Reconciliation completes every transition that was cut short, and refuses
    most other journals; but it takes over some fields unread.

    * `Admitted`: a directory with a journal that passes all the checks;
    * `Authentic`: what is missing for such a journal to be one that a
      transition has written; `crashState_iff` says that nothing else is;
    * `reconcile_exact_iff`: so reconciliation fails closed exactly where no
      journal passes the checks that is not authentic.
-/

namespace Quinte.Finance

open Policy (require_ok bind_ok)
open Schemas (validateValue_ok maxSafeJsonInteger)
open Recovery (perform Settles)

variable {P : Platform}

/-- A directory whose journal, manifest and ledger pass all the checks. -/
structure Admitted (P : Platform) (s : FileTree Bytes) (pending : PendingFinanceTransition)
    (target : FinanceRunManifest) (targetBytes : Bytes) (event : FinanceRunEvent) (line : Bytes)
    (ledger : FinanceLedger) : Prop where
  reads : readPending P s = .ok (some pending)
  checked : Checked P s pending target targetBytes event line
  ledgerReads : readFinanceLedger P s = .ok ledger
  notAhead : (s.file "manifest.json").map (exactDigest P) = some pending.targetManifestExactSha256 →
    LedgerIsTarget ledger target line
  position :
    (s.file "manifest.json").map (exactDigest P) = pending.oldManifestExactSha256 ∧
        validateReplaced P s pending event (s.file "manifest.json") = .ok () ∧
        (ledger.checkpoint = pending.oldEventCheckpoint ∨ LedgerIsTarget ledger target line)
      ∨ (s.file "manifest.json").map (exactDigest P) ≠ pending.oldManifestExactSha256 ∧
        (s.file "manifest.json").map (exactDigest P) = some pending.targetManifestExactSha256

theorem reconcilePending_admitted {s : FileTree Bytes}
    (hfile : (s.file "pending-transition.json").isSome = true) :
    (∃ steps, reconcilePending P s = .ok steps) ↔ ∃ pending target targetBytes event line ledger,
      Admitted P s pending target targetBytes event line ledger := by
  obtain ⟨bytes, hbytes⟩ := Option.isSome_iff_exists.mp hfile
  constructor
  · rintro ⟨steps, h⟩
    obtain ⟨read, hread, hsteps⟩ := bind_ok.mp h
    cases read with
    | none =>
      simp only [readPending, hbytes, bind_ok, exists_unit, pure_ok] at hread
      obtain ⟨_, -, -, _, -, hsome⟩ := hread
      cases hsome
    | some pending =>
      obtain ⟨target, targetBytes, event, line, ledger, hchecked, hledger, hahead, hcases⟩ :=
        reconcileSteps_ok.mp hsteps
      exact ⟨pending, target, targetBytes, event, line, ledger, hread, hchecked, hledger, hahead,
        hcases.imp (fun h => ⟨h.1, h.2.1, h.2.2.1⟩) fun h => ⟨h.1, h.2.1⟩⟩
  · rintro ⟨pending, target, targetBytes, event, line, ledger, h⟩
    rcases h.position with ⟨hold, hreplaced, hledger⟩ | ⟨hold, htarget⟩
    · exact ⟨_, bind_ok.mpr ⟨_, h.reads, reconcileSteps_ok.mpr ⟨target, targetBytes, event, line,
        ledger, h.checked, h.ledgerReads, h.notAhead, .inl ⟨hold, hreplaced, hledger, rfl⟩⟩⟩⟩
    · exact ⟨_, bind_ok.mpr ⟨_, h.reads, reconcileSteps_ok.mpr ⟨target, targetBytes, event, line,
        ledger, h.checked, h.ledgerReads, h.notAhead, .inr ⟨hold, htarget, rfl⟩⟩⟩⟩

/-- What makes a journal that passes the checks one that a transition has
    written. -/
structure Authentic (P : Platform) (s : FileTree Bytes) (pending : PendingFinanceTransition)
    (target : FinanceRunManifest) (targetBytes : Bytes) (event : FinanceRunEvent)
    (ledger : FinanceLedger) : Prop where
  /-- it is the value that its record is written as -/
  journal : (s.file "pending-transition.json").map (parseStrictJson P)
    = some (.ok (toValue PendingFinanceTransition.codec pending))
  /-- its id is computed from its other fields -/
  id : transitionId P target event pending.oldManifestExactSha256 pending.eventExactSha256
    pending.targetManifestExactSha256 = .ok pending.transitionId
  /-- it carries the target as it is written -/
  written : targetBytes = toVecPretty FinanceRunManifest.codec target
  apart : Apart target
  /-- its old digest is that of a manifest from which the transition may start -/
  replaced : ∃ current : Option (Bytes × FinanceRunManifest),
    pending.oldManifestExactSha256 = (current.map fun c => exactDigest P c.1) ∧
    pending.oldEventCheckpoint = (current.map fun c => c.2.eventCheckpoint) ∧
    event.body.previousStatus = (current.map fun c => c.2.status) ∧
    ∀ c ∈ current,
      (∃ value, parseStrictJson P c.1 = .ok value ∧
        FinanceRunManifest.codec.dec value = some c.2) ∧
      Schemas.runManifest.accepts (toValue FinanceRunManifest.codec c.2) = true ∧
      (c.2.runId = target.runId ∧ c.2.runGenesisDigest = target.runGenesisDigest) ∧
      Apart c.2 ∧ validateStateArtifacts P s c.2 = .ok ()
  /-- the ledger is of its run -/
  sameRun : ∀ tail ∈ ledger.events.getLast?,
    tail.runId = target.runId ∧ tail.runGenesisDigest = target.runGenesisDigest

section

variable {s : FileTree Bytes} {pending : PendingFinanceTransition} {target : FinanceRunManifest}
  {targetBytes line : Bytes} {event : FinanceRunEvent} {ledger : FinanceLedger}

theorem checkpoint_eq_none {ledger : FinanceLedger} (hledger : Chained P ledger) :
    ledger.checkpoint = none ↔ ledger.events = [] := by
  have hlength : ledger.events.length = ledger.digests.length := by
    rw [hledger.digests, List.length_map, hledger.canonical.length_eq]
  unfold FinanceLedger.checkpoint
  cases hevents : ledger.events.getLast? with
  | none => simp [List.getLast?_eq_none_iff.mp hevents]
  | some event =>
    have hne : ledger.events ≠ [] := fun hnil => by
      rw [hnil] at hevents
      exact nomatch hevents
    cases hdigests : ledger.digests.getLast? with
    | none =>
      rw [List.getLast?_eq_none_iff.mp hdigests, List.length_nil, List.length_eq_zero_iff] at hlength
      exact absurd hlength hne
    | some digest => simp [hne]

/-- The ledger beside a manifest is of its run. -/
theorem run_of_validateOld {old : Option FinanceRunManifest}
    (hold : validateOld P s old = .ok ()) (hledger : readFinanceLedger P s = .ok ledger) :
    ∀ tail ∈ ledger.events.getLast?, ∃ o ∈ old,
      tail.runId = o.runId ∧ tail.runGenesisDigest = o.runGenesisDigest := by
  intro tail htail
  cases old with
  | none =>
    simp only [validateOld, bind_ok, require_ok, hledger, Except.ok.injEq, exists_eq_left',
      List.isEmpty_iff] at hold
    rw [hold] at htail
    cases htail
  | some o =>
    simp only [validateOld, bind_ok, exists_unit] at hold
    obtain ⟨ledger', hledger', -, tail', htail', hid, hgenesis⟩ :=
      verifyManifestCheckpoint_ok.mp hold.2.2
    obtain rfl := Except.ok.inj (hledger.symm.trans hledger')
    obtain rfl := Option.some.inj (htail'.symm.trans htail)
    exact ⟨o, rfl, hid, hgenesis⟩

/-- A transition that was cut short has left an authentic journal. -/
theorem authentic_of_crashState {final : FileTree Bytes}
    (h : Admitted P s pending target targetBytes event line ledger) (hs : CrashState P s final) :
    Authentic P s pending target targetBytes event ledger := by
  obtain ⟨start, target', steps, k, htransition, hs, -⟩ := hs
  obtain ⟨current, event', line', pending', hcut, -⟩ := cut_of_crashAt htransition hs
  -- it is the same journal
  obtain rfl : pending' = pending :=
    Option.some.inj (Except.ok.inj (hcut.reads.symm.trans h.reads))
  have hsame := Except.ok.inj ((validatePending_ok.mpr hcut.checked).symm.trans
    (validatePending_ok.mpr h.checked))
  simp only [Prod.mk.injEq] at hsame
  obtain ⟨rfl, rfl, rfl, rfl⟩ := hsame
  obtain ⟨hcurrentFile, hcurrentRead⟩ := currentManifest_ok.mp hcut.currentReads
  obtain ⟨-, hrun, -, hfields⟩ := buildTransitionEvent_ok.mp hcut.built
  obtain ⟨id, hid, -, -, hpending⟩ := pendingOf_ok.mp hcut.written
  refine ⟨hcut.journal, ?_, rfl, hcut.apart,
    ⟨current, hcut.oldDigest, hcut.oldCheckpoint, ?_, fun c hc => ?_⟩, ?_⟩
  · rw [hpending]
    exact hid
  · rw [hfields, transitionBody_previousStatus, Option.map_map]
    rfl
  · have hold := hcut.old
    rw [hc] at hold
    simp only [Option.map_some, validateOld, bind_ok, exists_unit, validateValue_ok] at hold
    exact ⟨hcurrentRead c hc, hold.1, hrun c.2 (Option.mem_map_of_mem _ hc), hcut.oldApart c hc,
      validateStateArtifacts_congr (fun b hb => (hcut.others _ (hcut.oldApart c hc b hb)).symm)
        hold.2.1⟩
  · obtain ⟨ledger₀, hledger, -, hnext⟩ :=
      readLedgerLine_transition hcut.old hcut.built hcut.eventLine
    by_cases hk : k = 1
    · have hfile := hcut.ledgerFile
      rw [if_pos hk] at hfile
      obtain rfl := Except.ok.inj
        (h.ledgerReads.symm.trans ((readFinanceLedger_congr hfile).trans hledger))
      intro tail htail
      obtain ⟨o, ho, hid, hgenesis⟩ := run_of_validateOld hcut.old hledger tail htail
      exact ⟨hid.trans (hrun o ho).1, hgenesis.trans (hrun o ho).2⟩
    · have hfile := hcut.ledgerFile
      rw [if_neg hk] at hfile
      obtain rfl := Except.ok.inj
        (h.ledgerReads.symm.trans (readFinanceLedger_append hledger hfile hnext))
      intro tail htail
      simp only [List.getLast?_append, List.getLast?_singleton, Option.some_or, Option.mem_some_iff]
        at htail
      rw [← htail, hfields]
      exact ⟨rfl, rfl⟩

/-- The manifest that the journal replaces, where there is one. -/
structure Replaces (P : Platform) (s : FileTree Bytes) (pending : PendingFinanceTransition)
    (target : FinanceRunManifest) (event : FinanceRunEvent)
    (current : Option (Bytes × FinanceRunManifest)) : Prop where
  digest : pending.oldManifestExactSha256 = current.map fun c => exactDigest P c.1
  checkpoint : pending.oldEventCheckpoint = current.map fun c => c.2.eventCheckpoint
  status : event.body.previousStatus = current.map fun c => c.2.status
  each : ∀ c ∈ current, (∃ value, parseStrictJson P c.1 = .ok value ∧
      FinanceRunManifest.codec.dec value = some c.2) ∧
    Schemas.runManifest.accepts (toValue FinanceRunManifest.codec c.2) = true ∧
    (c.2.runId = target.runId ∧ c.2.runGenesisDigest = target.runGenesisDigest) ∧
    Apart c.2 ∧ validateStateArtifacts P s c.2 = .ok ()

/-- The directory in which the transition started. -/
structure StartOf (P : Platform) (s : FileTree Bytes) (pending : PendingFinanceTransition)
    (target : FinanceRunManifest) (current : Option (Bytes × FinanceRunManifest))
    (ledger : FinanceLedger) (start : FileTree Bytes) : Prop where
  fresh : start.file "pending-transition.json" = none
  manifestFile : start.file "manifest.json" = current.map (·.1)
  ledgerReads : readFinanceLedger P start = .ok ledger
  head : ledger.checkpoint = pending.oldEventCheckpoint
  run : ∀ tail ∈ ledger.events.getLast?,
    tail.runId = target.runId ∧ tail.runGenesisDigest = target.runGenesisDigest
  others : ∀ path ∉ controlFiles, start.file path = s.file path

section start

variable {start : FileTree Bytes} {current : Option (Bytes × FinanceRunManifest)}
  {ledger₀ : FinanceLedger}

theorem StartOf.artifacts (hstart : StartOf P s pending target current ledger₀ start)
    {manifest : FinanceRunManifest} (hapart : Apart manifest)
    (h : validateStateArtifacts P s manifest = .ok ()) :
    validateStateArtifacts P start manifest = .ok () :=
  validateStateArtifacts_congr (fun b hb => (hstart.others _ (hapart b hb)).symm) h

/-- What it replaces is valid there. -/
theorem StartOf.old (hstart : StartOf P s pending target current ledger₀ start)
    (hreplaces : Replaces P s pending target event current) :
    validateOld P start (current.map (·.2)) = .ok () := by
  have hhead := hstart.head.trans hreplaces.checkpoint
  cases current with
  | none =>
    obtain ⟨hchained, -⟩ := readFinanceLedger_ok hstart.ledgerReads
    have hempty := (checkpoint_eq_none hchained).mp hhead
    simp only [Option.map_none, validateOld, bind_ok, require_ok]
    exact ⟨ledger₀, hstart.ledgerReads, by rw [hempty]; rfl⟩
  | some c =>
    obtain ⟨-, haccepts, ⟨hid, hgenesis⟩, hapart, hvalid⟩ := hreplaces.each c rfl
    obtain ⟨tail, htail, -, -⟩ := checkpoint_eq_some.mp hhead
    obtain ⟨htailId, htailGenesis⟩ := hstart.run tail htail
    simp only [Option.map_some, validateOld, bind_ok, exists_unit, validateValue_ok]
    exact ⟨haccepts, hstart.artifacts hapart hvalid, verifyManifestCheckpoint_ok.mpr ⟨ledger₀,
      hstart.ledgerReads, hhead, tail, htail, htailId.trans hid.symm,
      htailGenesis.trans hgenesis.symm⟩⟩

/-- The event is the one of the transition from it to the target. -/
theorem Replaces.built (hreplaces : Replaces P s pending target event current)
    (hchecked : Checked P s pending target targetBytes event line) :
    buildTransitionEvent (current.map (·.2)) target = .ok event := by
  have haccepts := (canonicalEventLine_ok.mp hchecked.eventLine).1
  rw [accepts_toValue] at haccepts
  refine (buildTransitionEvent_iff haccepts fun o ho => ?_).mpr ?_
  · obtain ⟨c, hc, rfl⟩ := Option.mem_map.mp ho
    exact (hreplaces.each c hc).2.2.1
  · have hfits := hchecked.fits
    rw [hreplaces.checkpoint, hreplaces.status] at hfits
    simpa only [Option.map_map, Function.comp_def] using hfits

/-- The journal is the one that the transition writes. -/
theorem Replaces.pendingOf (hreplaces : Replaces P s pending target event current)
    (hchecked : Checked P s pending target targetBytes event line)
    (hid : transitionId P target event pending.oldManifestExactSha256 pending.eventExactSha256
      pending.targetManifestExactSha256 = .ok pending.transitionId) :
    Quinte.Finance.pendingOf P current event line target targetBytes = .ok pending := by
  obtain ⟨-, hline, hlength⟩ := decodeCanonicalBase64_ok.mp hchecked.eventDecodes
  obtain ⟨-, htarget, hlength'⟩ := decodeCanonicalBase64_ok.mp hchecked.targetDecodes
  refine pendingOf_ok.mpr ⟨pending.transitionId, ?_, hlength ▸ UInt64.toNat_lt _,
    hlength' ▸ UInt64.toNat_lt _, ?_⟩
  · rw [← hreplaces.digest, hchecked.eventDigest, hchecked.targetDigest]
    exact hid
  · rw [← hreplaces.digest, ← hreplaces.checkpoint, hchecked.eventDigest, hchecked.targetDigest,
      hchecked.operation, ← hline, ← htarget, ← hchecked.runId, ← hchecked.runGenesisDigest,
      ← hchecked.bindings, hlength, hlength', UInt64.ofNat_toNat, UInt64.ofNat_toNat,
      ← hchecked.version]

/-- A transition starts from a directory without the journal. -/
theorem transition_of_authentic (h : Admitted P s pending target targetBytes event line ledger)
    (ha : Authentic P s pending target targetBytes event ledger)
    (hreplaces : Replaces P s pending target event current)
    (hstart : StartOf P s pending target current ledger₀ start) :
    Transition P start target (transitionSteps pending line targetBytes) := by
  have hchecked := h.checked
  have hreads : currentManifest P start = .ok current :=
    currentManifest_ok.mpr ⟨hstart.manifestFile, fun c hc => (hreplaces.each c hc).1⟩
  have htarget : Schemas.runManifest.accepts (toValue FinanceRunManifest.codec target) = true := by
    obtain ⟨value, hvalue, haccepts, -⟩ := hchecked.targetReads
    rw [ha.written, parseStrictJson_toVecPretty depth_runManifest] at hvalue
    rwa [Except.ok.inj hvalue]
  have haccepts : Schemas.pendingTransition.accepts
      (toValue PendingFinanceTransition.codec pending) = true := by
    obtain ⟨bytes, hbytes, hvalue⟩ := Option.map_eq_some_iff.mp ha.journal
    obtain ⟨value, hvalue', haccepts, -⟩ := (readPending_ok hbytes).mp h.reads
    rwa [Except.ok.inj (hvalue.symm.trans hvalue')]
  refine ⟨⟨target, ?_⟩, ha.apart, fun c hc => ?_⟩
  · have hsame : target = checkpointed P target event line := by
      rw [checkpointed, hchecked.eventDigest, ← hchecked.checkpoint]
    have hpending := hreplaces.pendingOf hchecked ha.id
    rw [ha.written] at hpending ⊢
    exact transitionWithPending_ok.mpr ⟨hstart.fresh, current, event, line, pending, hreads,
      hstart.old hreplaces, hreplaces.built hchecked, hchecked.eventLine, hsame, htarget,
      hstart.artifacts ha.apart hchecked.artifacts, hpending, haccepts, rfl⟩
  · obtain rfl := Except.ok.inj (hreads.symm.trans hc)
    exact (hreplaces.each c rfl).2.2.2.1

end start

/-- A ledger that ends with a line, without it. -/
theorem readFinanceLedger_init (hledger : readFinanceLedger P s = .ok ledger)
    (hlast : ledger.lines.getLast? = some line) :
    ∃ bytes ledger₀, s.file "events.jsonl" = some (bytes ++ line) ∧
      (∀ t : FileTree Bytes, t.file "events.jsonl" = some bytes →
        readFinanceLedger P t = .ok ledger₀) ∧
      readLedgerLine P ledger₀ line = .ok ledger := by
  obtain ⟨hchained, hflatten⟩ := readFinanceLedger_ok hledger
  obtain ⟨init, hinit⟩ := List.getLast?_eq_some_iff.mp hlast
  have hread := readFinanceLedger_lines (P := P) hflatten.symm hchained.isLine
  rw [hledger, hinit, List.foldlM_append] at hread
  obtain ⟨ledger₀, hfirst, hnext⟩ := bind_ok.mp hread.symm
  simp only [List.foldlM_cons, List.foldlM_nil, bind_ok, pure_ok, exists_eq_right] at hnext
  refine ⟨init.flatten, ledger₀, ?_, fun t ht => ?_, hnext⟩
  · rw [hinit, List.flatten_append, List.flatten_singleton] at hflatten
    cases hfile : s.file "events.jsonl" with
    | some bytes => rw [hflatten, hfile, Option.getD_some]
    | none =>
      rw [hfile, Option.getD_none] at hflatten
      obtain ⟨text, -, rfl⟩ := hchained.isLine line (List.mem_of_getLast? hlast)
      exact absurd hflatten (by simp)
  · refine (readFinanceLedger_lines (by rw [ht, Option.getD_some]) fun l hl => ?_).trans hfirst
    exact hchained.isLine l (by rw [hinit]; exact List.mem_append_left _ hl)

/-- The head of a ledger that the event of a journal goes on with. -/
theorem checkpoint_of_readLedgerLine {ledger₀ : FinanceLedger} (hchained : Chained P ledger₀)
    (hline : canonicalEventLine event = .ok line)
    (hread : readLedgerLine P ledger₀ line = .ok ledger) {checkpoint : Option FinanceEventCheckpoint}
    (hsequence : event.sequence = (checkpoint.map fun c => c.sequence + 1).getD 0)
    (hprevious : event.previousEventSha256 = checkpoint.map (·.eventSha256)) :
    ledger₀.checkpoint = checkpoint := by
  obtain ⟨event', hline', -, hnumber, hdigest, -⟩ := readLedgerLine_ok.mp hread
  obtain rfl := event_unique hline' hline
  rw [hprevious] at hdigest
  cases checkpoint with
  | none =>
    rw [checkpoint_eq_none hchained, ← List.length_eq_zero_iff, ← hnumber, hsequence]
    rfl
  | some c =>
    have hne : ledger₀.checkpoint ≠ none := fun hnone => by
      have hevents := (checkpoint_eq_none hchained).mp hnone
      have hlength := hchained.canonical.length_eq
      rw [hevents, List.length_nil] at hlength
      rw [hchained.digests, List.length_eq_zero_iff.mp hlength.symm] at hdigest
      exact nomatch hdigest
    obtain ⟨c', hc'⟩ := Option.ne_none_iff_exists'.mp hne
    have hlast := sequence_of_checkpoint hchained hc'
    obtain ⟨-, -, -, hdigest'⟩ := checkpoint_eq_some.mp hc'
    have hsha : c.eventSha256 = c'.eventSha256 := Option.some.inj (hdigest.trans hdigest')
    -- the sequence numbers do not wrap, as the next one is the length of the ledger
    have hnat : c.sequence.toNat = c'.sequence.toNat := by
      have hsucc := congrArg UInt64.toNat hsequence
      rw [hnumber, ← hlast] at hsucc
      simp only [Option.map_some, Option.getD_some, UInt64.toNat_add] at hsucc
      have hlt := c.sequence.toNat_lt
      have hone : (1 : UInt64).toNat = 1 := rfl
      omega
    rw [hc']
    cases c
    cases c'
    simp_all [UInt64.toNat_inj]

theorem crashAt_of_files {start : FileTree Bytes} {k : Nat} (hk : k = 1 ∨ k = 2 ∨ k = 3)
    (hjournal : (s.file "pending-transition.json").map (parseStrictJson P)
      = some (.ok (toValue PendingFinanceTransition.codec pending)))
    (hledger : s.file "events.jsonl" = if k = 1 then start.file "events.jsonl"
      else some ((start.file "events.jsonl").getD [] ++ line))
    (hmanifest : s.file "manifest.json"
      = if k = 3 then some targetBytes else start.file "manifest.json")
    (hothers : ∀ path ∉ controlFiles, s.file path = start.file path) :
    CrashAt P start (transitionSteps pending line targetBytes) k s := by
  obtain ⟨hjournal', hledger', hmanifest', hothers'⟩ :=
    file_take_transitionSteps start pending line targetBytes hk
  refine ⟨hk, ?_, fun path hpath => ?_⟩
  · rw [hjournal, hjournal', Option.map_some, parseStrictJson_toVecPretty depth_pendingTransition]
  · by_cases hcontrol : path ∈ controlFiles
    · simp only [controlFiles, List.mem_cons, List.not_mem_nil, or_false] at hcontrol
      rcases hcontrol with rfl | rfl | rfl
      · exact absurd rfl hpath
      · rw [hledger, hledger']
      · rw [hmanifest, hmanifest']
    · rw [hothers path hcontrol, hothers' path hcontrol]

/-- A ledger that an event goes on with is of its run. -/
theorem run_of_readLedgerLine {ledger₀ : FinanceLedger} (hchained : Chained P ledger₀)
    (hline : canonicalEventLine event = .ok line)
    (hread : readLedgerLine P ledger₀ line = .ok ledger) :
    ∀ tail ∈ ledger₀.events.getLast?,
      tail.runId = event.runId ∧ tail.runGenesisDigest = event.runGenesisDigest := by
  obtain ⟨event', hline', -, -, -, hrun, -⟩ := readLedgerLine_ok.mp hread
  obtain rfl := event_unique hline' hline
  intro tail htail
  have hmem := List.mem_of_getLast? htail
  obtain ⟨first, hfirst⟩ := Option.isSome_iff_exists.mp
    (List.isSome_head?.mpr (List.ne_nil_of_mem hmem))
  obtain ⟨hid, hgenesis⟩ := hchained.oneRun tail hmem first (List.mem_of_head? hfirst)
  exact ⟨hid.trans (hrun first hfirst).1.symm, hgenesis.trans (hrun first hfirst).2.symm⟩

/-- The directory as it was before the transition, with these bytes in the ledger. -/
def startOf (s : FileTree Bytes) (current : Option (Bytes × FinanceRunManifest))
    (bytes : Option Bytes) : FileTree Bytes :=
  ((s.remove "pending-transition.json").set "manifest.json" (current.map (·.1))).set
    "events.jsonl" bytes

@[simp] theorem startOf_ledger (current : Option (Bytes × FinanceRunManifest))
    (bytes : Option Bytes) : (startOf s current bytes).file "events.jsonl" = bytes := by
  simp [startOf]

theorem startOf_starts {current : Option (Bytes × FinanceRunManifest)} {bytes : Option Bytes}
    {ledger₀ : FinanceLedger} (hread : readFinanceLedger P (startOf s current bytes) = .ok ledger₀)
    (hhead : ledger₀.checkpoint = pending.oldEventCheckpoint)
    (hrun : ∀ tail ∈ ledger₀.events.getLast?,
      tail.runId = target.runId ∧ tail.runGenesisDigest = target.runGenesisDigest) :
    StartOf P s pending target current ledger₀ (startOf s current bytes) := by
  refine ⟨by simp [startOf], by simp [startOf], hread, hhead, hrun, fun path hpath => ?_⟩
  simp only [controlFiles, List.mem_cons, List.not_mem_nil, or_false, not_or] at hpath
  rw [startOf, FileTree.set_ne hpath.2.1, FileTree.set_ne hpath.2.2, FileTree.remove_ne hpath.1]

/-- An authentic journal was left by a transition from such a directory, where its
    ledger is that of the directory with or without the event. -/
theorem crashState_of_startOf {current : Option (Bytes × FinanceRunManifest)}
    {bytes : Option Bytes} {ledger₀ : FinanceLedger} {k : Nat}
    (h : Admitted P s pending target targetBytes event line ledger)
    (ha : Authentic P s pending target targetBytes event ledger)
    (hreplaces : Replaces P s pending target event current) (hk : k = 1 ∨ k = 2 ∨ k = 3)
    (hstart : StartOf P s pending target current ledger₀ (startOf s current bytes))
    (hledger : s.file "events.jsonl" = if k = 1 then bytes else some (bytes.getD [] ++ line))
    (hmanifest : s.file "manifest.json" = if k = 3 then some targetBytes else current.map (·.1)) :
    ∃ final, CrashState P s final := by
  refine ⟨_, startOf s current bytes, target, _, k, transition_of_authentic h ha hreplaces hstart,
    crashAt_of_files hk ha.journal ?_ ?_ fun path hpath => (hstart.others path hpath).symm, rfl⟩
  · rw [startOf_ledger]
    exact hledger
  · rw [hstart.manifestFile]
    exact hmanifest

/-- Where the event is in the ledger, the ledger was what is before it. -/
theorem exists_startOf {current : Option (Bytes × FinanceRunManifest)}
    (h : Admitted P s pending target targetBytes event line ledger)
    (hlast : LedgerIsTarget ledger target line) : ∃ bytes ledger₀,
      s.file "events.jsonl" = some (bytes ++ line) ∧
      StartOf P s pending target current ledger₀ (startOf s current (some bytes)) := by
  obtain ⟨bytes, ledger₀, hfile, hread, hnext⟩ := readFinanceLedger_init h.ledgerReads hlast.2
  have hread := hread (startOf s current (some bytes)) (startOf_ledger current _)
  obtain ⟨hchained, -⟩ := readFinanceLedger_ok hread
  obtain ⟨⟨hid, hgenesis, hsequence, hprevious, -⟩, -⟩ :=
    validateEventTarget_ok.mp h.checked.fits
  have hrun := run_of_readLedgerLine hchained h.checked.eventLine hnext
  exact ⟨bytes, ledger₀, hfile, startOf_starts hread
    (checkpoint_of_readLedgerLine hchained h.checked.eventLine hnext hsequence hprevious)
    fun tail htail => ⟨(hrun tail htail).1.trans hid, (hrun tail htail).2.trans hgenesis⟩⟩

/-- An authentic journal is one that a transition has left. -/
theorem crashState_of_authentic (hsha : Function.Injective P.sha256)
    (h : Admitted P s pending target targetBytes event line ledger)
    (ha : Authentic P s pending target targetBytes event ledger) :
    ∃ final, CrashState P s final := by
  obtain ⟨current, hdigest, hcheckpoint, hstatus, hcurrent⟩ := id ha.replaced
  have hreplaces : Replaces P s pending target event current :=
    ⟨hdigest, hcheckpoint, hstatus, hcurrent⟩
  have hmanifest : (s.file "manifest.json").map (exactDigest P) = pending.oldManifestExactSha256 →
      s.file "manifest.json" = current.map (·.1) := by
    intro heq
    have hinj : Function.Injective (Option.map (exactDigest P)) := Option.map_injective hsha
    rw [hdigest] at heq
    exact hinj (heq.trans (Option.map_map ..).symm)
  rcases h.position with ⟨hold, -, hledger | hlast⟩ | ⟨-, htarget⟩
  · -- the event is not in the ledger yet
    have hread : readFinanceLedger P (startOf s current (s.file "events.jsonl")) = .ok ledger :=
      (readFinanceLedger_congr (startOf_ledger current _)).trans h.ledgerReads
    exact crashState_of_startOf h ha hreplaces (.inl rfl)
      (startOf_starts hread hledger ha.sameRun) rfl (hmanifest hold)
  · obtain ⟨bytes, ledger₀, hfile, hstart⟩ := exists_startOf h hlast
    exact crashState_of_startOf h ha hreplaces (.inr (.inl rfl)) hstart hfile (hmanifest hold)
  · obtain ⟨bytes, ledger₀, hfile, hstart⟩ := exists_startOf h (h.notAhead htarget)
    refine crashState_of_startOf h ha hreplaces (.inr (.inr rfl)) hstart hfile ?_
    rw [← h.checked.targetDigest] at htarget
    obtain ⟨b, hb, heq⟩ := Option.map_eq_some_iff.mp htarget
    rw [hb, if_pos rfl, hsha heq]

end

/-- **Reconciliation is exact** where no journal passes the checks that a
    transition cannot have written. -/
theorem reconcile_exact_iff (P : Platform) (hsha : Function.Injective P.sha256)
    (s : FileTree Bytes) (hfile : (s.file "pending-transition.json").isSome = true) :
    ((∀ final, CrashState P s final → Settles FileStep.apply (reconcilePending P) s final) ∧
        ((¬∃ final, CrashState P s final) → ∃ e, reconcilePending P s = .error e)) ↔
      ∀ pending target targetBytes event line ledger,
        Admitted P s pending target targetBytes event line ledger →
        Authentic P s pending target targetBytes event ledger := by
  have hsettles : ∀ final, CrashState P s final →
      Settles FileStep.apply (reconcilePending P) s final :=
    fun final hfinal => settles_of_crashState hsha hfinal
  constructor
  · rintro ⟨-, hfails⟩ pending target targetBytes event line ledger h
    by_cases hcrash : ∃ final, CrashState P s final
    · obtain ⟨final, hfinal⟩ := hcrash
      exact authentic_of_crashState h hfinal
    · obtain ⟨e, he⟩ := hfails hcrash
      obtain ⟨steps, hsteps⟩ := (reconcilePending_admitted hfile).mpr ⟨_, _, _, _, _, _, h⟩
      exact nomatch he.symm.trans hsteps
  · intro h
    refine ⟨hsettles, fun hcrash => ?_⟩
    cases hresult : reconcilePending P s with
    | error e => exact ⟨e, rfl⟩
    | ok steps =>
      obtain ⟨pending, target, targetBytes, event, line, ledger, hadmitted⟩ :=
        (reconcilePending_admitted hfile).mp ⟨steps, hresult⟩
      exact absurd (crashState_of_authentic hsha hadmitted (h _ _ _ _ _ _ hadmitted)) hcrash

/-! ### A journal with another id -/

/-- The directory of a run that is being created, with another id in its
    journal. -/
def forgedState : FileTree Bytes := FileTree.ofList [("artifact.json", sampleArtifact),
  ("pending-transition.json", toVecPretty PendingFinanceTransition.codec (samplePending "forged"))]

theorem checked_forgedState : Checked samplePlatform forgedState (samplePending "forged")
    sampleTarget sampleTargetBytes sampleEvent sampleLine := by
  obtain ⟨hline, -, -, -⟩ := samplePlatform_digests
  obtain ⟨id, hid, -, -, hpending⟩ := pendingOf_sample
  have hfile : forgedState.file "artifact.json" = some sampleArtifact := by
    simp [forgedState, FileTree.ofList]
  have hcheckpoint : sampleTarget.eventCheckpoint
      = { sequence := sampleEvent.sequence, eventSha256 := exactDigest samplePlatform sampleLine } := by
    rw [hline]
    rfl
  have hbuilt : buildTransitionEvent
      ((none : Option (Bytes × FinanceRunManifest)).map (·.2)) sampleTarget = .ok sampleEvent :=
    sampleEvent_built
  have h := checked_of_pendingOf hbuilt canonicalEventLine_sampleEvent hcheckpoint
    accepts_sampleTarget (validate_sampleTarget hfile) hpending (accepts_samplePending hid)
  -- none of the checks reads the id
  exact ⟨h.version, h.eventDecodes, h.targetDecodes, h.eventDigest, h.targetDigest, h.eventLine,
    h.operation, h.targetReads, h.runId, h.runGenesisDigest, h.checkpoint, h.bindings, h.fits,
    h.artifacts⟩

theorem admitted_forgedState : Admitted samplePlatform forgedState (samplePending "forged")
    sampleTarget sampleTargetBytes sampleEvent sampleLine ⟨[], [], []⟩ := by
  have hpending : forgedState.file "pending-transition.json"
      = some (toVecPretty PendingFinanceTransition.codec (samplePending "forged")) := by
    simp [forgedState, FileTree.ofList, List.lookup_cons]
  have hmanifest : forgedState.file "manifest.json" = none := by
    simp [forgedState, FileTree.ofList]
  have hledger : forgedState.file "events.jsonl" = none := by
    simp [forgedState, FileTree.ofList]
  refine ⟨(readPending_ok hpending).mpr ⟨_, parseStrictJson_toVecPretty depth_pendingTransition _,
    accepts_samplePending (by decide), fromValue_ok.mp (fromValue_toValue _)⟩, checked_forgedState,
    ?_, ?_, .inl ⟨?_, ?_, .inl rfl⟩⟩
  · rw [readFinanceLedger, hledger]
    rfl
  · rw [hmanifest]
    exact fun h => by cases h
  · rw [hmanifest]
    rfl
  · rw [hmanifest]
    rfl

theorem not_authentic_forgedState : ¬Authentic samplePlatform forgedState (samplePending "forged")
    sampleTarget sampleTargetBytes sampleEvent ⟨[], [], []⟩ := by
  obtain ⟨id, -, hid, htransition, -⟩ := pendingOf_sample
  intro h
  exact hid (Except.ok.inj (htransition.symm.trans h.id))

/-- The journal is taken over, though no transition has written it. -/
theorem forged_journal_reconciled :
    (∃ steps, reconcilePending samplePlatform forgedState = .ok steps) ∧
      ¬∃ final, CrashState samplePlatform forgedState final := by
  have hfile : (forgedState.file "pending-transition.json").isSome = true := by
    simp [forgedState, FileTree.ofList]
  refine ⟨(reconcilePending_admitted hfile).mpr ⟨_, _, _, _, _, _, admitted_forgedState⟩, ?_⟩
  rintro ⟨final, hfinal⟩
  exact not_authentic_forgedState (authentic_of_crashState admitted_forgedState hfinal)

theorem reconcile_exact_iff_forged :
    ¬((∀ final, CrashState samplePlatform forgedState final →
          Settles FileStep.apply (reconcilePending samplePlatform) forgedState final) ∧
        ((¬∃ final, CrashState samplePlatform forgedState final) →
          ∃ e, reconcilePending samplePlatform forgedState = .error e)) := by
  have hfile : (forgedState.file "pending-transition.json").isSome = true := by
    simp [forgedState, FileTree.ofList]
  exact fun h => not_authentic_forgedState
    ((reconcile_exact_iff samplePlatform samplePlatform_injective forgedState hfile).mp h
      _ _ _ _ _ _ admitted_forgedState)

end Quinte.Finance
