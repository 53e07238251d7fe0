import Mathlib
import Quinte.Finance.Acceptance

/-! # The ledger is tamper evident

    A ledger that is read is a hash chain: its lines are the canonical texts
    of the events of one run, numbered from 0, and each names the digest of
    the line before.  The checkpoint of a manifest is the digest of the last
    line, and determines all the others.

    * `Chained`: what a ledger that is read is; `chained_readLedgerLine` and
      `readFinanceLedger_ok` are the step and the run;
    * `ledger_determined`: under one manifest, there is one ledger.
-/

namespace Quinte.Finance

open Policy (require require_ok bind_ok)
open Schemas (validateValue validateValue_ok)
open HashChain (Linked IsLine)

variable {P : Platform}

/-- A chain of canonical lines. -/
structure Chained (P : Platform) (ledger : FinanceLedger) : Prop where
  canonical : List.Forall₂ (fun event line => canonicalEventLine event = .ok line)
    ledger.events ledger.lines
  digests : ledger.digests = ledger.lines.map (exactDigest P)
  sequences : ledger.events.map (·.sequence.toNat) = List.range ledger.events.length
  linked : Linked (fun entry => exactDigest P entry.2) (fun entry => entry.1.previousEventSha256) none
    (ledger.events.zip ledger.lines)
  oneRun : ∀ event ∈ ledger.events, ∀ first ∈ ledger.events,
    event.runId = first.runId ∧ event.runGenesisDigest = first.runGenesisDigest

/-! ### Lines -/

theorem depth_runEvent : FinanceRunEvent.codec.depth ≤ 100 := by decide

/-- A line is the canonical text of its event, and a line feed. -/
theorem canonicalEventLine_ok {event : FinanceRunEvent} {line : Bytes} :
    canonicalEventLine event = .ok line ↔
      Schemas.runEvent.accepts (toValue FinanceRunEvent.codec event) = true ∧
        line = canonical FinanceRunEvent.codec event ++ [10] := by
  simp only [canonicalEventLine, bind_ok, exists_unit, validateValue_ok, canonicalJson_toValue,
    Except.ok.injEq, exists_eq_left', pure_ok]
  exact and_congr_right fun _ => eq_comm

theorem isLine_of_canonical {event : FinanceRunEvent} {line : Bytes}
    (h : canonicalEventLine event = .ok line) : IsLine 10 line :=
  ⟨_, lineFeed_notMem_canonical event, (canonicalEventLine_ok.mp h).2⟩

/-- The event of a line. -/
theorem event_unique {event event' : FinanceRunEvent} {line : Bytes}
    (h : canonicalEventLine event = .ok line) (h' : canonicalEventLine event' = .ok line) :
    event = event' := by
  have hline := (canonicalEventLine_ok.mp h).2.symm.trans (canonicalEventLine_ok.mp h').2
  exact canonical_injective (List.append_cancel_right hline)

/-- `readLedgerLine` appends an event, its line and its digest. -/
theorem readLedgerLine_ok {ledger ledger' : FinanceLedger} {line : Bytes} :
    readLedgerLine P ledger line = .ok ledger' ↔
      ∃ event, canonicalEventLine event = .ok line ∧ event.eventVersion = "2.0" ∧
        event.sequence.toNat = ledger.events.length ∧
        event.previousEventSha256 = ledger.digests.getLast? ∧
        (∀ first ∈ ledger.events.head?,
          event.runId = first.runId ∧ event.runGenesisDigest = first.runGenesisDigest) ∧
        ledger' = { events := ledger.events ++ [event], lines := ledger.lines ++ [line],
                    digests := ledger.digests ++ [exactDigest P line] } := by
  simp only [readLedgerLine, bind_ok, exists_unit, require_ok, Bool.and_eq_true, beq_iff_eq,
    pure_ok, Option.all_eq_true, bne_iff_ne, ne_eq]
  constructor
  · rintro ⟨-, value, -, -, event, -, text, htext, rfl, ⟨hversion, hsequence⟩, hprevious, hrun,
      rfl⟩
    exact ⟨event, htext, hversion, hsequence, hprevious, hrun, rfl⟩
  · rintro ⟨event, htext, hversion, hsequence, hprevious, hrun, rfl⟩
    obtain ⟨haccepts, hline⟩ := canonicalEventLine_ok.mp htext
    refine ⟨?_, _, hline ▸ parseStrictJson_line depth_runEvent event, validateValue_ok.mpr haccepts,
      event, fromValue_toValue event, line, htext, rfl, ⟨hversion, hsequence⟩, hprevious, hrun, rfl⟩
    -- a line with an event on it is not empty
    rintro rfl
    exact canonical_ne_nil event (List.append_cancel_right hline).symm

/-! ### The ledger -/

theorem map_snd_entries {ledger : FinanceLedger} (h : Chained P ledger) :
    (ledger.events.zip ledger.lines).map (·.2) = ledger.lines :=
  List.map_snd_zip h.canonical.length_eq.ge

theorem Chained.isLine {ledger : FinanceLedger} (h : Chained P ledger) :
    ∀ line ∈ ledger.lines, IsLine 10 line := by
  intro line hline
  rw [← map_snd_entries h] at hline
  obtain ⟨entry, hentry, rfl⟩ := List.mem_map.mp hline
  exact isLine_of_canonical (List.forall₂_zip h.canonical hentry)

/-- The last digest, by the entries. -/
theorem head_entries {ledger : FinanceLedger} (h : Chained P ledger) :
    HashChain.head (fun entry : FinanceRunEvent × Bytes => exactDigest P entry.2)
      (ledger.events.zip ledger.lines) = ledger.digests.getLast? := by
  rw [HashChain.head, h.digests, List.getLast?_map, ← map_snd_entries h, List.getLast?_map,
    Option.map_map, map_snd_entries h]
  rfl

theorem chained_nil : Chained P ⟨[], [], []⟩ where
  canonical := .nil
  digests := rfl
  sequences := rfl
  linked := trivial
  oneRun _ h := nomatch h

/-- **Step**: one more line keeps the chain. -/
theorem chained_readLedgerLine {ledger ledger' : FinanceLedger} {line : Bytes}
    (hledger : Chained P ledger) (h : readLedgerLine P ledger line = .ok ledger') :
    Chained P ledger' ∧ ledger'.lines = ledger.lines ++ [line] := by
  obtain ⟨event, htext, -, hsequence, hprevious, hrun, rfl⟩ := readLedgerLine_ok.mp h
  have hlength := hledger.canonical.length_eq
  refine ⟨⟨?_, ?_, ?_, ?_, ?_⟩, rfl⟩
  · exact List.rel_append hledger.canonical (.cons htext .nil)
  · simp [hledger.digests]
  · simp only [List.map_append, List.map_cons, List.map_nil, List.length_append, List.length_cons,
      List.length_nil, List.range_succ, hledger.sequences, hsequence, Nat.zero_add]
  · rw [List.zip_append hlength]
    refine HashChain.linked_append.mpr ⟨hledger.linked, ?_⟩
    rw [head_entries hledger, Option.or_none]
    exact hprevious
  · -- the new event is of the first one's run, and so are the others
    have hnew : ∀ first ∈ ledger.events,
        event.runId = first.runId ∧ event.runGenesisDigest = first.runGenesisDigest := by
      intro first hfirst
      obtain ⟨head, hhead⟩ : ∃ head, ledger.events.head? = some head :=
        Option.ne_none_iff_exists'.mp fun hnone => by
          rw [List.head?_eq_none_iff.mp hnone] at hfirst
          exact nomatch hfirst
      obtain ⟨hid, hgenesis⟩ := hrun head hhead
      obtain ⟨hid', hgenesis'⟩ := hledger.oneRun head (List.mem_of_head? hhead) first hfirst
      exact ⟨hid.trans hid', hgenesis.trans hgenesis'⟩
    intro a ha b hb
    rcases List.mem_append.mp ha with ha' | ha' <;> rcases List.mem_append.mp hb with hb' | hb'
    · exact hledger.oneRun a ha' b hb'
    · obtain rfl := List.mem_singleton.mp hb'
      exact ⟨(hnew a ha').1.symm, (hnew a ha').2.symm⟩
    · obtain rfl := List.mem_singleton.mp ha'
      exact hnew b hb'
    · obtain rfl := List.mem_singleton.mp ha'
      obtain rfl := List.mem_singleton.mp hb'
      exact ⟨rfl, rfl⟩

/-- **Run**: so do all lines of a file. -/
theorem chained_foldlM {lines : List Bytes} {ledger ledger' : FinanceLedger}
    (hledger : Chained P ledger) (h : lines.foldlM (readLedgerLine P) ledger = .ok ledger') :
    Chained P ledger' ∧ ledger'.lines = ledger.lines ++ lines := by
  induction lines generalizing ledger with
  | nil =>
    obtain rfl := Except.ok.inj h
    exact ⟨hledger, (List.append_nil _).symm⟩
  | cons line lines ih =>
    rw [List.foldlM_cons, bind_ok] at h
    obtain ⟨next, hnext, h⟩ := h
    obtain ⟨hchained, hlines⟩ := chained_readLedgerLine hledger hnext
    obtain ⟨hchained', hlines'⟩ := ih hchained h
    exact ⟨hchained', by rw [hlines', hlines, List.append_assoc, List.singleton_append]⟩

/-- What `read_finance_ledger` returns. -/
theorem readFinanceLedger_ok {state : FileTree Bytes} {ledger : FinanceLedger}
    (h : readFinanceLedger P state = .ok ledger) :
    Chained P ledger ∧ ledger.lines.flatten = (state.file "events.jsonl").getD [] := by
  simp only [readFinanceLedger, bind_ok, exists_unit] at h
  obtain ⟨-, hlines⟩ := h
  obtain ⟨hchained, hsplit⟩ := chained_foldlM chained_nil hlines
  refine ⟨hchained, ?_⟩
  rw [hsplit, List.nil_append, HashChain.flatten_splitInclusive]

/-- The lines of a ledger whose bytes are these lines. -/
theorem readFinanceLedger_lines {state : FileTree Bytes} {lines : List Bytes}
    (hbytes : (state.file "events.jsonl").getD [] = lines.flatten)
    (hlines : ∀ line ∈ lines, IsLine 10 line) :
    readFinanceLedger P state = lines.foldlM (readLedgerLine P) ⟨[], [], []⟩ := by
  have hend : (lines.flatten.isEmpty || lines.flatten.getLast? == some 10) = true := by
    rcases lines.eq_nil_or_concat with rfl | ⟨init, line, rfl⟩
    · rfl
    · obtain ⟨text, -, rfl⟩ := hlines line (by simp)
      simp
  simp only [readFinanceLedger, hbytes, hend, require, if_true,
    HashChain.splitInclusive_flatten hlines]
  rfl

/-- One more line at the end of the file. -/
theorem readFinanceLedger_append {state state' : FileTree Bytes} {ledger ledger' : FinanceLedger}
    {line : Bytes} (hread : readFinanceLedger P state = .ok ledger)
    (hbytes : state'.file "events.jsonl" = some ((state.file "events.jsonl").getD [] ++ line))
    (hline : readLedgerLine P ledger line = .ok ledger') :
    readFinanceLedger P state' = .ok ledger' := by
  obtain ⟨hchained, hflatten⟩ := readFinanceLedger_ok hread
  obtain ⟨hchained', hlines'⟩ := chained_readLedgerLine hchained hline
  have hold := readFinanceLedger_lines (P := P) hflatten.symm hchained.isLine
  have hnew : (state'.file "events.jsonl").getD [] = ledger'.lines.flatten := by
    rw [hbytes, Option.getD_some, hlines', List.flatten_append, hflatten, List.flatten_singleton]
  rw [readFinanceLedger_lines hnew hchained'.isLine, hlines', List.foldlM_append,
    ← hold, hread]
  simp only [List.foldlM_cons, List.foldlM_nil]
  exact bind_ok.mpr ⟨_, rfl, bind_ok.mpr ⟨_, hline, rfl⟩⟩

theorem verifyManifestCheckpoint_ok {state : FileTree Bytes} {manifest : FinanceRunManifest} :
    verifyManifestCheckpoint P state manifest = .ok () ↔
      ∃ ledger, readFinanceLedger P state = .ok ledger ∧
        ledger.checkpoint = some manifest.eventCheckpoint ∧
        ∃ tail, ledger.events.getLast? = some tail ∧ tail.runId = manifest.runId ∧
          tail.runGenesisDigest = manifest.runGenesisDigest := by
  simp only [verifyManifestCheckpoint, bind_ok, exists_unit, require_ok, context_ok, beq_iff_eq,
    Bool.and_eq_true]

theorem checkpoint_eq_some {ledger : FinanceLedger} {checkpoint : FinanceEventCheckpoint} :
    ledger.checkpoint = some checkpoint ↔ ∃ event, ledger.events.getLast? = some event ∧
      event.sequence = checkpoint.sequence ∧
      ledger.digests.getLast? = some checkpoint.eventSha256 := by
  unfold FinanceLedger.checkpoint
  cases ledger.events.getLast? with
  | none => simp
  | some event =>
    cases ledger.digests.getLast? with
    | none => simp
    | some digest => cases checkpoint; simp

/-- **One ledger under a checkpoint.** -/
theorem ledger_determined (hsha : Function.Injective P.sha256) {a b : FinanceLedger}
    (ha : Chained P a) (hb : Chained P b) (h : a.digests.getLast? = b.digests.getLast?) :
    a.lines = b.lines := by
  have hmem : ∀ {ledger : FinanceLedger}, Chained P ledger →
      ∀ entry ∈ ledger.events.zip ledger.lines, canonicalEventLine entry.1 = .ok entry.2 :=
    fun hledger entry hentry => List.forall₂_zip hledger.canonical hentry
  have hentries : a.events.zip a.lines = b.events.zip b.lines := by
    refine ha.linked.commit (fun x hx y hy hxy => ?_) hb.linked ?_
    · have hline : x.2 = y.2 := hsha hxy
      have hevent := event_unique (hmem ha x hx) (hline ▸ hmem hb y hy)
      exact Prod.ext hevent hline
    · rw [head_entries ha, head_entries hb, h]
  rw [← map_snd_entries ha, hentries, map_snd_entries hb]

/-- **The ledger is tamper evident.** Under a manifest for which a ledger
    verifies, that ledger is a chain, and no other bytes verify. -/
theorem ledger_tamper_evident (P : Platform) (hsha : Function.Injective P.sha256)
    (state : FileTree Bytes) (manifest : FinanceRunManifest)
    (h : verifyManifestCheckpoint P state manifest = .ok ()) :
    ∃ ledger, readFinanceLedger P state = .ok ledger ∧ Chained P ledger ∧
      state.file "events.jsonl" = some ledger.lines.flatten ∧
      ∀ bytes, bytes ≠ ledger.lines.flatten →
        verifyManifestCheckpoint P (state.write "events.jsonl" bytes) manifest ≠ .ok () := by
  obtain ⟨ledger, hread, hcheckpoint, -⟩ := verifyManifestCheckpoint_ok.mp h
  obtain ⟨hchained, hbytes⟩ := readFinanceLedger_ok hread
  obtain ⟨-, -, -, hdigest⟩ := checkpoint_eq_some.mp hcheckpoint
  refine ⟨ledger, hread, hchained, ?_, fun bytes hne hverify => ?_⟩
  · cases hfile : state.file "events.jsonl" with
    | some bytes => rw [hbytes, hfile, Option.getD_some]
    | none =>
      -- an absent ledger is empty, and has no checkpoint
      rw [readFinanceLedger, hfile] at hread
      obtain rfl := Except.ok.inj hread
      exact nomatch hcheckpoint
  · obtain ⟨other, hread', hcheckpoint', -⟩ := verifyManifestCheckpoint_ok.mp hverify
    obtain ⟨hchained', hbytes'⟩ := readFinanceLedger_ok hread'
    obtain ⟨-, -, -, hdigest'⟩ := checkpoint_eq_some.mp hcheckpoint'
    rw [FileTree.write_same, Option.getD_some] at hbytes'
    refine hne ?_
    rw [← hbytes', ledger_determined hsha hchained' hchained (hdigest'.trans hdigest.symm)]

/-! #### A ledger that verifies -/

/-- An artifact, by its revision. -/
def sampleIdentity (revision : Nat) : FinanceArtifactIdentity where
  contractFamily := "finance-task-packet"
  schemaId := none
  revision := toString revision
  exactSha256 := sampleDigest
  semanticDomain := "quinte.finance-task-packet.v2"
  semanticSha256 := sampleDigest

def sampleBinding : PortableBinding where
  artifactRef := "input/policy.json"
  contractFamily := "finance-policy"
  schemaId := none
  revision := "3.0"
  exactSha256 := sampleDigest
  semanticDomain := "quinte.finance-policy.v3"
  semanticSha256 := sampleDigest

/-- The event that creates a run. -/
def sampleCreated : FinanceRunEvent where
  eventVersion := "2.0"
  runId := "run"
  runGenesisDigest := sampleDigest
  sequence := 0
  previousEventSha256 := none
  body := .runCreated { status := .r1Running, artifactBindings := (List.range 7).map sampleIdentity }

theorem accepts_sampleCreated :
    Schemas.runEvent.accepts (FinanceRunEvent.codec.enc sampleCreated) = true := by
  have hnodup : ((List.range 7).map sampleIdentity).Nodup := by decide
  rw [sampleCreated, accepts_runCreated, wellFormedArtifacts, decide_eq_true hnodup,
    isDigest_sampleDigest]
  simp [FinanceArtifactIdentity.wellFormed, isDigest_sampleDigest, sampleIdentity, List.range,
    List.range.loop]

/-- Its line, alone in the ledger. -/
def sampleState : FileTree Bytes :=
  FileTree.ofList [("events.jsonl", canonical FinanceRunEvent.codec sampleCreated ++ [10])]

/-- A manifest of the run. -/
def sampleManifest : FinanceRunManifest where
  manifestVersion := financeManifestVersion
  protocolVersion := financeProtocolVersion
  runId := "run"
  runGenesisDigest := sampleDigest
  eventCheckpoint := {
    sequence := 0
    eventSha256 := exactDigest .verbatim (canonical FinanceRunEvent.codec sampleCreated ++ [10]) }
  status := .r1Running
  termination := none
  policy := sampleBinding
  invocation := sampleBinding
  r1Packets := []
  r2Packets := []
  r1Outputs := []
  r2Outputs := []
  arbiterOutputs := []
  result := none

theorem verify_sampleManifest :
    verifyManifestCheckpoint .verbatim sampleState sampleManifest = .ok () := by
  obtain ⟨line, hline, hfile, hcheckpoint⟩ : ∃ line, canonicalEventLine sampleCreated = .ok line ∧
      sampleState.file "events.jsonl" = some line ∧ sampleManifest.eventCheckpoint
        = { sequence := 0, eventSha256 := exactDigest .verbatim line } :=
    ⟨_, canonicalEventLine_ok.mpr ⟨(accepts_toValue _ _).trans accepts_sampleCreated, rfl⟩,
      by simp [sampleState, FileTree.ofList], rfl⟩
  have hempty : readFinanceLedger .verbatim FileTree.empty = .ok ⟨[], [], []⟩ := rfl
  have hnew : readLedgerLine .verbatim ⟨[], [], []⟩ line
      = .ok ⟨[sampleCreated], [line], [exactDigest .verbatim line]⟩ :=
    readLedgerLine_ok.mpr
      ⟨sampleCreated, hline, rfl, rfl, rfl, fun _ hfirst => (by cases hfirst), rfl⟩
  have hread : readFinanceLedger .verbatim sampleState = _ :=
    readFinanceLedger_append hempty hfile hnew
  refine verifyManifestCheckpoint_ok.mpr ⟨_, hread, ?_, sampleCreated, rfl, rfl, rfl⟩
  rw [hcheckpoint]
  rfl

theorem ledger_tamper_evident_sample :
    verifyManifestCheckpoint .verbatim sampleState sampleManifest = .ok () ∧
      ∃ ledger, readFinanceLedger .verbatim sampleState = .ok ledger ∧ Chained .verbatim ledger ∧
        sampleState.file "events.jsonl" = some ledger.lines.flatten ∧
        ∀ bytes, bytes ≠ ledger.lines.flatten → verifyManifestCheckpoint .verbatim
          (sampleState.write "events.jsonl" bytes) sampleManifest ≠ .ok () :=
  ⟨verify_sampleManifest, ledger_tamper_evident .verbatim Platform.verbatim_injective sampleState
    sampleManifest verify_sampleManifest⟩

end Quinte.Finance
