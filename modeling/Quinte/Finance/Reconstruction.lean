import Mathlib
import Quinte.Finance.Journal
import Quinte.Finance.Tampering

/-! # The ledger that is reconstructed

    `expectedEventLedger` rebuilds every manifest of a run from the last one,
    by taking away what the later phases added.  It agrees with the ledger that
    the transitions of the run wrote, line by line.

    * `Same`: what an event says of a manifest does not depend on where its
      artifacts lie; `transitionLine_congr` and `expectedEventLedger_congr`;
    * `previous`: the manifest before the last transition;
      `expectedEventLedger_succ` rebuilds the ledger from it;
    * `Written`: a run of transitions; `expected_of_written` goes through it.
-/

namespace Quinte.Finance

open Policy (require require_ok bind_ok)
open Recovery (perform)

variable {P : Platform}

/-! ### What an event says of a manifest -/

/-- Two manifests with the same artifacts, wherever these lie. -/
structure Same (a b : FinanceRunManifest) : Prop where
  runId : a.runId = b.runId
  runGenesisDigest : a.runGenesisDigest = b.runGenesisDigest
  status : a.status = b.status
  termination : a.termination = b.termination
  policy : artifactIdentity a.policy = artifactIdentity b.policy
  invocation : artifactIdentity a.invocation = artifactIdentity b.invocation
  r1Packets : a.r1Packets.map artifactIdentity = b.r1Packets.map artifactIdentity
  r2Packets : a.r2Packets.map artifactIdentity = b.r2Packets.map artifactIdentity
  r1Outputs : a.r1Outputs.map artifactIdentity = b.r1Outputs.map artifactIdentity
  r2Outputs : a.r2Outputs.map artifactIdentity = b.r2Outputs.map artifactIdentity
  arbiterOutputs : a.arbiterOutputs.map artifactIdentity = b.arbiterOutputs.map artifactIdentity
  result : a.result.map artifactIdentity = b.result.map artifactIdentity

theorem Same.refl (a : FinanceRunManifest) : Same a a := by
  constructor <;> rfl

theorem Same.symm {a b : FinanceRunManifest} (h : Same a b) : Same b a := by
  constructor <;> simp only [h.runId, h.runGenesisDigest, h.status, h.termination, h.policy,
    h.invocation, h.r1Packets, h.r2Packets, h.r1Outputs, h.r2Outputs, h.arbiterOutputs, h.result]

theorem Same.identities {a b : FinanceRunManifest} (h : Same a b) :
    manifestArtifactIdentities a = manifestArtifactIdentities b := by
  have hresult : a.result.toList.map artifactIdentity = b.result.toList.map artifactIdentity := by
    rw [← Option.toList_map, ← Option.toList_map, h.result]
  simp only [manifestArtifactIdentities, manifestArtifactBindings, List.map_append, List.map_cons,
    List.map_nil, h.policy, h.invocation, h.r1Packets, h.r2Packets, h.r1Outputs, h.r2Outputs,
    h.arbiterOutputs, hresult]

theorem transitionBody_congr {a b : FinanceRunManifest} (h : Same a b)
    (oldStatus : Option FinanceRunStatus) : transitionBody oldStatus a = transitionBody oldStatus b := by
  cases oldStatus with
  | none => simp only [transitionBody, h.identities, h.status]
  | some status =>
    simp only [transitionBody, h.identities, h.status, h.termination, h.result]

theorem buildTransitionEvent_congr {old old' target target' : FinanceRunManifest}
    (hold : Same old old') (hcheckpoint : old.eventCheckpoint = old'.eventCheckpoint)
    (htarget : Same target target') :
    buildTransitionEvent (some old) target = buildTransitionEvent (some old') target' := by
  simp only [buildTransitionEvent, Option.map_some, Option.all_some, hold.status, hold.runId,
    hold.runGenesisDigest, hcheckpoint, htarget.status, htarget.runId, htarget.runGenesisDigest,
    transitionBody_congr htarget]

theorem transitionLine_congr {old old' target target' : FinanceRunManifest} (hold : Same old old')
    (hcheckpoint : old.eventCheckpoint = old'.eventCheckpoint) (htarget : Same target target')
    (sequence : UInt64) :
    transitionLine P (some old) target sequence = transitionLine P (some old') target' sequence := by
  simp only [transitionLine, buildTransitionEvent_congr hold hcheckpoint htarget]

theorem transitionLine_congr_none {target target' : FinanceRunManifest}
    (htarget : Same target target') (sequence : UInt64) :
    transitionLine P none target sequence = transitionLine P none target' sequence := by
  simp only [transitionLine, buildTransitionEvent, Option.map_none, Option.all_none,
    htarget.status, htarget.runId, htarget.runGenesisDigest, transitionBody_congr htarget]

/-- The manifests of the earlier phases. -/
theorem Same.r1 {a b : FinanceRunManifest} (h : Same a b) :
    Same (r1Manifest P a) (r1Manifest P b) := by
  constructor <;> simp [r1Manifest, h.runId, h.runGenesisDigest, h.policy, h.invocation,
    h.r1Packets]

theorem Same.r2 {a b : FinanceRunManifest} (h : Same a b) :
    Same (r2Manifest P a) (r2Manifest P b) := by
  constructor <;> simp [r2Manifest, h.runId, h.runGenesisDigest, h.policy, h.invocation,
    h.r1Packets, h.r2Packets, h.r1Outputs]

theorem Same.merging {a b : FinanceRunManifest} (h : Same a b) :
    Same (mergingManifest P a) (mergingManifest P b) := by
  constructor <;> simp [mergingManifest, h.runId, h.runGenesisDigest, h.policy, h.invocation,
    h.r1Packets, h.r2Packets, h.r1Outputs, h.r2Outputs, h.arbiterOutputs]

theorem Same.checkpoint {a b : FinanceRunManifest} (h : Same a b) (c d : FinanceEventCheckpoint) :
    Same { a with eventCheckpoint := c } { b with eventCheckpoint := d } :=
  ⟨h.runId, h.runGenesisDigest, h.status, h.termination, h.policy, h.invocation, h.r1Packets,
    h.r2Packets, h.r1Outputs, h.r2Outputs, h.arbiterOutputs, h.result⟩

theorem expectedEventLedger_congr {a b : FinanceRunManifest} (h : Same a b) :
    expectedEventLedger P a = expectedEventLedger P b := by
  have hline : ∀ {old old' target target' : FinanceRunManifest} (c : FinanceEventCheckpoint)
      (sequence : UInt64), Same old old' → Same target target' →
      transitionLine P (some { old with eventCheckpoint := c }) target sequence
        = transitionLine P (some { old' with eventCheckpoint := c }) target' sequence :=
    fun c sequence hold htarget =>
      transitionLine_congr (hold.checkpoint c c) rfl htarget sequence
  have hterminal := h.checkpoint (placeholderCheckpoint P) (placeholderCheckpoint P)
  rw [h.status, h.termination] at hterminal
  simp only [expectedEventLedger, h.status, h.termination, transitionLine_congr_none h.r1,
    hline _ _ h.r1 hterminal, hline _ _ h.r1 h.r2, hline _ _ h.r2 hterminal,
    hline _ _ h.r2 h.merging, hline _ _ h.merging hterminal]

/-! ### The ledger, transition by transition -/

/-- The checkpoint of a line has the number it is given. -/
theorem transitionLine_sequence {old : Option FinanceRunManifest} {target : FinanceRunManifest}
    {sequence : UInt64} {line : Bytes} {c : FinanceEventCheckpoint}
    (h : transitionLine P old target sequence = .ok (line, c)) : c.sequence = sequence := by
  simp only [transitionLine, bind_ok, pure_ok, Prod.mk.injEq] at h
  obtain ⟨event, -, text, -, rfl, rfl⟩ := h
  rfl

section phases

variable {manifest : FinanceRunManifest} {bytes : Bytes} {c : FinanceEventCheckpoint}

theorem expected_r1Manifest :
    expectedEventLedger P (r1Manifest P manifest) = .ok (bytes, c) ↔
      transitionLine P none (r1Manifest P manifest) 0 = .ok (bytes, c) := by
  have hstatus : (r1Manifest P manifest).status = .r1Running := rfl
  have hidem : r1Manifest P (r1Manifest P manifest) = r1Manifest P manifest := rfl
  rw [expectedEventLedger, hstatus, hidem]
  simp [require_ok, bind_ok, exists_unit]

theorem expected_r2Manifest :
    expectedEventLedger P (r2Manifest P manifest) = .ok (bytes, c) ↔ ∃ first c₁ line,
      expectedEventLedger P (r1Manifest P manifest) = .ok (first, c₁) ∧
      transitionLine P (some { r1Manifest P manifest with eventCheckpoint := c₁ })
        (r2Manifest P manifest) 1 = .ok (line, c) ∧ bytes = first ++ line := by
  have hstatus : (r2Manifest P manifest).status = .r2Running := rfl
  have htermination : (r2Manifest P manifest).termination = none := rfl
  have hr1 : r1Manifest P (r2Manifest P manifest) = r1Manifest P manifest := rfl
  have hr2 : r2Manifest P (r2Manifest P manifest) = r2Manifest P manifest := rfl
  simp only [expected_r1Manifest]
  rw [expectedEventLedger, hstatus, htermination, hr1, hr2]
  simp only [require_ok, bind_ok, exists_unit, pure_ok, Prod.exists, Prod.mk.injEq, Option.map_none,
    reduceCtorEq, if_false, if_true]
  constructor
  · rintro ⟨-, first, c₁, hfirst, line, _, hline, rfl, rfl⟩
    exact ⟨first, c₁, line, hfirst, hline, rfl⟩
  · rintro ⟨first, c₁, line, hfirst, hline, rfl⟩
    exact ⟨rfl, first, c₁, hfirst, line, c, hline, rfl, rfl⟩

theorem expected_mergingManifest :
    expectedEventLedger P (mergingManifest P manifest) = .ok (bytes, c) ↔ ∃ earlier c₂ line,
      expectedEventLedger P (r2Manifest P manifest) = .ok (earlier, c₂) ∧
      transitionLine P (some { r2Manifest P manifest with eventCheckpoint := c₂ })
        (mergingManifest P manifest) 2 = .ok (line, c) ∧ bytes = earlier ++ line := by
  have hstatus : (mergingManifest P manifest).status = .merging := rfl
  have htermination : (mergingManifest P manifest).termination = none := rfl
  have hr1 : r1Manifest P (mergingManifest P manifest) = r1Manifest P manifest := rfl
  have hr2 : r2Manifest P (mergingManifest P manifest) = r2Manifest P manifest := rfl
  have hmerging : mergingManifest P (mergingManifest P manifest) = mergingManifest P manifest := rfl
  simp only [expected_r2Manifest, expected_r1Manifest]
  rw [expectedEventLedger, hstatus, htermination, hr1, hr2, hmerging]
  simp only [require_ok, bind_ok, exists_unit, pure_ok, Prod.exists, Prod.mk.injEq, Option.map_none,
    reduceCtorEq, if_false, if_true]
  constructor
  · rintro ⟨-, first, c₁, hfirst, second, c₂, hsecond, line, _, hline, rfl, rfl⟩
    exact ⟨_, c₂, line, ⟨first, c₁, second, hfirst, hsecond, rfl⟩, hline, rfl⟩
  · rintro ⟨_, c₂, line, ⟨first, c₁, second, hfirst, hsecond, rfl⟩, hline, rfl⟩
    exact ⟨rfl, first, c₁, hfirst, second, c₂, hsecond, line, c, hline, rfl, rfl⟩

end phases

/-- The phase that the last transition ended. -/
def lastPhase (manifest : FinanceRunManifest) : Option FinanceRunStatus :=
  match manifest.status with
  | .preflight | .r1Running => none
  | .r2Running => some .r1Running
  | .merging => some .r2Running
  | .completed | .degraded => some .merging
  | .failed | .cancelled => manifest.termination.map (·.phase)

/-- The manifest of a phase, as it is rebuilt. -/
def manifestIn (P : Platform) (manifest : FinanceRunManifest) :
    FinanceRunStatus → Option FinanceRunManifest
  | .r1Running => some (r1Manifest P manifest)
  | .r2Running => some (r2Manifest P manifest)
  | .merging => some (mergingManifest P manifest)
  | _ => none

/-- Facts of a termination are there exactly when the run broke off, and are of
    the phase it was in. -/
def Terminated (old : Option FinanceRunStatus) (manifest : FinanceRunManifest) : Prop :=
  manifest.termination.map (·.phase)
    = if manifest.status = .failed ∨ manifest.status = .cancelled then old else none

/-- A run that has ended: its last line is of the phase that it ended. -/
theorem expected_ended {manifest prev : FinanceRunManifest} {phase : FinanceRunStatus}
    {bytes line : Bytes} {c c' : FinanceEventCheckpoint} (hterminal : manifest.status.terminal = true)
    (hterminated : manifest.termination.map (·.phase) = some phase
      ∨ manifest.termination = none ∧ phase = .merging)
    (hprev : manifestIn P manifest phase = some prev)
    (hbytes : expectedEventLedger P prev = .ok (bytes, c))
    (hline : transitionLine P (some { prev with eventCheckpoint := c })
      { manifest with eventCheckpoint := placeholderCheckpoint P } (saturatingSucc c.sequence)
        = .ok (line, c')) :
    expectedEventLedger P manifest = .ok (bytes ++ line, c') := by
  -- a run that has ended is in none of the phases
  have hstatus : manifest.status ≠ .preflight ∧ manifest.status ≠ .r1Running ∧
      manifest.status ≠ .r2Running ∧ manifest.status ≠ .merging := by
    cases h : manifest.status <;> rw [h] at hterminal <;> first | exact absurd hterminal (by decide) |
      exact ⟨by decide, by decide, by decide, by decide⟩
  obtain ⟨hpreflight, hr1, hr2, hmerging⟩ := hstatus
  -- the ledger of the phase it ended in, and one line more
  cases phase with
  | r1Running =>
    obtain rfl := Option.some.inj hprev
    have hphase : manifest.termination.map (·.phase) = some .r1Running :=
      hterminated.resolve_right fun h => by cases h.2
    rw [expected_r1Manifest] at hbytes
    have hsequence := transitionLine_sequence hbytes
    rw [hsequence] at hline
    simp only [expectedEventLedger, require_ok, bind_ok, exists_unit, pure_ok, Prod.exists,
      Prod.mk.injEq, hphase, if_neg hr1, if_true, bne_iff_ne, ne_eq]
    exact ⟨hpreflight, _, _, hbytes, _, _, hline, rfl, rfl⟩
  | r2Running =>
    obtain rfl := Option.some.inj hprev
    have hphase : manifest.termination.map (·.phase) = some .r2Running :=
      hterminated.resolve_right fun h => by cases h.2
    obtain ⟨first, c₁, second, hfirst, hsecond, rfl⟩ := expected_r2Manifest.mp hbytes
    rw [expected_r1Manifest] at hfirst
    rw [transitionLine_sequence hsecond] at hline
    simp only [expectedEventLedger, require_ok, bind_ok, exists_unit, pure_ok, Prod.exists,
      Prod.mk.injEq, hphase, if_neg hr1, if_neg hr2, Option.some.injEq, reduceCtorEq, if_false,
      if_true, bne_iff_ne, ne_eq]
    exact ⟨hpreflight, _, _, hfirst, _, _, hsecond, _, _, hline, rfl, rfl⟩
  | merging =>
    obtain rfl := Option.some.inj hprev
    have hphase : manifest.termination.map (·.phase) ≠ some .r1Running ∧
        manifest.termination.map (·.phase) ≠ some .r2Running := by
      rcases hterminated with h | ⟨h, -⟩ <;> rw [h] <;> exact ⟨by decide, by decide⟩
    obtain ⟨earlier, c₂, third, hearlier, hthird, rfl⟩ := expected_mergingManifest.mp hbytes
    obtain ⟨first, c₁, second, hfirst, hsecond, rfl⟩ := expected_r2Manifest.mp hearlier
    rw [expected_r1Manifest] at hfirst
    rw [transitionLine_sequence hthird] at hline
    simp only [expectedEventLedger, require_ok, bind_ok, exists_unit, pure_ok, Prod.exists,
      Prod.mk.injEq, if_neg hphase.1, if_neg hphase.2, if_neg hr1, if_neg hr2, if_neg hmerging,
      bne_iff_ne, ne_eq]
    exact ⟨hpreflight, _, _, hfirst, _, _, hsecond, _, _, hthird, _, _, hline, rfl, rfl⟩
  | _ => cases hprev

theorem eq_nil_of_length {β : Type} {as : List β} (h : 0 = as.length) : as = [] :=
  List.length_eq_zero_iff.mp h.symm

/-- What the counts of a manifest say. -/
theorem validateManifestCounts_ok {manifest : FinanceRunManifest} :
    validateManifestCounts manifest = .ok () ↔ ∃ phase, countedPhase manifest = .ok phase ∧
      phaseCounts phase = some (artifactCounts manifest) := by
  simp only [validateManifestCounts, bind_ok, require_ok, beq_iff_eq]

theorem same_r1Manifest {manifest : FinanceRunManifest} (hstatus : manifest.status = .r1Running)
    (htermination : manifest.termination = none)
    (hcounts : phaseCounts .r1Running = some (artifactCounts manifest)) :
    Same manifest (r1Manifest P manifest) := by
  simp only [phaseCounts, artifactCounts, Option.some.injEq, Prod.mk.injEq] at hcounts
  obtain ⟨-, hr2Packets, hr1Outputs, hr2Outputs, harbiters, hresult⟩ := hcounts
  have hnone : manifest.result = none := by simpa using hresult.symm
  constructor <;> simp [r1Manifest, hstatus, htermination, eq_nil_of_length hr2Packets,
    eq_nil_of_length hr1Outputs, eq_nil_of_length hr2Outputs, eq_nil_of_length harbiters, hnone]

theorem same_r2Manifest {manifest : FinanceRunManifest} (hstatus : manifest.status = .r2Running)
    (htermination : manifest.termination = none)
    (hcounts : phaseCounts .r2Running = some (artifactCounts manifest)) :
    Same manifest (r2Manifest P manifest) := by
  simp only [phaseCounts, artifactCounts, Option.some.injEq, Prod.mk.injEq] at hcounts
  obtain ⟨-, -, -, houtputs, harbiters, hresult⟩ := hcounts
  have hnone : manifest.result = none := by simpa using hresult.symm
  constructor <;> simp [r2Manifest, hstatus, htermination, eq_nil_of_length houtputs,
    eq_nil_of_length harbiters, hnone]

theorem same_mergingManifest {manifest : FinanceRunManifest} (hstatus : manifest.status = .merging)
    (htermination : manifest.termination = none)
    (hcounts : phaseCounts .merging = some (artifactCounts manifest)) :
    Same manifest (mergingManifest P manifest) := by
  simp only [phaseCounts, artifactCounts, Option.some.injEq, Prod.mk.injEq] at hcounts
  obtain ⟨-, -, -, -, -, hresult⟩ := hcounts
  have hnone : manifest.result = none := by simpa using hresult.symm
  constructor <;> simp [mergingManifest, hstatus, htermination, hnone]

/-- **Step**: the ledger with one more line. -/
theorem expectedEventLedger_succ {manifest prev : FinanceRunManifest} {phase : FinanceRunStatus}
    {bytes line : Bytes} {c c' : FinanceEventCheckpoint}
    (hcounts : validateManifestCounts manifest = .ok ())
    (hterminated : Terminated (some phase) manifest)
    (hphase : lastPhase manifest = some phase)
    (hprev : manifestIn P manifest phase = some prev)
    (hbytes : expectedEventLedger P prev = .ok (bytes, c))
    (hline : transitionLine P (some { prev with eventCheckpoint := c }) manifest
      (saturatingSucc c.sequence) = .ok (line, c')) :
    expectedEventLedger P manifest = .ok (bytes ++ line, c') := by
  obtain ⟨counted, hcounted, hartifacts⟩ := validateManifestCounts_ok.mp hcounts
  have hended := (Same.refl manifest).checkpoint manifest.eventCheckpoint (placeholderCheckpoint P)
  have hline' := hline
  rw [transitionLine_congr (Same.refl _) rfl hended] at hline'
  unfold Terminated at hterminated
  unfold countedPhase at hcounted
  -- the last phase before each status
  cases hstatus : manifest.status with
  | preflight | r1Running => simp [lastPhase, hstatus] at hphase
  | r2Running =>
    simp only [lastPhase, hstatus, Option.some.injEq] at hphase
    subst hphase
    simp [hstatus] at hterminated hcounted
    subst hcounted
    obtain rfl := Option.some.inj hprev
    have hsame := same_r2Manifest (P := P) hstatus hterminated hartifacts
    have hsequence := transitionLine_sequence (expected_r1Manifest.mp hbytes)
    rw [hsequence, transitionLine_congr (Same.refl _) rfl hsame] at hline
    rw [expectedEventLedger_congr hsame]
    exact expected_r2Manifest.mpr ⟨bytes, c, line, hbytes, hline, rfl⟩
  | merging =>
    simp only [lastPhase, hstatus, Option.some.injEq] at hphase
    subst hphase
    simp [hstatus] at hterminated hcounted
    subst hcounted
    obtain rfl := Option.some.inj hprev
    have hsame := same_mergingManifest (P := P) hstatus hterminated hartifacts
    obtain ⟨_, _, _, _, hsecond, _⟩ := expected_r2Manifest.mp hbytes
    rw [transitionLine_sequence hsecond, transitionLine_congr (Same.refl _) rfl hsame] at hline
    rw [expectedEventLedger_congr hsame]
    exact expected_mergingManifest.mpr ⟨bytes, c, line, hbytes, hline, rfl⟩
  -- a run that has ended: the phase is that of its termination, or the merge
  | completed | degraded =>
    simp only [lastPhase, hstatus, Option.some.injEq] at hphase
    simp [hstatus] at hterminated
    exact expected_ended (by rw [hstatus]; rfl) (.inr ⟨hterminated, hphase.symm⟩) hprev hbytes hline'
  | failed | cancelled =>
    simp only [lastPhase, hstatus] at hphase
    exact expected_ended (by rw [hstatus]; rfl) (.inl hphase) hprev hbytes hline'

/-! ### A run of transitions -/

theorem currentManifest_written {state : FileTree Bytes} {old : FinanceRunManifest}
    {current : Option (Bytes × FinanceRunManifest)}
    (hfile : state.file "manifest.json" = some (toVecPretty FinanceRunManifest.codec old))
    (h : currentManifest P state = .ok current) :
    current = some (toVecPretty FinanceRunManifest.codec old, old) := by
  have hparse := parseStrictJson_toVecPretty (P := P) depth_runManifest old
  generalize toVecPretty FinanceRunManifest.codec old = bytes at hfile hparse
  have hdec := fromValue_ok.mp (fromValue_toValue (C := FinanceRunManifest.codec) old)
  obtain ⟨hbytes, hread⟩ := currentManifest_ok.mp h
  rw [hfile] at hbytes
  obtain ⟨⟨_, m⟩, rfl, rfl⟩ := Option.map_eq_some_iff.mp hbytes.symm
  obtain ⟨value, hvalue, hm⟩ := hread _ rfl
  obtain rfl := Except.ok.inj (hparse.symm.trans hvalue)
  obtain rfl : m = old := Option.some.inj (hm.symm.trans hdec)
  rfl

/-- What a manifest may become: artifacts are added, and may be moved. -/
structure Extends (old target : FinanceRunManifest) : Prop where
  policy : artifactIdentity old.policy = artifactIdentity target.policy
  invocation : artifactIdentity old.invocation = artifactIdentity target.invocation
  r1Packets : old.r1Packets.map artifactIdentity <+: target.r1Packets.map artifactIdentity
  r2Packets : old.r2Packets.map artifactIdentity <+: target.r2Packets.map artifactIdentity
  r1Outputs : old.r1Outputs.map artifactIdentity <+: target.r1Outputs.map artifactIdentity
  r2Outputs : old.r2Outputs.map artifactIdentity <+: target.r2Outputs.map artifactIdentity
  arbiterOutputs :
    old.arbiterOutputs.map artifactIdentity <+: target.arbiterOutputs.map artifactIdentity

/-- The lines that steps append to the ledger. -/
def appended (steps : List Step) : Bytes :=
  steps.flatMap fun step => match step with
    | .append _ bytes => bytes
    | _ => []

/-- A run of transitions: the directory, its manifest, and all the lines that
    were appended.  Between two transitions other files may change. -/
inductive Written (P : Platform) : FileTree Bytes → FinanceRunManifest → Bytes → Prop where
  | create {state : FileTree Bytes} {target manifest : FinanceRunManifest} {steps : List Step}
      (hcounts : validateManifestCounts target = .ok ()) (hterminated : Terminated none target)
      (habsent : state.file "manifest.json" = none)
      (h : transitionWithPending P state target = .ok (manifest, steps)) :
      Written P (perform FileStep.apply steps state) manifest (appended steps)
  | advance {state between : FileTree Bytes} {old target manifest : FinanceRunManifest}
      {bytes : Bytes} {steps : List Step} (hold : Written P state old bytes)
      (hledger : between.file "events.jsonl" = state.file "events.jsonl")
      (hmanifest : between.file "manifest.json" = state.file "manifest.json")
      (hextends : Extends old target) (hcounts : validateManifestCounts target = .ok ())
      (hterminated : Terminated (some old.status) target)
      (h : transitionWithPending P between target = .ok (manifest, steps)) :
      Written P (perform FileStep.apply steps between) manifest (bytes ++ appended steps)

theorem identities_of_prefix {as bs : List PortableBinding}
    (h : as.map artifactIdentity <+: bs.map artifactIdentity) (hlength : as.length = bs.length) :
    bs.map artifactIdentity = as.map artifactIdentity :=
  (h.eq_of_length (by rw [List.length_map, List.length_map, hlength])).symm

section rebuilt

variable {old target : FinanceRunManifest}

theorem rebuilt_r1 (hextends : Extends old target) (hid : old.runId = target.runId)
    (hgenesis : old.runGenesisDigest = target.runGenesisDigest) (hopen : old.termination = none)
    (hstatus : old.status = .r1Running)
    (hartifacts : phaseCounts .r1Running = some (artifactCounts old))
    (hpackets : target.r1Packets.length = 5) : Same (r1Manifest P target) old := by
  simp only [phaseCounts, artifactCounts, Option.some.injEq, Prod.mk.injEq] at hartifacts
  obtain ⟨h₁, h₂, h₃, h₄, h₅, h₆⟩ := hartifacts
  have hnone : old.result = none := by simpa using h₆.symm
  constructor <;> simp [r1Manifest, hstatus, hopen, hid, hgenesis, hextends.policy,
    hextends.invocation, identities_of_prefix hextends.r1Packets (h₁.symm.trans hpackets.symm),
    eq_nil_of_length h₂, eq_nil_of_length h₃, eq_nil_of_length h₄, eq_nil_of_length h₅, hnone]

theorem rebuilt_r2 (hextends : Extends old target) (hid : old.runId = target.runId)
    (hgenesis : old.runGenesisDigest = target.runGenesisDigest) (hopen : old.termination = none)
    (hstatus : old.status = .r2Running)
    (hartifacts : phaseCounts .r2Running = some (artifactCounts old))
    (hr1Packets : target.r1Packets.length = 5) (hr2Packets : target.r2Packets.length = 5)
    (hr1Outputs : target.r1Outputs.length = 5) : Same (r2Manifest P target) old := by
  simp only [phaseCounts, artifactCounts, Option.some.injEq, Prod.mk.injEq] at hartifacts
  obtain ⟨h₁, h₂, h₃, h₄, h₅, h₆⟩ := hartifacts
  have hnone : old.result = none := by simpa using h₆.symm
  constructor <;> simp [r2Manifest, hstatus, hopen, hid, hgenesis, hextends.policy,
    hextends.invocation, identities_of_prefix hextends.r1Packets (h₁.symm.trans hr1Packets.symm),
    identities_of_prefix hextends.r2Packets (h₂.symm.trans hr2Packets.symm),
    identities_of_prefix hextends.r1Outputs (h₃.symm.trans hr1Outputs.symm),
    eq_nil_of_length h₄, eq_nil_of_length h₅, hnone]

theorem rebuilt_merging (hextends : Extends old target) (hid : old.runId = target.runId)
    (hgenesis : old.runGenesisDigest = target.runGenesisDigest) (hopen : old.termination = none)
    (hstatus : old.status = .merging)
    (hartifacts : phaseCounts .merging = some (artifactCounts old))
    (hr1Packets : target.r1Packets.length = 5) (hr2Packets : target.r2Packets.length = 5)
    (hr1Outputs : target.r1Outputs.length = 5) (hr2Outputs : target.r2Outputs.length = 5)
    (harbiters : target.arbiterOutputs.length = 2) : Same (mergingManifest P target) old := by
  simp only [phaseCounts, artifactCounts, Option.some.injEq, Prod.mk.injEq] at hartifacts
  obtain ⟨h₁, h₂, h₃, h₄, h₅, h₆⟩ := hartifacts
  have hnone : old.result = none := by simpa using h₆.symm
  constructor <;> simp [mergingManifest, hstatus, hopen, hid, hgenesis, hextends.policy,
    hextends.invocation, identities_of_prefix hextends.r1Packets (h₁.symm.trans hr1Packets.symm),
    identities_of_prefix hextends.r2Packets (h₂.symm.trans hr2Packets.symm),
    identities_of_prefix hextends.r1Outputs (h₃.symm.trans hr1Outputs.symm),
    identities_of_prefix hextends.r2Outputs (h₄.symm.trans hr2Outputs.symm),
    identities_of_prefix hextends.arbiterOutputs (h₅.symm.trans harbiters.symm), hnone]

/-- The phase whose artifacts a manifest has: of a run that broke off, the one
    it was in. -/
theorem countedPhase_eq {o : Option FinanceRunStatus} {manifest : FinanceRunManifest}
    (hterminated : Terminated o manifest) {phase : FinanceRunStatus}
    (h : countedPhase manifest = .ok phase) :
    if manifest.status = .failed ∨ manifest.status = .cancelled then o = some phase
    else manifest.status = phase := by
  unfold countedPhase at h
  unfold Terminated at hterminated
  split at h
  · rename_i hbroken
    rw [if_pos hbroken] at hterminated ⊢
    rw [context_ok] at h
    rw [← hterminated, h]
  · rename_i hbroken
    rw [if_neg hbroken]
    exact Except.ok.inj h

theorem lastPhase_of_legal (hterminated : Terminated (some old.status) target)
    (hlegal : legalTransition (some old.status) target.status = true) :
    lastPhase target = some old.status := by
  unfold Terminated at hterminated
  unfold lastPhase
  cases hs : old.status <;> cases ht : target.status <;> rw [hs, ht] at hlegal <;>
    first | exact absurd hlegal (by decide) | rfl | simpa [hs, ht] using hterminated

/-- What the next phase counts. -/
theorem counted_of_legal {p q phase : FinanceRunStatus} (hlegal : legalTransition (some p) q = true)
    (h : if q = .failed ∨ q = .cancelled then some p = some phase else q = phase) :
    phase = p ∨ p = .r1Running ∧ phase = .r2Running ∨ p = .r2Running ∧ phase = .merging
      ∨ p = .merging ∧ (phase = .completed ∨ phase = .degraded) := by
  cases p <;> cases q <;> first | exact absurd hlegal (by decide) | simp_all

/-- The manifest that is rebuilt from the next one is the one that was there. -/
theorem rebuilt_of_extends (hextends : Extends old target)
    (hlegal : legalTransition (some old.status) target.status = true)
    (hid : old.runId = target.runId) (hgenesis : old.runGenesisDigest = target.runGenesisDigest)
    (hold : validateManifestCounts old = .ok ()) (hopen : old.termination = none)
    (hcounts : validateManifestCounts target = .ok ())
    (hterminated : Terminated (some old.status) target) :
    ∃ prev, manifestIn P target old.status = some prev ∧ Same prev old := by
  obtain ⟨phase, hphase, hartifacts⟩ := validateManifestCounts_ok.mp hcounts
  have hartifacts' : phaseCounts old.status = some (artifactCounts old) := by
    obtain ⟨phase', hphase', hartifacts'⟩ := validateManifestCounts_ok.mp hold
    cases hs : old.status <;> simp_all [legalTransition, countedPhase]
  have hcounted := counted_of_legal hlegal (countedPhase_eq hterminated hphase)
  -- the fields that the earlier phase did not have yet are cleared again
  cases hs : old.status with
  | r1Running =>
    rw [hs] at hartifacts' hcounted
    refine ⟨_, rfl, rebuilt_r1 hextends hid hgenesis hopen hs hartifacts' ?_⟩
    rcases hcounted with rfl | ⟨-, rfl⟩ | h | h <;>
      simp_all [phaseCounts, artifactCounts]
  | r2Running =>
    rw [hs] at hartifacts' hcounted
    refine ⟨_, rfl, rebuilt_r2 hextends hid hgenesis hopen hs hartifacts' ?_ ?_ ?_⟩ <;>
      rcases hcounted with rfl | h | ⟨-, rfl⟩ | h <;>
      simp_all [phaseCounts, artifactCounts]
  | merging =>
    rw [hs] at hartifacts' hcounted
    refine ⟨_, rfl, rebuilt_merging hextends hid hgenesis hopen hs hartifacts' ?_ ?_ ?_ ?_ ?_⟩ <;>
      rcases hcounted with rfl | h | h | ⟨-, rfl | rfl⟩ <;>
      simp_all [phaseCounts, artifactCounts]
  | _ => simp [hs, legalTransition] at hlegal

end rebuilt

/-- What a run of transitions leaves behind. -/
structure Settled (P : Platform) (state : FileTree Bytes) (manifest : FinanceRunManifest)
    (bytes : Bytes) : Prop where
  manifestFile : state.file "manifest.json" = some (toVecPretty FinanceRunManifest.codec manifest)
  ledgerFile : state.file "events.jsonl" = some bytes
  expected : expectedEventLedger P manifest = .ok (bytes, manifest.eventCheckpoint)
  counts : validateManifestCounts manifest = .ok ()
  terminated : ∃ o, Terminated o manifest
  verified : verifyManifestCheckpoint P state manifest = .ok ()

theorem settled_of_transition {state : FileTree Bytes} {target manifest : FinanceRunManifest}
    {steps : List Step} {bytes : Bytes} {o : Option FinanceRunStatus}
    (hcounts : validateManifestCounts target = .ok ()) (hterminated : Terminated o target)
    (hbytes : (state.file "events.jsonl").getD [] = bytes)
    (hexpected : ∀ old event line, currentManifest P state = .ok old →
      buildTransitionEvent (old.map (·.2)) target = .ok event →
      canonicalEventLine event = .ok line →
      expectedEventLedger P (checkpointed P target event line)
        = .ok (bytes ++ line, { sequence := event.sequence, eventSha256 := exactDigest P line }))
    (h : transitionWithPending P state target = .ok (manifest, steps)) :
    Settled P (perform FileStep.apply steps state) manifest (bytes ++ appended steps) := by
  obtain ⟨-, current, event, line, pending, hcurrent, hold, hevent, hline, rfl, -, -, -, -, rfl⟩ :=
    transitionWithPending_ok.mp h
  have happended : appended (transitionSteps pending line (toVecPretty FinanceRunManifest.codec
      (checkpointed P target event line))) = line := by
    simp [appended, transitionSteps]
  obtain ⟨hledger, hmanifest⟩ := file_transitionSteps pending line
    (toVecPretty FinanceRunManifest.codec (checkpointed P target event line)) state
  obtain ⟨ledger, hread, -, hnext⟩ := readLedgerLine_transition hold hevent hline
  have hread' := readFinanceLedger_append hread hledger hnext
  obtain ⟨-, -, -, hfields⟩ := buildTransitionEvent_ok.mp hevent
  rw [happended]
  -- the ledger ends with the event that the manifest names
  refine ⟨hmanifest, hbytes ▸ hledger, hexpected current event line hcurrent hevent hline, hcounts,
    ⟨o, hterminated⟩, verifyManifestCheckpoint_ok.mpr ⟨_, hread', ?_, event, ?_, ?_, ?_⟩⟩
  · simp [FinanceLedger.checkpoint, checkpointed]
  · simp
  · rw [hfields]
    rfl
  · rw [hfields]
    rfl

theorem transitionLine_of {old : Option FinanceRunManifest} {target : FinanceRunManifest}
    {event : FinanceRunEvent} {line : Bytes} (hevent : buildTransitionEvent old target = .ok event)
    (hline : canonicalEventLine event = .ok line) (sequence : UInt64) :
    transitionLine P old target sequence
      = .ok (line, { sequence := sequence, eventSha256 := exactDigest P line }) := by
  simp only [transitionLine, bind_ok, pure_ok]
  exact ⟨event, hevent, line, hline, rfl⟩

/-- **Run**: the lines that were appended are the lines that are expected. -/
theorem settled_of_written {state : FileTree Bytes} {manifest : FinanceRunManifest} {bytes : Bytes}
    (h : Written P state manifest bytes) : Settled P state manifest bytes := by
  induction h with
  | @create state target manifest steps hcounts hterminated habsent h =>
    suffices hsettled : Settled P _ manifest ([] ++ appended steps) from hsettled
    refine settled_of_transition hcounts hterminated ?_ ?_ h
    -- a new run has no ledger
    · obtain ⟨-, current, event, line, pending, hcurrent, hold, -⟩ := transitionWithPending_ok.mp h
      obtain ⟨hbytes, -⟩ := currentManifest_ok.mp hcurrent
      rw [habsent] at hbytes
      obtain rfl := Option.map_eq_none_iff.mp hbytes.symm
      simp only [Option.map_none, validateOld, bind_ok, require_ok] at hold
      obtain ⟨ledger, hread, hempty⟩ := hold
      obtain ⟨hchained, hflatten⟩ := readFinanceLedger_ok hread
      have hlines : ledger.lines = [] := by
        rw [← List.length_eq_zero_iff, ← hchained.canonical.length_eq, List.isEmpty_iff.mp hempty,
          List.length_nil]
      rw [← hflatten, hlines, List.flatten_nil]
    · intro old event line hcurrent hevent hline
      obtain ⟨hbytes, -⟩ := currentManifest_ok.mp hcurrent
      rw [habsent] at hbytes
      obtain rfl := Option.map_eq_none_iff.mp hbytes.symm
      obtain ⟨hlegal, -, -, hfields⟩ := buildTransitionEvent_ok.mp hevent
      -- and its first status is that of the first phase
      have hstatus : target.status = .r1Running := by
        cases hs : target.status <;> rw [hs] at hlegal <;> first | rfl | exact absurd hlegal (by decide)
      have htermination : target.termination = none := by simpa [Terminated] using hterminated
      obtain ⟨phase, hphase, hartifacts⟩ := validateManifestCounts_ok.mp hcounts
      have hcounted := countedPhase_eq hterminated hphase
      simp only [hstatus, reduceCtorEq, or_self, if_false] at hcounted
      subst hcounted
      have hsame := same_r1Manifest (P := P) hstatus htermination hartifacts
      have hcheckpointed : Same (checkpointed P target event line) target :=
        (Same.refl target).checkpoint _ _
      have hfirst : transitionLine P none target 0 = _ := transitionLine_of hevent hline 0
      rw [expectedEventLedger_congr hcheckpointed, expectedEventLedger_congr hsame,
        expected_r1Manifest, ← transitionLine_congr_none hsame, hfirst, hfields]
      rfl
  | advance hold hledger hmanifest hextends hcounts hterminated h ih =>
    refine settled_of_transition hcounts hterminated ?_ ?_ h
    · rw [hledger, ih.ledgerFile, Option.getD_some]
    · intro current event line hcurrent hevent hline
      rename_i state between old target manifest bytes steps
      obtain rfl := currentManifest_written (hmanifest.trans ih.manifestFile) hcurrent
      obtain ⟨hlegal, hrun, -, hfields⟩ := buildTransitionEvent_ok.mp hevent
      obtain ⟨hid, hgenesis⟩ := hrun old rfl
      -- no run goes on after its end
      have hopen : old.termination = none := by
        obtain ⟨o, hold⟩ := ih.terminated
        unfold Terminated at hold
        cases hs : old.status <;> simp [hs, legalTransition] at hlegal hold <;> exact hold
      obtain ⟨prev, hprev, hsame⟩ := rebuilt_of_extends (P := P) hextends hlegal hid hgenesis
        ih.counts hopen hcounts hterminated
      have hcheckpointed : Same (checkpointed P target event line) target :=
        (Same.refl target).checkpoint _ _
      have hline' : transitionLine P (some { prev with eventCheckpoint := old.eventCheckpoint })
          target (saturatingSucc old.eventCheckpoint.sequence) = _ :=
        (transitionLine_congr (hsame.checkpoint _ _) rfl (Same.refl target) _).trans
          (transitionLine_of hevent hline _)
      have hexpected := (expectedEventLedger_congr hsame).trans ih.expected
      rw [expectedEventLedger_congr hcheckpointed, hfields]
      exact expectedEventLedger_succ hcounts hterminated (lastPhase_of_legal hterminated hlegal)
        hprev hexpected hline'

theorem verifyExpectedEventLedger_ok {state : FileTree Bytes} {manifest : FinanceRunManifest} :
    verifyExpectedEventLedger P state manifest = .ok () ↔ ∃ bytes,
      expectedEventLedger P manifest = .ok (bytes, manifest.eventCheckpoint) ∧
      state.file "events.jsonl" = some bytes ∧
      verifyManifestCheckpoint P state manifest = .ok () := by
  simp only [verifyExpectedEventLedger, bind_ok, exists_unit, require_ok, readFile_ok, beq_iff_eq,
    Prod.exists]
  constructor
  · rintro ⟨expected, c, hexpected, rfl, bytes, hbytes, rfl, hverify⟩
    exact ⟨_, hexpected, hbytes, hverify⟩
  · rintro ⟨bytes, hexpected, hbytes, hverify⟩
    exact ⟨bytes, _, hexpected, rfl, bytes, hbytes, rfl, hverify⟩

/-- **The ledger that is reconstructed is the ledger that was written.** -/
theorem expected_ledger_agrees (P : Platform) (state : FileTree Bytes)
    (manifest : FinanceRunManifest) (bytes : Bytes) (h : Written P state manifest bytes) :
    expectedEventLedger P manifest = .ok (bytes, manifest.eventCheckpoint) ∧
      state.file "events.jsonl" = some bytes ∧
      verifyExpectedEventLedger P state manifest = .ok () ∧
      ∀ other, verifyExpectedEventLedger P other manifest = .ok () →
        other.file "events.jsonl" = some bytes := by
  have hsettled := settled_of_written h
  refine ⟨hsettled.expected, hsettled.ledgerFile, verifyExpectedEventLedger_ok.mpr
    ⟨bytes, hsettled.expected, hsettled.ledgerFile, hsettled.verified⟩, fun other hother => ?_⟩
  obtain ⟨bytes', hexpected, hbytes, -⟩ := verifyExpectedEventLedger_ok.mp hother
  rw [hsettled.expected] at hexpected
  rw [hbytes, (Prod.mk.inj (Except.ok.inj hexpected)).1]

/-- The run that has been created. -/
theorem written_sample : ∃ steps, Written samplePlatform
    (perform FileStep.apply steps sampleStart) sampleTarget (appended steps) := by
  obtain ⟨hline, htarget, -, -⟩ := samplePlatform_digests
  have habsent : sampleStart.file "manifest.json" = none := by decide
  have hpending : sampleStart.file "pending-transition.json" = none := by decide
  have hledger : readFinanceLedger samplePlatform sampleStart = .ok ⟨[], [], []⟩ := by
    have hfile : sampleStart.file "events.jsonl" = none := by decide
    rw [readFinanceLedger, hfile]
    rfl
  have hold : validateOld samplePlatform sampleStart none = .ok () := by
    simp only [validateOld, bind_ok, require_ok]
    exact ⟨_, hledger, rfl⟩
  have hsame : sampleTarget = checkpointed samplePlatform sampleTarget sampleEvent sampleLine := by
    rw [checkpointed, hline]
    rfl
  obtain ⟨id, hid, -, -, hwritten⟩ := pendingOf_sample
  have hfile : sampleStart.file "artifact.json" = some sampleArtifact := by decide
  have hterminated : Terminated none sampleTarget := by simp [Terminated, sampleTarget]
  exact ⟨_, .create (by decide) hterminated habsent (transitionWithPending_ok.mpr ⟨hpending, none,
    sampleEvent, sampleLine, samplePending id,
    currentManifest_ok.mpr ⟨habsent, fun _ h => (by cases h)⟩, hold, sampleEvent_built,
    canonicalEventLine_sampleEvent, hsame, accepts_sampleTarget, validate_sampleTarget hfile,
    hwritten, accepts_samplePending hid, rfl⟩)⟩

theorem expected_ledger_agrees_sample : ∃ state bytes,
    Written samplePlatform state sampleTarget bytes ∧
      expectedEventLedger samplePlatform sampleTarget
        = .ok (bytes, sampleTarget.eventCheckpoint) ∧
      verifyExpectedEventLedger samplePlatform state sampleTarget = .ok () := by
  obtain ⟨steps, h⟩ := written_sample
  obtain ⟨hexpected, -, hverify, -⟩ := expected_ledger_agrees samplePlatform _ sampleTarget _ h
  exact ⟨_, _, h, hexpected, hverify⟩

end Quinte.Finance
