import Mathlib
import Quinte.Run.Commands
import Quinte.Store.Alone

/-! # Amending a completed run

    `amend_primary_arbiter_verdict` replaces `result.json`, then `report.md`,
    then the digest in the manifest.  A process that stops after the first of
    these writes, and before the last, leaves a run whose result no longer
    hashes to its recorded digest.

    Main result: `amend_verifiable_iff`. The run verifies at every point at
    which an amendment can stop if and only if the amendment is refused before
    it writes, or writes a result with the digest that is recorded already.
-/

namespace Quinte.Run

open Program Store

/-! ### Verifying -/

/-- `verify_result_integrity` succeeds, whichever process calls it. -/
def Verifies (host : Host) (s : RunDir) : Prop :=
  ∀ q, Prog.wp (fun _ => True) (fun _ => True) (fun r _ => ∃ integrity, r = .ok (some integrity))
    (verifyResultIntegrity q host) s

theorem verifies_iff {host : Host} {s : RunDir} {m : RunManifest} (hs : Recoverable s)
    (hm : s.manifest = some m) :
    Verifies host s ↔ ∃ integrity, checkResultIntegrity host m s.result = .ok (some integrity) := by
  have hafter : ∀ q : Pid, Prog.wp (fun _ => True) (fun _ => True)
      (fun r t => r = .ok m ∧ t.result = s.result) (loadManifest q) s := fun q =>
    wp_loadManifest hs hm (fun _ _ => trivial) fun t ht _ _ => ⟨rfl, by rw [ht.same]⟩
  constructor
  · intro h
    -- one run of the verification decides
    obtain ⟨p', t, r, hreach, hend, rfl, hresult⟩ := Prog.wp_exists ⟨default, trivial⟩ (hafter 0)
    obtain ⟨-, hwp⟩ := Prog.wp_reaches (hreach.bind _) trivial (h 0)
    cases p' with
    | pure a =>
      obtain rfl := Except.ok.inj (Option.some.inj hend)
      have hcheck := (Prog.wp_ofExcept _ _).mp ((Prog.wp_bind _ _ _).mp hwp).2.2
      exact hresult ▸ hcheck
    | throw e => exact nomatch Option.some.inj hend
    | act enabled update next => exact nomatch hend
    | ask next => exact nomatch hend
  · rintro ⟨integrity, hcheck⟩ q
    refine (Prog.wp_bind _ _ _).mpr (Prog.wp_mono (hafter q) ?_)
    rintro r t ⟨rfl, hresult⟩
    refine (Prog.wp_bind _ _ _).mpr ⟨rfl, trivial, (Prog.wp_ofExcept _ _).mpr ⟨integrity, ?_⟩⟩
    show checkResultIntegrity host m t.result = _
    rw [hresult, hcheck]

/-! ### Completed runs -/

/-- A completed run that nobody works on, whose result verifies. -/
structure CompletedRun (host : Host) (s : RunDir) (m : RunManifest) : Prop where
  manifest : s.manifest = some m
  status : m.status = .completed
  free : ∀ l, s.locks l = none
  recoverable : Recoverable s
  verifies : Verifies host s

/-- What the process `me`, working alone on a run with the manifest `m`, leaves
    of it at any point: its locks and what a recovery needs. -/
structure WorkedOn (me : Pid) (m : RunManifest) (s : RunDir) : Prop where
  manifest : s.manifest = some m
  locks : ∀ l, s.locks l = none ∨ s.locks l = some me
  sequences : Sequenced s.events
  runId : m.runId ≠ ""
  placed : ∀ p, s.pending = some p → m.status = p.from ∨ m.status = p.to

theorem CompletedRun.workedOn {host : Host} {s : RunDir} {m : RunManifest}
    (h : CompletedRun host s m) (me : Pid) : WorkedOn me m s := by
  obtain ⟨c, hc, hrunId, hplaced⟩ := h.recoverable.manifest
  obtain rfl := Option.some.inj (h.manifest.symm.trans hc)
  exact ⟨hc, fun l => Or.inl (h.free l), h.recoverable.sequences, hrunId, hplaced⟩

namespace WorkedOn

variable {host : Host} {me : Pid} {m : RunManifest} {s t : RunDir}

theorem quiet (h : WorkedOn me m s) (hst : Quiet me s t) : WorkedOn me m t := by
  refine ⟨?_, fun l => ?_, hst.sequences h.sequences, h.runId, fun p hp => ?_⟩
  · rw [hst.same]
    exact h.manifest
  · by_cases hl : l = .events
    · subst hl
      rcases hst.holder with heq | hme | hnone
      · exact heq ▸ h.locks .events
      · exact Or.inr hme
      · exact Or.inl hnone
    · exact hst.locks l hl ▸ h.locks l
  · rcases hst.pending with heq | hnone
    · exact h.placed p (heq ▸ hp)
    · exact nomatch hnone ▸ hp

/-- Taking and dropping a lock. -/
theorem take (h : WorkedOn me m s) (l : Lock) : WorkedOn me m (s.control (·.take me l)) := by
  refine ⟨h.manifest, fun l' => ?_, h.sequences, h.runId, h.placed⟩
  by_cases hl : l' = l
  · exact Or.inr (hl ▸ s.toControl.take_locks_self me l)
  · exact (s.toControl.take_locks_ne me hl) ▸ h.locks l'

theorem drop (h : WorkedOn me m s) (l : Lock) : WorkedOn me m (s.control (·.drop me l)) := by
  by_cases held : s.locks l = some me
  · have hdrop := drop_of_held held
    refine ⟨?_, fun l' => ?_, ?_, h.runId, ?_⟩
    · rw [RunDir.control_toControl, hdrop]
      exact h.manifest
    · rw [RunDir.control_toControl, hdrop]
      by_cases hl : l' = l
      · exact Or.inl (hl ▸ s.toControl.setLock_self l none)
      · exact (s.toControl.setLock_ne none hl) ▸ h.locks l'
    · rw [RunDir.control_toControl, hdrop]
      exact h.sequences
    · rw [RunDir.control_toControl, hdrop]
      exact h.placed
  · have hsame : s.control (·.drop me l) = s := by
      simp only [RunDir.control, Control.drop, held, if_false]
    rwa [hsame]

/-- The death of the process leaves a run that can be recovered. -/
theorem recoverable (h : WorkedOn me m s) : Recoverable (s.control (·.release me)) := by
  refine ⟨?_, h.sequences, m, h.manifest, h.runId, h.placed⟩
  rcases h.locks .events with hfree | hheld
  · simp [RunDir.control, Control.release, hfree]
  · simp [RunDir.control, Control.release, hheld]

/-- Whether the run verifies once the process is dead is a matter of the result. -/
theorem verifies_iff (h : WorkedOn me m s) :
    Verifies host (s.control (·.release me)) ↔
      ∃ integrity, checkResultIntegrity host m s.result = .ok (some integrity) :=
  Run.verifies_iff h.recoverable h.manifest

end WorkedOn

/-! ### What an amendment writes -/

/-- The result that an amendment writes, unless it is refused. -/
def amended (host : Host) (s : RunDir) (m : RunManifest) (verdict : ArbiterVerdict)
    (force : Bool) : Except String ResultEnvelope := do
  ensureVerdictNotDegenerate verdict force
  let (r1, r2, verdict) ← amendInputs host s m verdict
  mergedResult s m r1 r2 verdict

/-- A result that was merged for a completed run passes every check of the
    verification but that of its digest. -/
theorem check_mergedResult {host : Host} {s : RunDir} {m : RunManifest} {r1 r2 : List LaneAccepted}
    {verdict : ArbiterVerdict} {result : ResultEnvelope} {expected : Digest}
    (h : mergedResult s m r1 r2 verdict = .ok result) (hstatus : m.status = .completed)
    (hexpected : m.resultSha256 = some expected) :
    (∃ integrity, checkResultIntegrity host m (some result) = .ok (some integrity)) ↔
      host.resultDigest result = expected := by
  unfold mergedResult at h
  cases hcc : s.ccResponse with
  | none => simp [hcc] at h
  | some counterpart =>
    simp only [hcc, Policy.bind_unit_ok] at h
    obtain ⟨-, h⟩ := h
    cases hmerge : mergeVerdicts m s.inputs.brief s.inputs.policy r1 r2 verdict counterpart with
    | none => simp [hmerge] at h
    | some merged =>
      simp only [hmerge, Policy.bind_unit_ok, Policy.require_ok] at h
      obtain ⟨hschema, hresult⟩ := h
      obtain rfl := Except.ok.inj hresult
      obtain ⟨hrun, hcompleted, hbrief, hseat, hroutes⟩ := mergeVerdicts_identity hmerge
      unfold checkResultIntegrity
      simp [hstatus, hexpected, hschema, hrun, hcompleted, hbrief, hseat, hroutes,
        Policy.bind_unit_ok]
      exact fun _ => ⟨_, rfl⟩

/-- What an amendment reads is not what a recovery changes. -/
theorem amendInputs_quiet {host : Host} {me : Pid} {s t : RunDir} {m : RunManifest}
    {verdict : ArbiterVerdict} (h : Quiet me s t) :
    amendInputs host t m verdict = amendInputs host s m verdict := by
  rw [h.same]
  rfl

theorem mergedResult_quiet {me : Pid} {s t : RunDir} {m : RunManifest} {r1 r2 : List LaneAccepted}
    {verdict : ArbiterVerdict} (h : Quiet me s t) :
    mergedResult t m r1 r2 verdict = mergedResult s m r1 r2 verdict := by
  rw [h.same]
  rfl

section wp

variable {host : Host} {me : Pid} {m : RunManifest} {s : RunDir} {A : Answer → Prop}

/-- The manifest lock is taken, the manifest is written again as it is, and the
    lock is dropped. -/
theorem wp_saveManifestAfterTerminal {I : RunDir → Prop} {Q : Except String Unit → RunDir → Prop}
    (h : WorkedOn me m s) (hfree : s.locks .manifest = none)
    (hI : ∀ t, WorkedOn me m t → t.result = s.result → I t)
    (hQ : ∀ r t, WorkedOn me m t → t.result = s.result → t.locks .events = s.locks .events →
      Q r t) :
    Prog.wp I A Q (saveManifestAfterTerminal me m) s := by
  have htake := h.take .manifest
  refine (Prog.wp_bracket _ _ _ _ _).mpr ⟨by simp [hfree], hI _ htake rfl, ?_⟩
  -- the lock is dropped whatever came of it
  have hdone : ∀ {t : RunDir} (r : Except String Unit), WorkedOn me m t → t.result = s.result →
      t.locks .events = s.locks .events → t.locks .manifest = some me →
      I (t.control (·.drop me .manifest)) ∧ Q r (t.control (·.drop me .manifest)) := by
    intro t r ht hresult hevents held
    have hsame : (t.toControl.drop me .manifest).result = s.result := by
      rw [drop_of_held held]
      exact hresult
    have hevents' : (t.toControl.drop me .manifest).locks .events = s.locks .events := by
      rw [drop_of_held held]
      exact (t.toControl.setLock_ne none (by decide : Lock.events ≠ .manifest)).trans hevents
    exact ⟨hI _ (ht.drop .manifest) hsame, hQ r _ (ht.drop .manifest) hsame hevents'⟩
  have hevents : (s.toControl.take me .manifest).locks .events = s.locks .events :=
    s.toControl.take_locks_ne me (by decide : Lock.events ≠ .manifest)
  have held : (s.toControl.take me .manifest).locks .manifest = some me :=
    s.toControl.take_locks_self me _
  refine (Prog.wp_bind _ _ _).mpr ((Prog.wp_ensure _ _ _).mpr ⟨fun _ => ?_, fun _ => ?_⟩)
  · have hsave : WorkedOn me m { s.control (·.take me .manifest) with manifest := some m } :=
      ⟨rfl, htake.locks, htake.sequences, htake.runId, htake.placed⟩
    exact (Prog.wp_modify _ _).mpr ⟨hI _ hsave rfl, hdone _ hsave rfl hevents held⟩
  · exact hdone _ htake rfl hevents held

/-- The part of `amend_primary_arbiter_verdict` after the manifest has been
    loaded, where the new result has the digest of the old one. -/
theorem wp_amendLocked {verdict : ArbiterVerdict} {force : Bool}
    {verdictFile : Except String Digest} (h : WorkedOn me m s)
    (hfree : ∀ l, l ≠ .run → s.locks l = none) (hstatus : m.status = .completed)
    {expected : Digest} (hexpected : m.resultSha256 = some expected)
    (hcheck : ∃ integrity, checkResultIntegrity host m s.result = .ok (some integrity))
    (hsame : ∀ r1 r2 v result, amendInputs host s m verdict = .ok (r1, r2, v) →
      mergedResult s m r1 r2 v = .ok result → host.resultDigest result = expected) :
    Prog.wp (fun t => WorkedOn me m t ∧
        ∃ integrity, checkResultIntegrity host m t.result = .ok (some integrity)) A
      (fun _ t => WorkedOn me m t ∧
        ∃ integrity, checkResultIntegrity host m t.result = .ok (some integrity))
      (amendLocked me host verdict force verdictFile) s := by
  have hrecoverable : Recoverable s :=
    ⟨hfree _ (by decide), h.sequences, m, h.manifest, h.runId, h.placed⟩
  have hquiet : ∀ t, Quiet me s t → WorkedOn me m t ∧
      ∃ integrity, checkResultIntegrity host m t.result = .ok (some integrity) := by
    intro t ht
    refine ⟨h.quiet ht, ?_⟩
    rw [ht.same]
    exact hcheck
  unfold amendLocked
  refine (Prog.wp_bind _ _ _).mpr (wp_loadManifest hrecoverable h.manifest hquiet ?_)
  intro t ht hlocks _
  have hIt := hquiet t ht
  refine (Prog.wp_bind _ _ _).mpr ((Prog.wp_read _ _).mpr ⟨hIt, ?_⟩)
  refine (Prog.wp_bind _ _ _).mpr ((Prog.wp_ofExcept _ _).mpr ?_)
  rw [amendInputs_quiet ht]
  cases hinputs : amendInputs host s m verdict with
  | error e => exact hIt
  | ok inputs =>
    obtain ⟨r1, r2, v⟩ := inputs
    -- the result that is merged again
    refine (Prog.wp_bind _ _ _).mpr ((Prog.wp_bind _ _ _).mpr ((Prog.wp_read _ _).mpr ⟨hIt, ?_⟩))
    refine (Prog.wp_bind _ _ _).mpr ((Prog.wp_ofExcept _ _).mpr ?_)
    rw [mergedResult_quiet ht]
    cases hmerged : mergedResult s m r1 r2 v with
    | error e => exact hIt
    | ok result =>
      have hdigest := hsame r1 r2 v result hinputs hmerged
      have hnew := (check_mergedResult hmerged hstatus hexpected).mpr hdigest
      have hkeep : ∀ {u : RunDir}, WorkedOn me m u → u.result = some result →
          WorkedOn me m u ∧
            ∃ integrity, checkResultIntegrity host m u.result = .ok (some integrity) :=
        fun hu hur => ⟨hu, hur ▸ hnew⟩
      have hwrite : WorkedOn me m { t with result := some result } :=
        ⟨hIt.1.manifest, hIt.1.locks, hIt.1.sequences, hIt.1.runId, hIt.1.placed⟩
      have hreport : WorkedOn me m { t with result := some result, report := true } :=
        ⟨hIt.1.manifest, hIt.1.locks, hIt.1.sequences, hIt.1.runId, hIt.1.placed⟩
      refine (Prog.wp_bind _ _ _).mpr ((Prog.wp_modify _ _).mpr ⟨hkeep hwrite rfl, ?_⟩)
      refine (Prog.wp_bind _ _ _).mpr ((Prog.wp_modify _ _).mpr ⟨hkeep hreport rfl, ?_⟩)
      refine (Prog.wp_bind _ _ _).mpr ((Prog.wp_read _ _).mpr ⟨hkeep hreport rfl, ?_⟩)
      refine (Prog.wp_bind _ _ _).mpr ((Prog.wp_ofExcept _ _).mpr ?_)
      have hmanifest : { m with resultSha256 := some (host.resultDigest result) } = m := by
        rw [hdigest, ← hexpected]
      refine (Prog.wp_bind _ _ _).mpr ?_
      show Prog.wp _ _ _ (saveManifestAfterTerminal me
        { m with resultSha256 := some (host.resultDigest result) }) _
      rw [hmanifest]
      have hlocksFree : ∀ l, l ≠ .run → t.locks l = none := fun l hl => hlocks ▸ hfree l hl
      refine wp_saveManifestAfterTerminal hreport (hlocksFree _ (by decide))
        (fun u hu hur => hkeep hu hur) fun r u hu hur hevents => ?_
      cases r with
      | error e => exact hkeep hu hur
      | ok _ =>
        refine (Prog.wp_bind _ _ _).mpr ((Prog.wp_ofExcept _ _).mpr ?_)
        cases verdictFile with
        | error e => exact hkeep hu hur
        | ok digest =>
          have hend : ∀ v, Quiet me u v → WorkedOn me m v ∧
              ∃ integrity, checkResultIntegrity host m v.result = .ok (some integrity) := by
            intro v hv
            refine hkeep (hu.quiet hv) ?_
            rw [hv.same]
            exact hur
          refine (Prog.wp_bind _ _ _).mpr (wp_event ?_ hu.sequences hend fun r v hv _ _ => ?_)
          · rw [hevents]
            exact hlocksFree _ (by decide)
          · cases r with
            | error e => exact hend v hv
            | ok _ => exact hend v hv

end wp

/-! ### Every point at which an amendment can stop -/

theorem WorkedOn.takeRun {me : Pid} {m : RunManifest} {s : RunDir} (h : WorkedOn me m s) :
    WorkedOn me m (takeRun me s) :=
  ⟨(h.take .run).manifest, (h.take .run).locks, h.sequences, h.runId, h.placed⟩

/-- The first write of an amendment that is not refused. -/
theorem amend_visits_write {host : Host} {s : RunDir} {m : RunManifest}
    (h : CompletedRun host s m) (me : Pid) {verdict : ArbiterVerdict} {force : Bool}
    (verdictFile : Except String Digest) {result : ResultEnvelope}
    (hresult : amended host s m verdict force = .ok result) :
    ∃ t, Prog.Visits (fun _ => True)
        (amendPrimaryArbiterVerdict me host verdict force verdictFile) s t
      ∧ WorkedOn me m t ∧ t.result = some result := by
  obtain ⟨hdegenerate, hresult⟩ := Policy.bind_unit_ok.mp hresult
  obtain ⟨⟨r1, r2, v⟩, hinputs, hmerged⟩ := Policy.bind_ok.mp hresult
  have hworked := (h.workedOn me).takeRun
  have hrecoverable : Recoverable (Store.takeRun me s) := by
    refine ⟨?_, h.recoverable.sequences, h.recoverable.manifest⟩
    exact (s.toControl.take_locks_ne me (by decide : Lock.events ≠ .run)).trans (h.free _)
  -- the manifest is loaded
  have hload : Prog.wp (fun _ => True) (fun _ => True)
      (fun r t => r = .ok m ∧ Quiet me (Store.takeRun me s) t) (loadManifest me)
      (Store.takeRun me s) :=
    wp_loadManifest hrecoverable h.manifest (fun _ _ => trivial) fun t ht _ _ => ⟨rfl, ht⟩
  obtain ⟨p', t, r, hreach, hend, rfl, ht⟩ := Prog.wp_exists ⟨default, trivial⟩ hload
  cases p' with
  | throw e => exact nomatch Option.some.inj hend
  | act enabled update next => exact nomatch hend
  | ask next => exact nomatch hend
  | pure a =>
    obtain rfl := Except.ok.inj (Option.some.inj hend)
    -- the lanes are read, the result is merged and written
    have hinputs' : amendInputs host t a verdict = .ok (r1, r2, v) :=
      (amendInputs_quiet ht).trans hinputs
    have hmerged' : mergedResult t a r1 r2 v = .ok result :=
      (mergedResult_quiet ht).trans hmerged
    have hwrite : Prog.Visits (fun _ => True) (amendLocked me host verdict force verdictFile)
        (Store.takeRun me s) { t with result := some result } := by
      refine Prog.Visits.after hreach (Prog.Visits.act rfl ?_)
      simp only [hinputs']
      refine Prog.Visits.act rfl ?_
      simp only [id, hmerged']
      exact Prog.Visits.act rfl Prog.Visits.refl
    refine ⟨{ t with result := some result }, ?_, ?_, rfl⟩
    · unfold amendPrimaryArbiterVerdict
      rw [hdegenerate]
      exact visits_withRunLock (h.free _) hwrite
    · have hquiet := hworked.quiet ht
      exact ⟨hquiet.manifest, hquiet.locks, hquiet.sequences, hquiet.runId, hquiet.placed⟩

/-- **Amendments**: a completed run verifies at every point at which an amendment
    can stop if and only if the amendment is refused or reproduces the digest
    that is recorded. -/
theorem amend_verifiable_iff {host : Host} {s : RunDir} {m : RunManifest}
    (h : CompletedRun host s m) (me : Pid) (verdict : ArbiterVerdict) (force : Bool)
    (verdictFile : Except String Digest) :
    (∀ t, Prog.Visits (fun _ => True)
        (amendPrimaryArbiterVerdict me host verdict force verdictFile) s t →
      Verifies host (t.control (·.release me))) ↔
    ∀ result, amended host s m verdict force = .ok result →
      m.resultSha256 = some (host.resultDigest result) := by
  obtain ⟨integrity, hcheck⟩ := (verifies_iff h.recoverable h.manifest).mp h.verifies
  obtain ⟨expected, hexpected⟩ : ∃ expected, m.resultSha256 = some expected := by
    cases hdigest : m.resultSha256 with
    | some expected => exact ⟨expected, rfl⟩
    | none => simp [checkResultIntegrity, h.status, hdigest] at hcheck
  constructor
  · -- a run that stops right after the first write
    intro hall result hresult
    obtain ⟨t, hvisit, hworked, hwritten⟩ := amend_visits_write h me verdictFile hresult
    have hverifies := hworked.verifies_iff.mp (hall t hvisit)
    obtain ⟨-, hresult⟩ := Policy.bind_unit_ok.mp hresult
    obtain ⟨⟨r1, r2, v⟩, -, hmerged⟩ := Policy.bind_ok.mp hresult
    rw [hwritten] at hverifies
    rw [hexpected, (check_mergedResult hmerged h.status hexpected).mp hverifies]
  · rintro hsame t ⟨p', hreach⟩
    have hworked := h.workedOn me
    have hI : WorkedOn me m s ∧
        ∃ integrity, checkResultIntegrity host m s.result = .ok (some integrity) :=
      ⟨hworked, integrity, hcheck⟩
    have hwp : Prog.wp (fun t => WorkedOn me m t ∧
          ∃ integrity, checkResultIntegrity host m t.result = .ok (some integrity)) (fun _ => True)
        (fun _ _ => True) (amendPrimaryArbiterVerdict me host verdict force verdictFile) s := by
      refine (Prog.wp_bind _ _ _).mpr ((Prog.wp_ofExcept _ _).mpr ?_)
      cases hdegenerate : ensureVerdictNotDegenerate verdict force with
      | error e => trivial
      | ok _ =>
        refine wp_withRunLock (h.free _) ⟨hworked.takeRun, integrity, hcheck⟩ ?_
        have hfree : ∀ l, l ≠ .run → (Store.takeRun me s).locks l = none := fun l hl =>
          (s.toControl.take_locks_ne me hl).trans (h.free l)
        refine Prog.wp_mono (wp_amendLocked hworked.takeRun hfree h.status hexpected
          ⟨integrity, hcheck⟩ ?_) ?_
        · intro r1 r2 v result hinputs hmerged
          have hresult : amended host s m verdict force = .ok result :=
            Policy.bind_unit_ok.mpr ⟨hdegenerate, Policy.bind_ok.mpr ⟨_, hinputs, hmerged⟩⟩
          exact Option.some.inj ((hsame result hresult).symm.trans hexpected)
        · rintro r u ⟨hu, hcheck'⟩
          refine ⟨⟨hu.drop .run, ?_⟩, trivial⟩
          have hresult : (u.toControl.drop me .run).result = u.result := by
            unfold Control.drop
            split <;> rfl
          exact hresult.symm ▸ hcheck'
    obtain ⟨⟨hu, hcheck'⟩, -⟩ := Prog.wp_reaches hreach hI hwp
    exact hu.verifies_iff.mpr hcheck'

def completedManifest : RunManifest :=
  { runManifest .completed with resultSha256 := some (BitVec.ofNat 256 "ship".length) }

/-- A completed run whose five lanes agreed: it skipped R2, and both arbiters
    recommended to ship. -/
def completedDir : RunDir :=
  let s := { createdDir with
    manifest := some (runManifest .completed)
    accepted := fun _ routeId => some (sampleLane routeId []).output
    r2Skipped := true
    ccResponse := some (sampleVerdict []) }
  { s with
    manifest := some completedManifest
    result := (amended sampleHost s (runManifest .completed) (sampleVerdict []) true).toOption
    report := true }

theorem completedDir_completed : CompletedRun sampleHost completedDir completedManifest := by
  have hrecoverable : Recoverable completedDir :=
    ⟨rfl, rfl, completedManifest, rfl, by decide, fun p hp => nomatch hp⟩
  refine ⟨rfl, rfl, fun _ => rfl, hrecoverable, (verifies_iff (m := completedManifest) hrecoverable rfl).mpr ?_⟩
  have hcheck : ((checkResultIntegrity sampleHost completedManifest completedDir.result).toOption.bind
      id).isSome = true := by decide +kernel
  cases h : checkResultIntegrity sampleHost completedManifest completedDir.result with
  | error e => simp [h, Except.toOption] at hcheck
  | ok o =>
    obtain ⟨integrity, rfl⟩ : ∃ integrity, o = some integrity :=
      Option.isSome_iff_exists.mp (by simpa [h, Except.toOption] using hcheck)
    exact ⟨integrity, rfl⟩

/-- Amending a run with the verdict it has. -/
theorem amend_verifiable_sample : CompletedRun sampleHost completedDir completedManifest ∧
    ∀ t, Prog.Visits (fun _ => True)
        (amendPrimaryArbiterVerdict 1 sampleHost (sampleVerdict []) true (.ok 0)) completedDir t →
      Verifies sampleHost (t.control (·.release 1)) := by
  refine ⟨completedDir_completed,
    (amend_verifiable_iff completedDir_completed 1 (sampleVerdict []) true (.ok 0)).mpr ?_⟩
  intro result hresult
  have hsame : (amended sampleHost completedDir completedManifest (sampleVerdict []) true).toOption.all
      (fun result => completedManifest.resultSha256 = some (sampleHost.resultDigest result)) = true := by
    decide +kernel
  simpa [hresult, Except.toOption] using hsame

/-- **Another recommendation**: between the first write of the amendment and the
    write of the manifest, the run does not verify. -/
theorem amend_not_verifiable :
    ¬ ∀ (host : Host) (s : RunDir) (m : RunManifest), CompletedRun host s m →
      ∀ (me : Pid) (verdict : ArbiterVerdict) (force : Bool) (verdictFile : Except String Digest) t,
        Prog.Visits (fun _ => True)
          (amendPrimaryArbiterVerdict me host verdict force verdictFile) s t →
        Verifies host (t.control (·.release me)) := by
  intro hall
  let verdict := { sampleVerdict [] with recommendation := "do not ship" }
  have hiff := amend_verifiable_iff completedDir_completed 1 verdict true (.ok 0)
  have hsame := hiff.mp (hall sampleHost completedDir completedManifest completedDir_completed 1
    verdict true (.ok 0))
  have hother : (amended sampleHost completedDir completedManifest verdict true).toOption.any
      (fun result => completedManifest.resultSha256 ≠ some (sampleHost.resultDigest result)) = true := by
    decide +kernel
  cases h : amended sampleHost completedDir completedManifest verdict true with
  | error e => simp [h, Except.toOption] at hother
  | ok result =>
    rw [h] at hother
    simp only [Except.toOption, Option.any_some, ne_eq, decide_eq_true_eq] at hother
    exact hother (hsame result h)

end Quinte.Run
