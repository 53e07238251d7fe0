import Mathlib
import Quinte.Evidence.Repair
import Quinte.Run.Remapping

/-! # Constructed suffixes

    A reference with a suffix is no reference of the snapshot, but the repair
    comes before the check and may take the suffix off again.

    * `remapped_eq_none`: which references it leaves alone;
    * `suffix_rejected_iff`: those are the ones that never pass, whether the
      attempt timed out or not.
-/

namespace Quinte.Run

open Policy (bind_ok)

/-- `#`, `?` and `/` begin a constructed suffix. -/
def isSuffix (s : String) : Bool :=
  s.toList.head?.any ['#', '?', '/'].contains

/-- The references that an output cites. -/
def cited : AdapterOutput → List String
  | .lane output => output.references
  | .arbiter verdict => verdict.references

/-- One reference of the snapshot is within three edits, and every other one is
    three edits farther. -/
def NearOne (valid : List String) (reference : String) : Prop :=
  (reference.startsWith "snapshot://" = true ∨ reference.startsWith "attachment://" = true) ∧
  ∃ found ∈ valid, levenshtein reference found ≤ 3 ∧
    ∀ other ∈ valid, other ≠ found → levenshtein reference found + 3 ≤ levenshtein reference other

/-- Whatever cites the reference is rejected, by either check, and comes out of
    no attempt. -/
structure Rejected (valid : List String) (reference : String) : Prop where
  lane : ∀ output : LaneOutput, reference ∈ output.references →
    ∃ message, validateEvidenceRefs valid output = .error message
  arbiter : ∀ verdict : ArbiterVerdict, reference ∈ verdict.references →
    ∃ message, validateArbiterSemantics valid verdict = .error message
  attempt : ∀ (execution : Execution) (output : AdapterOutput), execution.output = some output →
    reference ∈ cited output → (attemptOutcome valid execution).output = none

section suffix

variable {valid : List String} {reference : String}

/-- The repair leaves a reference alone unless exactly one is near. -/
theorem remapped_eq_none (hvalid : valid.Nodup) (hnew : reference ∉ valid)
    (hne : reference ≠ "") : remapped valid reference = none ↔ ¬NearOne valid reference := by
  unfold remapped NearOne
  by_cases hscheme : reference.startsWith "snapshot://" = true ∨
      reference.startsWith "attachment://" = true
  · rw [if_neg (not_or.mpr ⟨hne, not_not.mpr hscheme⟩)]
    have hfound : (∃ found, bestRefRemap reference valid = some found) ↔
        ∃ found ∈ valid, levenshtein reference found ≤ 3 ∧ ∀ other ∈ valid, other ≠ found →
          levenshtein reference found + 3 ≤ levenshtein reference other := by
      simp only [bestRefRemap_eq_some hvalid, hnew, not_false_eq_true, true_and]
    rw [and_iff_right hscheme, ← hfound, ← Option.ne_none_iff_exists', not_not]
  · rw [if_pos (Or.inr hscheme)]
    exact iff_of_true rfl fun h => hscheme h.1

/-- What is cited and not rewritten has to be a reference of the snapshot. -/
theorem resolvable_of_accepted {before : List String} (hnone : remapped valid reference = none)
    (hcited : reference ∈ before)
    (h : ∀ reference ∈ before.map fun reference => (remapped valid reference).getD reference,
      Resolvable valid reference) : Resolvable valid reference := by
  have hsame : (remapped valid reference).getD reference = reference := by
    rw [hnone]
    rfl
  exact h reference (List.mem_map.mpr ⟨reference, hcited, hsame⟩)

theorem exists_error {α : Type} {x : Except String α} (h : ∀ a, x ≠ .ok a) :
    ∃ message, x = .error message := by
  cases x with
  | error message => exact ⟨message, rfl⟩
  | ok a => exact (h a rfl).elim

theorem rejected_of_remapped (hnew : reference ∉ valid) (hne : reference ≠ "")
    (hnone : remapped valid reference = none) : Rejected valid reference := by
  have hnot : ¬Resolvable valid reference := fun h => h.elim hne hnew
  have hlane : ∀ output : LaneOutput, reference ∈ output.references →
      ∃ message, validateEvidenceRefs valid output = .error message := by
    intro output hcited
    refine exists_error fun ⟨rewritten, pairs⟩ hok => hnot ?_
    obtain ⟨-, -, hresolvable, -, -⟩ := validateEvidenceRefs_ok.mp hok
    rw [references_remapLaneOutput] at hresolvable
    exact resolvable_of_accepted hnone hcited hresolvable
  have harbiter : ∀ verdict : ArbiterVerdict, reference ∈ verdict.references →
      ∃ message, validateArbiterSemantics valid verdict = .error message := by
    intro verdict hcited
    refine exists_error fun ⟨rewritten, pairs⟩ hok => hnot ?_
    obtain ⟨-, hresolvable, -, -⟩ := validateArbiterSemantics_ok.mp hok
    rw [flatMap_remapResidual] at hresolvable
    exact resolvable_of_accepted hnone hcited hresolvable
  -- a timeout or not, an execution whose output is refused gives no output
  refine ⟨hlane, harbiter, fun execution output houtput hcited => ?_⟩
  have hchecked : ∃ message, validateOutput valid output = .error message := by
    cases output with
    | lane output =>
      obtain ⟨message, herror⟩ := hlane output hcited
      exact ⟨message, by rw [validateOutput, herror]; rfl⟩
    | arbiter verdict =>
      obtain ⟨message, herror⟩ := harbiter verdict hcited
      exact ⟨message, by rw [validateOutput, herror]; rfl⟩
  obtain ⟨message, herror⟩ := hchecked
  unfold attemptOutcome
  rw [houtput, Option.map_some, herror]
  cases execution.cleanupError <;> rfl

/-- An output whose only reference is near one of the snapshot passes. -/
theorem citing_passes (hvalid : valid.Nodup) (hnew : reference ∉ valid) (hne : reference ≠ "")
    (hnear : NearOne valid reference) :
    ∃ rewritten pairs, validateEvidenceRefs valid (citing reference) = .ok (rewritten, pairs) := by
  refine ⟨_, _, validateEvidenceRefs_ok.mpr ⟨rfl, rfl, fun other hother => ?_, rfl, rfl⟩⟩
  have hreferences : (citing reference).references = [reference] := rfl
  rw [references_remapLaneOutput, hreferences, List.map_singleton, List.mem_singleton] at hother
  cases hfound : remapped valid reference with
  | none => exact absurd hnear ((remapped_eq_none hvalid hnew hne).mp hfound)
  | some found =>
    rw [hfound, Option.getD_some] at hother
    rw [hother]
    unfold remapped at hfound
    split at hfound
    · cases hfound
    · exact Or.inr ((bestRefRemap_eq_some hvalid found).mp hfound).2.1

end suffix

/-- **A constructed suffix never passes** unless the repair takes it off: when
    one reference of the snapshot is within three edits of it and every other
    one three edits farther. -/
theorem suffix_rejected_iff (snapshot : SnapshotManifest) (r s : String)
    (_hr : r ∈ allowedEvidenceRefs snapshot) (hs : isSuffix s = true)
    (hnew : r ++ s ∉ allowedEvidenceRefs snapshot) :
    Rejected (allowedEvidenceRefs snapshot) (r ++ s) ↔
      ¬NearOne (allowedEvidenceRefs snapshot) (r ++ s) := by
  have hvalid := nodup_allowedEvidenceRefs snapshot
  have hne : r ++ s ≠ "" := by
    intro hempty
    have hlist := congrArg String.toList hempty
    rw [String.toList_append] at hlist
    have hnil : s.toList = [] := (List.append_eq_nil_iff.mp hlist).2
    rw [isSuffix, hnil] at hs
    exact nomatch hs
  constructor
  · intro hrejected hnear
    obtain ⟨rewritten, pairs, hok⟩ := citing_passes hvalid hnew hne hnear
    obtain ⟨message, herror⟩ := hrejected.lane (citing (r ++ s)) List.mem_cons_self
    exact nomatch herror.symm.trans hok
  · intro hfar
    exact rejected_of_remapped hnew hne ((remapped_eq_none hvalid hnew hne).mpr hfar)

/-- A snapshot with one file. -/
def noteSnapshot : SnapshotManifest :=
  { (default : SnapshotManifest) with
    entries := [{ (default : SnapshotEntry) with snapshotRef := "snapshot://note" }] }

/-- A suffix of four characters. -/
theorem suffix_rejected_iff_note :
    Rejected (allowedEvidenceRefs noteSnapshot) ("snapshot://note" ++ "#top") := by
  refine (suffix_rejected_iff noteSnapshot "snapshot://note" "#top" (by decide) (by decide)
    (by decide)).mpr ?_
  rintro ⟨-, found, hfound, hnear, -⟩
  have hrefs : allowedEvidenceRefs noteSnapshot = ["snapshot://note"] := by decide
  rw [hrefs, List.mem_singleton] at hfound
  rw [hfound] at hnear
  exact absurd hnear (by decide +kernel)

/-- A suffix of two characters is taken off, and the output passes. -/
theorem suffix_accepted : "snapshot://note" ∈ allowedEvidenceRefs noteSnapshot ∧
    isSuffix "#1" = true ∧ "snapshot://note" ++ "#1" ∉ allowedEvidenceRefs noteSnapshot ∧
    ¬Rejected (allowedEvidenceRefs noteSnapshot) ("snapshot://note" ++ "#1") := by
  refine ⟨by decide, by decide, by decide, fun hrejected => ?_⟩
  obtain ⟨message, herror⟩ :=
    hrejected.lane (citing ("snapshot://note" ++ "#1")) List.mem_cons_self
  have hok : (validateEvidenceRefs (allowedEvidenceRefs noteSnapshot)
      (citing ("snapshot://note" ++ "#1"))).isOk = true := by decide +kernel
  rw [herror] at hok
  exact nomatch hok

end Quinte.Run
