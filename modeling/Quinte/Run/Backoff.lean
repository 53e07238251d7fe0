import Mathlib
import Quinte.Run.Commands

/-! # The retry schedule

    The exponential backoff saturates at 64 bits and is capped, a jitter of at
    most a fifth of it is added, the sum is capped again, and a Retry-After that
    the cap allows may raise it.

    * `backoff_exact`: the saturation is never seen under the cap;
    * `boundedBackoff_mono`: the jitter never outweighs the next doubling;
    * `retrySchedule_bounds`: the bounds on the whole schedule.
-/

namespace Quinte

open Policy (require require_ok bind_ok)

section arithmetic

variable {base cap n basisPoints basisPoints' : Nat}

/-- The backoff of the attempt after `n` earlier ones. -/
def backoffSeconds (base cap n : Nat) : Nat :=
  min (saturatingMul base (min (2 ^ n) (2 ^ 64 - 1))) cap

def jitterMillis (backoff basisPoints : Nat) : Nat :=
  saturatingMul (saturatingMul backoff 1000) basisPoints / 10000

def boundedBackoff (base cap n basisPoints : Nat) : Nat :=
  min (backoffSeconds base cap n * 1000 + jitterMillis (backoffSeconds base cap n) basisPoints)
    (cap * 1000)

theorem saturatingMul_le (a b : Nat) : saturatingMul a b ≤ a * b :=
  min_le_left ..

theorem backoff_exact (hbase : base < 2 ^ 64) (hcap : cap < 2 ^ 64) (n : Nat) :
    backoffSeconds base cap n = min (base * 2 ^ n) cap := by
  unfold backoffSeconds saturatingMul
  have hcap' : cap ≤ 2 ^ 64 - 1 := Nat.le_sub_one_of_lt hcap
  rcases Nat.lt_or_ge (2 ^ n) (2 ^ 64) with hn | hn
  · rw [min_eq_left (Nat.le_sub_one_of_lt hn), min_assoc, min_eq_right hcap']
  · -- the power has saturated: a base of zero aside, so has the product
    rw [min_eq_right ((Nat.sub_le _ 1).trans hn)]
    rcases Nat.eq_zero_or_pos base with rfl | hpos
    · simp
    · have hproduct : 2 ^ 64 - 1 ≤ base * (2 ^ 64 - 1) := Nat.le_mul_of_pos_left _ hpos
      have hexact : cap ≤ base * 2 ^ n :=
        hcap.le.trans (hn.trans (Nat.le_mul_of_pos_left _ hpos))
      rw [min_eq_right hproduct, min_eq_right hcap', min_eq_right hexact]

theorem jitter_le (backoff : Nat) (h : basisPoints ≤ 2000) :
    jitterMillis backoff basisPoints * 5 ≤ backoff * 1000 := by
  have hproduct : saturatingMul (saturatingMul backoff 1000) basisPoints
      ≤ backoff * 1000 * 2000 :=
    (saturatingMul_le _ _).trans (Nat.mul_le_mul (saturatingMul_le _ _) h)
  have hjitter : jitterMillis backoff basisPoints ≤ backoff * 1000 * 2000 / 10000 :=
    Nat.div_le_div_right hproduct
  omega

theorem jitter_lt (backoff : Nat) : jitterMillis backoff basisPoints < 2 ^ 64 := by
  have hsaturated : saturatingMul (saturatingMul backoff 1000) basisPoints ≤ 2 ^ 64 - 1 :=
    min_le_right ..
  unfold jitterMillis
  omega

theorem le_boundedBackoff : backoffSeconds base cap n * 1000
    ≤ boundedBackoff base cap n basisPoints := by
  have hcap : backoffSeconds base cap n ≤ cap := min_le_right ..
  exact le_min (Nat.le_add_right ..) (Nat.mul_le_mul_right _ hcap)

/-- The next backoff is twice this one, or the cap. -/
theorem boundedBackoff_mono (hbase : base < 2 ^ 64) (hcap : cap < 2 ^ 64) (n : Nat)
    (h : basisPoints ≤ 2000) :
    boundedBackoff base cap n basisPoints ≤ boundedBackoff base cap (n + 1) basisPoints' := by
  refine le_trans ?_ (le_boundedBackoff (n := n + 1))
  have hjitter := jitter_le (backoffSeconds base cap n) h
  have hthis := backoff_exact hbase hcap n
  have hnext := backoff_exact hbase hcap (n + 1)
  have hdouble : base * 2 ^ (n + 1) = 2 * (base * 2 ^ n) := by ring
  rw [hdouble] at hnext
  unfold boundedBackoff
  rw [hnext]
  rw [hthis] at hjitter ⊢
  omega

end arithmetic

/-- What a provider asked for. -/
def RetryClass.retryAfterSeconds : RetryClass → Option Nat
  | .rateLimited signal => signal.retryAfterSeconds
  | _ => none

section schedule

variable {host : Host} {retry : RetryClass} {policy : Policy} {runId phase routeId : String}
  {attempt : Nat} {schedule : RetrySchedule}

/-- `retry_schedule`, in the terms above. -/
theorem retrySchedule_eq (hretry : retry ≠ .never) :
    ∃ source, ∃ basisPoints ≤ 2000,
      retrySchedule host retry policy runId phase routeId attempt = (do
        require (!retry.retryAfterSeconds.any (policy.retryBackoffMaxSeconds < ·))
          "provider Retry-After exceeds the bounded retry wait policy"
        let backoff := backoffSeconds policy.retryBackoffSeconds policy.retryBackoffMaxSeconds
          (attempt - 1)
        return {
          source := source
          backoffSeconds := backoff
          retryAfterSeconds := retry.retryAfterSeconds
          jitter := jitterMillis backoff basisPoints
          delay := max (boundedBackoff policy.retryBackoffSeconds policy.retryBackoffMaxSeconds
            (attempt - 1) basisPoints) (retry.retryAfterSeconds.getD 0 * 1000) }) := by
  have hmod : ∀ seed : Digest, (seed >>> 240).toNat % 2001 ≤ 2000 :=
    fun _ => Nat.le_of_lt_succ (Nat.mod_lt _ (by decide))
  cases retry with
  | never => exact (hretry rfl).elim
  | transientTimeout => exact ⟨"host_timeout", _, hmod _, rfl⟩
  | transientAdapter => exact ⟨"adapter_structured_error", _, hmod _, rfl⟩
  | rateLimited signal => exact ⟨signal.source, _, hmod _, rfl⟩

/-- It fails exactly where a provider asks for more than the cap. -/
theorem retrySchedule_error (hretry : retry ≠ .never) :
    (∃ message, retrySchedule host retry policy runId phase routeId attempt = .error message) ↔
      ∃ seconds, retry.retryAfterSeconds = some seconds ∧
        policy.retryBackoffMaxSeconds < seconds := by
  obtain ⟨source, basisPoints, -, heq⟩ := @retrySchedule_eq host retry policy runId phase routeId
    attempt hretry
  rw [heq]
  cases retry.retryAfterSeconds with
  | none =>
    refine iff_of_false (fun ⟨_, herror⟩ => ?_) (fun ⟨_, hsome, _⟩ => ?_)
    · exact nomatch herror
    · exact nomatch hsome
  | some seconds =>
    by_cases hlong : policy.retryBackoffMaxSeconds < seconds
    · simp [require, hlong]
    · simp [require, hlong]

/-- What it computes. -/
theorem retrySchedule_ok (hretry : retry ≠ .never)
    (h : retrySchedule host retry policy runId phase routeId attempt = .ok schedule) :
    (∀ seconds, retry.retryAfterSeconds = some seconds →
      seconds ≤ policy.retryBackoffMaxSeconds) ∧
    schedule.backoffSeconds = backoffSeconds policy.retryBackoffSeconds
      policy.retryBackoffMaxSeconds (attempt - 1) ∧
    ∃ basisPoints ≤ 2000, schedule.jitter = jitterMillis schedule.backoffSeconds basisPoints ∧
      schedule.delay = max (boundedBackoff policy.retryBackoffSeconds
        policy.retryBackoffMaxSeconds (attempt - 1) basisPoints)
        (retry.retryAfterSeconds.getD 0 * 1000) := by
  have hwithin : ∀ seconds, retry.retryAfterSeconds = some seconds →
      seconds ≤ policy.retryBackoffMaxSeconds := by
    intro seconds hseconds
    by_contra hlong
    obtain ⟨message, herror⟩ := (retrySchedule_error hretry).mpr
      ⟨seconds, hseconds, Nat.not_le.mp hlong⟩
    exact nomatch h.symm.trans herror
  obtain ⟨source, basisPoints, hbasis, heq⟩ := @retrySchedule_eq host retry policy runId phase
    routeId attempt hretry
  rw [heq] at h
  obtain ⟨_, -, hschedule⟩ := bind_ok.mp h
  obtain rfl := Except.ok.inj hschedule
  exact ⟨hwithin, rfl, basisPoints, hbasis, rfl, rfl⟩

/-- **The schedule keeps its bounds**: it fails only where a provider asks for
    more than the cap, lies between the capped backoff or the Retry-After and
    the cap, and never shrinks from one attempt to the next. -/
theorem retrySchedule_bounds (host : Host) (retry : RetryClass) (policy : Policy)
    (runId phase routeId : String) (attempt : Nat) (hretry : retry ≠ .never)
    (hattempt : 1 ≤ attempt) (hbase : policy.retryBackoffSeconds < 2 ^ 64)
    (hcap : policy.retryBackoffMaxSeconds < 2 ^ 64) :
    ((∃ message, retrySchedule host retry policy runId phase routeId attempt = .error message) ↔
      ∃ seconds, retry.retryAfterSeconds = some seconds ∧
        policy.retryBackoffMaxSeconds < seconds) ∧
    ∀ schedule, retrySchedule host retry policy runId phase routeId attempt = .ok schedule →
      schedule.backoffSeconds =
        min (policy.retryBackoffSeconds * 2 ^ (attempt - 1)) policy.retryBackoffMaxSeconds ∧
      max (retry.retryAfterSeconds.getD 0 * 1000) (schedule.backoffSeconds * 1000)
        ≤ schedule.delay ∧
      schedule.delay ≤ policy.retryBackoffMaxSeconds * 1000 ∧
      schedule.jitter * 5 ≤ schedule.backoffSeconds * 1000 ∧ schedule.jitter < 2 ^ 64 ∧
      ∃ next, retrySchedule host retry policy runId phase routeId (attempt + 1) = .ok next ∧
        schedule.delay ≤ next.delay := by
  refine ⟨retrySchedule_error hretry, fun schedule hschedule => ?_⟩
  obtain ⟨hafter, hbackoff, basisPoints, hpoints, hjitter, hdelay⟩ :=
    retrySchedule_ok hretry hschedule
  have hexact := backoff_exact hbase hcap (attempt - 1)
  have hasked : retry.retryAfterSeconds.getD 0 ≤ policy.retryBackoffMaxSeconds := by
    cases hretryAfter : retry.retryAfterSeconds with
    | none => exact Nat.zero_le _
    | some seconds => exact hafter seconds hretryAfter
  refine ⟨hbackoff.trans hexact, ?_, ?_, ?_, ?_, ?_⟩
  · rw [hdelay, hbackoff]
    exact max_le (le_max_right ..) (le_boundedBackoff.trans (le_max_left ..))
  · rw [hdelay]
    exact max_le (min_le_right ..) (Nat.mul_le_mul_right _ hasked)
  · rw [hjitter]
    exact jitter_le _ hpoints
  · rw [hjitter]
    exact jitter_lt _
  · cases hnext : retrySchedule host retry policy runId phase routeId (attempt + 1) with
    | error message =>
      obtain ⟨seconds, hseconds, hlt⟩ := (retrySchedule_error hretry).mp ⟨message, hnext⟩
      exact absurd (hafter seconds hseconds) (Nat.not_le.mpr hlt)
    | ok next =>
      -- the next attempt has a jitter of its own, which makes it longer only
      obtain ⟨-, -, basisPoints', -, -, hdelay'⟩ := retrySchedule_ok hretry hnext
      refine ⟨next, rfl, ?_⟩
      have hstep : attempt + 1 - 1 = attempt - 1 + 1 := by omega
      rw [hdelay, hdelay', hstep]
      exact max_le_max (boundedBackoff_mono hbase hcap _ hpoints) le_rfl

/-- The largest base and cap there are. -/
def widePolicy : Policy :=
  { Policy.samplePolicy "a" with
    retryBackoffSeconds := 2 ^ 64 - 1
    retryBackoffMaxSeconds := 2 ^ 64 - 1 }

theorem retrySchedule_bounds_sample : ∃ schedule next,
    retrySchedule Run.sampleHost (.rateLimited ⟨"http_429", some 60⟩) widePolicy "run" "R1" "a" 2
      = .ok schedule ∧
    retrySchedule Run.sampleHost (.rateLimited ⟨"http_429", some 60⟩) widePolicy "run" "R1" "a" 3
      = .ok next ∧
    60000 ≤ schedule.delay ∧ schedule.delay ≤ next.delay := by
  obtain ⟨hfails, hok⟩ := retrySchedule_bounds Run.sampleHost (.rateLimited ⟨"http_429", some 60⟩)
    widePolicy "run" "R1" "a" 2 (fun h => nomatch h) (by decide) (by decide) (by decide)
  cases hschedule : retrySchedule Run.sampleHost (.rateLimited ⟨"http_429", some 60⟩) widePolicy "run"
      "R1" "a" 2 with
  | error message =>
    obtain ⟨seconds, hseconds, hlt⟩ := hfails.mp ⟨message, hschedule⟩
    obtain rfl := Option.some.inj hseconds
    exact absurd hlt (by decide)
  | ok schedule =>
    obtain ⟨-, hasked, -, -, -, next, hnext, hle⟩ := hok schedule hschedule
    exact ⟨schedule, next, rfl, hnext, (le_max_left ..).trans hasked, hle⟩

end schedule

end Quinte
