import Mathlib.Algebra.Order.Ring.Int
import Mathlib.Tactic.Ring
import PurchaseAgent.Services.MissionRetry
import PurchaseAgent.Services.NotificationOutbox

/-!
The delays of retries against capped exponential growth. The policy of missions multiplies
before it compares, so that a product can leave the range of `timedelta`; the outbox
compares with half of its maximum, which rounds to even.
-/

namespace PurchaseAgent

theorem min_min_mul {a M k : Int} (one : 1 ≤ k) (nonneg : 0 ≤ M) :
    min (min a M * k) M = min (a * k) M := by
  have least : M ≤ M * k := le_mul_of_one_le_right nonneg one
  have nonneg' : 0 ≤ k := le_trans zero_le_one one
  rw [min_mul_of_nonneg _ _ nonneg', min_assoc, min_eq_right least]

namespace MissionRetryPolicy
variable (policy : MissionRetryPolicy)

theorem mul_eq {delay : Int} (positive : 0 < delay) : TimeDelta.mul delay policy.multiplier =
    if delay * policy.multiplier ≤ timedeltaMax then .ok (delay * policy.multiplier)
    else .error "days; must have magnitude <= 999999999" := by
  have product : 0 < delay * policy.multiplier :=
    Int.mul_pos positive (Int.lt_of_lt_of_le Int.zero_lt_one policy.one_le_multiplier)
  have least : -timedeltaMax ≤ delay * policy.multiplier :=
    Int.le_trans (by decide) (Int.le_of_lt product)
  rw [TimeDelta.mul]
  simp only [least, true_and]

/-- The rounds of the loop, of which the last product is the largest. -/
theorem delayLoop_eq_iff {delay : Int} (n : Nat) (positive : 0 < delay)
    (below : delay ≤ policy.maximumDelay) :
    policy.delayLoop delay (n + 1) =
        .ok (min (delay * policy.multiplier ^ (n + 1)) policy.maximumDelay) ↔
      min (delay * policy.multiplier ^ n) policy.maximumDelay * policy.multiplier ≤ timedeltaMax := by
  have one := policy.one_le_multiplier
  have nonneg : 0 ≤ policy.maximumDelay := Int.le_trans (Int.le_of_lt positive) below
  induction n generalizing delay with
  | zero =>
      rw [pow_zero, mul_one, min_eq_left below, zero_add, pow_one, delayLoop, policy.mul_eq positive]
      by_cases fits : delay * policy.multiplier ≤ timedeltaMax
      · rw [if_pos fits]
        exact ⟨fun _ => fits, fun _ => rfl⟩
      · rw [if_neg fits]
        simp only [reduceCtorEq, fits]
  | succ n ih =>
      rw [delayLoop, policy.mul_eq positive]
      by_cases fits : delay * policy.multiplier ≤ timedeltaMax
      · have positive' : 0 < min (delay * policy.multiplier) policy.maximumDelay :=
          lt_min (Int.mul_pos positive (Int.lt_of_lt_of_le Int.zero_lt_one one))
            (Int.lt_of_lt_of_le positive below)
        have capped (k : Nat) :
            min (min (delay * policy.multiplier) policy.maximumDelay * policy.multiplier ^ k)
              policy.maximumDelay = min (delay * policy.multiplier ^ (k + 1)) policy.maximumDelay := by
          rw [min_min_mul (one_le_pow₀ one) nonneg, mul_assoc, ← pow_succ']
        rw [if_pos fits]
        have later := ih positive' (min_le_right _ _)
        rw [capped, capped] at later
        exact later
      · -- the first product is too large, and the others are no smaller
        rw [if_neg fits]
        have grown : delay ≤ min (delay * policy.multiplier ^ (n + 1)) policy.maximumDelay :=
          le_min (le_mul_of_one_le_right (Int.le_of_lt positive) (one_le_pow₀ one)) below
        have larger := mul_le_mul_of_nonneg_right grown (le_trans zero_le_one one)
        simp only [reduceCtorEq, false_iff, not_le]
        exact lt_of_lt_of_le (not_le.mp fits) larger

end MissionRetryPolicy

/-- The loop of `_exponential_retry_delay`, where the product of a `timedelta` may overflow. -/
def exponentialRetryDelayChecked (maxDelay delay : TimeDelta) : Nat → Except PyException TimeDelta
  | 0 => .ok (min delay maxDelay)
  | n + 1 =>
    if TimeDelta.half maxDelay ≤ delay then .ok maxDelay
    else
      match TimeDelta.mul delay 2 with
      | .error message => .error (.overflowError message)
      | .ok product => exponentialRetryDelayChecked maxDelay product n

/-- Half of the maximum is reached, or what rounds down to it. -/
theorem half_le_iff (maximum delay : Int) : TimeDelta.half maximum ≤ delay ↔
    maximum ≤ delay * 2 ∨ maximum = delay * 2 + 1 ∧ maximum % 4 = 1 := by
  change (if maximum % 2 = 1 ∧ maximum / 2 % 2 = 1 then maximum / 2 + 1 else maximum / 2 : Int) ≤
    delay ↔ _
  split
  · omega
  · omega

theorem exponentialRetryDelay_checked {maxDelay delay : Int} (n : Nat) (positive : 0 < delay)
    (bounded : maxDelay ≤ timedeltaMax) :
    exponentialRetryDelayChecked maxDelay delay n =
      .ok (exponentialRetryDelayLoop maxDelay delay n) := by
  induction n generalizing delay with
  | zero => rfl
  | succ n ih =>
      rw [exponentialRetryDelayChecked, exponentialRetryDelayLoop]
      split
      · rfl
      · rename_i small
        have below : ¬ maxDelay ≤ delay * 2 := fun large => small ((half_le_iff _ _).mpr (.inl large))
        have product : 0 < delay * 2 := by omega
        have fits : -timedeltaMax ≤ delay * 2 ∧ delay * 2 ≤ timedeltaMax :=
          ⟨Int.le_trans (by decide) (Int.le_of_lt product),
            Int.le_trans (Int.le_of_lt (Int.not_le.mp below)) bounded⟩
        rw [TimeDelta.mul, if_pos fits]
        exact ih product

/-- The loop, except where a maximum that half-rounds down is one more than a double. -/
theorem exponentialRetryDelayLoop_eq_iff {maxDelay delay : Int} (n : Nat)
    (positive : 0 < delay) (below : delay ≤ maxDelay) :
    exponentialRetryDelayLoop maxDelay delay n = min (delay * 2 ^ n) maxDelay ↔
      ¬ (1 ≤ n ∧ delay * 2 ^ n + 1 = maxDelay ∧ maxDelay % 4 = 1) := by
  induction n generalizing delay with
  | zero => simp [exponentialRetryDelayLoop]
  | succ n ih =>
      have power : delay * 2 ^ (n + 1) = delay * 2 * 2 ^ n := by ring
      have grown : delay * 2 ≤ delay * 2 * 2 ^ n :=
        le_mul_of_one_le_right (by omega) (one_le_pow₀ (by decide))
      rw [exponentialRetryDelayLoop, power]
      by_cases reached : TimeDelta.half maxDelay ≤ delay
      · have capped : maxDelay = min (delay * 2 * 2 ^ n) maxDelay ↔ maxDelay ≤ delay * 2 * 2 ^ n := by
          rw [eq_comm, min_eq_right_iff]
        rw [if_pos reached]
        refine Iff.trans capped ?_
        obtain large | ⟨odd, rounded⟩ := (half_le_iff _ _).mp reached
        · generalize delay * 2 * 2 ^ n = product at grown ⊢
          omega
        · -- the double is one less than the maximum; the next one is past it
          cases n with
          | zero =>
              rw [pow_zero, mul_one]
              omega
          | succ k =>
              have further : delay * 2 * 2 ≤ delay * 2 * 2 ^ (k + 1) := by
                rw [pow_succ', ← mul_assoc]
                exact le_mul_of_one_le_right (by omega) (one_le_pow₀ (by decide))
              generalize delay * 2 * 2 ^ (k + 1) = product at further ⊢
              omega
      · rw [if_neg reached]
        have small := mt (half_le_iff maxDelay delay).mpr reached
        rw [ih (by omega) (by omega)]
        cases n with
        | zero =>
            rw [pow_zero, mul_one]
            omega
        | succ k =>
            generalize delay * 2 * 2 ^ (k + 1) = product
            omega

/-- What a delay should be: exponential growth up to a maximum. -/
def cappedGrowth (initial factor maximum : Int) (attempt : Nat) : Int :=
  min (initial * factor ^ (attempt - 1)) maximum

/-- The delays are those of capped growth where no product of the policy leaves the range,
and where doubling does not come to one below a maximum whose half rounds down. -/
theorem retry_delays_capped_iff (policy : MissionRetryPolicy) (n : Nat) (counted : 1 ≤ n)
    (base maximum : Int) (positive : 0 < base) (ordered : base ≤ maximum)
    (bounded : maximum ≤ timedeltaMax) :
    (policy.delayAfterAttempt n =
        .ok (cappedGrowth policy.initialDelay policy.multiplier policy.maximumDelay n) ↔
      n = 1 ∨ cappedGrowth policy.initialDelay policy.multiplier policy.maximumDelay (n - 1) *
        policy.multiplier ≤ timedeltaMax) ∧
    (exponentialRetryDelayChecked maximum base (n - 1) = .ok (cappedGrowth base 2 maximum n) ↔
      n = 1 ∨ ¬ (base * 2 ^ (n - 1) + 1 = maximum ∧ maximum % 4 = 1)) := by
  obtain ⟨k, rfl⟩ := Nat.exists_eq_add_of_le' counted
  constructor
  · rw [MissionRetryPolicy.delayAfterAttempt, if_neg (by omega), Nat.add_sub_cancel]
    cases k with
    | zero =>
        rw [cappedGrowth, Nat.add_sub_cancel, pow_zero, mul_one, min_eq_left policy.initialDelay_le]
        exact ⟨fun _ => .inl rfl, fun _ => rfl⟩
    | succ k =>
        refine Iff.trans (policy.delayLoop_eq_iff k policy.initialDelay_pos policy.initialDelay_le) ?_
        constructor
        · exact .inr
        · intro fits
          exact fits.resolve_left (by omega)
  · rw [exponentialRetryDelay_checked _ positive bounded, Except.ok.injEq, cappedGrowth,
      Nat.add_sub_cancel, exponentialRetryDelayLoop_eq_iff _ positive ordered]
    omega

theorem retry_delays_capped_iff_default :
    defaultMissionRetryPolicy.delayAfterAttempt 3 =
        .ok (cappedGrowth (seconds 30) 2 (seconds 900) 3) ∧
      exponentialRetryDelayChecked (seconds 900) (seconds 30) 2 =
        .ok (cappedGrowth (seconds 30) 2 (seconds 900) 3) := by
  have capped := retry_delays_capped_iff defaultMissionRetryPolicy 3 (by decide) (seconds 30)
    (seconds 900) (by decide) (by decide) (by decide)
  exact ⟨capped.1.mpr (.inr (by decide)), capped.2.mpr (.inr (by decide))⟩

namespace DailyRetries

def day : TimeDelta := seconds 86400

theorem day_pos : 0 < day := by decide

theorem day_le : day ≤ day := Int.le_refl _

theorem day_bounded : day ≤ timedeltaMax := by decide

def billion : Int := 1000000000

theorem billion_pos : 1 ≤ billion := by decide

/-- One day after every attempt, as the maximum has it, and a multiplier of a billion. -/
def policy : MissionRetryPolicy where
  initialDelay := day
  maximumDelay := day
  multiplier := billion
  initialDelay_pos := day_pos
  initialDelay_le := day_le
  one_le_multiplier := billion_pos
  maximumDelay_le := day_bounded

end DailyRetries

/-- A product overflows before it is compared, and five microseconds are returned where
twice two are due. -/
theorem retry_delays_uncapped :
    DailyRetries.policy.delayAfterAttempt 2 =
        .error (.overflowError "days; must have magnitude <= 999999999") ∧
      cappedGrowth DailyRetries.day DailyRetries.billion DailyRetries.day 2 = DailyRetries.day ∧
      exponentialRetryDelay 2 5 2 = 5 ∧ cappedGrowth 2 2 5 2 = 4 := by
  refine ⟨rfl, by decide, by decide, by decide⟩

end PurchaseAgent
