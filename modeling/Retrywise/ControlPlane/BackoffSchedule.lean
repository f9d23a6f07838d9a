import Mathlib.Algebra.Order.Ring.Int
import Retrywise.ControlPlane.JobEnds

/-!
# The retry schedule in closed form

`delay_after` doubles the base delay until the maximum is half-way reached, and is documented
as `min(maximum, base * 2 ** (attempts - 1))`. The half is a rounded one: of an odd maximum
`2 k + 1` it is `k` when `k` is even, and a delay of `k` then jumps to the maximum although
its double is one microsecond short of it.

> `delayAfter_eq_iff`: the schedule is the documented one, bounded and non-decreasing, at every
> attempt except the one whose documented delay is a multiple of four microseconds that ends
> one microsecond below the maximum.
-/

namespace Retrywise.ControlPlane

open Retrywise.Foundation Retrywise.Domain

namespace BackoffPolicy

/-! ## The rounded half -/

/-- A delay reaches the half if its double reaches the whole, or by rounding. -/
theorem halfOf_le_iff {whole delay : Int} :
    halfOf whole ≤ delay ↔ whole ≤ delay * 2 ∨ (delay * 2 + 1 = whole ∧ delay % 2 = 0) := by
  have hhalf : halfOf whole = if whole % 2 = 0 ∨ whole / 2 % 2 = 0 then whole / 2
    else whole / 2 + 1 := rfl
  rw [hhalf]
  split
  next h => show whole / 2 ≤ delay ↔ _; omega
  next h => show whole / 2 + 1 ≤ delay ↔ _; omega

variable (policy : BackoffPolicy)

/-- The maximum, in microseconds. -/
def maximumMicros : Int := policy.maximumDelay

/-- The delay that the docstring promises if nothing bounds it, in microseconds. -/
def unboundedMicros (attempts : Nat) : Int := policy.baseDelay * 2 ^ (attempts - 1)

/-- The unbounded delay is a multiple of four microseconds that ends one microsecond below
the maximum, and it is not the first. -/
def JumpsAhead (attempts : Nat) : Prop :=
  2 ≤ attempts ∧ policy.unboundedMicros attempts + 1 = policy.maximumMicros ∧
    4 ∣ policy.unboundedMicros attempts

/-! ## The loop -/

theorem pow_succ_two (delay : Int) (n : Nat) : delay * 2 ^ (n + 1) = delay * 2 * 2 ^ n := by
  rw [Int.pow_succ', Int.mul_assoc]

theorem le_mul_pow {delay : Int} (hdelay : 0 < delay) (n : Nat) : delay ≤ delay * 2 ^ n := by
  have hpos : (0 : Int) < 2 ^ n := Int.pow_pos (by decide)
  calc delay = delay * 1 := (Int.mul_one _).symm
    _ ≤ delay * 2 ^ n := Int.mul_le_mul_of_nonneg_left hpos (by omega)

/-- The loop never stops below the doubled delay. -/
theorem le_doubled (n : Nat) :
    ∀ delay : Int, 0 < delay → min (delay * 2 ^ n) policy.maximumMicros ≤ policy.doubled delay n := by
  induction n with
  | zero =>
    intro delay _
    rw [doubled, Int.pow_zero, Int.mul_one]
    exact le_refl _
  | succ n ih =>
    intro delay hdelay
    rw [doubled]
    split
    next => exact min_le_right _ _
    next =>
      rw [pow_succ_two]
      exact ih (delay * 2) (by omega)

/-- Where rounding does not decide, the loop ends at the doubled delay. -/
theorem doubled_le (n : Nat) :
    ∀ delay : Int, 0 < delay →
      (0 < n → delay * 2 ^ n + 1 = policy.maximumMicros → ¬4 ∣ delay * 2 ^ n) →
      policy.doubled delay n ≤ min (delay * 2 ^ n) policy.maximumMicros := by
  induction n with
  | zero =>
    intro delay _ _
    rw [doubled, Int.pow_zero, Int.mul_one]
    exact le_refl _
  | succ n ih =>
    intro delay hdelay hno
    rw [doubled]
    rw [pow_succ_two] at hno ⊢
    have htwice : 0 < delay * 2 := by omega
    have hmore := le_mul_pow htwice n
    split
    next hhalf =>
      -- the maximum is returned, so the doubled delay has to reach it
      have hreached : policy.maximumMicros ≤ delay * 2 * 2 ^ n := by
        rcases halfOf_le_iff.mp hhalf with hwhole | ⟨hrounded, heven⟩
        · exact Int.le_trans hwhole hmore
        · have hends : delay * 2 + 1 = policy.maximumMicros := hrounded
          cases n with
          | zero =>
            rw [Int.pow_zero, Int.mul_one] at hno
            exact absurd (by omega) (hno (by omega) hends)
          | succ n =>
            rw [pow_succ_two]
            have hfourfold : 0 < delay * 2 * 2 := by omega
            have hagain := le_mul_pow hfourfold n
            omega
      exact le_min hreached (le_refl _)
    next hshort => exact ih (delay * 2) (by omega) fun _ => hno (by omega)

/-- Where rounding decides, the loop returns the maximum. -/
theorem doubled_of_rounded (n : Nat) :
    ∀ delay : Int, 0 < delay → 0 < n → delay * 2 ^ n + 1 = policy.maximumMicros →
      4 ∣ delay * 2 ^ n → policy.doubled delay n = policy.maximumMicros := by
  induction n with
  | zero => intro _ _ hn; omega
  | succ n ih =>
    intro delay hdelay _ hends hfour
    rw [doubled]
    rw [pow_succ_two] at hends hfour
    split
    next => rfl
    next hshort =>
      cases n with
      | zero =>
        rw [Int.pow_zero, Int.mul_one] at hends hfour
        exact absurd (halfOf_le_iff.mpr (Or.inr ⟨hends, by omega⟩)) hshort
      | succ n => exact ih (delay * 2) (by omega) (by omega) hends hfour

/-! ## The schedule -/

theorem delayAfter_le (attempts : Nat) : policy.delayAfter attempts ≤ policy.maximumDelay :=
  (policy.doubled_bounds _ _ (Int.le_of_lt policy.positive)).2

theorem le_delayAfter (attempts : Nat) :
    min policy.maximumMicros (policy.unboundedMicros attempts) ≤ policy.delayAfter attempts := by
  rw [min_comm]
  exact policy.le_doubled _ _ policy.positive

/-- Off the jump the schedule is the documented one. -/
theorem delayAfter_of_not_jumpsAhead {attempts : Nat} (h : ¬policy.JumpsAhead attempts) :
    policy.delayAfter attempts = min policy.maximumMicros (policy.unboundedMicros attempts) := by
  refine le_antisymm ?_ (policy.le_delayAfter attempts)
  rw [min_comm]
  exact policy.doubled_le _ _ policy.positive fun hn hends hfour => h ⟨by omega, hends, hfour⟩

/-- At the jump it is the maximum. -/
theorem delayAfter_of_jumpsAhead {attempts : Nat} (h : policy.JumpsAhead attempts) :
    policy.delayAfter attempts = policy.maximumMicros := by
  obtain ⟨htwo, hends, hfour⟩ := h
  exact policy.doubled_of_rounded _ _ policy.positive (by omega) hends hfour

theorem unboundedMicros_succ {attempts : Nat} (hone : 1 ≤ attempts) :
    policy.unboundedMicros (attempts + 1) = policy.unboundedMicros attempts * 2 := by
  have hlast : attempts + 1 - 1 = attempts - 1 + 1 := by omega
  unfold unboundedMicros
  rw [hlast, Int.pow_succ, Int.mul_assoc]

theorem unboundedMicros_pos (attempts : Nat) : 0 < policy.unboundedMicros attempts :=
  Int.mul_pos policy.positive (Int.pow_pos (by decide))

/-- The next attempt waits no shorter. -/
theorem delayAfter_le_succ {attempts : Nat} (hone : 1 ≤ attempts) :
    policy.delayAfter attempts ≤ policy.delayAfter (attempts + 1) := by
  have hnext := policy.le_delayAfter (attempts + 1)
  have hdouble := policy.unboundedMicros_succ hone
  have hpos := policy.unboundedMicros_pos attempts
  by_cases hjump : policy.JumpsAhead attempts
  · -- after the jump the unbounded delay is past the maximum
    have hreached : policy.maximumMicros ≤ policy.unboundedMicros (attempts + 1) := by
      have hends := hjump.2.1
      omega
    rw [min_eq_left hreached] at hnext
    rw [policy.delayAfter_of_jumpsAhead hjump]
    exact hnext
  · rw [policy.delayAfter_of_not_jumpsAhead hjump]
    have hgrows : policy.unboundedMicros attempts ≤ policy.unboundedMicros (attempts + 1) := by
      omega
    exact le_trans (min_le_min (le_refl _) hgrows) hnext

theorem delayAfter_mono {attempts later : Nat} (hone : 1 ≤ attempts) (h : attempts ≤ later) :
    policy.delayAfter attempts ≤ policy.delayAfter later := by
  induction later, h using Nat.le_induction with
  | base => exact le_refl _
  | succ later hlater ih => exact le_trans ih (policy.delayAfter_le_succ (by omega))

/-- **The schedule is the documented one, bounded and non-decreasing, exactly off the jump.** -/
theorem delayAfter_eq_iff {attempts : Nat} (hone : 1 ≤ attempts) :
    (policy.delayAfter attempts =
        min policy.maximumDelay (policy.baseDelay * 2 ^ (attempts - 1)) ∧
      policy.delayAfter attempts ≤ policy.maximumDelay ∧
      ∀ later, attempts ≤ later → policy.delayAfter attempts ≤ policy.delayAfter later) ↔
    ¬(2 ≤ attempts ∧ policy.baseDelay * 2 ^ (attempts - 1) + 1 = policy.maximumDelay ∧
      4 ∣ policy.baseDelay * 2 ^ (attempts - 1)) := by
  show (policy.delayAfter attempts =
    min policy.maximumMicros (policy.unboundedMicros attempts) ∧ _ ∧ _) ↔
    ¬policy.JumpsAhead attempts
  constructor
  · rintro ⟨hdocumented, -, -⟩ hjump
    have hends := hjump.2.1
    have hmaximum : policy.maximumMicros =
        min policy.maximumMicros (policy.unboundedMicros attempts) :=
      (policy.delayAfter_of_jumpsAhead hjump).symm.trans hdocumented
    omega
  · intro hjump
    exact ⟨policy.delayAfter_of_not_jumpsAhead hjump, policy.delayAfter_le attempts,
      fun _ h => policy.delayAfter_mono hone h⟩

/-- The third attempt of the schedule in use waits four seconds. -/
theorem delayAfter_default :
    ({} : BackoffPolicy).delayAfter 3 =
        min ({} : BackoffPolicy).maximumDelay (({} : BackoffPolicy).baseDelay * 2 ^ (3 - 1)) ∧
      ({} : BackoffPolicy).delayAfter 3 ≤ ({} : BackoffPolicy).maximumDelay ∧
      ∀ later, 3 ≤ later →
        ({} : BackoffPolicy).delayAfter 3 ≤ ({} : BackoffPolicy).delayAfter later :=
  (delayAfter_eq_iff {} (by decide)).mpr (by decide)

/-- Two microseconds, then the maximum of five instead of the documented four. -/
theorem delayAfter_jumps :
    ¬∀ (policy : BackoffPolicy) (attempts : Nat), 1 ≤ attempts →
      policy.delayAfter attempts =
          min policy.maximumDelay (policy.baseDelay * 2 ^ (attempts - 1)) ∧
        policy.delayAfter attempts ≤ policy.maximumDelay ∧
        ∀ later, attempts ≤ later → policy.delayAfter attempts ≤ policy.delayAfter later := by
  intro h
  have hfour := (h ⟨2, 5, by decide, by decide⟩ 2 (by decide)).1
  exact absurd hfour (by decide)

end BackoffPolicy

end Retrywise.ControlPlane
