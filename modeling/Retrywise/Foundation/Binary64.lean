import Retrywise.Foundation.DecimalContext

/-!
# Binary floats

An operation on floats works on exact values and rounds the result once: to 53 binary digits, ties
to the even digit, and no finer than the smallest exponent. A result past the largest exponent is
not modelled.

> `nearest64_mono`: rounding keeps the order of numbers that are not negative.
-/

namespace Retrywise.Foundation

/-- The exponent of the last binary digit that is kept of a result. -/
def place64 (q : Rat) : Int := max (Int.log 2 |q| - 52) (-1074)

/-- The result, rounded once. -/
def nearest64 (q : Rat) : Rat :=
  if q = 0 then 0
  else roundHalfEven (q / 2 ^ place64 q) * 2 ^ place64 q

/-- `int`, of a float. -/
def truncated (q : Rat) : Int := if 0 ≤ q then ⌊q⌋ else ⌈q⌉

/-- `round`, of a float to a number of decimal places. -/
def roundPlaces (q : Rat) (places : Nat) : Rat :=
  nearest64 (roundHalfEven (q * 10 ^ places) / 10 ^ places)

variable {p q : Rat}

theorem two_zpow_pos (e : Int) : (0 : Rat) < 2 ^ e := zpow_pos (by norm_num) e

theorem nearest64_nonneg (h : 0 ≤ q) : 0 ≤ nearest64 q := by
  unfold nearest64
  split
  next => exact le_refl _
  next => exact roundHalfEven_mul_nonneg (two_zpow_pos _) h

/-- A power of two at or above a place is a whole number of its units. -/
theorem exists_two_zpow_eq {place e : Int} (h : place ≤ e) :
    ∃ n : Int, (2 : Rat) ^ e = (n : Rat) * 2 ^ place := by
  obtain ⟨n, hn⟩ := Int.eq_ofNat_of_zero_le (show 0 ≤ e - place by omega)
  refine ⟨2 ^ n, ?_⟩
  push_cast
  rw [← zpow_natCast, ← zpow_add₀ (by norm_num)]
  congr 1
  omega

/-- Powers of two are kept, so a result does not pass one that is at or above its last place. -/
theorem nearest64_le_zpow {e : Int} (h : q ≤ 2 ^ e) (hplace : place64 q ≤ e) :
    nearest64 q ≤ 2 ^ e := by
  unfold nearest64
  split
  next => exact (two_zpow_pos e).le
  next =>
    obtain ⟨n, hwhole⟩ := exists_two_zpow_eq hplace
    rw [hwhole] at h ⊢
    exact roundHalfEven_mul_le (two_zpow_pos _) h

theorem zpow_le_nearest64 {e : Int} (h : 2 ^ e ≤ q) (hplace : place64 q ≤ e) :
    2 ^ e ≤ nearest64 q := by
  unfold nearest64
  split
  next hzero => exact absurd (hzero ▸ h) (not_le.mpr (two_zpow_pos e))
  next =>
    obtain ⟨n, hwhole⟩ := exists_two_zpow_eq hplace
    rw [hwhole] at h ⊢
    exact le_roundHalfEven_mul (two_zpow_pos _) h

theorem place64_mono (hp : 0 < p) (h : p ≤ q) : place64 p ≤ place64 q := by
  have hlog : Int.log 2 |p| ≤ Int.log 2 |q| := by
    rw [abs_of_pos hp, abs_of_pos (lt_of_lt_of_le hp h)]
    exact Int.log_mono_right hp h
  unfold place64
  omega

/-- **Rounding keeps the order** of numbers that are not negative. -/
theorem nearest64_mono (hp : 0 ≤ p) (h : p ≤ q) : nearest64 p ≤ nearest64 q := by
  rcases eq_or_lt_of_le hp with rfl | hpos
  · rw [nearest64, if_pos rfl]
    exact nearest64_nonneg h
  have hq : 0 < q := lt_of_lt_of_le hpos h
  rcases eq_or_lt_of_le (place64_mono hpos h) with hplace | hplace
  · -- both are rounded to the same place
    have hunit := two_zpow_pos (place64 q)
    unfold nearest64
    rw [if_neg (ne_of_gt hpos), if_neg (ne_of_gt hq), hplace]
    have hround := roundHalfEven_mono (div_le_div_of_nonneg_right h hunit.le)
    exact mul_le_mul_of_nonneg_right (by exact_mod_cast hround) hunit.le
  · -- a power of two lies between them
    have hmid : Int.log 2 p < Int.log 2 q ∧ place64 p ≤ Int.log 2 q ∧
        place64 q ≤ Int.log 2 q := by
      unfold place64 at hplace ⊢
      rw [abs_of_pos hpos, abs_of_pos hq] at hplace ⊢
      omega
    have hbelow : p ≤ 2 ^ Int.log 2 q := by
      have hlt : p < ((2 : Nat) : Rat) ^ Int.log 2 q :=
        (Int.lt_zpow_iff_log_lt (by norm_num) hpos).mpr hmid.1
      exact_mod_cast hlt.le
    have habove : 2 ^ Int.log 2 q ≤ q := by
      have hle := Int.zpow_log_le_self (b := 2) (by norm_num) hq
      exact_mod_cast hle
    exact le_trans (nearest64_le_zpow hbelow hmid.2.1) (zpow_le_nearest64 habove hmid.2.2)

theorem truncated_mono (hp : 0 ≤ p) (h : p ≤ q) : truncated p ≤ truncated q := by
  unfold truncated
  rw [if_pos hp, if_pos (le_trans hp h)]
  exact Int.floor_le_floor h

end Retrywise.Foundation
