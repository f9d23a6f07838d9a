import Mathlib.Data.Int.Log
import Mathlib.Data.Rat.Floor
import Mathlib.Tactic.Linarith
import Mathlib.Tactic.Positivity

/-!
# Decimal arithmetic in a context

The operators of `decimal` work on exact values and round the result once: to the precision of
the context, ties to the even digit, and no finer than the smallest exponent of the context. A
result past the largest exponent is an exception.

> `fix_of_abs_le_zpow`: up to a power of ten in range a result is rounded, not refused, and stays
> there.

> `fix_of_digits`: what fits the digits of the context is kept as it is.
-/

namespace Retrywise.Foundation

/-! ## Ties to even -/

/-- `ROUND_HALF_EVEN`, to an integer. -/
def roundHalfEven (q : Rat) : Int :=
  if q - ⌊q⌋ < 1 / 2 then ⌊q⌋
  else if 1 / 2 < q - ⌊q⌋ then ⌊q⌋ + 1
  else if ⌊q⌋ % 2 = 0 then ⌊q⌋ else ⌊q⌋ + 1

@[simp] theorem roundHalfEven_intCast (n : Int) : roundHalfEven (n : Rat) = n := by
  unfold roundHalfEven
  rw [Int.floor_intCast, sub_self, if_pos (by norm_num)]

theorem floor_le_roundHalfEven (q : Rat) : ⌊q⌋ ≤ roundHalfEven q := by
  unfold roundHalfEven
  split
  next => exact le_refl _
  next =>
    split
    next => omega
    next => split <;> omega

/-- Rounding does not pass an integer. -/
theorem roundHalfEven_le {q : Rat} {n : Int} (h : q ≤ n) : roundHalfEven q ≤ n := by
  rcases eq_or_lt_of_le h with rfl | hlt
  · rw [roundHalfEven_intCast]
  · have hfloor : ⌊q⌋ + 1 ≤ n := Int.floor_lt.mpr hlt
    unfold roundHalfEven
    split
    next => omega
    next =>
      split
      next => omega
      next => split <;> omega

theorem le_roundHalfEven {q : Rat} {n : Int} (h : (n : Rat) ≤ q) : n ≤ roundHalfEven q :=
  le_trans (Int.le_floor.mpr h) (floor_le_roundHalfEven q)

/-- **Rounding keeps the order.** -/
theorem roundHalfEven_mono {p q : Rat} (h : p ≤ q) : roundHalfEven p ≤ roundHalfEven q := by
  rcases lt_or_eq_of_le (Int.floor_le_floor h) with hlt | heq
  · -- a whole number lies between them
    have hmid : ((⌊p⌋ + 1 : Int) : Rat) ≤ q :=
      le_trans (by exact_mod_cast hlt) (Int.floor_le q)
    have hbelow : p ≤ ((⌊p⌋ + 1 : Int) : Rat) := by
      push_cast
      exact (Int.lt_floor_add_one p).le
    exact le_trans (roundHalfEven_le hbelow) (le_roundHalfEven hmid)
  · have hfraction : p - ⌊p⌋ ≤ q - ⌊q⌋ := by
      rw [heq]
      exact sub_le_sub_right h _
    unfold roundHalfEven
    rw [← heq] at hfraction ⊢
    by_cases hlow : p - ⌊p⌋ < 1 / 2
    · rw [if_pos hlow]
      split
      next => exact le_refl _
      next =>
        split
        next => omega
        next => split <;> omega
    · rw [if_neg hlow, if_neg (show ¬q - ⌊p⌋ < 1 / 2 by linarith)]
      by_cases hhigh : 1 / 2 < p - ⌊p⌋
      · rw [if_pos hhigh, if_pos (show 1 / 2 < q - ⌊p⌋ by linarith)]
      · rw [if_neg hhigh]
        split
        next => split <;> omega
        next => split <;> omega

/-! ## Whole numbers of a unit -/

section

variable {q unit : Rat} {n : Int}

/-- Rounding to a unit does not pass a whole number of units. -/
theorem roundHalfEven_mul_le (hunit : 0 < unit) (h : q ≤ n * unit) :
    roundHalfEven (q / unit) * unit ≤ n * unit := by
  have hround : roundHalfEven (q / unit) ≤ n := roundHalfEven_le ((div_le_iff₀ hunit).mpr h)
  exact mul_le_mul_of_nonneg_right (by exact_mod_cast hround) hunit.le

theorem le_roundHalfEven_mul (hunit : 0 < unit) (h : n * unit ≤ q) :
    n * unit ≤ roundHalfEven (q / unit) * unit := by
  have hround : n ≤ roundHalfEven (q / unit) := le_roundHalfEven ((le_div_iff₀ hunit).mpr h)
  exact mul_le_mul_of_nonneg_right (by exact_mod_cast hround) hunit.le

theorem roundHalfEven_mul_nonneg (hunit : 0 < unit) (h : 0 ≤ q) :
    0 ≤ roundHalfEven (q / unit) * unit := by
  have hround : (0 : Int) ≤ roundHalfEven (q / unit) :=
    le_roundHalfEven (by rw [Int.cast_zero]; positivity)
  exact mul_nonneg (by exact_mod_cast hround) hunit.le

end

/-! ## Contexts -/

/-- The parts of a context that decide a result. -/
structure DecimalContext where
  prec : Nat := 28
  emin : Int := -999999
  emax : Int := 999999
deriving DecidableEq

/-- The exceptions that a context traps. -/
inductive DecimalSignal where
  | overflow
  | invalidOperation
  | divisionByZero
deriving DecidableEq

namespace DecimalContext

variable (context : DecimalContext)

/-- `Etiny()`: the exponent of the last place that is kept of the smallest numbers. -/
def etiny : Int := context.emin - (context.prec - 1)

/-- The exponent of the last place that is kept of a result. -/
def place (q : Rat) : Int := max (Int.log 10 |q| - (context.prec - 1)) context.etiny

/-- The result, rounded once. -/
def nearest (q : Rat) : Rat :=
  if q = 0 then 0
  else roundHalfEven (q / 10 ^ context.place q) * 10 ^ context.place q

/-- The result of an operation whose exact value is `q`. -/
def fix (q : Rat) : Except DecimalSignal Rat :=
  if 10 ^ (context.emax + 1) ≤ |context.nearest q| then .error .overflow
  else .ok (context.nearest q)

/-! ## How far a result is off -/

variable {context} {q : Rat}

@[simp] theorem nearest_zero : context.nearest 0 = 0 := if_pos rfl

theorem ten_zpow_pos (e : Int) : (0 : Rat) < 10 ^ e := zpow_pos (by norm_num) e

theorem nearest_nonneg (h : 0 ≤ q) : 0 ≤ context.nearest q := by
  unfold nearest
  split
  next => exact le_refl _
  next => exact roundHalfEven_mul_nonneg (ten_zpow_pos _) h

/-- A power of ten at or above a place is a whole number of its units. -/
theorem exists_zpow_eq {place e : Int} (h : place ≤ e) :
    ∃ n : Int, (10 : Rat) ^ e = (n : Rat) * 10 ^ place := by
  obtain ⟨n, hn⟩ := Int.eq_ofNat_of_zero_le (show 0 ≤ e - place by omega)
  refine ⟨10 ^ n, ?_⟩
  push_cast
  rw [← zpow_natCast, ← zpow_add₀ (by norm_num)]
  congr 1
  omega

/-- Powers of ten are kept, so a result does not pass one that is at or above its last place. -/
theorem nearest_le_zpow {e : Int} (h : q ≤ 10 ^ e) (hplace : context.place q ≤ e) :
    context.nearest q ≤ 10 ^ e := by
  unfold nearest
  split
  next => exact (ten_zpow_pos e).le
  next =>
    obtain ⟨n, hwhole⟩ := exists_zpow_eq hplace
    rw [hwhole] at h ⊢
    exact roundHalfEven_mul_le (ten_zpow_pos _) h

theorem zpow_le_nearest {e : Int} (h : 10 ^ e ≤ q) (hplace : context.place q ≤ e) :
    10 ^ e ≤ context.nearest q := by
  unfold nearest
  split
  next hzero => exact absurd (hzero ▸ h) (not_le.mpr (ten_zpow_pos e))
  next =>
    obtain ⟨n, hwhole⟩ := exists_zpow_eq hplace
    rw [hwhole] at h ⊢
    exact le_roundHalfEven_mul (ten_zpow_pos _) h

theorem neg_zpow_le_nearest {e : Int} (h : -10 ^ e ≤ q) (hplace : context.place q ≤ e) :
    -10 ^ e ≤ context.nearest q := by
  unfold nearest
  split
  next => exact (neg_neg_of_pos (ten_zpow_pos e)).le
  next =>
    obtain ⟨n, hwhole⟩ := exists_zpow_eq hplace
    have hneg : -(10 : Rat) ^ e = ((-n : Int) : Rat) * 10 ^ context.place q := by
      rw [hwhole]
      push_cast
      ring
    rw [hneg] at h ⊢
    exact le_roundHalfEven_mul (ten_zpow_pos _) h

theorem abs_digits_lt {n e : Int} {prec : Nat} (hdigits : |n| < 10 ^ prec) :
    |(n : Rat) * 10 ^ e| < 10 ^ (prec + e : Int) := by
  rw [abs_mul, abs_of_pos (ten_zpow_pos e), zpow_add₀ (by norm_num), zpow_natCast]
  exact mul_lt_mul_of_pos_right (by exact_mod_cast hdigits) (ten_zpow_pos e)

/-- **What fits the digits of the context is kept as it is.** -/
theorem nearest_of_digits {n e : Int} (hdigits : |n| < 10 ^ context.prec)
    (hlow : context.etiny ≤ e) : context.nearest (n * 10 ^ e) = n * 10 ^ e := by
  unfold nearest
  split
  next hzero => exact hzero.symm
  next hne =>
    have hbound := abs_digits_lt (e := e) hdigits
    have hlog : Int.log 10 |(n : Rat) * 10 ^ e| < context.prec + e :=
      (Int.lt_zpow_iff_log_lt (by norm_num) (abs_pos.mpr hne)).mp (by exact_mod_cast hbound)
    have hplace : context.place (n * 10 ^ e) ≤ e := by
      unfold place
      omega
    obtain ⟨units, hunits⟩ := exists_zpow_eq hplace
    have hpos := ten_zpow_pos (context.place ((n : Rat) * 10 ^ e))
    have hwhole : (n : Rat) * 10 ^ e / 10 ^ context.place (n * 10 ^ e) = ((n * units : Int) : Rat) := by
      rw [div_eq_iff (ne_of_gt hpos)]
      nth_rewrite 1 [hunits]
      push_cast
      ring
    rw [hwhole, roundHalfEven_intCast, ← hwhole, div_mul_cancel₀ _ (ne_of_gt hpos)]

/-- The last place of a number up to a power of ten is no higher than that power. -/
theorem place_le {e : Int} (hprec : 0 < context.prec) (hemin : context.emin ≤ e) (he : 0 ≤ e)
    (hq : |q| ≤ 10 ^ e) : context.place q ≤ e := by
  have hlog : Int.log 10 |q| ≤ e := by
    rcases eq_or_lt_of_le (abs_nonneg q) with hzero | hpos
    · rw [← hzero, Int.log_zero_right]
      exact he
    · have hmono := Int.log_mono_right (b := 10) hpos hq
      have hpower : Int.log 10 ((10 : Rat) ^ e) = e := Int.log_zpow (by norm_num) e
      rw [hpower] at hmono
      exact hmono
  unfold place etiny
  omega

/-- **Up to a power of ten that is in range nothing is refused**, and results stay there. -/
theorem fix_of_abs_le_zpow {e : Int} (hprec : 0 < context.prec) (hemin : context.emin ≤ e)
    (he : 0 ≤ e) (hemax : e ≤ context.emax) (hq : |q| ≤ 10 ^ e) :
    context.fix q = .ok (context.nearest q) ∧ |context.nearest q| ≤ 10 ^ e := by
  have hplace := place_le hprec hemin he hq
  have hbound : |context.nearest q| ≤ 10 ^ e := by
    rw [abs_le] at hq ⊢
    exact ⟨neg_zpow_le_nearest hq.1 hplace, nearest_le_zpow hq.2 hplace⟩
  have hroom : (10 : Rat) ^ e < 10 ^ (context.emax + 1) :=
    zpow_lt_zpow_right₀ (by norm_num) (by omega)
  refine ⟨?_, hbound⟩
  unfold fix
  rw [if_neg (not_le.mpr (lt_of_le_of_lt hbound hroom))]

theorem fix_of_digits {n e : Int} (hdigits : |n| < 10 ^ context.prec)
    (hlow : context.etiny ≤ e) (hhigh : context.prec + e ≤ context.emax + 1) :
    context.fix (n * 10 ^ e) = .ok (n * 10 ^ e) := by
  have hbound := abs_digits_lt (e := e) hdigits
  have hroom : (10 : Rat) ^ (context.prec + e : Int) ≤ 10 ^ (context.emax + 1) :=
    zpow_le_zpow_right₀ (by norm_num) hhigh
  unfold fix
  rw [nearest_of_digits hdigits hlow, if_neg (not_le.mpr (lt_of_lt_of_le hbound hroom))]

theorem fix_of_abs_le_one (hprec : 0 < context.prec) (hemin : context.emin ≤ 0)
    (hemax : 0 ≤ context.emax) (hq : |q| ≤ 1) :
    context.fix q = .ok (context.nearest q) ∧ |context.nearest q| ≤ 1 := by
  rw [← zpow_zero (10 : Rat)] at hq ⊢
  exact fix_of_abs_le_zpow hprec hemin (le_refl 0) hemax hq

theorem nearest_one (hprec : 0 < context.prec) (hemin : context.emin ≤ 0) :
    context.nearest 1 = 1 := by
  have hplace : context.place 1 ≤ 0 :=
    place_le hprec hemin (le_refl 0) (by rw [abs_one, zpow_zero])
  have hlow : (10 : Rat) ^ (0 : Int) ≤ context.nearest 1 :=
    zpow_le_nearest (by rw [zpow_zero]) hplace
  have hhigh : context.nearest 1 ≤ (10 : Rat) ^ (0 : Int) :=
    nearest_le_zpow (by rw [zpow_zero]) hplace
  rw [zpow_zero] at hlow hhigh
  exact le_antisymm hhigh hlow

end DecimalContext

/-- The context of a thread that nothing has changed. -/
def defaultContext : DecimalContext := {}

theorem fix_defaultContext {q : Rat} (hq : |q| ≤ 1) :
    defaultContext.fix q = .ok (defaultContext.nearest q) ∧ |defaultContext.nearest q| ≤ 1 :=
  DecimalContext.fix_of_abs_le_one (by decide) (by decide) (by decide) hq

end Retrywise.Foundation
