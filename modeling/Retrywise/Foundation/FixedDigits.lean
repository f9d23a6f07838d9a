import Mathlib.Algebra.Order.Ring.Nat
import Mathlib.Data.Nat.Basic
import Mathlib.Data.List.Basic

/-!
# Digits of one width

A number below `base ^ width` is written with `width` digits, the lowest last. Words of one
length are compared digit by digit from the front, and that is the order of the numbers.

> `fixedDigits_lt_iff`: two words of one width are ordered as their numbers.

> `fixedDigits_inj`: a word says which number it is.

Both hold under any naming of the digits that keeps their order.
-/

namespace Retrywise.Foundation

universe u

variable {α : Type u}

/-! ## Words of one length -/

/-- Words that begin with words of one length are compared by these first. -/
theorem append_lt_append_iff [LT α] {left right behind behind' : List α}
    (hlen : left.length = right.length) :
    left ++ behind < right ++ behind' ↔ left < right ∨ left = right ∧ behind < behind' := by
  induction left generalizing right with
  | nil =>
    have hnil := List.length_eq_zero_iff.mp hlen.symm
    subst hnil
    simp
  | cons a left ih =>
    cases right with
    | nil => exact absurd hlen (by simp)
    | cons b right =>
      rw [List.cons_append, List.cons_append, List.cons_lt_cons_iff, List.cons_lt_cons_iff,
        ih (Nat.succ.inj hlen), List.cons.injEq, and_assoc, and_or_left, or_assoc]

/-- One more digit at the end decides between equal words only. -/
theorem concat_lt_concat_iff [LT α] {left right : List α} {a b : α}
    (hlen : left.length = right.length) :
    left ++ [a] < right ++ [b] ↔ left < right ∨ left = right ∧ a < b := by
  rw [append_lt_append_iff hlen, List.cons_lt_cons_iff]
  simp

/-! ## Digits -/

/-- The `width` lowest digits of a number, named by `digit`. -/
def fixedDigits (digit : Nat → α) (base : Nat) : Nat → Nat → List α
  | 0, _ => []
  | width + 1, n => fixedDigits digit base width (n / base) ++ [digit (n % base)]

@[simp] theorem length_fixedDigits (digit : Nat → α) (base width n : Nat) :
    (fixedDigits digit base width n).length = width := by
  induction width generalizing n with
  | zero => rfl
  | succ width ih => rw [fixedDigits, List.length_append, ih, List.length_singleton]

/-- The digit at each place, the places counted from the front. -/
theorem fixedDigits_eq_map_range (digit : Nat → α) (base width : Nat) :
    ∀ n, fixedDigits digit base width n =
      (List.range width).map fun i => digit (n / base ^ (width - 1 - i) % base) := by
  induction width with
  | zero => intro n; rfl
  | succ width ih =>
    intro n
    have hlast : width + 1 - 1 - width = 0 := by omega
    rw [fixedDigits, ih, List.range_succ, List.map_append, List.map_singleton, hlast, Nat.pow_zero,
      Nat.div_one]
    congr 1
    refine List.map_congr_left fun i hi => ?_
    have hplace : width + 1 - 1 - i = width - 1 - i + 1 := by
      have hlt := List.mem_range.mp hi
      omega
    rw [hplace, Nat.pow_succ', Nat.div_div_eq_div_mul]

theorem exists_of_mem_fixedDigits {digit : Nat → α} {base width n : Nat} (hbase : 0 < base)
    {c : α} (hc : c ∈ fixedDigits digit base width n) : ∃ d < base, c = digit d := by
  induction width generalizing n with
  | zero => exact absurd hc List.not_mem_nil
  | succ width ih =>
    rw [fixedDigits, List.mem_append, List.mem_singleton] at hc
    rcases hc with hc | rfl
    · exact ih hc
    · exact ⟨_, Nat.mod_lt _ hbase, rfl⟩

theorem div_lt_pow {base width n : Nat} (hn : n < base ^ (width + 1)) :
    n / base < base ^ width := by
  rw [Nat.pow_succ, Nat.mul_comm] at hn
  exact Nat.div_lt_of_lt_mul hn

/-- **A word says which number it is**, if the digits have names of their own. -/
theorem fixedDigits_inj {digit : Nat → α} {base : Nat}
    (hdigit : ∀ i < base, ∀ j < base, digit i = digit j → i = j) (hbase : 0 < base) :
    ∀ {width m n : Nat}, m < base ^ width → n < base ^ width →
      fixedDigits digit base width m = fixedDigits digit base width n → m = n := by
  intro width
  induction width with
  | zero =>
    intro m n hm hn _
    rw [Nat.pow_zero] at hm hn
    omega
  | succ width ih =>
    intro m n hm hn h
    rw [fixedDigits, fixedDigits] at h
    obtain ⟨hfront, hlast⟩ := List.append_inj' h rfl
    have hdiv := ih (div_lt_pow hm) (div_lt_pow hn) hfront
    have hmod := hdigit _ (Nat.mod_lt m hbase) _ (Nat.mod_lt n hbase) (List.singleton_inj.mp hlast)
    calc m = base * (m / base) + m % base := (Nat.div_add_mod m base).symm
      _ = base * (n / base) + n % base := by rw [hdiv, hmod]
      _ = n := Nat.div_add_mod n base

/-- The higher digits decide, and the last one between numbers that share them. -/
theorem lt_iff_div_mod {base m n : Nat} (hbase : 0 < base) :
    m < n ↔ m / base < n / base ∨ m / base = n / base ∧ m % base < n % base := by
  have hm := Nat.div_add_mod m base
  have hn := Nat.div_add_mod n base
  have hlow := Nat.mod_lt m hbase
  have hlow' := Nat.mod_lt n hbase
  constructor
  · intro h
    rcases Nat.lt_or_eq_of_le (Nat.div_le_div_right (c := base) (Nat.le_of_lt h)) with hdiv | hdiv
    · exact Or.inl hdiv
    · rw [hdiv] at hm
      exact Or.inr ⟨hdiv, by omega⟩
  · rintro (hdiv | ⟨hdiv, hmod⟩)
    · have hstep : base * (m / base) + base ≤ base * (n / base) := by
        rw [← Nat.mul_succ]
        exact Nat.mul_le_mul_left base hdiv
      omega
    · rw [hdiv] at hm
      omega

/-- **Words of one width are ordered as their numbers**, if the digits are. -/
theorem fixedDigits_lt_iff [LT α] {digit : Nat → α} {base : Nat}
    (hdigit : ∀ i < base, ∀ j < base, digit i = digit j → i = j)
    (horder : ∀ i < base, ∀ j < base, digit i < digit j ↔ i < j) (hbase : 0 < base) :
    ∀ {width m n : Nat}, m < base ^ width → n < base ^ width →
      (fixedDigits digit base width m < fixedDigits digit base width n ↔ m < n) := by
  intro width
  induction width with
  | zero =>
    intro m n hm hn
    rw [Nat.pow_zero] at hm hn
    exact iff_of_false (List.not_lt_nil []) (by omega)
  | succ width ih =>
    intro m n hm hn
    have hm' := div_lt_pow hm
    have hn' := div_lt_pow hn
    have hsame : fixedDigits digit base width (m / base) = fixedDigits digit base width (n / base) ↔
        m / base = n / base :=
      ⟨fixedDigits_inj hdigit hbase hm' hn', fun h => by rw [h]⟩
    rw [fixedDigits, fixedDigits,
      concat_lt_concat_iff (by rw [length_fixedDigits, length_fixedDigits]), ih hm' hn', hsame,
      horder _ (Nat.mod_lt m hbase) _ (Nat.mod_lt n hbase), ← lt_iff_div_mod hbase]

end Retrywise.Foundation
