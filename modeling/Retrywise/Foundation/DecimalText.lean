import Retrywise.Foundation.CalendarText
import Mathlib.Algebra.Order.Field.Basic
import Mathlib.Data.List.DropRight

/-!
# Decimal places

A number with a fixed count of decimal places is written with all its digits, and printed
without the zeros at its end. More places are more zeros, so how many there were is not in
the print; the digits before them are.

> `shortened_zeroFilled_mul_ten`: another place does not change the print.

> `shortened_inj`: two prints of numbers with as many digits are equal only if the numbers
> are.
-/

namespace Retrywise.Foundation

/-! ## Another digit -/

theorem toDigits_mul_ten {n : Nat} (h : 0 < n) :
    Nat.toDigits 10 (n * 10) = Nat.toDigits 10 n ++ ['0'] := by
  rw [Nat.toDigits_of_base_le (by decide) (by omega), Nat.mul_div_cancel _ (by decide),
    Nat.mul_mod_left]
  rfl

/-- A zero behind the digits of a number is another digit of its tenfold. -/
theorem zeroFilled_mul_ten {width : Nat} (hwidth : 0 < width) (n : Nat) :
    (zeroFilled (width + 1) (n * 10)).toList = (zeroFilled width n).toList ++ ['0'] := by
  have hlength : ∀ m : Nat, m.repr.length = (Nat.toDigits 10 m).length := by
    intro m
    rw [← String.length_toList, Nat.toList_repr]
  rw [toList_zeroFilled, toList_zeroFilled, hlength, hlength]
  rcases Nat.eq_zero_or_pos n with rfl | hpos
  · -- nothing but zeros: the number itself is the last one
    obtain ⟨w, rfl⟩ : ∃ w, width = w + 1 := ⟨width - 1, by omega⟩
    show List.replicate (w + 1) '0' ++ ['0'] = List.replicate w '0' ++ ['0'] ++ ['0']
    rw [List.replicate_succ']
  · rw [toDigits_mul_ten hpos, List.length_append, List.length_singleton,
      Nat.add_sub_add_right, List.append_assoc]

/-! ## Without the zeros at the end -/

/-- A digit and the places behind it, up to the last one that counts. -/
def shortened : List Char → List Char
  | [] => []
  | digit :: places =>
    digit ::
      match places.rdropWhile (· = '0') with
      | [] => []
      | rest => '.' :: rest

theorem shortened_concat_zero {digits : List Char} (h : digits ≠ []) :
    shortened (digits ++ ['0']) = shortened digits := by
  cases digits with
  | nil => exact absurd rfl h
  | cons digit places =>
    rw [List.cons_append, shortened, shortened, List.rdropWhile_concat_pos _ _ _ (by decide)]

/-- **Another place is not in the print.** -/
theorem shortened_zeroFilled_mul_ten {width : Nat} (hwidth : 0 < width) {n : Nat}
    (h : n < 10 ^ width) :
    shortened (zeroFilled (width + 1) (n * 10)).toList = shortened (zeroFilled width n).toList := by
  have hlen := length_zeroFilled hwidth h
  rw [zeroFilled_mul_ten hwidth]
  refine shortened_concat_zero (List.ne_nil_of_length_pos ?_)
  omega

/-- What is dropped at the end of a list is zeros. -/
theorem eq_rdropWhile_append_replicate (places : List Char) :
    places = places.rdropWhile (· = '0') ++
      List.replicate (places.length - (places.rdropWhile (· = '0')).length) '0' := by
  have hsplit := List.rdropWhile_append_rtakeWhile (l := places) (p := (· = '0'))
  have hzeros : places.rtakeWhile (· = '0') =
      List.replicate (places.rtakeWhile (· = '0')).length '0' := by
    refine List.eq_replicate_iff.mpr ⟨rfl, fun c hc => ?_⟩
    simpa using List.mem_rtakeWhile_imp hc
  have hcount : (places.rtakeWhile (· = '0')).length =
      places.length - (places.rdropWhile (· = '0')).length := by
    have hlength := congrArg List.length hsplit
    rw [List.length_append] at hlength
    omega
  rw [← hcount, ← hzeros, hsplit]

theorem eq_of_rdropWhile_eq {left right : List Char} (hlen : left.length = right.length)
    (h : left.rdropWhile (· = '0') = right.rdropWhile (· = '0')) : left = right := by
  rw [eq_rdropWhile_append_replicate left, eq_rdropWhile_append_replicate right, h, hlen]

/-- As many digits with the same print are the same digits. -/
theorem eq_of_shortened_eq {left right : List Char} (hlen : left.length = right.length)
    (h : shortened left = shortened right) : left = right := by
  cases left with
  | nil => exact (List.length_eq_zero_iff.mp hlen.symm).symm
  | cons d places =>
    cases right with
    | nil => exact absurd hlen (by simp)
    | cons e places' =>
      rw [shortened, shortened, List.cons.injEq] at h
      obtain ⟨hdigit, hrest⟩ := h
      have hplaces : places.rdropWhile (· = '0') = places'.rdropWhile (· = '0') := by
        split at hrest
        next hleft =>
          split at hrest
          next hright => rw [hleft, hright]
          next => exact absurd hrest (by simp)
        next =>
          split at hrest
          next => exact absurd hrest (by simp)
          next => exact (List.cons.inj hrest).2
      rw [hdigit, eq_of_rdropWhile_eq (Nat.succ.inj hlen) hplaces]

/-- **A print says which number it is, for a given count of digits.** -/
theorem shortened_inj {width m n : Nat} (hwidth : 0 < width) (hm : m < 10 ^ width)
    (hn : n < 10 ^ width)
    (h : shortened (zeroFilled width m).toList = shortened (zeroFilled width n).toList) :
    m = n := by
  have hlen : (zeroFilled width m).toList.length = (zeroFilled width n).toList.length := by
    rw [length_zeroFilled hwidth hm, length_zeroFilled hwidth hn]
  rw [← ofDigitChars_zeroFilled width m, eq_of_shortened_eq hlen h, ofDigitChars_zeroFilled]

/-! ## The print with a point -/

/-- Dropping at the end stops at what is not to be dropped. -/
theorem rdropWhile_append_cons {p : Char → Bool} {c : Char} (h : p c = false)
    (lead rest : List Char) :
    (lead ++ c :: rest).rdropWhile p = lead ++ c :: rest.rdropWhile p := by
  induction rest using List.reverseRecOn with
  | nil =>
    rw [List.rdropWhile_nil, List.rdropWhile_concat_neg _ _ _ (by simp [h])]
  | append_singleton front last ih =>
    rw [← List.cons_append, ← List.append_assoc, List.rdropWhile_concat, List.rdropWhile_concat]
    split
    · exact ih
    · rw [List.append_assoc, List.cons_append]

/-- `rendered.rstrip("0").rstrip(".")`, of digits with a point behind the first one. -/
theorem rstrip_pointed {lead places : List Char} {digit : Char} (hdigit : digit ≠ '.')
    (hplaces : ∀ c ∈ places, c ≠ '.') :
    ((lead ++ digit :: '.' :: places).rdropWhile (· = '0')).rdropWhile (· = '.') =
      lead ++ shortened (digit :: places) := by
  have hpoint : (lead ++ digit :: '.' :: places).rdropWhile (· = '0') =
      (lead ++ [digit]) ++ '.' :: places.rdropWhile (· = '0') := by
    rw [← rdropWhile_append_cons (by decide)]
    simp only [List.append_assoc, List.cons_append, List.nil_append]
  rw [hpoint, shortened]
  split
  next hnone =>
    rw [hnone, List.rdropWhile_concat_pos _ _ _ (by decide),
      List.rdropWhile_concat_neg _ _ _ (by simpa using hdigit)]
  next rest hsome =>
    -- the last place that counts is no point
    have hlast : ∀ hne : (lead ++ [digit]) ++ '.' :: places.rdropWhile (· = '0') ≠ [],
        ¬((((lead ++ [digit]) ++ '.' :: places.rdropWhile (· = '0')).getLast hne) = '.') := by
      intro hne
      obtain ⟨front, last, hconcat⟩ :=
        (List.eq_nil_or_concat (places.rdropWhile (· = '0'))).resolve_left fun hnil => hsome hnil
      have hmem : last ∈ places := by
        refine (List.rdropWhile_prefix (· = '0') places).subset ?_
        rw [hconcat]
        simp
      have hlist : (lead ++ [digit]) ++ '.' :: places.rdropWhile (· = '0') =
          ((lead ++ [digit]) ++ '.' :: front) ++ [last] := by
        rw [hconcat]
        simp
      rw [List.getLast_congr _ (by simp) hlist, List.getLast_append_singleton]
      exact hplaces last hmem
    rw [List.rdropWhile_eq_self_iff.mpr (by simpa using hlast)]
    simp only [List.append_assoc, List.cons_append, List.nil_append]

end Retrywise.Foundation
