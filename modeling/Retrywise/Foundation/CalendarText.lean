import Mathlib.Algebra.Order.Ring.Nat
import Mathlib.Data.List.Basic
import Retrywise.Foundation.Datetime

/-!
# A point in time is its date and its clock time

The calendar date of a point (`Timestamp.civilDate`) is computed without a table of years.
Read back with `Timestamp.dayNumber` it gives the day it came from, so a date and a clock
time determine the point. Written with a fixed number of digits they still do: a number of
fixed width ends where its width says, whatever stands behind it.

> `dayNumber_civilDate`: the date of a point is the date of its day and of no other.
>
> `append_zeroFilled_inj`: two texts that start with numbers of one width have the same
> number and the same rest.
-/

namespace Retrywise.Foundation

namespace Timestamp

/-! ## Years of an era -/

/-- A day of an era falls in one of its 400 years: in century `c`, in the cycle `b` of four
years of that century, in year `r` of the cycle, on day `k`. -/
theorem exists_yearOfEra {dayOfEra : Nat} (h : dayOfEra < 146097) :
    ∃ c b r k, c ≤ 3 ∧ b ≤ 24 ∧ r ≤ 3 ∧ k ≤ 365 ∧ (k = 365 → r = 3) ∧
      (b = 24 → r = 3 → k = 365 → c = 3) ∧ dayOfEra = 36524 * c + 1461 * b + 365 * r + k := by
  -- the last day of the era is the 366th of its last year, not a fifth century
  have hcentury : ∃ c rem, c ≤ 3 ∧ rem ≤ 36524 ∧ (rem = 36524 → c = 3) ∧
      dayOfEra = 36524 * c + rem :=
    ⟨min 3 (dayOfEra / 36524), dayOfEra - 36524 * min 3 (dayOfEra / 36524),
      by omega, by omega, by omega, by omega⟩
  obtain ⟨c, rem, hc, hrem, hlast, hday⟩ := hcentury
  have hcycle : ∃ r k, r ≤ 3 ∧ k ≤ 365 ∧ (k = 365 → r = 3) ∧ rem % 1461 = 365 * r + k :=
    ⟨min 3 (rem % 1461 / 365), rem % 1461 - 365 * min 3 (rem % 1461 / 365),
      by omega, by omega, by omega, by omega⟩
  obtain ⟨r, k, hr, hk, hleap, hcut⟩ := hcycle
  exact ⟨c, rem / 1461, r, k, hc, by omega, hr, hk, hleap, by omega, by omega⟩

/-- What `civilDate` computes is that year, and the day that year starts on. -/
theorem yearOfEra_eq {dayOfEra c b r k : Nat} (hc : c ≤ 3) (hb : b ≤ 24) (hr : r ≤ 3)
    (hk : k ≤ 365) (hleap : k = 365 → r = 3) (hcentury : b = 24 → r = 3 → k = 365 → c = 3)
    (hday : dayOfEra = 36524 * c + 1461 * b + 365 * r + k) :
    (dayOfEra - dayOfEra / 1460 + dayOfEra / 36524 - dayOfEra / 146096) / 365 =
      100 * c + 4 * b + r := by
  have hquarter : dayOfEra / 1460 = 25 * c + b + (24 * c + b + 365 * r + k) / 1460 := by omega
  -- only the last day of the era is past the end of its century
  have hend : dayOfEra / 36524 = c + dayOfEra / 146096 := by
    by_cases hlast : b = 24 ∧ r = 3 ∧ k = 365
    · obtain ⟨rfl, rfl, rfl⟩ := hlast
      obtain rfl := hcentury rfl rfl rfl
      rw [hday]
    · have hrem : 1461 * b + 365 * r + k < 36524 := by omega
      have hcut : dayOfEra / 36524 = c := by omega
      have hnone : dayOfEra / 146096 = 0 := by omega
      rw [hcut, hnone, Nat.add_zero]
  omega

/-- The year of an era, with the day of that year. Only a year before a leap year, which has the
leap day at its end, has a 366th day. -/
theorem yearOfEra_spec {dayOfEra year : Nat} (h : dayOfEra < 146097)
    (hyear : year =
      (dayOfEra - dayOfEra / 1460 + dayOfEra / 36524 - dayOfEra / 146096) / 365) :
    year < 400 ∧ ∃ k, k ≤ 365 ∧ dayOfEra - (365 * year + year / 4 - year / 100) = k ∧
      year * 365 + year / 4 - year / 100 + k = dayOfEra ∧
      (k = 365 → (year + 1) % 4 = 0 ∧ ((year + 1) % 100 = 0 → year = 399)) := by
  obtain ⟨c, b, r, k, hc, hb, hr, hk, hleap, hcentury, hday⟩ := exists_yearOfEra h
  have hfour : (100 * c + 4 * b + r) / 4 = 25 * c + b := by omega
  have hhundred : (100 * c + 4 * b + r) / 100 = c := by omega
  rw [hyear, yearOfEra_eq hc hb hr hk hleap hcentury hday, hfour, hhundred]
  refine ⟨by omega, k, hk, by omega, by omega, fun hlast => ?_⟩
  obtain rfl := hleap hlast
  exact ⟨by omega, fun hround => by omega⟩

/-! ## Dates -/

/-- What a date is made of, with years that start in March: the era of day `day`, the year
of that era, its day `k` and the month of that day. -/
theorem exists_civilDate (t : Timestamp) :
    ∃ day year k month, day = (t.micros / 86400000000).toNat + 306 ∧ year < 400 ∧ k ≤ 365 ∧
      (k = 365 → (year + 1) % 4 = 0 ∧ ((year + 1) % 100 = 0 → year = 399)) ∧
      year * 365 + year / 4 - year / 100 + k = day % 146097 ∧ month = (5 * k + 2) / 153 ∧
      t.civilDate = (year + day / 146097 * 400 + (if month < 10 then 0 else 1),
        if month < 10 then month + 3 else month - 9, k - (153 * month + 2) / 5 + 1) := by
  obtain ⟨day, hday⟩ : ∃ day, day = (t.micros / 86400000000).toNat + 306 := ⟨_, rfl⟩
  obtain ⟨year, hyear⟩ : ∃ year, year = (day % 146097 - day % 146097 / 1460 +
    day % 146097 / 36524 - day % 146097 / 146096) / 365 := ⟨_, rfl⟩
  obtain ⟨hlt, k, hk, hcut, hback, hleap⟩ := yearOfEra_spec (Nat.mod_lt day (by omega)) hyear
  obtain ⟨month, hmonth⟩ : ∃ month, month = (5 * k + 2) / 153 := ⟨_, rfl⟩
  refine ⟨day, year, k, month, hday, hlt, hk, hleap, hback, hmonth, ?_⟩
  have hraw : t.civilDate = (year + day / 146097 * 400 +
      (if (if month < 10 then month + 3 else month - 9) ≤ 2 then 1 else 0),
      if month < 10 then month + 3 else month - 9, k - (153 * month + 2) / 5 + 1) := by
    subst hmonth hcut hyear hday
    rfl
  rw [hraw]
  -- January and February end the year that started in March
  by_cases hmarch : month < 10
  · rw [if_pos hmarch, if_pos hmarch, if_neg (by omega)]
  · rw [if_neg hmarch, if_neg hmarch, if_pos (by omega)]

/-- The day of a date is the day the date was computed from. -/
theorem dayNumber_civilDate (t : Timestamp) :
    dayNumber t.civilDate.1 t.civilDate.2.1 t.civilDate.2.2 =
      (t.micros / 86400000000).toNat := by
  obtain ⟨day, year, k, month, hday, hlt, hk, -, hback, hmonth, hdate⟩ := exists_civilDate t
  have hyears : (year + day / 146097 * 400) % 400 = year := by omega
  have heras : (year + day / 146097 * 400) / 400 = day / 146097 := by omega
  have hmonths : month ≤ 11 := by omega
  rw [hdate]
  unfold dayNumber
  dsimp only
  by_cases hmarch : month < 10
  · have hcycle : (month + 3 + 9) % 12 = month := by omega
    rw [if_pos hmarch, if_pos hmarch, if_neg (by omega), Nat.add_zero, hyears, heras, hcycle]
    omega
  · have hcycle : (month - 9 + 9) % 12 = month := by omega
    rw [if_neg hmarch, if_neg hmarch, if_pos (by omega), Nat.add_sub_cancel, hyears, heras,
      hcycle]
    omega

/-- The date of a point has a year of four digits, and a month and a day of two. -/
theorem civilDate_lt (t : Timestamp) :
    t.civilDate.1 < 10000 ∧ t.civilDate.2.1 < 100 ∧ t.civilDate.2.2 < 100 := by
  obtain ⟨day, year, k, month, hday, hlt, hk, -, hback, hmonth, hdate⟩ := exists_civilDate t
  have hrange : day < 3652365 := by
    have hmicros := t.inRange
    have hnonneg := t.nonneg
    simp only [calendarEnd] at hmicros
    omega
  rw [hdate]
  dsimp only
  by_cases hmarch : month < 10
  · rw [if_pos hmarch, if_pos hmarch]
    refine ⟨by omega, by omega, by omega⟩
  · rw [if_neg hmarch, if_neg hmarch]
    -- the last January and February of the last era are off the calendar
    have hlate : 306 ≤ k := by omega
    refine ⟨by omega, by omega, by omega⟩

/-- **The date of a point is a date of the calendar.** -/
theorem civilDate_valid (t : Timestamp) :
    1 ≤ t.civilDate.1 ∧ 1 ≤ t.civilDate.2.1 ∧ t.civilDate.2.1 ≤ 12 ∧ 1 ≤ t.civilDate.2.2 ∧
      t.civilDate.2.2 ≤ daysInMonth t.civilDate.1 t.civilDate.2.1 := by
  obtain ⟨day, year, k, month, hday, hlt, hk, hleap, hback, hmonth, hdate⟩ := exists_civilDate t
  rw [hdate]
  dsimp only
  unfold daysInMonth
  by_cases hmarch : month < 10
  · -- the months with 31 days lie so that `(153 * month + 2) / 5` counts the days before each
    have hfirst : 1 ≤ year + day / 146097 * 400 := by
      have hdays : k ≤ 305 := by omega
      omega
    rw [if_pos hmarch, if_pos hmarch, if_neg (by omega)]
    refine ⟨by omega, by omega, by omega, by omega, ?_⟩
    by_cases hshort : month + 3 ∈ [4, 6, 9, 11]
    · rw [if_pos hshort]
      simp only [List.mem_cons, List.not_mem_nil, or_false] at hshort
      omega
    · rw [if_neg hshort]
      omega
  · rw [if_neg hmarch, if_neg hmarch]
    refine ⟨by omega, by omega, by omega, by omega, ?_⟩
    by_cases hfebruary : month - 9 = 2
    · rw [if_pos hfebruary]
      by_cases hlast : k = 365
      · obtain ⟨hfour, hhundred⟩ := hleap hlast
        rw [if_pos (by omega)]
        omega
      · split
        · omega
        · omega
    · have hjanuary : month - 9 = 1 := by omega
      rw [if_neg hfebruary, hjanuary, if_neg (by decide)]
      omega

theorem clockTime_lt (t : Timestamp) :
    t.clockTime.1 < 100 ∧ t.clockTime.2.1 < 100 ∧ t.clockTime.2.2.1 < 100 ∧
      t.clockTime.2.2.2 < 1000000 := by
  simp only [clockTime]
  refine ⟨by omega, by omega, by omega, by omega⟩

/-- **A date and a clock time determine the point.** -/
theorem eq_of_civilDate_of_clockTime {s t : Timestamp} (hdate : s.civilDate = t.civilDate)
    (hclock : s.clockTime = t.clockTime) : s = t := by
  have hdays : (s.micros / 86400000000).toNat = (t.micros / 86400000000).toNat := by
    rw [← dayNumber_civilDate, hdate, dayNumber_civilDate]
  simp only [clockTime, Prod.mk.injEq] at hclock
  obtain ⟨hhour, hminute, hsecond, hmicro⟩ := hclock
  have hs := s.nonneg
  have ht := t.nonneg
  apply micros_injective
  omega

end Timestamp

/-! ## Numbers in a text -/

theorem isDigit_of_mem_repr {n : Nat} {c : Char} (h : c ∈ n.repr.toList) : c.isDigit = true := by
  rw [Nat.toList_repr] at h
  exact Nat.isDigit_of_mem_toDigits (by decide) (by decide) h

theorem eq_of_toList_repr {m n : Nat} (h : m.repr.toList = n.repr.toList) : m = n := by
  rw [Nat.toList_repr, Nat.toList_repr] at h
  rw [← Nat.ofDigitChars_ten_toDigits (n := m), h, Nat.ofDigitChars_ten_toDigits]

/-- Two texts up to the first mark. -/
theorem append_mark_inj {mark : Char} {left right rest rest' : List Char} (hleft : mark ∉ left)
    (hright : mark ∉ right) (h : left ++ mark :: rest = right ++ mark :: rest') :
    left = right := by
  induction left generalizing right with
  | nil =>
    cases right with
    | nil => rfl
    | cons c cs =>
      rw [List.nil_append, List.cons_append, List.cons.injEq] at h
      exact absurd (h.1 ▸ List.mem_cons_self) hright
  | cons c cs ih =>
    cases right with
    | nil =>
      rw [List.nil_append, List.cons_append, List.cons.injEq] at h
      exact absurd (h.1 ▸ List.mem_cons_self) hleft
    | cons d ds =>
      rw [List.cons_append, List.cons_append, List.cons.injEq] at h
      rw [h.1, ih (fun hc => hleft (List.mem_cons_of_mem _ hc))
        (fun hd => hright (List.mem_cons_of_mem _ hd)) h.2]

/-- Two texts behind the last mark. -/
theorem mark_append_inj {mark : Char} {front front' left right : List Char} (hleft : mark ∉ left)
    (hright : mark ∉ right) (h : front ++ mark :: left = front' ++ mark :: right) :
    left = right := by
  have hreversed := congrArg List.reverse h
  simp only [List.reverse_append, List.reverse_cons, List.append_assoc, List.singleton_append]
    at hreversed
  have hsame := append_mark_inj (fun hmem => hleft (List.mem_reverse.mp hmem))
    (fun hmem => hright (List.mem_reverse.mp hmem)) hreversed
  exact List.reverse_injective hsame

/-! ## Numbers of fixed width -/

theorem toList_zeroFilled (width n : Nat) :
    (zeroFilled width n).toList =
      List.replicate (width - n.repr.length) '0' ++ Nat.toDigits 10 n := by
  have hpush : ∀ (k : Nat), ("".pushn '0' k).toList = List.replicate k '0' := by
    intro k
    rw [String.pushn_eq_repeat_push]
    induction k with
    | zero => rfl
    | succ k ih =>
      rw [Nat.repeat, String.toList_push, ih, List.replicate_succ']
  rw [zeroFilled, String.toList_append, hpush, Nat.toList_repr]

theorem isDigit_of_mem_zeroFilled {width n : Nat} {c : Char}
    (h : c ∈ (zeroFilled width n).toList) : c.isDigit = true := by
  rw [toList_zeroFilled] at h
  rcases List.mem_append.mp h with hzero | hdigit
  · rw [List.eq_of_mem_replicate hzero]
    decide
  · exact Nat.isDigit_of_mem_toDigits (by decide) (by decide) hdigit

/-- The zeros in front do not change what the digits say. -/
theorem ofDigitChars_zeroFilled (width n : Nat) :
    Nat.ofDigitChars 10 (zeroFilled width n).toList 0 = n := by
  rw [toList_zeroFilled, Nat.ofDigitChars_append, Nat.ofDigitChars_replicate_zero, Nat.mul_zero,
    Nat.ofDigitChars_ten_toDigits]

theorem length_zeroFilled {width n : Nat} (hwidth : 0 < width) (h : n < 10 ^ width) :
    (zeroFilled width n).toList.length = width := by
  have hle : n.repr.length ≤ width := (Nat.length_repr_le_iff hwidth).mpr h
  have hlen : (Nat.toDigits 10 n).length = n.repr.length := by
    rw [← Nat.toList_repr, String.length_toList]
  rw [toList_zeroFilled, List.length_append, List.length_replicate, hlen]
  omega

/-- **A number of fixed width can be read off the front of a text.** -/
theorem append_zeroFilled_inj {width m n : Nat} {s t : List Char} (hwidth : 0 < width)
    (hm : m < 10 ^ width) (hn : n < 10 ^ width)
    (h : (zeroFilled width m).toList ++ s = (zeroFilled width n).toList ++ t) :
    m = n ∧ s = t := by
  have hlen : (zeroFilled width m).toList.length = (zeroFilled width n).toList.length := by
    rw [length_zeroFilled hwidth hm, length_zeroFilled hwidth hn]
  obtain ⟨hdigits, hrest⟩ := List.append_inj h hlen
  refine ⟨?_, hrest⟩
  rw [← ofDigitChars_zeroFilled width m, hdigits, ofDigitChars_zeroFilled]

end Retrywise.Foundation
