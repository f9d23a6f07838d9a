import Retrywise.Foundation.CalendarText

/-!
# Reading a point in time

`strptime(text, "%Y-%m-%dT%H:%M:%S.%fZ")`. The reader takes more than the writer makes: the
numbers of a date and of a clock time may go without their leading zero, a fraction may be
shorter than six digits, the letters may be small, and some digits may come from any script.
What the writer makes is read back.

> `strptime_zeroFilled`: the text of a point, every number with its full width, is read as the
> point.
-/

namespace Retrywise.Foundation

namespace Timestamp

/-- `datetime(year, month, day, hour, minute, second, microsecond)`, in UTC. -/
def ofParts (year month day hour minute second micro : Nat) : Option Timestamp :=
  let start : Timestamp := ⟨0, by decide, by decide⟩
  if 1 ≤ year ∧ 1 ≤ month ∧ month ≤ 12 ∧ 1 ≤ day ∧ day ≤ daysInMonth year month ∧
      hour < 24 ∧ minute < 60 ∧ second < 60 then
    start.add? <| dayNumber year month day * 86400000000 + hour * 3600000000 +
      minute * 60000000 + second * 1000000 + micro
  else none

/-- A point is made of its parts. -/
theorem ofParts_civilDate_clockTime (t : Timestamp) :
    ofParts t.civilDate.1 t.civilDate.2.1 t.civilDate.2.2 t.clockTime.1 t.clockTime.2.1
      t.clockTime.2.2.1 t.clockTime.2.2.2 = some t := by
  obtain ⟨hyear, hmonth, htwelve, hday, hlength⟩ := t.civilDate_valid
  have hhour : t.clockTime.1 < 24 := by
    simp only [clockTime]
    omega
  have hminute : t.clockTime.2.1 < 60 := Nat.mod_lt _ (by decide)
  have hsecond : t.clockTime.2.2.1 < 60 := Nat.mod_lt _ (by decide)
  have hmicros : t.micros = 0 + ((t.micros / 86400000000).toNat * 86400000000 +
      t.clockTime.1 * 3600000000 + t.clockTime.2.1 * 60000000 + t.clockTime.2.2.1 * 1000000 +
        t.clockTime.2.2.2) := by
    have hnonneg := t.nonneg
    simp only [clockTime]
    omega
  unfold ofParts
  dsimp only
  rw [if_pos ⟨hyear, hmonth, htwelve, hday, hlength, hhour, hminute, hsecond⟩,
    dayNumber_civilDate, add?_eq_some]
  exact hmicros

end Timestamp

namespace TimeRead

/-! ## Digits -/

/-- The zeros of the decimal digits, script by script. -/
def decimalZeros : List Nat := [
  0x30, 0x660, 0x6F0, 0x7C0, 0x966, 0x9E6, 0xA66, 0xAE6, 0xB66, 0xBE6, 0xC66, 0xCE6, 0xD66,
  0xDE6, 0xE50, 0xED0, 0xF20, 0x1040, 0x1090, 0x17E0, 0x1810, 0x1946, 0x19D0, 0x1A80, 0x1A90,
  0x1B50, 0x1BB0, 0x1C40, 0x1C50, 0xA620, 0xA8D0, 0xA900, 0xA9D0, 0xA9F0, 0xAA50, 0xABF0, 0xFF10,
  0x104A0, 0x10D30, 0x11066, 0x110F0, 0x11136, 0x111D0, 0x112F0, 0x11450, 0x114D0, 0x11650,
  0x116C0, 0x11730, 0x118E0, 0x11950, 0x11C50, 0x11D50, 0x11DA0, 0x11F50, 0x16A60, 0x16AC0,
  0x16B50, 0x1D7CE, 0x1D7D8, 0x1D7E2, 0x1D7EC, 0x1D7F6, 0x1E140, 0x1E2F0, 0x1E4F0, 0x1E950,
  0x1FBF0]

/-- `\d`, with what it stands for. -/
def decimalDigit (c : Char) : Option Nat :=
  (decimalZeros.find? fun first => first ≤ c.toNat && c.toNat ≤ first + 9).map (c.toNat - ·)

/-- One of a range of the digits `0` to `9`. -/
def digitIn (least most c : Char) : Option Nat :=
  if least ≤ c ∧ c ≤ most then some (c.toNat - 48) else none

/-! ## Numbers -/

/-- `\d\d\d\d`. -/
def year (text : List Char) : Option Nat :=
  if text.length = 4 then (text.mapM decimalDigit).map (·.foldl (fun n d => 10 * n + d) 0)
  else none

/-- `1[0-2]|0[1-9]|[1-9]`. -/
def month : List Char → Option Nat
  | [b] => digitIn '1' '9' b
  | ['0', b] => digitIn '1' '9' b
  | ['1', b] => (digitIn '0' '2' b).map (10 + ·)
  | _ => none

/-- `3[0-1]|[1-2]\d|0[1-9]|[1-9]| [1-9]`. -/
def day : List Char → Option Nat
  | [b] => digitIn '1' '9' b
  | [' ', b] => digitIn '1' '9' b
  | ['0', b] => digitIn '1' '9' b
  | ['1', b] => (decimalDigit b).map (10 + ·)
  | ['2', b] => (decimalDigit b).map (20 + ·)
  | ['3', b] => (digitIn '0' '1' b).map (30 + ·)
  | _ => none

/-- `2[0-3]|[0-1]\d|\d`. -/
def hour : List Char → Option Nat
  | [b] => decimalDigit b
  | ['0', b] => decimalDigit b
  | ['1', b] => (decimalDigit b).map (10 + ·)
  | ['2', b] => (digitIn '0' '3' b).map (20 + ·)
  | _ => none

/-- `[0-5]\d|\d`. -/
def minute : List Char → Option Nat
  | [b] => decimalDigit b
  | [a, b] => do return 10 * (← digitIn '0' '5' a) + (← decimalDigit b)
  | _ => none

/-- `6[0-1]|[0-5]\d|\d`. -/
def second : List Char → Option Nat
  | ['6', b] => (digitIn '0' '1' b).map (60 + ·)
  | text => minute text

/-- `[0-9]{1,6}`, as so many digits of a microsecond. -/
def micro (text : List Char) : Option Nat :=
  if 1 ≤ text.length ∧ text.length ≤ 6 ∧ text.all Char.isDigit then
    some (Nat.ofDigitChars 10 (text ++ List.replicate (6 - text.length) '0') 0)
  else none

/-! ## The text -/

/-- What stands in front of a separator, and what stands behind it. -/
def field (separates : Char → Bool) (text : List Char) : Option (List Char × List Char) :=
  match text.dropWhile (!separates ·) with
  | [] => none
  | _ :: rest => some (text.takeWhile (!separates ·), rest)

/-- A letter of the format, large or small. -/
def letter (large small c : Char) : Bool := c = large || c = small

end TimeRead

open TimeRead in
/-- `strptime(text, "%Y-%m-%dT%H:%M:%S.%fZ")`; `none` where it raises. -/
def strptime (text : String) : Option Timestamp := do
  let (yearText, rest) ← field (· = '-') text.toList
  let (monthText, rest) ← field (· = '-') rest
  let (dayText, rest) ← field (letter 'T' 't') rest
  let (hourText, rest) ← field (· = ':') rest
  let (minuteText, rest) ← field (· = ':') rest
  let (secondText, rest) ← field (· = '.') rest
  let (microText, rest) ← field (letter 'Z' 'z') rest
  guard (rest = [])
  Timestamp.ofParts (← year yearText) (← month monthText) (← day dayText) (← hour hourText)
    (← minute minuteText) (← second secondText) (← micro microText)

/-! ## What the writer makes -/

namespace TimeRead

/-- A field without its separator in it is read up to it. -/
theorem field_append {separates : Char → Bool} {digits rest : List Char} {c : Char}
    (hdigits : ∀ d ∈ digits, separates d = false) (hc : separates c = true) :
    field separates (digits ++ c :: rest) = some (digits, rest) := by
  have hall : ∀ d ∈ digits, (!separates d) = true := fun d hd => by rw [hdigits d hd]; rfl
  have hstop : ¬(!separates c) = true := by simp [hc]
  have hdrop : (digits ++ c :: rest).dropWhile (!separates ·) = c :: rest := by
    rw [List.dropWhile_append_of_pos hall]
    exact List.dropWhile_cons_of_neg hstop
  have htake : (digits ++ c :: rest).takeWhile (!separates ·) = digits := by
    rw [List.takeWhile_append_of_pos hall]
    exact (congrArg (digits ++ ·) (List.takeWhile_cons_of_neg hstop)).trans (List.append_nil _)
  unfold field
  rw [hdrop, htake]

/-- A number is read up to a mark behind it. -/
theorem field_mark (mark : Char) (hmark : mark.isDigit = false) (width n : Nat)
    (rest : List Char) : field (· = mark) ((zeroFilled width n).toList ++ mark :: rest) =
      some ((zeroFilled width n).toList, rest) := by
  refine field_append (fun d hd => decide_eq_false ?_) (decide_eq_true rfl)
  rintro rfl
  exact absurd ((isDigit_of_mem_zeroFilled hd).symm.trans hmark) (by decide)

/-- A number is read up to a letter behind it. -/
theorem field_letter (large small : Char) (hlarge : large.isDigit = false)
    (hsmall : small.isDigit = false) (width n : Nat) (rest : List Char) :
    field (letter large small) ((zeroFilled width n).toList ++ large :: rest) =
      some ((zeroFilled width n).toList, rest) := by
  refine field_append (fun d hd => ?_) (by simp [letter])
  have hdigit := isDigit_of_mem_zeroFilled hd
  have hne : d ≠ large ∧ d ≠ small := by
    constructor
    · rintro rfl
      exact absurd (hdigit.symm.trans hlarge) (by decide)
    · rintro rfl
      exact absurd (hdigit.symm.trans hsmall) (by decide)
  simp [letter, hne]

/-- Two digits are the tens and the ones. -/
theorem toList_zeroFilled_two {n : Nat} (h : n < 100) :
    (zeroFilled 2 n).toList = [Nat.digitChar (n / 10), Nat.digitChar (n % 10)] := by
  have hlength : n.repr.length = (Nat.toDigits 10 n).length := by
    rw [← String.length_toList, Nat.toList_repr]
  rw [toList_zeroFilled, hlength]
  by_cases hsmall : n < 10
  · rw [Nat.toDigits_of_lt_base hsmall, Nat.div_eq_of_lt hsmall, Nat.mod_eq_of_lt hsmall]
    rfl
  · rw [Nat.toDigits_of_base_le (by decide) (by omega), Nat.toDigits_of_lt_base (by omega)]
    rfl

theorem toNat_of_isDigit {c : Char} (h : c.isDigit = true) : 48 ≤ c.toNat ∧ c.toNat ≤ 57 := by
  simp only [Char.isDigit, Bool.and_eq_true, decide_eq_true_eq, ge_iff_le,
    UInt32.le_iff_toNat_le] at h
  exact h

theorem decimalDigit_of_isDigit {c : Char} (h : c.isDigit = true) :
    decimalDigit c = some (c.toNat - 48) := by
  have hrange := toNat_of_isDigit h
  have hfirst : (decide (0x30 ≤ c.toNat) && decide (c.toNat ≤ 0x30 + 9)) = true := by
    simp only [Bool.and_eq_true, decide_eq_true_eq]
    omega
  have hfound : decimalZeros.find? (fun first => decide (first ≤ c.toNat) &&
      decide (c.toNat ≤ first + 9)) = some 0x30 := by
    unfold decimalZeros
    exact List.find?_cons_of_pos hfirst
  rw [decimalDigit, hfound]
  rfl

theorem mapM_decimalDigit {digits : List Char} (h : ∀ c ∈ digits, c.isDigit = true) :
    digits.mapM decimalDigit = some (digits.map fun c => c.toNat - 48) := by
  induction digits with
  | nil => rfl
  | cons c digits ih =>
    rw [List.mapM_cons, decimalDigit_of_isDigit (h c List.mem_cons_self),
      ih fun d hd => h d (List.mem_cons_of_mem _ hd)]
    rfl

theorem year_zeroFilled {n : Nat} (h : n < 10000) : year (zeroFilled 4 n).toList = some n := by
  rw [year, if_pos (length_zeroFilled (by decide) h),
    mapM_decimalDigit fun c => isDigit_of_mem_zeroFilled,
    Option.map_some, List.foldl_map]
  refine congrArg some (Eq.trans ?_ (ofDigitChars_zeroFilled 4 n))
  rw [Nat.ofDigitChars_eq_foldl]
  rfl

theorem month_zeroFilled {n : Nat} (hlow : 1 ≤ n) (hhigh : n ≤ 12) :
    month (zeroFilled 2 n).toList = some n := by
  have hall : ∀ m < 13, 1 ≤ m →
      month [Nat.digitChar (m / 10), Nat.digitChar (m % 10)] = some m := by decide
  rw [toList_zeroFilled_two (by omega)]
  exact hall n (by omega) hlow

theorem day_zeroFilled {n : Nat} (hlow : 1 ≤ n) (hhigh : n ≤ 31) :
    day (zeroFilled 2 n).toList = some n := by
  have hall : ∀ m < 32, 1 ≤ m →
      day [Nat.digitChar (m / 10), Nat.digitChar (m % 10)] = some m := by decide
  rw [toList_zeroFilled_two (by omega)]
  exact hall n (by omega) hlow

theorem hour_zeroFilled {n : Nat} (h : n < 24) : hour (zeroFilled 2 n).toList = some n := by
  have hall : ∀ m < 24, hour [Nat.digitChar (m / 10), Nat.digitChar (m % 10)] = some m := by
    decide
  rw [toList_zeroFilled_two (by omega)]
  exact hall n h

theorem minute_zeroFilled {n : Nat} (h : n < 60) : minute (zeroFilled 2 n).toList = some n := by
  have hall : ∀ m < 60, minute [Nat.digitChar (m / 10), Nat.digitChar (m % 10)] = some m := by
    decide
  rw [toList_zeroFilled_two (by omega)]
  exact hall n h

theorem second_zeroFilled {n : Nat} (h : n < 60) : second (zeroFilled 2 n).toList = some n := by
  have hall : ∀ m < 60, second [Nat.digitChar (m / 10), Nat.digitChar (m % 10)] = some m := by
    decide
  rw [toList_zeroFilled_two (by omega)]
  exact hall n h

theorem micro_zeroFilled {n : Nat} (h : n < 1000000) :
    micro (zeroFilled 6 n).toList = some n := by
  have hlength := length_zeroFilled (by decide) (show n < 10 ^ 6 from h)
  have hdigits : (zeroFilled 6 n).toList.all Char.isDigit = true :=
    List.all_eq_true.mpr fun c hc => isDigit_of_mem_zeroFilled hc
  rw [micro, if_pos ⟨by omega, by omega, hdigits⟩, hlength]
  show some (Nat.ofDigitChars 10 ((zeroFilled 6 n).toList ++ []) 0) = some n
  rw [List.append_nil, ofDigitChars_zeroFilled]

end TimeRead

open TimeRead in
/-- **The text of a point is read as the point.** -/
theorem strptime_zeroFilled (t : Timestamp) :
    strptime (zeroFilled 4 t.civilDate.1 ++ "-" ++ zeroFilled 2 t.civilDate.2.1 ++ "-" ++
      zeroFilled 2 t.civilDate.2.2 ++ "T" ++ zeroFilled 2 t.clockTime.1 ++ ":" ++
      zeroFilled 2 t.clockTime.2.1 ++ ":" ++ zeroFilled 2 t.clockTime.2.2.1 ++ "." ++
      zeroFilled 6 t.clockTime.2.2.2 ++ "Z") = some t := by
  obtain ⟨-, hmonth, htwelve, hday, hlength⟩ := t.civilDate_valid
  obtain ⟨hyear, -, -⟩ := t.civilDate_lt
  have hthirty : t.civilDate.2.2 ≤ 31 := by
    refine hlength.trans ?_
    unfold Timestamp.daysInMonth
    split_ifs
    · decide
    · decide
    · decide
    · decide
  have hhour : t.clockTime.1 < 24 := by
    simp only [Timestamp.clockTime]
    omega
  have htext : (zeroFilled 4 t.civilDate.1 ++ "-" ++ zeroFilled 2 t.civilDate.2.1 ++ "-" ++
      zeroFilled 2 t.civilDate.2.2 ++ "T" ++ zeroFilled 2 t.clockTime.1 ++ ":" ++
      zeroFilled 2 t.clockTime.2.1 ++ ":" ++ zeroFilled 2 t.clockTime.2.2.1 ++ "." ++
      zeroFilled 6 t.clockTime.2.2.2 ++ "Z").toList =
      (zeroFilled 4 t.civilDate.1).toList ++ '-' :: ((zeroFilled 2 t.civilDate.2.1).toList ++
        '-' :: ((zeroFilled 2 t.civilDate.2.2).toList ++ 'T' ::
          ((zeroFilled 2 t.clockTime.1).toList ++ ':' :: ((zeroFilled 2 t.clockTime.2.1).toList ++
            ':' :: ((zeroFilled 2 t.clockTime.2.2.1).toList ++ '.' ::
              ((zeroFilled 6 t.clockTime.2.2.2).toList ++ ['Z'])))))) := by
    simp
  have hminute : t.clockTime.2.1 < 60 := Nat.mod_lt _ (by decide)
  have hsecond : t.clockTime.2.2.1 < 60 := Nat.mod_lt _ (by decide)
  unfold strptime
  rw [htext]
  -- field by field, each with its full width
  refine Option.bind_eq_some_iff.mpr ⟨_, field_mark '-' rfl _ _ _, ?_⟩
  refine Option.bind_eq_some_iff.mpr ⟨_, field_mark '-' rfl _ _ _, ?_⟩
  refine Option.bind_eq_some_iff.mpr ⟨_, field_letter 'T' 't' rfl rfl _ _ _, ?_⟩
  refine Option.bind_eq_some_iff.mpr ⟨_, field_mark ':' rfl _ _ _, ?_⟩
  refine Option.bind_eq_some_iff.mpr ⟨_, field_mark ':' rfl _ _ _, ?_⟩
  refine Option.bind_eq_some_iff.mpr ⟨_, field_mark '.' rfl _ _ _, ?_⟩
  refine Option.bind_eq_some_iff.mpr ⟨_, field_letter 'Z' 'z' rfl rfl _ _ _, ?_⟩
  refine Option.bind_eq_some_iff.mpr ⟨(), rfl, ?_⟩
  refine Option.bind_eq_some_iff.mpr ⟨_, year_zeroFilled hyear, ?_⟩
  refine Option.bind_eq_some_iff.mpr ⟨_, month_zeroFilled hmonth htwelve, ?_⟩
  refine Option.bind_eq_some_iff.mpr ⟨_, day_zeroFilled hday hthirty, ?_⟩
  refine Option.bind_eq_some_iff.mpr ⟨_, hour_zeroFilled hhour, ?_⟩
  refine Option.bind_eq_some_iff.mpr ⟨_, minute_zeroFilled hminute, ?_⟩
  refine Option.bind_eq_some_iff.mpr ⟨_, second_zeroFilled hsecond, ?_⟩
  refine Option.bind_eq_some_iff.mpr ⟨_, micro_zeroFilled t.clockTime_lt.2.2.2, ?_⟩
  exact t.ofParts_civilDate_clockTime

end Retrywise.Foundation
