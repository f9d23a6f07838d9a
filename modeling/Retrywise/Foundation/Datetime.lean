import Mathlib.Order.Lattice
import Mathlib.Order.Basic
import Mathlib.Data.Int.Order.Basic
import Mathlib.Order.Defs.LinearOrder
import Mathlib.Data.Int.Basic

/-!
# Calendar time

Points in time as a `datetime` library has them: microseconds on the proleptic
Gregorian calendar from year 1 to year 9999, so that shifting a point can leave
the calendar (`Timestamp.add?` returns `none` there, where the library raises).

A `Datetime` is what a caller passes: a wall-clock reading with or without a UTC
offset. A `Timestamp` is a reading already normalized to UTC.
-/

namespace Retrywise.Foundation

/-- Durations, in microseconds. -/
abbrev Timedelta := Int

def seconds (n : Int) : Timedelta := n * 1000000

def minutes (n : Int) : Timedelta := seconds (n * 60)

/-- Days from 0001-01-01 to the end of 9999, in microseconds. -/
def calendarEnd : Int := 3652059 * 86400 * 1000000

/-- A point on the calendar: microseconds since 0001-01-01T00:00:00. -/
structure Timestamp where
  micros : Int
  nonneg : 0 ≤ micros
  inRange : micros < calendarEnd
deriving DecidableEq

namespace Timestamp

theorem micros_injective : Function.Injective Timestamp.micros := by
  rintro ⟨a, _, _⟩ ⟨b, _, _⟩ h
  cases h
  rfl

instance : LinearOrder Timestamp := LinearOrder.lift' Timestamp.micros micros_injective

theorem le_iff {s t : Timestamp} : s ≤ t ↔ s.micros ≤ t.micros := Iff.rfl

theorem lt_iff {s t : Timestamp} : s < t ↔ s.micros < t.micros := Iff.rfl

/-- Shift a point; `none` where the result leaves the calendar. -/
def add? (t : Timestamp) (d : Timedelta) : Option Timestamp :=
  if h : 0 ≤ t.micros + d ∧ t.micros + d < calendarEnd then some ⟨t.micros + d, h.1, h.2⟩
  else none

theorem add?_eq_some {t u : Timestamp} {d : Timedelta} :
    t.add? d = some u ↔ u.micros = t.micros + d := by
  unfold add?
  split
  next h =>
    constructor
    · intro he
      rw [← Option.some.inj he]
    · intro he
      exact congrArg some (micros_injective he.symm)
  next h =>
    constructor
    · intro he
      exact absurd he (by simp)
    · intro he
      exact absurd ⟨he ▸ u.nonneg, he ▸ u.inRange⟩ h

/-- Shifting by nothing stays on the calendar. -/
@[simp] theorem add?_zero (t : Timestamp) : t.add? 0 = some t :=
  add?_eq_some.mpr (Int.add_zero _).symm

/-- Year, month and day of a point: days are counted from 0000-03-01 so that
the leap day is the last day of its year, in eras of 400 years. -/
def civilDate (t : Timestamp) : Nat × Nat × Nat :=
  let day := (t.micros / 86400000000).toNat + 306
  let dayOfEra := day % 146097
  let yearOfEra :=
    (dayOfEra - dayOfEra / 1460 + dayOfEra / 36524 - dayOfEra / 146096) / 365
  let dayOfYear := dayOfEra - (365 * yearOfEra + yearOfEra / 4 - yearOfEra / 100)
  let monthFromMarch := (5 * dayOfYear + 2) / 153
  let dayOfMonth := dayOfYear - (153 * monthFromMarch + 2) / 5 + 1
  let month := if monthFromMarch < 10 then monthFromMarch + 3 else monthFromMarch - 9
  (yearOfEra + day / 146097 * 400 + (if month ≤ 2 then 1 else 0), month, dayOfMonth)

/-- The day of a date, counted from 0001-01-01: `civilDate` the other way round. -/
def dayNumber (year month day : Nat) : Nat :=
  let shifted := if month ≤ 2 then year - 1 else year
  let yearOfEra := shifted % 400
  let dayOfYear := (153 * ((month + 9) % 12) + 2) / 5 + day - 1
  shifted / 400 * 146097 + (yearOfEra * 365 + yearOfEra / 4 - yearOfEra / 100 + dayOfYear) - 306

/-- `calendar.monthrange(year, month)[1]`. -/
def daysInMonth (year month : Nat) : Nat :=
  if month = 2 then
    if year % 4 = 0 ∧ (year % 100 ≠ 0 ∨ year % 400 = 0) then 29 else 28
  else if month ∈ [4, 6, 9, 11] then 30
  else 31

/-- Hour, minute, second and microsecond of a point. -/
def clockTime (t : Timestamp) : Nat × Nat × Nat × Nat :=
  let micros := (t.micros % 86400000000).toNat
  (micros / 3600000000, micros / 60000000 % 60, micros / 1000000 % 60, micros % 1000000)

end Timestamp

/-- A caller's timestamp: a wall clock reading, naive or with its UTC offset. -/
inductive Datetime where
  | naive (wall : Timestamp)
  | aware (wall : Timestamp) (utcoffset : Timedelta)

/-- A UTC reading. -/
def Timestamp.toDatetime (t : Timestamp) : Datetime := .aware t 0

/-- Decimal digits, zero-filled on the left to a width. -/
def zeroFilled (width n : Nat) : String :=
  "".pushn '0' (width - n.repr.length) ++ n.repr

end Retrywise.Foundation
