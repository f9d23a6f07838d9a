import Retrywise.ControlPlane.Boundary
import Retrywise.Domain.ProposalIdentity
import Retrywise.Foundation.TimeRead

/-!
# Reading a probability

`Probability(text)` of `values.py`, with the decimal numbers that the library reads: blanks
around a number, underscores in it and digits of any script are all taken. The bounds of the
library on exponents, far beyond any number that a text of the codec has room for, are not
here.

> `exists_probabilityOf_toPrimitive`: the text of a probability is read as the same number with
> the same sign.
-/

namespace Retrywise.ControlPlane

open Retrywise.Foundation Retrywise.Domain

/-! ## Decimals -/

/-- A digit of any script is taken for the digit it stands for. -/
def asciiDigit (c : Char) : Char :=
  match TimeRead.decimalDigit c with
  | some digit => Nat.digitChar digit
  | none => c

/-- `text.strip()`. -/
def strip (text : List Char) : List Char := (text.dropWhile isSpace).rdropWhile isSpace

/-- `\d+`, to the end. -/
def wholeNumber (text : List Char) : Option Nat :=
  if text ≠ [] ∧ text.all Char.isDigit then some (Nat.ofDigitChars 10 text 0) else none

/-- `(E[-+]?\d+)?`, to the end. -/
def decimalExponent : List Char → Option Int
  | [] => some 0
  | e :: rest =>
    if e = 'e' ∨ e = 'E' then
      match rest with
      | '-' :: digits => (wholeNumber digits).map fun n => -(n : Int)
      | '+' :: digits => (wholeNumber digits).map Int.ofNat
      | digits => (wholeNumber digits).map Int.ofNat
    else none

/-- `\d*(\.\d*)?(E[-+]?\d+)?` with at least one digit. -/
def decimalNumber (negative : Bool) (text : List Char) : Option Decimal :=
  let whole := text.takeWhile Char.isDigit
  let (places, behind) :=
    match text.dropWhile Char.isDigit with
    | '.' :: rest => (rest.takeWhile Char.isDigit, rest.dropWhile Char.isDigit)
    | rest => ([], rest)
  if whole = [] ∧ places = [] then none
  else
    (decimalExponent behind).map fun exponent =>
      ⟨negative, Nat.ofDigitChars 10 (whole ++ places) 0, exponent - places.length⟩

/-- `Inf(inity)?|s?NaN\d*`, of any case. -/
def isSpecial (text : List Char) : Bool :=
  match text.map Char.toLower with
  | ['i', 'n', 'f'] => true
  | ['i', 'n', 'f', 'i', 'n', 'i', 't', 'y'] => true
  | 'n' :: 'a' :: 'n' :: digits => digits.all Char.isDigit
  | 's' :: 'n' :: 'a' :: 'n' :: digits => digits.all Char.isDigit
  | _ => false

/-- A sign and what stands behind it. -/
def signed : List Char → Bool × List Char
  | '-' :: rest => (true, rest)
  | '+' :: rest => (false, rest)
  | rest => (false, rest)

/-- `Decimal(text)`: `none` where it raises, and `some none` for what is not finite. -/
def decimalOf (text : String) : Option (Option Decimal) :=
  let (negative, unsigned) :=
    signed (((strip text.toList).filter (· ≠ '_')).map asciiDigit)
  if isSpecial unsigned then some none else (decimalNumber negative unsigned).map some

/-- `Probability(text)`. -/
def probabilityOf (text : String) : Except DomainError Probability :=
  match decimalOf text with
  | none => .error (.invalidValue "probability is not a valid decimal")
  | some none => .error (.invalidValue "probability must be finite and within [0, 1]")
  | some (some d) =>
    if h : 0 ≤ d.value ∧ d.value ≤ 1 then .ok ⟨d, h.1, h.2⟩
    else .error (.invalidValue "probability must be finite and within [0, 1]")

/-! ## A print is read back -/

/-- What a print is made of. -/
def Prints (c : Char) : Prop := c.isDigit = true ∨ c = '-' ∨ c = '.'

/-- A digit is one of ten. -/
theorem exists_digitChar {c : Char} (h : c.isDigit = true) : ∃ n < 10, c = Nat.digitChar n := by
  have hrange := TimeRead.toNat_of_isDigit h
  have hall : ∀ n < 10, Nat.digitChar n = Char.ofNat (48 + n) := by decide
  have hsum : 48 + (c.toNat - 48) = c.toNat := by omega
  refine ⟨c.toNat - 48, by omega, ?_⟩
  rw [hall _ (by omega), hsum, Char.ofNat_toNat]

theorem asciiDigit_of_prints {c : Char} (h : Prints c) : asciiDigit c = c := by
  rcases h with hdigit | rfl | rfl
  · obtain ⟨n, hn, rfl⟩ := exists_digitChar hdigit
    have hall : ∀ m < 10, asciiDigit (Nat.digitChar m) = Nat.digitChar m := by decide
    exact hall n hn
  · decide
  · decide

theorem isSpace_of_prints {c : Char} (h : Prints c) : isSpace c = false := by
  rcases h with hdigit | rfl | rfl
  · have hrange := TimeRead.toNat_of_isDigit hdigit
    simp only [isSpace, Bool.or_eq_false_iff, Bool.and_eq_false_iff, decide_eq_false_iff_not]
    omega
  · decide
  · decide

theorem ne_underscore_of_prints {c : Char} (h : Prints c) : c ≠ '_' := by
  rintro rfl
  rcases h with h | h | h
  · exact absurd h (by decide)
  · exact absurd h (by decide)
  · exact absurd h (by decide)

/-- Nothing of a print is dropped or changed before it is read. -/
theorem plain_of_prints {text : List Char} (h : ∀ c ∈ text, Prints c) :
    ((strip text).filter (· ≠ '_')).map asciiDigit = text := by
  have hfront : text.dropWhile isSpace = text := by
    cases text with
    | nil => rfl
    | cons c rest =>
      exact List.dropWhile_cons_of_neg (by simp [isSpace_of_prints (h c List.mem_cons_self)])
  have hback : text.rdropWhile isSpace = text := by
    rw [List.rdropWhile_eq_self_iff]
    intro hne
    simp [isSpace_of_prints (h _ (List.getLast_mem hne))]
  have hfilter : text.filter (· ≠ '_') = text := by
    refine List.filter_eq_self.mpr fun c hc => ?_
    simpa using ne_underscore_of_prints (h c hc)
  have hmap : text.map asciiDigit = text.map id :=
    List.map_congr_left fun c hc => asciiDigit_of_prints (h c hc)
  rw [strip, hfront, hback, hfilter, hmap, List.map_id]

theorem isSpecial_of_digit {digit : Char} (h : digit.isDigit = true) (rest : List Char) :
    isSpecial (digit :: rest) = false := by
  obtain ⟨n, hn, rfl⟩ := exists_digitChar h
  have hall : ∀ m < 10, (Nat.digitChar m).toLower ≠ 'i' ∧ (Nat.digitChar m).toLower ≠ 'n' ∧
      (Nat.digitChar m).toLower ≠ 's' := by decide
  obtain ⟨hi, hnan, hs⟩ := hall n hn
  unfold isSpecial
  rw [List.map_cons]
  split
  next heq => exact absurd (List.cons.inj heq).1 hi
  next heq => exact absurd (List.cons.inj heq).1 hi
  next heq => exact absurd (List.cons.inj heq).1 hnan
  next heq => exact absurd (List.cons.inj heq).1 hs
  next => rfl

/-- The digits of a print, without the zeros at their end. -/
theorem shortened_cons (digit : Char) (places : List Char) :
    ∀ kept, places.rdropWhile (· = '0') = kept → shortened (digit :: places) =
      digit :: match kept with
        | [] => []
        | rest => '.' :: rest := by
  rintro _ rfl
  rfl

theorem decimalNumber_shortened (negative : Bool) {digit : Char} {places : List Char}
    (hdigit : digit.isDigit = true) (hplaces : ∀ c ∈ places, c.isDigit = true) :
    decimalNumber negative (shortened (digit :: places)) =
      some ⟨negative, Nat.ofDigitChars 10 (digit :: places.rdropWhile (· = '0')) 0,
        -((places.rdropWhile (· = '0')).length : Int)⟩ := by
  have hpoint : ¬('.' : Char).isDigit = true := by decide
  obtain ⟨kept, hkept⟩ : ∃ kept, places.rdropWhile (· = '0') = kept := ⟨_, rfl⟩
  have hall : ∀ c ∈ kept, c.isDigit = true := fun c hc =>
    hplaces c ((List.rdropWhile_prefix _ _).subset (hkept ▸ hc))
  rw [shortened_cons digit places kept hkept, hkept, decimalNumber]
  cases kept with
  | nil =>
    simp [List.takeWhile_cons_of_pos hdigit, List.dropWhile_cons_of_pos hdigit, decimalExponent]
  | cons c rest =>
    have htake : (c :: rest).takeWhile Char.isDigit = c :: rest :=
      List.takeWhile_eq_self_iff.mpr hall
    have hdrop : (c :: rest).dropWhile Char.isDigit = [] := List.dropWhile_eq_nil_iff.mpr hall
    simp only [List.takeWhile_cons_of_pos hdigit, List.dropWhile_cons_of_pos hdigit,
      List.takeWhile_cons_of_neg hpoint, List.dropWhile_cons_of_neg hpoint, htake, hdrop]
    simp [decimalExponent]

/-- The text of a sign and a print. -/
theorem decimalOf_print (p : Probability) {digit : Char} {places : List Char}
    (hdigit : digit.isDigit = true) (hplaces : ∀ c ∈ places, c.isDigit = true)
    (htext : p.toPrimitive.toList = p.sign ++ shortened (digit :: places)) :
    decimalOf p.toPrimitive =
      some (some ⟨p.value.negative, Nat.ofDigitChars 10 (digit :: places.rdropWhile (· = '0')) 0,
        -((places.rdropWhile (· = '0')).length : Int)⟩) := by
  obtain ⟨tail, htail, hprints⟩ : ∃ tail, shortened (digit :: places) = digit :: tail ∧
      ∀ c ∈ tail, Prints c := by
    refine ⟨_, rfl, fun c hc => ?_⟩
    split at hc
    · exact absurd hc List.not_mem_nil
    · rcases List.mem_cons.mp hc with rfl | hc
      · exact .inr (.inr rfl)
      · exact .inl (hplaces c ((List.rdropWhile_prefix _ _).subset hc))
  have hall : ∀ c ∈ p.toPrimitive.toList, Prints c := by
    rw [htext, htail]
    intro c hc
    rcases List.mem_append.mp hc with hsign | hc
    · unfold Probability.sign at hsign
      split at hsign
      · exact .inr (.inl (List.mem_singleton.mp hsign))
      · exact absurd hsign List.not_mem_nil
    · rcases List.mem_cons.mp hc with rfl | hc
      · exact .inl hdigit
      · exact hprints c hc
  have hsigned : signed (p.sign ++ digit :: tail) = (p.value.negative, digit :: tail) := by
    unfold Probability.sign
    split
    next hnegative => rw [hnegative]; rfl
    next hpositive =>
      have hminus : digit ≠ '-' := by
        rintro rfl
        exact absurd hdigit (by decide)
      have hplus : digit ≠ '+' := by
        rintro rfl
        exact absurd hdigit (by decide)
      rw [Bool.not_eq_true] at hpositive
      rw [hpositive, List.nil_append]
      unfold signed
      split
      next heq => exact absurd (List.cons.inj heq).1 hminus
      next heq => exact absurd (List.cons.inj heq).1 hplus
      next => rfl
  have hnumber := decimalNumber_shortened p.value.negative hdigit hplaces
  rw [htail] at htext hnumber
  rw [decimalOf, plain_of_prints hall, htext, hsigned]
  dsimp only
  rw [isSpecial_of_digit hdigit, if_neg (by decide), hnumber]
  rfl

/-- The zeros at the end of the places are powers of ten. -/
theorem ofDigitChars_places (digit : Char) (places : List Char) :
    Nat.ofDigitChars 10 (digit :: places) 0 =
      10 ^ (places.length - (places.rdropWhile (· = '0')).length) *
        Nat.ofDigitChars 10 (digit :: places.rdropWhile (· = '0')) 0 := by
  have hsplit : digit :: places = digit :: places.rdropWhile (· = '0') ++
      List.replicate (places.length - (places.rdropWhile (· = '0')).length) '0' :=
    congrArg (digit :: ·) (eq_rdropWhile_append_replicate places)
  calc Nat.ofDigitChars 10 (digit :: places) 0
      = Nat.ofDigitChars 10 (digit :: places.rdropWhile (· = '0') ++
          List.replicate (places.length - (places.rdropWhile (· = '0')).length) '0') 0 := by
        rw [← hsplit]
    _ = _ := by rw [Nat.ofDigitChars_append, Nat.ofDigitChars_replicate_zero]

/-- What is read of a print of the units of a number is the number. -/
theorem value_print (p : Probability) {n kept coefficient : Nat} (hkept : kept ≤ n)
    (hplaces : 0 ≤ p.value.exponent + n) (hunits : p.units n = 10 ^ (n - kept) * coefficient) :
    Decimal.value ⟨p.value.negative, coefficient, -(kept : Int)⟩ = p.value.value := by
  have hten : (10 : Rat) ≠ 0 := by decide
  have hpower : (10 : Rat) ^ n ≠ 0 := pow_ne_zero _ hten
  have hnumber : (coefficient : Rat) * 10 ^ (-(kept : Int)) = p.value.value := by
    have hcast := p.cast_units hplaces
    have hsum : n = n - kept + kept := by omega
    have hshift : (10 : Rat) ^ (-(kept : Int)) * 10 ^ n = 10 ^ (n - kept) := by
      rw [← zpow_natCast, ← zpow_add₀ hten, ← zpow_natCast]
      congr 1
      omega
    rw [hunits, Nat.cast_mul, Nat.cast_pow, Nat.cast_ofNat] at hcast
    rw [← mul_left_inj' hpower, ← hcast, mul_assoc, hshift, mul_comm]
  by_cases hnegative : p.value.negative = true
  · -- a number with a minus is zero, and so are its digits
    have hzero : p.units n = 0 := by
      rw [Probability.units, p.coefficient_of_negative hnegative, Nat.zero_mul]
    have hdigits : coefficient = 0 := by
      rw [hzero] at hunits
      exact (Nat.mul_eq_zero.mp hunits.symm).resolve_left
        (Nat.pos_iff_ne_zero.mp (Nat.pow_pos (by decide)))
    rw [← hnumber, Decimal.value, hdigits]
    simp
  · rw [Decimal.value, if_neg hnegative, one_mul, hnumber]

/-- **The text of a probability is read as the same number with the same sign.** -/
theorem exists_probabilityOf_toPrimitive (p : Probability) :
    ∃ q, probabilityOf p.toPrimitive = .ok q ∧ q.value.value = p.value.value ∧
      q.value.negative = p.value.negative := by
  obtain ⟨n, hn⟩ : ∃ n : Nat, 0 ≤ p.value.exponent + n := ⟨(-p.value.exponent).toNat, by omega⟩
  have htext := Probability.toList_toPrimitive hn
  have hlength := length_zeroFilled (Nat.succ_pos n) (Probability.units_lt hn)
  obtain ⟨digit, places, hdigits⟩ := List.exists_cons_of_length_eq_add_one hlength
  have hall : ∀ c ∈ digit :: places, c.isDigit = true := by
    rw [← hdigits]
    exact fun c hc => isDigit_of_mem_zeroFilled hc
  have hplaces : places.length = n := by
    rw [hdigits] at hlength
    exact Nat.succ.inj hlength
  have hunits : p.units n = Nat.ofDigitChars 10 (digit :: places) 0 := by
    rw [← hdigits, ofDigitChars_zeroFilled]
  rw [ofDigitChars_places, hplaces] at hunits
  rw [hdigits] at htext
  have hread := decimalOf_print p (hall digit List.mem_cons_self)
    (fun c hc => hall c (List.mem_cons_of_mem _ hc)) htext
  have hkept : (places.rdropWhile (· = '0')).length ≤ n :=
    hplaces ▸ (List.rdropWhile_prefix _ _).length_le
  have hvalue := value_print p hkept hn hunits
  refine ⟨⟨_, hvalue.symm ▸ p.nonneg, hvalue.symm ▸ p.le_one⟩, ?_, hvalue, rfl⟩
  unfold probabilityOf
  rw [hread]
  exact dif_pos ⟨hvalue.symm ▸ p.nonneg, hvalue.symm ▸ p.le_one⟩

end Retrywise.ControlPlane
