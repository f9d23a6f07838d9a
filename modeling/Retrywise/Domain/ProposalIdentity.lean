import Retrywise.Domain.Actions
import Retrywise.Foundation.DecimalText

/-!
# The identity of a proposal

Two proposals are equal when their fields are, and fields are compared as Python compares
them: timestamps as instants, the confidence as a number. The document behind the digest
writes both down as text. Every instant has one text; a number in `[0, 1]` has one too,
however it was spelled, except for zero, which keeps the sign it was spelled with.

> `toPrimitive_eq_iff`: two probabilities have the same text exactly when they are the same
> number with the same sign.

> `canonicalIdentity_iff`: equal proposals are those with equal documents, but for two that
> are the same up to the sign of a zero confidence.
-/

namespace Retrywise.Domain

open Retrywise.Foundation

/-! ## The text of a probability -/

namespace Probability

variable (p : Probability)

/-- A negative sign is only ever the sign of a zero. -/
theorem coefficient_of_negative (h : p.value.negative = true) : p.value.coefficient = 0 := by
  have hnonneg := p.nonneg
  have hpower : (0 : Rat) < 10 ^ p.value.exponent := zpow_pos (by decide) _
  rw [Decimal.value, if_pos h, neg_one_mul, neg_mul] at hnonneg
  have hproduct : (p.value.coefficient : Rat) * 10 ^ p.value.exponent ≤ 0 := by
    exact neg_nonneg.mp hnonneg
  have hzero : (p.value.coefficient : Rat) ≤ 0 := nonpos_of_mul_nonpos_left hproduct hpower
  exact Nat.le_zero.mp (by exact_mod_cast hzero)

/-- The sign does not matter for the number. -/
theorem value_eq : p.value.value = p.value.coefficient * 10 ^ p.value.exponent := by
  by_cases h : p.value.negative = true
  · rw [Decimal.value, p.coefficient_of_negative h]
    simp
  · rw [Decimal.value, if_neg h, one_mul]

/-- Zero has no digits that count. -/
theorem coefficient_of_value (h : p.value.value = 0) : p.value.coefficient = 0 := by
  have hpower : (10 : Rat) ^ p.value.exponent ≠ 0 := zpow_ne_zero _ (by decide)
  rw [value_eq] at h
  exact_mod_cast (mul_eq_zero.mp h).resolve_right hpower

/-- The number in units of the last of `n` decimal places. -/
def units (n : Nat) : Nat := p.value.coefficient * 10 ^ (p.value.exponent + n).toNat

variable {p} {q : Probability} {n : Nat}

theorem cast_units (h : 0 ≤ p.value.exponent + n) : (p.units n : Rat) = p.value.value * 10 ^ n := by
  have hpower : (10 : Rat) ^ (p.value.exponent + n).toNat = 10 ^ p.value.exponent * 10 ^ n := by
    rw [← zpow_natCast, Int.toNat_of_nonneg h, zpow_add₀ (by decide), zpow_natCast]
  rw [units, value_eq, Nat.cast_mul, Nat.cast_pow, Nat.cast_ofNat, hpower, mul_assoc]

theorem units_lt (h : 0 ≤ p.value.exponent + n) : p.units n < 10 ^ (n + 1) := by
  have hpower : (0 : Rat) ≤ 10 ^ n := pow_nonneg (by decide) _
  have hle : (p.units n : Rat) ≤ ((10 ^ n : Nat) : Rat) := by
    rw [cast_units h, Nat.cast_pow, Nat.cast_ofNat]
    exact mul_le_of_le_one_left hpower p.le_one
  have hunits : p.units n ≤ 10 ^ n := by exact_mod_cast hle
  exact lt_of_le_of_lt hunits (Nat.pow_lt_pow_right (by decide) (Nat.lt_succ_self n))

theorem units_succ (h : 0 ≤ p.value.exponent + n) : p.units (n + 1) = p.units n * 10 := by
  have hexponent : (p.value.exponent + (n + 1 : Nat)).toNat = (p.value.exponent + n).toNat + 1 := by
    omega
  rw [units, units, hexponent, Nat.pow_succ, Nat.mul_assoc]

/-- The number is its units. -/
theorem units_eq_iff (hp : 0 ≤ p.value.exponent + n) (hq : 0 ≤ q.value.exponent + n) :
    p.units n = q.units n ↔ p.value.value = q.value.value := by
  have hpower : (10 : Rat) ^ n ≠ 0 := pow_ne_zero _ (by decide)
  rw [← Nat.cast_inj (R := Rat), cast_units hp, cast_units hq, mul_left_inj' hpower]

/-- The sign as it is written. -/
def sign (p : Probability) : List Char := if p.value.negative then ['-'] else []

/-- Without decimal places there is only zero and one. -/
theorem toList_of_whole (h : 0 ≤ p.value.exponent) :
    p.toPrimitive.toList = p.sign ++ shortened (zeroFilled 1 (p.units 0)).toList := by
  have hsign : (if p.value.negative then "-" else "").toList = p.sign := by
    unfold sign
    split
    · rfl
    · rfl
  rcases Nat.eq_zero_or_pos p.value.coefficient with hzero | hpos
  · have hunits : p.units 0 = 0 := by rw [units, hzero, Nat.zero_mul]
    have hformat : p.value.formatF.toList = p.sign ++ ['0'] := by
      rw [Decimal.formatF, if_pos h, if_pos hzero, String.toList_append, hsign]
      rfl
    have hpoint : '.' ∉ p.sign ++ ['0'] := by
      unfold sign
      split
      · decide
      · decide
    rw [toPrimitive, hformat, hunits]
    simp only [if_neg hpoint]
    rw [if_neg (List.append_ne_nil_of_right_ne_nil _ (List.cons_ne_nil _ _)),
      String.toList_ofList]
    rfl
  · -- a digit before the point leaves no room for another one
    have hbound := units_lt (p := p) (n := 0) (by omega)
    have hexponent : p.value.exponent = 0 := by
      by_contra hne
      have hten : 10 ≤ p.units 0 := by
        rw [units]
        calc 10 = 1 * 10 ^ 1 := rfl
          _ ≤ p.value.coefficient * 10 ^ (p.value.exponent + (0 : Nat)).toNat :=
            Nat.mul_le_mul hpos (Nat.pow_le_pow_right (by decide) (by omega))
      omega
    have hunits : p.units 0 = p.value.coefficient := by
      rw [units, hexponent]
      exact Nat.mul_one _
    have hdigits : Nat.toDigits 10 p.value.coefficient = [p.value.coefficient.digitChar] :=
      Nat.toDigits_of_lt_base (by omega)
    have hnegative : p.sign = [] := by
      unfold sign
      rw [if_neg]
      intro hnegative
      rw [p.coefficient_of_negative hnegative] at hpos
      exact absurd hpos (lt_irrefl 0)
    have hformat : p.value.formatF.toList = [p.value.coefficient.digitChar] := by
      rw [Decimal.formatF, if_pos h, if_neg (Nat.pos_iff_ne_zero.mp hpos), String.toList_append,
        String.toList_append, hsign, hnegative, Nat.toList_repr, hdigits, hexponent]
      rfl
    have hwidth : (zeroFilled 1 p.value.coefficient).toList = [p.value.coefficient.digitChar] := by
      have hlength : p.value.coefficient.repr.length = 1 := by
        rw [← String.length_toList, Nat.toList_repr, hdigits]
        rfl
      rw [toList_zeroFilled, hlength, hdigits]
      rfl
    have hmem : p.value.coefficient.digitChar ∈ (zeroFilled 1 p.value.coefficient).toList := by
      rw [hwidth]
      exact List.mem_singleton_self _
    have hdigit := isDigit_of_mem_zeroFilled hmem
    have hpoint : '.' ∉ [p.value.coefficient.digitChar] := by
      intro hmem
      rw [← List.mem_singleton.mp hmem] at hdigit
      exact absurd hdigit (by decide)
    rw [toPrimitive, hformat, hunits, hwidth, hnegative]
    simp only [if_neg hpoint]
    rw [if_neg (List.cons_ne_nil _ _), String.toList_ofList]
    rfl

/-- With as many decimal places as were spelled. -/
theorem toList_of_places (h : p.value.exponent < 0) :
    p.toPrimitive.toList = p.sign ++
      shortened (zeroFilled ((-p.value.exponent).toNat + 1)
        (p.units (-p.value.exponent).toNat)).toList := by
  have hsign : (if p.value.negative then "-" else "").toList = p.sign := by
    unfold sign
    split
    · rfl
    · rfl
  have hexponent : p.value.exponent + (-p.value.exponent).toNat = 0 := by omega
  have hunits : p.units (-p.value.exponent).toNat = p.value.coefficient := by
    rw [units, hexponent]
    exact Nat.mul_one _
  have hlength := length_zeroFilled (Nat.succ_pos _)
    (units_lt (p := p) (n := (-p.value.exponent).toNat) (by omega))
  rw [hunits] at hlength ⊢
  obtain ⟨digit, places, hdigits⟩ :=
    List.exists_cons_of_length_eq_add_one hlength
  have hdigit : ∀ c ∈ digit :: places, c ≠ '.' := by
    rintro c hc rfl
    rw [← hdigits] at hc
    exact absurd (isDigit_of_mem_zeroFilled hc) (by decide)
  have hplaces : places.length = (-p.value.exponent).toNat := by
    rw [hdigits] at hlength
    exact Nat.succ.inj hlength
  have hwhole : (digit :: places).length - (-p.value.exponent).toNat = 1 := by
    rw [List.length_cons]
    omega
  have hformat : p.value.formatF.toList = p.sign ++ digit :: '.' :: places := by
    rw [Decimal.formatF, if_neg (Int.not_le.mpr h)]
    dsimp only
    rw [hdigits, hwhole]
    simp only [String.toList_append, hsign, String.toList_ofList]
    simp
  have hpoint : '.' ∈ p.sign ++ digit :: '.' :: places := by simp
  have hsome : p.sign ++ shortened (digit :: places) ≠ [] :=
    List.append_ne_nil_of_right_ne_nil _ (List.cons_ne_nil _ _)
  rw [toPrimitive, hformat, hdigits]
  simp only [if_pos hpoint]
  rw [rstrip_pointed (hdigit digit (List.mem_cons_self ..))
    fun c hc => hdigit c (List.mem_cons_of_mem _ hc), if_neg hsome, String.toList_ofList]

/-- **The text is the sign and the print of the number**, with any number of decimal places
that show all of it. -/
theorem toList_toPrimitive (h : 0 ≤ p.value.exponent + n) :
    p.toPrimitive.toList = p.sign ++ shortened (zeroFilled (n + 1) (p.units n)).toList := by
  have hleast : (-p.value.exponent).toNat ≤ n := by omega
  induction n, hleast using Nat.le_induction with
  | base =>
    rcases Int.lt_or_le p.value.exponent 0 with hneg | hnonneg
    · exact toList_of_places hneg
    · have hzero : (-p.value.exponent).toNat = 0 := by omega
      rw [hzero]
      exact toList_of_whole hnonneg
  | succ n hn ih =>
    have hplaces : 0 ≤ p.value.exponent + n := by omega
    rw [ih hplaces, units_succ hplaces,
      shortened_zeroFilled_mul_ten (Nat.succ_pos n) (units_lt hplaces)]

/-- A print starts with a digit. -/
theorem exists_shortened_cons {width m : Nat} (h : m < 10 ^ (width + 1)) :
    ∃ digit rest, shortened (zeroFilled (width + 1) m).toList = digit :: rest ∧ digit ≠ '-' := by
  obtain ⟨digit, places, hdigits⟩ :=
    List.exists_cons_of_length_eq_add_one (length_zeroFilled (Nat.succ_pos width) h)
  refine ⟨digit, _, by rw [hdigits, shortened], ?_⟩
  rintro rfl
  have hmem : '-' ∈ (zeroFilled (width + 1) m).toList := by
    rw [hdigits]
    exact List.mem_cons_self ..
  exact absurd (isDigit_of_mem_zeroFilled hmem) (by decide)

/-- The sign can be read off a text that goes on without one. -/
theorem sign_append_inj {d e : Char} {rest rest' : List Char} (hd : d ≠ '-') (he : e ≠ '-')
    (h : p.sign ++ d :: rest = q.sign ++ e :: rest') :
    p.value.negative = q.value.negative ∧ d :: rest = e :: rest' := by
  unfold sign at h
  cases hp : p.value.negative with
  | false =>
    cases hq : q.value.negative with
    | false =>
      rw [hp, hq] at h
      exact ⟨rfl, h⟩
    | true =>
      rw [hp, hq] at h
      exact absurd (List.cons.inj h).1 hd
  | true =>
    cases hq : q.value.negative with
    | false =>
      rw [hp, hq] at h
      exact absurd (List.cons.inj h).1.symm he
    | true =>
      rw [hp, hq] at h
      exact ⟨rfl, List.append_cancel_left h⟩

/-- **Two probabilities have one text exactly when they are one number with one sign.** -/
theorem toPrimitive_eq_iff :
    p.toPrimitive = q.toPrimitive ↔
      p.value.value = q.value.value ∧ p.value.negative = q.value.negative := by
  -- enough places for both
  obtain ⟨n, hp, hq⟩ : ∃ n : Nat, 0 ≤ p.value.exponent + n ∧ 0 ≤ q.value.exponent + n :=
    ⟨(-p.value.exponent).toNat + (-q.value.exponent).toNat, by omega, by omega⟩
  rw [← String.toList_inj, toList_toPrimitive hp, toList_toPrimitive hq, ← units_eq_iff hp hq]
  constructor
  · intro h
    obtain ⟨d, rest, hd, hdigit⟩ := exists_shortened_cons (units_lt hp)
    obtain ⟨e, rest', he, hdigit'⟩ := exists_shortened_cons (units_lt hq)
    rw [hd, he] at h
    obtain ⟨hsign, hprint⟩ := sign_append_inj hdigit hdigit' h
    rw [← hd, ← he] at hprint
    exact ⟨shortened_inj (Nat.succ_pos n) (units_lt hp) (units_lt hq) hprint, hsign⟩
  · intro h
    rw [h.1, sign, sign, h.2]

end Probability

/-! ## Equal proposals -/

theorem Money.toPrimitive_inj {a b : Money} (h : a.toPrimitive = b.toPrimitive) : a = b := by
  have hmembers := Json.obj.inj h
  simp only [List.cons.injEq, Prod.mk.injEq, Json.str.injEq, Json.int.injEq, Int.natCast_inj,
    true_and, and_true] at hmembers
  rw [Money.mk.injEq]
  exact ⟨hmembers.2, hmembers.1⟩

namespace ActionProposal

/-- Every field but the confidence. -/
def besidesConfidence (p : ActionProposal) : ProposalFields :=
  { p.toProposalFields with modelConfidence := none }

/-- `==`: a dataclass compares field by field, and a decimal is compared by its value. -/
def Equals (p q : ActionProposal) : Prop :=
  p.besidesConfidence = q.besidesConfidence ∧
    p.modelConfidence.map (fun c => c.value.value) = q.modelConfidence.map fun c => c.value.value

/-- A zero that is spelled with a minus in one proposal and without it in the other is all
they differ in. -/
def DifferInSignOfZero (p q : ActionProposal) : Prop :=
  p.besidesConfidence = q.besidesConfidence ∧
    ∃ a b, p.modelConfidence = some a ∧ q.modelConfidence = some b ∧
      a.value.coefficient = 0 ∧ b.value.coefficient = 0 ∧ a.value.negative ≠ b.value.negative

section

variable [Hashlib] {p q : ActionProposal}

/-- The text of the confidence in the document. -/
def confidenceText (p : ActionProposal) : Json :=
  match p.modelConfidence with
  | none => .null
  | some c => .str c.toPrimitive

omit [Hashlib] in
theorem optionalText_inj {a b : Option String} (h : optionalText a = optionalText b) : a = b := by
  cases a with
  | none =>
    cases b with
    | none => rfl
    | some s => exact absurd h (by simp [optionalText])
  | some s =>
    cases b with
    | none => exact absurd h (by simp [optionalText])
    | some t => rw [Json.str.inj h]

/-- The document says all the fields, and of the confidence what its text says. -/
theorem toPrimitive_eq_iff :
    p.toPrimitive = q.toPrimitive ↔
      p.besidesConfidence = q.besidesConfidence ∧ p.confidenceText = q.confidenceText := by
  constructor
  · intro h
    have hmembers := Json.obj.inj h
    simp only [List.cons.injEq, Prod.mk.injEq, Json.str.injEq, Json.int.injEq, Json.bool.injEq,
      Int.natCast_inj, true_and, and_true] at hmembers
    obtain ⟨-, htype, hamount, hattempt, hcase, hcreated, hversion, hvalue, hexpires, hreference,
      hmerchant, hconfidence, hmethod, hproposal, happroval⟩ := hmembers
    refine ⟨?_, hconfidence⟩
    have hmoney : p.amount = q.amount := by
      cases hp : p.amount with
      | none =>
        cases hq : q.amount with
        | none => rfl
        | some b => exact absurd hamount (by simp [hp, hq, Money.toPrimitive])
      | some a =>
        cases hq : q.amount with
        | none => exact absurd hamount (by simp [hp, hq, Money.toPrimitive])
        | some b =>
          rw [hp, hq] at hamount
          rw [Money.toPrimitive_inj hamount]
    have hexpected : p.expectedValueMinor = q.expectedValueMinor := by
      cases hp : p.expectedValueMinor with
      | none =>
        cases hq : q.expectedValueMinor with
        | none => rfl
        | some b => exact absurd hvalue (by simp [hp, hq])
      | some a =>
        cases hq : q.expectedValueMinor with
        | none => exact absurd hvalue (by simp [hp, hq])
        | some b =>
          rw [hp, hq] at hvalue
          rw [Json.int.inj hvalue]
    rw [besidesConfidence, besidesConfidence, ProposalFields.mk.injEq]
    exact ⟨hproposal, hmerchant, hcase, hversion, ActionType.value_injective htype,
      canonicalTimestamp_injective hcreated, canonicalTimestamp_injective hexpires, hattempt,
      hmoney, optionalText_inj hmethod, hexpected, rfl, happroval, optionalText_inj hreference⟩
  · intro h
    obtain ⟨hbesides, hconfidence⟩ := h
    rw [besidesConfidence, besidesConfidence, ProposalFields.mk.injEq] at hbesides
    obtain ⟨hproposal, hmerchant, hcase, hversion, htype, hcreated, hexpires, hattempt, hamount,
      hmethod, hvalue, -, happroval, hreference⟩ := hbesides
    unfold confidenceText at hconfidence
    unfold ProposalFields.toPrimitive ProposalFields.actionKey ProposalFields.keyMaterial
    rw [hproposal, hmerchant, hcase, hversion, htype, hcreated, hexpires, hattempt, hamount,
      hmethod, hvalue, happroval, hreference]
    cases hp : p.modelConfidence with
    | none =>
      cases hq : q.modelConfidence with
      | none => rfl
      | some b => exact absurd hconfidence (by simp [hp, hq])
    | some a =>
      cases hq : q.modelConfidence with
      | none => exact absurd hconfidence (by simp [hp, hq])
      | some b =>
        rw [hp, hq] at hconfidence
        simp only [Json.str.inj hconfidence]

omit [Hashlib] in
/-- Confidences have one text when they are one number, but for the sign of a zero. -/
theorem confidenceText_eq_iff :
    p.confidenceText = q.confidenceText ↔
      p.modelConfidence.map (fun c => c.value.value) =
          q.modelConfidence.map (fun c => c.value.value) ∧
        ∀ a b, p.modelConfidence = some a → q.modelConfidence = some b →
          a.value.negative = b.value.negative := by
  unfold confidenceText
  cases p.modelConfidence with
  | none =>
    cases q.modelConfidence with
    | none => simp
    | some b => simp
  | some a =>
    cases q.modelConfidence with
    | none => simp
    | some b =>
      rw [Json.str.injEq, Probability.toPrimitive_eq_iff]
      simp

/-- Equal proposals have one document and one digest, and proposals with one document are
equal. -/
structure CanonicalIdentity (p q : ActionProposal) : Prop where
  document : p.Equals q ↔ p.toPrimitive = q.toPrimitive
  digest : p.Equals q → p.proposalDigest = q.proposalDigest

/-- **The identity of a proposal is canonical but for the sign of a zero.** -/
theorem canonicalIdentity_iff (p q : ActionProposal) :
    p.CanonicalIdentity q ↔ ¬p.DifferInSignOfZero q := by
  constructor
  · intro h hdiffer
    obtain ⟨hbesides, a, b, ha, hb, hzero, hzero', hsign⟩ := hdiffer
    have hnumber : a.value.value = b.value.value := by
      rw [a.value_eq, b.value_eq, hzero, hzero']
      simp
    have hequal : p.Equals q := by
      refine ⟨hbesides, ?_⟩
      rw [ha, hb, Option.map_some, Option.map_some, hnumber]
    have htext := (toPrimitive_eq_iff.mp (h.document.mp hequal)).2
    exact hsign ((confidenceText_eq_iff.mp htext).2 a b ha hb)
  · intro h
    have hdocument : p.Equals q ↔ p.toPrimitive = q.toPrimitive := by
      rw [toPrimitive_eq_iff, confidenceText_eq_iff]
      constructor
      · intro hequal
        refine ⟨hequal.1, hequal.2, ?_⟩
        intro a b ha hb
        by_contra hsign
        have hnumber : a.value.value = b.value.value := by
          have hmap := hequal.2
          rw [ha, hb] at hmap
          exact Option.some.inj hmap
        -- one of the two has a minus, so both numbers are zero
        have hzero : a.value.value = 0 := by
          cases hnegative : a.value.negative with
          | true => rw [a.value_eq, a.coefficient_of_negative hnegative, Nat.cast_zero, zero_mul]
          | false =>
            have hother : b.value.negative = true := by
              cases hb : b.value.negative with
              | true => rfl
              | false => exact absurd (hnegative.trans hb.symm) hsign
            rw [hnumber, b.value_eq, b.coefficient_of_negative hother, Nat.cast_zero, zero_mul]
        exact h ⟨hequal.1, a, b, ha, hb, a.coefficient_of_value hzero,
          b.coefficient_of_value (hnumber ▸ hzero), hsign⟩
      · intro hsame
        exact ⟨hsame.1, hsame.2.1⟩
    refine ⟨hdocument, fun hequal => ?_⟩
    rw [ProposalFields.proposalDigest, ProposalFields.proposalDigest, hdocument.mp hequal]

end

/-! ## A zero with a minus -/

def lastCentury : Timestamp := ⟨63082281600000000, by decide, by decide⟩

def thisCentury : Timestamp := ⟨63902995200000000, by decide, by decide⟩

/-- No confidence at all, with a minus or without. -/
def noConfidence (negative : Bool) : Probability where
  value := ⟨negative, 0, 0⟩
  nonneg := by simp [Decimal.value]
  le_one := by simp [Decimal.value]

/-- A link that is proposed with no confidence at all, spelled `"-0"` or `"0"`. -/
def unsure (negative : Bool) : ActionProposal where
  proposalId := "prop_1"
  merchantId := "merchant_1"
  caseId := "case_1"
  decisionVersion := 1
  actionType := .createStandardPaymentLink
  createdAt := lastCentury
  expiresAt := thisCentury
  amount := some ⟨12500, "INR", isCurrency_inr⟩
  paymentMethod := some "upi"
  modelConfidence := some (noConfidence negative)
  valid := by
    simp only [ProposalFields.postInit]
    rfl

/-- The two are equal, and their documents are not. -/
theorem unsure_documents_differ :
    (unsure true).Equals (unsure false) ∧ (unsure true).toPrimitive ≠ (unsure false).toPrimitive := by
  refine ⟨⟨rfl, ?_⟩, fun h => ?_⟩
  · simp [unsure, noConfidence, Decimal.value]
  · have htext := (toPrimitive_eq_iff.mp h).2
    have hdiffer : "-0" = "0" := Json.str.inj htext
    exact absurd hdiffer (by decide)

end ActionProposal

end Retrywise.Domain
