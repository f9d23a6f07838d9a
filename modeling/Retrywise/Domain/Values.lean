import Retrywise.Domain.Canonical
import Mathlib.Algebra.Order.Field.Rat
import Mathlib.Data.List.DropRight

/-!
# Value objects

`values.py`: identifiers, the late-capture policy, money and exact decimal
probabilities. Each value carries its constructor's checks as fields, so a
policy below the safety floor or a negative amount cannot be built.
-/

namespace Retrywise.Domain

open Retrywise.Foundation

/-! ## Identifiers -/

/-- `^[A-Za-z0-9][A-Za-z0-9_.:-]{0,127}$`. -/
def isIdentifier (value : String) : Bool :=
  match value.toList with
  | [] => false
  | c :: rest =>
    c.isAlphanum && rest.length ≤ 127 &&
      rest.all fun d => d.isAlphanum || d = '_' || d = '.' || d = ':' || d = '-'

def requireIdentifier (value field : String) : Except DomainError String :=
  if isIdentifier value then .ok value
  else .error (.invalidValue s!"{field} must be 1-128 safe identifier characters")

@[simp] theorem requireIdentifier_ok_iff {value field r : String} :
    requireIdentifier value field = .ok r ↔ isIdentifier value = true ∧ value = r := by
  unfold requireIdentifier
  split
  next h => simp [h]
  next h => simp [h]

/-- `^[a-z][a-z0-9_-]{0,31}$`. -/
def isPaymentMethod (value : String) : Bool :=
  match value.toList with
  | [] => false
  | c :: rest =>
    c.isLower && rest.length ≤ 31 &&
      rest.all fun d => d.isLower || d.isDigit || d = '_' || d = '-'

theorem isPaymentMethod_upi : isPaymentMethod "upi" = true := by decide

def requirePaymentMethod (value : String) (field : String := "payment_method") :
    Except DomainError String :=
  if isPaymentMethod value then .ok value
  else .error (.invalidValue
    s!"{field} must be a canonical lowercase payment-method identifier")

theorem isAlphanum_of_isDigest {digest : String} (h : isDigest digest = true) :
    ∀ c ∈ digest.toList, c.isAlphanum = true := by
  simp only [isDigest, Bool.and_eq_true, decide_eq_true_eq, List.all_eq_true] at h
  intro c hc
  have hcase := h.2 c hc
  simp only [Bool.or_eq_true, Bool.and_eq_true, decide_eq_true_eq] at hcase
  -- `isAlphanum`, spelled out
  show ((c.isUpper || c.isLower) || c.isDigit) = true
  rcases hcase with hdigit | ⟨hlo, hhi⟩
  · rw [hdigit, Bool.or_true]
  · have hlower : c.isLower = true := by
      show (decide (c.val ≥ 'a'.val) && decide (c.val ≤ 'z'.val)) = true
      rw [Bool.and_eq_true, decide_eq_true_eq, decide_eq_true_eq]
      exact ⟨hlo, Char.le_trans hhi (by decide : 'f' ≤ 'z')⟩
    rw [hlower, Bool.or_true, Bool.true_or]

/-- A digest makes an identifier behind a short prefix. -/
theorem isIdentifier_of_isDigest {digest : String} (h : isDigest digest = true) :
    isIdentifier ("act_" ++ digest) = true := by
  have hsafe := isAlphanum_of_isDigest h
  simp only [isDigest, Bool.and_eq_true, decide_eq_true_eq] at h
  have hchars : ("act_" ++ digest).toList = 'a' :: 'c' :: 't' :: '_' :: digest.toList := by
    rw [String.toList_append]
    rfl
  simp only [isIdentifier, hchars, Bool.and_eq_true, decide_eq_true_eq, List.all_eq_true,
    List.length_cons, List.mem_cons]
  refine ⟨⟨by decide, by omega⟩, ?_⟩
  rintro c (rfl | rfl | rfl | hc)
  · decide
  · decide
  · decide
  · simp [hsafe c hc]

/-! ## The late-capture policy -/

def minimumLateCaptureWindow : Timedelta := minutes 2

/-- The policy-owned minimum before a replacement collection path may open. -/
structure LateCapturePolicy where
  minimumObservationWindow : Timedelta := minimumLateCaptureWindow
  aboveFloor : minimumLateCaptureWindow ≤ minimumObservationWindow := by decide

namespace LateCapturePolicy

/-- The policy floor, extended by a later caller suggestion only. -/
def observationDeadline (policy : LateCapturePolicy) (observedAt : Datetime)
    (extendUntil : Option Datetime) : Except DomainError Timestamp := do
  let observed ← requireUtc observedAt "observed_at"
  let policyDeadline ← shift observed policy.minimumObservationWindow
  match extendUntil with
  | none => return policyDeadline
  | some extension =>
    let requested ← requireUtc extension "extend_observation_until"
    return max policyDeadline requested

def toPrimitive (policy : LateCapturePolicy) : Json :=
  .obj [("minimum_observation_microseconds", .int policy.minimumObservationWindow)]

/-- A deadline is the policy floor, or a later suggestion. -/
theorem observationDeadline_ok_iff {policy : LateCapturePolicy} {observed deadline : Timestamp}
    {extendUntil : Option Datetime} :
    policy.observationDeadline observed.toDatetime extendUntil = .ok deadline ↔
      ∃ floor, floor.micros = observed.micros + policy.minimumObservationWindow ∧
        ((extendUntil = none ∧ deadline = floor) ∨
          ∃ extension requested, extendUntil = some extension ∧
            requireUtc extension "extend_observation_until" = .ok requested ∧
            deadline = max floor requested) := by
  constructor
  · intro h
    simp only [observationDeadline, requireUtc_toDatetime, bind_ok_iff, shift_ok_iff,
      Except.ok.injEq, exists_eq_left'] at h
    obtain ⟨floor, hfloor, h⟩ := h
    refine ⟨floor, hfloor, ?_⟩
    cases extendUntil with
    | none => exact .inl ⟨rfl, (Except.ok.inj h).symm⟩
    | some extension =>
      obtain ⟨requested, hreq, hmax⟩ := bind_ok_iff.mp h
      exact .inr ⟨extension, requested, rfl, hreq, (Except.ok.inj hmax).symm⟩
  · intro h
    obtain ⟨floor, hfloor, hcase⟩ := h
    rw [observationDeadline, bind_of_ok (requireUtc_toDatetime _ _),
      bind_of_ok (shift_ok_iff.mpr hfloor)]
    rcases hcase with ⟨rfl, rfl⟩ | ⟨extension, requested, rfl, hreq, rfl⟩
    · rfl
    · simp only [bind_of_ok hreq]
      rfl

/-- The floor bounds every deadline the policy hands out. -/
theorem floor_le_observationDeadline {policy : LateCapturePolicy} {observed deadline : Timestamp}
    {extendUntil : Option Datetime}
    (h : policy.observationDeadline observed.toDatetime extendUntil = .ok deadline) :
    observed.micros + policy.minimumObservationWindow ≤ deadline.micros := by
  obtain ⟨floor, hfloor, ⟨-, rfl⟩ | ⟨_, requested, -, -, rfl⟩⟩ :=
    observationDeadline_ok_iff.mp h
  · exact le_of_eq hfloor.symm
  · rw [← hfloor]
    exact Timestamp.le_iff.mp (le_max_left floor requested)

end LateCapturePolicy

/-! ## Money -/

def isCurrency (value : String) : Bool :=
  value.toList.length = 3 && value.toList.all Char.isUpper

theorem isCurrency_inr : isCurrency "INR" = true := by decide

/-- A non-negative amount in an ISO currency's smallest unit. -/
structure Money where
  minorUnits : Nat
  currency : String
  currencyOk : isCurrency currency = true
deriving DecidableEq

def Money.toPrimitive (money : Money) : Json :=
  .obj [("currency", .str money.currency), ("minor_units", .int money.minorUnits)]

/-! ## Exact probabilities -/

/-- A finite decimal, as it was spelled: sign, coefficient and exponent. -/
structure Decimal where
  negative : Bool
  coefficient : Nat
  exponent : Int
deriving DecidableEq

namespace Decimal

def value (d : Decimal) : Rat :=
  (if d.negative then -1 else 1) * d.coefficient * 10 ^ d.exponent

/-- `format(d, "f")`: positional notation, every spelled digit kept. -/
def formatF (d : Decimal) : String :=
  let sign := if d.negative then "-" else ""
  if 0 ≤ d.exponent then
    if d.coefficient = 0 then sign ++ "0"
    else sign ++ d.coefficient.repr ++ "".pushn '0' d.exponent.toNat
  else
    let places := (-d.exponent).toNat
    let digits := (zeroFilled (places + 1) d.coefficient).toList
    let whole := digits.length - places
    sign ++ String.ofList (digits.take whole) ++ "." ++ String.ofList (digits.drop whole)

theorem nonneg_one : 0 ≤ value ⟨false, 1, 0⟩ := by simp [value]

theorem one_le_one : value ⟨false, 1, 0⟩ ≤ 1 := by simp [value]

end Decimal

/-- An exact decimal probability. -/
structure Probability where
  value : Decimal
  nonneg : 0 ≤ value.value
  le_one : value.value ≤ 1

def Probability.toPrimitive (p : Probability) : String :=
  let rendered := p.value.formatF.toList
  let trimmed :=
    if '.' ∈ rendered then (rendered.rdropWhile (· = '0')).rdropWhile (· = '.') else rendered
  if trimmed = [] then "0" else String.ofList trimmed

end Retrywise.Domain
