import Retrywise.Simulator.Engine

/-!
# The safety gate

`engine.py`, `_apply_guardrails` and what stands around it. The gate holds a link back for what
was known of the case when it opened, puts it off until the quiet hours are over, and looks once
more for a capture of the original payment before the link goes out.

> `applyGuardrails_none_iff`: what the guardrails let pass, and when it goes out.

> `safetyGate_passes_iff`: a link that is checked goes out exactly if nothing blocks the case, and
> at a time that is within the horizon and before any recovery of the original payment.
-/

namespace Retrywise.Simulator

open Retrywise.Foundation Retrywise.Domain Retrywise.ControlPlane

/-! ## Guardrails -/

/-- The original payment was captured at the time, or before. -/
def Scenario.naturalBy (scenario : Scenario) (atMs : Int) : Bool :=
  scenario.naturalRecoveryAtMs.any fun recovered => decide (recovered ≤ atMs)

def isQuietHour (hour start stop : Int) : Bool :=
  if start = stop then false
  else if start < stop then decide (start ≤ hour) && decide (hour < stop)
  else decide (hour ≥ start) || decide (hour < stop)

def quietHoursDelayMs (hour start stop : Int) : Int :=
  if isQuietHour hour start stop then (stop - hour) % 24 * 60 * 60 * 1000 else 0

/-- The flags that `_apply_guardrails` asks for, in its order, and why each blocks the case. -/
def blockingFlags : List (String × String) :=
  [("kill_switch", "merchant_kill_switch"), ("partial_payment", "canonical_truth_partially_paid"),
    ("expired_order", "order_expired"), ("ambiguous_mapping", "ambiguous_order_mapping"),
    ("provider_error", "provider_state_unavailable"),
    ("contact_cap_exhausted", "contact_cap_exhausted"), ("currency_mismatch", "currency_mismatch")]

/-- `_apply_guardrails`: the time of the execution, and what suppresses it. -/
def applyGuardrails (scenario : Scenario) (merchantPolicy : MerchantPolicy) (executionAt : Int) :
    Int × Option String :=
  match blockingFlags.find? fun flag => flag.1 ∈ scenario.adversarialFlags with
  | some flag => (executionAt, some flag.2)
  | none =>
    if !scenario.consentToContact then (executionAt, some "contact_consent_missing")
    else if merchantPolicy.contactCap < 1 then (executionAt, some "contact_cap_exhausted")
    else if scenario.amountMinor ≥ merchantPolicy.approvalThresholdMinor then
      (executionAt, some "high_value_approval_required")
    else
      let quietDelay := quietHoursDelayMs scenario.failureLocalHour merchantPolicy.quietHoursStart
        merchantPolicy.quietHoursEnd
      let executionAt := max executionAt quietDelay
      if executionAt > merchantPolicy.recoveryHorizonMs then
        (executionAt, some "recovery_horizon_exhausted")
      else (executionAt, none)

/-- `_unsafe_policy_violations`. -/
def unsafePolicyViolations (scenario : Scenario) (merchantPolicy : MerchantPolicy)
    (executionAt : Int) (safetyGateUsed : Bool) : List String :=
  if safetyGateUsed then []
  else
    let quiet := isQuietHour scenario.failureLocalHour merchantPolicy.quietHoursStart
      merchantPolicy.quietHoursEnd
    let flagged := fun flag : String => decide (flag ∈ scenario.adversarialFlags)
    let violations := [
      (!scenario.consentToContact, "contact_without_consent"),
      (quiet, "quiet_hours_contact"),
      (decide (scenario.amountMinor ≥ merchantPolicy.approvalThresholdMinor), "approval_bypass"),
      (flagged "currency_mismatch", "currency_mismatch_action"),
      (flagged "kill_switch", "kill_switch_bypass"),
      (flagged "partial_payment", "partial_payment_collection"),
      (flagged "expired_order", "expired_order_action"),
      (flagged "ambiguous_mapping", "ambiguous_mapping_action"),
      (flagged "provider_error", "provider_uncertainty_action"),
      (flagged "contact_cap_exhausted", "contact_cap_violation"),
      (scenario.naturalBy executionAt, "stale_state_action")]
    ((violations.filter Prod.fst).map Prod.snd).mergeSort fun a b => decide (a ≤ b)

/-- What the safety gate makes of a link: when it goes out, what suppresses it, and whether that
was the capture of the original payment. -/
structure GateVerdict where
  executionAt : Int
  suppressionReason : Option String
  originalSuccessSuppressed : Bool
deriving DecidableEq

/-- The lines of `_run_case` between the abstention and the suppression. -/
def safetyGate (scenario : Scenario) (merchantPolicy : MerchantPolicy) (decision : PolicyDecision)
    (decisionAt : Int) : GateVerdict :=
  if decision.useSafetyGate then
    let (executionAt, suppressionReason) := applyGuardrails scenario merchantPolicy decisionAt
    if suppressionReason = none ∧ decision.revalidateBeforeAction ∧
        scenario.naturalBy executionAt then
      ⟨executionAt, some "original_payment_already_captured", true⟩
    else ⟨executionAt, suppressionReason, false⟩
  else ⟨decisionAt, none, false⟩

/-! ## What the gate lets out -/

section

variable {scenario : Scenario} {merchantPolicy : MerchantPolicy} {decision : PolicyDecision}
  {atMs : Int}

/-- The decisions that the safety gate checks and checks again before it lets a link out. -/
structure PolicyDecision.Gated (decision : PolicyDecision) : Prop where
  useSafetyGate : decision.useSafetyGate = true
  revalidateBeforeAction : decision.revalidateBeforeAction = true

/-- Nothing that was known when the case opened blocks a link. -/
structure Unblocked (scenario : Scenario) (merchantPolicy : MerchantPolicy) : Prop where
  unflagged : ∀ flag ∈ blockingFlags, flag.1 ∉ scenario.adversarialFlags
  consent : scenario.consentToContact = true
  contactCap : 1 ≤ merchantPolicy.contactCap
  amount : scenario.amountMinor < merchantPolicy.approvalThresholdMinor

/-- How long the quiet hours hold back a link, from the failure on. -/
def quietDelay (scenario : Scenario) (merchantPolicy : MerchantPolicy) : Int :=
  quietHoursDelayMs scenario.failureLocalHour merchantPolicy.quietHoursStart
    merchantPolicy.quietHoursEnd

/-- When a link goes out that was decided at a time. -/
def sendingTime (scenario : Scenario) (merchantPolicy : MerchantPolicy) (decisionAt : Int) : Int :=
  max decisionAt (quietDelay scenario merchantPolicy)

theorem quietDelay_nonneg : 0 ≤ quietDelay scenario merchantPolicy := by
  unfold quietDelay quietHoursDelayMs
  split <;> omega

/-- **What `_apply_guardrails` lets pass.** -/
theorem applyGuardrails_none_iff {t : Int} :
    applyGuardrails scenario merchantPolicy atMs = (t, none) ↔
      Unblocked scenario merchantPolicy ∧ sendingTime scenario merchantPolicy atMs = t ∧
        t ≤ merchantPolicy.recoveryHorizonMs := by
  unfold applyGuardrails
  split
  next flag hflag =>
    -- a flag that was found blocks the case
    have hpresent := List.find?_some hflag
    constructor
    · intro h
      exact absurd (congrArg Prod.snd h) (by simp)
    · rintro ⟨h, -, -⟩
      exact absurd (of_decide_eq_true hpresent) (h.unflagged flag (List.mem_of_find?_eq_some hflag))
  next hnone =>
    have hunflagged : ∀ flag ∈ blockingFlags, flag.1 ∉ scenario.adversarialFlags := by
      intro flag hmem hpresent
      exact List.find?_eq_none.mp hnone flag hmem (decide_eq_true hpresent)
    show (if _ then _ else if _ then _ else if _ then _ else if _ then _ else _) = _ ↔ _
    change (if _ then _ else if _ then _ else if _ then _ else
      if merchantPolicy.recoveryHorizonMs < sendingTime scenario merchantPolicy atMs then _
      else _) = _ ↔ _
    split
    next hconsent =>
      constructor
      · intro h
        exact absurd (congrArg Prod.snd h) (by simp)
      · rintro ⟨h, -, -⟩
        rw [h.consent] at hconsent
        exact absurd hconsent (by simp)
    next hconsent =>
      split
      next hcap =>
        constructor
        · intro h
          exact absurd (congrArg Prod.snd h) (by simp)
        · rintro ⟨h, -, -⟩
          have hle := h.contactCap
          omega
      next hcap =>
        split
        next hamount =>
          constructor
          · intro h
            exact absurd (congrArg Prod.snd h) (by simp)
          · rintro ⟨h, -, -⟩
            have hlt := h.amount
            omega
        next hamount =>
          split
          next hlate =>
            constructor
            · intro h
              exact absurd (congrArg Prod.snd h) (by simp)
            · rintro ⟨-, rfl, hle⟩
              exact absurd hle (by omega)
          next hlate =>
            constructor
            · intro h
              obtain ⟨rfl, -⟩ := Prod.mk.inj h
              exact ⟨⟨hunflagged, by simpa using hconsent, by omega, by omega⟩, rfl,
                not_lt.mp hlate⟩
            · rintro ⟨-, rfl, -⟩
              rfl

/-- A gated link that was decided at a time goes out. -/
structure GoesOut (scenario : Scenario) (merchantPolicy : MerchantPolicy) (decisionAt : Int) :
    Prop where
  unblocked : Unblocked scenario merchantPolicy
  inHorizon : sendingTime scenario merchantPolicy decisionAt ≤ merchantPolicy.recoveryHorizonMs
  unrecovered : scenario.naturalBy (sendingTime scenario merchantPolicy decisionAt) = false

/-- **What the safety gate lets out**, of the decisions that it checks. -/
theorem safetyGate_passes_iff (hgated : decision.Gated) :
    (safetyGate scenario merchantPolicy decision atMs).suppressionReason = none ↔
      GoesOut scenario merchantPolicy atMs := by
  unfold safetyGate
  rw [if_pos hgated.useSafetyGate]
  dsimp only
  constructor
  · intro h
    split at h
    next => exact absurd h (by simp)
    next hsound =>
      obtain ⟨hunblocked, hat, hle⟩ := applyGuardrails_none_iff.mp (Prod.ext_iff.mpr ⟨rfl, h⟩)
      refine ⟨hunblocked, hat ▸ hle, ?_⟩
      rw [hat]
      by_contra hnatural
      exact hsound ⟨h, hgated.revalidateBeforeAction, by simpa using hnatural⟩
  · intro h
    have hpass : applyGuardrails scenario merchantPolicy atMs =
        (sendingTime scenario merchantPolicy atMs, none) :=
      applyGuardrails_none_iff.mpr ⟨h.unblocked, rfl, h.inHorizon⟩
    rw [hpass]
    dsimp only
    rw [h.unrecovered, if_neg (by simp)]

theorem safetyGate_executionAt (hgated : decision.Gated)
    (h : GoesOut scenario merchantPolicy atMs) :
    (safetyGate scenario merchantPolicy decision atMs).executionAt =
      sendingTime scenario merchantPolicy atMs := by
  have hpass : applyGuardrails scenario merchantPolicy atMs =
      (sendingTime scenario merchantPolicy atMs, none) :=
    applyGuardrails_none_iff.mpr ⟨h.unblocked, rfl, h.inHorizon⟩
  unfold safetyGate
  rw [if_pos hgated.useSafetyGate, hpass]
  dsimp only
  rw [h.unrecovered, if_neg (by simp)]

end

end Retrywise.Simulator
