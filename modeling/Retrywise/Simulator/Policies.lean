import Retrywise.Foundation.DecimalContext
import Retrywise.ControlPlane.AssessmentPlanner

/-!
# Policies of the simulator

`packages/simulator`, `models.py` and `policies.py`: what a policy is shown of a case, and how
each of the policies decides. The oracle alone is handed the scenario.

The scores of a case are floats that are compared and written out as `str`, and stand here for
the decimal that `str` writes. The diagnosis model is a pure object, and stands for any function
of the features.
-/

namespace Retrywise.Simulator

open Retrywise.Foundation Retrywise.Domain Retrywise.ControlPlane

/-! ## The models -/

inductive EventKind where
  | paymentFailed | paymentCaptured | downtimeStarted | downtimeResolved | malformed
deriving DecidableEq, Repr

inductive ActionKind where
  | noAction | genericLink | alternativeLink
deriving DecidableEq, Repr

structure CostAssumptions where
  communicationCostMinor : Int := 200
  actionCostMinor : Int := 100
  incentiveCostMinor : Int := 0
  frictionPenaltyMinor : Int := 1000
  duplicatePenaltyMinor : Int := 50000
deriving DecidableEq

structure MerchantPolicy where
  merchantId : String
  providerAccountId : String
  contactCap : Int
  quietHoursStart : Int
  quietHoursEnd : Int
  approvalThresholdMinor : Int
  recoveryHorizonMs : Int
  version : String
deriving DecidableEq

structure ScenarioEvent where
  eventId : String
  kind : EventKind
  deliveredAtMs : Option Int
  providerAccountId : String
  signatureValid : Bool
deriving DecidableEq

structure PotentialOutcome where
  action : ActionKind
  wouldRecover : Bool
  recoveryDelayMs : Int
deriving DecidableEq

inductive FailureCause where
  | ordinaryRecoverable | wrongUpiPin | lateAuthorization | insufficientFunds | expiredCredential
  | unknown | upiIncident | issuerIncident | bankIncident
deriving DecidableEq, Repr

/-- The fields of a scenario that a policy is shown. -/
structure ObservableCase where
  scenarioId : String
  merchantId : String
  amountMinor : Int
  currency : String
  method : String
  observableError : String
  customerResponseScore : Decimal
  consentToContact : Bool
  failureLocalHour : Int
  anomalyScore : Decimal
deriving DecidableEq

structure Scenario extends ObservableCase where
  latentCause : FailureCause
  naturalRecoveryAtMs : Option Int
  incidentScope : Option String
  events : List ScenarioEvent
  potentialOutcomes : List PotentialOutcome
  deliveryMutations : List String
  adversarialFlags : List String

structure ObservedCase extends ObservableCase where
  providerIncidentSignal : Bool
deriving DecidableEq

structure PolicyDecision where
  action : ActionKind
  observationDelayMs : Int
  reasonCodes : List String
  useSafetyGate : Bool
  revalidateBeforeAction : Bool
deriving DecidableEq

/-- What a decision can raise. -/
inductive SimulationError where
  | diagnosis (error : ControlPlaneError)
  | decimal (signal : DecimalSignal)
  | runtime (message : String)
deriving DecidableEq

/-! ## The policies -/

/-- `DiagnosisModel.infer`. -/
abbrev Inference := List (String × String) → Except ControlPlaneError DiagnosisResult

/-- `policy_catalog`. -/
inductive EvaluationPolicy where
  | naturalRecovery | blastAll | fixedSafe | incidentAware
  | retryWise (model : Inference)
  | oracle

/-- `observed.anomaly_score >= 0.80`. -/
def ObservableCase.anomalous (observed : ObservableCase) : Bool :=
  decide (8 / 10 ≤ observed.anomalyScore.value)

def ObservedCase.incident (observed : ObservedCase) : Bool :=
  observed.providerIncidentSignal || observed.anomalous

namespace RetryWisePolicy

/-- `_ERROR_FEATURES`. -/
def errorFeatures (observableError : String) : String × String × String :=
  match observableError with
  | "temporary_processing_error" => ("provider", "processing", "gateway_timeout")
  | "incorrect_upi_pin" => ("customer", "authentication", "incorrect_pin")
  | "payment_timed_out" => ("network", "processing", "network_timeout")
  | "insufficient_balance" => ("issuer", "authorization", "insufficient_funds")
  | "expired_card" => ("issuer", "authentication", "credential_expired")
  | "unknown_error" => ("unknown", "unknown", "unknown")
  | "upi_service_unavailable" => ("provider", "processing", "provider_unavailable")
  | "issuer_unavailable" => ("issuer", "authorization", "issuer_unavailable")
  | "bank_unavailable" => ("network", "authorization", "network_timeout")
  | _ => ("unknown", "unknown", "unknown")

/-- `_ACTION_PROBABILITIES`, of a generic and of an alternative link. -/
def actionProbabilities : FailureClass → Option (Rat × Rat)
  | .providerIncident => some (12 / 100, 72 / 100)
  | .customerCorrectable => some (50 / 100, 66 / 100)
  | .credentialPermanent => some (15 / 100, 78 / 100)
  | .fundsTemporary => some (20 / 100, 30 / 100)
  | .merchantIntegration => none
  | .unknown => none

/-- `_OBSERVATION_BY_ERROR`. -/
def observationByError (observableError : String) : Int :=
  match observableError with
  | "incorrect_upi_pin" => 120000
  | "payment_timed_out" => 130000
  | "insufficient_balance" => 15 * 60000
  | "expired_card" => 120000
  | "unknown_error" => 180000
  | "upi_service_unavailable" => 150000
  | "issuer_unavailable" => 150000
  | "bank_unavailable" => 150000
  | _ => 120000

/-- `_diagnosis_features`. -/
def diagnosisFeatures (observed : ObservedCase) (incident : Bool) : List (String × String) :=
  let (errorSource, errorStep, errorReason) := errorFeatures observed.observableError
  let delay := observationByError observed.observableError
  let ageBucket :=
    if delay ≥ 10 * 60000 then "stale" else if delay ≥ 180000 then "recent" else "fresh"
  let incidentState :=
    if observed.providerIncidentSignal then "confirmed"
    else if observed.anomalous then "suspected" else "normal"
  [("payment_method", observed.method), ("error_source", errorSource), ("error_step", errorStep),
    ("error_reason", errorReason), ("incident_state", if incident then incidentState else "normal"),
    ("attempt_bucket", "first"), ("failure_age_bucket", ageBucket)]

/-- An operator of `decimal`, in the context of the thread. -/
def operate (exact : Rat) : Except SimulationError Rat :=
  match defaultContext.fix exact with
  | .error signal => .error (.decimal signal)
  | .ok value => .ok value

/-- `int((Decimal(amount) * min(probability, cap)).to_integral_value(ROUND_FLOOR))`. -/
def expectedValue (amountMinor : Int) (probability : Rat) : Except SimulationError Int := do
  let product ← operate (amountMinor * min probability (95 / 100))
  return ⌊product⌋

/-- `choose_action`, once a diagnosis is there that a link can mend. -/
def byExpectedValue (observed : ObservedCase) (costs : CostAssumptions) (incident : Bool)
    (modelReason : String) (probabilities : Rat × Rat) :
    Except SimulationError (ActionKind × List String) := do
  let weighted ← operate (75 / 100 * observed.customerResponseScore.value)
  let propensityFactor ← operate (55 / 100 + weighted)
  let genericProbability ← operate (probabilities.1 * propensityFactor)
  let alternativeProbability ← operate (probabilities.2 * propensityFactor)
  let fixedCost := costs.communicationCostMinor + costs.actionCostMinor
  let generic ← expectedValue observed.amountMinor genericProbability
  let genericValue := generic - fixedCost
  let alternativeValue ← expectedValue observed.amountMinor alternativeProbability
  if max genericValue alternativeValue ≤ 0 then
    return (.noAction, ["non_positive_expected_value", modelReason])
  else if alternativeValue > genericValue then
    return (.alternativeLink,
      [if incident then "incident_alternative_method" else "alternative_expected_value",
        "positive_expected_value", modelReason])
  else
    return (.genericLink,
      ["generic_link_expected_value", "positive_expected_value", modelReason])

def chooseAction (model : Inference) (observed : ObservedCase) (costs : CostAssumptions) :
    Except SimulationError (ActionKind × List String) :=
  let incident := observed.incident
  match model (diagnosisFeatures observed incident) with
  | .error e => .error (.diagnosis e)
  | .ok diagnosis =>
    let modelReason := s!"diagnosis_{diagnosis.predictedClass.value}"
    if diagnosis.abstained then
      if diagnosis.outOfDistribution || observed.observableError = "unknown_error" then
        .ok (.noAction, ["model_abstained", "manual_review_required", modelReason])
      else
        .ok (if incident then .alternativeLink else .genericLink,
          ["model_abstained", "deterministic_incident_aware_fallback", modelReason])
    else
      -- the classes without probabilities are those that are not recoverable
      match actionProbabilities diagnosis.predictedClass with
      | none => .ok (.noAction, ["diagnosis_not_recoverable", modelReason])
      | some probabilities => byExpectedValue observed costs incident modelReason probabilities

end RetryWisePolicy

namespace EvaluationPolicy

variable (policy : EvaluationPolicy)

/-- `observation_delay_ms`. -/
def observationDelayMs (observed : ObservedCase) : Int :=
  match policy with
  | .naturalRecovery => 0
  | .blastAll => 0
  | .fixedSafe => 120000
  | .incidentAware => 120000
  | .retryWise _ => RetryWisePolicy.observationByError observed.observableError
  | .oracle => 0

/-- `choose_action` of the policies that are not handed the truth. -/
def chooseAction (observed : ObservedCase) (costs : CostAssumptions) :
    Except SimulationError (ActionKind × List String) :=
  match policy with
  | .naturalRecovery => .ok (.noAction, ["baseline_no_intervention"])
  | .blastAll => .ok (.genericLink, ["immediate_generic_link"])
  | .fixedSafe => .ok (.genericLink, ["fixed_observation_complete"])
  | .incidentAware =>
    if observed.observableError = "unknown_error" then
      .ok (.noAction, ["unknown_failure_manual_review"])
    else if observed.incident then .ok (.alternativeLink, ["incident_aware_routing"])
    else .ok (.genericLink, ["healthy_instrument_fixed_route"])
  | .retryWise model => RetryWisePolicy.chooseAction model observed costs
  | .oracle => .error (.runtime "Oracle selection requires latent scenario truth")

def useSafetyGate : Bool :=
  match policy with
  | .blastAll => false
  | _ => true

def revalidateBeforeAction : Bool :=
  match policy with
  | .blastAll => false
  | _ => true

/-- `EvaluationPolicy.decide`. -/
def decide (observed : ObservedCase) (costs : CostAssumptions) :
    Except SimulationError PolicyDecision := do
  let (action, reasons) ← policy.chooseAction observed costs
  return {
    action
    observationDelayMs := policy.observationDelayMs observed
    reasonCodes := reasons
    useSafetyGate := policy.useSafetyGate
    revalidateBeforeAction := policy.revalidateBeforeAction }

theorem observationDelayMs_nonneg (observed : ObservedCase) :
    0 ≤ policy.observationDelayMs observed := by
  cases policy with
  | retryWise model =>
    show 0 ≤ RetryWisePolicy.observationByError observed.observableError
    unfold RetryWisePolicy.observationByError
    split <;> omega
  | naturalRecovery => exact le_refl _
  | blastAll => exact le_refl _
  | fixedSafe => exact Int.le_of_lt (by omega : (0 : Int) < 120000)
  | incidentAware => exact Int.le_of_lt (by omega : (0 : Int) < 120000)
  | oracle => exact le_refl _

theorem decide_delay {observed : ObservedCase} {costs : CostAssumptions}
    {decision : PolicyDecision} (h : policy.decide observed costs = .ok decision) :
    decision.observationDelayMs = policy.observationDelayMs observed := by
  unfold EvaluationPolicy.decide at h
  simp only [bind_ok_iff, pure_ok_iff] at h
  obtain ⟨_, -, rfl⟩ := h
  rfl

end EvaluationPolicy

end Retrywise.Simulator
