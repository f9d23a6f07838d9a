import Retrywise.Domain.Actions

/-!
# Gate decisions

The data of `gate.py` that a case checks before it acts: the stage and reason
vocabularies, the reasons an operator approval may waive, and the decision
record with its digest.
-/

namespace Retrywise.Domain

open Retrywise.Foundation

inductive GateStage where
  | policy | effect
deriving DecidableEq, Repr

def GateStage.value : GateStage → String
  | .policy => "policy"
  | .effect => "effect"

inductive GateReason where
  | proposalMerchantMismatch | proposalCaseMismatch | actionNotYetValid | actionExpired
  | actionNotAllowed | environmentEffectsDisabled | globalKillSwitchActive
  | merchantKillSwitchActive | aggregateVersionMismatch | recoveryStateNotActionable
  | observationDeadlineMissing | observationWindowActive | paymentTruthNotUnpaid
  | providerSnapshotFromFuture | providerSnapshotStale | activeInstrumentExists
  | activeInstrumentRequired | policyCurrencyMismatch | currencyMismatch | amountMismatch
  | paymentMethodMismatch | consentMissing | customerOptedOut | cooldownActive
  | contactCapReached | quietHoursActive | incidentHealthFromFuture | incidentHealthStale
  | paymentMethodUnhealthy | attemptBudgetExhausted | confidenceUnavailable
  | confidenceBelowThreshold | abstentionRequiresApproval | externalDiagnosisRequiresApproval
  | highValueRequiresApproval | approvalRequired | approvalRejected | approvalExpired
  | approvalNotYetValid | approvalBindingMismatch | planAuthorizationMissing
  | planBindingMismatch | durableIntentMissing
deriving DecidableEq, Repr

def GateReason.value : GateReason → String
  | .proposalMerchantMismatch => "PROPOSAL_MERCHANT_MISMATCH"
  | .proposalCaseMismatch => "PROPOSAL_CASE_MISMATCH"
  | .actionNotYetValid => "ACTION_NOT_YET_VALID"
  | .actionExpired => "ACTION_EXPIRED"
  | .actionNotAllowed => "ACTION_NOT_ALLOWED"
  | .environmentEffectsDisabled => "ENVIRONMENT_EFFECTS_DISABLED"
  | .globalKillSwitchActive => "GLOBAL_KILL_SWITCH_ACTIVE"
  | .merchantKillSwitchActive => "MERCHANT_KILL_SWITCH_ACTIVE"
  | .aggregateVersionMismatch => "AGGREGATE_VERSION_MISMATCH"
  | .recoveryStateNotActionable => "RECOVERY_STATE_NOT_ACTIONABLE"
  | .observationDeadlineMissing => "OBSERVATION_DEADLINE_MISSING"
  | .observationWindowActive => "OBSERVATION_WINDOW_ACTIVE"
  | .paymentTruthNotUnpaid => "PAYMENT_TRUTH_NOT_UNPAID"
  | .providerSnapshotFromFuture => "PROVIDER_SNAPSHOT_FROM_FUTURE"
  | .providerSnapshotStale => "PROVIDER_SNAPSHOT_STALE"
  | .activeInstrumentExists => "ACTIVE_INSTRUMENT_EXISTS"
  | .activeInstrumentRequired => "ACTIVE_INSTRUMENT_REQUIRED"
  | .policyCurrencyMismatch => "POLICY_CURRENCY_MISMATCH"
  | .currencyMismatch => "CURRENCY_MISMATCH"
  | .amountMismatch => "AMOUNT_MISMATCH"
  | .paymentMethodMismatch => "PAYMENT_METHOD_MISMATCH"
  | .consentMissing => "CONSENT_MISSING"
  | .customerOptedOut => "CUSTOMER_OPTED_OUT"
  | .cooldownActive => "COOLDOWN_ACTIVE"
  | .contactCapReached => "CONTACT_CAP_REACHED"
  | .quietHoursActive => "QUIET_HOURS_ACTIVE"
  | .incidentHealthFromFuture => "INCIDENT_HEALTH_FROM_FUTURE"
  | .incidentHealthStale => "INCIDENT_HEALTH_STALE"
  | .paymentMethodUnhealthy => "PAYMENT_METHOD_UNHEALTHY"
  | .attemptBudgetExhausted => "ATTEMPT_BUDGET_EXHAUSTED"
  | .confidenceUnavailable => "CONFIDENCE_UNAVAILABLE"
  | .confidenceBelowThreshold => "CONFIDENCE_BELOW_THRESHOLD"
  | .abstentionRequiresApproval => "ABSTENTION_REQUIRES_APPROVAL"
  | .externalDiagnosisRequiresApproval => "EXTERNAL_DIAGNOSIS_REQUIRES_APPROVAL"
  | .highValueRequiresApproval => "HIGH_VALUE_REQUIRES_APPROVAL"
  | .approvalRequired => "APPROVAL_REQUIRED"
  | .approvalRejected => "APPROVAL_REJECTED"
  | .approvalExpired => "APPROVAL_EXPIRED"
  | .approvalNotYetValid => "APPROVAL_NOT_YET_VALID"
  | .approvalBindingMismatch => "APPROVAL_BINDING_MISMATCH"
  | .planAuthorizationMissing => "PLAN_AUTHORIZATION_MISSING"
  | .planBindingMismatch => "PLAN_BINDING_MISMATCH"
  | .durableIntentMissing => "DURABLE_INTENT_MISSING"

/-- The reasons an operator approval can clear. -/
def approvalBlockingReasons : List GateReason :=
  [.confidenceUnavailable, .confidenceBelowThreshold, .abstentionRequiresApproval,
    .externalDiagnosisRequiresApproval, .highValueRequiresApproval, .approvalRequired,
    .approvalRejected, .approvalExpired, .approvalNotYetValid, .approvalBindingMismatch]

structure GateDecision where
  stage : GateStage
  policyVersion : String
  proposalId : String
  actionKey : String
  proposalDigest : String
  caseId : String
  decisionVersion : Nat
  aggregateVersion : Nat
  evaluatedAt : Timestamp
  reasons : List GateReason
deriving DecidableEq

namespace GateDecision

def allowed (d : GateDecision) : Bool := d.reasons.isEmpty

def toPrimitive (d : GateDecision) : Json :=
  .obj [
    ("action_key", .str d.actionKey),
    ("aggregate_version", .int d.aggregateVersion),
    ("allowed", .bool d.allowed),
    ("case_id", .str d.caseId),
    ("decision_version", .int d.decisionVersion),
    ("evaluated_at", .str (canonicalTimestamp d.evaluatedAt)),
    ("policy_version", .str d.policyVersion),
    ("proposal_digest", .str d.proposalDigest),
    ("proposal_id", .str d.proposalId),
    ("reasons", .arr (d.reasons.map fun reason => .str reason.value)),
    ("stage", .str d.stage.value)]

def decisionDigest [Hashlib] (d : GateDecision) : String := sha256Json d.toPrimitive

end GateDecision

end Retrywise.Domain
