import Retrywise.Domain.Aggregate

/-!
# The two-stage gate

`gate.py`, the evaluation: a gate has a policy and no clock, database or client,
so every fact it looks at comes in with the context. It is asked twice, before
an action is planned and before its effect, and answers with the list of reasons
against the action; an empty list is an authorization.

The source appends its reasons to one list from top to bottom. Here the list is
put together from named parts in the same order, one part for each thing that is
looked at. The time up to which a fact counts as known, the evaluation time plus
the clock skew, is computed once; it can leave the calendar, and the evaluation
raises there.

Timestamps are stored normalized to UTC; the fields here are the stored ones.
-/

namespace Retrywise.Domain

open Retrywise.Foundation

/-! ## Approvals -/

structure ApprovalFields where
  approvalId : String
  merchantId : String
  caseId : String
  actionKey : String
  proposalDigest : String
  decisionVersion : Nat
  approvedBy : String
  approvedAt : Timestamp
  expiresAt : Timestamp
  granted : Bool := true

/-- `Approval.__post_init__`. -/
def ApprovalFields.postInit (a : ApprovalFields) : Except DomainError Unit := do
  let _ ← requireIdentifier a.approvalId "approval_id"
  let _ ← requireIdentifier a.merchantId "merchant_id"
  let _ ← requireIdentifier a.caseId "case_id"
  let _ ← requireIdentifier a.approvedBy "approved_by"
  raiseIf (¬isActionKey a.actionKey) (.invalidValue "approval action_key is invalid")
  raiseIf (¬isDigest a.proposalDigest) (.invalidValue "approval proposal_digest is invalid")
  raiseIf (a.decisionVersion < 1) (.invalidValue "approval decision_version must be positive")
  raiseIf (a.expiresAt ≤ a.approvedAt)
    (.invalidValue "approval expires_at must be after approved_at")

/-- An operator's answer to one proposal. -/
structure Approval extends ApprovalFields where
  valid : toApprovalFields.postInit = .ok ()

/-! ## Policy, snapshot and context -/

structure GatePolicyFields where
  version : String
  allowedActions : List ActionType
  providerSnapshotMaxAge : Timedelta
  incidentHealthMaxAge : Timedelta
  maxAttempts : Nat
  maxContactsInWindow : Nat
  approvalThreshold : Money
  minConfidence : Probability
  allowedClockSkew : Timedelta := seconds 5

/-- `GatePolicy.__post_init__`. -/
def GatePolicyFields.postInit (p : GatePolicyFields) : Except DomainError Unit := do
  let _ ← requireIdentifier p.version "policy version"
  raiseIf (p.allowedActions = [])
    (.invalidValue "allowed_actions must contain ActionType values")
  raiseIf (p.providerSnapshotMaxAge < 0)
    (.invalidValue "provider_snapshot_max_age must be a non-negative timedelta")
  raiseIf (p.incidentHealthMaxAge < 0)
    (.invalidValue "incident_health_max_age must be a non-negative timedelta")
  raiseIf (p.allowedClockSkew < 0)
    (.invalidValue "allowed_clock_skew must be a non-negative timedelta")

structure GatePolicy extends GatePolicyFields where
  valid : toGatePolicyFields.postInit = .ok ()

/-- What a fresh provider and method-health read found. -/
structure ProviderSnapshot where
  paymentState : CanonicalPaymentState
  amountDue : Money
  paymentMethod : String
  observedAt : Timestamp
  activeInstrumentCount : Nat
  incidentState : IncidentState
  methodHealthObservedAt : Timestamp
  paymentMethodOk : isPaymentMethod paymentMethod = true

structure GateContextFields where
  merchantId : String
  caseId : String
  evaluatedAt : Timestamp
  aggregateVersion : Nat
  expectedAggregateVersion : Nat
  recoveryState : RecoveryState
  snapshot : ProviderSnapshot
  environmentEffectsEnabled : Bool
  observationDeadline : Option Timestamp := none
  globalKillSwitch : Bool := false
  merchantKillSwitch : Bool := false
  consentGranted : Bool := true
  optedOut : Bool := false
  cooldownUntil : Option Timestamp := none
  contactsInWindow : Nat := 0
  quietHoursActive : Bool := false
  attemptsUsed : Nat := 0
  abstentionRequired : Bool := false
  externalDiagnosisReviewRequired : Bool := false
  approval : Option Approval := none
  durableIntentRecorded : Bool := false

/-- `GateContext.__post_init__`. -/
def GateContextFields.postInit (c : GateContextFields) : Except DomainError Unit := do
  let _ ← requireIdentifier c.merchantId "merchant_id"
  let _ ← requireIdentifier c.caseId "case_id"

structure GateContext extends GateContextFields where
  valid : toGateContextFields.postInit = .ok ()

/-! ## Where an action may act -/

def policyActionableStates : ActionType → List RecoveryState
  | .createStandardPaymentLink => [.assessing, .approvalRequired]
  | .notifyExistingLink => [.assessing, .approvalRequired, .active]
  | .cancelPaymentLink =>
    [.executing, .actionUncertain, .active, .suppressedPaid, .duplicateReview]
  | .wait => [.assessing]
  | .escalate => [.assessing, .waiting, .actionUncertain]
  | .stop => [.assessing, .waiting, .approvalRequired, .actionQueued]

def effectActionableStates : ActionType → List RecoveryState
  | .createStandardPaymentLink => [.actionQueued, .executing, .actionUncertain]
  | .notifyExistingLink => [.actionQueued, .executing, .active]
  | .cancelPaymentLink => policyActionableStates .cancelPaymentLink
  | .wait => []
  | .escalate => []
  | .stop => []

def actionableStates : GateStage → ActionType → List RecoveryState
  | .policy => policyActionableStates
  | .effect => effectActionableStates

/-! ## The parts of an evaluation -/

/-- The statement `if c: reasons.append(reason)`. -/
def reasonIf (c : Prop) [Decidable c] (reason : GateReason) : List GateReason :=
  if c then [reason] else []

@[simp] theorem reasonIf_eq_nil {c : Prop} [Decidable c] {reason : GateReason} :
    reasonIf c reason = [] ↔ ¬c := by
  by_cases hc : c
  · simp [reasonIf, hc]
  · simp [reasonIf, hc]

theorem mem_reasonIf {c : Prop} [Decidable c] {reason : GateReason} (hc : c) :
    reason ∈ reasonIf c reason := by
  rw [reasonIf, if_pos hc]
  exact List.mem_singleton_self _

/-- A gate: the policy it applies. -/
structure DeterministicGate where
  policy : GatePolicy

namespace DeterministicGate

variable (gate : DeterministicGate) (stage : GateStage) (proposal : ActionProposal)
  (context : GateContext) (horizon : Timestamp)

/-- The proposal is about this case, in time and allowed at all. -/
def standingReasons : List GateReason :=
  reasonIf (proposal.merchantId ≠ context.merchantId) .proposalMerchantMismatch ++
  reasonIf (proposal.caseId ≠ context.caseId) .proposalCaseMismatch ++
  reasonIf (proposal.createdAt > horizon) .actionNotYetValid ++
  reasonIf (context.evaluatedAt ≥ proposal.expiresAt) .actionExpired ++
  reasonIf (proposal.actionType ∉ gate.policy.allowedActions) .actionNotAllowed

/-- Nothing has switched effects off. -/
def switchReasons : List GateReason :=
  reasonIf (proposal.actionType ∈ externalActions ∧ ¬context.environmentEffectsEnabled)
    .environmentEffectsDisabled ++
  reasonIf (proposal.actionType ∈ collectionActions ∧ context.globalKillSwitch)
    .globalKillSwitchActive ++
  reasonIf (proposal.actionType ∈ collectionActions ∧ context.merchantKillSwitch)
    .merchantKillSwitchActive

/-- The case is the version that was read, in a state the action acts on. -/
def caseReasons : List GateReason :=
  reasonIf (context.aggregateVersion ≠ context.expectedAggregateVersion)
    .aggregateVersionMismatch ++
  reasonIf (context.recoveryState ∉ actionableStates stage proposal.actionType)
    .recoveryStateNotActionable

/-- The observation window is over. -/
def windowReasons : List GateReason :=
  match context.observationDeadline with
  | none => [.observationDeadlineMissing]
  | some deadline => reasonIf (context.evaluatedAt < deadline) .observationWindowActive

/-- A fact observed after the horizon, or before the maximum age. -/
def ageReasons (observedAt : Timestamp) (maxAge : Timedelta) (fromFuture stale : GateReason) :
    List GateReason :=
  if observedAt > horizon then [fromFuture]
  else reasonIf (context.evaluatedAt.micros - observedAt.micros > maxAge) stale

/-- Fresh payment truth says unpaid. -/
def truthReasons : List GateReason :=
  reasonIf (context.snapshot.paymentState ≠ .unpaid) .paymentTruthNotUnpaid ++
  ageReasons context horizon context.snapshot.observedAt gate.policy.providerSnapshotMaxAge
    .providerSnapshotFromFuture .providerSnapshotStale

/-- A link is created where there is none, and notified or cancelled where there
is one. -/
def instrumentReasons : List GateReason :=
  if proposal.actionType = .createStandardPaymentLink then
    reasonIf (context.snapshot.activeInstrumentCount > 0) .activeInstrumentExists
  else
    reasonIf (proposal.actionType ∈ [ActionType.notifyExistingLink, .cancelPaymentLink] ∧
      context.snapshot.activeInstrumentCount = 0) .activeInstrumentRequired

/-- The money asked for is the money due, by the method that failed. -/
def amountReasons (amount : Money) : List GateReason :=
  let due := context.snapshot.amountDue
  (if amount.currency ≠ due.currency then [.currencyMismatch]
    else reasonIf (amount.minorUnits ≠ due.minorUnits) .amountMismatch) ++
  reasonIf (proposal.paymentMethod ≠ some context.snapshot.paymentMethod)
    .paymentMethodMismatch

/-- The customer may be contacted. -/
def contactReasons : List GateReason :=
  reasonIf (¬context.consentGranted) .consentMissing ++
  reasonIf context.optedOut .customerOptedOut ++
  reasonIf (context.cooldownUntil.any fun until' => context.evaluatedAt < until')
    .cooldownActive ++
  reasonIf (context.contactsInWindow ≥ gate.policy.maxContactsInWindow) .contactCapReached ++
  reasonIf context.quietHoursActive .quietHoursActive

/-- The payment method is healthy, by a fresh reading, and attempts are left. -/
def healthReasons : List GateReason :=
  ageReasons context horizon context.snapshot.methodHealthObservedAt
    gate.policy.incidentHealthMaxAge .incidentHealthFromFuture .incidentHealthStale ++
  reasonIf (context.snapshot.incidentState = .confirmed) .paymentMethodUnhealthy ++
  reasonIf (context.attemptsUsed ≥ gate.policy.maxAttempts) .attemptBudgetExhausted

variable [Hashlib]

/-- What is wrong with the approval in the context, if anything. -/
def approvalFailure : Option GateReason :=
  match context.approval with
  | none => some .approvalRequired
  | some approval =>
    if ¬approval.granted then some .approvalRejected
    else if context.evaluatedAt < approval.approvedAt then some .approvalNotYetValid
    else if context.evaluatedAt ≥ approval.expiresAt then some .approvalExpired
    else if approval.merchantId ≠ proposal.merchantId ∨ approval.caseId ≠ proposal.caseId ∨
        approval.actionKey ≠ proposal.actionKey ∨
        approval.proposalDigest ≠ proposal.proposalDigest ∨
        approval.decisionVersion ≠ proposal.decisionVersion then
      some .approvalBindingMismatch
    else none

omit [Hashlib] in
/-- A model's confidence is given, and reaches the minimum. -/
def confidenceCauses : List GateReason :=
  match proposal.modelConfidence with
  | none => [.confidenceUnavailable]
  | some confidence =>
    reasonIf (confidence.value.value < gate.policy.minConfidence.value.value)
      .confidenceBelowThreshold

omit [Hashlib] in
/-- Why the proposal needs an approval, besides asking for one itself. -/
def approvalCauses : List GateReason :=
  let threshold := gate.policy.approvalThreshold
  reasonIf (proposal.amount.any fun amount =>
    amount.currency = threshold.currency ∧ amount.minorUnits ≥ threshold.minorUnits)
    .highValueRequiresApproval ++
  confidenceCauses gate proposal ++
  reasonIf context.abstentionRequired .abstentionRequiresApproval ++
  reasonIf context.externalDiagnosisReviewRequired .externalDiagnosisRequiresApproval

/-- The policy's currency is the proposal's, and where an approval is needed it
is there. -/
def approvalReasons : List GateReason :=
  let causes := approvalCauses gate proposal context
  reasonIf (proposal.amount.any fun amount =>
    amount.currency ≠ gate.policy.approvalThreshold.currency) .policyCurrencyMismatch ++
  if proposal.requiresApproval ∨ causes ≠ [] then
    match approvalFailure proposal context with
    | none => []
    | some failure => causes ++ [failure]
  else []

/-- The plan is an authorization of this very proposal, not newer than the
context. -/
def PlanMatches (priorPlan : GateDecision) : Prop :=
  priorPlan.stage = .policy ∧
    priorPlan.allowed ∧
    priorPlan.policyVersion = gate.policy.version ∧
    priorPlan.proposalId = proposal.proposalId ∧
    priorPlan.actionKey = proposal.actionKey ∧
    priorPlan.proposalDigest = proposal.proposalDigest ∧
    priorPlan.caseId = proposal.caseId ∧
    priorPlan.decisionVersion = proposal.decisionVersion ∧
    priorPlan.aggregateVersion ≤ context.aggregateVersion ∧
    priorPlan.evaluatedAt ≤ context.evaluatedAt

instance (priorPlan : GateDecision) :
    Decidable (PlanMatches gate proposal context priorPlan) :=
  inferInstanceAs (Decidable (_ ∧ _))

/-- The effect was planned, and its intent is on record. -/
def planReasons (priorPlan : Option GateDecision) : List GateReason :=
  (match priorPlan with
    | none => [.planAuthorizationMissing]
    | some plan => reasonIf (¬PlanMatches gate proposal context plan) .planBindingMismatch) ++
  reasonIf (¬context.durableIntentRecorded) .durableIntentMissing

/-! ## The evaluation -/

omit [Hashlib] in
/-- A part that is only looked at for some actions. -/
def only (actions : List ActionType) (reasons : List GateReason) : List GateReason :=
  if proposal.actionType ∈ actions then reasons else []

def reasons (priorPlan : Option GateDecision) : List GateReason :=
  standingReasons gate proposal context horizon ++
  switchReasons proposal context ++
  caseReasons stage proposal context ++
  only proposal collectionActions (windowReasons context) ++
  only proposal collectionActions (truthReasons gate context horizon) ++
  instrumentReasons proposal context ++
  only proposal collectionActions
    (match proposal.amount with
      | none => []
      | some amount => amountReasons proposal context amount) ++
  only proposal contactActions (contactReasons gate context) ++
  only proposal collectionActions (healthReasons gate context horizon) ++
  only proposal collectionActions (approvalReasons gate proposal context) ++
  if stage = .effect then
    only proposal externalActions (planReasons gate proposal context priorPlan)
  else []

/-- `_evaluate`. -/
def evaluate (priorPlan : Option GateDecision) : Except DomainError GateDecision := do
  let horizon ← shift context.evaluatedAt gate.policy.allowedClockSkew
  return {
    stage := stage
    policyVersion := gate.policy.version
    proposalId := proposal.proposalId
    actionKey := proposal.actionKey
    proposalDigest := proposal.proposalDigest
    caseId := proposal.caseId
    decisionVersion := proposal.decisionVersion
    aggregateVersion := context.aggregateVersion
    evaluatedAt := context.evaluatedAt
    reasons := reasons gate stage proposal context horizon priorPlan }

def evaluatePolicy : Except DomainError GateDecision :=
  evaluate gate .policy proposal context none

def evaluateEffect (priorPlan : Option GateDecision) : Except DomainError GateDecision :=
  evaluate gate .effect proposal context priorPlan

end DeterministicGate

end Retrywise.Domain
