import Retrywise.Domain.Aggregate

/-!
# The commands of the recovery aggregate

`aggregate.py`, the nineteen commands and the private checks they share, in the
order of the source. Each command takes the caller's expected version first and
the command time second.

`requireRecoveryTransition` only calls the validator for its exception: the
outcome "no change" of a self-transition is discarded there, as in the source.
-/

namespace Retrywise.Domain

open Retrywise.Foundation

/-- The record one version later, before a command's own changes. -/
def AggregateFields.advanced (a : AggregateFields) (occurredAt : Timestamp) : AggregateFields :=
  { a with
    version := a.version + 1
    lastTransitionAt := some occurredAt }

namespace RecoveryAggregate

variable (a : RecoveryAggregate)

/-! ## The shared checks -/

def requireVersion (expectedVersion : Int) : Except DomainError Unit := do
  raiseIf (expectedVersion < 0)
    (.invalidValue "expected_version must be a non-negative integer")
  raiseIf (expectedVersion ≠ a.version) (.versionConflict expectedVersion a.version)

def requireRecoveryTransition (target : RecoveryState) : Except DomainError Unit := do
  let _ ← validateRecoveryTransition a.state target

def requireProposalBinding (proposal : ActionProposal) (nextDecision : Bool) :
    Except DomainError Unit := do
  raiseIf (proposal.merchantId ≠ a.merchantId ∨ proposal.caseId ≠ a.caseId)
    (.authorizationBinding "proposal belongs to another aggregate")
  let expectedDecision := if nextDecision then a.decisionVersion + 1 else a.decisionVersion
  raiseIf (proposal.decisionVersion ≠ expectedDecision)
    (.authorizationBinding "proposal decision_version is stale or from the future")

def requireGateBinding [Hashlib] (proposal : ActionProposal) (decision : GateDecision)
    (stage : GateStage) (allowed : Bool) : Except DomainError Unit := do
  raiseIf (decision.stage ≠ stage) (.authorizationBinding "gate stage does not match command")
  raiseIf (decision.allowed ≠ allowed)
    (.authorizationBinding "gate outcome does not match command")
  raiseIf (decision.proposalId ≠ proposal.proposalId ∨
      decision.actionKey ≠ proposal.actionKey ∨
      decision.proposalDigest ≠ proposal.proposalDigest ∨
      decision.caseId ≠ a.caseId ∨
      decision.decisionVersion ≠ proposal.decisionVersion ∨
      decision.aggregateVersion ≠ a.version)
    (.authorizationBinding "gate evidence is bound to other state")

def requireActiveAction (actionKey : String) : Except DomainError Unit :=
  raiseIf (some actionKey ≠ a.activeActionKey)
    (.authorizationBinding "action key is not active for this case")

def requireObservationElapsed (atTime : Datetime) : Except DomainError Unit := do
  let evaluatedAt ← requireUtc atTime "occurred_at"
  match a.observationDeadline with
  | none => .error (.domain "observation deadline is missing")
  | some deadline =>
    raiseIf (evaluatedAt < deadline)
      (.domain "late-capture observation window has not elapsed")

/-- `_change`: the next version with the command's changes, and its event. -/
def change (eventType : String) (atTime : Datetime) (payload : List (String × Json))
    (changes : AggregateFields → AggregateFields) : Except DomainError AggregateChange := do
  let _ ← requireIdentifier eventType "event_type"
  let occurredAt ← requireUtc atTime "occurred_at"
  -- a case without a transition accepts any time
  raiseIf (a.lastTransitionAt.any fun last => occurredAt < last)
    (.invalidValue "command time cannot precede the last transition")
  -- `replace` runs the constructor again, and with it all of its checks
  let aggregate ← build (changes (a.advanced occurredAt))
  return ⟨aggregate, [{
    eventType := eventType
    caseId := a.caseId
    version := a.version + 1
    occurredAt := occurredAt
    payload := .obj payload }]⟩

/-- `_workflow_change`: a change that also moves the workflow, and may enter
assessment only after the observation deadline. -/
def workflowChange (target : RecoveryState) (eventType : String) (atTime : Datetime)
    (payload : List (String × Json)) (changes : AggregateFields → AggregateFields) :
    Except DomainError AggregateChange := do
  let _ ← validateRecoveryTransition a.state target
  if target = .assessing then
    a.requireObservationElapsed atTime
  a.change eventType atTime
    (payload ++ [("workflow_from", .str a.state.value), ("workflow_to", .str target.value)])
    fun fields => changes { fields with state := target }

/-! ## Observation and truth -/

def observeFailure (expectedVersion : Int) (atTime : Datetime) (providerEventId : String)
    (extendObservationUntil : Option Datetime) : Except DomainError AggregateChange := do
  a.requireVersion expectedVersion
  let _ ← requireIdentifier providerEventId "provider_event_id"
  -- from `OBSERVING` this is a self-transition: a repeated observation goes on
  a.requireRecoveryTransition .observing
  let observedAt ← requireUtc atTime "occurred_at"
  let observationDeadline ←
    a.lateCapturePolicy.observationDeadline observedAt.toDatetime extendObservationUntil
  a.change "RecoveryObservationStarted" observedAt.toDatetime
    [("late_capture_policy", a.lateCapturePolicy.toPrimitive),
      ("observation_deadline", .str (canonicalTimestamp observationDeadline)),
      ("provider_event_id", .str providerEventId)]
    fun fields => { fields with
      state := .observing
      observationStartedAt := some observedAt
      observationDeadline := some observationDeadline }

def reconcilePaymentTruth (expectedVersion : Int) (atTime : Datetime)
    (target : CanonicalPaymentState) (evidence : String) :
    Except DomainError AggregateChange := do
  a.requireVersion expectedVersion
  let _ ← requireIdentifier evidence "evidence"
  raiseIf (target = .paid ∨ target = .overpaid)
    (.domain "paid truth requires a path-aware success or duplicate command")
  let changed ← validatePaymentTransition a.paymentState target
  if changed then
    a.change "CanonicalPaymentTruthChanged" atTime
      [("evidence", .str evidence), ("from", .str a.paymentState.value),
        ("to", .str target.value)]
      fun fields => { fields with paymentState := target }
  else
    return a.unchanged

def updateIncidentState (expectedVersion : Int) (atTime : Datetime) (target : IncidentState)
    (evidence : String) : Except DomainError AggregateChange := do
  a.requireVersion expectedVersion
  let _ ← requireIdentifier evidence "evidence"
  let changed ← validateIncidentTransition a.incidentState target
  if changed then
    a.change "IncidentStateChanged" atTime
      [("evidence", .str evidence), ("from", .str a.incidentState.value),
        ("to", .str target.value)]
      fun fields => { fields with incidentState := target }
  else
    return a.unchanged

/-! ## Assessment -/

def markReadyForEvaluation (expectedVersion : Int) (atTime : Datetime) :
    Except DomainError AggregateChange := do
  a.requireVersion expectedVersion
  a.requireRecoveryTransition .assessing
  raiseIf (a.paymentState ≠ .unpaid)
    (.domain "only freshly reconciled UNPAID truth can be assessed")
  a.workflowChange .assessing "RecoveryAssessmentStarted" atTime
    [("observation_deadline",
      match a.observationDeadline with | none => .null | some d => .str (canonicalTimestamp d))]
    fun fields => fields

def wait (expectedVersion : Int) (atTime : Datetime) (reason : String) :
    Except DomainError AggregateChange := do
  a.requireVersion expectedVersion
  let _ ← requireIdentifier reason "reason"
  a.requireRecoveryTransition .waiting
  a.workflowChange .waiting "RecoveryWaitScheduled" atTime [("reason", .str reason)]
    fun fields => fields

def wake (expectedVersion : Int) (atTime : Datetime) : Except DomainError AggregateChange := do
  a.requireVersion expectedVersion
  a.requireRecoveryTransition .assessing
  raiseIf (a.paymentState ≠ .unpaid) (.domain "waiting case cannot re-open without UNPAID truth")
  a.workflowChange .assessing "RecoveryWaitElapsed" atTime [] fun fields => fields

/-! ## Decisions -/

variable [Hashlib]

def requestApproval (expectedVersion : Int) (atTime : Datetime) (proposal : ActionProposal)
    (planDecision : GateDecision) : Except DomainError AggregateChange := do
  a.requireVersion expectedVersion
  raiseIf (a.state ≠ .assessing)
    (.invalidTransition "recovery" a.state.value RecoveryState.approvalRequired.value)
  a.requireObservationElapsed atTime
  a.requireProposalBinding proposal true
  a.requireGateBinding proposal planDecision .policy false
  -- an approval lifts the reasons of `approvalBlockingReasons` and no others
  raiseIf (planDecision.reasons = [] ∨
      ¬∀ reason ∈ planDecision.reasons, reason ∈ approvalBlockingReasons)
    (.authorizationBinding "approval cannot override non-approval safety failures")
  raiseIf (proposal.actionType ∉ collectionActions)
    (.domain "only collection proposals use approval workflow")
  raiseIf (a.paymentState ≠ .unpaid)
    (.domain "approval cannot be requested unless payment is UNPAID")
  a.workflowChange .approvalRequired "RecoveryApprovalRequested" atTime
    [("gate_digest", .str planDecision.decisionDigest),
      ("proposal", proposal.toPrimitive),
      ("reason_codes", .arr (planDecision.reasons.map fun reason => .str reason.value))]
    fun fields => { fields with
      decisionVersion := proposal.decisionVersion
      activeActionKey := some proposal.actionKey
      activeProposalId := some proposal.proposalId }

def authorizeAction (expectedVersion : Int) (atTime : Datetime) (proposal : ActionProposal)
    (planDecision : GateDecision) : Except DomainError AggregateChange := do
  a.requireVersion expectedVersion
  raiseIf (a.state ∉ [RecoveryState.assessing, .approvalRequired])
    (.invalidTransition "recovery" a.state.value RecoveryState.actionQueued.value)
  a.requireObservationElapsed atTime
  a.requireProposalBinding proposal (a.state = .assessing)
  a.requireGateBinding proposal planDecision .policy true
  raiseIf (proposal.actionType ∉ collectionActions)
    (.domain "only collection actions enter the execution workflow")
  raiseIf (a.paymentState ≠ .unpaid) (.domain "only UNPAID truth can authorize collection")
  -- held for approval, the proposal is the pending one; its decision version is not a new one
  raiseIf (a.state = .approvalRequired ∧
      (a.activeActionKey ≠ some proposal.actionKey ∨
        a.activeProposalId ≠ some proposal.proposalId))
    (.authorizationBinding "approved proposal does not match the pending decision")
  a.requireRecoveryTransition .actionQueued
  a.workflowChange .actionQueued "RecoveryActionAuthorized" atTime
    [("gate_digest", .str planDecision.decisionDigest), ("proposal", proposal.toPrimitive)]
    fun fields => { fields with
      decisionVersion := proposal.decisionVersion
      activeActionKey := some proposal.actionKey
      activeProposalId := some proposal.proposalId }

/-- The state an internal action leads to; the other types are refused before
this is read. -/
def internalTarget : ActionType → RecoveryState
  | .wait => .waiting
  | .escalate => .escalated
  | _ => .suppressedPolicy

def recordInternalDecision (expectedVersion : Int) (atTime : Datetime)
    (proposal : ActionProposal) (planDecision : GateDecision) :
    Except DomainError AggregateChange := do
  a.requireVersion expectedVersion
  raiseIf (proposal.actionType ∉ internalActions) (.domain "proposal is not an internal action")
  a.requireProposalBinding proposal true
  a.requireGateBinding proposal planDecision .policy true
  let target := internalTarget proposal.actionType
  a.requireRecoveryTransition target
  a.workflowChange target "RecoveryInternalDecisionRecorded" atTime
    [("gate_digest", .str planDecision.decisionDigest), ("proposal", proposal.toPrimitive)]
    fun fields => { fields with decisionVersion := proposal.decisionVersion }

def beginExecution (expectedVersion : Int) (atTime : Datetime) (proposal : ActionProposal)
    (effectDecision : GateDecision) : Except DomainError AggregateChange := do
  a.requireVersion expectedVersion
  a.requireProposalBinding proposal false
  a.requireGateBinding proposal effectDecision .effect true
  raiseIf (a.state ≠ .actionQueued)
    (.invalidTransition "recovery" a.state.value RecoveryState.executing.value)
  a.requireObservationElapsed atTime
  raiseIf (a.activeActionKey ≠ some proposal.actionKey)
    (.authorizationBinding "effect action key is not pending")
  raiseIf (a.paymentState ≠ .unpaid) (.domain "payment truth changed before execution")
  a.workflowChange .executing "RecoveryActionExecutionStarted" atTime
    [("effect_gate_digest", .str effectDecision.decisionDigest),
      ("action_key", .str proposal.actionKey)]
    fun fields => fields

omit [Hashlib]

/-! ## The action's outcome -/

def recordActionActive (expectedVersion : Int) (atTime : Datetime)
    (actionKey instrumentReference : String) : Except DomainError AggregateChange := do
  a.requireVersion expectedVersion
  a.requireActiveAction actionKey
  let _ ← requireIdentifier instrumentReference "instrument_reference"
  -- only the same reference is a repetition; any other one goes through the validator
  if a.state = .active ∧ a.activeInstrumentReference = some instrumentReference then
    return a.unchanged
  else
    a.requireRecoveryTransition .active
    a.workflowChange .active "RecoveryInstrumentActivated" atTime
      [("action_key", .str actionKey), ("instrument_reference", .str instrumentReference)]
      fun fields => { fields with activeInstrumentReference := some instrumentReference }

def recordActionUncertain (expectedVersion : Int) (atTime : Datetime)
    (actionKey failureCode : String) : Except DomainError AggregateChange := do
  a.requireVersion expectedVersion
  a.requireActiveAction actionKey
  let _ ← requireIdentifier failureCode "failure_code"
  a.requireRecoveryTransition .actionUncertain
  a.workflowChange .actionUncertain "RecoveryActionOutcomeUncertain" atTime
    [("action_key", .str actionKey), ("failure_code", .str failureCode)]
    fun fields => fields

def requeueAfterAbsenceProven (expectedVersion : Int) (atTime : Datetime)
    (actionKey : String) : Except DomainError AggregateChange := do
  a.requireVersion expectedVersion
  a.requireActiveAction actionKey
  -- the validator admits every source of the edge, not only `ACTION_UNCERTAIN`
  a.requireRecoveryTransition .actionQueued
  a.workflowChange .actionQueued "RecoveryActionAbsenceProven" atTime
    [("action_key", .str actionKey)] fun fields => fields

def escalateUncertainAction (expectedVersion : Int) (atTime : Datetime)
    (actionKey reason : String) : Except DomainError AggregateChange := do
  a.requireVersion expectedVersion
  a.requireActiveAction actionKey
  let _ ← requireIdentifier reason "reason"
  a.requireRecoveryTransition .escalated
  a.workflowChange .escalated "RecoveryActionEscalated" atTime
    [("action_key", .str actionKey), ("reason", .str reason)] fun fields => fields

def recordActionFailedSafe (expectedVersion : Int) (atTime : Datetime)
    (actionKey failureCode : String) : Except DomainError AggregateChange := do
  a.requireVersion expectedVersion
  a.requireActiveAction actionKey
  let _ ← requireIdentifier failureCode "failure_code"
  a.requireRecoveryTransition .failedSafe
  a.workflowChange .failedSafe "RecoveryActionFailedSafe" atTime
    [("action_key", .str actionKey), ("failure_code", .str failureCode)]
    fun fields => fields

def recordActiveExpired (expectedVersion : Int) (atTime : Datetime) (budgetRemains : Bool) :
    Except DomainError AggregateChange := do
  a.requireVersion expectedVersion
  let target : RecoveryState := if budgetRemains then .assessing else .exhausted
  -- no look at the payment state, unlike the two other ways into assessment
  a.requireRecoveryTransition target
  a.workflowChange target "RecoveryInstrumentExpired" atTime
    [("budget_remains", .bool budgetRemains)]
    fun fields => { fields with
      activeActionKey := none
      activeProposalId := none
      activeInstrumentReference := none }

/-! ## Money -/

def recordDuplicateCollection (expectedVersion : Int) (atTime : Datetime)
    (evidence : String) : Except DomainError AggregateChange := do
  a.requireVersion expectedVersion
  let _ ← requireIdentifier evidence "evidence"
  let paymentChanged ← validatePaymentTransition a.paymentState .overpaid
  -- the edge into duplicate review is outside the table: every started case has it
  let workflowChanged ← validateRecoveryTransition a.state .duplicateReview
  if !paymentChanged && !workflowChanged then
    return a.unchanged
  else
    a.change "DuplicateCollectionDetected" atTime
      [("evidence", .str evidence), ("payment_from", .str a.paymentState.value),
        ("workflow_from", .str a.state.value)]
      fun fields => { fields with
        paymentState := .overpaid
        state := .duplicateReview
        activeActionKey := none
        activeProposalId := none }

def recordOriginalPaid (expectedVersion : Int) (atTime : Datetime) (evidence : String) :
    Except DomainError AggregateChange := do
  a.requireVersion expectedVersion
  let _ ← requireIdentifier evidence "evidence"
  raiseIf (a.state = .dormant) (.domain "a dormant case cannot process payment success")
  if a.state = .duplicateReview ∧ a.paymentState = .overpaid then
    return a.unchanged
  else if a.state = .recovered then
    -- the link was paid before: this is the second capture
    a.recordDuplicateCollection expectedVersion atTime evidence
  else
    let paymentChanged ← validatePaymentTransition a.paymentState .paid
    -- a closed case keeps its state and only learns the payment truth
    let workflowChanged : Bool := a.state ∈ nonterminalRecoveryStates
    if workflowChanged then
      a.requireRecoveryTransition .suppressedPaid
    if !paymentChanged && !workflowChanged then
      return a.unchanged
    else
      a.change "OriginalPaymentSucceeded" atTime
        [("evidence", .str evidence),
          ("payment_from", .str a.paymentState.value),
          ("payment_to", .str CanonicalPaymentState.paid.value),
          ("workflow_from", .str a.state.value),
          ("workflow_to", .str (if workflowChanged then RecoveryState.suppressedPaid.value
            else a.state.value))]
        fun fields =>
          if workflowChanged then
            { fields with
              paymentState := .paid
              state := .suppressedPaid
              activeActionKey := none
              activeProposalId := none }
          else { fields with paymentState := .paid }

def recordRecoveryPaid (expectedVersion : Int) (atTime : Datetime) (evidence : String) :
    Except DomainError AggregateChange := do
  a.requireVersion expectedVersion
  let _ ← requireIdentifier evidence "evidence"
  if a.state = .recovered ∧ a.paymentState = .paid then
    return a.unchanged
  else
    raiseIf (a.state ≠ .active)
      (.invalidTransition "recovery" a.state.value RecoveryState.recovered.value)
    if a.paymentState = .paid then
      -- the original was paid before; but then the case is closed, and not `ACTIVE`
      a.recordDuplicateCollection expectedVersion atTime evidence
    else
      let _ ← validatePaymentTransition a.paymentState .paid
      a.requireRecoveryTransition .recovered
      a.change "RecoveryPaymentSucceeded" atTime
        [("evidence", .str evidence),
          ("payment_from", .str a.paymentState.value),
          ("payment_to", .str CanonicalPaymentState.paid.value)]
        fun fields => { fields with paymentState := .paid, state := .recovered }

end RecoveryAggregate

end Retrywise.Domain
