import Retrywise.ControlPlane.Executor

/-!
# The persisted path of a create

`create_effect_worker.py`, the writer: the three rows a create effect moves (its
action, its recovery case, its instrument), the conditional `UPDATE` statements
that move them, and the two transactions built of them, one before the provider
is called and one after.

An `Update` is one statement: its `WHERE`, its `SET`, and the operation it raises
with when no row matches. A transaction runs its statements one after the other
and is rolled back by the first that raises, so `runUpdates` returns the path that
is committed, or the exception.

What the database adds is the `Server`: the triggers and checks every changed row
has to pass. The laws of the writer hold for any server; `PathLifecycle` has the
one of the migrations.
-/

namespace Retrywise.ControlPlane

open Retrywise.Foundation Retrywise.Domain

/-! ## Columns -/

inductive ActionStatus where
  | planned | queued | executing | succeeded | failedRetryable | failedSafe | uncertain
  | reconciling | reconciled | deadLetter | cancelled
deriving DecidableEq, Repr

inductive InstrumentStatus where
  | creating | uncertain | issued | active | cancelPending | paid | partiallyPaid | cancelled
  | expired | failed
deriving DecidableEq, Repr

inductive ReconciliationStatus where
  | notRequired | pending | confirmed | conflict | unknown
deriving DecidableEq, Repr

inductive GateVerdict where
  | allowed | blocked | approvalRequired
deriving DecidableEq, Repr

inductive ApprovalVerdict where
  | pending | approved | rejected | expired | cancelled
deriving DecidableEq, Repr

inductive MerchantStatus where
  | active | suspended | offboarded
deriving DecidableEq, Repr

inductive ProviderEnvironment where
  | test | live
deriving DecidableEq, Repr

/-! ## Rows -/

structure ActionRow where
  id : String
  actionKey : String
  externalReferenceId : Option String
  status : ActionStatus
  attemptNumber : Nat
  maxAttempts : Nat
  leaseOwner : Option String
  leaseExpiresAt : Option Timestamp
  effectGateSnapshot : Option String
  effectGateVerdict : Option GateVerdict
  effectGateReasonCodes : List String
  responseMetadata : Option String
  providerStatus : Option String
  reconciliationStatus : ReconciliationStatus
  providerResourceId : Option String
  firstAttemptedAt : Option Timestamp
  lastAttemptedAt : Option Timestamp
  completedAt : Option Timestamp
  lastErrorCode : Option String
  deadLetteredAt : Option Timestamp
  deadLetterReason : Option String
deriving DecidableEq

structure CaseRow where
  state : RecoveryState
  version : Nat
  observationContractVersion : Nat
  lastActionId : Option String
  terminalReasonCode : Option String
  terminalAt : Option Timestamp
deriving DecidableEq

structure InstrumentRow where
  status : InstrumentStatus
  referenceId : String
  providerPaymentLinkId : Option String
  lastProviderStatus : Option String
  reconciliationStatus : ReconciliationStatus
  lastReconciledAt : Option Timestamp
  amountMinor : Nat
  collectedMinor : Nat
deriving DecidableEq

/-- The approval attached to an action. -/
structure ApprovalRow where
  id : String
  verdict : ApprovalVerdict
  approverSubject : Option String
  actedAt : Option Timestamp
  expiresAt : Timestamp
deriving DecidableEq

/-- What no create delivery writes: the order, the merchant, the provider account,
the decision behind the action with its approval, and the link ids that other
instruments of the account have taken. -/
structure Surroundings where
  orderTruth : CanonicalPaymentState
  merchantStatus : MerchantStatus
  merchantKillSwitch : Bool
  accountEnvironment : ProviderEnvironment
  accountEnabled : Bool
  planningVerdict : GateVerdict
  approval : Option ApprovalRow
  otherLinks : List String
deriving DecidableEq

structure EffectPath where
  action : ActionRow
  recoveryCase : CaseRow
  instrument : InstrumentRow
  around : Surroundings
deriving DecidableEq

/-! ## Statements -/

inductive PathTable where
  | actions | recoveryCases | recoveryInstruments
deriving DecidableEq, Repr

/-- The database behind the writer: what its triggers and checks admit, and whether
it stores an untyped `CASE` of two literals in an enum column. PostgreSQL gives
such a `CASE` the type text, which it does not assign to an enum. -/
structure Server where
  admits : Timestamp → PathTable → EffectPath → EffectPath → Bool
  storesCaseText : Bool

/-- A conditional `UPDATE` of one row. -/
structure Update where
  table : PathTable
  operation : String
  applied : EffectPath → Option EffectPath
  typed : Bool := true

/-- A statement on the case: it matches a state and a version, and advances the version. -/
def onCase (operation : String) (states : List RecoveryState) (version : Nat)
    (assign : CaseRow → CaseRow) : Update where
  table := .recoveryCases
  operation := operation
  applied path :=
    if path.recoveryCase.state ∈ states ∧ path.recoveryCase.version = version then
      some { path with
        recoveryCase := { assign path.recoveryCase with version := version + 1 } }
    else none

/-- A statement on the action: it matches a status. -/
def onAction (operation : String) (statuses : List ActionStatus)
    (assign : ActionRow → ActionRow) : Update where
  table := .actions
  operation := operation
  applied path :=
    if path.action.status ∈ statuses then some { path with action := assign path.action }
    else none

/-- A statement on the instrument: it matches a status. -/
def onInstrument (operation : String) (statuses : List InstrumentStatus)
    (assign : InstrumentRow → InstrumentRow) : Update where
  table := .recoveryInstruments
  operation := operation
  applied path :=
    if path.instrument.status ∈ statuses then
      some { path with instrument := assign path.instrument }
    else none

/-- Run the statements of a transaction; the first that raises rolls it back. -/
def runUpdates (server : Server) (now : Timestamp) :
    List Update → EffectPath → Except ControlPlaneError EffectPath
  | [], path => .ok path
  | update :: updates, path =>
    if update.typed = false then
      .error (.database "column is of an enum type but expression is of type text")
    else
      match update.applied path with
      | none => .error (.persistence update.operation)
      | some changed =>
        if server.admits now update.table path changed then runUpdates server now updates changed
        else .error (.database "refused by a trigger or a check of the table")

/-! ## Before the effect -/

def startCaseExecution (version : Nat) : Update :=
  onCase "case_execution_start_failed" [.actionQueued] version
    fun c => { c with state := .executing }

def startActionExecution (worker : String) (leaseExpiresAt : Option Timestamp)
    (snapshot : String) (evaluatedAt : Timestamp) : Update :=
  onAction "action_execution_start_failed" [.queued] fun a =>
    { a with
      status := .executing
      attemptNumber := a.attemptNumber + 1
      leaseOwner := some worker
      leaseExpiresAt := leaseExpiresAt
      effectGateSnapshot := some snapshot
      effectGateVerdict := some .allowed
      effectGateReasonCodes := []
      firstAttemptedAt := some (a.firstAttemptedAt.getD evaluatedAt)
      lastAttemptedAt := some evaluatedAt }

def startReconciliation (worker : String) (leaseExpiresAt : Option Timestamp)
    (evaluatedAt : Timestamp) : Update :=
  onAction "reconciliation_start_failed" [.uncertain, .reconciling] fun a =>
    { a with
      status := .reconciling
      leaseOwner := some worker
      leaseExpiresAt := leaseExpiresAt
      lastAttemptedAt := some evaluatedAt }

/-! ## After the effect: created or adopted -/

/-- It also matches on the link id; here the caller has looked at that already, and
the statement is written out. -/
def issueInstrument (linkId : String) (completedAt : Timestamp) : Update where
  table := .recoveryInstruments
  operation := "instrument_issue_failed"
  applied path :=
    if path.instrument.status ∈ [.creating, .uncertain] ∧
        path.instrument.providerPaymentLinkId.all (· = linkId) then
      some { path with
        instrument := { path.instrument with
          status := .issued
          providerPaymentLinkId := some (path.instrument.providerPaymentLinkId.getD linkId)
          lastProviderStatus := some "created"
          reconciliationStatus := .confirmed
          lastReconciledAt := some completedAt } }
    else none

def activateInstrument : Update :=
  onInstrument "instrument_activation_failed" [.issued] fun i => { i with status := .active }

def completeAction (expected final : ActionStatus) (metadata linkId : String)
    (completedAt : Timestamp) : Update :=
  onAction "action_completion_failed" [expected] fun a =>
    { a with
      status := final
      leaseOwner := none
      leaseExpiresAt := none
      responseMetadata := some metadata
      providerStatus := some "created"
      reconciliationStatus := .confirmed
      providerResourceId := some linkId
      completedAt := some completedAt
      lastErrorCode := none }

def activateCase (expected : RecoveryState) (version : Nat) : Update :=
  onCase "case_activation_failed" [expected] version fun c => { c with state := .active }

/-! ## After the effect: nothing certain -/

def markUncertainAction (reason : String) : Update :=
  onAction "action_uncertain_failed" [.executing] fun a =>
    { a with
      status := .uncertain
      leaseOwner := none
      leaseExpiresAt := none
      reconciliationStatus := .pending
      lastErrorCode := some reason }

def markUncertainInstrument : Update :=
  onInstrument "instrument_uncertain_failed" [.creating] fun i =>
    { i with
      status := .uncertain
      reconciliationStatus := .pending
      lastProviderStatus := some "unknown" }

/-- `_MARK_UNCERTAIN_CASE`, and word for word `_MARK_CASE_UNCERTAIN`. -/
def markUncertainCase (version : Nat) : Update :=
  onCase "case_uncertain_failed" [.executing] version
    fun c => { c with state := .actionUncertain }

/-! ## After the effect: once more -/

def markActionRetryable (reason : String) : Update :=
  onAction "action_retryable_failed" [.executing] fun a =>
    { a with
      status := .failedRetryable
      leaseOwner := none
      leaseExpiresAt := none
      lastErrorCode := some reason }

def queueRetryableAction : Update :=
  onAction "action_requeue_failed" [.failedRetryable] fun a => { a with status := .queued }

def requeueActionFromReconciling (reason : String) : Update :=
  onAction "action_requeue_failed" [.reconciling] fun a =>
    { a with
      status := .queued
      leaseOwner := none
      leaseExpiresAt := none
      lastErrorCode := some reason }

/-- `_QUEUE_UNCERTAIN_CASE`, and word for word `_REQUEUE_CASE_FROM_UNCERTAIN`. -/
def queueUncertainCase (version : Nat) : Update :=
  onCase "case_requeue_failed" [.actionUncertain] version
    fun c => { c with state := .actionQueued }

def resetUncertainInstrument : Update :=
  onInstrument "instrument_requeue_failed" [.uncertain] fun i =>
    { i with status := .creating, reconciliationStatus := .pending }

/-! ## After the effect: failed for good -/

/-- The status column is set from a `CASE` whose branches carry no cast. -/
def failAction (server : Server) (reason : String) (completedAt : Timestamp) : Update :=
  { onAction "action_failure_persistence_failed" [.queued, .executing, .reconciling] fun a =>
      { a with
        status := if a.status ∈ [.executing, .reconciling] then .failedSafe else .deadLetter
        leaseOwner := none
        leaseExpiresAt := none
        completedAt := some completedAt
        lastErrorCode := some reason
        deadLetteredAt := if a.status = .queued then some completedAt else none
        deadLetterReason := if a.status = .queued then some reason else none } with
    typed := server.storesCaseText }

def failInstrument (completedAt : Timestamp) : Update :=
  onInstrument "instrument_failure_persistence_failed" [.creating, .uncertain] fun i =>
    { i with
      status := .failed
      reconciliationStatus := .conflict
      lastReconciledAt := some completedAt }

/-- `_FAIL_CASE`, and for one given state `_SUPPRESS_CASE`. -/
def endCase (operation : String) (states : List RecoveryState) (version : Nat)
    (terminal : RecoveryState) (reason : String) (completedAt : Timestamp) : Update :=
  onCase operation states version fun c =>
    { c with
      state := terminal
      terminalReasonCode := some reason
      terminalAt := some completedAt }

def failCase (version : Nat) (reason : String) (completedAt : Timestamp) : Update :=
  endCase "case_failure_persistence_failed" [.actionQueued, .executing, .actionUncertain] version
    .failedSafe reason completedAt

/-! ## After the effect: suppressed -/

def cancelQueuedAction (snapshot : String) (reasonCodes : List String) (reason : String)
    (completedAt : Timestamp) : Update :=
  onAction "action_suppression_failed" [.queued] fun a =>
    { a with
      status := .cancelled
      effectGateSnapshot := some snapshot
      effectGateVerdict := some .blocked
      effectGateReasonCodes := reasonCodes
      completedAt := some completedAt
      lastErrorCode := some reason }

def deadLetterUncertainAction (reason : String) (completedAt : Timestamp) : Update :=
  onAction "action_suppression_failed" [.uncertain, .reconciling] fun a =>
    { a with
      status := .deadLetter
      leaseOwner := none
      leaseExpiresAt := none
      completedAt := some completedAt
      deadLetteredAt := some completedAt
      deadLetterReason := some reason
      lastErrorCode := some reason }

def suppressInstrument (reconciliation : ReconciliationStatus) (providerStatus : String)
    (completedAt : Timestamp) : Update :=
  onInstrument "instrument_suppression_failed" [.creating, .uncertain] fun i =>
    { i with
      status := .failed
      reconciliationStatus := reconciliation
      lastReconciledAt := some completedAt
      lastProviderStatus := some providerStatus }

def suppressCase (expected terminal : RecoveryState) (version : Nat) (reason : String)
    (completedAt : Timestamp) : Update :=
  endCase "case_suppression_failed" [expected] version terminal reason completedAt

/-! ## The two transactions -/

/-- `json.dumps(decision.to_primitive(), ..)`. -/
def gateSnapshot (decision : GateDecision) : String := canonicalJson decision.toPrimitive

/-- The path the lock reads is still the one the effect was decided on. -/
def EffectPath.Bound [Hashlib] (path : EffectPath) (command : CreatePaymentLinkCommand)
    (context : GateContext) : Prop :=
  path.action.actionKey = command.proposal.actionKey ∧
    path.action.externalReferenceId = some command.request.referenceId ∧
    path.instrument.referenceId = command.request.referenceId ∧
    path.instrument.providerPaymentLinkId = none ∧
    path.around.orderTruth = .unpaid ∧
    path.around.merchantStatus = .active ∧
    path.around.merchantKillSwitch = false ∧
    path.around.accountEnvironment = .test ∧
    path.around.accountEnabled = true ∧
    path.recoveryCase.version = context.aggregateVersion ∧
    path.instrument.status ∈ [InstrumentStatus.creating, .uncertain]

instance EffectPath.decidableBound [Hashlib] (path : EffectPath) (command : CreatePaymentLinkCommand)
    (context : GateContext) : Decidable (path.Bound command context) :=
  inferInstanceAs (Decidable (_ ∧ _))

/-- The statements of `record_effect_authorization`. -/
def authorizationUpdates (path : EffectPath) (job : OutboxJob) (decision : GateDecision)
    (workerId : String) (reconciliationOnly : Bool) : Except ControlPlaneError (List Update) :=
  if reconciliationOnly then
    if path.recoveryCase.state ≠ .actionUncertain ∨
        path.action.status ∉ [ActionStatus.uncertain, .reconciling] then
      .error (.persistence "reconciliation_path_invalid")
    else .ok [startReconciliation workerId job.leaseExpiresAt decision.evaluatedAt]
  else if path.recoveryCase.state = .actionQueued ∧ path.action.status = .queued then
    .ok [startCaseExecution path.recoveryCase.version,
      startActionExecution workerId job.leaseExpiresAt (gateSnapshot decision)
        decision.evaluatedAt]
  else if path.recoveryCase.state ≠ .executing ∨ path.action.status ≠ .executing then
    .error (.persistence "effect_execution_path_invalid")
  else .ok []

/-- `record_effect_authorization`, on the path it has locked. -/
def recordEffectAuthorization [Hashlib] (server : Server) (fenced : Bool) (now : Timestamp)
    (path : EffectPath) (job : OutboxJob) (command : CreatePaymentLinkCommand)
    (decision : GateDecision) (context : GateContext) (workerId : String)
    (reconciliationOnly : Bool) : Except ControlPlaneError EffectPath := do
  raiseIf (decision.allowed = false) (.persistence "effect_authorization_not_allowed")
  raiseIf (fenced = false) (.persistence "effect_fence_lost")
  raiseIf (¬path.Bound command context) (.persistence "effect_path_binding_changed")
  let updates ← authorizationUpdates path job decision workerId reconciliationOnly
  runUpdates server now updates path

/-- Under a fence that is held, on the path that was decided on, an allowed effect is
recorded by its statements. -/
theorem recordEffectAuthorization_ok_iff_runUpdates [Hashlib] {server : Server} {now : Timestamp}
    {path final : EffectPath} {job : OutboxJob} {command : CreatePaymentLinkCommand}
    {decision : GateDecision} {context : GateContext} {workerId : String}
    {reconciliationOnly : Bool} (hallowed : decision.allowed = true)
    (hbound : path.Bound command context) :
    recordEffectAuthorization server true now path job command decision context workerId
        reconciliationOnly = .ok final ↔
      ∃ updates, authorizationUpdates path job decision workerId reconciliationOnly =
          .ok updates ∧
        runUpdates server now updates path = .ok final := by
  rw [recordEffectAuthorization, bind_of_ok (raiseIf_of_not _ (by simp [hallowed])),
    bind_of_ok (raiseIf_of_not _ (by simp)), bind_of_ok (raiseIf_of_not _ (by simp [hbound]))]
  exact bind_ok_iff

/-- The instrument can still be settled by a result. -/
def EffectPath.unsettled (path : EffectPath) : Bool :=
  path.instrument.status = .creating || path.instrument.status = .uncertain

/-- `result.reason_code[:500]`. -/
def ExecutionResult.reasonText (result : ExecutionResult) : String :=
  String.ofList (result.reasonCode.toList.take 500)

/-- The metadata of a link that was created or adopted. -/
def ExecutionResult.responseMetadata (result : ExecutionResult) : String :=
  canonicalJson (.obj [
    ("reason_code", .str result.reasonCode), ("reference_id", .str result.referenceId)])

/-- The statements a created or adopted link is settled with. -/
def adoptionUpdates (path : EffectPath) (result : ExecutionResult) (linkId : String) :
    List Update :=
  let completedAt := result.effectDecision.evaluatedAt
  (if path.unsettled then [issueInstrument linkId completedAt, activateInstrument] else []) ++
  [completeAction path.action.status
      (if path.action.status = .executing then .succeeded else .reconciled)
      result.responseMetadata linkId completedAt,
    activateCase path.recoveryCase.state path.recoveryCase.version]

/-- The statements a suppressed effect is settled with, for the statement that ends
the action and the terminal state of the case. -/
def suppressionUpdates (path : EffectPath) (result : ExecutionResult) (endAction : Update)
    (terminal : RecoveryState) : List Update :=
  let completedAt := result.effectDecision.evaluatedAt
  let paid := GateReason.paymentTruthNotUnpaid ∈ result.effectDecision.reasons
  [endAction] ++
  (if path.unsettled then
    [suppressInstrument (if paid then .confirmed else .conflict)
      (if paid then "payment_truth_not_unpaid" else "effect_gate_blocked") completedAt]
  else []) ++
  [suppressCase path.recoveryCase.state terminal path.recoveryCase.version result.reasonText
    completedAt]

/-- The statements of `persist_result`. -/
def resultUpdates (server : Server) (path : EffectPath) (result : ExecutionResult) :
    Except ControlPlaneError (List Update) :=
  let completedAt := result.effectDecision.evaluatedAt
  let reason := result.reasonText
  let version := path.recoveryCase.version
  match result.disposition with
  | .created | .adopted =>
    match result.paymentLinkId with
    | none => .error (.persistence "provider_link_id_missing")
    | some linkId =>
      if path.instrument.providerPaymentLinkId.any (· ≠ linkId) then
        .error (.persistence "provider_link_id_conflict")
      else .ok (adoptionUpdates path result linkId)
  | .requeryRequired =>
    .ok [markUncertainAction reason, markUncertainInstrument, markUncertainCase version]
  | .requeued =>
    match path.action.status with
    | .executing =>
      .ok [markActionRetryable reason, queueRetryableAction, markUncertainCase version,
        queueUncertainCase (version + 1)]
    | .reconciling =>
      .ok [requeueActionFromReconciling reason, queueUncertainCase version,
        resetUncertainInstrument]
    | _ => .error (.persistence "requeue_path_invalid")
  | .escalated | .deadLetter =>
    .ok ([failAction server reason completedAt] ++
      (if path.unsettled then [failInstrument completedAt] else []) ++
      [failCase version reason completedAt])
  | .suppressed =>
    let paid := GateReason.paymentTruthNotUnpaid ∈ result.effectDecision.reasons
    match path.action.status with
    | .queued =>
      .ok (suppressionUpdates path result
        (cancelQueuedAction (gateSnapshot result.effectDecision)
          (result.effectDecision.reasons.map GateReason.value) reason completedAt)
        (if paid then .suppressedPaid else .suppressedPolicy))
    | .uncertain | .reconciling =>
      .ok (suppressionUpdates path result (deadLetterUncertainAction reason completedAt)
        (if paid then .suppressedPaid else .escalated))
    | _ => .error (.persistence "suppression_path_invalid")

/-- `persist_result`, on the path it has locked. -/
def persistResult (server : Server) (fenced : Bool) (now : Timestamp) (path : EffectPath)
    (result : ExecutionResult) : Except ControlPlaneError EffectPath := do
  raiseIf (fenced = false) (.persistence "result_fence_lost")
  let updates ← resultUpdates server path result
  runUpdates server now updates path

/-- Under a fence that is held, a result is persisted by its statements. -/
theorem persistResult_ok_iff_runUpdates {server : Server} {now : Timestamp}
    {path final : EffectPath} {result : ExecutionResult} :
    persistResult server true now path result = .ok final ↔
      ∃ updates, resultUpdates server path result = .ok updates ∧
        runUpdates server now updates path = .ok final := by
  rw [persistResult, bind_of_ok (raiseIf_of_not _ (by simp))]
  exact bind_ok_iff

end Retrywise.ControlPlane
