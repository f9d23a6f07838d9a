import Retrywise.ControlPlane.Cancellation
import Retrywise.ControlPlane.PathLifecycle
import Retrywise.ControlPlane.PostgresOutbox
import Retrywise.Foundation.Run

/-!
# The cancellation worker

`cancellation_worker.py`, what carries a cancellation out: the statements its repository writes
with, and what the handler makes of a result.

The path of a cancel is its own action, the case, and the instrument of the link; the
statements move them as those of a create do, through the triggers and checks of
`PathLifecycle`.
-/

namespace Retrywise.ControlPlane.Cancellation

open Retrywise.Foundation Retrywise.Domain

section

variable [Hashlib]

/-- The action and the instrument are those of the target. -/
def targets (path : EffectPath) (target : TargetFields) : Bool :=
  path.action.id = target.actionId && path.action.actionKey = target.actionKey &&
    path.instrument.providerPaymentLinkId = some target.paymentLinkId

end

/-! ## Statements -/

/-- `SET` of `_ACTION_TO_RECONCILING`. -/
def reconcilingRow (worker : String) (leaseExpiresAt : Option Timestamp) (completedAt : Timestamp)
    (a : ActionRow) : ActionRow :=
  { a with
    status := .reconciling
    leaseOwner := some worker
    leaseExpiresAt := leaseExpiresAt
    lastAttemptedAt := some completedAt }

/-- `_ACTION_TO_RECONCILING`. -/
def actionToReconciling (worker : String) (leaseExpiresAt : Option Timestamp)
    (completedAt : Timestamp) : Update :=
  onAction "cancel_reconciliation_start_failed" [.uncertain]
    (reconcilingRow worker leaseExpiresAt completedAt)

/-- `SET` of `_COMPLETE_ACTION` and of `_CANCEL_QUEUED_ACTION`. -/
def completedRow (final : ActionStatus) (metadata : String) (providerStatus : Option String)
    (linkId : String) (completedAt : Timestamp) (a : ActionRow) : ActionRow :=
  { a with
    status := final
    leaseOwner := none
    leaseExpiresAt := none
    responseMetadata := some metadata
    providerStatus := providerStatus
    reconciliationStatus := .confirmed
    providerResourceId := some linkId
    completedAt := some completedAt
    lastErrorCode := none }

/-- `_COMPLETE_ACTION`, and for a queued action `_CANCEL_QUEUED_ACTION`. -/
def completeAction (expected final : ActionStatus) (metadata : String)
    (providerStatus : Option String) (linkId : String) (completedAt : Timestamp) : Update :=
  onAction "cancel_action_completion_failed" [expected]
    (completedRow final metadata providerStatus linkId completedAt)

/-- `_COMPLETE_INSTRUMENT`. -/
def completeInstrument (final : InstrumentStatus) (providerStatus : Option String)
    (completedAt : Timestamp) : Update :=
  onInstrument "cancel_instrument_completion_failed" [.uncertain, .issued, .active, .cancelPending]
    fun i =>
      { i with
        status := final
        lastProviderStatus := providerStatus
        reconciliationStatus := .confirmed
        lastReconciledAt := some completedAt }

/-- `_MARK_ACTION_UNCERTAIN`. -/
def markActionUncertain (reason : String) : Update :=
  onAction "cancel_action_uncertain_failed" [.executing] fun a =>
    { a with
      status := .uncertain
      leaseOwner := none
      leaseExpiresAt := none
      reconciliationStatus := .pending
      lastErrorCode := some reason }

/-- `_QUEUE_RECONCILING_ACTION`. -/
def queueReconcilingAction (reason : String) : Update :=
  onAction "cancel_action_requeue_failed" [.reconciling] fun a =>
    { a with
      status := .queued
      leaseOwner := none
      leaseExpiresAt := none
      lastErrorCode := some reason }

/-- `SET` of `_FAIL_ACTION`. -/
def failedRow (reason : String) (completedAt : Timestamp) (a : ActionRow) : ActionRow :=
  { a with
    status := if a.status = .executing then .failedSafe else .deadLetter
    leaseOwner := none
    leaseExpiresAt := none
    completedAt := some completedAt
    lastErrorCode := some reason
    deadLetteredAt := if a.status = .executing then none else some completedAt
    deadLetterReason := if a.status = .executing then none else some reason }

/-- `_FAIL_ACTION`. -/
def failAction (reason : String) (completedAt : Timestamp) : Update :=
  onAction "cancel_action_failure_failed" [.queued, .executing, .uncertain, .reconciling]
    (failedRow reason completedAt)

/-- `_RESTORE_INSTRUMENT`. -/
def restoreInstrument (completedAt : Timestamp) : Update :=
  onInstrument "cancel_instrument_restore_failed" [.cancelPending] fun i =>
    { i with
      status := .active
      reconciliationStatus := .conflict
      lastReconciledAt := some completedAt }

/-- `_MARK_DUPLICATE_REVIEW`; it is sent where there is something to mark. -/
def markDuplicateReview (reason : String) (completedAt : Timestamp) : Update where
  table := .recoveryCases
  operation := "no row"
  applied path := some { path with
    recoveryCase := { path.recoveryCase with
      state := .duplicateReview
      version := path.recoveryCase.version + 1
      terminalReasonCode := some reason
      terminalAt := some completedAt } }

/-! ## What the database admits -/

/-- `enforce_action_lifecycle` on a `CANCEL_PAYMENT_LINK` action: its execution needs an
enabled test account, and the approval where the decision asked for one. -/
def actionTrigger (now : Timestamp) (path : EffectPath) (new : ActionRow) : Bool :=
  let old := path.action
  evidenceTrigger old new &&
    (!(new.status = .executing && new.status ≠ old.status) ||
      (path.around.accountEnvironment = .test && path.around.accountEnabled &&
        path.around.approvalHolds now)) &&
    old.status ∉ completedStatuses &&
    (new.status = old.status || new.status ∈ actionEdges old.status) && new.checks

/-- The database of the migrations, for the path of a cancel. Every `CASE` of the writer
is cast. -/
def server : Server where
  storesCaseText := true
  admits now table old new :=
    match table with
    | .recoveryCases => caseTrigger old.around old.recoveryCase new.recoveryCase
    | .actions => actionTrigger now old new.action
    | .recoveryInstruments => instrumentTrigger old.around old.instrument new.instrument

/-! ## The two transactions -/

/-- `result.reason_code[:500]`. -/
def reasonText (result : CancellationResult) : String :=
  String.ofList (result.reasonCode.toList.take 500)

def responseMetadata (result : CancellationResult) : String :=
  canonicalJson (.obj [
    ("cancel_attempted", .bool result.cancelAttempted),
    ("disposition", .str result.disposition.value),
    ("reason_code", .str result.reasonCode)])

/-- How a cancelled or expired link is settled: the action by the status it is in, then
the instrument, unless it says so already. -/
def completionUpdates (path : EffectPath) (job : OutboxJob) (result : CancellationResult)
    (final : InstrumentStatus) (completedAt : Timestamp) : List Update :=
  let providerStatus := result.providerStatus.map fun status => status.value
  let finish (expected final : ActionStatus) :=
    completeAction expected final (responseMetadata result) providerStatus result.paymentLinkId
      completedAt
  (match path.action.status with
    | .queued => [finish .queued .cancelled]
    | .uncertain =>
      [actionToReconciling (job.leaseOwner.getD "") job.leaseExpiresAt completedAt,
        finish .reconciling .reconciled]
    | .executing => [finish .executing .succeeded]
    | .cancelled => []
    | other => [finish other .reconciled]) ++
  if path.instrument.status = final then []
  else [completeInstrument final providerStatus completedAt]

/-- The statements of `persist_result`. -/
def resultUpdates (path : EffectPath) (job : OutboxJob) (result : CancellationResult)
    (completedAt : Timestamp) : List Update :=
  let reason := reasonText result
  match result.disposition with
  | .cancelled | .alreadyCancelled => completionUpdates path job result .cancelled completedAt
  | .expired => completionUpdates path job result .expired completedAt
  | .reconcileRequired =>
    if result.cancelAttempted = true ∧ path.action.status = .executing then
      [markActionUncertain reason]
    else if result.cancelAttempted = false ∧ path.action.status = .uncertain then
      [actionToReconciling (job.leaseOwner.getD "") job.leaseExpiresAt completedAt,
        queueReconcilingAction reason]
    else []
  | .reviewRequired =>
    [failAction reason completedAt] ++
      if path.recoveryCase.state = .duplicateReview then []
      else [markDuplicateReview reason completedAt]
  | .blocked | .escalated | .deadLetter =>
    [failAction reason completedAt] ++
      if path.instrument.status = .cancelPending then [restoreInstrument completedAt] else []

/-- `persist_result`, on the path it has locked. -/
def persistResult (fenced : Bool) (now : Timestamp) (path : EffectPath) (job : OutboxJob)
    (result : CancellationResult) (completedAt : Timestamp) :
    Except ControlPlaneError EffectPath := do
  raiseIf (fenced = false) (.persistence "cancellation_fence_lost")
  runUpdates server now (resultUpdates path job result completedAt) path

/-- The dispositions with which a cancellation is over as it was meant to be. -/
def completedDispositions : List CancellationDisposition := [.cancelled, .alreadyCancelled, .expired]

/-- What the handler makes of an exception. -/
def handlerFailure : ControlPlaneError → HandlerResult
  | .persistence _ => .retry "cancellation_persistence_unavailable" .reconcileOnly
  | _ => .retry "cancellation_execution_unavailable" .reconcileOnly

end Retrywise.ControlPlane.Cancellation
