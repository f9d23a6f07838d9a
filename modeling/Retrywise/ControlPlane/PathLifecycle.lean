import Retrywise.ControlPlane.EffectPath

/-!
# What the database admits on the path of a create

The triggers and table checks of the migrations (`001_initial.sql`,
`003_enforce_effect_source_boundary.sql`, `004_enforce_observation_deadline.sql`,
`008_allow_late_link_money_truth.sql`) on the rows a create delivery changes: the
edges of the three state machines, what is written once, and which columns go
with which status.

Columns no statement of the writer sets, and the checks of those alone, are left
out. The action is a `CREATE_STANDARD_PAYMENT_LINK` of the source
`RAZORPAY_TEST_MODE`, which the queries of the worker ask for.
-/

namespace Retrywise.ControlPlane

open Retrywise.Foundation Retrywise.Domain

/-- Not null, and `length(btrim(value)) > 0`. -/
def hasText (value : Option String) : Bool :=
  value.any fun text => text.toList.any fun c => c ≠ ' '

/-! ## `recovery_cases` -/

/-- `enforce_recovery_case_lifecycle`, the edges; any state may become `DUPLICATE_REVIEW`. -/
def caseEdges : RecoveryState → List RecoveryState
  | .observing => [.assessing, .suppressedPaid]
  | .assessing =>
    [.waiting, .approvalRequired, .actionQueued, .exhausted, .suppressedPolicy, .suppressedPaid,
      .escalated]
  | .waiting => [.assessing, .suppressedPaid, .suppressedPolicy, .exhausted]
  | .approvalRequired => [.actionQueued, .suppressedPolicy, .suppressedPaid]
  | .actionQueued => [.executing, .suppressedPaid, .suppressedPolicy]
  | .executing => [.active, .actionUncertain, .failedSafe, .suppressedPaid]
  | .actionUncertain => [.active, .actionQueued, .escalated, .suppressedPaid]
  | .active => [.recovered, .suppressedPaid, .assessing, .exhausted]
  | _ => []

/-- The states that need the canonical truth `UNPAID`. -/
def workflowStates : List RecoveryState :=
  [.assessing, .waiting, .approvalRequired, .actionQueued, .executing, .actionUncertain, .active]

def terminalCaseStates : List RecoveryState :=
  [.recovered, .suppressedPaid, .suppressedPolicy, .exhausted, .failedSafe, .escalated,
    .duplicateReview]

/-- `recovery_cases_terminal_ck`. -/
def CaseRow.terminalCheck (c : CaseRow) : Bool :=
  if c.state ∈ terminalCaseStates then hasText c.terminalReasonCode && c.terminalAt.isSome
  else c.terminalReasonCode.isNone && c.terminalAt.isNone

/-- `enforce_observation_deadline`: a case from before the contract does not advance. -/
def legacyTrigger (old new : CaseRow) : Bool :=
  !(old.observationContractVersion = 0 && new.state ≠ old.state &&
    new.state ∈ .recovered :: workflowStates)

def caseTrigger (around : Surroundings) (old new : CaseRow) : Bool :=
  legacyTrigger old new && new.version = old.version + 1 &&
    !(new.state ∈ workflowStates && around.orderTruth ≠ .unpaid) &&
    (new.state = old.state || new.state = .duplicateReview || new.state ∈ caseEdges old.state) &&
    new.terminalCheck

/-! ## `actions` -/

def actionEdges : ActionStatus → List ActionStatus
  | .planned => [.queued, .cancelled]
  | .queued => [.executing, .cancelled, .deadLetter]
  | .executing => [.succeeded, .failedRetryable, .failedSafe, .uncertain, .cancelled]
  | .failedRetryable => [.queued, .deadLetter, .cancelled]
  | .uncertain => [.reconciling, .deadLetter]
  | .reconciling => [.reconciled, .queued, .failedSafe, .deadLetter]
  | _ => []

def completedStatuses : List ActionStatus :=
  [.succeeded, .failedSafe, .reconciled, .deadLetter, .cancelled]

/-- The statuses an action has only behind an allowed effect. -/
def executedStatuses : List ActionStatus :=
  [.executing, .succeeded, .failedRetryable, .failedSafe, .uncertain, .reconciling, .reconciled]

namespace ActionRow

variable (a : ActionRow)

/-- `actions_lease_ck`. -/
def leaseCheck : Bool :=
  if a.status ∈ [.executing, .reconciling] then hasText a.leaseOwner && a.leaseExpiresAt.isSome
  else a.leaseOwner.isNone && a.leaseExpiresAt.isNone

/-- `actions_attempt_timeline_ck`. -/
def timelineCheck : Bool :=
  match a.firstAttemptedAt, a.lastAttemptedAt with
  | none, none => true
  | some first, some last => first ≤ last
  | _, _ => false

/-- `actions_effect_gate_pair_ck`. -/
def gatePairCheck : Bool :=
  if a.effectGateSnapshot.isNone then
    a.effectGateVerdict.isNone && a.effectGateReasonCodes.isEmpty
  else
    a.effectGateVerdict.isSome &&
      (a.effectGateVerdict = some .allowed || !a.effectGateReasonCodes.isEmpty)

/-- `actions_execution_evidence_ck`. -/
def executionEvidenceCheck : Bool :=
  a.status ∉ executedStatuses ||
    (a.effectGateSnapshot.isSome && a.effectGateVerdict = some .allowed &&
      a.firstAttemptedAt.isSome)

/-- `actions_completion_ck`. -/
def completionCheck : Bool :=
  if a.status ∈ completedStatuses then a.completedAt.isSome else a.completedAt.isNone

/-- `actions_dead_letter_ck`. -/
def deadLetterCheck : Bool :=
  if a.status = .deadLetter then a.deadLetteredAt.isSome && hasText a.deadLetterReason
  else a.deadLetteredAt.isNone && a.deadLetterReason.isNone

def checks : Bool :=
  a.attemptNumber ≤ a.maxAttempts && a.leaseCheck && a.timelineCheck && a.gatePairCheck &&
    a.executionEvidenceCheck && a.completionCheck && a.deadLetterCheck

end ActionRow

/-- What is written once, and only together with its transition. -/
def evidenceTrigger (old new : ActionRow) : Bool :=
  old.attemptNumber ≤ new.attemptNumber &&
    (old.effectGateSnapshot.isNone ||
      (new.effectGateSnapshot = old.effectGateSnapshot &&
        new.effectGateVerdict = old.effectGateVerdict &&
        new.effectGateReasonCodes = old.effectGateReasonCodes)) &&
    (old.effectGateSnapshot.isSome || new.effectGateSnapshot.isNone ||
      (new.status ≠ old.status && new.status ∈ [.executing, .cancelled])) &&
    (old.firstAttemptedAt.isNone || new.firstAttemptedAt = old.firstAttemptedAt) &&
    (old.firstAttemptedAt.isSome || new.firstAttemptedAt.isNone || new.status = .executing)

/-- Where the decision asked for an approval, it is there and has not run out. -/
def Surroundings.approvalHolds (around : Surroundings) (now : Timestamp) : Bool :=
  around.planningVerdict ≠ .approvalRequired ||
    around.approval.any fun approval =>
      approval.verdict = .approved && approval.actedAt.any (· ≤ approval.expiresAt) &&
        now ≤ approval.expiresAt

/-- What has to be so when an execution starts. -/
def executionTrigger (now : Timestamp) (path : EffectPath) (new : ActionRow) : Bool :=
  path.around.accountEnvironment = .test && path.around.accountEnabled &&
    path.recoveryCase.state = .executing && path.recoveryCase.lastActionId = some new.id &&
    path.around.orderTruth = .unpaid && path.around.merchantStatus = .active &&
    !path.around.merchantKillSwitch &&
    new.externalReferenceId = some path.instrument.referenceId &&
    path.instrument.status = .creating && path.around.approvalHolds now

def actionTrigger (now : Timestamp) (path : EffectPath) (new : ActionRow) : Bool :=
  let old := path.action
  evidenceTrigger old new &&
    (!(new.status = .executing && new.status ≠ old.status) || executionTrigger now path new) &&
    old.status ∉ completedStatuses &&
    (new.status = old.status || new.status ∈ actionEdges old.status) && new.checks

/-! ## `recovery_instruments` -/

def instrumentEdges : InstrumentStatus → List InstrumentStatus
  | .creating => [.uncertain, .issued, .active, .failed]
  | .uncertain => [.creating, .issued, .active, .cancelPending, .failed]
  | .issued =>
    [.active, .cancelPending, .paid, .partiallyPaid, .cancelled, .expired, .failed]
  | .active => [.cancelPending, .paid, .partiallyPaid, .cancelled, .expired, .failed]
  | .cancelPending => [.active, .paid, .partiallyPaid, .cancelled, .expired, .failed]
  | .partiallyPaid => [.paid]
  | .cancelled | .expired => [.paid, .partiallyPaid]
  | _ => []

namespace InstrumentRow

variable (i : InstrumentRow)

/-- `recovery_instruments_provider_id_ck`. -/
def providerIdCheck : Bool :=
  i.providerPaymentLinkId.isSome || i.status ∈ [.creating, .uncertain, .failed]

/-- `recovery_instruments_collection_ck`. -/
def collectionCheck : Bool :=
  if i.status = .paid then i.collectedMinor = i.amountMinor
  else if i.status = .partiallyPaid then 0 < i.collectedMinor && i.collectedMinor < i.amountMinor
  else i.collectedMinor = 0

/-- `recovery_instruments_provider_link_uidx`: no other instrument has the link. -/
def ownLink (around : Surroundings) : Bool :=
  !i.providerPaymentLinkId.any fun link => link ∈ around.otherLinks

end InstrumentRow

/-- The time of reconciliation does not go back. -/
def reconciledForward : Option Timestamp → Option Timestamp → Bool
  | none, _ => true
  | some _, none => false
  | some old, some new => old ≤ new

def instrumentTrigger (around : Surroundings) (old new : InstrumentRow) : Bool :=
  (old.providerPaymentLinkId.isNone || new.providerPaymentLinkId = old.providerPaymentLinkId) &&
    old.collectedMinor ≤ new.collectedMinor &&
    reconciledForward old.lastReconciledAt new.lastReconciledAt &&
    (new.status = old.status || new.status ∈ instrumentEdges old.status) &&
    new.providerIdCheck && new.collectionCheck && new.ownLink around

/-! ## The server -/

/-- The database of the migrations. -/
def schemaServer (storesCaseText : Bool) : Server where
  storesCaseText := storesCaseText
  admits now table old new :=
    match table with
    | .recoveryCases => caseTrigger old.around old.recoveryCase new.recoveryCase
    | .actions => actionTrigger now old new.action
    | .recoveryInstruments => instrumentTrigger old.around old.instrument new.instrument

/-- Every statement that is issued and matches its row is admitted. The statements
behind one that raises are not issued any more. -/
def AllAdmitted (server : Server) (now : Timestamp) : List Update → EffectPath → Prop
  | [], _ => True
  | update :: updates, path =>
    update.typed = true → ∀ changed, update.applied path = some changed →
      server.admits now update.table path changed = true ∧
        AllAdmitted server now updates changed

end Retrywise.ControlPlane
