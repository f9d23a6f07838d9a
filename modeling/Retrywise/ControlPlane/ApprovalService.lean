import Retrywise.ControlPlane.AssessmentCommit

/-!
# Approvals: one call

`approval_service.py`: an operator's verdict on a pending approval. A call loads the approval
without a lock, asks the provider where the verdict is `APPROVED`, and writes in a second
transaction, which locks the approval and its case, reads the row again, and goes on only when
it is the row that was loaded.

> `ApprovalService.act`: a call that returns has decided the approval and moved its case; a call
> that raises leaves the books as they were.

The stored proposal is decoded by a function of which nothing is assumed. The audit entry is
left out; one that raises rolls the transaction back like any other statement.
-/

namespace Retrywise.ControlPlane

open Retrywise.Foundation Retrywise.Domain

/-! ## Errors -/

/-- `ApprovalNotFound`, `ApprovalConflict`, or any other exception. -/
inductive ApprovalError where
  | notFound (reason : String)
  | conflict (reason : String)
  | exception (error : ControlPlaneError)
deriving DecidableEq, Repr

/-- An exception of something the service calls. -/
def called {α : Type} : Except ControlPlaneError α → Except ApprovalError α
  | .ok a => .ok a
  | .error e => .error (.exception e)

@[simp] theorem called_ok_iff {α : Type} {call : Except ControlPlaneError α} {a : α} :
    called call = .ok a ↔ call = .ok a := by
  cases call with
  | ok b => simp [called]
  | error e => simp [called]

/-- What PostgreSQL raises for a row it refuses. -/
def refusedVerdict : ApprovalError :=
  .exception (.database "refused by a trigger or a check of the table")

/-! ## The row and the snapshot -/

/-- What `_same_binding` compares, the proposal apart. -/
structure ApprovalBinding where
  approvalId : String
  decisionId : String
  decisionVersion : Nat
  requestedAt : Timestamp
  expiresAt : Timestamp
  policyVersion : String
  recoveryCaseId : String
  logicalOrderId : String
  providerAccountId : String
  currency : String
  amountMinor : Nat
  caseState : RecoveryState
  caseVersion : Nat
  observationDeadline : Option Timestamp
  attemptCount : Nat
  contactCount : Nat
  incidentId : Option String
  merchantStatus : MerchantStatus
  merchantKillSwitch : Bool
  providerAccountIdentifier : String
  accountEnvironment : ProviderEnvironment
  accountEnabled : Bool
  credentialBindingVersion : Nat
  canonicalTruth : CanonicalPaymentState
  paymentRecordId : String
  providerPaymentId : String
  providerOrderId : Option String
  paymentMethod : Option String
  activeInstruments : Nat
deriving DecidableEq

/-- The columns of `_LOAD_PENDING`. -/
structure PendingRow extends ApprovalBinding where
  candidates : List Json
  now : Timestamp

/-- `_Snapshot`. -/
structure ApprovalSnapshot extends ApprovalBinding where
  proposalValue : Json
  databaseNow : Timestamp

/-- `_same_binding`: equal but for the time of the database. -/
def SameBinding (left right : ApprovalSnapshot) : Prop :=
  left.toApprovalBinding = right.toApprovalBinding ∧
    left.proposalValue.canonicalText = right.proposalValue.canonicalText

instance (left right : ApprovalSnapshot) : Decidable (SameBinding left right) :=
  inferInstanceAs (Decidable (_ ∧ _))

/-- `_snapshot` of a row that is there. -/
def PendingRow.snapshot (row : PendingRow) : Except ApprovalError ApprovalSnapshot :=
  match row.candidates with
  | [value] => do
    raiseIf (¬(isUlid row.approvalId ∧ isUlid row.decisionId ∧ isUlid row.recoveryCaseId ∧
      isUlid row.logicalOrderId ∧ isUlid row.providerAccountId ∧ isUlid row.paymentRecordId))
      (.conflict "approval_snapshot_unsafe")
    return ⟨row.toApprovalBinding, value, row.now⟩
  | _ => .error (.conflict "approval_snapshot_unsafe")

/-- `ORDER BY provider_snapshot_at DESC, id`. -/
def PaymentRecordRow.Before (a b : PaymentRecordRow) : Prop :=
  b.providerSnapshotAt < a.providerSnapshotAt ∨
    a.providerSnapshotAt = b.providerSnapshotAt ∧ a.id ≤ b.id

instance (a b : PaymentRecordRow) : Decidable (a.Before b) :=
  inferInstanceAs (Decidable (_ ∨ _))

/-- The lateral join: the first row in that order. -/
def latestRecord (payments : List PaymentRecordRow) : Option PaymentRecordRow :=
  (payments.insertionSort PaymentRecordRow.Before).head?

namespace CaseBooks

variable (books : CaseBooks)

/-- `_LOAD_PENDING`. -/
def pendingRow (now : Timestamp) (merchantId approvalId : String) : Option PendingRow := do
  let approval ← (Table.find ApprovalRecord.key approvalId books.approvals).filter fun a =>
    a.merchantId = merchantId && a.verdict = .pending
  let decision ← books.decisionFor merchantId approval.decisionId approval.recoveryCaseId
    approval.aggregateVersion
  let c ← (Table.find CaseRecord.key approval.recoveryCaseId books.cases).filter fun c =>
    c.merchantId = merchantId && c.state = .approvalRequired
  let merchant ← books.merchants.find? fun m => m.id = merchantId
  let account ← books.accounts.find? fun a => a.merchantId = merchantId &&
    a.id = c.providerAccountId
  let order ← books.orders.find? fun o => o.merchantId = merchantId && o.id = c.logicalOrderId &&
    o.providerAccountId = c.providerAccountId && o.currency = c.currency
  let payment ← latestRecord (books.payments.filter fun p => p.merchantId = merchantId &&
    p.providerAccountId = c.providerAccountId && p.logicalOrderId = c.logicalOrderId &&
    p.currency = c.currency)
  return {
    approvalId := approval.id
    decisionId := approval.decisionId
    decisionVersion := approval.aggregateVersion
    requestedAt := approval.requestedAt
    expiresAt := approval.expiresAt
    candidates := decision.candidates
    policyVersion := decision.policyVersion
    recoveryCaseId := c.id
    logicalOrderId := c.logicalOrderId
    providerAccountId := c.providerAccountId
    currency := c.currency
    amountMinor := c.amountDueSnapshotMinor
    caseState := c.state
    caseVersion := c.version
    observationDeadline := c.observationDeadlineAt
    attemptCount := c.attemptCount
    contactCount := c.contactCount
    incidentId := c.incidentId
    merchantStatus := merchant.status
    merchantKillSwitch := merchant.killSwitchEnabled
    providerAccountIdentifier := account.providerAccountIdentifier
    accountEnvironment := account.environment
    accountEnabled := account.enabled
    credentialBindingVersion := account.credentialBindingVersion
    canonicalTruth := order.canonicalTruth
    paymentRecordId := payment.id
    providerPaymentId := payment.providerPaymentId
    providerOrderId := payment.providerOrderId
    paymentMethod := payment.paymentMethod
    activeInstruments := (books.instruments.filter fun i =>
      i.merchantId = c.merchantId && i.logicalOrderId = c.logicalOrderId &&
        i.currency = c.currency && i.status ∈ collectableStatuses).length
    now := now }

/-- `_load`, and what `_snapshot` makes of the row. -/
def loadPending (now : Timestamp) (merchantId approvalId : String) :
    Except ApprovalError ApprovalSnapshot := do
  let row ← someOr (books.pendingRow now merchantId approvalId) (.notFound "approval_not_found")
  row.snapshot

/-- What `_LOCK_PENDING` reads: the approval and the case as they are once they are locked, the
other tables as they were when the statement began. -/
def lockedOver (stale : CaseBooks) : CaseBooks :=
  (stale.setCases books.cases).setApprovals books.approvals

/-- `_LOCK_PENDING`, and the comparison with what was loaded. -/
def lockAsLoaded (stale : CaseBooks) (now : Timestamp) (merchantId : String)
    (loaded : ApprovalSnapshot) : Except ApprovalError Unit := do
  let locked ← (books.lockedOver stale).loadPending now merchantId loaded.approvalId
  raiseIf (¬SameBinding locked loaded) (.conflict "approval_state_changed")

end CaseBooks

/-! ## The statements -/

/-- What a transaction writes into the approval. -/
structure VerdictTerms where
  merchantId : String
  verdict : ApprovalVerdict
  operatorSubject : String
  reasonCode : String
  actedAt : Timestamp

/-- `SET` of `_APPROVE`, `_REJECT` and `_CANCEL`. -/
def ApprovalRecord.decided (a : ApprovalRecord) (terms : VerdictTerms) : ApprovalRecord :=
  { a with
    verdict := terms.verdict
    approverSubject := some terms.operatorSubject
    reasonCode := some terms.reasonCode
    actedAt := some terms.actedAt }

/-- `SET` of `_QUEUE_CASE`. -/
def CaseRecord.approved (c : CaseRecord) (actionId : String) (actedAt : Timestamp) :
    CaseRecord :=
  { c with
    state := .actionQueued
    version := c.version + 1
    attemptCount := c.attemptCount + 1
    lastActionId := some actionId
    lastActionAt := some actedAt }

/-- `SET` of `_REJECT_CASE`. -/
def CaseRecord.suppressed (c : CaseRecord) (reasonCode : String) (actedAt : Timestamp) :
    CaseRecord :=
  { c with
    state := .suppressedPolicy
    version := c.version + 1
    terminalReasonCode := some reasonCode
    terminalAt := some actedAt }

namespace CaseBooks

variable (books : CaseBooks) (terms : VerdictTerms) (loaded : ApprovalSnapshot)

/-- `_APPROVE`, `_REJECT` and `_CANCEL`; only an approval has to be in time. -/
def decideApproval (operation : String) : Except ApprovalError CaseBooks :=
  books.updateApproval (.conflict operation) refusedVerdict loaded.approvalId
    (fun a => a.merchantId = terms.merchantId && a.verdict = .pending &&
      (terms.verdict ≠ .approved || terms.actedAt ≤ a.expiresAt))
    fun a => a.decided terms

/-- `WHERE` of `_QUEUE_CASE` and of `_REJECT_CASE`. -/
def awaiting (c : CaseRecord) : Bool :=
  c.merchantId = terms.merchantId && c.state = .approvalRequired && c.version = loaded.caseVersion

/-- `_QUEUE_CASE`. -/
def queueApproved (clock : Timestamp) (actionId : String) : Except ApprovalError CaseBooks :=
  books.updateCase (.conflict "approval_case_queue_failed") refusedVerdict clock
    loaded.recoveryCaseId (awaiting terms loaded) fun c => c.approved actionId terms.actedAt

/-- `_REJECT_CASE`. -/
def rejectCase (clock : Timestamp) (operation : String) : Except ApprovalError CaseBooks :=
  books.updateCase (.conflict operation) refusedVerdict clock loaded.recoveryCaseId
    (awaiting terms loaded) fun c => c.suppressed terms.reasonCode terms.actedAt

end CaseBooks

/-! ## A call -/

/-- The arguments of `act`. -/
structure ApprovalCall where
  merchantId : String
  approvalId : String
  operatorSubject : String
  verdict : String
  reasonCode : String

/-- `^[a-z][a-z0-9_]{0,99}$`. -/
def isReasonCode (value : String) : Bool :=
  match value.toList with
  | [] => false
  | first :: rest =>
    first.isLower && rest.all (fun c => c.isLower || c.isDigit || c = '_') && rest.length ≤ 99

/-- The checks of the arguments. -/
def ApprovalCall.check (call : ApprovalCall) : Except ControlPlaneError Unit := do
  raiseIf (¬isUlid call.merchantId) (.invalidValue "")
  raiseIf (¬isUlid call.approvalId) (.invalidValue "")
  raiseIf (call.verdict ∉ ["APPROVED", "REJECTED"])
    (.invalidValue "verdict must be APPROVED or REJECTED")
  raiseIf (¬isReasonCode call.reasonCode) (.invalidValue "reason_code is invalid")
  raiseIf (call.operatorSubject = "" ∨ 200 < call.operatorSubject.toList.length)
    (.invalidValue "operator_subject is invalid")

/-- The ids a call takes from the factory, in the order it takes them. -/
structure ApprovedIds where
  actionId : String
  instrumentId : String
  outboxJobId : String
deriving DecidableEq

def ApprovedIds.areUlids (ids : ApprovedIds) : Bool :=
  isUlid ids.actionId && isUlid ids.instrumentId && isUlid ids.outboxJobId

/-- What a call meets: the clocks of its transactions, what the readers return, the ids, and
where the database is not to be reached. -/
structure ApprovalCircumstances where
  loadedAt : Timestamp
  lockedAt : Timestamp
  loadFailure : Option ControlPlaneError
  fetchTruth : ProviderTruthQuery → Except ControlPlaneError FreshProviderPaymentTruth
  fetchHealth : MethodHealthQuery → Except ControlPlaneError FreshMethodHealthTruth
  ids : ApprovedIds
  commitFailure : Option ControlPlaneError

/-- The database is reached, or the call raises. -/
def connecting (failure : Option ControlPlaneError) : Except ApprovalError Unit :=
  match failure with
  | none => .ok ()
  | some e => .error (.exception e)

/-- `PostgresApprovalService`. -/
structure ApprovalService where
  gate : DeterministicGate
  globalKillSwitch : Bool
  decodeActionProposal : Json → Except ControlPlaneError ActionProposal

structure ApprovalActionResult where
  approvalId : String
  verdict : ApprovalVerdict
  recoveryCaseId : String
  caseVersion : Nat
  actionId : Option String := none
  outboxJobId : Option String := none
deriving DecidableEq, Repr

/-- `isoformat()`, with `Z` for the offset: a time of a whole second has no fraction. -/
def isoTimestamp (t : Timestamp) : String :=
  let (year, month, day) := t.civilDate
  let (hour, minute, second, micros) := t.clockTime
  zeroFilled 4 year ++ "-" ++ zeroFilled 2 month ++ "-" ++ zeroFilled 2 day ++ "T" ++
    zeroFilled 2 hour ++ ":" ++ zeroFilled 2 minute ++ ":" ++ zeroFilled 2 second ++
    (if micros = 0 then "" else "." ++ zeroFilled 6 micros) ++ "Z"

/-- `request_metadata` of an approved action. -/
def approvedMetadata (intent : IntentFields) : Json :=
  .obj [
    ("action_key", .str intent.actionKey),
    ("executor_payload_sha256", .str intent.payloadDigest),
    ("prior_plan_sha256", .str intent.priorPlanDigest),
    ("proposal_sha256", .str intent.proposalDigest),
    ("provider_account_id", .str intent.providerAccountId),
    ("provider_request_sha256", .str intent.requestDigest),
    ("recorded_at", .str (isoTimestamp intent.recordedAt)),
    ("reference_id", .str intent.referenceId),
    ("schema", .str "retrywise-durable-action-intent"),
    ("schema_version", .int intent.schemaVersion)]

section

variable [Hashlib] (service : ApprovalService) (call : ApprovalCall)
  (met : ApprovalCircumstances) (stale : CaseBooks) (loaded : ApprovalSnapshot)
  (proposal : ActionProposal) (truth : FreshProviderPaymentTruth)
  (health : FreshMethodHealthTruth) (actedAt : Timestamp)

/-! ## Fresh reads -/

/-- The payment the provider is asked about. -/
def approvalTruthQuery : Except ControlPlaneError ProviderTruthQuery := do
  let providerOrderId ← someOr loaded.providerOrderId
    (.invalidValue "provider_order_id must be text")
  construct ProviderTruthQueryFields.postInit ProviderTruthQuery.mk {
    merchantId := proposal.merchantId
    providerAccountId := loaded.providerAccountId
    providerAccountIdentifier := loaded.providerAccountIdentifier
    credentialBindingVersion := loaded.credentialBindingVersion
    paymentRecordId := loaded.paymentRecordId
    providerPaymentId := loaded.providerPaymentId
    providerOrderId := providerOrderId }

/-- The truth and the health a verdict is reviewed with. -/
def freshReads :
    Except ControlPlaneError (FreshProviderPaymentTruth × FreshMethodHealthTruth) := do
  let truthQuery ← approvalTruthQuery loaded proposal
  let truth ← met.fetchTruth truthQuery
  let healthQuery ← construct MethodHealthQueryFields.postInit MethodHealthQuery.mk {
    merchantId := proposal.merchantId
    providerAccountId := loaded.providerAccountId
    paymentMethod := truth.paymentMethod
    incidentId := loaded.incidentId }
  let health ← met.fetchHealth healthQuery
  return (truth, health)

/-! ## The review -/

/-- The approval the gate is shown. -/
def grantedFields : ApprovalFields where
  approvalId := loaded.approvalId
  merchantId := proposal.merchantId
  caseId := proposal.caseId
  actionKey := proposal.actionKey
  proposalDigest := proposal.proposalDigest
  decisionVersion := proposal.decisionVersion
  approvedBy := "operator:" ++ Hashlib.sha256Hexdigest call.operatorSubject.toUTF8
  approvedAt := actedAt
  expiresAt := loaded.expiresAt

omit [Hashlib] in
/-- The context the approved proposal is reviewed in. -/
def reviewContextFields (approval : Approval) (amount : Money)
    (hmethod : isPaymentMethod truth.paymentMethod = true) : GateContextFields where
  merchantId := proposal.merchantId
  caseId := proposal.caseId
  evaluatedAt := actedAt
  aggregateVersion := loaded.caseVersion
  expectedAggregateVersion := loaded.caseVersion
  recoveryState := .approvalRequired
  snapshot := {
    paymentState := truth.canonicalPaymentState
    amountDue := amount
    paymentMethod := truth.paymentMethod
    observedAt := truth.observedAt
    activeInstrumentCount := loaded.activeInstruments
    incidentState := health.incidentState
    methodHealthObservedAt := health.observedAt
    paymentMethodOk := hmethod }
  environmentEffectsEnabled := loaded.merchantStatus = .active &&
    loaded.accountEnvironment = .test && loaded.accountEnabled
  observationDeadline := loaded.observationDeadline
  globalKillSwitch := service.globalKillSwitch
  merchantKillSwitch := loaded.merchantKillSwitch
  contactsInWindow := loaded.contactCount
  attemptsUsed := loaded.attemptCount
  abstentionRequired := proposal.requiresApproval
  approval := some approval

/-- What the gate says of the approved proposal. -/
def reviewDecision : Except ControlPlaneError GateDecision := do
  let approval ← liftDomain (construct ApprovalFields.postInit Approval.mk
    (grantedFields call loaded proposal actedAt))
  if hcurrency : isCurrency loaded.currency = true then
    if hmethod : isPaymentMethod truth.paymentMethod = true then do
      let context ← liftDomain (construct GateContextFields.postInit GateContext.mk
        (reviewContextFields service loaded proposal truth health actedAt approval
          ⟨loaded.amountMinor, loaded.currency, hcurrency⟩ hmethod))
      liftDomain (service.gate.evaluatePolicy proposal context)
    else .error (.invalidValue "payment_method is malformed")
  else .error (.invalidValue "currency must be three uppercase ASCII letters")

/-! ## The effect of an approval -/

/-- What an approved proposal is carried out with. -/
structure ApprovedEffect where
  command : CreatePaymentLinkCommand
  durableIntent : DurableActionIntent
  payload : Json
  ids : ApprovedIds
  linkExpiresAt : Timestamp

omit [Hashlib] in
/-- The request for the link, whose expiry is in whole seconds. -/
def approvedRequestFields (referenceId : String) (expiresAt : Timestamp) : RequestFields where
  amountMinor := loaded.amountMinor
  currency := loaded.currency
  referenceId := referenceId
  description := "Retry payment for order " ++ loaded.logicalOrderId
  expireByEpoch := (epochSeconds expiresAt).toNat
  notes := [("merchant_order_id", loaded.logicalOrderId), ("recovery_case_id", proposal.caseId)]

omit [Hashlib] in
theorem approvedRequestFields_mapping (referenceId : String) (expiresAt : Timestamp) :
    ((approvedRequestFields loaded proposal referenceId expiresAt).notes.map Prod.fst).Nodup := by
  simp [approvedRequestFields]

omit [Hashlib] in
/-- `StandardPaymentLinkRequest(..)`. -/
def approvedRequest (referenceId : String) (expiresAt : Timestamp) :
    Except ControlPlaneError StandardPaymentLinkRequest :=
  match valid : (approvedRequestFields loaded proposal referenceId expiresAt).postInit with
  | .error e => .error e
  | .ok () =>
    .ok ⟨approvedRequestFields loaded proposal referenceId expiresAt, valid,
      approvedRequestFields_mapping loaded proposal referenceId expiresAt⟩

/-- The link an approved proposal is carried out with. -/
def approvedEffect (decision : GateDecision) (ids : ApprovedIds) :
    Except ControlPlaneError ApprovedEffect := do
  let referenceId ← checkedRecoveryReferenceId proposal.caseId loaded.providerAccountId
  let expiresAt ← liftDomain (shift actedAt (minutes 1440))
  let request ← approvedRequest loaded proposal referenceId expiresAt
  let command ← construct CommandFields.postInit CreatePaymentLinkCommand.mk {
    proposal := proposal
    priorPlan := decision
    request := request
    providerAccountId := loaded.providerAccountId }
  let durableIntent ← construct IntentFields.postInit DurableActionIntent.mk
    (command.intentFields actedAt)
  raiseIf (ids.areUlids = false) (.invalidValue "")
  let payload ← encodeCreateStandardPaymentLinkCommand command
  return {
    command := command
    durableIntent := durableIntent
    payload := payload
    ids := ids
    linkExpiresAt := wholeSeconds expiresAt }

variable (effect : ApprovedEffect)

/-- The row of `_INSERT_ACTION`. -/
def approvedActionRow : ActionRecord where
  id := effect.ids.actionId
  actionKey := effect.command.proposal.actionKey
  externalReferenceId := some effect.command.request.referenceId
  status := .planned
  attemptNumber := 0
  maxAttempts := 5
  leaseOwner := none
  leaseExpiresAt := none
  effectGateSnapshot := none
  effectGateVerdict := none
  effectGateReasonCodes := []
  responseMetadata := none
  providerStatus := none
  reconciliationStatus := .notRequired
  providerResourceId := none
  firstAttemptedAt := none
  lastAttemptedAt := none
  completedAt := none
  lastErrorCode := none
  deadLetteredAt := none
  deadLetterReason := none
  merchantId := effect.command.proposal.merchantId
  recoveryCaseId := loaded.recoveryCaseId
  decisionId := loaded.decisionId
  aggregateVersion := loaded.decisionVersion
  approvalId := some loaded.approvalId
  requestMetadata := approvedMetadata effect.durableIntent.toIntentFields
  scheduledAt := actedAt
  createdAt := actedAt

omit [Hashlib] in
/-- The row of `_INSERT_INSTRUMENT`. -/
def approvedInstrumentRow : InstrumentRecord where
  id := effect.ids.instrumentId
  recoveryCaseId := loaded.recoveryCaseId
  logicalOrderId := loaded.logicalOrderId
  currency := loaded.currency
  providerOrderId := none
  providerPaymentId := none
  refundedMinor := 0
  status := .creating
  referenceId := effect.command.request.referenceId
  providerPaymentLinkId := none
  lastProviderStatus := none
  reconciliationStatus := .pending
  lastReconciledAt := none
  amountMinor := loaded.amountMinor
  collectedMinor := 0
  merchantId := effect.command.proposal.merchantId
  providerAccountId := loaded.providerAccountId
  actionId := effect.ids.actionId
  expiresAt := effect.linkExpiresAt
  createdAt := actedAt

/-- The row of `_INSERT_OUTBOX`. -/
def approvedJobRow : JobRecord where
  id := effect.ids.outboxJobId
  merchantId := effect.command.proposal.merchantId
  aggregateType := "ACTION"
  aggregateId := effect.ids.actionId
  commandType := "CREATE_STANDARD_PAYMENT_LINK"
  commandSchemaVersion := 1
  idempotencyKey := "create-standard-payment-link:" ++ effect.command.proposal.actionKey
  status := .pending
  attemptCount := 0
  maxAttempts := 8
  nextAttemptAt := actedAt
  leaseOwner := none
  leaseToken := none
  leaseExpiresAt := none
  deliveryVersion := 0
  retryMode := .normal
  lastErrorCode := none
  lastErrorAt := none
  completionReference := none
  completedAt := none
  deadLetterReason := none
  deadLetteredAt := none
  createdAt := actedAt
  updatedAt := actedAt
  commandPayload := effect.payload

/-! ## The transactions -/

omit [Hashlib] in
/-- The verdict on the approval, and the case closed with it. -/
def closeApproval (terms : VerdictTerms) (updateFailed caseFailed : String) (books : CaseBooks) :
    Except ApprovalError (CaseBooks × ApprovalActionResult) := do
  connecting met.commitFailure
  books.lockAsLoaded stale met.lockedAt terms.merchantId loaded
  let books ← books.decideApproval terms loaded updateFailed
  let books ← books.rejectCase terms loaded met.lockedAt caseFailed
  return (books, {
    approvalId := loaded.approvalId
    verdict := terms.verdict
    recoveryCaseId := loaded.recoveryCaseId
    caseVersion := loaded.caseVersion + 1 })

omit [Hashlib] in
/-- `_reject`. -/
def rejectApproval (books : CaseBooks) :
    Except ApprovalError (CaseBooks × ApprovalActionResult) := do
  let proposal ← called (service.decodeActionProposal loaded.proposalValue)
  raiseIf (¬isUlid proposal.merchantId) (.exception (.invalidValue ""))
  closeApproval met stale loaded {
    merchantId := proposal.merchantId
    verdict := .rejected
    operatorSubject := call.operatorSubject
    reasonCode := call.reasonCode
    actedAt := loaded.databaseNow } "approval_update_failed" "approval_case_reject_failed" books

omit [Hashlib] in
/-- `_cancel`. -/
def cancelApproval (verdict : ApprovalVerdict) (reasonCode : String) (books : CaseBooks) :
    Except ApprovalError (CaseBooks × ApprovalActionResult) :=
  closeApproval met stale loaded {
    merchantId := proposal.merchantId
    verdict := verdict
    operatorSubject := call.operatorSubject
    reasonCode := reasonCode
    actedAt := actedAt } "approval_cancellation_failed" "approval_case_cancel_failed" books

/-- The transaction of `_approve`. -/
def commitApproved (books : CaseBooks) :
    Except ApprovalError (CaseBooks × ApprovalActionResult) := do
  let terms : VerdictTerms := {
    merchantId := effect.command.proposal.merchantId
    verdict := .approved
    operatorSubject := call.operatorSubject
    reasonCode := call.reasonCode
    actedAt := actedAt }
  connecting met.commitFailure
  books.lockAsLoaded stale met.lockedAt terms.merchantId loaded
  let books ← books.decideApproval terms loaded "approval_update_failed"
  let books ← books.insertAction refusedVerdict met.lockedAt
    (approvedActionRow loaded actedAt effect)
  let books ← books.insertInstrument refusedVerdict (approvedInstrumentRow loaded actedAt effect)
  let books ← books.updateAction (.conflict "approval_action_queue_failed") refusedVerdict
    effect.ids.actionId (fun a => a.merchantId = terms.merchantId && a.status = .planned)
    fun a => { a with status := .queued }
  let books ← books.queueApproved terms loaded met.lockedAt effect.ids.actionId
  let books ← books.insertJob refusedVerdict (approvedJobRow actedAt effect)
  return (books, {
    approvalId := loaded.approvalId
    verdict := .approved
    recoveryCaseId := loaded.recoveryCaseId
    caseVersion := loaded.caseVersion + 1
    actionId := some effect.ids.actionId
    outboxJobId := some effect.ids.outboxJobId })

/-- `_approve`. -/
def approveProposal (books : CaseBooks) :
    Except ApprovalError (CaseBooks × ApprovalActionResult) := do
  let proposal ← called (service.decodeActionProposal loaded.proposalValue)
  let (truth, health) ← called (freshReads met loaded proposal)
  let actedAt := max (max loaded.databaseNow truth.observedAt) health.observedAt
  if loaded.expiresAt ≤ actedAt ∨ proposal.expiresAt ≤ actedAt then
    cancelApproval call met stale loaded proposal actedAt .expired "approval_expired" books
  else do
    let decision ← called (reviewDecision service call loaded proposal truth health actedAt)
    if decision.allowed = false then
      cancelApproval call met stale loaded proposal actedAt .cancelled
        "approved_proposal_no_longer_authorized" books
    else do
      let effect ← called (approvedEffect loaded proposal actedAt decision met.ids)
      commitApproved call met stale loaded actedAt effect books

/-- What `act` does: the approval as `seen` when it is loaded, and a transaction on the books. -/
def ApprovalService.work (seen books : CaseBooks) :
    Except ApprovalError (CaseBooks × ApprovalActionResult) := do
  called call.check
  connecting met.loadFailure
  let loaded ← seen.loadPending met.loadedAt call.merchantId call.approvalId
  if call.verdict = "REJECTED" then rejectApproval service call met stale loaded books
  else approveProposal service call met stale loaded books

/-- `act`: the books afterwards, and what it returns. -/
def ApprovalService.act (seen books : CaseBooks) :
    CaseBooks × Except ApprovalError ApprovalActionResult :=
  match service.work call met stale seen books with
  | .ok (after, result) => (after, .ok result)
  | .error e => (books, .error e)

end

end Retrywise.ControlPlane
