import Retrywise.ControlPlane.AssessmentPlanner
import Retrywise.ControlPlane.PostgresOutbox

/-!
# The rows around a case

The tables an assessment and an approval read and write: the case with its merchant, account,
order and payments, and the decisions, approvals, actions, instruments and outbox jobs that are
made for it. Each `INSERT` and `UPDATE` goes through the triggers and the checks of the
migrations (`001_initial.sql`, `002_fenced_outbox_delivery.sql`,
`004_enforce_observation_deadline.sql`, `011_diagnosis_engine_routing.sql`).

Every row here has the source label `RAZORPAY_TEST_MODE`, and every action is a
`CREATE_STANDARD_PAYMENT_LINK`; both columns are left out, and so are the columns nothing here
reads or writes.

> `updateCase_ok_iff` and its like: a statement that succeeds has matched its row, and what it
> wrote was admitted.
-/

namespace Retrywise.ControlPlane

open Retrywise.Foundation Retrywise.Domain

/-! ## Rows -/

structure MerchantRow where
  id : String
  status : MerchantStatus
  killSwitchEnabled : Bool
  defaultPolicyVersion : String
deriving DecidableEq

structure ProviderAccountRow where
  id : String
  merchantId : String
  providerAccountIdentifier : String
  environment : ProviderEnvironment
  enabled : Bool
  credentialBindingVersion : Nat
deriving DecidableEq

structure LogicalOrderRecord extends LogicalOrder where
  merchantId : String
  providerAccountId : String
  truthVersion : Nat
deriving DecidableEq

structure PaymentRecordRow extends StoredPayment where
  merchantId : String
  providerAccountId : String
  providerCreatedAt : Option Timestamp

structure CaseRecord extends RecoveryCase where
  merchantId : String
  providerAccountId : String
  incidentId : Option String
  observationStartedAt : Option Timestamp
  observationDeadlineAt : Option Timestamp
  evaluationDeadlineAt : Option Timestamp
  attemptCount : Nat
  contactCount : Nat
  lastDecisionId : Option String
  lastDecisionAt : Option Timestamp
  lastActionAt : Option Timestamp
deriving DecidableEq

structure DecisionRow where
  id : String
  merchantId : String
  recoveryCaseId : String
  logicalOrderId : String
  aggregateVersion : Nat
  featureSnapshot : Json
  featureSnapshotSha256 : String
  modelName : String
  modelVersion : String
  classProbabilities : Json
  requestedDiagnosisMode : DiagnosisMode
  executedDiagnosisEngine : DiagnosisEngine
  diagnosisLatencyMs : Nat
  diagnosisFallbackReasonCode : Option String
  shadowDiagnosis : Option Json
  abstained : Bool
  outOfDistribution : Bool
  policyName : String
  policyVersion : String
  candidates : List Json
  selectedAction : Option ActionType
  planningGateVerdict : GateVerdict
  planningGateReasonCodes : List String
  expectedValueInputs : Json
  createdAt : Timestamp

structure ApprovalRecord extends ApprovalRow where
  merchantId : String
  recoveryCaseId : String
  decisionId : String
  aggregateVersion : Nat
  requestedAt : Timestamp
  reasonCode : Option String
deriving DecidableEq

structure ActionRecord extends ActionRow where
  merchantId : String
  recoveryCaseId : String
  decisionId : String
  aggregateVersion : Nat
  approvalId : Option String
  requestMetadata : Json
  scheduledAt : Timestamp
  createdAt : Timestamp

structure InstrumentRecord extends RecoveryInstrument where
  merchantId : String
  providerAccountId : String
  actionId : String
  expiresAt : Timestamp
  createdAt : Timestamp
deriving DecidableEq

structure JobRecord extends OutboxRow where
  commandPayload : Json

/-- The primary keys. -/
def CaseRecord.key (c : CaseRecord) : String := c.id

def ApprovalRecord.key (a : ApprovalRecord) : String := a.id

def ActionRecord.key (a : ActionRecord) : String := a.id

@[ext] structure CaseBooks where
  merchants : List MerchantRow
  accounts : List ProviderAccountRow
  orders : List LogicalOrderRecord
  payments : List PaymentRecordRow
  cases : List CaseRecord
  decisions : List DecisionRow
  approvals : List ApprovalRecord
  actions : List ActionRecord
  instruments : List InstrumentRecord
  jobs : List JobRecord

/-! ## Writing a table -/

namespace CaseBooks

variable (books : CaseBooks)

@[simps] def setCases (rows : List CaseRecord) : CaseBooks := { books with cases := rows }

@[simps] def setDecisions (rows : List DecisionRow) : CaseBooks :=
  { books with decisions := rows }

@[simps] def setApprovals (rows : List ApprovalRecord) : CaseBooks :=
  { books with approvals := rows }

@[simps] def setActions (rows : List ActionRecord) : CaseBooks := { books with actions := rows }

@[simps] def setInstruments (rows : List InstrumentRecord) : CaseBooks :=
  { books with instruments := rows }

@[simps] def setJobs (rows : List JobRecord) : CaseBooks := { books with jobs := rows }

end CaseBooks

/-! ## Checks of the tables -/

/-- `length(btrim(value)) BETWEEN 1 AND maximum`. -/
def textWithin (maximum : Nat) (value : String) : Bool :=
  let trimmed := (value.toList.dropWhile fun c => c = ' ').rdropWhile fun c => c = ' '
  1 ≤ trimmed.length && trimmed.length ≤ maximum

/-- `^[A-Z][A-Z0-9_]{0,99}$`. -/
def isFallbackReasonCode (value : String) : Bool :=
  match value.toList with
  | [] => false
  | first :: rest =>
    first.isUpper && rest.all (fun c => c.isUpper || c.isDigit || c = '_') && rest.length ≤ 99

namespace DecisionRow

variable (d : DecisionRow)

/-- `decisions_selected_action_ck`. -/
def selectedActionCheck : Bool :=
  if d.planningGateVerdict = .blocked then d.selectedAction.isNone else d.selectedAction.isSome

def checks : Bool :=
  isUlid d.id && textWithin 100 d.modelName && textWithin 100 d.modelVersion &&
    textWithin 100 d.policyName && textWithin 100 d.policyVersion && d.selectedActionCheck &&
    d.diagnosisLatencyMs ≤ 60000 && d.diagnosisFallbackReasonCode.all isFallbackReasonCode

end DecisionRow

namespace ApprovalRecord

variable (a : ApprovalRecord)

/-- `approvals_verdict_ck`. -/
def verdictCheck : Bool :=
  if a.verdict = .pending then a.approverSubject.isNone && a.reasonCode.isNone && a.actedAt.isNone
  else
    (a.actedAt.any fun at' => a.requestedAt ≤ at' &&
        (a.verdict ≠ .approved || at' ≤ a.expiresAt)) &&
      hasText a.reasonCode &&
      (a.verdict = .expired || a.verdict = .cancelled || hasText a.approverSubject)

def checks : Bool := isUlid a.id && a.requestedAt < a.expiresAt && a.verdictCheck

/-- `enforce_approval_lifecycle`, on an update: what was asked for stays, a verdict is final,
and a pending approval is not refreshed. -/
def admits (old new : ApprovalRecord) : Bool :=
  new.id = old.id && new.merchantId = old.merchantId &&
    new.recoveryCaseId = old.recoveryCaseId && new.decisionId = old.decisionId &&
    new.aggregateVersion = old.aggregateVersion && new.requestedAt = old.requestedAt &&
    new.expiresAt = old.expiresAt &&
    (old.verdict = .pending || new = old) &&
    (!(old.verdict = .pending && new.verdict = .pending) || new = old) && new.checks

end ApprovalRecord

/-- What a case is of and how it is observed, which no statement changes. -/
def CaseRecord.fixed (c : CaseRecord) :
    (String × String × String × String × String × Nat) × Nat × Option Timestamp ×
      Option Timestamp :=
  ((c.id, c.merchantId, c.logicalOrderId, c.providerAccountId, c.currency,
      c.amountDueSnapshotMinor),
    c.observationContractVersion, c.observationStartedAt, c.observationDeadlineAt)

/-- A count or a time that does not go back. -/
def CaseRecord.forward (old new : CaseRecord) : Bool :=
  old.attemptCount ≤ new.attemptCount && old.contactCount ≤ new.contactCount &&
    reconciledForward old.lastDecisionAt new.lastDecisionAt &&
    reconciledForward old.lastActionAt new.lastActionAt

/-- `recovery_cases_last_decision_pair_ck` and `recovery_cases_last_action_pair_ck`. -/
def CaseRecord.pairChecks (c : CaseRecord) : Bool :=
  c.lastDecisionId.isSome = c.lastDecisionAt.isSome &&
    c.lastActionId.isSome = c.lastActionAt.isSome

/-- `enforce_observation_deadline`: an assessment does not start early. -/
def CaseRecord.observed (clock : Timestamp) (old new : CaseRecord) : Bool :=
  !(old.state = .observing && new.state = .assessing &&
    !(old.observationContractVersion = 1 && old.observationDeadlineAt.any (· ≤ clock)))

namespace CaseBooks

variable (books : CaseBooks)

/-- What the case trigger asks of the case's order: `UNPAID`. -/
def truthOfCase (c : CaseRecord) : CanonicalPaymentState :=
  ((books.orders.find? fun o =>
      o.merchantId = c.merchantId && o.id = c.logicalOrderId &&
        o.providerAccountId = c.providerAccountId).map fun o => o.canonicalTruth).getD .unknown

/-- The triggers and checks of `recovery_cases`, on an update. -/
def admitsCase (clock : Timestamp) (old new : CaseRecord) : Bool :=
  ControlPlane.admitsCase (books.truthOfCase old) old.toCaseRow new.toCaseRow &&
    new.fixed = old.fixed && old.forward new && new.pairChecks && old.observed clock new

/-- `decisions_case_fk`, the keys and the checks of `decisions`. -/
def admitsDecision (d : DecisionRow) : Bool :=
  d.checks &&
    (books.cases.any fun c => c.merchantId = d.merchantId && c.id = d.recoveryCaseId &&
      c.logicalOrderId = d.logicalOrderId) &&
    (books.decisions.all fun old => old.id ≠ d.id &&
      !(old.merchantId = d.merchantId && old.recoveryCaseId = d.recoveryCaseId &&
        old.aggregateVersion = d.aggregateVersion))

/-- The decision an approval or an action refers to. -/
def decisionFor (merchantId decisionId recoveryCaseId : String) (aggregateVersion : Nat) :
    Option DecisionRow :=
  books.decisions.find? fun d => d.merchantId = merchantId && d.id = decisionId &&
    d.recoveryCaseId = recoveryCaseId && d.aggregateVersion = aggregateVersion

/-- `enforce_approval_lifecycle` on an insert, `approvals_decision_fk`, the keys and the checks
of `approvals`. -/
def admitsApproval (a : ApprovalRecord) : Bool :=
  a.verdict = .pending && a.checks &&
    (books.decisionFor a.merchantId a.decisionId a.recoveryCaseId a.aggregateVersion).isSome &&
    (books.approvals.all fun old => old.id ≠ a.id &&
      !(old.merchantId = a.merchantId && old.decisionId = a.decisionId))

/-- The approval an action is attached to is a verdict that has not run out. -/
def approvalValid (clock : Timestamp) (action : ActionRecord) (approvalId : String) : Bool :=
  books.approvals.any fun a => a.merchantId = action.merchantId && a.id = approvalId &&
    a.decisionId = action.decisionId && a.recoveryCaseId = action.recoveryCaseId &&
    a.aggregateVersion = action.aggregateVersion && a.verdict = .approved &&
    (a.actedAt.any (· ≤ a.expiresAt)) && clock ≤ a.expiresAt

/-- The execution columns of an action before its first attempt. -/
def unexecuted (a : ActionRow) : Bool :=
  a.attemptNumber = 0 && a.effectGateSnapshot.isNone && a.effectGateVerdict.isNone &&
    a.effectGateReasonCodes = [] && a.firstAttemptedAt.isNone && a.lastAttemptedAt.isNone &&
    a.completedAt.isNone && a.responseMetadata.isNone && a.providerStatus.isNone &&
    a.providerResourceId.isNone && a.lastErrorCode.isNone && a.deadLetteredAt.isNone &&
    a.deadLetterReason.isNone && a.reconciliationStatus = .notRequired

/-- `enforce_action_lifecycle` on an insert, the keys and the checks of `actions`. -/
def admitsAction (clock : Timestamp) (a : ActionRecord) : Bool :=
  a.status = .planned && unexecuted a.toActionRow && isUlid a.id && 0 < a.maxAttempts &&
    a.checks && textWithin 200 a.actionKey && a.externalReferenceId.any (textWithin 40) &&
    ((books.decisionFor a.merchantId a.decisionId a.recoveryCaseId a.aggregateVersion).any
      fun d =>
        d.planningGateVerdict ≠ .blocked &&
          d.selectedAction = some .createStandardPaymentLink &&
          (d.planningGateVerdict ≠ .approvalRequired || a.approvalId.isSome)) &&
    a.approvalId.all (books.approvalValid clock a) &&
    (books.actions.all fun old => old.id ≠ a.id &&
      !(old.merchantId = a.merchantId && old.actionKey = a.actionKey))

/-- The statuses of an instrument that may still collect. -/
def collectableStatuses : List InstrumentStatus :=
  [.creating, .uncertain, .issued, .active, .cancelPending]

/-- `enforce_recovery_instrument_lifecycle` on an insert, the keys and the checks of
`recovery_instruments`. -/
def admitsInstrument (i : InstrumentRecord) : Bool :=
  i.status = .creating && i.providerPaymentLinkId.isNone && i.providerOrderId.isNone &&
    i.providerPaymentId.isNone && isUlid i.id && 0 < i.amountMinor && i.collectedMinor = 0 &&
    i.refundedMinor = 0 && textWithin 40 i.referenceId && i.createdAt < i.expiresAt &&
    (books.cases.any fun c => c.merchantId = i.merchantId && c.id = i.recoveryCaseId &&
      c.logicalOrderId = i.logicalOrderId && c.providerAccountId = i.providerAccountId &&
      c.currency = i.currency && c.amountDueSnapshotMinor = i.amountMinor) &&
    (books.actions.any fun a => a.merchantId = i.merchantId && a.id = i.actionId &&
      a.recoveryCaseId = i.recoveryCaseId) &&
    (books.instruments.all fun old => old.id ≠ i.id &&
      !(old.merchantId = i.merchantId && old.actionId = i.actionId) &&
      !(old.providerAccountId = i.providerAccountId && old.referenceId = i.referenceId) &&
      -- `recovery_instruments_one_collectable_uidx`
      !(old.merchantId = i.merchantId && old.logicalOrderId = i.logicalOrderId &&
        old.currency = i.currency && old.status ∈ collectableStatuses))

/-- `enforce_outbox_lifecycle` on an insert, the keys and the checks of `outbox_jobs`. -/
def admitsJob (j : JobRecord) : Bool :=
  j.status = .pending && j.attemptCount = 0 && j.deliveryVersion = 0 && j.retryMode = .normal &&
    isUlid j.id && 0 < j.maxAttempts && 0 < j.commandSchemaVersion &&
    textWithin 100 j.aggregateType && textWithin 200 j.aggregateId &&
    textWithin 100 j.commandType && textWithin 300 j.idempotencyKey &&
    (books.merchants.any fun m => m.id = j.merchantId) &&
    (books.jobs.all fun old => old.id ≠ j.id &&
      !(old.merchantId = j.merchantId && old.idempotencyKey = j.idempotencyKey))

/-- The lifecycle of an action that is queued; nothing here starts one. -/
def admitsQueued (old new : ActionRecord) : Bool :=
  evidenceTrigger old.toActionRow new.toActionRow && old.status ∉ completedStatuses &&
    (new.status = old.status || new.status ∈ actionEdges old.status) && new.checks

/-! ## Statements -/

section

variable {ε : Type} (unmatched refused : ε)

/-- An `UPDATE` of one case. -/
def updateCase (clock : Timestamp) (id : String) (applies : CaseRecord → Bool)
    (assign : CaseRecord → CaseRecord) : Except ε CaseBooks := do
  let rows ← Table.updateOne CaseRecord.key id applies assign
    (books.admitsCase clock) unmatched refused books.cases
  return books.setCases rows

/-- An `UPDATE` of one approval. -/
def updateApproval (id : String) (applies : ApprovalRecord → Bool)
    (assign : ApprovalRecord → ApprovalRecord) : Except ε CaseBooks := do
  let rows ← Table.updateOne ApprovalRecord.key id applies assign
    ApprovalRecord.admits unmatched refused books.approvals
  return books.setApprovals rows

/-- An `UPDATE` of one action, which does not start it. -/
def updateAction (id : String) (applies : ActionRecord → Bool)
    (assign : ActionRecord → ActionRecord) : Except ε CaseBooks := do
  let rows ← Table.updateOne ActionRecord.key id applies assign
    admitsQueued unmatched refused books.actions
  return books.setActions rows

def insertDecision (d : DecisionRow) : Except ε CaseBooks := do
  raiseIf (books.admitsDecision d = false) refused
  return books.setDecisions (books.decisions ++ [d])

def insertApproval (a : ApprovalRecord) : Except ε CaseBooks := do
  raiseIf (books.admitsApproval a = false) refused
  return books.setApprovals (books.approvals ++ [a])

def insertAction (clock : Timestamp) (a : ActionRecord) : Except ε CaseBooks := do
  raiseIf (books.admitsAction clock a = false) refused
  return books.setActions (books.actions ++ [a])

def insertInstrument (i : InstrumentRecord) : Except ε CaseBooks := do
  raiseIf (books.admitsInstrument i = false) refused
  return books.setInstruments (books.instruments ++ [i])

def insertJob (j : JobRecord) : Except ε CaseBooks := do
  raiseIf (books.admitsJob j = false) refused
  return books.setJobs (books.jobs ++ [j])

end

/-! ## What a statement that succeeds has done -/

section

variable {books : CaseBooks} {ε : Type} {unmatched refused : ε} {changed : CaseBooks}
  {clock : Timestamp} {id : String}

@[simp] theorem updateCase_ok_iff {applies : CaseRecord → Bool}
    {assign : CaseRecord → CaseRecord} :
    books.updateCase unmatched refused clock id applies assign = .ok changed ↔
      ∃ row, Table.find CaseRecord.key id books.cases = some row ∧
        applies row = true ∧ books.admitsCase clock row (assign row) = true ∧
        changed = books.setCases (Table.put CaseRecord.key (assign row) books.cases) := by
  simp only [updateCase, bind_ok_iff, Table.updateOne_ok_iff, pure_ok_iff]
  constructor
  · intro h
    obtain ⟨rows, ⟨row, hrow, happlies, hadmits, rfl⟩, rfl⟩ := h
    exact ⟨row, hrow, happlies, hadmits, rfl⟩
  · intro h
    obtain ⟨row, hrow, happlies, hadmits, rfl⟩ := h
    exact ⟨_, ⟨row, hrow, happlies, hadmits, rfl⟩, rfl⟩

@[simp] theorem updateApproval_ok_iff {applies : ApprovalRecord → Bool}
    {assign : ApprovalRecord → ApprovalRecord} :
    books.updateApproval unmatched refused id applies assign = .ok changed ↔
      ∃ row, Table.find ApprovalRecord.key id books.approvals = some row ∧
        applies row = true ∧ row.admits (assign row) = true ∧
        changed = books.setApprovals (Table.put ApprovalRecord.key (assign row) books.approvals) := by
  simp only [updateApproval, bind_ok_iff, Table.updateOne_ok_iff, pure_ok_iff]
  constructor
  · intro h
    obtain ⟨rows, ⟨row, hrow, happlies, hadmits, rfl⟩, rfl⟩ := h
    exact ⟨row, hrow, happlies, hadmits, rfl⟩
  · intro h
    obtain ⟨row, hrow, happlies, hadmits, rfl⟩ := h
    exact ⟨_, ⟨row, hrow, happlies, hadmits, rfl⟩, rfl⟩

@[simp] theorem updateAction_ok_iff {applies : ActionRecord → Bool}
    {assign : ActionRecord → ActionRecord} :
    books.updateAction unmatched refused id applies assign = .ok changed ↔
      ∃ row, Table.find ActionRecord.key id books.actions = some row ∧
        applies row = true ∧ admitsQueued row (assign row) = true ∧
        changed = books.setActions (Table.put ActionRecord.key (assign row) books.actions) := by
  simp only [updateAction, bind_ok_iff, Table.updateOne_ok_iff, pure_ok_iff]
  constructor
  · intro h
    obtain ⟨rows, ⟨row, hrow, happlies, hadmits, rfl⟩, rfl⟩ := h
    exact ⟨row, hrow, happlies, hadmits, rfl⟩
  · intro h
    obtain ⟨row, hrow, happlies, hadmits, rfl⟩ := h
    exact ⟨_, ⟨row, hrow, happlies, hadmits, rfl⟩, rfl⟩

@[simp] theorem insertDecision_ok_iff {d : DecisionRow} :
    books.insertDecision refused d = .ok changed ↔
      books.admitsDecision d = true ∧
        books.setDecisions (books.decisions ++ [d]) = changed := by
  simp only [insertDecision, bind_ok_iff, raiseIf_ok_iff, Bool.not_eq_false, exists_const, pure_ok_iff]

@[simp] theorem insertApproval_ok_iff {a : ApprovalRecord} :
    books.insertApproval refused a = .ok changed ↔
      books.admitsApproval a = true ∧
        books.setApprovals (books.approvals ++ [a]) = changed := by
  simp only [insertApproval, bind_ok_iff, raiseIf_ok_iff, Bool.not_eq_false, exists_const, pure_ok_iff]

@[simp] theorem insertAction_ok_iff {a : ActionRecord} :
    books.insertAction refused clock a = .ok changed ↔
      books.admitsAction clock a = true ∧
        books.setActions (books.actions ++ [a]) = changed := by
  simp only [insertAction, bind_ok_iff, raiseIf_ok_iff, Bool.not_eq_false, exists_const, pure_ok_iff]

@[simp] theorem insertInstrument_ok_iff {i : InstrumentRecord} :
    books.insertInstrument refused i = .ok changed ↔
      books.admitsInstrument i = true ∧
        books.setInstruments (books.instruments ++ [i]) = changed := by
  simp only [insertInstrument, bind_ok_iff, raiseIf_ok_iff, Bool.not_eq_false, exists_const, pure_ok_iff]

@[simp] theorem insertJob_ok_iff {j : JobRecord} :
    books.insertJob refused j = .ok changed ↔
      books.admitsJob j = true ∧ books.setJobs (books.jobs ++ [j]) = changed := by
  simp only [insertJob, bind_ok_iff, raiseIf_ok_iff, Bool.not_eq_false, exists_const, pure_ok_iff]

end

/-- An action that is admitted is a new one. -/
theorem key_ne_of_admitsAction {books : CaseBooks} {clock : Timestamp} {a : ActionRecord}
    (h : books.admitsAction clock a = true) : ∀ old ∈ books.actions, old.key ≠ a.key := by
  intro old hold heq
  have hkeys := (Bool.and_eq_true _ _ ▸ h : _ ∧ _).2
  have hne := (Bool.and_eq_true _ _ ▸ List.all_eq_true.mp hkeys old hold : _ ∧ _).1
  exact absurd heq (of_decide_eq_true hne)

/-- A job that is admitted is a new one. -/
theorem id_ne_of_admitsJob {books : CaseBooks} {j : JobRecord}
    (h : books.admitsJob j = true) : ∀ old ∈ books.jobs, old.id ≠ j.id := by
  intro old hold
  have hkeys := (Bool.and_eq_true _ _ ▸ h : _ ∧ _).2
  have hne := (Bool.and_eq_true _ _ ▸ List.all_eq_true.mp hkeys old hold : _ ∧ _).1
  exact of_decide_eq_true hne

/-! ## The candidate -/

/-- `error_facts ->> name`, of a fact that is text. -/
def errorFact (facts : Facts) (name : String) : Option String :=
  match facts.lookup name with
  | some (.str value) => some value
  | _ => none

/-- `_ASSESSMENT_COLUMNS`; every key of its joins and of its `WHERE` names one row. -/
def assessmentRow (now : Timestamp) (command : AssessRecoveryCaseCommand) :
    Option AssessmentRow := do
  let c ← books.cases.find? fun c => c.id = command.recoveryCaseId &&
    c.merchantId = command.merchantId && c.providerAccountId = command.providerAccountId &&
    c.logicalOrderId = command.logicalOrderId
  let merchant ← books.merchants.find? fun m => m.id = c.merchantId
  let account ← books.accounts.find? fun a => a.merchantId = c.merchantId &&
    a.id = c.providerAccountId
  let order ← books.orders.find? fun o => o.merchantId = c.merchantId &&
    o.id = c.logicalOrderId && o.providerAccountId = c.providerAccountId &&
    o.currency = c.currency && o.amountDueMinor = c.amountDueSnapshotMinor
  let payment ← books.payments.find? fun p => p.id = command.paymentRecordId &&
    p.merchantId = c.merchantId && p.providerAccountId = c.providerAccountId &&
    p.logicalOrderId = c.logicalOrderId && p.currency = c.currency
  return {
    now := now
    recoveryCaseId := c.id
    merchantId := c.merchantId
    logicalOrderId := c.logicalOrderId
    providerAccountId := c.providerAccountId
    currency := c.currency
    amountDueMinor := c.amountDueSnapshotMinor
    state := c.state
    version := c.version
    observationContractVersion := c.observationContractVersion
    observationStartedAt := c.observationStartedAt
    observationDeadlineAt := c.observationDeadlineAt
    attemptCount := c.attemptCount
    contactCount := c.contactCount
    incidentId := c.incidentId
    merchantStatus := merchant.status
    killSwitchEnabled := merchant.killSwitchEnabled
    policyVersion := merchant.defaultPolicyVersion
    providerAccountIdentifier := account.providerAccountIdentifier
    environment := account.environment
    enabled := account.enabled
    credentialBindingVersion := account.credentialBindingVersion
    originalProviderOrderId := order.originalProviderOrderId
    orderAmountDueMinor := order.amountDueMinor
    orderCurrency := order.currency
    capturedTotalMinor := order.capturedTotalMinor
    refundedTotalMinor := order.refundedTotalMinor
    canonicalTruth := order.canonicalTruth
    truthVersion := order.truthVersion
    orderSnapshotAt := order.providerSnapshotAt
    mappingStatus := order.mappingStatus
    paymentRecordId := payment.id
    providerPaymentId := payment.providerPaymentId
    providerOrderId := payment.providerOrderId
    paymentStatus := payment.status
    paymentAmountMinor := payment.amountMinor
    paymentCurrency := payment.currency
    capturedMinor := payment.capturedMinor
    refundedMinor := payment.refundedMinor
    paymentMethod := payment.paymentMethod
    errorSource := errorFact payment.errorFacts "error_source"
    errorStep := errorFact payment.errorFacts "error_step"
    errorReason := errorFact payment.errorFacts "error_reason"
    providerCreatedAt := payment.providerCreatedAt
    paymentSnapshotAt := payment.providerSnapshotAt
    activeInstrumentCount := (books.instruments.filter fun i =>
      i.merchantId = c.merchantId && i.logicalOrderId = c.logicalOrderId &&
        i.currency = c.currency && i.status ∈ collectableStatuses).length }

end CaseBooks

end Retrywise.ControlPlane
