import Retrywise.ControlPlane.Ledger

/-!
# Assessments: the candidate

`assessment_intent.py`, the first half: the command that asks for a case to be assessed, the
row the query returns for it, and the snapshot the row is turned into, which only a case that
is due, unpaid and bound to the command passes.

The row is read twice, before and after the provider is asked, and the two snapshots are
compared by their digests (`AssessmentSnapshot.stateDigest`).
-/

namespace Retrywise.ControlPlane

open Retrywise.Foundation Retrywise.Domain

/-! ## Errors -/

/-- `AssessmentError` and its subclasses, with the reason code. -/
inductive AssessmentError where
  | notEligible (reasonCode : String)
  | stateChanged (reasonCode : String)
  | providerTruth (reasonCode : String)
  | methodHealth (reasonCode : String)
  | diagnosis (reasonCode : String)
  | authorization (reasonCodes : List String)
  | persistence (reasonCode : String)
deriving DecidableEq, Repr

/-- What an assessment raises inside: an error of its own, or any other exception. -/
inductive AssessmentRaise where
  | assessment (error : AssessmentError)
  | exception (error : ControlPlaneError)

/-- `except AssessmentError: raise`, `except Exception: raise ..`. -/
def sanitized {α : Type} (fallback : AssessmentError) :
    Except AssessmentRaise α → Except AssessmentError α
  | .ok a => .ok a
  | .error (.assessment e) => .error e
  | .error (.exception _) => .error fallback

@[simp] theorem sanitized_ok_iff {α : Type} {fallback : AssessmentError}
    {call : Except AssessmentRaise α} {a : α} :
    sanitized fallback call = .ok a ↔ call = .ok a := by
  rcases call with e | b
  · cases e with
    | assessment e => simp [sanitized]
    | exception e => simp [sanitized]
  · simp [sanitized]

/-- Any other exception, inside an assessment. -/
def unexpected {α : Type} : Except ControlPlaneError α → Except AssessmentRaise α
  | .ok a => .ok a
  | .error e => .error (.exception e)

@[simp] theorem unexpected_ok_iff {α : Type} {call : Except ControlPlaneError α} {a : α} :
    unexpected call = .ok a ↔ call = .ok a := by
  cases call with
  | ok b => simp [unexpected]
  | error e => simp [unexpected]

/-- An error of the assessment's own. -/
def assessing {α : Type} : Except AssessmentError α → Except AssessmentRaise α
  | .ok a => .ok a
  | .error e => .error (.assessment e)

@[simp] theorem assessing_ok_iff {α : Type} {call : Except AssessmentError α} {a : α} :
    assessing call = .ok a ↔ call = .ok a := by
  cases call with
  | ok b => simp [assessing]
  | error e => simp [assessing]

/-! ## The command -/

structure AssessCommandFields where
  merchantId : String
  providerAccountId : String
  logicalOrderId : String
  paymentRecordId : String
  recoveryCaseId : String
  expectedCaseVersion : Nat
deriving DecidableEq

/-- `AssessRecoveryCaseCommand.__post_init__`; there is one source. -/
def AssessCommandFields.postInit (c : AssessCommandFields) : Except ControlPlaneError Unit := do
  requireUlid c.merchantId "merchant_id"
  requireUlid c.providerAccountId "provider_account_id"
  requireUlid c.logicalOrderId "logical_order_id"
  requireUlid c.paymentRecordId "payment_record_id"
  requireUlid c.recoveryCaseId "recovery_case_id"

/-- The exact durable identity and version one assessment is for. -/
structure AssessRecoveryCaseCommand extends AssessCommandFields where
  valid : toAssessCommandFields.postInit = .ok ()

/-! ## The row -/

/-- The columns of `_ASSESSMENT_COLUMNS`; the provider can only be Razorpay. -/
structure AssessmentRow where
  now : Timestamp
  recoveryCaseId : String
  merchantId : String
  logicalOrderId : String
  providerAccountId : String
  currency : String
  amountDueMinor : Nat
  state : RecoveryState
  version : Nat
  observationContractVersion : Nat
  observationStartedAt : Option Timestamp
  observationDeadlineAt : Option Timestamp
  attemptCount : Nat
  contactCount : Nat
  incidentId : Option String
  merchantStatus : MerchantStatus
  killSwitchEnabled : Bool
  policyVersion : String
  providerAccountIdentifier : String
  environment : ProviderEnvironment
  enabled : Bool
  credentialBindingVersion : Nat
  originalProviderOrderId : Option String
  orderAmountDueMinor : Nat
  orderCurrency : String
  capturedTotalMinor : Nat
  refundedTotalMinor : Nat
  canonicalTruth : CanonicalPaymentState
  truthVersion : Nat
  orderSnapshotAt : Option Timestamp
  mappingStatus : OrderMappingStatus
  paymentRecordId : String
  providerPaymentId : String
  providerOrderId : Option String
  paymentStatus : ProviderPaymentStatus
  paymentAmountMinor : Nat
  paymentCurrency : String
  capturedMinor : Nat
  refundedMinor : Nat
  paymentMethod : Option String
  errorSource : Option String
  errorStep : Option String
  errorReason : Option String
  providerCreatedAt : Option Timestamp
  paymentSnapshotAt : Timestamp
  activeInstrumentCount : Nat
deriving DecidableEq

/-! ## The snapshot -/

structure MerchantAssessmentState where
  killSwitchEnabled : Bool
  policyVersion : String
deriving DecidableEq

structure ProviderAccountAssessmentState where
  providerAccountIdentifier : String
  credentialBindingVersion : Nat
deriving DecidableEq

structure RecoveryCaseAssessmentState where
  recoveryCaseId : String
  merchantId : String
  logicalOrderId : String
  providerAccountId : String
  currency : String
  amountDueMinor : Nat
  state : RecoveryState
  version : Nat
  observationStartedAt : Timestamp
  observationDeadlineAt : Timestamp
  attemptCount : Nat
  contactCount : Nat
  incidentId : Option String
deriving DecidableEq

structure LogicalOrderAssessmentState where
  originalProviderOrderId : String
  amountDueMinor : Nat
  currency : String
  truthVersion : Nat
  providerSnapshotAt : Timestamp
deriving DecidableEq

structure ProviderPaymentAssessmentState where
  paymentRecordId : String
  providerPaymentId : String
  providerOrderId : String
  amountMinor : Nat
  currency : String
  paymentMethod : Option String
  errorSource : Option String
  errorStep : Option String
  errorReason : Option String
  providerCreatedAt : Option Timestamp
  providerSnapshotAt : Timestamp
deriving DecidableEq

/-- `AssessmentSnapshot`. What its parts are checked to be is not kept in them: the merchant
is active, the account enabled and of the test environment, the order mapped, unpaid and
without money, the payment failed and without money, the observation contract the first. -/
structure AssessmentSnapshot where
  databaseNow : Timestamp
  merchant : MerchantAssessmentState
  providerAccount : ProviderAccountAssessmentState
  recoveryCase : RecoveryCaseAssessmentState
  logicalOrder : LogicalOrderAssessmentState
  providerPayment : ProviderPaymentAssessmentState
  activeInstrumentCount : Nat
deriving DecidableEq

/-! ## From the row to the snapshot -/

/-- `_clean_text` of the assessment. -/
def requireCleanAscii (value field : String) (maximum : Nat) : Except ControlPlaneError Unit :=
  raiseIf (¬isCleanAscii maximum value)
    (.invalidValue s!"{field} must be clean bounded ASCII text")

/-- `_aware_utc` of a column that may be null. -/
def requireInstant (value : Option Timestamp) (field : String) :
    Except ControlPlaneError Timestamp :=
  someOr value (.invalidValue s!"{field} must be timezone-aware")

/-- A resource id that has to be there. -/
def requireResourceId (value : Option String) (field : String) :
    Except ControlPlaneError String := do
  let text ← someOr value (.invalidValue s!"{field} is required")
  requireProviderResourceId text field
  return text

/-- `Money(amount, currency)` of a positive amount. -/
def requireMoney (amount : Nat) (currency field : String) : Except ControlPlaneError Unit := do
  requirePositive amount field
  raiseIf (¬isCurrency currency)
    (.domain (.invalidValue "currency must be three uppercase ASCII letters"))

namespace AssessmentRow

variable (row : AssessmentRow)

/-- `RecoveryCaseAssessmentState` of the row. -/
def caseState : Except ControlPlaneError RecoveryCaseAssessmentState := do
  requireUlid row.recoveryCaseId "recovery_case_id"
  requireUlid row.merchantId "merchant_id"
  requireUlid row.logicalOrderId "logical_order_id"
  requireUlid row.providerAccountId "provider_account_id"
  requireMoney row.amountDueMinor row.currency "case amount_due_minor"
  requirePositive row.observationContractVersion "observation_contract_version"
  let startedAt ← requireInstant row.observationStartedAt "observation_started_at"
  let deadlineAt ← requireInstant row.observationDeadlineAt "observation_deadline_at"
  raiseIf (row.incidentId.any fun id => ¬isUlid id)
    (.invalidValue "incident_id must be an uppercase Crockford ULID")
  raiseIf (row.state ∉ [RecoveryState.observing, .waiting])
    (.invalidValue "recovery case must be OBSERVING or WAITING")
  raiseIf (row.observationContractVersion ≠ 1)
    (.invalidValue "recovery case lacks trusted observation evidence")
  raiseIf (deadlineAt.micros - startedAt.micros < minutes 2)
    (.invalidValue "observation deadline is below the safety floor")
  return {
    recoveryCaseId := row.recoveryCaseId
    merchantId := row.merchantId
    logicalOrderId := row.logicalOrderId
    providerAccountId := row.providerAccountId
    currency := row.currency
    amountDueMinor := row.amountDueMinor
    state := row.state
    version := row.version
    observationStartedAt := startedAt
    observationDeadlineAt := deadlineAt
    attemptCount := row.attemptCount
    contactCount := row.contactCount
    incidentId := row.incidentId }

/-- `MerchantAssessmentState` of the row. -/
def merchantState : Except ControlPlaneError MerchantAssessmentState := do
  requireCleanAscii row.policyVersion "policy_version" 100
  raiseIf (row.merchantStatus ≠ .active) (.invalidValue "merchant must be ACTIVE")
  let _ ← liftDomain (requireIdentifier row.policyVersion "policy_version")
  return ⟨row.killSwitchEnabled, row.policyVersion⟩

/-- `ProviderAccountAssessmentState` of the row. -/
def accountState : Except ControlPlaneError ProviderAccountAssessmentState := do
  requireCleanAscii row.providerAccountIdentifier "provider_account_identifier" 128
  requirePositive row.credentialBindingVersion "credential_binding_version"
  raiseIf (¬isProviderAccountIdentifier row.providerAccountIdentifier)
    (.invalidValue "provider account identifier is malformed")
  raiseIf (row.environment ≠ .test) (.invalidValue "provider account must be TEST")
  raiseIf (row.enabled = false) (.invalidValue "provider account must be enabled")
  return ⟨row.providerAccountIdentifier, row.credentialBindingVersion⟩

/-- `LogicalOrderAssessmentState` of the row. -/
def orderState : Except ControlPlaneError LogicalOrderAssessmentState := do
  let originalId ← requireResourceId row.originalProviderOrderId "original_provider_order_id"
  requireMoney row.orderAmountDueMinor row.orderCurrency "order amount_due_minor"
  let snapshotAt ← requireInstant row.orderSnapshotAt "order provider_snapshot_at"
  raiseIf (row.capturedTotalMinor ≠ 0 ∨ row.refundedTotalMinor ≠ 0 ∨ row.canonicalTruth ≠ .unpaid)
    (.invalidValue "logical order is not safely unpaid")
  raiseIf (row.mappingStatus ≠ .mapped) (.invalidValue "logical order is not exactly mapped")
  return {
    originalProviderOrderId := originalId
    amountDueMinor := row.orderAmountDueMinor
    currency := row.orderCurrency
    truthVersion := row.truthVersion
    providerSnapshotAt := snapshotAt }

/-- `ProviderPaymentAssessmentState` of the row. -/
def paymentState : Except ControlPlaneError ProviderPaymentAssessmentState := do
  requireUlid row.paymentRecordId "payment_record_id"
  requireProviderResourceId row.providerPaymentId "provider_payment_id"
  let providerOrderId ← requireResourceId row.providerOrderId "provider_order_id"
  raiseIf (row.paymentStatus ≠ .failed)
    (.invalidValue "persisted provider payment must be FAILED")
  requireMoney row.paymentAmountMinor row.paymentCurrency "payment amount_minor"
  raiseIf (row.capturedMinor ≠ 0 ∨ row.refundedMinor ≠ 0)
    (.invalidValue "failed provider payment cannot contain collected money")
  raiseIf (row.paymentMethod.any fun method => ¬isPaymentMethod method)
    (.domain (.invalidValue "payment_method must be a canonical lowercase identifier"))
  requireMachineFact row.errorSource "error_source"
  requireMachineFact row.errorStep "error_step"
  requireMachineFact row.errorReason "error_reason"
  return {
    paymentRecordId := row.paymentRecordId
    providerPaymentId := row.providerPaymentId
    providerOrderId := providerOrderId
    amountMinor := row.paymentAmountMinor
    currency := row.paymentCurrency
    paymentMethod := row.paymentMethod
    errorSource := row.errorSource
    errorStep := row.errorStep
    errorReason := row.errorReason
    providerCreatedAt := row.providerCreatedAt
    providerSnapshotAt := row.paymentSnapshotAt }

end AssessmentRow

namespace AssessmentSnapshot

variable (s : AssessmentSnapshot)

/-- Case, order and payment are of one amount and one provider order. -/
def MoneyAgrees : Prop :=
  s.recoveryCase.currency = s.logicalOrder.currency ∧
    s.recoveryCase.currency = s.providerPayment.currency ∧
    s.recoveryCase.amountDueMinor = s.logicalOrder.amountDueMinor ∧
    s.recoveryCase.amountDueMinor = s.providerPayment.amountMinor ∧
    s.logicalOrder.originalProviderOrderId = s.providerPayment.providerOrderId

instance : Decidable s.MoneyAgrees := inferInstanceAs (Decidable (_ ∧ _))

/-- `AssessmentSnapshot.__post_init__`. -/
def postInit : Except ControlPlaneError Unit := do
  raiseIf (s.databaseNow < s.recoveryCase.observationDeadlineAt)
    (.invalidValue "observation deadline has not elapsed")
  let horizon ← liftDomain (shift s.databaseNow (seconds 5))
  raiseIf (horizon < s.logicalOrder.providerSnapshotAt)
    (.invalidValue "logical order snapshot is from the future")
  raiseIf (horizon < s.providerPayment.providerSnapshotAt)
    (.invalidValue "provider payment snapshot is from the future")
  raiseIf (¬s.MoneyAgrees)
    (.invalidValue "case, order, and payment money or mapping disagree")

/-- The identity and the version the snapshot is of. -/
def binding : AssessCommandFields where
  merchantId := s.recoveryCase.merchantId
  providerAccountId := s.recoveryCase.providerAccountId
  logicalOrderId := s.recoveryCase.logicalOrderId
  paymentRecordId := s.providerPayment.paymentRecordId
  recoveryCaseId := s.recoveryCase.recoveryCaseId
  expectedCaseVersion := s.recoveryCase.version

/-- `assert_command_binding`. -/
def assertCommandBinding (command : AssessRecoveryCaseCommand) : Except ControlPlaneError Unit :=
  raiseIf (s.binding ≠ command.toAssessCommandFields)
    (.invalidValue "assessment snapshot does not match its command")

end AssessmentSnapshot

/-- What `_snapshot_from_row` does inside its `try`. -/
def AssessmentRow.snapshot (row : AssessmentRow) (command : AssessRecoveryCaseCommand) :
    Except ControlPlaneError AssessmentSnapshot := do
  let recoveryCase ← row.caseState
  let merchant ← row.merchantState
  let providerAccount ← row.accountState
  let logicalOrder ← row.orderState
  let providerPayment ← row.paymentState
  let snapshot : AssessmentSnapshot := {
    databaseNow := row.now
    merchant, providerAccount, recoveryCase, logicalOrder, providerPayment
    activeInstrumentCount := row.activeInstrumentCount }
  snapshot.postInit
  snapshot.assertCommandBinding command
  return snapshot

/-- `_snapshot_from_row`. The `OverflowError` of a clock at the calendar's end is no
`ValueError`, and passes. -/
def snapshotFromRow (row : Option AssessmentRow) (command : AssessRecoveryCaseCommand) :
    Except AssessmentRaise AssessmentSnapshot :=
  match row with
  | none => .error (.assessment (.notEligible "assessment_candidate_not_found"))
  | some row =>
    match row.snapshot command with
    | .ok snapshot => .ok snapshot
    | .error (.domain .overflow) => .error (.exception (.domain .overflow))
    | .error _ => .error (.assessment (.notEligible "assessment_candidate_row_unsafe"))

theorem snapshotFromRow_ok_iff {row : Option AssessmentRow} {command : AssessRecoveryCaseCommand}
    {snapshot : AssessmentSnapshot} :
    snapshotFromRow row command = .ok snapshot ↔
      ∃ columns, row = some columns ∧ columns.snapshot command = .ok snapshot := by
  unfold snapshotFromRow
  cases row with
  | none => simp
  | some columns =>
    simp only [Option.some.injEq, exists_eq_left']
    split
    next s h => simp [h]
    next h => simp [h]
    next e _ h => simp [h]

/-! ## What a snapshot says -/

/-- The case of a snapshot is the row's. -/
structure AssessmentRow.CaseReadAs (row : AssessmentRow) (c : RecoveryCaseAssessmentState) :
    Prop where
  recoveryCaseId : c.recoveryCaseId = row.recoveryCaseId
  merchantId : c.merchantId = row.merchantId
  logicalOrderId : c.logicalOrderId = row.logicalOrderId
  providerAccountId : c.providerAccountId = row.providerAccountId
  currency : c.currency = row.currency
  amountDueMinor : c.amountDueMinor = row.amountDueMinor
  state : c.state = row.state
  version : c.version = row.version
  attemptCount : c.attemptCount = row.attemptCount
  contactCount : c.contactCount = row.contactCount
  incidentId : c.incidentId = row.incidentId
  deadlineAt : row.observationDeadlineAt = some c.observationDeadlineAt
  contract : row.observationContractVersion = 1
  assessable : row.state ∈ [RecoveryState.observing, .waiting]

theorem AssessmentRow.caseState_ok {row : AssessmentRow} {c : RecoveryCaseAssessmentState}
    (h : row.caseState = .ok c) : row.CaseReadAs c := by
  unfold AssessmentRow.caseState at h
  simp only [bind_ok_iff, raiseIf_ok_iff, not_not, exists_and_left, exists_const, requireInstant,
    someOr_ok_iff, pure_ok_iff, requireUlid_ok_iff, requirePositive_ok_iff, requireMoney] at h
  obtain ⟨-, -, -, -, -, -, startedAt, -, deadlineAt, hdeadline, -, hstate, hcontract, -, rfl⟩ := h
  exact ⟨rfl, rfl, rfl, rfl, rfl, rfl, rfl, rfl, rfl, rfl, rfl, hdeadline, hcontract, hstate⟩

/-- The snapshot is the row's, which is due and bound to the command. -/
structure AssessmentRow.ReadAs (row : AssessmentRow) (command : AssessRecoveryCaseCommand)
    (s : AssessmentSnapshot) : Prop where
  now : s.databaseNow = row.now
  recoveryCase : row.CaseReadAs s.recoveryCase
  merchant : row.merchantState = .ok s.merchant
  providerAccount : row.accountState = .ok s.providerAccount
  logicalOrder : row.orderState = .ok s.logicalOrder
  providerPayment : row.paymentState = .ok s.providerPayment
  instruments : s.activeInstrumentCount = row.activeInstrumentCount
  bound : s.binding = command.toAssessCommandFields
  due : s.recoveryCase.observationDeadlineAt ≤ s.databaseNow
  money : s.MoneyAgrees

theorem AssessmentRow.snapshot_ok {row : AssessmentRow} {command : AssessRecoveryCaseCommand}
    {s : AssessmentSnapshot} (h : row.snapshot command = .ok s) : row.ReadAs command s := by
  unfold AssessmentRow.snapshot at h
  obtain ⟨recoveryCase, hcase, h⟩ := bind_ok_iff.mp h
  obtain ⟨merchant, hmerchant, h⟩ := bind_ok_iff.mp h
  obtain ⟨providerAccount, haccount, h⟩ := bind_ok_iff.mp h
  obtain ⟨logicalOrder, horder, h⟩ := bind_ok_iff.mp h
  obtain ⟨providerPayment, hpayment, h⟩ := bind_ok_iff.mp h
  obtain ⟨_, hpost, h⟩ := bind_ok_iff.mp h
  obtain ⟨_, hbound, h⟩ := bind_ok_iff.mp h
  obtain rfl := pure_ok_iff.mp h
  unfold AssessmentSnapshot.postInit at hpost
  simp only [bind_ok_iff, raiseIf_ok_iff, not_not, exists_and_left, exists_const] at hpost
  obtain ⟨hdue, _, -, -, -, hmoney⟩ := hpost
  rw [AssessmentSnapshot.assertCommandBinding, raiseIf_ok_iff, not_not] at hbound
  exact ⟨rfl, row.caseState_ok hcase, hmerchant, haccount, horder, hpayment, rfl, hbound,
    not_lt.mp hdue, hmoney⟩

/-- A row of another version of the case is no candidate of the command. -/
theorem AssessmentRow.not_readAs_of_version {row : AssessmentRow}
    {command : AssessRecoveryCaseCommand} {s : AssessmentSnapshot}
    (hversion : row.version ≠ command.expectedCaseVersion) : row.snapshot command ≠ .ok s := by
  intro h
  have hread := row.snapshot_ok h
  have hbound : s.binding.expectedCaseVersion = command.expectedCaseVersion := by rw [hread.bound]
  exact hversion (hread.recoveryCase.version.symm.trans hbound)

/-! ## The digest -/

/-- An instant that may be missing. -/
def optionalTimestamp : Option Timestamp → Json
  | none => .null
  | some t => .str (canonicalTimestamp t)

/-- The document behind the digest: every fact but the database's time. The checked facts
that the snapshot does not keep are written as what they were checked to be. -/
def AssessmentSnapshot.stateMaterial (s : AssessmentSnapshot) : Json :=
  .obj [
    ("active_instrument_count", .int s.activeInstrumentCount),
    ("logical_order", .obj [
      ("amount_due_minor", .int s.logicalOrder.amountDueMinor),
      ("canonical_truth", .str "UNPAID"),
      ("captured_total_minor", .int 0),
      ("currency", .str s.logicalOrder.currency),
      ("mapping_status", .str "MAPPED"),
      ("original_provider_order_id", .str s.logicalOrder.originalProviderOrderId),
      ("provider_snapshot_at", .str (canonicalTimestamp s.logicalOrder.providerSnapshotAt)),
      ("refunded_total_minor", .int 0),
      ("truth_version", .int s.logicalOrder.truthVersion)]),
    ("merchant", .obj [
      ("kill_switch_enabled", .bool s.merchant.killSwitchEnabled),
      ("policy_version", .str s.merchant.policyVersion),
      ("status", .str "ACTIVE")]),
    ("provider_account", .obj [
      ("credential_binding_version", .int s.providerAccount.credentialBindingVersion),
      ("enabled", .bool true),
      ("environment", .str "TEST"),
      ("provider", .str "RAZORPAY"),
      ("provider_account_identifier", .str s.providerAccount.providerAccountIdentifier)]),
    ("provider_payment", .obj [
      ("amount_minor", .int s.providerPayment.amountMinor),
      ("captured_minor", .int 0),
      ("currency", .str s.providerPayment.currency),
      ("error_reason", optionalText s.providerPayment.errorReason),
      ("error_source", optionalText s.providerPayment.errorSource),
      ("error_step", optionalText s.providerPayment.errorStep),
      ("payment_method", optionalText s.providerPayment.paymentMethod),
      ("payment_record_id", .str s.providerPayment.paymentRecordId),
      ("provider_created_at", optionalTimestamp s.providerPayment.providerCreatedAt),
      ("provider_order_id", .str s.providerPayment.providerOrderId),
      ("provider_payment_id", .str s.providerPayment.providerPaymentId),
      ("provider_snapshot_at", .str (canonicalTimestamp s.providerPayment.providerSnapshotAt)),
      ("refunded_minor", .int 0),
      ("status", .str "FAILED")]),
    ("recovery_case", .obj [
      ("amount_due_minor", .int s.recoveryCase.amountDueMinor),
      ("attempt_count", .int s.recoveryCase.attemptCount),
      ("contact_count", .int s.recoveryCase.contactCount),
      ("currency", .str s.recoveryCase.currency),
      ("incident_id", optionalText s.recoveryCase.incidentId),
      ("logical_order_id", .str s.recoveryCase.logicalOrderId),
      ("merchant_id", .str s.recoveryCase.merchantId),
      ("observation_contract_version", .int 1),
      ("observation_deadline_at", .str (canonicalTimestamp s.recoveryCase.observationDeadlineAt)),
      ("observation_started_at", .str (canonicalTimestamp s.recoveryCase.observationStartedAt)),
      ("provider_account_id", .str s.recoveryCase.providerAccountId),
      ("recovery_case_id", .str s.recoveryCase.recoveryCaseId),
      ("state", .str s.recoveryCase.state.value.toUpper),
      ("version", .int s.recoveryCase.version)]),
    ("schema", .str "retrywise-assessment-snapshot-v1")]

/-- `state_digest`. -/
def AssessmentSnapshot.stateDigest [Hashlib] (s : AssessmentSnapshot) : String :=
  sha256Json s.stateMaterial

end Retrywise.ControlPlane
