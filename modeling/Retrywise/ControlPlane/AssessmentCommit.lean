import Retrywise.ControlPlane.CaseBooks

/-!
# Assessments: the commit

`assessment_intent.py`, `PostgresAssessmentIntentRepository.commit_plan`: one transaction that
locks the candidate, compares it with the one the provider was asked about, plans, and writes
what was planned.

> `commitPlan`: a commit takes the case from `OBSERVING` or `WAITING` two versions
> further, through `ASSESSING`, with one decision, and what it leaves is what the gate said.

The audit entry is left out; one that raises rolls the transaction back like any other
statement.
-/

namespace Retrywise.ControlPlane

open Retrywise.Foundation Retrywise.Domain

/-! ## The statements -/

/-- `_single_value` of a statement that has matched no row. -/
def casFailed (operation : String) : AssessmentRaise :=
  .assessment (.persistence s!"{operation}_compare_and_swap_failed")

/-- What PostgreSQL raises for a row it refuses. -/
def refusedRow : AssessmentRaise :=
  .exception (.database "refused by a trigger or a check of the table")

/-- The case of a command, in the `WHERE` of its statements. -/
def CaseRecord.isOf (c : CaseRecord) (command : AssessRecoveryCaseCommand) : Bool :=
  c.id = command.recoveryCaseId && c.merchantId = command.merchantId &&
    c.providerAccountId = command.providerAccountId && c.logicalOrderId = command.logicalOrderId

/-- `WHERE` of `_START_ASSESSMENT`. -/
def CaseRecord.isDue (c : CaseRecord) (command : AssessRecoveryCaseCommand) (clock : Timestamp) :
    Bool :=
  c.isOf command && c.version = command.expectedCaseVersion &&
    c.observationContractVersion = 1 &&
    ((c.state = .observing && c.observationDeadlineAt.any (· ≤ clock)) ||
      (c.state = .waiting && c.evaluationDeadlineAt.any (· ≤ clock)))

/-- `SET` of `_START_ASSESSMENT`. -/
def CaseRecord.started (c : CaseRecord) : CaseRecord :=
  { c with state := .assessing, version := c.version + 1 }

/-- `SET` of `_QUEUE_CASE`. -/
def CaseRecord.queued (c : CaseRecord) (decisionId actionId : String) (evaluatedAt : Timestamp) :
    CaseRecord :=
  { c with
    state := .actionQueued
    version := c.version + 1
    attemptCount := c.attemptCount + 1
    lastDecisionId := some decisionId
    lastDecisionAt := some evaluatedAt
    lastActionId := some actionId
    lastActionAt := some evaluatedAt }

/-- How a case is left that no effect is planned for. -/
structure CaseFinish where
  state : RecoveryState
  evaluationDeadlineAt : Option Timestamp
  terminalReasonCode : Option String
  terminalAt : Option Timestamp

/-- `SET` of `_FINISH_NON_EFFECT_CASE`. -/
def CaseRecord.finished (c : CaseRecord) (finish : CaseFinish) (decisionId : String)
    (evaluatedAt : Timestamp) : CaseRecord :=
  { c with
    state := finish.state
    version := c.version + 1
    evaluationDeadlineAt := finish.evaluationDeadlineAt
    terminalReasonCode := finish.terminalReasonCode
    terminalAt := finish.terminalAt
    lastDecisionId := some decisionId
    lastDecisionAt := some evaluatedAt }

namespace CaseBooks

variable (books : CaseBooks) (command : AssessRecoveryCaseCommand) (clock : Timestamp)

def startAssessment (operation : String) : Except AssessmentRaise CaseBooks :=
  books.updateCase (casFailed operation) refusedRow clock command.recoveryCaseId
    (fun c => c.isDue command clock) CaseRecord.started

/-- `WHERE` of the second statement on the case. -/
def assessing (c : CaseRecord) : Bool :=
  c.isOf command && c.state = .assessing && c.version = command.expectedCaseVersion + 1

def queueCase (decisionId actionId : String) (evaluatedAt : Timestamp) :
    Except AssessmentRaise CaseBooks :=
  books.updateCase (casFailed "queue_case") refusedRow clock command.recoveryCaseId
    (assessing command) fun c => c.queued decisionId actionId evaluatedAt

def finishNonEffectCase (finish : CaseFinish) (decisionId : String) (evaluatedAt : Timestamp) :
    Except AssessmentRaise CaseBooks :=
  books.updateCase (casFailed "finish_non_effect_case") refusedRow clock command.recoveryCaseId
    (assessing command) fun c => c.finished finish decisionId evaluatedAt

end CaseBooks

/-! ## The rows -/

/-- `_class_probabilities`. -/
def classProbabilities (diagnosis : DiagnosisResult) : Json :=
  .obj (diagnosis.classProbabilities.map fun item => (item.1.value, .str item.2.toPrimitive))

/-- `_expected_value_inputs`. -/
def expectedValueInputs (diagnosis : DiagnosisResult) (truth : PaymentTruthFields)
    (health : MethodHealthFields) : Json :=
  .obj [
    ("artifact_version", .str diagnosis.artifactVersion),
    ("confidence", .str diagnosis.confidence.toPrimitive),
    ("detector_version", .str health.detectorVersion),
    ("estimated", .bool false),
    ("incident_state", .str health.incidentState.value),
    ("method_health_observed_at", .str (canonicalTimestamp health.observedAt)),
    ("predicted_class", .str diagnosis.predictedClass.value),
    ("provider_truth_observed_at", .str (canonicalTimestamp truth.observedAt)),
    ("diagnosis_provenance", diagnosis.provenance.toPrimitive),
    ("schema", .str "retrywise-expected-value-inputs-v1"),
    ("threshold_version", .str health.thresholdVersion)]

/-- `policy_name`. -/
def policyName : String := "retrywise_standard_payment_link"

/-- `_intent_metadata`. -/
def intentMetadata (intent : IntentFields) : Json :=
  .obj [
    ("action_key", .str intent.actionKey),
    ("executor_payload_sha256", .str intent.payloadDigest),
    ("prior_plan_sha256", .str intent.priorPlanDigest),
    ("proposal_sha256", .str intent.proposalDigest),
    ("provider_account_id", .str intent.providerAccountId),
    ("provider_request_sha256", .str intent.requestDigest),
    ("recorded_at", .str (canonicalTimestamp intent.recordedAt)),
    ("reference_id", .str intent.referenceId),
    ("schema", .str "retrywise-durable-action-intent"),
    ("schema_version", .int intent.schemaVersion)]

/-- What the planning gate leaves in the decision. -/
structure PlanningVerdict where
  verdict : GateVerdict
  selectedAction : Option ActionType
  reasonCodes : List String

/-- `PostgresAssessmentIntentRepository`, with the checks of its constructor. -/
structure AssessmentRepository where
  actionMaxAttempts : Nat
  outboxMaxAttempts : Nat
  incidentWait : Timedelta
  approvalTtl : Timedelta
  attemptsOk : 0 < actionMaxAttempts ∧ 0 < outboxMaxAttempts
  windowsOk : 0 < incidentWait ∧ 0 < approvalTtl

/-- What one commit reads from outside: the clock at the lock and at the first statement, and
what the id factories return. -/
structure CommitReadings where
  lockedAt : Timestamp
  startedAt : Timestamp
  planIds : PlanIds
  decisionId : String
  approvalId : String

/-- The ids of an effect that is queued. -/
structure EffectReferences where
  actionId : String
  instrumentId : String
  outboxJobId : String
  actionKey : String
  referenceId : String
deriving DecidableEq

/-- `AssessmentResult`, without the diagnosis; its own checks always pass. -/
structure AssessmentResult where
  disposition : AssessmentDisposition
  recoveryCaseId : String
  initialCaseVersion : Nat
  finalCaseVersion : Nat
  reasonCodes : List String
  decisionId : String
  approvalId : Option String := none
  effect : Option EffectReferences := none
deriving DecidableEq

section

variable [Hashlib] (repository : AssessmentRepository) (readings : CommitReadings)
  (command : AssessRecoveryCaseCommand) (s : AssessmentSnapshot)
  (truth : FreshProviderPaymentTruth) (health : FreshMethodHealthTruth)

/-- The row of `_INSERT_DECISION` and of `_INSERT_NON_EFFECT_DECISION`. -/
def decisionRow (diagnosis : DiagnosisResult) (id policyVersion : String)
    (candidates : List ActionProposal) (planning : PlanningVerdict) : DecisionRow where
  id := id
  merchantId := command.merchantId
  recoveryCaseId := command.recoveryCaseId
  logicalOrderId := command.logicalOrderId
  aggregateVersion := command.expectedCaseVersion + 1
  featureSnapshot := diagnosis.featureSnapshot.toPrimitive
  featureSnapshotSha256 := sha256Json diagnosis.featureSnapshot.toPrimitive
  modelName := diagnosis.provenance.modelName
  modelVersion := diagnosis.artifactVersion
  classProbabilities := classProbabilities diagnosis
  requestedDiagnosisMode := diagnosis.provenance.requestedMode
  executedDiagnosisEngine := diagnosis.provenance.executedEngine
  diagnosisLatencyMs := diagnosis.provenance.latencyMs
  diagnosisFallbackReasonCode := diagnosis.provenance.fallbackReasonCode
  shadowDiagnosis := diagnosis.provenance.shadow.map ShadowDiagnosis.toPrimitive
  abstained := diagnosis.abstained
  outOfDistribution := diagnosis.outOfDistribution
  policyName := policyName
  policyVersion := policyVersion
  candidates := candidates.map fun proposal => proposal.toPrimitive
  selectedAction := planning.selectedAction
  planningGateVerdict := planning.verdict
  planningGateReasonCodes := planning.reasonCodes
  expectedValueInputs :=
    expectedValueInputs diagnosis truth.toPaymentTruthFields health.toMethodHealthFields
  createdAt := s.databaseNow

/-- The row of `_INSERT_ACTION`. -/
def actionRow (plan : AuthorizedAssessmentPlan) : ActionRecord where
  id := plan.ids.actionId
  actionKey := plan.command.proposal.actionKey
  externalReferenceId := some plan.command.request.referenceId
  status := .planned
  attemptNumber := 0
  maxAttempts := repository.actionMaxAttempts
  leaseOwner := none
  leaseExpiresAt := none
  effectGateSnapshot := none
  effectGateVerdict := none
  effectGateReasonCodes := []
  responseMetadata := none
  providerStatus := none
  reconciliationStatus := .notRequired
  providerResourceId := none
  firstAttemptedAt := none
  lastAttemptedAt := none
  completedAt := none
  lastErrorCode := none
  deadLetteredAt := none
  deadLetterReason := none
  merchantId := command.merchantId
  recoveryCaseId := command.recoveryCaseId
  decisionId := plan.ids.decisionId
  aggregateVersion := command.expectedCaseVersion + 1
  approvalId := none
  requestMetadata := intentMetadata plan.durableIntent.toIntentFields
  scheduledAt := s.databaseNow
  createdAt := s.databaseNow

omit [Hashlib] in
/-- The row of `_INSERT_INSTRUMENT`. -/
def instrumentRow (plan : AuthorizedAssessmentPlan) : InstrumentRecord where
  id := plan.ids.instrumentId
  recoveryCaseId := command.recoveryCaseId
  logicalOrderId := command.logicalOrderId
  currency := s.recoveryCase.currency
  providerOrderId := none
  providerPaymentId := none
  refundedMinor := 0
  status := .creating
  referenceId := plan.command.request.referenceId
  providerPaymentLinkId := none
  lastProviderStatus := none
  reconciliationStatus := .pending
  lastReconciledAt := none
  amountMinor := s.recoveryCase.amountDueMinor
  collectedMinor := 0
  merchantId := command.merchantId
  providerAccountId := command.providerAccountId
  actionId := plan.ids.actionId
  expiresAt := plan.linkExpiresAt
  createdAt := s.databaseNow

/-- The row of `_INSERT_OUTBOX`. -/
def jobRow (plan : AuthorizedAssessmentPlan) (payload : Json) : JobRecord where
  id := plan.ids.outboxJobId
  merchantId := command.merchantId
  aggregateType := "ACTION"
  aggregateId := plan.ids.actionId
  commandType := "CREATE_STANDARD_PAYMENT_LINK"
  commandSchemaVersion := 1
  idempotencyKey := "create-standard-payment-link:" ++ plan.command.proposal.actionKey
  status := .pending
  attemptCount := 0
  maxAttempts := repository.outboxMaxAttempts
  nextAttemptAt := s.databaseNow
  leaseOwner := none
  leaseToken := none
  leaseExpiresAt := none
  deliveryVersion := 0
  retryMode := .normal
  lastErrorCode := none
  lastErrorAt := none
  completionReference := none
  completedAt := none
  deadLetterReason := none
  deadLetteredAt := none
  createdAt := s.databaseNow
  updatedAt := s.databaseNow
  commandPayload := payload

omit [Hashlib] in
/-- The row of `_INSERT_APPROVAL`. -/
def approvalRow (decisionId : String) (expiresAt : Timestamp) : ApprovalRecord where
  id := readings.approvalId
  verdict := .pending
  approverSubject := none
  actedAt := none
  expiresAt := expiresAt
  merchantId := command.merchantId
  recoveryCaseId := command.recoveryCaseId
  decisionId := decisionId
  aggregateVersion := command.expectedCaseVersion + 1
  requestedAt := s.databaseNow
  reasonCode := none

/-! ## Writing what was planned -/

/-- `WHERE` of `_QUEUE_ACTION`. -/
def queuesAction (planned : ActionRecord) (a : ActionRecord) : Bool :=
  a.id = planned.id && a.merchantId = planned.merchantId &&
    a.recoveryCaseId = planned.recoveryCaseId && a.decisionId = planned.decisionId &&
    a.aggregateVersion = planned.aggregateVersion && a.actionKey = planned.actionKey &&
    a.status = .planned

/-- The plan is of the command. -/
def AuthorizedAssessmentPlan.BoundTo (plan : AuthorizedAssessmentPlan)
    (command : AssessRecoveryCaseCommand) : Prop :=
  plan.command.proposal.merchantId = command.merchantId ∧
    plan.command.proposal.caseId = command.recoveryCaseId ∧
    plan.command.proposal.decisionVersion = command.expectedCaseVersion + 1 ∧
    plan.command.providerAccountId = command.providerAccountId ∧
    plan.command.priorPlan.aggregateVersion = command.expectedCaseVersion + 1

instance (plan : AuthorizedAssessmentPlan) (command : AssessRecoveryCaseCommand) :
    Decidable (plan.BoundTo command) := inferInstanceAs (Decidable (_ ∧ _))

/-- `_persist_authorized`. -/
def persistAuthorized (plan : AuthorizedAssessmentPlan) (books : CaseBooks) :
    Except AssessmentRaise CaseBooks := do
  raiseIf (plan.snapshotDigest ≠ s.stateDigest)
    (.assessment (.persistence "authorized_plan_snapshot_mismatch"))
  raiseIf (¬plan.BoundTo command) (.assessment (.persistence "authorized_plan_binding_mismatch"))
  let payload ← unexpected (encodeCreateStandardPaymentLinkCommand plan.command)
  let planned := actionRow repository command s plan
  let books ← books.startAssessment command readings.startedAt "start_assessment"
  let books ← books.insertDecision refusedRow
    (decisionRow command s truth health plan.diagnosis plan.ids.decisionId
      plan.command.priorPlan.policyVersion [plan.command.proposal]
      ⟨.allowed, some .createStandardPaymentLink, []⟩)
  let books ← books.insertAction refusedRow readings.startedAt planned
  let books ← books.insertInstrument refusedRow (instrumentRow command s plan)
  let books ← books.updateAction (casFailed "queue_action") refusedRow planned.id
    (queuesAction planned) fun a => { a with status := .queued }
  let books ← books.queueCase command readings.startedAt plan.ids.decisionId plan.ids.actionId
    s.databaseNow
  books.insertJob refusedRow (jobRow repository command s plan payload)

/-- `wait_reasons`. -/
def waitReasons : List String := ["PAYMENT_METHOD_UNHEALTHY", "COOLDOWN_ACTIVE"]

/-- The disposition a blocked plan is persisted under. -/
def persistedDisposition (plan : BlockedAssessmentPlan) : AssessmentDisposition :=
  if plan.disposition ≠ .approvalRequired ∧ ∃ reason ∈ plan.reasonCodes, reason ∈ waitReasons then
    .waiting
  else plan.disposition

/-- What the decision of a blocked plan says. -/
def blockedVerdict (plan : BlockedAssessmentPlan) : PlanningVerdict :=
  if persistedDisposition plan = .approvalRequired then
    ⟨.approvalRequired, some .createStandardPaymentLink, plan.reasonCodes⟩
  else ⟨.blocked, none, plan.reasonCodes⟩

omit [Hashlib] in
/-- The approval of a plan that needs one. -/
def requestApproval (plan : BlockedAssessmentPlan) (decisionId : String) (books : CaseBooks) :
    Except AssessmentRaise CaseBooks := do
  let proposal ← someOr plan.proposal (.assessment (.persistence "approval_proposal_missing"))
  raiseIf (¬isUlid readings.approvalId)
    (.assessment (.persistence "assessment_id_factory_failed"))
  let latest ← unexpected (liftDomain (shift s.databaseNow repository.approvalTtl))
  let expiresAt := if proposal.expiresAt ≤ latest then proposal.expiresAt else latest
  raiseIf (expiresAt ≤ s.databaseNow) (.assessment (.persistence "approval_window_expired"))
  books.insertApproval refusedRow (approvalRow readings command s decisionId expiresAt)

omit [Hashlib] in
/-- How the case of a blocked plan is left. -/
def caseFinish (plan : BlockedAssessmentPlan) : Except AssessmentRaise CaseFinish :=
  match persistedDisposition plan with
  | .approvalRequired => .ok ⟨.approvalRequired, none, none, none⟩
  | .waiting => do
    let deadline ← unexpected (liftDomain (shift s.databaseNow repository.incidentWait))
    return ⟨.waiting, some deadline, none, none⟩
  | _ =>
    let paid := truth.status = .captured ∨ truth.status = .refunded
    .ok ⟨if paid then .suppressedPaid else .suppressedPolicy, none, plan.reasonCodes.head?,
      some s.databaseNow⟩

/-- `_persist_blocked`. -/
def persistBlocked (plan : BlockedAssessmentPlan) (policyVersion : String) (books : CaseBooks) :
    Except AssessmentRaise CaseBooks := do
  raiseIf (¬isUlid readings.decisionId)
    (.assessment (.persistence "assessment_id_factory_failed"))
  let books ← books.startAssessment command readings.startedAt "start_blocked_assessment"
  let books ← books.insertDecision refusedRow
    (decisionRow command s truth health plan.diagnosis readings.decisionId policyVersion
      plan.proposal.toList (blockedVerdict plan))
  let books ← (if persistedDisposition plan = .approvalRequired then
      requestApproval repository readings command s plan readings.decisionId books
    else .ok books)
  let finish ← caseFinish repository s truth plan
  books.finishNonEffectCase command readings.startedAt finish readings.decisionId s.databaseNow

/-! ## The transaction -/

variable (planner : AssessmentPlanner) (diagnosis : DiagnosisResult) (initial : AssessmentSnapshot)

/-- Persisting a plan. -/
def persistPlan (plan : AssessmentPlan) (books : CaseBooks) : Except AssessmentRaise CaseBooks :=
  match plan with
  | .blocked plan =>
    persistBlocked repository readings command s truth health plan planner.gate.policy.version
      books
  | .authorized plan => persistAuthorized repository readings command s truth health plan books

omit [Hashlib] in
/-- The result of a plan that is persisted. -/
def assessmentResult : AssessmentPlan → AssessmentResult
  | .blocked plan => {
    disposition := persistedDisposition plan
    recoveryCaseId := command.recoveryCaseId
    initialCaseVersion := command.expectedCaseVersion
    finalCaseVersion := command.expectedCaseVersion + 2
    reasonCodes := plan.reasonCodes
    decisionId := readings.decisionId
    approvalId :=
      if persistedDisposition plan = .approvalRequired then some readings.approvalId else none }
  | .authorized plan => {
    disposition := .intentQueued
    recoveryCaseId := command.recoveryCaseId
    initialCaseVersion := command.expectedCaseVersion
    finalCaseVersion := command.expectedCaseVersion + 2
    reasonCodes := []
    decisionId := plan.ids.decisionId
    effect := some ⟨plan.ids.actionId, plan.ids.instrumentId, plan.ids.outboxJobId,
      plan.command.proposal.actionKey, plan.command.request.referenceId⟩ }

/-- `_commit_plan`. -/
def commitWork (books : CaseBooks) :
    Except AssessmentRaise (CaseBooks × AssessmentResult) := do
  raiseIf (initial.binding ≠ command.toAssessCommandFields)
    (.assessment (.stateChanged "assessment_initial_snapshot_misbound"))
  let locked ← snapshotFromRow (books.assessmentRow readings.lockedAt command) command
  raiseIf (initial.stateDigest ≠ locked.stateDigest)
    (.assessment (.stateChanged "assessment_state_changed_during_provider_read"))
  raiseIf (¬TruthMatches locked truth.toPaymentTruthFields)
    (.assessment (.providerTruth "fresh_provider_truth_binding_mismatch"))
  raiseIf (¬HealthMatches locked truth.toPaymentTruthFields health.toMethodHealthFields)
    (.assessment (.methodHealth "fresh_method_health_binding_mismatch"))
  let plan ← planner.plan locked truth health diagnosis readings.planIds
  let after ← persistPlan repository readings command locked truth health planner plan books
  return (after, assessmentResult readings command plan)

/-- `commit_plan`: the books afterwards, and what it returns. A transaction that raises is
rolled back. -/
def commitPlan (books : CaseBooks) : CaseBooks × Except AssessmentError AssessmentResult :=
  match sanitized (.persistence "assessment_commit_failed")
      (commitWork repository readings command truth health planner diagnosis initial books) with
  | .ok (after, result) => (after, .ok result)
  | .error e => (books, .error e)

variable {repository readings command s truth health planner diagnosis initial}

/-- A commit that meets no obstacle. -/
theorem commitPlan_of {plan : AssessmentPlan} {books after : CaseBooks}
    (hbound : initial.binding = command.toAssessCommandFields)
    (hrow : snapshotFromRow (books.assessmentRow readings.lockedAt command) command = .ok s)
    (hdigest : initial.stateDigest = s.stateDigest)
    (htruth : TruthMatches s truth.toPaymentTruthFields)
    (hhealth : HealthMatches s truth.toPaymentTruthFields health.toMethodHealthFields)
    (hplan : planner.plan s truth health diagnosis readings.planIds = .ok plan)
    (hpersist : persistPlan repository readings command s truth health planner plan books =
      .ok after) :
    commitPlan repository readings command truth health planner diagnosis initial books =
      (after, .ok (assessmentResult readings command plan)) := by
  have hwork : commitWork repository readings command truth health planner diagnosis initial
      books = .ok (after, assessmentResult readings command plan) := by
    unfold commitWork
    rw [bind_of_ok (raiseIf_of_not _ (not_not.mpr hbound)), bind_of_ok hrow,
      bind_of_ok (raiseIf_of_not _ (not_not.mpr hdigest)),
      bind_of_ok (raiseIf_of_not _ (not_not.mpr htruth)),
      bind_of_ok (raiseIf_of_not _ (not_not.mpr hhealth)), bind_of_ok hplan, bind_of_ok hpersist]
    rfl
  unfold commitPlan
  rw [hwork]
  rfl

end

end Retrywise.ControlPlane
