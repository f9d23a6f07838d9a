import Retrywise.ControlPlane.Assessments
import Retrywise.ControlPlane.EffectCommandCodec

/-!
# Assessments: the plan

`assessment_intent.py`, `StandardPaymentLinkAssessmentPlanner`: from the locked snapshot, the
truth of the provider, the health of the method and a diagnosis to one of two plans, a link
that is authorized or a reason why none is.

> `planned_of_ok`: the gate is asked only when the payment failed and the diagnosis is of a class
> a link can mend (`Reviewed`), and a plan is authorized only when it then allows the proposal.

The diagnosis comes from outside the plan; its constructor's own checks are of no use here and
are left out, and so are its evidence and its reasons for abstaining.
-/

namespace Retrywise.ControlPlane

open Retrywise.Foundation Retrywise.Domain

/-! ## Diagnoses -/

inductive FailureClass where
  | providerIncident | customerCorrectable | credentialPermanent | fundsTemporary
  | merchantIntegration | unknown
deriving DecidableEq, Repr

def FailureClass.value : FailureClass → String
  | .providerIncident => "provider_incident"
  | .customerCorrectable => "customer_correctable"
  | .credentialPermanent => "credential_permanent"
  | .fundsTemporary => "funds_temporary"
  | .merchantIntegration => "merchant_integration"
  | .unknown => "unknown"

/-- `_LINK_ELIGIBLE_FAILURE_CLASSES`. -/
def linkEligibleFailureClasses : List FailureClass :=
  [.customerCorrectable, .credentialPermanent, .fundsTemporary]

inductive DiagnosisMode where
  | localMl | hybridGemini | shadow
deriving DecidableEq, Repr

def DiagnosisMode.value : DiagnosisMode → String
  | .localMl => "LOCAL_ML"
  | .hybridGemini => "HYBRID_GEMINI"
  | .shadow => "SHADOW"

inductive DiagnosisEngine where
  | localMl | gemini
deriving DecidableEq, Repr

def DiagnosisEngine.value : DiagnosisEngine → String
  | .localMl => "LOCAL_ML"
  | .gemini => "GEMINI"

structure ShadowDiagnosis where
  modelName : String
  modelVersion : String
  predictedClass : String
  confidence : Probability
  agreed : Bool

def ShadowDiagnosis.toPrimitive (s : ShadowDiagnosis) : Json :=
  .obj [
    ("agreed", .bool s.agreed),
    ("confidence", .str s.confidence.toPrimitive),
    ("model_name", .str s.modelName),
    ("model_version", .str s.modelVersion),
    ("predicted_class", .str s.predictedClass)]

structure DiagnosisProvenance where
  requestedMode : DiagnosisMode := .localMl
  executedEngine : DiagnosisEngine := .localMl
  modelName : String := "retrywise_categorical_naive_bayes"
  latencyMs : Nat := 0
  fallbackReasonCode : Option String := none
  shadow : Option ShadowDiagnosis := none

def DiagnosisProvenance.usedFallback (p : DiagnosisProvenance) : Bool :=
  p.requestedMode = .hybridGemini && p.executedEngine = .localMl

def DiagnosisProvenance.toPrimitive (p : DiagnosisProvenance) : Json :=
  .obj [
    ("executed_engine", .str p.executedEngine.value),
    ("fallback_reason_code", optionalText p.fallbackReasonCode),
    ("latency_ms", .int p.latencyMs),
    ("model_name", .str p.modelName),
    ("requested_mode", .str p.requestedMode.value),
    ("shadow", match p.shadow with | none => .null | some s => s.toPrimitive),
    ("used_fallback", .bool p.usedFallback)]

/-! ## Features -/

def missingValue : String := "__missing__"

def unknownValue : String := "__unknown__"

/-- `FEATURE_SPECS`: the names and categories of the closed schema. -/
def featureSpecs : List (String × List String) := [
  ("payment_method", ["card", "upi", "netbanking", "wallet", "other"]),
  ("error_source", ["customer", "issuer", "provider", "merchant", "network", "unknown"]),
  ("error_step", ["initiation", "authentication", "authorization", "processing", "capture",
    "callback", "unknown"]),
  ("error_reason", ["provider_unavailable", "gateway_timeout", "network_timeout",
    "issuer_unavailable", "incorrect_pin", "otp_failed", "user_cancelled", "credential_expired",
    "credential_invalid", "account_restricted", "insufficient_funds", "limit_exceeded",
    "integration_error", "invalid_request", "signature_error", "callback_error", "unknown"]),
  ("incident_state", ["normal", "suspected", "confirmed", "cooling"]),
  ("attempt_bucket", ["first", "second", "many"]),
  ("failure_age_bucket", ["fresh", "recent", "stale"])]

structure FeatureVector where
  values : List (String × String)
  unknownFeatures : List String
  missingFeatures : List String
deriving DecidableEq

/-- `value.strip().lower()`, of an ASCII value. -/
def stripLower (value : String) : String :=
  String.ofList (((value.toList.dropWhile isSpace).rdropWhile isSpace).map Char.toLower)

/-- One raw value in its category; a value that is no string is unknown. -/
def normalizedFeature (raw : List (String × Option String)) (name : String)
    (categories : List String) : String :=
  match raw.lookup name with
  | none => missingValue
  | some none => unknownValue
  | some (some value) =>
    if value.toList.length > 64 then unknownValue
    else if stripLower value ∈ categories then stripLower value
    else unknownValue

/-- `normalize_features`, of raw features under the schema's own names. -/
def normalizeFeatures (raw : List (String × Option String)) : FeatureVector :=
  let values := featureSpecs.map fun spec => (spec.1, normalizedFeature raw spec.1 spec.2)
  let named (value : String) :=
    ((values.filter fun v => v.2 = value).map Prod.fst).insertionSort (· ≤ ·)
  { values := values
    unknownFeatures := named unknownValue
    missingFeatures := named missingValue }

def FeatureVector.toPrimitive (v : FeatureVector) : Json :=
  .obj [
    ("schema", .str "payment_failure_features"),
    ("schema_version", .int 1),
    ("values", .obj (v.values.map fun value => (value.1, .str value.2))),
    ("unknown_features", .arr (v.unknownFeatures.map .str)),
    ("missing_features", .arr (v.missingFeatures.map .str))]

structure DiagnosisResult where
  artifactVersion : String
  predictedClass : FailureClass
  confidence : Probability
  classProbabilities : List (FailureClass × Probability)
  abstained : Bool
  outOfDistribution : Bool
  featureSnapshot : FeatureVector
  provenance : DiagnosisProvenance

/-! ## What is read fresh has to be of the snapshot -/

/-- `_truth_matches_snapshot`. -/
def TruthMatches (s : AssessmentSnapshot) (truth : PaymentTruthFields) : Prop :=
  truth.merchantId = s.recoveryCase.merchantId ∧
    truth.providerAccountId = s.recoveryCase.providerAccountId ∧
    truth.credentialBindingVersion = s.providerAccount.credentialBindingVersion ∧
    truth.providerPaymentId = s.providerPayment.providerPaymentId ∧
    truth.providerOrderId = s.providerPayment.providerOrderId ∧
    truth.amountMinor = s.providerPayment.amountMinor ∧
    truth.currency = s.providerPayment.currency ∧
    ∀ method, s.providerPayment.paymentMethod = some method → truth.paymentMethod = method

instance (s : AssessmentSnapshot) (truth : PaymentTruthFields) :
    Decidable (TruthMatches s truth) :=
  inferInstanceAs (Decidable (_ ∧ _ ∧ _ ∧ _ ∧ _ ∧ _ ∧ _ ∧
    ∀ method, s.providerPayment.paymentMethod = some method → _))

/-- `_method_health_matches_snapshot`. -/
def HealthMatches (s : AssessmentSnapshot) (truth : PaymentTruthFields)
    (health : MethodHealthFields) : Prop :=
  health.merchantId = s.recoveryCase.merchantId ∧
    health.providerAccountId = s.recoveryCase.providerAccountId ∧
    health.paymentMethod = truth.paymentMethod ∧
    health.incidentId = s.recoveryCase.incidentId ∧
    ∀ method, s.providerPayment.paymentMethod = some method → health.paymentMethod = method

instance (s : AssessmentSnapshot) (truth : PaymentTruthFields) (health : MethodHealthFields) :
    Decidable (HealthMatches s truth health) :=
  inferInstanceAs (Decidable (_ ∧ _ ∧ _ ∧ _ ∧
    ∀ method, s.providerPayment.paymentMethod = some method → _))

/-- `_attempt_bucket`. -/
def attemptBucket (attemptCount : Nat) : String :=
  if attemptCount = 0 then "first" else if attemptCount = 1 then "second" else "many"

/-- `_failure_age_bucket`. -/
def failureAgeBucket (observedAt failureAt : Timestamp) : String :=
  let age := observedAt.micros - failureAt.micros
  if age ≤ minutes 5 then "fresh" else if age ≤ minutes 60 then "recent" else "stale"

/-- `_diagnosis_error_step`. -/
def diagnosisErrorStep (step : Option String) : Option String :=
  step.map fun value =>
    ([("payment_authentication", "authentication"), ("payment_authorization", "authorization"),
      ("payment_callback", "callback"), ("payment_capture", "capture"),
      ("payment_initiation", "initiation"), ("payment_processing", "processing")].lookup
        value).getD value

/-- `_diagnosis_features`. -/
def diagnosisFeatures (s : AssessmentSnapshot) (truth : PaymentTruthFields)
    (health : MethodHealthFields) : List (String × Option String) := [
  ("attempt_bucket", some (attemptBucket s.recoveryCase.attemptCount)),
  ("error_reason", truth.errorReason),
  ("error_source", truth.errorSource),
  ("error_step", diagnosisErrorStep truth.errorStep),
  ("failure_age_bucket",
    some (failureAgeBucket s.databaseNow s.providerPayment.providerSnapshotAt)),
  ("incident_state", some health.incidentState.value),
  ("payment_method", some truth.paymentMethod)]

/-! ## The planner -/

/-- `StandardPaymentLinkAssessmentPlanner`, with the checks of its constructor. -/
structure AssessmentPlanner where
  gate : DeterministicGate
  proposalTtl : Timedelta
  linkTtl : Timedelta
  globalKillSwitch : Bool
  proposalTtlOk : 0 < proposalTtl
  linkTtlOk : proposalTtl + minutes 15 ≤ linkTtl ∧ linkTtl ≤ minutes (180 * 24 * 60)

/-- The ids a plan takes from the factory, in the order it takes them. -/
structure PlanIds where
  decisionId : String
  actionId : String
  instrumentId : String
  outboxJobId : String
deriving DecidableEq

def PlanIds.areUlids (ids : PlanIds) : Bool :=
  isUlid ids.decisionId && isUlid ids.actionId && isUlid ids.instrumentId &&
    isUlid ids.outboxJobId

structure BlockedAssessmentPlan where
  diagnosis : DiagnosisResult
  reasonCodes : List String
  proposal : Option ActionProposal := none
  planningDecision : Option GateDecision := none

structure AuthorizedAssessmentPlan where
  snapshotDigest : String
  diagnosis : DiagnosisResult
  command : CreatePaymentLinkCommand
  durableIntent : DurableActionIntent
  ids : PlanIds
  linkExpiresAt : Timestamp

inductive AssessmentPlan where
  | blocked (plan : BlockedAssessmentPlan)
  | authorized (plan : AuthorizedAssessmentPlan)

inductive AssessmentDisposition where
  | intentQueued | approvalRequired | waiting | blocked
deriving DecidableEq, Repr

/-- `BlockedAssessmentPlan.disposition`. -/
def BlockedAssessmentPlan.disposition (plan : BlockedAssessmentPlan) : AssessmentDisposition :=
  match plan.planningDecision with
  | none => .blocked
  | some decision =>
    if decision.reasons ≠ [] ∧ ∀ reason ∈ decision.reasons, reason ∈ approvalBlockingReasons then
      .approvalRequired
    else .blocked

/-- `datetime.fromtimestamp(int(t.timestamp()), UTC)`, for a time after 1970. -/
def wholeSeconds (t : Timestamp) : Timestamp where
  micros := t.micros - t.micros % 1000000
  nonneg := by
    have := t.nonneg
    omega
  inRange := by
    have := t.inRange
    have := Int.emod_nonneg t.micros (show (1000000 : Int) ≠ 0 by decide)
    omega

section

variable [Hashlib] (planner : AssessmentPlanner) (s : AssessmentSnapshot)
  (truth : FreshProviderPaymentTruth) (health : FreshMethodHealthTruth)
  (diagnosis : DiagnosisResult)

/-- The review an external diagnosis asks for. -/
def externalReviewRequired : Bool := diagnosis.provenance.requestedMode = .hybridGemini

/-- The one proposal a failed payment can lead to. -/
def proposalFields (amount : Money) (expiresAt : Timestamp) : ProposalFields where
  proposalId :=
    s!"proposal:{s.recoveryCase.recoveryCaseId}:{s.recoveryCase.version + 1}"
  merchantId := s.recoveryCase.merchantId
  caseId := s.recoveryCase.recoveryCaseId
  decisionVersion := s.recoveryCase.version + 1
  actionType := .createStandardPaymentLink
  createdAt := s.databaseNow
  expiresAt := expiresAt
  attemptOrdinal := s.recoveryCase.attemptCount + 1
  amount := some amount
  paymentMethod := some truth.paymentMethod
  modelConfidence := some diagnosis.confidence
  requiresApproval := diagnosis.abstained || externalReviewRequired diagnosis

/-- The context the proposal is planned in. -/
def planningContextFields (amount : Money) (hmethod : isPaymentMethod truth.paymentMethod = true) :
    GateContextFields where
  merchantId := s.recoveryCase.merchantId
  caseId := s.recoveryCase.recoveryCaseId
  evaluatedAt := s.databaseNow
  aggregateVersion := s.recoveryCase.version + 1
  expectedAggregateVersion := s.recoveryCase.version + 1
  recoveryState := .assessing
  snapshot := {
    paymentState := truth.canonicalPaymentState
    amountDue := amount
    paymentMethod := truth.paymentMethod
    observedAt := truth.observedAt
    activeInstrumentCount := s.activeInstrumentCount
    incidentState := health.incidentState
    methodHealthObservedAt := health.observedAt
    paymentMethodOk := hmethod }
  -- the account of a snapshot is enabled, and of the test environment
  environmentEffectsEnabled := true
  observationDeadline := some s.recoveryCase.observationDeadlineAt
  globalKillSwitch := planner.globalKillSwitch
  merchantKillSwitch := s.merchant.killSwitchEnabled
  contactsInWindow := s.recoveryCase.contactCount
  attemptsUsed := s.recoveryCase.attemptCount
  abstentionRequired := diagnosis.abstained
  externalDiagnosisReviewRequired := externalReviewRequired diagnosis

/-- The proposal, and what the gate says of it. -/
def planningDecision : Except ControlPlaneError (ActionProposal × GateDecision) :=
  if hcurrency : isCurrency s.recoveryCase.currency = true then
    if hmethod : isPaymentMethod truth.paymentMethod = true then do
      let amount : Money := ⟨s.recoveryCase.amountDueMinor, s.recoveryCase.currency, hcurrency⟩
      let expiresAt ← liftDomain (shift s.databaseNow planner.proposalTtl)
      let proposal ← liftDomain (construct ProposalFields.postInit ActionProposal.mk
        (proposalFields s truth diagnosis amount expiresAt))
      let context ← liftDomain (construct GateContextFields.postInit GateContext.mk
        (planningContextFields planner s truth health diagnosis amount hmethod))
      let decision ← liftDomain (planner.gate.evaluatePolicy proposal context)
      return (proposal, decision)
    else .error (.invalidValue "payment_method is malformed")
  else .error (.invalidValue "currency must be three uppercase ASCII letters")

omit [Hashlib] in
/-- The request for the link, whose expiry is in whole seconds. -/
def linkRequestFields (referenceId : String) (expiresAt : Timestamp) : RequestFields where
  amountMinor := s.recoveryCase.amountDueMinor
  currency := s.recoveryCase.currency
  referenceId := referenceId
  description := "Retry payment for order " ++ s.recoveryCase.logicalOrderId
  expireByEpoch := (epochSeconds expiresAt).toNat
  notes := [("merchant_order_id", s.recoveryCase.logicalOrderId),
    ("recovery_case_id", s.recoveryCase.recoveryCaseId)]

omit [Hashlib] in
theorem linkRequestFields_mapping (referenceId : String) (expiresAt : Timestamp) :
    ((linkRequestFields s referenceId expiresAt).notes.map Prod.fst).Nodup := by
  simp [linkRequestFields]

omit [Hashlib] in
/-- `StandardPaymentLinkRequest(..)`. -/
def linkRequest (referenceId : String) (expiresAt : Timestamp) :
    Except ControlPlaneError StandardPaymentLinkRequest :=
  match valid : (linkRequestFields s referenceId expiresAt).postInit with
  | .error e => .error e
  | .ok () =>
    .ok ⟨linkRequestFields s referenceId expiresAt, valid,
      linkRequestFields_mapping s referenceId expiresAt⟩

/-- The link an allowed proposal is planned with. -/
def authorizedPlan (ids : PlanIds) (proposal : ActionProposal) (decision : GateDecision) :
    Except ControlPlaneError AuthorizedAssessmentPlan := do
  let referenceId ← checkedRecoveryReferenceId s.recoveryCase.recoveryCaseId
    s.recoveryCase.providerAccountId
  let expiresAt ← liftDomain (shift s.databaseNow planner.linkTtl)
  let request ← linkRequest s referenceId expiresAt
  request.validateExpiry s.databaseNow
  let command ← construct CommandFields.postInit CreatePaymentLinkCommand.mk {
    proposal := proposal
    priorPlan := decision
    request := request
    providerAccountId := s.recoveryCase.providerAccountId }
  let durableIntent ← construct IntentFields.postInit DurableActionIntent.mk
    (command.intentFields s.databaseNow)
  raiseIf (ids.areUlids = false)
    (.invalidValue "assessment id_factory returned an invalid ULID")
  -- `AuthorizedAssessmentPlan.__post_init__`
  let _ ← encodeCreateStandardPaymentLinkCommand command
  return {
    snapshotDigest := s.stateDigest
    diagnosis := diagnosis
    command := command
    durableIntent := durableIntent
    ids := ids
    linkExpiresAt := wholeSeconds expiresAt }

/-- `plan`, given the diagnosis. -/
def AssessmentPlanner.plan (ids : PlanIds) : Except AssessmentRaise AssessmentPlan := do
  assessing (raiseIf (s.merchant.policyVersion ≠ planner.gate.policy.version)
    (.notEligible "merchant_policy_version_mismatch"))
  assessing (raiseIf (¬TruthMatches s truth.toPaymentTruthFields)
    (.providerTruth "fresh_provider_truth_binding_mismatch"))
  assessing (raiseIf (¬HealthMatches s truth.toPaymentTruthFields health.toMethodHealthFields)
    (.methodHealth "fresh_method_health_binding_mismatch"))
  assessing (raiseIf (diagnosis.featureSnapshot ≠ normalizeFeatures
      (diagnosisFeatures s truth.toPaymentTruthFields health.toMethodHealthFields))
    (.stateChanged "diagnosis_feature_snapshot_changed"))
  if truth.status ≠ .failed then
    return .blocked { diagnosis := diagnosis, reasonCodes := ["PROVIDER_PAYMENT_NOT_FAILED"] }
  else if diagnosis.predictedClass ∉ linkEligibleFailureClasses then
    return .blocked { diagnosis := diagnosis, reasonCodes := ["DIAGNOSIS_NOT_LINK_ELIGIBLE"] }
  else do
    let (proposal, decision) ← unexpected (planningDecision planner s truth health diagnosis)
    if decision.allowed = false then
      return .blocked {
        diagnosis := diagnosis
        proposal := some proposal
        planningDecision := some decision
        reasonCodes := decision.reasons.map GateReason.value }
    else do
      let plan ← unexpected (authorizedPlan planner s diagnosis ids proposal decision)
      return .authorized plan

/-! ## What a plan is -/

/-- The gate was asked about the one proposal: the payment failed, in a way a link can mend. -/
structure Reviewed (proposal : ActionProposal) (decision : GateDecision) : Prop where
  failed : truth.status = .failed
  eligible : diagnosis.predictedClass ∈ linkEligibleFailureClasses
  decided : planningDecision planner s truth health diagnosis = .ok (proposal, decision)

/-- The four ways a plan is arrived at. -/
inductive PlannedAs (ids : PlanIds) : AssessmentPlan → Prop
  | notFailed (hstatus : truth.status ≠ .failed) :
      PlannedAs ids (.blocked
        { diagnosis := diagnosis, reasonCodes := ["PROVIDER_PAYMENT_NOT_FAILED"] })
  | notEligible (hstatus : truth.status = .failed)
      (hclass : diagnosis.predictedClass ∉ linkEligibleFailureClasses) :
      PlannedAs ids (.blocked
        { diagnosis := diagnosis, reasonCodes := ["DIAGNOSIS_NOT_LINK_ELIGIBLE"] })
  | denied {proposal : ActionProposal} {decision : GateDecision}
      (hreviewed : Reviewed planner s truth health diagnosis proposal decision)
      (hdenied : decision.allowed = false) :
      PlannedAs ids (.blocked {
        diagnosis := diagnosis
        proposal := some proposal
        planningDecision := some decision
        reasonCodes := decision.reasons.map GateReason.value })
  | authorized {proposal : ActionProposal} {decision : GateDecision}
      {plan : AuthorizedAssessmentPlan}
      (hreviewed : Reviewed planner s truth health diagnosis proposal decision)
      (hallowed : decision.allowed = true)
      (hplan : authorizedPlan planner s diagnosis ids proposal decision = .ok plan) :
      PlannedAs ids (.authorized plan)

variable {planner s truth health diagnosis}

theorem Reviewed.unique {proposal proposal' : ActionProposal} {decision decision' : GateDecision}
    (h : Reviewed planner s truth health diagnosis proposal decision)
    (h' : Reviewed planner s truth health diagnosis proposal' decision') :
    proposal = proposal' ∧ decision = decision' := by
  have heq := Except.ok.inj (h.decided.symm.trans h'.decided)
  exact Prod.ext_iff.mp heq

theorem planned_of_ok {ids : PlanIds} {plan : AssessmentPlan}
    (h : planner.plan s truth health diagnosis ids = .ok plan) :
    PlannedAs planner s truth health diagnosis ids plan := by
  unfold AssessmentPlanner.plan at h
  simp only [bind_ok_iff, assessing_ok_iff, raiseIf_ok_iff, exists_and_left, exists_const] at h
  obtain ⟨-, -, -, -, h⟩ := h
  by_cases hstatus : truth.status ≠ .failed
  · rw [if_pos hstatus, pure_ok_iff] at h
    exact h ▸ .notFailed hstatus
  · rw [if_neg hstatus] at h
    rw [not_not] at hstatus
    by_cases hclass : diagnosis.predictedClass ∉ linkEligibleFailureClasses
    · rw [if_pos hclass, pure_ok_iff] at h
      exact h ▸ .notEligible hstatus hclass
    · rw [if_neg hclass] at h
      obtain ⟨⟨proposal, decision⟩, hdecided, h⟩ := bind_ok_iff.mp h
      have hreviewed : Reviewed planner s truth health diagnosis proposal decision :=
        ⟨hstatus, not_not.mp hclass, unexpected_ok_iff.mp hdecided⟩
      by_cases hallowed : decision.allowed = false
      · have hblocked := pure_ok_iff.mp ((if_pos hallowed).symm.trans h)
        exact hblocked ▸ .denied hreviewed hallowed
      · obtain ⟨authorized, hplan, h⟩ := bind_ok_iff.mp ((if_neg hallowed).symm.trans h)
        rw [← pure_ok_iff.mp h]
        exact .authorized hreviewed (Bool.not_eq_false _ ▸ hallowed)
          (unexpected_ok_iff.mp hplan)

/-- What an authorized plan carries. -/
structure AuthorizedAssessmentPlan.CarriesOut (plan : AuthorizedAssessmentPlan)
    (s : AssessmentSnapshot) (diagnosis : DiagnosisResult) (ids : PlanIds)
    (proposal : ActionProposal) (decision : GateDecision) : Prop where
  proposal : plan.command.proposal = proposal
  priorPlan : plan.command.priorPlan = decision
  providerAccountId : plan.command.providerAccountId = s.recoveryCase.providerAccountId
  amountMinor : plan.command.request.amountMinor = s.recoveryCase.amountDueMinor
  currency : plan.command.request.currency = s.recoveryCase.currency
  intent : plan.durableIntent.toIntentFields = plan.command.intentFields s.databaseNow
  ids : plan.ids = ids
  diagnosis : plan.diagnosis = diagnosis
  encodable : ∃ payload, encodeCreateStandardPaymentLinkCommand plan.command = .ok payload

omit [Hashlib] in
theorem linkRequest_ok {referenceId : String} {expiresAt : Timestamp}
    {request : StandardPaymentLinkRequest} (h : linkRequest s referenceId expiresAt = .ok request) :
    request.toRequestFields = linkRequestFields s referenceId expiresAt := by
  unfold linkRequest at h
  split at h
  · exact absurd h (by simp)
  · rw [← Except.ok.inj h]

theorem authorizedPlan_ok {ids : PlanIds} {proposal : ActionProposal} {decision : GateDecision}
    {plan : AuthorizedAssessmentPlan}
    (h : authorizedPlan planner s diagnosis ids proposal decision = .ok plan) :
    plan.CarriesOut s diagnosis ids proposal decision := by
  unfold authorizedPlan at h
  obtain ⟨referenceId, -, h⟩ := bind_ok_iff.mp h
  obtain ⟨expiresAt, -, h⟩ := bind_ok_iff.mp h
  obtain ⟨request, hrequest, h⟩ := bind_ok_iff.mp h
  obtain ⟨_, -, h⟩ := bind_ok_iff.mp h
  obtain ⟨command, hcommand, h⟩ := bind_ok_iff.mp h
  obtain ⟨intent, hintent, h⟩ := bind_ok_iff.mp h
  obtain ⟨_, -, h⟩ := bind_ok_iff.mp h
  obtain ⟨payload, hpayload, h⟩ := bind_ok_iff.mp h
  obtain ⟨_, rfl⟩ := construct_ok_iff.mp hcommand
  obtain ⟨_, rfl⟩ := construct_ok_iff.mp hintent
  rw [← pure_ok_iff.mp h]
  have hfields := linkRequest_ok hrequest
  refine ⟨rfl, rfl, rfl, ?_, ?_, rfl, rfl, rfl, payload, hpayload⟩
  · show request.amountMinor = _
    rw [hfields]
    rfl
  · show request.currency = _
    rw [hfields]
    rfl

end

end Retrywise.ControlPlane
