import Retrywise.ControlPlane.EffectPath
import Retrywise.ControlPlane.ProviderReaders

/-!
# The fresh context of an effect

`create_effect_worker.py`, `load_fresh_gate_context`: one query for the case and
everything around it, one read of *one* payment at the provider, one reading of a
method's health, and the context the gate decides in.

Which payment is read is decided by the query: of all the payments the database
has for the order it takes the one with the latest provider snapshot
(`latestPayment`). The other payments of the order are neither compared nor read.
-/

namespace Retrywise.ControlPlane

open Retrywise.Foundation Retrywise.Domain

/-! ## The payments of an order -/

/-- A row of `provider_payments`; its id is of the ULID domain. -/
structure ProviderPaymentRow where
  id : String
  providerPaymentId : String
  providerOrderId : Option String
  amountMinor : Nat
  currency : String
  paymentMethod : Option String
  providerSnapshotAt : Timestamp
  idOk : isUlid id = true

/-- `ORDER BY provider_snapshot_at DESC, id`. -/
def ProviderPaymentRow.Before (a b : ProviderPaymentRow) : Prop :=
  b.providerSnapshotAt < a.providerSnapshotAt ∨
    a.providerSnapshotAt = b.providerSnapshotAt ∧ a.id ≤ b.id

instance (a b : ProviderPaymentRow) : Decidable (a.Before b) :=
  inferInstanceAs (Decidable (_ ∨ _))

/-- The lateral join: the first row in that order. -/
def latestPayment (payments : List ProviderPaymentRow) : Option ProviderPaymentRow :=
  (payments.insertionSort ProviderPaymentRow.Before).head?

/-! ## The query -/

/-- The columns of `_LOAD_CONTEXT` that are not on the path; `payments` are the rows
of the case's order. -/
structure ContextColumns where
  observationDeadline : Option Timestamp
  attemptCount : Nat
  contactCount : Nat
  incidentId : Option String
  policyVersion : String
  providerAccountIdentifier : String
  credentialBindingVersion : Nat
  amountDueMinor : Nat
  currency : String
  payments : List ProviderPaymentRow
  otherInstruments : Nat

/-- What a `PostgresCreateEffectRepository` is made with. -/
structure EffectRepository where
  policyVersion : String := "policy-v1"
  globalKillSwitch : Bool := false
  fetchFreshPaymentTruth : ProviderTruthQuery → Except ControlPlaneError FreshProviderPaymentTruth
  fetchFreshMethodHealth : MethodHealthQuery → Except ControlPlaneError FreshMethodHealthTruth

/-- The truth that was read is of the payment the row is of. -/
def ProviderPaymentRow.Agrees (payment : ProviderPaymentRow) (truth : PaymentTruthFields) : Prop :=
  truth.amountMinor = payment.amountMinor ∧ truth.currency = payment.currency ∧
    ∀ method, payment.paymentMethod = some method → truth.paymentMethod = method

instance (payment : ProviderPaymentRow) (truth : PaymentTruthFields) :
    Decidable (payment.Agrees truth) :=
  inferInstanceAs (Decidable (_ ∧ _ ∧ ∀ method, payment.paymentMethod = some method → _))

section

variable [Hashlib]

/-- The approval of the row, as the gate sees it. -/
def ApprovalRow.fields (approval : ApprovalRow) (proposal : ActionProposal)
    (evaluatedAt : Timestamp) : ApprovalFields where
  approvalId := approval.id
  merchantId := proposal.merchantId
  caseId := proposal.caseId
  actionKey := proposal.actionKey
  proposalDigest := proposal.proposalDigest
  decisionVersion := proposal.decisionVersion
  approvedBy :=
    match approval.approverSubject with
    | none => "approval-pending"
    | some subject => if subject = "" then "approval-pending" else subject
  approvedAt := approval.actedAt.getD evaluatedAt
  expiresAt := approval.expiresAt
  granted := approval.verdict = .approved

/-- Construct the approval where there is one. -/
def loadApproval (proposal : ActionProposal) (evaluatedAt : Timestamp) :
    Option ApprovalRow → Except ControlPlaneError (Option Approval)
  | none => .ok none
  | some approval =>
    (liftDomain (construct ApprovalFields.postInit Approval.mk
      (approval.fields proposal evaluatedAt))).map some

variable (repository : EffectRepository) (path : EffectPath) (columns : ContextColumns)
  (proposal : ActionProposal) (providerAccountId : String) (evaluatedAt : Timestamp)

omit [Hashlib] in
/-- The query for the payment that is read. -/
def truthQueryFields (payment : ProviderPaymentRow) (providerOrderId : String) :
    ProviderTruthQueryFields where
  merchantId := proposal.merchantId
  providerAccountId := providerAccountId
  providerAccountIdentifier := columns.providerAccountIdentifier
  credentialBindingVersion := columns.credentialBindingVersion
  paymentRecordId := payment.id
  providerPaymentId := payment.providerPaymentId
  providerOrderId := providerOrderId

omit [Hashlib] in
/-- Read the payment the query has picked; an order id that is null is no text. -/
def readPaymentTruth (payment : ProviderPaymentRow) :
    Except ControlPlaneError FreshProviderPaymentTruth := do
  let providerOrderId ← someOr payment.providerOrderId
    (.invalidValue "provider_order_id must be text")
  let query ← construct ProviderTruthQueryFields.postInit ProviderTruthQuery.mk
    (truthQueryFields columns proposal providerAccountId payment providerOrderId)
  let truth ← repository.fetchFreshPaymentTruth query
  raiseIf (¬payment.Agrees truth.toPaymentTruthFields)
    (.invalidValue "provider truth does not match the persisted payment")
  return truth

omit [Hashlib] in
/-- Read the health of the method the payment was made with. -/
def readMethodHealth (paymentMethod : String) : Except ControlPlaneError FreshMethodHealthTruth := do
  let query ← construct MethodHealthQueryFields.postInit MethodHealthQuery.mk {
    merchantId := proposal.merchantId
    providerAccountId := providerAccountId
    paymentMethod := paymentMethod
    incidentId := columns.incidentId }
  repository.fetchFreshMethodHealth query

omit [Hashlib] in
/-- The snapshot of what was read. -/
def snapshotOf (truth : FreshProviderPaymentTruth) (health : FreshMethodHealthTruth) :
    Except ControlPlaneError ProviderSnapshot :=
  if hcurrency : isCurrency columns.currency = true then
    if hmethod : isPaymentMethod truth.paymentMethod = true then
      .ok {
        paymentState := truth.canonicalPaymentState
        amountDue := ⟨columns.amountDueMinor, columns.currency, hcurrency⟩
        paymentMethod := truth.paymentMethod
        observedAt := truth.observedAt
        activeInstrumentCount := columns.otherInstruments
        incidentState := health.incidentState
        methodHealthObservedAt := health.observedAt
        paymentMethodOk := hmethod }
    else .error (.invalidValue "payment_method is malformed")
  else .error (.invalidValue "currency must be three uppercase ASCII letters")

omit [Hashlib] in
/-- The context, from the row, the snapshot and the approval. -/
def contextFields (snapshot : ProviderSnapshot) (approval : Option Approval) :
    GateContextFields where
  merchantId := proposal.merchantId
  caseId := proposal.caseId
  evaluatedAt := evaluatedAt
  aggregateVersion := path.recoveryCase.version
  expectedAggregateVersion := path.recoveryCase.version
  recoveryState := path.recoveryCase.state
  snapshot := snapshot
  environmentEffectsEnabled :=
    path.around.merchantStatus = .active && path.around.accountEnvironment = .test &&
      path.around.accountEnabled
  observationDeadline := columns.observationDeadline
  globalKillSwitch := repository.globalKillSwitch
  merchantKillSwitch := path.around.merchantKillSwitch
  contactsInWindow := columns.contactCount
  attemptsUsed := columns.attemptCount
  abstentionRequired := proposal.requiresApproval
  approval := approval

/-- The body of `load_fresh_gate_context`, with the exceptions as they are raised. -/
def freshGateContext : Except ControlPlaneError GateContext := do
  let payment ← someOr (latestPayment columns.payments) (.invalidValue "no context row")
  raiseIf (columns.policyVersion ≠ repository.policyVersion)
    (.invalidValue "the merchant's policy version is another one")
  let truth ← readPaymentTruth repository columns proposal providerAccountId payment
  let health ← readMethodHealth repository columns proposal providerAccountId truth.paymentMethod
  let approval ← loadApproval proposal evaluatedAt path.around.approval
  let snapshot ← snapshotOf columns truth health
  liftDomain (construct GateContextFields.postInit GateContext.mk
    (contextFields repository path columns proposal evaluatedAt snapshot approval))

/-- `load_fresh_gate_context`: whatever goes wrong, it raises this one error. -/
def loadFreshGateContext : Except ControlPlaneError GateContext :=
  match freshGateContext repository path columns proposal providerAccountId evaluatedAt with
  | .error _ => .error (.persistence "fresh_effect_context_failed")
  | .ok context => .ok context

end

/-! ## What a context says -/

section

variable [Hashlib] {repository : EffectRepository} {path : EffectPath} {columns : ContextColumns}
  {proposal : ActionProposal} {providerAccountId : String} {evaluatedAt : Timestamp}
  {context : GateContext}

theorem loadFreshGateContext_ok_iff :
    loadFreshGateContext repository path columns proposal providerAccountId evaluatedAt =
        .ok context ↔
      freshGateContext repository path columns proposal providerAccountId evaluatedAt =
        .ok context := by
  unfold loadFreshGateContext
  cases freshGateContext repository path columns proposal providerAccountId evaluatedAt with
  | error e => simp
  | ok c => simp

omit [Hashlib] in
theorem snapshotOf_ok {truth : FreshProviderPaymentTruth} {health : FreshMethodHealthTruth}
    {snapshot : ProviderSnapshot} (h : snapshotOf columns truth health = .ok snapshot) :
    snapshot.paymentState = truth.canonicalPaymentState := by
  unfold snapshotOf at h
  by_cases hcurrency : isCurrency columns.currency = true
  · rw [dif_pos hcurrency] at h
    by_cases hmethod : isPaymentMethod truth.paymentMethod = true
    · rw [dif_pos hmethod] at h
      rw [← Except.ok.inj h]
    · rw [dif_neg hmethod] at h
      exact absurd h (by simp)
  · rw [dif_neg hcurrency] at h
    exact absurd h (by simp)

/-- The provider's record is of the row's payment, and of the row's money. -/
structure ProviderPaymentRow.RecordedAs (payment : ProviderPaymentRow)
    (record : PaymentRecordFields) : Prop where
  paymentId : record.paymentId = payment.providerPaymentId
  orderId : payment.providerOrderId = some record.orderId
  amountMinor : record.amountMinor = payment.amountMinor
  currency : record.currency = payment.currency
  paymentMethod : ∀ method, payment.paymentMethod = some method → record.paymentMethod = method

omit [Hashlib] in
/-- A payment is read when the adapter returns a record of it whose facts are canonical. -/
theorem readPaymentTruth_ok_iff {adapter : PaymentTruthAdapter} {observedAt : Timestamp}
    (hfetch : repository.fetchFreshPaymentTruth = fetchFreshPaymentTruth adapter observedAt)
    {payment : ProviderPaymentRow} {truth : FreshProviderPaymentTruth} :
    readPaymentTruth repository columns proposal providerAccountId payment = .ok truth ↔
      ∃ (query : ProviderTruthQuery) (record : PaymentRecord),
        query.toProviderTruthQueryFields =
          truthQueryFields columns proposal providerAccountId payment record.orderId ∧
        adapter payment.providerPaymentId = .ok record ∧
        payment.RecordedAs record.toPaymentRecordFields ∧
        truth.toPaymentTruthFields = record.truthFields query observedAt := by
  unfold readPaymentTruth
  rw [hfetch]
  constructor
  · intro h
    obtain ⟨orderId, horderId, h⟩ := bind_ok_iff.mp h
    obtain ⟨query, hquery, h⟩ := bind_ok_iff.mp h
    obtain ⟨fetched, hfetched, h⟩ := bind_ok_iff.mp h
    obtain ⟨_, hagrees, h⟩ := bind_ok_iff.mp h
    obtain rfl := pure_ok_iff.mp h
    obtain ⟨hvalid, rfl⟩ := construct_ok_iff.mp hquery
    obtain ⟨record, hadapter, hid, horder, htruth⟩ := fetchFreshPaymentTruth_ok_iff.mp hfetched
    have horder : record.orderId = orderId := horder
    rw [raiseIf_ok_iff, not_not, htruth] at hagrees
    obtain ⟨hamount, hcurrency, hmethod⟩ := hagrees
    refine ⟨_, record, ?_, hadapter, ⟨hid, ?_, hamount, hcurrency, hmethod⟩, htruth⟩
    · rw [horder]
    · rw [horder]
      exact someOr_ok_iff.mp horderId
  · intro h
    obtain ⟨query, record, hquery, hadapter, hrecorded, htruth⟩ := h
    have hbuilt : construct ProviderTruthQueryFields.postInit ProviderTruthQuery.mk
        (truthQueryFields columns proposal providerAccountId payment record.orderId) =
          .ok query := by
      rw [← hquery]
      exact construct_ok_iff.mpr ⟨query.valid, rfl⟩
    refine bind_ok_iff.mpr ⟨record.orderId, someOr_ok_iff.mpr hrecorded.orderId, ?_⟩
    refine bind_ok_iff.mpr ⟨query, hbuilt, ?_⟩
    have hfetched : fetchFreshPaymentTruth adapter observedAt query = .ok truth := by
      refine fetchFreshPaymentTruth_ok_iff.mpr ⟨record, ?_, ?_, ?_, htruth⟩
      · rw [hquery]
        exact hadapter
      · rw [hquery]
        exact hrecorded.paymentId
      · rw [hquery]
        rfl
    refine bind_ok_iff.mpr ⟨truth, hfetched, bind_ok_iff.mpr ⟨(), raiseIf_of_not _ ?_, rfl⟩⟩
    rw [not_not, htruth]
    exact ⟨hrecorded.amountMinor, hrecorded.currency, hrecorded.paymentMethod⟩

/-- What a context tells of the path it was read from. -/
structure EffectPath.ReadInto (path : EffectPath) (context : GateContext) : Prop where
  version : context.aggregateVersion = path.recoveryCase.version
  state : context.recoveryState = path.recoveryCase.state
  merchantSwitch : context.merchantKillSwitch = path.around.merchantKillSwitch
  enabled : context.environmentEffectsEnabled = true → path.around.merchantStatus = .active ∧
    path.around.accountEnvironment = .test ∧ path.around.accountEnabled = true

/-- A context comes of one payment of the order, the one the query has picked, and
carries the state that payment is in. The rest is the path's. -/
theorem freshGateContext_ok
    (h : freshGateContext repository path columns proposal providerAccountId evaluatedAt =
      .ok context) :
    path.ReadInto context ∧ ∃ payment truth, latestPayment columns.payments = some payment ∧
      readPaymentTruth repository columns proposal providerAccountId payment = .ok truth ∧
      context.snapshot.paymentState = truth.canonicalPaymentState := by
  unfold freshGateContext at h
  obtain ⟨payment, hpayment, h⟩ := bind_ok_iff.mp h
  obtain ⟨-, -, h⟩ := bind_ok_iff.mp h
  obtain ⟨truth, htruth, h⟩ := bind_ok_iff.mp h
  obtain ⟨health, -, h⟩ := bind_ok_iff.mp h
  obtain ⟨approval, -, h⟩ := bind_ok_iff.mp h
  obtain ⟨snapshot, hsnapshot, h⟩ := bind_ok_iff.mp h
  obtain ⟨hvalid, rfl⟩ := construct_ok_iff.mp (liftDomain_ok_iff.mp h)
  refine ⟨⟨rfl, rfl, rfl, fun henabled => ?_⟩, payment, truth, someOr_ok_iff.mp hpayment, htruth,
    snapshotOf_ok hsnapshot⟩
  have hall : (decide (path.around.merchantStatus = .active) &&
      decide (path.around.accountEnvironment = .test) && path.around.accountEnabled) = true :=
    henabled
  simpa only [Bool.and_eq_true, decide_eq_true_eq, and_assoc] using hall

end

end Retrywise.ControlPlane
