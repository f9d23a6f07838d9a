import Retrywise.ControlPlane.Boundary
import Retrywise.Domain.GateSoundness

/-!
# Fresh payment truth and method health

`provider_readers.py`, and the records of `assessment_intent.py` and
`razorpay_test_adapter.py` it passes on: right before an effect the worker reads
one payment from the provider, and the health of its payment method from the
incidents in the database.

The payment reader asks for one payment by id; what the provider holds for the
other payments of the order is not looked at.

The health reader looks up the incident *the case names*. Where the case names
none it answers `NORMAL` without a look at the incidents. Where it names one, the
query selects a column `evidence_observed_at`, which no migration of the
repository creates (`IncidentTable.evidenceObservedAt` is `none` there).

> `heeded_iff`: with a confirmed incident on the books, the reading
> is heeded by the gate exactly when the case names an incident, and that
> incident is a confirmed one or cannot be read.
-/

namespace Retrywise.ControlPlane

open Retrywise.Foundation Retrywise.Domain

/-! ## What the provider says of a payment -/

inductive PaymentStatus where
  | created | authorized | captured | refunded | failed
deriving DecidableEq, Repr

structure PaymentRecordFields where
  paymentId : String
  orderId : String
  status : PaymentStatus
  amountMinor : Nat
  currency : String
  capturedMinor : Nat
  refundedMinor : Nat
  paymentMethod : String
  errorSource : Option String
  errorStep : Option String
  errorReason : Option String

/-- `^[A-Za-z0-9][A-Za-z0-9_.:-]{0,99}$`, the adapter's machine facts. -/
def isAdapterFact (value : String) : Bool :=
  match value.toList with
  | [] => false
  | c :: rest =>
    c.isAlphanum && decide (rest.length ≤ 99) &&
      rest.all fun d => d.isAlphanum || d = '_' || d = '.' || d = ':' || d = '-'

/-- `PaymentRecord.__post_init__`. -/
def PaymentRecordFields.postInit (r : PaymentRecordFields) : Except ControlPlaneError Unit := do
  let invalid := ControlPlaneError.providerRead "provider_payment_response_invalid"
  let facts := [r.errorSource, r.errorStep, r.errorReason]
  raiseIf (¬isPaymentId r.paymentId) invalid
  raiseIf (¬isOrderId r.orderId) invalid
  raiseIf (r.amountMinor = 0) invalid
  raiseIf (¬isCurrency r.currency) invalid
  raiseIf (¬(r.refundedMinor ≤ r.capturedMinor ∧ r.capturedMinor ≤ r.amountMinor)) invalid
  raiseIf (¬isPaymentMethod r.paymentMethod) invalid
  if r.status = .failed then
    raiseIf (∃ fact ∈ facts, ¬fact.any isAdapterFact) invalid
    raiseIf (r.capturedMinor ≠ 0 ∨ r.refundedMinor ≠ 0) invalid
  else
    raiseIf (∃ fact ∈ facts, fact ≠ none) invalid
  raiseIf (r.status ∈ [PaymentStatus.created, .authorized] ∧
    (r.capturedMinor ≠ 0 ∨ r.refundedMinor ≠ 0)) invalid
  raiseIf (r.status ∈ [PaymentStatus.captured, .refunded] ∧ r.capturedMinor = 0) invalid
  raiseIf (r.status = .refunded ∧ r.refundedMinor = 0) invalid

/-- A strict projection of one provider payment. -/
structure PaymentRecord extends PaymentRecordFields where
  valid : toPaymentRecordFields.postInit = .ok ()

/-- The facts of a failure. -/
def PaymentRecordFields.facts (r : PaymentRecordFields) : List (Option String) :=
  [r.errorSource, r.errorStep, r.errorReason]

/-- What the money and the facts of a record are to its status. -/
structure PaymentRecordFields.Consistent (r : PaymentRecordFields) : Prop where
  paymentId : isPaymentId r.paymentId = true
  orderId : isOrderId r.orderId = true
  positive : r.amountMinor ≠ 0
  currency : isCurrency r.currency = true
  refunded : r.refundedMinor ≤ r.capturedMinor
  captured : r.capturedMinor ≤ r.amountMinor
  paymentMethod : isPaymentMethod r.paymentMethod = true
  uncollected : r.status ∈ [PaymentStatus.created, .authorized, .failed] →
    r.capturedMinor = 0 ∧ r.refundedMinor = 0
  collected : r.status ∈ [PaymentStatus.captured, .refunded] → r.capturedMinor ≠ 0
  givenBack : r.status = .refunded → r.refundedMinor ≠ 0
  closed : r.status = .failed → ∀ fact ∈ r.facts, fact.any isAdapterFact = true
  blank : r.status ≠ .failed → ∀ fact ∈ r.facts, fact = none

theorem PaymentRecord.consistent (payment : PaymentRecord) : payment.Consistent := by
  have hvalid := payment.valid
  simp only [PaymentRecordFields.postInit, bind_ok_iff, raiseIf_ok_iff, not_not, exists_and_left,
    exists_const] at hvalid
  obtain ⟨hid, horder, hpositive, hcurrency, ⟨hrefunded, hcaptured⟩, hmethod, hrest⟩ := hvalid
  by_cases hfailed : payment.status = .failed
  · rw [if_pos hfailed] at hrest
    simp only [bind_ok_iff, raiseIf_ok_iff, exists_and_left, exists_const] at hrest
    obtain ⟨hfacts, hmoney, -⟩ := hrest
    refine ⟨hid, horder, hpositive, hcurrency, hrefunded, hcaptured, hmethod, ?_, ?_, ?_, ?_, ?_⟩
    · intro _
      omega
    · intro hstatus
      exact absurd hstatus (by simp [hfailed])
    · intro hstatus
      exact absurd (hfailed.symm.trans hstatus) (by simp)
    · intro _ fact hfact
      by_contra hnot
      exact hfacts ⟨fact, hfact, hnot⟩
    · exact fun h => absurd hfailed h
  · rw [if_neg hfailed] at hrest
    simp only [bind_ok_iff, raiseIf_ok_iff, exists_and_left, exists_const] at hrest
    obtain ⟨hfacts, hopen, hcollected, hrefund⟩ := hrest
    refine ⟨hid, horder, hpositive, hcurrency, hrefunded, hcaptured, hmethod, ?_, ?_, ?_, ?_, ?_⟩
    · intro hstatus
      have hstatus' : payment.status ∈ [PaymentStatus.created, .authorized] := by
        simpa [hfailed] using hstatus
      have hzero : ¬(payment.capturedMinor ≠ 0 ∨ payment.refundedMinor ≠ 0) :=
        fun hmoney => hopen ⟨hstatus', hmoney⟩
      omega
    · exact fun hstatus hzero => hcollected ⟨hstatus, hzero⟩
    · exact fun hstatus hzero => hrefund ⟨hstatus, hzero⟩
    · exact fun h => absurd h hfailed
    · intro _ fact hfact
      by_contra hnot
      exact hfacts ⟨fact, hfact, hnot⟩

/-! ## Fresh payment truth -/

structure ProviderTruthQueryFields where
  merchantId : String
  providerAccountId : String
  providerAccountIdentifier : String
  credentialBindingVersion : Nat
  paymentRecordId : String
  providerPaymentId : String
  providerOrderId : String

/-- `ProviderTruthQuery.__post_init__`. -/
def ProviderTruthQueryFields.postInit (q : ProviderTruthQueryFields) :
    Except ControlPlaneError Unit := do
  requireUlid q.merchantId "merchant_id"
  requireUlid q.providerAccountId "provider_account_id"
  requireUlid q.paymentRecordId "payment_record_id"
  raiseIf (¬isProviderAccountIdentifier q.providerAccountIdentifier)
    (.invalidValue "provider_account_identifier is malformed")
  requirePositive q.credentialBindingVersion "credential_binding_version"
  requireProviderResourceId q.providerPaymentId "provider_payment_id"
  requireProviderResourceId q.providerOrderId "provider_order_id"

structure ProviderTruthQuery extends ProviderTruthQueryFields where
  valid : toProviderTruthQueryFields.postInit = .ok ()

structure PaymentTruthFields where
  merchantId : String
  providerAccountId : String
  credentialBindingVersion : Nat
  providerPaymentId : String
  providerOrderId : String
  status : PaymentStatus
  amountMinor : Nat
  currency : String
  capturedMinor : Nat
  refundedMinor : Nat
  paymentMethod : String
  errorSource : Option String
  errorStep : Option String
  errorReason : Option String
  observedAt : Timestamp

/-- `FreshProviderPaymentTruth.__post_init__`. The facts of a failure pass a
stricter check here than in the adapter. -/
def PaymentTruthFields.postInit (t : PaymentTruthFields) : Except ControlPlaneError Unit := do
  let facts := [t.errorSource, t.errorStep, t.errorReason]
  requireUlid t.merchantId "merchant_id"
  requireUlid t.providerAccountId "provider_account_id"
  requirePositive t.credentialBindingVersion "credential_binding_version"
  requireProviderResourceId t.providerPaymentId "provider_payment_id"
  requireProviderResourceId t.providerOrderId "provider_order_id"
  requirePositive t.amountMinor "amount_minor"
  raiseIf (¬isCurrency t.currency)
    (.domain (.invalidValue "currency must be three uppercase ASCII letters"))
  raiseIf (t.capturedMinor > t.amountMinor ∨ t.refundedMinor > t.capturedMinor)
    (.invalidValue "provider money is outside the payment amount")
  raiseIf (t.status ∈ [PaymentStatus.created, .authorized, .failed] ∧
      (t.capturedMinor ≠ 0 ∨ t.refundedMinor ≠ 0))
    (.invalidValue "non-captured provider status cannot contain collected money")
  raiseIf (t.status = .captured ∧ t.capturedMinor = 0)
    (.invalidValue "captured provider status requires collected money")
  raiseIf (t.status = .refunded ∧ (t.capturedMinor = 0 ∨ t.refundedMinor = 0))
    (.invalidValue "refunded provider status requires capture and refund money")
  let _ ← liftDomain (requirePaymentMethod t.paymentMethod)
  requireMachineFact t.errorSource "error_source"
  requireMachineFact t.errorStep "error_step"
  requireMachineFact t.errorReason "error_reason"
  raiseIf (t.status = .failed ∧ ∃ fact ∈ facts, fact = none)
    (.invalidValue "failed provider truth requires closed failure facts")
  raiseIf (t.status ≠ .failed ∧ ∃ fact ∈ facts, fact ≠ none)
    (.invalidValue "non-failed provider truth cannot carry stale failure facts")

/-- One payment, as it was at the provider when it was read. -/
structure FreshProviderPaymentTruth extends PaymentTruthFields where
  valid : toPaymentTruthFields.postInit = .ok ()

def PaymentTruthFields.canonicalPaymentState (t : PaymentTruthFields) : CanonicalPaymentState :=
  if t.status = .created ∨ t.status = .failed then .unpaid
  else if t.status = .authorized then .authorized
  else if t.capturedMinor < t.amountMinor then .partiallyPaid
  else .paid

theorem PaymentTruthFields.canonicalPaymentState_eq_unpaid_iff {t : PaymentTruthFields} :
    t.canonicalPaymentState = .unpaid ↔ t.status = .created ∨ t.status = .failed := by
  unfold canonicalPaymentState
  by_cases h : t.status = .created ∨ t.status = .failed
  · simp [h]
  · rw [if_neg h]
    split_ifs <;> simp [h]

/-- Compose the account's adapter and read one payment by id; either can raise. -/
abbrev PaymentTruthAdapter := String → Except ControlPlaneError PaymentRecord

/-- The truth a payment record is turned into. -/
def PaymentRecord.truthFields (payment : PaymentRecord) (query : ProviderTruthQuery)
    (observedAt : Timestamp) : PaymentTruthFields where
  merchantId := query.merchantId
  providerAccountId := query.providerAccountId
  credentialBindingVersion := query.credentialBindingVersion
  providerPaymentId := payment.paymentId
  providerOrderId := payment.orderId
  status := payment.status
  amountMinor := payment.amountMinor
  currency := payment.currency
  capturedMinor := payment.capturedMinor
  refundedMinor := payment.refundedMinor
  paymentMethod := payment.paymentMethod
  errorSource := payment.errorSource
  errorStep := payment.errorStep
  errorReason := payment.errorReason
  observedAt := observedAt

/-- The facts of a failure pass the stricter check too. -/
def PaymentRecordFields.FactsCanonical (r : PaymentRecordFields) : Prop :=
  r.status = .failed → ∀ fact ∈ r.facts, fact.any isMachineFact = true

/-- Of a payment record, the check of a fresh truth asks nothing the record's own check
does not, but for the spelling of the facts of a failure. -/
theorem postInit_truthFields_iff {payment : PaymentRecord} {query : ProviderTruthQuery}
    {observedAt : Timestamp} :
    (payment.truthFields query observedAt).postInit = .ok () ↔ payment.FactsCanonical := by
  have hquery := query.valid
  simp only [ProviderTruthQueryFields.postInit, bind_ok_iff, requireUlid_ok_iff,
    requirePositive_ok_iff, exists_and_left, exists_const] at hquery
  obtain ⟨hmerchant, haccount, _, _, _, hversion, _⟩ := hquery
  have hrecord := payment.consistent
  simp only [PaymentTruthFields.postInit, bind_ok_iff, requireUlid_ok_iff, requirePositive_ok_iff,
    requireProviderResourceId_ok_iff, requireMachineFact_ok_iff, raiseIf_ok_iff, liftDomain_ok_iff,
    not_not, exists_and_left, exists_const]
  constructor
  · intro h hfailed fact hfact
    obtain ⟨-, -, -, -, -, -, -, -, -, -, -, _, -, hsource, hstep, hreason, hclosed, -⟩ := h
    have hsome : fact ≠ none := fun hnone => hclosed ⟨hfailed, fact, hfact, hnone⟩
    obtain ⟨text, rfl⟩ := Option.ne_none_iff_exists'.mp hsome
    rw [Option.any_some]
    simp only [PaymentRecordFields.facts, List.mem_cons, List.not_mem_nil, or_false] at hfact
    rcases hfact with h | h | h
    · exact hsource text h.symm
    · exact hstep text h.symm
    · exact hreason text h.symm
  · intro h
    have hfact : ∀ fact ∈ payment.facts, ∀ text, fact = some text → isMachineFact text = true := by
      intro fact hmem text htext
      by_cases hfailed : payment.status = .failed
      · have hcanonical := h hfailed fact hmem
        rwa [htext, Option.any_some] at hcanonical
      · exact absurd (htext.symm.trans (hrecord.blank hfailed fact hmem)) (by simp)
    refine ⟨hmerchant, haccount, hversion, isProviderResourceId_of_isPaymentId hrecord.paymentId,
      isProviderResourceId_of_isOrderId hrecord.orderId, hrecord.positive, hrecord.currency, ?_,
      ?_, ?_, ?_, payment.paymentMethod, if_pos hrecord.paymentMethod,
      hfact payment.errorSource (by simp [PaymentRecordFields.facts]),
      hfact payment.errorStep (by simp [PaymentRecordFields.facts]),
      hfact payment.errorReason (by simp [PaymentRecordFields.facts]), ?_, ?_⟩
    · exact not_or.mpr ⟨not_lt.mpr hrecord.captured, not_lt.mpr hrecord.refunded⟩
    · intro hbad
      have hzero := hrecord.uncollected hbad.1
      have hmoney := hbad.2
      simp only [PaymentRecord.truthFields] at hmoney
      omega
    · exact fun hbad => hrecord.collected (by simp [show payment.status = _ from hbad.1]) hbad.2
    · intro hbad
      rcases hbad.2 with hzero | hzero
      · exact hrecord.collected (by simp [show payment.status = _ from hbad.1]) hzero
      · exact hrecord.givenBack hbad.1 hzero
    · intro hbad
      obtain ⟨hfailed, fact, hmem, hnone⟩ := hbad
      have hcanonical := h hfailed fact hmem
      rw [hnone] at hcanonical
      exact absurd hcanonical (by simp)
    · intro hbad
      obtain ⟨hopen, fact, hmem, hsome⟩ := hbad
      exact hsome (hrecord.blank hopen fact hmem)

/-- `RazorpayFreshProviderTruthReader.fetch_fresh_payment_truth`. -/
def fetchFreshPaymentTruth (adapter : PaymentTruthAdapter) (observedAt : Timestamp)
    (query : ProviderTruthQuery) : Except ControlPlaneError FreshProviderPaymentTruth :=
  let unavailable := ControlPlaneError.providerTruth "fresh_provider_truth_unavailable"
  match adapter query.providerPaymentId with
  | .error _ => .error unavailable
  | .ok payment =>
    if payment.paymentId ≠ query.providerPaymentId ∨ payment.orderId ≠ query.providerOrderId then
      .error (.providerTruth "fresh_provider_truth_binding_mismatch")
    else
      match valid : (payment.truthFields query observedAt).postInit with
      | .error _ => .error unavailable
      | .ok () => .ok ⟨payment.truthFields query observedAt, valid⟩

/-- A payment is read when the adapter returns it, it is the one asked for, and
it passes the check of a fresh truth. -/
theorem fetchFreshPaymentTruth_ok_iff {adapter : PaymentTruthAdapter} {observedAt : Timestamp}
    {query : ProviderTruthQuery} {truth : FreshProviderPaymentTruth} :
    fetchFreshPaymentTruth adapter observedAt query = .ok truth ↔
      ∃ payment, adapter query.providerPaymentId = .ok payment ∧
        payment.paymentId = query.providerPaymentId ∧ payment.orderId = query.providerOrderId ∧
        truth.toPaymentTruthFields = payment.truthFields query observedAt := by
  unfold fetchFreshPaymentTruth
  cases hread : adapter query.providerPaymentId with
  | error e => simp
  | ok payment =>
    simp only [Except.ok.injEq, exists_eq_left']
    by_cases hbound : payment.paymentId ≠ query.providerPaymentId ∨
        payment.orderId ≠ query.providerOrderId
    · rw [if_pos hbound]
      refine ⟨fun h => absurd h (by simp), fun h => ?_⟩
      rcases hbound with hid | horder
      · exact absurd h.1 hid
      · exact absurd h.2.1 horder
    · rw [if_neg hbound]
      have hboth := not_or.mp hbound
      rw [not_not, not_not] at hboth
      split
      next e hinvalid =>
        refine ⟨fun h => absurd h (by simp), fun h => ?_⟩
        have hvalid := truth.valid
        rw [h.2.2, hinvalid] at hvalid
        exact absurd hvalid (by simp)
      next hvalid =>
        constructor
        · intro h
          rw [← Except.ok.inj h]
          exact ⟨hboth.1, hboth.2, rfl⟩
        · intro h
          obtain ⟨fields, hfields⟩ := truth
          obtain rfl : fields = payment.truthFields query observedAt := h.2.2
          rfl

/-! ## Incidents -/

structure IncidentRow where
  id : String
  merchantId : String
  providerAccountId : String
  paymentMethod : String
  instrumentKey : String
  state : IncidentState
  expiresAt : Timestamp
  detectorVersion : String
  thresholdVersion : String

/-- The table `retrywise.incidents`, and its column `evidence_observed_at` where
it has one. -/
structure IncidentTable where
  rows : List IncidentRow
  evidenceObservedAt : Option (IncidentRow → Timestamp)
  primaryKey : (rows.map IncidentRow.id).Nodup

structure MethodHealthQueryFields where
  merchantId : String
  providerAccountId : String
  paymentMethod : String
  incidentId : Option String

/-- `MethodHealthQuery.__post_init__`. -/
def MethodHealthQueryFields.postInit (q : MethodHealthQueryFields) :
    Except ControlPlaneError Unit := do
  requireUlid q.merchantId "merchant_id"
  requireUlid q.providerAccountId "provider_account_id"
  let _ ← liftDomain (requirePaymentMethod q.paymentMethod)
  if let some incidentId := q.incidentId then
    requireUlid incidentId "incident_id"

structure MethodHealthQuery extends MethodHealthQueryFields where
  valid : toMethodHealthQueryFields.postInit = .ok ()

structure MethodHealthFields where
  merchantId : String
  providerAccountId : String
  paymentMethod : String
  incidentState : IncidentState
  observedAt : Timestamp
  detectorVersion : String
  thresholdVersion : String
  incidentId : Option String := none

/-- `FreshMethodHealthTruth.__post_init__`. -/
def MethodHealthFields.postInit (t : MethodHealthFields) : Except ControlPlaneError Unit := do
  requireUlid t.merchantId "merchant_id"
  requireUlid t.providerAccountId "provider_account_id"
  let _ ← liftDomain (requirePaymentMethod t.paymentMethod)
  let _ ← liftDomain (requireIdentifier t.detectorVersion "detector_version")
  let _ ← liftDomain (requireIdentifier t.thresholdVersion "threshold_version")
  if let some incidentId := t.incidentId then
    requireUlid incidentId "incident_id"
  raiseIf (t.incidentState ≠ .normal ∧ t.incidentId = none)
    (.invalidValue "non-normal method health requires a durable incident id")

structure FreshMethodHealthTruth extends MethodHealthFields where
  valid : toMethodHealthFields.postInit = .ok ()

/-- The versions a normal reading is labelled with. -/
def normalDetectorVersion : String := "incident-detector-v1"

def normalThresholdVersion : String := "incident-threshold-v1"

/-- `_LOAD_INCIDENT`, the conditions of its join. -/
def IncidentRow.Bound (query : MethodHealthQuery) (incident : IncidentRow) : Prop :=
  incident.merchantId = query.merchantId ∧
    incident.providerAccountId = query.providerAccountId ∧
    query.incidentId = some incident.id ∧
    incident.paymentMethod = query.paymentMethod ∧
    incident.state ∈ [IncidentState.suspected, .confirmed, .cooling]

instance (query : MethodHealthQuery) (incident : IncidentRow) :
    Decidable (incident.Bound query) :=
  inferInstanceAs (Decidable (_ ∧ _))

/-- What a case without an incident is told. -/
def MethodHealthQuery.normalReading (query : MethodHealthQuery) (now : Timestamp) :
    MethodHealthFields where
  merchantId := query.merchantId
  providerAccountId := query.providerAccountId
  paymentMethod := query.paymentMethod
  incidentState := .normal
  observedAt := now
  detectorVersion := normalDetectorVersion
  thresholdVersion := normalThresholdVersion

/-- What the row of an incident says, with the time of its evidence. -/
def MethodHealthQuery.incidentReading (query : MethodHealthQuery) (now evidenceAt : Timestamp)
    (incident : IncidentRow) : MethodHealthFields where
  merchantId := query.merchantId
  providerAccountId := query.providerAccountId
  paymentMethod := query.paymentMethod
  incidentState := incident.state
  observedAt := min now evidenceAt
  detectorVersion := incident.detectorVersion
  thresholdVersion := incident.thresholdVersion
  incidentId := some incident.id

/-- Construct a reading; a failed check makes the health unavailable. -/
def MethodHealthFields.reading (fields : MethodHealthFields) :
    Except ControlPlaneError FreshMethodHealthTruth :=
  match valid : fields.postInit with
  | .error _ => .error (.methodHealth "fresh_method_health_unavailable")
  | .ok () => .ok ⟨fields, valid⟩

theorem MethodHealthFields.reading_ok_iff {fields : MethodHealthFields}
    {health : FreshMethodHealthTruth} :
    fields.reading = .ok health ↔ health.toMethodHealthFields = fields := by
  unfold MethodHealthFields.reading
  split
  next e hinvalid =>
    refine ⟨fun h => absurd h (by simp), fun h => ?_⟩
    have hvalid := health.valid
    rw [h, hinvalid] at hvalid
    exact absurd hvalid (by simp)
  next hvalid =>
    constructor
    · intro h
      rw [← Except.ok.inj h]
    · intro h
      obtain ⟨_, _⟩ := health
      obtain rfl := h
      rfl

/-- `PostgresFreshMethodHealthReader.fetch_fresh_method_health`, at the
database's clock. -/
def fetchFreshMethodHealth (incidents : IncidentTable) (now : Timestamp)
    (query : MethodHealthQuery) : Except ControlPlaneError FreshMethodHealthTruth :=
  match query.incidentId with
  | none => (query.normalReading now).reading
  | some _ =>
    -- the query names the column, so without it there is no result at all
    match incidents.evidenceObservedAt with
    | none => .error (.methodHealth "fresh_method_health_unavailable")
    | some evidenceObservedAt =>
      match incidents.rows.find? fun incident => incident.Bound query with
      | none => .error (.methodHealth "fresh_method_health_unavailable")
      | some incident => (query.incidentReading now (evidenceObservedAt incident) incident).reading

end Retrywise.ControlPlane
