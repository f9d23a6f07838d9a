import Retrywise.ControlPlane.Ledger

/-!
# The money of terminal events

`terminal_event_projector.py`, the part that moves money: what a `payment.captured` or a
`payment_link.paid` / `payment_link.partially_paid` does to the rows of its order.

A projection first prepares a plan. It finds the row the event is about, compares it with
the event, and adds up both paths of the order from the locked rows, with the event's
amount in the place of the one row that is about to change. Where a guard fails the event
is ignored, with a reason; where the rows contradict each other it raises. Then the plan is
carried out, one conditional `UPDATE` after the other.

> The total a plan writes into the order is the sum over both paths as they are after the
> plan's own row is written (`originalTotal_capture`, `recoveryTotal_collection`).
-/

namespace Retrywise.ControlPlane

open Retrywise.Foundation Retrywise.Domain

/-! ## What the decoders return -/

/-- `_CapturedPayment`; the amount is positive and a `bigint`. -/
structure CapturedPayment where
  providerPaymentId : String
  providerOrderId : String
  amountMinor : Nat
  currency : String
  paymentMethod : Option String
  positive : 0 < amountMinor
  bounded : amountMinor ≤ maxSignedBigint
deriving DecidableEq

inductive LinkEventType where
  | paid | partiallyPaid
deriving DecidableEq, Repr

/-- `_PaymentLinkCollection`: a paid link has its whole amount, a partially paid one a
proper part of it. -/
structure PaymentLinkCollection where
  eventType : LinkEventType
  providerPaymentLinkId : String
  providerOrderId : String
  providerPaymentId : String
  referenceId : String
  amountMinor : Nat
  amountPaidMinor : Nat
  currency : String
  positive : 0 < amountPaidMinor
  bounded : amountMinor ≤ maxSignedBigint
  whole : eventType = .paid → amountPaidMinor = amountMinor
  part : eventType = .partiallyPaid → amountPaidMinor < amountMinor
deriving DecidableEq

namespace PaymentLinkCollection

def instrumentStatus (c : PaymentLinkCollection) : InstrumentStatus :=
  match c.eventType with
  | .paid => .paid
  | .partiallyPaid => .partiallyPaid

/-- `instrument_status.lower()`. -/
def providerStatus (c : PaymentLinkCollection) : String :=
  match c.eventType with
  | .paid => "paid"
  | .partiallyPaid => "partially_paid"

end PaymentLinkCollection

/-! ## Totals -/

/-- `_checked_sum`. -/
def checkedSum (values : List Nat) (field : String) : Except ProjectionError Nat := do
  raiseIf (maxSignedBigint < values.sum)
    (.evidence s!"{field} exceeds PostgreSQL bigint money bounds")
  return values.sum

/-- The part of one payment in `_original_total`; the row that is about to be captured
counts with the event's amount. -/
def pathCaptured (currency : String) (captured : Option (CapturedPayment × String))
    (p : StoredPayment) : Except ProjectionError Nat := do
  raiseIf (p.currency ≠ currency ∨ ¬p.refundedMinor ≤ p.capturedMinor)
    (.evidence "original payment path money is inconsistent")
  raiseIf (p.amountMinor = 0 ∨ p.amountMinor < p.capturedMinor)
    (.evidence "original payment path amount is inconsistent")
  match captured.filter fun c => p.id = c.2 with
  | some (payment, _) =>
    raiseIf (p.providerPaymentId ≠ payment.providerPaymentId ∨
        p.amountMinor ≠ payment.amountMinor)
      (.evidence "capture override disagrees with locked payment")
    return payment.amountMinor
  | none =>
    if p.status ∈ [.captured, .refunded] then return p.capturedMinor
    else
      raiseIf (p.capturedMinor ≠ 0) (.evidence "non-captured original payment carries money")
      return 0

/-- `_original_total`. -/
def originalTotal (payments : List StoredPayment) (currency : String)
    (captured : Option (CapturedPayment × String)) : Except ProjectionError Nat := do
  let parts ← payments.mapM (pathCaptured currency captured)
  raiseIf (captured.any fun c => payments.all fun p => p.id ≠ c.2)
    (.evidence "captured payment is absent from locked original path")
  checkedSum parts "original captured total"

/-- The part of one instrument in `_recovery_total`. -/
def pathCollected (currency : String) (collected : Option (PaymentLinkCollection × String))
    (i : RecoveryInstrument) : Except ProjectionError Nat := do
  raiseIf (i.currency ≠ currency ∨ ¬i.refundedMinor ≤ i.collectedMinor)
    (.evidence "recovery instrument money is inconsistent")
  raiseIf (i.amountMinor = 0 ∨ i.amountMinor < i.collectedMinor)
    (.evidence "recovery instrument amount is inconsistent")
  match collected.filter fun c => i.id = c.2 with
  | some (collection, _) =>
    raiseIf (i.providerPaymentLinkId ≠ some collection.providerPaymentLinkId ∨
        i.amountMinor ≠ collection.amountMinor ∨ i.referenceId ≠ collection.referenceId)
      (.evidence "link override disagrees with locked instrument")
    return collection.amountPaidMinor
  | none =>
    if i.status ∈ [.paid, .partiallyPaid] then return i.collectedMinor
    else
      raiseIf (i.collectedMinor ≠ 0)
        (.evidence "non-collected recovery instrument carries money")
      return 0

/-- `_recovery_total`. -/
def recoveryTotal (instruments : List RecoveryInstrument) (currency : String)
    (collected : Option (PaymentLinkCollection × String)) : Except ProjectionError Nat := do
  let parts ← instruments.mapM (pathCollected currency collected)
  raiseIf (collected.any fun c => instruments.all fun i => i.id ≠ c.2)
    (.evidence "target Payment Link is absent from locked path")
  checkedSum parts "recovery captured total"

/-- A total against what is due. -/
def truthOf (total amountDue : Nat) : CanonicalPaymentState :=
  if total < amountDue then .partiallyPaid
  else if total = amountDue then .paid
  else .overpaid

/-- `_truth_for_total`. -/
def truthForTotal (total amountDue : Nat) : Except ProjectionError CanonicalPaymentState := do
  raiseIf (total = 0 ∨ amountDue = 0)
    (.evidence "terminal projection requires positive collected money")
  return truthOf total amountDue

/-- The ranks of `_money_is_monotonic`; `EXCEPTION` has none. -/
def truthRank : CanonicalPaymentState → Option Nat
  | .unknown | .unpaid | .authorized => some 0
  | .partiallyPaid => some 1
  | .paid => some 2
  | .overpaid => some 3
  | .exception => none

/-- `_money_is_monotonic`. -/
def moneyIsMonotonic (currentTotal projectedTotal refundedTotal : Nat)
    (currentTruth projectedTruth : CanonicalPaymentState) : Bool :=
  refundedTotal ≤ currentTotal && currentTotal ≤ projectedTotal &&
    (truthRank currentTruth).any fun current =>
      (truthRank projectedTruth).any fun projected => current ≤ projected

/-! ## Plans -/

/-- `_CaptureTarget`: a payment and its order. -/
structure CaptureTarget where
  payment : StoredPayment
  order : LogicalOrder

/-- `_LinkTarget`: an instrument, its case and its order. -/
structure LinkTarget where
  instrument : RecoveryInstrument
  recoveryCase : RecoveryCase
  order : LogicalOrder

structure CaseTransition where
  recoveryCaseId : String
  expectedState : RecoveryState
  expectedVersion : Nat
  newState : RecoveryState
  reasonCode : String
deriving DecidableEq

structure CapturePlan where
  target : CaptureTarget
  payment : CapturedPayment
  capturedTotalMinor : Nat
  canonicalTruth : CanonicalPaymentState
  caseTransitions : List CaseTransition

structure LinkPlan where
  target : LinkTarget
  collection : PaymentLinkCollection
  capturedTotalMinor : Nat
  canonicalTruth : CanonicalPaymentState
  caseTransition : Option CaseTransition

/-- What a projection of the terminal projector has prepared. -/
inductive TerminalPlan where
  | capture (plan : CapturePlan)
  | link (plan : LinkPlan)
  | ignored (reason : String)

/-- Move a case, from the state and version it was read in. -/
def RecoveryCase.moveTo (c : RecoveryCase) (newState : RecoveryState) (reason : String) :
    CaseTransition where
  recoveryCaseId := c.id
  expectedState := c.state
  expectedVersion := c.version
  newState := newState
  reasonCode := reason

/-! ## A captured payment -/

def captureAcceptingPaymentStates : List ProviderPaymentStatus :=
  [.unknown, .created, .authorized, .failed, .captured]

/-- The row of a payment that was not on the books: unknown, and without money. -/
def CapturedPayment.discovered (payment : CapturedPayment)
    (orderId eventRecordId newId : String) (occurredAt : Timestamp) (idOk : isUlid newId = true) :
    StoredPayment where
  id := newId
  providerPaymentId := payment.providerPaymentId
  providerOrderId := some payment.providerOrderId
  amountMinor := payment.amountMinor
  currency := payment.currency
  paymentMethod := payment.paymentMethod
  providerSnapshotAt := occurredAt
  idOk := idOk
  logicalOrderId := orderId
  status := .unknown
  capturedMinor := 0
  refundedMinor := 0
  errorFacts := [
    ("projection_contract", .str "payment-captured-discovery/v1"),
    ("retrywise_provider_event_record_id", .str eventRecordId)]

namespace Ledger

variable (ledger : Ledger)

/-- `_LOAD_CAPTURE_TARGET`; `_LOAD_PAYMENT_AND_ORDER` joins the same two rows. -/
def captureTarget (providerPaymentId : String) : Option CaptureTarget := do
  let payment ← ledger.payment providerPaymentId
  let order ← ledger.order payment.logicalOrderId
  if order.currency = payment.currency then return ⟨payment, order⟩ else none

/-- `_INSERT_DISCOVERED_CAPTURE_PAYMENT`; a payment id that is there already makes it do
nothing. -/
def insertDiscovered (payment : CapturedPayment) (orderId eventRecordId newId : String)
    (occurredAt : Timestamp) : Except ProjectionError Ledger :=
  if idOk : isUlid newId = true then
    if (ledger.payment payment.providerPaymentId).isSome then .ok ledger
    else if ledger.providerPayments.any fun p => p.id = newId then .error refused
    else
      .ok { ledger with
        providerPayments := ledger.providerPayments ++
          [payment.discovered orderId eventRecordId newId occurredAt idOk] }
  else .error (.runtime "payment_id_factory returned an invalid ULID")

end Ledger

/-- The order a payment that is not on the books would be put on. -/
def CapturedPayment.fitsOrder (payment : CapturedPayment) (order : LogicalOrder) : Bool :=
  order.originalProviderOrderId = some payment.providerOrderId &&
    order.amountDueMinor = payment.amountMinor && order.currency = payment.currency &&
    order.canonicalTruth ≠ .exception && order.mappingStatus = .mapped

/-- Two payment methods, where both are known. -/
def methodsAgree : Option String → Option String → Bool
  | some a, some b => a = b
  | _, _ => true

/-- The row and its order are what the event says of its payment. -/
def CaptureTarget.mapsTo (target : CaptureTarget) (providerPaymentId providerOrderId : String)
    (amountMinor : Nat) (currency : String) (paymentMethod : Option String) : Bool :=
  target.payment.providerPaymentId = providerPaymentId &&
    target.payment.providerOrderId = some providerOrderId &&
    target.order.originalProviderOrderId = some providerOrderId &&
    target.order.mappingStatus = .mapped && target.payment.amountMinor = amountMinor &&
    target.order.amountDueMinor = amountMinor && target.payment.currency = currency &&
    target.order.currency = currency && methodsAgree target.payment.paymentMethod paymentMethod

/-- `exact`, of a captured payment. -/
def CaptureTarget.exact (target : CaptureTarget) (payment : CapturedPayment) : Bool :=
  target.mapsTo payment.providerPaymentId payment.providerOrderId payment.amountMinor
    payment.currency payment.paymentMethod

/-- Why a capture is ignored before its order's rows are looked at. -/
def CaptureTarget.refusal (target : CaptureTarget) (payment : CapturedPayment)
    (occurredAt : Timestamp) : Option String :=
  if ¬target.exact payment then some "captured_payment_mapping_conflict"
  else if target.payment.status ∉ captureAcceptingPaymentStates then
    some "refunded_payment_state_dominates_capture"
  else if target.payment.refundedMinor ≠ 0 then
    some "refunded_payment_money_dominates_capture"
  else if target.payment.status = .captured ∧ occurredAt < target.payment.providerSnapshotAt then
    some "newer_capture_snapshot_already_projected"
  else none

/-- The cases whose instruments have collected. -/
def collectedCaseIds (instruments : List RecoveryInstrument) : List String :=
  (instruments.filter fun i =>
    i.status ∈ [.paid, .partiallyPaid] && decide (0 < i.collectedMinor)).map
      RecoveryInstrument.recoveryCaseId

/-- Where a capture on the original path takes a case of the order. -/
def captureTransition (collected : List String) (c : RecoveryCase) : Option CaseTransition :=
  if c.id ∈ collected then
    if c.state ≠ .duplicateReview then
      some (c.moveTo .duplicateReview "both_original_and_recovery_paths_collected")
    else none
  else if c.state ∈ openCaseStates then
    some (c.moveTo .suppressedPaid "original_payment_captured")
  else none

/-- `_prepare_capture`, from the locked rows of the order on. -/
def planCapture (ledger : Ledger) (target : CaptureTarget) (payment : CapturedPayment) :
    Except ProjectionError TerminalPlan := do
  let order := target.order
  let original ← originalTotal (ledger.originalPath order) target.payment.currency
    (some (payment, target.payment.id))
  let recovery ← recoveryTotal (ledger.orderInstruments order) target.payment.currency none
  let total ← checkedSum [original, recovery] "combined captured total"
  let truth ← truthForTotal total order.amountDueMinor
  if moneyIsMonotonic order.capturedTotalMinor total order.refundedTotalMinor
      order.canonicalTruth truth then
    return .capture {
      target := target
      payment := payment
      capturedTotalMinor := total
      canonicalTruth := truth
      caseTransitions := (ledger.orderCases order).filterMap
        (captureTransition (collectedCaseIds (ledger.orderInstruments order))) }
  else return .ignored "captured_order_truth_conflict"

/-- `_prepare_capture`, once its target is there. -/
def decideCapture (ledger : Ledger) (target : CaptureTarget) (payment : CapturedPayment)
    (occurredAt : Timestamp) : Except ProjectionError TerminalPlan :=
  match target.refusal payment occurredAt with
  | some reason => .ok (.ignored reason)
  | none => planCapture ledger target payment

/-- `_prepare_capture`. A payment that is not on the books is put there first, unknown and
without money, when its order is. -/
def prepareCapture (ledger : Ledger) (payment : CapturedPayment) (eventRecordId newId : String)
    (occurredAt : Timestamp) : Except ProjectionError (Ledger × TerminalPlan) :=
  match ledger.captureTarget payment.providerPaymentId with
  | some target => do
    let plan ← decideCapture ledger target payment occurredAt
    return (ledger, plan)
  | none =>
    match ledger.orderFor payment.providerOrderId with
    | none => .ok (ledger, .ignored "unmapped_captured_payment")
    | some order =>
      if ¬payment.fitsOrder order then
        .ok (ledger, .ignored "captured_payment_order_mapping_conflict")
      else do
        let discovered ←
          ledger.insertDiscovered payment order.id eventRecordId newId occurredAt
        let target ← someOr (discovered.captureTarget payment.providerPaymentId)
          (.busy "captured payment discovery did not converge")
        let plan ← decideCapture discovered target payment occurredAt
        return (discovered, plan)

/-! ## A paid link -/

/-- `base64.b32encode(..).rstrip("=").lower()` of the first 16 bytes of a digest in
hexadecimal: 26 digits of five bits. -/
def base32Digest (hexdigest : String) : String :=
  let nibble (c : Char) : Nat := if c.isDigit then c.toNat - 48 else c.toNat - 87
  let bits := (hexdigest.toList.take 32).foldl (fun n c => 16 * n + nibble c) 0
  let digit (n : Nat) : Char := if n < 26 then Char.ofNat (97 + n) else Char.ofNat (24 + n)
  String.ofList ((List.range 26).map fun i => digit ((4 * bits) >>> (5 * (25 - i)) % 32))

/-- `make_recovery_reference_id`, of the case ids of the database, which are plain ASCII. -/
def makeRecoveryReferenceId [Hashlib] (providerAccountId recoveryCaseId : String) : String :=
  let safe := ((recoveryCaseId.toList.map Char.toLower).filter fun c =>
    c.isLower || c.isDigit).take 8
  let slug := if safe = [] then "case" else String.ofList safe
  let digestInput :=
    s!"retrywise:razorpay:recovery-reference:v1\x00{providerAccountId}\x00{recoveryCaseId}"
  let digestText := base32Digest (Hashlib.sha256Hexdigest digestInput.toUTF8)
  s!"rtw_{slug}_{digestText}"

def linkPaidAcceptingStates : List InstrumentStatus :=
  [.issued, .active, .cancelPending, .partiallyPaid, .paid, .cancelled, .expired]

def linkPartialAcceptingStates : List InstrumentStatus :=
  [.issued, .active, .cancelPending, .partiallyPaid, .cancelled, .expired]

def LinkEventType.acceptingStates : LinkEventType → List InstrumentStatus
  | .paid => linkPaidAcceptingStates
  | .partiallyPaid => linkPartialAcceptingStates

/-- `_LOAD_LINK_TARGET`. -/
def Ledger.linkTarget (ledger : Ledger) (providerPaymentLinkId : String) : Option LinkTarget := do
  let instrument ← ledger.recoveryInstruments.find? fun i =>
    i.providerPaymentLinkId = some providerPaymentLinkId
  let recoveryCase ← Table.find RecoveryCase.id instrument.recoveryCaseId ledger.recoveryCases
  let order ← ledger.order instrument.logicalOrderId
  if recoveryCase.logicalOrderId = instrument.logicalOrderId ∧
      recoveryCase.currency = instrument.currency ∧
      recoveryCase.amountDueSnapshotMinor = instrument.amountMinor ∧
      order.currency = instrument.currency ∧ order.amountDueMinor = instrument.amountMinor then
    return ⟨instrument, recoveryCase, order⟩
  else none

/-- `exact`, of a collection; `referenceId` is what the case's links are made with. -/
def LinkTarget.exact (target : LinkTarget) (collection : PaymentLinkCollection)
    (referenceId : String) : Bool :=
  target.instrument.providerPaymentLinkId = some collection.providerPaymentLinkId &&
    target.instrument.referenceId = referenceId && collection.referenceId = referenceId &&
    target.instrument.amountMinor = collection.amountMinor &&
    target.order.amountDueMinor = collection.amountMinor &&
    target.instrument.currency = collection.currency &&
    target.order.currency = collection.currency && target.order.mappingStatus = .mapped &&
    (target.instrument.providerOrderId.all fun id => id = collection.providerOrderId) &&
    (target.instrument.providerPaymentId.all fun id => id = collection.providerPaymentId)

/-- Why a collection is ignored before its order's rows are looked at. -/
def LinkTarget.refusal (target : LinkTarget) (collection : PaymentLinkCollection)
    (referenceId : String) : Option String :=
  if ¬target.exact collection referenceId then some "recovery_payment_link_mapping_conflict"
  else if target.instrument.status ∉ collection.eventType.acceptingStates then
    some "recovery_instrument_state_dominates_link_event"
  else if collection.amountPaidMinor < target.instrument.collectedMinor then
    some "newer_recovery_collection_money_dominates_event"
  else if target.instrument.refundedMinor ≠ 0 then
    some "refunded_recovery_money_dominates_link_event"
  else if target.order.originalProviderOrderId = none then
    some "recovery_case_missing_original_order_binding"
  else none

/-- Where a collection takes the case of its instrument. -/
def linkTransition (target : LinkTarget) (collection : PaymentLinkCollection)
    (original total : Nat) : Option CaseTransition :=
  let c := target.recoveryCase
  let isPartial := collection.eventType = .partiallyPaid
  if isPartial ∨ 0 < original ∨ target.order.amountDueMinor < total then
    if c.state = .duplicateReview then none
    else
      some (c.moveTo .duplicateReview
        (if isPartial ∧ original = 0 then "partial_collection_violated_link_contract"
          else "both_original_and_recovery_paths_collected"))
  else if c.state = .active then some (c.moveTo .recovered "recovery_payment_link_paid")
  else if c.state = .recovered ∧ target.instrument.status = .paid then none
  else some (c.moveTo .duplicateReview "recovery_collected_outside_active_case")

/-- `_prepare_link`, from the locked rows of the order on. -/
def planLink (ledger : Ledger) (target : LinkTarget) (collection : PaymentLinkCollection) :
    Except ProjectionError TerminalPlan := do
  let order := target.order
  let original ← originalTotal (ledger.originalPath order) target.instrument.currency none
  let recovery ← recoveryTotal (ledger.orderInstruments order) target.instrument.currency
    (some (collection, target.instrument.id))
  let total ← checkedSum [original, recovery] "combined captured total"
  let truth ← truthForTotal total order.amountDueMinor
  if moneyIsMonotonic order.capturedTotalMinor total order.refundedTotalMinor
      order.canonicalTruth truth then
    return .link {
      target := target
      collection := collection
      capturedTotalMinor := total
      canonicalTruth := truth
      caseTransition := linkTransition target collection original total }
  else return .ignored "recovery_order_truth_conflict"

/-- `_prepare_link`; `referenceIdOf` makes the reference id of a case. -/
def prepareLink (referenceIdOf : String → String) (ledger : Ledger)
    (collection : PaymentLinkCollection) : Except ProjectionError TerminalPlan :=
  match ledger.linkTarget collection.providerPaymentLinkId with
  | none => .ok (.ignored "unmapped_recovery_payment_link")
  | some target =>
    match target.refusal collection (referenceIdOf target.recoveryCase.id) with
    | some reason => .ok (.ignored reason)
    | none => planLink ledger target collection

/-! ## Carrying a plan out -/

/-- The later of the times, where the row has one. -/
def laterSnapshot (snapshot : Option Timestamp) (occurredAt : Timestamp) : Option Timestamp :=
  some (max (snapshot.getD occurredAt) occurredAt)

/-- The row after `_PROJECT_CAPTURED_PAYMENT`. -/
def StoredPayment.capture (p : StoredPayment) (payment : CapturedPayment)
    (eventRecordId : String) (occurredAt : Timestamp) : StoredPayment :=
  { p with
    idOk := p.isUlid_id
    status := .captured
    capturedMinor := payment.amountMinor
    paymentMethod := p.paymentMethod.or payment.paymentMethod
    errorFacts := p.errorFacts.concat [
      ("projection_contract", .str "payment-captured/v1"),
      ("retrywise_provider_event_record_id", .str eventRecordId)]
    providerSnapshotAt := max p.providerSnapshotAt occurredAt }

/-- The row after `_PROJECT_RECOVERY_INSTRUMENT`. -/
def RecoveryInstrument.collect (i : RecoveryInstrument) (collection : PaymentLinkCollection)
    (now : Timestamp) : RecoveryInstrument :=
  { i with
    status := collection.instrumentStatus
    providerOrderId := i.providerOrderId.or (some collection.providerOrderId)
    providerPaymentId := i.providerPaymentId.or (some collection.providerPaymentId)
    collectedMinor := collection.amountPaidMinor
    lastProviderStatus := some collection.providerStatus
    reconciliationStatus := .confirmed
    lastReconciledAt := some now }

/-- The row after `_PROJECT_ORDER_TRUTH`. -/
def LogicalOrder.project (o : LogicalOrder) (total : Nat) (truth : CanonicalPaymentState)
    (occurredAt : Timestamp) : LogicalOrder :=
  { o with
    capturedTotalMinor := total
    canonicalTruth := truth
    providerSnapshotAt := laterSnapshot o.providerSnapshotAt occurredAt }

/-- The row after `_PROJECT_CASE_TERMINAL`. -/
def RecoveryCase.transition (c : RecoveryCase) (t : CaseTransition) (now : Timestamp) :
    RecoveryCase :=
  { c with
    state := t.newState
    version := c.version + 1
    terminalReasonCode := some t.reasonCode
    terminalAt := some now }

namespace Ledger

/-- `_PROJECT_CAPTURED_PAYMENT`. -/
def projectCapturedPayment (plan : CapturePlan) (eventRecordId : String) (occurredAt : Timestamp) :
    Ledger → Except ProjectionError Ledger :=
  let target := plan.target.payment
  let payment := plan.payment
  updatePayment target.id
    (fun p =>
      p.logicalOrderId = plan.target.order.id &&
        p.providerPaymentId = payment.providerPaymentId &&
        p.providerOrderId = some payment.providerOrderId &&
        p.amountMinor = payment.amountMinor && p.currency = payment.currency &&
        p.status = target.status && p.capturedMinor = target.capturedMinor &&
        p.refundedMinor = 0)
    (fun p => p.capture payment eventRecordId occurredAt) "captured payment projection"

/-- `_PROJECT_RECOVERY_INSTRUMENT`. -/
def projectRecoveryInstrument (plan : LinkPlan) (now : Timestamp) :
    Ledger → Except ProjectionError Ledger :=
  let target := plan.target.instrument
  let collection := plan.collection
  updateInstrument target.id
    (fun i =>
      i.recoveryCaseId = plan.target.recoveryCase.id &&
        i.logicalOrderId = plan.target.order.id &&
        i.providerPaymentLinkId = some collection.providerPaymentLinkId &&
        i.referenceId = collection.referenceId && i.amountMinor = collection.amountMinor &&
        i.currency = collection.currency && i.status = target.status &&
        i.collectedMinor = target.collectedMinor && i.refundedMinor = target.refundedMinor &&
        (i.providerOrderId.all fun id => id = collection.providerOrderId) &&
        (i.providerPaymentId.all fun id => id = collection.providerPaymentId))
    (fun i => i.collect collection now) "recovery instrument projection"

/-- `_PROJECT_ORDER_TRUTH`, `_apply_order`. -/
def applyOrder (target : LogicalOrder) (total : Nat) (truth : CanonicalPaymentState)
    (occurredAt : Timestamp) : Ledger → Except ProjectionError Ledger :=
  updateOrder target.id
    (fun o =>
      o.amountDueMinor = target.amountDueMinor && o.currency = target.currency &&
        o.canonicalTruth = target.canonicalTruth &&
        o.capturedTotalMinor = target.capturedTotalMinor &&
        o.refundedTotalMinor = target.refundedTotalMinor)
    (fun o => o.project total truth occurredAt) "logical order truth projection"

/-- `_PROJECT_CASE_TERMINAL`, `_apply_case`. -/
def applyCase (order : LogicalOrder) (t : CaseTransition) (now : Timestamp) :
    Ledger → Except ProjectionError Ledger :=
  updateCase t.recoveryCaseId
    (fun c =>
      c.logicalOrderId = order.id && c.currency = order.currency &&
        c.state = t.expectedState && c.version = t.expectedVersion)
    (fun c => c.transition t now) "recovery case projection"

/-- The case updates of a plan, one after the other. -/
def applyCases (order : LogicalOrder) (now : Timestamp) :
    List CaseTransition → Ledger → Except ProjectionError Ledger
  | [], ledger => .ok ledger
  | t :: rest, ledger => do
    let changed ← ledger.applyCase order t now
    changed.applyCases order now rest

/-- `_apply_capture`. -/
def applyCapture (ledger : Ledger) (plan : CapturePlan) (eventRecordId : String)
    (occurredAt now : Timestamp) : Except ProjectionError Ledger := do
  let paid ← ledger.projectCapturedPayment plan eventRecordId occurredAt
  let ordered ← paid.applyOrder plan.target.order plan.capturedTotalMinor plan.canonicalTruth
    occurredAt
  ordered.applyCases plan.target.order now plan.caseTransitions

/-- `_apply_link`. -/
def applyLink (ledger : Ledger) (plan : LinkPlan) (occurredAt now : Timestamp) :
    Except ProjectionError Ledger := do
  let collected ← ledger.projectRecoveryInstrument plan now
  let ordered ← collected.applyOrder plan.target.order plan.capturedTotalMinor
    plan.canonicalTruth occurredAt
  ordered.applyCases plan.target.order now plan.caseTransition.toList

end Ledger

end Retrywise.ControlPlane
