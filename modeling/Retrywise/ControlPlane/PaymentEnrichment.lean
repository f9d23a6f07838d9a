import Retrywise.ControlPlane.ProviderEvents
import Retrywise.ControlPlane.TerminalMoney

/-!
# Enrichment of a failed payment

`payment_enrichment.py`: what the provider says of a payment and its order is read, and
then written in one transaction (`persist`). The order and the payment are put on the
books where they are not there; where they are, they are overwritten.

Both updates look at one thing, the time of the last snapshot: a row whose snapshot is
later than the time of observation is left alone. The order's total only grows
(`LogicalOrder.observe`); the payment's status, money and facts are replaced by what was
read (`StoredPayment.observe`), and the observation time is taken *after* the reads.
-/

namespace Retrywise.ControlPlane

open Retrywise.Foundation Retrywise.Domain

/-! ## The provider's order -/

inductive OrderStatus where
  | created | attempted | paid
deriving DecidableEq, Repr

structure OrderRecordFields where
  orderId : String
  amountMinor : Nat
  amountPaidMinor : Nat
  amountDueMinor : Nat
  currency : String
  status : OrderStatus
  attempts : Nat
  createdAtEpoch : Nat
deriving DecidableEq

/-- `OrderRecord.__post_init__`. -/
def OrderRecordFields.postInit (o : OrderRecordFields) : Except ControlPlaneError Unit := do
  let invalid := ControlPlaneError.providerRead "provider_order_response_invalid"
  raiseIf (¬isOrderId o.orderId) invalid
  raiseIf (o.amountMinor = 0) invalid
  raiseIf (¬(o.amountPaidMinor ≤ o.amountMinor ∧ o.amountDueMinor ≤ o.amountMinor ∧
    o.amountPaidMinor + o.amountDueMinor = o.amountMinor)) invalid
  raiseIf (¬isCurrency o.currency) invalid
  raiseIf (o.createdAtEpoch = 0) invalid
  raiseIf (o.status = .paid ∧ (o.amountPaidMinor ≠ o.amountMinor ∨ o.amountDueMinor ≠ 0)) invalid
  raiseIf (o.status = .created ∧ o.attempts ≠ 0) invalid

/-- A strict projection of one provider order. -/
structure OrderRecord extends OrderRecordFields where
  valid : toOrderRecordFields.postInit = .ok ()

/-- What is asked of the amounts of an order. -/
theorem OrderRecord.paid_le (order : OrderRecord) :
    0 < order.amountMinor ∧ order.amountPaidMinor ≤ order.amountMinor := by
  have hvalid := order.valid
  simp only [OrderRecordFields.postInit, bind_ok_iff, raiseIf_ok_iff, not_not, exists_and_left,
    exists_const] at hvalid
  obtain ⟨-, hpositive, ⟨hpaid, -, -⟩, -⟩ := hvalid
  exact ⟨Nat.pos_of_ne_zero hpositive, hpaid⟩

/-! ## The rows after an observation -/

/-- `payment.status.value.upper()`. -/
def PaymentStatus.stored : PaymentStatus → ProviderPaymentStatus
  | .created => .created
  | .authorized => .authorized
  | .captured => .captured
  | .refunded => .refunded
  | .failed => .failed

/-- `error_facts`: of a failure, and otherwise none. -/
def PaymentRecordFields.enrichmentFacts (r : PaymentRecordFields) : Facts :=
  if r.errorSource = none then []
  else [
    ("error_reason", optionalText r.errorReason),
    ("error_source", optionalText r.errorSource),
    ("error_step", optionalText r.errorStep),
    ("projection_contract", .str "provider-api-enrichment/v1")]

/-- The truth of a total, with no money at all as unpaid. -/
def enrichedTruth (total amountDue : Nat) : CanonicalPaymentState :=
  if total = 0 then .unpaid else truthOf total amountDue

/-- The row after `_UPDATE_ORDER`. -/
def LogicalOrder.observe (o : LogicalOrder) (amountPaid : Nat) (observedAt : Timestamp) :
    LogicalOrder :=
  let total := max o.capturedTotalMinor amountPaid
  { o with
    capturedTotalMinor := total
    canonicalTruth := enrichedTruth total o.amountDueMinor
    providerSnapshotAt := some observedAt
    mappingStatus := .mapped }

/-- The row after `_UPDATE_PAYMENT`. -/
def StoredPayment.observe (p : StoredPayment) (payment : PaymentRecordFields)
    (observedAt : Timestamp) : StoredPayment :=
  { p with
    idOk := p.isUlid_id
    status := payment.status.stored
    capturedMinor := payment.capturedMinor
    refundedMinor := payment.refundedMinor
    paymentMethod := some payment.paymentMethod
    errorFacts := payment.enrichmentFacts
    providerSnapshotAt := observedAt }

/-! ## The transaction -/

/-- One run of `persist`: the command, what was read, and what the transaction finds. -/
structure Enrichment where
  command : EnrichFailedPaymentCommand
  payment : PaymentRecord
  order : OrderRecord
  observedAt : Timestamp
  fenced : Bool
  stillFenced : Bool
  accountAvailable : Bool
  newOrderId : String
  newPaymentId : String

namespace Enrichment

variable (e : Enrichment)

/-- `_validate_binding`. -/
def bindingAgrees : Bool :=
  e.payment.paymentId = e.command.providerPaymentId &&
    e.payment.orderId = e.command.providerOrderId &&
    e.order.orderId = e.command.providerOrderId &&
    e.payment.amountMinor = e.command.amountMinor && e.payment.currency = e.command.currency &&
    e.order.amountMinor = e.payment.amountMinor && e.order.currency = e.payment.currency

/-- The order of `_INSERT_ORDER`. -/
def newOrder : LogicalOrder where
  id := e.newOrderId
  merchantOrderReference := s!"razorpay:{e.order.orderId}"
  originalProviderOrderId := some e.command.providerOrderId
  amountDueMinor := e.order.amountMinor
  currency := e.order.currency
  capturedTotalMinor := e.order.amountPaidMinor
  refundedTotalMinor := 0
  canonicalTruth :=
    if e.order.amountPaidMinor = 0 then .unpaid
    else if e.order.amountPaidMinor = e.order.amountMinor then .paid
    else .partiallyPaid
  providerSnapshotAt := some e.observedAt
  mappingStatus := .mapped

/-- The payment of `_INSERT_PAYMENT`, on a logical order. -/
def newPayment (idOk : isUlid e.newPaymentId = true) (orderId : String) : StoredPayment where
  id := e.newPaymentId
  providerPaymentId := e.command.providerPaymentId
  providerOrderId := some e.command.providerOrderId
  amountMinor := e.payment.amountMinor
  currency := e.order.currency
  paymentMethod := some e.payment.paymentMethod
  providerSnapshotAt := e.observedAt
  idOk := idOk
  logicalOrderId := orderId
  status := e.payment.status.stored
  capturedMinor := e.payment.capturedMinor
  refundedMinor := e.payment.refundedMinor
  errorFacts := e.payment.enrichmentFacts

/-- `_INSERT_ORDER`, which does nothing on a conflict of any key. -/
def insertOrder (ledger : Ledger) : Ledger :=
  if ledger.logicalOrders.any fun o =>
      o.id = e.newOrder.id || o.merchantOrderReference = e.newOrder.merchantOrderReference ||
        o.originalProviderOrderId = e.newOrder.originalProviderOrderId then ledger
  else { ledger with logicalOrders := ledger.logicalOrders ++ [e.newOrder] }

/-- `_INSERT_PAYMENT`, which does nothing on a conflict of any key. -/
def insertPayment (idOk : isUlid e.newPaymentId = true) (orderId : String) (ledger : Ledger) :
    Ledger :=
  if ledger.providerPayments.any fun p =>
      p.id = e.newPaymentId || p.providerPaymentId = e.command.providerPaymentId then ledger
  else { ledger with providerPayments := ledger.providerPayments ++ [e.newPayment idOk orderId] }

/-- `_LOAD_ORDER` and `_validated_order_row`. -/
def loadOrder (ledger : Ledger) : Except ProjectionError LogicalOrder := do
  let order ← someOr (ledger.orderFor e.command.providerOrderId)
    (.enrichmentPersistence "provider_order_mapping_missing")
  raiseIf (¬(order.amountDueMinor = e.order.amountMinor ∧ order.currency = e.order.currency ∧
      order.mappingStatus ∈ [OrderMappingStatus.unmapped, .mapped]))
    (.enrichmentBinding "provider_order_mapping_conflict")
  return order

/-- `_LOAD_PAYMENT` and `_validated_payment_row`. -/
def loadPayment (orderId : String) (ledger : Ledger) : Except ProjectionError StoredPayment := do
  let payment ← someOr (ledger.payment e.command.providerPaymentId)
    (.enrichmentPersistence "provider_payment_mapping_missing")
  raiseIf (¬(payment.logicalOrderId = orderId ∧
      payment.providerOrderId = some e.command.providerOrderId ∧
      payment.amountMinor = e.command.amountMinor ∧ payment.currency = e.command.currency))
    (.enrichmentBinding "provider_payment_mapping_conflict")
  return payment

/-- `_UPDATE_ORDER`, which leaves an order with a later snapshot alone. -/
def updateOrder (id : String) (ledger : Ledger) : Except ProjectionError Ledger := do
  let rows ← Table.update LogicalOrder.id id
    (fun o => o.providerSnapshotAt.all (· ≤ e.observedAt))
    (fun o => o.observe e.order.amountPaidMinor e.observedAt) LogicalOrder.admits refused
    ledger.logicalOrders
  return { ledger with logicalOrders := rows.getD ledger.logicalOrders }

/-- `_UPDATE_PAYMENT`, which leaves a payment with a later snapshot alone. -/
def updatePayment (id : String) (ledger : Ledger) : Except ProjectionError Ledger := do
  let rows ← Table.update (fun p : StoredPayment => p.id) id
    (fun p => p.providerSnapshotAt ≤ e.observedAt)
    (fun p => p.observe e.payment.toPaymentRecordFields e.observedAt) StoredPayment.admits refused
    ledger.providerPayments
  return { ledger with providerPayments := rows.getD ledger.providerPayments }

/-- `persist`. -/
def persist (ledger : Ledger) : Except ProjectionError Ledger :=
  if idsOk : isUlid e.newOrderId = true ∧ isUlid e.newPaymentId = true then do
    raiseIf (¬e.bindingAgrees) (.enrichmentBinding "provider_enrichment_binding_conflict")
    raiseIf (¬e.fenced) (.enrichmentPersistence "payment_enrichment_fence_lost")
    raiseIf (¬e.accountAvailable)
      (.enrichmentPersistence "payment_enrichment_account_unavailable")
    let withOrder := e.insertOrder ledger
    let order ← e.loadOrder withOrder
    let ordered ← e.updateOrder order.id withOrder
    let withPayment := e.insertPayment idsOk.2 order.id ordered
    let payment ← e.loadPayment order.id withPayment
    let observed ← e.updatePayment payment.id withPayment
    raiseIf (¬e.stillFenced) (.enrichmentPersistence "payment_enrichment_fence_lost")
    return observed
  else .error (.runtime "id_factory result is not a RetryWise ULID")

/-! ## What a run of `persist` does -/

/-- The rows once the order and the payment are on the books. -/
def found (idOk : isUlid e.newPaymentId = true) (orderId : String) (ledger : Ledger) : Ledger :=
  e.insertPayment idOk orderId (e.insertOrder ledger)

/-- The order is one whose last snapshot is not later. -/
def appliesToOrder (order : LogicalOrder) : Bool :=
  order.providerSnapshotAt.all (· ≤ e.observedAt)

/-- The payment is one whose last snapshot is not later. -/
def appliesToPayment (payment : StoredPayment) : Bool :=
  payment.providerSnapshotAt ≤ e.observedAt

/-- The rows after both updates. -/
def observe (found : Ledger) (order : LogicalOrder) (payment : StoredPayment) : Ledger :=
  { found with
    logicalOrders :=
      if e.appliesToOrder order then
        Table.put LogicalOrder.id (order.observe e.order.amountPaidMinor e.observedAt)
          found.logicalOrders
      else found.logicalOrders
    providerPayments :=
      if e.appliesToPayment payment then
        Table.put (fun p : StoredPayment => p.id)
          (payment.observe e.payment.toPaymentRecordFields e.observedAt) found.providerPayments
      else found.providerPayments }

/-- The rows an enrichment has loaded agree with what was read, and their tables admit what
is written. -/
structure Loads (found : Ledger) (order : LogicalOrder) (payment : StoredPayment) : Prop where
  binding : e.bindingAgrees = true
  orderFound : found.orderFor e.command.providerOrderId = some order
  due : order.amountDueMinor = e.order.amountMinor
  currency : order.currency = e.order.currency
  mapping : order.mappingStatus ∈ [OrderMappingStatus.unmapped, .mapped]
  orderAdmits : e.appliesToOrder order = true →
    order.admits (order.observe e.order.amountPaidMinor e.observedAt) = true
  paymentFound : found.payment e.command.providerPaymentId = some payment
  logical : payment.logicalOrderId = order.id
  provider : payment.providerOrderId = some e.command.providerOrderId
  amount : payment.amountMinor = e.command.amountMinor
  paymentCurrency : payment.currency = e.command.currency
  paymentAdmits : e.appliesToPayment payment = true →
    (payment.observe e.payment.toPaymentRecordFields e.observedAt).checks = true

variable {e} {ledger after : Ledger}

theorem logicalOrders_insertPayment {idOk : isUlid e.newPaymentId = true} {orderId : String} :
    (e.insertPayment idOk orderId ledger).logicalOrders = ledger.logicalOrders := by
  unfold insertPayment
  split_ifs
  · rfl
  · rfl

theorem providerPayments_insertOrder :
    (e.insertOrder ledger).providerPayments = ledger.providerPayments := by
  unfold insertOrder
  split_ifs
  · rfl
  · rfl

/-- What is put on the books is an order and a payment. -/
theorem found_frame {idOk : isUlid e.newPaymentId = true} {orderId : String} :
    (e.found idOk orderId ledger).recoveryInstruments = ledger.recoveryInstruments ∧
      (e.found idOk orderId ledger).recoveryCases = ledger.recoveryCases := by
  have horder : (e.insertOrder ledger).recoveryInstruments = ledger.recoveryInstruments ∧
      (e.insertOrder ledger).recoveryCases = ledger.recoveryCases := by
    unfold insertOrder
    split_ifs
    · exact ⟨rfl, rfl⟩
    · exact ⟨rfl, rfl⟩
  unfold found insertPayment
  split_ifs
  · exact horder
  · exact horder

/-- The orders are those of the books, and perhaps the one that was read. -/
theorem logicalOrders_found {idOk : isUlid e.newPaymentId = true} {orderId : String} :
    (e.found idOk orderId ledger).logicalOrders = ledger.logicalOrders ∨
      (e.found idOk orderId ledger).logicalOrders = ledger.logicalOrders ++ [e.newOrder] ∧
        ∀ o ∈ ledger.logicalOrders, o.id ≠ e.newOrderId ∧
          o.originalProviderOrderId ≠ some e.command.providerOrderId := by
  unfold found
  rw [logicalOrders_insertPayment]
  unfold insertOrder
  split_ifs with hconflict
  · exact .inl rfl
  · refine .inr ⟨rfl, ?_⟩
    intro o ho
    constructor
    · intro hid
      exact hconflict (List.any_eq_true.mpr ⟨o, ho, by simp [newOrder, hid]⟩)
    · intro hprovider
      exact hconflict (List.any_eq_true.mpr ⟨o, ho, by simp [newOrder, hprovider]⟩)

theorem keyed_insertOrder (hkeyed : ledger.Keyed) : (e.insertOrder ledger).Keyed := by
  unfold insertOrder
  split_ifs with hconflict
  · exact hkeyed
  · refine { hkeyed with orders := Table.keyed_concat hkeyed.orders ?_ }
    intro o ho heq
    exact hconflict (List.any_eq_true.mpr ⟨o, ho, by simp [heq]⟩)

theorem keyed_insertPayment {idOk : isUlid e.newPaymentId = true} {orderId : String}
    (hkeyed : ledger.Keyed) : (e.insertPayment idOk orderId ledger).Keyed := by
  unfold insertPayment
  split_ifs with hconflict
  · exact hkeyed
  · refine { hkeyed with
      payments := Table.keyed_concat hkeyed.payments ?_
      providerPayments := Table.keyed_concat hkeyed.providerPayments ?_ }
    · intro p hp heq
      have heq : p.id = e.newPaymentId := heq
      exact hconflict (List.any_eq_true.mpr ⟨p, hp, by simp [heq]⟩)
    · intro p hp heq
      have heq : p.providerPaymentId = e.command.providerPaymentId := heq
      exact hconflict (List.any_eq_true.mpr ⟨p, hp, by simp [heq]⟩)

/-- The payment is put on the books whatever has become of the orders. -/
theorem insertPayment_with {idOk : isUlid e.newPaymentId = true} {orderId : String}
    {orders : List LogicalOrder} :
    e.insertPayment idOk orderId { ledger with logicalOrders := orders } =
      { e.insertPayment idOk orderId ledger with logicalOrders := orders } := by
  unfold insertPayment
  split_ifs
  · rfl
  · rfl

theorem updateOrder_ok {order : LogicalOrder} (hkeyed : ledger.Keyed)
    (horder : order ∈ ledger.logicalOrders) (h : e.updateOrder order.id ledger = .ok after) :
    (e.appliesToOrder order = true →
        order.admits (order.observe e.order.amountPaidMinor e.observedAt) = true) ∧
      after = { ledger with
        logicalOrders :=
          if e.appliesToOrder order then
            Table.put LogicalOrder.id (order.observe e.order.amountPaidMinor e.observedAt)
              ledger.logicalOrders
          else ledger.logicalOrders } := by
  have hfind := Table.find_of_mem hkeyed.orders horder
  obtain ⟨rows, hrows, hpure⟩ := bind_ok_iff.mp h
  rw [← pure_ok_iff.mp hpure]
  cases rows with
  | some changed =>
    obtain ⟨row, hrow, happlies, hadmits, rfl⟩ := Table.update_ok_some_iff.mp hrows
    obtain rfl := Option.some.inj (hfind.symm.trans hrow)
    have happlies : e.appliesToOrder order = true := happlies
    rw [if_pos happlies]
    exact ⟨fun _ => hadmits, rfl⟩
  | none =>
    have hnot : e.appliesToOrder order = false := Table.update_ok_none_iff.mp hrows order hfind
    rw [hnot]
    exact ⟨fun h => absurd h (by simp), rfl⟩

theorem updatePayment_ok {payment : StoredPayment}
    (hkeyed : Table.Keyed (fun p : StoredPayment => p.id) ledger.providerPayments)
    (hpayment : payment ∈ ledger.providerPayments)
    (h : e.updatePayment payment.id ledger = .ok after) :
    (e.appliesToPayment payment = true →
        (payment.observe e.payment.toPaymentRecordFields e.observedAt).checks = true) ∧
      after = { ledger with
        providerPayments :=
          if e.appliesToPayment payment then
            Table.put (fun p : StoredPayment => p.id)
              (payment.observe e.payment.toPaymentRecordFields e.observedAt)
              ledger.providerPayments
          else ledger.providerPayments } := by
  have hfind : Table.find (fun p : StoredPayment => p.id) payment.id ledger.providerPayments =
      some payment := Table.find_of_mem hkeyed hpayment
  obtain ⟨rows, hrows, hpure⟩ := bind_ok_iff.mp h
  rw [← pure_ok_iff.mp hpure]
  cases rows with
  | some changed =>
    obtain ⟨row, hrow, happlies, hadmits, rfl⟩ := Table.update_ok_some_iff.mp hrows
    obtain rfl := Option.some.inj (hfind.symm.trans hrow)
    have happlies : e.appliesToPayment payment = true := happlies
    rw [if_pos happlies]
    exact ⟨fun _ => hadmits, rfl⟩
  | none =>
    have hnot : e.appliesToPayment payment = false :=
      Table.update_ok_none_iff.mp hrows payment hfind
    rw [hnot]
    exact ⟨fun h => absurd h (by simp), rfl⟩

theorem loadOrder_ok {order : LogicalOrder} (h : e.loadOrder ledger = .ok order) :
    ledger.orderFor e.command.providerOrderId = some order ∧
      order.amountDueMinor = e.order.amountMinor ∧ order.currency = e.order.currency ∧
      order.mappingStatus ∈ [OrderMappingStatus.unmapped, .mapped] := by
  obtain ⟨found, hfound, h⟩ := bind_ok_iff.mp h
  obtain ⟨_, hagrees, h⟩ := bind_ok_iff.mp h
  obtain rfl := pure_ok_iff.mp h
  rw [raiseIf_ok_iff, not_not] at hagrees
  exact ⟨someOr_ok_iff.mp hfound, hagrees⟩

theorem loadPayment_ok {orderId : String} {payment : StoredPayment}
    (h : e.loadPayment orderId ledger = .ok payment) :
    ledger.payment e.command.providerPaymentId = some payment ∧
      payment.logicalOrderId = orderId ∧
      payment.providerOrderId = some e.command.providerOrderId ∧
      payment.amountMinor = e.command.amountMinor ∧ payment.currency = e.command.currency := by
  obtain ⟨found, hfound, h⟩ := bind_ok_iff.mp h
  obtain ⟨_, hagrees, h⟩ := bind_ok_iff.mp h
  obtain rfl := pure_ok_iff.mp h
  rw [raiseIf_ok_iff, not_not] at hagrees
  exact ⟨someOr_ok_iff.mp hfound, hagrees⟩

/-- A run of `persist` has put the rows on the books, loaded them and observed them. -/
theorem persist_ok (hkeyed : ledger.Keyed) (h : e.persist ledger = .ok after) :
    ∃ idOk order payment, e.Loads (e.found idOk order.id ledger) order payment ∧
      after = e.observe (e.found idOk order.id ledger) order payment := by
  unfold persist at h
  split_ifs at h with idsOk
  obtain ⟨_, hbinding, h⟩ := bind_ok_iff.mp h
  obtain ⟨-, -, h⟩ := bind_ok_iff.mp h
  obtain ⟨-, -, h⟩ := bind_ok_iff.mp h
  obtain ⟨order, horder, h⟩ := bind_ok_iff.mp h
  obtain ⟨ordered, hordered, h⟩ := bind_ok_iff.mp h
  obtain ⟨payment, hpayment, h⟩ := bind_ok_iff.mp h
  obtain ⟨observed, hobserved, h⟩ := bind_ok_iff.mp h
  obtain ⟨-, -, h⟩ := bind_ok_iff.mp h
  obtain rfl := pure_ok_iff.mp h
  rw [raiseIf_ok_iff, not_not] at hbinding
  obtain ⟨hfound, hdue, hcurrency, hmapping⟩ := loadOrder_ok horder
  obtain ⟨hadmits, rfl⟩ := updateOrder_ok (keyed_insertOrder hkeyed)
    (List.mem_of_find?_eq_some hfound) hordered
  rw [insertPayment_with] at hpayment hobserved
  obtain ⟨hpaymentFound, hlogical, hprovider, hamount, hpaymentCurrency⟩ := loadPayment_ok hpayment
  have hfoundKeyed : (e.insertPayment idsOk.2 order.id (e.insertOrder ledger)).Keyed :=
    keyed_insertPayment (keyed_insertOrder hkeyed)
  have hpayments := hfoundKeyed.payments
  obtain ⟨hpaymentAdmits, rfl⟩ := updatePayment_ok (by exact hpayments)
    (by exact List.mem_of_find?_eq_some hpaymentFound) hobserved
  refine ⟨idsOk.2, order, payment, ?_, ?_⟩
  · refine ⟨hbinding, ?_, hdue, hcurrency, hmapping, hadmits, hpaymentFound, hlogical, hprovider,
      hamount, hpaymentCurrency, hpaymentAdmits⟩
    unfold Ledger.orderFor found
    rw [logicalOrders_insertPayment]
    exact hfound
  · unfold observe found
    rw [logicalOrders_insertPayment]

end Enrichment

end Retrywise.ControlPlane
