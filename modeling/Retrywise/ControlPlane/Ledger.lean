import Retrywise.ControlPlane.FreshContext
import Retrywise.ControlPlane.PathLifecycle
import Retrywise.Foundation.Table

/-!
# The money rows

The rows the provider's events move, of one merchant and one provider account: the
logical orders, the provider payments, the recovery instruments and the recovery cases,
with what the triggers and table checks of the migrations admit of a changed row
(`001_initial.sql`, `004_enforce_observation_deadline.sql`,
`008_allow_late_link_money_truth.sql`).

The money of an order comes in on two paths: its *original* path, the payments made on
the order's own provider order, and its *recovery* path, the instruments of its cases.
`Ledger.pathTotal` is the sum over both; what the order itself has is
`capturedTotalMinor`, and whether the two agree is a matter of the projections.

Left out are the columns nothing here reads, and `accept_partial`, which a table check
keeps `FALSE`.
-/

namespace Retrywise.ControlPlane

open Retrywise.Foundation Retrywise.Domain

/-! ## Columns -/

inductive OrderMappingStatus where
  | unmapped | mapped | ambiguous | conflict
deriving DecidableEq, Repr

inductive ProviderPaymentStatus where
  | unknown | created | authorized | captured | refunded | failed
deriving DecidableEq, Repr

/-- A `jsonb` object. -/
abbrev Facts := List (String × Json)

/-- `left || right`: the members of the right one, and those of the left one that it
does not have. -/
def Facts.concat (left right : Facts) : Facts :=
  right ++ left.filter fun member => right.all fun other => other.1 ≠ member.1

/-- `max(bigint)`. -/
def maxSignedBigint : Nat := 9223372036854775807

/-! ## Rows -/

structure LogicalOrder where
  id : String
  merchantOrderReference : String
  originalProviderOrderId : Option String
  amountDueMinor : Nat
  currency : String
  capturedTotalMinor : Nat
  refundedTotalMinor : Nat
  canonicalTruth : CanonicalPaymentState
  providerSnapshotAt : Option Timestamp
  mappingStatus : OrderMappingStatus
deriving DecidableEq

/-- A row of `provider_payments` with its money. -/
structure StoredPayment extends ProviderPaymentRow where
  logicalOrderId : String
  status : ProviderPaymentStatus
  capturedMinor : Nat
  refundedMinor : Nat
  errorFacts : Facts

theorem StoredPayment.isUlid_id (p : StoredPayment) : isUlid p.id = true := p.idOk

structure RecoveryInstrument extends InstrumentRow where
  id : String
  recoveryCaseId : String
  logicalOrderId : String
  currency : String
  providerOrderId : Option String
  providerPaymentId : Option String
  refundedMinor : Nat
deriving DecidableEq

structure RecoveryCase extends CaseRow where
  id : String
  logicalOrderId : String
  currency : String
  amountDueSnapshotMinor : Nat
deriving DecidableEq

structure Ledger where
  logicalOrders : List LogicalOrder
  providerPayments : List StoredPayment
  recoveryInstruments : List RecoveryInstrument
  recoveryCases : List RecoveryCase

/-! ## What the database admits -/

namespace LogicalOrder

variable (o : LogicalOrder)

/-- `logical_orders_truth_amount_ck`. -/
def truthAmountCheck : Bool :=
  match o.canonicalTruth with
  | .unknown | .exception => true
  | .unpaid | .authorized => o.capturedTotalMinor = 0
  | .partiallyPaid =>
    0 < o.capturedTotalMinor && decide (o.capturedTotalMinor < o.amountDueMinor)
  | .paid => o.capturedTotalMinor = o.amountDueMinor
  | .overpaid => o.amountDueMinor < o.capturedTotalMinor

def checks : Bool :=
  0 < o.amountDueMinor && o.refundedTotalMinor ≤ o.capturedTotalMinor && o.truthAmountCheck &&
    (o.canonicalTruth = .unknown || o.providerSnapshotAt.isSome) &&
    (o.mappingStatus ≠ .mapped || o.originalProviderOrderId.isSome)

/-- `enforce_logical_order_lifecycle`; its edges are those of `paymentTransitions`. -/
def admits (old new : LogicalOrder) : Bool :=
  (old.originalProviderOrderId.isNone ||
      new.originalProviderOrderId = old.originalProviderOrderId) &&
    old.capturedTotalMinor ≤ new.capturedTotalMinor &&
    old.refundedTotalMinor ≤ new.refundedTotalMinor &&
    reconciledForward old.providerSnapshotAt new.providerSnapshotAt &&
    (new.canonicalTruth = old.canonicalTruth ||
      new.canonicalTruth ∈ paymentTransitions old.canonicalTruth) &&
    new.checks

end LogicalOrder

namespace StoredPayment

variable (p : StoredPayment)

/-- `provider_payments_status_money_ck`. -/
def statusMoneyCheck : Bool :=
  match p.status with
  | .unknown => true
  | .created | .authorized | .failed => p.capturedMinor = 0 && p.refundedMinor = 0
  | .captured => 0 < p.capturedMinor
  | .refunded => 0 < p.capturedMinor && decide (0 < p.refundedMinor)

def checks : Bool :=
  0 < p.amountMinor && p.capturedMinor ≤ p.amountMinor && p.refundedMinor ≤ p.capturedMinor &&
    p.statusMoneyCheck

/-- The table has no trigger but its checks. -/
def admits (_ new : StoredPayment) : Bool := new.checks

end StoredPayment

/-- A provider id on an instrument is written once. -/
def writtenOnce (old new : Option String) : Bool := old.isNone || new = old

/-- `enforce_recovery_instrument_lifecycle` and the checks of the table. -/
def RecoveryInstrument.admits (old new : RecoveryInstrument) : Bool :=
  writtenOnce old.providerPaymentLinkId new.providerPaymentLinkId &&
    writtenOnce old.providerOrderId new.providerOrderId &&
    writtenOnce old.providerPaymentId new.providerPaymentId &&
    old.collectedMinor ≤ new.collectedMinor && old.refundedMinor ≤ new.refundedMinor &&
    reconciledForward old.lastReconciledAt new.lastReconciledAt &&
    (new.status = old.status || new.status ∈ instrumentEdges old.status) &&
    new.providerIdCheck && new.collectionCheck && new.refundedMinor ≤ new.collectedMinor

/-- `enforce_recovery_case_lifecycle`, with `enforce_observation_deadline` and the checks
of the table, under the truth of the case's order. -/
def admitsCase (truth : CanonicalPaymentState) (old new : CaseRow) : Bool :=
  legacyTrigger old new && new.version = old.version + 1 &&
    !(new.state ∈ workflowStates && truth ≠ .unpaid) &&
    (new.state = old.state || new.state = .duplicateReview || new.state ∈ caseEdges old.state) &&
    new.terminalCheck

/-! ## Reading the rows -/

namespace Ledger

variable (ledger : Ledger)

/-- The order of an id. -/
def order (id : String) : Option LogicalOrder := Table.find LogicalOrder.id id ledger.logicalOrders

/-- The row of a provider payment. -/
def payment (providerPaymentId : String) : Option StoredPayment :=
  ledger.providerPayments.find? fun p => p.providerPaymentId = providerPaymentId

/-- The logical order that was made for a provider order. -/
def orderFor (providerOrderId : String) : Option LogicalOrder :=
  ledger.logicalOrders.find? fun o => o.originalProviderOrderId = some providerOrderId

/-- The payment was made on the provider order of the logical order. -/
def onOriginalPath (order : LogicalOrder) (p : StoredPayment) : Bool :=
  p.logicalOrderId = order.id && p.providerOrderId.isSome &&
    p.providerOrderId = order.originalProviderOrderId

def isOrderInstrument (order : LogicalOrder) (i : RecoveryInstrument) : Bool :=
  i.logicalOrderId = order.id && i.currency = order.currency

def isOrderCase (order : LogicalOrder) (c : RecoveryCase) : Bool :=
  c.logicalOrderId = order.id && c.currency = order.currency

/-- `_LOCK_ORIGINAL_PATH_PAYMENTS`. -/
def originalPath (order : LogicalOrder) : List StoredPayment :=
  ledger.providerPayments.filter (onOriginalPath order)

/-- `_LOCK_ORDER_INSTRUMENTS`. -/
def orderInstruments (order : LogicalOrder) : List RecoveryInstrument :=
  ledger.recoveryInstruments.filter (isOrderInstrument order)

/-- `_LOCK_ORDER_CASES`. -/
def orderCases (order : LogicalOrder) : List RecoveryCase :=
  ledger.recoveryCases.filter (isOrderCase order)

/-- The money on the original path of an order. -/
def originalMoney (order : LogicalOrder) : Nat :=
  Table.total (onOriginalPath order) StoredPayment.capturedMinor ledger.providerPayments

/-- The money its instruments have collected. -/
def recoveryMoney (order : LogicalOrder) : Nat :=
  Table.total (isOrderInstrument order) (fun i => i.collectedMinor) ledger.recoveryInstruments

/-- The money on both paths of an order. -/
def pathTotal (order : LogicalOrder) : Nat :=
  ledger.originalMoney order + ledger.recoveryMoney order

end Ledger

/-- The states of a case that still collects. -/
def openCaseStates : List RecoveryState :=
  [.observing, .assessing, .waiting, .approvalRequired, .actionQueued, .executing,
    .actionUncertain, .active]

/-- No table has two rows under one key. -/
structure Ledger.Keyed (ledger : Ledger) : Prop where
  orders : Table.Keyed LogicalOrder.id ledger.logicalOrders
  payments : Table.Keyed (fun p : StoredPayment => p.id) ledger.providerPayments
  providerPayments :
    Table.Keyed (fun p : StoredPayment => p.providerPaymentId) ledger.providerPayments
  instruments : Table.Keyed RecoveryInstrument.id ledger.recoveryInstruments
  cases : Table.Keyed RecoveryCase.id ledger.recoveryCases

/-! ## Foreign keys -/

/-- What a payment refers to. -/
def LogicalOrder.moneyTerms (o : LogicalOrder) : String × String := (o.id, o.currency)

/-- What a case refers to. -/
def LogicalOrder.dueTerms (o : LogicalOrder) : String × String × Nat :=
  (o.id, o.currency, o.amountDueMinor)

/-- What an instrument refers to. -/
def RecoveryCase.terms (c : RecoveryCase) : String × String × String × Nat :=
  (c.id, c.logicalOrderId, c.currency, c.amountDueSnapshotMinor)

/-- `provider_payments_logical_order_fk`. -/
def StoredPayment.orderRef (p : StoredPayment) : String × String := (p.logicalOrderId, p.currency)

/-- The order of `recovery_cases`. -/
def RecoveryCase.orderRef (c : RecoveryCase) : String × String × Nat :=
  (c.logicalOrderId, c.currency, c.amountDueSnapshotMinor)

/-- `recovery_instruments_case_fk`. -/
def RecoveryInstrument.caseRef (i : RecoveryInstrument) : String × String × String × Nat :=
  (i.recoveryCaseId, i.logicalOrderId, i.currency, i.amountMinor)

/-- What a row refers to is there. -/
structure Ledger.Related (ledger : Ledger) : Prop where
  payments : ledger.providerPayments.map StoredPayment.orderRef ⊆
    ledger.logicalOrders.map LogicalOrder.moneyTerms
  cases : ledger.recoveryCases.map RecoveryCase.orderRef ⊆
    ledger.logicalOrders.map LogicalOrder.dueTerms
  instruments : ledger.recoveryInstruments.map RecoveryInstrument.caseRef ⊆
    ledger.recoveryCases.map RecoveryCase.terms

/-! ## Statements -/

/-- What a transaction over these rows ends with when it raises: the classes of the
projectors, those of the enrichment, and any other exception. -/
inductive ProjectionError where
  | fenceLost (message : String)
  | busy (message : String)
  | binding (message : String)
  | evidence (message : String)
  | enrichmentBinding (reason : String)
  | enrichmentPersistence (reason : String)
  | runtime (message : String)
  | database (message : String)
deriving DecidableEq, Repr

/-- `_first_column` of a statement that has matched no row. -/
def unmatched (operation : String) : ProjectionError :=
  .runtime s!"{operation} returned an unexpected row shape"

/-- What PostgreSQL raises for a row its triggers or checks refuse. -/
def refused : ProjectionError := .database "refused by a trigger or a check of the table"

namespace Ledger

/-- An `UPDATE` of one payment. -/
def updatePayment (id : String) (applies : StoredPayment → Bool)
    (assign : StoredPayment → StoredPayment) (operation : String) (ledger : Ledger) :
    Except ProjectionError Ledger := do
  let rows ← Table.updateOne (fun p : StoredPayment => p.id) id applies assign
    StoredPayment.admits (unmatched operation) refused ledger.providerPayments
  return { ledger with providerPayments := rows }

/-- An `UPDATE` of one order. -/
def updateOrder (id : String) (applies : LogicalOrder → Bool)
    (assign : LogicalOrder → LogicalOrder) (operation : String) (ledger : Ledger) :
    Except ProjectionError Ledger := do
  let rows ← Table.updateOne LogicalOrder.id id applies assign LogicalOrder.admits
    (unmatched operation) refused ledger.logicalOrders
  return { ledger with logicalOrders := rows }

/-- An `UPDATE` of one instrument. -/
def updateInstrument (id : String) (applies : RecoveryInstrument → Bool)
    (assign : RecoveryInstrument → RecoveryInstrument) (operation : String) (ledger : Ledger) :
    Except ProjectionError Ledger := do
  let rows ← Table.updateOne RecoveryInstrument.id id applies assign RecoveryInstrument.admits
    (unmatched operation) refused ledger.recoveryInstruments
  return { ledger with recoveryInstruments := rows }

/-- The truth the case trigger looks up; a case without its order has none that is `UNPAID`. -/
def truthOfCase (ledger : Ledger) (c : RecoveryCase) : CanonicalPaymentState :=
  ((ledger.order c.logicalOrderId).map LogicalOrder.canonicalTruth).getD .unknown

/-- An `UPDATE` of one case. -/
def updateCase (id : String) (applies : RecoveryCase → Bool)
    (assign : RecoveryCase → RecoveryCase) (operation : String) (ledger : Ledger) :
    Except ProjectionError Ledger := do
  let rows ← Table.updateOne RecoveryCase.id id applies assign
    (fun old new => admitsCase (ledger.truthOfCase old) old.toCaseRow new.toCaseRow)
    (unmatched operation) refused ledger.recoveryCases
  return { ledger with recoveryCases := rows }

variable {ledger changed : Ledger} {id operation : String}

theorem updatePayment_ok_iff {applies : StoredPayment → Bool}
    {assign : StoredPayment → StoredPayment} :
    updatePayment id applies assign operation ledger = .ok changed ↔
      ∃ row, Table.find (fun p : StoredPayment => p.id) id ledger.providerPayments = some row ∧
        applies row = true ∧ (assign row).checks = true ∧
        changed = { ledger with
          providerPayments :=
            Table.put (fun p : StoredPayment => p.id) (assign row) ledger.providerPayments } := by
  simp only [updatePayment, bind_ok_iff, Table.updateOne_ok_iff, pure_ok_iff]
  constructor
  · intro h
    obtain ⟨rows, ⟨row, hrow, happlies, hadmits, rfl⟩, rfl⟩ := h
    exact ⟨row, hrow, happlies, hadmits, rfl⟩
  · intro h
    obtain ⟨row, hrow, happlies, hadmits, rfl⟩ := h
    exact ⟨_, ⟨row, hrow, happlies, hadmits, rfl⟩, rfl⟩

theorem updateOrder_ok_iff {applies : LogicalOrder → Bool}
    {assign : LogicalOrder → LogicalOrder} :
    updateOrder id applies assign operation ledger = .ok changed ↔
      ∃ row, ledger.order id = some row ∧ applies row = true ∧
        row.admits (assign row) = true ∧
        changed = { ledger with
          logicalOrders := Table.put LogicalOrder.id (assign row) ledger.logicalOrders } := by
  simp only [updateOrder, bind_ok_iff, Table.updateOne_ok_iff, pure_ok_iff]
  constructor
  · intro h
    obtain ⟨rows, ⟨row, hrow, happlies, hadmits, rfl⟩, rfl⟩ := h
    exact ⟨row, hrow, happlies, hadmits, rfl⟩
  · intro h
    obtain ⟨row, hrow, happlies, hadmits, rfl⟩ := h
    exact ⟨_, ⟨row, hrow, happlies, hadmits, rfl⟩, rfl⟩

theorem updateInstrument_ok_iff {applies : RecoveryInstrument → Bool}
    {assign : RecoveryInstrument → RecoveryInstrument} :
    updateInstrument id applies assign operation ledger = .ok changed ↔
      ∃ row, Table.find RecoveryInstrument.id id ledger.recoveryInstruments = some row ∧
        applies row = true ∧ row.admits (assign row) = true ∧
        changed = { ledger with
          recoveryInstruments :=
            Table.put RecoveryInstrument.id (assign row) ledger.recoveryInstruments } := by
  simp only [updateInstrument, bind_ok_iff, Table.updateOne_ok_iff, pure_ok_iff]
  constructor
  · intro h
    obtain ⟨rows, ⟨row, hrow, happlies, hadmits, rfl⟩, rfl⟩ := h
    exact ⟨row, hrow, happlies, hadmits, rfl⟩
  · intro h
    obtain ⟨row, hrow, happlies, hadmits, rfl⟩ := h
    exact ⟨_, ⟨row, hrow, happlies, hadmits, rfl⟩, rfl⟩

theorem updateCase_ok_iff {applies : RecoveryCase → Bool}
    {assign : RecoveryCase → RecoveryCase} :
    updateCase id applies assign operation ledger = .ok changed ↔
      ∃ row, Table.find RecoveryCase.id id ledger.recoveryCases = some row ∧
        applies row = true ∧
        admitsCase (ledger.truthOfCase row) row.toCaseRow (assign row).toCaseRow = true ∧
        changed = { ledger with
          recoveryCases := Table.put RecoveryCase.id (assign row) ledger.recoveryCases } := by
  simp only [updateCase, bind_ok_iff, Table.updateOne_ok_iff, pure_ok_iff]
  constructor
  · intro h
    obtain ⟨rows, ⟨row, hrow, happlies, hadmits, rfl⟩, rfl⟩ := h
    exact ⟨row, hrow, happlies, hadmits, rfl⟩
  · intro h
    obtain ⟨row, hrow, happlies, hadmits, rfl⟩ := h
    exact ⟨_, ⟨row, hrow, happlies, hadmits, rfl⟩, rfl⟩

end Ledger

end Retrywise.ControlPlane
