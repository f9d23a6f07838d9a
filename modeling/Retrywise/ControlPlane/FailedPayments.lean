import Retrywise.ControlPlane.ProviderEvents
import Retrywise.ControlPlane.TerminalMoney

/-!
# Failed payments

`normalized_event_projector.py`, the part that is not the frame: a `payment.failed` marks
its payment as failed and opens a recovery case for the order, unless a case of it is open.

That a payment has been projected before is remembered in the payment's own error facts,
under `retrywise_provider_event_record_id` (the *marker*). A failed payment with the marker
of another event opens no case; one without a marker does.
-/

namespace Retrywise.ControlPlane

open Retrywise.Foundation Retrywise.Domain

/-- `_FailedPayment`; the amount is positive and a `bigint`. -/
structure FailedPayment where
  providerPaymentId : String
  providerOrderId : Option String
  amountMinor : Nat
  currency : String
  paymentMethod : Option String
  errorFacts : Facts
  positive : 0 < amountMinor
  bounded : amountMinor ≤ maxSignedBigint

def markerKey : String := "retrywise_provider_event_record_id"

/-- The marker of a payment, or what a malformed one raises. -/
def StoredPayment.marker (p : StoredPayment) : Except ProjectionError (Option String) :=
  match p.errorFacts.lookup markerKey with
  | none | some .null => .ok none
  | some (.str id) =>
    if isUlid id then .ok (some id)
    else .error (.evidence "persisted payment projection marker is malformed")
  | some _ => .error (.evidence "persisted payment projection marker is malformed")

def safePreFailurePaymentStates : List ProviderPaymentStatus := [.unknown, .created, .failed]

def safeRecoveryTruths : List CanonicalPaymentState := [.unknown, .unpaid]

/-- `_mapping_is_exact`, for a payment that names its order. -/
def mappingIsExact (target : CaptureTarget) (payment : FailedPayment) (providerOrderId : String) :
    Bool :=
  target.mapsTo payment.providerPaymentId providerOrderId payment.amountMinor payment.currency
    payment.paymentMethod

/-- What a failure is carried out on. -/
structure FailurePlan where
  payment : FailedPayment
  target : CaptureTarget

/-- Why a failure is ignored, once its payment is found. -/
def failureRefusal (target : CaptureTarget) (payment : FailedPayment) (providerOrderId : String)
    (occurredAt : Timestamp) : Option String :=
  if ¬mappingIsExact target payment providerOrderId then some "payment_mapping_conflict"
  else if target.payment.status ∉ safePreFailurePaymentStates then
    some "capture_capable_payment_state_dominates_failure"
  else if target.payment.status ≠ .failed ∧ occurredAt < target.payment.providerSnapshotAt then
    some "stale_provider_snapshot_dominates_failure"
  else none

/-- A failure that is not refused finds its payment in a state it may fail from. -/
theorem status_of_failureRefusal {target : CaptureTarget} {payment : FailedPayment}
    {providerOrderId : String} {occurredAt : Timestamp}
    (h : failureRefusal target payment providerOrderId occurredAt = none) :
    target.payment.status ∈ safePreFailurePaymentStates := by
  unfold failureRefusal at h
  split_ifs at h with hmapped hstatus hstale
  exact hstatus

/-- The part of `project` before the inbox row is started. A payment that is not on the
books is looked up first: the event comes back later. -/
def prepareFailure (ledger : Ledger) (payment : FailedPayment) (occurredAt : Timestamp) :
    Except ProjectionError (Prepared FailurePlan) :=
  match payment.providerOrderId with
  | none => .ok (.ignored "payment_missing_order_binding")
  | some providerOrderId =>
    match ledger.captureTarget payment.providerPaymentId with
    | none => do
      let enrichment ← construct EnrichmentFields.postInit EnrichFailedPaymentCommand.mk {
        providerPaymentId := payment.providerPaymentId
        providerOrderId := providerOrderId
        amountMinor := payment.amountMinor
        currency := payment.currency }
      return .deferred "provider_payment_projection_not_ready" enrichment
    | some target =>
      match failureRefusal target payment providerOrderId occurredAt with
      | some reason => .ok (.ignored reason)
      | none => .ok (.work ⟨payment, target⟩)

/-- The row after `_PROJECT_PAYMENT_FAILED`. -/
def StoredPayment.fail (p : StoredPayment) (payment : FailedPayment) (eventRecordId : String)
    (occurredAt : Timestamp) : StoredPayment :=
  { p with
    idOk := p.isUlid_id
    status := .failed
    paymentMethod := p.paymentMethod.or payment.paymentMethod
    errorFacts := payment.errorFacts.concat [
      ("projection_contract", .str "payment-failed/v1"),
      (markerKey, .str eventRecordId)]
    providerSnapshotAt := max p.providerSnapshotAt occurredAt }

/-- The case of `_INSERT_OBSERVING_CASE`; the trigger gives it the observation contract. -/
def observingCase (id : String) (order : LogicalOrder) : RecoveryCase where
  id := id
  logicalOrderId := order.id
  currency := order.currency
  amountDueSnapshotMinor := order.amountDueMinor
  state := .observing
  version := 0
  observationContractVersion := 1
  lastActionId := none
  terminalReasonCode := none
  terminalAt := none

namespace Ledger

variable (ledger : Ledger)

/-- `_LOAD_OPEN_CASE`. -/
def openCase (order : LogicalOrder) : Option RecoveryCase :=
  ledger.recoveryCases.find? fun c => isOrderCase order c && decide (c.state ∈ openCaseStates)

/-- `_PROJECT_PAYMENT_FAILED`. -/
def projectPaymentFailed (plan : FailurePlan) (eventRecordId : String) (occurredAt : Timestamp) :
    Except ProjectionError Ledger :=
  ledger.updatePayment plan.target.payment.id
    (fun p =>
      p.logicalOrderId = plan.target.payment.logicalOrderId &&
        p.providerPaymentId = plan.payment.providerPaymentId &&
        decide (p.status ∈ safePreFailurePaymentStates))
    (fun p => p.fail plan.payment eventRecordId occurredAt) "payment failure projection"

/-- `_INSERT_OBSERVING_CASE`: nothing while a case of the order is open. The trigger wants
an order that is not known to be paid. -/
def insertObservingCase (order : LogicalOrder) (newId : String) :
    Except ProjectionError (Ledger × Option RecoveryCase) :=
  if (ledger.openCase order).isSome then .ok (ledger, none)
  else if ledger.recoveryCases.any fun c => c.id = newId then .error refused
  else if (ledger.order order.id).any fun o => decide (o.canonicalTruth ∈ safeRecoveryTruths) then
    .ok ({ ledger with recoveryCases := ledger.recoveryCases ++ [observingCase newId order] },
      some (observingCase newId order))
  else .error refused

end Ledger

/-- `_case_row`; the observation window of a case under the contract is the trigger's. -/
def caseRow (found : Option RecoveryCase) (created : Bool) :
    Except ProjectionError (String × Bool) := do
  let c ← someOr found (.runtime "recovery case lookup returned an unexpected row shape")
  raiseIf (c.observationContractVersion ≠ 1)
    (.evidence "recovery case lacks trusted observation contract")
  return (c.id, created)

/-- The case of a projected failure: the open one for an event that is not the first, and
otherwise a new one where none is open. -/
def failureCase (ledger : Ledger) (target : CaptureTarget) (marker : Option String)
    (eventRecordId newId : String) : Except ProjectionError (Ledger × Option (String × Bool)) :=
  if target.order.canonicalTruth ∉ safeRecoveryTruths then .ok (ledger, none)
  else if target.payment.status = .failed ∧ marker ≠ none ∧ marker ≠ some eventRecordId then
    match ledger.openCase target.order with
    | none => .ok (ledger, none)
    | some open_ => do
      let row ← caseRow (some open_) false
      return (ledger, some row)
  else do
    raiseIf (¬isUlid newId) (.runtime "case_id_factory returned an invalid ULID")
    let (inserted, created) ← ledger.insertObservingCase target.order newId
    match created with
    | some c => do
      let row ← caseRow (some c) true
      return (inserted, some row)
    | none => do
      let row ← caseRow (inserted.openCase target.order) false
      return (inserted, some row)

/-- The payment is written, unless it has failed before and is marked. -/
def Ledger.markFailed (ledger : Ledger) (plan : FailurePlan) (marker : Option String)
    (eventRecordId : String) (occurredAt : Timestamp) : Except ProjectionError Ledger :=
  if plan.target.payment.status ≠ .failed ∨ marker = none then
    ledger.projectPaymentFailed plan eventRecordId occurredAt
  else .ok ledger

/-- The part of `project` behind the started inbox row. -/
def carryOutFailure (ledger : Ledger) (plan : FailurePlan) (eventRecordId newId : String)
    (occurredAt : Timestamp) : Except ProjectionError (Ledger × ProjectionResult) := do
  let marker ← plan.target.payment.marker
  let projected ← ledger.markFailed plan marker eventRecordId occurredAt
  let (cased, row) ← failureCase projected plan.target marker eventRecordId newId
  return (cased, {
    disposition := .processed
    recoveryCaseId := row.map Prod.fst
    recoveryCaseCreated := row.any Prod.snd })

/-! ## What carrying a failure out does -/

/-- The row of a payment after its failure was carried out: it is marked, unless it has
failed before and has a marker already. -/
def StoredPayment.afterFailure (p : StoredPayment) (marker : Option String)
    (payment : FailedPayment) (eventRecordId : String) (occurredAt : Timestamp) : StoredPayment :=
  if p.status ≠ .failed ∨ marker = none then p.fail payment eventRecordId occurredAt else p

/-- The case of a failure is a new one: none is open, the order is not known to be paid,
and no other event has marked the payment. -/
structure OpensCase (ledger : Ledger) (target : CaptureTarget) (marker : Option String)
    (eventRecordId newId : String) : Prop where
  unmarked : ¬(target.payment.status = .failed ∧ marker ≠ none ∧ marker ≠ some eventRecordId)
  none_open : ledger.openCase target.order = none
  safe : (ledger.order target.order.id).any fun o =>
    decide (o.canonicalTruth ∈ safeRecoveryTruths)
  fresh : ∀ c ∈ ledger.recoveryCases, c.id ≠ newId

theorem insertObservingCase_ok {ledger after : Ledger} {order : LogicalOrder} {newId : String}
    {created : Option RecoveryCase}
    (h : ledger.insertObservingCase order newId = .ok (after, created)) :
    (after = ledger ∧ created = none ∧ (ledger.openCase order).isSome = true) ∨
      (after = { ledger with
          recoveryCases := ledger.recoveryCases ++ [observingCase newId order] } ∧
        created = some (observingCase newId order) ∧ ledger.openCase order = none ∧
        (∀ c ∈ ledger.recoveryCases, c.id ≠ newId) ∧
        (ledger.order order.id).any fun o => decide (o.canonicalTruth ∈ safeRecoveryTruths)) := by
  unfold Ledger.insertObservingCase at h
  split_ifs at h with hopen hknown hsafe
  · obtain ⟨rfl, rfl⟩ := Prod.mk.inj (Except.ok.inj h)
    exact .inl ⟨rfl, rfl, hopen⟩
  · obtain ⟨rfl, rfl⟩ := Prod.mk.inj (Except.ok.inj h)
    refine .inr ⟨rfl, rfl, by simpa using hopen, ?_, hsafe⟩
    intro c hc heq
    exact hknown (List.any_eq_true.mpr ⟨c, hc, by simpa using heq⟩)

theorem caseRow_ok {found : Option RecoveryCase} {created : Bool} {row : String × Bool}
    (h : caseRow found created = .ok row) : row.2 = created := by
  obtain ⟨c, -, h⟩ := bind_ok_iff.mp h
  obtain ⟨-, -, h⟩ := bind_ok_iff.mp h
  rw [← pure_ok_iff.mp h]

/-- The case of a failure is none, one that is open, or a new one. -/
theorem failureCase_ok {ledger after : Ledger} {target : CaptureTarget} {marker : Option String}
    {eventRecordId newId : String} {row : Option (String × Bool)}
    (h : failureCase ledger target marker eventRecordId newId = .ok (after, row)) :
    (after = ledger ∧ row.any Prod.snd = false) ∨
      OpensCase ledger target marker eventRecordId newId ∧
        after = { ledger with
          recoveryCases := ledger.recoveryCases ++ [observingCase newId target.order] } ∧
        row.any Prod.snd = true := by
  unfold failureCase at h
  by_cases htruth : target.order.canonicalTruth ∉ safeRecoveryTruths
  · rw [if_pos htruth] at h
    obtain ⟨rfl, rfl⟩ := Prod.mk.inj (Except.ok.inj h)
    exact .inl ⟨rfl, rfl⟩
  rw [if_neg htruth] at h
  by_cases hmarked : target.payment.status = .failed ∧ marker ≠ none ∧ marker ≠ some eventRecordId
  · rw [if_pos hmarked] at h
    cases hopen : ledger.openCase target.order with
    | none =>
      rw [hopen] at h
      obtain ⟨rfl, rfl⟩ := Prod.mk.inj (Except.ok.inj h)
      exact .inl ⟨rfl, rfl⟩
    | some c =>
      rw [hopen] at h
      obtain ⟨found, hfound, h⟩ := bind_ok_iff.mp h
      obtain ⟨rfl, rfl⟩ := Prod.mk.inj (pure_ok_iff.mp h)
      exact .inl ⟨rfl, caseRow_ok hfound⟩
  · rw [if_neg hmarked] at h
    obtain ⟨-, -, h⟩ := bind_ok_iff.mp h
    obtain ⟨⟨inserted, created⟩, hinserted, h⟩ := bind_ok_iff.mp h
    rcases insertObservingCase_ok hinserted with ⟨rfl, rfl, -⟩ |
      ⟨rfl, rfl, hopen, hfresh, hsafe⟩
    · obtain ⟨found, hfound, h⟩ := bind_ok_iff.mp h
      obtain ⟨rfl, rfl⟩ := Prod.mk.inj (pure_ok_iff.mp h)
      exact .inl ⟨rfl, caseRow_ok hfound⟩
    · obtain ⟨found, hfound, h⟩ := bind_ok_iff.mp h
      obtain ⟨rfl, rfl⟩ := Prod.mk.inj (pure_ok_iff.mp h)
      exact .inr ⟨⟨hmarked, hopen, hsafe, hfresh⟩, rfl, caseRow_ok hfound⟩

/-- The books after a failure was carried out: the payment is marked, and a case may be new. -/
theorem carryOutFailure_ok {ledger after : Ledger} {plan : FailurePlan}
    {eventRecordId newId : String} {occurredAt : Timestamp} {result : ProjectionResult}
    (hkeyed : ledger.Keyed) (hmem : plan.target.payment ∈ ledger.providerPayments)
    (h : carryOutFailure ledger plan eventRecordId newId occurredAt = .ok (after, result)) :
    ∃ marker, plan.target.payment.marker = .ok marker ∧
      after.logicalOrders = ledger.logicalOrders ∧
      after.recoveryInstruments = ledger.recoveryInstruments ∧
      after.providerPayments = Table.put (fun p : StoredPayment => p.id)
        (plan.target.payment.afterFailure marker plan.payment eventRecordId occurredAt)
        ledger.providerPayments ∧
      ((after.recoveryCases = ledger.recoveryCases ∧ result.recoveryCaseCreated = false) ∨
        OpensCase ledger plan.target marker eventRecordId newId ∧
          after.recoveryCases =
            ledger.recoveryCases ++ [observingCase newId plan.target.order] ∧
          result.recoveryCaseCreated = true) := by
  have hfind : Table.find (fun p : StoredPayment => p.id) plan.target.payment.id
      ledger.providerPayments = some plan.target.payment := Table.find_of_mem hkeyed.payments hmem
  unfold carryOutFailure at h
  obtain ⟨marker, hmarker, h⟩ := bind_ok_iff.mp h
  obtain ⟨projected, hprojected, h⟩ := bind_ok_iff.mp h
  obtain ⟨⟨cased, row⟩, hcased, h⟩ := bind_ok_iff.mp h
  obtain ⟨rfl, rfl⟩ := Prod.mk.inj (pure_ok_iff.mp h)
  -- the payment's row, whether it is written or not
  have hrows : projected = { ledger with
      providerPayments := Table.put (fun p : StoredPayment => p.id)
        (plan.target.payment.afterFailure marker plan.payment eventRecordId occurredAt)
        ledger.providerPayments } := by
    unfold StoredPayment.afterFailure
    unfold Ledger.markFailed at hprojected
    by_cases hmarks : plan.target.payment.status ≠ .failed ∨ marker = none
    · rw [if_pos hmarks] at hprojected ⊢
      obtain ⟨row, hrow, -, -, rfl⟩ := Ledger.updatePayment_ok_iff.mp hprojected
      obtain rfl := Option.some.inj (hfind.symm.trans hrow)
      rfl
    · rw [if_neg hmarks] at hprojected ⊢
      rw [← Except.ok.inj hprojected, Table.put_of_find hkeyed.payments hfind]
  refine ⟨marker, hmarker, ?_⟩
  rcases failureCase_ok hcased with ⟨rfl, hrow⟩ | ⟨hopens, rfl, hrow⟩
  · rw [hrows]
    exact ⟨rfl, rfl, rfl, .inl ⟨rfl, hrow⟩⟩
  · rw [hrows] at hopens ⊢
    exact ⟨rfl, rfl, rfl,
      .inr ⟨⟨hopens.unmarked, hopens.none_open, hopens.safe, hopens.fresh⟩, rfl, hrow⟩⟩

end Retrywise.ControlPlane
