import Retrywise.ControlPlane.TerminalSteps

/-!
# Steps of the money machine

What one transaction of any of the writers leaves of the money rows (`MoneyOutcome`): an
event is stored, a projection of either projector is one of its outcomes, an enrichment
observes the rows it has loaded, and a case is moved as far as the triggers let it.

> Every step keeps the keys of the tables and what their rows refer to
> (`MoneyOutcome.keyed`, `MoneyOutcome.related`).
-/

namespace Retrywise.ControlPlane

open Retrywise.Foundation Retrywise.Domain

/-! ## Failures -/

/-- The event says that a payment has failed. -/
def ProviderEvent.Fails (event : ProviderEvent CanonicalEvent) (payment : FailedPayment) : Prop :=
  event.eventType = .paymentFailed ∧
    ∃ canonical, event.canonical = .ok canonical ∧ canonical.failed = .ok payment

theorem ProviderEvent.Fails.unique {event : ProviderEvent CanonicalEvent} {a b : FailedPayment}
    (ha : event.Fails a) (hb : event.Fails b) : a = b := by
  obtain ⟨-, x, hx, hxa⟩ := ha
  obtain ⟨-, y, hy, hyb⟩ := hb
  obtain rfl := Except.ok.inj (hx.symm.trans hy)
  exact Except.ok.inj (hxa.symm.trans hyb)

/-- What a projection of a failure leaves of the money rows. -/
inductive FailureOutcome (d : EventDelivery) (stored : StoredEvent CanonicalEvent)
    (books : MoneyBooks) : Ledger → ProjectionResult → Prop
  | passed (result : ProjectionResult) (hresult : result.recoveryCaseCreated = false) :
      FailureOutcome d stored books books.ledger result
  | failed (payment : FailedPayment) (providerOrderId : String) (target : CaptureTarget)
      (after : Ledger) (result : ProjectionResult) (hopen : books.Open stored)
      (hevent : stored.event.Fails payment)
      (hprovider : payment.providerOrderId = some providerOrderId)
      (htarget : books.ledger.captureTarget payment.providerPaymentId = some target)
      (haccepted : failureRefusal target payment providerOrderId
        stored.event.providerOccurredAt = none)
      (hcarried : carryOutFailure books.ledger ⟨payment, target⟩ stored.event.id d.newId
        stored.event.providerOccurredAt = .ok (after, result)) :
      FailureOutcome d stored books after result

/-- A prepared failure leaves the books, and its work is on a payment it may fail. -/
theorem prepareFailure_ok {ledger : Ledger} {payment : FailedPayment} {occurredAt : Timestamp}
    {plan : FailurePlan} (h : prepareFailure ledger payment occurredAt = .ok (.work plan)) :
    plan.payment = payment ∧
      ledger.captureTarget payment.providerPaymentId = some plan.target ∧
      ∃ providerOrderId, payment.providerOrderId = some providerOrderId ∧
        failureRefusal plan.target payment providerOrderId occurredAt = none := by
  unfold prepareFailure at h
  cases hprovider : payment.providerOrderId with
  | none =>
    rw [hprovider] at h
    exact absurd (Except.ok.inj h) (by simp)
  | some providerOrderId =>
    rw [hprovider] at h
    dsimp only at h
    cases htarget : ledger.captureTarget payment.providerPaymentId with
    | none =>
      rw [htarget] at h
      obtain ⟨enrichment, -, h⟩ := bind_ok_iff.mp h
      exact absurd (pure_ok_iff.mp h) (by simp)
    | some target =>
      rw [htarget] at h
      dsimp only at h
      cases hrefusal : failureRefusal target payment providerOrderId occurredAt with
      | some reason =>
        rw [hrefusal] at h
        exact absurd (Except.ok.inj h) (by simp)
      | none =>
        rw [hrefusal] at h
        obtain rfl := Prepared.work.inj (Except.ok.inj h)
        exact ⟨rfl, rfl, providerOrderId, rfl, hrefusal⟩

theorem normalized_project_ok {d : EventDelivery} {books after : MoneyBooks}
    {result : ProjectionResult} (h : normalizedProjector.project d books = .ok (after, result)) :
    ∃ stored, books.storedEvent d.eventRecordId = some stored ∧
      FailureOutcome d stored books after.ledger result := by
  have hplanned : ∀ {stored : StoredEvent CanonicalEvent} {ledger : Ledger}
      {prepared : Prepared FailurePlan},
      normalizedProjector.plan d books stored = .ok (ledger, prepared) →
      ledger = books.ledger ∧ ∀ plan, prepared = .work plan →
        books.reusesBody stored.event = false ∧ stored.event.Fails plan.payment ∧
          prepareFailure books.ledger plan.payment stored.event.providerOccurredAt =
            .ok (.work plan) := by
    intro stored ledger prepared hplan
    rcases Projector.plan_ok hplan with ⟨-, rfl, rfl⟩ | ⟨hfirst, canonical, hcanonical, hprepare⟩
    · exact ⟨rfl, fun plan h => absurd h (by simp)⟩
    · have hprepare : (if stored.event.eventType ≠ .paymentFailed then
          .ok (books.ledger, .ignored "unsupported_event_type")
          else do
            let payment ← canonical.failed
            let prepared ← prepareFailure books.ledger payment stored.event.providerOccurredAt
            return (books.ledger, prepared)) = Except.ok (ledger, prepared) := hprepare
      by_cases htype : stored.event.eventType ≠ .paymentFailed
      · rw [if_pos htype] at hprepare
        obtain ⟨rfl, rfl⟩ := Prod.mk.inj (Except.ok.inj hprepare)
        exact ⟨rfl, fun plan h => absurd h (by simp)⟩
      · rw [if_neg htype] at hprepare
        obtain ⟨payment, hpayment, hprepare⟩ := bind_ok_iff.mp hprepare
        obtain ⟨work, hwork, hpure⟩ := bind_ok_iff.mp hprepare
        obtain ⟨rfl, rfl⟩ := Prod.mk.inj (pure_ok_iff.mp hpure)
        refine ⟨rfl, ?_⟩
        rintro plan rfl
        obtain ⟨rfl, -⟩ := prepareFailure_ok hwork
        exact ⟨hfirst, ⟨not_not.mp htype, canonical, hcanonical, hpayment⟩, hwork⟩
  cases project_ok h with
  | settled stored hstored _ =>
    refine ⟨stored, hstored, .passed _ ?_⟩
    unfold Projector.previously
    cases stored.inbox.status <;> rfl
  | exhausted stored ledger prepared inbox hstored _ hplan _ =>
    obtain ⟨rfl, -⟩ := hplanned hplan
    exact ⟨stored, hstored, .passed _ rfl⟩
  | ignored stored ledger reason inbox hstored _ hplan _ =>
    obtain ⟨rfl, -⟩ := hplanned hplan
    exact ⟨stored, hstored, .passed _ rfl⟩
  | deferred stored ledger reason enrichment inbox hstored _ hplan _ =>
    obtain ⟨rfl, -⟩ := hplanned hplan
    exact ⟨stored, hstored, .passed _ rfl⟩
  | moved stored ledger moved plan inbox result hstored hunsettled hplan hattempts hmoved _ =>
    obtain ⟨rfl, hwork⟩ := hplanned hplan
    obtain ⟨hfirst, hevent, hprepared⟩ := hwork plan rfl
    obtain ⟨-, htarget, providerOrderId, hprovider, haccepted⟩ := prepareFailure_ok hprepared
    exact ⟨stored, hstored, .failed plan.payment providerOrderId plan.target moved result
      ⟨hunsettled, hattempts, hfirst⟩ hevent hprovider htarget haccepted hmoved⟩

/-! ## Steps -/

/-- What a command leaves of the money rows. -/
inductive MoneyOutcome (referenceIdOf : String → String) (books : MoneyBooks) :
    MoneyCommand → Ledger → Option ProjectionResult → Prop
  | stored (event : ProviderEvent CanonicalEvent) :
      MoneyOutcome referenceIdOf books (.store event) books.ledger none
  | terminal (d : EventDelivery) (stored : StoredEvent CanonicalEvent) (after : Ledger)
      (result : ProjectionResult) (hstored : books.storedEvent d.eventRecordId = some stored)
      (h : TerminalOutcome referenceIdOf d stored books after result) :
      MoneyOutcome referenceIdOf books (.projectTerminal d) after (some result)
  | normalized (d : EventDelivery) (stored : StoredEvent CanonicalEvent) (after : Ledger)
      (result : ProjectionResult) (hstored : books.storedEvent d.eventRecordId = some stored)
      (h : FailureOutcome d stored books after result) :
      MoneyOutcome referenceIdOf books (.projectNormalized d) after (some result)
  | enriched (e : Enrichment) (idOk : isUlid e.newPaymentId = true) (order : LogicalOrder)
      (payment : StoredPayment)
      (hloads : e.Loads (e.found idOk order.id books.ledger) order payment) :
      MoneyOutcome referenceIdOf books (.enrich e)
        (e.observe (e.found idOk order.id books.ledger) order payment) none
  | movedCase (id : String) (moved : CaseRow) (c : RecoveryCase)
      (hcase : Table.find RecoveryCase.id id books.ledger.recoveryCases = some c)
      (hadmits : admitsCase (books.ledger.truthOfCase c) c.toCaseRow moved = true) :
      MoneyOutcome referenceIdOf books (.moveCase id moved)
        { books.ledger with
          recoveryCases := Table.put RecoveryCase.id { c with toCaseRow := moved }
            books.ledger.recoveryCases } none

section

variable {referenceIdOf : String → String}

/-- Storing an event leaves the money rows. -/
theorem storeOnce_ok {books after : MoneyBooks} {event : ProviderEvent CanonicalEvent}
    (h : books.storeOnce event = .ok after) : after.ledger = books.ledger := by
  unfold Books.storeOnce at h
  split at h
  next known _ =>
    split_ifs at h
    rw [← Except.ok.inj h]
  next =>
    split_ifs at h
    rw [← Except.ok.inj h]

theorem moneyExec_inTurn {init mid final : MoneyBooks}
    {first second : MoneyCommand}
    (h : (moneyMachine referenceIdOf).InTurn init first second mid final) :
    ∃ x y, moneyExec referenceIdOf init first = .ok (mid, x) ∧
      moneyExec referenceIdOf mid second = .ok (final, y) := h

theorem moneyExec_enrich {books after : MoneyBooks}
    {e : Enrichment} {out : Option ProjectionResult}
    (h : moneyExec referenceIdOf books (.enrich e) = .ok (after, out)) :
    ∃ ledger, e.persist books.ledger = .ok ledger ∧ after = { books with ledger := ledger } := by
  obtain ⟨ledger, hledger, hpure⟩ := bind_ok_iff.mp h
  exact ⟨ledger, hledger, ((Prod.mk.inj (pure_ok_iff.mp hpure)).1).symm⟩

theorem moneyExec_terminal {books after : MoneyBooks}
    {d : EventDelivery} {out : Option ProjectionResult}
    (h : moneyExec referenceIdOf books (.projectTerminal d) = .ok (after, out)) :
    ∃ result, (terminalProjector referenceIdOf).project d books = .ok (after, result) := by
  obtain ⟨⟨projected, result⟩, hproject, hpure⟩ := bind_ok_iff.mp h
  obtain ⟨rfl, -⟩ := Prod.mk.inj (pure_ok_iff.mp hpure)
  exact ⟨result, hproject⟩

theorem moneyExec_normalized {books after : MoneyBooks} {d : EventDelivery}
    {out : Option ProjectionResult}
    (h : moneyExec referenceIdOf books (.projectNormalized d) = .ok (after, out)) :
    ∃ result, normalizedProjector.project d books = .ok (after, result) := by
  obtain ⟨⟨projected, result⟩, hproject, hpure⟩ := bind_ok_iff.mp h
  obtain ⟨rfl, -⟩ := Prod.mk.inj (pure_ok_iff.mp hpure)
  exact ⟨result, hproject⟩

/-- Every transaction that commits has one of the outcomes. -/
theorem moneyExec_ok {books after : MoneyBooks} {command : MoneyCommand}
    {out : Option ProjectionResult} (hkeyed : books.ledger.Keyed)
    (h : moneyExec referenceIdOf books command = .ok (after, out)) :
    MoneyOutcome referenceIdOf books command after.ledger out := by
  cases command with
  | store event =>
    obtain ⟨stored, hstored, hpure⟩ := bind_ok_iff.mp h
    obtain ⟨rfl, rfl⟩ := Prod.mk.inj (pure_ok_iff.mp hpure)
    rw [storeOnce_ok hstored]
    exact .stored event
  | projectTerminal d =>
    obtain ⟨⟨books, result⟩, hbooks, hpure⟩ := bind_ok_iff.mp h
    obtain ⟨rfl, rfl⟩ := Prod.mk.inj (pure_ok_iff.mp hpure)
    obtain ⟨stored, hstored, houtcome⟩ := terminal_project_ok hkeyed hbooks
    exact .terminal d stored _ result hstored houtcome
  | projectNormalized d =>
    obtain ⟨⟨books, result⟩, hbooks, hpure⟩ := bind_ok_iff.mp h
    obtain ⟨rfl, rfl⟩ := Prod.mk.inj (pure_ok_iff.mp hpure)
    obtain ⟨stored, hstored, houtcome⟩ := normalized_project_ok hbooks
    exact .normalized d stored _ result hstored houtcome
  | enrich e =>
    obtain ⟨ledger, hledger, hpure⟩ := bind_ok_iff.mp h
    obtain ⟨rfl, rfl⟩ := Prod.mk.inj (pure_ok_iff.mp hpure)
    obtain ⟨idOk, order, payment, hloads, rfl⟩ := Enrichment.persist_ok hkeyed hledger
    exact .enriched e idOk order payment hloads
  | moveCase id moved =>
    obtain ⟨ledger, hledger, hpure⟩ := bind_ok_iff.mp h
    obtain ⟨rfl, rfl⟩ := Prod.mk.inj (pure_ok_iff.mp hpure)
    obtain ⟨c, hcase, -, hadmits, rfl⟩ := Ledger.updateCase_ok_iff.mp hledger
    exact .movedCase id moved c hcase hadmits

/-- Every step of the machine has one of the outcomes. -/
theorem money_step {s : MoneyStep} (hkeyed : s.pre.ledger.Keyed)
    (htakes : (moneyMachine referenceIdOf).Takes s) :
    MoneyOutcome referenceIdOf s.pre s.cmd s.post.ledger s.out :=
  moneyExec_ok hkeyed htakes

end

/-! ## What every step keeps -/

/-- What a failure leaves of a payment's row: its keys and what it refers to. -/
theorem StoredPayment.afterFailure_terms (p : StoredPayment) (marker : Option String)
    (payment : FailedPayment) (eventRecordId : String) (occurredAt : Timestamp) :
    (p.afterFailure marker payment eventRecordId occurredAt).id = p.id ∧
      (p.afterFailure marker payment eventRecordId occurredAt).providerPaymentId =
        p.providerPaymentId ∧
      (p.afterFailure marker payment eventRecordId occurredAt).orderRef = p.orderRef := by
  unfold StoredPayment.afterFailure
  split_ifs
  · exact ⟨rfl, rfl, rfl⟩
  · exact ⟨rfl, rfl, rfl⟩

section

variable {ledger after : Ledger} {plan : FailurePlan} {eventRecordId newId : String}
  {occurredAt : Timestamp} {result : ProjectionResult}

theorem keyed_carryOutFailure (hkeyed : ledger.Keyed)
    (hmem : plan.target.payment ∈ ledger.providerPayments)
    (h : carryOutFailure ledger plan eventRecordId newId occurredAt = .ok (after, result)) :
    after.Keyed := by
  obtain ⟨marker, -, horders, hinstruments, hpayments, hcases⟩ := carryOutFailure_ok hkeyed hmem h
  obtain ⟨hid, hproviderId, -⟩ :=
    plan.target.payment.afterFailure_terms marker plan.payment eventRecordId occurredAt
  refine ⟨?_, ?_, ?_, ?_, ?_⟩
  · rw [horders]
    exact hkeyed.orders
  · rw [hpayments]
    exact Table.keyed_put hkeyed.payments
  · have hsame := Table.map_put (f := fun p : StoredPayment => p.providerPaymentId)
      (g := fun p : StoredPayment => p.providerPaymentId) hkeyed.payments hmem hid hproviderId
      fun _ _ _ => rfl
    unfold Table.Keyed
    rw [hpayments, hsame]
    exact hkeyed.providerPayments
  · rw [hinstruments]
    exact hkeyed.instruments
  · rcases hcases with ⟨hsame, -⟩ | ⟨hopens, hnew, -⟩
    · rw [hsame]
      exact hkeyed.cases
    · rw [hnew]
      exact Table.keyed_concat hkeyed.cases hopens.fresh

theorem related_carryOutFailure (hkeyed : ledger.Keyed) (hrelated : ledger.Related)
    (hmem : plan.target.payment ∈ ledger.providerPayments)
    (horder : plan.target.order ∈ ledger.logicalOrders)
    (h : carryOutFailure ledger plan eventRecordId newId occurredAt = .ok (after, result)) :
    after.Related := by
  obtain ⟨marker, -, horders, hinstruments, hpayments, hcases⟩ := carryOutFailure_ok hkeyed hmem h
  obtain ⟨hid, -, href⟩ :=
    plan.target.payment.afterFailure_terms marker plan.payment eventRecordId occurredAt
  have hsame := Table.map_put (f := StoredPayment.orderRef) (g := StoredPayment.orderRef)
    hkeyed.payments hmem hid href fun _ _ _ => rfl
  refine ⟨?_, ?_, ?_⟩
  · rw [hpayments, hsame, horders]
    exact hrelated.payments
  · rw [horders]
    rcases hcases with ⟨hsame, -⟩ | ⟨-, hnew, -⟩
    · rw [hsame]
      exact hrelated.cases
    · rw [hnew, List.map_append]
      refine List.append_subset.mpr ⟨hrelated.cases, ?_⟩
      intro ref href
      rw [List.map_singleton, List.mem_singleton] at href
      rw [href]
      exact List.mem_map_of_mem (f := LogicalOrder.dueTerms) horder
  · rw [hinstruments]
    rcases hcases with ⟨hsame, -⟩ | ⟨-, hnew, -⟩
    · rw [hsame]
      exact hrelated.instruments
    · rw [hnew, List.map_append]
      exact List.subset_append_of_subset_left _ hrelated.instruments

end

namespace Enrichment

variable {e : Enrichment} {ledger : Ledger} {order : LogicalOrder} {payment : StoredPayment}

theorem keyed_observe (hkeyed : ledger.Keyed) (hpayment : payment ∈ ledger.providerPayments) :
    (e.observe ledger order payment).Keyed := by
  unfold observe
  refine ⟨?_, ?_, ?_, hkeyed.instruments, hkeyed.cases⟩
  · show Table.Keyed _ (if _ then _ else _)
    split_ifs
    · exact Table.keyed_put hkeyed.orders
    · exact hkeyed.orders
  · show Table.Keyed _ (if _ then _ else _)
    split_ifs
    · exact Table.keyed_put hkeyed.payments
    · exact hkeyed.payments
  · show Table.Keyed _ (if _ then _ else _)
    split_ifs
    · have hsame : (Table.put (fun p : StoredPayment => p.id)
          (payment.observe e.payment.toPaymentRecordFields e.observedAt)
          ledger.providerPayments).map (fun p => p.providerPaymentId) =
          ledger.providerPayments.map fun p => p.providerPaymentId :=
        Table.map_put hkeyed.payments hpayment rfl rfl fun _ _ _ => rfl
      unfold Table.Keyed
      rw [hsame]
      exact hkeyed.providerPayments
    · exact hkeyed.providerPayments

/-- An observation leaves what the rows refer to. -/
theorem related_observe (hkeyed : ledger.Keyed) (hrelated : ledger.Related)
    (horder : order ∈ ledger.logicalOrders) (hpayment : payment ∈ ledger.providerPayments) :
    (e.observe ledger order payment).Related := by
  unfold observe
  have horders : ∀ {β : Type} (f : LogicalOrder → β),
      f (order.observe e.order.amountPaidMinor e.observedAt) = f order →
      (if e.appliesToOrder order then
        Table.put LogicalOrder.id (order.observe e.order.amountPaidMinor e.observedAt)
          ledger.logicalOrders
      else ledger.logicalOrders).map f = ledger.logicalOrders.map f := by
    intro β f hf
    split_ifs
    · exact Table.map_put hkeyed.orders horder rfl hf fun _ _ _ => rfl
    · rfl
  refine hrelated.of_same (horders _ rfl) (horders _ rfl) ?_ rfl rfl rfl
  show List.map _ (if _ then _ else _) = _
  split_ifs
  · exact Table.map_put hkeyed.payments hpayment rfl rfl fun _ _ _ => rfl
  · rfl

/-- The payment of an enrichment refers to its order. -/
theorem related_found {idOk : isUlid e.newPaymentId = true} (hrelated : ledger.Related)
    (hloads : e.Loads (e.found idOk order.id ledger) order payment) :
    (e.found idOk order.id ledger).Related := by
  have hinsert : (e.insertOrder ledger).Related := by
    unfold insertOrder
    split_ifs
    · exact hrelated
    · refine ⟨?_, ?_, hrelated.instruments⟩
      · rw [List.map_append]
        exact List.subset_append_of_subset_left _ hrelated.payments
      · rw [List.map_append]
        exact List.subset_append_of_subset_left _ hrelated.cases
  have horder : order ∈ (e.insertOrder ledger).logicalOrders := by
    have hmem := List.mem_of_find?_eq_some hloads.orderFound
    unfold found at hmem
    rwa [logicalOrders_insertPayment] at hmem
  unfold found insertPayment
  split_ifs
  · exact hinsert
  · refine ⟨?_, hinsert.cases, hinsert.instruments⟩
    rw [List.map_append]
    refine List.append_subset.mpr ⟨hinsert.payments, ?_⟩
    intro ref href
    rw [List.map_singleton, List.mem_singleton] at href
    rw [href]
    refine List.mem_map.mpr ⟨order, horder, ?_⟩
    rw [LogicalOrder.moneyTerms, hloads.currency]
    rfl

end Enrichment

namespace MoneyOutcome

variable {referenceIdOf : String → String} {books : MoneyBooks} {command : MoneyCommand}
  {after : Ledger} {out : Option ProjectionResult}

theorem keyed (h : MoneyOutcome referenceIdOf books command after out)
    (hkeyed : books.ledger.Keyed) : after.Keyed := by
  cases h with
  | stored event => exact hkeyed
  | terminal d stored after result _ h => exact h.keyed hkeyed
  | normalized d stored after result _ h =>
    cases h with
    | passed => exact hkeyed
    | failed payment providerOrderId target after result _ _ _ htarget _ hcarried =>
      exact keyed_carryOutFailure hkeyed (Ledger.captureTarget_rows htarget).1 hcarried
  | enriched e idOk order payment hloads =>
    exact Enrichment.keyed_observe
      (Enrichment.keyed_insertPayment (Enrichment.keyed_insertOrder hkeyed))
      (List.mem_of_find?_eq_some hloads.paymentFound)
  | movedCase id moved c hcase _ =>
    exact { hkeyed with cases := Table.keyed_put hkeyed.cases }

theorem related (h : MoneyOutcome referenceIdOf books command after out)
    (hkeyed : books.ledger.Keyed) (hrelated : books.ledger.Related) : after.Related := by
  cases h with
  | stored event => exact hrelated
  | terminal d stored after result _ h => exact h.related hkeyed hrelated
  | normalized d stored after result _ h =>
    cases h with
    | passed => exact hrelated
    | failed payment providerOrderId target after result _ _ _ htarget _ hcarried =>
      obtain ⟨hmem, -, horder, -⟩ := Ledger.captureTarget_rows htarget
      exact related_carryOutFailure hkeyed hrelated (by exact hmem)
        (by exact Table.mem_of_find horder) hcarried
  | enriched e idOk order payment hloads =>
    exact Enrichment.related_observe
      (Enrichment.keyed_insertPayment (Enrichment.keyed_insertOrder hkeyed))
      (Enrichment.related_found hrelated hloads)
      (List.mem_of_find?_eq_some hloads.orderFound)
      (List.mem_of_find?_eq_some hloads.paymentFound)
  | movedCase id moved c hcase _ =>
    have hmem := Table.mem_of_find hcase
    refine hrelated.of_same rfl rfl rfl ?_ ?_ rfl
    · exact Table.map_put hkeyed.cases hmem rfl rfl fun _ _ _ => rfl
    · exact Table.map_put hkeyed.cases hmem rfl rfl fun _ _ _ => rfl

end MoneyOutcome

/-- Every step leaves the events that are settled. -/
theorem storedEvent_of_settled {referenceIdOf : String → String} {s : MoneyStep} {id : String}
    {settled : StoredEvent CanonicalEvent} (htakes : (moneyMachine referenceIdOf).Takes s)
    (hsettled : s.pre.storedEvent id = some settled)
    (hstatus : settled.inbox.status ∈ settledStatuses) :
    s.post.storedEvent id = some settled := by
  obtain ⟨pre, cmd, post, out⟩ := s
  cases cmd with
  | store event =>
    obtain ⟨stored, hstored, hpure⟩ := bind_ok_iff.mp htakes
    obtain ⟨rfl, rfl⟩ := Prod.mk.inj (pure_ok_iff.mp hpure)
    exact Books.storedEvent_storeOnce hstored hsettled
  | projectTerminal d =>
    obtain ⟨⟨books, result⟩, hbooks, hpure⟩ := bind_ok_iff.mp htakes
    obtain ⟨rfl, rfl⟩ := Prod.mk.inj (pure_ok_iff.mp hpure)
    exact Projector.storedEvent_of_settled hbooks hsettled hstatus
  | projectNormalized d =>
    obtain ⟨⟨books, result⟩, hbooks, hpure⟩ := bind_ok_iff.mp htakes
    obtain ⟨rfl, rfl⟩ := Prod.mk.inj (pure_ok_iff.mp hpure)
    exact Projector.storedEvent_of_settled hbooks hsettled hstatus
  | enrich e =>
    obtain ⟨ledger, -, hpure⟩ := bind_ok_iff.mp htakes
    have hpost := (Prod.mk.inj (pure_ok_iff.mp hpure)).1
    rw [← hpost]
    exact hsettled
  | moveCase id moved =>
    obtain ⟨ledger, -, hpure⟩ := bind_ok_iff.mp htakes
    have hpost := (Prod.mk.inj (pure_ok_iff.mp hpure)).1
    rw [← hpost]
    exact hsettled

/-! ## The row of a payment -/

namespace Ledger

variable {ledger : Ledger} {old new : StoredPayment} {providerPaymentId : String}

/-- The row of a payment after one row is replaced. -/
theorem payment_put (hkeyed : ledger.Keyed) (hold : old ∈ ledger.providerPayments)
    (hid : new.id = old.id) (hprovider : new.providerPaymentId = old.providerPaymentId) :
    { ledger with
      providerPayments :=
        Table.put (fun p : StoredPayment => p.id) new ledger.providerPayments }.payment
          providerPaymentId =
      if providerPaymentId = old.providerPaymentId then some new
      else ledger.payment providerPaymentId := by
  have hsame : ∀ other ∈ ledger.providerPayments, other.id = new.id →
      decide (other.providerPaymentId = providerPaymentId) =
        decide (new.providerPaymentId = providerPaymentId) := by
    intro other hother heq
    rw [hkeyed.payments.eq_of_key hother hold (heq.trans hid), hprovider]
  unfold payment
  rw [@Table.find?_put _ _ _ (fun p : StoredPayment => p.id) _ _ _ hsame]
  by_cases hsought : providerPaymentId = old.providerPaymentId
  · have hfind := Table.find_of_mem hkeyed.providerPayments hold
    unfold Table.find at hfind
    rw [if_pos hsought, hsought, hfind, Option.map_some, if_pos hid.symm]
  · rw [if_neg hsought]
    cases hfound : ledger.providerPayments.find? fun p => p.providerPaymentId = providerPaymentId with
    | none => rfl
    | some other =>
      have hother : other.providerPaymentId = providerPaymentId := by
        simpa using List.find?_some hfound
      rw [Option.map_some, if_neg]
      intro heq
      rw [hkeyed.payments.eq_of_key (List.mem_of_find?_eq_some hfound) hold (heq.trans hid)]
        at hother
      exact hsought hother.symm

/-- A row that is on the books is found whatever comes behind it. -/
theorem payment_append {added : List StoredPayment}
    (h : ledger.payment providerPaymentId = some old) :
    { ledger with providerPayments := ledger.providerPayments ++ added }.payment
      providerPaymentId = some old := by
  unfold payment at h ⊢
  rw [List.find?_append, h]
  rfl

end Ledger

/-- What a step does to the row of a payment: nothing, or a capture, a failure or an
enrichment of it is written. -/
inductive PaymentMove (books : MoneyBooks) (p : StoredPayment) : MoneyCommand → StoredPayment → Prop
  | same (command : MoneyCommand) : PaymentMove books p command p
  | captured (d : EventDelivery) (stored : StoredEvent CanonicalEvent)
      (payment : CapturedPayment) (target : CaptureTarget)
      (hstored : books.storedEvent d.eventRecordId = some stored) (hopen : books.Open stored)
      (hevent : stored.event.Captures payment)
      (hcapturable : books.ledger.Capturable target payment stored.event.providerOccurredAt)
      (htarget : target.payment = p) :
      PaymentMove books p (.projectTerminal d)
        (p.capture payment stored.event.id stored.event.providerOccurredAt)
  | failed (d : EventDelivery) (stored : StoredEvent CanonicalEvent) (payment : FailedPayment)
      (marker : Option String)
      (hstored : books.storedEvent d.eventRecordId = some stored) (hopen : books.Open stored)
      (hevent : stored.event.Fails payment)
      (hpayment : payment.providerPaymentId = p.providerPaymentId)
      (hstatus : p.status ∈ safePreFailurePaymentStates) (hmarker : p.marker = .ok marker) :
      PaymentMove books p (.projectNormalized d)
        (p.afterFailure marker payment stored.event.id stored.event.providerOccurredAt)
  | observed (e : Enrichment) (hpayment : e.command.providerPaymentId = p.providerPaymentId)
      (happlies : e.appliesToPayment p = true) :
      PaymentMove books p (.enrich e) (p.observe e.payment.toPaymentRecordFields e.observedAt)

/-- The row of a payment stays on the books, and moves in one of these ways. -/
theorem MoneyOutcome.payment {referenceIdOf : String → String} {books : MoneyBooks}
    {command : MoneyCommand} {after : Ledger} {out : Option ProjectionResult}
    {providerPaymentId : String} {p : StoredPayment}
    (h : MoneyOutcome referenceIdOf books command after out) (hkeyed : books.ledger.Keyed)
    (hp : books.ledger.payment providerPaymentId = some p) :
    ∃ later, after.payment providerPaymentId = some later ∧ PaymentMove books p command later := by
  have hpId : p.providerPaymentId = providerPaymentId := by simpa using List.find?_some hp
  have hpMem := List.mem_of_find?_eq_some hp
  -- a discovery that finds this payment has found it on the books
  have hdiscovered : ∀ {payment : CapturedPayment} {rid newId : String} {at_ : Timestamp}
      {found : Ledger}, books.ledger.Discovers payment rid newId at_ found →
      found.payment providerPaymentId = some p ∧
        (payment.providerPaymentId = providerPaymentId → found = books.ledger) := by
    intro payment rid newId at_ found hdiscovers
    cases hdiscovers with
    | known => exact ⟨hp, fun _ => rfl⟩
    | new order idOk _ _ hnone _ =>
      refine ⟨Ledger.payment_append hp, ?_⟩
      intro heq
      rw [heq, hp] at hnone
      exact absurd hnone (by simp)
  cases h with
  | stored event => exact ⟨p, hp, .same _⟩
  | terminal d stored after result hstored h =>
    cases h with
    | settled => exact ⟨p, hp, .same _⟩
    | passed _ _ _ hfound _ =>
      rcases hfound with rfl | ⟨payment, -, hdiscovers⟩
      · exact ⟨p, hp, .same _⟩
      · exact ⟨p, (hdiscovered hdiscovers).1, .same _⟩
    | captured found payment target hopen hevent hdiscovers hcapturable =>
      obtain ⟨hmem, htargetId, -, -⟩ := Ledger.captureTarget_rows hcapturable.found
      have hkeyedFound := hdiscovers.keyed hkeyed
      obtain ⟨hfoundP, hknown⟩ := hdiscovered hdiscovers
      have hput : (found.afterCapture target payment stored.event.id
          stored.event.providerOccurredAt d.now).payment providerPaymentId =
          if providerPaymentId = target.payment.providerPaymentId then
            some (target.payment.capture payment stored.event.id
              stored.event.providerOccurredAt)
          else found.payment providerPaymentId :=
        Ledger.payment_put hkeyedFound hmem rfl rfl
      rw [hput]
      by_cases hsought : providerPaymentId = target.payment.providerPaymentId
      · rw [if_pos hsought]
        have hsame : found = books.ledger := hknown (htargetId.symm.trans hsought.symm)
        subst hsame
        have htarget : target.payment = p :=
          hkeyed.providerPayments.eq_of_key hmem hpMem (hsought.symm.trans hpId.symm)
        refine ⟨_, rfl, ?_⟩
        rw [htarget]
        exact .captured d stored payment target hstored hopen hevent hcapturable htarget
      · rw [if_neg hsought]
        exact ⟨p, hfoundP, .same _⟩
    | collected => exact ⟨p, hp, .same _⟩
  | normalized d stored after result hstored h =>
    cases h with
    | passed => exact ⟨p, hp, .same _⟩
    | failed payment providerOrderId target after result hopen hevent _ htarget haccepted
        hcarried =>
      obtain ⟨hmem, htargetId, -, -⟩ := Ledger.captureTarget_rows htarget
      obtain ⟨marker, hmarker, -, -, hpayments, -⟩ := carryOutFailure_ok hkeyed hmem hcarried
      obtain ⟨hid, hproviderId, -⟩ := target.payment.afterFailure_terms marker payment
        stored.event.id stored.event.providerOccurredAt
      have hput : after.payment providerPaymentId =
          if providerPaymentId = target.payment.providerPaymentId then
            some (target.payment.afterFailure marker payment stored.event.id
              stored.event.providerOccurredAt)
          else books.ledger.payment providerPaymentId := by
        unfold Ledger.payment
        rw [hpayments]
        exact Ledger.payment_put hkeyed hmem hid hproviderId
      rw [hput]
      by_cases hsought : providerPaymentId = target.payment.providerPaymentId
      · rw [if_pos hsought]
        have hsame : target.payment = p :=
          hkeyed.providerPayments.eq_of_key hmem hpMem (hsought.symm.trans hpId.symm)
        rw [hsame] at hmarker ⊢
        refine ⟨_, rfl, .failed d stored payment marker hstored hopen hevent ?_ ?_ hmarker⟩
        · rw [← hsame, htargetId]
        · rw [← hsame]
          exact status_of_failureRefusal haccepted
      · rw [if_neg hsought]
        exact ⟨p, hp, .same _⟩
  | enriched e idOk order payment hloads =>
    have hkeyedFound : (e.found idOk order.id books.ledger).Keyed :=
      Enrichment.keyed_insertPayment (Enrichment.keyed_insertOrder hkeyed)
    have hfoundP : (e.found idOk order.id books.ledger).payment providerPaymentId = some p := by
      unfold Enrichment.found Enrichment.insertPayment
      split_ifs
      · unfold Ledger.payment at hp ⊢
        rw [Enrichment.providerPayments_insertOrder]
        exact hp
      · refine Ledger.payment_append ?_
        unfold Ledger.payment at hp ⊢
        rw [Enrichment.providerPayments_insertOrder]
        exact hp
    have hpayment := hloads.paymentFound
    have hmem := List.mem_of_find?_eq_some hpayment
    have hloadedId : payment.providerPaymentId = e.command.providerPaymentId := by
      simpa using List.find?_some hpayment
    by_cases happlies : e.appliesToPayment payment = true
    · have hput : (e.observe (e.found idOk order.id books.ledger) order payment).payment
          providerPaymentId = if providerPaymentId = payment.providerPaymentId then
            some (payment.observe e.payment.toPaymentRecordFields e.observedAt)
          else (e.found idOk order.id books.ledger).payment providerPaymentId := by
        unfold Enrichment.observe Ledger.payment
        rw [if_pos happlies]
        exact Ledger.payment_put hkeyedFound hmem rfl rfl
      rw [hput]
      by_cases hsought : providerPaymentId = payment.providerPaymentId
      · rw [if_pos hsought]
        have hsame : payment = p := hkeyedFound.providerPayments.eq_of_key hmem
          (List.mem_of_find?_eq_some hfoundP) (hsought.symm.trans hpId.symm)
        rw [hsame] at happlies hloadedId ⊢
        exact ⟨_, rfl, .observed e hloadedId.symm happlies⟩
      · rw [if_neg hsought]
        exact ⟨p, hfoundP, .same _⟩
    · refine ⟨p, ?_, .same _⟩
      unfold Enrichment.observe Ledger.payment
      rw [if_neg happlies]
      exact hfoundP
  | movedCase => exact ⟨p, hp, .same _⟩

end Retrywise.ControlPlane
