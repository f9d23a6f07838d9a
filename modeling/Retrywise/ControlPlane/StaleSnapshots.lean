import Retrywise.ControlPlane.CapturesTaken
import Retrywise.ControlPlane.OpenCases

/-!
# Stale snapshots and captured money

An enrichment reads the provider first, and what it has read is written later, over a row
whose snapshot is not later than the clock of the writer. The clock says when it was
written, and not when it was read.

> A capture and an enrichment that has read the payment before it commute exactly where the
> enrichment's clock is behind the snapshot the capture leaves, and the row an enrichment
> that comes first leaves still takes the capture (`capture_survives_iff`).

The order is never taken back: its total only grows, and its truth with it.
-/

namespace Retrywise.ControlPlane

open Retrywise.Foundation Retrywise.Domain

/-! ## What is kept -/

/-- The payment is captured, with the money that was captured. -/
def Ledger.IsCaptured (ledger : Ledger) (payment : CapturedPayment) : Prop :=
  ∃ p, ledger.payment payment.providerPaymentId = some p ∧ p.status = .captured ∧
    p.capturedMinor = payment.amountMinor

/-- No money of the payment, and no total or rank of an order, has gone back. -/
structure Ledger.MoneyKept (before after : Ledger) (providerPaymentId : String) : Prop where
  payment : ∀ p, before.payment providerPaymentId = some p →
    ∃ later, after.payment providerPaymentId = some later ∧ p.capturedMinor ≤ later.capturedMinor
  orders : ∀ id o, before.order id = some o → ∃ later, after.order id = some later ∧
    o.capturedTotalMinor ≤ later.capturedTotalMinor ∧
    RankKept o.canonicalTruth later.canonicalTruth

/-- Two transactions have left the payment captured, and neither has taken money back. -/
structure CaptureSurvives (payment : CapturedPayment) (init mid final : MoneyBooks) : Prop where
  captured : final.ledger.IsCaptured payment
  first : init.ledger.MoneyKept mid.ledger payment.providerPaymentId
  second : mid.ledger.MoneyKept final.ledger payment.providerPaymentId

/-- The enrichment has read the payment and its order, and has read the payment before it
was captured. -/
structure Enrichment.ReadsBefore (e : Enrichment) (payment : CapturedPayment) : Prop where
  providerPaymentId : e.command.providerPaymentId = payment.providerPaymentId
  providerOrderId : e.command.providerOrderId = payment.providerOrderId
  amountMinor : e.command.amountMinor = payment.amountMinor
  currency : e.command.currency = payment.currency
  status : e.payment.status ∈ [PaymentStatus.created, .authorized, .failed]

/-- The rows take the capture or have it already, the enrichment's clock is behind the
snapshot it leaves, and an enrichment that comes first writes nothing, or a row the
capture agrees with. -/
def Withstands (books : MoneyBooks) (d : EventDelivery) (stored : StoredEvent CanonicalEvent)
    (payment : CapturedPayment) (e : Enrichment) : Prop :=
  ∃ found p, books.ledger.Discovers payment stored.event.id d.newId
      stored.event.providerOccurredAt found ∧
    found.payment payment.providerPaymentId = some p ∧
    ((∃ target, found.Capturable target payment stored.event.providerOccurredAt) ∨
      p.status = .captured ∧ p.capturedMinor = payment.amountMinor) ∧
    e.observedAt < max p.providerSnapshotAt stored.event.providerOccurredAt ∧
    (books.ledger.payment payment.providerPaymentId = some p ∧
        e.observedAt < p.providerSnapshotAt ∨
      p.capturedMinor = 0 ∧
        methodsAgree (some e.payment.paymentMethod) payment.paymentMethod = true)

/-! ## An enrichment -/

namespace Enrichment

variable {e : Enrichment} {ledger after : Ledger} {p : StoredPayment} {order : LogicalOrder}

/-- The row of a payment that is on the books: observed, where its snapshot is not later. -/
def observed (e : Enrichment) (p : StoredPayment) : StoredPayment :=
  if e.appliesToPayment p then p.observe e.payment.toPaymentRecordFields e.observedAt else p

/-- The payment that was read is on the books, or is put there. -/
theorem payment_found {idOk : isUlid e.newPaymentId = true} {orderId : String}
    (hp : ledger.payment e.command.providerPaymentId = some p) :
    (e.found idOk orderId ledger).payment e.command.providerPaymentId = some p := by
  have hsame : (e.insertOrder ledger).payment e.command.providerPaymentId = some p := by
    unfold Ledger.payment at hp ⊢
    rw [providerPayments_insertOrder]
    exact hp
  unfold found insertPayment
  split_ifs
  · exact hsame
  · exact Ledger.payment_append hsame

theorem payment_found_new {idOk : isUlid e.newPaymentId = true} {orderId : String}
    {loaded : StoredPayment}
    (hnone : ledger.payment e.command.providerPaymentId = none)
    (hloaded : (e.found idOk orderId ledger).payment e.command.providerPaymentId = some loaded) :
    loaded = e.newPayment idOk orderId ∧
      (e.found idOk orderId ledger).providerPayments =
        ledger.providerPayments ++ [e.newPayment idOk orderId] ∧
      ∀ q ∈ ledger.providerPayments, q.id ≠ e.newPaymentId := by
  unfold found insertPayment at hloaded ⊢
  rw [providerPayments_insertOrder] at hloaded ⊢
  split_ifs at hloaded ⊢ with hconflict
  · unfold Ledger.payment at hloaded hnone
    rw [providerPayments_insertOrder, hnone] at hloaded
    exact absurd hloaded (by simp)
  · refine ⟨?_, rfl, ?_⟩
    · unfold Ledger.payment at hloaded hnone
      rw [List.find?_append, hnone] at hloaded
      simpa [newPayment] using hloaded.symm
    · intro q hq heq
      exact hconflict (List.any_eq_true.mpr ⟨q, hq, by simp [heq]⟩)

/-- The row of the payment after the enrichment. -/
theorem payment_observe {found : Ledger} (hkeyed : found.Keyed)
    (hp : found.payment e.command.providerPaymentId = some p) :
    (e.observe found order p).payment e.command.providerPaymentId = some (e.observed p) := by
  have hmem := List.mem_of_find?_eq_some hp
  have hid : p.providerPaymentId = e.command.providerPaymentId := by
    simpa using List.find?_some hp
  unfold observe observed
  by_cases happlies : e.appliesToPayment p = true
  · rw [if_pos happlies, if_pos happlies]
    exact (@Ledger.payment_put found p (p.observe e.payment.toPaymentRecordFields e.observedAt)
      e.command.providerPaymentId hkeyed hmem rfl rfl).trans (if_pos hid.symm)
  · rw [if_neg happlies, if_neg happlies]
    exact hp

/-- An enrichment whose order is on the books puts no other one there. -/
theorem insertOrder_of_order (horder : ledger.orderFor e.command.providerOrderId = some order) :
    e.insertOrder ledger = ledger := by
  have hmem := List.mem_of_find?_eq_some horder
  have horiginal : order.originalProviderOrderId = some e.command.providerOrderId := by
    simpa using List.find?_some horder
  unfold insertOrder
  rw [if_pos (List.any_eq_true.mpr ⟨order, hmem, by simp [newOrder, horiginal]⟩)]

/-- An enrichment of a payment that is on the books with its order. -/
theorem persist_known (hkeyed : ledger.Keyed) (h : e.persist ledger = .ok after)
    (hp : ledger.payment e.command.providerPaymentId = some p)
    (horder : ledger.orderFor e.command.providerOrderId = some order) :
    e.Loads ledger order p ∧ after = e.observe ledger order p := by
  obtain ⟨idOk, order', payment, hloads, rfl⟩ := persist_ok hkeyed h
  have hmem := List.mem_of_find?_eq_some hp
  have hid : p.providerPaymentId = e.command.providerPaymentId := by
    simpa using List.find?_some hp
  have hfound : e.found idOk order'.id ledger = ledger := by
    unfold found insertPayment
    rw [insertOrder_of_order horder,
      if_pos (List.any_eq_true.mpr ⟨p, hmem, by simp [hid]⟩)]
  rw [hfound] at hloads ⊢
  obtain rfl := Option.some.inj (horder.symm.trans hloads.orderFound)
  obtain rfl := Option.some.inj (hp.symm.trans hloads.paymentFound)
  exact ⟨hloads, rfl⟩

/-- An enrichment of a payment that is not on the books, where its order is. -/
theorem persist_new (hkeyed : ledger.Keyed) (h : e.persist ledger = .ok after)
    (hnone : ledger.payment e.command.providerPaymentId = none)
    (horder : ledger.orderFor e.command.providerOrderId = some order) :
    ∃ idOk, (∀ q ∈ ledger.providerPayments, q.id ≠ e.newPaymentId) ∧
      e.Loads { ledger with
        providerPayments := ledger.providerPayments ++ [e.newPayment idOk order.id] } order
        (e.newPayment idOk order.id) ∧
      after = e.observe { ledger with
        providerPayments := ledger.providerPayments ++ [e.newPayment idOk order.id] } order
        (e.newPayment idOk order.id) := by
  obtain ⟨idOk, order', payment, hloads, rfl⟩ := persist_ok hkeyed h
  obtain ⟨rfl, hpayments, hfresh⟩ := payment_found_new hnone hloads.paymentFound
  have hfound : e.found idOk order'.id ledger = { ledger with
      providerPayments := ledger.providerPayments ++ [e.newPayment idOk order'.id] } := by
    have hframe := insertOrder_of_order horder
    unfold found at hpayments ⊢
    rw [hframe] at hpayments ⊢
    unfold insertPayment at hpayments ⊢
    split_ifs at hpayments ⊢
    · simp at hpayments
    · rfl
  rw [hfound] at hloads ⊢
  obtain rfl : order = order' := Option.some.inj (horder.symm.trans hloads.orderFound)
  exact ⟨idOk, hfresh, hloads, rfl⟩

/-- What was read of a payment before it was captured is no money. -/
theorem ReadsBefore.unpaid {payment : CapturedPayment} (h : e.ReadsBefore payment) :
    e.payment.capturedMinor = 0 ∧ e.payment.refundedMinor = 0 :=
  e.payment.consistent.uncollected h.status

theorem ReadsBefore.accepting {payment : CapturedPayment} (h : e.ReadsBefore payment) :
    e.payment.status.stored ∈ captureAcceptingPaymentStates ∧
      e.payment.status.stored ≠ .captured := by
  have hstatus := h.status
  generalize e.payment.status = status at hstatus
  cases status with
  | created => exact ⟨by decide, by decide⟩
  | authorized => exact ⟨by decide, by decide⟩
  | failed => exact ⟨by decide, by decide⟩
  | captured => exact absurd hstatus (by decide)
  | refunded => exact absurd hstatus (by decide)

end Enrichment

/-! ## Money that is kept -/

/-- A truth that is not exceptional keeps its rank along every edge. -/
theorem rankKept_of_edge {old new : CanonicalPaymentState} (hnew : new ≠ .exception)
    (h : new = old ∨ new ∈ paymentTransitions old) : RankKept old new := by
  rcases h with rfl | hedge
  · exact .inl rfl
  · right
    cases old <;> cases new <;> simp_all [paymentTransitions, truthRank]

theorem enrichedTruth_ne_exception (total amountDue : Nat) :
    enrichedTruth total amountDue ≠ .exception := by
  unfold enrichedTruth truthOf
  split_ifs
  · exact nofun
  · exact nofun
  · exact nofun
  · exact nofun

/-- A terminal projection keeps the money. -/
theorem moneyKept_terminal {referenceIdOf : String → String} {d : EventDelivery}
    {books after : MoneyBooks} {out : Option ProjectionResult} {providerPaymentId : String}
    (hkeyed : books.ledger.Keyed)
    (h : moneyExec referenceIdOf books (.projectTerminal d) = .ok (after, out)) :
    books.ledger.MoneyKept after.ledger providerPaymentId := by
  have houtcome := moneyExec_ok hkeyed h
  constructor
  · intro p hp
    obtain ⟨later, hlater, hmove⟩ := houtcome.payment hkeyed hp
    refine ⟨later, hlater, ?_⟩
    cases hmove with
    | same => exact Nat.le_refl _
    | captured d stored payment target hstored hopen hevent hcapturable htarget =>
      have hexact :=
        CaptureTarget.exact_iff.mp (CaptureTarget.refusal_eq_none_iff.mp hcapturable.accepted).1
      have hle := (hcapturable.countable.payments _ hcapturable.mem_originalPath).2.1.2
      rw [hexact.amount, htarget] at hle
      exact hle
  · intro id o ho
    cases houtcome with
    | terminal d stored after result _ hterminal =>
      obtain ⟨later, hlater, honward⟩ := (hterminal.moneyForward hkeyed).orders id o ho
      exact ⟨later, hlater, honward.total, honward.rank⟩

/-- An enrichment keeps the money of the orders, and of the payment where it writes none
away. -/
theorem Enrichment.moneyKept {e : Enrichment} {ledger after : Ledger} (hkeyed : ledger.Keyed)
    (h : e.persist ledger = .ok after)
    (hpayment : ∀ p, ledger.payment e.command.providerPaymentId = some p →
      p.capturedMinor ≤ (e.observed p).capturedMinor) :
    ledger.MoneyKept after e.command.providerPaymentId := by
  obtain ⟨idOk, order, loaded, hloads, rfl⟩ := persist_ok hkeyed h
  have hkeyedFound : (e.found idOk order.id ledger).Keyed :=
    keyed_insertPayment (keyed_insertOrder hkeyed)
  constructor
  · intro p hp
    have hfound : (e.found idOk order.id ledger).payment e.command.providerPaymentId = some p :=
      payment_found hp
    obtain rfl := Option.some.inj (hloads.paymentFound.symm.trans hfound)
    exact ⟨_, payment_observe hkeyedFound hfound, hpayment loaded hp⟩
  · intro id o ho
    have hfound : (e.found idOk order.id ledger).order id = some o := by
      unfold Ledger.order Table.find at ho ⊢
      have hrows := @logicalOrders_found e ledger idOk order.id
      rcases hrows with hsame | ⟨hnew, -⟩
      · rw [hsame]
        exact ho
      · rw [hnew, List.find?_append, ho]
        rfl
    by_cases happlies : e.appliesToOrder order = true
    · have hmem := List.mem_of_find?_eq_some hloads.orderFound
      have hfind := Table.find_of_mem hkeyedFound.orders hmem
      by_cases hid : id = order.id
      · rw [hid] at hfound ⊢
        obtain rfl := Option.some.inj (hfind.symm.trans hfound)
        refine ⟨order.observe e.order.amountPaidMinor e.observedAt, ?_, Nat.le_max_left _ _, ?_⟩
        · unfold observe Ledger.order
          rw [if_pos happlies]
          exact Table.find_put hfind rfl
        · refine rankKept_of_edge (enrichedTruth_ne_exception _ _) ?_
          have hadmits := hloads.orderAdmits happlies
          simp only [LogicalOrder.admits, Bool.and_eq_true, Bool.or_eq_true, decide_eq_true_eq]
            at hadmits
          exact hadmits.1.2
      · refine ⟨o, ?_, Nat.le_refl _, .inl rfl⟩
        unfold observe Ledger.order
        rw [if_pos happlies]
        refine Eq.trans (Table.find_put_of_ne ?_) hfound
        exact Ne.symm hid
    · refine ⟨o, ?_, Nat.le_refl _, .inl rfl⟩
      unfold observe Ledger.order
      rw [if_neg happlies]
      exact hfound

/-! ## A capture behind an enrichment -/

/-- A total of at least what is due is still ahead of an order that was observed. -/
theorem LogicalOrder.Forward.observe {o : LogicalOrder} {total paid : Nat} {observedAt : Timestamp}
    (h : o.Forward total) (hpaid : paid ≤ total) (hdue : o.amountDueMinor ≤ total) :
    (o.observe paid observedAt).Forward total := by
  obtain ⟨hrefunded, hcaptured, -⟩ := LogicalOrder.forward_iff.mp h
  refine LogicalOrder.forward_iff.mpr ⟨?_, ?_, ?_⟩
  · exact Nat.le_trans hrefunded (Nat.le_max_left _ _)
  · exact Nat.max_le.mpr ⟨hcaptured, hpaid⟩
  · have hmax : max o.capturedTotalMinor paid ≤ total := Nat.max_le.mpr ⟨hcaptured, hpaid⟩
    show ∃ current projected,
      truthRank (enrichedTruth (max o.capturedTotalMinor paid) o.amountDueMinor) = some current ∧
        truthRank (truthOf total o.amountDueMinor) = some projected ∧ current ≤ projected
    generalize max o.capturedTotalMinor paid = seen at hmax
    unfold enrichedTruth truthOf
    split_ifs
    all_goals first
      | exact ⟨_, _, rfl, rfl, by decide⟩
      | omega

/-- The order an enrichment leaves: observed, where its snapshot is not later. -/
def Enrichment.observedOrder (e : Enrichment) (o : LogicalOrder) : LogicalOrder :=
  if e.appliesToOrder o then o.observe e.order.amountPaidMinor e.observedAt else o

section

variable {found base : Ledger} {target : CaptureTarget} {payment : CapturedPayment}
  {occurredAt : Timestamp} {e : Enrichment} {row : StoredPayment} {front rest : List StoredPayment}

/-- The rows an enrichment leaves stand for those it has found. -/
theorem Enrichment.stands (hcapturable : found.Capturable target payment occurredAt)
    (hreads : e.ReadsBefore payment) (hloads : e.Loads base target.order row)
    (hrow : row.providerPaymentId = e.command.providerPaymentId)
    (hfits : e.appliesToPayment row = true ∧
        methodsAgree (some e.payment.paymentMethod) payment.paymentMethod = true ∨
      e.appliesToPayment row = false ∧ row = target.payment) :
    target.Stands payment occurredAt (e.observed row) (e.observedOrder target.order) := by
  obtain ⟨hexact, hstatus, hrefunded, hsnapshot⟩ :=
    CaptureTarget.refusal_eq_none_iff.mp hcapturable.accepted
  have hexact := CaptureTarget.exact_iff.mp hexact
  obtain ⟨-, -, -, hlogical⟩ := Ledger.captureTarget_rows hcapturable.found
  have hcounted := hcapturable.countable.payments _ hcapturable.mem_originalPath
  -- what no observation changes of the row and the order
  have hterms : (e.observed row).providerPaymentId = row.providerPaymentId ∧
      (e.observed row).providerOrderId = row.providerOrderId ∧
      (e.observed row).logicalOrderId = row.logicalOrderId ∧
      (e.observed row).amountMinor = row.amountMinor ∧
      (e.observed row).currency = row.currency := by
    unfold observed
    split_ifs
    · exact ⟨rfl, rfl, rfl, rfl, rfl⟩
    · exact ⟨rfl, rfl, rfl, rfl, rfl⟩
  have horder : (e.observedOrder target.order).id = target.order.id ∧
      (e.observedOrder target.order).originalProviderOrderId =
        target.order.originalProviderOrderId ∧
      (e.observedOrder target.order).amountDueMinor = target.order.amountDueMinor ∧
      (e.observedOrder target.order).currency = target.order.currency ∧
      (e.observedOrder target.order).mappingStatus = .mapped := by
    unfold observedOrder
    split_ifs
    · exact ⟨rfl, rfl, rfl, rfl, rfl⟩
    · exact ⟨rfl, rfl, rfl, rfl, hexact.mapped⟩
  have hmoney : methodsAgree (e.observed row).paymentMethod payment.paymentMethod = true ∧
      (e.observed row).status ∈ captureAcceptingPaymentStates ∧
      (e.observed row).refundedMinor = 0 ∧
      (e.observed row).capturedMinor ≤ (e.observed row).amountMinor ∧
      ((e.observed row).status = .captured →
        (e.observed row).providerSnapshotAt ≤ occurredAt) := by
    rcases hfits with ⟨happlies, hmethod⟩ | ⟨happlies, rfl⟩
    · obtain ⟨hcaptured, hreadRefunded⟩ := hreads.unpaid
      obtain ⟨haccepting, hne⟩ := hreads.accepting
      unfold observed
      rw [if_pos happlies]
      refine ⟨hmethod, haccepting, hreadRefunded, ?_, fun h => absurd h hne⟩
      show e.payment.capturedMinor ≤ row.amountMinor
      rw [hcaptured]
      exact Nat.zero_le _
    · unfold observed
      rw [if_neg (by rw [happlies]; simp)]
      exact ⟨hexact.method, hstatus, hrefunded, hcounted.2.1.2, hsnapshot⟩
  obtain ⟨h₁, h₂, h₃, h₄, h₅⟩ := hterms
  obtain ⟨o₁, o₂, o₃, o₄, o₅⟩ := horder
  obtain ⟨m₁, m₂, m₃, m₄, m₅⟩ := hmoney
  exact {
    providerPaymentId := h₁.trans
      (hrow.trans (hreads.providerPaymentId.trans hexact.paymentId.symm))
    providerOrderId := h₂.trans (hloads.provider.trans
      ((congrArg some hreads.providerOrderId).trans hexact.orderId.symm))
    logicalOrderId := h₃.trans (hloads.logical.trans hlogical.symm)
    amountMinor := h₄.trans (hloads.amount.trans (hreads.amountMinor.trans hexact.amount.symm))
    currency := h₅.trans (hloads.paymentCurrency.trans
      (hreads.currency.trans hexact.currency.symm))
    method := m₁
    status := m₂
    refunded := m₃
    captured := m₄
    snapshot := m₅
    order := o₁
    original := o₂
    due := o₃
    orderCurrency := o₄
    mapped := o₅ }

/-- The capture is taken by the rows an enrichment leaves. -/
theorem Enrichment.capturable_observe (hbase : base.Keyed)
    (hcapturable : found.Capturable target payment occurredAt)
    (hreads : e.ReadsBefore payment) (hloads : e.Loads base target.order row)
    (hfits : e.appliesToPayment row = true ∧
        methodsAgree (some e.payment.paymentMethod) payment.paymentMethod = true ∨
      e.appliesToPayment row = false ∧ row = target.payment)
    (hsplit : base.providerPayments = front ++ row :: rest)
    (hfound : found.providerPayments = front ++ target.payment :: rest)
    (hothers : ∀ q ∈ front ++ rest, q.id ≠ target.payment.id)
    (hinstruments : base.recoveryInstruments = found.recoveryInstruments) :
    (e.observe base target.order row).Capturable ⟨e.observed row, e.observedOrder target.order⟩
      payment occurredAt := by
  have hpayment := hloads.paymentFound
  have hrow : row.providerPaymentId = e.command.providerPaymentId := by
    simpa using List.find?_some hpayment
  have hstands := stands hcapturable hreads hloads hrow hfits
  have hexact :=
    CaptureTarget.exact_iff.mp (CaptureTarget.refusal_eq_none_iff.mp hcapturable.accepted).1
  have hpayments : Table.Keyed (fun p : StoredPayment => p.id) (front ++ row :: rest) :=
    hsplit ▸ hbase.payments
  have hid : (e.observed row).id = row.id := by
    unfold observed
    split_ifs
    · rfl
    · rfl
  refine hcapturable.replaced hstands hfound ?_ ?_ ?_ ?_ ?_ ?_
  · -- the row keeps its place
    unfold observe observed
    by_cases happlies : e.appliesToPayment row = true
    · rw [if_pos happlies, if_pos happlies]
      show Table.put _ _ base.providerPayments = _
      rw [hsplit]
      exact Table.put_split hpayments rfl
    · rw [if_neg happlies, if_neg happlies]
      exact hsplit
  · intro q hq
    exact ⟨hothers q hq, hid ▸ hpayments.ne_of_split q hq⟩
  · exact hinstruments
  · rw [← hreads.providerPaymentId]
    exact payment_observe hbase hpayment
  · have hfind := Table.find_of_mem hbase.orders (List.mem_of_find?_eq_some hloads.orderFound)
    have hlogical : (e.observed row).logicalOrderId = target.order.id := by
      obtain ⟨-, -, -, hlogical⟩ := Ledger.captureTarget_rows hcapturable.found
      exact hstands.logicalOrderId.trans hlogical
    rw [hlogical]
    unfold observe observedOrder Ledger.order
    by_cases happlies : e.appliesToOrder target.order = true
    · rw [if_pos happlies, if_pos happlies]
      exact Table.find_put hfind rfl
    · rw [if_neg happlies, if_neg happlies]
      exact hfind
  · have hdue : target.order.amountDueMinor ≤ found.captureTotal target payment := by
      rw [hexact.due]
      exact hcapturable.amount_le
    unfold observedOrder
    split_ifs
    · refine hcapturable.forward.observe ?_ hdue
      obtain ⟨-, hpaid⟩ := e.order.paid_le
      rw [← hloads.due] at hpaid
      exact Nat.le_trans hpaid hdue
    · exact hcapturable.forward

/-- An enrichment that comes first leaves rows that take the capture: it has written nothing
of the payment, or what it has written agrees with the capture. -/
theorem Enrichment.capturable_of_persist {ledger after : Ledger} {eventRecordId newId : String}
    (hkeyed : ledger.Keyed) (h : e.persist ledger = .ok after) (hreads : e.ReadsBefore payment)
    (hdiscovers : ledger.Discovers payment eventRecordId newId occurredAt found)
    (hcapturable : found.Capturable target payment occurredAt)
    (hfits : ledger.payment payment.providerPaymentId = some target.payment ∧
        e.observedAt < target.payment.providerSnapshotAt ∨
      methodsAgree (some e.payment.paymentMethod) payment.paymentMethod = true) :
    ∃ later, after.Capturable later payment occurredAt := by
  have hexact :=
    CaptureTarget.exact_iff.mp (CaptureTarget.refusal_eq_none_iff.mp hcapturable.accepted).1
  obtain ⟨hmem, -, horderRow, hlogical⟩ := Ledger.captureTarget_rows hcapturable.found
  have hpayment := (captureTarget_eq_some_iff.mp hcapturable.found).1
  cases hdiscovers with
  | known =>
    -- the order of the payment is found by its provider order
    have horderMem := Table.mem_of_find horderRow
    obtain ⟨order, horder⟩ : ∃ order, found.orderFor e.command.providerOrderId = some order := by
      refine Option.isSome_iff_exists.mp (List.find?_isSome.mpr ⟨target.order, horderMem, ?_⟩)
      rw [hexact.original, hreads.providerOrderId]
      simp
    obtain ⟨hloads, rfl⟩ := persist_known hkeyed h (hreads.providerPaymentId ▸ hpayment) horder
    obtain rfl : order = target.order := hkeyed.orders.eq_of_key
      (List.mem_of_find?_eq_some horder) horderMem (hloads.logical.symm.trans hlogical)
    obtain ⟨front, rest, hsplit⟩ := List.append_of_mem hmem
    have hrows : Table.Keyed (fun p : StoredPayment => p.id) (front ++ target.payment :: rest) :=
      hsplit ▸ hkeyed.payments
    refine ⟨_, capturable_observe hkeyed hcapturable hreads hloads ?_ hsplit hsplit
      hrows.ne_of_split rfl⟩
    by_cases happlies : e.appliesToPayment target.payment = true
    · rcases hfits with ⟨-, hlater⟩ | hmethod
      · unfold appliesToPayment at happlies
        exact absurd hlater (not_lt.mpr (by simpa using happlies))
      · exact .inl ⟨happlies, hmethod⟩
    · exact .inr ⟨by simpa using happlies, rfl⟩
  | new order idOk horder hfit hnone hfresh =>
    obtain ⟨newOk, hfreshNew, hloads, rfl⟩ := persist_new hkeyed h
      (hreads.providerPaymentId ▸ hnone) (hreads.providerOrderId ▸ horder)
    have hmethod := hfits.resolve_left fun hknown => by
      rw [hnone] at hknown
      exact absurd hknown.1 (by simp)
    have htarget : target.payment =
        payment.discovered order.id eventRecordId newId occurredAt idOk := by
      unfold Ledger.payment at hpayment hnone
      rw [List.find?_append, hnone] at hpayment
      simpa [CapturedPayment.discovered] using hpayment.symm
    obtain rfl : order = target.order := by
      refine hkeyed.orders.eq_of_key (List.mem_of_find?_eq_some horder)
        (Table.mem_of_find horderRow) ?_
      rw [← hlogical, htarget]
      rfl
    have hnew : ∀ q ∈ ledger.providerPayments,
        q.providerPaymentId ≠ e.command.providerPaymentId := by
      intro q hq heq
      rw [hreads.providerPaymentId] at heq
      exact List.find?_eq_none.mp hnone q hq (by simpa using heq)
    have hbase : Ledger.Keyed { ledger with
        providerPayments := ledger.providerPayments ++ [e.newPayment newOk target.order.id] } :=
      { hkeyed with
        payments := Table.keyed_concat hkeyed.payments hfreshNew
        providerPayments := Table.keyed_concat hkeyed.providerPayments hnew }
    have hsplit : ledger.providerPayments ++ [e.newPayment newOk target.order.id] =
        ledger.providerPayments ++ e.newPayment newOk target.order.id :: [] := rfl
    refine ⟨_, capturable_observe hbase hcapturable hreads hloads (.inl ⟨?_, hmethod⟩) hsplit
      ?_ ?_ rfl⟩
    · show decide (e.observedAt ≤ e.observedAt) = true
      simp
    · rw [htarget]
    · intro q hq
      rw [List.append_nil] at hq
      rw [htarget]
      exact hfresh q hq

end

/-! ## Both orders -/

section

variable {referenceIdOf : String → String} {books after : MoneyBooks} {d : EventDelivery}
  {stored : StoredEvent CanonicalEvent} {payment : CapturedPayment} {e : Enrichment}
  {out : Option ProjectionResult}

/-- A pending capture is carried out, or has found its rows and left them. -/
theorem capture_cases (hkeyed : books.ledger.Keyed)
    (h : moneyExec referenceIdOf books (.projectTerminal d) = .ok (after, out))
    (hstored : books.storedEvent d.eventRecordId = some stored) (hopen : books.Open stored)
    (hevent : stored.event.Captures payment) :
    ∃ found, books.ledger.Discovers payment stored.event.id d.newId
        stored.event.providerOccurredAt found ∧
      (after.ledger = found ∨
        ∃ target, found.Capturable target payment stored.event.providerOccurredAt ∧
          after.ledger = found.afterCapture target payment stored.event.id
            stored.event.providerOccurredAt d.now) := by
  obtain ⟨result, hproject⟩ := moneyExec_terminal h
  obtain ⟨other, hother, houtcome⟩ := terminal_project_ok hkeyed hproject
  obtain rfl := Option.some.inj (hstored.symm.trans hother)
  generalize after.ledger = ledger at houtcome ⊢
  cases houtcome with
  | settled hsettled => exact absurd hsettled hopen.unsettled
  | passed _ _ _ hfound _ =>
    rcases hfound with rfl | ⟨payment', hevent', hdiscovers⟩
    · exact ⟨_, .known, .inl rfl⟩
    · obtain rfl := hevent.unique hevent'
      exact ⟨ledger, hdiscovers, .inl rfl⟩
  | captured found payment' target _ hevent' hdiscovers hcapturable =>
    obtain rfl := hevent.unique hevent'
    exact ⟨found, hdiscovers, .inr ⟨target, hcapturable, rfl⟩⟩
  | collected _ _ _ hcollects => exact absurd hcollects hevent.not_collects

/-- The row of a capture that was carried out. -/
theorem payment_afterCapture {found : Ledger} {target : CaptureTarget} {eventRecordId : String}
    {occurredAt now : Timestamp} (hkeyed : found.Keyed)
    (hcapturable : found.Capturable target payment occurredAt) :
    (found.afterCapture target payment eventRecordId occurredAt now).payment
      payment.providerPaymentId =
        some (target.payment.capture payment eventRecordId occurredAt) := by
  obtain ⟨hmem, hid, -, -⟩ := Ledger.captureTarget_rows hcapturable.found
  exact (@Ledger.payment_put found target.payment
    (target.payment.capture payment eventRecordId occurredAt) payment.providerPaymentId hkeyed hmem
    rfl rfl).trans (if_pos hid.symm)

/-- A row that was found is the one on the books, or a discovered one. -/
theorem Ledger.Discovers.payment_cases {ledger found : Ledger} {eventRecordId newId : String}
    {occurredAt : Timestamp} {p : StoredPayment}
    (h : ledger.Discovers payment eventRecordId newId occurredAt found)
    (hp : found.payment payment.providerPaymentId = some p) :
    ledger.payment payment.providerPaymentId = some p ∧ found = ledger ∨
      ledger.payment payment.providerPaymentId = none ∧ p.status = .unknown ∧
        p.capturedMinor = 0 := by
  cases h with
  | known => exact .inl ⟨hp, rfl⟩
  | new order idOk _ _ hnone _ =>
    right
    unfold Ledger.payment at hp hnone ⊢
    rw [List.find?_append, hnone] at hp
    have hdiscovered :
        p = payment.discovered order.id eventRecordId newId occurredAt idOk := by
      simpa [CapturedPayment.discovered] using hp.symm
    rw [hdiscovered]
    exact ⟨hnone, rfl, rfl⟩

/-- The row an enrichment leaves of the payment. -/
theorem Enrichment.payment_persist {ledger after : Ledger} (hkeyed : ledger.Keyed)
    (h : e.persist ledger = .ok after) :
    ∃ p, after.payment e.command.providerPaymentId = some p ∧
      (ledger.payment e.command.providerPaymentId = some p ∧ e.appliesToPayment p = false ∨
        p.status = e.payment.status.stored ∧ p.paymentMethod = some e.payment.paymentMethod ∧
          p.capturedMinor = e.payment.capturedMinor ∧
          ∀ q, ledger.payment e.command.providerPaymentId = some q →
            e.appliesToPayment q = true) := by
  obtain ⟨idOk, order, loaded, hloads, rfl⟩ := persist_ok hkeyed h
  have hrow := @payment_observe e loaded order _ (keyed_insertPayment (keyed_insertOrder hkeyed))
    hloads.paymentFound
  refine ⟨e.observed loaded, hrow, ?_⟩
  by_cases happlies : e.appliesToPayment loaded = true
  · right
    unfold observed
    rw [if_pos happlies]
    refine ⟨rfl, rfl, rfl, ?_⟩
    intro q hq
    have hfound := hloads.paymentFound
    rw [payment_found hq] at hfound
    rw [Option.some.inj hfound]
    exact happlies
  · cases hp : ledger.payment e.command.providerPaymentId with
    | some p =>
      left
      have hfound := hloads.paymentFound
      rw [payment_found hp] at hfound
      obtain rfl := Option.some.inj hfound
      unfold observed
      rw [if_neg happlies]
      exact ⟨rfl, by simpa using happlies⟩
    | none =>
      obtain ⟨rfl, -, -⟩ := payment_found_new hp hloads.paymentFound
      refine absurd ?_ happlies
      show decide (e.observedAt ≤ e.observedAt) = true
      simp

/-- A payment that is captured behind an enrichment that has read it before was captured,
and its row was left. -/
theorem Enrichment.captured_before {ledger after : Ledger} (hkeyed : ledger.Keyed)
    (h : e.persist ledger = .ok after) (hreads : e.ReadsBefore payment)
    (hcaptured : after.IsCaptured payment) :
    ∃ p, ledger.payment payment.providerPaymentId = some p ∧ p.status = .captured ∧
      p.capturedMinor = payment.amountMinor ∧ e.observedAt < p.providerSnapshotAt := by
  obtain ⟨p, hp, hstatus, hmoney⟩ := hcaptured
  obtain ⟨q, hq, hrow⟩ := payment_persist hkeyed h
  rw [hreads.providerPaymentId] at hq hrow
  obtain rfl := Option.some.inj (hp.symm.trans hq)
  rcases hrow with ⟨hold, happlies⟩ | ⟨hread, -⟩
  · refine ⟨p, hold, hstatus, hmoney, ?_⟩
    unfold appliesToPayment at happlies
    simpa using happlies
  · exact absurd (hread.symm.trans hstatus) hreads.accepting.2

/-- A row that is not captured is one a capture that was carried out agrees with. -/
theorem method_of_captured {r : StoredPayment} (hkeyed : books.ledger.Keyed)
    (h : moneyExec referenceIdOf books (.projectTerminal d) = .ok (after, out))
    (hstored : books.storedEvent d.eventRecordId = some stored) (hopen : books.Open stored)
    (hevent : stored.event.Captures payment)
    (hr : books.ledger.payment payment.providerPaymentId = some r) (hne : r.status ≠ .captured)
    (hcaptured : after.ledger.IsCaptured payment) :
    methodsAgree r.paymentMethod payment.paymentMethod = true := by
  obtain ⟨p, hp, hstatus, -⟩ := hcaptured
  obtain ⟨found, hdiscovers, hafter | ⟨target, hcapturable, -⟩⟩ :=
    capture_cases hkeyed h hstored hopen hevent
  · rw [hafter] at hp
    rcases hdiscovers.payment_cases hp with ⟨hsame, -⟩ | ⟨hnone, -⟩
    · rw [Option.some.inj (hr.symm.trans hsame)] at hne
      exact absurd hstatus hne
    · rw [hr] at hnone
      exact absurd hnone (by simp)
  · have hexact :=
      CaptureTarget.exact_iff.mp (CaptureTarget.refusal_eq_none_iff.mp hcapturable.accepted).1
    have htarget := (captureTarget_eq_some_iff.mp hcapturable.found).1
    rcases hdiscovers.payment_cases htarget with ⟨hsame, -⟩ | ⟨hnone, -⟩
    · rw [Option.some.inj (hr.symm.trans hsame)]
      exact hexact.method
    · rw [hr] at hnone
      exact absurd hnone (by simp)

/-- A payment that is captured already stays so, with a snapshot that is not earlier. -/
theorem captured_stays {p : StoredPayment} (hkeyed : books.ledger.Keyed)
    (h : moneyExec referenceIdOf books (.projectTerminal d) = .ok (after, out))
    (hstored : books.storedEvent d.eventRecordId = some stored)
    (hevent : stored.event.Captures payment)
    (hp : books.ledger.payment payment.providerPaymentId = some p) (hstatus : p.status = .captured)
    (hmoney : p.capturedMinor = payment.amountMinor) :
    ∃ later, after.ledger.payment payment.providerPaymentId = some later ∧
      later.status = .captured ∧ later.capturedMinor = payment.amountMinor ∧
      p.providerSnapshotAt ≤ later.providerSnapshotAt := by
  obtain ⟨later, hlater, hmove⟩ := (moneyExec_ok hkeyed h).payment hkeyed hp
  refine ⟨later, hlater, ?_⟩
  cases hmove with
  | same => exact ⟨hstatus, hmoney, le_refl _⟩
  | captured d other payment' target hother hopen hevent' hcapturable htarget =>
    obtain rfl := Option.some.inj (hstored.symm.trans hother)
    obtain rfl := hevent.unique hevent'
    exact ⟨rfl, rfl, le_max_left _ _⟩

end

section

variable {referenceIdOf : String → String}
  {books captured captureFirst enriched enrichFirst : MoneyBooks} {d : EventDelivery}
  {stored : StoredEvent CanonicalEvent} {payment : CapturedPayment} {e : Enrichment}

/-- Where the capture survives in both orders, the books and the clocks are such that it
withstands the enrichment. -/
theorem withstands_of_survives (hkeyed : books.ledger.Keyed)
    (hfirst : (moneyMachine referenceIdOf).InTurn books (.projectTerminal d) (.enrich e) captured
      captureFirst)
    (hsecond : (moneyMachine referenceIdOf).InTurn books (.enrich e) (.projectTerminal d) enriched
      enrichFirst)
    (hstored : books.storedEvent d.eventRecordId = some stored) (hopen : books.Open stored)
    (hevent : stored.event.Captures payment) (hreads : e.ReadsBefore payment)
    (hsurvives : captureFirst.ledger.IsCaptured payment)
    (hsurvives' : CaptureSurvives payment books enriched enrichFirst) :
    Withstands books d stored payment e := by
  obtain ⟨x, y, hcapture, henrich⟩ := moneyExec_inTurn hfirst
  obtain ⟨x', y', henrich', hcapture'⟩ := moneyExec_inTurn hsecond
  obtain ⟨ledger, hpersist, hledger⟩ := moneyExec_enrich henrich
  obtain ⟨ledger', hpersist', hledger'⟩ := moneyExec_enrich henrich'
  obtain ⟨found, hdiscovers, hafter⟩ := capture_cases hkeyed hcapture hstored hopen hevent
  have hkeyedCaptured := (moneyExec_ok hkeyed hcapture).keyed hkeyed
  rw [hledger] at hsurvives
  obtain ⟨row, hrow, hstatus, hmoney, hlate⟩ :=
    Enrichment.captured_before hkeyedCaptured hpersist hreads hsurvives
  rcases hafter with hafter | ⟨target, hcapturable, hafter⟩
  · -- nothing was carried out: the payment was captured before
    rw [hafter] at hrow
    refine ⟨found, row, hdiscovers, hrow, .inr ⟨hstatus, hmoney⟩, lt_max_of_lt_left hlate, .inl ?_⟩
    rcases hdiscovers.payment_cases hrow with ⟨hsame, -⟩ | ⟨-, hunknown, -⟩
    · exact ⟨hsame, hlate⟩
    · rw [hstatus] at hunknown
      exact absurd hunknown (by simp)
  · rw [hafter, payment_afterCapture (hdiscovers.keyed hkeyed) hcapturable] at hrow
    obtain rfl := Option.some.inj hrow
    have htarget := (captureTarget_eq_some_iff.mp hcapturable.found).1
    refine ⟨found, target.payment, hdiscovers, htarget, .inl ⟨target, hcapturable⟩, hlate, ?_⟩
    by_cases hleft : books.ledger.payment payment.providerPaymentId = some target.payment ∧
        e.observedAt < target.payment.providerSnapshotAt
    · exact .inl hleft
    right
    obtain ⟨r, hr, hwritten⟩ := Enrichment.payment_persist hkeyed hpersist'
    rw [hreads.providerPaymentId] at hr hwritten
    -- the enrichment that came first has written the payment
    have hread : r.status = e.payment.status.stored ∧
        r.paymentMethod = some e.payment.paymentMethod ∧
        r.capturedMinor = e.payment.capturedMinor := by
      rcases hwritten with ⟨hsame, happlies⟩ | ⟨hreadStatus, hmethod, hreadMoney, -⟩
      · rcases hdiscovers.payment_cases htarget with ⟨hknown, -⟩ | ⟨hnone, -⟩
        · obtain rfl := Option.some.inj (hsame.symm.trans hknown)
          refine absurd ⟨hknown, ?_⟩ hleft
          unfold Enrichment.appliesToPayment at happlies
          simpa using happlies
        · rw [hsame] at hnone
          exact absurd hnone (by simp)
      · exact ⟨hreadStatus, hmethod, hreadMoney⟩
    have hr' : enriched.ledger.payment payment.providerPaymentId = some r := by
      rw [hledger']
      exact hr
    have hkeyedEnriched := (moneyExec_ok hkeyed henrich').keyed hkeyed
    have hopen' : enriched.Open stored := by
      rw [hledger']
      exact ⟨hopen.unsettled, hopen.attempts, hopen.first⟩
    have hstored' : enriched.storedEvent d.eventRecordId = some stored := by
      rw [hledger']
      exact hstored
    have hmethod := method_of_captured hkeyedEnriched hcapture' hstored' hopen' hevent hr'
      (by rw [hread.1]; exact hreads.accepting.2) hsurvives'.captured
    rw [hread.2.1] at hmethod
    refine ⟨?_, hmethod⟩
    rcases hdiscovers.payment_cases htarget with ⟨hknown, -⟩ | ⟨-, -, hnoMoney⟩
    · obtain ⟨later, hlater, hle⟩ := hsurvives'.first.payment _ hknown
      rw [Option.some.inj (hr'.symm.trans hlater).symm, hread.2.2, hreads.unpaid.1] at hle
      exact Nat.le_zero.mp hle
    · exact hnoMoney

/-- A captured payment with a later snapshot is not touched by an enrichment. -/
theorem Enrichment.survives_later {before after : Ledger} {p : StoredPayment}
    (hkeyed : before.Keyed) (h : e.persist before = .ok after) (hreads : e.ReadsBefore payment)
    (hp : before.payment payment.providerPaymentId = some p) (hstatus : p.status = .captured)
    (hmoney : p.capturedMinor = payment.amountMinor)
    (hlater : e.observedAt < p.providerSnapshotAt) :
    after.IsCaptured payment ∧ before.MoneyKept after payment.providerPaymentId := by
  have hnot : e.appliesToPayment p = false := by
    unfold appliesToPayment
    simpa using hlater
  have hleft : e.observed p = p := by
    unfold observed
    rw [if_neg (by rw [hnot]; simp)]
  rw [← hreads.providerPaymentId] at hp
  constructor
  · obtain ⟨r, hr, hrow⟩ := payment_persist hkeyed h
    rcases hrow with ⟨hsame, -⟩ | ⟨-, -, -, happlies⟩
    · obtain rfl := Option.some.inj (hp.symm.trans hsame)
      exact ⟨p, hreads.providerPaymentId ▸ hr, hstatus, hmoney⟩
    · rw [happlies p hp] at hnot
      exact absurd hnot (by simp)
  · rw [← hreads.providerPaymentId]
    refine moneyKept hkeyed h ?_
    intro q hq
    obtain rfl := Option.some.inj (hp.symm.trans hq)
    rw [hleft]

/-- Where the capture withstands the enrichment, it survives in both orders. -/
theorem survives_of_withstands (hkeyed : books.ledger.Keyed)
    (hfirst : (moneyMachine referenceIdOf).InTurn books (.projectTerminal d) (.enrich e) captured
      captureFirst)
    (hsecond : (moneyMachine referenceIdOf).InTurn books (.enrich e) (.projectTerminal d) enriched
      enrichFirst)
    (hstored : books.storedEvent d.eventRecordId = some stored) (hopen : books.Open stored)
    (hevent : stored.event.Captures payment) (hreads : e.ReadsBefore payment)
    (hwithstands : Withstands books d stored payment e) :
    CaptureSurvives payment books captured captureFirst ∧
      CaptureSurvives payment books enriched enrichFirst := by
  obtain ⟨x, y, hcapture, henrich⟩ := moneyExec_inTurn hfirst
  obtain ⟨x', y', henrich', hcapture'⟩ := moneyExec_inTurn hsecond
  obtain ⟨ledger, hpersist, hledger⟩ := moneyExec_enrich henrich
  obtain ⟨ledger', hpersist', hledger'⟩ := moneyExec_enrich henrich'
  obtain ⟨found, p, hdiscovers, hp, hrows, hlate, hfits⟩ := hwithstands
  have hkeyedCaptured := (moneyExec_ok hkeyed hcapture).keyed hkeyed
  have hkeyedEnriched := (moneyExec_ok hkeyed henrich').keyed hkeyed
  have hopen' : enriched.Open stored := by
    rw [hledger']
    exact ⟨hopen.unsettled, hopen.attempts, hopen.first⟩
  have hstored' : enriched.storedEvent d.eventRecordId = some stored := by
    rw [hledger']
    exact hstored
  -- the enrichment that comes first takes no money away
  have hfirstKept : books.ledger.MoneyKept enriched.ledger payment.providerPaymentId := by
    rw [hledger', ← hreads.providerPaymentId]
    refine Enrichment.moneyKept hkeyed hpersist' ?_
    intro q hq
    rw [hreads.providerPaymentId] at hq
    rcases hdiscovers.payment_cases hp with ⟨hsame, -⟩ | ⟨hnone, -⟩
    · obtain rfl := Option.some.inj (hq.symm.trans hsame)
      rcases hfits with ⟨-, hlater⟩ | ⟨hnoMoney, -⟩
      · unfold Enrichment.observed Enrichment.appliesToPayment
        rw [if_neg (by simpa using hlater)]
      · rw [hnoMoney]
        exact Nat.zero_le _
    · rw [hnone] at hq
      exact absurd hq (by simp)
  rcases hrows with ⟨target, hcapturable⟩ | ⟨hstatus, hmoney⟩
  · have htarget := (captureTarget_eq_some_iff.mp hcapturable.found).1
    obtain rfl := Option.some.inj (hp.symm.trans htarget)
    constructor
    · obtain ⟨result, hproject⟩ := moneyExec_terminal hcapture
      obtain ⟨inbox, -, hwritten⟩ :=
        project_of_capturable hkeyed hproject hstored hopen hevent hdiscovers hcapturable
      have hrow : captured.ledger.payment payment.providerPaymentId = some
          (target.payment.capture payment stored.event.id stored.event.providerOccurredAt) := by
        rw [hwritten]
        exact payment_afterCapture (hdiscovers.keyed hkeyed) hcapturable
      obtain ⟨hcaptured, hkept⟩ :=
        Enrichment.survives_later hkeyedCaptured hpersist hreads hrow rfl rfl hlate
      rw [hledger]
      exact ⟨hcaptured, moneyKept_terminal hkeyed hcapture, hkept⟩
    · have hfits' : books.ledger.payment payment.providerPaymentId = some target.payment ∧
            e.observedAt < target.payment.providerSnapshotAt ∨
          methodsAgree (some e.payment.paymentMethod) payment.paymentMethod = true :=
        hfits.imp_right And.right
      obtain ⟨later, hlater⟩ := Enrichment.capturable_of_persist hkeyed hpersist' hreads hdiscovers
        hcapturable hfits'
      have hcapturable' : enriched.ledger.Capturable later payment
          stored.event.providerOccurredAt := by
        rw [hledger']
        exact hlater
      obtain ⟨result, hproject⟩ := moneyExec_terminal hcapture'
      obtain ⟨inbox, -, hwritten⟩ :=
        project_of_capturable hkeyedEnriched hproject hstored' hopen' hevent .known hcapturable'
      refine ⟨⟨later.payment.capture payment stored.event.id stored.event.providerOccurredAt, ?_,
        rfl, rfl⟩, hfirstKept, moneyKept_terminal hkeyedEnriched hcapture'⟩
      rw [hwritten]
      exact payment_afterCapture hkeyedEnriched hcapturable'
  · -- the payment was captured before, and no enrichment writes its row
    obtain ⟨hknown, hfresh⟩ : books.ledger.payment payment.providerPaymentId = some p ∧
        e.observedAt < p.providerSnapshotAt := by
      rcases hfits with hleft | ⟨hnoMoney, -⟩
      · exact hleft
      · have hpositive := payment.positive
        omega
    constructor
    · obtain ⟨later, hlater, hstatus', hmoney', hle⟩ :=
        captured_stays hkeyed hcapture hstored hevent hknown hstatus hmoney
      obtain ⟨hcaptured, hkept⟩ := Enrichment.survives_later hkeyedCaptured hpersist hreads hlater
        hstatus' hmoney' (lt_of_lt_of_le hfresh hle)
      rw [hledger]
      exact ⟨hcaptured, moneyKept_terminal hkeyed hcapture, hkept⟩
    · obtain ⟨⟨row, hrow, hrowStatus, hrowMoney⟩, -⟩ :=
        Enrichment.survives_later hkeyed hpersist' hreads hknown hstatus hmoney hfresh
      have hrow' : enriched.ledger.payment payment.providerPaymentId = some row := by
        rw [hledger']
        exact hrow
      obtain ⟨later, hlater, hstatus', hmoney', -⟩ :=
        captured_stays hkeyedEnriched hcapture' hstored' hevent hrow' hrowStatus hrowMoney
      exact ⟨⟨later, hlater, hstatus', hmoney'⟩, hfirstKept,
        moneyKept_terminal hkeyedEnriched hcapture'⟩

/-- **Captured money under enrichment.** A pending capture and an enrichment that has read
the payment before it was captured leave the payment captured in either order, and take no
money back, exactly where the rows take the capture and withstand the enrichment. -/
theorem capture_survives_iff (hkeyed : books.ledger.Keyed)
    (hfirst : (moneyMachine referenceIdOf).InTurn books (.projectTerminal d) (.enrich e) captured
      captureFirst)
    (hsecond : (moneyMachine referenceIdOf).InTurn books (.enrich e) (.projectTerminal d) enriched
      enrichFirst)
    (hstored : books.storedEvent d.eventRecordId = some stored) (hopen : books.Open stored)
    (hevent : stored.event.Captures payment) (hreads : e.ReadsBefore payment) :
    CaptureSurvives payment books captured captureFirst ∧
        CaptureSurvives payment books enriched enrichFirst ↔
      Withstands books d stored payment e := by
  constructor
  · intro h
    exact withstands_of_survives hkeyed hfirst hsecond hstored hopen hevent hreads h.1.captured h.2
  · exact survives_of_withstands hkeyed hfirst hsecond hstored hopen hevent hreads

end

/-! ## A capture and an enrichment of one payment -/

/-- The capture of the payment that was created, stored and not projected. -/
def pendingBooks : MoneyBooks :=
  ((moneyMachine id).play attemptedBooks [.store (captureEvent "a" "pay_A" 1)]).2

def pendingDelivery : EventDelivery := sampleDelivery "a" "01HZZZZZZZZZZZZZZZZZZZZZZB" 2

/-- What is left of the books by the commands. -/
def pendingAfter (commands : List MoneyCommand) : MoneyBooks :=
  ((moneyMachine id).play pendingBooks commands).2

def pendingStored : StoredEvent CanonicalEvent where
  event := captureEvent "a" "pay_A" 1
  inbox := {
    status := .received
    attemptCount := 0
    maxAttempts := 8
    nextAttemptAt := clock 1
    leaseOwner := none
    leaseExpiresAt := none
    lastErrorCode := none }

theorem pendingStored_open : pendingBooks.Open pendingStored :=
  ⟨by decide, by decide, by decide⟩

theorem pending_keyed : pendingBooks.ledger.Keyed := attemptedLedger_keyed

theorem sampleEnrichment_reads (order : OrderRecord) (second : Fin 60) :
    (sampleEnrichment order second).ReadsBefore (sampleCaptured "pay_A") :=
  ⟨rfl, rfl, rfl, rfl, by simp [sampleEnrichment, failedRecord, failedFields]⟩

theorem capturable_sample (occurredAt : Timestamp) :
    attemptedLedger.Capturable ⟨samplePayment, sampleOrder⟩ (sampleCaptured "pay_A")
      occurredAt := by
  have htarget : attemptedLedger.captureTarget "pay_A" = some ⟨samplePayment, sampleOrder⟩ := rfl
  have hdecided : decideCapture attemptedLedger ⟨samplePayment, sampleOrder⟩
      (sampleCaptured "pay_A") occurredAt = .ok (.capture (attemptedLedger.capturePlan
        ⟨samplePayment, sampleOrder⟩ (sampleCaptured "pay_A"))) := rfl
  rcases decideCapture_ok htarget hdecided with ⟨reason, hignored⟩ | ⟨hcapturable, -⟩
  · exact absurd hignored (by simp)
  · exact hcapturable

/-- An enrichment whose clock is behind the capture. -/
theorem capture_survives_iff_early :
    let e := sampleEnrichment attemptedRecord 0
    (pendingAfter [.projectTerminal pendingDelivery, .enrich e]).ledger.IsCaptured
        (sampleCaptured "pay_A") ∧
      (pendingAfter [.enrich e, .projectTerminal pendingDelivery]).ledger.IsCaptured
        (sampleCaptured "pay_A") := by
  intro e
  have hfirst : (moneyMachine id).InTurn pendingBooks (.projectTerminal pendingDelivery) (.enrich e)
      (pendingAfter [.projectTerminal pendingDelivery])
      (pendingAfter [.projectTerminal pendingDelivery, .enrich e]) :=
    Machine.inTurn_of_play (by decide)
  have hsecond : (moneyMachine id).InTurn pendingBooks (.enrich e)
      (.projectTerminal pendingDelivery) (pendingAfter [.enrich e])
      (pendingAfter [.enrich e, .projectTerminal pendingDelivery]) :=
    Machine.inTurn_of_play (by decide)
  have hstored : pendingBooks.storedEvent pendingDelivery.eventRecordId = some pendingStored := rfl
  have hwithstands : Withstands pendingBooks pendingDelivery pendingStored
      (sampleCaptured "pay_A") e :=
    ⟨attemptedLedger, samplePayment, .known, rfl, .inl ⟨_, capturable_sample _⟩, by decide,
      .inr ⟨rfl, by decide⟩⟩
  obtain ⟨hsurvives, hsurvives'⟩ := (capture_survives_iff pending_keyed hfirst hsecond hstored
    pendingStored_open ⟨rfl, _, rfl, rfl⟩ (sampleEnrichment_reads attemptedRecord 0)).mpr
    hwithstands
  exact ⟨hsurvives.captured, hsurvives'.captured⟩

/-- An enrichment whose clock is ahead of the capture takes its money back. -/
theorem capture_taken_back :
    ∃ (books captured captureFirst : MoneyBooks) (d : EventDelivery)
      (stored : StoredEvent CanonicalEvent) (payment : CapturedPayment) (e : Enrichment),
      books.ledger.Keyed ∧ books.ledger.Related ∧
        (moneyMachine id).InTurn books (.projectTerminal d) (.enrich e) captured captureFirst ∧
        books.storedEvent d.eventRecordId = some stored ∧ books.Open stored ∧
        stored.event.Captures payment ∧ e.ReadsBefore payment ∧
        captured.ledger.IsCaptured payment ∧ ¬captureFirst.ledger.IsCaptured payment := by
  refine ⟨pendingBooks, pendingAfter [.projectTerminal pendingDelivery],
    pendingAfter [.projectTerminal pendingDelivery, .enrich (sampleEnrichment attemptedRecord 5)],
    pendingDelivery, pendingStored, sampleCaptured "pay_A", sampleEnrichment attemptedRecord 5,
    pending_keyed, attemptedLedger_related, Machine.inTurn_of_play (by decide), rfl,
    pendingStored_open, ⟨rfl, _, rfl, rfl⟩, sampleEnrichment_reads attemptedRecord 5,
    ⟨_, rfl, rfl, rfl⟩, ?_⟩
  intro hcaptured
  obtain ⟨p, hp, hstatus, -⟩ := hcaptured
  have hread : (pendingAfter [.projectTerminal pendingDelivery,
      .enrich (sampleEnrichment attemptedRecord 5)]).ledger.payment "pay_A" = some
        (((samplePayment.capture (sampleCaptured "pay_A") "a" (clock 1)).observe failedFields
          (clock 5))) := rfl
  obtain rfl := Option.some.inj (hp.symm.trans hread)
  exact absurd hstatus (by decide)

end Retrywise.ControlPlane
