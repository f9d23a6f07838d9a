import Retrywise.ControlPlane.MoneySteps

/-!
# Captures that are taken

The laws so far read a projection backwards, from the books it has left. This module reads
it forwards: where the rows of a payment and its order can take a capture
(`Ledger.Capturable`), the next projection of it that returns carries it out.

> `Ledger.Capturable.replaced`: whether the rows can take a capture, and the total it comes
> to, is not changed by anything that leaves the payment uncaptured, its terms alone and its
> order behind the total.
-/

namespace Retrywise.ControlPlane

open Retrywise.Foundation Retrywise.Domain

section

variable {ledger found : Ledger} {payment : CapturedPayment} {target : CaptureTarget}
  {eventRecordId newId : String} {occurredAt : Timestamp}

/-- A capture the rows can take is planned. -/
theorem prepareCapture_of_capturable
    (hdiscovers : ledger.Discovers payment eventRecordId newId occurredAt found)
    (h : found.Capturable target payment occurredAt) :
    prepareCapture ledger payment eventRecordId newId occurredAt =
      .ok (found, .capture (found.capturePlan target payment)) := by
  have hdecided := decideCapture_of_capturable h
  unfold prepareCapture
  cases hdiscovers with
  | known =>
    rw [h.found]
    exact bind_ok_iff.mpr ⟨_, hdecided, rfl⟩
  | new order idOk horder hfits hpayment hfresh =>
    have hnone : ledger.captureTarget payment.providerPaymentId = none := by
      unfold Ledger.captureTarget
      rw [hpayment]
      rfl
    have hinserted : ledger.insertDiscovered payment order.id eventRecordId newId occurredAt =
        .ok { ledger with
          providerPayments := ledger.providerPayments ++
            [payment.discovered order.id eventRecordId newId occurredAt idOk] } := by
      have hno : ¬(ledger.providerPayments.any fun p => p.id = newId) = true := by
        simpa using hfresh
      unfold Ledger.insertDiscovered
      rw [dif_pos idOk, hpayment, if_neg (by simp), if_neg hno]
    rw [hnone, horder]
    dsimp only
    rw [if_neg (not_not.mpr hfits), hinserted]
    refine bind_ok_iff.mpr ⟨_, rfl, bind_ok_iff.mpr ⟨target, someOr_ok_iff.mpr h.found, ?_⟩⟩
    exact bind_ok_iff.mpr ⟨_, hdecided, rfl⟩

/-- A projection of a capture the rows can take carries it out, and settles its event. -/
theorem project_of_capturable {referenceIdOf : String → String} {d : EventDelivery}
    {books after : MoneyBooks} {stored : StoredEvent CanonicalEvent} {result : ProjectionResult}
    (hkeyed : books.ledger.Keyed)
    (h : (terminalProjector referenceIdOf).project d books = .ok (after, result))
    (hstored : books.storedEvent d.eventRecordId = some stored) (hopen : books.Open stored)
    (hevent : stored.event.Captures payment)
    (hdiscovers : books.ledger.Discovers payment stored.event.id d.newId
      stored.event.providerOccurredAt found)
    (hcapturable : found.Capturable target payment stored.event.providerOccurredAt) :
    ∃ inbox : InboxEvent, inbox.status = .processed ∧
      after = books.write stored (found.afterCapture target payment stored.event.id
        stored.event.providerOccurredAt d.now) inbox := by
  obtain ⟨ledger, prepared, started, hplan, hfinish⟩ :=
    Projector.project_finish h hstored hopen.unsettled hopen.attempts
  obtain ⟨htype, canonical, hcanonical, hpayment⟩ := hevent
  have hprepare : (terminalProjector referenceIdOf).prepare d books.ledger stored.event canonical =
      .ok (found, .work (.capture (found.capturePlan target payment))) := by
    have hterminal : prepareTerminal referenceIdOf d books.ledger stored.event canonical =
        .ok (found, .capture (found.capturePlan target payment)) := by
      unfold prepareTerminal
      rw [htype]
      exact bind_ok_iff.mpr ⟨payment, hpayment,
        prepareCapture_of_capturable hdiscovers hcapturable⟩
    exact bind_ok_iff.mpr ⟨_, hterminal, rfl⟩
  rcases Projector.plan_ok hplan with ⟨hreused, -, -⟩ | ⟨-, canonical', hcanonical', hprepared⟩
  · rw [hopen.first] at hreused
    exact absurd hreused (by simp)
  · obtain rfl := Except.ok.inj (hcanonical.symm.trans hcanonical')
    obtain ⟨rfl, rfl⟩ := Prod.mk.inj (Except.ok.inj (hprepare.symm.trans hprepared))
    obtain ⟨⟨moved, moveResult⟩, hmoved, hfinish⟩ := bind_ok_iff.mp hfinish
    obtain ⟨-, -, hfinish⟩ := bind_ok_iff.mp hfinish
    obtain ⟨rfl, -⟩ := Prod.mk.inj (pure_ok_iff.mp hfinish)
    obtain ⟨carried, hcarried, hpure⟩ := bind_ok_iff.mp hmoved
    obtain ⟨rfl, -⟩ := Prod.mk.inj (pure_ok_iff.mp hpure)
    have heq := Except.ok.inj
      ((Ledger.applyCapture_eq (hdiscovers.keyed hkeyed) hcapturable).symm.trans hcarried)
    refine ⟨started.settle .processed none, rfl, ?_⟩
    rw [heq]

/-- What was captured is in the total. -/
theorem Ledger.Capturable.amount_le (h : ledger.Capturable target payment occurredAt) :
    payment.amountMinor ≤ ledger.captureTotal target payment := by
  obtain ⟨front, rest, hsplit⟩ := List.append_of_mem h.mem_originalPath
  unfold captureTotal
  rw [hsplit, List.map_append, List.map_cons, pathAmount_some, if_pos rfl, List.sum_append,
    List.sum_cons]
  omega

end

/-! ## Rows that stand for others -/

/-- The rows of a payment and its order, in the place of the rows of a target: the same
terms, no money and nothing that refuses the capture. -/
structure CaptureTarget.Stands (target : CaptureTarget) (payment : CapturedPayment)
    (occurredAt : Timestamp) (p : StoredPayment) (o : LogicalOrder) : Prop where
  providerPaymentId : p.providerPaymentId = target.payment.providerPaymentId
  providerOrderId : p.providerOrderId = target.payment.providerOrderId
  logicalOrderId : p.logicalOrderId = target.payment.logicalOrderId
  amountMinor : p.amountMinor = target.payment.amountMinor
  currency : p.currency = target.payment.currency
  method : methodsAgree p.paymentMethod payment.paymentMethod = true
  status : p.status ∈ captureAcceptingPaymentStates
  refunded : p.refundedMinor = 0
  captured : p.capturedMinor ≤ p.amountMinor
  snapshot : p.status = .captured → p.providerSnapshotAt ≤ occurredAt
  order : o.id = target.order.id
  original : o.originalProviderOrderId = target.order.originalProviderOrderId
  due : o.amountDueMinor = target.order.amountDueMinor
  orderCurrency : o.currency = target.order.currency
  mapped : o.mappingStatus = .mapped

section

variable {found later : Ledger} {payment : CapturedPayment} {target : CaptureTarget}
  {occurredAt : Timestamp} {p : StoredPayment} {o : LogicalOrder}
  {front rest : List StoredPayment}

theorem CaptureTarget.Stands.exact (h : target.Stands payment occurredAt p o)
    (hexact : target.Exact payment) : CaptureTarget.Exact ⟨p, o⟩ payment where
  paymentId := h.providerPaymentId.trans hexact.paymentId
  orderId := h.providerOrderId.trans hexact.orderId
  original := h.original.trans hexact.original
  mapped := h.mapped
  amount := h.amountMinor.trans hexact.amount
  due := h.due.trans hexact.due
  currency := h.currency.trans hexact.currency
  orderCurrency := h.orderCurrency.trans hexact.orderCurrency
  method := h.method

/-- The paths of both orders take the same rows. -/
theorem CaptureTarget.Stands.samePath (h : target.Stands payment occurredAt p o) :
    Ledger.onOriginalPath o = Ledger.onOriginalPath target.order := by
  funext q
  unfold Ledger.onOriginalPath
  rw [h.order, h.original]

namespace Ledger

/-- The total of a capture counts the payment with what was captured, whatever its row has. -/
theorem captureTotal_replaced (hstands : target.Stands payment occurredAt p o)
    (hfound : found.providerPayments = front ++ target.payment :: rest)
    (hlater : later.providerPayments = front ++ p :: rest)
    (hothers : ∀ q ∈ front ++ rest, q.id ≠ target.payment.id ∧ q.id ≠ p.id)
    (hinstruments : later.recoveryInstruments = found.recoveryInstruments) :
    later.captureTotal ⟨p, o⟩ payment = found.captureTotal target payment := by
  have hpath := hstands.samePath
  -- the other rows of the path count with their own money in both
  have hrest : ∀ part : List StoredPayment, (∀ q ∈ part, q ∈ front ++ rest) →
      (part.filter (onOriginalPath o)).map (pathAmount (some (payment, p.id))) =
        (part.filter (onOriginalPath target.order)).map
          (pathAmount (some (payment, target.payment.id))) := by
    intro part hpart
    rw [hpath]
    apply List.map_congr_left
    intro q hq
    obtain ⟨hne, hne'⟩ := hothers q (hpart q (List.mem_filter.mp hq).1)
    rw [pathAmount_some, pathAmount_some, if_neg hne, if_neg hne']
  have hrow : ([p].filter (onOriginalPath o)).map (pathAmount (some (payment, p.id))) =
      ([target.payment].filter (onOriginalPath target.order)).map
        (pathAmount (some (payment, target.payment.id))) := by
    have hsame : onOriginalPath target.order p = onOriginalPath target.order target.payment := by
      unfold onOriginalPath
      rw [hstands.logicalOrderId, hstands.providerOrderId]
    rw [hpath, List.filter_singleton, List.filter_singleton, hsame]
    cases onOriginalPath target.order target.payment with
    | true => simp [pathAmount_some]
    | false => rfl
  have hsum : ((later.originalPath o).map (pathAmount (some (payment, p.id)))).sum =
      ((found.originalPath target.order).map
        (pathAmount (some (payment, target.payment.id)))).sum := by
    unfold originalPath
    rw [hfound, hlater, List.append_cons, List.append_cons front target.payment]
    simp only [List.filter_append, List.map_append]
    rw [hrest front fun _ h => List.mem_append_left _ h, hrow,
      hrest rest fun _ h => List.mem_append_right _ h]
  have hinstrument : isOrderInstrument o = isOrderInstrument target.order := by
    funext i
    unfold isOrderInstrument
    rw [hstands.order, hstands.orderCurrency]
  unfold captureTotal recoveryMoney
  rw [hsum, hinstruments, hinstrument]

/-- **Rows that stand for others.** A capture is taken by the rows that stand for those of
its target, when the order there is not beyond the total. -/
theorem Capturable.replaced (h : found.Capturable target payment occurredAt)
    (hstands : target.Stands payment occurredAt p o)
    (hfound : found.providerPayments = front ++ target.payment :: rest)
    (hlater : later.providerPayments = front ++ p :: rest)
    (hothers : ∀ q ∈ front ++ rest, q.id ≠ target.payment.id ∧ q.id ≠ p.id)
    (hinstruments : later.recoveryInstruments = found.recoveryInstruments)
    (hpayment : later.payment payment.providerPaymentId = some p)
    (horder : later.order p.logicalOrderId = some o)
    (hforward : o.Forward (found.captureTotal target payment)) :
    later.Capturable ⟨p, o⟩ payment occurredAt := by
  have hexact := CaptureTarget.exact_iff.mp (CaptureTarget.refusal_eq_none_iff.mp h.accepted).1
  have hstandsExact := hstands.exact hexact
  have htotal := captureTotal_replaced hstands hfound hlater hothers hinstruments
  have hcurrency : o.currency = p.currency :=
    hstandsExact.orderCurrency.trans hstandsExact.currency.symm
  have htarget : later.captureTarget payment.providerPaymentId = some ⟨p, o⟩ :=
    captureTarget_eq_some_iff.mpr ⟨hpayment, horder, hcurrency⟩
  have honPath : p ∈ later.originalPath o := by
    obtain ⟨hmem, -, -, hlogical⟩ := captureTarget_rows htarget
    have horderId : p.providerOrderId = some payment.providerOrderId := hstandsExact.orderId
    have horiginal : o.originalProviderOrderId = some payment.providerOrderId :=
      hstandsExact.original
    have hlogical : p.logicalOrderId = o.id := hlogical
    refine List.mem_filter.mpr ⟨hmem, ?_⟩
    simp [onOriginalPath, horderId, horiginal, hlogical]
  refine ⟨htarget, CaptureTarget.refusal_eq_none_iff.mpr ⟨CaptureTarget.exact_iff.mpr hstandsExact,
    hstands.status, hstands.refunded, hstands.snapshot⟩, ?_, by rwa [htotal]⟩
  have hid : p.providerPaymentId = payment.providerPaymentId := hstandsExact.paymentId
  have hcaptured : p.amountMinor = payment.amountMinor := hstandsExact.amount
  have hamount : p.amountMinor ≠ 0 := by
    rw [hcaptured]
    exact Nat.pos_iff_ne_zero.mp payment.positive
  refine ⟨?_, ?_, ?_, fun _ hnone => absurd hnone (by simp), htotal ▸ h.countable.bounded,
    htotal ▸ h.countable.positive, ?_⟩
  · intro q hq
    obtain ⟨hmem, hon⟩ := List.mem_filter.mp hq
    by_cases hself : q = p
    · rw [hself]
      refine ⟨⟨rfl, ?_⟩, ⟨hamount, hstands.captured⟩, ?_⟩
      · rw [hstands.refunded]
        exact Nat.zero_le _
      · simp [Option.filter, hid, hcaptured]
    · have hother : q ∈ front ++ rest := by
        rw [hlater] at hmem
        simp only [List.mem_append, List.mem_cons, hself, false_or] at hmem ⊢
        exact hmem
      obtain ⟨hne, hne'⟩ := hothers q hother
      have hqFound : q ∈ found.originalPath target.order := by
        refine List.mem_filter.mpr ⟨?_, hstands.samePath ▸ hon⟩
        rw [hfound]
        simp only [List.mem_append, List.mem_cons] at hother ⊢
        exact hother.imp_right .inr
      obtain ⟨hmoney, hrow, hstatus⟩ := h.countable.payments q hqFound
      refine ⟨⟨hstands.currency ▸ hmoney.1, hmoney.2⟩, hrow, ?_⟩
      simpa [Option.filter, hne, hne'] using hstatus
  · intro c hc
    obtain rfl := Option.some.inj hc
    exact ⟨p, honPath, rfl⟩
  · intro i hi
    have hiFound : i ∈ found.orderInstruments target.order := by
      obtain ⟨hmem, hon⟩ := List.mem_filter.mp hi
      refine List.mem_filter.mpr ⟨hinstruments ▸ hmem, ?_⟩
      simpa [isOrderInstrument, hstands.order, hstands.orderCurrency] using hon
    exact hstands.currency ▸ h.countable.instruments i hiFound
  · rw [hstands.due]
    exact h.countable.due

end Ledger

end

end Retrywise.ControlPlane
