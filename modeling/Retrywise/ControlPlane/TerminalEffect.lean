import Retrywise.ControlPlane.TerminalMoney

/-!
# What a terminal projection does

The plans of `TerminalMoney` and their execution, read backwards. A plan that was made
says what its order's rows were (`CapturePlan.Sound`, `LinkPlan.Sound`), and an execution
that returned says what the rows are now (`applyCapture_ok`, `applyLink_ok`): one payment or
one instrument is written, the order is, and the cases have gone where the plan says
(`CasesMoved`). Nothing here is executed again by the laws that follow.

> The total a plan writes is the sum over both paths once its own row is written
> (`originalMoney_put`, `recoveryMoney_put`).
-/

namespace Retrywise.ControlPlane

open Retrywise.Foundation Retrywise.Domain

/-! ## Totals -/

theorem checkedSum_ok_iff {values : List Nat} {field : String} {total : Nat} :
    checkedSum values field = .ok total ↔ values.sum ≤ maxSignedBigint ∧ values.sum = total := by
  simp only [checkedSum, bind_ok_iff, raiseIf_ok_iff, pure_ok_iff, not_lt, exists_and_left,
    exists_const]

/-- What a payment counts with in a total. -/
def pathAmount (captured : Option (CapturedPayment × String)) (p : StoredPayment) : Nat :=
  match captured.filter fun c => p.id = c.2 with
  | some (payment, _) => payment.amountMinor
  | none => p.capturedMinor

/-- The row of a payment is one a total can be taken over. -/
def StoredPayment.Counted (p : StoredPayment) (currency : String)
    (captured : Option (CapturedPayment × String)) : Prop :=
  (p.currency = currency ∧ p.refundedMinor ≤ p.capturedMinor) ∧
    (p.amountMinor ≠ 0 ∧ p.capturedMinor ≤ p.amountMinor) ∧
    match captured.filter fun c => p.id = c.2 with
    | some (payment, _) =>
      p.providerPaymentId = payment.providerPaymentId ∧ p.amountMinor = payment.amountMinor
    | none => p.status ∈ [.captured, .refunded] ∨ p.capturedMinor = 0

theorem pathCaptured_ok_iff {currency : String} {captured : Option (CapturedPayment × String)}
    {p : StoredPayment} {amount : Nat} :
    pathCaptured currency captured p = .ok amount ↔
      p.Counted currency captured ∧ amount = pathAmount captured p := by
  unfold pathCaptured StoredPayment.Counted pathAmount
  simp only [bind_ok_iff, raiseIf_ok_iff, exists_and_left, exists_const, not_or, not_not, not_lt]
  cases captured.filter fun c => p.id = c.2 with
  | some c =>
    obtain ⟨payment, id⟩ := c
    simp only [bind_ok_iff, raiseIf_ok_iff, not_or, not_not, exists_and_left, exists_const,
      pure_ok_iff, and_assoc]
    constructor
    · rintro ⟨h₁, h₂, h₃, h₄, h₅, h₆, h₇⟩
      exact ⟨h₁, h₂, h₃, h₄, h₅, h₆, h₇.symm⟩
    · rintro ⟨h₁, h₂, h₃, h₄, h₅, h₆, h₇⟩
      exact ⟨h₁, h₂, h₃, h₄, h₅, h₆, h₇.symm⟩
  | none =>
    by_cases hstatus : p.status ∈ [ProviderPaymentStatus.captured, .refunded]
    · rw [if_pos hstatus, pure_ok_iff]
      constructor
      · rintro ⟨h₁, h₂, h₃⟩
        exact ⟨⟨h₁, h₂, .inl hstatus⟩, h₃.symm⟩
      · rintro ⟨⟨h₁, h₂, -⟩, h₃⟩
        exact ⟨h₁, h₂, h₃.symm⟩
    · rw [if_neg hstatus]
      simp only [bind_ok_iff, raiseIf_ok_iff, not_not, exists_and_left, exists_const, pure_ok_iff]
      constructor
      · rintro ⟨h₁, h₂, h₃, h₄⟩
        exact ⟨⟨h₁, h₂, .inr h₃⟩, h₄.symm.trans h₃.symm⟩
      · rintro ⟨⟨h₁, h₂, h₃⟩, h₄⟩
        have hzero := h₃.resolve_left hstatus
        exact ⟨h₁, h₂, hzero, (h₄.trans hzero).symm⟩

theorem originalTotal_ok_iff {payments : List StoredPayment} {currency : String}
    {captured : Option (CapturedPayment × String)} {total : Nat} :
    originalTotal payments currency captured = .ok total ↔
      (∀ p ∈ payments, p.Counted currency captured) ∧
        (∀ c, captured = some c → ∃ p ∈ payments, p.id = c.2) ∧
        (payments.map (pathAmount captured)).sum ≤ maxSignedBigint ∧
        (payments.map (pathAmount captured)).sum = total := by
  have hvalue : ∀ p amount, pathCaptured currency captured p = .ok amount →
      amount = pathAmount captured p := fun p amount h => (pathCaptured_ok_iff.mp h).2
  simp only [originalTotal, bind_ok_iff, raiseIf_ok_iff, mapM_ok_iff hvalue, checkedSum_ok_iff,
    pathCaptured_ok_iff, and_true]
  have hseen : (¬(captured.any fun c => payments.all fun p => p.id ≠ c.2) = true) ↔
      ∀ c, captured = some c → ∃ p ∈ payments, p.id = c.2 := by
    cases captured with
    | none => simp
    | some c => simp
  rw [hseen]
  constructor
  · rintro ⟨parts, ⟨rfl, hcounted⟩, -, hfound, hbound, htotal⟩
    exact ⟨hcounted, hfound, hbound, htotal⟩
  · rintro ⟨hcounted, hfound, hbound, htotal⟩
    exact ⟨_, ⟨rfl, hcounted⟩, (), hfound, hbound, htotal⟩

/-- What an instrument counts with in a total. -/
def collectedAmount (collected : Option (PaymentLinkCollection × String))
    (i : RecoveryInstrument) : Nat :=
  match collected.filter fun c => i.id = c.2 with
  | some (collection, _) => collection.amountPaidMinor
  | none => i.collectedMinor

/-- The row of an instrument is one a total can be taken over. -/
def RecoveryInstrument.Counted (i : RecoveryInstrument) (currency : String)
    (collected : Option (PaymentLinkCollection × String)) : Prop :=
  (i.currency = currency ∧ i.refundedMinor ≤ i.collectedMinor) ∧
    (i.amountMinor ≠ 0 ∧ i.collectedMinor ≤ i.amountMinor) ∧
    match collected.filter fun c => i.id = c.2 with
    | some (collection, _) =>
      i.providerPaymentLinkId = some collection.providerPaymentLinkId ∧
        i.amountMinor = collection.amountMinor ∧ i.referenceId = collection.referenceId
    | none => i.status ∈ [.paid, .partiallyPaid] ∨ i.collectedMinor = 0

theorem pathCollected_ok_iff {currency : String}
    {collected : Option (PaymentLinkCollection × String)} {i : RecoveryInstrument}
    {amount : Nat} :
    pathCollected currency collected i = .ok amount ↔
      i.Counted currency collected ∧ amount = collectedAmount collected i := by
  unfold pathCollected RecoveryInstrument.Counted collectedAmount
  simp only [bind_ok_iff, raiseIf_ok_iff, exists_and_left, exists_const, not_or, not_not, not_lt]
  cases collected.filter fun c => i.id = c.2 with
  | some c =>
    obtain ⟨collection, id⟩ := c
    simp only [bind_ok_iff, raiseIf_ok_iff, not_or, not_not, exists_and_left, exists_const,
      pure_ok_iff, and_assoc]
    constructor
    · rintro ⟨h₁, h₂, h₃, h₄, h₅, h₆, h₇, h₈⟩
      exact ⟨h₁, h₂, h₃, h₄, h₅, h₆, h₇, h₈.symm⟩
    · rintro ⟨h₁, h₂, h₃, h₄, h₅, h₆, h₇, h₈⟩
      exact ⟨h₁, h₂, h₃, h₄, h₅, h₆, h₇, h₈.symm⟩
  | none =>
    by_cases hstatus : i.status ∈ [InstrumentStatus.paid, .partiallyPaid]
    · rw [if_pos hstatus, pure_ok_iff]
      constructor
      · rintro ⟨h₁, h₂, h₃⟩
        exact ⟨⟨h₁, h₂, .inl hstatus⟩, h₃.symm⟩
      · rintro ⟨⟨h₁, h₂, -⟩, h₃⟩
        exact ⟨h₁, h₂, h₃.symm⟩
    · rw [if_neg hstatus]
      simp only [bind_ok_iff, raiseIf_ok_iff, not_not, exists_and_left, exists_const, pure_ok_iff]
      constructor
      · rintro ⟨h₁, h₂, h₃, h₄⟩
        exact ⟨⟨h₁, h₂, .inr h₃⟩, h₄.symm.trans h₃.symm⟩
      · rintro ⟨⟨h₁, h₂, h₃⟩, h₄⟩
        have hzero := h₃.resolve_left hstatus
        exact ⟨h₁, h₂, hzero, (h₄.trans hzero).symm⟩

theorem recoveryTotal_ok_iff {instruments : List RecoveryInstrument} {currency : String}
    {collected : Option (PaymentLinkCollection × String)} {total : Nat} :
    recoveryTotal instruments currency collected = .ok total ↔
      (∀ i ∈ instruments, i.Counted currency collected) ∧
        (∀ c, collected = some c → ∃ i ∈ instruments, i.id = c.2) ∧
        (instruments.map (collectedAmount collected)).sum ≤ maxSignedBigint ∧
        (instruments.map (collectedAmount collected)).sum = total := by
  have hvalue : ∀ i amount, pathCollected currency collected i = .ok amount →
      amount = collectedAmount collected i := fun i amount h => (pathCollected_ok_iff.mp h).2
  simp only [recoveryTotal, bind_ok_iff, raiseIf_ok_iff, mapM_ok_iff hvalue, checkedSum_ok_iff,
    pathCollected_ok_iff, and_true]
  have hseen : (¬(collected.any fun c => instruments.all fun i => i.id ≠ c.2) = true) ↔
      ∀ c, collected = some c → ∃ i ∈ instruments, i.id = c.2 := by
    cases collected with
    | none => simp
    | some c => simp
  rw [hseen]
  constructor
  · rintro ⟨parts, ⟨rfl, hcounted⟩, -, hfound, hbound, htotal⟩
    exact ⟨hcounted, hfound, hbound, htotal⟩
  · rintro ⟨hcounted, hfound, hbound, htotal⟩
    exact ⟨_, ⟨rfl, hcounted⟩, (), hfound, hbound, htotal⟩

theorem truthForTotal_ok_iff {total amountDue : Nat} {truth : CanonicalPaymentState} :
    truthForTotal total amountDue = .ok truth ↔
      total ≠ 0 ∧ amountDue ≠ 0 ∧ truthOf total amountDue = truth := by
  simp only [truthForTotal, bind_ok_iff, raiseIf_ok_iff, not_or, exists_and_left, exists_const,
    pure_ok_iff, and_assoc]

/-! ## The plans -/

/-- The total of a capture, before the row is written. -/
def Ledger.captureTotal (ledger : Ledger) (target : CaptureTarget) (payment : CapturedPayment) :
    Nat :=
  ((ledger.originalPath target.order).map
    (pathAmount (some (payment, target.payment.id)))).sum + ledger.recoveryMoney target.order

/-- The total of a collection, before the row is written. -/
def Ledger.collectionTotal (ledger : Ledger) (target : LinkTarget)
    (collection : PaymentLinkCollection) : Nat :=
  ledger.originalMoney target.order + ((ledger.orderInstruments target.order).map
    (collectedAmount (some (collection, target.instrument.id)))).sum

theorem sum_map_pathAmount_none (ledger : Ledger) (order : LogicalOrder) :
    ((ledger.originalPath order).map (pathAmount none)).sum = ledger.originalMoney order := rfl

theorem sum_map_collectedAmount_none (ledger : Ledger) (order : LogicalOrder) :
    ((ledger.orderInstruments order).map (collectedAmount none)).sum =
      ledger.recoveryMoney order := rfl

/-- The rows a total is taken over are in order, and the total is one. -/
structure Ledger.Countable (ledger : Ledger) (order : LogicalOrder) (currency : String)
    (captured : Option (CapturedPayment × String))
    (collected : Option (PaymentLinkCollection × String)) (total : Nat) : Prop where
  payments : ∀ p ∈ ledger.originalPath order, p.Counted currency captured
  captured : ∀ c, captured = some c → ∃ p ∈ ledger.originalPath order, p.id = c.2
  instruments : ∀ i ∈ ledger.orderInstruments order, i.Counted currency collected
  collected : ∀ c, collected = some c → ∃ i ∈ ledger.orderInstruments order, i.id = c.2
  bounded : total ≤ maxSignedBigint
  positive : total ≠ 0
  due : order.amountDueMinor ≠ 0

/-- A total goes forward from what the order has. -/
def LogicalOrder.Forward (o : LogicalOrder) (total : Nat) : Prop :=
  moneyIsMonotonic o.capturedTotalMinor total o.refundedTotalMinor o.canonicalTruth
    (truthOf total o.amountDueMinor) = true

instance (o : LogicalOrder) (total : Nat) : Decidable (o.Forward total) :=
  inferInstanceAs (Decidable (_ = true))

/-- The plan of a capture. -/
def Ledger.capturePlan (ledger : Ledger) (target : CaptureTarget) (payment : CapturedPayment) :
    CapturePlan where
  target := target
  payment := payment
  capturedTotalMinor := ledger.captureTotal target payment
  canonicalTruth := truthOf (ledger.captureTotal target payment) target.order.amountDueMinor
  caseTransitions := (ledger.orderCases target.order).filterMap
    (captureTransition (collectedCaseIds (ledger.orderInstruments target.order)))

/-- The plan of a collection. -/
def Ledger.linkPlan (ledger : Ledger) (target : LinkTarget)
    (collection : PaymentLinkCollection) : LinkPlan where
  target := target
  collection := collection
  capturedTotalMinor := ledger.collectionTotal target collection
  canonicalTruth :=
    truthOf (ledger.collectionTotal target collection) target.order.amountDueMinor
  caseTransition := linkTransition target collection (ledger.originalMoney target.order)
    (ledger.collectionTotal target collection)

/-- A capture that can be counted is planned, or conflicts with what the order has. -/
theorem planCapture_ok_iff {ledger : Ledger} {target : CaptureTarget} {payment : CapturedPayment}
    {plan : TerminalPlan} :
    planCapture ledger target payment = .ok plan ↔
      ledger.Countable target.order target.payment.currency
          (some (payment, target.payment.id)) none (ledger.captureTotal target payment) ∧
        plan = if target.order.Forward (ledger.captureTotal target payment) then
            .capture (ledger.capturePlan target payment)
          else .ignored "captured_order_truth_conflict" := by
  unfold planCapture
  simp only [bind_ok_iff, originalTotal_ok_iff, recoveryTotal_ok_iff, checkedSum_ok_iff,
    truthForTotal_ok_iff, List.sum_cons, List.sum_nil, Nat.add_zero]
  constructor
  · rintro ⟨original, ⟨hpayments, hcaptured, -, rfl⟩, recovery, ⟨hinstruments, -, -, rfl⟩, total,
      ⟨hbound, rfl⟩, truth, ⟨hpositive, hdue, rfl⟩, hplan⟩
    refine ⟨⟨hpayments, hcaptured, hinstruments, fun _ h => absurd h (by simp), hbound, hpositive, hdue⟩, ?_⟩
    by_cases hforward : target.order.Forward (ledger.captureTotal target payment)
    · rw [if_pos hforward]
      exact (pure_ok_iff.mp ((if_pos hforward).symm.trans hplan)).symm
    · rw [if_neg hforward]
      exact (pure_ok_iff.mp ((if_neg hforward).symm.trans hplan)).symm
  · rintro ⟨hcount, rfl⟩
    have hle := hcount.bounded
    unfold Ledger.captureTotal at hle
    refine ⟨_, ⟨hcount.payments, hcount.captured, by omega, rfl⟩, _,
      ⟨hcount.instruments, fun _ h => absurd h (by simp), ?_, rfl⟩, _, ⟨hcount.bounded, rfl⟩, _,
      ⟨hcount.positive, hcount.due, rfl⟩, ?_⟩
    · rw [sum_map_collectedAmount_none]
      omega
    · by_cases hforward : target.order.Forward (ledger.captureTotal target payment)
      · rw [if_pos hforward]
        exact if_pos hforward
      · rw [if_neg hforward]
        exact if_neg hforward

/-- A collection that can be counted is planned, or conflicts with what the order has. -/
theorem planLink_ok_iff {ledger : Ledger} {target : LinkTarget}
    {collection : PaymentLinkCollection} {plan : TerminalPlan} :
    planLink ledger target collection = .ok plan ↔
      ledger.Countable target.order target.instrument.currency none
          (some (collection, target.instrument.id)) (ledger.collectionTotal target collection) ∧
        plan = if target.order.Forward (ledger.collectionTotal target collection) then
            .link (ledger.linkPlan target collection)
          else .ignored "recovery_order_truth_conflict" := by
  unfold planLink
  simp only [bind_ok_iff, originalTotal_ok_iff, recoveryTotal_ok_iff, checkedSum_ok_iff,
    truthForTotal_ok_iff, List.sum_cons, List.sum_nil, Nat.add_zero]
  constructor
  · rintro ⟨original, ⟨hpayments, -, -, rfl⟩, recovery, ⟨hinstruments, hcollected, -, rfl⟩, total,
      ⟨hbound, rfl⟩, truth, ⟨hpositive, hdue, rfl⟩, hplan⟩
    refine ⟨⟨hpayments, fun _ h => absurd h (by simp), hinstruments, hcollected, hbound, hpositive, hdue⟩,
      ?_⟩
    by_cases hforward : target.order.Forward (ledger.collectionTotal target collection)
    · rw [if_pos hforward]
      exact (pure_ok_iff.mp ((if_pos hforward).symm.trans hplan)).symm
    · rw [if_neg hforward]
      exact (pure_ok_iff.mp ((if_neg hforward).symm.trans hplan)).symm
  · rintro ⟨hcount, rfl⟩
    have hle := hcount.bounded
    unfold Ledger.collectionTotal at hle
    refine ⟨_, ⟨hcount.payments, fun _ h => absurd h (by simp), ?_, rfl⟩, _,
      ⟨hcount.instruments, hcount.collected, by omega, rfl⟩, _, ⟨hcount.bounded, rfl⟩, _,
      ⟨hcount.positive, hcount.due, rfl⟩, ?_⟩
    · rw [sum_map_pathAmount_none]
      omega
    · by_cases hforward : target.order.Forward (ledger.collectionTotal target collection)
      · rw [if_pos hforward]
        exact if_pos hforward
      · rw [if_neg hforward]
        exact if_neg hforward

/-! ## Targets -/

section

variable {ledger found : Ledger} {payment : CapturedPayment} {order : LogicalOrder}

theorem captureTarget_eq_some_iff {providerPaymentId : String} {target : CaptureTarget} :
    ledger.captureTarget providerPaymentId = some target ↔
      ledger.payment providerPaymentId = some target.payment ∧
        ledger.order target.payment.logicalOrderId = some target.order ∧
        target.order.currency = target.payment.currency := by
  obtain ⟨targetPayment, targetOrder⟩ := target
  unfold Ledger.captureTarget
  cases ledger.payment providerPaymentId with
  | none => simp
  | some p =>
    cases horder : ledger.order p.logicalOrderId with
    | none =>
      simp only [Option.bind_eq_bind, Option.bind_some, horder, Option.bind_none, reduceCtorEq,
        Option.some.injEq, false_iff, not_and]
      rintro rfl hfound
      exact absurd (horder.symm.trans hfound) (by simp)
    | some o =>
      by_cases hcurrency : o.currency = p.currency
      · simp only [Option.bind_eq_bind, Option.bind_some, horder, hcurrency, if_true,
          Option.pure_def, Option.some.injEq, CaptureTarget.mk.injEq]
        constructor
        · rintro ⟨rfl, rfl⟩
          exact ⟨rfl, horder, hcurrency⟩
        · rintro ⟨rfl, hfound, -⟩
          exact ⟨rfl, Option.some.inj (horder.symm.trans hfound)⟩
      · simp only [Option.bind_eq_bind, Option.bind_some, horder, if_neg hcurrency, reduceCtorEq,
          Option.some.injEq, false_iff, not_and]
        rintro rfl hfound
        rw [← Option.some.inj (horder.symm.trans hfound)]
        exact hcurrency

/-- Which captures are not refused. -/
theorem CaptureTarget.refusal_eq_none_iff {target : CaptureTarget} {occurredAt : Timestamp} :
    target.refusal payment occurredAt = none ↔
      target.exact payment = true ∧ target.payment.status ∈ captureAcceptingPaymentStates ∧
        target.payment.refundedMinor = 0 ∧
        (target.payment.status = .captured → target.payment.providerSnapshotAt ≤ occurredAt) := by
  unfold CaptureTarget.refusal
  by_cases hexact : target.exact payment = true
  · by_cases hstatus : target.payment.status ∈ captureAcceptingPaymentStates
    · by_cases hrefunded : target.payment.refundedMinor = 0
      · simp [hexact, hstatus, hrefunded]
      · simp [hexact, hstatus, hrefunded]
    · simp [hexact, hstatus]
  · simp [hexact]

theorem LinkTarget.refusal_eq_none_iff {target : LinkTarget} {collection : PaymentLinkCollection}
    {referenceId : String} :
    target.refusal collection referenceId = none ↔
      target.exact collection referenceId = true ∧
        target.instrument.status ∈ collection.eventType.acceptingStates ∧
        target.instrument.collectedMinor ≤ collection.amountPaidMinor ∧
        target.instrument.refundedMinor = 0 ∧ target.order.originalProviderOrderId ≠ none := by
  unfold LinkTarget.refusal
  by_cases hexact : target.exact collection referenceId = true
  · by_cases hstatus : target.instrument.status ∈ collection.eventType.acceptingStates
    · by_cases hless : collection.amountPaidMinor < target.instrument.collectedMinor
      · simp [hexact, hstatus, hless]
      · by_cases hrefunded : target.instrument.refundedMinor = 0
        · simp [hexact, hstatus, hless, hrefunded, Nat.le_of_not_lt hless]
        · simp [hexact, hstatus, hless, hrefunded]
    · simp [hexact, hstatus]
  · simp [hexact]

/-- What an exact capture has in common with its row and order. -/
structure CaptureTarget.Exact (target : CaptureTarget) (payment : CapturedPayment) : Prop where
  paymentId : target.payment.providerPaymentId = payment.providerPaymentId
  orderId : target.payment.providerOrderId = some payment.providerOrderId
  original : target.order.originalProviderOrderId = some payment.providerOrderId
  mapped : target.order.mappingStatus = .mapped
  amount : target.payment.amountMinor = payment.amountMinor
  due : target.order.amountDueMinor = payment.amountMinor
  currency : target.payment.currency = payment.currency
  orderCurrency : target.order.currency = payment.currency
  method : methodsAgree target.payment.paymentMethod payment.paymentMethod = true

theorem CaptureTarget.exact_iff {target : CaptureTarget} :
    target.exact payment = true ↔ target.Exact payment := by
  simp only [CaptureTarget.exact, CaptureTarget.mapsTo, Bool.and_eq_true, decide_eq_true_eq]
  constructor
  · rintro ⟨⟨⟨⟨⟨⟨⟨⟨h₁, h₂⟩, h₃⟩, h₄⟩, h₅⟩, h₆⟩, h₇⟩, h₈⟩, h₉⟩
    exact ⟨h₁, h₂, h₃, h₄, h₅, h₆, h₇, h₈, h₉⟩
  · intro h
    exact ⟨⟨⟨⟨⟨⟨⟨⟨h.paymentId, h.orderId⟩, h.original⟩, h.mapped⟩, h.amount⟩, h.due⟩, h.currency⟩,
      h.orderCurrency⟩, h.method⟩

/-- What an exact collection has in common with its rows. -/
structure LinkTarget.Exact (target : LinkTarget) (collection : PaymentLinkCollection)
    (referenceId : String) : Prop where
  link : target.instrument.providerPaymentLinkId = some collection.providerPaymentLinkId
  reference : target.instrument.referenceId = referenceId
  collectionReference : collection.referenceId = referenceId
  amount : target.instrument.amountMinor = collection.amountMinor
  due : target.order.amountDueMinor = collection.amountMinor
  currency : target.instrument.currency = collection.currency
  orderCurrency : target.order.currency = collection.currency
  mapped : target.order.mappingStatus = .mapped
  order : target.instrument.providerOrderId.all (· = collection.providerOrderId) = true
  payment : target.instrument.providerPaymentId.all (· = collection.providerPaymentId) = true

theorem LinkTarget.exact_iff {target : LinkTarget} {collection : PaymentLinkCollection}
    {referenceId : String} :
    target.exact collection referenceId = true ↔ target.Exact collection referenceId := by
  simp only [LinkTarget.exact, Bool.and_eq_true, decide_eq_true_eq]
  constructor
  · rintro ⟨⟨⟨⟨⟨⟨⟨⟨⟨h₁, h₂⟩, h₃⟩, h₄⟩, h₅⟩, h₆⟩, h₇⟩, h₈⟩, h₉⟩, h₁₀⟩
    exact ⟨h₁, h₂, h₃, h₄, h₅, h₆, h₇, h₈, h₉, h₁₀⟩
  · intro h
    exact ⟨⟨⟨⟨⟨⟨⟨⟨⟨h.link, h.reference⟩, h.collectionReference⟩, h.amount⟩, h.due⟩, h.currency⟩,
      h.orderCurrency⟩, h.mapped⟩, h.order⟩, h.payment⟩

theorem linkTarget_eq_some {providerPaymentLinkId : String} {target : LinkTarget}
    (h : ledger.linkTarget providerPaymentLinkId = some target) :
    target.instrument ∈ ledger.recoveryInstruments ∧
      target.instrument.providerPaymentLinkId = some providerPaymentLinkId ∧
      Table.find RecoveryCase.id target.instrument.recoveryCaseId ledger.recoveryCases =
        some target.recoveryCase ∧
      ledger.order target.instrument.logicalOrderId = some target.order ∧
      target.recoveryCase.logicalOrderId = target.instrument.logicalOrderId ∧
      target.recoveryCase.currency = target.instrument.currency ∧
      target.recoveryCase.amountDueSnapshotMinor = target.instrument.amountMinor ∧
      target.order.currency = target.instrument.currency ∧
      target.order.amountDueMinor = target.instrument.amountMinor := by
  unfold Ledger.linkTarget at h
  obtain ⟨i, hi, h⟩ := Option.bind_eq_some_iff.mp h
  obtain ⟨c, hc, h⟩ := Option.bind_eq_some_iff.mp h
  obtain ⟨o, ho, h⟩ := Option.bind_eq_some_iff.mp h
  split_ifs at h with hjoin
  obtain rfl := Option.some.inj h
  obtain ⟨h₁, h₂, h₃, h₄, h₅⟩ := hjoin
  exact ⟨List.mem_of_find?_eq_some hi, by simpa using List.find?_some hi, hc, ho, h₁, h₂, h₃, h₄,
    h₅⟩

/-! ## Discovery -/

/-- The rows a capture finds: those of the books, or one more, of a payment that was not
there and whose order is. -/
inductive Ledger.Discovers (ledger : Ledger) (payment : CapturedPayment)
    (eventRecordId newId : String) (occurredAt : Timestamp) : Ledger → Prop
  | known : Discovers ledger payment eventRecordId newId occurredAt ledger
  | new (order : LogicalOrder) (idOk : isUlid newId = true)
      (horder : ledger.orderFor payment.providerOrderId = some order)
      (hfits : payment.fitsOrder order = true)
      (hpayment : ledger.payment payment.providerPaymentId = none)
      (hfresh : ∀ p ∈ ledger.providerPayments, p.id ≠ newId) :
      Discovers ledger payment eventRecordId newId occurredAt { ledger with
        providerPayments := ledger.providerPayments ++
          [payment.discovered order.id eventRecordId newId occurredAt idOk] }

theorem insertDiscovered_ok {eventRecordId newId : String} {occurredAt : Timestamp}
    (h : ledger.insertDiscovered payment order.id eventRecordId newId occurredAt = .ok found)
    (horder : ledger.orderFor payment.providerOrderId = some order)
    (hfits : payment.fitsOrder order = true) :
    ledger.Discovers payment eventRecordId newId occurredAt found := by
  unfold Ledger.insertDiscovered at h
  split_ifs at h with hid hknown hconflict
  · obtain rfl := Except.ok.inj h
    exact .known
  · obtain rfl := Except.ok.inj h
    refine .new order hid horder hfits (by simpa using hknown) ?_
    intro p hp heq
    exact hconflict (List.any_eq_true.mpr ⟨p, hp, by simpa using heq⟩)

/-- What a decided capture has found out. -/
structure Ledger.Capturable (ledger : Ledger) (target : CaptureTarget) (payment : CapturedPayment)
    (occurredAt : Timestamp) : Prop where
  found : ledger.captureTarget payment.providerPaymentId = some target
  accepted : target.refusal payment occurredAt = none
  countable : ledger.Countable target.order target.payment.currency
    (some (payment, target.payment.id)) none (ledger.captureTotal target payment)
  forward : target.order.Forward (ledger.captureTotal target payment)

theorem decideCapture_ok {target : CaptureTarget} {occurredAt : Timestamp} {plan : TerminalPlan}
    (htarget : ledger.captureTarget payment.providerPaymentId = some target)
    (h : decideCapture ledger target payment occurredAt = .ok plan) :
    (∃ reason, plan = .ignored reason) ∨
      ledger.Capturable target payment occurredAt ∧
        plan = .capture (ledger.capturePlan target payment) := by
  unfold decideCapture at h
  cases hrefusal : target.refusal payment occurredAt with
  | some reason =>
    rw [hrefusal] at h
    exact .inl ⟨reason, (Except.ok.inj h).symm⟩
  | none =>
    rw [hrefusal] at h
    obtain ⟨hcount, rfl⟩ := planCapture_ok_iff.mp h
    by_cases hforward : target.order.Forward (ledger.captureTotal target payment)
    · exact .inr ⟨⟨htarget, hrefusal, hcount, hforward⟩, if_pos hforward⟩
    · exact .inl ⟨_, if_neg hforward⟩

theorem decideCapture_of_capturable {target : CaptureTarget} {occurredAt : Timestamp}
    (h : ledger.Capturable target payment occurredAt) :
    decideCapture ledger target payment occurredAt =
      .ok (.capture (ledger.capturePlan target payment)) := by
  unfold decideCapture
  rw [h.accepted]
  exact planCapture_ok_iff.mpr ⟨h.countable, (if_pos h.forward).symm⟩

/-- A prepared capture is ignored, or it is one the rows it has found can take. -/
theorem prepareCapture_ok {eventRecordId newId : String} {occurredAt : Timestamp}
    {plan : TerminalPlan}
    (h : prepareCapture ledger payment eventRecordId newId occurredAt = .ok (found, plan)) :
    ledger.Discovers payment eventRecordId newId occurredAt found ∧
      ((∃ reason, plan = .ignored reason) ∨
        ∃ target, found.Capturable target payment occurredAt ∧
          plan = .capture (found.capturePlan target payment)) := by
  unfold prepareCapture at h
  cases htarget : ledger.captureTarget payment.providerPaymentId with
  | some target =>
    rw [htarget] at h
    obtain ⟨decided, hdecided, h⟩ := bind_ok_iff.mp h
    obtain ⟨rfl, rfl⟩ := Prod.mk.inj (pure_ok_iff.mp h)
    exact ⟨.known, (decideCapture_ok htarget hdecided).imp_right fun h => ⟨target, h⟩⟩
  | none =>
    rw [htarget] at h
    cases horder : ledger.orderFor payment.providerOrderId with
    | none =>
      rw [horder] at h
      obtain ⟨rfl, rfl⟩ := Prod.mk.inj (Except.ok.inj h)
      exact ⟨.known, .inl ⟨_, rfl⟩⟩
    | some order =>
      rw [horder] at h
      dsimp only at h
      by_cases hfits : payment.fitsOrder order = true
      · rw [if_neg (not_not.mpr hfits)] at h
        obtain ⟨discovered, hdiscovered, h⟩ := bind_ok_iff.mp h
        obtain ⟨target, hfound, h⟩ := bind_ok_iff.mp h
        obtain ⟨decided, hdecided, h⟩ := bind_ok_iff.mp h
        obtain ⟨rfl, rfl⟩ := Prod.mk.inj (pure_ok_iff.mp h)
        exact ⟨insertDiscovered_ok hdiscovered horder hfits,
          (decideCapture_ok (someOr_ok_iff.mp hfound) hdecided).imp_right fun h => ⟨target, h⟩⟩
      · rw [if_pos hfits] at h
        obtain ⟨rfl, rfl⟩ := Prod.mk.inj (Except.ok.inj h)
        exact ⟨.known, .inl ⟨_, rfl⟩⟩

/-- What a decided collection has found out. -/
structure Ledger.Collectible (ledger : Ledger) (target : LinkTarget)
    (collection : PaymentLinkCollection) (referenceId : String) : Prop where
  found : ledger.linkTarget collection.providerPaymentLinkId = some target
  accepted : target.refusal collection referenceId = none
  countable : ledger.Countable target.order target.instrument.currency none
    (some (collection, target.instrument.id)) (ledger.collectionTotal target collection)
  forward : target.order.Forward (ledger.collectionTotal target collection)

/-- A prepared collection is ignored, or it is one the rows can take. -/
theorem prepareLink_ok {referenceIdOf : String → String} {collection : PaymentLinkCollection}
    {plan : TerminalPlan} (h : prepareLink referenceIdOf ledger collection = .ok plan) :
    (∃ reason, plan = .ignored reason) ∨
      ∃ target, ledger.Collectible target collection (referenceIdOf target.recoveryCase.id) ∧
        plan = .link (ledger.linkPlan target collection) := by
  unfold prepareLink at h
  cases htarget : ledger.linkTarget collection.providerPaymentLinkId with
  | none =>
    rw [htarget] at h
    exact .inl ⟨_, (Except.ok.inj h).symm⟩
  | some target =>
    rw [htarget] at h
    dsimp only at h
    cases hrefusal : target.refusal collection (referenceIdOf target.recoveryCase.id) with
    | some reason =>
      rw [hrefusal] at h
      exact .inl ⟨_, (Except.ok.inj h).symm⟩
    | none =>
      rw [hrefusal] at h
      obtain ⟨hcount, rfl⟩ := planLink_ok_iff.mp h
      by_cases hforward : target.order.Forward (ledger.collectionTotal target collection)
      · exact .inr ⟨target, ⟨htarget, hrefusal, hcount, hforward⟩, if_pos hforward⟩
      · exact .inl ⟨_, if_neg hforward⟩

end

end Retrywise.ControlPlane
