import Retrywise.ControlPlane.MoneySteps
import Retrywise.ControlPlane.Overpayment

/-!
# Open cases of paid orders

Three writers move the truth of an order, and two of them its cases: a failure opens a case,
a capture closes those of its order. An enrichment takes the truth to what the provider's
order says, and looks at no case.

> Where no enrichment pays an order whose case is open, a paid order has no open case
> (`paid_without_openCase`).
-/

namespace Retrywise.ControlPlane

open Retrywise.Foundation Retrywise.Domain

/-- The truths of an order on which all is paid. -/
def paidTruths : List CanonicalPaymentState := [.paid, .overpaid]

/-- No case of the order is open. -/
def Ledger.NoOpenCase (ledger : Ledger) (id : String) : Prop :=
  ∀ c ∈ ledger.recoveryCases, c.logicalOrderId = id → c.state ∉ openCaseStates

/-- The order, when it is paid, has no open case. -/
def Ledger.ClosedWhenPaid (ledger : Ledger) (id : String) : Prop :=
  ∀ o, ledger.order id = some o → o.canonicalTruth ∈ paidTruths → ledger.NoOpenCase id

/-- An enrichment that pays the order finds no case of it open: the order is one it updates,
and the greater of the total on the books and the amount the provider has paid is all that
is due. -/
def PaysWithoutOpenCase (id : String) (s : MoneyStep) : Prop :=
  ∀ e o, s.cmd = .enrich e → s.pre.ledger.order id = some o →
    o.originalProviderOrderId = some e.command.providerOrderId → e.appliesToOrder o = true →
    o.amountDueMinor ≤ max o.capturedTotalMinor e.order.amountPaidMinor →
    s.pre.ledger.NoOpenCase id

/-! ## Where a case is not open -/

/-- No capture leaves a case of its order open. -/
theorem moved_capture_closed (collected : List String) (now : Timestamp) (c : RecoveryCase) :
    (c.moved (captureTransition collected) now).state ∉ openCaseStates := by
  have hreview : RecoveryState.duplicateReview ∉ openCaseStates := by decide
  have hsuppressed : RecoveryState.suppressedPaid ∉ openCaseStates := by decide
  unfold RecoveryCase.moved captureTransition
  by_cases hcollected : c.id ∈ collected
  · by_cases hstate : c.state = .duplicateReview
    · simpa [hcollected, hstate] using hreview
    · simpa [hcollected, hstate, RecoveryCase.transition, RecoveryCase.moveTo] using hreview
  · by_cases hopen : c.state ∈ openCaseStates
    · simpa [hcollected, hopen, RecoveryCase.transition, RecoveryCase.moveTo] using hsuppressed
    · simp [hcollected, hopen]

/-- A case that is closed stays closed. -/
theorem closed_of_admitsCase {truth : CanonicalPaymentState} {old new : CaseRow}
    (h : admitsCase truth old new = true) (hclosed : old.state ∉ openCaseStates) :
    new.state ∉ openCaseStates := by
  have hedges : caseEdges old.state = [] := by
    revert hclosed
    cases old.state <;> decide
  have hstate : new.state = old.state ∨ new.state = .duplicateReview := by
    simp only [admitsCase, Bool.and_eq_true, Bool.or_eq_true, decide_eq_true_eq, hedges,
      List.not_mem_nil, or_false] at h
    exact h.1.2
  rcases hstate with hsame | hreview
  · rw [hsame]
    exact hclosed
  · rw [hreview]
    decide

theorem truthOf_mem_paid_iff {total amountDue : Nat} :
    truthOf total amountDue ∈ paidTruths ↔ amountDue ≤ total := by
  unfold truthOf paidTruths
  split_ifs with hless hpaid
  · simp
    omega
  · simp
    omega
  · simp
    omega

theorem enrichedTruth_mem_paid {total amountDue : Nat}
    (h : enrichedTruth total amountDue ∈ paidTruths) : amountDue ≤ total := by
  unfold enrichedTruth at h
  split_ifs at h with hzero
  · exact absurd h (by decide)
  · exact truthOf_mem_paid_iff.mp h

theorem not_paid_of_safe {truth : CanonicalPaymentState} (h : truth ∈ safeRecoveryTruths) :
    truth ∉ paidTruths := by
  revert h
  cases truth <;> decide

/-! ## One step -/

/-- The orders of the instruments are what they were. -/
theorem MoneyOutcome.instrumentOrders {referenceIdOf : String → String} {books : MoneyBooks}
    {command : MoneyCommand} {after : Ledger} {out : Option ProjectionResult}
    (h : MoneyOutcome referenceIdOf books command after out) (hkeyed : books.ledger.Keyed) :
    after.recoveryInstruments.map RecoveryInstrument.logicalOrderId =
      books.ledger.recoveryInstruments.map RecoveryInstrument.logicalOrderId := by
  cases h with
  | stored event => rfl
  | terminal d stored after result _ h =>
    cases h with
    | settled => rfl
    | passed _ _ _ hfound _ =>
      rcases hfound with rfl | ⟨payment, -, hdiscovers⟩
      · rfl
      · rw [hdiscovers.frame.1]
    | captured found payment target _ _ hdiscovers _ =>
      show found.recoveryInstruments.map _ = _
      rw [hdiscovers.frame.1]
    | collected collection target _ _ hcollectible _ =>
      exact Table.map_put hkeyed.instruments hcollectible.rows.1 rfl rfl fun _ _ _ => rfl
  | normalized d stored after result _ h =>
    cases h with
    | passed => rfl
    | failed payment providerOrderId target after result _ _ _ htarget _ hcarried =>
      obtain ⟨-, -, -, hinstruments, -⟩ :=
        carryOutFailure_ok hkeyed (Ledger.captureTarget_rows htarget).1 hcarried
      rw [hinstruments]
  | enriched e idOk order payment hloads =>
    show (e.found idOk order.id books.ledger).recoveryInstruments.map _ = _
    rw [Enrichment.found_frame.1]
  | movedCase id moved c _ _ => rfl

/-- An order of the foreign keys is one of the orders. -/
theorem Ledger.Related.case_order {ledger : Ledger} (hrelated : ledger.Related)
    (hkeyed : ledger.Keyed) {c : RecoveryCase} (hc : c ∈ ledger.recoveryCases) :
    ∃ o, ledger.order c.logicalOrderId = some o ∧ isOrderCase o c = true := by
  obtain ⟨o, ho, hterms⟩ := List.mem_map.mp
    (hrelated.cases (List.mem_map_of_mem (f := RecoveryCase.orderRef) hc))
  simp only [LogicalOrder.dueTerms, RecoveryCase.orderRef, Prod.mk.injEq] at hterms
  obtain ⟨hid, hcurrency, -⟩ := hterms
  refine ⟨o, ?_, ?_⟩
  · rw [← hid]
    exact Table.find_of_mem hkeyed.orders ho
  · simp [isOrderCase, hid, hcurrency]

/-- A capture that was carried out leaves no case of its order open. -/
theorem Ledger.noOpenCase_afterCapture {found : Ledger} {target : CaptureTarget}
    {payment : CapturedPayment} {eventRecordId : String} {occurredAt now : Timestamp}
    (hkeyed : found.Keyed) (hrelated : found.Related)
    (hcapturable : found.Capturable target payment occurredAt) :
    (found.afterCapture target payment eventRecordId occurredAt now).NoOpenCase
      target.order.id := by
  obtain ⟨-, -, horder, -⟩ := Ledger.captureTarget_rows hcapturable.found
  intro moved hmoved hid
  obtain ⟨c, hc, rfl⟩ := List.mem_map.mp hmoved
  by_cases hcase : Ledger.isOrderCase target.order c = true
  · rw [if_pos hcase]
    exact moved_capture_closed _ _ c
  · rw [if_neg hcase] at hid ⊢
    -- the case is on the order, and in its currency
    obtain ⟨o', ho', hcase'⟩ := hrelated.case_order hkeyed hc
    rw [hid] at ho'
    obtain rfl := Option.some.inj (horder.symm.trans ho')
    exact absurd hcase' hcase

/-- What a step needs to know of an order: its keys, its references, that no instrument is
on it, and that it has no open case once it is paid. -/
structure ClosedInvariant (id : String) (ledger : Ledger) : Prop where
  keyed : ledger.Keyed
  related : ledger.Related
  noInstrument : id ∉ ledger.recoveryInstruments.map RecoveryInstrument.logicalOrderId
  closed : ledger.ClosedWhenPaid id

section

variable {referenceIdOf : String → String} {books : MoneyBooks} {id : String}

/-- A terminal projection leaves no case of a paid order open. -/
theorem closed_terminal {d : EventDelivery} {stored : StoredEvent CanonicalEvent} {after : Ledger}
    {result : ProjectionResult} (hinvariant : ClosedInvariant id books.ledger)
    (h : TerminalOutcome referenceIdOf d stored books after result) :
    after.ClosedWhenPaid id := by
  have hclosed := hinvariant.closed
  cases h with
  | settled => exact hclosed
  | passed _ _ _ hfound _ =>
    rcases hfound with rfl | ⟨payment, -, hdiscovers⟩
    · exact hclosed
    · obtain ⟨-, hcases, horders⟩ := hdiscovers.frame
      unfold Ledger.ClosedWhenPaid Ledger.NoOpenCase Ledger.order
      rw [hcases, horders]
      exact hclosed
  | captured found payment target _ _ hdiscovers hcapturable =>
    obtain ⟨-, hcases, horders⟩ := hdiscovers.frame
    have hkeyed := hdiscovers.keyed hinvariant.keyed
    have hrelated := hdiscovers.related hinvariant.related
    intro o ho htruth
    rw [Ledger.order_afterCapture hcapturable] at ho
    by_cases htarget : id = target.order.id
    · rw [htarget]
      exact Ledger.noOpenCase_afterCapture hkeyed hrelated hcapturable
    · rw [if_neg htarget] at ho
      unfold Ledger.order at ho
      rw [horders] at ho
      intro moved hmoved hid
      obtain ⟨c, hc, rfl⟩ := List.mem_map.mp hmoved
      by_cases hcase : Ledger.isOrderCase target.order c = true
      · rw [if_pos hcase]
        exact moved_capture_closed _ _ c
      · rw [if_neg hcase] at hid ⊢
        rw [hcases] at hc
        exact hclosed o ho htruth c hc hid
  | collected collection target _ _ hcollectible _ =>
    obtain ⟨hmem, -, -, hinstrument, hcase, -⟩ := hcollectible.rows
    simp only [Ledger.isOrderInstrument, Ledger.isOrderCase, Bool.and_eq_true,
      decide_eq_true_eq] at hinstrument hcase
    have hne : id ≠ target.order.id := by
      intro heq
      exact hinvariant.noInstrument (List.mem_map.mpr ⟨_, hmem, hinstrument.1.trans heq.symm⟩)
    intro o ho htruth moved hmoved hid
    rw [Ledger.order_afterLink hcollectible, if_neg hne] at ho
    obtain ⟨c, hc, rfl⟩ := List.mem_map.mp hmoved
    by_cases htarget : c ∈ [target.recoveryCase]
    · rw [if_pos htarget] at hid
      obtain ⟨horder, -⟩ := c.moved_terms
        (fun _ => (books.ledger.linkPlan target collection).caseTransition) d.now
      rw [horder, List.mem_singleton.mp htarget] at hid
      exact absurd (hid.symm.trans hcase.1) hne
    · rw [if_neg htarget] at hid ⊢
      exact hclosed o ho htruth c hc hid

/-- A failure opens no case of a paid order. -/
theorem closed_failure {d : EventDelivery} {stored : StoredEvent CanonicalEvent} {after : Ledger}
    {result : ProjectionResult} (hinvariant : ClosedInvariant id books.ledger)
    (h : FailureOutcome d stored books after result) : after.ClosedWhenPaid id := by
  have hclosed := hinvariant.closed
  cases h with
  | passed => exact hclosed
  | failed payment providerOrderId target after result _ _ _ htarget _ hcarried =>
    obtain ⟨hmem, -, horder, -⟩ := Ledger.captureTarget_rows htarget
    obtain ⟨marker, -, horders, -, -, hcases⟩ :=
      carryOutFailure_ok hinvariant.keyed hmem hcarried
    intro o ho htruth c hc hid
    unfold Ledger.order at ho
    rw [horders] at ho
    rcases hcases with ⟨hsame, -⟩ | ⟨hopens, hnew, -⟩
    · rw [hsame] at hc
      exact hclosed o ho htruth c hc hid
    · rw [hnew] at hc
      rcases List.mem_append.mp hc with hc | hc
      · exact hclosed o ho htruth c hc hid
      · -- the new case is on an order that is not known to be paid
        rw [List.mem_singleton.mp hc] at hid
        have hsafe := hopens.safe
        rw [show target.order.id = id from hid] at hsafe
        have hfound : books.ledger.order id = some o := ho
        rw [hfound] at hsafe
        exact absurd htruth (not_paid_of_safe (by simpa using hsafe))

/-- An enrichment that meets the condition leaves no case of a paid order open. -/
theorem closed_enrichment {e : Enrichment} {idOk : isUlid e.newPaymentId = true}
    {order : LogicalOrder} {payment : StoredPayment}
    (hinvariant : ClosedInvariant id books.ledger)
    (hloads : e.Loads (e.found idOk order.id books.ledger) order payment)
    (hcondition : ∀ o, books.ledger.order id = some o →
      o.originalProviderOrderId = some e.command.providerOrderId → e.appliesToOrder o = true →
      o.amountDueMinor ≤ max o.capturedTotalMinor e.order.amountPaidMinor →
      books.ledger.NoOpenCase id) :
    (e.observe (e.found idOk order.id books.ledger) order payment).ClosedWhenPaid id := by
  have hcases : (e.observe (e.found idOk order.id books.ledger) order payment).recoveryCases =
      books.ledger.recoveryCases := (Enrichment.found_frame (e := e)).2
  intro o ho htruth
  unfold Ledger.NoOpenCase
  rw [hcases]
  cases hknown : books.ledger.order id with
  | none =>
    -- an order that was not on the books has no case
    intro c hc hid
    obtain ⟨o', ho', -⟩ := hinvariant.related.case_order hinvariant.keyed hc
    rw [hid, hknown] at ho'
    exact absurd ho' (by simp)
  | some known =>
    have hfound : (e.found idOk order.id books.ledger).order id = some known := by
      unfold Ledger.order Table.find at hknown ⊢
      have hrows := @Enrichment.logicalOrders_found e books.ledger idOk order.id
      rcases hrows with hsame | ⟨hnew, -⟩
      · rw [hsame]
        exact hknown
      · rw [hnew, List.find?_append, hknown]
        rfl
    have hkeyed : (e.found idOk order.id books.ledger).Keyed :=
      Enrichment.keyed_insertPayment (Enrichment.keyed_insertOrder hinvariant.keyed)
    have hprovider : order.originalProviderOrderId = some e.command.providerOrderId := by
      simpa using List.find?_some hloads.orderFound
    have hmem := List.mem_of_find?_eq_some hloads.orderFound
    have hafter : (e.observe (e.found idOk order.id books.ledger) order payment).order id =
        if e.appliesToOrder order = true ∧ order.id = id then
          some (order.observe e.order.amountPaidMinor e.observedAt)
        else some known := by
      show Table.find _ _ (if _ then _ else _) = _
      by_cases happlies : e.appliesToOrder order = true
      · rw [if_pos happlies]
        by_cases hid : order.id = id
        · rw [if_pos ⟨happlies, hid⟩]
          exact Table.find_put hfound hid
        · rw [if_neg (fun h => hid h.2), ← hfound]
          exact Table.find_put_of_ne hid
      · rw [if_neg happlies, if_neg (fun h => happlies h.1)]
        exact hfound
    rw [hafter] at ho
    by_cases hupdated : e.appliesToOrder order = true ∧ order.id = id
    · rw [if_pos hupdated] at ho
      obtain rfl := Option.some.inj ho
      have hpaid : order.amountDueMinor ≤
          max order.capturedTotalMinor e.order.amountPaidMinor := enrichedTruth_mem_paid htruth
      have hsame : order = known := hkeyed.orders.eq_of_key hmem (Table.mem_of_find hfound)
        (hupdated.2.trans (Table.key_of_find hfound).symm)
      exact hcondition order (hsame ▸ hknown) hprovider hupdated.1 hpaid
    · rw [if_neg hupdated] at ho
      obtain rfl := Option.some.inj ho
      exact hinvariant.closed known hknown htruth

/-- A step that meets the condition keeps the invariant. -/
theorem closedInvariant_step {s : MoneyStep} (hinvariant : ClosedInvariant id s.pre.ledger)
    (htakes : (moneyMachine referenceIdOf).Takes s) (hcondition : PaysWithoutOpenCase id s) :
    ClosedInvariant id s.post.ledger := by
  have h := money_step hinvariant.keyed htakes
  refine ⟨h.keyed hinvariant.keyed, h.related hinvariant.keyed hinvariant.related, ?_, ?_⟩
  · rw [h.instrumentOrders hinvariant.keyed]
    exact hinvariant.noInstrument
  unfold PaysWithoutOpenCase at hcondition
  generalize s.cmd = cmd at h hcondition
  generalize s.out = out at h
  generalize s.post.ledger = after at h ⊢
  cases h with
  | stored event => exact hinvariant.closed
  | terminal d stored after result _ h => exact closed_terminal hinvariant h
  | normalized d stored after result _ h => exact closed_failure hinvariant h
  | enriched e idOk order payment hloads =>
    exact closed_enrichment hinvariant hloads fun o => hcondition e o rfl
  | movedCase caseId moved c hcase hadmits =>
    intro o ho htruth new hnew hid
    have hclosed := hinvariant.closed o ho htruth
    rcases Table.mem_put hnew with rfl | ⟨hold, -⟩
    · exact closed_of_admitsCase hadmits (hclosed c (Table.mem_of_find hcase) hid)
    · exact hclosed new hold hid

end

/-- **Open cases of paid orders.** Start with an order without cases, and let events arrive,
be projected by either projector, be enriched, and other writers move cases, in any order:
where no enrichment pays the order while a case of it is open, a paid order has no open
case. -/
theorem paid_without_openCase {referenceIdOf : String → String} {init final : MoneyBooks}
    {steps : List MoneyStep} {id : String}
    (hrun : (moneyMachine referenceIdOf).Run init steps final) (hkeyed : init.ledger.Keyed)
    (hrelated : init.ledger.Related)
    (hstart : ∀ c ∈ init.ledger.recoveryCases, c.logicalOrderId ≠ id)
    (hcondition : ∀ s ∈ steps, PaysWithoutOpenCase id s) : final.ledger.ClosedWhenPaid id := by
  have hnoInstrument : id ∉ init.ledger.recoveryInstruments.map
      RecoveryInstrument.logicalOrderId := by
    intro hmem
    obtain ⟨i, hi, hid⟩ := List.mem_map.mp hmem
    obtain ⟨c, hc, hterms⟩ := List.mem_map.mp
      (hrelated.instruments (List.mem_map_of_mem (f := RecoveryInstrument.caseRef) hi))
    simp only [RecoveryCase.terms, RecoveryInstrument.caseRef, Prod.mk.injEq] at hterms
    exact hstart c hc (hterms.2.1.trans hid)
  have hinit : ClosedInvariant id init.ledger :=
    ⟨hkeyed, hrelated, hnoInstrument, fun _ _ _ c hc hid => absurd hid (hstart c hc)⟩
  exact (Machine.Run.invariant_of (I := fun books => ClosedInvariant id books.ledger) hinit
    (fun s hI hs hg => closedInvariant_step hI hs hg) hrun hcondition).closed

/-! ## A payment that has failed -/

theorem isUlid_samplePayment : isUlid "01HZZZZZZZZZZZZZZZZZZZZZZA" = true := by decide

/-- A payment of the sample order that was created. -/
def samplePayment : StoredPayment where
  id := "01HZZZZZZZZZZZZZZZZZZZZZZA"
  providerPaymentId := "pay_A"
  providerOrderId := some "order_A"
  amountMinor := 500
  currency := "INR"
  paymentMethod := some "upi"
  providerSnapshotAt := clock 0
  idOk := isUlid_samplePayment
  logicalOrderId := "order"
  status := .created
  capturedMinor := 0
  refundedMinor := 0
  errorFacts := []

def attemptedLedger : Ledger := { sampleLedger with providerPayments := [samplePayment] }

def attemptedBooks : MoneyBooks := { sampleBooks with ledger := attemptedLedger }

def sampleFailed : FailedPayment where
  providerPaymentId := "pay_A"
  providerOrderId := some "order_A"
  amountMinor := 500
  currency := "INR"
  paymentMethod := some "upi"
  errorFacts := []
  positive := positive_sampleCaptured
  bounded := bounded_sampleCaptured

def failureEvent (id : String) (second : Fin 60) : ProviderEvent CanonicalEvent :=
  sampleEvent id .paymentFailed second
    { captured := undecoded, collection := undecoded, failed := .ok sampleFailed }

def failedFields : PaymentRecordFields where
  paymentId := "pay_A"
  orderId := "order_A"
  status := .failed
  amountMinor := 500
  currency := "INR"
  capturedMinor := 0
  refundedMinor := 0
  paymentMethod := "upi"
  errorSource := some "gateway"
  errorStep := some "payment_authorization"
  errorReason := some "payment_failed"

theorem failedFields_valid : failedFields.postInit = .ok () := by decide

/-- What the provider says of the payment. -/
def failedRecord : PaymentRecord := ⟨failedFields, failedFields_valid⟩

def attemptedFields : OrderRecordFields where
  orderId := "order_A"
  amountMinor := 500
  amountPaidMinor := 0
  amountDueMinor := 500
  currency := "INR"
  status := .attempted
  attempts := 1
  createdAtEpoch := 1767139200

theorem attemptedFields_valid : attemptedFields.postInit = .ok () := by decide

/-- What the provider says of the order while nothing is paid. -/
def attemptedRecord : OrderRecord := ⟨attemptedFields, attemptedFields_valid⟩

def paidFields : OrderRecordFields :=
  { attemptedFields with amountPaidMinor := 500, amountDueMinor := 0, status := .paid }

theorem paidFields_valid : paidFields.postInit = .ok () := by decide

/-- What the provider says of the order once another payment of it was captured. -/
def paidRecord : OrderRecord := ⟨paidFields, paidFields_valid⟩

def sampleRequest : EnrichmentFields where
  providerPaymentId := "pay_A"
  providerOrderId := "order_A"
  amountMinor := 500
  currency := "INR"

theorem sampleRequest_valid : sampleRequest.postInit = .ok () := by decide

def sampleEnrichment (order : OrderRecord) (second : Fin 60) : Enrichment where
  command := ⟨sampleRequest, sampleRequest_valid⟩
  payment := failedRecord
  order := order
  observedAt := clock second
  fenced := true
  stillFenced := true
  accountAvailable := true
  newOrderId := "01HZZZZZZZZZZZZZZZZZZZZZZY"
  newPaymentId := "01HZZZZZZZZZZZZZZZZZZZZZZZ"

/-- The failure of the payment is projected, and opens a case. -/
def failureCommands : List MoneyCommand :=
  [.store (failureEvent "f" 1), .projectNormalized (sampleDelivery "f" "01HZZZZZZZZZZZZZZZZZZZZZZF" 2)]

/-- A payment fails, and then another one of its order is captured. -/
def failureCaptureCommands : List MoneyCommand :=
  failureCommands ++ [.store (captureEvent "b" "pay_B" 3),
    .projectTerminal (sampleDelivery "b" "01HZZZZZZZZZZZZZZZZZZZZZZB" 4)]

/-- A payment fails, and then its enrichment reads that its order is paid. -/
def failurePaidCommands : List MoneyCommand :=
  failureCommands ++ [.enrich (sampleEnrichment paidRecord 5)]

theorem attemptedLedger_keyed : attemptedLedger.Keyed :=
  ⟨List.nodup_singleton _, List.nodup_singleton _, List.nodup_singleton _, List.nodup_nil,
    List.nodup_nil⟩

theorem attemptedLedger_related : attemptedLedger.Related :=
  ⟨List.Subset.refl _, List.nil_subset _, List.nil_subset _⟩

/-- The case of the failed payment is closed by the capture. -/
theorem paid_without_openCase_captured :
    ((moneyMachine id).play attemptedBooks failureCaptureCommands).2.ledger.ClosedWhenPaid
      "order" := by
  refine paid_without_openCase (Machine.Run.of_play (moneyMachine id) attemptedBooks
    failureCaptureCommands) attemptedLedger_keyed attemptedLedger_related
    (fun c hc => absurd hc List.not_mem_nil) ?_
  intro s hs e o hcmd
  have hmem := Machine.Run.cmd_mem_of_play s hs
  rw [hcmd] at hmem
  exact absurd hmem (by simp [failureCaptureCommands, failureCommands])

/-- An enrichment pays the order under the case of its failed payment. -/
theorem openCase_of_paid_order :
    ∃ (init final : MoneyBooks) (steps : List MoneyStep),
      (moneyMachine id).Run init steps final ∧ init.ledger.Keyed ∧ init.ledger.Related ∧
        init.ledger.recoveryCases = [] ∧ ¬final.ledger.ClosedWhenPaid "order" := by
  refine ⟨_, _, _, Machine.Run.of_play (moneyMachine id) attemptedBooks failurePaidCommands,
    attemptedLedger_keyed, attemptedLedger_related, rfl, ?_⟩
  intro hclosed
  have hnone := hclosed _ rfl (by decide)
  have hopen : ∃ c ∈ ((moneyMachine id).play attemptedBooks
      failurePaidCommands).2.ledger.recoveryCases, c.logicalOrderId = "order" ∧
        c.state ∈ openCaseStates := by decide
  obtain ⟨c, hc, hid, hstate⟩ := hopen
  exact hnone c hc hid hstate

end Retrywise.ControlPlane
