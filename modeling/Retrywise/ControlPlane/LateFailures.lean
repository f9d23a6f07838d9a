import Retrywise.ControlPlane.OneCase
import Retrywise.ControlPlane.StaleSnapshots

/-!
# A failure and a capture of one payment

The two projectors meet in the row of one payment. A failure that comes first marks the row
and may open a case, which the capture closes; one that comes second finds the payment
captured and is ignored.

> Where the rows take the capture, and the failure names no other method than the capture
> for a payment that has none yet, every order of deliveries ends in the same money, and with
> no open case (`failure_and_capture_converge`).

Two guards of the code stand in the way of more: a capture is taken for exactly what is due
on the order, and a method that was recorded is never contradicted.
-/

namespace Retrywise.ControlPlane

open Retrywise.Foundation Retrywise.Domain

/-! ## Deliveries of two events -/

/-- The step delivers the failure to its projector, or the capture to its own. -/
def Delivers (failureId captureId : String) (s : MoneyStep) : Prop :=
  (∃ d, s.cmd = .projectNormalized d ∧ d.eventRecordId = failureId) ∨
    ∃ d, s.cmd = .projectTerminal d ∧ d.eventRecordId = captureId

/-- The failure does not name another method than the capture, or the payment has one. -/
def MethodsFit (p : StoredPayment) (failed : FailedPayment) (captured : CapturedPayment) : Prop :=
  p.paymentMethod ≠ none ∨ methodsAgree failed.paymentMethod captured.paymentMethod = true

/-- The keys and references of the books. -/
structure Books.InOrder (books : MoneyBooks) : Prop where
  ledger : books.ledger.Keyed
  related : books.ledger.Related
  events : Table.Keyed (fun s : StoredEvent CanonicalEvent => s.event.id) books.events

/-- What the failure and the capture are, and the order and the total of the capture. -/
structure TwoEvents where
  failure : ProviderEvent CanonicalEvent
  failed : FailedPayment
  capture : StoredEvent CanonicalEvent
  captured : CapturedPayment
  order : LogicalOrder
  total : Nat
  fails : failure.Fails failed
  captures : capture.event.Captures captured
  payment : failed.providerPaymentId = captured.providerPaymentId
  distinct : failure.id ≠ capture.event.id

namespace TwoEvents

variable (t : TwoEvents)

/-- The failure is on the books. -/
def FailureStored (books : MoneyBooks) : Prop :=
  ∃ stored, books.storedEvent t.failure.id = some stored ∧ stored.event = t.failure

/-- The capture is pending, and the rows of its payment and order take it, to the total. -/
structure Awaiting (books : MoneyBooks) : Prop where
  inOrder : books.InOrder
  failureStored : t.FailureStored books
  captureStored : books.storedEvent t.capture.event.id = some t.capture
  pending : books.Open t.capture
  rows : ∃ p, books.ledger.Capturable ⟨p, t.order⟩ t.captured
      t.capture.event.providerOccurredAt ∧
    books.ledger.captureTotal ⟨p, t.order⟩ t.captured = t.total ∧
    MethodsFit p t.failed t.captured

/-- The capture was carried out: the payment has its money, the order the total and its
truth, and no case of the order is open. -/
structure Collected (books : MoneyBooks) : Prop where
  inOrder : books.InOrder
  failureStored : t.FailureStored books
  settled : books.Settled t.capture.event.id
  payment : books.ledger.IsCaptured t.captured
  order : ∃ o, books.ledger.order t.order.id = some o ∧ o.capturedTotalMinor = t.total ∧
    o.canonicalTruth = truthOf t.total t.order.amountDueMinor
  closed : books.ledger.NoOpenCase t.order.id

end TwoEvents

/-! ## One delivery -/

section

variable {referenceIdOf : String → String} {t : TwoEvents} {s : MoneyStep}

/-- A delivery keeps the keys and the references. -/
theorem inOrder_step (hinOrder : s.pre.InOrder) (htakes : (moneyMachine referenceIdOf).Takes s)
    {failureId captureId : String} (hdelivers : Delivers failureId captureId s) :
    s.post.InOrder := by
  have houtcome := money_step hinOrder.ledger htakes
  refine ⟨houtcome.keyed hinOrder.ledger, houtcome.related hinOrder.ledger hinOrder.related, ?_⟩
  obtain ⟨pre, cmd, post, out⟩ := s
  rcases hdelivers with ⟨d, hcmd, -⟩ | ⟨d, hcmd, -⟩
  · obtain rfl : cmd = .projectNormalized d := hcmd
    obtain ⟨⟨books, result⟩, hbooks, hpure⟩ := bind_ok_iff.mp htakes
    obtain ⟨rfl, rfl⟩ := Prod.mk.inj (pure_ok_iff.mp hpure)
    exact Projector.keyed_project hinOrder.events hbooks
  · obtain rfl : cmd = .projectTerminal d := hcmd
    obtain ⟨result, hbooks⟩ := moneyExec_terminal htakes
    exact Projector.keyed_project hinOrder.events hbooks

/-- The row a failure leaves takes the capture as before. -/
theorem TwoEvents.stands_afterFailure {ledger : Ledger} {p : StoredPayment}
    {marker : Option String} {eventRecordId : String} {occurredAt failedAt : Timestamp}
    (hcapturable : ledger.Capturable ⟨p, t.order⟩ t.captured occurredAt)
    (hfit : MethodsFit p t.failed t.captured) :
    CaptureTarget.Stands ⟨p, t.order⟩ t.captured occurredAt
        (p.afterFailure marker t.failed eventRecordId failedAt) t.order ∧
      MethodsFit (p.afterFailure marker t.failed eventRecordId failedAt) t.failed t.captured := by
  obtain ⟨hexact, hstatus, hrefunded, hsnapshot⟩ :=
    CaptureTarget.refusal_eq_none_iff.mp hcapturable.accepted
  have hexact := CaptureTarget.exact_iff.mp hexact
  have hcounted := hcapturable.countable.payments _ hcapturable.mem_originalPath
  unfold StoredPayment.afterFailure
  by_cases hwrites : p.status ≠ .failed ∨ marker = none
  · rw [if_pos hwrites]
    have hmethod : methodsAgree (p.paymentMethod.or t.failed.paymentMethod)
        t.captured.paymentMethod = true ∧
        MethodsFit (p.fail t.failed eventRecordId failedAt) t.failed t.captured := by
      cases hp : p.paymentMethod with
      | some method =>
        have hagree : methodsAgree p.paymentMethod t.captured.paymentMethod = true := hexact.method
        rw [hp] at hagree
        exact ⟨hagree, .inl (by simp [StoredPayment.fail, hp])⟩
      | none =>
        have hagree := hfit.resolve_left fun hsome => hsome hp
        exact ⟨hagree, .inr hagree⟩
    exact ⟨⟨rfl, rfl, rfl, rfl, rfl, hmethod.1,
      by simp [StoredPayment.fail, captureAcceptingPaymentStates], hrefunded, hcounted.2.1.2,
      fun h => absurd h (by simp [StoredPayment.fail]), rfl, rfl, rfl, rfl, hexact.mapped⟩,
      hmethod.2⟩
  · rw [if_neg hwrites]
    exact ⟨⟨rfl, rfl, rfl, rfl, rfl, hexact.method, hstatus, hrefunded, hcounted.2.1.2, hsnapshot,
      rfl, rfl, rfl, rfl, hexact.mapped⟩, hfit⟩

namespace TwoEvents

/-- What a delivery of the failure leaves of the rows it has found. -/
theorem failure_ledger {books after : MoneyBooks} {d : EventDelivery} {result : ProjectionResult}
    {p : StoredPayment} (hkeyed : books.ledger.Keyed) (hfailure : t.FailureStored books)
    (h : normalizedProjector.project d books = .ok (after, result))
    (hevent : d.eventRecordId = t.failure.id)
    (htarget : books.ledger.captureTarget t.captured.providerPaymentId = some ⟨p, t.order⟩) :
    after.ledger = books.ledger ∨
      ∃ marker, p.status ∈ safePreFailurePaymentStates ∧
        after.ledger.logicalOrders = books.ledger.logicalOrders ∧
        after.ledger.recoveryInstruments = books.ledger.recoveryInstruments ∧
        after.ledger.providerPayments = Table.put (fun p : StoredPayment => p.id)
          (p.afterFailure marker t.failed t.failure.id t.failure.providerOccurredAt)
          books.ledger.providerPayments := by
  obtain ⟨stored, hstored, houtcome⟩ := normalized_project_ok h
  obtain ⟨known, hknown, hsame⟩ := hfailure
  rw [hevent] at hstored
  obtain rfl := Option.some.inj (hknown.symm.trans hstored)
  generalize hledger : after.ledger = ledger at houtcome
  cases houtcome with
  | passed => exact .inl rfl
  | failed payment providerOrderId target _ result _ hfails _ hfound haccepted hcarried =>
    right
    rw [hsame] at hfails haccepted hcarried
    obtain rfl := hfails.unique t.fails
    rw [t.payment] at hfound
    obtain rfl := Option.some.inj (hfound.symm.trans htarget)
    have hmem := (Ledger.captureTarget_rows htarget).1
    obtain ⟨marker, -, horders, hinstruments, hpayments, -⟩ :=
      carryOutFailure_ok hkeyed hmem hcarried
    exact ⟨marker, status_of_failureRefusal haccepted, horders, hinstruments, hpayments⟩

/-- A failure that comes first leaves the capture to be carried out. -/
theorem awaiting_failure {books after : MoneyBooks} {d : EventDelivery}
    {result : ProjectionResult} (hawaiting : t.Awaiting books) (hinOrder : after.InOrder)
    (h : normalizedProjector.project d books = .ok (after, result))
    (hevent : d.eventRecordId = t.failure.id) : t.Awaiting after := by
  obtain ⟨⟨hkeyed, hrelated, hevents⟩, ⟨known, hknown, hsame⟩, hcapture, hpending,
    p, hcapturable, htotal, hfit⟩ := hawaiting
  obtain ⟨later, hlater, hlaterEvent⟩ := Projector.event_project h hknown
  refine ⟨hinOrder, ⟨later, hlater, hlaterEvent.trans hsame⟩, ?_, ?_, ?_⟩
  · rw [Projector.storedEvent_of_ne h (hevent ▸ t.distinct.symm)]
    exact hcapture
  · exact ⟨hpending.unsettled, hpending.attempts,
      (Projector.reusesBody_project hevents h _).trans hpending.first⟩
  rcases failure_ledger hkeyed ⟨known, hknown, hsame⟩ h hevent hcapturable.found with
    hledger | ⟨marker, -, horders, hinstruments, hpayments⟩
  · rw [hledger]
    exact ⟨p, hcapturable, htotal, hfit⟩
  obtain ⟨hmem, hpaymentId, horder, hlogical⟩ := Ledger.captureTarget_rows hcapturable.found
  obtain ⟨hstands, hfit'⟩ := @stands_afterFailure t _ p marker t.failure.id _
    t.failure.providerOccurredAt hcapturable hfit
  obtain ⟨hid, hproviderId, -⟩ := p.afterFailure_terms marker t.failed t.failure.id
    t.failure.providerOccurredAt
  obtain ⟨front, rest, hsplit⟩ := List.append_of_mem hmem
  have hsplitKeyed := hkeyed.payments
  rw [hsplit] at hsplitKeyed
  have hothers := hsplitKeyed.ne_of_split
  have hlater : after.ledger.providerPayments = front ++
      p.afterFailure marker t.failed t.failure.id t.failure.providerOccurredAt :: rest := by
    rw [hpayments, hsplit]
    exact Table.put_split hsplitKeyed hid.symm
  have hfound : after.ledger.payment t.captured.providerPaymentId =
      some (p.afterFailure marker t.failed t.failure.id t.failure.providerOccurredAt) := by
    have hrow := @Ledger.payment_put _ _ _ t.captured.providerPaymentId hkeyed hmem hid hproviderId
    rw [if_pos hpaymentId.symm] at hrow
    unfold Ledger.payment at hrow ⊢
    rw [hpayments]
    exact hrow
  have hfoundOrder : after.ledger.order
      (p.afterFailure marker t.failed t.failure.id t.failure.providerOccurredAt).logicalOrderId =
        some t.order := by
    unfold Ledger.order at horder ⊢
    rw [horders, hstands.logicalOrderId, hlogical]
    exact horder
  have hothers' : ∀ q ∈ front ++ rest, q.id ≠ p.id ∧
      q.id ≠ (p.afterFailure marker t.failed t.failure.id t.failure.providerOccurredAt).id :=
    fun q hq => ⟨hothers q hq, hid ▸ hothers q hq⟩
  exact ⟨_, hcapturable.replaced hstands hsplit hlater hothers' hinstruments hfound hfoundOrder
      hcapturable.forward,
    (Ledger.captureTotal_replaced hstands hsplit hlater hothers' hinstruments).trans htotal, hfit'⟩

/-- The capture is carried out by its next delivery. -/
theorem collected_capture {books after : MoneyBooks} {d : EventDelivery}
    {result : ProjectionResult} (hawaiting : t.Awaiting books) (hinOrder : after.InOrder)
    (h : (terminalProjector referenceIdOf).project d books = .ok (after, result))
    (hevent : d.eventRecordId = t.capture.event.id) : t.Collected after := by
  obtain ⟨⟨hkeyed, hrelated, -⟩, ⟨known, hknown, hsame⟩, hcapture, hpending, p, hcapturable,
    htotal, -⟩ := hawaiting
  rw [← hevent] at hcapture
  obtain ⟨later, hlater, hlaterEvent⟩ := Projector.event_project h hknown
  obtain ⟨inbox, hinbox, hafter⟩ :=
    project_of_capturable hkeyed h hcapture hpending t.captures .known hcapturable
  refine ⟨hinOrder, ⟨later, hlater, hlaterEvent.trans hsame⟩, ?_, ?_, ?_, ?_⟩
  · refine ⟨{ t.capture with inbox := inbox }, ?_, ?_⟩
    · rw [hafter, ← hevent, Books.storedEvent_write hcapture, if_pos rfl]
    · show inbox.status ∈ settledStatuses
      rw [hinbox]
      decide
  · rw [hafter]
    exact ⟨_, payment_afterCapture hkeyed hcapturable, rfl, rfl⟩
  · rw [hafter]
    refine ⟨_, (Ledger.order_afterCapture hcapturable _).trans (if_pos rfl), htotal, ?_⟩
    rw [← htotal]
    rfl
  · rw [hafter]
    exact Ledger.noOpenCase_afterCapture hkeyed hrelated hcapturable

/-- A delivery of the capture that comes again finds it settled. -/
theorem collected_again {books after : MoneyBooks} {d : EventDelivery} {result : ProjectionResult}
    (hcollected : t.Collected books)
    (h : (terminalProjector referenceIdOf).project d books = .ok (after, result))
    (hevent : d.eventRecordId = t.capture.event.id) : t.Collected after := by
  obtain ⟨stored, hstored, hstatus⟩ := hcollected.settled
  rw [Projector.project_of_settled h (hevent ▸ hstored) hstatus]
  exact hcollected

/-- A failure that comes second finds the payment captured. -/
theorem collected_failure {books after : MoneyBooks} {d : EventDelivery}
    {result : ProjectionResult} (hcollected : t.Collected books) (hinOrder : after.InOrder)
    (h : normalizedProjector.project d books = .ok (after, result))
    (hevent : d.eventRecordId = t.failure.id) : t.Collected after := by
  obtain ⟨known, hknown, hsame⟩ := hcollected.failureStored
  obtain ⟨later, hlater, hlaterEvent⟩ := Projector.event_project h hknown
  obtain ⟨settled, hsettled, hstatus⟩ := hcollected.settled
  have hledger : after.ledger = books.ledger := by
    obtain ⟨stored, hstored, houtcome⟩ := normalized_project_ok h
    rw [hevent] at hstored
    obtain rfl := Option.some.inj (hknown.symm.trans hstored)
    generalize after.ledger = ledger at houtcome
    cases houtcome with
    | passed => rfl
    | failed payment providerOrderId target _ result _ hfails _ hfound haccepted _ =>
      rw [hsame] at hfails
      obtain rfl := hfails.unique t.fails
      rw [t.payment] at hfound
      obtain ⟨p, hp, hcaptured, -⟩ := hcollected.payment
      have htarget := (captureTarget_eq_some_iff.mp hfound).1
      obtain rfl := Option.some.inj (hp.symm.trans htarget)
      have hsafe := status_of_failureRefusal haccepted
      rw [hcaptured] at hsafe
      exact absurd hsafe (by decide)
  refine ⟨hinOrder, ⟨later, hlater, hlaterEvent.trans hsame⟩,
    ⟨settled, Projector.storedEvent_of_settled h hsettled hstatus, hstatus⟩, ?_, ?_, ?_⟩
  · rw [hledger]
    exact hcollected.payment
  · rw [hledger]
    exact hcollected.order
  · rw [hledger]
    exact hcollected.closed

/-- Every delivery of the two keeps the capture pending until it is carried out, and the
money from there on. -/
theorem step (htakes : (moneyMachine referenceIdOf).Takes s)
    (hdelivers : Delivers t.failure.id t.capture.event.id s) :
    (t.Awaiting s.pre → t.Awaiting s.post ∨ t.Collected s.post) ∧
      (t.Awaiting s.pre → (∃ d, s.cmd = .projectTerminal d) → t.Collected s.post) ∧
        (t.Collected s.pre → t.Collected s.post) := by
  have hinOrder : s.pre.InOrder → s.post.InOrder := fun h => inOrder_step h htakes hdelivers
  obtain ⟨pre, cmd, post, out⟩ := s
  rcases hdelivers with ⟨d, hcmd, hevent⟩ | ⟨d, hcmd, hevent⟩
  · obtain rfl : cmd = .projectNormalized d := hcmd
    obtain ⟨result, hproject⟩ := @moneyExec_normalized referenceIdOf _ _ _ _ htakes
    refine ⟨fun h => .inl ?_, fun _ hterminal => ?_, fun h => ?_⟩
    · exact awaiting_failure h (hinOrder h.inOrder) hproject hevent
    · obtain ⟨d', hcmd⟩ := hterminal
      exact absurd hcmd (by simp)
    · exact collected_failure h (hinOrder h.inOrder) hproject hevent
  · obtain rfl : cmd = .projectTerminal d := hcmd
    obtain ⟨result, hproject⟩ := moneyExec_terminal htakes
    have hcarried : t.Awaiting pre → t.Collected post := fun h =>
      collected_capture h (hinOrder h.inOrder) hproject hevent
    exact ⟨fun h => .inr (hcarried h), fun h _ => hcarried h,
      fun h => collected_again h hproject hevent⟩

end TwoEvents

end

/-- **A failure and a capture converge.** Where the rows take the capture and the failure
names no other method for a payment without one, let the two events be delivered in any
order and any number of times, the capture once at least: the payment is captured, the order
has the total that was due to come of it, and no case of it is open. -/
theorem failure_and_capture_converge {referenceIdOf : String → String} {t : TwoEvents}
    {init final : MoneyBooks} {steps : List MoneyStep}
    (hrun : (moneyMachine referenceIdOf).Run init steps final) (hawaiting : t.Awaiting init)
    (hdelivers : ∀ s ∈ steps, Delivers t.failure.id t.capture.event.id s)
    (hcaptured : ∃ s ∈ steps, ∃ d, s.cmd = .projectTerminal d) : t.Collected final := by
  -- before the capture is delivered it is pending, and behind it the money is there
  have hhistory : (t.Awaiting final ∧ ∀ s ∈ steps, ¬∃ d, s.cmd = .projectTerminal d) ∨
      t.Collected final := by
    refine Machine.Run.history (H := fun past books =>
        (t.Awaiting books ∧ ∀ s ∈ past, ¬∃ d, s.cmd = .projectTerminal d) ∨ t.Collected books)
      (G := fun _ s => Delivers t.failure.id t.capture.event.id s)
      (.inl ⟨hawaiting, fun _ h => absurd h (by simp)⟩) ?_ hrun (along_iff_forall_mem.mpr hdelivers)
    intro past s _ hstate htakes hdeliver
    obtain ⟨hkeeps, hcarries, hstays⟩ := t.step htakes hdeliver
    rcases hstate with ⟨hpending, hnone⟩ | hcollected
    · by_cases hterminal : ∃ d, s.cmd = .projectTerminal d
      · exact .inr (hcarries hpending hterminal)
      · rcases hkeeps hpending with hpending' | hcollected
        · refine .inl ⟨hpending', ?_⟩
          intro u hu
          rcases List.mem_append.mp hu with hu | hu
          · exact hnone u hu
          · rw [List.mem_singleton.mp hu]
            exact hterminal
        · exact .inr hcollected
    · exact .inr (hstays hcollected)
  rcases hhistory with ⟨-, hnone⟩ | hcollected
  · obtain ⟨s, hs, hterminal⟩ := hcaptured
    exact absurd hterminal (hnone s hs)
  · exact hcollected

/-! ## A failure and a capture of the sample payment -/

/-- What the failure of a payment says of its method. -/
def failedWith (paymentMethod : Option String) (amountMinor : Nat) (positive : 0 < amountMinor)
    (bounded : amountMinor ≤ maxSignedBigint) : FailedPayment :=
  { sampleFailed with
    amountMinor := amountMinor
    paymentMethod := paymentMethod
    positive := positive
    bounded := bounded }

/-- The events of a failure and a capture, stored behind one payment of the sample order. -/
def twoEventBooks (payment : StoredPayment) (failed : FailedPayment) (captured : CapturedPayment) :
    MoneyBooks :=
  ((moneyMachine id).play
    { sampleBooks with ledger := { sampleLedger with providerPayments := [payment] } }
    [.store (sampleEvent firstFailureId .paymentFailed 1
        { captured := undecoded, collection := undecoded, failed := .ok failed }),
      .store (sampleEvent "a" .paymentCaptured 2
        { captured := .ok captured, collection := undecoded, failed := undecoded })]).2

def deliverFailure : MoneyCommand :=
  .projectNormalized (sampleDelivery firstFailureId firstCaseId 3)

def deliverCapture : MoneyCommand :=
  .projectTerminal (sampleDelivery "a" "01HZZZZZZZZZZZZZZZZZZZZZZB" 4)

/-- The failure and the capture of the sample payment. -/
def sampleTwoEvents : TwoEvents where
  failure := failureEvent firstFailureId 1
  failed := sampleFailed
  capture := { pendingStored with
    event := captureEvent "a" "pay_A" 2
    inbox := { pendingStored.inbox with nextAttemptAt := clock 2 } }
  captured := sampleCaptured "pay_A"
  order := sampleOrder
  total := 500
  fails := ⟨rfl, _, rfl, rfl⟩
  captures := ⟨rfl, _, rfl, rfl⟩
  payment := rfl
  distinct := by decide

def collidingBooks : MoneyBooks :=
  twoEventBooks samplePayment sampleFailed (sampleCaptured "pay_A")

theorem collidingBooks_awaiting : sampleTwoEvents.Awaiting collidingBooks := by
  refine ⟨⟨attemptedLedger_keyed, attemptedLedger_related, ?_⟩, ⟨_, rfl, rfl⟩, rfl,
    ⟨by decide, by decide, by decide⟩, samplePayment, capturable_sample _, by decide,
    .inl (by decide)⟩
  show (collidingBooks.events.map fun s => s.event.id).Nodup
  decide

/-- The steps of some deliveries and the books they lead to. -/
def delivered (books : MoneyBooks) (commands : List MoneyCommand) : List MoneyStep × MoneyBooks :=
  (moneyMachine id).play books commands

theorem delivers_of_delivered {books : MoneyBooks} {commands : List MoneyCommand} {s : MoneyStep}
    (hcommands : ∀ c ∈ commands, c = deliverFailure ∨ c = deliverCapture)
    (hs : s ∈ (delivered books commands).1) :
    Delivers sampleTwoEvents.failure.id sampleTwoEvents.capture.event.id s := by
  rcases hcommands _ (Machine.Run.cmd_mem_of_play s hs) with h | h
  · exact .inl ⟨_, h, rfl⟩
  · exact .inr ⟨_, h, rfl⟩

theorem exists_terminal_of_delivered {books : MoneyBooks} {commands : List MoneyCommand}
    (haccepted : (delivered books commands).1.length = commands.length)
    (hcaptured : deliverCapture ∈ commands) :
    ∃ s ∈ (delivered books commands).1, ∃ d, s.cmd = .projectTerminal d := by
  obtain ⟨s, hs, hcmd⟩ := Machine.Run.exists_of_play haccepted hcaptured
  exact ⟨s, hs, _, hcmd⟩

/-- In either order, and delivered twice, the payment is captured for all that was due. -/
theorem failure_and_capture_converge_sample :
    sampleTwoEvents.Collected (delivered collidingBooks [deliverFailure, deliverCapture]).2 ∧
      sampleTwoEvents.Collected
        (delivered collidingBooks [deliverCapture, deliverFailure, deliverCapture]).2 :=
  ⟨failure_and_capture_converge (Machine.Run.of_play _ _ _) collidingBooks_awaiting
      (fun _ hs => delivers_of_delivered (by simp) hs)
      (exists_terminal_of_delivered (by decide) (by simp)),
    failure_and_capture_converge (Machine.Run.of_play _ _ _) collidingBooks_awaiting
      (fun _ hs => delivers_of_delivered (by simp) hs)
      (exists_terminal_of_delivered (by decide) (by simp))⟩

/-- The books where the failure names another method than the capture, for a payment that
has none yet. -/
def methodlessBooks : MoneyBooks :=
  twoEventBooks { samplePayment with paymentMethod := none }
    (failedWith (some "card") 500 (by decide) (by decide)) (sampleCaptured "pay_A")

/-- The books of a payment that is not of the whole order. -/
def partialBooks : MoneyBooks :=
  twoEventBooks { samplePayment with amountMinor := 300 }
    (failedWith (some "upi") 300 (by decide) (by decide))
    { sampleCaptured "pay_A" with
      amountMinor := 300
      positive := by decide
      bounded := by decide }

/-- The status a payment of some books has come to. -/
def paymentStatus (books : MoneyBooks) : Option ProviderPaymentStatus :=
  (books.ledger.payment "pay_A").map StoredPayment.status

/-- A failure that names another method keeps the capture out, where the capture keeps out
the failure; a payment of less than is due is not captured in either order. -/
theorem failure_and_capture_diverge :
    (∀ books ∈ [methodlessBooks, partialBooks],
      (books.ledger.captureTarget "pay_A").map (fun t => t.order.canonicalTruth) = some .unpaid ∧
        ∀ commands ∈ [[deliverFailure, deliverCapture], [deliverCapture, deliverFailure]],
          (delivered books commands).1.length = 2) ∧
      paymentStatus (delivered methodlessBooks [deliverFailure, deliverCapture]).2 =
        some .failed ∧
      paymentStatus (delivered methodlessBooks [deliverCapture, deliverFailure]).2 =
        some .captured ∧
      paymentStatus (delivered partialBooks [deliverFailure, deliverCapture]).2 = some .created ∧
      paymentStatus (delivered partialBooks [deliverCapture, deliverFailure]).2 = some .created ∧
      ¬(delivered methodlessBooks [deliverFailure, deliverCapture]).2.ledger.NoOpenCase "order" :=
  by
  refine ⟨?_, rfl, rfl, rfl, rfl, ?_⟩
  · intro books hbooks
    rcases List.mem_cons.mp hbooks with rfl | hbooks
    · exact ⟨rfl, by decide⟩
    · rw [List.mem_singleton.mp hbooks]
      exact ⟨rfl, by decide⟩
  · intro hclosed
    exact absurd (hclosed _ List.mem_cons_self rfl) (by decide)

end Retrywise.ControlPlane
