import Retrywise.ControlPlane.OrderTotals
import Mathlib.Algebra.BigOperators.Group.List.Basic

/-!
# Overpaid orders

An order is overpaid when a second capture comes in. A case that has seen money on both
paths goes to `DUPLICATE_REVIEW`, and a link that takes the total over what is due puts its
case there.

> Where no capture is carried out beside the money of another original payment alone, an
> overpaid order has a case under review (`overpaid_inReview`).

Two payments of the original order are both the original path: the first capture closes the
cases as paid, and the second one, which looks for cases with collected instruments, opens
no review.
-/

namespace Retrywise.ControlPlane

open Retrywise.Foundation Retrywise.Domain

/-- A case of the order is under review. -/
def Ledger.InReview (ledger : Ledger) (o : LogicalOrder) : Prop :=
  ∃ c ∈ ledger.recoveryCases, Ledger.isOrderCase o c = true ∧ c.state = .duplicateReview

/-- The order of an id, when it is overpaid, has a case under review. -/
def Ledger.Reviewed (ledger : Ledger) (id : String) : Prop :=
  ∀ o, ledger.order id = some o → o.canonicalTruth = .overpaid → ledger.InReview o

/-- The step is to carry out a capture: its event is open, and the rows it finds can take
the payment. -/
def CarriesOutCapture (s : MoneyStep) (payment : CapturedPayment) (target : CaptureTarget) :
    Prop :=
  ∃ d stored found, s.cmd = .projectTerminal d ∧ s.pre.storedEvent d.eventRecordId = some stored ∧
    s.pre.Open stored ∧ stored.event.Captures payment ∧
    s.pre.ledger.Discovers payment stored.event.id d.newId
      stored.event.providerOccurredAt found ∧
    found.Capturable target payment stored.event.providerOccurredAt

/-- No second capture of the order's original path alone: a capture that is carried out
finds no money on another original payment, or finds money in the order's instruments, or
a case that is under review already. -/
def NoSecondOriginal (id : String) (s : MoneyStep) : Prop :=
  ∀ payment target, CarriesOutCapture s payment target → target.order.id = id →
    (∀ p ∈ s.pre.ledger.originalPath target.order,
      p.providerPaymentId ≠ payment.providerPaymentId → p.capturedMinor = 0) ∨
      0 < s.pre.ledger.recoveryMoney target.order ∨ s.pre.ledger.InReview target.order

/-! ## Cases under review -/

theorem moved_capture_of_review {collected : List String} {now : Timestamp} {c : RecoveryCase}
    (h : c.state = .duplicateReview) :
    (c.moved (captureTransition collected) now).state = .duplicateReview := by
  have hopen : RecoveryState.duplicateReview ∉ openCaseStates := by decide
  unfold RecoveryCase.moved captureTransition
  by_cases hcollected : c.id ∈ collected
  · simp [hcollected, h]
  · simp [hcollected, h, hopen]

/-- A case whose instrument has collected is under review after a capture. -/
theorem moved_capture_of_collected {collected : List String} {now : Timestamp} {c : RecoveryCase}
    (h : c.id ∈ collected) :
    (c.moved (captureTransition collected) now).state = .duplicateReview := by
  unfold RecoveryCase.moved captureTransition
  by_cases hstate : c.state = .duplicateReview
  · simp [h, hstate]
  · simp [h, hstate, RecoveryCase.transition, RecoveryCase.moveTo]

theorem moved_link_of_review {target : LinkTarget} {collection : PaymentLinkCollection}
    {original total : Nat} {now : Timestamp} (h : target.recoveryCase.state = .duplicateReview) :
    (target.recoveryCase.moved (fun _ => linkTransition target collection original total)
      now).state = .duplicateReview := by
  unfold RecoveryCase.moved
  cases htransition : linkTransition target collection original total with
  | none => exact h
  | some t =>
    rcases linkTransition_eq_some htransition with ⟨reason, -, rfl⟩ | ⟨hactive, -⟩
    · rfl
    · rw [h] at hactive
      exact absurd hactive (by decide)

/-- A link that takes the total over what is due puts its case under review. -/
theorem moved_link_of_overpaid {target : LinkTarget} {collection : PaymentLinkCollection}
    {original total : Nat} {now : Timestamp} (h : target.order.amountDueMinor < total) :
    (target.recoveryCase.moved (fun _ => linkTransition target collection original total)
      now).state = .duplicateReview := by
  by_cases hstate : target.recoveryCase.state = .duplicateReview
  · exact moved_link_of_review hstate
  · have hreview : collection.eventType = .partiallyPaid ∨ 0 < original ∨
        target.order.amountDueMinor < total := .inr (.inr h)
    unfold RecoveryCase.moved linkTransition
    rw [if_pos hreview, if_neg hstate]
    rfl

theorem truthOf_eq_overpaid_iff {total amountDue : Nat} :
    truthOf total amountDue = .overpaid ↔ amountDue < total := by
  unfold truthOf
  split_ifs with hless hpaid
  · simp
    omega
  · simp
    omega
  · simp
    omega

/-! ## One projection -/

section

variable {ledger : Ledger}

/-- The books after a capture have the cases that were under review. -/
theorem inReview_afterCapture {target : CaptureTarget} {payment : CapturedPayment}
    {eventRecordId : String} {occurredAt now : Timestamp} {o : LogicalOrder}
    (h : ledger.InReview o) :
    (ledger.afterCapture target payment eventRecordId occurredAt now).InReview o := by
  obtain ⟨c, hc, hcase, hstate⟩ := h
  refine ⟨_, List.mem_map_of_mem hc, ?_⟩
  by_cases htarget : Ledger.isOrderCase target.order c = true
  · rw [if_pos htarget]
    exact ⟨(isOrderCase_moved ..).trans hcase, moved_capture_of_review hstate⟩
  · rw [if_neg htarget]
    exact ⟨hcase, hstate⟩

theorem inReview_afterLink {target : LinkTarget} {collection : PaymentLinkCollection}
    {occurredAt now : Timestamp} {o : LogicalOrder} (h : ledger.InReview o) :
    (ledger.afterLink target collection occurredAt now).InReview o := by
  obtain ⟨c, hc, hcase, hstate⟩ := h
  refine ⟨_, List.mem_map_of_mem hc, ?_⟩
  by_cases htarget : c ∈ [target.recoveryCase]
  · rw [if_pos htarget]
    obtain rfl := List.mem_singleton.mp htarget
    exact ⟨(isOrderCase_moved ..).trans hcase, moved_link_of_review hstate⟩
  · rw [if_neg htarget]
    exact ⟨hcase, hstate⟩

/-- An order whose instruments have money has a case that a capture puts under review. -/
theorem inReview_of_recoveryMoney {target : CaptureTarget} {payment : CapturedPayment}
    {eventRecordId : String} {occurredAt now : Timestamp} (hrelated : ledger.Related)
    (h : ledger.Capturable target payment occurredAt)
    (hmoney : 0 < ledger.recoveryMoney target.order) :
    (ledger.afterCapture target payment eventRecordId occurredAt now).InReview target.order := by
  -- an instrument with money, and its case
  obtain ⟨i, hi, hpositive⟩ : ∃ i ∈ ledger.orderInstruments target.order, 0 < i.collectedMinor := by
    by_contra hnone
    push Not at hnone
    have hzero : ledger.recoveryMoney target.order = 0 := by
      refine List.sum_eq_zero ?_
      intro amount hamount
      obtain ⟨i, hi, rfl⟩ := List.mem_map.mp hamount
      exact Nat.le_zero.mp (hnone i hi)
    omega
  have hstatus : i.status ∈ [InstrumentStatus.paid, .partiallyPaid] := by
    rcases (h.countable.instruments i hi).2.2 with hstatus | hzero
    · exact hstatus
    · exact absurd hzero (by omega)
  obtain ⟨hmem, hof⟩ := List.mem_filter.mp hi
  obtain ⟨c, hc, hterms⟩ := List.mem_map.mp
    (hrelated.instruments (List.mem_map_of_mem (f := RecoveryInstrument.caseRef) hmem))
  simp only [RecoveryCase.terms, RecoveryInstrument.caseRef, Prod.mk.injEq] at hterms
  obtain ⟨hid, horder, hcurrency, -⟩ := hterms
  have hcase : Ledger.isOrderCase target.order c = true := by
    unfold Ledger.isOrderCase
    rw [horder, hcurrency]
    exact hof
  have hcollected : c.id ∈ collectedCaseIds (ledger.orderInstruments target.order) := by
    refine List.mem_map.mpr ⟨i, List.mem_filter.mpr ⟨hi, ?_⟩, hid.symm⟩
    simpa using ⟨by simpa using hstatus, hpositive⟩
  refine ⟨_, List.mem_map_of_mem hc, ?_⟩
  rw [if_pos hcase]
  exact ⟨(isOrderCase_moved ..).trans hcase, moved_capture_of_collected hcollected⟩

/-- The first money of an order is what is due. -/
theorem captureTotal_of_first {target : CaptureTarget} {payment : CapturedPayment}
    {occurredAt : Timestamp} (hkeyed : ledger.Keyed)
    (h : ledger.Capturable target payment occurredAt)
    (hothers : ∀ p ∈ ledger.originalPath target.order,
      p.providerPaymentId ≠ payment.providerPaymentId → p.capturedMinor = 0)
    (hrecovery : ledger.recoveryMoney target.order = 0) :
    ledger.captureTotal target payment = target.order.amountDueMinor := by
  have hpath := h.mem_originalPath
  have hmem := (List.mem_filter.mp hpath).1
  have hexact := CaptureTarget.exact_iff.mp (CaptureTarget.refusal_eq_none_iff.mp h.accepted).1
  classical
  have hsum : ((ledger.originalPath target.order).map
      (pathAmount (some (payment, target.payment.id)))).sum = payment.amountMinor := by
    rw [List.sum_map_eq_nsmul_single target.payment]
    · have hnodup : (ledger.originalPath target.order).Nodup :=
        (hkeyed.payments.of_map _).filter _
      rw [List.count_eq_one_of_mem hnodup hpath, one_nsmul, pathAmount_some, if_pos rfl]
    · intro p hne hp
      have hid : p.id ≠ target.payment.id := by
        intro hid
        exact hne (hkeyed.payments.eq_of_key (List.mem_filter.mp hp).1 hmem hid)
      have hprovider : p.providerPaymentId ≠ payment.providerPaymentId := by
        intro heq
        exact hne (hkeyed.providerPayments.eq_of_key (List.mem_filter.mp hp).1 hmem
          (heq.trans hexact.paymentId.symm))
      rw [pathAmount_some, if_neg hid]
      exact hothers p hp hprovider
  unfold Ledger.captureTotal
  rw [hsum, hrecovery, hexact.due]
  rfl

end

/-! ## Runs -/

/-- A payment that is found is on the books, or is the one that was looked for. -/
theorem Ledger.Discovers.mem {ledger found : Ledger} {payment : CapturedPayment}
    {eventRecordId newId : String} {occurredAt : Timestamp}
    (h : ledger.Discovers payment eventRecordId newId occurredAt found) :
    ∀ p ∈ found.providerPayments,
      p ∈ ledger.providerPayments ∨ p.providerPaymentId = payment.providerPaymentId := by
  intro p hp
  cases h with
  | known => exact .inl hp
  | new order idOk _ _ _ _ =>
    rcases List.mem_append.mp hp with hp | hp
    · exact .inl hp
    · right
      rw [List.mem_singleton.mp hp]
      rfl

/-- A discovery changes neither the instruments nor the cases nor the orders. -/
theorem Ledger.Discovers.frame {ledger found : Ledger} {payment : CapturedPayment}
    {eventRecordId newId : String} {occurredAt : Timestamp}
    (h : ledger.Discovers payment eventRecordId newId occurredAt found) :
    found.recoveryInstruments = ledger.recoveryInstruments ∧
      found.recoveryCases = ledger.recoveryCases ∧ found.logicalOrders = ledger.logicalOrders := by
  cases h with
  | known => exact ⟨rfl, rfl, rfl⟩
  | new => exact ⟨rfl, rfl, rfl⟩

section

variable {referenceIdOf : String → String} {s : MoneyStep} {id : String}

/-- A terminal projection that meets the condition keeps overpaid orders under review. -/
theorem reviewed_step (hterminal : s.cmd.IsTerminal) (hkeyed : s.pre.ledger.Keyed)
    (hrelated : s.pre.ledger.Related) (htakes : (moneyMachine referenceIdOf).Takes s)
    (hcondition : NoSecondOriginal id s) (h : s.pre.ledger.Reviewed id) :
    s.post.ledger.Reviewed id := by
  rcases terminal_step hterminal hkeyed htakes with ⟨hsame, -⟩ |
    ⟨d, stored, result, hcmd, hstored, -, houtcome⟩
  · rw [hsame]
    exact h
  · generalize s.post.ledger = after at houtcome
    cases houtcome with
    | settled => exact h
    | passed _ _ _ hfound _ =>
      rcases hfound with rfl | ⟨payment, -, hdiscovers⟩
      · exact h
      · obtain ⟨-, hcases, horders⟩ := hdiscovers.frame
        intro o ho htruth
        unfold Ledger.order at ho
        unfold Ledger.InReview
        rw [horders] at ho
        rw [hcases]
        exact h o ho htruth
    | captured found payment target hopen hevent hdiscovers hcapturable =>
      obtain ⟨hinstruments, hcases, horders⟩ := hdiscovers.frame
      have hkeyedFound := hdiscovers.keyed hkeyed
      have hsameReview : ∀ o, s.pre.ledger.InReview o → found.InReview o := by
        intro o hreview
        unfold Ledger.InReview
        rw [hcases]
        exact hreview
      intro o ho htruth
      rw [Ledger.order_afterCapture hcapturable] at ho
      by_cases hid : id = target.order.id
      · rw [if_pos hid] at ho
        obtain rfl := Option.some.inj ho
        have hover := truthOf_eq_overpaid_iff.mp htruth
        show Ledger.InReview _ target.order
        -- money beside other money of the original path is what the condition rules out
        rcases hcondition payment target
            ⟨d, stored, found, hcmd, hstored, hopen, hevent, hdiscovers, hcapturable⟩ hid.symm with
          hothers | hmoney | hreview
        · by_cases hrecovery : found.recoveryMoney target.order = 0
          · have hfirst := captureTotal_of_first hkeyedFound hcapturable (by
              intro p hp hne
              obtain ⟨hmem, hpath⟩ := List.mem_filter.mp hp
              rcases hdiscovers.mem p hmem with hold | hsought
              · exact hothers p (List.mem_filter.mpr ⟨hold, hpath⟩) hne
              · exact absurd hsought hne) hrecovery
            omega
          · exact inReview_of_recoveryMoney (hdiscovers.related hrelated) hcapturable
              (Nat.pos_of_ne_zero hrecovery)
        · refine inReview_of_recoveryMoney (hdiscovers.related hrelated) hcapturable ?_
          unfold Ledger.recoveryMoney
          rw [hinstruments]
          exact hmoney
        · exact inReview_afterCapture (hsameReview _ hreview)
      · rw [if_neg hid] at ho
        unfold Ledger.order at ho
        rw [horders] at ho
        exact inReview_afterCapture (hsameReview o (h o ho htruth))
    | collected collection target _ _ hcollectible _ =>
      intro o ho htruth
      rw [Ledger.order_afterLink hcollectible] at ho
      by_cases hid : id = target.order.id
      · rw [if_pos hid] at ho
        obtain rfl := Option.some.inj ho
        have hover := truthOf_eq_overpaid_iff.mp htruth
        obtain ⟨-, -, hmem, -, hcase, -⟩ := hcollectible.rows
        refine ⟨_, List.mem_map_of_mem hmem, ?_⟩
        rw [if_pos (List.mem_singleton.mpr rfl)]
        exact ⟨(isOrderCase_moved ..).trans hcase, moved_link_of_overpaid hover⟩
      · rw [if_neg hid] at ho
        exact inReview_afterLink (h o ho htruth)

end

/-- **Review of overpaid orders.** Where no capture is carried out beside the money of
another original payment alone, an overpaid order has a case under review after every run of
terminal projections. -/
theorem overpaid_inReview {referenceIdOf : String → String} {init final : MoneyBooks}
    {steps : List MoneyStep} {id : String}
    (hrun : (moneyMachine referenceIdOf).Run init steps final)
    (hterminal : ∀ s ∈ steps, s.cmd.IsTerminal) (hkeyed : init.ledger.Keyed)
    (hrelated : init.ledger.Related) (hstart : init.ledger.Reviewed id)
    (hcondition : ∀ s ∈ steps, NoSecondOriginal id s) : final.ledger.Reviewed id := by
  have hinvariant : final.ledger.Keyed ∧ final.ledger.Related ∧ final.ledger.Reviewed id := by
    refine Machine.Run.invariant_of
      (I := fun books => books.ledger.Keyed ∧ books.ledger.Related ∧ books.ledger.Reviewed id)
      (G := fun s => s.cmd.IsTerminal ∧ NoSecondOriginal id s) ⟨hkeyed, hrelated, hstart⟩ ?_ hrun
      (fun s hs => ⟨hterminal s hs, hcondition s hs⟩)
    rintro s ⟨hpreKeyed, hpreRelated, hpre⟩ htakes ⟨hcommand, hmeets⟩
    have hpost := reviewed_step hcommand hpreKeyed hpreRelated htakes hmeets hpre
    rcases terminal_step hcommand hpreKeyed htakes with ⟨hsame, -⟩ |
      ⟨d, stored, result, -, -, -, houtcome⟩
    · rw [hsame] at hpost ⊢
      exact ⟨hpreKeyed, hpreRelated, hpost⟩
    · exact ⟨houtcome.keyed hpreKeyed, houtcome.related hpreKeyed hpreRelated, hpost⟩
  exact hinvariant.2.2

/-! ## Two payments of the original order -/

/-- The sample order, with a case that observes it. -/
def observedLedger : Ledger :=
  { sampleLedger with recoveryCases := [observingCase "case" sampleOrder] }

def observedBooks : MoneyBooks := { sampleBooks with ledger := observedLedger }

/-- Two payments of the original order are captured, one after the other. -/
def secondCaptureCommands : List MoneyCommand :=
  captureCommands ++ [.store (captureEvent "b" "pay_B" 3),
    .projectTerminal (sampleDelivery "b" "01HZZZZZZZZZZZZZZZZZZZZZZB" 4)]

theorem secondCaptureCommands_terminal : ∀ c ∈ secondCaptureCommands, c.IsTerminal := by
  simp [secondCaptureCommands, captureCommands, MoneyCommand.IsTerminal]

theorem observedLedger_keyed : observedLedger.Keyed :=
  ⟨List.nodup_singleton _, List.nodup_nil, List.nodup_nil, List.nodup_nil, List.nodup_singleton _⟩

theorem observedLedger_related : observedLedger.Related :=
  ⟨List.nil_subset _, List.Subset.refl _, List.nil_subset _⟩

theorem observedLedger_reviewed : observedLedger.Reviewed "order" := by
  intro o ho htruth
  obtain rfl := Option.some.inj ho
  exact absurd htruth (by decide)

/-- A run of one capture. -/
theorem overpaid_inReview_captured :
    ((moneyMachine id).play observedBooks captureCommands).2.ledger.Reviewed "order" := by
  refine overpaid_inReview (Machine.Run.of_play (moneyMachine id) observedBooks captureCommands)
    (fun s hs => captureCommands_terminal s.cmd (Machine.Run.cmd_mem_of_play s hs))
    observedLedger_keyed observedLedger_related observedLedger_reviewed ?_
  have hempty : ∀ s ∈ ((moneyMachine id).play observedBooks captureCommands).1,
      s.pre.ledger.providerPayments.isEmpty = true := by decide
  intro s hs payment target _ _
  left
  intro p hp
  rw [Ledger.originalPath, List.isEmpty_iff.mp (hempty s hs)] at hp
  exact absurd hp List.not_mem_nil

/-- Two original payments make the order overpaid, and its case is closed as paid. -/
theorem overpaid_without_review :
    ∃ (init final : MoneyBooks) (steps : List MoneyStep),
      (moneyMachine id).Run init steps final ∧ (∀ s ∈ steps, s.cmd.IsTerminal) ∧
        init.ledger.Keyed ∧ init.ledger.Related ∧ init.ledger.Reviewed "order" ∧
        (∃ o, init.ledger.order "order" = some o ∧ o.mappingStatus = .mapped ∧
          ∃ c ∈ init.ledger.recoveryCases, Ledger.isOrderCase o c = true ∧
            c.state = .observing) ∧
        ¬final.ledger.Reviewed "order" := by
  refine ⟨_, _, _, Machine.Run.of_play (moneyMachine id) observedBooks secondCaptureCommands,
    fun s hs => secondCaptureCommands_terminal s.cmd (Machine.Run.cmd_mem_of_play s hs),
    observedLedger_keyed, observedLedger_related, observedLedger_reviewed,
    ⟨sampleOrder, rfl, rfl, _, List.mem_singleton_self _, rfl, rfl⟩, ?_⟩
  intro hreviewed
  obtain ⟨c, hc, -, hstate⟩ := hreviewed _ rfl (by decide)
  have hclosed : ∀ c ∈ ((moneyMachine id).play observedBooks
      secondCaptureCommands).2.ledger.recoveryCases, c.state = .suppressedPaid := by decide
  rw [hclosed c hc] at hstate
  exact absurd hstate (by decide)

end Retrywise.ControlPlane
