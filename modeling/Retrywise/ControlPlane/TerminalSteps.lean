import Retrywise.ControlPlane.MoneyMachine
import Retrywise.ControlPlane.TerminalMoves

/-!
# Projections of terminal events

One projection of the terminal projector, from the books before it to the books after.
There are four of them (`TerminalOutcome`): the event was settled before; nothing was moved,
though the payment of a capture may have been put on the books; a capture was carried out;
a collection was carried out.

> Only the last two change money, truth or a case, and their totals are what the paths of
> the order hold afterwards (`pathTotal_afterCapture`, `pathTotal_afterLink`).
-/

namespace Retrywise.ControlPlane

open Retrywise.Foundation Retrywise.Domain

/-! ## Outcomes -/

/-- The event says that a payment was captured. -/
def ProviderEvent.Captures (event : ProviderEvent CanonicalEvent) (payment : CapturedPayment) :
    Prop :=
  event.eventType = .paymentCaptured ∧
    ∃ canonical, event.canonical = .ok canonical ∧ canonical.captured = .ok payment

/-- The event says that a link has collected. -/
def ProviderEvent.Collects (event : ProviderEvent CanonicalEvent)
    (collection : PaymentLinkCollection) : Prop :=
  (event.eventType = .linkPaid ∨ event.eventType = .linkPartiallyPaid) ∧
    ∃ canonical, event.canonical = .ok canonical ∧ canonical.collection = .ok collection

/-- The event can be accepted: it is not settled, its attempts are not used up, and no
earlier one has its body. -/
structure Books.Open (books : MoneyBooks) (stored : StoredEvent CanonicalEvent) : Prop where
  unsettled : stored.inbox.status ∉ settledStatuses
  attempts : stored.inbox.attemptCount < stored.inbox.maxAttempts
  first : books.reusesBody stored.event = false

/-- What a terminal projection of a stored event leaves of the money rows. -/
inductive TerminalOutcome (referenceIdOf : String → String) (d : EventDelivery)
    (stored : StoredEvent CanonicalEvent) (books : MoneyBooks) :
    Ledger → ProjectionResult → Prop
  | settled (hsettled : stored.inbox.status ∈ settledStatuses) :
      TerminalOutcome referenceIdOf d stored books books.ledger
        (Projector.previously stored.inbox.status)
  | passed (found : Ledger) (result : ProjectionResult)
      (hopen : stored.inbox.status ∉ settledStatuses)
      (hfound : found = books.ledger ∨ ∃ payment, stored.event.Captures payment ∧
        books.ledger.Discovers payment stored.event.id d.newId
          stored.event.providerOccurredAt found)
      (hresult : result.disposition ≠ .processed) :
      TerminalOutcome referenceIdOf d stored books found result
  | captured (found : Ledger) (payment : CapturedPayment) (target : CaptureTarget)
      (hopen : books.Open stored) (hevent : stored.event.Captures payment)
      (hfound : books.ledger.Discovers payment stored.event.id d.newId
          stored.event.providerOccurredAt found)
      (hcapturable : found.Capturable target payment stored.event.providerOccurredAt) :
      TerminalOutcome referenceIdOf d stored books
        (found.afterCapture target payment stored.event.id stored.event.providerOccurredAt d.now)
        { disposition := .processed }
  | collected (collection : PaymentLinkCollection) (target : LinkTarget)
      (hopen : books.Open stored) (hevent : stored.event.Collects collection)
      (hcollectible : books.ledger.Collectible target collection
        (referenceIdOf target.recoveryCase.id))
      (hadmitted : target.Admitted collection (books.ledger.originalMoney target.order)
        (books.ledger.collectionTotal target collection) d.now) :
      TerminalOutcome referenceIdOf d stored books
        (books.ledger.afterLink target collection stored.event.providerOccurredAt d.now)
        { disposition := .processed }

/-- A row that is new to a keyed table. -/
theorem Ledger.Discovers.keyed {ledger found : Ledger} {payment : CapturedPayment}
    {eventRecordId newId : String} {occurredAt : Timestamp} (hkeyed : ledger.Keyed)
    (h : ledger.Discovers payment eventRecordId newId occurredAt found) : found.Keyed := by
  cases h with
  | known => exact hkeyed
  | new order idOk _ _ hpayment hfresh =>
    have hnew : ∀ p ∈ ledger.providerPayments,
        p.providerPaymentId ≠ payment.providerPaymentId := by
      intro p hp heq
      have := List.find?_eq_none.mp hpayment p hp
      exact this (by simpa using heq)
    exact {
      orders := hkeyed.orders
      payments := Table.keyed_concat hkeyed.payments hfresh
      providerPayments := Table.keyed_concat hkeyed.providerPayments hnew
      instruments := hkeyed.instruments
      cases := hkeyed.cases }

/-- A prepared terminal event has found its rows, and is ignored or planned. -/
theorem prepareTerminal_ok {referenceIdOf : String → String} {d : EventDelivery}
    {ledger found : Ledger} {event : ProviderEvent CanonicalEvent} {canonical : CanonicalEvent}
    {plan : TerminalPlan} (hcanonical : event.canonical = .ok canonical)
    (h : prepareTerminal referenceIdOf d ledger event canonical = .ok (found, plan)) :
    ((found = ledger ∨ ∃ payment, event.Captures payment ∧
          ledger.Discovers payment event.id d.newId event.providerOccurredAt found) ∧
        ∃ reason, plan = .ignored reason) ∨
      (∃ payment target, event.Captures payment ∧
        ledger.Discovers payment event.id d.newId event.providerOccurredAt found ∧
        found.Capturable target payment event.providerOccurredAt ∧
        plan = .capture (found.capturePlan target payment)) ∨
      ∃ collection target, event.Collects collection ∧ found = ledger ∧
        ledger.Collectible target collection (referenceIdOf target.recoveryCase.id) ∧
        plan = .link (ledger.linkPlan target collection) := by
  unfold prepareTerminal at h
  cases htype : event.eventType with
  | paymentCaptured =>
    rw [htype] at h
    obtain ⟨payment, hpayment, h⟩ := bind_ok_iff.mp h
    have hevent : event.Captures payment := ⟨htype, canonical, hcanonical, hpayment⟩
    obtain ⟨hfound, hignored | ⟨target, hcapturable, rfl⟩⟩ := prepareCapture_ok h
    · exact .inl ⟨.inr ⟨payment, hevent, hfound⟩, hignored⟩
    · exact .inr (.inl ⟨payment, target, hevent, hfound, hcapturable, rfl⟩)
  | linkPaid =>
    rw [htype] at h
    obtain ⟨collection, hcollection, h⟩ := bind_ok_iff.mp h
    obtain ⟨planned, hplanned, h⟩ := bind_ok_iff.mp h
    obtain ⟨rfl, rfl⟩ := Prod.mk.inj (pure_ok_iff.mp h)
    rcases prepareLink_ok hplanned with hignored | ⟨target, hcollectible, rfl⟩
    · exact .inl ⟨.inl rfl, hignored⟩
    · exact .inr (.inr ⟨collection, target, ⟨.inl htype, canonical, hcanonical, hcollection⟩, rfl,
        hcollectible, rfl⟩)
  | linkPartiallyPaid =>
    rw [htype] at h
    obtain ⟨collection, hcollection, h⟩ := bind_ok_iff.mp h
    obtain ⟨planned, hplanned, h⟩ := bind_ok_iff.mp h
    obtain ⟨rfl, rfl⟩ := Prod.mk.inj (pure_ok_iff.mp h)
    rcases prepareLink_ok hplanned with hignored | ⟨target, hcollectible, rfl⟩
    · exact .inl ⟨.inl rfl, hignored⟩
    · exact .inr (.inr ⟨collection, target, ⟨.inr htype, canonical, hcanonical, hcollection⟩, rfl,
        hcollectible, rfl⟩)
  | paymentFailed =>
    rw [htype] at h
    obtain ⟨rfl, rfl⟩ := Prod.mk.inj (Except.ok.inj h)
    exact .inl ⟨.inl rfl, _, rfl⟩
  | linkCancelled =>
    rw [htype] at h
    obtain ⟨rfl, rfl⟩ := Prod.mk.inj (Except.ok.inj h)
    exact .inl ⟨.inl rfl, _, rfl⟩
  | linkExpired =>
    rw [htype] at h
    obtain ⟨rfl, rfl⟩ := Prod.mk.inj (Except.ok.inj h)
    exact .inl ⟨.inl rfl, _, rfl⟩
  | other name =>
    rw [htype] at h
    obtain ⟨rfl, rfl⟩ := Prod.mk.inj (Except.ok.inj h)
    exact .inl ⟨.inl rfl, _, rfl⟩

/-- Every terminal projection has one of the four outcomes. -/
theorem terminal_project_ok {referenceIdOf : String → String} {d : EventDelivery}
    {books after : MoneyBooks} {result : ProjectionResult} (hkeyed : books.ledger.Keyed)
    (h : (terminalProjector referenceIdOf).project d books = .ok (after, result)) :
    ∃ stored, books.storedEvent d.eventRecordId = some stored ∧
      TerminalOutcome referenceIdOf d stored books after.ledger result := by
  -- what a plan has found, whatever became of it
  have hplanned : ∀ {stored : StoredEvent CanonicalEvent} {ledger : Ledger}
      {prepared : Prepared TerminalPlan},
      (terminalProjector referenceIdOf).plan d books stored = .ok (ledger, prepared) →
      ((ledger = books.ledger ∨ ∃ payment, stored.event.Captures payment ∧
          books.ledger.Discovers payment stored.event.id d.newId stored.event.providerOccurredAt
            ledger) ∧ ∃ reason, prepared = .ignored reason) ∨
        books.reusesBody stored.event = false ∧
        ∃ canonical plan, stored.event.canonical = .ok canonical ∧
          prepareTerminal referenceIdOf d books.ledger stored.event canonical =
            .ok (ledger, plan) ∧ prepared = plan.prepared := by
    intro stored ledger prepared hplan
    rcases Projector.plan_ok hplan with ⟨-, rfl, rfl⟩ | ⟨hfirst, canonical, hcanonical, hprepare⟩
    · exact .inl ⟨.inl rfl, _, rfl⟩
    · obtain ⟨⟨found, plan⟩, hterminal, hpure⟩ := bind_ok_iff.mp hprepare
      obtain ⟨rfl, rfl⟩ := Prod.mk.inj (pure_ok_iff.mp hpure)
      exact .inr ⟨hfirst, canonical, plan, hcanonical, hterminal, rfl⟩
  have hfound : ∀ {stored : StoredEvent CanonicalEvent} {ledger : Ledger}
      {prepared : Prepared TerminalPlan},
      (terminalProjector referenceIdOf).plan d books stored = .ok (ledger, prepared) →
      ledger = books.ledger ∨ ∃ payment, stored.event.Captures payment ∧
        books.ledger.Discovers payment stored.event.id d.newId stored.event.providerOccurredAt
          ledger := by
    intro stored ledger prepared hplan
    rcases hplanned hplan with ⟨hfound, -⟩ | ⟨-, canonical, plan, hcanonical, hprepare, -⟩
    · exact hfound
    · rcases prepareTerminal_ok hcanonical hprepare with ⟨hfound, -⟩ |
        ⟨payment, -, hevent, hfound, -⟩ | ⟨-, -, -, rfl, -⟩
      · exact hfound
      · exact .inr ⟨payment, hevent, hfound⟩
      · exact .inl rfl
  cases project_ok h with
  | settled stored hstored hsettled => exact ⟨stored, hstored, .settled hsettled⟩
  | exhausted stored ledger prepared inbox hstored hopen hplan _ =>
    exact ⟨stored, hstored, .passed _ _ hopen (hfound hplan) (by simp)⟩
  | ignored stored ledger reason inbox hstored hopen hplan _ =>
    exact ⟨stored, hstored, .passed _ _ hopen (hfound hplan) (by simp)⟩
  | deferred stored ledger reason enrichment inbox hstored hopen hplan _ =>
    exact ⟨stored, hstored, .passed _ _ hopen (hfound hplan) (by simp)⟩
  | moved stored ledger moved plan inbox result hstored hunsettled hplan hattempts hmoved _ =>
    refine ⟨stored, hstored, ?_⟩
    obtain ⟨carried, hcarried, hpure⟩ := bind_ok_iff.mp hmoved
    obtain ⟨rfl, rfl⟩ := Prod.mk.inj (pure_ok_iff.mp hpure)
    rcases hplanned hplan with ⟨-, reason, hignored⟩ |
      ⟨hfirst, canonical, terminal, hcanonical, hprepare, hprepared⟩
    · exact absurd hignored (by simp)
    have hopen : books.Open stored := ⟨hunsettled, hattempts, hfirst⟩
    rcases prepareTerminal_ok hcanonical hprepare with ⟨-, reason, rfl⟩ |
      ⟨payment, target, hevent, hdiscovers, hcapturable, rfl⟩ |
      ⟨collection, target, hevent, rfl, hcollectible, rfl⟩
    · exact absurd hprepared (by simp [TerminalPlan.prepared])
    · obtain rfl : plan = _ := Prepared.work.inj hprepared
      have heq := Except.ok.inj ((Ledger.applyCapture_eq (hdiscovers.keyed hkeyed) hcapturable).symm.trans
        hcarried)
      show TerminalOutcome _ _ _ _ carried _
      rw [← heq]
      exact .captured ledger payment target hopen hevent hdiscovers hcapturable
    · obtain rfl : plan = _ := Prepared.work.inj hprepared
      obtain ⟨hadmitted, heq⟩ := (Ledger.applyLink_ok_iff hkeyed hcollectible).mp hcarried
      show TerminalOutcome _ _ _ _ carried _
      rw [heq]
      exact .collected collection target hopen hevent hcollectible hadmitted

/-! ## What an outcome leaves -/

theorem pathAmount_some (payment : CapturedPayment) (id : String) (p : StoredPayment) :
    pathAmount (some (payment, id)) p =
      if p.id = id then payment.amountMinor else p.capturedMinor := by
  unfold pathAmount
  by_cases h : p.id = id
  · simp [h, Option.filter]
  · simp [h, Option.filter]

theorem collectedAmount_some (collection : PaymentLinkCollection) (id : String)
    (i : RecoveryInstrument) :
    collectedAmount (some (collection, id)) i =
      if i.id = id then collection.amountPaidMinor else i.collectedMinor := by
  unfold collectedAmount
  by_cases h : i.id = id
  · simp [h, Option.filter]
  · simp [h, Option.filter]

namespace Ledger

section

variable {ledger found : Ledger} {payment : CapturedPayment} {eventRecordId newId : String}
  {occurredAt : Timestamp}

/-- A discovered payment has no money yet. -/
theorem Discovers.originalMoney (h : ledger.Discovers payment eventRecordId newId occurredAt found)
    (o : LogicalOrder) : found.originalMoney o = ledger.originalMoney o := by
  cases h with
  | known => rfl
  | new order idOk _ _ _ _ =>
    unfold Ledger.originalMoney
    rw [Table.total_concat]
    show _ + (if _ then 0 else 0) = _
    rw [ite_self, Nat.add_zero]

theorem Discovers.pathTotal (h : ledger.Discovers payment eventRecordId newId occurredAt found)
    (o : LogicalOrder) : found.pathTotal o = ledger.pathTotal o := by
  have hrecovery : found.recoveryMoney o = ledger.recoveryMoney o := by
    cases h with
    | known => rfl
    | new => rfl
  rw [Ledger.pathTotal, Ledger.pathTotal, h.originalMoney, hrecovery]

end

section

variable {ledger : Ledger} {target : CaptureTarget} {payment : CapturedPayment}
  {eventRecordId : String} {occurredAt now : Timestamp}

/-- The payment of a capture is on the original path of its order. -/
theorem Capturable.mem_originalPath (h : ledger.Capturable target payment occurredAt) :
    target.payment ∈ ledger.originalPath target.order := by
  obtain ⟨hmem, -, -, hlogical⟩ := captureTarget_rows h.found
  have hexact := CaptureTarget.exact_iff.mp (CaptureTarget.refusal_eq_none_iff.mp h.accepted).1
  refine List.mem_filter.mpr ⟨hmem, ?_⟩
  simp [onOriginalPath, hlogical, hexact.orderId, hexact.original]

theorem keyed_afterCapture (hkeyed : ledger.Keyed)
    (h : ledger.Capturable target payment occurredAt) :
    (ledger.afterCapture target payment eventRecordId occurredAt now).Keyed := by
  obtain ⟨hmem, -, -, -⟩ := captureTarget_rows h.found
  have hproviderIds : ((Table.put (fun p : StoredPayment => p.id)
      (target.payment.capture payment eventRecordId occurredAt)
      ledger.providerPayments).map fun p => p.providerPaymentId) =
        ledger.providerPayments.map fun p => p.providerPaymentId := by
    exact Table.map_put hkeyed.payments hmem rfl rfl fun _ _ _ => rfl
  have hcaseIds : ((ledger.afterCapture target payment eventRecordId occurredAt
      now).recoveryCases.map RecoveryCase.id) = ledger.recoveryCases.map RecoveryCase.id := by
    show (List.map _ ledger.recoveryCases).map RecoveryCase.id = _
    rw [List.map_map]
    apply List.map_congr_left
    intro c _
    show RecoveryCase.id (if _ then _ else _) = _
    split_ifs
    · exact RecoveryCase.id_moved _ _ c
    · rfl
  exact {
    orders := Table.keyed_put hkeyed.orders
    payments := Table.keyed_put hkeyed.payments
    providerPayments := by
      unfold Table.Keyed afterCapture
      rw [hproviderIds]
      exact hkeyed.providerPayments
    instruments := hkeyed.instruments
    cases := by
      unfold Table.Keyed
      rw [hcaseIds]
      exact hkeyed.cases }

/-- The order of a capture, and the others. -/
theorem order_afterCapture (h : ledger.Capturable target payment occurredAt) (id : String) :
    (ledger.afterCapture target payment eventRecordId occurredAt now).order id =
      if id = target.order.id then
        some (target.order.project (ledger.captureTotal target payment)
          (truthOf (ledger.captureTotal target payment) target.order.amountDueMinor) occurredAt)
      else ledger.order id := by
  obtain ⟨-, -, horder, -⟩ := captureTarget_rows h.found
  by_cases hid : id = target.order.id
  · rw [if_pos hid, hid]
    exact Table.find_put horder rfl
  · rw [if_neg hid]
    exact Table.find_put_of_ne (Ne.symm hid)

/-- The order of a capture has the captured payment on its original path. -/
theorem originalMoney_afterCapture (hkeyed : ledger.Keyed)
    (h : ledger.Capturable target payment occurredAt) :
    (ledger.afterCapture target payment eventRecordId occurredAt now).originalMoney target.order =
      ((ledger.originalPath target.order).map
        (pathAmount (some (payment, target.payment.id)))).sum := by
  have hpath := h.mem_originalPath
  obtain ⟨hmem, honPath⟩ := List.mem_filter.mp hpath
  have hsame : ∀ old ∈ ledger.providerPayments,
      old.id = (target.payment.capture payment eventRecordId occurredAt).id →
      onOriginalPath target.order old = onOriginalPath target.order
        (target.payment.capture payment eventRecordId occurredAt) := by
    intro old hold hid
    rw [hkeyed.payments.eq_of_key hold hmem hid]
    rfl
  have hfilter := @Table.filter_put _ _ _ (fun p : StoredPayment => p.id) _ _ _ hsame
  have hpathKeyed : Table.Keyed (fun p : StoredPayment => p.id)
      (ledger.originalPath target.order) :=
    hkeyed.payments.sublist (List.filter_sublist.map _)
  show ((List.filter _ (Table.put _ _ _)).map StoredPayment.capturedMinor).sum = _
  rw [hfilter]
  congr 1
  refine Table.map_put hpathKeyed hpath rfl ?_ ?_
  · rw [pathAmount_some, if_pos rfl]
    rfl
  · intro other hother hne
    have hid : other.id ≠ target.payment.id := by
      intro hid
      exact hne (hpathKeyed.eq_of_key hother hpath hid)
    rw [pathAmount_some, if_neg hid]

/-- The total of a capture is what the paths of its order hold afterwards. -/
theorem pathTotal_afterCapture (hkeyed : ledger.Keyed)
    (h : ledger.Capturable target payment occurredAt) :
    (ledger.afterCapture target payment eventRecordId occurredAt now).pathTotal target.order =
      ledger.captureTotal target payment := by
  rw [Ledger.pathTotal, originalMoney_afterCapture hkeyed h]
  rfl

/-- A capture leaves the paths of the other orders alone. -/
theorem pathTotal_afterCapture_of_ne (h : ledger.Capturable target payment occurredAt)
    (hkeyed : ledger.Keyed) {o : LogicalOrder} (hne : o.id ≠ target.order.id) :
    (ledger.afterCapture target payment eventRecordId occurredAt now).pathTotal o =
      ledger.pathTotal o := by
  obtain ⟨hmem, -, -, hlogical⟩ := captureTarget_rows h.found
  have hoff : onOriginalPath o (target.payment.capture payment eventRecordId occurredAt) =
      false := by
    simp [onOriginalPath, StoredPayment.capture, hlogical, Ne.symm hne]
  have hold : ∀ old ∈ ledger.providerPayments,
      old.id = (target.payment.capture payment eventRecordId occurredAt).id →
      onOriginalPath o old = false := by
    intro old hold hid
    rw [hkeyed.payments.eq_of_key hold hmem hid]
    exact hoff
  have hmoney : (ledger.afterCapture target payment eventRecordId occurredAt now).originalMoney o =
      ledger.originalMoney o := by
    show ((List.filter _ (Table.put _ _ _)).map StoredPayment.capturedMinor).sum = _
    rw [Table.filter_put_of_not hoff hold]
    rfl
  rw [Ledger.pathTotal, hmoney]
  rfl

end

section

variable {ledger : Ledger} {target : LinkTarget} {collection : PaymentLinkCollection}
  {referenceId : String} {occurredAt now : Timestamp}

/-- The rows of a target are rows of the books. -/
theorem Collectible.rows (h : ledger.Collectible target collection referenceId) :
    target.instrument ∈ ledger.recoveryInstruments ∧
      ledger.order target.order.id = some target.order ∧
      target.recoveryCase ∈ ledger.recoveryCases ∧
      isOrderInstrument target.order target.instrument = true ∧
      isOrderCase target.order target.recoveryCase = true ∧
      target.recoveryCase.id = target.instrument.recoveryCaseId := by
  obtain ⟨hmem, -, hcase, horder, hlogical, hcurrency, -, horderCurrency, -⟩ :=
    linkTarget_eq_some h.found
  have hid : target.order.id = target.instrument.logicalOrderId := Table.key_of_find horder
  refine ⟨hmem, hid ▸ horder, Table.mem_of_find hcase, ?_, ?_, Table.key_of_find hcase⟩
  · simp [isOrderInstrument, hid, horderCurrency]
  · simp [isOrderCase, hid, hlogical, hcurrency, horderCurrency]

theorem keyed_afterLink (hkeyed : ledger.Keyed) :
    (ledger.afterLink target collection occurredAt now).Keyed := by
  have hcaseIds : (ledger.casesAfterLink target collection now).map RecoveryCase.id =
      ledger.recoveryCases.map RecoveryCase.id := by
    unfold casesAfterLink
    rw [List.map_map]
    apply List.map_congr_left
    intro c _
    show RecoveryCase.id (if _ then _ else _) = _
    split_ifs
    · exact RecoveryCase.id_moved _ _ c
    · rfl
  exact {
    orders := Table.keyed_put hkeyed.orders
    payments := hkeyed.payments
    providerPayments := hkeyed.providerPayments
    instruments := Table.keyed_put hkeyed.instruments
    cases := by
      show ((ledger.casesAfterLink target collection now).map RecoveryCase.id).Nodup
      rw [hcaseIds]
      exact hkeyed.cases }

/-- The order of a collection, and the others. -/
theorem order_afterLink (h : ledger.Collectible target collection referenceId) (id : String) :
    (ledger.afterLink target collection occurredAt now).order id =
      if id = target.order.id then
        some (target.order.project (ledger.collectionTotal target collection)
          (truthOf (ledger.collectionTotal target collection) target.order.amountDueMinor)
          occurredAt)
      else ledger.order id := by
  obtain ⟨-, horder, -⟩ := h.rows
  by_cases hid : id = target.order.id
  · rw [if_pos hid, hid]
    exact Table.find_put horder rfl
  · rw [if_neg hid]
    exact Table.find_put_of_ne (Ne.symm hid)

/-- The total of a collection is what the paths of its order hold afterwards. -/
theorem pathTotal_afterLink (hkeyed : ledger.Keyed)
    (h : ledger.Collectible target collection referenceId) :
    (ledger.afterLink target collection occurredAt now).pathTotal target.order =
      ledger.collectionTotal target collection := by
  obtain ⟨hmem, -, -, honPath, -, -⟩ := h.rows
  have hsame : ∀ old ∈ ledger.recoveryInstruments,
      old.id = (target.instrument.collect collection now).id →
      isOrderInstrument target.order old = isOrderInstrument target.order
        (target.instrument.collect collection now) := by
    intro old hold hid
    rw [hkeyed.instruments.eq_of_key hold hmem hid]
    rfl
  have hfilter := @Table.filter_put _ _ _ RecoveryInstrument.id _ _ _ hsame
  have hpath : target.instrument ∈ ledger.orderInstruments target.order :=
    List.mem_filter.mpr ⟨hmem, honPath⟩
  have hpathKeyed : Table.Keyed RecoveryInstrument.id (ledger.orderInstruments target.order) :=
    hkeyed.instruments.sublist (List.filter_sublist.map _)
  unfold Ledger.pathTotal Ledger.collectionTotal
  congr 1
  show ((List.filter _ (Table.put _ _ _)).map fun i : RecoveryInstrument => i.collectedMinor).sum = _
  rw [hfilter]
  congr 1
  refine Table.map_put hpathKeyed hpath rfl ?_ ?_
  · rw [collectedAmount_some, if_pos rfl]
    rfl
  · intro other hother hne
    have hid : other.id ≠ target.instrument.id := by
      intro hid
      exact hne (hpathKeyed.eq_of_key hother hpath hid)
    rw [collectedAmount_some, if_neg hid]

/-- A collection leaves the paths of the other orders alone. -/
theorem pathTotal_afterLink_of_ne (h : ledger.Collectible target collection referenceId)
    (hkeyed : ledger.Keyed) {o : LogicalOrder} (hne : o.id ≠ target.order.id) :
    (ledger.afterLink target collection occurredAt now).pathTotal o = ledger.pathTotal o := by
  obtain ⟨hmem, -, -, honPath, -, -⟩ := h.rows
  have hlogical : target.instrument.logicalOrderId = target.order.id := by
    simp only [isOrderInstrument, Bool.and_eq_true, decide_eq_true_eq] at honPath
    exact honPath.1
  have hoff : isOrderInstrument o (target.instrument.collect collection now) = false := by
    simp [isOrderInstrument, RecoveryInstrument.collect, hlogical, Ne.symm hne]
  have hold : ∀ old ∈ ledger.recoveryInstruments,
      old.id = (target.instrument.collect collection now).id → isOrderInstrument o old = false := by
    intro old hold hid
    rw [hkeyed.instruments.eq_of_key hold hmem hid]
    exact hoff
  unfold Ledger.pathTotal
  congr 1
  show ((List.filter _ (Table.put _ _ _)).map fun i : RecoveryInstrument => i.collectedMinor).sum = _
  rw [Table.filter_put_of_not hoff hold]
  rfl

end

end Ledger

/-- A terminal projection keeps the keys of the tables. -/
theorem TerminalOutcome.keyed {referenceIdOf : String → String} {d : EventDelivery}
    {stored : StoredEvent CanonicalEvent} {books : MoneyBooks} {after : Ledger}
    {result : ProjectionResult}
    (h : TerminalOutcome referenceIdOf d stored books after result)
    (hkeyed : books.ledger.Keyed) : after.Keyed := by
  cases h with
  | settled => exact hkeyed
  | passed _ _ _ hfound _ =>
    rcases hfound with rfl | ⟨payment, -, hdiscovers⟩
    · exact hkeyed
    · exact hdiscovers.keyed hkeyed
  | captured found payment target _ _ hdiscovers hcapturable =>
    exact Ledger.keyed_afterCapture (hdiscovers.keyed hkeyed) hcapturable
  | collected collection target _ _ hcollectible _ => exact Ledger.keyed_afterLink hkeyed

/-! ## What the rows are about -/

theorem RecoveryCase.moved_terms (move : RecoveryCase → Option CaseTransition) (now : Timestamp)
    (c : RecoveryCase) :
    (c.moved move now).logicalOrderId = c.logicalOrderId ∧
      (c.moved move now).currency = c.currency ∧
      (c.moved move now).amountDueSnapshotMinor = c.amountDueSnapshotMinor := by
  unfold RecoveryCase.moved
  cases move c with
  | some t => exact ⟨rfl, rfl, rfl⟩
  | none => exact ⟨rfl, rfl, rfl⟩

theorem isOrderCase_moved (o : LogicalOrder) (move : RecoveryCase → Option CaseTransition)
    (now : Timestamp) (c : RecoveryCase) :
    Ledger.isOrderCase o (c.moved move now) = Ledger.isOrderCase o c := by
  obtain ⟨horder, hcurrency, -⟩ := c.moved_terms move now
  unfold Ledger.isOrderCase
  rw [horder, hcurrency]

/-- What no change of a case changes, of cases of which some have moved. -/
theorem map_terms_moved {β : Type} {f : RecoveryCase → β} {selected : RecoveryCase → Prop}
    [DecidablePred selected] {move : RecoveryCase → Option CaseTransition} {now : Timestamp}
    (hf : ∀ c, f (c.moved move now) = f c) (cases : List RecoveryCase) :
    (cases.map fun c => if selected c then c.moved move now else c).map f = cases.map f := by
  rw [List.map_map]
  apply List.map_congr_left
  intro c _
  show f (if _ then _ else _) = _
  split_ifs
  · exact hf c
  · rfl

theorem RecoveryCase.terms_moved (move : RecoveryCase → Option CaseTransition) (now : Timestamp)
    (c : RecoveryCase) : (c.moved move now).terms = c.terms := by
  obtain ⟨h₁, h₂, h₃⟩ := c.moved_terms move now
  unfold RecoveryCase.terms
  rw [c.id_moved, h₁, h₂, h₃]

theorem RecoveryCase.orderRef_moved (move : RecoveryCase → Option CaseTransition)
    (now : Timestamp) (c : RecoveryCase) : (c.moved move now).orderRef = c.orderRef := by
  obtain ⟨h₁, h₂, h₃⟩ := c.moved_terms move now
  unfold RecoveryCase.orderRef
  rw [h₁, h₂, h₃]

/-- Books whose rows are about what they were about before. -/
theorem Ledger.Related.of_same {before after : Ledger} (h : before.Related)
    (hmoney : after.logicalOrders.map LogicalOrder.moneyTerms =
      before.logicalOrders.map LogicalOrder.moneyTerms)
    (hdue : after.logicalOrders.map LogicalOrder.dueTerms =
      before.logicalOrders.map LogicalOrder.dueTerms)
    (hpayments : after.providerPayments.map StoredPayment.orderRef =
      before.providerPayments.map StoredPayment.orderRef)
    (hcases : after.recoveryCases.map RecoveryCase.orderRef =
      before.recoveryCases.map RecoveryCase.orderRef)
    (hterms : after.recoveryCases.map RecoveryCase.terms =
      before.recoveryCases.map RecoveryCase.terms)
    (hinstruments : after.recoveryInstruments.map RecoveryInstrument.caseRef =
      before.recoveryInstruments.map RecoveryInstrument.caseRef) : after.Related where
  payments := by
    rw [hpayments, hmoney]
    exact h.payments
  cases := by
    rw [hcases, hdue]
    exact h.cases
  instruments := by
    rw [hinstruments, hterms]
    exact h.instruments

theorem Ledger.Discovers.related {ledger found : Ledger} {payment : CapturedPayment}
    {eventRecordId newId : String} {occurredAt : Timestamp}
    (h : ledger.Discovers payment eventRecordId newId occurredAt found) (hrelated : ledger.Related) :
    found.Related := by
  cases h with
  | known => exact hrelated
  | new order idOk horder hfits _ _ =>
    refine ⟨?_, hrelated.cases, hrelated.instruments⟩
    simp only [CapturedPayment.fitsOrder, Bool.and_eq_true, decide_eq_true_eq] at hfits
    rw [List.map_append, List.map_singleton]
    refine List.append_subset.mpr ⟨hrelated.payments, ?_⟩
    intro ref href
    rw [List.mem_singleton.mp href]
    refine List.mem_map.mpr ⟨order, List.mem_of_find?_eq_some horder, ?_⟩
    rw [LogicalOrder.moneyTerms, hfits.1.1.2]
    rfl

/-- A terminal projection keeps what the rows refer to. -/
theorem TerminalOutcome.related {referenceIdOf : String → String} {d : EventDelivery}
    {stored : StoredEvent CanonicalEvent} {books : MoneyBooks} {after : Ledger}
    {result : ProjectionResult}
    (h : TerminalOutcome referenceIdOf d stored books after result)
    (hkeyed : books.ledger.Keyed) (hrelated : books.ledger.Related) : after.Related := by
  cases h with
  | settled => exact hrelated
  | passed _ _ _ hfound _ =>
    rcases hfound with rfl | ⟨payment, -, hdiscovers⟩
    · exact hrelated
    · exact hdiscovers.related hrelated
  | captured found payment target _ _ hdiscovers hcapturable =>
    have hkeyedFound := hdiscovers.keyed hkeyed
    obtain ⟨hmem, -, horder, -⟩ := Ledger.captureTarget_rows hcapturable.found
    have horderMem := Table.mem_of_find horder
    refine (hdiscovers.related hrelated).of_same ?_ ?_ ?_ ?_ ?_ rfl
    · exact Table.map_put hkeyedFound.orders horderMem rfl rfl fun _ _ _ => rfl
    · exact Table.map_put hkeyedFound.orders horderMem rfl rfl fun _ _ _ => rfl
    · exact Table.map_put hkeyedFound.payments hmem rfl rfl fun _ _ _ => rfl
    · exact map_terms_moved (RecoveryCase.orderRef_moved _ _) _
    · exact map_terms_moved (RecoveryCase.terms_moved _ _) _
  | collected collection target _ _ hcollectible _ =>
    obtain ⟨hmem, horder, -⟩ := hcollectible.rows
    have horderMem := Table.mem_of_find horder
    refine hrelated.of_same ?_ ?_ rfl ?_ ?_ ?_
    · exact Table.map_put hkeyed.orders horderMem rfl rfl fun _ _ _ => rfl
    · exact Table.map_put hkeyed.orders horderMem rfl rfl fun _ _ _ => rfl
    · exact map_terms_moved (RecoveryCase.orderRef_moved _ _) _
    · exact map_terms_moved (RecoveryCase.terms_moved _ _) _
    · exact Table.map_put hkeyed.instruments hmem rfl rfl fun _ _ _ => rfl

end Retrywise.ControlPlane
