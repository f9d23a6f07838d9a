import Retrywise.ControlPlane.OneCase
import Retrywise.ControlPlane.StaleSnapshots

/-!
# Captures of an order that is being mapped

An order is mapped by the enrichment of one of its failed payments, and until then a capture
of any of them has no order to go to. It is settled as ignored, and nothing brings it back.

> The settled captures of a provider order stand in its books after every step, captured and
> counted, exactly where each of them is delivered to rows that take it and no enrichment
> writes over one (`captures_kept_iff`).
-/

namespace Retrywise.ControlPlane

open Retrywise.Foundation Retrywise.Domain

/-! ## The row of an order -/

/-- What a step does to the row of an order: nothing, or a total is projected, or the order
is observed. -/
inductive OrderMove (o : LogicalOrder) : LogicalOrder → Prop
  | same : OrderMove o o
  | projected (total : Nat) (occurredAt : Timestamp) (hforward : o.Forward total) :
      OrderMove o (o.project total (truthOf total o.amountDueMinor) occurredAt)
  | observed (paid : Nat) (observedAt : Timestamp) : OrderMove o (o.observe paid observedAt)

namespace OrderMove

variable {o later : LogicalOrder}

theorem id (h : OrderMove o later) : later.id = o.id := by
  cases h with
  | same => rfl
  | projected => rfl
  | observed => rfl

theorem original (h : OrderMove o later) :
    later.originalProviderOrderId = o.originalProviderOrderId := by
  cases h with
  | same => rfl
  | projected => rfl
  | observed => rfl

theorem total (h : OrderMove o later) : o.capturedTotalMinor ≤ later.capturedTotalMinor := by
  cases h with
  | same => exact Nat.le_refl _
  | projected total occurredAt hforward => exact (LogicalOrder.forward_iff.mp hforward).2.1
  | observed => exact Nat.le_max_left _ _

/-- An order with money on it goes on having the truth of its total. -/
theorem compared (h : OrderMove o later)
    (htruth : o.canonicalTruth = truthOf o.capturedTotalMinor o.amountDueMinor)
    (hmoney : 0 < o.capturedTotalMinor) :
    later.canonicalTruth = truthOf later.capturedTotalMinor later.amountDueMinor := by
  have htotal := h.total
  cases h with
  | same => exact htruth
  | projected => rfl
  | observed paid observedAt =>
    have hsome : (o.observe paid observedAt).capturedTotalMinor ≠ 0 := by omega
    exact if_neg hsome

end OrderMove

namespace Ledger

/-- A provider order has one logical order. -/
def OneOrder (ledger : Ledger) (providerOrderId : String) : Prop :=
  ∀ o ∈ ledger.logicalOrders, o.originalProviderOrderId = some providerOrderId →
    ledger.orderFor providerOrderId = some o

variable {ledger : Ledger} {providerOrderId : String} {old new : LogicalOrder}

/-- The order of a provider order after one row is replaced. -/
theorem orderFor_put (hkeyed : ledger.Keyed) (hold : old ∈ ledger.logicalOrders)
    (hmove : OrderMove old new) :
    { ledger with logicalOrders := Table.put LogicalOrder.id new ledger.logicalOrders }.orderFor
        providerOrderId =
      (ledger.orderFor providerOrderId).map fun o => if o.id = new.id then new else o := by
  refine Table.find?_put ?_
  intro other hother hid
  rw [hkeyed.orders.eq_of_key hother hold (hid.trans hmove.id), hmove.original]

theorem oneOrder_put (hone : ledger.OneOrder providerOrderId) (hkeyed : ledger.Keyed)
    (hold : old ∈ ledger.logicalOrders) (hmove : OrderMove old new) :
    { ledger with
      logicalOrders := Table.put LogicalOrder.id new ledger.logicalOrders }.OneOrder
        providerOrderId := by
  intro o ho horiginal
  rw [orderFor_put hkeyed hold hmove]
  rcases Table.mem_put ho with rfl | ⟨ho, hne⟩
  · rw [hmove.original] at horiginal
    rw [hone old hold horiginal, Option.map_some, if_pos hmove.id.symm]
  · rw [hone o ho horiginal, Option.map_some, if_neg hne]

/-- An order that is found is found whatever comes behind it. -/
theorem orderFor_append (h : ledger.orderFor providerOrderId = some old) :
    { ledger with logicalOrders := ledger.logicalOrders ++ [new] }.orderFor providerOrderId =
      some old := by
  unfold orderFor at h ⊢
  rw [List.find?_append, h]
  rfl

theorem oneOrder_append (hone : ledger.OneOrder providerOrderId)
    (hfresh : ∀ o ∈ ledger.logicalOrders,
      o.originalProviderOrderId ≠ new.originalProviderOrderId) :
    { ledger with logicalOrders := ledger.logicalOrders ++ [new] }.OneOrder providerOrderId := by
  intro o ho horiginal
  rcases List.mem_append.mp ho with ho | ho
  · exact orderFor_append (hone o ho horiginal)
  · obtain rfl := List.mem_singleton.mp ho
    have hnone : ledger.orderFor providerOrderId = none := by
      refine List.find?_eq_none.mpr ?_
      intro other hother heq
      exact hfresh other hother ((of_decide_eq_true heq).trans horiginal.symm)
    unfold orderFor at hnone ⊢
    rw [List.find?_append, hnone]
    simp [horiginal]

end Ledger

section

variable {referenceIdOf : String → String} {books : MoneyBooks} {command : MoneyCommand}
  {after : Ledger} {out : Option ProjectionResult} {providerOrderId : String}

/-- A step puts one order in the place of another it was moved from, after it may have put a
new one on the books. -/
theorem MoneyOutcome.orderRows (h : MoneyOutcome referenceIdOf books command after out)
    (hkeyed : books.ledger.Keyed) :
    ∃ found : Ledger,
      (found.logicalOrders = books.ledger.logicalOrders ∨ ∃ new,
        found.logicalOrders = books.ledger.logicalOrders ++ [new] ∧
          ∀ o ∈ books.ledger.logicalOrders,
            o.originalProviderOrderId ≠ new.originalProviderOrderId) ∧
      found.Keyed ∧
      (after.logicalOrders = found.logicalOrders ∨
        ∃ old ∈ found.logicalOrders, ∃ new, OrderMove old new ∧
          after.logicalOrders = Table.put LogicalOrder.id new found.logicalOrders) := by
  cases h with
  | stored event => exact ⟨_, .inl rfl, hkeyed, .inl rfl⟩
  | terminal d stored after result _ h =>
    cases h with
    | settled => exact ⟨_, .inl rfl, hkeyed, .inl rfl⟩
    | passed _ _ _ hfound _ =>
      rcases hfound with rfl | ⟨payment, -, hdiscovers⟩
      · exact ⟨_, .inl rfl, hkeyed, .inl rfl⟩
      · exact ⟨_, .inl hdiscovers.frame.2.2, hdiscovers.keyed hkeyed, .inl rfl⟩
    | captured found payment target _ _ hdiscovers hcapturable =>
      obtain ⟨-, -, horder, -⟩ := Ledger.captureTarget_rows hcapturable.found
      exact ⟨found, .inl hdiscovers.frame.2.2, hdiscovers.keyed hkeyed,
        .inr ⟨target.order, Table.mem_of_find horder, _, .projected _ _ hcapturable.forward, rfl⟩⟩
    | collected collection target _ _ hcollectible _ =>
      obtain ⟨-, horder, -⟩ := hcollectible.rows
      exact ⟨_, .inl rfl, hkeyed,
        .inr ⟨target.order, Table.mem_of_find horder, _, .projected _ _ hcollectible.forward, rfl⟩⟩
  | normalized d stored after result _ h =>
    cases h with
    | passed => exact ⟨_, .inl rfl, hkeyed, .inl rfl⟩
    | failed payment _ target after result _ _ _ htarget _ hcarried =>
      obtain ⟨-, -, horders, -⟩ :=
        carryOutFailure_ok hkeyed (Ledger.captureTarget_rows htarget).1 hcarried
      exact ⟨_, .inl rfl, hkeyed, .inl horders⟩
  | enriched e idOk order payment hloads =>
    refine ⟨e.found idOk order.id books.ledger, ?_,
      Enrichment.keyed_insertPayment (Enrichment.keyed_insertOrder hkeyed), ?_⟩
    · rcases @Enrichment.logicalOrders_found e books.ledger idOk order.id with hsame | ⟨hnew, hfresh⟩
      · exact .inl hsame
      · exact .inr ⟨e.newOrder, hnew, fun o ho => (hfresh o ho).2⟩
    · unfold Enrichment.observe
      by_cases happlies : e.appliesToOrder order = true
      · rw [if_pos happlies]
        exact .inr ⟨order, List.mem_of_find?_eq_some hloads.orderFound, _, .observed _ _, rfl⟩
      · rw [if_neg happlies]
        exact .inl rfl
  | movedCase id moved c _ _ => exact ⟨_, .inl rfl, hkeyed, .inl rfl⟩

theorem Ledger.orderFor_congr {a b : Ledger} (h : a.logicalOrders = b.logicalOrders) :
    a.orderFor providerOrderId = b.orderFor providerOrderId := by
  unfold Ledger.orderFor
  rw [h]

/-- The row of an order stays on the books, and moves in one of these ways. -/
theorem MoneyOutcome.orderFor (h : MoneyOutcome referenceIdOf books command after out)
    (hkeyed : books.ledger.Keyed) {o : LogicalOrder}
    (ho : books.ledger.orderFor providerOrderId = some o) :
    ∃ later, after.orderFor providerOrderId = some later ∧ OrderMove o later := by
  obtain ⟨found, hfound, hkeyedFound, hafter⟩ := h.orderRows hkeyed
  have hfoundOrder : found.orderFor providerOrderId = some o := by
    rcases hfound with hsame | ⟨new, hnew, -⟩
    · rw [Ledger.orderFor_congr hsame]
      exact ho
    · have happend := @Ledger.orderFor_append _ _ _ new ho
      rwa [Ledger.orderFor_congr (b := found) hnew.symm] at happend
  rcases hafter with hsame | ⟨old, hold, new, hmove, hput⟩
  · exact ⟨o, (Ledger.orderFor_congr hsame).trans hfoundOrder, .same⟩
  · have hputOrder := @Ledger.orderFor_put _ providerOrderId _ _ hkeyedFound hold hmove
    rw [hfoundOrder, Option.map_some, Ledger.orderFor_congr (b := after) hput.symm] at hputOrder
    by_cases hid : o.id = new.id
    · rw [if_pos hid] at hputOrder
      obtain rfl := hkeyedFound.orders.eq_of_key (List.mem_of_find?_eq_some hfoundOrder) hold
        (hid.trans hmove.id)
      exact ⟨new, hputOrder, hmove⟩
    · rw [if_neg hid] at hputOrder
      exact ⟨o, hputOrder, .same⟩

theorem MoneyOutcome.oneOrder (h : MoneyOutcome referenceIdOf books command after out)
    (hkeyed : books.ledger.Keyed) (hone : books.ledger.OneOrder providerOrderId) :
    after.OneOrder providerOrderId := by
  obtain ⟨found, hfound, hkeyedFound, hafter⟩ := h.orderRows hkeyed
  have hcongr : ∀ {a b : Ledger}, a.logicalOrders = b.logicalOrders →
      b.OneOrder providerOrderId → a.OneOrder providerOrderId := by
    intro a b hsame hb o ho horiginal
    rw [Ledger.orderFor_congr hsame]
    exact hb o (hsame ▸ ho) horiginal
  have hfoundOne : found.OneOrder providerOrderId := by
    rcases hfound with hsame | ⟨new, hnew, hfresh⟩
    · exact hcongr hsame hone
    · exact hcongr hnew (Ledger.oneOrder_append hone hfresh)
  rcases hafter with hsame | ⟨old, hold, new, hmove, hput⟩
  · exact hcongr hsame hfoundOne
  · exact hcongr hput (Ledger.oneOrder_put hfoundOne hkeyedFound hold hmove)

end

/-! ## Captures that stand -/

/-- A settled event says that a payment of the provider order was captured. -/
def Books.SettledCapture (books : MoneyBooks) (providerOrderId : String)
    (payment : CapturedPayment) : Prop :=
  payment.providerOrderId = providerOrderId ∧
    ∃ id stored, books.storedEvent id = some stored ∧
      stored.inbox.status ∈ settledStatuses ∧ stored.event.Captures payment

/-- The payment is one of the order, captured for the whole of its amount. -/
def Ledger.CapturedOn (ledger : Ledger) (o : LogicalOrder) (payment : CapturedPayment) : Prop :=
  ∃ p, ledger.payment payment.providerPaymentId = some p ∧ p.status = .captured ∧
    p.capturedMinor = payment.amountMinor ∧ p.amountMinor = payment.amountMinor ∧
    Ledger.onOriginalPath o p = true

/-- Some captures stand: their payments are captured, the order counts all of them, and its
truth is the comparison of its total with what is due. -/
structure Ledger.Keeps (ledger : Ledger) (providerOrderId : String)
    (captures : CapturedPayment → Prop) : Prop where
  captured : ∀ payment, captures payment → ∃ o, ledger.orderFor providerOrderId = some o ∧
    ledger.CapturedOn o payment ∧
    o.canonicalTruth = truthOf o.capturedTotalMinor o.amountDueMinor
  counted : ∀ o, ledger.orderFor providerOrderId = some o →
    ∀ payments : List CapturedPayment, (payments.map CapturedPayment.providerPaymentId).Nodup →
      (∀ payment ∈ payments, captures payment) →
      (payments.map CapturedPayment.amountMinor).sum ≤ o.capturedTotalMinor

/-- An enrichment of one of these payments that writes its row has read the capture. -/
def Enrichment.ReadsCaptures (e : Enrichment) (ledger : Ledger)
    (captures : CapturedPayment → Prop) : Prop :=
  ∀ payment p, captures payment → e.command.providerPaymentId = payment.providerPaymentId →
    ledger.payment payment.providerPaymentId = some p → e.appliesToPayment p = true →
    e.payment.status = .captured ∧ e.payment.capturedMinor = payment.amountMinor

namespace Ledger.Keeps

variable {ledger : Ledger} {providerOrderId : String} {captures more : CapturedPayment → Prop}

theorem mono (h : ledger.Keeps providerOrderId more) (hsub : ∀ c, captures c → more c) :
    ledger.Keeps providerOrderId captures where
  captured payment hc := h.captured payment (hsub payment hc)
  counted o ho payments hnodup hall :=
    h.counted o ho payments hnodup fun c hc => hsub c (hall c hc)

/-- An order with a capture that stands has money. -/
theorem money (h : ledger.Keeps providerOrderId captures) {payment : CapturedPayment}
    (hc : captures payment) {o : LogicalOrder} (ho : ledger.orderFor providerOrderId = some o) :
    0 < o.capturedTotalMinor := by
  have hcounted := h.counted o ho [payment] (by simp) (by simpa using hc)
  have hpositive := payment.positive
  rw [List.map_singleton, List.sum_singleton] at hcounted
  omega

end Ledger.Keeps

section

variable {referenceIdOf : String → String} {books : MoneyBooks} {command : MoneyCommand}
  {after : Ledger} {out : Option ProjectionResult} {providerOrderId : String}
  {captures : CapturedPayment → Prop}

/-- Captures that stand go on standing, where no enrichment writes over one. -/
theorem MoneyOutcome.keeps (h : MoneyOutcome referenceIdOf books command after out)
    (hkeyed : books.ledger.Keyed) (hkeeps : books.ledger.Keeps providerOrderId captures)
    (hreads : ∀ e, command = .enrich e → e.ReadsCaptures books.ledger captures) :
    after.Keeps providerOrderId captures := by
  constructor
  · intro payment hc
    obtain ⟨o, ho, ⟨p, hp, hstatus, hmoney, hamount, hpath⟩, htruth⟩ :=
      hkeeps.captured payment hc
    obtain ⟨later, hlater, hmove⟩ := h.orderFor hkeyed ho
    obtain ⟨row, hrow, hrowMove⟩ := h.payment hkeyed hp
    have honPath : ∀ q : StoredPayment, q.logicalOrderId = p.logicalOrderId →
        q.providerOrderId = p.providerOrderId → Ledger.onOriginalPath later q = true := by
      intro q hlogical hprovider
      unfold Ledger.onOriginalPath at hpath ⊢
      rw [hlogical, hprovider, hmove.id, hmove.original]
      exact hpath
    refine ⟨later, hlater, ⟨row, hrow, ?_⟩, hmove.compared htruth (hkeeps.money hc ho)⟩
    cases hrowMove with
    | same => exact ⟨hstatus, hmoney, hamount, honPath p rfl rfl⟩
    | captured d stored payment' target _ _ _ hcapturable htarget =>
      have hexact :=
        CaptureTarget.exact_iff.mp (CaptureTarget.refusal_eq_none_iff.mp hcapturable.accepted).1
      have hsame : payment'.amountMinor = payment.amountMinor := by
        rw [← hexact.amount, htarget, hamount]
      exact ⟨rfl, hsame, hamount, honPath _ rfl rfl⟩
    | failed d stored payment' marker _ _ _ _ hsafe _ =>
      rw [hstatus] at hsafe
      exact absurd hsafe (by decide)
    | observed e hpayment happlies =>
      have hpId : p.providerPaymentId = payment.providerPaymentId := by
        simpa using List.find?_some hp
      obtain ⟨hread, hreadMoney⟩ :=
        hreads e rfl payment p hc (hpayment.trans hpId) hp happlies
      refine ⟨?_, hreadMoney, hamount, honPath _ rfl rfl⟩
      show e.payment.status.stored = .captured
      rw [hread]
      rfl
  · intro later hlater payments hnodup hall
    cases payments with
    | nil => exact Nat.zero_le _
    | cons first rest =>
      obtain ⟨o, ho, -, -⟩ := hkeeps.captured first (hall first List.mem_cons_self)
      obtain ⟨found, hfound, hmove⟩ := h.orderFor hkeyed ho
      obtain rfl := Option.some.inj (hfound.symm.trans hlater)
      exact Nat.le_trans (hkeeps.counted o ho _ hnodup hall) hmove.total

/-- Different captured payments of an order are on its original path, with their money. -/
theorem Ledger.sum_le_originalMoney {ledger : Ledger} {o : LogicalOrder}
    {payments : List CapturedPayment}
    (hnodup : (payments.map CapturedPayment.providerPaymentId).Nodup)
    (h : ∀ payment ∈ payments, ledger.CapturedOn o payment) :
    (payments.map CapturedPayment.amountMinor).sum ≤ ledger.originalMoney o := by
  refine @Table.sum_claims_le _ _ (fun p : StoredPayment => p.providerPaymentId) _ _ _ _ _ _
    hnodup ?_
  intro payment hpayment
  obtain ⟨p, hp, -, hmoney, -, hpath⟩ := h payment hpayment
  exact ⟨p, List.mem_filter.mpr ⟨List.mem_of_find?_eq_some hp, hpath⟩,
    by simpa using List.find?_some hp, hmoney⟩

/-- A capture that is carried out stands with those before it. -/
theorem Ledger.Capturable.keeps {found : Ledger} {target : CaptureTarget}
    {payment : CapturedPayment} {eventRecordId : String} {occurredAt now : Timestamp}
    (hkeyed : found.Keyed) (hcapturable : found.Capturable target payment occurredAt)
    (hprovider : payment.providerOrderId = providerOrderId)
    (hone : (found.afterCapture target payment eventRecordId occurredAt now).OneOrder
      providerOrderId)
    (hkeeps : (found.afterCapture target payment eventRecordId occurredAt now).Keeps
      providerOrderId captures) :
    (found.afterCapture target payment eventRecordId occurredAt now).Keeps providerOrderId
      fun c => captures c ∨ c = payment := by
  obtain ⟨hmem, -, horder, -⟩ := Ledger.captureTarget_rows hcapturable.found
  have hexact :=
    CaptureTarget.exact_iff.mp (CaptureTarget.refusal_eq_none_iff.mp hcapturable.accepted).1
  have hfor : (found.afterCapture target payment eventRecordId occurredAt now).orderFor
      providerOrderId = some (target.order.project (found.captureTotal target payment)
        (truthOf (found.captureTotal target payment) target.order.amountDueMinor) occurredAt) :=
    hone _ (Table.mem_put_self (Table.mem_of_find horder) rfl) (hprovider ▸ hexact.original)
  have hon := (List.mem_filter.mp hcapturable.mem_originalPath).2
  have hcaptured : (found.afterCapture target payment eventRecordId occurredAt now).CapturedOn
      (target.order.project (found.captureTotal target payment)
        (truthOf (found.captureTotal target payment) target.order.amountDueMinor) occurredAt)
      payment :=
    ⟨_, payment_afterCapture hkeyed hcapturable, rfl, rfl, hexact.amount, hon⟩
  have hall : ∀ c, captures c ∨ c = payment →
      ∃ o, (found.afterCapture target payment eventRecordId occurredAt now).orderFor
          providerOrderId = some o ∧
        (found.afterCapture target payment eventRecordId occurredAt now).CapturedOn o c ∧
        o.canonicalTruth = truthOf o.capturedTotalMinor o.amountDueMinor := by
    rintro c (hc | rfl)
    · exact hkeeps.captured c hc
    · exact ⟨_, hfor, hcaptured, rfl⟩
  refine ⟨hall, ?_⟩
  intro o ho payments hnodup hpayments
  obtain rfl := Option.some.inj (hfor.symm.trans ho)
  have hmoney : (payments.map CapturedPayment.amountMinor).sum ≤ (found.afterCapture target
      payment eventRecordId occurredAt now).originalMoney (target.order.project
        (found.captureTotal target payment)
        (truthOf (found.captureTotal target payment) target.order.amountDueMinor)
        occurredAt) := by
    refine Ledger.sum_le_originalMoney hnodup ?_
    intro c hc
    obtain ⟨o', ho', hcapturedOn, -⟩ := hall c (hpayments c hc)
    obtain rfl := Option.some.inj (hfor.symm.trans ho')
    exact hcapturedOn
  refine Nat.le_trans hmoney ?_
  -- the total of the capture is all that is on the paths now
  have htotal := @Ledger.pathTotal_afterCapture _ _ _ eventRecordId _ now hkeyed hcapturable
  show _ ≤ found.captureTotal target payment
  rw [← htotal]
  exact Nat.le_add_right _ _

end

/-! ## What a step settles -/

/-- A delivery goes to the projector of its event's type, as the router sends it. -/
def Routed (s : MoneyStep) : Prop :=
  ∀ d stored, s.cmd = .projectNormalized d → s.pre.storedEvent d.eventRecordId = some stored →
    stored.event.eventType ∉ supportedTerminalEventTypes

/-- The step delivers a capture of the provider order that is not settled. -/
def DeliversCapture (providerOrderId : String) (s : MoneyStep) (d : EventDelivery)
    (stored : StoredEvent CanonicalEvent) (payment : CapturedPayment) : Prop :=
  s.cmd = .projectTerminal d ∧ s.pre.storedEvent d.eventRecordId = some stored ∧
    stored.inbox.status ∉ settledStatuses ∧ stored.event.Captures payment ∧
    payment.providerOrderId = providerOrderId

/-- The condition of a step: a capture it delivers is pending on rows that take it, or stands
already; and an enrichment it persists has read the captures it writes over. -/
def KeepsCaptures (providerOrderId : String) (s : MoneyStep) : Prop :=
  (∀ d stored payment, DeliversCapture providerOrderId s d stored payment →
    s.pre.Open stored ∧ (∃ found target,
        s.pre.ledger.Discovers payment stored.event.id d.newId
          stored.event.providerOccurredAt found ∧
        found.Capturable target payment stored.event.providerOccurredAt) ∨
      s.pre.ledger.Keeps providerOrderId
        fun c => s.pre.SettledCapture providerOrderId c ∨ c = payment) ∧
    ∀ e, s.cmd = .enrich e →
      e.ReadsCaptures s.pre.ledger (s.pre.SettledCapture providerOrderId)

section

variable {referenceIdOf : String → String} {s : MoneyStep} {providerOrderId : String}
  {payment : CapturedPayment}

theorem settledCapture_mono (htakes : (moneyMachine referenceIdOf).Takes s)
    (h : s.pre.SettledCapture providerOrderId payment) :
    s.post.SettledCapture providerOrderId payment := by
  obtain ⟨hprovider, id, stored, hstored, hstatus, hevent⟩ := h
  exact ⟨hprovider, id, stored, storedEvent_of_settled htakes hstored hstatus, hstatus, hevent⟩

/-- A terminal projection settles its event. -/
theorem terminal_settles {books after : MoneyBooks} {d : EventDelivery}
    {result : ProjectionResult}
    (h : (terminalProjector referenceIdOf).project d books = .ok (after, result)) :
    after.Settled d.eventRecordId := by
  have hwritten : ∀ {stored : StoredEvent CanonicalEvent} {ledger : Ledger} {inbox : InboxEvent},
      books.storedEvent d.eventRecordId = some stored → inbox.status ∈ settledStatuses →
      (books.write stored ledger inbox).Settled d.eventRecordId := by
    intro stored ledger inbox hstored hinbox
    refine ⟨{ stored with inbox := inbox }, ?_, hinbox⟩
    rw [Books.storedEvent_write hstored, if_pos rfl]
  cases project_ok h with
  | settled stored hstored hsettled => exact ⟨stored, hstored, hsettled⟩
  | exhausted stored ledger prepared inbox hstored _ _ hinbox =>
    exact hwritten hstored (by rw [hinbox]; decide)
  | ignored stored ledger reason inbox hstored _ _ hinbox =>
    exact hwritten hstored (by rw [hinbox]; decide)
  | deferred stored ledger reason enrichment inbox hstored _ hplan _ =>
    -- the terminal projector defers nothing
    rcases Projector.plan_ok hplan with ⟨-, -, hignored⟩ | ⟨-, canonical, -, hprepare⟩
    · exact absurd hignored (by simp)
    · obtain ⟨⟨found, plan⟩, -, hpure⟩ := bind_ok_iff.mp hprepare
      have hprepared := (Prod.mk.inj (pure_ok_iff.mp hpure)).2
      cases plan with
      | capture plan => exact absurd hprepared (by simp [TerminalPlan.prepared])
      | link plan => exact absurd hprepared (by simp [TerminalPlan.prepared])
      | ignored reason => exact absurd hprepared (by simp [TerminalPlan.prepared])
  | moved stored ledger moved plan inbox result hstored _ _ _ _ hinbox =>
    exact hwritten hstored (by rw [hinbox]; decide)

/-- What is stored after a projection was stored before, and the other events as they are. -/
theorem Projector.storedEvent_before {α work : Type} {projector : Projector α work}
    {d : EventDelivery} {books after : Books α} {result : ProjectionResult} {id : String}
    {later : StoredEvent α} (h : projector.project d books = .ok (after, result))
    (hlater : after.storedEvent id = some later) :
    books.storedEvent id = some later ∨
      id = d.eventRecordId ∧ ∃ stored, books.storedEvent id = some stored ∧
        later.event = stored.event := by
  by_cases hid : id = d.eventRecordId
  · right
    refine ⟨hid, ?_⟩
    have hstored : ∃ stored, books.storedEvent id = some stored := by
      rw [hid]
      cases project_ok h with
      | settled stored hstored _ => exact ⟨stored, hstored⟩
      | exhausted stored _ _ _ hstored _ _ _ => exact ⟨stored, hstored⟩
      | ignored stored _ _ _ hstored _ _ _ => exact ⟨stored, hstored⟩
      | deferred stored _ _ _ _ hstored _ _ _ => exact ⟨stored, hstored⟩
      | moved stored _ _ _ _ _ hstored _ _ _ _ _ => exact ⟨stored, hstored⟩
    obtain ⟨stored, hstored⟩ := hstored
    obtain ⟨found, hfound, hevent⟩ := event_project h hstored
    obtain rfl := Option.some.inj (hfound.symm.trans hlater)
    exact ⟨stored, hstored, hevent⟩
  · left
    rw [← storedEvent_of_ne h hid]
    exact hlater

/-- An event that arrives is not settled. -/
theorem Books.storedEvent_before_store {α : Type} {books after : Books α}
    {event : ProviderEvent α} {id : String} {later : StoredEvent α}
    (h : books.storeOnce event = .ok after) (hlater : after.storedEvent id = some later)
    (hstatus : later.inbox.status ∈ settledStatuses) : books.storedEvent id = some later := by
  unfold Books.storeOnce at h
  split at h
  next known _ =>
    split_ifs at h
    rw [Except.ok.inj h]
    exact hlater
  next =>
    split_ifs at h
    rw [← Except.ok.inj h] at hlater
    unfold Books.storedEvent Table.find at hlater ⊢
    rw [List.find?_append, Option.or_eq_some_iff] at hlater
    rcases hlater with hknown | ⟨-, hnew⟩
    · exact hknown
    · have hmem := List.mem_singleton.mp (List.mem_of_find?_eq_some hnew)
      rw [hmem] at hstatus
      exact absurd hstatus (by simp [settledStatuses])

/-- The captures that are settled after a step were settled before, but for the one it has
delivered. -/
theorem settledCapture_before (htakes : (moneyMachine referenceIdOf).Takes s) (hrouted : Routed s)
    (h : s.post.SettledCapture providerOrderId payment) :
    s.pre.SettledCapture providerOrderId payment ∨
      ∃ d stored, DeliversCapture providerOrderId s d stored payment := by
  obtain ⟨hprovider, id, later, hlater, hstatus, hevent⟩ := h
  obtain ⟨pre, cmd, post, out⟩ := s
  have hunchanged : pre.storedEvent id = some later →
      pre.SettledCapture providerOrderId payment := fun hknown =>
    ⟨hprovider, id, later, hknown, hstatus, hevent⟩
  cases cmd with
  | store event =>
    obtain ⟨stored, hstored, hpure⟩ := bind_ok_iff.mp htakes
    obtain ⟨rfl, rfl⟩ := Prod.mk.inj (pure_ok_iff.mp hpure)
    exact .inl (hunchanged (Books.storedEvent_before_store hstored hlater hstatus))
  | projectTerminal d =>
    obtain ⟨result, hproject⟩ := moneyExec_terminal htakes
    rcases Projector.storedEvent_before hproject hlater with hknown | ⟨rfl, stored, hstored, hsame⟩
    · exact .inl (hunchanged hknown)
    · rw [hsame] at hevent
      by_cases hsettled : stored.inbox.status ∈ settledStatuses
      · exact .inl ⟨hprovider, _, stored, hstored, hsettled, hevent⟩
      · exact .inr ⟨d, stored, rfl, hstored, hsettled, hevent, hprovider⟩
  | projectNormalized d =>
    obtain ⟨result, hproject⟩ := @moneyExec_normalized referenceIdOf _ _ _ _ htakes
    rcases Projector.storedEvent_before hproject hlater with hknown | ⟨rfl, stored, hstored, hsame⟩
    · exact .inl (hunchanged hknown)
    · rw [hsame] at hevent
      refine absurd ?_ (hrouted d stored rfl hstored)
      rw [hevent.1]
      decide
  | enrich e =>
    obtain ⟨ledger, -, hpost⟩ := @moneyExec_enrich referenceIdOf _ _ _ _ htakes
    have hpost : post = { pre with ledger := ledger } := hpost
    rw [hpost] at hlater
    exact .inl (hunchanged hlater)
  | moveCase caseId moved =>
    obtain ⟨ledger, -, hpure⟩ := bind_ok_iff.mp htakes
    have hpost := (Prod.mk.inj (pure_ok_iff.mp hpure)).1
    rw [← hpost] at hlater
    exact .inl (hunchanged hlater)

/-- A step that meets the condition leaves the settled captures standing. -/
theorem keeps_of_condition (hkeyed : s.pre.ledger.Keyed)
    (hone : s.pre.ledger.OneOrder providerOrderId)
    (hkeeps : s.pre.ledger.Keeps providerOrderId (s.pre.SettledCapture providerOrderId))
    (htakes : (moneyMachine referenceIdOf).Takes s) (hrouted : Routed s)
    (hcondition : KeepsCaptures providerOrderId s) :
    s.post.ledger.Keeps providerOrderId (s.post.SettledCapture providerOrderId) := by
  have houtcome := money_step hkeyed htakes
  have hstay := houtcome.keeps hkeyed hkeeps hcondition.2
  by_cases hdelivers : ∃ d stored payment, DeliversCapture providerOrderId s d stored payment
  · obtain ⟨d, stored, payment, hdelivers⟩ := hdelivers
    -- all that is settled now was settled before, or is the capture that was delivered
    have hbefore : ∀ c, s.post.SettledCapture providerOrderId c →
        s.pre.SettledCapture providerOrderId c ∨ c = payment := by
      intro c hc
      rcases settledCapture_before htakes hrouted hc with hknown | ⟨d', stored', hother⟩
      · exact .inl hknown
      · obtain ⟨hcmd, hstored, -, hevent, -⟩ := hdelivers
        obtain ⟨hcmd', hstored', -, hevent', -⟩ := hother
        obtain rfl : d = d' := by
          rw [hcmd] at hcmd'
          exact MoneyCommand.projectTerminal.inj hcmd'
        obtain rfl := Option.some.inj (hstored.symm.trans hstored')
        exact .inr (hevent'.unique hevent)
    refine Ledger.Keeps.mono ?_ hbefore
    rcases hcondition.1 d stored payment hdelivers with
      ⟨hopen, found, target, hdiscovers, hcapturable⟩ | hstands
    · obtain ⟨hcmd, hstored, -, hevent, hprovider⟩ := hdelivers
      have hexec : moneyExec referenceIdOf s.pre s.cmd = .ok (s.post, s.out) := htakes
      rw [hcmd] at hexec
      obtain ⟨result, hproject⟩ := moneyExec_terminal hexec
      obtain ⟨inbox, -, hafter⟩ :=
        project_of_capturable hkeyed hproject hstored hopen hevent hdiscovers hcapturable
      have hledger : s.post.ledger = found.afterCapture target payment stored.event.id
          stored.event.providerOccurredAt d.now := by
        rw [hafter]
        rfl
      have honeAfter := houtcome.oneOrder hkeyed hone
      rw [hledger] at hstay honeAfter ⊢
      exact hcapturable.keeps (hdiscovers.keyed hkeyed) hprovider honeAfter hstay
    · refine houtcome.keeps hkeyed hstands ?_
      intro e hcmd
      rw [hdelivers.1] at hcmd
      exact absurd hcmd (by simp)
  · refine hstay.mono ?_
    intro c hc
    rcases settledCapture_before htakes hrouted hc with hknown | ⟨d, stored, hother⟩
    · exact hknown
    · exact absurd ⟨d, stored, c, hother⟩ hdelivers

/-- A step that leaves the settled captures standing meets the condition. -/
theorem condition_of_keeps (hkeyed : s.pre.ledger.Keyed)
    (htakes : (moneyMachine referenceIdOf).Takes s)
    (hkeeps : s.post.ledger.Keeps providerOrderId (s.post.SettledCapture providerOrderId)) :
    KeepsCaptures providerOrderId s := by
  have hmono : ∀ c, s.pre.SettledCapture providerOrderId c →
      s.post.SettledCapture providerOrderId c := fun c hc => settledCapture_mono htakes hc
  obtain ⟨pre, cmd, post, out⟩ := s
  constructor
  · intro d stored payment hdelivers
    obtain ⟨hcmd, hstored, hunsettled, hevent, hprovider⟩ := hdelivers
    obtain rfl : cmd = .projectTerminal d := hcmd
    obtain ⟨result, hproject⟩ := moneyExec_terminal htakes
    -- the delivery has settled the capture
    have hsettled : post.SettledCapture providerOrderId payment := by
      obtain ⟨later, hlater, hstatus⟩ := terminal_settles hproject
      obtain ⟨found, hfound, hsame⟩ := Projector.event_project hproject hstored
      obtain rfl := Option.some.inj (hfound.symm.trans hlater)
      exact ⟨hprovider, _, found, hfound, hstatus, hsame ▸ hevent⟩
    obtain ⟨other, hother, houtcome⟩ := terminal_project_ok hkeyed hproject
    obtain rfl := Option.some.inj (hother.symm.trans hstored)
    have hall : post.ledger.Keeps providerOrderId
        fun c => pre.SettledCapture providerOrderId c ∨ c = payment := by
      refine hkeeps.mono ?_
      rintro c (hc | rfl)
      · exact hmono c hc
      · exact hsettled
    obtain ⟨o, -, ⟨p, hp, hstatus, -⟩, -⟩ := hkeeps.captured payment hsettled
    generalize hafter : post.ledger = after at houtcome hall hp
    cases houtcome with
    | settled hdone => exact absurd hdone hunsettled
    | passed _ _ _ hfound _ =>
      rcases hfound with hsame | ⟨payment', hevent', hdiscovers⟩
      · exact .inr (hsame ▸ hall)
      · obtain rfl := hevent.unique hevent'
        rcases hdiscovers.payment_cases hp with ⟨-, hsame⟩ | ⟨-, hunknown, -⟩
        · exact .inr (hsame ▸ hall)
        · rw [hstatus] at hunknown
          exact absurd hunknown (by simp)
    | captured found payment' target hopen hevent' hdiscovers hcapturable =>
      obtain rfl := hevent.unique hevent'
      exact .inl ⟨hopen, found, target, hdiscovers, hcapturable⟩
    | collected _ _ _ hcollects => exact absurd hcollects hevent.not_collects
  · intro e hcmd payment q hc hsought hq happlies
    obtain rfl : cmd = .enrich e := hcmd
    obtain ⟨ledger, hpersist, hpost⟩ := @moneyExec_enrich referenceIdOf _ _ _ _ htakes
    obtain ⟨o, -, ⟨p, hp, hstatus, hmoney, -⟩, -⟩ := hkeeps.captured payment (hmono payment hc)
    have hledger : post.ledger = ledger := by
      have hpost : post = { pre with ledger := ledger } := hpost
      rw [hpost]
    obtain ⟨row, hrow, hwritten⟩ := Enrichment.payment_persist hkeyed hpersist
    have hfound : ledger.payment e.command.providerPaymentId = some p := by
      rw [hsought, ← hledger]
      exact hp
    obtain rfl := Option.some.inj (hrow.symm.trans hfound)
    rcases hwritten with ⟨hsame, hleft⟩ | ⟨hread, -, hreadMoney, -⟩
    · rw [hsought] at hsame
      obtain rfl := Option.some.inj (hsame.symm.trans hq)
      rw [hleft] at happlies
      exact absurd happlies (by simp)
    · refine ⟨?_, hreadMoney.symm.trans hmoney⟩
      rw [hstatus] at hread
      generalize e.payment.status = status at hread
      cases status with
      | captured => rfl
      | created => exact absurd hread (by simp [PaymentStatus.stored])
      | authorized => exact absurd hread (by simp [PaymentStatus.stored])
      | failed => exact absurd hread (by simp [PaymentStatus.stored])
      | refunded => exact absurd hread (by simp [PaymentStatus.stored])

end

/-- **Captures of an order that is being mapped.** Start where no capture of a provider order
is settled, and let events arrive and be projected by the projector of their type, payments
be enriched and cases be moved, in any order: the settled captures stand after every step
exactly where every step meets the condition. -/
theorem captures_kept_iff {referenceIdOf : String → String} {init final : MoneyBooks}
    {steps : List MoneyStep} {providerOrderId : String}
    (hrun : (moneyMachine referenceIdOf).Run init steps final) (hkeyed : init.ledger.Keyed)
    (hone : init.ledger.OneOrder providerOrderId)
    (hstart : ∀ payment, ¬init.SettledCapture providerOrderId payment)
    (hrouted : ∀ s ∈ steps, Routed s) :
    (∀ s ∈ steps, s.post.ledger.Keeps providerOrderId (s.post.SettledCapture providerOrderId)) ↔
      ∀ s ∈ steps, KeepsCaptures providerOrderId s := by
  have hlaw := Machine.Run.along_iff
    (H := fun _ books => books.ledger.Keyed ∧ books.ledger.OneOrder providerOrderId ∧
      books.ledger.Keeps providerOrderId (books.SettledCapture providerOrderId))
    (P := fun _ s => Routed s ∧
      s.post.ledger.Keeps providerOrderId (s.post.SettledCapture providerOrderId))
    (G := fun _ s => Routed s ∧ KeepsCaptures providerOrderId s)
    ⟨hkeyed, hone, ⟨fun c hc => absurd hc (hstart c), fun o _ payments _ hall => by
      cases payments with
      | nil => exact Nat.zero_le _
      | cons first rest => exact absurd (hall first List.mem_cons_self) (hstart first)⟩⟩
    (fun past s _ hstate htakes hguard => by
      obtain ⟨hkeyed, hone, hkeeps⟩ := hstate
      have houtcome := money_step hkeyed htakes
      exact ⟨houtcome.keyed hkeyed, houtcome.oneOrder hkeyed hone,
        keeps_of_condition hkeyed hone hkeeps htakes hguard.1 hguard.2⟩)
    (fun past s _ hstate htakes => by
      obtain ⟨hkeyed, hone, hkeeps⟩ := hstate
      exact and_congr_right fun hrouted =>
        ⟨condition_of_keeps hkeyed htakes, keeps_of_condition hkeyed hone hkeeps htakes hrouted⟩)
    hrun
  rw [along_iff_forall_mem, along_iff_forall_mem] at hlaw
  constructor
  · intro h s hs
    exact (hlaw.mp (fun t ht => ⟨hrouted t ht, h t ht⟩) s hs).2
  · intro h s hs
    exact (hlaw.mpr (fun t ht => ⟨hrouted t ht, h t ht⟩) s hs).2

/-! ## A capture before the order is mapped -/

theorem attemptedLedger_oneOrder : attemptedLedger.OneOrder "order_A" := by
  intro o ho _
  rw [List.mem_singleton.mp ho]
  rfl

theorem no_settledCapture_of_events {books : MoneyBooks} (h : books.events = [])
    (providerOrderId : String) (payment : CapturedPayment) :
    ¬books.SettledCapture providerOrderId payment := by
  intro hc
  obtain ⟨-, id, stored, hstored, -⟩ := hc
  unfold Books.storedEvent at hstored
  rw [h] at hstored
  exact absurd hstored (by simp [Table.find])

/-- The order is mapped, and the capture is delivered to it. -/
def mappedCaptureCommands : List MoneyCommand :=
  [.store (captureEvent "a" "pay_A" 1), .projectTerminal pendingDelivery]

/-- On an order that is mapped the capture stands. -/
theorem captures_kept_iff_mapped :
    ((moneyMachine id).play attemptedBooks mappedCaptureCommands).1.length = 2 ∧
      ∀ s ∈ ((moneyMachine id).play attemptedBooks mappedCaptureCommands).1,
        s.post.ledger.Keeps "order_A" (s.post.SettledCapture "order_A") := by
  refine ⟨by decide, ?_⟩
  refine (captures_kept_iff (Machine.Run.of_play (moneyMachine id) attemptedBooks
    mappedCaptureCommands) attemptedLedger_keyed attemptedLedger_oneOrder
    (no_settledCapture_of_events rfl "order_A") ?_).mpr ?_
  · intro s hs d stored hcmd
    have hmem := Machine.Run.cmd_mem_of_play s hs
    rw [hcmd] at hmem
    exact absurd hmem (by simp [mappedCaptureCommands])
  · intro s hs
    refine ⟨?_, ?_⟩
    · intro d stored payment hdelivers
      obtain ⟨hcmd, hstored, -, hevent, -⟩ := hdelivers
      rcases List.mem_cons.mp hs with rfl | hs
      · exact absurd hcmd (by simp)
      · obtain rfl := List.mem_singleton.mp hs
        obtain rfl := MoneyCommand.projectTerminal.inj hcmd
        obtain rfl : pendingStored = stored := Option.some.inj hstored
        obtain rfl : sampleCaptured "pay_A" = payment :=
          ProviderEvent.Captures.unique ⟨rfl, _, rfl, rfl⟩ hevent
        exact .inl ⟨pendingStored_open, _, _, .known, capturable_sample _⟩
    · intro e hcmd
      have hmem := Machine.Run.cmd_mem_of_play s hs
      rw [hcmd] at hmem
      exact absurd hmem (by simp [mappedCaptureCommands])

/-- Nothing is known of the order yet. -/
def unmappedBooks : MoneyBooks where
  ledger := {
    logicalOrders := []
    providerPayments := []
    recoveryInstruments := []
    recoveryCases := [] }
  events := []
  enrichments := []

/-- A payment fails and its enrichment is asked for; it is captured late, while the provider
has been read and nothing is written; then the order is mapped. -/
def lateCaptureCommands : List MoneyCommand :=
  [.store (failureEvent firstFailureId 1),
    .projectNormalized (sampleDelivery firstFailureId firstCaseId 2),
    .store (captureEvent "a" "pay_A" 3),
    .projectTerminal (sampleDelivery "a" "01HZZZZZZZZZZZZZZZZZZZZZZB" 4),
    .enrich (sampleEnrichment attemptedRecord 5),
    .projectNormalized (sampleDelivery firstFailureId firstCaseId 8)]

def lateCaptureRun : List MoneyStep × MoneyBooks :=
  (moneyMachine id).play unmappedBooks lateCaptureCommands

/-- The delivery of a step is to the projector of its event's type, computed. -/
def isRouted (s : MoneyStep) : Bool :=
  match s.cmd with
  | .projectNormalized d => (s.pre.storedEvent d.eventRecordId).all fun stored =>
      decide (stored.event.eventType ∉ supportedTerminalEventTypes)
  | _ => true

theorem routed_of_isRouted {s : MoneyStep} (h : isRouted s = true) : Routed s := by
  intro d stored hcmd hstored
  unfold isRouted at h
  rw [hcmd] at h
  dsimp only at h
  rw [hstored, Option.all_some] at h
  exact of_decide_eq_true h

/-- All is delivered and settled and the order is mapped, and its captured payment has
failed. -/
theorem capture_lost_before_mapping :
    ∃ (init final : MoneyBooks) (steps : List MoneyStep),
      (moneyMachine id).Run init steps final ∧ init.ledger.Keyed ∧
        init.ledger.OneOrder "order_A" ∧ init.events = [] ∧ (∀ s ∈ steps, Routed s) ∧
        (∀ stored ∈ final.events, stored.inbox.status ∈ settledStatuses) ∧
        (final.ledger.orderFor "order_A").map LogicalOrder.mappingStatus = some .mapped ∧
        final.SettledCapture "order_A" (sampleCaptured "pay_A") ∧
        (final.ledger.payment "pay_A").map StoredPayment.status = some .failed ∧
        ¬final.ledger.Keeps "order_A" (final.SettledCapture "order_A") := by
  have hcapture : lateCaptureRun.2.SettledCapture "order_A" (sampleCaptured "pay_A") :=
    ⟨rfl, "a", _, rfl, by decide, rfl, _, rfl, rfl⟩
  have hfailed : (lateCaptureRun.2.ledger.payment "pay_A").map StoredPayment.status =
      some .failed := rfl
  refine ⟨unmappedBooks, lateCaptureRun.2, lateCaptureRun.1,
    Machine.Run.of_play (moneyMachine id) unmappedBooks lateCaptureCommands,
    ⟨List.nodup_nil, List.nodup_nil, List.nodup_nil, List.nodup_nil, List.nodup_nil⟩,
    fun o ho => absurd ho List.not_mem_nil, rfl, ?_, by decide, rfl, hcapture, hfailed, ?_⟩
  · have hrouted : ∀ s ∈ lateCaptureRun.1, isRouted s = true := by decide
    exact fun s hs => routed_of_isRouted (hrouted s hs)
  · intro hkeeps
    obtain ⟨o, -, ⟨p, hp, hstatus, -⟩, -⟩ := hkeeps.captured _ hcapture
    have hp : lateCaptureRun.2.ledger.payment "pay_A" = some p := hp
    rw [hp, Option.map_some, hstatus] at hfailed
    exact absurd hfailed (by simp)

end Retrywise.ControlPlane
