import Retrywise.ControlPlane.MoneySteps

/-!
# The totals of an order

What any number of terminal projections does to the money of an order.

> The total of an order is the money on its two paths (`Ledger.Balanced`), and a terminal
> projection keeps it so.

No amount goes back and no truth loses its rank (`Ledger.MoneyForward`), and the order is as
it was or has the truth of its total (`LogicalOrder.OnwardTo`). A projection that is not
accepted leaves all of it alone (`Ledger.Unmoved`), and one that raises has no books to leave.
-/

namespace Retrywise.ControlPlane

open Retrywise.Foundation Retrywise.Domain

/-! ## Relations between books -/

/-- The total of an order is the money on its paths. -/
def Ledger.Balanced (ledger : Ledger) (o : LogicalOrder) : Prop :=
  o.capturedTotalMinor = ledger.pathTotal o

/-- A truth has kept its rank. -/
def RankKept (old new : CanonicalPaymentState) : Prop :=
  new = old ∨ ∃ a b, truthRank old = some a ∧ truthRank new = some b ∧ a ≤ b

theorem RankKept.trans {a b c : CanonicalPaymentState} (hab : RankKept a b) (hbc : RankKept b c) :
    RankKept a c := by
  rcases hbc with rfl | ⟨m, n, hm, hn, hle⟩
  · exact hab
  · rcases hab with rfl | ⟨k, l, hk, hl, hle'⟩
    · exact .inr ⟨m, n, hm, hn, hle⟩
    · obtain rfl := Option.some.inj (hl.symm.trans hm)
      exact .inr ⟨k, n, hk, hn, Nat.le_trans hle' hle⟩

/-- An order, and what it is later: neither its total nor its truth has gone back, and where
it has changed its truth is the comparison of its total with what is due. -/
structure LogicalOrder.OnwardTo (o later : LogicalOrder) : Prop where
  total : o.capturedTotalMinor ≤ later.capturedTotalMinor
  rank : RankKept o.canonicalTruth later.canonicalTruth
  compared : later = o ∨
    later.canonicalTruth = truthOf later.capturedTotalMinor later.amountDueMinor

theorem LogicalOrder.OnwardTo.refl (o : LogicalOrder) : o.OnwardTo o :=
  ⟨Nat.le_refl _, .inl rfl, .inl rfl⟩

theorem LogicalOrder.OnwardTo.trans {a b c : LogicalOrder} (hab : a.OnwardTo b)
    (hbc : b.OnwardTo c) : a.OnwardTo c := by
  refine ⟨Nat.le_trans hab.total hbc.total, hab.rank.trans hbc.rank, ?_⟩
  rcases hbc.compared with rfl | hcompared
  · exact hab.compared
  · exact .inr hcompared

/-- A total that goes forward takes the order onward. -/
theorem LogicalOrder.Forward.onwardTo {o : LogicalOrder} {total : Nat} {occurredAt : Timestamp}
    (h : o.Forward total) :
    o.OnwardTo (o.project total (truthOf total o.amountDueMinor) occurredAt) := by
  obtain ⟨-, htotal, a, b, ha, hb, hle⟩ := LogicalOrder.forward_iff.mp h
  exact ⟨htotal, .inr ⟨a, b, ha, hb, hle⟩, .inr rfl⟩

/-- No amount and no order has gone back. -/
structure Ledger.MoneyForward (before after : Ledger) : Prop where
  orders : ∀ id o, before.order id = some o → ∃ later, after.order id = some later ∧
    o.OnwardTo later
  payments : ∀ p ∈ before.providerPayments, ∃ later ∈ after.providerPayments,
    later.id = p.id ∧ p.capturedMinor ≤ later.capturedMinor
  instruments : ∀ i ∈ before.recoveryInstruments, ∃ later ∈ after.recoveryInstruments,
    later.id = i.id ∧ i.collectedMinor ≤ later.collectedMinor

namespace Ledger.MoneyForward

theorem refl (ledger : Ledger) : ledger.MoneyForward ledger where
  orders _ o ho := ⟨o, ho, .refl o⟩
  payments p hp := ⟨p, hp, rfl, Nat.le_refl _⟩
  instruments i hi := ⟨i, hi, rfl, Nat.le_refl _⟩

theorem trans {a b c : Ledger} (hab : a.MoneyForward b) (hbc : b.MoneyForward c) :
    a.MoneyForward c where
  orders id o ho := by
    obtain ⟨o', ho', honward⟩ := hab.orders id o ho
    obtain ⟨o'', ho'', honward'⟩ := hbc.orders id o' ho'
    exact ⟨o'', ho'', honward.trans honward'⟩
  payments p hp := by
    obtain ⟨p', hp', hid, hle⟩ := hab.payments p hp
    obtain ⟨p'', hp'', hid', hle'⟩ := hbc.payments p' hp'
    exact ⟨p'', hp'', hid'.trans hid, Nat.le_trans hle hle'⟩
  instruments i hi := by
    obtain ⟨i', hi', hid, hle⟩ := hab.instruments i hi
    obtain ⟨i'', hi'', hid', hle'⟩ := hbc.instruments i' hi'
    exact ⟨i'', hi'', hid'.trans hid, Nat.le_trans hle hle'⟩

end Ledger.MoneyForward

/-- No money, no truth and no case is different; a payment may be new, without money. -/
structure Ledger.Unmoved (before after : Ledger) : Prop where
  orders : after.logicalOrders = before.logicalOrders
  payments : ∃ added, after.providerPayments = before.providerPayments ++ added ∧
    ∀ p ∈ added, p.capturedMinor = 0 ∧ p.refundedMinor = 0
  instruments : after.recoveryInstruments = before.recoveryInstruments
  cases : after.recoveryCases = before.recoveryCases

theorem Ledger.Unmoved.refl (ledger : Ledger) : ledger.Unmoved ledger :=
  ⟨rfl, ⟨[], by simp⟩, rfl, rfl⟩

theorem Ledger.Discovers.unmoved {ledger found : Ledger} {payment : CapturedPayment}
    {eventRecordId newId : String} {occurredAt : Timestamp}
    (h : ledger.Discovers payment eventRecordId newId occurredAt found) : ledger.Unmoved found := by
  cases h with
  | known => exact .refl ledger
  | new order idOk _ _ _ _ =>
    refine ⟨rfl, ⟨_, rfl, ?_⟩, rfl, rfl⟩
    intro p hp
    rw [List.mem_singleton.mp hp]
    exact ⟨rfl, rfl⟩

theorem Ledger.Unmoved.moneyForward {before after : Ledger} (h : before.Unmoved after) :
    before.MoneyForward after where
  orders id o ho := by
    unfold Ledger.order at ho ⊢
    rw [h.orders]
    exact ⟨o, ho, .refl o⟩
  payments p hp := by
    obtain ⟨added, hadded, -⟩ := h.payments
    rw [hadded]
    exact ⟨p, List.mem_append_left _ hp, rfl, Nat.le_refl _⟩
  instruments i hi := by
    rw [h.instruments]
    exact ⟨i, hi, rfl, Nat.le_refl _⟩

/-! ## One projection -/

section

variable {ledger after : Ledger}

/-- A row that was put in the place of one with less money. -/
theorem put_forward {ρ : Type} {key : ρ → String} {amount : ρ → Nat} {rows : List ρ}
    {old new : ρ} (hkeyed : Table.Keyed key rows) (hold : old ∈ rows) (hkey : key new = key old)
    (hle : amount old ≤ amount new) :
    ∀ row ∈ rows, ∃ later ∈ Table.put key new rows, key later = key row ∧
      amount row ≤ amount later := by
  intro row hrow
  by_cases heq : key row = key new
  · obtain rfl := hkeyed.eq_of_key hrow hold (heq.trans hkey)
    exact ⟨new, Table.mem_put_self hrow heq, hkey, hle⟩
  · exact ⟨row, Table.mem_put_of_ne hrow heq, rfl, Nat.le_refl _⟩

theorem Ledger.moneyForward_afterCapture {target : CaptureTarget} {payment : CapturedPayment}
    {eventRecordId : String} {occurredAt now : Timestamp} (hkeyed : ledger.Keyed)
    (h : ledger.Capturable target payment occurredAt) :
    ledger.MoneyForward (ledger.afterCapture target payment eventRecordId occurredAt now) := by
  obtain ⟨hmem, -, horder, -⟩ := captureTarget_rows h.found
  have hexact := CaptureTarget.exact_iff.mp (CaptureTarget.refusal_eq_none_iff.mp h.accepted).1
  have hle : target.payment.capturedMinor ≤ payment.amountMinor := by
    have := (h.countable.payments _ h.mem_originalPath).2.1.2
    rwa [hexact.amount] at this
  refine ⟨?_, put_forward hkeyed.payments hmem rfl hle, (MoneyForward.refl ledger).instruments⟩
  intro id o ho
  rw [order_afterCapture h]
  by_cases hid : id = target.order.id
  · obtain rfl := Option.some.inj (ho.symm.trans (hid ▸ horder))
    rw [if_pos hid]
    exact ⟨_, rfl, h.forward.onwardTo⟩
  · rw [if_neg hid]
    exact ⟨o, ho, .refl o⟩

theorem Ledger.moneyForward_afterLink {target : LinkTarget} {collection : PaymentLinkCollection}
    {referenceId : String} {occurredAt now : Timestamp} (hkeyed : ledger.Keyed)
    (h : ledger.Collectible target collection referenceId) :
    ledger.MoneyForward (ledger.afterLink target collection occurredAt now) := by
  obtain ⟨hmem, horder, -⟩ := h.rows
  have hle := (LinkTarget.refusal_eq_none_iff.mp h.accepted).2.2.1
  refine ⟨?_, (MoneyForward.refl ledger).payments, put_forward hkeyed.instruments hmem rfl hle⟩
  intro id o ho
  rw [order_afterLink h]
  by_cases hid : id = target.order.id
  · obtain rfl := Option.some.inj (ho.symm.trans (hid ▸ horder))
    rw [if_pos hid]
    exact ⟨_, rfl, h.forward.onwardTo⟩
  · rw [if_neg hid]
    exact ⟨o, ho, .refl o⟩

namespace TerminalOutcome

variable {referenceIdOf : String → String} {d : EventDelivery} {books : MoneyBooks}
  {stored : StoredEvent CanonicalEvent} {result : ProjectionResult}

theorem moneyForward (h : TerminalOutcome referenceIdOf d stored books after result)
    (hkeyed : books.ledger.Keyed) : books.ledger.MoneyForward after := by
  cases h with
  | settled => exact .refl _
  | passed _ _ _ hfound _ =>
    rcases hfound with rfl | ⟨payment, -, hdiscovers⟩
    · exact .refl _
    · exact hdiscovers.unmoved.moneyForward
  | captured found payment target _ _ hdiscovers hcapturable =>
    exact hdiscovers.unmoved.moneyForward.trans
      (Ledger.moneyForward_afterCapture (hdiscovers.keyed hkeyed) hcapturable)
  | collected collection target _ _ hcollectible _ =>
    exact Ledger.moneyForward_afterLink hkeyed hcollectible

/-- A terminal projection keeps an order balanced. -/
theorem balanced (h : TerminalOutcome referenceIdOf d stored books after result)
    (hkeyed : books.ledger.Keyed) {id : String} {o : LogicalOrder}
    (ho : books.ledger.order id = some o) (hbalanced : books.ledger.Balanced o) :
    ∃ later, after.order id = some later ∧ after.Balanced later := by
  have hid : o.id = id := Table.key_of_find ho
  cases h with
  | settled => exact ⟨o, ho, hbalanced⟩
  | passed _ _ _ hfound _ =>
    rcases hfound with rfl | ⟨payment, -, hdiscovers⟩
    · exact ⟨o, ho, hbalanced⟩
    · have horders := hdiscovers.unmoved.orders
      refine ⟨o, ?_, hbalanced.trans (hdiscovers.pathTotal o).symm⟩
      unfold Ledger.order at ho ⊢
      rw [horders]
      exact ho
  | captured found payment target _ _ hdiscovers hcapturable =>
    have hkeyedFound := hdiscovers.keyed hkeyed
    have hsame : found.order id = some o := by
      unfold Ledger.order at ho ⊢
      rw [hdiscovers.unmoved.orders]
      exact ho
    rw [Ledger.order_afterCapture hcapturable]
    by_cases heq : id = target.order.id
    · rw [if_pos heq]
      exact ⟨_, rfl, (Ledger.pathTotal_afterCapture hkeyedFound hcapturable).symm⟩
    · rw [if_neg heq]
      refine ⟨o, hsame, ?_⟩
      have htotal : (found.afterCapture target payment stored.event.id
          stored.event.providerOccurredAt d.now).pathTotal o = found.pathTotal o :=
        Ledger.pathTotal_afterCapture_of_ne hcapturable hkeyedFound (hid ▸ heq)
      exact hbalanced.trans ((hdiscovers.pathTotal o).symm.trans htotal.symm)
  | collected collection target _ _ hcollectible _ =>
    rw [Ledger.order_afterLink hcollectible]
    by_cases heq : id = target.order.id
    · rw [if_pos heq]
      exact ⟨_, rfl, (Ledger.pathTotal_afterLink hkeyed hcollectible).symm⟩
    · rw [if_neg heq]
      refine ⟨o, ho, ?_⟩
      have htotal : (books.ledger.afterLink target collection stored.event.providerOccurredAt
          d.now).pathTotal o = books.ledger.pathTotal o :=
        Ledger.pathTotal_afterLink_of_ne hcollectible hkeyed (hid ▸ heq)
      exact hbalanced.trans htotal.symm

end TerminalOutcome

end

/-! ## Runs -/

/-- An event arrives, or a delivery of its job projects it as a terminal event. -/
def MoneyCommand.IsTerminal : MoneyCommand → Prop
  | .store _ | .projectTerminal _ => True
  | _ => False

/-- The step projects a stored event for the first time, and it is accepted. -/
def Accepts (s : MoneyStep) (stored : StoredEvent CanonicalEvent) : Prop :=
  ∃ d, s.cmd = .projectTerminal d ∧ s.pre.storedEvent d.eventRecordId = some stored ∧
    stored.inbox.status ∉ settledStatuses ∧ s.out = some { disposition := .processed }

/-- The event the step has accepted is of a payment or a link of the order. -/
def AcceptsFor (s : MoneyStep) (orderId : String) : Prop :=
  ∃ stored, Accepts s stored ∧
    ((∃ payment p, stored.event.Captures payment ∧
        s.post.ledger.payment payment.providerPaymentId = some p ∧ p.logicalOrderId = orderId) ∨
      ∃ collection target, stored.event.Collects collection ∧
        s.pre.ledger.linkTarget collection.providerPaymentLinkId = some target ∧
          target.order.id = orderId)

theorem ProviderEvent.Captures.unique {event : ProviderEvent CanonicalEvent}
    {a b : CapturedPayment} (ha : event.Captures a) (hb : event.Captures b) : a = b := by
  obtain ⟨-, x, hx, hxa⟩ := ha
  obtain ⟨-, y, hy, hyb⟩ := hb
  obtain rfl := Except.ok.inj (hx.symm.trans hy)
  exact Except.ok.inj (hxa.symm.trans hyb)

theorem ProviderEvent.Collects.unique {event : ProviderEvent CanonicalEvent}
    {a b : PaymentLinkCollection} (ha : event.Collects a) (hb : event.Collects b) : a = b := by
  obtain ⟨-, x, hx, hxa⟩ := ha
  obtain ⟨-, y, hy, hyb⟩ := hb
  obtain rfl := Except.ok.inj (hx.symm.trans hy)
  exact Except.ok.inj (hxa.symm.trans hyb)

theorem ProviderEvent.Captures.not_collects {event : ProviderEvent CanonicalEvent}
    {payment : CapturedPayment} {collection : PaymentLinkCollection} (ha : event.Captures payment) :
    ¬event.Collects collection := by
  intro hb
  have htype := ha.1
  rcases hb.1 with h | h
  · exact absurd (htype.symm.trans h) (by simp)
  · exact absurd (htype.symm.trans h) (by simp)

section

variable {referenceIdOf : String → String} {s : MoneyStep}

/-- What a step of the two kinds does: it stores an event, or it projects one. -/
theorem terminal_step (hterminal : s.cmd.IsTerminal) (hkeyed : s.pre.ledger.Keyed)
    (htakes : (moneyMachine referenceIdOf).Takes s) :
    (s.post.ledger = s.pre.ledger ∧ ∀ stored, ¬Accepts s stored) ∨
      ∃ d stored result, s.cmd = .projectTerminal d ∧
        s.pre.storedEvent d.eventRecordId = some stored ∧ s.out = some result ∧
        TerminalOutcome referenceIdOf d stored s.pre s.post.ledger result := by
  have h := money_step hkeyed htakes
  unfold Accepts
  generalize s.cmd = cmd at h hterminal ⊢
  generalize s.out = out at h ⊢
  generalize s.post.ledger = after at h ⊢
  cases h with
  | stored event =>
    refine .inl ⟨rfl, ?_⟩
    rintro stored ⟨d, hcmd, -⟩
    exact absurd hcmd (by simp)
  | terminal d stored after result hstored houtcome =>
    exact .inr ⟨d, stored, result, rfl, hstored, rfl, houtcome⟩
  | normalized => exact absurd hterminal id
  | enriched => exact absurd hterminal id
  | movedCase => exact absurd hterminal id

/-- A step that accepts nothing moves nothing. -/
theorem unmoved_of_not_accepts (hterminal : s.cmd.IsTerminal) (hkeyed : s.pre.ledger.Keyed)
    (htakes : (moneyMachine referenceIdOf).Takes s) (hnone : ∀ stored, ¬Accepts s stored) :
    s.pre.ledger.Unmoved s.post.ledger := by
  rcases terminal_step hterminal hkeyed htakes with ⟨hsame, -⟩ |
    ⟨d, stored, result, hcmd, hstored, hout, houtcome⟩
  · rw [hsame]
    exact .refl _
  · generalize s.post.ledger = after at houtcome
    cases houtcome with
    | settled => exact .refl _
    | passed _ _ _ hfound _ =>
      rcases hfound with rfl | ⟨payment, -, hdiscovers⟩
      · exact .refl _
      · exact hdiscovers.unmoved
    | captured found payment target hopen _ _ _ =>
      exact absurd ⟨d, hcmd, hstored, hopen.unsettled, hout⟩ (hnone stored)
    | collected collection target hopen _ _ _ =>
      exact absurd ⟨d, hcmd, hstored, hopen.unsettled, hout⟩ (hnone stored)

/-- The order of an event that is accepted has the truth of its total. -/
theorem compared_of_acceptsFor {orderId : String} (hterminal : s.cmd.IsTerminal)
    (hkeyed : s.pre.ledger.Keyed) (htakes : (moneyMachine referenceIdOf).Takes s)
    (haccepts : AcceptsFor s orderId) :
    ∃ o, s.post.ledger.order orderId = some o ∧
      o.canonicalTruth = truthOf o.capturedTotalMinor o.amountDueMinor := by
  obtain ⟨stored, haccept, hconcerns⟩ := haccepts
  rcases terminal_step hterminal hkeyed htakes with ⟨-, hnone⟩ |
    ⟨d, other, result, hcmd, hother, hout, houtcome⟩
  · exact absurd haccept (hnone stored)
  obtain ⟨d', hcmd', hstored, hopen, hout'⟩ := haccept
  obtain rfl := MoneyCommand.projectTerminal.inj (hcmd.symm.trans hcmd')
  obtain rfl := Option.some.inj (hother.symm.trans hstored)
  have hresult := Option.some.inj (hout.symm.trans hout')
  generalize hpost : s.post.ledger = after at houtcome hconcerns
  cases houtcome with
  | settled hsettled => exact absurd hsettled hopen
  | passed _ _ _ _ hother =>
    rw [hresult] at hother
    exact absurd rfl hother
  | captured found payment target _ hevent hdiscovers hcapturable =>
    rcases hconcerns with ⟨payment', p, hevent', hp, hlogical⟩ | ⟨_, _, hcollects, -⟩
    · obtain rfl := hevent.unique hevent'
      have hkeyedFound := hdiscovers.keyed hkeyed
      have hexact := CaptureTarget.exact_iff.mp
        (CaptureTarget.refusal_eq_none_iff.mp hcapturable.accepted).1
      obtain ⟨hmem, -, -, htarget⟩ := Ledger.captureTarget_rows hcapturable.found
      have hid : target.order.id = orderId := by
        have hpId : p.providerPaymentId = payment.providerPaymentId := by
          simpa using List.find?_some hp
        rcases Table.mem_put (List.mem_of_find?_eq_some hp) with rfl | ⟨hold, hne⟩
        · exact htarget.symm.trans hlogical
        · have := hkeyedFound.providerPayments.eq_of_key hold hmem
            (hpId.trans hexact.paymentId.symm)
          rw [this] at hne
          exact absurd rfl hne
      rw [Ledger.order_afterCapture hcapturable, if_pos hid.symm]
      exact ⟨_, rfl, rfl⟩
    · exact absurd hcollects hevent.not_collects
  | collected collection target _ hevent hcollectible _ =>
    rcases hconcerns with ⟨_, _, hcaptures, -⟩ | ⟨collection', target', hevent', htarget, hid⟩
    · exact absurd hevent hcaptures.not_collects
    · obtain rfl := hevent.unique hevent'
      obtain rfl := Option.some.inj (htarget.symm.trans hcollectible.found)
      rw [Ledger.order_afterLink hcollectible, if_pos hid.symm]
      exact ⟨_, rfl, rfl⟩

/-- A step keeps the keys and takes the order onward, in balance. -/
theorem order_step {id : String} {start o : LogicalOrder} (hterminal : s.cmd.IsTerminal)
    (hkeyed : s.pre.ledger.Keyed) (htakes : (moneyMachine referenceIdOf).Takes s)
    (ho : s.pre.ledger.order id = some o) (hbalanced : s.pre.ledger.Balanced o)
    (honward : start.OnwardTo o) :
    s.post.ledger.Keyed ∧ s.pre.ledger.MoneyForward s.post.ledger ∧
      ∃ later, s.post.ledger.order id = some later ∧ s.post.ledger.Balanced later ∧
        o.OnwardTo later ∧ start.OnwardTo later := by
  rcases terminal_step hterminal hkeyed htakes with ⟨hsame, -⟩ |
    ⟨d, stored, result, -, -, -, houtcome⟩
  · rw [hsame]
    exact ⟨hkeyed, .refl _, o, ho, hbalanced, .refl o, honward⟩
  · have hforward := houtcome.moneyForward hkeyed
    obtain ⟨later, hlater, hbalanced'⟩ := houtcome.balanced hkeyed ho hbalanced
    obtain ⟨later', hlater', honward'⟩ := hforward.orders id o ho
    obtain rfl := Option.some.inj (hlater.symm.trans hlater')
    exact ⟨houtcome.keyed hkeyed, hforward, later, hlater, hbalanced', honward',
      honward.trans honward'⟩

end

/-- **The totals of an order.** Start with an order whose total is the money on its paths,
and project terminal events of any kind, in any order and any number of times: the total is
still the money on the paths, with no row there twice; the total and each amount have not
gone back, and the truth has not lost its rank; once an event of the order was accepted, the
truth is that of the total; and what is not accepted moves nothing. -/
theorem total_is_path_money {referenceIdOf : String → String} {init final : MoneyBooks}
    {steps : List MoneyStep} {id : String} {start : LogicalOrder}
    (hrun : (moneyMachine referenceIdOf).Run init steps final)
    (hterminal : ∀ s ∈ steps, s.cmd.IsTerminal) (hkeyed : init.ledger.Keyed)
    (hstart : init.ledger.order id = some start) (hbalanced : init.ledger.Balanced start) :
    (∃ o, final.ledger.order id = some o ∧ final.ledger.Balanced o ∧ start.OnwardTo o ∧
        ((∃ s ∈ steps, AcceptsFor s id) →
          o.canonicalTruth = truthOf o.capturedTotalMinor o.amountDueMinor)) ∧
      final.ledger.Keyed ∧ init.ledger.MoneyForward final.ledger ∧
      ∀ s ∈ steps, (∀ stored, ¬Accepts s stored) → s.pre.ledger.Unmoved s.post.ledger := by
  -- the invariant: keys, the order in balance and onward, the truth compared once accepted
  let H : List MoneyStep → MoneyBooks → Prop := fun past books =>
    books.ledger.Keyed ∧ init.ledger.MoneyForward books.ledger ∧
      (∀ s ∈ past, (∀ stored, ¬Accepts s stored) → s.pre.ledger.Unmoved s.post.ledger) ∧
      ∃ o, books.ledger.order id = some o ∧ books.ledger.Balanced o ∧ start.OnwardTo o ∧
        ((∃ s ∈ past, AcceptsFor s id) →
          o.canonicalTruth = truthOf o.capturedTotalMinor o.amountDueMinor)
  have hH : H steps final := by
    refine Machine.Run.history (H := H) (G := fun _ s => s.cmd.IsTerminal) ?_ ?_ hrun
      (along_iff_forall_mem.mpr hterminal)
    · refine ⟨hkeyed, .refl _, by simp, start, hstart, hbalanced, .refl start, ?_⟩
      rintro ⟨s, hs, -⟩
      exact absurd hs List.not_mem_nil
    · rintro past s - ⟨hpreKeyed, hforward, hquiet, o, ho, hpreBalanced, honward, hcompared⟩
        htakes hcommand
      obtain ⟨hpostKeyed, hstep, later, hlater, hpostBalanced, hlaterOnward, hstartOnward⟩ :=
        order_step hcommand hpreKeyed htakes ho hpreBalanced honward
      refine ⟨hpostKeyed, hforward.trans hstep, ?_, later, hlater, hpostBalanced, hstartOnward, ?_⟩
      · intro t ht hnone
        rcases List.mem_append.mp ht with ht | ht
        · exact hquiet t ht hnone
        · rw [List.mem_singleton.mp ht] at hnone ⊢
          exact unmoved_of_not_accepts hcommand hpreKeyed htakes hnone
      · rintro ⟨t, ht, haccepts⟩
        rcases List.mem_append.mp ht with ht | ht
        · rcases hlaterOnward.compared with heq | htruth
          · rw [heq]
            exact hcompared ⟨t, ht, haccepts⟩
          · exact htruth
        · rw [List.mem_singleton.mp ht] at haccepts
          obtain ⟨o', ho', htruth⟩ := compared_of_acceptsFor hcommand hpreKeyed htakes haccepts
          obtain rfl := Option.some.inj (hlater.symm.trans ho')
          exact htruth
  obtain ⟨hfinalKeyed, hforward, hquiet, horder⟩ := hH
  exact ⟨horder, hfinalKeyed, hforward, hquiet⟩

/-! ## A capture of an unpaid order -/

theorem nonneg_clock (n : Fin 60) : (0 : Int) ≤ 63902736000000000 + 1000000 * (n.val : Int) := by
  omega

theorem inRange_clock (n : Fin 60) :
    (63902736000000000 : Int) + 1000000 * (n.val : Int) < calendarEnd := by
  have := n.isLt
  unfold calendarEnd
  omega

instance seconds_neZero : NeZero 60 := ⟨by decide⟩

/-- The seconds of a minute. -/
def clock (n : Fin 60) : Timestamp :=
  ⟨63902736000000000 + 1000000 * (n.val : Int), nonneg_clock n, inRange_clock n⟩

/-- An order of 500 on which nothing is paid. -/
def sampleOrder : LogicalOrder where
  id := "order"
  merchantOrderReference := "reference"
  originalProviderOrderId := some "order_A"
  amountDueMinor := 500
  currency := "INR"
  capturedTotalMinor := 0
  refundedTotalMinor := 0
  canonicalTruth := .unpaid
  providerSnapshotAt := some (clock 0)
  mappingStatus := .mapped

theorem positive_sampleCaptured : 0 < 500 := by decide

theorem bounded_sampleCaptured : 500 ≤ maxSignedBigint := by decide

/-- A payment of the whole order. -/
def sampleCaptured (providerPaymentId : String) : CapturedPayment where
  providerPaymentId := providerPaymentId
  providerOrderId := "order_A"
  amountMinor := 500
  currency := "INR"
  paymentMethod := some "upi"
  positive := positive_sampleCaptured
  bounded := bounded_sampleCaptured

/-- What a decoder of another kind of event makes of it. -/
def undecoded {α : Type} : Except ProjectionError α := .error (.evidence "undecoded")

def sampleEvent (id : String) (eventType : ProviderEventType) (second : Fin 60)
    (canonical : CanonicalEvent) : ProviderEvent CanonicalEvent where
  id := id
  providerEventId := id
  eventType := eventType
  bodySha256 := id
  providerOccurredAt := clock second
  receivedAt := clock second
  canonical := .ok canonical

def captureEvent (id providerPaymentId : String) (second : Fin 60) :
    ProviderEvent CanonicalEvent :=
  sampleEvent id .paymentCaptured second
    { captured := .ok (sampleCaptured providerPaymentId), collection := undecoded,
      failed := undecoded }

/-- A delivery that finds everything in place. -/
def sampleDelivery (eventRecordId newId : String) (second : Fin 60) : EventDelivery where
  eventRecordId := eventRecordId
  jobId := eventRecordId
  fenced := true
  stillFenced := true
  accountEnabled := true
  leaseExpiresAt := clock second
  now := clock second
  newId := newId
  newJobId := newId

def sampleLedger : Ledger where
  logicalOrders := [sampleOrder]
  providerPayments := []
  recoveryInstruments := []
  recoveryCases := []

def sampleBooks : MoneyBooks where
  ledger := sampleLedger
  events := []
  enrichments := []

/-- The capture of one payment arrives, and is projected. -/
def captureCommands : List MoneyCommand :=
  [.store (captureEvent "a" "pay_A" 1),
    .projectTerminal (sampleDelivery "a" "01HZZZZZZZZZZZZZZZZZZZZZZA" 2)]

theorem captureCommands_terminal : ∀ c ∈ captureCommands, c.IsTerminal := by
  simp [captureCommands, MoneyCommand.IsTerminal]

theorem sampleLedger_keyed : sampleLedger.Keyed :=
  ⟨List.nodup_singleton _, List.nodup_nil, List.nodup_nil, List.nodup_nil, List.nodup_nil⟩

theorem total_is_path_money_captured :
    let played := (moneyMachine id).play sampleBooks captureCommands
    (∃ o, played.2.ledger.order "order" = some o ∧ o.capturedTotalMinor = 500) ∧
      ∃ o, played.2.ledger.order "order" = some o ∧ played.2.ledger.Balanced o := by
  refine ⟨⟨_, rfl, by decide⟩, ?_⟩
  obtain ⟨⟨o, ho, hbalanced, -⟩, -⟩ := total_is_path_money
    (Machine.Run.of_play (moneyMachine id) sampleBooks captureCommands)
    (fun s hs => captureCommands_terminal s.cmd (Machine.Run.cmd_mem_of_play s hs))
    sampleLedger_keyed (show sampleLedger.order "order" = some sampleOrder from rfl) rfl
  exact ⟨o, ho, hbalanced⟩

end Retrywise.ControlPlane
