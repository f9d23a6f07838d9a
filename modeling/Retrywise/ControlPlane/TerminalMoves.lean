import Retrywise.ControlPlane.TerminalEffect

/-!
# What carrying a terminal plan out does

A plan is carried out as a chain of conditional updates, each of which has to match a row
and to be admitted by the triggers of its table. Read as one, the chain of a capture always
goes through, and leaves the books as `Ledger.afterCapture` says; that of a collection goes
through when its clock is not behind the instrument's and it does not call a case recovered
that was never observed (`LinkTarget.Admitted`), and leaves `Ledger.afterLink`.

> A case update reads and writes its own case only, so the updates of a plan, one after the
> other, are the cases moved all at once (`applyCases_ok_iff`).
-/

namespace Retrywise.ControlPlane

open Retrywise.Foundation Retrywise.Domain

/-! ## Cases -/

/-- A case that has gone where `move` says. -/
def RecoveryCase.moved (move : RecoveryCase → Option CaseTransition) (now : Timestamp)
    (c : RecoveryCase) : RecoveryCase :=
  match move c with
  | some t => c.transition t now
  | none => c

theorem RecoveryCase.id_moved (move : RecoveryCase → Option CaseTransition) (now : Timestamp)
    (c : RecoveryCase) : (c.moved move now).id = c.id := by
  unfold RecoveryCase.moved
  cases move c with
  | some t => rfl
  | none => rfl

/-- The triggers take the case where `move` says. -/
def RecoveryCase.Movable (move : RecoveryCase → Option CaseTransition) (now : Timestamp)
    (truth : CanonicalPaymentState) (c : RecoveryCase) : Prop :=
  ∀ t, move c = some t → admitsCase truth c.toCaseRow (c.transition t now).toCaseRow = true

/-- The plan moves a case from the state and version it was read in. -/
def MovesFrom (move : RecoveryCase → Option CaseTransition) (c : RecoveryCase) : Prop :=
  ∀ t, move c = some t → ∃ state reason, t = c.moveTo state reason

namespace Ledger

variable {ledger changed : Ledger} {order : LogicalOrder} {now : Timestamp}

theorem applyCase_ok_iff {c : RecoveryCase} {state : RecoveryState} {reason : String}
    (hkeyed : Table.Keyed RecoveryCase.id ledger.recoveryCases) (hc : c ∈ ledger.recoveryCases)
    (horder : isOrderCase order c = true) :
    ledger.applyCase order (c.moveTo state reason) now = .ok changed ↔
      admitsCase (ledger.truthOfCase c) c.toCaseRow
          (c.transition (c.moveTo state reason) now).toCaseRow = true ∧
        changed = { ledger with
          recoveryCases := Table.put RecoveryCase.id (c.transition (c.moveTo state reason) now)
            ledger.recoveryCases } := by
  have hfind : Table.find RecoveryCase.id c.id ledger.recoveryCases = some c :=
    Table.find_of_mem hkeyed hc
  have happlies : (decide (c.logicalOrderId = order.id) && decide (c.currency = order.currency) &&
      decide (c.state = (c.moveTo state reason).expectedState) &&
      decide (c.version = (c.moveTo state reason).expectedVersion)) = true := by
    simpa [RecoveryCase.moveTo, isOrderCase] using horder
  unfold applyCase
  rw [updateCase_ok_iff]
  constructor
  · rintro ⟨row, hrow, -, hadmits, rfl⟩
    obtain rfl := Option.some.inj (hfind.symm.trans hrow)
    exact ⟨hadmits, rfl⟩
  · rintro ⟨hadmits, rfl⟩
    exact ⟨c, hfind, happlies, hadmits, rfl⟩

/-- The case updates of a plan go through when each is admitted, and move each case of the
plan once. -/
theorem applyCases_ok_iff {move : RecoveryCase → Option CaseTransition} {todo : List RecoveryCase}
    (hkeyed : Table.Keyed RecoveryCase.id ledger.recoveryCases)
    (htodo : ∀ c ∈ todo, c ∈ ledger.recoveryCases ∧ isOrderCase order c = true ∧ MovesFrom move c)
    (hnodup : (todo.map RecoveryCase.id).Nodup) :
    ledger.applyCases order now (todo.filterMap move) = .ok changed ↔
      (∀ c ∈ todo, c.Movable move now (ledger.truthOfCase c)) ∧
        changed = { ledger with
          recoveryCases := ledger.recoveryCases.map fun c =>
            if c ∈ todo then c.moved move now else c } := by
  induction todo generalizing ledger with
  | nil =>
    have hsame : (ledger.recoveryCases.map fun c =>
        if c ∈ ([] : List RecoveryCase) then c.moved move now else c) = ledger.recoveryCases := by
      simp
    rw [hsame]
    simp only [List.filterMap_nil, applyCases, Except.ok.injEq, List.not_mem_nil, false_implies,
      implies_true, true_and]
    exact eq_comm
  | cons c rest ih =>
    obtain ⟨hc, horder, hfrom⟩ := htodo c List.mem_cons_self
    rw [List.map_cons, List.nodup_cons] at hnodup
    have hrest : ∀ other ∈ rest, other.id ≠ c.id := by
      intro other hother heq
      exact hnodup.1 (heq ▸ List.mem_map_of_mem hother)
    cases hmove : move c with
    | none =>
      rw [List.filterMap_cons_none hmove,
        ih hkeyed (fun other hother => htodo other (List.mem_cons_of_mem _ hother)) hnodup.2]
      have hmovable : c.Movable move now (ledger.truthOfCase c) := by
        intro t ht
        exact absurd (hmove.symm.trans ht) (by simp)
      have hmap : ∀ other : RecoveryCase, (if other ∈ c :: rest then other.moved move now
          else other) = if other ∈ rest then other.moved move now else other := by
        intro other
        by_cases heq : other = c
        · have hstays : c.moved move now = c := by
            unfold RecoveryCase.moved
            rw [hmove]
          rw [heq, if_pos List.mem_cons_self, hstays, ite_self]
        · simp only [List.mem_cons, heq, false_or]
      simp only [hmap, List.forall_mem_cons, hmovable, true_and]
    | some t =>
      obtain ⟨state, reason, rfl⟩ := hfrom t hmove
      rw [List.filterMap_cons_some hmove, applyCases, bind_ok_iff]
      simp only [applyCase_ok_iff hkeyed hc horder]
      -- the cases of the rest are untouched by the first update
      have hkept : ∀ other ∈ rest, other ∈ Table.put RecoveryCase.id
          (c.transition (c.moveTo state reason) now) ledger.recoveryCases ∧
            isOrderCase order other = true ∧ MovesFrom move other := by
        intro other hother
        obtain ⟨hmem, hother'⟩ := htodo other (List.mem_cons_of_mem _ hother)
        exact ⟨Table.mem_put_of_ne hmem (hrest other hother), hother'⟩
      have hmap : (Table.put RecoveryCase.id (c.transition (c.moveTo state reason) now)
            ledger.recoveryCases).map (fun other =>
              if other ∈ rest then other.moved move now else other) =
          ledger.recoveryCases.map fun other =>
            if other ∈ c :: rest then other.moved move now else other := by
        refine Table.map_put hkeyed hc rfl ?_ ?_
        · have hnot : c.transition (c.moveTo state reason) now ∉ rest := by
            intro hmem
            exact hrest _ hmem rfl
          have hgone : c.moved move now = c.transition (c.moveTo state reason) now := by
            unfold RecoveryCase.moved
            rw [hmove]
          rw [if_neg hnot, if_pos List.mem_cons_self, hgone]
        · intro other _ hne
          simp only [List.mem_cons, hne, false_or]
      constructor
      · rintro ⟨first, ⟨hadmits, rfl⟩, happlied⟩
        obtain ⟨hothers, rfl⟩ := (ih (Table.keyed_put hkeyed) hkept hnodup.2).mp happlied
        refine ⟨List.forall_mem_cons.mpr ⟨?_, hothers⟩, ?_⟩
        · intro t ht
          rw [← Option.some.inj (hmove.symm.trans ht)]
          exact hadmits
        · rw [← hmap]
      · rintro ⟨hmovable, rfl⟩
        obtain ⟨hfirst, hothers⟩ := List.forall_mem_cons.mp hmovable
        refine ⟨_, ⟨hfirst _ hmove, rfl⟩, (ih (Table.keyed_put hkeyed) hkept hnodup.2).mpr ⟨hothers, ?_⟩⟩
        rw [← hmap]

end Ledger

/-! ## The order -/

/-- A truth goes to the truth of a total when its rank allows. -/
theorem mem_transitions_of_rank {current : CanonicalPaymentState} {total amountDue rank : Nat}
    (hrank : truthRank current = some rank)
    (hle : ∃ projected, truthRank (truthOf total amountDue) = some projected ∧ rank ≤ projected) :
    truthOf total amountDue = current ∨ truthOf total amountDue ∈ paymentTransitions current := by
  obtain ⟨projected, hprojected, hle⟩ := hle
  unfold truthOf at hprojected ⊢
  cases current with
  | unknown => split_ifs <;> simp [paymentTransitions]
  | unpaid => split_ifs <;> simp [paymentTransitions]
  | authorized => split_ifs <;> simp [paymentTransitions]
  | partiallyPaid => split_ifs <;> simp [paymentTransitions]
  | paid =>
    obtain rfl := Option.some.inj hrank
    split_ifs at hprojected ⊢ with hless hpaid
    · obtain rfl := Option.some.inj hprojected
      exact absurd hle (by decide)
    · exact .inl rfl
    · exact .inr (by decide)
  | overpaid =>
    obtain rfl := Option.some.inj hrank
    split_ifs at hprojected ⊢ with hless hpaid
    · obtain rfl := Option.some.inj hprojected
      exact absurd hle (by decide)
    · obtain rfl := Option.some.inj hprojected
      exact absurd hle (by decide)
    · exact .inl rfl
  | exception => exact absurd hrank (by simp [truthRank])

/-- What a total that goes forward has shown. -/
theorem LogicalOrder.forward_iff {o : LogicalOrder} {total : Nat} :
    o.Forward total ↔
      o.refundedTotalMinor ≤ o.capturedTotalMinor ∧ o.capturedTotalMinor ≤ total ∧
        ∃ current projected, truthRank o.canonicalTruth = some current ∧
          truthRank (truthOf total o.amountDueMinor) = some projected ∧ current ≤ projected := by
  unfold LogicalOrder.Forward moneyIsMonotonic
  simp only [Bool.and_eq_true, decide_eq_true_eq, Option.any_eq_true, and_assoc]
  constructor
  · rintro ⟨h₁, h₂, current, hcurrent, projected, hprojected, hle⟩
    exact ⟨h₁, h₂, current, projected, hcurrent, hprojected, hle⟩
  · rintro ⟨h₁, h₂, current, projected, hcurrent, hprojected, hle⟩
    exact ⟨h₁, h₂, current, hcurrent, projected, hprojected, hle⟩

theorem truthAmountCheck_truthOf {o : LogicalOrder} (htotal : o.capturedTotalMinor ≠ 0)
    (htruth : o.canonicalTruth = truthOf o.capturedTotalMinor o.amountDueMinor) :
    o.truthAmountCheck = true := by
  unfold LogicalOrder.truthAmountCheck
  rw [htruth]
  unfold truthOf
  split_ifs with hless hpaid
  · simp only [Bool.and_eq_true, decide_eq_true_eq]
    omega
  · simpa using hpaid
  · simp only [decide_eq_true_eq]
    omega

/-- The triggers and checks admit an order that goes forward. -/
theorem LogicalOrder.admits_project {o : LogicalOrder} {total : Nat} (occurredAt : Timestamp)
    (hdue : o.amountDueMinor ≠ 0) (htotal : total ≠ 0) (hforward : o.Forward total)
    (horiginal : o.originalProviderOrderId ≠ none) :
    o.admits (o.project total (truthOf total o.amountDueMinor) occurredAt) = true := by
  obtain ⟨hrefunded, hcaptured, current, projected, hcurrent, hprojected, hle⟩ :=
    forward_iff.mp hforward
  have htruth := mem_transitions_of_rank hcurrent ⟨projected, hprojected, hle⟩
  have hsnapshot : reconciledForward o.providerSnapshotAt
      (laterSnapshot o.providerSnapshotAt occurredAt) = true := by
    unfold laterSnapshot
    cases o.providerSnapshotAt with
    | none => rfl
    | some snapshot => simp [reconciledForward]
  have hcheck := truthAmountCheck_truthOf
    (o := o.project total (truthOf total o.amountDueMinor) occurredAt) htotal rfl
  have hsome : o.originalProviderOrderId.isSome = true := Option.isSome_iff_ne_none.mpr horiginal
  have hchecks : (o.project total (truthOf total o.amountDueMinor) occurredAt).checks = true := by
    unfold LogicalOrder.checks
    rw [hcheck]
    have hrefundedTotal : o.refundedTotalMinor ≤ total := Nat.le_trans hrefunded hcaptured
    simp [LogicalOrder.project, laterSnapshot, hsome, hrefundedTotal, Nat.pos_of_ne_zero hdue]
  unfold LogicalOrder.admits
  rw [hchecks]
  simp only [LogicalOrder.project, Bool.and_eq_true, decide_eq_true_eq, Bool.or_eq_true,
    Option.isNone_iff_eq_none, Nat.le_refl, and_true, or_true, true_and]
  exact ⟨⟨decide_eq_true hcaptured, hsnapshot⟩, htruth.imp decide_eq_true decide_eq_true⟩

/-! ## A capture -/

/-- The books after a capture was carried out. -/
def Ledger.afterCapture (ledger : Ledger) (target : CaptureTarget) (payment : CapturedPayment)
    (eventRecordId : String) (occurredAt now : Timestamp) : Ledger where
  logicalOrders := Table.put LogicalOrder.id
    (target.order.project (ledger.captureTotal target payment)
      (truthOf (ledger.captureTotal target payment) target.order.amountDueMinor) occurredAt)
    ledger.logicalOrders
  providerPayments := Table.put (fun p : StoredPayment => p.id)
    (target.payment.capture payment eventRecordId occurredAt) ledger.providerPayments
  recoveryInstruments := ledger.recoveryInstruments
  recoveryCases := ledger.recoveryCases.map fun c =>
    if isOrderCase target.order c then
      c.moved (captureTransition (collectedCaseIds (ledger.orderInstruments target.order))) now
    else c

/-- Where a capture takes a case, the triggers let it go. -/
theorem movable_capture (collected : List String) (now : Timestamp)
    (truth : CanonicalPaymentState) (c : RecoveryCase) :
    c.Movable (captureTransition collected) now truth := by
  intro t ht
  unfold captureTransition at ht
  split_ifs at ht with hcollected hreview hopen
  · obtain rfl := Option.some.inj ht
    simp [admitsCase, legacyTrigger, CaseRow.terminalCheck, RecoveryCase.transition,
      RecoveryCase.moveTo, workflowStates, terminalCaseStates, hasText]
  · obtain rfl := Option.some.inj ht
    have hedge : RecoveryState.suppressedPaid ∈ caseEdges c.state := by
      revert hopen
      generalize c.state = state
      cases state <;> decide
    simp [admitsCase, legacyTrigger, CaseRow.terminalCheck, RecoveryCase.transition,
      RecoveryCase.moveTo, workflowStates, terminalCaseStates, hasText, hedge]

theorem movesFrom_capture (collected : List String) (c : RecoveryCase) :
    MovesFrom (captureTransition collected) c := by
  intro t ht
  unfold captureTransition at ht
  split_ifs at ht
  · exact ⟨_, _, (Option.some.inj ht).symm⟩
  · exact ⟨_, _, (Option.some.inj ht).symm⟩

namespace Ledger

variable {ledger after : Ledger} {payment : CapturedPayment} {eventRecordId : String}
  {occurredAt now : Timestamp}

/-- The rows of a target are rows of the books. -/
theorem captureTarget_rows {target : CaptureTarget} {providerPaymentId : String}
    (h : ledger.captureTarget providerPaymentId = some target) :
    target.payment ∈ ledger.providerPayments ∧
      target.payment.providerPaymentId = providerPaymentId ∧
      ledger.order target.order.id = some target.order ∧
      target.payment.logicalOrderId = target.order.id := by
  obtain ⟨hpayment, horder, -⟩ := captureTarget_eq_some_iff.mp h
  have hid : target.order.id = target.payment.logicalOrderId := Table.key_of_find horder
  refine ⟨List.mem_of_find?_eq_some hpayment, by simpa using List.find?_some hpayment, ?_, hid.symm⟩
  rw [hid]
  exact horder

/-- A capture that was planned is carried out. -/
theorem applyCapture_eq {target : CaptureTarget} (hkeyed : ledger.Keyed)
    (h : ledger.Capturable target payment occurredAt) :
    ledger.applyCapture (ledger.capturePlan target payment) eventRecordId occurredAt now =
      .ok (ledger.afterCapture target payment eventRecordId occurredAt now) := by
  obtain ⟨hexact, -, hrefunded, -⟩ := CaptureTarget.refusal_eq_none_iff.mp h.accepted
  have hexact := CaptureTarget.exact_iff.mp hexact
  obtain ⟨hmem, -, horder, hlogical⟩ := captureTarget_rows h.found
  have hfind : Table.find (fun p : StoredPayment => p.id) target.payment.id
      ledger.providerPayments = some target.payment := Table.find_of_mem hkeyed.payments hmem
  have hchecks : (target.payment.capture payment eventRecordId occurredAt).checks = true := by
    simp [StoredPayment.checks, StoredPayment.statusMoneyCheck, StoredPayment.capture,
      hexact.amount, hrefunded, payment.positive]
  have horiginal : target.order.originalProviderOrderId ≠ none := by
    rw [hexact.original]
    exact nofun
  have hadmits := LogicalOrder.admits_project occurredAt h.countable.due
    h.countable.positive h.forward horiginal
  unfold applyCapture projectCapturedPayment applyOrder
  refine bind_ok_iff.mpr ⟨_, updatePayment_ok_iff.mpr ⟨target.payment, hfind, ?_, hchecks, rfl⟩, ?_⟩
  · simp [capturePlan, hlogical, hexact.paymentId, hexact.orderId, hexact.amount, hexact.currency,
      hrefunded]
  refine bind_ok_iff.mpr ⟨_, updateOrder_ok_iff.mpr ⟨target.order, horder, ?_, hadmits, rfl⟩, ?_⟩
  · simp [capturePlan]
  -- every case of the order is moved where its state and its instruments say
  show applyCases target.order now ((ledger.orderCases target.order).filterMap
    (captureTransition (collectedCaseIds (ledger.orderInstruments target.order)))) _ = _
  refine (applyCases_ok_iff ?_ ?_ ?_).mpr ⟨?_, ?_⟩
  · exact hkeyed.cases
  · intro c hc
    obtain ⟨hmem, hcase⟩ := List.mem_filter.mp hc
    exact ⟨hmem, hcase, movesFrom_capture _ c⟩
  · exact hkeyed.cases.sublist (List.filter_sublist.map _)
  · intro c _
    exact movable_capture _ now _ c
  · unfold afterCapture
    congr 1
    apply List.map_congr_left
    intro c hc
    by_cases hcase : isOrderCase target.order c = true
    · have hof : c ∈ ledger.orderCases target.order := List.mem_filter.mpr ⟨hc, hcase⟩
      rw [if_pos hcase, if_pos hof]
    · have hof : c ∉ ledger.orderCases target.order := by
        intro h
        exact hcase (List.mem_filter.mp h).2
      rw [if_neg hcase, if_neg hof]

end Ledger

/-! ## A collection -/

/-- The cases after a collection was carried out: that of its instrument has gone where
the plan says. -/
def Ledger.casesAfterLink (ledger : Ledger) (target : LinkTarget)
    (collection : PaymentLinkCollection) (now : Timestamp) : List RecoveryCase :=
  ledger.recoveryCases.map fun c =>
    if c ∈ [target.recoveryCase] then
      c.moved (fun _ => (ledger.linkPlan target collection).caseTransition) now
    else c

/-- The books after a collection was carried out. -/
def Ledger.afterLink (ledger : Ledger) (target : LinkTarget) (collection : PaymentLinkCollection)
    (occurredAt now : Timestamp) : Ledger where
  logicalOrders := Table.put LogicalOrder.id
    (target.order.project (ledger.collectionTotal target collection)
      (truthOf (ledger.collectionTotal target collection) target.order.amountDueMinor) occurredAt)
    ledger.logicalOrders
  providerPayments := ledger.providerPayments
  recoveryInstruments := Table.put RecoveryInstrument.id
    (target.instrument.collect collection now) ledger.recoveryInstruments
  recoveryCases := ledger.casesAfterLink target collection now

/-- A collection takes its case into review, or, when it is active, to its recovery. -/
theorem linkTransition_eq_some {target : LinkTarget} {collection : PaymentLinkCollection}
    {original total : Nat} {t : CaseTransition}
    (h : linkTransition target collection original total = some t) :
    (∃ reason, hasText (some reason) = true ∧
        t = target.recoveryCase.moveTo .duplicateReview reason) ∨
      target.recoveryCase.state = .active ∧
        t = target.recoveryCase.moveTo .recovered "recovery_payment_link_paid" := by
  unfold linkTransition at h
  dsimp only at h
  split_ifs at h with hreview hstate hpartial hactive hpaid
  · exact .inl ⟨_, by decide, (Option.some.inj h).symm⟩
  · exact .inl ⟨_, by decide, (Option.some.inj h).symm⟩
  · exact .inr ⟨hactive, (Option.some.inj h).symm⟩
  · exact .inl ⟨_, by decide, (Option.some.inj h).symm⟩

theorem movesFrom_link {target : LinkTarget} {collection : PaymentLinkCollection}
    {original total : Nat} :
    MovesFrom (fun _ => linkTransition target collection original total)
      target.recoveryCase := by
  intro t ht
  rcases linkTransition_eq_some ht with ⟨reason, -, rfl⟩ | ⟨-, rfl⟩
  · exact ⟨_, _, rfl⟩
  · exact ⟨_, _, rfl⟩

/-- The triggers admit what a collection writes: its clock is not behind the instrument's,
and a case it calls recovered was observed. -/
structure LinkTarget.Admitted (target : LinkTarget) (collection : PaymentLinkCollection)
    (original total : Nat) (now : Timestamp) : Prop where
  clock : reconciledForward target.instrument.lastReconciledAt (some now) = true
  observed : ∀ t, linkTransition target collection original total = some t →
    t.newState = .recovered → target.recoveryCase.observationContractVersion ≠ 0

theorem movable_link_iff {target : LinkTarget} {collection : PaymentLinkCollection}
    {original total : Nat} {now : Timestamp} {truth : CanonicalPaymentState} :
    target.recoveryCase.Movable (fun _ => linkTransition target collection original total) now
        truth ↔
      ∀ t, linkTransition target collection original total = some t →
        t.newState = .recovered → target.recoveryCase.observationContractVersion ≠ 0 := by
  refine forall_congr' fun t => forall_congr' fun ht => ?_
  rcases linkTransition_eq_some ht with ⟨reason, hreason, rfl⟩ | ⟨hactive, rfl⟩
  · simp [admitsCase, legacyTrigger, CaseRow.terminalCheck, RecoveryCase.transition,
      RecoveryCase.moveTo, workflowStates, terminalCaseStates, hreason]
  · simp [admitsCase, legacyTrigger, CaseRow.terminalCheck, RecoveryCase.transition,
      RecoveryCase.moveTo, workflowStates, terminalCaseStates, hasText, hactive, caseEdges]

/-- A status a link event accepts goes to the status of its collection. -/
theorem LinkEventType.mem_edges {collection : PaymentLinkCollection} {status : InstrumentStatus}
    (h : status ∈ collection.eventType.acceptingStates) :
    collection.instrumentStatus = status ∨
      collection.instrumentStatus ∈ instrumentEdges status := by
  revert h
  unfold PaymentLinkCollection.instrumentStatus
  cases collection.eventType with
  | paid => cases status <;> decide
  | partiallyPaid => cases status <;> decide

/-- The instrument's trigger and checks admit a collection whose clock is not behind. -/
theorem RecoveryInstrument.admits_collect_iff {target : LinkTarget}
    {collection : PaymentLinkCollection} {referenceId : String} {now : Timestamp}
    (h : target.refusal collection referenceId = none) :
    target.instrument.admits (target.instrument.collect collection now) = true ↔
      reconciledForward target.instrument.lastReconciledAt (some now) = true := by
  obtain ⟨hexact, hstatus, hless, hrefunded, -⟩ := LinkTarget.refusal_eq_none_iff.mp h
  have hexact := LinkTarget.exact_iff.mp hexact
  have hedge := LinkEventType.mem_edges hstatus
  have honce : ∀ (old : Option String) (new : String),
      writtenOnce old (old.or (some new)) = true := by
    intro old new
    cases old with
    | none => rfl
    | some id => simp [writtenOnce]
  have hlink : writtenOnce target.instrument.providerPaymentLinkId
      target.instrument.providerPaymentLinkId = true := by
    simp [writtenOnce]
  have hcollection :
      (target.instrument.collect collection now).toInstrumentRow.collectionCheck = true := by
    have hamount := hexact.amount
    have hpositive := collection.positive
    unfold InstrumentRow.collectionCheck
    cases hevent : collection.eventType with
    | paid =>
      have hwhole := collection.whole hevent
      simp [RecoveryInstrument.collect, PaymentLinkCollection.instrumentStatus, hevent, hamount,
        hwhole]
    | partiallyPaid =>
      have hpart := collection.part hevent
      simp [RecoveryInstrument.collect, PaymentLinkCollection.instrumentStatus, hevent, hamount,
        hpositive, hpart]
  have hprovider :
      (target.instrument.collect collection now).toInstrumentRow.providerIdCheck = true := by
    simp [InstrumentRow.providerIdCheck, RecoveryInstrument.collect, hexact.link]
  unfold RecoveryInstrument.admits
  rw [hcollection, hprovider]
  simp only [RecoveryInstrument.collect, honce, hlink, hless, hrefunded, hedge, Nat.zero_le,
    decide_true, Bool.and_true, Bool.true_and, ← Bool.decide_or]

namespace Ledger

variable {ledger after : Ledger} {target : LinkTarget} {collection : PaymentLinkCollection}
  {referenceId : String} {occurredAt now : Timestamp}

/-- A collection that was planned is carried out when the triggers admit it. -/
theorem applyLink_ok_iff (hkeyed : ledger.Keyed)
    (h : ledger.Collectible target collection referenceId) :
    ledger.applyLink (ledger.linkPlan target collection) occurredAt now = .ok after ↔
      target.Admitted collection (ledger.originalMoney target.order)
          (ledger.collectionTotal target collection) now ∧
        after = ledger.afterLink target collection occurredAt now := by
  obtain ⟨hexact, -, -, -, horiginal⟩ := LinkTarget.refusal_eq_none_iff.mp h.accepted
  have hexact := LinkTarget.exact_iff.mp hexact
  obtain ⟨hmem, -, hcase, hfound, hlogical, hcurrency, -, horderCurrency, -⟩ :=
    linkTarget_eq_some h.found
  have hid : target.order.id = target.instrument.logicalOrderId := Table.key_of_find hfound
  have horder : ledger.order target.order.id = some target.order := by
    rw [hid]
    exact hfound
  have hinstrument : Table.find RecoveryInstrument.id target.instrument.id
      ledger.recoveryInstruments = some target.instrument :=
    Table.find_of_mem hkeyed.instruments hmem
  have hcaseId : target.recoveryCase.id = target.instrument.recoveryCaseId :=
    Table.key_of_find hcase
  have hadmits := LogicalOrder.admits_project occurredAt h.countable.due
    h.countable.positive h.forward horiginal
  have hfits : isOrderCase target.order target.recoveryCase = true := by
    simp [isOrderCase, hid, hlogical, hcurrency, horderCurrency]
  -- the case updates are those of the one case of the instrument
  let written : Ledger :=
    { ledger.afterLink target collection occurredAt now with
      recoveryCases := ledger.recoveryCases }
  have hcases : written.applyCases target.order now
      ((ledger.linkPlan target collection).caseTransition.toList) = .ok after ↔
        (∀ t, linkTransition target collection (ledger.originalMoney target.order)
            (ledger.collectionTotal target collection) = some t → t.newState = .recovered →
            target.recoveryCase.observationContractVersion ≠ 0) ∧
          after = ledger.afterLink target collection occurredAt now := by
    have htodo : (ledger.linkPlan target collection).caseTransition.toList =
        [target.recoveryCase].filterMap fun _ =>
          (ledger.linkPlan target collection).caseTransition := by
      cases htransition : (ledger.linkPlan target collection).caseTransition with
      | none => simp
      | some t => simp
    have hone : ∀ c ∈ [target.recoveryCase], c ∈ written.recoveryCases ∧
        isOrderCase target.order c = true ∧
          MovesFrom (fun _ => (ledger.linkPlan target collection).caseTransition) c := by
      intro c hc
      rw [List.mem_singleton.mp hc]
      exact ⟨Table.mem_of_find hcase, hfits, movesFrom_link⟩
    have hwritten : Table.Keyed RecoveryCase.id written.recoveryCases := hkeyed.cases
    rw [htodo, applyCases_ok_iff hwritten hone (List.nodup_singleton _)]
    simp only [List.forall_mem_singleton]
    exact and_congr_left fun _ => movable_link_iff
  unfold applyLink projectRecoveryInstrument applyOrder
  simp only [bind_ok_iff, updateInstrument_ok_iff, updateOrder_ok_iff]
  constructor
  · rintro ⟨collected, ⟨row, hrow, -, hrowAdmits, rfl⟩, ordered, ⟨o, ho, -, -, rfl⟩, happlied⟩
    obtain rfl := Option.some.inj (hinstrument.symm.trans hrow)
    obtain rfl := Option.some.inj (horder.symm.trans ho)
    obtain ⟨hobserved, rfl⟩ := hcases.mp happlied
    exact ⟨⟨(RecoveryInstrument.admits_collect_iff h.accepted).mp hrowAdmits, hobserved⟩, rfl⟩
  · rintro ⟨hadmitted, rfl⟩
    refine ⟨_, ⟨target.instrument, hinstrument, ?_,
      (RecoveryInstrument.admits_collect_iff h.accepted).mpr hadmitted.clock, rfl⟩, _,
      ⟨target.order, horder, ?_, hadmits, rfl⟩, hcases.mpr ⟨hadmitted.observed, rfl⟩⟩
    · have hreference := hexact.reference.trans hexact.collectionReference.symm
      simp only [linkPlan, hcaseId, hid, hexact.link, hreference, hexact.amount, hexact.currency,
        decide_true, Bool.true_and]
      exact Bool.and_eq_true_iff.mpr ⟨hexact.order, hexact.payment⟩
    · simp [linkPlan]

end Ledger

end Retrywise.ControlPlane
