import Retrywise.Domain.Progress

/-!
# Money truth and the workflow

A case has two state machines that money moves jointly. `MoneyTruth` is what
ties them together in every reachable case, and `Forward` is how they move along
any run: payment truth only gains rank, a closed case stays closed, and a
duplicate review is final (`moneyTruth_forward`).

Two laws about late provider events rest on it. `lateSuccess`: a success or a
duplicate of a started case is accepted, unless the payment truth is `EXCEPTION`,
which no command leaves. `captures_do_not_commute`: of the two captures of one
order, link first and original second ends in duplicate review, but after the
original the capture of the link is refused. `record_recovery_paid` has a branch
for that order, behind a check that an accepted original payment always fails.
-/

namespace Retrywise.Domain

open Retrywise.Foundation

/-- Payment states from no truth to an exception. -/
def CanonicalPaymentState.rank : CanonicalPaymentState → Nat
  | .unknown => 0
  | .unpaid => 1
  | .authorized => 2
  | .partiallyPaid => 3
  | .paid => 4
  | .overpaid => 5
  | .exception => 6

/-- The edges of the payment graph are the gains in rank. -/
theorem mem_paymentTransitions_iff {current target : CanonicalPaymentState} :
    target ∈ paymentTransitions current ↔ current.rank < target.rank := by
  cases current <;> cases target <;> decide

/-- Below `PAID`, a payment is an edge away. -/
theorem paid_mem_paymentTransitions {current : CanonicalPaymentState} (hpaid : current ≠ .paid)
    (hoverpaid : current ≠ .overpaid) (hexception : current ≠ .exception) :
    .paid ∈ paymentTransitions current := by
  rw [mem_paymentTransitions_iff]
  revert hpaid hoverpaid hexception
  cases current <;> decide

/-- The states that close a case are the ones that are not open. -/
theorem mem_closed_iff {state : RecoveryState} :
    state ∈ collectionTerminalStates ↔ state ∉ nonterminalRecoveryStates := by
  cases state <;> decide

/-- No payment state but itself is reachable from `EXCEPTION`. -/
theorem validatePaymentTransition_exception {target : CanonicalPaymentState}
    (hne : target ≠ .exception) : validatePaymentTransition .exception target =
      .error (.invalidTransition "payment" "exception" target.value) :=
  validateTransition_error (Ne.symm hne) (by simp [paymentTransitions])

/-- What the two states of a case say about each other. -/
structure MoneyTruth (a : AggregateFields) : Prop where
  paid : a.paymentState = .paid → a.state ∈ collectionTerminalStates
  overpaid : a.paymentState = .overpaid → a.state = .duplicateReview
  collected : a.state = .recovered ∨ a.state = .suppressedPaid →
    a.paymentState = .paid ∨ a.paymentState = .exception
  duplicate : a.state = .duplicateReview →
    a.paymentState = .overpaid ∨ a.paymentState = .exception

/-- How a case may have moved since. -/
structure Forward (a b : AggregateFields) : Prop where
  payment : a.paymentState.rank ≤ b.paymentState.rank
  closed : a.state ∈ collectionTerminalStates →
    b.state ∈ collectionTerminalStates ∧ (b.state = a.state ∨ b.state = .duplicateReview)
  duplicate : a.state = .duplicateReview → b.state = .duplicateReview

theorem Forward.refl (a : AggregateFields) : Forward a a :=
  ⟨le_refl _, fun h => ⟨h, .inl rfl⟩, id⟩

theorem Forward.trans {a b c : AggregateFields} (h₁ : Forward a b) (h₂ : Forward b c) :
    Forward a c where
  payment := h₁.payment.trans h₂.payment
  closed h := by
    obtain ⟨hb, hab⟩ := h₁.closed h
    obtain ⟨hc, hbc⟩ := h₂.closed hb
    refine ⟨hc, ?_⟩
    rcases hab with hab | hdup
    · rwa [hab] at hbc
    · exact .inr (h₂.duplicate hdup)
  duplicate h := h₂.duplicate (h₁.duplicate h)

section

variable [Hashlib] {a b : AggregateFields} {t : Timestamp} {command : Command}
  {moved : Option RecoveryState}

/-! ## One step -/

theorem Effect.forward (h : Effect a t command b moved) : Forward a b where
  payment := by
    rcases h.payment_edge with hsame | hedge
    · rw [hsame]
    · exact (mem_paymentTransitions_iff.mp hedge).le
  closed hclosed := by
    obtain ⟨hb, hmove, -⟩ := h.state_admits.of_closed hclosed
    exact ⟨hb, hmove⟩
  duplicate hdup := (h.state_admits.of_closed (by rw [hdup]; decide)).2.2 hdup

omit [Hashlib] in
/-- A workflow move that does not close the case as collected keeps the tie. -/
theorem MoneyTruth.of_admits (ha : MoneyTruth a) (hpay : b.paymentState = a.paymentState)
    (hadmits : Admits a.state b.state)
    (hnew : b.state ∈ [RecoveryState.recovered, .suppressedPaid, .duplicateReview] →
      b.state = a.state) : MoneyTruth b where
  paid h := (hadmits.of_closed (ha.paid (hpay.symm.trans h))).1
  overpaid h := by
    have hdup := ha.overpaid (hpay.symm.trans h)
    exact (hadmits.of_closed (by rw [hdup]; decide)).2.2 hdup
  collected h := by
    rw [hpay]
    have hsame : b.state = a.state := hnew (by rcases h with h | h <;> simp [h])
    exact ha.collected (by rwa [hsame] at h)
  duplicate h := by
    rw [hpay]
    have hsame : b.state = a.state := hnew (by simp [h])
    exact ha.duplicate (hsame.symm.trans h)

omit [Hashlib] in
/-- A duplicate review is tied to an overpayment. -/
theorem MoneyTruth.of_duplicated (t : Timestamp) : MoneyTruth (a.duplicated t) :=
  ⟨by simp [AggregateFields.duplicated], by simp [AggregateFields.duplicated],
    by simp [AggregateFields.duplicated], by simp [AggregateFields.duplicated]⟩

theorem MoneyTruth.step (ha : MoneyTruth a) (h : Effect a t command b moved) : MoneyTruth b := by
  have hadmits := h.state_admits
  cases h with
  | reconcilePaymentTruth hedge hpaid hoverpaid =>
    -- the command refuses `PAID` and `OVERPAID`, so a closed case can only become an exception
    refine ⟨fun h => absurd h hpaid, fun h => absurd h hoverpaid, ?_, ?_⟩
    · intro hs
      rcases ha.collected hs with hp | hp
      · rw [hp] at hedge
        simp only [paymentTransitions, List.mem_cons, List.not_mem_nil, or_false] at hedge
        exact .inr (hedge.resolve_left hoverpaid)
      · rw [hp] at hedge
        exact absurd hedge (by simp [paymentTransitions])
    · intro hs
      rcases ha.duplicate hs with hp | hp
      · rw [hp] at hedge
        simp only [paymentTransitions, List.mem_singleton] at hedge
        exact .inr hedge
      · rw [hp] at hedge
        exact absurd hedge (by simp [paymentTransitions])
  | originalPaidOpen => exact ⟨by simp [collectionTerminalStates], by simp, by simp, by simp⟩
  | originalPaidClosed hclosed _ hedge =>
    refine ⟨fun _ => mem_closed_iff.mpr hclosed, by simp, by simp, ?_⟩
    intro hs
    rcases ha.duplicate hs with hp | hp
    · rw [hp] at hedge
      exact absurd hedge (by decide)
    · rw [hp] at hedge
      exact absurd hedge (by decide)
  | recoveryPaid => exact ⟨by simp [collectionTerminalStates], by simp, by simp, by simp⟩
  | originalPaidTwice => exact .of_duplicated t
  | recoveryPaidTwice => exact .of_duplicated t
  | duplicateCollection => exact .of_duplicated t
  | updateIncidentState => exact ha.of_admits rfl hadmits fun _ => rfl
  | @recordInternalDecision p =>
    refine ha.of_admits rfl hadmits ?_
    show RecoveryAggregate.internalTarget p.actionType ∈ _ → _
    cases p.actionType <;> simp [RecoveryAggregate.internalTarget]
  | @recordActiveExpired budget target htarget =>
    refine ha.of_admits rfl hadmits ?_
    rw [htarget]
    cases budget <;> simp
  | _ => exact ha.of_admits rfl hadmits (by simp)

end

/-! ## Along a run -/

section

variable [Hashlib]

theorem moneyTruth_of_run {init a : RecoveryAggregate} {steps : List CaseStep}
    (hfresh : Fresh init) (hrun : recovery.Run init steps a) : MoneyTruth a.toAggregateFields := by
  have h0 : MoneyTruth init.toAggregateFields := by
    obtain ⟨_, _, _, _, _, hfields⟩ := hfresh.fields
    rw [hfields]
    exact ⟨by simp, by simp, by simp, by simp⟩
  exact run_invariant h0 (fun hI heff _ => hI.step heff) hrun

theorem forward_of_run {a b : RecoveryAggregate} {steps : List CaseStep}
    (hrun : recovery.Run a steps b) : Forward a.toAggregateFields b.toAggregateFields := by
  refine hrun.relates (R := fun a b => Forward a.toAggregateFields b.toAggregateFields)
    (fun a => .refl _) ?_ ?_
  · intro a b c h₁ h₂
    exact Forward.trans h₁ h₂
  intro s h
  cases (takes_cases h).2 with
  | idle _ hpost =>
    rw [hpost]
    exact .refl _
  | effective _ heff => exact heff.forward

/-- **Money truth and workflow stay consistent and monotone**: at every moment of
a run from a fresh case, and from any moment to any later one. -/
theorem moneyTruth_forward {init a b : RecoveryAggregate} {past steps : List CaseStep}
    (hfresh : Fresh init) (hpast : recovery.Run init past a) (hrun : recovery.Run a steps b) :
    MoneyTruth a.toAggregateFields ∧ MoneyTruth b.toAggregateFields ∧
      Forward a.toAggregateFields b.toAggregateFields :=
  ⟨moneyTruth_of_run hfresh hpast, moneyTruth_of_run hfresh (hpast.append hrun),
    forward_of_run hrun⟩

theorem Reachable.moneyTruth {a : RecoveryAggregate} (h : Reachable a) :
    MoneyTruth a.toAggregateFields := by
  obtain ⟨init, steps, hfresh, hrun⟩ := h
  exact moneyTruth_of_run hfresh hrun

end

/-- The sample case on its way, and at its end. -/
theorem moneyTruth_forward_active :
    ∃ b : RecoveryAggregate, b.state = .active ∧ MoneyTruth sampleCase.toAggregateFields ∧
      MoneyTruth b.toAggregateFields ∧
      Forward sampleCase.toAggregateFields b.toAggregateFields := by
  obtain ⟨steps, b, hrun, -, hb⟩ := exists_run_active fresh_sampleCase sampleScenario_suits
  exact ⟨b, hb.state_eq, moneyTruth_forward fresh_sampleCase .start hrun⟩

/-! ## Late success -/

section

variable [Hashlib] {a : RecoveryAggregate} {atTime : Datetime} {t : Timestamp} {evidence : String}

/-- A success of an open case suppresses it. -/
theorem recordOriginalPaid_accepts_open (ha : MoneyTruth a.toAggregateFields)
    (hstarted : a.state ≠ .dormant) (hopen : a.state ∈ nonterminalRecoveryStates)
    (hpay : a.paymentState ≠ .exception) (hevidence : isIdentifier evidence = true)
    (ht : a.Timely atTime t) :
    ∃ c, a.recordOriginalPaid a.version atTime evidence = .ok c ∧
      c.aggregate.state = .suppressedPaid := by
  have hpaid : a.paymentState ≠ .paid := fun h => mem_closed_iff.mp (ha.paid h) hopen
  have hover : a.paymentState ≠ .overpaid := by
    intro h
    rw [ha.overpaid h] at hopen
    exact absurd hopen (by decide)
  have hedge := paid_mem_paymentTransitions hpaid hover hpay
  obtain ⟨b, event, hb, hexec⟩ := exists_execute_of_effect
    (.originalPaidOpen hopen hstarted (.inr hedge)) (Command.wellFormed_singleton rfl hevidence) ht
  exact ⟨_, hexec, by rw [hb]⟩

/-- A success of a recovered case is a second capture. -/
theorem recordOriginalPaid_accepts_recovered (ha : MoneyTruth a.toAggregateFields)
    (hrecovered : a.state = .recovered) (hpay : a.paymentState ≠ .exception)
    (hevidence : isIdentifier evidence = true) (ht : a.Timely atTime t) :
    ∃ c, a.recordOriginalPaid a.version atTime evidence = .ok c ∧
      c.aggregate.state = .duplicateReview := by
  have hpaid : a.paymentState = .paid := (ha.collected (.inl hrecovered)).resolve_right hpay
  have hedge : .overpaid ∈ paymentTransitions a.paymentState := by rw [hpaid]; decide
  obtain ⟨b, event, hb, hexec⟩ := exists_execute_of_effect
    (.originalPaidTwice hrecovered (.inr hedge)) (Command.wellFormed_singleton rfl hevidence) ht
  exact ⟨_, hexec, by rw [hb]; rfl⟩

/-- A success of another closed case leaves its state, and may leave the case. -/
theorem recordOriginalPaid_accepts_closed (ha : MoneyTruth a.toAggregateFields)
    (hclosed : a.state ∈ collectionTerminalStates) (hrecovered : a.state ≠ .recovered)
    (hpay : a.paymentState ≠ .exception) (hevidence : isIdentifier evidence = true)
    (ht : a.Timely atTime t) :
    ∃ c, a.recordOriginalPaid a.version atTime evidence = .ok c ∧
      c.aggregate.state = a.state := by
  have hargs : (Command.recordOriginalPaid evidence).WellFormed :=
    Command.wellFormed_singleton rfl hevidence
  by_cases hidle : a.paymentState = .paid ∨ (a.state = .duplicateReview ∧
      a.paymentState = .overpaid)
  · exact ⟨_, execute_of_idle atTime (.originalPaid hclosed hrecovered hidle) hargs, rfl⟩
  · have hpaid : a.paymentState ≠ .paid := fun h => hidle (.inl h)
    have hover : a.paymentState ≠ .overpaid := fun h => hidle (.inr ⟨ha.overpaid h, h⟩)
    have hedge := paid_mem_paymentTransitions hpaid hover hpay
    obtain ⟨b, event, hb, hexec⟩ := exists_execute_of_effect
      (.originalPaidClosed (mem_closed_iff.mp hclosed) hrecovered hedge) hargs ht
    exact ⟨_, hexec, by rw [hb]; rfl⟩

/-- An original payment of a started case is accepted and closes it, whatever the
two states are, short of an exception. -/
theorem recordOriginalPaid_accepts (ha : MoneyTruth a.toAggregateFields)
    (hstarted : a.state ≠ .dormant) (hpay : a.paymentState ≠ .exception)
    (hevidence : isIdentifier evidence = true) (ht : a.Timely atTime t) :
    ∃ c, a.recordOriginalPaid a.version atTime evidence = .ok c ∧ c.aggregate.collectionClosed := by
  unfold RecoveryAggregate.collectionClosed
  by_cases hopen : a.state ∈ nonterminalRecoveryStates
  · obtain ⟨c, hc, hstate⟩ := recordOriginalPaid_accepts_open ha hstarted hopen hpay hevidence ht
    exact ⟨c, hc, by rw [hstate]; decide⟩
  · by_cases hrecovered : a.state = .recovered
    · obtain ⟨c, hc, hstate⟩ :=
        recordOriginalPaid_accepts_recovered ha hrecovered hpay hevidence ht
      exact ⟨c, hc, by rw [hstate]; decide⟩
    · have hclosed := mem_closed_iff.mpr hopen
      obtain ⟨c, hc, hstate⟩ :=
        recordOriginalPaid_accepts_closed ha hclosed hrecovered hpay hevidence ht
      exact ⟨c, hc, by rw [hstate]; exact hclosed⟩

theorem recordDuplicateCollection_accepts (hstarted : a.state ≠ .dormant)
    (hpay : a.paymentState ≠ .exception) (hevidence : isIdentifier evidence = true)
    (ht : a.Timely atTime t) :
    ∃ c, a.recordDuplicateCollection a.version atTime evidence = .ok c ∧
      c.aggregate.state = .duplicateReview := by
  have hargs : (Command.recordDuplicateCollection evidence).WellFormed :=
    Command.wellFormed_singleton rfl hevidence
  by_cases hsame : a.state = .duplicateReview ∧ a.paymentState = .overpaid
  · exact ⟨_, execute_of_idle atTime (.duplicateCollection hsame.1 hsame.2) hargs,
      hsame.1⟩
  · have hedge : a.paymentState = .overpaid ∨ .overpaid ∈ paymentTransitions a.paymentState := by
      revert hpay
      cases a.paymentState <;> decide
    obtain ⟨b, event, hb, hexec⟩ :=
      exists_execute_of_effect (.duplicateCollection hstarted hedge hsame) hargs ht
    refine ⟨_, hexec, ?_⟩
    show b.state = _
    rw [hb]
    rfl

omit [Hashlib] in
theorem recordDuplicateCollection_exception (atTime : Datetime) (hpay : a.paymentState = .exception)
    (hevidence : isIdentifier evidence = true) :
    a.recordDuplicateCollection a.version atTime evidence =
      .error (.invalidTransition "payment" "exception" "overpaid") := by
  rw [RecoveryAggregate.recordDuplicateCollection,
    bind_of_ok RecoveryAggregate.requireVersion_self,
    bind_of_ok (RecoveryAggregate.requireIdentifier_self hevidence), hpay,
    bind_of_error (validatePaymentTransition_exception (by decide))]
  rfl

omit [Hashlib] in
theorem recordOriginalPaid_exception (atTime : Datetime) (hstarted : a.state ≠ .dormant)
    (hpay : a.paymentState = .exception) (hevidence : isIdentifier evidence = true) :
    a.recordOriginalPaid a.version atTime evidence =
      .error (.invalidTransition "payment" "exception"
        (if a.state = .recovered then "overpaid" else "paid")) := by
  have hdup : ¬(a.state = .duplicateReview ∧ a.paymentState = .overpaid) := by
    rw [hpay]
    exact fun h => nomatch h.2
  rw [RecoveryAggregate.recordOriginalPaid, bind_of_ok RecoveryAggregate.requireVersion_self,
    bind_of_ok (RecoveryAggregate.requireIdentifier_self hevidence),
    bind_of_ok (raiseIf_of_not _ hstarted), if_neg hdup]
  by_cases hrecovered : a.state = .recovered
  · rw [if_pos hrecovered, if_pos hrecovered]
    exact recordDuplicateCollection_exception atTime hpay hevidence
  · rw [if_neg hrecovered, if_neg hrecovered, hpay,
      bind_of_error (validatePaymentTransition_exception (by decide))]
    rfl

/-- **Late success is never refused, short of an exception**: a success closes
every started case and a duplicate opens its review. With payment truth
`EXCEPTION` both commands raise. -/
theorem lateSuccess (h : Reachable a) (hstarted : a.state ≠ .dormant)
    (hevidence : isIdentifier evidence = true) (ht : a.Timely atTime t) :
    (a.paymentState ≠ .exception →
      (∃ c, a.recordOriginalPaid a.version atTime evidence = .ok c ∧
        c.aggregate.collectionClosed) ∧
      ∃ c, a.recordDuplicateCollection a.version atTime evidence = .ok c ∧
        c.aggregate.state = .duplicateReview) ∧
    (a.paymentState = .exception →
      a.recordOriginalPaid a.version atTime evidence =
        .error (.invalidTransition "payment" "exception"
          (if a.state = .recovered then "overpaid" else "paid")) ∧
      a.recordDuplicateCollection a.version atTime evidence =
        .error (.invalidTransition "payment" "exception" "overpaid")) := by
  constructor
  · intro hpay
    exact ⟨recordOriginalPaid_accepts h.moneyTruth hstarted hpay hevidence ht,
      recordDuplicateCollection_accepts hstarted hpay hevidence ht⟩
  · intro hpay
    exact ⟨recordOriginalPaid_exception atTime hstarted hpay hevidence,
      recordDuplicateCollection_exception atTime hpay hevidence⟩

end

/-- A late success of the sample case with its link active. -/
theorem lateSuccess_active :
    ∃ b : RecoveryAggregate, b.state = .active ∧
      (∃ c, b.recordOriginalPaid b.version sampleDeadline.toDatetime "evd_2" = .ok c ∧
        c.aggregate.collectionClosed) ∧
      ∃ c, b.recordDuplicateCollection b.version sampleDeadline.toDatetime "evd_2" = .ok c ∧
        c.aggregate.state = .duplicateReview := by
  obtain ⟨steps, b, hrun, -, hb⟩ := exists_run_active fresh_sampleCase sampleScenario_suits
  have hreachable : Reachable b := ⟨_, _, fresh_sampleCase, hrun⟩
  have hevidence : isIdentifier "evd_2" = true := rfl
  have hsuccess := lateSuccess hreachable (by rw [hb.state_eq]; decide) hevidence hb.timely
  exact ⟨b, hb.state_eq, hsuccess.1 (by rw [hb.payment_eq]; decide)⟩

/-- A late success of the sample case after a provider conflict is refused. -/
theorem lateSuccess_refused :
    ∃ steps b, Fresh sampleCase ∧ recovery.Run sampleCase steps b ∧
      steps.map Step.cmd = sampleScenario.toReconciled .exception ∧ b.state = .observing ∧
      b.paymentState = .exception ∧ b.Timely sampleDeadline.toDatetime sampleDeadline ∧
      b.recordOriginalPaid b.version sampleDeadline.toDatetime "evd_2" =
        .error (.invalidTransition "payment" "exception" "paid") ∧
      b.recordDuplicateCollection b.version sampleDeadline.toDatetime "evd_2" =
        .error (.invalidTransition "payment" "exception" "overpaid") := by
  obtain ⟨steps, b, hrun, hcmds, hb⟩ :=
    exists_run_reconciled fresh_sampleCase sampleScenario_suits .exception (by decide)
  have hevidence : isIdentifier "evd_2" = true := rfl
  have horiginal := recordOriginalPaid_exception sampleDeadline.toDatetime
    (by rw [hb.state_eq]; decide) hb.payment_eq hevidence
  rw [hb.state_eq] at horiginal
  exact ⟨steps, b, fresh_sampleCase, hrun, hcmds, hb.state_eq, hb.payment_eq, hb.timely, horiginal,
    recordDuplicateCollection_exception _ hb.payment_eq hevidence⟩

/-! ## Two captures -/

/-- Both captures are on record: the case is under duplicate review, overpaid,
with no action left. -/
def AggregateChange.Duplicate (c : AggregateChange) : Prop :=
  c.aggregate.state = .duplicateReview ∧ c.aggregate.paymentState = .overpaid ∧
    c.aggregate.activeActionKey = none

/-- Original first, then the link, at `first` and `second`. -/
def OriginalThenRecovery (a : RecoveryAggregate) (first second : Datetime)
    (original link : String) (d : AggregateChange) : Prop :=
  ∃ c, a.recordOriginalPaid a.version first original = .ok c ∧
    c.aggregate.recordRecoveryPaid c.aggregate.version second link = .ok d

/-- Link first, then the original. -/
def RecoveryThenOriginal (a : RecoveryAggregate) (first second : Datetime)
    (original link : String) (d : AggregateChange) : Prop :=
  ∃ c, a.recordRecoveryPaid a.version first link = .ok c ∧
    c.aggregate.recordOriginalPaid c.aggregate.version second original = .ok d

/-- The two captures of a case commute: in either order both are accepted and
lead to duplicate review. -/
def CapturesCommute (a : RecoveryAggregate) (first second : Datetime)
    (original link : String) : Prop :=
  (∃ d, OriginalThenRecovery a first second original link d ∧ d.Duplicate) ∧
    ∃ d, RecoveryThenOriginal a first second original link d ∧ d.Duplicate

/-- A refused second capture is one order that does not succeed. -/
theorem not_capturesCommute_of_refused {a : RecoveryAggregate} {first second : Datetime}
    {original link : String} {c : AggregateChange} {e : DomainError}
    (hc : a.recordOriginalPaid a.version first original = .ok c)
    (hrefused : c.aggregate.recordRecoveryPaid c.aggregate.version second link = .error e) :
    ¬CapturesCommute a first second original link := by
  intro ⟨⟨d, ⟨c', hc', hd⟩, _⟩, _⟩
  obtain rfl := Except.ok.inj (hc.symm.trans hc')
  exact absurd (hrefused.symm.trans hd) (by simp)

section

variable [Hashlib] {a : RecoveryAggregate} {first second : Datetime} {t₁ t₂ : Timestamp}
  {original link : String}

/-- An active case an original payment is accepted for is closed by it, and then
refuses the capture of its link. -/
theorem recordRecoveryPaid_after_original (second : Datetime) (hactive : a.state = .active)
    (hedge : .paid ∈ paymentTransitions a.paymentState)
    (horiginal : isIdentifier original = true) (hlink : isIdentifier link = true)
    (ht : a.Timely first t₁) :
    ∃ c, a.recordOriginalPaid a.version first original = .ok c ∧
      c.aggregate.state = .suppressedPaid ∧
      c.aggregate.recordRecoveryPaid c.aggregate.version second link =
        .error (.invalidTransition "recovery" "suppressed_paid" "recovered") := by
  have hopen : a.state ∈ nonterminalRecoveryStates := by rw [hactive]; decide
  have hstarted : a.state ≠ .dormant := by rw [hactive]; decide
  obtain ⟨b, event, hb, hexec⟩ := exists_execute_of_effect
    (.originalPaidOpen hopen hstarted (.inr hedge))
    (Command.wellFormed_singleton rfl horiginal) ht
  have hstate : b.state = .suppressedPaid := by rw [hb]
  have hnot : ¬(b.state = .recovered ∧ b.paymentState = .paid) := by
    rw [hstate]
    exact fun h => nomatch h.1
  have hinactive : b.state ≠ .active := by rw [hstate]; decide
  refine ⟨_, hexec, hstate, ?_⟩
  -- not the repetition of a recovery, so the state check comes next, and raises
  show b.recordRecoveryPaid b.version second link = _
  rw [RecoveryAggregate.recordRecoveryPaid, bind_of_ok RecoveryAggregate.requireVersion_self,
    bind_of_ok (RecoveryAggregate.requireIdentifier_self hlink), if_neg hnot,
    bind_of_error (raiseIf_of _ hinactive), hstate]
  rfl

/-- The other order ends in duplicate review. -/
theorem recordOriginalPaid_after_recovery (hactive : a.state = .active)
    (hedge : .paid ∈ paymentTransitions a.paymentState)
    (horiginal : isIdentifier original = true) (hlink : isIdentifier link = true)
    (ht : a.Timely first t₁) (ht₂ : requireUtc second "occurred_at" = .ok t₂) (hle : t₁ ≤ t₂) :
    ∃ d, RecoveryThenOriginal a first second original link d ∧ d.Duplicate := by
  obtain ⟨b, event, hb, hexec⟩ := exists_execute_of_effect (.recoveryPaid hactive hedge)
    (Command.wellFormed_singleton rfl hlink) ht
  have hrecovered : b.state = .recovered := by rw [hb]
  have hpaid : b.paymentState = .paid := by rw [hb]
  have hover : .overpaid ∈ paymentTransitions b.paymentState := by rw [hpaid]; decide
  have ht' : b.Timely second t₂ := by
    refine ⟨ht₂, ?_⟩
    rw [hb]
    rintro last ⟨⟩
    exact hle
  obtain ⟨d, event', hd, hexec'⟩ := exists_execute_of_effect
    (.originalPaidTwice hrecovered (.inr hover)) (Command.wellFormed_singleton rfl horiginal) ht'
  refine ⟨_, ⟨_, hexec, hexec'⟩, ?_⟩
  show d.state = _ ∧ d.paymentState = _ ∧ d.activeActionKey = _
  rw [hd]
  exact ⟨rfl, rfl, rfl⟩

/-- **The two captures do not commute**, in any active case that is not paid yet:
link first ends in duplicate review, original first refuses the link. -/
theorem captures_do_not_commute (hactive : a.state = .active)
    (hpay : a.paymentState ∈ [.unpaid, .authorized, .partiallyPaid])
    (horiginal : isIdentifier original = true) (hlink : isIdentifier link = true)
    (ht : a.Timely first t₁) (ht₂ : requireUtc second "occurred_at" = .ok t₂) (hle : t₁ ≤ t₂) :
    ¬CapturesCommute a first second original link ∧
      (∃ d, RecoveryThenOriginal a first second original link d ∧ d.Duplicate) ∧
      ∃ c, a.recordOriginalPaid a.version first original = .ok c ∧
        c.aggregate.state = .suppressedPaid ∧
        c.aggregate.recordRecoveryPaid c.aggregate.version second link =
          .error (.invalidTransition "recovery" "suppressed_paid" "recovered") := by
  have hedge : .paid ∈ paymentTransitions a.paymentState := by
    rw [mem_paymentTransitions_iff]
    revert hpay
    cases a.paymentState <;> decide
  obtain ⟨c, hc, hstate, hrefused⟩ :=
    recordRecoveryPaid_after_original second hactive hedge horiginal hlink ht
  exact ⟨not_capturesCommute_of_refused hc hrefused,
    recordOriginalPaid_after_recovery hactive hedge horiginal hlink ht ht₂ hle,
    c, hc, hstate, hrefused⟩

end

/-- The sample case with its link active, paid twice at its deadline. -/
theorem captures_do_not_commute_active :
    ∃ b : RecoveryAggregate, b.state = .active ∧ b.paymentState = .unpaid ∧
      (∃ d, RecoveryThenOriginal b sampleDeadline.toDatetime sampleDeadline.toDatetime "evd_2"
        "evd_3" d ∧ d.Duplicate) ∧
      ¬CapturesCommute b sampleDeadline.toDatetime sampleDeadline.toDatetime "evd_2" "evd_3" := by
  obtain ⟨steps, b, hrun, -, hb⟩ := exists_run_active fresh_sampleCase sampleScenario_suits
  have horiginal : isIdentifier "evd_2" = true := rfl
  have hlink : isIdentifier "evd_3" = true := rfl
  obtain ⟨hnot, hother, -⟩ := captures_do_not_commute hb.state_eq (by rw [hb.payment_eq]; decide)
    horiginal hlink hb.timely (requireUtc_toDatetime sampleDeadline _) (le_refl _)
  exact ⟨b, hb.state_eq, hb.payment_eq, hother, hnot⟩

/-- The sample case with its link active: the original payment is accepted, and
the capture of the link is refused after it. -/
theorem captures_commute_broken :
    ∃ steps b, Fresh sampleCase ∧ recovery.Run sampleCase steps b ∧
      steps.map Step.cmd = sampleScenario.toActive ∧ b.state = .active ∧
      b.paymentState = .unpaid ∧ b.Timely sampleDeadline.toDatetime sampleDeadline ∧
      ¬CapturesCommute b sampleDeadline.toDatetime sampleDeadline.toDatetime "evd_2" "evd_3" := by
  obtain ⟨steps, b, hrun, hcmds, hb⟩ := exists_run_active fresh_sampleCase sampleScenario_suits
  have hedge : .paid ∈ paymentTransitions b.paymentState := by rw [hb.payment_eq]; decide
  have horiginal : isIdentifier "evd_2" = true := rfl
  have hlink : isIdentifier "evd_3" = true := rfl
  obtain ⟨c, hc, -, hrefused⟩ := recordRecoveryPaid_after_original sampleDeadline.toDatetime
    hb.state_eq hedge horiginal hlink hb.timely
  exact ⟨steps, b, fresh_sampleCase, hrun, hcmds, hb.state_eq, hb.payment_eq, hb.timely,
    not_capturesCommute_of_refused hc hrefused⟩

end Retrywise.Domain
