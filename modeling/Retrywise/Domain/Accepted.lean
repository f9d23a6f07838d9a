import Retrywise.Domain.Effect

/-!
# Every accepted request is one of the branches

`execute_accepted`: the nineteen commands, read backwards one by one. Each
command has one lemma; a lemma peels the command's guards off a successful
result and hands the facts to the branch of `Effect` or `Idle` that was taken.
The commands are not unfolded anywhere else in this direction.
-/

namespace Retrywise.Domain

open Retrywise.Foundation

variable {a : RecoveryAggregate} {v : Int} {atTime : Datetime} {c : AggregateChange}

/-! ## Assembling a result -/

private theorem accepted_of_change [Hashlib] {command : Command} {eventType : String}
    {payload : List (String × Json)} {changes : AggregateFields → AggregateFields}
    (moved : Option RecoveryState) (hv : v = a.version)
    (h : a.change eventType atTime payload changes = .ok c)
    (hpayload : (Json.obj payload).get? "workflow_to" =
      moved.map fun target => Json.str target.value)
    (heffect : ∀ t, a.Timely atTime t →
      Effect a.toAggregateFields t command (changes (a.advanced t)) moved) :
    Accepted a ⟨v, atTime, command⟩ c := by
  obtain ⟨t, htimely, hb, hevents⟩ := RecoveryAggregate.change_accepted h
  obtain ⟨b, events⟩ := c
  subst hevents
  exact .effective hv htimely (hb ▸ heffect t htimely) rfl rfl hpayload

private theorem accepted_of_workflowChange [Hashlib] {command : Command} {target : RecoveryState}
    {eventType : String} {payload : List (String × Json)}
    {changes : AggregateFields → AggregateFields} (hv : v = a.version)
    (h : a.workflowChange target eventType atTime payload changes = .ok c)
    (hpayload : ∀ m ∈ payload, m.1 ≠ "workflow_to")
    (heffect : ∀ t, a.Timely atTime t → (target = .assessing → a.Elapsed t) →
      Effect a.toAggregateFields t command (changes { a.advanced t with state := target })
        (some target)) :
    Accepted a ⟨v, atTime, command⟩ c := by
  obtain ⟨t, htimely, helapsed, hb, hevents⟩ := RecoveryAggregate.workflowChange_accepted h
  obtain ⟨b, events⟩ := c
  subst hevents
  refine .effective hv htimely (hb ▸ heffect t htimely helapsed) rfl rfl ?_
  have hskip : payload.find? (fun m => decide (m.1 = "workflow_to")) = none :=
    List.find?_eq_none.mpr fun m hm => by simpa using hpayload m hm
  simp [AggregateEvent.workflowTo, Json.get?, List.find?_append, hskip]

/-- Two normalizations of one command time agree. -/
private theorem RecoveryAggregate.Timely.elapsed {t t' : Timestamp} (h : a.Timely atTime t)
    (ht : requireUtc atTime "occurred_at" = .ok t') (helapsed : a.Elapsed t') : a.Elapsed t := by
  obtain rfl : t = t' := Except.ok.inj (h.1.symm.trans ht)
  exact helapsed

/-! ## Observation and truth -/

theorem observeFailure_accepted [Hashlib] {event : String} {extend : Option Datetime}
    (h : a.observeFailure v atTime event extend = .ok c) :
    Accepted a ⟨v, atTime, .observeFailure event extend⟩ c := by
  simp only [RecoveryAggregate.observeFailure, bind_ok_iff,
    RecoveryAggregate.requireVersion_ok_iff, requireIdentifier_ok_iff,
    RecoveryAggregate.requireRecoveryTransition_ok_iff, exists_const] at h
  obtain ⟨hv, _, -, hadmits, t, ht, deadline, hdeadline, h⟩ := h
  have hsource : a.state = .dormant ∨ a.state = .observing := by
    revert hadmits
    cases a.state <;> decide
  obtain ⟨t', ⟨ht', hmono⟩, hb, hevents⟩ := RecoveryAggregate.change_accepted h
  -- the command normalized its time before it handed it on
  obtain rfl : t = t' := by simpa using ht'
  obtain ⟨b, events⟩ := c
  subst hevents
  have heffect : Effect a.toAggregateFields t (.observeFailure event extend)
      b.toAggregateFields none := by
    rw [show b.toAggregateFields = _ from hb]
    exact .observeFailure hsource hdeadline
  exact .effective hv ⟨ht, hmono⟩ heffect rfl rfl
    (by simp [AggregateEvent.workflowTo, Json.get?])

theorem reconcilePaymentTruth_accepted [Hashlib] {target : CanonicalPaymentState}
    {evidence : String} (h : a.reconcilePaymentTruth v atTime target evidence = .ok c) :
    Accepted a ⟨v, atTime, .reconcilePaymentTruth target evidence⟩ c := by
  simp only [RecoveryAggregate.reconcilePaymentTruth, bind_ok_iff,
    RecoveryAggregate.requireVersion_ok_iff, requireIdentifier_ok_iff, raiseIf_ok_iff,
    exists_const, not_or] at h
  obtain ⟨hv, _, -, ⟨hpaid, hoverpaid⟩, changed, hchanged, h⟩ := h
  rcases validatePaymentTransition_ok_iff.mp hchanged with ⟨rfl, rfl⟩ | ⟨-, hedge, rfl⟩
  · obtain rfl := Except.ok.inj h
    exact .idle hv (.reconcilePaymentTruth hpaid hoverpaid)
  · rw [if_pos rfl] at h
    refine accepted_of_change none hv h ?_
      fun t _ => .reconcilePaymentTruth hedge hpaid hoverpaid
    simp [Json.get?]

theorem updateIncidentState_accepted [Hashlib] {target : IncidentState} {evidence : String}
    (h : a.updateIncidentState v atTime target evidence = .ok c) :
    Accepted a ⟨v, atTime, .updateIncidentState target evidence⟩ c := by
  simp only [RecoveryAggregate.updateIncidentState, bind_ok_iff,
    RecoveryAggregate.requireVersion_ok_iff, requireIdentifier_ok_iff, exists_const] at h
  obtain ⟨hv, _, -, changed, hchanged, h⟩ := h
  rcases validateTransition_ok_iff.mp hchanged with ⟨rfl, rfl⟩ | ⟨-, hedge, rfl⟩
  · obtain rfl := Except.ok.inj h
    exact .idle hv .updateIncidentState
  · rw [if_pos rfl] at h
    refine accepted_of_change none hv h ?_ fun t _ => .updateIncidentState hedge
    simp [Json.get?]

/-! ## Assessment -/

theorem markReadyForEvaluation_accepted [Hashlib] (h : a.markReadyForEvaluation v atTime = .ok c) :
    Accepted a ⟨v, atTime, .markReadyForEvaluation⟩ c := by
  simp only [RecoveryAggregate.markReadyForEvaluation, bind_ok_iff,
    RecoveryAggregate.requireVersion_ok_iff, RecoveryAggregate.requireRecoveryTransition_ok_iff,
    raiseIf_ok_iff, exists_const, ne_eq, not_not] at h
  obtain ⟨hv, hadmits, hunpaid, h⟩ := h
  exact accepted_of_workflowChange hv h (by simp)
    fun t _ helapsed => .markReadyForEvaluation hadmits hunpaid (helapsed rfl)

theorem wait_accepted [Hashlib] {reason : String} (h : a.wait v atTime reason = .ok c) :
    Accepted a ⟨v, atTime, .wait reason⟩ c := by
  simp only [RecoveryAggregate.wait, bind_ok_iff, RecoveryAggregate.requireVersion_ok_iff,
    RecoveryAggregate.requireRecoveryTransition_ok_iff, requireIdentifier_ok_iff,
    exists_const] at h
  obtain ⟨hv, _, -, hadmits, h⟩ := h
  exact accepted_of_workflowChange hv h (by simp) fun t _ _ => .wait hadmits

theorem wake_accepted [Hashlib] (h : a.wake v atTime = .ok c) :
    Accepted a ⟨v, atTime, .wake⟩ c := by
  simp only [RecoveryAggregate.wake, bind_ok_iff, RecoveryAggregate.requireVersion_ok_iff,
    RecoveryAggregate.requireRecoveryTransition_ok_iff, raiseIf_ok_iff, exists_const, ne_eq,
    not_not] at h
  obtain ⟨hv, hadmits, hunpaid, h⟩ := h
  exact accepted_of_workflowChange hv h (by simp)
    fun t _ helapsed => .wake hadmits hunpaid (helapsed rfl)

/-! ## Decisions -/

theorem requestApproval_accepted [Hashlib] {p : ActionProposal} {d : GateDecision}
    (h : a.requestApproval v atTime p d = .ok c) :
    Accepted a ⟨v, atTime, .requestApproval p d⟩ c := by
  simp only [RecoveryAggregate.requestApproval, bind_ok_iff,
    RecoveryAggregate.requireVersion_ok_iff, raiseIf_ok_iff, exists_const, ne_eq, not_not, not_or,
    RecoveryAggregate.requireObservationElapsed_ok_iff,
    RecoveryAggregate.requireProposalBinding_ok_iff, if_true] at h
  obtain ⟨hv, hstate, ⟨t', ht', helapsed⟩, ⟨hm, hc, hdv⟩, _, hgate, ⟨hsome, hreasons⟩, htype,
    hunpaid, h⟩ := h
  exact accepted_of_workflowChange hv h (by simp) fun t htimely _ =>
    .requestApproval hstate (htimely.elapsed ht' helapsed) hdv
      (RecoveryAggregate.bound_of_bindings hm hc hgate) hsome hreasons htype hunpaid

theorem authorizeAction_accepted [Hashlib] {p : ActionProposal} {d : GateDecision}
    (h : a.authorizeAction v atTime p d = .ok c) :
    Accepted a ⟨v, atTime, .authorizeAction p d⟩ c := by
  simp only [RecoveryAggregate.authorizeAction, bind_ok_iff,
    RecoveryAggregate.requireVersion_ok_iff, raiseIf_ok_iff, exists_const, ne_eq, not_not,
    RecoveryAggregate.requireObservationElapsed_ok_iff,
    RecoveryAggregate.requireProposalBinding_ok_iff, decide_eq_true_eq,
    RecoveryAggregate.requireRecoveryTransition_ok_iff] at h
  obtain ⟨hv, hstate, ⟨t', ht', helapsed⟩, ⟨hm, hc, hdv⟩, _, hgate, htype, hunpaid, hpending, -,
    h⟩ := h
  have hsource : (a.state = .assessing ∧ p.decisionVersion = a.decisionVersion + 1) ∨
      (a.state = .approvalRequired ∧ p.decisionVersion = a.decisionVersion ∧
        a.activeActionKey = some p.actionKey ∧ a.activeProposalId = some p.proposalId) := by
    simp only [List.mem_cons, List.not_mem_nil, or_false] at hstate
    rcases hstate with hassessing | happroval
    · exact .inl ⟨hassessing, by rw [hdv, if_pos hassessing]⟩
    · have hkept := not_or.mp (not_and.mp hpending happroval)
      refine .inr ⟨happroval, ?_, not_not.mp hkept.1, not_not.mp hkept.2⟩
      rw [hdv, if_neg (by rw [happroval]; decide)]
  exact accepted_of_workflowChange hv h (by simp) fun t htimely _ =>
    .authorizeAction hsource (htimely.elapsed ht' helapsed)
      (RecoveryAggregate.bound_of_bindings hm hc hgate) htype hunpaid

theorem recordInternalDecision_accepted [Hashlib] {p : ActionProposal} {d : GateDecision}
    (h : a.recordInternalDecision v atTime p d = .ok c) :
    Accepted a ⟨v, atTime, .recordInternalDecision p d⟩ c := by
  simp only [RecoveryAggregate.recordInternalDecision, bind_ok_iff,
    RecoveryAggregate.requireVersion_ok_iff, raiseIf_ok_iff, exists_const, not_not,
    RecoveryAggregate.requireProposalBinding_ok_iff, if_true,
    RecoveryAggregate.requireRecoveryTransition_ok_iff] at h
  obtain ⟨hv, htype, ⟨hm, hc, hdv⟩, _, hgate, hadmits, h⟩ := h
  exact accepted_of_workflowChange hv h (by simp) fun t _ _ =>
    .recordInternalDecision htype hdv (RecoveryAggregate.bound_of_bindings hm hc hgate) hadmits

theorem beginExecution_accepted [Hashlib] {p : ActionProposal} {d : GateDecision}
    (h : a.beginExecution v atTime p d = .ok c) :
    Accepted a ⟨v, atTime, .beginExecution p d⟩ c := by
  simp only [RecoveryAggregate.beginExecution, bind_ok_iff,
    RecoveryAggregate.requireVersion_ok_iff, raiseIf_ok_iff, exists_const, ne_eq, not_not,
    RecoveryAggregate.requireObservationElapsed_ok_iff, Bool.false_eq_true, if_false,
    RecoveryAggregate.requireProposalBinding_ok_iff] at h
  obtain ⟨hv, ⟨hm, hc, hdv⟩, _, hgate, hstate, ⟨t', ht', helapsed⟩, hkey, hunpaid, h⟩ := h
  exact accepted_of_workflowChange hv h (by simp) fun t htimely _ =>
    .beginExecution hstate hdv (RecoveryAggregate.bound_of_bindings hm hc hgate)
      (htimely.elapsed ht' helapsed) hkey hunpaid

/-! ## The action's outcome -/

theorem recordActionActive_accepted [Hashlib] {key ref : String}
    (h : a.recordActionActive v atTime key ref = .ok c) :
    Accepted a ⟨v, atTime, .recordActionActive key ref⟩ c := by
  simp only [RecoveryAggregate.recordActionActive, bind_ok_iff,
    RecoveryAggregate.requireVersion_ok_iff, RecoveryAggregate.requireActiveAction_ok_iff,
    requireIdentifier_ok_iff, exists_const] at h
  obtain ⟨hv, hkey, _, -, h⟩ := h
  split at h
  next hsame =>
    obtain rfl := Except.ok.inj h
    exact .idle hv (.recordActionActive hkey hsame.1 hsame.2)
  next hsame =>
    obtain ⟨_, hadmits, h⟩ := bind_ok_iff.mp h
    rw [RecoveryAggregate.requireRecoveryTransition_ok_iff] at hadmits
    exact accepted_of_workflowChange hv h (by simp) fun t _ _ =>
      .recordActionActive hkey hadmits hsame

theorem recordActionUncertain_accepted [Hashlib] {key code : String}
    (h : a.recordActionUncertain v atTime key code = .ok c) :
    Accepted a ⟨v, atTime, .recordActionUncertain key code⟩ c := by
  simp only [RecoveryAggregate.recordActionUncertain, bind_ok_iff,
    RecoveryAggregate.requireVersion_ok_iff, RecoveryAggregate.requireActiveAction_ok_iff,
    requireIdentifier_ok_iff, RecoveryAggregate.requireRecoveryTransition_ok_iff,
    exists_const] at h
  obtain ⟨hv, hkey, _, -, hadmits, h⟩ := h
  exact accepted_of_workflowChange hv h (by simp) fun t _ _ => .recordActionUncertain hkey hadmits

theorem requeueAfterAbsenceProven_accepted [Hashlib] {key : String}
    (h : a.requeueAfterAbsenceProven v atTime key = .ok c) :
    Accepted a ⟨v, atTime, .requeueAfterAbsenceProven key⟩ c := by
  simp only [RecoveryAggregate.requeueAfterAbsenceProven, bind_ok_iff,
    RecoveryAggregate.requireVersion_ok_iff, RecoveryAggregate.requireActiveAction_ok_iff,
    RecoveryAggregate.requireRecoveryTransition_ok_iff, exists_const] at h
  obtain ⟨hv, hkey, hadmits, h⟩ := h
  exact accepted_of_workflowChange hv h (by simp) fun t _ _ =>
    .requeueAfterAbsenceProven hkey hadmits

theorem escalateUncertainAction_accepted [Hashlib] {key reason : String}
    (h : a.escalateUncertainAction v atTime key reason = .ok c) :
    Accepted a ⟨v, atTime, .escalateUncertainAction key reason⟩ c := by
  simp only [RecoveryAggregate.escalateUncertainAction, bind_ok_iff,
    RecoveryAggregate.requireVersion_ok_iff, RecoveryAggregate.requireActiveAction_ok_iff,
    requireIdentifier_ok_iff, RecoveryAggregate.requireRecoveryTransition_ok_iff,
    exists_const] at h
  obtain ⟨hv, hkey, _, -, hadmits, h⟩ := h
  exact accepted_of_workflowChange hv h (by simp) fun t _ _ =>
    .escalateUncertainAction hkey hadmits

theorem recordActionFailedSafe_accepted [Hashlib] {key code : String}
    (h : a.recordActionFailedSafe v atTime key code = .ok c) :
    Accepted a ⟨v, atTime, .recordActionFailedSafe key code⟩ c := by
  simp only [RecoveryAggregate.recordActionFailedSafe, bind_ok_iff,
    RecoveryAggregate.requireVersion_ok_iff, RecoveryAggregate.requireActiveAction_ok_iff,
    requireIdentifier_ok_iff, RecoveryAggregate.requireRecoveryTransition_ok_iff,
    exists_const] at h
  obtain ⟨hv, hkey, _, -, hadmits, h⟩ := h
  exact accepted_of_workflowChange hv h (by simp) fun t _ _ =>
    .recordActionFailedSafe hkey hadmits

theorem recordActiveExpired_accepted [Hashlib] {budget : Bool}
    (h : a.recordActiveExpired v atTime budget = .ok c) :
    Accepted a ⟨v, atTime, .recordActiveExpired budget⟩ c := by
  simp only [RecoveryAggregate.recordActiveExpired, bind_ok_iff,
    RecoveryAggregate.requireVersion_ok_iff, RecoveryAggregate.requireRecoveryTransition_ok_iff,
    exists_const] at h
  obtain ⟨hv, hadmits, h⟩ := h
  exact accepted_of_workflowChange hv h (by simp) fun t _ helapsed =>
    .recordActiveExpired rfl hadmits helapsed

/-! ## Money -/

/-- The duplicate command, as called and as fallen through to. -/
theorem recordDuplicateCollection_cases {evidence : String}
    (h : a.recordDuplicateCollection v atTime evidence = .ok c) :
    v = a.version ∧
      (a.paymentState = .overpaid ∨ .overpaid ∈ paymentTransitions a.paymentState) ∧
      a.state ≠ .dormant ∧
      ((a.state = .duplicateReview ∧ a.paymentState = .overpaid ∧ c = a.unchanged) ∨
        ¬(a.state = .duplicateReview ∧ a.paymentState = .overpaid) ∧
        ∃ payload, a.change "DuplicateCollectionDetected" atTime payload
          (fun fields => { fields with
            paymentState := .overpaid
            state := .duplicateReview
            activeActionKey := none
            activeProposalId := none }) = .ok c ∧
          (Json.obj payload).get? "workflow_to" = none) := by
  simp only [RecoveryAggregate.recordDuplicateCollection, bind_ok_iff,
    RecoveryAggregate.requireVersion_ok_iff, requireIdentifier_ok_iff, exists_const] at h
  obtain ⟨hv, _, -, paymentChanged, hpayment, workflowChanged, hworkflow, h⟩ := h
  have hpay : a.paymentState = .overpaid ∨ .overpaid ∈ paymentTransitions a.paymentState := by
    rcases validatePaymentTransition_ok_iff.mp hpayment with ⟨he, -⟩ | ⟨-, hedge, -⟩
    · exact .inl he
    · exact .inr hedge
  have hstarted : a.state ≠ .dormant := by
    have hadmits := exists_validateRecoveryTransition_ok_iff.mp ⟨_, hworkflow⟩
    intro hdormant
    rw [hdormant] at hadmits
    exact absurd hadmits (by decide)
  refine ⟨hv, hpay, hstarted, ?_⟩
  split at h
  next hsame =>
    simp only [Bool.and_eq_true, Bool.not_eq_true'] at hsame
    obtain ⟨rfl, rfl⟩ := hsame
    refine .inl ⟨?_, ?_, (Except.ok.inj h).symm⟩
    · simpa using validateRecoveryTransition_ok_iff.mp hworkflow
    · simpa using validatePaymentTransition_ok_iff.mp hpayment
  next hsame =>
    refine .inr ⟨?_, _, h, by simp [Json.get?]⟩
    rintro ⟨hstate, hoverpaid⟩
    refine hsame ?_
    rw [hstate] at hworkflow
    rw [hoverpaid] at hpayment
    obtain rfl : workflowChanged = false := (Except.ok.inj hworkflow).symm
    obtain rfl : paymentChanged = false := (Except.ok.inj hpayment).symm
    rfl

theorem recordDuplicateCollection_accepted [Hashlib] {evidence : String}
    (h : a.recordDuplicateCollection v atTime evidence = .ok c) :
    Accepted a ⟨v, atTime, .recordDuplicateCollection evidence⟩ c := by
  obtain ⟨hv, hpay, hstarted, ⟨hstate, hoverpaid, rfl⟩ | ⟨hnew, payload, hchange, hpayload⟩⟩ :=
    recordDuplicateCollection_cases h
  · exact .idle hv (.duplicateCollection hstate hoverpaid)
  · exact accepted_of_change none hv hchange hpayload fun t _ =>
      .duplicateCollection hstarted hpay hnew

theorem recordOriginalPaid_accepted [Hashlib] {evidence : String}
    (h : a.recordOriginalPaid v atTime evidence = .ok c) :
    Accepted a ⟨v, atTime, .recordOriginalPaid evidence⟩ c := by
  simp only [RecoveryAggregate.recordOriginalPaid, bind_ok_iff,
    RecoveryAggregate.requireVersion_ok_iff, requireIdentifier_ok_iff, raiseIf_ok_iff,
    exists_const] at h
  obtain ⟨hv, _, -, hstarted, h⟩ := h
  split at h
  next hdup =>
    obtain rfl := Except.ok.inj h
    exact .idle hv (.originalPaid (by rw [hdup.1]; decide) (by rw [hdup.1]; decide) (.inr hdup))
  next hdup =>
    split at h
    next hrecovered =>
      obtain ⟨-, hpay, -, ⟨hstate, -, -⟩ | ⟨-, payload, hchange, hpayload⟩⟩ :=
        recordDuplicateCollection_cases h
      · rw [hrecovered] at hstate
        exact absurd hstate (by decide)
      · exact accepted_of_change none hv hchange hpayload fun t _ =>
          .originalPaidTwice hrecovered hpay
    next hrecovered =>
      obtain ⟨paymentChanged, hpayment, h⟩ := bind_ok_iff.mp h
      have hpay := validatePaymentTransition_ok_iff.mp hpayment
      by_cases hopen : a.state ∈ nonterminalRecoveryStates
      · simp only [hopen, decide_true, if_true, bind_ok_iff, Bool.not_true, Bool.and_false,
          Bool.false_eq_true, if_false] at h
        obtain ⟨_, -, h⟩ := h
        refine accepted_of_change (some .suppressedPaid) hv h (by simp [Json.get?]) fun t _ =>
          .originalPaidOpen hopen hstarted ?_
        rcases hpay with ⟨he, -⟩ | ⟨-, hedge, -⟩
        · exact .inl he
        · exact .inr hedge
      · simp only [hopen, decide_false, Bool.false_eq_true, if_false, Bool.not_false,
          Bool.and_true] at h
        rcases hpay with ⟨he, rfl⟩ | ⟨-, hedge, rfl⟩
        · obtain rfl := Except.ok.inj h
          refine .idle hv (.originalPaid ?_ hrecovered (.inl he))
          revert hopen
          cases a.state <;> decide
        · simp only [Bool.not_true, Bool.false_eq_true, if_false] at h
          refine accepted_of_change (some a.state) hv h ?_ fun t _ =>
            .originalPaidClosed hopen hrecovered hedge
          simp [Json.get?]

theorem recordRecoveryPaid_accepted [Hashlib] {evidence : String}
    (h : a.recordRecoveryPaid v atTime evidence = .ok c) :
    Accepted a ⟨v, atTime, .recordRecoveryPaid evidence⟩ c := by
  simp only [RecoveryAggregate.recordRecoveryPaid, bind_ok_iff,
    RecoveryAggregate.requireVersion_ok_iff, requireIdentifier_ok_iff, exists_const] at h
  obtain ⟨hv, _, -, h⟩ := h
  split at h
  next hsame =>
    obtain rfl := Except.ok.inj h
    exact .idle hv (.recoveryPaid hsame.1 hsame.2)
  next hsame =>
    simp only [bind_ok_iff, raiseIf_ok_iff, exists_const, ne_eq, not_not] at h
    obtain ⟨hactive, h⟩ := h
    split at h
    next hpaid =>
      obtain ⟨-, -, -, ⟨hstate, -, -⟩ | ⟨-, payload, hchange, hpayload⟩⟩ :=
        recordDuplicateCollection_cases h
      · rw [hactive] at hstate
        exact absurd hstate (by decide)
      · exact accepted_of_change none hv hchange hpayload fun t _ =>
          .recoveryPaidTwice hactive hpaid
    next hpaid =>
      obtain ⟨_, hpayment, h⟩ := bind_ok_iff.mp h
      obtain ⟨_, -, h⟩ := bind_ok_iff.mp h
      rcases validatePaymentTransition_ok_iff.mp hpayment with ⟨he, -⟩ | ⟨-, hedge, -⟩
      · exact absurd he hpaid
      · exact accepted_of_change none hv h (by simp [Json.get?]) fun t _ =>
          .recoveryPaid hactive hedge

/-! ## All commands -/

/-- **An accepted request is one of the branches.** -/
theorem execute_accepted [Hashlib] {r : Request} (h : a.execute r = .ok c) : Accepted a r c := by
  obtain ⟨v, atTime, command⟩ := r
  cases command with
  | observeFailure => exact observeFailure_accepted h
  | reconcilePaymentTruth => exact reconcilePaymentTruth_accepted h
  | updateIncidentState => exact updateIncidentState_accepted h
  | markReadyForEvaluation => exact markReadyForEvaluation_accepted h
  | wait => exact wait_accepted h
  | wake => exact wake_accepted h
  | requestApproval => exact requestApproval_accepted h
  | authorizeAction => exact authorizeAction_accepted h
  | recordInternalDecision => exact recordInternalDecision_accepted h
  | beginExecution => exact beginExecution_accepted h
  | recordActionActive => exact recordActionActive_accepted h
  | recordActionUncertain => exact recordActionUncertain_accepted h
  | requeueAfterAbsenceProven => exact requeueAfterAbsenceProven_accepted h
  | escalateUncertainAction => exact escalateUncertainAction_accepted h
  | recordActionFailedSafe => exact recordActionFailedSafe_accepted h
  | recordActiveExpired => exact recordActiveExpired_accepted h
  | recordOriginalPaid => exact recordOriginalPaid_accepted h
  | recordRecoveryPaid => exact recordRecoveryPaid_accepted h
  | recordDuplicateCollection => exact recordDuplicateCollection_accepted h

end Retrywise.Domain
