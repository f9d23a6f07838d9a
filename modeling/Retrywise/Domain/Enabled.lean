import Retrywise.Domain.Accepted

/-!
# Every branch is accepted

The other direction of `execute_accepted`. `Effect` and `Idle` are not only
what an accepted request must be: where the arguments the command checks as
identifiers are identifiers, and the record the branch leaves is a valid one, the
command does return it (`execute_of_effect`, `execute_of_idle`). The guards
the two lists name are all the guards there are. As in the other direction, each
command has one lemma, which passes its checks in the order of the source.

This is what lets a later module *build* a run, to show that a state is
reachable or that a command does not raise.
-/

namespace Retrywise.Domain

open Retrywise.Foundation

/-- The arguments a command checks as identifiers. -/
def Command.identifiers : Command → List String
  | .observeFailure event _ => [event]
  | .reconcilePaymentTruth _ evidence | .updateIncidentState _ evidence => [evidence]
  | .wait reason | .escalateUncertainAction _ reason => [reason]
  | .recordActionActive _ ref => [ref]
  | .recordActionUncertain _ code | .recordActionFailedSafe _ code => [code]
  | .recordOriginalPaid evidence | .recordRecoveryPaid evidence
  | .recordDuplicateCollection evidence => [evidence]
  | _ => []

/-- Every argument that must be an identifier is one. -/
def Command.WellFormed (command : Command) : Prop :=
  ∀ value ∈ command.identifiers, isIdentifier value = true

theorem Command.WellFormed.head {command : Command} {value : String} {rest : List String}
    (h : command.WellFormed) (hids : command.identifiers = value :: rest) :
    isIdentifier value = true := h value (by rw [hids]; exact List.mem_cons_self)

namespace RecoveryAggregate

variable {a b : RecoveryAggregate} {atTime : Datetime} {t : Timestamp}

/-! ## The two ways to change -/

theorem change_of_timely {eventType : String} {payload : List (String × Json)}
    {changes : AggregateFields → AggregateFields} (hid : isIdentifier eventType = true)
    (ht : a.Timely atTime t) (hb : b.toAggregateFields = changes (a.advanced t)) :
    ∃ event, a.change eventType atTime payload changes = .ok ⟨b, [event]⟩ :=
  ⟨_, change_ok_iff.mpr ⟨hid, t, ht.1, ht.2, hb, rfl⟩⟩

theorem workflowChange_of_timely {target : RecoveryState} {eventType : String}
    {payload : List (String × Json)} {changes : AggregateFields → AggregateFields}
    (hadmits : Admits a.state target) (helapsed : target = .assessing → a.Elapsed t)
    (hid : isIdentifier eventType = true) (ht : a.Timely atTime t)
    (hb : b.toAggregateFields = changes { a.advanced t with state := target }) :
    ∃ event, a.workflowChange target eventType atTime payload changes = .ok ⟨b, [event]⟩ := by
  obtain ⟨changed, hvalid⟩ := exists_validateRecoveryTransition_ok_iff.mpr hadmits
  simp only [workflowChange, bind_of_ok hvalid]
  split
  next htarget =>
    have hwindow : a.requireObservationElapsed atTime = .ok () :=
      requireObservationElapsed_ok_iff.mpr ⟨t, ht.1, helapsed htarget⟩
    rw [bind_of_ok hwindow]
    exact change_of_timely hid ht hb
  next htarget => exact change_of_timely hid ht hb

/-- The duplicate command, in every started case that is not already there. -/
theorem recordDuplicateCollection_of_timely {evidence : String}
    (hevidence : isIdentifier evidence = true) (hstarted : a.state ≠ .dormant)
    (hpay : a.paymentState = .overpaid ∨ .overpaid ∈ paymentTransitions a.paymentState)
    (hnew : ¬(a.state = .duplicateReview ∧ a.paymentState = .overpaid)) (ht : a.Timely atTime t)
    (hb : b.toAggregateFields = a.duplicated t) :
    ∃ event, a.recordDuplicateCollection a.version atTime evidence = .ok ⟨b, [event]⟩ := by
  have hadmits : Admits a.state .duplicateReview := .inr (.inr ⟨rfl, hstarted⟩)
  obtain ⟨workflowChanged, hworkflow⟩ := exists_validateRecoveryTransition_ok_iff.mpr hadmits
  obtain ⟨paymentChanged, hpayment⟩ := exists_validatePaymentTransition_ok_iff.mpr hpay
  have hchanged : (!paymentChanged && !workflowChanged) = false := by
    cases paymentChanged
    · cases workflowChanged
      · refine absurd ⟨?_, ?_⟩ hnew
        · simpa using validateRecoveryTransition_ok_iff.mp hworkflow
        · simpa using validatePaymentTransition_ok_iff.mp hpayment
      · rfl
    · rfl
  have hversion : a.requireVersion a.version = .ok () := requireVersion_ok_iff.mpr rfl
  have hident : requireIdentifier evidence "evidence" = .ok evidence :=
    requireIdentifier_ok_iff.mpr ⟨hevidence, rfl⟩
  simp only [recordDuplicateCollection, bind_of_ok hversion, bind_of_ok hident,
    bind_of_ok hpayment, bind_of_ok hworkflow, hchanged, Bool.false_eq_true, if_false]
  exact change_of_timely (by decide) ht hb

/-! ## The checks, passed -/

theorem requireVersion_self : a.requireVersion a.version = .ok () := requireVersion_ok_iff.mpr rfl

theorem requireIdentifier_self {value field : String} (h : isIdentifier value = true) :
    requireIdentifier value field = .ok value := requireIdentifier_ok_iff.mpr ⟨h, rfl⟩

theorem requireRecoveryTransition_of_admits {target : RecoveryState} (h : Admits a.state target) :
    a.requireRecoveryTransition target = .ok () := requireRecoveryTransition_ok_iff.mpr h

theorem requireActiveAction_of_eq {key : String} (h : a.activeActionKey = some key) :
    a.requireActiveAction key = .ok () := requireActiveAction_ok_iff.mpr h

theorem requireObservationElapsed_of_elapsed (ht : a.Timely atTime t) (h : a.Elapsed t) :
    a.requireObservationElapsed atTime = .ok () :=
  requireObservationElapsed_ok_iff.mpr ⟨t, ht.1, h⟩

theorem requireProposalBinding_of_bound [Hashlib] {p : ActionProposal} {d : GateDecision}
    {stage : GateStage} {allowed : Bool} (next : Bool)
    (h : Bound a.toAggregateFields p d stage allowed)
    (hdv : p.decisionVersion = if next then a.decisionVersion + 1 else a.decisionVersion) :
    a.requireProposalBinding p next = .ok () :=
  requireProposalBinding_ok_iff.mpr ⟨h.merchantId, h.proposalCase, hdv⟩

end RecoveryAggregate

section

open RecoveryAggregate

variable [Hashlib] {a b : RecoveryAggregate} {atTime : Datetime} {t : Timestamp}
  {moved : Option RecoveryState}

/-! ## Observation and truth -/

theorem observeFailure_of_effect {event : String} {extend : Option Datetime}
    (h : Effect a.toAggregateFields t (.observeFailure event extend) b.toAggregateFields moved)
    (hargs : (Command.observeFailure event extend).WellFormed) (ht : a.Timely atTime t) :
    ∃ e, a.observeFailure a.version atTime event extend = .ok ⟨b, [e]⟩ := by
  generalize hb : b.toAggregateFields = fields at h
  cases h with
  | observeFailure hsource hdeadline =>
    have hadmits : Admits a.state .observing := by
      rcases hsource with h | h
      · rw [h]; decide
      · rw [h]; decide
    simp only [observeFailure, bind_of_ok requireVersion_self,
      bind_of_ok (requireIdentifier_self (hargs.head rfl)),
      bind_of_ok (requireRecoveryTransition_of_admits hadmits), bind_of_ok ht.1,
      bind_of_ok hdeadline]
    have ht' : a.Timely t.toDatetime t := ⟨requireUtc_toDatetime t _, ht.2⟩
    exact change_of_timely (by decide) ht' hb

theorem reconcilePaymentTruth_of_effect {target : CanonicalPaymentState} {evidence : String}
    (h : Effect a.toAggregateFields t (.reconcilePaymentTruth target evidence)
      b.toAggregateFields moved)
    (hargs : (Command.reconcilePaymentTruth target evidence).WellFormed) (ht : a.Timely atTime t) :
    ∃ event, a.reconcilePaymentTruth a.version atTime target evidence = .ok ⟨b, [event]⟩ := by
  generalize hb : b.toAggregateFields = fields at h
  cases h with
  | reconcilePaymentTruth hedge hpaid hoverpaid =>
    have hne : a.paymentState ≠ target := by
      intro he
      rw [← he] at hedge
      revert hedge
      cases a.paymentState <;> decide
    have hchanged := validatePaymentTransition_ok_iff.mpr (.inr ⟨hne, hedge, rfl⟩)
    simp only [reconcilePaymentTruth, bind_of_ok requireVersion_self,
      bind_of_ok (requireIdentifier_self (hargs.head rfl)),
      bind_of_ok (raiseIf_of_not _ (not_or.mpr ⟨hpaid, hoverpaid⟩)), bind_of_ok hchanged, if_true]
    exact change_of_timely (by decide) ht hb

theorem updateIncidentState_of_effect {target : IncidentState} {evidence : String}
    (h : Effect a.toAggregateFields t (.updateIncidentState target evidence)
      b.toAggregateFields moved)
    (hargs : (Command.updateIncidentState target evidence).WellFormed) (ht : a.Timely atTime t) :
    ∃ event, a.updateIncidentState a.version atTime target evidence = .ok ⟨b, [event]⟩ := by
  generalize hb : b.toAggregateFields = fields at h
  cases h with
  | updateIncidentState hedge =>
    have hne : a.incidentState ≠ target := by
      intro he
      rw [← he] at hedge
      revert hedge
      cases a.incidentState <;> decide
    have hchanged : validateIncidentTransition a.incidentState target = .ok true :=
      validateTransition_ok_iff.mpr (.inr ⟨hne, hedge, rfl⟩)
    simp only [updateIncidentState, bind_of_ok requireVersion_self,
      bind_of_ok (requireIdentifier_self (hargs.head rfl)),
      bind_of_ok hchanged, if_true]
    exact change_of_timely (by decide) ht hb

/-! ## Assessment -/

theorem markReadyForEvaluation_of_effect
    (h : Effect a.toAggregateFields t .markReadyForEvaluation b.toAggregateFields moved)
    (ht : a.Timely atTime t) :
    ∃ event, a.markReadyForEvaluation a.version atTime = .ok ⟨b, [event]⟩ := by
  generalize hb : b.toAggregateFields = fields at h
  cases h with
  | markReadyForEvaluation hadmits hunpaid helapsed =>
    simp only [markReadyForEvaluation, bind_of_ok requireVersion_self,
      bind_of_ok (requireRecoveryTransition_of_admits hadmits),
      bind_of_ok (raiseIf_of_not _ (not_not.mpr hunpaid))]
    exact workflowChange_of_timely hadmits (fun _ => helapsed) (by decide) ht hb

theorem wait_of_effect {reason : String}
    (h : Effect a.toAggregateFields t (.wait reason) b.toAggregateFields moved)
    (hargs : (Command.wait reason).WellFormed) (ht : a.Timely atTime t) :
    ∃ event, a.wait a.version atTime reason = .ok ⟨b, [event]⟩ := by
  generalize hb : b.toAggregateFields = fields at h
  cases h with
  | wait hadmits =>
    simp only [wait, bind_of_ok requireVersion_self,
      bind_of_ok (requireIdentifier_self (hargs.head rfl)),
      bind_of_ok (requireRecoveryTransition_of_admits hadmits)]
    exact workflowChange_of_timely hadmits (by simp) (by decide) ht hb

theorem wake_of_effect (h : Effect a.toAggregateFields t .wake b.toAggregateFields moved)
    (ht : a.Timely atTime t) :
    ∃ event, a.wake a.version atTime = .ok ⟨b, [event]⟩ := by
  generalize hb : b.toAggregateFields = fields at h
  cases h with
  | wake hadmits hunpaid helapsed =>
    simp only [wake, bind_of_ok requireVersion_self,
      bind_of_ok (requireRecoveryTransition_of_admits hadmits),
      bind_of_ok (raiseIf_of_not _ (not_not.mpr hunpaid))]
    exact workflowChange_of_timely hadmits (fun _ => helapsed) (by decide) ht hb

/-! ## Decisions -/

theorem requestApproval_of_effect {p : ActionProposal} {d : GateDecision}
    (h : Effect a.toAggregateFields t (.requestApproval p d) b.toAggregateFields moved)
    (ht : a.Timely atTime t) :
    ∃ event, a.requestApproval a.version atTime p d = .ok ⟨b, [event]⟩ := by
  generalize hb : b.toAggregateFields = fields at h
  cases h with
  | requestApproval hstate helapsed hdv hbound hsome hreasons htype hunpaid =>
    have hadmits : Admits a.state .approvalRequired := by rw [hstate]; decide
    simp only [requestApproval, bind_of_ok requireVersion_self,
      bind_of_ok (raiseIf_of_not _ (not_not.mpr hstate)),
      bind_of_ok (requireObservationElapsed_of_elapsed ht helapsed),
      bind_of_ok (requireProposalBinding_of_bound true hbound hdv),
      bind_of_ok (gateBinding_of_bound hbound),
      bind_of_ok (raiseIf_of_not _ (not_or.mpr ⟨hsome, not_not.mpr hreasons⟩)),
      bind_of_ok (raiseIf_of_not _ (not_not.mpr htype)),
      bind_of_ok (raiseIf_of_not _ (not_not.mpr hunpaid))]
    exact workflowChange_of_timely hadmits (by simp) (by decide) ht hb

theorem authorizeAction_of_effect {p : ActionProposal} {d : GateDecision}
    (h : Effect a.toAggregateFields t (.authorizeAction p d) b.toAggregateFields moved)
    (ht : a.Timely atTime t) :
    ∃ event, a.authorizeAction a.version atTime p d = .ok ⟨b, [event]⟩ := by
  generalize hb : b.toAggregateFields = fields at h
  cases h with
  | authorizeAction hsource helapsed hbound htype hunpaid =>
    have hstate : a.state ∈ [RecoveryState.assessing, .approvalRequired] := by
      rcases hsource with ⟨h, -⟩ | ⟨h, -⟩ <;> simp [h]
    have hadmits : Admits a.state .actionQueued := by
      rcases hsource with ⟨h, -⟩ | ⟨h, -⟩ <;> (rw [h]; decide)
    have hdv : p.decisionVersion =
        if (decide (a.state = .assessing)) = true then a.decisionVersion + 1
        else a.decisionVersion := by
      rcases hsource with ⟨h, hdv⟩ | ⟨h, hdv, -⟩ <;> simp [h, hdv]
    have hpending : ¬(a.state = .approvalRequired ∧ (a.activeActionKey ≠ some p.actionKey ∨
        a.activeProposalId ≠ some p.proposalId)) := by
      rcases hsource with ⟨h, -⟩ | ⟨-, -, hkey, hid⟩
      · simp [h]
      · simp [hkey, hid]
    simp only [authorizeAction, bind_of_ok requireVersion_self,
      bind_of_ok (raiseIf_of_not _ (not_not.mpr hstate)),
      bind_of_ok (requireObservationElapsed_of_elapsed ht helapsed),
      bind_of_ok (requireProposalBinding_of_bound _ hbound hdv),
      bind_of_ok (gateBinding_of_bound hbound),
      bind_of_ok (raiseIf_of_not _ (not_not.mpr htype)),
      bind_of_ok (raiseIf_of_not _ (not_not.mpr hunpaid)),
      bind_of_ok (raiseIf_of_not _ hpending),
      bind_of_ok (requireRecoveryTransition_of_admits hadmits)]
    exact workflowChange_of_timely hadmits (by simp) (by decide) ht hb

theorem recordInternalDecision_of_effect {p : ActionProposal} {d : GateDecision}
    (h : Effect a.toAggregateFields t (.recordInternalDecision p d) b.toAggregateFields moved)
    (ht : a.Timely atTime t) :
    ∃ event, a.recordInternalDecision a.version atTime p d = .ok ⟨b, [event]⟩ := by
  generalize hb : b.toAggregateFields = fields at h
  cases h with
  | recordInternalDecision htype hdv hbound hadmits =>
    have htarget : internalTarget p.actionType ≠ .assessing := internalTarget_ne (by decide)
    simp only [recordInternalDecision, bind_of_ok requireVersion_self,
      bind_of_ok (raiseIf_of_not _ (not_not.mpr htype)),
      bind_of_ok (requireProposalBinding_of_bound true hbound hdv),
      bind_of_ok (gateBinding_of_bound hbound),
      bind_of_ok (requireRecoveryTransition_of_admits hadmits)]
    exact workflowChange_of_timely hadmits (fun h => absurd h htarget) (by decide) ht hb

theorem beginExecution_of_effect {p : ActionProposal} {d : GateDecision}
    (h : Effect a.toAggregateFields t (.beginExecution p d) b.toAggregateFields moved)
    (ht : a.Timely atTime t) :
    ∃ event, a.beginExecution a.version atTime p d = .ok ⟨b, [event]⟩ := by
  generalize hb : b.toAggregateFields = fields at h
  cases h with
  | beginExecution hstate hdv hbound helapsed hkey hunpaid =>
    have hadmits : Admits a.state .executing := by rw [hstate]; decide
    simp only [beginExecution, bind_of_ok requireVersion_self,
      bind_of_ok (requireProposalBinding_of_bound false hbound hdv),
      bind_of_ok (gateBinding_of_bound hbound),
      bind_of_ok (raiseIf_of_not _ (not_not.mpr hstate)),
      bind_of_ok (requireObservationElapsed_of_elapsed ht helapsed),
      bind_of_ok (raiseIf_of_not _ (not_not.mpr hkey)),
      bind_of_ok (raiseIf_of_not _ (not_not.mpr hunpaid))]
    exact workflowChange_of_timely hadmits (by simp) (by decide) ht hb

/-! ## The action's outcome -/

theorem recordActionActive_of_effect {key ref : String}
    (h : Effect a.toAggregateFields t (.recordActionActive key ref) b.toAggregateFields moved)
    (hargs : (Command.recordActionActive key ref).WellFormed) (ht : a.Timely atTime t) :
    ∃ event, a.recordActionActive a.version atTime key ref = .ok ⟨b, [event]⟩ := by
  generalize hb : b.toAggregateFields = fields at h
  cases h with
  | recordActionActive hkey hadmits hnew =>
    simp only [recordActionActive, bind_of_ok requireVersion_self,
      bind_of_ok (requireActiveAction_of_eq hkey),
      bind_of_ok (requireIdentifier_self (hargs.head rfl)),
      if_neg hnew, bind_of_ok (requireRecoveryTransition_of_admits hadmits)]
    exact workflowChange_of_timely hadmits (by simp) (by decide) ht hb

theorem recordActionUncertain_of_effect {key code : String}
    (h : Effect a.toAggregateFields t (.recordActionUncertain key code) b.toAggregateFields moved)
    (hargs : (Command.recordActionUncertain key code).WellFormed) (ht : a.Timely atTime t) :
    ∃ event, a.recordActionUncertain a.version atTime key code = .ok ⟨b, [event]⟩ := by
  generalize hb : b.toAggregateFields = fields at h
  cases h with
  | recordActionUncertain hkey hadmits =>
    simp only [recordActionUncertain, bind_of_ok requireVersion_self,
      bind_of_ok (requireActiveAction_of_eq hkey),
      bind_of_ok (requireIdentifier_self (hargs.head rfl)),
      bind_of_ok (requireRecoveryTransition_of_admits hadmits)]
    exact workflowChange_of_timely hadmits (by simp) (by decide) ht hb

theorem requeueAfterAbsenceProven_of_effect {key : String}
    (h : Effect a.toAggregateFields t (.requeueAfterAbsenceProven key) b.toAggregateFields moved)
    (ht : a.Timely atTime t) :
    ∃ event, a.requeueAfterAbsenceProven a.version atTime key = .ok ⟨b, [event]⟩ := by
  generalize hb : b.toAggregateFields = fields at h
  cases h with
  | requeueAfterAbsenceProven hkey hadmits =>
    simp only [requeueAfterAbsenceProven, bind_of_ok requireVersion_self,
      bind_of_ok (requireActiveAction_of_eq hkey),
      bind_of_ok (requireRecoveryTransition_of_admits hadmits)]
    exact workflowChange_of_timely hadmits (by simp) (by decide) ht hb

theorem escalateUncertainAction_of_effect {key reason : String}
    (h : Effect a.toAggregateFields t (.escalateUncertainAction key reason)
      b.toAggregateFields moved)
    (hargs : (Command.escalateUncertainAction key reason).WellFormed) (ht : a.Timely atTime t) :
    ∃ event, a.escalateUncertainAction a.version atTime key reason = .ok ⟨b, [event]⟩ := by
  generalize hb : b.toAggregateFields = fields at h
  cases h with
  | escalateUncertainAction hkey hadmits =>
    simp only [escalateUncertainAction, bind_of_ok requireVersion_self,
      bind_of_ok (requireActiveAction_of_eq hkey),
      bind_of_ok (requireIdentifier_self (hargs.head rfl)),
      bind_of_ok (requireRecoveryTransition_of_admits hadmits)]
    exact workflowChange_of_timely hadmits (by simp) (by decide) ht hb

theorem recordActionFailedSafe_of_effect {key code : String}
    (h : Effect a.toAggregateFields t (.recordActionFailedSafe key code) b.toAggregateFields moved)
    (hargs : (Command.recordActionFailedSafe key code).WellFormed) (ht : a.Timely atTime t) :
    ∃ event, a.recordActionFailedSafe a.version atTime key code = .ok ⟨b, [event]⟩ := by
  generalize hb : b.toAggregateFields = fields at h
  cases h with
  | recordActionFailedSafe hkey hadmits =>
    simp only [recordActionFailedSafe, bind_of_ok requireVersion_self,
      bind_of_ok (requireActiveAction_of_eq hkey),
      bind_of_ok (requireIdentifier_self (hargs.head rfl)),
      bind_of_ok (requireRecoveryTransition_of_admits hadmits)]
    exact workflowChange_of_timely hadmits (by simp) (by decide) ht hb

theorem recordActiveExpired_of_effect {budget : Bool}
    (h : Effect a.toAggregateFields t (.recordActiveExpired budget) b.toAggregateFields moved)
    (ht : a.Timely atTime t) :
    ∃ event, a.recordActiveExpired a.version atTime budget = .ok ⟨b, [event]⟩ := by
  generalize hb : b.toAggregateFields = fields at h
  cases h with
  | recordActiveExpired htarget hadmits helapsed =>
    subst htarget
    simp only [recordActiveExpired, bind_of_ok requireVersion_self,
      bind_of_ok (requireRecoveryTransition_of_admits hadmits)]
    exact workflowChange_of_timely hadmits helapsed (by decide) ht hb

/-! ## Money -/

theorem recordOriginalPaid_of_effect {evidence : String}
    (h : Effect a.toAggregateFields t (.recordOriginalPaid evidence) b.toAggregateFields moved)
    (hargs : (Command.recordOriginalPaid evidence).WellFormed) (ht : a.Timely atTime t) :
    ∃ event, a.recordOriginalPaid a.version atTime evidence = .ok ⟨b, [event]⟩ := by
  generalize hb : b.toAggregateFields = fields at h
  cases h with
  | originalPaidOpen hopen hstarted hpay =>
    have hclosed : ¬(a.state = .duplicateReview ∧ a.paymentState = .overpaid) := by
      rintro ⟨h, -⟩
      rw [h] at hopen
      exact absurd hopen (by decide)
    have hrecovered : a.state ≠ .recovered := by
      intro h
      rw [h] at hopen
      exact absurd hopen (by decide)
    have hadmits : Admits a.state .suppressedPaid := by
      revert hopen hstarted
      cases a.state <;> decide
    obtain ⟨changed, hpayment⟩ := exists_validatePaymentTransition_ok_iff.mpr hpay
    simp only [recordOriginalPaid, bind_of_ok requireVersion_self,
      bind_of_ok (requireIdentifier_self (hargs.head rfl)),
      bind_of_ok (raiseIf_of_not _ hstarted), if_neg hclosed, if_neg hrecovered,
      bind_of_ok hpayment, hopen, decide_true, if_true,
      bind_of_ok (requireRecoveryTransition_of_admits hadmits), Bool.not_true, Bool.and_false,
      Bool.false_eq_true, if_false]
    exact change_of_timely (by decide) ht hb
  | originalPaidClosed hclosed hrecovered hedge =>
    have hdup : ¬(a.state = .duplicateReview ∧ a.paymentState = .overpaid) := by
      rintro ⟨-, h⟩
      rw [h] at hedge
      exact absurd hedge (by decide)
    have hstarted : a.state ≠ .dormant := by
      intro h
      rw [h] at hclosed
      exact absurd hclosed (by decide)
    have hne : a.paymentState ≠ .paid := by
      intro h
      rw [h] at hedge
      exact absurd hedge (by decide)
    have hpayment := validatePaymentTransition_ok_iff.mpr (.inr ⟨hne, hedge, rfl⟩)
    simp only [recordOriginalPaid, bind_of_ok requireVersion_self,
      bind_of_ok (requireIdentifier_self (hargs.head rfl)),
      bind_of_ok (raiseIf_of_not _ hstarted), if_neg hdup, if_neg hrecovered,
      bind_of_ok hpayment, hclosed, decide_false, Bool.false_eq_true, if_false, Bool.not_true,
      Bool.false_and]
    exact change_of_timely (by decide) ht hb
  | originalPaidTwice hrecovered hpay =>
    have hdup : ¬(a.state = .duplicateReview ∧ a.paymentState = .overpaid) := by
      rintro ⟨h, -⟩
      rw [h] at hrecovered
      exact absurd hrecovered (by decide)
    have hstarted : a.state ≠ .dormant := by rw [hrecovered]; decide
    have hevidence := hargs.head rfl
    simp only [recordOriginalPaid, bind_of_ok requireVersion_self,
      bind_of_ok (requireIdentifier_self hevidence), bind_of_ok (raiseIf_of_not _ hstarted),
      if_neg hdup, if_pos hrecovered]
    exact recordDuplicateCollection_of_timely hevidence hstarted hpay hdup ht hb

theorem recordRecoveryPaid_of_effect {evidence : String}
    (h : Effect a.toAggregateFields t (.recordRecoveryPaid evidence) b.toAggregateFields moved)
    (hargs : (Command.recordRecoveryPaid evidence).WellFormed) (ht : a.Timely atTime t) :
    ∃ event, a.recordRecoveryPaid a.version atTime evidence = .ok ⟨b, [event]⟩ := by
  generalize hb : b.toAggregateFields = fields at h
  cases h with
  | recoveryPaid hactive hedge =>
    have hne : a.paymentState ≠ .paid := by
      intro h
      rw [h] at hedge
      exact absurd hedge (by decide)
    have hnew : ¬(a.state = .recovered ∧ a.paymentState = .paid) := fun h => hne h.2
    have hadmits : Admits a.state .recovered := by rw [hactive]; decide
    have hpayment := validatePaymentTransition_ok_iff.mpr (.inr ⟨hne, hedge, rfl⟩)
    simp only [recordRecoveryPaid, bind_of_ok requireVersion_self,
      bind_of_ok (requireIdentifier_self (hargs.head rfl)),
      if_neg hnew, bind_of_ok (raiseIf_of_not _ (not_not.mpr hactive)), if_neg hne,
      bind_of_ok hpayment, bind_of_ok (requireRecoveryTransition_of_admits hadmits)]
    exact change_of_timely (by decide) ht hb
  | recoveryPaidTwice hactive hpaid =>
    have hnew : ¬(a.state = .recovered ∧ a.paymentState = .paid) := by
      rintro ⟨h, -⟩
      rw [h] at hactive
      exact absurd hactive (by decide)
    have hevidence := hargs.head rfl
    simp only [recordRecoveryPaid, bind_of_ok requireVersion_self,
      bind_of_ok (requireIdentifier_self hevidence), if_neg hnew,
      bind_of_ok (raiseIf_of_not _ (not_not.mpr hactive)), if_pos hpaid]
    refine recordDuplicateCollection_of_timely hevidence ?_ ?_ ?_ ht hb
    · rw [hactive]; decide
    · rw [hpaid]; decide
    · rw [hactive, hpaid]; decide

theorem recordDuplicateCollection_of_effect {evidence : String}
    (h : Effect a.toAggregateFields t (.recordDuplicateCollection evidence)
      b.toAggregateFields moved)
    (hargs : (Command.recordDuplicateCollection evidence).WellFormed) (ht : a.Timely atTime t) :
    ∃ event, a.recordDuplicateCollection a.version atTime evidence = .ok ⟨b, [event]⟩ := by
  generalize hb : b.toAggregateFields = fields at h
  cases h with
  | duplicateCollection hstarted hpay hnew =>
    exact recordDuplicateCollection_of_timely (hargs.head rfl)
      hstarted hpay hnew ht hb

/-! ## All branches -/

/-- **Every branch that changes the case is accepted**, and leaves the record it
names. -/
theorem execute_of_effect {command : Command}
    (h : Effect a.toAggregateFields t command b.toAggregateFields moved)
    (hargs : command.WellFormed) (ht : a.Timely atTime t) :
    ∃ event, a.execute ⟨a.version, atTime, command⟩ = .ok ⟨b, [event]⟩ := by
  cases command with
  | observeFailure => exact observeFailure_of_effect h hargs ht
  | reconcilePaymentTruth => exact reconcilePaymentTruth_of_effect h hargs ht
  | updateIncidentState => exact updateIncidentState_of_effect h hargs ht
  | markReadyForEvaluation => exact markReadyForEvaluation_of_effect h ht
  | wait => exact wait_of_effect h hargs ht
  | wake => exact wake_of_effect h ht
  | requestApproval => exact requestApproval_of_effect h ht
  | authorizeAction => exact authorizeAction_of_effect h ht
  | recordInternalDecision => exact recordInternalDecision_of_effect h ht
  | beginExecution => exact beginExecution_of_effect h ht
  | recordActionActive => exact recordActionActive_of_effect h hargs ht
  | recordActionUncertain => exact recordActionUncertain_of_effect h hargs ht
  | requeueAfterAbsenceProven => exact requeueAfterAbsenceProven_of_effect h ht
  | escalateUncertainAction => exact escalateUncertainAction_of_effect h hargs ht
  | recordActionFailedSafe => exact recordActionFailedSafe_of_effect h hargs ht
  | recordActiveExpired => exact recordActiveExpired_of_effect h ht
  | recordOriginalPaid => exact recordOriginalPaid_of_effect h hargs ht
  | recordRecoveryPaid => exact recordRecoveryPaid_of_effect h hargs ht
  | recordDuplicateCollection => exact recordDuplicateCollection_of_effect h hargs ht

/-- Every branch that has nothing to do returns the case as it is. -/
theorem execute_of_idle {command : Command} (atTime : Datetime)
    (h : Idle a.toAggregateFields command) (hargs : command.WellFormed) :
    a.execute ⟨a.version, atTime, command⟩ = .ok a.unchanged := by
  cases h with
  | @reconcilePaymentTruth evidence hpaid hoverpaid =>
    have hsame := validatePaymentTransition_ok_iff.mpr (.inl ⟨(rfl : a.paymentState = _), rfl⟩)
    simp only [execute, reconcilePaymentTruth, bind_of_ok requireVersion_self,
      bind_of_ok (requireIdentifier_self (hargs.head rfl)),
      bind_of_ok (raiseIf_of_not _ (not_or.mpr ⟨hpaid, hoverpaid⟩)), bind_of_ok hsame,
      Bool.false_eq_true, if_false]
    rfl
  | @updateIncidentState evidence =>
    have hsame : validateIncidentTransition a.incidentState a.incidentState = .ok false :=
      validateTransition_ok_iff.mpr (.inl ⟨rfl, rfl⟩)
    simp only [execute, updateIncidentState, bind_of_ok requireVersion_self,
      bind_of_ok (requireIdentifier_self (hargs.head rfl)),
      bind_of_ok hsame, Bool.false_eq_true, if_false]
    rfl
  | @recordActionActive key ref hkey hactive href =>
    simp only [execute, recordActionActive, bind_of_ok requireVersion_self,
      bind_of_ok (requireActiveAction_of_eq hkey),
      bind_of_ok (requireIdentifier_self (hargs.head rfl)),
      if_pos (And.intro hactive href)]
    rfl
  | @originalPaid evidence hclosed hrecovered hpay =>
    have hstarted : a.state ≠ .dormant := by
      intro hs
      rw [hs] at hclosed
      exact absurd hclosed (by decide)
    have hnot : a.state ∉ nonterminalRecoveryStates := by
      revert hclosed
      cases a.state <;> decide
    simp only [execute, recordOriginalPaid, bind_of_ok requireVersion_self,
      bind_of_ok (requireIdentifier_self (hargs.head rfl)),
      bind_of_ok (raiseIf_of_not _ hstarted)]
    by_cases hdup : a.state = .duplicateReview ∧ a.paymentState = .overpaid
    · rw [if_pos hdup]
      rfl
    · have hpayment := validatePaymentTransition_ok_iff.mpr (.inl ⟨hpay.resolve_right hdup, rfl⟩)
      simp only [if_neg hdup, if_neg hrecovered, bind_of_ok hpayment, hnot, decide_false,
        Bool.false_eq_true, if_false, Bool.not_false, Bool.and_self, if_true]
      rfl
  | @recoveryPaid evidence hrecovered hpaid =>
    simp only [execute, recordRecoveryPaid, bind_of_ok requireVersion_self,
      bind_of_ok (requireIdentifier_self (hargs.head rfl)),
      if_pos (And.intro hrecovered hpaid)]
    rfl
  | @duplicateCollection evidence hdup hoverpaid =>
    have hpayment := validatePaymentTransition_ok_iff.mpr (.inl ⟨hoverpaid, rfl⟩)
    have hworkflow := validateRecoveryTransition_ok_iff.mpr (.inl ⟨hdup, rfl⟩)
    simp only [execute, recordDuplicateCollection,
      bind_of_ok requireVersion_self,
      bind_of_ok (requireIdentifier_self (hargs.head rfl)),
      bind_of_ok hpayment, bind_of_ok hworkflow, Bool.not_false, Bool.and_self, if_true]
    rfl

end

/-! ## The constructor's checks are never the ones that refuse -/

/-- A record that keeps its identity and its observation timing, and moves on to
time `t`, passes the constructor again. -/
theorem AggregateFields.Valid.change {a : AggregateFields} {t : Timestamp} (h : a.Valid)
    (ht : ∀ last, a.lastTransitionAt = some last → last ≤ t) {state : RecoveryState}
    {paymentState : CanonicalPaymentState} {incidentState : IncidentState}
    {decisionVersion : Nat} {key id ref : Option String}
    (hstate : state = .dormant ↔ a.state = .dormant) (hdv : decisionVersion ≤ a.version + 1)
    (hkey : ∀ k, key = some k → isIdentifier k = true ∧ isActionKey k = true)
    (hid : ∀ i, id = some i → isIdentifier i = true)
    (href : ∀ r, ref = some r → isIdentifier r = true) :
    ({ a.advanced t with
      state := state
      paymentState := paymentState
      incidentState := incidentState
      decisionVersion := decisionVersion
      activeActionKey := key
      activeProposalId := id
      activeInstrumentReference := ref } : AggregateFields).Valid where
  dormant hs := h.dormant (hstate.mp hs)
  started hs := by
    obtain ⟨hstarted, hdeadline, -⟩ := h.started fun hd => hs (hstate.mpr hd)
    exact ⟨hstarted, hdeadline, by simp [AggregateFields.advanced]⟩
  floor := h.floor
  past started deadline last hs hd hlast := by
    obtain rfl : t = last := Option.some.inj hlast
    have hne : a.state ≠ .dormant := by
      intro hdormant
      exact absurd ((h.dormant hdormant).1.symm.trans hs) (by simp)
    obtain ⟨before, hbefore⟩ := Option.ne_none_iff_exists'.mp (h.started hne).2.2
    exact le_trans (h.past started deadline before hs hd hbefore) (ht before hbefore)
  merchantId := h.merchantId
  caseId := h.caseId
  logicalOrderId := h.logicalOrderId
  amountDue := h.amountDue
  decisionVersion := hdv
  actionKey := hkey
  proposalId := hid
  reference := href

/-- A move the validator lets through neither starts a dormant case nor ends in
one, unless it is the first observation. -/
theorem Admits.dormant_iff {current target : RecoveryState} (h : Admits current target)
    (htarget : target ≠ .observing) : target = .dormant ↔ current = .dormant := by
  revert h htarget
  cases current <;> cases target <;> decide

theorem ActionProposal.isIdentifier_proposalId (p : ActionProposal) :
    isIdentifier p.proposalId = true := by
  have h := p.valid
  simp only [ProposalFields.postInit, bind_ok_iff, requireIdentifier_ok_iff] at h
  obtain ⟨_, ⟨hid, -⟩, -⟩ := h
  exact hid

/-- **Every branch leaves a valid record**: with well-formed arguments, the
constructor that every new version goes through never raises. -/
theorem Effect.valid [Hashlib] {a b : AggregateFields} {t : Timestamp} {command : Command}
    {moved : Option RecoveryState} (h : Effect a t command b moved) (ha : a.Valid)
    (hargs : command.WellFormed) (ht : ∀ last, a.lastTransitionAt = some last → last ≤ t) :
    b.Valid := by
  have hdv := Nat.le_succ_of_le ha.decisionVersion
  have hnone : ∀ {P : String → Prop} (x : String), none = some x → P x := by simp
  have hproposal : ∀ p : ActionProposal,
      (∀ k, some p.actionKey = some k → isIdentifier k = true ∧ isActionKey k = true) ∧
        ∀ i, some p.proposalId = some i → isIdentifier i = true := by
    intro p
    constructor
    · rintro k ⟨⟩
      exact ⟨p.isIdentifier_actionKey, isActionKey_append _⟩
    · rintro i ⟨⟩
      exact p.isIdentifier_proposalId
  have hclosed : ∀ {s : RecoveryState}, s ≠ .dormant → a.state ≠ .dormant →
      (s = .dormant ↔ a.state = .dormant) := fun hs hd => iff_of_false hs hd
  cases h with
  | @observeFailure event extend deadline hsource hdeadline =>
    have hfloor := LateCapturePolicy.floor_le_observationDeadline hdeadline
    exact {
      dormant := fun hs => absurd hs (by simp)
      started := fun _ => by simp [AggregateFields.advanced]
      floor := by
        rintro started deadline' ⟨⟩ ⟨⟩
        obtain ⟨floor, hmicros, -⟩ := LateCapturePolicy.observationDeadline_ok_iff.mp hdeadline
        refine ⟨floor, shift_ok_iff.mpr hmicros, ?_⟩
        rw [Timestamp.le_iff, hmicros]
        exact hfloor
      past := by
        rintro started deadline' last ⟨⟩ ⟨⟩ ⟨⟩
        exact le_refl _
      merchantId := ha.merchantId
      caseId := ha.caseId
      logicalOrderId := ha.logicalOrderId
      amountDue := ha.amountDue
      decisionVersion := hdv
      actionKey := ha.actionKey
      proposalId := ha.proposalId
      reference := ha.reference }
  | reconcilePaymentTruth | updateIncidentState =>
    exact ha.change ht Iff.rfl hdv ha.actionKey ha.proposalId ha.reference
  | markReadyForEvaluation hadmits | wait hadmits | wake hadmits =>
    exact ha.change ht (hadmits.dormant_iff (by decide)) hdv ha.actionKey ha.proposalId
      ha.reference
  | requestApproval hstate _ hversion =>
    refine ha.change ht (hclosed (by decide) (by rw [hstate]; decide)) ?_ (hproposal _).1
      (hproposal _).2 ha.reference
    rw [hversion]
    exact Nat.succ_le_succ ha.decisionVersion
  | authorizeAction hsource =>
    refine ha.change ht (hclosed (by decide) ?_) ?_ (hproposal _).1 (hproposal _).2 ha.reference
    · rcases hsource with ⟨hstate, -⟩ | ⟨hstate, -⟩ <;> (rw [hstate]; decide)
    · rcases hsource with ⟨-, hversion⟩ | ⟨-, hversion, -⟩
      · rw [hversion]
        exact Nat.succ_le_succ ha.decisionVersion
      · rw [hversion]
        exact hdv
  | recordInternalDecision _ hversion _ hadmits =>
    refine ha.change ht (hadmits.dormant_iff ?_) ?_ ha.actionKey ha.proposalId ha.reference
    · unfold RecoveryAggregate.internalTarget
      split <;> decide
    · rw [hversion]
      exact Nat.succ_le_succ ha.decisionVersion
  | beginExecution hstate =>
    exact ha.change ht (hclosed (by decide) (by rw [hstate]; decide)) hdv ha.actionKey
      ha.proposalId ha.reference
  | @recordActionActive key ref _ hadmits =>
    refine ha.change ht (hadmits.dormant_iff (by decide)) hdv ha.actionKey ha.proposalId ?_
    rintro r ⟨⟩
    exact hargs.head rfl
  | recordActionUncertain _ hadmits | requeueAfterAbsenceProven _ hadmits
  | escalateUncertainAction _ hadmits | recordActionFailedSafe _ hadmits =>
    exact ha.change ht (hadmits.dormant_iff (by decide)) hdv ha.actionKey ha.proposalId
      ha.reference
  | recordActiveExpired htarget hadmits =>
    refine ha.change ht (hadmits.dormant_iff ?_) hdv hnone hnone hnone
    rw [htarget]
    split <;> decide
  | originalPaidOpen _ hstarted =>
    exact ha.change ht (hclosed (by decide) hstarted) hdv hnone hnone ha.reference
  | originalPaidClosed =>
    exact ha.change ht Iff.rfl hdv ha.actionKey ha.proposalId ha.reference
  | originalPaidTwice hrecovered =>
    exact ha.change ht (hclosed (by decide) (by rw [hrecovered]; decide)) hdv hnone hnone
      ha.reference
  | recoveryPaid hactive =>
    exact ha.change ht (hclosed (by decide) (by rw [hactive]; decide)) hdv ha.actionKey
      ha.proposalId ha.reference
  | recoveryPaidTwice hactive =>
    exact ha.change ht (hclosed (by decide) (by rw [hactive]; decide)) hdv hnone hnone
      ha.reference
  | duplicateCollection hstarted =>
    exact ha.change ht (hclosed (by decide) hstarted) hdv hnone hnone ha.reference

/-- An enabled branch is taken, to a valid case. -/
theorem exists_execute_of_effect [Hashlib] {a : RecoveryAggregate} {fields : AggregateFields}
    {atTime : Datetime} {t : Timestamp} {command : Command} {moved : Option RecoveryState}
    (h : Effect a.toAggregateFields t command fields moved) (hargs : command.WellFormed)
    (ht : a.Timely atTime t) :
    ∃ b event, b.toAggregateFields = fields ∧
      a.execute ⟨a.version, atTime, command⟩ = .ok ⟨b, [event]⟩ := by
  let b : RecoveryAggregate := ⟨fields, h.valid a.valid hargs ht.2⟩
  obtain ⟨event, hexec⟩ := execute_of_effect (b := b) h hargs ht
  exact ⟨b, event, rfl, hexec⟩

end Retrywise.Domain
