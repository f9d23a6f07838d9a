import Retrywise.Domain.Commands
import Retrywise.Foundation.Run

/-!
# What an accepted command does

Nineteen commands, one transition table: every law about the aggregate has to be
checked for every command against every state the table lets through. That case
analysis is done once, here. `Effect` lists, for each branch of each command
that changes the case, the states it is accepted in, the facts its guards
establish and the record it leaves; `Idle` lists the branches that return the
case unchanged. `execute_accepted` says that an accepted request is one or the
other, and all later modules argue from it.

The lists of accepted states are the ones the *validator* lets through, which
are more than the edges of the diagram: a self-transition passes it, and so does
every edge of the table, whichever command the edge was drawn for.
-/

namespace Retrywise.Domain

open Retrywise.Foundation

inductive Command where
  | observeFailure (providerEventId : String) (extendObservationUntil : Option Datetime)
  | reconcilePaymentTruth (target : CanonicalPaymentState) (evidence : String)
  | updateIncidentState (target : IncidentState) (evidence : String)
  | markReadyForEvaluation
  | wait (reason : String)
  | wake
  | requestApproval (proposal : ActionProposal) (planDecision : GateDecision)
  | authorizeAction (proposal : ActionProposal) (planDecision : GateDecision)
  | recordInternalDecision (proposal : ActionProposal) (planDecision : GateDecision)
  | beginExecution (proposal : ActionProposal) (effectDecision : GateDecision)
  | recordActionActive (actionKey instrumentReference : String)
  | recordActionUncertain (actionKey failureCode : String)
  | requeueAfterAbsenceProven (actionKey : String)
  | escalateUncertainAction (actionKey reason : String)
  | recordActionFailedSafe (actionKey failureCode : String)
  | recordActiveExpired (budgetRemains : Bool)
  | recordOriginalPaid (evidence : String)
  | recordRecoveryPaid (evidence : String)
  | recordDuplicateCollection (evidence : String)

/-- A command as a client sends it: with the version it read, and a time. -/
structure Request where
  expectedVersion : Int
  atTime : Datetime
  command : Command

/-- Dispatch a request to its command. -/
def RecoveryAggregate.execute [Hashlib] (a : RecoveryAggregate) (r : Request) :
    Except DomainError AggregateChange :=
  match r.command with
  | .observeFailure event extend => a.observeFailure r.expectedVersion r.atTime event extend
  | .reconcilePaymentTruth target evidence =>
    a.reconcilePaymentTruth r.expectedVersion r.atTime target evidence
  | .updateIncidentState target evidence =>
    a.updateIncidentState r.expectedVersion r.atTime target evidence
  | .markReadyForEvaluation => a.markReadyForEvaluation r.expectedVersion r.atTime
  | .wait reason => a.wait r.expectedVersion r.atTime reason
  | .wake => a.wake r.expectedVersion r.atTime
  | .requestApproval p d => a.requestApproval r.expectedVersion r.atTime p d
  | .authorizeAction p d => a.authorizeAction r.expectedVersion r.atTime p d
  | .recordInternalDecision p d => a.recordInternalDecision r.expectedVersion r.atTime p d
  | .beginExecution p d => a.beginExecution r.expectedVersion r.atTime p d
  | .recordActionActive key ref => a.recordActionActive r.expectedVersion r.atTime key ref
  | .recordActionUncertain key code => a.recordActionUncertain r.expectedVersion r.atTime key code
  | .requeueAfterAbsenceProven key => a.requeueAfterAbsenceProven r.expectedVersion r.atTime key
  | .escalateUncertainAction key reason =>
    a.escalateUncertainAction r.expectedVersion r.atTime key reason
  | .recordActionFailedSafe key code =>
    a.recordActionFailedSafe r.expectedVersion r.atTime key code
  | .recordActiveExpired budget => a.recordActiveExpired r.expectedVersion r.atTime budget
  | .recordOriginalPaid evidence => a.recordOriginalPaid r.expectedVersion r.atTime evidence
  | .recordRecoveryPaid evidence => a.recordRecoveryPaid r.expectedVersion r.atTime evidence
  | .recordDuplicateCollection evidence =>
    a.recordDuplicateCollection r.expectedVersion r.atTime evidence

/-! ## The guards, as facts -/

/-- The observation deadline is set and has passed at `t`. -/
def AggregateFields.Elapsed (a : AggregateFields) (t : Timestamp) : Prop :=
  ∃ deadline, a.observationDeadline = some deadline ∧ deadline ≤ t

/-- A proposal and a gate decision that are about this case, this version of it
and each other. -/
structure Bound [Hashlib] (a : AggregateFields) (p : ActionProposal) (d : GateDecision)
    (stage : GateStage) (allowed : Bool) : Prop where
  merchantId : p.merchantId = a.merchantId
  proposalCase : p.caseId = a.caseId
  stage : d.stage = stage
  allowed : d.allowed = allowed
  proposalId : d.proposalId = p.proposalId
  actionKey : d.actionKey = p.actionKey
  proposalDigest : d.proposalDigest = p.proposalDigest
  decisionCase : d.caseId = a.caseId
  decisionVersion : d.decisionVersion = p.decisionVersion
  aggregateVersion : d.aggregateVersion = a.version

namespace RecoveryAggregate

variable {a : RecoveryAggregate}

@[simp] theorem requireVersion_ok_iff {v : Int} {u : Unit} :
    a.requireVersion v = .ok u ↔ v = a.version := by
  simp only [requireVersion, bind_ok_iff, raiseIf_ok_iff, exists_const, ne_eq, not_not, not_lt]
  omega

@[simp] theorem requireRecoveryTransition_ok_iff {target : RecoveryState} {u : Unit} :
    a.requireRecoveryTransition target = .ok u ↔ Admits a.state target := by
  rw [← exists_validateRecoveryTransition_ok_iff]
  simp only [requireRecoveryTransition, bind_ok_iff, pure_ok_iff, and_true]

@[simp] theorem requireActiveAction_ok_iff {key : String} {u : Unit} :
    a.requireActiveAction key = .ok u ↔ a.activeActionKey = some key := by
  rw [requireActiveAction, raiseIf_ok_iff, not_not, eq_comm]

@[simp] theorem requireObservationElapsed_ok_iff {atTime : Datetime} {u : Unit} :
    a.requireObservationElapsed atTime = .ok u ↔
      ∃ t, requireUtc atTime "occurred_at" = .ok t ∧ a.Elapsed t := by
  simp only [requireObservationElapsed, bind_ok_iff, AggregateFields.Elapsed]
  cases a.observationDeadline <;> simp

theorem change_ok_iff {eventType : String} {atTime : Datetime} {payload : List (String × Json)}
    {changes : AggregateFields → AggregateFields} {c : AggregateChange} :
    a.change eventType atTime payload changes = .ok c ↔
      isIdentifier eventType = true ∧ ∃ t, requireUtc atTime "occurred_at" = .ok t ∧
        (∀ last, a.lastTransitionAt = some last → last ≤ t) ∧
        c.aggregate.toAggregateFields = changes (a.advanced t) ∧
        c.events = [⟨eventType, a.caseId, a.version + 1, t, .obj payload⟩] := by
  obtain ⟨b, events⟩ := c
  have hlast : ∀ t, (a.lastTransitionAt.any fun last => decide (t < last)) = false ↔
      ∀ last, a.lastTransitionAt = some last → last ≤ t := by
    intro t
    cases a.lastTransitionAt <;> simp
  simp only [change, bind_ok_iff, requireIdentifier_ok_iff, raiseIf_ok_iff, pure_ok_iff,
    exists_const, Bool.not_eq_true, hlast, build_ok_iff, AggregateChange.mk.injEq]
  constructor
  · rintro ⟨_, ⟨hid, -⟩, t, ht, hmono, b', hb', rfl, rfl⟩
    exact ⟨hid, t, ht, hmono, hb', rfl⟩
  · rintro ⟨hid, t, ht, hmono, hb, hevents⟩
    exact ⟨_, ⟨hid, rfl⟩, t, ht, hmono, b, hb, rfl, hevents.symm⟩

@[simp] theorem requireProposalBinding_ok_iff {p : ActionProposal} {next : Bool} {u : Unit} :
    a.requireProposalBinding p next = .ok u ↔
      p.merchantId = a.merchantId ∧ p.caseId = a.caseId ∧
        p.decisionVersion = if next then a.decisionVersion + 1 else a.decisionVersion := by
  simp only [requireProposalBinding, bind_ok_iff, raiseIf_ok_iff, exists_const, not_or, ne_eq,
    not_not, and_assoc]

/-- Both binding checks together make the proposal and the decision `Bound`. -/
theorem bound_of_bindings [Hashlib] {p : ActionProposal} {d : GateDecision} {stage : GateStage}
    {allowed : Bool} {u : Unit} (hm : p.merchantId = a.merchantId) (hc : p.caseId = a.caseId)
    (h : a.requireGateBinding p d stage allowed = .ok u) :
    Bound a.toAggregateFields p d stage allowed := by
  simp only [requireGateBinding, bind_ok_iff, raiseIf_ok_iff, exists_const, not_or, ne_eq,
    not_not] at h
  obtain ⟨hs, ha, hid, hkey, hdig, hcase, hdv, hv⟩ := h
  exact ⟨hm, hc, hs, ha, hid, hkey, hdig, hcase, hdv, hv⟩

theorem gateBinding_of_bound [Hashlib] {p : ActionProposal} {d : GateDecision}
    {stage : GateStage} {allowed : Bool} (h : Bound a.toAggregateFields p d stage allowed) :
    a.requireGateBinding p d stage allowed = .ok () := by
  simp only [requireGateBinding, bind_ok_iff, raiseIf_ok_iff, exists_const, not_or, ne_eq,
    not_not]
  exact ⟨h.stage, h.allowed, h.proposalId, h.actionKey, h.proposalDigest, h.decisionCase,
    h.decisionVersion, h.aggregateVersion⟩

/-- The recorded command time, and how it relates to the record. -/
def Timely (a : RecoveryAggregate) (atTime : Datetime) (t : Timestamp) : Prop :=
  requireUtc atTime "occurred_at" = .ok t ∧ ∀ last, a.lastTransitionAt = some last → last ≤ t

theorem change_accepted {eventType : String} {atTime : Datetime}
    {payload : List (String × Json)} {changes : AggregateFields → AggregateFields}
    {c : AggregateChange} (h : a.change eventType atTime payload changes = .ok c) :
    ∃ t, a.Timely atTime t ∧ c.aggregate.toAggregateFields = changes (a.advanced t) ∧
      c.events = [⟨eventType, a.caseId, a.version + 1, t, .obj payload⟩] := by
  obtain ⟨-, t, ht, hmono, hb, hevents⟩ := change_ok_iff.mp h
  exact ⟨t, ⟨ht, hmono⟩, hb, hevents⟩

theorem workflowChange_accepted {target : RecoveryState} {eventType : String}
    {atTime : Datetime} {payload : List (String × Json)}
    {changes : AggregateFields → AggregateFields} {c : AggregateChange}
    (h : a.workflowChange target eventType atTime payload changes = .ok c) :
    ∃ t, a.Timely atTime t ∧ (target = .assessing → a.Elapsed t) ∧
      c.aggregate.toAggregateFields = changes { a.advanced t with state := target } ∧
      c.events = [⟨eventType, a.caseId, a.version + 1, t, .obj (payload ++
        [("workflow_from", .str a.state.value), ("workflow_to", .str target.value)])⟩] := by
  unfold workflowChange at h
  obtain ⟨_, -, h⟩ := bind_ok_iff.mp h
  split at h
  next htarget =>
    obtain ⟨_, helapsed, h⟩ := bind_ok_iff.mp h
    obtain ⟨t', ht', hel⟩ := requireObservationElapsed_ok_iff.mp helapsed
    obtain ⟨t, htimely, hb, hevents⟩ := change_accepted h
    obtain rfl : t = t' := Except.ok.inj (htimely.1.symm.trans ht')
    exact ⟨t, htimely, fun _ => hel, hb, hevents⟩
  next htarget =>
    obtain ⟨t, htimely, hb, hevents⟩ := change_accepted h
    exact ⟨t, htimely, fun he => absurd he htarget, hb, hevents⟩

end RecoveryAggregate

/-! ## The branches -/

/-- The record a duplicate collection leaves. -/
def AggregateFields.duplicated (a : AggregateFields) (t : Timestamp) : AggregateFields :=
  { a.advanced t with
    paymentState := .overpaid
    state := .duplicateReview
    activeActionKey := none
    activeProposalId := none }

/-- A branch that changes the case: the record before, the time, the command,
the record after, and the workflow target its event reports (`workflow_to`). -/
inductive Effect [Hashlib] (a : AggregateFields) (t : Timestamp) :
    Command → AggregateFields → Option RecoveryState → Prop
  | observeFailure {event extend deadline} :
      a.state = .dormant ∨ a.state = .observing →
      a.lateCapturePolicy.observationDeadline t.toDatetime extend = .ok deadline →
      Effect a t (.observeFailure event extend)
        { a.advanced t with
          state := .observing
          observationStartedAt := some t
          observationDeadline := some deadline } none
  | reconcilePaymentTruth {target evidence} :
      target ∈ paymentTransitions a.paymentState → target ≠ .paid → target ≠ .overpaid →
      Effect a t (.reconcilePaymentTruth target evidence)
        { a.advanced t with paymentState := target } none
  | updateIncidentState {target evidence} :
      target ∈ incidentTransitions a.incidentState →
      Effect a t (.updateIncidentState target evidence)
        { a.advanced t with incidentState := target } none
  | markReadyForEvaluation :
      Admits a.state .assessing → a.paymentState = .unpaid → a.Elapsed t →
      Effect a t .markReadyForEvaluation { a.advanced t with state := .assessing }
        (some .assessing)
  | wait {reason} :
      Admits a.state .waiting →
      Effect a t (.wait reason) { a.advanced t with state := .waiting } (some .waiting)
  | wake :
      Admits a.state .assessing → a.paymentState = .unpaid → a.Elapsed t →
      Effect a t .wake { a.advanced t with state := .assessing } (some .assessing)
  | requestApproval {p d} :
      a.state = .assessing → a.Elapsed t → p.decisionVersion = a.decisionVersion + 1 →
      Bound a p d .policy false →
      d.reasons ≠ [] → (∀ reason ∈ d.reasons, reason ∈ approvalBlockingReasons) →
      p.actionType ∈ collectionActions → a.paymentState = .unpaid →
      Effect a t (.requestApproval p d)
        { a.advanced t with
          state := .approvalRequired
          decisionVersion := p.decisionVersion
          activeActionKey := some p.actionKey
          activeProposalId := some p.proposalId } (some .approvalRequired)
  | authorizeAction {p d} :
      (a.state = .assessing ∧ p.decisionVersion = a.decisionVersion + 1) ∨
        (a.state = .approvalRequired ∧ p.decisionVersion = a.decisionVersion ∧
          a.activeActionKey = some p.actionKey ∧ a.activeProposalId = some p.proposalId) →
      a.Elapsed t → Bound a p d .policy true →
      p.actionType ∈ collectionActions → a.paymentState = .unpaid →
      Effect a t (.authorizeAction p d)
        { a.advanced t with
          state := .actionQueued
          decisionVersion := p.decisionVersion
          activeActionKey := some p.actionKey
          activeProposalId := some p.proposalId } (some .actionQueued)
  | recordInternalDecision {p d} :
      p.actionType ∈ internalActions → p.decisionVersion = a.decisionVersion + 1 →
      Bound a p d .policy true →
      Admits a.state (RecoveryAggregate.internalTarget p.actionType) →
      Effect a t (.recordInternalDecision p d)
        { a.advanced t with
          state := RecoveryAggregate.internalTarget p.actionType
          decisionVersion := p.decisionVersion }
        (some (RecoveryAggregate.internalTarget p.actionType))
  | beginExecution {p d} :
      a.state = .actionQueued → p.decisionVersion = a.decisionVersion →
      Bound a p d .effect true → a.Elapsed t → a.activeActionKey = some p.actionKey →
      a.paymentState = .unpaid →
      Effect a t (.beginExecution p d) { a.advanced t with state := .executing }
        (some .executing)
  | recordActionActive {key ref} :
      a.activeActionKey = some key → Admits a.state .active →
      ¬(a.state = .active ∧ a.activeInstrumentReference = some ref) →
      Effect a t (.recordActionActive key ref)
        { a.advanced t with state := .active, activeInstrumentReference := some ref }
        (some .active)
  | recordActionUncertain {key code} :
      a.activeActionKey = some key → Admits a.state .actionUncertain →
      Effect a t (.recordActionUncertain key code) { a.advanced t with state := .actionUncertain }
        (some .actionUncertain)
  | requeueAfterAbsenceProven {key} :
      a.activeActionKey = some key → Admits a.state .actionQueued →
      Effect a t (.requeueAfterAbsenceProven key) { a.advanced t with state := .actionQueued }
        (some .actionQueued)
  | escalateUncertainAction {key reason} :
      a.activeActionKey = some key → Admits a.state .escalated →
      Effect a t (.escalateUncertainAction key reason) { a.advanced t with state := .escalated }
        (some .escalated)
  | recordActionFailedSafe {key code} :
      a.activeActionKey = some key → Admits a.state .failedSafe →
      Effect a t (.recordActionFailedSafe key code) { a.advanced t with state := .failedSafe }
        (some .failedSafe)
  | recordActiveExpired {budget target} :
      target = (if budget = true then RecoveryState.assessing else .exhausted) →
      Admits a.state target → (target = .assessing → a.Elapsed t) →
      Effect a t (.recordActiveExpired budget)
        { a.advanced t with
          state := target
          activeActionKey := none
          activeProposalId := none
          activeInstrumentReference := none } (some target)
  | originalPaidOpen {evidence} :
      a.state ∈ nonterminalRecoveryStates → a.state ≠ .dormant →
      a.paymentState = .paid ∨ .paid ∈ paymentTransitions a.paymentState →
      Effect a t (.recordOriginalPaid evidence)
        { a.advanced t with
          paymentState := .paid
          state := .suppressedPaid
          activeActionKey := none
          activeProposalId := none } (some .suppressedPaid)
  | originalPaidClosed {evidence} :
      a.state ∉ nonterminalRecoveryStates → a.state ≠ .recovered →
      .paid ∈ paymentTransitions a.paymentState →
      Effect a t (.recordOriginalPaid evidence) { a.advanced t with paymentState := .paid }
        (some a.state)
  | originalPaidTwice {evidence} :
      a.state = .recovered →
      a.paymentState = .overpaid ∨ .overpaid ∈ paymentTransitions a.paymentState →
      Effect a t (.recordOriginalPaid evidence) (a.duplicated t) none
  | recoveryPaid {evidence} :
      a.state = .active → .paid ∈ paymentTransitions a.paymentState →
      Effect a t (.recordRecoveryPaid evidence)
        { a.advanced t with paymentState := .paid, state := .recovered } none
  | recoveryPaidTwice {evidence} :
      a.state = .active → a.paymentState = .paid →
      Effect a t (.recordRecoveryPaid evidence) (a.duplicated t) none
  | duplicateCollection {evidence} :
      a.state ≠ .dormant →
      a.paymentState = .overpaid ∨ .overpaid ∈ paymentTransitions a.paymentState →
      ¬(a.state = .duplicateReview ∧ a.paymentState = .overpaid) →
      Effect a t (.recordDuplicateCollection evidence) (a.duplicated t) none

/-- An internal decision leads to one of three states. -/
theorem RecoveryAggregate.internalTarget_ne {action : ActionType} {other : RecoveryState}
    (h : other ∉ [RecoveryState.waiting, .escalated, .suppressedPolicy]) :
    RecoveryAggregate.internalTarget action ≠ other := by
  intro he
  rw [← he] at h
  revert h
  cases action <;> decide

/-- An expiry leads to one of two states. -/
theorem expiredTarget_ne {budget : Bool} {target other : RecoveryState}
    (htarget : target = if budget = true then RecoveryState.assessing else .exhausted)
    (h : other ∉ [RecoveryState.assessing, .exhausted]) : target ≠ other := by
  intro he
  rw [← he, htarget] at h
  revert h
  cases budget <;> decide

/-- A branch that returns the case as it is, without an event. -/
inductive Idle (a : AggregateFields) : Command → Prop
  | reconcilePaymentTruth {evidence} :
      a.paymentState ≠ .paid → a.paymentState ≠ .overpaid →
      Idle a (.reconcilePaymentTruth a.paymentState evidence)
  | updateIncidentState {evidence} : Idle a (.updateIncidentState a.incidentState evidence)
  | recordActionActive {key ref} :
      a.activeActionKey = some key → a.state = .active →
      a.activeInstrumentReference = some ref → Idle a (.recordActionActive key ref)
  | originalPaid {evidence} :
      a.state ∈ collectionTerminalStates → a.state ≠ .recovered →
      a.paymentState = .paid ∨ (a.state = .duplicateReview ∧ a.paymentState = .overpaid) →
      Idle a (.recordOriginalPaid evidence)
  | recoveryPaid {evidence} :
      a.state = .recovered → a.paymentState = .paid → Idle a (.recordRecoveryPaid evidence)
  | duplicateCollection {evidence} :
      a.state = .duplicateReview → a.paymentState = .overpaid →
      Idle a (.recordDuplicateCollection evidence)

/-- The workflow target an event's payload reports. -/
def AggregateEvent.workflowTo (e : AggregateEvent) : Option Json := e.payload.get? "workflow_to"

/-- An accepted request: bound to the current version, and idle or effective. -/
inductive Accepted [Hashlib] (a : RecoveryAggregate) (r : Request) : AggregateChange → Prop
  | idle : r.expectedVersion = a.version → Idle a.toAggregateFields r.command →
      Accepted a r a.unchanged
  | effective {t b event moved} : r.expectedVersion = a.version → a.Timely r.atTime t →
      Effect a.toAggregateFields t r.command b.toAggregateFields moved →
      event.version = a.version + 1 → event.occurredAt = t →
      event.workflowTo = moved.map (fun target => Json.str target.value) →
      Accepted a r ⟨b, [event]⟩

end Retrywise.Domain
