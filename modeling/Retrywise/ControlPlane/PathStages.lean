import Retrywise.ControlPlane.EffectPath

/-!
# The stages of a path

Between two transactions of create deliveries the three rows of a path move
together: the status of the action says where the case and the instrument are.

> `EffectPath.Staged`: queued, executing and uncertain actions have a case and an
> instrument to match, and an action that is over has left both behind.

Both transactions keep it, on any server, since each is committed whole or not at
all. And on a staged path the status of the action alone decides whether the
statements of a result match their rows (`resultMatches_iff`).
-/

namespace Retrywise.ControlPlane

open Retrywise.Foundation Retrywise.Domain

/-! ## Statements without the server -/

/-- Where the statements lead when every one matches its row. -/
def applyAll : List Update → EffectPath → Option EffectPath
  | [], path => some path
  | update :: updates, path => (update.applied path).bind (applyAll updates)

@[simp] theorem applyAll_nil (path : EffectPath) : applyAll [] path = some path := rfl

@[simp] theorem applyAll_cons (update : Update) (updates : List Update) (path : EffectPath) :
    applyAll (update :: updates) path = (update.applied path).bind (applyAll updates) := rfl

/-- What is committed is what the statements lead to. -/
theorem applyAll_of_runUpdates {server : Server} {now : Timestamp} :
    ∀ {updates : List Update} {path final : EffectPath},
      runUpdates server now updates path = .ok final → applyAll updates path = some final
  | [], path, final, h => congrArg some (Except.ok.inj h)
  | update :: updates, path, final, h => by
    rw [runUpdates] at h
    by_cases htyped : update.typed = false
    · rw [if_pos htyped] at h
      exact absurd h (by simp)
    · rw [if_neg htyped] at h
      cases happlied : update.applied path with
      | none =>
        rw [happlied] at h
        exact absurd h (by simp)
      | some changed =>
        rw [happlied] at h
        by_cases hadmits : server.admits now update.table path changed = true
        · simp only [if_pos hadmits] at h
          rw [applyAll_cons, happlied]
          exact applyAll_of_runUpdates h
        · simp only [if_neg hadmits] at h
          exact absurd h (by simp)

/-! ## The stages -/

/-- The action says where the case and the instrument are; an instrument that is not
settled has no link yet. -/
def EffectPath.Staged (path : EffectPath) : Prop :=
  match path.action.status with
  | .queued =>
    path.recoveryCase.state = .actionQueued ∧ path.instrument.status = .creating ∧
      path.instrument.providerPaymentLinkId = none
  | .executing =>
    path.recoveryCase.state = .executing ∧ path.instrument.status = .creating ∧
      path.instrument.providerPaymentLinkId = none
  | .uncertain | .reconciling =>
    path.recoveryCase.state = .actionUncertain ∧ path.instrument.status = .uncertain ∧
      path.instrument.providerPaymentLinkId = none
  | .planned | .failedRetryable => False
  | .succeeded | .failedSafe | .reconciled | .deadLetter | .cancelled =>
    path.recoveryCase.state ∉ [.actionQueued, .executing, .actionUncertain] ∧
      path.instrument.status ∉ [.creating, .uncertain]

/-- What no statement changes. -/
structure PathTerms where
  around : Surroundings
  actionId : String
  actionKey : String
  externalReferenceId : Option String
  maxAttempts : Nat
  observationContractVersion : Nat
  lastActionId : Option String
  referenceId : String
  amountMinor : Nat
  collectedMinor : Nat

def EffectPath.terms (path : EffectPath) : PathTerms where
  around := path.around
  actionId := path.action.id
  actionKey := path.action.actionKey
  externalReferenceId := path.action.externalReferenceId
  maxAttempts := path.action.maxAttempts
  observationContractVersion := path.recoveryCase.observationContractVersion
  lastActionId := path.recoveryCase.lastActionId
  referenceId := path.instrument.referenceId
  amountMinor := path.instrument.amountMinor
  collectedMinor := path.instrument.collectedMinor

/-- Where an action is after a result was settled. -/
def settledStatus : ExecutionDisposition → List ActionStatus
  | .created | .adopted => [.succeeded, .reconciled]
  | .suppressed => [.cancelled, .deadLetter]
  | .requeued => [.queued]
  | .requeryRequired => [.uncertain]
  | .escalated | .deadLetter => [.failedSafe, .deadLetter]

/-- The statuses in which the statements of a result find their rows. -/
def acceptingStatuses : ExecutionDisposition → List ActionStatus
  | .created | .adopted | .requeued => [.executing, .reconciling]
  | .suppressed => [.queued, .uncertain, .reconciling]
  | .requeryRequired => [.executing]
  | .escalated | .deadLetter => [.queued, .executing, .reconciling]

section

variable {server : Server} {now : Timestamp} {fenced : Bool} {path final : EffectPath}
  {result : ExecutionResult}

/-- A link id comes with a created or adopted result. -/
def ExecutionResult.LinkGiven (result : ExecutionResult) : Prop :=
  result.disposition = .created ∨ result.disposition = .adopted → result.paymentLinkId ≠ none

/-- Every statement the result is settled with matches its row. -/
def ResultMatches (server : Server) (path : EffectPath) (result : ExecutionResult) : Prop :=
  ∃ updates final, resultUpdates server path result = .ok updates ∧
    applyAll updates path = some final

/-- The statements lead to a staged path with the action in one of the statuses. -/
def Leads (updates : List Update) (path : EffectPath) (statuses : List ActionStatus) : Prop :=
  ∃ final, applyAll updates path = some final ∧ final.Staged ∧
    final.action.status ∈ statuses ∧ final.terms = path.terms

/-- On a staged path a created or adopted link is settled whole. -/
theorem leads_adoptionUpdates {linkId : String} (hstaged : path.Staged)
    (hstatus : path.action.status ∈ [ActionStatus.executing, .reconciling]) :
    Leads (adoptionUpdates path result linkId) path [.succeeded, .reconciled] := by
  simp only [List.mem_cons, List.not_mem_nil, or_false] at hstatus
  rcases hstatus with hstatus | hstatus
  · simp only [EffectPath.Staged, hstatus] at hstaged
    simp [Leads, adoptionUpdates, EffectPath.unsettled, hstaged, hstatus, issueInstrument,
      activateInstrument, onInstrument, completeAction, onAction, activateCase, onCase,
      EffectPath.Staged, EffectPath.terms]
  · simp only [EffectPath.Staged, hstatus] at hstaged
    simp [Leads, adoptionUpdates, EffectPath.unsettled, hstaged, hstatus, issueInstrument,
      activateInstrument, onInstrument, completeAction, onAction, activateCase, onCase,
      EffectPath.Staged, EffectPath.terms]

/-- Nothing certain: all three rows become uncertain. -/
theorem leads_requery {reason : String} (hstaged : path.Staged)
    (hstatus : path.action.status = .executing) :
    Leads [markUncertainAction reason, markUncertainInstrument,
      markUncertainCase path.recoveryCase.version] path [.uncertain] := by
  simp only [EffectPath.Staged, hstatus] at hstaged
  simp [Leads, markUncertainAction, markUncertainInstrument, markUncertainCase, onAction,
    onInstrument, onCase, hstaged, hstatus, EffectPath.Staged, EffectPath.terms]

/-- A definite failure, or a create that never happened: back to the queue. -/
theorem leads_requeue_executing {reason : String} (hstaged : path.Staged)
    (hstatus : path.action.status = .executing) :
    Leads [markActionRetryable reason, queueRetryableAction,
      markUncertainCase path.recoveryCase.version,
      queueUncertainCase (path.recoveryCase.version + 1)] path [.queued] := by
  simp only [EffectPath.Staged, hstatus] at hstaged
  simp [Leads, markActionRetryable, queueRetryableAction, markUncertainCase, queueUncertainCase,
    onAction, onCase, hstaged, hstatus, EffectPath.Staged, EffectPath.terms]

theorem leads_requeue_reconciling {reason : String} (hstaged : path.Staged)
    (hstatus : path.action.status = .reconciling) :
    Leads [requeueActionFromReconciling reason, queueUncertainCase path.recoveryCase.version,
      resetUncertainInstrument] path [.queued] := by
  simp only [EffectPath.Staged, hstatus] at hstaged
  simp [Leads, requeueActionFromReconciling, queueUncertainCase, resetUncertainInstrument,
    onAction, onCase, onInstrument, hstaged, hstatus, EffectPath.Staged, EffectPath.terms]

/-- An effect that failed for good leaves all three rows failed. -/
theorem leads_failure {reason : String} {completedAt : Timestamp} (hstaged : path.Staged)
    (hstatus : path.action.status ∈ [ActionStatus.queued, .executing, .reconciling]) :
    Leads ([failAction server reason completedAt] ++
      (if path.unsettled then [failInstrument completedAt] else []) ++
      [failCase path.recoveryCase.version reason completedAt]) path [.failedSafe, .deadLetter] := by
  simp only [List.mem_cons, List.not_mem_nil, or_false] at hstatus
  rcases hstatus with hstatus | hstatus | hstatus <;>
  · simp only [EffectPath.Staged, hstatus] at hstaged
    simp [Leads, failAction, failInstrument, failCase, endCase, onAction, onCase, onInstrument,
      hstaged, hstatus, EffectPath.unsettled, EffectPath.Staged, EffectPath.terms]

/-- A suppressed effect ends the action with the statement for its status. -/
theorem leads_suppression_queued {snapshot reason : String} {codes : List String}
    {completedAt : Timestamp} {terminal : RecoveryState} (hstaged : path.Staged)
    (hstatus : path.action.status = .queued)
    (hterminal : terminal ∉ [RecoveryState.actionQueued, .executing, .actionUncertain]) :
    Leads (suppressionUpdates path result (cancelQueuedAction snapshot codes reason completedAt)
      terminal) path [.cancelled, .deadLetter] := by
  simp only [EffectPath.Staged, hstatus] at hstaged
  simp only [List.mem_cons, List.not_mem_nil, or_false, not_or] at hterminal
  simp [Leads, suppressionUpdates, cancelQueuedAction, suppressInstrument, suppressCase, endCase,
    onAction, onCase, onInstrument, hstaged, hstatus, hterminal, EffectPath.unsettled,
    EffectPath.Staged, EffectPath.terms]

theorem leads_suppression_uncertain {reason : String} {completedAt : Timestamp}
    {terminal : RecoveryState} (hstaged : path.Staged)
    (hstatus : path.action.status ∈ [ActionStatus.uncertain, .reconciling])
    (hterminal : terminal ∉ [RecoveryState.actionQueued, .executing, .actionUncertain]) :
    Leads (suppressionUpdates path result (deadLetterUncertainAction reason completedAt)
      terminal) path [.cancelled, .deadLetter] := by
  simp only [List.mem_cons, List.not_mem_nil, or_false, not_or] at hstatus hterminal
  rcases hstatus with hstatus | hstatus <;>
  · simp only [EffectPath.Staged, hstatus] at hstaged
    simp [Leads, suppressionUpdates, deadLetterUncertainAction, suppressInstrument, suppressCase,
      endCase, onAction, onCase, onInstrument, hstaged, hstatus, hterminal, EffectPath.unsettled,
      EffectPath.Staged, EffectPath.terms]

/-! ## Which results are accepted -/

/-- On a staged path, in an accepting status, the statements of a result match. -/
theorem leads_resultUpdates (server : Server) (hstaged : path.Staged) (hlink : result.LinkGiven)
    (hstatus : path.action.status ∈ acceptingStatuses result.disposition) :
    ∃ updates, resultUpdates server path result = .ok updates ∧
      Leads updates path (settledStatus result.disposition) := by
  unfold resultUpdates
  cases hdisposition : result.disposition with
  | created | adopted =>
    rw [hdisposition] at hstatus
    obtain ⟨linkId, hgiven⟩ := Option.ne_none_iff_exists'.mp (hlink (by simp [hdisposition]))
    have hfree : path.instrument.providerPaymentLinkId = none := by
      simp only [acceptingStatuses, List.mem_cons, List.not_mem_nil, or_false] at hstatus
      rcases hstatus with h | h
      · simp only [EffectPath.Staged, h] at hstaged
        exact hstaged.2.2
      · simp only [EffectPath.Staged, h] at hstaged
        exact hstaged.2.2
    refine ⟨adoptionUpdates path result linkId, ?_, leads_adoptionUpdates hstaged hstatus⟩
    simp [hgiven, hfree]
  | requeryRequired =>
    rw [hdisposition] at hstatus
    exact ⟨_, rfl, leads_requery hstaged (List.mem_singleton.mp hstatus)⟩
  | requeued =>
    rw [hdisposition] at hstatus
    simp only [acceptingStatuses, List.mem_cons, List.not_mem_nil, or_false] at hstatus
    rcases hstatus with h | h
    · simp only [h]
      exact ⟨_, rfl, leads_requeue_executing hstaged h⟩
    · simp only [h]
      exact ⟨_, rfl, leads_requeue_reconciling hstaged h⟩
  | escalated | deadLetter =>
    rw [hdisposition] at hstatus
    exact ⟨_, rfl, leads_failure hstaged hstatus⟩
  | suppressed =>
    rw [hdisposition] at hstatus
    simp only [acceptingStatuses, List.mem_cons, List.not_mem_nil, or_false] at hstatus
    rcases hstatus with h | h | h
    · simp only [h]
      refine ⟨_, rfl, leads_suppression_queued hstaged h ?_⟩
      split <;> simp
    · simp only [h]
      refine ⟨_, rfl, leads_suppression_uncertain hstaged (by simp [h]) ?_⟩
      split <;> simp
    · simp only [h]
      refine ⟨_, rfl, leads_suppression_uncertain hstaged (by simp [h]) ?_⟩
      split <;> simp

/-- In any other status one statement does not, or none is issued at all. -/
theorem not_resultMatches (hdisposition : result.disposition ∉
      [ExecutionDisposition.created, .adopted])
    (hstatus : path.action.status ∉ acceptingStatuses result.disposition) :
    ¬ResultMatches server path result := by
  intro h
  obtain ⟨updates, final, hupdates, happlied⟩ := h
  unfold resultUpdates at hupdates
  cases hd : result.disposition with
  | created | adopted => exact hdisposition (by simp [hd])
  | requeryRequired =>
    simp only [hd] at hupdates hstatus
    rw [← Except.ok.inj hupdates, applyAll_cons] at happlied
    simp only [acceptingStatuses, List.mem_singleton] at hstatus
    simp [markUncertainAction, onAction, hstatus] at happlied
  | requeued =>
    simp only [hd] at hupdates hstatus
    simp only [acceptingStatuses, List.mem_cons, List.not_mem_nil, or_false, not_or] at hstatus
    split at hupdates
    next h => exact hstatus.1 h
    next h => exact hstatus.2 h
    next => exact absurd hupdates (by simp)
  | escalated | deadLetter =>
    simp only [hd] at hupdates hstatus
    rw [← Except.ok.inj hupdates, List.append_assoc, List.singleton_append, applyAll_cons]
      at happlied
    simp only [acceptingStatuses, List.mem_cons, List.not_mem_nil, or_false] at hstatus
    simp [failAction, onAction, hstatus] at happlied
  | suppressed =>
    simp only [hd] at hupdates hstatus
    simp only [acceptingStatuses, List.mem_cons, List.not_mem_nil, or_false, not_or] at hstatus
    split at hupdates
    next h => exact hstatus.1 h
    next h => exact hstatus.2.1 h
    next h => exact hstatus.2.2 h
    next => exact absurd hupdates (by simp)

/-- What is committed of a result: it was accepted, and settled whole. -/
theorem persistResult_ok (hstaged : path.Staged) (hlink : result.LinkGiven)
    (hafter : result.disposition ∈ [ExecutionDisposition.created, .adopted] →
      path.action.status ∈ [ActionStatus.executing, .reconciling])
    (h : persistResult server fenced now path result = .ok final) :
    fenced = true ∧ path.action.status ∈ acceptingStatuses result.disposition ∧ final.Staged ∧
      final.action.status ∈ settledStatus result.disposition ∧ final.terms = path.terms := by
  unfold persistResult at h
  obtain ⟨_, hfenced, h⟩ := bind_ok_iff.mp h
  obtain ⟨updates, hupdates, hrun⟩ := bind_ok_iff.mp h
  have happlied := applyAll_of_runUpdates hrun
  have haccepted : path.action.status ∈ acceptingStatuses result.disposition := by
    by_cases hdisposition : result.disposition ∈ [ExecutionDisposition.created, .adopted]
    · have hstatus := hafter hdisposition
      simp only [List.mem_cons, List.not_mem_nil, or_false] at hdisposition
      rcases hdisposition with hd | hd
      · rw [hd]
        exact hstatus
      · rw [hd]
        exact hstatus
    · by_contra hnot
      exact not_resultMatches hdisposition hnot ⟨updates, final, hupdates, happlied⟩
  obtain ⟨updates', hupdates', final', happlied', hstaged', hstatus', hterms'⟩ :=
    leads_resultUpdates server hstaged hlink haccepted
  obtain rfl := Except.ok.inj (hupdates.symm.trans hupdates')
  obtain rfl := Option.some.inj (happlied.symm.trans happlied')
  exact ⟨by simpa using hfenced, haccepted, hstaged', hstatus', hterms'⟩

/-! ## The authorization -/

section

variable [Hashlib] {job : OutboxJob} {command : CreatePaymentLinkCommand}
  {decision : GateDecision} {context : GateContext} {workerId : String}
  {reconciliationOnly : Bool}

/-- What a recorded authorization establishes: the fence was held, the path was the
one decided on, and the action is now at work. -/
theorem recordEffectAuthorization_ok (hstaged : path.Staged)
    (h : recordEffectAuthorization server fenced now path job command decision context workerId
      reconciliationOnly = .ok final) :
    fenced = true ∧ decision.allowed = true ∧ path.Bound command context ∧ final.Staged ∧
      final.terms = path.terms ∧
      ((reconciliationOnly = true ∧ path.action.status ∈ [ActionStatus.uncertain, .reconciling] ∧
          final.action.status = .reconciling) ∨
        (reconciliationOnly = false ∧ path.action.status ∈ [ActionStatus.queued, .executing] ∧
          final.action.status = .executing)) := by
  unfold recordEffectAuthorization at h
  obtain ⟨_, hallowed, h⟩ := bind_ok_iff.mp h
  obtain ⟨_, hfenced, h⟩ := bind_ok_iff.mp h
  obtain ⟨_, hbound, h⟩ := bind_ok_iff.mp h
  obtain ⟨updates, hupdates, hrun⟩ := bind_ok_iff.mp h
  have happlied := applyAll_of_runUpdates hrun
  refine ⟨by simpa using hfenced, by simpa using hallowed, by simpa using hbound, ?_⟩
  unfold authorizationUpdates at hupdates
  by_cases hmode : reconciliationOnly = true
  · rw [if_pos hmode] at hupdates
    split_ifs at hupdates with hrefused
    rw [not_or, not_not, not_not] at hrefused
    obtain ⟨hstate, hstatus⟩ := hrefused
    rw [← Except.ok.inj hupdates] at happlied
    simp only [List.mem_cons, List.not_mem_nil, or_false] at hstatus
    rcases hstatus with hstatus | hstatus <;>
    · simp only [EffectPath.Staged, hstatus] at hstaged
      simp only [applyAll_cons, applyAll_nil, startReconciliation, onAction, hstatus,
        List.mem_cons, List.not_mem_nil, or_false, or_true, true_or, if_true, Option.bind_some,
        Option.some.injEq] at happlied
      subst happlied
      simp [EffectPath.Staged, EffectPath.terms, hmode, hstaged, hstatus]
  · rw [if_neg hmode] at hupdates
    have hmode' : reconciliationOnly = false := by simpa using hmode
    split_ifs at hupdates with hqueued hrefused
    · obtain ⟨hstate, hstatus⟩ := hqueued
      rw [← Except.ok.inj hupdates] at happlied
      simp only [EffectPath.Staged, hstatus] at hstaged
      simp only [applyAll_cons, applyAll_nil, startCaseExecution, startActionExecution, onCase,
        onAction, hstate, hstatus, List.mem_singleton, and_self, if_true, Option.bind_some,
        Option.some.injEq] at happlied
      subst happlied
      simp [EffectPath.Staged, EffectPath.terms, hmode', hstaged, hstatus]
    · rw [not_or, not_not, not_not] at hrefused
      rw [← Except.ok.inj hupdates] at happlied
      obtain rfl := Option.some.inj happlied
      simp [hmode', hstaged, hrefused.2]

omit [Hashlib] in
/-- A delivery that may only reconcile is recorded where the action is uncertain. -/
theorem authorizationUpdates_reconcile_ok_iff (hstaged : path.Staged) {updates : List Update} :
    authorizationUpdates path job decision workerId true = .ok updates ↔
      path.action.status ∈ [ActionStatus.uncertain, .reconciling] ∧
        updates = [startReconciliation workerId job.leaseExpiresAt decision.evaluatedAt] := by
  rw [authorizationUpdates, if_pos rfl]
  constructor
  · intro h
    split_ifs at h with hrefused
    rw [not_or, not_not, not_not] at hrefused
    exact ⟨hrefused.2, (Except.ok.inj h).symm⟩
  · intro h
    obtain ⟨hstatus, rfl⟩ := h
    have hcase : path.recoveryCase.state = .actionUncertain := by
      have hat := hstatus
      simp only [List.mem_cons, List.not_mem_nil, or_false] at hat
      rcases hat with hat | hat <;> simp only [EffectPath.Staged, hat] at hstaged <;>
        exact hstaged.1
    rw [if_neg (by simp [hcase, hstatus])]

end

end

end Retrywise.ControlPlane
