import Retrywise.ControlPlane.PathStages
import Retrywise.ControlPlane.PathLifecycle

/-!
# The path under the database of the migrations

Every row the writer leaves has passed the triggers and the checks of its table, so
along deliveries a path carries more than its stage:

> `EffectPath.Journaled`: the rows pass their checks; an action without gate evidence
> has never been attempted; and the evidence of one that has is a decision made at an
> earlier version of the case.

Each statement of the writer keeps it, where the database admits the statement
(`Keeps`), and with it both transactions. `EffectPath.AsQueued` is how the
assessment, or an approval, leaves a path.
-/

namespace Retrywise.ControlPlane

open Retrywise.Foundation Retrywise.Domain

/-- A path with its action just queued. -/
structure EffectPath.AsQueued (path : EffectPath) : Prop where
  status : path.action.status = .queued
  leaseOwner : path.action.leaseOwner = none
  leaseExpiresAt : path.action.leaseExpiresAt = none
  attemptNumber : path.action.attemptNumber = 0
  maxAttempts : path.action.maxAttempts ≠ 0
  effectGateSnapshot : path.action.effectGateSnapshot = none
  effectGateVerdict : path.action.effectGateVerdict = none
  effectGateReasonCodes : path.action.effectGateReasonCodes = []
  firstAttemptedAt : path.action.firstAttemptedAt = none
  lastAttemptedAt : path.action.lastAttemptedAt = none
  completedAt : path.action.completedAt = none
  deadLetteredAt : path.action.deadLetteredAt = none
  deadLetterReason : path.action.deadLetterReason = none
  caseState : path.recoveryCase.state = .actionQueued
  contract : path.recoveryCase.observationContractVersion = 1
  lastActionId : path.recoveryCase.lastActionId = some path.action.id
  terminalReasonCode : path.recoveryCase.terminalReasonCode = none
  terminalAt : path.recoveryCase.terminalAt = none
  instrumentStatus : path.instrument.status = .creating
  providerPaymentLinkId : path.instrument.providerPaymentLinkId = none
  lastReconciledAt : path.instrument.lastReconciledAt = none
  collectedMinor : path.instrument.collectedMinor = 0
  referenced : path.action.externalReferenceId = some path.instrument.referenceId
  orderTruth : path.around.orderTruth = .unpaid

theorem EffectPath.AsQueued.staged {path : EffectPath} (h : path.AsQueued) : path.Staged := by
  simp only [EffectPath.Staged, h.status]
  exact ⟨h.caseState, h.instrumentStatus, h.providerPaymentLinkId⟩

/-- Between two transactions an action is open, or over. -/
theorem EffectPath.Staged.status {path : EffectPath} (h : path.Staged) :
    path.action.status ∈ [ActionStatus.queued, .executing, .uncertain, .reconciling] ∨
      path.action.status ∈ completedStatuses := by
  cases hstatus : path.action.status with
  | planned | failedRetryable =>
    simp only [EffectPath.Staged, hstatus] at h
  | queued | executing | uncertain | reconciling => left; decide
  | succeeded | failedSafe | reconciled | deadLetter | cancelled => right; decide

/-! ## The journal -/

/-- The evidence an open action carries. -/
def ActionRow.StartedBefore (a : ActionRow) (version : Nat) : Prop :=
  ∀ text, a.effectGateSnapshot = some text → a.status ∉ completedStatuses →
    a.effectGateVerdict = some .allowed ∧
      ∃ d : GateDecision, text = gateSnapshot d ∧ d.aggregateVersion < version

structure EffectPath.Journaled (path : EffectPath) : Prop where
  contract : path.recoveryCase.observationContractVersion ≠ 0
  lastAction : path.recoveryCase.lastActionId = some path.action.id
  referenced : path.action.externalReferenceId = some path.instrument.referenceId
  unpaid : path.around.orderTruth = .unpaid
  room : path.action.maxAttempts ≠ 0
  actionChecks : path.action.checks = true
  caseChecks : path.recoveryCase.terminalCheck = true
  uncollected : path.instrument.collectedMinor = 0
  unreconciled : path.unsettled = true → path.instrument.lastReconciledAt = none
  unstarted : path.action.effectGateSnapshot = none →
    path.action.attemptNumber = 0 ∧ path.action.firstAttemptedAt = none
  started : path.action.StartedBefore path.recoveryCase.version

theorem EffectPath.AsQueued.journaled {path : EffectPath} (h : path.AsQueued) :
    path.Journaled where
  contract := by simp [h.contract]
  lastAction := h.lastActionId
  referenced := h.referenced
  unpaid := h.orderTruth
  room := h.maxAttempts
  actionChecks := by
    simp [ActionRow.checks, ActionRow.leaseCheck, ActionRow.timelineCheck,
      ActionRow.gatePairCheck, ActionRow.executionEvidenceCheck, ActionRow.completionCheck,
      ActionRow.deadLetterCheck, completedStatuses, executedStatuses, h.status, h.leaseOwner,
      h.leaseExpiresAt, h.attemptNumber, h.effectGateSnapshot, h.effectGateVerdict,
      h.effectGateReasonCodes, h.firstAttemptedAt, h.lastAttemptedAt, h.completedAt,
      h.deadLetteredAt, h.deadLetterReason]
  caseChecks := by
    simp [CaseRow.terminalCheck, terminalCaseStates, h.caseState, h.terminalReasonCode,
      h.terminalAt]
  uncollected := h.collectedMinor
  unreconciled := fun _ => h.lastReconciledAt
  unstarted := fun _ => ⟨h.attemptNumber, h.firstAttemptedAt⟩
  started := by
    intro text htext
    rw [h.effectGateSnapshot] at htext
    exact absurd htext (by simp)

/-! ## Statements that keep it -/

/-- An admitted statement leaves a journaled path journaled. -/
def Keeps (server : Server) (update : Update) : Prop :=
  ∀ now path changed, update.applied path = some changed →
    server.admits now update.table path changed = true → path.Journaled → changed.Journaled

theorem journaled_of_runUpdates {server : Server} {now : Timestamp} :
    ∀ {updates : List Update} {path final : EffectPath}, (∀ u ∈ updates, Keeps server u) →
      path.Journaled → runUpdates server now updates path = .ok final → final.Journaled
  | [], path, final, _, hpath, h => Except.ok.inj h ▸ hpath
  | update :: updates, path, final, hkeeps, hpath, h => by
    rw [runUpdates] at h
    split_ifs at h
    split at h
    next => exact absurd h (by simp)
    next changed happlied =>
      split_ifs at h with hadmits
      exact journaled_of_runUpdates (fun u hu => hkeeps u (List.mem_cons_of_mem _ hu))
        (hkeeps update (List.mem_cons_self ..) now path changed happlied hadmits hpath) h

section

variable {storesCaseText : Bool}

/-- A statement on the case that leaves its action and its contract alone. -/
theorem keeps_onCase {operation : String} {states : List RecoveryState} {version : Nat}
    {assign : CaseRow → CaseRow}
    (hframe : ∀ c, (assign c).lastActionId = c.lastActionId ∧
      (assign c).observationContractVersion = c.observationContractVersion) :
    Keeps (schemaServer storesCaseText) (onCase operation states version assign) := by
  intro now path changed happlied hadmits h
  simp only [onCase] at happlied hadmits
  split_ifs at happlied with hmatch
  obtain rfl := Option.some.inj happlied
  simp only [schemaServer, caseTrigger, Bool.and_eq_true] at hadmits
  obtain ⟨hlast, hcontract⟩ := hframe path.recoveryCase
  exact {
    contract := fun hzero => h.contract (hcontract.symm.trans hzero)
    lastAction := hlast.trans h.lastAction
    referenced := h.referenced
    unpaid := h.unpaid
    room := h.room
    actionChecks := h.actionChecks
    caseChecks := hadmits.2
    uncollected := h.uncollected
    unreconciled := h.unreconciled
    unstarted := h.unstarted
    started := by
      intro text htext hopen
      obtain ⟨hverdict, d, hd, hversion⟩ := h.started text htext hopen
      have hsame := hmatch.2
      exact ⟨hverdict, d, hd, by dsimp only; omega⟩ }

/-- What a statement on the action leaves of its identity. -/
def ActionRow.SameAction (a b : ActionRow) : Prop :=
  b.id = a.id ∧ b.externalReferenceId = a.externalReferenceId ∧ b.maxAttempts = a.maxAttempts

/-- What a statement on the action leaves of its journal. -/
def ActionRow.SameJournal (a b : ActionRow) : Prop :=
  b.attemptNumber = a.attemptNumber ∧ b.firstAttemptedAt = a.firstAttemptedAt ∧
    b.effectGateSnapshot = a.effectGateSnapshot ∧ b.effectGateVerdict = a.effectGateVerdict

/-- A statement on the action keeps the path journaled if it keeps the journal, or
keeps it in a state of its own. -/
theorem journaled_of_action {now : Timestamp} {path : EffectPath} {row : ActionRow}
    (h : path.Journaled) (hsame : path.action.SameAction row)
    (hadmits : actionTrigger now path row = true)
    (hunstarted : row.effectGateSnapshot = none →
      row.attemptNumber = 0 ∧ row.firstAttemptedAt = none)
    (hstarted : row.StartedBefore path.recoveryCase.version) :
    ({ path with action := row } : EffectPath).Journaled := by
  obtain ⟨hid, hreference, hmax⟩ := hsame
  simp only [actionTrigger, Bool.and_eq_true] at hadmits
  exact {
    contract := h.contract
    lastAction := by
      dsimp only
      rw [hid]
      exact h.lastAction
    referenced := hreference.trans h.referenced
    unpaid := h.unpaid
    room := fun hzero => h.room (hmax.symm.trans hzero)
    actionChecks := hadmits.2
    caseChecks := h.caseChecks
    uncollected := h.uncollected
    unreconciled := h.unreconciled
    unstarted := hunstarted
    started := hstarted }

theorem keeps_onAction {operation : String} {statuses : List ActionStatus}
    {assign : ActionRow → ActionRow} (hsame : ∀ a : ActionRow, a.SameAction (assign a))
    (hjournal : ∀ a : ActionRow, a.SameJournal (assign a))
    (hopen : ∀ status ∈ statuses, status ∉ completedStatuses) :
    Keeps (schemaServer storesCaseText) (onAction operation statuses assign) := by
  intro now path changed happlied hadmits h
  simp only [onAction] at happlied hadmits
  split_ifs at happlied with hmatch
  obtain rfl := Option.some.inj happlied
  obtain ⟨hattempts, hfirst, hsnapshot, hverdict⟩ := hjournal path.action
  refine journaled_of_action h (hsame path.action) hadmits ?_ ?_
  · intro hnone
    rw [hattempts, hfirst]
    exact h.unstarted (hsnapshot.symm.trans hnone)
  · intro text htext _
    rw [hverdict]
    exact h.started text (hsnapshot.symm.trans htext) (hopen _ hmatch)

/-- A statement on the instrument keeps the path journaled if it leaves the reference
and the money alone, and dates no instrument that stays open. -/
theorem keeps_onInstrument {operation : String} {statuses : List InstrumentStatus}
    {assign : InstrumentRow → InstrumentRow}
    (hframe : ∀ i, (assign i).referenceId = i.referenceId ∧
      (assign i).collectedMinor = i.collectedMinor)
    (hdated : ∀ i, i.status ∈ statuses → (assign i).status ∈ [.creating, .uncertain] →
      i.status ∈ [.creating, .uncertain] ∧ (assign i).lastReconciledAt = i.lastReconciledAt) :
    Keeps (schemaServer storesCaseText) (onInstrument operation statuses assign) := by
  intro now path changed happlied _ h
  simp only [onInstrument] at happlied
  split_ifs at happlied with hmatch
  obtain rfl := Option.some.inj happlied
  obtain ⟨hreference, hcollected⟩ := hframe path.instrument
  exact {
    contract := h.contract
    lastAction := h.lastAction
    referenced := by
      dsimp only
      rw [hreference]
      exact h.referenced
    unpaid := h.unpaid
    room := h.room
    actionChecks := h.actionChecks
    caseChecks := h.caseChecks
    uncollected := hcollected.trans h.uncollected
    unreconciled := by
      intro hunsettled
      have hstatus : (assign path.instrument).status ∈ [.creating, .uncertain] := by
        simpa [EffectPath.unsettled] using hunsettled
      obtain ⟨hbefore, hsame⟩ := hdated path.instrument hmatch hstatus
      exact hsame.trans (h.unreconciled (by simpa [EffectPath.unsettled] using hbefore))
    unstarted := h.unstarted
    started := h.started }

theorem keeps_issueInstrument {linkId : String} {completedAt : Timestamp} :
    Keeps (schemaServer storesCaseText) (issueInstrument linkId completedAt) := by
  intro now path changed happlied _ h
  simp only [issueInstrument] at happlied
  split_ifs at happlied
  obtain rfl := Option.some.inj happlied
  exact {
    contract := h.contract
    lastAction := h.lastAction
    referenced := h.referenced
    unpaid := h.unpaid
    room := h.room
    actionChecks := h.actionChecks
    caseChecks := h.caseChecks
    uncollected := h.uncollected
    unreconciled := fun hunsettled => absurd hunsettled (by simp [EffectPath.unsettled])
    unstarted := h.unstarted
    started := h.started }

/-- The one statement of a result that writes evidence closes the action with it. -/
theorem keeps_cancelQueuedAction {snapshot reason : String} {codes : List String}
    {completedAt : Timestamp} : Keeps (schemaServer storesCaseText)
      (cancelQueuedAction snapshot codes reason completedAt) := by
  intro now path changed happlied hadmits h
  simp only [cancelQueuedAction, onAction] at happlied hadmits
  split_ifs at happlied
  obtain rfl := Option.some.inj happlied
  refine journaled_of_action h ⟨rfl, rfl, rfl⟩ hadmits ?_ ?_
  · intro hnone
    exact absurd hnone (by simp)
  · intro text _ hopen
    exact absurd hopen (by simp [completedStatuses])

theorem keeps_suppressInstrument {reconciliation : ReconciliationStatus} {providerStatus : String}
    {completedAt : Timestamp} : Keeps (schemaServer storesCaseText)
      (suppressInstrument reconciliation providerStatus completedAt) :=
  keeps_onInstrument (fun _ => ⟨rfl, rfl⟩) fun _ _ hopen => absurd hopen (by simp)

theorem keeps_failInstrument {completedAt : Timestamp} :
    Keeps (schemaServer storesCaseText) (failInstrument completedAt) :=
  keeps_onInstrument (fun _ => ⟨rfl, rfl⟩) fun _ _ hopen => absurd hopen (by simp)

theorem keeps_endCase {operation : String} {states : List RecoveryState} {version : Nat}
    {terminal : RecoveryState} {reason : String} {completedAt : Timestamp} :
    Keeps (schemaServer storesCaseText)
      (endCase operation states version terminal reason completedAt) :=
  keeps_onCase fun _ => ⟨rfl, rfl⟩

theorem keeps_startCaseExecution {version : Nat} :
    Keeps (schemaServer storesCaseText) (startCaseExecution version) :=
  keeps_onCase fun _ => ⟨rfl, rfl⟩

theorem keeps_typed {update : Update} {typed : Bool}
    (h : Keeps (schemaServer storesCaseText) update) :
    Keeps (schemaServer storesCaseText) { update with typed := typed } := h

theorem keeps_failAction {server : Server} {reason : String} {completedAt : Timestamp} :
    Keeps (schemaServer storesCaseText) (failAction server reason completedAt) :=
  keeps_typed (keeps_onAction (fun _ => ⟨rfl, rfl, rfl⟩) (fun _ => ⟨rfl, rfl, rfl, rfl⟩) (by decide))

theorem keeps_adoptionUpdates {path : EffectPath} {result : ExecutionResult} {linkId : String} :
    ∀ u ∈ adoptionUpdates path result linkId, Keeps (schemaServer storesCaseText) u := by
  have hactivate : Keeps (schemaServer storesCaseText) activateInstrument :=
    keeps_onInstrument (fun _ => ⟨rfl, rfl⟩) fun _ _ hopen => absurd hopen (by simp)
  have hcomplete : Keeps (schemaServer storesCaseText) (completeAction path.action.status
      (if path.action.status = .executing then .succeeded else .reconciled)
      result.responseMetadata linkId result.effectDecision.evaluatedAt) := by
    intro now q changed happlied hadmits h
    simp only [completeAction, onAction] at happlied hadmits
    split_ifs at happlied
    all_goals
      obtain rfl := Option.some.inj happlied
      refine journaled_of_action h ⟨rfl, rfl, rfl⟩ hadmits h.unstarted ?_
      intro text _ hopen
      exact absurd hopen (by simp [completedStatuses])
  unfold adoptionUpdates
  dsimp only
  intro u hu
  rcases List.mem_append.mp hu with hu | hu
  · split_ifs at hu
    · rcases List.mem_cons.mp hu with rfl | hu
      · exact keeps_issueInstrument
      · exact List.mem_singleton.mp hu ▸ hactivate
    · exact absurd hu (by simp)
  · rcases List.mem_cons.mp hu with rfl | hu
    · exact hcomplete
    · exact List.mem_singleton.mp hu ▸ keeps_onCase fun _ => ⟨rfl, rfl⟩

theorem keeps_suppressionUpdates {path : EffectPath} {result : ExecutionResult}
    {endAction : Update} {terminal : RecoveryState}
    (hend : Keeps (schemaServer storesCaseText) endAction) :
    ∀ u ∈ suppressionUpdates path result endAction terminal,
      Keeps (schemaServer storesCaseText) u := by
  unfold suppressionUpdates
  dsimp only
  intro u hu
  rcases List.mem_append.mp hu with hu | hu
  · rcases List.mem_append.mp hu with hu | hu
    · exact List.mem_singleton.mp hu ▸ hend
    · split_ifs at hu
      · exact List.mem_singleton.mp hu ▸ keeps_suppressInstrument
      · exact List.mem_singleton.mp hu ▸ keeps_suppressInstrument
      · exact absurd hu (by simp)
  · exact List.mem_singleton.mp hu ▸ keeps_endCase

/-- Every statement of a result keeps the journal. -/
theorem keeps_resultUpdates {path : EffectPath} {result : ExecutionResult} {updates : List Update}
    (h : resultUpdates (schemaServer storesCaseText) path result = .ok updates) :
    ∀ u ∈ updates, Keeps (schemaServer storesCaseText) u := by
  unfold resultUpdates at h
  cases hd : result.disposition with
  | created | adopted =>
    simp only [hd] at h
    split at h
    next => exact absurd h (by simp)
    next =>
      split_ifs at h
      exact Except.ok.inj h ▸ keeps_adoptionUpdates
  | requeryRequired =>
    simp only [hd] at h
    rw [← Except.ok.inj h]
    simp only [List.forall_mem_cons, List.not_mem_nil, false_implies, implies_true, and_true]
    refine ⟨?_, ?_, keeps_onCase fun _ => ⟨rfl, rfl⟩⟩
    · exact keeps_onAction (fun _ => ⟨rfl, rfl, rfl⟩) (fun _ => ⟨rfl, rfl, rfl, rfl⟩) (by decide)
    · refine keeps_onInstrument (fun _ => ⟨rfl, rfl⟩) fun i hi _ => ⟨?_, rfl⟩
      exact List.mem_cons.mpr (.inl (List.mem_singleton.mp hi))
  | requeued =>
    simp only [hd] at h
    split at h
    next =>
      rw [← Except.ok.inj h]
      simp only [List.forall_mem_cons, List.not_mem_nil, false_implies, implies_true, and_true]
      refine ⟨?_, ?_, keeps_onCase fun _ => ⟨rfl, rfl⟩, keeps_onCase fun _ => ⟨rfl, rfl⟩⟩
      · exact keeps_onAction (fun _ => ⟨rfl, rfl, rfl⟩) (fun _ => ⟨rfl, rfl, rfl, rfl⟩) (by decide)
      · exact keeps_onAction (fun _ => ⟨rfl, rfl, rfl⟩) (fun _ => ⟨rfl, rfl, rfl, rfl⟩) (by decide)
    next =>
      rw [← Except.ok.inj h]
      simp only [List.forall_mem_cons, List.not_mem_nil, false_implies, implies_true, and_true]
      refine ⟨?_, keeps_onCase fun _ => ⟨rfl, rfl⟩, ?_⟩
      · exact keeps_onAction (fun _ => ⟨rfl, rfl, rfl⟩) (fun _ => ⟨rfl, rfl, rfl, rfl⟩) (by decide)
      · refine keeps_onInstrument (fun _ => ⟨rfl, rfl⟩) fun i hi _ => ⟨?_, rfl⟩
        exact List.mem_cons.mpr (.inr hi)
    next => exact absurd h (by simp)
  | escalated | deadLetter =>
    simp only [hd] at h
    rw [← Except.ok.inj h]
    intro u hu
    rcases List.mem_append.mp hu with hu | hu
    · rcases List.mem_append.mp hu with hu | hu
      · exact List.mem_singleton.mp hu ▸ keeps_failAction
      · split_ifs at hu
        · exact List.mem_singleton.mp hu ▸ keeps_failInstrument
        · exact absurd hu (by simp)
    · exact List.mem_singleton.mp hu ▸ keeps_endCase
  | suppressed =>
    simp only [hd] at h
    split at h
    next => exact Except.ok.inj h ▸ keeps_suppressionUpdates keeps_cancelQueuedAction
    next =>
      rw [← Except.ok.inj h]
      exact keeps_suppressionUpdates <| keeps_onAction (fun _ => ⟨rfl, rfl, rfl⟩)
        (fun _ => ⟨rfl, rfl, rfl, rfl⟩) (by decide)
    next =>
      rw [← Except.ok.inj h]
      exact keeps_suppressionUpdates <| keeps_onAction (fun _ => ⟨rfl, rfl, rfl⟩)
        (fun _ => ⟨rfl, rfl, rfl, rfl⟩) (by decide)
    next => exact absurd h (by simp)

/-! ## The two transactions -/

variable {path final : EffectPath} {now : Timestamp} {fenced : Bool}

theorem journaled_of_persistResult {result : ExecutionResult} (hpath : path.Journaled)
    (h : persistResult (schemaServer storesCaseText) fenced now path result = .ok final) :
    final.Journaled := by
  obtain ⟨_, -, h⟩ := bind_ok_iff.mp h
  obtain ⟨updates, hupdates, hrun⟩ := bind_ok_iff.mp h
  exact journaled_of_runUpdates (keeps_resultUpdates hupdates) hpath hrun

/-- An execution that starts writes the decision it was started on as its evidence;
from then on the case is at a later version. -/
theorem journaled_of_recordEffectAuthorization [Hashlib] {job : OutboxJob}
    {command : CreatePaymentLinkCommand} {decision : GateDecision} {context : GateContext}
    {workerId : String} {reconciliationOnly : Bool} (hpath : path.Journaled)
    (hversion : decision.aggregateVersion = context.aggregateVersion)
    (h : recordEffectAuthorization (schemaServer storesCaseText) fenced now path job command
      decision context workerId reconciliationOnly = .ok final) :
    final.Journaled := by
  obtain ⟨_, -, h⟩ := bind_ok_iff.mp h
  obtain ⟨_, -, h⟩ := bind_ok_iff.mp h
  obtain ⟨_, hbound, h⟩ := bind_ok_iff.mp h
  obtain ⟨updates, hupdates, hrun⟩ := bind_ok_iff.mp h
  have hbound : path.Bound command context := by simpa using hbound
  obtain ⟨-, -, -, -, -, -, -, -, -, hcontext, -⟩ := hbound
  unfold authorizationUpdates at hupdates
  by_cases hmode : reconciliationOnly = true
  · rw [if_pos hmode] at hupdates
    split_ifs at hupdates
    rw [← Except.ok.inj hupdates] at hrun
    refine journaled_of_runUpdates ?_ hpath hrun
    intro u hu
    rw [List.mem_singleton.mp hu]
    exact keeps_onAction (fun _ => ⟨rfl, rfl, rfl⟩) (fun _ => ⟨rfl, rfl, rfl, rfl⟩) (by decide)
  · rw [if_neg hmode] at hupdates
    split_ifs at hupdates with hqueued
    · rw [← Except.ok.inj hupdates, runUpdates, if_neg (by simp [startCaseExecution, onCase])]
        at hrun
      split at hrun
      next => exact absurd hrun (by simp)
      next begun hbegun =>
        split_ifs at hrun with hadmits
        have hbegunPath : begun.Journaled :=
          keeps_startCaseExecution now path begun hbegun hadmits hpath
        have hnext : begun.recoveryCase.version = decision.aggregateVersion + 1 := by
          simp only [startCaseExecution, onCase] at hbegun
          split_ifs at hbegun
          rw [← Option.some.inj hbegun, hversion, ← hcontext]
        rw [runUpdates, if_neg (by simp [startActionExecution, onAction])] at hrun
        split at hrun
        next => exact absurd hrun (by simp)
        next started hstarted =>
          split_ifs at hrun with hadmitted
          rw [← Except.ok.inj hrun]
          simp only [startActionExecution, onAction] at hstarted hadmitted
          split_ifs at hstarted
          obtain rfl := Option.some.inj hstarted
          refine journaled_of_action hbegunPath ⟨rfl, rfl, rfl⟩ hadmitted ?_ ?_
          · intro hnone
            exact absurd hnone (by simp)
          · intro text htext _
            refine ⟨rfl, decision, (Option.some.inj htext).symm, ?_⟩
            rw [hnext]
            omega
    · rw [← Except.ok.inj hupdates] at hrun
      rw [← Except.ok.inj hrun]
      exact hpath

end

end Retrywise.ControlPlane
