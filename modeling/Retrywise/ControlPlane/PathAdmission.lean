import Retrywise.ControlPlane.PathJournal

/-!
# Which transactions the database lets through

For each list of statements the writer issues on a journaled path, whether every
one of them that matches its row is admitted (`AllAdmitted`). Most always are. The
exceptions, each with its exact condition:

* an execution starts only where no evidence is on record, and the approval holds
  (`allAdmitted_start_iff`): the evidence is written once, and a second start would
  overwrite it, so a create is started once and never again;
* a reconciliation starts only where the clock has not gone back;
* a link is adopted only if no other instrument has it;
* a failure is settled only from `EXECUTING`: from `ACTION_QUEUED` and from
  `ACTION_UNCERTAIN` a case cannot become `FAILED_SAFE`;
* a queued effect is suppressed only where no evidence is on record.
-/

namespace Retrywise.ControlPlane

open Retrywise.Foundation Retrywise.Domain

/-- Two snapshots that read the same are of one version of the case. -/
theorem aggregateVersion_eq_of_gateSnapshot {d e : GateDecision}
    (h : gateSnapshot d = gateSnapshot e) : d.aggregateVersion = e.aggregateVersion := by
  have hget := congrArg (Json.get? "aggregate_version") (canonicalText_inj h)
  simpa [GateDecision.toPrimitive, Json.sorted, Json.sortedMembers, List.orderedInsert,
    Json.get?] using hget

/-! ## One statement -/

section

variable {server : Server} {now : Timestamp} {path : EffectPath}

theorem allAdmitted_cons_iff {update : Update} {updates : List Update} {changed : EffectPath}
    (htyped : update.typed = true) (happlied : update.applied path = some changed) :
    AllAdmitted server now (update :: updates) path ↔
      server.admits now update.table path changed = true ∧
        AllAdmitted server now updates changed := by
  constructor
  · intro h
    exact h htyped changed happlied
  · intro h _ other hother
    rw [← Option.some.inj (happlied.symm.trans hother)]
    exact h

/-- A statement that does not match, or is not stored, is the last one. -/
theorem allAdmitted_of_unmatched {update : Update} {updates : List Update}
    (h : update.typed = true → update.applied path = none) :
    AllAdmitted server now (update :: updates) path := by
  intro htyped changed hchanged
  exact absurd ((h htyped).symm.trans hchanged) (by simp)

/-- What is committed are statements that all match and are all let through. -/
theorem runUpdates_ok_iff : ∀ {updates : List Update} {path final : EffectPath},
    (∀ u ∈ updates, u.typed = true) →
      (runUpdates server now updates path = .ok final ↔
        applyAll updates path = some final ∧ AllAdmitted server now updates path)
  | [], path, final, _ => by
    rw [runUpdates, applyAll_nil, Except.ok.injEq, Option.some.injEq]
    exact ⟨fun h => ⟨h, trivial⟩, fun h => h.1⟩
  | update :: updates, path, final, htyped => by
    have hhead := htyped update (List.mem_cons_self ..)
    have hrest := fun u hu => htyped u (List.mem_cons_of_mem update hu)
    rw [runUpdates, if_neg (by simp [hhead]), applyAll_cons]
    cases happlied : update.applied path with
    | none => simp
    | some changed =>
      rw [Option.bind_some, allAdmitted_cons_iff hhead happlied]
      dsimp only
      by_cases hadmits : server.admits now update.table path changed = true
      · rw [if_pos hadmits, runUpdates_ok_iff hrest]
        simp [hadmits]
      · rw [if_neg hadmits]
        simp [hadmits]

/-- A case that moves along an edge. -/
theorem caseTrigger_of_edge {around : Surroundings} {old new : CaseRow}
    (hcontract : old.observationContractVersion ≠ 0) (hunpaid : around.orderTruth = .unpaid)
    (hversion : new.version = old.version + 1) (hedge : new.state ∈ caseEdges old.state)
    (hterminal : new.terminalCheck = true) : caseTrigger around old new = true := by
  simp [caseTrigger, legacyTrigger, hcontract, hunpaid, hversion, hedge, hterminal]

/-- What a statement that only moves an action along leaves as it was. -/
structure ActionRow.Moved (a b : ActionRow) : Prop where
  attemptNumber : b.attemptNumber = a.attemptNumber
  maxAttempts : b.maxAttempts = a.maxAttempts
  effectGateSnapshot : b.effectGateSnapshot = a.effectGateSnapshot
  effectGateVerdict : b.effectGateVerdict = a.effectGateVerdict
  effectGateReasonCodes : b.effectGateReasonCodes = a.effectGateReasonCodes
  firstAttemptedAt : b.firstAttemptedAt = a.firstAttemptedAt

/-- An action that moves along an edge, with its evidence as it was. -/
theorem actionTrigger_of_moved {new : ActionRow} (hchecks : path.action.checks = true)
    (hmoved : path.action.Moved new) (hopen : path.action.status ∉ completedStatuses)
    (hedge : new.status = path.action.status ∨ new.status ∈ actionEdges path.action.status)
    (hidle : new.status ≠ .executing)
    (hexecuted : new.status ∈ executedStatuses → path.action.status ∈ executedStatuses)
    (htimeline : new.timelineCheck = true) (hlease : new.leaseCheck = true)
    (hcompleted : new.completionCheck = true) (hdead : new.deadLetterCheck = true) :
    actionTrigger now path new = true := by
  simp only [ActionRow.checks, Bool.and_eq_true, decide_eq_true_eq] at hchecks
  obtain ⟨⟨⟨⟨⟨⟨hroom, -⟩, -⟩, hpair⟩, hevidence⟩, -⟩, -⟩ := hchecks
  have hpairNew : new.gatePairCheck = true := by
    simp only [ActionRow.gatePairCheck, hmoved.effectGateSnapshot, hmoved.effectGateVerdict,
      hmoved.effectGateReasonCodes]
    exact hpair
  have hevidenceNew : new.executionEvidenceCheck = true := by
    simp only [ActionRow.executionEvidenceCheck, hmoved.effectGateSnapshot,
      hmoved.effectGateVerdict, hmoved.firstAttemptedAt, Bool.or_eq_true,
      decide_eq_true_eq] at hevidence ⊢
    rcases hevidence with hnot | hall
    · exact .inl fun hnew => hnot (hexecuted hnew)
    · exact .inr hall
  have htrigger : evidenceTrigger path.action new = true := by
    simp only [evidenceTrigger, hmoved.attemptNumber, hmoved.effectGateSnapshot,
      hmoved.effectGateVerdict, hmoved.effectGateReasonCodes, hmoved.firstAttemptedAt]
    cases path.action.effectGateSnapshot <;> cases path.action.firstAttemptedAt <;> simp
  have hall : new.checks = true := by
    simp [ActionRow.checks, hmoved.attemptNumber, hmoved.maxAttempts, hroom, hlease, htimeline,
      hpairNew, hevidenceNew, hcompleted, hdead]
  simp [actionTrigger, htrigger, hidle, hopen, hedge, hall]

/-- An instrument that moves along an edge, unlinked or with its link as it was. -/
theorem instrumentTrigger_of_edge {around : Surroundings} {old new : InstrumentRow}
    (hlink : old.providerPaymentLinkId = none ∨
      new.providerPaymentLinkId = old.providerPaymentLinkId)
    (hold : old.collectedMinor = 0) (hcollected : new.collectedMinor = old.collectedMinor)
    (hreconciled : reconciledForward old.lastReconciledAt new.lastReconciledAt = true)
    (hedge : new.status ∈ instrumentEdges old.status) (hprovider : new.providerIdCheck = true)
    (hunpaid : new.status ∉ [.paid, .partiallyPaid]) :
    instrumentTrigger around old new = true ↔ new.ownLink around = true := by
  have hcollection : new.collectionCheck = true := by
    simp only [List.mem_cons, List.not_mem_nil, or_false, not_or] at hunpaid
    simp [InstrumentRow.collectionCheck, hunpaid, hcollected, hold]
  have hforward : (old.providerPaymentLinkId.isNone ||
      decide (new.providerPaymentLinkId = old.providerPaymentLinkId)) = true := by
    rcases hlink with hlink | hlink
    · simp [hlink]
    · simp [hlink]
  simp [instrumentTrigger, hforward, hcollected, hreconciled, hedge, hprovider, hcollection]

end

/-! ## What an open action has passed -/

structure ActionRow.Executed (a : ActionRow) : Prop where
  room : a.attemptNumber ≤ a.maxAttempts
  snapshot : a.effectGateSnapshot.isSome = true
  verdict : a.effectGateVerdict = some .allowed
  attempted : a.firstAttemptedAt.isSome = true
  timeline : a.timelineCheck = true
  incomplete : a.completedAt = none
  undead : a.deadLetteredAt = none
  unreasoned : a.deadLetterReason = none

theorem executed_of_checks {a : ActionRow} (h : a.checks = true)
    (hstatus : a.status ∈ [ActionStatus.executing, .uncertain, .reconciling]) : a.Executed := by
  simp only [ActionRow.checks, Bool.and_eq_true, decide_eq_true_eq] at h
  obtain ⟨⟨⟨⟨⟨⟨hroom, -⟩, htimeline⟩, -⟩, hevidence⟩, hcompleted⟩, hdead⟩ := h
  have hexecuted : a.status ∈ executedStatuses := by
    simp only [List.mem_cons, List.not_mem_nil, or_false] at hstatus
    rcases hstatus with h | h | h <;> rw [h] <;> decide
  have hopen : a.status ∉ completedStatuses ∧ a.status ≠ .deadLetter := by
    simp only [List.mem_cons, List.not_mem_nil, or_false] at hstatus
    rcases hstatus with h | h | h <;> rw [h] <;> decide
  simp only [ActionRow.executionEvidenceCheck, hexecuted, not_true_eq_false, decide_false,
    Bool.false_or, Bool.and_eq_true, decide_eq_true_eq] at hevidence
  simp only [ActionRow.completionCheck, if_neg hopen.1, Option.isNone_iff_eq_none] at hcompleted
  simp only [ActionRow.deadLetterCheck, if_neg hopen.2, Bool.and_eq_true,
    Option.isNone_iff_eq_none] at hdead
  exact ⟨hroom, hevidence.1.1, hevidence.1.2, hevidence.2, htimeline, hcompleted, hdead.1, hdead.2⟩

/-! ## Transactions that are always let through -/

section

variable {storesCaseText : Bool} {now : Timestamp} {path : EffectPath} {reason : String}

theorem allAdmitted_onAction {operation : String} {statuses : List ActionStatus}
    {assign : ActionRow → ActionRow} {updates : List Update}
    (h : path.action.status ∈ statuses) :
    AllAdmitted (schemaServer storesCaseText) now (onAction operation statuses assign :: updates)
        path ↔
      actionTrigger now path (assign path.action) = true ∧
        AllAdmitted (schemaServer storesCaseText) now updates
          { path with action := assign path.action } := by
  have happlied : (onAction operation statuses assign).applied path =
      some { path with action := assign path.action } := if_pos h
  have htyped : (onAction operation statuses assign).typed = true := rfl
  rw [allAdmitted_cons_iff htyped happlied]
  rfl

theorem allAdmitted_onInstrument {operation : String} {statuses : List InstrumentStatus}
    {assign : InstrumentRow → InstrumentRow} {updates : List Update}
    (h : path.instrument.status ∈ statuses) :
    AllAdmitted (schemaServer storesCaseText) now
        (onInstrument operation statuses assign :: updates) path ↔
      instrumentTrigger path.around path.instrument (assign path.instrument) = true ∧
        AllAdmitted (schemaServer storesCaseText) now updates
          { path with instrument := assign path.instrument } := by
  have happlied : (onInstrument operation statuses assign).applied path =
      some { path with instrument := assign path.instrument } := if_pos h
  have htyped : (onInstrument operation statuses assign).typed = true := rfl
  rw [allAdmitted_cons_iff htyped happlied]
  rfl

theorem allAdmitted_onCase {operation : String} {states : List RecoveryState} {version : Nat}
    {assign : CaseRow → CaseRow} {updates : List Update} (h : path.recoveryCase.state ∈ states)
    (hversion : path.recoveryCase.version = version) :
    AllAdmitted (schemaServer storesCaseText) now
        (onCase operation states version assign :: updates) path ↔
      caseTrigger path.around path.recoveryCase
          { assign path.recoveryCase with version := version + 1 } = true ∧
        AllAdmitted (schemaServer storesCaseText) now updates
          { path with
            recoveryCase := { assign path.recoveryCase with version := version + 1 } } := by
  have happlied : (onCase operation states version assign).applied path = some { path with
      recoveryCase := { assign path.recoveryCase with version := version + 1 } } :=
    if_pos ⟨h, hversion⟩
  have htyped : (onCase operation states version assign).typed = true := rfl
  rw [allAdmitted_cons_iff htyped happlied]
  rfl

/-- What an open case has passed. -/
theorem open_of_terminalCheck {c : CaseRow} (h : c.terminalCheck = true)
    (hstate : c.state ∈ [RecoveryState.actionQueued, .executing, .actionUncertain]) :
    c.terminalReasonCode = none ∧ c.terminalAt = none := by
  have hopen : c.state ∉ terminalCaseStates := by
    simp only [List.mem_cons, List.not_mem_nil, or_false] at hstate
    rcases hstate with h | h | h <;> rw [h] <;> decide
  simpa [CaseRow.terminalCheck, hopen] using h

theorem allAdmitted_requery (hjournal : path.Journaled) (hstaged : path.Staged)
    (hstatus : path.action.status = .executing) :
    AllAdmitted (schemaServer storesCaseText) now [markUncertainAction reason,
      markUncertainInstrument, markUncertainCase path.recoveryCase.version] path := by
  simp only [EffectPath.Staged, hstatus] at hstaged
  obtain ⟨hcase, hinstrument, hlink⟩ := hstaged
  have hexecuted := executed_of_checks hjournal.actionChecks (by simp [hstatus])
  obtain ⟨hreason, hat⟩ := open_of_terminalCheck hjournal.caseChecks (by simp [hcase])
  rw [markUncertainAction, allAdmitted_onAction (by simp [hstatus]), markUncertainInstrument,
    allAdmitted_onInstrument (by simp [hinstrument]), markUncertainCase,
    allAdmitted_onCase (by simp [hcase]) (by rfl)]
  refine ⟨?_, ?_, ?_, trivial⟩
  · exact actionTrigger_of_moved hjournal.actionChecks ⟨rfl, rfl, rfl, rfl, rfl, rfl⟩
      (by simp [hstatus, completedStatuses]) (by simp [hstatus, actionEdges]) (by simp)
      (by simp [hstatus, executedStatuses]) hexecuted.timeline (by simp [ActionRow.leaseCheck])
      (by simp [ActionRow.completionCheck, completedStatuses, hexecuted.incomplete])
      (by simp [ActionRow.deadLetterCheck, hexecuted.undead, hexecuted.unreasoned])
  · refine (instrumentTrigger_of_edge (.inl hlink) hjournal.uncollected (by rfl) ?_
      (by simp [hinstrument, instrumentEdges]) (by simp [InstrumentRow.providerIdCheck])
      (by simp)).mpr ?_
    · cases path.instrument.lastReconciledAt <;> simp [reconciledForward]
    · simp [InstrumentRow.ownLink, hlink]
  · exact caseTrigger_of_edge hjournal.contract hjournal.unpaid rfl (by simp [hcase, caseEdges])
      (by simp [CaseRow.terminalCheck, terminalCaseStates, hreason, hat])

theorem allAdmitted_requeue_executing (hjournal : path.Journaled) (hstaged : path.Staged)
    (hstatus : path.action.status = .executing) :
    AllAdmitted (schemaServer storesCaseText) now [markActionRetryable reason,
      queueRetryableAction, markUncertainCase path.recoveryCase.version,
      queueUncertainCase (path.recoveryCase.version + 1)] path := by
  simp only [EffectPath.Staged, hstatus] at hstaged
  obtain ⟨hcase, hinstrument, hlink⟩ := hstaged
  have hexecuted := executed_of_checks hjournal.actionChecks (by simp [hstatus])
  obtain ⟨hreason, hat⟩ := open_of_terminalCheck hjournal.caseChecks (by simp [hcase])
  have hretryable : actionTrigger now path { path.action with
      status := .failedRetryable
      leaseOwner := none
      leaseExpiresAt := none
      lastErrorCode := some reason } = true :=
    actionTrigger_of_moved hjournal.actionChecks ⟨rfl, rfl, rfl, rfl, rfl, rfl⟩
      (by simp [hstatus, completedStatuses]) (by simp [hstatus, actionEdges]) (by simp)
      (by simp [hstatus, executedStatuses]) hexecuted.timeline (by simp [ActionRow.leaseCheck])
      (by simp [ActionRow.completionCheck, completedStatuses, hexecuted.incomplete])
      (by simp [ActionRow.deadLetterCheck, hexecuted.undead, hexecuted.unreasoned])
  rw [markActionRetryable, allAdmitted_onAction (by simp [hstatus]), queueRetryableAction,
    allAdmitted_onAction (by simp), markUncertainCase,
    allAdmitted_onCase (by simp [hcase]) (by rfl), queueUncertainCase,
    allAdmitted_onCase (by simp) (by rfl)]
  refine ⟨hretryable, ?_, ?_, ?_, trivial⟩
  · simp only [actionTrigger, Bool.and_eq_true] at hretryable
    exact actionTrigger_of_moved hretryable.2 ⟨rfl, rfl, rfl, rfl, rfl, rfl⟩
      (by simp [completedStatuses]) (by simp [actionEdges]) (by simp)
      (by simp [executedStatuses]) hexecuted.timeline (by simp [ActionRow.leaseCheck])
      (by simp [ActionRow.completionCheck, completedStatuses, hexecuted.incomplete])
      (by simp [ActionRow.deadLetterCheck, hexecuted.undead, hexecuted.unreasoned])
  · exact caseTrigger_of_edge hjournal.contract hjournal.unpaid rfl (by simp [hcase, caseEdges])
      (by simp [CaseRow.terminalCheck, terminalCaseStates, hreason, hat])
  · exact caseTrigger_of_edge hjournal.contract hjournal.unpaid rfl (by simp [caseEdges])
      (by simp [CaseRow.terminalCheck, terminalCaseStates, hreason, hat])

theorem allAdmitted_requeue_reconciling (hjournal : path.Journaled) (hstaged : path.Staged)
    (hstatus : path.action.status = .reconciling) :
    AllAdmitted (schemaServer storesCaseText) now [requeueActionFromReconciling reason,
      queueUncertainCase path.recoveryCase.version, resetUncertainInstrument] path := by
  simp only [EffectPath.Staged, hstatus] at hstaged
  obtain ⟨hcase, hinstrument, hlink⟩ := hstaged
  have hexecuted := executed_of_checks hjournal.actionChecks (by simp [hstatus])
  obtain ⟨hreason, hat⟩ := open_of_terminalCheck hjournal.caseChecks (by simp [hcase])
  rw [requeueActionFromReconciling, allAdmitted_onAction (by simp [hstatus]),
    queueUncertainCase, allAdmitted_onCase (by simp [hcase]) (by rfl), resetUncertainInstrument,
    allAdmitted_onInstrument (by simp [hinstrument])]
  refine ⟨?_, ?_, ?_, trivial⟩
  · exact actionTrigger_of_moved hjournal.actionChecks ⟨rfl, rfl, rfl, rfl, rfl, rfl⟩
      (by simp [hstatus, completedStatuses]) (by simp [hstatus, actionEdges]) (by simp)
      (by simp [hstatus, executedStatuses]) hexecuted.timeline (by simp [ActionRow.leaseCheck])
      (by simp [ActionRow.completionCheck, completedStatuses, hexecuted.incomplete])
      (by simp [ActionRow.deadLetterCheck, hexecuted.undead, hexecuted.unreasoned])
  · exact caseTrigger_of_edge hjournal.contract hjournal.unpaid rfl (by simp [hcase, caseEdges])
      (by simp [CaseRow.terminalCheck, terminalCaseStates, hreason, hat])
  · refine (instrumentTrigger_of_edge (.inl hlink) hjournal.uncollected (by rfl) ?_
      (by simp [hinstrument, instrumentEdges]) (by simp [InstrumentRow.providerIdCheck])
      (by simp)).mpr ?_
    · cases path.instrument.lastReconciledAt <;> simp [reconciledForward]
    · simp [InstrumentRow.ownLink, hlink]

/-! ## Where an effect starts -/

variable {workerId : String} {leaseExpiresAt : Option Timestamp} {evaluatedAt : Timestamp}

theorem timelineCheck_iff {a : ActionRow} {last : Timestamp}
    (hlast : a.lastAttemptedAt = some last) :
    a.timelineCheck = true ↔ ∃ first, a.firstAttemptedAt = some first ∧ first ≤ last := by
  simp only [ActionRow.timelineCheck, hlast]
  cases a.firstAttemptedAt with
  | none => simp
  | some first => simp

/-- A reconciliation starts where the clock has not gone back behind the first attempt. -/
theorem allAdmitted_reconciliation_iff (hjournal : path.Journaled)
    (hstatus : path.action.status ∈ [ActionStatus.uncertain, .reconciling])
    (hworker : hasText (some workerId) = true) (hlease : leaseExpiresAt.isSome = true) :
    AllAdmitted (schemaServer storesCaseText) now
        [startReconciliation workerId leaseExpiresAt evaluatedAt] path ↔
      ∀ first, path.action.firstAttemptedAt = some first → first ≤ evaluatedAt := by
  have hexecuted := executed_of_checks hjournal.actionChecks
    (by simp only [List.mem_cons, List.not_mem_nil, or_false] at hstatus ⊢; exact .inr hstatus)
  obtain ⟨first, hfirst⟩ := Option.isSome_iff_exists.mp hexecuted.attempted
  rw [startReconciliation, allAdmitted_onAction hstatus]
  constructor
  · intro h other hother
    obtain ⟨htrigger, -⟩ := h
    simp only [actionTrigger, ActionRow.checks, Bool.and_eq_true] at htrigger
    obtain ⟨-, ⟨⟨⟨⟨-, htimeline⟩, -⟩, -⟩, -⟩, -⟩ := htrigger
    obtain ⟨earliest, hearliest, hle⟩ := (timelineCheck_iff rfl).mp htimeline
    rw [Option.some.inj (hother.symm.trans hearliest)]
    exact hle
  · intro h
    refine ⟨?_, trivial⟩
    have htimeline : ({ path.action with lastAttemptedAt := some evaluatedAt } :
        ActionRow).timelineCheck = true := (timelineCheck_iff rfl).mpr ⟨first, hfirst, h first hfirst⟩
    simp only [List.mem_cons, List.not_mem_nil, or_false] at hstatus
    rcases hstatus with hstatus | hstatus <;>
      exact actionTrigger_of_moved hjournal.actionChecks ⟨rfl, rfl, rfl, rfl, rfl, rfl⟩
        (by simp [hstatus, completedStatuses]) (by simp [hstatus, actionEdges]) (by simp)
        (by simp [hstatus, executedStatuses]) htimeline
        (by simp [ActionRow.leaseCheck, hworker, hlease])
        (by simp [ActionRow.completionCheck, completedStatuses, hexecuted.incomplete])
        (by simp [ActionRow.deadLetterCheck, hexecuted.undead, hexecuted.unreasoned])

/-- What a queued action has passed. -/
theorem queued_of_checks {a : ActionRow} (h : a.checks = true) (hstatus : a.status = .queued) :
    a.completedAt = none ∧ a.deadLetteredAt = none ∧ a.deadLetterReason = none ∧
      a.leaseOwner = none ∧ a.leaseExpiresAt = none := by
  simp only [ActionRow.checks, Bool.and_eq_true] at h
  obtain ⟨⟨⟨⟨⟨⟨-, hlease⟩, -⟩, -⟩, -⟩, hcompleted⟩, hdead⟩ := h
  simp [ActionRow.completionCheck, completedStatuses, hstatus] at hcompleted
  simp [ActionRow.deadLetterCheck, hstatus] at hdead
  simp [ActionRow.leaseCheck, hstatus] at hlease
  exact ⟨hcompleted, hdead.1, hdead.2, hlease.1, hlease.2⟩

/-- **A create starts once.** The evidence of a decision at this version of the case is
on no record of an earlier start, so it would overwrite any there is. -/
theorem allAdmitted_start_iff (hjournal : path.Journaled) (hstaged : path.Staged)
    (hstatus : path.action.status = .queued) {decision : GateDecision}
    (hversion : decision.aggregateVersion = path.recoveryCase.version)
    (henvironment : path.around.accountEnvironment = .test)
    (henabled : path.around.accountEnabled = true)
    (hmerchant : path.around.merchantStatus = .active)
    (hswitch : path.around.merchantKillSwitch = false)
    (hworker : hasText (some workerId) = true) (hlease : leaseExpiresAt.isSome = true) :
    AllAdmitted (schemaServer storesCaseText) now
        [startCaseExecution path.recoveryCase.version,
          startActionExecution workerId leaseExpiresAt (gateSnapshot decision) evaluatedAt] path ↔
      path.action.effectGateSnapshot = none ∧ path.around.approvalHolds now = true := by
  simp only [EffectPath.Staged, hstatus] at hstaged
  obtain ⟨hcase, hinstrument, -⟩ := hstaged
  obtain ⟨hreason, hat⟩ := open_of_terminalCheck hjournal.caseChecks (by simp [hcase])
  obtain ⟨hcompleted, hdead, hdeadReason, -, -⟩ := queued_of_checks hjournal.actionChecks hstatus
  rw [startCaseExecution, allAdmitted_onCase (by simp [hcase]) (by rfl), startActionExecution,
    allAdmitted_onAction (by simp [hstatus])]
  have hstarts : caseTrigger path.around path.recoveryCase { path.recoveryCase with
      state := .executing
      version := path.recoveryCase.version + 1 } = true :=
    caseTrigger_of_edge hjournal.contract hjournal.unpaid rfl (by simp [hcase, caseEdges])
      (by simp [CaseRow.terminalCheck, terminalCaseStates, hreason, hat])
  constructor
  · intro h
    obtain ⟨-, htrigger, -⟩ := h
    simp only [actionTrigger, executionTrigger, evidenceTrigger, hstatus, Bool.and_eq_true]
      at htrigger
    obtain ⟨⟨⟨⟨⟨⟨⟨⟨-, hwritten⟩, -⟩, -⟩, -⟩, hexecution⟩, -⟩, -⟩, -⟩ := htrigger
    constructor
    · cases hsnapshot : path.action.effectGateSnapshot with
      | none => rfl
      | some text =>
        -- the text on record is a decision at an earlier version, so it is another text
        obtain ⟨-, earlier, htext, hearlier⟩ :=
          hjournal.started text hsnapshot (by simp [hstatus, completedStatuses])
        simp only [hsnapshot, htext, Option.isNone_some, Bool.false_or, Bool.and_eq_true,
          decide_eq_true_eq, Option.some.injEq] at hwritten
        have hsame := aggregateVersion_eq_of_gateSnapshot hwritten.1.1
        omega
    · simp only [decide_true, ne_eq, reduceCtorEq, not_false_eq_true, Bool.and_true, Bool.not_true,
        Bool.false_or, Bool.and_eq_true] at hexecution
      exact hexecution.2
  · intro h
    obtain ⟨hnone, happroval⟩ := h
    obtain ⟨hattempts, hfirst⟩ := hjournal.unstarted hnone
    refine ⟨hstarts, ?_, trivial⟩
    have hroom : 1 ≤ path.action.maxAttempts := Nat.one_le_iff_ne_zero.mpr hjournal.room
    have happroval' : ∀ recoveryCase : CaseRow, ({ path with recoveryCase := recoveryCase } :
        EffectPath).around.approvalHolds now = true := fun _ => happroval
    simp [actionTrigger, executionTrigger, evidenceTrigger, ActionRow.checks,
      ActionRow.leaseCheck, ActionRow.timelineCheck, ActionRow.gatePairCheck,
      ActionRow.executionEvidenceCheck, ActionRow.completionCheck, ActionRow.deadLetterCheck,
      completedStatuses, actionEdges, hstatus, hnone, hattempts, hfirst, hroom, happroval,
      henvironment, henabled, hmerchant, hswitch, hinstrument, hjournal.lastAction,
      hjournal.referenced, hjournal.unpaid, hworker, hlease, hcompleted, hdead, hdeadReason]

/-! ## How an effect ends -/

variable {result : ExecutionResult}

/-- What the action and the case pass when a link is settled. -/
theorem adoption_triggers (now : Timestamp) (metadata linkId : String) (completedAt : Timestamp)
    (instrument : InstrumentRow) (hjournal : path.Journaled) (hstaged : path.Staged)
    (hstatus : path.action.status ∈ [ActionStatus.executing, .reconciling]) :
    actionTrigger now { path with instrument := instrument } { path.action with
        status := if path.action.status = .executing then .succeeded else .reconciled
        leaseOwner := none
        leaseExpiresAt := none
        responseMetadata := some metadata
        providerStatus := some "created"
        reconciliationStatus := .confirmed
        providerResourceId := some linkId
        completedAt := some completedAt
        lastErrorCode := none } = true ∧
      caseTrigger path.around path.recoveryCase { path.recoveryCase with
        state := .active
        version := path.recoveryCase.version + 1 } = true := by
  have hexecuted := executed_of_checks hjournal.actionChecks
    (by simp only [List.mem_cons, List.not_mem_nil, or_false] at hstatus ⊢; tauto)
  simp only [List.mem_cons, List.not_mem_nil, or_false] at hstatus
  rcases hstatus with hstatus | hstatus <;>
  · simp only [EffectPath.Staged, hstatus] at hstaged
    obtain ⟨hcase, -, -⟩ := hstaged
    obtain ⟨hreason, hat⟩ := open_of_terminalCheck hjournal.caseChecks (by simp [hcase])
    constructor
    · refine actionTrigger_of_moved hjournal.actionChecks ⟨rfl, rfl, rfl, rfl, rfl, rfl⟩
        (by simp [hstatus, completedStatuses]) (by simp [hstatus, actionEdges]) (by simp [hstatus])
        (by simp [hstatus, executedStatuses]) hexecuted.timeline
        (by simp [ActionRow.leaseCheck, hstatus])
        (by simp [ActionRow.completionCheck, completedStatuses, hstatus])
        (by simp [ActionRow.deadLetterCheck, hexecuted.undead, hexecuted.unreasoned, hstatus])
    · exact caseTrigger_of_edge hjournal.contract hjournal.unpaid rfl (by simp [hcase, caseEdges])
        (by simp [CaseRow.terminalCheck, terminalCaseStates, hreason, hat])

/-- A link is settled where no other instrument has it. -/
theorem allAdmitted_adoption_iff (hjournal : path.Journaled) (hstaged : path.Staged)
    (hstatus : path.action.status ∈ [ActionStatus.executing, .reconciling]) {linkId : String} :
    AllAdmitted (schemaServer storesCaseText) now (adoptionUpdates path result linkId) path ↔
      linkId ∉ path.around.otherLinks := by
  obtain ⟨haction, hcase⟩ := adoption_triggers now result.responseMetadata linkId
    result.effectDecision.evaluatedAt { path.instrument with
      status := .active
      providerPaymentLinkId := some (path.instrument.providerPaymentLinkId.getD linkId)
      lastProviderStatus := some "created"
      reconciliationStatus := .confirmed
      lastReconciledAt := some result.effectDecision.evaluatedAt } hjournal hstaged hstatus
  have hopen : path.instrument.status ∈ [InstrumentStatus.creating, .uncertain] ∧
      path.instrument.providerPaymentLinkId = none := by
    simp only [List.mem_cons, List.not_mem_nil, or_false] at hstatus
    rcases hstatus with h | h <;> simp only [EffectPath.Staged, h] at hstaged <;> simp [hstaged]
  obtain ⟨hinstrument, hlink⟩ := hopen
  have hunsettled : path.unsettled = true := by
    simpa [EffectPath.unsettled] using hinstrument
  have hundated := hjournal.unreconciled hunsettled
  have hissued : (issueInstrument linkId result.effectDecision.evaluatedAt).applied path =
      some { path with
        instrument := { path.instrument with
          status := .issued
          providerPaymentLinkId := some (path.instrument.providerPaymentLinkId.getD linkId)
          lastProviderStatus := some "created"
          reconciliationStatus := .confirmed
          lastReconciledAt := some result.effectDecision.evaluatedAt } } :=
    if_pos ⟨hinstrument, by simp [hlink]⟩
  simp only [adoptionUpdates, hunsettled, if_true, List.cons_append, List.nil_append]
  rw [allAdmitted_cons_iff rfl hissued, activateInstrument, allAdmitted_onInstrument (by simp),
    completeAction, allAdmitted_onAction (by simp), activateCase,
    allAdmitted_onCase (by simp) (by rfl)]
  have hissue : (schemaServer storesCaseText).admits now
      (issueInstrument linkId result.effectDecision.evaluatedAt).table path { path with
        instrument := { path.instrument with
          status := .issued
          providerPaymentLinkId := some (path.instrument.providerPaymentLinkId.getD linkId)
          lastProviderStatus := some "created"
          reconciliationStatus := .confirmed
          lastReconciledAt := some result.effectDecision.evaluatedAt } } = true ↔
      linkId ∉ path.around.otherLinks := by
    have hedge : InstrumentStatus.issued ∈ instrumentEdges path.instrument.status := by
      simp only [List.mem_cons, List.not_mem_nil, or_false] at hinstrument
      rcases hinstrument with h | h <;> rw [h] <;> decide
    refine (instrumentTrigger_of_edge (.inl hlink) hjournal.uncollected (by rfl) ?_ hedge
      (by simp [InstrumentRow.providerIdCheck]) (by simp)).trans ?_
    · simp [hundated, reconciledForward]
    · simp [InstrumentRow.ownLink, hlink]
  constructor
  · intro h
    exact hissue.mp h.1
  · intro h
    refine ⟨hissue.mpr h, ?_, haction, hcase, trivial⟩
    refine (instrumentTrigger_of_edge (.inr (by rfl)) (by exact hjournal.uncollected) (by rfl) ?_
      (by simp [instrumentEdges]) (by simp [InstrumentRow.providerIdCheck]) (by simp)).mpr ?_
    · simp [reconciledForward]
    · simp [InstrumentRow.ownLink, hlink, h]

/-- Text at the start of a reason is text in the column. -/
theorem hasText_reasonText (h : StartsWithText result.reasonCode) :
    hasText (some result.reasonText) = true := by
  obtain ⟨c, rest, hchars, hc⟩ := h
  simp [hasText, ExecutionResult.reasonText, hchars, hc]

/-- A failure is settled only from `EXECUTING`; from any other open status the database
stops it, if it gets as far as the case. -/
theorem allAdmitted_failure_iff (hjournal : path.Journaled) (hstaged : path.Staged)
    (htold : StartsWithText result.reasonCode) :
    AllAdmitted (schemaServer storesCaseText) now
        ([failAction (schemaServer storesCaseText) result.reasonText
            result.effectDecision.evaluatedAt] ++
          (if path.unsettled then [failInstrument result.effectDecision.evaluatedAt] else []) ++
          [failCase path.recoveryCase.version result.reasonText
            result.effectDecision.evaluatedAt]) path ↔
      (storesCaseText = true →
        path.action.status ∉ [ActionStatus.queued, .reconciling]) := by
  have htext := hasText_reasonText htold
  rw [List.append_assoc, List.singleton_append]
  cases storesCaseText with
  | false =>
    refine ⟨fun _ h => absurd h (by simp), fun _ => ?_⟩
    exact allAdmitted_of_unmatched fun h => absurd h (by simp [failAction, schemaServer])
  | true =>
    simp only [true_implies, List.mem_cons, List.not_mem_nil, or_false, not_or]
    by_cases hopen : path.action.status ∈ [ActionStatus.queued, .executing, .reconciling]
    · have hunsettled : path.unsettled = true := by
        simp only [List.mem_cons, List.not_mem_nil, or_false] at hopen
        rcases hopen with h | h | h <;> simp only [EffectPath.Staged, h] at hstaged <;>
          simp [EffectPath.unsettled, hstaged]
      have hinstrument : path.instrument.status ∈ [InstrumentStatus.creating, .uncertain] := by
        simpa [EffectPath.unsettled] using hunsettled
      have hfailed : (failAction (schemaServer true) result.reasonText
          result.effectDecision.evaluatedAt).applied path = some { path with
            action := { path.action with
              status := if path.action.status ∈ [ActionStatus.executing, .reconciling] then
                .failedSafe else .deadLetter
              leaseOwner := none
              leaseExpiresAt := none
              completedAt := some result.effectDecision.evaluatedAt
              lastErrorCode := some result.reasonText
              deadLetteredAt := if path.action.status = .queued then
                some result.effectDecision.evaluatedAt else none
              deadLetterReason := if path.action.status = .queued then
                some result.reasonText else none } } := if_pos hopen
      have hcaseOpen : path.recoveryCase.state ∈
          [RecoveryState.actionQueued, .executing, .actionUncertain] := by
        simp only [List.mem_cons, List.not_mem_nil, or_false] at hopen
        rcases hopen with h | h | h <;> simp only [EffectPath.Staged, h] at hstaged <;>
          simp [hstaged]
      rw [allAdmitted_cons_iff rfl hfailed, if_pos hunsettled, List.singleton_append,
        failInstrument, allAdmitted_onInstrument (by exact hinstrument), failCase, endCase,
        allAdmitted_onCase (by exact hcaseOpen) (by rfl)]
      simp only [List.mem_cons, List.not_mem_nil, or_false] at hopen
      -- from two of the three cases `FAILED_SAFE` is no edge
      have hrefused : path.recoveryCase.state ∈ [RecoveryState.actionQueued, .actionUncertain] →
          ∀ new : CaseRow, new.state = .failedSafe →
            caseTrigger path.around path.recoveryCase new = false := by
        intro hstate new hnew
        simp only [List.mem_cons, List.not_mem_nil, or_false] at hstate
        rcases hstate with h | h <;> simp [caseTrigger, caseEdges, hnew, h]
      rcases hopen with hstatus | hstatus | hstatus
      · simp only [EffectPath.Staged, hstatus] at hstaged
        refine ⟨fun h => ?_, fun h => absurd hstatus h.1⟩
        exact absurd (h.2.2.1.symm.trans (hrefused (by simp [hstaged]) _ rfl)) (by simp)
      · refine ⟨fun _ => by simp [hstatus], fun _ => ?_⟩
        simp only [EffectPath.Staged, hstatus] at hstaged
        obtain ⟨hcase, hcreating, hlink⟩ := hstaged
        have hexecuted := executed_of_checks hjournal.actionChecks (by simp [hstatus])
        refine ⟨?_, ?_, ?_, trivial⟩
        · exact actionTrigger_of_moved hjournal.actionChecks ⟨rfl, rfl, rfl, rfl, rfl, rfl⟩
            (by simp [hstatus, completedStatuses]) (by simp [hstatus, actionEdges])
            (by simp [hstatus]) (by simp [hstatus, executedStatuses]) hexecuted.timeline
            (by simp [ActionRow.leaseCheck, hstatus])
            (by simp [ActionRow.completionCheck, completedStatuses, hstatus])
            (by simp [ActionRow.deadLetterCheck, hstatus])
        · refine (instrumentTrigger_of_edge (.inl hlink) (by exact hjournal.uncollected) (by rfl)
            ?_ (by simp [hcreating, instrumentEdges]) (by simp [InstrumentRow.providerIdCheck])
            (by simp)).mpr ?_
          · simp [hjournal.unreconciled hunsettled, reconciledForward]
          · simp [InstrumentRow.ownLink, hlink]
        · exact caseTrigger_of_edge hjournal.contract hjournal.unpaid rfl
            (by simp [hcase, caseEdges])
            (by simp [CaseRow.terminalCheck, terminalCaseStates, htext])
      · simp only [EffectPath.Staged, hstatus] at hstaged
        refine ⟨fun h => ?_, fun h => absurd hstatus h.2⟩
        exact absurd (h.2.2.1.symm.trans (hrefused (by simp [hstaged]) _ rfl)) (by simp)
    · have hnone : (failAction (schemaServer true) result.reasonText
          result.effectDecision.evaluatedAt).applied path = none := if_neg hopen
      refine ⟨fun _ => ?_, fun _ => allAdmitted_of_unmatched fun _ => hnone⟩
      simp only [List.mem_cons, List.not_mem_nil, or_false, not_or] at hopen
      exact ⟨hopen.1, hopen.2.2⟩

/-- Behind the action, what suppresses the instrument and the case is let through. -/
theorem allAdmitted_suppression_rest {changed : ActionRow} (hjournal : path.Journaled)
    (hunsettled : path.unsettled = true) (hlink : path.instrument.providerPaymentLinkId = none)
    (htold : StartsWithText result.reasonCode) {terminal : RecoveryState}
    (hedge : terminal ∈ caseEdges path.recoveryCase.state)
    (hterminal : terminal ∈ [RecoveryState.suppressedPaid, .suppressedPolicy, .escalated])
    {reconciliation : ReconciliationStatus} {providerStatus : String} :
    AllAdmitted (schemaServer storesCaseText) now
      [suppressInstrument reconciliation providerStatus result.effectDecision.evaluatedAt,
        suppressCase path.recoveryCase.state terminal path.recoveryCase.version result.reasonText
          result.effectDecision.evaluatedAt] { path with action := changed } := by
  have htext := hasText_reasonText htold
  have hinstrument : path.instrument.status ∈ [InstrumentStatus.creating, .uncertain] := by
    simpa [EffectPath.unsettled] using hunsettled
  rw [suppressInstrument, allAdmitted_onInstrument (by exact hinstrument), suppressCase, endCase,
    allAdmitted_onCase (by simp) (by rfl)]
  refine ⟨?_, ?_, trivial⟩
  · have hedge : InstrumentStatus.failed ∈ instrumentEdges path.instrument.status := by
      simp only [List.mem_cons, List.not_mem_nil, or_false] at hinstrument
      rcases hinstrument with h | h <;> rw [h] <;> decide
    refine (instrumentTrigger_of_edge (.inl hlink) (by exact hjournal.uncollected) (by rfl) ?_
      (by exact hedge) (by simp [InstrumentRow.providerIdCheck]) (by simp)).mpr ?_
    · simp [hjournal.unreconciled hunsettled, reconciledForward]
    · simp [InstrumentRow.ownLink, hlink]
  · refine caseTrigger_of_edge hjournal.contract hjournal.unpaid rfl hedge ?_
    simp only [List.mem_cons, List.not_mem_nil, or_false] at hterminal
    rcases hterminal with h | h | h <;>
      simp [CaseRow.terminalCheck, terminalCaseStates, htext, h]

/-- A queued effect is suppressed where it has no evidence: the verdict would replace
the one that allowed an earlier start. -/
theorem allAdmitted_suppression_queued_iff (hjournal : path.Journaled) (hstaged : path.Staged)
    (hstatus : path.action.status = .queued) (htold : StartsWithText result.reasonCode)
    (hreasons : result.effectDecision.reasons ≠ []) {terminal : RecoveryState}
    (hterminal : terminal ∈ [RecoveryState.suppressedPaid, .suppressedPolicy]) :
    AllAdmitted (schemaServer storesCaseText) now
        (suppressionUpdates path result
          (cancelQueuedAction (gateSnapshot result.effectDecision)
            (result.effectDecision.reasons.map GateReason.value) result.reasonText
            result.effectDecision.evaluatedAt) terminal) path ↔
      path.action.effectGateSnapshot = none := by
  simp only [EffectPath.Staged, hstatus] at hstaged
  obtain ⟨hcase, hcreating, hlink⟩ := hstaged
  have hunsettled : path.unsettled = true := by simp [EffectPath.unsettled, hcreating]
  obtain ⟨hcompleted, hdead, hdeadReason, howner, hexpires⟩ :=
    queued_of_checks hjournal.actionChecks hstatus
  have hedge : terminal ∈ caseEdges path.recoveryCase.state := by
    rw [hcase]
    simp only [List.mem_cons, List.not_mem_nil, or_false] at hterminal
    rcases hterminal with h | h <;> rw [h] <;> decide
  simp only [suppressionUpdates, hunsettled, if_true, List.cons_append,
    List.nil_append]
  rw [cancelQueuedAction, allAdmitted_onAction (by simp [hstatus])]
  constructor
  · intro h
    obtain ⟨htrigger, -⟩ := h
    simp only [actionTrigger, evidenceTrigger, Bool.and_eq_true] at htrigger
    obtain ⟨⟨⟨⟨⟨⟨⟨⟨-, hwritten⟩, -⟩, -⟩, -⟩, -⟩, -⟩, -⟩, -⟩ := htrigger
    cases hsnapshot : path.action.effectGateSnapshot with
    | none => rfl
    | some text =>
      obtain ⟨hverdict, -⟩ := hjournal.started text hsnapshot (by simp [hstatus, completedStatuses])
      simp [hsnapshot, hverdict] at hwritten
  · intro hnone
    obtain ⟨hattempts, hfirst⟩ := hjournal.unstarted hnone
    have htimeline : path.action.timelineCheck = true := by
      have hchecks := hjournal.actionChecks
      simp only [ActionRow.checks, Bool.and_eq_true] at hchecks
      exact hchecks.1.1.1.1.2
    have hlast : path.action.lastAttemptedAt = none := by
      cases hlast : path.action.lastAttemptedAt with
      | none => rfl
      | some last => simp [ActionRow.timelineCheck, hfirst, hlast] at htimeline
    refine ⟨?_, allAdmitted_suppression_rest hjournal hunsettled hlink htold hedge ?_⟩
    · simp [actionTrigger, evidenceTrigger, ActionRow.checks, ActionRow.leaseCheck,
        ActionRow.timelineCheck, ActionRow.gatePairCheck, ActionRow.executionEvidenceCheck,
        ActionRow.completionCheck, ActionRow.deadLetterCheck, completedStatuses, executedStatuses,
        actionEdges, hstatus, hnone, hattempts, hfirst, hlast, howner, hexpires, hdead,
        hdeadReason, hreasons]
    · simp only [List.mem_cons, List.not_mem_nil, or_false] at hterminal ⊢
      tauto

/-- An uncertain effect is always let through to its suppression. -/
theorem allAdmitted_suppression_uncertain (hjournal : path.Journaled) (hstaged : path.Staged)
    (hstatus : path.action.status ∈ [ActionStatus.uncertain, .reconciling])
    (htold : StartsWithText result.reasonCode) {terminal : RecoveryState}
    (hterminal : terminal ∈ [RecoveryState.suppressedPaid, .escalated]) :
    AllAdmitted (schemaServer storesCaseText) now
      (suppressionUpdates path result
        (deadLetterUncertainAction result.reasonText result.effectDecision.evaluatedAt) terminal)
      path := by
  have htext := hasText_reasonText htold
  have hexecuted := executed_of_checks hjournal.actionChecks
    (by simp only [List.mem_cons, List.not_mem_nil, or_false] at hstatus ⊢; exact .inr hstatus)
  have hopen : path.recoveryCase.state = .actionUncertain ∧ path.instrument.status = .uncertain ∧
      path.instrument.providerPaymentLinkId = none := by
    simp only [List.mem_cons, List.not_mem_nil, or_false] at hstatus
    rcases hstatus with h | h <;> simpa only [EffectPath.Staged, h] using hstaged
  obtain ⟨hcase, huncertain, hlink⟩ := hopen
  have hunsettled : path.unsettled = true := by simp [EffectPath.unsettled, huncertain]
  have hedge : terminal ∈ caseEdges path.recoveryCase.state := by
    rw [hcase]
    simp only [List.mem_cons, List.not_mem_nil, or_false] at hterminal
    rcases hterminal with h | h <;> rw [h] <;> decide
  simp only [suppressionUpdates, hunsettled, if_true, List.cons_append,
    List.nil_append]
  rw [deadLetterUncertainAction, allAdmitted_onAction (by exact hstatus)]
  refine ⟨?_, allAdmitted_suppression_rest hjournal hunsettled hlink htold hedge ?_⟩
  · simp only [List.mem_cons, List.not_mem_nil, or_false] at hstatus
    rcases hstatus with hstatus | hstatus <;>
      exact actionTrigger_of_moved hjournal.actionChecks ⟨rfl, rfl, rfl, rfl, rfl, rfl⟩
        (by simp [hstatus, completedStatuses]) (by simp [hstatus, actionEdges]) (by simp)
        (by simp [hstatus, executedStatuses]) hexecuted.timeline
        (by simp [ActionRow.leaseCheck]) (by simp [ActionRow.completionCheck, completedStatuses])
        (by simp [ActionRow.deadLetterCheck, htext])
  · simp only [List.mem_cons, List.not_mem_nil, or_false] at hterminal ⊢
    tauto

end

end Retrywise.ControlPlane
