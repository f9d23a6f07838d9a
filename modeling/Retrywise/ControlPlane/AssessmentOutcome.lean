import Retrywise.ControlPlane.AssessmentCommit

/-!
# What an assessment commits

One commit of an assessment: the rows it writes (`AssessmentRows`), that each of them is
admitted where it is written (`Admitted`), and that they are the rows of what the gate decided
(`Committed`).

> `commit_plan_commits_what_the_gate_decided`: `commit_plan` raises and leaves the books as
> they were, or takes the case two versions on with one decision: to `ACTION_QUEUED` with one
> action, instrument and job exactly when the gate allows the proposal for a failed payment a
> link can mend, to `APPROVAL_REQUIRED` with one approval exactly when only an approval is
> missing, and otherwise to a state without an action.
-/

namespace Retrywise.ControlPlane

open Retrywise.Foundation Retrywise.Domain

/-! ## The rows of a commit -/

/-- The rows one commit writes; the case is written twice. -/
structure AssessmentRows where
  started : CaseRecord
  finished : CaseRecord
  decision : DecisionRow
  approvals : List ApprovalRecord := []
  actions : List ActionRecord := []
  instruments : List InstrumentRecord := []
  jobs : List JobRecord := []

/-- An action as it is inserted. -/
def ActionRecord.planned (a : ActionRecord) : ActionRecord := { a with status := .planned }

namespace CaseBooks

variable (books : CaseBooks) (rows : AssessmentRows)

/-- The books when the case is started. -/
def opened : CaseBooks :=
  books.setCases (Table.put CaseRecord.key rows.started books.cases)

/-- The books when the decision is written. -/
def decided : CaseBooks :=
  (books.opened rows).setDecisions (books.decisions ++ [rows.decision])

/-- The books when the action is inserted. -/
def planned : CaseBooks :=
  (books.decided rows).setActions (books.actions ++ rows.actions.map ActionRecord.planned)

/-- The books after the commit. -/
def assessed : CaseBooks :=
  { books with
    cases := Table.put CaseRecord.key rows.finished books.cases
    decisions := books.decisions ++ [rows.decision]
    approvals := books.approvals ++ rows.approvals
    actions := books.actions ++ rows.actions
    instruments := books.instruments ++ rows.instruments
    jobs := books.jobs ++ rows.jobs }

end CaseBooks

/-- The triggers and checks let every row in, each in the books it is written into. -/
structure Admitted (books : CaseBooks) (clock : Timestamp) (old : CaseRecord)
    (rows : AssessmentRows) : Prop where
  started : books.admitsCase clock old rows.started = true
  decision : (books.opened rows).admitsDecision rows.decision = true
  approvals : ∀ a ∈ rows.approvals, (books.decided rows).admitsApproval a = true
  inserted : ∀ a ∈ rows.actions, (books.decided rows).admitsAction clock a.planned = true
  actions : ∀ a ∈ rows.actions, CaseBooks.admitsQueued a.planned a = true
  instruments : ∀ i ∈ rows.instruments, (books.planned rows).admitsInstrument i = true
  finished : books.admitsCase clock rows.started rows.finished = true
  jobs : ∀ j ∈ rows.jobs, books.admitsJob j = true

/-! ## The two statements on the case -/

section

variable {books after : CaseBooks} {command : AssessRecoveryCaseCommand} {clock : Timestamp}

theorem startAssessment_ok {operation : String}
    (h : books.startAssessment command clock operation = .ok after) :
    ∃ old, Table.find CaseRecord.key command.recoveryCaseId books.cases = some old ∧
      old.isDue command clock = true ∧ books.admitsCase clock old old.started = true ∧
      after = books.setCases (Table.put CaseRecord.key old.started books.cases) := by
  exact CaseBooks.updateCase_ok_iff.mp h

theorem queueCase_ok {decisionId actionId : String} {evaluatedAt : Timestamp}
    (h : books.queueCase command clock decisionId actionId evaluatedAt = .ok after) :
    ∃ row, Table.find CaseRecord.key command.recoveryCaseId books.cases = some row ∧
      CaseBooks.assessing command row = true ∧
      books.admitsCase clock row (row.queued decisionId actionId evaluatedAt) = true ∧
      after = books.setCases
        (Table.put CaseRecord.key (row.queued decisionId actionId evaluatedAt) books.cases) := by
  exact CaseBooks.updateCase_ok_iff.mp h

theorem finishNonEffectCase_ok {finish : CaseFinish} {decisionId : String}
    {evaluatedAt : Timestamp}
    (h : books.finishNonEffectCase command clock finish decisionId evaluatedAt = .ok after) :
    ∃ row, Table.find CaseRecord.key command.recoveryCaseId books.cases = some row ∧
      CaseBooks.assessing command row = true ∧
      books.admitsCase clock row (row.finished finish decisionId evaluatedAt) = true ∧
      after = books.setCases
        (Table.put CaseRecord.key (row.finished finish decisionId evaluatedAt) books.cases) := by
  exact CaseBooks.updateCase_ok_iff.mp h

/-- The second statement finds the row the first one has left. -/
theorem find_started {old : CaseRecord} {id : String}
    (hfound : Table.find CaseRecord.key id books.cases = some old) :
    Table.find CaseRecord.key id (Table.put CaseRecord.key old.started books.cases) =
      some old.started := by
  have hkey : old.key = id := Table.key_of_find hfound
  exact Table.find_put hfound hkey

/-- What the second statement writes replaces what the first one wrote. -/
theorem put_finished (old : CaseRecord) (finish : CaseFinish) (decisionId : String)
    (evaluatedAt : Timestamp) (rows : List CaseRecord) :
    Table.put CaseRecord.key (old.started.finished finish decisionId evaluatedAt)
        (Table.put CaseRecord.key old.started rows) =
      Table.put CaseRecord.key (old.started.finished finish decisionId evaluatedAt) rows :=
  Table.put_put rfl

theorem put_queued (old : CaseRecord) (decisionId actionId : String) (evaluatedAt : Timestamp)
    (rows : List CaseRecord) :
    Table.put CaseRecord.key (old.started.queued decisionId actionId evaluatedAt)
        (Table.put CaseRecord.key old.started rows) =
      Table.put CaseRecord.key (old.started.queued decisionId actionId evaluatedAt) rows :=
  Table.put_put rfl

end

/-! ## Persisting -/

section

variable [Hashlib] {repository : AssessmentRepository} {readings : CommitReadings}
  {command : AssessRecoveryCaseCommand} {s : AssessmentSnapshot}
  {truth : FreshProviderPaymentTruth} {health : FreshMethodHealthTruth}

omit [Hashlib] in
/-- An approval is asked for with one pending row. -/
theorem requestApproval_ok {plan : BlockedAssessmentPlan} {decisionId : String}
    {books after : CaseBooks}
    (h : requestApproval repository readings command s plan decisionId books = .ok after) :
    ∃ expiresAt,
      books.admitsApproval (approvalRow readings command s decisionId expiresAt) = true ∧
      after = books.setApprovals
        (books.approvals ++ [approvalRow readings command s decisionId expiresAt]) := by
  unfold requestApproval at h
  simp only [bind_ok_iff, raiseIf_ok_iff, someOr_ok_iff, exists_and_left, exists_const,
    CaseBooks.insertApproval_ok_iff] at h
  obtain ⟨proposal, -, -, latest, -, -, hadmits, rfl⟩ := h
  exact ⟨_, hadmits, rfl⟩

/-- The approvals a blocked plan asks for. -/
def ApprovalsOf (readings : CommitReadings) (command : AssessRecoveryCaseCommand)
    (s : AssessmentSnapshot) (plan : BlockedAssessmentPlan) (approvals : List ApprovalRecord) :
    Prop :=
  if persistedDisposition plan = .approvalRequired then
    ∃ expiresAt, approvals = [approvalRow readings command s readings.decisionId expiresAt]
  else approvals = []

theorem persistBlocked_ok {plan : BlockedAssessmentPlan} {policyVersion : String}
    {books after : CaseBooks}
    (h : persistBlocked repository readings command s truth health plan policyVersion books =
      .ok after) :
    ∃ old finish approvals,
      let rows : AssessmentRows := {
        started := old.started
        finished := old.started.finished finish readings.decisionId s.databaseNow
        decision := decisionRow command s truth health plan.diagnosis readings.decisionId
          policyVersion plan.proposal.toList (blockedVerdict plan)
        approvals := approvals }
      Table.find CaseRecord.key command.recoveryCaseId books.cases = some old ∧
      old.isDue command readings.startedAt = true ∧
      caseFinish repository s truth plan = .ok finish ∧
      ApprovalsOf readings command s plan approvals ∧
      Admitted books readings.startedAt old rows ∧ after = books.assessed rows := by
  unfold persistBlocked at h
  obtain ⟨_, -, h⟩ := bind_ok_iff.mp h
  obtain ⟨opened, hopened, h⟩ := bind_ok_iff.mp h
  obtain ⟨decided, hdecided, h⟩ := bind_ok_iff.mp h
  obtain ⟨asked, hasked, h⟩ := bind_ok_iff.mp h
  obtain ⟨finish, hfinish, h⟩ := bind_ok_iff.mp h
  obtain ⟨old, hfound, hdue, hstarted, rfl⟩ := startAssessment_ok hopened
  obtain ⟨hdecision, rfl⟩ := CaseBooks.insertDecision_ok_iff.mp hdecided
  by_cases happroval : persistedDisposition plan = .approvalRequired
  · rw [if_pos happroval] at hasked
    obtain ⟨expiresAt, hadmits, rfl⟩ := requestApproval_ok hasked
    obtain ⟨row, hrow, -, hfinished, rfl⟩ := finishNonEffectCase_ok h
    obtain rfl := Option.some.inj ((find_started hfound).symm.trans hrow)
    refine ⟨old, finish, [approvalRow readings command s readings.decisionId expiresAt], hfound,
      hdue, hfinish, ?_, ?_, ?_⟩
    · rw [ApprovalsOf, if_pos happroval]
      exact ⟨expiresAt, rfl⟩
    · refine ⟨hstarted, hdecision, ?_, by simp, by simp, by simp, hfinished, by simp⟩
      intro a ha
      rw [List.mem_singleton.mp ha]
      exact hadmits
    · exact CaseBooks.ext rfl rfl rfl rfl (put_finished ..) rfl rfl (List.append_nil _).symm
        (List.append_nil _).symm (List.append_nil _).symm
  · rw [if_neg happroval] at hasked
    obtain rfl := Except.ok.inj hasked
    obtain ⟨row, hrow, -, hfinished, rfl⟩ := finishNonEffectCase_ok h
    obtain rfl := Option.some.inj ((find_started hfound).symm.trans hrow)
    refine ⟨old, finish, [], hfound, hdue, hfinish, ?_, ?_, ?_⟩
    · rw [ApprovalsOf, if_neg happroval]
    · exact ⟨hstarted, hdecision, by simp, by simp, by simp, by simp, hfinished, by simp⟩
    · exact CaseBooks.ext rfl rfl rfl rfl (put_finished ..) rfl (List.append_nil _).symm
        (List.append_nil _).symm (List.append_nil _).symm (List.append_nil _).symm

theorem persistAuthorized_ok {plan : AuthorizedAssessmentPlan} {books after : CaseBooks}
    (h : persistAuthorized repository readings command s truth health plan books = .ok after) :
    ∃ old payload,
      let rows : AssessmentRows := {
        started := old.started
        finished := old.started.queued plan.ids.decisionId plan.ids.actionId s.databaseNow
        decision := decisionRow command s truth health plan.diagnosis plan.ids.decisionId
          plan.command.priorPlan.policyVersion [plan.command.proposal]
          ⟨.allowed, some .createStandardPaymentLink, []⟩
        actions := [{ actionRow repository command s plan with status := .queued }]
        instruments := [instrumentRow command s plan]
        jobs := [jobRow repository command s plan payload] }
      Table.find CaseRecord.key command.recoveryCaseId books.cases = some old ∧
      old.isDue command readings.startedAt = true ∧
      encodeCreateStandardPaymentLinkCommand plan.command = .ok payload ∧
      Admitted books readings.startedAt old rows ∧ after = books.assessed rows := by
  unfold persistAuthorized at h
  obtain ⟨_, -, h⟩ := bind_ok_iff.mp h
  obtain ⟨_, -, h⟩ := bind_ok_iff.mp h
  obtain ⟨payload, hpayload, h⟩ := bind_ok_iff.mp h
  obtain ⟨opened, hopened, h⟩ := bind_ok_iff.mp h
  obtain ⟨decided, hdecided, h⟩ := bind_ok_iff.mp h
  obtain ⟨inserted, hinserted, h⟩ := bind_ok_iff.mp h
  obtain ⟨reserved, hreserved, h⟩ := bind_ok_iff.mp h
  obtain ⟨queued, hqueued, h⟩ := bind_ok_iff.mp h
  obtain ⟨moved, hmoved, h⟩ := bind_ok_iff.mp h
  obtain ⟨old, hfound, hdue, hstarted, rfl⟩ := startAssessment_ok hopened
  obtain ⟨hdecision, rfl⟩ := CaseBooks.insertDecision_ok_iff.mp hdecided
  obtain ⟨haction, rfl⟩ := CaseBooks.insertAction_ok_iff.mp hinserted
  obtain ⟨hinstrument, rfl⟩ := CaseBooks.insertInstrument_ok_iff.mp hreserved
  obtain ⟨row, hrow, -, hadmits, rfl⟩ := CaseBooks.updateAction_ok_iff.mp hqueued
  obtain ⟨started, hassessing, -, hfinished, rfl⟩ := queueCase_ok hmoved
  obtain rfl := Option.some.inj ((find_started hfound).symm.trans hassessing)
  obtain ⟨hjob, rfl⟩ := CaseBooks.insertJob_ok_iff.mp h
  -- the action is new, so what is queued is what was inserted
  have hfresh := CaseBooks.key_ne_of_admitsAction haction
  have hnew : ∀ a ∈ books.actions, a.key ≠ (actionRow repository command s plan).key := hfresh
  obtain rfl := Option.some.inj ((Table.find_concat hnew).symm.trans hrow)
  have hqueue := Table.put_concat hnew
    (show ActionRecord.key { actionRow repository command s plan with status := .queued } =
      ActionRecord.key (actionRow repository command s plan) from rfl)
  refine ⟨old, payload, hfound, hdue, unexpected_ok_iff.mp hpayload, ?_, ?_⟩
  · refine ⟨hstarted, hdecision, by simp, ?_, ?_, ?_, hfinished, ?_⟩
    · intro a ha
      rw [List.mem_singleton.mp ha]
      exact haction
    · intro a ha
      rw [List.mem_singleton.mp ha]
      exact hadmits
    · intro i hi
      rw [List.mem_singleton.mp hi]
      exact hinstrument
    · intro j hj
      rw [List.mem_singleton.mp hj]
      exact hjob
  · exact CaseBooks.ext rfl rfl rfl rfl (put_queued ..) rfl (List.append_nil _).symm hqueue rfl
      rfl

/-! ## What the gate decided -/

variable {planner : AssessmentPlanner} {diagnosis : DiagnosisResult}

variable (planner s truth health diagnosis) in
/-- The payment failed in a way a link can mend, and the gate allows the proposal. -/
def GateAllows : Prop :=
  ∃ proposal decision, Reviewed planner s truth health diagnosis proposal decision ∧
    decision.allowed = true

variable (planner s truth health diagnosis) in
/-- The gate has reasons, and an approval would clear them all. -/
def OnlyApprovalMissing : Prop :=
  ∃ proposal decision, Reviewed planner s truth health diagnosis proposal decision ∧
    decision.reasons ≠ [] ∧ ∀ reason ∈ decision.reasons, reason ∈ approvalBlockingReasons

variable (planner s truth health diagnosis) in
/-- The gate has a reason that passes with time. -/
def GateWaits : Prop :=
  ∃ proposal decision, Reviewed planner s truth health diagnosis proposal decision ∧
    ∃ reason ∈ decision.reasons, reason = .paymentMethodUnhealthy ∨ reason = .cooldownActive

/-- One action is queued for the proposal, with its instrument and its job. -/
structure AssessmentRows.QueuedFor (rows : AssessmentRows) (proposal : ActionProposal)
    (action : ActionRecord) (instrument : InstrumentRecord) (job : JobRecord) : Prop where
  actions : rows.actions = [action]
  instruments : rows.instruments = [instrument]
  jobs : rows.jobs = [job]
  actionStatus : action.status = .queued
  actionKey : action.actionKey = proposal.actionKey
  actionDecision : action.decisionId = rows.decision.id
  instrumentStatus : instrument.status = .creating
  instrumentAction : instrument.actionId = action.id
  reference : action.externalReferenceId = some instrument.referenceId
  jobStatus : job.status = .pending
  jobAction : job.aggregateId = action.id
  payload : ∃ stored : CreatePaymentLinkCommand, stored.proposal = proposal ∧
    stored.request.referenceId = instrument.referenceId ∧
    stored.request.amountMinor = instrument.amountMinor ∧
    encodeCreateStandardPaymentLinkCommand stored = .ok job.commandPayload
  candidates : rows.decision.candidates = [proposal.toPrimitive]
  lastAction : rows.finished.lastActionId = some action.id

/-- One approval is pending for the decision. -/
structure AssessmentRows.PendingFor (rows : AssessmentRows) (approval : ApprovalRecord) :
    Prop where
  approvals : rows.approvals = [approval]
  verdict : approval.verdict = .pending
  decision : approval.decisionId = rows.decision.id
  version : approval.aggregateVersion = rows.decision.aggregateVersion

/-- No effect is written. -/
def AssessmentRows.NoEffect (rows : AssessmentRows) : Prop :=
  rows.actions = [] ∧ rows.instruments = [] ∧ rows.jobs = []

variable (planner command s truth health diagnosis) in
/-- The rows of one commit, on the case as it was. -/
structure Committed (clock : Timestamp) (old : CaseRecord) (rows : AssessmentRows) : Prop where
  due : old.isDue command clock = true
  startState : old.state = .observing ∨ old.state = .waiting
  version : old.version = command.expectedCaseVersion
  through : rows.started.state = .assessing
  finalVersion : rows.finished.version = command.expectedCaseVersion + 2
  decisionVersion : rows.decision.aggregateVersion = command.expectedCaseVersion + 1
  decisionCase : rows.decision.recoveryCaseId = command.recoveryCaseId
  lastDecision : rows.finished.lastDecisionId = some rows.decision.id
  queued : rows.finished.state = .actionQueued ↔ GateAllows s truth health planner diagnosis
  approval : rows.finished.state = .approvalRequired ↔
    OnlyApprovalMissing s truth health planner diagnosis
  waiting : rows.finished.state = .waiting ↔ GateWaits s truth health planner diagnosis
  paid : rows.finished.state = .suppressedPaid ↔
    truth.status = .captured ∨ truth.status = .refunded
  states : rows.finished.state ∈
    [RecoveryState.actionQueued, .approvalRequired, .waiting, .suppressedPaid, .suppressedPolicy]
  verdictAllowed : rows.decision.planningGateVerdict = .allowed ↔
    rows.finished.state = .actionQueued
  verdictApproval : rows.decision.planningGateVerdict = .approvalRequired ↔
    rows.finished.state = .approvalRequired
  effect : rows.finished.state = .actionQueued →
    ∀ proposal decision, Reviewed planner s truth health diagnosis proposal decision →
      ∃ action instrument job, rows.QueuedFor proposal action instrument job
  noEffect : rows.finished.state ≠ .actionQueued → rows.NoEffect
  asked : rows.finished.state = .approvalRequired → ∃ approval, rows.PendingFor approval
  notAsked : rows.finished.state ≠ .approvalRequired → rows.approvals = []

omit [Hashlib] in
theorem isDue_iff {c : CaseRecord} {clock : Timestamp} (h : c.isDue command clock = true) :
    (c.state = .observing ∨ c.state = .waiting) ∧ c.version = command.expectedCaseVersion := by
  simp only [CaseRecord.isDue, Bool.and_eq_true, Bool.or_eq_true, decide_eq_true_eq] at h
  exact ⟨h.2.imp And.left And.left, h.1.1.2⟩

omit [Hashlib] in
theorem mem_waitReasons_iff (reason : GateReason) :
    reason.value ∈ waitReasons ↔
      reason = .paymentMethodUnhealthy ∨ reason = .cooldownActive := by
  cases reason <;> decide

/-! ## A plan without an effect -/

omit [Hashlib] in
theorem disposition_mem (plan : BlockedAssessmentPlan) :
    plan.disposition = .approvalRequired ∨ plan.disposition = .blocked := by
  unfold BlockedAssessmentPlan.disposition
  split
  · exact .inr rfl
  · split
    · exact .inl rfl
    · exact .inr rfl

omit [Hashlib] in
theorem persistedDisposition_mem (plan : BlockedAssessmentPlan) :
    persistedDisposition plan = .approvalRequired ∨ persistedDisposition plan = .waiting ∨
      persistedDisposition plan = .blocked := by
  unfold persistedDisposition
  split
  · exact .inr (.inl rfl)
  · rcases disposition_mem plan with hd | hd
    · exact .inl hd
    · exact .inr (.inr hd)

omit [Hashlib] in
/-- The state of a finished case, by the disposition. -/
theorem caseFinish_state {plan : BlockedAssessmentPlan} {finish : CaseFinish}
    (h : caseFinish repository s truth plan = .ok finish) :
    (persistedDisposition plan = .approvalRequired → finish.state = .approvalRequired) ∧
      (persistedDisposition plan = .waiting → finish.state = .waiting) ∧
      (persistedDisposition plan = .blocked →
        finish.state = if truth.status = .captured ∨ truth.status = .refunded then .suppressedPaid
          else .suppressedPolicy) := by
  unfold caseFinish at h
  refine ⟨fun hd => ?_, fun hd => ?_, fun hd => ?_⟩
  · rw [hd] at h
    rw [← Except.ok.inj h]
  · rw [hd] at h
    obtain ⟨deadline, -, h⟩ := bind_ok_iff.mp h
    rw [← pure_ok_iff.mp h]
  · rw [hd] at h
    rw [← Except.ok.inj h]

/-- A plan without an effect is committed as its disposition says. -/
theorem committed_of_blocked {plan : BlockedAssessmentPlan} {policyVersion : String}
    {old : CaseRecord} {finish : CaseFinish} {approvals : List ApprovalRecord}
    (hdue : old.isDue command readings.startedAt = true)
    (hfinish : caseFinish repository s truth plan = .ok finish)
    (happrovals : ApprovalsOf readings command s plan approvals)
    (hallows : ¬GateAllows s truth health planner diagnosis)
    (honly : persistedDisposition plan = .approvalRequired ↔
      OnlyApprovalMissing s truth health planner diagnosis)
    (hwaits : persistedDisposition plan = .waiting ↔
      GateWaits s truth health planner diagnosis)
    (hfailed : persistedDisposition plan ≠ .blocked → truth.status = .failed) :
    Committed command s truth health planner diagnosis readings.startedAt old {
      started := old.started
      finished := old.started.finished finish readings.decisionId s.databaseNow
      decision := decisionRow command s truth health plan.diagnosis readings.decisionId
        policyVersion plan.proposal.toList (blockedVerdict plan)
      approvals := approvals } := by
  obtain ⟨hstart, hversion⟩ := isDue_iff hdue
  obtain ⟨happroval, hwaiting, hblocked⟩ := caseFinish_state hfinish
  have hthrough : old.started.version + 1 = command.expectedCaseVersion + 2 := by
    show old.version + 1 + 1 = _
    omega
  rcases persistedDisposition_mem plan with hd | hd | hd
  · have hstate := happroval hd
    have hstatus := hfailed (by simp [hd])
    have honly := honly.mp hd
    have hnot : ¬GateWaits s truth health planner diagnosis := by
      rw [← hwaits, hd]
      exact AssessmentDisposition.noConfusion
    rw [ApprovalsOf, if_pos hd] at happrovals
    obtain ⟨expiresAt, rfl⟩ := happrovals
    refine ⟨hdue, hstart, hversion, rfl, hthrough, rfl, rfl, rfl, ?_, ?_, ?_, ?_, ?_, ?_, ?_, ?_,
      fun _ => ⟨rfl, rfl, rfl⟩, fun _ => ⟨_, rfl, rfl, rfl, rfl⟩, ?_⟩ <;>
      simp [CaseRecord.finished, decisionRow, blockedVerdict, hd, hstate, hstatus, hallows, honly,
        hnot]
  · have hstate := hwaiting hd
    have hstatus := hfailed (by simp [hd])
    have hwaits := hwaits.mp hd
    have hnot : ¬OnlyApprovalMissing s truth health planner diagnosis := by
      rw [← honly, hd]
      exact AssessmentDisposition.noConfusion
    rw [ApprovalsOf, if_neg (by simp [hd])] at happrovals
    refine ⟨hdue, hstart, hversion, rfl, hthrough, rfl, rfl, rfl, ?_, ?_, ?_, ?_, ?_, ?_, ?_, ?_,
      fun _ => ⟨rfl, rfl, rfl⟩, ?_, fun _ => happrovals⟩ <;>
      simp [CaseRecord.finished, decisionRow, blockedVerdict, hd, hstate, hstatus, hallows, hwaits,
        hnot]
  · have hstate := hblocked hd
    have hnot : ¬OnlyApprovalMissing s truth health planner diagnosis := by
      rw [← honly, hd]
      exact AssessmentDisposition.noConfusion
    have hnotWaits : ¬GateWaits s truth health planner diagnosis := by
      rw [← hwaits, hd]
      exact AssessmentDisposition.noConfusion
    rw [ApprovalsOf, if_neg (by simp [hd])] at happrovals
    by_cases hpaid : truth.status = .captured ∨ truth.status = .refunded
    · rw [if_pos hpaid] at hstate
      refine ⟨hdue, hstart, hversion, rfl, hthrough, rfl, rfl, rfl, ?_, ?_, ?_, ?_, ?_, ?_, ?_, ?_,
        fun _ => ⟨rfl, rfl, rfl⟩, ?_, fun _ => happrovals⟩ <;>
        simp [CaseRecord.finished, decisionRow, blockedVerdict, hd, hstate, hpaid, hallows, hnot,
          hnotWaits]
    · rw [if_neg hpaid] at hstate
      refine ⟨hdue, hstart, hversion, rfl, hthrough, rfl, rfl, rfl, ?_, ?_, ?_, ?_, ?_, ?_, ?_, ?_,
        fun _ => ⟨rfl, rfl, rfl⟩, ?_, fun _ => happrovals⟩ <;>
        simp [CaseRecord.finished, decisionRow, blockedVerdict, hd, hstate, hpaid, hallows, hnot,
          hnotWaits]

/-- A plan the gate was not asked about. -/
theorem committed_of_ungated {plan : BlockedAssessmentPlan} {policyVersion : String}
    {old : CaseRecord} {finish : CaseFinish} {approvals : List ApprovalRecord}
    (hdue : old.isDue command readings.startedAt = true)
    (hfinish : caseFinish repository s truth plan = .ok finish)
    (happrovals : ApprovalsOf readings command s plan approvals)
    (hnever : ∀ proposal decision, ¬Reviewed planner s truth health diagnosis proposal decision)
    (hungated : plan.planningDecision = none)
    (hreasons : ∀ reason ∈ plan.reasonCodes, reason ∉ waitReasons) :
    Committed command s truth health planner diagnosis readings.startedAt old {
      started := old.started
      finished := old.started.finished finish readings.decisionId s.databaseNow
      decision := decisionRow command s truth health plan.diagnosis readings.decisionId
        policyVersion plan.proposal.toList (blockedVerdict plan)
      approvals := approvals } := by
  have hd : persistedDisposition plan = .blocked := by
    rw [persistedDisposition, if_neg]
    · simp [BlockedAssessmentPlan.disposition, hungated]
    · rintro ⟨-, reason, hreason, hwaits⟩
      exact hreasons reason hreason hwaits
  refine committed_of_blocked hdue hfinish happrovals ?_ ?_ ?_ (fun h => absurd hd h)
  · rintro ⟨_, _, h, -⟩
    exact hnever _ _ h
  · refine iff_of_false (by simp [hd]) ?_
    rintro ⟨_, _, h, -⟩
    exact hnever _ _ h
  · refine iff_of_false (by simp [hd]) ?_
    rintro ⟨_, _, h, -⟩
    exact hnever _ _ h

/-- A plan the gate has denied. -/
theorem committed_of_denied {plan : BlockedAssessmentPlan} {policyVersion : String}
    {old : CaseRecord} {finish : CaseFinish} {approvals : List ApprovalRecord}
    {proposal : ActionProposal} {decision : GateDecision}
    (hdue : old.isDue command readings.startedAt = true)
    (hfinish : caseFinish repository s truth plan = .ok finish)
    (happrovals : ApprovalsOf readings command s plan approvals)
    (hreviewed : Reviewed planner s truth health diagnosis proposal decision)
    (hdenied : decision.allowed = false)
    (hdecision : plan.planningDecision = some decision)
    (hreasons : plan.reasonCodes = decision.reasons.map GateReason.value) :
    Committed command s truth health planner diagnosis readings.startedAt old {
      started := old.started
      finished := old.started.finished finish readings.decisionId s.databaseNow
      decision := decisionRow command s truth health plan.diagnosis readings.decisionId
        policyVersion plan.proposal.toList (blockedVerdict plan)
      approvals := approvals } := by
  have honly : OnlyApprovalMissing s truth health planner diagnosis ↔
      decision.reasons ≠ [] ∧ ∀ reason ∈ decision.reasons, reason ∈ approvalBlockingReasons := by
    constructor
    · rintro ⟨_, _, hother, h⟩
      exact (hother.unique hreviewed).2 ▸ h
    · intro h
      exact ⟨_, _, hreviewed, h⟩
  have hwaits : GateWaits s truth health planner diagnosis ↔
      ∃ reason ∈ decision.reasons, reason = .paymentMethodUnhealthy ∨ reason = .cooldownActive := by
    constructor
    · rintro ⟨_, _, hother, h⟩
      exact (hother.unique hreviewed).2 ▸ h
    · intro h
      exact ⟨_, _, hreviewed, h⟩
  have hdisposition : plan.disposition = .approvalRequired ↔
      decision.reasons ≠ [] ∧ ∀ reason ∈ decision.reasons, reason ∈ approvalBlockingReasons := by
    rw [BlockedAssessmentPlan.disposition, hdecision]
    show (if _ then _ else _) = AssessmentDisposition.approvalRequired ↔ _
    split
    next h => exact iff_of_true rfl h
    next h => exact iff_of_false AssessmentDisposition.noConfusion h
  have hcodes : (∃ reason ∈ plan.reasonCodes, reason ∈ waitReasons) ↔
      ∃ reason ∈ decision.reasons, reason = .paymentMethodUnhealthy ∨ reason = .cooldownActive := by
    rw [hreasons]
    simp only [List.mem_map, exists_exists_and_eq_and, mem_waitReasons_iff]
  have hallows : ¬GateAllows s truth health planner diagnosis := by
    rintro ⟨_, _, hother, hallowed⟩
    rw [(hother.unique hreviewed).2, hdenied] at hallowed
    exact Bool.noConfusion hallowed
  refine committed_of_blocked hdue hfinish happrovals hallows ?_ ?_ (fun _ => hreviewed.failed)
  · rw [honly, ← hdisposition, persistedDisposition]
    by_cases hd : plan.disposition = .approvalRequired
    · rw [if_neg (fun h => h.1 hd)]
    · refine iff_of_false ?_ hd
      split
      · exact AssessmentDisposition.noConfusion
      · exact hd
  · rw [hwaits, ← hcodes, persistedDisposition]
    by_cases hd : plan.disposition = .approvalRequired
    · rw [if_neg (fun h => h.1 hd), hd]
      refine iff_of_false AssessmentDisposition.noConfusion ?_
      -- no reason an approval clears is one that passes with time
      rw [hcodes]
      rintro ⟨reason, hreason, rfl | rfl⟩
      · exact absurd ((hdisposition.mp hd).2 _ hreason) (by decide)
      · exact absurd ((hdisposition.mp hd).2 _ hreason) (by decide)
    · by_cases hc : ∃ reason ∈ plan.reasonCodes, reason ∈ waitReasons
      · rw [if_pos ⟨hd, hc⟩]
        exact iff_of_true rfl hc
      · rw [if_neg (fun h => hc h.2)]
        refine iff_of_false ?_ hc
        rcases disposition_mem plan with h | h
        · exact absurd h hd
        · rw [h]
          exact AssessmentDisposition.noConfusion

/-! ## A plan with an effect -/

/-- An authorized plan is committed with its action, its instrument and its job. -/
theorem committed_of_authorized {plan : AuthorizedAssessmentPlan} {proposal : ActionProposal}
    {decision : GateDecision} {old : CaseRecord} {payload : Json}
    (hreviewed : Reviewed planner s truth health diagnosis proposal decision)
    (hallowed : decision.allowed = true)
    (hplan : plan.CarriesOut s diagnosis readings.planIds proposal decision)
    (hdue : old.isDue command readings.startedAt = true)
    (hpayload : encodeCreateStandardPaymentLinkCommand plan.command = .ok payload) :
    Committed command s truth health planner diagnosis readings.startedAt old {
      started := old.started
      finished := old.started.queued plan.ids.decisionId plan.ids.actionId s.databaseNow
      decision := decisionRow command s truth health plan.diagnosis plan.ids.decisionId
        plan.command.priorPlan.policyVersion [plan.command.proposal]
        ⟨.allowed, some .createStandardPaymentLink, []⟩
      actions := [{ actionRow repository command s plan with status := .queued }]
      instruments := [instrumentRow command s plan]
      jobs := [jobRow repository command s plan payload] } := by
  obtain ⟨hstart, hversion⟩ := isDue_iff hdue
  have hthrough : old.started.version + 1 = command.expectedCaseVersion + 2 := by
    show old.version + 1 + 1 = _
    omega
  have hreasons : decision.reasons = [] := List.isEmpty_iff.mp hallowed
  have hallows : GateAllows s truth health planner diagnosis :=
    ⟨proposal, decision, hreviewed, hallowed⟩
  have hnot : ¬OnlyApprovalMissing s truth health planner diagnosis := by
    rintro ⟨proposal', decision', hother, hne, -⟩
    exact hne ((hother.unique hreviewed).2 ▸ hreasons)
  have hnotWaits : ¬GateWaits s truth health planner diagnosis := by
    rintro ⟨proposal', decision', hother, reason, hreason, -⟩
    rw [(hother.unique hreviewed).2, hreasons] at hreason
    exact absurd hreason List.not_mem_nil
  refine ⟨hdue, hstart, hversion, rfl, hthrough, rfl, rfl, rfl, iff_of_true rfl hallows,
    iff_of_false RecoveryState.noConfusion hnot, iff_of_false RecoveryState.noConfusion hnotWaits,
    iff_of_false RecoveryState.noConfusion ?_, List.mem_cons_self, iff_of_true rfl rfl,
    iff_of_false GateVerdict.noConfusion RecoveryState.noConfusion, ?_, fun h => absurd rfl h,
    fun h => RecoveryState.noConfusion h, fun _ => rfl⟩
  · rw [hreviewed.failed]
    exact not_or.mpr ⟨PaymentStatus.noConfusion, PaymentStatus.noConfusion⟩
  · intro _ proposal' decision' hother
    obtain rfl := (hother.unique hreviewed).1
    refine ⟨_, _, _, rfl, rfl, rfl, rfl, ?_, rfl, rfl, rfl, rfl, rfl, rfl,
      ⟨plan.command, hplan.proposal, rfl, hplan.amountMinor, hpayload⟩, ?_, rfl⟩
    · show plan.command.proposal.actionKey = _
      rw [hplan.proposal]
    · show [plan.command.proposal.toPrimitive] = _
      rw [hplan.proposal]

/-! ## The commit -/

variable {initial : AssessmentSnapshot} {books : CaseBooks}

theorem persistPlan_committed {plan : AssessmentPlan} {after : CaseBooks}
    (hplan : PlannedAs planner s truth health diagnosis readings.planIds plan)
    (h : persistPlan repository readings command s truth health planner plan books = .ok after) :
    ∃ old rows,
      Table.find CaseRecord.key command.recoveryCaseId books.cases = some old ∧
      Committed command s truth health planner diagnosis readings.startedAt old rows ∧
      Admitted books readings.startedAt old rows ∧ after = books.assessed rows := by
  cases hplan with
  | notFailed hstatus =>
    obtain ⟨old, finish, approvals, hfound, hdue, hfinish, happrovals, hadmitted, rfl⟩ :=
      persistBlocked_ok h
    have hnever : ∀ proposal decision,
        ¬Reviewed planner s truth health diagnosis proposal decision :=
      fun _ _ hreviewed => hstatus hreviewed.failed
    exact ⟨old, _, hfound, committed_of_ungated hdue hfinish happrovals hnever rfl
      (by simp [waitReasons]), hadmitted, rfl⟩
  | notEligible hstatus hclass =>
    obtain ⟨old, finish, approvals, hfound, hdue, hfinish, happrovals, hadmitted, rfl⟩ :=
      persistBlocked_ok h
    have hnever : ∀ proposal decision,
        ¬Reviewed planner s truth health diagnosis proposal decision :=
      fun _ _ hreviewed => hclass hreviewed.eligible
    exact ⟨old, _, hfound, committed_of_ungated hdue hfinish happrovals hnever rfl
      (by simp [waitReasons]), hadmitted, rfl⟩
  | denied hreviewed hdenied =>
    obtain ⟨old, finish, approvals, hfound, hdue, hfinish, happrovals, hadmitted, rfl⟩ :=
      persistBlocked_ok h
    exact ⟨old, _, hfound, committed_of_denied hdue hfinish happrovals hreviewed hdenied rfl rfl,
      hadmitted, rfl⟩
  | authorized hreviewed hallowed hplan =>
    have hcarries := authorizedPlan_ok hplan
    obtain ⟨old, payload, hfound, hdue, hpayload, hadmitted, rfl⟩ := persistAuthorized_ok h
    exact ⟨old, _, hfound, committed_of_authorized hreviewed hallowed hcarries hdue hpayload,
      hadmitted, rfl⟩

/-- What a commit that returns has done. -/
theorem commitPlan_ok {after : CaseBooks} {result : AssessmentResult}
    (h : commitPlan repository readings command truth health planner diagnosis initial books =
      (after, .ok result)) :
    ∃ s old rows,
      snapshotFromRow (books.assessmentRow readings.lockedAt command) command = .ok s ∧
      initial.stateDigest = s.stateDigest ∧
      Table.find CaseRecord.key command.recoveryCaseId books.cases = some old ∧
      Committed command s truth health planner diagnosis readings.startedAt old rows ∧
      Admitted books readings.startedAt old rows ∧ after = books.assessed rows := by
  unfold commitPlan at h
  split at h
  next written returned hwork =>
    rw [sanitized_ok_iff] at hwork
    unfold commitWork at hwork
    obtain ⟨_, -, hwork⟩ := bind_ok_iff.mp hwork
    obtain ⟨s, hs, hwork⟩ := bind_ok_iff.mp hwork
    obtain ⟨_, hdigest, hwork⟩ := bind_ok_iff.mp hwork
    obtain ⟨_, -, hwork⟩ := bind_ok_iff.mp hwork
    obtain ⟨_, -, hwork⟩ := bind_ok_iff.mp hwork
    obtain ⟨plan, hplan, hwork⟩ := bind_ok_iff.mp hwork
    obtain ⟨persisted, hpersisted, hwork⟩ := bind_ok_iff.mp hwork
    obtain ⟨rfl, -⟩ := Prod.mk.inj (pure_ok_iff.mp hwork)
    obtain ⟨old, rows, hfound, hcommitted, hadmitted, hafter⟩ :=
      persistPlan_committed (planned_of_ok hplan) hpersisted
    exact ⟨s, old, rows, hs, not_not.mp (raiseIf_ok_iff.mp hdigest), hfound, hcommitted,
      hadmitted, (Prod.mk.inj h).1 ▸ hafter⟩
  next => exact absurd (Prod.mk.inj h).2 (by simp)

/-- One that raises has left the books as they were. -/
theorem commitPlan_error {after : CaseBooks} {e : AssessmentError}
    (h : commitPlan repository readings command truth health planner diagnosis initial books =
      (after, .error e)) : after = books := by
  unfold commitPlan at h
  split at h
  next => exact absurd (Prod.mk.inj h).2 (by simp)
  next => exact (Prod.mk.inj h).1.symm

variable (repository readings command truth health planner diagnosis initial books) in
/-- A commit raises and leaves the books as they were, or writes what the gate decided: exactly
one decision at the next version, the case two versions on, and the rows of its outcome, each of
them admitted. -/
theorem commit_plan_commits_what_the_gate_decided :
    (∃ e, commitPlan repository readings command truth health planner diagnosis initial books =
        (books, .error e)) ∨
      ∃ s old rows result,
        commitPlan repository readings command truth health planner diagnosis initial books =
          (books.assessed rows, .ok result) ∧
        snapshotFromRow (books.assessmentRow readings.lockedAt command) command = .ok s ∧
        initial.stateDigest = s.stateDigest ∧
        Table.find CaseRecord.key command.recoveryCaseId books.cases = some old ∧
        Committed command s truth health planner diagnosis readings.startedAt old rows ∧
        Admitted books readings.startedAt old rows := by
  cases hcommit : commitPlan repository readings command truth health planner diagnosis initial
      books with
  | mk after returned =>
    cases returned with
    | error e => exact .inl ⟨e, by rw [commitPlan_error hcommit]⟩
    | ok result =>
      obtain ⟨s, old, rows, hs, hdigest, hfound, hcommitted, hadmitted, rfl⟩ :=
        commitPlan_ok hcommit
      exact .inr ⟨s, old, rows, result, rfl, hs, hdigest, hfound, hcommitted, hadmitted⟩

end

end Retrywise.ControlPlane
