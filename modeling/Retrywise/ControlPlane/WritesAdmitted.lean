import Retrywise.ControlPlane.LinkRuns

/-!
# Which writes the database admits

The writer of the create path and the triggers of its tables are two programs for one
protocol. They agree on the first pass of an effect, and part where a row is visited
again:

> `allAdmitted_iff_lawful`: every statement a delivery issues under its fence is
> admitted if and only if the action it starts, or suppresses from the queue, carries
> no evidence yet, the failure it records is not of a queued or a reconciling action,
> the link it records is no other instrument's, and the clock has not gone back.

A retry of the same effect starts an action that carries the evidence of its first
start. That evidence is written once, so the retry is stopped.
-/

namespace Retrywise.ControlPlane

open Retrywise.Foundation Retrywise.Domain

/-- What a delivery has to write. -/
inductive PathWrite where
  | authorization (job : OutboxJob) (effect : GateDecision) (workerId : String)
  | outcome (result : ExecutionResult)

/-- The statements it is written with. -/
def PathWrite.updates (server : Server) (path : EffectPath) :
    PathWrite → Except ControlPlaneError (List Update)
  | .authorization job effect workerId =>
    authorizationUpdates path job effect workerId (job.retryMode = .reconcileOnly)
  | .outcome result => resultUpdates server path result

/-- The protocol of the triggers, as far as the writer can miss it. -/
def PathWrite.Lawful (storesCaseText : Bool) (now : Timestamp) (path : EffectPath) :
    PathWrite → Prop
  | .authorization job effect _ =>
    if job.retryMode = .reconcileOnly then
      ∀ first, path.action.firstAttemptedAt = some first → first ≤ effect.evaluatedAt
    else path.action.status = .queued →
      path.action.effectGateSnapshot = none ∧ path.around.approvalHolds now = true
  | .outcome result =>
    match result.disposition with
    | .created | .adopted => ∀ linkId ∈ result.paymentLinkId, linkId ∉ path.around.otherLinks
    | .escalated | .deadLetter =>
      storesCaseText = true → path.action.status ∉ [ActionStatus.queued, .reconciling]
    | .suppressed => path.action.status = .queued → path.action.effectGateSnapshot = none
    | .requeued | .requeryRequired => True

section

variable {storesCaseText : Bool} {now : Timestamp} {path : EffectPath}

/-! ## The authorization -/

theorem allAdmitted_authorization_iff {job : OutboxJob} {effect : GateDecision} {workerId : String}
    {updates : List Update} (hjournal : path.Journaled) (hstaged : path.Staged)
    (hversion : effect.aggregateVersion = path.recoveryCase.version)
    (henvironment : path.around.accountEnvironment = .test)
    (henabled : path.around.accountEnabled = true)
    (hmerchant : path.around.merchantStatus = .active)
    (hswitch : path.around.merchantKillSwitch = false)
    (hworker : hasText (some workerId) = true) (hlease : job.leaseExpiresAt.isSome = true)
    (h : (PathWrite.authorization job effect workerId).updates (schemaServer storesCaseText) path =
      .ok updates) :
    AllAdmitted (schemaServer storesCaseText) now updates path ↔
      (PathWrite.authorization job effect workerId).Lawful storesCaseText now path := by
  simp only [PathWrite.updates] at h
  simp only [PathWrite.Lawful]
  by_cases hmode : job.retryMode = .reconcileOnly
  · rw [decide_eq_true hmode] at h
    rw [if_pos hmode]
    obtain ⟨hstatus, rfl⟩ := (authorizationUpdates_reconcile_ok_iff hstaged).mp h
    exact allAdmitted_reconciliation_iff hjournal hstatus hworker hlease
  · rw [decide_eq_false hmode, authorizationUpdates, if_neg (by simp)] at h
    rw [if_neg hmode]
    split_ifs at h with hqueued hrefused
    · rw [← Except.ok.inj h]
      obtain ⟨-, hstatus⟩ := hqueued
      rw [allAdmitted_start_iff hjournal hstaged hstatus hversion henvironment henabled hmerchant
        hswitch hworker hlease]
      exact ⟨fun hadmitted _ => hadmitted, fun hlawful => hlawful hstatus⟩
    · -- an effect that is executing already is not started again
      rw [← Except.ok.inj h]
      rw [not_or, not_not, not_not] at hrefused
      refine ⟨fun _ hstatus => ?_, fun _ => trivial⟩
      rw [hrefused.2] at hstatus
      exact absurd hstatus (by decide)

/-! ## The result -/

theorem ite_mem_pair (p : Prop) [Decidable p] (a b : RecoveryState) :
    (if p then a else b) ∈ [a, b] := by
  by_cases h : p
  · simp [h]
  · simp [h]

theorem allAdmitted_result_iff {result : ExecutionResult} {updates : List Update}
    (hjournal : path.Journaled) (hstaged : path.Staged) (htold : result.Told)
    (hwork : result.disposition ∈ [ExecutionDisposition.created, .adopted] →
      path.action.status ∈ [ActionStatus.executing, .reconciling])
    (h : resultUpdates (schemaServer storesCaseText) path result = .ok updates) :
    AllAdmitted (schemaServer storesCaseText) now updates path ↔
      (PathWrite.outcome result).Lawful storesCaseText now path := by
  unfold resultUpdates at h
  cases hdisposition : result.disposition with
  | created | adopted =>
    simp only [PathWrite.Lawful, hdisposition]
    rw [hdisposition] at h
    have hstatus := hwork (by simp [hdisposition])
    cases hlink : result.paymentLinkId with
    | none =>
      simp only [hlink] at h
      exact absurd h (by simp)
    | some linkId =>
      simp only [hlink] at h
      split_ifs at h
      rw [← Except.ok.inj h, allAdmitted_adoption_iff hjournal hstaged hstatus]
      simp
  | requeryRequired =>
    simp only [PathWrite.Lawful, hdisposition]
    rw [hdisposition] at h
    refine ⟨fun _ => trivial, fun _ => ?_⟩
    rw [← Except.ok.inj h]
    by_cases hstatus : path.action.status = .executing
    · exact allAdmitted_requery hjournal hstaged hstatus
    · exact allAdmitted_of_unmatched fun _ => if_neg (by simpa using hstatus)
  | requeued =>
    simp only [PathWrite.Lawful, hdisposition]
    rw [hdisposition] at h
    refine ⟨fun _ => trivial, fun _ => ?_⟩
    dsimp only at h
    split at h
    next hstatus =>
      rw [← Except.ok.inj h]
      exact allAdmitted_requeue_executing hjournal hstaged hstatus
    next hstatus =>
      rw [← Except.ok.inj h]
      exact allAdmitted_requeue_reconciling hjournal hstaged hstatus
    next => exact absurd h (by simp)
  | escalated | deadLetter =>
    simp only [PathWrite.Lawful, hdisposition]
    rw [hdisposition] at h
    rw [← Except.ok.inj h]
    exact allAdmitted_failure_iff hjournal hstaged (htold (by simp [hdisposition])).1
  | suppressed =>
    simp only [PathWrite.Lawful, hdisposition]
    rw [hdisposition] at h
    obtain ⟨hreason, hreasons⟩ := htold (by simp [hdisposition])
    dsimp only at h
    split at h
    next hstatus =>
      rw [← Except.ok.inj h, allAdmitted_suppression_queued_iff hjournal hstaged hstatus hreason
        (hreasons hdisposition) (ite_mem_pair _ _ _)]
      exact ⟨fun hadmitted _ => hadmitted, fun hlawful => hlawful hstatus⟩
    next hstatus =>
      rw [← Except.ok.inj h]
      refine ⟨fun _ hqueued => absurd (hstatus.symm.trans hqueued) (by decide), fun _ => ?_⟩
      exact allAdmitted_suppression_uncertain hjournal hstaged (by simp [hstatus]) hreason
        (ite_mem_pair _ _ _)
    next hstatus =>
      rw [← Except.ok.inj h]
      refine ⟨fun _ hqueued => absurd (hstatus.symm.trans hqueued) (by decide), fun _ => ?_⟩
      exact allAdmitted_suppression_uncertain hjournal hstaged (by simp [hstatus]) hreason
        (ite_mem_pair _ _ _)
    next => exact absurd h (by simp)

end

/-! ## Along deliveries -/

section

variable [Hashlib]

/-- A delivery is about to write, and its fence is held. -/
inductive CreateJob.Writes (state : CreateJob) (system : CreateSystem) : PathWrite → Prop
  | authorization {version : Nat} {claim : ClaimedOutboxCommand} {job : OutboxJob}
      {effect : GateDecision} {context : GateContext} {now fencedAt : Timestamp}
      (hd : state.delivery version = some ⟨claim, .working job (.cleared effect context now)⟩)
      (hfence :
        lockFence state.row state.path job system.command claim.workerId fencedAt = true) :
      state.Writes system (.authorization job effect claim.workerId)
  | outcome {version : Nat} {claim : ClaimedOutboxCommand} {job : OutboxJob}
      {result : ExecutionResult} {fencedAt : Timestamp}
      (hd : state.delivery version = some ⟨claim, .working job (.finished result)⟩)
      (hfence : lockFence state.row state.path job system.command (job.leaseOwner.getD "") fencedAt =
        true) :
      state.Writes system (.outcome result)

/-- **Which writes are admitted.** In every state deliveries reach, and for all that any
delivery writes there. -/
theorem allAdmitted_iff_lawful {system : CreateSystem} {storesCaseText : Bool}
    {init state : CreateJob} {steps : List CreateStep} {write : PathWrite} {updates : List Update}
    {now : Timestamp} (hserver : system.server = schemaServer storesCaseText)
    (hplanned : system.Planned init) (hrun : system.machine.Run init steps state)
    (hwrites : state.Writes system write)
    (hupdates : write.updates system.server state.path = .ok updates) :
    AllAdmitted system.server now updates state.path ↔
      write.Lawful storesCaseText now state.path := by
  obtain ⟨hkept, hrecord⟩ := record_of_run hserver hplanned hrun
  rw [hserver] at hupdates ⊢
  cases hwrites with
  | @authorization version claim job effect context at_ fencedAt hd hfence =>
    obtain ⟨-, -, hversion, hbound, -⟩ := cleared_of_run hserver hplanned hrun hd hfence
    obtain ⟨-, -, -, -, -, hmerchant, hswitch, henvironment, henabled, -, -⟩ := hbound
    have hlease : job.leaseExpiresAt.isSome = true := by
      rw [hkept.jobs version claim job _ hd]
      rfl
    exact allAdmitted_authorization_iff hrecord.journaled hkept.staged hversion henvironment
      henabled hmerchant hswitch claim.hasText_workerId hlease hupdates
  | @outcome version claim job result fencedAt hd hfence =>
    have hcurrent : state.row.Current version := hkept.jobVersion hd ▸ current_of_lockFence hfence
    obtain ⟨-, hwork, -⟩ := hkept.current version _ hcurrent hd
    refine allAdmitted_result_iff hrecord.journaled hkept.staged
      (hrecord.stages version claim job _ hd) ?_ hupdates
    intro hgiven
    have hauthorized : result.disposition ∈ authorizedDispositions := by
      simp only [List.mem_cons, List.not_mem_nil, or_false] at hgiven
      rcases hgiven with h | h <;> simp [authorizedDispositions, h]
    rw [hwork hauthorized]
    cases job.retryMode <;> simp [RetryMode.workStatus]

/-- A queued effect that is cleared to be created has its start to write. -/
theorem LinkDelivery.At.writesStart {o : LinkOffer} {steps : List CreateStep} {state : CreateJob}
    {version : Nat} {mode : RetryMode} {now : Timestamp} {effect : GateDecision}
    {context : GateContext}
    (h : LinkDelivery.At o steps state version mode now (.cleared effect context now))
    (hmode : mode ≠ .reconcileOnly) (hqueued : state.path.action.status = .queued) :
    ∃ job workerId updates, job.retryMode = mode ∧
      state.Writes (LinkDelivery.system o) (.authorization job effect workerId) ∧
      (PathWrite.authorization job effect workerId).updates (LinkDelivery.system o).server
        state.path = .ok updates ∧ updates ≠ [] := by
  obtain ⟨claim, job, hd, hjobMode, hfence⟩ := h.fenced
  have hcase : state.path.recoveryCase.state = .actionQueued := by
    have hstaged := (LinkDelivery.record h.run).1.staged
    simp only [EffectPath.Staged, hqueued] at hstaged
    exact hstaged.1
  refine ⟨job, claim.workerId, [startCaseExecution state.path.recoveryCase.version,
    startActionExecution claim.workerId job.leaseExpiresAt (gateSnapshot effect)
      effect.evaluatedAt], hjobMode, .authorization hd hfence, ?_, by simp⟩
  rw [PathWrite.updates, hjobMode, decide_eq_false hmode, authorizationUpdates, if_neg (by simp),
    if_pos ⟨hcase, hqueued⟩]

end

/-- The first start of an effect is admitted. -/
theorem allAdmitted_iff_lawful_started :
    ∃ (system : CreateSystem) (init state : CreateJob) (steps : List CreateStep)
      (write : PathWrite) (updates : List Update), system.machine.Run init steps state ∧
        state.Writes system write ∧ write.updates system.server state.path = .ok updates ∧
        updates ≠ [] ∧ AllAdmitted system.server LinkDelivery.firstTime updates state.path := by
  let o : LinkOffer := ⟨⟨12500, "INR", rfl⟩, "upi", by decide, rfl⟩
  obtain ⟨_, state, _, _, hcleared, hqueued, hnone⟩ := LinkDelivery.exists_cleared o
  obtain ⟨_, _, _, hmode, hwrites, hupdates, hsome⟩ := hcleared.writesStart (by decide) hqueued
  refine ⟨_, _, state, _, _, _, hcleared.run, hwrites, hupdates, hsome, ?_⟩
  refine (allAdmitted_iff_lawful rfl (LinkDelivery.planned_job o) hcleared.run hwrites
    hupdates).mpr ?_
  rw [PathWrite.Lawful, if_neg (by simp [hmode])]
  refine fun _ => ⟨hnone, ?_⟩
  rw [(LinkDelivery.around_of_run hcleared.run).1]
  rfl

/-- The provider refuses the create for certain, so the effect is queued again, and the
next delivery may create. The database does not let it start. -/
theorem not_always_admitted :
    ¬∀ (system : CreateSystem) (init state : CreateJob) (steps : List CreateStep)
      (write : PathWrite) (updates : List Update) (now : Timestamp) (storesCaseText : Bool),
      system.server = schemaServer storesCaseText → system.Planned init →
        system.machine.Run init steps state → state.Writes system write →
        write.updates system.server state.path = .ok updates →
        AllAdmitted system.server now updates state.path := by
  intro h
  let o : LinkOffer := ⟨⟨12500, "INR", rfl⟩, "upi", by decide, rfl⟩
  obtain ⟨_, _, _, hsent, htried, -⟩ := LinkDelivery.exists_sent o
  obtain ⟨_, _, hfailedPath, hrequeued, hreason, hmode, hfailed⟩ := hsent.answerFailed
  obtain ⟨_, hqueued, hpersisted⟩ := hfailed.persistRequeued hrequeued
    (by rw [hfailedPath]; exact htried)
  obtain ⟨_, _, hclaimPath, hclaimed⟩ := hpersisted.retry LinkDelivery.laterTime hrequeued hreason
    (by decide) hmode (by decide) (by decide) (by decide) (by decide)
  obtain ⟨last, _, _, -, hreadPath, hcleared⟩ := hclaimed.read
    (by rw [hclaimPath, hqueued.status]; decide)
  have hstill : LinkDelivery.Tried last.post.path .queued LinkDelivery.firstTime := by
    rw [hreadPath, hclaimPath]
    exact hqueued
  obtain ⟨job, workerId, updates, hjobMode, hwrites, hupdates, -⟩ :=
    hcleared.writesStart (by decide) hstill.status
  have hadmitted := h _ _ _ _ _ _ LinkDelivery.laterTime false rfl (LinkDelivery.planned_job o)
    hcleared.run hwrites hupdates
  obtain ⟨hkept, hrecord⟩ := LinkDelivery.record hcleared.run
  have hlease : job.leaseExpiresAt.isSome = true := by
    cases hwrites with
    | authorization hd hfence =>
      rw [hkept.jobs _ _ _ _ hd]
      rfl
  have hworker : hasText (some workerId) = true := by
    cases hwrites with
    | authorization hd hfence => exact ClaimedOutboxCommand.hasText_workerId _
  obtain ⟨-, -, hversion, hbound, -⟩ := hcleared.found
  obtain ⟨-, -, -, -, -, hmerchant, hswitch, henvironment, henabled, -, -⟩ := hbound
  have hlawful := (allAdmitted_authorization_iff hrecord.journaled hkept.staged hversion
    henvironment henabled hmerchant hswitch hworker hlease hupdates).mp hadmitted
  rw [PathWrite.Lawful, if_neg (by simp [hjobMode])] at hlawful
  exact hstill.evidence (hlawful hstill.status).1

end Retrywise.ControlPlane
