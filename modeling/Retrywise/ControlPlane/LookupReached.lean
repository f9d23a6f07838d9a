import Retrywise.ControlPlane.LinkRuns

/-!
# Which deliveries get to look up

A delivery that took over from a crashed one may only reconcile: it asks the provider
what became of the create. `record_effect_authorization` lets it do so from an action
that is on record as uncertain, and from no other:

> `reachesLookup_iff`: a cleared delivery that may only reconcile gets to its lookup if
> and only if the action is uncertain or reconciling, and the clock has not gone back
> behind the first attempt.

A worker that crashes between its authorization and its result leaves the action
executing. No delivery after it gets to look up.
-/

namespace Retrywise.ControlPlane

open Retrywise.Foundation Retrywise.Domain

section

variable [Hashlib]

/-- The delivery of this version records its authorization, and asks for the lookup. -/
def CreateJob.ReachesLookup (state : CreateJob) (system : CreateSystem) (version : Nat)
    (fencedAt writtenAt : Timestamp) : Prop :=
  ∃ authorized final,
    system.machine.exec state (.deliver version (.authorize fencedAt writtenAt)) =
        .ok (authorized, none) ∧
      system.machine.exec authorized (.deliver version .send) =
        .ok (final, some system.lookupCall)

variable {system : CreateSystem} {state : CreateJob} {version : Nat}
  {claim : ClaimedOutboxCommand} {job : OutboxJob} {effect : GateDecision}
  {context : GateContext} {now fencedAt writtenAt : Timestamp}

/-- Behind its authorization a delivery that may only reconcile always asks. -/
theorem reachesLookup_iff_recorded
    (hd : state.delivery version = some ⟨claim, .working job (.cleared effect context now)⟩)
    (hmode : job.retryMode = .reconcileOnly) :
    state.ReachesLookup system version fencedAt writtenAt ↔
      ∃ changed, recordEffectAuthorization system.server
        (lockFence state.row state.path job system.command claim.workerId fencedAt) writtenAt
        state.path job system.command effect context claim.workerId true = .ok changed := by
  constructor
  · intro h
    obtain ⟨authorized, final, hauthorize, hsend⟩ := h
    cases hrecord : recordEffectAuthorization system.server
        (lockFence state.row state.path job system.command claim.workerId fencedAt) writtenAt
        state.path job system.command effect context claim.workerId true with
    | ok changed => exact ⟨changed, rfl⟩
    | error e =>
      -- the exception leaves a delivery that is to be settled, which sends nothing
      exfalso
      have hadvance : system.advance state.row state.path claim.workerId job
          (.cleared effect context now) (.authorize fencedAt writtenAt) =
            some ⟨state.path, .settling (handlerFailure e), none⟩ := by
        unfold CreateSystem.advance
        dsimp only
        rw [hmode, decide_eq_true (rfl : RetryMode.reconcileOnly = .reconcileOnly), hrecord]
        rfl
      rw [CreateSystem.exec_deliver hd hadvance] at hauthorize
      obtain ⟨rfl, -⟩ := Prod.mk.inj (Except.ok.inj hauthorize)
      simp [CreateSystem.machine, CreateSystem.exec, setDelivery_self] at hsend
  · intro h
    obtain ⟨changed, hrecord⟩ := h
    have hadvance : system.advance state.row state.path claim.workerId job
        (.cleared effect context now) (.authorize fencedAt writtenAt) =
          some ⟨changed, .working job (.authorized effect now), none⟩ := by
      unfold CreateSystem.advance
      dsimp only
      rw [hmode, decide_eq_true (rfl : RetryMode.reconcileOnly = .reconcileOnly), hrecord]
    let authorized : CreateJob := ⟨state.row, changed, CreateSystem.setDelivery state.delivery
      version ⟨claim, .working job (.authorized effect now)⟩⟩
    have hd' : authorized.delivery version =
        some ⟨claim, .working job (.authorized effect now)⟩ := setDelivery_self
    have hbegun : beginEffect job system.command claim.workerId now effect = .ok .reconcile :=
      beginEffect_of_reconcileOnly hmode
    exact ⟨authorized, _, CreateSystem.exec_deliver hd hadvance,
      CreateSystem.exec_deliver hd' (system.advance_send hbegun)⟩

variable {storesCaseText : Bool}

/-- A reconciliation is recorded of an uncertain effect, where the clock is not behind
its first attempt. -/
theorem recorded_reconciliation_iff {path : EffectPath} {command : CreatePaymentLinkCommand}
    {workerId : String} (hjournal : path.Journaled) (hstaged : path.Staged)
    (hallowed : effect.allowed = true) (hbound : path.Bound command context)
    (hworker : hasText (some workerId) = true) (hlease : job.leaseExpiresAt.isSome = true) :
    (∃ changed, recordEffectAuthorization (schemaServer storesCaseText) true writtenAt path job
        command effect context workerId true = .ok changed) ↔
      path.action.status ∈ [ActionStatus.uncertain, .reconciling] ∧
        ∀ first, path.action.firstAttemptedAt = some first → first ≤ effect.evaluatedAt := by
  have htyped : ∀ u ∈ [startReconciliation workerId job.leaseExpiresAt effect.evaluatedAt],
      u.typed = true := by
    simp [startReconciliation, onAction]
  constructor
  · intro h
    obtain ⟨changed, hchanged⟩ := h
    obtain ⟨updates, hupdates, hrun⟩ :=
      (recordEffectAuthorization_ok_iff_runUpdates hallowed hbound).mp hchanged
    obtain ⟨hstatus, rfl⟩ := (authorizationUpdates_reconcile_ok_iff hstaged).mp hupdates
    obtain ⟨-, hadmitted⟩ := (runUpdates_ok_iff htyped).mp hrun
    exact ⟨hstatus,
      (allAdmitted_reconciliation_iff hjournal hstatus hworker hlease).mp hadmitted⟩
  · intro h
    obtain ⟨hstatus, hclock⟩ := h
    obtain ⟨changed, happlied⟩ : ∃ changed, applyAll
        [startReconciliation workerId job.leaseExpiresAt effect.evaluatedAt] path =
          some changed := by
      simp only [applyAll_cons, applyAll_nil, startReconciliation, onAction, if_pos hstatus,
        Option.bind_some]
      exact ⟨_, rfl⟩
    have hrun : runUpdates (schemaServer storesCaseText) writtenAt
        [startReconciliation workerId job.leaseExpiresAt effect.evaluatedAt] path = .ok changed :=
      (runUpdates_ok_iff htyped).mpr
        ⟨happlied, (allAdmitted_reconciliation_iff hjournal hstatus hworker hlease).mpr hclock⟩
    exact ⟨changed, (recordEffectAuthorization_ok_iff_runUpdates hallowed hbound).mpr
      ⟨_, (authorizationUpdates_reconcile_ok_iff hstaged).mpr ⟨hstatus, rfl⟩, hrun⟩⟩

/-- **Which deliveries get to look up.** In every state deliveries reach, and for every
delivery there whose effect is allowed, that may only reconcile, and that holds its fence. -/
theorem reachesLookup_iff (hserver : system.server = schemaServer storesCaseText)
    {init : CreateJob} {steps : List CreateStep} (hplanned : system.Planned init)
    (hrun : system.machine.Run init steps state)
    (hd : state.delivery version = some ⟨claim, .working job (.cleared effect context now)⟩)
    (hmode : job.retryMode = .reconcileOnly)
    (hfence : lockFence state.row state.path job system.command claim.workerId fencedAt = true) :
    state.ReachesLookup system version fencedAt writtenAt ↔
      state.path.action.status ∈ [ActionStatus.uncertain, .reconciling] ∧
        ∀ first, state.path.action.firstAttemptedAt = some first → first ≤ now := by
  have hcleared := cleared_of_run hserver hplanned hrun hd hfence
  obtain ⟨hkept, hrecord⟩ := record_of_run hserver hplanned hrun
  have hlease : job.leaseExpiresAt.isSome = true := by
    rw [hkept.jobs version claim job _ hd]
    rfl
  rw [reachesLookup_iff_recorded hd hmode, hfence, hserver, recorded_reconciliation_iff
    hrecord.journaled hkept.staged hcleared.allowed hcleared.bound claim.hasText_workerId hlease,
    hcleared.evaluatedAt]

end

/-- A delivery takes over from one that has persisted that nobody knows, and looks up. -/
theorem reachesLookup_iff_taken_over :
    ∃ (system : CreateSystem) (init state : CreateJob) (steps : List CreateStep) (version : Nat)
      (at_ : Timestamp), system.machine.Run init steps state ∧
        state.ReachesLookup system version at_ at_ := by
  let o : LinkOffer := ⟨⟨12500, "INR", rfl⟩, "upi", by decide, rfl⟩
  obtain ⟨_, state, _, _, hcleared, huncertain⟩ := LinkDelivery.exists_takenOver o
  obtain ⟨_, _, hd, hmode, hfence⟩ := hcleared.fenced
  refine ⟨_, _, state, _, 2, LinkDelivery.laterTime, hcleared.run, ?_⟩
  refine (reachesLookup_iff rfl (LinkDelivery.planned_job o) hcleared.run hd hmode hfence).mpr ?_
  refine ⟨by rw [huncertain.status]; decide, ?_⟩
  intro first hfirst
  rw [huncertain.attempted] at hfirst
  rw [← Option.some.inj hfirst]
  decide

/-- A worker asks for the create and crashes. The delivery that takes over holds its
fence and its effect is allowed, but the action is executing. -/
theorem not_always_reconcilable :
    ¬∀ (system : CreateSystem) (init state : CreateJob) (steps : List CreateStep) (version : Nat)
      (claim : ClaimedOutboxCommand) (job : OutboxJob) (effect : GateDecision)
      (context : GateContext) (now fencedAt writtenAt : Timestamp) (storesCaseText : Bool),
      system.server = schemaServer storesCaseText → system.Planned init →
        system.machine.Run init steps state →
        state.delivery version = some ⟨claim, .working job (.cleared effect context now)⟩ →
        job.retryMode = .reconcileOnly →
        lockFence state.row state.path job system.command claim.workerId fencedAt = true →
        state.ReachesLookup system version fencedAt writtenAt := by
  intro h
  let o : LinkOffer := ⟨⟨12500, "INR", rfl⟩, "upi", by decide, rfl⟩
  obtain ⟨_, _, _, hsent, htried, -⟩ := LinkDelivery.exists_sent o
  obtain ⟨_, hclaimPath, hclaimed⟩ := hsent.reclaim LinkDelivery.laterTime
    (by decide) (by decide) (by decide) (by decide)
  obtain ⟨last, _, _, -, hreadPath, hcleared⟩ := hclaimed.read
    (by rw [hclaimPath, htried.status]; decide)
  obtain ⟨_, _, hd, hmode, hfence⟩ := hcleared.fenced
  have hreaches := h _ _ _ _ _ _ _ _ _ _ LinkDelivery.laterTime LinkDelivery.laterTime false rfl
    (LinkDelivery.planned_job o) hcleared.run hd hmode hfence
  obtain ⟨changed, hrecorded⟩ := (reachesLookup_iff_recorded hd hmode).mp hreaches
  rw [show lockFence last.post.row last.post.path _ (LinkDelivery.system o).command _ _ = true
    from hfence] at hrecorded
  obtain ⟨_, hupdates, -⟩ := (recordEffectAuthorization_ok_iff_runUpdates
    hcleared.found.allowed hcleared.found.bound).mp hrecorded
  obtain ⟨hstatus, -⟩ := (authorizationUpdates_reconcile_ok_iff
    (LinkDelivery.record hcleared.run).1.staged).mp hupdates
  rw [hreadPath, hclaimPath, htried.status] at hstatus
  exact absurd hstatus (by decide)

end Retrywise.ControlPlane
