import Retrywise.ControlPlane.DeliveryInvariants
import Retrywise.ControlPlane.PathAdmission

/-!
# What a delivery has on record

Under the database of the migrations, next to what `DeliveryInvariants` keeps:

> `OnRecord`: the path stays journaled and stays the path of the command; a cleared
> delivery has an allowed decision of the gate behind it, a finished one says why it
> ended the effect; and as long as a cleared delivery holds the lease, the context it
> was decided in is what a read of the path would still tell.

The last part is why the lease matters: nobody else writes the path between the
read and the authorization of the delivery that holds it.
-/

namespace Retrywise.ControlPlane

open Retrywise.Foundation Retrywise.Domain

/-! ## The terms of a claim -/

/-- Clean text is text to the database. -/
theorem hasText_of_isCleanText {maximum : Nat} {value : String}
    (h : isCleanText maximum value = true) : hasText (some value) = true := by
  simp only [isCleanText, Bool.and_eq_true, decide_eq_true_eq] at h
  obtain ⟨⟨⟨⟨hsome, hhead⟩, -⟩, -⟩, -⟩ := h
  obtain ⟨c, rest, hchars⟩ := List.exists_cons_of_ne_nil hsome
  have hspace : c ≠ ' ' := by
    intro heq
    simp [hchars, heq, isSpace] at hhead
  simp [hasText, hchars, hspace]

theorem ClaimedOutboxCommand.hasText_workerId (claim : ClaimedOutboxCommand) :
    hasText (some claim.workerId) = true := by
  have hvalid := claim.valid
  simp only [ClaimFields.postInit, bind_ok_iff] at hvalid
  obtain ⟨_, -, _, -, _, -, _, -, _, -, _, -, _, hworker, -⟩ := hvalid
  exact hasText_of_isCleanText (by simpa [requireCleanText] using hworker)

section

variable [Hashlib]

/-! ## The record -/

/-- What is behind a delivery at this stage. -/
def StageOnRecord (system : CreateSystem) : Stage → Prop
  | .cleared effect context now =>
    effect.allowed = true ∧ context.evaluatedAt = now ∧
      system.command.proposal.actionType = .createStandardPaymentLink ∧
      system.gate.evaluateEffect system.command.proposal context (some system.command.priorPlan) =
        .ok effect
  | .finished result => result.Told
  | _ => True

/-- `terms` are those the path was queued with. -/
structure OnRecord (system : CreateSystem) (terms : PathTerms) (job : CreateJob) : Prop where
  journaled : job.path.Journaled
  terms : job.path.terms = terms
  stages : ∀ version claim outboxJob stage,
    job.delivery version = some ⟨claim, .working outboxJob stage⟩ → StageOnRecord system stage
  read : ∀ version claim outboxJob effect context now, job.row.Current version →
    job.delivery version = some ⟨claim, .working outboxJob (.cleared effect context now)⟩ →
      job.path.ReadInto context

/-- A job as it is put into the outbox: its row is new, and its path the one that was
queued for the command. -/
structure CreateSystem.Planned (system : CreateSystem) (job : CreateJob) : Prop where
  fresh : job.Fresh
  queued : job.path.AsQueued
  reference : job.path.instrument.referenceId = system.command.request.referenceId

variable {system : CreateSystem} {terms : PathTerms} {past : List CreateStep} {s : CreateStep}

theorem onRecord_planned {job : CreateJob} (h : system.Planned job) :
    OnRecord system job.path.terms job where
  journaled := h.queued.journaled
  terms := rfl
  stages := by
    intro version _ _ _ hd
    exact absurd (hd.symm.trans (h.fresh.undelivered version)) (by simp)
  read := by
    intro version _ _ _ _ _ _ hd
    exact absurd (hd.symm.trans (h.fresh.undelivered version)) (by simp)

/-- The decision of a cleared delivery is of its context, at its time. -/
theorem StageOnRecord.issued {effect : GateDecision} {context : GateContext} {now : Timestamp}
    (h : StageOnRecord system (.cleared effect context now)) :
    effect.aggregateVersion = context.aggregateVersion ∧ effect.evaluatedAt = now := by
  obtain ⟨-, hnow, -, heffect⟩ := h
  obtain ⟨_, -, hissued, -⟩ := DeterministicGate.evaluate_ok_iff.mp heffect
  exact ⟨hissued.aggregateVersion, hissued.evaluatedAt.trans hnow⟩

/-! ## It is kept -/

/-- A step of one delivery that leaves the row and the path as they were. -/
theorem onRecord_quiet {version : Nat} {d : Delivery} (h : OnRecord system terms s.pre)
    (hrow : s.post.row = s.pre.row) (hpath : s.post.path = s.pre.path)
    (hdelivery : s.post.delivery = CreateSystem.setDelivery s.pre.delivery version d)
    (hstage : ∀ job stage, d.phase = .working job stage → StageOnRecord system stage)
    (hread : ∀ job effect context now, d.phase = .working job (.cleared effect context now) →
      s.pre.path.ReadInto context) :
    OnRecord system terms s.post where
  journaled := hpath ▸ h.journaled
  terms := hpath ▸ h.terms
  stages := by
    intro w claim job stage hw
    rcases delivery_cases hdelivery hw with ⟨-, hnew⟩ | ⟨-, hold⟩
    · exact hstage job stage (congrArg Delivery.phase hnew).symm
    · exact h.stages w claim job stage hold
  read := by
    intro w claim job effect context now hcurrent hw
    rw [hpath]
    rw [hrow] at hcurrent
    rcases delivery_cases hdelivery hw with ⟨-, hnew⟩ | ⟨-, hold⟩
    · exact hread job effect context now (congrArg Delivery.phase hnew).symm
    · exact h.read w claim job effect context now hcurrent hold

/-- A write of the path by the delivery that holds the lease: no other delivery's
context is vouched for. -/
theorem onRecord_written {version : Nat} {d : Delivery} {changed : EffectPath}
    (h : OnRecord system terms s.pre) (hcurrent : s.pre.row.Current version)
    (hrow : s.post.row = s.pre.row) (hpath : s.post.path = changed)
    (hdelivery : s.post.delivery = CreateSystem.setDelivery s.pre.delivery version d)
    (hjournaled : changed.Journaled) (hterms : changed.terms = s.pre.path.terms)
    (hstage : ∀ job stage, d.phase = .working job stage → StageOnRecord system stage)
    (huncleared : ∀ job effect context now,
      d.phase ≠ .working job (.cleared effect context now)) :
    OnRecord system terms s.post where
  journaled := hpath ▸ hjournaled
  terms := by
    rw [hpath]
    exact hterms.trans h.terms
  stages := by
    intro w claim job stage hw
    rcases delivery_cases hdelivery hw with ⟨-, hnew⟩ | ⟨-, hold⟩
    · exact hstage job stage (congrArg Delivery.phase hnew).symm
    · exact h.stages w claim job stage hold
  read := by
    intro w claim job effect context now hheld hw
    rw [hrow] at hheld
    rcases delivery_cases hdelivery hw with ⟨-, hnew⟩ | ⟨hother, -⟩
    · exact absurd (congrArg Delivery.phase hnew).symm (huncleared job effect context now)
    · exact absurd (hheld.2.symm.trans hcurrent.2) hother

theorem onRecord_claimed (hkept : Kept system past s.pre) (h : OnRecord system terms s.pre)
    {claimTerms : ClaimTerms} {now expiresAt : Timestamp}
    (hdue : s.pre.row.claimable now = true)
    (hrow : s.post.row = s.pre.row.claimed claimTerms now expiresAt) (hpath : s.post.path = s.pre.path)
    (hdelivery : s.post.delivery = s.pre.delivery ∨ ∃ claim : ClaimedOutboxCommand,
      claim.retryMode = s.post.row.retryMode ∧
      claim.deliveryVersion = s.post.row.deliveryVersion ∧ s.post.row.status = .inProgress ∧
      s.post.delivery = CreateSystem.setDelivery s.pre.delivery s.post.row.deliveryVersion
        ⟨claim, opening system.command claim.toClaimFields⟩) :
    OnRecord system terms s.post := by
  obtain ⟨hversion, -, -⟩ := claimed_spec claimTerms expiresAt hdue
  rw [← hrow] at hversion
  -- what is at work after the claim was so before it, or is only just opened
  have hcases : ∀ w claim job stage, s.post.delivery w = some ⟨claim, .working job stage⟩ →
      s.pre.delivery w = some ⟨claim, .working job stage⟩ ∨ stage = .claimed := by
    intro w claim job stage hw
    rcases hdelivery with hsame | ⟨opened, -, -, -, hset⟩
    · exact .inl (hsame ▸ hw)
    · rcases delivery_cases hset hw with ⟨-, hnew⟩ | ⟨-, hold⟩
      · exact .inr (opening_working (congrArg Delivery.phase hnew).symm).1
      · exact .inl hold
  refine ⟨hpath ▸ h.journaled, hpath ▸ h.terms, ?_, ?_⟩
  · intro w claim job stage hw
    rcases hcases w claim job stage hw with hold | rfl
    · exact h.stages w claim job stage hold
    · exact trivial
  · intro w claim job effect context at_ hcurrent hw
    rcases hcases w claim job _ hw with hold | hopen
    · have hle := (hkept.versions w _ hold).1
      have hnow := hcurrent.2
      omega
    · exact absurd hopen (by simp)

theorem onRecord_settled {version : Nat} {now : Timestamp} {claim : ClaimedOutboxCommand}
    {result : HandlerResult} (h : OnRecord system terms s.pre)
    (hrow : s.post.row = system.settledRow s.pre.row claim.toClaimFields now result)
    (hpath : s.post.path = s.pre.path)
    (hdelivery : s.post.delivery =
      CreateSystem.setDelivery s.pre.delivery version ⟨claim, .closed⟩) :
    OnRecord system terms s.post := by
  have hcurrent : ∀ w, s.post.row.Current w → s.pre.row.Current w := by
    intro w hw
    rw [hrow, CreateSystem.settledRow] at hw
    split at hw
    next settled hok => exact absurd hw.1 (settle_ok hok).2.2.1
    next => exact hw
  refine ⟨hpath ▸ h.journaled, hpath ▸ h.terms, ?_, ?_⟩
  · intro w c job stage hw
    rcases delivery_cases hdelivery hw with ⟨-, hnew⟩ | ⟨-, hold⟩
    · exact absurd (congrArg Delivery.phase hnew) (by simp)
    · exact h.stages w c job stage hold
  · intro w c job effect context at_ hheld hw
    rw [hpath]
    rcases delivery_cases hdelivery hw with ⟨-, hnew⟩ | ⟨-, hold⟩
    · exact absurd (congrArg Delivery.phase hnew) (by simp)
    · exact h.read w c job effect context at_ (hcurrent w hheld) hold

variable {storesCaseText : Bool}

theorem onRecord_delivered (hserver : system.server = schemaServer storesCaseText)
    (hkept : Kept system past s.pre) (h : OnRecord system terms s.pre) {version : Nat}
    {step : DeliveryStep} {claim : ClaimedOutboxCommand} {job : OutboxJob} {stage : Stage}
    {progress : Progress} (hpre : s.pre.delivery version = some ⟨claim, .working job stage⟩)
    (hadvances : system.Advances s.pre.row s.pre.path claim.workerId job stage step progress)
    (hrow : s.post.row = s.pre.row) (hpath : s.post.path = progress.path)
    (hdelivery : s.post.delivery =
      CreateSystem.setDelivery s.pre.delivery version ⟨claim, progress.phase⟩) :
    OnRecord system terms s.post := by
  cases hadvances with
  | @decided reads decided hdecided =>
    refine onRecord_quiet h hrow hpath hdelivery ?_ ?_
    · intro j st hphase
      obtain ⟨-, rfl⟩ := Phase.working.inj hphase
      cases decided with
      | finished result => exact told_of_decideEffect hdecided
      | cleared effect context now =>
        obtain ⟨hnow, hallowed, -, ⟨fresh, -, hcontext⟩, heffect, hcreate⟩ :=
          decideEffect_cleared hdecided
        refine ⟨hallowed, ?_, hcreate, heffect⟩
        rw [hcontext]
        rfl
    · intro j effect context now hphase
      obtain ⟨-, hstage⟩ := Phase.working.inj hphase
      cases decided with
      | finished result => exact absurd hstage (by simp [Decided.stage])
      | cleared effect' context' now' =>
        obtain ⟨rfl, rfl, rfl⟩ := Stage.cleared.inj hstage
        obtain ⟨-, -, -, ⟨fresh, hfresh, hcontext⟩, -⟩ := decideEffect_cleared hdecided
        obtain ⟨⟨hversion, hstate, hswitch, henabled⟩, -⟩ :=
          freshGateContext_ok (loadFreshGateContext_ok_iff.mp hfresh)
        rw [hcontext]
        exact ⟨hversion, hstate, hswitch, henabled⟩
  | @recorded effect context now fencedAt writtenAt changed hrecorded =>
    obtain ⟨hfence, -, -, -, hterms, -⟩ := recordEffectAuthorization_ok hkept.staged hrecorded
    obtain ⟨hversion, -⟩ := (h.stages version claim job _ hpre).issued
    rw [hserver] at hrecorded
    refine onRecord_written h (hkept.jobVersion hpre ▸ current_of_lockFence hfence) hrow hpath
      hdelivery
      (journaled_of_recordEffectAuthorization h.journaled hversion hrecorded) hterms ?_ ?_
    · intro j st hphase
      obtain ⟨-, rfl⟩ := Phase.working.inj hphase
      exact trivial
    · intro j effect' context' now'
      simp
  | @begun effect now begun hbegun =>
    refine onRecord_quiet h hrow hpath hdelivery ?_ ?_
    · intro j st hphase
      obtain ⟨-, rfl⟩ := Phase.working.inj hphase
      cases begun with
      | refused result => exact told_of_beginEffect hbegun
      | create | reconcile => exact trivial
    · intro j effect' context' now' hphase
      cases begun <;> exact absurd (Phase.working.inj hphase).2 (by simp [Begun.stage])
  | @settled effect now create result hsettled =>
    refine onRecord_quiet h hrow hpath hdelivery ?_ (by simp)
    intro j st hphase
    obtain ⟨-, rfl⟩ := Phase.working.inj hphase
    exact told_of_settleCreate hsettled
  | @reconciled effect now found result hreconciled =>
    refine onRecord_quiet h hrow hpath hdelivery ?_ (by simp)
    intro j st hphase
    obtain ⟨-, rfl⟩ := Phase.working.inj hphase
    exact told_of_reconcile hreconciled
  | ambiguous =>
    refine onRecord_quiet h hrow hpath hdelivery ?_ (by simp)
    intro j st hphase
    obtain ⟨-, rfl⟩ := Phase.working.inj hphase
    exact trivial
  | @persisted result fencedAt writtenAt changed hpersisted =>
    obtain ⟨hcurrent, -, -, hterms⟩ := hkept.settled hpre hpersisted
    rw [hserver] at hpersisted
    refine onRecord_written h hcurrent hrow hpath hdelivery
      (journaled_of_persistResult h.journaled hpersisted) hterms ?_ ?_
    · intro j st hphase
      obtain ⟨-, rfl⟩ := Phase.working.inj hphase
      exact trivial
    · intro j effect context now
      simp
  | failed error =>
    exact onRecord_quiet h hrow hpath hdelivery (by simp) (by simp)
  | reported =>
    exact onRecord_quiet h hrow hpath hdelivery (by simp) (by simp)

/-- Every step keeps the record. -/
theorem onRecord_step (hserver : system.server = schemaServer storesCaseText)
    (hkept : Kept system past s.pre) (h : OnRecord system terms s.pre)
    (hstep : system.machine.Takes s) : OnRecord system terms s.post := by
  cases CreateSystem.takes_of_exec hstep with
  | claimed claimTerms now expiresAt cmd due row path quiet delivery =>
    exact onRecord_claimed hkept h due row path delivery
  | delivered version step claim job stage progress cmd pre advances row path asked delivery =>
    exact onRecord_delivered hserver hkept h pre advances row path delivery
  | settled version now claim result cmd pre row path quiet delivery =>
    exact onRecord_settled h row path delivery

/-- The invariant and the record, along every run of a planned job. -/
theorem record_of_run (hserver : system.server = schemaServer storesCaseText)
    {init final : CreateJob} {steps : List CreateStep} (hplanned : system.Planned init)
    (hrun : system.machine.Run init steps final) :
    Kept system steps final ∧ OnRecord system init.path.terms final :=
  Machine.Run.history (H := fun past job => Kept system past job ∧ OnRecord system _ job)
    (G := fun _ _ => True) ⟨kept_fresh hplanned.fresh, onRecord_planned hplanned⟩
    (fun _ _ _ h hstep _ => ⟨kept_step h.1 hstep, onRecord_step hserver h.1 h.2 hstep⟩) hrun
    (fun _ _ _ _ => trivial)

/-! ## What a cleared delivery can rely on -/

/-- Under its fence, a cleared delivery finds the path it was decided on. -/
structure Cleared (system : CreateSystem) (path : EffectPath) (effect : GateDecision)
    (context : GateContext) (now : Timestamp) : Prop where
  allowed : effect.allowed = true
  evaluatedAt : effect.evaluatedAt = now
  version : effect.aggregateVersion = path.recoveryCase.version
  bound : path.Bound system.command context
  opened : path.action.status ∈ [ActionStatus.queued, .executing, .uncertain, .reconciling]

theorem cleared_of_run (hserver : system.server = schemaServer storesCaseText)
    {init state : CreateJob} {steps : List CreateStep} (hplanned : system.Planned init)
    (hrun : system.machine.Run init steps state) {version : Nat} {claim : ClaimedOutboxCommand}
    {job : OutboxJob} {effect : GateDecision} {context : GateContext} {now fencedAt : Timestamp}
    (hd : state.delivery version = some ⟨claim, .working job (.cleared effect context now)⟩)
    (hfence : lockFence state.row state.path job system.command claim.workerId fencedAt = true) :
    Cleared system state.path effect context now := by
  obtain ⟨hkept, hrecord⟩ := record_of_run hserver hplanned hrun
  have hstage := hrecord.stages version claim job _ hd
  have hread := hrecord.read version claim job effect context now
    (hkept.jobVersion hd ▸ current_of_lockFence hfence) hd
  have hreference : state.path.instrument.referenceId = system.command.request.referenceId :=
    (congrArg PathTerms.referenceId hrecord.terms).trans hplanned.reference
  obtain ⟨hversion, hevaluated⟩ := hstage.issued
  obtain ⟨hallowed, -, hcreate, heffect⟩ := hstage
  have hcollection : system.command.proposal.actionType ∈ collectionActions := by
    rw [hcreate]
    decide
  obtain ⟨plan, _, hsafe⟩ :=
    DeterministicGate.effectSafe_of_allowed heffect hallowed hcollection
  obtain ⟨hmerchant, henvironment, henabled⟩ := hread.enabled hsafe.effectsEnabled
  have hstate := DeterministicGate.actionable_of_allowed heffect hallowed
  rw [hcreate, hread.state] at hstate
  have hstaged := hkept.staged
  -- from the states an effect may start in, the stage tells the status and the instrument
  have hplaces : state.path.instrument.providerPaymentLinkId = none ∧
      state.path.instrument.status ∈ [InstrumentStatus.creating, .uncertain] ∧
      state.path.action.status ∈ [ActionStatus.queued, .executing, .uncertain, .reconciling] := by
    rcases hstaged.status with hopen | hover
    · have hat := hopen
      simp only [List.mem_cons, List.not_mem_nil, or_false] at hat
      rcases hat with hat | hat | hat | hat <;> simp only [EffectPath.Staged, hat] at hstaged <;>
        exact ⟨hstaged.2.2, by simp [hstaged], hopen⟩
    · exfalso
      simp only [completedStatuses, List.mem_cons, List.not_mem_nil, or_false] at hover
      rcases hover with hat | hat | hat | hat | hat <;>
        simp only [EffectPath.Staged, hat] at hstaged <;> exact hstaged.1 hstate
  have hkey : state.path.action.actionKey = system.command.proposal.actionKey := by
    simp only [lockFence, Bool.and_eq_true, decide_eq_true_eq] at hfence
    exact hfence.2
  exact {
    allowed := hallowed
    evaluatedAt := hevaluated
    version := hversion.trans hread.version
    bound := ⟨hkey, hrecord.journaled.referenced.trans (congrArg some hreference), hreference,
      hplaces.1, hrecord.journaled.unpaid, hmerchant, hread.merchantSwitch ▸ hsafe.merchantSwitch,
      henvironment, henabled, hread.version.symm, hplaces.2.1⟩
    opened := hplaces.2.2 }

end

end Retrywise.ControlPlane
