import Retrywise.ControlPlane.LinkRuns

/-!
# No blind duplicate

What a create request rests on, in any run of deliveries of one job:

> `no_blind_duplicate_create`: every create asked for earlier has been ruled out
> since, by a definite failure of that request or a completed lookup that found
> nothing; and the delivery that asks has read a durable intent of the command,
> been allowed by the gate, and then held its lease as the effect was authorized.

The first half is read off the invariant of `DeliveryInvariants`; the second is an
invariant of its own, about what a delivery has behind it (`Evidenced`).
-/

namespace Retrywise.ControlPlane

open Retrywise.Foundation Retrywise.Domain

/-- The provider is asked to create. -/
def CreateRequest (t : CreateStep) : Prop := ∃ request account, t.out = some (.create request account)

section

variable [Hashlib]

/-! ## What a delivery has behind it -/

/-- In this step the delivery has read an intent that matches the command, and the gate
has allowed the effect in the context it has read. -/
def DecidesAllowed (system : CreateSystem) (version : Nat) (t : CreateStep) : Prop :=
  ∃ reads intent fresh effect,
    t.cmd = .deliver version (.read reads) ∧ reads.intent = .ok (some intent) ∧
    intent.matchesCommand system.command.toCommandFields = true ∧
    (reads.effectReads system.command t.pre.path).context = .ok fresh ∧
    system.gate.evaluateEffect system.command.proposal
      (refreshContext fresh reads.decidedAt true) (some system.command.priorPlan) = .ok effect ∧
    effect.allowed = true

/-- In this step the delivery has its authorization recorded, and held its lease. -/
def RecordsFenced (system : CreateSystem) (version : Nat) (t : CreateStep) : Prop :=
  ∃ fencedAt writtenAt claim job effect context now,
    t.cmd = .deliver version (.authorize fencedAt writtenAt) ∧
    t.pre.delivery version = some ⟨claim, .working job (.cleared effect context now)⟩ ∧
    lockFence t.pre.row t.pre.path job system.command claim.workerId fencedAt = true ∧
    recordEffectAuthorization system.server true writtenAt t.pre.path job system.command effect
      context claim.workerId (job.retryMode = .reconcileOnly) = .ok t.post.path

/-- The decision, and behind it the record of it. -/
def DecidedAndRecorded (system : CreateSystem) (version : Nat) (past : List CreateStep) : Prop :=
  ∃ before r rest, past = before ++ r :: rest ∧ DecidesAllowed system version r ∧
    ∃ t ∈ rest, RecordsFenced system version t

/-- What the past holds of a delivery at this stage. -/
def StageEvidenced (system : CreateSystem) (version : Nat) (past : List CreateStep) :
    Stage → Prop
  | .cleared _ _ _ => ∃ t ∈ past, DecidesAllowed system version t
  | .authorized _ _ => DecidedAndRecorded system version past
  | _ => True

def Evidenced (system : CreateSystem) (past : List CreateStep) (job : CreateJob) : Prop :=
  ∀ version claim outboxJob stage,
    job.delivery version = some ⟨claim, .working outboxJob stage⟩ →
      StageEvidenced system version past stage

variable {system : CreateSystem} {past : List CreateStep} {s : CreateStep}

theorem decidedAndRecorded_concat {version : Nat} (h : DecidedAndRecorded system version past) :
    DecidedAndRecorded system version (past ++ [s]) := by
  obtain ⟨before, r, rest, hpast, hdecides, t, ht, hrecords⟩ := h
  refine ⟨before, r, rest ++ [s], ?_, hdecides, t, List.mem_append_left _ ht, hrecords⟩
  rw [hpast, List.append_assoc, List.cons_append]

/-- What the past held of a stage, it still holds. -/
theorem stageEvidenced_concat {version : Nat} {stage : Stage}
    (h : StageEvidenced system version past stage) :
    StageEvidenced system version (past ++ [s]) stage := by
  cases stage with
  | cleared effect context now =>
    obtain ⟨t, ht, hdecides⟩ := h
    exact ⟨t, List.mem_append_left _ ht, hdecides⟩
  | authorized effect now => exact decidedAndRecorded_concat h
  | claimed | sent | lookingUp | finished | persisted => exact trivial

/-- A step to a stage that asks for no evidence. -/
theorem evidenced_quiet {version : Nat} {d : Delivery} (h : Evidenced system past s.pre)
    (hdelivery : s.post.delivery = CreateSystem.setDelivery s.pre.delivery version d)
    (hcleared : ∀ job effect context now, d.phase ≠ .working job (.cleared effect context now))
    (hauthorized : ∀ job effect now, d.phase ≠ .working job (.authorized effect now)) :
    Evidenced system (past ++ [s]) s.post := by
  intro w c j stage hw
  rcases delivery_cases hdelivery hw with ⟨-, hnew⟩ | ⟨-, hold⟩
  · rw [← hnew] at hcleared hauthorized
    cases stage with
    | cleared effect context now => exact absurd rfl (hcleared j effect context now)
    | authorized effect now => exact absurd rfl (hauthorized j effect now)
    | claimed | sent | lookingUp | finished | persisted => exact trivial
  · exact stageEvidenced_concat (h w c j stage hold)

/-- A claim opens its delivery before any evidence is asked for. -/
theorem evidenced_claimed (h : Evidenced system past s.pre)
    (hdelivery : s.post.delivery = s.pre.delivery ∨ ∃ claim : ClaimedOutboxCommand,
      claim.retryMode = s.post.row.retryMode ∧
      claim.deliveryVersion = s.post.row.deliveryVersion ∧ s.post.row.status = .inProgress ∧
      s.post.delivery = CreateSystem.setDelivery s.pre.delivery s.post.row.deliveryVersion
        ⟨claim, opening system.command claim.toClaimFields⟩) :
    Evidenced system (past ++ [s]) s.post := by
  rcases hdelivery with hsame | ⟨claim, -, -, -, hset⟩
  · intro w c j stage hw
    rw [hsame] at hw
    exact stageEvidenced_concat (h w c j stage hw)
  · refine evidenced_quiet h hset ?_ ?_
    · intro j effect context now hopen
      exact absurd (opening_working hopen).1 (by simp)
    · intro j effect now hopen
      exact absurd (opening_working hopen).1 (by simp)

/-- The two steps that leave evidence behind, and all the others. -/
theorem evidenced_delivered {version : Nat} {step : DeliveryStep} {claim : ClaimedOutboxCommand}
    {job : OutboxJob} {stage : Stage} {progress : Progress} (h : Evidenced system past s.pre)
    (hcmd : s.cmd = .deliver version step)
    (hpre : s.pre.delivery version = some ⟨claim, .working job stage⟩)
    (hadvances : system.Advances s.pre.row s.pre.path claim.workerId job stage step progress)
    (hpath : s.post.path = progress.path)
    (hdelivery : s.post.delivery =
      CreateSystem.setDelivery s.pre.delivery version ⟨claim, progress.phase⟩) :
    Evidenced system (past ++ [s]) s.post := by
  cases hadvances with
  | @decided reads decided hdecided =>
    cases decided with
    | finished result =>
      exact evidenced_quiet h hdelivery (by simp [Decided.stage]) (by simp [Decided.stage])
    | cleared effect context now =>
      obtain ⟨hnow, hallowed, ⟨intent, hintent, hmatch⟩, ⟨fresh, hfresh, hcontext⟩, heffect, -⟩ :=
        decideEffect_cleared hdecided
      intro w c j stage hw
      rcases delivery_cases hdelivery hw with ⟨rfl, hnew⟩ | ⟨-, hold⟩
      · obtain ⟨-, hphase⟩ := Delivery.mk.inj hnew
        rw [(Phase.working.inj hphase).2]
        rw [hcontext, hnow] at heffect
        exact ⟨s, by simp, reads, intent, fresh, effect, hcmd, hintent, hmatch, hfresh, heffect,
          hallowed⟩
      · exact stageEvidenced_concat (h w c j stage hold)
  | @recorded effect context now fencedAt writtenAt changed hrecorded =>
    intro w c j stage hw
    rcases delivery_cases hdelivery hw with ⟨rfl, hnew⟩ | ⟨-, hold⟩
    · obtain ⟨-, hphase⟩ := Delivery.mk.inj hnew
      rw [(Phase.working.inj hphase).2]
      have hfence : lockFence s.pre.row s.pre.path job system.command claim.workerId fencedAt =
          true := by
        obtain ⟨_, -, hmore⟩ := bind_ok_iff.mp hrecorded
        obtain ⟨_, hheld, -⟩ := bind_ok_iff.mp hmore
        simpa using hheld
      have hcommitted : changed = s.post.path := hpath.symm
      rw [hfence, hcommitted] at hrecorded
      obtain ⟨r, hr, hdecides⟩ := h w claim job _ hpre
      obtain ⟨before, rest, hsplit⟩ := List.append_of_mem hr
      refine ⟨before, r, rest ++ [s], ?_, hdecides, s, by simp, fencedAt, writtenAt, claim, job,
        effect, context, now, hcmd, hpre, hfence, hrecorded⟩
      rw [hsplit, List.append_assoc, List.cons_append]
    · exact stageEvidenced_concat (h w c j stage hold)
  | @begun effect now begun hbegun =>
    cases begun <;>
      exact evidenced_quiet h hdelivery (by simp [Begun.stage]) (by simp [Begun.stage])
  | failed | settled | ambiguous | reconciled | persisted | reported =>
    exact evidenced_quiet h hdelivery (by simp) (by simp)

theorem evidenced_step (h : Evidenced system past s.pre) (hstep : system.machine.Takes s) :
    Evidenced system (past ++ [s]) s.post := by
  cases CreateSystem.takes_of_exec hstep with
  | claimed terms now expiresAt cmd due row path quiet delivery =>
    exact evidenced_claimed h delivery
  | delivered version step claim job stage progress cmd pre advances row path asked delivery =>
    exact evidenced_delivered h cmd pre advances path delivery
  | settled version now claim result cmd pre row path quiet delivery =>
    exact evidenced_quiet h delivery (by simp) (by simp)

/-! ## The law -/

/-- A create is asked for by an armed delivery, and by no other step. -/
theorem armed_of_createRequest (hstep : system.machine.Takes s) (hasks : CreateRequest s) :
    ∃ version, s.cmd = .deliver version .send ∧ s.pre.Armed version := by
  obtain ⟨request, account, hout⟩ := hasks
  cases CreateSystem.takes_of_exec hstep with
  | claimed terms now expiresAt cmd due row path quiet delivery =>
    exact absurd (quiet.symm.trans hout) (by simp)
  | settled version now claim result cmd pre row path quiet delivery =>
    exact absurd (quiet.symm.trans hout) (by simp)
  | delivered version step claim job stage progress cmd pre advances row path asked delivery =>
    have hasked := asked.symm.trans hout
    cases advances with
    | @begun effect now begun hbegun =>
      cases begun with
      | create =>
        exact ⟨version, cmd, claim, job, effect, now, pre, (beginEffect_create_iff.mp hbegun).1⟩
      | reconcile => exact absurd (Option.some.inj hasked) (by simp [CreateSystem.lookupCall])
      | refused result => exact absurd hasked (by simp [CreateSystem.asked])
    | ambiguous => exact absurd (Option.some.inj hasked) (by simp [CreateSystem.lookupCall])
    | failed | decided | recorded | settled | reconciled | persisted | reported =>
      exact absurd hasked (by simp)

/-- What a create request rests on, given the steps before it. -/
def RestsOnEvidence (system : CreateSystem) (past : List CreateStep) (s : CreateStep) : Prop :=
  CreateRequest s →
    (∀ before prev since, past = before ++ prev :: since → CreateRequest prev →
      ∃ version step, prev.cmd = .deliver version step ∧ ∃ t ∈ since, RulesOut version t) ∧
    ∃ version step, s.cmd = .deliver version step ∧ DecidedAndRecorded system version past

/-- **No blind duplicate create.** In every run of any number of deliveries of one job,
at every create request: each one before it has been ruled out since, and its own
delivery has been decided on a durable intent, allowed, and recorded under a lease it
held. -/
theorem no_blind_duplicate_create {init final : CreateJob} {steps : List CreateStep}
    (hfresh : init.Fresh) (hrun : system.machine.Run init steps final) :
    Along (RestsOnEvidence system) steps := by
  refine Machine.Run.along (G := fun _ _ => True)
    (H := fun past job => Kept system past job ∧ Evidenced system past job)
    ⟨kept_fresh hfresh, ?_⟩ ?_ ?_ hrun (fun _ _ _ _ => trivial)
  · intro version _ _ _ hd
    exact absurd (hd.symm.trans (hfresh.undelivered version)) (by simp)
  · intro past s _ h hstep _
    exact ⟨kept_step h.1 hstep, evidenced_step h.2 hstep⟩
  · intro past s hpast h hstep _ hasks
    obtain ⟨version, hcmd, harmed⟩ := armed_of_createRequest hstep hasks
    obtain ⟨hall, -, -⟩ := h.1.armed version harmed
    obtain ⟨claim, job, effect, now, hd, -⟩ := harmed
    refine ⟨?_, version, .send, hcmd, h.2 version claim job _ hd⟩
    intro before prev since hsplit hprev
    obtain ⟨-, hprevStep, -⟩ := hpast.cut before prev since hsplit
    obtain ⟨w, hprevCmd, -⟩ := armed_of_createRequest hprevStep hprev
    refine ⟨w, .send, hprevCmd, ?_⟩
    exact not_outstanding_iff.mp (hall w) before prev since hsplit ⟨⟨_, hprevCmd⟩, hprev⟩

end

/-- There are runs that ask for a create. -/
theorem no_blind_duplicate_create_sent :
    ∃ (system : CreateSystem) (init final : CreateJob) (steps : List CreateStep),
      system.machine.Run init steps final ∧ (∃ s ∈ steps, CreateRequest s) ∧
        Along (RestsOnEvidence system) steps := by
  let o : LinkOffer := ⟨⟨12500, "INR", rfl⟩, "upi", by decide, rfl⟩
  obtain ⟨steps, state, effect, hat, -, s, hs, hout⟩ := LinkDelivery.exists_sent o
  exact ⟨LinkDelivery.system o, LinkDelivery.job o, state, steps, hat.run,
    ⟨s, hs, _, _, hout⟩,
    no_blind_duplicate_create (LinkDelivery.planned_job o).fresh hat.run⟩

end Retrywise.ControlPlane
