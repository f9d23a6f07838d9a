import Retrywise.ControlPlane.Deliveries
import Retrywise.ControlPlane.PathLifecycle

/-!
# What holds between the deliveries of one create

> `Kept`: a delivery that is about to create holds an action that is executing or
> over, no second one is, and every create asked for before it has been settled;
> and wherever the row, or the delivery that holds it, may lead to another create,
> everything asked for so far has been settled and the action is queued, or held by
> that very delivery.

The status of the action is what keeps two deliveries apart: the one that holds
the lease moves it, the others fail their fence. So a delivery whose lease has run
out between its authorization and its call leaves the action executing, and no
delivery after it is authorized to create as long as it is.

Each kind of step keeps the invariant (`kept_claimed`, `kept_delivered`,
`kept_settled`), and `kept_of_run` is the induction.
-/

namespace Retrywise.ControlPlane

open Retrywise.Foundation Retrywise.Domain

abbrev CreateStep := Step CreateJob CreateCommand (Option ProviderCall)

/-! ## Creates that are asked for, and what settles them -/

/-- The delivery of this version asks the provider to create. -/
def RequestsCreate (version : Nat) (t : CreateStep) : Prop :=
  (∃ step, t.cmd = .deliver version step) ∧ ∃ request account, t.out = some (.create request account)

/-- The create of this version is known not to have happened: its provider said so for
certain, or a completed lookup, of any delivery, has found nothing. -/
def RulesOut (version : Nat) (t : CreateStep) : Prop :=
  (∃ create, t.cmd = .deliver version (.answer (.ok create)) ∧ create.status = .certainFailure) ∨
    ∃ w found, t.cmd = .deliver w (.lookup (.ok found)) ∧ found.completed = true ∧
      found.candidates = []

/-- Every create asked for is ruled out, but for the one of this version. -/
def SettledBut (version : Nat) (past : List CreateStep) : Prop :=
  ∀ w, w ≠ version → ¬Outstanding (RequestsCreate w) (RulesOut w) past

/-- Every create asked for is ruled out. -/
def AllSettled (past : List CreateStep) : Prop :=
  ∀ w, ¬Outstanding (RequestsCreate w) (RulesOut w) past

section

variable {past : List CreateStep} {t : CreateStep} {version : Nat}

theorem allSettled_concat (h : AllSettled past) (hquiet : ∀ w, ¬RequestsCreate w t) :
    AllSettled (past ++ [t]) := by
  intro w hopen
  rcases outstanding_concat.mp hopen with hasks | ⟨hpast, -⟩
  · exact hquiet w hasks
  · exact h w hpast

theorem settledBut_concat (h : SettledBut version past)
    (hquiet : ∀ w, w ≠ version → ¬RequestsCreate w t) : SettledBut version (past ++ [t]) := by
  intro w hw hopen
  rcases outstanding_concat.mp hopen with hasks | ⟨hpast, -⟩
  · exact hquiet w hw hasks
  · exact h w hw hpast

/-- A create that is ruled out was the last one open. -/
theorem allSettled_of_rulesOut (h : SettledBut version past) (hrules : RulesOut version t)
    (hquiet : ∀ w, ¬RequestsCreate w t) : AllSettled (past ++ [t]) := by
  intro w hopen
  rcases outstanding_concat.mp hopen with hasks | ⟨hpast, hkeeps⟩
  · exact hquiet w hasks
  · by_cases hw : w = version
    · rw [hw] at hkeeps
      exact hkeeps hrules
    · exact h w hw hpast

/-- A completed lookup that finds nothing rules out all of them. -/
theorem allSettled_of_lookup {w : Nat} {found : PaymentLinkLookupResult}
    (hcmd : t.cmd = .deliver w (.lookup (.ok found))) (hdone : found.completed = true)
    (hnone : found.candidates = []) (hquiet : ∀ w, ¬RequestsCreate w t) :
    AllSettled (past ++ [t]) := by
  intro u hopen
  rcases outstanding_concat.mp hopen with hasks | ⟨-, hkeeps⟩
  · exact hquiet u hasks
  · exact hkeeps (.inr ⟨w, found, hcmd, hdone, hnone⟩)

end

/-! ## The invariant -/

/-- The status of an action that a delivery of this mode is at work on. -/
def RetryMode.workStatus : RetryMode → ActionStatus
  | .reconcileOnly => .reconciling
  | .normal | .retrySameEffect => .executing

/-- The delivery has its authorization to create, and has not asked yet. -/
def CreateJob.Armed (job : CreateJob) (version : Nat) : Prop :=
  ∃ claim outboxJob effect now,
    job.delivery version = some ⟨claim, .working outboxJob (.authorized effect now)⟩ ∧
      outboxJob.retryMode ≠ .reconcileOnly

/-- The dispositions only a recorded authorization leads to. -/
def authorizedDispositions : List ExecutionDisposition :=
  [.created, .adopted, .requeued, .requeryRequired, .deadLetter]

section

variable (past : List CreateStep) (status : ActionStatus) (disarmed : Prop) (version : Nat)

/-- What holds of the delivery that holds the lease, at each of its stages. -/
def StageHolds (job : OutboxJob) : Stage → Prop
  | .claimed | .cleared _ _ _ =>
    job.retryMode ≠ .reconcileOnly → AllSettled past ∧ status = .queued
  | .authorized _ _ => status = job.retryMode.workStatus
  | .sent _ _ => SettledBut version past ∧ status = job.retryMode.workStatus ∧ disarmed
  | .lookingUp _ _ => status = job.retryMode.workStatus ∧ disarmed
  | .finished result =>
    result.LinkGiven ∧
      (result.disposition ∈ authorizedDispositions → status = job.retryMode.workStatus) ∧
      (result.disposition = .requeued → AllSettled past) ∧
      (result.disposition = .requeryRequired → result.job.retryMode = .reconcileOnly) ∧
      (result.disposition ∈ [ExecutionDisposition.requeued, .requeryRequired] → disarmed)
  | .persisted result =>
    (result.disposition = .requeued → AllSettled past ∧ status = .queued) ∧
      (result.disposition = .requeryRequired → result.job.retryMode = .reconcileOnly)

def PhaseHolds : Phase → Prop
  | .working job stage => StageHolds past status disarmed version job stage
  | .settling (.retry _ mode) => mode ≠ .reconcileOnly → AllSettled past ∧ status = .queued
  | .settling _ | .closed => True

end

structure Kept [Hashlib] (system : CreateSystem) (past : List CreateStep) (job : CreateJob) :
    Prop where
  staged : job.path.Staged
  versions : ∀ version d, job.delivery version = some d →
    version ≤ job.row.deliveryVersion ∧ d.claim.deliveryVersion = version
  jobs : ∀ version claim outboxJob stage,
    job.delivery version = some ⟨claim, .working outboxJob stage⟩ →
      outboxJob.toJobFields = jobFromClaim claim.toClaimFields system.command
  armed : ∀ version, job.Armed version →
    AllSettled past ∧ job.path.action.status ∈ ActionStatus.executing :: completedStatuses ∧
      ∀ w, job.Armed w → w = version
  current : ∀ version d, job.row.Current version → job.delivery version = some d →
    PhaseHolds past job.path.action.status (∀ w, ¬job.Armed w) version d.phase
  offering : job.row.Offering → AllSettled past ∧ job.path.action.status = .queued

/-! ## The delivery that holds the lease, while others move -/

section

variable {past past' : List CreateStep} {status : ActionStatus} {disarmed disarmed' : Prop}
  {version : Nat} {phase : Phase}

/-- Nothing was asked for: what held goes on holding. -/
theorem phaseHolds_mono (h : PhaseHolds past status disarmed version phase)
    (hall : AllSettled past → AllSettled past')
    (hbut : SettledBut version past → SettledBut version past') (hdisarmed : disarmed → disarmed') :
    PhaseHolds past' status disarmed' version phase := by
  cases phase with
  | working job stage =>
    cases stage with
    | claimed => exact fun hmode => ⟨hall (h hmode).1, (h hmode).2⟩
    | cleared effect context now => exact fun hmode => ⟨hall (h hmode).1, (h hmode).2⟩
    | authorized effect now => exact h
    | sent effect now => exact ⟨hbut h.1, h.2.1, hdisarmed h.2.2⟩
    | lookingUp effect now => exact ⟨h.1, hdisarmed h.2⟩
    | finished result =>
      obtain ⟨hlink, hwork, hrequeued, hrequery, hquiet⟩ := h
      exact ⟨hlink, hwork, fun hd => hall (hrequeued hd), hrequery, fun hd => hdisarmed (hquiet hd)⟩
    | persisted result =>
      exact ⟨fun hd => ⟨hall (h.1 hd).1, (h.1 hd).2⟩, h.2⟩
  | settling result =>
    cases result with
    | succeeded reference => exact trivial
    | retry reason mode => exact fun hmode => ⟨hall (h hmode).1, (h hmode).2⟩
    | deadLetter reason => exact trivial
  | closed => exact trivial

/-- While another delivery is armed, the one with the lease leads to no create, and
what held of it holds whatever is asked for. -/
theorem phaseHolds_of_armed (h : PhaseHolds past status disarmed version phase)
    (hstatus : status ≠ .queued) (harmed : ¬disarmed) :
    PhaseHolds past' status disarmed' version phase := by
  cases phase with
  | working job stage =>
    cases stage with
    | claimed => exact fun hmode => absurd (h hmode).2 hstatus
    | cleared effect context now => exact fun hmode => absurd (h hmode).2 hstatus
    | authorized effect now => exact h
    | sent effect now => exact absurd h.2.2 harmed
    | lookingUp effect now => exact absurd h.2 harmed
    | finished result =>
      obtain ⟨hlink, hwork, hrequeued, hrequery, hquiet⟩ := h
      exact ⟨hlink, hwork, fun hd => absurd (hquiet (by simp [hd])) harmed, hrequery,
        fun hd => absurd (hquiet hd) harmed⟩
    | persisted result => exact ⟨fun hd => absurd (h.1 hd).2 hstatus, h.2⟩
  | settling result =>
    cases result with
    | succeeded reference => exact trivial
    | retry reason mode => exact fun hmode => absurd (h hmode).2 hstatus
    | deadLetter reason => exact trivial
  | closed => exact trivial

theorem phaseHolds_handlerFailure {error : ControlPlaneError} :
    PhaseHolds past status disarmed version (.settling (handlerFailure error)) := by
  cases error <;> exact fun hmode => absurd rfl hmode

end

/-! ## The deliveries after a step -/

theorem setDelivery_self {delivery : Nat → Option Delivery} {version : Nat} {d : Delivery} :
    CreateSystem.setDelivery delivery version d version = some d := if_pos rfl

theorem setDelivery_other {delivery : Nat → Option Delivery} {version w : Nat} {d : Delivery}
    (h : w ≠ version) : CreateSystem.setDelivery delivery version d w = delivery w := if_neg h

/-- A delivery that is put down unarmed arms nobody. -/
theorem armed_of_setDelivery {pre post : CreateJob} {version w : Nat} {d : Delivery}
    (hdelivery : post.delivery = CreateSystem.setDelivery pre.delivery version d)
    (hunarmed : ∀ job effect now, d.phase ≠ .working job (.authorized effect now))
    (harmed : post.Armed w) : w ≠ version ∧ pre.Armed w := by
  obtain ⟨claim, job, effect, now, hw, hmode⟩ := harmed
  rw [hdelivery] at hw
  by_cases hv : w = version
  · rw [hv, setDelivery_self] at hw
    rw [Option.some.inj hw] at hunarmed
    exact absurd rfl (hunarmed job effect now)
  · rw [setDelivery_other hv] at hw
    exact ⟨hv, claim, job, effect, now, hw, hmode⟩

/-- What is at a version after a step of one delivery. -/
theorem delivery_cases {pre post : CreateJob} {version w : Nat} {d d' : Delivery}
    (hdelivery : post.delivery = CreateSystem.setDelivery pre.delivery version d)
    (hw : post.delivery w = some d') :
    (w = version ∧ d' = d) ∨ (w ≠ version ∧ pre.delivery w = some d') := by
  rw [hdelivery] at hw
  by_cases hv : w = version
  · rw [hv, setDelivery_self] at hw
    exact .inl ⟨hv, (Option.some.inj hw).symm⟩
  · rw [setDelivery_other hv] at hw
    exact .inr ⟨hv, hw⟩

/-- A delivery whose fence holds is the one that holds the lease. -/
theorem current_of_lockFence [Hashlib] {row : OutboxRow} {path : EffectPath} {job : OutboxJob}
    {command : CreatePaymentLinkCommand} {workerId : String} {now : Timestamp}
    (h : lockFence row path job command workerId now = true) : row.Current job.version := by
  simp only [lockFence, Bool.and_eq_true] at h
  obtain ⟨⟨⟨⟨hheld, -⟩, -⟩, -⟩, -⟩ := h
  exact current_of_heldBy hheld

/-- A handler asks for another create only after a result that calls for one. -/
theorem handlerResult_retry [Hashlib] {result : ExecutionResult} {reason : String}
    {mode : RetryMode} (h : result.handlerResult = .retry reason mode)
    (hmode : mode ≠ .reconcileOnly) :
    result.job.retryMode = mode ∧
      (result.disposition = .requeued ∨ result.disposition = .requeryRequired) := by
  unfold ExecutionResult.handlerResult HandlerResult.orHandlerException at h
  split at h
  next =>
    split at h
    next => split at h <;> exact absurd h (by simp)
    next => split at h <;> exact absurd h (by simp)
    next => split at h <;> exact absurd h (by simp)
    next hd => exact ⟨(HandlerResult.retry.inj h).2, .inl hd⟩
    next hd => exact ⟨(HandlerResult.retry.inj h).2, .inr hd⟩
    next => exact absurd h (by simp)
    next => exact absurd h (by simp)
  next => exact absurd (HandlerResult.retry.inj h).2.symm hmode

/-! ## What the handler's opening holds -/

section

variable [Hashlib] {system : CreateSystem} {past : List CreateStep}

/-- A delivery opens at work on the job of its claim, or with nothing to be retried. -/
theorem phaseHolds_opening {claim : ClaimFields} {status : ActionStatus} {disarmed : Prop}
    {version : Nat}
    (h : claim.retryMode ≠ .reconcileOnly → AllSettled past ∧ status = .queued) :
    PhaseHolds past status disarmed version (opening system.command claim) := by
  unfold opening
  by_cases hhandles : handles system.command claim = true
  · rw [if_pos hhandles]
    split
    next e hbuild => exact phaseHolds_handlerFailure
    next job hbuild =>
      have hmode : job.retryMode = claim.retryMode := by
        rw [JobFields.build_ok_iff.mp hbuild]
        rfl
      intro hcreates
      exact h (hmode ▸ hcreates)
  · rw [if_neg hhandles]
    exact trivial

theorem opening_working {claim : ClaimFields} {job : OutboxJob} {stage : Stage}
    (h : opening system.command claim = .working job stage) :
    stage = .claimed ∧ job.toJobFields = jobFromClaim claim system.command := by
  unfold opening at h
  by_cases hhandles : handles system.command claim = true
  · rw [if_pos hhandles] at h
    split at h
    next => exact absurd h (by simp)
    next built hbuild =>
      obtain ⟨rfl, rfl⟩ := Phase.working.inj h
      exact ⟨rfl, JobFields.build_ok_iff.mp hbuild⟩
  · rw [if_neg hhandles] at h
    exact absurd h (by simp)

/-! ## A claim -/

theorem kept_claimed {s : CreateStep} (h : Kept system past s.pre) {terms : ClaimTerms}
    {now expiresAt : Timestamp} (hcmd : s.cmd = .claim terms now)
    (hdue : s.pre.row.claimable now = true)
    (hrow : s.post.row = s.pre.row.claimed terms now expiresAt) (hpath : s.post.path = s.pre.path)
    (hdelivery : s.post.delivery = s.pre.delivery ∨ ∃ claim : ClaimedOutboxCommand,
      claim.retryMode = s.post.row.retryMode ∧
      claim.deliveryVersion = s.post.row.deliveryVersion ∧ s.post.row.status = .inProgress ∧
      s.post.delivery = CreateSystem.setDelivery s.pre.delivery s.post.row.deliveryVersion
        ⟨claim, opening system.command claim.toClaimFields⟩) :
    Kept system (past ++ [s]) s.post := by
  obtain ⟨hversion, hstatus, hoffer⟩ := claimed_spec terms expiresAt hdue
  rw [← hrow] at hversion hstatus hoffer
  have hquiet : ∀ w, ¬RequestsCreate w s := by
    intro w hasks
    obtain ⟨⟨step, hstep⟩, -⟩ := hasks
    exact absurd (hcmd.symm.trans hstep) (by simp)
  -- the delivery at a version is an old one, or the one that comes of this claim
  have hcases : ∀ version d, s.post.delivery version = some d →
      (s.pre.delivery version = some d ∧ version ≤ s.pre.row.deliveryVersion) ∨
        (version = s.post.row.deliveryVersion ∧ ∃ claim : ClaimedOutboxCommand,
          claim.retryMode = s.post.row.retryMode ∧ claim.deliveryVersion = version ∧
          d = ⟨claim, opening system.command claim.toClaimFields⟩) := by
    intro version d hd
    rcases hdelivery with hsame | ⟨claim, hmode, hclaim, -, hset⟩
    · rw [hsame] at hd
      exact .inl ⟨hd, (h.versions version d hd).1⟩
    · rw [hset] at hd
      by_cases hnew : version = s.post.row.deliveryVersion
      · rw [hnew, setDelivery_self] at hd
        exact .inr ⟨hnew, claim, hmode, hclaim.trans hnew.symm, (Option.some.inj hd).symm⟩
      · rw [setDelivery_other hnew] at hd
        exact .inl ⟨hd, (h.versions version d hd).1⟩
  have harmed : ∀ version, s.post.Armed version → s.pre.Armed version := by
    intro version harmed
    obtain ⟨claim, job, effect, at_, hd, hmode⟩ := harmed
    rcases hcases version _ hd with ⟨hold, -⟩ | ⟨-, opened, -, -, hopen⟩
    · exact ⟨claim, job, effect, at_, hold, hmode⟩
    · have hphase := congrArg Delivery.phase hopen
      exact absurd (opening_working hphase.symm).1 (by simp)
  refine ⟨hpath ▸ h.staged, ?_, ?_, ?_, ?_, ?_⟩
  · intro version d hd
    rcases hcases version d hd with ⟨hold, hle⟩ | ⟨hnew, claim, -, hclaim, rfl⟩
    · exact ⟨by omega, (h.versions version d hold).2⟩
    · exact ⟨by omega, hclaim⟩
  · intro version claim job stage hd
    rcases hcases version _ hd with ⟨hold, -⟩ | ⟨-, opened, -, -, hopen⟩
    · exact h.jobs version claim job stage hold
    · obtain ⟨rfl, hphase⟩ := Delivery.mk.inj hopen
      exact (opening_working hphase.symm).2
  · intro version ha
    obtain ⟨hall, hat, hone⟩ := h.armed version (harmed version ha)
    exact ⟨allSettled_concat hall hquiet, hpath ▸ hat, fun w hw => hone w (harmed w hw)⟩
  · intro version d hcurrent hd
    rcases hcases version d hd with ⟨-, hle⟩ | ⟨-, claim, hmode, -, rfl⟩
    · have := hcurrent.2
      omega
    · apply phaseHolds_opening
      intro hcreates
      obtain ⟨hall, hqueued⟩ := h.offering (hoffer (hmode ▸ hcreates))
      exact ⟨allSettled_concat hall hquiet, hpath ▸ hqueued⟩
  · intro hoffering
    rcases hstatus with hstatus | hstatus
    · exact absurd hoffering.1 (by simp [hstatus])
    · exact absurd hoffering.1 (by simp [hstatus])

/-! ## A settlement -/

theorem kept_settled {s : CreateStep} (h : Kept system past s.pre) {version : Nat}
    {now : Timestamp} {claim : ClaimedOutboxCommand} {result : HandlerResult}
    (hcmd : s.cmd = .settle version now)
    (hpre : s.pre.delivery version = some ⟨claim, .settling result⟩)
    (hrow : s.post.row = system.settledRow s.pre.row claim.toClaimFields now result)
    (hpath : s.post.path = s.pre.path)
    (hdelivery : s.post.delivery =
      CreateSystem.setDelivery s.pre.delivery version ⟨claim, .closed⟩) :
    Kept system (past ++ [s]) s.post := by
  have hquiet : ∀ w, ¬RequestsCreate w s := by
    intro w hasks
    obtain ⟨⟨step, hstep⟩, -⟩ := hasks
    exact absurd (hcmd.symm.trans hstep) (by simp)
  have harmed : ∀ w, s.post.Armed w → s.pre.Armed w := fun w hw =>
    (armed_of_setDelivery hdelivery (fun _ _ _ => by simp) hw).2
  have hsettle : s.post.row = s.pre.row ∨ (s.pre.row.Current version ∧
      s.post.row.deliveryVersion = s.pre.row.deliveryVersion + 1 ∧
      s.post.row.status ≠ .inProgress ∧ (s.post.row.Offering →
        ∃ reason mode, result = .retry reason mode ∧ mode ≠ .reconcileOnly)) := by
    rw [hrow, CreateSystem.settledRow]
    split
    next settled hok =>
      obtain ⟨hcurrent, hmore⟩ := settle_ok hok
      have hclaim : claim.deliveryVersion = version := (h.versions version _ hpre).2
      exact .inr ⟨hclaim ▸ hcurrent, hmore⟩
    next => exact .inl rfl
  have hmonotone : s.pre.row.deliveryVersion ≤ s.post.row.deliveryVersion := by
    rcases hsettle with hsame | ⟨-, hnext, -⟩
    · rw [hsame]
    · omega
  refine ⟨hpath ▸ h.staged, ?_, ?_, ?_, ?_, ?_⟩
  · intro w d hd
    rcases delivery_cases hdelivery hd with ⟨rfl, rfl⟩ | ⟨-, hold⟩
    · have hv := h.versions w _ hpre
      exact ⟨hv.1.trans hmonotone, hv.2⟩
    · have hv := h.versions w d hold
      exact ⟨hv.1.trans hmonotone, hv.2⟩
  · intro w c job stage hd
    rcases delivery_cases hdelivery hd with ⟨-, hover⟩ | ⟨-, hold⟩
    · exact absurd (congrArg Delivery.phase hover) (by simp)
    · exact h.jobs w c job stage hold
  · intro w hw
    obtain ⟨hall, hat, hone⟩ := h.armed w (harmed w hw)
    exact ⟨allSettled_concat hall hquiet, hpath ▸ hat, fun u hu => hone u (harmed u hu)⟩
  · intro w d hcurrent hd
    rcases hsettle with hsame | ⟨-, -, hfree, -⟩
    · rcases delivery_cases hdelivery hd with ⟨-, rfl⟩ | ⟨-, hold⟩
      · exact trivial
      · rw [hsame] at hcurrent
        rw [hpath]
        exact phaseHolds_mono (h.current w d hcurrent hold) (fun ha => allSettled_concat ha hquiet)
          (fun hb => settledBut_concat hb fun u _ => hquiet u)
          (fun hnone u hu => hnone u (harmed u hu))
    · exact absurd hcurrent.1 hfree
  · intro hoffering
    rcases hsettle with hsame | ⟨hcurrent, -, -, hretry⟩
    · rw [hsame] at hoffering
      obtain ⟨hall, hqueued⟩ := h.offering hoffering
      exact ⟨allSettled_concat hall hquiet, hpath ▸ hqueued⟩
    · obtain ⟨reason, mode, rfl, hmode⟩ := hretry hoffering
      obtain ⟨hall, hqueued⟩ := h.current version _ hcurrent hpre hmode
      exact ⟨allSettled_concat hall hquiet, hpath ▸ hqueued⟩

/-! ## A step of a delivery -/

section

variable {s : CreateStep} {version : Nat} {claim : ClaimedOutboxCommand} {job : OutboxJob}
  {stage : Stage} {phase : Phase}

/-- A delivery works on the job of its own version. -/
theorem Kept.jobVersion {state : CreateJob} (h : Kept system past state)
    (hd : state.delivery version = some ⟨claim, .working job stage⟩) : job.version = version := by
  rw [h.jobs version claim job stage hd]
  exact (h.versions version _ hd).2

/-- A result that is settled is one the path was waiting for: its delivery held the
lease, and the path is left at a stage of its own. -/
theorem Kept.settled {state : CreateJob} (h : Kept system past state) {result : ExecutionResult}
    {fencedAt writtenAt : Timestamp} {changed : EffectPath}
    (hd : state.delivery version = some ⟨claim, .working job (.finished result)⟩)
    (hpersisted : persistResult system.server
      (lockFence state.row state.path job system.command (job.leaseOwner.getD "") fencedAt)
      writtenAt state.path result = .ok changed) :
    state.row.Current version ∧ changed.Staged ∧
      changed.action.status ∈ settledStatus result.disposition ∧
      changed.terms = state.path.terms := by
  have hfence : lockFence state.row state.path job system.command (job.leaseOwner.getD "")
      fencedAt = true := by
    obtain ⟨_, hheld, -⟩ := bind_ok_iff.mp hpersisted
    simpa using hheld
  have hcurrent : state.row.Current version := h.jobVersion hd ▸ current_of_lockFence hfence
  obtain ⟨hlink, hwork, -⟩ := h.current version _ hcurrent hd
  obtain ⟨-, -, hmore⟩ := persistResult_ok h.staged hlink (by
    intro hgiven
    simp only [List.mem_cons, List.not_mem_nil, or_false] at hgiven
    have hat := hwork (by rcases hgiven with hd | hd <;> simp [hd, authorizedDispositions])
    rw [hat]
    cases job.retryMode <;> decide) hpersisted
  exact ⟨hcurrent, hmore⟩

/-- What does not depend on the stage. -/
theorem kept_bookkeeping (h : Kept system past s.pre)
    (hpre : s.pre.delivery version = some ⟨claim, .working job stage⟩)
    (hrow : s.post.row = s.pre.row)
    (hdelivery : s.post.delivery = CreateSystem.setDelivery s.pre.delivery version ⟨claim, phase⟩)
    (hjob : ∀ job' stage', phase = .working job' stage' → job' = job) :
    (∀ w d, s.post.delivery w = some d →
      w ≤ s.post.row.deliveryVersion ∧ d.claim.deliveryVersion = w) ∧
    ∀ w c job' stage', s.post.delivery w = some ⟨c, .working job' stage'⟩ →
      job'.toJobFields = jobFromClaim c.toClaimFields system.command := by
  rw [hrow]
  constructor
  · intro w d hd
    rcases delivery_cases hdelivery hd with ⟨rfl, rfl⟩ | ⟨-, hold⟩
    · have hv := h.versions w _ hpre
      exact hv
    · exact h.versions w d hold
  · intro w c job' stage' hd
    rcases delivery_cases hdelivery hd with ⟨rfl, hnew⟩ | ⟨-, hold⟩
    · obtain ⟨rfl, hphase⟩ := Delivery.mk.inj hnew
      rw [hjob job' stage' hphase.symm]
      exact h.jobs w c job stage hpre
    · exact h.jobs w c job' stage' hold

/-- A step that moves only its own delivery, asks for no create and arms nobody. -/
theorem kept_quiet (h : Kept system past s.pre)
    (hpre : s.pre.delivery version = some ⟨claim, .working job stage⟩)
    (hrow : s.post.row = s.pre.row) (hpath : s.post.path = s.pre.path)
    (hquiet : ∀ w, ¬RequestsCreate w s)
    (hdelivery : s.post.delivery = CreateSystem.setDelivery s.pre.delivery version ⟨claim, phase⟩)
    (hjob : ∀ job' stage', phase = .working job' stage' → job' = job)
    (hunarmed : ∀ job effect now, phase ≠ .working job (.authorized effect now))
    (hphase : PhaseHolds past s.pre.path.action.status (∀ w, ¬s.pre.Armed w) version
        (.working job stage) →
      PhaseHolds (past ++ [s]) s.pre.path.action.status (∀ w, ¬s.post.Armed w) version phase) :
    Kept system (past ++ [s]) s.post := by
  obtain ⟨hversions, hjobs⟩ := kept_bookkeeping h hpre hrow hdelivery hjob
  have harmed : ∀ w, s.post.Armed w → s.pre.Armed w := fun w hw =>
    (armed_of_setDelivery hdelivery hunarmed hw).2
  refine ⟨hpath ▸ h.staged, hversions, hjobs, ?_, ?_, ?_⟩
  · intro w hw
    obtain ⟨hall, hat, hone⟩ := h.armed w (harmed w hw)
    exact ⟨allSettled_concat hall hquiet, hpath ▸ hat, fun u hu => hone u (harmed u hu)⟩
  · intro w d hcurrent hd
    rw [hrow] at hcurrent
    rw [hpath]
    rcases delivery_cases hdelivery hd with ⟨rfl, rfl⟩ | ⟨-, hold⟩
    · exact hphase (h.current w _ hcurrent hpre)
    · exact phaseHolds_mono (h.current w d hcurrent hold) (fun ha => allSettled_concat ha hquiet)
        (fun hb => settledBut_concat hb fun u _ => hquiet u)
        (fun hnone u hu => hnone u (harmed u hu))
  · intro hoffering
    rw [hrow] at hoffering
    obtain ⟨hall, hqueued⟩ := h.offering hoffering
    exact ⟨allSettled_concat hall hquiet, hpath ▸ hqueued⟩

/-- The create is asked for: every other delivery stands where no create comes of it. -/
theorem kept_requested (h : Kept system past s.pre) {effect : GateDecision} {now : Timestamp}
    {step : DeliveryStep} (hcmd : s.cmd = .deliver version step)
    (hpre : s.pre.delivery version = some ⟨claim, .working job (.authorized effect now)⟩)
    (hmode : job.retryMode ≠ .reconcileOnly) (hrow : s.post.row = s.pre.row)
    (hpath : s.post.path = s.pre.path)
    (hdelivery : s.post.delivery = CreateSystem.setDelivery s.pre.delivery version
      ⟨claim, .working job (.sent effect now)⟩) :
    Kept system (past ++ [s]) s.post := by
  have harmed : s.pre.Armed version := ⟨claim, job, effect, now, hpre, hmode⟩
  obtain ⟨hall, hat, hone⟩ := h.armed version harmed
  have hdisarmed : ∀ w, ¬s.post.Armed w := by
    intro w hw
    obtain ⟨hne, hw⟩ := armed_of_setDelivery hdelivery (fun _ _ _ => by simp) hw
    exact hne (hone w hw)
  have hnotQueued : s.pre.path.action.status ≠ .queued := by
    intro hqueued
    rw [hqueued] at hat
    exact absurd hat (by decide)
  obtain ⟨hversions, hjobs⟩ := kept_bookkeeping h hpre hrow hdelivery
    (fun job' stage' hphase => (Phase.working.inj hphase).1.symm)
  refine ⟨hpath ▸ h.staged, hversions, hjobs, fun w hw => absurd hw (hdisarmed w), ?_, ?_⟩
  · intro w d hcurrent hd
    rw [hrow] at hcurrent
    rw [hpath]
    rcases delivery_cases hdelivery hd with ⟨rfl, rfl⟩ | ⟨-, hold⟩
    · refine ⟨settledBut_concat (fun u _ => hall u) ?_, h.current w _ hcurrent hpre, hdisarmed⟩
      intro u hu hasks
      obtain ⟨⟨other, hother⟩, -⟩ := hasks
      exact hu (CreateCommand.deliver.inj (hcmd.symm.trans hother)).1.symm
    · exact phaseHolds_of_armed (h.current w d hcurrent hold) hnotQueued
        fun hnone => hnone version harmed
  · intro hoffering
    rw [hrow] at hoffering
    exact absurd (h.offering hoffering).2 hnotQueued

/-- The authorization is recorded: the delivery held the lease, and nobody was armed. -/
theorem kept_recorded (h : Kept system past s.pre) {effect : GateDecision}
    {context : GateContext} {now fencedAt writtenAt : Timestamp} {changed : EffectPath}
    (hpre : s.pre.delivery version = some ⟨claim, .working job (.cleared effect context now)⟩)
    (hrecorded : recordEffectAuthorization system.server
      (lockFence s.pre.row s.pre.path job system.command claim.workerId fencedAt) writtenAt
      s.pre.path job system.command effect context claim.workerId
      (job.retryMode = .reconcileOnly) = .ok changed)
    (hrow : s.post.row = s.pre.row) (hpath : s.post.path = changed)
    (hquiet : ∀ w, ¬RequestsCreate w s)
    (hdelivery : s.post.delivery = CreateSystem.setDelivery s.pre.delivery version
      ⟨claim, .working job (.authorized effect now)⟩) :
    Kept system (past ++ [s]) s.post := by
  obtain ⟨hfence, -, -, hstaged, -, hwhere⟩ := recordEffectAuthorization_ok h.staged hrecorded
  have hcurrent : s.pre.row.Current version := h.jobVersion hpre ▸ current_of_lockFence hfence
  have hstage := h.current version _ hcurrent hpre
  have hstatus : changed.action.status = job.retryMode.workStatus := by
    rcases hwhere with ⟨hmode, -, hat⟩ | ⟨hmode, -, hat⟩
    · rw [of_decide_eq_true hmode]
      exact hat
    · have hcreates := of_decide_eq_false hmode
      cases hm : job.retryMode with
      | reconcileOnly => exact absurd hm hcreates
      | normal => exact hat
      | retrySameEffect => exact hat
  have hnone : ∀ w, ¬s.pre.Armed w := by
    intro w hw
    have hat := (h.armed w hw).2.1
    rcases hwhere with ⟨-, hbefore, -⟩ | ⟨hmode, -, -⟩
    · simp only [List.mem_cons, List.not_mem_nil, or_false] at hbefore
      rcases hbefore with hb | hb
      · rw [hb] at hat
        exact absurd hat (by decide)
      · rw [hb] at hat
        exact absurd hat (by decide)
    · rw [(hstage (of_decide_eq_false hmode)).2] at hat
      exact absurd hat (by decide)
  have hself : ∀ w, s.post.Armed w → w = version ∧ job.retryMode ≠ .reconcileOnly := by
    intro w hw
    obtain ⟨c, j, e, n, hd, hmode⟩ := hw
    rcases delivery_cases hdelivery hd with ⟨hv, hnew⟩ | ⟨-, hold⟩
    · obtain ⟨-, hphase⟩ := Delivery.mk.inj hnew
      rw [(Phase.working.inj hphase).1] at hmode
      exact ⟨hv, hmode⟩
    · exact absurd ⟨c, j, e, n, hold, hmode⟩ (hnone w)
  obtain ⟨hversions, hjobs⟩ := kept_bookkeeping h hpre hrow hdelivery
    (fun job' stage' hphase => (Phase.working.inj hphase).1.symm)
  refine ⟨hpath ▸ hstaged, hversions, hjobs, ?_, ?_, ?_⟩
  · intro w hw
    obtain ⟨rfl, hmode⟩ := hself w hw
    refine ⟨allSettled_concat (hstage hmode).1 hquiet, ?_, fun u hu => (hself u hu).1⟩
    rw [hpath, hstatus]
    cases hm : job.retryMode with
    | reconcileOnly => exact absurd hm hmode
    | normal => decide
    | retrySameEffect => decide
  · intro w d hw hd
    rw [hrow] at hw
    obtain rfl : w = version := hw.2.symm.trans hcurrent.2
    rw [hdelivery, setDelivery_self] at hd
    rw [← Option.some.inj hd, hpath]
    exact hstatus
  · intro hoffering
    rw [hrow] at hoffering
    exact absurd hoffering.1 (by simp [hcurrent.1])

/-- The result is persisted: the action is over, or back where nobody is at it. -/
theorem kept_persisted (h : Kept system past s.pre) {result : ExecutionResult}
    {fencedAt writtenAt : Timestamp} {changed : EffectPath}
    (hpre : s.pre.delivery version = some ⟨claim, .working job (.finished result)⟩)
    (hpersisted : persistResult system.server
      (lockFence s.pre.row s.pre.path job system.command (job.leaseOwner.getD "") fencedAt)
      writtenAt s.pre.path result = .ok changed)
    (hrow : s.post.row = s.pre.row) (hpath : s.post.path = changed)
    (hquiet : ∀ w, ¬RequestsCreate w s)
    (hdelivery : s.post.delivery = CreateSystem.setDelivery s.pre.delivery version
      ⟨claim, .working job (.persisted result)⟩) :
    Kept system (past ++ [s]) s.post := by
  obtain ⟨hcurrent, hstaged, hstatus, -⟩ := h.settled hpre hpersisted
  obtain ⟨-, -, hrequeued, hrequery, hdisarmed⟩ := h.current version _ hcurrent hpre
  have harmed : ∀ w, s.post.Armed w → s.pre.Armed w := fun w hw =>
    (armed_of_setDelivery hdelivery (fun _ _ _ => by simp) hw).2
  obtain ⟨hversions, hjobs⟩ := kept_bookkeeping h hpre hrow hdelivery
    (fun job' stage' hphase => (Phase.working.inj hphase).1.symm)
  refine ⟨hpath ▸ hstaged, hversions, hjobs, ?_, ?_, ?_⟩
  · intro w hw
    obtain ⟨hall, -, hone⟩ := h.armed w (harmed w hw)
    refine ⟨allSettled_concat hall hquiet, ?_, fun u hu => hone u (harmed u hu)⟩
    rw [hpath]
    -- an armed delivery rules out the results that go back to the queue or stay uncertain
    have hover : result.disposition ∉
        [ExecutionDisposition.requeued, .requeryRequired] := fun hd => hdisarmed hd w (harmed w hw)
    cases hd : result.disposition with
    | requeued | requeryRequired => exact absurd (by simp [hd]) hover
    | created | adopted | suppressed | escalated | deadLetter =>
      rw [hd] at hstatus
      simp only [settledStatus, List.mem_cons, List.not_mem_nil, or_false] at hstatus
      rcases hstatus with hs | hs <;> rw [hs] <;> decide
  · intro w d hw hd
    rw [hrow] at hw
    obtain rfl : w = version := hw.2.symm.trans hcurrent.2
    rw [hdelivery, setDelivery_self] at hd
    rw [← Option.some.inj hd, hpath]
    refine ⟨fun hd => ⟨allSettled_concat (hrequeued hd) hquiet, ?_⟩, hrequery⟩
    rw [hd] at hstatus
    exact List.mem_singleton.mp hstatus
  · intro hoffering
    rw [hrow] at hoffering
    exact absurd hoffering.1 (by simp [hcurrent.1])

end

/-! ## Every step, and every run -/

omit [Hashlib] in
/-- Only a create that is begun asks for one. -/
theorem not_requestsCreate {s : CreateStep}
    (h : ∀ request account, s.out ≠ some (.create request account)) (w : Nat) :
    ¬RequestsCreate w s := by
  intro hasks
  obtain ⟨-, request, account, hout⟩ := hasks
  exact h request account hout

theorem kept_delivered {s : CreateStep} (h : Kept system past s.pre) {version : Nat}
    {step : DeliveryStep} {claim : ClaimedOutboxCommand} {job : OutboxJob} {stage : Stage}
    {progress : Progress} (hcmd : s.cmd = .deliver version step)
    (hpre : s.pre.delivery version = some ⟨claim, .working job stage⟩)
    (hadvances : system.Advances s.pre.row s.pre.path claim.workerId job stage step progress)
    (hrow : s.post.row = s.pre.row) (hpath : s.post.path = progress.path)
    (hout : s.out = progress.asked)
    (hdelivery : s.post.delivery =
      CreateSystem.setDelivery s.pre.delivery version ⟨claim, progress.phase⟩) :
    Kept system (past ++ [s]) s.post := by
  have hsame : ∀ {next : Stage} (job' : OutboxJob) (stage' : Stage),
      Phase.working job next = .working job' stage' → job' = job :=
    fun job' stage' hphase => (Phase.working.inj hphase).1.symm
  have hquiet : progress.asked = none ∨ progress.asked = some system.lookupCall →
      ∀ w, ¬RequestsCreate w s := by
    intro hasked
    apply not_requestsCreate
    intro request account hcreate
    rw [hout] at hcreate
    rcases hasked with hasked | hasked
    · rw [hasked] at hcreate
      exact absurd hcreate (by simp)
    · rw [hasked] at hcreate
      exact absurd (Option.some.inj hcreate) (by simp [CreateSystem.lookupCall])
  cases hadvances with
  | failed error =>
    exact kept_quiet h hpre hrow hpath (hquiet (.inl rfl)) hdelivery
      (fun _ _ hphase => absurd hphase (by simp)) (fun _ _ _ => by simp)
      fun _ => phaseHolds_handlerFailure
  | @decided reads decided hdecided =>
    refine kept_quiet h hpre hrow hpath (hquiet (.inl rfl)) hdelivery hsame ?_ ?_
    · intro _ _ _
      cases decided <;> simp [Decided.stage]
    · intro hbefore
      cases decided with
      | cleared effect context now =>
        exact fun hmode => ⟨allSettled_concat (hbefore hmode).1 (hquiet (.inl rfl)), (hbefore hmode).2⟩
      | finished result =>
        rcases decideEffect_finished hdecided with hd | hd <;>
          simp [Decided.stage, PhaseHolds, StageHolds, ExecutionResult.LinkGiven,
            authorizedDispositions, hd]
  | recorded hrecorded =>
    exact kept_recorded h hpre hrecorded hrow hpath (hquiet (.inl rfl)) hdelivery
  | @begun effect now begun hbegun =>
    cases begun with
    | create =>
      exact kept_requested h hcmd hpre (beginEffect_create_iff.mp hbegun).1 hrow hpath hdelivery
    | reconcile =>
      have hmode := beginEffect_reconcile hbegun
      refine kept_quiet h hpre hrow hpath (hquiet (.inr rfl)) hdelivery hsame
        (fun _ _ _ => by simp [Begun.stage]) ?_
      intro hwork
      refine ⟨hwork, fun w hw => ?_⟩
      -- a delivery at work on a reconciliation, and an armed one, would need two statuses
      have hat := (h.armed w (armed_of_setDelivery hdelivery
        (fun _ _ _ => by simp [Begun.stage]) hw).2).2.1
      have hreconciling : s.pre.path.action.status = .reconciling :=
        Eq.trans hwork (congrArg RetryMode.workStatus hmode)
      rw [hreconciling] at hat
      exact absurd hat (by decide)
    | refused result =>
      obtain ⟨hd, -⟩ := beginEffect_refused hbegun
      refine kept_quiet h hpre hrow hpath (hquiet (.inl rfl)) hdelivery hsame
        (fun _ _ _ => by simp [Begun.stage]) ?_
      intro _
      simp [Begun.stage, PhaseHolds, StageHolds, ExecutionResult.LinkGiven,
        authorizedDispositions, hd]
  | @settled effect now create result hsettled =>
    refine kept_quiet h hpre hrow hpath (hquiet (.inl rfl)) hdelivery hsame
      (fun _ _ _ => by simp) ?_
    intro hbefore
    obtain ⟨hbut, hwork, hdisarmed⟩ := hbefore
    have hstill : ∀ w, ¬s.post.Armed w := fun w hw =>
      hdisarmed w (armed_of_setDelivery hdelivery (fun _ _ _ => by simp) hw).2
    rcases (settleCreate_some hsettled).2 with ⟨hd, hlink⟩ | ⟨hfailed, hd | hd⟩
    · exact ⟨fun _ => hlink, fun _ => hwork, by simp [hd], by simp [hd], fun _ => hstill⟩
    · refine ⟨by simp [ExecutionResult.LinkGiven, hd], fun _ => hwork, fun _ => ?_, by simp [hd],
        fun _ => hstill⟩
      exact allSettled_of_rulesOut hbut (.inl ⟨create, hcmd, hfailed⟩) (hquiet (.inl rfl))
    · exact ⟨by simp [ExecutionResult.LinkGiven, hd], fun _ => hwork, by simp [hd], by simp [hd],
        fun _ => hstill⟩
  | ambiguous =>
    refine kept_quiet h hpre hrow hpath (hquiet (.inr rfl)) hdelivery hsame
      (fun _ _ _ => by simp) ?_
    intro hbefore
    obtain ⟨-, hwork, hdisarmed⟩ := hbefore
    exact ⟨hwork, fun w hw =>
      hdisarmed w (armed_of_setDelivery hdelivery (fun _ _ _ => by simp) hw).2⟩
  | @reconciled effect now found result hreconciled =>
    refine kept_quiet h hpre hrow hpath (hquiet (.inl rfl)) hdelivery hsame
      (fun _ _ _ => by simp) ?_
    intro hbefore
    obtain ⟨hwork, hdisarmed⟩ := hbefore
    have hstill : ∀ w, ¬s.post.Armed w := fun w hw =>
      hdisarmed w (armed_of_setDelivery hdelivery (fun _ _ _ => by simp) hw).2
    rcases (reconcile_ok hreconciled).2 with ⟨hd, hlink⟩ | ⟨hd, -, hdone, hnone⟩ | ⟨hd, hmode⟩ |
      hd | hd
    · exact ⟨fun _ => hlink, fun _ => hwork, by simp [hd], by simp [hd], fun _ => hstill⟩
    · refine ⟨by simp [ExecutionResult.LinkGiven, hd], fun _ => hwork, fun _ => ?_, by simp [hd],
        fun _ => hstill⟩
      exact allSettled_of_lookup hcmd hdone hnone (hquiet (.inl rfl))
    · exact ⟨by simp [ExecutionResult.LinkGiven, hd], fun _ => hwork, by simp [hd],
        fun _ => hmode, fun _ => hstill⟩
    · exact ⟨by simp [ExecutionResult.LinkGiven, hd], fun _ => hwork, by simp [hd], by simp [hd],
        fun _ => hstill⟩
    · exact ⟨by simp [ExecutionResult.LinkGiven, hd], fun _ => hwork, by simp [hd], by simp [hd],
        fun _ => hstill⟩
  | persisted hpersisted =>
    exact kept_persisted h hpre hpersisted hrow hpath (hquiet (.inl rfl)) hdelivery
  | @reported result =>
    refine kept_quiet h hpre hrow hpath (hquiet (.inl rfl)) hdelivery
      (fun _ _ hphase => absurd hphase (by simp)) (fun _ _ _ => by simp) ?_
    intro hbefore
    obtain ⟨hrequeued, hrequery⟩ := hbefore
    cases hresult : result.handlerResult with
    | succeeded reference => exact trivial
    | deadLetter reason => exact trivial
    | retry reason mode =>
      intro hmode
      obtain ⟨hjobMode, hd⟩ := handlerResult_retry hresult hmode
      rcases hd with hd | hd
      · exact ⟨allSettled_concat (hrequeued hd).1 (hquiet (.inl rfl)), (hrequeued hd).2⟩
      · exact absurd (hjobMode.symm.trans (hrequery hd)) hmode

/-- Every step keeps the invariant. -/
theorem kept_step {s : CreateStep} (h : Kept system past s.pre) (hstep : system.machine.Takes s) :
    Kept system (past ++ [s]) s.post := by
  cases CreateSystem.takes_of_exec hstep with
  | claimed terms now expiresAt cmd due row path quiet delivery =>
    exact kept_claimed h cmd due row path delivery
  | delivered version step claim job stage progress cmd pre advances row path asked delivery =>
    exact kept_delivered h cmd pre advances row path asked delivery
  | settled version now claim result cmd pre row path quiet delivery =>
    exact kept_settled h cmd pre row path delivery

theorem kept_fresh {job : CreateJob} (h : job.Fresh) : Kept system [] job where
  staged := h.staged
  versions := fun version d hd => absurd (hd.symm.trans (h.undelivered version)) (by simp)
  jobs := fun version _ _ _ hd => absurd (hd.symm.trans (h.undelivered version)) (by simp)
  armed := by
    intro version harmed
    obtain ⟨_, _, _, _, hd, -⟩ := harmed
    exact absurd (hd.symm.trans (h.undelivered version)) (by simp)
  current := fun version d _ hd => absurd (hd.symm.trans (h.undelivered version)) (by simp)
  offering := fun _ => ⟨fun _ => not_outstanding_nil, h.queued⟩

/-- The invariant holds along every run of a fresh job. -/
theorem kept_of_run {init final : CreateJob} {steps : List CreateStep} (hfresh : init.Fresh)
    (hrun : system.machine.Run init steps final) : Kept system steps final :=
  Machine.Run.history (H := Kept system) (G := fun _ _ => True) (kept_fresh hfresh)
    (fun _ _ _ h hstep _ => kept_step h hstep) hrun (fun _ _ _ _ => trivial)

end

end Retrywise.ControlPlane
