import Retrywise.ControlPlane.PostgresOutbox
import Retrywise.ControlPlane.FreshContext
import Retrywise.ControlPlane.PathStages

/-!
# The deliveries of one create

One outbox row, the path behind it, and every delivery of it that any worker has
ever claimed, each at the point it has reached. A delivery is the body of
`CreateStandardPaymentLinkHandler.__call__` and the settlement `OutboxWorker` makes
of its result, cut where something else can happen in between: at every query, at
every commit, and at every call of the provider.

The steps of different deliveries interleave freely. A crash is a delivery that
takes no further step; a delay is any number of steps of others in between; every
clock reading is an argument, so nothing is assumed of how clocks agree. An
exception, at any point, is the step `fail`.

A step puts out what it asks of the provider.
-/

namespace Retrywise.ControlPlane

open Retrywise.Foundation Retrywise.Domain

/-! ## A delivery -/

/-- Where the handler is. -/
inductive Stage where
  | claimed
  | cleared (effect : GateDecision) (context : GateContext) (now : Timestamp)
  | authorized (effect : GateDecision) (now : Timestamp)
  | sent (effect : GateDecision) (now : Timestamp)
  | lookingUp (effect : GateDecision) (now : Timestamp)
  | finished (result : ExecutionResult)
  | persisted (result : ExecutionResult)

inductive Phase where
  | working (job : OutboxJob) (stage : Stage)
  | settling (result : HandlerResult)
  | closed

structure Delivery where
  claim : ClaimedOutboxCommand
  phase : Phase

/-- What the handler reads from outside before it decides. -/
structure DeliveryReads where
  startedAt : Timestamp
  intent : Except ControlPlaneError (Option DurableActionIntent)
  repository : EffectRepository
  columns : ContextColumns
  decidedAt : Timestamp

/-- What a delivery at work does next. -/
inductive DeliveryStep where
  | read (reads : DeliveryReads)
  | authorize (fencedAt writtenAt : Timestamp)
  | send
  | answer (create : Except ControlPlaneError ProviderCreateOutcome)
  | lookup (found : Except ControlPlaneError PaymentLinkLookupResult)
  | persist (fencedAt writtenAt : Timestamp)
  | report
  | fail (error : ControlPlaneError)

inductive CreateCommand where
  | claim (terms : ClaimTerms) (now : Timestamp)
  | deliver (version : Nat) (step : DeliveryStep)
  | settle (version : Nat) (now : Timestamp)

/-- What the deliveries run on; `command` is what the payload of the row decodes to. -/
structure CreateSystem where
  server : Server
  gate : DeterministicGate
  command : CreatePaymentLinkCommand
  backoff : BackoffPolicy := {}

/-- The row, the path, and the deliveries by the version they were claimed at. -/
structure CreateJob where
  row : OutboxRow
  path : EffectPath
  delivery : Nat → Option Delivery

/-- `_LOCK_FENCE`: the lease is held, and the job is the action's. -/
def lockFence [Hashlib] (row : OutboxRow) (path : EffectPath) (job : OutboxJob)
    (command : CreatePaymentLinkCommand) (workerId : String) (now : Timestamp) : Bool :=
  row.heldBy job.jobId command.proposal.merchantId job.version workerId
      (job.leaseToken.getD "") now &&
    row.aggregateType = "ACTION" && row.commandType = "CREATE_STANDARD_PAYMENT_LINK" &&
    path.action.id = row.aggregateId && path.action.actionKey = command.proposal.actionKey

/-- What the handler makes of an exception. -/
def handlerFailure : ControlPlaneError → HandlerResult
  | .persistence _ => .retry "create_effect_persistence_unavailable" .reconcileOnly
  | _ => .retry "create_effect_execution_unavailable" .reconcileOnly

/-- On to the next stage, or out with the exception. -/
def Phase.goOn (job : OutboxJob) : Except ControlPlaneError Stage → Phase
  | .ok stage => .working job stage
  | .error e => .settling (handlerFailure e)

def Decided.stage : Decided → Stage
  | .finished result => .finished result
  | .cleared effect context now => .cleared effect context now

def Begun.stage (effect : GateDecision) (now : Timestamp) : Begun → Stage
  | .create => .sent effect now
  | .reconcile => .lookingUp effect now
  | .refused result => .finished result

section

variable [Hashlib]

/-- The handler's first check. -/
def handles (command : CreatePaymentLinkCommand) (claim : ClaimFields) : Bool :=
  claim.commandType = "CREATE_STANDARD_PAYMENT_LINK" && claim.commandSchemaVersion = 1 &&
    claim.aggregateType = "ACTION" && claim.merchantId = command.proposal.merchantId &&
    claim.idempotencyKey = s!"create-standard-payment-link:{command.proposal.actionKey}"

/-- `_job_from_claim`, the fields. -/
def jobFromClaim (claim : ClaimFields) (command : CreatePaymentLinkCommand) : JobFields where
  jobId := claim.jobId
  actionKey := command.proposal.actionKey
  payloadDigest := command.payloadDigest
  state := .leased
  version := claim.deliveryVersion
  attempts := claim.attemptCount
  maxAttempts := claim.maxAttempts
  createdAt := claim.createdAt
  updatedAt := claim.claimedAt
  availableAt := none
  retryMode := claim.retryMode
  leaseOwner := some claim.workerId
  leaseToken := some claim.leaseToken
  leaseExpiresAt := some claim.leaseExpiresAt

/-- The handler, up to its first query. -/
def opening (command : CreatePaymentLinkCommand) (claim : ClaimFields) : Phase :=
  if handles command claim then
    match (jobFromClaim claim command).build with
    | .error e => .settling (handlerFailure e)
    | .ok job => .working job .claimed
  else .settling (.deadLetter "invalid_create_payment_link_command")

/-- The last lines of the handler. -/
def ExecutionResult.handlerResult (result : ExecutionResult) : HandlerResult :=
  HandlerResult.orHandlerException <|
    match result.disposition with
    | .created | .adopted | .suppressed =>
      match result.paymentLinkId with
      | none => .succeeded s!"suppressed:{result.effectDecision.decisionDigest}"
      | some id =>
        .succeeded (if id = "" then s!"suppressed:{result.effectDecision.decisionDigest}" else id)
    | .requeued | .requeryRequired => .retry result.reasonCode result.job.retryMode
    | .escalated | .deadLetter => .deadLetter result.reasonCode

/-- The reads of `execute`, on the path as it is. -/
def DeliveryReads.effectReads (reads : DeliveryReads) (command : CreatePaymentLinkCommand)
    (path : EffectPath) : EffectReads where
  startedAt := reads.startedAt
  intent := reads.intent
  context := loadFreshGateContext reads.repository path reads.columns command.proposal
    command.providerAccountId reads.startedAt
  decidedAt := reads.decidedAt

/-! ## One step of a delivery -/

/-- What a step leaves: the path, the delivery, and what it asked of the provider. -/
structure Progress where
  path : EffectPath
  phase : Phase
  asked : Option ProviderCall := none

namespace CreateSystem

variable (system : CreateSystem)

def createCall : ProviderCall :=
  .create system.command.request system.command.providerAccountId

def lookupCall : ProviderCall :=
  .lookup system.command.request.referenceId system.command.providerAccountId

/-- What is asked once the authorization is recorded. -/
def asked : Except ControlPlaneError Begun → Option ProviderCall
  | .ok .create => some system.createCall
  | .ok .reconcile => some system.lookupCall
  | _ => none

/-- The stage behind an answer to the create; an ambiguous one is looked up. -/
def answered (effect : GateDecision) (now : Timestamp) : Option ExecutionResult → Stage
  | some result => .finished result
  | none => .lookingUp effect now

/-- One step of the handler, where it is at the stage for it. -/
def advance (row : OutboxRow) (path : EffectPath) (workerId : String) (job : OutboxJob) :
    Stage → DeliveryStep → Option Progress
  | .claimed, .read reads =>
    let decided := decideEffect system.gate job system.command workerId
      (reads.effectReads system.command path)
    some { path, phase := .goOn job (decided.map Decided.stage) }
  | .cleared effect context now, .authorize fencedAt writtenAt =>
    let fenced := lockFence row path job system.command workerId fencedAt
    match recordEffectAuthorization system.server fenced writtenAt path job system.command effect
        context workerId (job.retryMode = .reconcileOnly) with
    | .error e => some { path, phase := .goOn job (.error e) }
    | .ok changed => some { path := changed, phase := .working job (.authorized effect now) }
  | .authorized effect now, .send =>
    let begun := beginEffect job system.command workerId now effect
    some {
      path
      phase := .goOn job (begun.map (Begun.stage effect now))
      asked := system.asked begun }
  | .sent effect now, .answer create =>
    let settled := create.bind fun outcome =>
      settleCreate job system.command workerId now effect outcome
    some {
      path
      phase := .goOn job (settled.map (answered effect now))
      asked := match settled with
        | .ok none => some system.lookupCall
        | _ => none }
  | .lookingUp effect now, .lookup found =>
    let result := found.bind fun lookup =>
      reconcile job system.command workerId now effect lookup
    some { path, phase := .goOn job (result.map .finished) }
  | .finished result, .persist fencedAt writtenAt =>
    let fenced := lockFence row path job system.command (job.leaseOwner.getD "") fencedAt
    match persistResult system.server fenced writtenAt path result with
    | .error e => some { path, phase := .goOn job (.error e) }
    | .ok changed => some { path := changed, phase := .working job (.persisted result) }
  | .persisted result, .report => some { path, phase := .settling result.handlerResult }
  | _, .fail e => some { path, phase := .goOn job (.error e) }
  | _, _ => none

/-! ## The machine -/

/-- Put a delivery down. -/
def setDelivery (delivery : Nat → Option Delivery) (version : Nat) (d : Delivery) :
    Nat → Option Delivery :=
  fun w => if w = version then some d else delivery w

/-- `claim_batch`, as far as this row is concerned, and the start of its handler. -/
def claim (job : CreateJob) (terms : ClaimTerms) (now : Timestamp) :
    Except ControlPlaneError CreateJob := do
  terms.check
  raiseIf (job.row.claimable now = false) (.invalidValue "the row is not due")
  let expiresAt ← liftDomain (shift now terms.leaseDuration)
  let row := job.row.claimed terms now expiresAt
  if row.status = .inProgress then
    match row.claimedCommand with
    | .error _ => return { job with row }
    | .ok claim =>
      return {
        job with
        row
        delivery := setDelivery job.delivery row.deliveryVersion
          ⟨claim, opening system.command claim.toClaimFields⟩ }
  else return { job with row }

/-- What a settlement leaves of the row; a fence that is lost leaves it as it was. -/
def settledRow (row : OutboxRow) (claim : ClaimFields) (now : Timestamp)
    (result : HandlerResult) : OutboxRow :=
  match row.settle system.backoff claim now result with
  | .ok settled => settled
  | .error _ => row

/-- One step; a delivery that is not there, or not at that stage, takes none. -/
def exec (job : CreateJob) :
    CreateCommand → Except ControlPlaneError (CreateJob × Option ProviderCall)
  | .claim terms now => (system.claim job terms now).map fun claimed => (claimed, none)
  | .deliver version step =>
    match job.delivery version with
    | some ⟨claim, .working outboxJob stage⟩ =>
      match system.advance job.row job.path claim.workerId outboxJob stage step with
      | some progress =>
        .ok ({
          job with
          path := progress.path
          delivery := setDelivery job.delivery version ⟨claim, progress.phase⟩ },
          progress.asked)
      | none => .error (.invalidValue "the delivery is at another stage")
    | _ => .error (.invalidValue "no delivery is at work")
  | .settle version now =>
    match job.delivery version with
    | some ⟨claim, .settling result⟩ =>
      .ok ({
        job with
        row := system.settledRow job.row claim.toClaimFields now result
        delivery := setDelivery job.delivery version ⟨claim, .closed⟩ },
        none)
    | _ => .error (.invalidValue "no delivery is to be settled")

def machine : Machine CreateJob CreateCommand (Option ProviderCall) ControlPlaneError :=
  ⟨system.exec⟩

/-! ## What a step can do -/

/-- The steps of a handler, by what has returned; `failed` is any exception. -/
inductive Advances (row : OutboxRow) (path : EffectPath) (workerId : String) (job : OutboxJob) :
    Stage → DeliveryStep → Progress → Prop
  | failed {stage : Stage} {step : DeliveryStep} (error : ControlPlaneError) :
      Advances row path workerId job stage step ⟨path, .settling (handlerFailure error), none⟩
  | decided {reads : DeliveryReads} {decided : Decided}
      (h : decideEffect system.gate job system.command workerId
        (reads.effectReads system.command path) = .ok decided) :
      Advances row path workerId job .claimed (.read reads)
        ⟨path, .working job decided.stage, none⟩
  | recorded {effect : GateDecision} {context : GateContext} {now fencedAt writtenAt : Timestamp}
      {changed : EffectPath}
      (h : recordEffectAuthorization system.server
        (lockFence row path job system.command workerId fencedAt) writtenAt path job system.command
        effect context workerId (job.retryMode = .reconcileOnly) = .ok changed) :
      Advances row path workerId job (.cleared effect context now) (.authorize fencedAt writtenAt)
        ⟨changed, .working job (.authorized effect now), none⟩
  | begun {effect : GateDecision} {now : Timestamp} {begun : Begun}
      (h : beginEffect job system.command workerId now effect = .ok begun) :
      Advances row path workerId job (.authorized effect now) .send
        ⟨path, .working job (begun.stage effect now), system.asked (.ok begun)⟩
  | settled {effect : GateDecision} {now : Timestamp} {create : ProviderCreateOutcome}
      {result : ExecutionResult}
      (h : settleCreate job system.command workerId now effect create = .ok (some result)) :
      Advances row path workerId job (.sent effect now) (.answer (.ok create))
        ⟨path, .working job (.finished result), none⟩
  | ambiguous {effect : GateDecision} {now : Timestamp} {create : ProviderCreateOutcome} :
      Advances row path workerId job (.sent effect now) (.answer (.ok create))
        ⟨path, .working job (.lookingUp effect now), some system.lookupCall⟩
  | reconciled {effect : GateDecision} {now : Timestamp} {found : PaymentLinkLookupResult}
      {result : ExecutionResult}
      (h : reconcile job system.command workerId now effect found = .ok result) :
      Advances row path workerId job (.lookingUp effect now) (.lookup (.ok found))
        ⟨path, .working job (.finished result), none⟩
  | persisted {result : ExecutionResult} {fencedAt writtenAt : Timestamp} {changed : EffectPath}
      (h : persistResult system.server
        (lockFence row path job system.command (job.leaseOwner.getD "") fencedAt) writtenAt path
        result = .ok changed) :
      Advances row path workerId job (.finished result) (.persist fencedAt writtenAt)
        ⟨changed, .working job (.persisted result), none⟩
  | reported {result : ExecutionResult} :
      Advances row path workerId job (.persisted result) .report
        ⟨path, .settling result.handlerResult, none⟩

variable {system}

theorem advances_of_advance {row : OutboxRow} {path : EffectPath} {workerId : String}
    {job : OutboxJob} {stage : Stage} {step : DeliveryStep} {progress : Progress}
    (h : system.advance row path workerId job stage step = some progress) :
    system.Advances row path workerId job stage step progress := by
  unfold advance at h
  split at h
  next reads =>
    rw [← Option.some.inj h]
    cases hcall : decideEffect system.gate job system.command workerId
      (reads.effectReads system.command path) with
    | error e => exact .failed e
    | ok decided => exact .decided hcall
  next effect context now fencedAt writtenAt =>
    dsimp only at h
    split at h
    next e hcall =>
      rw [← Option.some.inj h]
      exact .failed e
    next changed hcall =>
      rw [← Option.some.inj h]
      exact .recorded hcall
  next effect now =>
    rw [← Option.some.inj h]
    cases hcall : beginEffect job system.command workerId now effect with
    | error e => exact .failed e
    | ok begun => exact .begun hcall
  next effect now create =>
    rw [← Option.some.inj h]
    cases create with
    | error e => exact .failed e
    | ok create =>
      cases hcall : settleCreate job system.command workerId now effect create with
      | error e =>
        simp only [Except.bind, hcall]
        exact .failed e
      | ok settled =>
        simp only [Except.bind, hcall]
        cases settled with
        | none => exact .ambiguous
        | some result => exact .settled hcall
  next effect now found =>
    rw [← Option.some.inj h]
    cases found with
    | error e => exact .failed e
    | ok found =>
      cases hcall : reconcile job system.command workerId now effect found with
      | error e =>
        simp only [Except.bind, hcall]
        exact .failed e
      | ok result =>
        simp only [Except.bind, hcall]
        exact .reconciled hcall
  next result fencedAt writtenAt =>
    dsimp only at h
    split at h
    next e hcall =>
      rw [← Option.some.inj h]
      exact .failed e
    next changed hcall =>
      rw [← Option.some.inj h]
      exact .persisted hcall
  next result =>
    rw [← Option.some.inj h]
    exact .reported
  next e =>
    rw [← Option.some.inj h]
    exact .failed e
  next => exact absurd h (by simp)

/-! ## Steps that return -/

section

variable (system) {row : OutboxRow} {path changed : EffectPath} {workerId : String} {job : OutboxJob}
  {effect : GateDecision} {now : Timestamp} {result : ExecutionResult}

theorem advance_read {reads : DeliveryReads} {decided : Decided}
    (h : decideEffect system.gate job system.command workerId
      (reads.effectReads system.command path) = .ok decided) :
    system.advance row path workerId job .claimed (.read reads) =
      some ⟨path, .working job decided.stage, none⟩ := by
  unfold advance
  dsimp only
  rw [h]
  rfl

theorem advance_authorize {context : GateContext} {fencedAt writtenAt : Timestamp}
    (hfence : lockFence row path job system.command workerId fencedAt = true)
    (h : recordEffectAuthorization system.server true writtenAt path job system.command effect
      context workerId (job.retryMode = .reconcileOnly) = .ok changed) :
    system.advance row path workerId job (.cleared effect context now)
        (.authorize fencedAt writtenAt) =
      some ⟨changed, .working job (.authorized effect now), none⟩ := by
  unfold advance
  dsimp only
  rw [hfence, h]

theorem advance_send {begun : Begun}
    (h : beginEffect job system.command workerId now effect = .ok begun) :
    system.advance row path workerId job (.authorized effect now) .send =
      some ⟨path, .working job (begun.stage effect now), system.asked (.ok begun)⟩ := by
  unfold advance
  dsimp only
  rw [h]
  rfl

theorem advance_answer {create : ProviderCreateOutcome}
    (h : settleCreate job system.command workerId now effect create = .ok (some result)) :
    system.advance row path workerId job (.sent effect now) (.answer (.ok create)) =
      some ⟨path, .working job (.finished result), none⟩ := by
  unfold advance
  dsimp only [Except.bind]
  rw [h]
  rfl

theorem advance_ambiguous {create : ProviderCreateOutcome}
    (h : settleCreate job system.command workerId now effect create = .ok none) :
    system.advance row path workerId job (.sent effect now) (.answer (.ok create)) =
      some ⟨path, .working job (.lookingUp effect now), some system.lookupCall⟩ := by
  unfold advance
  dsimp only [Except.bind]
  rw [h]
  rfl

theorem advance_lookup {found : PaymentLinkLookupResult}
    (h : reconcile job system.command workerId now effect found = .ok result) :
    system.advance row path workerId job (.lookingUp effect now) (.lookup (.ok found)) =
      some ⟨path, .working job (.finished result), none⟩ := by
  unfold advance
  dsimp only [Except.bind]
  rw [h]
  rfl

theorem advance_persist {fencedAt writtenAt : Timestamp}
    (hfence : lockFence row path job system.command (job.leaseOwner.getD "") fencedAt = true)
    (h : persistResult system.server true writtenAt path result = .ok changed) :
    system.advance row path workerId job (.finished result) (.persist fencedAt writtenAt) =
      some ⟨changed, .working job (.persisted result), none⟩ := by
  unfold advance
  dsimp only
  rw [hfence, h]

end

/-- A delivery at work that can take this step takes it. -/
theorem exec_deliver {job : CreateJob} {version : Nat} {step : DeliveryStep}
    {claim : ClaimedOutboxCommand} {outboxJob : OutboxJob} {stage : Stage} {progress : Progress}
    (hd : job.delivery version = some ⟨claim, .working outboxJob stage⟩)
    (h : system.advance job.row job.path claim.workerId outboxJob stage step = some progress) :
    system.machine.exec job (.deliver version step) =
      .ok ({
        job with
        path := progress.path
        delivery := setDelivery job.delivery version ⟨claim, progress.phase⟩ },
        progress.asked) := by
  simp only [machine, exec, hd, h]

/-- A step of the machine: a claim, with or without a delivery that comes of it, a
step of a delivery at work, or a settlement. -/
inductive Takes (s : Step CreateJob CreateCommand (Option ProviderCall)) : Prop
  | claimed (terms : ClaimTerms) (now expiresAt : Timestamp)
      (cmd : s.cmd = .claim terms now) (due : s.pre.row.claimable now = true)
      (row : s.post.row = s.pre.row.claimed terms now expiresAt)
      (path : s.post.path = s.pre.path) (quiet : s.out = none)
      (delivery : s.post.delivery = s.pre.delivery ∨ ∃ claim : ClaimedOutboxCommand,
        claim.retryMode = s.post.row.retryMode ∧
        claim.deliveryVersion = s.post.row.deliveryVersion ∧
        s.post.row.status = .inProgress ∧
        s.post.delivery = setDelivery s.pre.delivery s.post.row.deliveryVersion
          ⟨claim, opening system.command claim.toClaimFields⟩)
  | delivered (version : Nat) (step : DeliveryStep) (claim : ClaimedOutboxCommand)
      (job : OutboxJob) (stage : Stage) (progress : Progress)
      (cmd : s.cmd = .deliver version step)
      (pre : s.pre.delivery version = some ⟨claim, .working job stage⟩)
      (advances : system.Advances s.pre.row s.pre.path claim.workerId job stage step progress)
      (row : s.post.row = s.pre.row) (path : s.post.path = progress.path)
      (asked : s.out = progress.asked)
      (delivery : s.post.delivery = setDelivery s.pre.delivery version ⟨claim, progress.phase⟩)
  | settled (version : Nat) (now : Timestamp) (claim : ClaimedOutboxCommand)
      (result : HandlerResult) (cmd : s.cmd = .settle version now)
      (pre : s.pre.delivery version = some ⟨claim, .settling result⟩)
      (row : s.post.row = system.settledRow s.pre.row claim.toClaimFields now result)
      (path : s.post.path = s.pre.path) (quiet : s.out = none)
      (delivery : s.post.delivery = setDelivery s.pre.delivery version ⟨claim, .closed⟩)

theorem takes_of_exec {s : Step CreateJob CreateCommand (Option ProviderCall)}
    (h : system.machine.Takes s) : system.Takes s := by
  obtain ⟨pre, cmd, post, out⟩ := s
  have h : system.exec pre cmd = .ok (post, out) := h
  cases cmd with
  | claim terms now =>
    obtain ⟨claimed, hclaimed, hout⟩ := map_ok_iff.mp h
    obtain ⟨rfl, rfl⟩ := Prod.mk.inj hout
    obtain ⟨_, -, hclaimed⟩ := bind_ok_iff.mp hclaimed
    obtain ⟨_, hdue, hclaimed⟩ := bind_ok_iff.mp hclaimed
    obtain ⟨expiresAt, -, hclaimed⟩ := bind_ok_iff.mp hclaimed
    have hdue : pre.row.claimable now = true := by simpa using hdue
    dsimp only at hclaimed
    split_ifs at hclaimed with hstatus
    · cases hcommand : (pre.row.claimed terms now expiresAt).claimedCommand with
      | error e =>
        simp only [hcommand, pure_ok_iff] at hclaimed
        rw [← hclaimed]
        exact .claimed terms now expiresAt rfl hdue rfl rfl rfl (.inl rfl)
      | ok claim =>
        simp only [hcommand, pure_ok_iff] at hclaimed
        obtain ⟨hmode, hversion⟩ := claimedCommand_ok hcommand
        rw [← hclaimed]
        exact .claimed terms now expiresAt rfl hdue rfl rfl rfl
          (.inr ⟨claim, hmode, hversion, hstatus, rfl⟩)
    · rw [← pure_ok_iff.mp hclaimed]
      exact .claimed terms now expiresAt rfl hdue rfl rfl rfl (.inl rfl)
  | deliver version step =>
    unfold exec at h
    dsimp only at h
    split at h
    next claim job stage hpre =>
      split at h
      next progress hadvance =>
        obtain ⟨rfl, rfl⟩ := Prod.mk.inj (Except.ok.inj h)
        exact .delivered version step claim job stage progress rfl hpre
          (advances_of_advance hadvance) rfl rfl rfl rfl
      next => exact absurd h (by simp)
    next => exact absurd h (by simp)
  | settle version now =>
    unfold exec at h
    dsimp only at h
    split at h
    next claim result hpre =>
      obtain ⟨rfl, rfl⟩ := Prod.mk.inj (Except.ok.inj h)
      exact .settled version now claim result rfl hpre rfl rfl rfl rfl
    next => exact absurd h (by simp)

end CreateSystem

end

/-- A job as the assessment leaves it: the row is new, and the action queued. -/
structure CreateJob.Fresh (job : CreateJob) : Prop where
  pending : job.row.status = .pending
  unattempted : job.row.attemptCount = 0
  version : job.row.deliveryVersion = 0
  mode : job.row.retryMode = .normal
  staged : job.path.Staged
  queued : job.path.action.status = .queued
  undelivered : ∀ version, job.delivery version = none

end Retrywise.ControlPlane
