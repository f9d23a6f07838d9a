import Retrywise.ControlPlane.PaymentLinks
import Retrywise.ControlPlane.Outbox
import Retrywise.Domain.Evaluation

/-!
# The create executor

`executor.py`: one delivery of a create command. The executor reads the durable
intent and a fresh context, asks the gate, has the authorization recorded, and
only then calls the provider, at most once to create.

`execute` is cut where the outside world gets a turn, so that a delivery can be
run in one go (`execute`) or phase by phase between other deliveries:

* `decideEffect`, up to the gate's decision;
* `beginEffect`, after the authorization is recorded: create, look up, or refuse;
* `settleCreate`, on the provider's answer to a create;
* `reconcile`, on the result of a lookup.

> `create_mem_execute_iff`: the provider is asked to create exactly when the gate
> allowed the effect, the authorization was recorded, the delivery may create and
> the request has not run out of time.
-/

namespace Retrywise.ControlPlane

open Retrywise.Foundation Retrywise.Domain

/-! ## The command and its durable intent -/

structure CommandFields where
  proposal : ActionProposal
  priorPlan : GateDecision
  request : StandardPaymentLinkRequest
  providerAccountId : String

/-- `CreatePaymentLinkCommand.__post_init__`. -/
def CommandFields.postInit (c : CommandFields) : Except ControlPlaneError Unit :=
  requireText c.providerAccountId "provider_account_id" 128

/-- The complete effect behind an outbox row. -/
structure CreatePaymentLinkCommand extends CommandFields where
  valid : toCommandFields.postInit = .ok ()

section

variable [Hashlib]

def CommandFields.payloadDigest (c : CommandFields) : String :=
  sha256Json (.obj [
    ("action_key", .str c.proposal.actionKey),
    ("merchant_id", .str c.proposal.merchantId),
    ("prior_plan_digest", .str c.priorPlan.decisionDigest),
    ("proposal_digest", .str c.proposal.proposalDigest),
    ("provider_account_id", .str c.providerAccountId),
    ("reference_id", .str c.request.referenceId),
    ("request_digest", .str c.request.requestDigest),
    ("schema", .str "retrywise-create-payment-link-command-v1")])

end

structure IntentFields where
  actionKey : String
  merchantId : String
  providerAccountId : String
  proposalDigest : String
  priorPlanDigest : String
  requestDigest : String
  payloadDigest : String
  referenceId : String
  recordedAt : Timestamp
  schemaVersion : Nat := 1

/-- `DurableActionIntent.__post_init__`. -/
def IntentFields.postInit (i : IntentFields) : Except ControlPlaneError Unit := do
  requireText i.actionKey "action_key" 128
  requireText i.merchantId "merchant_id" 128
  requireText i.providerAccountId "provider_account_id" 128
  requireText i.referenceId "reference_id" 40
  raiseIf (¬isDigest i.proposalDigest)
    (.invalidValue "proposal_digest must be a lowercase SHA-256 digest")
  raiseIf (¬isDigest i.priorPlanDigest)
    (.invalidValue "prior_plan_digest must be a lowercase SHA-256 digest")
  raiseIf (¬isDigest i.requestDigest)
    (.invalidValue "request_digest must be a lowercase SHA-256 digest")
  raiseIf (¬isDigest i.payloadDigest)
    (.invalidValue "payload_digest must be a lowercase SHA-256 digest")
  raiseIf (i.schemaVersion ≠ 1) (.invalidValue "unsupported durable intent schema_version")

/-- What must be on record before an external effect. -/
structure DurableActionIntent extends IntentFields where
  valid : toIntentFields.postInit = .ok ()

section

variable [Hashlib]

/-- `DurableActionIntent.record`, the fields. -/
def CommandFields.intentFields (c : CommandFields) (recordedAt : Timestamp) : IntentFields where
  actionKey := c.proposal.actionKey
  merchantId := c.proposal.merchantId
  providerAccountId := c.providerAccountId
  proposalDigest := c.proposal.proposalDigest
  priorPlanDigest := c.priorPlan.decisionDigest
  requestDigest := c.request.requestDigest
  payloadDigest := c.payloadDigest
  referenceId := c.request.referenceId
  recordedAt := recordedAt

/-- `DurableActionIntent.matches`. -/
def IntentFields.matchesCommand (i : IntentFields) (c : CommandFields) : Bool :=
  i.actionKey = c.proposal.actionKey && i.merchantId = c.proposal.merchantId &&
    i.providerAccountId = c.providerAccountId &&
    i.proposalDigest = c.proposal.proposalDigest &&
    i.priorPlanDigest = c.priorPlan.decisionDigest &&
    i.requestDigest = c.request.requestDigest && i.payloadDigest = c.payloadDigest &&
    i.referenceId = c.request.referenceId

/-- A recorded intent matches the command it was recorded for. -/
theorem matchesCommand_intentFields (c : CommandFields) (recordedAt : Timestamp) :
    (c.intentFields recordedAt).matchesCommand c = true := by
  simp [IntentFields.matchesCommand, CommandFields.intentFields]

end

/-! ## The provider's answers -/

inductive ProviderCreateStatus where
  | certainSuccess | certainFailure | ambiguous
deriving DecidableEq, Repr

structure OutcomeFields where
  status : ProviderCreateStatus
  reasonCode : String
  paymentLinkId : Option String := none

/-- `ProviderCreateOutcome.__post_init__`. -/
def OutcomeFields.postInit (o : OutcomeFields) : Except ControlPlaneError Unit := do
  requireText o.reasonCode "reason_code" 256
  if o.status = .certainSuccess then
    match o.paymentLinkId with
    | none => .error (.invalidValue "certain success requires payment_link_id")
    | some id => requireText id "payment_link_id" 128
  else
    raiseIf (o.paymentLinkId ≠ none)
      (.invalidValue "only certain success may carry payment_link_id")

/-- The adapter's classification of an answer; unknown means ambiguous. -/
structure ProviderCreateOutcome extends OutcomeFields where
  valid : toOutcomeFields.postInit = .ok ()

/-- What the executor asks the provider. -/
inductive ProviderCall where
  | create (request : StandardPaymentLinkRequest) (providerAccountId : String)
  | lookup (referenceId providerAccountId : String)

structure PaymentLinkProvider where
  createStandardPaymentLink :
    StandardPaymentLinkRequest → String → Except ControlPlaneError ProviderCreateOutcome
  lookupPaymentLinks : String → String → Except ControlPlaneError PaymentLinkLookupResult

/-! ## Results -/

inductive ExecutionDisposition where
  | created | adopted | suppressed | requeued | requeryRequired | escalated | deadLetter
deriving DecidableEq, Repr

structure ExecutionResult where
  disposition : ExecutionDisposition
  job : OutboxJob
  effectDecision : GateDecision
  reasonCode : String
  referenceId : String
  paymentLinkId : Option String := none

/-- The reasons no fresh fact can mend. -/
def authorizationFaults : List GateReason :=
  [.planAuthorizationMissing, .planBindingMismatch, .durableIntentMissing]

section

variable [Hashlib] (gate : DeterministicGate) (job : OutboxJob)
  (command : CreatePaymentLinkCommand) (workerId : String) (now : Timestamp)
  (effect : GateDecision)

/-- `_binding_failure`. -/
def bindingFailure (intent : Option DurableActionIntent) : Option String :=
  if job.actionKey ≠ command.proposal.actionKey then some "job_action_key_mismatch"
  else if job.payloadDigest ≠ command.payloadDigest then some "job_payload_digest_mismatch"
  else if command.proposal.actionType ≠ .createStandardPaymentLink then
    some "proposal_action_type_mismatch"
  else
    match command.proposal.amount with
    | none => some "proposal_amount_missing"
    | some amount =>
      if amount.minorUnits ≠ command.request.amountMinor then
        some "proposal_request_amount_mismatch"
      else if amount.currency ≠ command.request.currency then
        some "proposal_request_currency_mismatch"
      else
        match intent with
        | none => some "durable_intent_missing"
        | some intent =>
          if intent.matchesCommand command.toCommandFields then none
          else some "durable_intent_command_mismatch"

omit [Hashlib] in
/-- The result of a delivery that ends with this job. -/
def resultOf (disposition : ExecutionDisposition) (reason : String) (ended : OutboxJob)
    (paymentLinkId : Option String := none) : ExecutionResult where
  disposition := disposition
  job := ended
  effectDecision := effect
  reasonCode := reason
  referenceId := command.request.referenceId
  paymentLinkId := paymentLinkId

omit [Hashlib] in
/-- `_requeue`; an exhausted job turns the disposition into `deadLetter`. -/
def requeue (reason : String) (mode : RetryMode) (disposition : ExecutionDisposition)
    (backoff : BackoffPolicy := {}) : Except ControlPlaneError ExecutionResult := do
  let updated ← job.requeue workerId job.tokenOrMissing now job.version reason backoff mode
  let final := if updated.state = .deadLetter then .deadLetter else disposition
  return resultOf command effect final reason updated

/-- `_suppress`. -/
def suppress (reason : String) : Except ControlPlaneError ExecutionResult := do
  let completed ← job.complete workerId job.tokenOrMissing now job.version
    s!"suppressed_{effect.decisionDigest}"
  return resultOf command effect .suppressed reason completed

omit [Hashlib] in
/-- `_escalate`. -/
def escalate (reason : String) : Except ControlPlaneError ExecutionResult := do
  let dead ← job.deadLetter workerId job.tokenOrMissing now job.version reason
  return resultOf command effect .escalated reason dead

/-! ## Up to the decision -/

omit [Hashlib] in
/-- `replace(fresh_context, evaluated_at=.., durable_intent_recorded=..)`. -/
def refreshContext (context : GateContext) (evaluatedAt : Timestamp)
    (durableIntentRecorded : Bool) : GateContext where
  toGateContextFields := { context.toGateContextFields with evaluatedAt, durableIntentRecorded }
  valid := context.valid

/-- What a delivery reads before it decides, and its clock before and after. -/
structure EffectReads where
  startedAt : Timestamp
  intent : Except ControlPlaneError (Option DurableActionIntent)
  context : Except ControlPlaneError GateContext
  decidedAt : Timestamp

inductive Decided where
  | finished (result : ExecutionResult)
  | cleared (effect : GateDecision) (context : GateContext) (now : Timestamp)

/-- What an effect the gate denies ends as. -/
def denied : Except ControlPlaneError ExecutionResult :=
  let reasonValues := String.intercalate "," (effect.reasons.map GateReason.value)
  if effect.reasons.any fun reason => reason ∈ authorizationFaults then
    escalate job command workerId now effect s!"effect_authorization_fault:{reasonValues}"
  else if .paymentTruthNotUnpaid ∈ effect.reasons then
    suppress job command workerId now effect "fresh_payment_truth_blocks_collection"
  else
    suppress job command workerId now effect s!"effect_gate_denied:{reasonValues}"

/-- `execute`, up to the gate's decision. The lease is looked at before the reads
and again after them, and it is the time after them the gate decides at. -/
def decideEffect (reads : EffectReads) : Except ControlPlaneError Decided := do
  job.assertActiveLease workerId job.tokenOrMissing reads.startedAt
  let intent ← reads.intent
  let failure := bindingFailure job command intent
  let fresh ← reads.context
  let now := reads.decidedAt
  job.assertActiveLease workerId job.tokenOrMissing now
  let context := refreshContext fresh now (intent.isSome && failure.isNone)
  let effect ← liftDomain (gate.evaluateEffect command.proposal context (some command.priorPlan))
  match failure with
  | some failure =>
    (escalate job command workerId now effect s!"binding_failure:{failure}").map .finished
  | none =>
    if effect.allowed then .ok (.cleared effect context now)
    else (denied job command workerId now effect).map .finished

/-! ## From the authorization on -/

/-- Where a delivery goes once its authorization is recorded. -/
inductive Begun where
  | create
  | reconcile
  | refused (result : ExecutionResult)

omit [Hashlib] in
/-- A delivery that may only reconcile looks up; any other creates, unless the
request has run out of time. -/
def beginEffect : Except ControlPlaneError Begun :=
  if job.retryMode = .reconcileOnly then .ok .reconcile
  else
    match command.request.validateExpiry now with
    | .ok () => .ok .create
    | .error (.paymentLink message) =>
      (escalate job command workerId now effect s!"request_not_effect_safe:{message}").map .refused
    | .error e => .error e

omit [Hashlib] in
/-- On the provider's answer; nothing is settled by an ambiguous one. -/
def settleCreate (create : ProviderCreateOutcome) (backoff : BackoffPolicy := {}) :
    Except ControlPlaneError (Option ExecutionResult) :=
  match create.status with
  | .certainSuccess =>
    match create.paymentLinkId with
    | none => .error (.invalidValue "certain success has no payment_link_id")
    | some id => do
      let completed ← job.complete workerId job.tokenOrMissing now job.version id
      return some (resultOf command effect .created create.reasonCode completed (some id))
  | .certainFailure =>
    (requeue job command workerId now effect s!"certain_failure:{create.reasonCode}"
      .retrySameEffect .requeued backoff).map some
  | .ambiguous => .ok none

omit [Hashlib] in
/-- `_reconcile`, on the result of the lookup. -/
def reconcile (lookup : PaymentLinkLookupResult) (backoff : BackoffPolicy := {}) :
    Except ControlPlaneError ExecutionResult :=
  let decision := decideAmbiguousCreate command.request.toRequestFields lookup
  match decision.action with
  | .adoptExisting =>
    match decision.paymentLinkId with
    | none => .error (.invalidValue "adoption decision has no payment_link_id")
    | some id => do
      let completed ← job.complete workerId job.tokenOrMissing now job.version id
      return resultOf command effect .adopted decision.reasonCode completed (some id)
  | .retryCreateSameReference =>
    requeue job command workerId now effect decision.reasonCode .retrySameEffect .requeued backoff
  | .requery =>
    requeue job command workerId now effect decision.reasonCode .reconcileOnly .requeryRequired
      backoff
  | .escalate =>
    escalate job command workerId now effect s!"ambiguous_create_conflict:{decision.reasonCode}"

/-! ## One delivery in one go -/

/-- What a delivery asked of the provider, and how it ended. -/
structure Execution where
  calls : List ProviderCall
  outcome : Except ControlPlaneError ExecutionResult

omit [Hashlib] in
/-- Look up, after the calls made so far. -/
def lookUp (provider : PaymentLinkProvider) (calls : List ProviderCall)
    (backoff : BackoffPolicy := {}) : Execution where
  calls := calls ++ [.lookup command.request.referenceId command.providerAccountId]
  outcome := do
    let lookup ← provider.lookupPaymentLinks command.request.referenceId command.providerAccountId
    reconcile job command workerId now effect lookup backoff

omit [Hashlib] in
/-- The part of `execute` behind the recorded authorization. -/
def carryOut (provider : PaymentLinkProvider) (backoff : BackoffPolicy := {}) : Execution :=
  match beginEffect job command workerId now effect with
  | .error e => ⟨[], .error e⟩
  | .ok (.refused result) => ⟨[], .ok result⟩
  | .ok .reconcile => lookUp job command workerId now effect provider [] backoff
  | .ok .create =>
    let calls := [.create command.request command.providerAccountId]
    match provider.createStandardPaymentLink command.request command.providerAccountId with
    | .error e => ⟨calls, .error e⟩
    | .ok create =>
      match settleCreate job command workerId now effect create backoff with
      | .error e => ⟨calls, .error e⟩
      | .ok (some result) => ⟨calls, .ok result⟩
      | .ok none => lookUp job command workerId now effect provider calls backoff

/-- `CreatePaymentLinkExecutor.execute`, with the recorder of authorizations. -/
def execute (provider : PaymentLinkProvider)
    (recordEffectAuthorization : GateDecision → GateContext → Except ControlPlaneError Unit)
    (reads : EffectReads) (backoff : BackoffPolicy := {}) : Execution :=
  match decideEffect gate job command workerId reads with
  | .error e => ⟨[], .error e⟩
  | .ok (.finished result) => ⟨[], .ok result⟩
  | .ok (.cleared effect context now) =>
    match recordEffectAuthorization effect context with
    | .error e => ⟨[], .error e⟩
    | .ok () => carryOut job command workerId now effect provider backoff

end

/-! ## What the phases establish -/

section

variable [Hashlib] {gate : DeterministicGate} {job : OutboxJob}
  {command : CreatePaymentLinkCommand} {workerId : String} {now : Timestamp}
  {effect : GateDecision}

/-- Where nothing fails to bind, the proposal is to create, and the intent is there
and matches. -/
theorem matches_of_bindingFailure_none {intent : Option DurableActionIntent}
    (h : bindingFailure job command intent = none) :
    command.proposal.actionType = .createStandardPaymentLink ∧
      ∃ recorded, intent = some recorded ∧
        recorded.matchesCommand command.toCommandFields = true := by
  unfold bindingFailure at h
  split_ifs at h with _ _ hcreate
  refine ⟨not_not.mp hcreate, ?_⟩
  split at h
  next => exact absurd h (by simp)
  next amount hamount =>
    split_ifs at h
    split at h
    next => exact absurd h (by simp)
    next recorded =>
      by_cases hmatch : recorded.matchesCommand command.toCommandFields = true
      · exact ⟨recorded, rfl, hmatch⟩
      · rw [if_neg hmatch] at h
        exact absurd h (by simp)

/-- What a cleared delivery has established: its lease held before and after the
reads, the intent matches, and the gate allowed the effect at the second time. -/
theorem decideEffect_cleared {reads : EffectReads} {context : GateContext}
    (h : decideEffect gate job command workerId reads = .ok (.cleared effect context now)) :
    now = reads.decidedAt ∧ effect.allowed = true ∧
      (∃ intent, reads.intent = .ok (some intent) ∧
        intent.matchesCommand command.toCommandFields = true) ∧
      (∃ fresh, reads.context = .ok fresh ∧ context = refreshContext fresh now true) ∧
      gate.evaluateEffect command.proposal context (some command.priorPlan) = .ok effect ∧
      command.proposal.actionType = .createStandardPaymentLink := by
  unfold decideEffect at h
  obtain ⟨-, -, h⟩ := bind_ok_iff.mp h
  obtain ⟨intent, hintent, h⟩ := bind_ok_iff.mp h
  obtain ⟨fresh, hfresh, h⟩ := bind_ok_iff.mp h
  obtain ⟨-, -, h⟩ := bind_ok_iff.mp h
  obtain ⟨verdict, hverdict, h⟩ := bind_ok_iff.mp h
  cases hfailure : bindingFailure job command intent with
  | some failure =>
    rw [hfailure] at h
    obtain ⟨_, -, h⟩ := map_ok_iff.mp h
    exact absurd h (by simp)
  | none =>
    rw [hfailure] at h hverdict
    by_cases hallowed : verdict.allowed = true
    · rw [if_pos hallowed] at h
      obtain ⟨hcreate, recorded, hrecorded, hmatch⟩ := matches_of_bindingFailure_none hfailure
      have hasked := liftDomain_ok_iff.mp hverdict
      obtain ⟨heffect, hcontext, hnow⟩ := Decided.cleared.inj (Except.ok.inj h)
      have hfresh' : context = refreshContext fresh now true := by
        rw [← hcontext, ← hnow, hrecorded]
        rfl
      refine ⟨hnow.symm, heffect ▸ hallowed, ⟨recorded, hrecorded ▸ hintent, hmatch⟩,
        ⟨fresh, hfresh, hfresh'⟩, ?_, hcreate⟩
      rw [← hcontext, ← heffect]
      exact hasked
    · rw [if_neg hallowed] at h
      obtain ⟨_, -, h⟩ := map_ok_iff.mp h
      exact absurd h (by simp)

omit [Hashlib] in
theorem escalate_ok {reason : String} {result : ExecutionResult}
    (h : escalate job command workerId now effect reason = .ok result) :
    result.disposition = .escalated ∧ result.effectDecision = effect := by
  obtain ⟨dead, -, h⟩ := bind_ok_iff.mp h
  rw [← pure_ok_iff.mp h]
  exact ⟨rfl, rfl⟩

theorem suppress_ok {reason : String} {result : ExecutionResult}
    (h : suppress job command workerId now effect reason = .ok result) :
    result.disposition = .suppressed ∧ result.effectDecision = effect := by
  obtain ⟨completed, -, h⟩ := bind_ok_iff.mp h
  rw [← pure_ok_iff.mp h]
  exact ⟨rfl, rfl⟩

omit [Hashlib] in
/-- A requeue ends as it was meant to, in the mode it was given, or dead-letters. -/
theorem requeue_ok {reason : String} {mode : RetryMode} {disposition : ExecutionDisposition}
    {backoff : BackoffPolicy} {result : ExecutionResult}
    (h : requeue job command workerId now effect reason mode disposition backoff = .ok result) :
    result.effectDecision = effect ∧ result.job.retryMode = mode ∧
      (result.disposition = disposition ∨ result.disposition = .deadLetter) := by
  obtain ⟨updated, hupdated, h⟩ := bind_ok_iff.mp h
  rw [← pure_ok_iff.mp h]
  refine ⟨rfl, (OutboxJob.requeue_ok hupdated).1, ?_⟩
  by_cases hdead : updated.state = .deadLetter
  · right
    simp [resultOf, hdead]
  · left
    simp [resultOf, hdead]

/-- A delivery that is over before its authorization was escalated or suppressed. -/
theorem decideEffect_finished {reads : EffectReads} {result : ExecutionResult}
    (h : decideEffect gate job command workerId reads = .ok (.finished result)) :
    result.disposition = .escalated ∨ result.disposition = .suppressed := by
  unfold decideEffect at h
  obtain ⟨-, -, h⟩ := bind_ok_iff.mp h
  obtain ⟨intent, hintent, h⟩ := bind_ok_iff.mp h
  obtain ⟨fresh, hfresh, h⟩ := bind_ok_iff.mp h
  obtain ⟨-, -, h⟩ := bind_ok_iff.mp h
  obtain ⟨verdict, hverdict, h⟩ := bind_ok_iff.mp h
  cases hfailure : bindingFailure job command intent with
  | some failure =>
    rw [hfailure] at h
    obtain ⟨ended, hended, h⟩ := map_ok_iff.mp h
    obtain rfl := Decided.finished.inj h
    exact .inl (escalate_ok hended).1
  | none =>
    rw [hfailure] at h
    by_cases hallowed : verdict.allowed = true
    · rw [if_pos hallowed] at h
      exact absurd (Except.ok.inj h) (by simp)
    · rw [if_neg hallowed] at h
      obtain ⟨ended, hended, h⟩ := map_ok_iff.mp h
      obtain rfl := Decided.finished.inj h
      unfold denied at hended
      dsimp only at hended
      split_ifs at hended
      · exact .inl (escalate_ok hended).1
      · exact .inr (suppress_ok hended).1
      · exact .inr (suppress_ok hended).1

omit [Hashlib] in
/-- Only a delivery that may create creates. -/
theorem beginEffect_create_iff :
    beginEffect job command workerId now effect = .ok .create ↔
      job.retryMode ≠ .reconcileOnly ∧ command.request.validateExpiry now = .ok () := by
  unfold beginEffect
  by_cases hmode : job.retryMode = .reconcileOnly
  · rw [if_pos hmode]
    exact ⟨fun h => absurd (Except.ok.inj h) (by simp), fun h => absurd hmode h.1⟩
  · rw [if_neg hmode]
    split
    next hexpiry => exact ⟨fun _ => ⟨hmode, hexpiry⟩, fun _ => rfl⟩
    next message hexpiry =>
      refine ⟨fun h => ?_, fun h => absurd (hexpiry.symm.trans h.2) (by simp)⟩
      obtain ⟨_, -, h⟩ := map_ok_iff.mp h
      exact absurd h (by simp)
    next e _ hexpiry =>
      exact ⟨fun h => absurd h (by simp), fun h => absurd (hexpiry.symm.trans h.2) (by simp)⟩

omit [Hashlib] in
/-- Behind the authorization, a delivery that may only reconcile looks up. -/
theorem beginEffect_of_reconcileOnly (hmode : job.retryMode = .reconcileOnly) :
    beginEffect job command workerId now effect = .ok .reconcile := if_pos hmode

omit [Hashlib] in
theorem beginEffect_reconcile
    (h : beginEffect job command workerId now effect = .ok .reconcile) :
    job.retryMode = .reconcileOnly := by
  unfold beginEffect at h
  by_contra hmode
  rw [if_neg hmode] at h
  split at h
  next => exact absurd h (by simp)
  next =>
    obtain ⟨_, -, h⟩ := map_ok_iff.mp h
    exact absurd h (by simp)
  next => exact absurd h (by simp)

omit [Hashlib] in
/-- A request out of time is escalated. -/
theorem beginEffect_refused {result : ExecutionResult}
    (h : beginEffect job command workerId now effect = .ok (.refused result)) :
    result.disposition = .escalated ∧ result.effectDecision = effect := by
  unfold beginEffect at h
  by_cases hmode : job.retryMode = .reconcileOnly
  · rw [if_pos hmode] at h
    exact absurd (Except.ok.inj h) (by simp)
  · rw [if_neg hmode] at h
    split at h
    next => exact absurd h (by simp)
    next =>
      obtain ⟨ended, hended, h⟩ := map_ok_iff.mp h
      obtain rfl := Begun.refused.inj h
      exact escalate_ok hended
    next => exact absurd h (by simp)

omit [Hashlib] in
/-- A create that is settled succeeded for certain, or failed for certain. -/
theorem settleCreate_some {create : ProviderCreateOutcome} {backoff : BackoffPolicy}
    {result : ExecutionResult}
    (h : settleCreate job command workerId now effect create backoff = .ok (some result)) :
    result.effectDecision = effect ∧
      ((result.disposition = .created ∧ result.paymentLinkId ≠ none) ∨
        (create.status = .certainFailure ∧
          ((result.disposition = .requeued ∧ result.job.retryMode = .retrySameEffect) ∨
            result.disposition = .deadLetter))) := by
  unfold settleCreate at h
  cases hstatus : create.status with
  | certainSuccess =>
    simp only [hstatus] at h
    cases hid : create.paymentLinkId with
    | none =>
      rw [hid] at h
      exact absurd h (by simp)
    | some id =>
      rw [hid] at h
      obtain ⟨completed, -, h⟩ := bind_ok_iff.mp h
      obtain rfl := Option.some.inj (pure_ok_iff.mp h)
      exact ⟨rfl, .inl ⟨rfl, by simp [resultOf]⟩⟩
  | certainFailure =>
    simp only [hstatus] at h
    obtain ⟨requeued, hrequeued, h⟩ := map_ok_iff.mp h
    obtain rfl := Option.some.inj h
    obtain ⟨heffect, hmode, hend⟩ := requeue_ok hrequeued
    refine ⟨heffect, .inr ⟨rfl, ?_⟩⟩
    rcases hend with hend | hend
    · exact .inl ⟨hend, hmode⟩
    · exact .inr hend
  | ambiguous =>
    simp only [hstatus] at h
    exact absurd (Except.ok.inj h) (by simp)

omit [Hashlib] in
/-- What a lookup can lead to. -/
theorem reconcile_ok {lookup : PaymentLinkLookupResult} {backoff : BackoffPolicy}
    {result : ExecutionResult}
    (h : reconcile job command workerId now effect lookup backoff = .ok result) :
    result.effectDecision = effect ∧
      ((result.disposition = .adopted ∧ result.paymentLinkId ≠ none) ∨
        (result.disposition = .requeued ∧ result.job.retryMode = .retrySameEffect ∧
          lookup.completed = true ∧ lookup.candidates = []) ∨
        (result.disposition = .requeryRequired ∧ result.job.retryMode = .reconcileOnly) ∨
        result.disposition = .deadLetter ∨ result.disposition = .escalated) := by
  unfold reconcile at h
  dsimp only at h
  cases haction :
      (decideAmbiguousCreate command.request.toRequestFields lookup).action with
  | adoptExisting =>
    simp only [haction] at h
    cases hid :
        (decideAmbiguousCreate command.request.toRequestFields lookup).paymentLinkId with
    | none =>
      simp only [hid] at h
      exact absurd h (by simp)
    | some id =>
      simp only [hid] at h
      obtain ⟨completed, -, h⟩ := bind_ok_iff.mp h
      rw [← pure_ok_iff.mp h]
      exact ⟨rfl, .inl ⟨rfl, by simp [resultOf]⟩⟩
  | retryCreateSameReference =>
    simp only [haction] at h
    obtain ⟨heffect, hmode, hend⟩ := requeue_ok h
    obtain ⟨hdone, hnone⟩ := decideAmbiguousCreate_retry_iff.mp haction
    refine ⟨heffect, ?_⟩
    rcases hend with hend | hend
    · exact .inr (.inl ⟨hend, hmode, hdone, hnone⟩)
    · exact .inr (.inr (.inr (.inl hend)))
  | requery =>
    simp only [haction] at h
    obtain ⟨heffect, hmode, hend⟩ := requeue_ok h
    refine ⟨heffect, ?_⟩
    rcases hend with hend | hend
    · exact .inr (.inr (.inl ⟨hend, hmode⟩))
    · exact .inr (.inr (.inr (.inl hend)))
  | escalate =>
    simp only [haction] at h
    obtain ⟨hend, heffect⟩ := escalate_ok h
    exact ⟨heffect, .inr (.inr (.inr (.inr hend)))⟩

/-! ## Results that end the effect -/

/-- A result that ends the effect says why. -/
def ExecutionResult.Told (result : ExecutionResult) : Prop :=
  result.disposition ∈ [ExecutionDisposition.suppressed, .escalated, .deadLetter] →
    StartsWithText result.reasonCode ∧
      (result.disposition = .suppressed → result.effectDecision.reasons ≠ [])

omit [Hashlib] in
theorem told_of_escalate {reason : String} {result : ExecutionResult}
    (h : escalate job command workerId now effect reason = .ok result) : result.Told := by
  obtain ⟨dead, hdead, h⟩ := bind_ok_iff.mp h
  obtain ⟨_, hreason, -⟩ := bind_ok_iff.mp hdead
  rw [← pure_ok_iff.mp h]
  exact fun _ => ⟨startsWithText_of_requireText hreason, fun hd => absurd hd (by simp [resultOf])⟩

omit [Hashlib] in
theorem told_of_requeue {reason : String} {mode : RetryMode} {disposition : ExecutionDisposition}
    {backoff : BackoffPolicy} {result : ExecutionResult} (hdisposition : disposition ≠ .suppressed)
    (h : requeue job command workerId now effect reason mode disposition backoff = .ok result) :
    result.Told := by
  have hend := (requeue_ok h).2.2
  obtain ⟨updated, hupdated, h⟩ := bind_ok_iff.mp h
  obtain ⟨_, hreason, -⟩ := bind_ok_iff.mp hupdated
  have hcode : result.reasonCode = reason := by
    rw [← pure_ok_iff.mp h]
    rfl
  intro _
  rw [hcode]
  refine ⟨startsWithText_of_requireText hreason, fun hd => ?_⟩
  rcases hend with hend | hend
  · exact absurd (hend.symm.trans hd) hdisposition
  · exact absurd (hend.symm.trans hd) (by simp)

theorem told_of_suppress {reason : String} {result : ExecutionResult}
    (hreason : StartsWithText reason) (hreasons : effect.reasons ≠ [])
    (h : suppress job command workerId now effect reason = .ok result) : result.Told := by
  obtain ⟨completed, -, h⟩ := bind_ok_iff.mp h
  rw [← pure_ok_iff.mp h]
  exact fun _ => ⟨hreason, fun _ => hreasons⟩

theorem told_of_denied {result : ExecutionResult} (hdenied : effect.allowed ≠ true)
    (h : denied job command workerId now effect = .ok result) : result.Told := by
  have hreasons : effect.reasons ≠ [] := by
    intro hnil
    exact hdenied (by simp [GateDecision.allowed, hnil])
  unfold denied at h
  dsimp only at h
  split_ifs at h
  · exact told_of_escalate h
  · refine told_of_suppress ?_ hreasons h
    exact ⟨'f', _, rfl, by decide⟩
  · refine told_of_suppress ?_ hreasons h
    exact ⟨'e', _, by simp [String.toList_append]; rfl, by decide⟩

theorem told_of_decideEffect {reads : EffectReads} {result : ExecutionResult}
    (h : decideEffect gate job command workerId reads = .ok (.finished result)) :
    result.Told := by
  unfold decideEffect at h
  obtain ⟨-, -, h⟩ := bind_ok_iff.mp h
  obtain ⟨intent, hintent, h⟩ := bind_ok_iff.mp h
  obtain ⟨fresh, hfresh, h⟩ := bind_ok_iff.mp h
  obtain ⟨-, -, h⟩ := bind_ok_iff.mp h
  obtain ⟨verdict, hverdict, h⟩ := bind_ok_iff.mp h
  cases hfailure : bindingFailure job command intent with
  | some failure =>
    rw [hfailure] at h
    obtain ⟨ended, hended, h⟩ := map_ok_iff.mp h
    exact Decided.finished.inj h ▸ told_of_escalate hended
  | none =>
    rw [hfailure] at h
    by_cases hallowed : verdict.allowed = true
    · rw [if_pos hallowed] at h
      exact absurd (Except.ok.inj h) (by simp)
    · rw [if_neg hallowed] at h
      obtain ⟨ended, hended, h⟩ := map_ok_iff.mp h
      exact Decided.finished.inj h ▸ told_of_denied hallowed hended

omit [Hashlib] in
theorem told_of_beginEffect {result : ExecutionResult}
    (h : beginEffect job command workerId now effect = .ok (.refused result)) :
    result.Told := by
  unfold beginEffect at h
  by_cases hmode : job.retryMode = .reconcileOnly
  · rw [if_pos hmode] at h
    exact absurd (Except.ok.inj h) (by simp)
  · rw [if_neg hmode] at h
    split at h
    next => exact absurd h (by simp)
    next =>
      obtain ⟨ended, hended, h⟩ := map_ok_iff.mp h
      exact Begun.refused.inj h ▸ told_of_escalate hended
    next => exact absurd h (by simp)

omit [Hashlib] in
theorem told_of_settleCreate {create : ProviderCreateOutcome} {backoff : BackoffPolicy}
    {result : ExecutionResult}
    (h : settleCreate job command workerId now effect create backoff = .ok (some result)) :
    result.Told := by
  unfold settleCreate at h
  split at h
  next =>
    split at h
    next => exact absurd h (by simp)
    next =>
      obtain ⟨completed, -, h⟩ := bind_ok_iff.mp h
      rw [← Option.some.inj (pure_ok_iff.mp h)]
      exact fun hd => absurd hd (by simp [resultOf])
  next =>
    obtain ⟨requeued, hrequeued, h⟩ := map_ok_iff.mp h
    exact Option.some.inj h ▸ told_of_requeue (by simp) hrequeued
  next => exact absurd (Except.ok.inj h) (by simp)

omit [Hashlib] in
theorem told_of_reconcile {lookup : PaymentLinkLookupResult} {backoff : BackoffPolicy}
    {result : ExecutionResult}
    (h : reconcile job command workerId now effect lookup backoff = .ok result) :
    result.Told := by
  unfold reconcile at h
  dsimp only at h
  split at h
  next =>
    split at h
    next => exact absurd h (by simp)
    next =>
      obtain ⟨completed, -, h⟩ := bind_ok_iff.mp h
      rw [← pure_ok_iff.mp h]
      exact fun hd => absurd hd (by simp [resultOf])
  next => exact told_of_requeue (by simp) h
  next => exact told_of_requeue (by simp) h
  next => exact told_of_escalate h

/-! ## When the provider is asked to create -/

omit [Hashlib] in
/-- Behind the authorization, a create is asked for when the delivery may create. -/
theorem create_mem_carryOut_iff {provider : PaymentLinkProvider} {backoff : BackoffPolicy} :
    .create command.request command.providerAccountId ∈
        (carryOut job command workerId now effect provider backoff).calls ↔
      job.retryMode ≠ .reconcileOnly ∧ command.request.validateExpiry now = .ok () := by
  rw [← beginEffect_create_iff]
  unfold carryOut
  cases hbegun : beginEffect job command workerId now effect with
  | error e => simp
  | ok begun =>
    cases begun with
    | refused result => simp
    | reconcile => simp [lookUp]
    | create =>
      dsimp only
      split
      next => simp
      next =>
        split
        next => simp
        next => simp
        next => simp [lookUp]

/-- **When a create is asked for.** -/
theorem create_mem_execute_iff {provider : PaymentLinkProvider}
    {recorder : GateDecision → GateContext → Except ControlPlaneError Unit}
    {reads : EffectReads} {backoff : BackoffPolicy} :
    .create command.request command.providerAccountId ∈
        (execute gate job command workerId provider recorder reads backoff).calls ↔
      ∃ effect context now,
        decideEffect gate job command workerId reads = .ok (.cleared effect context now) ∧
        recorder effect context = .ok () ∧ job.retryMode ≠ .reconcileOnly ∧
        command.request.validateExpiry now = .ok () := by
  unfold execute
  cases decideEffect gate job command workerId reads with
  | error e => simp
  | ok decided =>
    cases decided with
    | finished result => simp
    | cleared effect context now =>
      dsimp only
      cases hrecord : recorder effect context with
      | error e =>
        refine ⟨fun h => absurd h (by simp), fun h => ?_⟩
        obtain ⟨_, _, _, heq, hok, -⟩ := h
        obtain ⟨rfl, rfl, rfl⟩ := Decided.cleared.inj (Except.ok.inj heq)
        exact absurd (hrecord.symm.trans hok) (by simp)
      | ok u =>
        rw [create_mem_carryOut_iff]
        constructor
        · intro h
          exact ⟨effect, context, now, rfl, hrecord, h⟩
        · intro h
          obtain ⟨_, _, _, heq, -, h⟩ := h
          obtain ⟨rfl, rfl, rfl⟩ := Decided.cleared.inj (Except.ok.inj heq)
          exact h

end

end Retrywise.ControlPlane
