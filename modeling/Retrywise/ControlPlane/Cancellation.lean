import Retrywise.ControlPlane.EffectCommandCodec
import Retrywise.ControlPlane.EffectPath

/-!
# The cancellation executor

`cancellation.py`: one delivery of a protective cancellation. The executor loads the
durable binding of the link, asks the gate with a fresh context, looks at what the
provider shows, looks at the binding again, and has an authorization recorded before
it cancels. Then it looks once more: what the provider answered to the cancel goes
into the reason alone.

`execute` is cut where the outside world gets a turn:

* `look`, up to what the provider shows before the cancel;
* `recheck`, up to the last decision of the gate;
* `reconcileAfterEffect`, behind the call.

A delivery that may only reconcile ends in `recheck`: a link that is shown unpaid
grants the retry of the effect, to the next delivery.
-/

namespace Retrywise.ControlPlane

open Retrywise.Foundation Retrywise.Domain

/-! ## The target -/

/-- `^plink_[A-Za-z0-9]{1,120}$`. -/
def isPaymentLinkId (value : String) : Bool :=
  let rest := value.toList.drop 6
  "plink_".toList.isPrefixOf value.toList && decide (1 ≤ rest.length) &&
    decide (rest.length ≤ 120) && rest.all Char.isAlphanum

theorem isCleanText_paymentLinkId {value : String} {maximum : Nat} (hroom : 126 ≤ maximum)
    (h : isPaymentLinkId value = true) : isCleanText maximum value = true := by
  simp only [isPaymentLinkId, Bool.and_eq_true, decide_eq_true_eq, List.isPrefixOf_iff_prefix,
    List.all_eq_true] at h
  obtain ⟨⟨⟨⟨rest, hrest⟩, -⟩, hmost⟩, hall⟩ := h
  have hlead : "plink_".toList.length = 6 := by decide
  have hgraphic : ∀ c ∈ "plink_".toList, 33 ≤ c.toNat ∧ c.toNat < 127 := graphic_of_all (by decide)
  rw [← hrest, List.drop_left' hlead] at hmost hall
  refine isCleanText_of_graphic ?_ ?_ ?_
  · rw [← hrest]
    exact fun hnil => absurd (List.append_eq_nil_iff.mp hnil).1 (by decide)
  · rw [← hrest, List.length_append]
    omega
  · intro c hc
    rw [← hrest, List.mem_append] at hc
    rcases hc with hc | hc
    · exact hgraphic c hc
    · exact isIdChar_toNat (by rw [isIdChar, hall c hc, Bool.true_or, Bool.true_or])

structure TargetFields where
  merchantId : String
  caseId : String
  actionId : String
  actionKey : String
  instrumentId : String
  providerAccountId : String
  paymentLinkId : String
  referenceId : String
  amountMinor : Nat
  currency : String
deriving DecidableEq

namespace TargetFields

variable [Hashlib] (t : TargetFields)

/-- `CancellationTarget.__post_init__`. -/
def postInit : Except ControlPlaneError Unit := do
  raiseIf (¬isIdentifier t.merchantId) (.invalidValue "merchant_id must be an opaque identifier")
  raiseIf (¬isIdentifier t.caseId) (.invalidValue "case_id must be an opaque identifier")
  raiseIf (¬isIdentifier t.actionId) (.invalidValue "action_id must be an opaque identifier")
  raiseIf (¬isIdentifier t.instrumentId)
    (.invalidValue "instrument_id must be an opaque identifier")
  raiseIf (¬isIdentifier t.providerAccountId)
    (.invalidValue "provider_account_id must be an opaque identifier")
  requireText t.actionKey "action_key" 68
  raiseIf (¬isActionKey t.actionKey)
    (.invalidValue "action_key must be a RetryWise action digest")
  raiseIf (¬isPaymentLinkId t.paymentLinkId)
    (.invalidValue "payment_link_id must be a Razorpay Payment Link id")
  raiseIf (¬isIdentifier t.referenceId)
    (.invalidValue "reference_id must be an opaque provider reference")
  raiseIf (t.referenceId.toList.length > 40)
    (.invalidValue "reference_id cannot exceed the provider limit")
  let expected ← checkedRecoveryReferenceId t.caseId t.providerAccountId
  raiseIf (t.referenceId ≠ expected)
    (.invalidValue "reference_id must be the controller-derived recovery reference")
  raiseIf (t.amountMinor = 0) (.invalidValue "amount_minor must be a positive integer")
  raiseIf (¬isCurrency t.currency)
    (.invalidValue "currency must be a three-letter uppercase code")

omit [Hashlib] in
def toPrimitive : Json :=
  .obj [
    ("action_id", .str t.actionId),
    ("action_key", .str t.actionKey),
    ("amount_minor", .int t.amountMinor),
    ("case_id", .str t.caseId),
    ("currency", .str t.currency),
    ("instrument_id", .str t.instrumentId),
    ("merchant_id", .str t.merchantId),
    ("payment_link_id", .str t.paymentLinkId),
    ("provider_account_id", .str t.providerAccountId),
    ("reference_id", .str t.referenceId)]

def targetDigest : String :=
  sha256Json (.obj [
    ("schema", .str "retrywise-cancellation-target-v1"),
    ("target", t.toPrimitive)])

end TargetFields

section

variable [Hashlib]

/-- The immutable identity of the link that is cancelled. -/
structure CancellationTarget extends TargetFields where
  valid : toTargetFields.postInit = .ok ()

/-! ## The command -/

structure CancelCommandFields where
  proposal : ActionProposal
  priorPlan : GateDecision
  target : CancellationTarget

namespace CancelCommandFields

variable (c : CancelCommandFields)

/-- `CancelPaymentLinkCommand.__post_init__`. -/
def postInit : Except ControlPlaneError Unit := do
  raiseIf (c.proposal.actionType ≠ .cancelPaymentLink)
    (.invalidValue "cancellation command requires a cancellation proposal")
  raiseIf (c.proposal.instrumentReference ≠ some c.target.paymentLinkId)
    (.invalidValue "proposal instrument is not the target Payment Link")
  raiseIf (c.proposal.merchantId ≠ c.target.merchantId ∨ c.proposal.caseId ≠ c.target.caseId ∨
      c.proposal.actionKey ≠ c.target.actionKey)
    (.invalidValue "cancellation proposal is not bound to its target")
  raiseIf (c.priorPlan.stage ≠ .policy ∨ ¬c.priorPlan.allowed)
    (.invalidValue "cancellation command requires an allowed policy plan")
  raiseIf (c.priorPlan.proposalId ≠ c.proposal.proposalId ∨
      c.priorPlan.actionKey ≠ c.proposal.actionKey ∨
      c.priorPlan.proposalDigest ≠ c.proposal.proposalDigest ∨
      c.priorPlan.caseId ≠ c.proposal.caseId ∨
      c.priorPlan.decisionVersion ≠ c.proposal.decisionVersion)
    (.invalidValue "cancellation policy plan is not bound to the proposal")

def payloadDigest : String :=
  sha256Json (.obj [
    ("action_key", .str c.proposal.actionKey),
    ("prior_plan_digest", .str c.priorPlan.decisionDigest),
    ("proposal_digest", .str c.proposal.proposalDigest),
    ("schema", .str "retrywise-cancel-payment-link-command-v1"),
    ("target_digest", .str c.target.targetDigest)])

end CancelCommandFields

/-- The complete protective effect behind an outbox row. -/
structure CancelPaymentLinkCommand extends CancelCommandFields where
  valid : toCancelCommandFields.postInit = .ok ()

/-! ## The durable binding -/

/-- What the action and the instrument of the link say in the database. -/
structure DurableInstrumentBinding where
  target : CancellationTarget
  persistedTargetDigest : String
  instrumentStatus : InstrumentStatus
  recordedAt : Timestamp

/-- `DurableInstrumentBinding.matches`. -/
def DurableInstrumentBinding.matchesCommand (binding : DurableInstrumentBinding)
    (command : CancelPaymentLinkCommand) : Bool :=
  binding.target.toTargetFields = command.target.toTargetFields &&
    binding.persistedTargetDigest = command.target.targetDigest

end

/-- `_BINDING_STATUSES_WITH_PROVIDER_TARGET`. -/
def bindingStatuses : List InstrumentStatus :=
  [.uncertain, .issued, .active, .cancelPending, .paid, .partiallyPaid, .cancelled, .expired]

/-- `_CANCELLABLE_BINDING_STATUSES`. -/
def cancellableStatuses : List InstrumentStatus := [.uncertain, .issued, .active, .cancelPending]

/-! ## What the provider says -/

inductive ProviderPaymentLinkStatus where
  | created | partiallyPaid | expired | cancelled | paid
deriving DecidableEq, Repr

def ProviderPaymentLinkStatus.value : ProviderPaymentLinkStatus → String
  | .created => "created"
  | .partiallyPaid => "partially_paid"
  | .expired => "expired"
  | .cancelled => "cancelled"
  | .paid => "paid"

structure TruthFields where
  paymentLinkId : String
  referenceId : String
  amountMinor : Nat
  amountPaidMinor : Nat
  currency : String
  acceptPartial : Bool
  upiLink : Bool
  status : ProviderPaymentLinkStatus

/-- `ProviderPaymentLinkTruth.__post_init__`. -/
def TruthFields.postInit (t : TruthFields) : Except ControlPlaneError Unit := do
  raiseIf (¬isPaymentLinkId t.paymentLinkId)
    (.invalidValue "provider truth payment_link_id is invalid")
  raiseIf (¬isIdentifier t.referenceId) (.invalidValue "provider truth reference_id is invalid")
  raiseIf (t.referenceId.toList.length > 40)
    (.invalidValue "provider truth reference_id exceeds the provider limit")
  raiseIf (t.amountMinor = 0) (.invalidValue "provider truth amount_minor is invalid")
  raiseIf (t.amountPaidMinor > t.amountMinor)
    (.invalidValue "provider truth amount_paid_minor is outside its amount")
  raiseIf (¬isCurrency t.currency) (.invalidValue "provider truth currency is invalid")
  match t.status with
  | .paid =>
    raiseIf (t.amountPaidMinor ≠ t.amountMinor)
      (.invalidValue "paid provider truth must have its full amount paid")
  | .partiallyPaid =>
    raiseIf (¬(0 < t.amountPaidMinor ∧ t.amountPaidMinor < t.amountMinor))
      (.invalidValue "partially paid provider truth must have a proper partial amount")
  | .created | .cancelled | .expired =>
    raiseIf (t.amountPaidMinor ≠ 0)
      (.invalidValue "created, cancelled, or expired no-partial provider truth must be unpaid")

/-- What the provider shows of a link. -/
structure ProviderPaymentLinkTruth extends TruthFields where
  valid : toTruthFields.postInit = .ok ()

/-- `ProviderPaymentLinkTruth.matches`. -/
def TruthFields.matchesTarget (t : TruthFields) (target : TargetFields) : Bool :=
  t.paymentLinkId = target.paymentLinkId && t.referenceId = target.referenceId &&
    t.amountMinor = target.amountMinor && t.currency = target.currency && !t.acceptPartial &&
    !t.upiLink

/-- `_safe_exception_reason`; `name` is the exception's class name, casefolded. -/
def safeExceptionReason (lead name : String) : String :=
  let safe := (name.toList.map fun c =>
    if c.isLower || c.isDigit || c = '_' then c else '_').take 80
  let shown := if safe = [] then "exception" else String.ofList safe
  s!"{lead}:{shown}"

/-- Why a fetch brought no truth. -/
inductive FetchFailure where
  | exception (name : String)
  | contractInvalid

def FetchFailure.reason : FetchFailure → String
  | .exception name => safeExceptionReason "provider_fetch_exception" name
  | .contractInvalid => "provider_truth_contract_invalid"

inductive ProviderCancellationStatus where
  | certainSuccess | certainFailure | ambiguous
deriving DecidableEq, Repr

def ProviderCancellationStatus.value : ProviderCancellationStatus → String
  | .certainSuccess => "certain_success"
  | .certainFailure => "certain_failure"
  | .ambiguous => "ambiguous"

/-- What came back from the cancel: an exception, something that is no answer, or an
answer; `matching` says that a certain success shows the link that was meant. -/
inductive CancelAnswer where
  | exception (name : String)
  | invalid (failure : String)
  | outcome (status : ProviderCancellationStatus) (reasonCode : String) (matching : Bool)

/-- The reason a cancel is reconciled with. -/
def CancelAnswer.reason : CancelAnswer → String
  | .exception name => safeExceptionReason "cancel_port_exception" name
  | .invalid failure => s!"cancel_outcome_invalid:{failure}"
  | .outcome status reasonCode matching =>
    if status = .certainSuccess ∧ matching = false then
      s!"{status.value}:{reasonCode}:response_target_mismatch"
    else s!"{status.value}:{reasonCode}"

/-! ## Results -/

inductive CancellationDisposition where
  | cancelled | alreadyCancelled | expired | blocked | reconcileRequired | reviewRequired
  | escalated | deadLetter
deriving DecidableEq, Repr

def CancellationDisposition.value : CancellationDisposition → String
  | .cancelled => "cancelled"
  | .alreadyCancelled => "already_cancelled"
  | .expired => "expired"
  | .blocked => "blocked"
  | .reconcileRequired => "reconcile_required"
  | .reviewRequired => "review_required"
  | .escalated => "escalated"
  | .deadLetter => "dead_letter"

structure CancellationResult where
  disposition : CancellationDisposition
  job : OutboxJob
  effectDecision : GateDecision
  reasonCode : String
  paymentLinkId : String
  targetDigest : String
  providerStatus : Option ProviderPaymentLinkStatus := none
  cancelAttempted : Bool := false

/-! ## The executor -/

structure CancelPaymentLinkExecutor where
  gate : DeterministicGate
  backoff : BackoffPolicy := {}

/-- Where a delivery goes from a look at the link. -/
inductive Looked where
  | finished (result : CancellationResult)
  | seen (effect : GateDecision) (truth : ProviderPaymentLinkTruth)

/-- Where it goes from the last decision of the gate. -/
inductive Rechecked where
  | finished (result : CancellationResult)
  | cleared (effect : GateDecision) (shown : ProviderPaymentLinkStatus)

section

variable [Hashlib]

/-- `_binding_failure`. -/
def cancelBindingFailure (job : OutboxJob) (command : CancelPaymentLinkCommand)
    (binding : Option DurableInstrumentBinding) (now : Timestamp) : Option String :=
  if job.actionKey ≠ command.proposal.actionKey then some "job_action_key_mismatch"
  else if job.payloadDigest ≠ command.payloadDigest then some "job_payload_digest_mismatch"
  else
    match binding with
    | none => some "durable_instrument_binding_missing"
    | some binding =>
      if binding.matchesCommand command = false then some "durable_instrument_binding_mismatch"
      else if binding.recordedAt > now then some "durable_instrument_binding_from_future"
      else if binding.instrumentStatus ∉ bindingStatuses then
        some "instrument_status_has_no_cancellable_provider_target"
      else none

namespace CancelPaymentLinkExecutor

variable (executor : CancelPaymentLinkExecutor) (job : OutboxJob)
  (command : CancelPaymentLinkCommand) (workerId : String) (endedAt : Timestamp)
  (effect : GateDecision)

/-- `_result`. -/
def result (disposition : CancellationDisposition) (ended : OutboxJob) (reason : String)
    (providerStatus : Option ProviderPaymentLinkStatus) (cancelAttempted : Bool) :
    CancellationResult where
  disposition := disposition
  job := ended
  effectDecision := effect
  reasonCode := reason
  paymentLinkId := command.target.paymentLinkId
  targetDigest := command.target.targetDigest
  providerStatus := providerStatus
  cancelAttempted := cancelAttempted

/-- `_complete`. -/
def complete (reason : String) (disposition : CancellationDisposition)
    (providerStatus : ProviderPaymentLinkStatus) (cancelAttempted : Bool) :
    Except ControlPlaneError CancellationResult := do
  let completed ← job.complete workerId job.tokenOrMissing endedAt job.version
    s!"{disposition.value}:{command.target.targetDigest}"
  return result command effect disposition completed reason (some providerStatus) cancelAttempted

/-- `_requeue`; an exhausted job is a dead letter. -/
def requeue (reason : String) (mode : RetryMode)
    (providerStatus : Option ProviderPaymentLinkStatus) (cancelAttempted : Bool) :
    Except ControlPlaneError CancellationResult := do
  let updated ← job.requeue workerId job.tokenOrMissing endedAt job.version reason
    executor.backoff mode
  let disposition := if updated.state = .deadLetter then .deadLetter else .reconcileRequired
  return result command effect disposition updated reason providerStatus cancelAttempted

/-- `_dead_letter`. -/
def deadLetter (reason : String) (disposition : CancellationDisposition)
    (providerStatus : Option ProviderPaymentLinkStatus) (cancelAttempted : Bool) :
    Except ControlPlaneError CancellationResult := do
  let dead ← job.deadLetter workerId job.tokenOrMissing endedAt job.version reason
  return result command effect disposition dead reason providerStatus cancelAttempted

/-- `_review`. -/
def review (reason : String) (providerStatus : ProviderPaymentLinkStatus)
    (cancelAttempted : Bool) : Except ControlPlaneError CancellationResult :=
  deadLetter job command workerId endedAt effect reason .reviewRequired (some providerStatus)
    cancelAttempted

/-- The lowercased value of a durable status, as the reasons carry it. -/
def statusText : InstrumentStatus → String
  | .creating => "creating"
  | .uncertain => "uncertain"
  | .issued => "issued"
  | .active => "active"
  | .cancelPending => "cancel_pending"
  | .paid => "paid"
  | .partiallyPaid => "partially_paid"
  | .cancelled => "cancelled"
  | .expired => "expired"
  | .failed => "failed"

/-- `_resolve_without_cancel`: nothing, where the link is there to be cancelled. -/
def resolveWithoutCancel (durable : InstrumentStatus) (shown : ProviderPaymentLinkStatus)
    (phase : String) (cancelAttempted : Bool) :
    Except ControlPlaneError (Option CancellationResult) :=
  if durable ∈ [InstrumentStatus.paid, .partiallyPaid] then
    (review job command workerId endedAt effect
      s!"{phase}_durable_{statusText durable}_requires_review" shown cancelAttempted).map some
  else if shown ∈ [ProviderPaymentLinkStatus.paid, .partiallyPaid] then
    (review job command workerId endedAt effect
      s!"{phase}_provider_{shown.value}_requires_review" shown cancelAttempted).map some
  else if shown = .cancelled then
    (complete job command workerId endedAt effect s!"{phase}_provider_already_cancelled"
      .alreadyCancelled shown cancelAttempted).map some
  else if shown = .expired then
    (complete job command workerId endedAt effect s!"{phase}_provider_expired" .expired shown
      cancelAttempted).map some
  else if durable ∈ [InstrumentStatus.cancelled, .expired] then
    (executor.requeue job command workerId endedAt effect
      s!"{phase}_durable_{statusText durable}_conflicts_with_created_provider_truth"
      .reconcileOnly (some shown) cancelAttempted).map some
  else if durable ∉ cancellableStatuses then
    (deadLetter job command workerId endedAt effect s!"{phase}_instrument_status_not_cancellable"
      .escalated (some shown) cancelAttempted).map some
  else .ok none

/-- The reasons against an effect, one behind the other. -/
def reasonText (effect : GateDecision) : String :=
  String.intercalate "," (effect.reasons.map GateReason.value)

/-- What an effect the gate denies ends as. -/
def blocked : Except ControlPlaneError CancellationResult :=
  let lead :=
    if effect.reasons.any fun reason => reason ∈ authorizationFaults then
      "effect_authorization_fault"
    else "effect_gate_denied"
  deadLetter job command workerId endedAt effect s!"{lead}:{reasonText effect}" .blocked none false

/-- `execute`, up to what the provider shows. -/
def look (startedAt : Timestamp)
    (binding : Except ControlPlaneError (Option DurableInstrumentBinding))
    (context : Except ControlPlaneError GateContext)
    (truth : Except FetchFailure ProviderPaymentLinkTruth) : Except ControlPlaneError Looked := do
  job.assertActiveLease workerId job.tokenOrMissing startedAt
  let binding ← binding
  let failure := cancelBindingFailure job command binding startedAt
  let fresh ← context
  let proved := binding.isSome && failure.isNone
  let effect ← liftDomain (executor.gate.evaluateEffect command.proposal
    (refreshContext fresh startedAt proved) (some command.priorPlan))
  match binding, failure with
  | some binding, none =>
    if effect.allowed then
      match truth with
      | .error failure =>
        let mode := if job.retryMode = .reconcileOnly then .reconcileOnly else .normal
        (executor.requeue job command workerId endedAt effect
          s!"pre_cancel_truth_unavailable:{failure.reason}" mode none false).map .finished
      | .ok truth =>
        if truth.matchesTarget command.target.toTargetFields then
          match ← executor.resolveWithoutCancel job command workerId endedAt effect
              binding.instrumentStatus truth.status "pre_cancel" false with
          | some result => return .finished result
          | none => return .seen effect truth
        else
          (deadLetter job command workerId endedAt effect "pre_cancel_provider_target_mismatch"
            .escalated (some truth.status) false).map .finished
    else (blocked job command workerId endedAt effect).map .finished
  | _, failure =>
    let failure := failure.getD "binding_missing"
    (deadLetter job command workerId endedAt effect s!"binding_failure:{failure}" .escalated none
      false).map .finished

/-- `execute`, from the second look at the binding up to the last decision. -/
def recheck (truth : ProviderPaymentLinkTruth) (checkedAt : Timestamp)
    (binding : Except ControlPlaneError (Option DurableInstrumentBinding))
    (beforeEffect : Timestamp) (context : Except ControlPlaneError GateContext) :
    Except ControlPlaneError Rechecked := do
  let binding ← binding
  match binding, cancelBindingFailure job command binding checkedAt with
  | some binding, none =>
    match ← executor.resolveWithoutCancel job command workerId endedAt effect
        binding.instrumentStatus truth.status "pre_effect" false with
    | some result => return .finished result
    | none =>
      if job.retryMode = .reconcileOnly then
        (executor.requeue job command workerId endedAt effect
          "reconcile_only_fresh_unpaid_link_grants_effect_retry" .retrySameEffect
          (some truth.status) false).map .finished
      else
        job.assertActiveLease workerId job.tokenOrMissing beforeEffect
        let context ← context
        let final ← liftDomain (executor.gate.evaluateEffect command.proposal
          (refreshContext context beforeEffect true) (some command.priorPlan))
        if final.allowed then
          if truth.amountPaidMinor ≠ 0 then
            (review job command workerId endedAt final
              "final_provider_amount_paid_requires_review" truth.status false).map .finished
          else return .cleared final truth.status
        else
          (deadLetter job command workerId endedAt final
            s!"final_effect_gate_denied:{reasonText final}" .blocked (some truth.status)
            false).map .finished
  | _, failure =>
    let failure := failure.getD "binding_missing"
    (deadLetter job command workerId endedAt effect s!"pre_effect_binding_failure:{failure}"
      .escalated (some truth.status) false).map .finished

/-- `_reconcile_after_effect`. -/
def reconcileAfterEffect (reason : String)
    (truth : Except FetchFailure ProviderPaymentLinkTruth) (checkedAt : Timestamp)
    (binding : Except ControlPlaneError (Option DurableInstrumentBinding)) :
    Except ControlPlaneError CancellationResult := do
  let binding ← binding
  match binding, cancelBindingFailure job command binding checkedAt with
  | some binding, none =>
    match truth with
    | .error failure =>
      executor.requeue job command workerId endedAt effect
        s!"post_cancel_truth_unavailable:{reason}:{failure.reason}" .reconcileOnly none true
    | .ok truth =>
      if truth.matchesTarget command.target.toTargetFields then
        if binding.instrumentStatus ∈ [InstrumentStatus.paid, .partiallyPaid] then
          review job command workerId endedAt effect
            s!"post_cancel_durable_{statusText binding.instrumentStatus}_requires_review"
            truth.status true
        else if truth.status ∈ [ProviderPaymentLinkStatus.paid, .partiallyPaid] then
          review job command workerId endedAt effect
            s!"post_cancel_provider_{truth.status.value}_requires_review" truth.status true
        else if truth.status = .cancelled then
          complete job command workerId endedAt effect
            s!"post_cancel_provider_cancelled:{reason}" .cancelled truth.status true
        else
          match ← executor.resolveWithoutCancel job command workerId endedAt effect
              binding.instrumentStatus truth.status "post_cancel" true with
          | some result => return result
          | none =>
            executor.requeue job command workerId endedAt effect
              s!"post_cancel_fresh_unpaid_link_grants_effect_retry:{reason}" .retrySameEffect
              (some truth.status) true
      else
        deadLetter job command workerId endedAt effect "post_cancel_provider_target_mismatch"
          .escalated (some truth.status) true
  | _, failure =>
    let failure := failure.getD "binding_missing"
    deadLetter job command workerId endedAt effect s!"post_cancel_binding_failure:{failure}"
      .escalated (truth.toOption.map fun t => t.status) true

end CancelPaymentLinkExecutor

end

end Retrywise.ControlPlane
