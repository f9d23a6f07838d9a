import Retrywise.ControlPlane.Cancellation
import Retrywise.Foundation.Traced

/-!
# A whole cancellation, with its trace

`CancelPaymentLinkExecutor.execute` from the first clock read to the result, with
everything it reads, decides and does in order. What the provider returns is whatever
object the client hands out, and is made a truth or a cancellation result here, or
counts as neither.

> `result_execute`: without its trace, an execution is `look`, `recheck` and
> `reconcileAfterEffect` one after the other.
-/

namespace Retrywise.ControlPlane

open Retrywise.Foundation Retrywise.Domain

/-! ## Objects of the provider client -/

/-- What a fetch returns: a truth, or some object that is read attribute by attribute;
a value of no JSON type is as wrong there as one of the wrong type. -/
inductive ProviderValue where
  | truth (truth : ProviderPaymentLinkTruth)
  | object (attr : String → Option Json)

/-- `ProviderPaymentLinkStatus(value)`. -/
def ProviderPaymentLinkStatus.ofValue (value : String) : Option ProviderPaymentLinkStatus :=
  [ProviderPaymentLinkStatus.created, .partiallyPaid, .expired, .cancelled, .paid].find?
    fun status => status.value = value

/-- The attributes of a truth, where they are there and of their types. -/
def TruthFields.read (attr : String → Option Json) : Option TruthFields :=
  match attr "status", attr "payment_link_id", attr "reference_id",
    attr "amount_minor", attr "amount_paid_minor", attr "currency",
    attr "accept_partial", attr "upi_link" with
  | some (.str status), some (.str paymentLinkId), some (.str referenceId),
    some (.int amountMinor), some (.int amountPaidMinor), some (.str currency),
    some (.bool acceptPartial), some (.bool upiLink) =>
    if amountMinor < 0 ∨ amountPaidMinor < 0 then none
    else
      (ProviderPaymentLinkStatus.ofValue status).map fun status => {
        paymentLinkId, referenceId, currency, acceptPartial, upiLink, status
        amountMinor := amountMinor.toNat
        amountPaidMinor := amountPaidMinor.toNat }
  | _, _, _, _, _, _, _, _ => none

/-- `_normalize_truth`. -/
def normalizeTruth : ProviderValue → Except FetchFailure ProviderPaymentLinkTruth
  | .truth truth => .ok truth
  | .object attr =>
    match TruthFields.read attr with
    | none => .error .contractInvalid
    | some fields =>
      match valid : fields.postInit with
      | .error _ => .error .contractInvalid
      | .ok () => .ok ⟨fields, valid⟩

/-- `_fetch_truth`, on what the client returned, or the name of its exception. -/
def fetchTruth : Except String ProviderValue → Except FetchFailure ProviderPaymentLinkTruth
  | .error name => .error (.exception name)
  | .ok value => normalizeTruth value

/-- `^[a-z0-9][a-z0-9_:.-]{0,127}$`. -/
def isOutcomeReason (value : String) : Bool :=
  match value.toList with
  | [] => false
  | c :: rest =>
    (c.isLower || c.isDigit) && decide (rest.length ≤ 127) &&
      rest.all fun d => d.isLower || d.isDigit || d = '_' || d = ':' || d = '.' || d = '-'

structure CancellationOutcomeFields where
  status : ProviderCancellationStatus
  reasonCode : String
  paymentLink : Option ProviderPaymentLinkTruth := none

/-- `ProviderCancellationResult.__post_init__`. -/
def CancellationOutcomeFields.postInit (o : CancellationOutcomeFields) :
    Except ControlPlaneError Unit := do
  raiseIf (¬isOutcomeReason o.reasonCode)
    (.invalidValue "reason_code must be a bounded lowercase machine code")
  if o.status = .certainSuccess then
    match o.paymentLink with
    | none => .error (.invalidValue "certain cancellation success requires provider truth")
    | some truth =>
      raiseIf (truth.status ≠ .cancelled)
        (.invalidValue "certain cancellation success requires cancelled provider truth")
  else
    raiseIf (o.paymentLink.isSome = true)
      (.invalidValue "only certain cancellation success may carry provider truth")

structure ProviderCancellationResult extends CancellationOutcomeFields where
  valid : toCancellationOutcomeFields.postInit = .ok ()

/-- What a cancel returns: a result, or some object; its link may be missing, `none`,
or an object in turn. -/
inductive CancelValue where
  | result (result : ProviderCancellationResult)
  | object (status reasonCode : Option Json) (paymentLink : Option (Option ProviderValue))

/-- `ProviderCancellationStatus(value)`. -/
def ProviderCancellationStatus.ofValue (value : String) : Option ProviderCancellationStatus :=
  [ProviderCancellationStatus.certainSuccess, .certainFailure, .ambiguous].find?
    fun status => status.value = value

/-- `_normalize_cancel_outcome`. -/
def normalizeCancelOutcome : CancelValue → Except String ProviderCancellationResult
  | .result result => .ok result
  | .object (some (.str status)) (some reasonCode) (some paymentLink) =>
    match ProviderCancellationStatus.ofValue status with
    | none => .error "provider_cancel_contract_invalid"
    | some status => do
      let paymentLink ← match paymentLink with
        | none => .ok none
        | some value =>
          match normalizeTruth value with
          | .error failure => .error failure.reason
          | .ok truth => .ok (some truth)
      match reasonCode with
      | .str reasonCode =>
        let fields : CancellationOutcomeFields := { status, reasonCode, paymentLink }
        match valid : fields.postInit with
        | .error _ => .error "provider_cancel_contract_invalid"
        | .ok () => .ok ⟨fields, valid⟩
      | _ => .error "provider_cancel_contract_invalid"
  | .object _ _ _ => .error "provider_cancel_contract_invalid"

/-- What `execute` makes of what the cancel returned, or of the name of its exception. -/
def cancelAnswer (target : TargetFields) : Except String CancelValue → CancelAnswer
  | .error name => .exception name
  | .ok value =>
    match normalizeCancelOutcome value with
    | .error failure => .invalid failure
    | .ok outcome =>
      .outcome outcome.status outcome.reasonCode
        (outcome.paymentLink.any fun truth => truth.matchesTarget target)

/-! ## The trace -/

inductive CancelEvent [Hashlib] where
  /-- The lease was found active. -/
  | leased (now : Timestamp)
  | bindingRead (binding : Option DurableInstrumentBinding)
  | decided (effect : GateDecision)
  | fetched (truth : Except FetchFailure ProviderPaymentLinkTruth)
  | authorized (effect : GateDecision)
  | cancelCalled
  /-- The job went over into the state it ends the delivery in. -/
  | moved (job : OutboxJob)

/-- What the world answers a delivery, in the order it is asked: the clock, the durable
bindings, the gate contexts, the provider and the recorder of authorizations. -/
structure CancelPorts [Hashlib] where
  startedAt : Timestamp
  binding : Except ControlPlaneError (Option DurableInstrumentBinding)
  context : Except ControlPlaneError GateContext
  fetch : Except String ProviderValue
  refreshedBinding : Except ControlPlaneError (Option DurableInstrumentBinding)
  checkedAt : Timestamp
  beforeEffect : Timestamp
  finalContext : Except ControlPlaneError GateContext
  recordCancellationAuthorization : GateDecision → GateContext → Except ControlPlaneError Unit
  cancel : Except String CancelValue
  fetchAfter : Except String ProviderValue
  bindingAfter : Except ControlPlaneError (Option DurableInstrumentBinding)
  checkedAfter : Timestamp
  endedAt : Timestamp

/-- A delivery as it is executed. -/
abbrev CancelRun [Hashlib] := Traced CancelEvent ControlPlaneError

section

variable [Hashlib]

open Traced

/-- The job ends the delivery as the result has it. -/
def moving (call : Except ControlPlaneError CancellationResult) : CancelRun CancellationResult := do
  let result ← lift call
  note (.moved result.job)
  return result

namespace CancelPaymentLinkExecutor

variable (executor : CancelPaymentLinkExecutor) (job : OutboxJob)
  (command : CancelPaymentLinkCommand) (workerId : String) (ports : CancelPorts)

/-- `execute`, up to what the provider shows. -/
def looking : CancelRun Looked := do
  lift (job.assertActiveLease workerId job.tokenOrMissing ports.startedAt)
  note (.leased ports.startedAt)
  let binding ← lift ports.binding
  note (.bindingRead binding)
  let fresh ← lift ports.context
  let effect ← lift (liftDomain (executor.gate.evaluateEffect command.proposal
    (refreshContext fresh ports.startedAt (binding.isSome &&
      (cancelBindingFailure job command binding ports.startedAt).isNone))
    (some command.priorPlan)))
  note (.decided effect)
  match binding, cancelBindingFailure job command binding ports.startedAt with
  | some binding, none =>
    if effect.allowed then
      note (.fetched (fetchTruth ports.fetch))
      match fetchTruth ports.fetch with
      | .error failure =>
        let mode := if job.retryMode = .reconcileOnly then .reconcileOnly else .normal
        let result ← moving (executor.requeue job command workerId ports.endedAt effect
          s!"pre_cancel_truth_unavailable:{failure.reason}" mode none false)
        return .finished result
      | .ok truth =>
        if truth.matchesTarget command.target.toTargetFields then
          match ← lift (executor.resolveWithoutCancel job command workerId ports.endedAt effect
              binding.instrumentStatus truth.status "pre_cancel" false) with
          | some result =>
            note (.moved result.job)
            return .finished result
          | none => return .seen effect truth
        else
          let result ← moving (deadLetter job command workerId ports.endedAt effect
            "pre_cancel_provider_target_mismatch" .escalated (some truth.status) false)
          return .finished result
    else
      let result ← moving (blocked job command workerId ports.endedAt effect)
      return .finished result
  | _, failure =>
    let failure := failure.getD "binding_missing"
    let result ← moving (deadLetter job command workerId ports.endedAt effect
      s!"binding_failure:{failure}" .escalated none false)
    return .finished result

/-- `execute`, from the second look at the binding up to the last decision. -/
def rechecking (effect : GateDecision) (truth : ProviderPaymentLinkTruth) :
    CancelRun Rechecked := do
  let binding ← lift ports.refreshedBinding
  note (.bindingRead binding)
  match binding, cancelBindingFailure job command binding ports.checkedAt with
  | some binding, none =>
    match ← lift (executor.resolveWithoutCancel job command workerId ports.endedAt effect
        binding.instrumentStatus truth.status "pre_effect" false) with
    | some result =>
      note (.moved result.job)
      return .finished result
    | none =>
      if job.retryMode = .reconcileOnly then
        let result ← moving (executor.requeue job command workerId ports.endedAt effect
          "reconcile_only_fresh_unpaid_link_grants_effect_retry" .retrySameEffect
          (some truth.status) false)
        return .finished result
      else
        lift (job.assertActiveLease workerId job.tokenOrMissing ports.beforeEffect)
        note (.leased ports.beforeEffect)
        let context ← lift ports.finalContext
        let final ← lift (liftDomain (executor.gate.evaluateEffect command.proposal
          (refreshContext context ports.beforeEffect true) (some command.priorPlan)))
        note (.decided final)
        if final.allowed then
          if truth.amountPaidMinor ≠ 0 then
            let result ← moving (review job command workerId ports.endedAt final
              "final_provider_amount_paid_requires_review" truth.status false)
            return .finished result
          else return .cleared final truth.status
        else
          let result ← moving (deadLetter job command workerId ports.endedAt final
            s!"final_effect_gate_denied:{reasonText final}" .blocked (some truth.status) false)
          return .finished result
  | _, failure =>
    let failure := failure.getD "binding_missing"
    let result ← moving (deadLetter job command workerId ports.endedAt effect
      s!"pre_effect_binding_failure:{failure}" .escalated (some truth.status) false)
    return .finished result

/-- `_reconcile_after_effect`: the link and the binding are read again. -/
def reconciling (effect : GateDecision) (reason : String) : CancelRun CancellationResult := do
  note (.fetched (fetchTruth ports.fetchAfter))
  let binding ← lift ports.bindingAfter
  note (.bindingRead binding)
  moving (executor.reconcileAfterEffect job command workerId ports.endedAt effect reason
    (fetchTruth ports.fetchAfter) ports.checkedAfter (.ok binding))

/-- The cancel itself, behind the last decision; the context of that is recorded with it. -/
def cancelling (effect : GateDecision) : CancelRun CancellationResult := do
  let context ← lift ports.finalContext
  lift (ports.recordCancellationAuthorization effect context)
  note (.authorized effect)
  note .cancelCalled
  executor.reconciling job command workerId ports effect
    (cancelAnswer command.target.toTargetFields ports.cancel).reason

/-- `CancelPaymentLinkExecutor.execute`. -/
def execute : CancelRun CancellationResult := do
  match ← executor.looking job command workerId ports with
  | .finished result => return result
  | .seen effect truth =>
    match ← executor.rechecking job command workerId ports effect truth with
    | .finished result => return result
    | .cleared final _ => executor.cancelling job command workerId ports final

/-! ## Without the trace -/

variable {executor job command workerId ports}

@[simp] theorem result_moving (call : Except ControlPlaneError CancellationResult) :
    (moving call).result = call := by
  unfold moving
  rw [result_lift_bind]
  cases call with
  | error e => rfl
  | ok result => rfl

/-- A call that ends a phase. -/
theorem result_finishing {α : Type} (call : Except ControlPlaneError CancellationResult)
    (wrap : CancellationResult → α) :
    (moving call >>= fun result => pure (wrap result) : CancelRun α).result = call.map wrap := by
  rw [result_bind, result_moving]
  cases call with
  | error e => rfl
  | ok result => rfl

theorem result_looking :
    (executor.looking job command workerId ports).result =
      executor.look job command workerId ports.endedAt ports.startedAt ports.binding
        ports.context (fetchTruth ports.fetch) := by
  unfold looking look
  simp only [result_lift_bind, result_note_bind]
  refine bind_congr fun _ => bind_congr fun binding => bind_congr fun fresh =>
    bind_congr fun effect => ?_
  cases binding with
  | none => exact result_finishing _ _
  | some binding =>
    cases hfailure : cancelBindingFailure job command (some binding) ports.startedAt with
    | some failure => exact result_finishing _ _
    | none =>
      by_cases hallowed : effect.allowed = true
      · simp only [hallowed, if_true, result_note_bind]
        cases htruth : fetchTruth ports.fetch with
        | error failure => exact result_finishing _ _
        | ok truth =>
          by_cases hmatch : truth.matchesTarget command.target.toTargetFields = true
          · simp only [hmatch, if_true, result_lift_bind]
            refine bind_congr fun resolved => ?_
            cases resolved with
            | none => rfl
            | some result => rfl
          · simp only [hmatch]
            exact result_finishing _ _
      · simp only [hallowed]
        exact result_finishing _ _

theorem result_rechecking {effect : GateDecision} {truth : ProviderPaymentLinkTruth} :
    (executor.rechecking job command workerId ports effect truth).result =
      executor.recheck job command workerId ports.endedAt effect truth ports.checkedAt
        ports.refreshedBinding ports.beforeEffect ports.finalContext := by
  unfold rechecking recheck
  simp only [result_lift_bind, result_note_bind]
  refine bind_congr fun binding => ?_
  cases binding with
  | none => exact result_finishing _ _
  | some binding =>
    cases hfailure : cancelBindingFailure job command (some binding) ports.checkedAt with
    | some failure => exact result_finishing _ _
    | none =>
      simp only [result_lift_bind]
      refine bind_congr fun resolved => ?_
      cases resolved with
      | some result => rfl
      | none =>
        by_cases hmode : job.retryMode = .reconcileOnly
        · simp only [hmode, if_true]
          exact result_finishing _ _
        · simp only [hmode, if_false, result_lift_bind, result_note_bind]
          refine bind_congr fun _ => bind_congr fun context => bind_congr fun final => ?_
          by_cases hallowed : final.allowed = true
          · simp only [hallowed, if_true]
            by_cases hpaid : truth.amountPaidMinor ≠ 0
            · rw [if_pos hpaid, if_pos hpaid]
              exact result_finishing _ _
            · rw [if_neg hpaid, if_neg hpaid]
              rfl
          · simp only [hallowed]
            exact result_finishing _ _

theorem result_reconciling {effect : GateDecision} {reason : String} :
    (executor.reconciling job command workerId ports effect reason).result =
      executor.reconcileAfterEffect job command workerId ports.endedAt effect reason
        (fetchTruth ports.fetchAfter) ports.checkedAfter ports.bindingAfter := by
  unfold reconciling
  rw [result_note_bind, result_lift_bind]
  cases hbinding : ports.bindingAfter with
  | error e => rfl
  | ok binding =>
    show (moving _).result = _
    exact result_moving _

/-- **Without its trace, an execution is its three parts one after the other.** -/
theorem result_execute :
    (executor.execute job command workerId ports).result = (do
      match ← executor.look job command workerId ports.endedAt ports.startedAt ports.binding
          ports.context (fetchTruth ports.fetch) with
      | .finished result => return result
      | .seen effect truth =>
        match ← executor.recheck job command workerId ports.endedAt effect truth ports.checkedAt
            ports.refreshedBinding ports.beforeEffect ports.finalContext with
        | .finished result => return result
        | .cleared final _ =>
          let context ← ports.finalContext
          ports.recordCancellationAuthorization final context
          executor.reconcileAfterEffect job command workerId ports.endedAt final
            (cancelAnswer command.target.toTargetFields ports.cancel).reason
            (fetchTruth ports.fetchAfter) ports.checkedAfter ports.bindingAfter) := by
  unfold execute
  rw [result_bind, result_looking]
  refine bind_congr fun looked => ?_
  cases looked with
  | finished result => rfl
  | seen effect truth =>
    simp only
    rw [result_bind, result_rechecking]
    refine bind_congr fun rechecked => ?_
    cases rechecked with
    | finished result => rfl
    | cleared final shown =>
      simp only [cancelling, result_lift_bind, result_note_bind, result_reconciling]

end CancelPaymentLinkExecutor

end

end Retrywise.ControlPlane
