import Retrywise.ControlPlane.BoundedDeliveries
import Retrywise.ControlPlane.CancellationExecution
import Retrywise.ControlPlane.CancellationWorker
import Retrywise.ControlPlane.DeliverySettles
import Retrywise.Domain.GateReasons

/-!
# What a cancellation tells the outbox

The executor ends the job of a cancellation under the rules of the job, and the handler
passes on how it ended, under the rules of a handler result. The texts of the executor are
short enough for both. The modes are not the same: a job may wait for a delivery like any
other, and a handler result has no word for that.

> `told_iff`: what the handler returns is how the executor left the job, unless a fresh
> delivery got no answer from the provider and has attempts left.
-/

namespace Retrywise.ControlPlane.Cancellation

open Retrywise.Foundation Retrywise.Domain CancelPaymentLinkExecutor

/-! ## Lengths of texts -/

/-- The text has no more than so many characters. -/
def Within (maximum : Nat) (text : String) : Prop := text.toList.length ≤ maximum

instance (maximum : Nat) (text : String) : Decidable (Within maximum text) :=
  inferInstanceAs (Decidable (_ ≤ _))

theorem Within.mono {least most : Nat} {text : String} (h : Within least text)
    (hroom : least ≤ most) : Within most text := Nat.le_trans h hroom

theorem Within.append {m n : Nat} {lead text : String} (hlead : Within m lead)
    (htext : Within n text) : Within (m + n) (lead ++ text) := by
  show (lead ++ text).toList.length ≤ m + n
  rw [String.toList_append, List.length_append]
  exact Nat.add_le_add hlead htext

theorem isCleanText_of_within {maximum most : Nat} {text : String}
    (hclean : isCleanText most text = true) (h : Within maximum text) :
    isCleanText maximum text = true := by
  simp only [isCleanText, Bool.and_eq_true, decide_eq_true_eq] at hclean ⊢
  exact ⟨⟨hclean.1.1, h⟩, hclean.2⟩

theorem within_safeExceptionReason {m : Nat} {lead : String} (name : String)
    (hlead : Within m lead) : Within (m + 81) (safeExceptionReason lead name) := by
  have hshown : ∀ safe : List Char, safe.length ≤ 80 →
      Within 80 (if safe = [] then "exception" else String.ofList safe) := by
    intro safe hsafe
    split
    · show "exception".toList.length ≤ 80
      decide
    · show (String.ofList safe).toList.length ≤ 80
      rw [String.toList_ofList]
      exact hsafe
  have htaken := hshown _ (List.length_take_le 80 (name.toList.map fun c =>
    if c.isLower || c.isDigit || c = '_' then c else '_'))
  exact (hlead.append (by decide : Within 1 ":")).append htaken

theorem within_failure (failure : FetchFailure) : Within 105 failure.reason := by
  cases failure with
  | exception name =>
    exact within_safeExceptionReason name (by decide : Within 24 "provider_fetch_exception")
  | contractInvalid =>
    show Within 105 "provider_truth_contract_invalid"
    decide

theorem within_statusText (status : InstrumentStatus) : Within 14 (statusText status) := by
  cases status <;> decide

theorem within_providerStatus (status : ProviderPaymentLinkStatus) : Within 14 status.value := by
  cases status <;> decide

/-- A phase of the execution, as it leads the reasons. -/
def phases : List String := ["pre_cancel", "pre_effect", "post_cancel"]

theorem within_phase {phase : String} (h : phase ∈ phases) : Within 11 phase := by
  unfold phases at h
  simp only [List.mem_cons, List.not_mem_nil, or_false] at h
  rcases h with rfl | rfl | rfl
  · decide
  · decide
  · decide

theorem within_cancelStatus (status : ProviderCancellationStatus) : Within 15 status.value := by
  cases status <;> decide

theorem within_reasonCode (outcome : ProviderCancellationResult) :
    Within 128 outcome.reasonCode := by
  obtain ⟨_, hreason, -⟩ := bind_ok_iff.mp outcome.valid
  rw [raiseIf_ok_iff, not_not, isOutcomeReason] at hreason
  show outcome.reasonCode.toList.length ≤ 128
  split at hreason
  next => exact absurd hreason (by simp)
  next c rest hchars =>
    simp only [Bool.and_eq_true, decide_eq_true_eq] at hreason
    rw [hchars, List.length_cons]
    omega

theorem contractInvalid_of_normalizeTruth {value : ProviderValue} {failure : FetchFailure}
    (h : normalizeTruth value = .error failure) : failure = .contractInvalid := by
  unfold normalizeTruth at h
  split at h
  next => exact absurd h (by simp)
  next attr =>
    split at h
    next => exact (Except.error.inj h).symm
    next fields =>
      split at h
      next => exact (Except.error.inj h).symm
      next => exact absurd h (by simp)

/-- The rest of the attributes, with the link or without one. -/
theorem within_restOfOutcome {status : ProviderCancellationStatus} {reasonCode : Json}
    {link : Option ProviderPaymentLinkTruth} {failure : String}
    (h : (match reasonCode with
      | .str reasonCode =>
        let fields : CancellationOutcomeFields := { status, reasonCode, paymentLink := link }
        match valid : fields.postInit with
        | .error _ => (.error "provider_cancel_contract_invalid" :
            Except String ProviderCancellationResult)
        | .ok () => .ok ⟨fields, valid⟩
      | _ => .error "provider_cancel_contract_invalid") = .error failure) :
    Within 32 failure := by
  have hinvalid : Within 32 "provider_cancel_contract_invalid" := by decide
  split at h
  next reasonCode =>
    dsimp only at h
    split at h
    next =>
      rw [← Except.error.inj h]
      exact hinvalid
    next => exact absurd h (by simp)
  next =>
    rw [← Except.error.inj h]
    exact hinvalid

/-- Why an answer of the provider is none. -/
theorem within_notNormalized {value : CancelValue} {failure : String}
    (h : normalizeCancelOutcome value = .error failure) : Within 32 failure := by
  have hinvalid : Within 32 "provider_cancel_contract_invalid" := by decide
  unfold normalizeCancelOutcome at h
  split at h
  next => exact absurd h (by simp)
  next value reasonCode paymentLink =>
    split at h
    next =>
      rw [← Except.error.inj h]
      exact hinvalid
    next status hstatus =>
      dsimp only at h
      split at h
      next => exact within_restOfOutcome h
      next shown =>
        split at h
        next e htruth =>
          rw [← Except.error.inj h, contractInvalid_of_normalizeTruth htruth]
          decide
        next truth htruth => exact within_restOfOutcome h
  next =>
    rw [← Except.error.inj h]
    exact hinvalid

theorem within_outcomeReason (status : ProviderCancellationStatus) {reasonCode : String}
    (matching : Bool) (h : Within 128 reasonCode) :
    Within 169 (CancelAnswer.outcome status reasonCode matching).reason := by
  have hreason : Within 144 (status.value ++ ":" ++ reasonCode) :=
    ((within_cancelStatus status).append (by decide : Within 1 ":")).append h
  unfold CancelAnswer.reason
  dsimp only
  split
  next => exact hreason.append (by decide : Within 25 ":response_target_mismatch")
  next => exact hreason.mono (by decide)

/-- What a cancel answered, as a reason. -/
theorem within_cancelAnswer (target : TargetFields) (answer : Except String CancelValue) :
    Within 169 (cancelAnswer target answer).reason := by
  cases answer with
  | error name =>
    refine (within_safeExceptionReason name (by decide : Within 21 "cancel_port_exception")).mono ?_
    decide
  | ok value =>
    unfold cancelAnswer
    dsimp only
    split
    next failure hvalue =>
      have hreason := (by decide : Within 23 "cancel_outcome_invalid:").append
        (within_notNormalized hvalue)
      exact hreason.mono (by decide)
    next outcome _ => exact within_outcomeReason _ _ (within_reasonCode outcome)

section

variable [Hashlib] {gate : DeterministicGate} {proposal : ActionProposal} {context : GateContext}
  {plan : Option GateDecision} {effect : GateDecision}

omit [Hashlib] in
theorem only_of_cancel {actions : List ActionType} {reasons : List GateReason}
    (hcancel : proposal.actionType = .cancelPaymentLink)
    (hactions : ActionType.cancelPaymentLink ∉ actions) :
    DeterministicGate.only proposal actions reasons = [] := by
  unfold DeterministicGate.only
  rw [hcancel]
  exact if_neg hactions

omit [Hashlib] in
/-- Of the switches, one is asked about a cancellation. -/
theorem length_switchReasons_of_cancel (hcancel : proposal.actionType = .cancelPaymentLink) :
    (DeterministicGate.switchReasons proposal context).length ≤ 1 := by
  have hcollects : ActionType.cancelPaymentLink ∉ collectionActions := by decide
  have hoff : ∀ (switch : Bool) (reason : GateReason),
      reasonIf (ActionType.cancelPaymentLink ∈ collectionActions ∧ switch = true) reason = [] :=
    fun switch reason => reasonIf_eq_nil.mpr fun h => hcollects h.1
  unfold DeterministicGate.switchReasons
  rw [hcancel, hoff, hoff, List.append_nil, List.append_nil]
  exact length_reasonIf _ _

theorem length_planReasons :
    (DeterministicGate.planReasons gate proposal context plan).length ≤ 1 + 1 := by
  refine length_append_le ?_ (length_reasonIf _ _)
  split
  · exact le_rfl
  · exact length_reasonIf _ _

/-- A cancellation is denied with at most eleven reasons. -/
theorem length_reasons_of_cancel (hcancel : proposal.actionType = .cancelPaymentLink)
    (h : gate.evaluateEffect proposal context plan = .ok effect) : effect.reasons.length ≤ 11 := by
  obtain ⟨horizon, -, h⟩ := bind_ok_iff.mp h
  rw [← pure_ok_iff.mp h]
  have hcollects : ActionType.cancelPaymentLink ∉ collectionActions := by decide
  have hcontacts : ActionType.cancelPaymentLink ∉ contactActions := by decide
  show (gate.reasons .effect proposal context horizon plan).length ≤ 5 + 1 + 2 + 1 + 2
  unfold DeterministicGate.reasons
  simp only [only_of_cancel hcancel hcollects, only_of_cancel hcancel hcontacts, List.append_nil,
    if_true]
  exact length_append_le (length_append_le (length_append_le (length_append_le
    length_standingReasons (length_switchReasons_of_cancel hcancel)) (length_caseReasons _))
    length_instrumentReasons) (length_only length_planReasons)

/-- The codes of a denied cancellation leave room for what they stand behind. -/
theorem within_reasonText (hcancel : proposal.actionType = .cancelPaymentLink)
    (h : gate.evaluateEffect proposal context plan = .ok effect) :
    Within 407 (CancelPaymentLinkExecutor.reasonText effect) := by
  have hcodes := codesLength_le effect.reasons
  have hmost := length_reasons_of_cancel hcancel h
  show (reasonValues effect.reasons).toList.length ≤ 407
  rw [length_reasonValues]
  omega

/-! ## How an execution ends -/

variable {executor : CancelPaymentLinkExecutor} {job updated : OutboxJob}
  {command : CancelPaymentLinkCommand} {workerId reason phase : String} {endedAt : Timestamp}
  {result : CancellationResult} {attempted : Bool}

/-- The ways a result can end a delivery that has an answer for the outbox. -/
inductive Answered (command : CancelPaymentLinkCommand) (result : CancellationResult) : Prop
  | completed (disposition : result.disposition ∈ completedDispositions)
      (state : result.job.state = .completed)
      (link : result.paymentLinkId = command.target.paymentLinkId)
  | dead (disposition : result.disposition ∉ completedDispositions)
      (past : result.disposition ≠ .reconcileRequired) (state : result.job.state = .deadLetter)
      (reason : isCleanText 500 result.reasonCode = true)
  | waiting (disposition : result.disposition = .reconcileRequired)
      (state : result.job.state = .pending) (reason : isCleanText 500 result.reasonCode = true)
      (mode : result.job.retryMode ≠ .normal)

theorem state_of_complete {leaseToken reference : String} {version : Nat}
    (h : job.complete workerId leaseToken endedAt version reference = .ok updated) :
    updated.state = .completed := by
  have happly : (JobCommand.complete workerId leaseToken endedAt version reference).apply job =
      .ok updated := h
  obtain ⟨draft, hdraft, hwritten⟩ := apply_ok_iff.mp happly
  cases hdraft with
  | complete =>
    rw [JobFields.build_ok_iff.mp hwritten]
  | completed _ hstate =>
    rw [← Except.ok.inj hwritten]
    exact hstate

theorem state_of_deadLetter {leaseToken : String} {version : Nat}
    (h : job.deadLetter workerId leaseToken endedAt version reason = .ok updated) :
    updated.state = .deadLetter := by
  have happly : (JobCommand.deadLetter workerId leaseToken endedAt version reason).apply job =
      .ok updated := h
  obtain ⟨draft, hdraft, hwritten⟩ := apply_ok_iff.mp happly
  cases hdraft with
  | deadLetter =>
    rw [JobFields.build_ok_iff.mp hwritten]
  | dead _ hstate =>
    rw [← Except.ok.inj hwritten]
    exact hstate

/-- Where a retry leaves a job, by the attempts it has left. -/
theorem state_of_requeue {leaseToken : String} {version : Nat} {backoff : BackoffPolicy}
    {mode : RetryMode}
    (h : job.requeue workerId leaseToken endedAt version reason backoff mode = .ok updated) :
    isCleanText 512 reason = true ∧ updated.retryMode = mode ∧
      updated.state = if job.attempts < job.maxAttempts then .pending else .deadLetter := by
  have happly : (JobCommand.requeue workerId leaseToken endedAt version reason backoff mode).apply
      job = .ok updated := h
  obtain ⟨draft, hdraft, hwritten⟩ := apply_ok_iff.mp happly
  cases hdraft with
  | requeue htext _ hleft =>
    rw [JobFields.build_ok_iff.mp hwritten, if_pos hleft]
    exact ⟨htext, rfl, rfl⟩
  | giveUp htext _ hleft =>
    rw [JobFields.build_ok_iff.mp hwritten, if_neg (by omega)]
    exact ⟨htext, rfl, rfl⟩

theorem answered_of_complete {disposition : CancellationDisposition}
    {shown : ProviderPaymentLinkStatus} (hdisposition : disposition ∈ completedDispositions)
    (h : complete job command workerId endedAt effect reason disposition shown attempted =
      .ok result) : Answered command result := by
  obtain ⟨completed, hcompleted, h⟩ := bind_ok_iff.mp h
  rw [← pure_ok_iff.mp h]
  exact .completed hdisposition (state_of_complete hcompleted) rfl

theorem answered_of_deadLetter {disposition : CancellationDisposition}
    {shown : Option ProviderPaymentLinkStatus} (hdisposition : disposition ∉ completedDispositions)
    (hover : disposition ≠ .reconcileRequired) (hreason : Within 500 reason)
    (h : deadLetter job command workerId endedAt effect reason disposition shown attempted =
      .ok result) : Answered command result := by
  obtain ⟨dead, hdead, h⟩ := bind_ok_iff.mp h
  obtain ⟨_, htext, -⟩ := bind_ok_iff.mp hdead
  rw [requireText_ok_iff] at htext
  rw [← pure_ok_iff.mp h]
  exact .dead hdisposition hover (state_of_deadLetter hdead) (isCleanText_of_within htext hreason)

theorem answered_of_review {shown : ProviderPaymentLinkStatus} (hreason : Within 500 reason)
    (h : review job command workerId endedAt effect reason shown attempted = .ok result) :
    Answered command result :=
  answered_of_deadLetter (by decide) (by decide) hreason h

/-- What a retry that is asked for with a mode leaves. -/
theorem of_requeue {mode : RetryMode} {shown : Option ProviderPaymentLinkStatus}
    (hreason : Within 500 reason)
    (h : executor.requeue job command workerId endedAt effect reason mode shown attempted =
      .ok result) :
    isCleanText 500 result.reasonCode = true ∧ result.job.retryMode = mode ∧
      if job.attempts < job.maxAttempts then
        result.disposition = .reconcileRequired ∧ result.job.state = .pending
      else result.disposition = .deadLetter ∧ result.job.state = .deadLetter := by
  obtain ⟨updated, hupdated, h⟩ := bind_ok_iff.mp h
  obtain ⟨htext, hmode, hstate⟩ := state_of_requeue hupdated
  rw [← pure_ok_iff.mp h]
  refine ⟨isCleanText_of_within htext hreason, hmode, ?_⟩
  by_cases hleft : job.attempts < job.maxAttempts
  · rw [if_pos hleft] at hstate ⊢
    exact ⟨if_neg (by rw [hstate]; simp), hstate⟩
  · rw [if_neg hleft] at hstate ⊢
    exact ⟨if_pos hstate, hstate⟩

theorem answered_of_requeue {mode : RetryMode} {shown : Option ProviderPaymentLinkStatus}
    (hmode : mode ≠ .normal) (hreason : Within 500 reason)
    (h : executor.requeue job command workerId endedAt effect reason mode shown attempted =
      .ok result) : Answered command result := by
  obtain ⟨hclean, hkept, hends⟩ := of_requeue hreason h
  by_cases hleft : job.attempts < job.maxAttempts
  · rw [if_pos hleft] at hends
    exact .waiting hends.1 hends.2 hclean (hkept ▸ hmode)
  · rw [if_neg hleft] at hends
    exact .dead (by rw [hends.1]; decide) (by rw [hends.1]; decide) hends.2 hclean

theorem answered_of_resolve {durable : InstrumentStatus} {shown : ProviderPaymentLinkStatus}
    (hphase : phase ∈ phases)
    (h : executor.resolveWithoutCancel job command workerId endedAt effect durable shown phase
      attempted = .ok (some result)) : Answered command result := by
  have hlead := within_phase hphase
  unfold resolveWithoutCancel at h
  split_ifs at h
  · obtain ⟨r, hr, h⟩ := map_ok_iff.mp h
    rw [← Option.some.inj h]
    have hreason := ((hlead.append (by decide : Within 9 "_durable_")).append
      (within_statusText durable)).append (by decide : Within 16 "_requires_review")
    exact answered_of_review (hreason.mono (by decide)) hr
  · obtain ⟨r, hr, h⟩ := map_ok_iff.mp h
    rw [← Option.some.inj h]
    have hreason := ((hlead.append (by decide : Within 10 "_provider_")).append
      (within_providerStatus shown)).append (by decide : Within 16 "_requires_review")
    exact answered_of_review (hreason.mono (by decide)) hr
  · obtain ⟨r, hr, h⟩ := map_ok_iff.mp h
    rw [← Option.some.inj h]
    exact answered_of_complete (by decide) hr
  · obtain ⟨r, hr, h⟩ := map_ok_iff.mp h
    rw [← Option.some.inj h]
    exact answered_of_complete (by decide) hr
  · obtain ⟨r, hr, h⟩ := map_ok_iff.mp h
    rw [← Option.some.inj h]
    have hreason := ((hlead.append (by decide : Within 9 "_durable_")).append
      (within_statusText durable)).append
      (by decide : Within 38 "_conflicts_with_created_provider_truth")
    exact answered_of_requeue (by decide) (hreason.mono (by decide)) hr
  · exact absurd (Except.ok.inj h) (by simp)
  · obtain ⟨r, hr, h⟩ := map_ok_iff.mp h
    rw [← Option.some.inj h]
    have hreason := hlead.append (by decide : Within 34 "_instrument_status_not_cancellable")
    exact answered_of_deadLetter (by decide) (by decide) (hreason.mono (by decide)) hr

/-! ## A look at the link that finds nothing out -/

variable {ports : CancelPorts} {startedAt checkedAt beforeEffect : Timestamp}

/-- The binding is proved and the gate allows the effect, and the provider shows nothing. -/
def LooksInVain (executor : CancelPaymentLinkExecutor) (job : OutboxJob)
    (command : CancelPaymentLinkCommand) (ports : CancelPorts) : Prop :=
  ∃ binding fresh effect failure, ports.binding = .ok (some binding) ∧
    cancelBindingFailure job command (some binding) ports.startedAt = none ∧
    ports.context = .ok fresh ∧
    executor.gate.evaluateEffect command.proposal (refreshContext fresh ports.startedAt true)
      (some command.priorPlan) = .ok effect ∧
    effect.allowed = true ∧ fetchTruth ports.fetch = .error failure

/-- The mode of the retry behind such a look. -/
def modeInVain (job : OutboxJob) : RetryMode :=
  if job.retryMode = .reconcileOnly then .reconcileOnly else .normal

theorem within_bindingFailure {binding : Option DurableInstrumentBinding} {failure : String}
    (h : cancelBindingFailure job command binding startedAt = some failure) : Within 53 failure := by
  unfold cancelBindingFailure at h
  split_ifs at h
  · rw [← Option.some.inj h]
    decide
  · rw [← Option.some.inj h]
    decide
  · split at h
    next =>
      rw [← Option.some.inj h]
      decide
    next =>
      split_ifs at h
      · rw [← Option.some.inj h]
        decide
      · rw [← Option.some.inj h]
        decide
      · rw [← Option.some.inj h]
        decide

theorem within_noBinding {binding : Option DurableInstrumentBinding} :
    Within 53 ((cancelBindingFailure job command binding startedAt).getD "binding_missing") := by
  cases hfailure : cancelBindingFailure job command binding startedAt with
  | none =>
    show Within 53 "binding_missing"
    decide
  | some failure => exact within_bindingFailure hfailure

theorem cancels (command : CancelPaymentLinkCommand) :
    command.proposal.actionType = .cancelPaymentLink := by
  obtain ⟨_, haction, -⟩ := bind_ok_iff.mp command.valid
  exact not_not.mp (raiseIf_ok_iff.mp haction)

theorem answered_of_blocked {fresh : GateContext} {plan : Option GateDecision}
    (heffect : executor.gate.evaluateEffect command.proposal fresh plan = .ok effect)
    (h : blocked job command workerId endedAt effect = .ok result) : Answered command result := by
  have hcodes := within_reasonText (cancels command) heffect
  have hlead : Within 27 (if effect.reasons.any fun reason => reason ∈ authorizationFaults then
      "effect_authorization_fault" else "effect_gate_denied") := by
    split
    · decide
    · decide
  have hreason := (hlead.append (by decide : Within 1 ":")).append hcodes
  exact answered_of_deadLetter (by decide) (by decide) (hreason.mono (by decide)) h

theorem answered_of_unbound {lead failure : String} {shown : Option ProviderPaymentLinkStatus}
    (hlead : Within 28 lead) (hfailure : Within 53 failure)
    (h : deadLetter job command workerId endedAt effect (lead ++ failure) .escalated shown attempted =
      .ok result) : Answered command result :=
  answered_of_deadLetter (by decide) (by decide) ((hlead.append hfailure).mono (by decide)) h

/-- A look that ends the delivery has an answer, or was in vain. -/
theorem of_look (h : executor.look job command workerId ports.endedAt ports.startedAt ports.binding
    ports.context (fetchTruth ports.fetch) = .ok (.finished result)) :
    (LooksInVain executor job command ports ∧ ∃ effect reason, Within 500 reason ∧
      executor.requeue job command workerId ports.endedAt effect reason (modeInVain job) none false =
        .ok result) ∨
    ¬LooksInVain executor job command ports ∧ Answered command result := by
  unfold look at h
  obtain ⟨_, -, h⟩ := bind_ok_iff.mp h
  obtain ⟨binding, hbinding, h⟩ := bind_ok_iff.mp h
  obtain ⟨fresh, hfresh, h⟩ := bind_ok_iff.mp h
  obtain ⟨effect, heffect, h⟩ := bind_ok_iff.mp h
  rw [liftDomain_ok_iff] at heffect
  have hunbound : Within 28 "binding_failure:" := by decide
  cases binding with
  | none =>
    obtain ⟨r, hr, h⟩ := map_ok_iff.mp h
    obtain rfl := Looked.finished.inj h
    refine .inr ⟨?_, answered_of_unbound hunbound within_noBinding hr⟩
    rintro ⟨found, _, _, _, hbinding', -⟩
    exact absurd (hbinding.symm.trans hbinding') (by simp)
  | some found =>
    cases hproved : cancelBindingFailure job command (some found) ports.startedAt with
    | some failure =>
      simp only [hproved] at h
      obtain ⟨r, hr, h⟩ := map_ok_iff.mp h
      obtain rfl := Looked.finished.inj h
      refine .inr ⟨?_, answered_of_unbound hunbound (within_bindingFailure hproved) hr⟩
      rintro ⟨found', _, _, _, hbinding', hproved', -⟩
      obtain rfl := Option.some.inj (Except.ok.inj (hbinding.symm.trans hbinding'))
      exact absurd (hproved.symm.trans hproved') (by simp)
    | none =>
      simp only [hproved] at h heffect
      by_cases hallowed : effect.allowed = true
      · rw [if_pos hallowed] at h
        cases hfetch : fetchTruth ports.fetch with
        | error failure =>
          rw [hfetch] at h
          obtain ⟨r, hr, h⟩ := map_ok_iff.mp h
          obtain rfl := Looked.finished.inj h
          have hreason := (by decide : Within 29 "pre_cancel_truth_unavailable:").append
            (within_failure failure)
          exact .inl ⟨⟨found, fresh, effect, failure, hbinding, hproved, hfresh, heffect, hallowed,
            hfetch⟩, effect, _, hreason.mono (by decide), hr⟩
        | ok shown =>
          rw [hfetch] at h
          have hseen : ¬LooksInVain executor job command ports := by
            rintro ⟨_, _, _, _, -, -, -, -, -, hvain⟩
            exact absurd (hfetch.symm.trans hvain) (by simp)
          refine .inr ⟨hseen, ?_⟩
          by_cases hmatches : shown.matchesTarget command.target.toTargetFields = true
          · simp only [if_pos hmatches] at h
            obtain ⟨resolved, hresolved, h⟩ := bind_ok_iff.mp h
            cases resolved with
            | none => exact absurd (pure_ok_iff.mp h) (by simp)
            | some r =>
              obtain rfl := Looked.finished.inj (pure_ok_iff.mp h)
              exact answered_of_resolve (by decide) hresolved
          · simp only [if_neg hmatches] at h
            obtain ⟨r, hr, h⟩ := map_ok_iff.mp h
            obtain rfl := Looked.finished.inj h
            exact answered_of_deadLetter (by decide) (by decide) (by decide) hr
      · rw [if_neg hallowed] at h
        obtain ⟨r, hr, h⟩ := map_ok_iff.mp h
        obtain rfl := Looked.finished.inj h
        refine .inr ⟨?_, answered_of_blocked heffect hr⟩
        rintro ⟨found', fresh', effect', _, hbinding', -, hfresh', heffect', hallowed', -⟩
        obtain rfl := Except.ok.inj (hfresh.symm.trans hfresh')
        obtain rfl := Except.ok.inj (heffect.symm.trans heffect')
        exact hallowed hallowed'

/-- A look in vain is no look at the link. -/
theorem not_inVain_of_seen {truth : ProviderPaymentLinkTruth}
    (h : executor.look job command workerId ports.endedAt ports.startedAt ports.binding
      ports.context (fetchTruth ports.fetch) = .ok (.seen effect truth)) :
    ¬LooksInVain executor job command ports := by
  rintro ⟨found, fresh, allowed, failure, hfound, hproved, hcontext, hevaluated, hallowed, hfetch⟩
  unfold look at h
  rw [hfound, hcontext, hfetch] at h
  obtain ⟨_, -, h⟩ := bind_ok_iff.mp h
  obtain ⟨_, hbinding, h⟩ := bind_ok_iff.mp h
  obtain rfl := Except.ok.inj hbinding
  obtain ⟨_, hfresh, h⟩ := bind_ok_iff.mp h
  obtain rfl := Except.ok.inj hfresh
  obtain ⟨decided, hdecided, h⟩ := bind_ok_iff.mp h
  rw [liftDomain_ok_iff] at hdecided
  simp only [hproved] at hdecided h
  obtain rfl := Except.ok.inj (hevaluated.symm.trans hdecided)
  rw [if_pos hallowed] at h
  obtain ⟨r, -, h⟩ := map_ok_iff.mp h
  exact absurd h (by simp)

/-- A delivery under a lease whose look is in vain puts the job back. -/
theorem execute_inVain (h : LooksInVain executor job command ports)
    (hlease : job.assertActiveLease workerId job.tokenOrMissing ports.startedAt = .ok ()) :
    ∃ effect failure, fetchTruth ports.fetch = .error failure ∧
      (executor.execute job command workerId ports).result =
        executor.requeue job command workerId ports.endedAt effect
          s!"pre_cancel_truth_unavailable:{failure.reason}" (modeInVain job) none false := by
  obtain ⟨found, fresh, effect, failure, hfound, hproved, hcontext, heffect, hallowed, hfetch⟩ := h
  refine ⟨effect, failure, hfetch, ?_⟩
  have hasked : liftDomain (executor.gate.evaluateEffect command.proposal
      (refreshContext fresh ports.startedAt true) (some command.priorPlan)) = .ok effect :=
    liftDomain_ok_iff.mpr heffect
  have hlook : executor.look job command workerId ports.endedAt ports.startedAt ports.binding
      ports.context (fetchTruth ports.fetch) = (executor.requeue job command workerId ports.endedAt
        effect s!"pre_cancel_truth_unavailable:{failure.reason}" (modeInVain job) none
        false).map .finished := by
    unfold look
    rw [bind_of_ok hlease, bind_of_ok hfound, bind_of_ok hcontext]
    simp only [hproved, Option.isSome_some, Option.isNone_none, Bool.and_true]
    rw [bind_of_ok hasked, if_pos hallowed, hfetch]
    rfl
  rw [result_execute, hlook]
  cases executor.requeue job command workerId ports.endedAt effect
    s!"pre_cancel_truth_unavailable:{failure.reason}" (modeInVain job) none false with
  | error e => rfl
  | ok result => rfl

/-! ## Behind the look -/

theorem answered_of_recheck {truth : ProviderPaymentLinkTruth}
    {binding : Except ControlPlaneError (Option DurableInstrumentBinding)}
    {context : Except ControlPlaneError GateContext}
    (h : executor.recheck job command workerId endedAt effect truth checkedAt binding beforeEffect
      context = .ok (.finished result)) : Answered command result := by
  unfold recheck at h
  obtain ⟨binding, -, h⟩ := bind_ok_iff.mp h
  have hunbound : Within 28 "pre_effect_binding_failure:" := by decide
  cases binding with
  | none =>
    obtain ⟨r, hr, h⟩ := map_ok_iff.mp h
    obtain rfl := Rechecked.finished.inj h
    exact answered_of_unbound hunbound within_noBinding hr
  | some found =>
    cases hproved : cancelBindingFailure job command (some found) checkedAt with
    | some failure =>
      simp only [hproved] at h
      obtain ⟨r, hr, h⟩ := map_ok_iff.mp h
      obtain rfl := Rechecked.finished.inj h
      exact answered_of_unbound hunbound (within_bindingFailure hproved) hr
    | none =>
      simp only [hproved] at h
      obtain ⟨resolved, hresolved, h⟩ := bind_ok_iff.mp h
      cases resolved with
      | some r =>
        obtain rfl := Rechecked.finished.inj (pure_ok_iff.mp h)
        exact answered_of_resolve (by decide) hresolved
      | none =>
        by_cases hmode : job.retryMode = .reconcileOnly
        · simp only [if_pos hmode] at h
          obtain ⟨r, hr, h⟩ := map_ok_iff.mp h
          obtain rfl := Rechecked.finished.inj h
          exact answered_of_requeue (by decide) (by decide) hr
        · simp only [if_neg hmode] at h
          obtain ⟨_, -, h⟩ := bind_ok_iff.mp h
          obtain ⟨fresh, -, h⟩ := bind_ok_iff.mp h
          obtain ⟨final, hfinal, h⟩ := bind_ok_iff.mp h
          by_cases hallowed : final.allowed = true
          · rw [if_pos hallowed] at h
            by_cases hpaid : truth.amountPaidMinor ≠ 0
            · rw [if_pos hpaid] at h
              obtain ⟨r, hr, h⟩ := map_ok_iff.mp h
              obtain rfl := Rechecked.finished.inj h
              exact answered_of_review (by decide) hr
            · rw [if_neg hpaid] at h
              exact absurd (pure_ok_iff.mp h) (by simp)
          · rw [if_neg hallowed] at h
            obtain ⟨r, hr, h⟩ := map_ok_iff.mp h
            obtain rfl := Rechecked.finished.inj h
            have hcodes := within_reasonText (cancels command) (liftDomain_ok_iff.mp hfinal)
            have hreason := (by decide : Within 25 "final_effect_gate_denied:").append hcodes
            exact answered_of_deadLetter (by decide) (by decide) (hreason.mono (by decide)) hr

theorem answered_of_reconcile {truth : Except FetchFailure ProviderPaymentLinkTruth}
    {binding : Except ControlPlaneError (Option DurableInstrumentBinding)}
    (hreason : Within 169 reason)
    (h : executor.reconcileAfterEffect job command workerId endedAt effect reason truth checkedAt
      binding = .ok result) : Answered command result := by
  unfold reconcileAfterEffect at h
  obtain ⟨binding, -, h⟩ := bind_ok_iff.mp h
  have hunbound : Within 28 "post_cancel_binding_failure:" := by decide
  cases binding with
  | none => exact answered_of_unbound hunbound within_noBinding h
  | some found =>
    cases hproved : cancelBindingFailure job command (some found) checkedAt with
    | some failure =>
      simp only [hproved] at h
      exact answered_of_unbound hunbound (within_bindingFailure hproved) h
    | none =>
      simp only [hproved] at h
      cases truth with
      | error failure =>
        have htext := (((by decide : Within 30 "post_cancel_truth_unavailable:").append
          hreason).append (by decide : Within 1 ":")).append (within_failure failure)
        exact answered_of_requeue (by decide) (htext.mono (by decide)) h
      | ok truth =>
        simp only at h
        split_ifs at h
        · have htext := ((by decide : Within 20 "post_cancel_durable_").append
            (within_statusText found.instrumentStatus)).append
            (by decide : Within 16 "_requires_review")
          exact answered_of_review (htext.mono (by decide)) h
        · have htext := ((by decide : Within 21 "post_cancel_provider_").append
            (within_providerStatus truth.status)).append (by decide : Within 16 "_requires_review")
          exact answered_of_review (htext.mono (by decide)) h
        · exact answered_of_complete (by decide) h
        · obtain ⟨resolved, hresolved, h⟩ := bind_ok_iff.mp h
          cases resolved with
          | some r =>
            obtain rfl := pure_ok_iff.mp h
            exact answered_of_resolve (by decide) hresolved
          | none =>
            have htext := (by decide :
              Within 50 "post_cancel_fresh_unpaid_link_grants_effect_retry:").append hreason
            exact answered_of_requeue (by decide) (htext.mono (by decide)) h
        · exact answered_of_deadLetter (by decide) (by decide) (by decide) h

/-- **An execution has an answer for the outbox, or its look was in vain.** -/
theorem of_execute (h : (executor.execute job command workerId ports).result = .ok result) :
    (LooksInVain executor job command ports ∧ ∃ effect reason, Within 500 reason ∧
      executor.requeue job command workerId ports.endedAt effect reason (modeInVain job) none false =
        .ok result) ∨
    ¬LooksInVain executor job command ports ∧ Answered command result := by
  rw [result_execute] at h
  obtain ⟨looked, hlooked, h⟩ := bind_ok_iff.mp h
  cases looked with
  | finished ended =>
    obtain rfl := pure_ok_iff.mp h
    exact of_look hlooked
  | seen effect truth =>
    refine .inr ⟨not_inVain_of_seen hlooked, ?_⟩
    obtain ⟨rechecked, hrechecked, h⟩ := bind_ok_iff.mp h
    cases rechecked with
    | finished ended =>
      obtain rfl := pure_ok_iff.mp h
      exact answered_of_recheck hrechecked
    | cleared final shown =>
      obtain ⟨_, -, h⟩ := bind_ok_iff.mp h
      obtain ⟨_, -, h⟩ := bind_ok_iff.mp h
      exact answered_of_reconcile (within_cancelAnswer _ _) h

/-! ## The handler -/

/-- The handler's check of the envelope. -/
def handles (command : CancelPaymentLinkCommand) (claimed : ClaimFields) : Bool :=
  claimed.aggregateType = "ACTION" && claimed.aggregateId = command.target.actionId &&
    claimed.merchantId = command.target.merchantId &&
    claimed.idempotencyKey = s!"cancel-payment-link:{command.proposal.actionKey}"

/-- `_job`, the fields. -/
def jobOf (claimed : ClaimFields) (command : CancelPaymentLinkCommand) : JobFields where
  jobId := claimed.jobId
  actionKey := command.proposal.actionKey
  payloadDigest := command.payloadDigest
  state := .leased
  version := claimed.deliveryVersion
  attempts := claimed.attemptCount
  maxAttempts := claimed.maxAttempts
  createdAt := claimed.createdAt
  updatedAt := claimed.claimedAt
  availableAt := none
  retryMode := claimed.retryMode
  leaseOwner := some claimed.workerId
  leaseToken := some claimed.leaseToken
  leaseExpiresAt := some claimed.leaseExpiresAt

/-- What one call of the handler meets: what the payload decodes to, the adapter factory, all
that the execution reads, and the transaction of `persist_result`. -/
structure CallPorts where
  decoded : Option CancelPaymentLinkCommand
  adapter : Except ControlPlaneError Unit
  ports : CancelPorts
  persist : OutboxJob → CancellationResult → Except ControlPlaneError Unit

omit [Hashlib] in
/-- The constructor of a handler result. -/
def made (told : HandlerResult) : Except ControlPlaneError HandlerResult := do
  told.check
  return told

omit [Hashlib] in
/-- What the last lines of the handler construct. -/
def told (result : CancellationResult) : HandlerResult :=
  if result.disposition ∈ completedDispositions then
    .succeeded s!"{result.disposition.value}:{result.paymentLinkId}"
  else if result.disposition = .reconcileRequired then
    .retry result.reasonCode result.job.retryMode
  else .deadLetter result.reasonCode

/-- What the handler tries: the execution, and the transaction of its result. -/
def attempt (executor : CancelPaymentLinkExecutor) (claimed : ClaimFields)
    (command : CancelPaymentLinkCommand) (world : CallPorts) :
    Except ControlPlaneError CancellationResult := do
  world.adapter
  let job ← (jobOf claimed command).build
  let result ← (executor.execute job command claimed.workerId world.ports).result
  world.persist job result
  return result

/-- `CancelPaymentLinkHandler.__call__`. -/
def call (executor : CancelPaymentLinkExecutor) (claimed : ClaimFields) (world : CallPorts) :
    Except ControlPlaneError HandlerResult :=
  match world.decoded with
  | none => made (.deadLetter "invalid_cancel_payment_link_command")
  | some command =>
    if handles command claimed then
      match attempt executor claimed command world with
      | .error e => made (handlerFailure e)
      | .ok result => made (told result)
    else made (.deadLetter "invalid_cancel_payment_link_command")

omit [Hashlib] in
/-- The handler result says how the job ended. -/
def Tells (job : OutboxJob) : HandlerResult → Prop
  | .succeeded _ => job.state = .completed
  | .retry _ mode => job.state = .pending ∧ job.retryMode = mode
  | .deadLetter _ => job.state = .deadLetter

omit [Hashlib] in
theorem made_ok_iff {told other : HandlerResult} :
    made told = .ok other ↔ told.check = .ok () ∧ told = other := by
  unfold made
  rw [bind_ok_iff]
  constructor
  · rintro ⟨_, hcheck, h⟩
    exact ⟨hcheck, pure_ok_iff.mp h⟩
  · rintro ⟨hcheck, rfl⟩
    exact ⟨(), hcheck, rfl⟩

omit [Hashlib] in
theorem isCleanText_reference (disposition : CancellationDisposition) {paymentLinkId : String}
    (h : isPaymentLinkId paymentLinkId = true) :
    isCleanText 500 s!"{disposition.value}:{paymentLinkId}" = true := by
  have hlead : (disposition.value ++ ":").toList.all
      (fun c => decide (33 ≤ c.toNat) && decide (c.toNat < 127)) = true ∧
      (disposition.value ++ ":").toList ≠ [] ∧ Within 19 (disposition.value ++ ":") := by
    cases disposition <;> decide
  obtain ⟨hgraphic, hsome, hshort⟩ := hlead
  have hroom : (disposition.value ++ ":").toList.length + 126 ≤ 500 :=
    Nat.le_trans (Nat.add_le_add_right hshort 126) (by decide)
  exact isCleanText_append hgraphic hsome (isCleanText_paymentLinkId (le_refl _) h) hroom

theorem isPaymentLinkId_of_target (target : CancellationTarget) :
    isPaymentLinkId target.paymentLinkId = true := by
  have hvalid := target.valid
  simp only [TargetFields.postInit, requireText, bind_ok_iff, raiseIf_ok_iff, not_not,
    exists_and_left, exists_const] at hvalid
  obtain ⟨-, -, -, -, -, -, -, hlink, -⟩ := hvalid
  exact hlink

omit [Hashlib] in
theorem check_retry_ok_iff {reason : String} {mode : RetryMode} :
    (HandlerResult.retry reason mode).check = .ok () ↔
      isCleanText 500 reason = true ∧ mode ≠ .normal := by
  simp only [HandlerResult.check, requireCleanText, bind_ok_iff, raiseIf_ok_iff, not_not,
    exists_and_left, exists_const]

/-- An answer is one that a handler result takes, and tells the outbox. -/
theorem tells_of_answered (h : Answered command result) :
    (told result).check = .ok () ∧ Tells result.job (told result) := by
  unfold told
  cases h with
  | completed hdisposition hstate hlink =>
    rw [if_pos hdisposition, hlink]
    exact ⟨raiseIf_of_not _ (not_not.mpr
      (isCleanText_reference _ (isPaymentLinkId_of_target command.target))), hstate⟩
  | dead hdisposition hover hstate hreason =>
    rw [if_neg hdisposition, if_neg hover]
    exact ⟨raiseIf_of_not _ (not_not.mpr hreason), hstate⟩
  | waiting hdisposition hstate hreason hmode =>
    rw [if_neg (by rw [hdisposition]; decide), if_pos hdisposition]
    exact ⟨check_retry_ok_iff.mpr ⟨hreason, hmode⟩, hstate, rfl⟩

/-- The delivery is to put the job back like any other, and has an attempt left to do so. -/
def PutsBackAsNormal (executor : CancelPaymentLinkExecutor) (job : OutboxJob)
    (command : CancelPaymentLinkCommand) (ports : CancelPorts) : Prop :=
  LooksInVain executor job command ports ∧ job.retryMode ≠ .reconcileOnly ∧
    job.attempts < job.maxAttempts

/-- The retry behind a look in vain has an answer, unless it is to be like any other. -/
theorem tells_inVain_iff {shown : Option ProviderPaymentLinkStatus} (hreason : Within 500 reason)
    (h : executor.requeue job command workerId endedAt effect reason (modeInVain job) shown attempted =
      .ok result) :
    ((told result).check = .ok () ∧ Tells result.job (told result)) ↔
      ¬(job.retryMode ≠ .reconcileOnly ∧ job.attempts < job.maxAttempts) := by
  obtain ⟨hclean, hmode, hends⟩ := of_requeue hreason h
  constructor
  · rintro ⟨hcheck, -⟩ ⟨hfresh, hleft⟩
    rw [if_pos hleft] at hends
    unfold told at hcheck
    rw [if_neg (by rw [hends.1]; decide), if_pos hends.1, check_retry_ok_iff, hmode, modeInVain,
      if_neg hfresh] at hcheck
    exact hcheck.2 rfl
  · intro hnot
    by_cases hreconcile : job.retryMode = .reconcileOnly
    · rw [modeInVain, if_pos hreconcile] at h
      exact tells_of_answered (answered_of_requeue (by decide) hreason h)
    · have hlast : ¬job.attempts < job.maxAttempts := fun hleft => hnot ⟨hreconcile, hleft⟩
      rw [if_neg hlast] at hends
      have hdead : Answered command result :=
        .dead (by rw [hends.1]; decide) (by rw [hends.1]; decide) hends.2 hclean
      exact tells_of_answered hdead

theorem call_executed {claimed : ClaimFields} {world : CallPorts}
    (hdecoded : world.decoded = some command) (hhandles : handles command claimed = true)
    (hadapter : world.adapter = .ok ()) (hjob : (jobOf claimed command).build = .ok job)
    (hexecuted : (executor.execute job command claimed.workerId world.ports).result = .ok result)
    (hpersisted : world.persist job result = .ok ()) :
    call executor claimed world = made (told result) := by
  have hattempt : attempt executor claimed command world = .ok result := by
    unfold attempt
    rw [bind_of_ok hadapter, bind_of_ok hjob, bind_of_ok hexecuted, bind_of_ok hpersisted]
    rfl
  unfold call
  rw [hdecoded]
  dsimp only
  rw [if_pos hhandles, hattempt]

/-- **The handler tells the outbox how its executor left the job**, unless that is to wait for
a delivery like any other. -/
theorem told_iff {claimed : ClaimFields} {world : CallPorts}
    (hdecoded : world.decoded = some command) (hhandles : handles command claimed = true)
    (hadapter : world.adapter = .ok ()) (hjob : (jobOf claimed command).build = .ok job)
    (hexecuted : (executor.execute job command claimed.workerId world.ports).result = .ok result)
    (hpersisted : world.persist job result = .ok ()) :
    (∃ answer, call executor claimed world = .ok answer ∧ answer.check = .ok () ∧
      Tells result.job answer) ↔ ¬PutsBackAsNormal executor job command world.ports := by
  have hmade : (∃ answer, call executor claimed world = .ok answer ∧ answer.check = .ok () ∧
      Tells result.job answer) ↔ (told result).check = .ok () ∧ Tells result.job (told result) := by
    rw [call_executed hdecoded hhandles hadapter hjob hexecuted hpersisted]
    constructor
    · rintro ⟨answer, hanswer, hcheck, htells⟩
      obtain ⟨-, rfl⟩ := made_ok_iff.mp hanswer
      exact ⟨hcheck, htells⟩
    · rintro ⟨hcheck, htells⟩
      exact ⟨told result, made_ok_iff.mpr ⟨hcheck, rfl⟩, hcheck, htells⟩
  rw [hmade]
  rcases of_execute hexecuted with ⟨hvain, effect, reason, hreason, hrequeued⟩ | ⟨hseen, hanswered⟩
  · rw [tells_inVain_iff hreason hrequeued]
    exact not_congr ⟨fun h => ⟨hvain, h⟩, fun h => h.2⟩
  · exact iff_of_true (tells_of_answered hanswered) fun h => hseen h.1

end

/-! ## A link that is to be cancelled -/

namespace ProtectedLink

def paymentLinkId : String := "plink_1"

def proposal : ActionProposal where
  proposalId := "prop_1"
  merchantId := LinkOffer.merchantId
  caseId := LinkOffer.caseId
  decisionVersion := 1
  actionType := .cancelPaymentLink
  createdAt := sampleStart
  expiresAt := sampleExpiry
  instrumentReference := some paymentLinkId
  valid := by
    simp only [ProposalFields.postInit]
    rfl

def gate : DeterministicGate where
  policy := {
    version := "policy-v1"
    allowedActions := [.cancelPaymentLink]
    providerSnapshotMaxAge := seconds 30
    incidentHealthMaxAge := seconds 30
    maxAttempts := 3
    maxContactsInWindow := 1
    approvalThreshold := ⟨10000, "INR", isCurrency_inr⟩
    minConfidence := LinkOffer.certain
    valid := by decide }

/-- The case has been paid, and the link is still there. -/
def context : GateContext where
  merchantId := LinkOffer.merchantId
  caseId := LinkOffer.caseId
  evaluatedAt := sampleDeadline
  aggregateVersion := 5
  expectedAggregateVersion := 5
  recoveryState := .suppressedPaid
  snapshot := {
    paymentState := .paid
    amountDue := ⟨12500, "INR", isCurrency_inr⟩
    paymentMethod := "upi"
    observedAt := sampleDeadline
    activeInstrumentCount := 1
    incidentState := .normal
    methodHealthObservedAt := sampleDeadline
    paymentMethodOk := isPaymentMethod_upi }
  environmentEffectsEnabled := true
  valid := by
    simp only [GateContextFields.postInit]
    rfl

def executor : CancelPaymentLinkExecutor where
  gate := gate

section

variable [Hashlib]

theorem reference_checked :
    checkedRecoveryReferenceId LinkOffer.caseId LinkDelivery.providerAccountId =
      .ok (makeRecoveryReferenceId LinkDelivery.providerAccountId LinkOffer.caseId) := by
  have hcase : validatedIdentifier LinkOffer.caseId "recovery_case_id" = .ok () := by
    simp only [validatedIdentifier, bind_ok_iff, raiseIf_ok_iff, exists_and_left, exists_const]
    decide
  have haccount : validatedIdentifier LinkDelivery.providerAccountId "provider_account_id" =
      .ok () := by
    simp only [validatedIdentifier, bind_ok_iff, raiseIf_ok_iff, exists_and_left, exists_const]
    decide
  unfold checkedRecoveryReferenceId
  rw [bind_of_ok hcase, bind_of_ok haccount]
  rfl

def target : CancellationTarget where
  merchantId := LinkOffer.merchantId
  caseId := LinkOffer.caseId
  actionId := LinkDelivery.actionId
  actionKey := proposal.actionKey
  instrumentId := "ins_1"
  providerAccountId := LinkDelivery.providerAccountId
  paymentLinkId := paymentLinkId
  referenceId := makeRecoveryReferenceId LinkDelivery.providerAccountId LinkOffer.caseId
  amountMinor := 12500
  currency := "INR"
  valid := by
    obtain ⟨hreference, hshort⟩ :=
      reference_ok LinkDelivery.providerAccountId LinkOffer.caseId
    have hkey : isCleanText 68 proposal.actionKey = true := by
      show isCleanText 68 ("act_" ++ sha256Json proposal.keyMaterial) = true
      exact isCleanText_append_digest (by decide) (Hashlib.isDigest_sha256Hexdigest _) (by decide)
    simp only [TargetFields.postInit, requireText, bind_ok_iff, raiseIf_ok_iff, not_not,
      exists_and_left, exists_const]
    exact ⟨by decide, by decide, by decide, by decide, by decide, hkey, isActionKey_append _,
      by decide, hreference, by omega, _, reference_checked, rfl, by decide, by decide⟩

def plan : GateDecision where
  stage := .policy
  policyVersion := "policy-v1"
  proposalId := "prop_1"
  actionKey := proposal.actionKey
  proposalDigest := proposal.proposalDigest
  caseId := LinkOffer.caseId
  decisionVersion := 1
  aggregateVersion := 5
  evaluatedAt := sampleStart
  reasons := []

def command : CancelPaymentLinkCommand where
  proposal := proposal
  priorPlan := plan
  target := target
  valid := by
    have hlink : proposal.instrumentReference = some target.paymentLinkId := rfl
    simp only [CancelCommandFields.postInit, bind_ok_iff, raiseIf_ok_iff, not_not, not_or,
      exists_and_left, exists_const]
    exact ⟨rfl, hlink, ⟨rfl, rfl, rfl⟩, ⟨rfl, rfl⟩, rfl, rfl, rfl, rfl, rfl⟩

/-- The claim of a delivery that may do this. -/
def claimed (mode : RetryMode) : ClaimFields where
  jobId := LinkDelivery.jobId
  merchantId := LinkOffer.merchantId
  aggregateType := "ACTION"
  aggregateId := LinkDelivery.actionId
  commandType := "CANCEL_PAYMENT_LINK"
  commandSchemaVersion := 1
  idempotencyKey := s!"cancel-payment-link:{proposal.actionKey}"
  attemptCount := 1
  maxAttempts := 8
  workerId := LinkDelivery.workerId
  leaseToken := "token-1"
  leaseExpiresAt := sampleExpiry
  deliveryVersion := 1
  retryMode := mode
  createdAt := sampleStart
  claimedAt := sampleStart

def job (mode : RetryMode) : OutboxJob where
  toJobFields := jobOf (claimed mode) command
  valid := by
    have hkey : isCleanText 128 proposal.actionKey = true := by
      show isCleanText 128 ("act_" ++ sha256Json proposal.keyMaterial) = true
      exact isCleanText_append_digest (by decide) (Hashlib.isDigest_sha256Hexdigest _) (by decide)
    have hdigest : isDigest command.payloadDigest = true := Hashlib.isDigest_sha256Hexdigest _
    have hexpiry : ∀ expiry, some sampleExpiry = some expiry → sampleStart < expiry := by
      intro expiry h
      rw [← Option.some.inj h]
      decide
    have hid : isCleanText 128 LinkDelivery.jobId = true := by decide
    have howner : (some LinkDelivery.workerId).all (isCleanText 512) = true := by decide
    have htoken : (some "token-1").all (isCleanText 512) = true := by decide
    exact JobFields.postInit_ok_iff.mpr ⟨hid, hkey, hdigest, Nat.succ_pos 7, Nat.succ_pos 7, le_rfl,
      howner, htoken, rfl, rfl, rfl, (JobFields.checkState_leased_iff rfl).mpr
        ⟨⟨rfl, by simp [jobOf], by simp [jobOf], by simp [jobOf]⟩, Nat.succ_pos 0, hexpiry, rfl, rfl⟩⟩

/-- Five seconds on. -/
def horizon : Timestamp := ⟨sampleDeadline.micros + 5000000, by decide, by decide⟩

theorem evaluated : ∃ effect, gate.evaluateEffect proposal
      (refreshContext context sampleDeadline true) (some plan) = .ok effect ∧
    effect.allowed = true := by
  have hshift : shift sampleDeadline gate.policy.allowedClockSkew = .ok horizon :=
    shift_ok_iff.mpr (by decide)
  have hstanding : gate.standingReasons proposal (refreshContext context sampleDeadline true)
      horizon = [] := by decide
  have hswitch : DeterministicGate.switchReasons proposal
      (refreshContext context sampleDeadline true) = [] := by decide
  have hcase : DeterministicGate.caseReasons .effect proposal
      (refreshContext context sampleDeadline true) = [] := by decide
  have hinstrument : DeterministicGate.instrumentReasons proposal
      (refreshContext context sampleDeadline true) = [] := by decide
  have hplanned : sampleStart ≤ sampleDeadline := by decide
  have hmatches : gate.PlanMatches proposal (refreshContext context sampleDeadline true) plan :=
    ⟨rfl, rfl, rfl, rfl, rfl, rfl, rfl, rfl, le_rfl, hplanned⟩
  have hplan : gate.planReasons proposal (refreshContext context sampleDeadline true) (some plan) =
      [] := DeterministicGate.planReasons_eq_nil_iff.mpr ⟨⟨plan, rfl, hmatches⟩, rfl⟩
  have hreasons : gate.reasons .effect proposal (refreshContext context sampleDeadline true) horizon
      (some plan) = [] := by
    have hcancel : proposal.actionType = .cancelPaymentLink := rfl
    have hcollects : ActionType.cancelPaymentLink ∉ collectionActions := by decide
    have hcontacts : ActionType.cancelPaymentLink ∉ contactActions := by decide
    unfold DeterministicGate.reasons
    simp only [only_of_cancel hcancel hcollects, only_of_cancel hcancel hcontacts, hstanding,
      hswitch, hcase, hinstrument, hplan, List.append_nil, if_true]
    unfold DeterministicGate.only
    rw [List.nil_append]
    exact ite_self _
  refine ⟨_, bind_ok_iff.mpr ⟨horizon, hshift, rfl⟩, ?_⟩
  show List.isEmpty (gate.reasons .effect proposal (refreshContext context sampleDeadline true)
    horizon (some plan)) = true
  rw [hreasons]
  rfl

/-- The provider does not answer. -/
def ports : CancelPorts where
  startedAt := sampleDeadline
  binding := .ok (some ⟨target, target.targetDigest, .active, sampleStart⟩)
  context := .ok context
  fetch := .error "timeouterror"
  refreshedBinding := .ok none
  checkedAt := sampleDeadline
  beforeEffect := sampleDeadline
  finalContext := .ok context
  recordCancellationAuthorization := fun _ _ => .ok ()
  cancel := .error "timeouterror"
  fetchAfter := .error "timeouterror"
  bindingAfter := .ok none
  checkedAfter := sampleDeadline
  endedAt := sampleDeadline

/-- The path of the queued action and its link. -/
def path : EffectPath :=
  let queued := LinkDelivery.path DeniedDelivery.offer
  { queued with
    action := { queued.action with actionKey := proposal.actionKey }
    instrument := { queued.instrument with
      status := .active
      providerPaymentLinkId := some paymentLinkId } }

def world : CallPorts where
  decoded := some command
  adapter := .ok ()
  ports := ports
  persist job result :=
    (persistResult (targets path target.toTargetFields) sampleDeadline path job result
      sampleDeadline).map fun _ => ()

theorem bound (mode : RetryMode) : cancelBindingFailure (job mode) command
    (some ⟨target, target.targetDigest, .active, sampleStart⟩) sampleDeadline = none := by
  have hkey : (job mode).actionKey = command.proposal.actionKey := rfl
  have hdigest : (job mode).payloadDigest = command.payloadDigest := rfl
  have hmatches : DurableInstrumentBinding.matchesCommand
      ⟨target, target.targetDigest, .active, sampleStart⟩ command = true := by
    simp only [DurableInstrumentBinding.matchesCommand, Bool.and_eq_true, decide_eq_true_eq]
    exact ⟨rfl, rfl⟩
  have hrecorded : ¬sampleStart > sampleDeadline := by decide
  have hstatus : InstrumentStatus.active ∈ bindingStatuses := by decide
  simp only [cancelBindingFailure, hkey, hdigest, hmatches, hrecorded, hstatus, ne_eq,
    not_true_eq_false, if_false, Bool.true_eq_false]

theorem inVain (mode : RetryMode) : LooksInVain executor (job mode) command ports := by
  obtain ⟨effect, heffect, hallowed⟩ := evaluated
  exact ⟨_, context, effect, .exception "timeouterror", rfl, bound mode, rfl, heffect, hallowed, rfl⟩

theorem held (mode : RetryMode) : (job mode).Held LinkDelivery.workerId sampleDeadline := by
  refine ⟨OutboxJob.assertActiveLease_ok_iff.mpr ⟨by decide, ?_, rfl, rfl, ?_, sampleExpiry, rfl,
    by decide⟩, (by decide : sampleStart ≤ sampleDeadline)⟩
  · show isCleanText 128 "token-1" = true
    decide
  · rfl

theorem decoded : world.decoded = some command := rfl

theorem adapted : world.adapter = .ok () := rfl

theorem handled (mode : RetryMode) : handles command (claimed mode) = true := by
  simp only [handles, Bool.and_eq_true, decide_eq_true_eq]
  exact ⟨⟨⟨rfl, rfl⟩, rfl⟩, rfl⟩

/-- With the action queued there is nothing to write. -/
theorem persisted {mode : RetryMode} {result : CancellationResult}
    (hdisposition : result.disposition = .reconcileRequired)
    (hattempted : result.cancelAttempted = false) : world.persist (job mode) result = .ok () := by
  have htargets : targets path target.toTargetFields = true := by
    simp only [targets, Bool.and_eq_true, decide_eq_true_eq]
    exact ⟨⟨rfl, rfl⟩, rfl⟩
  refine map_ok_iff.mpr ⟨path, ?_, rfl⟩
  unfold persistResult
  rw [htargets, bind_of_ok (raiseIf_of_not _ (by simp))]
  unfold resultUpdates
  rw [hdisposition, hattempted]
  rfl

/-- The delivery is executed, puts the job back, and is committed. -/
theorem exists_executed (mode : RetryMode) :
    ∃ result, (executor.execute (job mode) command (claimed mode).workerId world.ports).result =
        .ok result ∧ world.persist (job mode) result = .ok () ∧
      result.disposition = .reconcileRequired ∧ result.job.state = .pending ∧
      result.job.retryMode = modeInVain (job mode) := by
  obtain ⟨effect, failure, hfailure, hexecute⟩ := execute_inVain (inVain mode) (held mode).lease
  obtain rfl : .exception "timeouterror" = failure := Except.error.inj hfailure
  generalize hreason : "pre_cancel_truth_unavailable:" ++
    (FetchFailure.exception "timeouterror").reason = reason
  have htext : isCleanText 512 reason = true := by
    rw [← hreason]
    decide
  have hshort : Within 500 reason := by
    rw [← hreason]
    decide
  have hroom : sampleDeadline.micros + executor.backoff.delayAfter 1 < calendarEnd := by decide
  have hleft : (job mode).attempts < (job mode).maxAttempts := (by decide : (1 : Nat) < 8)
  obtain ⟨updated, hupdated, -⟩ := (held mode).requeue_iff.mpr (show _ ∧ _ from ⟨htext, hroom⟩)
  obtain ⟨result, hrequeued, hattempted⟩ : ∃ result, executor.requeue (job mode) command
      LinkDelivery.workerId sampleDeadline effect reason (modeInVain (job mode)) none false =
        .ok result ∧ result.cancelAttempted = false :=
    ⟨_, bind_ok_iff.mpr ⟨updated, hupdated, rfl⟩, rfl⟩
  obtain ⟨-, hmode, hends⟩ := of_requeue hshort hrequeued
  rw [if_pos hleft] at hends
  rw [← hreason] at hrequeued
  exact ⟨result, hexecute.trans hrequeued, persisted hends.1 hattempted, hends.1, hends.2, hmode⟩

theorem job_built (mode : RetryMode) : (jobOf (claimed mode) command).build = .ok (job mode) :=
  JobFields.build_ok_iff.mpr rfl

end

/-- A delivery that may only reconcile tells the outbox. -/
theorem told_reconciling : ∃ (result : CancellationResult) (answer : HandlerResult),
    call executor (claimed .reconcileOnly) world = .ok answer ∧ answer.check = .ok () ∧
      Tells result.job answer := by
  obtain ⟨result, hexecuted, hpersisted, -⟩ := exists_executed .reconcileOnly
  have hreconciles : ¬PutsBackAsNormal executor (job .reconcileOnly) command world.ports :=
    fun h => h.2.1 rfl
  obtain ⟨answer, hanswer⟩ :=
    (told_iff decoded (handled _) adapted (job_built _) hexecuted hpersisted).mpr hreconciles
  exact ⟨result, answer, hanswer⟩

/-- **A fresh delivery whose provider does not answer raises**, when all is committed. -/
theorem fresh_delivery_raises : ∃ result : CancellationResult,
    (executor.execute (job .normal) command (claimed .normal).workerId world.ports).result =
        .ok result ∧
      world.persist (job .normal) result = .ok () ∧
      result.job.state = .pending ∧ result.job.retryMode = .normal ∧
      ∃ e, call executor (claimed .normal) world = .error e := by
  obtain ⟨result, hexecuted, hpersisted, hdisposition, hstate, hmode⟩ := exists_executed .normal
  refine ⟨result, hexecuted, hpersisted, hstate, hmode, ?_⟩
  rw [call_executed decoded (handled _) adapted (job_built _) hexecuted hpersisted]
  cases hmade : made (told result) with
  | error e => exact ⟨e, rfl⟩
  | ok answer =>
    have hcheck := (made_ok_iff.mp hmade).1
    unfold told at hcheck
    rw [if_neg (by rw [hdisposition]; decide), if_pos hdisposition, check_retry_ok_iff] at hcheck
    exact absurd hmode hcheck.2

end ProtectedLink

end Retrywise.ControlPlane.Cancellation
