import Mathlib.Data.List.Basic
import Retrywise.ControlPlane.CancellationExecution

/-!
# Money dominates a cancellation

What a delivery of a protective cancellation did, read off its trace: the provider is
asked to cancel at most once, behind everything that has to be looked at first, and
what the delivery ends as is what was seen last. Collected money, at the provider or on
record, is never a cancelled link and never a reason to try again.

> `execute_obeys`: every execution obeys, whatever the world answers.
-/

namespace Retrywise.ControlPlane

open Retrywise.Foundation Retrywise.Domain

/-! ## Reading a trace -/

section

variable [Hashlib]

namespace CancelEvent

def isCancel : CancelEvent → Bool
  | .cancelCalled => true
  | _ => false

def leaseTime? : CancelEvent → Option Timestamp
  | .leased now => some now
  | _ => none

def binding? : CancelEvent → Option (Option DurableInstrumentBinding)
  | .bindingRead binding => some binding
  | _ => none

def decision? : CancelEvent → Option GateDecision
  | .decided effect => some effect
  | _ => none

def truth? : CancelEvent → Option (Except FetchFailure ProviderPaymentLinkTruth)
  | .fetched truth => some truth
  | _ => none

end CancelEvent

variable (log : List CancelEvent)

/-- The times at which the lease was found active. -/
def leaseTimes : List Timestamp := log.filterMap CancelEvent.leaseTime?

/-- The durable bindings that were read. -/
def bindingsRead : List (Option DurableInstrumentBinding) := log.filterMap CancelEvent.binding?

/-- The decisions of the gate. -/
def decisions : List GateDecision := log.filterMap CancelEvent.decision?

/-- What the fetches of the provider brought. -/
def truthsFetched : List (Except FetchFailure ProviderPaymentLinkTruth) :=
  log.filterMap CancelEvent.truth?

end

/-! ## The law -/

def paidStatuses : List InstrumentStatus := [.paid, .partiallyPaid]

/-- The status a link has to show for a delivery to end in this disposition. -/
def CancellationDisposition.closes : CancellationDisposition → Option ProviderPaymentLinkStatus
  | .cancelled => some .cancelled
  | .alreadyCancelled => some .cancelled
  | .expired => some .expired
  | .blocked | .reconcileRequired | .reviewRequired | .escalated | .deadLetter => none

/-- The next delivery may cancel. -/
def CancellationResult.Grants (result : CancellationResult) : Prop :=
  result.job.state = .pending ∧ result.job.retryMode = .retrySameEffect

section

variable [Hashlib] (job : OutboxJob) (command : CancelPaymentLinkCommand) (workerId : String)

/-- What is there when the provider is asked to cancel. -/
structure MayCancel (before : List CancelEvent) : Prop where
  lease : ∃ now, (leaseTimes before).getLast? = some now ∧
    job.assertActiveLease workerId job.tokenOrMissing now = .ok ()
  decided : ∃ first last, decisions before = [first, last] ∧ first.allowed = true ∧
    last.allowed = true ∧ .authorized last ∈ before
  mode : job.retryMode ≠ .reconcileOnly
  shown : ∃ truth, truthsFetched before = [.ok truth] ∧
    truth.matchesTarget command.target.toTargetFields = true ∧ truth.status = .created ∧
    truth.amountPaidMinor = 0
  binding : ∃ binding, (bindingsRead before).getLast? = some (some binding) ∧
    binding.instrumentStatus ∈ cancellableStatuses

omit job workerId in
/-- What the delivery saw last allows what it ends as. -/
structure SeenLast (log : List CancelEvent) (result : CancellationResult) : Prop where
  closing : ∀ status, result.disposition.closes = some status →
    ∃ truth binding, (truthsFetched log).getLast? = some (.ok truth) ∧
      truth.matchesTarget command.target.toTargetFields = true ∧ truth.status = status ∧
      (bindingsRead log).getLast? = some (some binding) ∧
      binding.instrumentStatus ∉ paidStatuses
  granting : result.Grants →
    (∀ truth, (truthsFetched log).getLast? = some (.ok truth) →
      truth.status ∉ [ProviderPaymentLinkStatus.paid, .partiallyPaid] ∧
        truth.amountPaidMinor = 0) ∧
    ∀ binding, (bindingsRead log).getLast? = some (some binding) →
      binding.instrumentStatus ∉ paidStatuses

/-- A trace, and how it ended, as protective cancellation has to be. -/
structure ObeysMoney (log : List CancelEvent)
    (outcome : Except ControlPlaneError CancellationResult) : Prop where
  once : (log.filter CancelEvent.isCancel).length ≤ 1
  guarded : ∀ before after, log = before ++ .cancelCalled :: after →
    MayCancel job command workerId before
  fetchedAgain : ∀ before between ended after,
    log = before ++ .cancelCalled :: (between ++ .moved ended :: after) →
      ∃ truth, .fetched truth ∈ between
  seenLast : ∀ result, outcome = .ok result → SeenLast command log result

end

/-! ## The ends of a delivery -/

section

open CancelPaymentLinkExecutor

variable [Hashlib] {executor : CancelPaymentLinkExecutor} {job : OutboxJob}
  {command : CancelPaymentLinkCommand} {workerId reason phase : String} {endedAt : Timestamp}
  {effect : GateDecision} {result : CancellationResult} {attempted : Bool}

omit [Hashlib] in
/-- A result that neither closes the link nor grants anything. -/
def CancellationResult.Modest (result : CancellationResult) : Prop :=
  result.disposition.closes = none ∧ ¬result.Grants

theorem modest_of_deadLetter {disposition : CancellationDisposition}
    {shown : Option ProviderPaymentLinkStatus} (hdisposition : disposition.closes = none)
    (h : deadLetter job command workerId endedAt effect reason disposition shown attempted =
      .ok result) : result.Modest := by
  obtain ⟨dead, hdead, h⟩ := bind_ok_iff.mp h
  have hstate : dead.state = .deadLetter := by
    unfold OutboxJob.deadLetter at hdead
    obtain ⟨-, -, hdead⟩ := bind_ok_iff.mp hdead
    by_cases hended : job.state = .deadLetter
    · rw [if_pos hended] at hdead
      by_cases hsame : job.deadLetterReason = some reason
      · rw [if_pos hsame] at hdead
        rw [← Except.ok.inj hdead]
        exact hended
      · rw [if_neg hsame] at hdead
        exact absurd hdead (by simp)
    · rw [if_neg hended] at hdead
      obtain ⟨-, -, hdead⟩ := bind_ok_iff.mp hdead
      obtain ⟨-, -, hdead⟩ := bind_ok_iff.mp hdead
      rw [JobFields.build_ok_iff.mp hdead]
  rw [← pure_ok_iff.mp h]
  refine ⟨hdisposition, fun hgrants => ?_⟩
  exact absurd (hstate.symm.trans hgrants.1) (by simp)

theorem modest_of_requeue {mode : RetryMode} {shown : Option ProviderPaymentLinkStatus}
    (hmode : mode ≠ .retrySameEffect)
    (h : executor.requeue job command workerId endedAt effect reason mode shown attempted =
      .ok result) : result.Modest := by
  obtain ⟨updated, hupdated, h⟩ := bind_ok_iff.mp h
  have hkept := (OutboxJob.requeue_ok hupdated).1
  rw [← pure_ok_iff.mp h]
  constructor
  · show CancellationDisposition.closes (if updated.state = .deadLetter then .deadLetter
      else .reconcileRequired) = none
    split <;> rfl
  · intro hgrants
    exact hmode (hkept.symm.trans hgrants.2)

/-- A retry of the effect closes nothing. -/
theorem closes_of_requeue {mode : RetryMode} {shown : Option ProviderPaymentLinkStatus}
    (h : executor.requeue job command workerId endedAt effect reason mode shown attempted =
      .ok result) : result.disposition.closes = none := by
  obtain ⟨updated, -, h⟩ := bind_ok_iff.mp h
  rw [← pure_ok_iff.mp h]
  show CancellationDisposition.closes (if updated.state = .deadLetter then .deadLetter
    else .reconcileRequired) = none
  split <;> rfl

/-- A completed job grants nothing. -/
theorem of_complete {disposition : CancellationDisposition} {shown : ProviderPaymentLinkStatus}
    (h : complete job command workerId endedAt effect reason disposition shown attempted =
      .ok result) : result.disposition = disposition ∧ ¬result.Grants := by
  obtain ⟨completed, hcompleted, h⟩ := bind_ok_iff.mp h
  have hstate : completed.state = .completed := by
    unfold OutboxJob.complete at hcompleted
    obtain ⟨-, -, hcompleted⟩ := bind_ok_iff.mp hcompleted
    by_cases hended : job.state = .completed
    · rw [if_pos hended] at hcompleted
      split at hcompleted
      next =>
        rw [← Except.ok.inj hcompleted]
        exact hended
      next => exact absurd hcompleted (by simp)
    · rw [if_neg hended] at hcompleted
      obtain ⟨-, -, hcompleted⟩ := bind_ok_iff.mp hcompleted
      obtain ⟨-, -, hcompleted⟩ := bind_ok_iff.mp hcompleted
      rw [JobFields.build_ok_iff.mp hcompleted]
  rw [← pure_ok_iff.mp h]
  refine ⟨rfl, fun hgrants => ?_⟩
  exact absurd (hstate.symm.trans hgrants.1) (by simp)

/-- What is resolved without a cancel is modest, or closes with what the link shows,
with no money on record. -/
theorem resolve_some {durable : InstrumentStatus} {shown : ProviderPaymentLinkStatus}
    (h : executor.resolveWithoutCancel job command workerId endedAt effect durable shown phase
      attempted = .ok (some result)) :
    result.Modest ∨
      (result.disposition.closes = some shown ∧ ¬result.Grants ∧ durable ∉ paidStatuses) := by
  unfold resolveWithoutCancel at h
  split_ifs at h with hpaid hcollected hcancelled hexpired
  · obtain ⟨r, hr, h⟩ := map_ok_iff.mp h
    exact .inl (Option.some.inj h ▸ modest_of_deadLetter rfl hr)
  · obtain ⟨r, hr, h⟩ := map_ok_iff.mp h
    exact .inl (Option.some.inj h ▸ modest_of_deadLetter rfl hr)
  · obtain ⟨r, hr, h⟩ := map_ok_iff.mp h
    obtain ⟨hdisposition, hgrants⟩ := of_complete hr
    obtain rfl := Option.some.inj h
    exact .inr ⟨by rw [hdisposition, hcancelled]; rfl, hgrants, hpaid⟩
  · obtain ⟨r, hr, h⟩ := map_ok_iff.mp h
    obtain ⟨hdisposition, hgrants⟩ := of_complete hr
    obtain rfl := Option.some.inj h
    exact .inr ⟨by rw [hdisposition, hexpired]; rfl, hgrants, hpaid⟩
  · obtain ⟨r, hr, h⟩ := map_ok_iff.mp h
    exact .inl (Option.some.inj h ▸ modest_of_requeue (by simp) hr)
  · exact absurd (Except.ok.inj h) (by simp)
  · obtain ⟨r, hr, h⟩ := map_ok_iff.mp h
    exact .inl (Option.some.inj h ▸ modest_of_deadLetter rfl hr)

/-- Where nothing is resolved the link is there to be cancelled. -/
theorem resolve_none {durable : InstrumentStatus} {shown : ProviderPaymentLinkStatus}
    (h : executor.resolveWithoutCancel job command workerId endedAt effect durable shown phase
      attempted = .ok none) :
    durable ∈ cancellableStatuses ∧ shown = .created := by
  unfold resolveWithoutCancel at h
  split_ifs at h with hpaid hcollected hcancelled hexpired hclosed hcancellable
  · exact absurd (map_ok_iff.mp h) (by simp)
  · exact absurd (map_ok_iff.mp h) (by simp)
  · exact absurd (map_ok_iff.mp h) (by simp)
  · exact absurd (map_ok_iff.mp h) (by simp)
  · exact absurd (map_ok_iff.mp h) (by simp)
  · refine ⟨hcancellable, ?_⟩
    cases shown <;> simp_all
  · exact absurd (map_ok_iff.mp h) (by simp)

omit [Hashlib] in
theorem not_paid_of_cancellable {durable : InstrumentStatus} (h : durable ∈ cancellableStatuses) :
    durable ∉ paidStatuses := by
  revert h
  cases durable <;> decide

omit [Hashlib] in
/-- A link that shows no collection has none. -/
theorem unpaid_of_status (truth : ProviderPaymentLinkTruth)
    (h : truth.status ∉ [ProviderPaymentLinkStatus.paid, .partiallyPaid]) :
    truth.amountPaidMinor = 0 := by
  have hvalid := truth.valid
  simp only [TruthFields.postInit, bind_ok_iff, raiseIf_ok_iff, not_not, exists_and_left,
    exists_const] at hvalid
  obtain ⟨-, -, -, -, -, -, hstatus⟩ := hvalid
  cases hshown : truth.status with
  | paid => exact absurd (by rw [hshown]; decide) h
  | partiallyPaid => exact absurd (by rw [hshown]; decide) h
  | created | cancelled | expired =>
    rw [hshown] at hstatus
    simpa using hstatus

variable {log : List CancelEvent}

theorem seenLast_of_modest (h : result.Modest) : SeenLast command log result where
  closing := fun _ hcloses => absurd (h.1.symm.trans hcloses) (by simp)
  granting := fun hgrants => absurd hgrants h.2

/-- What is resolved on the last truth and the last binding was seen last. -/
theorem seenLast_of_resolve {truth : ProviderPaymentLinkTruth} {binding : DurableInstrumentBinding}
    (hmatches : truth.matchesTarget command.target.toTargetFields = true)
    (htruth : (truthsFetched log).getLast? = some (.ok truth))
    (hbinding : (bindingsRead log).getLast? = some (some binding))
    (h : executor.resolveWithoutCancel job command workerId endedAt effect
      binding.instrumentStatus truth.status phase attempted = .ok (some result)) :
    SeenLast command log result := by
  rcases resolve_some h with hmodest | ⟨hcloses, hgrants, hdurable⟩
  · exact seenLast_of_modest hmodest
  · refine ⟨fun status hstatus => ?_, fun h => absurd h hgrants⟩
    obtain rfl := Option.some.inj (hcloses.symm.trans hstatus)
    exact ⟨truth, binding, htruth, hmatches, rfl, hbinding, hdurable⟩

/-- A retry is granted on an unpaid link with no money on record. -/
theorem seenLast_of_grant {truth : ProviderPaymentLinkTruth} {binding : DurableInstrumentBinding}
    (htruth : (truthsFetched log).getLast? = some (.ok truth))
    (hbinding : (bindingsRead log).getLast? = some (some binding))
    (hcancellable : binding.instrumentStatus ∈ cancellableStatuses)
    (hshown : truth.status = .created) (hcloses : result.disposition.closes = none) :
    SeenLast command log result where
  closing := fun _ h => absurd (hcloses.symm.trans h) (by simp)
  granting := by
    intro _
    constructor
    · intro other hother
      obtain rfl := Except.ok.inj (Option.some.inj (htruth.symm.trans hother))
      have hunpaid : truth.status ∉ [ProviderPaymentLinkStatus.paid, .partiallyPaid] := by
        rw [hshown]
        decide
      exact ⟨hunpaid, unpaid_of_status truth hunpaid⟩
    · intro other hother
      obtain rfl := Option.some.inj (Option.some.inj (hbinding.symm.trans hother))
      exact not_paid_of_cancellable hcancellable

/-! ## Traces with and without a cancel -/

variable {outcome : Except ControlPlaneError CancellationResult}

/-- Without a cancel in it nothing of a log is one. -/
theorem filter_isCancel_eq_nil (hquiet : .cancelCalled ∉ log) :
    log.filter CancelEvent.isCancel = [] := by
  rw [List.filter_eq_nil_iff]
  intro event hevent hcancel
  cases event with
  | cancelCalled => exact hquiet hevent
  | leased | bindingRead | decided | fetched | authorized | moved =>
    exact Bool.false_ne_true hcancel

theorem obeys_of_quiet (hquiet : .cancelCalled ∉ log)
    (hseen : ∀ result, outcome = .ok result → SeenLast command log result) :
    ObeysMoney job command workerId log outcome where
  once := by
    rw [filter_isCancel_eq_nil hquiet]
    exact Nat.zero_le _
  guarded := by
    rintro before after rfl
    exact absurd (by simp) hquiet
  fetchedAgain := by
    rintro before between ended after rfl
    exact absurd (by simp) hquiet
  seenLast := hseen

/-- A cancel behind everything it needs, with a fetch right behind it. -/
theorem obeys_of_called {before rest : List CancelEvent}
    {truth : Except FetchFailure ProviderPaymentLinkTruth} (hbefore : .cancelCalled ∉ before)
    (hrest : .cancelCalled ∉ rest) (hmay : MayCancel job command workerId before)
    (hseen : ∀ result, outcome = .ok result →
      SeenLast command (before ++ .cancelCalled :: .fetched truth :: rest) result) :
    ObeysMoney job command workerId (before ++ .cancelCalled :: .fetched truth :: rest)
      outcome := by
  have hafter : CancelEvent.cancelCalled ∉ .fetched truth :: rest := by
    simpa using hrest
  constructor
  · rw [List.filter_append, List.filter_cons_of_pos (by rfl), filter_isCancel_eq_nil hbefore,
      filter_isCancel_eq_nil hafter]
    exact Nat.le_refl _
  · intro other after hsplit
    rw [((List.append_cons_inj_of_notMem hbefore hafter).mp hsplit).1] at hmay
    exact hmay
  · intro other between ended after hsplit
    have hshape := ((List.append_cons_inj_of_notMem hbefore hafter).mp hsplit).2.2
    cases between with
    | nil => exact absurd (List.cons.inj hshape).1 (by simp)
    | cons event more =>
      refine ⟨truth, ?_⟩
      rw [← (List.cons.inj hshape).1]
      exact List.mem_cons_self ..
  · exact hseen

end

/-! ## The phases -/

section

open CancelPaymentLinkExecutor Traced

variable [Hashlib] {executor : CancelPaymentLinkExecutor} {job : OutboxJob}
  {command : CancelPaymentLinkCommand} {workerId : String} {ports : CancelPorts}

theorem ensures_moving {before : List CancelEvent}
    {call : Except ControlPlaneError CancellationResult}
    {P : List CancelEvent → Except ControlPlaneError CancellationResult → Prop}
    (herror : ∀ e, call = .error e → P before (.error e))
    (hok : ∀ result, call = .ok result → P (before ++ [.moved result.job]) (.ok result)) :
    Ensures before (moving call) P := by
  unfold moving
  refine ensures_lift herror fun result hresult => ?_
  exact ensures_note (ensures_pure (hok result hresult))

theorem ensures_finishing {α : Type} {before : List CancelEvent}
    {call : Except ControlPlaneError CancellationResult} {wrap : CancellationResult → α}
    {P : List CancelEvent → Except ControlPlaneError α → Prop}
    (herror : ∀ e, call = .error e → P before (.error e))
    (hok : ∀ result, call = .ok result → P (before ++ [.moved result.job]) (.ok (wrap result))) :
    Ensures before (moving call >>= fun result => pure (wrap result)) P := by
  refine ensures_bind (ensures_moving herror fun result hresult => ?_)
  exact ensures_pure (hok result hresult)

/-- What the provider and the binding showed at first, as the log has it. -/
def firstLook (ports : CancelPorts) (binding : DurableInstrumentBinding) (effect : GateDecision)
    (truth : ProviderPaymentLinkTruth) : List CancelEvent :=
  [.leased ports.startedAt, .bindingRead (some binding), .decided effect, .fetched (.ok truth)]

/-- What the first phase leaves behind. -/
def LookedRight (command : CancelPaymentLinkCommand) (ports : CancelPorts)
    (log : List CancelEvent) : Except ControlPlaneError Looked → Prop
  | .error _ => .cancelCalled ∉ log
  | .ok (.finished ended) => .cancelCalled ∉ log ∧ SeenLast command log ended
  | .ok (.seen effect truth) =>
    (∃ binding, log = firstLook ports binding effect truth) ∧ effect.allowed = true ∧
      truth.matchesTarget command.target.toTargetFields = true ∧ truth.status = .created

theorem looking_right :
    Ensures [] (executor.looking job command workerId ports) (LookedRight command ports) := by
  unfold looking
  refine ensures_lift (fun _ _ => List.not_mem_nil) fun _ _ => ensures_note ?_
  refine ensures_lift (fun _ _ => by simp [LookedRight]) fun binding _ => ensures_note ?_
  refine ensures_lift (fun _ _ => by simp [LookedRight]) fun fresh _ => ?_
  refine ensures_lift (fun _ _ => by simp [LookedRight]) fun effect _ => ensures_note ?_
  -- a binding that does not hold ends in the dead letters, whatever it is
  have hfailed : ∀ failure : String, Ensures
      ([] ++ [CancelEvent.leased ports.startedAt] ++ [.bindingRead binding] ++ [.decided effect])
      (moving (deadLetter job command workerId ports.endedAt effect
        s!"binding_failure:{failure}" .escalated none false) >>=
          fun result => pure (Looked.finished result)) (LookedRight command ports) := by
    intro failure
    refine ensures_finishing (fun _ _ => by simp [LookedRight]) fun result hresult => ?_
    exact ⟨by simp, seenLast_of_modest (modest_of_deadLetter rfl hresult)⟩
  cases binding with
  | none => exact hfailed _
  | some binding =>
    cases hfailure : cancelBindingFailure job command (some binding) ports.startedAt with
    | some failure => exact hfailed failure
    | none =>
      by_cases hallowed : effect.allowed = true
      · simp only [hallowed, if_true]
        refine ensures_note ?_
        cases htruth : fetchTruth ports.fetch with
        | error failure =>
          refine ensures_finishing (fun _ _ => by simp [LookedRight]) fun result hresult => ?_
          refine ⟨by simp, seenLast_of_modest (modest_of_requeue ?_ hresult)⟩
          split <;> simp
        | ok truth =>
          by_cases hmatch : truth.matchesTarget command.target.toTargetFields = true
          · simp only [hmatch, if_true]
            refine ensures_lift (fun _ _ => by simp [LookedRight]) fun resolved hresolved => ?_
            cases resolved with
            | none => exact ensures_pure ⟨⟨binding, rfl⟩, hallowed, hmatch, (resolve_none hresolved).2⟩
            | some result =>
              refine ensures_note (ensures_pure ⟨by simp, ?_⟩)
              exact seenLast_of_resolve hmatch rfl rfl hresolved
          · simp only [hmatch]
            refine ensures_finishing (fun _ _ => by simp [LookedRight]) fun result hresult => ?_
            exact ⟨by simp, seenLast_of_modest (modest_of_deadLetter rfl hresult)⟩
      · simp only [hallowed]
        refine ensures_finishing (fun _ _ => by simp [LookedRight]) fun result hresult => ?_
        exact ⟨by simp, seenLast_of_modest (modest_of_deadLetter rfl hresult)⟩

/-- What is there behind the second look at the binding. -/
def secondLook (ports : CancelPorts) (refreshed : DurableInstrumentBinding)
    (final : GateDecision) : List CancelEvent :=
  [.bindingRead (some refreshed), .leased ports.beforeEffect, .decided final]

/-- What the second phase leaves behind the log of the first. -/
def RecheckedRight (job : OutboxJob) (command : CancelPaymentLinkCommand) (workerId : String)
    (ports : CancelPorts) (before : List CancelEvent) (truth : ProviderPaymentLinkTruth)
    (log : List CancelEvent) : Except ControlPlaneError Rechecked → Prop
  | .error _ => .cancelCalled ∉ log
  | .ok (.finished ended) => .cancelCalled ∉ log ∧ SeenLast command log ended
  | .ok (.cleared final _) =>
    (∃ refreshed, log = before ++ secondLook ports refreshed final ∧
      refreshed.instrumentStatus ∈ cancellableStatuses) ∧ final.allowed = true ∧
      truth.amountPaidMinor = 0 ∧ job.retryMode ≠ .reconcileOnly ∧
      job.assertActiveLease workerId job.tokenOrMissing ports.beforeEffect = .ok ()

theorem rechecking_right {binding : DurableInstrumentBinding} {effect : GateDecision}
    {truth : ProviderPaymentLinkTruth}
    (hmatch : truth.matchesTarget command.target.toTargetFields = true)
    (hshown : truth.status = .created) :
    Ensures (firstLook ports binding effect truth)
      (executor.rechecking job command workerId ports effect truth)
      (RecheckedRight job command workerId ports (firstLook ports binding effect truth) truth) := by
  unfold rechecking firstLook
  refine ensures_lift (fun _ _ => by simp [RecheckedRight]) fun refreshed _ => ensures_note ?_
  have hfailed : ∀ failure : String, Ensures
      ([.leased ports.startedAt, .bindingRead (some binding), .decided effect,
        .fetched (.ok truth)] ++ [CancelEvent.bindingRead refreshed])
      (moving (deadLetter job command workerId ports.endedAt effect
        s!"pre_effect_binding_failure:{failure}" .escalated
        (some truth.status) false) >>= fun result => pure (Rechecked.finished result))
      (RecheckedRight job command workerId ports (firstLook ports binding effect truth)
        truth) := by
    intro failure
    refine ensures_finishing (fun _ _ => by simp [RecheckedRight]) fun result hresult => ?_
    exact ⟨by simp, seenLast_of_modest (modest_of_deadLetter rfl hresult)⟩
  cases refreshed with
  | none => exact hfailed _
  | some refreshed =>
    cases hfailure : cancelBindingFailure job command (some refreshed) ports.checkedAt with
    | some failure => exact hfailed failure
    | none =>
      refine ensures_lift (fun _ _ => by simp [RecheckedRight]) fun resolved hresolved => ?_
      cases resolved with
      | some result =>
        refine ensures_note (ensures_pure ⟨by simp, ?_⟩)
        exact seenLast_of_resolve hmatch rfl rfl hresolved
      | none =>
        have hcancellable := (resolve_none hresolved).1
        by_cases hmode : job.retryMode = .reconcileOnly
        · simp only [hmode, if_true]
          refine ensures_finishing (fun _ _ => by simp [RecheckedRight]) fun result hresult => ?_
          -- the grant: what was read last shows no money
          exact ⟨by simp, seenLast_of_grant rfl rfl hcancellable hshown (closes_of_requeue hresult)⟩
        · simp only [hmode, if_false]
          refine ensures_lift (fun _ _ => by simp [RecheckedRight]) fun _ hlease =>
            ensures_note ?_
          refine ensures_lift (fun _ _ => by simp [RecheckedRight]) fun context _ => ?_
          refine ensures_lift (fun _ _ => by simp [RecheckedRight]) fun final _ => ensures_note ?_
          by_cases hallowed : final.allowed = true
          · simp only [hallowed, if_true]
            by_cases hpaid : truth.amountPaidMinor ≠ 0
            · rw [if_pos hpaid]
              refine ensures_finishing (fun _ _ => by simp [RecheckedRight])
                fun result hresult => ?_
              exact ⟨by simp, seenLast_of_modest (modest_of_deadLetter rfl hresult)⟩
            · rw [if_neg hpaid]
              refine ensures_pure ⟨⟨refreshed, rfl, hcancellable⟩, hallowed, ?_, hmode, hlease⟩
              omega
          · simp only [hallowed]
            refine ensures_finishing (fun _ _ => by simp [RecheckedRight]) fun result hresult => ?_
            exact ⟨by simp, seenLast_of_modest (modest_of_deadLetter rfl hresult)⟩

/-- Behind a cancel, the link and then the binding are looked at, and what follows is as
these show it. -/
theorem seenLast_of_reconcile {log : List CancelEvent} {effect : GateDecision} {reason : String}
    {truth : Except FetchFailure ProviderPaymentLinkTruth}
    {binding : Option DurableInstrumentBinding} {result : CancellationResult}
    (htruth : (truthsFetched log).getLast? = some truth)
    (hbinding : (bindingsRead log).getLast? = some binding)
    (h : executor.reconcileAfterEffect job command workerId ports.endedAt effect reason truth
      ports.checkedAfter (.ok binding) = .ok result) :
    SeenLast command log result := by
  unfold reconcileAfterEffect at h
  obtain ⟨_, hread, h⟩ := bind_ok_iff.mp h
  obtain rfl := Except.ok.inj hread
  cases binding with
  | none => exact seenLast_of_modest (modest_of_deadLetter rfl h)
  | some binding =>
    cases hfailure : cancelBindingFailure job command (some binding) ports.checkedAfter with
    | some failure =>
      simp only [hfailure] at h
      exact seenLast_of_modest (modest_of_deadLetter rfl h)
    | none =>
      simp only [hfailure] at h
      cases truth with
      | error failure => exact seenLast_of_modest (modest_of_requeue (by simp) h)
      | ok truth =>
        simp only at h
        by_cases hmatch : truth.matchesTarget command.target.toTargetFields = true
        · rw [if_pos hmatch] at h
          by_cases hpaid : binding.instrumentStatus ∈ [InstrumentStatus.paid, .partiallyPaid]
          · rw [if_pos hpaid] at h
            exact seenLast_of_modest (modest_of_deadLetter rfl h)
          rw [if_neg hpaid] at h
          by_cases hcollected : truth.status ∈ [ProviderPaymentLinkStatus.paid, .partiallyPaid]
          · rw [if_pos hcollected] at h
            exact seenLast_of_modest (modest_of_deadLetter rfl h)
          rw [if_neg hcollected] at h
          by_cases hcancelled : truth.status = .cancelled
          · rw [if_pos hcancelled] at h
            obtain ⟨hdisposition, hgrants⟩ := of_complete h
            refine ⟨fun status hstatus => ?_, fun h => absurd h hgrants⟩
            rw [hdisposition] at hstatus
            obtain rfl := Option.some.inj hstatus
            exact ⟨truth, binding, htruth, hmatch, hcancelled, hbinding, hpaid⟩
          rw [if_neg hcancelled] at h
          obtain ⟨resolved, hresolved, h⟩ := bind_ok_iff.mp h
          cases resolved with
          | some ended =>
            rw [← pure_ok_iff.mp h]
            exact seenLast_of_resolve hmatch htruth hbinding hresolved
          | none =>
            obtain ⟨hcancellable, hshown⟩ := resolve_none hresolved
            exact seenLast_of_grant htruth hbinding hcancellable hshown (closes_of_requeue h)
        · rw [if_neg hmatch] at h
          exact seenLast_of_modest (modest_of_deadLetter rfl h)

/-- From the last decision on. -/
theorem cancelling_right {binding refreshed : DurableInstrumentBinding}
    {effect final : GateDecision} {truth : ProviderPaymentLinkTruth}
    (hallowed : effect.allowed = true)
    (hmatch : truth.matchesTarget command.target.toTargetFields = true)
    (hshown : truth.status = .created) (hfinal : final.allowed = true)
    (hunpaid : truth.amountPaidMinor = 0)
    (hcancellable : refreshed.instrumentStatus ∈ cancellableStatuses)
    (hmode : job.retryMode ≠ .reconcileOnly)
    (hlease : job.assertActiveLease workerId job.tokenOrMissing ports.beforeEffect = .ok ()) :
    Ensures (firstLook ports binding effect truth ++ secondLook ports refreshed final)
      (executor.cancelling job command workerId ports final)
      (ObeysMoney job command workerId) := by
  have hquiet : ∀ {e : ControlPlaneError}, ObeysMoney job command workerId
      (firstLook ports binding effect truth ++ secondLook ports refreshed final) (.error e) :=
    obeys_of_quiet (by simp [firstLook, secondLook]) (fun _ h => nomatch h)
  have hmay : MayCancel job command workerId
      (firstLook ports binding effect truth ++ secondLook ports refreshed final ++
        [.authorized final]) := {
    lease := ⟨ports.beforeEffect, rfl, hlease⟩
    decided := ⟨effect, final, rfl, hallowed, hfinal, by simp⟩
    mode := hmode
    shown := ⟨truth, rfl, hmatch, hshown, hunpaid⟩
    binding := ⟨refreshed, rfl, hcancellable⟩ }
  have hbefore : CancelEvent.cancelCalled ∉
      firstLook ports binding effect truth ++ secondLook ports refreshed final ++
        [.authorized final] := by
    simp [firstLook, secondLook]
  unfold cancelling
  refine ensures_lift (fun _ _ => hquiet) fun context _ => ?_
  refine ensures_lift (fun _ _ => hquiet) fun _ _ => ensures_note (ensures_note ?_)
  unfold reconciling
  -- whatever is behind the cancel, a fetch is the first of it
  have hcalled : ∀ (rest : List CancelEvent) (outcome : Except ControlPlaneError
      CancellationResult), .cancelCalled ∉ rest →
      (∀ result, outcome = .ok result → SeenLast command
        (firstLook ports binding effect truth ++ secondLook ports refreshed final ++
          [.authorized final] ++ .cancelCalled :: .fetched (fetchTruth ports.fetchAfter) :: rest)
        result) →
      ObeysMoney job command workerId
        (firstLook ports binding effect truth ++ secondLook ports refreshed final ++
          [.authorized final] ++ [.cancelCalled] ++
          .fetched (fetchTruth ports.fetchAfter) :: rest) outcome := by
    intro rest outcome hrest hseen
    have hends := obeys_of_called hbefore hrest hmay hseen
    rwa [List.append_cons] at hends
  refine ensures_note (ensures_lift (fun e _ => ?_) fun bindingAfter _ => ensures_note ?_)
  · exact hcalled [] (.error e) List.not_mem_nil (fun _ h => nomatch h)
  · refine ensures_moving (fun e _ => ?_) fun result hresult => ?_
    · exact hcalled [.bindingRead bindingAfter] (.error e) (by simp) (fun _ h => nomatch h)
    · refine hcalled [.bindingRead bindingAfter, .moved result.job] (.ok result) (by simp) ?_
      rintro _ ⟨rfl⟩
      exact seenLast_of_reconcile rfl rfl hresult

/-- **Every execution obeys, whatever the world answers.** -/
theorem execute_obeys (executor : CancelPaymentLinkExecutor) (job : OutboxJob)
    (command : CancelPaymentLinkCommand) (workerId : String) (ports : CancelPorts) :
    ObeysMoney job command workerId (executor.execute job command workerId ports).log
      (executor.execute job command workerId ports).result := by
  suffices h : Ensures [] (executor.execute job command workerId ports)
      (ObeysMoney job command workerId) by
    unfold Ensures at h
    rwa [List.nil_append] at h
  unfold CancelPaymentLinkExecutor.execute
  refine ensures_bind (looking_right.mono fun log looked hlooked => ?_)
  match looked with
  | .error e => exact obeys_of_quiet hlooked (fun _ h => nomatch h)
  | .ok (.finished ended) =>
    refine ensures_pure (obeys_of_quiet hlooked.1 ?_)
    rintro _ ⟨rfl⟩
    exact hlooked.2
  | .ok (.seen effect truth) =>
    obtain ⟨⟨binding, rfl⟩, hallowed, hmatch, hshown⟩ := hlooked
    refine ensures_bind ((rechecking_right hmatch hshown).mono fun log rechecked hrechecked => ?_)
    match rechecked with
    | .error e => exact obeys_of_quiet hrechecked (fun _ h => nomatch h)
    | .ok (.finished ended) =>
      refine ensures_pure (obeys_of_quiet hrechecked.1 ?_)
      rintro _ ⟨rfl⟩
      exact hrechecked.2
    | .ok (.cleared final _) =>
      obtain ⟨⟨refreshed, rfl, hcancellable⟩, hfinal, hunpaid, hmode, hlease⟩ := hrechecked
      exact cancelling_right hallowed hmatch hshown hfinal hunpaid hcancellable hmode hlease

end

end Retrywise.ControlPlane
