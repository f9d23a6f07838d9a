import Retrywise.ControlPlane.LinkDelivery
import Retrywise.ControlPlane.JobEnds

/-!
# Runs of an offer's job

The steps a delivery of an offer's job can take, one lemma each, so that a run is put
together by naming its steps. Each delivery does all its work at one time, the time it
was claimed at; a crash is a delivery that takes no further step, and the next claim
comes when its lease has run out.

> `At`: a run of the job after which the delivery of a version is at a stage, in a
> mode, at a time.

What the steps need to know of the path comes from the invariants of every run
(`record_of_run`); what they do to it is told by `Tried`.
-/

namespace Retrywise.ControlPlane

open Retrywise.Foundation Retrywise.Domain

/-! ## Delays -/

theorem delayAfter_bounds (attempts : Nat) :
    (0 : Int) ≤ BackoffPolicy.delayAfter {} attempts ∧
      (300000000 : Int) ≥ BackoffPolicy.delayAfter {} attempts :=
  BackoffPolicy.doubled_bounds {} _ _ (by decide)

namespace LinkDelivery

/-! ## The payment that failed -/

def paymentRow (o : LinkOffer) : ProviderPaymentRow where
  id := "01K0000000000000000000000P"
  providerPaymentId := "pay_1"
  providerOrderId := some "order_1"
  amountMinor := o.amount.minorUnits
  currency := o.amount.currency
  paymentMethod := some o.method
  providerSnapshotAt := sampleStart
  idOk := by decide

def paymentRecord (o : LinkOffer) : PaymentRecord where
  paymentId := "pay_1"
  orderId := "order_1"
  status := .failed
  amountMinor := o.amount.minorUnits
  currency := o.amount.currency
  capturedMinor := 0
  refundedMinor := 0
  paymentMethod := o.method
  errorSource := some "gateway"
  errorStep := some "payment_authorization"
  errorReason := some "payment_failed"
  valid := by
    simp only [PaymentRecordFields.postInit, bind_ok_iff, raiseIf_ok_iff, not_not,
      exists_and_left, exists_const, if_true]
    exact ⟨by decide, by decide, o.positive, o.amount.currencyOk, ⟨Nat.le_refl 0, Nat.zero_le _⟩,
      o.methodOk, by decide, by decide, by decide, by decide, by decide⟩

theorem recordedAs_paymentRecord (o : LinkOffer) :
    (paymentRow o).RecordedAs (paymentRecord o).toPaymentRecordFields where
  paymentId := rfl
  orderId := rfl
  amountMinor := rfl
  currency := rfl
  paymentMethod := fun _ hmethod => Option.some.inj hmethod

theorem factsCanonical_paymentRecord (o : LinkOffer) : (paymentRecord o).FactsCanonical := by
  intro _ fact hfact
  simp only [PaymentRecordFields.facts, paymentRecord, List.mem_cons, List.not_mem_nil,
    or_false] at hfact
  rcases hfact with rfl | rfl | rfl <;> decide

/-- The payment is read, as the failed payment it is. -/
theorem exists_paymentTruth (o : LinkOffer) (now : Timestamp) :
    ∃ truth, readPaymentTruth (repository (fun _ => .ok (paymentRecord o)) now)
        (columns o [paymentRow o]) o.proposal providerAccountId (paymentRow o) = .ok truth ∧
      truth.canonicalPaymentState = .unpaid ∧ truth.paymentMethod = o.method ∧
      truth.observedAt = now := by
  obtain ⟨truth, htruth, hstatus, hmethod, hobserved⟩ :=
    exists_truth o (fun _ => .ok (paymentRecord o)) now [paymentRow o] rfl
      (recordedAs_paymentRecord o) (factsCanonical_paymentRecord o)
  refine ⟨truth, htruth, ?_, hmethod, hobserved⟩
  rw [PaymentTruthFields.canonicalPaymentState, if_pos (.inr hstatus)]

section

variable [Hashlib]

/-- What a delivery reads when nothing has changed since the payment failed. -/
def reads (o : LinkOffer) (now : Timestamp) : DeliveryReads where
  startedAt := now
  intent := .ok (some (intent o))
  repository := repository (fun _ => .ok (paymentRecord o)) now
  columns := columns o [paymentRow o]
  decidedAt := now

/-! ## Where a run has come to -/

/-- A run after which the delivery of this version is at this stage, in this mode; it
was claimed at `now`, for thirty seconds. -/
structure At (o : LinkOffer) (steps : List CreateStep) (state : CreateJob) (version : Nat)
    (mode : RetryMode) (now : Timestamp) (stage : Stage) : Prop where
  run : (system o).machine.Run (job o) steps state
  begun : state.row.updatedAt = now
  window : sampleDeadline ≤ now ∧ now < sampleExpiry
  works : ∃ claim outboxJob expiry, shift now (seconds 30) = .ok expiry ∧
    state.delivery version = some ⟨claim, .working outboxJob stage⟩ ∧
    Holds o state version claim outboxJob expiry ∧ outboxJob.retryMode = mode

variable {o : LinkOffer} {steps : List CreateStep} {state : CreateJob} {version : Nat}
  {mode : RetryMode} {now : Timestamp} {stage : Stage}

/-- What every run of the job keeps. -/
theorem record (hrun : (system o).machine.Run (job o) steps state) :
    Kept (system o) steps state ∧ OnRecord (system o) (path o).terms state :=
  record_of_run rfl (planned_job o) hrun

/-- No step touches what the job was planned with. -/
theorem around_of_run (hrun : (system o).machine.Run (job o) steps state) :
    state.path.around = around ∧ state.path.action.id = actionId ∧
      state.path.action.actionKey = o.proposal.actionKey ∧
      state.path.action.externalReferenceId = some referenceId ∧
      state.path.instrument.referenceId = referenceId := by
  have hterms := (record hrun).2.terms
  exact ⟨congrArg PathTerms.around hterms, congrArg PathTerms.actionId hterms,
    congrArg PathTerms.actionKey hterms, congrArg PathTerms.externalReferenceId hterms,
    congrArg PathTerms.referenceId hterms⟩

omit [Hashlib] in
theorem lt_of_shift {expiry : Timestamp} (h : shift now (seconds 30) = .ok expiry) :
    now < expiry := by
  have hmicros := shift_ok_iff.mp h
  have hthirty : (30000000 : Int) = seconds 30 := rfl
  rw [Timestamp.lt_iff]
  omega

/-! ## Claims -/

/-- Claim the row. -/
theorem exists_at (version : Nat) (hrun : (system o).machine.Run (job o) steps state)
    (hcarries : Carries o state.row) (hdue : state.row.claimable now = true)
    (hattempts : state.row.attemptCount ≤ state.row.deliveryVersion)
    (hversion : state.row.deliveryVersion + 1 = version) (hearly : version < 8)
    (hclean : isCleanText 128 (leaseToken version) = true)
    (hwindow : sampleDeadline ≤ now ∧ now < sampleExpiry) :
    ∃ s : CreateStep, s.out = none ∧ s.post.path = state.path ∧
      At o (steps ++ [s]) s.post version
        (if state.row.status = .inProgress then .reconcileOnly else state.row.retryMode) now
        .claimed := by
  have hlater : sampleStart ≤ now := le_trans (by decide) hwindow.1
  obtain ⟨expiry, hexpiry⟩ : ∃ expiry, shift now (seconds 30) = .ok expiry := by
    have hend : sampleExpiry.micros = 63902739600000000 := rfl
    have hcalendar : calendarEnd = 315537897600000000 := rfl
    have hthirty : (30000000 : Int) = seconds 30 := rfl
    have hnonneg := now.nonneg
    have hrunning := Timestamp.lt_iff.mp hwindow.2
    exact ⟨⟨now.micros + seconds 30, by omega, by omega⟩, shift_ok_iff.mpr rfl⟩
  obtain ⟨-, hid, hkey, -, -⟩ := around_of_run hrun
  obtain ⟨claim, outboxJob, final, hexec, hpath, hdelivery, hholds, hclaimedAt, hmode⟩ :=
    exists_claim hcarries hdue hattempts hversion hearly hclean hlater hexpiry ⟨hid, hkey⟩
  have hupdated : final.row.updatedAt = now := by
    rw [← hclaimedAt, hholds.claimFields]
    rfl
  exact ⟨⟨state, .claim terms now, final, none⟩, rfl, hpath, hrun.next hexec, hupdated, hwindow,
    claim, outboxJob, expiry, hexpiry, hdelivery, hholds, hmode⟩

/-- The first delivery. -/
theorem exists_first (hwindow : sampleDeadline ≤ now ∧ now < sampleExpiry) :
    ∃ s : CreateStep, s.post.path = path o ∧ At o [s] s.post 1 .normal now .claimed := by
  have hdue : (row o).claimable now = true := by
    have hstart : sampleStart ≤ now := le_trans (by decide) hwindow.1
    simp [OutboxRow.claimable, row, hstart]
  obtain ⟨s, -, hpath, hat⟩ := exists_at 1 (.start (M := (system o).machine)) (carries_row o)
    hdue (Nat.le_refl 0) rfl (by decide) (by decide) hwindow
  exact ⟨s, hpath, hat⟩

/-- The delivery has crashed, and its lease has run out: the next one may only
reconcile. -/
theorem At.reclaim (later : Timestamp) (h : At o steps state version mode now stage)
    (hlater : now.micros + 30000000 ≤ later.micros) (hto : later < sampleExpiry)
    (hearly : version + 1 < 8) (hclean : isCleanText 128 (leaseToken (version + 1)) = true) :
    ∃ s : CreateStep, s.post.path = state.path ∧
      At o (steps ++ [s]) s.post (version + 1) .reconcileOnly later .claimed := by
  obtain ⟨claim, outboxJob, expiry, hexpiry, -, hholds, -⟩ := h.works
  have hthirty : (30000000 : Int) = seconds 30 := rfl
  have hmicros := shift_ok_iff.mp hexpiry
  have hdue : state.row.claimable later = true := by
    have hout : expiry ≤ later := by
      rw [Timestamp.le_iff]
      omega
    simp [OutboxRow.claimable, hholds.status, hholds.expires, hout]
  have hfrom : sampleDeadline ≤ later := by
    have hbegun := Timestamp.le_iff.mp h.window.1
    rw [Timestamp.le_iff]
    omega
  obtain ⟨s, -, hpath, hat⟩ := exists_at (version + 1) h.run hholds.carries hdue
    (hholds.current ▸ hholds.attempts) (congrArg (· + 1) hholds.current) hearly hclean
    ⟨hfrom, hto⟩
  rw [if_pos hholds.status] at hat
  exact ⟨s, hpath, hat⟩

/-! ## A step -/

/-- The delivery takes a step that leaves it at work. -/
theorem at_next {claim : ClaimedOutboxCommand} {outboxJob : OutboxJob} {expiry : Timestamp}
    {step : DeliveryStep} {changed : EffectPath} {next : Stage} {asked : Option ProviderCall}
    (hrun : (system o).machine.Run (job o) steps state) (hbegun : state.row.updatedAt = now)
    (hwindow : sampleDeadline ≤ now ∧ now < sampleExpiry)
    (hexpiry : shift now (seconds 30) = .ok expiry)
    (hd : state.delivery version = some ⟨claim, .working outboxJob stage⟩)
    (hholds : Holds o state version claim outboxJob expiry) (hmode : outboxJob.retryMode = mode)
    (hadvance : (system o).advance state.row state.path workerId outboxJob stage step =
      some ⟨changed, .working outboxJob next, asked⟩)
    (hterms : changed.terms = state.path.terms) :
    ∃ s : CreateStep, s.pre = state ∧ s.cmd = .deliver version step ∧ s.out = asked ∧
      s.post.path = changed ∧ At o (steps ++ [s]) s.post version mode now next := by
  rw [← hholds.workerId_eq] at hadvance
  have hexec := CreateSystem.exec_deliver hd hadvance
  have hnext : Holds o ⟨state.row, changed,
      CreateSystem.setDelivery state.delivery version ⟨claim, .working outboxJob next⟩⟩
      version claim outboxJob expiry :=
    hholds.congr rfl (congrArg PathTerms.actionId hterms) (congrArg PathTerms.actionKey hterms)
  exact ⟨⟨state, .deliver version step, _, asked⟩, rfl, rfl, rfl, rfl, hrun.next hexec, hbegun,
    hwindow, claim, outboxJob, expiry, hexpiry, setDelivery_self, hnext, hmode⟩

/-- The delivery reads, and is cleared as long as the action is open. -/
theorem At.read (h : At o steps state version mode now .claimed)
    (hopen : state.path.action.status ∈
      [ActionStatus.queued, .executing, .uncertain, .reconciling]) :
    ∃ (s : CreateStep) (effect : GateDecision) (context : GateContext), s.out = none ∧
      s.post.path = state.path ∧
      At o (steps ++ [s]) s.post version mode now (.cleared effect context now) := by
  obtain ⟨claim, outboxJob, expiry, hexpiry, hd, hholds, hmode⟩ := h.works
  have hlease := hholds.assertActiveLease (lt_of_shift hexpiry)
  have hstate : state.path.recoveryCase.state ∈
      effectActionableStates .createStandardPaymentLink := by
    have hstaged := (record h.run).1.staged
    simp only [List.mem_cons, List.not_mem_nil, or_false] at hopen
    rcases hopen with hat | hat | hat | hat <;>
      simp only [EffectPath.Staged, hat] at hstaged <;> rw [hstaged.1] <;> decide
  obtain ⟨truth, htruth, hunpaid, hmethod, hobserved⟩ := exists_paymentTruth o now
  obtain ⟨fresh, hfresh, hfits⟩ := exists_context state.path now rfl htruth hunpaid hmethod
    hobserved (around_of_run h.run).1 hstate h.window.1 h.window.2
  obtain ⟨effect, hdecided, -, -⟩ := decideEffect_offer
    ((reads o now).effectReads (command o) state.path) (by rw [hholds.jobFields]; rfl)
    (by rw [hholds.jobFields]; rfl) rfl (matchesCommand_intentFields _ _) hlease hlease hfresh
    hfits
  obtain ⟨s, -, -, hout, hpath, hat⟩ := at_next h.run h.begun h.window hexpiry hd hholds hmode
    ((system o).advance_read hdecided) rfl
  exact ⟨s, effect, _, hout, hpath, hat⟩

/-! ## The authorization -/

/-- The delivery at this stage, whose fence is held. -/
theorem At.fenced (h : At o steps state version mode now stage) :
    ∃ claim outboxJob, state.delivery version = some ⟨claim, .working outboxJob stage⟩ ∧
      outboxJob.retryMode = mode ∧
      lockFence state.row state.path outboxJob (command o) claim.workerId now = true := by
  obtain ⟨claim, outboxJob, expiry, hexpiry, hd, hholds, hmode⟩ := h.works
  refine ⟨claim, outboxJob, hd, hmode, ?_⟩
  rw [hholds.workerId_eq]
  exact hholds.lockFence (lt_of_shift hexpiry)

/-- An effect was started for the action, first at `first`; the evidence is on record. -/
structure Tried (path : EffectPath) (status : ActionStatus) (first : Timestamp) : Prop where
  status : path.action.status = status
  evidence : path.action.effectGateSnapshot ≠ none
  attempted : path.action.firstAttemptedAt = some first

/-- The delivery finds the path it was decided on. -/
theorem At.found {effect : GateDecision} {context : GateContext}
    (h : At o steps state version mode now (.cleared effect context now)) :
    Cleared (system o) state.path effect context now := by
  obtain ⟨_, _, hd, -, hfence⟩ := h.fenced
  exact cleared_of_run rfl (planned_job o) h.run hd hfence

/-- The authorization is recorded. -/
theorem At.authorize (Left : EffectPath → Prop) {effect : GateDecision} {context : GateContext}
    (h : At o steps state version mode now (.cleared effect context now))
    (hrecorded : ∀ outboxJob : OutboxJob, outboxJob.leaseExpiresAt.isSome = true →
      ∃ changed, recordEffectAuthorization (schemaServer false) true now state.path outboxJob
          (command o) effect context workerId (decide (mode = .reconcileOnly)) = .ok changed ∧
        Left changed) :
    ∃ s : CreateStep, s.out = none ∧ Left s.post.path ∧
      At o (steps ++ [s]) s.post version mode now (.authorized effect now) := by
  obtain ⟨claim, outboxJob, expiry, hexpiry, hd, hholds, hjobMode⟩ := h.works
  obtain ⟨changed, hchanged, hleft⟩ := hrecorded outboxJob (by simp [hholds.lease])
  rw [← hjobMode] at hchanged
  obtain ⟨-, -, -, -, hterms, -⟩ :=
    recordEffectAuthorization_ok (record h.run).1.staged hchanged
  obtain ⟨s, -, -, hout, hpath, hat⟩ := at_next h.run h.begun h.window hexpiry hd hholds hjobMode
    ((system o).advance_authorize (hholds.lockFence (lt_of_shift hexpiry)) hchanged) hterms
  exact ⟨s, hout, hpath ▸ hleft, hat⟩

/-- A queued effect without evidence is recorded as started. -/
theorem exists_started {storesCaseText : Bool} {path : EffectPath} {outboxJob : OutboxJob}
    {proposed : CreatePaymentLinkCommand} {effect : GateDecision} {context : GateContext}
    {worker : String} (writtenAt : Timestamp) (hjournal : path.Journaled) (hstaged : path.Staged)
    (hqueued : path.action.status = .queued) (hnone : path.action.effectGateSnapshot = none)
    (hallowed : effect.allowed = true) (hbound : path.Bound proposed context)
    (hversion : effect.aggregateVersion = path.recoveryCase.version)
    (happroval : path.around.approvalHolds writtenAt = true)
    (hworker : hasText (some worker) = true) (hlease : outboxJob.leaseExpiresAt.isSome = true) :
    ∃ changed, recordEffectAuthorization (schemaServer storesCaseText) true writtenAt path
        outboxJob proposed effect context worker false = .ok changed ∧
      Tried changed .executing effect.evaluatedAt := by
  have hcase : path.recoveryCase.state = .actionQueued := by
    simp only [EffectPath.Staged, hqueued] at hstaged
    exact hstaged.1
  have hfirst : path.action.firstAttemptedAt = none := (hjournal.unstarted hnone).2
  have hupdates : authorizationUpdates path outboxJob effect worker false =
      .ok [startCaseExecution path.recoveryCase.version,
        startActionExecution worker outboxJob.leaseExpiresAt (gateSnapshot effect)
          effect.evaluatedAt] := by
    rw [authorizationUpdates, if_neg (by simp), if_pos ⟨hcase, hqueued⟩]
  have htyped : ∀ u ∈ [startCaseExecution path.recoveryCase.version,
      startActionExecution worker outboxJob.leaseExpiresAt (gateSnapshot effect)
        effect.evaluatedAt], u.typed = true := by
    simp [startCaseExecution, startActionExecution, onCase, onAction]
  have hadmitted : AllAdmitted (schemaServer storesCaseText) writtenAt
      [startCaseExecution path.recoveryCase.version,
        startActionExecution worker outboxJob.leaseExpiresAt (gateSnapshot effect)
          effect.evaluatedAt] path := by
    obtain ⟨-, -, -, -, -, hmerchant, hswitch, henvironment, henabled, -, -⟩ := hbound
    exact (allAdmitted_start_iff hjournal hstaged hqueued hversion henvironment henabled hmerchant
      hswitch hworker hlease).mpr ⟨hnone, happroval⟩
  obtain ⟨changed, happlied, htried⟩ : ∃ changed, applyAll
      [startCaseExecution path.recoveryCase.version,
        startActionExecution worker outboxJob.leaseExpiresAt (gateSnapshot effect)
          effect.evaluatedAt] path = some changed ∧
        Tried changed .executing effect.evaluatedAt := by
    simp only [applyAll_cons, applyAll_nil, startCaseExecution, startActionExecution, onCase,
      onAction, hcase, hqueued, List.mem_singleton, and_self, if_true, Option.bind_some]
    exact ⟨_, rfl, rfl, by simp, by simp [hfirst]⟩
  exact ⟨changed, (recordEffectAuthorization_ok_iff_runUpdates hallowed hbound).mpr
    ⟨_, hupdates, (runUpdates_ok_iff htyped).mpr ⟨happlied, hadmitted⟩⟩, htried⟩

/-- The first effect is started. -/
theorem At.start {effect : GateDecision} {context : GateContext}
    (h : At o steps state version mode now (.cleared effect context now))
    (hmode : mode ≠ .reconcileOnly) (hqueued : state.path.action.status = .queued)
    (hnone : state.path.action.effectGateSnapshot = none) :
    ∃ s : CreateStep, s.out = none ∧ Tried s.post.path .executing now ∧
      At o (steps ++ [s]) s.post version mode now (.authorized effect now) := by
  obtain ⟨hallowed, hevaluated, hversion, hbound, -⟩ := h.found
  obtain ⟨hkept, hrecord⟩ := record h.run
  refine h.authorize (Tried · .executing now) ?_
  intro outboxJob hlease
  have happroval : state.path.around.approvalHolds now = true := by
    rw [(around_of_run h.run).1]
    rfl
  rw [decide_eq_false hmode, ← hevaluated]
  exact exists_started effect.evaluatedAt hrecord.journaled hkept.staged hqueued hnone hallowed
    hbound hversion (hevaluated ▸ happroval) (by decide) hlease

/-- A reconciliation is started, of an effect that is uncertain. -/
theorem At.startReconciling {effect : GateDecision} {context : GateContext}
    {status : ActionStatus} {first : Timestamp}
    (h : At o steps state version .reconcileOnly now (.cleared effect context now))
    (htried : Tried state.path status first)
    (hstatus : status ∈ [ActionStatus.uncertain, .reconciling]) (hlater : first ≤ now) :
    ∃ s : CreateStep, s.out = none ∧ Tried s.post.path .reconciling first ∧
      At o (steps ++ [s]) s.post version .reconcileOnly now (.authorized effect now) := by
  have hat : state.path.action.status ∈ [ActionStatus.uncertain, .reconciling] :=
    htried.status ▸ hstatus
  have hevaluated := h.found.evaluatedAt
  obtain ⟨hkept, hrecord⟩ := record h.run
  refine h.authorize (Tried · .reconciling first) ?_
  intro outboxJob hlease
  have hadmitted : AllAdmitted (schemaServer false) now
      [startReconciliation workerId outboxJob.leaseExpiresAt effect.evaluatedAt] state.path := by
    refine (allAdmitted_reconciliation_iff hrecord.journaled hat (by decide) hlease).mpr ?_
    intro other hother
    rw [htried.attempted] at hother
    rw [← Option.some.inj hother, hevaluated]
    exact hlater
  obtain ⟨changed, happlied, htried⟩ : ∃ changed, applyAll
      [startReconciliation workerId outboxJob.leaseExpiresAt effect.evaluatedAt] state.path =
        some changed ∧ Tried changed .reconciling first := by
    simp only [applyAll_cons, applyAll_nil, startReconciliation, onAction, if_pos hat,
      Option.bind_some]
    exact ⟨_, rfl, rfl, htried.evidence, htried.attempted⟩
  have htyped : ∀ u ∈ [startReconciliation workerId outboxJob.leaseExpiresAt effect.evaluatedAt],
      u.typed = true := by
    simp [startReconciliation, onAction]
  rw [decide_eq_true (rfl : RetryMode.reconcileOnly = .reconcileOnly)]
  exact ⟨changed, (recordEffectAuthorization_ok_iff_runUpdates h.found.allowed h.found.bound).mpr
    ⟨_, (authorizationUpdates_reconcile_ok_iff hkept.staged).mpr ⟨hat, rfl⟩,
      (runUpdates_ok_iff htyped).mpr ⟨happlied, hadmitted⟩⟩, htried⟩

/-! ## Calls of the provider -/

/-- The provider is asked to create. -/
theorem At.sendCreate {effect : GateDecision}
    (h : At o steps state version mode now (.authorized effect now))
    (hmode : mode ≠ .reconcileOnly) (hexpiry : (request o).validateExpiry now = .ok ()) :
    ∃ s : CreateStep, s.out = some (.create (request o) providerAccountId) ∧
      s.post.path = state.path ∧ At o (steps ++ [s]) s.post version mode now (.sent effect now) := by
  obtain ⟨claim, outboxJob, expiry, hlease, hd, hholds, hjobMode⟩ := h.works
  have hbegun : beginEffect outboxJob (system o).command workerId now effect = .ok .create :=
    beginEffect_create_iff.mpr ⟨hjobMode ▸ hmode, hexpiry⟩
  obtain ⟨s, -, -, hout, hpath, hat⟩ := at_next h.run h.begun h.window hlease hd hholds hjobMode
    ((system o).advance_send hbegun) rfl
  exact ⟨s, hout, hpath, hat⟩

/-- The provider is asked to look up. -/
theorem At.sendLookup {effect : GateDecision}
    (h : At o steps state version .reconcileOnly now (.authorized effect now)) :
    ∃ s : CreateStep, s.out ≠ none ∧ s.post.path = state.path ∧
      At o (steps ++ [s]) s.post version .reconcileOnly now (.lookingUp effect now) := by
  obtain ⟨claim, outboxJob, expiry, hlease, hd, hholds, hjobMode⟩ := h.works
  obtain ⟨s, -, -, hout, hpath, hat⟩ := at_next h.run h.begun h.window hlease hd hholds hjobMode
    ((system o).advance_send (beginEffect_of_reconcileOnly hjobMode)) rfl
  exact ⟨s, by rw [hout]; simp [CreateSystem.asked], hpath, hat⟩

/-- The job can be put back for a retry. -/
theorem exists_requeue {claim : ClaimedOutboxCommand} {outboxJob : OutboxJob} {expiry : Timestamp}
    (hholds : Holds o state version claim outboxJob expiry) (hbegun : state.row.updatedAt = now)
    (hwindow : sampleDeadline ≤ now ∧ now < sampleExpiry)
    (hexpiry : shift now (seconds 30) = .ok expiry) {reason : String}
    (hreason : isCleanText 512 reason = true) (effect : GateDecision) (retryMode : RetryMode)
    (disposition : ExecutionDisposition) :
    ∃ result, requeue outboxJob (command o) workerId now effect reason retryMode disposition =
        .ok result ∧ result.disposition = disposition ∧ result.reasonCode = reason ∧
      result.job.retryMode = retryMode := by
  have hcarries := hholds.carries
  have hearly := hholds.early
  have hattempts := hholds.attempts
  have hfields : outboxJob.toJobFields = jobFromClaim claim.toClaimFields (command o) :=
    hholds.jobFields
  have hclaim := hholds.claimFields
  have hupdated : outboxJob.updatedAt = now := by
    rw [hfields, jobFromClaim, hclaim]
    exact hbegun
  have hroom : outboxJob.attempts < outboxJob.maxAttempts := by
    rw [hfields, jobFromClaim, hclaim]
    show state.row.attemptCount < state.row.maxAttempts
    rw [hcarries.maxAttempts]
    omega
  have hinTime : now.micros + BackoffPolicy.delayAfter {} outboxJob.attempts < calendarEnd := by
    have hbounds := delayAfter_bounds outboxJob.attempts
    have hend : sampleExpiry.micros = 63902739600000000 := rfl
    have hcalendar : calendarEnd = 315537897600000000 := rfl
    have hrunning := Timestamp.lt_iff.mp hwindow.2
    omega
  have hheld : outboxJob.Held workerId now :=
    ⟨hholds.assertActiveLease (lt_of_shift hexpiry), hupdated.le⟩
  have hroom' : ¬outboxJob.maxAttempts ≤ outboxJob.attempts := not_le.mpr hroom
  obtain ⟨updated, hrequeued, -, hstate⟩ := hheld.requeue_iff.mpr
    ⟨hreason, by rw [if_neg hroom']; exact hinTime⟩
  rw [if_neg hroom'] at hstate
  refine ⟨_, bind_ok_iff.mpr ⟨updated, hrequeued, rfl⟩, ?_, rfl, (OutboxJob.requeue_ok hrequeued).1⟩
  show (if updated.state = .deadLetter then .deadLetter else disposition) = disposition
  rw [hstate]
  rfl

/-! ## Answers -/

/-- The create failed for certain. -/
def failedOutcome : ProviderCreateOutcome where
  status := .certainFailure
  reasonCode := "provider_declined"
  valid := by decide

/-- Nobody knows what became of the create. -/
def lostOutcome : ProviderCreateOutcome where
  status := .ambiguous
  reasonCode := "provider_timeout"
  valid := by decide

/-- The lookup did not get through. -/
def brokenLookup : PaymentLinkLookupResult where
  completed := false
  valid := fun _ => rfl

theorem At.answerFailed {effect : GateDecision}
    (h : At o steps state version mode now (.sent effect now)) :
    ∃ (s : CreateStep) (result : ExecutionResult), s.post.path = state.path ∧
      result.disposition = .requeued ∧ result.reasonCode = "certain_failure:provider_declined" ∧
      result.job.retryMode = .retrySameEffect ∧
      At o (steps ++ [s]) s.post version mode now (.finished result) := by
  obtain ⟨claim, outboxJob, expiry, hexpiry, hd, hholds, hjobMode⟩ := h.works
  obtain ⟨result, hrequeue, hdisposition, hreason, hretry⟩ :=
    exists_requeue hholds h.begun h.window hexpiry
      (by decide : isCleanText 512 "certain_failure:provider_declined" = true) effect
      .retrySameEffect .requeued
  have hsettled : settleCreate outboxJob (system o).command workerId now effect failedOutcome =
      .ok (some result) := map_ok_iff.mpr ⟨result, hrequeue, rfl⟩
  obtain ⟨s, -, -, -, hpath, hat⟩ := at_next h.run h.begun h.window hexpiry hd hholds hjobMode
    ((system o).advance_answer hsettled) rfl
  exact ⟨s, result, hpath, hdisposition, hreason, hretry, hat⟩

theorem At.answerLost {effect : GateDecision}
    (h : At o steps state version mode now (.sent effect now)) :
    ∃ s : CreateStep, s.post.path = state.path ∧
      At o (steps ++ [s]) s.post version mode now (.lookingUp effect now) := by
  obtain ⟨claim, outboxJob, expiry, hexpiry, hd, hholds, hjobMode⟩ := h.works
  have hsettled : settleCreate outboxJob (system o).command workerId now effect lostOutcome =
      .ok none := rfl
  obtain ⟨s, -, -, -, hpath, hat⟩ := at_next h.run h.begun h.window hexpiry hd hholds hjobMode
    ((system o).advance_ambiguous hsettled) rfl
  exact ⟨s, hpath, hat⟩

theorem At.lookupBroken {effect : GateDecision}
    (h : At o steps state version mode now (.lookingUp effect now)) :
    ∃ (s : CreateStep) (result : ExecutionResult), s.post.path = state.path ∧
      result.disposition = .requeryRequired ∧
      At o (steps ++ [s]) s.post version mode now (.finished result) := by
  obtain ⟨claim, outboxJob, expiry, hexpiry, hd, hholds, hjobMode⟩ := h.works
  obtain ⟨result, hrequeue, hdisposition, -, -⟩ :=
    exists_requeue hholds h.begun h.window hexpiry
      (by decide : isCleanText 512 "lookup_not_completed" = true) effect .reconcileOnly
      .requeryRequired
  have hreconciled : reconcile outboxJob (system o).command workerId now effect brokenLookup =
      .ok result := hrequeue
  obtain ⟨s, -, -, -, hpath, hat⟩ := at_next h.run h.begun h.window hexpiry hd hholds hjobMode
    ((system o).advance_lookup hreconciled) rfl
  exact ⟨s, result, hpath, hdisposition, hat⟩

/-! ## The result -/

/-- A result is persisted when its statements go through. -/
theorem At.persist (Left : EffectPath → Prop) {result : ExecutionResult}
    (h : At o steps state version mode now (.finished result))
    (hwrites : ∃ updates changed, resultUpdates (schemaServer false) state.path result =
        .ok updates ∧ (∀ u ∈ updates, u.typed = true) ∧ applyAll updates state.path = some changed ∧
      AllAdmitted (schemaServer false) now updates state.path ∧ Left changed) :
    ∃ s : CreateStep, Left s.post.path ∧
      At o (steps ++ [s]) s.post version mode now (.persisted result) := by
  obtain ⟨claim, outboxJob, expiry, hexpiry, hd, hholds, hjobMode⟩ := h.works
  obtain ⟨updates, changed, hupdates, htyped, happlied, hadmitted, hleft⟩ := hwrites
  have hfence : lockFence state.row state.path outboxJob (command o)
      (outboxJob.leaseOwner.getD "") now = true := by
    rw [hholds.lease.1]
    exact hholds.lockFence (lt_of_shift hexpiry)
  have hpersisted : persistResult (system o).server true now state.path result = .ok changed :=
    persistResult_ok_iff_runUpdates.mpr
      ⟨updates, hupdates, (runUpdates_ok_iff htyped).mpr ⟨happlied, hadmitted⟩⟩
  have hfenced : persistResult (system o).server (lockFence state.row state.path outboxJob
      (system o).command (outboxJob.leaseOwner.getD "") now) now state.path result =
        .ok changed := by
    rw [show lockFence state.row state.path outboxJob (system o).command
      (outboxJob.leaseOwner.getD "") now = true from hfence]
    exact hpersisted
  obtain ⟨-, -, -, hterms⟩ := (record h.run).1.settled hd hfenced
  obtain ⟨s, -, -, -, hpath, hat⟩ := at_next h.run h.begun h.window hexpiry hd hholds hjobMode
    ((system o).advance_persist hfence hpersisted) hterms
  exact ⟨s, hpath ▸ hleft, hat⟩

/-- Nothing certain is persisted as such. -/
theorem At.persistUncertain {result : ExecutionResult} {first : Timestamp}
    (h : At o steps state version mode now (.finished result))
    (hdisposition : result.disposition = .requeryRequired)
    (htried : Tried state.path .executing first) :
    ∃ s : CreateStep, Tried s.post.path .uncertain first ∧
      At o (steps ++ [s]) s.post version mode now (.persisted result) := by
  obtain ⟨hkept, hrecord⟩ := record h.run
  refine h.persist (Tried · .uncertain first) ?_
  have hstaged := hkept.staged
  simp only [EffectPath.Staged, htried.status] at hstaged
  obtain ⟨hcase, hinstrument, -⟩ := hstaged
  have hupdates : resultUpdates (schemaServer false) state.path result =
      .ok [markUncertainAction result.reasonText, markUncertainInstrument,
        markUncertainCase state.path.recoveryCase.version] := by
    simp only [resultUpdates, hdisposition]
  obtain ⟨changed, happlied, hleft⟩ : ∃ changed, applyAll
      [markUncertainAction result.reasonText, markUncertainInstrument,
        markUncertainCase state.path.recoveryCase.version] state.path = some changed ∧
        Tried changed .uncertain first := by
    simp only [applyAll_cons, applyAll_nil, markUncertainAction, markUncertainInstrument,
      markUncertainCase, onAction, onInstrument, onCase, htried.status, hcase, hinstrument,
      List.mem_singleton, and_self, if_true, Option.bind_some]
    exact ⟨_, rfl, rfl, htried.evidence, htried.attempted⟩
  exact ⟨_, changed, hupdates,
    by simp [markUncertainAction, markUncertainInstrument, markUncertainCase, onAction,
      onInstrument, onCase], happlied,
    allAdmitted_requery hrecord.journaled hkept.staged htried.status, hleft⟩

/-- A definite failure is persisted as one that can be tried again. -/
theorem At.persistRequeued {result : ExecutionResult} {first : Timestamp}
    (h : At o steps state version mode now (.finished result))
    (hdisposition : result.disposition = .requeued) (htried : Tried state.path .executing first) :
    ∃ s : CreateStep, Tried s.post.path .queued first ∧
      At o (steps ++ [s]) s.post version mode now (.persisted result) := by
  obtain ⟨hkept, hrecord⟩ := record h.run
  refine h.persist (Tried · .queued first) ?_
  have hstaged := hkept.staged
  simp only [EffectPath.Staged, htried.status] at hstaged
  obtain ⟨hcase, -, -⟩ := hstaged
  have hupdates : resultUpdates (schemaServer false) state.path result =
      .ok [markActionRetryable result.reasonText, queueRetryableAction,
        markUncertainCase state.path.recoveryCase.version,
        queueUncertainCase (state.path.recoveryCase.version + 1)] := by
    simp only [resultUpdates, hdisposition, htried.status]
  obtain ⟨changed, happlied, hleft⟩ : ∃ changed, applyAll
      [markActionRetryable result.reasonText, queueRetryableAction,
        markUncertainCase state.path.recoveryCase.version,
        queueUncertainCase (state.path.recoveryCase.version + 1)] state.path = some changed ∧
        Tried changed .queued first := by
    simp only [applyAll_cons, applyAll_nil, markActionRetryable, queueRetryableAction,
      markUncertainCase, queueUncertainCase, onAction, onCase, htried.status, hcase,
      List.mem_singleton, and_self, if_true, Option.bind_some]
    exact ⟨_, rfl, rfl, htried.evidence, htried.attempted⟩
  exact ⟨_, changed, hupdates,
    by simp [markActionRetryable, queueRetryableAction, markUncertainCase, queueUncertainCase,
      onAction, onCase], happlied,
    allAdmitted_requeue_executing hrecord.journaled hkept.staged htried.status, hleft⟩

/-! ## A retry -/

/-- The row goes back to be tried again, and what it carries stays. -/
theorem exists_settled {claim : ClaimedOutboxCommand} {outboxJob : OutboxJob} {expiry : Timestamp}
    (hholds : Holds o state version claim outboxJob expiry)
    (hwindow : sampleDeadline ≤ now ∧ now < sampleExpiry)
    (hexpiry : shift now (seconds 30) = .ok expiry) {reason : String}
    (hreason : isCleanText 500 reason = true) (retryMode : RetryMode) :
    ∃ settled, state.row.settle {} claim.toClaimFields now (.retry reason retryMode) = .ok settled ∧
      Carries o settled ∧ settled.status = .retryScheduled ∧ settled.retryMode = retryMode ∧
      settled.nextAttemptAt.micros ≤ now.micros + 300000000 ∧
      settled.attemptCount ≤ settled.deliveryVersion ∧ settled.deliveryVersion = version + 1 := by
  have hcarries := hholds.carries
  have hearly := hholds.early
  have hattempts := hholds.attempts
  have hclaim := hholds.claimFields
  have hbounds := delayAfter_bounds claim.attemptCount
  obtain ⟨nextAttemptAt, hnext⟩ : ∃ nextAttemptAt,
      shift now (BackoffPolicy.delayAfter {} claim.attemptCount) = .ok nextAttemptAt := by
    have hend : sampleExpiry.micros = 63902739600000000 := rfl
    have hcalendar : calendarEnd = 315537897600000000 := rfl
    have hnonneg := now.nonneg
    have hrunning := Timestamp.lt_iff.mp hwindow.2
    exact ⟨⟨now.micros + BackoffPolicy.delayAfter {} claim.attemptCount, by omega, by omega⟩,
      shift_ok_iff.mpr rfl⟩
  have hmicros := shift_ok_iff.mp hnext
  have hroom : ¬claim.attemptCount ≥ claim.maxAttempts := by
    rw [hclaim]
    show ¬state.row.attemptCount ≥ state.row.maxAttempts
    rw [hcarries.maxAttempts]
    omega
  have hheld : state.row.heldBy claim.jobId claim.merchantId claim.deliveryVersion
      claim.workerId claim.leaseToken now = true := by
    rw [hclaim]
    simp [OutboxRow.heldBy, OutboxRow.claimFields, hholds.status, hholds.owner, hholds.token,
      hholds.expires, lt_of_shift hexpiry]
  have htext : requireCleanText reason "reason" 500 = .ok () :=
    raiseIf_of_not _ (not_not.mpr hreason)
  refine ⟨{ state.row.released now with
      status := .retryScheduled
      retryMode := retryMode
      nextAttemptAt := nextAttemptAt
      lastErrorCode := some reason
      lastErrorAt := some now }, ?_, ?_, rfl, rfl, ?_, ?_, congrArg (· + 1) hholds.current⟩
  · show state.row.retry {} claim.toClaimFields now reason retryMode = _
    rw [OutboxRow.retry, bind_of_ok htext, if_neg hroom,
      bind_of_ok (liftDomain_ok_iff.mpr hnext), OutboxRow.settleWith, if_pos hheld]
  · exact ⟨hcarries.id, hcarries.merchantId, hcarries.aggregateType, hcarries.aggregateId,
      hcarries.commandType, hcarries.schemaVersion, hcarries.idempotencyKey, hcarries.createdAt,
      hcarries.maxAttempts⟩
  · show nextAttemptAt.micros ≤ now.micros + 300000000
    omega
  · show state.row.attemptCount ≤ state.row.deliveryVersion + 1
    rw [hholds.current]
    omega

/-- The worker settles the row, and claims it again when the delay is over. -/
theorem At.retry (later : Timestamp) {result : ExecutionResult}
    (h : At o steps state version mode now (.persisted result))
    (hdisposition : result.disposition = .requeued) {reason : String}
    (hreason : result.reasonCode = reason) (hclean : isCleanText 500 reason = true)
    (hmode : result.job.retryMode = .retrySameEffect)
    (hlater : now.micros + 300000000 ≤ later.micros) (hto : later < sampleExpiry)
    (hearly : version + 2 < 8) (htoken : isCleanText 128 (leaseToken (version + 2)) = true) :
    ∃ (more : List CreateStep) (final : CreateJob), final.path = state.path ∧
      At o (steps ++ more) final (version + 2) .retrySameEffect later .claimed := by
  obtain ⟨claim, outboxJob, expiry, hexpiry, hd, hholds, hjobMode⟩ := h.works
  have hresult : result.handlerResult = .retry reason .retrySameEffect := by
    have hcheck : (HandlerResult.retry reason .retrySameEffect).check = .ok () := by
      simp only [HandlerResult.check, requireCleanText, bind_ok_iff, raiseIf_ok_iff, not_not]
      exact ⟨(), hclean, by simp⟩
    simp only [ExecutionResult.handlerResult, hdisposition, hreason, hmode,
      HandlerResult.orHandlerException, hcheck]
  have hreport : (system o).advance state.row state.path claim.workerId outboxJob
      (.persisted result) .report = some ⟨state.path, .settling result.handlerResult, none⟩ := rfl
  have hreported := CreateSystem.exec_deliver hd hreport
  obtain ⟨settled, hsettled, hcarries, hstatus, hretryMode, hnext, hattempts, hversion⟩ :=
    exists_settled hholds h.window hexpiry hclean .retrySameEffect
  rw [hresult] at hreported
  let waiting : CreateJob := ⟨state.row, state.path, CreateSystem.setDelivery state.delivery
    version ⟨claim, .settling (.retry reason .retrySameEffect)⟩⟩
  let released : CreateJob := ⟨settled, state.path, CreateSystem.setDelivery waiting.delivery
    version ⟨claim, .closed⟩⟩
  have hexec : (system o).machine.exec waiting (.settle version now) = .ok (released, none) := by
    have hd' : waiting.delivery version =
        some ⟨claim, .settling (.retry reason .retrySameEffect)⟩ := setDelivery_self
    have hrow : (system o).settledRow waiting.row claim.toClaimFields now
        (.retry reason .retrySameEffect) = settled := by
      rw [CreateSystem.settledRow]
      rw [show waiting.row.settle (system o).backoff claim.toClaimFields now
        (.retry reason .retrySameEffect) = .ok settled from hsettled]
    simp only [CreateSystem.machine, CreateSystem.exec, hd', hrow]
    rfl
  let report : CreateStep := ⟨state, .deliver version .report, waiting, none⟩
  let settle : CreateStep := ⟨waiting, .settle version now, released, none⟩
  have hrun : (system o).machine.Run (job o) (steps ++ [report] ++ [settle]) released := by
    have hfirst : (system o).machine.Takes report := hreported
    have hsecond : (system o).machine.Takes settle := hexec
    exact Machine.Run.next (Machine.Run.next h.run hfirst) hsecond
  have hdue : released.row.claimable later = true := by
    have hout : settled.nextAttemptAt ≤ later := by
      rw [Timestamp.le_iff]
      omega
    simp [OutboxRow.claimable, released, hstatus, hout]
  have hfrom : sampleDeadline ≤ later := by
    have hbegun := Timestamp.le_iff.mp h.window.1
    rw [Timestamp.le_iff]
    omega
  obtain ⟨s, -, hpath, hat⟩ := exists_at (version + 2) hrun hcarries hdue hattempts
    (congrArg (· + 1) hversion) hearly htoken ⟨hfrom, hto⟩
  have hnotHeld : ¬released.row.status = .inProgress := by simp [released, hstatus]
  rw [if_neg hnotHeld, show released.row.retryMode = .retrySameEffect from hretryMode] at hat
  rw [List.append_assoc, List.append_assoc] at hat
  exact ⟨_, s.post, hpath, hat⟩

/-! ## As far as the create -/

omit [Hashlib] in
/-- The time of the first delivery. -/
def firstTime : Timestamp := sampleDeadline

omit [Hashlib] in
/-- Ten minutes on, when any lease and any delay is over. -/
def laterTime : Timestamp := ⟨63902736720000000, by decide, by decide⟩

omit [Hashlib] in
theorem validateExpiry_firstTime (o : LinkOffer) :
    (request o).validateExpiry firstTime = .ok () := by
  have hepoch : epochSeconds firstTime = 1767139320 := by decide
  have hlatest : sixCalendarMonthsAfter firstTime = .ok 1782777720 := by decide
  have hexpire : (request o).expireByEpoch = 1767146400 := rfl
  simp only [RequestFields.validateExpiry, hepoch, hexpire, bind_ok_iff, raiseIf_ok_iff]
  exact ⟨(), by decide, (), by decide, _, hlatest, by decide⟩

/-- The first delivery is cleared. -/
theorem exists_cleared (o : LinkOffer) : ∃ steps state effect context,
    At o steps state 1 .normal firstTime (.cleared effect context firstTime) ∧
      state.path.action.status = .queued ∧ state.path.action.effectGateSnapshot = none := by
  obtain ⟨s, hpath, hclaimed⟩ : ∃ s : CreateStep,
      s.post.path = path o ∧ At o [s] s.post 1 .normal firstTime .claimed :=
    exists_first ⟨le_refl _, by decide⟩
  have hqueued : s.post.path.action.status = .queued := by
    rw [hpath]
    rfl
  obtain ⟨t, effect, context, -, hread, hcleared⟩ := hclaimed.read (by simp [hqueued])
  refine ⟨_, t.post, effect, context, hcleared, hread ▸ hqueued, ?_⟩
  rw [hread, hpath]
  rfl

/-- A delivery gets as far as asking for the create. -/
theorem exists_sent (o : LinkOffer) : ∃ steps state effect,
    At o steps state 1 .normal firstTime (.sent effect firstTime) ∧
      Tried state.path .executing firstTime ∧
      ∃ s ∈ steps, s.out = some (.create (request o) providerAccountId) := by
  obtain ⟨_, _, effect, _, hcleared, hqueued, hnone⟩ := exists_cleared o
  obtain ⟨_, -, htried, hauthorized⟩ := hcleared.start (by decide) hqueued hnone
  obtain ⟨v, hout, hsent, hat⟩ :=
    hauthorized.sendCreate (by decide) (validateExpiry_firstTime o)
  exact ⟨_, v.post, effect, hat, hsent ▸ htried, v, by simp, hout⟩

/-- A delivery persists that nobody knows, and crashes; the one that takes over is
cleared. -/
theorem exists_takenOver (o : LinkOffer) : ∃ steps state effect context,
    At o steps state 2 .reconcileOnly laterTime (.cleared effect context laterTime) ∧
      Tried state.path .uncertain firstTime := by
  obtain ⟨_, _, _, hsent, htried, -⟩ := exists_sent o
  obtain ⟨_, hlostPath, hlost⟩ := hsent.answerLost
  obtain ⟨_, _, hresultPath, hrequery, hfinished⟩ := hlost.lookupBroken
  obtain ⟨_, huncertain, hpersisted⟩ := hfinished.persistUncertain hrequery
    (by rw [hresultPath, hlostPath]; exact htried)
  obtain ⟨_, hclaimPath, hclaimed⟩ := hpersisted.reclaim laterTime
    (by decide) (by decide) (by decide) (by decide)
  obtain ⟨last, effect, context, -, hreadPath, hcleared⟩ := hclaimed.read
    (by rw [hclaimPath, huncertain.status]; decide)
  refine ⟨_, last.post, effect, context, hcleared, ?_⟩
  rw [hreadPath, hclaimPath]
  exact huncertain

end

end LinkDelivery

end Retrywise.ControlPlane
