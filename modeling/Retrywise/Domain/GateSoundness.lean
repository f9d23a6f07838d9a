import Retrywise.Domain.Evaluation
import Retrywise.Domain.ActionKey

/-!
# What an executed effect has been checked for

`gate.py` and `aggregate.py` together: a case is moved to `EXECUTING` with a
gate decision as evidence, and the decision is only a list of reasons that came
out empty. `effectGate_sound` says what the empty list stands for.

> `EffectSafe`: the window is over, fresh truth is `UNPAID`, the method is
> healthy by a fresh reading, nothing is switched off, the money is the money
> due, attempts are left, the plan authorized the same proposal, and where an
> approval is needed one was granted for it.

The proof reads the evaluation part by part: a part of the list is empty exactly
when its facts hold (`*_eq_nil_iff`), so an allowed decision has them all.

Two bindings are by SHA-256 digest and nothing else: the decision carries the
digest of the proposal that was evaluated, and the case the key of a proposal
that was taken up. Where the argument goes through such a binding, the
conclusion names the two different documents with one digest that a mismatch
would take (`DigestCollision`).
-/

namespace Retrywise.Domain

open Retrywise.Foundation

/-! ## The parts, read backwards -/

/-- A reading that is neither stale nor from the future. -/
structure Recent (policy : GatePolicy) (c : GateContext) (maxAge : Timedelta)
    (observedAt : Timestamp) : Prop where
  notFuture : observedAt.micros ≤ c.evaluatedAt.micros + policy.allowedClockSkew
  notStale : c.evaluatedAt.micros - observedAt.micros ≤ maxAge

/-- The proposal asks for an approval, reaches the threshold, is not confident
enough, or was diagnosed in a way that has to be looked at. -/
def NeedsApproval (policy : GatePolicy) (p : ActionProposal) (c : GateContext) : Prop :=
  p.requiresApproval = true ∨
    (∃ amount, p.amount = some amount ∧
      policy.approvalThreshold.minorUnits ≤ amount.minorUnits) ∨
    (∀ confidence, p.modelConfidence = some confidence →
      confidence.value.value < policy.minConfidence.value.value) ∨
    c.abstentionRequired = true ∨ c.externalDiagnosisReviewRequired = true

/-- A collection proposal states its amount. -/
theorem ActionProposal.exists_amount {p : ActionProposal}
    (h : p.actionType ∈ collectionActions) : ∃ amount, p.amount = some amount := by
  cases hamount : p.amount with
  | some amount => exact ⟨amount, rfl⟩
  | none =>
    have hvalid := p.valid
    simp only [ProposalFields.postInit, if_pos h, hamount, Option.all_none] at hvalid
    -- whatever the optional fields hold, the check of the amount is reached and raises
    cases hmethod : p.paymentMethod <;> cases hreference : p.instrumentReference <;>
      simp [hmethod, hreference] at hvalid

namespace DeterministicGate

variable {gate : DeterministicGate} {stage : GateStage} {p : ActionProposal} {c : GateContext}
  {horizon : Timestamp}

theorem only_eq_nil_iff {actions : List ActionType} {reasons : List GateReason} :
    only p actions reasons = [] ↔ (p.actionType ∈ actions → reasons = []) := by
  unfold only
  by_cases h : p.actionType ∈ actions
  · simp [h]
  · simp [h]

theorem standingReasons_eq_nil_iff :
    standingReasons gate p c horizon = [] ↔
      p.merchantId = c.merchantId ∧ p.caseId = c.caseId ∧ p.createdAt ≤ horizon ∧
        c.evaluatedAt < p.expiresAt ∧ p.actionType ∈ gate.policy.allowedActions := by
  simp only [standingReasons, List.append_eq_nil_iff, reasonIf_eq_nil, not_not, not_lt, ge_iff_le,
    not_le, gt_iff_lt, ne_eq, and_assoc]

theorem switchReasons_eq_nil_iff :
    switchReasons p c = [] ↔
      (p.actionType ∈ externalActions → c.environmentEffectsEnabled = true) ∧
        (p.actionType ∈ collectionActions →
          c.globalKillSwitch = false ∧ c.merchantKillSwitch = false) := by
  simp only [switchReasons, List.append_eq_nil_iff, reasonIf_eq_nil, not_and, Bool.not_eq_true,
    Bool.not_eq_false]
  constructor
  · intro h
    exact ⟨h.1.1, fun hp => ⟨h.1.2 hp, h.2 hp⟩⟩
  · intro h
    exact ⟨⟨h.1, fun hp => (h.2 hp).1⟩, fun hp => (h.2 hp).2⟩

theorem caseReasons_eq_nil_iff :
    caseReasons stage p c = [] ↔ c.aggregateVersion = c.expectedAggregateVersion ∧
      c.recoveryState ∈ actionableStates stage p.actionType := by
  simp only [caseReasons, List.append_eq_nil_iff, reasonIf_eq_nil, not_not, ne_eq]

theorem windowReasons_eq_nil_iff :
    windowReasons c = [] ↔
      ∃ deadline, c.observationDeadline = some deadline ∧ deadline ≤ c.evaluatedAt := by
  unfold windowReasons
  split
  next h => simp [h]
  next deadline h => simp [h]

theorem ageReasons_eq_nil_iff {observedAt : Timestamp} {maxAge : Timedelta}
    {fromFuture stale : GateReason}
    (h : shift c.evaluatedAt gate.policy.allowedClockSkew = .ok horizon) :
    ageReasons c horizon observedAt maxAge fromFuture stale = [] ↔
      Recent gate.policy c maxAge observedAt := by
  have hhorizon := shift_ok_iff.mp h
  unfold ageReasons
  by_cases hlate : observedAt > horizon
  · rw [if_pos hlate]
    have hmicros : horizon.micros < observedAt.micros := Timestamp.lt_iff.mp hlate
    refine ⟨fun he => absurd he (by simp), fun hrecent => ?_⟩
    have := hrecent.notFuture
    omega
  · rw [if_neg hlate, reasonIf_eq_nil, gt_iff_lt, not_lt]
    have hmicros : observedAt.micros ≤ horizon.micros := Timestamp.le_iff.mp (not_lt.mp hlate)
    refine ⟨fun hage => ⟨by omega, hage⟩, fun hrecent => hrecent.notStale⟩

theorem truthReasons_eq_nil_iff
    (h : shift c.evaluatedAt gate.policy.allowedClockSkew = .ok horizon) :
    truthReasons gate c horizon = [] ↔ c.snapshot.paymentState = .unpaid ∧
      Recent gate.policy c gate.policy.providerSnapshotMaxAge c.snapshot.observedAt := by
  rw [truthReasons, List.append_eq_nil_iff, reasonIf_eq_nil, not_not, ageReasons_eq_nil_iff h]

theorem instrumentReasons_eq_nil_iff (hcreate : p.actionType = .createStandardPaymentLink) :
    instrumentReasons p c = [] ↔ c.snapshot.activeInstrumentCount = 0 := by
  rw [instrumentReasons, if_pos hcreate, reasonIf_eq_nil]
  omega

theorem amountReasons_eq_nil_iff {amount : Money} :
    amountReasons p c amount = [] ↔
      amount = c.snapshot.amountDue ∧ p.paymentMethod = some c.snapshot.paymentMethod := by
  rw [amountReasons, List.append_eq_nil_iff, reasonIf_eq_nil, not_not]
  refine and_congr_left fun _ => ?_
  by_cases hcurrency : amount.currency = c.snapshot.amountDue.currency
  · rw [if_neg (not_not.mpr hcurrency), reasonIf_eq_nil, not_not, Money.mk.injEq]
    exact ⟨fun hunits => ⟨hunits, hcurrency⟩, And.left⟩
  · rw [if_pos hcurrency]
    refine ⟨fun he => absurd he (by simp), fun he => absurd (congrArg Money.currency he) hcurrency⟩

theorem healthReasons_eq_nil_iff
    (h : shift c.evaluatedAt gate.policy.allowedClockSkew = .ok horizon) :
    healthReasons gate c horizon = [] ↔
      Recent gate.policy c gate.policy.incidentHealthMaxAge c.snapshot.methodHealthObservedAt ∧
        c.snapshot.incidentState ≠ .confirmed ∧ c.attemptsUsed < gate.policy.maxAttempts := by
  simp only [healthReasons, List.append_eq_nil_iff, reasonIf_eq_nil, ageReasons_eq_nil_iff h,
    ge_iff_le, not_le, ne_eq, and_assoc]

/-- The causes besides the proposal's own wish. The threshold is compared in the
policy's currency only. -/
theorem approvalCauses_ne_nil_iff (hcurrency : ∀ amount, p.amount = some amount →
      amount.currency = gate.policy.approvalThreshold.currency) :
    approvalCauses gate p c ≠ [] ↔
      (∃ amount, p.amount = some amount ∧
        gate.policy.approvalThreshold.minorUnits ≤ amount.minorUnits) ∨
      (∀ confidence, p.modelConfidence = some confidence →
        confidence.value.value < gate.policy.minConfidence.value.value) ∨
      c.abstentionRequired = true ∨ c.externalDiagnosisReviewRequired = true := by
  have hamount : (p.amount.any fun amount =>
      amount.currency = gate.policy.approvalThreshold.currency ∧
        amount.minorUnits ≥ gate.policy.approvalThreshold.minorUnits) = true ↔
      ∃ amount, p.amount = some amount ∧
        gate.policy.approvalThreshold.minorUnits ≤ amount.minorUnits := by
    cases hsome : p.amount with
    | none => simp
    | some amount => simp [hcurrency amount hsome]
  have hconfidence : confidenceCauses gate p = [] ↔
      ¬∀ confidence, p.modelConfidence = some confidence →
        confidence.value.value < gate.policy.minConfidence.value.value := by
    unfold confidenceCauses
    split
    next h => simp [h]
    next confidence h => simp [h]
  unfold approvalCauses
  simp only [ne_eq, List.append_eq_nil_iff, reasonIf_eq_nil, hamount, hconfidence, not_and_or,
    not_not, or_assoc]

end DeterministicGate

/-! ## What a document says -/

/-- Equal documents have equal members. -/
theorem get?_eq_of_sorted {a b : Json} (ha : a.keys.Nodup) (hb : b.keys.Nodup)
    (h : a.sorted = b.sorted) (key : String) :
    (a.get? key).map Json.sorted = (b.get? key).map Json.sorted := by
  rw [← Json.get?_sorted ha, ← Json.get?_sorted hb, h]

theorem Money.eq_of_toPrimitive {a b : Money} (h : a.toPrimitive.sorted = b.toPrimitive.sorted) :
    a = b := by
  have hkeys : ["currency", "minor_units"].Nodup := by decide
  have hget := get?_eq_of_sorted (a := a.toPrimitive) (b := b.toPrimitive) hkeys hkeys h
  have hunits : a.minorUnits = b.minorUnits := by
    simpa [Money.toPrimitive, Json.get?, Json.sorted] using hget "minor_units"
  have hcurrency : a.currency = b.currency := by
    simpa [Money.toPrimitive, Json.get?, Json.sorted] using hget "currency"
  rw [Money.mk.injEq]
  exact ⟨hunits, hcurrency⟩

section

variable [Hashlib]

/-- An approval that is granted, runs, and is bound to the proposal. -/
structure Approved (p : ActionProposal) (c : GateContext) (approval : Approval) : Prop where
  given : c.approval = some approval
  granted : approval.granted = true
  begun : approval.approvedAt ≤ c.evaluatedAt
  running : c.evaluatedAt < approval.expiresAt
  merchantId : approval.merchantId = p.merchantId
  caseId : approval.caseId = p.caseId
  actionKey : approval.actionKey = p.actionKey
  proposalDigest : approval.proposalDigest = p.proposalDigest
  decisionVersion : approval.decisionVersion = p.decisionVersion

namespace DeterministicGate

variable {gate : DeterministicGate} {stage : GateStage} {p : ActionProposal} {c : GateContext}
  {plan d : GateDecision}

theorem approvalFailure_eq_none_iff :
    approvalFailure p c = none ↔ ∃ approval, Approved p c approval := by
  unfold approvalFailure
  split
  next hnone =>
    refine ⟨fun h => absurd h (by simp), fun ⟨approval, happroved⟩ => ?_⟩
    exact absurd (hnone.symm.trans happroved.given) (by simp)
  next approval hsome =>
    simp only [ite_eq_right_iff, reduceCtorEq, imp_false, not_lt, ge_iff_le, not_le, not_or,
      ne_eq, not_not, ite_eq_iff, and_false, false_or]
    constructor
    · rintro ⟨hgranted, hbegun, hrunning, hm, hc, hkey, hdigest, hdv⟩
      exact ⟨approval, hsome, by simpa using hgranted, hbegun, hrunning, hm, hc, hkey, hdigest, hdv⟩
    · rintro ⟨approval', h⟩
      obtain rfl := Option.some.inj (hsome.symm.trans h.given)
      exact ⟨by simpa using h.granted, h.begun, h.running, h.merchantId, h.caseId, h.actionKey,
        h.proposalDigest, h.decisionVersion⟩

theorem approvalReasons_eq_nil_iff :
    approvalReasons gate p c = [] ↔
      (∀ amount, p.amount = some amount →
        amount.currency = gate.policy.approvalThreshold.currency) ∧
      (NeedsApproval gate.policy p c → ∃ approval, Approved p c approval) := by
  rw [← approvalFailure_eq_none_iff]
  unfold approvalReasons
  rw [List.append_eq_nil_iff, reasonIf_eq_nil]
  have hcurrency : ¬(p.amount.any fun amount =>
      amount.currency ≠ gate.policy.approvalThreshold.currency) = true ↔
      ∀ amount, p.amount = some amount →
        amount.currency = gate.policy.approvalThreshold.currency := by
    cases p.amount <;> simp
  rw [hcurrency]
  refine and_congr_right fun hsame => ?_
  have hneeds : p.requiresApproval = true ∨ approvalCauses gate p c ≠ [] ↔
      NeedsApproval gate.policy p c := or_congr_right (approvalCauses_ne_nil_iff hsame)
  by_cases hneeded : NeedsApproval gate.policy p c
  · rw [if_pos (hneeds.mpr hneeded)]
    cases hfailure : approvalFailure p c with
    | none => simp
    | some failure => simp [hneeded]
  · rw [if_neg fun h => hneeded (hneeds.mp h)]
    exact ⟨fun _ h => absurd h hneeded, fun _ => rfl⟩

theorem planReasons_eq_nil_iff {priorPlan : Option GateDecision} :
    planReasons gate p c priorPlan = [] ↔
      (∃ plan, priorPlan = some plan ∧ PlanMatches gate p c plan) ∧
        c.durableIntentRecorded = true := by
  unfold planReasons
  rw [List.append_eq_nil_iff, reasonIf_eq_nil, Bool.not_eq_true, Bool.not_eq_false]
  refine and_congr_left fun _ => ?_
  cases priorPlan with
  | none => simp
  | some plan => simp

/-! ## The decision -/

/-- What the evaluation puts into a decision, apart from its reasons. -/
structure Issued (gate : DeterministicGate) (stage : GateStage) (p : ActionProposal)
    (c : GateContext) (d : GateDecision) : Prop where
  stage : d.stage = stage
  policyVersion : d.policyVersion = gate.policy.version
  proposalId : d.proposalId = p.proposalId
  actionKey : d.actionKey = p.actionKey
  proposalDigest : d.proposalDigest = p.proposalDigest
  caseId : d.caseId = p.caseId
  decisionVersion : d.decisionVersion = p.decisionVersion
  aggregateVersion : d.aggregateVersion = c.aggregateVersion
  evaluatedAt : d.evaluatedAt = c.evaluatedAt

/-- An evaluation returns with the reasons at its horizon. -/
theorem evaluate_ok_iff {priorPlan : Option GateDecision} :
    evaluate gate stage p c priorPlan = .ok d ↔
      ∃ horizon, shift c.evaluatedAt gate.policy.allowedClockSkew = .ok horizon ∧
        Issued gate stage p c d ∧ d.reasons = reasons gate stage p c horizon priorPlan := by
  simp only [evaluate, bind_ok_iff, pure_ok_iff]
  refine exists_congr fun horizon => and_congr_right fun _ => ?_
  constructor
  · rintro rfl
    exact ⟨⟨rfl, rfl, rfl, rfl, rfl, rfl, rfl, rfl, rfl⟩, rfl⟩
  · rintro ⟨h, hreasons⟩
    cases d
    rw [GateDecision.mk.injEq]
    exact ⟨h.stage.symm, h.policyVersion.symm, h.proposalId.symm, h.actionKey.symm,
      h.proposalDigest.symm, h.caseId.symm, h.decisionVersion.symm, h.aggregateVersion.symm,
      h.evaluatedAt.symm, hreasons.symm⟩

end DeterministicGate

/-! ## The facts behind an allowed effect -/

/-- What holds, at the evaluation, of an allowed effect of a collection
proposal. -/
structure EffectSafe (policy : GatePolicy) (p : ActionProposal) (c : GateContext)
    (plan : GateDecision) : Prop where
  observed : ∃ deadline, c.observationDeadline = some deadline ∧ deadline ≤ c.evaluatedAt
  unpaid : c.snapshot.paymentState = .unpaid
  truthRecent : Recent policy c policy.providerSnapshotMaxAge c.snapshot.observedAt
  healthRecent : Recent policy c policy.incidentHealthMaxAge c.snapshot.methodHealthObservedAt
  healthy : c.snapshot.incidentState ≠ .confirmed
  effectsEnabled : c.environmentEffectsEnabled = true
  globalSwitch : c.globalKillSwitch = false
  merchantSwitch : c.merchantKillSwitch = false
  noInstrument : p.actionType = .createStandardPaymentLink → c.snapshot.activeInstrumentCount = 0
  /-- Amount and currency. -/
  amount : p.amount = some c.snapshot.amountDue
  paymentMethod : p.paymentMethod = some c.snapshot.paymentMethod
  attempts : c.attemptsUsed < policy.maxAttempts
  planned : plan.stage = .policy ∧ plan.allowed = true ∧ plan.policyVersion = policy.version
  planNotNewer : plan.evaluatedAt ≤ c.evaluatedAt ∧ plan.aggregateVersion ≤ c.aggregateVersion
  planDigest : plan.proposalDigest = p.proposalDigest
  planDecisionVersion : plan.decisionVersion = p.decisionVersion
  durableIntent : c.durableIntentRecorded = true
  approved : NeedsApproval policy p c → ∃ approval, Approved p c approval

namespace DeterministicGate

variable {gate : DeterministicGate} {p : ActionProposal} {c : GateContext} {d : GateDecision}
  {priorPlan : Option GateDecision}

/-- An effect is allowed only from the states it may start in. -/
theorem actionable_of_allowed (h : evaluateEffect gate p c priorPlan = .ok d)
    (hallowed : d.allowed = true) : c.recoveryState ∈ effectActionableStates p.actionType := by
  obtain ⟨horizon, -, -, hreasons⟩ := evaluate_ok_iff.mp h
  rw [List.isEmpty_iff.mp hallowed] at hreasons
  have hnil := hreasons.symm
  simp only [reasons, List.append_eq_nil_iff] at hnil
  obtain ⟨⟨⟨⟨⟨⟨⟨⟨⟨⟨-, -⟩, hcase⟩, -⟩, -⟩, -⟩, -⟩, -⟩, -⟩, -⟩, -⟩ := hnil
  exact (caseReasons_eq_nil_iff.mp hcase).2

/-- **An allowed effect of a collection proposal is safe.** -/
theorem effectSafe_of_allowed (h : evaluateEffect gate p c priorPlan = .ok d)
    (hallowed : d.allowed = true) (hcollection : p.actionType ∈ collectionActions) :
    ∃ plan, priorPlan = some plan ∧ EffectSafe gate.policy p c plan := by
  obtain ⟨horizon, hshift, -, hreasons⟩ := evaluate_ok_iff.mp h
  have hexternal : p.actionType ∈ externalActions := List.mem_append_left _ hcollection
  rw [List.isEmpty_iff.mp hallowed] at hreasons
  have hnil := hreasons.symm
  simp only [reasons, List.append_eq_nil_iff, only_eq_nil_iff, if_true] at hnil
  obtain ⟨⟨⟨⟨⟨⟨⟨⟨⟨⟨-, hswitch⟩, -⟩, hwindow⟩, htruth⟩, hinstrument⟩, hamount⟩, -⟩, hhealth⟩,
    happroval⟩, hplan⟩ := hnil
  obtain ⟨hunpaid, hrecent⟩ := (truthReasons_eq_nil_iff hshift).mp (htruth hcollection)
  obtain ⟨hhealthy, hconfirmed, hattempts⟩ :=
    (healthReasons_eq_nil_iff hshift).mp (hhealth hcollection)
  obtain ⟨henabled, hkill⟩ := switchReasons_eq_nil_iff.mp hswitch
  obtain ⟨hglobal, hmerchant⟩ := hkill hcollection
  obtain ⟨⟨plan, hprior, hmatches⟩, hdurable⟩ := planReasons_eq_nil_iff.mp (hplan hexternal)
  obtain ⟨amount, hsome⟩ := p.exists_amount hcollection
  have hdue := hamount hcollection
  rw [hsome] at hdue
  obtain ⟨rfl, hmethod⟩ := amountReasons_eq_nil_iff.mp hdue
  obtain ⟨hstage, hplanned, hversion, -, -, hdigest, -, hdv, hnewer, hafter⟩ := hmatches
  exact ⟨plan, hprior, {
    observed := windowReasons_eq_nil_iff.mp (hwindow hcollection)
    unpaid := hunpaid
    truthRecent := hrecent
    healthRecent := hhealthy
    healthy := hconfirmed
    effectsEnabled := henabled hexternal
    globalSwitch := hglobal
    merchantSwitch := hmerchant
    noInstrument := fun hcreate => (instrumentReasons_eq_nil_iff hcreate).mp hinstrument
    amount := hsome
    paymentMethod := hmethod
    attempts := hattempts
    planned := ⟨hstage, hplanned, hversion⟩
    planNotNewer := ⟨hafter, hnewer⟩
    planDigest := hdigest
    planDecisionVersion := hdv
    durableIntent := hdurable
    approved := (approvalReasons_eq_nil_iff.mp (happroval hcollection)).2 }⟩

end DeterministicGate

/-! ## From the decision to the executed proposal -/

/-- Two different documents with one digest. -/
def DigestCollision (a b : Json) : Prop :=
  canonicalJsonBytes a ≠ canonicalJsonBytes b ∧ sha256Json a = sha256Json b

/-- The two proposals agree in everything the gate reads. -/
structure SameTerms (p q : ActionProposal) : Prop where
  actionType : p.actionType = q.actionType
  merchantId : p.merchantId = q.merchantId
  caseId : p.caseId = q.caseId
  amount : p.amount = q.amount
  paymentMethod : p.paymentMethod = q.paymentMethod
  requiresApproval : p.requiresApproval = q.requiresApproval
  modelConfidence : p.modelConfidence.map Probability.toPrimitive =
    q.modelConfidence.map Probability.toPrimitive

/-- One document, one set of terms. -/
theorem sameTerms_of_document {p q : ActionProposal}
    (h : canonicalJsonBytes p.toPrimitive = canonicalJsonBytes q.toPrimitive) :
    SameTerms p q := by
  have hkeys : ["action_key", "action_type", "amount", "attempt_ordinal", "case_id", "created_at",
      "decision_version", "expected_value_minor", "expires_at", "instrument_reference",
      "merchant_id", "model_confidence", "payment_method", "proposal_id",
      "requires_approval"].Nodup := by decide
  have hget := get?_eq_of_sorted (a := p.toPrimitive) (b := q.toPrimitive) hkeys hkeys
    (canonicalJsonBytes_inj h)
  have htype := hget "action_type"
  have hmerchant := hget "merchant_id"
  have hcase := hget "case_id"
  have hamount := hget "amount"
  have hmethod := hget "payment_method"
  have happroval := hget "requires_approval"
  have hconfidence := hget "model_confidence"
  simp [ProposalFields.toPrimitive, Json.get?, Json.sorted] at htype hmerchant hcase hamount
  simp [ProposalFields.toPrimitive, Json.get?, Json.sorted] at hmethod happroval hconfidence
  exact {
    actionType := ActionType.value_injective htype
    merchantId := hmerchant
    caseId := hcase
    amount := by
      cases hp : p.amount with
      | none =>
        cases hq : q.amount with
        | none => rfl
        | some b => simp [hp, hq, Money.toPrimitive, Json.sorted] at hamount
      | some a =>
        cases hq : q.amount with
        | none => simp [hp, hq, Money.toPrimitive, Json.sorted] at hamount
        | some b =>
          rw [hp, hq] at hamount
          exact congrArg some (Money.eq_of_toPrimitive hamount)
    paymentMethod := by
      cases hp : p.paymentMethod <;> cases hq : q.paymentMethod <;>
        simp [hp, hq, optionalText, Json.sorted] at hmethod ⊢
      exact hmethod
    requiresApproval := happroval
    modelConfidence := by
      cases hp : p.modelConfidence <;> cases hq : q.modelConfidence <;>
        simp [hp, hq, Json.sorted] at hconfidence ⊢
      exact hconfidence }

/-! ## The executed effect -/

/-- What is known of an accepted `begin_execution` of `p` on the evidence of an
effect evaluation of `q` in `c`, with a plan evaluated for `r` in `c₀`. -/
structure ExecutedSafely (policy : GatePolicy) (past : List CaseStep) (s : CaseStep)
    (p q r : ActionProposal) (c₀ c : GateContext) (plan : GateDecision) : Prop where
  /-- The evaluation was about this case at this version. -/
  current : c.caseId = s.pre.caseId ∧ c.aggregateVersion = s.pre.version
  /-- Executed, evaluated and planned proposal have one digest. -/
  digest : p.proposalDigest = q.proposalDigest
  terms : SameTerms p q ∨ DigestCollision p.toPrimitive q.toPrimitive
  /-- Only collection proposals are executed. -/
  collection : q.actionType ∈ collectionActions ∨
    ∃ taken, (∃ earlier ∈ past, TakesUp taken earlier) ∧
      DigestCollision q.keyMaterial taken.keyMaterial
  safe : q.actionType ∈ collectionActions → EffectSafe policy q c plan ∧
    r.proposalDigest = q.proposalDigest ∧ r.decisionVersion = q.decisionVersion ∧
    c₀.evaluatedAt ≤ c.evaluatedAt ∧ c₀.aggregateVersion ≤ c.aggregateVersion

/-- An equal digest is an equal document, or a collision. -/
theorem sameTerms_or_collision {p q : ActionProposal}
    (h : p.proposalDigest = q.proposalDigest) :
    SameTerms p q ∨ DigestCollision p.toPrimitive q.toPrimitive := by
  by_cases hdocument : canonicalJsonBytes p.toPrimitive = canonicalJsonBytes q.toPrimitive
  · exact .inl (sameTerms_of_document hdocument)
  · exact .inr ⟨hdocument, h⟩

/-- The active key of a case was made for a collection proposal. -/
theorem collection_or_collision {a : RecoveryAggregate} {past : List CaseStep}
    {b : RecoveryAggregate} {q : ActionProposal} (hfresh : Fresh a)
    (hrun : recovery.Run a past b) (hkey : b.activeActionKey = some q.actionKey) :
    q.actionType ∈ collectionActions ∨
      ∃ taken, (∃ earlier ∈ past, TakesUp taken earlier) ∧
        DigestCollision q.keyMaterial taken.keyMaterial := by
  obtain ⟨taken, ⟨earlier, hmem, htakes⟩, hsame, -⟩ :=
    keysDecided_of_run hfresh hrun q.actionKey (.inl hkey)
  obtain ⟨_, _, -, -, haccepted⟩ := hrun.of_mem hmem
  have hcollection := (of_takesUp haccepted htakes).2
  by_cases hbytes : canonicalJsonBytes q.keyMaterial = canonicalJsonBytes taken.keyMaterial
  · refine .inl ?_
    rw [actionType_eq_of_keyMaterial (canonicalJsonBytes_inj hbytes)]
    exact hcollection
  · exact .inr ⟨taken, ⟨earlier, hmem, htakes⟩, hbytes,
      (String.append_right_inj _).mp hsame.symm⟩

/-- **Two-stage gate soundness.** Whatever the policy and the run, a case only
starts to execute on an effect evaluation whose facts hold. -/
theorem effectGate_sound {gate : DeterministicGate} {a : RecoveryAggregate}
    {past : List CaseStep} {s : CaseStep} {p q r : ActionProposal} {c₀ c : GateContext}
    {plan d : GateDecision} (hfresh : Fresh a) (hrun : recovery.Run a past s.pre)
    (haccepted : recovery.Takes s) (hcmd : s.cmd.command = .beginExecution p d)
    (hplan : gate.evaluatePolicy r c₀ = .ok plan)
    (heffect : gate.evaluateEffect q c (some plan) = .ok d) :
    ExecutedSafely gate.policy past s p q r c₀ c plan := by
  obtain ⟨t, b, moved, -, -, heff, -⟩ := exists_effect haccepted hcmd nofun
  cases heff with
  | beginExecution _ _ hbound _ hkey =>
    obtain ⟨_, _, hissued, hreasons⟩ := DeterministicGate.evaluate_ok_iff.mp heffect
    obtain ⟨_, _, hplanned, -⟩ := DeterministicGate.evaluate_ok_iff.mp hplan
    have hdigest : p.proposalDigest = q.proposalDigest :=
      hbound.proposalDigest.symm.trans hissued.proposalDigest
    have hsame : p.actionKey = q.actionKey := hbound.actionKey.symm.trans hissued.actionKey
    have hcase : q.caseId = c.caseId := by
      rw [List.isEmpty_iff.mp hbound.allowed] at hreasons
      have hnil := hreasons.symm
      simp only [DeterministicGate.reasons, List.append_eq_nil_iff] at hnil
      exact (DeterministicGate.standingReasons_eq_nil_iff.mp hnil.1.1.1.1.1.1.1.1.1.1).2.1
    refine ⟨⟨?_, ?_⟩, hdigest, sameTerms_or_collision hdigest,
      collection_or_collision hfresh hrun (hsame ▸ hkey), ?_⟩
    · rw [← hcase, ← hissued.caseId, hbound.decisionCase]
    · rw [← hissued.aggregateVersion, hbound.aggregateVersion]
    · intro hcollection
      obtain ⟨plan', hsome, hsafe⟩ :=
        DeterministicGate.effectSafe_of_allowed heffect hbound.allowed hcollection
      obtain rfl := Option.some.inj hsome
      refine ⟨hsafe, ?_, ?_, ?_, ?_⟩
      · rw [← hplanned.proposalDigest, hsafe.planDigest]
      · rw [← hplanned.decisionVersion, hsafe.planDecisionVersion]
      · rw [← hplanned.evaluatedAt]
        exact hsafe.planNotNewer.1
      · rw [← hplanned.aggregateVersion]
        exact hsafe.planNotNewer.2

end

/-! ## An approved execution

The sample case with a proposal above the approval threshold, an approval for
it, and both evaluations at the deadline. -/

def sampleExpiry : Timestamp := ⟨63902739600000000, by decide, by decide⟩

def gatedProposal : ActionProposal where
  proposalId := "prop_1"
  merchantId := "merchant_1"
  caseId := "case_1"
  decisionVersion := 1
  actionType := .createStandardPaymentLink
  createdAt := sampleStart
  expiresAt := sampleExpiry
  amount := some ⟨12500, "INR", isCurrency_inr⟩
  paymentMethod := some "upi"
  valid := rfl

def gatedScenario : Scenario := { sampleScenario with proposal := gatedProposal }

theorem gatedScenario_suits : gatedScenario.Suits sampleCase.toAggregateFields where
  deadline := by decide
  event := rfl
  evidence := rfl
  merchantId := rfl
  caseId := rfl
  decisionVersion := rfl
  actionType := by decide
  reason := by decide
  link := rfl

def sampleGate : DeterministicGate where
  policy := {
    version := "policy_1"
    allowedActions := [.createStandardPaymentLink]
    providerSnapshotMaxAge := seconds 30
    incidentHealthMaxAge := seconds 30
    maxAttempts := 3
    maxContactsInWindow := 1
    approvalThreshold := ⟨10000, "INR", isCurrency_inr⟩
    minConfidence := ⟨⟨false, 1, 0⟩, Decimal.nonneg_one, Decimal.one_le_one⟩
    valid := by decide }

def sampleApproval : Approval where
  approvalId := "approval_1"
  merchantId := "merchant_1"
  caseId := "case_1"
  actionKey := gatedProposal.actionKey
  proposalDigest := gatedProposal.proposalDigest
  decisionVersion := 1
  approvedBy := "operator_1"
  approvedAt := sampleStart
  expiresAt := sampleExpiry
  valid := by
    have hkey : isActionKey gatedProposal.actionKey = true := isActionKey_append _
    have hdigest : isDigest gatedProposal.proposalDigest = true :=
      Hashlib.isDigest_sha256Hexdigest _
    simp only [ApprovalFields.postInit, bind_ok_iff, raiseIf_ok_iff, requireIdentifier_ok_iff,
      hkey, hdigest]
    exact ⟨_, ⟨rfl, rfl⟩, _, ⟨rfl, rfl⟩, _, ⟨rfl, rfl⟩, _, ⟨rfl, rfl⟩, (), by simp, (), by simp,
      (), by decide, by decide⟩

def sampleContext (version : Nat) (state : RecoveryState) : GateContext where
  merchantId := "merchant_1"
  caseId := "case_1"
  evaluatedAt := sampleDeadline
  aggregateVersion := version
  expectedAggregateVersion := version
  recoveryState := state
  snapshot := {
    paymentState := .unpaid
    amountDue := ⟨12500, "INR", isCurrency_inr⟩
    paymentMethod := "upi"
    observedAt := sampleDeadline
    activeInstrumentCount := 0
    incidentState := .normal
    methodHealthObservedAt := sampleDeadline
    paymentMethodOk := rfl }
  environmentEffectsEnabled := true
  observationDeadline := some sampleDeadline
  approval := some sampleApproval
  durableIntentRecorded := true
  valid := by
    simp only [GateContextFields.postInit]
    rfl

/-- The approval is the one the proposal needs. -/
theorem sampleApproval_approved (version : Nat) (state : RecoveryState) :
    Approved gatedProposal (sampleContext version state) sampleApproval where
  given := rfl
  granted := rfl
  begun := (by decide : sampleStart ≤ sampleDeadline)
  running := (by decide : sampleDeadline < sampleExpiry)
  merchantId := rfl
  caseId := rfl
  actionKey := rfl
  proposalDigest := rfl
  decisionVersion := rfl

/-- With the approval, nothing is left to say against the sample proposal but
what is wrong with its plan. -/
theorem sample_evaluate (stage : GateStage) (version : Nat) (state : RecoveryState)
    (priorPlan : Option GateDecision)
    (hstate : state ∈ actionableStates stage .createStandardPaymentLink)
    (hplan : stage = .effect →
      DeterministicGate.planReasons sampleGate gatedProposal (sampleContext version state)
        priorPlan = []) :
    sampleGate.evaluate stage gatedProposal (sampleContext version state) priorPlan =
      .ok (gatedScenario.issued stage version []) := by
  obtain ⟨horizon, hshift⟩ : ∃ horizon, shift sampleDeadline (seconds 5) = .ok horizon :=
    ⟨⟨63902736125000000, by decide, by decide⟩, shift_ok_iff.mpr rfl⟩
  have hhorizon := shift_ok_iff.mp hshift
  refine DeterministicGate.evaluate_ok_iff.mpr
    ⟨horizon, hshift, ⟨rfl, rfl, rfl, rfl, rfl, rfl, rfl, rfl, rfl⟩, Eq.symm ?_⟩
  have hlate : ∀ t ≤ sampleDeadline, t ≤ horizon := by
    intro t ht
    refine Timestamp.le_iff.mpr ((Timestamp.le_iff.mp ht).trans ?_)
    rw [hhorizon]
    decide
  have hrecent : Recent sampleGate.policy (sampleContext version state) (seconds 30)
      sampleDeadline := by
    constructor
    · show sampleDeadline.micros ≤ sampleDeadline.micros + seconds 5
      decide
    · show sampleDeadline.micros - sampleDeadline.micros ≤ seconds 30
      decide
  show DeterministicGate.reasons _ _ _ _ _ _ = []
  simp only [DeterministicGate.reasons, List.append_eq_nil_iff, DeterministicGate.only_eq_nil_iff]
  refine ⟨⟨⟨⟨⟨⟨⟨⟨⟨⟨?_, ?_⟩, ?_⟩, ?_⟩, ?_⟩, ?_⟩, ?_⟩, ?_⟩, ?_⟩, ?_⟩, ?_⟩
  · exact DeterministicGate.standingReasons_eq_nil_iff.mpr
      ⟨rfl, rfl, hlate _ (by decide), (by decide : sampleDeadline < sampleExpiry), by decide⟩
  · exact DeterministicGate.switchReasons_eq_nil_iff.mpr ⟨fun _ => rfl, fun _ => ⟨rfl, rfl⟩⟩
  · exact DeterministicGate.caseReasons_eq_nil_iff.mpr ⟨rfl, hstate⟩
  · exact fun _ => DeterministicGate.windowReasons_eq_nil_iff.mpr ⟨_, rfl, le_refl _⟩
  · exact fun _ => (DeterministicGate.truthReasons_eq_nil_iff hshift).mpr ⟨rfl, hrecent⟩
  · exact (DeterministicGate.instrumentReasons_eq_nil_iff rfl).mpr rfl
  · exact fun _ => DeterministicGate.amountReasons_eq_nil_iff.mpr ⟨rfl, rfl⟩
  · exact fun hcontact => absurd hcontact (by decide)
  · exact fun _ => (DeterministicGate.healthReasons_eq_nil_iff hshift).mpr
      ⟨hrecent, nofun, (by decide : 0 < 3)⟩
  · refine fun _ => DeterministicGate.approvalReasons_eq_nil_iff.mpr
      ⟨?_, fun _ => ⟨_, sampleApproval_approved version state⟩⟩
    intro amount hamount
    cases hamount
    rfl
  · by_cases heffect : stage = .effect
    · rw [if_pos heffect, DeterministicGate.only_eq_nil_iff]
      exact fun _ => hplan heffect
    · rw [if_neg heffect]

/-- The sample case executes on an approved, allowed effect. -/
theorem effectGate_sound_sample :
    ∃ past s, recovery.Run sampleCase (past ++ [s]) s.post ∧
      (past ++ [s]).map Step.cmd = gatedScenario.toExecuting ∧
      ExecutedSafely sampleGate.policy past s gatedProposal gatedProposal gatedProposal
        (sampleContext 3 .assessing) (sampleContext 4 .actionQueued)
        (gatedScenario.issued .policy 3 []) := by
  obtain ⟨steps, a, hrun, hcmds, ha⟩ := exists_run_actionQueued fresh_sampleCase
    gatedScenario_suits
  have hdv : gatedProposal.decisionVersion = a.decisionVersion := by
    rw [ha.decisionVersion_eq]
    rfl
  have heff : Effect a.toAggregateFields gatedScenario.deadline
      (.beginExecution gatedProposal (gatedScenario.issued .effect 4 [])) _ _ :=
    .beginExecution ha.state_eq hdv (ha.issued_bound gatedScenario_suits) ha.elapsed ha.key_eq
      ha.payment_eq
  obtain ⟨s, hpre, hcmd, hpost, haccepted, hnext, hcmds'⟩ := ha.exists_next hrun hcmds heff
    (Command.wellFormed_nil rfl)
  refine ⟨steps, s, hnext, hcmds', ?_⟩
  have hplan := sample_evaluate .policy 3 .assessing none (by decide) nofun
  have heffect := sample_evaluate .effect 4 .actionQueued
    (some (gatedScenario.issued .policy 3 [])) (by decide) ?_
  · exact effectGate_sound fresh_sampleCase (hpre ▸ hrun) haccepted hcmd hplan heffect
  · intro _
    refine DeterministicGate.planReasons_eq_nil_iff.mpr ⟨⟨_, rfl, ?_⟩, rfl⟩
    exact ⟨rfl, rfl, rfl, rfl, rfl, rfl, rfl, rfl, by decide, le_refl _⟩

end Retrywise.Domain
