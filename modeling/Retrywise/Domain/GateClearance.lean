import Retrywise.Domain.GateSoundness

/-!
# When the gate lets a link be created

`GateSoundness` reads an allowed effect backwards. This file goes the other way,
for the one effect that opens a new collection path: `Cleared` lists everything
the effect stage looks at for a new link, and `allowed_of_cleared` says that
nothing else is in the way.

`LinkOffer` is a family of such proposals, one for every amount and method, with
a policy under which no approval is needed: with it a caller can show that some
fact really lets a link through, whatever the money is.
-/

namespace Retrywise.Domain

open Retrywise.Foundation

section

variable [Hashlib]

/-- Everything the effect stage asks of a proposal to create a link. -/
structure Cleared (gate : DeterministicGate) (p : ActionProposal) (c : GateContext)
    (plan : GateDecision) : Prop where
  create : p.actionType = .createStandardPaymentLink
  inCalendar : c.evaluatedAt.micros + gate.policy.allowedClockSkew < calendarEnd
  merchantId : p.merchantId = c.merchantId
  caseId : p.caseId = c.caseId
  begun : p.createdAt.micros ≤ c.evaluatedAt.micros + gate.policy.allowedClockSkew
  running : c.evaluatedAt < p.expiresAt
  policyAllows : p.actionType ∈ gate.policy.allowedActions
  effectsEnabled : c.environmentEffectsEnabled = true
  globalSwitch : c.globalKillSwitch = false
  merchantSwitch : c.merchantKillSwitch = false
  version : c.aggregateVersion = c.expectedAggregateVersion
  state : c.recoveryState ∈ effectActionableStates .createStandardPaymentLink
  observed : ∃ deadline, c.observationDeadline = some deadline ∧ deadline ≤ c.evaluatedAt
  unpaid : c.snapshot.paymentState = .unpaid
  truthRecent : Recent gate.policy c gate.policy.providerSnapshotMaxAge c.snapshot.observedAt
  noInstrument : c.snapshot.activeInstrumentCount = 0
  amount : p.amount = some c.snapshot.amountDue
  paymentMethod : p.paymentMethod = some c.snapshot.paymentMethod
  healthRecent :
    Recent gate.policy c gate.policy.incidentHealthMaxAge c.snapshot.methodHealthObservedAt
  healthy : c.snapshot.incidentState ≠ .confirmed
  attempts : c.attemptsUsed < gate.policy.maxAttempts
  currency : c.snapshot.amountDue.currency = gate.policy.approvalThreshold.currency
  approved : NeedsApproval gate.policy p c → ∃ approval, Approved p c approval
  planned : DeterministicGate.PlanMatches gate p c plan
  durableIntent : c.durableIntentRecorded = true

namespace DeterministicGate

variable {gate : DeterministicGate} {p : ActionProposal} {c : GateContext} {plan : GateDecision}

omit [Hashlib] in
/-- The policy's skew is not negative, so the horizon is on the calendar when it
does not run off its end. -/
theorem exists_horizon
    (h : c.evaluatedAt.micros + gate.policy.allowedClockSkew < calendarEnd) :
    ∃ horizon, shift c.evaluatedAt gate.policy.allowedClockSkew = .ok horizon := by
  have hskew : (0 : Int) ≤ gate.policy.allowedClockSkew := by
    have hvalid := gate.policy.valid
    simp only [GatePolicyFields.postInit, bind_ok_iff, raiseIf_ok_iff] at hvalid
    obtain ⟨-, -, -, -, -, -, -, -, hnonneg⟩ := hvalid
    exact not_lt.mp hnonneg
  have hnonneg := c.evaluatedAt.nonneg
  exact ⟨⟨c.evaluatedAt.micros + gate.policy.allowedClockSkew, by omega, h⟩,
    shift_ok_iff.mpr rfl⟩

/-- **Nothing but `Cleared` stands between a plan and its effect.** -/
theorem allowed_of_cleared (h : Cleared gate p c plan) :
    ∃ d, evaluateEffect gate p c (some plan) = .ok d ∧ Issued gate .effect p c d ∧
      d.allowed = true := by
  obtain ⟨horizon, hshift⟩ := exists_horizon h.inCalendar
  have hmicros := shift_ok_iff.mp hshift
  have hbegun : p.createdAt ≤ horizon := by
    rw [Timestamp.le_iff, hmicros]
    exact h.begun
  refine ⟨{
    stage := .effect
    policyVersion := gate.policy.version
    proposalId := p.proposalId
    actionKey := p.actionKey
    proposalDigest := p.proposalDigest
    caseId := p.caseId
    decisionVersion := p.decisionVersion
    aggregateVersion := c.aggregateVersion
    evaluatedAt := c.evaluatedAt
    reasons := [] }, ?_, ⟨rfl, rfl, rfl, rfl, rfl, rfl, rfl, rfl, rfl⟩, rfl⟩
  refine evaluate_ok_iff.mpr ⟨horizon, hshift, ⟨rfl, rfl, rfl, rfl, rfl, rfl, rfl, rfl, rfl⟩, ?_⟩
  symm
  simp only [reasons, List.append_eq_nil_iff, only_eq_nil_iff]
  refine ⟨⟨⟨⟨⟨⟨⟨⟨⟨⟨?_, ?_⟩, ?_⟩, ?_⟩, ?_⟩, ?_⟩, ?_⟩, ?_⟩, ?_⟩, ?_⟩, ?_⟩
  · exact standingReasons_eq_nil_iff.mpr
      ⟨h.merchantId, h.caseId, hbegun, h.running, h.policyAllows⟩
  · exact switchReasons_eq_nil_iff.mpr
      ⟨fun _ => h.effectsEnabled, fun _ => ⟨h.globalSwitch, h.merchantSwitch⟩⟩
  · refine caseReasons_eq_nil_iff.mpr ⟨h.version, ?_⟩
    rw [h.create]
    exact h.state
  · exact fun _ => windowReasons_eq_nil_iff.mpr h.observed
  · exact fun _ => (truthReasons_eq_nil_iff hshift).mpr ⟨h.unpaid, h.truthRecent⟩
  · exact (instrumentReasons_eq_nil_iff h.create).mpr h.noInstrument
  · intro _
    rw [h.amount]
    exact amountReasons_eq_nil_iff.mpr ⟨rfl, h.paymentMethod⟩
  · intro hcontact
    rw [h.create] at hcontact
    exact absurd hcontact (by decide)
  · exact fun _ => (healthReasons_eq_nil_iff hshift).mpr ⟨h.healthRecent, h.healthy, h.attempts⟩
  · refine fun _ => approvalReasons_eq_nil_iff.mpr ⟨?_, h.approved⟩
    intro amount hamount
    rw [h.amount] at hamount
    rw [← Option.some.inj hamount]
    exact h.currency
  · rw [if_pos trivial, only_eq_nil_iff]
    exact fun _ => planReasons_eq_nil_iff.mpr ⟨⟨plan, rfl, h.planned⟩, h.durableIntent⟩

end DeterministicGate

end

/-! ## A link for any amount -/

/-- Money to be asked for, by a method. -/
structure LinkOffer where
  amount : Money
  method : String
  positive : amount.minorUnits ≠ 0
  methodOk : isPaymentMethod method = true

namespace LinkOffer

/-- Ids of the form the database gives its rows. -/
def merchantId : String := "01K0000000000000000000000M"

def caseId : String := "01K0000000000000000000000C"

def certain : Probability := ⟨⟨false, 1, 0⟩, Decimal.nonneg_one, Decimal.one_le_one⟩

def proposal (o : LinkOffer) : ActionProposal where
  proposalId := "prop_1"
  merchantId := merchantId
  caseId := caseId
  decisionVersion := 1
  actionType := .createStandardPaymentLink
  createdAt := sampleStart
  expiresAt := sampleExpiry
  amount := some o.amount
  paymentMethod := some o.method
  modelConfidence := some certain
  valid := by
    have hmethod : requirePaymentMethod o.method = .ok o.method := if_pos o.methodOk
    have hpositive : ¬((some o.amount).all fun amount => amount.minorUnits = 0) = true := by
      simpa using o.positive
    simp only [ProposalFields.postInit, hmethod, raiseIf_of_not _ hpositive]
    rfl

/-- The threshold is out of the offer's reach. -/
def gate (o : LinkOffer) : DeterministicGate where
  policy := {
    version := "policy-v1"
    allowedActions := [.createStandardPaymentLink]
    providerSnapshotMaxAge := seconds 30
    incidentHealthMaxAge := seconds 30
    maxAttempts := 3
    maxContactsInWindow := 1
    approvalThreshold := ⟨o.amount.minorUnits + 1, o.amount.currency, o.amount.currencyOk⟩
    minConfidence := certain
    valid := by
      simp only [GatePolicyFields.postInit, bind_ok_iff, raiseIf_ok_iff, requireIdentifier_ok_iff]
      exact ⟨_, ⟨rfl, rfl⟩, (), by simp, (), by decide, (), by decide, by decide⟩ }

section

variable [Hashlib]

/-- The authorization the offer was planned with. -/
def plan (o : LinkOffer) : GateDecision where
  stage := .policy
  policyVersion := "policy-v1"
  proposalId := "prop_1"
  actionKey := o.proposal.actionKey
  proposalDigest := o.proposal.proposalDigest
  caseId := caseId
  decisionVersion := 1
  aggregateVersion := 0
  evaluatedAt := sampleStart
  reasons := []

/-- A fresh context in which nothing speaks against the offer, at any time from the
deadline of the case to the expiry of the offer. -/
structure Fits (o : LinkOffer) (c : GateContext) : Prop where
  merchantId : c.merchantId = LinkOffer.merchantId
  caseId : c.caseId = LinkOffer.caseId
  observable : sampleDeadline ≤ c.evaluatedAt
  running : c.evaluatedAt < sampleExpiry
  version : c.aggregateVersion = c.expectedAggregateVersion
  state : c.recoveryState ∈ effectActionableStates .createStandardPaymentLink
  effectsEnabled : c.environmentEffectsEnabled = true
  globalSwitch : c.globalKillSwitch = false
  merchantSwitch : c.merchantKillSwitch = false
  observed : c.observationDeadline = some sampleDeadline
  unpaid : c.snapshot.paymentState = .unpaid
  truthObserved : c.snapshot.observedAt = c.evaluatedAt
  noInstrument : c.snapshot.activeInstrumentCount = 0
  amount : c.snapshot.amountDue = o.amount
  method : c.snapshot.paymentMethod = o.method
  healthObserved : c.snapshot.methodHealthObservedAt = c.evaluatedAt
  healthy : c.snapshot.incidentState ≠ .confirmed
  attempts : c.attemptsUsed = 0
  noAbstention : c.abstentionRequired = false
  noReview : c.externalDiagnosisReviewRequired = false
  durableIntent : c.durableIntentRecorded = true

omit [Hashlib] in
/-- What was observed at the evaluation is as recent as can be. -/
theorem recent_now (o : LinkOffer) (c : GateContext) {maxAge : Timedelta}
    (hmax : (0 : Int) ≤ maxAge) : Recent o.gate.policy c maxAge c.evaluatedAt := by
  have hskew : (5000000 : Int) = o.gate.policy.allowedClockSkew := rfl
  constructor
  · omega
  · omega

theorem cleared (o : LinkOffer) {c : GateContext} (h : o.Fits c) :
    Cleared o.gate o.proposal c o.plan where
  create := rfl
  inCalendar := by
    have hskew : (5000000 : Int) = o.gate.policy.allowedClockSkew := rfl
    have hexpiry : sampleExpiry.micros = 63902739600000000 := rfl
    have hend : calendarEnd = 315537897600000000 := rfl
    have hrunning := Timestamp.lt_iff.mp h.running
    omega
  merchantId := h.merchantId.symm
  caseId := h.caseId.symm
  begun := by
    have hskew : (5000000 : Int) = o.gate.policy.allowedClockSkew := rfl
    have hstart : o.proposal.createdAt.micros = 63902736000000000 := rfl
    have hdeadline : sampleDeadline.micros = 63902736120000000 := rfl
    have hobservable := Timestamp.le_iff.mp h.observable
    omega
  running := h.running
  policyAllows := List.mem_singleton_self _
  effectsEnabled := h.effectsEnabled
  globalSwitch := h.globalSwitch
  merchantSwitch := h.merchantSwitch
  version := h.version
  state := h.state
  observed := ⟨sampleDeadline, h.observed, h.observable⟩
  unpaid := h.unpaid
  truthRecent := h.truthObserved ▸ o.recent_now c (by decide : (0 : Int) ≤ seconds 30)
  noInstrument := h.noInstrument
  amount := congrArg some h.amount.symm
  paymentMethod := congrArg some h.method.symm
  healthRecent := h.healthObserved ▸ o.recent_now c (by decide : (0 : Int) ≤ seconds 30)
  healthy := h.healthy
  attempts := by
    rw [h.attempts]
    exact (by decide : 0 < 3)
  currency := by
    rw [h.amount]
    rfl
  approved := by
    intro hneeds
    exfalso
    rcases hneeds with hasks | ⟨amount, hamount, hthreshold⟩ | hconfidence | hstop | hreview
    · exact absurd hasks Bool.false_ne_true
    · rw [← Option.some.inj (hamount : some o.amount = some amount)] at hthreshold
      exact absurd hthreshold (Nat.not_succ_le_self _)
    · exact absurd (hconfidence certain rfl) (lt_irrefl _)
    · exact absurd (h.noAbstention.symm.trans hstop) Bool.false_ne_true
    · exact absurd (h.noReview.symm.trans hreview) Bool.false_ne_true
  planned := by
    refine ⟨rfl, rfl, rfl, rfl, rfl, rfl, rfl, rfl, Nat.zero_le _, ?_⟩
    exact le_trans (by decide : sampleStart ≤ sampleDeadline) h.observable
  durableIntent := h.durableIntent

end

end LinkOffer

end Retrywise.Domain
