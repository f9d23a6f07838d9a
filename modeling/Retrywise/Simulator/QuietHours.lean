import Retrywise.Simulator.Execution

/-!
# Guardrails at the time a link goes out

A link that is checked goes out only if nothing blocks its case, within the horizon, and before
the original payment is captured. The quiet hours are asked for once, at the hour of the failure.
A link that is decided when they are over, or that meets the next ones, is not put off again.

> `executedAt_iff`: the audit reports a link at the time that the gate lets it out, and only then.

> `obeysGuardrails_iff`: a case obeys its guardrails exactly if no link goes out in it, or the link
> is put off to the end of the quiet hours, or decided outside of them.
-/

namespace Retrywise.Simulator

open Retrywise.Foundation Retrywise.Domain Retrywise.ControlPlane

section

variable {scenario : Scenario} {merchantPolicy : MerchantPolicy} {run : CaseRun}
  {decisionAt t opened : Int} {decision : PolicyDecision} {outcome : CaseOutcome}

/-! ## The hour of the merchant -/

/-- The hour of the failure, advanced by the whole hours since. -/
def localHour (scenario : Scenario) (atMs : Int) : Int :=
  (scenario.failureLocalHour + atMs / 3600000) % 24

def quietAt (scenario : Scenario) (merchantPolicy : MerchantPolicy) (atMs : Int) : Bool :=
  isQuietHour (localHour scenario atMs) merchantPolicy.quietHoursStart merchantPolicy.quietHoursEnd

/-- The hour at which the quiet hours let a link go that was waiting for them: their end, or the
hour of the failure if there was nothing to wait for. -/
def releaseHour (scenario : Scenario) (merchantPolicy : MerchantPolicy) : Int :=
  (if isQuietHour scenario.failureLocalHour merchantPolicy.quietHoursStart
      merchantPolicy.quietHoursEnd then merchantPolicy.quietHoursEnd
    else scenario.failureLocalHour) % 24

theorem localHour_quietDelay :
    localHour scenario (quietDelay scenario merchantPolicy) =
      releaseHour scenario merchantPolicy := by
  unfold localHour quietDelay quietHoursDelayMs releaseHour
  split <;> omega

/-- A link that is decided at a time disturbs nobody: the delay of the quiet hours covers the
decision and ends outside of them, or the decision comes later, outside of them. -/
def Undisturbed (scenario : Scenario) (merchantPolicy : MerchantPolicy) (decisionAt : Int) : Prop :=
  if decisionAt ≤ quietDelay scenario merchantPolicy then
    isQuietHour (releaseHour scenario merchantPolicy) merchantPolicy.quietHoursStart
      merchantPolicy.quietHoursEnd = false
  else quietAt scenario merchantPolicy decisionAt = false

theorem quietAt_sendingTime :
    quietAt scenario merchantPolicy (sendingTime scenario merchantPolicy decisionAt) = false ↔
      Undisturbed scenario merchantPolicy decisionAt := by
  unfold Undisturbed sendingTime
  split
  next hle =>
    rw [max_eq_right hle, quietAt, localHour_quietDelay]
  next hlt =>
    rw [max_eq_left (le_of_lt (not_le.mp hlt))]

/-! ## What the audit reports -/

/-- The outcome reports a link, and its audit the time at which it went out. -/
def CaseOutcome.ExecutedAt (outcome : CaseOutcome) (t : Int) : Prop :=
  outcome.actionExecuted = true ∧
    ∃ entry ∈ outcome.auditEntries, entry.eventType = "action_executed" ∧ entry.timestampMs = t

namespace CaseRun

theorem executedAt_execute {executionAt : Int} {potential : PotentialOutcome} :
    (run.execute opened decisionAt decision executionAt potential).ExecutedAt t ↔
      executionAt = t := by
  have hentries : (run.execute opened decisionAt decision executionAt potential).auditEntries.filter
      (fun entry => entry.eventType = "action_executed") =
      [run.audit executionAt "executor" "action_executed" "provider_action_completed"
        [("action", decision.action.value)]] := rfl
  constructor
  · rintro ⟨-, entry, hmem, htype, rfl⟩
    have hfound : entry ∈ [run.audit executionAt "executor" "action_executed"
        "provider_action_completed" [("action", decision.action.value)]] := by
      rw [← hentries]
      exact List.mem_filter.mpr ⟨hmem, decide_eq_true htype⟩
    rw [List.mem_singleton] at hfound
    rw [hfound]
    rfl
  · rintro rfl
    refine ⟨rfl, _, List.mem_of_mem_filter (hentries ▸ List.mem_singleton_self _), rfl, rfl⟩

/-- The decisions of the case are checked by the gate. -/
def Gated (run : CaseRun) : Prop :=
  ∀ opened decision, run.decided opened = .ok decision → decision.Gated

/-- A link that is checked goes out in the case. -/
structure Sends (run : CaseRun) (opened : Int) (decision : PolicyDecision) : Prop where
  opens : run.Opens opened decision
  link : decision.action ≠ .noAction
  goesOut : GoesOut run.scenario run.merchantPolicy (opened + decision.observationDelayMs)
  potential : ∃ potential, run.scenario.outcomeFor decision.action = some potential

/-- **A link is reported at the time that the gate lets it out**, and nothing else is. -/
theorem executedAt_iff (hgated : run.Gated) :
    (∃ outcome, run.outcome = .ok outcome ∧ outcome.ExecutedAt t) ↔
      ∃ opened decision, run.Sends opened decision ∧
        sendingTime run.scenario run.merchantPolicy (opened + decision.observationDelayMs) = t := by
  constructor
  · rintro ⟨outcome, houtcome, hexecuted⟩
    cases outcome_ok_iff.mp houtcome with
    | notOpened => exact absurd hexecuted.1 (by simp [notOpened])
    | abstained => exact absurd hexecuted.1 (by simp [abstain, makeOutcome])
    | suppressed => exact absurd hexecuted.1 (by simp [suppress, makeOutcome])
    | executed h haction hverdict hpassed hpotential =>
      have hdecision := hgated _ _ h.decided_eq
      rw [← hverdict] at hpassed hexecuted
      have hgoes := (safetyGate_passes_iff hdecision).mp hpassed
      refine ⟨_, _, ⟨h, haction, hgoes, _, hpotential⟩, ?_⟩
      rw [← safetyGate_executionAt hdecision hgoes]
      exact executedAt_execute.mp hexecuted
  · rintro ⟨opened, decision, h, rfl⟩
    obtain ⟨potential, hpotential⟩ := h.potential
    have hdecision := hgated _ _ h.opens.decided_eq
    refine ⟨_, outcome_ok_iff.mpr (.executed h.opens h.link rfl
      ((safetyGate_passes_iff hdecision).mpr h.goesOut) hpotential), ?_⟩
    rw [executedAt_execute, safetyGate_executionAt hdecision h.goesOut]

/-! ## The guardrails -/

/-- Every guardrail, at a time. -/
structure Guarded (scenario : Scenario) (merchantPolicy : MerchantPolicy) (t : Int) : Prop where
  unblocked : Unblocked scenario merchantPolicy
  inHorizon : t ≤ merchantPolicy.recoveryHorizonMs
  unrecovered : ∀ natural, scenario.naturalRecoveryAtMs = some natural → ¬natural ≤ t
  awake : quietAt scenario merchantPolicy t = false

/-- A link goes out only where every guardrail lets it. -/
def ObeysGuardrails (run : CaseRun) : Prop :=
  ∀ outcome t, run.outcome = .ok outcome → outcome.ExecutedAt t →
    Guarded run.scenario run.merchantPolicy t

/-- Whatever link goes out in the case, it disturbs nobody. -/
def SendsUndisturbed (run : CaseRun) : Prop :=
  ∀ opened decision, run.Sends opened decision →
    Undisturbed run.scenario run.merchantPolicy (opened + decision.observationDelayMs)

theorem not_le_of_unrecovered (h : scenario.naturalBy t = false) :
    ∀ natural, scenario.naturalRecoveryAtMs = some natural → ¬natural ≤ t := by
  intro natural hnatural
  unfold Scenario.naturalBy at h
  rw [hnatural] at h
  simpa using h

/-- Of the guardrails a link that goes out can miss the quiet hours alone. -/
theorem Sends.guarded_iff (h : run.Sends opened decision) :
    Guarded run.scenario run.merchantPolicy
        (sendingTime run.scenario run.merchantPolicy (opened + decision.observationDelayMs)) ↔
      Undisturbed run.scenario run.merchantPolicy (opened + decision.observationDelayMs) := by
  rw [← quietAt_sendingTime]
  constructor
  · intro hguarded
    exact hguarded.awake
  · intro hawake
    exact ⟨h.goesOut.unblocked, h.goesOut.inHorizon, not_le_of_unrecovered h.goesOut.unrecovered,
      hawake⟩

/-- **A case obeys its guardrails** exactly if a link that goes out in it disturbs nobody. -/
theorem obeysGuardrails_iff (hgated : run.Gated) :
    run.ObeysGuardrails ↔ run.SendsUndisturbed := by
  constructor
  · intro hobeys opened decision hsends
    obtain ⟨outcome, houtcome, hexecuted⟩ :=
      (executedAt_iff hgated).mpr ⟨opened, decision, hsends, rfl⟩
    exact hsends.guarded_iff.mp (hobeys outcome _ houtcome hexecuted)
  · intro hundisturbed outcome t houtcome hexecuted
    obtain ⟨opened, decision, hsends, rfl⟩ :=
      (executedAt_iff hgated).mp ⟨outcome, houtcome, hexecuted⟩
    exact hsends.guarded_iff.mpr (hundisturbed opened decision hsends)

end CaseRun

/-- The fixed rule, and every policy of the catalogue but the blast, has its links checked. -/
theorem EvaluationPolicy.gated {policy : EvaluationPolicy} (hpolicy : policy ≠ .blastAll)
    (hrun : run.policy = policy.asPolicy) : run.Gated := by
  intro opened decision hdecided
  unfold CaseRun.decided at hdecided
  rw [mapError_ok_iff, hrun] at hdecided
  have hmade : policy.decideCase _ _ _ = .ok decision := hdecided
  by_cases horacle : policy = .oracle
  · subst horacle
    rw [← Except.ok.inj hmade]
    exact ⟨rfl, rfl⟩
  · rw [EvaluationPolicy.decideCase_eq horacle] at hmade
    unfold EvaluationPolicy.decide at hmade
    simp only [bind_ok_iff, pure_ok_iff] at hmade
    obtain ⟨_, -, rfl⟩ := hmade
    cases policy with
    | blastAll => exact absurd rfl hpolicy
    | naturalRecovery => exact ⟨rfl, rfl⟩
    | fixedSafe => exact ⟨rfl, rfl⟩
    | incidentAware => exact ⟨rfl, rfl⟩
    | retryWise _ => exact ⟨rfl, rfl⟩
    | oracle => exact ⟨rfl, rfl⟩

end

/-! ## A link at eleven in the evening -/

namespace EveningLink

/-- The payment failed at nine, and the failure was delivered at eleven. -/
def failed : ScenarioEvent := ⟨"evt_1", .paymentFailed, some 7200000, "acc_1", true⟩

def scenario : Scenario where
  toObservableCase := { LateCapture.observable with failureLocalHour := 21 }
  latentCause := .ordinaryRecoverable
  naturalRecoveryAtMs := none
  incidentScope := none
  events := [failed]
  potentialOutcomes := [⟨.genericLink, true, 60000⟩]
  deliveryMutations := []
  adversarialFlags := []

def run : CaseRun := ⟨EvaluationPolicy.fixedSafe.asPolicy, LateCapture.merchantPolicy, {}, scenario⟩

def decision : PolicyDecision := ⟨.genericLink, 120000, ["fixed_observation_complete"], true, true⟩

theorem gated : run.Gated := 
  EvaluationPolicy.gated (show EvaluationPolicy.fixedSafe ≠ .blastAll by simp) rfl

theorem opens : run.Opens 7200000 decision where
  opened_eq := rfl
  decided_eq := rfl
  playable := by
    intro event hmem atMs hat
    have hevents : run.events.accepted = [failed] := rfl
    rw [hevents, List.mem_singleton] at hmem
    rw [hmem] at hat
    rw [← Option.some.inj hat]
    omega
  started := by decide

theorem unblocked : Unblocked scenario LateCapture.merchantPolicy where
  unflagged := fun _ _ => List.not_mem_nil
  consent := rfl
  contactCap := by decide
  amount := by decide

theorem sends : run.Sends 7200000 decision where
  opens := opens
  link := by decide
  goesOut := ⟨unblocked, by decide, rfl⟩
  potential := ⟨_, rfl⟩

/-- **The link goes out at two minutes past eleven**, in the quiet hours of the merchant. -/
theorem not_obeysGuardrails : ¬run.ObeysGuardrails := by
  intro hobeys
  obtain ⟨outcome, houtcome, hexecuted⟩ :=
    (CaseRun.executedAt_iff gated).mpr ⟨7200000, decision, sends, rfl⟩
  have hawake := (hobeys outcome _ houtcome hexecuted).awake
  exact absurd hawake (by decide)

theorem obeysGuardrails_evening : run.ObeysGuardrails ↔ run.SendsUndisturbed :=
  CaseRun.obeysGuardrails_iff gated

end EveningLink

end Retrywise.Simulator
