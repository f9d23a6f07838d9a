import Retrywise.Simulator.SafetyGate
import Retrywise.Simulator.VirtualClock

/-!
# Execution of a decision

`engine.py`, `_run_case` from the decision on. What was accepted is played on the virtual clock, a
link passes the safety gate or not, and one that is sent is paid or not as the scenario has it for
its action. A case comes out in one of four ways, and each of them builds an outcome: no failure
was seen, the policy abstained, the link was suppressed, or it was sent.

> `outcome_ok_iff`: a case comes out in one of the four ways, and when in which.
-/

namespace Retrywise.Simulator

open Retrywise.Foundation Retrywise.Domain Retrywise.ControlPlane

/-! ## Audit entries -/

def ActionKind.value : ActionKind → String
  | .noAction => "no_action"
  | .genericLink => "generic_payment_link"
  | .alternativeLink => "alternative_method_link"

structure AuditEntry where
  timestampMs : Int
  actor : String
  eventType : String
  scenarioId : String
  policyKey : String
  reasonCode : String
  traceId : String
  policyVersion : String
  decisionId : String
  details : List (String × String) := []

/-- `present_field_count`: the timestamp, and the texts that are not empty. -/
def AuditEntry.presentFieldCount (entry : AuditEntry) : Nat :=
  1 + ([entry.actor, entry.eventType, entry.scenarioId, entry.policyKey, entry.reasonCode,
    entry.traceId, entry.policyVersion, entry.decisionId].filter fun value => value ≠ "").length

def AuditEntry.expectedFieldCount : Nat := 9

/-! ## Outcomes -/

/-- `outcome_for`. -/
def Scenario.outcomeFor (scenario : Scenario) (action : ActionKind) : Option PotentialOutcome :=
  scenario.potentialOutcomes.find? fun outcome => outcome.action = action

structure CaseOutcome where
  scenarioId : String
  merchantId : String
  policyKey : String
  action : ActionKind
  actionExecuted : Bool
  contactSent : Bool
  naturalRecovered : Bool
  actionRecovered : Bool
  incrementalRecovered : Bool
  naturalRecoveredValueMinor : Int
  actionRecoveredValueMinor : Int
  incrementalRecoveredValueMinor : Int
  communicationCostMinor : Int
  actionCostMinor : Int
  incentiveCostMinor : Int
  frictionPenaltyMinor : Int
  duplicatePenaltyMinor : Int
  netIncrementalValueMinor : Int
  recoveryTimeMs : Option Int
  unnecessaryContact : Bool
  duplicateRisk : Bool
  originalSuccessActionSuppressed : Bool
  abstained : Bool
  safetyViolations : List String
  duplicateEventsSuppressed : Nat
  invalidEventsRejected : Nat
  auditEntries : List AuditEntry

/-- The arguments of `_make_outcome` that are not the same in all its calls. -/
structure OutcomeCall where
  action : ActionKind
  actionExecuted : Bool := false
  contactSent : Bool := false
  naturalRecovered : Bool
  actionRecovered : Bool := false
  recoveryTimeMs : Option Int
  unnecessaryContact : Bool := false
  duplicateRisk : Bool := false
  originalSuccessActionSuppressed : Bool := false
  abstained : Bool
  safetyViolations : List String := []
  audit : List AuditEntry

/-- An object of the class `EvaluationPolicy`. The scenario is handed to its `decide` for the sake
of the oracle's `decide_with_truth`. -/
structure Policy where
  key : String
  displayName : String
  deployable : Bool
  observationDelayMs : ObservedCase → Int
  decide : Scenario → ObservedCase → MerchantPolicy → CostAssumptions →
    Except SimulationError PolicyDecision

namespace EvaluationPolicy

def key : EvaluationPolicy → String
  | .naturalRecovery => "B0"
  | .blastAll => "B1"
  | .fixedSafe => "B2"
  | .incidentAware => "B3"
  | .retryWise _ => "RetryWise"
  | .oracle => "oracle"

/-- `POLICY_DISPLAY_NAMES`. -/
def displayName : EvaluationPolicy → String
  | .naturalRecovery => "B0 Natural recovery"
  | .blastAll => "B1 Blast all"
  | .fixedSafe => "B2 Fixed safe rule"
  | .incidentAware => "B3 Incident-aware rules"
  | .retryWise _ => "RetryWise"
  | .oracle => "Oracle ceiling"

def deployable : EvaluationPolicy → Bool
  | .oracle => false
  | _ => true

/-- A policy of the catalogue. -/
def asPolicy (policy : EvaluationPolicy) : Policy where
  key := policy.key
  displayName := policy.displayName
  deployable := policy.deployable
  observationDelayMs := policy.observationDelayMs
  decide := fun scenario observed _ costs => policy.decideCase scenario observed costs

end EvaluationPolicy

/-- The case of `_run_case`: who decides, the merchant's policy, the costs and the scenario. -/
structure CaseRun where
  policy : Policy
  merchantPolicy : MerchantPolicy
  costs : CostAssumptions
  scenario : Scenario

namespace CaseRun

variable (run : CaseRun)

def events : AcceptedEvents := acceptedEvents run.scenario.events run.merchantPolicy

/-- `_audit`. -/
def audit (timestampMs : Int) (actor eventType reasonCode : String)
    (details : List (String × String) := []) : AuditEntry where
  timestampMs := timestampMs
  actor := actor
  eventType := eventType
  scenarioId := run.scenario.scenarioId
  policyKey := run.policy.key
  reasonCode := reasonCode
  traceId := s!"trace-{run.scenario.scenarioId}-{run.policy.key}"
  policyVersion := run.merchantPolicy.version
  decisionId := s!"decision-{run.scenario.scenarioId}-{run.policy.key}"
  details := details

/-- `_make_outcome`. -/
def makeOutcome (call : OutcomeCall) : CaseOutcome :=
  let amount := run.scenario.amountMinor
  let costs := run.costs
  let incremental := call.actionRecovered && !call.naturalRecovered
  let incrementalValue := if incremental then amount else 0
  let communicationCost := if call.contactSent then costs.communicationCostMinor else 0
  let actionCost := if call.actionExecuted then costs.actionCostMinor else 0
  let incentiveCost := if call.actionExecuted then costs.incentiveCostMinor else 0
  let frictionPenalty := if call.unnecessaryContact then costs.frictionPenaltyMinor else 0
  let duplicatePenalty := if call.duplicateRisk then amount + costs.duplicatePenaltyMinor else 0
  { scenarioId := run.scenario.scenarioId
    merchantId := run.scenario.merchantId
    policyKey := run.policy.key
    action := call.action
    actionExecuted := call.actionExecuted
    contactSent := call.contactSent
    naturalRecovered := call.naturalRecovered
    actionRecovered := call.actionRecovered
    incrementalRecovered := incremental
    naturalRecoveredValueMinor := if call.naturalRecovered then amount else 0
    actionRecoveredValueMinor := if call.actionRecovered then amount else 0
    incrementalRecoveredValueMinor := incrementalValue
    communicationCostMinor := communicationCost
    actionCostMinor := actionCost
    incentiveCostMinor := incentiveCost
    frictionPenaltyMinor := frictionPenalty
    duplicatePenaltyMinor := duplicatePenalty
    netIncrementalValueMinor := incrementalValue - communicationCost - actionCost -
      incentiveCost - frictionPenalty - duplicatePenalty
    recoveryTimeMs := call.recoveryTimeMs
    unnecessaryContact := call.unnecessaryContact
    duplicateRisk := call.duplicateRisk
    originalSuccessActionSuppressed := call.originalSuccessActionSuppressed
    abstained := call.abstained
    safetyViolations := call.safetyViolations
    duplicateEventsSuppressed := run.events.duplicates
    invalidEventsRejected := run.events.invalid
    auditEntries := call.audit }

/-- `_no_action_outcome`, with the entry of a case that is not opened. -/
def notOpened : CaseOutcome :=
  let naturalRecovered := run.scenario.naturalRecoveryAtMs.isSome
  { scenarioId := run.scenario.scenarioId
    merchantId := run.scenario.merchantId
    policyKey := run.policy.key
    action := .noAction
    actionExecuted := false
    contactSent := false
    naturalRecovered := naturalRecovered
    actionRecovered := false
    incrementalRecovered := false
    naturalRecoveredValueMinor := if naturalRecovered then run.scenario.amountMinor else 0
    actionRecoveredValueMinor := 0
    incrementalRecoveredValueMinor := 0
    communicationCostMinor := 0
    actionCostMinor := 0
    incentiveCostMinor := 0
    frictionPenaltyMinor := 0
    duplicatePenaltyMinor := 0
    netIncrementalValueMinor := 0
    recoveryTimeMs := run.scenario.naturalRecoveryAtMs
    unnecessaryContact := false
    duplicateRisk := false
    originalSuccessActionSuppressed := false
    abstained := true
    safetyViolations := []
    duplicateEventsSuppressed := run.events.duplicates
    invalidEventsRejected := run.events.invalid
    auditEntries := [run.audit 0 "gateway" "case_not_opened" "no_verified_failure"] }

/-! ## The ways out of an opened case -/

/-- `natural_recovered` of `_run_case`. -/
def naturalRecovered : Bool := run.scenario.naturalBy run.merchantPolicy.recoveryHorizonMs

/-- The entries of every case that is opened. -/
def opening (failureAt decisionAt : Int) (decision : PolicyDecision) : List AuditEntry :=
  [run.audit failureAt "gateway" "verified_failure_accepted" "signature_account_and_event_verified",
    run.audit decisionAt "decision_engine" "decision_recorded"
      (String.intercalate "+" decision.reasonCodes) [("action", decision.action.value)]]

def abstain (failureAt decisionAt : Int) (decision : PolicyDecision) (reasonCode : String) :
    CaseOutcome :=
  run.makeOutcome {
    action := .noAction
    naturalRecovered := run.naturalRecovered
    recoveryTimeMs := run.scenario.naturalRecoveryAtMs
    abstained := true
    audit := run.opening failureAt decisionAt decision ++
      [run.audit decisionAt "policy" "action_abstained" reasonCode] }

def suppress (failureAt decisionAt : Int) (decision : PolicyDecision) (verdict : GateVerdict)
    (reasonCode : String) : CaseOutcome :=
  run.makeOutcome {
    action := decision.action
    naturalRecovered := run.naturalRecovered
    recoveryTimeMs := run.scenario.naturalRecoveryAtMs
    originalSuccessActionSuppressed := verdict.originalSuccessSuppressed
    abstained := true
    audit := run.opening failureAt decisionAt decision ++
      [run.audit verdict.executionAt "safety_gate" "action_suppressed" reasonCode] }

/-- `action_recovered`, of a link sent at a time. -/
def recoversAt (potential : PotentialOutcome) (executionAt : Int) : Bool :=
  potential.wouldRecover &&
    decide (executionAt + potential.recoveryDelayMs ≤ run.merchantPolicy.recoveryHorizonMs)

/-- `recovery_time`: the earliest of what recovered. -/
def recoveryTime (potential : PotentialOutcome) (executionAt : Int) : Option Int :=
  let natural := if run.naturalRecovered then run.scenario.naturalRecoveryAtMs else none
  let recovered :=
    if run.recoversAt potential executionAt then some (executionAt + potential.recoveryDelayMs)
    else none
  (natural.toList ++ recovered.toList).min?

def execute (failureAt decisionAt : Int) (decision : PolicyDecision) (executionAt : Int)
    (potential : PotentialOutcome) : CaseOutcome :=
  let violations := unsafePolicyViolations run.scenario run.merchantPolicy executionAt
    decision.useSafetyGate
  let actionRecovered := run.recoversAt potential executionAt
  let duplicateRisk := actionRecovered && run.naturalRecovered
  let incrementalRecovered := actionRecovered && !run.naturalRecovered
  let recoveryTime := run.recoveryTime potential executionAt
  -- `recovery_time or recovery_horizon_ms`: a recovery at the time zero counts as none here
  let recordedAt := match recoveryTime with
    | some time => if time = 0 then run.merchantPolicy.recoveryHorizonMs else time
    | none => run.merchantPolicy.recoveryHorizonMs
  let attribution :=
    if incrementalRecovered then "incremental_recovery"
    else if duplicateRisk then "duplicate_risk" else "no_incremental_recovery"
  run.makeOutcome {
    action := decision.action
    actionExecuted := true
    contactSent := true
    naturalRecovered := run.naturalRecovered
    actionRecovered := actionRecovered
    recoveryTimeMs := recoveryTime
    unnecessaryContact := !incrementalRecovered
    duplicateRisk := duplicateRisk
    abstained := false
    safetyViolations :=
      if duplicateRisk then
        (violations ++ ["multiple_collection_paths_captured"]).mergeSort fun a b => decide (a ≤ b)
      else violations
    audit := run.opening failureAt decisionAt decision ++
      [run.audit executionAt "executor" "action_executed" "provider_action_completed"
          [("action", decision.action.value)],
        run.audit recordedAt "outcome_attribution" "outcome_recorded" attribution] }

/-- `_run_case`, from the branch on the action on. -/
def act (failureAt : Int) (decision : PolicyDecision) : Except EngineError CaseOutcome :=
  let decisionAt := failureAt + decision.observationDelayMs
  if decision.action = .noAction then
    match decision.reasonCodes with
    | [] => .error .index
    | reasonCode :: _ => .ok (run.abstain failureAt decisionAt decision reasonCode)
  else
    let verdict := safetyGate run.scenario run.merchantPolicy decision decisionAt
    match verdict.suppressionReason with
    | some reasonCode => .ok (run.suppress failureAt decisionAt decision verdict reasonCode)
    | none =>
      match run.scenario.outcomeFor decision.action with
      | none => .error (.key s!"No potential outcome for {decision.action.value}")
      | some potential =>
        .ok (run.execute failureAt decisionAt decision verdict.executionAt potential)

/-- `_run_case`, once the case is opened and decided. -/
def carryOut (failureAt : Int) (decision : PolicyDecision) : Except EngineError CaseOutcome := do
  let clock ← ({} : VirtualClock).scheduleAll run.events.accepted
  let _ ← clock.runUntil (failureAt + decision.observationDelayMs)
  run.act failureAt decision
/-- What the policy decides of a case that was opened at a time. -/
def decided (opened : Int) : Except EngineError PolicyDecision :=
  let initial := observedCase run.scenario run.events.accepted opened
  let decisionAt := opened + run.policy.observationDelayMs initial
  let observed := observedCase run.scenario run.events.accepted decisionAt
  (run.policy.decide run.scenario observed run.merchantPolicy run.costs).mapError .decision

/-- `_run_case`. -/
def outcome : Except EngineError CaseOutcome :=
  match failureAt run.events.accepted with
  | none => .ok run.notOpened
  | some opened => do
    let decision ← run.decided opened
    run.carryOut opened decision

end CaseRun

/-! ## The four ways out -/

namespace CaseRun

variable {run : CaseRun} {opened : Int} {decision : PolicyDecision} {outcome : CaseOutcome}

/-- Nothing that was accepted was delivered before the time zero of the clock. -/
def Playable (run : CaseRun) : Prop :=
  ∀ event ∈ run.events.accepted, ∀ atMs, event.deliveredAtMs = some atMs → 0 ≤ atMs

theorem plays_iff {atMs : Int} :
    (∃ clock, ({} : VirtualClock).scheduleAll run.events.accepted = .ok clock ∧
      ∃ played, clock.runUntil atMs = .ok played) ↔ run.Playable ∧ 0 ≤ atMs := by
  constructor
  · rintro ⟨clock, hscheduled, hplayed⟩
    have hnow := VirtualClock.scheduleAll_nowMs hscheduled
    refine ⟨VirtualClock.scheduleAll_ok_iff.mp ⟨clock, hscheduled⟩, ?_⟩
    have hle := VirtualClock.runUntil_ok_iff.mp hplayed
    rw [hnow] at hle
    exact hle
  · rintro ⟨hplayable, hle⟩
    obtain ⟨clock, hscheduled⟩ :=
      (@VirtualClock.scheduleAll_ok_iff {} _).mpr hplayable
    refine ⟨clock, hscheduled, VirtualClock.runUntil_ok_iff.mpr ?_⟩
    rw [VirtualClock.scheduleAll_nowMs hscheduled]
    exact hle

/-- The case was opened at a time, decided so, and played until the decision. -/
structure Opens (run : CaseRun) (opened : Int) (decision : PolicyDecision) : Prop where
  opened_eq : failureAt run.events.accepted = some opened
  decided_eq : run.decided opened = .ok decision
  playable : run.Playable
  started : 0 ≤ opened + decision.observationDelayMs

/-- The ways in which a case comes out. -/
inductive Comes (run : CaseRun) : CaseOutcome → Prop
  | notOpened : failureAt run.events.accepted = none → Comes run run.notOpened
  | abstained {opened : Int} {decision : PolicyDecision} {reasonCode : String}
      {rest : List String} :
      run.Opens opened decision → decision.action = .noAction →
      decision.reasonCodes = reasonCode :: rest →
      Comes run (run.abstain opened (opened + decision.observationDelayMs) decision reasonCode)
  | suppressed {opened : Int} {decision : PolicyDecision} {verdict : GateVerdict}
      {reasonCode : String} :
      run.Opens opened decision → decision.action ≠ .noAction →
      safetyGate run.scenario run.merchantPolicy decision
        (opened + decision.observationDelayMs) = verdict →
      verdict.suppressionReason = some reasonCode →
      Comes run
        (run.suppress opened (opened + decision.observationDelayMs) decision verdict reasonCode)
  | executed {opened : Int} {decision : PolicyDecision} {verdict : GateVerdict}
      {potential : PotentialOutcome} :
      run.Opens opened decision → decision.action ≠ .noAction →
      safetyGate run.scenario run.merchantPolicy decision
        (opened + decision.observationDelayMs) = verdict →
      verdict.suppressionReason = none →
      run.scenario.outcomeFor decision.action = some potential →
      Comes run (run.execute opened (opened + decision.observationDelayMs) decision
        verdict.executionAt potential)

theorem comes_of_act (h : run.Opens opened decision) (hact : run.act opened decision = .ok outcome) :
    run.Comes outcome := by
  unfold act at hact
  dsimp only at hact
  split at hact
  next haction =>
    -- the policy abstains, and has to say why
    split at hact
    next => exact absurd hact (by simp)
    next reasonCode rest hreasons =>
      rw [← Except.ok.inj hact]
      exact .abstained h haction hreasons
  next haction =>
    split at hact
    next reasonCode hreason =>
      rw [← Except.ok.inj hact]
      exact .suppressed h haction rfl hreason
    next hpassed =>
      split at hact
      next => exact absurd hact (by simp)
      next potential hpotential =>
        rw [← Except.ok.inj hact]
        exact .executed h haction rfl hpassed hpotential

theorem outcome_of_opens (h : run.Opens opened decision) :
    run.outcome = run.act opened decision := by
  obtain ⟨clock, hscheduled, played, hplayed⟩ := plays_iff.mpr ⟨h.playable, h.started⟩
  unfold CaseRun.outcome
  rw [h.opened_eq]
  dsimp only
  rw [bind_of_ok h.decided_eq, carryOut, bind_of_ok hscheduled, bind_of_ok hplayed]

/-- **A case comes out in one of the four ways.** -/
theorem outcome_ok_iff : run.outcome = .ok outcome ↔ run.Comes outcome := by
  constructor
  · intro hok
    cases hopened : failureAt run.events.accepted with
    | none =>
      rw [CaseRun.outcome, hopened, Except.ok.injEq] at hok
      rw [← hok]
      exact .notOpened hopened
    | some opened =>
      rw [CaseRun.outcome, hopened] at hok
      obtain ⟨decision, hdecided, hcarried⟩ := bind_ok_iff.mp hok
      obtain ⟨clock, hscheduled, hrest⟩ := bind_ok_iff.mp hcarried
      obtain ⟨played, hplayed, hact⟩ := bind_ok_iff.mp hrest
      obtain ⟨hplayable, hstarted⟩ := plays_iff.mp ⟨clock, hscheduled, played, hplayed⟩
      exact comes_of_act ⟨hopened, hdecided, hplayable, hstarted⟩ hact
  · intro hcomes
    cases hcomes with
    | notOpened hopened => rw [CaseRun.outcome, hopened]
    | abstained h haction hreasons =>
      rw [outcome_of_opens h, act]
      dsimp only
      rw [if_pos haction, hreasons]
    | suppressed h haction hverdict hreason =>
      rw [outcome_of_opens h, act]
      dsimp only
      rw [if_neg haction, hverdict, hreason]
    | executed h haction hverdict hpassed hpotential =>
      rw [outcome_of_opens h, act]
      dsimp only
      rw [if_neg haction, hverdict, hpassed, hpotential]

end CaseRun

/-! ## Cases, whoever decides them -/

section

variable {merchantPolicy : MerchantPolicy} {costs : CostAssumptions} {scenario : Scenario}
  {policy : Policy} {opened : Int} {decision : PolicyDecision}

/-- The order recovers by itself within the horizon. -/
def RecoversNaturally (merchantPolicy : MerchantPolicy) (scenario : Scenario) : Prop :=
  scenario.naturalBy merchantPolicy.recoveryHorizonMs = true

instance : Decidable (RecoversNaturally merchantPolicy scenario) :=
  inferInstanceAs (Decidable (_ = true))

/-- The case, in the hands of a policy. -/
def caseOf (merchantPolicy : MerchantPolicy) (costs : CostAssumptions) (scenario : Scenario)
    (policy : Policy) : CaseRun :=
  ⟨policy, merchantPolicy, costs, scenario⟩

/-- The accepted events of a case, whoever decides it. -/
def accepted (merchantPolicy : MerchantPolicy) (scenario : Scenario) : List ScenarioEvent :=
  (acceptedEvents scenario.events merchantPolicy).accepted

/-- The case was opened at a time, and the clock can play it. -/
structure Opened (merchantPolicy : MerchantPolicy) (scenario : Scenario) (opened : Int) : Prop where
  opened_eq : failureAt (accepted merchantPolicy scenario) = some opened
  playable : ∀ event ∈ accepted merchantPolicy scenario, ∀ atMs,
    event.deliveredAtMs = some atMs → 0 ≤ atMs

theorem Opened.nonneg (h : Opened merchantPolicy scenario opened) : 0 ≤ opened := by
  obtain ⟨⟨event, hmem, -, htime⟩, -⟩ := failureAt_eq_some_iff.mp h.opened_eq
  obtain ⟨delivered, hat⟩ := Option.ne_none_iff_exists'.mp (delivered_of_mem _ _ hmem)
  have hle := h.playable event hmem delivered hat
  rw [hat] at htime
  exact htime ▸ hle

theorem opens_of_opened (h : Opened merchantPolicy scenario opened)
    (hdecided : (caseOf merchantPolicy costs scenario policy).decided opened = .ok decision)
    (hstarted : 0 ≤ opened + decision.observationDelayMs) :
    (caseOf merchantPolicy costs scenario policy).Opens opened decision :=
  ⟨h.opened_eq, hdecided, h.playable, hstarted⟩

end

end Retrywise.Simulator
