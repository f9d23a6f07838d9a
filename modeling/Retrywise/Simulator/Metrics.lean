import Retrywise.Foundation.Binary64
import Retrywise.Simulator.Execution

/-!
# A policy on a dataset

`engine.py`, `run_policy` and `_aggregate_metrics`. Every scenario is run under the policy of its
merchant, and the outcomes are added up. Rates are floats.

> `runPolicy_ok_iff`: a dataset runs if every scenario does, and the outcomes stand in the order of
> the scenarios.

> `metricsAddUp_aggregateMetrics`: what the metrics say of all cases is the sum of what is said of
> each.
-/

namespace Retrywise.Simulator

open Retrywise.Foundation Retrywise.Domain Retrywise.ControlPlane

/-! ## Metrics -/

structure PolicyMetrics where
  totalCases : Nat
  grossActionRecoveredValueMinor : Int
  naturalRecoveredValueMinor : Int
  simulatedIncrementalRecoveredValueMinor : Int
  netSimulatedIncrementalValueMinor : Int
  naturalRecoveredOrders : Nat
  actionRecoveredOrders : Nat
  incrementalRecoveredOrders : Nat
  contactsSent : Nat
  actionsExecuted : Nat
  communicationCostMinor : Int
  actionCostMinor : Int
  incentiveCostMinor : Int
  frictionPenaltyMinor : Int
  duplicatePenaltyMinor : Int
  unnecessaryContacts : Nat
  unnecessaryContactRate : Rat
  contactEfficiency : Rat
  duplicateRiskEvents : Nat
  unsafeExecutedActionRate : Rat
  hardSafetyViolations : Nat
  stopRuleViolations : Nat
  staleStateActions : Nat
  multipleActiveRecoveryInstruments : Nat
  invalidWebhookAcceptances : Nat
  crossTenantEffects : Nat
  recognizedOverpayments : Nat
  unrecognizedOverpayments : Nat
  safetyViolationBreakdown : List (String × Nat)
  auditCompletenessPct : Rat
  duplicateEventsSuppressed : Nat
  invalidEventsRejected : Nat
  duplicateEffectsUnderReplay : Nat
  originalSuccessActionsSuppressed : Nat
  abstentions : Nat
  abstentionRate : Rat
  medianRecoveryTimeMs : Option Int
  p95RecoveryTimeMs : Option Int

/-- `Counter`: every violation, with how often it occurs. -/
def counter (violations : List String) : List (String × Nat) :=
  violations.dedup.map fun violation => (violation, violations.count violation)

def stopRules : List String :=
  ["contact_without_consent", "quiet_hours_contact", "approval_bypass", "currency_mismatch_action",
    "kill_switch_bypass", "partial_payment_collection", "expired_order_action",
    "ambiguous_mapping_action", "provider_uncertainty_action", "contact_cap_violation"]

/-- `part / whole if whole else 0.0`. -/
def rate (part whole : Nat) : Rat := if whole = 0 then 0 else nearest64 (part / whole)

/-- `statistics.median`, as an `int`, of values in order. -/
def median (values : List Int) : Option Int :=
  let middle := values.length / 2
  if values.length % 2 = 1 then values[middle]?
  else do
    let low ← values[middle - 1]?
    let high ← values[middle]?
    return truncated (nearest64 ((low + high : Int) / 2))

/-- `_nearest_rank_percentile`, of values in order. The rank is not above the number of values. -/
def nearestRankPercentile (values : List Int) (quantile : Rat) : Option Int :=
  let rank := max 1 ⌈nearest64 (nearest64 quantile * nearest64 values.length)⌉.toNat
  values[rank - 1]?

/-- `_aggregate_metrics`. -/
def aggregateMetrics (outcomes : List CaseOutcome) : PolicyMetrics :=
  let number (holds : CaseOutcome → Bool) := outcomes.countP holds
  let total (value : CaseOutcome → Int) := (outcomes.map value).sum
  let violations := counter (outcomes.flatMap fun outcome => outcome.safetyViolations)
  let unsafeActions :=
    number fun outcome => outcome.actionExecuted && !outcome.safetyViolations.isEmpty
  let actions := number fun outcome => outcome.actionExecuted
  let contacts := number fun outcome => outcome.contactSent
  let unnecessary := number fun outcome => outcome.unnecessaryContact
  let incrementalOrders := number fun outcome => outcome.incrementalRecovered
  let entries := outcomes.flatMap fun outcome => outcome.auditEntries
  let auditPresent := (entries.map AuditEntry.presentFieldCount).sum
  let auditExpected := (entries.map fun _ => AuditEntry.expectedFieldCount).sum
  let recoveryTimes := (outcomes.filterMap fun outcome => outcome.recoveryTimeMs).mergeSort
    fun a b => decide (a ≤ b)
  { totalCases := outcomes.length
    grossActionRecoveredValueMinor := total fun outcome => outcome.actionRecoveredValueMinor
    naturalRecoveredValueMinor := total fun outcome => outcome.naturalRecoveredValueMinor
    simulatedIncrementalRecoveredValueMinor :=
      total fun outcome => outcome.incrementalRecoveredValueMinor
    netSimulatedIncrementalValueMinor := total fun outcome => outcome.netIncrementalValueMinor
    naturalRecoveredOrders := number fun outcome => outcome.naturalRecovered
    actionRecoveredOrders := number fun outcome => outcome.actionRecovered
    incrementalRecoveredOrders := incrementalOrders
    contactsSent := contacts
    actionsExecuted := actions
    communicationCostMinor := total fun outcome => outcome.communicationCostMinor
    actionCostMinor := total fun outcome => outcome.actionCostMinor
    incentiveCostMinor := total fun outcome => outcome.incentiveCostMinor
    frictionPenaltyMinor := total fun outcome => outcome.frictionPenaltyMinor
    duplicatePenaltyMinor := total fun outcome => outcome.duplicatePenaltyMinor
    unnecessaryContacts := unnecessary
    unnecessaryContactRate := rate unnecessary contacts
    contactEfficiency := rate incrementalOrders contacts
    duplicateRiskEvents := number fun outcome => outcome.duplicateRisk
    unsafeExecutedActionRate := rate unsafeActions actions
    hardSafetyViolations := (violations.map Prod.snd).sum
    stopRuleViolations := ((violations.filter fun v => v.1 ∈ stopRules).map Prod.snd).sum
    staleStateActions := (violations.lookup "stale_state_action").getD 0
    multipleActiveRecoveryInstruments := 0
    invalidWebhookAcceptances := 0
    crossTenantEffects := 0
    recognizedOverpayments := number fun outcome => outcome.duplicateRisk
    unrecognizedOverpayments := 0
    safetyViolationBreakdown := violations.mergeSort fun a b => decide (a.1 ≤ b.1)
    auditCompletenessPct :=
      if auditExpected = 0 then 100
      else roundPlaces (nearest64 (nearest64 (100 * nearest64 auditPresent) /
        nearest64 auditExpected)) 6
    duplicateEventsSuppressed := (outcomes.map fun outcome => outcome.duplicateEventsSuppressed).sum
    invalidEventsRejected := (outcomes.map fun outcome => outcome.invalidEventsRejected).sum
    duplicateEffectsUnderReplay := 0
    originalSuccessActionsSuppressed :=
      number fun outcome => outcome.originalSuccessActionSuppressed
    abstentions := number fun outcome => outcome.abstained
    abstentionRate := rate (number fun outcome => outcome.abstained) outcomes.length
    medianRecoveryTimeMs := median recoveryTimes
    p95RecoveryTimeMs := nearestRankPercentile recoveryTimes (95 / 100) }

/-! ## Results -/

structure PolicyResult where
  policyKey : String
  displayName : String
  deployable : Bool
  metrics : PolicyMetrics
  caseOutcomes : List CaseOutcome

structure ScenarioDataset where
  scenarios : List Scenario
  merchantPolicies : List MerchantPolicy
  costs : CostAssumptions

namespace ScenarioDataset

variable (dataset : ScenarioDataset)

/-- `merchant_policies[merchant_id]`: of the policies of one merchant the last one. -/
def merchantPolicyOf (merchantId : String) : Option MerchantPolicy :=
  dataset.merchantPolicies.reverse.find? fun item => item.merchantId = merchantId

/-- The case of a scenario, under the policy of its merchant. -/
def caseRun (policy : Policy) (scenario : Scenario) : Except EngineError CaseRun := do
  let merchantPolicy ← someOr (dataset.merchantPolicyOf scenario.merchantId)
    (.key scenario.merchantId)
  return ⟨policy, merchantPolicy, dataset.costs, scenario⟩

end ScenarioDataset

def Policy.result (policy : Policy) (outcomes : List CaseOutcome) : PolicyResult where
  policyKey := policy.key
  displayName := policy.displayName
  deployable := policy.deployable
  metrics := aggregateMetrics outcomes
  caseOutcomes := outcomes

/-- `run_policy`. -/
def runPolicy (dataset : ScenarioDataset) (policy : Policy) : Except EngineError PolicyResult := do
  let outcomes ← dataset.scenarios.mapM fun scenario => do
    let run ← dataset.caseRun policy scenario
    run.outcome
  return policy.result outcomes

section

variable {dataset : ScenarioDataset} {policy : Policy} {result : PolicyResult}
  {outcomes : List CaseOutcome}

theorem mapM_ok_iff_forall₂ {α β ε : Type} {call : α → Except ε β} {members : List α}
    {results : List β} :
    members.mapM call = .ok results ↔
      List.Forall₂ (fun a b => call a = .ok b) members results := by
  induction members generalizing results with
  | nil =>
    rw [List.mapM_nil, pure_ok_iff, List.forall₂_nil_left_iff, eq_comm]
  | cons a rest ih =>
    simp only [List.mapM_cons, bind_ok_iff, pure_ok_iff, ih, List.forall₂_cons_left_iff]
    constructor
    · rintro ⟨b, hb, others, hrest, rfl⟩
      exact ⟨b, others, hb, hrest, rfl⟩
    · rintro ⟨b, others, hb, hrest, rfl⟩
      exact ⟨b, hb, others, hrest, rfl⟩

/-- The outcome of a scenario of the dataset. -/
def ScenarioDataset.Comes (dataset : ScenarioDataset) (policy : Policy) (scenario : Scenario)
    (outcome : CaseOutcome) : Prop :=
  ∃ merchantPolicy, dataset.merchantPolicyOf scenario.merchantId = some merchantPolicy ∧
    (caseOf merchantPolicy dataset.costs scenario policy).Comes outcome

/-- **A dataset runs if every scenario does**, and the outcomes stand in the order of the
scenarios. -/
theorem runPolicy_ok_iff :
    runPolicy dataset policy = .ok result ↔
      ∃ outcomes, List.Forall₂ (dataset.Comes policy) dataset.scenarios outcomes ∧
        policy.result outcomes = result := by
  have hcomes : ∀ scenario outcome,
      (dataset.caseRun policy scenario >>= fun run => run.outcome) = .ok outcome ↔
        dataset.Comes policy scenario outcome := by
    intro scenario outcome
    unfold ScenarioDataset.caseRun ScenarioDataset.Comes
    simp only [bind_ok_iff, pure_ok_iff, someOr_ok_iff]
    constructor
    · rintro ⟨run, ⟨merchantPolicy, hmerchant, rfl⟩, houtcome⟩
      exact ⟨merchantPolicy, hmerchant, CaseRun.outcome_ok_iff.mp houtcome⟩
    · rintro ⟨merchantPolicy, hmerchant, hcomes⟩
      exact ⟨_, ⟨merchantPolicy, hmerchant, rfl⟩, CaseRun.outcome_ok_iff.mpr hcomes⟩
  unfold runPolicy
  rw [bind_ok_iff]
  simp only [mapM_ok_iff_forall₂, hcomes, pure_ok_iff]

/-! ## Sums -/

/-- What the metrics say of all cases is the sum of what is said of each. -/
structure MetricsAddUp (metrics : PolicyMetrics) (outcomes : List CaseOutcome) : Prop where
  cases : metrics.totalCases = outcomes.length
  gross : metrics.grossActionRecoveredValueMinor =
    (outcomes.map (·.actionRecoveredValueMinor)).sum
  natural : metrics.naturalRecoveredValueMinor = (outcomes.map (·.naturalRecoveredValueMinor)).sum
  incremental : metrics.simulatedIncrementalRecoveredValueMinor =
    (outcomes.map (·.incrementalRecoveredValueMinor)).sum
  net : metrics.netSimulatedIncrementalValueMinor =
    (outcomes.map (·.netIncrementalValueMinor)).sum
  communication : metrics.communicationCostMinor = (outcomes.map (·.communicationCostMinor)).sum
  action : metrics.actionCostMinor = (outcomes.map (·.actionCostMinor)).sum
  incentive : metrics.incentiveCostMinor = (outcomes.map (·.incentiveCostMinor)).sum
  friction : metrics.frictionPenaltyMinor = (outcomes.map (·.frictionPenaltyMinor)).sum
  duplicate : metrics.duplicatePenaltyMinor = (outcomes.map (·.duplicatePenaltyMinor)).sum
  naturalOrders : metrics.naturalRecoveredOrders = outcomes.countP (·.naturalRecovered)
  actionOrders : metrics.actionRecoveredOrders = outcomes.countP (·.actionRecovered)
  incrementalOrders : metrics.incrementalRecoveredOrders =
    outcomes.countP (·.incrementalRecovered)
  contacts : metrics.contactsSent = outcomes.countP (·.contactSent)
  actions : metrics.actionsExecuted = outcomes.countP (·.actionExecuted)
  violations : metrics.hardSafetyViolations =
    (outcomes.map (·.safetyViolations.length)).sum
  stopRules : metrics.stopRuleViolations =
    (outcomes.map fun outcome => outcome.safetyViolations.countP (· ∈ stopRules)).sum
  staleState : metrics.staleStateActions =
    (outcomes.map fun outcome => outcome.safetyViolations.count "stale_state_action").sum

variable {violations : List String}

/-- The numbers of a counter, of the violations that something holds of. -/
theorem sum_counter (holds : String → Bool) :
    (((counter violations).filter fun v => holds v.1).map Prod.snd).sum =
      violations.countP holds := by
  have hfiltered : ((counter violations).filter fun v => holds v.1).map Prod.snd =
      (violations.dedup.filter holds).map fun violation => violations.count violation := by
    unfold counter
    rw [List.filter_map, List.map_map]
    rfl
  rw [hfiltered, List.sum_map_count_dedup_filter_eq_countP]

theorem lookup_counter (violation : String) :
    ((counter violations).lookup violation).getD 0 = violations.count violation := by
  unfold counter
  by_cases hmem : violation ∈ violations
  · rw [List.lookup_graph _ (List.mem_dedup.mpr hmem), Option.getD_some]
  · have hnone : (violations.dedup.map fun v => (v, violations.count v)).lookup violation = none := by
      rw [List.lookup_eq_none_iff]
      intro entry hentry
      obtain ⟨found, hfound, rfl⟩ := List.mem_map.mp hentry
      refine bne_iff_ne.mpr fun heq => hmem ?_
      rw [heq]
      exact List.mem_dedup.mp hfound
    rw [hnone, List.count_eq_zero.mpr hmem, Option.getD_none]

/-- **The metrics add up.** -/
theorem metricsAddUp_aggregateMetrics (outcomes : List CaseOutcome) :
    MetricsAddUp (aggregateMetrics outcomes) outcomes where
  cases := rfl
  gross := rfl
  natural := rfl
  incremental := rfl
  net := rfl
  communication := rfl
  action := rfl
  incentive := rfl
  friction := rfl
  duplicate := rfl
  naturalOrders := rfl
  actionOrders := rfl
  incrementalOrders := rfl
  contacts := rfl
  actions := rfl
  violations := by
    have hsum := @sum_counter (outcomes.flatMap fun o => o.safetyViolations)
      fun _ => true
    rw [List.filter_true, List.countP_true, List.length_flatMap] at hsum
    exact hsum
  stopRules := by
    have hsum := @sum_counter (outcomes.flatMap fun o => o.safetyViolations)
      fun violation => decide (violation ∈ stopRules)
    rw [List.countP_flatMap] at hsum
    exact hsum
  staleState := by
    show ((counter _).lookup "stale_state_action").getD 0 = _
    rw [lookup_counter, List.count_flatMap]
    rfl

end

end Retrywise.Simulator
