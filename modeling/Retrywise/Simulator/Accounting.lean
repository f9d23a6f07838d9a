import Retrywise.Simulator.Comparison

/-!
# The accounts of the simulator

What is published rests on the same accounts for every scenario and every policy: what a case is
worth, what recovered in it and when, and that comparisons add up case by case. A case that is
opened asks whether the order recovers by itself within the horizon. One that is not opened does
not ask, and a case without a link keeps the time of a recovery that comes later.

> `caseAccounts_of_comes`: whatever way a case comes out, its accounts are right, if the order does
> not recover by itself after the horizon.

> `accounting_iff`: the accounts of a dataset are right exactly if no order recovers by itself after
> its horizon, and every scenario has an id of its own, or if the dataset cannot be replayed.
-/

namespace Retrywise.Simulator

open Retrywise.Foundation Retrywise.Domain Retrywise.ControlPlane

section

variable {merchantPolicy : MerchantPolicy} {scenario : Scenario} {run : CaseRun}
  {outcome : CaseOutcome} {dataset : ScenarioDataset} {policy : Policy} {result : PolicyResult}

/-! ## The accounts of a case -/

/-- The order does not recover by itself after the horizon. -/
def WithinHorizon (merchantPolicy : MerchantPolicy) (scenario : Scenario) : Prop :=
  ∀ natural, scenario.naturalRecoveryAtMs = some natural →
    natural ≤ merchantPolicy.recoveryHorizonMs

structure CaseAccounts (merchantPolicy : MerchantPolicy) (scenario : Scenario)
    (outcome : CaseOutcome) : Prop where
  net : outcome.netIncrementalValueMinor = outcome.incrementalRecoveredValueMinor -
    outcome.communicationCostMinor - outcome.actionCostMinor - outcome.incentiveCostMinor -
    outcome.frictionPenaltyMinor - outcome.duplicatePenaltyMinor
  value : outcome.incrementalRecoveredValueMinor =
    if outcome.incrementalRecovered then scenario.amountMinor else 0
  incremental : outcome.incrementalRecovered = true ↔
    outcome.actionRecovered = true ∧ ¬RecoversNaturally merchantPolicy scenario
  natural : outcome.naturalRecovered = true ↔ RecoversNaturally merchantPolicy scenario
  recoveryTime : outcome.recoveryTimeMs.isSome = true ↔
    outcome.naturalRecovered = true ∨ outcome.actionRecovered = true

/-- A recovery within the horizon is a recovery, and the other way round. -/
theorem isSome_iff_recoversNaturally (h : WithinHorizon merchantPolicy scenario) :
    scenario.naturalRecoveryAtMs.isSome = true ↔ RecoversNaturally merchantPolicy scenario := by
  unfold RecoversNaturally Scenario.naturalBy
  cases hnatural : scenario.naturalRecoveryAtMs with
  | none => simp
  | some natural => simpa using h natural hnatural

theorem withinHorizon_of_isSome (h : scenario.naturalRecoveryAtMs.isSome = true →
    RecoversNaturally merchantPolicy scenario) : WithinHorizon merchantPolicy scenario := by
  intro natural hnatural
  have hrecovers := h (by rw [hnatural]; rfl)
  unfold RecoversNaturally Scenario.naturalBy at hrecovers
  rw [hnatural] at hrecovers
  simpa using hrecovers

namespace CaseRun

/-- What `_make_outcome` builds is right, if it is told when something recovered. -/
theorem makeOutcome_accounts {call : OutcomeCall}
    (hnatural : call.naturalRecovered = run.naturalRecovered)
    (htime : call.recoveryTimeMs.isSome = true ↔
      run.naturalRecovered = true ∨ call.actionRecovered = true) :
    CaseAccounts run.merchantPolicy run.scenario (run.makeOutcome call) where
  net := rfl
  value := rfl
  incremental := by
    show (call.actionRecovered && !call.naturalRecovered) = true ↔
      call.actionRecovered = true ∧ ¬run.naturalRecovered = true
    rw [hnatural, Bool.and_eq_true, Bool.not_eq_true', Bool.not_eq_true]
  natural := by
    show call.naturalRecovered = true ↔ run.naturalRecovered = true
    rw [hnatural]
  recoveryTime := by
    show call.recoveryTimeMs.isSome = true ↔
      call.naturalRecovered = true ∨ call.actionRecovered = true
    rw [hnatural]
    exact htime

theorem isSome_recoveryTime {potential : PotentialOutcome} {executionAt : Int} :
    (run.recoveryTime potential executionAt).isSome = true ↔
      run.naturalRecovered = true ∨ run.recoversAt potential executionAt = true := by
  have hnatural : run.naturalRecovered = true → run.scenario.naturalRecoveryAtMs.isSome = true := by
    intro h
    unfold naturalRecovered Scenario.naturalBy at h
    cases hat : run.scenario.naturalRecoveryAtMs with
    | none => rw [hat] at h; exact absurd h (by simp)
    | some natural => rfl
  unfold recoveryTime
  dsimp only
  rw [List.isSome_min?_iff]
  by_cases h : run.naturalRecovered = true
  · obtain ⟨natural, hat⟩ := Option.isSome_iff_exists.mp (hnatural h)
    simp [h, hat]
  · by_cases h' : run.recoversAt potential executionAt = true
    · simp [h, h']
    · simp [h, h']

/-- **Whatever way a case comes out, its accounts are right**, if the order does not recover by
itself after the horizon. -/
theorem caseAccounts_of_comes (hcomes : run.Comes outcome)
    (h : WithinHorizon run.merchantPolicy run.scenario) :
    CaseAccounts run.merchantPolicy run.scenario outcome := by
  have hsome := isSome_iff_recoversNaturally h
  have hidle : run.scenario.naturalRecoveryAtMs.isSome = true ↔
      run.naturalRecovered = true ∨ false = true := by
    rw [hsome]
    simp [RecoversNaturally, naturalRecovered]
  cases hcomes with
  | notOpened =>
    exact ⟨rfl, rfl, by simp [notOpened], hsome, by simp [notOpened]⟩
  | abstained => exact makeOutcome_accounts rfl hidle
  | suppressed => exact makeOutcome_accounts rfl hidle
  | executed => exact makeOutcome_accounts rfl isSome_recoveryTime

/-- The accounts of a case without a link show whether the order recovers after the horizon. -/
theorem withinHorizon_of_accounts (hcomes : run.Comes outcome)
    (hidle : outcome.actionExecuted = false)
    (h : CaseAccounts run.merchantPolicy run.scenario outcome) :
    WithinHorizon run.merchantPolicy run.scenario := by
  refine withinHorizon_of_isSome fun hsome => ?_
  cases hcomes with
  | notOpened => exact h.natural.mp hsome
  | abstained =>
    have hrecovered := h.recoveryTime.mp hsome
    exact h.natural.mp (hrecovered.resolve_right (by simp [abstain, makeOutcome]))
  | suppressed =>
    have hrecovered := h.recoveryTime.mp hsome
    exact h.natural.mp (hrecovered.resolve_right (by simp [suppress, makeOutcome]))
  | executed => exact absurd hidle (by simp [execute, makeOutcome])

theorem scenarioId_of_comes (hcomes : run.Comes outcome) :
    outcome.scenarioId = run.scenario.scenarioId := by
  cases hcomes with
  | notOpened => rfl
  | abstained => rfl
  | suppressed => rfl
  | executed => rfl

end CaseRun

/-! ## The runs of a dataset -/

namespace ScenarioDataset

/-- Every scenario has a merchant, and the clock can play it if its case is opened. -/
def Replayable (dataset : ScenarioDataset) : Prop :=
  ∀ scenario ∈ dataset.scenarios, ∃ merchantPolicy,
    dataset.merchantPolicyOf scenario.merchantId = some merchantPolicy ∧
      ∀ opened, failureAt (accepted merchantPolicy scenario) = some opened →
        Opened merchantPolicy scenario opened

/-- No order recovers by itself after the horizon of its merchant. -/
def NaturalWithinHorizon (dataset : ScenarioDataset) : Prop :=
  ∀ scenario ∈ dataset.scenarios, ∀ merchantPolicy,
    dataset.merchantPolicyOf scenario.merchantId = some merchantPolicy →
      WithinHorizon merchantPolicy scenario

/-- Every scenario has an id of its own. -/
def DistinctIds (dataset : ScenarioDataset) : Prop :=
  (dataset.scenarios.map fun scenario => scenario.scenarioId).Nodup

/-- The accounts of a scenario are right, under the policy of its merchant. -/
def Accounts (dataset : ScenarioDataset) (scenario : Scenario) (outcome : CaseOutcome) : Prop :=
  ∃ merchantPolicy, dataset.merchantPolicyOf scenario.merchantId = some merchantPolicy ∧
    CaseAccounts merchantPolicy scenario outcome

theorem Comes.accounts (hcomes : dataset.Comes policy scenario outcome)
    (hwithin : ∀ merchantPolicy, dataset.merchantPolicyOf scenario.merchantId =
      some merchantPolicy → WithinHorizon merchantPolicy scenario) :
    dataset.Accounts scenario outcome := by
  obtain ⟨merchantPolicy, hmerchant, hcomes⟩ := hcomes
  exact ⟨merchantPolicy, hmerchant,
    CaseRun.caseAccounts_of_comes hcomes (hwithin merchantPolicy hmerchant)⟩

theorem Comes.scenarioId (hcomes : dataset.Comes policy scenario outcome) :
    outcome.scenarioId = scenario.scenarioId := by
  obtain ⟨_, -, hcomes⟩ := hcomes
  exact CaseRun.scenarioId_of_comes hcomes

/-- The policy without intervention sends nothing. -/
theorem Comes.idle
    (hcomes : dataset.Comes EvaluationPolicy.naturalRecovery.asPolicy scenario outcome) :
    outcome.actionExecuted = false := by
  obtain ⟨merchantPolicy, -, hcomes⟩ := hcomes
  cases hcomes with
  | notOpened => rfl
  | abstained => rfl
  | suppressed => rfl
  | executed h haction => exact absurd (congrArg (·.action) (Except.ok.inj h.decided_eq)).symm haction

theorem forall₂_mem_left {α β : Type} {R : α → β → Prop} {as : List α} {bs : List β}
    (h : List.Forall₂ R as bs) {a : α} (ha : a ∈ as) : ∃ b ∈ bs, R a b := by
  induction h with
  | nil => exact absurd ha List.not_mem_nil
  | cons hfirst hrest ih =>
    rcases List.mem_cons.mp ha with rfl | ha
    · exact ⟨_, List.mem_cons_self, hfirst⟩
    · obtain ⟨b, hb, hR⟩ := ih ha
      exact ⟨b, List.mem_cons_of_mem _ hb, hR⟩

/-- A dataset that ran under any policy can be replayed. -/
theorem replayable_of_ok (h : runPolicy dataset policy = .ok result) : dataset.Replayable := by
  intro scenario hmem
  obtain ⟨outcomes, hall, -⟩ := runPolicy_ok_iff.mp h
  obtain ⟨outcome, -, merchantPolicy, hmerchant, hcomes⟩ := forall₂_mem_left hall hmem
  refine ⟨merchantPolicy, hmerchant, fun opened hopened => ⟨hopened, ?_⟩⟩
  cases hcomes with
  | notOpened hnone => exact absurd (hnone.symm.trans hopened) (by simp)
  | abstained h => exact h.playable
  | suppressed h => exact h.playable
  | executed h => exact h.playable

/-- A dataset that can be replayed runs under the policy without intervention. -/
theorem Replayable.exists_ok (h : dataset.Replayable) :
    ∃ result, runPolicy dataset EvaluationPolicy.naturalRecovery.asPolicy = .ok result := by
  have hall : ∀ scenario ∈ dataset.scenarios, ∃ outcome,
      dataset.Comes EvaluationPolicy.naturalRecovery.asPolicy scenario outcome := by
    intro scenario hmem
    obtain ⟨merchantPolicy, hmerchant, hplayable⟩ := h scenario hmem
    cases hopened : failureAt (accepted merchantPolicy scenario) with
    | none => exact ⟨_, merchantPolicy, hmerchant, .notOpened hopened⟩
    | some opened =>
      have hcase := hplayable opened hopened
      have hstarted : 0 ≤ opened + 0 := by
        have hnonneg := hcase.nonneg
        omega
      have hopens : (caseOf merchantPolicy dataset.costs scenario
          EvaluationPolicy.naturalRecovery.asPolicy).Opens opened
          ⟨.noAction, 0, ["baseline_no_intervention"], true, true⟩ :=
        opens_of_opened hcase rfl hstarted
      exact ⟨_, merchantPolicy, hmerchant, .abstained hopens rfl rfl⟩
  obtain ⟨outcomes, houtcomes⟩ := exists_forall₂ hall
  exact ⟨_, runPolicy_ok_iff.mpr ⟨outcomes, houtcomes, rfl⟩⟩

theorem map_scenarioId {outcomes : List CaseOutcome}
    (h : List.Forall₂ (dataset.Comes policy) dataset.scenarios outcomes) :
    (outcomes.map fun outcome => outcome.scenarioId) =
      dataset.scenarios.map fun scenario => scenario.scenarioId := by
  generalize dataset.scenarios = scenarios at h ⊢
  induction h with
  | nil => rfl
  | cons hfirst hrest ih => rw [List.map_cons, List.map_cons, hfirst.scenarioId, ih]

theorem accounts_of_comes {scenarios : List Scenario} {outcomes : List CaseOutcome}
    (h : List.Forall₂ (dataset.Comes policy) scenarios outcomes)
    (hwithin : ∀ scenario ∈ scenarios, ∀ merchantPolicy,
      dataset.merchantPolicyOf scenario.merchantId = some merchantPolicy →
        WithinHorizon merchantPolicy scenario) :
    List.Forall₂ dataset.Accounts scenarios outcomes := by
  induction h with
  | nil => exact .nil
  | cons hfirst hrest ih =>
    obtain ⟨hwithinFirst, hwithinRest⟩ := List.forall_mem_cons.mp hwithin
    exact .cons (hfirst.accounts hwithinFirst) (ih hwithinRest)

/-- With the accounts right, every policy sees the same orders recover by themselves. -/
theorem map_naturalRecovered {outcomes : List CaseOutcome}
    (h : List.Forall₂ dataset.Accounts dataset.scenarios outcomes) :
    (outcomes.map fun outcome => outcome.naturalRecovered) =
      dataset.scenarios.map fun scenario =>
        (dataset.merchantPolicyOf scenario.merchantId).any fun merchantPolicy =>
          scenario.naturalBy merchantPolicy.recoveryHorizonMs := by
  generalize dataset.scenarios = scenarios at h ⊢
  induction h with
  | nil => rfl
  | cons hfirst hrest ih =>
    obtain ⟨merchantPolicy, hmerchant, haccounts⟩ := hfirst
    rw [List.map_cons, List.map_cons, ih, hmerchant]
    exact congrArg (· :: _) (Bool.eq_iff_iff.mpr haccounts.natural)

/-- The accounts of the policy without intervention show every recovery after the horizon. -/
theorem naturalWithinHorizon_of_accounts {outcomes : List CaseOutcome}
    (hcomes : List.Forall₂ (dataset.Comes EvaluationPolicy.naturalRecovery.asPolicy)
      dataset.scenarios outcomes)
    (haccounts : List.Forall₂ dataset.Accounts dataset.scenarios outcomes) :
    dataset.NaturalWithinHorizon := by
  unfold NaturalWithinHorizon
  generalize dataset.scenarios = scenarios at hcomes haccounts ⊢
  induction hcomes with
  | nil => exact fun scenario hmem => absurd hmem List.not_mem_nil
  | cons hfirst hrest ih =>
    obtain ⟨hfirstAccounts, hrestAccounts⟩ := List.forall₂_cons.mp haccounts
    refine List.forall_mem_cons.mpr ⟨fun merchantPolicy hmerchant => ?_, ih hrestAccounts⟩
    have hidle := hfirst.idle
    obtain ⟨_, hcomesBy, hcase⟩ := hfirst
    obtain ⟨_, haccountsBy, hcaseAccounts⟩ := hfirstAccounts
    obtain rfl := Option.some.inj (hmerchant.symm.trans hcomesBy)
    obtain rfl := Option.some.inj (hmerchant.symm.trans haccountsBy)
    exact CaseRun.withinHorizon_of_accounts hcase hidle hcaseAccounts

end ScenarioDataset

/-! ## The accounts of a dataset -/

structure PairAccounts (candidate reference : PolicyResult) (comparison : PairedComparison) :
    Prop where
  delta : ∃ deltas, caseDeltas candidate.caseOutcomes reference.caseOutcomes = .ok deltas ∧
    comparison.deltaNetValueMinor = (deltas.map fun delta => delta.delta).sum
  cases : comparison.wins + comparison.losses + comparison.ties = candidate.metrics.totalCases
  interval : comparison.confidenceInterval.lowMinor ≤ comparison.confidenceInterval.highMinor
  supports : comparison.supportsImprovement = true →
    0 < comparison.confidenceInterval.lowMinor ∧
      candidate.metrics.hardSafetyViolations ≤ reference.metrics.hardSafetyViolations

variable [Hashlib]

/-- The accounts of every run of the dataset, and of every comparison of two. -/
structure Accounting (dataset : ScenarioDataset) : Prop where
  cases : ∀ policy result, runPolicy dataset policy = .ok result →
    List.Forall₂ dataset.Accounts dataset.scenarios result.caseOutcomes
  natural : ∀ policy policy' result result', runPolicy dataset policy = .ok result →
    runPolicy dataset policy' = .ok result' →
      (result.caseOutcomes.map fun outcome => outcome.naturalRecovered) =
        result'.caseOutcomes.map fun outcome => outcome.naturalRecovered
  sums : ∀ policy result, runPolicy dataset policy = .ok result →
    MetricsAddUp result.metrics result.caseOutcomes
  comparisons : ∀ policy policy' candidate reference seed bootstrapSamples comparison,
    runPolicy dataset policy = .ok candidate → runPolicy dataset policy' = .ok reference →
      pairedComparison seed candidate reference bootstrapSamples = .ok comparison →
        PairAccounts candidate reference comparison

variable {seed bootstrapSamples : Int} {candidate reference : PolicyResult}
  {comparison : PairedComparison}

/-- What a comparison that is made says of its cases. -/
theorem pairedComparison_spec
    (h : pairedComparison seed candidate reference bootstrapSamples = .ok comparison) :
    ∃ deltas, caseDeltas candidate.caseOutcomes reference.caseOutcomes = .ok deltas ∧
      comparison.deltaNetValueMinor = candidate.metrics.netSimulatedIncrementalValueMinor -
        reference.metrics.netSimulatedIncrementalValueMinor ∧
      comparison.wins + comparison.losses + comparison.ties = deltas.length ∧
      comparison.confidenceInterval.lowMinor ≤ comparison.confidenceInterval.highMinor ∧
      (comparison.supportsImprovement = true →
        0 < comparison.confidenceInterval.lowMinor ∧
          candidate.metrics.hardSafetyViolations ≤ reference.metrics.hardSafetyViolations) := by
  unfold pairedComparison at h
  simp only [bind_ok_iff, pure_ok_iff, raiseIf_ok_iff] at h
  obtain ⟨_, -, deltas, hdeltas, interval, hinterval, rfl⟩ := h
  refine ⟨deltas, hdeltas, rfl, countP_outcomes deltas, low_le_high hinterval, fun hsupports => ?_⟩
  have hboth := Bool.and_eq_true_iff.mp hsupports
  have hsafety := of_decide_eq_true hboth.1
  exact ⟨of_decide_eq_true hboth.2, by omega⟩

theorem exists_comparison (seed : Int) (result : PolicyResult) :
    ∃ comparison, pairedComparison seed result result 1 = .ok comparison := by
  obtain ⟨deltas, hdeltas⟩ := exists_caseDeltas result.caseOutcomes
  obtain ⟨interval, hinterval⟩ := exists_interval seed result.policyKey result.policyKey deltas
  unfold pairedComparison
  simp only [bind_ok_iff, pure_ok_iff, raiseIf_ok_iff]
  exact ⟨_, (), fun h => h rfl, deltas, hdeltas, interval, hinterval, rfl⟩

theorem pairAccounts_of_ok (hdistinct : dataset.DistinctIds) {policy' : Policy}
    (hcandidate : runPolicy dataset policy = .ok candidate)
    (hreference : runPolicy dataset policy' = .ok reference)
    (h : pairedComparison seed candidate reference bootstrapSamples = .ok comparison) :
    PairAccounts candidate reference comparison := by
  obtain ⟨outcomes, hall, rfl⟩ := runPolicy_ok_iff.mp hcandidate
  obtain ⟨outcomes', hall', rfl⟩ := runPolicy_ok_iff.mp hreference
  have hids := ScenarioDataset.map_scenarioId hall
  have hids' := ScenarioDataset.map_scenarioId hall'
  have hnodup : (outcomes.map fun outcome => outcome.scenarioId).Nodup := hids ▸ hdistinct
  obtain ⟨deltas, hdeltas, hnet, hcases, hinterval, hsupports⟩ := pairedComparison_spec h
  refine ⟨⟨deltas, hdeltas, ?_⟩, ?_, hinterval, hsupports⟩
  · rw [hnet, sum_caseDeltas hnodup (hids.trans hids'.symm) hdeltas]
    rfl
  · rw [hcases, length_caseDeltas hdeltas]
    show (outcomes.map fun outcome => outcome.scenarioId).dedup.length = outcomes.length
    rw [List.Nodup.dedup hnodup, List.length_map]

/-- Comparisons that count every case show that the scenarios have ids of their own. -/
theorem distinctIds_of_accounting (h : Accounting dataset)
    (hresult : runPolicy dataset policy = .ok result) : dataset.DistinctIds := by
  obtain ⟨comparison, hcomparison⟩ := exists_comparison 0 result
  have hcases := (h.comparisons policy policy result result 0 1 comparison hresult hresult
    hcomparison).cases
  obtain ⟨outcomes, hall, rfl⟩ := runPolicy_ok_iff.mp hresult
  obtain ⟨deltas, hdeltas, -, hcount, -⟩ := pairedComparison_spec hcomparison
  have hlength : (outcomes.map fun outcome => outcome.scenarioId).dedup.length =
      (outcomes.map fun outcome => outcome.scenarioId).length := by
    rw [List.length_map]
    exact (length_caseDeltas hdeltas).symm.trans (hcount.symm.trans hcases)
  unfold ScenarioDataset.DistinctIds
  rw [← ScenarioDataset.map_scenarioId hall,
    ← (List.dedup_sublist _).eq_of_length hlength]
  exact List.nodup_dedup _

/-- **The accounts of a dataset are right** exactly if no order recovers by itself after its
horizon, and every scenario has an id of its own, or if the dataset cannot be replayed. -/
theorem accounting_iff :
    Accounting dataset ↔
      (dataset.Replayable → dataset.NaturalWithinHorizon ∧ dataset.DistinctIds) := by
  constructor
  · intro h hreplayable
    obtain ⟨result, hresult⟩ := hreplayable.exists_ok
    have haccounts := h.cases _ result hresult
    refine ⟨?_, distinctIds_of_accounting h hresult⟩
    obtain ⟨outcomes, hall, rfl⟩ := runPolicy_ok_iff.mp hresult
    exact ScenarioDataset.naturalWithinHorizon_of_accounts hall haccounts
  · intro h
    have hcases : ∀ policy result, runPolicy dataset policy = .ok result →
        List.Forall₂ dataset.Accounts dataset.scenarios result.caseOutcomes := by
      intro policy result hresult
      have hwithin := (h (ScenarioDataset.replayable_of_ok hresult)).1
      obtain ⟨outcomes, hall, rfl⟩ := runPolicy_ok_iff.mp hresult
      exact ScenarioDataset.accounts_of_comes hall hwithin
    refine ⟨hcases, ?_, ?_, ?_⟩
    · intro policy policy' result result' hresult hresult'
      rw [ScenarioDataset.map_naturalRecovered (hcases policy result hresult),
        ScenarioDataset.map_naturalRecovered (hcases policy' result' hresult')]
    · intro policy result hresult
      obtain ⟨outcomes, -, rfl⟩ := runPolicy_ok_iff.mp hresult
      exact metricsAddUp_aggregateMetrics outcomes
    · intro policy policy' candidate reference seed bootstrapSamples comparison hcandidate
        hreference hcomparison
      exact pairAccounts_of_ok (h (ScenarioDataset.replayable_of_ok hcandidate)).2 hcandidate
        hreference hcomparison

end

/-! ## A recovery after nine hours -/

namespace LateRecovery

/-- The order is paid an hour after the horizon of its merchant. -/
def scenario : Scenario where
  toObservableCase := LateCapture.observable
  latentCause := .lateAuthorization
  naturalRecoveryAtMs := some 32400000
  incidentScope := none
  events := [LateCapture.failed]
  potentialOutcomes := [⟨.genericLink, true, 60000⟩]
  deliveryMutations := []
  adversarialFlags := []

def dataset : ScenarioDataset := ⟨[scenario], [LateCapture.merchantPolicy], {}⟩

theorem merchantPolicyOf_scenario :
    dataset.merchantPolicyOf scenario.merchantId = some LateCapture.merchantPolicy := rfl

theorem replayable : dataset.Replayable := by
  intro scenario' hmem
  obtain rfl : scenario' = scenario := List.mem_singleton.mp hmem
  refine ⟨_, merchantPolicyOf_scenario, fun opened hopened => ⟨hopened, ?_⟩⟩
  intro event hmem atMs hat
  have hevents : accepted LateCapture.merchantPolicy scenario = [LateCapture.failed] := rfl
  rw [hevents, List.mem_singleton] at hmem
  rw [hmem] at hat
  rw [← Option.some.inj hat]
  omega

/-- **Nothing recovered within the horizon, and a time of recovery is published.** -/
theorem not_accounting : ¬Accounting dataset := by
  intro h
  obtain ⟨result, hresult⟩ := replayable.exists_ok
  have haccounts := h.cases _ result hresult
  obtain ⟨outcomes, hall, rfl⟩ := runPolicy_ok_iff.mp hresult
  have hwithin := ScenarioDataset.naturalWithinHorizon_of_accounts hall haccounts scenario
    (List.mem_singleton_self _) _ merchantPolicyOf_scenario 32400000 rfl
  exact absurd hwithin (by decide)

end LateRecovery

end Retrywise.Simulator
