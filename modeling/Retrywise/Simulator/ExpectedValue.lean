import Retrywise.Simulator.Policies

/-!
# Selection by the expected value

`policies.py`, `RetryWisePolicy.choose_action`. Once a diagnosis is there that a link can mend, the
policy compares what a generic and what an alternative link are expected to bring. The costs are
taken off the value of the generic link alone.

> `byExpectedValue_eq`: the choice, in terms of what the links are expected to bring.

> `choosesBest_iff`: the policy chooses the best of the three actions exactly if its costs make no
> difference between the links.
-/

namespace Retrywise.Simulator

open Retrywise.Foundation Retrywise.Domain Retrywise.ControlPlane

namespace RetryWisePolicy

/-! ## The best action -/

/-- What an action is worth: nothing is lost or won without a link. -/
def worth (generic alternative : Int) : ActionKind → Int
  | .noAction => 0
  | .genericLink => generic
  | .alternativeLink => alternative

/-- Of actions that are worth the same, the first one is taken. -/
def rank : ActionKind → Nat
  | .noAction => 0
  | .genericLink => 1
  | .alternativeLink => 2

/-- The action is worth most, and the first of those that are. -/
def Best (generic alternative : Int) (action : ActionKind) : Prop :=
  ∀ other, worth generic alternative other < worth generic alternative action ∨
    worth generic alternative other = worth generic alternative action ∧ rank action ≤ rank other

/-- The action that is best. -/
def bestAction (generic alternative : Int) : ActionKind :=
  if max generic alternative ≤ 0 then .noAction
  else if generic < alternative then .alternativeLink
  else .genericLink

theorem best_bestAction (generic alternative : Int) :
    Best generic alternative (bestAction generic alternative) := by
  intro other
  unfold bestAction
  split
  next h =>
    cases other with
    | noAction => exact Or.inr ⟨rfl, le_refl _⟩
    | genericLink => simp only [worth, rank]; omega
    | alternativeLink => simp only [worth, rank]; omega
  next h =>
    split
    next h' =>
      cases other with
      | noAction => simp only [worth, rank]; omega
      | genericLink => simp only [worth, rank]; omega
      | alternativeLink => exact Or.inr ⟨rfl, le_refl _⟩
    next h' =>
      cases other with
      | noAction => simp only [worth, rank]; omega
      | genericLink => exact Or.inr ⟨rfl, le_refl _⟩
      | alternativeLink => simp only [worth, rank]; omega

theorem rank_inj {a b : ActionKind} (h : rank a = rank b) : a = b := by
  cases a <;> cases b <;> first | rfl | exact absurd h (by simp [rank])

/-- **There is one best action.** -/
theorem best_iff {generic alternative : Int} {action : ActionKind} :
    Best generic alternative action ↔ action = bestAction generic alternative := by
  constructor
  · intro h
    have hbest := best_bestAction generic alternative action
    apply rank_inj
    rcases h (bestAction generic alternative) with hlt | ⟨heq, hle⟩
    · omega
    · omega
  · rintro rfl
    exact best_bestAction generic alternative

/-! ## What a link is expected to bring -/

variable {observed : ObservedCase} {costs : CostAssumptions} {incident : Bool}
  {modelReason : String} {probabilities : Rat × Rat} {model : Inference}
  {diagnosis : DiagnosisResult}

/-- `propensity_factor`. -/
def propensityFactor (observed : ObservedCase) : Except SimulationError Rat := do
  let weighted ← operate (75 / 100 * observed.customerResponseScore.value)
  operate (55 / 100 + weighted)

/-- The floored amount, times the capped and scaled probability of a link. -/
def expectedReturn (observed : ObservedCase) (probability : Rat) : Except SimulationError Int := do
  let factor ← propensityFactor observed
  let scaled ← operate (probability * factor)
  expectedValue observed.amountMinor scaled

theorem operate_of_digits {n e : Int} (hdigits : |n| < 10 ^ 28) (hlow : -1000 ≤ e)
    (hhigh : e ≤ 1000) : operate (n * 10 ^ e) = .ok (n * 10 ^ e) := by
  have hfix : defaultContext.fix (n * 10 ^ e) = .ok (n * 10 ^ e) :=
    DecimalContext.fix_of_digits hdigits (le_trans (by decide) hlow)
      (le_trans (add_le_add_right hhigh _) (by decide))
  unfold operate
  rw [hfix]

/-- The costs that every link has. -/
def fixedCost (costs : CostAssumptions) : Int :=
  costs.communicationCostMinor + costs.actionCostMinor

/-- The choice of the policy: the costs are those of the generic link alone. -/
def chosen (generic alternative cost : Int) : ActionKind :=
  if max (generic - cost) alternative ≤ 0 then .noAction
  else if alternative > generic - cost then .alternativeLink
  else .genericLink

/-- **The choice, in terms of what the links are expected to bring.** -/
theorem byExpectedValue_eq {action : ActionKind} :
    (∃ reasons, byExpectedValue observed costs incident modelReason probabilities =
        .ok (action, reasons)) ↔
      ∃ generic alternative, expectedReturn observed probabilities.1 = .ok generic ∧
        expectedReturn observed probabilities.2 = .ok alternative ∧
        chosen generic alternative (fixedCost costs) = action := by
  unfold byExpectedValue expectedReturn propensityFactor chosen fixedCost
  simp only [bind_ok_iff]
  constructor
  · rintro ⟨reasons, weighted, hweighted, factor, hfactor, first, hfirst, second, hsecond, generic,
      hgeneric, alternative, halternative, hchosen⟩
    refine ⟨generic, alternative, ⟨factor, ⟨weighted, hweighted, hfactor⟩, first, hfirst, hgeneric⟩,
      ⟨factor, ⟨weighted, hweighted, hfactor⟩, second, hsecond, halternative⟩, ?_⟩
    split at hchosen
    next h =>
      rw [if_pos h]
      exact (Prod.mk.inj (pure_ok_iff.mp hchosen)).1
    next h =>
      rw [if_neg h]
      split at hchosen
      next h' =>
        rw [if_pos h']
        exact (Prod.mk.inj (pure_ok_iff.mp hchosen)).1
      next h' =>
        rw [if_neg h']
        exact (Prod.mk.inj (pure_ok_iff.mp hchosen)).1
  · rintro ⟨generic, alternative, ⟨factor, ⟨weighted, hweighted, hfactor⟩, first, hfirst, hgeneric⟩,
      ⟨factor', ⟨weighted', hweighted', hfactor'⟩, second, hsecond, halternative⟩, rfl⟩
    -- the factor is one and the same
    obtain rfl : weighted = weighted' := Except.ok.inj (hweighted.symm.trans hweighted')
    obtain rfl : factor = factor' := Except.ok.inj (hfactor.symm.trans hfactor')
    by_cases h : max (generic - (costs.communicationCostMinor + costs.actionCostMinor))
        alternative ≤ 0
    · refine ⟨["non_positive_expected_value", modelReason], weighted, hweighted, factor, hfactor,
        first, hfirst, second, hsecond, generic, hgeneric, alternative, halternative, ?_⟩
      rw [if_pos h, if_pos h]
      rfl
    · by_cases h' : alternative > generic - (costs.communicationCostMinor + costs.actionCostMinor)
      · refine ⟨[if incident then "incident_alternative_method" else "alternative_expected_value",
          "positive_expected_value", modelReason], weighted, hweighted, factor, hfactor, first,
          hfirst, second, hsecond, generic, hgeneric, alternative, halternative, ?_⟩
        rw [if_neg h, if_neg h, if_pos h', if_pos h']
        rfl
      · refine ⟨["generic_link_expected_value", "positive_expected_value", modelReason], weighted,
          hweighted, factor, hfactor, first, hfirst, second, hsecond, generic, hgeneric,
          alternative, halternative, ?_⟩
        rw [if_neg h, if_neg h, if_neg h', if_neg h']
        rfl

/-- The diagnosis of the case is one that a link can mend. -/
structure Mendable (model : Inference) (observed : ObservedCase) (diagnosis : DiagnosisResult)
    (probabilities : Rat × Rat) : Prop where
  inferred : model (diagnosisFeatures observed observed.incident) = .ok diagnosis
  certain : diagnosis.abstained = false
  recoverable : actionProbabilities diagnosis.predictedClass = some probabilities

theorem chooseAction_eq (h : Mendable model observed diagnosis probabilities) :
    chooseAction model observed costs = byExpectedValue observed costs observed.incident
      (s!"diagnosis_{diagnosis.predictedClass.value}") probabilities := by
  unfold chooseAction
  dsimp only
  rw [h.inferred]
  dsimp only
  rw [h.certain, h.recoverable]
  rfl

/-! ## The best of the three -/

/-- The policy chooses the best action, with the costs taken off the value of either link. -/
def ChoosesBest (model : Inference) (observed : ObservedCase) (costs : CostAssumptions)
    (probabilities : Rat × Rat) : Prop :=
  ∃ generic alternative action reasons,
    expectedReturn observed probabilities.1 = .ok generic ∧
    expectedReturn observed probabilities.2 = .ok alternative ∧
    chooseAction model observed costs = .ok (action, reasons) ∧
    Best (generic - fixedCost costs) (alternative - fixedCost costs) action

/-- The costs make no difference between the links: where they eat up either return the
alternative link has none, and elsewhere the alternative link returns more than the generic one,
or less by the costs at least. -/
def CostsMatterNot (generic alternative cost : Int) : Prop :=
  if max generic alternative ≤ cost then alternative ≤ 0
  else generic < alternative ∨ alternative + cost ≤ generic

theorem chosen_eq_bestAction_iff {generic alternative cost : Int} (hcost : 0 ≤ cost) :
    chosen generic alternative cost = bestAction (generic - cost) (alternative - cost) ↔
      CostsMatterNot generic alternative cost := by
  unfold chosen bestAction CostsMatterNot
  by_cases hlost : max generic alternative ≤ cost
  · -- nothing is to be won, and the policy sends what returns anything
    have hbest : max (generic - cost) (alternative - cost) ≤ 0 := by omega
    rw [if_pos hbest, if_pos hlost]
    by_cases h : max (generic - cost) alternative ≤ 0
    · rw [if_pos h]
      exact ⟨fun _ => by omega, fun _ => rfl⟩
    · rw [if_neg h, if_pos (show alternative > generic - cost by omega)]
      exact ⟨fun heq => absurd heq (by simp), fun _ => by omega⟩
  · have hbest : ¬max (generic - cost) (alternative - cost) ≤ 0 := by omega
    rw [if_neg hbest, if_neg hlost, if_neg (show ¬max (generic - cost) alternative ≤ 0 by omega)]
    by_cases hmore : generic < alternative
    · rw [if_pos (show alternative > generic - cost by omega),
        if_pos (show generic - cost < alternative - cost by omega)]
      exact ⟨fun _ => Or.inl hmore, fun _ => rfl⟩
    · rw [if_neg (show ¬generic - cost < alternative - cost by omega)]
      by_cases hclose : alternative > generic - cost
      · rw [if_pos hclose]
        exact ⟨fun heq => absurd heq (by simp), fun h => by omega⟩
      · rw [if_neg hclose]
        exact ⟨fun _ => Or.inr (by omega), fun _ => rfl⟩

/-- The decimals are in range, and the costs make no difference. -/
def CostsDecideNothing (observed : ObservedCase) (costs : CostAssumptions)
    (probabilities : Rat × Rat) : Prop :=
  ∃ generic alternative, expectedReturn observed probabilities.1 = .ok generic ∧
    expectedReturn observed probabilities.2 = .ok alternative ∧
    CostsMatterNot generic alternative (fixedCost costs)

/-- **The policy chooses the best of the three actions** exactly if its costs make no difference
between the links. -/
theorem choosesBest_iff (hdiagnosis : Mendable model observed diagnosis probabilities)
    (hcommunication : 0 ≤ costs.communicationCostMinor) (haction : 0 ≤ costs.actionCostMinor) :
    ChoosesBest model observed costs probabilities ↔
      CostsDecideNothing observed costs probabilities := by
  have hcost : 0 ≤ fixedCost costs := add_nonneg hcommunication haction
  constructor
  · rintro ⟨generic, alternative, action, reasons, hgeneric, halternative, hchosen, hbest⟩
    refine ⟨generic, alternative, hgeneric, halternative, ?_⟩
    rw [chooseAction_eq hdiagnosis] at hchosen
    obtain ⟨generic', alternative', hgeneric', halternative', hmade⟩ :=
      byExpectedValue_eq.mp ⟨reasons, hchosen⟩
    obtain rfl : generic = generic' := Except.ok.inj (hgeneric.symm.trans hgeneric')
    obtain rfl : alternative = alternative' :=
      Except.ok.inj (halternative.symm.trans halternative')
    rw [← chosen_eq_bestAction_iff hcost, hmade]
    exact best_iff.mp hbest
  · rintro ⟨generic, alternative, hgeneric, halternative, hmatters⟩
    have hmade : ∃ reasons, chooseAction model observed costs =
        .ok (chosen generic alternative (fixedCost costs), reasons) := by
      rw [chooseAction_eq hdiagnosis]
      exact byExpectedValue_eq.mpr ⟨generic, alternative, hgeneric, halternative, rfl⟩
    obtain ⟨reasons, hchosen⟩ := hmade
    refine ⟨generic, alternative, _, reasons, hgeneric, halternative, hchosen, ?_⟩
    rw [best_iff]
    exact (chosen_eq_bestAction_iff hcost).mpr hmatters

end RetryWisePolicy

/-! ## An order of four rupees -/

namespace SmallOrder

open RetryWisePolicy

def observed : ObservedCase where
  scenarioId := "scenario-1"
  merchantId := "merchant-1"
  amountMinor := 400
  currency := "INR"
  method := "upi"
  observableError := "incorrect_upi_pin"
  customerResponseScore := ⟨false, 6, -1⟩
  consentToContact := true
  failureLocalHour := 12
  anomalyScore := ⟨false, 1, -1⟩
  providerIncidentSignal := false

def diagnosis : DiagnosisResult where
  artifactVersion := "artifact_1"
  predictedClass := .customerCorrectable
  confidence := ⟨⟨false, 1, 0⟩, Decimal.nonneg_one, Decimal.one_le_one⟩
  classProbabilities := []
  abstained := false
  outOfDistribution := false
  featureSnapshot := ⟨[], [], []⟩
  provenance := {}

def model : Inference := fun _ => .ok diagnosis

theorem mendable : Mendable model observed diagnosis (50 / 100, 66 / 100) where
  inferred := rfl
  certain := rfl
  recoverable := rfl

/-- The customer is as likely to respond as the table of probabilities has it. -/
theorem propensityFactor_observed : propensityFactor observed = .ok 1 := by
  have hweighted : operate (75 / 100 * observed.customerResponseScore.value) = .ok (45 / 100) := by
    rw [show (75 / 100 * observed.customerResponseScore.value : Rat) = (45 : Int) * 10 ^ (-2 : Int)
      by norm_num [observed, Decimal.value], operate_of_digits (by decide) (by decide) (by decide)]
    norm_num
  have hfactor : operate (55 / 100 + 45 / 100) = .ok 1 := by
    rw [show (55 / 100 + 45 / 100 : Rat) = (1 : Int) * 10 ^ (0 : Int) by norm_num,
      operate_of_digits (by decide) (by decide) (by decide)]
    norm_num
  unfold propensityFactor
  rw [bind_of_ok hweighted, hfactor]

theorem expectedReturn_generic : expectedReturn observed (50 / 100) = .ok 200 := by
  have hscaled : operate (50 / 100 * 1) = .ok (50 / 100) := by
    rw [show (50 / 100 * 1 : Rat) = (5 : Int) * 10 ^ (-1 : Int) by norm_num,
      operate_of_digits (by decide) (by decide) (by decide)]
    norm_num
  have hproduct : operate ((400 : Int) * min (50 / 100) (95 / 100)) = .ok 200 := by
    rw [show ((400 : Int) * min (50 / 100) (95 / 100) : Rat) = (200 : Int) * 10 ^ (0 : Int)
      by norm_num, operate_of_digits (by decide) (by decide) (by decide)]
    norm_num
  unfold expectedReturn expectedValue
  rw [bind_of_ok propensityFactor_observed, bind_of_ok hscaled]
  show (operate ((400 : Int) * min (50 / 100) (95 / 100)) >>= _) = _
  rw [bind_of_ok hproduct]
  norm_num [pure_eq_ok]

theorem expectedReturn_alternative : expectedReturn observed (66 / 100) = .ok 264 := by
  have hscaled : operate (66 / 100 * 1) = .ok (66 / 100) := by
    rw [show (66 / 100 * 1 : Rat) = (66 : Int) * 10 ^ (-2 : Int) by norm_num,
      operate_of_digits (by decide) (by decide) (by decide)]
    norm_num
  have hproduct : operate ((400 : Int) * min (66 / 100) (95 / 100)) = .ok 264 := by
    rw [show ((400 : Int) * min (66 / 100) (95 / 100) : Rat) = (264 : Int) * 10 ^ (0 : Int)
      by norm_num, operate_of_digits (by decide) (by decide) (by decide)]
    norm_num
  unfold expectedReturn expectedValue
  rw [bind_of_ok propensityFactor_observed, bind_of_ok hscaled]
  show (operate ((400 : Int) * min (66 / 100) (95 / 100)) >>= _) = _
  rw [bind_of_ok hproduct]
  norm_num [pure_eq_ok]

/-- **The alternative link is sent at a loss**: it is expected to bring 264, and costs 300. -/
theorem not_choosesBest : ¬ChoosesBest model observed {} (50 / 100, 66 / 100) := by
  rintro ⟨generic, alternative, action, reasons, hgeneric, halternative, hchosen, hbest⟩
  obtain rfl : 200 = generic := Except.ok.inj (expectedReturn_generic.symm.trans hgeneric)
  obtain rfl : 264 = alternative :=
    Except.ok.inj (expectedReturn_alternative.symm.trans halternative)
  rw [chooseAction_eq mendable] at hchosen
  obtain ⟨generic, alternative, hgeneric', halternative', hmade⟩ :=
    byExpectedValue_eq.mp ⟨reasons, hchosen⟩
  obtain rfl : 200 = generic := Except.ok.inj (expectedReturn_generic.symm.trans hgeneric')
  obtain rfl : 264 = alternative :=
    Except.ok.inj (expectedReturn_alternative.symm.trans halternative')
  have hidle : action = .noAction := best_iff.mp hbest
  have hsent : action = .alternativeLink := hmade.symm
  exact absurd (hidle.symm.trans hsent) (by simp)

theorem choosesBest_small :
    ChoosesBest model observed {} (50 / 100, 66 / 100) ↔
      CostsDecideNothing observed {} (50 / 100, 66 / 100) :=
  choosesBest_iff mendable (by decide) (by decide)

end SmallOrder

end Retrywise.Simulator
