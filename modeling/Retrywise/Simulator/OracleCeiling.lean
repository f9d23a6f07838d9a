import Retrywise.Simulator.QuietHours

/-!
# The oracle as a ceiling

`policies.py`, `OraclePolicy`. The oracle is handed the scenario and sends the link that recovers
first. It asks neither for the horizon nor for the costs, sends at once, and leaves a case alone
that recovers naturally, however late.

> `netIncrementalValueMinor_eq`: what a case comes to whose links are checked.

> `ceiling_iff`: no policy whose links are checked does better than the oracle, exactly if the link
> of the oracle is worth what it costs, or else no link is worth it that goes out as early as
> the quiet hours let it.
-/

namespace Retrywise.Simulator

open Retrywise.Foundation Retrywise.Domain Retrywise.ControlPlane

section

variable {merchantPolicy : MerchantPolicy} {costs : CostAssumptions} {scenario : Scenario}
  {policy : Policy} {run : CaseRun} {t u opened : Int} {decision : PolicyDecision}
  {outcome best : CaseOutcome} {potential : PotentialOutcome} {action : ActionKind}

/-! ## What a link is worth -/

/-- What every link costs that goes out. -/
def CostAssumptions.outlay (costs : CostAssumptions) : Int :=
  costs.communicationCostMinor + costs.actionCostMinor + costs.incentiveCostMinor

structure CostAssumptions.NonNegative (costs : CostAssumptions) : Prop where
  communication : 0 ≤ costs.communicationCostMinor
  action : 0 ≤ costs.actionCostMinor
  incentive : 0 ≤ costs.incentiveCostMinor
  friction : 0 ≤ costs.frictionPenaltyMinor
  duplicate : 0 ≤ costs.duplicatePenaltyMinor

theorem CostAssumptions.NonNegative.outlay (h : costs.NonNegative) : 0 ≤ costs.outlay := by
  have hcommunication := h.communication
  have haction := h.action
  have hincentive := h.incentive
  unfold CostAssumptions.outlay
  omega

/-- A link that goes out at a time is paid within the horizon. -/
def Paid (merchantPolicy : MerchantPolicy) (potential : PotentialOutcome) (t : Int) : Prop :=
  potential.wouldRecover = true ∧
    t + potential.recoveryDelayMs ≤ merchantPolicy.recoveryHorizonMs

instance : Decidable (Paid merchantPolicy potential t) :=
  inferInstanceAs (Decidable (_ ∧ _))

/-- What a link is worth that goes out at a time. -/
def linkValue (merchantPolicy : MerchantPolicy) (costs : CostAssumptions) (scenario : Scenario)
    (potential : PotentialOutcome) (t : Int) : Int :=
  if Paid merchantPolicy potential t then
    if RecoversNaturally merchantPolicy scenario then
      -(costs.outlay + costs.frictionPenaltyMinor +
        (scenario.amountMinor + costs.duplicatePenaltyMinor))
    else scenario.amountMinor - costs.outlay
  else -(costs.outlay + costs.frictionPenaltyMinor)

/-- A payment of the order is a gain: it is worth more than it costs, and nothing else pays the
order. (A second payment is a loss, unless the amount is negative.) -/
def PaymentGains (merchantPolicy : MerchantPolicy) (costs : CostAssumptions)
    (scenario : Scenario) : Prop :=
  if RecoversNaturally merchantPolicy scenario then
    costs.outlay + costs.frictionPenaltyMinor +
      (scenario.amountMinor + costs.duplicatePenaltyMinor) < 0
  else costs.outlay < scenario.amountMinor

theorem linkValue_pos_iff (hcosts : costs.NonNegative) :
    0 < linkValue merchantPolicy costs scenario potential t ↔
      Paid merchantPolicy potential t ∧ PaymentGains merchantPolicy costs scenario := by
  have houtlay := hcosts.outlay
  have hfriction := hcosts.friction
  unfold linkValue PaymentGains
  by_cases hpaid : Paid merchantPolicy potential t
  · rw [if_pos hpaid]
    rw [and_iff_right hpaid]
    split
    next => omega
    next => omega
  · rw [if_neg hpaid]
    constructor
    · intro h
      omega
    · intro h
      exact absurd h.1 hpaid

/-! ## What a case comes to -/

namespace CaseRun

theorem execute_value {decisionAt : Int} :
    (run.execute opened decisionAt decision t potential).netIncrementalValueMinor =
      linkValue run.merchantPolicy run.costs run.scenario potential t := by
  have hpaid : run.recoversAt potential t = true ↔ Paid run.merchantPolicy potential t := by
    unfold recoversAt Paid
    rw [Bool.and_eq_true, decide_eq_true_eq]
  have hnatural : run.naturalRecovered = true ↔
      RecoversNaturally run.merchantPolicy run.scenario := Iff.rfl
  unfold execute makeOutcome linkValue CostAssumptions.outlay
  dsimp only
  by_cases h : Paid run.merchantPolicy potential t
  · rw [if_pos h, hpaid.mpr h]
    by_cases h' : RecoversNaturally run.merchantPolicy run.scenario
    · -- the order is paid twice
      rw [if_pos h', hnatural.mpr h']
      simp only [Bool.not_true, Bool.and_false, Bool.false_eq_true, if_false, Bool.not_false,
        if_true, Bool.and_self]
      omega
    · rw [if_neg h', Bool.eq_false_iff.mpr (mt hnatural.mp h')]
      simp only [Bool.not_true, Bool.and_false, Bool.false_eq_true, if_false, Bool.not_false,
        if_true, Bool.and_self]
      omega
  · rw [if_neg h, Bool.eq_false_iff.mpr (mt hpaid.mp h)]
    simp only [Bool.false_and, Bool.false_eq_true, if_false, Bool.not_false, if_true]
    omega

/-- **What a case comes to** whose links are checked: nothing, or what its link is worth. -/
theorem netIncrementalValueMinor_eq (hgated : run.Gated) (h : run.outcome = .ok outcome) :
    outcome.netIncrementalValueMinor = 0 ∨
      ∃ opened decision potential, run.Sends opened decision ∧
        run.scenario.outcomeFor decision.action = some potential ∧
        outcome.netIncrementalValueMinor =
          linkValue run.merchantPolicy run.costs run.scenario potential
            (sendingTime run.scenario run.merchantPolicy
              (opened + decision.observationDelayMs)) := by
  cases outcome_ok_iff.mp h with
  | notOpened => exact Or.inl rfl
  | abstained => exact Or.inl (by simp [abstain, makeOutcome])
  | suppressed => exact Or.inl (by simp [suppress, makeOutcome])
  | executed hopens haction hverdict hpassed hpotential =>
    have hdecision := hgated _ _ hopens.decided_eq
    rw [← hverdict] at hpassed ⊢
    have hgoes := (safetyGate_passes_iff hdecision).mp hpassed
    refine Or.inr ⟨_, _, _, ⟨hopens, haction, hgoes, _, hpotential⟩, hpotential, ?_⟩
    rw [execute_value, safetyGate_executionAt hdecision hgoes]

/-- A case in which a link goes out comes to what the link is worth. -/
theorem Sends.outcome_ok (h : run.Sends opened decision) (hgated : run.Gated)
    (hpotential : run.scenario.outcomeFor decision.action = some potential) :
    ∃ outcome, run.outcome = .ok outcome ∧
      outcome.netIncrementalValueMinor =
        linkValue run.merchantPolicy run.costs run.scenario potential
          (sendingTime run.scenario run.merchantPolicy
            (opened + decision.observationDelayMs)) := by
  have hdecision := hgated _ _ h.opens.decided_eq
  refine ⟨_, outcome_ok_iff.mpr (.executed h.opens h.link rfl
    ((safetyGate_passes_iff hdecision).mpr h.goesOut) hpotential), ?_⟩
  rw [execute_value, safetyGate_executionAt hdecision h.goesOut]

end CaseRun

/-! ## Links that pay -/

/-- Some link pays that goes out at a time. -/
def SomeLinkPays (merchantPolicy : MerchantPolicy) (costs : CostAssumptions) (scenario : Scenario)
    (t : Int) : Prop :=
  t ≤ merchantPolicy.recoveryHorizonMs ∧ scenario.naturalBy t = false ∧
    PaymentGains merchantPolicy costs scenario ∧
    ∃ action potential, action ≠ ActionKind.noAction ∧
      scenario.outcomeFor action = some potential ∧ Paid merchantPolicy potential t

theorem naturalBy_mono (h : scenario.naturalBy u = false) (hle : t ≤ u) :
    scenario.naturalBy t = false := by
  unfold Scenario.naturalBy at h ⊢
  cases hnatural : scenario.naturalRecoveryAtMs with
  | none => rfl
  | some natural =>
    rw [hnatural] at h
    simp only [Option.any_some, decide_eq_false_iff_not] at h ⊢
    omega

/-- **A link that pays would have paid earlier as well.** -/
theorem SomeLinkPays.mono (h : SomeLinkPays merchantPolicy costs scenario u) (hle : t ≤ u) :
    SomeLinkPays merchantPolicy costs scenario t := by
  obtain ⟨hhorizon, hnatural, hgains, action, potential, haction, hpotential, hrecovers, hpaid⟩ := h
  refine ⟨le_trans hle hhorizon, naturalBy_mono hnatural hle, hgains, action, potential, haction,
    hpotential, hrecovers, ?_⟩
  omega

/-! ## Other policies -/

/-- The policy that decides the same of every case, and has its links checked. -/
def fixedPolicy (action : ActionKind) (observationDelayMs : Int) : Policy where
  key := "fixed"
  displayName := "Fixed"
  deployable := true
  observationDelayMs := fun _ => observationDelayMs
  decide := fun _ _ _ _ => .ok ⟨action, observationDelayMs, ["fixed"], true, true⟩

theorem gated_fixedPolicy {delay : Int} :
    (caseOf merchantPolicy costs scenario (fixedPolicy action delay)).Gated := by
  intro opened decision h
  rw [← Except.ok.inj h]
  exact ⟨rfl, rfl⟩

/-- A link that is not blocked can be sent at every time from the end of the quiet hours on. -/
theorem exists_sent (hopened : Opened merchantPolicy scenario opened)
    (hunblocked : Unblocked scenario merchantPolicy) (haction : action ≠ .noAction)
    (hpotential : scenario.outcomeFor action = some potential)
    (hquiet : quietDelay scenario merchantPolicy ≤ t)
    (hhorizon : t ≤ merchantPolicy.recoveryHorizonMs) (hnatural : scenario.naturalBy t = false) :
    ∃ policy outcome, (caseOf merchantPolicy costs scenario policy).Gated ∧
      (caseOf merchantPolicy costs scenario policy).outcome = .ok outcome ∧
      outcome.netIncrementalValueMinor =
        linkValue merchantPolicy costs scenario potential t := by
  have htime : sendingTime scenario merchantPolicy (opened + (t - opened)) = t := by
    unfold sendingTime
    rw [add_sub_cancel, max_eq_left hquiet]
  have hstarted : 0 ≤ opened + (t - opened) := by
    have hdelay : 0 ≤ quietDelay scenario merchantPolicy := quietDelay_nonneg
    omega
  have hsends : (caseOf merchantPolicy costs scenario (fixedPolicy action (t - opened))).Sends
      opened ⟨action, t - opened, ["fixed"], true, true⟩ :=
    { opens := opens_of_opened hopened rfl hstarted
      link := haction
      goesOut := ⟨hunblocked, htime.symm ▸ hhorizon, htime.symm ▸ hnatural⟩
      potential := ⟨potential, hpotential⟩ }
  obtain ⟨outcome, houtcome, hvalue⟩ := hsends.outcome_ok gated_fixedPolicy hpotential
  refine ⟨_, outcome, gated_fixedPolicy, houtcome, ?_⟩
  rw [hvalue]
  show linkValue _ _ _ _ (sendingTime scenario merchantPolicy (opened + (t - opened))) = _
  rw [htime]
  rfl

/-- A case that is left alone comes to nothing. -/
theorem exists_abstained (costs : CostAssumptions)
    (hopened : Opened merchantPolicy scenario opened) :
    ∃ policy outcome, (caseOf merchantPolicy costs scenario policy).Gated ∧
      (caseOf merchantPolicy costs scenario policy).outcome = .ok outcome ∧
      outcome.netIncrementalValueMinor = 0 := by
  have hnonneg := hopened.nonneg
  have hopens : (caseOf merchantPolicy costs scenario (fixedPolicy .noAction 0)).Opens opened
      ⟨.noAction, 0, ["fixed"], true, true⟩ :=
    opens_of_opened hopened rfl (show 0 ≤ opened + 0 by omega)
  refine ⟨_, _, gated_fixedPolicy, CaseRun.outcome_ok_iff.mpr (.abstained hopens rfl rfl), ?_⟩
  simp [CaseRun.abstain, CaseRun.makeOutcome]

/-! ## The oracle -/

/-- A link of the oracle is one of the scenario's, and the order does not recover without it. -/
theorem decideWithTruth_spec (h : (decideWithTruth scenario).action ≠ .noAction) :
    scenario.naturalRecoveryAtMs = none ∧
      ∃ potential, scenario.outcomeFor (decideWithTruth scenario).action = some potential := by
  unfold decideWithTruth at h ⊢
  dsimp only at h ⊢
  cases hnatural : scenario.naturalRecoveryAtMs with
  | some natural =>
    rw [hnatural] at h
    exact absurd rfl h
  | none =>
    rw [hnatural] at h
    rw [Option.isSome_none, if_neg (by simp)] at h ⊢
    cases hbest : (scenario.potentialOutcomes.filter fun outcome => outcome.wouldRecover).find?
      fun outcome => some outcome.recoveryDelayMs =
        ((scenario.potentialOutcomes.filter fun outcome => outcome.wouldRecover).map
          fun outcome => outcome.recoveryDelayMs).min? with
    | none =>
      rw [hbest] at h
      exact absurd rfl h
    | some potential =>
      have hmem := List.mem_of_mem_filter (List.mem_of_find?_eq_some hbest)
      refine ⟨rfl, Option.isSome_iff_exists.mp ?_⟩
      exact List.find?_isSome.mpr ⟨potential, hmem, decide_eq_true rfl⟩

/-- The oracle always says why. -/
theorem decideWithTruth_reasons :
    ∃ reasonCode, (decideWithTruth scenario).reasonCodes = [reasonCode] := by
  unfold decideWithTruth
  dsimp only
  split
  next => exact ⟨_, rfl⟩
  next =>
    split
    next => exact ⟨_, rfl⟩
    next => exact ⟨_, rfl⟩

theorem gated_oracle :
    (caseOf merchantPolicy costs scenario EvaluationPolicy.oracle.asPolicy).Gated :=
  EvaluationPolicy.gated (show EvaluationPolicy.oracle ≠ .blastAll by simp) rfl

theorem decided_oracle :
    (caseOf merchantPolicy costs scenario EvaluationPolicy.oracle.asPolicy).decided opened =
      .ok (decideWithTruth scenario) := rfl

theorem delay_oracle : opened + (decideWithTruth scenario).observationDelayMs = opened :=
  add_zero opened

theorem opens_oracle (h : Opened merchantPolicy scenario opened) :
    (caseOf merchantPolicy costs scenario EvaluationPolicy.oracle.asPolicy).Opens opened
      (decideWithTruth scenario) :=
  opens_of_opened h decided_oracle (delay_oracle.symm ▸ h.nonneg)

/-- The oracle sends a link: the case is opened at a time, and when the quiet hours are over, the
horizon is not. -/
structure OracleSends (merchantPolicy : MerchantPolicy) (scenario : Scenario) (opened : Int)
    (potential : PotentialOutcome) : Prop where
  link : (decideWithTruth scenario).action ≠ .noAction
  potential_eq : scenario.outcomeFor (decideWithTruth scenario).action = some potential
  inHorizon : sendingTime scenario merchantPolicy opened ≤ merchantPolicy.recoveryHorizonMs

theorem OracleSends.unrecovered (h : OracleSends merchantPolicy scenario opened potential) :
    scenario.naturalBy t = false := by
  obtain ⟨hnatural, -⟩ := decideWithTruth_spec h.link
  unfold Scenario.naturalBy
  rw [hnatural]
  rfl

theorem exists_oracle_outcome (costs : CostAssumptions) (h : Opened merchantPolicy scenario opened) :
    ∃ best, (caseOf merchantPolicy costs scenario EvaluationPolicy.oracle.asPolicy).outcome =
      .ok best := by
  by_cases haction : (decideWithTruth scenario).action = .noAction
  · obtain ⟨reasonCode, hreasons⟩ := @decideWithTruth_reasons scenario
    exact ⟨_, CaseRun.outcome_ok_iff.mpr (.abstained (opens_oracle h) haction hreasons)⟩
  · obtain ⟨-, potential, hpotential⟩ := decideWithTruth_spec haction
    cases hreason : (safetyGate scenario merchantPolicy (decideWithTruth scenario)
      (opened + (decideWithTruth scenario).observationDelayMs)).suppressionReason with
    | some reasonCode =>
      exact ⟨_, CaseRun.outcome_ok_iff.mpr (.suppressed (opens_oracle h) haction rfl hreason)⟩
    | none =>
      exact ⟨_, CaseRun.outcome_ok_iff.mpr
        (.executed (opens_oracle h) haction rfl hreason hpotential)⟩

/-- **What the oracle comes to.** -/
theorem oracle_value (hopened : Opened merchantPolicy scenario opened)
    (hunblocked : Unblocked scenario merchantPolicy)
    (hbest : (caseOf merchantPolicy costs scenario EvaluationPolicy.oracle.asPolicy).outcome =
      .ok best) :
    (∃ potential, OracleSends merchantPolicy scenario opened potential ∧
        best.netIncrementalValueMinor = linkValue merchantPolicy costs scenario potential
          (sendingTime scenario merchantPolicy opened)) ∨
      (∀ potential, ¬OracleSends merchantPolicy scenario opened potential) ∧
        best.netIncrementalValueMinor = 0 := by
  by_cases hsends : ∃ potential, OracleSends merchantPolicy scenario opened potential
  · obtain ⟨potential, h⟩ := hsends
    have hgoes : GoesOut scenario merchantPolicy
        (opened + (decideWithTruth scenario).observationDelayMs) := by
      rw [delay_oracle]
      exact ⟨hunblocked, h.inHorizon, h.unrecovered⟩
    obtain ⟨outcome, houtcome, hvalue⟩ := CaseRun.Sends.outcome_ok
      ⟨opens_oracle hopened, h.link, hgoes, potential, h.potential_eq⟩ gated_oracle h.potential_eq
    rw [Except.ok.inj (hbest.symm.trans houtcome)]
    refine Or.inl ⟨potential, h, ?_⟩
    rw [hvalue, delay_oracle]
    rfl
  · refine Or.inr ⟨not_exists.mp hsends, ?_⟩
    rcases CaseRun.netIncrementalValueMinor_eq gated_oracle hbest with hzero | hsent
    · exact hzero
    · obtain ⟨opened', decision, potential, hsent, hpotential, -⟩ := hsent
      -- a link that the oracle sent would be one of those that it does not send
      obtain rfl : opened = opened' :=
        Option.some.inj (hopened.opened_eq.symm.trans hsent.opens.opened_eq)
      obtain rfl : decideWithTruth scenario = decision :=
        Except.ok.inj (decided_oracle.symm.trans hsent.opens.decided_eq)
      have hhorizon := hsent.goesOut.inHorizon
      rw [delay_oracle] at hhorizon
      exact absurd ⟨potential, hsent.link, hpotential, hhorizon⟩ hsends

/-! ## The ceiling -/

/-- The oracle does at least as well as every policy whose links are checked. -/
def Ceiling (merchantPolicy : MerchantPolicy) (costs : CostAssumptions) (scenario : Scenario) :
    Prop :=
  ∀ policy outcome best, (caseOf merchantPolicy costs scenario policy).Gated →
    (caseOf merchantPolicy costs scenario policy).outcome = .ok outcome →
    (caseOf merchantPolicy costs scenario EvaluationPolicy.oracle.asPolicy).outcome = .ok best →
    outcome.netIncrementalValueMinor ≤ best.netIncrementalValueMinor

/-- The oracle does what is best for a case that was opened at a time: its link is paid and worth
it, or costs nothing, and nothing that it leaves undone would pay. -/
structure SufficesFrom (merchantPolicy : MerchantPolicy) (costs : CostAssumptions)
    (scenario : Scenario) (opened : Int) : Prop where
  sent : ∀ potential, OracleSends merchantPolicy scenario opened potential →
    Paid merchantPolicy potential (sendingTime scenario merchantPolicy opened) ∧
        costs.outlay ≤ scenario.amountMinor ∨
      ¬Paid merchantPolicy potential (sendingTime scenario merchantPolicy opened) ∧
        costs.outlay + costs.frictionPenaltyMinor = 0 ∧
        ¬SomeLinkPays merchantPolicy costs scenario (quietDelay scenario merchantPolicy)
  left : (∀ potential, ¬OracleSends merchantPolicy scenario opened potential) →
    ¬SomeLinkPays merchantPolicy costs scenario (quietDelay scenario merchantPolicy)

/-- The oracle does what is best for the case, if the case is opened and nothing blocks it. -/
def OracleSuffices (merchantPolicy : MerchantPolicy) (costs : CostAssumptions)
    (scenario : Scenario) : Prop :=
  ∀ opened, Opened merchantPolicy scenario opened → Unblocked scenario merchantPolicy →
    SufficesFrom merchantPolicy costs scenario opened

theorem linkValue_of_unrecovered (hnatural : ∀ u, scenario.naturalBy u = false) :
    linkValue merchantPolicy costs scenario potential t =
      if Paid merchantPolicy potential t then scenario.amountMinor - costs.outlay
      else -(costs.outlay + costs.frictionPenaltyMinor) := by
  have hnever : ¬RecoversNaturally merchantPolicy scenario := by
    unfold RecoversNaturally
    rw [hnatural]
    simp
  unfold linkValue
  rw [if_neg hnever]

/-- Someone sends the link that pays, and gains by it. -/
theorem exists_gain (hcosts : costs.NonNegative) (hopened : Opened merchantPolicy scenario opened)
    (hunblocked : Unblocked scenario merchantPolicy)
    (h : SomeLinkPays merchantPolicy costs scenario (quietDelay scenario merchantPolicy)) :
    ∃ policy outcome, (caseOf merchantPolicy costs scenario policy).Gated ∧
      (caseOf merchantPolicy costs scenario policy).outcome = .ok outcome ∧
      0 < outcome.netIncrementalValueMinor ∧
      (¬RecoversNaturally merchantPolicy scenario →
        outcome.netIncrementalValueMinor = scenario.amountMinor - costs.outlay) := by
  obtain ⟨hhorizon, hnatural, hgains, action, potential, haction, hpotential, hpaid⟩ := h
  obtain ⟨policy, outcome, hgated, houtcome, hvalue⟩ := exists_sent hopened hunblocked haction
    hpotential (le_refl _) hhorizon hnatural
  refine ⟨policy, outcome, hgated, houtcome, ?_, ?_⟩
  · rw [hvalue]
    exact (linkValue_pos_iff hcosts).mpr ⟨hpaid, hgains⟩
  · intro hnever
    rw [hvalue, linkValue, if_pos hpaid, if_neg hnever]

theorem suffices_of_ceiling (hcosts : costs.NonNegative)
    (hceiling : Ceiling merchantPolicy costs scenario)
    (hopened : Opened merchantPolicy scenario opened)
    (hunblocked : Unblocked scenario merchantPolicy) :
    SufficesFrom merchantPolicy costs scenario opened := by
  have houtlay := hcosts.outlay
  have hfriction := hcosts.friction
  -- the oracle's case comes out, and to no loss
  have hbest : ∃ best, (caseOf merchantPolicy costs scenario
      EvaluationPolicy.oracle.asPolicy).outcome = .ok best := exists_oracle_outcome costs hopened
  obtain ⟨best, hbest⟩ := hbest
  obtain ⟨idle, nothing, hidle, hnothing, hzero⟩ := exists_abstained costs hopened
  have hnoLoss : 0 ≤ best.netIncrementalValueMinor := hzero ▸ hceiling idle nothing best hidle
    hnothing hbest
  have hnoGain : best.netIncrementalValueMinor = 0 →
      ¬SomeLinkPays merchantPolicy costs scenario (quietDelay scenario merchantPolicy) := by
    intro hbestZero hpays
    obtain ⟨policy, outcome, hgated, houtcome, hgain, -⟩ :=
      exists_gain hcosts hopened hunblocked hpays
    have hle := hceiling policy outcome best hgated houtcome hbest
    omega
  refine ⟨fun potential hsends => ?_, fun hkept => ?_⟩
  · rcases oracle_value hopened hunblocked hbest with ⟨sent, hsent, hvalue⟩ | ⟨hkept, -⟩
    · obtain rfl : potential = sent :=
        Option.some.inj (hsends.potential_eq.symm.trans hsent.potential_eq)
      rw [linkValue_of_unrecovered fun u => hsends.unrecovered] at hvalue
      by_cases hpaid : Paid merchantPolicy potential (sendingTime scenario merchantPolicy opened)
      · rw [if_pos hpaid] at hvalue
        exact Or.inl ⟨hpaid, by omega⟩
      · rw [if_neg hpaid] at hvalue
        exact Or.inr ⟨hpaid, by omega, hnoGain (by omega)⟩
    · exact absurd hsends (hkept potential)
  · rcases oracle_value hopened hunblocked hbest with ⟨sent, hsent, -⟩ | ⟨-, hvalue⟩
    · exact absurd hsent (hkept sent)
    · exact hnoGain hvalue

/-- The oracle takes no loss where it does what is best. -/
theorem noLoss_of_suffices (h : OracleSuffices merchantPolicy costs scenario)
    (hbest : (caseOf merchantPolicy costs scenario EvaluationPolicy.oracle.asPolicy).outcome =
      .ok best) : 0 ≤ best.netIncrementalValueMinor := by
  rcases CaseRun.netIncrementalValueMinor_eq gated_oracle hbest with hzero | hsent
  · exact le_of_eq hzero.symm
  · obtain ⟨opened, _, _, hsent, -, -⟩ := hsent
    have hopened : Opened merchantPolicy scenario opened :=
      ⟨hsent.opens.opened_eq, hsent.opens.playable⟩
    rcases oracle_value hopened hsent.goesOut.unblocked hbest with
      ⟨link, hsends, hvalue⟩ | ⟨-, hzero⟩
    · rw [linkValue_of_unrecovered fun u => hsends.unrecovered] at hvalue
      rcases (h opened hopened hsent.goesOut.unblocked).sent link hsends with
        ⟨hpaid, hworth⟩ | ⟨hpaid, hfree, -⟩
      · rw [if_pos hpaid] at hvalue
        omega
      · rw [if_neg hpaid] at hvalue
        omega
    · exact le_of_eq hzero.symm

/-- **The oracle is a ceiling** exactly if it does what is best for the case. -/
theorem ceiling_iff (hcosts : costs.NonNegative) :
    Ceiling merchantPolicy costs scenario ↔ OracleSuffices merchantPolicy costs scenario := by
  constructor
  · intro hceiling opened hopened hunblocked
    exact suffices_of_ceiling hcosts hceiling hopened hunblocked
  · intro hsuffices policy outcome best hgated houtcome hbest
    rcases CaseRun.netIncrementalValueMinor_eq hgated houtcome with hzero | hsent
    · rw [hzero]
      exact noLoss_of_suffices hsuffices hbest
    · obtain ⟨opened, decision, potential, hsent, hpotential, hsentValue⟩ := hsent
      have hvalue : outcome.netIncrementalValueMinor = linkValue merchantPolicy costs scenario
          potential (sendingTime scenario merchantPolicy (opened + decision.observationDelayMs)) :=
        hsentValue
      have hopened : Opened merchantPolicy scenario opened :=
        ⟨hsent.opens.opened_eq, hsent.opens.playable⟩
      have hsuffices' := hsuffices opened hopened hsent.goesOut.unblocked
      by_cases hgain : 0 < outcome.netIncrementalValueMinor
      · -- a link that pays, and would have paid when the quiet hours are over
        rw [hvalue] at hgain
        obtain ⟨hpaid, hgains⟩ := (linkValue_pos_iff hcosts).mp hgain
        have hpays : SomeLinkPays merchantPolicy costs scenario
            (quietDelay scenario merchantPolicy) :=
          SomeLinkPays.mono ⟨hsent.goesOut.inHorizon, hsent.goesOut.unrecovered, hgains, _,
            potential, hsent.link, hpotential, hpaid⟩ (le_max_right _ _)
        rcases oracle_value hopened hsent.goesOut.unblocked hbest with
          ⟨link, hsends, hbestValue⟩ | ⟨hleft, -⟩
        · rcases hsuffices'.sent link hsends with ⟨hlink, -⟩ | ⟨-, -, hnone⟩
          · -- both are paid the amount
            rw [hvalue, hbestValue, linkValue_of_unrecovered fun u => hsends.unrecovered,
              linkValue_of_unrecovered fun u => hsends.unrecovered, if_pos hlink]
            exact le_of_eq (if_pos hpaid)
          · exact absurd hpays hnone
        · exact absurd hpays (hsuffices'.left hleft)
      · exact le_trans (not_lt.mp hgain) (noLoss_of_suffices hsuffices hbest)

end

/-! ## A night of waiting -/

namespace NightLink

/-- The payment failed at midnight, and the quiet hours are over when the horizon is. -/
def scenario : Scenario where
  toObservableCase := { LateCapture.observable with failureLocalHour := 0 }
  latentCause := .ordinaryRecoverable
  naturalRecoveryAtMs := none
  incidentScope := none
  events := [⟨"evt_1", .paymentFailed, some 0, "acc_1", true⟩]
  potentialOutcomes := [⟨.genericLink, true, 60000⟩]
  deliveryMutations := []
  adversarialFlags := []

theorem nonNegative : ({} : CostAssumptions).NonNegative where
  communication := by decide
  action := by decide
  incentive := by decide
  friction := by decide
  duplicate := by decide

theorem opened : Opened LateCapture.merchantPolicy scenario 0 where
  opened_eq := rfl
  playable := by
    intro event hmem atMs hat
    have hevents : accepted LateCapture.merchantPolicy scenario =
        [⟨"evt_1", .paymentFailed, some 0, "acc_1", true⟩] := rfl
    rw [hevents, List.mem_singleton] at hmem
    rw [hmem] at hat
    rw [← Option.some.inj hat]

theorem unblocked : Unblocked scenario LateCapture.merchantPolicy where
  unflagged := fun _ _ => List.not_mem_nil
  consent := rfl
  contactCap := by decide
  amount := by decide

/-- **The oracle's link goes out at the end of the horizon**, and is not paid within it: it costs
300 and annoys the customer, where nothing would have been lost by leaving the case alone. -/
theorem not_ceiling : ¬Ceiling LateCapture.merchantPolicy {} scenario := by
  intro hceiling
  obtain ⟨best, hbest⟩ := exists_oracle_outcome {} opened
  obtain ⟨idle, nothing, hidle, hnothing, hzero⟩ := exists_abstained {} opened
  have hle := hceiling idle nothing best hidle hnothing hbest
  rcases oracle_value opened unblocked hbest with ⟨potential, hsends, hvalue⟩ | ⟨hleft, -⟩
  · obtain rfl : ⟨.genericLink, true, 60000⟩ = potential := Option.some.inj hsends.potential_eq
    have hloss : linkValue LateCapture.merchantPolicy {} scenario ⟨.genericLink, true, 60000⟩
        (sendingTime scenario LateCapture.merchantPolicy 0) = -1300 := by decide
    omega
  · exact hleft ⟨.genericLink, true, 60000⟩ ⟨by decide, rfl, by decide⟩

theorem ceiling_night :
    Ceiling LateCapture.merchantPolicy {} scenario ↔
      OracleSuffices LateCapture.merchantPolicy {} scenario :=
  ceiling_iff nonNegative

end NightLink

end Retrywise.Simulator
