import Retrywise.Simulator.Policies

/-!
# Decisions of the simulator

`engine.py`, `_run_case` up to the decision. The events of a scenario are filtered, the earliest
accepted failure opens the case, and the policy is shown the case twice: when it opens, to say
how long it waits, and when it has waited.

> `decisions_blind`: a policy other than the oracle decides by what it is shown and by what was
> accepted until it decides. Whatever else a scenario says, and whatever is delivered later,
> makes no difference.
-/

namespace Retrywise.Simulator

open Retrywise.Foundation Retrywise.Domain Retrywise.ControlPlane

/-! ## Accepted events -/

/-- `_accepted_events`: the events, and how many duplicates and invalid ones were left out. -/
structure AcceptedEvents where
  accepted : List ScenarioEvent
  duplicates : Nat
  invalid : Nat
deriving DecidableEq

def ScenarioEvent.refused (event : ScenarioEvent) (merchantPolicy : MerchantPolicy) : Bool :=
  !event.signatureValid || event.providerAccountId ≠ merchantPolicy.providerAccountId ||
    event.kind = .malformed

/-- The loop of `_accepted_events`. -/
def acceptFrom (merchantPolicy : MerchantPolicy) :
    List ScenarioEvent → List String → AcceptedEvents
  | [], _ => ⟨[], 0, 0⟩
  | event :: events, seen =>
    if event.deliveredAtMs = none then acceptFrom merchantPolicy events seen
    else if event.refused merchantPolicy then
      let rest := acceptFrom merchantPolicy events seen
      { rest with invalid := rest.invalid + 1 }
    else if event.eventId ∈ seen then
      let rest := acceptFrom merchantPolicy events seen
      { rest with duplicates := rest.duplicates + 1 }
    else
      let rest := acceptFrom merchantPolicy events (event.eventId :: seen)
      { rest with accepted := event :: rest.accepted }

def acceptedEvents (events : List ScenarioEvent) (merchantPolicy : MerchantPolicy) :
    AcceptedEvents :=
  acceptFrom merchantPolicy events []

/-- The event was delivered at the time, or before. -/
def ScenarioEvent.deliveredBy (event : ScenarioEvent) (atMs : Int) : Bool :=
  event.deliveredAtMs.any fun delivered => decide (delivered ≤ atMs)

/-! ## The decision -/

/-- `_observed_case`. -/
def observedCase (scenario : Scenario) (events : List ScenarioEvent) (atMs : Int) : ObservedCase where
  toObservableCase := scenario.toObservableCase
  providerIncidentSignal :=
    events.any fun event => event.kind = .downtimeStarted && event.deliveredBy atMs

/-- `failure_at`: the earliest delivery of a failure, if there is one. -/
def failureAt (events : List ScenarioEvent) : Option Int :=
  ((events.filter fun event => event.kind = .paymentFailed).map fun event =>
    event.deliveredAtMs.getD 0).min?

/-- `OraclePolicy.decide_with_truth`. -/
def decideWithTruth (scenario : Scenario) : PolicyDecision :=
  let successful := scenario.potentialOutcomes.filter fun outcome => outcome.wouldRecover
  let best := (successful.map fun outcome => outcome.recoveryDelayMs).min?
  let (action, reasons) :=
    if scenario.naturalRecoveryAtMs.isSome then
      (ActionKind.noAction, ["oracle_sees_natural_recovery"])
    else match successful.find? fun outcome => some outcome.recoveryDelayMs = best with
      | some outcome => (outcome.action, ["oracle_best_potential_outcome"])
      | none => (.noAction, ["oracle_sees_no_recoverable_action"])
  { action
    observationDelayMs := 0
    reasonCodes := reasons
    useSafetyGate := true
    revalidateBeforeAction := true }

namespace EvaluationPolicy

variable (policy : EvaluationPolicy)

/-- The decision of `_run_case`, oracle or not. -/
def decideCase (scenario : Scenario) (observed : ObservedCase) (costs : CostAssumptions) :
    Except SimulationError PolicyDecision :=
  match policy with
  | .oracle => .ok (decideWithTruth scenario)
  | policy => policy.decide observed costs

/-- The time at which a policy that has seen the case open is shown it again. -/
def decisionTime (merchantPolicy : MerchantPolicy) (scenario : Scenario) : Option Int :=
  let valid := (acceptedEvents scenario.events merchantPolicy).accepted
  (failureAt valid).map fun failureAt =>
    failureAt + policy.observationDelayMs (observedCase scenario valid failureAt)

/-- `_run_case`, up to the decision: nothing if no case is opened, else the decision and the
time it is made at. -/
def runDecision (merchantPolicy : MerchantPolicy) (costs : CostAssumptions) (scenario : Scenario) :
    Except SimulationError (Option (Int × PolicyDecision)) :=
  let valid := (acceptedEvents scenario.events merchantPolicy).accepted
  match failureAt valid with
  | none => .ok none
  | some failureAt => do
    let initial := observedCase scenario valid failureAt
    let observationDelay := policy.observationDelayMs initial
    let observed := observedCase scenario valid (failureAt + observationDelay)
    let decision ← policy.decideCase scenario observed costs
    return some (failureAt + decision.observationDelayMs, decision)

end EvaluationPolicy

/-! ## What is shown -/

section

variable {events events' : List ScenarioEvent} {t u : Int}

theorem deliveredBy_mono {event : ScenarioEvent} (h : event.deliveredBy t = true) (hle : t ≤ u) :
    event.deliveredBy u = true := by
  unfold ScenarioEvent.deliveredBy at h ⊢
  cases hat : event.deliveredAtMs with
  | none => rw [hat] at h; exact absurd h (by simp)
  | some delivered =>
    rw [hat] at h
    have hdelivered : delivered ≤ t := by simpa using h
    simpa using le_trans hdelivered hle

/-- The same events until some time. -/
def AgreeUntil (t : Int) (events events' : List ScenarioEvent) : Prop :=
  ∀ event : ScenarioEvent, event.deliveredBy t = true → (event ∈ events ↔ event ∈ events')

theorem AgreeUntil.mono (h : AgreeUntil u events events') (hle : t ≤ u) :
    AgreeUntil t events events' := fun event ht => h event (deliveredBy_mono ht hle)

/-- **What a policy is shown at a time** depends on the scenario by its observable fields and on
the events until that time. -/
theorem observedCase_eq {scenario scenario' : Scenario}
    (hfields : scenario.toObservableCase = scenario'.toObservableCase)
    (h : AgreeUntil t events events') :
    observedCase scenario events t = observedCase scenario' events' t := by
  have hsignal : (events.any fun event => event.kind = .downtimeStarted && event.deliveredBy t) =
      events'.any fun event => event.kind = .downtimeStarted && event.deliveredBy t := by
    rw [Bool.eq_iff_iff, List.any_eq_true, List.any_eq_true]
    constructor
    · rintro ⟨event, hmem, hshown⟩
      exact ⟨event, (h event (Bool.and_eq_true_iff.mp hshown).2).mp hmem, hshown⟩
    · rintro ⟨event, hmem, hshown⟩
      exact ⟨event, (h event (Bool.and_eq_true_iff.mp hshown).2).mpr hmem, hshown⟩
  unfold observedCase
  rw [hfields, hsignal]

/-- Everything that is accepted was delivered. -/
theorem delivered_of_mem {merchantPolicy : MerchantPolicy} {event : ScenarioEvent} :
    ∀ (events : List ScenarioEvent) (seen : List String),
      event ∈ (acceptFrom merchantPolicy events seen).accepted → event.deliveredAtMs ≠ none := by
  intro events
  induction events with
  | nil => intro seen h; exact absurd h List.not_mem_nil
  | cons head events ih =>
    intro seen h
    rw [acceptFrom] at h
    split at h
    next => exact ih seen h
    next hdelivered =>
      split at h
      next => exact ih seen h
      next =>
        split at h
        next => exact ih seen h
        next =>
          rcases List.mem_cons.mp h with rfl | h
          · exact hdelivered
          · exact ih _ h

/-- The earliest failure is one of the failures, and none is earlier. -/
theorem failureAt_eq_some_iff :
    failureAt events = some t ↔
      (∃ event ∈ events, event.kind = .paymentFailed ∧ event.deliveredAtMs.getD 0 = t) ∧
        ∀ event ∈ events, event.kind = .paymentFailed → t ≤ event.deliveredAtMs.getD 0 := by
  unfold failureAt
  rw [List.min?_eq_some_iff]
  simp only [List.mem_map, List.mem_filter, decide_eq_true_eq, forall_exists_index, and_imp]
  constructor
  · rintro ⟨⟨event, ⟨hmem, hkind⟩, htime⟩, hleast⟩
    exact ⟨⟨event, hmem, hkind, htime⟩, fun e he hfailed => hleast _ e he hfailed rfl⟩
  · rintro ⟨⟨event, hmem, hkind, htime⟩, hleast⟩
    exact ⟨⟨event, ⟨hmem, hkind⟩, htime⟩, fun b e he hfailed hb => hb ▸ hleast e he hfailed⟩

/-- **The case opens at the same time**, if the events agree for as long. -/
theorem failureAt_eq (hdelivered : ∀ event ∈ events, event.deliveredAtMs ≠ none)
    (hdelivered' : ∀ event ∈ events', event.deliveredAtMs ≠ none)
    (hopened : failureAt events = some t) (h : AgreeUntil t events events') :
    failureAt events' = some t := by
  obtain ⟨⟨event, hmem, hkind, htime⟩, hleast⟩ := failureAt_eq_some_iff.mp hopened
  have hby : ∀ {list : List ScenarioEvent}, (∀ e ∈ list, e.deliveredAtMs ≠ none) →
      ∀ e ∈ list, e.deliveredAtMs.getD 0 ≤ t → e.deliveredBy t = true := by
    intro list hlist e he hle
    obtain ⟨delivered, hat⟩ := Option.ne_none_iff_exists'.mp (hlist e he)
    unfold ScenarioEvent.deliveredBy
    rw [hat] at hle ⊢
    simpa using hle
  refine failureAt_eq_some_iff.mpr ⟨⟨event, ?_, hkind, htime⟩, fun e he hfailed => ?_⟩
  · exact (h event (hby hdelivered event hmem (le_of_eq htime))).mp hmem
  · -- an earlier failure of the other list would be one of this list as well
    by_contra hearlier
    have hle : e.deliveredAtMs.getD 0 ≤ t := by omega
    have hother := (h e (hby hdelivered' e he hle)).mpr he
    exact hearlier (hleast e hother hfailed)

end

/-! ## Blindness -/

namespace EvaluationPolicy

variable {policy : EvaluationPolicy} {merchantPolicy : MerchantPolicy} {costs : CostAssumptions}
  {scenario scenario' : Scenario} {t : Int}

/-- A policy other than the oracle is not handed the scenario. -/
theorem decideCase_eq (hpolicy : policy ≠ .oracle) (observed : ObservedCase) :
    policy.decideCase scenario observed costs = policy.decide observed costs := by
  cases policy with
  | oracle => exact absurd rfl hpolicy
  | naturalRecovery => rfl
  | blastAll => rfl
  | fixedSafe => rfl
  | incidentAware => rfl
  | retryWise model => rfl

/-- The case of a policy that decides, as it opens and as it is decided. -/
theorem decisionTime_eq_some_iff :
    policy.decisionTime merchantPolicy scenario = some t ↔
      ∃ opened, failureAt (acceptedEvents scenario.events merchantPolicy).accepted = some opened ∧
        opened + policy.observationDelayMs (observedCase scenario
          (acceptedEvents scenario.events merchantPolicy).accepted opened) = t := by
  unfold decisionTime
  exact Option.map_eq_some_iff

theorem runDecision_of_opened {opened : Int} (hpolicy : policy ≠ .oracle)
    (hopened : failureAt (acceptedEvents scenario.events merchantPolicy).accepted = some opened)
    (ht : opened + policy.observationDelayMs (observedCase scenario
      (acceptedEvents scenario.events merchantPolicy).accepted opened) = t) :
    policy.runDecision merchantPolicy costs scenario = do
      let decision ← policy.decide (observedCase scenario
        (acceptedEvents scenario.events merchantPolicy).accepted t) costs
      return some (opened + decision.observationDelayMs, decision) := by
  unfold runDecision
  dsimp only
  rw [hopened]
  dsimp only
  rw [ht, decideCase_eq hpolicy]

/-- **Policies other than the oracle are blind** to the latent truth and to the future: a
scenario with the same observable fields, and the same accepted events until the policy decides,
is decided in the same way, at the same time and for the same reasons. -/
theorem decisions_blind (hpolicy : policy ≠ .oracle)
    (hfields : scenario.toObservableCase = scenario'.toObservableCase)
    (htime : policy.decisionTime merchantPolicy scenario = some t)
    (hevents : AgreeUntil t (acceptedEvents scenario.events merchantPolicy).accepted
      (acceptedEvents scenario'.events merchantPolicy).accepted) :
    policy.runDecision merchantPolicy costs scenario' =
        policy.runDecision merchantPolicy costs scenario ∧
      ∀ decidedAt decision,
        policy.runDecision merchantPolicy costs scenario = .ok (some (decidedAt, decision)) →
        decidedAt = t := by
  obtain ⟨opened, hopened, ht⟩ := decisionTime_eq_some_iff.mp htime
  have hearly : opened ≤ t := by
    have hdelay := policy.observationDelayMs_nonneg (observedCase scenario
      (acceptedEvents scenario.events merchantPolicy).accepted opened)
    omega
  have hopened' : failureAt (acceptedEvents scenario'.events merchantPolicy).accepted =
      some opened :=
    failureAt_eq (fun event => delivered_of_mem _ _) (fun event => delivered_of_mem _ _) hopened
      (hevents.mono hearly)
  have ht' : opened + policy.observationDelayMs (observedCase scenario'
      (acceptedEvents scenario'.events merchantPolicy).accepted opened) = t := by
    rw [← observedCase_eq hfields (hevents.mono hearly)]
    exact ht
  have hrun := @runDecision_of_opened policy merchantPolicy costs scenario _ _ hpolicy hopened ht
  refine ⟨?_, fun decidedAt decision hdecided => ?_⟩
  · rw [hrun, runDecision_of_opened hpolicy hopened' ht', observedCase_eq hfields hevents]
  · rw [hrun] at hdecided
    simp only [bind_ok_iff, pure_ok_iff, Option.some.injEq, Prod.mk.injEq] at hdecided
    obtain ⟨_, hmade, hat, rfl⟩ := hdecided
    rw [← hat, policy.decide_delay hmade, ← ht]
    rfl

end EvaluationPolicy

/-! ## A captured payment that nobody has seen -/

namespace LateCapture

def observable : ObservableCase where
  scenarioId := "scenario-1"
  merchantId := "merchant-1"
  amountMinor := 50000
  currency := "INR"
  method := "upi"
  observableError := "payment_timed_out"
  customerResponseScore := ⟨false, 5, -1⟩
  consentToContact := true
  failureLocalHour := 12
  anomalyScore := ⟨false, 1, -1⟩

def merchantPolicy : MerchantPolicy where
  merchantId := "merchant-1"
  providerAccountId := "acc_1"
  contactCap := 1
  quietHoursStart := 22
  quietHoursEnd := 8
  approvalThresholdMinor := 800000
  recoveryHorizonMs := 28800000
  version := "recovery-policy-v1"

def failed : ScenarioEvent := ⟨"evt_1", .paymentFailed, some 1000, "acc_1", true⟩

def captured : ScenarioEvent := ⟨"evt_2", .paymentCaptured, some 500000, "acc_1", true⟩

def lost : Scenario where
  toObservableCase := observable
  latentCause := .ordinaryRecoverable
  naturalRecoveryAtMs := none
  incidentScope := none
  events := [failed]
  potentialOutcomes := [⟨.genericLink, true, 60000⟩]
  deliveryMutations := []
  adversarialFlags := []

def late : Scenario where
  toObservableCase := observable
  latentCause := .lateAuthorization
  naturalRecoveryAtMs := some 300000
  incidentScope := none
  events := [failed, captured]
  potentialOutcomes := []
  deliveryMutations := []
  adversarialFlags := ["kill_switch"]

theorem agree : AgreeUntil 121000 [failed] [failed, captured] := by
  intro event hby
  have hcaptured : captured.deliveredBy 121000 = false := by decide
  rw [List.mem_cons, List.mem_cons, List.mem_singleton]
  constructor
  · rintro (h | h)
    · exact Or.inl h
    · exact absurd h List.not_mem_nil
  · rintro (h | rfl)
    · exact Or.inl h
    · exact absurd (hby.symm.trans hcaptured) (by decide)

/-- The fixed rule sends a link two minutes after the failure, whether the payment was to be
captured later or not. -/
theorem fixedSafe_blind :
    EvaluationPolicy.fixedSafe.runDecision merchantPolicy {} late =
        EvaluationPolicy.fixedSafe.runDecision merchantPolicy {} lost ∧
      ∀ decidedAt decision,
        EvaluationPolicy.fixedSafe.runDecision merchantPolicy {} lost =
            .ok (some (decidedAt, decision)) →
        decidedAt = 121000 :=
  EvaluationPolicy.decisions_blind (by simp) rfl rfl agree

end LateCapture

end Retrywise.Simulator
