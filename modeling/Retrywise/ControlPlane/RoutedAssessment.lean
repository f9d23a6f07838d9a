import Retrywise.ControlPlane.AssessmentRedelivery
import Retrywise.ControlPlane.DiagnosisRouter

/-!
# Assessments: who may decide

`StandardPaymentLinkAssessmentPlanner.plan` where the diagnosis comes from the router: the
same payment planned in the three modes of diagnosis.

A diagnosis that Gemini was asked for is never behind an authorized plan. One that Gemini
only shadowed is behind the very plan of the local model, if Gemini's answer can be
recorded; if not, there is no plan.

> `harmless_iff`: the planner obeys both exactly when the answer can be recorded.
-/

namespace Retrywise.ControlPlane

open Retrywise.Foundation Retrywise.Domain

/-- What a routed assessment raises: the inference does, or the assessment around it. -/
inductive RoutedRaise where
  | inference (error : ControlPlaneError)
  | assessment (error : AssessmentRaise)

section

variable [Hashlib] (planner : AssessmentPlanner) (router : DiagnosisRouter)
  (s : AssessmentSnapshot) (truth : FreshProviderPaymentTruth) (health : FreshMethodHealthTruth)

/-! ## The plan, around the inference -/

/-- What `plan` checks before there is a diagnosis. -/
def AssessmentPlanner.admission : Except AssessmentRaise Unit := do
  assessing (raiseIf (s.merchant.policyVersion ≠ planner.gate.policy.version)
    (.notEligible "merchant_policy_version_mismatch"))
  assessing (raiseIf (¬TruthMatches s truth.toPaymentTruthFields)
    (.providerTruth "fresh_provider_truth_binding_mismatch"))
  assessing (raiseIf (¬HealthMatches s truth.toPaymentTruthFields health.toMethodHealthFields)
    (.methodHealth "fresh_method_health_binding_mismatch"))

/-- What `plan` makes of the diagnosis. -/
def AssessmentPlanner.planDiagnosed (diagnosis : DiagnosisResult) (ids : PlanIds) :
    Except AssessmentRaise AssessmentPlan :=
  if truth.status ≠ .failed then
    return .blocked { diagnosis := diagnosis, reasonCodes := ["PROVIDER_PAYMENT_NOT_FAILED"] }
  else if diagnosis.predictedClass ∉ linkEligibleFailureClasses then
    return .blocked { diagnosis := diagnosis, reasonCodes := ["DIAGNOSIS_NOT_LINK_ELIGIBLE"] }
  else do
    let (proposal, decision) ← unexpected (planningDecision planner s truth health diagnosis)
    if decision.allowed = false then
      return .blocked {
        diagnosis := diagnosis
        proposal := some proposal
        planningDecision := some decision
        reasonCodes := decision.reasons.map GateReason.value }
    else do
      let plan ← unexpected (authorizedPlan planner s diagnosis ids proposal decision)
      return .authorized plan

omit [Hashlib] in
/-- The vector a payment is diagnosed by. -/
def assessedVector : FeatureVector :=
  normalizeFeatures
    (diagnosisFeatures s truth.toPaymentTruthFields health.toMethodHealthFields)

/-- What `plan` makes of an inference; the diagnosis is handed out with the plan. -/
def AssessmentPlanner.planInferred (ids : PlanIds) :
    Except ControlPlaneError Diagnosis → Except RoutedRaise (DiagnosisFields × AssessmentPlan)
  | .error e => .error (.inference e)
  | .ok diagnosis =>
    match planner.planDiagnosed s truth health diagnosis.toDiagnosisResult ids with
    | .error e => .error (.assessment e)
    | .ok plan => .ok (diagnosis.toDiagnosisFields, plan)

/-- `plan` without a diagnosis. -/
def AssessmentPlanner.planRouted (mode : DiagnosisMode) (clock : RouterClock) (ids : PlanIds) :
    Except RoutedRaise (DiagnosisFields × AssessmentPlan) :=
  match planner.admission s truth health with
  | .error e => .error (.assessment e)
  | .ok () =>
    planner.planInferred s truth health ids (router.infer mode clock
      (diagnosisFeatures s truth.toPaymentTruthFields health.toMethodHealthFields)).1

variable {planner router s truth health}

/-! ## A review that was asked for -/

/-- Without an approval, a context that has to be reviewed allows no collection. -/
theorem not_allowed_of_review {gate : DeterministicGate} {p : ActionProposal} {c : GateContext}
    {d : GateDecision} (hcollection : p.actionType ∈ collectionActions)
    (happroval : c.approval = none) (hreview : c.externalDiagnosisReviewRequired = true)
    (h : gate.evaluatePolicy p c = .ok d) : d.allowed = false := by
  obtain ⟨horizon, -, -, hreasons⟩ := DeterministicGate.evaluate_ok_iff.mp h
  rw [Bool.eq_false_iff]
  intro hallowed
  rw [List.isEmpty_iff.mp hallowed] at hreasons
  have hnil := hreasons.symm
  simp only [DeterministicGate.reasons, List.append_eq_nil_iff,
    DeterministicGate.only_eq_nil_iff] at hnil
  obtain ⟨⟨-, hnone⟩, -⟩ := hnil
  obtain ⟨-, happroved⟩ := DeterministicGate.approvalReasons_eq_nil_iff.mp (hnone hcollection)
  obtain ⟨approval, hgiven⟩ := happroved (.inr (.inr (.inr (.inr hreview))))
  exact absurd (happroval.symm.trans hgiven.given) (by simp)

theorem planningDecision_of_hybrid {diagnosis : DiagnosisResult} {proposal : ActionProposal}
    {decision : GateDecision} (hmode : diagnosis.provenance.requestedMode = .hybridGemini)
    (h : planningDecision planner s truth health diagnosis = .ok (proposal, decision)) :
    decision.allowed = false := by
  unfold planningDecision at h
  split_ifs at h with hcurrency hmethod
  obtain ⟨expiresAt, -, h⟩ := bind_ok_iff.mp h
  obtain ⟨p, hp, h⟩ := bind_ok_iff.mp h
  obtain ⟨c, hc, h⟩ := bind_ok_iff.mp h
  obtain ⟨d, hd, hdecided⟩ := bind_ok_iff.mp h
  obtain ⟨-, rfl⟩ := Prod.mk.inj (pure_ok_iff.mp hdecided)
  obtain ⟨_, rfl⟩ := construct_ok_iff.mp (liftDomain_ok_iff.mp hp)
  obtain ⟨_, rfl⟩ := construct_ok_iff.mp (liftDomain_ok_iff.mp hc)
  refine not_allowed_of_review ?_ rfl ?_ (liftDomain_ok_iff.mp hd)
  · show ActionType.createStandardPaymentLink ∈ collectionActions
    decide
  · show externalReviewRequired diagnosis = true
    rw [externalReviewRequired, hmode]
    decide

/-- What Gemini was asked for is not planned without an approval. -/
theorem planDiagnosed_of_hybrid {diagnosis : DiagnosisResult} {ids : PlanIds}
    {plan : AuthorizedAssessmentPlan}
    (hmode : diagnosis.provenance.requestedMode = .hybridGemini) :
    planner.planDiagnosed s truth health diagnosis ids ≠ .ok (.authorized plan) := by
  intro h
  unfold AssessmentPlanner.planDiagnosed at h
  by_cases hstatus : truth.status ≠ .failed
  · rw [if_pos hstatus] at h
    exact absurd (pure_ok_iff.mp h) (by simp)
  rw [if_neg hstatus] at h
  by_cases hclass : diagnosis.predictedClass ∉ linkEligibleFailureClasses
  · rw [if_pos hclass] at h
    exact absurd (pure_ok_iff.mp h) (by simp)
  rw [if_neg hclass] at h
  obtain ⟨⟨proposal, decision⟩, hdecided, h⟩ := bind_ok_iff.mp h
  have hdenied := planningDecision_of_hybrid hmode (unexpected_ok_iff.mp hdecided)
  have hblocked := pure_ok_iff.mp ((if_pos hdenied).symm.trans h)
  exact absurd hblocked (by simp)

/-! ## Two runs -/

/-- A diagnosis that is recorded in another way. -/
def DiagnosisResult.withProvenance (d : DiagnosisResult) (p : DiagnosisProvenance) :
    DiagnosisResult := { d with provenance := p }

/-- A plan whose diagnosis is recorded in another way. -/
def AssessmentPlan.withProvenance (p : DiagnosisProvenance) : AssessmentPlan → AssessmentPlan
  | .blocked plan => .blocked { plan with diagnosis := plan.diagnosis.withProvenance p }
  | .authorized plan => .authorized { plan with diagnosis := plan.diagnosis.withProvenance p }

/-- The second outcome is the first but for how the diagnosis is recorded. -/
def SameButProvenance (first second : Except RoutedRaise (DiagnosisFields × AssessmentPlan)) :
    Prop :=
  ∃ p, second = first.map fun outcome =>
    (outcome.1.withProvenance p, outcome.2.withProvenance p)

omit [Hashlib] in
theorem externalReviewRequired_of_mode {d : DiagnosisResult}
    (h : d.provenance.requestedMode ≠ .hybridGemini) : externalReviewRequired d = false := by
  unfold externalReviewRequired
  exact decide_eq_false h

/-- Two diagnoses of one result, and neither asked of Gemini, are decided upon alike. -/
theorem planningDecision_withProvenance {d : DiagnosisResult} {p : DiagnosisProvenance}
    (hd : d.provenance.requestedMode ≠ .hybridGemini) (hp : p.requestedMode ≠ .hybridGemini) :
    planningDecision planner s truth health (d.withProvenance p) =
      planningDecision planner s truth health d := by
  have hreview : externalReviewRequired (d.withProvenance p) = externalReviewRequired d := by
    rw [externalReviewRequired_of_mode hd]
    exact externalReviewRequired_of_mode hp
  have hproposal : ∀ amount expiresAt,
      proposalFields s truth (d.withProvenance p) amount expiresAt =
        proposalFields s truth d amount expiresAt := by
    intro amount expiresAt
    unfold proposalFields
    rw [hreview]
    rfl
  have hcontext : ∀ amount hmethod,
      planningContextFields planner s truth health (d.withProvenance p) amount hmethod =
        planningContextFields planner s truth health d amount hmethod := by
    intro amount hmethod
    unfold planningContextFields
    rw [hreview]
    rfl
  simp only [planningDecision, hproposal, hcontext]

theorem authorizedPlan_withProvenance {d : DiagnosisResult} {p : DiagnosisProvenance}
    {ids : PlanIds} {proposal : ActionProposal} {decision : GateDecision} :
    authorizedPlan planner s (d.withProvenance p) ids proposal decision =
      (authorizedPlan planner s d ids proposal decision).map fun plan =>
        { plan with diagnosis := plan.diagnosis.withProvenance p } := by
  unfold authorizedPlan
  simp only [map_bind_eq]
  rfl

theorem planDiagnosed_withProvenance {d : DiagnosisResult} {p : DiagnosisProvenance}
    {ids : PlanIds} (hd : d.provenance.requestedMode ≠ .hybridGemini)
    (hp : p.requestedMode ≠ .hybridGemini) :
    planner.planDiagnosed s truth health (d.withProvenance p) ids =
      (planner.planDiagnosed s truth health d ids).map (AssessmentPlan.withProvenance p) := by
  unfold AssessmentPlanner.planDiagnosed
  rw [planningDecision_withProvenance hd hp]
  by_cases hstatus : truth.status ≠ .failed
  · rw [if_pos hstatus, if_pos hstatus]
    rfl
  have hpredicted : (d.withProvenance p).predictedClass = d.predictedClass := rfl
  rw [if_neg hstatus, if_neg hstatus, hpredicted]
  by_cases hclass : d.predictedClass ∉ linkEligibleFailureClasses
  · rw [if_pos hclass, if_pos hclass]
    rfl
  rw [if_neg hclass, if_neg hclass, map_bind_eq]
  refine bind_congr fun planned => ?_
  by_cases hdenied : planned.2.allowed = false
  · show (if planned.2.allowed = false then _ else _) =
      Except.map _ (if planned.2.allowed = false then _ else _)
    rw [if_pos hdenied, if_pos hdenied]
    rfl
  · show (if planned.2.allowed = false then _ else _) =
      Except.map _ (if planned.2.allowed = false then _ else _)
    rw [if_neg hdenied, if_neg hdenied, authorizedPlan_withProvenance, map_bind_eq]
    cases authorizedPlan planner s d ids planned.1 planned.2 with
    | error e => rfl
    | ok plan => rfl

/-! ## The law -/

/-- Gemini authorizes nothing, and in the shadow it changes nothing. -/
structure ExternallyHarmless (planner : AssessmentPlanner) (router : DiagnosisRouter)
    (s : AssessmentSnapshot) (truth : FreshProviderPaymentTruth) (health : FreshMethodHealthTruth)
    (clock : RouterClock) (ids : PlanIds) : Prop where
  hybrid : ∀ diagnosis plan,
    planner.planRouted router s truth health .hybridGemini clock ids ≠
      .ok (diagnosis, .authorized plan)
  shadow : SameButProvenance (planner.planRouted router s truth health .localMl clock ids)
    (planner.planRouted router s truth health .shadow clock ids)

/-- Gemini's answer can be recorded, or is of no use: the assessment is not admitted, or the
local model has no diagnosis. -/
def AnswerRecordable (planner : AssessmentPlanner) (router : DiagnosisRouter)
    (s : AssessmentSnapshot) (truth : FreshProviderPaymentTruth) (health : FreshMethodHealthTruth)
    (clock : RouterClock) : Prop :=
  planner.admission s truth health = .ok () →
    (∃ known, router.localModel.inferVector (assessedVector s truth health) = .ok known) →
      router.Recordable (assessedVector s truth health) clock

theorem planRouted_hybrid {clock : RouterClock} {ids : PlanIds} {diagnosis : DiagnosisFields}
    {plan : AuthorizedAssessmentPlan} :
    planner.planRouted router s truth health .hybridGemini clock ids ≠
      .ok (diagnosis, .authorized plan) := by
  intro h
  unfold AssessmentPlanner.planRouted at h
  split at h
  · exact absurd h (by simp)
  · cases hinferred : (router.infer .hybridGemini clock (diagnosisFeatures s
        truth.toPaymentTruthFields health.toMethodHealthFields)).1 with
    | error e =>
      rw [hinferred] at h
      exact absurd h (by simp [AssessmentPlanner.planInferred])
    | ok inferred =>
      rw [hinferred] at h
      unfold AssessmentPlanner.planInferred at h
      simp only at h
      split at h
      · exact absurd h (by simp)
      next planned hplanned =>
        obtain ⟨-, rfl⟩ := Prod.mk.inj (Except.ok.inj h)
        exact planDiagnosed_of_hybrid (DiagnosisRouter.requestedMode_of_hybrid hinferred) hplanned

/-- An assessment that is admitted plans what is inferred. -/
theorem planRouted_of_admitted {mode : DiagnosisMode} {clock : RouterClock} {ids : PlanIds}
    {inferred : Except ControlPlaneError Diagnosis}
    (hadmitted : planner.admission s truth health = .ok ())
    (hinferred : (router.inferVector mode (assessedVector s truth health) clock).1 = inferred) :
    planner.planRouted router s truth health mode clock ids =
      planner.planInferred s truth health ids inferred := by
  subst hinferred
  simp only [AssessmentPlanner.planRouted, hadmitted]
  rfl

theorem planRouted_of_error {mode : DiagnosisMode} {clock : RouterClock} {ids : PlanIds}
    {e : AssessmentRaise} (hadmitted : planner.admission s truth health = .error e) :
    planner.planRouted router s truth health mode clock ids = .error (.assessment e) := by
  simp only [AssessmentPlanner.planRouted, hadmitted]

/-- What can be recorded in the shadow is planned as without it. -/
theorem shadow_of_recordable {clock : RouterClock} {ids : PlanIds} {known : Diagnosis}
    (hadmitted : planner.admission s truth health = .ok ())
    (hknown : router.localModel.inferVector (assessedVector s truth health) = .ok known)
    (hrecordable : router.Recordable (assessedVector s truth health) clock) :
    SameButProvenance (planner.planRouted router s truth health .localMl clock ids)
      (planner.planRouted router s truth health .shadow clock ids) := by
  obtain ⟨d, p, hshadow, hfields, hmode⟩ :=
    (DiagnosisRouter.infer_shadowed clock hknown).1 hrecordable
  rw [planRouted_of_admitted hadmitted (DiagnosisRouter.inferVector_local.trans hknown),
    planRouted_of_admitted hadmitted hshadow]
  have hresult : d.toDiagnosisResult = known.toDiagnosisResult.withProvenance p :=
    congrArg DiagnosisFields.toDiagnosisResult hfields
  have hlocal := DiagnosisModel.requestedMode_local hknown
  have hnotAsked : known.toDiagnosisResult.provenance.requestedMode ≠ .hybridGemini := by
    rw [hlocal]
    simp
  refine ⟨p, ?_⟩
  unfold AssessmentPlanner.planInferred
  simp only
  rw [hresult, planDiagnosed_withProvenance hnotAsked (by rw [hmode]; simp), hfields]
  cases planner.planDiagnosed s truth health known.toDiagnosisResult ids with
  | error e => rfl
  | ok plan => rfl

/-- What cannot be recorded is not planned, with a diagnosis or without. -/
theorem not_shadow_of_unrecordable {clock : RouterClock} {ids : PlanIds} {known : Diagnosis}
    (hadmitted : planner.admission s truth health = .ok ())
    (hknown : router.localModel.inferVector (assessedVector s truth health) = .ok known)
    (hrecordable : ¬router.Recordable (assessedVector s truth health) clock) :
    ¬SameButProvenance (planner.planRouted router s truth health .localMl clock ids)
      (planner.planRouted router s truth health .shadow clock ids) := by
  obtain ⟨e, hshadow⟩ := (DiagnosisRouter.infer_shadowed clock hknown).2 hrecordable
  rw [planRouted_of_admitted hadmitted (DiagnosisRouter.inferVector_local.trans hknown),
    planRouted_of_admitted hadmitted hshadow]
  rintro ⟨p, hsame⟩
  unfold AssessmentPlanner.planInferred at hsame
  simp only at hsame
  split at hsame
  · exact absurd (Except.error.inj hsame) (by simp)
  · exact absurd hsame (by simp [Except.map])

/-- **The planner obeys the modes exactly when what Gemini answers can be recorded.** -/
theorem harmless_iff (planner : AssessmentPlanner) (router : DiagnosisRouter)
    (s : AssessmentSnapshot) (truth : FreshProviderPaymentTruth) (health : FreshMethodHealthTruth)
    (clock : RouterClock) (ids : PlanIds) :
    ExternallyHarmless planner router s truth health clock ids ↔
      AnswerRecordable planner router s truth health clock := by
  constructor
  · rintro ⟨-, hshadow⟩ hadmitted ⟨known, hknown⟩
    by_contra hrecordable
    exact not_shadow_of_unrecordable hadmitted hknown hrecordable hshadow
  · intro hanswer
    refine ⟨fun _ _ => planRouted_hybrid, ?_⟩
    cases hadmitted : planner.admission s truth health with
    | error e =>
      rw [planRouted_of_error hadmitted, planRouted_of_error hadmitted]
      exact ⟨{}, rfl⟩
    | ok _ =>
      cases hknown : router.localModel.inferVector (assessedVector s truth health) with
      | error e =>
        rw [planRouted_of_admitted hadmitted (DiagnosisRouter.inferVector_of_error hknown),
          planRouted_of_admitted hadmitted (DiagnosisRouter.inferVector_of_error hknown)]
        exact ⟨{}, rfl⟩
      | ok known => exact shadow_of_recordable hadmitted hknown (hanswer hadmitted ⟨known, hknown⟩)

end

/-! ## A model name the record does not take -/

/-- A model pinned by its version, as its provider spells it. -/
def pinnedModelName : String := "gemini-2.0-flash@001"

theorem pinnedModelName_ok : pinnedModelName ≠ "" ∧ pinnedModelName.toList.length ≤ 100 ∧
    pinnedModelName.toList.head?.any isSpace = false ∧
      pinnedModelName.toList.getLast?.any isSpace = false := by
  decide +kernel

def pinnedClient : GeminiDiagnosisClient where
  model := pinnedModelName
  answer _ := .ok (.obj [
    ("predicted_class", .str "customer_correctable"),
    ("probabilities_basis_points", .obj [
      ("provider_incident", .int 0), ("customer_correctable", .int 9000),
      ("credential_permanent", .int 1000), ("funds_temporary", .int 0),
      ("merchant_integration", .int 0), ("unknown", .int 0)])])
  elapsed := 250000000
  modelOk := pinnedModelName_ok

def pinnedRouter : DiagnosisRouter where
  gemini := some pinnedClient.inferVector
  localModel := certainModel

/-- A captured payment, which is blocked in the local mode, is not assessed in the shadow of
this client. -/
theorem pinned_shadow_raises :
    ¬ExternallyHarmless assessmentService.planner pinnedRouter observedSnapshot capturedTruth
      normalHealth ⟨0, 0, 0⟩ ⟨"", "", "", ""⟩ := by
  have hadmitted : assessmentService.planner.admission observedSnapshot capturedTruth normalHealth =
      .ok () := rfl
  have hknown : ∃ known, certainModel.inferVector
      (assessedVector observedSnapshot capturedTruth normalHealth) = .ok known :=
    exists_ok_of_isSome (by decide +kernel)
  obtain ⟨known, hknown⟩ := hknown
  have hanswer : ∃ external, pinnedClient.inferVector
      (assessedVector observedSnapshot capturedTruth normalHealth) = .ok external :=
    exists_ok_of_isSome (by decide +kernel)
  obtain ⟨external, hexternal⟩ := hanswer
  have hrecordable : ¬pinnedRouter.Recordable
      (assessedVector observedSnapshot capturedTruth normalHealth) ⟨0, 0, 0⟩ := by
    have hgemini : pinnedRouter.gemini = some pinnedClient.inferVector := rfl
    have hversion : isModelText external.artifactVersion = false := by
      rw [GeminiDiagnosisClient.artifactVersion_eq hexternal]
      decide +kernel
    simp only [DiagnosisRouter.Recordable, hgemini, hexternal, hversion]
    decide
  exact fun h => not_shadow_of_unrecordable hadmitted hknown hrecordable h.shadow

end Retrywise.ControlPlane
