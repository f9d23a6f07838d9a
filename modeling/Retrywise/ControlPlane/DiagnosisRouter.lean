import Mathlib.Tactic.FieldSimp
import Mathlib.Tactic.Linarith
import Mathlib.Tactic.Positivity
import Retrywise.ControlPlane.AssessmentPlanner

/-!
# Diagnoses: the router

`packages/diagnosis`: the provenance a diagnosis is recorded with, the local model, the
Gemini client and its circuit breaker, and the router between them. The arithmetic of
the local model is left open, and so is everything Gemini answers.

Each exit of the router hands out a diagnosis in its own way: as the local model or
Gemini made it, or as the local model made it with another provenance.

> `infer_shadowed`: a shadowed diagnosis is the local one but for its provenance.
-/

namespace Retrywise.ControlPlane

open Retrywise.Foundation Retrywise.Domain

/-! ## Provenance -/

/-- `^[A-Za-z0-9][A-Za-z0-9._:\/\-]{0,99}$`. -/
def isModelText (value : String) : Bool :=
  match value.toList with
  | [] => false
  | c :: rest =>
    c.isAlphanum && decide (rest.length ≤ 99) && rest.all fun d =>
      d.isAlphanum || d = '.' || d = '_' || d = ':' || d = '/' || d = '-'

/-- `^[A-Z][A-Z0-9_]{0,99}$`. -/
def isReasonText (value : String) : Bool :=
  match value.toList with
  | [] => false
  | c :: rest =>
    c.isUpper && decide (rest.length ≤ 99) && rest.all fun d =>
      d.isUpper || d.isDigit || d = '_'

/-- `ShadowDiagnosis.__post_init__`. -/
def ShadowDiagnosis.postInit (s : ShadowDiagnosis) : Except ControlPlaneError Unit := do
  raiseIf (¬isModelText s.modelName) (.invalidValue "shadow model_name is invalid")
  raiseIf (¬isModelText s.modelVersion) (.invalidValue "shadow model_version is invalid")

/-- The shadow of a provenance, where there is one. -/
def shadowPostInit : Option ShadowDiagnosis → Except ControlPlaneError Unit
  | none => .ok ()
  | some shadow => shadow.postInit

/-- `DiagnosisProvenance.__post_init__`, behind that of its shadow. -/
def DiagnosisProvenance.postInit (p : DiagnosisProvenance) : Except ControlPlaneError Unit := do
  shadowPostInit p.shadow
  raiseIf (¬isModelText p.modelName) (.invalidValue "model_name is invalid")
  raiseIf (60000 < p.latencyMs) (.invalidValue "latency_ms must be between zero and 60000")
  raiseIf (p.fallbackReasonCode.any fun code => ¬isReasonText code)
    (.invalidValue "fallback_reason_code is invalid")
  raiseIf (p.requestedMode = .localMl ∧ (p.executedEngine ≠ .localMl ∨
      p.fallbackReasonCode.isSome = true ∨ p.shadow.isSome = true))
    (.invalidValue "local mode cannot claim external engine activity")
  raiseIf (p.requestedMode = .hybridGemini ∧ p.shadow.isSome = true)
    (.invalidValue "hybrid mode cannot carry a shadow result")
  raiseIf (p.requestedMode = .shadow ∧ p.executedEngine ≠ .localMl)
    (.invalidValue "shadow mode must keep local ML authoritative")
  raiseIf (p.requestedMode = .shadow ∧ p.shadow = none ∧ p.fallbackReasonCode = none)
    (.invalidValue "shadow mode requires a result or a failure reason")

/-! ## Diagnoses, as they are made -/

/-- `FAILURE_TAXONOMY`. -/
def failureTaxonomy : List FailureClass :=
  [.providerIncident, .customerCorrectable, .credentialPermanent, .fundsTemporary,
    .merchantIntegration, .unknown]

inductive AbstentionReason where
  | outOfDistribution | lowConfidence | externalEngineFallback
deriving DecidableEq, Repr

structure EvidenceItem where
  featureName : String
  observedValue : String
  predictedSupportCount : Nat
  predictedLikelihood : Probability
  alternativesMeanLikelihood : Probability
  likelihoodRatio : Decimal

/-- A diagnosis with what only its record needs. -/
structure DiagnosisFields extends DiagnosisResult where
  abstentionReasons : List AbstentionReason
  evidence : List EvidenceItem

def FeatureVector.outOfDistribution (v : FeatureVector) : Bool :=
  v.unknownFeatures ≠ [] || v.missingFeatures ≠ []

/-- The first class of the greatest probability. -/
def likeliest (probabilities : List (FailureClass × Probability)) :
    Option (FailureClass × Probability) :=
  let maximum := (probabilities.map fun item => item.2.value.value).foldl max 0
  probabilities.find? fun item => item.2.value.value = maximum

/-- `DiagnosisResult.__post_init__`. -/
def DiagnosisFields.postInit (d : DiagnosisFields) : Except ControlPlaneError Unit := do
  raiseIf (d.classProbabilities.map Prod.fst ≠ failureTaxonomy)
    (.invalidValue "class probabilities must use the closed taxonomy")
  raiseIf ((d.classProbabilities.map fun item => item.2.value.value).sum ≠ 1)
    (.invalidValue "class probabilities must sum exactly to one")
  raiseIf ((likeliest d.classProbabilities).any fun item =>
      item.1 ≠ d.predictedClass ∨ item.2.value.value ≠ d.confidence.value.value)
    (.invalidValue "prediction and confidence must match the probability vector")
  raiseIf (d.abstained ≠ decide (d.abstentionReasons ≠ []))
    (.invalidValue "abstention flag must match its reason codes")
  raiseIf (d.outOfDistribution ≠ d.featureSnapshot.outOfDistribution)
    (.invalidValue "OOD flag must match normalized feature evidence")

structure Diagnosis extends DiagnosisFields where
  provenanceValid : provenance.postInit = .ok ()
  valid : toDiagnosisFields.postInit = .ok ()

/-- `DiagnosisResult(..)`, its provenance first. -/
def DiagnosisFields.build (d : DiagnosisFields) : Except ControlPlaneError Diagnosis :=
  match provenanceValid : d.provenance.postInit with
  | .error e => .error e
  | .ok () =>
    match valid : d.postInit with
    | .error e => .error e
    | .ok () => .ok ⟨d, provenanceValid, valid⟩

theorem DiagnosisFields.build_ok_iff {d : DiagnosisFields} {diagnosis : Diagnosis} :
    d.build = .ok diagnosis ↔ diagnosis.toDiagnosisFields = d := by
  constructor
  · intro h
    unfold DiagnosisFields.build at h
    split at h
    · exact absurd h (by simp)
    · split at h
      · exact absurd h (by simp)
      · rw [← Except.ok.inj h]
  · rintro rfl
    unfold DiagnosisFields.build
    split
    next e herror => exact absurd (diagnosis.provenanceValid.symm.trans herror) (by simp)
    next =>
      split
      next e herror => exact absurd (diagnosis.valid.symm.trans herror) (by simp)
      next => rfl

/-- A diagnosis whose provenance is not accepted is not made. -/
theorem DiagnosisFields.build_of_provenance {d : DiagnosisFields} {e : ControlPlaneError}
    (h : d.provenance.postInit = .error e) : d.build = .error e := by
  unfold DiagnosisFields.build
  split
  next e' herror => rw [Except.error.inj (herror.symm.trans h)]
  next hok => exact absurd (hok.symm.trans h) (by simp)

/-- The reasons a fresh diagnosis abstains for. -/
def abstentions (vector : FeatureVector) (confidence minConfidence : Probability) :
    List AbstentionReason :=
  (if vector.outOfDistribution then [.outOfDistribution] else []) ++
    if confidence.value.value < minConfidence.value.value then [.lowConfidence] else []

/-- `DEFAULT_MIN_CONFIDENCE`. -/
def defaultMinConfidence : Probability :=
  ⟨⟨false, 70, -2⟩, by norm_num [Decimal.value], by norm_num [Decimal.value]⟩

/-! ## The local model -/

/-- `MODEL_NAME`, also of the bundled artifact. -/
def localModelName : String := "retrywise_categorical_naive_bayes"

/-- `DiagnosisModel`: what it computes for a class, and the evidence for the class it
predicts, are left open. -/
structure DiagnosisModel where
  artifactVersion : String
  probabilityFor : FeatureVector → FailureClass → Except ControlPlaneError Probability
  evidence : FeatureVector → FailureClass → List EvidenceItem
  minConfidence : Probability := defaultMinConfidence

/-- `DiagnosisModel.infer_vector`. -/
def DiagnosisModel.inferVector (model : DiagnosisModel) (vector : FeatureVector) :
    Except ControlPlaneError Diagnosis := do
  let probabilities ← failureTaxonomy.mapM fun label =>
    (model.probabilityFor vector label).map fun probability => (label, probability)
  let (predicted, confidence) ← someOr (likeliest probabilities)
    (.invalidValue "model produced no probability mass")
  let reasons := abstentions vector confidence model.minConfidence
  DiagnosisFields.build {
    artifactVersion := model.artifactVersion
    predictedClass := predicted
    confidence := confidence
    classProbabilities := probabilities
    abstained := reasons ≠ []
    abstentionReasons := reasons
    outOfDistribution := vector.outOfDistribution
    featureSnapshot := vector
    evidence := model.evidence vector predicted
    provenance := { modelName := localModelName } }

/-! ## Gemini -/

/-- What a call of Gemini raises: a `GeminiDiagnosisError`, or anything else. -/
inductive GeminiRaise where
  | diagnosis (reasonCode : String)
  | other (error : ControlPlaneError)

/-- A coefficient at decimal places, with no trailing zero behind the point. -/
def stripped : (places coefficient : Nat) → Decimal
  | 0, coefficient => ⟨false, coefficient, 0⟩
  | places + 1, coefficient =>
    if coefficient % 10 = 0 then stripped places (coefficient / 10)
    else ⟨false, coefficient, -(places + 1)⟩

theorem stripped_value (places coefficient : Nat) :
    (stripped places coefficient).value = coefficient / 10 ^ places := by
  induction places generalizing coefficient with
  | zero => simp [stripped, Decimal.value]
  | succ places ih =>
    unfold stripped
    by_cases hzero : coefficient % 10 = 0
    · rw [if_pos hzero, ih]
      have hexact : coefficient / 10 * 10 = coefficient :=
        Nat.div_mul_cancel (Nat.dvd_of_mod_eq_zero hzero)
      have hcast : ((coefficient / 10 : Nat) : Rat) * 10 = coefficient := by exact_mod_cast hexact
      rw [← hcast, pow_succ]
      field_simp
    · rw [if_neg hzero]
      show (1 : Rat) * coefficient * 10 ^ (-((places : Int) + 1)) = _
      rw [one_mul, zpow_neg, div_eq_mul_inv]
      norm_cast

/-- `Decimal(point) / Decimal(10000)`. -/
def basisPoints (point : Nat) : Decimal := stripped 4 point

/-- A class's probability in basis points. -/
def pointProbability (point : Nat) (h : point ≤ 10000) : Probability where
  value := basisPoints point
  nonneg := by
    rw [basisPoints, stripped_value]
    positivity
  le_one := by
    rw [basisPoints, stripped_value, div_le_one (by positivity)]
    exact_mod_cast h

/-- One entry of `probabilities_basis_points`. -/
def readPoint (probabilities : Json) (label : FailureClass) :
    Except GeminiRaise (FailureClass × Nat × Probability) :=
  match probabilities.get? label.value with
  | some (.int point) =>
    if h : 0 ≤ point ∧ point.toNat ≤ 10000 then
      .ok (label, point.toNat, pointProbability point.toNat h.2)
    else .error (.diagnosis "GEMINI_SCHEMA_MISMATCH")
  | _ => .error (.diagnosis "GEMINI_SCHEMA_MISMATCH")

/-- The keys of an object are these, whatever their order. -/
def hasKeys (value : Json) (names : List String) : Bool :=
  match value with
  | .obj members => decide ((members.map Prod.fst).Perm names)
  | _ => false

/-- A member that is this very text. -/
def isText (member : Option Json) (text : String) : Bool :=
  match member with
  | some (.str value) => value = text
  | _ => false

/-- `DiagnosisResult(..)` of what Gemini said. -/
def geminiFields (vector : FeatureVector) (model : String) (latencyMs : Nat)
    (classProbabilities : List (FailureClass × Probability))
    (likely : FailureClass × Probability) : DiagnosisFields where
  artifactVersion := model
  predictedClass := likely.1
  confidence := likely.2
  classProbabilities := classProbabilities
  abstained := abstentions vector likely.2 defaultMinConfidence ≠ []
  abstentionReasons := abstentions vector likely.2 defaultMinConfidence
  outOfDistribution := vector.outOfDistribution
  featureSnapshot := vector
  evidence := []
  provenance := {
    requestedMode := .hybridGemini
    executedEngine := .gemini
    modelName := "google_gemini"
    latencyMs := latencyMs }

/-- `_diagnosis`. -/
def geminiDiagnosis (value : Json) (vector : FeatureVector) (model : String) (latencyMs : Nat) :
    Except GeminiRaise Diagnosis := do
  raiseIf (¬hasKeys value ["predicted_class", "probabilities_basis_points"])
    (.diagnosis "GEMINI_SCHEMA_MISMATCH")
  let probabilities := (value.get? "probabilities_basis_points").getD .null
  raiseIf (¬hasKeys probabilities (failureTaxonomy.map FailureClass.value))
    (.diagnosis "GEMINI_SCHEMA_MISMATCH")
  let points ← failureTaxonomy.mapM (readPoint probabilities)
  raiseIf ((points.map fun item => item.2.1).sum ≠ 10000)
    (.diagnosis "GEMINI_PROBABILITY_MISMATCH")
  let classProbabilities := points.map fun item => (item.1, item.2.2)
  let likely ← someOr (likeliest classProbabilities) (.diagnosis "GEMINI_PREDICTION_MISMATCH")
  raiseIf (¬isText (value.get? "predicted_class") likely.1.value)
    (.diagnosis "GEMINI_PREDICTION_MISMATCH")
  match (geminiFields vector model latencyMs classProbabilities likely).build with
  | .error e => .error (.other e)
  | .ok diagnosis => .ok diagnosis

/-- `GeminiDiagnosisClient`, with what its constructor checks of the model name. What the
transport and the JSON decoder make of a request is left open. -/
structure GeminiDiagnosisClient where
  model : String
  answer : FeatureVector → Except GeminiRaise Json
  elapsed : Nat
  modelOk : model ≠ "" ∧ model.toList.length ≤ 100 ∧
    model.toList.head?.any isSpace = false ∧ model.toList.getLast?.any isSpace = false

/-- `GeminiDiagnosisClient.infer_vector`; the time is in nanoseconds. -/
def GeminiDiagnosisClient.inferVector (client : GeminiDiagnosisClient) (vector : FeatureVector) :
    Except GeminiRaise Diagnosis := do
  let value ← client.answer vector
  geminiDiagnosis value vector client.model (min 60000 (client.elapsed / 1000000))

/-! ## The circuit breaker -/

/-- `_CircuitBreaker`, in nanoseconds of the monotonic clock. -/
structure CircuitBreaker where
  failureThreshold : Nat := 3
  cooldown : Nat := 60000000000
  failures : Nat := 0
  openedUntil : Nat := 0

namespace CircuitBreaker

variable (circuit : CircuitBreaker) (now : Nat)

def beforeCall : Except String CircuitBreaker :=
  if now < circuit.openedUntil then .error "GEMINI_CIRCUIT_OPEN"
  else if circuit.openedUntil ≠ 0 then .ok { circuit with openedUntil := 0, failures := 0 }
  else .ok circuit

def succeeded : CircuitBreaker := { circuit with failures := 0, openedUntil := 0 }

def failed : CircuitBreaker :=
  if circuit.failureThreshold ≤ circuit.failures + 1 then
    { circuit with failures := circuit.failures + 1, openedUntil := now + circuit.cooldown }
  else { circuit with failures := circuit.failures + 1 }

end CircuitBreaker

/-! ## The router -/

structure DiagnosisRouter where
  gemini : Option (FeatureVector → Except GeminiRaise Diagnosis)
  localModel : DiagnosisModel
  circuit : CircuitBreaker := {}

/-- The clocks of one inference: the monotonic one before the call and behind a failed
one, and how long it took. -/
structure RouterClock where
  calledAt : Nat
  failedAt : Nat
  elapsed : Nat

/-- What a call of Gemini that failed leaves in the record. -/
def fallbackProvenance (mode : DiagnosisMode) (code : String) (elapsed : Nat) :
    DiagnosisProvenance where
  requestedMode := mode
  executedEngine := .localMl
  modelName := localModelName
  latencyMs := min 60000 (elapsed / 1000000)
  fallbackReasonCode := some code

/-- The diagnosis of a call of Gemini that failed. -/
def fellBack (mode : DiagnosisMode) (known : Diagnosis) (code : String) (elapsed : Nat) :
    Except ControlPlaneError Diagnosis :=
  let reasons := known.abstentionReasons ++
    if mode = .hybridGemini ∧ .externalEngineFallback ∉ known.abstentionReasons then
      [.externalEngineFallback]
    else []
  DiagnosisFields.build { known.toDiagnosisFields with
    abstained := reasons ≠ []
    abstentionReasons := reasons
    provenance := fallbackProvenance mode code elapsed }

/-- The diagnosis of Gemini, in the name of the mode that asked for it. -/
def trusted (external : Diagnosis) : Except ControlPlaneError Diagnosis :=
  DiagnosisFields.build { external.toDiagnosisFields with
    provenance := { external.provenance with requestedMode := .hybridGemini } }

/-- What Gemini said in the shadow. -/
def shadowProvenance (known external : Diagnosis) : DiagnosisProvenance where
  requestedMode := .shadow
  executedEngine := .localMl
  modelName := localModelName
  latencyMs := external.provenance.latencyMs
  shadow := some {
    modelName := external.provenance.modelName
    modelVersion := external.artifactVersion
    predictedClass := external.predictedClass.value
    confidence := external.confidence
    agreed := external.predictedClass = known.predictedClass }

/-- The local diagnosis, with Gemini's noted beside it. -/
def shadowed (known external : Diagnosis) : Except ControlPlaneError Diagnosis :=
  DiagnosisFields.build { known.toDiagnosisFields with
    provenance := shadowProvenance known external }

namespace DiagnosisRouter

variable (router : DiagnosisRouter) (mode : DiagnosisMode) (vector : FeatureVector)
  (clock : RouterClock)

/-- Gemini behind its circuit, and the circuit afterwards. -/
def ask : Except GeminiRaise Diagnosis × CircuitBreaker :=
  match router.gemini with
  | none => (.error (.diagnosis "GEMINI_NOT_CONFIGURED"), router.circuit)
  | some gemini =>
    match router.circuit.beforeCall clock.calledAt with
    | .error code => (.error (.diagnosis code), router.circuit)
    | .ok circuit =>
      match gemini vector with
      | .error e => (.error e, circuit)
      | .ok external => (.ok external, circuit.succeeded)

/-- `DiagnosisRouter.infer` of a normalized vector, and the circuit it leaves. -/
def inferVector : Except ControlPlaneError Diagnosis × CircuitBreaker :=
  match router.localModel.inferVector vector with
  | .error e => (.error e, router.circuit)
  | .ok known =>
    if mode = .localMl then (.ok known, router.circuit)
    else
      match router.ask vector clock with
      | (.error (.diagnosis code), circuit) =>
        (fellBack mode known code clock.elapsed,
          if code ∈ ["GEMINI_NOT_CONFIGURED", "GEMINI_CIRCUIT_OPEN"] then circuit
          else circuit.failed clock.failedAt)
      | (.error (.other e), circuit) => (.error e, circuit)
      | (.ok external, circuit) =>
        if mode = .hybridGemini then (trusted external, circuit)
        else (shadowed known external, circuit)

/-- `DiagnosisRouter.infer`. -/
def infer (rawFeatures : List (String × Option String)) :
    Except ControlPlaneError Diagnosis × CircuitBreaker :=
  router.inferVector mode (normalizeFeatures rawFeatures) clock

/-! ## What each exit hands out -/

/-- Whatever Gemini answers can be written into a provenance. -/
def Recordable : Prop :=
  match router.gemini with
  | none => True
  | some gemini =>
    clock.calledAt < router.circuit.openedUntil ∨
      match gemini vector with
      | .ok external => isModelText external.artifactVersion = true
      | .error (.diagnosis code) => isReasonText code = true
      | .error (.other _) => False

end DiagnosisRouter

/-- A diagnosis but for its provenance. -/
def DiagnosisFields.withProvenance (d : DiagnosisFields) (p : DiagnosisProvenance) :
    DiagnosisFields := { d with provenance := p }

section

variable {known external : Diagnosis} {code : String} {elapsed : Nat} {p : DiagnosisProvenance}

theorem Diagnosis.abstained_eq (d : Diagnosis) :
    d.abstained = decide (d.abstentionReasons ≠ []) := by
  have hvalid := d.valid
  simp only [DiagnosisFields.postInit, bind_ok_iff, raiseIf_ok_iff, exists_and_left,
    exists_const] at hvalid
  obtain ⟨-, -, -, habstained, -⟩ := hvalid
  exact not_not.mp habstained

/-- The name and the time of a provenance are in their bounds. -/
theorem Diagnosis.provenance_bounds (d : Diagnosis) :
    isModelText d.provenance.modelName = true ∧ d.provenance.latencyMs ≤ 60000 := by
  have hvalid := d.provenanceValid
  simp only [DiagnosisProvenance.postInit, bind_ok_iff, raiseIf_ok_iff, exists_and_left,
    exists_const] at hvalid
  obtain ⟨_, -, hname, hlatency, -⟩ := hvalid
  exact ⟨not_not.mp hname, by omega⟩

/-- Another provenance that is accepted makes another diagnosis. -/
theorem exists_build_withProvenance (known : Diagnosis) (hp : p.postInit = .ok ()) :
    ∃ d : Diagnosis, (known.withProvenance p).build = .ok d ∧
      d.toDiagnosisFields = known.withProvenance p :=
  ⟨⟨known.withProvenance p, hp, known.valid⟩, DiagnosisFields.build_ok_iff.mpr rfl, rfl⟩

theorem isModelText_localModelName : isModelText localModelName = true := by decide

/-- A fallback is recorded where its code is a reason code. -/
theorem fallbackProvenance_ok_iff {mode : DiagnosisMode} (hmode : mode ≠ .localMl) :
    (fallbackProvenance mode code elapsed).postInit = .ok () ↔ isReasonText code = true := by
  have hlatency : ¬60000 < min 60000 (elapsed / 1000000) := by omega
  simp only [DiagnosisProvenance.postInit, fallbackProvenance, bind_ok_iff, raiseIf_ok_iff,
    isModelText_localModelName, hlatency]
  cases mode with
  | localMl => exact absurd rfl hmode
  | hybridGemini => simp [shadowPostInit]
  | shadow => simp [shadowPostInit]

/-- What Gemini said is recorded where its model version is a model name. -/
theorem shadowProvenance_ok_iff :
    (shadowProvenance known external).postInit = .ok () ↔
      isModelText external.artifactVersion = true := by
  obtain ⟨hname, hlatency⟩ := external.provenance_bounds
  simp only [DiagnosisProvenance.postInit, bind_ok_iff, raiseIf_ok_iff]
  simp [shadowPostInit, ShadowDiagnosis.postInit, shadowProvenance, isModelText_localModelName,
    hname, hlatency]

/-- In the shadow, a call that failed changes the provenance only. -/
theorem fellBack_shadow :
    fellBack .shadow known code elapsed =
      (known.withProvenance (fallbackProvenance .shadow code elapsed)).build := by
  have hsame : ({ known.toDiagnosisFields with
      abstained := decide (known.abstentionReasons ≠ [])
      abstentionReasons := known.abstentionReasons
      provenance := fallbackProvenance .shadow code elapsed } : DiagnosisFields) =
        known.withProvenance (fallbackProvenance .shadow code elapsed) := by
    rw [← known.abstained_eq]
    rfl
  rw [← hsame]
  simp [fellBack]

end

namespace DiagnosisRouter

variable {router : DiagnosisRouter} {mode : DiagnosisMode} {vector : FeatureVector}
  {clock : RouterClock} {known : Diagnosis}

theorem ask_of_open {gemini : FeatureVector → Except GeminiRaise Diagnosis}
    (hgemini : router.gemini = some gemini) (hopen : clock.calledAt < router.circuit.openedUntil) :
    router.ask vector clock = (.error (.diagnosis "GEMINI_CIRCUIT_OPEN"), router.circuit) := by
  simp only [ask, hgemini, CircuitBreaker.beforeCall, if_pos hopen]

/-- Through a closed circuit, what is heard is what Gemini says. -/
theorem ask_of_closed {gemini : FeatureVector → Except GeminiRaise Diagnosis}
    (hgemini : router.gemini = some gemini)
    (hclosed : ¬clock.calledAt < router.circuit.openedUntil) :
    (router.ask vector clock).1 = gemini vector := by
  have hcalled : ∃ circuit, router.circuit.beforeCall clock.calledAt = .ok circuit := by
    unfold CircuitBreaker.beforeCall
    rw [if_neg hclosed]
    split
    · exact ⟨_, rfl⟩
    · exact ⟨_, rfl⟩
  obtain ⟨circuit, hcircuit⟩ := hcalled
  simp only [ask, hgemini, hcircuit]
  cases gemini vector with
  | error e => rfl
  | ok external => rfl

/-- What the router makes of what it heard. -/
def heard (mode : DiagnosisMode) (known : Diagnosis) (elapsed : Nat) :
    Except GeminiRaise Diagnosis → Except ControlPlaneError Diagnosis
  | .error (.diagnosis code) => fellBack mode known code elapsed
  | .error (.other e) => .error e
  | .ok external => if mode = .hybridGemini then trusted external else shadowed known external

theorem inferVector_eq_heard (hmode : mode ≠ .localMl)
    (hknown : router.localModel.inferVector vector = .ok known) :
    (router.inferVector mode vector clock).1 =
      heard mode known clock.elapsed (router.ask vector clock).1 := by
  simp only [inferVector, hknown, if_neg hmode]
  rcases router.ask vector clock with ⟨answer, circuit⟩
  cases answer with
  | ok external =>
    show (if mode = .hybridGemini then (trusted external, circuit)
      else (shadowed known external, circuit)).1 = _
    rw [apply_ite Prod.fst]
    rfl
  | error e =>
    cases e with
    | diagnosis code => rfl
    | other e => rfl

/-- **A shadowed diagnosis is the local one but for its provenance**, wherever what Gemini
says can be recorded; elsewhere there is none. -/
theorem infer_shadowed (clock : RouterClock) (hknown : router.localModel.inferVector vector = .ok known) :
    (router.Recordable vector clock → ∃ d : Diagnosis, ∃ p,
      (router.inferVector .shadow vector clock).1 = .ok d ∧
        d.toDiagnosisFields = known.withProvenance p ∧ p.requestedMode = .shadow) ∧
    (¬router.Recordable vector clock →
      ∃ e, (router.inferVector .shadow vector clock).1 = .error e) := by
  rw [inferVector_eq_heard (by simp) hknown]
  -- a provenance that is accepted, or one that is not
  have hbuild : ∀ p : DiagnosisProvenance, p.requestedMode = .shadow →
      (p.postInit = .ok () → ∃ d : Diagnosis, ∃ p', (known.withProvenance p).build = .ok d ∧
        d.toDiagnosisFields = known.withProvenance p' ∧ p'.requestedMode = .shadow) ∧
      (p.postInit ≠ .ok () → ∃ e, (known.withProvenance p).build = .error e) := by
    intro p hmode
    constructor
    · intro hp
      obtain ⟨d, hd, hfields⟩ := exists_build_withProvenance known hp
      exact ⟨d, p, hd, hfields, hmode⟩
    · intro hp
      cases hraise : p.postInit with
      | ok u => exact absurd hraise hp
      | error e => exact ⟨e, DiagnosisFields.build_of_provenance hraise⟩
  have hfallback : ∀ code, isReasonText code = true → ∃ d : Diagnosis, ∃ p,
      heard .shadow known clock.elapsed (.error (.diagnosis code)) = .ok d ∧
        d.toDiagnosisFields = known.withProvenance p ∧ p.requestedMode = .shadow := by
    intro code hcode
    show ∃ d : Diagnosis, ∃ p, fellBack .shadow known code clock.elapsed = .ok d ∧ _
    rw [fellBack_shadow]
    exact (hbuild _ rfl).1 ((fallbackProvenance_ok_iff (by simp)).mpr hcode)
  cases hgemini : router.gemini with
  | none =>
    have hasked : router.ask vector clock =
        (.error (.diagnosis "GEMINI_NOT_CONFIGURED"), router.circuit) := by
      simp only [ask, hgemini]
    rw [hasked]
    refine ⟨fun _ => hfallback _ (by decide), fun h => absurd ?_ h⟩
    simp only [Recordable, hgemini]
  | some gemini =>
    by_cases hopen : clock.calledAt < router.circuit.openedUntil
    · rw [ask_of_open hgemini hopen]
      refine ⟨fun _ => hfallback _ (by decide), fun h => absurd ?_ h⟩
      simp only [Recordable, hgemini]
      exact .inl hopen
    · rw [ask_of_closed hgemini hopen]
      have hrecordable : router.Recordable vector clock ↔
          match gemini vector with
          | .ok external => isModelText external.artifactVersion = true
          | .error (.diagnosis code) => isReasonText code = true
          | .error (.other _) => False := by
        simp only [Recordable, hgemini, hopen, false_or]
      rw [hrecordable]
      cases hanswer : gemini vector with
      | ok external =>
        show (isModelText external.artifactVersion = true → ∃ d : Diagnosis, ∃ p,
          (known.withProvenance (shadowProvenance known external)).build = .ok d ∧ _) ∧ _
        obtain ⟨hok, herror⟩ := hbuild (shadowProvenance known external) rfl
        rw [ne_eq, shadowProvenance_ok_iff] at herror
        exact ⟨fun h => hok (shadowProvenance_ok_iff.mpr h), herror⟩
      | error e =>
        cases e with
        | other e => exact ⟨False.elim, fun _ => ⟨e, rfl⟩⟩
        | diagnosis code =>
          refine ⟨hfallback code, fun h => ?_⟩
          show ∃ e, fellBack .shadow known code clock.elapsed = .error e
          rw [fellBack_shadow]
          exact (hbuild _ rfl).2 fun hp => h ((fallbackProvenance_ok_iff (by simp)).mp hp)

/-- A diagnosis asked of Gemini says so. -/
theorem requestedMode_of_hybrid {diagnosis : Diagnosis}
    (h : (router.inferVector .hybridGemini vector clock).1 = .ok diagnosis) :
    diagnosis.provenance.requestedMode = .hybridGemini := by
  cases hknown : router.localModel.inferVector vector with
  | error e =>
    rw [show (router.inferVector .hybridGemini vector clock).1 = .error e by
      simp only [inferVector, hknown]] at h
    exact absurd h (by simp)
  | ok known =>
    rw [inferVector_eq_heard (by simp) hknown] at h
    cases hasked : (router.ask vector clock).1 with
    | ok external =>
      rw [hasked] at h
      rw [DiagnosisFields.build_ok_iff.mp h]
    | error e =>
      rw [hasked] at h
      cases e with
      | diagnosis code => rw [DiagnosisFields.build_ok_iff.mp h]; rfl
      | other e => exact absurd h (by simp [heard])

/-- In its own mode the local model's diagnosis is handed out as it is. -/
theorem inferVector_local :
    (router.inferVector .localMl vector clock).1 = router.localModel.inferVector vector := by
  unfold inferVector
  cases router.localModel.inferVector vector with
  | error e => rfl
  | ok known => rfl

/-- What the local model does not know is not asked of Gemini either. -/
theorem inferVector_of_error {e : ControlPlaneError}
    (h : router.localModel.inferVector vector = .error e) :
    (router.inferVector mode vector clock).1 = .error e := by
  simp only [inferVector, h]

end DiagnosisRouter

/-- The local model never asked anyone else. -/
theorem DiagnosisModel.requestedMode_local {model : DiagnosisModel} {vector : FeatureVector}
    {diagnosis : Diagnosis} (h : model.inferVector vector = .ok diagnosis) :
    diagnosis.provenance.requestedMode = .localMl := by
  obtain ⟨probabilities, -, h⟩ := bind_ok_iff.mp h
  obtain ⟨⟨predicted, confidence⟩, -, h⟩ := bind_ok_iff.mp h
  rw [DiagnosisFields.build_ok_iff.mp h]

/-! ## The client's own answers -/

/-- A failure that is told by a reason code. -/
def GeminiRaise.Coded (e : GeminiRaise) : Prop :=
  ∃ code, e = .diagnosis code ∧ isReasonText code = true

theorem readPoint_coded {probabilities : Json} {label : FailureClass} :
    RaisesOnly GeminiRaise.Coded (readPoint probabilities label) := by
  intro e h
  unfold readPoint at h
  split at h
  next point _ =>
    split at h
    · exact absurd h (by simp)
    · exact ⟨_, (Except.error.inj h).symm, by decide⟩
  next => exact ⟨_, (Except.error.inj h).symm, by decide⟩

theorem readPoints_coded {probabilities : Json} {labels : List FailureClass} :
    RaisesOnly GeminiRaise.Coded (labels.mapM (readPoint probabilities)) := by
  induction labels with
  | nil =>
    rw [List.mapM_nil]
    exact RaisesOnly.of_ok rfl
  | cons label labels ih =>
    rw [List.mapM_cons]
    refine readPoint_coded.bind fun point _ => ih.bind fun points _ => ?_
    exact RaisesOnly.of_ok rfl

/-- The points that were read are of these classes, and each is its probability. -/
theorem readPoints_ok {probabilities : Json} {labels : List FailureClass}
    {points : List (FailureClass × Nat × Probability)}
    (h : labels.mapM (readPoint probabilities) = .ok points) :
    points.map Prod.fst = labels ∧
      (points.map fun item => item.2.2.value.value).sum =
        ((points.map fun item => item.2.1).sum : Nat) / 10000 := by
  induction labels generalizing points with
  | nil =>
    rw [List.mapM_nil] at h
    rw [← pure_ok_iff.mp h]
    simp
  | cons label labels ih =>
    rw [List.mapM_cons] at h
    obtain ⟨item, hitem, h⟩ := bind_ok_iff.mp h
    obtain ⟨items, hitems, h⟩ := bind_ok_iff.mp h
    obtain ⟨hlabels, hsum⟩ := ih hitems
    have hread : item.1 = label ∧ item.2.2.value.value = (item.2.1 : Rat) / 10000 := by
      unfold readPoint at hitem
      split at hitem
      next point _ =>
        split at hitem
        next hbounds =>
          rw [← Except.ok.inj hitem]
          refine ⟨rfl, ?_⟩
          show (stripped 4 point.toNat).value = _
          rw [stripped_value]
          norm_num
        next => exact absurd hitem (by simp)
      next => exact absurd hitem (by simp)
    rw [← pure_ok_iff.mp h]
    constructor
    · rw [List.map_cons, hlabels, hread.1]
    · rw [List.map_cons, List.sum_cons, hsum, hread.2, List.map_cons, List.sum_cons,
        Nat.cast_add, add_div]

/-- What the constructors check has been checked by then. -/
theorem exists_build_geminiFields {vector : FeatureVector} {model : String} {latencyMs : Nat}
    {probabilities : List (FailureClass × Probability)} {likely : FailureClass × Probability}
    (hlatency : latencyMs ≤ 60000) (hclasses : probabilities.map Prod.fst = failureTaxonomy)
    (hone : (probabilities.map fun item => item.2.value.value).sum = 1)
    (hlikely : likeliest probabilities = some likely) :
    ∃ diagnosis, (geminiFields vector model latencyMs probabilities likely).build =
      .ok diagnosis := by
  have hname : isModelText "google_gemini" = true := by decide
  have hprovenance :
      (geminiFields vector model latencyMs probabilities likely).provenance.postInit = .ok () := by
    simp only [DiagnosisProvenance.postInit, bind_ok_iff, raiseIf_ok_iff]
    simp [geminiFields, shadowPostInit, hname, hlatency]
  have hvalid : (geminiFields vector model latencyMs probabilities likely).postInit = .ok () := by
    simp only [DiagnosisFields.postInit, bind_ok_iff, raiseIf_ok_iff]
    simp [geminiFields, hclasses, hone, hlikely]
  exact ⟨⟨_, hprovenance, hvalid⟩, DiagnosisFields.build_ok_iff.mpr rfl⟩

/-- **Whatever Gemini answers is a diagnosis, or a failure with a reason code.** -/
theorem geminiDiagnosis_coded {value : Json} {vector : FeatureVector} {model : String}
    {latencyMs : Nat} (hlatency : latencyMs ≤ 60000) :
    RaisesOnly GeminiRaise.Coded (geminiDiagnosis value vector model latencyMs) := by
  have hcoded : ∀ code, isReasonText code = true → GeminiRaise.Coded (.diagnosis code) :=
    fun code h => ⟨code, rfl, h⟩
  unfold geminiDiagnosis
  refine (raisesOnly_raiseIf (hcoded _ (by decide))).bind fun _ _ => ?_
  refine (raisesOnly_raiseIf (hcoded _ (by decide))).bind fun _ _ => ?_
  refine readPoints_coded.bind fun points hpoints => ?_
  refine (raisesOnly_raiseIf (hcoded _ (by decide))).bind fun _ htotal => ?_
  refine (raisesOnly_someOr (hcoded _ (by decide))).bind fun likely hlikely => ?_
  refine (raisesOnly_raiseIf (hcoded _ (by decide))).bind fun _ _ => ?_
  obtain ⟨hlabels, hsum⟩ := readPoints_ok hpoints
  rw [raiseIf_ok_iff, not_not] at htotal
  rw [someOr_ok_iff] at hlikely
  have hclasses : (points.map fun item => (item.1, item.2.2)).map Prod.fst = failureTaxonomy := by
    rw [List.map_map]
    exact hlabels
  have hone : ((points.map fun item => (item.1, item.2.2)).map fun item =>
      item.2.value.value).sum = 1 := by
    rw [List.map_map]
    show (points.map fun item => item.2.2.value.value).sum = 1
    rw [hsum, htotal]
    norm_num
  obtain ⟨diagnosis, hbuilt⟩ :
      ∃ diagnosis, (geminiFields vector model latencyMs
        (points.map fun item => (item.1, item.2.2)) likely).build = .ok diagnosis :=
    exists_build_geminiFields hlatency hclasses hone hlikely
  simp only [hbuilt]
  exact RaisesOnly.of_ok rfl

/-- What the client answers is of its model. -/
theorem GeminiDiagnosisClient.artifactVersion_eq {client : GeminiDiagnosisClient}
    {vector : FeatureVector} {external : Diagnosis}
    (h : client.inferVector vector = .ok external) : external.artifactVersion = client.model := by
  obtain ⟨value, -, h⟩ := bind_ok_iff.mp h
  unfold geminiDiagnosis at h
  obtain ⟨_, -, h⟩ := bind_ok_iff.mp h
  obtain ⟨_, -, h⟩ := bind_ok_iff.mp h
  obtain ⟨points, -, h⟩ := bind_ok_iff.mp h
  obtain ⟨_, -, h⟩ := bind_ok_iff.mp h
  obtain ⟨likely, -, h⟩ := bind_ok_iff.mp h
  obtain ⟨_, -, h⟩ := bind_ok_iff.mp h
  split at h
  · exact absurd h (by simp)
  next diagnosis hbuilt =>
    rw [← Except.ok.inj h, DiagnosisFields.build_ok_iff.mp hbuilt]
    rfl

/-- A local model that is sure of one class. -/
def certainModel : DiagnosisModel where
  artifactVersion := "sha256:0"
  probabilityFor _ label := .ok (
    if label = .customerCorrectable then
      ⟨⟨false, 1, 0⟩, Decimal.nonneg_one, Decimal.one_le_one⟩
    else ⟨⟨false, 0, 0⟩, by simp [Decimal.value], by simp [Decimal.value]⟩)
  evidence _ _ := []

end Retrywise.ControlPlane
