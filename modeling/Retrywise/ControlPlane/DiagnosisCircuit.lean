import Retrywise.ControlPlane.GeminiResponse

/-!
# Diagnoses: the router over many calls

`DiagnosisRouter.infer` with the client behind it, for whatever the transport hands over, and the
circuit over a sequence of calls on a monotonic clock.

> `infer_total_iff`: a call falls back on the local diagnosis wherever Gemini's is not accepted,
> exactly when its reply is answerable.

> `made_iff`: over any calls, Gemini is asked exactly when the circuit is not open; and it is open
> for the cool-down behind every third failure in a row.
-/

namespace Retrywise.ControlPlane.Gemini

open Retrywise.Foundation Retrywise.Domain

/-! ## Calls -/

/-- A model name that the client is constructed with. -/
structure ModelName where
  text : String
  ok : text ≠ "" ∧ text.toList.length ≤ 100 ∧
    text.toList.head?.any isSpace = false ∧ text.toList.getLast?.any isSpace = false

/-- A router as it is configured. -/
structure RouterSetup where
  model : Option ModelName
  localModel : DiagnosisModel
  recursionLimit : Nat

/-- One call of the router, and what the transport hands over if it is asked. -/
structure DiagnosisCall where
  mode : DiagnosisMode
  vector : FeatureVector
  clock : RouterClock
  reply : Reply
  elapsed : Nat

namespace RouterSetup

variable (setup : RouterSetup) (circuit : CircuitBreaker) (call : DiagnosisCall)

/-- The client of a call. -/
def client (model : ModelName) : GeminiDiagnosisClient where
  model := model.text
  answer _ := structuredOutput setup.recursionLimit call.reply
  elapsed := call.elapsed
  modelOk := model.ok

/-- The router of a call, with the circuit that the calls before left. -/
def router : DiagnosisRouter where
  gemini := setup.model.map fun model => (setup.client call model).inferVector
  localModel := setup.localModel
  circuit := circuit

/-- `DiagnosisRouter.infer` of a call, and the circuit that it leaves. -/
def infer : Except ControlPlaneError Diagnosis × CircuitBreaker :=
  (setup.router circuit call).inferVector call.mode call.vector call.clock

/-- The reply is asked for: not in the local mode, of a client, through a circuit that is not
open. -/
def Asks (model : ModelName) : Prop :=
  call.mode ≠ .localMl ∧ setup.model = some model ∧
    ¬call.clock.calledAt < circuit.openedUntil

/-- The reply is what the call is to return. -/
def Overrules (points : List (FailureClass × Nat)) (label : FailureClass) : Prop :=
  call.mode = .hybridGemini ∧ (∃ model, setup.Asks circuit call model) ∧
    ∃ response, call.reply = .ok response ∧
      Accepted setup.recursionLimit response points label

/-- Wherever the reply is asked for it is caught; and if the shadow is to keep it, the model has
a name that can be recorded. -/
def Answerable : Prop :=
  ∀ model, setup.Asks circuit call model → Caught setup.recursionLimit call.reply ∧
    (call.mode = .shadow → (∃ response points label, call.reply = .ok response ∧
      Accepted setup.recursionLimit response points label) → isModelText model.text = true)

end RouterSetup

/-- The reasons a diagnosis that falls back abstains for. -/
def fallbackReasons (mode : DiagnosisMode) (known : Diagnosis) : List AbstentionReason :=
  known.abstentionReasons ++
    if mode = .hybridGemini ∧ .externalEngineFallback ∉ known.abstentionReasons then
      [.externalEngineFallback]
    else []

/-- The local diagnosis, abstaining where Gemini was to decide. -/
def localFields (mode : DiagnosisMode) (known : Diagnosis) (p : DiagnosisProvenance) :
    DiagnosisFields :=
  { known.toDiagnosisFields with
    abstained := fallbackReasons mode known ≠ []
    abstentionReasons := fallbackReasons mode known
    provenance := p }

/-- What a call is to return: Gemini's diagnosis where it overrules, elsewhere the local one. -/
structure Diagnosed (setup : RouterSetup) (circuit : CircuitBreaker) (call : DiagnosisCall)
    (known diagnosis : Diagnosis) : Prop where
  external : ∀ points label, setup.Overrules circuit call points label →
    diagnosis.predictedClass = label ∧
      diagnosis.classProbabilities = classProbabilities points ∧
      diagnosis.provenance.executedEngine = .gemini
  otherwise : (∀ points label, ¬setup.Overrules circuit call points label) →
    ∃ p, p.executedEngine = .localMl ∧ diagnosis.toDiagnosisFields = localFields call.mode known p

/-! ## Falling back -/

section

variable {setup : RouterSetup} {circuit : CircuitBreaker} {call : DiagnosisCall}
  {known diagnosis external : Diagnosis} {mode : DiagnosisMode} {code : String} {elapsed : Nat}

theorem fallbackReasons_eq (h : mode ≠ .hybridGemini) :
    fallbackReasons mode known = known.abstentionReasons := by
  simp [fallbackReasons, h]

theorem localFields_eq {p : DiagnosisProvenance} (h : mode ≠ .hybridGemini) :
    localFields mode known p = known.withProvenance p := by
  unfold localFields
  rw [fallbackReasons_eq h, ← known.abstained_eq]
  rfl

/-- Another provenance and other reasons make another diagnosis. -/
theorem exists_build_localFields {p : DiagnosisProvenance} (hp : p.postInit = .ok ()) :
    ∃ diagnosis : Diagnosis, (localFields mode known p).build = .ok diagnosis ∧
      diagnosis.toDiagnosisFields = localFields mode known p := by
  have hknown := known.valid
  have hvalid : (localFields mode known p).postInit = .ok () := by
    simp only [DiagnosisFields.postInit, bind_ok_iff, raiseIf_ok_iff, exists_and_left,
      exists_const] at hknown ⊢
    obtain ⟨hclasses, hone, hlikely, -, hdistribution⟩ := hknown
    exact ⟨hclasses, hone, hlikely, by simp [localFields], hdistribution⟩
  exact ⟨⟨_, hp, hvalid⟩, DiagnosisFields.build_ok_iff.mpr rfl, rfl⟩

/-- A call of Gemini that failed with a reason code is recorded. -/
theorem exists_fellBack (known : Diagnosis) (elapsed : Nat) (hmode : mode ≠ .localMl) (hcode : isReasonText code = true) :
    ∃ diagnosis, fellBack mode known code elapsed = .ok diagnosis ∧
      diagnosis.toDiagnosisFields =
        localFields mode known (fallbackProvenance mode code elapsed) :=
  exists_build_localFields ((fallbackProvenance_ok_iff hmode).mpr hcode)

/-- And with anything else it is not. -/
theorem isReasonText_of_fellBack (hmode : mode ≠ .localMl)
    (h : fellBack mode known code elapsed = .ok diagnosis) : isReasonText code = true := by
  have hfields : diagnosis.toDiagnosisFields =
      localFields mode known (fallbackProvenance mode code elapsed) :=
    DiagnosisFields.build_ok_iff.mp h
  have hvalid := diagnosis.provenanceValid
  rw [hfields] at hvalid
  exact (fallbackProvenance_ok_iff hmode).mp hvalid

/-- What Gemini diagnosed is handed out as it is. -/
theorem trusted_eq (h : external.provenance.requestedMode = .hybridGemini) :
    trusted external = .ok external := by
  refine DiagnosisFields.build_ok_iff.mpr ?_
  rw [← h]

theorem shadowed_ok_iff (known external : Diagnosis) :
    (∃ diagnosis, shadowed known external = .ok diagnosis) ↔
      isModelText external.artifactVersion = true := by
  rw [← @shadowProvenance_ok_iff known external]
  constructor
  · rintro ⟨diagnosis, h⟩
    have hfields := DiagnosisFields.build_ok_iff.mp h
    have hvalid := diagnosis.provenanceValid
    rw [hfields] at hvalid
    exact hvalid
  · intro hp
    obtain ⟨diagnosis, hbuilt, -⟩ := exists_build_withProvenance known hp
    exact ⟨diagnosis, hbuilt⟩

/-- The provenance of a local diagnosis says so. -/
theorem executedEngine_local {model : DiagnosisModel} {vector : FeatureVector}
    (h : model.inferVector vector = .ok known) :
    known.provenance.executedEngine = .localMl := by
  obtain ⟨probabilities, -, h⟩ := bind_ok_iff.mp h
  obtain ⟨⟨predicted, confidence⟩, -, h⟩ := bind_ok_iff.mp h
  rw [DiagnosisFields.build_ok_iff.mp h]

/-! ## One call -/

/-- Where nothing overrules it, a diagnosis that falls back is what the call is to return. -/
theorem diagnosed_of_fallback {p : DiagnosisProvenance}
    (hnone : ∀ points label, ¬setup.Overrules circuit call points label)
    (hengine : p.executedEngine = .localMl)
    (hfields : diagnosis.toDiagnosisFields = localFields call.mode known p) :
    Diagnosed setup circuit call known diagnosis where
  external points label h := absurd h (hnone points label)
  otherwise _ := ⟨p, hengine, hfields⟩

/-- The reading of a reply that is asked for. -/
def heardReply (setup : RouterSetup) (call : DiagnosisCall) (model : ModelName) :
    Except GeminiRaise Diagnosis :=
  readResponse setup.recursionLimit call.reply call.vector model.text
    (min 60000 (call.elapsed / 1000000))

theorem ask_of_asks {model : ModelName} (h : setup.Asks circuit call model) :
    ((setup.router circuit call).ask call.vector call.clock).1 = heardReply setup call model := by
  obtain ⟨-, hmodel, hclosed⟩ := h
  have hgemini : (setup.router circuit call).gemini =
      some (setup.client call model).inferVector := by
    rw [RouterSetup.router, hmodel]
    rfl
  rw [DiagnosisRouter.ask_of_closed hgemini hclosed]
  rfl

/-- What a call that does not ask goes on with. -/
def unaskedCode (setup : RouterSetup) : String :=
  match setup.model with
  | none => "GEMINI_NOT_CONFIGURED"
  | some _ => "GEMINI_CIRCUIT_OPEN"

theorem unaskedCode_mem (setup : RouterSetup) :
    unaskedCode setup ∈ ["GEMINI_NOT_CONFIGURED", "GEMINI_CIRCUIT_OPEN"] := by
  unfold unaskedCode
  cases setup.model with
  | none => simp
  | some model => simp

theorem isReasonText_unaskedCode (setup : RouterSetup) :
    isReasonText (unaskedCode setup) = true := by
  unfold unaskedCode
  cases setup.model with
  | none => decide
  | some model =>
    show isReasonText "GEMINI_CIRCUIT_OPEN" = true
    decide

/-- A reply that is not asked for leaves the circuit as it is. -/
theorem ask_of_not_asks (hmode : call.mode ≠ .localMl)
    (h : ∀ model, ¬setup.Asks circuit call model) :
    (setup.router circuit call).ask call.vector call.clock =
      (.error (.diagnosis (unaskedCode setup)), circuit) := by
  unfold unaskedCode
  cases hmodel : setup.model with
  | none =>
    have hgemini : (setup.router circuit call).gemini = none := by
      rw [RouterSetup.router, hmodel]
      rfl
    simp only [DiagnosisRouter.ask, hgemini]
    rfl
  | some model =>
    have hgemini : (setup.router circuit call).gemini =
        some (setup.client call model).inferVector := by
      rw [RouterSetup.router, hmodel]
      rfl
    refine DiagnosisRouter.ask_of_open hgemini ?_
    by_contra hclosed
    exact h model ⟨hmode, hmodel, hclosed⟩

theorem infer_eq_heard (hmode : call.mode ≠ .localMl)
    (hknown : setup.localModel.inferVector call.vector = .ok known) :
    (setup.infer circuit call).1 = DiagnosisRouter.heard call.mode known call.clock.elapsed
      ((setup.router circuit call).ask call.vector call.clock).1 :=
  DiagnosisRouter.inferVector_eq_heard hmode hknown

/-- What a reply is read as when it is accepted, and only then. -/
theorem heardReply_ok_iff {model : ModelName} :
    heardReply setup call model = .ok external ↔
      ∃ response points label probability, call.reply = .ok response ∧
        Accepted setup.recursionLimit response points label ∧
        likeliest (classProbabilities points) = some (label, probability) ∧
        external.toDiagnosisFields = fieldsOf call.vector model.text
          (min 60000 (call.elapsed / 1000000)) points (label, probability) :=
  readResponse_ok_iff

theorem heardReply_coded_iff (setup : RouterSetup) (call : DiagnosisCall) (model : ModelName) :
    RaisesOnly GeminiRaise.Coded (heardReply setup call model) ↔
      Caught setup.recursionLimit call.reply :=
  readResponse_coded_iff (Nat.min_le_left ..)

/-- An accepted reply makes a diagnosis. -/
theorem exists_heardReply (setup : RouterSetup) (model : ModelName) {response : Response}
    {points : List (FailureClass × Nat)} {label : FailureClass}
    (hreply : call.reply = .ok response)
    (h : Accepted setup.recursionLimit response points label) :
    ∃ external probability, heardReply setup call model = .ok external ∧
      external.toDiagnosisFields = fieldsOf call.vector model.text
        (min 60000 (call.elapsed / 1000000)) points (label, probability) := by
  obtain ⟨hcomplete, steps, text, members, hsteps, htext, hread, hschema⟩ := h
  obtain ⟨probability, hlikely⟩ := (likeliest_eq_some_iff hschema.bounded).mpr hschema.winner
  obtain ⟨external, hbuilt⟩ : ∃ external, (fieldsOf call.vector model.text
      (min 60000 (call.elapsed / 1000000)) points (label, probability)).build = .ok external :=
    exists_build_fieldsOf (Nat.min_le_left ..) hschema.classes hschema.bounded hschema.total
      hlikely
  have hfields := DiagnosisFields.build_ok_iff.mp hbuilt
  exact ⟨external, probability, heardReply_ok_iff.mpr ⟨response, points, label, probability,
    hreply, ⟨hcomplete, steps, text, members, hsteps, htext, hread, hschema⟩, hlikely, hfields⟩,
    hfields⟩

/-- The local mode asks nothing, and hands out the local diagnosis. -/
theorem diagnosed_of_local (circuit : CircuitBreaker) (hmode : call.mode = .localMl)
    (hknown : setup.localModel.inferVector call.vector = .ok known) :
    (setup.infer circuit call).1 = .ok known ∧ Diagnosed setup circuit call known known := by
  have hnone : ∀ points label, ¬setup.Overrules circuit call points label := by
    rintro points label ⟨hhybrid, -⟩
    rw [hmode] at hhybrid
    exact nomatch hhybrid
  refine ⟨?_, diagnosed_of_fallback (p := known.provenance) hnone (executedEngine_local hknown) ?_⟩
  · rw [RouterSetup.infer, hmode, DiagnosisRouter.inferVector_local]
    exact hknown
  · rw [localFields_eq (by rw [hmode]; simp)]
    rfl

/-- A call that raised a reason code hands out the local diagnosis. -/
theorem diagnosed_of_code (hmode : call.mode ≠ .localMl)
    (hknown : setup.localModel.inferVector call.vector = .ok known)
    (hraised : ((setup.router circuit call).ask call.vector call.clock).1 =
      .error (.diagnosis code)) (hcode : isReasonText code = true)
    (hnone : ∀ points label, ¬setup.Overrules circuit call points label) :
    ∃ diagnosis, (setup.infer circuit call).1 = .ok diagnosis ∧
      Diagnosed setup circuit call known diagnosis := by
  obtain ⟨diagnosis, hfell, hfields⟩ :=
    exists_fellBack known call.clock.elapsed hmode hcode
  refine ⟨diagnosis, ?_, diagnosed_of_fallback hnone rfl hfields⟩
  rw [infer_eq_heard hmode hknown, hraised]
  exact hfell

/-- A reply that is accepted overrules the local diagnosis where Gemini is to decide. -/
theorem diagnosed_of_hybrid {model : ModelName} (hmode : call.mode = .hybridGemini)
    (hasks : setup.Asks circuit call model)
    (hknown : setup.localModel.inferVector call.vector = .ok known)
    (hread : heardReply setup call model = .ok external) :
    (setup.infer circuit call).1 = .ok external ∧
      Diagnosed setup circuit call known external := by
  obtain ⟨response, points, label, probability, hreply, haccepted, -, hfields⟩ :=
    heardReply_ok_iff.mp hread
  refine ⟨?_, ?_, ?_⟩
  · rw [infer_eq_heard hasks.1 hknown, ask_of_asks hasks, hread]
    show (if call.mode = .hybridGemini then trusted external else shadowed known external) = _
    rw [if_pos hmode]
    refine trusted_eq ?_
    rw [hfields]
    rfl
  · rintro points label ⟨-, -, response, hreply, haccepted⟩
    obtain ⟨external', probability, hread', hfields⟩ :=
      exists_heardReply setup model hreply haccepted
    obtain rfl := Except.ok.inj (hread.symm.trans hread')
    rw [hfields]
    exact ⟨rfl, rfl, rfl⟩
  · intro hnone
    exact absurd ⟨hmode, ⟨model, hasks⟩, response, hreply, haccepted⟩ (hnone points label)

/-- In the shadow an accepted reply is noted beside the local diagnosis. -/
theorem diagnosed_of_shadow {model : ModelName} (hmode : call.mode = .shadow)
    (hasks : setup.Asks circuit call model)
    (hknown : setup.localModel.inferVector call.vector = .ok known)
    (hread : heardReply setup call model = .ok external) :
    (∃ diagnosis, (setup.infer circuit call).1 = .ok diagnosis ∧
      Diagnosed setup circuit call known diagnosis) ↔ isModelText model.text = true := by
  obtain ⟨response, points, label, probability, -, -, -, hfields⟩ := heardReply_ok_iff.mp hread
  have hversion : external.artifactVersion = model.text := by
    rw [hfields]
    rfl
  have hinfer : (setup.infer circuit call).1 = shadowed known external := by
    rw [infer_eq_heard hasks.1 hknown, ask_of_asks hasks, hread]
    show (if call.mode = .hybridGemini then trusted external else shadowed known external) = _
    rw [if_neg (by rw [hmode]; simp)]
  rw [hinfer, ← hversion, ← shadowed_ok_iff known external]
  constructor
  · rintro ⟨diagnosis, hshadowed, -⟩
    exact ⟨diagnosis, hshadowed⟩
  · rintro ⟨diagnosis, hshadowed⟩
    refine ⟨diagnosis, hshadowed, diagnosed_of_fallback (p := shadowProvenance known external)
      ?_ rfl ?_⟩
    · rintro points label ⟨hhybrid, -⟩
      rw [hmode] at hhybrid
      exact nomatch hhybrid
    · rw [localFields_eq (by rw [hmode]; simp)]
      exact DiagnosisFields.build_ok_iff.mp hshadowed

/-- **A call falls back on the local diagnosis wherever Gemini's is not accepted, exactly when
its reply is answerable.** -/
theorem infer_total_iff (hknown : setup.localModel.inferVector call.vector = .ok known) :
    (∃ diagnosis, (setup.infer circuit call).1 = .ok diagnosis ∧
      Diagnosed setup circuit call known diagnosis) ↔ setup.Answerable circuit call := by
  by_cases hmode : call.mode = .localMl
  · have hdiagnosed := diagnosed_of_local circuit hmode hknown
    exact ⟨fun _ model hasks => absurd hmode hasks.1, fun _ => ⟨known, hdiagnosed⟩⟩
  by_cases hunasked : ∀ model, ¬setup.Asks circuit call model
  · have hraised := ask_of_not_asks hmode hunasked
    refine ⟨fun _ model hasks => absurd hasks (hunasked model), fun _ => ?_⟩
    refine diagnosed_of_code hmode hknown (by rw [hraised]) (isReasonText_unaskedCode setup) ?_
    rintro points label ⟨-, ⟨model, hasks⟩, -⟩
    exact hunasked model hasks
  obtain ⟨model, hasks⟩ := not_forall_not.mp hunasked
  have hanswerable : setup.Answerable circuit call ↔ Caught setup.recursionLimit call.reply ∧
      (call.mode = .shadow → (∃ response points label, call.reply = .ok response ∧
        Accepted setup.recursionLimit response points label) → isModelText model.text = true) := by
    refine ⟨fun h => h model hasks, fun h other hother => ?_⟩
    obtain rfl := Option.some.inj (hother.2.1.symm.trans hasks.2.1)
    exact h
  rw [hanswerable, ← heardReply_coded_iff setup call model]
  cases hread : heardReply setup call model with
  | error e =>
    -- nothing was accepted, so what was raised decides
    have hrejected : ¬∃ response points label, call.reply = .ok response ∧
        Accepted setup.recursionLimit response points label := by
      rintro ⟨response, points, label, hreply, haccepted⟩
      obtain ⟨external, -, hok, -⟩ :=
        exists_heardReply setup model hreply haccepted
      exact nomatch hread.symm.trans hok
    have hraised := (ask_of_asks hasks).trans hread
    constructor
    · rintro ⟨diagnosis, hinfer, -⟩
      refine ⟨?_, fun _ haccepted => absurd haccepted hrejected⟩
      rw [infer_eq_heard hmode hknown, hraised] at hinfer
      refine RaisesOnly.of_error rfl ?_
      cases e with
      | diagnosis code => exact ⟨code, rfl, isReasonText_of_fellBack hmode hinfer⟩
      | other e => exact nomatch hinfer
    · rintro ⟨hcoded, -⟩
      obtain ⟨code, rfl, hcode⟩ := hcoded e rfl
      refine diagnosed_of_code hmode hknown hraised hcode ?_
      rintro points label ⟨-, -, response, hreply, haccepted⟩
      exact hrejected ⟨response, points, label, hreply, haccepted⟩
  | ok external =>
    obtain ⟨response, points, label, probability, hreply, haccepted, -⟩ :=
      heardReply_ok_iff.mp hread
    have hcaught : RaisesOnly GeminiRaise.Coded (.ok external : Except GeminiRaise Diagnosis) :=
      RaisesOnly.of_ok rfl
    cases hkind : call.mode with
    | localMl => exact absurd hkind hmode
    | hybridGemini =>
      have hdiagnosed := diagnosed_of_hybrid hkind hasks hknown hread
      exact ⟨fun _ => ⟨hcaught, nofun⟩, fun _ => ⟨external, hdiagnosed⟩⟩
    | shadow =>
      rw [diagnosed_of_shadow hkind hasks hknown hread]
      exact ⟨fun h => ⟨hcaught, fun _ _ => h⟩,
        fun h => h.2 rfl ⟨response, points, label, hreply, haccepted⟩⟩

/-! ## Many calls -/

/-- An external call that the circuit counts. -/
inductive Attempt where
  | success
  | failure (failedAt : Nat)

/-- The failures in a row, of a history with the latest call in front. -/
def streak : List Attempt → Nat
  | .failure _ :: history => streak history + 1
  | _ => 0

/-- The cool-down behind every third failure in a row, in nanoseconds. -/
def Open (history : List Attempt) (now : Nat) : Prop :=
  ∃ failedAt earlier, history = .failure failedAt :: earlier ∧ 3 ∣ streak history ∧
    now < failedAt + 60000000000

/-- What an external call counts for. -/
def counted (failedAt : Nat) : Except GeminiRaise Diagnosis → List Attempt
  | .ok _ => [.success]
  | .error (.diagnosis code) =>
    if code ∈ ["GEMINI_NOT_CONFIGURED", "GEMINI_CIRCUIT_OPEN"] then [] else [.failure failedAt]
  | .error (.other _) => []

/-- The external call is made. -/
def Made (setup : RouterSetup) (circuit : CircuitBreaker) (call : DiagnosisCall) : Prop :=
  (∃ known, setup.localModel.inferVector call.vector = .ok known) ∧
    ∃ model, setup.Asks circuit call model

/-- The external calls of a call of the router that count: one or none. -/
def attempts (setup : RouterSetup) (circuit : CircuitBreaker) (call : DiagnosisCall) :
    List Attempt :=
  match setup.localModel.inferVector call.vector, setup.model with
  | .ok _, some model =>
    if call.mode ≠ .localMl ∧ ¬call.clock.calledAt < circuit.openedUntil then
      counted call.clock.failedAt (heardReply setup call model)
    else []
  | _, _ => []

/-- A router in use: its circuit, and the external calls that were made. -/
structure RouterState where
  circuit : CircuitBreaker := {}
  history : List Attempt := []

def RouterState.step (setup : RouterSetup) (state : RouterState) (call : DiagnosisCall) :
    RouterState where
  circuit := (setup.infer state.circuit call).2
  history := attempts setup state.circuit call ++ state.history

/-- The calls of a router that was just made. -/
def runCalls (setup : RouterSetup) (calls : List DiagnosisCall) : RouterState :=
  calls.foldl (RouterState.step setup) {}

/-- The calls come one behind another, on a clock that does not go back. -/
def InOrder : Nat → List DiagnosisCall → Prop
  | _, [] => True
  | now, call :: calls =>
    now ≤ call.clock.calledAt ∧ call.clock.calledAt ≤ call.clock.failedAt ∧
      InOrder call.clock.failedAt calls

/-- The circuit in front of an external call. -/
def passed (circuit : CircuitBreaker) : CircuitBreaker :=
  if circuit.openedUntil ≠ 0 then { circuit with openedUntil := 0, failures := 0 } else circuit

/-- The circuit behind an external call. -/
def settled (circuit : CircuitBreaker) (failedAt : Nat) :
    Except GeminiRaise Diagnosis → CircuitBreaker
  | .ok _ => circuit.succeeded
  | .error (.diagnosis code) =>
    if code ∈ ["GEMINI_NOT_CONFIGURED", "GEMINI_CIRCUIT_OPEN"] then circuit
    else circuit.failed failedAt
  | .error (.other _) => circuit

theorem attempts_of_made {model : ModelName} (hasks : setup.Asks circuit call model)
    (hknown : setup.localModel.inferVector call.vector = .ok known) :
    attempts setup circuit call =
      counted call.clock.failedAt (heardReply setup call model) := by
  obtain ⟨hmode, hmodel, hclosed⟩ := hasks
  simp only [attempts, hknown, hmodel]
  exact if_pos ⟨hmode, hclosed⟩

theorem attempts_of_not_made (h : ¬Made setup circuit call) :
    attempts setup circuit call = [] := by
  unfold attempts
  split
  next known model hknown hmodel =>
    refine if_neg ?_
    rintro ⟨hmode, hclosed⟩
    exact h ⟨⟨known, hknown⟩, model, hmode, hmodel, hclosed⟩
  next => rfl

theorem circuit_of_made {model : ModelName} (hasks : setup.Asks circuit call model)
    (hknown : setup.localModel.inferVector call.vector = .ok known) :
    (setup.infer circuit call).2 =
      settled (passed circuit) call.clock.failedAt (heardReply setup call model) := by
  obtain ⟨hmode, hmodel, hclosed⟩ := hasks
  have hgemini : (setup.router circuit call).gemini =
      some (setup.client call model).inferVector := by
    rw [RouterSetup.router, hmodel]
    rfl
  have hcalled : circuit.beforeCall call.clock.calledAt = .ok (passed circuit) := by
    unfold CircuitBreaker.beforeCall passed
    rw [if_neg hclosed]
    by_cases hopened : circuit.openedUntil ≠ 0
    · rw [if_pos hopened, if_pos hopened]
    · rw [if_neg hopened, if_neg hopened]
  have hread : (setup.client call model).inferVector call.vector =
      heardReply setup call model := rfl
  have hcircuit : (setup.router circuit call).circuit = circuit := rfl
  have hlocal : (setup.router circuit call).localModel.inferVector call.vector = .ok known :=
    hknown
  unfold RouterSetup.infer DiagnosisRouter.inferVector
  cases hreply : heardReply setup call model with
  | ok external =>
    have hasked : (setup.router circuit call).ask call.vector call.clock =
        (.ok external, (passed circuit).succeeded) := by
      simp only [DiagnosisRouter.ask, hgemini, hcircuit, hcalled, hread, hreply]
    simp only [hlocal, if_neg hmode, hasked]
    show (if call.mode = .hybridGemini then _ else _ : _ × CircuitBreaker).2 = _
    rw [apply_ite Prod.snd]
    exact ite_self _
  | error e =>
    have hasked : (setup.router circuit call).ask call.vector call.clock =
        (.error e, passed circuit) := by
      simp only [DiagnosisRouter.ask, hgemini, hcircuit, hcalled, hread, hreply]
    simp only [hlocal, if_neg hmode, hasked]
    cases e with
    | diagnosis code => rfl
    | other e => rfl

theorem circuit_of_not_made (h : ¬Made setup circuit call) :
    (setup.infer circuit call).2 = circuit := by
  unfold RouterSetup.infer DiagnosisRouter.inferVector
  cases hknown : setup.localModel.inferVector call.vector with
  | error e =>
    have hlocal : (setup.router circuit call).localModel.inferVector call.vector = .error e :=
      hknown
    simp only [hlocal]
    rfl
  | ok known =>
    have hlocal : (setup.router circuit call).localModel.inferVector call.vector = .ok known :=
      hknown
    by_cases hmode : call.mode = .localMl
    · simp only [hlocal, if_pos hmode]
      rfl
    · have hraised := ask_of_not_asks hmode fun model hasks => h ⟨⟨known, hknown⟩, model, hasks⟩
      simp only [hlocal, if_neg hmode, hraised, if_pos (unaskedCode_mem setup)]

/-- Time closes a circuit. -/
theorem not_open_of_le {history : List Attempt} {now later : Nat} (h : ¬Open history now)
    (hle : now ≤ later) : ¬Open history later := by
  rintro ⟨failedAt, earlier, hhistory, hthird, hless⟩
  exact h ⟨failedAt, earlier, hhistory, hthird, by omega⟩

/-- A circuit that lets calls through, with as many failures as its history has behind the last
three. -/
structure Closed (circuit : CircuitBreaker) (history : List Attempt) (now : Nat) : Prop where
  threshold : circuit.failureThreshold = 3
  cooldown : circuit.cooldown = 60000000000
  openedUntil : circuit.openedUntil = 0
  failures : circuit.failures = streak history % 3
  notOpen : ¬Open history now

/-- A circuit that opened at the last attempt of its history. -/
structure Tripped (circuit : CircuitBreaker) (history : List Attempt) : Prop where
  threshold : circuit.failureThreshold = 3
  cooldown : circuit.cooldown = 60000000000
  opened : ∃ failedAt earlier, history = .failure failedAt :: earlier ∧ 3 ∣ streak history ∧
    circuit.openedUntil = failedAt + 60000000000

/-- What a circuit is after the attempts of a history. -/
def Tracks (circuit : CircuitBreaker) (history : List Attempt) (now : Nat) : Prop :=
  Closed circuit history now ∨ Tripped circuit history

theorem tracks_start : Tracks {} [] 0 := by
  refine Or.inl ⟨rfl, rfl, rfl, rfl, ?_⟩
  rintro ⟨failedAt, earlier, hhistory, -⟩
  exact nomatch hhistory

/-- **The circuit is open when the cool-down of its history lasts.** -/
theorem opened_iff {history : List Attempt} {now later : Nat}
    (h : Tracks circuit history now) (hle : now ≤ later) :
    later < circuit.openedUntil ↔ Open history later := by
  rcases h with hclosed | htripped
  · rw [hclosed.openedUntil]
    refine ⟨fun hless => absurd hless (Nat.not_lt_zero _), fun hopen => ?_⟩
    exact absurd hopen (not_open_of_le hclosed.notOpen hle)
  · obtain ⟨failedAt, earlier, rfl, hthird, huntil⟩ := htripped.opened
    rw [huntil]
    constructor
    · exact fun hless => ⟨failedAt, earlier, rfl, hthird, hless⟩
    · rintro ⟨failedAt', earlier', hhistory, -, hless⟩
      obtain ⟨hfailed, rfl⟩ := List.cons.inj hhistory
      rw [Attempt.failure.inj hfailed]
      exact hless

theorem tracks_of_le {history : List Attempt} {now later : Nat}
    (h : Tracks circuit history now) (hle : now ≤ later) : Tracks circuit history later := by
  rcases h with hclosed | htripped
  · exact Or.inl { hclosed with notOpen := not_open_of_le hclosed.notOpen hle }
  · exact Or.inr htripped

/-- Behind the cool-down the count starts anew. -/
theorem closed_passed {history : List Attempt} {now later : Nat}
    (h : Tracks circuit history now) (hle : now ≤ later)
    (hthrough : ¬later < circuit.openedUntil) : Closed (passed circuit) history later := by
  have hnotOpen := fun hopen => hthrough ((opened_iff h hle).mpr hopen)
  rcases h with hclosed | htripped
  · rw [passed, if_neg (by rw [hclosed.openedUntil]; simp)]
    exact { hclosed with notOpen := hnotOpen }
  · obtain ⟨failedAt, earlier, -, hthird, huntil⟩ := htripped.opened
    rw [passed, if_pos (by omega)]
    exact {
      threshold := htripped.threshold
      cooldown := htripped.cooldown
      openedUntil := rfl
      failures := (Nat.mod_eq_zero_of_dvd hthird).symm
      notOpen := hnotOpen }

theorem tracks_success {history : List Attempt} {now : Nat} (h : Closed circuit history now) :
    Tracks circuit.succeeded (.success :: history) now := by
  refine Or.inl ⟨h.threshold, h.cooldown, rfl, rfl, ?_⟩
  rintro ⟨failedAt, earlier, hhistory, -⟩
  exact nomatch (List.cons.inj hhistory).1

/-- The third failure in a row opens the circuit, and no other does. -/
theorem tracks_failure {history : List Attempt} {now failedAt : Nat}
    (h : Closed circuit history now) :
    Tracks (circuit.failed failedAt) (.failure failedAt :: history) failedAt := by
  have hstreak : streak (.failure failedAt :: history) = streak history + 1 := rfl
  have hfailures := h.failures
  unfold CircuitBreaker.failed
  rw [h.threshold]
  by_cases hthird : 3 ≤ circuit.failures + 1
  · rw [if_pos hthird]
    refine Or.inr ⟨rfl, h.cooldown, failedAt, history, rfl, ?_, ?_⟩
    · rw [hstreak]
      omega
    · show failedAt + circuit.cooldown = _
      rw [h.cooldown]
  · rw [if_neg hthird]
    refine Or.inl ⟨rfl, h.cooldown, h.openedUntil, ?_, ?_⟩
    · show circuit.failures + 1 = _
      rw [hstreak]
      omega
    · rintro ⟨_, _, -, hdvd, -⟩
      rw [hstreak] at hdvd
      omega

/-- An external call leaves the circuit that its history asks for. -/
theorem tracks_settled {history : List Attempt} {calledAt failedAt : Nat}
    {answer : Except GeminiRaise Diagnosis} (h : Closed circuit history calledAt)
    (hle : calledAt ≤ failedAt) :
    Tracks (settled circuit failedAt answer) (counted failedAt answer ++ history) failedAt := by
  have hlater : Tracks circuit history failedAt := tracks_of_le (Or.inl h) hle
  cases answer with
  | ok external => exact tracks_of_le (tracks_success h) hle
  | error e =>
    cases e with
    | other e => exact hlater
    | diagnosis code =>
      by_cases hcode : code ∈ ["GEMINI_NOT_CONFIGURED", "GEMINI_CIRCUIT_OPEN"]
      · rw [settled, if_pos hcode, counted, if_pos hcode]
        exact hlater
      · rw [settled, if_neg hcode, counted, if_neg hcode]
        exact tracks_failure h

/-- **One call keeps the circuit in step with its history.** -/
theorem tracks_step {state : RouterState} {now : Nat}
    (h : Tracks state.circuit state.history now) (hcalled : now ≤ call.clock.calledAt)
    (hfailed : call.clock.calledAt ≤ call.clock.failedAt) :
    Tracks (state.step setup call).circuit (state.step setup call).history
      call.clock.failedAt := by
  show Tracks (setup.infer state.circuit call).2
    (attempts setup state.circuit call ++ state.history) _
  by_cases hmade : Made setup state.circuit call
  · obtain ⟨⟨known, hknown⟩, model, hasks⟩ := hmade
    rw [circuit_of_made hasks hknown, attempts_of_made hasks hknown]
    exact tracks_settled (closed_passed h hcalled hasks.2.2) hfailed
  · rw [circuit_of_not_made hmade, attempts_of_not_made hmade]
    exact tracks_of_le h (by omega)

/-- By induction on the calls, from any router whose circuit is in step. -/
theorem tracks_foldl (setup : RouterSetup) {calls : List DiagnosisCall} {state : RouterState} {now : Nat}
    (h : Tracks state.circuit state.history now) (horder : InOrder now (calls ++ [call])) :
    ∃ later ≤ call.clock.calledAt,
      Tracks (calls.foldl (RouterState.step setup) state).circuit
        (calls.foldl (RouterState.step setup) state).history later := by
  induction calls generalizing state now with
  | nil => exact ⟨now, horder.1, h⟩
  | cons first calls ih =>
    obtain ⟨hcalled, hfailed, horder⟩ := horder
    exact ih (tracks_step h hcalled hfailed) horder

/-- **Over any calls, Gemini is asked exactly when the circuit is not open.** -/
theorem made_iff (setup : RouterSetup) {calls : List DiagnosisCall} (horder : InOrder 0 (calls ++ [call])) :
    Made setup (runCalls setup calls).circuit call ↔
      (∃ known, setup.localModel.inferVector call.vector = .ok known) ∧
        call.mode ≠ .localMl ∧ setup.model.isSome = true ∧
        ¬Open (runCalls setup calls).history call.clock.calledAt := by
  have hstart : Tracks ({} : RouterState).circuit ({} : RouterState).history 0 := tracks_start
  obtain ⟨later, hle, htracks⟩ := tracks_foldl setup hstart horder
  have hopen : call.clock.calledAt < (runCalls setup calls).circuit.openedUntil ↔
      Open (runCalls setup calls).history call.clock.calledAt := opened_iff htracks hle
  unfold Made RouterSetup.Asks
  refine and_congr_right fun _ => ?_
  rw [hopen, Option.isSome_iff_exists]
  constructor
  · rintro ⟨model, hmode, hmodel, hclosed⟩
    exact ⟨hmode, ⟨model, hmodel⟩, hclosed⟩
  · rintro ⟨hmode, ⟨model, hmodel⟩, hclosed⟩
    exact ⟨model, hmode, hmodel, hclosed⟩

/-- A call that does not ask is the same whatever the transport would have handed over. -/
theorem infer_of_not_made {reply : Reply} {elapsed : Nat} (h : ¬Made setup circuit call) :
    setup.infer circuit { call with reply := reply, elapsed := elapsed } =
      setup.infer circuit call := by
  unfold RouterSetup.infer DiagnosisRouter.inferVector
  cases hknown : setup.localModel.inferVector call.vector with
  | error e =>
    have hlocal : ∀ call', (setup.router circuit call').localModel.inferVector call.vector =
        .error e := fun _ => hknown
    simp only [hlocal]
    rfl
  | ok known =>
    have hlocal : ∀ call', (setup.router circuit call').localModel.inferVector call.vector =
        .ok known := fun _ => hknown
    by_cases hmode : call.mode = .localMl
    · simp only [hlocal, if_pos hmode]
      rfl
    · have hunasked : ∀ model, ¬setup.Asks circuit call model := fun model hasks =>
        h ⟨⟨known, hknown⟩, model, hasks⟩
      have hraised := ask_of_not_asks hmode hunasked
      have hraised' : (setup.router circuit
          { call with reply := reply, elapsed := elapsed }).ask call.vector call.clock = _ :=
        @ask_of_not_asks setup circuit { call with reply := reply, elapsed := elapsed } hmode
          hunasked
      simp only [hlocal, if_neg hmode, hraised, hraised']

/-- **External diagnosis falls back**: a call returns Gemini's diagnosis where it is accepted and
elsewhere the local one, exactly when its reply is answerable; and over any calls Gemini is asked
exactly when the circuit is not open, so that while it is open no reply makes a difference. -/
theorem external_diagnosis_iff (setup : RouterSetup) :
    (∀ circuit call known, setup.localModel.inferVector call.vector = .ok known →
      ((∃ diagnosis, (setup.infer circuit call).1 = .ok diagnosis ∧
        Diagnosed setup circuit call known diagnosis) ↔ setup.Answerable circuit call)) ∧
    ∀ calls call, InOrder 0 (calls ++ [call]) →
      (Made setup (runCalls setup calls).circuit call ↔
        (∃ known, setup.localModel.inferVector call.vector = .ok known) ∧
          call.mode ≠ .localMl ∧ setup.model.isSome = true ∧
          ¬Open (runCalls setup calls).history call.clock.calledAt) ∧
      (Open (runCalls setup calls).history call.clock.calledAt → ∀ reply elapsed,
        setup.infer (runCalls setup calls).circuit
            { call with reply := reply, elapsed := elapsed } =
          setup.infer (runCalls setup calls).circuit call) := by
  refine ⟨fun circuit call known hknown => infer_total_iff hknown, ?_⟩
  intro calls call horder
  have hmade := made_iff setup horder
  refine ⟨hmade, fun hopen reply elapsed => infer_of_not_made ?_⟩
  rw [hmade]
  exact fun h => h.2.2.2 hopen

end

/-! ## A response that is accepted, and one with a list for its status -/

namespace Responses

def setup : RouterSetup where
  model := some ⟨"gemini-2.5-flash", by decide +kernel⟩
  localModel := certainModel
  recursionLimit := 900

def points : List (FailureClass × Nat) :=
  [(.providerIncident, 1000), (.customerCorrectable, 0), (.credentialPermanent, 0),
    (.fundsTemporary, 8500), (.merchantIntegration, 0), (.unknown, 500)]

/-- The structured text. -/
def output : Json :=
  .obj [("predicted_class", .str "funds_temporary"),
    ("probabilities_basis_points",
      .obj (points.map fun item => (item.1.value, .int item.2)))]

def response : Response :=
  [("status", .str "completed"), ("steps", .array [.object [("type", .str "model_output"),
    ("content", .array [.object [("type", .str "text"),
      ("text", .str (String.ofList output.render))]])]])]

/-- A call of Gemini at the start of the clock. -/
def call (reply : Reply) : DiagnosisCall where
  mode := .hybridGemini
  vector := normalizeFeatures []
  clock := ⟨0, 0, 0⟩
  reply := reply
  elapsed := 250000000

theorem exists_known : ∃ known, certainModel.inferVector (normalizeFeatures []) = .ok known :=
  exists_ok_of_isSome (by decide +kernel)

set_option maxRecDepth 4000 in
theorem loads_output : JsonDocument.loads 900 (String.ofList output.render) =
    .ok (.object [("predicted_class", .str "funds_temporary"),
      ("probabilities_basis_points",
        .object (points.map fun item => (item.1.value, .int item.2)))]) := by
  have hskip := Loads.skip_render output []
  have hlength : output.render.length = 205 := by decide +kernel
  rw [List.append_nil] at hskip
  rw [JsonDocument.loads, String.toList_ofList, hskip, hlength]
  rfl

theorem accepted : Accepted setup.recursionLimit response points .fundsTemporary := by
  refine ⟨Or.inr (Or.inr rfl), _, _, _, rfl, rfl, loads_output, ?_⟩
  exact {
    keys := by decide
    probabilities := by
      refine ⟨_, rfl, by decide, ?_⟩
      simp only [points, List.forall_mem_cons]
      exact ⟨rfl, rfl, rfl, rfl, rfl, rfl, by simp⟩
    classes := rfl
    bounded := by decide
    total := rfl
    winner := ⟨points.take 3, 8500, points.drop 4, rfl, by decide, by decide⟩
    predicted := rfl }

theorem asks (reply : Reply) : ∃ model, setup.Asks {} (call reply) model :=
  ⟨_, by simp [call], rfl, Nat.lt_irrefl 0⟩

theorem answerable : setup.Answerable {} (call (.ok response)) := by
  rintro model -
  refine ⟨⟨?_, ?_⟩, nofun⟩
  · rintro status hstatus
    rw [← Option.some.inj hstatus]
    rfl
  · rintro - steps text hsteps htext
    obtain rfl := JsonDocument.array.inj (Option.some.inj hsteps)
    obtain rfl := Option.some.inj htext
    unfold Decodable
    rw [show setup.recursionLimit = 900 from rfl, loads_output]
    simp

/-- A router that was just made hands out what this response says. -/
theorem hybrid_decides : ∃ diagnosis, (setup.infer {} (call (.ok response))).1 = .ok diagnosis ∧
    diagnosis.predictedClass = .fundsTemporary := by
  obtain ⟨known, hknown⟩ := exists_known
  obtain ⟨diagnosis, hinfer, hdiagnosed⟩ :=
    ((external_diagnosis_iff setup).1 {} (call (.ok response)) known hknown).mpr answerable
  have hoverrules : setup.Overrules {} (call (.ok response)) points .fundsTemporary :=
    ⟨rfl, asks _, response, rfl, accepted⟩
  exact ⟨diagnosis, hinfer, (hdiagnosed.external points _ hoverrules).1⟩

/-- A list cannot be looked up in a set, and what that raises is not caught: a call of a router
that was just made raises, though the local model knows. -/
theorem list_status_raises :
    (∃ known, certainModel.inferVector (normalizeFeatures []) = .ok known) ∧
      (setup.infer {} (call (.ok [("status", .array [])]))).1 =
        .error (.invalidValue "unhashable type: 'list'") := by
  refine ⟨exists_known, ?_⟩
  obtain ⟨known, hknown⟩ := exists_known
  obtain ⟨model, hasks⟩ := asks (.ok [("status", .array [])])
  rw [infer_eq_heard hasks.1 hknown, ask_of_asks hasks]
  rfl

end Responses

end Retrywise.ControlPlane.Gemini
