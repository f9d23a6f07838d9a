import Retrywise.ControlPlane.DiagnosisRouter
import Retrywise.Foundation.JsonDocument

/-!
# Diagnoses: what Gemini responds

`gemini.py` from the decoded response of the transport on: the structured text of the last
model output is a JSON text in the JSON object that came, and what it decodes to is checked
against the schema that was asked for.

> `readResponse_ok_iff`: a diagnosis is made of a response exactly when it is accepted.

> `readResponse_coded_iff`: anything else ends in a reason code, exactly when the status can be
> hashed and the structured text is not beyond what the decoder takes.
-/

namespace Retrywise.ControlPlane.Gemini

open Retrywise.Foundation Retrywise.Domain

/-! ## Responses -/

/-- A decoded response: a JSON object. -/
abbrev Response := List (String × JsonDocument)

/-- `response.get("status") not in {None, "completed"}`. Looking a value up in a set hashes it. -/
def checkStatus (response : Response) : Except GeminiRaise Unit :=
  match response.lookup "status" with
  | none => .ok ()
  | some .null => .ok ()
  | some (.str status) =>
    raiseIf (status ≠ "completed") (.diagnosis "GEMINI_INCOMPLETE_RESPONSE")
  | some (.array _) => .error (.other (.invalidValue "unhashable type: 'list'"))
  | some (.object _) => .error (.other (.invalidValue "unhashable type: 'dict'"))
  | some _ => .error (.diagnosis "GEMINI_INCOMPLETE_RESPONSE")

/-- The content of a step, if it is a model output. -/
def contentOf (step : JsonDocument) : Option (List JsonDocument) :=
  match step.get? "type", step.get? "content" with
  | some (.str kind), some (.array content) => if kind = "model_output" then some content else none
  | _, _ => none

/-- The text of an item of a content. -/
def textOf (item : JsonDocument) : Option String :=
  match item.get? "type", item.get? "text" with
  | some (.str kind), some (.str text) => if kind = "text" then some text else none
  | _, _ => none

/-- The first text of the last step that has one. -/
def structuredText (steps : List JsonDocument) : Option String :=
  steps.reverse.findSome? fun step => (contentOf step).bind fun content => content.findSome? textOf

/-- The structured text, decoded. Only one of the three things the decoder raises is caught. -/
def decodeText (recursionLimit : Nat) (text : String) : Except GeminiRaise JsonDocument :=
  match JsonDocument.loads recursionLimit text with
  | .ok (.object members) => .ok (.object members)
  | .ok _ => .error (.diagnosis "GEMINI_INVALID_STRUCTURED_OUTPUT")
  | .error .decodeError => .error (.diagnosis "GEMINI_INVALID_STRUCTURED_OUTPUT")
  | .error .valueError => .error (.other (.invalidValue
      "Exceeds the limit (4300 digits) for integer string conversion"))
  | .error .recursionError => .error (.other (.invalidValue "maximum recursion depth exceeded"))

/-- `_extract_model_json`. -/
def extractModelJson (recursionLimit : Nat) (response : Response) :
    Except GeminiRaise JsonDocument := do
  checkStatus response
  match response.lookup "steps" with
  | some (.array steps) =>
    let text ← someOr (structuredText steps) (.diagnosis "GEMINI_INVALID_RESPONSE")
    decodeText recursionLimit text
  | _ => .error (.diagnosis "GEMINI_INVALID_RESPONSE")

/-- What the transport hands over: a response, or the code of a `GeminiDiagnosisError`. -/
abbrev Reply := Except String Response

/-- The structured output of a reply. The schema has no use for a float, so none is kept. -/
def structuredOutput (recursionLimit : Nat) (reply : Reply) : Except GeminiRaise Json := do
  let response ← reply.mapError GeminiRaise.diagnosis
  let document ← extractModelJson recursionLimit response
  return document.toJson

/-! ## What is accepted -/

/-- The first greatest of these points is that of the class. -/
def FirstMaximum (points : List (FailureClass × Nat)) (label : FailureClass) : Prop :=
  ∃ before point after, points = before ++ (label, point) :: after ∧
    (∀ item ∈ before, item.2 < point) ∧ ∀ item ∈ after, item.2 ≤ point

/-- A structured output with exactly the two keys and the six classes of the schema, points in
basis points that sum to one, and the class of their first maximum. -/
structure Schema (members : List (String × JsonDocument)) (points : List (FailureClass × Nat))
    (label : FailureClass) : Prop where
  keys : (members.map Prod.fst).Perm ["predicted_class", "probabilities_basis_points"]
  probabilities : ∃ probabilities,
    members.lookup "probabilities_basis_points" = some (.object probabilities) ∧
      (probabilities.map Prod.fst).Perm (failureTaxonomy.map FailureClass.value) ∧
      ∀ item ∈ points, probabilities.lookup item.1.value = some (.int item.2)
  classes : points.map Prod.fst = failureTaxonomy
  bounded : ∀ item ∈ points, item.2 ≤ 10000
  total : (points.map Prod.snd).sum = 10000
  winner : FirstMaximum points label
  predicted : members.lookup "predicted_class" = some (.str label.value)

/-- The status says so, or says nothing. -/
def Complete (response : Response) : Prop :=
  response.lookup "status" = none ∨ response.lookup "status" = some .null ∨
    response.lookup "status" = some (.str "completed")

/-- A complete response whose structured text is of the schema. -/
def Accepted (recursionLimit : Nat) (response : Response) (points : List (FailureClass × Nat))
    (label : FailureClass) : Prop :=
  Complete response ∧
    ∃ steps text members, response.lookup "steps" = some (.array steps) ∧
      structuredText steps = some text ∧
      JsonDocument.loads recursionLimit text = .ok (.object members) ∧
      Schema members points label

theorem checkStatus_ok_iff {response : Response} :
    checkStatus response = .ok () ↔ Complete response := by
  unfold checkStatus Complete
  cases response.lookup "status" with
  | none => simp
  | some status =>
    cases status with
    | null => simp
    | str status => simp
    | bool => simp
    | int => simp
    | float => simp
    | array => simp
    | object => simp

/-! ## Points -/

/-- The probability of points that are no more than one. -/
def probabilityOf (point : Nat) : Probability :=
  if h : point ≤ 10000 then pointProbability point h else pointProbability 0 (by omega)

theorem probabilityOf_value {point : Nat} (h : point ≤ 10000) :
    (probabilityOf point).value.value = (point : Rat) / 10000 := by
  rw [probabilityOf, dif_pos h]
  show (stripped 4 point).value = _
  rw [stripped_value]
  norm_num

/-- What is read of a class with its points. -/
def readItem (item : FailureClass × Nat) : FailureClass × Nat × Probability :=
  (item.1, item.2, probabilityOf item.2)

section

variable {probabilities : List (String × JsonDocument)} {points : List (FailureClass × Nat)}

theorem readPoint_ok_iff {label : FailureClass} {read : FailureClass × Nat × Probability} :
    readPoint (JsonDocument.object probabilities).toJson label = .ok read ↔
      ∃ point ≤ 10000, probabilities.lookup label.value = some (.int (point : Nat)) ∧
        read = readItem (label, point) := by
  unfold readPoint
  rw [JsonDocument.toJson, JsonDocument.get?_membersToJson]
  constructor
  · intro h
    split at h
    next point hfound =>
      obtain ⟨document, hlookup, hint⟩ := Option.map_eq_some_iff.mp hfound
      split at h
      next hbounds =>
        refine ⟨point.toNat, hbounds.2, ?_, ?_⟩
        · rw [hlookup, Int.toNat_of_nonneg hbounds.1]
          cases document with
          | int n => rw [JsonDocument.toJson, Json.int.injEq] at hint; rw [hint]
          | null => simp [JsonDocument.toJson] at hint
          | bool => simp [JsonDocument.toJson] at hint
          | float => simp [JsonDocument.toJson] at hint
          | str => simp [JsonDocument.toJson] at hint
          | array => simp [JsonDocument.toJson] at hint
          | object => simp [JsonDocument.toJson] at hint
        · rw [← Except.ok.inj h, readItem, probabilityOf, dif_pos hbounds.2]
      next => exact absurd h (by simp)
    next => exact absurd h (by simp)
  · rintro ⟨point, hpoint, hlookup, rfl⟩
    simp [hlookup, JsonDocument.toJson, readItem, probabilityOf, hpoint]

theorem readPoints_ok_iff {labels : List FailureClass}
    {read : List (FailureClass × Nat × Probability)} :
    labels.mapM (readPoint (JsonDocument.object probabilities).toJson) = .ok read ↔
      ∃ points : List (FailureClass × Nat), points.map Prod.fst = labels ∧
        (∀ item ∈ points, item.2 ≤ 10000 ∧
          probabilities.lookup item.1.value = some (.int item.2)) ∧
        read = points.map readItem := by
  induction labels generalizing read with
  | nil =>
    rw [List.mapM_nil, pure_ok_iff]
    constructor
    · rintro rfl
      exact ⟨[], rfl, by simp, rfl⟩
    · rintro ⟨points, hnil, -, rfl⟩
      rw [List.map_eq_nil_iff.mp hnil]
      rfl
  | cons label labels ih =>
    rw [List.mapM_cons]
    constructor
    · intro h
      obtain ⟨item, hitem, h⟩ := bind_ok_iff.mp h
      obtain ⟨items, hitems, h⟩ := bind_ok_iff.mp h
      obtain rfl := pure_ok_iff.mp h
      obtain ⟨point, hpoint, hlookup, rfl⟩ := readPoint_ok_iff.mp hitem
      obtain ⟨points, hlabels, hpoints, rfl⟩ := ih.mp hitems
      refine ⟨(label, point) :: points, by rw [List.map_cons, hlabels], ?_, rfl⟩
      rintro other hother
      rcases List.mem_cons.mp hother with rfl | hother
      · exact ⟨hpoint, hlookup⟩
      · exact hpoints other hother
    · rintro ⟨points, hlabels, hpoints, rfl⟩
      obtain ⟨⟨label', point⟩, points, rfl, rfl, rfl⟩ := List.map_eq_cons_iff.mp hlabels
      obtain ⟨hpoint, hlookup⟩ := hpoints _ List.mem_cons_self
      rw [bind_of_ok (readPoint_ok_iff.mpr ⟨point, hpoint, hlookup, rfl⟩),
        bind_of_ok (ih.mpr ⟨points, rfl, fun item hitem =>
          hpoints item (List.mem_cons_of_mem _ hitem), rfl⟩)]
      rfl

/-- The classes with their probabilities. -/
def classProbabilities (points : List (FailureClass × Nat)) : List (FailureClass × Probability) :=
  points.map fun item => (item.1, probabilityOf item.2)

theorem foldl_max_le_iff {values : List Rat} {start bound : Rat} :
    values.foldl max start ≤ bound ↔ start ≤ bound ∧ ∀ value ∈ values, value ≤ bound := by
  induction values generalizing start with
  | nil => simp
  | cons value values ih =>
    rw [List.foldl_cons, ih, max_le_iff, List.forall_mem_cons, and_assoc]

/-- Probabilities are in the order of their points. -/
theorem probabilityOf_le_iff {point other : Nat} (h : point ≤ 10000) (hother : other ≤ 10000) :
    (probabilityOf point).value.value ≤ (probabilityOf other).value.value ↔ point ≤ other := by
  rw [probabilityOf_value h, probabilityOf_value hother,
    div_le_div_iff_of_pos_right (by norm_num : (0 : Rat) < 10000)]
  exact Nat.cast_le

/-- The likeliest class is that of the first maximum. -/
theorem likeliest_eq_some_iff (hbounded : ∀ item ∈ points, item.2 ≤ 10000)
    {label : FailureClass} :
    (∃ probability, likeliest (classProbabilities points) = some (label, probability)) ↔
      FirstMaximum points label := by
  have hgreatest := foldl_max_le_iff.mp
    (le_refl (((classProbabilities points).map fun item => item.2.value.value).foldl max 0))
  constructor
  · rintro ⟨probability, hfind⟩
    obtain ⟨hmaximum, before, after, hpoints, hbefore⟩ := List.find?_eq_some_iff_append.mp hfind
    obtain ⟨front, rest, rfl, rfl, hrest⟩ := List.map_eq_append_iff.mp hpoints
    obtain ⟨⟨label', point⟩, back, rfl, hitem, rfl⟩ := List.map_eq_cons_iff.mp hrest
    obtain ⟨rfl, rfl⟩ := Prod.mk.inj hitem
    have hpoint : point ≤ 10000 := hbounded (label', point) (by simp)
    have hmost : ∀ item ∈ front ++ (label', point) :: back, item.2 ≤ point := by
      intro item hitem
      rw [← probabilityOf_le_iff (hbounded item hitem) hpoint,
        show (probabilityOf point).value.value = _ from of_decide_eq_true hmaximum]
      refine hgreatest.2 _ (List.mem_map.mpr ⟨(item.1, probabilityOf item.2), ?_, rfl⟩)
      exact List.mem_map.mpr ⟨item, hitem, rfl⟩
    refine ⟨front, point, back, rfl, ?_, ?_⟩
    · intro item hitem
      refine lt_of_le_of_ne (hmost item (by simp [hitem])) ?_
      intro hsame
      have hless := hbefore (item.1, probabilityOf item.2) (List.mem_map.mpr ⟨item, hitem, rfl⟩)
      rw [hsame] at hless
      simp only [hmaximum] at hless
      exact absurd hless (by simp)
    · exact fun item hitem => hmost item (by simp [hitem])
  · rintro ⟨front, point, back, rfl, hfront, hback⟩
    have hpoint : point ≤ 10000 := hbounded (label, point) (by simp)
    have hmaximum : (probabilityOf point).value.value =
        ((classProbabilities (front ++ (label, point) :: back)).map fun item =>
          item.2.value.value).foldl max 0 := by
      refine le_antisymm ?_ (foldl_max_le_iff.mpr ⟨(probabilityOf point).nonneg, ?_⟩)
      · refine hgreatest.2 _ (List.mem_map.mpr ⟨(label, probabilityOf point), ?_, rfl⟩)
        exact List.mem_map.mpr ⟨(label, point), by simp, rfl⟩
      · intro value hvalue
        obtain ⟨_, hclass, rfl⟩ := List.mem_map.mp hvalue
        obtain ⟨item, hitem, rfl⟩ := List.mem_map.mp hclass
        rw [probabilityOf_le_iff (hbounded item hitem) hpoint]
        rcases List.mem_append.mp hitem with hitem | hitem
        · exact (hfront item hitem).le
        · rcases List.mem_cons.mp hitem with rfl | hitem
          · exact le_refl _
          · exact hback item hitem
    refine ⟨probabilityOf point, List.find?_eq_some_iff_append.mpr ⟨?_, classProbabilities front,
      classProbabilities back, ?_, ?_⟩⟩
    · exact decide_eq_true hmaximum
    · rw [classProbabilities, List.map_append]
      rfl
    · intro _ hclass
      obtain ⟨item, hitem, rfl⟩ := List.mem_map.mp hclass
      have hless := hfront item hitem
      have hbound := hbounded item (by simp [hitem])
      rw [Bool.not_eq_true', decide_eq_false_iff_not, ← hmaximum]
      intro hsame
      exact absurd ((probabilityOf_le_iff hpoint hbound).mp hsame.ge) (by omega)

end

/-! ## Structured outputs -/

section

variable {members : List (String × JsonDocument)} {vector : FeatureVector} {model : String}
  {latencyMs : Nat}

theorem hasKeys_object {names : List String} :
    hasKeys (JsonDocument.object members).toJson names = true ↔
      (members.map Prod.fst).Perm names := by
  rw [JsonDocument.toJson, hasKeys, JsonDocument.keys_membersToJson, decide_eq_true_iff]

/-- Only an object has keys. -/
theorem exists_object_of_hasKeys {document : JsonDocument} {names : List String}
    (h : hasKeys document.toJson names = true) :
    ∃ members, document = .object members := by
  cases document with
  | object members => exact ⟨members, rfl⟩
  | null => exact nomatch h
  | bool => exact nomatch h
  | int => exact nomatch h
  | float => exact nomatch h
  | str => exact nomatch h
  | array => exact nomatch h

theorem get?_object (key : String) :
    (JsonDocument.object members).toJson.get? key =
      (members.lookup key).map JsonDocument.toJson :=
  JsonDocument.get?_membersToJson members key

theorem isText_iff {document : Option JsonDocument} {text : String} :
    isText (document.map JsonDocument.toJson) text = true ↔ document = some (.str text) := by
  cases document with
  | none => simp [isText]
  | some document =>
    cases document with
    | str value => simp [isText, JsonDocument.toJson]
    | null => simp [isText, JsonDocument.toJson]
    | bool => simp [isText, JsonDocument.toJson]
    | int => simp [isText, JsonDocument.toJson]
    | float => simp [isText, JsonDocument.toJson]
    | array => simp [isText, JsonDocument.toJson]
    | object => simp [isText, JsonDocument.toJson]

/-- What the constructor is given of points and their likeliest class. -/
def fieldsOf (vector : FeatureVector) (model : String) (latencyMs : Nat)
    (points : List (FailureClass × Nat)) (likely : FailureClass × Probability) :
    DiagnosisFields :=
  geminiFields vector model latencyMs (classProbabilities points) likely

/-- Points that sum to one make a diagnosis. -/
theorem exists_build_fieldsOf {points : List (FailureClass × Nat)}
    {likely : FailureClass × Probability} (hlatency : latencyMs ≤ 60000)
    (hclasses : points.map Prod.fst = failureTaxonomy)
    (hbounded : ∀ item ∈ points, item.2 ≤ 10000) (htotal : (points.map Prod.snd).sum = 10000)
    (hlikely : likeliest (classProbabilities points) = some likely) :
    ∃ diagnosis, (fieldsOf vector model latencyMs points likely).build = .ok diagnosis := by
  have hmass : ∀ points : List (FailureClass × Nat), (∀ item ∈ points, item.2 ≤ 10000) →
      ((classProbabilities points).map fun item => item.2.value.value).sum =
        ((points.map Prod.snd).sum : Nat) / 10000 := by
    intro points hbounded
    induction points with
    | nil => simp [classProbabilities]
    | cons item points ih =>
      have hsum := ih fun other hother => hbounded other (List.mem_cons_of_mem _ hother)
      rw [classProbabilities, List.map_cons, List.map_cons, List.sum_cons, List.map_cons,
        List.sum_cons, Nat.cast_add, add_div, ← hsum,
        probabilityOf_value (hbounded item List.mem_cons_self)]
      rfl
  refine exists_build_geminiFields hlatency ?_ ?_ hlikely
  · rw [classProbabilities, List.map_map]
    exact hclasses
  · rw [hmass points hbounded, htotal]
    norm_num

/-- **A structured output makes a diagnosis exactly when it is of the schema.** -/
theorem geminiDiagnosis_ok_iff {document : JsonDocument} {diagnosis : Diagnosis} :
    geminiDiagnosis document.toJson vector model latencyMs = .ok diagnosis ↔
      ∃ members points label probability, document = .object members ∧
        Schema members points label ∧
        likeliest (classProbabilities points) = some (label, probability) ∧
        diagnosis.toDiagnosisFields =
          fieldsOf vector model latencyMs points (label, probability) := by
  constructor
  · intro h
    unfold geminiDiagnosis at h
    obtain ⟨_, hkeys, h⟩ := bind_ok_iff.mp h
    obtain ⟨_, hclasses, h⟩ := bind_ok_iff.mp h
    obtain ⟨read, hread, h⟩ := bind_ok_iff.mp h
    obtain ⟨_, htotal, h⟩ := bind_ok_iff.mp h
    obtain ⟨⟨label, probability⟩, hlikely, h⟩ := bind_ok_iff.mp h
    obtain ⟨_, hpredicted, hmade⟩ := bind_ok_iff.mp h
    rw [raiseIf_ok_iff, not_not] at hkeys hclasses htotal hpredicted
    rw [someOr_ok_iff] at hlikely
    obtain ⟨members, rfl⟩ := exists_object_of_hasKeys hkeys
    rw [get?_object] at hclasses hread hpredicted
    cases hfound : members.lookup "probabilities_basis_points" with
    | none =>
      rw [hfound] at hclasses
      exact nomatch hclasses
    | some found =>
      rw [hfound] at hclasses hread
      obtain ⟨probabilities, rfl⟩ := exists_object_of_hasKeys hclasses
      obtain ⟨points, hlabels, hpoints, rfl⟩ := readPoints_ok_iff.mp hread
      have hbounded : ∀ item ∈ points, item.2 ≤ 10000 := fun item hitem => (hpoints item hitem).1
      rw [List.map_map] at htotal hlikely
      have hfirst : FirstMaximum points label :=
        (likeliest_eq_some_iff hbounded).mp ⟨probability, hlikely⟩
      refine ⟨members, points, label, probability, rfl, ?_, hlikely, ?_⟩
      · exact {
          keys := hasKeys_object.mp hkeys
          probabilities := ⟨probabilities, hfound, hasKeys_object.mp hclasses,
            fun item hitem => (hpoints item hitem).2⟩
          classes := hlabels
          bounded := hbounded
          total := htotal
          winner := hfirst
          predicted := isText_iff.mp hpredicted }
      · refine DiagnosisFields.build_ok_iff.mp ?_
        have hsame : ((points.map readItem).map fun item => (item.1, item.2.2)) =
            classProbabilities points := List.map_map ..
        rw [hsame] at hmade
        cases hbuilt : (fieldsOf vector model latencyMs points (label, probability)).build with
        | error e =>
          rw [fieldsOf] at hbuilt
          rw [hbuilt] at hmade
          exact nomatch hmade
        | ok built =>
          rw [fieldsOf] at hbuilt
          rw [hbuilt] at hmade
          exact congrArg _ (Except.ok.inj hmade)
  · rintro ⟨members, points, label, probability, rfl, hschema, hlikely, hfields⟩
    obtain ⟨probabilities, hfound, hclasses, hpoints⟩ := hschema.probabilities
    have hread : failureTaxonomy.mapM (readPoint (JsonDocument.object probabilities).toJson) =
        .ok (points.map readItem) :=
      readPoints_ok_iff.mpr ⟨points, hschema.classes,
        fun item hitem => ⟨hschema.bounded item hitem, hpoints item hitem⟩, rfl⟩
    have htotal : ((points.map readItem).map fun item => item.2.1).sum = 10000 := by
      rw [List.map_map]
      exact hschema.total
    have hsame : ((points.map readItem).map fun item => (item.1, item.2.2)) =
        classProbabilities points := List.map_map ..
    unfold geminiDiagnosis
    rw [bind_of_ok (raiseIf_of_not _ (not_not.mpr (hasKeys_object.mpr hschema.keys))),
      get?_object, hfound, Option.map_some, Option.getD_some,
      bind_of_ok (raiseIf_of_not _ (not_not.mpr (hasKeys_object.mpr hclasses))),
      bind_of_ok hread, bind_of_ok (raiseIf_of_not _ (not_not.mpr htotal))]
    dsimp only
    rw [hsame, bind_of_ok (someOr_ok_iff.mpr hlikely), get?_object,
      bind_of_ok (raiseIf_of_not _ (not_not.mpr (isText_iff.mpr hschema.predicted)))]
    have hbuilt : (geminiFields vector model latencyMs (classProbabilities points)
        (label, probability)).build = .ok diagnosis := DiagnosisFields.build_ok_iff.mpr hfields
    rw [hbuilt]

end

/-! ## Replies -/

section

variable {recursionLimit : Nat} {reply : Reply} {response : Response} {vector : FeatureVector}
  {model : String} {latencyMs : Nat}

/-- What the client makes of a reply. -/
def readResponse (recursionLimit : Nat) (reply : Reply) (vector : FeatureVector) (model : String)
    (latencyMs : Nat) : Except GeminiRaise Diagnosis := do
  let value ← structuredOutput recursionLimit reply
  geminiDiagnosis value vector model latencyMs

theorem decodeText_ok_iff {text : String} {document : JsonDocument} :
    decodeText recursionLimit text = .ok document ↔
      ∃ members, document = .object members ∧
        JsonDocument.loads recursionLimit text = .ok (.object members) := by
  unfold decodeText
  constructor
  · intro h
    split at h
    next members hread => exact ⟨members, (Except.ok.inj h).symm, hread⟩
    next => exact nomatch h
    next => exact nomatch h
    next => exact nomatch h
    next => exact nomatch h
  · rintro ⟨members, rfl, hread⟩
    rw [hread]

theorem extractModelJson_ok_iff {document : JsonDocument} :
    extractModelJson recursionLimit response = .ok document ↔
      Complete response ∧ ∃ steps text members,
        response.lookup "steps" = some (.array steps) ∧ structuredText steps = some text ∧
        JsonDocument.loads recursionLimit text = .ok (.object members) ∧
        document = .object members := by
  unfold extractModelJson
  constructor
  · intro h
    obtain ⟨_, hstatus, h⟩ := bind_ok_iff.mp h
    split at h
    next steps hsteps =>
      obtain ⟨text, htext, h⟩ := bind_ok_iff.mp h
      obtain ⟨members, rfl, hread⟩ := decodeText_ok_iff.mp h
      exact ⟨checkStatus_ok_iff.mp hstatus, steps, text, members, hsteps,
        someOr_ok_iff.mp htext, hread, rfl⟩
    next => exact nomatch h
  · rintro ⟨hcomplete, steps, text, members, hsteps, htext, hread, rfl⟩
    rw [bind_of_ok (checkStatus_ok_iff.mpr hcomplete), hsteps]
    dsimp only
    rw [bind_of_ok (someOr_ok_iff.mpr htext)]
    exact decodeText_ok_iff.mpr ⟨members, rfl, hread⟩

/-- **A diagnosis is made of a response exactly when it is accepted.** -/
theorem readResponse_ok_iff {diagnosis : Diagnosis} :
    readResponse recursionLimit reply vector model latencyMs = .ok diagnosis ↔
      ∃ response points label probability, reply = .ok response ∧
        Accepted recursionLimit response points label ∧
        likeliest (classProbabilities points) = some (label, probability) ∧
        diagnosis.toDiagnosisFields =
          fieldsOf vector model latencyMs points (label, probability) := by
  unfold readResponse structuredOutput
  constructor
  · intro h
    obtain ⟨value, hvalue, h⟩ := bind_ok_iff.mp h
    obtain ⟨response, hreply, hvalue⟩ := bind_ok_iff.mp hvalue
    obtain ⟨document, hdocument, hvalue⟩ := bind_ok_iff.mp hvalue
    obtain rfl := pure_ok_iff.mp hvalue
    obtain ⟨members, points, label, probability, rfl, hschema, hlikely, hfields⟩ :=
      geminiDiagnosis_ok_iff.mp h
    obtain ⟨hcomplete, steps, text, members, hsteps, htext, hread, hmembers⟩ :=
      extractModelJson_ok_iff.mp hdocument
    obtain rfl := JsonDocument.object.inj hmembers
    refine ⟨response, points, label, probability, ?_,
      ⟨hcomplete, steps, text, _, hsteps, htext, hread, hschema⟩, hlikely, hfields⟩
    cases reply with
    | error code => exact nomatch hreply
    | ok response' => rw [show response' = response from Except.ok.inj hreply]
  · rintro ⟨response, points, label, probability, rfl, haccepted, hlikely, hfields⟩
    obtain ⟨hcomplete, steps, text, members, hsteps, htext, hread, hschema⟩ := haccepted
    have hdocument : extractModelJson recursionLimit response = .ok (.object members) :=
      extractModelJson_ok_iff.mpr ⟨hcomplete, steps, text, members, hsteps, htext, hread, rfl⟩
    have hvalue : structuredOutput recursionLimit (.ok response) =
        .ok (JsonDocument.object members).toJson := by
      unfold structuredOutput
      show (extractModelJson recursionLimit response >>= _) = _
      rw [bind_of_ok hdocument]
      rfl
    exact (bind_of_ok hvalue _).trans (geminiDiagnosis_ok_iff.mpr
      ⟨members, points, label, probability, rfl, hschema, hlikely, hfields⟩)

/-- The decoder raises nothing but what is caught. -/
def Decodable (recursionLimit : Nat) (text : String) : Prop :=
  JsonDocument.loads recursionLimit text ≠ .error .valueError ∧
    JsonDocument.loads recursionLimit text ≠ .error .recursionError

/-- A reply whose status can be hashed and whose structured text the decoder takes; or a failure
with a reason code. -/
def Caught (recursionLimit : Nat) : Reply → Prop
  | .error code => isReasonText code = true
  | .ok response =>
    (∀ status, response.lookup "status" = some status → status.hashable = true) ∧
      (Complete response → ∀ steps text, response.lookup "steps" = some (.array steps) →
        structuredText steps = some text → Decodable recursionLimit text)

theorem not_coded_other {e : ControlPlaneError} : ¬GeminiRaise.Coded (.other e) := by
  rintro ⟨code, h, -⟩
  exact nomatch h

theorem checkStatus_coded_iff :
    RaisesOnly GeminiRaise.Coded (checkStatus response) ↔
      ∀ status, response.lookup "status" = some status → status.hashable = true := by
  have hcoded : ∀ e, Except.error (ε := GeminiRaise) (α := Unit)
      (.diagnosis "GEMINI_INCOMPLETE_RESPONSE") = .error e → e.Coded :=
    fun e h => ⟨_, (Except.error.inj h).symm, by decide⟩
  unfold checkStatus
  cases response.lookup "status" with
  | none => exact ⟨fun _ => nofun, fun _ => RaisesOnly.of_ok rfl⟩
  | some status =>
    have hall : (∀ other, some status = some other → other.hashable = true) ↔
        status.hashable = true :=
      ⟨fun h => h status rfl, fun h other hother => Option.some.inj hother ▸ h⟩
    rw [hall]
    cases status with
    | null => exact ⟨fun _ => rfl, fun _ => RaisesOnly.of_ok rfl⟩
    | str status => exact ⟨fun _ => rfl, fun _ => raisesOnly_raiseIf ⟨_, rfl, by decide⟩⟩
    | bool => exact ⟨fun _ => rfl, fun _ => hcoded⟩
    | int => exact ⟨fun _ => rfl, fun _ => hcoded⟩
    | float => exact ⟨fun _ => rfl, fun _ => hcoded⟩
    | array => exact ⟨fun h => absurd (h _ rfl) not_coded_other, nofun⟩
    | object => exact ⟨fun h => absurd (h _ rfl) not_coded_other, nofun⟩

theorem decodeText_coded_iff {text : String} :
    RaisesOnly GeminiRaise.Coded (decodeText recursionLimit text) ↔
      Decodable recursionLimit text := by
  have hcoded : ∀ e, Except.error (ε := GeminiRaise) (α := JsonDocument)
      (.diagnosis "GEMINI_INVALID_STRUCTURED_OUTPUT") = .error e → e.Coded :=
    fun e h => ⟨_, (Except.error.inj h).symm, by decide⟩
  unfold decodeText Decodable
  cases JsonDocument.loads recursionLimit text with
  | error e =>
    cases e with
    | decodeError => exact ⟨fun _ => by simp, fun _ => hcoded⟩
    | valueError => exact ⟨fun h => absurd (h _ rfl) not_coded_other, fun h => absurd rfl h.1⟩
    | recursionError => exact ⟨fun h => absurd (h _ rfl) not_coded_other, fun h => absurd rfl h.2⟩
  | ok document =>
    refine ⟨fun _ => by simp, fun _ => ?_⟩
    cases document with
    | object => exact RaisesOnly.of_ok rfl
    | null => exact hcoded
    | bool => exact hcoded
    | int => exact hcoded
    | float => exact hcoded
    | str => exact hcoded
    | array => exact hcoded

theorem readResponse_error {code : String} :
    readResponse recursionLimit (.error code) vector model latencyMs = .error (.diagnosis code) :=
  rfl

/-- What is raised before the schema is looked at is raised. -/
theorem readResponse_of_error {e : GeminiRaise}
    (h : extractModelJson recursionLimit response = .error e) :
    readResponse recursionLimit (.ok response) vector model latencyMs = .error e := by
  refine bind_of_error ?_ _
  show (extractModelJson recursionLimit response >>= _) = _
  exact bind_of_error h _

/-- **A reply that makes no diagnosis ends in a reason code, exactly when it is caught.** -/
theorem readResponse_coded_iff (hlatency : latencyMs ≤ 60000) :
    RaisesOnly GeminiRaise.Coded (readResponse recursionLimit reply vector model latencyMs) ↔
      Caught recursionLimit reply := by
  cases reply with
  | error code =>
    rw [readResponse_error]
    constructor
    · intro h
      obtain ⟨code', hcode, hreason⟩ := h _ rfl
      rw [GeminiRaise.diagnosis.inj hcode]
      exact hreason
    · intro h e he
      rw [← Except.error.inj he]
      exact ⟨code, rfl, h⟩
  | ok response =>
    constructor
    · intro h
      refine ⟨checkStatus_coded_iff.mp fun e he => ?_,
        fun hcomplete steps text hsteps htext => decodeText_coded_iff.mp fun e he => ?_⟩
      · exact h e (readResponse_of_error (bind_of_error he _))
      · refine h e (readResponse_of_error ?_)
        unfold extractModelJson
        rw [bind_of_ok (checkStatus_ok_iff.mpr hcomplete), hsteps]
        dsimp only
        rw [bind_of_ok (someOr_ok_iff.mpr htext)]
        exact he
    · rintro ⟨hstatus, htext⟩
      have hextract : RaisesOnly GeminiRaise.Coded (extractModelJson recursionLimit response) := by
        refine (checkStatus_coded_iff.mpr hstatus).bind fun _ hcomplete => ?_
        split
        next steps hsteps =>
          refine (raisesOnly_someOr ⟨_, rfl, by decide⟩).bind fun text hfound => ?_
          exact decodeText_coded_iff.mpr
            (htext (checkStatus_ok_iff.mp hcomplete) steps text hsteps (someOr_ok_iff.mp hfound))
        next => exact RaisesOnly.of_error rfl ⟨_, rfl, by decide⟩
      have hvalue : RaisesOnly GeminiRaise.Coded
          (structuredOutput recursionLimit (.ok response)) := by
        show RaisesOnly GeminiRaise.Coded (extractModelJson recursionLimit response >>= _)
        exact hextract.bind fun document _ => RaisesOnly.of_ok rfl
      exact hvalue.bind fun value _ => geminiDiagnosis_coded hlatency

end

end Retrywise.ControlPlane.Gemini
