import Retrywise.ControlPlane.CommandPayload
import Retrywise.ControlPlane.ProbabilityRead

/-!
# Reading a stored command back

`effect_command_codec.py`, the reading half: every part of the envelope is checked for its exact
fields and types, the domain objects are built again with their own checks, and what they give of
themselves must be what was stored. At the end the command is encoded once more, and only a
payload with the same canonical bytes is accepted.
-/

namespace Retrywise.ControlPlane

open Retrywise.Foundation Retrywise.Domain

namespace EffectCommandCodec

/-! ## Fields -/

def envelopeFields : List String :=
  ["bindings", "command", "command_type", "integrity", "schema", "version"]

def bindingFields : List String :=
  ["action_key", "executor_payload_sha256", "prior_plan_sha256", "proposal_sha256",
    "provider_request_sha256"]

def commandFields : List String := ["prior_plan", "proposal", "provider_account_id", "request"]

def integrityFields : List String := ["algorithm", "digest"]

def proposalFields : List String :=
  ["action_key", "action_type", "amount", "attempt_ordinal", "case_id", "created_at",
    "decision_version", "expected_value_minor", "expires_at", "instrument_reference",
    "merchant_id", "model_confidence", "payment_method", "proposal_id", "requires_approval"]

def moneyFields : List String := ["currency", "minor_units"]

def planFields : List String :=
  ["action_key", "aggregate_version", "allowed", "case_id", "decision_version", "evaluated_at",
    "policy_version", "proposal_digest", "proposal_id", "reasons", "stage"]

def requestFields : List String :=
  ["amount_minor", "currency", "description", "expire_by_epoch", "notes", "reference_id"]

def requiredNoteKeys : List String := ["merchant_order_id", "recovery_case_id"]

/-! ## Parts of a document -/

/-- The names with a word in front of them, if there are any. -/
def detail (word : String) (names : List String) : List String :=
  if names = [] then []
  else [word ++ "=" ++ ",".intercalate (names.mergeSort fun a b => decide (a ≤ b))]

/-- `_exact_object`. -/
def exactObject (value : Json) (fields : List String) (path : String) :
    Except ControlPlaneError (List (String × Json)) :=
  match value with
  | .obj members => do
    let missing := fields.filter fun name => name ∉ members.map Prod.fst
    let unknown := (members.map Prod.fst).filter fun name => name ∉ fields
    let details := "; ".intercalate (detail "missing" missing ++ detail "unknown" unknown)
    raiseIf (missing ≠ [] ∨ unknown ≠ []) (.invalidValue s!"{path} has invalid fields ({details})")
    return members
  | _ => .error (.invalidValue s!"{path} must be a JSON object")

/-- What stands under a field; `exactObject` has seen that it is there. -/
def field (item : List (String × Json)) (name : String) : Json :=
  (item.lookup name).getD .null

/-- `_text`. -/
def text (value : Json) (path : String) : Except ControlPlaneError String :=
  match value with
  | .str s => .ok s
  | _ => .error (.invalidValue s!"{path} must be a string")

/-- `_boolean`. -/
def boolean (value : Json) (path : String) : Except ControlPlaneError Bool :=
  match value with
  | .bool b => .ok b
  | _ => .error (.invalidValue s!"{path} must be a boolean")

/-- `_integer`. -/
def integer (value : Json) (path : String) (minimum : Option Int) :
    Except ControlPlaneError Int :=
  match value with
  | .int n => do
    raiseIf (n < -9223372036854775808 ∨ 9223372036854775807 < n)
      (.invalidValue s!"{path} is outside the signed 64-bit boundary")
    raiseIf (minimum.any fun least => n < least) (.invalidValue s!"{path} is below its minimum")
    return n
  | _ => .error (.invalidValue s!"{path} must be a canonical JSON integer")

/-- `_optional_integer`. -/
def optionalInteger (value : Json) (path : String) : Except ControlPlaneError (Option Int) :=
  match value with
  | .null => .ok none
  | value => (integer value path none).map some

/-- `_optional_text`. -/
def optionalText (value : Json) (path : String) : Except ControlPlaneError (Option String) :=
  match value with
  | .null => .ok none
  | value => (text value path).map some

/-- `_timestamp`. -/
def timestamp (value : Json) (path : String) : Except ControlPlaneError Timestamp := do
  let rendered ← text value path
  raisedAs s!"{path} must use canonical UTC microseconds" (parseCanonicalTimestamp rendered)

/-- `_digest`. -/
def digest (value : Json) (path : String) : Except ControlPlaneError String := do
  let rendered ← text value path
  raiseIf (¬isDigest rendered) (.invalidValue s!"{path} must be a lowercase SHA-256 digest")
  return rendered

/-- `_money`. Whatever is wrong with the two fields has one message. -/
def money (value : Json) (path : String) : Except ControlPlaneError Money := do
  let item ← exactObject value moneyFields path
  Except.mapError (fun _ => .invalidValue s!"{path} violates the Money contract") do
    let minorUnits ← integer (field item "minor_units") s!"{path}.minor_units" (some 0)
    let currency ← text (field item "currency") s!"{path}.currency"
    if h : isCurrency currency = true then return ⟨minorUnits.toNat, currency, h⟩
    else .error (.invalidValue "currency must be three uppercase ASCII letters")

/-- An amount that may be missing. -/
def optionalMoney (value : Json) (path : String) : Except ControlPlaneError (Option Money) :=
  match value with
  | .null => .ok none
  | value => (money value path).map some

/-- `_probability`. -/
def probability (value : Json) (path : String) : Except ControlPlaneError (Option Probability) :=
  match value with
  | .null => .ok none
  | value => do
    let rendered ← text value path
    let probability ← raisedAs s!"{path} violates the Probability contract"
      (probabilityOf rendered)
    raiseIf (probability.toPrimitive ≠ rendered)
      (.invalidValue s!"{path} is not a canonical decimal string")
    return some probability

/-- `==` of documents: the order of members does not count. -/
def sameDocument (left right : Json) : Bool := left.canonicalText = right.canonicalText

/-- A value of an enumeration. -/
def member {α : Type} (members : List α) (value : α → String) (name : String) : Option α :=
  members.find? fun candidate => value candidate = name

def actionTypes : List ActionType :=
  [.wait, .createStandardPaymentLink, .notifyExistingLink, .cancelPaymentLink, .escalate, .stop]

def gateStages : List GateStage := [.policy, .effect]

def gateReasons : List GateReason := [
  .proposalMerchantMismatch, .proposalCaseMismatch, .actionNotYetValid, .actionExpired,
  .actionNotAllowed, .environmentEffectsDisabled, .globalKillSwitchActive,
  .merchantKillSwitchActive, .aggregateVersionMismatch, .recoveryStateNotActionable,
  .observationDeadlineMissing, .observationWindowActive, .paymentTruthNotUnpaid,
  .providerSnapshotFromFuture, .providerSnapshotStale, .activeInstrumentExists,
  .activeInstrumentRequired, .policyCurrencyMismatch, .currencyMismatch, .amountMismatch,
  .paymentMethodMismatch, .consentMissing, .customerOptedOut, .cooldownActive,
  .contactCapReached, .quietHoursActive, .incidentHealthFromFuture, .incidentHealthStale,
  .paymentMethodUnhealthy, .attemptBudgetExhausted, .confidenceUnavailable,
  .confidenceBelowThreshold, .abstentionRequiresApproval, .externalDiagnosisRequiresApproval,
  .highValueRequiresApproval, .approvalRequired, .approvalRejected, .approvalExpired,
  .approvalNotYetValid, .approvalBindingMismatch, .planAuthorizationMissing,
  .planBindingMismatch, .durableIntentMissing]

end EffectCommandCodec

open EffectCommandCodec (exactObject field text boolean integer)

/-! ## The proposal -/

section

variable [Hashlib]

/-- `decode_action_proposal`, which is `_proposal`. -/
def decodeActionProposal (value : Json) : Except ControlPlaneError ActionProposal := do
  let item ← exactObject value EffectCommandCodec.proposalFields "$.command.proposal"
  let amount ← EffectCommandCodec.optionalMoney (field item "amount") "$.command.proposal.amount"
  let actionTypeValue ← text (field item "action_type") "$.command.proposal.action_type"
  let actionType ← someOr
    (EffectCommandCodec.member EffectCommandCodec.actionTypes ActionType.value actionTypeValue)
    (.invalidValue "proposal violates the ActionProposal contract")
  let proposalId ← text (field item "proposal_id") "$.command.proposal.proposal_id"
  let merchantId ← text (field item "merchant_id") "$.command.proposal.merchant_id"
  let caseId ← text (field item "case_id") "$.command.proposal.case_id"
  let decisionVersion ← integer (field item "decision_version")
    "$.command.proposal.decision_version" (some 1)
  let createdAt ← EffectCommandCodec.timestamp (field item "created_at")
    "$.command.proposal.created_at"
  let expiresAt ← EffectCommandCodec.timestamp (field item "expires_at")
    "$.command.proposal.expires_at"
  let attemptOrdinal ← integer (field item "attempt_ordinal")
    "$.command.proposal.attempt_ordinal" (some 1)
  let paymentMethod ← EffectCommandCodec.optionalText (field item "payment_method")
    "$.command.proposal.payment_method"
  let expectedValueMinor ← EffectCommandCodec.optionalInteger (field item "expected_value_minor")
    "$.command.proposal.expected_value_minor"
  let modelConfidence ← EffectCommandCodec.probability (field item "model_confidence")
    "$.command.proposal.model_confidence"
  let requiresApproval ← boolean (field item "requires_approval")
    "$.command.proposal.requires_approval"
  let instrumentReference ← EffectCommandCodec.optionalText (field item "instrument_reference")
    "$.command.proposal.instrument_reference"
  let proposal ← raisedAs "proposal violates the ActionProposal contract"
    (construct ProposalFields.postInit ActionProposal.mk {
      proposalId := proposalId
      merchantId := merchantId
      caseId := caseId
      decisionVersion := decisionVersion.toNat
      actionType := actionType
      createdAt := createdAt
      expiresAt := expiresAt
      attemptOrdinal := attemptOrdinal.toNat
      amount := amount
      paymentMethod := paymentMethod
      expectedValueMinor := expectedValueMinor
      modelConfidence := modelConfidence
      requiresApproval := requiresApproval
      instrumentReference := instrumentReference })
  raiseIf (EffectCommandCodec.sameDocument proposal.toPrimitive (.obj item) = false)
    (.invalidValue "proposal derived fields do not match their source fields")
  return proposal

end

namespace EffectCommandCodec

/-! ## The plan -/

/-- The items of the reasons of a plan. -/
def reasonValues : List Json → Except ControlPlaneError (List GateReason)
  | [] => .ok []
  | value :: values => do
    let name ← text value "$.command.prior_plan.reasons[]"
    let reason ← someOr (member gateReasons GateReason.value name)
      (.invalidValue "prior plan violates the GateDecision contract")
    let reasons ← reasonValues values
    return reason :: reasons

/-- `_prior_plan`. -/
def priorPlan (value : Json) : Except ControlPlaneError GateDecision := do
  let item ← exactObject value planFields "$.command.prior_plan"
  let reasonsValue ← match field item "reasons" with
    | .arr values => pure values
    | _ => .error (.invalidValue "$.command.prior_plan.reasons must be a JSON array")
  let suppliedAllowed ← boolean (field item "allowed") "$.command.prior_plan.allowed"
  let reasons ← reasonValues reasonsValue
  raiseIf (¬reasons.Nodup) (.invalidValue "prior plan reason codes must be unique")
  let stageValue ← text (field item "stage") "$.command.prior_plan.stage"
  let stage ← someOr (member gateStages GateStage.value stageValue)
    (.invalidValue "prior plan violates the GateDecision contract")
  let policyVersion ← text (field item "policy_version") "$.command.prior_plan.policy_version"
  let proposalId ← text (field item "proposal_id") "$.command.prior_plan.proposal_id"
  let actionKey ← text (field item "action_key") "$.command.prior_plan.action_key"
  let proposalDigest ← digest (field item "proposal_digest") "$.command.prior_plan.proposal_digest"
  let caseId ← text (field item "case_id") "$.command.prior_plan.case_id"
  let decisionVersion ← integer (field item "decision_version")
    "$.command.prior_plan.decision_version" (some 1)
  let aggregateVersion ← integer (field item "aggregate_version")
    "$.command.prior_plan.aggregate_version" (some 0)
  let evaluatedAt ← timestamp (field item "evaluated_at") "$.command.prior_plan.evaluated_at"
  let plan : GateDecision := {
    stage := stage
    policyVersion := policyVersion
    proposalId := proposalId
    actionKey := actionKey
    proposalDigest := proposalDigest
    caseId := caseId
    decisionVersion := decisionVersion.toNat
    aggregateVersion := aggregateVersion.toNat
    evaluatedAt := evaluatedAt
    reasons := reasons }
  raisedAs "prior plan violates the GateDecision contract" do
    let _ ← requireIdentifier plan.policyVersion "policy_version"
    let _ ← requireIdentifier plan.proposalId "proposal_id"
    let _ ← requireIdentifier plan.caseId "case_id"
  raiseIf (plan.allowed ≠ suppliedAllowed ∨ sameDocument plan.toPrimitive (.obj item) = false)
    (.invalidValue "prior plan derived fields do not match their source fields")
  return plan

/-! ## The request -/

/-- The loop of `_notes`. -/
def noteValues (result : List (String × String)) :
    List (String × Json) → Except ControlPlaneError (List (String × String))
  | [] => .ok result
  | (key, candidate) :: rest => do
    let rendered ← text candidate s!"$.command.request.notes.{key}"
    raiseIf (¬isIdentifier rendered)
      (.invalidValue "Payment Link notes must contain opaque controller identifiers")
    noteValues (assign key rendered result) rest

/-- `_notes`, of a document. -/
def notes (value : Json) : Except ControlPlaneError (List (String × String)) :=
  match value with
  | .obj members => do
    raiseIf (members.any fun note => note.1 ∉ requiredNoteKeys)
      (.invalidValue "Payment Link notes contain a non-controller field")
    raiseIf (requiredNoteKeys.any fun key => key ∉ members.map Prod.fst)
      (.invalidValue "Payment Link notes lack a required controller identifier")
    noteValues [] members
  | _ => .error (.invalidValue "$.command.request.notes must be a JSON object")

/-- `_validate_description_binding`. -/
def validateDescriptionBinding (value merchantOrderId : String) :
    Except ControlPlaneError Unit := do
  rejectSensitiveDescription value
  raiseIf (value ≠ "Retry payment for order " ++ merchantOrderId)
    (.invalidValue "Payment Link description must use the controller-owned order template")

/-- `StandardPaymentLinkRequest(..)`; the notes are a dictionary. -/
def linkRequest (fields : RequestFields) : Except ControlPlaneError StandardPaymentLinkRequest :=
  match valid : fields.postInit with
  | .ok () =>
    if mapping : (fields.notes.map Prod.fst).Nodup then .ok ⟨fields, valid, mapping⟩
    else .error (.paymentLink "notes must be a mapping")
  | .error raised => .error raised

/-- `_request`. -/
def request (value : Json) : Except ControlPlaneError StandardPaymentLinkRequest := do
  let item ← exactObject value requestFields "$.command.request"
  let description ← text (field item "description") "$.command.request.description"
  rejectSensitiveDescription description
  let notes ← notes (field item "notes")
  validateDescriptionBinding description ((notes.lookup "merchant_order_id").getD "")
  let amountMinor ← integer (field item "amount_minor") "$.command.request.amount_minor" (some 1)
  let currency ← text (field item "currency") "$.command.request.currency"
  let referenceId ← text (field item "reference_id") "$.command.request.reference_id"
  let expireByEpoch ← integer (field item "expire_by_epoch")
    "$.command.request.expire_by_epoch" (some 1)
  Except.mapError
    (fun _ => .invalidValue "provider request violates the StandardPaymentLinkRequest contract")
    (linkRequest {
      amountMinor := amountMinor.toNat
      currency := currency
      referenceId := referenceId
      description := description
      expireByEpoch := expireByEpoch.toNat
      notes := notes })

/-! ## The envelope -/

/-- `hmac.compare_digest` of two strings, which takes ASCII only. -/
def compareDigest (left right : String) : Except ControlPlaneError Bool := do
  raiseIf (left.toList.any (fun c => 127 < c.toNat) ∨ right.toList.any fun c => 127 < c.toNat)
    (.invalidValue "comparing strings with non-ASCII characters is not supported")
  return left = right

/-- The document is this string. -/
def isText (value : Json) (expected : String) : Bool :=
  match value with
  | .str s => s = expected
  | _ => false

/-- The document is this integer. -/
def isInteger (value : Json) (expected : Int) : Bool :=
  match value with
  | .int n => n = expected
  | _ => false

/-- The digests among the bindings. They come in no order of their own. -/
def checkDigests (supplied : List (String × Json)) :
    List String → Except ControlPlaneError Unit
  | [] => .ok ()
  | name :: names => do
    let _ ← digest (field supplied name) s!"$.bindings.{name}"
    checkDigests supplied names

/-- What the two kinds of commands have of their own in an envelope, and in the messages about
it. -/
structure CommandFormat where
  commandType : String
  schema : String
  noun : String
  integrityNoun : String
  externalNoun : String
  typesNoun : String

/-- The bindings, against those of the command. -/
def checkBindings (format : CommandFormat) (supplied : List (String × Json)) :
    List (String × String) → Except ControlPlaneError Unit
  | [] => .ok ()
  | (name, expected) :: bindings => do
    match field supplied name with
    | .str binding => do
      let same ← compareDigest binding expected
      raiseIf (same = false) (.invalidValue s!"{format.noun} {name} binding mismatch")
    | _ => .error (.invalidValue s!"{format.noun} {name} binding mismatch")
    checkBindings format supplied bindings

/-- The schema of the envelope, against the columns it was stored with. -/
def checkSchema (format : CommandFormat) (envelope : List (String × Json)) (commandType : String)
    (commandSchemaVersion : Int) : Except ControlPlaneError Unit := do
  raiseIf (commandType ≠ format.commandType)
    (.invalidValue s!"{format.externalNoun} command_type is unsupported")
  raiseIf (commandSchemaVersion ≠ 1)
    (.invalidValue s!"{format.externalNoun} command_schema_version is unsupported")
  raiseIf (isText (field envelope "schema") format.schema = false)
    (.invalidValue s!"{format.noun} schema is unsupported")
  raiseIf (isInteger (field envelope "version") 1 = false)
    (.invalidValue s!"{format.noun} schema version is unsupported")
  raiseIf (isText (field envelope "command_type") commandType = false)
    (.invalidValue s!"embedded and external {format.typesNoun} differ")

/-- The format of a create command. -/
def createFormat : CommandFormat where
  commandType := "CREATE_STANDARD_PAYMENT_LINK"
  schema := "retrywise.create-standard-payment-link-command"
  noun := "effect command"
  integrityNoun := "effect command integrity"
  externalNoun := "external"
  typesNoun := "command types"

variable [Hashlib]

/-- `_bindings`. -/
def bindings (command : CreatePaymentLinkCommand) : List (String × String) := [
  ("action_key", command.proposal.actionKey),
  ("executor_payload_sha256", command.payloadDigest),
  ("prior_plan_sha256", command.priorPlan.decisionDigest),
  ("proposal_sha256", command.proposal.proposalDigest),
  ("provider_request_sha256", command.request.requestDigest)]

/-- `_integrity_digest`. -/
def integrityDigest (unsigned : List (String × Json)) : Except ControlPlaneError String := do
  let bytes ← boundedBytes (Json.obj unsigned).toPy
  return Hashlib.sha256Hexdigest bytes

/-- The checksum of the envelope, over everything else in it. -/
def checkIntegrity (format : CommandFormat) (envelope : List (String × Json)) :
    Except ControlPlaneError Unit := do
  let integrity ← exactObject (field envelope "integrity") integrityFields "$.integrity"
  raiseIf (isText (field integrity "algorithm") "sha256" = false)
    (.invalidValue s!"{format.integrityNoun} algorithm is unsupported")
  let supplied ← digest (field integrity "digest") "$.integrity.digest"
  let expected ← integrityDigest (envelope.filter fun m => m.1 ≠ "integrity")
  raiseIf (supplied ≠ expected) (.invalidValue s!"{format.noun} integrity digest mismatch")

/-- The parts of the command, and the command of them. -/
def commandOf (value : Json) : Except ControlPlaneError CreatePaymentLinkCommand := do
  let item ← exactObject value commandFields "$.command"
  let proposal ← decodeActionProposal (field item "proposal")
  let priorPlan ← priorPlan (field item "prior_plan")
  let request ← request (field item "request")
  let providerAccountId ← text (field item "provider_account_id") "$.command.provider_account_id"
  Except.mapError (fun _ => .invalidValue "effect command violates the executor contract")
    (construct CommandFields.postInit CreatePaymentLinkCommand.mk {
      proposal := proposal
      priorPlan := priorPlan
      request := request
      providerAccountId := providerAccountId })

end EffectCommandCodec

section

variable [Hashlib]

/-- `encode_create_standard_payment_link_command_json`. -/
def encodeCreateStandardPaymentLinkCommandJson (command : CreatePaymentLinkCommand) :
    Except ControlPlaneError ByteArray := do
  let envelope ← encodeCreateStandardPaymentLinkCommand command
  boundedCanonicalBytes envelope

/-- `decode_create_standard_payment_link_command`. -/
def decodeCreateStandardPaymentLinkCommand (payload : CommandPayload)
    (commandType : String := "CREATE_STANDARD_PAYMENT_LINK") (commandSchemaVersion : Int := 1) :
    Except ControlPlaneError CreatePaymentLinkCommand := do
  let members ← coercePayload payload
  let envelope ← exactObject (.obj members) EffectCommandCodec.envelopeFields "$"
  EffectCommandCodec.checkSchema EffectCommandCodec.createFormat envelope commandType
    commandSchemaVersion
  EffectCommandCodec.checkIntegrity EffectCommandCodec.createFormat envelope
  let command ← EffectCommandCodec.commandOf (field envelope "command")
  validateCommandBinding command
  let supplied ← exactObject (field envelope "bindings") EffectCommandCodec.bindingFields
    "$.bindings"
  EffectCommandCodec.checkDigests supplied
    (EffectCommandCodec.bindingFields.filter fun name => name ≠ "action_key")
  EffectCommandCodec.checkBindings EffectCommandCodec.createFormat supplied
    (EffectCommandCodec.bindings command)
  let rebuilt ← encodeCreateStandardPaymentLinkCommand command
  let stored ← boundedBytes (Json.obj envelope).toPy
  let encoded ← boundedBytes rebuilt.toPy
  raiseIf (stored ≠ encoded)
    (.invalidValue "effect command is not its unique canonical envelope")
  return command

end

end Retrywise.ControlPlane
