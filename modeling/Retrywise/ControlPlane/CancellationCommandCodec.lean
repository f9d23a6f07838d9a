import Retrywise.ControlPlane.Cancellation
import Retrywise.ControlPlane.EffectCommandDecoder

/-!
# The stored cancellation

`cancellation_command_codec.py`: the envelope a cancel command is stored in. It is the envelope of
the create command around another object, and borrows the readers of the proposal and the plan.
What the create command is checked for when it is stored, a cancel command is checked for when it
is built, so the encoder only measures.
-/

namespace Retrywise.ControlPlane

open Retrywise.Foundation Retrywise.Domain

namespace CancellationCommandCodec

open EffectCommandCodec (exactObject field text integer sameDocument CommandFormat)

/-! ## Fields -/

def commandFields : List String := ["prior_plan", "proposal", "target"]

def targetFields : List String :=
  ["action_id", "action_key", "amount_minor", "case_id", "currency", "instrument_id",
    "merchant_id", "payment_link_id", "provider_account_id", "reference_id"]

def bindingFields : List String :=
  ["action_key", "executor_payload_sha256", "prior_plan_sha256", "proposal_sha256",
    "target_sha256"]

/-- The format of a cancel command. -/
def cancelFormat : CommandFormat where
  commandType := "CANCEL_PAYMENT_LINK"
  schema := "retrywise.cancel-payment-link-command"
  noun := "cancellation command"
  integrityNoun := "cancellation integrity"
  externalNoun := "external cancellation"
  typesNoun := "cancellation command types"

/-! ## The command -/

variable [Hashlib]

/-- `_target`. -/
def target (value : Json) : Except ControlPlaneError CancellationTarget := do
  let item ← exactObject value targetFields "$.command.target"
  let merchantId ← text (field item "merchant_id") "$.command.target.merchant_id"
  let caseId ← text (field item "case_id") "$.command.target.case_id"
  let actionId ← text (field item "action_id") "$.command.target.action_id"
  let actionKey ← text (field item "action_key") "$.command.target.action_key"
  let instrumentId ← text (field item "instrument_id") "$.command.target.instrument_id"
  let providerAccountId ← text (field item "provider_account_id")
    "$.command.target.provider_account_id"
  let paymentLinkId ← text (field item "payment_link_id") "$.command.target.payment_link_id"
  let referenceId ← text (field item "reference_id") "$.command.target.reference_id"
  let amountMinor ← integer (field item "amount_minor") "$.command.target.amount_minor" (some 1)
  let currency ← text (field item "currency") "$.command.target.currency"
  let target ← Except.mapError
    (fun _ => .invalidValue "cancellation target violates its immutable contract")
    (construct TargetFields.postInit CancellationTarget.mk {
      merchantId := merchantId
      caseId := caseId
      actionId := actionId
      actionKey := actionKey
      instrumentId := instrumentId
      providerAccountId := providerAccountId
      paymentLinkId := paymentLinkId
      referenceId := referenceId
      amountMinor := amountMinor.toNat
      currency := currency })
  raiseIf (sameDocument target.toPrimitive (.obj item) = false)
    (.invalidValue "cancellation target derived fields differ from their source")
  return target

/-- `_bindings`. -/
def bindings (command : CancelPaymentLinkCommand) : List (String × String) := [
  ("action_key", command.proposal.actionKey),
  ("executor_payload_sha256", command.payloadDigest),
  ("prior_plan_sha256", command.priorPlan.decisionDigest),
  ("proposal_sha256", command.proposal.proposalDigest),
  ("target_sha256", command.target.targetDigest)]

/-- `_unsigned_envelope`. -/
def unsignedEnvelope (command : CancelPaymentLinkCommand) : List (String × Json) := [
  ("bindings", .obj ((bindings command).map fun binding => (binding.1, .str binding.2))),
  ("command", .obj [
    ("prior_plan", command.priorPlan.toPrimitive),
    ("proposal", command.proposal.toPrimitive),
    ("target", command.target.toPrimitive)]),
  ("command_type", .str cancelFormat.commandType),
  ("schema", .str cancelFormat.schema),
  ("version", .int 1)]

/-- The parts of the command, and the command of them. -/
def commandOf (value : Json) : Except ControlPlaneError CancelPaymentLinkCommand := do
  let item ← exactObject value commandFields "$.command"
  let proposal ← decodeActionProposal (field item "proposal")
  let priorPlan ← EffectCommandCodec.priorPlan (field item "prior_plan")
  let target ← target (field item "target")
  Except.mapError
    (fun _ => .invalidValue "cancellation command violates proposal/plan/target binding")
    (construct CancelCommandFields.postInit CancelPaymentLinkCommand.mk {
      proposal := proposal
      priorPlan := priorPlan
      target := target })

end CancellationCommandCodec

/-! ## The envelope -/

section

variable [Hashlib]

open EffectCommandCodec (exactObject field)

/-- `encode_cancel_payment_link_command`. -/
def encodeCancelPaymentLinkCommand (command : CancelPaymentLinkCommand) :
    Except ControlPlaneError Json := do
  let unsigned := CancellationCommandCodec.unsignedEnvelope command
  let bytes ← boundedCanonicalBytes (.obj unsigned)
  let envelope := Json.obj (unsigned ++ [("integrity", .obj [
    ("algorithm", .str "sha256"), ("digest", .str (Hashlib.sha256Hexdigest bytes))])])
  let _ ← boundedCanonicalBytes envelope
  return envelope

/-- `encode_cancel_payment_link_command_json`. -/
def encodeCancelPaymentLinkCommandJson (command : CancelPaymentLinkCommand) :
    Except ControlPlaneError ByteArray := do
  let envelope ← encodeCancelPaymentLinkCommand command
  boundedCanonicalBytes envelope

/-- `decode_cancel_payment_link_command`. -/
def decodeCancelPaymentLinkCommand (payload : CommandPayload)
    (commandType : String := "CANCEL_PAYMENT_LINK") (commandSchemaVersion : Int := 1) :
    Except ControlPlaneError CancelPaymentLinkCommand := do
  let members ← coercePayload payload
  let envelope ← exactObject (.obj members) EffectCommandCodec.envelopeFields "$"
  EffectCommandCodec.checkSchema CancellationCommandCodec.cancelFormat envelope commandType
    commandSchemaVersion
  EffectCommandCodec.checkIntegrity CancellationCommandCodec.cancelFormat envelope
  let command ← CancellationCommandCodec.commandOf (field envelope "command")
  let supplied ← exactObject (field envelope "bindings") CancellationCommandCodec.bindingFields
    "$.bindings"
  EffectCommandCodec.checkDigests supplied
    (CancellationCommandCodec.bindingFields.filter fun name => name ≠ "action_key")
  EffectCommandCodec.checkBindings CancellationCommandCodec.cancelFormat supplied
    (CancellationCommandCodec.bindings command)
  let rebuilt ← encodeCancelPaymentLinkCommand command
  let stored ← boundedBytes (Json.obj envelope).toPy
  let encoded ← boundedBytes rebuilt.toPy
  raiseIf (stored ≠ encoded)
    (.invalidValue "cancellation command is not its unique canonical envelope")
  return command

end

end Retrywise.ControlPlane
