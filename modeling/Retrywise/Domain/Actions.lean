import Retrywise.Domain.Values

/-!
# The action catalog and proposals

`actions.py`: the closed catalog of recovery actions, and the immutable proposal
with its two hash identities. The action key binds what is done (type, attempt,
case, decision version, merchant); the proposal digest binds every field.

A proposal's timestamps are stored normalized to UTC; the fields here are the
stored ones.
-/

namespace Retrywise.Domain

open Retrywise.Foundation

inductive ActionType where
  | wait | createStandardPaymentLink | notifyExistingLink | cancelPaymentLink | escalate | stop
deriving DecidableEq, Repr

def ActionType.value : ActionType → String
  | .wait => "wait"
  | .createStandardPaymentLink => "create_standard_payment_link"
  | .notifyExistingLink => "notify_existing_link"
  | .cancelPaymentLink => "cancel_payment_link"
  | .escalate => "escalate"
  | .stop => "stop"

theorem ActionType.value_injective {a b : ActionType} (h : a.value = b.value) : a = b := by
  revert h
  cases a <;> cases b <;> decide

def collectionActions : List ActionType := [.createStandardPaymentLink, .notifyExistingLink]

def contactActions : List ActionType := [.notifyExistingLink]

def protectiveActions : List ActionType := [.cancelPaymentLink]

def internalActions : List ActionType := [.wait, .escalate, .stop]

def externalActions : List ActionType := collectionActions ++ protectiveActions

structure ProposalFields where
  proposalId : String
  merchantId : String
  caseId : String
  decisionVersion : Nat
  actionType : ActionType
  createdAt : Timestamp
  expiresAt : Timestamp
  attemptOrdinal : Nat := 1
  amount : Option Money := none
  paymentMethod : Option String := none
  expectedValueMinor : Option Int := none
  modelConfidence : Option Probability := none
  requiresApproval : Bool := false
  instrumentReference : Option String := none

namespace ProposalFields

/-- `ActionProposal.__post_init__`. -/
def postInit (p : ProposalFields) : Except DomainError Unit := do
  let _ ← requireIdentifier p.proposalId "proposal_id"
  let _ ← requireIdentifier p.merchantId "merchant_id"
  let _ ← requireIdentifier p.caseId "case_id"
  raiseIf (p.decisionVersion < 1) (.invalidValue "decision_version must be a positive integer")
  raiseIf (p.attemptOrdinal < 1) (.invalidValue "attempt_ordinal must be a positive integer")
  raiseIf (p.expiresAt ≤ p.createdAt)
    (.invalidValue "proposal expires_at must be after created_at")
  if let some method := p.paymentMethod then
    let _ ← requirePaymentMethod method
  if let some reference := p.instrumentReference then
    let _ ← requireIdentifier reference "instrument_reference"
  -- a missing amount is refused like one that is not positive
  if p.actionType ∈ collectionActions then
    raiseIf (p.amount.all fun amount => amount.minorUnits = 0)
      (.invalidValue "collection proposals require a positive amount")
    raiseIf (p.paymentMethod = none)
      (.invalidValue "collection proposals require a payment method")
  else
    raiseIf (p.amount.isSome ∨ p.paymentMethod.isSome)
      (.invalidValue "non-collection proposals cannot carry amount or payment method")
  if p.actionType = .cancelPaymentLink then
    raiseIf (p.instrumentReference = none)
      (.invalidValue "cancellation requires an instrument reference")
  else
    raiseIf p.instrumentReference.isSome
      (.invalidValue "only cancellation proposals carry an instrument reference")

/-- The document behind the action key. -/
def keyMaterial (p : ProposalFields) : Json :=
  .obj [
    ("action_type", .str p.actionType.value),
    ("attempt_ordinal", .int p.attemptOrdinal),
    ("case_id", .str p.caseId),
    ("decision_version", .int p.decisionVersion),
    ("merchant_id", .str p.merchantId),
    ("schema", .str "retrywise-action-key-v1")]

variable [Hashlib]

def actionKey (p : ProposalFields) : String := "act_" ++ sha256Json p.keyMaterial

def toPrimitive (p : ProposalFields) : Json :=
  .obj [
    ("action_key", .str p.actionKey),
    ("action_type", .str p.actionType.value),
    ("amount", match p.amount with | none => .null | some amount => amount.toPrimitive),
    ("attempt_ordinal", .int p.attemptOrdinal),
    ("case_id", .str p.caseId),
    ("created_at", .str (canonicalTimestamp p.createdAt)),
    ("decision_version", .int p.decisionVersion),
    ("expected_value_minor", match p.expectedValueMinor with | none => .null | some v => .int v),
    ("expires_at", .str (canonicalTimestamp p.expiresAt)),
    ("instrument_reference", optionalText p.instrumentReference),
    ("merchant_id", .str p.merchantId),
    ("model_confidence",
      match p.modelConfidence with | none => .null | some c => .str c.toPrimitive),
    ("payment_method", optionalText p.paymentMethod),
    ("proposal_id", .str p.proposalId),
    ("requires_approval", .bool p.requiresApproval)]

def proposalDigest (p : ProposalFields) : String := sha256Json p.toPrimitive

/-- Every action key passes the identifier check. -/
theorem isIdentifier_actionKey (p : ProposalFields) : isIdentifier p.actionKey = true :=
  isIdentifier_of_isDigest (Hashlib.isDigest_sha256Hexdigest _)

end ProposalFields

/-- The key material determines the action type. -/
theorem actionType_eq_of_keyMaterial {p q : ProposalFields}
    (h : p.keyMaterial.sorted = q.keyMaterial.sorted) : p.actionType = q.actionType := by
  have hget := congrArg (Json.get? "action_type") h
  have hvalue : p.actionType.value = q.actionType.value := by
    simpa [ProposalFields.keyMaterial, Json.sorted, Json.sortedMembers, List.orderedInsert,
      Json.get?] using hget
  exact ActionType.value_injective hvalue

/-- The key material determines the decision version. -/
theorem decisionVersion_eq_of_keyMaterial {p q : ProposalFields}
    (h : p.keyMaterial.sorted = q.keyMaterial.sorted) : p.decisionVersion = q.decisionVersion := by
  have hget := congrArg (Json.get? "decision_version") h
  simpa [ProposalFields.keyMaterial, Json.sorted, Json.sortedMembers, List.orderedInsert,
    Json.get?] using hget

/-- An immutable proposal: fields that passed the constructor. -/
structure ActionProposal extends ProposalFields where
  valid : toProposalFields.postInit = .ok ()

end Retrywise.Domain
