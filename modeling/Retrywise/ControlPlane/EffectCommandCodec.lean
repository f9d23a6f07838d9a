import Retrywise.ControlPlane.TerminalMoney

/-!
# The stored command

`effect_command_codec.py`, the writing half, and `references.py`: the envelope a create command
is stored in, what it is checked for before it is stored, and the reference id every command of
one case and one account carries.

A command that fails a check is never stored, so a payload is always the envelope of an allowed
policy plan for the very proposal it carries.
-/

namespace Retrywise.ControlPlane

open Retrywise.Foundation Retrywise.Domain

/-! ## The reference id -/

/-- `_validated_identifier`. -/
def validatedIdentifier (value field : String) : Except ControlPlaneError Unit := do
  raiseIf (value = "") (.invalidValue s!"{field} must be a non-empty string")
  raiseIf (value.toList.head?.any isSpace ∨ value.toList.getLast?.any isSpace)
    (.invalidValue s!"{field} cannot contain surrounding whitespace")
  raiseIf (value.toList.length > 512) (.invalidValue s!"{field} exceeds 512 characters")

/-- `make_recovery_reference_id`, with the checks of its arguments. -/
def checkedRecoveryReferenceId [Hashlib] (recoveryCaseId providerAccountId : String) :
    Except ControlPlaneError String := do
  validatedIdentifier recoveryCaseId "recovery_case_id"
  validatedIdentifier providerAccountId "provider_account_id"
  return makeRecoveryReferenceId providerAccountId recoveryCaseId

theorem base32Digest_spec (hexdigest : String) :
    (base32Digest hexdigest).toList.length = 26 ∧
      ∀ c ∈ (base32Digest hexdigest).toList, c.isAlphanum = true := by
  have hdigit : ∀ n < 32,
      (if n < 26 then Char.ofNat (97 + n) else Char.ofNat (24 + n)).isAlphanum = true := by decide
  unfold base32Digest
  dsimp only
  rw [String.toList_ofList]
  constructor
  · rw [List.length_map, List.length_range]
  · intro c hc
    obtain ⟨i, -, rfl⟩ := List.mem_map.mp hc
    exact hdigit _ (Nat.mod_lt _ (by decide))

/-- The controller's reference is an identifier that the provider takes. -/
theorem reference_ok [Hashlib] (providerAccountId caseId : String) :
    isIdentifier (makeRecoveryReferenceId providerAccountId caseId) = true ∧
      (makeRecoveryReferenceId providerAccountId caseId).toList.length ≤ 40 := by
  unfold makeRecoveryReferenceId
  dsimp only
  generalize hslug : (if ((caseId.toList.map Char.toLower).filter fun c =>
    c.isLower || c.isDigit).take 8 = [] then "case" else String.ofList
      (((caseId.toList.map Char.toLower).filter fun c => c.isLower || c.isDigit).take 8)) = slug
  have hsafe : slug.toList.length ≤ 8 ∧ ∀ c ∈ slug.toList, c.isAlphanum = true := by
    rw [← hslug]
    split
    · exact ⟨by decide, List.all_eq_true.mp (by decide : "case".toList.all Char.isAlphanum = true)⟩
    · rw [String.toList_ofList]
      refine ⟨List.length_take_le _ _, fun c hc => ?_⟩
      have hkept := List.of_mem_filter (List.mem_of_mem_take hc)
      show ((c.isUpper || c.isLower) || c.isDigit) = true
      rw [Bool.or_assoc, hkept, Bool.or_true]
  generalize Hashlib.sha256Hexdigest _ = hexdigest
  obtain ⟨hlength, hdigits⟩ := base32Digest_spec hexdigest
  have hchars : ("rtw_" ++ slug ++ "_" ++ base32Digest hexdigest).toList =
      'r' :: (['t', 'w', '_'] ++ slug.toList ++ ['_'] ++ (base32Digest hexdigest).toList) := by
    have hlead : "rtw_".toList = ['r', 't', 'w', '_'] := by decide
    have hbar : "_".toList = ['_'] := by decide
    rw [String.toList_append, String.toList_append, String.toList_append, hlead, hbar]
    simp only [List.cons_append, List.nil_append, List.append_assoc]
  have hrest : (['t', 'w', '_'] ++ slug.toList ++ ['_'] ++ (base32Digest hexdigest).toList).length ≤
      38 := by
    simp only [List.length_append, List.length_cons, List.length_nil]
    omega
  show isIdentifier ("rtw_" ++ slug ++ "_" ++ base32Digest hexdigest) = true ∧
    ("rtw_" ++ slug ++ "_" ++ base32Digest hexdigest).toList.length ≤ 40
  unfold isIdentifier
  rw [hchars]
  refine ⟨?_, by rw [List.length_cons]; omega⟩
  simp only [Bool.and_eq_true, decide_eq_true_eq, List.all_eq_true]
  refine ⟨⟨by decide, by omega⟩, fun c hc => ?_⟩
  simp only [List.mem_append, List.mem_cons, List.not_mem_nil, or_false] at hc
  rcases hc with (((rfl | rfl | rfl) | hc) | rfl) | hc
  · decide
  · decide
  · decide
  · simp [hsafe.2 c hc]
  · decide
  · simp [hdigits c hc]

/-! ## What must not be stored -/

/-- The lengths of the maximal runs of digits. -/
def digitRuns : List Char → Nat → List Nat
  | [], run => [run]
  | c :: rest, run => if c.isDigit then digitRuns rest (run + 1) else run :: digitRuns rest 0

/-- `(?<!\d)\d{10,19}(?!\d)` is found. -/
def hasAccountLikeNumber (value : String) : Bool :=
  (digitRuns value.toList 0).any fun run => decide (10 ≤ run) && decide (run ≤ 19)

/-- `_reject_obvious_sensitive_description`. -/
def rejectSensitiveDescription (value : String) : Except ControlPlaneError Unit :=
  raiseIf (value.toList.contains '@' ∨ hasAccountLikeNumber value)
    (.invalidValue
      "Payment Link description contains an email, VPA, phone, or account-like number")

/-! ## Size -/

def maxEffectCommandBytes : Nat := 16 * 1024

mutual

/-- `_walk_json`, at a depth. The keys of the envelope are the codec's own, none of them
sensitive. -/
def walkJson (depth : Nat) : Json → Except ControlPlaneError Nat
  | .null | .bool _ => walkDepth depth 4
  | .int n => do
    raiseIf (n < -9223372036854775808 ∨ 9223372036854775807 < n)
      (.invalidValue "effect command integer exceeds signed 64-bit range")
    walkDepth depth n.repr.length
  | .str s => do
    let size := s.toUTF8.size + 2
    raiseIf (size > maxEffectCommandBytes)
      (.invalidValue "effect command contains an oversized string")
    walkDepth depth size
  | .obj members => do
    let _ ← walkDepth depth 0
    walkMembers (depth + 1) 2 members
  | .arr items => do
    let _ ← walkDepth depth 0
    walkItems (depth + 1) 2 items

/-- The bound every level is under. -/
def walkDepth (depth size : Nat) : Except ControlPlaneError Nat := do
  raiseIf (depth > 12) (.invalidValue "effect command exceeds the maximum nesting depth")
  return size

def walkMembers (depth total : Nat) : List (String × Json) → Except ControlPlaneError Nat
  | [] => .ok total
  | (key, item) :: members => do
    raiseIf (key.toUTF8.size > maxEffectCommandBytes)
      (.invalidValue "effect command contains an oversized object key")
    let size ← walkJson depth item
    let grown := total + key.toUTF8.size + 3 + size
    raiseIf (grown > maxEffectCommandBytes)
      (.invalidValue "effect command exceeds the serialized size cap")
    walkMembers depth grown members

def walkItems (depth total : Nat) : List Json → Except ControlPlaneError Nat
  | [] => .ok total
  | item :: items => do
    let size ← walkJson depth item
    let grown := total + 1 + size
    raiseIf (grown > maxEffectCommandBytes)
      (.invalidValue "effect command exceeds the serialized size cap")
    walkItems depth grown items

end

/-- `_bounded_canonical_bytes`. -/
def boundedCanonicalBytes (value : Json) : Except ControlPlaneError ByteArray := do
  let _ ← walkJson 0 value
  let encoded := canonicalJsonBytes value
  raiseIf (encoded.size > maxEffectCommandBytes)
    (.invalidValue "effect command exceeds the serialized size cap")
  return encoded

/-! ## The envelope -/

section

variable [Hashlib] (command : CreatePaymentLinkCommand)

omit [Hashlib] in
/-- `_notes`: the two identifiers of the controller and nothing else. -/
def controllerNotes (notes : List (String × String)) :
    Except ControlPlaneError (String × String) := do
  raiseIf (notes.any fun note => note.1 ∉ ["merchant_order_id", "recovery_case_id"])
    (.invalidValue "Payment Link notes contain a non-controller field")
  let orderId ← someOr (notes.lookup "merchant_order_id")
    (.invalidValue "Payment Link notes lack a required controller identifier")
  let caseId ← someOr (notes.lookup "recovery_case_id")
    (.invalidValue "Payment Link notes lack a required controller identifier")
  raiseIf (¬isIdentifier orderId ∨ ¬isIdentifier caseId)
    (.invalidValue "Payment Link notes must contain opaque controller identifiers")
  return (orderId, caseId)

omit [Hashlib] in
/-- `_request_primitive`. -/
def requestPrimitive (r : RequestFields) : Except ControlPlaneError Json := do
  raiseIf r.customer.isSome
    (.invalidValue "customer PII must not be stored in an effect command")
  rejectSensitiveDescription r.description
  let (orderId, caseId) ← controllerNotes r.notes
  raiseIf (r.description ≠ "Retry payment for order " ++ orderId)
    (.invalidValue "Payment Link description must use the controller-owned order template")
  return .obj [
    ("amount_minor", .int r.amountMinor),
    ("currency", .str r.currency),
    ("description", .str r.description),
    ("expire_by_epoch", .int r.expireByEpoch),
    ("notes", .obj [("merchant_order_id", .str orderId), ("recovery_case_id", .str caseId)]),
    ("reference_id", .str r.referenceId)]

/-- The plan names this proposal. -/
def CommandFields.PlanBound (c : CommandFields) : Prop :=
  c.priorPlan.proposalId = c.proposal.proposalId ∧
    c.priorPlan.actionKey = c.proposal.actionKey ∧
    c.priorPlan.proposalDigest = c.proposal.proposalDigest ∧
    c.priorPlan.caseId = c.proposal.caseId ∧
    c.priorPlan.decisionVersion = c.proposal.decisionVersion

instance (c : CommandFields) : Decidable c.PlanBound := inferInstanceAs (Decidable (_ ∧ _))

/-- `_validate_command_binding`. -/
def validateCommandBinding : Except ControlPlaneError Unit := do
  raiseIf (¬isIdentifier command.providerAccountId)
    (.invalidValue "provider account binding is not an opaque identifier")
  raiseIf (command.proposal.actionType ≠ .createStandardPaymentLink)
    (.invalidValue "proposal is not a Standard Payment Link action")
  raiseIf (command.priorPlan.stage ≠ .policy ∨ command.priorPlan.allowed = false)
    (.invalidValue "effect command requires an allowed policy-stage plan")
  raiseIf (¬command.PlanBound) (.invalidValue "prior plan is not bound to the proposal")
  let amount ← someOr command.proposal.amount
    (.invalidValue "collection proposal has no amount")
  raiseIf (amount.minorUnits ≠ command.request.amountMinor)
    (.invalidValue "provider request amount is not bound to the proposal")
  raiseIf (amount.currency ≠ command.request.currency)
    (.invalidValue "provider request currency is not bound to the proposal")
  let expected ← checkedRecoveryReferenceId command.proposal.caseId command.providerAccountId
  raiseIf (command.request.referenceId ≠ expected)
    (.invalidValue
      "provider request reference is not controller-derived from case and account")
  raiseIf (command.request.notes.lookup "recovery_case_id" ≠ some command.proposal.caseId)
    (.invalidValue "provider request recovery case is not bound to the proposal")

/-- `_unsigned_envelope`, around the request. -/
def unsignedEnvelope (request : Json) : List (String × Json) := [
  ("bindings", .obj [
    ("action_key", .str command.proposal.actionKey),
    ("executor_payload_sha256", .str command.payloadDigest),
    ("prior_plan_sha256", .str command.priorPlan.decisionDigest),
    ("proposal_sha256", .str command.proposal.proposalDigest),
    ("provider_request_sha256", .str command.request.requestDigest)]),
  ("command", .obj [
    ("prior_plan", command.priorPlan.toPrimitive),
    ("proposal", command.proposal.toPrimitive),
    ("provider_account_id", .str command.providerAccountId),
    ("request", request)]),
  ("command_type", .str "CREATE_STANDARD_PAYMENT_LINK"),
  ("schema", .str "retrywise.create-standard-payment-link-command"),
  ("version", .int 1)]

/-- `encode_create_standard_payment_link_command`. -/
def encodeCreateStandardPaymentLinkCommand : Except ControlPlaneError Json := do
  let request ← requestPrimitive command.request.toRequestFields
  let unsigned := unsignedEnvelope command request
  validateCommandBinding command
  let bytes ← boundedCanonicalBytes (.obj unsigned)
  let envelope := Json.obj (unsigned ++ [("integrity", .obj [
    ("algorithm", .str "sha256"), ("digest", .str (Hashlib.sha256Hexdigest bytes))])])
  let _ ← boundedCanonicalBytes envelope
  return envelope

end

end Retrywise.ControlPlane
