import Retrywise.ControlPlane.Cancellation
import Retrywise.ControlPlane.Executor
import Retrywise.ControlPlane.ProviderExchange

/-!
# The provider's answers: Payment Links

`RazorpayTestModePaymentLinkAdapter`, the two writes and the lookup: what each makes of the
exchange that came of its request.

> `create_outcome_iff`, `cancel_outcome_iff`: a write ends in a sound outcome exactly when nothing
> escapes from the reading of its answer.

> `lookup_completed`: a completed lookup read a whole list, of the reference that was asked for.
-/

namespace Retrywise.ControlPlane.Razorpay

open Retrywise.Foundation Retrywise.Domain

/-! ## Payment Links of the provider -/

inductive PaymentLinkStatus where
  | created | partiallyPaid | expired | cancelled | paid
deriving DecidableEq, Repr

def PaymentLinkStatus.value : PaymentLinkStatus → String
  | .created => "created"
  | .partiallyPaid => "partially_paid"
  | .expired => "expired"
  | .cancelled => "cancelled"
  | .paid => "paid"

/-- `PaymentLinkStatus(value)`, of a known status. -/
def PaymentLinkStatus.ofValue (value : String) : Option PaymentLinkStatus :=
  [PaymentLinkStatus.created, .partiallyPaid, .expired, .cancelled, .paid].find?
    fun status => status.value = value

structure RecordFields where
  paymentLinkId : String
  referenceId : String
  amountMinor : Int
  amountPaidMinor : Int
  currency : String
  acceptPartial : Bool
  upiLink : Bool
  status : PaymentLinkStatus
  shortUrl : Option String

/-- `_validate_short_url`. -/
def validateShortUrl (value : String) : Except ControlPlaneError Unit :=
  raiseIf (value.toList.length > 2048 ∨ ¬"https://rzp.io/".toList.isPrefixOf value.toList ∨
      value.toList.any fun c => c.toNat < 32 || c.toNat = 127)
    (.paymentLink "short_url is not a trusted Razorpay HTTPS URL")

/-- `PaymentLinkRecord.__post_init__`. -/
def RecordFields.postInit (r : RecordFields) : Except ControlPlaneError Unit := do
  raiseIf (¬isPaymentLinkId r.paymentLinkId) (.paymentLink "payment_link_id is invalid")
  raiseIf (¬isCleanText 40 r.referenceId) (.paymentLink "reference_id is invalid")
  raiseIf (r.amountMinor ≤ 0) (.paymentLink "amount must be a positive integer")
  raiseIf (r.amountPaidMinor < 0 ∨ r.amountPaidMinor > r.amountMinor)
    (.paymentLink "amount_paid must be between zero and amount")
  raiseIf (¬isCurrency r.currency)
    (.paymentLink "currency must be an uppercase three-letter code")
  match r.status with
  | .paid =>
    raiseIf (r.amountPaidMinor ≠ r.amountMinor)
      (.paymentLink "paid link must have its full amount paid")
  | .partiallyPaid =>
    raiseIf (¬(0 < r.amountPaidMinor ∧ r.amountPaidMinor < r.amountMinor))
      (.paymentLink "partially paid link must have a proper partial amount")
  | _ =>
    raiseIf (r.amountPaidMinor ≠ 0)
      (.paymentLink "created, cancelled, or expired no-partial link cannot have an amount paid")
  match r.shortUrl with
  | none => .ok ()
  | some url => validateShortUrl url

/-- The non-sensitive projection of a Payment Link. -/
structure PaymentLinkRecord extends RecordFields where
  valid : toRecordFields.postInit = .ok ()

namespace PaymentLinkRecord

/-- A field that has to be text. -/
def textField (value : JsonDocument) (key : String) : Except ControlPlaneError String :=
  match value.get? key with
  | some (.str text) => .ok text
  | _ => .error (.paymentLink s!"provider Payment Link {key} is invalid")

/-- A field that has to be an integer. -/
def intField (value : JsonDocument) (key : String) : Except ControlPlaneError Int :=
  match value.get? key with
  | some (.int number) => .ok number
  | _ => .error (.paymentLink s!"provider Payment Link {key} is invalid")

/-- `PaymentLinkRecord.from_provider`. -/
def fromProvider (value : JsonDocument) : Except ControlPlaneError PaymentLinkRecord := do
  raiseIf (¬value matches .object _) (.paymentLink "provider Payment Link must be an object")
  let statusText ← textField value "status"
  let status ← someOr (PaymentLinkStatus.ofValue statusText)
    (.paymentLink "provider Payment Link status is invalid")
  let shortUrl ← match value.get? "short_url" with
    | none => .ok none
    | some .null => .ok none
    | some (.str url) => .ok (some url)
    | some _ => .error (.paymentLink "provider Payment Link short_url is invalid")
  let paymentLinkId ← textField value "id"
  let referenceId ← textField value "reference_id"
  let amountMinor ← intField value "amount"
  let amountPaidMinor ← intField value "amount_paid"
  let currency ← textField value "currency"
  let (acceptPartial, upiLink) ←
    match value.get? "accept_partial", value.get? "upi_link" with
    | some (.bool acceptPartial), some (.bool upiLink) => .ok (acceptPartial, upiLink)
    | _, _ => .error (.paymentLink "provider Payment Link mode is invalid")
  let fields : RecordFields := {
    paymentLinkId := paymentLinkId
    referenceId := referenceId
    amountMinor := amountMinor
    amountPaidMinor := amountPaidMinor
    currency := currency
    acceptPartial := acceptPartial
    upiLink := upiLink
    status := status
    shortUrl := shortUrl }
  match valid : fields.postInit with
  | .error e => .error e
  | .ok () => .ok ⟨fields, valid⟩

/-- `matches_create`. -/
def matchesCreate (record : PaymentLinkRecord) (request : StandardPaymentLinkRequest) : Bool :=
  record.referenceId = request.referenceId && record.amountMinor = request.amountMinor &&
    record.currency = request.currency && !record.acceptPartial && !record.upiLink

/-- `to_reconciliation_candidate`. -/
def toReconciliationCandidate (record : PaymentLinkRecord) : Json :=
  .obj [
    ("id", .str record.paymentLinkId),
    ("reference_id", .str record.referenceId),
    ("amount", .int record.amountMinor),
    ("currency", .str record.currency),
    ("accept_partial", .bool record.acceptPartial),
    ("upi_link", .bool record.upiLink),
    ("status", .str record.status.value)]

end PaymentLinkRecord

/-! ## The adapter -/

/-- What a call of the adapter raises. -/
inductive AdapterError where
  | closed
  | accountMismatch
  /-- A `ValueError` of the clock, or what the request or the outcome raises of itself. -/
  | invalid (error : ControlPlaneError)
  | read (reasonCode : String)
  | decoding
  | escaped (error : LoadsRaise)
deriving DecidableEq, Repr

structure Adapter where
  providerAccountId : String
  closed : Bool := false

/-- `_assert_account`. -/
def Adapter.assertAccount (adapter : Adapter) (providerAccountId : String) :
    Except AdapterError Unit := do
  raiseIf (adapter.closed = true) .closed
  raiseIf (¬isCleanText 128 providerAccountId) .accountMismatch
  raiseIf (providerAccountId ≠ adapter.providerAccountId) .accountMismatch

/-- `_CERTAIN_REJECT_STATUSES`. -/
def certainRejectStatuses : List (Fin 1000) :=
  [400, 401, 402, 403, 404, 405, 406, 410, 413, 415, 422]

/-! ## Creating -/

/-- `ProviderCreateOutcome(..)`. -/
def createOutcome (status : ProviderCreateStatus) (reasonCode : String)
    (paymentLinkId : Option String := none) : Except AdapterError ProviderCreateOutcome :=
  let fields : OutcomeFields := { status, reasonCode, paymentLinkId }
  match valid : fields.postInit with
  | .error e => .error (.invalid e)
  | .ok () => .ok ⟨fields, valid⟩

section

variable [JsonLoads]

/-- What a response to the create names. -/
def classifyCreate (request : StandardPaymentLinkRequest) (response : BufferedResponse) :
    Except AdapterError ProviderCreateOutcome :=
  if response.statusCode = 200 then
    match decodeObject response with
    | .error (.malformed _) => createOutcome .ambiguous "provider_create_response_invalid"
    | .error (.escaped e) => .error (.escaped e)
    | .ok decoded =>
      match PaymentLinkRecord.fromProvider (.object decoded) with
      | .error _ => createOutcome .ambiguous "provider_create_response_invalid"
      | .ok record =>
        if record.matchesCreate request then
          createOutcome .certainSuccess "provider_confirmed_create" (some record.paymentLinkId)
        else createOutcome .ambiguous "provider_create_response_conflicts"
  else
    match isDuplicateReference response with
    | .error e => .error (.escaped e)
    | .ok true => createOutcome .ambiguous "provider_reference_exists_requires_lookup"
    | .ok false =>
      if response.statusCode ∈ certainRejectStatuses then
        createOutcome .certainFailure s!"provider_rejected_create_http_{response.statusCode}"
      else
        createOutcome .ambiguous
          s!"provider_create_http_{response.statusCode}_unknown_outcome"

/-- What becomes of the create, from its request on. -/
def settleExchange (request : StandardPaymentLinkRequest) (exchange : Exchange) :
    Except AdapterError ProviderCreateOutcome :=
  match readExchange exchange with
  | .error (.malformed _) => createOutcome .ambiguous "provider_create_response_invalid"
  | .error (.httpx .poolTimeout) => createOutcome .certainFailure (transportReason .poolTimeout)
  | .error (.httpx .decoding) => .error .decoding
  | .error (.httpx e) => createOutcome .ambiguous (transportReason e)
  | .ok response => classifyCreate request response

/-- `create_standard_payment_link`. -/
def createStandardPaymentLink (adapter : Adapter) (request : StandardPaymentLinkRequest)
    (providerAccountId : String) (now : Timestamp) (exchange : Exchange) :
    Except AdapterError ProviderCreateOutcome := do
  adapter.assertAccount providerAccountId
  raiseIf (epochSeconds now < 0)
    (.invalid (.invalidValue "epoch_clock must return a non-negative integer"))
  (request.validateExpiry now).mapError AdapterError.invalid
  settleExchange request exchange

end

/-! ## Cancelling -/

inductive ProviderCancelStatus where
  | certainSuccess | certainFailure | ambiguous
deriving DecidableEq, Repr

structure CancelFields where
  status : ProviderCancelStatus
  reasonCode : String
  paymentLink : Option PaymentLinkRecord := none

/-- `ProviderCancelOutcome.__post_init__`. -/
def CancelFields.postInit (o : CancelFields) : Except ControlPlaneError Unit := do
  requireText o.reasonCode "reason_code" 128
  if o.status = .certainSuccess then
    match o.paymentLink with
    | none => .error (.invalidValue "certain cancellation success requires a Payment Link")
    | some record =>
      raiseIf (record.status ≠ .cancelled)
        (.invalidValue "certain cancellation success requires cancelled provider state")
  else
    raiseIf (o.paymentLink.isSome = true)
      (.invalidValue "only certain cancellation success may contain a Payment Link")

structure ProviderCancelOutcome extends CancelFields where
  valid : toCancelFields.postInit = .ok ()

/-- `ProviderCancelOutcome(..)`. -/
def cancelOutcome (status : ProviderCancelStatus) (reasonCode : String)
    (paymentLink : Option PaymentLinkRecord := none) :
    Except AdapterError ProviderCancelOutcome :=
  let fields : CancelFields := { status, reasonCode, paymentLink }
  match valid : fields.postInit with
  | .error e => .error (.invalid e)
  | .ok () => .ok ⟨fields, valid⟩

section

variable [JsonLoads]

/-- What a response to the cancel names. -/
def classifyCancel (paymentLinkId : String) (response : BufferedResponse) :
    Except AdapterError ProviderCancelOutcome :=
  if response.statusCode = 200 then
    match decodeObject response with
    | .error (.malformed _) => cancelOutcome .ambiguous "provider_cancel_response_invalid"
    | .error (.escaped e) => .error (.escaped e)
    | .ok decoded =>
      match PaymentLinkRecord.fromProvider (.object decoded) with
      | .error _ => cancelOutcome .ambiguous "provider_cancel_response_invalid"
      | .ok record =>
        if record.paymentLinkId ≠ paymentLinkId ∨ record.status ≠ .cancelled then
          cancelOutcome .ambiguous "provider_cancel_response_conflicts"
        else cancelOutcome .certainSuccess "provider_confirmed_cancel" (some record)
  else
    match isUpdateInProgress response with
    | .error e => .error (.escaped e)
    | .ok true => cancelOutcome .ambiguous "provider_cancel_update_in_progress"
    | .ok false =>
      if response.statusCode ∈ certainRejectStatuses then
        cancelOutcome .certainFailure s!"provider_rejected_cancel_http_{response.statusCode}"
      else
        cancelOutcome .ambiguous
          s!"provider_cancel_http_{response.statusCode}_unknown_outcome"

/-- What becomes of the cancel, from its request on. -/
def settleCancelExchange (paymentLinkId : String) (exchange : Exchange) :
    Except AdapterError ProviderCancelOutcome :=
  match readExchange exchange with
  | .error (.malformed _) => cancelOutcome .ambiguous "provider_cancel_response_invalid"
  | .error (.httpx .poolTimeout) => cancelOutcome .certainFailure (transportReason .poolTimeout)
  | .error (.httpx .decoding) => .error .decoding
  | .error (.httpx e) => cancelOutcome .ambiguous (transportReason e)
  | .ok response => classifyCancel paymentLinkId response

/-- `cancel_payment_link`. -/
def cancelPaymentLink (adapter : Adapter) (paymentLinkId providerAccountId : String)
    (exchange : Exchange) : Except AdapterError ProviderCancelOutcome := do
  adapter.assertAccount providerAccountId
  raiseIf (¬isPaymentLinkId paymentLinkId) (.invalid (.paymentLink "payment_link_id is invalid"))
  settleCancelExchange paymentLinkId exchange

/-! ## Looking up -/

/-- `str.replace("_unknown_outcome", "")`, of the reasons that there are. -/
def readReason : HttpxError → String
  | .connectTimeout => "provider_connect_timeout"
  | .readTimeout => "provider_read_timeout"
  | .writeTimeout => "provider_write_timeout"
  | .poolTimeout => "provider_pool_timeout_before_request"
  | .timeout => "provider_timeout"
  | .transport => "provider_transport"
  | .decoding => "provider_transport"

/-- `_read`. -/
def readResponse (exchange : Exchange) : Except AdapterError BufferedResponse :=
  match readExchange exchange with
  | .error (.malformed _) => .error (.read "provider_read_response_too_large")
  | .error (.httpx .decoding) => .error .decoding
  | .error (.httpx e) => .error (.read (readReason e))
  | .ok response =>
    if response.statusCode ≠ 200 then
      .error (.read s!"provider_read_http_{response.statusCode}")
    else .ok response

/-- `list_payment_links_by_reference`. -/
def listPaymentLinksByReference (adapter : Adapter) (referenceId providerAccountId : String)
    (exchange : Exchange) : Except AdapterError (List PaymentLinkRecord) := do
  adapter.assertAccount providerAccountId
  raiseIf (¬isCleanText 40 referenceId) (.invalid (.paymentLink "reference_id is invalid"))
  let response ← readResponse exchange
  let decoded ← match decodeObject response with
    | .ok decoded => .ok decoded
    | .error (.malformed _) => .error (.read "provider_lookup_response_invalid")
    | .error (.escaped e) => .error (.escaped e)
  match decoded.lookup "payment_links" with
  | some (.array links) =>
    raiseIf (links.length > 100) (.read "provider_lookup_response_invalid")
    let records ← (links.mapM PaymentLinkRecord.fromProvider).mapError fun _ =>
      AdapterError.read "provider_lookup_candidate_invalid"
    raiseIf (∃ record ∈ records, record.referenceId ≠ referenceId)
      (.read "provider_lookup_reference_mismatch")
    return records
  | _ => .error (.read "provider_lookup_response_invalid")

omit [JsonLoads] in
theorem incomplete_empty : false = false → ([] : List Json) = [] := fun _ => rfl

/-- `lookup_payment_links`. -/
def lookupPaymentLinks (adapter : Adapter) (referenceId providerAccountId : String)
    (exchange : Exchange) : Except AdapterError PaymentLinkLookupResult :=
  match listPaymentLinksByReference adapter referenceId providerAccountId exchange with
  | .error (.read _) => .ok ⟨false, [], incomplete_empty⟩
  | .error e => .error e
  | .ok records =>
    .ok ⟨true, records.map PaymentLinkRecord.toReconciliationCandidate, nofun⟩

end

/-! ## Texts of outcomes -/

/-- The digits of a status code. -/
theorem statusText_graphic (code : Fin 1000) :
    (toString code).toList.length ≤ 3 ∧
      ∀ c ∈ (toString code).toList, 33 ≤ c.toNat ∧ c.toNat < 127 := by
  constructor
  · show code.val.repr.toList.length ≤ 3
    rw [String.length_toList]
    have hroom : code.val < 10 ^ 3 := code.isLt
    exact (Nat.length_repr_le_iff (by omega)).mpr hroom
  · intro c hc
    have hdigit : c.isDigit = true := isDigit_of_mem_repr hc
    simp only [Char.isDigit, Bool.and_eq_true, decide_eq_true_eq] at hdigit
    have hlo : 48 ≤ c.toNat := hdigit.1
    have hhi : c.toNat ≤ 57 := hdigit.2
    omega

/-- A status code between two texts that are graphic. -/
theorem isCleanText_status {front back : String} {maximum : Nat} (code : Fin 1000)
    (hfront : front.toList ≠ [] ∧
      front.toList.all (fun c => decide (33 ≤ c.toNat) && decide (c.toNat < 127)) = true)
    (hback : back.toList.all (fun c => decide (33 ≤ c.toNat) && decide (c.toNat < 127)) = true)
    (hroom : front.toList.length + 3 + back.toList.length ≤ maximum) :
    isCleanText maximum (front ++ toString code ++ back) = true := by
  obtain ⟨hlength, hgraphic⟩ := statusText_graphic code
  refine isCleanText_of_graphic ?_ ?_ ?_
  · rw [String.toList_append, String.toList_append]
    exact fun h => hfront.1 (List.append_eq_nil_iff.mp (List.append_eq_nil_iff.mp h).1).1
  · rw [String.toList_append, String.toList_append, List.length_append, List.length_append]
    omega
  · intro c hc
    rw [String.toList_append, String.toList_append] at hc
    rcases List.mem_append.mp hc with hc | hc
    · rcases List.mem_append.mp hc with hc | hc
      · exact graphic_of_all hfront.2 c hc
      · exact hgraphic c hc
    · exact graphic_of_all hback c hc

/-- A status code at the end. -/
theorem isCleanText_statusEnd {front : String} {maximum : Nat} (code : Fin 1000)
    (hfront : front.toList ≠ [] ∧
      front.toList.all (fun c => decide (33 ≤ c.toNat) && decide (c.toNat < 127)) = true)
    (hroom : front.toList.length + 3 ≤ maximum) :
    isCleanText maximum (front ++ toString code) = true := by
  have hclean : isCleanText maximum (front ++ toString code ++ "") = true :=
    isCleanText_status code hfront rfl hroom
  rwa [String.append_empty] at hclean

/-! ## Outcomes are made -/

theorem exists_createOutcome (status : ProviderCreateStatus) {reasonCode : String}
    (paymentLinkId : Option String) (hreason : isCleanText 256 reasonCode = true)
    (hid : status = .certainSuccess ∧
        (∃ id, paymentLinkId = some id ∧ isCleanText 128 id = true) ∨
      status ≠ .certainSuccess ∧ paymentLinkId = none) :
    ∃ outcome, createOutcome status reasonCode paymentLinkId = .ok outcome ∧
      outcome.status = status ∧ outcome.paymentLinkId = paymentLinkId := by
  have hvalid : (OutcomeFields.mk status reasonCode paymentLinkId).postInit = .ok () := by
    unfold OutcomeFields.postInit
    rw [bind_of_ok (show requireText reasonCode "reason_code" 256 = .ok () from
      raiseIf_of_not _ (not_not.mpr hreason))]
    rcases hid with ⟨hstatus, id, hid, hclean⟩ | ⟨hstatus, hid⟩
    · rw [if_pos hstatus, hid]
      exact raiseIf_of_not _ (not_not.mpr hclean)
    · rw [if_neg hstatus, hid]
      exact raiseIf_of_not _ (not_not.mpr rfl)
  unfold createOutcome
  dsimp only
  split
  next e herror => exact nomatch hvalid.symm.trans herror
  next => exact ⟨_, rfl, rfl, rfl⟩

theorem exists_cancelOutcome (status : ProviderCancelStatus) {reasonCode : String}
    (paymentLink : Option PaymentLinkRecord) (hreason : isCleanText 128 reasonCode = true)
    (hlink : status = .certainSuccess ∧
        (∃ record, paymentLink = some record ∧ record.status = .cancelled) ∨
      status ≠ .certainSuccess ∧ paymentLink = none) :
    ∃ outcome, cancelOutcome status reasonCode paymentLink = .ok outcome ∧
      outcome.status = status ∧ outcome.paymentLink = paymentLink := by
  have hvalid : (CancelFields.mk status reasonCode paymentLink).postInit = .ok () := by
    unfold CancelFields.postInit
    rw [bind_of_ok (show requireText reasonCode "reason_code" 128 = .ok () from
      raiseIf_of_not _ (not_not.mpr hreason))]
    rcases hlink with ⟨hstatus, record, hlink, hcancelled⟩ | ⟨hstatus, hlink⟩
    · rw [if_pos hstatus, hlink]
      exact raiseIf_of_not _ (not_not.mpr hcancelled)
    · rw [if_neg hstatus, hlink]
      exact raiseIf_of_not _ (by simp)
  unfold cancelOutcome
  dsimp only
  split
  next e herror => exact nomatch hvalid.symm.trans herror
  next => exact ⟨_, rfl, rfl, rfl⟩

/-- The reasons that hold no status code. -/
def ownReasons : List String :=
  ["provider_confirmed_create", "provider_create_response_invalid",
    "provider_create_response_conflicts", "provider_reference_exists_requires_lookup",
    "provider_confirmed_cancel", "provider_cancel_response_invalid",
    "provider_cancel_response_conflicts", "provider_cancel_update_in_progress",
    "provider_connect_timeout_unknown_outcome", "provider_read_timeout_unknown_outcome",
    "provider_write_timeout_unknown_outcome", "provider_pool_timeout_before_request",
    "provider_timeout_unknown_outcome", "provider_transport_unknown_outcome"]

theorem isCleanText_ownReason {maximum : Nat} {reason : String} (hroom : 128 ≤ maximum)
    (h : reason ∈ ownReasons) : isCleanText maximum reason = true := by
  have hall : ∀ own ∈ ownReasons, isCleanText 128 own = true := by decide +kernel
  exact isCleanText_mono hroom (hall reason h)

theorem transportReason_mem (e : HttpxError) : transportReason e ∈ ownReasons := by
  cases e with
  | connectTimeout => simp [ownReasons, transportReason]
  | readTimeout => simp [ownReasons, transportReason]
  | writeTimeout => simp [ownReasons, transportReason]
  | poolTimeout => simp [ownReasons, transportReason]
  | timeout => simp [ownReasons, transportReason]
  | transport => simp [ownReasons, transportReason]
  | decoding => simp [ownReasons, transportReason]

theorem PaymentLinkRecord.isPaymentLinkId (record : PaymentLinkRecord) :
    ControlPlane.isPaymentLinkId record.paymentLinkId = true := by
  obtain ⟨_, hid, -⟩ := bind_ok_iff.mp record.valid
  exact not_not.mp (raiseIf_ok_iff.mp hid)

/-! ## What an outcome has to say -/

section

variable [JsonLoads] {exchange : Exchange} {response : BufferedResponse}
  {request : StandardPaymentLinkRequest} {paymentLinkId : String}

/-- The description that a response gives of its error names it. -/
def Reports (names : List Char → Bool) (response : BufferedResponse) : Prop :=
  ∃ description, errorDescription response = .ok description ∧ names description = true

/-- A response of status 200 with this link in it. -/
def Shows (exchange : Exchange) (record : PaymentLinkRecord) : Prop :=
  ∃ response decoded, readExchange exchange = .ok response ∧ response.statusCode = 200 ∧
    decodeObject response = .ok decoded ∧
    PaymentLinkRecord.fromProvider (.object decoded) = .ok record

/-- The request was certainly not accepted: it waited for the pool, or was rejected without a
report of what is named. -/
def NotAccepted (names : List Char → Bool) (exchange : Exchange) : Prop :=
  readExchange exchange = .error (.httpx .poolTimeout) ∨
    ∃ response, readExchange exchange = .ok response ∧
      response.statusCode ∈ certainRejectStatuses ∧ ¬Reports names response

/-- A create succeeded exactly where its link is shown, and failed exactly where the request was
not accepted. -/
structure CreateSound (request : StandardPaymentLinkRequest) (exchange : Exchange)
    (outcome : ProviderCreateOutcome) : Prop where
  success : outcome.status = .certainSuccess ↔ ∃ record, Shows exchange record ∧
    record.matchesCreate request = true ∧ outcome.paymentLinkId = some record.paymentLinkId
  failure : outcome.status = .certainFailure ↔ NotAccepted namesReference exchange

/-- A cancel succeeded exactly where the very link is shown, cancelled. -/
structure CancelSound (paymentLinkId : String) (exchange : Exchange)
    (outcome : ProviderCancelOutcome) : Prop where
  success : outcome.status = .certainSuccess ↔ ∃ record, Shows exchange record ∧
    record.paymentLinkId = paymentLinkId ∧ record.status = .cancelled ∧
    outcome.paymentLink = some record
  failure : outcome.status = .certainFailure ↔ NotAccepted namesUpdate exchange

/-- Nothing escapes from the reading of the answer to a create, and no rejection but that of
status 400 reports a reference that exists. -/
def CreateReads (exchange : Exchange) : Prop :=
  readExchange exchange ≠ .error (.httpx .decoding) ∧
    ∀ response, readExchange exchange = .ok response →
      (response.statusCode = 200 ∨ response.statusCode = 400 → ¬Escapes response) ∧
        (response.statusCode ∈ certainRejectStatuses → response.statusCode ≠ 400 →
          ¬Reports namesReference response)

/-- Nothing escapes from the reading of the answer to a cancel. -/
def CancelReads (exchange : Exchange) : Prop :=
  readExchange exchange ≠ .error (.httpx .decoding) ∧
    ∀ response, readExchange exchange = .ok response → ¬Escapes response

theorem shows_iff (hread : readExchange exchange = .ok response) {record : PaymentLinkRecord} :
    Shows exchange record ↔ response.statusCode = 200 ∧ ∃ decoded,
      decodeObject response = .ok decoded ∧
        PaymentLinkRecord.fromProvider (.object decoded) = .ok record := by
  constructor
  · rintro ⟨other, decoded, hother, hstatus, hdecoded, hrecord⟩
    obtain rfl := Except.ok.inj (hread.symm.trans hother)
    exact ⟨hstatus, decoded, hdecoded, hrecord⟩
  · rintro ⟨hstatus, decoded, hdecoded, hrecord⟩
    exact ⟨response, decoded, hread, hstatus, hdecoded, hrecord⟩

theorem notAccepted_iff (hread : readExchange exchange = .ok response)
    {names : List Char → Bool} :
    NotAccepted names exchange ↔
      response.statusCode ∈ certainRejectStatuses ∧ ¬Reports names response := by
  constructor
  · rintro (hpool | ⟨other, hother, hrejected⟩)
    · exact nomatch hread.symm.trans hpool
    · obtain rfl := Except.ok.inj (hread.symm.trans hother)
      exact hrejected
  · exact fun h => Or.inr ⟨response, hread, h⟩

/-- Without a response no link is shown. -/
theorem not_shows_of_error {e : RequestRaise} (hread : readExchange exchange = .error e)
    (record : PaymentLinkRecord) : ¬Shows exchange record := by
  rintro ⟨response, -, hok, -⟩
  exact nomatch hread.symm.trans hok

theorem not_notAccepted_of_error {e : RequestRaise} {names : List Char → Bool}
    (hread : readExchange exchange = .error e) (hpool : e ≠ .httpx .poolTimeout) :
    ¬NotAccepted names exchange := by
  rintro (h | ⟨response, hok, -⟩)
  · exact hpool (Except.error.inj (hread.symm.trans h))
  · exact nomatch hread.symm.trans hok

/-- Which link a response of status 200 shows. -/
theorem shows_decoded_iff {decoded : List (String × JsonDocument)}
    (hread : readExchange exchange = .ok response) (hstatus : response.statusCode = 200)
    (hdecoded : decodeObject response = .ok decoded) (record : PaymentLinkRecord) :
    Shows exchange record ↔ PaymentLinkRecord.fromProvider (.object decoded) = .ok record := by
  rw [shows_iff hread]
  constructor
  · rintro ⟨-, other, hother, hrecord⟩
    obtain rfl := Except.ok.inj (hdecoded.symm.trans hother)
    exact hrecord
  · exact fun hrecord => ⟨hstatus, decoded, hdecoded, hrecord⟩

theorem reports_iff (names : List Char → Bool) {description : List Char}
    (h : errorDescription response = .ok description) :
    Reports names response ↔ names description = true := by
  unfold Reports
  rw [h]
  exact ⟨fun ⟨_, hread, hnames⟩ => Except.ok.inj hread ▸ hnames, fun h => ⟨_, rfl, h⟩⟩

/-! ## The three outcomes of a create -/

theorem exists_ambiguousCreate {reasonCode : String} (hreason : isCleanText 256 reasonCode = true)
    (hnone : ∀ record, Shows exchange record → ¬record.matchesCreate request = true)
    (haccepted : ¬NotAccepted namesReference exchange) :
    ∃ outcome, createOutcome .ambiguous reasonCode = .ok outcome ∧
      CreateSound request exchange outcome := by
  obtain ⟨outcome, hmade, hstatus, -⟩ := exists_createOutcome .ambiguous none hreason
    (Or.inr ⟨by simp, rfl⟩)
  refine ⟨outcome, hmade, ?_, ?_⟩
  · rw [hstatus]
    exact ⟨nofun, fun ⟨record, hshows, hmatches, _⟩ => absurd hmatches (hnone record hshows)⟩
  · rw [hstatus]
    exact ⟨nofun, fun h => absurd h haccepted⟩

theorem exists_failedCreate {reasonCode : String} (hreason : isCleanText 256 reasonCode = true)
    (hnone : ∀ record, ¬Shows exchange record)
    (hrejected : NotAccepted namesReference exchange) :
    ∃ outcome, createOutcome .certainFailure reasonCode = .ok outcome ∧
      CreateSound request exchange outcome := by
  obtain ⟨outcome, hmade, hstatus, -⟩ := exists_createOutcome .certainFailure none hreason
    (Or.inr ⟨by simp, rfl⟩)
  refine ⟨outcome, hmade, ?_, ?_⟩
  · rw [hstatus]
    exact ⟨nofun, fun ⟨record, hshows, _⟩ => absurd hshows (hnone record)⟩
  · rw [hstatus]
    exact ⟨fun _ => hrejected, fun _ => rfl⟩

theorem exists_succeededCreate {record : PaymentLinkRecord} (hshows : Shows exchange record)
    (hmatches : record.matchesCreate request = true)
    (haccepted : ¬NotAccepted namesReference exchange) :
    ∃ outcome, createOutcome .certainSuccess "provider_confirmed_create"
        (some record.paymentLinkId) = .ok outcome ∧ CreateSound request exchange outcome := by
  have hid := isCleanText_paymentLinkId (show 126 ≤ 128 by omega) record.isPaymentLinkId
  have hreason : isCleanText 256 "provider_confirmed_create" = true :=
    isCleanText_ownReason (by omega) (by simp [ownReasons])
  obtain ⟨outcome, hmade, hstatus, hlink⟩ := exists_createOutcome .certainSuccess
    (some record.paymentLinkId) hreason (Or.inl ⟨rfl, _, rfl, hid⟩)
  refine ⟨outcome, hmade, ?_, ?_⟩
  · exact ⟨fun _ => ⟨record, hshows, hmatches, hlink⟩, fun _ => hstatus⟩
  · rw [hstatus]
    exact ⟨nofun, fun h => absurd h haccepted⟩

omit [JsonLoads] in
theorem not_mem_rejected_of_ok {code : Fin 1000} (h : code = 200) :
    code ∉ certainRejectStatuses := by
  subst h
  decide

/-- What a response of status 200 makes of a create. -/
theorem create_of_ok (hread : readExchange exchange = .ok response)
    (hstatus : response.statusCode = 200) :
    (∃ outcome, classifyCreate request response = .ok outcome ∧
      CreateSound request exchange outcome) ↔ ¬Escapes response := by
  have haccepted : ¬NotAccepted namesReference exchange := by
    rw [notAccepted_iff hread]
    exact fun h => not_mem_rejected_of_ok hstatus h.1
  rw [← decodeObject_escapes_iff]
  unfold classifyCreate
  rw [if_pos hstatus]
  cases hdecoded : decodeObject response with
  | error raised =>
    cases raised with
    | escaped e => exact ⟨fun ⟨_, h, _⟩ => (nomatch h), fun h => absurd ⟨e, rfl⟩ h⟩
    | malformed reason =>
      refine ⟨fun _ ⟨_, h⟩ => (nomatch h), fun _ => ?_⟩
      refine exists_ambiguousCreate (isCleanText_ownReason (by omega) (by simp [ownReasons]))
        (fun record hshows => ?_) haccepted
      obtain ⟨-, decoded, hok, -⟩ := (shows_iff hread).mp hshows
      exact nomatch hdecoded.symm.trans hok
  | ok decoded =>
    refine ⟨fun _ ⟨_, h⟩ => (nomatch h), fun _ => ?_⟩
    have hshown := shows_decoded_iff hread hstatus hdecoded
    dsimp only
    cases hrecord : PaymentLinkRecord.fromProvider (.object decoded) with
    | error e =>
      refine exists_ambiguousCreate (isCleanText_ownReason (by omega) (by simp [ownReasons]))
        (fun record hshows => ?_) haccepted
      exact nomatch hrecord.symm.trans ((hshown record).mp hshows)
    | ok record =>
      dsimp only
      by_cases hmatches : record.matchesCreate request = true
      · rw [if_pos hmatches]
        exact exists_succeededCreate ((hshown record).mpr hrecord) hmatches haccepted
      · rw [if_neg hmatches]
        refine exists_ambiguousCreate (isCleanText_ownReason (by omega) (by simp [ownReasons]))
          (fun other hother => ?_) haccepted
        obtain rfl := Except.ok.inj (hrecord.symm.trans ((hshown other).mp hother))
        exact hmatches

omit [JsonLoads] in
theorem rejectedText_clean (code : Fin 1000) :
    isCleanText 256 s!"provider_rejected_create_http_{code}" = true :=
  isCleanText_statusEnd code (by decide) (by decide)

omit [JsonLoads] in
theorem unknownText_clean (code : Fin 1000) :
    isCleanText 256 s!"provider_create_http_{code}_unknown_outcome" = true :=
  isCleanText_status code (by decide) (by decide) (by decide)

/-- What any other response makes of a create. -/
theorem create_of_other (hread : readExchange exchange = .ok response)
    (hstatus : response.statusCode ≠ 200) :
    (∃ outcome, classifyCreate request response = .ok outcome ∧
      CreateSound request exchange outcome) ↔
      (response.statusCode = 400 → ¬Escapes response) ∧
        (response.statusCode ∈ certainRejectStatuses → response.statusCode ≠ 400 →
          ¬Reports namesReference response) := by
  have hnone : ∀ record, ¬Shows exchange record := fun record hshows =>
    hstatus ((shows_iff hread).mp hshows).1
  unfold classifyCreate isDuplicateReference
  rw [if_neg hstatus]
  by_cases hbad : response.statusCode = 400
  · rw [if_neg (not_not.mpr hbad)]
    rcases errorDescription_cases response with
      ⟨hescapes, e, hraised⟩ | ⟨hreads, description, hdescription⟩
    · rw [hraised]
      exact ⟨fun ⟨_, h, _⟩ => (nomatch h), fun h => absurd hescapes (h.1 hbad)⟩
    · have hreports := reports_iff namesReference hdescription
      refine ⟨fun _ => ⟨fun _ => hreads, fun _ hne => absurd hbad hne⟩, fun _ => ?_⟩
      rw [hdescription]
      dsimp only [Except.map]
      cases hnames : namesReference description with
      | true =>
        refine exists_ambiguousCreate (isCleanText_ownReason (by omega) (by simp [ownReasons]))
          (fun record hshows => absurd hshows (hnone record)) ?_
        rw [notAccepted_iff hread]
        exact fun h => h.2 (hreports.mpr hnames)
      | false =>
        have hrejected : response.statusCode ∈ certainRejectStatuses := by
          rw [hbad]
          decide
        dsimp only
        rw [if_pos hrejected]
        refine exists_failedCreate (rejectedText_clean _) hnone
          ((notAccepted_iff hread).mpr ⟨hrejected, fun h => ?_⟩)
        rw [hreports, hnames] at h
        exact nomatch h
  · rw [if_pos hbad]
    dsimp only
    by_cases hrejected : response.statusCode ∈ certainRejectStatuses
    · rw [if_pos hrejected]
      constructor
      · rintro ⟨outcome, hmade, hsound⟩
        obtain ⟨other, hother, hfailed, -⟩ := exists_createOutcome .certainFailure none
          (rejectedText_clean response.statusCode) (Or.inr ⟨by simp, rfl⟩)
        obtain rfl := Except.ok.inj (hmade.symm.trans hother)
        refine ⟨fun h => absurd h hbad, fun _ _ => ?_⟩
        exact ((notAccepted_iff hread).mp (hsound.failure.mp hfailed)).2
      · rintro ⟨-, hsilent⟩
        exact exists_failedCreate (rejectedText_clean _) hnone
          ((notAccepted_iff hread).mpr ⟨hrejected, hsilent hrejected hbad⟩)
    · rw [if_neg hrejected]
      refine ⟨fun _ => ⟨fun h => absurd h hbad, fun h => absurd h hrejected⟩, fun _ => ?_⟩
      refine exists_ambiguousCreate (unknownText_clean _)
        (fun record hshows => absurd hshows (hnone record)) ?_
      rw [notAccepted_iff hread]
      exact fun h => hrejected h.1

/-- **A create ends in a sound outcome exactly when its answer can be read.** -/
theorem create_outcome_iff (request : StandardPaymentLinkRequest) (exchange : Exchange) :
    (∃ outcome, settleExchange request exchange = .ok outcome ∧
      CreateSound request exchange outcome) ↔ CreateReads exchange := by
  unfold settleExchange CreateReads
  cases hread : readExchange exchange with
  | ok response =>
    have hreads : (∀ other, (Except.ok response : Except RequestRaise _) = .ok other →
        (other.statusCode = 200 ∨ other.statusCode = 400 → ¬Escapes other) ∧
          (other.statusCode ∈ certainRejectStatuses → other.statusCode ≠ 400 →
            ¬Reports namesReference other)) ↔
        (response.statusCode = 200 ∨ response.statusCode = 400 → ¬Escapes response) ∧
          (response.statusCode ∈ certainRejectStatuses → response.statusCode ≠ 400 →
            ¬Reports namesReference response) :=
      ⟨fun h => h response rfl, fun h other hother => Except.ok.inj hother ▸ h⟩
    rw [hreads]
    dsimp only
    by_cases hstatus : response.statusCode = 200
    · rw [create_of_ok hread hstatus]
      refine ⟨fun h => ⟨nofun, fun _ => h, fun hrejected => ?_⟩, fun h => h.2.1 (Or.inl hstatus)⟩
      exact absurd hrejected (not_mem_rejected_of_ok hstatus)
    · rw [create_of_other hread hstatus]
      refine ⟨fun h => ⟨nofun, fun hcode => h.1 (hcode.resolve_left hstatus), h.2⟩, fun h => ?_⟩
      exact ⟨fun hbad => h.2.1 (Or.inr hbad), h.2.2⟩
  | error raised =>
    have hnone := not_shows_of_error hread
    have hambiguous : ∀ reasonCode, isCleanText 256 reasonCode = true →
        raised ≠ .httpx .poolTimeout → ∃ outcome,
          createOutcome .ambiguous reasonCode = .ok outcome ∧
            CreateSound request exchange outcome := fun reasonCode hreason hpool =>
      exists_ambiguousCreate hreason (fun record hshows => absurd hshows (hnone record))
        (not_notAccepted_of_error hread hpool)
    have hreason : ∀ e, isCleanText 256 (transportReason e) = true := fun e =>
      isCleanText_ownReason (by omega) (transportReason_mem e)
    cases raised with
    | malformed reason =>
      exact ⟨fun _ => ⟨by simp, nofun⟩, fun _ =>
        hambiguous _ (isCleanText_ownReason (by omega) (by simp [ownReasons])) (by simp)⟩
    | httpx e =>
      cases e with
      | decoding => exact ⟨fun ⟨_, h, _⟩ => (nomatch h), fun h => absurd rfl h.1⟩
      | poolTimeout =>
        exact ⟨fun _ => ⟨by simp, nofun⟩,
          fun _ => exists_failedCreate (hreason _) hnone (Or.inl hread)⟩
      | connectTimeout =>
        exact ⟨fun _ => ⟨by simp, nofun⟩, fun _ => hambiguous _ (hreason _) (by simp)⟩
      | readTimeout =>
        exact ⟨fun _ => ⟨by simp, nofun⟩, fun _ => hambiguous _ (hreason _) (by simp)⟩
      | writeTimeout =>
        exact ⟨fun _ => ⟨by simp, nofun⟩, fun _ => hambiguous _ (hreason _) (by simp)⟩
      | timeout => exact ⟨fun _ => ⟨by simp, nofun⟩, fun _ => hambiguous _ (hreason _) (by simp)⟩
      | transport =>
        exact ⟨fun _ => ⟨by simp, nofun⟩, fun _ => hambiguous _ (hreason _) (by simp)⟩

/-! ## The three outcomes of a cancel -/

theorem exists_ambiguousCancel {reasonCode : String} (hreason : isCleanText 128 reasonCode = true)
    (hnone : ∀ record, Shows exchange record →
      ¬(record.paymentLinkId = paymentLinkId ∧ record.status = .cancelled))
    (haccepted : ¬NotAccepted namesUpdate exchange) :
    ∃ outcome, cancelOutcome .ambiguous reasonCode = .ok outcome ∧
      CancelSound paymentLinkId exchange outcome := by
  obtain ⟨outcome, hmade, hstatus, -⟩ := exists_cancelOutcome .ambiguous none hreason
    (Or.inr ⟨by simp, rfl⟩)
  refine ⟨outcome, hmade, ?_, ?_⟩
  · rw [hstatus]
    exact ⟨nofun, fun ⟨record, hshows, hid, hcancelled, _⟩ =>
      absurd ⟨hid, hcancelled⟩ (hnone record hshows)⟩
  · rw [hstatus]
    exact ⟨nofun, fun h => absurd h haccepted⟩

theorem exists_failedCancel {reasonCode : String} (hreason : isCleanText 128 reasonCode = true)
    (hnone : ∀ record, ¬Shows exchange record) (hrejected : NotAccepted namesUpdate exchange) :
    ∃ outcome, cancelOutcome .certainFailure reasonCode = .ok outcome ∧
      CancelSound paymentLinkId exchange outcome := by
  obtain ⟨outcome, hmade, hstatus, -⟩ := exists_cancelOutcome .certainFailure none hreason
    (Or.inr ⟨by simp, rfl⟩)
  refine ⟨outcome, hmade, ?_, ?_⟩
  · rw [hstatus]
    exact ⟨nofun, fun ⟨record, hshows, _⟩ => absurd hshows (hnone record)⟩
  · rw [hstatus]
    exact ⟨fun _ => hrejected, fun _ => rfl⟩

theorem exists_succeededCancel {record : PaymentLinkRecord} (hshows : Shows exchange record)
    (hid : record.paymentLinkId = paymentLinkId) (hcancelled : record.status = .cancelled)
    (haccepted : ¬NotAccepted namesUpdate exchange) :
    ∃ outcome, cancelOutcome .certainSuccess "provider_confirmed_cancel" (some record) =
      .ok outcome ∧ CancelSound paymentLinkId exchange outcome := by
  have hreason : isCleanText 128 "provider_confirmed_cancel" = true :=
    isCleanText_ownReason (by omega) (by simp [ownReasons])
  obtain ⟨outcome, hmade, hstatus, hlink⟩ := exists_cancelOutcome .certainSuccess (some record)
    hreason (Or.inl ⟨rfl, record, rfl, hcancelled⟩)
  refine ⟨outcome, hmade, ?_, ?_⟩
  · exact ⟨fun _ => ⟨record, hshows, hid, hcancelled, hlink⟩, fun _ => hstatus⟩
  · rw [hstatus]
    exact ⟨nofun, fun h => absurd h haccepted⟩

omit [JsonLoads] in
theorem rejectedCancelText_clean (code : Fin 1000) :
    isCleanText 128 s!"provider_rejected_cancel_http_{code}" = true :=
  isCleanText_statusEnd code (by decide) (by decide)

omit [JsonLoads] in
theorem unknownCancelText_clean (code : Fin 1000) :
    isCleanText 128 s!"provider_cancel_http_{code}_unknown_outcome" = true :=
  isCleanText_status code (by decide) (by decide) (by decide)

/-- What a response makes of a cancel. -/
theorem cancel_of_response (hread : readExchange exchange = .ok response) :
    (∃ outcome, classifyCancel paymentLinkId response = .ok outcome ∧
      CancelSound paymentLinkId exchange outcome) ↔ ¬Escapes response := by
  unfold classifyCancel isUpdateInProgress
  by_cases hstatus : response.statusCode = 200
  · have haccepted : ¬NotAccepted namesUpdate exchange := by
      rw [notAccepted_iff hread]
      exact fun h => not_mem_rejected_of_ok hstatus h.1
    rw [if_pos hstatus, ← decodeObject_escapes_iff]
    cases hdecoded : decodeObject response with
    | error raised =>
      cases raised with
      | escaped e => exact ⟨fun ⟨_, h, _⟩ => (nomatch h), fun h => absurd ⟨e, rfl⟩ h⟩
      | malformed reason =>
        refine ⟨fun _ ⟨_, h⟩ => (nomatch h), fun _ => ?_⟩
        refine exists_ambiguousCancel (isCleanText_ownReason (by omega) (by simp [ownReasons]))
          (fun record hshows => ?_) haccepted
        obtain ⟨-, decoded, hok, -⟩ := (shows_iff hread).mp hshows
        exact nomatch hdecoded.symm.trans hok
    | ok decoded =>
      refine ⟨fun _ ⟨_, h⟩ => (nomatch h), fun _ => ?_⟩
      have hshown := shows_decoded_iff hread hstatus hdecoded
      dsimp only
      cases hrecord : PaymentLinkRecord.fromProvider (.object decoded) with
      | error e =>
        refine exists_ambiguousCancel (isCleanText_ownReason (by omega) (by simp [ownReasons]))
          (fun record hshows => ?_) haccepted
        exact nomatch hrecord.symm.trans ((hshown record).mp hshows)
      | ok record =>
        dsimp only
        by_cases hother : record.paymentLinkId ≠ paymentLinkId ∨ record.status ≠ .cancelled
        · rw [if_pos hother]
          refine exists_ambiguousCancel (isCleanText_ownReason (by omega) (by simp [ownReasons]))
            (fun shown hshows => ?_) haccepted
          obtain rfl := Except.ok.inj (hrecord.symm.trans ((hshown shown).mp hshows))
          exact fun ⟨hid, hcancelled⟩ => hother.elim (absurd hid) (absurd hcancelled)
        · rw [if_neg hother]
          obtain ⟨hid, hcancelled⟩ := not_or.mp hother
          exact exists_succeededCancel ((hshown record).mpr hrecord) (not_not.mp hid)
            (not_not.mp hcancelled) haccepted
  · have hnone : ∀ record, ¬Shows exchange record := fun record hshows =>
      hstatus ((shows_iff hread).mp hshows).1
    rw [if_neg hstatus]
    rcases errorDescription_cases response with
      ⟨hescapes, e, hraised⟩ | ⟨hreads, description, hdescription⟩
    · rw [hraised]
      exact ⟨fun ⟨_, h, _⟩ => (nomatch h), fun h => absurd hescapes h⟩
    · have hreports := reports_iff namesUpdate hdescription
      refine ⟨fun _ => hreads, fun _ => ?_⟩
      rw [hdescription]
      dsimp only [Except.map]
      cases hnames : namesUpdate description with
      | true =>
        refine exists_ambiguousCancel (isCleanText_ownReason (by omega) (by simp [ownReasons]))
          (fun record hshows => absurd hshows (hnone record)) ?_
        rw [notAccepted_iff hread]
        exact fun h => h.2 (hreports.mpr hnames)
      | false =>
        dsimp only
        by_cases hrejected : response.statusCode ∈ certainRejectStatuses
        · rw [if_pos hrejected]
          refine exists_failedCancel (rejectedCancelText_clean _) hnone
            ((notAccepted_iff hread).mpr ⟨hrejected, fun h => ?_⟩)
          rw [hreports, hnames] at h
          exact nomatch h
        · rw [if_neg hrejected]
          refine exists_ambiguousCancel (unknownCancelText_clean _)
            (fun record hshows => absurd hshows (hnone record)) ?_
          rw [notAccepted_iff hread]
          exact fun h => hrejected h.1

/-- **A cancel ends in a sound outcome exactly when its answer can be read.** -/
theorem cancel_outcome_iff (paymentLinkId : String) (exchange : Exchange) :
    (∃ outcome, settleCancelExchange paymentLinkId exchange = .ok outcome ∧
      CancelSound paymentLinkId exchange outcome) ↔ CancelReads exchange := by
  unfold settleCancelExchange CancelReads
  cases hread : readExchange exchange with
  | ok response =>
    have hreads : (∀ other, (Except.ok response : Except RequestRaise _) = .ok other →
        ¬Escapes other) ↔ ¬Escapes response :=
      ⟨fun h => h response rfl, fun h other hother => Except.ok.inj hother ▸ h⟩
    rw [hreads]
    dsimp only
    rw [cancel_of_response hread]
    exact ⟨fun h => ⟨nofun, h⟩, fun h => h.2⟩
  | error raised =>
    have hnone := not_shows_of_error hread
    have hambiguous : ∀ reasonCode, isCleanText 128 reasonCode = true →
        raised ≠ .httpx .poolTimeout → ∃ outcome,
          cancelOutcome .ambiguous reasonCode = .ok outcome ∧
            CancelSound paymentLinkId exchange outcome := fun reasonCode hreason hpool =>
      exists_ambiguousCancel hreason (fun record hshows => absurd hshows (hnone record))
        (not_notAccepted_of_error hread hpool)
    have hreason : ∀ e, isCleanText 128 (transportReason e) = true := fun e =>
      isCleanText_ownReason (by omega) (transportReason_mem e)
    cases raised with
    | malformed reason =>
      exact ⟨fun _ => ⟨by simp, nofun⟩, fun _ =>
        hambiguous _ (isCleanText_ownReason (by omega) (by simp [ownReasons])) (by simp)⟩
    | httpx e =>
      cases e with
      | decoding => exact ⟨fun ⟨_, h, _⟩ => (nomatch h), fun h => absurd rfl h.1⟩
      | poolTimeout =>
        exact ⟨fun _ => ⟨by simp, nofun⟩,
          fun _ => exists_failedCancel (hreason _) hnone (Or.inl hread)⟩
      | connectTimeout =>
        exact ⟨fun _ => ⟨by simp, nofun⟩, fun _ => hambiguous _ (hreason _) (by simp)⟩
      | readTimeout =>
        exact ⟨fun _ => ⟨by simp, nofun⟩, fun _ => hambiguous _ (hreason _) (by simp)⟩
      | writeTimeout =>
        exact ⟨fun _ => ⟨by simp, nofun⟩, fun _ => hambiguous _ (hreason _) (by simp)⟩
      | timeout => exact ⟨fun _ => ⟨by simp, nofun⟩, fun _ => hambiguous _ (hreason _) (by simp)⟩
      | transport =>
        exact ⟨fun _ => ⟨by simp, nofun⟩, fun _ => hambiguous _ (hreason _) (by simp)⟩

/-! ## A completed lookup -/

/-- A well-formed list in a response of status 200: its links are whole, each of this reference,
and they are the candidates. -/
def Lists (referenceId : String) (exchange : Exchange) (candidates : List Json) : Prop :=
  ∃ response decoded links records, readExchange exchange = .ok response ∧
    response.statusCode = 200 ∧ decodeObject response = .ok decoded ∧
    decoded.lookup "payment_links" = some (.array links) ∧
    links.mapM PaymentLinkRecord.fromProvider = .ok records ∧
    (∀ record ∈ records, record.referenceId = referenceId) ∧
    candidates = records.map PaymentLinkRecord.toReconciliationCandidate

omit [JsonLoads] in
theorem referenceId_candidate (record : PaymentLinkRecord) :
    record.toReconciliationCandidate.get? "reference_id" = some (.str record.referenceId) := rfl

/-- What is listed carries the reference. -/
theorem Lists.carries {referenceId : String} {candidates : List Json}
    (h : Lists referenceId exchange candidates) :
    ∀ candidate ∈ candidates, candidate.get? "reference_id" = some (.str referenceId) := by
  obtain ⟨response, decoded, links, records, -, -, -, -, -, hsame, rfl⟩ := h
  intro candidate hcandidate
  obtain ⟨record, hrecord, rfl⟩ := List.mem_map.mp hcandidate
  rw [referenceId_candidate, hsame record hrecord]

omit [JsonLoads] in
theorem readResponse_ok (h : readResponse exchange = .ok response) :
    readExchange exchange = .ok response ∧ response.statusCode = 200 := by
  unfold readResponse at h
  split at h
  · exact nomatch h
  · exact nomatch h
  · exact nomatch h
  next read hread =>
    split at h
    · exact nomatch h
    next hstatus =>
      obtain rfl := Except.ok.inj h
      exact ⟨hread, not_not.mp hstatus⟩

theorem listPaymentLinks_ok {adapter : Adapter} {referenceId providerAccountId : String}
    {records : List PaymentLinkRecord}
    (h : listPaymentLinksByReference adapter referenceId providerAccountId exchange =
      .ok records) :
    Lists referenceId exchange (records.map PaymentLinkRecord.toReconciliationCandidate) := by
  unfold listPaymentLinksByReference at h
  obtain ⟨_, -, h⟩ := bind_ok_iff.mp h
  obtain ⟨_, -, h⟩ := bind_ok_iff.mp h
  obtain ⟨response, hresponse, h⟩ := bind_ok_iff.mp h
  obtain ⟨hread, hstatus⟩ := readResponse_ok hresponse
  cases hobject : decodeObject response with
  | error raised =>
    rw [hobject] at h
    cases raised with
    | malformed reason => exact nomatch h
    | escaped e => exact nomatch h
  | ok decoded =>
    rw [hobject] at h
    obtain ⟨_, hdecoded, h⟩ := bind_ok_iff.mp h
    obtain rfl := Except.ok.inj hdecoded
    dsimp only at h
    split at h
    next links hlinks =>
      obtain ⟨_, -, h⟩ := bind_ok_iff.mp h
      obtain ⟨read, hmapped, h⟩ := bind_ok_iff.mp h
      obtain ⟨_, hsame, h⟩ := bind_ok_iff.mp h
      obtain rfl := Except.ok.inj h
      refine ⟨response, _, links, read, hread, hstatus, hobject, hlinks, ?_, ?_, rfl⟩
      · exact mapError_ok_iff.mp hmapped
      · intro record hrecord
        by_contra hother
        exact raiseIf_ok_iff.mp hsame ⟨record, hrecord, hother⟩
    · exact nomatch h

/-- **A completed lookup read a whole list, all of it of the reference.** -/
theorem lookup_completed {adapter : Adapter} {referenceId providerAccountId : String}
    {result : PaymentLinkLookupResult}
    (h : lookupPaymentLinks adapter referenceId providerAccountId exchange = .ok result)
    (hcompleted : result.completed = true) : Lists referenceId exchange result.candidates := by
  unfold lookupPaymentLinks at h
  split at h
  · obtain rfl := Except.ok.inj h
    exact nomatch hcompleted
  · exact nomatch h
  next records hrecords =>
    obtain rfl := Except.ok.inj h
    exact listPaymentLinks_ok hrecords

end

end Retrywise.ControlPlane.Razorpay
