import Mathlib.Data.List.Infix
import Retrywise.ControlPlane.CommandPayload
import Retrywise.ControlPlane.ProbabilityRead
import Retrywise.Foundation.JsonDocument

/-!
# The provider's answers: one HTTP exchange

`razorpay_test_adapter.py` from the request that went out to the decoded object: the bounded copy
of a response, its decoding, and the description of an error. What the HTTP client raises, and
what `json.loads` makes of bytes, come from outside.

> `decodeObject_escapes_iff`: the decoding raises what nobody catches exactly when `json.loads`
> does, of a body that it is given.
-/

namespace Retrywise.ControlPlane.Razorpay

open Retrywise.Foundation Retrywise.Domain

/-! ## What comes from outside -/

/-- The exceptions of the HTTP client: the kinds of `TransportError`, and its sibling. -/
inductive HttpxError where
  | connectTimeout | readTimeout | writeTimeout | poolTimeout | timeout
  /-- Any other `TransportError`. -/
  | transport
  | decoding
deriving DecidableEq, Repr

instance neZero_statuses : NeZero 1000 := ⟨by decide⟩

/-- A response as it comes in. Its connection was there before the request was sent, so nothing
waits for the pool any more. -/
structure HttpResponse where
  statusCode : Fin 1000
  contentLength : Option String
  contentType : Option String
  chunks : List ByteArray
  /-- What is raised behind the chunks, if anything is. -/
  ending : Option HttpxError
  sent : ending ≠ some .poolTimeout

/-- What becomes of a request. -/
abbrev Exchange := Except HttpxError HttpResponse

/-- `json.loads`, of bytes. What is no JSON text in one of its encodings is a decode error. -/
class JsonLoads where
  loads : ByteArray → Except LoadsRaise JsonDocument

/-! ## The bounded copy -/

/-- `_MAX_RESPONSE_BYTES`. -/
def maxResponseBytes : Nat := 256 * 1024

/-- What `_request` raises: a `_MalformedProviderResponse`, or what the client did. -/
inductive RequestRaise where
  | malformed (reason : String)
  | httpx (error : HttpxError)
deriving DecidableEq, Repr

structure BufferedResponse where
  statusCode : Fin 1000
  contentType : Option String
  content : ByteArray

/-- Digits with single underscores between them. -/
def groupedDigits : List Char → Option (List Char)
  | [] => none
  | [c] => if c.isDigit then some [c] else none
  | c :: '_' :: rest => if c.isDigit then (groupedDigits rest).map (c :: ·) else none
  | c :: rest => if c.isDigit then (groupedDigits rest).map (c :: ·) else none

/-- `int(text)`, where it raises no `ValueError`. -/
def intOfText (text : String) : Option Int :=
  let (negative, unsigned) := signed ((strip text.toList).map asciiDigit)
  (groupedDigits unsigned).bind fun digits =>
    if digits.length > 4300 then none
    else
      let magnitude : Int := Nat.ofDigitChars 10 digits 0
      some (if negative then -magnitude else magnitude)

/-- The check of the declared length. -/
def checkLength (declared : Option String) : Except RequestRaise Unit :=
  match declared with
  | none => .ok ()
  | some text => do
    let length ← someOr (intOfText text) (.malformed "response_content_length_invalid")
    raiseIf (length < 0 ∨ length > maxResponseBytes) (.malformed "response_too_large")

/-- The chunks one behind another, and what comes behind them. -/
def readChunks (content : ByteArray) (ending : Option HttpxError) :
    List ByteArray → Except RequestRaise ByteArray
  | [] =>
    match ending with
    | none => .ok content
    | some e => .error (.httpx e)
  | chunk :: chunks => do
    raiseIf ((content ++ chunk).size > maxResponseBytes) (.malformed "response_too_large")
    readChunks (content ++ chunk) ending chunks

/-- `_request`. -/
def readExchange (exchange : Exchange) : Except RequestRaise BufferedResponse := do
  let response ← exchange.mapError RequestRaise.httpx
  checkLength response.contentLength
  let content ← readChunks ByteArray.empty response.ending response.chunks
  return ⟨response.statusCode, response.contentType, content⟩

/-! ## The decoded object -/

/-- What the decoding raises: a `_MalformedProviderResponse`, or what `json.loads` did. -/
inductive BodyRaise where
  | malformed (reason : String)
  | escaped (error : LoadsRaise)
deriving DecidableEq, Repr

/-- `application/json`, or a type that ends in `+json`. -/
def isJsonType (contentType : Option String) : Bool :=
  let kind := strip ((((contentType.getD "").toList.map Char.toLower).takeWhile (· ≠ ';')))
  kind = "application/json".toList || decide ("+json".toList <:+ kind)

section

variable [JsonLoads]

/-- `_decode_object`. -/
def decodeObject (response : BufferedResponse) :
    Except BodyRaise (List (String × JsonDocument)) := do
  raiseIf (response.content.size > maxResponseBytes) (.malformed "response_too_large")
  raiseIf (¬isJsonType response.contentType) (.malformed "response_content_type_invalid")
  match JsonLoads.loads response.content with
  | .ok (.object members) => .ok members
  | .ok _ => .error (.malformed "response_shape_invalid")
  | .error .decodeError => .error (.malformed "response_json_invalid")
  | .error e => .error (.escaped e)

/-- The description in a decoded error, folded. -/
def describedIn (decoded : List (String × JsonDocument)) : List Char :=
  match (decoded.lookup "error").bind fun error => error.get? "description" with
  | some (.str description) => casefold description
  | _ => []

/-- `_error_description`. -/
def errorDescription (response : BufferedResponse) : Except LoadsRaise (List Char) :=
  match decodeObject response with
  | .ok decoded => .ok (describedIn decoded)
  | .error (.malformed _) => .ok []
  | .error (.escaped e) => .error e

/-- `part in text`. -/
def isIn (part : String) (text : List Char) : Bool := decide (part.toList <:+: text)

/-- A description of a reference that exists. -/
def namesReference (description : List Char) : Bool :=
  isIn "reference" description &&
    (isIn "already exists" description || isIn "given reference_id" description)

/-- A description of an update that is under way. -/
def namesUpdate (description : List Char) : Bool :=
  isIn "update" description && isIn "progress" description

/-- `_is_duplicate_reference`. -/
def isDuplicateReference (response : BufferedResponse) : Except LoadsRaise Bool :=
  if response.statusCode ≠ 400 then .ok false
  else (errorDescription response).map namesReference

/-- `_is_update_in_progress`. -/
def isUpdateInProgress (response : BufferedResponse) : Except LoadsRaise Bool :=
  (errorDescription response).map namesUpdate

end

/-- `_transport_reason`. -/
def transportReason : HttpxError → String
  | .connectTimeout => "provider_connect_timeout_unknown_outcome"
  | .readTimeout => "provider_read_timeout_unknown_outcome"
  | .writeTimeout => "provider_write_timeout_unknown_outcome"
  | .poolTimeout => "provider_pool_timeout_before_request"
  | .timeout => "provider_timeout_unknown_outcome"
  | .transport => "provider_transport_unknown_outcome"
  | .decoding => "provider_transport_unknown_outcome"

/-! ## What each can raise -/

section

variable [JsonLoads] {response : BufferedResponse}

/-- `json.loads` raises something else than a decode error, of a body that it is given. -/
def Escapes (response : BufferedResponse) : Prop :=
  response.content.size ≤ maxResponseBytes ∧ isJsonType response.contentType = true ∧
    ∃ e, JsonLoads.loads response.content = .error e ∧ e ≠ .decodeError

theorem decodeObject_escapes_iff :
    (∃ e, decodeObject response = .error (.escaped e)) ↔ Escapes response := by
  unfold decodeObject Escapes
  rw [raiseIf_bind, raiseIf_bind]
  constructor
  · rintro ⟨e, h⟩
    split at h
    · exact nomatch h
    next hsize =>
      split at h
      · exact nomatch h
      next htype =>
        refine ⟨by omega, not_not.mp htype, ?_⟩
        split at h
        next => exact nomatch h
        next => exact nomatch h
        next => exact nomatch h
        next raised hne hraised => exact ⟨raised, hraised, hne⟩
  · rintro ⟨hsize, htype, e, hraised, hne⟩
    rw [if_neg (by omega), if_neg (not_not.mpr htype), hraised]
    cases e with
    | decodeError => exact absurd rfl hne
    | valueError => exact ⟨_, rfl⟩
    | recursionError => exact ⟨_, rfl⟩

/-- A description is read wherever the decoding does not escape. -/
theorem errorDescription_cases (response : BufferedResponse) :
    (Escapes response ∧ ∃ e, errorDescription response = .error e) ∨
      (¬Escapes response ∧ ∃ description, errorDescription response = .ok description) := by
  rw [← decodeObject_escapes_iff]
  unfold errorDescription
  cases decodeObject response with
  | ok decoded => exact Or.inr ⟨fun ⟨_, h⟩ => (nomatch h), _, rfl⟩
  | error raised =>
    cases raised with
    | malformed reason => exact Or.inr ⟨fun ⟨_, h⟩ => (nomatch h), _, rfl⟩
    | escaped e => exact Or.inl ⟨⟨e, rfl⟩, e, rfl⟩

end

end Retrywise.ControlPlane.Razorpay
