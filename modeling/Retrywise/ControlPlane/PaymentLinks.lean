import Retrywise.ControlPlane.Boundary

/-!
# Payment Link commands and their reconciliation

`packages/razorpay/payment_links.py`: the request a link is created with, what a
lookup by its reference id returns, and what is done about a create whose outcome
is not known.

> `decideAmbiguousCreate_retry_iff`: another create is allowed exactly when a
> completed lookup found no link at all.

A candidate is whatever JSON object the provider sent, and is read field by field.
-/

namespace Retrywise.ControlPlane

open Retrywise.Foundation Retrywise.Domain

/-- `_clean_text`. -/
def cleanLinkText (value field : String) (maximum : Nat) : Except ControlPlaneError Unit := do
  raiseIf (value.toList = [] ∨ value.toList.head?.any isSpace ∨ value.toList.getLast?.any isSpace)
    (.paymentLink s!"{field} must be a non-empty string")
  raiseIf (value.toList.length > maximum)
    (.paymentLink s!"{field} exceeds {maximum} characters")
  raiseIf (value.toList.any fun c => c.toNat < 32 || c.toNat = 127)
    (.paymentLink s!"{field} contains control characters")

/-! ## The request -/

structure PaymentLinkCustomer where
  name : String
  contact : Option String := none
  email : Option String := none

/-- `PaymentLinkCustomer.__post_init__`. -/
def PaymentLinkCustomer.postInit (customer : PaymentLinkCustomer) :
    Except ControlPlaneError Unit := do
  cleanLinkText customer.name "customer.name" 256
  if let some contact := customer.contact then
    cleanLinkText contact "customer.contact" 64
  if let some email := customer.email then
    cleanLinkText email "customer.email" 254

def PaymentLinkCustomer.toPayload (customer : PaymentLinkCustomer) : Json :=
  .obj (("name", .str customer.name) ::
    (customer.contact.toList.map (fun contact => ("contact", .str contact)) ++
      customer.email.toList.map fun email => ("email", .str email)))

structure RequestFields where
  amountMinor : Nat
  currency : String
  referenceId : String
  description : String
  expireByEpoch : Nat
  notes : List (String × String) := []
  customer : Option PaymentLinkCustomer := none

/-- The checks of the notes, one after the other. -/
def checkNotes : List (String × String) → Except ControlPlaneError Unit
  | [] => .ok ()
  | (key, value) :: notes => do
    cleanLinkText key "notes key" 256
    cleanLinkText value s!"notes[{key}]" 256
    checkNotes notes

/-- `StandardPaymentLinkRequest.__post_init__`. -/
def RequestFields.postInit (r : RequestFields) : Except ControlPlaneError Unit := do
  raiseIf (r.amountMinor = 0)
    (.paymentLink "amount_minor must be a positive integer in minor units")
  raiseIf (¬isCurrency r.currency)
    (.paymentLink "currency must be an uppercase three-letter ISO code")
  cleanLinkText r.referenceId "reference_id" 40
  cleanLinkText r.description "description" 2048
  raiseIf (r.expireByEpoch = 0) (.paymentLink "expire_by_epoch must be a positive integer epoch")
  raiseIf (r.notes.length > 15) (.paymentLink "notes cannot contain more than 15 items")
  checkNotes r.notes
  if let some customer := r.customer then
    customer.postInit

/-- The safe subset of the provider's create request. The notes are a mapping. -/
structure StandardPaymentLinkRequest extends RequestFields where
  valid : toRequestFields.postInit = .ok ()
  mapping : (notes.map Prod.fst).Nodup

/-! ## Expiry -/

/-- Seconds from 0001-01-01 to 1970-01-01. -/
def unixEpoch : Int := 719162 * 86400

/-- `int(now.timestamp())`. -/
def epochSeconds (now : Timestamp) : Int := (now.micros - unixEpoch * 1000000).tdiv 1000000

def minExpiryLeadSeconds : Int := 15 * 60

/-- `_six_calendar_months_after`: the same clock time on the same day of the sixth
month from now, or on that month's last day. Past the year 9999 there is no date. -/
def sixCalendarMonthsAfter (now : Timestamp) : Except ControlPlaneError Int :=
  let (year, month, day) := now.civilDate
  let monthIndex := month - 1 + 6
  let targetYear := year + monthIndex / 12
  let targetMonth := monthIndex % 12 + 1
  let targetDay := min day (Timestamp.daysInMonth targetYear targetMonth)
  if targetYear > 9999 then .error (.invalidValue s!"year {targetYear} is out of range")
  else
    .ok (Timestamp.dayNumber targetYear targetMonth targetDay * 86400 +
      now.micros / 1000000 % 86400 - unixEpoch)

namespace RequestFields

/-- The request may be sent at `now`. -/
def validateExpiry (r : RequestFields) (now : Timestamp) : Except ControlPlaneError Unit := do
  let nowEpoch := epochSeconds now
  raiseIf (nowEpoch < 0) (.paymentLink "now_epoch must be a non-negative integer epoch")
  raiseIf (r.expireByEpoch < nowEpoch + minExpiryLeadSeconds)
    (.paymentLink "expire_by_epoch must be at least 15 minutes in the future")
  let latest ← sixCalendarMonthsAfter now
  raiseIf (r.expireByEpoch > latest)
    (.paymentLink "expire_by_epoch cannot be more than six calendar months ahead")

def toPayload (r : RequestFields) : Json :=
  .obj ([
    ("amount", .int r.amountMinor),
    ("currency", .str r.currency),
    ("accept_partial", .bool false),
    ("upi_link", .bool false),
    ("reference_id", .str r.referenceId),
    ("description", .str r.description),
    ("expire_by", .int r.expireByEpoch),
    ("notify", .obj [("sms", .bool false), ("email", .bool false)]),
    ("reminder_enable", .bool false),
    ("notes", .obj (r.notes.map fun note => (note.1, .str note.2)))] ++
    r.customer.toList.map fun customer => ("customer", customer.toPayload))

/-- `payment_link_request_digest`. -/
def requestDigest [Hashlib] (r : RequestFields) : String := sha256Json r.toPayload

end RequestFields

/-! ## An ambiguous create -/

/-- A lookup by reference id; only a completed one carries candidates. -/
structure PaymentLinkLookupResult where
  completed : Bool
  candidates : List Json := []
  valid : completed = false → candidates = []

inductive AmbiguousCreateAction where
  | adoptExisting | retryCreateSameReference | requery | escalate
deriving DecidableEq, Repr

structure AmbiguousCreateDecision where
  action : AmbiguousCreateAction
  reasonCode : String
  paymentLinkId : Option String := none
deriving DecidableEq, Repr

structure PaymentLinkSnapshot where
  paymentLinkId : String
  referenceId : String
  amountMinor : Int
  currency : String
  acceptPartial : Bool
  upiLink : Bool
  status : String

def linkStatuses : List String := ["created", "partially_paid", "expired", "cancelled", "paid"]

/-- `_clean_text` of a candidate's field, which must be there and be a string. -/
def candidateText (candidate : Json) (key : String) (maximum : Nat) :
    Except ControlPlaneError String :=
  match candidate.get? key with
  | some (.str value) => (cleanLinkText value s!"candidate.{key}" maximum).map fun _ => value
  | _ => .error (.paymentLink s!"candidate.{key} must be a non-empty string")

/-- `_PaymentLinkSnapshot.from_mapping`. -/
def PaymentLinkSnapshot.fromMapping (candidate : Json) :
    Except ControlPlaneError PaymentLinkSnapshot := do
  raiseIf (¬candidate matches .obj _)
    (.paymentLink "provider candidate must be an object")
  let paymentLinkId ← candidateText candidate "id" 128
  let referenceId ← candidateText candidate "reference_id" 40
  let amountMinor ← match candidate.get? "amount" with
    | some (.int value) =>
      if value ≤ 0 then
        .error (.paymentLink "candidate.amount must be a positive integer in minor units")
      else .ok value
    | _ => .error (.paymentLink "candidate.amount must be a positive integer in minor units")
  let currency ← match candidate.get? "currency" with
    | some (.str value) =>
      if isCurrency value then .ok value
      else .error (.paymentLink "candidate.currency is invalid")
    | _ => .error (.paymentLink "candidate.currency is invalid")
  let (acceptPartial, upiLink) ←
    match candidate.get? "accept_partial", candidate.get? "upi_link" with
    | some (.bool acceptPartial), some (.bool upiLink) => .ok (acceptPartial, upiLink)
    | _, _ => .error (.paymentLink "candidate link-mode flags must be booleans")
  let status ← match candidate.get? "status" with
    | some (.str value) =>
      if value ∈ linkStatuses then .ok value
      else .error (.paymentLink "candidate.status is invalid")
    | _ => .error (.paymentLink "candidate.status is invalid")
  return { paymentLinkId, referenceId, amountMinor, currency, acceptPartial, upiLink, status }

/-- The link is one this request would have made. -/
def PaymentLinkSnapshot.matchesRequest (snapshot : PaymentLinkSnapshot) (r : RequestFields) :
    Bool :=
  snapshot.referenceId = r.referenceId && snapshot.amountMinor = r.amountMinor &&
    snapshot.currency = r.currency && !snapshot.acceptPartial && !snapshot.upiLink

/-- What to do about the one link a lookup found. -/
def adoptCandidate (r : RequestFields) :
    Except ControlPlaneError PaymentLinkSnapshot → AmbiguousCreateDecision
  | .error _ => { action := .escalate, reasonCode := "malformed_provider_candidate" }
  | .ok snapshot =>
    if snapshot.matchesRequest r then
      { action := .adoptExisting
        reasonCode := "matching_link_proves_create_succeeded"
        paymentLinkId := some snapshot.paymentLinkId }
    else
      { action := .escalate
        reasonCode := "provider_candidate_conflicts_with_command"
        paymentLinkId := some snapshot.paymentLinkId }

/-- What to do after a timeout or an indeterminate answer. -/
def decideAmbiguousCreate (r : RequestFields) (lookup : PaymentLinkLookupResult) :
    AmbiguousCreateDecision :=
  if lookup.completed = false then { action := .requery, reasonCode := "lookup_not_completed" }
  else
    match lookup.candidates with
    | [] =>
      { action := .retryCreateSameReference, reasonCode := "completed_lookup_found_no_link" }
    | [candidate] => adoptCandidate r (PaymentLinkSnapshot.fromMapping candidate)
    | _ :: _ :: _ =>
      { action := .escalate, reasonCode := "multiple_links_found_for_unique_reference" }

/-- A link that was found is adopted with its id, or escalated. -/
theorem adoptCandidate_action (r : RequestFields)
    (read : Except ControlPlaneError PaymentLinkSnapshot) :
    (adoptCandidate r read).action = .escalate ∨
      ((adoptCandidate r read).action = .adoptExisting ∧
        (adoptCandidate r read).paymentLinkId ≠ none) := by
  cases read with
  | error e => exact .inl rfl
  | ok snapshot =>
    by_cases hmatch : snapshot.matchesRequest r = true
    · right
      simp [adoptCandidate, hmatch]
    · left
      simp [adoptCandidate, hmatch]

/-- Another create is allowed exactly after a completed lookup that found nothing. -/
theorem decideAmbiguousCreate_retry_iff {r : RequestFields} {lookup : PaymentLinkLookupResult} :
    (decideAmbiguousCreate r lookup).action = .retryCreateSameReference ↔
      lookup.completed = true ∧ lookup.candidates = [] := by
  unfold decideAmbiguousCreate
  by_cases hdone : lookup.completed = false
  · rw [if_pos hdone, hdone]
    simp
  · rw [if_neg hdone]
    have hcompleted : lookup.completed = true := by simpa using hdone
    cases hcandidates : lookup.candidates with
    | nil => simp [hcompleted]
    | cons candidate more =>
      cases more with
      | nil =>
        rcases adoptCandidate_action r (PaymentLinkSnapshot.fromMapping candidate) with h | h
        · simp [h]
        · simp [h.1]
      | cons second rest => simp

end Retrywise.ControlPlane
