import Retrywise.Foundation.JsonDocument
import Retrywise.ControlPlane.Boundary
import Retrywise.ControlPlane.CommandPayload

/-!
# Normalisation of webhooks

`webhooks.py`, behind the check of the signature: an authentic body is decoded, the fields of its
entities that are on the list of the entity's kind are kept where they hold a scalar, and nothing
else of an entity is.

> `normalize_blind`: two bodies that differ in nothing but unlisted fields and nested values are
> normalised to the same event, up to the digest of the body, or refused for the same reason.

> `normalize_keeps`: every value of an event's resources is the unchanged scalar of a listed
> field of an entity of the body.
-/

namespace Retrywise.ControlPlane.Webhooks

open Retrywise.Foundation Retrywise.Domain

/-! ## Documents -/

/-- What a body is refused with. -/
inductive WebhookError where
  | decode (message : String)
  | accountMismatch (message : String)
  | value (message : String)
deriving DecidableEq

/-- `_reject_duplicate_object_pairs`, from the pairs that were taken in. -/
def rejectDuplicateObjectPairs (decoded : List (String × JsonDocument)) :
    List (String × JsonDocument) → Except WebhookError (List (String × JsonDocument))
  | [] => .ok decoded
  | (key, value) :: pairs => do
    raiseIf (key ∈ decoded.map Prod.fst) (.decode "webhook JSON contains a duplicate object key")
    rejectDuplicateObjectPairs (decoded ++ [(key, value)]) pairs

/-- `int(..)` of a literal: more than 4300 digits are refused. -/
def parseInt (token : List Char) : Except WebhookError JsonDocument := do
  raiseIf ((token.dropWhile (· = '-')).length > 4300)
    (.value "Exceeds the limit (4300 digits) for integer string conversion")
  return .int (JsonHooks.intOf token)

def webhookHooks : JsonHooks WebhookError JsonDocument where
  null := .null
  bool := .bool
  str := .str
  array := .array
  objectPairs pairs := (rejectDuplicateObjectPairs [] pairs).map .object
  parseInt := parseInt
  parseFloat token := .ok (.float token)
  parseConstant token := .ok (.float token)

/-- The decoding of a body. -/
def decodeBody (rawBody : ByteArray) : Except WebhookError JsonDocument :=
  match String.fromUTF8? rawBody with
  | none => .error (.decode "webhook body is not valid UTF-8 JSON")
  | some text =>
    match webhookHooks.loads text with
    | .ok document => .ok document
    | .error none => .error (.decode "webhook body is not valid UTF-8 JSON")
    | .error (some e) => .error e

/-! ## Entities -/

/-- `_BASE_ENTITY_FIELDS`. -/
def baseEntityFields : List String := ["id", "entity", "status", "created_at"]

/-- `_ENTITY_FIELD_ALLOWLIST`, and the base fields for any other kind. -/
def allowedFields (resourceType : String) : List String :=
  match resourceType with
  | "payment" => baseEntityFields ++ ["amount", "amount_refunded", "captured", "currency",
      "error_code", "error_reason", "error_source", "error_step", "invoice_id", "method",
      "order_id", "refund_status"]
  | "order" => baseEntityFields ++ ["amount", "amount_due", "amount_paid", "attempts", "currency"]
  | "payment_link" => baseEntityFields ++ ["accept_partial", "amount", "amount_paid",
      "cancelled_at", "currency", "expire_by", "expired_at", "order_id", "reference_id", "upi_link"]
  | "payment.downtime" => baseEntityFields ++ ["bank", "issuer", "method", "network",
      "resolved_at", "scheduled", "severity"]
  | _ => baseEntityFields

/-- A value that may pass: `None`, or of the type `bool`, `int` or `str`. -/
inductive Scalar where
  | null
  | bool (value : Bool)
  | int (value : Int)
  | str (value : String)
deriving DecidableEq

def Scalar.document : Scalar → JsonDocument
  | .null => .null
  | .bool value => .bool value
  | .int value => .int value
  | .str value => .str value

def scalarOf : JsonDocument → Option Scalar
  | .null => some .null
  | .bool value => some (.bool value)
  | .int value => some (.int value)
  | .str value => some (.str value)
  | .float _ => none
  | .array _ => none
  | .object _ => none

/-- What is kept of an entity: a mapping, in the order of the list of its kind. -/
abbrev Resource := List (String × Scalar)

/-- `_sanitize_entity`. -/
def sanitizeEntity (resourceType : String) (entity : List (String × JsonDocument)) : Resource :=
  (allowedFields resourceType).filterMap fun key =>
    ((entity.lookup key).bind scalarOf).map fun value => (key, value)

/-- The entity of a wrapper, if it is an object in an object. -/
def entityOf : JsonDocument → Option (List (String × JsonDocument))
  | .object wrapper =>
    match wrapper.lookup "entity" with
    | some (.object entity) => some entity
    | _ => none
  | _ => none

/-- `_related_entities`. -/
def relatedEntities (payload : List (String × JsonDocument)) : List (String × Resource) :=
  payload.filterMap fun (key, wrapper) =>
    (entityOf wrapper).map fun entity => (key, sanitizeEntity key entity)

/-- `_extract_entity`. -/
def extractEntity (payload : List (String × JsonDocument)) (key : String) :
    Except WebhookError (List (String × JsonDocument)) :=
  match payload.lookup key with
  | some (.object wrapper) =>
    someOr (entityOf (.object wrapper)) (.decode s!"payload.{key}.entity must be an object")
  | _ => .error (.decode s!"payload.{key} must be an object")

/-! ## Events -/

inductive CanonicalEventType where
  | paymentFailed | paymentCaptured | paymentAuthorized | orderPaid
  | paymentDowntimeStarted | paymentDowntimeUpdated | paymentDowntimeResolved
  | paymentLinkPaid | paymentLinkPartiallyPaid | paymentLinkCancelled | paymentLinkExpired
  | unknown
deriving DecidableEq, Repr

/-- `_EVENT_SPECS`: the type of an event, and the kind of the resource it is about. The key of
the payload and the kind are the same throughout. -/
def eventSpec (eventName : String) : Option (CanonicalEventType × String) :=
  match eventName with
  | "payment.failed" => some (.paymentFailed, "payment")
  | "payment.captured" => some (.paymentCaptured, "payment")
  | "payment.authorized" => some (.paymentAuthorized, "payment")
  | "order.paid" => some (.orderPaid, "order")
  | "payment.downtime.started" => some (.paymentDowntimeStarted, "payment.downtime")
  | "payment.downtime.updated" => some (.paymentDowntimeUpdated, "payment.downtime")
  | "payment.downtime.resolved" => some (.paymentDowntimeResolved, "payment.downtime")
  | "payment_link.paid" => some (.paymentLinkPaid, "payment_link")
  | "payment_link.partially_paid" => some (.paymentLinkPartiallyPaid, "payment_link")
  | "payment_link.cancelled" => some (.paymentLinkCancelled, "payment_link")
  | "payment_link.expired" => some (.paymentLinkExpired, "payment_link")
  | _ => none

structure CanonicalWebhookEvent where
  eventId : String
  providerAccountId : String
  eventName : String
  eventType : CanonicalEventType
  occurredAtEpoch : Int
  resourceType : String
  resourceId : Option String
  resource : Resource
  relatedResources : List (String × Resource)
  rawBodySha256 : String
deriving DecidableEq

/-- Text that is there and has no blank at its ends. -/
def isTrimmed (value : String) : Bool :=
  value ≠ "" && !value.toList.head?.any isSpace && !value.toList.getLast?.any isSpace

/-- `_required_string`. -/
def requiredString (container : List (String × JsonDocument)) (field : String) :
    Except WebhookError String :=
  match container.lookup field with
  | some (.str value) =>
    if isTrimmed value then .ok value
    else .error (.decode s!"{field} must be a non-empty string")
  | _ => .error (.decode s!"{field} must be a non-empty string")

/-- `_required_epoch`. -/
def requiredEpoch (container : List (String × JsonDocument)) (field : String) :
    Except WebhookError Int :=
  match container.lookup field with
  | some (.int value) =>
    if 0 ≤ value then .ok value
    else .error (.decode s!"{field} must be a non-negative integer epoch")
  | _ => .error (.decode s!"{field} must be a non-negative integer epoch")

/-- A resource's `id`, if it is text. -/
def resourceIdOf (resource : Resource) : Option String :=
  match resource.lookup "id" with
  | some (.str value) => if value = "" then none else some value
  | _ => none

/-- The event type, the kind of the resource, its id and the resource. -/
structure Primary where
  eventType : CanonicalEventType
  resourceType : String
  resourceId : Option String
  resource : Resource
deriving DecidableEq

/-- The resource of an event: the entity that its name asks for, or of an unknown event the
first related one with an id. -/
def primaryOf (eventName : String) (payload : List (String × JsonDocument)) :
    Except WebhookError Primary :=
  match eventSpec eventName with
  | none =>
    match (relatedEntities payload).find? fun related => (resourceIdOf related.2).isSome with
    | none => .ok ⟨.unknown, "unknown", none, []⟩
    | some (kind, resource) => .ok ⟨.unknown, kind, resourceIdOf resource, resource⟩
  | some (eventType, kind) => do
    let entity ← extractEntity payload kind
    let resource := sanitizeEntity kind entity
    let resourceId ← someOr (resourceIdOf resource)
      (.decode s!"payload.{kind}.entity.id must be a non-empty string")
    return ⟨eventType, kind, some resourceId, resource⟩

/-- The top level of a document, and its payload. -/
structure Envelope where
  accountId : String
  eventName : String
  occurredAt : Int
  payload : List (String × JsonDocument)

/-- The checks of the top level. -/
def envelopeOf (document : JsonDocument) (expectedAccountId : Option String) :
    Except WebhookError Envelope :=
  match document with
  | .object decoded => do
    let accountId ← requiredString decoded "account_id"
    raiseIf (expectedAccountId.any fun expected => accountId ≠ expected)
      (.accountMismatch "webhook account_id does not match endpoint account")
    let eventName ← requiredString decoded "event"
    let occurredAt ← requiredEpoch decoded "created_at"
    match decoded.lookup "payload" with
    | some (.object payload) => return ⟨accountId, eventName, occurredAt, payload⟩
    | _ => .error (.decode "payload must be an object")
  | _ => .error (.decode "webhook JSON root must be an object")

/-- The event of a decoded document, under the digest of its body. -/
def eventOf (document : JsonDocument) (eventId : String) (expectedAccountId : Option String)
    (rawBodySha256 : String) : Except WebhookError CanonicalWebhookEvent := do
  let envelope ← envelopeOf document expectedAccountId
  let primary ← primaryOf envelope.eventName envelope.payload
  return {
    eventId
    providerAccountId := envelope.accountId
    eventName := envelope.eventName
    eventType := primary.eventType
    occurredAtEpoch := envelope.occurredAt
    resourceType := primary.resourceType
    resourceId := primary.resourceId
    resource := primary.resource
    relatedResources := relatedEntities envelope.payload
    rawBodySha256 }

/-- `normalize_verified_webhook`. -/
def normalizeVerifiedWebhook [Hashlib] (rawBody : ByteArray) (eventId : String)
    (expectedAccountId : Option String) : Except WebhookError CanonicalWebhookEvent := do
  raiseIf (¬isTrimmed eventId) (.decode "event_id must be a non-empty string")
  raiseIf (eventId.toList.length > 256) (.decode "event_id exceeds 256 characters")
  let document ← decodeBody rawBody
  eventOf document eventId expectedAccountId (Hashlib.sha256Hexdigest rawBody)

/-! ## Bodies that differ in private values -/

/-- An array or an object. -/
def nested : JsonDocument → Bool
  | .array _ => true
  | .object _ => true
  | _ => false

/-- The same value, or nested values on both sides. -/
def ValueAlike (value value' : JsonDocument) : Prop :=
  value = value' ∨ nested value = true ∧ nested value' = true

/-- The same field on both sides, up to what is nested in it, or on neither. -/
inductive FieldAlike : Option JsonDocument → Option JsonDocument → Prop where
  | missing : FieldAlike none none
  | present {value value' : JsonDocument} (alike : ValueAlike value value') :
    FieldAlike (some value) (some value')

/-- The listed fields are alike. What is not on the list is free. -/
def EntityAlike (resourceType : String) (entity entity' : List (String × JsonDocument)) : Prop :=
  ∀ key ∈ allowedFields resourceType, FieldAlike (entity.lookup key) (entity'.lookup key)

/-- The same wrapper, or wrappers of alike entities. -/
inductive WrapperAlike (key : String) : JsonDocument → JsonDocument → Prop where
  | same (wrapper : JsonDocument) : WrapperAlike key wrapper wrapper
  | entity {wrapper wrapper' entity entity' : List (String × JsonDocument)}
    (found : wrapper.lookup "entity" = some (.object entity))
    (found' : wrapper'.lookup "entity" = some (.object entity'))
    (alike : EntityAlike key entity entity') :
    WrapperAlike key (.object wrapper) (.object wrapper')

/-- The same keys with alike wrappers. -/
def PayloadAlike (payload payload' : List (String × JsonDocument)) : Prop :=
  List.Forall₂ (fun member member' =>
    member.1 = member'.1 ∧ WrapperAlike member.1 member.2 member'.2) payload payload'

/-- Documents that differ in nothing but the unlisted fields of the entities of their payload,
and in what is nested in the listed ones. -/
inductive DocumentAlike : JsonDocument → JsonDocument → Prop where
  | object {decoded decoded' payload payload' : List (String × JsonDocument)}
    (account : decoded.lookup "account_id" = decoded'.lookup "account_id")
    (event : decoded.lookup "event" = decoded'.lookup "event")
    (created : decoded.lookup "created_at" = decoded'.lookup "created_at")
    (found : decoded.lookup "payload" = some (.object payload))
    (found' : decoded'.lookup "payload" = some (.object payload'))
    (alike : PayloadAlike payload payload') :
    DocumentAlike (.object decoded) (.object decoded')

/-! ## What is kept does not tell them apart -/

section

variable {key : String} {payload payload' : List (String × JsonDocument)}

theorem scalar_of_nested {value : JsonDocument} (h : nested value = true) :
    scalarOf value = none := by
  cases value with
  | array => rfl
  | object => rfl
  | null => exact absurd h (by decide)
  | bool => exact absurd h (by simp [nested])
  | int => exact absurd h (by simp [nested])
  | float => exact absurd h (by simp [nested])
  | str => exact absurd h (by simp [nested])

theorem FieldAlike.scalar {field field' : Option JsonDocument} (h : FieldAlike field field') :
    field.bind scalarOf = field'.bind scalarOf := by
  cases h with
  | missing => rfl
  | present halike =>
    rcases halike with rfl | ⟨hnested, hnested'⟩
    · rfl
    · rw [Option.bind_some, Option.bind_some, scalar_of_nested hnested, scalar_of_nested hnested']

/-- **Alike entities are the same once they are sanitized.** -/
theorem sanitizeEntity_eq {entity entity' : List (String × JsonDocument)}
    (h : EntityAlike key entity entity') :
    sanitizeEntity key entity = sanitizeEntity key entity' := by
  unfold sanitizeEntity
  refine List.filterMap_congr fun field hfield => ?_
  rw [(h field hfield).scalar]

/-- The entities of alike wrappers. -/
theorem WrapperAlike.entityOf {wrapper wrapper' : JsonDocument}
    (h : WrapperAlike key wrapper wrapper') :
    (Webhooks.entityOf wrapper).map (sanitizeEntity key) =
      (Webhooks.entityOf wrapper').map (sanitizeEntity key) := by
  cases h with
  | same => rfl
  | entity hfound hfound' halike =>
    rw [Webhooks.entityOf, Webhooks.entityOf, hfound, hfound']
    exact congrArg some (sanitizeEntity_eq halike)

theorem relatedEntities_eq (h : PayloadAlike payload payload') :
    relatedEntities payload = relatedEntities payload' := by
  induction h with
  | nil => rfl
  | @cons member member' payload payload' hmember _ ih =>
    obtain ⟨key, wrapper⟩ := member
    obtain ⟨key', wrapper'⟩ := member'
    obtain ⟨rfl, hwrapper⟩ := hmember
    have hentity : ((Webhooks.entityOf wrapper).map fun entity => (key, sanitizeEntity key entity)) =
        (Webhooks.entityOf wrapper').map fun entity => (key, sanitizeEntity key entity) := by
      have hsame := congrArg (Option.map fun resource => (key, resource)) hwrapper.entityOf
      rwa [Option.map_map, Option.map_map] at hsame
    unfold relatedEntities at ih ⊢
    rw [List.filterMap_cons, List.filterMap_cons, ih]
    dsimp only
    rw [hentity]

/-- A key is on both sides, with alike wrappers, or on neither. -/
theorem PayloadAlike.lookup (h : PayloadAlike payload payload') (key : String) :
    (payload.lookup key = none ∧ payload'.lookup key = none) ∨
      ∃ wrapper wrapper', payload.lookup key = some wrapper ∧
        payload'.lookup key = some wrapper' ∧ WrapperAlike key wrapper wrapper' := by
  induction h with
  | nil => exact Or.inl ⟨rfl, rfl⟩
  | @cons member member' payload payload' hmember _ ih =>
    obtain ⟨name, wrapper⟩ := member
    obtain ⟨name', wrapper'⟩ := member'
    obtain ⟨rfl, hwrapper⟩ := hmember
    rw [List.lookup_cons, List.lookup_cons]
    by_cases hkey : key = name
    · subst hkey
      rw [beq_self_eq_true]
      exact Or.inr ⟨wrapper, wrapper', rfl, rfl, hwrapper⟩
    · rw [beq_eq_false_iff_ne.mpr hkey]
      exact ih

/-- The sanitized entity of a key, or the reason why there is none, is the same. -/
theorem extractEntity_eq (h : PayloadAlike payload payload') (key : String) :
    (extractEntity payload key).map (sanitizeEntity key) =
      (extractEntity payload' key).map (sanitizeEntity key) := by
  unfold extractEntity
  rcases h.lookup key with ⟨hnone, hnone'⟩ | ⟨wrapper, wrapper', hfound, hfound', hwrapper⟩
  · rw [hnone, hnone']
  · rw [hfound, hfound']
    cases hwrapper with
    | same => rfl
    | entity hentity hentity' halike =>
      have hsame := sanitizeEntity_eq halike
      simp only [Webhooks.entityOf, hentity, hentity', someOr, Except.map, hsame]

/-- Calls that agree through `f`, in front of what sees no more than `f` of them. -/
theorem bind_eq_of_map_eq {ε α β γ : Type} {call call' : Except ε α} {f : α → β}
    (h : call.map f = call'.map f) (next : β → Except ε γ) :
    (call >>= fun a => next (f a)) = call' >>= fun a => next (f a) := by
  cases call with
  | error e =>
    cases call' with
    | error e' => rw [show e = e' from Except.error.inj h]
    | ok a' => exact nomatch h
  | ok a =>
    cases call' with
    | error e' => exact nomatch h
    | ok a' => exact congrArg next (Except.ok.inj h)

theorem primaryOf_eq (h : PayloadAlike payload payload') (eventName : String) :
    primaryOf eventName payload = primaryOf eventName payload' := by
  unfold primaryOf
  split
  next => rw [relatedEntities_eq h]
  next eventType kind _ =>
    exact bind_eq_of_map_eq (extractEntity_eq h kind) fun resource =>
      someOr (resourceIdOf resource)
          (.decode s!"payload.{kind}.entity.id must be a non-empty string") >>= fun resourceId =>
        (pure ⟨eventType, kind, some resourceId, resource⟩ : Except WebhookError Primary)

end

/-! ## Events do not tell them apart -/

/-- Envelopes of alike payloads. -/
structure EnvelopeAlike (envelope envelope' : Envelope) : Prop where
  accountId : envelope.accountId = envelope'.accountId
  eventName : envelope.eventName = envelope'.eventName
  occurredAt : envelope.occurredAt = envelope'.occurredAt
  payload : PayloadAlike envelope.payload envelope'.payload

/-- Both calls raise the same, or both return, and what they return is related. -/
inductive CallsAlike {ε α : Type} (related : α → α → Prop) : Except ε α → Except ε α → Prop where
  | error (e : ε) : CallsAlike related (.error e) (.error e)
  | ok {a a' : α} (h : related a a') : CallsAlike related (.ok a) (.ok a')

/-- The same call in front of related ones. -/
theorem CallsAlike.after {ε α β : Type} {related : β → β → Prop} {call : Except ε α}
    {next next' : α → Except ε β} (h : ∀ a, CallsAlike related (next a) (next' a)) :
    CallsAlike related (call >>= next) (call >>= next') := by
  cases call with
  | error e => exact .error e
  | ok a => exact h a

/-- Related calls in front of what sees no more than the relation. -/
theorem CallsAlike.before {ε α β γ : Type} {related : α → α → Prop} {call call' : Except ε α}
    {next next' : α → Except ε β} {f : β → γ} (h : CallsAlike related call call')
    (hnext : ∀ a a', related a a' → (next a).map f = (next' a').map f) :
    (call >>= next).map f = (call' >>= next').map f := by
  cases h with
  | error e => rfl
  | @ok a a' hrelated => exact hnext a a' hrelated

theorem envelopeOf_alike {document document' : JsonDocument} (h : DocumentAlike document document')
    (account : Option String) :
    CallsAlike EnvelopeAlike (envelopeOf document account) (envelopeOf document' account) := by
  cases h with
  | object haccount hevent hcreated hfound hfound' halike =>
    unfold envelopeOf requiredString requiredEpoch
    dsimp only
    rw [haccount, hevent, hcreated, hfound, hfound']
    refine CallsAlike.after fun accountId => CallsAlike.after fun _ =>
      CallsAlike.after fun eventName => CallsAlike.after fun occurredAt => ?_
    exact .ok ⟨rfl, rfl, rfl, halike⟩

/-- An event without the digest of its body. -/
def CanonicalWebhookEvent.withoutDigest (event : CanonicalWebhookEvent) : CanonicalWebhookEvent :=
  { event with rawBodySha256 := "" }

theorem eventOf_alike {document document' : JsonDocument} (h : DocumentAlike document document')
    (eventId : String) (account : Option String) (digest digest' : String) :
    (eventOf document eventId account digest).map CanonicalWebhookEvent.withoutDigest =
      (eventOf document' eventId account digest').map CanonicalWebhookEvent.withoutDigest := by
  refine (envelopeOf_alike h account).before fun envelope envelope' henvelope => ?_
  obtain ⟨accountId, eventName, occurredAt, payload⟩ := envelope
  obtain ⟨accountId', eventName', occurredAt', payload'⟩ := envelope'
  obtain ⟨rfl, rfl, rfl, hpayload⟩ := henvelope
  dsimp only at hpayload ⊢
  rw [primaryOf_eq hpayload, relatedEntities_eq hpayload, map_bind_eq, map_bind_eq]
  rfl

/-! ## What is kept is on the list -/

/-- A field of a resource is that of an entity of the payload, and its kind lists it. -/
def Survives (payload : List (String × JsonDocument)) (kind : String) (field : String × Scalar) :
    Prop :=
  ∃ wrapper entity, (kind, wrapper) ∈ payload ∧ entityOf wrapper = some entity ∧
    field.1 ∈ allowedFields kind ∧ entity.lookup field.1 = some field.2.document

theorem document_of_scalar {value : JsonDocument} {scalar : Scalar}
    (h : scalarOf value = some scalar) : value = scalar.document := by
  cases value with
  | null => exact Option.some.inj h ▸ rfl
  | bool => exact Option.some.inj h ▸ rfl
  | int => exact Option.some.inj h ▸ rfl
  | str => exact Option.some.inj h ▸ rfl
  | float => exact nomatch h
  | array => exact nomatch h
  | object => exact nomatch h

theorem survives_of_sanitized {payload entity : List (String × JsonDocument)} {kind : String}
    {wrapper : JsonDocument} {field : String × Scalar} (hmem : (kind, wrapper) ∈ payload)
    (hentity : entityOf wrapper = some entity) (h : field ∈ sanitizeEntity kind entity) :
    Survives payload kind field := by
  obtain ⟨key, hkey, hfield⟩ := List.mem_filterMap.mp h
  obtain ⟨scalar, hscalar, rfl⟩ := Option.map_eq_some_iff.mp hfield
  obtain ⟨value, hvalue, hread⟩ := Option.bind_eq_some_iff.mp hscalar
  refine ⟨wrapper, entity, hmem, hentity, hkey, ?_⟩
  rw [hvalue, document_of_scalar hread]

theorem survives_of_related {payload : List (String × JsonDocument)} {kind : String}
    {resource : Resource} {field : String × Scalar}
    (h : (kind, resource) ∈ relatedEntities payload) (hfield : field ∈ resource) :
    Survives payload kind field := by
  obtain ⟨⟨key, wrapper⟩, hmem, hkept⟩ := List.mem_filterMap.mp h
  obtain ⟨entity, hentity, hpair⟩ := Option.map_eq_some_iff.mp hkept
  obtain ⟨rfl, rfl⟩ := Prod.mk.inj hpair
  exact survives_of_sanitized hmem hentity hfield

theorem mem_of_lookup {α : Type} {key : String} {value : α} :
    ∀ {members : List (String × α)}, members.lookup key = some value → (key, value) ∈ members
  | [], h => nomatch h
  | (name, other) :: members, h => by
    rw [List.lookup_cons] at h
    by_cases hkey : key = name
    · subst hkey
      rw [beq_self_eq_true] at h
      rw [Option.some.inj h]
      exact List.mem_cons_self
    · rw [beq_eq_false_iff_ne.mpr hkey] at h
      exact List.mem_cons_of_mem _ (mem_of_lookup h)

theorem extractEntity_ok {payload entity : List (String × JsonDocument)} {key : String}
    (h : extractEntity payload key = .ok entity) :
    ∃ wrapper, (key, wrapper) ∈ payload ∧ entityOf wrapper = some entity := by
  unfold extractEntity at h
  split at h
  next wrapper hfound => exact ⟨.object wrapper, mem_of_lookup hfound, someOr_ok_iff.mp h⟩
  next => exact nomatch h

/-- What the resource of an event holds. -/
theorem survives_of_primary {payload : List (String × JsonDocument)} {eventName : String}
    {primary : Primary} {field : String × Scalar} (h : primaryOf eventName payload = .ok primary)
    (hfield : field ∈ primary.resource) : Survives payload primary.resourceType field := by
  unfold primaryOf at h
  split at h
  next =>
    split at h
    next => exact absurd hfield (Except.ok.inj h ▸ List.not_mem_nil)
    next kind resource hfirst =>
      obtain rfl := Except.ok.inj h
      exact survives_of_related (List.mem_of_find?_eq_some hfirst) hfield
  next eventType kind _ =>
    obtain ⟨entity, hentity, h⟩ := bind_ok_iff.mp h
    obtain ⟨resourceId, -, h⟩ := bind_ok_iff.mp h
    obtain rfl := pure_ok_iff.mp h
    obtain ⟨wrapper, hmem, hread⟩ := extractEntity_ok hentity
    exact survives_of_sanitized hmem hread hfield

/-! ## Normalisation -/

theorem normalize_blind [Hashlib] {rawBody rawBody' : ByteArray} {document document' : JsonDocument}
    (hread : decodeBody rawBody = .ok document) (hread' : decodeBody rawBody' = .ok document')
    (h : DocumentAlike document document') (eventId : String) (account : Option String) :
    (normalizeVerifiedWebhook rawBody eventId account).map
        CanonicalWebhookEvent.withoutDigest =
      (normalizeVerifiedWebhook rawBody' eventId account).map
        CanonicalWebhookEvent.withoutDigest := by
  unfold normalizeVerifiedWebhook
  rw [bind_of_ok hread, bind_of_ok hread']
  simp only [map_bind_eq]
  rw [eventOf_alike h eventId account (Hashlib.sha256Hexdigest rawBody)
    (Hashlib.sha256Hexdigest rawBody')]

theorem normalize_keeps [Hashlib] {rawBody : ByteArray} {eventId : String}
    {account : Option String} {event : CanonicalWebhookEvent}
    (h : normalizeVerifiedWebhook rawBody eventId account = .ok event) :
    ∃ decoded payload, decodeBody rawBody = .ok (.object decoded) ∧
      decoded.lookup "payload" = some (.object payload) ∧
      (∀ field ∈ event.resource, Survives payload event.resourceType field) ∧
      ∀ related ∈ event.relatedResources, ∀ field ∈ related.2,
        Survives payload related.1 field := by
  obtain ⟨_, -, h⟩ := bind_ok_iff.mp h
  obtain ⟨_, -, h⟩ := bind_ok_iff.mp h
  obtain ⟨document, hread, h⟩ := bind_ok_iff.mp h
  obtain ⟨envelope, henvelope, h⟩ := bind_ok_iff.mp h
  obtain ⟨primary, hprimary, h⟩ := bind_ok_iff.mp h
  obtain rfl := pure_ok_iff.mp h
  unfold envelopeOf at henvelope
  split at henvelope
  next decoded =>
    obtain ⟨accountId, -, henvelope⟩ := bind_ok_iff.mp henvelope
    obtain ⟨_, -, henvelope⟩ := bind_ok_iff.mp henvelope
    obtain ⟨eventName, -, henvelope⟩ := bind_ok_iff.mp henvelope
    obtain ⟨occurredAt, -, henvelope⟩ := bind_ok_iff.mp henvelope
    split at henvelope
    next payload hpayload =>
      obtain rfl := pure_ok_iff.mp henvelope
      refine ⟨decoded, payload, hread, hpayload, ?_, ?_⟩
      · exact fun field hfield => survives_of_primary hprimary hfield
      · exact fun related hrelated field hfield => survives_of_related hrelated hfield
    next => exact nomatch henvelope
  next => exact nomatch henvelope

/-- **Normalisation leaks nothing**: of two bodies that decode and differ in nothing but unlisted
fields and nested values the events are the same, up to the digest of the body, or both are
refused; and what an event keeps is the unchanged scalar of a listed field. -/
theorem normalization_leaks_nothing [Hashlib] (eventId : String) (account : Option String) :
    (∀ rawBody rawBody' document document', decodeBody rawBody = .ok document →
      decodeBody rawBody' = .ok document' → DocumentAlike document document' →
        (normalizeVerifiedWebhook rawBody eventId account).map
            CanonicalWebhookEvent.withoutDigest =
          (normalizeVerifiedWebhook rawBody' eventId account).map
            CanonicalWebhookEvent.withoutDigest) ∧
      ∀ rawBody event, normalizeVerifiedWebhook rawBody eventId account = .ok event →
        ∃ decoded payload, decodeBody rawBody = .ok (.object decoded) ∧
          decoded.lookup "payload" = some (.object payload) ∧
          (∀ field ∈ event.resource, Survives payload event.resourceType field) ∧
          ∀ related ∈ event.relatedResources, ∀ field ∈ related.2,
            Survives payload related.1 field := by
  refine ⟨?_, ?_⟩
  · intro rawBody rawBody' document document' hread hread' h
    exact normalize_blind hread hread' h eventId account
  · intro rawBody event h
    exact normalize_keeps h

/-! ## A payment with notes -/

namespace NotedPayment

/-- A failed payment, and what its customer noted. -/
def body (notes : List (String × Json)) : Json :=
  .obj [("account_id", .str "acc_1"), ("event", .str "payment.failed"), ("created_at", .int 1),
    ("payload", .obj [("payment", .obj [("entity", .obj [("id", .str "pay_1"),
      ("notes", .obj notes)])])])]

def rawBody (notes : List (String × Json)) : ByteArray :=
  (String.ofList (body notes).render).toUTF8

/-- The entity of the payment. -/
def entity (notes : List (String × JsonDocument)) : List (String × JsonDocument) :=
  [("id", .str "pay_1"), ("notes", .object notes)]

/-- The document of the payment. -/
def document (notes : List (String × JsonDocument)) : JsonDocument :=
  .object [("account_id", .str "acc_1"), ("event", .str "payment.failed"), ("created_at", .int 1),
    ("payload", .object [("payment", .object [("entity", .object (entity notes))])])]

/-- A body as it is written, before anything of it is refused. -/
def writtenHooks : JsonHooks Empty JsonDocument where
  null := .null
  bool := .bool
  str := .str
  array := .array
  objectPairs pairs := .ok (.object pairs)
  parseInt token := .ok (.int (JsonHooks.intOf token))
  parseFloat token := .ok (.float token)
  parseConstant token := .ok (.float token)

/-- The document that a body is the text of. -/
def writtenBody (rawBody : ByteArray) : Option JsonDocument :=
  (String.fromUTF8? rawBody).bind fun text => (writtenHooks.loads text).toOption

/-- The notes are on no list. -/
theorem alike (notes notes' : List (String × JsonDocument)) :
    DocumentAlike (document notes) (document notes') := by
  have hentity : EntityAlike "payment" (entity notes) (entity notes') := by
    intro key hkey
    by_cases hid : key = "id"
    · subst hid
      exact .present (Or.inl rfl)
    · have hnotes : key ≠ "notes" := by
        rintro rfl
        exact absurd hkey (by decide)
      have hnone : ∀ members, (entity members).lookup key = none := by
        intro members
        rw [entity, List.lookup_cons, beq_eq_false_iff_ne.mpr hid]
        show [("notes", JsonDocument.object members)].lookup key = none
        rw [List.lookup_cons, beq_eq_false_iff_ne.mpr hnotes]
        rfl
      rw [hnone, hnone]
      exact .missing
  exact .object rfl rfl rfl rfl rfl (.cons ⟨rfl, .entity rfl rfl hentity⟩ .nil)

theorem decodeBody_rawBody {notes : List (String × Json)} {read : List (String × JsonDocument)}
    (h : webhookHooks.fold (body notes) = .ok (document read)) :
    decodeBody (rawBody notes) = .ok (document read) := by
  rw [rawBody, decodeBody, fromUTF8_toUTF8]
  dsimp only
  rw [JsonHooks.loads_render h]

theorem writtenBody_rawBody {notes : List (String × Json)} {read : List (String × JsonDocument)}
    (h : writtenHooks.fold (body notes) = .ok (document read)) :
    writtenBody (rawBody notes) = some (document read) := by
  rw [rawBody, writtenBody, fromUTF8_toUTF8, Option.bind_some, JsonHooks.loads_render h]
  rfl

/-- The event of the payment, without notes. -/
def event : CanonicalWebhookEvent where
  eventId := "evt_1"
  providerAccountId := "acc_1"
  eventName := "payment.failed"
  eventType := .paymentFailed
  occurredAtEpoch := 1
  resourceType := "payment"
  resourceId := some "pay_1"
  resource := [("id", .str "pay_1")]
  relatedResources := [("payment", [("id", .str "pay_1")])]
  rawBodySha256 := Hashlib.sha256Hexdigest (rawBody [])

/-- A payment with a name in its notes and one without notes. -/
theorem leaks_no_name :
    (normalizeVerifiedWebhook (rawBody [("name", .str "Asha")]) "evt_1" none).map
        CanonicalWebhookEvent.withoutDigest =
      (normalizeVerifiedWebhook (rawBody []) "evt_1" none).map
        CanonicalWebhookEvent.withoutDigest :=
  (normalization_leaks_nothing "evt_1" none).1 _ _ (document [("name", .str "Asha")]) (document [])
    (decodeBody_rawBody rfl) (decodeBody_rawBody rfl) (alike _ _)

/-- **Notes can refuse a body**: with a key twice in them it is refused, with no notes it is
not. -/
theorem refused_for_notes :
    ∃ rawBody rawBody' written written' event, writtenBody rawBody = some written ∧
      writtenBody rawBody' = some written' ∧ DocumentAlike written written' ∧
      normalizeVerifiedWebhook rawBody "evt_1" none =
        .error (.decode "webhook JSON contains a duplicate object key") ∧
      normalizeVerifiedWebhook rawBody' "evt_1" none = .ok event := by
  refine ⟨rawBody [("a", .int 1), ("a", .int 2)], rawBody [],
    document [("a", .int 1), ("a", .int 2)], document [], event, ?_, ?_, alike _ _, ?_, ?_⟩
  · exact writtenBody_rawBody rfl
  · exact writtenBody_rawBody rfl
  · have hraised : webhookHooks.loads
        (String.ofList (body [("a", .int 1), ("a", .int 2)]).render) =
        .error (some (.decode "webhook JSON contains a duplicate object key")) := by
      have hskip := Loads.skip_render (body [("a", .int 1), ("a", .int 2)]) []
      have hlength : (body [("a", .int 1), ("a", .int 2)]).render.length = 132 := by
        decide +kernel
      rw [List.append_nil] at hskip
      rw [JsonHooks.loads, String.toList_ofList, hskip, hlength]
      exact bind_of_error rfl _
    have hread : decodeBody (rawBody [("a", .int 1), ("a", .int 2)]) =
        .error (.decode "webhook JSON contains a duplicate object key") := by
      rw [rawBody, decodeBody, fromUTF8_toUTF8]
      dsimp only
      rw [hraised]
    unfold normalizeVerifiedWebhook
    rw [bind_of_ok (raiseIf_of_not _ (by decide)), bind_of_ok (raiseIf_of_not _ (by decide)),
      bind_of_error hread]
  · have hread : decodeBody (rawBody []) = .ok (document []) := decodeBody_rawBody rfl
    unfold normalizeVerifiedWebhook
    rw [bind_of_ok (raiseIf_of_not _ (by decide)), bind_of_ok (raiseIf_of_not _ (by decide)),
      bind_of_ok hread]
    rfl

end NotedPayment

end Retrywise.ControlPlane.Webhooks
