import Retrywise.ControlPlane.WebhookInbox
import Retrywise.Foundation.Run
import Mathlib.Data.List.Forall2

/-!
# Webhook ingress

`WebhookIngress.accept`: a request is checked against the endpoint it came in by, and the event of
its body is put into the inbox. While a secret is being changed, the previous one is good until it
expires.

> `accepted_once`: the rows of the inbox are the events that were accepted, one each.

> `rows_authentic`: each of them came in a body that is signed under a secret that was good then.

> `ingress_agrees`: the requests that are answered are answered as the reference answers them,
> unless two of their bodies collide.
-/

namespace Retrywise.ControlPlane.WebhookInbox

open Retrywise.Foundation Retrywise.Domain Webhooks

/-! ## Signatures -/

/-- The bytes of a digest. -/
def sha256Digest (message : List UInt8) : List UInt8 :=
  let s := Sha256.digest message
  [s.a, s.b, s.c, s.d, s.e, s.f, s.g, s.h].flatMap fun word => Sha256.bigEndian 4 word.toNat

/-- `calculate_webhook_signature`: HMAC, on blocks of 64 bytes. -/
def calculateWebhookSignature (rawBody secret : ByteArray) : String :=
  let key := if secret.size ≤ 64 then secret.toList else sha256Digest secret.toList
  let block := key ++ List.replicate (64 - key.length) 0
  let inner := sha256Digest (block.map (· ^^^ 0x36) ++ rawBody.toList)
  Sha256.hexdigest ⟨(block.map (· ^^^ 0x5c) ++ inner).toArray⟩

example : calculateWebhookSignature "what do ya want for nothing?".toUTF8 "Jefe".toUTF8 =
    "5bdcc146bf60754e6a042426089575c75a003f089d2739839dec58b964ec3843" := by decide +kernel

/-- `^[0-9a-fA-F]{64}$`. -/
def isSignature (signature : String) : Bool :=
  signature.toList.length = 64 && signature.toList.all fun c =>
    c.isDigit || ('a' ≤ c && c ≤ 'f') || ('A' ≤ c && c ≤ 'F')

/-- `is_valid_webhook_signature`. -/
def isValidWebhookSignature (rawBody : ByteArray) (signature : String) (secrets : List ByteArray) :
    Bool :=
  isSignature signature && secrets.any fun secret =>
    calculateWebhookSignature rawBody secret = signature.toLower

/-! ## Requests -/

/-- What a request is refused with. -/
inductive IngressError where
  | ingress (message : String)
  | payloadTooLarge
  | unsupportedMediaType
  | invalidValue (message : String)
  | endpointNotFound
  | verification (message : String)
  | webhook (error : WebhookError)

structure EndpointBinding where
  endpointToken : String
  merchantId : String
  providerAccountId : String
  providerAccountIdentifier : String
  currentSecret : ByteArray
  /-- The secret before it, with the time it expires. -/
  previousSecret : Option (ByteArray × Timestamp) := none

/-- `active_webhook_secrets`. -/
def EndpointBinding.activeWebhookSecrets (binding : EndpointBinding) (now : Timestamp) :
    List ByteArray :=
  match binding.previousSecret with
  | none => [binding.currentSecret]
  | some (previous, expiry) =>
    if expiry ≤ now then [binding.currentSecret] else [binding.currentSecret, previous]

structure WebhookRequest where
  endpointToken : String
  rawBody : ByteArray
  headers : List (String × String)
  contentType : String
  receivedAtEpoch : Int

/-- The security headers: the signature, and the id of the event. Of two headers of one name the
last is taken. -/
def securityHeaders (headers : List (String × String)) : Except IngressError (String × String) := do
  let lowered := (headers.map fun header => (header.1.toLower, header.2)).reverse
  let isBlank (value : String) := value.toList.all isSpace
  let signature ← someOr ((lowered.lookup "x-razorpay-signature").filter (¬isBlank ·))
    (.verification "missing X-Razorpay-Signature header")
  let eventId ← someOr ((lowered.lookup "x-razorpay-event-id").filter (¬isBlank ·))
    (.webhook (.decode "missing x-razorpay-event-id header"))
  raiseIf (¬isTrimmed eventId ∨ eventId.toList.length > 256)
    (.webhook (.decode "invalid x-razorpay-event-id header"))
  return (signature, eventId)

/-- `content_type.split(";", 1)[0].strip().lower()`. -/
def mediaType (contentType : String) : String :=
  let first := (contentType.toList.takeWhile (· ≠ ';')).dropWhile isSpace
  (String.ofList (first.reverse.dropWhile isSpace).reverse).toLower

/-- The registry of endpoints, and a limit. -/
structure WebhookIngress where
  find : String → Option EndpointBinding
  maxBodyBytes : Nat := 262144

section

variable [Hashlib] (ingress : WebhookIngress) (adapter : PostgresWebhookInbox)

/-- `accept`, up to the inbox. -/
def WebhookIngress.admit (request : WebhookRequest) (now : Timestamp) :
    Except IngressError (EndpointBinding × InboxRecord) := do
  raiseIf (request.rawBody.size = 0) (.ingress "webhook body cannot be empty")
  raiseIf (request.rawBody.size > ingress.maxBodyBytes) .payloadTooLarge
  raiseIf (mediaType request.contentType ≠ "application/json") .unsupportedMediaType
  raiseIf (request.receivedAtEpoch < 0)
    (.invalidValue "received_at_epoch must be a non-negative integer")
  let binding ← someOr (ingress.find request.endpointToken) .endpointNotFound
  let (signature, eventId) ← securityHeaders request.headers
  raiseIf (isValidWebhookSignature request.rawBody signature
    (binding.activeWebhookSecrets now) = false)
    (.verification "invalid Razorpay webhook signature")
  let event ← (normalizeVerifiedWebhook request.rawBody eventId
    (some binding.providerAccountIdentifier)).mapError .webhook
  return (binding, ⟨event, request.receivedAtEpoch.toNat⟩)

inductive IngressStatus where
  | accepted | duplicate
deriving DecidableEq

structure IngressReceipt where
  status : IngressStatus
  merchantId : String
  providerAccountId : String
  providerEventId : String
  eventName : String
  bodySha256 : String
  canonicalEvent : CanonicalWebhookEvent

/-- The exception of a request that is refused, or of the inbox. -/
inductive Refusal where
  | request (error : IngressError)
  | inbox (error : InboxError)

def receipt (binding : EndpointBinding) (record : InboxRecord) (rawBody : ByteArray)
    (answer : Except InboxError InboxWriteResult) : Except Refusal IngressReceipt :=
  match answer with
  | .error e => .error (.inbox e)
  | .ok result => .ok {
      status := if result = .stored then .accepted else .duplicate
      merchantId := binding.merchantId
      providerAccountId := binding.providerAccountId
      providerEventId := record.event.eventId
      eventName := record.event.eventName
      bodySha256 := Hashlib.sha256Hexdigest rawBody
      canonicalEvent := record.event }

/-- A request, the reading of the clock, and what the inbox meets. -/
structure IngressCall where
  request : WebhookRequest
  now : Timestamp
  meets : Circumstances

/-- `WebhookIngress.accept`, on an inbox that serves records. -/
def WebhookIngress.accept {σ : Type}
    (serving : σ → StoreCall → σ × Except InboxError InboxWriteResult) (state : σ)
    (call : IngressCall) : σ × Except Refusal IngressReceipt :=
  match ingress.admit call.request call.now with
  | .error e => (state, .error (.request e))
  | .ok (binding, record) =>
    let (next, answer) := serving state ⟨call.meets, record⟩
    (next, receipt binding record call.request.rawBody answer)

/-- The ingress on PostgreSQL. Every call is a step, whatever it ends with. -/
def WebhookIngress.onPostgres :
    Machine InboxState IngressCall (Except Refusal IngressReceipt) Empty where
  exec state call := .ok (ingress.accept (serve adapter) state call)

/-- The ingress on the reference. -/
def WebhookIngress.onReference :
    Machine (List InboxRecord) IngressCall (Except Refusal IngressReceipt) Empty where
  exec records call :=
    .ok (ingress.accept (fun records call => (referenceStoreOnce records call.record).swap)
      records call)

end

/-! ## What is admitted -/

section

variable [Hashlib] {ingress : WebhookIngress} {adapter : PostgresWebhookInbox}

omit [Hashlib] in
/-- What a document says of its event does not depend on the id and the account it is read
for. -/
theorem eventOf_free {document : JsonDocument} {eventId digest : String} {account : Option String}
    {event : CanonicalWebhookEvent} (h : eventOf document eventId account digest = .ok event) :
    eventOf document "" none digest = .ok { event with eventId := "" } ∧
      event.eventId = eventId ∧ event.rawBodySha256 = digest := by
  obtain ⟨envelope, henvelope, h⟩ := bind_ok_iff.mp h
  obtain ⟨primary, hprimary, h⟩ := bind_ok_iff.mp h
  obtain rfl := pure_ok_iff.mp h
  refine ⟨bind_ok_iff.mpr ⟨envelope, ?_, bind_ok_iff.mpr ⟨primary, hprimary, rfl⟩⟩, rfl, rfl⟩
  unfold envelopeOf at henvelope ⊢
  split at henvelope
  next decoded =>
    obtain ⟨accountId, haccount, henvelope⟩ := bind_ok_iff.mp henvelope
    obtain ⟨_, -, henvelope⟩ := bind_ok_iff.mp henvelope
    exact bind_ok_iff.mpr ⟨accountId, haccount,
      bind_ok_iff.mpr ⟨(), raiseIf_of_not _ (by simp), henvelope⟩⟩
  next => exact nomatch henvelope

/-- A body carries an event. -/
def Carries (rawBody : ByteArray) (event : CanonicalWebhookEvent) : Prop :=
  ∃ account, normalizeVerifiedWebhook rawBody event.eventId account = .ok event

theorem Carries.read {rawBody : ByteArray} {event : CanonicalWebhookEvent}
    (h : Carries rawBody event) :
    event.rawBodySha256 = Hashlib.sha256Hexdigest rawBody ∧
      ∃ document, decodeBody rawBody = .ok document ∧
        eventOf document "" none (Hashlib.sha256Hexdigest rawBody) =
          .ok { event with eventId := "" } := by
  obtain ⟨account, h⟩ := h
  obtain ⟨_, -, h⟩ := bind_ok_iff.mp h
  obtain ⟨_, -, h⟩ := bind_ok_iff.mp h
  obtain ⟨document, hread, h⟩ := bind_ok_iff.mp h
  obtain ⟨hfree, -, hdigest⟩ := eventOf_free h
  exact ⟨hdigest, document, hread, hfree⟩

/-- One body carries one event, up to its id. -/
theorem Carries.same {rawBody : ByteArray} {event other : CanonicalWebhookEvent}
    (h : Carries rawBody event) (hother : Carries rawBody other) :
    { event with eventId := "" } = { other with eventId := "" } := by
  obtain ⟨-, document, hread, hevent⟩ := h.read
  obtain ⟨-, document', hread', hevent'⟩ := hother.read
  obtain rfl := Except.ok.inj (hread.symm.trans hread')
  exact Except.ok.inj (hevent.symm.trans hevent')

/-- The request is signed under the secret of its endpoint, or under the one before it, before
that expires. -/
def SignedBy (binding : EndpointBinding) (request : WebhookRequest) (now : Timestamp) : Prop :=
  ∃ signature eventId secret, securityHeaders request.headers = .ok (signature, eventId) ∧
    calculateWebhookSignature request.rawBody secret = signature.toLower ∧
    (secret = binding.currentSecret ∨
      ∃ expiry, binding.previousSecret = some (secret, expiry) ∧ now < expiry)

omit [Hashlib] in
theorem mem_activeWebhookSecrets {binding : EndpointBinding} {now : Timestamp}
    {secret : ByteArray} (h : secret ∈ binding.activeWebhookSecrets now) :
    secret = binding.currentSecret ∨
      ∃ expiry, binding.previousSecret = some (secret, expiry) ∧ now < expiry := by
  unfold EndpointBinding.activeWebhookSecrets at h
  split at h
  next => exact .inl (List.mem_singleton.mp h)
  next previous expiry hprevious =>
    split at h
    next => exact .inl (List.mem_singleton.mp h)
    next hbefore =>
      rcases List.mem_cons.mp h with hcurrent | hsecond
      · exact .inl hcurrent
      · rw [List.mem_singleton.mp hsecond]
        exact .inr ⟨expiry, hprevious, not_le.mp hbefore⟩

/-- Where an event came from. -/
structure CameFrom (ingress : WebhookIngress) (call : IngressCall)
    (event : CanonicalWebhookEvent) : Prop where
  signed : ∃ binding, ingress.find call.request.endpointToken = some binding ∧
    SignedBy binding call.request call.now
  carried : Carries call.request.rawBody event

theorem admit_ok {call : IngressCall} {binding : EndpointBinding} {record : InboxRecord}
    (h : ingress.admit call.request call.now = .ok (binding, record)) :
    CameFrom ingress call record.event := by
  obtain ⟨_, -, h⟩ := bind_ok_iff.mp h
  obtain ⟨_, -, h⟩ := bind_ok_iff.mp h
  obtain ⟨_, -, h⟩ := bind_ok_iff.mp h
  obtain ⟨_, -, h⟩ := bind_ok_iff.mp h
  obtain ⟨found, hfound, h⟩ := bind_ok_iff.mp h
  obtain ⟨⟨signature, eventId⟩, hheaders, h⟩ := bind_ok_iff.mp h
  obtain ⟨_, hvalid, h⟩ := bind_ok_iff.mp h
  obtain ⟨event, hevent, h⟩ := bind_ok_iff.mp h
  obtain ⟨rfl, rfl⟩ := Prod.mk.inj (pure_ok_iff.mp h)
  have hnormalized := mapError_ok_iff.mp hevent
  obtain ⟨_, -, hread⟩ := bind_ok_iff.mp hnormalized
  obtain ⟨_, -, hread⟩ := bind_ok_iff.mp hread
  obtain ⟨document, -, hread⟩ := bind_ok_iff.mp hread
  have hid : event.eventId = eventId := (eventOf_free hread).2.1
  refine ⟨⟨found, someOr_ok_iff.mp hfound, signature, eventId, ?_⟩, _, hid ▸ hnormalized⟩
  have hsignature := Bool.eq_true_of_not_eq_false (raiseIf_ok_iff.mp hvalid)
  simp only [isValidWebhookSignature, Bool.and_eq_true, List.any_eq_true,
    decide_eq_true_eq] at hsignature
  obtain ⟨-, secret, hsecret, hsame⟩ := hsignature
  exact ⟨secret, hheaders, hsame, mem_activeWebhookSecrets hsecret⟩

/-! ## Runs -/

section

variable {σ : Type} {serving : σ → StoreCall → σ × Except InboxError InboxWriteResult} {state : σ}
  {call : IngressCall}

theorem accept_of_refused {e : IngressError}
    (h : ingress.admit call.request call.now = .error e) :
    ingress.accept serving state call = (state, .error (.request e)) := by
  unfold WebhookIngress.accept
  rw [h]

theorem accept_of_admitted {binding : EndpointBinding} {record : InboxRecord}
    (h : ingress.admit call.request call.now = .ok (binding, record)) :
    ingress.accept serving state call =
      ((serving state ⟨call.meets, record⟩).1,
        receipt binding record call.request.rawBody (serving state ⟨call.meets, record⟩).2) := by
  unfold WebhookIngress.accept
  rw [h]

end

/-- The event that is accepted. -/
def acceptedEvent (out : Except Refusal IngressReceipt) : Option CanonicalWebhookEvent :=
  match out with
  | .ok receipt => if receipt.status = .accepted then some receipt.canonicalEvent else none
  | .error _ => none

theorem acceptedEvent_receipt {binding : EndpointBinding} {record : InboxRecord}
    {rawBody : ByteArray} {answer : Except InboxError InboxWriteResult} (h : answer ≠ .ok .stored) :
    acceptedEvent (receipt binding record rawBody answer) = none := by
  cases answer with
  | error e => rfl
  | ok result => cases result with
    | stored => exact absurd rfl h
    | duplicate => rfl

/-- A call stores the event it accepts, or leaves the tables. -/
theorem accept_cases (ingress : WebhookIngress) (adapter : PostgresWebhookInbox)
    (state : InboxState) (call : IngressCall) :
    (acceptedEvent (ingress.accept (serve adapter) state call).2 = none ∧
      (ingress.accept (serve adapter) state call).1.tables = state.tables) ∨
    ∃ record row inboxId jobId, CameFrom ingress call record.event ∧
      acceptedEvent (ingress.accept (serve adapter) state call).2 = some record.event ∧
      Stores adapter state ⟨call.meets, record⟩ (ingress.accept (serve adapter) state call).1
        row inboxId jobId := by
  cases hadmit : ingress.admit call.request call.now with
  | error e =>
    rw [accept_of_refused hadmit]
    exact .inl ⟨rfl, rfl⟩
  | ok admitted =>
    obtain ⟨binding, record⟩ := admitted
    rw [accept_of_admitted hadmit]
    rcases serve_cases adapter state ⟨call.meets, record⟩ with
      ⟨hstored, row, inboxId, jobId, hstores⟩ | ⟨hnot, htables⟩
    · rw [hstored]
      exact .inr ⟨record, row, inboxId, jobId, admit_ok hadmit, rfl, hstores⟩
    · exact .inl ⟨acceptedEvent_receipt hnot, htables⟩

abbrev IngressStep := Step InboxState IngressCall (Except Refusal IngressReceipt)

/-- The step accepts an event. -/
def accepts (s : IngressStep) : Bool := (acceptedEvent s.out).isSome

/-- The row is of the body of this step. -/
def RowOf (ingress : WebhookIngress) (row : ProviderEventRow) (s : IngressStep) : Prop :=
  CameFrom ingress s.cmd row.canonicalEvent ∧
    row.bodySha256 = Hashlib.sha256Hexdigest s.cmd.request.rawBody

/-- What the rows of the inbox have to do with the calls so far. -/
structure Accounted (ingress : WebhookIngress) (adapter : PostgresWebhookInbox)
    (past : List IngressStep) (tables : InboxTables) : Prop where
  sound : Sound adapter tables
  accepted : tables.providerEvents.map ProviderEventRow.canonicalEvent =
    past.filterMap fun s => acceptedEvent s.out
  authentic : List.Forall₂ (RowOf ingress) tables.providerEvents (past.filter accepts)

theorem accounted_next {past : List IngressStep} {s : IngressStep}
    (h : Accounted ingress adapter past s.pre.tables)
    (htakes : (ingress.onPostgres adapter).Takes s) :
    Accounted ingress adapter (past ++ [s]) s.post.tables := by
  have hexec : ingress.accept (serve adapter) s.pre s.cmd = (s.post, s.out) := Except.ok.inj htakes
  have hcases := accept_cases ingress adapter s.pre s.cmd
  rw [hexec] at hcases
  rcases hcases with ⟨hnone, htables⟩ | ⟨record, row, inboxId, jobId, hfrom, hevent, hstores⟩
  · rw [htables]
    refine ⟨h.sound, ?_, ?_⟩
    · rw [List.filterMap_append, h.accepted,
        List.filterMap_cons_none (f := fun s : IngressStep => acceptedEvent s.out) hnone]
      exact (List.append_nil _).symm
    · rw [List.filter_append, List.filter_cons_of_neg (by simp [accepts, hnone])]
      exact (List.append_nil _).symm ▸ h.authentic
  · obtain ⟨occurredAt, receivedAt, hrow⟩ := hstores.written
    rw [hstores.tables]
    refine ⟨hstores.tables ▸ hstores.sound h.sound, ?_, ?_⟩
    · rw [List.map_append, List.filterMap_append, h.accepted,
        List.filterMap_cons_some (f := fun s : IngressStep => acceptedEvent s.out) hevent,
        List.map_singleton, hrow]
      rfl
    · rw [List.filter_append, List.filter_cons_of_pos (by simp [accepts, hevent])]
      have hof : RowOf ingress row s := hrow ▸ ⟨hfrom, hfrom.carried.read.1⟩
      exact List.rel_append h.authentic (.cons hof .nil)

theorem accounted_of_run {steps : List IngressStep} {final : InboxState}
    (hrun : (ingress.onPostgres adapter).Run {} steps final) :
    Accounted ingress adapter steps final.tables :=
  hrun.history (H := fun past state => Accounted ingress adapter past state.tables)
    (G := fun _ _ => True) ⟨sound_empty, rfl, .nil⟩
    (fun _ _ _ h htakes _ => accounted_next h htakes) fun _ _ _ _ => trivial

end

section

variable [Hashlib] (ingress : WebhookIngress) (adapter : PostgresWebhookInbox)
  (calls : List IngressCall)

/-- **What is accepted is stored once**: after any calls the rows of the inbox are the events of
the receipts that were accepted, in order, one for each account and event id, and each has one
inbox row and one job. -/
theorem accepted_once :
    Sound adapter ((ingress.onPostgres adapter).play {} calls).2.tables ∧
      ((ingress.onPostgres adapter).play {} calls).2.tables.providerEvents.map
          ProviderEventRow.canonicalEvent =
        ((ingress.onPostgres adapter).play {} calls).1.filterMap fun s => acceptedEvent s.out := by
  have haccounted := accounted_of_run (.of_play (ingress.onPostgres adapter) {} calls)
  exact ⟨haccounted.sound, haccounted.accepted⟩

/-- **What is stored is authentic**: the rows of the inbox are, one by one, the events of the
bodies whose calls were accepted, each of which came in by an endpoint of the registry, signed
under its secret, or under the one before it until that expired. -/
theorem rows_authentic :
    List.Forall₂ (RowOf ingress) ((ingress.onPostgres adapter).play {} calls).2.tables.providerEvents
      (((ingress.onPostgres adapter).play {} calls).1.filter accepts) :=
  (accounted_of_run (.of_play (ingress.onPostgres adapter) {} calls)).authentic

end

/-! ## The reference agrees -/

/-- A step that is more than a failure around the inbox. -/
def answers (s : IngressStep) : Bool :=
  match s.out with
  | .error (.inbox e) => e = .conflict
  | _ => true

section

variable [Hashlib] {ingress : WebhookIngress} {adapter : PostgresWebhookInbox}
  {calls : List IngressCall}

/-- Bodies of one digest are one body. -/
def NoCollision (calls : List IngressCall) : Prop :=
  ∀ call ∈ calls, ∀ other ∈ calls, Hashlib.sha256Hexdigest call.request.rawBody =
    Hashlib.sha256Hexdigest other.request.rawBody → call.request.rawBody = other.request.rawBody

/-- The tables hold what the reference holds, all of it from the calls. -/
structure Mirrors (adapter : PostgresWebhookInbox) (calls : List IngressCall) (state : InboxState)
    (records : List InboxRecord) : Prop where
  sound : Sound adapter state.tables
  represents : Represents adapter records state.tables
  carried : ∀ record ∈ records, ∃ call ∈ calls, Carries call.request.rawBody record.event

/-- Without a collision, one digest means one name. -/
theorem eventName_of_digest (hdiffer : NoCollision calls) {call other : IngressCall}
    (hcall : call ∈ calls) (hother : other ∈ calls) {event event' : CanonicalWebhookEvent}
    (h : Carries call.request.rawBody event) (h' : Carries other.request.rawBody event')
    (hdigest : event.rawBodySha256 = event'.rawBodySha256) :
    event.eventName = event'.eventName := by
  rw [h.read.1, h'.read.1] at hdigest
  have hbody := hdiffer call hcall other hother hdigest
  rw [← hbody] at h'
  exact (CanonicalWebhookEvent.mk.inj (h.same h')).2.2.1

omit [Hashlib] in
theorem mem_referenceStoreOnce {records : List InboxRecord} {record other : InboxRecord}
    (h : other ∈ (referenceStoreOnce records record).2) : other ∈ records ∨ other = record := by
  unfold referenceStoreOnce at h
  split at h
  next => exact (List.mem_append.mp h).imp_right List.mem_singleton.mp
  next =>
    split at h
    next => exact .inl h
    next => exact .inl h

theorem answers_receipt {s : IngressStep} {binding : EndpointBinding} {record : InboxRecord}
    {rawBody : ByteArray} {answer : Except InboxError InboxWriteResult}
    (h : s.out = receipt binding record rawBody answer) : answers s = answered answer := by
  unfold answers
  rw [h]
  cases answer with
  | error e => rfl
  | ok result => rfl

/-- One step: the reference follows what is answered. -/
theorem mirrors_next (hdiffer : NoCollision calls) {s : IngressStep} (hmem : s.cmd ∈ calls)
    (htakes : (ingress.onPostgres adapter).Takes s) {records : List InboxRecord}
    (h : Mirrors adapter calls s.pre records) :
    if answers s then
      ∃ records', ingress.onReference.exec records s.cmd = .ok (records', s.out) ∧
        Mirrors adapter calls s.post records'
    else Mirrors adapter calls s.post records := by
  have hexec : ingress.accept (serve adapter) s.pre s.cmd = (s.post, s.out) := Except.ok.inj htakes
  show if answers s then
    ∃ records', (.ok (ingress.accept _ records s.cmd) : Except Empty _) = _ ∧ _ else _
  cases hadmit : ingress.admit s.cmd.request s.cmd.now with
  | error e =>
    rw [accept_of_refused hadmit] at hexec ⊢
    obtain ⟨hpost, hout⟩ := Prod.mk.inj hexec
    rw [if_pos (by unfold answers; rw [← hout]), ← hpost, ← hout]
    exact ⟨records, rfl, h⟩
  | ok admitted =>
    obtain ⟨binding, record⟩ := admitted
    rw [accept_of_admitted hadmit] at hexec ⊢
    obtain ⟨hpost, hout⟩ := Prod.mk.inj hexec
    have hcarried := (admit_ok hadmit).carried
    have hsound : Sound adapter s.post.tables := by
      rw [← hpost]
      exact sound_serve h.sound
    have hagrees := serve_agrees ⟨s.cmd.meets, record⟩ h.sound h.represents
      fun other hother hdigest => by
        obtain ⟨call, hcall, hfrom⟩ := h.carried other hother
        exact eventName_of_digest hdiffer hcall hmem hfrom hcarried hdigest
    rw [answers_receipt hout.symm]
    rw [hpost] at hagrees
    split at hagrees
    next hanswered =>
      obtain ⟨hsame, hrepresents⟩ := hagrees
      rw [if_pos hanswered, ← hout, ← hsame]
      refine ⟨(referenceStoreOnce records record).2, rfl, hsound, hrepresents, ?_⟩
      intro other hother
      rcases mem_referenceStoreOnce hother with hold | rfl
      · exact h.carried other hold
      · exact ⟨s.cmd, hmem, hcarried⟩
    next hfailed =>
      rw [if_neg hfailed]
      exact ⟨hsound, hagrees ▸ h.represents, h.carried⟩

end

section

variable [Hashlib] (ingress : WebhookIngress) (adapter : PostgresWebhookInbox)
  (calls : List IngressCall)

/-- **The database answers as the reference**: unless bodies collide, the calls that are answered
are answered as a reference that gets no others answers them, and in the end both hold the same
events. -/
theorem ingress_agrees : ¬NoCollision calls ∨ ∃ steps records,
    ingress.onReference.Run [] steps records ∧
      steps.map (fun s => (s.cmd, s.out)) =
        (((ingress.onPostgres adapter).play {} calls).1.filter answers).map
          (fun s => (s.cmd, s.out)) ∧
      Represents adapter records ((ingress.onPostgres adapter).play {} calls).2.tables := by
  refine or_iff_not_imp_left.mpr fun hdiffer => ?_
  have hempty : Mirrors adapter calls {} [] :=
    ⟨sound_empty, ⟨rfl, fun _ h => absurd h List.not_mem_nil⟩, fun _ h => absurd h List.not_mem_nil⟩
  obtain ⟨steps, records, hrun, hmirrors, hseen⟩ :=
    (Machine.Run.of_play (ingress.onPostgres adapter) {} calls).simulated hempty
      fun s hs htakes records h =>
        mirrors_next (not_not.mp hdiffer) (Machine.Run.cmd_mem_of_play s hs) htakes h
  exact ⟨steps, records, hrun, hseen, hmirrors.represents⟩

end

end Retrywise.ControlPlane.WebhookInbox
