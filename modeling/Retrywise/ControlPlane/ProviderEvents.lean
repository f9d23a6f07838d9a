import Retrywise.ControlPlane.Ledger

/-!
# Stored provider events

`postgres_inbox.py` and the frame of the two projectors
(`normalized_event_projector.py`, `terminal_event_projector.py`): an authenticated event is
stored once, with an inbox row, and a delivery of its job projects it in one transaction.

The frame is the same in both projectors. Under the fence of the job it loads the event,
leaves a settled one alone, refuses one another processor holds, looks for an earlier event
with the same body, *prepares*, starts the inbox row, *carries out* what was prepared, and
settles the row. What is prepared and how it is carried out is each projector's own
(`Projector`).

> Whatever raises leaves the books as they were; whatever returns without work has moved
> no money (`project_ok`).
-/

namespace Retrywise.ControlPlane

open Retrywise.Foundation Retrywise.Domain

/-! ## Rows -/

inductive InboxStatus where
  | received | processing | processed | ignored | retryScheduled | deadLetter
deriving DecidableEq, Repr

inductive ProviderEventType where
  | paymentFailed | paymentCaptured | linkPaid | linkPartiallyPaid | linkCancelled | linkExpired
  | other (name : String)
deriving DecidableEq, Repr

/-- A row of `provider_events`. `canonical` is the canonical event as the projectors read
it, or what the validation of its envelope raises. -/
structure ProviderEvent (canonicalEvent : Type) where
  id : String
  providerEventId : String
  eventType : ProviderEventType
  bodySha256 : String
  providerOccurredAt : Timestamp
  receivedAt : Timestamp
  canonical : Except ProjectionError canonicalEvent

/-- A row of `inbox_events`. -/
structure InboxEvent where
  status : InboxStatus
  attemptCount : Nat
  maxAttempts : Nat
  nextAttemptAt : Timestamp
  leaseOwner : Option String
  leaseExpiresAt : Option Timestamp
  lastErrorCode : Option String
deriving DecidableEq

/-- An event with its inbox row. -/
structure StoredEvent (canonicalEvent : Type) where
  event : ProviderEvent canonicalEvent
  inbox : InboxEvent

def settledStatuses : List InboxStatus := [.processed, .ignored, .deadLetter]

/-- `(received_at, id) < (..)`. -/
def ProviderEvent.before {α : Type} (a b : ProviderEvent α) : Bool :=
  a.receivedAt < b.receivedAt || (a.receivedAt = b.receivedAt && a.id < b.id)

/-! ## Deliveries -/

/-- One delivery of the job of an event: what the transaction finds, and its clock. -/
structure EventDelivery where
  eventRecordId : String
  jobId : String
  fenced : Bool
  stillFenced : Bool
  accountEnabled : Bool
  leaseExpiresAt : Timestamp
  now : Timestamp
  newId : String
  newJobId : String

inductive ProjectionDisposition where
  | processed | ignored | retryScheduled | deadLetter
deriving DecidableEq, Repr

structure ProjectionResult where
  disposition : ProjectionDisposition
  recoveryCaseId : Option String := none
  recoveryCaseCreated : Bool := false
  reasonCode : Option String := none
deriving DecidableEq

/-! ## The request for an enrichment -/

structure EnrichmentFields where
  providerPaymentId : String
  providerOrderId : String
  amountMinor : Nat
  currency : String
deriving DecidableEq

/-- `EnrichFailedPaymentCommand.__post_init__`. -/
def EnrichmentFields.postInit (c : EnrichmentFields) : Except ProjectionError Unit := do
  raiseIf (¬isPaymentId c.providerPaymentId) (.runtime "provider_payment_id is invalid")
  raiseIf (¬isOrderId c.providerOrderId) (.runtime "provider_order_id is invalid")
  raiseIf (c.amountMinor = 0) (.runtime "amount_minor must be positive")
  raiseIf (¬isCurrency c.currency) (.runtime "currency is invalid")

structure EnrichFailedPaymentCommand extends EnrichmentFields where
  valid : toEnrichmentFields.postInit = .ok ()

/-- What a projector has prepared: work, a reason to ignore the event, or one to come back
once a payment has been looked up. -/
inductive Prepared (work : Type) where
  | work (plan : work)
  | ignored (reason : String)
  | deferred (reason : String) (enrichment : EnrichFailedPaymentCommand)

/-! ## The inbox row -/

namespace InboxEvent

variable (i : InboxEvent)

/-- `inbox.lease_expires_at <= clock_timestamp()`. -/
def leaseExpired (now : Timestamp) : Bool := i.leaseExpiresAt.any (· ≤ now)

/-- The row can be started: its time has come, or the lease on it has run out. -/
def isDue (now : Timestamp) : Bool :=
  match i.status with
  | .received | .retryScheduled => i.nextAttemptAt ≤ now
  | .processing => i.leaseExpired now
  | _ => false

/-- `_start_inbox`: the row processing, or dead-lettered when its attempts are used up. -/
def start (processor notAcquired : String) (leaseExpiresAt now : Timestamp) :
    Except ProjectionError InboxEvent :=
  if i.attemptCount < i.maxAttempts then
    if i.isDue now then
      .ok { i with
        status := .processing
        attemptCount := i.attemptCount + 1
        leaseOwner := some processor
        leaseExpiresAt := some leaseExpiresAt
        lastErrorCode := none }
    else .error (.busy notAcquired)
  else
    .ok { i with
      status := .deadLetter
      leaseOwner := none
      leaseExpiresAt := none
      lastErrorCode := some "normalized_event_attempts_exhausted" }

/-- `_SETTLE_INBOX`. -/
def settle (status : InboxStatus) (reason : Option String) : InboxEvent :=
  { i with status := status, leaseOwner := none, leaseExpiresAt := none, lastErrorCode := reason }

/-- `_DEFER_INBOX`; five seconds on, the clock may leave the calendar. -/
def defer (reason : String) (now : Timestamp) : Except ProjectionError InboxEvent := do
  let next ← someOr (now.add? (seconds 5)) (.database "timestamp out of range")
  return { i with
    status := .retryScheduled
    nextAttemptAt := next
    leaseOwner := none
    leaseExpiresAt := none
    lastErrorCode := some reason }

end InboxEvent

/-! ## The books -/

/-- The money rows, the stored events and the enrichment jobs. -/
structure Books (canonicalEvent : Type) where
  ledger : Ledger
  events : List (StoredEvent canonicalEvent)
  enrichments : List EnrichFailedPaymentCommand

/-- A projector: what it prepares from the books' rows, what carrying it out does, and the
words it has for itself. -/
structure Projector (canonicalEvent work : Type) where
  name : String
  notAcquired : String
  exhausted : String
  prepare : EventDelivery → Ledger → ProviderEvent canonicalEvent → canonicalEvent →
    Except ProjectionError (Ledger × Prepared work)
  carryOut : EventDelivery → Ledger → ProviderEvent canonicalEvent → work →
    Except ProjectionError (Ledger × ProjectionResult)

section

variable {α work : Type}

namespace Books

variable (books : Books α)

/-- The stored event of a record id. -/
def storedEvent (id : String) : Option (StoredEvent α) :=
  Table.find (fun s : StoredEvent α => s.event.id) id books.events

/-- `_FIND_REUSED_BODY`: an earlier event has the same body, whatever has become of it. -/
def reusesBody (event : ProviderEvent α) : Bool :=
  books.events.any fun other =>
    other.event.bodySha256 = event.bodySha256 && other.event.before event

/-- The inbox row of an event is written, and the money rows are these. -/
def write (stored : StoredEvent α) (ledger : Ledger) (inbox : InboxEvent) : Books α :=
  { books with
    ledger := ledger
    events := Table.put (fun s : StoredEvent α => s.event.id) { stored with inbox := inbox }
      books.events }

/-- `_INSERT_PAYMENT_ENRICHMENT`: a payment has one job. -/
def requestEnrichment (command : EnrichFailedPaymentCommand) : Books α :=
  if books.enrichments.any fun known => known.providerPaymentId = command.providerPaymentId then
    books
  else { books with enrichments := books.enrichments ++ [command] }

/-- `store_once`: a new event is put on the books with a fresh inbox row; one with a known
provider id changes nothing, and must have the same body. -/
def storeOnce (event : ProviderEvent α) : Except ProjectionError (Books α) :=
  match books.events.find? fun s => s.event.providerEventId = event.providerEventId with
  | some known =>
    if known.event.bodySha256 = event.bodySha256 then .ok books
    else .error (.runtime "provider event id was reused with different content")
  | none =>
    if books.events.any fun s => s.event.id = event.id then .error refused
    else
      .ok { books with
        events := books.events ++ [{
          event := event
          inbox := {
            status := .received
            attemptCount := 0
            maxAttempts := 8
            nextAttemptAt := event.receivedAt
            leaseOwner := none
            leaseExpiresAt := none
            lastErrorCode := none } }] }

end Books

/-! ## The frame -/

namespace Projector

variable (projector : Projector α work) (d : EventDelivery)

/-- `_recheck_fence`. -/
def recheckFence : Except ProjectionError Unit :=
  raiseIf (¬d.stillFenced)
    (.fenceLost s!"{projector.name} event outbox lease expired before commit")

/-- What is returned for an event that is settled already. -/
def previously : InboxStatus → ProjectionResult
  | .processed => { disposition := .processed }
  | .ignored => { disposition := .ignored, reasonCode := some "previously_ignored" }
  | _ => { disposition := .deadLetter }

/-- Up to the plan: reuse of a body comes before all else. -/
def plan (books : Books α) (stored : StoredEvent α) :
    Except ProjectionError (Ledger × Prepared work) := do
  raiseIf (stored.inbox.status = .processing ∧ ¬stored.inbox.leaseExpired d.now)
    (.busy s!"{projector.name} event inbox lease is still active")
  let canonical ← stored.event.canonical
  if books.reusesBody stored.event then
    return (books.ledger, .ignored "suspicious_body_reused_across_event_ids")
  else projector.prepare d books.ledger stored.event canonical

/-- From the started inbox row on. -/
def finish (books : Books α) (stored : StoredEvent α) (ledger : Ledger) (started : InboxEvent) :
    Prepared work → Except ProjectionError (Books α × ProjectionResult)
  | .work plan => do
    let (moved, result) ← projector.carryOut d ledger stored.event plan
    projector.recheckFence d
    return (books.write stored moved (started.settle .processed none), result)
  | .ignored reason => do
    projector.recheckFence d
    return (books.write stored ledger (started.settle .ignored (some reason)),
      { disposition := .ignored, reasonCode := some reason })
  | .deferred reason enrichment => do
    raiseIf (¬isUlid d.newJobId) (.runtime "enrichment_job_id_factory result")
    projector.recheckFence d
    let later ← started.defer reason d.now
    return ((books.requestEnrichment enrichment).write stored ledger later,
      { disposition := .retryScheduled, reasonCode := some reason })

/-- `project`: one transaction. -/
def project (books : Books α) : Except ProjectionError (Books α × ProjectionResult) := do
  raiseIf (¬d.fenced) (.fenceLost s!"{projector.name} event outbox fence is absent or expired")
  let stored ← someOr (if d.accountEnabled then books.storedEvent d.eventRecordId else none)
    (.binding "bound provider event and inbox row were not found")
  if stored.inbox.status ∈ settledStatuses then do
    projector.recheckFence d
    return (books, previously stored.inbox.status)
  else do
    let (ledger, prepared) ← projector.plan d books stored
    let started ← stored.inbox.start s!"{projector.name}:{d.jobId}" projector.notAcquired
      d.leaseExpiresAt d.now
    if started.status = .processing then
      projector.finish d books stored ledger started prepared
    else do
      projector.recheckFence d
      return (books.write stored ledger started,
        { disposition := .deadLetter, reasonCode := some projector.exhausted })

end Projector

/-! ## What a projection has done -/

/-- The ways a projection returns: the event was settled before, its attempts were used
up, it is ignored or deferred, or the plan was carried out. -/
inductive Projector.Outcome (projector : Projector α work) (d : EventDelivery) (books : Books α) :
    Books α → ProjectionResult → Prop
  | settled (stored : StoredEvent α) (hstored : books.storedEvent d.eventRecordId = some stored)
      (hsettled : stored.inbox.status ∈ settledStatuses) :
      Outcome projector d books books (previously stored.inbox.status)
  | exhausted (stored : StoredEvent α) (ledger : Ledger) (prepared : Prepared work)
      (inbox : InboxEvent) (hstored : books.storedEvent d.eventRecordId = some stored)
      (hopen : stored.inbox.status ∉ settledStatuses)
      (hplan : projector.plan d books stored = .ok (ledger, prepared))
      (hinbox : inbox.status = .deadLetter) :
      Outcome projector d books (books.write stored ledger inbox)
        { disposition := .deadLetter, reasonCode := some projector.exhausted }
  | ignored (stored : StoredEvent α) (ledger : Ledger) (reason : String) (inbox : InboxEvent)
      (hstored : books.storedEvent d.eventRecordId = some stored)
      (hopen : stored.inbox.status ∉ settledStatuses)
      (hplan : projector.plan d books stored = .ok (ledger, .ignored reason))
      (hinbox : inbox.status = .ignored) :
      Outcome projector d books (books.write stored ledger inbox)
        { disposition := .ignored, reasonCode := some reason }
  | deferred (stored : StoredEvent α) (ledger : Ledger) (reason : String)
      (enrichment : EnrichFailedPaymentCommand) (inbox : InboxEvent)
      (hstored : books.storedEvent d.eventRecordId = some stored)
      (hopen : stored.inbox.status ∉ settledStatuses)
      (hplan : projector.plan d books stored = .ok (ledger, .deferred reason enrichment))
      (hinbox : inbox.status = .retryScheduled) :
      Outcome projector d books
        ((books.requestEnrichment enrichment).write stored ledger inbox)
        { disposition := .retryScheduled, reasonCode := some reason }
  | moved (stored : StoredEvent α) (ledger moved : Ledger) (plan : work) (inbox : InboxEvent)
      (result : ProjectionResult) (hstored : books.storedEvent d.eventRecordId = some stored)
      (hopen : stored.inbox.status ∉ settledStatuses)
      (hplan : projector.plan d books stored = .ok (ledger, .work plan))
      (hattempts : stored.inbox.attemptCount < stored.inbox.maxAttempts)
      (hmoved : projector.carryOut d ledger stored.event plan = .ok (moved, result))
      (hinbox : inbox.status = .processed) :
      Outcome projector d books (books.write stored moved inbox) result

variable {projector : Projector α work} {d : EventDelivery} {books after : Books α}
  {result : ProjectionResult}

theorem InboxEvent.start_ok {i started : InboxEvent} {processor notAcquired : String}
    {leaseExpiresAt now : Timestamp}
    (h : i.start processor notAcquired leaseExpiresAt now = .ok started) :
    started.status = .processing ∨ started.status = .deadLetter := by
  unfold InboxEvent.start at h
  split_ifs at h
  · left
    rw [← Except.ok.inj h]
  · right
    rw [← Except.ok.inj h]

/-- A row that is being processed had an attempt left. -/
theorem InboxEvent.attempts_of_start {i started : InboxEvent} {processor notAcquired : String}
    {leaseExpiresAt now : Timestamp}
    (h : i.start processor notAcquired leaseExpiresAt now = .ok started)
    (hprocessing : started.status = .processing) : i.attemptCount < i.maxAttempts := by
  unfold InboxEvent.start at h
  split_ifs at h with hattempts
  · exact hattempts
  · rw [← Except.ok.inj h] at hprocessing
    exact absurd hprocessing (by simp)

/-- A projection that returns has done one of five things. -/
theorem project_ok (h : projector.project d books = .ok (after, result)) :
    projector.Outcome d books after result := by
  unfold Projector.project at h
  obtain ⟨-, -, h⟩ := bind_ok_iff.mp h
  obtain ⟨stored, hstored, h⟩ := bind_ok_iff.mp h
  rw [someOr_ok_iff] at hstored
  have hstored : books.storedEvent d.eventRecordId = some stored := by
    by_cases henabled : d.accountEnabled = true
    · rwa [if_pos henabled] at hstored
    · rw [if_neg henabled] at hstored
      exact absurd hstored (by simp)
  by_cases hsettled : stored.inbox.status ∈ settledStatuses
  · rw [if_pos hsettled] at h
    obtain ⟨-, -, h⟩ := bind_ok_iff.mp h
    obtain ⟨rfl, rfl⟩ := Prod.mk.inj (pure_ok_iff.mp h)
    exact .settled stored hstored hsettled
  · rw [if_neg hsettled] at h
    obtain ⟨⟨ledger, prepared⟩, hplan, h⟩ := bind_ok_iff.mp h
    obtain ⟨started, hstarted, h⟩ := bind_ok_iff.mp h
    by_cases hprocessing : started.status = .processing
    · rw [if_pos hprocessing] at h
      cases prepared with
      | work plan =>
        obtain ⟨⟨moved, moveResult⟩, hmoved, h⟩ := bind_ok_iff.mp h
        obtain ⟨-, -, h⟩ := bind_ok_iff.mp h
        obtain ⟨rfl, rfl⟩ := Prod.mk.inj (pure_ok_iff.mp h)
        exact .moved stored ledger moved plan _ _ hstored hsettled hplan
          (InboxEvent.attempts_of_start hstarted hprocessing) hmoved rfl
      | ignored reason =>
        obtain ⟨-, -, h⟩ := bind_ok_iff.mp h
        obtain ⟨rfl, rfl⟩ := Prod.mk.inj (pure_ok_iff.mp h)
        exact .ignored stored ledger reason _ hstored hsettled hplan rfl
      | deferred reason enrichment =>
        obtain ⟨-, -, h⟩ := bind_ok_iff.mp h
        obtain ⟨-, -, h⟩ := bind_ok_iff.mp h
        obtain ⟨later, hlater, h⟩ := bind_ok_iff.mp h
        obtain ⟨rfl, rfl⟩ := Prod.mk.inj (pure_ok_iff.mp h)
        obtain ⟨_, -, hlater⟩ := bind_ok_iff.mp hlater
        refine .deferred stored ledger reason enrichment later hstored hsettled hplan ?_
        rw [← pure_ok_iff.mp hlater]
    · rw [if_neg hprocessing] at h
      obtain ⟨-, -, h⟩ := bind_ok_iff.mp h
      obtain ⟨rfl, rfl⟩ := Prod.mk.inj (pure_ok_iff.mp h)
      have hdead := (InboxEvent.start_ok hstarted).resolve_left hprocessing
      exact .exhausted stored ledger prepared started hstored hsettled hplan hdead

/-- A projection of an event with an attempt left finishes what it has prepared. -/
theorem Projector.project_finish {stored : StoredEvent α}
    (h : projector.project d books = .ok (after, result))
    (hstored : books.storedEvent d.eventRecordId = some stored)
    (hunsettled : stored.inbox.status ∉ settledStatuses)
    (hattempts : stored.inbox.attemptCount < stored.inbox.maxAttempts) :
    ∃ ledger prepared started, projector.plan d books stored = .ok (ledger, prepared) ∧
      projector.finish d books stored ledger started prepared = .ok (after, result) := by
  unfold Projector.project at h
  obtain ⟨-, -, h⟩ := bind_ok_iff.mp h
  obtain ⟨found, hfound, h⟩ := bind_ok_iff.mp h
  rw [someOr_ok_iff] at hfound
  have hfound : stored = found := by
    by_cases henabled : d.accountEnabled = true
    · rw [if_pos henabled, hstored] at hfound
      exact Option.some.inj hfound
    · rw [if_neg henabled] at hfound
      exact absurd hfound (by simp)
  subst hfound
  rw [if_neg hunsettled] at h
  obtain ⟨⟨ledger, prepared⟩, hplan, h⟩ := bind_ok_iff.mp h
  obtain ⟨started, hstarted, h⟩ := bind_ok_iff.mp h
  have hprocessing : started.status = .processing := by
    unfold InboxEvent.start at hstarted
    rw [if_pos hattempts] at hstarted
    split_ifs at hstarted
    rw [← Except.ok.inj hstarted]
  rw [if_pos hprocessing] at h
  exact ⟨ledger, prepared, started, hplan, h⟩

/-- A plan was made of an event whose body is an earlier one's, or of what it says. -/
theorem Projector.plan_ok {stored : StoredEvent α} {ledger : Ledger} {prepared : Prepared work}
    (h : projector.plan d books stored = .ok (ledger, prepared)) :
    (books.reusesBody stored.event = true ∧ ledger = books.ledger ∧
        prepared = .ignored "suspicious_body_reused_across_event_ids") ∨
      books.reusesBody stored.event = false ∧ ∃ canonical, stored.event.canonical = .ok canonical ∧
        projector.prepare d books.ledger stored.event canonical = .ok (ledger, prepared) := by
  unfold Projector.plan at h
  obtain ⟨-, -, h⟩ := bind_ok_iff.mp h
  obtain ⟨canonical, hcanonical, h⟩ := bind_ok_iff.mp h
  by_cases hreused : books.reusesBody stored.event = true
  · rw [if_pos hreused] at h
    obtain ⟨rfl, rfl⟩ := Prod.mk.inj (pure_ok_iff.mp h)
    exact .inl ⟨hreused, rfl, rfl⟩
  · rw [if_neg hreused] at h
    exact .inr ⟨Bool.eq_false_iff.mpr hreused, canonical, hcanonical, h⟩

/-! ## Settled events -/

theorem Books.id_of_storedEvent {stored : StoredEvent α} {id : String}
    (h : books.storedEvent id = some stored) : stored.event.id = id :=
  @Table.key_of_find _ _ _ (fun s : StoredEvent α => s.event.id) _ _ _ h

/-- The stored events after the inbox row of one was written. -/
theorem Books.storedEvent_write {stored : StoredEvent α} {id : String} {ledger : Ledger}
    {inbox : InboxEvent} (hstored : books.storedEvent id = some stored) (other : String) :
    (books.write stored ledger inbox).storedEvent other =
      if other = id then some { stored with inbox := inbox } else books.storedEvent other := by
  have hid : stored.event.id = id := Books.id_of_storedEvent hstored
  by_cases hother : other = id
  · rw [if_pos hother, hother]
    exact Table.find_put hstored hid
  · rw [if_neg hother]
    exact Table.find_put_of_ne fun h => hother (h.symm.trans hid)

/-- What a projection leaves of the stored events: an inbox row was written, or none. -/
theorem Projector.events_project (h : projector.project d books = .ok (after, result)) :
    after.events = books.events ∨
      ∃ stored inbox, books.storedEvent d.eventRecordId = some stored ∧
        after.events = Table.put (fun s : StoredEvent α => s.event.id)
          { stored with inbox := inbox } books.events := by
  cases project_ok h with
  | settled => exact .inl rfl
  | exhausted stored ledger prepared inbox hstored => exact .inr ⟨stored, inbox, hstored, rfl⟩
  | ignored stored ledger reason inbox hstored => exact .inr ⟨stored, inbox, hstored, rfl⟩
  | deferred stored ledger reason enrichment inbox hstored =>
    refine .inr ⟨stored, inbox, hstored, ?_⟩
    unfold Books.requestEnrichment
    split_ifs
    · rfl
    · rfl
  | moved stored ledger moved plan inbox result hstored => exact .inr ⟨stored, inbox, hstored, rfl⟩

/-- A projection changes no event: only inbox rows. -/
theorem Projector.map_event_project
    (hevents : Table.Keyed (fun s : StoredEvent α => s.event.id) books.events)
    (h : projector.project d books = .ok (after, result)) :
    after.events.map StoredEvent.event = books.events.map StoredEvent.event := by
  rcases events_project h with hsame | ⟨stored, inbox, hstored, hput⟩
  · rw [hsame]
  · rw [hput]
    exact Table.map_put hevents (Table.mem_of_find hstored) rfl rfl fun _ _ _ => rfl

theorem Projector.reusesBody_project
    (hevents : Table.Keyed (fun s : StoredEvent α => s.event.id) books.events)
    (h : projector.project d books = .ok (after, result)) (event : ProviderEvent α) :
    after.reusesBody event = books.reusesBody event := by
  have hany : ∀ events : List (StoredEvent α),
      (events.any fun other =>
        other.event.bodySha256 = event.bodySha256 && other.event.before event) =
      (events.map StoredEvent.event).any fun other =>
        other.bodySha256 = event.bodySha256 && other.before event := by
    intro events
    rw [List.any_map]
    rfl
  unfold Books.reusesBody
  rw [hany, hany, map_event_project hevents h]

/-- A projection leaves the other events with their inbox rows. -/
theorem Projector.storedEvent_of_ne {id : String}
    (h : projector.project d books = .ok (after, result)) (hne : id ≠ d.eventRecordId) :
    after.storedEvent id = books.storedEvent id := by
  rcases events_project h with hsame | ⟨stored, inbox, hstored, hput⟩
  · unfold Books.storedEvent
    rw [hsame]
  · unfold Books.storedEvent
    rw [hput]
    have hid := Books.id_of_storedEvent hstored
    refine Table.find_put_of_ne ?_
    intro heq
    exact hne (heq.symm.trans hid)

theorem Projector.keyed_project
    (hevents : Table.Keyed (fun s : StoredEvent α => s.event.id) books.events)
    (h : projector.project d books = .ok (after, result)) :
    Table.Keyed (fun s : StoredEvent α => s.event.id) after.events := by
  rcases events_project h with hsame | ⟨stored, inbox, -, hput⟩
  · rw [hsame]
    exact hevents
  · rw [hput]
    exact Table.keyed_put hevents

/-- The event of a record id stays what it is, whatever is projected. -/
theorem Projector.event_project {id : String} {stored : StoredEvent α}
    (h : projector.project d books = .ok (after, result))
    (hstored : books.storedEvent id = some stored) :
    ∃ later, after.storedEvent id = some later ∧ later.event = stored.event := by
  by_cases hid : id = d.eventRecordId
  · rcases events_project h with hsame | ⟨found, inbox, hfound, hput⟩
    · unfold Books.storedEvent at hstored ⊢
      rw [hsame]
      exact ⟨stored, hstored, rfl⟩
    · rw [hid, hfound] at hstored
      obtain rfl := Option.some.inj hstored
      have hkey := Books.id_of_storedEvent hfound
      refine ⟨{ found with inbox := inbox }, ?_, rfl⟩
      unfold Books.storedEvent
      rw [hid, hput]
      exact Table.find_put hfound hkey
  · exact ⟨stored, (storedEvent_of_ne h hid).trans hstored, rfl⟩

/-- No projection changes an event that is settled. -/
theorem Projector.storedEvent_of_settled {id : String} {settled : StoredEvent α}
    (h : projector.project d books = .ok (after, result))
    (hsettled : books.storedEvent id = some settled)
    (hstatus : settled.inbox.status ∈ settledStatuses) : after.storedEvent id = some settled := by
  have hwrite : ∀ {stored : StoredEvent α} {ledger : Ledger} {inbox : InboxEvent},
      books.storedEvent d.eventRecordId = some stored →
      stored.inbox.status ∉ settledStatuses →
      (books.write stored ledger inbox).storedEvent id = some settled := by
    intro stored ledger inbox hstored hopen
    rw [Books.storedEvent_write hstored]
    by_cases hid : id = d.eventRecordId
    · rw [hid, hstored] at hsettled
      rw [Option.some.inj hsettled] at hopen
      exact absurd hstatus hopen
    · rw [if_neg hid]
      exact hsettled
  cases project_ok h with
  | settled => exact hsettled
  | exhausted stored ledger prepared inbox hstored hopen _ _ => exact hwrite hstored hopen
  | ignored stored ledger reason inbox hstored hopen _ _ => exact hwrite hstored hopen
  | deferred stored ledger reason enrichment inbox hstored hopen _ _ =>
    have hsame : ((books.requestEnrichment enrichment).write stored ledger inbox).storedEvent id =
        (books.write stored ledger inbox).storedEvent id := by
      unfold Books.requestEnrichment
      split_ifs
      · rfl
      · rfl
    rw [hsame]
    exact hwrite hstored hopen
  | moved stored ledger moved plan inbox result hstored hopen _ _ _ _ => exact hwrite hstored hopen

/-- A delivery of an event that is settled leaves the books. -/
theorem Projector.project_of_settled {stored : StoredEvent α}
    (h : projector.project d books = .ok (after, result))
    (hstored : books.storedEvent d.eventRecordId = some stored)
    (hstatus : stored.inbox.status ∈ settledStatuses) : after = books := by
  cases project_ok h with
  | settled => rfl
  | exhausted other ledger prepared inbox hother hopen _ _ =>
    rw [Option.some.inj (hother.symm.trans hstored)] at hopen
    exact absurd hstatus hopen
  | ignored other ledger reason inbox hother hopen _ _ =>
    rw [Option.some.inj (hother.symm.trans hstored)] at hopen
    exact absurd hstatus hopen
  | deferred other ledger reason enrichment inbox hother hopen _ _ =>
    rw [Option.some.inj (hother.symm.trans hstored)] at hopen
    exact absurd hstatus hopen
  | moved other ledger moved plan inbox result hother hopen _ _ _ _ =>
    rw [Option.some.inj (hother.symm.trans hstored)] at hopen
    exact absurd hstatus hopen

/-- An event that is stored stays as it is when another one arrives. -/
theorem Books.storedEvent_storeOnce {event : ProviderEvent α} {id : String}
    {stored : StoredEvent α} (h : books.storeOnce event = .ok after)
    (hstored : books.storedEvent id = some stored) : after.storedEvent id = some stored := by
  unfold Books.storeOnce at h
  split at h
  next known _ =>
    split_ifs at h
    rw [← Except.ok.inj h]
    exact hstored
  next =>
    split_ifs at h
    rw [← Except.ok.inj h]
    unfold Books.storedEvent Table.find at hstored ⊢
    rw [List.find?_append, hstored]
    rfl

end

end Retrywise.ControlPlane
