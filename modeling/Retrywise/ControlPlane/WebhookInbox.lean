import Retrywise.Foundation.Table
import Retrywise.ControlPlane.MonotonicUlid
import Retrywise.ControlPlane.ProviderEvents
import Retrywise.ControlPlane.WebhookNormalization

/-!
# The webhook inbox

`PostgresWebhookInbox.store_once`: the evidence of an event, its inbox row and the job that
processes it, in one transaction; and `InMemoryWebhookInbox`, the reference for it. The database
may fail at any statement, the account may be disabled between two calls, and the sources of
identifiers may hand over anything.

> `sound_serve`: a call keeps one row for each account and event id, with one inbox row and one
> job of its own.

> `serve_agrees`: a call that the database answers is answered as the reference answers it.
-/

namespace Retrywise.ControlPlane.WebhookInbox

open Retrywise.Foundation Webhooks
open MonotonicUlid (Drawn UlidError)

inductive InboxError where
  | invalidValue (message : String)
  | runtime (message : String)
  | typeError
  | conflict
  | ulid (error : UlidError)
  | database
deriving DecidableEq

inductive InboxWriteResult where
  | stored | duplicate
deriving DecidableEq

structure InboxRecord where
  event : CanonicalWebhookEvent
  receivedAtEpoch : Nat

def InboxRecord.dedupeKey (record : InboxRecord) : String × String :=
  (record.event.providerAccountId, record.event.eventId)

/-! ## The reference -/

/-- `InMemoryWebhookInbox.store_once`. -/
def referenceStoreOnce (records : List InboxRecord) (record : InboxRecord) :
    Except InboxError InboxWriteResult × List InboxRecord :=
  match Table.find InboxRecord.dedupeKey record.dedupeKey records with
  | none => (.ok .stored, records ++ [record])
  | some existing =>
    if existing.event.rawBodySha256 ≠ record.event.rawBodySha256 ∨
        existing.event.eventName ≠ record.event.eventName then (.error .conflict, records)
    else (.ok .duplicate, records)

/-! ## Tables -/

structure ProviderEventRow where
  id : String
  merchantId : String
  providerAccountId : String
  providerEventId : String
  eventType : String
  resourceType : String
  resourceId : Option String
  bodySha256 : String
  normalizedSchemaVersion : Nat := 1
  canonicalEvent : CanonicalWebhookEvent
  providerOccurredAt : Timestamp
  receivedAt : Timestamp

def ProviderEventRow.key (row : ProviderEventRow) : String × String :=
  (row.providerAccountId, row.providerEventId)

structure InboxRow where
  id : String
  merchantId : String
  providerAccountId : String
  providerEventRecordId : String
  status : InboxStatus
  attemptCount : Nat
  nextAttemptAt : Timestamp
  acceptedAt : Timestamp
  updatedAt : Timestamp

/-- A row of `outbox_jobs`, pending. -/
structure JobRow where
  id : String
  merchantId : String
  aggregateType : String
  aggregateId : String
  commandType : String
  commandPayload : Json
  idempotencyKey : String
  attemptCount : Nat
  nextAttemptAt : Timestamp
  createdAt : Timestamp
  updatedAt : Timestamp

structure InboxTables where
  providerEvents : List ProviderEventRow := []
  inboxEvents : List InboxRow := []
  outboxJobs : List JobRow := []

structure PostgresWebhookInbox where
  merchantId : String
  providerAccountId : String
  providerAccountIdentifier : String

/-- The tables, and the factory of the adapter. -/
structure InboxState where
  tables : InboxTables := {}
  ulids : MonotonicUlid.State := {}

/-- Where the database can fail. -/
inductive Statement where
  | lock | insertEvent | selectDigest | insertInbox | insertJob | commit
deriving DecidableEq

/-- What a call meets: what the sources of the factory hand over for its three identifiers,
whether the row of the account is there, and the statement that fails, if one does. -/
structure Circumstances where
  eventDraw : Drawn × Drawn
  inboxDraw : Drawn × Drawn
  jobDraw : Drawn × Drawn
  bound : Bool := true
  fails : Option Statement := none

structure StoreCall extends Circumstances where
  record : InboxRecord

def isAscii (value : String) : Bool := value.toList.all fun c => c.toNat < 128

/-- 1970-01-01, in microseconds of the calendar. -/
def unixEpoch : Int := 719162 * 86400 * 1000000

/-- `_utc_from_epoch`, of an epoch that is not negative. -/
def utcFromEpoch (epoch : Int) (field : String) : Except InboxError Timestamp :=
  if h : 0 ≤ unixEpoch + seconds epoch ∧ unixEpoch + seconds epoch < calendarEnd then
    .ok ⟨unixEpoch + seconds epoch, h.1, h.2⟩
  else .error (.invalidValue s!"{field} is outside the supported timestamp range")

namespace PostgresWebhookInbox

variable (adapter : PostgresWebhookInbox)

/-- What is checked before anything is written, and the points in time of a record. Only text in
ASCII can be compared by `hmac.compare_digest`. -/
def checked (record : InboxRecord) : Except InboxError (Timestamp × Timestamp) := do
  raiseIf (¬isAscii record.event.providerAccountId ∨ ¬isAscii adapter.providerAccountIdentifier)
    .typeError
  raiseIf (record.event.providerAccountId ≠ adapter.providerAccountIdentifier)
    (.invalidValue "record provider account does not match adapter binding")
  raiseIf (¬Domain.isDigest record.event.rawBodySha256)
    (.invalidValue "record body digest must be lowercase hexadecimal SHA-256")
  let occurredAt ← utcFromEpoch record.event.occurredAtEpoch "occurred_at_epoch"
  let receivedAt ← utcFromEpoch record.receivedAtEpoch "received_at_epoch"
  return (occurredAt, receivedAt)

def eventRow (record : InboxRecord) (recordId : String) (occurredAt receivedAt : Timestamp) :
    ProviderEventRow where
  id := recordId
  merchantId := adapter.merchantId
  providerAccountId := adapter.providerAccountId
  providerEventId := record.event.eventId
  eventType := record.event.eventName
  resourceType := record.event.resourceType
  resourceId := record.event.resourceId
  bodySha256 := record.event.rawBodySha256
  canonicalEvent := record.event
  providerOccurredAt := occurredAt
  receivedAt := receivedAt

def inboxRow (inboxId recordId : String) (receivedAt : Timestamp) : InboxRow where
  id := inboxId
  merchantId := adapter.merchantId
  providerAccountId := adapter.providerAccountId
  providerEventRecordId := recordId
  status := .received
  attemptCount := 0
  nextAttemptAt := receivedAt
  acceptedAt := receivedAt
  updatedAt := receivedAt

def jobRow (jobId inboxId : String) (row : ProviderEventRow) : JobRow where
  id := jobId
  merchantId := adapter.merchantId
  aggregateType := "PROVIDER_EVENT"
  aggregateId := row.id
  commandType := "PROCESS_NORMALIZED_PROVIDER_EVENT"
  commandPayload := .obj [
    ("event_type", .str row.eventType),
    ("inbox_event_id", .str inboxId),
    ("merchant_id", .str adapter.merchantId),
    ("provider_account_id", .str adapter.providerAccountId),
    ("provider_event_id", .str row.providerEventId),
    ("provider_event_record_id", .str row.id),
    ("schema_version", .int 1)]
  idempotencyKey := s!"normalized-provider-event:{row.id}"
  attemptCount := 0
  nextAttemptAt := row.receivedAt
  createdAt := row.receivedAt
  updatedAt := row.receivedAt

end PostgresWebhookInbox

/-- An exception, with the factory as it is left. -/
abbrev Raised := InboxError × MonotonicUlid.State

/-- `self._ulids.new()`. -/
def newUlid (ulids : MonotonicUlid.State) (draw : Drawn × Drawn) :
    Except Raised (String × MonotonicUlid.State) :=
  match ulids.new draw.1 draw.2 with
  | (.ok ulid, next) => .ok (ulid, next)
  | (.error e, next) => .error (.ulid e, next)

/-- A statement of the transaction that the database fails. -/
def attempt (call : StoreCall) (statement : Statement) (ulids : MonotonicUlid.State) :
    Except Raised Unit :=
  raiseIf (call.fails = some statement) (.database, ulids)

/-- The transaction for an event whose row has been inserted: its inbox row and its job. -/
def InboxTables.enqueue (tables : InboxTables) (adapter : PostgresWebhookInbox) (call : StoreCall)
    (row : ProviderEventRow) (ulids : MonotonicUlid.State) :
    Except Raised (InboxWriteResult × InboxState) := do
  let (inboxId, ulids) ← newUlid ulids call.inboxDraw
  attempt call .insertInbox ulids
  raiseIf (inboxId ∈ tables.inboxEvents.map InboxRow.id) (.database, ulids)
  let (jobId, ulids) ← newUlid ulids call.jobDraw
  attempt call .insertJob ulids
  let job := adapter.jobRow jobId inboxId row
  raiseIf (jobId ∈ tables.outboxJobs.map JobRow.id ∨
    job.idempotencyKey ∈ tables.outboxJobs.map JobRow.idempotencyKey) (.database, ulids)
  attempt call .commit ulids
  return (.stored, {
    tables := {
      providerEvents := tables.providerEvents ++ [row]
      inboxEvents := tables.inboxEvents ++ [adapter.inboxRow inboxId row.id row.receivedAt]
      outboxJobs := tables.outboxJobs ++ [job] }
    ulids })

/-- `PostgresWebhookInbox.store_once`. An exception rolls the transaction back. -/
def storeOnce (adapter : PostgresWebhookInbox) (state : InboxState) (call : StoreCall) :
    Except Raised (InboxWriteResult × InboxState) := do
  let (occurredAt, receivedAt) ← (adapter.checked call.record).mapError (·, state.ulids)
  let (recordId, ulids) ← newUlid state.ulids call.eventDraw
  attempt call .lock ulids
  raiseIf (call.bound = false)
    (.runtime "configured provider account binding is unavailable", ulids)
  attempt call .insertEvent ulids
  let row := adapter.eventRow call.record recordId occurredAt receivedAt
  match Table.find ProviderEventRow.key row.key state.tables.providerEvents with
  | some known => do
    attempt call .selectDigest ulids
    raiseIf (known.merchantId ≠ adapter.merchantId)
      (.runtime "duplicate lookup returned an unexpected row shape", ulids)
    raiseIf (known.bodySha256 ≠ row.bodySha256) (.conflict, ulids)
    attempt call .commit ulids
    return (.duplicate, { state with ulids })
  | none => do
    raiseIf (recordId ∈ state.tables.providerEvents.map ProviderEventRow.id) (.database, ulids)
    state.tables.enqueue adapter call row ulids

/-- The answer of a call, and the state it leaves. -/
def serve (adapter : PostgresWebhookInbox) (state : InboxState) (call : StoreCall) :
    InboxState × Except InboxError InboxWriteResult :=
  match storeOnce adapter state call with
  | .ok (result, next) => (next, .ok result)
  | .error (e, ulids) => ({ state with ulids }, .error e)

/-! ## What a call does -/

section

variable {adapter : PostgresWebhookInbox} {state next : InboxState} {call : StoreCall}
  {result : InboxWriteResult}

/-- The row that is in the way of a record's row. -/
def known (adapter : PostgresWebhookInbox) (state : InboxState) (record : InboxRecord) :
    Option ProviderEventRow :=
  Table.find ProviderEventRow.key (adapter.providerAccountId, record.event.eventId)
    state.tables.providerEvents

/-- A call puts three rows on the tables. -/
structure Stores (adapter : PostgresWebhookInbox) (state : InboxState) (call : StoreCall)
    (next : InboxState) (row : ProviderEventRow) (inboxId jobId : String) : Prop where
  written : ∃ occurredAt receivedAt,
    row = adapter.eventRow call.record row.id occurredAt receivedAt
  unknown : known adapter state call.record = none
  newRecord : row.id ∉ state.tables.providerEvents.map ProviderEventRow.id
  newInbox : inboxId ∉ state.tables.inboxEvents.map InboxRow.id
  newJob : jobId ∉ state.tables.outboxJobs.map JobRow.id
  newKey : (adapter.jobRow jobId inboxId row).idempotencyKey ∉
    state.tables.outboxJobs.map JobRow.idempotencyKey
  tables : next.tables = {
    providerEvents := state.tables.providerEvents ++ [row]
    inboxEvents := state.tables.inboxEvents ++ [adapter.inboxRow inboxId row.id row.receivedAt]
    outboxJobs := state.tables.outboxJobs ++ [adapter.jobRow jobId inboxId row] }

theorem account_of_checked {record : InboxRecord} {times : Timestamp × Timestamp}
    (h : adapter.checked record = .ok times) :
    record.event.providerAccountId = adapter.providerAccountIdentifier := by
  obtain ⟨_, -, h⟩ := bind_ok_iff.mp h
  obtain ⟨_, haccount, -⟩ := bind_ok_iff.mp h
  exact not_not.mp (raiseIf_ok_iff.mp haccount)

/-- A call that returns has found the same body, or has put its rows on the tables. -/
theorem storeOnce_ok (h : storeOnce adapter state call = .ok (result, next)) :
    call.record.event.providerAccountId = adapter.providerAccountIdentifier ∧
      ((result = .duplicate ∧ next.tables = state.tables ∧
          ∃ row, known adapter state call.record = some row ∧
            row.bodySha256 = call.record.event.rawBodySha256) ∨
        (result = .stored ∧ ∃ row inboxId jobId, Stores adapter state call next row inboxId jobId))
    := by
  unfold storeOnce at h
  obtain ⟨⟨occurredAt, receivedAt⟩, hchecked, h⟩ := bind_ok_iff.mp h
  refine ⟨account_of_checked (mapError_ok_iff.mp hchecked), ?_⟩
  obtain ⟨⟨recordId, ulids⟩, -, h⟩ := bind_ok_iff.mp h
  obtain ⟨_, -, h⟩ := bind_ok_iff.mp h
  obtain ⟨_, -, h⟩ := bind_ok_iff.mp h
  obtain ⟨_, -, h⟩ := bind_ok_iff.mp h
  dsimp only at h
  split at h
  next row hrow =>
    obtain ⟨_, -, h⟩ := bind_ok_iff.mp h
    obtain ⟨_, -, h⟩ := bind_ok_iff.mp h
    obtain ⟨_, hbody, h⟩ := bind_ok_iff.mp h
    obtain ⟨_, -, h⟩ := bind_ok_iff.mp h
    obtain ⟨rfl, rfl⟩ := Prod.mk.inj (pure_ok_iff.mp h)
    exact .inl ⟨rfl, rfl, row, hrow, not_not.mp (raiseIf_ok_iff.mp hbody)⟩
  next hrow =>
    obtain ⟨_, hrecordId, h⟩ := bind_ok_iff.mp h
    unfold InboxTables.enqueue at h
    obtain ⟨⟨inboxId, _⟩, -, h⟩ := bind_ok_iff.mp h
    obtain ⟨_, -, h⟩ := bind_ok_iff.mp h
    obtain ⟨_, hinboxId, h⟩ := bind_ok_iff.mp h
    obtain ⟨⟨jobId, _⟩, -, h⟩ := bind_ok_iff.mp h
    obtain ⟨_, -, h⟩ := bind_ok_iff.mp h
    obtain ⟨_, hjob, h⟩ := bind_ok_iff.mp h
    obtain ⟨_, -, h⟩ := bind_ok_iff.mp h
    obtain ⟨rfl, rfl⟩ := Prod.mk.inj (pure_ok_iff.mp h)
    obtain ⟨hjobId, hjobKey⟩ := not_or.mp (raiseIf_ok_iff.mp hjob)
    exact .inr ⟨rfl, _, inboxId, jobId, ⟨_, _, rfl⟩, hrow, raiseIf_ok_iff.mp hrecordId,
      raiseIf_ok_iff.mp hinboxId, hjobId, hjobKey, rfl⟩

/-- A conflict is another body under the id of the event. -/
def Conflicts (adapter : PostgresWebhookInbox) (state : InboxState) (record : InboxRecord) : Prop :=
  record.event.providerAccountId = adapter.providerAccountIdentifier ∧
    ∃ row, known adapter state record = some row ∧ row.bodySha256 ≠ record.event.rawBodySha256

theorem checked_error (record : InboxRecord) :
    RaisesOnly (· ≠ InboxError.conflict) (adapter.checked record) := by
  have hepoch : ∀ epoch field, RaisesOnly (· ≠ InboxError.conflict) (utcFromEpoch epoch field) := by
    intro epoch field e he
    unfold utcFromEpoch at he
    split at he
    next => exact absurd he (by simp)
    next => simp [← Except.error.inj he]
  unfold PostgresWebhookInbox.checked
  refine .bind (raisesOnly_raiseIf (by simp)) fun _ _ => ?_
  refine .bind (raisesOnly_raiseIf (by simp)) fun _ _ => ?_
  refine .bind (raisesOnly_raiseIf (by simp)) fun _ _ => ?_
  refine .bind (hepoch _ _) fun _ _ => .bind (hepoch _ _) fun _ _ => .of_ok rfl

/-- A call that ends in a conflict has found another body. -/
theorem conflicts_of_error {e : InboxError} {ulids : MonotonicUlid.State}
    (h : storeOnce adapter state call = .error (e, ulids)) (hconflict : e = .conflict) :
    Conflicts adapter state call.record := by
  have hulid : ∀ ulids draw, RaisesOnly (fun raised : Raised =>
      raised.1 = .conflict → Conflicts adapter state call.record) (newUlid ulids draw) := by
    intro ulids draw raised hraised
    unfold newUlid at hraised
    split at hraised
    next => exact absurd hraised (by simp)
    next => rw [← Except.error.inj hraised]; exact nofun
  have hraises : RaisesOnly (fun raised : Raised =>
      raised.1 = .conflict → Conflicts adapter state call.record)
      (storeOnce adapter state call) := by
    unfold storeOnce
    refine .bind ?_ fun times hchecked => ?_
    · intro raised hraised
      cases hcall : adapter.checked call.record with
      | ok times => rw [hcall] at hraised; exact absurd hraised (by simp [Except.mapError])
      | error e =>
        rw [hcall] at hraised
        rw [← Except.error.inj hraised]
        exact fun he => absurd he (checked_error _ _ hcall)
    have haccount := account_of_checked (mapError_ok_iff.mp hchecked)
    refine .bind (hulid _ _) fun fresh _ => ?_
    refine .bind (raisesOnly_raiseIf nofun) fun _ _ => ?_
    refine .bind (raisesOnly_raiseIf nofun) fun _ _ => ?_
    refine .bind (raisesOnly_raiseIf nofun) fun _ _ => ?_
    dsimp only
    split
    next row hrow =>
      refine .bind (raisesOnly_raiseIf nofun) fun _ _ => ?_
      refine .bind (raisesOnly_raiseIf nofun) fun _ _ => ?_
      refine .bind ?_ fun _ _ => .bind (raisesOnly_raiseIf nofun) fun _ _ => .of_ok rfl
      intro raised hraised _
      refine ⟨haccount, row, hrow, fun hsame => ?_⟩
      exact absurd ((raiseIf_of_not _ (not_not.mpr hsame)).symm.trans hraised) (by simp)
    next =>
      refine .bind (raisesOnly_raiseIf nofun) fun _ _ => ?_
      unfold InboxTables.enqueue
      refine .bind (hulid _ _) fun _ _ => ?_
      refine .bind (raisesOnly_raiseIf nofun) fun _ _ => ?_
      refine .bind (raisesOnly_raiseIf nofun) fun _ _ => ?_
      refine .bind (hulid _ _) fun _ _ => ?_
      refine .bind (raisesOnly_raiseIf nofun) fun _ _ => ?_
      refine .bind (raisesOnly_raiseIf nofun) fun _ _ => ?_
      exact .bind (raisesOnly_raiseIf nofun) fun _ _ => .of_ok rfl
  exact hraises _ h hconflict

/-! ## Once each -/

/-- The tables belong together: one row for each event of the account, and for each row an inbox
row and a job. -/
structure Sound (adapter : PostgresWebhookInbox) (tables : InboxTables) : Prop where
  keyed : Table.Keyed ProviderEventRow.key tables.providerEvents
  ids : Table.Keyed ProviderEventRow.id tables.providerEvents
  inboxIds : Table.Keyed InboxRow.id tables.inboxEvents
  jobIds : Table.Keyed JobRow.id tables.outboxJobs
  jobKeys : Table.Keyed JobRow.idempotencyKey tables.outboxJobs
  inbox : tables.inboxEvents.map InboxRow.providerEventRecordId =
    tables.providerEvents.map ProviderEventRow.id
  jobs : tables.outboxJobs.map JobRow.aggregateId = tables.providerEvents.map ProviderEventRow.id
  written : ∀ row ∈ tables.providerEvents, ∃ record occurredAt receivedAt,
    row = adapter.eventRow record row.id occurredAt receivedAt

theorem sound_empty : Sound adapter {} where
  keyed := List.nodup_nil
  ids := List.nodup_nil
  inboxIds := List.nodup_nil
  jobIds := List.nodup_nil
  jobKeys := List.nodup_nil
  inbox := rfl
  jobs := rfl
  written := fun _ h => absurd h List.not_mem_nil

/-- What nothing is found for is new to the table. -/
theorem ne_of_unknown {ρ κ : Type} [DecidableEq κ] {key : ρ → κ} {row : ρ} {rows : List ρ}
    (h : Table.find key (key row) rows = none) : ∀ old ∈ rows, key old ≠ key row := by
  intro old hold hkey
  exact absurd (List.find?_eq_none.mp h old hold) (by simp [hkey])

theorem ne_of_notMem {ρ κ : Type} {key : ρ → κ} {row : ρ} {rows : List ρ}
    (h : key row ∉ rows.map key) : ∀ old ∈ rows, key old ≠ key row := by
  intro old hold hkey
  exact h (hkey ▸ List.mem_map_of_mem hold)

theorem Stores.sound {row : ProviderEventRow} {inboxId jobId : String}
    (h : Stores adapter state call next row inboxId jobId) (hsound : Sound adapter state.tables) :
    Sound adapter next.tables := by
  obtain ⟨occurredAt, receivedAt, hrow⟩ := h.written
  have hkey : row.key = (adapter.providerAccountId, call.record.event.eventId) := by
    rw [hrow]
    rfl
  rw [h.tables]
  refine ⟨Table.keyed_concat hsound.keyed (ne_of_unknown (by rw [hkey]; exact h.unknown)),
    Table.keyed_concat hsound.ids (ne_of_notMem h.newRecord),
    Table.keyed_concat hsound.inboxIds (ne_of_notMem h.newInbox),
    Table.keyed_concat hsound.jobIds (ne_of_notMem h.newJob),
    Table.keyed_concat hsound.jobKeys (ne_of_notMem h.newKey), ?_, ?_, ?_⟩
  · rw [List.map_append, hsound.inbox, List.map_append]
    rfl
  · rw [List.map_append, hsound.jobs, List.map_append]
    rfl
  · intro old hold
    rcases List.mem_append.mp hold with hold | hold
    · exact hsound.written old hold
    · rw [List.mem_singleton.mp hold]
      exact ⟨call.record, occurredAt, receivedAt, hrow⟩

/-- A call stores an event or leaves the tables. -/
theorem serve_cases (adapter : PostgresWebhookInbox) (state : InboxState) (call : StoreCall) :
    ((serve adapter state call).2 = .ok .stored ∧ ∃ row inboxId jobId,
      Stores adapter state call (serve adapter state call).1 row inboxId jobId) ∨
    ((serve adapter state call).2 ≠ .ok .stored ∧
      (serve adapter state call).1.tables = state.tables) := by
  unfold serve
  split
  next result next hcall =>
    rcases (storeOnce_ok hcall).2 with ⟨rfl, htables, -⟩ | ⟨rfl, hstores⟩
    · exact .inr ⟨by simp, htables⟩
    · exact .inl ⟨rfl, hstores⟩
  next => exact .inr ⟨by simp, rfl⟩

/-- One call keeps the tables together. -/
theorem sound_serve (hsound : Sound adapter state.tables) :
    Sound adapter (serve adapter state call).1.tables := by
  rcases serve_cases adapter state call with
    ⟨-, row, inboxId, jobId, hstores⟩ | ⟨-, htables⟩
  · exact hstores.sound hsound
  · rw [htables]
    exact hsound

end

/-! ## The reference agrees -/

/-- The rows are the records of the reference, in order. -/
structure Represents (adapter : PostgresWebhookInbox) (records : List InboxRecord)
    (tables : InboxTables) : Prop where
  events : tables.providerEvents.map ProviderEventRow.canonicalEvent =
    records.map InboxRecord.event
  account : ∀ record ∈ records,
    record.event.providerAccountId = adapter.providerAccountIdentifier

/-- An answer, of what the inbox has to say: everything else is a failure around it. -/
def answered : Except InboxError InboxWriteResult → Bool
  | .ok _ => true
  | .error e => e = .conflict

theorem find?_map_eq {α β : Type} {f : α → β} {p : α → Bool} {q : β → Bool} {l : List α}
    (h : ∀ a ∈ l, p a = q (f a)) : (l.find? p).map f = (l.map f).find? q := by
  induction l with
  | nil => rfl
  | cons a l ih =>
    have hrest := ih fun b hb => h b (List.mem_cons_of_mem a hb)
    have hfirst := h a List.mem_cons_self
    rw [List.map_cons, List.find?_cons, List.find?_cons, ← hfirst]
    cases p a with
    | true => rfl
    | false => exact hrest

section

variable {adapter : PostgresWebhookInbox} {state : InboxState} {call : StoreCall}
  {records : List InboxRecord} {record : InboxRecord}

/-- Both look for the event by its id. -/
theorem map_known (hsound : Sound adapter state.tables)
    (hrepresents : Represents adapter records state.tables)
    (haccount : record.event.providerAccountId = adapter.providerAccountIdentifier) :
    (known adapter state record).map ProviderEventRow.canonicalEvent =
      (Table.find InboxRecord.dedupeKey record.dedupeKey records).map InboxRecord.event := by
  unfold known Table.find
  rw [find?_map_eq (f := ProviderEventRow.canonicalEvent)
      (q := fun event => decide (event.eventId = record.event.eventId)),
    find?_map_eq (f := InboxRecord.event)
      (q := fun event => decide (event.eventId = record.event.eventId)), hrepresents.events]
  · intro other hother
    simp [InboxRecord.dedupeKey, hrepresents.account other hother, haccount]
  · intro row hrow
    obtain ⟨_, _, _, hwritten⟩ := hsound.written row hrow
    rw [hwritten, decide_eq_decide]
    simp [ProviderEventRow.key, PostgresWebhookInbox.eventRow]

/-- The digest of a row is that of its event. -/
theorem bodySha256_of_known {row : ProviderEventRow} (hsound : Sound adapter state.tables)
    (h : known adapter state record = some row) :
    row.bodySha256 = row.canonicalEvent.rawBodySha256 := by
  obtain ⟨_, _, _, hwritten⟩ := hsound.written row (Table.mem_of_find h)
  rw [hwritten]
  rfl

/-- What a row is known for, the reference has a record of. -/
theorem exists_record {row : ProviderEventRow} (hsound : Sound adapter state.tables)
    (hrepresents : Represents adapter records state.tables)
    (haccount : record.event.providerAccountId = adapter.providerAccountIdentifier)
    (h : known adapter state record = some row) :
    ∃ existing, Table.find InboxRecord.dedupeKey record.dedupeKey records = some existing ∧
      existing ∈ records ∧ existing.event.rawBodySha256 = row.bodySha256 := by
  have hmap := map_known hsound hrepresents haccount
  rw [h] at hmap
  obtain ⟨existing, hfind, hevent⟩ := Option.map_eq_some_iff.mp hmap.symm
  exact ⟨existing, hfind, Table.mem_of_find hfind, by
    rw [hevent, bodySha256_of_known hsound h]⟩

/-- **One call**: what is answered, the reference answers, and anything else leaves the tables. -/
theorem serve_agrees (call : StoreCall) (hsound : Sound adapter state.tables)
    (hrepresents : Represents adapter records state.tables)
    (hname : ∀ other ∈ records, other.event.rawBodySha256 = call.record.event.rawBodySha256 →
      other.event.eventName = call.record.event.eventName) :
    if answered (serve adapter state call).2 then
      (referenceStoreOnce records call.record).1 = (serve adapter state call).2 ∧
        Represents adapter (referenceStoreOnce records call.record).2
          (serve adapter state call).1.tables
    else (serve adapter state call).1.tables = state.tables := by
  unfold serve
  split
  next result next hcall =>
    obtain ⟨haccount, hcases⟩ := storeOnce_ok hcall
    rw [if_pos (show answered (.ok result) = true from rfl)]
    rcases hcases with ⟨rfl, htables, row, hknown, hbody⟩ | ⟨rfl, row, _, _, hstores⟩
    · obtain ⟨existing, hfind, hmem, hdigest⟩ :=
        exists_record hsound hrepresents haccount hknown
      have hsame := hdigest.trans hbody
      have hanswer : referenceStoreOnce records call.record = (.ok .duplicate, records) := by
        unfold referenceStoreOnce
        rw [hfind]
        exact if_neg (by simp [hsame, hname existing hmem hsame])
      rw [hanswer, htables]
      exact ⟨rfl, hrepresents⟩
    · have hmap := map_known hsound hrepresents haccount
      rw [hstores.unknown] at hmap
      have hfind := Option.map_eq_none_iff.mp hmap.symm
      have hanswer : referenceStoreOnce records call.record =
          (.ok .stored, records ++ [call.record]) := by
        unfold referenceStoreOnce
        rw [hfind]
      obtain ⟨_, _, hrow⟩ := hstores.written
      rw [hanswer, hstores.tables]
      refine ⟨rfl, ?_, ?_⟩
      · rw [List.map_append, hrepresents.events, List.map_append, List.map_singleton, hrow]
        rfl
      · intro other hother
        rcases List.mem_append.mp hother with hother | hother
        · exact hrepresents.account other hother
        · rw [List.mem_singleton.mp hother]
          exact haccount
  next e ulids hcall =>
    by_cases he : e = .conflict
    · obtain ⟨haccount, row, hknown, hbody⟩ := conflicts_of_error hcall he
      obtain ⟨existing, hfind, -, hdigest⟩ := exists_record hsound hrepresents haccount hknown
      have hanswer : referenceStoreOnce records call.record = (.error .conflict, records) := by
        unfold referenceStoreOnce
        rw [hfind]
        exact if_pos (.inl (hdigest ▸ hbody))
      rw [if_pos (show answered (.error e) = true from decide_eq_true he), hanswer, he]
      exact ⟨rfl, hrepresents⟩
    · rw [if_neg (show ¬answered (.error e) = true by simp [answered, he])]

end

end Retrywise.ControlPlane.WebhookInbox
