import Retrywise.ControlPlane.AuditHash
import Retrywise.ControlPlane.CaseBooks
import Mathlib.Data.List.Sort

/-!
# The PostgreSQL audit chain

`postgres_audit.py`: an append reads the head of the case's chain under the chain lock,
refuses to go back in time, hashes the entry and inserts it, where the trigger and the
constraints of the table check the link again. The verifier pages through the rows of the
case in the order of their numbers and recomputes every link and every hash.

The rows of one case are an `AuditTable`. What other cases have to do with them is the
primary key alone: `elsewhere` are the ids taken there. A `bytea` digest is written as its
hexadecimal text, and a session runs in UTC.
-/

namespace Retrywise.ControlPlane.Audit

open Retrywise.Foundation Retrywise.Domain

/-- `MAX_AUDIT_PAGE_SIZE`. -/
def maxPageSize : Nat := 250

/-- `MAX_AUDIT_VERIFY_ENTRIES`. -/
def maxVerifyEntries : Nat := 5000

/-- One row of `retrywise.audit_entries`, as it is read. -/
structure AuditRow where
  auditEntryId : String
  merchantId : String
  recoveryCaseId : String
  sequenceNumber : Int
  entryType : String
  actorType : String
  actorSubject : Option String
  payload : Json
  previousEntryHash : Option String
  entryHash : String
  createdAt : Datetime

structure PersistedAuditEntry extends AuditEntryFields where
  entryHash : String

/-- The row of an entry. -/
def PersistedAuditEntry.row (e : PersistedAuditEntry) : AuditRow where
  auditEntryId := e.auditEntryId
  merchantId := e.merchantId
  recoveryCaseId := e.recoveryCaseId
  sequenceNumber := e.sequenceNumber
  entryType := e.entryType
  actorType := e.actorType.value
  actorSubject := e.actorSubject
  payload := envelopeOf e.facts
  previousEntryHash := e.previousEntryHash
  entryHash := e.entryHash
  createdAt := e.createdAt.toDatetime

/-! ## The table -/

/-- The rows of one case: `CHECK (sequence_number > 0)` and
`UNIQUE (merchant_id, recovery_case_id, sequence_number)`. -/
structure AuditTable where
  entries : List AuditRow
  positive : ∀ row ∈ entries, 0 < row.sequenceNumber
  unique : entries.Pairwise fun r s => r.sequenceNumber ≠ s.sequenceNumber

namespace AuditTable

def empty : AuditTable := ⟨[], by simp, .nil⟩

/-- `ORDER BY sequence_number ASC`. -/
def inSequence (table : AuditTable) : List AuditRow :=
  table.entries.insertionSort fun r s => r.sequenceNumber ≤ s.sequenceNumber

/-- `_SELECT_CHAIN_HEAD`. -/
def chainHead (table : AuditTable) : Option AuditRow := table.inSequence.getLast?

/-- `_SELECT_AUDIT_PAGE`. -/
def auditPage (table : AuditTable) (afterSequence : Int) (fetchLimit : Nat) : List AuditRow :=
  (table.inSequence.filter fun row => afterSequence < row.sequenceNumber).take fetchLimit

/-- `retrywise.enforce_audit_chain`. -/
def enforceAuditChain (table : AuditTable) (row : AuditRow) : Bool :=
  match table.chainHead with
  | none => row.sequenceNumber = 1 && row.previousEntryHash.isNone
  | some prior =>
    row.sequenceNumber = prior.sequenceNumber + 1 && row.previousEntryHash = some prior.entryHash

/-- The types and the checks of the columns, and `audit_entries_chain_shape_ck`. -/
def checks (row : AuditRow) : Bool :=
  isUlid row.auditEntryId && isUlid row.merchantId && isUlid row.recoveryCaseId &&
    textWithin 100 row.entryType && row.previousEntryHash.all isDigest && isDigest row.entryHash &&
    (match row.payload with
      | .obj _ => true
      | _ => false) &&
    ((row.sequenceNumber = 1 && row.previousEntryHash.isNone) ||
      (1 < row.sequenceNumber && row.previousEntryHash.isSome))

/-- The primary key, and `UNIQUE (merchant_id, recovery_case_id, entry_hash)`. -/
def keysFree (table : AuditTable) (row : AuditRow) (elsewhere : List String) : Bool :=
  !elsewhere.contains row.auditEntryId && table.entries.all fun other =>
    other.auditEntryId ≠ row.auditEntryId && other.entryHash ≠ row.entryHash

/-- `_INSERT_AUDIT_ENTRY`, with the row it returns; `none` where the database raises. -/
def insertAuditEntry (table : AuditTable) (row : AuditRow) (elsewhere : List String) :
    Option (AuditTable × AuditRow) :=
  if enforceAuditChain table row ∧ checks row ∧ keysFree table row elsewhere then
    if h : 0 < row.sequenceNumber ∧
        ∀ other ∈ table.entries, other.sequenceNumber ≠ row.sequenceNumber then
      some (
        { entries := table.entries ++ [row]
          positive := by
            intro r hr
            rcases List.mem_append.mp hr with hr | hr
            · exact table.positive r hr
            · exact List.mem_singleton.mp hr ▸ h.1
          unique := by
            rw [List.pairwise_append]
            refine ⟨table.unique, List.pairwise_singleton _ _, ?_⟩
            intro r hr s hs
            exact List.mem_singleton.mp hs ▸ h.2 r hr }, row)
    else none
  else none

end AuditTable

/-! ## Append -/

/-- The arguments of `append`. -/
structure AppendCall where
  auditEntryId : String
  merchantId : String
  recoveryCaseId : String
  entryType : String
  actorType : String
  actorSubject : Option String
  facts : Json
  createdAt : Datetime

/-- The number of the next entry and the hash it goes on from. -/
def nextLink (head : Option AuditRow) (createdAt : Timestamp) :
    Except AuditError (Int × Option String) :=
  match head with
  | none => .ok (1, none)
  | some row => do
    raiseIf (row.sequenceNumber ≤ 0) (.repository .chainHeadCorrupt)
    let headTime ← readInstant row.createdAt (.repository .chainHeadCorrupt)
      (.repository .storageFailure)
    raiseIf (¬isDigest row.entryHash) (.repository .chainHeadCorrupt)
    raiseIf (createdAt < headTime) (.repository .timestampRegression)
    return (row.sequenceNumber + 1, some row.entryHash)

/-- `PostgresAuditAppender.append`, with the chain lock held. -/
def append [Hashlib] (caseFound : Bool) (elsewhere : List String) (table : AuditTable)
    (call : AppendCall) : Except AuditError (AuditTable × PersistedAuditEntry) := do
  requireUlid call.auditEntryId
  requireUlid call.merchantId
  requireUlid call.recoveryCaseId
  requireEntryType call.entryType
  let actorType ← requireActorType call.actorType
  requireActorSubject call.actorSubject actorType
  let facts ← normalizeFacts call.facts
  let payload ← payloadEnvelope facts
  let createdAt ← requireTimestamp call.createdAt
  raiseIf (caseFound = false) (.repository .caseNotFound)
  let (sequenceNumber, previousEntryHash) ← nextLink table.chainHead createdAt
  let fields : AuditEntryFields := {
    auditEntryId := call.auditEntryId
    merchantId := call.merchantId
    recoveryCaseId := call.recoveryCaseId
    sequenceNumber
    entryType := call.entryType
    actorType
    actorSubject := call.actorSubject
    facts
    previousEntryHash
    createdAt }
  let entryHash ← fields.auditEntryHashV1
  let entry : PersistedAuditEntry := { fields with entryHash }
  let (next, inserted) ← someOr
    (table.insertAuditEntry { entry.row with payload } elsewhere) (.repository .storageFailure)
  raiseIf (inserted.auditEntryId ≠ call.auditEntryId ∨ inserted.sequenceNumber ≠ sequenceNumber ∨
      inserted.entryHash ≠ entryHash ∨
      (instant inserted.createdAt).map canonicalTimestamp ≠ some (canonicalTimestamp createdAt))
    (.repository .storageFailure)
  return (next, entry)

/-! ## Verification -/

inductive AuditVerificationReason where
  | ok
  | caseNotFound
  | limitExceeded
  | rowInvalid
  | tenantMismatch
  | caseMismatch
  | sequenceMismatch
  | previousHashMismatch
  | timestampInvalid
  | timestampRegression
  | payloadInvalid
  | hashSchemaUnsupported
  | entryHashInvalid
  | entryHashMismatch
deriving DecidableEq, Repr

/-- `PostgresAuditVerification`, with what `__post_init__` asks of it. -/
structure PostgresAuditVerification where
  valid : Bool
  reason : AuditVerificationReason
  checkedEntries : Nat
  entries : List PersistedAuditEntry
  errorSequence : Option Nat
  headHash : Option String
  consistent :
    if valid then
      reason = .ok ∧ checkedEntries = entries.length ∧ errorSequence = none ∧
        headHash = some ((entries.getLast?.map PersistedAuditEntry.entryHash).getD genesisHash)
    else entries = [] ∧ headHash = none

/-- The complete chain. -/
def verificationSuccess (entries : List PersistedAuditEntry) : PostgresAuditVerification where
  valid := true
  reason := .ok
  checkedEntries := entries.length
  entries := entries
  errorSequence := none
  headHash := some ((entries.getLast?.map PersistedAuditEntry.entryHash).getD genesisHash)
  consistent := ⟨rfl, rfl, rfl, rfl⟩

/-- `_verification_failure`. -/
def verificationFailure (reason : AuditVerificationReason) (checkedEntries : Nat)
    (errorSequence : Option Nat) : PostgresAuditVerification where
  valid := false
  reason := reason
  checkedEntries := checkedEntries
  entries := []
  errorSequence := errorSequence
  headHash := none
  consistent := ⟨rfl, rfl⟩

/-- How `_verify_row` ends without an entry: with a reason, or with an exception. -/
inductive RowFault where
  | refused (reason : AuditVerificationReason)
  | raised
deriving DecidableEq

/-- A check of the profile, where its failure has a reason. -/
def orRefuse {α : Type} (reason : AuditVerificationReason) :
    Except AuditError α → Except RowFault α
  | .ok value => .ok value
  | .error _ => .error (.refused reason)

/-- `type(version) is int and version == AUDIT_HASH_SCHEMA_VERSION`. -/
def isHashSchemaVersion : Option Json → Bool
  | some (.int version) => version = hashSchemaVersion
  | _ => false

/-- The facts of a stored payload. -/
def payloadFacts (payload : Json) : Except RowFault Json := do
  raiseIf (¬payload.keys.Perm ["audit_hash_schema_version", "facts"]) (.refused .payloadInvalid)
  raiseIf (¬isHashSchemaVersion (payload.get? "audit_hash_schema_version"))
    (.refused .hashSchemaUnsupported)
  orRefuse .payloadInvalid (normalizeFacts ((payload.get? "facts").getD .null))

/-- The hash that a row goes on from. -/
def verifyPrevious (row : AuditRow) (expectedSequence : Nat) (previousHash : Option String) :
    Except RowFault (Option String) :=
  if expectedSequence = 1 then do
    raiseIf (row.previousEntryHash.isSome ∨ previousHash.isSome) (.refused .previousHashMismatch)
    return none
  else do
    let stored ← someOr row.previousEntryHash (.refused .previousHashMismatch)
    raiseIf (¬isDigest stored) (.refused .previousHashMismatch)
    raiseIf (previousHash ≠ some stored) (.refused .previousHashMismatch)
    return some stored

/-- The instant of a row, not before the one of the row before it. -/
def verifyTime (row : AuditRow) (previousTime : Option Timestamp) : Except RowFault Timestamp := do
  let createdAt ← readInstant row.createdAt (.refused .timestampInvalid) .raised
  raiseIf (previousTime.any fun before => createdAt < before) (.refused .timestampRegression)
  return createdAt

section

variable [Hashlib] (merchantId recoveryCaseId : String)

/-- `_verify_row`. -/
def verifyRow (row : AuditRow) (expectedSequence : Nat) (previousHash : Option String)
    (previousTime : Option Timestamp) : Except RowFault PersistedAuditEntry := do
  raiseIf (row.merchantId ≠ merchantId) (.refused .tenantMismatch)
  raiseIf (row.recoveryCaseId ≠ recoveryCaseId) (.refused .caseMismatch)
  raiseIf (row.sequenceNumber ≠ expectedSequence) (.refused .sequenceMismatch)
  orRefuse .rowInvalid (requireUlid row.auditEntryId)
  orRefuse .rowInvalid (requireEntryType row.entryType)
  let actorType ← orRefuse .rowInvalid (requireActorType row.actorType)
  orRefuse .rowInvalid (requireActorSubject row.actorSubject actorType)
  let facts ← payloadFacts row.payload
  let previousEntryHash ← verifyPrevious row expectedSequence previousHash
  let createdAt ← verifyTime row previousTime
  raiseIf (¬isDigest row.entryHash) (.refused .entryHashInvalid)
  let fields : AuditEntryFields := {
    auditEntryId := row.auditEntryId
    merchantId
    recoveryCaseId
    sequenceNumber := expectedSequence
    entryType := row.entryType
    actorType
    actorSubject := row.actorSubject
    facts
    previousEntryHash
    createdAt }
  let computed ← orRefuse .payloadInvalid fields.auditEntryHashV1
  raiseIf (row.entryHash ≠ computed) (.refused .entryHashMismatch)
  return { fields with entryHash := computed }

/-- How the verification stops before the chain is at its end. -/
inductive VerifyStop where
  | returned (verification : PostgresAuditVerification)
  | raised (error : AuditError)

/-- What a row that does not verify makes of the verification. -/
def RowFault.stop (checked : Nat) : RowFault → VerifyStop
  | .refused reason => .returned (verificationFailure reason checked (some (checked + 1)))
  | .raised => .raised (.repository .storageFailure)

/-- One page: `previous_hash` and `previous_time` are those of the last entry verified. -/
def verifyRows (verified : List PersistedAuditEntry) :
    List AuditRow → Except VerifyStop (List PersistedAuditEntry)
  | [] => .ok verified
  | row :: rest =>
    match verifyRow merchantId recoveryCaseId row (verified.length + 1)
      (verified.getLast?.map PersistedAuditEntry.entryHash)
      (verified.getLast?.map fun e => e.createdAt) with
    | .ok entry => verifyRows (verified ++ [entry]) rest
    | .error fault => .error (fault.stop verified.length)

/-- The loop over the pages; `after_sequence` is the number of the last entry verified. -/
def verifyPages (table : AuditTable) (pageSize maxEntries : Nat) :
    Nat → List PersistedAuditEntry → Except VerifyStop (List PersistedAuditEntry)
  | 0, _ => .error (.raised (.repository .storageFailure))
  | fuel + 1, verified =>
    let afterSequence := (verified.getLast?.map fun e => e.sequenceNumber).getD 0
    let remaining := maxEntries - verified.length
    if remaining = 0 then
      -- one row more than allowed is probed for, and not verified
      if table.auditPage afterSequence 1 ≠ [] then
        .error (.returned
          (verificationFailure .limitExceeded verified.length (some (verified.length + 1))))
      else .ok verified
    else do
      let requested := min pageSize remaining
      let rows := table.auditPage afterSequence requested
      let verified ← verifyRows merchantId recoveryCaseId verified rows
      if rows.length < requested then .ok verified
      else verifyPages table pageSize maxEntries fuel verified

/-- `PostgresAuditRepository.verify_chain`. Every page but the last verifies at least one
entry, so `maxEntries + 1` pages are enough. -/
def verifyChain (caseFound : Bool) (table : AuditTable) (pageSize maxEntries : Int) :
    Except AuditError PostgresAuditVerification := do
  requireUlid merchantId
  requireUlid recoveryCaseId
  raiseIf (¬(1 ≤ pageSize ∧ pageSize ≤ maxPageSize ∧ 1 ≤ maxEntries ∧
    maxEntries ≤ maxVerifyEntries)) .input
  if caseFound = false then return verificationFailure .caseNotFound 0 none
  match verifyPages merchantId recoveryCaseId table pageSize.toNat maxEntries.toNat
    (maxEntries.toNat + 1) [] with
  | .ok entries => return verificationSuccess entries
  | .error (.returned verification) => return verification
  | .error (.raised error) => .error error

end

end Retrywise.ControlPlane.Audit
