import Retrywise.Domain.Evidence

/-!
# The decision ledger

`ledger.py`: a list of entries for one case, each with its number, the time it was recorded
at, the canonical text of its payload, the hash of the entry before it, and a hash of all
these. `verify_ledger` reads a list of entries from the front and stops at the first that does
not follow from the ones before; a `DecisionLedger` is loaded from entries that verify, and
appends to them.

A state of the loop of `verify_ledger` is what it goes on with, `ChainState`; an entry is
checked against it by `ChainState.check`.
-/

namespace Retrywise.Domain

open Retrywise.Foundation

/-! ## Entries -/

inductive LedgerVerificationReason where
  | ok | entryInvalid | sequenceMismatch | caseMismatch | previousHashMismatch
  | timestampInvalid | timestampRegression | payloadInvalid | payloadNotCanonical
  | entryHashInvalid | entryHashMismatch
deriving DecidableEq, Repr

def LedgerVerificationReason.value : LedgerVerificationReason → String
  | .ok => "OK"
  | .entryInvalid => "ENTRY_INVALID"
  | .sequenceMismatch => "SEQUENCE_MISMATCH"
  | .caseMismatch => "CASE_MISMATCH"
  | .previousHashMismatch => "PREVIOUS_HASH_MISMATCH"
  | .timestampInvalid => "TIMESTAMP_INVALID"
  | .timestampRegression => "TIMESTAMP_REGRESSION"
  | .payloadInvalid => "PAYLOAD_INVALID"
  | .payloadNotCanonical => "PAYLOAD_NOT_CANONICAL"
  | .entryHashInvalid => "ENTRY_HASH_INVALID"
  | .entryHashMismatch => "ENTRY_HASH_MISMATCH"

structure LedgerEntry where
  sequence : Int
  caseId : String
  recordedAt : String
  entryType : String
  payloadJson : String
  previousHash : String
  entryHash : String
deriving DecidableEq

structure LedgerVerification where
  valid : Bool
  reason : LedgerVerificationReason
  checkedEntries : Nat
  errorIndex : Option Nat := none
  expectedHash : Option String := none
  actualHash : Option String := none
deriving DecidableEq

/-- What a call on a ledger raises. -/
inductive LedgerError where
  | domain (error : DomainError)
  | ledgerIntegrity (message : String)
  | jsonDecode
  | unicodeEncode

def liftLedger {α : Type} : Except DomainError α → Except LedgerError α
  | .ok a => .ok a
  | .error e => .error (.domain e)

@[simp] theorem liftLedger_ok_iff {α : Type} {call : Except DomainError α} {a : α} :
    liftLedger call = .ok a ↔ call = .ok a := by
  cases call with
  | ok b => simp [liftLedger]
  | error e => simp [liftLedger]

def genesisLedgerHash : String := String.ofList (List.replicate 64 '0')

namespace LedgerEntry

/-- `hash_document`, with the payload that is read of the entry. -/
def hashDocument (entry : LedgerEntry) (payload : Evidence) : Evidence :=
  .mapping [
    (some "case_id", .str entry.caseId),
    (some "entry_type", .str entry.entryType),
    (some "payload", payload),
    (some "recorded_at", .str entry.recordedAt),
    (some "sequence", .int entry.sequence)]

/-- What is hashed for an entry. -/
def material (entry : LedgerEntry) : Except LedgerError ByteArray := do
  let payload ← someOr (loads entry.payloadJson) .jsonDecode
  let document ← liftLedger (evidenceJson (entry.hashDocument payload))
  raiseIf (¬entry.previousHash.toList.all fun c => c.toNat < 128) .unicodeEncode
  return document.toUTF8 ++ entry.previousHash.toUTF8

/-- `_entry_hash`. -/
def computedHash [Hashlib] (entry : LedgerEntry) : Except LedgerError String := do
  let material ← entry.material
  return Hashlib.sha256Hexdigest material

end LedgerEntry

/-! ## Verification -/

/-- What the loop of `verify_ledger` carries. -/
structure ChainState where
  index : Nat
  chainCaseId : Option String
  previousHash : String
  previousTime : Option Timestamp

namespace ChainState

def start (expectedCaseId : Option String) : ChainState where
  index := 0
  chainCaseId := expectedCaseId
  previousHash := genesisLedgerHash
  previousTime := none

def failure (state : ChainState) (reason : LedgerVerificationReason) : LedgerVerification where
  valid := false
  reason := reason
  checkedEntries := state.index
  errorIndex := some state.index

/-- A failure that tells two hashes. -/
def hashFailure (state : ChainState) (reason : LedgerVerificationReason)
    (expected actual : String) : LedgerVerification :=
  { state.failure reason with expectedHash := some expected, actualHash := some actual }

/-- One turn of the loop: the verification that is returned, or the state after the entry. -/
def check [Hashlib] (state : ChainState) (entry : LedgerEntry) :
    Except LedgerVerification ChainState := do
  raiseIf (entry.sequence ≠ state.index + 1) (state.failure .sequenceMismatch)
  raiseIf (isIdentifier entry.caseId = false ∨ isIdentifier entry.entryType = false)
    (state.failure .entryInvalid)
  let chainCaseId := state.chainCaseId.getD entry.caseId
  raiseIf (entry.caseId ≠ chainCaseId) (state.failure .caseMismatch)
  raiseIf (entry.previousHash ≠ state.previousHash)
    (state.hashFailure .previousHashMismatch state.previousHash entry.previousHash)
  let recordedAt ← someOr (parseCanonicalTimestamp entry.recordedAt).toOption
    (state.failure .timestampInvalid)
  raiseIf (state.previousTime.any (recordedAt < ·)) (state.failure .timestampRegression)
  let payload ← someOr (loads entry.payloadJson) (state.failure .payloadInvalid)
  -- what is read of a text has no time in it, so `InvalidValue` is all there is to catch
  let text ← someOr (evidenceJson payload).toOption (state.failure .payloadInvalid)
  raiseIf (text ≠ entry.payloadJson) (state.failure .payloadNotCanonical)
  raiseIf (isDigest entry.entryHash = false) (state.failure .entryHashInvalid)
  let computedHash ← someOr entry.computedHash.toOption (state.failure .payloadInvalid)
  raiseIf (entry.entryHash ≠ computedHash)
    (state.hashFailure .entryHashMismatch computedHash entry.entryHash)
  return {
    index := state.index + 1
    chainCaseId := some chainCaseId
    previousHash := entry.entryHash
    previousTime := some recordedAt }

end ChainState

/-- The check of `verify_ledger` on its argument. -/
def requireExpectedCase : Option String → Except DomainError Unit
  | none => .ok ()
  | some caseId => (requireIdentifier caseId "expected_case_id").map fun _ => ()

def verifyLedger [Hashlib] (entries : List LedgerEntry) (expectedCaseId : Option String) :
    Except DomainError LedgerVerification := do
  requireExpectedCase expectedCaseId
  return match entries.foldlM ChainState.check (.start expectedCaseId) with
    | .error verification => verification
    | .ok _ => { valid := true, reason := .ok, checkedEntries := entries.length }

/-! ## The ledger of a case -/

structure DecisionLedger where
  caseId : String
  entries : List LedgerEntry
deriving DecidableEq

namespace DecisionLedger

variable [Hashlib]

/-- `DecisionLedger(case_id, entries)`. -/
def load (caseId : String) (entries : List LedgerEntry) : Except LedgerError DecisionLedger := do
  let caseId ← liftLedger (requireIdentifier caseId "case_id")
  let verification ← liftLedger (verifyLedger entries (some caseId))
  raiseIf (verification.valid = false)
    (.ledgerIntegrity s!"cannot load invalid ledger: {verification.reason.value}")
  return ⟨caseId, entries⟩

omit [Hashlib] in
def headHash (ledger : DecisionLedger) : String :=
  (ledger.entries.getLast?.map LedgerEntry.entryHash).getD genesisLedgerHash

def verify (ledger : DecisionLedger) : Except DomainError LedgerVerification :=
  verifyLedger ledger.entries (some ledger.caseId)

omit [Hashlib] in
/-- The time of an entry is not before that of the last. -/
def requireForward (ledger : DecisionLedger) (timestamp : Timestamp) : Except LedgerError Unit :=
  match ledger.entries.getLast? with
  | none => .ok ()
  | some last => do
    let previousTime ← liftLedger (parseCanonicalTimestamp last.recordedAt)
    raiseIf (timestamp < previousTime)
      (.ledgerIntegrity "ledger timestamps cannot move backwards")

/-- The entry that `append` adds. -/
def nextEntry (ledger : DecisionLedger) (entryType : String) (payload : Evidence)
    (recordedAt : Datetime) : Except LedgerError LedgerEntry := do
  let entryType ← liftLedger (requireIdentifier entryType "entry_type")
  raiseIf (¬payload.isMapping) (.domain (.invalidValue "ledger payload must be a mapping"))
  let timestamp ← liftLedger (requireUtc recordedAt "recorded_at")
  ledger.requireForward timestamp
  let payloadJson ← liftLedger (evidenceJson payload)
  let provisional : LedgerEntry := {
    sequence := ledger.entries.length + 1
    caseId := ledger.caseId
    recordedAt := canonicalTimestamp timestamp
    entryType := entryType
    payloadJson := payloadJson
    previousHash := ledger.headHash
    entryHash := genesisLedgerHash }
  let entryHash ← provisional.computedHash
  return { provisional with entryHash := entryHash }

/-- `append`; what it raises leaves the ledger as it was up to there. -/
def append (entryType : String) (payload : Evidence) (recordedAt : Datetime) :
    ExceptT LedgerError (StateM DecisionLedger) LedgerEntry := do
  let ledger ← get
  let entry ← liftExcept (ledger.nextEntry entryType payload recordedAt)
  set { ledger with entries := ledger.entries ++ [entry] }
  return entry

end DecisionLedger

end Retrywise.Domain
