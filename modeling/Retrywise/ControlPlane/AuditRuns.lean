import Retrywise.ControlPlane.AuditAppend
import Retrywise.Foundation.Serialized

/-!
# The audit chain verifies

Transactions append to the chain of one case, each behind the chain lock until it commits or
rolls back. However they interleave, what is committed is the chain of the entries that the
committed appends returned, and the verifier gives it back for every size of page: complete
where the limit allows it, and else with the limit as the reason.

> `HoldsChain.verifyChain_eq`: the verifier returns the chain of a table, or its limit.
>
> `audit_chain_verifies`: the committed rows are a chain that verifies.
-/

namespace Retrywise.ControlPlane.Audit

open Retrywise.Foundation Retrywise.Domain

section

variable [Hashlib]

/-- **The verifier returns the chain of the table**, or the limit it is past. -/
theorem HoldsChain.verifyChain_eq {key : CaseKey} {table : AuditTable}
    {entries : List PersistedAuditEntry} (h : HoldsChain key table entries)
    {pageSize maxEntries : Nat} (hpage : 1 ≤ pageSize ∧ pageSize ≤ maxPageSize)
    (hmax : 1 ≤ maxEntries ∧ maxEntries ≤ maxVerifyEntries) :
    verifyChain key.merchantId key.recoveryCaseId true table pageSize maxEntries =
      .ok (if entries.length ≤ maxEntries then verificationSuccess entries
        else verificationFailure .limitExceeded maxEntries (some (maxEntries + 1))) := by
  refine verifyChain_of_stores key.isUlid_merchantId key.isUlid_recoveryCaseId ?_ h.chain hpage hmax
  rw [h.inSequence_eq]
  exact h.chain.stores

/-- Other sizes and limits are refused. -/
theorem verifyChain_of_refused (key : CaseKey) (table : AuditTable) {pageSize maxEntries : Int}
    (hargs : ¬(1 ≤ pageSize ∧ pageSize ≤ maxPageSize ∧ 1 ≤ maxEntries ∧
      maxEntries ≤ maxVerifyEntries)) :
    verifyChain key.merchantId key.recoveryCaseId true table pageSize maxEntries =
      .error .input := by
  have hids : requireUlid key.merchantId = .ok () ∧ requireUlid key.recoveryCaseId = .ok () :=
    ⟨requireUlid_ok_iff.mpr key.isUlid_merchantId,
      requireUlid_ok_iff.mpr key.isUlid_recoveryCaseId⟩
  rw [verifyChain, bind_of_ok hids.1, bind_of_ok hids.2, bind_of_error (raiseIf_of _ hargs)]

/-! ## Every run -/

/-- An append to the chain of a case, and the ids that are taken by entries of other cases. -/
structure CaseAppend where
  call : AppendCall
  elsewhere : List String

/-- The appends to the chain of one case. -/
def appendMachine (key : CaseKey) :
    Machine AuditTable CaseAppend PersistedAuditEntry AuditError where
  exec table command :=
    append true command.elsewhere table { command.call with
      merchantId := key.merchantId
      recoveryCaseId := key.recoveryCaseId }

/-- The entries that appends returned are the chain of the table. -/
theorem holdsChain_of_run {key : CaseKey}
    {steps : List (Step AuditTable CaseAppend PersistedAuditEntry)} {table : AuditTable}
    (hrun : (appendMachine key).Run .empty steps table) :
    HoldsChain key table (steps.map Step.out) := by
  induction hrun with
  | start => exact .nil
  | next _ hstep ih =>
    rw [List.map_append, List.map_singleton]
    exact ih.concat (append_ok hstep) rfl rfl

/-- **The committed rows are a chain that verifies**: for every interleaving of transactions
and all arguments that `verify_chain` takes; it refuses all others. -/
theorem audit_chain_verifies {τ : Type} [DecidableEq τ] {key : CaseKey} {waits idle : AuditError}
    {steps : List (Step (LockState AuditTable CaseAppend PersistedAuditEntry τ)
      (LockCommand CaseAppend τ) (LockOutput AuditTable CaseAppend PersistedAuditEntry))}
    {w : LockState AuditTable CaseAppend PersistedAuditEntry τ}
    {entries : List PersistedAuditEntry}
    (hrun : ((appendMachine key).serialized waits idle).Run (.idle .empty) steps w)
    (hentries : (Machine.committedSteps steps).map Step.out = entries) :
    w.committed.entries = entries.map PersistedAuditEntry.row ∧
      entries.map (fun e => e.sequenceNumber) = numbersFrom 1 entries.length ∧
      Chained PersistedAuditEntry.entryHash (fun e => e.previousEntryHash) none entries ∧
      entries.Pairwise (fun e f => e.createdAt ≤ f.createdAt) ∧
      ∀ pageSize maxEntries : Int,
        verifyChain key.merchantId key.recoveryCaseId true w.committed pageSize maxEntries =
          if 1 ≤ pageSize ∧ pageSize ≤ maxPageSize ∧ 1 ≤ maxEntries ∧
              maxEntries ≤ maxVerifyEntries then
            .ok (if entries.length ≤ maxEntries then verificationSuccess entries
              else verificationFailure .limitExceeded maxEntries.toNat
                (some (maxEntries.toNat + 1)))
          else .error .input := by
  have hholds : HoldsChain key w.committed entries :=
    hentries ▸ holdsChain_of_run (Machine.serialized_run hrun)
  refine ⟨hholds.rows, hholds.chain.numbers.1, hholds.chain.chained, hholds.chain.times, ?_⟩
  intro pageSize maxEntries
  by_cases hargs : 1 ≤ pageSize ∧ pageSize ≤ maxPageSize ∧ 1 ≤ maxEntries ∧
      maxEntries ≤ maxVerifyEntries
  · obtain ⟨n, rfl⟩ := Int.eq_ofNat_of_zero_le (show 0 ≤ pageSize by omega)
    obtain ⟨m, rfl⟩ := Int.eq_ofNat_of_zero_le (show 0 ≤ maxEntries by omega)
    rw [if_pos hargs, hholds.verifyChain_eq (by omega) (by omega), Int.toNat_natCast]
    congr 1
    exact if_congr (by omega) rfl rfl
  · rw [if_neg hargs, verifyChain_of_refused key w.committed hargs]

/-! ## A case with one entry -/

def sampleKey : CaseKey where
  merchantId := "01K0000000000000000000000M"
  recoveryCaseId := "01K0000000000000000000000C"
  isUlid_merchantId := by decide +kernel
  isUlid_recoveryCaseId := by decide +kernel

def sampleFields : AuditEntryFields where
  auditEntryId := "01K0000000000000000000000E"
  merchantId := sampleKey.merchantId
  recoveryCaseId := sampleKey.recoveryCaseId
  sequenceNumber := 1
  entryType := "EFFECT_AUTHORIZED"
  actorType := .system
  actorSubject := none
  facts := .obj [("action_id", .str "01K0000000000000000000000A"),
    ("reconciliation_only", .bool false)]
  previousEntryHash := none
  createdAt := ⟨5, by decide, by decide⟩

/-- The first entry of the case. -/
def sampleEntry : PersistedAuditEntry := { sampleFields with entryHash := sampleFields.digest }

theorem sampleEntry_follows :
    Follows sampleKey.merchantId sampleKey.recoveryCaseId none sampleEntry := by
  have hprofile : sampleFields.InProfile := by
    refine ⟨by decide +kernel, sampleKey.isUlid_merchantId, sampleKey.isUlid_recoveryCaseId,
      by decide, by decide +kernel, ?_, by decide +kernel, ?_⟩
    · intro subject hsubject
      exact absurd hsubject (by simp [sampleFields])
    · intro hash hhash
      exact absurd hhash (by simp [sampleFields])
  have hsorted : sampleFields.facts.sorted = sampleFields.facts := by
    have hle : "action_id" ≤ "reconciliation_only" := by decide +kernel
    simp [sampleFields, Json.sorted, Json.sortedMembers, hle]
  refine ⟨rfl, rfl, rfl, rfl, ?_, hprofile, rfl, hsorted⟩
  intro p hp
  exact absurd hp (by simp)

def sampleCommand : CaseAppend where
  call := {
    auditEntryId := sampleEntry.auditEntryId
    merchantId := sampleKey.merchantId
    recoveryCaseId := sampleKey.recoveryCaseId
    entryType := sampleEntry.entryType
    actorType := sampleEntry.actorType.value
    actorSubject := sampleEntry.actorSubject
    facts := sampleEntry.facts
    createdAt := sampleEntry.createdAt.toDatetime }
  elsewhere := []

theorem exec_sampleCommand :
    ∃ next, (appendMachine sampleKey).exec .empty sampleCommand = .ok (next, sampleEntry) ∧
      HoldsChain sampleKey next [sampleEntry] := by
  have hfree : AuditTable.empty.keysFree sampleEntry.row [] = true := rfl
  obtain ⟨next, happend⟩ := HoldsChain.nil.append_complete sampleEntry_follows hfree
    sampleEntry_follows.inProfile.facts sampleEntry_follows.facts
  exact ⟨next, happend, HoldsChain.nil.concat (append_ok happend) rfl rfl⟩

end

/-- One transaction appends and rolls back, another appends and commits. -/
theorem one_committed_append_verifies :
    ∃ steps, ∃ w : LockState AuditTable CaseAppend PersistedAuditEntry Bool,
      ((appendMachine sampleKey).serialized .input .input).Run (.idle .empty) steps w ∧
        steps.length = 4 ∧ (Machine.committedSteps steps).map Step.out = [sampleEntry] ∧
        verifyChain sampleKey.merchantId sampleKey.recoveryCaseId true w.committed 1 1 =
          .ok (verificationSuccess [sampleEntry]) := by
  obtain ⟨next, hexec, -⟩ := exec_sampleCommand
  obtain ⟨held, hheld⟩ : ∃ held : Bool → LockState AuditTable CaseAppend PersistedAuditEntry Bool,
      ∀ owner, held owner = ⟨.empty,
        some ⟨owner, [⟨.empty, sampleCommand, next, sampleEntry⟩], next⟩⟩ :=
    ⟨fun owner => ⟨.empty, some ⟨owner, [⟨.empty, sampleCommand, next, sampleEntry⟩], next⟩⟩,
      fun _ => rfl⟩
  have hperform : ∀ owner, ((appendMachine sampleKey).serialized .input .input).Takes
      ⟨.idle .empty, .perform owner sampleCommand, held owner, .performed sampleEntry⟩ := by
    intro owner
    rw [hheld owner]
    exact Machine.performBy_idle .input hexec
  have hrollback : ((appendMachine sampleKey).serialized .input .input).Takes
      ⟨held true, .rollback true, .idle .empty, .rolledBack⟩ := by
    rw [hheld true]
    rfl
  have hcommit : ((appendMachine sampleKey).serialized .input .input).Takes
      ⟨held false, .commit false, .idle next,
        .committed [⟨.empty, sampleCommand, next, sampleEntry⟩]⟩ := by
    rw [hheld false]
    rfl
  have hstart : ((appendMachine sampleKey).serialized .input .input).Run
      (.idle .empty : LockState AuditTable CaseAppend PersistedAuditEntry Bool) [] (.idle .empty) :=
    .start
  have hrun := (((hstart.next (hperform true)).next hrollback).next (hperform false)).next hcommit
  refine ⟨_, _, hrun, rfl, rfl, ?_⟩
  exact (audit_chain_verifies hrun rfl).2.2.2.2 1 1

/-- A limit above the largest one is refused, also where there is nothing to verify. -/
theorem limit_above_the_largest_is_refused :
    ¬∀ pageSize maxEntries : Int, (AuditTable.empty.entries.length : Int) ≤ maxEntries →
      ∃ verification, verifyChain sampleKey.merchantId sampleKey.recoveryCaseId true .empty
        pageSize maxEntries = .ok verification ∧ verification.valid = true := by
  intro h
  obtain ⟨verification, hverify, -⟩ := h 100 5001 (by decide)
  rw [verifyChain_of_refused sampleKey .empty (by decide)] at hverify
  exact absurd hverify (by simp)

end Retrywise.ControlPlane.Audit
