import Retrywise.ControlPlane.AuditPages

/-!
# Appends

An append that returns has put the next entry behind the chain of its case; an entry that
follows the chain, with an id and a hash that are not taken, is appended.

> `append_ok`: an entry that is appended goes on from the head of the chain.
>
> `append_complete`: an entry that follows the chain is appended.
-/

namespace Retrywise.ControlPlane.Audit

open Retrywise.Foundation Retrywise.Domain

/-- The key of a recovery case; both columns are ULIDs. -/
structure CaseKey where
  merchantId : String
  recoveryCaseId : String
  isUlid_merchantId : isUlid merchantId = true
  isUlid_recoveryCaseId : isUlid recoveryCaseId = true

/-! ## What an append did -/

/-- An entry that was appended: what it says, what it goes on from, and where it stands. -/
structure Appended [Hashlib] (table : AuditTable) (call : AppendCall) (next : AuditTable)
    (e : PersistedAuditEntry) : Prop where
  auditEntryId : e.auditEntryId = call.auditEntryId
  merchantId : e.merchantId = call.merchantId
  recoveryCaseId : e.recoveryCaseId = call.recoveryCaseId
  entryType : e.entryType = call.entryType
  actorType : e.actorType.value = call.actorType
  actorSubject : e.actorSubject = call.actorSubject
  facts : e.facts = call.facts.sorted
  createdAt : instant call.createdAt = some e.createdAt
  link : nextLink table.chainHead e.createdAt = .ok (e.sequenceNumber, e.previousEntryHash)
  inProfile : e.InProfile
  entryHash : e.entryHash = e.digest
  entries : next.entries = table.entries ++ [e.row]

theorem insertAuditEntry_eq_some {table next : AuditTable} {row inserted : AuditRow}
    {elsewhere : List String} (h : table.insertAuditEntry row elsewhere = some (next, inserted)) :
    next.entries = table.entries ++ [row] ∧ inserted = row := by
  unfold AuditTable.insertAuditEntry at h
  split_ifs at h
  obtain ⟨rfl, rfl⟩ := Prod.mk.inj (Option.some.inj h)
  exact ⟨rfl, rfl⟩

/-- The type of an entry has no blank to trim. -/
theorem textWithin_of_isEntryType {value : String} (h : isEntryType value = true) :
    textWithin 100 value = true := by
  unfold isEntryType isCode at h
  split at h
  next => exact absurd h (by simp)
  next c rest hchars =>
    simp only [Bool.and_eq_true, decide_eq_true_eq, List.all_eq_true] at h
    obtain ⟨⟨hc, hlen⟩, hrest⟩ := h
    have hblank : ∀ d ∈ c :: rest, ¬d = ' ' := by
      rintro d hd rfl
      rcases List.mem_cons.mp hd with rfl | hd
      · exact absurd hc (by decide)
      · exact absurd (hrest _ hd) (by decide)
    have hleft : (c :: rest).dropWhile (fun d => d = ' ') = c :: rest :=
      List.dropWhile_cons_of_neg (by simpa using hblank c (by simp))
    have hright : (c :: rest).rdropWhile (fun d => d = ' ') = c :: rest := by
      rw [List.rdropWhile_eq_self_iff]
      intro hne
      simpa using hblank _ (List.getLast_mem hne)
    rw [textWithin, hchars, hleft, hright]
    simp only [List.length_cons, Bool.and_eq_true, decide_eq_true_eq]
    omega

variable [Hashlib]

/-- **An entry that is appended goes on from the head of the chain.** -/
theorem append_ok {caseFound : Bool} {elsewhere : List String} {table next : AuditTable}
    {call : AppendCall} {e : PersistedAuditEntry}
    (h : append caseFound elsewhere table call = .ok (next, e)) : Appended table call next e := by
  simp only [append, bind_ok_iff, raiseIf_ok_iff, requireUlid_ok_iff, requireEntryType_ok_iff,
    requireActorType_ok_iff, requireActorSubject_ok_iff, normalizeFacts_ok_iff,
    payloadEnvelope_ok_iff, someOr_ok_iff, pure_ok_iff, requireTimestamp, readInstant_ok_iff,
    AuditEntryFields.auditEntryHashV1_ok_iff] at h
  obtain ⟨-, hid, -, hmerchant, -, hcase, -, htype, actorType, hactor, -, hsubject, facts,
    ⟨hfacts, rfl⟩, payload, ⟨-, rfl⟩, createdAt, hinstant, -, -, ⟨number, link⟩, hlink, hash,
    ⟨hprofile, hhash⟩, ⟨reached, inserted⟩, hinsert, -, -, hend⟩ := h
  obtain ⟨rfl, rfl⟩ := Prod.mk.inj hend
  obtain ⟨hentries, -⟩ := insertAuditEntry_eq_some hinsert
  rw [Json.sorted_sorted] at hentries
  exact ⟨rfl, rfl, rfl, rfl, hactor.symm, rfl, rfl, hinstant, hlink, hprofile, hhash.symm,
    hentries⟩

/-! ## A table that holds a chain -/

/-- The rows of the table are those of a chain. -/
structure HoldsChain (key : CaseKey) (table : AuditTable) (entries : List PersistedAuditEntry) :
    Prop where
  rows : table.entries = entries.map PersistedAuditEntry.row
  chain : IsChain key.merchantId key.recoveryCaseId entries

namespace HoldsChain

variable {key : CaseKey} {table next : AuditTable} {entries : List PersistedAuditEntry}
  {e : PersistedAuditEntry}

theorem nil : HoldsChain key .empty [] := ⟨rfl, isChain_nil⟩

/-- The rows are in sequence already. -/
theorem inSequence_eq (h : HoldsChain key table entries) :
    table.inSequence = entries.map PersistedAuditEntry.row := by
  have hnumbers : (table.entries.map AuditRow.sequenceNumber).Pairwise (· ≤ ·) := by
    rw [h.rows, List.map_map]
    show (entries.map fun e => e.sequenceNumber).Pairwise (· ≤ ·)
    rw [h.chain.numbers.1, numbersFrom, List.pairwise_map]
    refine List.pairwise_le_range'.imp ?_
    intro a b hab
    simpa using hab
  rw [AuditTable.inSequence, (List.pairwise_map.mp hnumbers).insertionSort_eq, h.rows]

theorem chainHead_eq (h : HoldsChain key table entries) :
    table.chainHead = entries.getLast?.map PersistedAuditEntry.row := by
  rw [AuditTable.chainHead, h.inSequence_eq, List.getLast?_map]

/-- What `nextLink` returns of an entry at the head. -/
theorem follows (h : HoldsChain key table entries) {call : AppendCall}
    (happended : Appended table call next e) (hmerchant : call.merchantId = key.merchantId)
    (hcase : call.recoveryCaseId = key.recoveryCaseId) :
    Follows key.merchantId key.recoveryCaseId entries.getLast? e := by
  have hlink := happended.link
  have hfacts : e.facts.sorted = e.facts := by rw [happended.facts, Json.sorted_sorted]
  rw [h.chainHead_eq] at hlink
  cases hlast : entries.getLast? with
  | none =>
    rw [hlast] at hlink
    obtain ⟨hnumber, hprevious⟩ := Prod.mk.inj (Except.ok.inj hlink)
    refine ⟨happended.merchantId.trans hmerchant, happended.recoveryCaseId.trans hcase,
      hnumber.symm, hprevious.symm, ?_, happended.inProfile, happended.entryHash, hfacts⟩
    intro p hp
    exact absurd hp (by simp)
  | some last =>
    rw [hlast, Option.map_some] at hlink
    simp only [nextLink, bind_ok_iff, raiseIf_ok_iff, readInstant_ok_iff, pure_ok_iff,
      Prod.mk.injEq] at hlink
    obtain ⟨-, -, headTime, hhead, -, -, -, htime, hnumber, hprevious⟩ := hlink
    refine ⟨happended.merchantId.trans hmerchant, happended.recoveryCaseId.trans hcase,
      hnumber.symm, hprevious.symm, ?_, happended.inProfile, happended.entryHash, hfacts⟩
    rintro p ⟨⟩
    rw [show last.row.createdAt = last.createdAt.toDatetime from rfl, instant_toDatetime] at hhead
    obtain rfl := Option.some.inj hhead
    exact not_lt.mp htime

/-- One append later. -/
theorem concat (h : HoldsChain key table entries) {call : AppendCall}
    (happended : Appended table call next e) (hmerchant : call.merchantId = key.merchantId)
    (hcase : call.recoveryCaseId = key.recoveryCaseId) :
    HoldsChain key next (entries ++ [e]) := by
  constructor
  · rw [happended.entries, h.rows, List.map_append, List.map_singleton]
  · exact isChain_concat.mpr ⟨h.chain, h.follows happended hmerchant hcase⟩

/-- The link of an entry that follows. -/
theorem nextLink_eq (h : HoldsChain key table entries)
    (hfollows : Follows key.merchantId key.recoveryCaseId entries.getLast? e) :
    nextLink table.chainHead e.createdAt = .ok (e.sequenceNumber, e.previousEntryHash) := by
  have hnumber := hfollows.sequenceNumber
  have hprevious := hfollows.previousEntryHash
  rw [h.chainHead_eq]
  cases hlast : entries.getLast? with
  | none =>
    rw [hlast] at hnumber hprevious
    rw [hnumber, hprevious]
    rfl
  | some last =>
    rw [hlast] at hnumber hprevious
    have hpositive : 0 < last.sequenceNumber := by
      have hnumbers := h.chain.numbers.2
      rw [hlast, Option.map_some, Option.getD_some] at hnumbers
      have hsome : entries ≠ [] := by
        rintro rfl
        exact absurd hlast (by simp)
      have hlen := List.length_pos_iff.mpr hsome
      omega
    have hdigest : isDigest last.entryHash = true :=
      hfollows.inProfile.previousEntryHash _ hprevious
    have htime := hfollows.createdAt last hlast
    simp only [Option.map_some, nextLink, bind_ok_iff, raiseIf_ok_iff, readInstant_ok_iff,
      pure_ok_iff]
    refine ⟨(), not_le.mpr hpositive, last.createdAt, instant_toDatetime _, (), not_not.mpr hdigest,
      (), not_lt.mpr htime, ?_⟩
    rw [hnumber, hprevious]
    rfl

/-- The database takes the row of an entry that follows. -/
theorem insertAuditEntry_of_follows (h : HoldsChain key table entries)
    (hfollows : Follows key.merchantId key.recoveryCaseId entries.getLast? e)
    {elsewhere : List String} (hfree : table.keysFree e.row elsewhere = true) :
    ∃ next, table.insertAuditEntry e.row elsewhere = some (next, e.row) := by
  have hnumber := hfollows.sequenceNumber
  rw [h.chain.numbers.2] at hnumber
  have hprevious := hfollows.previousEntryHash
  have hprofile := hfollows.inProfile
  have htrigger : table.enforceAuditChain e.row = true := by
    rw [AuditTable.enforceAuditChain, h.chainHead_eq]
    have hraw := hfollows.sequenceNumber
    cases hlast : entries.getLast? with
    | none =>
      rw [hlast] at hprevious hraw
      simp [PersistedAuditEntry.row, hprevious, hraw]
    | some last =>
      rw [hlast] at hprevious hraw
      simp [PersistedAuditEntry.row, hprevious, hraw]
  have hshape : (e.sequenceNumber = 1 ∧ e.previousEntryHash.isNone) ∨
      (1 < e.sequenceNumber ∧ e.previousEntryHash.isSome) := by
    rcases List.eq_nil_or_concat entries with rfl | ⟨front, last, rfl⟩
    · exact .inl ⟨by simpa using hnumber, by simp [hprevious]⟩
    · rw [List.concat_eq_append] at hnumber hprevious
      rw [List.length_append, List.length_singleton] at hnumber
      exact .inr ⟨by omega, by simp [hprevious]⟩
  have hchecks : AuditTable.checks e.row = true := by
    have hall : e.previousEntryHash.all isDigest = true := by
      cases hlink : e.previousEntryHash with
      | none => rfl
      | some hash => exact hprofile.previousEntryHash hash hlink
    have hdigest : isDigest e.entryHash = true := by
      rw [hfollows.entryHash]
      exact AuditEntryFields.isDigest_digest
    simp only [AuditTable.checks, PersistedAuditEntry.row, hprofile.auditEntryId,
      hprofile.merchantId, hprofile.recoveryCaseId, textWithin_of_isEntryType hprofile.entryType,
      hall, hdigest, envelopeOf, Bool.true_and, Bool.or_eq_true, Bool.and_eq_true]
    rcases hshape with ⟨hone, hnone⟩ | ⟨hmore, hsome⟩
    · exact .inl ⟨decide_eq_true hone, hnone⟩
    · exact .inr ⟨decide_eq_true hmore, hsome⟩
  have hfresh : 0 < e.row.sequenceNumber ∧
      ∀ other ∈ table.entries, other.sequenceNumber ≠ e.row.sequenceNumber := by
    refine ⟨hprofile.sequenceNumber, ?_⟩
    intro other hother heq
    rw [h.rows] at hother
    obtain ⟨f, hf, rfl⟩ := List.mem_map.mp hother
    have hmem : f.sequenceNumber ∈ numbersFrom 1 entries.length := by
      rw [← h.chain.numbers.1]
      exact List.mem_map_of_mem hf
    have hbounds := AuditTable.mem_numbersFrom.mp hmem
    have hsame : f.sequenceNumber = e.sequenceNumber := heq
    omega
  rw [AuditTable.insertAuditEntry, if_pos ⟨htrigger, hchecks, hfree⟩, dif_pos hfresh]
  exact ⟨_, rfl⟩

/-- **An entry that follows the chain is appended**, where its keys are free. -/
theorem append_complete (h : HoldsChain key table entries)
    (hfollows : Follows key.merchantId key.recoveryCaseId entries.getLast? e)
    {elsewhere : List String} (hfree : table.keysFree e.row elsewhere = true) {facts : Json}
    (hfacts : isFacts facts = true) (hsorted : facts.sorted = e.facts) :
    ∃ next, append true elsewhere table {
        auditEntryId := e.auditEntryId
        merchantId := key.merchantId
        recoveryCaseId := key.recoveryCaseId
        entryType := e.entryType
        actorType := e.actorType.value
        actorSubject := e.actorSubject
        facts
        createdAt := e.createdAt.toDatetime } = .ok (next, e) := by
  obtain ⟨next, hinsert⟩ := h.insertAuditEntry_of_follows hfollows hfree
  have hprofile := hfollows.inProfile
  obtain ⟨hmerchant, hcase⟩ : key.merchantId = e.merchantId ∧
      key.recoveryCaseId = e.recoveryCaseId :=
    ⟨hfollows.merchantId.symm, hfollows.recoveryCaseId.symm⟩
  refine ⟨next, ?_⟩
  simp only [append, bind_ok_iff, raiseIf_ok_iff, requireUlid_ok_iff,
    requireEntryType_ok_iff, requireActorType_ok_iff, requireActorSubject_ok_iff,
    normalizeFacts_ok_iff, payloadEnvelope_ok_iff, someOr_ok_iff, pure_ok_iff, requireTimestamp,
    readInstant_ok_iff, AuditEntryFields.auditEntryHashV1_ok_iff, hsorted, hmerchant, hcase]
  have hself : e.facts.sorted = e.facts := hfollows.facts
  refine ⟨(), hprofile.auditEntryId, (), hprofile.merchantId, (), hprofile.recoveryCaseId, (),
    hprofile.entryType, e.actorType, rfl, (), hprofile.actorSubject, e.facts, ⟨hfacts, rfl⟩,
    envelopeOf e.facts, ⟨hprofile.facts, by rw [hself]⟩, e.createdAt, instant_toDatetime _, (),
    by simp, (e.sequenceNumber, e.previousEntryHash), h.nextLink_eq hfollows, e.entryHash,
    ⟨hprofile, hfollows.entryHash.symm⟩, (next, e.row), hinsert, (), ?_, rfl⟩
  simp [PersistedAuditEntry.row]

end HoldsChain

end Retrywise.ControlPlane.Audit
