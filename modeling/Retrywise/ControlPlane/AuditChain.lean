import Retrywise.ControlPlane.PostgresAudit
import Retrywise.Foundation.HashChain

/-!
# Rows that verify

What `_verify_row` accepts after the entries verified so far: the row stores an entry that
follows them (`Follows`), that is, with the next number, the hash of the last one, a time not
before it, and the digest of its own material. A list of entries each of which follows those
before it is a chain (`IsChain`).

> `verifyRow_sound`, `verifyRow_complete`: a row verifies, with an entry, when it stores the
> entry and the entry follows.
>
> `verifyRows_sound`, `verifyRows_complete`: so for the rows of a whole chain.
-/

namespace Retrywise.ControlPlane.Audit

open Retrywise.Foundation Retrywise.Domain

/-! ## Payloads -/

/-- The two orders in which a payload can have its members. -/
theorem payload_of_keys_perm {payload : Json}
    (h : payload.keys.Perm ["audit_hash_schema_version", "facts"]) :
    ∃ version facts,
      payload = .obj [("audit_hash_schema_version", version), ("facts", facts)] ∨
        payload = .obj [("facts", facts), ("audit_hash_schema_version", version)] := by
  cases payload with
  | obj members =>
    have hlen := h.length_eq
    match members, h, hlen with
    | [(k, x), (l, y)], h, _ =>
      have hfirst : k = "audit_hash_schema_version" ∧ l = "facts" ∨
          k = "facts" ∧ l = "audit_hash_schema_version" := by
        have hperm : [k, l].Perm ["audit_hash_schema_version", "facts"] := h
        have hk : k ∈ ["audit_hash_schema_version", "facts"] := hperm.mem_iff.mp (by simp)
        have hl : l ∈ ["audit_hash_schema_version", "facts"] := hperm.mem_iff.mp (by simp)
        have hne : k ≠ l := by
          have hnodup : [k, l].Nodup := hperm.nodup_iff.mpr (by simp)
          simpa using hnodup
        simp only [List.mem_cons, List.not_mem_nil, or_false] at hk hl
        rcases hk with rfl | rfl
        · rcases hl with rfl | rfl
          · exact absurd rfl hne
          · exact .inl ⟨rfl, rfl⟩
        · rcases hl with rfl | rfl
          · exact .inr ⟨rfl, rfl⟩
          · exact absurd rfl hne
      rcases hfirst with ⟨rfl, rfl⟩ | ⟨rfl, rfl⟩
      · exact ⟨x, y, .inl rfl⟩
      · exact ⟨y, x, .inr rfl⟩
  | null => exact absurd h.length_eq (by simp [Json.keys])
  | bool _ => exact absurd h.length_eq (by simp [Json.keys])
  | int _ => exact absurd h.length_eq (by simp [Json.keys])
  | str _ => exact absurd h.length_eq (by simp [Json.keys])
  | arr _ => exact absurd h.length_eq (by simp [Json.keys])

/-- Sorted, the version stands in front of the facts, in whichever order they were written. -/
theorem sorted_payload (version facts : Json) :
    (Json.obj [("audit_hash_schema_version", version), ("facts", facts)]).sorted =
        .obj [("audit_hash_schema_version", version.sorted), ("facts", facts.sorted)] ∧
      (Json.obj [("facts", facts), ("audit_hash_schema_version", version)]).sorted =
        .obj [("audit_hash_schema_version", version.sorted), ("facts", facts.sorted)] := by
  have hle : "audit_hash_schema_version" ≤ "facts" := by decide +kernel
  have hnot : ¬"facts" ≤ "audit_hash_schema_version" := by decide +kernel
  constructor
  · rw [Json.sorted, Json.sortedMembers, Json.sortedMembers, Json.sortedMembers,
      List.orderedInsert_nil, List.orderedInsert_cons, if_pos hle]
  · rw [Json.sorted, Json.sortedMembers, Json.sortedMembers, Json.sortedMembers,
      List.orderedInsert_nil, List.orderedInsert_cons, if_neg hnot, List.orderedInsert_nil]

theorem sorted_envelopeOf (facts : Json) : (envelopeOf facts).sorted = envelopeOf facts.sorted :=
  (sorted_payload _ facts).1

/-- A payload that sorts to an envelope has its two members. -/
theorem keys_perm_of_sorted {payload facts : Json} (h : payload.sorted = envelopeOf facts) :
    payload.keys.Perm ["audit_hash_schema_version", "facts"] := by
  cases payload with
  | obj members =>
    have hmembers : Json.sortedMembers members =
        [("audit_hash_schema_version", .int hashSchemaVersion), ("facts", facts)] := by
      rw [Json.sorted] at h
      exact Json.obj.inj h
    have hperm := (Json.sortedMembers_perm members).map Prod.fst
    rw [hmembers, List.map_map] at hperm
    exact hperm.symm
  | null => exact absurd h (by simp [Json.sorted, envelopeOf])
  | bool _ => exact absurd h (by simp [Json.sorted, envelopeOf])
  | int _ => exact absurd h (by simp [Json.sorted, envelopeOf])
  | str _ => exact absurd h (by simp [Json.sorted, envelopeOf])
  | arr _ => exact absurd h (by simp [Json.sorted, envelopeOf])

@[simp] theorem orRefuse_ok_iff {α : Type} {reason : AuditVerificationReason}
    {call : Except AuditError α} {value : α} :
    orRefuse reason call = .ok value ↔ call = .ok value := by
  cases call with
  | ok a => simp [orRefuse]
  | error e => simp [orRefuse]

theorem isHashSchemaVersion_iff {version : Json} :
    isHashSchemaVersion (some version) = true ↔ version.sorted = .int hashSchemaVersion := by
  cases version with
  | int n => simp [isHashSchemaVersion, Json.sorted]
  | null => simp [isHashSchemaVersion, Json.sorted]
  | bool _ => simp [isHashSchemaVersion, Json.sorted]
  | str _ => simp [isHashSchemaVersion, Json.sorted]
  | arr _ => simp [isHashSchemaVersion, Json.sorted]
  | obj _ => simp [isHashSchemaVersion, Json.sorted]

/-- **Facts are read from the envelopes of facts**, up to the order of members. -/
theorem payloadFacts_ok_iff {payload facts : Json} :
    payloadFacts payload = .ok facts ↔
      isFacts facts = true ∧ payload.sorted = envelopeOf facts := by
  simp only [payloadFacts, bind_ok_iff, raiseIf_ok_iff, not_not, orRefuse_ok_iff,
    normalizeFacts_ok_iff]
  constructor
  · rintro ⟨-, hkeys, -, hversion, hfacts, rfl⟩
    obtain ⟨version, raw, rfl | rfl⟩ := payload_of_keys_perm hkeys
    · rw [(sorted_payload version raw).1, isHashSchemaVersion_iff.mp hversion]
      exact ⟨(isFacts_sorted raw).trans hfacts, rfl⟩
    · rw [(sorted_payload version raw).2, isHashSchemaVersion_iff.mp hversion]
      exact ⟨(isFacts_sorted raw).trans hfacts, rfl⟩
  · rintro ⟨hfacts, hpayload⟩
    have hkeys := keys_perm_of_sorted hpayload
    refine ⟨(), hkeys, (), ?_⟩
    obtain ⟨version, raw, rfl | rfl⟩ := payload_of_keys_perm hkeys
    · rw [(sorted_payload version raw).1] at hpayload
      simp only [envelopeOf, Json.obj.injEq, List.cons.injEq, Prod.mk.injEq, true_and,
        and_true] at hpayload
      obtain ⟨hversion, rfl⟩ := hpayload
      exact ⟨isHashSchemaVersion_iff.mpr hversion, (isFacts_sorted raw).symm.trans hfacts, rfl⟩
    · rw [(sorted_payload version raw).2] at hpayload
      simp only [envelopeOf, Json.obj.injEq, List.cons.injEq, Prod.mk.injEq, true_and,
        and_true] at hpayload
      obtain ⟨hversion, rfl⟩ := hpayload
      exact ⟨isHashSchemaVersion_iff.mpr hversion, (isFacts_sorted raw).symm.trans hfacts, rfl⟩

/-- The facts of an envelope are in order when the envelope is. -/
theorem facts_sorted_of_payload {payload facts : Json} (h : payload.sorted = envelopeOf facts) :
    facts.sorted = facts := by
  have htwice : envelopeOf facts.sorted = envelopeOf facts := by
    rw [← sorted_envelopeOf, ← h, Json.sorted_sorted]
  simpa [envelopeOf] using htwice

/-! ## The checks of one row -/

theorem verifyPrevious_ok_iff {row : AuditRow} {number : Nat} {previousHash link : Option String} :
    verifyPrevious row number previousHash = .ok link ↔
      (number = 1 ∧ row.previousEntryHash = none ∧ previousHash = none ∧ link = none) ∨
        (number ≠ 1 ∧ ∃ stored, row.previousEntryHash = some stored ∧ isDigest stored = true ∧
          previousHash = some stored ∧ link = some stored) := by
  by_cases hone : number = 1
  · rw [verifyPrevious, if_pos hone]
    simp only [bind_ok_iff, raiseIf_ok_iff, pure_ok_iff, not_or, Bool.not_eq_true,
      Option.isSome_eq_false_iff, Option.isNone_iff_eq_none]
    constructor
    · rintro ⟨-, ⟨hrow, hprevious⟩, hlink⟩
      exact .inl ⟨hone, hrow, hprevious, hlink.symm⟩
    · rintro (⟨-, hrow, hprevious, hlink⟩ | ⟨hne, -⟩)
      · exact ⟨(), ⟨hrow, hprevious⟩, hlink.symm⟩
      · exact absurd hone hne
  · rw [verifyPrevious, if_neg hone]
    simp only [bind_ok_iff, someOr_ok_iff, raiseIf_ok_iff, pure_ok_iff, not_not]
    constructor
    · rintro ⟨stored, hrow, -, hdigest, -, hprevious, hlink⟩
      exact .inr ⟨hone, stored, hrow, hdigest, hprevious, hlink.symm⟩
    · rintro (⟨heq, -⟩ | ⟨-, stored, hrow, hdigest, hprevious, hlink⟩)
      · exact absurd heq hone
      · exact ⟨stored, hrow, (), hdigest, (), hprevious, hlink.symm⟩

theorem verifyTime_ok_iff {row : AuditRow} {previousTime : Option Timestamp} {t : Timestamp} :
    verifyTime row previousTime = .ok t ↔
      instant row.createdAt = some t ∧ ∀ before, previousTime = some before → before ≤ t := by
  simp only [verifyTime, bind_ok_iff, readInstant_ok_iff, raiseIf_ok_iff, pure_ok_iff]
  constructor
  · rintro ⟨u, hinstant, -, hafter, rfl⟩
    refine ⟨hinstant, ?_⟩
    rintro before rfl
    simpa using hafter
  · intro h
    obtain ⟨hinstant, hafter⟩ := h
    refine ⟨t, hinstant, (), ?_, rfl⟩
    cases previousTime with
    | none => simp
    | some before => simpa using hafter before rfl

/-! ## Entries that follow -/

/-- What an entry is to a chain that ends with `previous`. -/
structure Follows [Hashlib] (merchantId recoveryCaseId : String)
    (previous : Option PersistedAuditEntry) (e : PersistedAuditEntry) : Prop where
  merchantId : e.merchantId = merchantId
  recoveryCaseId : e.recoveryCaseId = recoveryCaseId
  sequenceNumber : e.sequenceNumber = (previous.map fun p => p.sequenceNumber).getD 0 + 1
  previousEntryHash : e.previousEntryHash = previous.map PersistedAuditEntry.entryHash
  createdAt : ∀ p, previous = some p → p.createdAt ≤ e.createdAt
  inProfile : e.InProfile
  entryHash : e.entryHash = e.digest
  facts : e.facts.sorted = e.facts

/-- Every entry follows those before it. -/
def IsChain [Hashlib] (merchantId recoveryCaseId : String) (entries : List PersistedAuditEntry) :
    Prop :=
  ∀ past e rest, entries = past ++ e :: rest → Follows merchantId recoveryCaseId past.getLast? e

/-- A row and the entry that is read from it. -/
structure Stores (row : AuditRow) (e : PersistedAuditEntry) : Prop where
  auditEntryId : row.auditEntryId = e.auditEntryId
  merchantId : row.merchantId = e.merchantId
  recoveryCaseId : row.recoveryCaseId = e.recoveryCaseId
  sequenceNumber : row.sequenceNumber = e.sequenceNumber
  entryType : row.entryType = e.entryType
  actorType : row.actorType = e.actorType.value
  actorSubject : row.actorSubject = e.actorSubject
  payload : row.payload.sorted = envelopeOf e.facts
  previousEntryHash : row.previousEntryHash = e.previousEntryHash
  entryHash : row.entryHash = e.entryHash
  createdAt : instant row.createdAt = some e.createdAt

section

variable [Hashlib] {merchantId recoveryCaseId : String} {entries verified : List PersistedAuditEntry}
  {e : PersistedAuditEntry} {row : AuditRow}

theorem isChain_nil : IsChain merchantId recoveryCaseId [] := by
  intro past e rest h
  exact absurd h (by simp)

/-- A chain goes on with an entry that follows its last one. -/
theorem isChain_concat :
    IsChain merchantId recoveryCaseId (entries ++ [e]) ↔
      IsChain merchantId recoveryCaseId entries ∧
        Follows merchantId recoveryCaseId entries.getLast? e := by
  constructor
  · intro h
    refine ⟨?_, h entries e [] rfl⟩
    intro past f rest hsplit
    exact h past f (rest ++ [e]) (by rw [hsplit, List.append_assoc, List.cons_append])
  · intro h past f rest hsplit
    obtain ⟨hentries, he⟩ := h
    rcases List.eq_nil_or_concat rest with rfl | ⟨front, last, rfl⟩
    · obtain ⟨rfl, hlast⟩ := List.append_inj' hsplit rfl
      exact List.head_eq_of_cons_eq hlast ▸ he
    · rw [List.concat_eq_append, ← List.cons_append, ← List.append_assoc] at hsplit
      exact hentries past f front (List.append_inj' hsplit rfl).1

/-- The numbers `first`, `first + 1`, and so on. -/
def numbersFrom (first count : Nat) : List Int := (List.range' first count).map Int.ofNat

/-- **The entries of a chain are numbered from one without a gap.** -/
theorem IsChain.numbers (h : IsChain merchantId recoveryCaseId entries) :
    entries.map (fun e => e.sequenceNumber) = numbersFrom 1 entries.length ∧
      (entries.getLast?.map fun e => e.sequenceNumber).getD 0 = entries.length := by
  induction entries using List.reverseRecOn with
  | nil => exact ⟨rfl, rfl⟩
  | append_singleton past e ih =>
    obtain ⟨hpast, he⟩ := isChain_concat.mp h
    obtain ⟨hnumbers, hlast⟩ := ih hpast
    have hseq : e.sequenceNumber = past.length + 1 := he.sequenceNumber.trans (by rw [hlast])
    constructor
    · rw [List.map_append, hnumbers, List.map_singleton, hseq, List.length_append,
        List.length_singleton, numbersFrom, numbersFrom, List.range'_concat, List.map_append,
        List.map_singleton]
      congr 2
      show (past.length : Int) + 1 = ((1 + 1 * past.length : Nat) : Int)
      omega
    · simp [hseq]

/-- **Each is linked to the one before it.** -/
theorem IsChain.chained (h : IsChain merchantId recoveryCaseId entries) :
    Chained PersistedAuditEntry.entryHash (fun e => e.previousEntryHash) none entries := by
  induction entries using List.reverseRecOn with
  | nil => trivial
  | append_singleton past e ih =>
    obtain ⟨hpast, he⟩ := isChain_concat.mp h
    exact chained_concat.mpr ⟨ih hpast, he.previousEntryHash⟩

/-- **Time does not go back along a chain.** -/
theorem IsChain.times (h : IsChain merchantId recoveryCaseId entries) :
    entries.Pairwise fun e f => e.createdAt ≤ f.createdAt := by
  induction entries using List.reverseRecOn with
  | nil => exact .nil
  | append_singleton past e ih =>
    obtain ⟨hpast, he⟩ := isChain_concat.mp h
    have hpairs := ih hpast
    rw [List.pairwise_append]
    refine ⟨hpairs, List.pairwise_singleton _ _, ?_⟩
    intro f hf g hg
    rw [List.mem_singleton.mp hg]
    -- the last entry before `e` is not before any other
    rcases List.eq_nil_or_concat past with rfl | ⟨front, last, rfl⟩
    · exact absurd hf List.not_mem_nil
    · rw [List.concat_eq_append] at hf he hpairs
      have hlast : last.createdAt ≤ e.createdAt := he.createdAt last (by simp)
      rcases List.mem_append.mp hf with hf | hf
      · exact le_trans ((List.pairwise_append.mp hpairs).2.2 f hf last (by simp)) hlast
      · rw [List.mem_singleton.mp hf]
        exact hlast

/-! ## One row -/

/-- **A row that verifies stores an entry that follows.** -/
theorem verifyRow_sound
    (hlast : (verified.getLast?.map fun p => p.sequenceNumber).getD 0 = verified.length)
    (h : verifyRow merchantId recoveryCaseId row (verified.length + 1)
      (verified.getLast?.map PersistedAuditEntry.entryHash)
      (verified.getLast?.map fun p => p.createdAt) = .ok e) :
    Stores row e ∧ Follows merchantId recoveryCaseId verified.getLast? e := by
  simp only [verifyRow, bind_ok_iff, raiseIf_ok_iff, not_not, orRefuse_ok_iff,
    requireUlid_ok_iff, requireEntryType_ok_iff, requireActorType_ok_iff,
    requireActorSubject_ok_iff, verifyTime_ok_iff, pure_ok_iff,
    AuditEntryFields.auditEntryHashV1_ok_iff] at h
  obtain ⟨-, hmerchant, -, hcase, -, hnumber, -, hid, -, htype, actorType, hactor, -, hsubject,
    facts, hfacts, link, hlink, createdAt, ⟨hinstant, hafter⟩, -, hdigest, computed,
    ⟨hprofile, hcomputed⟩, -, hhash, rfl⟩ := h
  obtain ⟨-, hpayload⟩ := payloadFacts_ok_iff.mp hfacts
  have hsorted := facts_sorted_of_payload hpayload
  have hlinked : row.previousEntryHash = link ∧
      link = verified.getLast?.map PersistedAuditEntry.entryHash := by
    rcases verifyPrevious_ok_iff.mp hlink with ⟨-, hrow, hprevious, rfl⟩ | ⟨-, stored, hrow, -,
      hprevious, rfl⟩
    · exact ⟨hrow, hprevious.symm⟩
    · exact ⟨hrow, hprevious.symm⟩
  constructor
  · exact ⟨rfl, hmerchant, hcase, hnumber, rfl, hactor, rfl, hpayload, hlinked.1, hhash, hinstant⟩
  · refine ⟨rfl, rfl, ?_, hlinked.2, ?_, hprofile, hcomputed.symm, hsorted⟩
    · rw [hlast]
      push_cast
      rfl
    · intro p hp
      exact hafter p.createdAt (by rw [hp, Option.map_some])

/-- **A row that stores an entry that follows verifies**, with that entry. -/
theorem verifyRow_complete
    (hlast : (verified.getLast?.map fun p => p.sequenceNumber).getD 0 = verified.length)
    (hstores : Stores row e) (h : Follows merchantId recoveryCaseId verified.getLast? e) :
    verifyRow merchantId recoveryCaseId row (verified.length + 1)
      (verified.getLast?.map PersistedAuditEntry.entryHash)
      (verified.getLast?.map fun p => p.createdAt) = .ok e := by
  obtain ⟨rfl, rfl, hnumber, hlink, hafter, hprofile, hhash, -⟩ := h
  have hnumber : e.sequenceNumber = ((verified.length + 1 : Nat) : Int) := by
    rw [hnumber, hlast]
    push_cast
    rfl
  have hprevious : verifyPrevious row (verified.length + 1)
      (verified.getLast?.map PersistedAuditEntry.entryHash) = .ok e.previousEntryHash := by
    rw [verifyPrevious_ok_iff, hstores.previousEntryHash]
    rcases List.eq_nil_or_concat verified with rfl | ⟨front, last, rfl⟩
    · exact .inl ⟨rfl, hlink, rfl, hlink⟩
    · rw [List.concat_eq_append] at hlink ⊢
      rw [List.getLast?_concat, Option.map_some] at hlink ⊢
      have hdigest := hprofile.previousEntryHash _ hlink
      exact .inr ⟨by simp, last.entryHash, hlink, hdigest, rfl, hlink⟩
  have htime : verifyTime row (verified.getLast?.map fun p => p.createdAt) = .ok e.createdAt := by
    rw [verifyTime_ok_iff]
    refine ⟨hstores.createdAt, ?_⟩
    intro before hbefore
    obtain ⟨p, hp, rfl⟩ := Option.map_eq_some_iff.mp hbefore
    exact hafter p hp
  have hfacts : payloadFacts row.payload = .ok e.facts :=
    payloadFacts_ok_iff.mpr ⟨hprofile.facts, hstores.payload⟩
  simp only [verifyRow, bind_ok_iff, raiseIf_ok_iff, not_not, orRefuse_ok_iff,
    requireUlid_ok_iff, requireEntryType_ok_iff, requireActorType_ok_iff,
    requireActorSubject_ok_iff, pure_ok_iff, AuditEntryFields.auditEntryHashV1_ok_iff,
    hstores.auditEntryId, hstores.merchantId, hstores.recoveryCaseId, hstores.sequenceNumber,
    hstores.entryType, hstores.actorType, hstores.actorSubject, hstores.entryHash]
  refine ⟨(), trivial, (), trivial, (), hnumber, (), hprofile.auditEntryId, (),
    hprofile.entryType, e.actorType, rfl, (), hprofile.actorSubject, e.facts, hfacts, e.previousEntryHash, hprevious,
    e.createdAt, htime, (), ?_, e.entryHash, ?_, (), rfl, ?_⟩
  · rw [hhash]
    exact AuditEntryFields.isDigest_digest
  · rw [← hnumber]
    exact ⟨hprofile, hhash.symm⟩
  · rw [← hnumber]

/-! ## The rows of a chain -/

theorem verifyRows_append {rows more : List AuditRow} :
    verifyRows merchantId recoveryCaseId verified (rows ++ more) =
      verifyRows merchantId recoveryCaseId verified rows >>= fun reached =>
        verifyRows merchantId recoveryCaseId reached more := by
  induction rows generalizing verified with
  | nil => rfl
  | cons row rest ih =>
    rw [List.cons_append, verifyRows, verifyRows]
    split
    next entry hentry => exact ih
    next fault hfault => rfl

/-- **Rows that verify store a chain**, behind what was verified before. -/
theorem verifyRows_sound {rows : List AuditRow} {reached : List PersistedAuditEntry}
    (hchain : IsChain merchantId recoveryCaseId verified)
    (h : verifyRows merchantId recoveryCaseId verified rows = .ok reached) :
    IsChain merchantId recoveryCaseId reached ∧
      ∃ entries, reached = verified ++ entries ∧ List.Forall₂ Stores rows entries := by
  induction rows generalizing verified with
  | nil =>
    obtain rfl := Except.ok.inj h
    exact ⟨hchain, [], (List.append_nil _).symm, .nil⟩
  | cons row rest ih =>
    rw [verifyRows] at h
    split at h
    next e he =>
      obtain ⟨hstores, hfollows⟩ := verifyRow_sound hchain.numbers.2 he
      obtain ⟨hreached, entries, hentries, hrest⟩ :=
        ih (isChain_concat.mpr ⟨hchain, hfollows⟩) h
      refine ⟨hreached, e :: entries, ?_, .cons hstores hrest⟩
      rw [hentries, List.append_assoc, List.singleton_append]
    next => exact absurd h (by simp)

/-- **Rows that store a chain verify**, entry by entry. -/
theorem verifyRows_complete {rows : List AuditRow} (hstores : List.Forall₂ Stores rows entries)
    (hchain : IsChain merchantId recoveryCaseId (verified ++ entries)) :
    verifyRows merchantId recoveryCaseId verified rows = .ok (verified ++ entries) := by
  induction hstores generalizing verified with
  | nil => rw [List.append_nil, verifyRows]
  | @cons row e rest others hrow _ ih =>
    have hfollows : Follows merchantId recoveryCaseId verified.getLast? e :=
      hchain verified e others rfl
    have hverified : IsChain merchantId recoveryCaseId verified := by
      intro past f more hsplit
      exact hchain past f (more ++ e :: others)
        (by rw [hsplit, List.append_assoc, List.cons_append])
    rw [List.append_cons] at hchain ⊢
    rw [verifyRows, verifyRow_complete hverified.numbers.2 hrow hfollows]
    exact ih hchain

/-- The rows of a chain store it. -/
theorem IsChain.stores (h : IsChain merchantId recoveryCaseId entries) :
    List.Forall₂ Stores (entries.map PersistedAuditEntry.row) entries := by
  rw [List.forall₂_map_left_iff, List.forall₂_same]
  intro e he
  obtain ⟨past, rest, hsplit⟩ := List.append_of_mem he
  have hfacts := (h past e rest hsplit).facts
  refine ⟨rfl, rfl, rfl, rfl, rfl, rfl, rfl, ?_, rfl, rfl, instant_toDatetime _⟩
  show (envelopeOf e.facts).sorted = envelopeOf e.facts
  rw [sorted_envelopeOf, hfacts]

end

end Retrywise.ControlPlane.Audit
