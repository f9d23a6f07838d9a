import Retrywise.Domain.LedgerChain
import Retrywise.Foundation.HashChain
import Mathlib.Data.Set.Function

/-!
# The decision ledger is tamper evident

The hash of an entry is taken over its document and the hash of the entry before it. The
document has the number of the entry in it, so the last entry alone says how long the ledger
is, and where the digest tells the hashed texts apart, it says what all of the entries are.

> `material_inj`: what is hashed for an entry determines the entry, but for its own hash.
>
> `ledger_tamper_evident`: two ledgers that verify and end in one hash are one ledger.
-/

namespace Retrywise.Domain

open Retrywise.Foundation

/-! ## What is hashed -/

namespace LedgerEntry

/-- The document of an entry, written with the normalized payload. -/
def document (entry : LedgerEntry) (payload : Json) : Json :=
  .obj [
    ("case_id", .str entry.caseId),
    ("entry_type", .str entry.entryType),
    ("payload", payload),
    ("recorded_at", .str entry.recordedAt),
    ("sequence", .int entry.sequence)]

/-- The payload is canonical and the entry before it is named by a digest: what an entry of a
ledger that verifies has. -/
structure Sealed (entry : LedgerEntry) : Prop where
  payload : ∃ payload, loads entry.payloadJson = some payload ∧
    evidenceJson payload = .ok entry.payloadJson
  isDigest_previousHash : isDigest entry.previousHash = true

variable {e f : LedgerEntry}

theorem primitive_hashDocument {payload : Evidence} {j : Json}
    (h : toCanonicalPrimitive payload = .ok j) :
    toCanonicalPrimitive (e.hashDocument payload) = .ok (e.document j) := by
  refine map_ok_iff.mpr ⟨_, ?_, rfl⟩
  simp only [canonicalMembers, toCanonicalPrimitive, h, bind, Except.bind]
  rfl

/-- What is hashed for a sealed entry. -/
theorem exists_material (h : e.Sealed) {bytes : ByteArray} (hbytes : e.material = .ok bytes) :
    ∃ j, canonicalJson j = e.payloadJson ∧
      bytes = canonicalJsonBytes (e.document j) ++ e.previousHash.toUTF8 := by
  obtain ⟨payload, hpayload, hjson⟩ := h.payload
  obtain ⟨j, hj, htext⟩ := map_ok_iff.mp hjson
  unfold material at hbytes
  rw [hpayload] at hbytes
  obtain ⟨read, hread, hbytes⟩ := bind_ok_iff.mp hbytes
  obtain ⟨text, hdocument, hbytes⟩ := bind_ok_iff.mp hbytes
  obtain ⟨_, -, hbytes⟩ := bind_ok_iff.mp hbytes
  rw [← Except.ok.inj hread, liftLedger_ok_iff] at hdocument
  obtain ⟨k, hk, rfl⟩ := map_ok_iff.mp hdocument
  rw [primitive_hashDocument hj] at hk
  rw [← Except.ok.inj hk] at hbytes
  exact ⟨j, htext, (pure_ok_iff.mp hbytes).symm⟩

theorem length_of_isDigest {digest : String} (h : isDigest digest = true) :
    digest.toList.length = 64 := by
  rw [isDigest, Bool.and_eq_true, decide_eq_true_eq] at h
  exact h.1

/-- What two equal documents have under a key. -/
theorem member_of_document {p q : Json} (h : (e.document p).sorted = (f.document q).sorted)
    (key : String) : ((e.document p).get? key).map Json.sorted =
      ((f.document q).get? key).map Json.sorted := by
  have hkeys : ∀ (entry : LedgerEntry) (payload : Json), (entry.document payload).keys.Nodup := by
    intro entry payload
    simp [document, Json.keys]
  rw [← Json.get?_sorted (hkeys e p), h, Json.get?_sorted (hkeys f q)]

/-- **What is hashed for an entry determines the entry**, but for its own hash. -/
theorem material_inj (he : e.Sealed) (hf : f.Sealed) {bytes : ByteArray}
    (hleft : e.material = .ok bytes) (hright : f.material = .ok bytes) :
    e.sequence = f.sequence ∧ e.caseId = f.caseId ∧ e.recordedAt = f.recordedAt ∧
      e.entryType = f.entryType ∧ e.payloadJson = f.payloadJson ∧
      e.previousHash = f.previousHash := by
  obtain ⟨p, hp, hbytes⟩ := exists_material he hleft
  obtain ⟨q, hq, hothers⟩ := exists_material hf hright
  have htext : canonicalJson (e.document p) ++ e.previousHash =
      canonicalJson (f.document q) ++ f.previousHash := by
    apply String.toByteArray_inj.mp
    rw [String.toByteArray_append, String.toByteArray_append]
    exact hbytes.symm.trans hothers
  have hchars := congrArg String.toList htext
  rw [String.toList_append, String.toList_append] at hchars
  -- the hash is the last 64 characters, whatever the document is
  obtain ⟨hdocument, hprevious⟩ := List.append_inj' hchars
    ((length_of_isDigest he.isDigest_previousHash).trans
      (length_of_isDigest hf.isDigest_previousHash).symm)
  have hsame := member_of_document (canonicalText_inj (String.toList_inj.mp hdocument))
  have hpayload : p.sorted = q.sorted := Option.some.inj (hsame "payload")
  refine ⟨?_, ?_, ?_, ?_, ?_, String.toList_inj.mp hprevious⟩
  · exact Json.int.inj (Option.some.inj (hsame "sequence"))
  · exact Json.str.inj (Option.some.inj (hsame "case_id"))
  · exact Json.str.inj (Option.some.inj (hsame "recorded_at"))
  · exact Json.str.inj (Option.some.inj (hsame "entry_type"))
  · rw [← hp, ← hq, canonicalJson, canonicalJson, Json.canonicalText, Json.canonicalText, hpayload]

end LedgerEntry

/-! ## The entries of a ledger that verifies -/

namespace DecisionLedger

open LedgerEntry

/-- What was hashed for these entries. -/
def hashedMaterials (entries : List LedgerEntry) : Set ByteArray :=
  {bytes | ∃ e ∈ entries, e.material = .ok bytes}

/-- The hash of the entry before this one; the first has none. -/
def previousEntry (entry : LedgerEntry) : Option String :=
  if entry.sequence = 1 then none else some entry.previousHash

theorem isDigest_genesisLedgerHash : isDigest genesisLedgerHash = true := by decide

section

variable [Hashlib] {expectedCaseId : Option String} {entries left right : List LedgerEntry}
  {state : ChainState}

/-- **Every entry is sealed**, and has the hash that is computed for it. The induction is from
the end: the entry before the last is among the ones that the hypothesis is about. -/
theorem sealed_of_foldlM
    (h : entries.foldlM ChainState.check (.start expectedCaseId) = .ok state) :
    ∀ e ∈ entries, e.Sealed ∧ isDigest e.entryHash = true ∧ e.computedHash = .ok e.entryHash := by
  induction entries using List.reverseRecOn generalizing state with
  | nil =>
    intro e he
    exact absurd he List.not_mem_nil
  | append_singleton past entry ih =>
    obtain ⟨before, hbefore, hcheck⟩ := foldlM_check_concat_iff.mp h
    obtain ⟨time, haccepts, -⟩ := ChainState.check_ok_iff.mp hcheck
    have hpast := ih hbefore
    have hlink : isDigest entry.previousHash = true := by
      rw [haccepts.previousHash, (reached_of_foldlM hbefore).previousHash]
      cases hlast : past.getLast? with
      | none => exact isDigest_genesisLedgerHash
      | some last => exact (hpast last (List.mem_of_getLast? hlast)).2.1
    intro e he
    rcases List.mem_append.mp he with he | he
    · exact hpast e he
    · rw [List.mem_singleton.mp he]
      exact ⟨⟨haccepts.payload, hlink⟩, haccepts.isDigest_entryHash, haccepts.entryHash⟩

/-- **Each names the one before it.** -/
theorem chained_of_foldlM
    (h : entries.foldlM ChainState.check (.start expectedCaseId) = .ok state) :
    Chained LedgerEntry.entryHash previousEntry none entries := by
  induction entries using List.reverseRecOn generalizing state with
  | nil => trivial
  | append_singleton past entry ih =>
    obtain ⟨before, hbefore, hcheck⟩ := foldlM_check_concat_iff.mp h
    obtain ⟨time, haccepts, -⟩ := ChainState.check_ok_iff.mp hcheck
    have hreached := reached_of_foldlM hbefore
    refine chained_concat.mpr ⟨ih hbefore, ?_⟩
    have hnumber : entry.sequence = past.length + 1 := by
      rw [haccepts.sequence, hreached.index]
    have hlink := haccepts.previousHash.trans hreached.previousHash
    -- only the first entry of a ledger has the number one
    rcases List.eq_nil_or_concat past with rfl | ⟨front, last, rfl⟩
    · have hfirst : entry.sequence = 1 := hnumber
      rw [previousEntry, if_pos hfirst]
      rfl
    · rw [List.concat_eq_append] at hnumber hlink ⊢
      rw [List.getLast?_concat] at hlink
      have hlater : entry.sequence ≠ 1 := by
        rw [hnumber, List.length_append, List.length_singleton]
        omega
      rw [previousEntry, if_neg hlater, hlink, chainHead_concat]
      rfl

theorem exists_material_of_computedHash {e : LedgerEntry} {hash : String}
    (h : e.computedHash = .ok hash) :
    ∃ bytes, e.material = .ok bytes ∧ Hashlib.sha256Hexdigest bytes = hash := by
  obtain ⟨bytes, hbytes, hdigest⟩ := bind_ok_iff.mp h
  exact ⟨bytes, hbytes, pure_ok_iff.mp hdigest⟩

/-- Where the digest tells what was hashed apart, entries with one hash are one entry. -/
theorem entry_eq_of_hash_eq
    (hinj : Set.InjOn Hashlib.sha256Hexdigest (hashedMaterials (left ++ right)))
    {e f : LedgerEntry} (he : e ∈ left) (hf : f ∈ right) (hsealed : e.Sealed) (hother : f.Sealed)
    (hcomputed : e.computedHash = .ok e.entryHash) (hrecomputed : f.computedHash = .ok f.entryHash)
    (hhash : e.entryHash = f.entryHash) : e = f := by
  obtain ⟨p, hp, hdigest⟩ := exists_material_of_computedHash hcomputed
  obtain ⟨q, hq, hsame⟩ := exists_material_of_computedHash hrecomputed
  have hbytes : p = q := by
    apply hinj ⟨e, List.mem_append_left _ he, hp⟩ ⟨f, List.mem_append_right _ hf, hq⟩
    rw [hdigest, hsame, hhash]
  rw [← hbytes] at hq
  obtain ⟨hsequence, hcase, hrecorded, htype, hpayload, hprevious⟩ :=
    material_inj hsealed hother hp hq
  cases e
  cases f
  simp_all

/-- **Two ledgers that verify and end in one hash are one ledger**, where the digest tells what
was hashed for their entries apart: each entry before the head is as it was, in its place. -/
theorem ledger_tamper_evident {leftCase rightCase : Option String} {v w : LedgerVerification}
    (hleft : verifyLedger left leftCase = .ok v) (hv : v.valid = true)
    (hright : verifyLedger right rightCase = .ok w) (hw : w.valid = true)
    (hinj : Set.InjOn Hashlib.sha256Hexdigest (hashedMaterials (left ++ right)))
    (hhead : left.getLast?.map LedgerEntry.entryHash =
      right.getLast?.map LedgerEntry.entryHash) : left = right := by
  obtain ⟨-, ⟨state, hloop⟩, -⟩ := verifyLedger_valid_iff.mp ⟨hleft, hv⟩
  obtain ⟨-, ⟨other, hrest⟩, -⟩ := verifyLedger_valid_iff.mp ⟨hright, hw⟩
  have hall : List.Forall₂ Eq left right := by
    apply agree_of_head_eq _ (chained_of_foldlM hloop) (chained_of_foldlM hrest) hhead
    intro e he f hf hhash
    obtain ⟨hsealed, -, hcomputed⟩ := sealed_of_foldlM hloop e he
    obtain ⟨hother, -, hrecomputed⟩ := sealed_of_foldlM hrest f hf
    obtain rfl := entry_eq_of_hash_eq hinj he hf hsealed hother hcomputed hrecomputed hhash
    exact ⟨rfl, rfl⟩
  exact List.forall₂_eq_eq_eq ▸ hall

/-- An entry that follows for its case follows where no case is expected. -/
theorem verifyLedger_unspecified {entry : LedgerEntry} {caseId : String}
    (h : ([] ++ [entry]).foldlM ChainState.check (.start (some caseId)) = .ok state) :
    verifyLedger [entry] none = .ok { valid := true, reason := .ok, checkedEntries := 1 } := by
  obtain ⟨before, hbefore, hcheck⟩ := foldlM_check_concat_iff.mp h
  obtain rfl := Except.ok.inj hbefore
  obtain ⟨time, haccepts, -⟩ := ChainState.check_ok_iff.mp hcheck
  have hloop : ([] ++ [entry]).foldlM ChainState.check (.start none) =
      .ok ((ChainState.start none).after entry time) := by
    refine foldlM_check_concat_iff.mpr ⟨.start none, rfl, ?_⟩
    exact ChainState.check_ok_iff.mpr ⟨time, { haccepts with caseId := rfl }, rfl⟩
  exact (verifyLedger_valid_iff.mpr
    ⟨fun other hother => absurd hother (by simp), ⟨_, hloop⟩, rfl⟩).1

end

/-! ## A ledger of one entry -/

def sampleCall : AppendCall :=
  ⟨"EvidenceRecorded", .mapping [(some "b", .int 1)], sampleTime.toDatetime⟩

/-- The ledger of one call is the one that ends in the hash of its entry. -/
theorem sample_tamper_evident :
    ∃ entry v w, (after ⟨"case_1", []⟩ [sampleCall]).verify = .ok v ∧ v.valid = true ∧
      verifyLedger [entry] none = .ok w ∧ w.valid = true ∧
      (after ⟨"case_1", []⟩ [sampleCall]).entries = [entry] := by
  have happends : (nextEntry ⟨"case_1", []⟩ sampleCall.entryType sampleCall.payload
      sampleCall.recordedAt).toOption.isSome = true := by decide +kernel
  obtain ⟨entry, hentry⟩ := Option.isSome_iff_exists.mp happends
  rw [toOption_eq_some_iff] at hentry
  have hafter : after ⟨"case_1", []⟩ [sampleCall] = ⟨"case_1", [entry]⟩ := by
    show (called ⟨"case_1", []⟩ sampleCall).2 = ⟨"case_1", [entry]⟩
    rw [called_eq, hentry]
    rfl
  have hstart : Verifiable ⟨"case_1", []⟩ := ⟨by decide, _, rfl⟩
  have hverifiable := verifiable_after hstart [sampleCall]
  rw [hafter] at hverifiable ⊢
  obtain ⟨hcase, state, hloop⟩ := hverifiable
  have hverified := (verifyLedger_valid_iff.mpr
    ⟨fun other hother => Option.some.inj hother ▸ hcase, ⟨state, hloop⟩, rfl⟩).1
  have hunspecified := verifyLedger_unspecified hloop
  have hinj : Set.InjOn Hashlib.sha256Hexdigest (hashedMaterials ([entry] ++ [entry])) := by
    rintro a ⟨e, he, ha⟩ b ⟨f, hf, hb⟩ -
    have hsame : e = f := by
      rw [List.mem_append, or_self, List.mem_singleton] at he hf
      rw [he, hf]
    rw [hsame, hb] at ha
    exact (Except.ok.inj ha).symm
  exact ⟨entry, _, _, hverified, rfl, hunspecified, rfl,
    ledger_tamper_evident hverified rfl hunspecified rfl hinj rfl⟩

end DecisionLedger

end Retrywise.Domain
