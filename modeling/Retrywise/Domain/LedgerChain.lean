import Retrywise.Domain.DecisionLedger

/-!
# What is appended verifies

An entry follows from the state of the verification if it has the next number, names the case
and the head of the chain, is not older than the last entry, has a payload in canonical form
and the hash of all that (`ChainState.Accepts`). The entry that `append` builds does: its
payload and its time were written by the writers that the verification reads back, and its
hash was taken over the same document.

> `check_ok_iff`: an entry passes exactly when it follows from the entries before it.
>
> `ledger_stays_verifiable`: whatever is called, a ledger that was loaded verifies, with all
> its entries, and is loaded again as it is.
-/

namespace Retrywise.Domain

open Retrywise.Foundation

section

variable [Hashlib]

namespace ChainState

/-- The entry follows, recorded at this time. -/
structure Accepts (state : ChainState) (entry : LedgerEntry) (time : Timestamp) : Prop where
  sequence : entry.sequence = state.index + 1
  isIdentifier_caseId : isIdentifier entry.caseId = true
  isIdentifier_entryType : isIdentifier entry.entryType = true
  caseId : entry.caseId = state.chainCaseId.getD entry.caseId
  previousHash : entry.previousHash = state.previousHash
  recordedAt : parseCanonicalTimestamp entry.recordedAt = .ok time
  forward : ∀ earlier, state.previousTime = some earlier → earlier ≤ time
  payload : ∃ payload, loads entry.payloadJson = some payload ∧
    evidenceJson payload = .ok entry.payloadJson
  isDigest_entryHash : isDigest entry.entryHash = true
  entryHash : entry.computedHash = .ok entry.entryHash

omit [Hashlib] in
/-- The state after an entry. -/
def after (state : ChainState) (entry : LedgerEntry) (time : Timestamp) : ChainState where
  index := state.index + 1
  chainCaseId := some (state.chainCaseId.getD entry.caseId)
  previousHash := entry.entryHash
  previousTime := some time

/-- **An entry passes exactly when it follows from the entries before it.** -/
theorem check_ok_iff {state next : ChainState} {entry : LedgerEntry} :
    state.check entry = .ok next ↔
      ∃ time, state.Accepts entry time ∧ next = state.after entry time := by
  have hbackwards : ∀ time, (state.previousTime.any (time < ·) = true) ↔
      ¬∀ earlier, state.previousTime = some earlier → earlier ≤ time := by
    intro time
    cases state.previousTime with
    | none => simp
    | some earlier => simp
  simp only [check, bind_ok_iff, raiseIf_ok_iff, someOr_ok_iff, toOption_eq_some_iff, pure_ok_iff,
    not_not, not_or, hbackwards, Bool.not_eq_false, exists_const]
  constructor
  · rintro ⟨hsequence, ⟨hcase, htype⟩, hsame, hprevious, time, htime, hforward, payload, hpayload,
      text, htext, hcanonical, hdigest, hash, hhash, hequal, rfl⟩
    subst hcanonical hequal
    exact ⟨time, ⟨hsequence, hcase, htype, hsame, hprevious, htime, hforward,
      ⟨payload, hpayload, htext⟩, hdigest, hhash⟩, rfl⟩
  · rintro ⟨time, ⟨hsequence, hcase, htype, hsame, hprevious, htime, hforward,
      ⟨payload, hpayload, htext⟩, hdigest, hhash⟩, rfl⟩
    exact ⟨hsequence, ⟨hcase, htype⟩, hsame, hprevious, time, htime, hforward, payload, hpayload,
      _, htext, rfl, hdigest, _, hhash, rfl, rfl⟩

end ChainState

/-! ## The loop -/

/-- What the loop has reached after these entries. -/
structure Reached (expectedCaseId : Option String) (entries : List LedgerEntry)
    (state : ChainState) : Prop where
  index : state.index = entries.length
  chainCaseId : ∀ caseId, expectedCaseId = some caseId → state.chainCaseId = some caseId
  previousHash : state.previousHash =
    (entries.getLast?.map LedgerEntry.entryHash).getD genesisLedgerHash
  previousTime : state.previousTime =
    entries.getLast?.bind fun last => (parseCanonicalTimestamp last.recordedAt).toOption

variable {expectedCaseId : Option String} {entries : List LedgerEntry} {state : ChainState}
  {entry : LedgerEntry}

/-- One more entry has to pass where the loop is. -/
theorem foldlM_check_concat_iff {last : ChainState} :
    (entries ++ [entry]).foldlM ChainState.check (.start expectedCaseId) = .ok last ↔
      ∃ state, entries.foldlM ChainState.check (.start expectedCaseId) = .ok state ∧
        state.check entry = .ok last := by
  rw [List.foldlM_append, bind_ok_iff]
  simp only [List.foldlM_cons, List.foldlM_nil, bind_pure]

/-- The induction is on the entries from the end, as the state is about the last of them. -/
theorem reached_of_foldlM
    (h : entries.foldlM ChainState.check (.start expectedCaseId) = .ok state) :
    Reached expectedCaseId entries state := by
  induction entries using List.reverseRecOn generalizing state with
  | nil =>
    rw [← Except.ok.inj h]
    exact ⟨rfl, fun caseId hcase => hcase, rfl, rfl⟩
  | append_singleton entries entry ih =>
    obtain ⟨before, hbefore, hcheck⟩ := foldlM_check_concat_iff.mp h
    obtain ⟨time, haccepts, rfl⟩ := ChainState.check_ok_iff.mp hcheck
    have hreached := ih hbefore
    refine ⟨?_, ?_, ?_, ?_⟩
    · rw [List.length_append, ← hreached.index]
      rfl
    · intro caseId hcase
      show some (before.chainCaseId.getD entry.caseId) = some caseId
      rw [hreached.chainCaseId caseId hcase, Option.getD_some]
    · rw [List.getLast?_concat]
      rfl
    · rw [List.getLast?_concat, Option.bind_some, haccepts.recordedAt]
      rfl

/-- What stops the loop is no good verification. -/
theorem raisesOnly_check : RaisesOnly (fun stopped => stopped.valid = false)
    (state.check entry) := by
  unfold ChainState.check
  refine RaisesOnly.bind (raisesOnly_raiseIf rfl) fun _ _ => ?_
  refine RaisesOnly.bind (raisesOnly_raiseIf rfl) fun _ _ => ?_
  refine RaisesOnly.bind (raisesOnly_raiseIf rfl) fun _ _ => ?_
  refine RaisesOnly.bind (raisesOnly_raiseIf rfl) fun _ _ => ?_
  refine RaisesOnly.bind (raisesOnly_someOr rfl) fun _ _ => ?_
  refine RaisesOnly.bind (raisesOnly_raiseIf rfl) fun _ _ => ?_
  refine RaisesOnly.bind (raisesOnly_someOr rfl) fun _ _ => ?_
  refine RaisesOnly.bind (raisesOnly_someOr rfl) fun _ _ => ?_
  refine RaisesOnly.bind (raisesOnly_raiseIf rfl) fun _ _ => ?_
  refine RaisesOnly.bind (raisesOnly_raiseIf rfl) fun _ _ => ?_
  refine RaisesOnly.bind (raisesOnly_someOr rfl) fun _ _ => ?_
  exact RaisesOnly.bind (raisesOnly_raiseIf rfl) fun _ _ => .of_ok rfl

theorem raisesOnly_foldlM : RaisesOnly (fun stopped => stopped.valid = false)
    (entries.foldlM ChainState.check state) := by
  induction entries generalizing state with
  | nil => exact .of_ok rfl
  | cons entry rest ih =>
    rw [List.foldlM_cons]
    exact raisesOnly_check.bind fun _ _ => ih

/-- A verification is good exactly when the loop gets through. -/
theorem verifyLedger_valid_iff {verification : LedgerVerification} :
    verifyLedger entries expectedCaseId = .ok verification ∧ verification.valid = true ↔
      (∀ caseId, expectedCaseId = some caseId → isIdentifier caseId = true) ∧
        (∃ state, entries.foldlM ChainState.check (.start expectedCaseId) = .ok state) ∧
        verification =
          { valid := true, reason := .ok, checkedEntries := entries.length } := by
  have hidentifier : requireExpectedCase expectedCaseId = .ok () ↔
      ∀ caseId, expectedCaseId = some caseId → isIdentifier caseId = true := by
    cases expectedCaseId with
    | none => simp [requireExpectedCase]
    | some caseId => simp [requireExpectedCase]
  constructor
  · rintro ⟨h, hvalid⟩
    obtain ⟨_, hcase, h⟩ := bind_ok_iff.mp h
    refine ⟨hidentifier.mp hcase, ?_⟩
    cases hloop : entries.foldlM ChainState.check (.start expectedCaseId) with
    | error stopped =>
      rw [hloop] at h
      rw [← pure_ok_iff.mp h, raisesOnly_foldlM stopped hloop] at hvalid
      exact absurd hvalid (by decide)
    | ok last =>
      rw [hloop] at h
      exact ⟨⟨last, rfl⟩, (pure_ok_iff.mp h).symm⟩
  · rintro ⟨hcase, ⟨last, hloop⟩, rfl⟩
    refine ⟨bind_ok_iff.mpr ⟨(), hidentifier.mpr hcase, ?_⟩, rfl⟩
    rw [hloop]
    rfl

/-! ## The ledger -/

namespace DecisionLedger

variable {caseId : String} {ledger : DecisionLedger}

/-- A ledger is loaded from entries that verify, and holds them. -/
theorem load_ok_iff : load caseId entries = .ok ledger ↔
    isIdentifier caseId = true ∧
      (∃ state, entries.foldlM ChainState.check (.start (some caseId)) = .ok state) ∧
        ledger = ⟨caseId, entries⟩ := by
  simp only [load, bind_ok_iff, liftLedger_ok_iff, requireIdentifier_ok_iff, raiseIf_ok_iff,
    pure_ok_iff, Bool.not_eq_false, exists_const]
  constructor
  · rintro ⟨_, ⟨hcase, rfl⟩, verification, hverification, hvalid, rfl⟩
    obtain ⟨-, hloop, -⟩ := verifyLedger_valid_iff.mp ⟨hverification, hvalid⟩
    exact ⟨hcase, hloop, rfl⟩
  · rintro ⟨hcase, hloop, rfl⟩
    have hcases : ∀ other, some caseId = some other → isIdentifier other = true := by
      intro other hother
      rw [← Option.some.inj hother]
      exact hcase
    obtain ⟨hverification, hvalid⟩ := verifyLedger_valid_iff.mpr ⟨hcases, hloop, rfl⟩
    exact ⟨caseId, ⟨hcase, rfl⟩, _, hverification, hvalid, rfl⟩

/-- **The entry that is appended follows from the entries before it.** -/
theorem accepts_of_nextEntry {entryType : String} {payload : Evidence} {recordedAt : Datetime}
    (hcase : isIdentifier ledger.caseId = true)
    (hreached : Reached (some ledger.caseId) ledger.entries state)
    (h : ledger.nextEntry entryType payload recordedAt = .ok entry) :
    ∃ time, state.Accepts entry time := by
  unfold nextEntry at h
  obtain ⟨_, htype, h⟩ := bind_ok_iff.mp h
  obtain ⟨_, -, h⟩ := bind_ok_iff.mp h
  obtain ⟨timestamp, -, h⟩ := bind_ok_iff.mp h
  obtain ⟨_, hforward, h⟩ := bind_ok_iff.mp h
  obtain ⟨payloadJson, hpayload, h⟩ := bind_ok_iff.mp h
  obtain ⟨hash, hhash, h⟩ := bind_ok_iff.mp h
  obtain ⟨hentryType, rfl⟩ := requireIdentifier_ok_iff.mp (liftLedger_ok_iff.mp htype)
  obtain ⟨j, hprimitive, rfl⟩ := map_ok_iff.mp (liftLedger_ok_iff.mp hpayload)
  obtain ⟨read, hread, -, hagain⟩ := loads_canonicalJson hprimitive
  rw [← pure_ok_iff.mp h]
  refine ⟨timestamp, ?_, hcase, hentryType, ?_, ?_, ?_, ?_, ⟨read, hread, hagain⟩, ?_, hhash⟩
  · show (ledger.entries.length : Int) + 1 = state.index + 1
    rw [hreached.index]
  · show ledger.caseId = state.chainCaseId.getD ledger.caseId
    rw [hreached.chainCaseId _ rfl, Option.getD_some]
  · exact hreached.previousHash.symm
  · exact parseCanonicalTimestamp_canonicalTimestamp timestamp
  · intro earlier hearlier
    rw [hreached.previousTime] at hearlier
    obtain ⟨last, hlast, hparsed⟩ := Option.bind_eq_some_iff.mp hearlier
    unfold requireForward at hforward
    rw [hlast] at hforward
    obtain ⟨previousTime, hprevious, hnot⟩ := bind_ok_iff.mp hforward
    rw [liftLedger_ok_iff, toOption_eq_some_iff.mp hparsed] at hprevious
    rw [Except.ok.inj hprevious]
    exact not_lt.mp (raiseIf_ok_iff.mp hnot)
  · obtain ⟨material, -, hdigest⟩ := bind_ok_iff.mp hhash
    rw [← pure_ok_iff.mp hdigest]
    exact Hashlib.isDigest_sha256Hexdigest material

/-! ## Calls of `append` -/

omit [Hashlib] in
/-- The arguments of `append`. -/
structure AppendCall where
  entryType : String
  payload : Evidence
  recordedAt : Datetime

/-- What a call returns or raises, and the ledger it leaves. -/
def called (ledger : DecisionLedger) (call : AppendCall) :
    Except LedgerError LedgerEntry × DecisionLedger :=
  ((append call.entryType call.payload call.recordedAt).run.run ledger).run

/-- The ledger after these calls. -/
def after (ledger : DecisionLedger) (calls : List AppendCall) : DecisionLedger :=
  calls.foldl (fun ledger call => (ledger.called call).2) ledger

theorem called_eq (call : AppendCall) :
    ledger.called call = match ledger.nextEntry call.entryType call.payload call.recordedAt with
      | .error e => (.error e, ledger)
      | .ok entry => (.ok entry, { ledger with entries := ledger.entries ++ [entry] }) := by
  have hcalled : ledger.called call =
      ((liftExcept (ledger.nextEntry call.entryType call.payload call.recordedAt) >>=
        fun entry => do
          set { ledger with entries := ledger.entries ++ [entry] }
          return entry : ExceptT LedgerError (StateM DecisionLedger) LedgerEntry).run.run
            ledger).run := rfl
  rw [hcalled]
  cases ledger.nextEntry call.entryType call.payload call.recordedAt with
  | error e => rfl
  | ok entry => rfl

/-- A call raises and leaves the ledger as it was, or appends the next entry. -/
theorem called_cases (call : AppendCall) :
    (∃ e, ledger.called call = (.error e, ledger)) ∨
      ∃ entry, ledger.nextEntry call.entryType call.payload call.recordedAt = .ok entry ∧
        ledger.called call =
          (.ok entry, { ledger with entries := ledger.entries ++ [entry] }) := by
  rw [called_eq]
  cases ledger.nextEntry call.entryType call.payload call.recordedAt with
  | error e => exact .inl ⟨e, rfl⟩
  | ok entry => exact .inr ⟨entry, rfl, rfl⟩

/-- What a ledger keeps: its case is an identifier, and its entries verify. -/
def Verifiable (ledger : DecisionLedger) : Prop :=
  isIdentifier ledger.caseId = true ∧
    ∃ state, ledger.entries.foldlM ChainState.check (.start (some ledger.caseId)) = .ok state

/-- One call keeps a ledger verifiable. -/
theorem verifiable_called (h : ledger.Verifiable) (call : AppendCall) :
    (ledger.called call).2.Verifiable := by
  obtain ⟨hcase, state, hloop⟩ := h
  rcases ledger.called_cases call with ⟨e, hraised⟩ | ⟨entry, hnext, hcalled⟩
  · rw [hraised]
    exact ⟨hcase, state, hloop⟩
  · rw [hcalled]
    obtain ⟨time, haccepts⟩ := accepts_of_nextEntry hcase (reached_of_foldlM hloop) hnext
    exact ⟨hcase, _, foldlM_check_concat_iff.mpr
      ⟨state, hloop, ChainState.check_ok_iff.mpr ⟨time, haccepts, rfl⟩⟩⟩

/-- So do any number of them. -/
theorem verifiable_after (h : ledger.Verifiable) (calls : List AppendCall) :
    (ledger.after calls).Verifiable := by
  induction calls generalizing ledger with
  | nil => exact h
  | cons call rest ih => exact ih (verifiable_called h call)

theorem caseId_after (calls : List AppendCall) : (ledger.after calls).caseId = ledger.caseId := by
  induction calls generalizing ledger with
  | nil => rfl
  | cons call rest ih =>
    show ((ledger.called call).2.after rest).caseId = ledger.caseId
    rw [ih]
    rcases ledger.called_cases call with ⟨e, hraised⟩ | ⟨entry, -, hcalled⟩
    · rw [hraised]
    · rw [hcalled]

/-- **Whatever is called, a ledger that was loaded verifies, with all its entries, and is loaded
again as it is**; a call that raises leaves it as it was, and any other appends one entry. -/
theorem ledger_stays_verifiable (hload : load caseId entries = .ok ledger)
    (calls : List AppendCall) :
    (∀ call, (∃ e, (ledger.after calls).called call = (.error e, ledger.after calls)) ∨
      ∃ entry, (ledger.after calls).called call = (.ok entry,
        { ledger.after calls with entries := (ledger.after calls).entries ++ [entry] })) ∧
      (ledger.after calls).verify = .ok
        { valid := true, reason := .ok, checkedEntries := (ledger.after calls).entries.length } ∧
      load caseId (ledger.after calls).entries = .ok (ledger.after calls) := by
  obtain ⟨hcase, hloop, rfl⟩ := load_ok_iff.mp hload
  have hstart : Verifiable ⟨caseId, entries⟩ := ⟨hcase, hloop⟩
  obtain ⟨-, hafter⟩ := verifiable_after hstart calls
  rw [caseId_after] at hafter
  have hcases : ∀ other, some caseId = some other → isIdentifier other = true := by
    intro other hother
    rw [← Option.some.inj hother]
    exact hcase
  refine ⟨fun call => ?_, ?_, ?_⟩
  · rcases called_cases call with hraised | ⟨entry, -, hcalled⟩
    · exact .inl hraised
    · exact .inr ⟨entry, hcalled⟩
  · have hverified := (verifyLedger_valid_iff.mpr ⟨hcases, hafter, rfl⟩).1
    rw [verify, caseId_after]
    exact hverified
  · refine load_ok_iff.mpr ⟨hcase, hafter, ?_⟩
    have hsame : (DecisionLedger.after ⟨caseId, entries⟩ calls).caseId = caseId :=
      caseId_after calls
    generalize DecisionLedger.after ⟨caseId, entries⟩ calls = final at hsame ⊢
    rw [← hsame]

end DecisionLedger

end

namespace DecisionLedger

def sampleTime : Timestamp := ⟨63902908800000000, by decide, by decide⟩

/-- An entry with a nested payload, and one that is not newer. -/
def sampleCalls : List AppendCall := [
  ⟨"EvidenceRecorded", .mapping [(some "b", .sequence [.int (-2), .none]),
    (some "a", .str "caf\u00e9")], sampleTime.toDatetime⟩,
  ⟨"EvidenceRecorded", .mapping [(some "score", .decimal (some ⟨false, 90, -2⟩))],
    sampleTime.toDatetime⟩]

/-- A ledger that starts empty verifies after these calls. -/
theorem sample_stays_verifiable :
    load "case_1" [] = .ok ⟨"case_1", []⟩ ∧
      (after ⟨"case_1", []⟩ sampleCalls).verify = .ok
        { valid := true, reason := .ok,
          checkedEntries := (after ⟨"case_1", []⟩ sampleCalls).entries.length } := by
  have hload : load "case_1" [] = .ok ⟨"case_1", []⟩ :=
    load_ok_iff.mpr ⟨by decide, ⟨_, rfl⟩, rfl⟩
  exact ⟨hload, (ledger_stays_verifiable hload sampleCalls).2.1⟩

end DecisionLedger

end Retrywise.Domain
