import Retrywise.ControlPlane.AuditChain

/-!
# Pages do not show

`verify_chain` reads a chain page by page and stops at a limit, which it probes with a page of
one row. Whatever the size of the pages, it verifies the rows of the case in the order of their
numbers, up to the limit, and reports the limit exactly when there are more rows than that.
The bookmark between two pages is the number of the last entry verified: since the numbers are
positive and no two are the same, the rows behind it are the ones not read yet.

> `auditPage_eq`: a page continues the rows where the last one ended.
>
> `verifyPages_eq`: the pages verify what one page of all the rows would.
>
> `verifyChain_of_stores`: rows that store a chain verify as that chain.
-/

namespace Retrywise.ControlPlane.Audit

open Retrywise.Foundation Retrywise.Domain

namespace AuditTable

variable (table : AuditTable)

theorem inSequence_perm : table.inSequence.Perm table.entries := List.perm_insertionSort _ _

/-- In sequence, the numbers increase. -/
theorem inSequence_pairwise :
    table.inSequence.Pairwise fun r s => r.sequenceNumber < s.sequenceNumber := by
  have hle : table.inSequence.Pairwise fun r s => r.sequenceNumber ≤ s.sequenceNumber := by
    have : Std.Total fun r s : AuditRow => r.sequenceNumber ≤ s.sequenceNumber :=
      ⟨fun r s => Int.le_total _ _⟩
    have : IsTrans AuditRow fun r s => r.sequenceNumber ≤ s.sequenceNumber :=
      ⟨fun _ _ _ h₁ h₂ => Int.le_trans h₁ h₂⟩
    exact List.pairwise_insertionSort _ _
  have hne : table.inSequence.Pairwise fun r s => r.sequenceNumber ≠ s.sequenceNumber :=
    (table.inSequence_perm.pairwise_iff fun h => h.symm).mpr table.unique
  refine (hle.and hne).imp ?_
  intro r s h
  obtain ⟨hrs, hdiff⟩ := h
  omega

theorem inSequence_positive : ∀ row ∈ table.inSequence, 0 < row.sequenceNumber := by
  intro row hrow
  exact table.positive row (table.inSequence_perm.mem_iff.mp hrow)

theorem mem_numbersFrom {first count : Nat} {n : Int} :
    n ∈ numbersFrom first count ↔ (first : Int) ≤ n ∧ n < (first : Int) + count := by
  simp only [numbersFrom, List.mem_map, List.mem_range'_1]
  constructor
  · rintro ⟨m, hm, rfl⟩
    simp only [Int.ofNat_eq_natCast]
    omega
  · intro h
    exact ⟨n.toNat, by omega, by simp only [Int.ofNat_eq_natCast]; omega⟩

variable {table}

/-- **A page continues the rows where the last one ended.** -/
theorem auditPage_eq {count limit : Nat}
    (hread : (table.inSequence.take count).map AuditRow.sequenceNumber = numbersFrom 1 count) :
    table.auditPage count limit = (table.inSequence.drop count).take limit := by
  have hmem : ∀ row ∈ table.inSequence.take count, 1 ≤ row.sequenceNumber ∧
      row.sequenceNumber ≤ count := by
    intro row hrow
    have hnumber : row.sequenceNumber ∈ numbersFrom 1 count :=
      hread ▸ List.mem_map_of_mem hrow
    have hbounds := mem_numbersFrom.mp hnumber
    omega
  have hbehind : ∀ row ∈ table.inSequence.drop count, (count : Int) < row.sequenceNumber := by
    intro row hrow
    by_cases hnone : count = 0
    · have hpositive := table.inSequence_positive row (List.mem_of_mem_drop hrow)
      omega
    · -- the row numbered `count` was read, and what is behind it is larger
      have hlast : (count : Int) ∈ numbersFrom 1 count := mem_numbersFrom.mpr (by omega)
      rw [← hread] at hlast
      obtain ⟨last, hlast, hcount⟩ := List.mem_map.mp hlast
      have hpairs := table.inSequence_pairwise
      rw [← List.take_append_drop count table.inSequence, List.pairwise_append] at hpairs
      have hlt := hpairs.2.2 last hlast row hrow
      omega
  have hfilter : table.inSequence.filter (fun row => (count : Int) < row.sequenceNumber) =
      table.inSequence.drop count := by
    conv_lhs => rw [← List.take_append_drop count table.inSequence]
    rw [List.filter_append, List.filter_eq_nil_iff.mpr, List.filter_eq_self.mpr, List.nil_append]
    · intro row hrow
      simpa using hbehind row hrow
    · intro row hrow
      have hbounds := hmem row hrow
      simp only [decide_eq_true_eq]
      omega
  rw [auditPage, hfilter]

end AuditTable

/-! ## The loop -/

section

variable [Hashlib] {merchantId recoveryCaseId : String} {table : AuditTable}
  {pageSize maxEntries : Nat}

/-- What the verification has read when `verified` is what it has verified. -/
structure HasRead (merchantId recoveryCaseId : String) (table : AuditTable)
    (verified : List PersistedAuditEntry) : Prop where
  chain : IsChain merchantId recoveryCaseId verified
  stores : List.Forall₂ Stores (table.inSequence.take verified.length) verified

namespace HasRead

variable {verified reached : List PersistedAuditEntry}

theorem nil : HasRead merchantId recoveryCaseId table [] := ⟨isChain_nil, .nil⟩

theorem length_le (h : HasRead merchantId recoveryCaseId table verified) :
    verified.length ≤ table.inSequence.length := by
  have hlen := h.stores.length_eq
  rw [List.length_take] at hlen
  omega

/-- The rows read are numbered as the entries verified are. -/
theorem numbers (h : HasRead merchantId recoveryCaseId table verified) :
    (table.inSequence.take verified.length).map AuditRow.sequenceNumber =
      numbersFrom 1 verified.length := by
  rw [← h.chain.numbers.1]
  have hsame : ∀ {rows : List AuditRow} {entries : List PersistedAuditEntry},
      List.Forall₂ Stores rows entries →
        rows.map AuditRow.sequenceNumber = entries.map fun e => e.sequenceNumber := by
    intro rows entries hstores
    induction hstores with
    | nil => rfl
    | cons hrow _ ih => rw [List.map_cons, List.map_cons, hrow.sequenceNumber, ih]
  exact hsame h.stores

theorem page (h : HasRead merchantId recoveryCaseId table verified) (limit : Nat) :
    table.auditPage ((verified.getLast?.map fun e => e.sequenceNumber).getD 0) limit =
      (table.inSequence.drop verified.length).take limit := by
  rw [h.chain.numbers.2]
  exact AuditTable.auditPage_eq h.numbers

/-- One page later. -/
theorem next (h : HasRead merchantId recoveryCaseId table verified) {limit : Nat}
    (hpage : verifyRows merchantId recoveryCaseId verified
      ((table.inSequence.drop verified.length).take limit) = .ok reached) :
    HasRead merchantId recoveryCaseId table reached ∧
      reached.length =
        verified.length + ((table.inSequence.drop verified.length).take limit).length := by
  obtain ⟨hchain, entries, rfl, hstores⟩ := verifyRows_sound h.chain hpage
  have hlen : (verified ++ entries).length =
      verified.length + ((table.inSequence.drop verified.length).take limit).length := by
    rw [List.length_append, hstores.length_eq]
  refine ⟨⟨hchain, ?_⟩, hlen⟩
  have htake : table.inSequence.take (verified ++ entries).length =
      table.inSequence.take verified.length ++
        (table.inSequence.drop verified.length).take limit := by
    rw [hlen, List.take_add, List.length_take, ← List.take_eq_take_min]
  rw [htake]
  exact List.rel_append h.stores hstores

end HasRead

/-- The end of the loop: there is a row beyond the limit, or there is none. -/
def probed (table : AuditTable) (maxEntries : Nat) (reached : List PersistedAuditEntry) :
    Except VerifyStop (List PersistedAuditEntry) :=
  if maxEntries < table.inSequence.length then
    .error (.returned
      (verificationFailure .limitExceeded reached.length (some (reached.length + 1))))
  else .ok reached

/-- **The pages verify what one page of all the rows would**, up to the limit. -/
theorem verifyPages_eq (hpage : 1 ≤ pageSize) {fuel : Nat} {verified : List PersistedAuditEntry}
    (hread : HasRead merchantId recoveryCaseId table verified)
    (hroom : verified.length ≤ maxEntries) (hfuel : maxEntries - verified.length < fuel) :
    verifyPages merchantId recoveryCaseId table pageSize maxEntries fuel verified =
      (verifyRows merchantId recoveryCaseId verified
        ((table.inSequence.drop verified.length).take (maxEntries - verified.length)) >>=
          probed table maxEntries) := by
  induction fuel generalizing verified with
  | zero => exact absurd hfuel (Nat.not_lt_zero _)
  | succ fuel ih =>
    have hlen := hread.length_le
    rw [verifyPages]
    dsimp only
    by_cases hfull : maxEntries - verified.length = 0
    · rw [if_pos hfull, hfull, List.take_zero, hread.page]
      show _ = probed table maxEntries verified
      rw [probed]
      by_cases hmore : maxEntries < table.inSequence.length
      · rw [if_pos hmore, if_pos]
        intro hnone
        have hzero := congrArg List.length hnone
        rw [List.length_take, List.length_drop, List.length_nil] at hzero
        omega
      · have hall : table.inSequence.drop verified.length = [] :=
          List.drop_eq_nil_of_le (by omega)
        rw [if_neg hmore, hall, List.take_nil, if_neg (by simp)]
    · rw [if_neg hfull, hread.page]
      obtain ⟨requested, hrequested⟩ : ∃ requested,
        requested = min pageSize (maxEntries - verified.length) := ⟨_, rfl⟩
      rw [← hrequested]
      -- the rows up to the limit are this page and the rest
      have hsplit : (table.inSequence.drop verified.length).take (maxEntries - verified.length) =
          (table.inSequence.drop verified.length).take requested ++
            (table.inSequence.drop (verified.length + requested)).take
              (maxEntries - verified.length - requested) := by
        have hsum : maxEntries - verified.length =
            requested + (maxEntries - verified.length - requested) := by omega
        conv_lhs => rw [hsum]
        rw [List.take_add, List.drop_drop]
      rw [hsplit, verifyRows_append]
      cases hverify : verifyRows merchantId recoveryCaseId verified
          ((table.inSequence.drop verified.length).take requested) with
      | error stop => rfl
      | ok reached =>
        obtain ⟨hnext, hreached⟩ := hread.next hverify
        rw [List.length_take, List.length_drop] at hreached
        show (if _ then _ else _) = (verifyRows _ _ _ _ >>= _)
        rw [List.length_take, List.length_drop]
        by_cases hshort : min requested (table.inSequence.length - verified.length) < requested
        · -- a short page is the last one
          have hrest : table.inSequence.drop (verified.length + requested) = [] :=
            List.drop_eq_nil_of_le (by omega)
          rw [if_pos hshort, hrest, List.take_nil, verifyRows]
          show _ = probed table maxEntries reached
          rw [probed, if_neg (by omega)]
        · have hwhole : reached.length = verified.length + requested := by omega
          have hleft : maxEntries - verified.length - requested =
              maxEntries - reached.length := by omega
          rw [if_neg hshort, ih hnext (by omega) (by omega), ← hwhole, hleft]

/-- What `verify_chain` returns when the pages end with `result`. -/
def reported :
    Except VerifyStop (List PersistedAuditEntry) → Except AuditError PostgresAuditVerification
  | .ok entries => .ok (verificationSuccess entries)
  | .error (.returned verification) => .ok verification
  | .error (.raised error) => .error error

/-- **The size of the pages does not show**: for arguments that are taken, the result is that
of one pass over the rows up to the limit, and a look beyond it. -/
theorem verifyChain_eq {pageSize maxEntries : Nat} (hmerchant : isUlid merchantId = true)
    (hcase : isUlid recoveryCaseId = true) (hpage : 1 ≤ pageSize ∧ pageSize ≤ maxPageSize)
    (hmax : 1 ≤ maxEntries ∧ maxEntries ≤ maxVerifyEntries) :
    verifyChain merchantId recoveryCaseId true table pageSize maxEntries =
      reported (verifyRows merchantId recoveryCaseId [] (table.inSequence.take maxEntries) >>=
        probed table maxEntries) := by
  have hargs : 1 ≤ (pageSize : Int) ∧ (pageSize : Int) ≤ maxPageSize ∧ 1 ≤ (maxEntries : Int) ∧
      (maxEntries : Int) ≤ maxVerifyEntries := by omega
  have hnothing : HasRead merchantId recoveryCaseId table [] := .nil
  have hfuel : maxEntries - ([] : List PersistedAuditEntry).length < maxEntries + 1 := by simp
  have hpages := verifyPages_eq hpage.1 hnothing (Nat.zero_le maxEntries) hfuel
  rw [List.length_nil, List.drop_zero, Nat.sub_zero] at hpages
  have hids : requireUlid merchantId = .ok () ∧ requireUlid recoveryCaseId = .ok () :=
    ⟨requireUlid_ok_iff.mpr hmerchant, requireUlid_ok_iff.mpr hcase⟩
  rw [verifyChain, bind_of_ok hids.1, bind_of_ok hids.2,
    bind_of_ok (raiseIf_of_not _ (not_not.mpr hargs)),
    if_neg (by simp), Int.toNat_natCast, Int.toNat_natCast, hpages]
  generalize (verifyRows merchantId recoveryCaseId [] (table.inSequence.take maxEntries) >>=
    probed table maxEntries) = result
  cases result with
  | ok entries => rfl
  | error stop =>
    cases stop with
    | returned verification => rfl
    | raised error => rfl

/-- **Rows that store a chain verify as that chain**, or as the limit they are past. -/
theorem verifyChain_of_stores {entries : List PersistedAuditEntry} {pageSize maxEntries : Nat}
    (hmerchant : isUlid merchantId = true) (hcase : isUlid recoveryCaseId = true)
    (hstores : List.Forall₂ Stores table.inSequence entries)
    (hchain : IsChain merchantId recoveryCaseId entries)
    (hpage : 1 ≤ pageSize ∧ pageSize ≤ maxPageSize)
    (hmax : 1 ≤ maxEntries ∧ maxEntries ≤ maxVerifyEntries) :
    verifyChain merchantId recoveryCaseId true table pageSize maxEntries =
      .ok (if entries.length ≤ maxEntries then verificationSuccess entries
        else verificationFailure .limitExceeded maxEntries (some (maxEntries + 1))) := by
  have hprefix : IsChain merchantId recoveryCaseId (entries.take maxEntries) := by
    intro past e rest hsplit
    refine hchain past e (rest ++ entries.drop maxEntries) ?_
    rw [← List.cons_append, ← List.append_assoc, ← hsplit, List.take_append_drop]
  rw [verifyChain_eq hmerchant hcase hpage hmax,
    verifyRows_complete (List.forall₂_take maxEntries hstores) hprefix, List.nil_append]
  show reported (probed table maxEntries (entries.take maxEntries)) = _
  rw [probed, hstores.length_eq]
  by_cases hfits : entries.length ≤ maxEntries
  · rw [if_neg (Nat.not_lt.mpr hfits), if_pos hfits, List.take_of_length_le hfits]
    rfl
  · rw [if_pos (Nat.not_le.mp hfits), if_neg hfits, List.length_take,
      Nat.min_eq_left (Nat.le_of_lt (Nat.not_le.mp hfits))]
    rfl

end

end Retrywise.ControlPlane.Audit
