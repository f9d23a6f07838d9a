import Retrywise.ControlPlane.ApprovalService

/-!
# What a verdict commits

One call of `act` that returns: the approval and the case it has locked (`Locked`), and the
books it leaves (`CaseBooks.closedWith`, `CaseBooks.approvedWith`).

> `act_ok`: a call that returns has read, under its locks, the very row it loaded, and has
> written one verdict; an action, an instrument and a job only with the verdict `APPROVED`, for
> a proposal the gate allows.
-/

namespace Retrywise.ControlPlane

open Retrywise.Foundation Retrywise.Domain

/-! ## The books of a verdict -/

namespace CaseBooks

variable (books : CaseBooks) (terms : VerdictTerms) (a : ApprovalRecord) (c : CaseRecord)

/-- The books when the approval is decided. -/
def decidedWith : CaseBooks :=
  books.setApprovals (Table.put ApprovalRecord.key (a.decided terms) books.approvals)

/-- The books after a verdict that closes the case. -/
def closedWith : CaseBooks :=
  { books with
    approvals := Table.put ApprovalRecord.key (a.decided terms) books.approvals
    cases := Table.put CaseRecord.key (c.suppressed terms.reasonCode terms.actedAt) books.cases }

/-- The books after an approval. -/
def approvedWith (action : ActionRecord) (instrument : InstrumentRecord) (job : JobRecord) :
    CaseBooks :=
  { books with
    approvals := Table.put ApprovalRecord.key (a.decided terms) books.approvals
    cases := Table.put CaseRecord.key (c.approved action.id terms.actedAt) books.cases
    actions := books.actions ++ [{ action with status := .queued }]
    instruments := books.instruments ++ [instrument]
    jobs := books.jobs ++ [job] }

end CaseBooks

/-- The approval and the case a transaction has locked. -/
structure Locked (books : CaseBooks) (loaded : ApprovalSnapshot) (a : ApprovalRecord)
    (c : CaseRecord) : Prop where
  approval : Table.find ApprovalRecord.key loaded.approvalId books.approvals = some a
  pending : a.verdict = .pending
  recoveryCase : Table.find CaseRecord.key loaded.recoveryCaseId books.cases = some c
  awaiting : c.state = .approvalRequired
  version : c.version = loaded.caseVersion

/-- A row that is loaded is a pending approval of a case that awaits one. -/
theorem loadPending_ok {books : CaseBooks} {now : Timestamp} {merchantId approvalId : String}
    {s : ApprovalSnapshot} (h : books.loadPending now merchantId approvalId = .ok s) :
    s.approvalId = approvalId ∧ s.caseState = .approvalRequired ∧
      ∃ a c, Table.find ApprovalRecord.key approvalId books.approvals = some a ∧
        a.merchantId = merchantId ∧ a.verdict = .pending ∧ s.expiresAt = a.expiresAt ∧
        Table.find CaseRecord.key s.recoveryCaseId books.cases = some c ∧
        c.merchantId = merchantId ∧ c.state = .approvalRequired ∧
        s.caseVersion = c.version := by
  unfold CaseBooks.loadPending at h
  obtain ⟨row, hrow, h⟩ := bind_ok_iff.mp h
  have hbinding : s.toApprovalBinding = row.toApprovalBinding := by
    unfold PendingRow.snapshot at h
    split at h
    next value hvalue =>
      obtain ⟨_, -, h⟩ := bind_ok_iff.mp h
      rw [← pure_ok_iff.mp h]
    next => exact absurd h (by simp)
  rw [someOr_ok_iff] at hrow
  unfold CaseBooks.pendingRow at hrow
  simp only [Option.bind_eq_bind, Option.bind_eq_some_iff, Option.filter_eq_some_iff,
    Bool.and_eq_true, decide_eq_true_eq] at hrow
  obtain ⟨a, ⟨ha, hmerchant, hpending⟩, _, -, c, ⟨hc, hof, hstate⟩, _, -, _, -, _, -, _, -,
    hrow⟩ := hrow
  have hs : s.toApprovalBinding = _ :=
    hbinding.trans (congrArg PendingRow.toApprovalBinding (Option.some.inj hrow)).symm
  have happroval : s.approvalId = a.id := congrArg ApprovalBinding.approvalId hs
  have hcase : s.recoveryCaseId = c.id := congrArg ApprovalBinding.recoveryCaseId hs
  have hid : a.key = approvalId := Table.key_of_find ha
  refine ⟨happroval.trans hid, ?_, a, c, ha, hmerchant, hpending,
    congrArg ApprovalBinding.expiresAt hs, ?_, hof, hstate,
    congrArg ApprovalBinding.caseVersion hs⟩
  · exact (congrArg ApprovalBinding.caseState hs).trans hstate
  · have hkey : c.key = a.recoveryCaseId := Table.key_of_find hc
    rw [hcase, show c.id = a.recoveryCaseId from hkey]
    exact hc

section

variable {books after : CaseBooks} {terms : VerdictTerms} {loaded : ApprovalSnapshot}
  {clock : Timestamp}

theorem decideApproval_ok {operation : String}
    (h : books.decideApproval terms loaded operation = .ok after) :
    ∃ a, Table.find ApprovalRecord.key loaded.approvalId books.approvals = some a ∧
      a.verdict = .pending ∧ a.admits (a.decided terms) = true ∧
      after = books.decidedWith terms a := by
  obtain ⟨a, ha, happlies, hadmits, rfl⟩ := CaseBooks.updateApproval_ok_iff.mp h
  simp only [Bool.and_eq_true, decide_eq_true_eq] at happlies
  exact ⟨a, ha, happlies.1.2, hadmits, rfl⟩

theorem awaiting_iff {c : CaseRecord} (h : CaseBooks.awaiting terms loaded c = true) :
    c.state = .approvalRequired ∧ c.version = loaded.caseVersion := by
  simp only [CaseBooks.awaiting, Bool.and_eq_true, decide_eq_true_eq] at h
  exact ⟨h.1.2, h.2⟩

theorem rejectCase_ok {operation : String}
    (h : books.rejectCase terms loaded clock operation = .ok after) :
    ∃ c, Table.find CaseRecord.key loaded.recoveryCaseId books.cases = some c ∧
      CaseBooks.awaiting terms loaded c = true ∧
      after = books.setCases (Table.put CaseRecord.key
        (c.suppressed terms.reasonCode terms.actedAt) books.cases) := by
  obtain ⟨c, hc, happlies, -, rfl⟩ := CaseBooks.updateCase_ok_iff.mp h
  exact ⟨c, hc, happlies, rfl⟩

theorem queueApproved_ok {actionId : String}
    (h : books.queueApproved terms loaded clock actionId = .ok after) :
    ∃ c, Table.find CaseRecord.key loaded.recoveryCaseId books.cases = some c ∧
      CaseBooks.awaiting terms loaded c = true ∧
      after = books.setCases
        (Table.put CaseRecord.key (c.approved actionId terms.actedAt) books.cases) := by
  obtain ⟨c, hc, happlies, -, rfl⟩ := CaseBooks.updateCase_ok_iff.mp h
  exact ⟨c, hc, happlies, rfl⟩

/-- What was locked is what was loaded. -/
theorem lockAsLoaded_ok {stale : CaseBooks} {now : Timestamp} {merchantId : String} {u : Unit}
    (h : books.lockAsLoaded stale now merchantId loaded = .ok u) :
    ∃ locked, (books.lockedOver stale).loadPending now merchantId loaded.approvalId = .ok locked ∧
      SameBinding locked loaded := by
  unfold CaseBooks.lockAsLoaded at h
  obtain ⟨locked, hlocked, h⟩ := bind_ok_iff.mp h
  exact ⟨locked, hlocked, not_not.mp (raiseIf_ok_iff.mp h)⟩

end

/-! ## The transactions -/

/-- Under the locks of its transaction a call has read what it had loaded. -/
def ReadAgain (met : ApprovalCircumstances) (stale books : CaseBooks) (merchantId : String)
    (loaded : ApprovalSnapshot) : Prop :=
  ∃ locked, (books.lockedOver stale).loadPending met.lockedAt merchantId loaded.approvalId =
    .ok locked ∧ SameBinding locked loaded

section

variable [Hashlib] {service : ApprovalService} {call : ApprovalCall}
  {met : ApprovalCircumstances} {seen stale books after : CaseBooks} {loaded : ApprovalSnapshot}
  {terms : VerdictTerms} {result : ApprovalActionResult}

omit [Hashlib] in
theorem closeApproval_ok {updateFailed caseFailed : String}
    (h : closeApproval met stale loaded terms updateFailed caseFailed books =
      .ok (after, result)) :
    ReadAgain met stale books terms.merchantId loaded ∧
      ∃ a c, Locked books loaded a c ∧ a.admits (a.decided terms) = true ∧
        after = books.closedWith terms a c ∧
        result = ⟨loaded.approvalId, terms.verdict, loaded.recoveryCaseId,
          loaded.caseVersion + 1, none, none⟩ := by
  unfold closeApproval at h
  obtain ⟨_, -, h⟩ := bind_ok_iff.mp h
  obtain ⟨_, hread, h⟩ := bind_ok_iff.mp h
  obtain ⟨decided, hdecided, h⟩ := bind_ok_iff.mp h
  obtain ⟨closed, hclosed, h⟩ := bind_ok_iff.mp h
  obtain ⟨a, ha, hpending, hadmits, rfl⟩ := decideApproval_ok hdecided
  obtain ⟨c, hc, happlies, rfl⟩ := rejectCase_ok hclosed
  obtain ⟨hstate, hversion⟩ := awaiting_iff happlies
  obtain ⟨hafter, hresult⟩ := Prod.mk.inj (pure_ok_iff.mp h)
  exact ⟨lockAsLoaded_ok hread, a, c, ⟨ha, hpending, hc, hstate, hversion⟩, hadmits,
    hafter.symm, hresult.symm⟩

/-- An action, an instrument and a job that belong together, for an approval. -/
structure PlanRows (approvalId : String) (action : ActionRecord) (instrument : InstrumentRecord)
    (job : JobRecord) : Prop where
  approval : action.approvalId = some approvalId
  instrumentAction : instrument.actionId = action.id
  jobAction : job.aggregateId = action.id
  jobKey : job.idempotencyKey = "create-standard-payment-link:" ++ action.actionKey

theorem commitApproved_ok {actedAt : Timestamp} {effect : ApprovedEffect}
    (h : commitApproved call met stale loaded actedAt effect books = .ok (after, result)) :
    ∃ terms a c, terms.verdict = .approved ∧
      ReadAgain met stale books terms.merchantId loaded ∧ Locked books loaded a c ∧
      a.admits (a.decided terms) = true ∧
      (books.decidedWith terms a).admitsAction met.lockedAt
        (approvedActionRow loaded actedAt effect) = true ∧
      (∀ old ∈ books.jobs, old.id ≠ effect.ids.outboxJobId) ∧
      after = books.approvedWith terms a c (approvedActionRow loaded actedAt effect)
        (approvedInstrumentRow loaded actedAt effect) (approvedJobRow actedAt effect) ∧
      result = ⟨loaded.approvalId, .approved, loaded.recoveryCaseId, loaded.caseVersion + 1,
        some effect.ids.actionId, some effect.ids.outboxJobId⟩ := by
  unfold commitApproved at h
  obtain ⟨_, -, h⟩ := bind_ok_iff.mp h
  obtain ⟨_, hread, h⟩ := bind_ok_iff.mp h
  obtain ⟨decided, hdecided, h⟩ := bind_ok_iff.mp h
  obtain ⟨inserted, hinserted, h⟩ := bind_ok_iff.mp h
  obtain ⟨reserved, hreserved, h⟩ := bind_ok_iff.mp h
  obtain ⟨queued, hqueued, h⟩ := bind_ok_iff.mp h
  obtain ⟨moved, hmoved, h⟩ := bind_ok_iff.mp h
  obtain ⟨sent, hsent, h⟩ := bind_ok_iff.mp h
  obtain ⟨a, ha, hpending, hadmits, rfl⟩ := decideApproval_ok hdecided
  obtain ⟨haction, rfl⟩ := CaseBooks.insertAction_ok_iff.mp hinserted
  obtain ⟨-, rfl⟩ := CaseBooks.insertInstrument_ok_iff.mp hreserved
  obtain ⟨row, hrow, -, -, rfl⟩ := CaseBooks.updateAction_ok_iff.mp hqueued
  obtain ⟨c, hc, happlies, rfl⟩ := queueApproved_ok hmoved
  obtain ⟨hjob, rfl⟩ := CaseBooks.insertJob_ok_iff.mp hsent
  obtain ⟨hstate, hversion⟩ := awaiting_iff happlies
  obtain ⟨hafter, hresult⟩ := Prod.mk.inj (pure_ok_iff.mp h)
  -- the action is new, so what is queued is what was inserted
  have hfresh := CaseBooks.key_ne_of_admitsAction haction
  have hnew : ∀ old ∈ books.actions, old.key ≠ (approvedActionRow loaded actedAt effect).key :=
    hfresh
  obtain rfl := Option.some.inj ((Table.find_concat hnew).symm.trans hrow)
  have hqueue := Table.put_concat hnew
    (show ActionRecord.key { approvedActionRow loaded actedAt effect with status := .queued } =
      ActionRecord.key (approvedActionRow loaded actedAt effect) from rfl)
  refine ⟨_, a, c, ?_, lockAsLoaded_ok hread, ⟨ha, hpending, hc, hstate, hversion⟩, hadmits,
    haction, ?_, ?_, hresult.symm⟩
  · rfl
  · have hfresh := CaseBooks.id_ne_of_admitsJob hjob
    exact hfresh
  · rw [← hafter]
    exact CaseBooks.ext rfl rfl rfl rfl rfl rfl rfl hqueue rfl rfl

/-! ## A call -/

variable (service call met loaded) in
/-- The gate, shown the approval and what was read fresh, allows the stored proposal. -/
def ReviewAllows : Prop :=
  ∃ proposal truth health decision,
    service.decodeActionProposal loaded.proposalValue = .ok proposal ∧
    freshReads met loaded proposal = .ok (truth, health) ∧
    reviewDecision service call loaded proposal truth health
      (max (max loaded.databaseNow truth.observedAt) health.observedAt) = .ok decision ∧
    decision.allowed = true

variable (service call met books loaded) in
/-- What a verdict writes: a verdict other than `APPROVED` closes the case, and `APPROVED` queues
one new action of a proposal the gate allows. -/
inductive Written (terms : VerdictTerms) (a : ApprovalRecord) (c : CaseRecord) : CaseBooks → Prop
  | closed (hverdict : terms.verdict ≠ .approved) :
      Written terms a c (books.closedWith terms a c)
  | approved {action : ActionRecord} {instrument : InstrumentRecord} {job : JobRecord}
      (hverdict : terms.verdict = .approved) (hcall : call.verdict = "APPROVED")
      (hallows : ReviewAllows service call met loaded)
      (hrows : PlanRows loaded.approvalId action instrument job)
      (hnew : ∀ old ∈ books.actions, old.id ≠ action.id)
      (hnewJob : ∀ old ∈ books.jobs, old.id ≠ job.id) :
      Written terms a c (books.approvedWith terms a c action instrument job)

variable (service call met seen stale books result) in
/-- A call that returns. -/
structure VerdictGiven (loaded : ApprovalSnapshot) (terms : VerdictTerms) (a : ApprovalRecord)
    (c : CaseRecord) (after : CaseBooks) : Prop where
  read : seen.loadPending met.loadedAt call.merchantId call.approvalId = .ok loaded
  readApproval : loaded.approvalId = call.approvalId
  readAgain : ReadAgain met stale books terms.merchantId loaded
  locked : Locked books loaded a c
  final : terms.verdict ≠ .pending
  admits : a.admits (a.decided terms) = true
  written : Written service call met books loaded terms a c after
  resultApproval : result.approvalId = call.approvalId
  resultVerdict : result.verdict = terms.verdict
  resultCase : result.recoveryCaseId = loaded.recoveryCaseId
  resultVersion : result.caseVersion = c.version + 1

theorem verdictGiven_of_close {updateFailed caseFailed : String}
    (hloaded : seen.loadPending met.loadedAt call.merchantId call.approvalId = .ok loaded)
    (hfinal : terms.verdict ≠ .pending) (hverdict : terms.verdict ≠ .approved)
    (h : closeApproval met stale loaded terms updateFailed caseFailed books =
      .ok (after, result)) :
    ∃ a c, VerdictGiven service call met seen stale books result loaded terms a c after := by
  obtain ⟨hread, a, c, hlocked, hadmits, rfl, rfl⟩ := closeApproval_ok h
  have hid := (loadPending_ok hloaded).1
  have hversion : loaded.caseVersion + 1 = c.version + 1 := by rw [hlocked.version]
  exact ⟨a, c, hloaded, hid, hread, hlocked, hfinal, hadmits, .closed hverdict, hid, rfl, rfl,
    hversion⟩

theorem work_ok (h : service.work call met stale seen books = .ok (after, result)) :
    ∃ loaded terms a c,
      VerdictGiven service call met seen stale books result loaded terms a c after := by
  unfold ApprovalService.work at h
  obtain ⟨_, hcheck, h⟩ := bind_ok_iff.mp h
  obtain ⟨_, -, h⟩ := bind_ok_iff.mp h
  obtain ⟨loaded, hloaded, h⟩ := bind_ok_iff.mp h
  by_cases hrejected : call.verdict = "REJECTED"
  · rw [if_pos hrejected] at h
    unfold rejectApproval at h
    obtain ⟨proposal, -, h⟩ := bind_ok_iff.mp h
    obtain ⟨_, -, h⟩ := bind_ok_iff.mp h
    obtain ⟨a, c, hgiven⟩ := verdictGiven_of_close hloaded (by simp) (by simp) h
    exact ⟨loaded, _, a, c, hgiven⟩
  · rw [if_neg hrejected] at h
    unfold approveProposal at h
    obtain ⟨proposal, hproposal, h⟩ := bind_ok_iff.mp h
    obtain ⟨⟨truth, health⟩, hreads, h⟩ := bind_ok_iff.mp h
    simp only at h
    split at h
    next =>
      obtain ⟨a, c, hgiven⟩ := verdictGiven_of_close hloaded (by simp) (by simp) h
      exact ⟨loaded, _, a, c, hgiven⟩
    next =>
      obtain ⟨decision, hdecision, h⟩ := bind_ok_iff.mp h
      split at h
      next =>
        obtain ⟨a, c, hgiven⟩ := verdictGiven_of_close hloaded (by simp) (by simp) h
        exact ⟨loaded, _, a, c, hgiven⟩
      next hallowed =>
        obtain ⟨effect, -, h⟩ := bind_ok_iff.mp h
        obtain ⟨terms, a, c, hverdict, hread, hlocked, hadmits, haction, hjob, rfl, rfl⟩ :=
          commitApproved_ok h
        have hid := (loadPending_ok hloaded).1
        have hversion : loaded.caseVersion + 1 = c.version + 1 := by rw [hlocked.version]
        have hcall : call.verdict = "APPROVED" := by
          rw [called_ok_iff] at hcheck
          unfold ApprovalCall.check at hcheck
          simp only [bind_ok_iff, raiseIf_ok_iff, not_not, exists_and_left, exists_const,
            List.mem_cons, List.not_mem_nil, or_false] at hcheck
          exact hcheck.2.2.1.resolve_right hrejected
        refine ⟨loaded, terms, a, c, hloaded, hid, hread, hlocked, ?_, hadmits, ?_, hid,
          hverdict.symm, rfl, hversion⟩
        · rw [hverdict]
          exact fun hother => absurd hother (by simp)
        · refine .approved hverdict hcall ⟨proposal, truth, health, decision,
            called_ok_iff.mp hproposal, called_ok_iff.mp hreads, called_ok_iff.mp hdecision,
            Bool.not_eq_false _ ▸ hallowed⟩ ⟨rfl, rfl, rfl, rfl⟩ ?_ hjob
          have hnew := CaseBooks.key_ne_of_admitsAction haction
          exact hnew

/-- **A call that returns has given one verdict**, on the row it had loaded. -/
theorem act_ok (h : service.act call met stale seen books = (after, .ok result)) :
    ∃ loaded terms a c,
      VerdictGiven service call met seen stale books result loaded terms a c after := by
  unfold ApprovalService.act at h
  split at h
  next written returned hwork =>
    obtain ⟨rfl, hresult⟩ := Prod.mk.inj h
    exact Except.ok.inj hresult ▸ work_ok hwork
  next => exact absurd (Prod.mk.inj h).2 (by simp)

/-- A call that raises has left the books as they were. -/
theorem act_error {e : ApprovalError}
    (h : service.act call met stale seen books = (after, .error e)) : after = books := by
  unfold ApprovalService.act at h
  split at h
  next => exact absurd (Prod.mk.inj h).2 (by simp)
  next => exact (Prod.mk.inj h).1.symm

end

end Retrywise.ControlPlane
