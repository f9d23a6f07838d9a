import Retrywise.ControlPlane.ApprovalMaterialization

/-!
# Approvals: when a verdict is stranded

An operator approves, and the job that is to carry it out ends without the approval having been
decided: then the key of the job is taken, and no request is let through until the approval runs
out. That happens where a delivery uses up the attempts, and where what a call of `act` had
loaded is no longer there when it locks it.

> `verdict_never_stranded`: as long as neither happens to a pending approval in time whose case
> awaits it, its job, where it has one, is still to be delivered.
-/

namespace Retrywise.ControlPlane

open Retrywise.Foundation Retrywise.Domain

/-! ## What goes on -/

/-- No verdict is taken back, no case returns to its approval and no clock goes back. -/
structure Onward (pre : CaseBooks) (before : Timestamp) (post : CaseBooks) (now : Timestamp) :
    Prop where
  approvals : ApprovalsMove pre post
  cases : CasesMove pre post
  clock : before ≤ now

namespace CaseBooks

variable (books : CaseBooks) (now : Timestamp)

/-- A pending approval in time, of a case that awaits it. -/
def Outstanding (approvalId : String) : Prop :=
  ∃ a, Table.find ApprovalRecord.key approvalId books.approvals = some a ∧
    a.verdict = .pending ∧ books.Awaits a.recoveryCaseId ∧ now < a.expiresAt

/-- An approval that is outstanding no more. -/
def Closed (approvalId : String) : Prop :=
  ∃ a, Table.find ApprovalRecord.key approvalId books.approvals = some a ∧
    (a.verdict ≠ .pending ∨ books.PastApproval a.recoveryCaseId ∨ a.expiresAt ≤ now)

/-- Every approval is of a case that awaits it or has left `APPROVAL_REQUIRED`. -/
def Placed : Prop :=
  ∀ approvalId a, Table.find ApprovalRecord.key approvalId books.approvals = some a →
    books.Awaits a.recoveryCaseId ∨ books.PastApproval a.recoveryCaseId

/-- The approval of a command, of its merchant. -/
def HasApproval (command : MaterializeApprovedActionCommand) : Prop :=
  ∃ a, Table.find ApprovalRecord.key command.approvalId books.approvals = some a ∧
    a.merchantId = command.merchantId

end CaseBooks

section

variable {pre post : CaseBooks} {before now : Timestamp} {approvalId caseId : String}

/-- An approval stays, with what was asked for; a verdict is final. -/
theorem ApprovalsMove.found (hmove : ApprovalsMove pre post) {a : ApprovalRecord}
    (h : Table.find ApprovalRecord.key approvalId pre.approvals = some a) :
    ∃ b, Table.find ApprovalRecord.key approvalId post.approvals = some b ∧
      b.merchantId = a.merchantId ∧ b.recoveryCaseId = a.recoveryCaseId ∧
      b.expiresAt = a.expiresAt ∧ (a.verdict ≠ .pending → b.verdict ≠ .pending) := by
  cases hmove with
  | same happrovals => exact ⟨a, happrovals ▸ h, rfl, rfl, rfl, id⟩
  | @written old new hold hadmits happrovals =>
    by_cases hkey : new.key = approvalId
    · obtain rfl := Option.some.inj ((hkey ▸ hold).symm.trans h)
      simp only [ApprovalRecord.admits, Bool.and_eq_true, Bool.or_eq_true,
        decide_eq_true_eq] at hadmits
      obtain ⟨⟨⟨⟨⟨⟨⟨⟨⟨-, hmerchant⟩, hcase⟩, -⟩, -⟩, -⟩, hexpiry⟩, hfinal⟩, -⟩, -⟩ := hadmits
      refine ⟨new, ?_, hmerchant, hcase, hexpiry, fun hdecided => ?_⟩
      · rw [happrovals]
        exact Table.find_put (hkey ▸ hold) hkey
      · rw [hfinal.resolve_left hdecided]
        exact hdecided
    · refine ⟨a, ?_, rfl, rfl, rfl, id⟩
      rw [happrovals, Table.find_put_of_ne hkey]
      exact h
  | @added more happrovals =>
    exact ⟨a, happrovals ▸ Table.find_append more h, rfl, rfl, rfl, id⟩

theorem CasesMove.awaits_or_past (hmove : CasesMove pre post)
    (h : pre.Awaits caseId ∨ pre.PastApproval caseId) :
    post.Awaits caseId ∨ post.PastApproval caseId := by
  rcases h with h | h
  · by_cases hawaits : post.Awaits caseId
    · exact .inl hawaits
    · exact .inr (hmove.past_of_leaves h hawaits)
  · exact .inr (hmove.past h)

theorem CaseBooks.Closed.onward (h : pre.Closed before approvalId)
    (hmove : Onward pre before post now) : post.Closed now approvalId := by
  obtain ⟨a, ha, hclosed⟩ := h
  obtain ⟨b, hb, -, hcase, hexpiry, hfinal⟩ := hmove.approvals.found ha
  refine ⟨b, hb, ?_⟩
  rw [hcase, hexpiry]
  rcases hclosed with hdecided | hpast | hexpired
  · exact .inl (hfinal hdecided)
  · exact .inr (.inl (hmove.cases.past hpast))
  · exact .inr (.inr (hexpired.trans hmove.clock))

theorem CaseBooks.HasApproval.onward {command : MaterializeApprovedActionCommand}
    (h : pre.HasApproval command) (hmove : Onward pre before post now) :
    post.HasApproval command := by
  obtain ⟨a, ha, hmerchant⟩ := h
  obtain ⟨b, hb, hsame, -⟩ := hmove.approvals.found ha
  exact ⟨b, hb, hsame.trans hmerchant⟩

/-- An approval that is outstanding no more stays so. -/
theorem closed_of_not_outstanding {command : MaterializeApprovedActionCommand}
    (hplaced : pre.Placed) (happroval : pre.HasApproval command)
    (h : ¬pre.Outstanding now command.approvalId) : pre.Closed now command.approvalId := by
  obtain ⟨a, ha, -⟩ := happroval
  refine ⟨a, ha, ?_⟩
  by_cases hpending : a.verdict = .pending
  · rcases hplaced _ a ha with hawaits | hpast
    · by_cases hexpiry : a.expiresAt ≤ now
      · exact .inr (.inr hexpiry)
      · exact absurd ⟨a, ha, hpending, hawaits, not_le.mp hexpiry⟩ h
    · exact .inr (.inl hpast)
  · exact .inl hpending

theorem not_outstanding_of_closed (h : pre.Closed now approvalId) :
    ¬pre.Outstanding now approvalId := by
  intro hout
  obtain ⟨a, ha, hclosed⟩ := h
  obtain ⟨b, hb, hpending, hawaits, hexpiry⟩ := hout
  obtain rfl := Option.some.inj (ha.symm.trans hb)
  rcases hclosed with hdecided | hpast | hexpired
  · exact hdecided hpending
  · exact not_awaits_of_past hpast hawaits
  · exact absurd hexpiry (not_lt.mpr hexpired)

/-- What a verdict decides is closed. -/
theorem CaseBooks.Decided.closed (h : pre.Decided approvalId) : pre.Closed now approvalId := by
  obtain ⟨a, ha, hdecided⟩ := h
  exact ⟨a, ha, .inl hdecided⟩

end

/-! ## New approvals -/

/-- An approval that is not of one of the approvals before is of a case that awaits it. -/
def NewPlaced (pre post : CaseBooks) : Prop :=
  ∀ approvalId a, Table.find ApprovalRecord.key approvalId post.approvals = some a →
    (∃ old, Table.find ApprovalRecord.key approvalId pre.approvals = some old ∧
      a.recoveryCaseId = old.recoveryCaseId) ∨ post.Awaits a.recoveryCaseId

section

variable {pre post : CaseBooks}

theorem placed_of_new (hplaced : pre.Placed) (hmove : CasesMove pre post)
    (hnew : NewPlaced pre post) : post.Placed := by
  intro approvalId a ha
  rcases hnew approvalId a ha with ⟨old, hold, hcase⟩ | hawaits
  · rw [hcase]
    exact hmove.awaits_or_past (hplaced approvalId old hold)
  · exact .inl hawaits

theorem newPlaced_of_same (h : post.approvals = pre.approvals) : NewPlaced pre post := by
  intro approvalId a ha
  exact .inl ⟨a, h ▸ ha, rfl⟩

theorem newPlaced_of_written {old new : ApprovalRecord}
    (hold : Table.find ApprovalRecord.key new.key pre.approvals = some old)
    (hadmits : old.admits new = true)
    (h : post.approvals = Table.put ApprovalRecord.key new pre.approvals) :
    NewPlaced pre post := by
  intro approvalId a ha
  rw [h] at ha
  by_cases hkey : new.key = approvalId
  · rw [Table.find_put (hkey ▸ hold) hkey] at ha
    obtain rfl := Option.some.inj ha
    simp only [ApprovalRecord.admits, Bool.and_eq_true, decide_eq_true_eq] at hadmits
    obtain ⟨⟨⟨⟨⟨⟨⟨⟨⟨-, -⟩, hcase⟩, -⟩, -⟩, -⟩, -⟩, -⟩, -⟩, -⟩ := hadmits
    exact .inl ⟨old, hkey ▸ hold, hcase⟩
  · rw [Table.find_put_of_ne hkey] at ha
    exact .inl ⟨a, ha, rfl⟩

theorem newPlaced_of_added {more : List ApprovalRecord}
    (h : post.approvals = pre.approvals ++ more)
    (hmore : ∀ a ∈ more, post.Awaits a.recoveryCaseId) : NewPlaced pre post := by
  intro approvalId a ha
  rw [h] at ha
  unfold Table.find at ha
  rw [List.find?_append, Option.or_eq_some_iff] at ha
  rcases ha with ha | ⟨-, ha⟩
  · exact .inl ⟨a, ha, rfl⟩
  · exact .inr (hmore a (List.mem_of_find?_eq_some ha))

variable [Hashlib] {repository : AssessmentRepository} {readings : CommitReadings}
  {command : AssessRecoveryCaseCommand} {truth : FreshProviderPaymentTruth}
  {health : FreshMethodHealthTruth} {planner : AssessmentPlanner} {diagnosis : DiagnosisResult}
  {initial : AssessmentSnapshot} {books after : CaseBooks}

/-- An assessment asks for an approval of the case it leaves in `APPROVAL_REQUIRED`. -/
theorem persistPlan_newPlaced {s : AssessmentSnapshot} {plan : AssessmentPlan}
    (h : persistPlan repository readings command s truth health planner plan books = .ok after) :
    NewPlaced books after := by
  cases plan with
  | blocked plan =>
    obtain ⟨old, finish, approvals, hfound, -, hfinish, happrovals, hadmitted, rfl⟩ :=
      persistBlocked_ok h
    refine newPlaced_of_added rfl fun a ha => ?_
    have hkey : (old.started.finished finish readings.decisionId s.databaseNow).key =
        command.recoveryCaseId :=
      ((admitsCase_next hadmitted.finished).1.trans (admitsCase_next hadmitted.started).1).trans
        (Table.key_of_find hfound)
    unfold ApprovalsOf at happrovals
    split at happrovals
    next hdisposition =>
      obtain ⟨expiresAt, rfl⟩ := happrovals
      rw [List.mem_singleton.mp ha]
      have hcase := Table.find_put hfound hkey
      exact ⟨_, hcase, (caseFinish_state hfinish).1 hdisposition⟩
    next =>
      obtain rfl := happrovals
      exact absurd ha List.not_mem_nil
  | authorized plan =>
    obtain ⟨old, payload, -, -, -, -, rfl⟩ := persistAuthorized_ok h
    exact newPlaced_of_same (List.append_nil _)

theorem newPlaced_of_assess {service : AssessmentService} {delivery : AssessmentDelivery}
    {seen : CaseBooks} {returned : Except AssessmentError AssessmentResult}
    (h : service.assess delivery command seen books = (after, returned)) :
    NewPlaced books after := by
  rcases assess_commits h with rfl | ⟨truth, health, diagnosis, s, h⟩
  · exact newPlaced_of_same rfl
  · rcases commitPlan_persists h with rfl | ⟨s, plan, hpersisted⟩
    · exact newPlaced_of_same rfl
    · exact persistPlan_newPlaced hpersisted

theorem newPlaced_of_act {service : ApprovalService} {call : ApprovalCall}
    {met : ApprovalCircumstances} {seen stale : CaseBooks}
    {returned : Except ApprovalError ApprovalActionResult}
    (h : service.act call met stale seen books = (after, returned)) : NewPlaced books after := by
  cases returned with
  | error e =>
    obtain rfl := act_error h
    exact newPlaced_of_same rfl
  | ok result =>
    obtain ⟨loaded, terms, a, c, hgiven⟩ := act_ok h
    have hkey : a.key = loaded.approvalId := Table.key_of_find hgiven.locked.approval
    have hold : Table.find ApprovalRecord.key (a.decided terms).key books.approvals = some a := by
      rw [show (a.decided terms).key = loaded.approvalId from hkey]
      exact hgiven.locked.approval
    refine newPlaced_of_written hold hgiven.admits ?_
    cases hgiven.written with
    | closed => rfl
    | approved => rfl

theorem newPlaced_of_exec {services : ApprovalServices} {command : ApprovalCommand}
    {out : ApprovalReturn} (h : approvalExec services books command = .ok (after, out)) :
    NewPlaced books after := by
  cases command with
  | act call met seen stale =>
    obtain ⟨rfl, -⟩ := Prod.mk.inj (Except.ok.inj h)
    exact newPlaced_of_act (Prod.eta _)
  | assess delivery command seen =>
    obtain ⟨rfl, -⟩ := Prod.mk.inj (Except.ok.inj h)
    exact newPlaced_of_assess (Prod.eta _)
  | decide id decided =>
    obtain ⟨written, hwritten, h⟩ := bind_ok_iff.mp h
    obtain ⟨rfl, -⟩ := Prod.mk.inj (pure_ok_iff.mp h)
    obtain ⟨old, hold, -, hadmits, rfl⟩ := CaseBooks.updateApproval_ok_iff.mp hwritten
    have hkey : decided.key = id := by
      have hid : decided.key = old.key := by
        simp only [ApprovalRecord.admits, Bool.and_eq_true, decide_eq_true_eq] at hadmits
        exact hadmits.1.1.1.1.1.1.1.1.1
      exact hid.trans (Table.key_of_find hold)
    rw [← hkey] at hold
    exact newPlaced_of_written hold hadmits rfl
  | moveCase clock id moved =>
    obtain ⟨_, -, h⟩ := bind_ok_iff.mp h
    obtain ⟨written, hwritten, h⟩ := bind_ok_iff.mp h
    obtain ⟨rfl, -⟩ := Prod.mk.inj (pure_ok_iff.mp h)
    obtain ⟨_, -, -, -, rfl⟩ := CaseBooks.updateCase_ok_iff.mp hwritten
    exact newPlaced_of_same rfl
  | openCase new =>
    obtain ⟨_, -, h⟩ := bind_ok_iff.mp h
    obtain ⟨rfl, -⟩ := Prod.mk.inj (pure_ok_iff.mp h)
    exact newPlaced_of_same rfl
  | writeOthers others =>
    obtain ⟨_, -, h⟩ := bind_ok_iff.mp h
    obtain ⟨rfl, -⟩ := Prod.mk.inj (pure_ok_iff.mp h)
    exact newPlaced_of_same rfl

omit [Hashlib] in
theorem newPlaced_of_requested {call : ApprovalRequestCall} {met : ApprovalRequestCircumstances}
    (h : Requested call met books after) : NewPlaced books after := by
  cases h with
  | nothing => exact newPlaced_of_same rfl
  | closed hold hadmits => exact newPlaced_of_written hold hadmits rfl
  | queued => exact newPlaced_of_same rfl

theorem newPlaced_of_taken {system : MaterializationSystem} {world : ApprovalWorld}
    {now : Timestamp} {command : MaterializationCommand} {deliveries : List ApprovalDelivery}
    (h : Taken system world now command after deliveries) : NewPlaced world.books after := by
  cases h with
  | write hexec => exact newPlaced_of_exec hexec
  | request => exact newPlaced_of_requested (requested_of_act rfl)
  | claim => exact newPlaced_of_same rfl
  | probe => exact newPlaced_of_same rfl
  | act => exact newPlaced_of_act (Prod.eta _)
  | settle => exact newPlaced_of_same rfl

end

/-! ## A call of `act` that finds what it had loaded -/

/-- What the call loads it finds again when it locks it, unless the database is not reached. -/
def Steady (service : ApprovalService) (call : ApprovalCall) (met : ApprovalCircumstances)
    (seen stale books : CaseBooks) : Prop :=
  met.loadFailure = none →
    ∃ loaded, seen.loadPending met.loadedAt call.merchantId call.approvalId = .ok loaded ∧
      ∀ proposal, service.decodeActionProposal loaded.proposalValue = .ok proposal →
        met.commitFailure = none → ReadAgain met stale books proposal.merchantId loaded

/-- An exception that is neither `ApprovalNotFound` nor `ApprovalConflict`. -/
def ApprovalError.IsException (e : ApprovalError) : Prop := ∃ error, e = .exception error

theorem raisesOnly_called {α : Type} (call : Except ControlPlaneError α) :
    RaisesOnly ApprovalError.IsException (called call) := by
  intro e he
  cases call with
  | ok a => exact absurd he (by simp [called])
  | error error => exact ⟨error, (Except.error.inj he).symm⟩

theorem raisesOnly_connecting (failure : Option ControlPlaneError) :
    RaisesOnly ApprovalError.IsException (connecting failure) := by
  intro e he
  cases failure with
  | none => exact absurd he (by simp [connecting])
  | some error => exact ⟨error, (Except.error.inj he).symm⟩

theorem connecting_ok {failure : Option ControlPlaneError} {u : Unit}
    (h : connecting failure = .ok u) : failure = none := by
  cases failure with
  | none => rfl
  | some e => exact absurd h (by simp [connecting])

section

variable {met : ApprovalCircumstances} {stale books : CaseBooks} {merchantId : String}
  {loaded : ApprovalSnapshot} {terms : VerdictTerms}

/-- What a transaction that reads again has locked. -/
theorem locked_of_readAgain (h : ReadAgain met stale books merchantId loaded) :
    ∃ a c, Table.find ApprovalRecord.key loaded.approvalId books.approvals = some a ∧
      a.merchantId = merchantId ∧ a.verdict = .pending ∧ a.expiresAt = loaded.expiresAt ∧
      Table.find CaseRecord.key loaded.recoveryCaseId books.cases = some c ∧
      c.merchantId = merchantId ∧ c.state = .approvalRequired ∧
      c.version = loaded.caseVersion := by
  obtain ⟨locked, hlocked, hsame, -⟩ := h
  obtain ⟨-, -, a, c, ha, hmerchant, hpending, hexpiry, hc, hof, hstate, hversion⟩ :=
    loadPending_ok hlocked
  have hexpires : locked.expiresAt = loaded.expiresAt := congrArg ApprovalBinding.expiresAt hsame
  have hcase : locked.recoveryCaseId = loaded.recoveryCaseId :=
    congrArg ApprovalBinding.recoveryCaseId hsame
  have hversions : locked.caseVersion = loaded.caseVersion :=
    congrArg ApprovalBinding.caseVersion hsame
  rw [hcase] at hc
  exact ⟨a, c, ha, hmerchant, hpending, hexpiry.symm.trans hexpires, hc, hof, hstate,
    hversion.symm.trans hversions⟩

theorem lockAsLoaded_of_readAgain (h : ReadAgain met stale books merchantId loaded) :
    books.lockAsLoaded stale met.lockedAt merchantId loaded = .ok () := by
  obtain ⟨locked, hlocked, hsame⟩ := h
  unfold CaseBooks.lockAsLoaded
  rw [bind_of_ok hlocked, raiseIf_of_not _ (not_not.mpr hsame)]

/-- The approval is there to be decided. -/
theorem raisesOnly_decideApproval {operation : String}
    (h : ReadAgain met stale books terms.merchantId loaded)
    (hintime : terms.verdict = .approved → terms.actedAt ≤ loaded.expiresAt) :
    RaisesOnly ApprovalError.IsException (books.decideApproval terms loaded operation) := by
  obtain ⟨a, -, ha, hmerchant, hpending, hexpiry, -⟩ := locked_of_readAgain h
  refine .bind (Table.raisesOnly_updateOne ha ?_ ⟨_, rfl⟩) fun rows _ => .of_ok rfl
  rw [← hexpiry] at hintime
  by_cases hverdict : terms.verdict = .approved
  · simp [hmerchant, hpending, hintime hverdict]
  · simp [hmerchant, hpending, hverdict]

/-- The case is there to be closed or queued. -/
theorem awaiting_of_readAgain (h : ReadAgain met stale books terms.merchantId loaded) :
    ∃ c, Table.find CaseRecord.key loaded.recoveryCaseId books.cases = some c ∧
      CaseBooks.awaiting terms loaded c = true := by
  obtain ⟨-, c, -, -, -, -, hc, hof, hstate, hversion⟩ := locked_of_readAgain h
  exact ⟨c, hc, by simp [CaseBooks.awaiting, hof, hstate, hversion]⟩

theorem raisesOnly_rejectCase {written : CaseBooks} {clock : Timestamp} {operation : String}
    (h : ReadAgain met stale books terms.merchantId loaded)
    (hcases : written.cases = books.cases) :
    RaisesOnly ApprovalError.IsException (written.rejectCase terms loaded clock operation) := by
  obtain ⟨c, hc, happlies⟩ := awaiting_of_readAgain h
  rw [← hcases] at hc
  exact .bind (Table.raisesOnly_updateOne hc happlies ⟨_, rfl⟩) fun _ _ => .of_ok rfl

theorem raisesOnly_queueApproved {written : CaseBooks} {clock : Timestamp} {actionId : String}
    (h : ReadAgain met stale books terms.merchantId loaded)
    (hcases : written.cases = books.cases) :
    RaisesOnly ApprovalError.IsException (written.queueApproved terms loaded clock actionId) := by
  obtain ⟨c, hc, happlies⟩ := awaiting_of_readAgain h
  rw [← hcases] at hc
  exact .bind (Table.raisesOnly_updateOne hc happlies ⟨_, rfl⟩) fun _ _ => .of_ok rfl

theorem raisesOnly_insertAction {clock : Timestamp} {action : ActionRecord} :
    RaisesOnly ApprovalError.IsException (books.insertAction refusedVerdict clock action) :=
  .bind (raisesOnly_raiseIf ⟨_, rfl⟩) fun _ _ => .of_ok rfl

theorem raisesOnly_insertInstrument {instrument : InstrumentRecord} :
    RaisesOnly ApprovalError.IsException (books.insertInstrument refusedVerdict instrument) :=
  .bind (raisesOnly_raiseIf ⟨_, rfl⟩) fun _ _ => .of_ok rfl

theorem raisesOnly_insertJob {job : JobRecord} :
    RaisesOnly ApprovalError.IsException (books.insertJob refusedVerdict job) :=
  .bind (raisesOnly_raiseIf ⟨_, rfl⟩) fun _ _ => .of_ok rfl

theorem raisesOnly_updateAction {conflict : ApprovalError} {id : String} {action : ActionRecord}
    {applies : ActionRecord → Bool} {assign : ActionRecord → ActionRecord}
    (haction : Table.find ActionRecord.key id books.actions = some action)
    (happlies : applies action = true) :
    RaisesOnly ApprovalError.IsException
      (books.updateAction conflict refusedVerdict id applies assign) :=
  .bind (Table.raisesOnly_updateOne haction happlies ⟨_, rfl⟩) fun _ _ => .of_ok rfl

theorem raisesOnly_closeApproval {updateFailed caseFailed : String}
    (h : met.commitFailure = none → ReadAgain met stale books terms.merchantId loaded)
    (hverdict : terms.verdict ≠ .approved) :
    RaisesOnly ApprovalError.IsException
      (closeApproval met stale loaded terms updateFailed caseFailed books) := by
  unfold closeApproval
  refine .bind (raisesOnly_connecting _) fun _ hconnected => ?_
  have hread := h (connecting_ok hconnected)
  refine .bind (.of_ok (lockAsLoaded_of_readAgain hread)) fun _ _ => ?_
  have hlate : terms.verdict = .approved → terms.actedAt ≤ loaded.expiresAt :=
    fun happroved => absurd happroved hverdict
  refine .bind (raisesOnly_decideApproval hread hlate) fun decided hdecided => ?_
  obtain ⟨a, -, -, -, rfl⟩ := decideApproval_ok hdecided
  exact .bind (raisesOnly_rejectCase hread rfl) fun _ _ => .of_ok rfl

/-- The action that was inserted. -/
theorem find_inserted {clock : Timestamp} {action : ActionRecord}
    (h : books.admitsAction clock action = true) :
    Table.find ActionRecord.key action.id (books.actions ++ [action]) = some action :=
  Table.find_concat (CaseBooks.key_ne_of_admitsAction h)

variable [Hashlib] {call : ApprovalCall} {actedAt : Timestamp} {effect : ApprovedEffect}

theorem approvedEffect_proposal {proposal : ActionProposal} {decision : GateDecision}
    {ids : ApprovedIds}
    (h : approvedEffect loaded proposal actedAt decision ids = .ok effect) :
    effect.command.proposal = proposal := by
  unfold approvedEffect at h
  obtain ⟨_, -, h⟩ := bind_ok_iff.mp h
  obtain ⟨_, -, h⟩ := bind_ok_iff.mp h
  obtain ⟨_, -, h⟩ := bind_ok_iff.mp h
  obtain ⟨command, hcommand, h⟩ := bind_ok_iff.mp h
  obtain ⟨_, -, h⟩ := bind_ok_iff.mp h
  obtain ⟨_, -, h⟩ := bind_ok_iff.mp h
  obtain ⟨_, -, h⟩ := bind_ok_iff.mp h
  obtain ⟨_, rfl⟩ := construct_ok_iff.mp hcommand
  rw [← pure_ok_iff.mp h]

theorem raisesOnly_commitApproved
    (h : met.commitFailure = none →
      ReadAgain met stale books effect.command.proposal.merchantId loaded)
    (hintime : actedAt ≤ loaded.expiresAt) :
    RaisesOnly ApprovalError.IsException
      (commitApproved call met stale loaded actedAt effect books) := by
  unfold commitApproved
  refine .bind (raisesOnly_connecting _) fun _ hconnected => ?_
  have hread := h (connecting_ok hconnected)
  refine .bind (.of_ok (lockAsLoaded_of_readAgain hread)) fun _ _ => ?_
  refine .bind (raisesOnly_decideApproval hread fun _ => hintime) fun decided hdecided => ?_
  obtain ⟨a, -, -, -, rfl⟩ := decideApproval_ok hdecided
  refine .bind raisesOnly_insertAction fun inserted hinserted => ?_
  obtain ⟨haction, rfl⟩ := CaseBooks.insertAction_ok_iff.mp hinserted
  refine .bind raisesOnly_insertInstrument fun reserved hreserved => ?_
  obtain ⟨-, rfl⟩ := CaseBooks.insertInstrument_ok_iff.mp hreserved
  -- the action that was inserted is the one that is queued
  have hfound := find_inserted haction
  refine .bind (raisesOnly_updateAction hfound (by simp [approvedActionRow]))
    fun queued hqueued => ?_
  obtain ⟨_, -, -, -, rfl⟩ := CaseBooks.updateAction_ok_iff.mp hqueued
  refine .bind (raisesOnly_queueApproved hread rfl) fun _ _ => ?_
  exact .bind raisesOnly_insertJob fun _ _ => .of_ok rfl

variable {service : ApprovalService} {seen : CaseBooks}

/-- Such a call decides the approval, or raises an exception that is tried again. -/
theorem act_of_steady (hsteady : Steady service call met seen stale books) {e : ApprovalError}
    (h : (service.act call met stale seen books).2 = .error e) : e.IsException := by
  have hraises : RaisesOnly ApprovalError.IsException
      (service.work call met stale seen books) := by
    unfold ApprovalService.work
    refine .bind (raisesOnly_called _) fun _ _ => ?_
    refine .bind (raisesOnly_connecting _) fun _ hconnected => ?_
    obtain ⟨loaded, hloaded, hagain⟩ := hsteady (connecting_ok hconnected)
    refine .bind (.of_ok hloaded) fun found hfound => ?_
    obtain rfl := Except.ok.inj (hloaded.symm.trans hfound)
    split
    next =>
      unfold rejectApproval
      refine .bind (raisesOnly_called _) fun proposal hproposal => ?_
      refine .bind (raisesOnly_raiseIf ⟨_, rfl⟩) fun _ _ => ?_
      exact raisesOnly_closeApproval (hagain proposal (called_ok_iff.mp hproposal)) (by simp)
    next =>
      unfold approveProposal
      refine .bind (raisesOnly_called _) fun proposal hproposal => ?_
      have hread := hagain proposal (called_ok_iff.mp hproposal)
      refine .bind (raisesOnly_called _) fun reads _ => ?_
      obtain ⟨truth, health⟩ := reads
      dsimp only
      split
      next => exact raisesOnly_closeApproval hread (by simp)
      next hintime =>
        refine .bind (raisesOnly_called _) fun decision _ => ?_
        split
        next => exact raisesOnly_closeApproval hread (by simp)
        next =>
          refine .bind (raisesOnly_called _) fun effect heffect => ?_
          have hproposed := approvedEffect_proposal (called_ok_iff.mp heffect)
          rw [← hproposed] at hread
          exact raisesOnly_commitApproved hread (not_le.mp (not_or.mp hintime).1).le
  unfold ApprovalService.act at h
  split at h
  next => exact absurd h (by simp)
  next raised hwork => exact hraises e (Except.error.inj h ▸ hwork)

end

/-! ## The jobs of approvals -/

/-- The status is final. -/
def OutboxStatus.IsFinal (status : OutboxStatus) : Prop :=
  status = .succeeded ∨ status = .deadLetter ∨ status = .cancelled

/-- What a row is of, which no claim and no settlement changes. -/
structure SameCommand (old new : OutboxRow) : Prop where
  id : new.id = old.id
  merchantId : new.merchantId = old.merchantId
  aggregateType : new.aggregateType = old.aggregateType
  aggregateId : new.aggregateId = old.aggregateId
  commandType : new.commandType = old.commandType
  commandSchemaVersion : new.commandSchemaVersion = old.commandSchemaVersion
  idempotencyKey : new.idempotencyKey = old.idempotencyKey

/-- The job carries the command. -/
structure JobRecord.Carries (j : JobRecord) (command : MaterializeApprovedActionCommand) :
    Prop where
  payload : j.commandPayload = command.toPrimitive
  commandType : j.commandType = materializeCommandType
  commandSchemaVersion : j.commandSchemaVersion = 1
  aggregateType : j.aggregateType = "APPROVAL"
  aggregateId : j.aggregateId = command.approvalId
  merchantId : j.merchantId = command.merchantId
  idempotencyKey : j.idempotencyKey = materializationKey command.approvalId

/-- What a delivery goes on to returns, or may return, a final result. -/
def ApprovalStage.Ends : ApprovalStage → Prop
  | .reprobing _ => True
  | .handed (.retry _ _) => False
  | .handed _ => True
  | _ => False

section

variable {row settled : OutboxRow} {job : JobRecord} {now expiresAt : Timestamp}
  {terms : ClaimTerms} {claim : ClaimFields} {command : MaterializeApprovedActionCommand}

theorem claimed_sameCommand : SameCommand row (row.claimed terms now expiresAt) := by
  unfold OutboxRow.claimed
  split
  next => exact ⟨rfl, rfl, rfl, rfl, rfl, rfl, rfl⟩
  next => exact ⟨rfl, rfl, rfl, rfl, rfl, rfl, rfl⟩

/-- A claim ends a job whose attempts are used up. -/
theorem exhausted_of_claimed (h : (row.claimed terms now expiresAt).status.IsFinal) :
    row.maxAttempts ≤ row.attemptCount := by
  by_contra hleft
  unfold OutboxRow.claimed at h
  rw [if_neg hleft] at h
  rcases h with h | h | h
  · exact absurd h (by simp)
  · exact absurd h (by simp)
  · exact absurd h (by simp)

theorem settleWith_sameCommand {operation : String} {assign : OutboxRow → OutboxRow}
    (h : row.settleWith claim now operation assign = .ok settled)
    (hassign : ∀ r, SameCommand r (assign r)) : SameCommand row settled := by
  obtain ⟨-, rfl⟩ := settleWith_ok h
  have hsame := hassign (row.released now)
  exact ⟨hsame.id, hsame.merchantId, hsame.aggregateType, hsame.aggregateId, hsame.commandType,
    hsame.commandSchemaVersion, hsame.idempotencyKey⟩

/-- A settlement ends a job with a result that is no retry, or when no attempt is left. -/
theorem settle_spec {backoff : BackoffPolicy} {result : HandlerResult}
    (h : row.settle backoff claim now result = .ok settled) :
    SameCommand row settled ∧
      (settled.status.IsFinal →
        (ApprovalStage.handed result).Ends ∨ claim.maxAttempts ≤ claim.attemptCount) := by
  cases result with
  | succeeded reference =>
    obtain ⟨_, -, h⟩ := bind_ok_iff.mp h
    exact ⟨settleWith_sameCommand h fun _ => ⟨rfl, rfl, rfl, rfl, rfl, rfl, rfl⟩,
      fun _ => .inl trivial⟩
  | deadLetter reason =>
    obtain ⟨_, -, h⟩ := bind_ok_iff.mp h
    exact ⟨settleWith_sameCommand h fun _ => ⟨rfl, rfl, rfl, rfl, rfl, rfl, rfl⟩,
      fun _ => .inl trivial⟩
  | retry reason mode =>
    obtain ⟨_, -, h⟩ := bind_ok_iff.mp h
    by_cases hlast : claim.attemptCount ≥ claim.maxAttempts
    · rw [if_pos hlast] at h
      obtain ⟨_, -, h⟩ := bind_ok_iff.mp h
      exact ⟨settleWith_sameCommand h fun _ => ⟨rfl, rfl, rfl, rfl, rfl, rfl, rfl⟩,
        fun _ => .inr hlast⟩
    · rw [if_neg hlast] at h
      obtain ⟨next, -, h⟩ := bind_ok_iff.mp h
      refine ⟨settleWith_sameCommand h fun _ => ⟨rfl, rfl, rfl, rfl, rfl, rfl, rfl⟩,
        fun hfinal => ?_⟩
      obtain ⟨-, rfl⟩ := settleWith_ok h
      rcases hfinal with hfinal | hfinal | hfinal
      · exact absurd hfinal (by simp)
      · exact absurd hfinal (by simp)
      · exact absurd hfinal (by simp)

theorem JobRecord.Carries.withRow (h : job.Carries command) (hsame : SameCommand job.toOutboxRow row) :
    (job.withRow row).Carries command :=
  ⟨h.payload, hsame.commandType.trans h.commandType,
    hsame.commandSchemaVersion.trans h.commandSchemaVersion,
    hsame.aggregateType.trans h.aggregateType, hsame.aggregateId.trans h.aggregateId,
    hsame.merchantId.trans h.merchantId, hsame.idempotencyKey.trans h.idempotencyKey⟩

theorem materialization_of {payload : Json} (htype : claim.commandType = materializeCommandType)
    (hschema : claim.commandSchemaVersion = 1) (hkind : claim.aggregateType = "APPROVAL")
    (happroval : claim.aggregateId = command.approvalId)
    (hmerchant : claim.merchantId = command.merchantId)
    (hkey : claim.idempotencyKey = materializationKey command.approvalId)
    (hpayload : payload = command.toPrimitive) :
    materialization claim payload = some command := by
  unfold materialization
  rw [htype, hschema, hpayload, decode_toPrimitive]
  exact if_neg (by simp [hkind, happroval, hmerchant, hkey])

theorem aggregateId_of_materialization {payload : Json}
    (h : materialization claim payload = some command) : claim.aggregateId = command.approvalId := by
  unfold materialization at h
  split at h
  next => exact absurd h (by simp)
  next =>
    split at h
    next => exact absurd h (by simp)
    next hsame =>
      rw [← Option.some.inj h]
      exact not_not.mp (not_or.mp (not_or.mp hsame).2).1

/-- The command of a claim is what its job carries. -/
theorem materialization_of_claimed {claimed : ClaimedOutboxCommand} (h : job.Carries command)
    (hclaim : (job.claimed terms now expiresAt).claimedCommand = .ok claimed) :
    materialization claimed.toClaimFields job.commandPayload = some command ∧
      claimed.jobId = job.key := by
  unfold OutboxRow.claimedCommand at hclaim
  split at hclaim
  next =>
    obtain ⟨_, rfl⟩ := construct_ok_iff.mp hclaim
    have hsame : SameCommand job.toOutboxRow (job.claimed terms now expiresAt) :=
      claimed_sameCommand
    have hcarries := h.withRow hsame
    exact ⟨materialization_of hcarries.commandType hcarries.commandSchemaVersion
      hcarries.aggregateType hcarries.aggregateId hcarries.merchantId hcarries.idempotencyKey
      h.payload, hsame.id⟩
  next => exact absurd hclaim (by simp)

end

/-! ## The invariant -/

/-- A job of an approval carries its command, and has ended only if the approval is closed. -/
def JobSound (books : CaseBooks) (now : Timestamp) (j : JobRecord) : Prop :=
  ∃ command, j.Carries command ∧ books.HasApproval command ∧
    (j.status.IsFinal → books.Closed now command.approvalId)

/-- A delivery is one of its job, and returns a final result only if the approval is closed. -/
def DeliverySound (books : CaseBooks) (now : Timestamp) (d : ApprovalDelivery) : Prop :=
  ∃ command, materialization d.claim d.payload = some command ∧ books.HasApproval command ∧
    (∃ j ∈ books.jobs, j.key = d.claim.jobId ∧ j.Carries command) ∧
    (d.stage.Ends → books.Closed now command.approvalId)

structure ApprovalWorld.Sound (world : ApprovalWorld) : Prop where
  placed : world.books.Placed
  keyed : Table.Keyed JobRecord.key world.books.jobs
  jobs : ∀ j ∈ world.books.jobs, j.isMaterialization = true → JobSound world.books world.now j
  deliveries : ∀ d ∈ world.deliveries, DeliverySound world.books world.now d

/-- The jobs of approvals stay, with what they are of. -/
def JobsKept (pre post : List JobRecord) : Prop :=
  ∀ j ∈ pre, j.isMaterialization = true →
    ∃ new ∈ post, new.key = j.key ∧ ∀ command, j.Carries command → new.Carries command

section

variable {pre post : CaseBooks} {before now : Timestamp}

theorem JobSound.onward {j : JobRecord} (h : JobSound pre before j)
    (hmove : Onward pre before post now) : JobSound post now j := by
  obtain ⟨command, hcarries, happroval, hended⟩ := h
  exact ⟨command, hcarries, happroval.onward hmove, fun hfinal => (hended hfinal).onward hmove⟩

theorem toList_materializationKey (approvalId : String) :
    (materializationKey approvalId).toList =
      "materialize-approved-action:".toList ++ approvalId.toList := String.toList_append

theorem isMaterialization_of_key {j : JobRecord} {approvalId : String}
    (h : j.idempotencyKey = materializationKey approvalId) : j.isMaterialization = true := by
  unfold JobRecord.isMaterialization
  rw [h, toList_materializationKey]
  generalize "materialize-approved-action:".toList = lead
  exact List.isPrefixOf_iff_prefix.mpr (List.prefix_append lead approvalId.toList)

theorem DeliverySound.onward {d : ApprovalDelivery} (h : DeliverySound pre before d)
    (hmove : Onward pre before post now) (hkept : JobsKept pre.jobs post.jobs) :
    DeliverySound post now d := by
  obtain ⟨command, hcommand, happroval, ⟨j, hj, hkey, hcarries⟩, hends⟩ := h
  obtain ⟨new, hnew, hsame, hstill⟩ :=
    hkept j hj (isMaterialization_of_key hcarries.idempotencyKey)
  exact ⟨command, hcommand, happroval.onward hmove,
    ⟨new, hnew, hsame.trans hkey, hstill command hcarries⟩,
    fun hending => (hends hending).onward hmove⟩

/-- A job that creates a link is none of an approval. -/
theorem not_materialization_of_create {j : JobRecord} {actionKey : String}
    (h : j.idempotencyKey = "create-standard-payment-link:" ++ actionKey) :
    j.isMaterialization = false := by
  unfold JobRecord.isMaterialization
  rw [h, String.toList_append]
  rfl

theorem jobsKept_append (more : List JobRecord) {jobs : List JobRecord} :
    JobsKept jobs (jobs ++ more) :=
  fun j hj _ => ⟨j, List.mem_append_left more hj, rfl, fun _ h => h⟩

theorem jobsKept_put {jobs : List JobRecord} {job : JobRecord} {row : OutboxRow} {id : String}
    (hkeyed : Table.Keyed JobRecord.key jobs) (hjob : Table.find JobRecord.key id jobs = some job)
    (hsame : SameCommand job.toOutboxRow row) :
    JobsKept jobs (Table.put JobRecord.key (job.withRow row) jobs) := by
  intro j hj _
  have hkey : (job.withRow row).key = job.key := hsame.id
  by_cases hone : j.key = job.key
  · obtain rfl := hkeyed.eq_of_key hj (Table.mem_of_find hjob) hone
    exact ⟨_, Table.mem_put_self hj hkey.symm, hkey, fun _ h => h.withRow hsame⟩
  · refine ⟨j, Table.mem_put_of_ne hj ?_, rfl, fun _ h => h⟩
    rw [hkey]
    exact hone

end

/-! ## The jobs after a step -/

section

variable [Hashlib] {books after : CaseBooks}

/-- A call of `act` adds no job of an approval. -/
theorem jobs_of_act {service : ApprovalService} {call : ApprovalCall}
    {met : ApprovalCircumstances} {seen stale : CaseBooks}
    (hafter : (service.act call met stale seen books).1 = after) :
    after.jobs = books.jobs ∨ ∃ job, after.jobs = books.jobs ++ [job] ∧
      job.isMaterialization = false ∧ ∀ old ∈ books.jobs, old.key ≠ job.key := by
  obtain ⟨returned, h⟩ : ∃ returned, service.act call met stale seen books = (after, returned) :=
    ⟨_, Prod.ext hafter rfl⟩
  cases returned with
  | error e =>
    obtain rfl := act_error h
    exact .inl rfl
  | ok result =>
    obtain ⟨loaded, terms, a, c, hgiven⟩ := act_ok h
    cases hgiven.written with
    | closed => exact .inl rfl
    | @approved action instrument job _ _ _ hrows _ hnewJob =>
      exact .inr ⟨job, rfl, not_materialization_of_create hrows.jobKey, hnewJob⟩

omit [Hashlib] in
theorem mem_append_iff_of_not {jobs : List JobRecord} {job j : JobRecord}
    (hother : job.isMaterialization = false) (hj : j.isMaterialization = true) :
    j ∈ jobs ++ [job] ↔ j ∈ jobs := by
  rw [List.mem_append, List.mem_singleton, or_iff_left]
  rintro rfl
  exact absurd hj (by simp [hother])

/-- The other writers add and change no job of an approval. -/
theorem jobs_of_exec {services : ApprovalServices} {command : ApprovalCommand}
    {out : ApprovalReturn}
    (h : approvalExec services books (command.besides books) = .ok (after, out)) {j : JobRecord}
    (hj : j.isMaterialization = true) : j ∈ after.jobs ↔ j ∈ books.jobs := by
  cases command with
  | act call met seen stale =>
    obtain ⟨hafter, -⟩ := Prod.mk.inj (Except.ok.inj h)
    rcases jobs_of_act hafter with hjobs | ⟨job, hjobs, hother, -⟩
    · rw [hjobs]
    · rw [hjobs]
      exact mem_append_iff_of_not hother hj
  | assess delivery command seen =>
    obtain ⟨hafter, -⟩ := Prod.mk.inj (Except.ok.inj h)
    obtain ⟨returned, hassess⟩ : ∃ returned,
        services.assessments.assess delivery command seen books = (after, returned) :=
      ⟨_, Prod.ext hafter rfl⟩
    rcases assess_commits hassess with hsame | ⟨truth, health, diagnosis, s, hcommit⟩
    · rw [hsame]
    · rcases commitPlan_plan hcommit with hsame | ⟨action, instrument, job, hplan, -⟩
      · rw [hsame.jobs]
      · rw [hplan.jobs]
        exact mem_append_iff_of_not (not_materialization_of_create hplan.jobKey) hj
  | decide id decided =>
    obtain ⟨written, hwritten, h⟩ := bind_ok_iff.mp h
    obtain ⟨rfl, -⟩ := Prod.mk.inj (pure_ok_iff.mp h)
    obtain ⟨_, -, -, -, rfl⟩ := CaseBooks.updateApproval_ok_iff.mp hwritten
    exact Iff.rfl
  | moveCase clock id moved =>
    obtain ⟨_, -, h⟩ := bind_ok_iff.mp h
    obtain ⟨written, hwritten, h⟩ := bind_ok_iff.mp h
    obtain ⟨rfl, -⟩ := Prod.mk.inj (pure_ok_iff.mp h)
    obtain ⟨_, -, -, -, rfl⟩ := CaseBooks.updateCase_ok_iff.mp hwritten
    exact Iff.rfl
  | openCase new =>
    obtain ⟨_, -, h⟩ := bind_ok_iff.mp h
    obtain ⟨rfl, -⟩ := Prod.mk.inj (pure_ok_iff.mp h)
    exact Iff.rfl
  | writeOthers others =>
    obtain ⟨_, -, h⟩ := bind_ok_iff.mp h
    obtain ⟨rfl, -⟩ := Prod.mk.inj (pure_ok_iff.mp h)
    change j ∈ (others.jobs.filter fun j => !j.isMaterialization) ++
      books.jobs.filter JobRecord.isMaterialization ↔ j ∈ books.jobs
    simp [List.mem_append, List.mem_filter, hj]

omit [Hashlib] in
theorem settledJobs_cases (system : MaterializationSystem) (jobs : List JobRecord)
    (now : Timestamp) (claim : ClaimFields) (result : HandlerResult) :
    system.settledJobs jobs now claim result = jobs ∨
      ∃ job row, Table.find JobRecord.key claim.jobId jobs = some job ∧
        job.settle system.backoff claim now result = .ok row ∧
        system.settledJobs jobs now claim result =
          Table.put JobRecord.key (job.withRow row) jobs := by
  unfold MaterializationSystem.settledJobs
  split
  next => exact .inl rfl
  next job hjob =>
    split
    next row hrow => exact .inr ⟨job, row, hjob, hrow, rfl⟩
    next => exact .inl rfl

variable {system : MaterializationSystem} {world : ApprovalWorld} {now : Timestamp}
  {command : MaterializationCommand} {deliveries : List ApprovalDelivery}

theorem jobsKept_of_taken (h : Taken system world now command books deliveries)
    (hkeyed : Table.Keyed JobRecord.key world.books.jobs) :
    JobsKept world.books.jobs books.jobs := by
  have hsame : JobsKept world.books.jobs world.books.jobs := fun j hj _ => ⟨j, hj, rfl, fun _ h => h⟩
  cases h with
  | write hexec => exact fun j hj hmine => ⟨j, (jobs_of_exec hexec hmine).mpr hj, rfl, fun _ h => h⟩
  | @request call met =>
    have hrequested : Requested call met world.books _ := requested_of_act rfl
    cases hrequested.jobs with
    | inl hjobs => rw [hjobs]; exact hsame
    | inr hjobs =>
      obtain ⟨command, hjobs, -⟩ := hjobs
      rw [hjobs]
      exact jobsKept_append _
  | claim hjob => exact jobsKept_put hkeyed hjob claimed_sameCommand
  | probe => exact hsame
  | @act i met seen stale d command =>
    generalize hafter : (system.services.approvals.act command.call met stale seen world.books).1 =
      after
    rcases jobs_of_act hafter with hjobs | ⟨job, hjobs, -⟩
    · rw [hjobs]
      exact hsame
    · rw [hjobs]
      exact jobsKept_append _
  | @settle i d result =>
    rcases settledJobs_cases system world.books.jobs now d.claim result with
      hjobs | ⟨job, row, hjob, hrow, hjobs⟩
    · change JobsKept _ (system.settledJobs ..)
      rw [hjobs]
      exact hsame
    · change JobsKept _ (system.settledJobs ..)
      rw [hjobs]
      exact jobsKept_put hkeyed hjob (settle_spec hrow).1

theorem keyed_of_taken (h : Taken system world now command books deliveries)
    (hkeyed : Table.Keyed JobRecord.key world.books.jobs) :
    Table.Keyed JobRecord.key books.jobs := by
  cases h with
  | write hexec hafter => exact hafter
  | @request call met =>
    have hrequested : Requested call met world.books _ := requested_of_act rfl
    rcases hrequested.jobs with hjobs | ⟨command, hjobs, hnew, -⟩
    · rw [hjobs]
      exact hkeyed
    · rw [hjobs]
      exact Table.keyed_concat hkeyed hnew
  | claim => exact Table.keyed_put hkeyed
  | probe => exact hkeyed
  | @act i met seen stale d command =>
    generalize hafter : (system.services.approvals.act command.call met stale seen world.books).1 =
      after
    rcases jobs_of_act hafter with hjobs | ⟨job, hjobs, -, hnew⟩
    · rw [hjobs]
      exact hkeyed
    · rw [hjobs]
      exact Table.keyed_concat hkeyed hnew
  | @settle i d result =>
    change Table.Keyed JobRecord.key (system.settledJobs ..)
    rcases settledJobs_cases system world.books.jobs now d.claim result with
      hjobs | ⟨job, row, hjob, hrow, hjobs⟩
    · rw [hjobs]
      exact hkeyed
    · rw [hjobs]
      exact Table.keyed_put hkeyed

end

/-! ## The condition -/

variable [Hashlib] in
/-- While the approval of a job is outstanding, a claim of the job and the settlement of a retry
find an attempt left, and a call of `act` finds again what it has loaded. -/
def Undisturbed (system : MaterializationSystem) (world : ApprovalWorld) (now : Timestamp) :
    MaterializationCommand → Prop
  | .claim jobId _ =>
    ∀ job, Table.find JobRecord.key jobId world.books.jobs = some job →
      world.books.Outstanding now job.aggregateId → job.attemptCount < job.maxAttempts
  | .act i met seen stale =>
    ∀ d command, world.deliveries[i]? = some d →
      materialization d.claim d.payload = some command →
      world.books.Outstanding now command.approvalId →
      Steady system.services.approvals command.call met seen stale world.books
  | .settle i =>
    ∀ d reason mode, world.deliveries[i]? = some d → d.stage = .handed (.retry reason mode) →
      world.books.Outstanding now d.claim.aggregateId →
      d.claim.attemptCount < d.claim.maxAttempts
  | _ => True

/-! ## What a delivery hands back -/

section

variable {books : CaseBooks} {command : MaterializeApprovedActionCommand}

theorem ends_of_returns {result : HandlerResult} (h : (ApprovalStage.returns result).Ends) :
    (ApprovalStage.handed result).Ends := by
  unfold ApprovalStage.returns HandlerResult.orHandlerException at h
  split at h
  next => exact h
  next => exact absurd h id

/-- A probe that finds the approval completed finds it decided. -/
theorem decided_of_completion {merchantId approvalId completed : String}
    (h : books.completion merchantId approvalId = .ok (some completed)) :
    books.Decided approvalId := by
  unfold CaseBooks.completion at h
  split at h
  next => exact absurd (Except.ok.inj h) (by simp)
  next a ha =>
    by_cases hpending : a.verdict = .pending
    · rw [if_pos hpending] at h
      exact absurd (Except.ok.inj h) (by simp)
    · exact ⟨a, (Option.filter_eq_some_iff.mp ha).1, hpending⟩

theorem decided_of_probe {failure : Option ControlPlaneError} {completed : String}
    (h : probeCompletion failure command books = .ok (some completed)) :
    books.Decided command.approvalId := by
  obtain ⟨_, -, h⟩ := bind_ok_iff.mp h
  exact decided_of_completion h

/-- A probe ends a delivery whose approval is decided, or one that was to end. -/
theorem decided_of_probed {d : ApprovalDelivery} {failure : Option ControlPlaneError}
    {stage : ApprovalStage} (hcommand : materialization d.claim d.payload = some command)
    (h : d.probe failure books = some stage) (hends : stage.Ends) :
    books.Decided command.approvalId ∨ d.stage.Ends := by
  unfold ApprovalDelivery.probe at h
  rw [hcommand] at h
  cases hstage : d.stage with
  | probing =>
    rw [hstage] at h
    obtain rfl := Option.some.inj h
    cases hprobe : probeCompletion failure command books with
    | error e =>
      rw [hprobe] at hends
      exact absurd (ends_of_returns hends) id
    | ok found =>
      cases found with
      | none =>
        rw [hprobe] at hends
        exact absurd hends id
      | some completed => exact .inl (decided_of_probe hprobe)
  | acting =>
    rw [hstage] at h
    exact absurd h (by simp)
  | reprobing otherwise => exact .inr trivial
  | handed result =>
    rw [hstage] at h
    exact absurd h (by simp)
  | closed =>
    rw [hstage] at h
    exact absurd h (by simp)

/-- An exception that is tried again does not end a delivery. -/
theorem not_ends_of_exception {e : ApprovalError} (h : e.IsException) :
    ¬(acted (.error e)).Ends := by
  obtain ⟨error, rfl⟩ := h
  exact fun hends => absurd (ends_of_returns hends) id

end

/-! ## One step -/

section

variable [Hashlib] {system : MaterializationSystem} {world : ApprovalWorld} {now : Timestamp}
  {command : MaterializationCommand} {books : CaseBooks} {deliveries : List ApprovalDelivery}

/-- The jobs of approvals after a step. -/
theorem jobSound_of_taken (hsound : world.Sound) (hclock : world.now ≤ now)
    (h : Taken system world now command books deliveries)
    (hundisturbed : Undisturbed system world now command) :
    ∀ j ∈ books.jobs, j.isMaterialization = true → JobSound books now j := by
  have hmove : Onward world.books world.now books now := ⟨h.moves.1, h.moves.2, hclock⟩
  have hold : ∀ j ∈ world.books.jobs, j.isMaterialization = true → JobSound books now j :=
    fun j hj hmine => (hsound.jobs j hj hmine).onward hmove
  cases h with
  | write hexec => exact fun j hj hmine => hold j ((jobs_of_exec hexec hmine).mp hj) hmine
  | @request call met =>
    have hrequested : Requested call met world.books _ := requested_of_act rfl
    rcases hrequested.jobs with hjobs | ⟨queued, hjobs, -, happroval⟩
    · rw [hjobs]
      exact hold
    · rw [hjobs]
      intro j hj hmine
      rcases List.mem_append.mp hj with hj | hj
      · exact hold j hj hmine
      · rw [List.mem_singleton.mp hj]
        have hcarries : (materializationRow met queued).Carries queued :=
          ⟨rfl, rfl, rfl, rfl, rfl, rfl, rfl⟩
        refine ⟨queued, hcarries, happroval, fun hfinal => ?_⟩
        rcases hfinal with hfinal | hfinal | hfinal
        · exact absurd hfinal (by simp [materializationRow])
        · exact absurd hfinal (by simp [materializationRow])
        · exact absurd hfinal (by simp [materializationRow])
  | @claim jobId terms job expiresAt started hjob happroval =>
    intro j hj hmine
    rcases Table.mem_put hj with rfl | ⟨hj, -⟩
    · obtain ⟨carried, hcarries, hof, -⟩ := hsound.jobs job (Table.mem_of_find hjob) happroval
      refine ⟨carried, hcarries.withRow claimed_sameCommand, hof.onward hmove, fun hfinal => ?_⟩
      -- a job that is claimed for the last time is of an approval that is closed
      refine (closed_of_not_outstanding hsound.placed hof fun hout => ?_).onward
        ⟨hmove.approvals, hmove.cases, le_refl now⟩
      rw [← hcarries.aggregateId] at hout
      exact absurd (hundisturbed job hjob hout) (not_lt.mpr (exhausted_of_claimed hfinal))
    · exact hold j hj hmine
  | probe => exact hold
  | @act i met seen stale d sent =>
    generalize hafter : (system.services.approvals.act sent.call met stale seen world.books).1 =
      after at hold
    rcases jobs_of_act hafter with hjobs | ⟨job, hjobs, hother, -⟩
    · rw [hjobs]
      exact hold
    · rw [hjobs]
      exact fun j hj hmine => hold j ((mem_append_iff_of_not hother hmine).mp hj) hmine
  | @settle i d result hd hhanded =>
    rcases settledJobs_cases system world.books.jobs now d.claim result with
      hjobs | ⟨job, row, hjob, hrow, hjobs⟩
    · rw [hjobs] at hold ⊢
      exact hold
    · rw [hjobs] at hmove hold ⊢
      intro j hj hmine
      rcases Table.mem_put hj with rfl | ⟨hj, -⟩
      · obtain ⟨carried, hcommand, hof, ⟨own, hown, hkey, hcarries⟩, hends⟩ :=
          hsound.deliveries d (List.mem_of_getElem? hd)
        obtain rfl := hsound.keyed.eq_of_key hown (Table.mem_of_find hjob)
          (hkey.trans (Table.key_of_find hjob).symm)
        obtain ⟨hsame, hfinals⟩ := settle_spec hrow
        refine ⟨carried, hcarries.withRow hsame, hof.onward hmove, fun hfinal => ?_⟩
        rw [hhanded] at hends
        rcases hfinals hfinal with hending | hlast
        · exact (hends hending).onward hmove
        · cases result with
          | succeeded reference => exact (hends trivial).onward hmove
          | deadLetter reason => exact (hends trivial).onward hmove
          | retry reason mode =>
            -- a retry that finds no attempt left is of an approval that is closed
            refine (closed_of_not_outstanding hsound.placed hof fun hout => ?_).onward
              ⟨hmove.approvals, hmove.cases, le_refl now⟩
            rw [← aggregateId_of_materialization hcommand] at hout
            exact absurd (hundisturbed d reason mode hd hhanded hout) (not_lt.mpr hlast)
      · exact hold j hj hmine

/-- The deliveries after a step. -/
theorem deliverySound_of_taken (hsound : world.Sound) (hclock : world.now ≤ now)
    (h : Taken system world now command books deliveries)
    (hundisturbed : Undisturbed system world now command) :
    ∀ d ∈ deliveries, DeliverySound books now d := by
  have hmove : Onward world.books world.now books now := ⟨h.moves.1, h.moves.2, hclock⟩
  have hkept := jobsKept_of_taken h hsound.keyed
  have hold : ∀ d ∈ world.deliveries, DeliverySound books now d :=
    fun d hd => (hsound.deliveries d hd).onward hmove hkept
  cases h with
  | write => exact hold
  | request => exact hold
  | @claim jobId terms job expiresAt started hjob happroval hdue hstarted =>
    intro d hd
    rcases List.mem_append.mp hd with hd | hd
    · exact hold d hd
    · obtain ⟨claim, hclaim, rfl⟩ := hstarted d hd
      obtain ⟨carried, hcarries, hof, -⟩ := hsound.jobs job (Table.mem_of_find hjob) happroval
      obtain ⟨hcommand, hid⟩ := materialization_of_claimed hcarries hclaim
      obtain ⟨new, hnew, hkey, hstill⟩ := hkept job (Table.mem_of_find hjob) happroval
      exact ⟨carried, hcommand, hof.onward hmove,
        ⟨new, hnew, hkey.trans hid.symm, hstill carried hcarries⟩, fun hends => absurd hends id⟩
  | @probe i failure d stage hd hstage =>
    intro new hnew
    rcases List.mem_or_eq_of_mem_set hnew with hnew | rfl
    · exact hold new hnew
    · obtain ⟨sent, hcommand, hof, hjob, hends⟩ := hold d (List.mem_of_getElem? hd)
      refine ⟨sent, hcommand, hof, hjob, fun hending => ?_⟩
      rcases decided_of_probed hcommand hstage hending with hdecided | hended
      · exact hdecided.closed
      · exact hends hended
  | @act i met seen stale d sent hd hacting hcommand =>
    intro new hnew
    rcases List.mem_or_eq_of_mem_set hnew with hnew | rfl
    · exact hold new hnew
    · obtain ⟨own, hown, hof, hjob, -⟩ := hold d (List.mem_of_getElem? hd)
      obtain ⟨before, hbefore, hofBefore, -, -⟩ := hsound.deliveries d (List.mem_of_getElem? hd)
      obtain rfl := Option.some.inj (hcommand.symm.trans hown)
      obtain rfl := Option.some.inj (hcommand.symm.trans hbefore)
      refine ⟨sent, hown, hof, hjob, fun hending => ?_⟩
      cases hact : system.services.approvals.act sent.call met stale seen world.books with
      | mk after returned =>
        rw [hact] at hending hmove
        cases returned with
        | ok result =>
          obtain ⟨loaded, terms, a, c, hgiven⟩ := act_ok hact
          have hdecides : Decides sent.call.approvalId
              ⟨world.books, .act sent.call met seen stale, after, none⟩ :=
            (decides_of_given hgiven).1
          exact hdecides.2.closed
        | error e =>
          refine CaseBooks.Closed.onward (closed_of_not_outstanding hsound.placed hofBefore
            fun hout => ?_) ⟨hmove.approvals, hmove.cases, le_refl now⟩
          have hsteady := hundisturbed d sent hd hcommand hout
          have herror : (system.services.approvals.act sent.call met stale seen world.books).2 =
              .error e := congrArg Prod.snd hact
          exact not_ends_of_exception (act_of_steady hsteady herror) hending
  | @settle i d result hd =>
    intro new hnew
    rcases List.mem_or_eq_of_mem_set hnew with hnew | rfl
    · exact hold new hnew
    · obtain ⟨sent, hcommand, hof, hjob, -⟩ := hold d (List.mem_of_getElem? hd)
      exact ⟨sent, hcommand, hof, hjob, fun hends => absurd hends id⟩

end

/-! ## Runs -/

/-- A request on the approval, while it is in time, that settles it or queues a job for it. -/
def RequestSettles [Hashlib] (books : CaseBooks) (a : ApprovalRecord) : Prop :=
  ∃ call met, call.approvalId = a.id ∧ met.actedAt < a.expiresAt ∧
    ((actOnApproval call met books).1.Decided a.id ∨
      ∃ j ∈ (actOnApproval call met books).1.jobs, j ∉ books.jobs ∧
        j.Materializes a.merchantId a.id)

/-- A pending approval in time, of a case that awaits it, has a job that is still to be
delivered, or none, or a request can settle it. -/
def ApprovalWorld.NotStranded [Hashlib] (world : ApprovalWorld) : Prop :=
  ∀ approvalId a, Table.find ApprovalRecord.key approvalId world.books.approvals = some a →
    a.verdict = .pending → world.books.Awaits a.recoveryCaseId → world.now < a.expiresAt →
    (∃ j ∈ world.books.jobs, j.Materializes a.merchantId approvalId ∧ ¬j.status.IsFinal) ∨
      (∀ j ∈ world.books.jobs, ¬j.Materializes a.merchantId approvalId) ∨
      RequestSettles world.books a

/-- Where a run starts: no job of an approval, and no delivery. -/
structure ApprovalWorld.Fresh (world : ApprovalWorld) : Prop where
  placed : world.books.Placed
  keyed : Table.Keyed JobRecord.key world.books.jobs
  jobs : ∀ j ∈ world.books.jobs, j.isMaterialization = false
  deliveries : world.deliveries = []

section

theorem materializationKey_inj {first second : String}
    (h : materializationKey first = materializationKey second) : first = second := by
  have htext := congrArg String.toList h
  rw [toList_materializationKey, toList_materializationKey] at htext
  exact String.toList_inj.mp (List.append_cancel_left htext)

theorem ApprovalWorld.Fresh.sound {world : ApprovalWorld} (h : world.Fresh) : world.Sound where
  placed := h.placed
  keyed := h.keyed
  jobs j hj hmine := absurd hmine (by simp [h.jobs j hj])
  deliveries d hd := absurd hd (by simp [h.deliveries])

variable [Hashlib] {system : MaterializationSystem} {start final : ApprovalWorld}
  {steps : List MaterializationStep}

/-- A step that is undisturbed keeps the invariant. -/
theorem sound_step {s : MaterializationStep} (hsound : s.pre.Sound)
    (hs : system.machine.Takes s)
    (hundisturbed : Undisturbed system s.pre s.cmd.1 s.cmd.2) : s.post.Sound := by
  obtain ⟨hclock, books, deliveries, htaken, hpost⟩ := taken_of_takes hs
  rw [hpost]
  exact {
    placed := placed_of_new hsound.placed htaken.moves.2 (newPlaced_of_taken htaken)
    keyed := keyed_of_taken htaken hsound.keyed
    jobs := jobSound_of_taken hsound hclock htaken hundisturbed
    deliveries := deliverySound_of_taken hsound hclock htaken hundisturbed }

/-- The job of an approval that is outstanding is still to be delivered. -/
theorem ApprovalWorld.Sound.notStranded {world : ApprovalWorld} (h : world.Sound) :
    world.NotStranded := by
  intro approvalId a ha hpending hawaits hintime
  by_cases hjob : ∃ j ∈ world.books.jobs, j.Materializes a.merchantId approvalId
  · obtain ⟨j, hj, hmine⟩ := hjob
    obtain ⟨command, hcarries, -, hended⟩ := h.jobs j hj (isMaterialization_of_key hmine.2)
    have hid : command.approvalId = approvalId :=
      materializationKey_inj (hcarries.idempotencyKey.symm.trans hmine.2)
    refine .inl ⟨j, hj, hmine, fun hfinal => ?_⟩
    have hclosed := hended hfinal
    rw [hid] at hclosed
    exact not_outstanding_of_closed hclosed ⟨a, ha, hpending, hawaits, hintime⟩
  · exact .inr (.inl fun j hj hmine => hjob ⟨j, hj, hmine⟩)

/-- An outstanding approval whose jobs have ended is stranded: no request gets through. -/
theorem stranded_of_ended {world : ApprovalWorld} {approvalId : String} {a : ApprovalRecord}
    (hfound : Table.find ApprovalRecord.key approvalId world.books.approvals = some a)
    (hpending : a.verdict = .pending) (hawaits : world.books.Awaits a.recoveryCaseId)
    (hintime : world.now < a.expiresAt)
    (hjob : ∃ j ∈ world.books.jobs, j.Materializes a.merchantId approvalId)
    (hended : ∀ j ∈ world.books.jobs, j.Materializes a.merchantId approvalId →
      j.status.IsFinal) : ¬world.NotStranded := by
  intro h
  have hkey : a.key = approvalId := Table.key_of_find hfound
  have hid : a.id = approvalId := hkey
  rcases h approvalId a hfound hpending hawaits hintime with hopen | hnone | hsettles
  · obtain ⟨j, hj, hmine, hopen⟩ := hopen
    exact hopen (hended j hj hmine)
  · obtain ⟨j, hj, hmine⟩ := hjob
    exact hnone j hj hmine
  · obtain ⟨call, met, hcall, hinTime, hsettled⟩ := hsettles
    obtain ⟨c, hc, hstate⟩ := hawaits
    rw [← hcall.trans hid] at hfound hjob
    have hblocked : (actOnApproval call met world.books).1 = world.books :=
      request_blocked hfound hpending hc hstate hinTime hjob
    rw [hblocked] at hsettled
    rcases hsettled with hdecided | ⟨j, hj, hother, -⟩
    · rw [← hcall] at hdecided
      exact not_pending_of_decided hdecided ⟨a, hfound, hpending⟩
    · exact hother hj

/-- **No verdict is stranded** in a run whose deliveries are not disturbed. -/
theorem verdict_never_stranded (hstart : start.Fresh)
    (hrun : system.machine.Run start steps final)
    (hundisturbed : ∀ s ∈ steps, Undisturbed system s.pre s.cmd.1 s.cmd.2) :
    final.NotStranded := by
  have hsound : final.Sound :=
    hrun.invariant_of (I := ApprovalWorld.Sound) hstart.sound
      (fun _ hpre hs hkept => sound_step hpre hs hkept) hundisturbed
  exact hsound.notStranded

end

/-! ## Attempts used up

An operator approves; eight workers crash after they have claimed the job, and the ninth claim
finds no attempt left. -/

section

variable [Hashlib] {call : ApprovalRequestCall} {met : ApprovalRequestCircumstances}
  {books : CaseBooks} {a : ApprovalRecord} {c : CaseRecord}

/-- What a request of `APPROVED` that is checked asks for is a command. -/
theorem commandFields_valid (hmerchant : isUlid call.merchantId = true)
    (happroval : isUlid call.approvalId = true) (hreason : isReasonCode call.reasonCode = true) :
    call.commandFields.postInit = .ok () := by
  have hsubject : isOperatorSubject call.derivedSubject = true := by
    unfold isOperatorSubject ApprovalRequestCall.derivedSubject
    rw [String.toList_append]
    have hlead : "operator:".toList.length = 9 := rfl
    rw [List.take_append_of_le_length (by rw [hlead]), List.drop_append_of_le_length (by rw [hlead]),
      List.take_of_length_le (by rw [hlead]), List.drop_of_length_le (by rw [hlead]),
      List.nil_append, String.ofList_toList, Hashlib.isDigest_sha256Hexdigest, decide_eq_true rfl]
    rfl
  have hdigest : isDigest call.commandFields.requestIdempotencySha256 = true :=
    Hashlib.isDigest_sha256Hexdigest _
  exact (bind_of_ok (raiseIf_of_not _ (not_not.mpr hmerchant)) _).trans <|
    (bind_of_ok (raiseIf_of_not _ (not_not.mpr happroval)) _).trans <|
    (bind_of_ok (raiseIf_of_not _ (not_not.mpr hsubject)) _).trans <|
    (bind_of_ok (raiseIf_of_not _ (not_not.mpr hreason)) _).trans <|
    raiseIf_of_not _ (not_not.mpr hdigest)

/-- A verdict of `APPROVED` on an approval without a job. -/
theorem request_queues {command : MaterializeApprovedActionCommand}
    (hcheck : call.check = .ok ()) (hreached : met.failure = none)
    (hlocked : books.lockedApproval call.merchantId call.approvalId = some (a, c))
    (hcase : isUlid c.id = true) (hpending : a.verdict = .pending)
    (hawaits : c.state = .approvalRequired) (hintime : met.actedAt < a.expiresAt)
    (hverdict : call.verdict ≠ "REJECTED") (hcommand : call.commandFields = command.toMaterializeFields)
    (hid : isUlid met.outboxJobId = true)
    (hnone : books.existingCommand call.merchantId call.approvalId = none)
    (hadmits : books.admitsJob (materializationRow met command) = true) :
    (actOnApproval call met books).1 =
      books.setJobs (books.jobs ++ [materializationRow met command]) := by
  have hbuilt : called (construct MaterializeFields.postInit MaterializeApprovedActionCommand.mk
      call.commandFields) = .ok command :=
    called_ok_iff.mpr (construct_ok_iff.mpr ⟨hcommand ▸ command.valid, by
      cases command
      simp [hcommand]⟩)
  have hinserted : books.insertJob refusedVerdict (materializationRow met command) =
      .ok (books.setJobs (books.jobs ++ [materializationRow met command])) :=
    CaseBooks.insertJob_ok_iff.mpr ⟨hadmits, rfl⟩
  have hwork : ∃ result, requestApprovalWork call met books =
      .ok (books.setJobs (books.jobs ++ [materializationRow met command]), result) := by
    unfold requestApprovalWork
    rw [hcheck, hreached, show called (.ok ()) = .ok () from rfl,
      show connecting none = .ok () from rfl, bind_of_ok rfl, bind_of_ok rfl,
      bind_of_ok (someOr_ok_iff.mpr hlocked)]
    dsimp only
    rw [bind_of_ok (raiseIf_of_not _ (not_not.mpr hcase))]
    unfold actRequested
    rw [if_neg (not_not.mpr hpending), if_neg (not_not.mpr hawaits), if_neg (not_le.mpr hintime),
      if_neg hverdict]
    unfold queueRequested
    rw [bind_of_ok hbuilt, bind_of_ok (raiseIf_of_not _ (not_not.mpr hid)), hnone]
    dsimp only
    rw [bind_of_ok hinserted]
    exact ⟨_, rfl⟩
  obtain ⟨result, hwork⟩ := hwork
  unfold actOnApproval
  rw [hwork]

end

def approvalRequest : ApprovalRequestCall where
  merchantId := "01HZZZZZZZZZZZZZZZZZZZZZZM"
  approvalId := "01HZZZZZZZZZZZZZZZZZZZZZZE"
  operatorSubject := "operator_1"
  verdict := "APPROVED"
  reasonCode := "worth_it"
  idempotencyKey := "0123456789abcdef"

def approvalRequestMet : ApprovalRequestCircumstances where
  actedAt := sampleStart
  outboxJobId := "01HZZZZZZZZZZZZZZZZZZZZZZJ"
  failure := none

theorem approvalRequest_valid : approvalRequest.commandFields.postInit = .ok () :=
  commandFields_valid (by decide) (by decide) (by decide)

def approvalCommand : MaterializeApprovedActionCommand :=
  ⟨approvalRequest.commandFields, approvalRequest_valid⟩

/-- The books with the job of the approval. -/
def requestedBooks : CaseBooks :=
  awaitingBooks.setJobs [materializationRow approvalRequestMet approvalCommand]

theorem request_awaitingBooks :
    (actOnApproval approvalRequest approvalRequestMet awaitingBooks).1 = requestedBooks := by
  have hcheck : approvalRequest.check = .ok () := by decide
  have hreached : approvalRequestMet.failure = none := rfl
  have hlocked : awaitingBooks.lockedApproval approvalRequest.merchantId
      approvalRequest.approvalId = some (pendingApproval, _) := rfl
  have hintime : approvalRequestMet.actedAt < pendingApproval.expiresAt := by decide
  have hverdict : approvalRequest.verdict ≠ "REJECTED" := by decide
  have hcommand : approvalRequest.commandFields = approvalCommand.toMaterializeFields := rfl
  have hid : isUlid approvalRequestMet.outboxJobId = true := by decide
  have hnone : awaitingBooks.existingCommand approvalRequest.merchantId
      approvalRequest.approvalId = none := rfl
  have hadmits : awaitingBooks.admitsJob
      (materializationRow approvalRequestMet approvalCommand) = true := rfl
  exact request_queues hcheck hreached hlocked (by decide) rfl rfl hintime hverdict hcommand hid
    hnone hadmits

/-- A time some seconds later. -/
def secondsLater (n : Fin 60) : Timestamp where
  micros := 63902736000000000 + n * 1000000
  nonneg := by omega
  inRange := by
    have hn := n.isLt
    unfold calendarEnd
    omega

def approvalSystem : MaterializationSystem where
  services := approvalServices
  backoff := {}

def hastyTerms : ClaimTerms where
  workerId := "worker_1"
  leaseNonce := "nonce"
  leaseDuration := seconds 1

/-- A claim of the job each two seconds. -/
def hastyClaim (n : Fin 60) : Timestamp × MaterializationCommand :=
  (secondsLater n, .claim "01HZZZZZZZZZZZZZZZZZZZZZZJ" hastyTerms)

def requestedWorld : ApprovalWorld := ⟨requestedBooks, sampleStart, []⟩

def nineClaims : List (Timestamp × MaterializationCommand) :=
  [1, 3, 5, 7, 9, 11, 13, 15, 17].map hastyClaim

def nineClaimsRun : List MaterializationStep × ApprovalWorld :=
  approvalSystem.machine.play requestedWorld nineClaims

def awaitingWorld : ApprovalWorld := ⟨awaitingBooks, sampleStart, []⟩

theorem awaitingWorld_fresh : awaitingWorld.Fresh where
  placed := by
    intro approvalId a ha
    have hmem := Table.mem_of_find ha
    obtain rfl := List.mem_singleton.mp hmem
    exact .inl ⟨_, rfl, rfl⟩
  keyed := List.nodup_nil
  jobs j hj := absurd hj List.not_mem_nil
  deliveries := rfl

def requestingStep : MaterializationStep where
  pre := awaitingWorld
  cmd := (sampleStart, .request approvalRequest approvalRequestMet)
  post := requestedWorld
  out := some (actOnApproval approvalRequest approvalRequestMet awaitingBooks).2

theorem run_requesting :
    approvalSystem.machine.Run awaitingWorld [requestingStep] requestedWorld := by
  have htakes : approvalSystem.exec awaitingWorld requestingStep.cmd =
      .ok (requestedWorld, requestingStep.out) := by
    change Except.ok ((⟨(actOnApproval approvalRequest approvalRequestMet awaitingBooks).1,
      sampleStart, []⟩ : ApprovalWorld), some _) = _
    rw [request_awaitingBooks]
    rfl
  have hstart : approvalSystem.machine.Run awaitingWorld [] awaitingWorld := .start
  exact hstart.next (s := requestingStep) htakes

/-! What a claim leaves of the job does not wait for what becomes of the delivery. -/

def leaseEnd (n : Fin 60) : Timestamp where
  micros := 63902736000000000 + n * 1000000 + 1000000
  nonneg := by omega
  inRange := by
    have hn := n.isLt
    unfold calendarEnd
    omega

def JobRecord.dueAt (job : JobRecord) (n : Fin 60) : Bool :=
  job.key = "01HZZZZZZZZZZZZZZZZZZZZZZJ" && job.isMaterialization &&
    job.claimable (secondsLater n)

def JobRecord.claimedAt (job : JobRecord) (n : Fin 60) : JobRecord :=
  job.withRow (job.claimed hastyTerms (secondsLater n) (leaseEnd n))

theorem JobRecord.key_claimedAt (job : JobRecord) (n : Fin 60) :
    (job.claimedAt n).key = job.key := by
  show (job.claimed hastyTerms (secondsLater n) (leaseEnd n)).id = job.id
  unfold OutboxRow.claimed
  split
  next => rfl
  next => rfl

theorem exec_hastyClaim {n : Fin 60} {job : JobRecord} {now : Timestamp}
    (deliveries : List ApprovalDelivery) (hnow : now ≤ secondsLater n) (hdue : job.dueAt n = true) :
    ∃ started, approvalSystem.exec ⟨requestedBooks.setJobs [job], now, deliveries⟩ (hastyClaim n) =
      .ok (⟨requestedBooks.setJobs [job.claimedAt n], secondsLater n, deliveries ++ started⟩,
        none) := by
  simp only [JobRecord.dueAt, Bool.and_eq_true, decide_eq_true_eq] at hdue
  obtain ⟨⟨hkey, hmine⟩, hclaimable⟩ := hdue
  have hterms : hastyTerms.check = .ok () := by decide
  have hexpires : shift (secondsLater n) hastyTerms.leaseDuration = .ok (leaseEnd n) :=
    shift_ok_iff.mpr rfl
  have hfound : (Table.find JobRecord.key "01HZZZZZZZZZZZZZZZZZZZZZZJ" [job]).filter
      (fun j => j.isMaterialization && j.claimable (secondsLater n)) = some job := by
    have hfind : Table.find JobRecord.key "01HZZZZZZZZZZZZZZZZZZZZZZJ" [job] = some job := by
      simp [Table.find, hkey]
    rw [hfind, Option.filter_some, hmine, hclaimable]
    rfl
  have hput : Table.put JobRecord.key
      (job.withRow (job.claimed hastyTerms (secondsLater n) (leaseEnd n))) [job] =
        [job.claimedAt n] := by
    rw [Table.put, List.map_singleton]
    exact congrArg (fun row => [row]) (if_pos (job.key_claimedAt n).symm)
  have hclaim : ∃ started, MaterializationSystem.claim [job] (secondsLater n)
      "01HZZZZZZZZZZZZZZZZZZZZZZJ" hastyTerms = .ok ([job.claimedAt n], started) := by
    unfold MaterializationSystem.claim
    rw [bind_of_ok hterms, bind_of_ok (someOr_ok_iff.mpr hfound),
      bind_of_ok (liftDomain_ok_iff.mpr hexpires)]
    dsimp only
    rw [hput]
    split
    next => exact ⟨_, rfl⟩
    next => exact ⟨_, rfl⟩
  obtain ⟨started, hclaim⟩ := hclaim
  refine ⟨started, ?_⟩
  refine bind_ok_iff.mpr ⟨(), raiseIf_of_not _ (not_lt.mpr hnow), ?_⟩
  exact bind_ok_iff.mpr ⟨_, bind_ok_iff.mpr ⟨_, hclaim, rfl⟩, rfl⟩

def dueInTurn : List (Fin 60) → JobRecord → Timestamp → Bool
  | [], _, _ => true
  | n :: rest, job, now =>
    decide (now ≤ secondsLater n) && job.dueAt n && dueInTurn rest (job.claimedAt n) (secondsLater n)

theorem play_hastyClaims (claims : List (Fin 60)) :
    ∀ (job : JobRecord) (now : Timestamp) (deliveries : List ApprovalDelivery),
      dueInTurn claims job now = true →
        ∃ started, (approvalSystem.machine.play ⟨requestedBooks.setJobs [job], now, deliveries⟩
          (claims.map hastyClaim)).2 = ⟨requestedBooks.setJobs [claims.foldl JobRecord.claimedAt job],
            claims.foldl (fun _ n => secondsLater n) now, started⟩ := by
  induction claims with
  | nil => exact fun job now deliveries _ => ⟨deliveries, rfl⟩
  | cons n rest ih =>
    intro job now deliveries hdue
    simp only [dueInTurn, Bool.and_eq_true, decide_eq_true_eq] at hdue
    obtain ⟨⟨hnow, hdue⟩, hrest⟩ := hdue
    obtain ⟨started, hexec⟩ := exec_hastyClaim deliveries hnow hdue
    obtain ⟨final, hfinal⟩ := ih (job.claimedAt n) (secondsLater n) (deliveries ++ started) hrest
    refine ⟨final, ?_⟩
    have hexec : approvalSystem.machine.exec ⟨requestedBooks.setJobs [job], now, deliveries⟩
      (hastyClaim n) = _ := hexec
    rw [List.map_cons, Machine.play, hexec]
    exact hfinal

/-- The world after the first claim. -/
def claimedWorld : ApprovalWorld :=
  (approvalSystem.machine.play requestedWorld [hastyClaim 1]).2

theorem exec_claimedWorld :
    approvalSystem.machine.exec requestedWorld (hastyClaim 1) = .ok (claimedWorld, none) := by
  obtain ⟨started, hclaim⟩ := exec_hastyClaim [] (by decide : sampleStart ≤ secondsLater 1)
    (rfl : (materializationRow approvalRequestMet approvalCommand).dueAt 1 = true)
  have hclaim : approvalSystem.machine.exec requestedWorld (hastyClaim 1) = _ := hclaim
  have hworld : claimedWorld = ⟨requestedBooks.setJobs
      [(materializationRow approvalRequestMet approvalCommand).claimedAt 1], secondsLater 1,
        [] ++ started⟩ := by
    rw [claimedWorld, Machine.play, hclaim]
    rfl
  rw [hworld]
  exact hclaim

def claimingStep : MaterializationStep where
  pre := requestedWorld
  cmd := hastyClaim 1
  post := claimedWorld
  out := none

/-- After one claim the job is still to be delivered. -/
theorem verdict_never_stranded_claimed : claimedWorld.NotStranded := by
  have hclaim : approvalSystem.machine.Takes claimingStep := by
    unfold Machine.Takes claimingStep
    dsimp only
    exact exec_claimedWorld
  have hrun := run_requesting.next (s := claimingStep) hclaim
  refine verdict_never_stranded awaitingWorld_fresh hrun fun s hs => ?_
  rcases List.mem_cons.mp hs with rfl | hs
  · exact trivial
  · obtain rfl := List.mem_singleton.mp hs
    intro job hjob _
    obtain rfl := List.mem_singleton.mp (Table.mem_of_find hjob)
    exact (by decide : 0 < 8)

/-- The job after the last of them. -/
def exhaustedJob : JobRecord :=
  { materializationRow approvalRequestMet approvalCommand with
    status := .deadLetter
    attemptCount := 8
    deliveryVersion := 9
    retryMode := .reconcileOnly
    lastErrorCode := some "max_attempts_exhausted_before_claim"
    lastErrorAt := some (secondsLater 17)
    deadLetterReason := some "max_attempts_exhausted_before_claim"
    deadLetteredAt := some (secondsLater 17)
    updatedAt := secondsLater 17 }

theorem nineClaims_exhaust :
    nineClaimsRun.2 = ⟨requestedBooks.setJobs [exhaustedJob], secondsLater 17,
      nineClaimsRun.2.deliveries⟩ := by
  have hdue : dueInTurn [1, 3, 5, 7, 9, 11, 13, 15, 17]
      (materializationRow approvalRequestMet approvalCommand) sampleStart = true := rfl
  obtain ⟨started, hplayed⟩ := play_hastyClaims _ _ _ [] hdue
  have hend : nineClaimsRun.2 = ⟨requestedBooks.setJobs [exhaustedJob], secondsLater 17, started⟩ :=
    hplayed
  rw [hend]

theorem verdict_stranded :
    ∃ (start final : ApprovalWorld) (steps : List MaterializationStep),
      start.Fresh ∧ approvalSystem.machine.Run start steps final ∧ ¬final.NotStranded := by
  have hclaims : approvalSystem.machine.Run requestedWorld nineClaimsRun.1 nineClaimsRun.2 :=
    Machine.Run.of_play approvalSystem.machine requestedWorld nineClaims
  refine ⟨awaitingWorld, nineClaimsRun.2, _, awaitingWorld_fresh, run_requesting.append hclaims, ?_⟩
  rw [nineClaims_exhaust]
  generalize nineClaimsRun.2.deliveries = deliveries
  have hfound : Table.find ApprovalRecord.key "01HZZZZZZZZZZZZZZZZZZZZZZE"
      (requestedBooks.setJobs [exhaustedJob]).approvals = some pendingApproval := rfl
  have hintime : secondsLater 17 < pendingApproval.expiresAt := by decide
  have hmine : exhaustedJob.Materializes pendingApproval.merchantId
      "01HZZZZZZZZZZZZZZZZZZZZZZE" := ⟨rfl, rfl⟩
  refine stranded_of_ended hfound rfl ⟨_, rfl, rfl⟩ hintime
    ⟨exhaustedJob, List.mem_singleton.mpr rfl, hmine⟩ fun j hj _ => ?_
  rw [List.mem_singleton.mp hj]
  exact .inr (.inl rfl)

end Retrywise.ControlPlane
