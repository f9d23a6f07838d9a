import Retrywise.ControlPlane.ApprovalOutcome
import Retrywise.ControlPlane.AssessmentRedelivery

/-!
# Approvals: one verdict each

The calls of `act` on any approvals, between assessments and the other writers of the same
cases. A call is one command here, applied to the books its transaction finds; the books it has
loaded the approval from, and those its locking statement has seen the unlocked tables in, may
be any.

> `one_verdict_per_approval`: in every run at most one command decides an approval and at most
> one takes a case out of `APPROVAL_REQUIRED`; a call does both or raises and changes nothing;
> and what an approved action is made of is inserted by the one call that approves it, which has
> read under its locks the row the gate was shown.
-/

namespace Retrywise.ControlPlane

open Retrywise.Foundation Retrywise.Domain

/-! ## What an assessment plans -/

/-- One action with its instrument and its job is added. -/
structure PlanAdded (books after : CaseBooks) (action : ActionRecord)
    (instrument : InstrumentRecord) (job : JobRecord) : Prop where
  actions : after.actions = books.actions ++ [action]
  instruments : after.instruments = books.instruments ++ [instrument]
  jobs : after.jobs = books.jobs ++ [job]
  isNew : ∀ old ∈ books.actions, old.id ≠ action.id
  isNewJob : ∀ old ∈ books.jobs, old.id ≠ job.id
  instrumentAction : instrument.actionId = action.id
  jobAction : job.aggregateId = action.id
  jobKey : job.idempotencyKey = "create-standard-payment-link:" ++ action.actionKey

/-- No action is added. -/
structure PlansSame (books after : CaseBooks) : Prop where
  actions : after.actions = books.actions
  instruments : after.instruments = books.instruments
  jobs : after.jobs = books.jobs

section

variable [Hashlib] {repository : AssessmentRepository} {readings : CommitReadings}
  {command : AssessRecoveryCaseCommand} {truth : FreshProviderPaymentTruth}
  {health : FreshMethodHealthTruth} {planner : AssessmentPlanner} {diagnosis : DiagnosisResult}
  {initial : AssessmentSnapshot} {books after : CaseBooks}

theorem persistPlan_plan {s : AssessmentSnapshot} {plan : AssessmentPlan}
    (h : persistPlan repository readings command s truth health planner plan books = .ok after) :
    PlansSame books after ∨ ∃ action instrument job,
      PlanAdded books after action instrument job ∧ action.approvalId = none := by
  cases plan with
  | blocked plan =>
    obtain ⟨old, finish, approvals, -, -, -, -, -, rfl⟩ := persistBlocked_ok h
    exact .inl ⟨List.append_nil _, List.append_nil _, List.append_nil _⟩
  | authorized plan =>
    obtain ⟨old, payload, -, -, -, hadmitted, rfl⟩ := persistAuthorized_ok h
    have hinserted := hadmitted.inserted _ (List.mem_singleton.mpr rfl)
    have hnew := CaseBooks.key_ne_of_admitsAction hinserted
    have hjob := CaseBooks.id_ne_of_admitsJob (hadmitted.jobs _ (List.mem_singleton.mpr rfl))
    exact .inr ⟨_, _, _, ⟨rfl, rfl, rfl, hnew, hjob, rfl, rfl, rfl⟩, rfl⟩

/-- A commit leaves the books, or persists a plan. -/
theorem commitPlan_persists {returned : Except AssessmentError AssessmentResult}
    (h : commitPlan repository readings command truth health planner diagnosis initial books =
      (after, returned)) :
    after = books ∨ ∃ s plan,
      persistPlan repository readings command s truth health planner plan books = .ok after := by
  unfold commitPlan at h
  split at h
  next written result hwork =>
    rw [sanitized_ok_iff] at hwork
    unfold commitWork at hwork
    obtain ⟨_, -, hwork⟩ := bind_ok_iff.mp hwork
    obtain ⟨s, -, hwork⟩ := bind_ok_iff.mp hwork
    obtain ⟨_, -, hwork⟩ := bind_ok_iff.mp hwork
    obtain ⟨_, -, hwork⟩ := bind_ok_iff.mp hwork
    obtain ⟨_, -, hwork⟩ := bind_ok_iff.mp hwork
    obtain ⟨plan, -, hwork⟩ := bind_ok_iff.mp hwork
    obtain ⟨persisted, hpersisted, hwork⟩ := bind_ok_iff.mp hwork
    obtain ⟨rfl, -⟩ := Prod.mk.inj (pure_ok_iff.mp hwork)
    exact .inr ⟨s, plan, (Prod.mk.inj h).1 ▸ hpersisted⟩
  next => exact .inl (Prod.mk.inj h).1.symm

theorem commitPlan_plan {returned : Except AssessmentError AssessmentResult}
    (h : commitPlan repository readings command truth health planner diagnosis initial books =
      (after, returned)) :
    PlansSame books after ∨ ∃ action instrument job,
      PlanAdded books after action instrument job ∧ action.approvalId = none := by
  rcases commitPlan_persists h with rfl | ⟨s, plan, hpersisted⟩
  · exact .inl ⟨rfl, rfl, rfl⟩
  · exact persistPlan_plan hpersisted

/-- A delivery of an assessment leaves the books, or commits a plan. -/
theorem assess_commits {service : AssessmentService} {delivery : AssessmentDelivery}
    {seen : CaseBooks} {returned : Except AssessmentError AssessmentResult}
    (h : service.assess delivery command seen books = (after, returned)) :
    after = books ∨ ∃ truth health diagnosis s,
      commitPlan service.repository delivery.readings command truth health service.planner
        diagnosis s books = (after, returned) := by
  unfold AssessmentService.assess at h
  split at h
  next => exact .inl (Prod.mk.inj h).1.symm
  next s _ =>
    split at h
    next => exact .inl (Prod.mk.inj h).1.symm
    next truth health diagnosis _ =>
      split at h
      next => exact .inl (Prod.mk.inj h).1.symm
      next => exact .inr ⟨truth, health, diagnosis, s, h⟩

end

/-! ## The machine -/

/-- The states a case is in until it has an approval, and while it awaits it: only an
assessment writes them. -/
def assessmentStates : List RecoveryState := [.observing, .assessing, .waiting, .approvalRequired]

/-- `PostgresApprovalService` and the assessments beside it. -/
structure ApprovalServices where
  approvals : ApprovalService
  assessments : AssessmentService

/-- A call of `act`; a delivery of an assessment; a verdict of another writer; and what the other
writers do with a case and with the other tables. -/
inductive ApprovalCommand where
  | act (call : ApprovalCall) (met : ApprovalCircumstances) (seen stale : CaseBooks)
  | assess (delivery : AssessmentDelivery) (command : AssessRecoveryCaseCommand) (seen : CaseBooks)
  | decide (id : String) (decided : ApprovalRecord)
  | moveCase (clock : Timestamp) (id : String) (moved : CaseRecord)
  | openCase (new : CaseRecord)
  | writeOthers (others : CaseBooks)

/-- What a call of `act` returns. -/
abbrev ApprovalReturn := Option (Except ApprovalError ApprovalActionResult)

/-- Only assessments and approvals insert actions of an approval, instruments, and jobs that
create a link. -/
def CaseBooks.keepsPlans (books others : CaseBooks) : Bool :=
  (others.actions.all fun a => a.approvalId.isNone ||
    books.actions.any fun old => old.id = a.id && old.approvalId = a.approvalId) &&
  (others.instruments.all fun i =>
    books.instruments.any fun old => old.id = i.id && old.actionId = i.actionId) &&
  others.jobs.all fun j => j.commandType ≠ "CREATE_STANDARD_PAYMENT_LINK" ||
    books.jobs.any fun old => old.id = j.id && old.aggregateId = j.aggregateId &&
      old.commandType = j.commandType

/-- One command; a call of `act` returns what it returns. -/
def approvalExec [Hashlib] (services : ApprovalServices) (books : CaseBooks) :
    ApprovalCommand → Except ControlPlaneError (CaseBooks × ApprovalReturn)
  | .act call met seen stale =>
    let reached := services.approvals.act call met stale seen books
    .ok (reached.1, some reached.2)
  | .assess delivery command seen =>
    .ok ((services.assessments.assess delivery command seen books).1, none)
  | .decide id decided => do
    let after ← books.updateApproval (.database "no approval") (.database "refused") id
      (fun _ => true) fun _ => decided
    return (after, none)
  | .moveCase clock id moved => do
    raiseIf (moved.state ∈ assessmentStates) (.database "an assessment writes this state")
    let after ← books.updateCase (.database "no case") (.database "refused") clock id
      (fun _ => true) fun _ => moved
    return (after, none)
  | .openCase new => do
    raiseIf (books.cases.any fun c => c.key = new.key) (.database "duplicate key")
    return (books.setCases (books.cases ++ [new]), none)
  | .writeOthers others => do
    raiseIf (books.keepsPlans others = false) (.database "no writer inserts such a row")
    return ((others.setCases books.cases).setApprovals books.approvals, none)

def approvalMachine [Hashlib] (services : ApprovalServices) :
    Machine CaseBooks ApprovalCommand ApprovalReturn ControlPlaneError where
  exec := approvalExec services

/-- A step of the machine. -/
abbrev ApprovalStep := Step CaseBooks ApprovalCommand ApprovalReturn

/-! ## What a step does with the approvals and the cases -/

/-- An approval is written under its trigger, or approvals are added. -/
inductive ApprovalsMove (pre post : CaseBooks) : Prop
  | same (happrovals : post.approvals = pre.approvals)
  | written {old new : ApprovalRecord}
      (hold : Table.find ApprovalRecord.key new.key pre.approvals = some old)
      (hadmits : old.admits new = true)
      (happrovals : post.approvals = Table.put ApprovalRecord.key new pre.approvals)
  | added {more : List ApprovalRecord} (happrovals : post.approvals = pre.approvals ++ more)

/-- A case is moved, to a state only an assessment writes only where it is assessed, or cases
are added. -/
inductive CasesMove (pre post : CaseBooks) : Prop
  | same (hcases : post.cases = pre.cases)
  | moved {old new : CaseRecord}
      (hold : Table.find CaseRecord.key new.key pre.cases = some old)
      (hstate : new.state ∉ assessmentStates ∨ old.state = .observing ∨ old.state = .waiting)
      (hcases : post.cases = Table.put CaseRecord.key new pre.cases)
  | added {more : List CaseRecord} (hcases : post.cases = pre.cases ++ more)

section

variable [Hashlib] {services : ApprovalServices} {s : ApprovalStep}

/-- The approvals and the cases a call writes. -/
theorem moves_of_given {service : ApprovalService} {call : ApprovalCall}
    {met : ApprovalCircumstances} {seen stale books after : CaseBooks}
    {result : ApprovalActionResult} {loaded : ApprovalSnapshot} {terms : VerdictTerms}
    {a : ApprovalRecord} {c : CaseRecord}
    (h : VerdictGiven service call met seen stale books result loaded terms a c after) :
    ApprovalsMove books after ∧ CasesMove books after := by
  have happroval : Table.find ApprovalRecord.key (a.decided terms).key books.approvals =
      some a := by
    have hkey : a.key = loaded.approvalId := Table.key_of_find h.locked.approval
    rw [show (a.decided terms).key = loaded.approvalId from hkey]
    exact h.locked.approval
  have hid : c.key = loaded.recoveryCaseId := Table.key_of_find h.locked.recoveryCase
  have hcase : Table.find CaseRecord.key c.key books.cases = some c := by
    rw [hid]
    exact h.locked.recoveryCase
  cases h.written with
  | closed hverdict =>
    have hstate : (c.suppressed terms.reasonCode terms.actedAt).state ∉ assessmentStates := by
      simp [CaseRecord.suppressed, assessmentStates]
    exact ⟨.written happroval h.admits rfl,
      @CasesMove.moved _ _ c (c.suppressed terms.reasonCode terms.actedAt) hcase (.inl hstate) rfl⟩
  | approved hverdict hcall hallows hrows hnew hnewJob =>
    have hstate : ∀ id, (c.approved id terms.actedAt).state ∉ assessmentStates := by
      simp [CaseRecord.approved, assessmentStates]
    exact ⟨.written happroval h.admits rfl,
      @CasesMove.moved _ _ c (c.approved _ terms.actedAt) hcase (.inl (hstate _)) rfl⟩

theorem moves_of_act {service : ApprovalService} {call : ApprovalCall}
    {met : ApprovalCircumstances} {seen stale books after : CaseBooks}
    {returned : Except ApprovalError ApprovalActionResult}
    (h : service.act call met stale seen books = (after, returned)) :
    ApprovalsMove books after ∧ CasesMove books after := by
  cases returned with
  | error e =>
    obtain rfl := act_error h
    exact ⟨.same rfl, .same rfl⟩
  | ok result =>
    obtain ⟨loaded, terms, a, c, hgiven⟩ := act_ok h
    exact moves_of_given hgiven

theorem moves_of_assess {service : AssessmentService} {delivery : AssessmentDelivery}
    {command : AssessRecoveryCaseCommand} {seen books after : CaseBooks}
    {returned : Except AssessmentError AssessmentResult}
    (h : service.assess delivery command seen books = (after, returned)) :
    ApprovalsMove books after ∧ CasesMove books after := by
  rcases assess_commits h with rfl | ⟨truth, health, diagnosis, s, h⟩
  · exact ⟨.same rfl, .same rfl⟩
  · cases returned with
    | error e =>
      obtain rfl := commitPlan_error h
      exact ⟨.same rfl, .same rfl⟩
    | ok result =>
      obtain ⟨_, old, rows, -, -, hfound, hcommitted, hadmitted, rfl⟩ := commitPlan_ok h
      have hkey : rows.finished.key = old.key :=
        (admitsCase_next hadmitted.finished).1.trans (admitsCase_next hadmitted.started).1
      have hid : rows.finished.key = command.recoveryCaseId :=
        hkey.trans (Table.key_of_find hfound)
      rw [← hid] at hfound
      exact ⟨.added rfl, .moved hfound (.inr hcommitted.startState) rfl⟩

theorem moves_step (hs : (approvalMachine services).Takes s) :
    ApprovalsMove s.pre s.post ∧ CasesMove s.pre s.post := by
  obtain ⟨pre, cmd, post, out⟩ := s
  change approvalExec services pre cmd = .ok (post, out) at hs
  cases cmd with
  | act call met seen stale =>
    obtain ⟨rfl, -⟩ := Prod.mk.inj (Except.ok.inj hs)
    exact moves_of_act (Prod.eta _)
  | assess delivery command seen =>
    obtain ⟨rfl, -⟩ := Prod.mk.inj (Except.ok.inj hs)
    exact moves_of_assess (Prod.eta _)
  | decide id decided =>
    obtain ⟨after, hafter, hs⟩ := bind_ok_iff.mp hs
    obtain ⟨rfl, -⟩ := Prod.mk.inj (pure_ok_iff.mp hs)
    obtain ⟨old, hold, -, hadmits, rfl⟩ := CaseBooks.updateApproval_ok_iff.mp hafter
    have hkey : decided.key = id := by
      have hid : decided.key = old.key := by
        simp only [ApprovalRecord.admits, Bool.and_eq_true, decide_eq_true_eq] at hadmits
        exact hadmits.1.1.1.1.1.1.1.1.1
      exact hid.trans (Table.key_of_find hold)
    rw [← hkey] at hold
    exact ⟨.written hold hadmits rfl, .same rfl⟩
  | moveCase clock id moved =>
    obtain ⟨_, hstate, hs⟩ := bind_ok_iff.mp hs
    obtain ⟨after, hafter, hs⟩ := bind_ok_iff.mp hs
    obtain ⟨rfl, -⟩ := Prod.mk.inj (pure_ok_iff.mp hs)
    obtain ⟨old, hold, -, hadmits, rfl⟩ := CaseBooks.updateCase_ok_iff.mp hafter
    have hkey : moved.key = id :=
      (admitsCase_next hadmits).1.trans (Table.key_of_find hold)
    rw [← hkey] at hold
    exact ⟨.same rfl, .moved hold (.inl (raiseIf_ok_iff.mp hstate)) rfl⟩
  | openCase new =>
    obtain ⟨_, -, hs⟩ := bind_ok_iff.mp hs
    obtain ⟨rfl, -⟩ := Prod.mk.inj (pure_ok_iff.mp hs)
    exact ⟨.same rfl, .added rfl⟩
  | writeOthers others =>
    obtain ⟨_, -, hs⟩ := bind_ok_iff.mp hs
    obtain ⟨rfl, -⟩ := Prod.mk.inj (pure_ok_iff.mp hs)
    exact ⟨.same rfl, .same rfl⟩

end

/-! ## Decided approvals, and cases past their approval -/

/-- A verdict has been given. -/
def CaseBooks.Decided (books : CaseBooks) (approvalId : String) : Prop :=
  ∃ a, Table.find ApprovalRecord.key approvalId books.approvals = some a ∧ a.verdict ≠ .pending

/-- A verdict is awaited. -/
def CaseBooks.Pending (books : CaseBooks) (approvalId : String) : Prop :=
  ∃ a, Table.find ApprovalRecord.key approvalId books.approvals = some a ∧ a.verdict = .pending

/-- The case awaits an approval. -/
def CaseBooks.Awaits (books : CaseBooks) (caseId : String) : Prop :=
  ∃ c, Table.find CaseRecord.key caseId books.cases = some c ∧ c.state = .approvalRequired

/-- The case is in none of the states an assessment writes on its way to an approval. -/
def CaseBooks.PastApproval (books : CaseBooks) (caseId : String) : Prop :=
  ∃ c, Table.find CaseRecord.key caseId books.cases = some c ∧ c.state ∉ assessmentStates

/-- The step gives the verdict. -/
def Decides (approvalId : String) (s : ApprovalStep) : Prop :=
  s.pre.Pending approvalId ∧ s.post.Decided approvalId

/-- The step takes the case out of `APPROVAL_REQUIRED`. -/
def LeavesApproval (caseId : String) (s : ApprovalStep) : Prop :=
  s.pre.Awaits caseId ∧ ¬s.post.Awaits caseId

section

variable {pre post : CaseBooks} {approvalId caseId : String}

theorem not_pending_of_decided (h : pre.Decided approvalId) : ¬pre.Pending approvalId := by
  intro hpending
  obtain ⟨a, ha, hdecided⟩ := h
  obtain ⟨b, hb, hpending⟩ := hpending
  obtain rfl := Option.some.inj (ha.symm.trans hb)
  exact hdecided hpending

theorem not_awaits_of_past (h : pre.PastApproval caseId) : ¬pre.Awaits caseId := by
  intro hawaits
  obtain ⟨c, hc, hpast⟩ := h
  obtain ⟨d, hd, hstate⟩ := hawaits
  obtain rfl := Option.some.inj (hc.symm.trans hd)
  rw [hstate] at hpast
  exact hpast (by decide)

/-- A verdict is final. -/
theorem ApprovalsMove.decided (hmove : ApprovalsMove pre post) (h : pre.Decided approvalId) :
    post.Decided approvalId := by
  obtain ⟨a, ha, hdecided⟩ := h
  cases hmove with
  | same happrovals => exact ⟨a, happrovals ▸ ha, hdecided⟩
  | @written old new hold hadmits happrovals =>
    by_cases hkey : new.key = approvalId
    · obtain rfl := Option.some.inj ((hkey ▸ hold).symm.trans ha)
      have hsame : new = old := by
        simp only [ApprovalRecord.admits, Bool.and_eq_true, Bool.or_eq_true,
          decide_eq_true_eq] at hadmits
        exact hadmits.1.1.2.resolve_left hdecided
      refine ⟨new, ?_, hsame ▸ hdecided⟩
      rw [happrovals]
      exact Table.find_put (hkey ▸ hold) hkey
    · refine ⟨a, ?_, hdecided⟩
      rw [happrovals, Table.find_put_of_ne hkey]
      exact ha
  | @added more happrovals =>
    exact ⟨a, happrovals ▸ Table.find_append more ha, hdecided⟩

/-- A case that has left `APPROVAL_REQUIRED` does not come back. -/
theorem CasesMove.past (hmove : CasesMove pre post) (h : pre.PastApproval caseId) :
    post.PastApproval caseId := by
  obtain ⟨c, hc, hpast⟩ := h
  cases hmove with
  | same hcases => exact ⟨c, hcases ▸ hc, hpast⟩
  | @moved old new hold hstate hcases =>
    by_cases hkey : new.key = caseId
    · obtain rfl := Option.some.inj ((hkey ▸ hold).symm.trans hc)
      refine ⟨new, ?_, ?_⟩
      · rw [hcases]
        exact Table.find_put (hkey ▸ hold) hkey
      · rcases hstate with hstate | hstate | hstate
        · exact hstate
        · exact absurd (by rw [hstate]; decide) hpast
        · exact absurd (by rw [hstate]; decide) hpast
    · refine ⟨c, ?_, hpast⟩
      rw [hcases, Table.find_put_of_ne hkey]
      exact hc
  | @added more hcases => exact ⟨c, hcases ▸ Table.find_append more hc, hpast⟩

/-- Where it goes is past its approval. -/
theorem CasesMove.past_of_leaves (hmove : CasesMove pre post) (h : pre.Awaits caseId)
    (hleft : ¬post.Awaits caseId) : post.PastApproval caseId := by
  obtain ⟨c, hc, hawaits⟩ := h
  cases hmove with
  | same hcases => exact absurd ⟨c, hcases ▸ hc, hawaits⟩ hleft
  | @moved old new hold hstate hcases =>
    by_cases hkey : new.key = caseId
    · obtain rfl := Option.some.inj ((hkey ▸ hold).symm.trans hc)
      refine ⟨new, ?_, ?_⟩
      · rw [hcases]
        exact Table.find_put (hkey ▸ hold) hkey
      · rcases hstate with hstate | hstate | hstate
        · exact hstate
        · exact absurd (hawaits.symm.trans hstate) (by decide)
        · exact absurd (hawaits.symm.trans hstate) (by decide)
    · refine absurd ⟨c, ?_, hawaits⟩ hleft
      rw [hcases, Table.find_put_of_ne hkey]
      exact hc
  | @added more hcases =>
    exact absurd ⟨c, hcases ▸ Table.find_append more hc, hawaits⟩ hleft

end

/-! ## The rows of an approved action -/

/-- The action is one of the approval. -/
def CaseBooks.ActsFor (books : CaseBooks) (approvalId actionId : String) : Prop :=
  ∃ a ∈ books.actions, a.id = actionId ∧ a.approvalId = some approvalId

/-- No action of the approval is added, and no instrument and no job for one. -/
structure NoneAdded (approvalId : String) (pre post : CaseBooks) : Prop where
  actions : ∀ actionId, post.ActsFor approvalId actionId → pre.ActsFor approvalId actionId
  instruments : ∀ i ∈ post.instruments, post.ActsFor approvalId i.actionId →
    ∃ old ∈ pre.instruments, old.id = i.id
  jobs : ∀ j ∈ post.jobs, j.commandType = "CREATE_STANDARD_PAYMENT_LINK" →
    post.ActsFor approvalId j.aggregateId → ∃ old ∈ pre.jobs, old.id = j.id

section

variable {pre post : CaseBooks} {approvalId : String}

theorem NoneAdded.of_same (h : PlansSame pre post) : NoneAdded approvalId pre post := by
  refine ⟨fun actionId hacts => ?_, fun i hi _ => ?_, fun j hj _ _ => ?_⟩
  · unfold CaseBooks.ActsFor at hacts
    rw [h.actions] at hacts
    exact hacts
  · exact ⟨i, h.instruments ▸ hi, rfl⟩
  · exact ⟨j, h.jobs ▸ hj, rfl⟩

/-- A plan of another approval, or of none, is none of this one. -/
theorem NoneAdded.of_plan {action : ActionRecord} {instrument : InstrumentRecord}
    {job : JobRecord} (h : PlanAdded pre post action instrument job)
    (hother : action.approvalId ≠ some approvalId) : NoneAdded approvalId pre post := by
  have hacts : ∀ actionId, post.ActsFor approvalId actionId →
      pre.ActsFor approvalId actionId := by
    intro actionId hacts
    obtain ⟨a, ha, hid, happroval⟩ := hacts
    rw [h.actions] at ha
    rcases List.mem_append.mp ha with ha | ha
    · exact ⟨a, ha, hid, happroval⟩
    · rw [List.mem_singleton.mp ha] at happroval
      exact absurd happroval hother
  -- the new action is not among the old ones
  have hnone : ¬post.ActsFor approvalId action.id := by
    intro hnew
    obtain ⟨a, ha, hid, -⟩ := hacts action.id hnew
    exact h.isNew a ha hid
  refine ⟨hacts, fun i hi hfor => ?_, fun j hj _ hfor => ?_⟩
  · rw [h.instruments] at hi
    rcases List.mem_append.mp hi with hi | hi
    · exact ⟨i, hi, rfl⟩
    · rw [List.mem_singleton.mp hi, h.instrumentAction] at hfor
      exact absurd hfor hnone
  · rw [h.jobs] at hj
    rcases List.mem_append.mp hj with hj | hj
    · exact ⟨j, hj, rfl⟩
    · rw [List.mem_singleton.mp hj, h.jobAction] at hfor
      exact absurd hfor hnone

theorem NoneAdded.of_keepsPlans {others : CaseBooks} (h : pre.keepsPlans others = true)
    (hactions : post.actions = others.actions) (hinstruments : post.instruments = others.instruments)
    (hjobs : post.jobs = others.jobs) : NoneAdded approvalId pre post := by
  simp only [CaseBooks.keepsPlans, Bool.and_eq_true, List.all_eq_true, List.any_eq_true,
    Bool.or_eq_true, decide_eq_true_eq, Option.isNone_iff_eq_none] at h
  obtain ⟨⟨hkeepsActions, hkeepsInstruments⟩, hkeepsJobs⟩ := h
  refine ⟨fun actionId hacts => ?_, fun i hi _ => ?_, fun j hj hcommand _ => ?_⟩
  · obtain ⟨a, ha, hid, happroval⟩ := hacts
    rcases hkeepsActions a (hactions ▸ ha) with hnone | ⟨old, hold, hsame, hfor⟩
    · exact absurd (hnone.symm.trans happroval) (by simp)
    · exact ⟨old, hold, hsame.trans hid, hfor.trans happroval⟩
  · obtain ⟨old, hold, hid, -⟩ := hkeepsInstruments i (hinstruments ▸ hi)
    exact ⟨old, hold, hid⟩
  · rcases hkeepsJobs j (hjobs ▸ hj) with hother | ⟨old, hold, ⟨hid, -⟩, -⟩
    · exact absurd hcommand hother
    · exact ⟨old, hold, hid⟩

end

/-- The call that approves. -/
def ApprovesIn (approvalId : String) (s : ApprovalStep) : Prop :=
  ∃ call met seen stale result, s.cmd = .act call met seen stale ∧ call.approvalId = approvalId ∧
    s.out = some (.ok result) ∧ result.verdict = .approved

section

variable [Hashlib] {services : ApprovalServices} {s : ApprovalStep} {approvalId : String}

/-- The rows of an approved action come from the call that approves. -/
theorem noneAdded_step (hs : (approvalMachine services).Takes s) :
    NoneAdded approvalId s.pre s.post ∨ ApprovesIn approvalId s := by
  obtain ⟨pre, cmd, post, out⟩ := s
  change approvalExec services pre cmd = .ok (post, out) at hs
  cases cmd with
  | act call met seen stale =>
    obtain ⟨rfl, rfl⟩ := Prod.mk.inj (Except.ok.inj hs)
    cases hact : services.approvals.act call met stale seen pre with
    | mk after returned =>
      cases returned with
      | error e =>
        obtain rfl := act_error hact
        exact .inl (.of_same ⟨rfl, rfl, rfl⟩)
      | ok result =>
        obtain ⟨loaded, terms, a, c, hgiven⟩ := act_ok hact
        cases hgiven.written with
        | closed hverdict => exact .inl (.of_same ⟨rfl, rfl, rfl⟩)
        | approved hverdict hcall hallows hrows hnew hnewJob =>
          by_cases hid : call.approvalId = approvalId
          · exact .inr ⟨call, met, seen, stale, result, rfl, hid, rfl,
              hgiven.resultVerdict.trans hverdict⟩
          · have hother : loaded.approvalId ≠ approvalId := hgiven.readApproval ▸ hid
            refine .inl (.of_plan ⟨rfl, rfl, rfl, hnew, hnewJob, hrows.instrumentAction,
              hrows.jobAction, hrows.jobKey⟩ ?_)
            intro hsame
            exact hother (Option.some.inj (hrows.approval.symm.trans hsame))
  | assess delivery command seen =>
    obtain ⟨rfl, -⟩ := Prod.mk.inj (Except.ok.inj hs)
    left
    rcases assess_commits (Prod.eta _) with hsame | ⟨truth, health, diagnosis, initial, hcommit⟩
    · exact .of_same ⟨congrArg CaseBooks.actions hsame, congrArg CaseBooks.instruments hsame,
        congrArg CaseBooks.jobs hsame⟩
    · rcases commitPlan_plan hcommit with hsame | ⟨action, instrument, job, hplan, hnone⟩
      · exact .of_same hsame
      · exact .of_plan hplan (by rw [hnone]; exact nofun)
  | decide id decided =>
    obtain ⟨after, hafter, hs⟩ := bind_ok_iff.mp hs
    obtain ⟨rfl, -⟩ := Prod.mk.inj (pure_ok_iff.mp hs)
    obtain ⟨old, -, -, -, rfl⟩ := CaseBooks.updateApproval_ok_iff.mp hafter
    exact .inl (.of_same ⟨rfl, rfl, rfl⟩)
  | moveCase clock id moved =>
    obtain ⟨_, -, hs⟩ := bind_ok_iff.mp hs
    obtain ⟨after, hafter, hs⟩ := bind_ok_iff.mp hs
    obtain ⟨rfl, -⟩ := Prod.mk.inj (pure_ok_iff.mp hs)
    obtain ⟨old, -, -, -, rfl⟩ := CaseBooks.updateCase_ok_iff.mp hafter
    exact .inl (.of_same ⟨rfl, rfl, rfl⟩)
  | openCase new =>
    obtain ⟨_, -, hs⟩ := bind_ok_iff.mp hs
    obtain ⟨rfl, -⟩ := Prod.mk.inj (pure_ok_iff.mp hs)
    exact .inl (.of_same ⟨rfl, rfl, rfl⟩)
  | writeOthers others =>
    obtain ⟨_, hkeeps, hs⟩ := bind_ok_iff.mp hs
    obtain ⟨rfl, -⟩ := Prod.mk.inj (pure_ok_iff.mp hs)
    rw [raiseIf_ok_iff, Bool.not_eq_false] at hkeeps
    exact .inl (.of_keepsPlans hkeeps rfl rfl rfl)

/-! ## A call -/

/-- A call that returns decides its approval and takes the case out of `APPROVAL_REQUIRED`. -/
theorem decides_of_given {service : ApprovalService} {call : ApprovalCall}
    {met : ApprovalCircumstances} {seen stale pre post : CaseBooks}
    {result : ApprovalActionResult} {loaded : ApprovalSnapshot} {terms : VerdictTerms}
    {a : ApprovalRecord} {c : CaseRecord} {cmd : ApprovalCommand} {out : ApprovalReturn}
    (h : VerdictGiven service call met seen stale pre result loaded terms a c post) :
    Decides call.approvalId ⟨pre, cmd, post, out⟩ ∧
      LeavesApproval loaded.recoveryCaseId ⟨pre, cmd, post, out⟩ := by
  have ha := h.locked.approval
  have hc := h.locked.recoveryCase
  rw [h.readApproval] at ha
  have hkeyA : (a.decided terms).key = call.approvalId := (Table.key_of_find ha : a.key = _)
  have hkeyC : c.key = loaded.recoveryCaseId := Table.key_of_find hc
  have hdecided : Table.find ApprovalRecord.key call.approvalId
      (Table.put ApprovalRecord.key (a.decided terms) pre.approvals) = some (a.decided terms) :=
    Table.find_put ha hkeyA
  have hmoved : ∀ new : CaseRecord, new.key = c.key →
      Table.find CaseRecord.key loaded.recoveryCaseId (Table.put CaseRecord.key new pre.cases) =
        some new := by
    intro new hnew
    exact Table.find_put hc (hnew.trans hkeyC)
  have hpending : pre.Pending call.approvalId := ⟨a, ha, h.locked.pending⟩
  have hawaits : pre.Awaits loaded.recoveryCaseId := ⟨c, hc, h.locked.awaiting⟩
  cases h.written with
  | closed hverdict =>
    refine ⟨⟨hpending, a.decided terms, hdecided, h.final⟩, hawaits, ?_⟩
    apply not_awaits_of_past
    exact ⟨_, hmoved (c.suppressed terms.reasonCode terms.actedAt) rfl,
      by simp [CaseRecord.suppressed, assessmentStates]⟩
  | @approved action instrument job hverdict hcall hallows hrows hnew hnewJob =>
    refine ⟨⟨hpending, a.decided terms, hdecided, h.final⟩, hawaits, ?_⟩
    apply not_awaits_of_past
    exact ⟨_, hmoved (c.approved action.id terms.actedAt) rfl,
      by simp [CaseRecord.approved, assessmentStates]⟩

/-- A call raises and changes nothing, or gives a verdict. -/
theorem act_step {call : ApprovalCall} {met : ApprovalCircumstances} {seen stale : CaseBooks}
    (hs : (approvalMachine services).Takes s) (hcmd : s.cmd = .act call met seen stale) :
    (∃ e, s.out = some (.error e) ∧ s.post = s.pre) ∨
      ∃ result loaded terms a c, s.out = some (.ok result) ∧
        VerdictGiven services.approvals call met seen stale s.pre result loaded terms a c s.post ∧
        Decides call.approvalId s ∧ LeavesApproval loaded.recoveryCaseId s := by
  obtain ⟨pre, cmd, post, out⟩ := s
  obtain rfl := hcmd
  change approvalExec services pre (.act call met seen stale) = .ok (post, out) at hs
  obtain ⟨hpost, rfl⟩ := Prod.mk.inj (Except.ok.inj hs)
  cases hact : services.approvals.act call met stale seen pre with
  | mk after returned =>
    rw [hact] at hpost
    obtain rfl := hpost
    cases returned with
    | error e => exact .inl ⟨e, rfl, act_error hact⟩
    | ok result =>
      obtain ⟨loaded, terms, a, c, hgiven⟩ := act_ok hact
      obtain ⟨hdecides, hleaves⟩ := decides_of_given hgiven
      exact .inr ⟨result, loaded, terms, a, c, rfl, hgiven, hdecides, hleaves⟩

/-! ## Runs -/

variable {start final : CaseBooks} {steps : List ApprovalStep}

/-- What a step has decided is decided for the rest of the run. -/
theorem decided_of_mem (hrun : (approvalMachine services).Run start steps final)
    (h : ∃ s ∈ steps, Decides approvalId s) : final.Decided approvalId := by
  induction hrun with
  | start =>
    obtain ⟨s, hs, -⟩ := h
    exact absurd hs List.not_mem_nil
  | @next past s hpast hstep ih =>
    obtain ⟨t, ht, hdecides⟩ := h
    rcases List.mem_append.mp ht with ht | ht
    · exact (moves_step hstep).1.decided (ih ⟨t, ht, hdecides⟩)
    · rw [List.mem_singleton.mp ht] at hdecides
      exact hdecides.2

/-- A case that a step has taken out of `APPROVAL_REQUIRED` is past its approval for the rest of
the run. -/
theorem past_of_mem {caseId : String} (hrun : (approvalMachine services).Run start steps final)
    (h : ∃ s ∈ steps, LeavesApproval caseId s) : final.PastApproval caseId := by
  induction hrun with
  | start =>
    obtain ⟨s, hs, -⟩ := h
    exact absurd hs List.not_mem_nil
  | @next past s hpast hstep ih =>
    obtain ⟨t, ht, hleaves⟩ := h
    have hmove := (moves_step hstep).2
    rcases List.mem_append.mp ht with ht | ht
    · exact hmove.past (ih ⟨t, ht, hleaves⟩)
    · rw [List.mem_singleton.mp ht] at hleaves
      exact hmove.past_of_leaves hleaves.1 hleaves.2

/-- **One verdict per approval.** -/
theorem one_verdict_per_approval (hrun : (approvalMachine services).Run start steps final) :
    (∀ approvalId, steps.Pairwise fun s t => ¬(Decides approvalId s ∧ Decides approvalId t)) ∧
    (∀ caseId, steps.Pairwise fun s t =>
      ¬(LeavesApproval caseId s ∧ LeavesApproval caseId t)) ∧
    (∀ s ∈ steps, ∀ call met seen stale, s.cmd = .act call met seen stale →
      (∃ e, s.out = some (.error e) ∧ s.post = s.pre) ∨
        ∃ result loaded terms a c, s.out = some (.ok result) ∧
          VerdictGiven services.approvals call met seen stale s.pre result loaded terms a c
            s.post ∧
          Decides call.approvalId s ∧ LeavesApproval loaded.recoveryCaseId s) ∧
    ∀ approvalId, ∀ s ∈ steps, NoneAdded approvalId s.pre s.post ∨ ApprovesIn approvalId s := by
  refine ⟨fun approvalId => ?_, fun caseId => ?_, fun s hs call met seen stale hcmd => ?_,
    fun approvalId s hs => ?_⟩
  · refine hrun.pairwise fun past s hpast _ earlier hearlier hboth => ?_
    have hdecided := decided_of_mem hpast ⟨earlier, hearlier, hboth.1⟩
    exact not_pending_of_decided hdecided hboth.2.1
  · refine hrun.pairwise fun past s hpast _ earlier hearlier hboth => ?_
    have hleft := past_of_mem hpast ⟨earlier, hearlier, hboth.1⟩
    exact not_awaits_of_past hleft hboth.2.1
  · obtain ⟨_, _, -, -, htakes⟩ := hrun.of_mem hs
    exact act_step htakes hcmd
  · obtain ⟨_, _, -, -, htakes⟩ := hrun.of_mem hs
    exact noneAdded_step htakes

end

/-! ## Two operators

Two operators reject the approval of one case. Both have loaded it before either writes. -/

section

variable [Hashlib] {service : ApprovalService} {call : ApprovalCall}
  {met : ApprovalCircumstances} {seen stale books : CaseBooks} {loaded : ApprovalSnapshot}
  {proposal : ActionProposal}

/-- The transaction a call of `REJECTED` comes to. -/
theorem work_rejected (hcheck : call.check = .ok ()) (hload : met.loadFailure = none)
    (hloaded : seen.loadPending met.loadedAt call.merchantId call.approvalId = .ok loaded)
    (hverdict : call.verdict = "REJECTED")
    (hproposal : service.decodeActionProposal loaded.proposalValue = .ok proposal)
    (hmerchant : isUlid proposal.merchantId = true) :
    service.work call met stale seen books = closeApproval met stale loaded {
      merchantId := proposal.merchantId
      verdict := .rejected
      operatorSubject := call.operatorSubject
      reasonCode := call.reasonCode
      actedAt := loaded.databaseNow } "approval_update_failed" "approval_case_reject_failed"
      books := by
  unfold ApprovalService.work rejectApproval
  rw [hcheck, hload, hloaded, show called (.ok ()) = .ok () from rfl,
    show connecting none = .ok () from rfl, bind_of_ok rfl, bind_of_ok rfl, bind_of_ok rfl,
    if_pos hverdict, hproposal, show called (.ok proposal) = .ok proposal from rfl,
    bind_of_ok rfl, bind_of_ok (raiseIf_of_not _ (not_not.mpr hmerchant))]

theorem act_of_work {after : CaseBooks} {result : ApprovalActionResult}
    (h : service.work call met stale seen books = .ok (after, result)) :
    service.act call met stale seen books = (after, .ok result) := by
  unfold ApprovalService.act
  rw [h]

theorem act_of_raise {e : ApprovalError}
    (h : service.work call met stale seen books = .error e) :
    service.act call met stale seen books = (books, .error e) := by
  unfold ApprovalService.act
  rw [h]

omit [Hashlib] in
/-- A transaction that finds what was loaded. -/
theorem closeApproval_of {terms : VerdictTerms} {updateFailed caseFailed : String}
    {locked : ApprovalSnapshot} {decided after : CaseBooks} (hcommit : met.commitFailure = none)
    (hlocked : (books.lockedOver stale).loadPending met.lockedAt terms.merchantId
      loaded.approvalId = .ok locked) (hsame : SameBinding locked loaded)
    (hdecided : books.decideApproval terms loaded updateFailed = .ok decided)
    (hclosed : decided.rejectCase terms loaded met.lockedAt caseFailed = .ok after) :
    closeApproval met stale loaded terms updateFailed caseFailed books =
      .ok (after, ⟨loaded.approvalId, terms.verdict, loaded.recoveryCaseId,
        loaded.caseVersion + 1, none, none⟩) := by
  have hread : books.lockAsLoaded stale met.lockedAt terms.merchantId loaded = .ok () := by
    unfold CaseBooks.lockAsLoaded
    rw [bind_of_ok hlocked, raiseIf_of_not _ (not_not.mpr hsame)]
  unfold closeApproval
  rw [hcommit, show connecting none = .ok () from rfl, bind_of_ok rfl, bind_of_ok hread,
    bind_of_ok hdecided, bind_of_ok hclosed]
  rfl

omit [Hashlib] in
/-- A transaction that finds nothing any more. -/
theorem closeApproval_of_gone {terms : VerdictTerms} {updateFailed caseFailed : String}
    {e : ApprovalError} (hcommit : met.commitFailure = none)
    (hgone : (books.lockedOver stale).loadPending met.lockedAt terms.merchantId
      loaded.approvalId = .error e) :
    closeApproval met stale loaded terms updateFailed caseFailed books = .error e := by
  have hread : books.lockAsLoaded stale met.lockedAt terms.merchantId loaded = .error e := by
    unfold CaseBooks.lockAsLoaded
    rw [bind_of_error hgone]
  unfold closeApproval
  rw [hcommit, show connecting none = .ok () from rfl, bind_of_ok rfl, bind_of_error hread]

end

def reviewedProposal : ActionProposal where
  proposalId := "proposal:01HZZZZZZZZZZZZZZZZZZZZZZC:1"
  merchantId := "01HZZZZZZZZZZZZZZZZZZZZZZM"
  caseId := "01HZZZZZZZZZZZZZZZZZZZZZZC"
  decisionVersion := 1
  actionType := .createStandardPaymentLink
  createdAt := sampleStart
  expiresAt := sampleDeadline
  amount := some ⟨500, "INR", isCurrency_inr⟩
  paymentMethod := some "upi"
  modelConfidence := some ⟨⟨false, 1, 0⟩, Decimal.nonneg_one, Decimal.one_le_one⟩
  requiresApproval := true
  valid := by decide

def reviewedDecision : DecisionRow where
  id := "01HZZZZZZZZZZZZZZZZZZZZZZD"
  merchantId := "01HZZZZZZZZZZZZZZZZZZZZZZM"
  recoveryCaseId := "01HZZZZZZZZZZZZZZZZZZZZZZC"
  logicalOrderId := "01HZZZZZZZZZZZZZZZZZZZZZZR"
  aggregateVersion := 1
  featureSnapshot := .null
  featureSnapshotSha256 := ""
  modelName := "model"
  modelVersion := "artifact_1"
  classProbabilities := .null
  requestedDiagnosisMode := .localMl
  executedDiagnosisEngine := .localMl
  diagnosisLatencyMs := 0
  diagnosisFallbackReasonCode := none
  shadowDiagnosis := none
  abstained := true
  outOfDistribution := false
  policyName := policyName
  policyVersion := "policy_1"
  candidates := [reviewedProposal.toPrimitive]
  selectedAction := some .createStandardPaymentLink
  planningGateVerdict := .approvalRequired
  planningGateReasonCodes := ["APPROVAL_REQUIRED"]
  expectedValueInputs := .null
  createdAt := sampleStart

def pendingApproval : ApprovalRecord where
  id := "01HZZZZZZZZZZZZZZZZZZZZZZE"
  verdict := .pending
  approverSubject := none
  actedAt := none
  expiresAt := sampleDeadline
  merchantId := "01HZZZZZZZZZZZZZZZZZZZZZZM"
  recoveryCaseId := "01HZZZZZZZZZZZZZZZZZZZZZZC"
  decisionId := "01HZZZZZZZZZZZZZZZZZZZZZZD"
  aggregateVersion := 1
  requestedAt := sampleStart
  reasonCode := none

/-- The books of a case that awaits its approval. -/
def awaitingBooks : CaseBooks :=
  { observedCaseBooks with
    cases := [{ observedCase with
      state := .approvalRequired
      version := 2
      lastDecisionId := some "01HZZZZZZZZZZZZZZZZZZZZZZD"
      lastDecisionAt := some sampleStart }]
    decisions := [reviewedDecision]
    approvals := [pendingApproval] }

def approvalServices : ApprovalServices where
  approvals := {
    gate := sampleGate
    globalKillSwitch := false
    decodeActionProposal := fun _ => .ok reviewedProposal }
  assessments := assessmentService

def rejection : ApprovalCall where
  merchantId := "01HZZZZZZZZZZZZZZZZZZZZZZM"
  approvalId := "01HZZZZZZZZZZZZZZZZZZZZZZE"
  operatorSubject := "operator_1"
  verdict := "REJECTED"
  reasonCode := "not_worth_it"

def rejectionMet : ApprovalCircumstances where
  loadedAt := sampleStart
  lockedAt := sampleStart
  loadFailure := none
  fetchTruth _ := .error (.providerRead "not asked")
  fetchHealth _ := .error (.methodHealth "not asked")
  ids := ⟨"", "", ""⟩
  commitFailure := none

/-- What both operators load. -/
def pendingSnapshot : ApprovalSnapshot where
  approvalId := "01HZZZZZZZZZZZZZZZZZZZZZZE"
  decisionId := "01HZZZZZZZZZZZZZZZZZZZZZZD"
  decisionVersion := 1
  requestedAt := sampleStart
  expiresAt := sampleDeadline
  policyVersion := "policy_1"
  recoveryCaseId := "01HZZZZZZZZZZZZZZZZZZZZZZC"
  logicalOrderId := "01HZZZZZZZZZZZZZZZZZZZZZZR"
  providerAccountId := "01HZZZZZZZZZZZZZZZZZZZZZZA"
  currency := "INR"
  amountMinor := 500
  caseState := .approvalRequired
  caseVersion := 2
  observationDeadline := some sampleDeadline
  attemptCount := 0
  contactCount := 0
  incidentId := none
  merchantStatus := .active
  merchantKillSwitch := false
  providerAccountIdentifier := "acc_A"
  accountEnvironment := .test
  accountEnabled := true
  credentialBindingVersion := 1
  canonicalTruth := .unpaid
  paymentRecordId := "01HZZZZZZZZZZZZZZZZZZZZZZP"
  providerPaymentId := "pay_A"
  providerOrderId := some "order_A"
  paymentMethod := some "upi"
  activeInstruments := 0
  proposalValue := reviewedProposal.toPrimitive
  databaseNow := sampleStart

theorem load_awaitingBooks :
    awaitingBooks.loadPending sampleStart rejection.merchantId rejection.approvalId =
      .ok pendingSnapshot := rfl

def rejectionTerms : VerdictTerms where
  merchantId := "01HZZZZZZZZZZZZZZZZZZZZZZM"
  verdict := .rejected
  operatorSubject := "operator_1"
  reasonCode := "not_worth_it"
  actedAt := sampleStart

/-- The books with the approval rejected. -/
def rejectedBooks : CaseBooks := awaitingBooks.closedWith rejectionTerms pendingApproval
  { observedCase with
    state := .approvalRequired
    version := 2
    lastDecisionId := some "01HZZZZZZZZZZZZZZZZZZZZZZD"
    lastDecisionAt := some sampleStart }

def rejectionResult : ApprovalActionResult where
  approvalId := "01HZZZZZZZZZZZZZZZZZZZZZZE"
  verdict := .rejected
  recoveryCaseId := "01HZZZZZZZZZZZZZZZZZZZZZZC"
  caseVersion := 3

/-- Both calls come to the same transaction. -/
theorem work_rejection (books : CaseBooks) :
    approvalServices.approvals.work rejection rejectionMet awaitingBooks awaitingBooks books =
      closeApproval rejectionMet awaitingBooks pendingSnapshot rejectionTerms
        "approval_update_failed" "approval_case_reject_failed" books := by
  have hcheck : rejection.check = .ok () := by decide
  have hproposal : approvalServices.approvals.decodeActionProposal
      pendingSnapshot.proposalValue = .ok reviewedProposal := rfl
  have hmerchant : isUlid reviewedProposal.merchantId = true := by decide
  have hverdict : rejection.verdict = "REJECTED" := rfl
  have hload : rejectionMet.loadFailure = none := rfl
  have hloaded : awaitingBooks.loadPending rejectionMet.loadedAt rejection.merchantId
      rejection.approvalId = .ok pendingSnapshot := load_awaitingBooks
  rw [work_rejected hcheck hload hloaded hverdict hproposal hmerchant]
  rfl

theorem rejection_commits :
    approvalServices.approvals.act rejection rejectionMet awaitingBooks awaitingBooks
      awaitingBooks = (rejectedBooks, .ok rejectionResult) := by
  have hlocked : (awaitingBooks.lockedOver awaitingBooks).loadPending sampleStart
      rejectionTerms.merchantId pendingSnapshot.approvalId = .ok pendingSnapshot := rfl
  have hdecided : awaitingBooks.decideApproval rejectionTerms pendingSnapshot
      "approval_update_failed" =
        .ok (awaitingBooks.decidedWith rejectionTerms pendingApproval) := rfl
  have hclosed : (awaitingBooks.decidedWith rejectionTerms pendingApproval).rejectCase
      rejectionTerms pendingSnapshot sampleStart "approval_case_reject_failed" =
        .ok rejectedBooks := rfl
  have hcommitted : closeApproval rejectionMet awaitingBooks pendingSnapshot rejectionTerms
      "approval_update_failed" "approval_case_reject_failed" awaitingBooks =
        .ok (rejectedBooks, rejectionResult) :=
    closeApproval_of rfl hlocked ⟨rfl, rfl⟩ hdecided hclosed
  exact act_of_work ((work_rejection awaitingBooks).trans hcommitted)

theorem rejection_loses :
    approvalServices.approvals.act rejection rejectionMet awaitingBooks awaitingBooks
      rejectedBooks = (rejectedBooks, .error (.notFound "approval_not_found")) := by
  have hgone : (rejectedBooks.lockedOver awaitingBooks).loadPending sampleStart
      rejectionTerms.merchantId pendingSnapshot.approvalId =
        .error (.notFound "approval_not_found") := rfl
  have hlost : closeApproval rejectionMet awaitingBooks pendingSnapshot rejectionTerms
      "approval_update_failed" "approval_case_reject_failed" rejectedBooks =
        .error (.notFound "approval_not_found") := closeApproval_of_gone rfl hgone
  exact act_of_raise ((work_rejection rejectedBooks).trans hlost)

def rejectingStep : ApprovalStep where
  pre := awaitingBooks
  cmd := .act rejection rejectionMet awaitingBooks awaitingBooks
  post := rejectedBooks
  out := some (.ok rejectionResult)

def losingStep : ApprovalStep where
  pre := rejectedBooks
  cmd := .act rejection rejectionMet awaitingBooks awaitingBooks
  post := rejectedBooks
  out := some (.error (.notFound "approval_not_found"))

theorem run_rejections :
    (approvalMachine approvalServices).Run awaitingBooks [rejectingStep, losingStep]
      rejectedBooks := by
  have hfirst : approvalExec approvalServices awaitingBooks rejectingStep.cmd =
      .ok (rejectedBooks, rejectingStep.out) := by
    change Except.ok ((approvalServices.approvals.act rejection rejectionMet awaitingBooks
      awaitingBooks awaitingBooks).1, some _) = _
    rw [rejection_commits]
    rfl
  have hsecond : approvalExec approvalServices rejectedBooks losingStep.cmd =
      .ok (rejectedBooks, losingStep.out) := by
    change Except.ok ((approvalServices.approvals.act rejection rejectionMet awaitingBooks
      awaitingBooks rejectedBooks).1, some _) = _
    rw [rejection_loses]
    rfl
  have hstart : (approvalMachine approvalServices).Run awaitingBooks [] awaitingBooks := .start
  exact (hstart.next (s := rejectingStep) hfirst).next (s := losingStep) hsecond

/-- The second operator's call raises, whichever of the two comes second. -/
theorem one_verdict_per_approval_rejected :
    ¬(Decides rejection.approvalId rejectingStep ∧ Decides rejection.approvalId losingStep) ∧
      ∃ e, losingStep.out = some (.error e) ∧ losingStep.post = losingStep.pre := by
  have hlaws := one_verdict_per_approval run_rejections
  refine ⟨?_, ?_⟩
  · exact (List.pairwise_cons.mp (hlaws.1 rejection.approvalId)).1 losingStep (by simp)
  · rcases hlaws.2.2.1 losingStep (by simp) rejection rejectionMet awaitingBooks awaitingBooks
      rfl with h | h
    · exact h
    · obtain ⟨_, _, _, _, _, hout, -⟩ := h
      exact absurd hout (by simp [losingStep])

end Retrywise.ControlPlane
