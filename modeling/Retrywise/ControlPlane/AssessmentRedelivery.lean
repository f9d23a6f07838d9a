import Retrywise.ControlPlane.AssessmentOutcome
import Retrywise.Foundation.Run

/-!
# Assessments: the same job again

`assessment_worker.py`, the handler, and `AssessmentToIntentService.assess`: a delivery loads
the candidate in one transaction, asks the provider, and commits in another. A job whose commit
went through and whose settlement was lost is delivered again.

> `redelivery_never_succeeds`: in no run is a later delivery of a job that has committed settled
> as a success. Its case is two versions on for good, so the loader calls it not eligible before
> the completion probe is asked.
-/

namespace Retrywise.ControlPlane

open Retrywise.Foundation Retrywise.Domain

/-! ## One delivery -/

/-- The service of one worker. -/
structure AssessmentService where
  repository : AssessmentRepository
  planner : AssessmentPlanner

/-- What one delivery meets: the clocks and ids of its transactions, what the readers and the
diagnosis router return, and where the database is not to be reached. -/
structure AssessmentDelivery where
  loadedAt : Timestamp
  loadFailure : Option ControlPlaneError
  fetchTruth : AssessmentSnapshot → Except ControlPlaneError FreshProviderPaymentTruth
  fetchHealth : AssessmentSnapshot → FreshProviderPaymentTruth →
    Except ControlPlaneError FreshMethodHealthTruth
  diagnose : AssessmentSnapshot → FreshProviderPaymentTruth → FreshMethodHealthTruth →
    Except ControlPlaneError DiagnosisResult
  commitFailure : Option ControlPlaneError
  readings : CommitReadings
  probeFailure : Option ControlPlaneError

/-- The database is reached, or the call raises. -/
def reaching (failure : Option ControlPlaneError) : Except AssessmentRaise Unit :=
  match failure with
  | none => .ok ()
  | some e => .error (.exception e)

/-- `load_candidate`. -/
def loadCandidate (delivery : AssessmentDelivery) (command : AssessRecoveryCaseCommand)
    (books : CaseBooks) : Except AssessmentError AssessmentSnapshot :=
  sanitized (.persistence "assessment_candidate_load_failed") do
    reaching delivery.loadFailure
    snapshotFromRow (books.assessmentRow delivery.loadedAt command) command

/-- A reader raises `AssessmentProviderTruthError`, `AssessmentMethodHealthError` or anything
else, which the service takes for the error of that reader. -/
def reading {α : Type} (fallback : AssessmentError) :
    Except ControlPlaneError α → Except AssessmentError α
  | .ok a => .ok a
  | .error (.providerTruth reason) => .error (.providerTruth reason)
  | .error (.methodHealth reason) => .error (.methodHealth reason)
  | .error _ => .error fallback

/-- What is read and diagnosed between the two transactions. -/
def prepareAssessment (delivery : AssessmentDelivery) (s : AssessmentSnapshot) :
    Except AssessmentError
      (FreshProviderPaymentTruth × FreshMethodHealthTruth × DiagnosisResult) := do
  let truth ← reading (.providerTruth "fresh_provider_truth_unavailable") (delivery.fetchTruth s)
  raiseIf (¬TruthMatches s truth.toPaymentTruthFields)
    (.providerTruth "fresh_provider_truth_binding_mismatch")
  let health ← reading (.methodHealth "fresh_method_health_unavailable")
    (delivery.fetchHealth s truth)
  raiseIf (¬HealthMatches s truth.toPaymentTruthFields health.toMethodHealthFields)
    (.methodHealth "fresh_method_health_binding_mismatch")
  match delivery.diagnose s truth health with
  | .ok diagnosis => return (truth, health, diagnosis)
  | .error _ => throw (.diagnosis "diagnosis_unavailable")

section

variable [Hashlib] (service : AssessmentService)

/-- `assess`, its candidate loaded from the books as they were `seen`. -/
def AssessmentService.assess (delivery : AssessmentDelivery)
    (command : AssessRecoveryCaseCommand) (seen books : CaseBooks) :
    CaseBooks × Except AssessmentError AssessmentResult :=
  match loadCandidate delivery command seen with
  | .error e => (books, .error e)
  | .ok s =>
    match prepareAssessment delivery s with
    | .error e => (books, .error e)
    | .ok (truth, health, diagnosis) =>
      match delivery.commitFailure with
      | some _ => (books, .error (.persistence "assessment_commit_failed"))
      | none =>
        commitPlan service.repository delivery.readings command truth health service.planner
          diagnosis s books

end

/-- A delivery that meets no obstacle before its commit. -/
theorem AssessmentService.assess_eq_commitPlan [Hashlib] {service : AssessmentService}
    {delivery : AssessmentDelivery} {command : AssessRecoveryCaseCommand} {seen books : CaseBooks}
    {s : AssessmentSnapshot} {truth : FreshProviderPaymentTruth}
    {health : FreshMethodHealthTruth} {diagnosis : DiagnosisResult}
    (hload : loadCandidate delivery command seen = .ok s)
    (hprepare : prepareAssessment delivery s = .ok (truth, health, diagnosis))
    (hcommit : delivery.commitFailure = none) :
    service.assess delivery command seen books =
      commitPlan service.repository delivery.readings command truth health service.planner
        diagnosis s books := by
  unfold AssessmentService.assess
  rw [hload]
  simp only [hprepare, hcommit]

/-- `_ASSESSMENT_ALREADY_APPLIED`. -/
def CaseBooks.alreadyApplied (books : CaseBooks) (command : AssessRecoveryCaseCommand) : Bool :=
  books.cases.any fun c => c.isOf command && command.expectedCaseVersion + 2 ≤ c.version &&
    c.lastDecisionId.isSome

def AssessmentDisposition.label : AssessmentDisposition → String
  | .intentQueued => "intent_queued"
  | .approvalRequired => "approval_required"
  | .waiting => "waiting"
  | .blocked => "blocked"

/-- `AssessRecoveryCaseHandler.__call__`, of a command that was decoded; the probe reads the
books after the delivery. -/
def assessmentHandlerResult (delivery : AssessmentDelivery) (command : AssessRecoveryCaseCommand)
    (books : CaseBooks) : Except AssessmentError AssessmentResult → HandlerResult
  | .ok result =>
    .succeeded s!"assessment:{result.recoveryCaseId}:{result.disposition.label}"
  | .error (.authorization _) => .retry "assessment_outcome_not_persisted" .reconcileOnly
  | .error (.stateChanged _) =>
    if delivery.probeFailure.isSome then .retry "handler_exception:OperationalError" .reconcileOnly
    else if books.alreadyApplied command then
      .succeeded s!"assessment:{command.recoveryCaseId}:already-applied"
    else .retry "assessment_state_changed" .reconcileOnly
  | .error (.notEligible _) => .deadLetter "assessment_not_eligible"
  | .error (.providerTruth _) | .error (.methodHealth _) =>
    .retry "assessment_fresh_truth_unavailable" .reconcileOnly
  | .error (.persistence _) | .error (.diagnosis _) =>
    .retry "assessment_persistence_failed" .reconcileOnly

/-! ## The machine of the cases -/

/-- A delivery of an assessment, whose candidate was loaded from some books before; or another
writer, which moves a case under its triggers, opens one, or writes any of the other tables. -/
inductive CaseCommand where
  | assess (delivery : AssessmentDelivery) (command : AssessRecoveryCaseCommand) (seen : CaseBooks)
  | moveCase (clock : Timestamp) (id : String) (moved : CaseRecord)
  | openCase (new : CaseRecord)
  | writeOthers (others : CaseBooks)

/-- One command; a delivery returns its handler's result. -/
def caseExec [Hashlib] (service : AssessmentService) (books : CaseBooks) :
    CaseCommand → Except ControlPlaneError (CaseBooks × Option HandlerResult)
  | .assess delivery command seen =>
    let reached := service.assess delivery command seen books
    .ok (reached.1, some (assessmentHandlerResult delivery command reached.1 reached.2))
  | .moveCase clock id moved => do
    let after ← books.updateCase (.database "no case") (.database "refused") clock id
      (fun _ => true) fun _ => moved
    return (after, none)
  | .openCase new => do
    raiseIf (books.cases.any fun c => c.key = new.key) (.database "duplicate key")
    return (books.setCases (books.cases ++ [new]), none)
  | .writeOthers others => .ok (others.setCases books.cases, none)

def caseMachine [Hashlib] (service : AssessmentService) :
    Machine CaseBooks CaseCommand (Option HandlerResult) ControlPlaneError where
  exec := caseExec service

theorem caseExec_assess [Hashlib] {service : AssessmentService} {delivery : AssessmentDelivery}
    {command : AssessRecoveryCaseCommand} {seen books : CaseBooks} :
    caseExec service books (.assess delivery command seen) =
      .ok ((service.assess delivery command seen books).1,
        some (assessmentHandlerResult delivery command
          (service.assess delivery command seen books).1
          (service.assess delivery command seen books).2)) := rfl

/-! ## A case that has been assessed -/

/-- The case of the command is there, and at least two versions on. -/
structure CaseBooks.PastAssessment (books : CaseBooks) (command : AssessRecoveryCaseCommand) :
    Prop where
  found : ∃ c ∈ books.cases, c.key = command.recoveryCaseId
  version : ∀ c ∈ books.cases, c.key = command.recoveryCaseId →
    command.expectedCaseVersion + 2 ≤ c.version

section

variable {books after : CaseBooks} {command : AssessRecoveryCaseCommand} {clock : Timestamp}
  {old new : CaseRecord}

/-- A case that is moved stays the case it is, one version on. -/
theorem admitsCase_next (h : books.admitsCase clock old new = true) :
    new.key = old.key ∧ new.version = old.version + 1 := by
  simp only [CaseBooks.admitsCase, ControlPlane.admitsCase, Bool.and_eq_true,
    decide_eq_true_eq] at h
  obtain ⟨⟨⟨⟨hmoved, hfixed⟩, -⟩, -⟩, -⟩ := h
  exact ⟨congrArg (fun fixed => fixed.1.1) hfixed, hmoved.1.1.1.2⟩

theorem pastAssessment_put (hpast : books.PastAssessment command) (hold : old ∈ books.cases)
    (hkey : new.key = old.key) (hversion : old.version ≤ new.version) :
    (books.setCases (Table.put CaseRecord.key new books.cases)).PastAssessment command := by
  obtain ⟨⟨c, hc, hcase⟩, hpast⟩ := hpast
  constructor
  · by_cases hsame : c.key = new.key
    · exact ⟨new, Table.mem_put_self hc hsame, hsame ▸ hcase⟩
    · exact ⟨c, Table.mem_put_of_ne hc hsame, hcase⟩
  · intro row hrow hid
    rcases Table.mem_put hrow with rfl | ⟨hrow, -⟩
    · have := hpast old hold (hkey ▸ hid)
      omega
    · exact hpast row hrow hid

/-- A commit leaves its case two versions on. -/
theorem pastAssessment_of_assessed [Hashlib] {s : AssessmentSnapshot}
    {truth : FreshProviderPaymentTruth} {health : FreshMethodHealthTruth}
    {planner : AssessmentPlanner} {diagnosis : DiagnosisResult} {rows : AssessmentRows}
    (hfound : Table.find CaseRecord.key command.recoveryCaseId books.cases = some old)
    (hcommitted : Committed command s truth health planner diagnosis clock old rows)
    (hadmitted : Admitted books clock old rows) :
    (books.assessed rows).PastAssessment command := by
  have hkey : rows.finished.key = old.key :=
    (admitsCase_next hadmitted.finished).1.trans (admitsCase_next hadmitted.started).1
  have hid : old.key = command.recoveryCaseId := Table.key_of_find hfound
  constructor
  · exact ⟨rows.finished, Table.mem_put_self (Table.mem_of_find hfound) hkey.symm,
      hkey.trans hid⟩
  · intro c hc hcase
    rcases Table.mem_put hc with rfl | ⟨-, hne⟩
    · exact hcommitted.finalVersion.ge
    · exact absurd (hcase.trans (hkey.trans hid).symm) hne

/-- A commit of any command keeps what is past its assessment. -/
theorem pastAssessment_assessed [Hashlib] {other : AssessRecoveryCaseCommand}
    {s : AssessmentSnapshot} {truth : FreshProviderPaymentTruth} {health : FreshMethodHealthTruth}
    {planner : AssessmentPlanner} {diagnosis : DiagnosisResult} {rows : AssessmentRows}
    (hpast : books.PastAssessment command)
    (hfound : Table.find CaseRecord.key other.recoveryCaseId books.cases = some old)
    (hcommitted : Committed other s truth health planner diagnosis clock old rows)
    (hadmitted : Admitted books clock old rows) :
    (books.assessed rows).PastAssessment command := by
  have hkey : rows.finished.key = old.key :=
    (admitsCase_next hadmitted.finished).1.trans (admitsCase_next hadmitted.started).1
  have hversion : old.version ≤ rows.finished.version := by
    rw [hcommitted.finalVersion, hcommitted.version]
    omega
  obtain ⟨hthere, hpast⟩ := pastAssessment_put hpast (Table.mem_of_find hfound) hkey hversion
  exact ⟨hthere, hpast⟩

/-! ## What a delivery does with it -/

/-- The rows of a case that is past its assessment are no candidates. -/
theorem not_candidate (hpast : books.PastAssessment command) {now : Timestamp}
    {s : AssessmentSnapshot} :
    snapshotFromRow (books.assessmentRow now command) command ≠ .ok s := by
  intro h
  obtain ⟨row, hrow, hs⟩ := snapshotFromRow_ok_iff.mp h
  refine AssessmentRow.not_readAs_of_version ?_ hs
  unfold CaseBooks.assessmentRow at hrow
  obtain ⟨c, hc, hrow⟩ := Option.bind_eq_some_iff.mp hrow
  obtain ⟨_, -, hrow⟩ := Option.bind_eq_some_iff.mp hrow
  obtain ⟨_, -, hrow⟩ := Option.bind_eq_some_iff.mp hrow
  obtain ⟨_, -, hrow⟩ := Option.bind_eq_some_iff.mp hrow
  obtain ⟨_, -, hrow⟩ := Option.bind_eq_some_iff.mp hrow
  have hid : c.key = command.recoveryCaseId := by
    have hmatch := List.find?_some hc
    simp only [Bool.and_eq_true, decide_eq_true_eq] at hmatch
    exact hmatch.1.1.1
  have hversion := hpast.version c (List.mem_of_find?_eq_some hc) hid
  rw [← Option.some.inj hrow]
  show c.version ≠ command.expectedCaseVersion
  omega

theorem snapshotFromRow_error {row : Option AssessmentRow} {e : AssessmentRaise}
    (h : snapshotFromRow row command = .error e) :
    (∃ reason, e = .assessment (.notEligible reason)) ∨ ∃ failure, e = .exception failure := by
  unfold snapshotFromRow at h
  cases row with
  | none => exact .inl ⟨_, (Except.error.inj h).symm⟩
  | some columns =>
    simp only at h
    split at h
    next => exact absurd h (by simp)
    next => exact .inr ⟨_, (Except.error.inj h).symm⟩
    next => exact .inl ⟨_, (Except.error.inj h).symm⟩

/-- The errors a delivery can meet that finds its case past the assessment. -/
def AssessmentError.Unrecognised : AssessmentError → Prop
  | .stateChanged _ | .authorization _ => False
  | _ => True

theorem sanitized_unrecognised {α : Type} {fallback e : AssessmentError}
    {call : Except AssessmentRaise α} (hfallback : fallback.Unrecognised)
    (hcall : ∀ raised, call = .error raised →
      (∃ reason, raised = .assessment (.notEligible reason)) ∨
        ∃ failure, raised = .exception failure)
    (h : sanitized fallback call = .error e) : e.Unrecognised := by
  rcases call with raised | a
  · rcases hcall raised rfl with ⟨reason, rfl⟩ | ⟨failure, rfl⟩
    · rw [← Except.error.inj h]
      exact trivial
    · rw [← Except.error.inj h]
      exact hfallback
  · exact absurd h (by simp [sanitized])

theorem loadCandidate_error {delivery : AssessmentDelivery} {e : AssessmentError}
    (h : loadCandidate delivery command books = .error e) : e.Unrecognised := by
  refine sanitized_unrecognised (show AssessmentError.Unrecognised (.persistence _) from trivial)
    ?_ h
  intro raised hraised
  cases hfailure : delivery.loadFailure with
  | none =>
    rw [hfailure] at hraised
    exact snapshotFromRow_error hraised
  | some failure =>
    rw [hfailure] at hraised
    exact .inr ⟨failure, (Except.error.inj hraised).symm⟩

theorem prepareAssessment_error {delivery : AssessmentDelivery} {s : AssessmentSnapshot}
    {e : AssessmentError} (h : prepareAssessment delivery s = .error e) : e.Unrecognised := by
  have hreading : ∀ {α : Type} {fallback raised : AssessmentError}
      {call : Except ControlPlaneError α}, fallback.Unrecognised →
      reading fallback call = .error raised → raised.Unrecognised := by
    intro α fallback raised call hfallback hread
    unfold reading at hread
    split at hread
    · exact absurd hread (by simp)
    · exact Except.error.inj hread ▸ trivial
    · exact Except.error.inj hread ▸ trivial
    · exact Except.error.inj hread ▸ hfallback
  unfold prepareAssessment at h
  cases htruth : reading (.providerTruth "fresh_provider_truth_unavailable")
      (delivery.fetchTruth s) with
  | error raised =>
    rw [htruth] at h
    exact Except.error.inj h ▸ hreading
      (show AssessmentError.Unrecognised (.providerTruth _) from trivial) htruth
  | ok truth =>
    rw [htruth, bind_of_ok rfl] at h
    by_cases hmatches : TruthMatches s truth.toPaymentTruthFields
    · rw [bind_of_ok (raiseIf_of_not _ (not_not.mpr hmatches))] at h
      cases hhealth : reading (.methodHealth "fresh_method_health_unavailable")
          (delivery.fetchHealth s truth) with
      | error raised =>
        rw [hhealth] at h
        exact Except.error.inj h ▸ hreading
          (show AssessmentError.Unrecognised (.methodHealth _) from trivial) hhealth
      | ok health =>
        rw [hhealth, bind_of_ok rfl] at h
        by_cases hhealthy : HealthMatches s truth.toPaymentTruthFields health.toMethodHealthFields
        · rw [bind_of_ok (raiseIf_of_not _ (not_not.mpr hhealthy))] at h
          cases hdiagnose : delivery.diagnose s truth health with
          | error failure =>
            rw [hdiagnose] at h
            exact Except.error.inj h ▸ trivial
          | ok diagnosis =>
            rw [hdiagnose] at h
            exact absurd h (by simp [pure, Except.pure])
        · rw [bind_of_error (raiseIf_of _ hhealthy)] at h
          exact Except.error.inj h ▸ trivial
    · rw [bind_of_error (raiseIf_of _ hmatches)] at h
      exact Except.error.inj h ▸ trivial

variable [Hashlib] {service : AssessmentService} {delivery : AssessmentDelivery}
  {seen : CaseBooks}

/-- A commit finds no candidate, and says so with an error the probe is not asked for. -/
theorem commitPlan_of_past {repository : AssessmentRepository} {readings : CommitReadings}
    {truth : FreshProviderPaymentTruth} {health : FreshMethodHealthTruth}
    {planner : AssessmentPlanner} {diagnosis : DiagnosisResult} {initial : AssessmentSnapshot}
    (hpast : books.PastAssessment command)
    (hbound : initial.binding = command.toAssessCommandFields) :
    ∃ e, commitPlan repository readings command truth health planner diagnosis initial books =
      (books, .error e) ∧ e.Unrecognised := by
  have hwork : ∀ raised,
      commitWork repository readings command truth health planner diagnosis initial books =
        .error raised →
      (∃ reason, raised = .assessment (.notEligible reason)) ∨
        ∃ failure, raised = .exception failure := by
    intro raised hraised
    unfold commitWork at hraised
    rw [bind_of_ok (raiseIf_of_not _ (not_not.mpr hbound))] at hraised
    cases hrow : snapshotFromRow (books.assessmentRow readings.lockedAt command) command with
    | error found =>
      rw [hrow] at hraised
      exact Except.error.inj hraised ▸ snapshotFromRow_error hrow
    | ok s => exact absurd hrow (not_candidate hpast)
  unfold commitPlan
  split
  next written result hok =>
    rw [sanitized_ok_iff] at hok
    unfold commitWork at hok
    obtain ⟨_, -, hok⟩ := bind_ok_iff.mp hok
    obtain ⟨s, hs, -⟩ := bind_ok_iff.mp hok
    exact absurd hs (not_candidate hpast)
  next e herror => exact ⟨e, rfl, sanitized_unrecognised
    (show AssessmentError.Unrecognised (.persistence _) from trivial) hwork herror⟩

/-- A delivery leaves the books as they are, with an error the probe is not asked for. -/
theorem assess_of_past (hpast : books.PastAssessment command) :
    ∃ e, service.assess delivery command seen books = (books, .error e) ∧ e.Unrecognised := by
  unfold AssessmentService.assess
  cases hload : loadCandidate delivery command seen with
  | error e => exact ⟨e, rfl, loadCandidate_error hload⟩
  | ok s =>
    simp only
    cases hprepare : prepareAssessment delivery s with
    | error e => exact ⟨e, rfl, prepareAssessment_error hprepare⟩
    | ok prepared =>
      obtain ⟨truth, health, diagnosis⟩ := prepared
      simp only
      cases delivery.commitFailure with
      | some failure => exact ⟨_, rfl, trivial⟩
      | none =>
        unfold loadCandidate at hload
        obtain ⟨_, -, hload⟩ := bind_ok_iff.mp (sanitized_ok_iff.mp hload)
        obtain ⟨columns, -, hs⟩ := snapshotFromRow_ok_iff.mp hload
        exact commitPlan_of_past hpast (columns.snapshot_ok hs).bound

omit [Hashlib] in
/-- Such an error is no success, and the job is dead-lettered or retried. -/
theorem handlerResult_of_unrecognised {e : AssessmentError} (h : e.Unrecognised) :
    assessmentHandlerResult delivery command books (.error e) =
        .deadLetter "assessment_not_eligible" ∨
      ∃ reason, assessmentHandlerResult delivery command books (.error e) =
        .retry reason .reconcileOnly := by
  cases e with
  | notEligible reason => exact .inl rfl
  | stateChanged reason => exact absurd h id
  | providerTruth reason => exact .inr ⟨_, rfl⟩
  | methodHealth reason => exact .inr ⟨_, rfl⟩
  | diagnosis reason => exact .inr ⟨_, rfl⟩
  | authorization reasons => exact absurd h id
  | persistence reason => exact .inr ⟨_, rfl⟩

/-! ## Runs -/

/-- The commit of a delivery: the books, and that the case is past its assessment. -/
theorem assess_ok {result : AssessmentResult}
    (h : service.assess delivery command seen books = (after, .ok result)) :
    after.PastAssessment command ∧
      ∀ other, books.PastAssessment other → after.PastAssessment other := by
  unfold AssessmentService.assess at h
  split at h
  next => exact absurd (Prod.mk.inj h).2 (by simp)
  next s hload =>
    split at h
    next => exact absurd (Prod.mk.inj h).2 (by simp)
    next truth health diagnosis hprepare =>
      split at h
      next => exact absurd (Prod.mk.inj h).2 (by simp)
      next =>
        obtain ⟨s, old, rows, -, -, hfound, hcommitted, hadmitted, rfl⟩ := commitPlan_ok h
        exact ⟨pastAssessment_of_assessed hfound hcommitted hadmitted,
          fun other hpast => pastAssessment_assessed hpast hfound hcommitted hadmitted⟩

theorem assess_error {e : AssessmentError}
    (h : service.assess delivery command seen books = (after, .error e)) : after = books := by
  unfold AssessmentService.assess at h
  split at h
  next => exact (Prod.mk.inj h).1.symm
  next =>
    split at h
    next => exact (Prod.mk.inj h).1.symm
    next =>
      split at h
      next => exact (Prod.mk.inj h).1.symm
      next => exact commitPlan_error h

/-- No command takes a case back before its assessment. -/
theorem pastAssessment_step {s : Step CaseBooks CaseCommand (Option HandlerResult)}
    (hpast : s.pre.PastAssessment command) (hs : (caseMachine service).Takes s) :
    s.post.PastAssessment command := by
  obtain ⟨pre, cmd, post, out⟩ := s
  change caseExec service pre cmd = .ok (post, out) at hs
  cases cmd with
  | assess delivery other seen =>
    cases hassess : service.assess delivery other seen pre with
    | mk after returned =>
      have hpost : after = post := by
        rw [caseExec_assess, hassess] at hs
        exact (Prod.mk.inj (Except.ok.inj hs)).1
      obtain rfl := hpost
      cases returned with
      | error e => exact assess_error hassess ▸ hpast
      | ok result => exact (assess_ok hassess).2 command hpast
  | moveCase clock id moved =>
    unfold caseExec at hs
    obtain ⟨changed, hchanged, hs⟩ := bind_ok_iff.mp hs
    obtain ⟨rfl, -⟩ := Prod.mk.inj (pure_ok_iff.mp hs)
    obtain ⟨row, hrow, -, hadmits, rfl⟩ := CaseBooks.updateCase_ok_iff.mp hchanged
    obtain ⟨hkey, hversion⟩ := admitsCase_next hadmits
    exact pastAssessment_put hpast (Table.mem_of_find hrow) hkey (by omega)
  | openCase new =>
    unfold caseExec at hs
    simp only [bind_ok_iff, raiseIf_ok_iff, exists_const, pure_ok_iff, Prod.mk.injEq,
      List.any_eq_true, decide_eq_true_eq, not_exists, not_and] at hs
    obtain ⟨hnew, rfl, -⟩ := hs
    obtain ⟨⟨c, hc, hcase⟩, hversion⟩ := hpast
    refine ⟨⟨c, List.mem_append_left _ hc, hcase⟩, fun row hrow hid => ?_⟩
    rcases List.mem_append.mp hrow with hrow | hrow
    · exact hversion row hrow hid
    · rw [List.mem_singleton.mp hrow] at hid
      exact absurd (hcase.trans hid.symm) (hnew c hc)
  | writeOthers others =>
    unfold caseExec at hs
    obtain ⟨rfl, -⟩ := Prod.mk.inj (Except.ok.inj hs)
    exact ⟨hpast.found, hpast.version⟩

/-- In every run, every delivery of a job behind a commit of it changes nothing, and is
dead-lettered or sent round again: none of them is taken for what has been applied already. -/
theorem redelivery_never_succeeds {start final : CaseBooks}
    {before middle rest : List (Step CaseBooks CaseCommand (Option HandlerResult))}
    {committing redelivered : Step CaseBooks CaseCommand (Option HandlerResult)}
    {delivery redelivery : AssessmentDelivery} {seen seenAgain : CaseBooks}
    {result : AssessmentResult}
    (hrun : (caseMachine service).Run start
      (before ++ committing :: (middle ++ redelivered :: rest)) final)
    (hcmd : committing.cmd = .assess delivery command seen)
    (hcommitted : (service.assess delivery command seen committing.pre).2 = .ok result)
    (hagain : redelivered.cmd = .assess redelivery command seenAgain) :
    redelivered.post = redelivered.pre ∧
      (redelivered.out = some (.deadLetter "assessment_not_eligible") ∨
        ∃ reason, redelivered.out = some (.retry reason .reconcileOnly)) := by
  obtain ⟨-, htakes, hbehind⟩ := hrun.cut before committing _ rfl
  obtain ⟨hmiddle, htakesAgain, -⟩ := hbehind.cut middle redelivered rest rfl
  have hpast : committing.post.PastAssessment command := by
    change caseExec service committing.pre committing.cmd = .ok _ at htakes
    rw [hcmd] at htakes
    have hpost := (Prod.mk.inj (Except.ok.inj htakes)).1
    rw [← hpost]
    exact (assess_ok (Prod.ext rfl hcommitted)).1
  have hpre : redelivered.pre.PastAssessment command :=
    hmiddle.invariant (I := fun b => b.PastAssessment command) hpast
      fun _ hs htakes => pastAssessment_step hs htakes
  have hassessed : ∃ e, service.assess redelivery command seenAgain redelivered.pre =
      (redelivered.pre, .error e) ∧ e.Unrecognised := assess_of_past hpre
  obtain ⟨e, hassess, he⟩ := hassessed
  change caseExec service redelivered.pre redelivered.cmd = .ok _ at htakesAgain
  rw [hagain, caseExec_assess, hassess] at htakesAgain
  obtain ⟨hpost, hout⟩ := Prod.mk.inj (Except.ok.inj htakesAgain)
  refine ⟨hpost.symm, ?_⟩
  rw [← hout]
  rcases handlerResult_of_unrecognised he with h | ⟨reason, h⟩
  · exact .inl (congrArg some h)
  · exact .inr ⟨reason, congrArg some h⟩

end

/-! ## A captured payment

The payment of a case was captured while the case was observed: its assessment closes the case
without an effect, and the job comes back. -/

def assessCommandFields : AssessCommandFields where
  merchantId := "01HZZZZZZZZZZZZZZZZZZZZZZM"
  providerAccountId := "01HZZZZZZZZZZZZZZZZZZZZZZA"
  logicalOrderId := "01HZZZZZZZZZZZZZZZZZZZZZZR"
  paymentRecordId := "01HZZZZZZZZZZZZZZZZZZZZZZP"
  recoveryCaseId := "01HZZZZZZZZZZZZZZZZZZZZZZC"
  expectedCaseVersion := 0

theorem assessCommandFields_valid : assessCommandFields.postInit = .ok () := by decide

def assessCommand : AssessRecoveryCaseCommand := ⟨assessCommandFields, assessCommandFields_valid⟩

def observedCase : CaseRecord where
  id := "01HZZZZZZZZZZZZZZZZZZZZZZC"
  logicalOrderId := "01HZZZZZZZZZZZZZZZZZZZZZZR"
  currency := "INR"
  amountDueSnapshotMinor := 500
  state := .observing
  version := 0
  observationContractVersion := 1
  lastActionId := none
  terminalReasonCode := none
  terminalAt := none
  merchantId := "01HZZZZZZZZZZZZZZZZZZZZZZM"
  providerAccountId := "01HZZZZZZZZZZZZZZZZZZZZZZA"
  incidentId := none
  observationStartedAt := some sampleStart
  observationDeadlineAt := some sampleDeadline
  evaluationDeadlineAt := none
  attemptCount := 0
  contactCount := 0
  lastDecisionId := none
  lastDecisionAt := none
  lastActionAt := none

def unpaidOrder : LogicalOrderRecord where
  id := "01HZZZZZZZZZZZZZZZZZZZZZZR"
  merchantOrderReference := "reference"
  originalProviderOrderId := some "order_A"
  amountDueMinor := 500
  currency := "INR"
  capturedTotalMinor := 0
  refundedTotalMinor := 0
  canonicalTruth := .unpaid
  providerSnapshotAt := some sampleStart
  mappingStatus := .mapped
  merchantId := "01HZZZZZZZZZZZZZZZZZZZZZZM"
  providerAccountId := "01HZZZZZZZZZZZZZZZZZZZZZZA"
  truthVersion := 1

theorem isUlid_failedPayment : isUlid "01HZZZZZZZZZZZZZZZZZZZZZZP" = true := by decide

def failedPaymentRow : PaymentRecordRow where
  id := "01HZZZZZZZZZZZZZZZZZZZZZZP"
  providerPaymentId := "pay_A"
  providerOrderId := some "order_A"
  amountMinor := 500
  currency := "INR"
  paymentMethod := some "upi"
  providerSnapshotAt := sampleStart
  idOk := isUlid_failedPayment
  logicalOrderId := "01HZZZZZZZZZZZZZZZZZZZZZZR"
  status := .failed
  capturedMinor := 0
  refundedMinor := 0
  errorFacts := []
  merchantId := "01HZZZZZZZZZZZZZZZZZZZZZZM"
  providerAccountId := "01HZZZZZZZZZZZZZZZZZZZZZZA"
  providerCreatedAt := none

def observedCaseBooks : CaseBooks where
  merchants := [{
    id := "01HZZZZZZZZZZZZZZZZZZZZZZM"
    status := .active
    killSwitchEnabled := false
    defaultPolicyVersion := "policy_1" }]
  accounts := [{
    id := "01HZZZZZZZZZZZZZZZZZZZZZZA"
    merchantId := "01HZZZZZZZZZZZZZZZZZZZZZZM"
    providerAccountIdentifier := "acc_A"
    environment := .test
    enabled := true
    credentialBindingVersion := 1 }]
  orders := [unpaidOrder]
  payments := [failedPaymentRow]
  cases := [observedCase]
  decisions := []
  approvals := []
  actions := []
  instruments := []
  jobs := []

def capturedTruthFields : PaymentTruthFields where
  merchantId := "01HZZZZZZZZZZZZZZZZZZZZZZM"
  providerAccountId := "01HZZZZZZZZZZZZZZZZZZZZZZA"
  credentialBindingVersion := 1
  providerPaymentId := "pay_A"
  providerOrderId := "order_A"
  status := .captured
  amountMinor := 500
  currency := "INR"
  capturedMinor := 500
  refundedMinor := 0
  paymentMethod := "upi"
  errorSource := none
  errorStep := none
  errorReason := none
  observedAt := sampleDeadline

theorem capturedTruthFields_valid : capturedTruthFields.postInit = .ok () := by decide

def capturedTruth : FreshProviderPaymentTruth := ⟨capturedTruthFields, capturedTruthFields_valid⟩

def normalHealthFields : MethodHealthFields where
  merchantId := "01HZZZZZZZZZZZZZZZZZZZZZZM"
  providerAccountId := "01HZZZZZZZZZZZZZZZZZZZZZZA"
  paymentMethod := "upi"
  incidentState := .normal
  observedAt := sampleDeadline
  detectorVersion := normalDetectorVersion
  thresholdVersion := normalThresholdVersion

theorem normalHealthFields_valid : normalHealthFields.postInit = .ok () := by decide

def normalHealth : FreshMethodHealthTruth := ⟨normalHealthFields, normalHealthFields_valid⟩

def abstainingDiagnosis (s : AssessmentSnapshot) : DiagnosisResult where
  artifactVersion := "artifact_1"
  predictedClass := .unknown
  confidence := ⟨⟨false, 1, 0⟩, Decimal.nonneg_one, Decimal.one_le_one⟩
  classProbabilities := []
  abstained := true
  outOfDistribution := false
  featureSnapshot := normalizeFeatures (diagnosisFeatures s capturedTruthFields normalHealthFields)
  provenance := {}

theorem plannerTtl_ok : 0 < minutes 5 := by decide

theorem plannerLinkTtl_ok :
    minutes 5 + minutes 15 ≤ minutes 1440 ∧ minutes 1440 ≤ minutes (180 * 24 * 60) := by decide

theorem assessAttempts_ok : 0 < 5 ∧ 0 < 8 := by decide

theorem assessWindows_ok : 0 < minutes 5 ∧ 0 < minutes 5 := by decide

def assessmentService : AssessmentService where
  repository := {
    actionMaxAttempts := 5
    outboxMaxAttempts := 8
    incidentWait := minutes 5
    approvalTtl := minutes 5
    attemptsOk := assessAttempts_ok
    windowsOk := assessWindows_ok }
  planner := {
    gate := sampleGate
    proposalTtl := minutes 5
    linkTtl := minutes 1440
    globalKillSwitch := false
    proposalTtlOk := plannerTtl_ok
    linkTtlOk := plannerLinkTtl_ok }

/-- A delivery that reaches everything, and reads that the payment was captured. -/
def capturedDelivery : AssessmentDelivery where
  loadedAt := sampleDeadline
  loadFailure := none
  fetchTruth _ := .ok capturedTruth
  fetchHealth _ _ := .ok normalHealth
  diagnose s _ _ := .ok (abstainingDiagnosis s)
  commitFailure := none
  readings := {
    lockedAt := sampleDeadline
    startedAt := sampleDeadline
    planIds := ⟨"", "", "", ""⟩
    decisionId := "01HZZZZZZZZZZZZZZZZZZZZZZD"
    approvalId := "01HZZZZZZZZZZZZZZZZZZZZZZE" }
  probeFailure := none

def observedSnapshot : AssessmentSnapshot where
  databaseNow := sampleDeadline
  merchant := ⟨false, "policy_1"⟩
  providerAccount := ⟨"acc_A", 1⟩
  recoveryCase := {
    recoveryCaseId := "01HZZZZZZZZZZZZZZZZZZZZZZC"
    merchantId := "01HZZZZZZZZZZZZZZZZZZZZZZM"
    logicalOrderId := "01HZZZZZZZZZZZZZZZZZZZZZZR"
    providerAccountId := "01HZZZZZZZZZZZZZZZZZZZZZZA"
    currency := "INR"
    amountDueMinor := 500
    state := .observing
    version := 0
    observationStartedAt := sampleStart
    observationDeadlineAt := sampleDeadline
    attemptCount := 0
    contactCount := 0
    incidentId := none }
  logicalOrder := {
    originalProviderOrderId := "order_A"
    amountDueMinor := 500
    currency := "INR"
    truthVersion := 1
    providerSnapshotAt := sampleStart }
  providerPayment := {
    paymentRecordId := "01HZZZZZZZZZZZZZZZZZZZZZZP"
    providerPaymentId := "pay_A"
    providerOrderId := "order_A"
    amountMinor := 500
    currency := "INR"
    paymentMethod := some "upi"
    errorSource := none
    errorStep := none
    errorReason := none
    providerCreatedAt := none
    providerSnapshotAt := sampleStart }
  activeInstrumentCount := 0

/-- The plan for a payment that was captured. -/
def capturedPlan : BlockedAssessmentPlan where
  diagnosis := abstainingDiagnosis observedSnapshot
  reasonCodes := ["PROVIDER_PAYMENT_NOT_FAILED"]

/-- The books once the case is closed. -/
def closedCaseBooks : CaseBooks :=
  (persistPlan assessmentService.repository capturedDelivery.readings assessCommand
    observedSnapshot capturedTruth normalHealth assessmentService.planner
    (.blocked capturedPlan) observedCaseBooks).toOption.getD observedCaseBooks

theorem capturedDelivery_commits :
    assessmentService.assess capturedDelivery assessCommand observedCaseBooks observedCaseBooks =
      (closedCaseBooks, .ok (assessmentResult capturedDelivery.readings assessCommand
        (.blocked capturedPlan))) := by
  have hrow : snapshotFromRow (observedCaseBooks.assessmentRow sampleDeadline assessCommand)
      assessCommand = .ok observedSnapshot := rfl
  have hplan : assessmentService.planner.plan observedSnapshot capturedTruth normalHealth
      (abstainingDiagnosis observedSnapshot) capturedDelivery.readings.planIds =
        .ok (.blocked capturedPlan) := rfl
  have hpersist : persistPlan assessmentService.repository capturedDelivery.readings
      assessCommand observedSnapshot capturedTruth normalHealth assessmentService.planner
      (.blocked capturedPlan) observedCaseBooks = .ok closedCaseBooks :=
    eq_ok_of_isSome _ (by decide)
  exact (AssessmentService.assess_eq_commitPlan rfl rfl rfl).trans
    (commitPlan_of rfl hrow rfl (by decide) (by decide) hplan hpersist)

/-- The loader does not find the closed case eligible. -/
theorem load_closedCaseBooks :
    loadCandidate capturedDelivery assessCommand closedCaseBooks =
      .error (.notEligible "assessment_candidate_row_unsafe") := by
  rfl

/-- The first delivery, whose settlement is lost. -/
def closingStep : Step CaseBooks CaseCommand (Option HandlerResult) where
  pre := observedCaseBooks
  cmd := .assess capturedDelivery assessCommand observedCaseBooks
  post := closedCaseBooks
  out := some (.succeeded "assessment:01HZZZZZZZZZZZZZZZZZZZZZZC:blocked")

/-- The second one. -/
def returningStep : Step CaseBooks CaseCommand (Option HandlerResult) where
  pre := closedCaseBooks
  cmd := .assess capturedDelivery assessCommand closedCaseBooks
  post := closedCaseBooks
  out := some (.deadLetter "assessment_not_eligible")

theorem run_closing_returning :
    (caseMachine assessmentService).Run observedCaseBooks [closingStep, returningStep]
      closedCaseBooks := by
  have hfirst : caseExec assessmentService observedCaseBooks
      (.assess capturedDelivery assessCommand observedCaseBooks) =
        .ok (closedCaseBooks, closingStep.out) := by
    rw [caseExec_assess, capturedDelivery_commits]
    rfl
  have hsecond : caseExec assessmentService closedCaseBooks
      (.assess capturedDelivery assessCommand closedCaseBooks) =
        .ok (closedCaseBooks, returningStep.out) := by
    have hassess : assessmentService.assess capturedDelivery assessCommand closedCaseBooks
        closedCaseBooks =
          (closedCaseBooks, .error (.notEligible "assessment_candidate_row_unsafe")) := by
      unfold AssessmentService.assess
      rw [load_closedCaseBooks]
    rw [caseExec_assess, hassess]
    rfl
  have hstart : (caseMachine assessmentService).Run observedCaseBooks [] observedCaseBooks :=
    .start
  exact (hstart.next (s := closingStep) hfirst).next (s := returningStep) hsecond

/-- The job of the captured payment. -/
theorem redelivery_never_succeeds_captured :
    returningStep.post = returningStep.pre ∧
      (returningStep.out = some (.deadLetter "assessment_not_eligible") ∨
        ∃ reason, returningStep.out = some (.retry reason .reconcileOnly)) := by
  have hrun : (caseMachine assessmentService).Run observedCaseBooks
      ([] ++ closingStep :: ([] ++ returningStep :: [])) closedCaseBooks := run_closing_returning
  exact redelivery_never_succeeds hrun rfl (congrArg Prod.snd capturedDelivery_commits) rfl

/-- A job whose commit went through is dead-lettered when it comes back, as not eligible. -/
theorem redelivery_dead_lettered :
    ∃ committing redelivered final,
      (caseMachine assessmentService).Run observedCaseBooks [committing, redelivered] final ∧
      committing.cmd = .assess capturedDelivery assessCommand observedCaseBooks ∧
      (∃ result, (assessmentService.assess capturedDelivery assessCommand observedCaseBooks
        committing.pre).2 = .ok result) ∧
      redelivered.cmd = .assess capturedDelivery assessCommand closedCaseBooks ∧
      redelivered.out = some (.deadLetter "assessment_not_eligible") :=
  ⟨closingStep, returningStep, closedCaseBooks, run_closing_returning, rfl,
    ⟨_, congrArg Prod.snd capturedDelivery_commits⟩, rfl, rfl⟩

end Retrywise.ControlPlane
