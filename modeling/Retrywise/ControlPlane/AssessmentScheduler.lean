import Retrywise.ControlPlane.ApprovalService
import Retrywise.ControlPlane.AssessmentRedelivery

/-!
# Assessments: the scheduler

`assessment_worker.py`, `PostgresAssessmentScheduler`: a pass selects the due cases in the
order of their deadlines, as far as its batch goes, and inserts for each the job that
assesses it, unless the outbox has one for this version of the case.

A case that has its job is selected like one that has none, and stays due for as long as
nothing assesses it. A batch full of such cases is a pass that does nothing.

> `due_cases_scheduled_iff`: a pass gets on exactly when its batch reaches past the cases
> that have their job, and passes that all do schedule every due case.
-/

namespace Retrywise.ControlPlane

open Retrywise.Foundation Retrywise.Domain

/-! ## What is due -/

/-- The condition of `_SELECT_DUE` on the case, at one reading of the clock. -/
def CaseRecord.isDueAt (c : CaseRecord) (now : Timestamp) : Bool :=
  (c.state = .observing || c.state = .waiting) && c.observationContractVersion = 1 &&
    ((c.state = .observing && c.observationDeadlineAt.any fun deadline => deadline ≤ now) ||
      (c.state = .waiting && c.evaluationDeadlineAt.any fun deadline => deadline ≤ now))

/-- The deadline a case is ordered by. -/
def CaseRecord.dueAt (c : CaseRecord) : Option Timestamp :=
  if c.state = .observing then c.observationDeadlineAt else c.evaluationDeadlineAt

/-- The lateral join: the latest failed payment of the case's order. -/
def CaseBooks.failedPayment (books : CaseBooks) (c : CaseRecord) : Option PaymentRecordRow :=
  latestRecord (books.payments.filter fun p =>
    p.merchantId = c.merchantId && p.providerAccountId = c.providerAccountId &&
      p.logicalOrderId = c.logicalOrderId && p.currency = c.currency && p.status = .failed)

/-- A row of `_SELECT_DUE`. -/
structure DueCase where
  recoveryCase : CaseRecord
  payment : PaymentRecordRow

/-- The order of the rows: by the deadline, and then by the id. -/
def DueCase.Before (a b : DueCase) : Prop :=
  match a.recoveryCase.dueAt, b.recoveryCase.dueAt with
  | some x, some y => x < y ∨ x = y ∧ a.recoveryCase.id ≤ b.recoveryCase.id
  | some _, none => True
  | none, some _ => False
  | none, none => a.recoveryCase.id ≤ b.recoveryCase.id

instance (a b : DueCase) : Decidable (a.Before b) := by
  unfold DueCase.Before
  split <;> infer_instance

/-- All that is due and not locked by anyone else, in order. -/
def CaseBooks.dueCases (books : CaseBooks) (locked : String → Bool) (now : Timestamp) :
    List DueCase :=
  ((books.cases.filter fun c => c.isDueAt now && !locked c.id).filterMap fun c =>
    (books.failedPayment c).map fun payment => ⟨c, payment⟩).insertionSort DueCase.Before

/-! ## A pass -/

def assessmentKey (recoveryCaseId : String) (version : Nat) : String :=
  s!"assess-recovery-case:{recoveryCaseId}:v{version}"

/-- The outbox has the job that assesses this version of the case. -/
def CaseBooks.isScheduled (books : CaseBooks) (c : CaseRecord) : Bool :=
  books.jobs.any fun job =>
    job.merchantId = c.merchantId && job.idempotencyKey = assessmentKey c.id c.version

/-- `encode_assess_recovery_case_command`. -/
def encodeAssessRecoveryCaseCommand (command : AssessRecoveryCaseCommand) : Json :=
  .obj [
    ("expected_case_version", .int command.expectedCaseVersion),
    ("logical_order_id", .str command.logicalOrderId),
    ("merchant_id", .str command.merchantId),
    ("payment_record_id", .str command.paymentRecordId),
    ("provider_account_id", .str command.providerAccountId),
    ("recovery_case_id", .str command.recoveryCaseId),
    ("schema_version", .int 1),
    ("source", .str "RAZORPAY_TEST_MODE")]

/-- `PostgresAssessmentScheduler`, with the checks of its constructor. -/
structure AssessmentScheduler where
  batchSize : Nat
  maxAttempts : Nat
  batchOk : 1 ≤ batchSize ∧ batchSize ≤ 100
  attemptsOk : 1 ≤ maxAttempts ∧ maxAttempts ≤ 100

structure AssessmentScheduleResult where
  selected : Nat
  scheduled : Nat
  alreadyScheduled : Nat
deriving DecidableEq, Repr

namespace AssessmentScheduler

variable (scheduler : AssessmentScheduler) (now : Timestamp)

/-- The row of `_INSERT_ASSESSMENT`. -/
def jobRow (c : CaseRecord) (id : String) (payload : Json) : JobRecord where
  id := id
  merchantId := c.merchantId
  aggregateType := "RECOVERY_CASE"
  aggregateId := c.id
  commandType := "ASSESS_RECOVERY_CASE"
  commandSchemaVersion := 1
  idempotencyKey := assessmentKey c.id c.version
  status := .pending
  attemptCount := 0
  maxAttempts := scheduler.maxAttempts
  nextAttemptAt := now
  leaseOwner := none
  leaseToken := none
  leaseExpiresAt := none
  deliveryVersion := 0
  retryMode := .normal
  lastErrorCode := none
  lastErrorAt := none
  completionReference := none
  completedAt := none
  deadLetterReason := none
  deadLetteredAt := none
  createdAt := now
  updatedAt := now
  commandPayload := payload

/-- One row of a pass, and whether it was given a job. -/
def scheduleRow (row : DueCase) (id : String) (books : CaseBooks) :
    Except ControlPlaneError (CaseBooks × Bool) := do
  let c := row.recoveryCase
  raiseIf (¬(isUlid c.id ∧ isUlid c.merchantId ∧ isUlid c.providerAccountId ∧
      isUlid c.logicalOrderId ∧ isUlid row.payment.id))
    (.invalidValue "assessment scheduler row is unsafe")
  let command ← construct AssessCommandFields.postInit AssessRecoveryCaseCommand.mk {
    merchantId := c.merchantId
    providerAccountId := c.providerAccountId
    logicalOrderId := c.logicalOrderId
    paymentRecordId := row.payment.id
    recoveryCaseId := c.id
    expectedCaseVersion := c.version }
  raiseIf (¬isUlid id) (.invalidValue "assessment scheduler id factory is unsafe")
  let payload := encodeAssessRecoveryCaseCommand command
  raiseIf (4096 < payload.canonicalText.length)
    (.invalidValue "assessment payload exceeds its boundary")
  -- `ON CONFLICT (merchant_id, idempotency_key) DO NOTHING`
  if books.isScheduled c then return (books, false)
  else do
    let books ← books.insertJob (.database "outbox_jobs") (scheduler.jobRow now c id payload)
    return (books, true)

/-- The rows of a pass one after the other, with how many were given a job. -/
def scheduleRows : List DueCase → (ids : Nat → String) → CaseBooks →
    Except ControlPlaneError (CaseBooks × Nat)
  | [], _, books => return (books, 0)
  | row :: rest, ids, books => do
    let (books, inserted) ← scheduler.scheduleRow now row (ids 0) books
    let (books, scheduled) ← scheduleRows rest (fun i => ids (i + 1)) books
    return (books, if inserted then scheduled + 1 else scheduled)

/-- What a pass selects. -/
def batch (books : CaseBooks) (locked : String → Bool) : List DueCase :=
  (books.dueCases locked now).take scheduler.batchSize

/-- `schedule_due`; what raises is rolled back. -/
def scheduleDue (books : CaseBooks) (locked : String → Bool) (ids : Nat → String) :
    Except ControlPlaneError (CaseBooks × AssessmentScheduleResult) := do
  let rows := scheduler.batch now books locked
  let (books, scheduled) ← scheduler.scheduleRows now rows ids books
  return (books, ⟨rows.length, scheduled, rows.length - scheduled⟩)

end AssessmentScheduler

/-! ## What a pass does -/

/-- Jobs that assess cases are appended to the outbox, and nothing else is written. -/
def CaseBooks.Gains (books after : CaseBooks) (added : List JobRecord) : Prop :=
  after = books.setJobs (books.jobs ++ added) ∧
    ∀ job ∈ added, job.commandType = "ASSESS_RECOVERY_CASE"

namespace CaseBooks

variable {books mid after : CaseBooks} {added more : List JobRecord} {c : CaseRecord}

theorem Gains.refl : books.Gains books [] :=
  ⟨by rw [List.append_nil]; rfl, fun _ h => absurd h List.not_mem_nil⟩

theorem Gains.trans (hfirst : books.Gains mid added) (hsecond : mid.Gains after more) :
    books.Gains after (added ++ more) := by
  obtain ⟨rfl, hadded⟩ := hfirst
  obtain ⟨rfl, hmore⟩ := hsecond
  constructor
  · show _ = books.setJobs _
    rw [← List.append_assoc]
    rfl
  · intro job hjob
    rcases List.mem_append.mp hjob with hjob | hjob
    · exact hadded job hjob
    · exact hmore job hjob

/-- What is scheduled stays so. -/
theorem Gains.isScheduled (h : books.Gains after added) (hc : books.isScheduled c = true) :
    after.isScheduled c = true := by
  obtain ⟨rfl, -⟩ := h
  unfold isScheduled at hc ⊢
  rw [setJobs_jobs, List.any_append, hc, Bool.true_or]

theorem Gains.cases_eq (h : books.Gains after added) : after.cases = books.cases := by
  obtain ⟨rfl, -⟩ := h
  rfl

theorem Gains.failedPayment_eq (h : books.Gains after added) :
    after.failedPayment c = books.failedPayment c := by
  obtain ⟨rfl, -⟩ := h
  rfl

end CaseBooks

namespace AssessmentScheduler

variable {scheduler : AssessmentScheduler} {now : Timestamp} {books after : CaseBooks}
  {locked : String → Bool} {ids : Nat → String}

/-- A row is given a job exactly when its case has none, and has one then. -/
theorem scheduleRow_ok {row : DueCase} {id : String} {inserted : Bool}
    (h : scheduler.scheduleRow now row id books = .ok (after, inserted)) :
    (∃ added, books.Gains after added ∧ added.length = if inserted then 1 else 0) ∧
      (inserted = true ↔ books.isScheduled row.recoveryCase = false) ∧
      after.isScheduled row.recoveryCase = true := by
  unfold scheduleRow at h
  obtain ⟨_, -, h⟩ := bind_ok_iff.mp h
  obtain ⟨command, -, h⟩ := bind_ok_iff.mp h
  obtain ⟨_, -, h⟩ := bind_ok_iff.mp h
  obtain ⟨_, -, h⟩ := bind_ok_iff.mp h
  by_cases hscheduled : books.isScheduled row.recoveryCase = true
  · rw [if_pos hscheduled] at h
    obtain ⟨rfl, rfl⟩ := Prod.mk.inj (pure_ok_iff.mp h)
    exact ⟨⟨[], .refl, rfl⟩, by simp [hscheduled], hscheduled⟩
  · rw [if_neg hscheduled] at h
    obtain ⟨changed, hinsert, h⟩ := bind_ok_iff.mp h
    obtain ⟨rfl, rfl⟩ := Prod.mk.inj (pure_ok_iff.mp h)
    obtain ⟨_, -, hchanged⟩ := bind_ok_iff.mp hinsert
    rw [← pure_ok_iff.mp hchanged]
    refine ⟨⟨_, ⟨rfl, ?_⟩, rfl⟩, by simpa using hscheduled, ?_⟩
    · intro job hjob
      rw [List.mem_singleton.mp hjob]
      rfl
    · simp [CaseBooks.isScheduled, jobRow]

/-- A pass appends a job for each it counts; it counts one exactly when a row had none, and
leaves no row without. -/
theorem scheduleRows_ok {rows : List DueCase} {scheduled : Nat}
    (h : scheduler.scheduleRows now rows ids books = .ok (after, scheduled)) :
    (∃ added, books.Gains after added ∧ added.length = scheduled) ∧
      (0 < scheduled ↔ ∃ row ∈ rows, books.isScheduled row.recoveryCase = false) ∧
      ∀ row ∈ rows, after.isScheduled row.recoveryCase = true := by
  induction rows generalizing books ids scheduled with
  | nil =>
    obtain ⟨rfl, rfl⟩ := Prod.mk.inj (pure_ok_iff.mp h)
    exact ⟨⟨[], .refl, rfl⟩, by simp, fun _ hrow => absurd hrow List.not_mem_nil⟩
  | cons row rest ih =>
    obtain ⟨⟨mid, inserted⟩, hrow, h⟩ := bind_ok_iff.mp h
    obtain ⟨⟨final, more⟩, hrest, h⟩ := bind_ok_iff.mp h
    obtain ⟨rfl, rfl⟩ := Prod.mk.inj (pure_ok_iff.mp h)
    obtain ⟨⟨added, hgains, hlength⟩, hinserted, hdone⟩ := scheduleRow_ok hrow
    obtain ⟨⟨addedRest, hgainsRest, hlengthRest⟩, hpositive, hdoneRest⟩ := ih hrest
    refine ⟨⟨added ++ addedRest, hgains.trans hgainsRest, ?_⟩, ?_, ?_⟩
    · rw [List.length_append, hlength, hlengthRest]
      split <;> omega
    · cases inserted with
      | true =>
        refine ⟨fun _ => ⟨row, List.mem_cons_self, hinserted.mp rfl⟩, fun _ => ?_⟩
        rw [if_pos rfl]
        omega
      | false =>
        -- nothing was written, so the rest finds the books as they were
        have hscheduled : books.isScheduled row.recoveryCase = true := by
          rw [← Bool.not_eq_false]
          exact fun hnone => Bool.false_ne_true (hinserted.mpr hnone)
        have hsame : mid = books := by
          obtain rfl := List.length_eq_zero_iff.mp (by simpa using hlength)
          rw [hgains.1, List.append_nil]
          rfl
        subst hsame
        rw [if_neg (by simp), hpositive]
        constructor
        · rintro ⟨other, hother, hnone⟩
          exact ⟨other, List.mem_cons_of_mem _ hother, hnone⟩
        · rintro ⟨other, hother, hnone⟩
          rcases List.mem_cons.mp hother with rfl | hother
          · exact absurd (hscheduled.symm.trans hnone) (by simp)
          · exact ⟨other, hother, hnone⟩
    · intro other hother
      rcases List.mem_cons.mp hother with rfl | hother
      · exact hgainsRest.isScheduled hdone
      · exact hdoneRest other hother

/-- What a committed pass has done. -/
theorem scheduleDue_ok {result : AssessmentScheduleResult}
    (h : scheduler.scheduleDue now books locked ids = .ok (after, result)) :
    (∃ added, books.Gains after added ∧ added.length = result.scheduled) ∧
      (0 < result.scheduled ↔ ∃ row ∈ scheduler.batch now books locked,
        books.isScheduled row.recoveryCase = false) ∧
      ∀ row ∈ scheduler.batch now books locked, after.isScheduled row.recoveryCase = true := by
  obtain ⟨⟨final, scheduled⟩, hrows, h⟩ := bind_ok_iff.mp h
  obtain ⟨rfl, rfl⟩ := Prod.mk.inj (pure_ok_iff.mp h)
  exact scheduleRows_ok hrows

end AssessmentScheduler

/-! ## Progress -/

/-- A case that is due, not locked and has a failed payment, but no job. -/
structure CaseBooks.Starving (books : CaseBooks) (locked : String → Bool) (now : Timestamp)
    (c : CaseRecord) : Prop where
  known : c ∈ books.cases
  due : c.isDueAt now = true
  unlocked : locked c.id = false
  failed : ∃ payment, books.failedPayment c = some payment
  unscheduled : books.isScheduled c = false

/-- Where a case starves, the batch has one without a job. -/
def AssessmentScheduler.Reaches (scheduler : AssessmentScheduler) (now : Timestamp)
    (books : CaseBooks) (locked : String → Bool) : Prop :=
  (∃ c, books.Starving locked now c) →
    ∃ row ∈ scheduler.batch now books locked, books.isScheduled row.recoveryCase = false

/-- At least one job that assesses a case was inserted, and nothing else was done. -/
def CaseBooks.GetsOn (books after : CaseBooks) : Prop :=
  ∃ added, added ≠ [] ∧ books.Gains after added

namespace CaseBooks

variable {books after : CaseBooks} {locked : String → Bool} {now later : Timestamp}
  {added : List JobRecord} {c : CaseRecord}

theorem mem_dueCases_iff {row : DueCase} :
    row ∈ books.dueCases locked now ↔
      row.recoveryCase ∈ books.cases ∧ row.recoveryCase.isDueAt now = true ∧
        locked row.recoveryCase.id = false ∧
        books.failedPayment row.recoveryCase = some row.payment := by
  unfold dueCases
  rw [List.mem_insertionSort, List.mem_filterMap]
  simp only [List.mem_filter, Bool.and_eq_true, Bool.not_eq_true']
  constructor
  · rintro ⟨c, ⟨hc, hdue, hlocked⟩, hpayment⟩
    obtain ⟨payment, hsome, rfl⟩ := Option.map_eq_some_iff.mp hpayment
    exact ⟨hc, hdue, hlocked, hsome⟩
  · rintro ⟨hc, hdue, hlocked, hsome⟩
    exact ⟨row.recoveryCase, ⟨hc, hdue, hlocked⟩, by rw [hsome]; rfl⟩

/-- A case that is due stays due. -/
theorem isDueAt_mono (hlater : now ≤ later) (h : c.isDueAt now = true) :
    c.isDueAt later = true := by
  have hany : ∀ deadline : Option Timestamp,
      deadline.any (fun d => decide (d ≤ now)) = true →
        deadline.any (fun d => decide (d ≤ later)) = true := by
    rintro (_ | deadline) hdeadline
    · exact hdeadline
    · simp only [Option.any_some, decide_eq_true_eq] at hdeadline ⊢
      exact hdeadline.trans hlater
  simp only [CaseRecord.isDueAt, Bool.and_eq_true, Bool.or_eq_true] at h ⊢
  obtain ⟨hstate, hdue⟩ := h
  refine ⟨hstate, ?_⟩
  rcases hdue with ⟨hobserving, hdeadline⟩ | ⟨hwaiting, hdeadline⟩
  · exact .inl ⟨hobserving, hany _ hdeadline⟩
  · exact .inr ⟨hwaiting, hany _ hdeadline⟩

/-- The cases without a job. -/
def unscheduled (books : CaseBooks) : List CaseRecord :=
  books.cases.filter fun c => !books.isScheduled c

/-- A job for a case that had none leaves fewer cases without. -/
theorem length_unscheduled_lt (hgains : books.Gains after added) (hc : c ∈ books.cases)
    (hbefore : books.isScheduled c = false) (hafter : after.isScheduled c = true) :
    after.unscheduled.length < books.unscheduled.length := by
  have hsub : after.unscheduled.length ≤
      ((books.unscheduled).filter fun d => !after.isScheduled d).length := by
    unfold unscheduled
    rw [hgains.cases_eq, List.filter_filter]
    refine (List.Sublist.length_le ?_)
    refine List.monotone_filter_right _ fun d hd => ?_
    rw [Bool.and_eq_true, Bool.not_eq_true', Bool.not_eq_true']
    rw [Bool.not_eq_true'] at hd
    refine ⟨hd, ?_⟩
    rw [← Bool.not_eq_true]
    intro hbook
    exact absurd ((hgains.isScheduled hbook).symm.trans hd) (by simp)
  refine lt_of_le_of_lt hsub ?_
  refine List.length_filter_lt_length_iff_exists.mpr ⟨c, ?_, by simp [hafter]⟩
  exact List.mem_filter.mpr ⟨hc, by simp [hbefore]⟩

end CaseBooks

namespace AssessmentScheduler

variable {scheduler : AssessmentScheduler} {now : Timestamp} {books after : CaseBooks}
  {locked : String → Bool} {ids : Nat → String} {result : AssessmentScheduleResult}

/-- A committed pass gets on exactly when its batch has a case without a job. -/
theorem getsOn_iff (h : scheduler.scheduleDue now books locked ids = .ok (after, result)) :
    books.GetsOn after ↔ ∃ row ∈ scheduler.batch now books locked,
      books.isScheduled row.recoveryCase = false := by
  obtain ⟨⟨added, hgains, hlength⟩, hpositive, -⟩ := scheduleDue_ok h
  rw [← hpositive, ← hlength, List.length_pos_iff]
  constructor
  · rintro ⟨other, hother, hsame⟩ rfl
    have hjobs : books.jobs ++ other = books.jobs ++ [] :=
      congrArg CaseBooks.jobs (hsame.1.symm.trans hgains.1)
    exact hother (List.append_cancel_left hjobs)
  · intro hadded
    exact ⟨added, hadded, hgains⟩

/-! ## Passes one after the other -/

/-- One pass: its clock, and the ids it is given. -/
structure Pass where
  now : Timestamp
  ids : Nat → String

/-- The scheduler with no other writer: nothing is locked. -/
def machine (scheduler : AssessmentScheduler) :
    Machine CaseBooks Pass AssessmentScheduleResult ControlPlaneError where
  exec books pass := scheduler.scheduleDue pass.now books (fun _ => false) pass.ids

variable {steps : List (Step CaseBooks Pass AssessmentScheduleResult)} {final : CaseBooks}

/-- Passes that all get on leave fewer and fewer cases without a job, until none is left of
those that were due at first. -/
theorem starving_or_fewer {start : Timestamp} (hrun : scheduler.machine.Run books steps final)
    (hguard : ∀ s ∈ steps, start ≤ s.cmd.now ∧
      scheduler.Reaches s.cmd.now s.pre fun _ => false) :
    (∀ c, ¬final.Starving (fun _ => false) start c) ∨
      final.unscheduled.length + steps.length ≤ books.unscheduled.length := by
  induction hrun with
  | start => exact .inr (Nat.le_refl _)
  | @next past s hpast hstep ih =>
    have hs := hguard s (by simp)
    obtain ⟨⟨added, hgains, -⟩, -, hdone⟩ := scheduleDue_ok hstep
    -- a case that starves behind the pass has starved in front of it, at its clock
    have hback : ∀ c, s.post.Starving (fun _ => false) start c →
        s.pre.Starving (fun _ => false) start c := by
      intro c hc
      refine ⟨hgains.cases_eq ▸ hc.known, hc.due, rfl, ?_, ?_⟩
      · rw [← hgains.failedPayment_eq]
        exact hc.failed
      · rw [← Bool.not_eq_true]
        intro hbefore
        exact absurd ((hgains.isScheduled hbefore).symm.trans hc.unscheduled) (by simp)
    by_cases hstarving : ∃ c, s.pre.Starving (fun _ => false) start c
    · right
      have hcount := (ih fun t ht => hguard t (by simp [ht])).resolve_left
        fun hnone => hstarving.elim hnone
      obtain ⟨c, hc⟩ := hstarving
      obtain ⟨row, hrow, hunscheduled⟩ :=
        hs.2 ⟨c, hc.known, CaseBooks.isDueAt_mono hs.1 hc.due, rfl, hc.failed, hc.unscheduled⟩
      have hknown := (CaseBooks.mem_dueCases_iff.mp (List.mem_of_mem_take hrow)).1
      have hless := CaseBooks.length_unscheduled_lt hgains hknown hunscheduled (hdone row hrow)
      rw [List.length_append, List.length_singleton]
      omega
    · left
      exact fun c hc => hstarving ⟨c, hback c hc⟩

/-- **A pass gets on exactly when its batch reaches a case without a job**, wherever one
starves; and passes that all do, as many as there are cases without a job, leave none of
those that were due at first. -/
theorem due_cases_scheduled_iff (scheduler : AssessmentScheduler) :
    (∀ now books locked ids after result,
      scheduler.scheduleDue now books locked ids = .ok (after, result) →
        (((∃ c, books.Starving locked now c) → books.GetsOn after) ↔
          scheduler.Reaches now books locked)) ∧
    ∀ books steps final start, scheduler.machine.Run books steps final →
      (∀ s ∈ steps, start ≤ s.cmd.now ∧ scheduler.Reaches s.cmd.now s.pre fun _ => false) →
      books.unscheduled.length ≤ steps.length →
      ∀ c, ¬final.Starving (fun _ => false) start c := by
  refine ⟨fun now books locked ids after result h => ?_, ?_⟩
  · rw [getsOn_iff h]
    rfl
  · intro books steps final start hrun hguard hlong c hc
    rcases starving_or_fewer hrun hguard with hnone | hfewer
    · exact hnone c hc
    · have hmem : c ∈ final.unscheduled :=
        List.mem_filter.mpr ⟨hc.known, by rw [hc.unscheduled]; rfl⟩
      have hpositive := List.length_pos_of_mem hmem
      omega

end AssessmentScheduler

/-! ## A dead letter at the head of the batch -/

/-- The job of the observed case, which has used up its attempts. -/
def deadAssessment : JobRecord where
  id := "01HZZZZZZZZZZZZZZZZZZZZZZJ"
  merchantId := "01HZZZZZZZZZZZZZZZZZZZZZZM"
  aggregateType := "RECOVERY_CASE"
  aggregateId := "01HZZZZZZZZZZZZZZZZZZZZZZC"
  commandType := "ASSESS_RECOVERY_CASE"
  commandSchemaVersion := 1
  idempotencyKey := "assess-recovery-case:01HZZZZZZZZZZZZZZZZZZZZZZC:v0"
  status := .deadLetter
  attemptCount := 12
  maxAttempts := 12
  nextAttemptAt := sampleDeadline
  leaseOwner := none
  leaseToken := none
  leaseExpiresAt := none
  deliveryVersion := 24
  retryMode := .normal
  lastErrorCode := none
  lastErrorAt := none
  completionReference := none
  completedAt := none
  deadLetterReason := some "attempts_exhausted"
  deadLetteredAt := some sampleDeadline
  createdAt := sampleDeadline
  updatedAt := sampleDeadline
  commandPayload := encodeAssessRecoveryCaseCommand assessCommand

/-- A case of another order, with a later deadline. -/
def laterCase : CaseRecord := { observedCase with
  id := "01HZZZZZZZZZZZZZZZZZZZZZZG"
  logicalOrderId := "01HZZZZZZZZZZZZZZZZZZZZZZS"
  observationDeadlineAt := some sampleExpiry }

theorem isUlid_laterPayment : isUlid "01HZZZZZZZZZZZZZZZZZZZZZZT" = true := by decide

def laterPayment : PaymentRecordRow := { failedPaymentRow with
  id := "01HZZZZZZZZZZZZZZZZZZZZZZT"
  providerPaymentId := "pay_T"
  providerOrderId := some "order_S"
  idOk := isUlid_laterPayment
  logicalOrderId := "01HZZZZZZZZZZZZZZZZZZZZZZS" }

def starvedBooks : CaseBooks := { observedCaseBooks with
  orders := [unpaidOrder, { unpaidOrder with
    id := "01HZZZZZZZZZZZZZZZZZZZZZZS"
    merchantOrderReference := "reference_S"
    originalProviderOrderId := some "order_S" }]
  payments := [failedPaymentRow, laterPayment]
  cases := [observedCase, laterCase]
  jobs := [deadAssessment] }

theorem narrowScheduler_ok : (1 ≤ 1 ∧ 1 ≤ 100) ∧ 1 ≤ 12 ∧ 12 ≤ 100 := by decide

def narrowScheduler : AssessmentScheduler := ⟨1, 12, narrowScheduler_ok.1, narrowScheduler_ok.2⟩

/-- A row whose case has its job is passed over. -/
theorem AssessmentScheduler.scheduleRow_of_scheduled {scheduler : AssessmentScheduler}
    {now : Timestamp} {row : DueCase} {id : String} {books : CaseBooks}
    {command : AssessRecoveryCaseCommand}
    (hids : isUlid row.recoveryCase.id = true ∧ isUlid row.recoveryCase.merchantId = true ∧
      isUlid row.recoveryCase.providerAccountId = true ∧
      isUlid row.recoveryCase.logicalOrderId = true ∧ isUlid row.payment.id = true)
    (hcommand : construct AssessCommandFields.postInit AssessRecoveryCaseCommand.mk {
      merchantId := row.recoveryCase.merchantId
      providerAccountId := row.recoveryCase.providerAccountId
      logicalOrderId := row.recoveryCase.logicalOrderId
      paymentRecordId := row.payment.id
      recoveryCaseId := row.recoveryCase.id
      expectedCaseVersion := row.recoveryCase.version } = .ok command)
    (hid : isUlid id = true)
    (hshort : (encodeAssessRecoveryCaseCommand command).canonicalText.length ≤ 4096)
    (hscheduled : books.isScheduled row.recoveryCase = true) :
    scheduler.scheduleRow now row id books = .ok (books, false) := by
  refine bind_ok_iff.mpr ⟨(), raiseIf_of_not _ (not_not.mpr hids), ?_⟩
  refine bind_ok_iff.mpr ⟨command, hcommand, ?_⟩
  refine bind_ok_iff.mpr ⟨(), raiseIf_of_not _ (not_not.mpr hid), ?_⟩
  refine bind_ok_iff.mpr ⟨(), raiseIf_of_not _ (not_lt.mpr hshort), ?_⟩
  exact if_pos hscheduled

theorem length_assessCommand :
    (encodeAssessRecoveryCaseCommand assessCommand).canonicalText.length ≤ 4096 := by
  rw [Json.canonicalText, String.length_ofList]
  decide +kernel

/-- One dead letter fills a batch of one, and the case behind it gets no job. -/
theorem dead_letter_starves :
    ∃ after result, narrowScheduler.scheduleDue sampleExpiry starvedBooks (fun _ => false)
        (fun _ => "01HZZZZZZZZZZZZZZZZZZZZZZK") = .ok (after, result) ∧
      starvedBooks.Starving (fun _ => false) sampleExpiry laterCase ∧
      ¬starvedBooks.GetsOn after := by
  have hbatch : narrowScheduler.batch sampleExpiry starvedBooks (fun _ => false) =
      [⟨observedCase, failedPaymentRow⟩] := rfl
  have hscheduled : starvedBooks.isScheduled observedCase = true := by decide +kernel
  have hrow : narrowScheduler.scheduleRow sampleExpiry ⟨observedCase, failedPaymentRow⟩
      "01HZZZZZZZZZZZZZZZZZZZZZZK" starvedBooks = .ok (starvedBooks, false) :=
    AssessmentScheduler.scheduleRow_of_scheduled (by decide)
      (construct_ok_iff.mpr ⟨assessCommand.valid, rfl⟩) (by decide) length_assessCommand hscheduled
  obtain ⟨⟨after, result⟩, hpass⟩ : ∃ outcome, narrowScheduler.scheduleDue sampleExpiry
      starvedBooks (fun _ => false) (fun _ => "01HZZZZZZZZZZZZZZZZZZZZZZK") = .ok outcome := by
    have hrows : narrowScheduler.scheduleRows sampleExpiry [⟨observedCase, failedPaymentRow⟩]
        (fun _ => "01HZZZZZZZZZZZZZZZZZZZZZZK") starvedBooks = .ok (starvedBooks, 0) :=
      bind_ok_iff.mpr ⟨_, hrow, rfl⟩
    unfold AssessmentScheduler.scheduleDue
    rw [hbatch]
    exact ⟨_, bind_ok_iff.mpr ⟨_, hrows, rfl⟩⟩
  refine ⟨after, result, hpass, ⟨?_, by decide +kernel, rfl, ?_, by decide +kernel⟩, ?_⟩
  · exact List.mem_cons_of_mem _ List.mem_cons_self
  · exact Option.isSome_iff_exists.mp (by decide +kernel)
  · rw [AssessmentScheduler.getsOn_iff hpass]
    rintro ⟨row, hmem, hnone⟩
    rw [hbatch, List.mem_singleton] at hmem
    subst hmem
    exact absurd (hscheduled.symm.trans hnone) (by simp)

end Retrywise.ControlPlane
