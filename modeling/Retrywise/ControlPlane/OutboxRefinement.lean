import Retrywise.ControlPlane.LeaseFencing
import Retrywise.ControlPlane.OutboxStatements

/-!
# The rows refine the jobs

`OutboxJob` says how a delivery goes; the statements of the repository and the triggers of
the table say it again, of rows. A row represents a job if the two agree in everything a
worker can tell, up to the text of the token, and but for the retry mode of a dead letter:
the rows of dead letters are all for reconciliation, while `dead_letter` keeps the mode of
the job and `requeue` takes the one it is given.

While the clock does not go back behind the last write, every call does to a row what the
operation does to its job, and where it does nothing the operation raises. Behind the last
write the trigger raises, as the operation does.

> `outbox_refines`: the three cases of a call.
>
> `represented_of_delivered`: every row that calls lead to represents a job.
-/

namespace Retrywise.ControlPlane

open Retrywise.Foundation Retrywise.Domain

/-! ## Rows of jobs -/

/-- The state of the job; no operation cancels one. -/
def OutboxStatus.jobState : OutboxStatus → Option OutboxState
  | .pending | .retryScheduled => some .pending
  | .inProgress => some .leased
  | .succeeded => some .completed
  | .deadLetter => some .deadLetter
  | .cancelled => none

structure Represents (row : OutboxRow) (job : OutboxJob) : Prop where
  jobId : job.jobId = row.id
  state : row.status.jobState = some job.state
  version : job.version = row.deliveryVersion
  attempts : job.attempts = row.attemptCount
  maxAttempts : job.maxAttempts = row.maxAttempts
  availableAt : job.state = .pending → job.availableAt = some row.nextAttemptAt
  leaseOwner : job.leaseOwner = row.leaseOwner
  leaseToken : job.leaseToken.isSome = row.leaseToken.isSome
  cleanToken : ∀ token, job.leaseToken = some token → isCleanText 128 token = true
  leaseExpiresAt : job.leaseExpiresAt = row.leaseExpiresAt
  retryMode : job.state ≠ .deadLetter → job.retryMode = row.retryMode

namespace OutboxCall

/-- The operation on the job. A retry whose reason has to be cut is `dead_letter` with what
the cut leaves. -/
def toJob (version : Nat) (leaseToken : String) (now : Timestamp) : OutboxCall → JobCommand
  | .claim terms => .claim terms.workerId now terms.leaseDuration version
  | .complete command completionReference =>
    .complete command.workerId leaseToken now command.deliveryVersion completionReference
  | .retry backoff command reason retryMode =>
    if command.attemptCount ≥ command.maxAttempts ∧ 489 < reason.toList.length then
      .deadLetter command.workerId leaseToken now command.deliveryVersion
        (OutboxRow.prefixedReason "max_attempts_exhausted" reason)
    else
      .requeue command.workerId leaseToken now command.deliveryVersion reason backoff retryMode
  | .deadLetter command reason =>
    .deadLetter command.workerId leaseToken now command.deliveryVersion reason

end OutboxCall

section

variable {row new : OutboxRow} {job updated : OutboxJob} {call : OutboxCall} {now : Timestamp}
  {leaseToken : String} {command : ClaimedOutboxCommand}

/-! ## The predicates -/

/-- The row of a job that waits, or is leased, is due when the job is. -/
theorem Represents.claimable_iff (h : Represents row job) :
    row.claimable now = true ↔ job.Ready now := by
  have hstate := h.state
  cases hstatus : row.status with
  | pending =>
    rw [hstatus] at hstate
    have hpending : job.state = .pending := (Option.some.inj hstate).symm
    simp [OutboxRow.claimable, OutboxJob.Ready, hstatus, hpending, h.availableAt hpending]
  | retryScheduled =>
    rw [hstatus] at hstate
    have hpending : job.state = .pending := (Option.some.inj hstate).symm
    simp [OutboxRow.claimable, OutboxJob.Ready, hstatus, hpending, h.availableAt hpending]
  | inProgress =>
    rw [hstatus] at hstate
    have hleased : job.state = .leased := (Option.some.inj hstate).symm
    have hchecked := (JobFields.postInit_ok_iff.mp job.valid).2.2.2.2.2.2.2.2.2.2.2
    have hexpiry := ((JobFields.checkState_leased_iff hleased).mp hchecked).1.2.2.2
    obtain ⟨expiry, hexpires⟩ := Option.ne_none_iff_exists'.mp hexpiry
    simp [OutboxRow.claimable, OutboxJob.Ready, hstatus, hleased, ← h.leaseExpiresAt, hexpires]
  | succeeded =>
    rw [hstatus] at hstate
    have hend : job.state = .completed := (Option.some.inj hstate).symm
    simp [OutboxRow.claimable, OutboxJob.Ready, hstatus, hend]
  | deadLetter =>
    rw [hstatus] at hstate
    have hend : job.state = .deadLetter := (Option.some.inj hstate).symm
    simp [OutboxRow.claimable, OutboxJob.Ready, hstatus, hend]
  | cancelled =>
    rw [hstatus] at hstate
    exact absurd hstate (by simp [OutboxStatus.jobState])

theorem Represents.leased_iff (h : Represents row job) :
    row.status = .inProgress ↔ job.state = .leased := by
  have hstate := h.state
  constructor
  · intro hstatus
    rw [hstatus] at hstate
    exact (Option.some.inj hstate).symm
  · intro hleased
    rw [hleased] at hstate
    revert hstate
    cases row.status <;> decide

/-- A command is checked for its worker when it is read. -/
theorem isCleanText_workerId (command : ClaimedOutboxCommand) :
    isCleanText 128 command.workerId = true := by
  have hvalid := command.valid
  simp only [ClaimFields.postInit, bind_ok_iff] at hvalid
  obtain ⟨_, -, _, -, _, -, _, -, _, -, _, -, _, hworker, -⟩ := hvalid
  exact requireCleanText_ok_iff.mp hworker

/-- The row is held by a command where its job is. -/
theorem Represents.heldBy_iff (h : Represents row job) (hof : command.toClaimFields.Of row)
    (htoken : job.leaseToken = some leaseToken ↔ row.leaseToken = some command.leaseToken) :
    row.heldBy command.jobId command.merchantId command.deliveryVersion command.workerId
        command.leaseToken now = true ↔
      command.deliveryVersion = job.version ∧
        job.assertActiveLease command.workerId leaseToken now = .ok () := by
  rw [OutboxJob.assertActiveLease_ok_iff, ← h.leased_iff, htoken, h.leaseOwner, h.leaseExpiresAt,
    h.version]
  simp only [OutboxRow.heldBy, Bool.and_eq_true, decide_eq_true_eq, hof.jobId, hof.merchantId,
    isCleanText_workerId command, true_and]
  constructor
  · rintro ⟨⟨⟨⟨hstatus, hversion⟩, howner⟩, htokens⟩, hexpiry⟩
    obtain ⟨expiry, hexpires, hruns⟩ := Option.any_eq_true .. |>.mp hexpiry
    exact ⟨hversion.symm, h.cleanToken _ (htoken.mpr htokens), hstatus, howner, htokens, expiry,
      hexpires, by simpa using hruns⟩
  · rintro ⟨hversion, -, hstatus, howner, htokens, expiry, hexpires, hruns⟩
    refine ⟨⟨⟨⟨hstatus, hversion.symm⟩, howner⟩, htokens⟩, ?_⟩
    rw [hexpires]
    simpa using hruns

/-! ## What is written -/

/-- What a call writes to a row that passes. -/
inductive Writes [Hashlib] (row : OutboxRow) (job : OutboxJob) (leaseToken : String)
    (now : Timestamp) (call : OutboxCall) : Prop
  | both (new : OutboxRow) (fields : JobFields)
      (written : call.written row now = .ok (some new))
      (drafts : Drafts job (call.toJob job.version leaseToken now) (some fields))
      (short : ¬Overlong job (call.toJob job.version leaseToken now))
      (represents : ∀ updated : OutboxJob, updated.toJobFields = fields →
        ∀ stamped, Represents { new with updatedAt := stamped } updated)
      (updatedAt : fields.updatedAt = now)
      (deadLetter : new.status = .deadLetter → new.retryMode = .reconcileOnly)
      (claimed : call.command = none → fields.retryMode = new.retryMode)

variable [Hashlib]

/-- A job is drafted in one way. -/
theorem fields_of_apply {command : JobCommand} {fields : JobFields}
    (h : Drafts job command (some fields)) (happly : command.apply job = .ok updated) :
    updated.toJobFields = fields := by
  obtain ⟨draft, hdraft, hwritten⟩ := apply_ok_iff.mp happly
  cases h with
  | lease hworker hforward hpositive hready hleft hexpires =>
    cases hdraft with
    | lease _ _ _ _ _ hother =>
      rw [hexpires] at hother
      obtain rfl := Except.ok.inj hother
      exact JobFields.build_ok_iff.mp hwritten
    | exhaust _ _ _ _ hnone => exact absurd hleft (Nat.not_lt.mpr hnone)
  | exhaust hworker hforward hpositive hready hleft =>
    cases hdraft with
    | lease _ _ _ _ hsome _ => exact absurd hsome (Nat.not_lt.mpr hleft)
    | exhaust _ _ _ _ _ => exact JobFields.build_ok_iff.mp hwritten
  | complete htext hheld =>
    cases hdraft with
    | complete _ _ => exact JobFields.build_ok_iff.mp hwritten
    | completed _ hend _ => exact absurd (.inl hend) hheld.not_terminal
  | requeue htext hheld hleft havailable =>
    cases hdraft with
    | requeue _ _ _ hother =>
      rw [havailable] at hother
      obtain rfl := Except.ok.inj hother
      exact JobFields.build_ok_iff.mp hwritten
    | giveUp _ _ hnone => exact absurd hleft (Nat.not_lt.mpr hnone)
  | giveUp htext hheld hleft =>
    cases hdraft with
    | requeue _ _ hsome _ => exact absurd hsome (Nat.not_lt.mpr hleft)
    | giveUp _ _ _ => exact JobFields.build_ok_iff.mp hwritten
  | deadLetter htext hheld =>
    cases hdraft with
    | deadLetter _ _ => exact JobFields.build_ok_iff.mp hwritten
    | dead _ hend _ => exact absurd (.inr hend) hheld.not_terminal

/-- A claim writes to a row that is due. -/
theorem writes_claim {terms : ClaimTerms} (h : Represents row job) (hforward : job.updatedAt ≤ now)
    (haccepted : (OutboxCall.claim terms).Accepted now) (hdue : row.claimable now = true) :
    Writes row job leaseToken now (.claim terms) := by
  obtain ⟨hterms, expiresAt, hexpires⟩ := haccepted
  obtain ⟨hworker, hpositive, -, -⟩ := ClaimTerms.check_ok_iff.mp hterms
  have hready := h.claimable_iff.mp hdue
  have hwritten := written_claim hterms hexpires hdue
  by_cases hlast : row.attemptCount ≥ row.maxAttempts
  · have hleft : job.maxAttempts ≤ job.attempts := by
      rw [h.maxAttempts, h.attempts]
      exact hlast
    rw [OutboxRow.claimed, if_pos hlast] at hwritten
    refine .both _ _ hwritten (.exhaust hworker hforward hpositive hready hleft)
      (fun hlong => hlong) ?_ rfl (fun _ => rfl) (fun _ => rfl)
    intro updated hfields stamped
    constructor <;> rw [hfields]
    · exact h.jobId
    · rfl
    · exact congrArg (· + 1) h.version
    · exact h.attempts
    · exact h.maxAttempts
    · exact fun hpending => absurd hpending (by simp [OutboxJob.exhaustedRow])
    · rfl
    · rfl
    · exact fun token htoken => absurd htoken (by simp [OutboxJob.exhaustedRow, OutboxJob.released])
    · rfl
    · exact fun hopen => absurd rfl hopen
  · have hleft : job.attempts < job.maxAttempts := by
      rw [h.maxAttempts, h.attempts]
      exact Nat.lt_of_not_le hlast
    have hmode : (if job.state = .leased then RetryMode.reconcileOnly else job.retryMode) =
        if row.status = .inProgress then .reconcileOnly else row.retryMode := by
      have hopen : job.state ≠ .deadLetter := fun hdead => hready.not_terminal (.inr hdead)
      rw [h.retryMode hopen]
      exact if_congr h.leased_iff.symm rfl rfl
    rw [OutboxRow.claimed, if_neg hlast] at hwritten
    refine .both _ _ hwritten (.lease hworker hforward hpositive hready hleft hexpires)
      (fun hlong => hlong) ?_ rfl (fun hdead => absurd hdead (by simp)) (fun _ => hmode)
    intro updated hfields stamped
    constructor <;> rw [hfields]
    · exact h.jobId
    · rfl
    · exact congrArg (· + 1) h.version
    · exact congrArg (· + 1) h.attempts
    · exact h.maxAttempts
    · exact fun hpending => absurd hpending (by simp [OutboxJob.leasedRow])
    · rfl
    · rfl
    · intro token htoken
      rw [← Option.some.inj htoken]
      exact isCleanText_leaseToken (by decide) (Hashlib.isDigest_sha256Hexdigest _)
    · rfl
    · exact fun _ => hmode

omit [Hashlib] in
/-- A row whose lease is released represents a job whose lease is, if the new states agree. -/
theorem Represents.released (h : Represents row job) {stamped nextAttemptAt : Timestamp}
    {status : OutboxStatus} {mode jobMode : RetryMode} {state : OutboxState}
    {availableAt lastErrorAt completedAt deadLetteredAt : Option Timestamp}
    {lastErrorCode rowReference rowReason lastError reference reason : Option String}
    (hfields : updated.toJobFields = { job.released now with
      state, availableAt, retryMode := jobMode, lastError
      completionReference := reference
      deadLetterReason := reason })
    (hstate : status.jobState = some state)
    (havailable : state = .pending → availableAt = some nextAttemptAt)
    (hmode : state ≠ .deadLetter → jobMode = mode) :
    Represents { row.released now with
      status, nextAttemptAt, lastErrorCode, lastErrorAt, completedAt, deadLetteredAt
      retryMode := mode
      completionReference := rowReference
      deadLetterReason := rowReason
      updatedAt := stamped } updated := by
  constructor <;> rw [hfields]
  · exact h.jobId
  · exact hstate
  · exact congrArg (· + 1) h.version
  · exact h.attempts
  · exact h.maxAttempts
  · exact havailable
  · rfl
  · rfl
  · exact fun token htoken => absurd htoken (by simp [OutboxJob.released])
  · rfl
  · exact hmode

/-- The worker of the command has the row and its job. -/
structure Holds (row : OutboxRow) (job : OutboxJob) (leaseToken : String)
    (command : ClaimedOutboxCommand) (now : Timestamp) : Prop where
  rowHeld : row.heldBy command.jobId command.merchantId command.deliveryVersion
    command.workerId command.leaseToken now = true
  version : command.deliveryVersion = job.version
  jobHeld : job.HeldBy command.workerId leaseToken now
  last : command.attemptCount ≥ command.maxAttempts ↔ job.maxAttempts ≤ job.attempts
  attempts : command.attemptCount = job.attempts

omit [Hashlib] in
theorem Represents.holds (h : Represents row job) (hforward : job.updatedAt ≤ now)
    (hof : command.toClaimFields.Of row)
    (htoken : job.leaseToken = some leaseToken ↔ row.leaseToken = some command.leaseToken)
    (hheld : row.heldBy command.jobId command.merchantId command.deliveryVersion command.workerId
      command.leaseToken now = true) : Holds row job leaseToken command now := by
  obtain ⟨hversion, hlease⟩ := (h.heldBy_iff hof htoken).mp hheld
  have hattempts : command.attemptCount = job.attempts := by
    rw [hof.attemptCount (hversion.trans h.version), h.attempts]
  refine ⟨hheld, hversion, ⟨hforward, hlease⟩, ?_, hattempts⟩
  rw [hattempts, hof.maxAttempts, h.maxAttempts]

theorem writes_complete {completionReference : String} (h : Represents row job)
    (hholds : Holds row job leaseToken command now)
    (htext : isCleanText 500 completionReference = true) :
    Writes row job leaseToken now (.complete command completionReference) := by
  have hwritten := written_complete hholds.rowHeld htext
  have hdraft := Drafts.complete (isCleanText_mono (by decide : 500 ≤ 512) htext) hholds.jobHeld
  rw [← hholds.version] at hdraft
  exact .both _ _ hwritten hdraft (fun hlong => hlong)
    (fun updated hfields stamped => h.released hfields rfl
      (fun hpending => absurd hpending (by simp))
      fun _ => h.retryMode (by rw [hholds.jobHeld.leased]; simp))
    rfl (fun hdead => absurd hdead (by simp))
    (fun hnone => absurd hnone (by simp [OutboxCall.command]))

theorem writes_deadLetter {reason : String} (h : Represents row job)
    (hholds : Holds row job leaseToken command now) (htext : isCleanText 500 reason = true) :
    Writes row job leaseToken now (.deadLetter command reason) := by
  have hwritten := written_deadLetter hholds.rowHeld htext
  have hdraft := Drafts.deadLetter (isCleanText_mono (by decide : 500 ≤ 512) htext) hholds.jobHeld
  rw [← hholds.version] at hdraft
  exact .both _ _ hwritten hdraft (fun hlong => hlong)
    (fun updated hfields stamped => h.released hfields rfl
      (fun hpending => absurd hpending (by simp))
      fun hopen => absurd rfl hopen)
    rfl (fun _ => rfl) (fun hnone => absurd hnone (by simp [OutboxCall.command]))

/-- A retry is put off, ends the last attempt, or ends it with what the cut leaves. -/
theorem writes_retry {backoff : BackoffPolicy} {reason : String} {retryMode : RetryMode}
    (h : Represents row job) (hholds : Holds row job leaseToken command now)
    (haccepted : (OutboxCall.retry backoff command reason retryMode).Accepted now) :
    Writes row job leaseToken now (.retry backoff command reason retryMode) := by
  obtain ⟨htext, hroom⟩ := haccepted
  have hclean : isCleanText 512 reason = true := isCleanText_mono (by decide : 500 ≤ 512) htext
  by_cases hlast : command.attemptCount ≥ command.maxAttempts
  · rw [if_pos hlast] at hroom
    have hwritten := (written_retry_last backoff retryMode htext hlast).trans
      (written_deadLetter hholds.rowHeld hroom)
    have hleft := hholds.last.mp hlast
    by_cases hlong : 489 < reason.toList.length
    · -- the reason is cut: the row is written as `dead_letter` writes it
      have hdraft := Drafts.deadLetter (isCleanText_mono (by decide : 500 ≤ 512) hroom)
        hholds.jobHeld
      rw [← hholds.version] at hdraft
      have hcall : (OutboxCall.retry backoff command reason retryMode).toJob job.version leaseToken
          now = .deadLetter command.workerId leaseToken now command.deliveryVersion
            (OutboxRow.prefixedReason "max_attempts_exhausted" reason) := if_pos ⟨hlast, hlong⟩
      rw [← hcall] at hdraft
      exact .both _ _ hwritten hdraft (by rw [hcall]; exact fun hlong => hlong)
        (fun updated hfields stamped => h.released hfields rfl
          (fun hpending => absurd hpending (by simp)) fun hopen => absurd rfl hopen)
        rfl (fun _ => rfl) (fun hnone => absurd hnone (by simp [OutboxCall.command]))
    · have hdraft : Drafts job (.requeue command.workerId leaseToken now job.version reason backoff
          retryMode) (some _) := .giveUp hclean hholds.jobHeld hleft
      rw [← hholds.version] at hdraft
      have hcall : (OutboxCall.retry backoff command reason retryMode).toJob job.version leaseToken
          now = .requeue command.workerId leaseToken now command.deliveryVersion reason backoff
            retryMode := if_neg fun hboth => hlong hboth.2
      rw [← hcall] at hdraft
      exact .both _ _ hwritten hdraft (by rw [hcall]; exact fun hover => hlong hover.2.2.2.2)
        (fun updated hfields stamped => h.released hfields rfl
          (fun hpending => absurd hpending (by simp)) fun hopen => absurd rfl hopen)
        rfl (fun _ => rfl) (fun hnone => absurd hnone (by simp [OutboxCall.command]))
  · rw [if_neg hlast] at hroom
    obtain ⟨nextAttemptAt, hshift⟩ := hroom
    have hleft : job.attempts < job.maxAttempts := Nat.lt_of_not_le fun hnone =>
      hlast (hholds.last.mpr hnone)
    have hwritten := written_retry hholds.rowHeld backoff retryMode htext hlast hshift
    rw [hholds.attempts] at hshift
    have hdraft : Drafts job (.requeue command.workerId leaseToken now job.version reason backoff
        retryMode) (some _) := .requeue hclean hholds.jobHeld hleft hshift
    rw [← hholds.version] at hdraft
    have hcall : (OutboxCall.retry backoff command reason retryMode).toJob job.version leaseToken
        now = .requeue command.workerId leaseToken now command.deliveryVersion reason backoff
          retryMode := if_neg fun hboth => hlast hboth.1
    rw [← hcall] at hdraft
    exact .both _ _ hwritten hdraft
      (by rw [hcall]; exact fun hover => absurd hover.2.2.1 (Nat.not_le.mpr hleft))
      (fun updated hfields stamped => h.released hfields rfl (fun _ => rfl) fun _ => rfl)
      rfl (fun hdead => absurd hdead (by simp))
      (fun hnone => absurd hnone (by simp [OutboxCall.command]))

/-- **A call that passes writes to the row what the operation drafts for the job.** -/
theorem writes_of_passes (h : Represents row job) (hforward : job.updatedAt ≤ now)
    (hof : ∀ command, call.command = some command → command.toClaimFields.Of row)
    (htoken : ∀ command, call.command = some command →
      (job.leaseToken = some leaseToken ↔ row.leaseToken = some command.leaseToken))
    (haccepted : call.Accepted now) (hpasses : call.passes row now = true) :
    Writes row job leaseToken now call := by
  cases call with
  | claim terms => exact writes_claim h hforward haccepted hpasses
  | complete command completionReference =>
    exact writes_complete h (h.holds hforward (hof _ rfl) (htoken _ rfl) hpasses) haccepted
  | retry backoff command reason retryMode =>
    exact writes_retry h (h.holds hforward (hof _ rfl) (htoken _ rfl) hpasses) haccepted
  | deadLetter command reason =>
    exact writes_deadLetter h (h.holds hforward (hof _ rfl) (htoken _ rfl) hpasses) haccepted

/-! ## What is refused -/

omit [Hashlib] in
/-- The fence of the operation: a job that is ready, or held under its version. -/
def JobCommand.Fenced (job : OutboxJob) : JobCommand → Prop
  | .claim _ now _ _ => job.updatedAt ≤ now ∧ job.Ready now
  | .complete workerId leaseToken now version _ | .requeue workerId leaseToken now version _ _ _
  | .deadLetter workerId leaseToken now version _ =>
    version = job.version ∧ job.HeldBy workerId leaseToken now

/-- An operation that returns is let through by its fence, or repeats how the job ended. -/
theorem fenced_or_repeats {operation : JobCommand} (h : operation.apply job = .ok updated) :
    operation.Fenced job ∨ Drafts job operation none := by
  obtain ⟨draft, hdraft, -⟩ := apply_ok_iff.mp h
  cases hdraft with
  | lease _ hforward _ hready => exact .inl ⟨hforward, hready⟩
  | exhaust _ hforward _ hready => exact .inl ⟨hforward, hready⟩
  | complete _ hheld => exact .inl ⟨rfl, hheld⟩
  | completed htext hend hsame => exact .inr (.completed htext hend hsame)
  | requeue _ hheld => exact .inl ⟨rfl, hheld⟩
  | giveUp _ hheld => exact .inl ⟨rfl, hheld⟩
  | deadLetter _ hheld => exact .inl ⟨rfl, hheld⟩
  | dead htext hend hsame => exact .inr (.dead htext hend hsame)

omit [Hashlib] in
/-- The fence of a retry is that of a settlement, whichever operation it is. -/
theorem fenced_retry_iff {backoff : BackoffPolicy} {reason : String} {retryMode : RetryMode} :
    ((OutboxCall.retry backoff command reason retryMode).toJob job.version leaseToken
        now).Fenced job ↔
      command.deliveryVersion = job.version ∧ job.HeldBy command.workerId leaseToken now := by
  by_cases hcut : command.attemptCount ≥ command.maxAttempts ∧ 489 < reason.toList.length
  · rw [OutboxCall.toJob, if_pos hcut]
    rfl
  · rw [OutboxCall.toJob, if_neg hcut]
    rfl

omit [Hashlib] in
/-- Where the fence lets the operation of a job through, the predicate lets the row through,
and the clock is not behind. -/
theorem passes_of_fenced (h : Represents row job)
    (hof : ∀ command, call.command = some command → command.toClaimFields.Of row)
    (htoken : ∀ command, call.command = some command →
      (job.leaseToken = some leaseToken ↔ row.leaseToken = some command.leaseToken))
    (hfenced : (call.toJob job.version leaseToken now).Fenced job) :
    call.passes row now = true ∧ job.updatedAt ≤ now := by
  have hheld : ∀ {command : ClaimedOutboxCommand}, call.command = some command →
      command.deliveryVersion = job.version ∧ job.HeldBy command.workerId leaseToken now →
      row.heldBy command.jobId command.merchantId command.deliveryVersion command.workerId
        command.leaseToken now = true ∧ job.updatedAt ≤ now := by
    intro command hcommand hholds
    exact ⟨(h.heldBy_iff (hof _ hcommand) (htoken _ hcommand)).mpr ⟨hholds.1, hholds.2.lease⟩,
      hholds.2.forward⟩
  cases call with
  | claim terms => exact ⟨h.claimable_iff.mpr hfenced.2, hfenced.1⟩
  | complete command completionReference => exact hheld rfl hfenced
  | retry backoff command reason retryMode => exact hheld rfl (fenced_retry_iff.mp hfenced)
  | deadLetter command reason => exact hheld rfl hfenced

/-- An operation raises where the row does not pass or the clock is behind, unless it repeats
how the job ended. -/
theorem raises_of_fails (h : Represents row job)
    (hof : ∀ command, call.command = some command → command.toClaimFields.Of row)
    (htoken : ∀ command, call.command = some command →
      (job.leaseToken = some leaseToken ↔ row.leaseToken = some command.leaseToken))
    (hfails : call.passes row now = false ∨ now < job.updatedAt)
    (hfirst : call.command = none ∨ ¬job.Terminal) :
    ∀ updated, (call.toJob job.version leaseToken now).apply job ≠ .ok updated := by
  intro updated happly
  rcases fenced_or_repeats happly with hfenced | hrepeats
  · obtain ⟨hpasses, hclock⟩ := passes_of_fenced h hof htoken hfenced
    rcases hfails with hfails | hbehind
    · rw [hpasses] at hfails
      exact absurd hfails (by decide)
    · exact absurd hclock (not_le.mpr hbehind)
  · rcases hfirst with hclaim | hopen
    · cases call with
      | claim terms => cases hrepeats
      | complete => exact absurd hclaim (by simp [OutboxCall.command])
      | retry => exact absurd hclaim (by simp [OutboxCall.command])
      | deadLetter => exact absurd hclaim (by simp [OutboxCall.command])
    · exact hopen (terminal_of_drafts_none hrepeats)

/-! ## The refinement -/

/-- The call stores a row, and the operation returns the job that the row represents. -/
inductive Agree (row : OutboxRow) (job : OutboxJob) (call : OutboxCall) (leaseToken : String)
    (now stamped : Timestamp) : Prop
  | both (next : OutboxRow) (issued : List ClaimedOutboxCommand) (updated : OutboxJob)
      (run : call.run row now stamped = .ok (next, issued))
      (apply : (call.toJob job.version leaseToken now).apply job = .ok updated)
      (represents : Represents next updated)
      (updatedAt : updated.updatedAt = now ∧ next.updatedAt = stamped)
      (deadLetter : next.status = .deadLetter → next.retryMode = .reconcileOnly)
      (claimed : call.command = none → updated.retryMode = next.retryMode)

theorem agree_of_writes {stamped : Timestamp} (htoken : row.TokenOfVersion)
    (h : Writes row job leaseToken now call) (hclock : row.updatedAt ≤ now) :
    Agree row job call leaseToken now stamped := by
  obtain ⟨new, fields, hwritten, hdraft, hshort, hrepresents, htime, hdead, hclaimed⟩ := h
  obtain ⟨updated, happly⟩ := (exists_apply_iff hdraft).mpr hshort
  have hfields := fields_of_apply hdraft happly
  obtain ⟨hadmissible, hnow⟩ := admissible_of_written htoken hwritten
  have hallowed : row.enforceLifecycle new = .ok () := by
    rw [OutboxRow.enforce_of_admissible hadmissible, hnow]
    exact if_neg (not_lt.mpr hclock)
  refine .both _ _ updated (run_of_written hwritten hallowed) happly
    (hrepresents updated hfields stamped) ⟨?_, rfl⟩ hdead ?_
  · rw [hfields]
    exact htime
  · intro hnone
    rw [hfields]
    exact hclaimed hnone

/-- A call that passes, with the clock not behind, does to the row what it does to the job. -/
theorem agree_of_passes {past : List ClaimedOutboxCommand} {stamped : Timestamp}
    (hkept : RunKept row past) (hrepresents : Represents row job)
    (hforward : job.updatedAt ≤ row.updatedAt)
    (hknown : ∀ command, call.command = some command → command ∈ past)
    (htoken : ∀ command, call.command = some command →
      (job.leaseToken = some leaseToken ↔ row.leaseToken = some command.leaseToken))
    (haccepted : call.Accepted now) (hpasses : call.passes row now = true)
    (hclock : row.updatedAt ≤ now) : Agree row job call leaseToken now stamped := by
  have hof : ∀ command, call.command = some command → command.toClaimFields.Of row :=
    fun command hcommand => hkept.issued command (hknown command hcommand)
  have hwrites := writes_of_passes hrepresents (hforward.trans hclock) hof htoken haccepted hpasses
  exact agree_of_writes hkept.token hwrites hclock

/-- **The rows refine the jobs.** A call with a command of the run, whose arguments are
accepted, has three cases. Where it passes and the clock is not behind the last write, the row
that is stored represents the job that the operation returns, and dead letters are for
reconciliation. Where it passes and the clock is behind, the trigger raises, as the operation
does. Where it does not pass, a claim passes over the row and a settlement has lost its fence;
the operation raises too, unless it repeats how the job ended. -/
theorem outbox_refines {clock : Timestamp → Timestamp → Prop} {inserted : OutboxRow}
    {past : List ClaimedOutboxCommand} (hinserted : inserted.Inserted)
    (hrun : Delivered clock inserted row past) (hrepresents : Represents row job)
    (hforward : job.updatedAt ≤ row.updatedAt)
    (hknown : ∀ command, call.command = some command → command ∈ past)
    (htoken : ∀ command, call.command = some command →
      (job.leaseToken = some leaseToken ↔ row.leaseToken = some command.leaseToken))
    (haccepted : call.Accepted now) (stamped : Timestamp) :
    (call.passes row now = true → row.updatedAt ≤ now →
      Agree row job call leaseToken now stamped) ∧
    (call.passes row now = true → now < row.updatedAt →
      call.run row now stamped = .error (.database OutboxRow.clockBackwards) ∧
        (job.updatedAt = row.updatedAt → call.command = none ∨ ¬job.Terminal →
          ∀ updated, (call.toJob job.version leaseToken now).apply job ≠ .ok updated)) ∧
    (call.passes row now = false →
      call.run row now stamped = (if call.command = none then .ok (row, [])
        else .error (.raised (.outboxFenceLost s!"{call.operation} lost its fenced lease"))) ∧
        (call.command = none ∨ ¬job.Terminal →
          ∀ updated, (call.toJob job.version leaseToken now).apply job ≠ .ok updated)) := by
  have hkept := runKept_of_delivered hinserted hrun
  have hof : ∀ command, call.command = some command → command.toClaimFields.Of row :=
    fun command hcommand => hkept.issued command (hknown command hcommand)
  refine ⟨?_, ?_, ?_⟩
  · intro hpasses hclock
    exact agree_of_passes hkept hrepresents hforward hknown htoken haccepted hpasses hclock
  · intro hpasses hclock
    refine ⟨run_behind hkept.token haccepted hpasses hclock, ?_⟩
    intro hsame hfirst
    rw [← hsame] at hclock
    exact raises_of_fails hrepresents hof htoken (.inr hclock) hfirst
  · intro hfails
    refine ⟨?_, raises_of_fails hrepresents hof htoken (.inl hfails)⟩
    have hwritten := written_of_fails haccepted hfails
    by_cases hclaim : call.command = none
    · rw [if_pos hclaim] at hwritten ⊢
      simp only [OutboxCall.run, hwritten]
    · rw [if_neg hclaim] at hwritten ⊢
      simp only [OutboxCall.run, hwritten]

/-! ## Rows of a run -/

omit [Hashlib] in
/-- Where a row passes, the token of the job can be given in the place of that of the row. -/
theorem Represents.exists_token (h : Represents row job) (hpasses : call.passes row now = true) :
    ∃ leaseToken, ∀ command, call.command = some command →
      (job.leaseToken = some leaseToken ↔ row.leaseToken = some command.leaseToken) := by
  have hsettled : ∀ {command : ClaimedOutboxCommand},
      row.heldBy command.jobId command.merchantId command.deliveryVersion command.workerId
        command.leaseToken now = true →
      ∃ leaseToken, ∀ other, some command = some other →
        (job.leaseToken = some leaseToken ↔ row.leaseToken = some other.leaseToken) := by
    intro command hheld
    simp only [OutboxRow.heldBy, Bool.and_eq_true, decide_eq_true_eq] at hheld
    have htoken : row.leaseToken = some command.leaseToken := hheld.1.2
    have hsome : job.leaseToken.isSome = true := by
      rw [h.leaseToken, htoken]
      rfl
    obtain ⟨leaseToken, hown⟩ := Option.isSome_iff_exists.mp hsome
    refine ⟨leaseToken, fun other hother => ?_⟩
    rw [← Option.some.inj hother]
    exact iff_of_true hown htoken
  cases call with
  | claim terms => exact ⟨"", fun command hnone => absurd hnone (by simp [OutboxCall.command])⟩
  | complete command completionReference => exact hsettled hpasses
  | retry backoff command reason retryMode => exact hsettled hpasses
  | deadLetter command reason => exact hsettled hpasses

omit [Hashlib] in
theorem isCleanText_of_isUlid {value : String} (h : isUlid value = true) :
    isCleanText 128 value = true := by
  simp only [isUlid, Bool.and_eq_true, decide_eq_true_eq, List.all_eq_true] at h
  obtain ⟨hlength, hall⟩ := h
  refine isCleanText_of_graphic (List.ne_nil_of_length_pos (by omega)) (by omega) ?_
  intro c hc
  refine isIdChar_toNat ?_
  have hchar := hall c hc
  simp only [Bool.or_eq_true, Bool.and_eq_true] at hchar
  rcases hchar with hdigit | ⟨⟨⟨⟨hupper, -⟩, -⟩, -⟩, -⟩
  · simp [isIdChar, Char.isAlphanum, hdigit]
  · simp [isIdChar, Char.isAlphanum, isAlpha_eq, hupper]

omit [Hashlib] in
/-- A row as it is put in represents a job that has just been created. -/
theorem exists_created (h : row.Inserted) :
    ∃ job, Represents row job ∧ job.updatedAt ≤ row.updatedAt := by
  obtain ⟨hulid, hinsert, hpositive, hforward, howner, htoken, hexpires⟩ := h
  simp only [OutboxRow.enforceInsert, raiseIf_ok_iff, not_or, not_not] at hinsert
  obtain ⟨hstatus, hattempts, hversion, hmode⟩ := hinsert
  have hkey : isCleanText 128 "action" = true := by decide
  have hdigest : isDigest LastAttempt.digest = true := by decide
  have hvalid : ({
      jobId := row.id
      actionKey := "action"
      payloadDigest := LastAttempt.digest
      state := .pending
      version := 0
      attempts := 0
      maxAttempts := row.maxAttempts
      createdAt := row.createdAt
      updatedAt := row.createdAt
      availableAt := some row.nextAttemptAt } : JobFields).postInit = .ok () := by
    refine JobFields.postInit_ok_iff.mpr ⟨isCleanText_of_isUlid hulid, hkey, hdigest, hpositive,
      Nat.zero_le _, le_rfl, rfl, rfl, rfl, rfl, rfl, ?_⟩
    exact (JobFields.checkState_pending_iff rfl).mpr ⟨⟨by simp, rfl⟩, hpositive, rfl, rfl⟩
  refine ⟨⟨_, hvalid⟩, ?_, hforward⟩
  constructor
  · rfl
  · rw [hstatus]
    rfl
  · exact hversion.symm
  · exact hattempts.symm
  · rfl
  · exact fun _ => rfl
  · exact howner.symm
  · exact (congrArg Option.isSome htoken).symm
  · exact fun token hnone => absurd hnone (by simp)
  · exact hexpires.symm
  · exact fun _ => hmode.symm

/-- **Every row that calls lead to represents a job**, where the clock does not go back within
a statement: the job that the operations lead to. -/
theorem represented_of_delivered {inserted : OutboxRow} {past : List ClaimedOutboxCommand}
    (hinserted : inserted.Inserted) (hrun : Delivered (· ≤ ·) inserted row past) :
    ∃ job, Represents row job ∧ job.updatedAt ≤ row.updatedAt := by
  induction hrun with
  | inserted => exact exists_created hinserted
  | @called row next past issued call now stamped before known read run ih =>
    obtain ⟨job, hrepresents, hforward⟩ := ih
    rcases run_ok run with ⟨rfl, -⟩ | ⟨new, hwritten, hallowed, -, -⟩
    · exact ⟨job, hrepresents, hforward⟩
    · obtain ⟨haccepted, hpasses⟩ := accepted_of_written hwritten
      have hkept := runKept_of_delivered hinserted before
      obtain ⟨hadmissible, hnow⟩ := admissible_of_written hkept.token hwritten
      have hclock : row.updatedAt ≤ now := by
        rw [OutboxRow.enforce_of_admissible hadmissible, hnow] at hallowed
        by_contra hbehind
        rw [if_pos (not_le.mp hbehind)] at hallowed
        exact absurd hallowed (by simp)
      obtain ⟨leaseToken, htoken⟩ := hrepresents.exists_token hpasses
      have hagree : Agree row job call leaseToken now stamped :=
        agree_of_passes hkept hrepresents hforward known htoken haccepted hpasses hclock
      obtain ⟨stored, returned, updated, hstored, -, hnext, ⟨htime, hstamp⟩, -, -⟩ := hagree
      obtain ⟨rfl, -⟩ := Prod.mk.inj (Except.ok.inj (run.symm.trans hstored))
      refine ⟨updated, hnext, ?_⟩
      rw [htime, hstamp]
      exact read

end

/-! ## One row, one attempt -/

namespace LastAttempt

/-- A row that may be tried once. -/
def insertedRow : OutboxRow where
  id := "01K0000000000000000000000A"
  merchantId := "01K0000000000000000000000B"
  aggregateType := "recovery_case"
  aggregateId := "01K0000000000000000000000C"
  commandType := "recovery.assess"
  commandSchemaVersion := 1
  idempotencyKey := "assess:1"
  status := .pending
  attemptCount := 0
  maxAttempts := 1
  nextAttemptAt := start
  leaseOwner := none
  leaseToken := none
  leaseExpiresAt := none
  deliveryVersion := 0
  retryMode := .normal
  lastErrorCode := none
  lastErrorAt := none
  completionReference := none
  completedAt := none
  deadLetterReason := none
  deadLetteredAt := none
  createdAt := start
  updatedAt := start

theorem inserted : insertedRow.Inserted where
  isUlid_id := by decide
  enforceInsert := raiseIf_of_not _ (by decide)
  positive := by decide
  forward := le_rfl
  noLease := ⟨rfl, rfl, rfl⟩

def terms : ClaimTerms := { workerId := "worker_1", leaseNonce := "nonce_1" }

theorem terms_ok : terms.check = .ok () := by
  have hworker : isCleanText 128 "worker_1" = true := by decide
  have hnonce : isCleanText 96 "nonce_1" = true := by decide
  exact ClaimTerms.check_ok_iff.mpr ⟨hworker, by decide, by decide, hnonce⟩

theorem inserted_delivered : Delivered (· ≤ ·) insertedRow insertedRow [] := .inserted

theorem claim_accepted : (OutboxCall.claim terms).Accepted start := ⟨terms_ok, expiry, expires_ok⟩

/-- A claim has no token to give. -/
theorem claim_token (job : OutboxJob) : ∀ command, (OutboxCall.claim terms).command = some command →
    (job.leaseToken = some "" ↔ insertedRow.leaseToken = some command.leaseToken) :=
  fun command hsome => absurd hsome (by simp [OutboxCall.command])

theorem claim_known : ∀ command, (OutboxCall.claim terms).command = some command →
    command ∈ ([] : List ClaimedOutboxCommand) :=
  fun command hsome => absurd hsome (by simp [OutboxCall.command])

/-- The claim of the row is the claim of its job. -/
theorem claim_refines :
    ∃ job, Represents insertedRow job ∧ Agree insertedRow job (.claim terms) "" start start := by
  obtain ⟨job, hrepresents, hforward⟩ := exists_created inserted
  have hrefines := outbox_refines inserted inserted_delivered hrepresents hforward claim_known
    (claim_token job) claim_accepted start
  exact ⟨job, hrepresents, hrefines.1 (by decide) le_rfl⟩

/-- The row under its one lease. -/
def leasedRow : OutboxRow := insertedRow.claimed terms start expiry

def claimFields : ClaimFields :=
  leasedRow.claimFields "worker_1" "nonce_1:01K0000000000000000000000A:1" expiry

theorem claimFields_valid : claimFields.postInit = .ok () := by decide +kernel

/-- What the claim returns. -/
def claimed : ClaimedOutboxCommand := ⟨claimFields, claimFields_valid⟩

theorem claimedCommand_leasedRow : leasedRow.claimedCommand = .ok claimed :=
  construct_ok_iff.mpr ⟨claimFields_valid, rfl⟩

theorem run_claim :
    (OutboxCall.claim terms).run insertedRow start start = .ok (leasedRow, [claimed]) := by
  have hdue : insertedRow.claimable start = true := by decide
  have hwritten := written_claim terms_ok expires_ok hdue
  have htoken := (runKept_of_delivered inserted inserted_delivered).token
  obtain ⟨hadmissible, hnow⟩ := admissible_of_written htoken hwritten
  have hallowed := OutboxRow.enforce_of_admissible hadmissible
  rw [hnow, if_neg (show ¬start < insertedRow.updatedAt from lt_irrefl start)] at hallowed
  have hissued : (OutboxCall.claim terms).issued leasedRow = [claimed] := by
    rw [OutboxCall.issued, claimedCommand_leasedRow]
    rfl
  rw [← hissued]
  exact run_of_written hwritten hallowed

theorem leased_delivered : Delivered (· ≤ ·) insertedRow leasedRow [claimed] :=
  .called inserted_delivered claim_known (le_refl start) run_claim

/-- The leased row represents a job. -/
theorem represented_leased :
    ∃ job, Represents leasedRow job ∧ job.updatedAt ≤ leasedRow.updatedAt :=
  represented_of_delivered inserted leased_delivered

/-- The job of the leased row. -/
theorem exists_leased_job : ∃ job leaseToken, Represents leasedRow job ∧
    job.updatedAt = leasedRow.updatedAt ∧ job.leaseToken = some leaseToken ∧
      job.HeldBy "worker_1" leaseToken start := by
  obtain ⟨before, hbefore, hforward⟩ := exists_created inserted
  have hagree : Agree insertedRow before (.claim terms) "" start start :=
    agree_of_passes (runKept_of_delivered inserted inserted_delivered) hbefore hforward claim_known
      (claim_token before) claim_accepted (by decide) le_rfl
  obtain ⟨next, issued, job, hrun, -, hrepresents, ⟨htime, -⟩, -, -⟩ := hagree
  obtain ⟨rfl, -⟩ := Prod.mk.inj (Except.ok.inj (run_claim.symm.trans hrun))
  have hsome : job.leaseToken.isSome = true := by
    rw [hrepresents.leaseToken]
    rfl
  obtain ⟨leaseToken, htoken⟩ := Option.isSome_iff_exists.mp hsome
  have hof := of_claimedCommand claimedCommand_leasedRow
  have hboth : job.leaseToken = some leaseToken ↔ leasedRow.leaseToken = some claimed.leaseToken :=
    iff_of_true htoken rfl
  have hheld : leasedRow.heldBy claimed.jobId claimed.merchantId claimed.deliveryVersion
      claimed.workerId claimed.leaseToken start = true := by decide
  have hholds := hrepresents.holds (htime.le) hof hboth hheld
  exact ⟨job, leaseToken, hrepresents, htime, htoken, hholds.jobHeld⟩

theorem long_ok :
    isCleanText 500 (repeated 490) = true ∧
      isCleanText 500 (OutboxRow.prefixedReason "max_attempts_exhausted" (repeated 490)) =
        true := by
  refine ⟨isCleanText_repeated (by decide) (by decide), ?_⟩
  have hcut : OutboxRow.prefixedReason "max_attempts_exhausted" (repeated 490) =
      "max_attempts_exhausted:" ++ repeated 477 := by
    have htaken : (repeated 490).toList.take 477 = List.replicate 477 'x' := by
      rw [repeated, String.toList_ofList, List.take_replicate]
      rfl
    show "max_attempts_exhausted:" ++ String.ofList ((repeated 490).toList.take 477) = _
    rw [htaken]
    rfl
  rw [hcut]
  exact isCleanText_append (by decide) (by decide)
    (isCleanText_repeated (by decide) (le_refl 477)) (by decide)

/-- A second before the row was leased. -/
def behind : Timestamp := ⟨63902735999000000, by decide, by decide⟩

theorem leasedRow_held : leasedRow.heldBy claimed.jobId claimed.merchantId claimed.deliveryVersion
    claimed.workerId claimed.leaseToken start = true := by decide

/-- The row is a dead letter for any reason that is accepted. -/
theorem run_deadLetter {reason : String} (htext : isCleanText 500 reason = true) :
    ∃ next, (OutboxCall.deadLetter claimed reason).run leasedRow start start = .ok (next, []) ∧
      next.retryMode = .reconcileOnly := by
  have hkept := runKept_of_delivered inserted leased_delivered
  have hwritten := written_deadLetter leasedRow_held htext
  obtain ⟨hadmissible, hnow⟩ := admissible_of_written hkept.token hwritten
  have hallowed := OutboxRow.enforce_of_admissible hadmissible
  rw [hnow, if_neg (show ¬start < leasedRow.updatedAt from lt_irrefl start)] at hallowed
  exact ⟨_, run_of_written hwritten hallowed, rfl⟩

/-- So it is by the retry of its one attempt. -/
theorem run_retry {reason : String} {retryMode : RetryMode} (htext : isCleanText 500 reason = true)
    (hcut : isCleanText 500 (OutboxRow.prefixedReason "max_attempts_exhausted" reason) = true) :
    ∃ next, (OutboxCall.retry {} claimed reason retryMode).run leasedRow start start =
      .ok (next, []) ∧ next.retryMode = .reconcileOnly := by
  obtain ⟨next, hrun, hmode⟩ := run_deadLetter hcut
  have hlast : claimed.attemptCount ≥ claimed.maxAttempts := by decide
  have hwritten : (OutboxCall.retry {} claimed reason retryMode).written leasedRow start = _ :=
    written_retry_last {} retryMode htext hlast
  refine ⟨next, ?_, hmode⟩
  rw [← hrun]
  simp only [OutboxCall.run, hwritten]
  rfl

/-- **The rows and the jobs are not one protocol**, even where row and job have one retry mode:
dead letters differ in it, a long reason ends the attempt of the row and not of the job, and a
row that passes is not written while the clock is behind. -/
theorem rows_differ_from_jobs : ∃ job leaseToken, Represents leasedRow job ∧
    job.retryMode = leasedRow.retryMode ∧ job.updatedAt = leasedRow.updatedAt ∧
    job.leaseToken = some leaseToken ∧ leasedRow.leaseToken = some claimed.leaseToken ∧
    (∃ next updated,
      (OutboxCall.deadLetter claimed "operator_review").run leasedRow start start = .ok (next, []) ∧
      job.deadLetter "worker_1" leaseToken start 1 "operator_review" = .ok updated ∧
      next.retryMode = .reconcileOnly ∧ updated.retryMode = .normal) ∧
    (∃ next updated,
      (OutboxCall.retry {} claimed "provider_timeout" .retrySameEffect).run leasedRow start start =
        .ok (next, []) ∧
      job.requeue "worker_1" leaseToken start 1 "provider_timeout" {} .retrySameEffect =
        .ok updated ∧
      next.retryMode = .reconcileOnly ∧ updated.retryMode = .retrySameEffect) ∧
    (∃ next,
      (OutboxCall.retry {} claimed (repeated 490) .reconcileOnly).run leasedRow start start =
        .ok (next, []) ∧
      ∀ updated, job.requeue "worker_1" leaseToken start 1 (repeated 490) {} .reconcileOnly ≠
        .ok updated) ∧
    ((OutboxCall.complete claimed "link_created").passes leasedRow behind = true ∧
      (OutboxCall.complete claimed "link_created").run leasedRow behind behind =
        .error (.database OutboxRow.clockBackwards)) := by
  obtain ⟨job, leaseToken, hrepresents, htime, htoken, hheld⟩ := exists_leased_job
  have hopen : job.state ≠ .deadLetter := by
    rw [hheld.leased]
    decide
  have hmode := hrepresents.retryMode hopen
  have hversion : job.version = 1 := hrepresents.version
  have hlast : job.maxAttempts ≤ job.attempts := by
    rw [hrepresents.maxAttempts, hrepresents.attempts]
    decide
  refine ⟨job, leaseToken, hrepresents, hmode, htime, htoken, rfl, ?_, ?_, ?_, ?_⟩
  · have hclean : isCleanText 500 "operator_review" = true := by decide
    obtain ⟨next, hrun, hreconcile⟩ := run_deadLetter hclean
    have hdraft := Drafts.deadLetter (isCleanText_mono (by decide : 500 ≤ 512) hclean) hheld
    obtain ⟨updated, happly⟩ := (exists_apply_iff hdraft).mpr fun hlong => hlong
    have hfields := fields_of_apply hdraft happly
    rw [hversion] at happly
    refine ⟨next, updated, hrun, happly, hreconcile, ?_⟩
    rw [hfields]
    exact hmode
  · have hclean : isCleanText 500 "provider_timeout" = true := by decide
    have hcut : isCleanText 500 (OutboxRow.prefixedReason "max_attempts_exhausted"
      "provider_timeout") = true := by decide
    obtain ⟨next, hrun, hreconcile⟩ := run_retry hclean hcut
    have hdraft : Drafts job (.requeue "worker_1" leaseToken start job.version "provider_timeout" {}
        .retrySameEffect) (some _) :=
      .giveUp (isCleanText_mono (by decide : 500 ≤ 512) hclean) hheld hlast
    have hshort : ¬489 < "provider_timeout".toList.length := by decide
    obtain ⟨updated, happly⟩ := (exists_apply_iff hdraft).mpr fun hlong => hshort hlong.2.2.2.2
    have hfields := fields_of_apply hdraft happly
    rw [hversion] at happly
    refine ⟨next, updated, hrun, happly, hreconcile, ?_⟩
    rw [hfields]
  · obtain ⟨hclean, hcut⟩ := long_ok
    obtain ⟨next, hrun, -⟩ := run_retry hclean hcut
    have hlong : Overlong job (.requeue "worker_1" leaseToken start 1 (repeated 490) {}
        .reconcileOnly) := by
      refine ⟨hversion.symm, hheld, hlast, isCleanText_mono (by decide : 500 ≤ 512) hclean, ?_⟩
      rw [length_repeated]
      decide
    exact ⟨next, hrun, (raisesByRow_iff.mpr hlong).2⟩
  · have hpasses : (OutboxCall.complete claimed "link_created").passes leasedRow behind = true := by
      decide
    have hclean : isCleanText 500 "link_created" = true := by decide
    have hkept := runKept_of_delivered inserted leased_delivered
    exact ⟨hpasses, run_behind hkept.token hclean hpasses (by decide)⟩

end LastAttempt

end Retrywise.ControlPlane
