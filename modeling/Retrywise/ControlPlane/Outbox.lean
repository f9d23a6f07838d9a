import Retrywise.ControlPlane.Boundary

/-!
# Outbox jobs

`outbox.py`, the part a handler works with: a job under a lease, and the three
ways a delivery of it ends. Every value is built through the constructor's
checks, so a job that is leased always has an owner, a token and an expiry.

The value object computes what a delivery *wants*; what becomes of the row is
decided by the repository.
-/

namespace Retrywise.ControlPlane

open Retrywise.Foundation Retrywise.Domain

inductive OutboxState where
  | pending | leased | completed | deadLetter
deriving DecidableEq, Repr

/-- The direction of the next delivery. `reconcileOnly` forbids another effect;
only a completed lookup that found nothing, or a definite failure, gives
`retrySameEffect`. -/
inductive RetryMode where
  | normal | reconcileOnly | retrySameEffect
deriving DecidableEq, Repr

/-! ## Backoff -/

/-- `delay / 2`: a half microsecond goes to the even side. -/
def halfOf (delay : Timedelta) : Timedelta :=
  if delay % 2 = 0 ∨ delay / 2 % 2 = 0 then delay / 2 else delay / 2 + 1

theorem BackoffPolicy.positive_default : (0 : Timedelta) < seconds 1 := by decide

theorem BackoffPolicy.bounded_default : (seconds 1 : Timedelta) ≤ minutes 5 := by decide

structure BackoffPolicy where
  baseDelay : Timedelta := seconds 1
  maximumDelay : Timedelta := minutes 5
  positive : 0 < baseDelay := by first | exact BackoffPolicy.positive_default | decide
  bounded : baseDelay ≤ maximumDelay := by first | exact BackoffPolicy.bounded_default | decide

namespace BackoffPolicy

variable (policy : BackoffPolicy)

/-- The loop of `delay_after`: double until the maximum is half-way reached. -/
def doubled (delay : Timedelta) : Nat → Timedelta
  | 0 => min delay policy.maximumDelay
  | n + 1 =>
    if halfOf policy.maximumDelay ≤ delay then policy.maximumDelay
    else doubled (delay * 2) n

def delayAfter (attempts : Nat) : Timedelta := policy.doubled policy.baseDelay (attempts - 1)

end BackoffPolicy

/-! ## Jobs -/

structure JobFields where
  jobId : String
  actionKey : String
  payloadDigest : String
  state : OutboxState
  version : Nat
  attempts : Nat
  maxAttempts : Nat
  createdAt : Timestamp
  updatedAt : Timestamp
  availableAt : Option Timestamp
  retryMode : RetryMode := .normal
  leaseOwner : Option String := none
  leaseToken : Option String := none
  leaseExpiresAt : Option Timestamp := none
  lastError : Option String := none
  completionReference : Option String := none
  deadLetterReason : Option String := none
deriving DecidableEq

namespace JobFields

def noLease (j : JobFields) : Bool :=
  j.leaseOwner.isNone && j.leaseToken.isNone && j.leaseExpiresAt.isNone

/-- The fields a state comes with. -/
def checkState (j : JobFields) : Except ControlPlaneError Unit :=
  match j.state with
  | .pending => do
    raiseIf (j.availableAt = none ∨ j.noLease = false)
      (.invalidValue "pending jobs require available_at and no lease")
    raiseIf (j.attempts ≥ j.maxAttempts) (.invalidValue "a max-attempt job cannot remain pending")
    raiseIf (j.completionReference ≠ none ∨ j.deadLetterReason ≠ none)
      (.invalidValue "pending jobs cannot have terminal metadata")
  | .leased => do
    raiseIf (j.availableAt ≠ none ∨ j.leaseOwner = none ∨ j.leaseToken = none ∨
        j.leaseExpiresAt = none)
      (.invalidValue "leased jobs require all lease fields and no available_at")
    raiseIf (j.attempts < 1) (.invalidValue "leased jobs require at least one attempt")
    raiseIf (j.leaseExpiresAt.any fun expiry => expiry ≤ j.updatedAt)
      (.invalidValue "lease_expires_at must be after updated_at")
    raiseIf (j.completionReference ≠ none ∨ j.deadLetterReason ≠ none)
      (.invalidValue "leased jobs cannot have terminal metadata")
  | .completed => do
    raiseIf (j.availableAt ≠ none ∨ j.noLease = false)
      (.invalidValue "completed jobs cannot remain schedulable or leased")
    raiseIf (j.completionReference = none ∨ j.deadLetterReason ≠ none)
      (.invalidValue "completed jobs require only a completion reference")
  | .deadLetter => do
    raiseIf (j.availableAt ≠ none ∨ j.noLease = false)
      (.invalidValue "dead-letter jobs cannot remain schedulable or leased")
    raiseIf (j.deadLetterReason = none ∨ j.completionReference ≠ none)
      (.invalidValue "dead-letter jobs require only a dead-letter reason")

/-- An optional text that is clean where it is there. -/
def optionalClean (value : Option String) (field : String) : Except ControlPlaneError Unit :=
  match value with
  | none => .ok ()
  | some text => requireText text field

/-- `OutboxJob.__post_init__`. -/
def postInit (j : JobFields) : Except ControlPlaneError Unit := do
  requireText j.jobId "job_id" 128
  requireText j.actionKey "action_key" 128
  raiseIf (¬isDigest j.payloadDigest)
    (.invalidValue "payload_digest must be a lowercase SHA-256 digest")
  raiseIf (j.maxAttempts < 1) (.invalidValue "max_attempts must be an integer >= 1")
  raiseIf (j.attempts > j.maxAttempts) (.invalidValue "attempts cannot exceed max_attempts")
  raiseIf (j.updatedAt < j.createdAt) (.invalidValue "updated_at cannot be before created_at")
  optionalClean j.leaseOwner "lease_owner"
  optionalClean j.leaseToken "lease_token"
  optionalClean j.lastError "last_error"
  optionalClean j.completionReference "completion_reference"
  optionalClean j.deadLetterReason "dead_letter_reason"
  j.checkState

end JobFields

/-- One immutable delivery. -/
structure OutboxJob extends JobFields where
  valid : toJobFields.postInit = .ok ()

/-- Construct a job, or raise what the constructor raises. -/
def JobFields.build (fields : JobFields) : Except ControlPlaneError OutboxJob :=
  match valid : fields.postInit with
  | .error e => .error e
  | .ok () => .ok ⟨fields, valid⟩

@[simp] theorem JobFields.build_ok_iff {fields : JobFields} {job : OutboxJob} :
    fields.build = .ok job ↔ job.toJobFields = fields := by
  unfold JobFields.build
  split
  next e hinvalid =>
    refine ⟨fun h => absurd h (by simp), fun h => ?_⟩
    have hvalid := job.valid
    rw [h, hinvalid] at hvalid
    exact absurd hvalid (by simp)
  next hvalid =>
    constructor
    · intro h
      rw [← Except.ok.inj h]
    · intro h
      obtain ⟨_, _⟩ := job
      obtain rfl := h
      rfl

namespace OutboxJob

variable (job : OutboxJob)

/-! ## The lease -/

def assertActiveLease (workerId leaseToken : String) (now : Timestamp) :
    Except ControlPlaneError Unit := do
  requireText workerId "worker_id" 128
  requireText leaseToken "lease_token" 128
  raiseIf (job.state ≠ .leased) (.outboxLease "job is not leased")
  raiseIf (job.leaseOwner ≠ some workerId ∨ job.leaseToken ≠ some leaseToken)
    (.outboxLease "worker or fencing token does not own this lease")
  raiseIf (job.leaseExpiresAt.all fun expiry => expiry ≤ now)
    (.outboxLease "lease has expired")

/-- `job.lease_token or "missing-lease-token"`. -/
def tokenOrMissing : String :=
  match job.leaseToken with
  | none => "missing-lease-token"
  | some token => if token = "" then "missing-lease-token" else token

/-- `_expect_version` and `_transition_time`. -/
def checkTransition (expectedVersion : Nat) (now : Timestamp) : Except ControlPlaneError Unit := do
  raiseIf (expectedVersion ≠ job.version) (.outboxVersionConflict expectedVersion job.version)
  raiseIf (now < job.updatedAt) (.invalidValue "transition time cannot move backwards")

/-! ## How a delivery ends -/

/-- The fields every end of a delivery changes alike. -/
def released (now : Timestamp) : JobFields :=
  { job.toJobFields with
    version := job.version + 1
    updatedAt := now
    availableAt := none
    leaseOwner := none
    leaseToken := none
    leaseExpiresAt := none }

/-- Complete once; repeating the exact result returns the job as it is. -/
def complete (workerId leaseToken : String) (now : Timestamp) (expectedVersion : Nat)
    (resultReference : String) : Except ControlPlaneError OutboxJob := do
  requireText resultReference "result_reference"
  if job.state = .completed then
    if job.completionReference = some resultReference then .ok job
    else .error (.outboxTransition "completed result conflicts with prior completion")
  else
    job.checkTransition expectedVersion now
    job.assertActiveLease workerId leaseToken now
    JobFields.build { job.released now with
      state := .completed
      lastError := none
      completionReference := some resultReference }

/-- Retry later, or dead-letter the final attempt. -/
def requeue (workerId leaseToken : String) (now : Timestamp) (expectedVersion : Nat)
    (reason : String) (backoff : BackoffPolicy) (retryMode : RetryMode) :
    Except ControlPlaneError OutboxJob := do
  requireText reason "reason"
  job.checkTransition expectedVersion now
  job.assertActiveLease workerId leaseToken now
  if job.attempts ≥ job.maxAttempts then
    JobFields.build { job.released now with
      state := .deadLetter
      retryMode
      lastError := some reason
      deadLetterReason := some s!"max_attempts_exhausted:{reason}" }
  else
    let availableAt ← liftDomain (shift now (backoff.delayAfter job.attempts))
    JobFields.build { job.released now with
      state := .pending
      availableAt := some availableAt
      retryMode
      lastError := some reason }

/-- Fail closed for a fault that no retry mends. -/
def deadLetter (workerId leaseToken : String) (now : Timestamp) (expectedVersion : Nat)
    (reason : String) : Except ControlPlaneError OutboxJob := do
  requireText reason "reason"
  if job.state = .deadLetter then
    if job.deadLetterReason = some reason then .ok job
    else .error (.outboxTransition "dead-letter reason conflicts with terminal state")
  else
    job.checkTransition expectedVersion now
    job.assertActiveLease workerId leaseToken now
    JobFields.build { job.released now with
      state := .deadLetter
      lastError := some reason
      deadLetterReason := some reason }

variable {job}

/-- A requeued job carries the mode it was requeued with. -/
theorem requeue_ok {workerId leaseToken reason : String} {now : Timestamp} {version : Nat}
    {backoff : BackoffPolicy} {mode : RetryMode} {updated : OutboxJob}
    (h : job.requeue workerId leaseToken now version reason backoff mode = .ok updated) :
    updated.retryMode = mode ∧
      (updated.state = .deadLetter ↔ job.maxAttempts ≤ job.attempts) := by
  unfold requeue at h
  obtain ⟨-, -, h⟩ := bind_ok_iff.mp h
  obtain ⟨-, -, h⟩ := bind_ok_iff.mp h
  obtain ⟨-, -, h⟩ := bind_ok_iff.mp h
  by_cases hlast : job.attempts ≥ job.maxAttempts
  · rw [if_pos hlast, JobFields.build_ok_iff] at h
    rw [h]
    exact ⟨rfl, fun _ => hlast, fun _ => rfl⟩
  · rw [if_neg hlast] at h
    obtain ⟨_, -, h⟩ := bind_ok_iff.mp h
    rw [JobFields.build_ok_iff] at h
    rw [h]
    exact ⟨rfl, fun hdead => absurd hdead (by simp), fun hmax => absurd hmax hlast⟩

end OutboxJob

end Retrywise.ControlPlane
