import Retrywise.ControlPlane.JobEnds
import Retrywise.Foundation.Run

/-!
# The leases of a job

`outbox.py`, the rest of a job: how it is created, and how a worker claims it. A claim takes
a job that is due, or one whose lease has run out; in the second case another worker may
have begun an effect, and the job is leased to reconcile it only. A job without attempts
left is a dead letter then.

The four operations are one machine here, and what each of them can do is said once.

> `apply_ok_iff`: a call returns exactly what it drafts, where its checks let it and the
> constructor takes the draft.
-/

namespace Retrywise.ControlPlane

open Retrywise.Foundation Retrywise.Domain

/-- `isoformat()` of a time in UTC: one of a whole second has no fraction. -/
def isoformat (t : Timestamp) : String :=
  let (year, month, day) := t.civilDate
  let (hour, minute, second, micros) := t.clockTime
  zeroFilled 4 year ++ "-" ++ zeroFilled 2 month ++ "-" ++ zeroFilled 2 day ++ "T" ++
    zeroFilled 2 hour ++ ":" ++ zeroFilled 2 minute ++ ":" ++ zeroFilled 2 second ++
    (if micros = 0 then "" else "." ++ zeroFilled 6 micros) ++ "+00:00"

namespace OutboxJob

/-- The arguments of `create`, with its defaults. -/
def create (jobId actionKey payloadDigest : String) (now : Timestamp) (maxAttempts : Nat := 5)
    (availableAt : Option Timestamp := none) : Except ControlPlaneError OutboxJob :=
  JobFields.build {
    jobId, actionKey, payloadDigest, maxAttempts
    state := .pending
    version := 0
    attempts := 0
    createdAt := now
    updatedAt := now
    availableAt := some (availableAt.getD now) }

section

variable [Hashlib] (job : OutboxJob)

/-- What the token of the next lease is the hash of. -/
def tokenMaterial (workerId : String) (expiresAt : Timestamp) : String :=
  s!"{job.jobId}|{job.actionKey}|{job.version + 1}|{job.attempts + 1}|" ++
    s!"{workerId}|{isoformat expiresAt}"

/-- The row of a job that has been leased. -/
def leasedRow (workerId : String) (now expiresAt : Timestamp) : JobFields :=
  { job.toJobFields with
    state := .leased
    version := job.version + 1
    attempts := job.attempts + 1
    updatedAt := now
    availableAt := none
    retryMode := if job.state = .leased then .reconcileOnly else job.retryMode
    leaseOwner := some workerId
    leaseToken := some ("lease_" ++
      Hashlib.sha256Hexdigest (job.tokenMaterial workerId expiresAt).toUTF8)
    leaseExpiresAt := some expiresAt
    deadLetterReason := none }

omit [Hashlib] in
/-- The row of a job whose last lease has run out. -/
def exhaustedRow (now : Timestamp) : JobFields :=
  { job.released now with
    state := .deadLetter
    retryMode := .reconcileOnly
    deadLetterReason := some "max_attempts_exhausted_after_stale_lease" }

omit [Hashlib] in
/-- Whether the state of the job lets it be claimed. -/
def checkClaimable (now : Timestamp) : Except ControlPlaneError Unit :=
  match job.state with
  | .completed => .error (.outboxTransition "cannot claim a completed job")
  | .deadLetter => .error (.outboxTransition "cannot claim a dead_letter job")
  | .pending =>
    raiseIf (job.availableAt.any fun due => now < due)
      (.outboxNotReady "job has not reached available_at")
  | .leased =>
    raiseIf (job.leaseExpiresAt.any fun expiry => now < expiry)
      (.outboxLease "the current lease has not expired")

/-- Acquire a job that is due, or one whose lease has run out. -/
def claim (workerId : String) (now : Timestamp) (leaseDuration : Timedelta)
    (expectedVersion : Nat) : Except ControlPlaneError OutboxJob := do
  raiseIf (expectedVersion ≠ job.version) (.outboxVersionConflict expectedVersion job.version)
  requireText workerId "worker_id" 128
  raiseIf (now < job.updatedAt) (.invalidValue "transition time cannot move backwards")
  raiseIf (leaseDuration ≤ 0) (.invalidValue "lease_duration must be a positive timedelta")
  job.checkClaimable now
  if job.attempts + 1 > job.maxAttempts then JobFields.build (job.exhaustedRow now)
  else
    let expiresAt ← liftDomain (shift now leaseDuration)
    JobFields.build (job.leasedRow workerId now expiresAt)

end

end OutboxJob

/-! ## The four operations -/

/-- A call of one of the operations, with its arguments. -/
inductive JobCommand where
  | claim (workerId : String) (now : Timestamp) (leaseDuration : Timedelta)
    (expectedVersion : Nat)
  | complete (workerId leaseToken : String) (now : Timestamp) (expectedVersion : Nat)
    (resultReference : String)
  | requeue (workerId leaseToken : String) (now : Timestamp) (expectedVersion : Nat)
    (reason : String) (backoff : BackoffPolicy) (retryMode : RetryMode)
  | deadLetter (workerId leaseToken : String) (now : Timestamp) (expectedVersion : Nat)
    (reason : String)

section

variable [Hashlib]

def JobCommand.apply (job : OutboxJob) : JobCommand → Except ControlPlaneError OutboxJob
  | .claim workerId now leaseDuration version => job.claim workerId now leaseDuration version
  | .complete workerId leaseToken now version resultReference =>
    job.complete workerId leaseToken now version resultReference
  | .requeue workerId leaseToken now version reason backoff retryMode =>
    job.requeue workerId leaseToken now version reason backoff retryMode
  | .deadLetter workerId leaseToken now version reason =>
    job.deadLetter workerId leaseToken now version reason

/-- One job, and whatever is called on it. -/
def jobMachine : Machine OutboxJob JobCommand Unit ControlPlaneError :=
  ⟨fun job command => (command.apply job).map fun updated => (updated, ())⟩

end

namespace OutboxJob

/-- The job waits for a claim: it is due, or its lease has run out. -/
def Ready (job : OutboxJob) (now : Timestamp) : Prop :=
  (job.state = .pending ∧ ∀ due, job.availableAt = some due → due ≤ now) ∨
    (job.state = .leased ∧ ∀ expiry, job.leaseExpiresAt = some expiry → expiry ≤ now)

/-- The worker that calls has the job under a lease that still runs. -/
structure HeldBy (job : OutboxJob) (workerId leaseToken : String) (now : Timestamp) : Prop where
  forward : job.updatedAt ≤ now
  lease : job.assertActiveLease workerId leaseToken now = .ok ()

/-- No operation leads out of here. -/
def Terminal (job : OutboxJob) : Prop := job.state = .completed ∨ job.state = .deadLetter

variable {job : OutboxJob} {workerId leaseToken : String} {now : Timestamp}

theorem assertActiveLease_ok_iff {u : Unit} :
    job.assertActiveLease workerId leaseToken now = .ok u ↔
      isCleanText 128 workerId = true ∧ isCleanText 128 leaseToken = true ∧ job.state = .leased ∧
        job.leaseOwner = some workerId ∧ job.leaseToken = some leaseToken ∧
        ∃ expiry, job.leaseExpiresAt = some expiry ∧ now < expiry := by
  simp only [assertActiveLease, requireText, bind_ok_iff, raiseIf_ok_iff, not_not, not_or,
    exists_and_left, exists_const]
  refine and_congr_right fun _ => and_congr_right fun _ => and_congr_right fun _ => ?_
  rw [and_assoc]
  refine and_congr_right fun _ => and_congr_right fun _ => ?_
  cases job.leaseExpiresAt with
  | none => simp
  | some expiry => simp

theorem HeldBy.leased (h : job.HeldBy workerId leaseToken now) : job.state = .leased :=
  (assertActiveLease_ok_iff.mp h.lease).2.2.1

/-- A job that is held by the token it was leased with is held. -/
theorem HeldBy.held (h : job.HeldBy workerId leaseToken now) :
    job.Held workerId now ∧ job.tokenOrMissing = leaseToken := by
  obtain ⟨-, hclean, -, -, htoken, -⟩ := assertActiveLease_ok_iff.mp h.lease
  have hsome : leaseToken ≠ "" := by
    rintro rfl
    exact absurd hclean (by decide)
  have hsame : job.tokenOrMissing = leaseToken := by
    rw [tokenOrMissing, htoken]
    exact if_neg hsome
  refine ⟨⟨?_, h.forward⟩, hsame⟩
  rw [hsame]
  exact h.lease

end OutboxJob

/-! ## What a call drafts -/

section

variable [Hashlib] (job : OutboxJob)

/-- What a call writes if its own checks pass and the constructor takes it; nothing where
it repeats how the job ended. -/
inductive Drafts : JobCommand → Option JobFields → Prop
  | lease {workerId : String} {now expiresAt : Timestamp} {leaseDuration : Timedelta}
      (worker : isCleanText 128 workerId = true) (forward : job.updatedAt ≤ now)
      (positive : 0 < leaseDuration) (ready : job.Ready now)
      (left : job.attempts < job.maxAttempts) (expires : shift now leaseDuration = .ok expiresAt) :
      Drafts (.claim workerId now leaseDuration job.version)
        (some (job.leasedRow workerId now expiresAt))
  | exhaust {workerId : String} {now : Timestamp} {leaseDuration : Timedelta}
      (worker : isCleanText 128 workerId = true) (forward : job.updatedAt ≤ now)
      (positive : 0 < leaseDuration) (ready : job.Ready now)
      (left : job.maxAttempts ≤ job.attempts) :
      Drafts (.claim workerId now leaseDuration job.version) (some (job.exhaustedRow now))
  | complete {workerId leaseToken resultReference : String} {now : Timestamp}
      (text : isCleanText 512 resultReference = true)
      (held : job.HeldBy workerId leaseToken now) :
      Drafts (.complete workerId leaseToken now job.version resultReference)
        (some { job.released now with
          state := .completed
          lastError := none
          completionReference := some resultReference })
  | completed {workerId leaseToken resultReference : String} {now : Timestamp} {version : Nat}
      (text : isCleanText 512 resultReference = true) (state : job.state = .completed)
      (same : job.completionReference = some resultReference) :
      Drafts (.complete workerId leaseToken now version resultReference) none
  | requeue {workerId leaseToken reason : String} {now availableAt : Timestamp}
      {backoff : BackoffPolicy} {retryMode : RetryMode}
      (text : isCleanText 512 reason = true) (held : job.HeldBy workerId leaseToken now)
      (left : job.attempts < job.maxAttempts)
      (available : shift now (backoff.delayAfter job.attempts) = .ok availableAt) :
      Drafts (.requeue workerId leaseToken now job.version reason backoff retryMode)
        (some { job.released now with
          state := .pending
          availableAt := some availableAt
          retryMode
          lastError := some reason })
  | giveUp {workerId leaseToken reason : String} {now : Timestamp} {backoff : BackoffPolicy}
      {retryMode : RetryMode}
      (text : isCleanText 512 reason = true) (held : job.HeldBy workerId leaseToken now)
      (left : job.maxAttempts ≤ job.attempts) :
      Drafts (.requeue workerId leaseToken now job.version reason backoff retryMode)
        (some { job.released now with
          state := .deadLetter
          retryMode
          lastError := some reason
          deadLetterReason := some s!"max_attempts_exhausted:{reason}" })
  | deadLetter {workerId leaseToken reason : String} {now : Timestamp}
      (text : isCleanText 512 reason = true) (held : job.HeldBy workerId leaseToken now) :
      Drafts (.deadLetter workerId leaseToken now job.version reason)
        (some { job.released now with
          state := .deadLetter
          lastError := some reason
          deadLetterReason := some reason })
  | dead {workerId leaseToken reason : String} {now : Timestamp} {version : Nat}
      (text : isCleanText 512 reason = true) (state : job.state = .deadLetter)
      (same : job.deadLetterReason = some reason) :
      Drafts (.deadLetter workerId leaseToken now version reason) none

/-- The constructor, where there is something to construct. -/
def OutboxJob.written : Option JobFields → Except ControlPlaneError OutboxJob
  | none => .ok job
  | some row => row.build

variable {job} {updated : OutboxJob} {workerId leaseToken : String} {now : Timestamp}
  {version : Nat}

omit [Hashlib] in
theorem OutboxJob.checkTransition_ok_iff {u : Unit} :
    job.checkTransition version now = .ok u ↔ version = job.version ∧ job.updatedAt ≤ now := by
  simp only [OutboxJob.checkTransition, bind_ok_iff, raiseIf_ok_iff, not_not, not_lt,
    exists_and_left, exists_const]

omit [Hashlib] in
theorem requireText_ok_iff {value field : String} {maximum : Nat} {u : Unit} :
    requireText value field maximum = .ok u ↔ isCleanText maximum value = true := by
  rw [requireText, raiseIf_ok_iff, not_not]

omit [Hashlib] in
theorem OutboxJob.checkClaimable_ok_iff {u : Unit} :
    job.checkClaimable now = .ok u ↔ job.Ready now := by
  unfold OutboxJob.checkClaimable OutboxJob.Ready
  cases job.state with
  | completed => simp
  | deadLetter => simp
  | pending => cases job.availableAt <;> simp
  | leased => cases job.leaseExpiresAt <;> simp

theorem OutboxJob.claim_ok {leaseDuration : Timedelta}
    (h : job.claim workerId now leaseDuration version = .ok updated) :
    ∃ row, Drafts job (.claim workerId now leaseDuration version) (some row) ∧
      row.build = .ok updated := by
  unfold OutboxJob.claim at h
  obtain ⟨_, hversion, h⟩ := bind_ok_iff.mp h
  obtain ⟨_, hworker, h⟩ := bind_ok_iff.mp h
  obtain ⟨_, hforward, h⟩ := bind_ok_iff.mp h
  obtain ⟨_, hpositive, h⟩ := bind_ok_iff.mp h
  obtain ⟨_, hstate, hrow⟩ := bind_ok_iff.mp h
  rw [raiseIf_ok_iff, not_not] at hversion
  rw [raiseIf_ok_iff, not_lt] at hforward
  rw [raiseIf_ok_iff, not_le] at hpositive
  have hready := OutboxJob.checkClaimable_ok_iff.mp hstate
  obtain rfl := hversion
  by_cases hleft : job.attempts + 1 > job.maxAttempts
  · rw [if_pos hleft] at hrow
    exact ⟨_, .exhaust (requireText_ok_iff.mp hworker) hforward hpositive hready (by omega), hrow⟩
  · rw [if_neg hleft] at hrow
    obtain ⟨expiresAt, hexpires, hbuild⟩ := bind_ok_iff.mp hrow
    exact ⟨_, .lease (requireText_ok_iff.mp hworker) hforward hpositive hready (by omega)
      (liftDomain_ok_iff.mp hexpires), hbuild⟩

theorem OutboxJob.claim_of_ready {leaseDuration : Timedelta}
    (hworker : isCleanText 128 workerId = true) (hforward : job.updatedAt ≤ now)
    (hpositive : 0 < leaseDuration) (hready : job.Ready now) :
    job.claim workerId now leaseDuration job.version =
      if job.attempts + 1 > job.maxAttempts then JobFields.build (job.exhaustedRow now)
      else liftDomain (shift now leaseDuration) >>= fun expiresAt =>
        JobFields.build (job.leasedRow workerId now expiresAt) := by
  unfold OutboxJob.claim
  rw [bind_of_ok (raiseIf_of_not _ (not_not.mpr rfl)),
    bind_of_ok ((requireText_ok_iff (u := ())).mpr hworker),
    bind_of_ok (raiseIf_of_not _ (not_lt.mpr hforward)),
    bind_of_ok (raiseIf_of_not _ (not_le.mpr hpositive)),
    bind_of_ok ((OutboxJob.checkClaimable_ok_iff (u := ())).mpr hready)]

omit [Hashlib] in
theorem OutboxJob.heldBy_of_checks {u u' : Unit}
    (htransition : job.checkTransition version now = .ok u)
    (hlease : job.assertActiveLease workerId leaseToken now = .ok u') :
    version = job.version ∧ job.HeldBy workerId leaseToken now := by
  obtain ⟨hversion, hforward⟩ := OutboxJob.checkTransition_ok_iff.mp htransition
  exact ⟨hversion, hforward, hlease⟩

omit [Hashlib] in
theorem OutboxJob.HeldBy.checkTransition (h : job.HeldBy workerId leaseToken now) :
    job.checkTransition job.version now = .ok () :=
  OutboxJob.checkTransition_ok_iff.mpr ⟨rfl, h.forward⟩

/-- **A call returns exactly what it drafts**, where the constructor takes it. -/
theorem apply_ok_iff {command : JobCommand} :
    command.apply job = .ok updated ↔
      ∃ draft, Drafts job command draft ∧ job.written draft = .ok updated := by
  constructor
  · intro h
    cases command with
    | claim workerId now leaseDuration version =>
      obtain ⟨row, hdraft, hbuild⟩ := OutboxJob.claim_ok h
      exact ⟨some row, hdraft, hbuild⟩
    | complete workerId leaseToken now version resultReference =>
      obtain ⟨_, htext, hrest⟩ := bind_ok_iff.mp h
      rw [requireText_ok_iff] at htext
      split at hrest
      next hstate =>
        split at hrest
        next hsame => exact ⟨none, .completed htext hstate hsame, hrest⟩
        next => exact absurd hrest (by simp)
      next =>
        obtain ⟨_, htransition, hleased⟩ := bind_ok_iff.mp hrest
        obtain ⟨_, hlease, hbuild⟩ := bind_ok_iff.mp hleased
        obtain ⟨rfl, hheld⟩ := OutboxJob.heldBy_of_checks htransition hlease
        exact ⟨some _, .complete htext hheld, hbuild⟩
    | requeue workerId leaseToken now version reason backoff retryMode =>
      obtain ⟨_, htext, hrest⟩ := bind_ok_iff.mp h
      rw [requireText_ok_iff] at htext
      obtain ⟨_, htransition, hleased⟩ := bind_ok_iff.mp hrest
      obtain ⟨_, hlease, hbuild⟩ := bind_ok_iff.mp hleased
      obtain ⟨rfl, hheld⟩ := OutboxJob.heldBy_of_checks htransition hlease
      by_cases hlast : job.attempts ≥ job.maxAttempts
      · rw [if_pos hlast] at hbuild
        exact ⟨some _, .giveUp htext hheld hlast, hbuild⟩
      · rw [if_neg hlast] at hbuild
        obtain ⟨availableAt, havailable, hrow⟩ := bind_ok_iff.mp hbuild
        exact ⟨some _, .requeue htext hheld (by omega) (liftDomain_ok_iff.mp havailable), hrow⟩
    | deadLetter workerId leaseToken now version reason =>
      obtain ⟨_, htext, hrest⟩ := bind_ok_iff.mp h
      rw [requireText_ok_iff] at htext
      split at hrest
      next hstate =>
        split at hrest
        next hsame => exact ⟨none, .dead htext hstate hsame, hrest⟩
        next => exact absurd hrest (by simp)
      next =>
        obtain ⟨_, htransition, hleased⟩ := bind_ok_iff.mp hrest
        obtain ⟨_, hlease, hbuild⟩ := bind_ok_iff.mp hleased
        obtain ⟨rfl, hheld⟩ := OutboxJob.heldBy_of_checks htransition hlease
        exact ⟨some _, .deadLetter htext hheld, hbuild⟩
  · rintro ⟨draft, hdraft, hwritten⟩
    cases hdraft with
    | lease hworker hforward hpositive hready hleft hexpires =>
      show job.claim _ _ _ _ = _
      rw [OutboxJob.claim_of_ready hworker hforward hpositive hready, if_neg (by omega),
        bind_of_ok (liftDomain_ok_iff.mpr hexpires)]
      exact hwritten
    | exhaust hworker hforward hpositive hready hleft =>
      show job.claim _ _ _ _ = _
      rw [OutboxJob.claim_of_ready hworker hforward hpositive hready, if_pos (by omega)]
      exact hwritten
    | complete htext hheld =>
      show job.complete _ _ _ _ _ = _
      rw [OutboxJob.complete, bind_of_ok ((requireText_ok_iff (u := ())).mpr htext),
        if_neg (by rw [hheld.leased]; simp), bind_of_ok hheld.checkTransition,
        bind_of_ok hheld.lease]
      exact hwritten
    | completed htext hstate hsame =>
      show job.complete _ _ _ _ _ = _
      rw [OutboxJob.complete, bind_of_ok ((requireText_ok_iff (u := ())).mpr htext),
        if_pos hstate, if_pos hsame]
      exact hwritten
    | requeue htext hheld hleft havailable =>
      show job.requeue _ _ _ _ _ _ _ = _
      rw [OutboxJob.requeue, bind_of_ok ((requireText_ok_iff (u := ())).mpr htext),
        bind_of_ok hheld.checkTransition, bind_of_ok hheld.lease, if_neg (by omega),
        bind_of_ok (liftDomain_ok_iff.mpr havailable)]
      exact hwritten
    | giveUp htext hheld hleft =>
      show job.requeue _ _ _ _ _ _ _ = _
      rw [OutboxJob.requeue, bind_of_ok ((requireText_ok_iff (u := ())).mpr htext),
        bind_of_ok hheld.checkTransition, bind_of_ok hheld.lease, if_pos hleft]
      exact hwritten
    | deadLetter htext hheld =>
      show job.deadLetter _ _ _ _ _ = _
      rw [OutboxJob.deadLetter, bind_of_ok ((requireText_ok_iff (u := ())).mpr htext),
        if_neg (by rw [hheld.leased]; simp), bind_of_ok hheld.checkTransition,
        bind_of_ok hheld.lease]
      exact hwritten
    | dead htext hstate hsame =>
      show job.deadLetter _ _ _ _ _ = _
      rw [OutboxJob.deadLetter, bind_of_ok ((requireText_ok_iff (u := ())).mpr htext),
        if_pos hstate, if_pos hsame]
      exact hwritten

end

end Retrywise.ControlPlane
