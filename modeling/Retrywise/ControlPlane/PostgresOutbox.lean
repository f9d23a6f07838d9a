import Retrywise.ControlPlane.Outbox

/-!
# The outbox row of a create

`postgres_outbox.py` and the part of `outbox_worker.py` that settles: one row of
`outbox_jobs` through its claims, its retries and its end. Every write advances
`delivery_version`, and a claim is good as long as the row still has its version,
owner and token and the lease has not run out (`OutboxRow.heldBy`).

A row that was still in progress when it is claimed again goes to its next
delivery as `reconcileOnly`: whatever the delivery before it did, its effect is
not repeated blindly.
-/

namespace Retrywise.ControlPlane

open Retrywise.Foundation Retrywise.Domain

/-! ## The row -/

inductive OutboxStatus where
  | pending | inProgress | retryScheduled | succeeded | deadLetter | cancelled
deriving DecidableEq, Repr

def OutboxStatus.value : OutboxStatus → String
  | .pending => "PENDING"
  | .inProgress => "IN_PROGRESS"
  | .retryScheduled => "RETRY_SCHEDULED"
  | .succeeded => "SUCCEEDED"
  | .deadLetter => "DEAD_LETTER"
  | .cancelled => "CANCELLED"

structure OutboxRow where
  id : String
  merchantId : String
  aggregateType : String
  aggregateId : String
  commandType : String
  commandSchemaVersion : Nat
  idempotencyKey : String
  status : OutboxStatus
  attemptCount : Nat
  maxAttempts : Nat
  nextAttemptAt : Timestamp
  leaseOwner : Option String
  leaseToken : Option String
  leaseExpiresAt : Option Timestamp
  deliveryVersion : Nat
  retryMode : RetryMode
  lastErrorCode : Option String
  lastErrorAt : Option Timestamp
  completionReference : Option String
  completedAt : Option Timestamp
  deadLetterReason : Option String
  deadLetteredAt : Option Timestamp
  createdAt : Timestamp
  updatedAt : Timestamp
deriving DecidableEq

/-- `_clean_text`. -/
def requireCleanText (value field : String) (maximum : Nat) : Except ControlPlaneError Unit :=
  raiseIf (¬isCleanText maximum value)
    (.invalidValue s!"{field} must be clean, non-empty text of at most {maximum} characters")

theorem requireCleanText_ok_iff {value field : String} {maximum : Nat} {u : Unit} :
    requireCleanText value field maximum = .ok u ↔ isCleanText maximum value = true := by
  rw [requireCleanText, raiseIf_ok_iff, not_not]

/-- `_internal_ulid`. -/
def requireInternalUlid (value field : String) : Except ControlPlaneError Unit :=
  raiseIf (¬isUlid value)
    (.invalidValue s!"{field} must match the RetryWise ULID database domain")

/-! ## A claimed command -/

/-- `ClaimedOutboxCommand`, without its payload. -/
structure ClaimFields where
  jobId : String
  merchantId : String
  aggregateType : String
  aggregateId : String
  commandType : String
  commandSchemaVersion : Nat
  idempotencyKey : String
  attemptCount : Nat
  maxAttempts : Nat
  workerId : String
  leaseToken : String
  leaseExpiresAt : Timestamp
  deliveryVersion : Nat
  retryMode : RetryMode
  createdAt : Timestamp
  claimedAt : Timestamp
deriving DecidableEq

/-- `ClaimedOutboxCommand.__post_init__`. -/
def ClaimFields.postInit (c : ClaimFields) : Except ControlPlaneError Unit := do
  requireInternalUlid c.jobId "job_id"
  requireInternalUlid c.merchantId "merchant_id"
  requireCleanText c.aggregateType "aggregate_type" 100
  requireCleanText c.aggregateId "aggregate_id" 200
  requireCleanText c.commandType "command_type" 100
  requireCleanText c.idempotencyKey "idempotency_key" 300
  requireCleanText c.workerId "worker_id" 128
  requireCleanText c.leaseToken "lease_token" 200
  requirePositive c.commandSchemaVersion "command_schema_version"
  requirePositive c.attemptCount "attempt_count"
  requirePositive c.maxAttempts "max_attempts"
  requirePositive c.deliveryVersion "delivery_version"
  raiseIf (c.attemptCount > c.maxAttempts)
    (.invalidValue "attempt_count cannot exceed max_attempts")
  raiseIf (c.claimedAt < c.createdAt) (.invalidValue "claimed_at cannot precede created_at")
  raiseIf (c.leaseExpiresAt ≤ c.claimedAt)
    (.invalidValue "lease_expires_at must be after claimed_at")

/-- One immutable command under a lease. -/
structure ClaimedOutboxCommand extends ClaimFields where
  valid : toClaimFields.postInit = .ok ()

/-- What a worker claims with. -/
structure ClaimTerms where
  workerId : String
  leaseNonce : String
  leaseDuration : Timedelta := seconds 30

/-- The checks of `claim_batch` on its arguments. -/
def ClaimTerms.check (terms : ClaimTerms) : Except ControlPlaneError Unit := do
  requireCleanText terms.workerId "worker_id" 128
  raiseIf (terms.leaseDuration ≤ 0)
    (.invalidValue "lease_duration must be a positive timedelta")
  raiseIf (minutes 15 < terms.leaseDuration)
    (.invalidValue "lease_duration must not exceed 15 minutes")
  requireCleanText terms.leaseNonce "token_factory result" 96

namespace OutboxRow

variable (row : OutboxRow)

/-- `WHERE` of `_CLAIM_BATCH`. -/
def claimable (now : Timestamp) : Bool :=
  ((row.status = .pending || row.status = .retryScheduled) && row.nextAttemptAt ≤ now) ||
    (row.status = .inProgress && row.leaseExpiresAt.any (· ≤ now))

/-- `SET` of `_CLAIM_BATCH`; the expiry of the new lease is `now` and the duration. -/
def claimed (terms : ClaimTerms) (now expiresAt : Timestamp) : OutboxRow :=
  if row.attemptCount ≥ row.maxAttempts then
    { row with
      status := .deadLetter
      deliveryVersion := row.deliveryVersion + 1
      leaseOwner := none
      leaseToken := none
      leaseExpiresAt := none
      retryMode := .reconcileOnly
      lastErrorCode := some "max_attempts_exhausted_before_claim"
      lastErrorAt := some now
      deadLetteredAt := some now
      deadLetterReason := some "max_attempts_exhausted_before_claim"
      updatedAt := now }
  else
    { row with
      status := .inProgress
      attemptCount := row.attemptCount + 1
      deliveryVersion := row.deliveryVersion + 1
      leaseOwner := some terms.workerId
      leaseToken := some s!"{terms.leaseNonce}:{row.id}:{row.deliveryVersion + 1}"
      leaseExpiresAt := some expiresAt
      retryMode := if row.status = .inProgress then .reconcileOnly else row.retryMode
      deadLetteredAt := none
      deadLetterReason := none
      updatedAt := now }

/-- `_claimed_from_row`, the fields. -/
def claimFields (workerId leaseToken : String) (leaseExpiresAt : Timestamp) : ClaimFields where
  jobId := row.id
  merchantId := row.merchantId
  aggregateType := row.aggregateType
  aggregateId := row.aggregateId
  commandType := row.commandType
  commandSchemaVersion := row.commandSchemaVersion
  idempotencyKey := row.idempotencyKey
  attemptCount := row.attemptCount
  maxAttempts := row.maxAttempts
  workerId := workerId
  leaseToken := leaseToken
  leaseExpiresAt := leaseExpiresAt
  deliveryVersion := row.deliveryVersion
  retryMode := row.retryMode
  createdAt := row.createdAt
  claimedAt := row.updatedAt

/-- `_claimed_from_row`, on the row a claim has left. -/
def claimedCommand : Except ControlPlaneError ClaimedOutboxCommand :=
  match row.leaseOwner, row.leaseToken, row.leaseExpiresAt with
  | some workerId, some leaseToken, some leaseExpiresAt =>
    construct ClaimFields.postInit ClaimedOutboxCommand.mk
      (row.claimFields workerId leaseToken leaseExpiresAt)
  | _, _, _ => .error (.invalidValue "outbox claim returned a non-text command or lease field")

/-- `WHERE` of the three settlements, and the outbox part of the fence. -/
def heldBy (jobId merchantId : String) (version : Nat) (workerId leaseToken : String)
    (now : Timestamp) : Bool :=
  row.id = jobId && row.merchantId = merchantId && row.status = .inProgress &&
    row.deliveryVersion = version && row.leaseOwner = some workerId &&
    row.leaseToken = some leaseToken && row.leaseExpiresAt.any (now < ·)

/-! ## How a delivery is settled -/

/-- What every settlement of a lease changes alike. -/
def released (now : Timestamp) : OutboxRow :=
  { row with
    deliveryVersion := row.deliveryVersion + 1
    leaseOwner := none
    leaseToken := none
    leaseExpiresAt := none
    updatedAt := now }

/-- `_settle`: the row has to be held under the claim. -/
def settleWith (claim : ClaimFields) (now : Timestamp) (operation : String)
    (assign : OutboxRow → OutboxRow) : Except ControlPlaneError OutboxRow :=
  if row.heldBy claim.jobId claim.merchantId claim.deliveryVersion claim.workerId
      claim.leaseToken now then
    .ok (assign (row.released now))
  else .error (.outboxFenceLost s!"{operation} lost its fenced lease")

def complete (claim : ClaimFields) (now : Timestamp) (completionReference : String) :
    Except ControlPlaneError OutboxRow := do
  requireCleanText completionReference "completion_reference" 500
  row.settleWith claim now "complete" fun r =>
    { r with
      status := .succeeded
      completionReference := some completionReference
      completedAt := some now }

def deadLetter (claim : ClaimFields) (now : Timestamp) (reason : String) :
    Except ControlPlaneError OutboxRow := do
  requireCleanText reason "reason" 500
  row.settleWith claim now "dead_letter" fun r =>
    { r with
      status := .deadLetter
      retryMode := .reconcileOnly
      lastErrorCode := some reason
      lastErrorAt := some now
      deadLetteredAt := some now
      deadLetterReason := some reason }

/-- `_prefixed_reason`. -/
def prefixedReason (lead reason : String) : String :=
  s!"{lead}:{String.ofList (reason.toList.take (500 - lead.length - 1))}"

def retry (backoff : BackoffPolicy) (claim : ClaimFields) (now : Timestamp) (reason : String)
    (retryMode : RetryMode) : Except ControlPlaneError OutboxRow := do
  requireCleanText reason "reason" 500
  if claim.attemptCount ≥ claim.maxAttempts then
    row.deadLetter claim now (prefixedReason "max_attempts_exhausted" reason)
  else
    let nextAttemptAt ← liftDomain (shift now (backoff.delayAfter claim.attemptCount))
    row.settleWith claim now "retry" fun r =>
      { r with
        status := .retryScheduled
        retryMode := retryMode
        nextAttemptAt := nextAttemptAt
        lastErrorCode := some reason
        lastErrorAt := some now }

end OutboxRow

/-! ## What a handler asks for -/

inductive HandlerResult where
  | succeeded (completionReference : String)
  | retry (reason : String) (retryMode : RetryMode)
  | deadLetter (reason : String)
deriving DecidableEq, Repr

/-- `HandlerResult.__post_init__`. -/
def HandlerResult.check : HandlerResult → Except ControlPlaneError Unit
  | .succeeded reference => requireCleanText reference "completion_reference" 500
  | .retry reason mode => do
    requireCleanText reason "reason" 500
    raiseIf (mode = .normal) (.invalidValue "retry results require an explicit safe retry mode")
  | .deadLetter reason => requireCleanText reason "reason" 500

/-- The result, or what the worker makes of the exception its constructor raises. -/
def HandlerResult.orHandlerException (result : HandlerResult) : HandlerResult :=
  match result.check with
  | .ok _ => result
  | .error _ => .retry "handler_exception:ValueError" .reconcileOnly

/-- What `poll_once` does to the row with it. -/
def OutboxRow.settle (row : OutboxRow) (backoff : BackoffPolicy) (claim : ClaimFields)
    (now : Timestamp) : HandlerResult → Except ControlPlaneError OutboxRow
  | .succeeded reference => row.complete claim now reference
  | .retry reason mode => row.retry backoff claim now reason mode
  | .deadLetter reason => row.deadLetter claim now reason

/-! ## What the writes do -/

/-- The row is under a lease of this version. -/
def OutboxRow.Current (row : OutboxRow) (version : Nat) : Prop :=
  row.status = .inProgress ∧ row.deliveryVersion = version

/-- The row waits for a delivery that may create. -/
def OutboxRow.Offering (row : OutboxRow) : Prop :=
  (row.status = .pending ∨ row.status = .retryScheduled) ∧ row.retryMode ≠ .reconcileOnly

section

variable {row settled : OutboxRow} {now : Timestamp} {claim : ClaimFields}

theorem current_of_heldBy {jobId merchantId workerId leaseToken : String} {version : Nat}
    (h : row.heldBy jobId merchantId version workerId leaseToken now = true) :
    row.Current version := by
  simp only [OutboxRow.heldBy, Bool.and_eq_true, decide_eq_true_eq] at h
  obtain ⟨⟨⟨⟨⟨-, hstatus⟩, hversion⟩, -⟩, -⟩, -⟩ := h
  exact ⟨hstatus, hversion⟩

/-- A claim advances the version, and may create only if the row offered it. -/
theorem claimed_spec (terms : ClaimTerms) (expiresAt : Timestamp)
    (hdue : row.claimable now = true) :
    (row.claimed terms now expiresAt).deliveryVersion = row.deliveryVersion + 1 ∧
      ((row.claimed terms now expiresAt).status = .inProgress ∨
        (row.claimed terms now expiresAt).status = .deadLetter) ∧
      ((row.claimed terms now expiresAt).retryMode ≠ .reconcileOnly → row.Offering) := by
  have hoffer : row.status ≠ .inProgress →
      row.status = .pending ∨ row.status = .retryScheduled := by
    intro hfree
    simp only [OutboxRow.claimable, Bool.or_eq_true, Bool.and_eq_true, decide_eq_true_eq] at hdue
    rcases hdue with ⟨h, -⟩ | ⟨h, -⟩
    · exact h
    · exact absurd h hfree
  by_cases hlast : row.attemptCount ≥ row.maxAttempts
  · rw [OutboxRow.claimed, if_pos hlast]
    exact ⟨rfl, .inr rfl, fun h => absurd rfl h⟩
  · rw [OutboxRow.claimed, if_neg hlast]
    refine ⟨rfl, .inl rfl, ?_⟩
    intro hmode
    by_cases hfree : row.status = .inProgress
    · exact absurd (if_pos hfree) hmode
    · dsimp only at hmode
      rw [if_neg hfree] at hmode
      exact ⟨hoffer hfree, hmode⟩

/-- The command carries what the claim has written. -/
theorem claimedCommand_ok {command : ClaimedOutboxCommand}
    (h : row.claimedCommand = .ok command) :
    command.retryMode = row.retryMode ∧ command.deliveryVersion = row.deliveryVersion := by
  unfold OutboxRow.claimedCommand at h
  split at h
  next =>
    obtain ⟨hvalid, rfl⟩ := construct_ok_iff.mp h
    exact ⟨rfl, rfl⟩
  next => exact absurd h (by simp)

theorem settleWith_ok {operation : String} {assign : OutboxRow → OutboxRow}
    (h : row.settleWith claim now operation assign = .ok settled) :
    row.Current claim.deliveryVersion ∧ settled = assign (row.released now) := by
  unfold OutboxRow.settleWith at h
  split_ifs at h with hheld
  exact ⟨current_of_heldBy hheld, (Except.ok.inj h).symm⟩

theorem deadLetter_ok {reason : String} (h : row.deadLetter claim now reason = .ok settled) :
    row.Current claim.deliveryVersion ∧ settled.deliveryVersion = row.deliveryVersion + 1 ∧
      settled.status = .deadLetter ∧ settled.retryMode = .reconcileOnly := by
  obtain ⟨_, -, h⟩ := bind_ok_iff.mp h
  obtain ⟨hcurrent, rfl⟩ := settleWith_ok h
  exact ⟨hcurrent, rfl, rfl, rfl⟩

/-- A settlement needs the lease, advances the version and ends it; the row offers
another create only to a retry that asked for one. -/
theorem settle_ok {backoff : BackoffPolicy} {result : HandlerResult}
    (h : row.settle backoff claim now result = .ok settled) :
    row.Current claim.deliveryVersion ∧ settled.deliveryVersion = row.deliveryVersion + 1 ∧
      settled.status ≠ .inProgress ∧
      (settled.Offering → ∃ reason mode, result = .retry reason mode ∧ mode ≠ .reconcileOnly) := by
  cases result with
  | succeeded reference =>
    obtain ⟨_, -, h⟩ := bind_ok_iff.mp h
    obtain ⟨hcurrent, rfl⟩ := settleWith_ok h
    exact ⟨hcurrent, rfl, by simp, fun hoffer => absurd hoffer.1 (by simp)⟩
  | deadLetter reason =>
    obtain ⟨hcurrent, hversion, hstatus, -⟩ := deadLetter_ok h
    exact ⟨hcurrent, hversion, by simp [hstatus], fun hoffer => absurd hoffer.1 (by simp [hstatus])⟩
  | retry reason mode =>
    obtain ⟨_, -, h⟩ := bind_ok_iff.mp h
    by_cases hlast : claim.attemptCount ≥ claim.maxAttempts
    · rw [if_pos hlast] at h
      obtain ⟨hcurrent, hversion, hstatus, -⟩ := deadLetter_ok h
      exact ⟨hcurrent, hversion, by simp [hstatus],
        fun hoffer => absurd hoffer.1 (by simp [hstatus])⟩
    · rw [if_neg hlast] at h
      obtain ⟨_, -, h⟩ := bind_ok_iff.mp h
      obtain ⟨hcurrent, rfl⟩ := settleWith_ok h
      exact ⟨hcurrent, rfl, by simp, fun hoffer => ⟨reason, mode, rfl, hoffer.2⟩⟩

end

end Retrywise.ControlPlane
