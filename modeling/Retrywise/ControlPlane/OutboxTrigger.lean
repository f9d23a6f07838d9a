import Retrywise.ControlPlane.OutboxLeases
import Retrywise.ControlPlane.PostgresOutbox

/-!
# Rows behind the triggers

The statements of `postgres_outbox.py` write to a table that guards itself. Before a row is
stored, `enforce_outbox_lifecycle` of the migration compares it with the row it replaces, and
raises unless the change is one of the lifecycle; then `set_updated_at` puts its own reading
of the clock in the row. A statement that raises changes nothing.

> `enforce_of_admissible`: a change that is part of the lifecycle is let through, unless the
> clock is behind the last write of the row.
>
> `admissible_of_written`: whatever a statement writes is part of the lifecycle.
-/

namespace Retrywise.ControlPlane

open Retrywise.Foundation Retrywise.Domain

/-! ## The lifecycle -/

/-- `OLD.status IN ('SUCCEEDED', 'DEAD_LETTER', 'CANCELLED')`. -/
def OutboxStatus.ended : OutboxStatus → Bool
  | .succeeded | .deadLetter | .cancelled => true
  | .pending | .inProgress | .retryScheduled => false

/-- What `RAISE EXCEPTION` tells the caller. -/
structure DatabaseError where
  message : String
  errcode : String
deriving DecidableEq

/-- The columns that no update may touch; the payload, which no statement names, is left out. -/
structure OutboxIdentity where
  id : String
  merchantId : String
  aggregateType : String
  aggregateId : String
  commandType : String
  commandSchemaVersion : Nat
  idempotencyKey : String
  maxAttempts : Nat
  createdAt : Timestamp
deriving DecidableEq

namespace OutboxRow

def identity (row : OutboxRow) : OutboxIdentity where
  id := row.id
  merchantId := row.merchantId
  aggregateType := row.aggregateType
  aggregateId := row.aggregateId
  commandType := row.commandType
  commandSchemaVersion := row.commandSchemaVersion
  idempotencyKey := row.idempotencyKey
  maxAttempts := row.maxAttempts
  createdAt := row.createdAt

/-- The transitions of the lifecycle. -/
def allowed (old new : OutboxRow) : Bool :=
  ((old.status = .pending || old.status = .retryScheduled) && new.status = .inProgress &&
      new.attemptCount = old.attemptCount + 1) ||
    (old.status = .inProgress && new.status = .inProgress &&
      old.leaseExpiresAt.any (· ≤ new.updatedAt) && new.attemptCount = old.attemptCount + 1 &&
      new.retryMode = .reconcileOnly && new.leaseToken ≠ old.leaseToken) ||
    (old.status = .inProgress &&
      (new.status = .succeeded || new.status = .retryScheduled || new.status = .deadLetter ||
        new.status = .cancelled) &&
      new.attemptCount = old.attemptCount) ||
    ((old.status = .pending || old.status = .retryScheduled) &&
      (new.status = .cancelled || new.status = .deadLetter) &&
      new.attemptCount = old.attemptCount)

def clockBackwards : DatabaseError :=
  ⟨"outbox updated_at cannot move backwards", "22007"⟩

/-- `enforce_outbox_lifecycle` on an update. -/
def enforceLifecycle (old new : OutboxRow) : Except DatabaseError Unit := do
  raiseIf (new.identity ≠ old.identity)
    ⟨"outbox command identity and payload are immutable", "55000"⟩
  raiseIf (old.status.ended = true)
    ⟨"terminal outbox delivery evidence is immutable", "55000"⟩
  raiseIf (new.deliveryVersion ≠ old.deliveryVersion + 1)
    ⟨"outbox delivery_version must increase by exactly one", "40001"⟩
  raiseIf (new.updatedAt < old.updatedAt) clockBackwards
  raiseIf (new.attemptCount < old.attemptCount ∨ new.attemptCount > old.attemptCount + 1)
    ⟨"outbox attempt_count must stay fixed or increase by one", "55000"⟩
  raiseIf (allowed old new = false)
    ⟨s!"invalid fenced outbox transition: {old.status.value} -> {new.status.value}", "55000"⟩

/-- `enforce_outbox_lifecycle` on an insert. -/
def enforceInsert (new : OutboxRow) : Except DatabaseError Unit :=
  raiseIf (new.status ≠ .pending ∨ new.attemptCount ≠ 0 ∨ new.deliveryVersion ≠ 0 ∨
      new.retryMode ≠ .normal)
    ⟨"outbox jobs must start PENDING at attempt/version zero in NORMAL mode", "23514"⟩

/-- A change of the lifecycle, whatever the clock says. -/
structure Admissible (old new : OutboxRow) : Prop where
  identity : new.identity = old.identity
  running : old.status.ended = false
  deliveryVersion : new.deliveryVersion = old.deliveryVersion + 1
  attemptCount : old.attemptCount ≤ new.attemptCount ∧ new.attemptCount ≤ old.attemptCount + 1
  allowed : allowed old new = true

/-- **A change of the lifecycle is let through, unless the clock is behind the last write.** -/
theorem enforce_of_admissible {old new : OutboxRow} (h : Admissible old new) :
    enforceLifecycle old new =
      if new.updatedAt < old.updatedAt then .error clockBackwards else .ok () := by
  obtain ⟨hidentity, hrunning, hversion, ⟨hless, hmore⟩, hallowed⟩ := h
  unfold enforceLifecycle
  rw [bind_of_ok (raiseIf_of_not _ (not_not.mpr hidentity)),
    bind_of_ok (raiseIf_of_not _ (by rw [hrunning]; decide)),
    bind_of_ok (raiseIf_of_not _ (not_not.mpr hversion))]
  have hattempts : ¬(new.attemptCount < old.attemptCount ∨
      new.attemptCount > old.attemptCount + 1) := by omega
  by_cases hclock : new.updatedAt < old.updatedAt
  · rw [bind_of_error (raiseIf_of _ hclock), if_pos hclock]
  · rw [bind_of_ok (raiseIf_of_not _ hclock), bind_of_ok (raiseIf_of_not _ hattempts),
      if_neg hclock]
    exact raiseIf_of_not _ (by rw [hallowed]; decide)

end OutboxRow

/-! ## Calls of the repository -/

/-- A call, as far as one row is concerned. -/
inductive OutboxCall where
  | claim (terms : ClaimTerms)
  | complete (command : ClaimedOutboxCommand) (completionReference : String)
  | retry (backoff : BackoffPolicy) (command : ClaimedOutboxCommand) (reason : String)
    (retryMode : RetryMode)
  | deadLetter (command : ClaimedOutboxCommand) (reason : String)

inductive OutboxFault where
  | raised (error : ControlPlaneError)
  | database (error : DatabaseError)

namespace OutboxCall

/-- The command that is settled. -/
def command : OutboxCall → Option ClaimedOutboxCommand
  | .claim _ => none
  | .complete command _ | .retry _ command _ _ | .deadLetter command _ => some command

/-- The row that the statement writes; a claim passes over a row that is not due. -/
def written (row : OutboxRow) (now : Timestamp) :
    OutboxCall → Except ControlPlaneError (Option OutboxRow)
  | .claim terms => do
    terms.check
    if row.claimable now then
      let expiresAt ← liftDomain (shift now terms.leaseDuration)
      return some (row.claimed terms now expiresAt)
    else return none
  | .complete command completionReference =>
    (row.complete command.toClaimFields now completionReference).map some
  | .retry backoff command reason retryMode =>
    (row.retry backoff command.toClaimFields now reason retryMode).map some
  | .deadLetter command reason => (row.deadLetter command.toClaimFields now reason).map some

/-- The commands that a call returns from the row it has stored. -/
def issued (stored : OutboxRow) : OutboxCall → List ClaimedOutboxCommand
  | .claim _ => stored.claimedCommand.toOption.toList
  | .complete _ _ | .retry _ _ _ _ | .deadLetter _ _ => []

/-- The row that a call leaves, and the commands it returns; the statement reads the clock at
`now`, and the second trigger at `stamped`. -/
def run (row : OutboxRow) (now stamped : Timestamp) (call : OutboxCall) :
    Except OutboxFault (OutboxRow × List ClaimedOutboxCommand) :=
  match call.written row now with
  | .error e => .error (.raised e)
  | .ok none => .ok (row, [])
  | .ok (some new) =>
    match row.enforceLifecycle new with
    | .error e => .error (.database e)
    | .ok () =>
      .ok ({ new with updatedAt := stamped }, call.issued { new with updatedAt := stamped })

end OutboxCall

/-! ## Runs -/

/-- A row as it is put in. -/
structure OutboxRow.Inserted (row : OutboxRow) : Prop where
  isUlid_id : isUlid row.id = true
  enforceInsert : row.enforceInsert = .ok ()
  positive : 0 < row.maxAttempts
  forward : row.createdAt ≤ row.updatedAt
  noLease : row.leaseOwner = none ∧ row.leaseToken = none ∧ row.leaseExpiresAt = none

/-- The rows that calls lead to, and the commands they have returned. A call settles a command
that was returned before; `clock` is what is known of the two readings of a statement. -/
inductive Delivered (clock : Timestamp → Timestamp → Prop) (inserted : OutboxRow) :
    OutboxRow → List ClaimedOutboxCommand → Prop
  | inserted : Delivered clock inserted inserted []
  | called {row next : OutboxRow} {past issued : List ClaimedOutboxCommand} {call : OutboxCall}
      {now stamped : Timestamp} (before : Delivered clock inserted row past)
      (known : ∀ command, call.command = some command → command ∈ past)
      (read : clock now stamped) (run : call.run row now stamped = .ok (next, issued)) :
      Delivered clock inserted next (issued ++ past)

/-! ## What a run keeps -/

/-- The command was returned by the claim that leased the row, or by one before it. -/
structure ClaimFields.Of (command : ClaimFields) (row : OutboxRow) : Prop where
  jobId : command.jobId = row.id
  merchantId : command.merchantId = row.merchantId
  maxAttempts : command.maxAttempts = row.maxAttempts
  deliveryVersion : command.deliveryVersion ≤ row.deliveryVersion
  attemptCount : command.deliveryVersion = row.deliveryVersion →
    command.attemptCount = row.attemptCount

/-- The token of a lease ends in the version of the row. -/
def OutboxRow.TokenOfVersion (row : OutboxRow) : Prop :=
  ∀ token, row.leaseToken = some token →
    ∃ nonce : String, token = s!"{nonce}:{row.id}:{row.deliveryVersion}"

section

variable {row new next : OutboxRow} {call : OutboxCall} {now stamped : Timestamp}

/-- What a settlement does to the columns that the lifecycle looks at. -/
structure SettlesRow (row new : OutboxRow) (command : ClaimFields) (now : Timestamp) : Prop where
  held : row.heldBy command.jobId command.merchantId command.deliveryVersion command.workerId
    command.leaseToken now = true
  identity : new.identity = row.identity
  deliveryVersion : new.deliveryVersion = row.deliveryVersion + 1
  attemptCount : new.attemptCount = row.attemptCount
  leaseToken : new.leaseToken = none
  updatedAt : new.updatedAt = now
  status : new.status = .succeeded ∨ new.status = .retryScheduled ∨ new.status = .deadLetter

/-- The two ways in which a statement writes. -/
theorem written_cases (h : call.written row now = .ok (some new)) :
    (∃ terms expiresAt, call = .claim terms ∧ row.claimable now = true ∧
        new = row.claimed terms now expiresAt) ∨
      ∃ command, call.command = some command ∧ SettlesRow row new command.toClaimFields now := by
  have hsettle : ∀ {claim : ClaimFields} {operation : String} {assign : OutboxRow → OutboxRow},
      row.settleWith claim now operation assign = .ok new →
        row.heldBy claim.jobId claim.merchantId claim.deliveryVersion claim.workerId
          claim.leaseToken now = true ∧ new = assign (row.released now) := by
    intro claim operation assign hsettled
    unfold OutboxRow.settleWith at hsettled
    split_ifs at hsettled with hheld
    exact ⟨hheld, (Except.ok.inj hsettled).symm⟩
  have hdead : ∀ {command : ClaimedOutboxCommand} {reason : String},
      row.deadLetter command.toClaimFields now reason = .ok new →
        SettlesRow row new command.toClaimFields now := by
    intro command reason hdead
    obtain ⟨_, -, hsettled⟩ := bind_ok_iff.mp hdead
    obtain ⟨hheld, rfl⟩ := hsettle hsettled
    exact ⟨hheld, rfl, rfl, rfl, rfl, rfl, .inr (.inr rfl)⟩
  cases call with
  | claim terms =>
    obtain ⟨_, -, hrest⟩ := bind_ok_iff.mp h
    by_cases hdue : row.claimable now = true
    · rw [if_pos hdue] at hrest
      obtain ⟨expiresAt, -, hnew⟩ := bind_ok_iff.mp hrest
      exact .inl ⟨terms, expiresAt, rfl, hdue, (Option.some.inj (pure_ok_iff.mp hnew)).symm⟩
    · rw [if_neg hdue] at hrest
      exact absurd (pure_ok_iff.mp hrest) (by simp)
  | complete command completionReference =>
    obtain ⟨_, hcompleted, hnew⟩ := map_ok_iff.mp h
    obtain rfl := Option.some.inj hnew
    obtain ⟨_, -, hsettled⟩ := bind_ok_iff.mp hcompleted
    obtain ⟨hheld, rfl⟩ := hsettle hsettled
    exact .inr ⟨command, rfl, hheld, rfl, rfl, rfl, rfl, rfl, .inl rfl⟩
  | retry backoff command reason retryMode =>
    obtain ⟨_, hretried, hnew⟩ := map_ok_iff.mp h
    obtain rfl := Option.some.inj hnew
    obtain ⟨_, -, hrest⟩ := bind_ok_iff.mp hretried
    by_cases hlast : command.attemptCount ≥ command.maxAttempts
    · rw [if_pos hlast] at hrest
      exact .inr ⟨command, rfl, hdead hrest⟩
    · rw [if_neg hlast] at hrest
      obtain ⟨nextAttemptAt, -, hsettled⟩ := bind_ok_iff.mp hrest
      obtain ⟨hheld, rfl⟩ := hsettle hsettled
      exact .inr ⟨command, rfl, hheld, rfl, rfl, rfl, rfl, rfl, .inr (.inl rfl)⟩
  | deadLetter command reason =>
    obtain ⟨_, hdeadLetter, hnew⟩ := map_ok_iff.mp h
    obtain rfl := Option.some.inj hnew
    exact .inr ⟨command, rfl, hdead hdeadLetter⟩

/-- A new token is none that the row had. -/
theorem leaseToken_ne (h : row.TokenOfVersion) (nonce : String) :
    some s!"{nonce}:{row.id}:{row.deliveryVersion + 1}" ≠ row.leaseToken := by
  intro hsame
  obtain ⟨other, htoken⟩ := h _ hsame.symm
  have hcolon : ∀ n : Nat, ':' ∉ n.repr.toList := by
    intro n hmem
    exact absurd (isDigit_of_mem_repr hmem) (by decide)
  -- what is behind the last colon is the version
  have hchars :
      (nonce.toList ++ ':' :: row.id.toList) ++ ':' :: (row.deliveryVersion + 1).repr.toList =
        (other.toList ++ ':' :: row.id.toList) ++ ':' :: row.deliveryVersion.repr.toList := by
    simpa [ToString.toString] using congrArg String.toList htoken
  have hversions := eq_of_toList_repr (mark_append_inj (hcolon _) (hcolon _) hchars)
  omega

/-! ## Whatever is written -/

theorem identity_claimed (row : OutboxRow) (terms : ClaimTerms) (now expiresAt : Timestamp) :
    (row.claimed terms now expiresAt).identity = row.identity ∧
      (row.claimed terms now expiresAt).deliveryVersion = row.deliveryVersion + 1 ∧
      (row.claimed terms now expiresAt).updatedAt = now := by
  unfold OutboxRow.claimed
  split
  next => exact ⟨rfl, rfl, rfl⟩
  next => exact ⟨rfl, rfl, rfl⟩

/-- A row that is due is not at its end, and one in progress has run out of its lease. -/
theorem due_cases (h : row.claimable now = true) :
    (row.status = .pending ∨ row.status = .retryScheduled) ∨
      row.status = .inProgress ∧ row.leaseExpiresAt.any (· ≤ now) = true := by
  simp only [OutboxRow.claimable, Bool.or_eq_true, Bool.and_eq_true, decide_eq_true_eq] at h
  rcases h with ⟨hopen, -⟩ | ⟨hleased, hexpired⟩
  · exact .inl hopen
  · exact .inr ⟨hleased, hexpired⟩

/-- A claim is part of the lifecycle: the row has a new token, if it had one. -/
theorem admissible_claimed (htoken : row.TokenOfVersion) (hdue : row.claimable now = true)
    (terms : ClaimTerms) (expiresAt : Timestamp) :
    row.Admissible (row.claimed terms now expiresAt) := by
  have hrunning : row.status.ended = false := by
    rcases due_cases hdue with (hopen | hopen) | ⟨hleased, -⟩
    · rw [hopen]
      rfl
    · rw [hopen]
      rfl
    · rw [hleased]
      rfl
  obtain ⟨hidentity, hversion, -⟩ := identity_claimed row terms now expiresAt
  by_cases hlast : row.attemptCount ≥ row.maxAttempts
  · refine ⟨hidentity, hrunning, hversion, ?_, ?_⟩
    · rw [OutboxRow.claimed, if_pos hlast]
      exact ⟨le_rfl, Nat.le_succ _⟩
    · rw [OutboxRow.claimed, if_pos hlast]
      rcases due_cases hdue with hopen | ⟨hleased, -⟩
      · simp [OutboxRow.allowed, hopen]
      · simp [OutboxRow.allowed, hleased]
  · refine ⟨hidentity, hrunning, hversion, ?_, ?_⟩
    · rw [OutboxRow.claimed, if_neg hlast]
      exact ⟨Nat.le_succ _, le_rfl⟩
    · rw [OutboxRow.claimed, if_neg hlast]
      rcases due_cases hdue with hopen | ⟨hleased, hexpired⟩
      · simp [OutboxRow.allowed, hopen]
      · have hnew := leaseToken_ne htoken terms.leaseNonce
        simpa [OutboxRow.allowed, hleased, hexpired] using hnew

/-- A settlement is part of the lifecycle. -/
theorem SettlesRow.admissible {command : ClaimFields} (h : SettlesRow row new command now) :
    row.Admissible new := by
  have hleased := (current_of_heldBy h.held).1
  refine ⟨h.identity, ?_, h.deliveryVersion, ?_, ?_⟩
  · rw [hleased]
    rfl
  · rw [h.attemptCount]
    exact ⟨le_rfl, Nat.le_succ _⟩
  · rcases h.status with hstatus | hstatus | hstatus
    · simp [OutboxRow.allowed, hleased, hstatus, h.attemptCount]
    · simp [OutboxRow.allowed, hleased, hstatus, h.attemptCount]
    · simp [OutboxRow.allowed, hleased, hstatus, h.attemptCount]

/-- **Whatever a statement writes is part of the lifecycle**, at the time of the statement. -/
theorem admissible_of_written (htoken : row.TokenOfVersion)
    (h : call.written row now = .ok (some new)) : row.Admissible new ∧ new.updatedAt = now := by
  rcases written_cases h with ⟨terms, expiresAt, -, hdue, rfl⟩ | ⟨command, -, hsettles⟩
  · exact ⟨admissible_claimed htoken hdue terms expiresAt,
      (identity_claimed row terms now expiresAt).2.2⟩
  · exact ⟨hsettles.admissible, hsettles.updatedAt⟩

/-! ## Runs -/

/-- A call leaves the row as it was, or stores what its statement has written. -/
theorem run_ok {issued : List ClaimedOutboxCommand}
    (h : call.run row now stamped = .ok (next, issued)) :
    (next = row ∧ issued = []) ∨
      ∃ new, call.written row now = .ok (some new) ∧ row.enforceLifecycle new = .ok () ∧
        next = { new with updatedAt := stamped } ∧ issued = call.issued next := by
  unfold OutboxCall.run at h
  split at h
  next => exact absurd h (by simp)
  next =>
    obtain ⟨rfl, rfl⟩ := Prod.mk.inj (Except.ok.inj h)
    exact .inl ⟨rfl, rfl⟩
  next new hwritten =>
    split at h
    next => exact absurd h (by simp)
    next hallowed =>
      obtain ⟨rfl, rfl⟩ := Prod.mk.inj (Except.ok.inj h)
      exact .inr ⟨new, hwritten, hallowed, rfl, rfl⟩

theorem run_of_written (hwritten : call.written row now = .ok (some new))
    (hallowed : row.enforceLifecycle new = .ok ()) :
    call.run row now stamped =
      .ok ({ new with updatedAt := stamped }, call.issued { new with updatedAt := stamped }) := by
  simp only [OutboxCall.run, hwritten, hallowed]

/-- What a run keeps of its row and of the commands it has returned. -/
structure RunKept (row : OutboxRow) (past : List ClaimedOutboxCommand) : Prop where
  token : row.TokenOfVersion
  issued : ∀ command ∈ past, command.toClaimFields.Of row

/-- An older command stays one of the row. -/
theorem ClaimFields.Of.later {command : ClaimFields} (h : command.Of row)
    (hidentity : new.identity = row.identity)
    (hversion : new.deliveryVersion = row.deliveryVersion + 1) : command.Of new := by
  have hcolumns := OutboxIdentity.mk.inj hidentity
  refine ⟨h.jobId.trans hcolumns.1.symm, h.merchantId.trans hcolumns.2.1.symm,
    h.maxAttempts.trans hcolumns.2.2.2.2.2.2.2.1.symm, ?_, ?_⟩
  · rw [hversion]
    exact h.deliveryVersion.trans (Nat.le_succ _)
  · intro hsame
    have hless := h.deliveryVersion
    omega

/-- A command that is read of a row is of that row. -/
theorem of_claimedCommand {command : ClaimedOutboxCommand}
    (h : row.claimedCommand = .ok command) : command.toClaimFields.Of row := by
  unfold OutboxRow.claimedCommand at h
  split at h
  next =>
    obtain ⟨hvalid, rfl⟩ := construct_ok_iff.mp h
    exact ⟨rfl, rfl, rfl, le_rfl, fun _ => rfl⟩
  next => exact absurd h (by simp)

theorem tokenOfVersion_claimed (terms : ClaimTerms) (expiresAt : Timestamp) :
    (row.claimed terms now expiresAt).TokenOfVersion := by
  unfold OutboxRow.claimed
  split
  next =>
    intro token htoken
    exact absurd htoken (by simp)
  next =>
    intro token htoken
    exact ⟨terms.leaseNonce, (Option.some.inj htoken).symm⟩

/-- One call keeps it. -/
theorem RunKept.run {past issued : List ClaimedOutboxCommand} (h : RunKept row past)
    (hrun : call.run row now stamped = .ok (next, issued)) : RunKept next (issued ++ past) := by
  rcases run_ok hrun with ⟨rfl, rfl⟩ | ⟨new, hwritten, -, rfl, rfl⟩
  · exact h
  · have hadmissible := (admissible_of_written h.token hwritten).1
    have hpast : ∀ command ∈ past, command.toClaimFields.Of { new with updatedAt := stamped } := by
      intro command hmem
      exact (h.issued command hmem).later hadmissible.identity hadmissible.deliveryVersion
    rcases written_cases hwritten with
      ⟨terms, expiresAt, rfl, -, rfl⟩ | ⟨command, hcommand, hsettles⟩
    · refine ⟨tokenOfVersion_claimed terms expiresAt, ?_⟩
      intro command hmem
      rcases List.mem_append.mp hmem with hmem | hmem
      · have hread := Option.mem_toList.mp hmem
        exact of_claimedCommand (toOption_eq_some_iff.mp hread)
      · exact hpast command hmem
    · refine ⟨?_, ?_⟩
      · intro token htoken
        have hnone : new.leaseToken = some token := htoken
        rw [hsettles.leaseToken] at hnone
        exact absurd hnone (by simp)
      · intro other hmem
        rcases List.mem_append.mp hmem with hmem | hmem
        · cases call with
          | claim terms => exact absurd hcommand (by simp [OutboxCall.command])
          | complete => exact absurd hmem List.not_mem_nil
          | retry => exact absurd hmem List.not_mem_nil
          | deadLetter => exact absurd hmem List.not_mem_nil
        · exact hpast other hmem

/-- **So does a run.** -/
theorem runKept_of_delivered {clock : Timestamp → Timestamp → Prop} {inserted : OutboxRow}
    {past : List ClaimedOutboxCommand} (hinserted : inserted.Inserted)
    (h : Delivered clock inserted row past) : RunKept row past := by
  induction h with
  | inserted =>
    refine ⟨?_, fun command hmem => absurd hmem List.not_mem_nil⟩
    intro token htoken
    rw [hinserted.noLease.2.1] at htoken
    exact absurd htoken (by simp)
  | called before known read run ih => exact ih.run run

end

end Retrywise.ControlPlane
