import Retrywise.ControlPlane.OutboxTrigger

/-!
# What the statements do

A statement writes exactly where the repository takes its arguments and the row passes its
predicate; a settlement of any other row has lost its fence, and a claim passes it over. What
is written is stored unless the clock is behind the row.

> `exists_written`, `accepted_of_written`: a statement writes where the arguments are accepted
> and the row passes, and nowhere else.
>
> `written_of_fails`: a row that does not pass is left as it is.
-/

namespace Retrywise.ControlPlane

open Retrywise.Foundation Retrywise.Domain

namespace OutboxCall

/-- The repository takes the arguments, and the times it computes are in the calendar. -/
def Accepted (now : Timestamp) : OutboxCall → Prop
  | .claim terms =>
    terms.check = .ok () ∧ ∃ expiresAt, shift now terms.leaseDuration = .ok expiresAt
  | .complete _ completionReference => isCleanText 500 completionReference = true
  | .retry backoff command reason _ => isCleanText 500 reason = true ∧
      if command.attemptCount ≥ command.maxAttempts then
        isCleanText 500 (OutboxRow.prefixedReason "max_attempts_exhausted" reason) = true
      else ∃ nextAttemptAt, shift now (backoff.delayAfter command.attemptCount) = .ok nextAttemptAt
  | .deadLetter _ reason => isCleanText 500 reason = true

/-- `WHERE` of the statement. -/
def passes (row : OutboxRow) (now : Timestamp) : OutboxCall → Bool
  | .claim _ => row.claimable now
  | .complete command _ | .retry _ command _ _ | .deadLetter command _ =>
    row.heldBy command.jobId command.merchantId command.deliveryVersion command.workerId
      command.leaseToken now

/-- The name a settlement is refused under. -/
def operation : OutboxCall → String
  | .claim _ => "claim"
  | .complete _ _ => "complete"
  | .retry _ command _ _ =>
    if command.attemptCount ≥ command.maxAttempts then "dead_letter" else "retry"
  | .deadLetter _ _ => "dead_letter"

end OutboxCall

section

variable {row new : OutboxRow} {call : OutboxCall} {now : Timestamp}
  {command : ClaimedOutboxCommand}

/-! ## Rows that pass -/

theorem ClaimTerms.check_ok_iff {terms : ClaimTerms} : terms.check = .ok () ↔
    isCleanText 128 terms.workerId = true ∧ 0 < terms.leaseDuration ∧
      terms.leaseDuration ≤ minutes 15 ∧ isCleanText 96 terms.leaseNonce = true := by
  simp only [ClaimTerms.check, bind_ok_iff, requireCleanText_ok_iff, raiseIf_ok_iff, not_le, not_lt,
    exists_and_left, exists_const]

/-- The statement of a settlement writes to a row that is held. -/
theorem settleWith_of_held {claim : ClaimFields} {operation : String}
    {assign : OutboxRow → OutboxRow}
    (h : row.heldBy claim.jobId claim.merchantId claim.deliveryVersion claim.workerId
      claim.leaseToken now = true) :
    row.settleWith claim now operation assign = .ok (assign (row.released now)) := if_pos h

theorem written_claim {terms : ClaimTerms} {expiresAt : Timestamp} (hterms : terms.check = .ok ())
    (hexpires : shift now terms.leaseDuration = .ok expiresAt) (hdue : row.claimable now = true) :
    (OutboxCall.claim terms).written row now = .ok (some (row.claimed terms now expiresAt)) := by
  refine bind_ok_iff.mpr ⟨(), hterms, ?_⟩
  rw [if_pos hdue]
  exact bind_ok_iff.mpr ⟨expiresAt, liftDomain_ok_iff.mpr hexpires, rfl⟩

section

variable {reason : String} (hheld : row.heldBy command.jobId command.merchantId
  command.deliveryVersion command.workerId command.leaseToken now = true)

include hheld

theorem written_complete {completionReference : String}
    (htext : isCleanText 500 completionReference = true) :
    (OutboxCall.complete command completionReference).written row now =
      .ok (some { row.released now with
        status := .succeeded
        completionReference := some completionReference
        completedAt := some now }) :=
  map_ok_iff.mpr ⟨_, bind_ok_iff.mpr
    ⟨(), requireCleanText_ok_iff.mpr htext, settleWith_of_held hheld⟩, rfl⟩

theorem written_deadLetter (htext : isCleanText 500 reason = true) :
    (OutboxCall.deadLetter command reason).written row now =
      .ok (some { row.released now with
        status := .deadLetter
        retryMode := .reconcileOnly
        lastErrorCode := some reason
        lastErrorAt := some now
        deadLetteredAt := some now
        deadLetterReason := some reason }) :=
  map_ok_iff.mpr ⟨_, bind_ok_iff.mpr
    ⟨(), requireCleanText_ok_iff.mpr htext, settleWith_of_held hheld⟩, rfl⟩

variable (backoff : BackoffPolicy) (retryMode : RetryMode)

omit hheld in
/-- The retry of the last attempt is `dead_letter`. -/
theorem written_retry_last (htext : isCleanText 500 reason = true)
    (hlast : command.attemptCount ≥ command.maxAttempts) :
    (OutboxCall.retry backoff command reason retryMode).written row now =
      (OutboxCall.deadLetter command
        (OutboxRow.prefixedReason "max_attempts_exhausted" reason)).written row now := by
  refine congrArg (Except.map some) ?_
  rw [OutboxRow.retry, bind_of_ok ((requireCleanText_ok_iff (u := ())).mpr htext), if_pos hlast]

theorem written_retry {nextAttemptAt : Timestamp} (htext : isCleanText 500 reason = true)
    (hleft : ¬command.attemptCount ≥ command.maxAttempts)
    (hshift : shift now (backoff.delayAfter command.attemptCount) = .ok nextAttemptAt) :
    (OutboxCall.retry backoff command reason retryMode).written row now =
      .ok (some { row.released now with
        status := .retryScheduled
        retryMode := retryMode
        nextAttemptAt := nextAttemptAt
        lastErrorCode := some reason
        lastErrorAt := some now }) := by
  refine congrArg (Except.map some) (?_ : _ = Except.ok _)
  rw [OutboxRow.retry, bind_of_ok ((requireCleanText_ok_iff (u := ())).mpr htext), if_neg hleft,
    bind_of_ok (liftDomain_ok_iff.mpr hshift)]
  exact settleWith_of_held hheld

end

/-- A statement writes to a row that passes. -/
theorem exists_written (haccepted : call.Accepted now) (hpasses : call.passes row now = true) :
    ∃ new, call.written row now = .ok (some new) := by
  cases call with
  | claim terms =>
    obtain ⟨hterms, expiresAt, hexpires⟩ := haccepted
    exact ⟨_, written_claim hterms hexpires hpasses⟩
  | complete command completionReference => exact ⟨_, written_complete hpasses haccepted⟩
  | retry backoff command reason retryMode =>
    obtain ⟨htext, hroom⟩ := haccepted
    by_cases hlast : command.attemptCount ≥ command.maxAttempts
    · rw [if_pos hlast] at hroom
      exact ⟨_, (written_retry_last backoff retryMode htext hlast).trans
        (written_deadLetter hpasses hroom)⟩
    · rw [if_neg hlast] at hroom
      obtain ⟨nextAttemptAt, hshift⟩ := hroom
      exact ⟨_, written_retry hpasses backoff retryMode htext hlast hshift⟩
  | deadLetter command reason => exact ⟨_, written_deadLetter hpasses haccepted⟩

/-! ## Rows that do not -/

theorem settleWith_of_not_held {claim : ClaimFields} {operation : String}
    {assign : OutboxRow → OutboxRow}
    (h : row.heldBy claim.jobId claim.merchantId claim.deliveryVersion claim.workerId
      claim.leaseToken now = false) :
    row.settleWith claim now operation assign =
      .error (.outboxFenceLost s!"{operation} lost its fenced lease") :=
  if_neg (by rw [h]; decide)

/-- A claim passes over a row that does not pass; a settlement raises. -/
theorem written_of_fails (haccepted : call.Accepted now) (hfails : call.passes row now = false) :
    call.written row now = if call.command = none then .ok none
      else .error (.outboxFenceLost s!"{call.operation} lost its fenced lease") := by
  have hdead : ∀ {command : ClaimedOutboxCommand} {reason : String},
      isCleanText 500 reason = true →
      row.heldBy command.jobId command.merchantId command.deliveryVersion command.workerId
        command.leaseToken now = false →
      row.deadLetter command.toClaimFields now reason =
        .error (.outboxFenceLost "dead_letter lost its fenced lease") := by
    intro command reason htext hnot
    rw [OutboxRow.deadLetter, bind_of_ok ((requireCleanText_ok_iff (u := ())).mpr htext)]
    exact settleWith_of_not_held hnot
  cases call with
  | claim terms =>
    have hnot : ¬row.claimable now = true := by
      rw [show row.claimable now = false from hfails]
      decide
    refine bind_ok_iff.mpr ⟨(), haccepted.1, ?_⟩
    rw [if_neg hnot]
    rfl
  | complete command completionReference =>
    refine congrArg (Except.map some) (?_ : _ = Except.error _)
    rw [OutboxRow.complete, bind_of_ok ((requireCleanText_ok_iff (u := ())).mpr haccepted),
      settleWith_of_not_held hfails]
    rfl
  | retry backoff command reason retryMode =>
    obtain ⟨htext, hroom⟩ := haccepted
    refine congrArg (Except.map some) (?_ : _ = Except.error _)
    rw [OutboxRow.retry, bind_of_ok ((requireCleanText_ok_iff (u := ())).mpr htext),
      OutboxCall.operation]
    by_cases hlast : command.attemptCount ≥ command.maxAttempts
    · rw [if_pos hlast] at hroom
      rw [if_pos hlast, if_pos hlast]
      exact hdead hroom hfails
    · rw [if_neg hlast] at hroom
      obtain ⟨nextAttemptAt, hshift⟩ := hroom
      rw [if_neg hlast, if_neg hlast, bind_of_ok (liftDomain_ok_iff.mpr hshift)]
      exact settleWith_of_not_held hfails
  | deadLetter command reason =>
    exact congrArg (Except.map some) (hdead haccepted hfails)

/-! ## Back from what is written -/

theorem held_of_settleWith {claim : ClaimFields} {operation : String}
    {assign : OutboxRow → OutboxRow} (h : row.settleWith claim now operation assign = .ok new) :
    row.heldBy claim.jobId claim.merchantId claim.deliveryVersion claim.workerId
      claim.leaseToken now = true := by
  unfold OutboxRow.settleWith at h
  split_ifs at h with hheld
  exact hheld

theorem held_of_deadLetter {claim : ClaimFields} {reason : String}
    (h : row.deadLetter claim now reason = .ok new) : isCleanText 500 reason = true ∧
      row.heldBy claim.jobId claim.merchantId claim.deliveryVersion claim.workerId
        claim.leaseToken now = true := by
  obtain ⟨_, htext, hsettled⟩ := bind_ok_iff.mp h
  exact ⟨requireCleanText_ok_iff.mp htext, held_of_settleWith hsettled⟩

/-- A statement that writes has accepted arguments and a row that passes. -/
theorem accepted_of_written (h : call.written row now = .ok (some new)) :
    call.Accepted now ∧ call.passes row now = true := by
  cases call with
  | claim terms =>
    obtain ⟨_, hterms, hrest⟩ := bind_ok_iff.mp h
    by_cases hdue : row.claimable now = true
    · rw [if_pos hdue] at hrest
      obtain ⟨expiresAt, hexpires, -⟩ := bind_ok_iff.mp hrest
      exact ⟨⟨hterms, expiresAt, liftDomain_ok_iff.mp hexpires⟩, hdue⟩
    · rw [if_neg hdue] at hrest
      exact absurd (pure_ok_iff.mp hrest) (by simp)
  | complete command completionReference =>
    obtain ⟨_, hcompleted, -⟩ := map_ok_iff.mp h
    obtain ⟨_, htext, hsettled⟩ := bind_ok_iff.mp hcompleted
    exact ⟨requireCleanText_ok_iff.mp htext, held_of_settleWith hsettled⟩
  | retry backoff command reason retryMode =>
    obtain ⟨_, hretried, -⟩ := map_ok_iff.mp h
    obtain ⟨_, htext, hrest⟩ := bind_ok_iff.mp hretried
    rw [OutboxCall.Accepted]
    by_cases hlast : command.attemptCount ≥ command.maxAttempts
    · rw [if_pos hlast] at hrest ⊢
      obtain ⟨hcut, hheld⟩ := held_of_deadLetter hrest
      exact ⟨⟨requireCleanText_ok_iff.mp htext, hcut⟩, hheld⟩
    · rw [if_neg hlast] at hrest ⊢
      obtain ⟨nextAttemptAt, hshift, hsettled⟩ := bind_ok_iff.mp hrest
      exact ⟨⟨requireCleanText_ok_iff.mp htext, nextAttemptAt, liftDomain_ok_iff.mp hshift⟩,
        held_of_settleWith hsettled⟩
  | deadLetter command reason =>
    obtain ⟨_, hdead, -⟩ := map_ok_iff.mp h
    exact held_of_deadLetter hdead

/-! ## Behind the clock -/

/-- Behind the last write of the row the trigger refuses what is written. -/
theorem run_behind {stamped : Timestamp} (htoken : row.TokenOfVersion)
    (haccepted : call.Accepted now) (hpasses : call.passes row now = true)
    (hclock : now < row.updatedAt) :
    call.run row now stamped = .error (.database OutboxRow.clockBackwards) := by
  obtain ⟨new, hwritten⟩ := exists_written haccepted hpasses
  obtain ⟨hadmissible, hnow⟩ := admissible_of_written htoken hwritten
  have hrefused : row.enforceLifecycle new = .error OutboxRow.clockBackwards := by
    rw [OutboxRow.enforce_of_admissible hadmissible, hnow]
    exact if_pos hclock
  simp only [OutboxCall.run, hwritten, hrefused]

end

end Retrywise.ControlPlane
