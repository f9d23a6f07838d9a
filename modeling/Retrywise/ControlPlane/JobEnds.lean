import Retrywise.ControlPlane.Outbox

/-!
# How a held job ends

A delivery ends its job in one of three ways, and each of them can be refused: by the
fence, by the checks of the row that is to be written, or because the time of the next
attempt is past the end of the calendar. While the worker holds the job only the texts
and the calendar are left.

> `Held.requeue_iff`: a held job is put back, or dead-lettered on its last attempt,
> exactly when the reason is clean, leaves room for the prefix on the last attempt,
> and there is a time for the next one otherwise.
-/

namespace Retrywise.ControlPlane

open Retrywise.Foundation Retrywise.Domain

/-! ## Composed texts -/

/-- Whether graphic text is clean is a question of its length. -/
theorem isCleanText_iff_of_graphic {maximum : Nat} {value : String} (hsome : value.toList ≠ [])
    (hall : ∀ c ∈ value.toList, 33 ≤ c.toNat ∧ c.toNat < 127) :
    isCleanText maximum value = true ↔ value.toList.length ≤ maximum := by
  constructor
  · intro h
    simp only [isCleanText, Bool.and_eq_true, decide_eq_true_eq] at h
    exact h.1.2
  · intro hlen
    exact isCleanText_of_graphic hsome hlen hall

/-- Clean text behind a graphic prefix is clean, if there is room for both. -/
theorem isCleanText_append {lead text : String} {length maximum : Nat}
    (hlead : lead.toList.all (fun c => decide (33 ≤ c.toNat) && decide (c.toNat < 127)) = true)
    (hsome : lead.toList ≠ []) (htext : isCleanText length text = true)
    (hroom : lead.toList.length + length ≤ maximum) :
    isCleanText maximum (lead ++ text) = true := by
  simp only [isCleanText, Bool.and_eq_true, decide_eq_true_eq, Bool.not_eq_true',
    List.all_eq_true] at htext ⊢
  obtain ⟨⟨⟨⟨hfull, -⟩, hlast⟩, hlen⟩, hall⟩ := htext
  have hgraphic : ∀ c ∈ lead.toList, 33 ≤ c.toNat ∧ c.toNat < 127 := by
    intro c hc
    simpa using List.all_eq_true.mp hlead c hc
  have hchars : (lead ++ text).toList = lead.toList ++ text.toList := String.toList_append
  rw [hchars]
  refine ⟨⟨⟨⟨?_, ?_⟩, ?_⟩, ?_⟩, ?_⟩
  · intro hnil
    exact hsome (List.append_eq_nil_iff.mp hnil).1
  · -- the first character is one of the prefix
    cases hfirst : lead.toList with
    | nil => exact absurd hfirst hsome
    | cons c rest =>
      obtain ⟨hlo, hhi⟩ := hgraphic c (by rw [hfirst]; exact List.mem_cons_self ..)
      rw [List.cons_append, List.head?_cons, Option.any_some]
      simp only [isSpace, Bool.or_eq_false_iff, Bool.and_eq_false_iff, decide_eq_false_iff_not]
      omega
  · rw [List.getLast?_append_of_ne_nil _ hfull]
    exact hlast
  · rw [List.length_append]
    omega
  · intro c hc
    rcases List.mem_append.mp hc with hc | hc
    · obtain ⟨hlo, hhi⟩ := hgraphic c hc
      exact ⟨by omega, by omega⟩
    · exact hall c hc

/-! ## Delays -/

/-- A delay is never negative, and never longer than the policy's maximum. -/
theorem BackoffPolicy.doubled_bounds (policy : BackoffPolicy) (n : Nat) :
    ∀ delay : Timedelta, (0 : Int) ≤ delay →
      (0 : Int) ≤ policy.doubled delay n ∧
        (policy.doubled delay n : Int) ≤ policy.maximumDelay := by
  have hmaximum : (0 : Int) ≤ policy.maximumDelay :=
    Int.le_of_lt (lt_of_lt_of_le policy.positive policy.bounded)
  induction n with
  | zero =>
    intro delay hdelay
    rw [BackoffPolicy.doubled]
    exact ⟨le_min hdelay hmaximum, min_le_right _ _⟩
  | succ n ih =>
    intro delay hdelay
    rw [BackoffPolicy.doubled]
    split
    next => exact ⟨hmaximum, le_refl _⟩
    next => exact ih _ (Int.mul_nonneg hdelay (by decide))

theorem BackoffPolicy.delayAfter_nonneg (policy : BackoffPolicy) (attempts : Nat) :
    (0 : Int) ≤ policy.delayAfter attempts :=
  (policy.doubled_bounds _ _ (Int.le_of_lt policy.positive)).1

/-- A shift into the future leaves the calendar only at its end. -/
theorem exists_shift_iff {t : Timestamp} {d : Timedelta} (hd : (0 : Int) ≤ d) :
    (∃ u, shift t d = .ok u) ↔ t.micros + d < calendarEnd := by
  constructor
  · intro h
    obtain ⟨u, hu⟩ := h
    rw [← shift_ok_iff.mp hu]
    exact u.inRange
  · intro hlate
    have hnonneg := t.nonneg
    exact ⟨⟨t.micros + d, by omega, hlate⟩, shift_ok_iff.mpr rfl⟩

@[simp] theorem JobFields.optionalClean_ok_iff {value : Option String} {field : String} {u : Unit} :
    optionalClean value field = .ok u ↔ value.all (isCleanText 512) = true := by
  cases value with
  | none => simp [optionalClean]
  | some text => simp [optionalClean, requireText]

namespace OutboxJob

/-- The worker has the job under a lease that still runs, and its clock is not behind
the last write of the job. -/
structure Held (job : OutboxJob) (workerId : String) (now : Timestamp) : Prop where
  lease : job.assertActiveLease workerId job.tokenOrMissing now = .ok ()
  forward : job.updatedAt ≤ now

namespace Held

variable {job : OutboxJob} {workerId : String} {now : Timestamp}

theorem leased (h : job.Held workerId now) : job.state = .leased := by
  obtain ⟨-, -, hlease⟩ := bind_ok_iff.mp h.lease
  obtain ⟨-, -, hlease⟩ := bind_ok_iff.mp hlease
  obtain ⟨_, hstate, -⟩ := bind_ok_iff.mp hlease
  exact not_not.mp (raiseIf_ok_iff.mp hstate)

theorem checkTransition (h : job.Held workerId now) :
    job.checkTransition job.version now = .ok () := by
  simp only [OutboxJob.checkTransition, bind_ok_iff, raiseIf_ok_iff]
  exact ⟨(), not_not.mpr rfl, not_lt.mpr h.forward⟩

/-- A leased job has no terminal metadata yet. -/
theorem unsettled (h : job.Held workerId now) :
    job.completionReference = none ∧ job.deadLetterReason = none := by
  have hvalid := job.valid
  simp only [JobFields.postInit, requireText, bind_ok_iff, raiseIf_ok_iff, exists_and_left,
    exists_const] at hvalid
  obtain ⟨-, -, -, -, -, -, _, -, _, -, _, -, _, -, _, -, hstate⟩ := hvalid
  simp only [JobFields.checkState, h.leased, bind_ok_iff, raiseIf_ok_iff, exists_and_left,
    exists_const, not_or, not_not] at hstate
  exact hstate.2.2.2

/-- The next row is held to the texts that are new and to the fields of its state. -/
theorem postInit_iff (h : job.Held workerId now) {state : OutboxState}
    {availableAt : Option Timestamp} {mode : RetryMode}
    {lastError completion reason : Option String} :
    ({ job.released now with
        state, availableAt, retryMode := mode, lastError
        completionReference := completion
        deadLetterReason := reason } : JobFields).postInit = .ok () ↔
      (lastError.all (isCleanText 512) = true ∧ completion.all (isCleanText 512) = true ∧
        reason.all (isCleanText 512) = true) ∧
        ({ job.released now with
          state, availableAt, retryMode := mode, lastError
          completionReference := completion
          deadLetterReason := reason } : JobFields).checkState = .ok () := by
  have hvalid := job.valid
  simp only [JobFields.postInit, requireText, bind_ok_iff, raiseIf_ok_iff, not_not,
    exists_and_left, exists_const] at hvalid ⊢
  obtain ⟨hid, hkey, hdigest, hmax, hmost, hlater, -⟩ := hvalid
  have hcreated : ¬now < job.createdAt := not_lt.mpr ((not_lt.mp hlater).trans h.forward)
  simp only [OutboxJob.released, JobFields.optionalClean_ok_iff, hid, hkey, hdigest, hmax, hmost,
    hcreated, Option.all_none, not_false_eq_true, true_and, exists_and_left, exists_const,
    and_assoc]

/-! ## The three ends -/

/-- A held job is completed with any clean reference. -/
theorem exists_complete (h : job.Held workerId now) {reference : String}
    (hclean : isCleanText 512 reference = true) :
    ∃ updated, job.complete workerId job.tokenOrMissing now job.version reference = .ok updated ∧
      updated.state = .completed ∧ updated.version = job.version + 1 := by
  obtain ⟨hcompletion, hreason⟩ := h.unsettled
  have hvalid : ({ job.released now with
      state := .completed
      lastError := none
      completionReference := some reference } : JobFields).postInit = .ok () := by
    refine h.postInit_iff.mpr ⟨⟨rfl, hclean, ?_⟩, ?_⟩
    · show job.deadLetterReason.all _ = true
      rw [hreason]
      rfl
    · simp only [JobFields.checkState, JobFields.noLease, OutboxJob.released, bind_ok_iff,
        raiseIf_ok_iff, hreason]
      exact ⟨(), by simp, by simp⟩
  refine ⟨⟨_, hvalid⟩, ?_, rfl, rfl⟩
  have htext : requireText reference "result_reference" = .ok () :=
    raiseIf_of_not _ (not_not.mpr hclean)
  rw [complete, bind_of_ok htext, if_neg (by rw [h.leased]; simp), bind_of_ok h.checkTransition,
    bind_of_ok h.lease]
  exact JobFields.build_ok_iff.mpr rfl

theorem clean_of_deadLetter {leaseToken reason : String} {version : Nat} {updated : OutboxJob}
    (h : job.deadLetter workerId leaseToken now version reason = .ok updated) :
    isCleanText 512 reason = true := by
  obtain ⟨_, htext, -⟩ := bind_ok_iff.mp h
  exact not_not.mp (raiseIf_ok_iff.mp htext)

/-- A held job is dead-lettered for any clean reason, and for no other. -/
theorem deadLetter_iff (h : job.Held workerId now) {reason : String} :
    (∃ updated, job.deadLetter workerId job.tokenOrMissing now job.version reason = .ok updated ∧
      updated.state = .deadLetter ∧ updated.version = job.version + 1) ↔
    isCleanText 512 reason = true := by
  constructor
  · intro hdead
    obtain ⟨updated, hupdated, -⟩ := hdead
    exact clean_of_deadLetter hupdated
  · intro hclean
    have hvalid : ({ job.released now with
        state := .deadLetter
        lastError := some reason
        deadLetterReason := some reason } : JobFields).postInit = .ok () := by
      obtain ⟨hcompletion, -⟩ := h.unsettled
      refine h.postInit_iff.mpr ⟨⟨hclean, ?_, hclean⟩, ?_⟩
      · show job.completionReference.all _ = true
        rw [hcompletion]
        rfl
      · simp only [JobFields.checkState, JobFields.noLease, OutboxJob.released, bind_ok_iff,
          raiseIf_ok_iff, hcompletion]
        exact ⟨(), by simp, by simp⟩
    refine ⟨⟨_, hvalid⟩, ?_, rfl, rfl⟩
    have htext : requireText reason "reason" = .ok () :=
      raiseIf_of_not _ (not_not.mpr hclean)
    rw [deadLetter, bind_of_ok htext, if_neg (by rw [h.leased]; simp),
      bind_of_ok h.checkTransition, bind_of_ok h.lease]
    exact JobFields.build_ok_iff.mpr rfl

/-- What a job that was put back, or dead-lettered on its last attempt, had room for. -/
theorem room_of_requeue (h : job.Held workerId now) {leaseToken reason : String} {version : Nat}
    {backoff : BackoffPolicy} {mode : RetryMode} {updated : OutboxJob}
    (hrequeued : job.requeue workerId leaseToken now version reason backoff mode = .ok updated) :
    isCleanText 512 reason = true ∧
      if job.maxAttempts ≤ job.attempts then
        isCleanText 512 s!"max_attempts_exhausted:{reason}" = true
      else now.micros + backoff.delayAfter job.attempts < calendarEnd := by
  unfold requeue at hrequeued
  obtain ⟨_, htext, hrequeued⟩ := bind_ok_iff.mp hrequeued
  obtain ⟨-, -, hrequeued⟩ := bind_ok_iff.mp hrequeued
  obtain ⟨-, -, hrequeued⟩ := bind_ok_iff.mp hrequeued
  refine ⟨not_not.mp (raiseIf_ok_iff.mp htext), ?_⟩
  by_cases hlast : job.maxAttempts ≤ job.attempts
  · rw [if_pos hlast]
    rw [if_pos (show job.attempts ≥ job.maxAttempts from hlast), JobFields.build_ok_iff]
      at hrequeued
    exact (h.postInit_iff.mp (hrequeued ▸ updated.valid)).1.2.2
  · rw [if_neg hlast]
    rw [if_neg (show ¬job.attempts ≥ job.maxAttempts from hlast)] at hrequeued
    obtain ⟨availableAt, hshift, -⟩ := bind_ok_iff.mp hrequeued
    exact (exists_shift_iff (backoff.delayAfter_nonneg _)).mp
      ⟨availableAt, liftDomain_ok_iff.mp hshift⟩

/-- A held job is put back, or dead-lettered on its last attempt, if the reason is
clean there too and the next attempt has a time. -/
theorem requeue_iff (h : job.Held workerId now) {reason : String} {backoff : BackoffPolicy}
    {mode : RetryMode} :
    (∃ updated, job.requeue workerId job.tokenOrMissing now job.version reason backoff mode =
        .ok updated ∧ updated.version = job.version + 1 ∧
      updated.state = if job.maxAttempts ≤ job.attempts then .deadLetter else .pending) ↔
    isCleanText 512 reason = true ∧
      if job.maxAttempts ≤ job.attempts then
        isCleanText 512 s!"max_attempts_exhausted:{reason}" = true
      else now.micros + backoff.delayAfter job.attempts < calendarEnd := by
  obtain ⟨hcompletion, hdead⟩ := h.unsettled
  constructor
  · intro hrequeued
    obtain ⟨updated, hupdated, -⟩ := hrequeued
    exact h.room_of_requeue hupdated
  · intro hroom
    obtain ⟨hclean, hroom⟩ := hroom
    have htext : requireText reason "reason" = .ok () :=
      raiseIf_of_not _ (not_not.mpr hclean)
    rw [requeue, bind_of_ok htext, bind_of_ok h.checkTransition, bind_of_ok h.lease]
    by_cases hlast : job.maxAttempts ≤ job.attempts
    · -- the last attempt: the reason is written behind a prefix
      rw [if_pos hlast] at hroom
      rw [if_pos hlast, if_pos (show job.attempts ≥ job.maxAttempts from hlast)]
      have hvalid : ({ job.released now with
          state := .deadLetter
          retryMode := mode
          lastError := some reason
          deadLetterReason := some s!"max_attempts_exhausted:{reason}" } :
            JobFields).postInit = .ok () := by
        refine h.postInit_iff.mpr ⟨⟨hclean, ?_, hroom⟩, ?_⟩
        · show job.completionReference.all _ = true
          rw [hcompletion]
          rfl
        · simp only [JobFields.checkState, JobFields.noLease, OutboxJob.released, bind_ok_iff,
            raiseIf_ok_iff, hcompletion]
          exact ⟨(), by simp, by simp⟩
      exact ⟨⟨_, hvalid⟩, JobFields.build_ok_iff.mpr rfl, rfl, rfl⟩
    · rw [if_neg hlast] at hroom
      rw [if_neg hlast, if_neg (show ¬job.attempts ≥ job.maxAttempts from hlast)]
      obtain ⟨availableAt, hshift⟩ := (exists_shift_iff (backoff.delayAfter_nonneg _)).mpr hroom
      rw [bind_of_ok (liftDomain_ok_iff.mpr hshift)]
      have hvalid : ({ job.released now with
          state := .pending
          availableAt := some availableAt
          retryMode := mode
          lastError := some reason } : JobFields).postInit = .ok () := by
        refine h.postInit_iff.mpr ⟨⟨hclean, ?_, ?_⟩, ?_⟩
        · show job.completionReference.all _ = true
          rw [hcompletion]
          rfl
        · show job.deadLetterReason.all _ = true
          rw [hdead]
          rfl
        · simp only [JobFields.checkState, JobFields.noLease, OutboxJob.released, bind_ok_iff,
            raiseIf_ok_iff, hcompletion, hdead]
          exact ⟨(), by simp, (), by omega, by simp⟩
      exact ⟨⟨_, hvalid⟩, JobFields.build_ok_iff.mpr rfl, rfl, rfl⟩

end Held

end OutboxJob

end Retrywise.ControlPlane
