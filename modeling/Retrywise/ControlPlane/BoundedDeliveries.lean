import Retrywise.ControlPlane.OutboxLeases

/-!
# How long a job can go on

Every call that returns something new makes the next version, and every lease uses up an
attempt. A lease and its end are two versions for one attempt, so a job has at most twice
as many versions as it has attempts; and one that has ended stays as it is.

A call can also raise because of the row it would write: there is one, the retry of a last
attempt, that writes its reason behind a prefix and leaves no room for it.

> `deliveries_bounded_iff`: whatever was called on a job, it is bounded by its attempts, and
> the next call raises because of its row exactly when it gives a last attempt up for a
> reason of more than 489 characters.
-/

namespace Retrywise.ControlPlane

open Retrywise.Foundation Retrywise.Domain

/-! ## What the constructor asks for -/

theorem JobFields.postInit_ok_iff {j : JobFields} {u : Unit} :
    j.postInit = .ok u ↔
      isCleanText 128 j.jobId = true ∧ isCleanText 128 j.actionKey = true ∧
        isDigest j.payloadDigest = true ∧ 1 ≤ j.maxAttempts ∧ j.attempts ≤ j.maxAttempts ∧
        j.createdAt ≤ j.updatedAt ∧ j.leaseOwner.all (isCleanText 512) = true ∧
        j.leaseToken.all (isCleanText 512) = true ∧ j.lastError.all (isCleanText 512) = true ∧
        j.completionReference.all (isCleanText 512) = true ∧
        j.deadLetterReason.all (isCleanText 512) = true ∧ j.checkState = .ok () := by
  simp only [JobFields.postInit, requireText, bind_ok_iff, raiseIf_ok_iff, not_not, not_lt,
    JobFields.optionalClean_ok_iff, exists_and_left, exists_const]

/-- The fields a leased job comes with. -/
theorem JobFields.checkState_leased_iff {j : JobFields} {u : Unit} (h : j.state = .leased) :
    j.checkState = .ok u ↔
      (j.availableAt = none ∧ j.leaseOwner ≠ none ∧ j.leaseToken ≠ none ∧
        j.leaseExpiresAt ≠ none) ∧ 1 ≤ j.attempts ∧
      (∀ expiry, j.leaseExpiresAt = some expiry → j.updatedAt < expiry) ∧
      j.completionReference = none ∧ j.deadLetterReason = none := by
  have hlate : ¬(j.leaseExpiresAt.any fun expiry => expiry ≤ j.updatedAt) = true ↔
      ∀ expiry, j.leaseExpiresAt = some expiry → j.updatedAt < expiry := by
    cases j.leaseExpiresAt with
    | none => simp
    | some expiry => simp
  simp only [JobFields.checkState, h, bind_ok_iff, raiseIf_ok_iff, hlate, not_or, not_not, not_lt,
    exists_and_left, exists_const]

/-- The fields a pending job comes with. -/
theorem JobFields.checkState_pending_iff {j : JobFields} {u : Unit} (h : j.state = .pending) :
    j.checkState = .ok u ↔
      (j.availableAt ≠ none ∧ j.noLease = true) ∧ j.attempts < j.maxAttempts ∧
        j.completionReference = none ∧ j.deadLetterReason = none := by
  simp only [JobFields.checkState, h, bind_ok_iff, raiseIf_ok_iff, not_or, not_not, not_le,
    Bool.not_eq_false, ge_iff_le, exists_and_left, exists_const]

namespace OutboxJob

variable {job : OutboxJob} {now : Timestamp}

/-- A job that can still be claimed has no end on record. -/
theorem Ready.unsettled (h : job.Ready now) :
    job.completionReference = none ∧ job.deadLetterReason = none := by
  have hstate := (JobFields.postInit_ok_iff.mp job.valid).2.2.2.2.2.2.2.2.2.2.2
  rcases h with ⟨hpending, -⟩ | ⟨hleased, -⟩
  · exact ((JobFields.checkState_pending_iff hpending).mp hstate).2.2
  · exact ((JobFields.checkState_leased_iff hleased).mp hstate).2.2.2

theorem attempts_le (job : OutboxJob) : job.attempts ≤ job.maxAttempts :=
  (JobFields.postInit_ok_iff.mp job.valid).2.2.2.2.1

/-- A job that waits has attempts left. -/
theorem attempts_lt_of_pending (h : job.state = .pending) : job.attempts < job.maxAttempts := by
  have hstate := (JobFields.postInit_ok_iff.mp job.valid).2.2.2.2.2.2.2.2.2.2.2
  exact ((JobFields.checkState_pending_iff h).mp hstate).2.1

/-- A terminal job is not claimed. -/
theorem Ready.not_terminal (h : job.Ready now) : ¬job.Terminal := by
  rintro (hend | hend)
  · rcases h with ⟨hstate, -⟩ | ⟨hstate, -⟩
    · exact absurd (hstate.symm.trans hend) (by simp)
    · exact absurd (hstate.symm.trans hend) (by simp)
  · rcases h with ⟨hstate, -⟩ | ⟨hstate, -⟩
    · exact absurd (hstate.symm.trans hend) (by simp)
    · exact absurd (hstate.symm.trans hend) (by simp)

theorem HeldBy.not_terminal {workerId leaseToken : String}
    (h : job.HeldBy workerId leaseToken now) : ¬job.Terminal := by
  rintro (hend | hend)
  · exact absurd (h.leased.symm.trans hend) (by simp)
  · exact absurd (h.leased.symm.trans hend) (by simp)

end OutboxJob

section

variable [Hashlib] {job updated : OutboxJob}

/-! ## Rows of a claim -/

omit [Hashlib] in
theorem isCleanText_leaseToken {digest : String} {maximum : Nat} (hroom : 70 ≤ maximum)
    (h : isDigest digest = true) : isCleanText maximum ("lease_" ++ digest) = true := by
  have hlead : "lease_".toList.length = 6 := by decide
  exact isCleanText_append_digest (by decide) h (by omega)

/-- A claim of a job with attempts left goes through. -/
theorem exists_leased {workerId : String} {now expiresAt : Timestamp} {leaseDuration : Timedelta}
    (hworker : isCleanText 128 workerId = true) (hforward : job.updatedAt ≤ now)
    (hpositive : 0 < leaseDuration) (hready : job.Ready now)
    (hleft : job.attempts < job.maxAttempts) (hexpires : shift now leaseDuration = .ok expiresAt) :
    ∃ updated, (job.leasedRow workerId now expiresAt).build = .ok updated := by
  obtain ⟨hid, hkey, hdigest, hmax, -, hcreated, -, -, herror, -, -, -⟩ :=
    JobFields.postInit_ok_iff.mp job.valid
  obtain ⟨hcompletion, -⟩ := hready.unsettled
  have hlater : now < expiresAt := by
    have hmicros := shift_ok_iff.mp hexpires
    rw [Timestamp.lt_iff]
    have hpositive : (0 : Int) < leaseDuration := hpositive
    omega
  have hvalid : (job.leasedRow workerId now expiresAt).postInit = .ok () := by
    refine JobFields.postInit_ok_iff.mpr ⟨hid, hkey, hdigest, hmax, ?_, hcreated.trans hforward,
      isCleanText_mono (by decide) hworker,
      isCleanText_leaseToken (by decide) (Hashlib.isDigest_sha256Hexdigest _), herror, ?_, rfl, ?_⟩
    · show job.attempts + 1 ≤ job.maxAttempts
      omega
    · show job.completionReference.all _ = true
      rw [hcompletion]
      rfl
    · refine (JobFields.checkState_leased_iff rfl).mpr ⟨⟨rfl, by simp [OutboxJob.leasedRow],
        by simp [OutboxJob.leasedRow], by simp [OutboxJob.leasedRow]⟩, ?_, ?_, hcompletion, rfl⟩
      · show 1 ≤ job.attempts + 1
        omega
      · intro expiry hexpiry
        obtain rfl := Option.some.inj (hexpiry : some expiresAt = some expiry)
        exact hlater
  exact ⟨⟨_, hvalid⟩, JobFields.build_ok_iff.mpr rfl⟩

/-- Until it runs out, a lease is held with its own token. -/
theorem heldBy_of_leased {workerId : String} {now later expiresAt : Timestamp}
    (hworker : isCleanText 128 workerId = true)
    (hbuild : (job.leasedRow workerId now expiresAt).build = .ok updated) (hlater : now ≤ later)
    (hruns : later < expiresAt) :
    ∃ leaseToken, updated.leaseToken = some leaseToken ∧
      updated.HeldBy workerId leaseToken later := by
  have hfields := JobFields.build_ok_iff.mp hbuild
  have hupdatedAt : updated.updatedAt = now := by
    rw [hfields]
    rfl
  refine ⟨_, by rw [hfields]; rfl, by rw [hupdatedAt]; exact hlater, ?_⟩
  refine OutboxJob.assertActiveLease_ok_iff.mpr ⟨hworker,
    isCleanText_leaseToken (by decide) (Hashlib.isDigest_sha256Hexdigest _), ?_, ?_, ?_,
    expiresAt, ?_, hruns⟩
  · rw [hfields]
    rfl
  · rw [hfields]
    rfl
  · rw [hfields]
    rfl
  · rw [hfields]
    rfl

omit [Hashlib] in
/-- A claim of a job without attempts left goes through too, and is its end. -/
theorem exists_exhausted {now : Timestamp} (hforward : job.updatedAt ≤ now)
    (hready : job.Ready now) : ∃ updated, (job.exhaustedRow now).build = .ok updated := by
  obtain ⟨hid, hkey, hdigest, hmax, hattempts, hcreated, -, -, herror, -, -, -⟩ :=
    JobFields.postInit_ok_iff.mp job.valid
  obtain ⟨hcompletion, -⟩ := hready.unsettled
  have hvalid : (job.exhaustedRow now).postInit = .ok () := by
    refine JobFields.postInit_ok_iff.mpr ⟨hid, hkey, hdigest, hmax, hattempts,
      hcreated.trans hforward, rfl, rfl, herror, ?_, ?_, ?_⟩
    · show job.completionReference.all _ = true
      rw [hcompletion]
      rfl
    · show isCleanText 512 "max_attempts_exhausted_after_stale_lease" = true
      decide
    · simp [JobFields.checkState, JobFields.noLease, OutboxJob.exhaustedRow, OutboxJob.released,
        hcompletion, raiseIf, bind_ok_iff]
  exact ⟨⟨_, hvalid⟩, JobFields.build_ok_iff.mpr rfl⟩

/-! ## Calls that raise because of their row -/

omit [Hashlib] in
/-- The prefix of an exhausted job leaves room for 489 characters. -/
theorem isCleanText_exhausted_iff {reason : String} (h : isCleanText 512 reason = true) :
    isCleanText 512 s!"max_attempts_exhausted:{reason}" = true ↔ reason.toList.length ≤ 489 := by
  have hlead : "max_attempts_exhausted:".toList.length = 23 := by decide
  constructor
  · intro hclean
    simp only [isCleanText, Bool.and_eq_true, decide_eq_true_eq] at hclean
    have hlength : ("max_attempts_exhausted:" ++ reason).toList.length ≤ 512 := hclean.1.2
    rw [String.toList_append, List.length_append, hlead] at hlength
    omega
  · intro hroom
    have hshort : isCleanText reason.toList.length reason = true := by
      simp only [isCleanText, Bool.and_eq_true, decide_eq_true_eq] at h ⊢
      exact ⟨⟨h.1.1, le_rfl⟩, h.2⟩
    refine isCleanText_append (by decide) (by decide) hshort ?_
    show "max_attempts_exhausted:".toList.length + reason.toList.length ≤ 512
    rw [hlead]
    omega

omit [Hashlib] in
/-- The call gives the last attempt up for a reason that leaves no room for the prefix. -/
def Overlong (job : OutboxJob) : JobCommand → Prop
  | .requeue workerId leaseToken now version reason _ _ =>
    version = job.version ∧ job.HeldBy workerId leaseToken now ∧
      job.maxAttempts ≤ job.attempts ∧ isCleanText 512 reason = true ∧ 489 < reason.toList.length
  | _ => False

/-- The checks of the call let it through, and still it raises. -/
def RaisesByRow (job : OutboxJob) (command : JobCommand) : Prop :=
  (∃ row, Drafts job command (some row)) ∧ ∀ updated, command.apply job ≠ .ok updated

/-- A call that is let through returns, unless its reason is too long. -/
theorem exists_apply_iff {command : JobCommand} {row : JobFields}
    (h : Drafts job command (some row)) :
    (∃ updated, command.apply job = .ok updated) ↔ ¬Overlong job command := by
  cases h with
  | lease hworker hforward hpositive hready hleft hexpires =>
    obtain ⟨updated, hbuild⟩ := exists_leased hworker hforward hpositive hready hleft hexpires
    have hdraft := Drafts.lease hworker hforward hpositive hready hleft hexpires
    exact ⟨fun _ hlong => hlong, fun _ => ⟨updated, apply_ok_iff.mpr ⟨_, hdraft, hbuild⟩⟩⟩
  | exhaust hworker hforward hpositive hready hleft =>
    obtain ⟨updated, hbuild⟩ := exists_exhausted hforward hready
    have hdraft := Drafts.exhaust hworker hforward hpositive hready hleft
    exact ⟨fun _ hlong => hlong, fun _ => ⟨updated, apply_ok_iff.mpr ⟨_, hdraft, hbuild⟩⟩⟩
  | complete htext hheld =>
    obtain ⟨hholds, rfl⟩ := hheld.held
    obtain ⟨updated, hcompleted, -⟩ := hholds.exists_complete htext
    exact ⟨fun _ hlong => hlong, fun _ => ⟨updated, hcompleted⟩⟩
  | requeue htext hheld hleft havailable =>
    obtain ⟨hholds, rfl⟩ := hheld.held
    have hroom := (exists_shift_iff (BackoffPolicy.delayAfter_nonneg _ _)).mp ⟨_, havailable⟩
    obtain ⟨updated, hrequeued, -⟩ := hholds.requeue_iff.mpr
      ⟨htext, by rw [if_neg (by omega)]; exact hroom⟩
    exact ⟨fun _ hlong => absurd hlong.2.2.1 (by omega), fun _ => ⟨updated, hrequeued⟩⟩
  | giveUp htext hheld hleft =>
    obtain ⟨hholds, htoken⟩ := hheld.held
    constructor
    · rintro ⟨updated, hupdated⟩ hlong
      have hroom := (hholds.room_of_requeue hupdated).2
      rw [if_pos hleft, isCleanText_exhausted_iff htext] at hroom
      exact absurd hlong.2.2.2.2 (by omega)
    · intro hshort
      have hlength : ¬489 < _ := fun hlong => hshort ⟨rfl, hheld, hleft, htext, hlong⟩
      obtain ⟨updated, hrequeued, -⟩ := hholds.requeue_iff.mpr
        ⟨htext, by rw [if_pos hleft, isCleanText_exhausted_iff htext]; omega⟩
      rw [htoken] at hrequeued
      exact ⟨updated, hrequeued⟩
  | deadLetter htext hheld =>
    obtain ⟨hholds, rfl⟩ := hheld.held
    obtain ⟨updated, hdead, -⟩ := hholds.deadLetter_iff.mpr htext
    exact ⟨fun _ hlong => hlong, fun _ => ⟨updated, hdead⟩⟩

omit [Hashlib] in
theorem requeue_of_overlong {command : JobCommand} (h : Overlong job command) :
    ∃ workerId leaseToken now reason backoff retryMode,
      command = .requeue workerId leaseToken now job.version reason backoff retryMode ∧
        job.HeldBy workerId leaseToken now ∧ job.maxAttempts ≤ job.attempts ∧
        isCleanText 512 reason = true := by
  cases command with
  | requeue workerId leaseToken now version reason backoff retryMode =>
    obtain ⟨rfl, hheld, hleft, htext, -⟩ := h
    exact ⟨_, _, _, _, _, _, rfl, hheld, hleft, htext⟩
  | claim => exact h.elim
  | complete => exact h.elim
  | deadLetter => exact h.elim

theorem raisesByRow_iff {command : JobCommand} :
    RaisesByRow job command ↔ Overlong job command := by
  constructor
  · rintro ⟨⟨row, hdraft⟩, hraises⟩
    by_contra hshort
    obtain ⟨updated, hupdated⟩ := (exists_apply_iff hdraft).mpr hshort
    exact hraises updated hupdated
  · intro hlong
    obtain ⟨workerId, leaseToken, now, reason, backoff, retryMode, rfl, hheld, hleft, htext⟩ :=
      requeue_of_overlong hlong
    have hdraft : Drafts job (.requeue workerId leaseToken now job.version reason backoff retryMode)
        (some _) := .giveUp htext hheld hleft
    exact ⟨⟨_, hdraft⟩, fun updated hupdated =>
      (exists_apply_iff hdraft).mp ⟨updated, hupdated⟩ hlong⟩

/-! ## What a call can do to a job -/

/-- How a call that returns leaves the job. -/
inductive Moves (job updated : OutboxJob) : Prop
  | kept (terminal : job.Terminal) (same : updated = job)
  | leased (open' : ¬job.Terminal) (state : updated.state = .leased)
      (version : updated.version = job.version + 1)
      (attempts : updated.attempts = job.attempts + 1)
      (maxAttempts : updated.maxAttempts = job.maxAttempts)
  | settled (leased : job.state = .leased) (state : updated.state ≠ .leased)
      (version : updated.version = job.version + 1) (attempts : updated.attempts = job.attempts)
      (maxAttempts : updated.maxAttempts = job.maxAttempts)

theorem moves_of_apply {command : JobCommand} (h : command.apply job = .ok updated) :
    Moves job updated := by
  obtain ⟨draft, hdraft, hwritten⟩ := apply_ok_iff.mp h
  cases hdraft with
  | lease hworker hforward hpositive hready hleft hexpires =>
    have hfields := JobFields.build_ok_iff.mp hwritten
    exact .leased hready.not_terminal (by rw [hfields]; rfl) (by rw [hfields]; rfl)
      (by rw [hfields]; rfl) (by rw [hfields]; rfl)
  | exhaust hworker hforward hpositive hready hleft =>
    have hfields := JobFields.build_ok_iff.mp hwritten
    have hleased : job.state = .leased := by
      rcases hready with ⟨hpending, -⟩ | ⟨hleased, -⟩
      · exact absurd (OutboxJob.attempts_lt_of_pending hpending) (by omega)
      · exact hleased
    exact .settled hleased (by rw [hfields]; simp [OutboxJob.exhaustedRow]) (by rw [hfields]; rfl)
      (by rw [hfields]; rfl) (by rw [hfields]; rfl)
  | complete htext hheld =>
    have hfields := JobFields.build_ok_iff.mp hwritten
    exact .settled hheld.leased (by rw [hfields]; simp) (by rw [hfields]; rfl)
      (by rw [hfields]; rfl) (by rw [hfields]; rfl)
  | completed htext hstate hsame => exact .kept (.inl hstate) (Except.ok.inj hwritten).symm
  | requeue htext hheld hleft havailable =>
    have hfields := JobFields.build_ok_iff.mp hwritten
    exact .settled hheld.leased (by rw [hfields]; simp) (by rw [hfields]; rfl)
      (by rw [hfields]; rfl) (by rw [hfields]; rfl)
  | giveUp htext hheld hleft =>
    have hfields := JobFields.build_ok_iff.mp hwritten
    exact .settled hheld.leased (by rw [hfields]; simp) (by rw [hfields]; rfl)
      (by rw [hfields]; rfl) (by rw [hfields]; rfl)
  | deadLetter htext hheld =>
    have hfields := JobFields.build_ok_iff.mp hwritten
    exact .settled hheld.leased (by rw [hfields]; simp) (by rw [hfields]; rfl)
      (by rw [hfields]; rfl) (by rw [hfields]; rfl)
  | dead htext hstate hsame => exact .kept (.inr hstate) (Except.ok.inj hwritten).symm

theorem moves_of_takes {s : Step OutboxJob JobCommand Unit} (h : jobMachine.Takes s) :
    Moves s.pre s.post := by
  obtain ⟨updated, hupdated, hpair⟩ := map_ok_iff.mp h
  have hpost : updated = s.post := congrArg Prod.fst hpair
  rw [← hpost]
  exact moves_of_apply hupdated

/-! ## Runs -/

/-- The step leaves the job under a lease. -/
def leasing (s : Step OutboxJob JobCommand Unit) : Bool := decide (s.post.state = .leased)

/-- The step makes another version. -/
def changing (s : Step OutboxJob JobCommand Unit) : Bool := decide (s.post.version ≠ s.pre.version)

/-- The job, and what was called on it, are bounded by the attempts it was created with. -/
structure BoundedBy (maxAttempts : Nat) (steps : List (Step OutboxJob JobCommand Unit))
    (job : OutboxJob) : Prop where
  budget : job.maxAttempts = maxAttempts
  attempts : job.attempts ≤ maxAttempts
  version : job.version ≤ 2 * job.attempts
  leased : job.state = .leased → job.version ≤ 2 * job.attempts - 1
  leases : steps.countP leasing ≤ maxAttempts
  changes : steps.countP changing ≤ 2 * maxAttempts
  unchanged : ∀ s ∈ steps, changing s = false → s.post = s.pre
  ended : ∀ s ∈ steps, s.pre.Terminal → s.post = s.pre

/-- The counts behind the bounds: an attempt is a lease, a version is a change. -/
structure Counted (maxAttempts : Nat) (steps : List (Step OutboxJob JobCommand Unit))
    (job : OutboxJob) : Prop where
  budget : job.maxAttempts = maxAttempts
  version : job.version ≤ 2 * job.attempts
  leased : job.state = .leased → job.version + 1 ≤ 2 * job.attempts
  leases : steps.countP leasing = job.attempts
  changes : steps.countP changing = job.version

theorem Counted.keep {maxAttempts : Nat} {past : List (Step OutboxJob JobCommand Unit)}
    {s : Step OutboxJob JobCommand Unit} (h : Counted maxAttempts past s.pre)
    (htakes : jobMachine.Takes s) : Counted maxAttempts (past ++ [s]) s.post := by
  have hleases := h.leases
  have hchanges := h.changes
  have hversion := h.version
  have hcounts : (past ++ [s]).countP leasing =
        past.countP leasing + if leasing s then 1 else 0 := by
    rw [List.countP_append, List.countP_singleton]
  have hcounts' : (past ++ [s]).countP changing =
        past.countP changing + if changing s then 1 else 0 := by
    rw [List.countP_append, List.countP_singleton]
  cases moves_of_takes htakes with
  | kept hterminal hsame =>
    have hstate : s.pre.state ≠ .leased := by
      rcases hterminal with hend | hend
      · rw [hend]
        simp
      · rw [hend]
        simp
    have hno : leasing s = false := by
      rw [leasing, hsame]
      exact decide_eq_false hstate
    have hno' : changing s = false := by
      rw [changing, hsame]
      exact decide_eq_false (not_not.mpr rfl)
    rw [hsame]
    refine ⟨h.budget, hversion, h.leased, ?_, ?_⟩
    · rw [hcounts, hno, hleases]
      rfl
    · rw [hcounts', hno', hchanges]
      rfl
  | leased hopen hstate hnext hattempts hmax =>
    have hyes : leasing s = true := decide_eq_true hstate
    have hyes' : changing s = true := decide_eq_true (by omega)
    refine ⟨hmax.trans h.budget, by omega, fun _ => by omega, ?_, ?_⟩
    · rw [hcounts, hyes, hleases, hattempts]
      rfl
    · rw [hcounts', hyes', hchanges, hnext]
      rfl
  | settled hleased hstate hnext hattempts hmax =>
    have hno : leasing s = false := decide_eq_false hstate
    have hyes' : changing s = true := decide_eq_true (by omega)
    have hroom := h.leased hleased
    refine ⟨hmax.trans h.budget, by omega, fun hbad => absurd hbad hstate, ?_, ?_⟩
    · rw [hcounts, hno, hleases, hattempts]
      rfl
    · rw [hcounts', hyes', hchanges, hnext]
      rfl

omit [Hashlib] in
theorem fields_of_create {jobId actionKey payloadDigest : String} {now : Timestamp}
    {maxAttempts : Nat} {availableAt : Option Timestamp} {created : OutboxJob}
    (h : OutboxJob.create jobId actionKey payloadDigest now maxAttempts availableAt = .ok created) :
    created.maxAttempts = maxAttempts ∧ created.version = 0 ∧ created.attempts = 0 ∧
      created.state = .pending ∧ created.retryMode = .normal := by
  have hfields := JobFields.build_ok_iff.mp h
  rw [hfields]
  exact ⟨rfl, rfl, rfl, rfl, rfl⟩

theorem counted_of_run {jobId actionKey payloadDigest : String} {now : Timestamp}
    {maxAttempts : Nat} {availableAt : Option Timestamp} {created : OutboxJob}
    {steps : List (Step OutboxJob JobCommand Unit)}
    (hcreate : OutboxJob.create jobId actionKey payloadDigest now maxAttempts availableAt =
      .ok created)
    (hrun : jobMachine.Run created steps job) : Counted maxAttempts steps job := by
  obtain ⟨hmax, hversion, hattempts, hstate, -⟩ := fields_of_create hcreate
  have hstart : Counted maxAttempts [] created := by
    refine ⟨hmax, by omega, fun hleased => ?_, hattempts.symm, hversion.symm⟩
    exact absurd (hstate.symm.trans hleased) (by simp)
  exact hrun.history (H := Counted maxAttempts) (G := fun _ _ => True) hstart
    (fun _ _ _ hcounted htakes _ => hcounted.keep htakes) fun _ _ _ _ => trivial

/-- **Whatever is called on a job, it is bounded by its attempts**, and the next call raises
because of its row exactly when it gives the last attempt up at too great a length. -/
theorem deliveries_bounded_iff {jobId actionKey payloadDigest : String} {now : Timestamp}
    {maxAttempts : Nat} {availableAt : Option Timestamp} {created : OutboxJob}
    {steps : List (Step OutboxJob JobCommand Unit)} (command : JobCommand)
    (hcreate : OutboxJob.create jobId actionKey payloadDigest now maxAttempts availableAt =
      .ok created)
    (hrun : jobMachine.Run created steps job) :
    (BoundedBy maxAttempts steps job ∧ ¬RaisesByRow job command) ↔ ¬Overlong job command := by
  have hcounted := counted_of_run hcreate hrun
  have hattempts := job.attempts_le
  rw [hcounted.budget] at hattempts
  have hversion := hcounted.version
  have hmoves : ∀ s ∈ steps, Moves s.pre s.post := by
    intro s hs
    obtain ⟨-, -, -, -, htakes⟩ := hrun.of_mem hs
    exact moves_of_takes htakes
  have hbounded : BoundedBy maxAttempts steps job := by
    refine ⟨hcounted.budget, hattempts, hversion, fun hleased => ?_, ?_, ?_, ?_, ?_⟩
    · have hroom := hcounted.leased hleased
      omega
    · rw [hcounted.leases]
      exact hattempts
    · rw [hcounted.changes]
      omega
    · intro s hs hsame
      have hversions : ¬s.post.version ≠ s.pre.version := of_decide_eq_false hsame
      cases hmoves s hs with
      | kept _ hkept => exact hkept
      | leased _ _ hnext => exact absurd (by omega) hversions
      | settled _ _ hnext => exact absurd (by omega) hversions
    · intro s hs hterminal
      cases hmoves s hs with
      | kept _ hkept => exact hkept
      | leased hopen => exact absurd hterminal hopen
      | settled hleased =>
        rcases hterminal with hend | hend
        · exact absurd (hleased.symm.trans hend) (by simp)
        · exact absurd (hleased.symm.trans hend) (by simp)
  rw [raisesByRow_iff]
  exact ⟨fun h => h.2, fun h => ⟨hbounded, h⟩⟩

end

/-! ## A job with one attempt -/

namespace LastAttempt

def start : Timestamp := ⟨63902822400000000, by decide, by decide⟩

def expiry : Timestamp := ⟨63902822430000000, by decide, by decide⟩

def digest : String := "aaaaaaaaaaaaaaaaaaaaaaaaaaaaaaaaaaaaaaaaaaaaaaaaaaaaaaaaaaaaaaaa"

/-- A job that may be tried once. -/
def fields : JobFields where
  jobId := "job_1"
  actionKey := "act_1"
  payloadDigest := digest
  state := .pending
  version := 0
  attempts := 0
  maxAttempts := 1
  createdAt := start
  updatedAt := start
  availableAt := some start

theorem fields_valid : fields.postInit = .ok () := by
  have hid : isCleanText 128 "job_1" = true := by decide
  have hkey : isCleanText 128 "act_1" = true := by decide
  have hdigest : isDigest digest = true := by decide
  exact JobFields.postInit_ok_iff.mpr ⟨hid, hkey, hdigest, le_refl 1, Nat.zero_le 1,
    le_refl start, rfl, rfl, rfl, rfl, rfl,
    (JobFields.checkState_pending_iff rfl).mpr ⟨⟨by simp [fields], rfl⟩, Nat.zero_lt_one, rfl, rfl⟩⟩

def created : OutboxJob := ⟨fields, fields_valid⟩

theorem create_ok :
    OutboxJob.create "job_1" "act_1" digest start 1 none = .ok created :=
  JobFields.build_ok_iff.mpr rfl

theorem claimable : created.Ready start := by
  refine .inl ⟨rfl, fun due hdue => ?_⟩
  rw [← Option.some.inj (hdue : some start = some due)]

theorem expires_ok : shift start (seconds 30) = .ok expiry := shift_ok_iff.mpr (by decide)

/-- The claim of the one attempt, and the token it is held with. -/
theorem exists_claimed :
    ∃ job leaseToken steps, jobMachine.Run created steps job ∧
      job.HeldBy "worker_1" leaseToken start ∧ job.maxAttempts ≤ job.attempts ∧
      job.version = 1 := by
  have hworker : isCleanText 128 "worker_1" = true := by decide
  have hpositive : (0 : Timedelta) < seconds 30 := by decide
  have hleft : created.attempts < created.maxAttempts := by decide
  obtain ⟨job, hbuild⟩ := exists_leased hworker (le_refl start) hpositive claimable hleft expires_ok
  obtain ⟨leaseToken, -, hheld⟩ := heldBy_of_leased hworker hbuild le_rfl (by decide)
  have happly := apply_ok_iff.mpr
    ⟨_, .lease hworker (le_refl start) hpositive claimable hleft expires_ok, hbuild⟩
  have hfields := JobFields.build_ok_iff.mp hbuild
  have hrun : jobMachine.Run created [⟨created, .claim "worker_1" start (seconds 30) 0, job, ()⟩]
      job :=
    Machine.Run.start.next (s := ⟨created, _, job, ()⟩) (map_ok_iff.mpr ⟨job, happly, rfl⟩)
  refine ⟨job, leaseToken, _, hrun, hheld, ?_, ?_⟩
  · rw [hfields]
    exact le_refl 1
  · rw [hfields]
    rfl

/-- A short reason is written: the job is a dead letter, within its bounds. -/
theorem bounded_at_last :
    ∃ job leaseToken steps, jobMachine.Run created steps job ∧ BoundedBy 1 steps job ∧
      ¬RaisesByRow job
        (.requeue "worker_1" leaseToken start 1 "provider_timeout" {} .reconcileOnly) := by
  obtain ⟨job, leaseToken, steps, hrun, -, -, -⟩ := exists_claimed
  have hshort : ¬Overlong job
      (.requeue "worker_1" leaseToken start 1 "provider_timeout" {} .reconcileOnly) := by
    intro hlong
    exact absurd hlong.2.2.2.2 (by decide)
  obtain ⟨hbounded, hreturns⟩ := (deliveries_bounded_iff _ create_ok hrun).mpr hshort
  exact ⟨job, leaseToken, steps, hrun, hbounded, hreturns⟩

/-- A reason of so many characters. -/
def repeated (length : Nat) : String := String.ofList (List.replicate length 'x')

theorem length_repeated (length : Nat) : (repeated length).toList.length = length := by
  rw [repeated, String.toList_ofList, List.length_replicate]

theorem isCleanText_repeated {length maximum : Nat} (hsome : 0 < length)
    (hroom : length ≤ maximum) : isCleanText maximum (repeated length) = true := by
  refine isCleanText_of_graphic (List.ne_nil_of_length_pos ?_) ?_ ?_
  · rw [length_repeated]
    exact hsome
  · rw [length_repeated]
    exact hroom
  · intro c hc
    rw [repeated, String.toList_ofList] at hc
    rw [List.eq_of_mem_replicate hc]
    decide

/-- **A job that a worker holds can be left leased by the retry of its last attempt**, for a
reason the retry takes. -/
theorem retry_raises_by_row :
    ∃ job leaseToken steps, jobMachine.Run created steps job ∧
      job.HeldBy "worker_1" leaseToken start ∧
      RaisesByRow job
        (.requeue "worker_1" leaseToken start 1 (repeated 490) {} .reconcileOnly) := by
  obtain ⟨job, leaseToken, steps, hrun, hheld, hleft, hversion⟩ := exists_claimed
  refine ⟨job, leaseToken, steps, hrun, hheld, raisesByRow_iff.mpr ?_⟩
  refine ⟨hversion.symm, hheld, hleft, isCleanText_repeated (by decide) (by decide), ?_⟩
  rw [length_repeated]
  decide

end LastAttempt

end Retrywise.ControlPlane
