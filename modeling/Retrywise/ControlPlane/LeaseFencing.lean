import Retrywise.ControlPlane.BoundedDeliveries
import Retrywise.Foundation.CompareAndSwap

/-!
# The fence of a lease

Any number of workers read a job when they like, work out one of the four operations on
what they have read, and write it back if the version is still the same. Their clocks are
whatever they are. A lease has a token of its own, made of the version it is taken at, so a
worker whose lease is over can do nothing with the token it still has: not even with a
version it guesses, unless two tokens of the job are the same hash of different texts.

> `fenced_of_run`: every change is a claim of a job that may be claimed, or made by the
> worker that claimed last; after any change behind its lease a worker changes nothing; the
> first end is the last; and a lease that was taken over is there to reconcile.
-/

namespace Retrywise.ControlPlane

open Retrywise.Foundation Retrywise.Domain

/-- The worker, the token and the time that a settlement comes with. -/
def JobCommand.credentials : JobCommand → Option (String × String × Timestamp)
  | .claim .. => none
  | .complete workerId leaseToken now .. => some (workerId, leaseToken, now)
  | .requeue workerId leaseToken now .. => some (workerId, leaseToken, now)
  | .deadLetter workerId leaseToken now .. => some (workerId, leaseToken, now)

/-- A step on the job. -/
abbrev JobStep := Step OutboxJob JobCommand Unit

section

variable [Hashlib]

/-- The job as a repository keeps it, with compare-and-swap on the version. -/
def jobStore : Machine (Stored OutboxJob) (Attempt JobCommand) Unit ControlPlaneError :=
  jobMachine.swapped (fun job => job.version) (.database "no row was read")
    (.database "the row has another version")

variable {job updated : OutboxJob} {command : JobCommand} {s : JobStep}

/-! ## What changes a job -/

/-- A call that changes the job claims it while it may be claimed, or comes from the worker
that holds it. -/
theorem claims_or_held_of_apply (h : command.apply job = .ok updated)
    (hchanged : updated.version ≠ job.version) :
    (∃ workerId now leaseDuration, command = .claim workerId now leaseDuration job.version ∧
      job.Ready now) ∨
    ∃ workerId leaseToken now, command.credentials = some (workerId, leaseToken, now) ∧
      job.HeldBy workerId leaseToken now := by
  obtain ⟨draft, hdraft, hwritten⟩ := apply_ok_iff.mp h
  cases hdraft with
  | lease _ _ _ hready => exact .inl ⟨_, _, _, rfl, hready⟩
  | exhaust _ _ _ hready => exact .inl ⟨_, _, _, rfl, hready⟩
  | complete _ hheld => exact .inr ⟨_, _, _, rfl, hheld⟩
  | completed => exact absurd (congrArg (fun j => j.version) (Except.ok.inj hwritten).symm) hchanged
  | requeue _ hheld => exact .inr ⟨_, _, _, rfl, hheld⟩
  | giveUp _ hheld => exact .inr ⟨_, _, _, rfl, hheld⟩
  | deadLetter _ hheld => exact .inr ⟨_, _, _, rfl, hheld⟩
  | dead => exact absurd (congrArg (fun j => j.version) (Except.ok.inj hwritten).symm) hchanged

/-- A settlement that leaves the job alone repeats how it ended. -/
theorem repeats_of_apply (h : command.apply job = .ok updated)
    (hsame : updated.version = job.version) : Drafts job command none ∧ updated = job := by
  obtain ⟨draft, hdraft, hwritten⟩ := apply_ok_iff.mp h
  cases hmoves : draft with
  | none =>
    rw [hmoves] at hdraft hwritten
    exact ⟨hdraft, (Except.ok.inj hwritten).symm⟩
  | some row =>
    rw [hmoves] at hdraft hwritten
    have hnext : row.version = job.version + 1 := by
      cases hdraft with
      | lease => rfl
      | exhaust => rfl
      | complete => rfl
      | requeue => rfl
      | giveUp => rfl
      | deadLetter => rfl
    have hfields := JobFields.build_ok_iff.mp hwritten
    rw [hfields, hnext] at hsame
    omega

omit [Hashlib] in
/-- No operation touches what a job is about. -/
theorem identity_of_built {row : JobFields} (h : row.build = .ok updated)
    (hid : row.jobId = job.jobId) (hkey : row.actionKey = job.actionKey) :
    updated.jobId = job.jobId ∧ updated.actionKey = job.actionKey := by
  rw [JobFields.build_ok_iff.mp h]
  exact ⟨hid, hkey⟩

theorem identity_of_apply (h : command.apply job = .ok updated) :
    updated.jobId = job.jobId ∧ updated.actionKey = job.actionKey := by
  obtain ⟨draft, hdraft, hwritten⟩ := apply_ok_iff.mp h
  cases hdraft with
  | lease => exact identity_of_built hwritten rfl rfl
  | exhaust => exact identity_of_built hwritten rfl rfl
  | complete => exact identity_of_built hwritten rfl rfl
  | completed =>
    rw [← Except.ok.inj hwritten]
    exact ⟨rfl, rfl⟩
  | requeue => exact identity_of_built hwritten rfl rfl
  | giveUp => exact identity_of_built hwritten rfl rfl
  | deadLetter => exact identity_of_built hwritten rfl rfl
  | dead =>
    rw [← Except.ok.inj hwritten]
    exact ⟨rfl, rfl⟩

theorem apply_of_takes (h : jobMachine.Takes s) : s.cmd.apply s.pre = .ok s.post := by
  obtain ⟨updated, hupdated, hpair⟩ := map_ok_iff.mp h
  have hpost : updated = s.post := congrArg Prod.fst hpair
  rw [← hpost]
  exact hupdated

/-- The step leaves the job alone, or makes the next version. -/
theorem same_or_next (h : jobMachine.Takes s) :
    s.post = s.pre ∨ s.post.version = s.pre.version + 1 := by
  cases moves_of_takes h with
  | kept _ hsame => exact .inl hsame
  | leased _ _ hnext => exact .inr hnext
  | settled _ _ hnext => exact .inr hnext

/-! ## Tokens -/

/-- The step takes a lease whose token is the hash of this text. -/
def Granted (s : JobStep) (material : String) : Prop :=
  ∃ workerId now expiresAt, s.post.toJobFields = s.pre.leasedRow workerId now expiresAt ∧
    material = s.pre.tokenMaterial workerId expiresAt

/-- Two leases of the job have one token for different texts. -/
def TokenCollision (steps : List JobStep) : Prop :=
  ∃ l ∈ steps, ∃ l' ∈ steps, ∃ material material', Granted l material ∧ Granted l' material' ∧
    material ≠ material' ∧
    Hashlib.sha256Hexdigest material.toUTF8 = Hashlib.sha256Hexdigest material'.toUTF8

theorem exists_granted (h : jobMachine.Takes s) (hleasing : leasing s = true) :
    ∃ material, Granted s material := by
  have hstate : s.post.state = .leased := of_decide_eq_true hleasing
  obtain ⟨draft, hdraft, hwritten⟩ := apply_ok_iff.mp (apply_of_takes h)
  have hnot : ∀ row : JobFields, row.build = .ok s.post → row.state ≠ .leased → False := by
    intro row hbuild hother
    rw [← JobFields.build_ok_iff.mp hbuild] at hother
    exact hother hstate
  generalize hcmd : s.cmd = command at hdraft
  cases hdraft with
  | lease => exact ⟨_, _, _, _, JobFields.build_ok_iff.mp hwritten, rfl⟩
  | exhaust => exact (hnot _ hwritten (by simp [OutboxJob.exhaustedRow])).elim
  | complete => exact (hnot _ hwritten (by simp)).elim
  | completed _ hend =>
    rw [← Except.ok.inj hwritten, hend] at hstate
    exact absurd hstate (by simp)
  | requeue => exact (hnot _ hwritten (by simp)).elim
  | giveUp => exact (hnot _ hwritten (by simp)).elim
  | deadLetter => exact (hnot _ hwritten (by simp)).elim
  | dead _ hend =>
    rw [← Except.ok.inj hwritten, hend] at hstate
    exact absurd hstate (by simp)

theorem token_of_granted {material : String} (h : Granted s material) :
    s.post.leaseToken = some ("lease_" ++ Hashlib.sha256Hexdigest material.toUTF8) ∧
      s.post.version = s.pre.version + 1 := by
  obtain ⟨workerId, now, expiresAt, hfields, rfl⟩ := h
  rw [hfields]
  exact ⟨rfl, rfl⟩

theorem leasing_of_granted {material : String} (h : Granted s material) : leasing s = true := by
  obtain ⟨workerId, now, expiresAt, hfields, -⟩ := h
  refine decide_eq_true ?_
  rw [hfields]
  rfl

theorem granted_inj {material material' : String} (h : Granted s material)
    (h' : Granted s material') : material = material' := by
  obtain ⟨workerId, now, expiresAt, hfields, rfl⟩ := h
  obtain ⟨workerId', now', expiresAt', hfields', rfl⟩ := h'
  rw [hfields] at hfields'
  have howner : some workerId = some workerId' := congrArg JobFields.leaseOwner hfields'
  have hexpiry : some expiresAt = some expiresAt' := congrArg JobFields.leaseExpiresAt hfields'
  rw [Option.some.inj howner, Option.some.inj hexpiry]

/-- One lease has no token in common with another. -/
theorem not_tokenCollision {steps : List JobStep}
    (h : ∀ l ∈ steps, ∀ l' ∈ steps, leasing l = true → leasing l' = true → l = l') :
    ¬TokenCollision steps := by
  rintro ⟨l, hl, l', hl', material, material', hgranted, hgranted', hdiffer, -⟩
  obtain rfl := h l hl l' hl' (leasing_of_granted hgranted) (leasing_of_granted hgranted')
  exact hdiffer (granted_inj hgranted hgranted')

omit [Hashlib] in
/-- The text behind a token says which version it is of. -/
theorem version_of_tokenMaterial {other : OutboxJob} {workerId workerId' : String}
    {expiresAt expiresAt' : Timestamp} (hid : job.jobId = other.jobId)
    (hkey : job.actionKey = other.actionKey)
    (h : job.tokenMaterial workerId expiresAt = other.tokenMaterial workerId' expiresAt') :
    job.version = other.version := by
  simp only [OutboxJob.tokenMaterial, ToString.toString, String.append_assoc, hid, hkey] at h
  have hchars := congrArg String.toList h
  simp only [String.toList_append] at hchars
  have hrest := List.append_cancel_left (List.append_cancel_left
    (List.append_cancel_left (List.append_cancel_left hchars)))
  have hbar : ∀ n : Nat, '|' ∉ n.repr.toList := by
    intro n hmem
    exact absurd (isDigit_of_mem_repr hmem) (by decide)
  have hnext := eq_of_toList_repr (append_mark_inj (hbar _) (hbar _) hrest)
  omega

/-! ## The lease that counts -/

/-- A job that is leased was leased by the last step. -/
def Latest (past : List JobStep) (job : OutboxJob) : Prop :=
  job.state = .leased → ∃ before l, past = before ++ [l] ∧ leasing l = true ∧ l.post = job

omit [Hashlib] in
theorem latest_concat (past : List JobStep) (s : JobStep) : Latest (past ++ [s]) s.post := by
  intro hleased
  exact ⟨past, s, rfl, decide_eq_true hleased, rfl⟩

/-- The step claims a job that may be claimed, or is a settlement with the owner and the
token of the last lease, before that has run out. -/
def ByHolder (past : List JobStep) (s : JobStep) : Prop :=
  (∃ workerId now leaseDuration version,
    s.cmd = .claim workerId now leaseDuration version ∧ s.pre.Ready now) ∨
  ∃ workerId leaseToken now before l, s.cmd.credentials = some (workerId, leaseToken, now) ∧
    past = before ++ [l] ∧ leasing l = true ∧ l.post.leaseOwner = some workerId ∧
    l.post.leaseToken = some leaseToken ∧ ∃ expiry, l.post.leaseExpiresAt = some expiry ∧ now < expiry

theorem byHolder_of_changed {past : List JobStep} (h : Latest past s.pre)
    (htakes : jobMachine.Takes s) (hchanging : changing s = true) : ByHolder past s := by
  have hversion : s.post.version ≠ s.pre.version := of_decide_eq_true hchanging
  rcases claims_or_held_of_apply (apply_of_takes htakes) hversion with
    ⟨workerId, now, leaseDuration, hcmd, hready⟩ | ⟨workerId, leaseToken, now, hcmd, hheld⟩
  · exact .inl ⟨workerId, now, leaseDuration, _, hcmd, hready⟩
  · obtain ⟨before, l, hpast, hleasing, hpost⟩ := h hheld.leased
    obtain ⟨-, -, -, howner, htoken, hexpiry⟩ := OutboxJob.assertActiveLease_ok_iff.mp hheld.lease
    rw [← hpost] at howner htoken hexpiry
    exact .inr ⟨workerId, leaseToken, now, before, l, hcmd, hpast, hleasing, howner, htoken, hexpiry⟩

/-! ## Leases that are over -/

theorem le_version_of_run {steps : List JobStep} (hrun : jobMachine.Run job steps updated) :
    job.version ≤ updated.version ∧ updated.jobId = job.jobId ∧
      updated.actionKey = job.actionKey := by
  refine hrun.relates (R := fun a b => a.version ≤ b.version ∧ b.jobId = a.jobId ∧
    b.actionKey = a.actionKey) (fun a => ⟨le_refl _, rfl, rfl⟩) ?_ ?_
  · rintro a b c ⟨hab, hid, hkey⟩ ⟨hbc, hid', hkey'⟩
    exact ⟨hab.trans hbc, hid'.trans hid, hkey'.trans hkey⟩
  · intro s htakes
    obtain ⟨hid, hkey⟩ := identity_of_apply (apply_of_takes htakes)
    refine ⟨?_, hid, hkey⟩
    rcases same_or_next htakes with hsame | hnext
    · rw [hsame]
    · omega

/-- Two leases of one run with one token are of one version. -/
theorem version_of_token {created : OutboxJob} {steps : List JobStep} {l l' : JobStep}
    {leaseToken : String} (hrun : jobMachine.Run created steps job)
    (hfree : ¬TokenCollision steps) (hl : l ∈ steps) (hl' : l' ∈ steps)
    (hleasing : leasing l = true) (hleasing' : leasing l' = true)
    (htoken : l.post.leaseToken = some leaseToken)
    (htoken' : l'.post.leaseToken = some leaseToken) : l.pre.version = l'.pre.version := by
  obtain ⟨past, -, -, hpast, htakes⟩ := hrun.of_mem hl
  obtain ⟨past', -, -, hpast', htakes'⟩ := hrun.of_mem hl'
  obtain ⟨material, hgranted⟩ := exists_granted htakes hleasing
  obtain ⟨material', hgranted'⟩ := exists_granted htakes' hleasing'
  have hhash : Hashlib.sha256Hexdigest material.toUTF8 =
      Hashlib.sha256Hexdigest material'.toUTF8 := by
    have htexts := htoken.trans htoken'.symm
    rw [(token_of_granted hgranted).1, (token_of_granted hgranted').1] at htexts
    exact String.append_right_inj _ |>.mp (Option.some.inj htexts)
  have hmaterial : material = material' := by
    by_contra hdiffer
    exact hfree ⟨l, hl, l', hl', material, material', hgranted, hgranted', hdiffer, hhash⟩
  obtain ⟨-, hid, hkey⟩ := le_version_of_run hpast
  obtain ⟨-, hid', hkey'⟩ := le_version_of_run hpast'
  obtain ⟨_, _, _, -, htext⟩ := hgranted
  obtain ⟨_, _, _, -, htext'⟩ := hgranted'
  exact version_of_tokenMaterial (hid.trans hid'.symm) (hkey.trans hkey'.symm)
    (htext.symm.trans (hmaterial.trans htext'))

/-- A lease with a step behind it is not the one the job is under. -/
theorem not_heldBy_of_later {created : OutboxJob} {past rest : List JobStep} {l : JobStep}
    {workerId leaseToken : String} {now : Timestamp}
    (hrun : jobMachine.Run created (past ++ l :: rest) job)
    (hlatest : Latest (past ++ l :: rest) job) (hfree : ¬TokenCollision (past ++ l :: rest))
    (hleasing : leasing l = true) (hlater : rest ≠ [])
    (htoken : l.post.leaseToken = some leaseToken) :
    ¬job.HeldBy workerId leaseToken now := by
  intro hheld
  obtain ⟨before, last, hsplit, hlast, hpost⟩ := hlatest hheld.leased
  obtain ⟨-, -, -, -, hcurrent, -⟩ := OutboxJob.assertActiveLease_ok_iff.mp hheld.lease
  rw [← hpost] at hcurrent
  -- the last step is one of those behind the lease
  obtain ⟨front, final, rfl⟩ : ∃ front final, rest = front ++ [final] := by
    rcases List.eq_nil_or_concat rest with hnil | ⟨front, final, hconcat⟩
    · exact absurd hnil hlater
    · exact ⟨front, final, hconcat.trans List.concat_eq_append⟩
  have hjoin : past ++ l :: (front ++ [final]) = (past ++ l :: front) ++ [final] := by
    rw [List.append_assoc, List.cons_append]
  rw [hjoin] at hsplit hrun
  obtain ⟨-, hsame⟩ := List.append_inj' hsplit rfl
  obtain rfl := List.head_eq_of_cons_eq hsame
  obtain ⟨hbefore, -, -⟩ := hrun.cut _ final [] rfl
  obtain ⟨-, htakes, hbetween⟩ := hbefore.cut past l front rfl
  have holder := (le_version_of_run hbetween).1
  have hnext : l.post.version = l.pre.version + 1 := by
    obtain ⟨material, hgranted⟩ := exists_granted htakes hleasing
    exact (token_of_granted hgranted).2
  have hmem : l ∈ (past ++ l :: front) ++ [final] := by simp
  have hmem' : final ∈ (past ++ l :: front) ++ [final] := by simp
  have hversion :=
    version_of_token hrun (hjoin ▸ hfree) hmem hmem' hleasing hlast htoken hcurrent
  omega

/-! ## Ends and modes -/

theorem terminal_of_drafts_none {command : JobCommand} (h : Drafts job command none) :
    job.Terminal := by
  cases h with
  | completed _ hend => exact .inl hend
  | dead _ hend => exact .inr hend

/-- A job that has ended stays as it is. -/
theorem kept_of_terminal {steps : List JobStep} (hrun : jobMachine.Run job steps updated)
    (hend : job.Terminal) : (∀ s ∈ steps, s.post = job) ∧ updated = job := by
  refine hrun.history (H := fun past a => (∀ s ∈ past, s.post = job) ∧ a = job)
    (G := fun _ _ => True) ⟨fun _ hs => absurd hs List.not_mem_nil, rfl⟩ ?_
    (fun _ _ _ _ => trivial)
  rintro past s - ⟨hpast, hpre⟩ htakes -
  have hpost : s.post = job := by
    cases moves_of_takes htakes with
    | kept _ hsame => exact hsame.trans hpre
    | leased hopen => exact absurd (hpre ▸ hend) hopen
    | settled hleased =>
      rw [hpre] at hleased
      rcases hend with hend | hend
      · exact absurd (hleased.symm.trans hend) (by simp)
      · exact absurd (hleased.symm.trans hend) (by simp)
  refine ⟨fun t ht => ?_, hpost⟩
  rcases List.mem_append.mp ht with ht | ht
  · exact hpast t ht
  · rw [List.mem_singleton.mp ht]
    exact hpost

/-- The call is no retry, or one that is to reconcile. -/
def Reconciles : JobCommand → Prop
  | .requeue _ _ _ _ _ _ retryMode => retryMode = .reconcileOnly
  | _ => True

theorem reconcileOnly_of_apply {command : JobCommand} (h : command.apply job = .ok updated)
    (hcall : Reconciles command) (hmode : job.retryMode = .reconcileOnly) :
    updated.retryMode = .reconcileOnly := by
  obtain ⟨draft, hdraft, hwritten⟩ := apply_ok_iff.mp h
  have hbuilt : ∀ row : JobFields, row.build = .ok updated → row.retryMode = .reconcileOnly →
      updated.retryMode = .reconcileOnly := by
    intro row hbuild hrow
    rw [JobFields.build_ok_iff.mp hbuild]
    exact hrow
  cases hdraft with
  | lease =>
    refine hbuilt _ hwritten ?_
    show (if job.state = .leased then RetryMode.reconcileOnly else job.retryMode) = _
    rw [hmode, ite_self]
  | exhaust => exact hbuilt _ hwritten rfl
  | complete => exact hbuilt _ hwritten hmode
  | completed =>
    rw [← Except.ok.inj hwritten]
    exact hmode
  | requeue => exact hbuilt _ hwritten hcall
  | giveUp => exact hbuilt _ hwritten hcall
  | deadLetter => exact hbuilt _ hwritten hmode
  | dead =>
    rw [← Except.ok.inj hwritten]
    exact hmode

/-- A claim of a job under a lease that has run out is there to reconcile. -/
theorem reconcileOnly_of_reclaim {workerId : String} {now : Timestamp} {leaseDuration : Timedelta}
    {version : Nat} (h : (JobCommand.claim workerId now leaseDuration version).apply job = .ok updated)
    (hleased : job.state = .leased) : updated.retryMode = .reconcileOnly := by
  obtain ⟨draft, hdraft, hwritten⟩ := apply_ok_iff.mp h
  cases hdraft with
  | lease =>
    rw [JobFields.build_ok_iff.mp hwritten]
    exact if_pos hleased
  | exhaust => rw [JobFields.build_ok_iff.mp hwritten]; rfl

/-! ## The fence -/

/-- What a lease is fenced by, over all that happened to a job. -/
structure Fenced (steps : List JobStep) (store : Stored OutboxJob) : Prop where
  /-- Only claims, and the worker that claimed last, change the job. -/
  holder : Along (fun past s => changing s = true → ByHolder past s) steps
  /-- A worker behind whose lease there is a step changes nothing, whatever it has read. -/
  stale : ∀ past l rest, steps = past ++ l :: rest → leasing l = true → rest ≠ [] →
    ∀ attempt workerId leaseToken now after, l.post.leaseToken = some leaseToken →
      attempt.cmd.credentials = some (workerId, leaseToken, now) →
      jobStore.exec store attempt = .ok (after, ()) →
        after.current = store.current ∧ store.current.Terminal ∧
          Drafts store.current attempt.cmd none
  /-- The first end is the last. -/
  once : ∀ past s rest, steps = past ++ s :: rest → s.post.Terminal →
    (∀ t ∈ rest, t.post = s.post) ∧ store.current = s.post
  /-- What was taken over is there to reconcile, until a retry says otherwise. -/
  reconciles : ∀ past s rest workerId now leaseDuration version, steps = past ++ s :: rest →
    s.pre.state = .leased → s.cmd = .claim workerId now leaseDuration version →
    (∀ t ∈ rest, Reconciles t.cmd) → store.current.retryMode = .reconcileOnly

/-- **The lease is a fence**, for any calls of any workers on what they have read, unless two
leases of the job get one token. -/
theorem fenced_of_run {jobId actionKey payloadDigest : String} {now : Timestamp}
    {maxAttempts : Nat} {availableAt : Option Timestamp} {created : OutboxJob}
    {calls : List (Step (Stored OutboxJob) (Attempt JobCommand) Unit)} {store : Stored OutboxJob}
    (hcreate : OutboxJob.create jobId actionKey payloadDigest now maxAttempts availableAt =
      .ok created)
    (hrun : jobStore.Run ⟨created, []⟩ calls store)
    (hfree : ¬TokenCollision (calls.map Machine.behind)) :
    Fenced (calls.map Machine.behind) store := by
  obtain ⟨hjob, haged⟩ := Machine.run_behind (fun _ => same_or_next) hrun
  have hstart : Latest [] created := by
    intro hleased
    exact absurd ((fields_of_create hcreate).2.2.2.1.symm.trans hleased) (by simp)
  have hlatest : Latest (calls.map Machine.behind) store.current :=
    hjob.history (H := Latest) (G := fun _ _ => True) hstart
      (fun past s _ _ _ _ => latest_concat past s) fun _ _ _ _ => trivial
  refine ⟨?_, ?_, ?_, ?_⟩
  · exact hjob.along (H := Latest) (G := fun _ _ => True) hstart
      (fun past s _ _ _ _ => latest_concat past s)
      (fun _ _ _ h htakes _ => byHolder_of_changed h htakes) fun _ _ _ _ => trivial
  · intro past l rest hsplit hleasing hlater attempt workerId leaseToken now after htoken
      hcredentials hexec
    obtain ⟨seen, hread, hseen, hversion, -⟩ := Machine.of_swapped hexec
    obtain rfl := haged.eq_of_version (List.mem_of_getElem? hread) hversion
    have happly : attempt.cmd.apply store.current = .ok after.current :=
      apply_of_takes (s := ⟨store.current, attempt.cmd, after.current, ()⟩) hseen
    by_cases hsame : after.current.version = store.current.version
    · obtain ⟨hdrafts, hkept⟩ := repeats_of_apply happly hsame
      exact ⟨hkept, terminal_of_drafts_none hdrafts, hdrafts⟩
    · rcases claims_or_held_of_apply happly hsame with
        ⟨_, _, _, hcmd, -⟩ | ⟨workerId', leaseToken', now', hcmd, hheld⟩
      · rw [hcmd] at hcredentials
        exact absurd hcredentials (by simp [JobCommand.credentials])
      · rw [hcmd, Option.some.injEq, Prod.mk.injEq, Prod.mk.injEq] at hcredentials
        obtain ⟨rfl, rfl, rfl⟩ := hcredentials
        rw [hsplit] at hjob hlatest hfree
        exact absurd hheld (not_heldBy_of_later hjob hlatest hfree hleasing hlater htoken)
  · intro past s rest hsplit hend
    obtain ⟨-, -, hafter⟩ := hjob.cut past s rest hsplit
    exact kept_of_terminal hafter hend
  · intro past s rest workerId now' leaseDuration version hsplit hleased hcmd hcalls
    obtain ⟨-, htakes, hafter⟩ := hjob.cut past s rest hsplit
    have hreclaim := apply_of_takes htakes
    rw [hcmd] at hreclaim
    exact hafter.invariant_of (I := fun a => a.retryMode = .reconcileOnly)
      (G := fun t => Reconciles t.cmd) (reconcileOnly_of_reclaim hreclaim hleased)
      (fun t hmode htakes hcall => reconcileOnly_of_apply (apply_of_takes htakes) hcall hmode)
      hcalls

end

namespace LastAttempt

/-- The one lease of a job, taken and settled. -/
theorem fenced_sample :
    ∃ calls store, jobStore.Run ⟨created, []⟩ calls store ∧ calls.length = 2 ∧
      store.current.Terminal ∧ Fenced (calls.map Machine.behind) store := by
  have hworker : isCleanText 128 "worker_1" = true := by decide
  have hreference : isCleanText 512 "plink_1" = true := by decide
  have hpositive : (0 : Timedelta) < seconds 30 := by decide
  have hleft : created.attempts < created.maxAttempts := by decide
  obtain ⟨job, hbuild⟩ :=
    exists_leased hworker (le_refl start) hpositive claimable hleft expires_ok
  obtain ⟨leaseToken, -, hheld⟩ := heldBy_of_leased hworker hbuild le_rfl (by decide)
  have hclaim : jobMachine.exec created (.claim "worker_1" start (seconds 30) 0) = .ok (job, ()) :=
    map_ok_iff.mpr ⟨job, apply_ok_iff.mpr
      ⟨_, .lease hworker (le_refl start) hpositive claimable hleft expires_ok, hbuild⟩, rfl⟩
  obtain ⟨hholds, -⟩ := hheld.held
  obtain ⟨done, hdone, hend, hnext⟩ := hholds.exists_complete hreference
  have hsettle : jobMachine.exec job
      (.complete "worker_1" job.tokenOrMissing start job.version "plink_1") = .ok (done, ()) :=
    map_ok_iff.mpr ⟨done, hdone, rfl⟩
  have hfirst : jobStore.Takes ⟨⟨created, []⟩, ⟨0, .claim "worker_1" start (seconds 30) 0⟩,
      ⟨job, [created]⟩, ()⟩ := Machine.swapped_of_current rfl hclaim
  have hsecond : jobStore.Takes ⟨⟨job, [created]⟩,
      ⟨1, .complete "worker_1" job.tokenOrMissing start job.version "plink_1"⟩,
      ⟨done, [created, job]⟩, ()⟩ := Machine.swapped_of_current rfl hsettle
  have hrun := (Machine.Run.start.next hfirst).next hsecond
  refine ⟨_, _, hrun, rfl, .inl hend, fenced_of_run create_ok hrun (not_tokenCollision ?_)⟩
  -- the second step ends the job, so the first one is the only lease
  have honly : ∀ l ∈ [Machine.behind ⟨⟨created, []⟩, ⟨0, .claim "worker_1" start (seconds 30) 0⟩,
      ⟨job, [created]⟩, ()⟩, ⟨job, .complete "worker_1" job.tokenOrMissing start job.version
      "plink_1", done, ()⟩], leasing l = true → l = ⟨created, .claim "worker_1" start (seconds 30) 0,
      job, ()⟩ := by
    intro l hl hleasing
    rcases List.mem_cons.mp hl with rfl | hl
    · rfl
    · rw [List.mem_singleton.mp hl] at hleasing
      have hstate : done.state = .leased := of_decide_eq_true hleasing
      exact absurd (hend.symm.trans hstate) (by simp)
  intro l hl l' hl' hleasing hleasing'
  rw [honly l hl hleasing, honly l' hl' hleasing']

end LastAttempt

end Retrywise.ControlPlane
