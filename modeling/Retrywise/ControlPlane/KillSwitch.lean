import Retrywise.ControlPlane.CreateOnce
import Retrywise.ControlPlane.MerchantControlRuns
import Retrywise.Foundation.Barrier

/-!
# The kill switch

One merchant with its controls and any number of create jobs, each with all its deliveries.
`set_kill_switch` holds the merchant's row lock from its first statement to its commit;
`record_effect_authorization` holds the row's share lock from `_LOCK_PATH` to its commit, with
the rows of its job and path. So a transaction of either kind waits for an open one of the
other, and everything else may come in between: the context of a delivery is loaded without a
lock, and provider calls are made with no transaction open.

A delivery sees the merchant's row as it is committed. Only the locks of the authorization and
of the controls are modelled; where another transaction would have to wait for the merchant's
row, here it need not.

> `kill_switch_barrier`: while the switch is on, whoever asks the provider to create was
> authorized before it was switched on.
-/

namespace Retrywise.ControlPlane

open Retrywise.Foundation Retrywise.Domain

/-! ## The merchant and its jobs -/

/-- An open `record_effect_authorization`: whose it is, and what it leaves when it commits. -/
structure OpenAuthorization where
  job : Nat
  version : Nat
  claim : ClaimedOutboxCommand
  progress : Progress

structure MerchantWorld where
  controls : MerchantControlTables
  held : Option (Step MerchantControlTables ControlCall ControlReply)
  sharing : List OpenAuthorization
  jobs : Nat → CreateJob

inductive MerchantCommand where
  | control (call : ControlCall)
  | commitControl
  | rollbackControl
  | authorize (index version : Nat) (fencedAt writtenAt : Timestamp)
  | commitAuthorization (index : Nat)
  | rollbackAuthorization (index : Nat)
  | job (index : Nat) (command : CreateCommand)

inductive MerchantOutput where
  | silent
  | controlled (call : ControlCall) (reply : ControlReply)
  | authorized (index version : Nat)
  | asked (index version : Nat) (call : ProviderCall)

inductive MerchantRefusal where
  | waits
  | absent
  | control (error : MerchantControlError)
  | job (error : ControlPlaneError)

abbrev MerchantStep := Step MerchantWorld MerchantCommand MerchantOutput

/-- The step is that of `record_effect_authorization`. -/
def CreateCommand.authorizes : CreateCommand → Bool
  | .deliver _ (.authorize _ _) => true
  | _ => false

/-- The rows an open authorization has locked are those of the job's row and its path. -/
def OpenAuthorization.blocks (a : OpenAuthorization) (index : Nat) : CreateCommand → Bool
  | .claim _ _ | .settle _ _ | .deliver _ (.persist _ _) => a.job = index
  | .deliver version _ => a.job = index && a.version = version

/-- The calls of a delivery go out under its name. -/
def outputOf (index : Nat) : CreateCommand → Option ProviderCall → MerchantOutput
  | .deliver version _, some call => .asked index version call
  | _, _ => .silent

def setJob (jobs : Nat → CreateJob) (index : Nat) (job : CreateJob) : Nat → CreateJob :=
  fun other => if other = index then job else jobs other

theorem setJob_self {jobs : Nat → CreateJob} {index : Nat} {job : CreateJob} :
    setJob jobs index job index = job := if_pos rfl

theorem setJob_other {jobs : Nat → CreateJob} {index other : Nat} {job : CreateJob}
    (h : other ≠ index) : setJob jobs index job other = jobs other := if_neg h

/-- A delivery after one job has gone on is of that job, or where it was. -/
theorem delivery_setJob {jobs : Nat → CreateJob} {index other version : Nat} {job : CreateJob}
    {d : Delivery} (h : (setJob jobs index job other).delivery version = some d) :
    (other = index ∧ job.delivery version = some d) ∨ (jobs other).delivery version = some d := by
  by_cases hother : other = index
  · rw [hother, setJob_self] at h
    exact .inl ⟨hother, h⟩
  · rw [setJob_other hother] at h
    exact .inr h

/-- The job after a delivery has gone on. -/
def CreateJob.moved (job : CreateJob) (version : Nat) (claim : ClaimedOutboxCommand)
    (progress : Progress) : CreateJob :=
  { job with
    path := progress.path
    delivery := CreateSystem.setDelivery job.delivery version ⟨claim, progress.phase⟩ }

theorem delivery_moved {job : CreateJob} {version other : Nat} {claim : ClaimedOutboxCommand}
    {progress : Progress} {d : Delivery}
    (h : (job.moved version claim progress).delivery other = some d) :
    (other = version ∧ d = ⟨claim, progress.phase⟩) ∨
      (other ≠ version ∧ job.delivery other = some d) :=
  delivery_cases rfl h

namespace MerchantWorld

/-- The job with the merchant's row as it is committed. -/
def seen (w : MerchantWorld) (index : Nat) : CreateJob :=
  { w.jobs index with
    path := { (w.jobs index).path with
      around := { (w.jobs index).path.around with
        merchantStatus := w.controls.merchant.status
        merchantKillSwitch := w.controls.merchant.killSwitchEnabled } } }

section

variable [Hashlib] (systems : Nat → CreateSystem)

/-- Up to the commit of a call of the controls; it waits for anybody else at the row. -/
def beginControl (w : MerchantWorld) (call : ControlCall) :
    Except MerchantRefusal (MerchantWorld × MerchantOutput) :=
  if w.held.isSome || !w.sharing.isEmpty then .error .waits
  else
    match merchantControls.exec w.controls call with
    | .error e => .error (.control e)
    | .ok (next, reply) =>
      .ok ({ w with held := some ⟨w.controls, call, next, reply⟩ }, .silent)

/-- `record_effect_authorization` up to its commit; what raises has rolled back. -/
def openAuthorization (w : MerchantWorld) (index version : Nat) (fencedAt writtenAt : Timestamp) :
    Except MerchantRefusal (MerchantWorld × MerchantOutput) :=
  let job := w.seen index
  if w.held.isSome || w.sharing.any fun a => a.job = index then .error .waits
  else
    match job.delivery version with
    | some ⟨claim, .working outboxJob stage⟩ =>
      match (systems index).advance job.row job.path claim.workerId outboxJob stage
          (.authorize fencedAt writtenAt) with
      | none => .error .absent
      | some progress =>
        match progress.phase with
        | .working _ _ =>
          .ok ({ w with sharing := w.sharing ++ [⟨index, version, claim, progress⟩] }, .silent)
        | _ => .ok ({ w with jobs := setJob w.jobs index (job.moved version claim progress) },
          .silent)
    | _ => .error .absent

/-- A step of the job's machine, where nobody holds the rows it writes. -/
def runJob (w : MerchantWorld) (index : Nat) (command : CreateCommand) :
    Except MerchantRefusal (MerchantWorld × MerchantOutput) :=
  if command.authorizes then .error .absent
  else if w.sharing.any fun a => a.blocks index command then .error .waits
  else
    match (systems index).machine.exec (w.seen index) command with
    | .error e => .error (.job e)
    | .ok (next, asked) =>
      .ok ({ w with jobs := setJob w.jobs index next }, outputOf index command asked)

/-- The open authorization of a job ends: committed, or rolled back with an exception. -/
def closeAuthorization (w : MerchantWorld) (index : Nat)
    (finish : OpenAuthorization → CreateJob × MerchantOutput) :
    Except MerchantRefusal (MerchantWorld × MerchantOutput) :=
  match w.sharing.find? fun a => a.job = index with
  | none => .error .absent
  | some a =>
    .ok ({ w with
      sharing := w.sharing.filter fun b => b.job ≠ index
      jobs := setJob w.jobs index (finish a).1 }, (finish a).2)

def exec (w : MerchantWorld) :
    MerchantCommand → Except MerchantRefusal (MerchantWorld × MerchantOutput)
  | .control call => w.beginControl call
  | .commitControl =>
    match w.held with
    | none => .error .absent
    | some t => .ok ({ w with controls := t.post, held := none }, .controlled t.cmd t.out)
  | .rollbackControl => .ok ({ w with held := none }, .silent)
  | .authorize index version fencedAt writtenAt =>
    w.openAuthorization systems index version fencedAt writtenAt
  | .commitAuthorization index =>
    w.closeAuthorization index fun a =>
      ((w.seen index).moved a.version a.claim a.progress, .authorized index a.version)
  | .rollbackAuthorization index =>
    w.closeAuthorization index fun a =>
      ((w.seen index).moved a.version a.claim
        ⟨(w.seen index).path, .settling (handlerFailure (.database "rolled back")), none⟩, .silent)
  | .job index command => w.runJob systems index command

def machine : Machine MerchantWorld MerchantCommand MerchantOutput MerchantRefusal :=
  ⟨exec systems⟩

end

/-! ## What a step can do -/

section

variable [Hashlib] (systems : Nat → CreateSystem)

/-- The steps, by who takes them. -/
inductive Moves (s : MerchantStep) : Prop
  | asked (t : Step MerchantControlTables ControlCall ControlReply)
      (alone : s.pre.held = none ∧ s.pre.sharing = [])
      (takes : merchantControls.Takes t) (pre : t.pre = s.pre.controls)
      (post : s.post = { s.pre with held := some t }) (out : s.out = .silent)
  | controlled (t : Step MerchantControlTables ControlCall ControlReply)
      (held : s.pre.held = some t)
      (post : s.post = { s.pre with controls := t.post, held := none })
      (out : s.out = .controlled t.cmd t.out)
  | forgotten (post : s.post = { s.pre with held := none }) (out : s.out = .silent)
  | opened (a : OpenAuthorization) (free : s.pre.held = none)
      (off : s.pre.controls.merchant.killSwitchEnabled = false)
      (post : s.post = { s.pre with sharing := s.pre.sharing ++ [a] }) (out : s.out = .silent)
  | refused (index version : Nat) (claim : ClaimedOutboxCommand) (path : EffectPath)
      (error : ControlPlaneError)
      (post : s.post = { s.pre with
        jobs := setJob s.pre.jobs index ((s.pre.seen index).moved version claim
          ⟨path, .settling (handlerFailure error), none⟩) }) (out : s.out = .silent)
  | committed (index : Nat) (a : OpenAuthorization) (mem : a ∈ s.pre.sharing)
      (job : a.job = index)
      (post : s.post = { s.pre with
        sharing := s.pre.sharing.filter fun b => b.job ≠ index
        jobs := setJob s.pre.jobs index
          ((s.pre.seen index).moved a.version a.claim a.progress) })
      (out : s.out = .authorized index a.version)
  | dropped (index : Nat) (a : OpenAuthorization) (error : ControlPlaneError)
      (post : s.post = { s.pre with
        sharing := s.pre.sharing.filter fun b => b.job ≠ index
        jobs := setJob s.pre.jobs index ((s.pre.seen index).moved a.version a.claim
          ⟨(s.pre.seen index).path, .settling (handlerFailure error), none⟩) })
      (out : s.out = .silent)
  | ran (index : Nat) (command : CreateCommand) (t : CreateStep)
      (quiet : command.authorizes = false) (takes : (systems index).machine.Takes t)
      (pre : t.pre = s.pre.seen index) (cmd : t.cmd = command)
      (post : s.post = { s.pre with jobs := setJob s.pre.jobs index t.post })
      (out : s.out = outputOf index command t.out)

variable {systems} {s : MerchantStep}

omit [Hashlib] in
theorem closeAuthorization_ok {w next : MerchantWorld} {index : Nat}
    {finish : OpenAuthorization → CreateJob × MerchantOutput} {out : MerchantOutput}
    (h : w.closeAuthorization index finish = .ok (next, out)) :
    ∃ a ∈ w.sharing, a.job = index ∧ out = (finish a).2 ∧
      next = { w with
        sharing := w.sharing.filter fun b => b.job ≠ index
        jobs := setJob w.jobs index (finish a).1 } := by
  unfold closeAuthorization at h
  cases hfind : w.sharing.find? fun a => a.job = index with
  | none =>
    rw [hfind] at h
    exact absurd h (by simp)
  | some a =>
    rw [hfind] at h
    obtain ⟨rfl, rfl⟩ := Prod.mk.inj (Except.ok.inj h)
    exact ⟨a, List.mem_of_find?_eq_some hfind, by simpa using List.find?_some hfind, rfl, rfl⟩

/-- An authorization that is opened has found the switch off. -/
theorem openAuthorization_moves {index version : Nat} {fencedAt writtenAt : Timestamp}
    (h : s.pre.openAuthorization systems index version fencedAt writtenAt =
      .ok (s.post, s.out)) : Moves systems s := by
  unfold openAuthorization at h
  dsimp only at h
  split at h
  next => exact absurd h (by simp)
  next hfree =>
    have hheld : s.pre.held = none := by
      simp only [Bool.or_eq_true, not_or, Option.not_isSome_iff_eq_none] at hfree
      exact hfree.1
    split at h
    next claim outboxJob stage hdelivery =>
      split at h
      next => exact absurd h (by simp)
      next progress hadvance =>
        have hadvances := CreateSystem.advances_of_advance hadvance
        split at h
        next hworking =>
          obtain ⟨hpost, hout⟩ := Prod.mk.inj (Except.ok.inj h)
          refine .opened _ hheld ?_ hpost.symm hout.symm
          cases hadvances with
          | failed error => exact absurd hworking (by simp)
          | @recorded effect context now fenced written changed hrecorded =>
            obtain ⟨-, -, hrecorded⟩ := bind_ok_iff.mp hrecorded
            obtain ⟨-, -, hrecorded⟩ := bind_ok_iff.mp hrecorded
            obtain ⟨_, hbound, -⟩ := bind_ok_iff.mp hrecorded
            rw [raiseIf_ok_iff, not_not] at hbound
            exact hbound.2.2.2.2.2.2.1
        next hended =>
          obtain ⟨hpost, hout⟩ := Prod.mk.inj (Except.ok.inj h)
          cases hadvances with
          | failed error => exact .refused index version claim _ error hpost.symm hout.symm
          | recorded hrecorded => exact absurd rfl (hended _ _)
    next => exact absurd h (by simp)

theorem moves_of_takes (h : (machine systems).Takes s) : Moves systems s := by
  obtain ⟨pre, cmd, post, out⟩ := s
  have h : exec systems pre cmd = .ok (post, out) := h
  cases cmd with
  | control call =>
    simp only [exec, beginControl] at h
    split at h
    next => exact absurd h (by simp)
    next hfree =>
      simp only [Bool.or_eq_true, not_or, Option.not_isSome_iff_eq_none, Bool.not_eq_true',
        Bool.not_eq_false, List.isEmpty_iff] at hfree
      split at h
      next => exact absurd h (by simp)
      next next reply hexec =>
        obtain ⟨rfl, rfl⟩ := Prod.mk.inj (Except.ok.inj h)
        exact .asked ⟨pre.controls, call, next, reply⟩ hfree hexec rfl rfl rfl
  | commitControl =>
    simp only [exec] at h
    split at h
    next => exact absurd h (by simp)
    next t hheld =>
      obtain ⟨rfl, rfl⟩ := Prod.mk.inj (Except.ok.inj h)
      exact .controlled t hheld rfl rfl
  | rollbackControl =>
    obtain ⟨rfl, rfl⟩ := Prod.mk.inj (Except.ok.inj h)
    exact .forgotten rfl rfl
  | authorize index version fencedAt writtenAt => exact openAuthorization_moves h
  | commitAuthorization index =>
    obtain ⟨a, hmem, hjob, hout, hpost⟩ := closeAuthorization_ok h
    exact .committed index a hmem hjob hpost hout
  | rollbackAuthorization index =>
    obtain ⟨a, -, -, hout, hpost⟩ := closeAuthorization_ok h
    exact .dropped index a _ hpost hout
  | job index command =>
    simp only [exec, runJob] at h
    split at h
    next => exact absurd h (by simp)
    next hquiet =>
      split at h
      next => exact absurd h (by simp)
      next =>
        split at h
        next => exact absurd h (by simp)
        next next asked hexec =>
          obtain ⟨rfl, rfl⟩ := Prod.mk.inj (Except.ok.inj h)
          exact .ran index command ⟨pre.seen index, command, next, asked⟩ (by simpa using hquiet)
            hexec rfl rfl rfl rfl

omit [Hashlib] in
theorem outputOf_cases (index : Nat) (command : CreateCommand) (asked : Option ProviderCall) :
    outputOf index command asked = .silent ∨
      ∃ version call, command = .deliver version call ∧ ∃ what, asked = some what ∧
        outputOf index command asked = .asked index version what := by
  unfold outputOf
  split
  next version step call => exact .inr ⟨version, step, rfl, call, rfl, rfl⟩
  next => exact .inl rfl

/-- What a control puts out, its commit puts out. -/
theorem Moves.of_controlled {call : ControlCall} {reply : ControlReply} (h : Moves systems s)
    (hgiven : s.out = .controlled call reply) :
    ∃ t, s.pre.held = some t ∧ s.post = { s.pre with controls := t.post, held := none } ∧
      t.cmd = call ∧ t.out = reply := by
  cases h with
  | controlled t held post out =>
    obtain ⟨hcmd, hout⟩ := MerchantOutput.controlled.inj (out.symm.trans hgiven)
    exact ⟨t, held, post, hcmd, hout⟩
  | ran index command t quiet takes pre cmd post out =>
    rw [hgiven] at out
    rcases outputOf_cases index command t.out with hsilent | ⟨v, step, -, what, -, hasked⟩
    · exact absurd (out.trans hsilent) (by simp)
    · exact absurd (out.trans hasked) (by simp)
  | asked _ _ _ _ _ out | forgotten _ out | opened _ _ _ _ out | refused _ _ _ _ _ _ out
  | committed _ _ _ _ _ out | dropped _ _ _ _ out =>
    exact absurd (out.symm.trans hgiven) (by simp)

/-- What says authorized is the commit of an open authorization. -/
theorem Moves.of_authorized {index version : Nat} (h : Moves systems s)
    (hgiven : s.out = .authorized index version) :
    ∃ a ∈ s.pre.sharing, a.job = index ∧ a.version = version := by
  cases h with
  | committed i a mem job post out =>
    obtain ⟨hindex, hversion⟩ := MerchantOutput.authorized.inj (out.symm.trans hgiven)
    exact ⟨a, mem, job.trans hindex, hversion⟩
  | ran i command t quiet takes pre cmd post out =>
    rw [hgiven] at out
    rcases outputOf_cases i command t.out with hsilent | ⟨v, step, -, what, -, hasked⟩
    · exact absurd (out.trans hsilent) (by simp)
    · exact absurd (out.trans hasked) (by simp)
  | asked _ _ _ _ _ out | forgotten _ out | opened _ _ _ _ out | refused _ _ _ _ _ _ out
  | controlled _ _ _ out | dropped _ _ _ _ out =>
    exact absurd (out.symm.trans hgiven) (by simp)

/-- What asks is a step of a job. -/
theorem Moves.of_asked {index version : Nat} {what : ProviderCall} (h : Moves systems s)
    (hgiven : s.out = .asked index version what) :
    ∃ t, (systems index).machine.Takes t ∧ t.pre = s.pre.seen index ∧ t.out = some what ∧
      ∃ step, t.cmd = .deliver version step := by
  cases h with
  | ran i command t quiet takes pre cmd post out =>
    rw [hgiven] at out
    rcases outputOf_cases i command t.out with hsilent | ⟨v, step, hdeliver, call, hcall, hasked⟩
    · exact absurd (out.trans hsilent) (by simp)
    · obtain ⟨rfl, rfl, rfl⟩ := MerchantOutput.asked.inj (out.trans hasked)
      exact ⟨t, takes, pre, hcall, step, cmd.trans hdeliver⟩
  | asked _ _ _ _ _ out | forgotten _ out | opened _ _ _ _ out | refused _ _ _ _ _ _ out
  | committed _ _ _ _ _ out | controlled _ _ _ out | dropped _ _ _ _ out =>
    exact absurd (out.symm.trans hgiven) (by simp)

end

end MerchantWorld

/-! ## The law -/

/-- The delivery's `record_effect_authorization` commits. -/
def Authorizes (who : Nat × Nat) (s : MerchantStep) : Prop := s.out = .authorized who.1 who.2

/-- The delivery asks the provider to create. -/
def AsksCreate (who : Nat × Nat) (s : MerchantStep) : Prop :=
  ∃ request account, s.out = .asked who.1 who.2 (.create request account)

/-- `set_kill_switch(enabled=True)` commits. -/
def EnableCommits (s : MerchantStep) : Prop :=
  ∃ call state, s.out = .controlled (.killSwitch call) (.killSwitch state) ∧ call.enabled = true

/-- `set_kill_switch(enabled=False)` commits. -/
def DisableCommits (s : MerchantStep) : Prop :=
  ∃ call state, s.out = .controlled (.killSwitch call) (.killSwitch state) ∧ call.enabled = false

/-- `set_kill_switch(enabled=True)` commits, and the switch is on. -/
def SwitchesOn (s : MerchantStep) : Prop :=
  ∃ call state, s.out = .controlled (.killSwitch call) (.killSwitch state) ∧ call.enabled = true ∧
    state.killSwitchEnabled = true

/-- `set_kill_switch(enabled=False)` commits, and the switch is off. -/
def SwitchesOff (s : MerchantStep) : Prop :=
  ∃ call state, s.out = .controlled (.killSwitch call) (.killSwitch state) ∧ call.enabled = false ∧
    state.killSwitchEnabled = false

section

variable [Hashlib] {systems : Nat → CreateSystem}

/-- A call leaves the switch as it was, or sets it as it was asked to; its reply says how the
switch is. -/
theorem killSwitch_after {t : Step MerchantControlTables ControlCall ControlReply}
    (h : merchantControls.Takes t) :
    (∃ call state, t.cmd = .killSwitch call ∧ t.out = .killSwitch state ∧
      t.post.merchant.killSwitchEnabled = state.killSwitchEnabled ∧
      (state.killSwitchEnabled = t.pre.merchant.killSwitchEnabled ∨
        state.killSwitchEnabled = call.enabled)) ∨
    (∀ call, t.cmd ≠ .killSwitch call) ∧
      t.post.merchant.killSwitchEnabled = t.pre.merchant.killSwitchEnabled := by
  obtain ⟨pre, cmd, post, out⟩ := t
  have h : merchantControls.exec pre cmd = .ok (post, out) := h
  rcases merchantControls_ok h with
    ⟨call, state, rfl, rfl, hcall⟩ | ⟨geminiConfigured, call, state, rfl, rfl, hcall⟩
  · obtain ⟨-, -, -, control, event, replay, hsubmit, rfl, -, rfl⟩ := setKillSwitch_ok hcall
    left
    refine ⟨call, _, rfl, rfl, rfl, ?_⟩
    rcases Register.submit_cases (MerchantControl.submit_refines hsubmit) with
      ⟨-, -, -, hsame⟩ | ⟨-, -, hset⟩
    · left
      exact congrArg Register.value hsame
    · right
      exact congrArg Register.value hset
  · obtain ⟨-, -, -, control, event, replay, -, -, -, rfl⟩ := setMode_ok hcall
    right
    exact ⟨fun other hother => ControlCall.noConfusion hother, rfl⟩

/-- A job's own step brings no delivery to where it is authorized. -/
theorem authorized_of_takes {system : CreateSystem} {t : CreateStep} {version : Nat}
    {claim : ClaimedOutboxCommand} {job : OutboxJob} {effect : GateDecision} {now : Timestamp}
    (h : system.machine.Takes t) (hquiet : t.cmd.authorizes = false)
    (hw : t.post.delivery version = some ⟨claim, .working job (.authorized effect now)⟩) :
    t.pre.delivery version = some ⟨claim, .working job (.authorized effect now)⟩ := by
  cases CreateSystem.takes_of_exec h with
  | claimed terms at_ expiresAt cmd due row path quiet delivery =>
    rcases delivery with hsame | ⟨opened, -, -, -, hset⟩
    · rw [← hsame]
      exact hw
    · rcases delivery_cases hset hw with ⟨-, hnew⟩ | ⟨-, hold⟩
      · exact absurd (opening_working (Delivery.mk.inj hnew).2.symm).1 (by simp)
      · exact hold
  | settled v at_ opened result cmd pre row path quiet delivery =>
    rcases delivery_cases delivery hw with ⟨-, hnew⟩ | ⟨-, hold⟩
    · exact absurd (Delivery.mk.inj hnew).2 (by simp)
    · exact hold
  | delivered v step opened outboxJob stage progress cmd pre advances row path asked delivery =>
    rcases delivery_cases delivery hw with ⟨-, hnew⟩ | ⟨-, hold⟩
    · have hphase := (Delivery.mk.inj hnew).2
      cases advances with
      | failed error => exact absurd hphase (by simp)
      | @decided reads decided hdecided =>
        cases decided with
        | finished result => exact absurd hphase (by simp [Decided.stage])
        | cleared effect context now => exact absurd hphase (by simp [Decided.stage])
      | recorded hrecorded =>
        rw [cmd] at hquiet
        exact absurd hquiet (by simp [CreateCommand.authorizes])
      | @begun effect now begun hbegun =>
        cases begun with
        | create => exact absurd hphase (by simp [Begun.stage])
        | reconcile => exact absurd hphase (by simp [Begun.stage])
        | refused result => exact absurd hphase (by simp [Begun.stage])
      | settled | ambiguous | reconciled | persisted | reported => exact absurd hphase (by simp)
    · exact hold

/-- What the locks keep: a call in its transaction works on the committed tables, with nobody
else at the row; and while an authorization is open, the switch is off. -/
structure RowLocked (w : MerchantWorld) : Prop where
  held : ∀ t, w.held = some t →
    merchantControls.Takes t ∧ t.pre = w.controls ∧ w.sharing = []
  sharing : ∀ a ∈ w.sharing, w.controls.merchant.killSwitchEnabled = false

variable {s : MerchantStep}

/-- An authorization that ends leaves the others and the row as they are. -/
theorem RowLocked.filtered {w : MerchantWorld} (h : RowLocked w) (keep : OpenAuthorization → Bool)
    (jobs : Nat → CreateJob) :
    RowLocked { w with sharing := w.sharing.filter keep, jobs := jobs } where
  held t ht := by
    obtain ⟨htakes, hpre, hnone⟩ := h.held t ht
    refine ⟨htakes, hpre, ?_⟩
    show w.sharing.filter keep = []
    rw [hnone, List.filter_nil]
  sharing a ha := h.sharing a (List.mem_filter.mp ha).1

theorem rowLocked_step (h : RowLocked s.pre) (hstep : (MerchantWorld.machine systems).Takes s) :
    RowLocked s.post := by
  cases MerchantWorld.moves_of_takes hstep with
  | asked t alone takes hpre post out =>
    rw [post]
    refine ⟨?_, h.sharing⟩
    intro u hu
    obtain rfl := Option.some.inj hu
    exact ⟨takes, hpre, alone.2⟩
  | controlled t hheld post out =>
    obtain ⟨-, -, hnone⟩ := h.held t hheld
    rw [post]
    refine ⟨fun u hu => absurd hu (by simp), ?_⟩
    intro a ha
    change a ∈ s.pre.sharing at ha
    rw [hnone] at ha
    exact absurd ha List.not_mem_nil
  | forgotten post out =>
    rw [post]
    exact ⟨fun u hu => absurd hu (by simp), h.sharing⟩
  | opened a free off post out =>
    rw [post]
    refine ⟨?_, fun _ _ => off⟩
    intro u hu
    exact absurd (free.symm.trans hu) (by simp)
  | refused index version claim path error post out =>
    rw [post]
    exact ⟨h.held, h.sharing⟩
  | committed index a mem job post out =>
    rw [post]
    exact h.filtered _ _
  | dropped index a error post out =>
    rw [post]
    exact h.filtered _ _
  | ran index command t quiet takes hpre hcmd post out =>
    rw [post]
    exact ⟨h.held, h.sharing⟩

/-- A step that changes the switch is the commit of a call that says so. -/
theorem killSwitch_step (h : RowLocked s.pre) (hstep : (MerchantWorld.machine systems).Takes s) :
    s.post.controls.merchant.killSwitchEnabled = s.pre.controls.merchant.killSwitchEnabled ∨
      ∃ call state, s.out = .controlled (.killSwitch call) (.killSwitch state) ∧
        s.post.controls.merchant.killSwitchEnabled = state.killSwitchEnabled ∧
        state.killSwitchEnabled = call.enabled := by
  cases MerchantWorld.moves_of_takes hstep with
  | controlled t held post out =>
    obtain ⟨htakes, hpre, -⟩ := h.held t held
    rw [post, ← hpre]
    show t.post.merchant.killSwitchEnabled = t.pre.merchant.killSwitchEnabled ∨ _
    rcases killSwitch_after htakes with ⟨call, state, hcmd, hout, hafter, hset⟩ | ⟨-, hsame⟩
    · rcases hset with hset | hset
      · left
        rw [hafter, hset]
      · right
        exact ⟨call, state, by rw [out, hcmd, hout], hafter, hset⟩
    · exact .inl hsame
  | asked t alone takes pre post out => exact .inl (by rw [post])
  | forgotten post out => exact .inl (by rw [post])
  | opened a free off post out => exact .inl (by rw [post])
  | refused index version claim path error post out => exact .inl (by rw [post])
  | committed index a mem job post out => exact .inl (by rw [post])
  | dropped index a error post out => exact .inl (by rw [post])
  | ran index command t quiet takes pre cmd post out => exact .inl (by rw [post])

/-- A commit that says the switch is on has left it on, and is no authorization. -/
theorem on_of_switchesOn (h : RowLocked s.pre) (hstep : (MerchantWorld.machine systems).Takes s)
    (hon : SwitchesOn s) :
    s.post.controls.merchant.killSwitchEnabled = true ∧ ∀ who, ¬Authorizes who s := by
  obtain ⟨call, state, hgiven, -, hstate⟩ := hon
  refine ⟨?_, fun who hwho => absurd (hgiven.symm.trans hwho) (by simp)⟩
  obtain ⟨t, held, post, hcmd, hout⟩ :=
    (MerchantWorld.moves_of_takes hstep).of_controlled hgiven
  obtain ⟨htakes, -, -⟩ := h.held t held
  rw [post]
  rcases killSwitch_after htakes with ⟨other, reply, -, hreply, hafter, -⟩ | ⟨hmode, -⟩
  · obtain rfl := ControlReply.killSwitch.inj (hreply.symm.trans hout)
    exact hafter.trans hstate
  · exact absurd hcmd (hmode call)

/-- An authorization commits while the switch is off. -/
theorem off_of_authorizes {who : Nat × Nat} (h : RowLocked s.pre)
    (hstep : (MerchantWorld.machine systems).Takes s) (hwho : Authorizes who s) :
    s.pre.controls.merchant.killSwitchEnabled = false := by
  obtain ⟨a, hmem, -⟩ := (MerchantWorld.moves_of_takes hstep).of_authorized hwho
  exact h.sharing a hmem

/-- The switch stays on until a commit says it is off. -/
theorem on_until (h : RowLocked s.pre) (hstep : (MerchantWorld.machine systems).Takes s)
    (hon : s.pre.controls.merchant.killSwitchEnabled = true) (hoff : ¬SwitchesOff s) :
    s.post.controls.merchant.killSwitchEnabled = true := by
  rcases killSwitch_step h hstep with hsame | ⟨call, state, hout, hafter, hset⟩
  · rw [hsame, hon]
  · cases hstate : state.killSwitchEnabled with
    | true => rw [hafter, hstate]
    | false =>
      rw [hstate] at hset
      exact absurd ⟨call, state, hout, hset.symm, hstate⟩ hoff

/-! ## Who is authorized -/

/-- Every delivery that is authorized had its authorization committed. -/
def AuthorizedOnRecord (past : List MerchantStep) (w : MerchantWorld) : Prop :=
  ∀ index version claim job effect now,
    (w.jobs index).delivery version = some ⟨claim, .working job (.authorized effect now)⟩ →
      ∃ s ∈ past, Authorizes (index, version) s

theorem authorizedOnRecord_step {past : List MerchantStep} (h : AuthorizedOnRecord past s.pre)
    (hstep : (MerchantWorld.machine systems).Takes s) :
    AuthorizedOnRecord (past ++ [s]) s.post := by
  have hbefore : ∀ index version claim job effect now,
      (s.pre.jobs index).delivery version = some ⟨claim, .working job (.authorized effect now)⟩ →
        ∃ t ∈ past ++ [s], Authorizes (index, version) t := by
    intro index version claim job effect now hw
    obtain ⟨t, ht, hauthorizes⟩ := h index version claim job effect now hw
    exact ⟨t, List.mem_append_left _ ht, hauthorizes⟩
  intro index version claim job effect now hw
  cases MerchantWorld.moves_of_takes hstep with
  | asked t alone takes pre post out =>
    rw [post] at hw
    exact hbefore _ _ _ _ _ _ hw
  | controlled t held post out =>
    rw [post] at hw
    exact hbefore _ _ _ _ _ _ hw
  | forgotten post out =>
    rw [post] at hw
    exact hbefore _ _ _ _ _ _ hw
  | opened a free off post out =>
    rw [post] at hw
    exact hbefore _ _ _ _ _ _ hw
  | refused i v c path error post out =>
    rw [post] at hw
    rcases delivery_setJob hw with ⟨rfl, hnow⟩ | hold
    · rcases delivery_moved hnow with ⟨-, hnew⟩ | ⟨-, hold⟩
      · exact absurd (Delivery.mk.inj hnew).2 (by simp)
      · exact hbefore _ _ _ _ _ _ hold
    · exact hbefore _ _ _ _ _ _ hold
  | committed i a mem ha post out =>
    rw [post] at hw
    rcases delivery_setJob hw with ⟨rfl, hnow⟩ | hold
    · rcases delivery_moved hnow with ⟨hv, -⟩ | ⟨-, hold⟩
      · exact ⟨s, List.mem_append_right _ List.mem_cons_self, by rw [Authorizes, out, hv]⟩
      · exact hbefore _ _ _ _ _ _ hold
    · exact hbefore _ _ _ _ _ _ hold
  | dropped i a error post out =>
    rw [post] at hw
    rcases delivery_setJob hw with ⟨rfl, hnow⟩ | hold
    · rcases delivery_moved hnow with ⟨-, hnew⟩ | ⟨-, hold⟩
      · exact absurd (Delivery.mk.inj hnew).2 (by simp)
      · exact hbefore _ _ _ _ _ _ hold
    · exact hbefore _ _ _ _ _ _ hold
  | ran i command t quiet takes pre cmd post out =>
    rw [post] at hw
    rcases delivery_setJob hw with ⟨rfl, hnow⟩ | hold
    · have hold := authorized_of_takes takes (by rw [cmd]; exact quiet) hnow
      rw [pre] at hold
      exact hbefore _ _ _ _ _ _ hold
    · exact hbefore _ _ _ _ _ _ hold

/-- A create is asked for by a delivery whose authorization was committed. -/
theorem authorized_of_asksCreate {past : List MerchantStep} {who : Nat × Nat}
    (h : AuthorizedOnRecord past s.pre) (hstep : (MerchantWorld.machine systems).Takes s)
    (hasks : AsksCreate who s) : ∃ g ∈ past, Authorizes who g := by
  obtain ⟨request, account, hout⟩ := hasks
  obtain ⟨t, takes, hpre, hasked, step, hcmd⟩ :=
    (MerchantWorld.moves_of_takes hstep).of_asked hout
  obtain ⟨version, hsend, harmed⟩ := armed_of_createRequest takes ⟨request, account, hasked⟩
  obtain ⟨rfl, -⟩ := CreateCommand.deliver.inj (hcmd.symm.trans hsend)
  rw [hpre] at harmed
  obtain ⟨claim, job, effect, now, hdelivery, -⟩ := harmed
  exact h who.1 who.2 claim job effect now hdelivery

/-- A merchant whose jobs nobody has claimed yet, and with no transaction open. -/
structure MerchantWorld.Unclaimed (w : MerchantWorld) : Prop where
  free : w.held = none
  alone : w.sharing = []
  undelivered : ∀ index version, (w.jobs index).delivery version = none

theorem authorizedOnRecord_of_run {init final : MerchantWorld} {steps : List MerchantStep}
    (hinit : init.Unclaimed) (hrun : (MerchantWorld.machine systems).Run init steps final) :
    AuthorizedOnRecord steps final := by
  induction hrun with
  | start =>
    intro index version claim job effect now hw
    exact absurd ((hinit.undelivered index version).symm.trans hw) (by simp)
  | next hpast hstep ih => exact authorizedOnRecord_step ih hstep

/-- **The kill switch is a barrier.** From a commit that switches it on to the next that
switches it off, every provider create is asked for by a delivery that was authorized before,
and not since. -/
theorem kill_switch_barrier {init final : MerchantWorld} {steps : List MerchantStep}
    (hinit : init.Unclaimed) (hrun : (MerchantWorld.machine systems).Run init steps final) :
    Barrier Authorizes AsksCreate SwitchesOn SwitchesOff steps := by
  have hlocked : RowLocked init := by
    refine ⟨fun t ht => ?_, fun a ha => ?_⟩
    · exact absurd (hinit.free.symm.trans ht) (by simp)
    · rw [hinit.alone] at ha
      exact absurd ha List.not_mem_nil
  refine Machine.Run.barrier (I := RowLocked)
    (C := fun w => w.controls.merchant.killSwitchEnabled = true) hlocked
    (fun s => rowLocked_step) (fun s => on_of_switchesOn) (fun s => on_until) ?_ ?_ hrun
  · intro s who hI hstep hwho hon
    rw [off_of_authorizes hI hstep hwho] at hon
    exact absurd hon (by simp)
  · intro past s who hpast hstep hasks
    exact authorized_of_asksCreate (authorizedOnRecord_of_run hinit hpast) hstep hasks

end

end Retrywise.ControlPlane
