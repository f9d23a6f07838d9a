import Retrywise.ControlPlane.KillSwitch

/-!
# Runs past the kill switch

A run of one job's machine is a run of the merchant's, as long as the merchant's row is as the
job's path has it; an authorization is opened and committed in two steps there. So the first
delivery of an offer's job, authorized, can be put beside the calls of the switch.

Two runs come of it. A delivery that is authorized before the switch goes on still asks for its
create afterwards. And the switch is not on after *every* committed `set_kill_switch(True)`: one
that is sent again after a later release is answered with its recorded event and changes
nothing, so a delivery authorized after it asks for its create.

> `stale_hold_is_no_barrier`: read for every committed call that asks for the switch to be on,
> the barrier does not hold.
-/

namespace Retrywise.ControlPlane

open Retrywise.Foundation Retrywise.Domain

namespace MerchantWorld

section

variable [Hashlib] {systems : Nat → CreateSystem} {w : MerchantWorld}

theorem run_next {init mid post : MerchantWorld} {steps : List MerchantStep}
    {c : MerchantCommand} {out : MerchantOutput} (hrun : (machine systems).Run init steps mid)
    (h : exec systems mid c = .ok (post, out)) :
    (machine systems).Run init (steps ++ [⟨mid, c, post, out⟩]) post :=
  hrun.next (s := ⟨mid, c, post, out⟩) h

/-- A call of the controls and its commit. -/
theorem run_control (hfree : w.held = none) (halone : w.sharing = [])
    {t : Step MerchantControlTables ControlCall ControlReply} (ht : merchantControls.Takes t)
    (hpre : t.pre = w.controls) :
    ∃ ask hold, (machine systems).Run w [ask, hold] { w with controls := t.post } ∧
      ask.out = .silent ∧ hold.out = .controlled t.cmd t.out := by
  have hcall : merchantControls.exec w.controls t.cmd = .ok (t.post, t.out) := hpre ▸ ht
  have hbegin : exec systems w (.control t.cmd) =
      .ok ({ w with held := some t }, .silent) := by
    obtain ⟨pre, cmd, post, out⟩ := t
    dsimp only at hpre hcall
    subst hpre
    simp [exec, beginControl, hfree, halone, hcall]
  have hcommit : exec systems { w with held := some t } .commitControl =
      .ok ({ w with controls := t.post }, .controlled t.cmd t.out) := by
    rw [hfree]
    rfl
  exact ⟨_, _, run_next (run_next Machine.Run.start hbegin) hcommit, rfl, rfl⟩

/-- Calls of the controls, each committed before the next; none of these steps is the commit of
an authorization. -/
theorem run_controls (hfree : w.held = none) (halone : w.sharing = [])
    {steps : List (Step MerchantControlTables ControlCall ControlReply)}
    {final : MerchantControlTables} (hrun : merchantControls.Run w.controls steps final) :
    ∃ lifted, (machine systems).Run w lifted { w with controls := final } ∧
      ∀ s ∈ lifted, ∀ who, ¬Authorizes who s := by
  induction hrun with
  | start => exact ⟨[], Machine.Run.start, fun s hs => absurd hs List.not_mem_nil⟩
  | @next past t hpast hstep ih =>
    obtain ⟨lifted, hlifted, hquiet⟩ := ih
    obtain ⟨ask, hold, hmore, hask, hhold⟩ := run_control (w := { w with controls := t.pre })
      hfree halone hstep rfl
    refine ⟨_, Machine.Run.append hlifted hmore, ?_⟩
    intro s hs who hwho
    rcases List.mem_append.mp hs with hs | hs
    · exact hquiet s hs who hwho
    · simp only [List.mem_cons, List.not_mem_nil, or_false] at hs
      rcases hs with rfl | rfl
      · exact absurd (hask.symm.trans hwho) (by simp)
      · exact absurd (hhold.symm.trans hwho) (by simp)

/-- No step of these is the commit of a call. -/
def NoControl (steps : List MerchantStep) : Prop :=
  ∀ s ∈ steps, ∀ call reply, s.out ≠ .controlled call reply

/-- An authorization that is recorded is opened and committed, and one that raises is not
opened. -/
theorem run_authorize (hfree : w.held = none) (halone : w.sharing = []) {index version : Nat}
    {fencedAt writtenAt : Timestamp} {claim : ClaimedOutboxCommand} {outboxJob : OutboxJob}
    {stage : Stage} {progress : Progress}
    (hdelivery : (w.seen index).delivery version = some ⟨claim, .working outboxJob stage⟩)
    (hadvance : (systems index).advance (w.seen index).row (w.seen index).path claim.workerId
      outboxJob stage (.authorize fencedAt writtenAt) = some progress) :
    ∃ steps, (machine systems).Run w steps
        { w with jobs := setJob w.jobs index ((w.seen index).moved version claim progress) } ∧
      NoControl steps := by
  cases hphase : progress.phase with
  | working job reached =>
    let a : OpenAuthorization := ⟨index, version, claim, progress⟩
    have hopen : exec systems w (.authorize index version fencedAt writtenAt) =
        .ok ({ w with sharing := [a] }, .silent) := by
      simp [exec, openAuthorization, hfree, halone, hdelivery, hadvance, hphase, a]
    have hcommit : exec systems { w with sharing := [a] } (.commitAuthorization index) =
        .ok ({ w with
          jobs := setJob w.jobs index ((w.seen index).moved version claim progress) },
          .authorized index version) := by
      obtain ⟨controls, held, sharing, jobs⟩ := w
      dsimp only at halone
      subst halone
      simp [exec, closeAuthorization, a, seen]
    refine ⟨_, run_next (run_next Machine.Run.start hopen) hcommit, ?_⟩
    intro s hs call reply hout
    simp only [List.nil_append, List.mem_append, List.mem_singleton] at hs
    rcases hs with rfl | rfl
    · exact absurd hout (by simp)
    · exact absurd hout (by simp)
  | settling result =>
    have hopen : exec systems w (.authorize index version fencedAt writtenAt) =
        .ok ({ w with
          jobs := setJob w.jobs index ((w.seen index).moved version claim progress) },
          .silent) := by
      simp [exec, openAuthorization, hfree, halone, hdelivery, hadvance, hphase]
    refine ⟨_, run_next Machine.Run.start hopen, ?_⟩
    intro s hs call reply hout
    obtain rfl := List.mem_singleton.mp hs
    exact absurd hout (by simp)
  | closed =>
    have hopen : exec systems w (.authorize index version fencedAt writtenAt) =
        .ok ({ w with
          jobs := setJob w.jobs index ((w.seen index).moved version claim progress) },
          .silent) := by
      simp [exec, openAuthorization, hfree, halone, hdelivery, hadvance, hphase]
    refine ⟨_, run_next Machine.Run.start hopen, ?_⟩
    intro s hs call reply hout
    obtain rfl := List.mem_singleton.mp hs
    exact absurd hout (by simp)

/-- A step of a job's machine, where the merchant's row is as the job has it. -/
theorem run_job (hfree : w.held = none) (halone : w.sharing = []) {index : Nat} {t : CreateStep}
    (ht : (systems index).machine.Takes t) (hpre : t.pre = w.seen index) :
    ∃ steps, (machine systems).Run w steps { w with jobs := setJob w.jobs index t.post } ∧
      NoControl steps := by
  obtain ⟨pre, cmd, post, out⟩ := t
  dsimp only at hpre
  subst hpre
  have hexec : (systems index).exec (w.seen index) cmd = .ok (post, out) := ht
  by_cases hquiet : cmd.authorizes = false
  · -- any step but this one is taken as it is
    have hstep : exec systems w (.job index cmd) =
        .ok ({ w with jobs := setJob w.jobs index post }, outputOf index cmd out) := by
      simp [exec, runJob, hquiet, halone, CreateSystem.machine, hexec]
    refine ⟨_, run_next Machine.Run.start hstep, ?_⟩
    intro s hs call reply hout
    obtain rfl := List.mem_singleton.mp hs
    rcases outputOf_cases index cmd out with hsilent | ⟨v, step, -, what, -, hasked⟩
    · exact absurd (hsilent.symm.trans hout) (by simp)
    · exact absurd (hasked.symm.trans hout) (by simp)
  · cases cmd with
    | claim terms now => exact absurd rfl hquiet
    | settle version now => exact absurd rfl hquiet
    | deliver version step =>
      cases step with
      | authorize fencedAt writtenAt =>
        unfold CreateSystem.exec at hexec
        dsimp only at hexec
        split at hexec
        next claim outboxJob stage hdelivery =>
          split at hexec
          next progress hadvance =>
            obtain ⟨rfl, -⟩ := Prod.mk.inj (Except.ok.inj hexec)
            exact run_authorize hfree halone hdelivery hadvance
          next => exact absurd hexec (by simp)
        next => exact absurd hexec (by simp)
      | read | send | answer | lookup | persist | report | fail => exact absurd rfl hquiet

/-- A run of a job's machine, where the merchant's row is as the job has it throughout. -/
theorem run_jobs (hfree : w.held = none) (halone : w.sharing = []) {index : Nat}
    {steps : List CreateStep} {state : CreateJob}
    (hrun : (systems index).machine.Run (w.jobs index) steps state)
    (haround : ∀ past reached, (systems index).machine.Run (w.jobs index) past reached →
      reached.path.around.merchantStatus = w.controls.merchant.status ∧
        reached.path.around.merchantKillSwitch = w.controls.merchant.killSwitchEnabled) :
    ∃ lifted, (machine systems).Run w lifted { w with jobs := setJob w.jobs index state } ∧
      NoControl lifted := by
  induction hrun with
  | start =>
    refine ⟨[], ?_, fun s hs => absurd hs List.not_mem_nil⟩
    have hsame : setJob w.jobs index (w.jobs index) = w.jobs := by
      funext other
      by_cases hother : other = index
      · rw [hother, setJob_self]
      · rw [setJob_other hother]
    rw [hsame]
    exact Machine.Run.start
  | @next past t hpast hstep ih =>
    obtain ⟨lifted, hlifted, hquiet⟩ := ih
    obtain ⟨hstatus, hswitch⟩ := haround past t.pre hpast
    have hseen : t.pre = seen { w with jobs := setJob w.jobs index t.pre } index := by
      unfold seen
      dsimp only
      rw [setJob_self, ← hstatus, ← hswitch]
    obtain ⟨more, hmore, hstill⟩ := run_job (w := { w with jobs := setJob w.jobs index t.pre })
      hfree halone hstep hseen
    have htwice : setJob (setJob w.jobs index t.pre) index t.post =
        setJob w.jobs index t.post := by
      funext other
      by_cases hother : other = index
      · rw [hother, setJob_self, setJob_self]
      · rw [setJob_other hother, setJob_other hother, setJob_other hother]
    refine ⟨lifted ++ more, ?_, ?_⟩
    · have hboth := Machine.Run.append hlifted hmore
      rw [← htwice]
      exact hboth
    · intro s hs
      rcases List.mem_append.mp hs with hs | hs
      · exact hquiet s hs
      · exact hstill s hs

/-- An authorized delivery that may create asks for it, whatever the switch is by then. -/
theorem exists_send (halone : w.sharing = []) {index version : Nat} {claim : ClaimedOutboxCommand}
    {job : OutboxJob} {effect : GateDecision} {now : Timestamp}
    (hdelivery : (w.jobs index).delivery version =
      some ⟨claim, .working job (.authorized effect now)⟩)
    (hbegun : beginEffect job (systems index).command claim.workerId now effect = .ok .create) :
    ∃ s, (machine systems).Takes s ∧ s.pre = w ∧ AsksCreate (index, version) s := by
  have hseen : (w.seen index).delivery version =
      some ⟨claim, .working job (.authorized effect now)⟩ := hdelivery
  obtain ⟨next, hexec⟩ : ∃ next, (systems index).machine.exec (w.seen index)
      (.deliver version .send) = .ok (next, some (systems index).createCall) :=
    ⟨_, CreateSystem.exec_deliver hseen (CreateSystem.advance_send _ hbegun)⟩
  have hstep : exec systems w (.job index (.deliver version .send)) =
      .ok ({ w with jobs := setJob w.jobs index next },
        .asked index version (systems index).createCall) := by
    simp [exec, runJob, CreateCommand.authorizes, halone, hexec, outputOf]
  exact ⟨⟨w, .job index (.deliver version .send), { w with jobs := setJob w.jobs index next },
    .asked index version (systems index).createCall⟩, hstep, rfl, _, _, rfl⟩

end

end MerchantWorld

/-! ## An offer under the switch -/

section

variable (o : LinkOffer)

def offerSystems [Hashlib] : Nat → CreateSystem := fun _ => LinkDelivery.system o

/-- The merchant with these controls, and offers nobody has delivered yet. -/
def offerWorld [Hashlib] (controls : MerchantControlTables) : MerchantWorld where
  controls := controls
  held := none
  sharing := []
  jobs := fun _ => LinkDelivery.job o

variable {o} [Hashlib]

theorem unclaimed_offerWorld {controls : MerchantControlTables} :
    (offerWorld o controls).Unclaimed := ⟨rfl, rfl, fun _ _ => rfl⟩

/-- While the switch is off, the first delivery of an offer is authorized; and from then on it
asks for its create, whatever the controls are. -/
theorem exists_authorized (o : LinkOffer) {controls : MerchantControlTables}
    (hactive : controls.merchant.status = .active)
    (hoff : controls.merchant.killSwitchEnabled = false) :
    ∃ steps jobs, (MerchantWorld.machine (offerSystems o)).Run (offerWorld o controls) steps
        { offerWorld o controls with jobs := jobs } ∧ MerchantWorld.NoControl steps ∧
      ∀ later, ∃ s, (MerchantWorld.machine (offerSystems o)).Takes s ∧
        s.pre = { offerWorld o later with jobs := jobs } ∧ AsksCreate (0, 1) s := by
  obtain ⟨_, _, effect, _, hcleared, hqueued, hnone⟩ := LinkDelivery.exists_cleared o
  obtain ⟨started, -, -, hauthorized⟩ := hcleared.start (by decide) hqueued hnone
  let jobs := setJob (offerWorld o controls).jobs 0 started.post
  obtain ⟨lifted, hlifted, hquiet⟩ : ∃ lifted, (MerchantWorld.machine (offerSystems o)).Run
      (offerWorld o controls) lifted { offerWorld o controls with jobs := jobs } ∧
        MerchantWorld.NoControl lifted := by
    refine MerchantWorld.run_jobs rfl rfl hauthorized.run ?_
    intro past reached hreached
    rw [(LinkDelivery.around_of_run hreached).1]
    exact ⟨hactive.symm, hoff.symm⟩
  refine ⟨lifted, _, hlifted, hquiet, ?_⟩
  intro later
  obtain ⟨claim, outboxJob, expiry, -, hdelivery, -, hmode⟩ := hauthorized.works
  exact MerchantWorld.exists_send rfl hdelivery (beginEffect_create_iff.mpr
    ⟨hmode ▸ (by decide), LinkDelivery.validateExpiry_firstTime o⟩)

end

/-- The calls of a hold and its release, and the state they leave. -/
def releasedMerchant : MerchantControlTables :=
  (merchantControls.play heldMerchant [.killSwitch (holdCall "01HZX3V5K7M9N1P3R5T7W9Y1B1"),
    .killSwitch releaseCall]).2

/-- The call has returned, and the switch of an active merchant is as given. -/
def leavesSwitch (on : Bool) :
    Except MerchantControlError (MerchantControlTables × ControlReply) → Bool
  | .ok (tables, .killSwitch state) =>
    tables.merchant.status = .active && tables.merchant.killSwitchEnabled == on &&
      state.killSwitchEnabled == on
  | _ => false

theorem exists_of_leavesSwitch {on : Bool} {tables : MerchantControlTables} {call : SetKillSwitch}
    (h : leavesSwitch on (merchantControls.exec tables (.killSwitch call)) = true) :
    ∃ t state, merchantControls.Takes t ∧ t.pre = tables ∧ t.cmd = .killSwitch call ∧
      t.out = .killSwitch state ∧ t.post.merchant.status = .active ∧
      t.post.merchant.killSwitchEnabled = on ∧ state.killSwitchEnabled = on := by
  unfold leavesSwitch at h
  split at h
  next next state hexec =>
    simp only [Bool.and_eq_true, decide_eq_true_eq, beq_iff_eq] at h
    obtain ⟨⟨hactive, hswitch⟩, hstate⟩ := h
    exact ⟨⟨tables, .killSwitch call, next, .killSwitch state⟩, state, hexec, rfl, rfl, rfl,
      hactive, hswitch, hstate⟩
  next => exact absurd h (by simp)

def upiOffer : LinkOffer := ⟨⟨12500, "INR", isCurrency_inr⟩, "upi", by decide, isPaymentMethod_upi⟩

/-- A delivery that was authorized asks for its create when the switch is on. -/
theorem kill_switch_barrier_in_flight :
    ∃ systems init final before hold send, init.Unclaimed ∧
      (MerchantWorld.machine systems).Run init (before ++ [hold, send]) final ∧
      SwitchesOn hold ∧ AsksCreate (0, 1) send ∧
      Barrier Authorizes AsksCreate SwitchesOn SwitchesOff (before ++ [hold, send]) := by
  obtain ⟨t, state, ht, hpre, hcmd, hout, -, -, hon⟩ := exists_of_leavesSwitch
    (by decide +kernel : leavesSwitch true (merchantControls.exec heldMerchant
      (.killSwitch (holdCall "01HZX3V5K7M9N1P3R5T7W9Y1B1"))) = true)
  obtain ⟨lifted, jobs, hlifted, -, hsend⟩ : ∃ steps jobs, _ ∧ _ ∧ _ :=
    exists_authorized upiOffer (rfl : heldMerchant.merchant.status = .active) rfl
  obtain ⟨send, hstep, hfrom, hasks⟩ := hsend t.post
  obtain ⟨ask, hold, hheld, -, hhold⟩ : ∃ ask hold,
      (MerchantWorld.machine (offerSystems upiOffer)).Run
        { offerWorld upiOffer heldMerchant with jobs := jobs } [ask, hold]
        { offerWorld upiOffer t.post with jobs := jobs } ∧ _ ∧ hold.out = _ :=
    MerchantWorld.run_control rfl rfl ht hpre
  have hbefore : (MerchantWorld.machine (offerSystems upiOffer)).Run
      (offerWorld upiOffer heldMerchant) (lifted ++ [ask, hold]) send.pre :=
    hfrom ▸ Machine.Run.append hlifted hheld
  have hrun : (MerchantWorld.machine (offerSystems upiOffer)).Run
      (offerWorld upiOffer heldMerchant) ((lifted ++ [ask]) ++ [hold, send]) send.post := by
    have hafter := hbefore.next hstep
    simp only [List.append_assoc, List.cons_append, List.nil_append] at hafter ⊢
    exact hafter
  have hswitches : SwitchesOn hold := ⟨_, state, by rw [hhold, hcmd, hout], rfl, hon⟩
  exact ⟨_, _, _, _, hold, send, unclaimed_offerWorld, hrun, hswitches, hasks,
    kill_switch_barrier unclaimed_offerWorld hrun⟩

/-- **A hold that is sent again after its release is no barrier**: it commits, the switch stays
off, and a delivery that is authorized behind it asks for its create. -/
theorem stale_hold_is_no_barrier :
    ∃ systems init final steps, init.Unclaimed ∧
      (MerchantWorld.machine systems).Run init steps final ∧
      ¬Barrier Authorizes AsksCreate EnableCommits DisableCommits steps := by
  obtain ⟨t, state, ht, hpre, hcmd, hout, hactive, hoff, -⟩ := exists_of_leavesSwitch
    (by decide +kernel : leavesSwitch false (merchantControls.exec releasedMerchant
      (.killSwitch (holdCall "01HZX3V5K7M9N1P3R5T7W9Y1B3"))) = true)
  obtain ⟨before, hbefore, hnone⟩ : ∃ before, (MerchantWorld.machine (offerSystems upiOffer)).Run
      (offerWorld upiOffer heldMerchant) before
      (offerWorld upiOffer releasedMerchant) ∧
        ∀ s ∈ before, ∀ who, ¬Authorizes who s :=
    MerchantWorld.run_controls rfl rfl (Machine.Run.of_play merchantControls heldMerchant
      [.killSwitch (holdCall "01HZX3V5K7M9N1P3R5T7W9Y1B1"), .killSwitch releaseCall])
  obtain ⟨ask, hold, hheld, hask, hhold⟩ : ∃ ask hold,
      (MerchantWorld.machine (offerSystems upiOffer)).Run
        (offerWorld upiOffer releasedMerchant) [ask, hold] (offerWorld upiOffer t.post) ∧
        ask.out = _ ∧ hold.out = _ :=
    MerchantWorld.run_control rfl rfl ht hpre
  obtain ⟨lifted, jobs, hlifted, hquiet, hsend⟩ := exists_authorized upiOffer hactive hoff
  obtain ⟨send, hstep, hfrom, hasks⟩ := hsend t.post
  have hpast : (MerchantWorld.machine (offerSystems upiOffer)).Run
      (offerWorld upiOffer heldMerchant) ((before ++ [ask, hold]) ++ lifted) send.pre :=
    hfrom ▸ Machine.Run.append (Machine.Run.append hbefore hheld) hlifted
  refine ⟨_, _, _, _, unclaimed_offerWorld, hpast.next hstep, ?_⟩
  intro hbarrier
  have hsplit : (before ++ [ask, hold]) ++ lifted ++ [send] =
      (before ++ [ask]) ++ hold :: (lifted ++ send :: []) := by simp
  have hcommits : EnableCommits hold := ⟨_, state, by rw [hhold, hcmd, hout], rfl⟩
  obtain ⟨⟨g, hg, hauthorizes⟩, -⟩ := hbarrier _ _ _ _ _ (0, 1) hsplit hcommits
    (fun s hs hdisables => by
      obtain ⟨call, reply, hgiven, -⟩ := hdisables
      exact hquiet s hs _ _ hgiven) hasks
  -- nobody was authorized before the hold was sent again
  rcases List.mem_append.mp hg with hg | hg
  · exact hnone g hg _ hauthorizes
  · obtain rfl := List.mem_singleton.mp hg
    exact absurd (hask.symm.trans hauthorizes) (by simp)

end Retrywise.ControlPlane
