import Retrywise.Domain.Progress

/-!
# The late-capture window

A failed payment may still be captured for a while, and no second collection may
start before that window is over. Three laws say how far the code keeps to it.

`collectsAfterWindow`: in every reachable case that has started to collect, the
last transition is at or after the deadline, and the deadline at or after the
policy's floor. Only four commands compare a time with the deadline; for the
others it follows from the clock and from the one way into the collecting states.

`deadlineLaw_iff`: the deadline is never brought forward, exactly in the runs
without a repeated observation that ends earlier than the current window. A
repeated `observe_failure` is a self-transition, which the validator passes, and
it computes the deadline anew from its own arguments.

`unpaidLaw_iff`: a case enters assessment unpaid, exactly in the runs without an
expiry with budget left of a case that is not `UNPAID`. The two other commands
into assessment check the payment state; the expiry does not.
-/

namespace Retrywise.Domain

open Retrywise.Foundation

section

variable [Hashlib] {a b : AggregateFields} {t : Timestamp} {command : Command}
  {moved : Option RecoveryState}

/-! ## The branches that matter -/

/-- Only an observation touches the deadline. -/
theorem Effect.observationDeadline_cases (h : Effect a t command b moved) :
    ((∀ event extend, command ≠ .observeFailure event extend) ∧
        b.observationDeadline = a.observationDeadline) ∨
      ∃ event extend deadline, command = .observeFailure event extend ∧
        (a.state = .dormant ∨ a.state = .observing) ∧ b.state = .observing ∧
        a.lateCapturePolicy.observationDeadline t.toDatetime extend = .ok deadline ∧
        b.observationDeadline = some deadline := by
  cases h with
  | observeFailure hsource hdeadline =>
    exact .inr ⟨_, _, _, rfl, hsource, rfl, hdeadline, rfl⟩
  | _ => exact .inl ⟨by simp, rfl⟩

/-- Into assessment: after the deadline, and unpaid unless an instrument expired
with budget left. -/
theorem Effect.assessing_cases (h : Effect a t command b moved) (hb : b.state = .assessing)
    (henters : a.state ≠ .assessing ∨ moved = some .assessing) :
    a.Elapsed t ∧ b.paymentState = a.paymentState ∧
      (a.paymentState = .unpaid ∨ command = .recordActiveExpired true) := by
  cases h with
  | markReadyForEvaluation _ hunpaid helapsed => exact ⟨helapsed, rfl, .inl hunpaid⟩
  | wake _ hunpaid helapsed => exact ⟨helapsed, rfl, .inl hunpaid⟩
  | @recordActiveExpired budget target htarget _ helapsed =>
    cases budget with
    | true => exact ⟨helapsed hb, rfl, .inr rfl⟩
    | false =>
      simp only [Bool.false_eq_true, if_false] at htarget
      subst htarget
      exact nomatch hb
  | reconcilePaymentTruth => exact absurd hb (henters.resolve_right (by simp))
  | updateIncidentState => exact absurd hb (henters.resolve_right (by simp))
  | recordInternalDecision =>
    exact absurd hb (RecoveryAggregate.internalTarget_ne (by decide))
  | originalPaidClosed hclosed =>
    have hb : a.state = .assessing := hb
    rw [hb] at hclosed
    exact absurd hclosed (by decide)
  | _ => exact absurd hb (by simp [AggregateFields.duplicated])

end

/-! ## No collection inside the window -/

/-- The states a case is in once it has started to collect. -/
def collectingStates : List RecoveryState :=
  [.assessing, .waiting, .approvalRequired, .actionQueued, .executing, .actionUncertain, .active,
    .recovered, .suppressedPolicy, .exhausted, .failedSafe, .escalated]

/-- The only way into the collecting states is from observation to assessment. -/
theorem Admits.collecting {current target : RecoveryState} (h : Admits current target)
    (htarget : target ∈ collectingStates) :
    current ∈ collectingStates ∨ (current = .observing ∧ target = .assessing) := by
  revert h htarget
  cases current <;> cases target <;> decide

/-- The last transition of a collecting case is not before its deadline. -/
def PastDeadline (a : AggregateFields) : Prop :=
  a.state ∈ collectingStates → ∀ deadline, a.observationDeadline = some deadline →
    ∃ last, a.lastTransitionAt = some last ∧ deadline ≤ last

theorem PastDeadline.step [Hashlib] {a b : AggregateFields} {t : Timestamp} {command : Command}
    {moved : Option RecoveryState} (ha : PastDeadline a) (h : Effect a t command b moved)
    (ht : ∀ last, a.lastTransitionAt = some last → last ≤ t) : PastDeadline b := by
  intro hb deadline hdeadline
  refine ⟨t, h.lastTransitionAt_eq, ?_⟩
  rcases h.observationDeadline_cases with ⟨-, hsame⟩ | ⟨_, _, _, _, _, hobserving, _⟩
  · rw [hsame] at hdeadline
    -- collecting before: the clock does not go back; else the step is the one way in
    rcases h.state_admits.collecting hb with ha' | ⟨hobserving, hassessing⟩
    · obtain ⟨last, hlast, hle⟩ := ha ha' deadline hdeadline
      exact le_trans hle (ht last hlast)
    · obtain ⟨⟨d, hd, hle⟩, -⟩ :=
        h.assessing_cases hassessing (.inl (by rw [hobserving]; decide))
      obtain rfl := Option.some.inj (hd.symm.trans hdeadline)
      exact hle
  · -- an observation leaves the case in `OBSERVING`, which does not collect
    rw [hobserving] at hb
    exact absurd hb (by decide)

/-- **No collection step happens inside the late-capture window.** -/
theorem collectsAfterWindow [Hashlib] {b : RecoveryAggregate} (h : Reachable b)
    (hb : b.state ∈ collectingStates) :
    ∃ last deadline started, b.lastTransitionAt = some last ∧
      b.observationDeadline = some deadline ∧ b.observationStartedAt = some started ∧
      deadline ≤ last ∧
      started.micros + b.lateCapturePolicy.minimumObservationWindow ≤ deadline.micros ∧
      seconds 120 ≤ b.lateCapturePolicy.minimumObservationWindow := by
  obtain ⟨a, steps, hfresh, hrun⟩ := h
  have h0 : PastDeadline a.toAggregateFields := by
    obtain ⟨_, _, _, _, _, hfields⟩ := hfresh.fields
    intro hcollecting
    rw [hfields] at hcollecting
    simp [collectingStates] at hcollecting
  have hpast : PastDeadline b.toAggregateFields :=
    run_invariant h0 (fun hI heff ht => hI.step heff ht) hrun
  have hstarted : b.state ≠ .dormant := by
    intro hdormant
    rw [hdormant] at hb
    exact absurd hb (by decide)
  obtain ⟨hs, hd, -⟩ := b.valid.started hstarted
  obtain ⟨started, hs⟩ := Option.ne_none_iff_exists'.mp hs
  obtain ⟨deadline, hd⟩ := Option.ne_none_iff_exists'.mp hd
  obtain ⟨last, hlast, hle⟩ := hpast hb deadline hd
  obtain ⟨floor, hfloor, hle'⟩ := b.valid.floor started deadline hs hd
  refine ⟨last, deadline, started, hlast, hd, hs, hle, ?_, b.lateCapturePolicy.aboveFloor⟩
  rw [← shift_ok_iff.mp hfloor]
  exact Timestamp.le_iff.mp hle'

/-- The sample case with its link active is past its window. -/
theorem collectsAfterWindow_active :
    ∃ b : RecoveryAggregate, b.state = .active ∧ ∃ last deadline started,
      b.lastTransitionAt = some last ∧ b.observationDeadline = some deadline ∧
      b.observationStartedAt = some started ∧ deadline ≤ last ∧
      started.micros + b.lateCapturePolicy.minimumObservationWindow ≤ deadline.micros ∧
      seconds 120 ≤ b.lateCapturePolicy.minimumObservationWindow := by
  obtain ⟨steps, b, hrun, -, hb⟩ := exists_run_active fresh_sampleCase sampleScenario_suits
  have hreachable : Reachable b := ⟨_, _, fresh_sampleCase, hrun⟩
  exact ⟨b, hb.state_eq, collectsAfterWindow hreachable (by rw [hb.state_eq]; decide)⟩

/-! ## The deadline along a run -/

/-- A set deadline stays set, and does not move forward in time. -/
def DeadlineKept (a b : AggregateFields) : Prop :=
  ∀ deadline, a.observationDeadline = some deadline →
    ∃ deadline', b.observationDeadline = some deadline' ∧ deadline ≤ deadline'

theorem DeadlineKept.trans {a b c : AggregateFields} (h₁ : DeadlineKept a b)
    (h₂ : DeadlineKept b c) : DeadlineKept a c := by
  intro deadline hdeadline
  obtain ⟨d₁, hd₁, hle₁⟩ := h₁ deadline hdeadline
  obtain ⟨d₂, hd₂, hle₂⟩ := h₂ d₁ hd₁
  exact ⟨d₂, hd₂, hle₁.trans hle₂⟩

/-- Since any earlier step, the deadline was only lengthened. -/
def DeadlineLaw (past : List CaseStep) (s : CaseStep) : Prop :=
  ∀ earlier ∈ past ++ [s], DeadlineKept earlier.pre.toAggregateFields s.post.toAggregateFields

/-- A repeated observation whose policy floor and whose suggestion, if any, both
lie before the current deadline. -/
def ShortensDeadline (s : CaseStep) : Prop :=
  s.pre.state = .observing ∧ ∃ event extend, s.cmd.command = .observeFailure event extend ∧
    ∃ current observedAt, s.pre.observationDeadline = some current ∧
      requireUtc s.cmd.atTime "occurred_at" = .ok observedAt ∧
      observedAt.micros + s.pre.lateCapturePolicy.minimumObservationWindow < current.micros ∧
      ∀ extension requested, extend = some extension →
        requireUtc extension "extend_observation_until" = .ok requested → requested < current

section

variable [Hashlib] {s : CaseStep}

theorem not_deadlineKept_of_shortens (h : recovery.Takes s) (hshort : ShortensDeadline s) :
    ¬DeadlineKept s.pre.toAggregateFields s.post.toAggregateFields := by
  obtain ⟨-, event, extend, hcmd, current, observedAt, hcurrent, hat, hfloor, hext⟩ := hshort
  intro hkept
  obtain ⟨later, hlater, hle⟩ := hkept current hcurrent
  obtain ⟨t, b, moved, hpost, ht, heff, -⟩ := exists_effect h hcmd nofun
  obtain rfl : t = observedAt := Except.ok.inj (ht.1.symm.trans hat)
  rw [hpost] at hlater
  cases heff with
  | observeFailure _ hok =>
    obtain rfl := Option.some.inj hlater
    obtain ⟨floor, hmicros, hchosen⟩ := LateCapturePolicy.observationDeadline_ok_iff.mp hok
    have hbefore : floor < current := by
      rw [Timestamp.lt_iff, hmicros]
      exact hfloor
    rcases hchosen with ⟨-, rfl⟩ | ⟨extension, requested, hsome, hreq, rfl⟩
    · exact absurd hle (not_le.mpr hbefore)
    · have hboth := max_lt hbefore (hext extension requested hsome hreq)
      exact absurd hle (not_le.mpr hboth)

theorem deadlineKept_of_not_shortens (h : recovery.Takes s) (hguard : ¬ShortensDeadline s) :
    DeadlineKept s.pre.toAggregateFields s.post.toAggregateFields := by
  intro current hcurrent
  cases (takes_cases h).2 with
  | idle _ hpost =>
    rw [hpost]
    exact ⟨current, hcurrent, le_refl _⟩
  | @effective t _ _ ht heff =>
    rcases heff.observationDeadline_cases with
      ⟨-, hsame⟩ | ⟨event, extend, deadline, hcmd, hsource, -, hok, hdeadline⟩
    · exact ⟨current, by rw [hsame, hcurrent], le_refl _⟩
    · refine ⟨deadline, hdeadline, ?_⟩
      by_contra hlt
      have hearly : deadline < current := not_le.mp hlt
      -- a dormant case has no deadline to shorten
      have hobserving : s.pre.state = .observing := by
        refine hsource.resolve_left fun hdormant => ?_
        exact absurd ((s.pre.valid.dormant hdormant).2.symm.trans hcurrent) (by simp)
      refine hguard ⟨hobserving, event, extend, hcmd, current, t, hcurrent, ht.1, ?_, ?_⟩
      · exact lt_of_le_of_lt (LateCapturePolicy.floor_le_observationDeadline hok)
          (Timestamp.lt_iff.mp hearly)
      · intro extension requested hsome hreq
        obtain ⟨floor, -, ⟨hnone, -⟩ | ⟨extension', requested', hsome', hreq', rfl⟩⟩ :=
          LateCapturePolicy.observationDeadline_ok_iff.mp hok
        · exact absurd (hnone.symm.trans hsome) (by simp)
        · obtain rfl := Option.some.inj (hsome.symm.trans hsome')
          obtain rfl := Except.ok.inj (hreq.symm.trans hreq')
          exact lt_of_le_of_lt (le_max_right _ _) hearly

/-- **The late-capture deadline is only lengthened, except by a repeated
observation that ends earlier.** -/
theorem deadlineLaw_iff {a b : RecoveryAggregate} {steps : List CaseStep}
    (hrun : recovery.Run a steps b) :
    Along DeadlineLaw steps ↔ ∀ s ∈ steps, ¬ShortensDeadline s := by
  rw [← along_iff_forall_mem]
  have hkeep : ∀ past (s : CaseStep), recovery.Takes s →
      (∀ e ∈ past, DeadlineKept e.pre.toAggregateFields s.pre.toAggregateFields) →
      ¬ShortensDeadline s → DeadlineLaw past s := by
    intro past s h hpast hguard e he
    have hstep := deadlineKept_of_not_shortens h hguard
    rcases List.mem_append.mp he with hmem | hlast
    · exact (hpast e hmem).trans hstep
    · rwa [List.mem_singleton.mp hlast]
  refine hrun.along_iff (H := fun past c =>
    ∀ e ∈ past, DeadlineKept e.pre.toAggregateFields c.toAggregateFields)
    (fun _ hmem => absurd hmem (by simp)) ?_ ?_
  · intro past s _ hpast h hguard
    exact hkeep past s h hpast hguard
  · intro past s _ hpast h
    constructor
    · intro hlaw hshort
      exact not_deadlineKept_of_shortens h hshort (hlaw s (by simp))
    · exact hkeep past s h hpast

/-- An extended window can be taken back by observing the failure again. -/
theorem exists_run_shortened {init : RecoveryAggregate} {sc : Scenario} {later : Timestamp}
    (hfresh : Fresh init) (hsc : sc.Suits init.toAggregateFields) (hlater : sc.deadline < later) :
    ∃ (past : List CaseStep) (s : CaseStep), recovery.Run init (past ++ [s]) s.post ∧
      (past ++ [s]).map Step.cmd =
        [⟨0, sc.start.toDatetime, .observeFailure sc.event (some later.toDatetime)⟩,
          ⟨1, sc.start.toDatetime, .observeFailure sc.event none⟩] ∧
      recovery.Takes s ∧ ShortensDeadline s ∧ s.pre.observationDeadline = some later ∧
      s.post.observationDeadline = some sc.deadline := by
  have hfirst : init.lateCapturePolicy.observationDeadline sc.start.toDatetime
      (some later.toDatetime) = .ok later :=
    LateCapturePolicy.observationDeadline_ok_iff.mpr ⟨_, hsc.deadline, .inr ⟨_, later, rfl,
      requireUtc_toDatetime _ _, (max_eq_right hlater.le).symm⟩⟩
  obtain ⟨e, hcmd, hpost, hrun⟩ := exists_run_first hfresh hsc hfirst
  have hpolicy := (sameCase_of_run hrun).lateCapturePolicy
  have hversion : e.post.version = 1 := by
    obtain ⟨_, _, _, _, _, hfields⟩ := hfresh.fields
    rw [hpost, hfields]
    rfl
  have hobserving : e.post.state = .observing := by rw [hpost]
  have hdeadline : e.post.observationDeadline = some later := by rw [hpost]
  have ht' : e.post.Timely sc.start.toDatetime sc.start := by
    refine ⟨requireUtc_toDatetime _ _, ?_⟩
    rw [hpost]
    rintro last ⟨⟩
    exact le_refl _
  obtain ⟨s, hpre, hcmd', hpost', htakes, hrun'⟩ := exists_run_next hrun
    (.observeFailure (.inr hobserving) (hpolicy ▸ hsc.observationDeadline))
    (Command.wellFormed_singleton rfl hsc.event) ht'
  have hcurrent : s.pre.observationDeadline = some later := by rw [hpre, hdeadline]
  have hshort : ShortensDeadline s := by
    refine ⟨by rw [hpre, hobserving], sc.event, none, by rw [hcmd'], later, sc.start, hcurrent,
      ?_, ?_, by simp⟩
    · rw [hcmd']
      exact requireUtc_toDatetime _ _
    · rw [hpre, hpolicy, ← hsc.deadline]
      exact Timestamp.lt_iff.mp hlater
  have hcmds : [e].map Step.cmd =
      [⟨0, sc.start.toDatetime, .observeFailure sc.event (some later.toDatetime)⟩] := by
    rw [List.map_singleton, hcmd]
  exact ⟨[e], s, hrun', map_cmd_concat hcmds (by rw [hcmd', hversion]; rfl), htakes, hshort,
    hcurrent, by rw [hpost']⟩

end

theorem nonneg_sampleLater : (0 : Int) ≤ 63902739600000000 := by decide

theorem inRange_sampleLater : (63902739600000000 : Int) < calendarEnd := by decide

def sampleLater : Timestamp := ⟨63902739600000000, nonneg_sampleLater, inRange_sampleLater⟩

/-- The path to collection keeps the deadline. -/
theorem deadlineLaw_toActive :
    ∃ steps b, recovery.Run sampleCase steps b ∧ steps.map Step.cmd = sampleScenario.toActive ∧
      Along DeadlineLaw steps := by
  obtain ⟨steps, b, hrun, hcmds, -⟩ := exists_run_active fresh_sampleCase sampleScenario_suits
  refine ⟨steps, b, hrun, hcmds, (deadlineLaw_iff hrun).mpr ?_⟩
  intro s hs ⟨hobserving, event, extend, hcmd, _⟩
  obtain ⟨past, rest, -, hpast, htakes⟩ := hrun.of_mem hs
  -- the one observation of the path is its first request, of the fresh case
  have hmem : s.cmd ∈ sampleScenario.toActive := hcmds ▸ List.mem_map_of_mem hs
  have hfirst : s.cmd.expectedVersion = 0 := by
    rcases Scenario.mem_toActive hmem with hmem | h
    · rcases Scenario.mem_toExecuting hmem with h | h | h | h | h
      · rw [h]
      all_goals rw [h] at hcmd; exact nomatch hcmd
    · rw [h] at hcmd
      exact nomatch hcmd
  have hversion : s.pre.version = 0 := by
    have hchecked := (takes_cases htakes).1
    omega
  have hdormant := dormant_of_version_zero fresh_sampleCase hpast hversion
  exact absurd (hdormant.symm.trans hobserving) (by decide)

/-- The sample case observed for an hour, then again without an extension. -/
theorem deadlineLaw_broken :
    ∃ steps b, Fresh sampleCase ∧ recovery.Run sampleCase steps b ∧
      steps.map Step.cmd =
        [⟨0, sampleStart.toDatetime, .observeFailure "evt_1" (some sampleLater.toDatetime)⟩,
          ⟨1, sampleStart.toDatetime, .observeFailure "evt_1" none⟩] ∧
      b.observationDeadline = some sampleDeadline ∧ sampleDeadline < sampleLater ∧
      ¬Along DeadlineLaw steps := by
  have hlater : sampleDeadline < sampleLater := by decide
  obtain ⟨past, s, hrun, hcmds, htakes, hshort, -, hdeadline⟩ :=
    exists_run_shortened fresh_sampleCase sampleScenario_suits hlater
  refine ⟨_, _, fresh_sampleCase, hrun, hcmds, hdeadline, hlater, fun hlaw => ?_⟩
  exact not_deadlineKept_of_shortens htakes hshort (hlaw past s [] rfl s (by simp))

/-! ## Assessment of unpaid cases -/

/-- A step into assessment leaves an unpaid case. -/
def UnpaidLaw (s : CaseStep) : Prop := Enters .assessing s → s.post.paymentState = .unpaid

/-- An expiry with budget left, of a case that is not unpaid. -/
def ReassessesPaid (s : CaseStep) : Prop :=
  s.cmd.command = .recordActiveExpired true ∧ s.pre.paymentState ≠ .unpaid

section

variable [Hashlib] {s : CaseStep}

theorem not_unpaidLaw_of_reassessesPaid (h : recovery.Takes s) (hpaid : ReassessesPaid s) :
    ¬UnpaidLaw s := by
  obtain ⟨hcmd, hne⟩ := hpaid
  intro hlaw
  obtain ⟨t, b, moved, hpost, -, heff, henters⟩ := exists_effect h hcmd nofun
  cases heff with
  | recordActiveExpired htarget =>
    -- budget remains, so the target is assessment; the expiry leaves the payment state alone
    have hunpaid := hlaw (henters _ (congrArg some htarget))
    rw [hpost] at hunpaid
    exact hne hunpaid

/-- **Only freshly unpaid cases are assessed, except after an expiry with budget
left.** -/
theorem unpaidLaw_iff {a b : RecoveryAggregate} {steps : List CaseStep}
    (hrun : recovery.Run a steps b) :
    (∀ s ∈ steps, UnpaidLaw s) ↔ ∀ s ∈ steps, ¬ReassessesPaid s := by
  refine forall₂_congr fun s hs => ?_
  obtain ⟨_, _, _, _, htakes⟩ := hrun.of_mem hs
  constructor
  · intro hlaw hpaid
    exact not_unpaidLaw_of_reassessesPaid htakes hpaid hlaw
  · intro hguard henters
    obtain ⟨hpost, t, moved, -, heff, hmoves⟩ := enters_cases htakes henters
    obtain ⟨-, hsame, hcause⟩ := heff.assessing_cases hpost hmoves
    rw [hsame]
    by_contra hne
    exact hguard ⟨hcause.resolve_left hne, hne⟩

/-- An observed case of unknown payment truth is assessed by an expiry of the
instrument it never had. -/
theorem exists_run_assessedUnknown {init : RecoveryAggregate} {sc : Scenario}
    (hfresh : Fresh init) (hsc : sc.Suits init.toAggregateFields) :
    ∃ (past : List CaseStep) (s : CaseStep), recovery.Run init (past ++ [s]) s.post ∧
      (past ++ [s]).map Step.cmd = sc.toObserving ++ [sc.request 1 (.recordActiveExpired true)] ∧
      recovery.Takes s ∧ ReassessesPaid s ∧
      Stands init.toAggregateFields s.post.toAggregateFields sc.deadline 2 .assessing .unknown 0
        none none none := by
  obtain ⟨steps, a, hrun, hcmds, ha⟩ := exists_run_observing hfresh hsc
  have hadmits : Admits a.state .assessing := by rw [ha.state_eq]; decide
  have heff : Effect a.toAggregateFields sc.deadline (.recordActiveExpired true) _ _ :=
    .recordActiveExpired rfl hadmits fun _ => ha.elapsed
  obtain ⟨s, hpre, hcmd, hpost, htakes, hnext, hcmds'⟩ := ha.exists_next hrun hcmds heff
    (Command.wellFormed_nil rfl)
  have hpaid : ReassessesPaid s := ⟨hcmd, by rw [hpre, ha.payment_eq]; decide⟩
  refine ⟨steps, s, hnext, hcmds', htakes, hpaid, ?_⟩
  rw [hpost]
  exact { ha.advanced with state_eq := rfl, key_eq := rfl, id_eq := rfl, ref_eq := rfl }

end

/-- The path to collection assesses an unpaid case. -/
theorem unpaidLaw_toActive :
    ∃ steps b, recovery.Run sampleCase steps b ∧ steps.map Step.cmd = sampleScenario.toActive ∧
      ∀ s ∈ steps, UnpaidLaw s := by
  obtain ⟨steps, b, hrun, hcmds, -⟩ := exists_run_active fresh_sampleCase sampleScenario_suits
  refine ⟨steps, b, hrun, hcmds, (unpaidLaw_iff hrun).mpr ?_⟩
  intro s hs ⟨hcmd, _⟩
  have hmem : s.cmd ∈ sampleScenario.toActive := hcmds ▸ List.mem_map_of_mem hs
  rcases Scenario.mem_toActive hmem with hmem | h
  · rcases Scenario.mem_toExecuting hmem with h | h | h | h | h <;>
      (rw [h] at hcmd; exact nomatch hcmd)
  · rw [h] at hcmd
    exact nomatch hcmd

/-- The sample case assessed without any reconciled payment truth. -/
theorem unpaidLaw_broken :
    ∃ steps b, Fresh sampleCase ∧ recovery.Run sampleCase steps b ∧
      steps.map Step.cmd = sampleScenario.toObserving ++
        [sampleScenario.request 1 (.recordActiveExpired true)] ∧
      b.state = .assessing ∧ b.paymentState = .unknown ∧ ¬∀ s ∈ steps, UnpaidLaw s := by
  obtain ⟨past, s, hrun, hcmds, htakes, hpaid, hs⟩ :=
    exists_run_assessedUnknown fresh_sampleCase sampleScenario_suits
  refine ⟨_, _, fresh_sampleCase, hrun, hcmds, hs.state_eq, hs.payment_eq, fun hlaw => ?_⟩
  exact not_unpaidLaw_of_reassessesPaid htakes hpaid (hlaw s (by simp))

end Retrywise.Domain
