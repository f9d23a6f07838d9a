import Retrywise.Domain.Progress

/-!
# What the case remembers about instruments

The active key, the pending proposal and the instrument reference are written
by four commands and cleared by the expiry and the money commands, while the
states these commands are accepted in come from the shared graph. `Remembers`
says what each state has on record: nothing before a decision, the key and the
proposal from the decision on, the reference while an instrument is active.

Two commands undo it. `mark_ready_for_evaluation` and `wake` are drawn for
observed and waiting cases, but the graph's edge from `ACTIVE` to `ASSESSING`
(the expiry's) lets them through as well, and they clear nothing.
`instrumentLaw_iff`: the record is right along a run exactly when no step
reassesses an active case that way.
-/

namespace Retrywise.Domain

open Retrywise.Foundation

/-- What is on record in each state. -/
def Remembers (a : AggregateFields) : Prop :=
  match a.state with
  | .dormant | .observing | .assessing | .waiting =>
    a.activeActionKey = none ∧ a.activeProposalId = none ∧ a.activeInstrumentReference = none
  | .approvalRequired | .actionQueued | .executing | .actionUncertain =>
    a.activeActionKey ≠ none ∧ a.activeProposalId ≠ none ∧ a.activeInstrumentReference = none
  | .active =>
    a.activeActionKey ≠ none ∧ a.activeProposalId ≠ none ∧ a.activeInstrumentReference ≠ none
  | _ => True

/-- The commands that reassess a case without clearing its instrument. -/
def Command.Reassesses (command : Command) : Prop :=
  command = .markReadyForEvaluation ∨ command = .wake

section

variable {a b : AggregateFields} {t : Timestamp} {command : Command}
  {moved : Option RecoveryState}

/-! ## Reading the record -/

theorem Remembers.blank (h : Remembers a)
    (hs : a.state ∈ [RecoveryState.dormant, .observing, .assessing, .waiting]) :
    a.activeActionKey = none ∧ a.activeProposalId = none ∧ a.activeInstrumentReference = none := by
  simp only [List.mem_cons, List.not_mem_nil, or_false] at hs
  unfold Remembers at h
  rcases hs with hs | hs | hs | hs <;> (rw [hs] at h; exact h)

theorem Remembers.pending (h : Remembers a)
    (hs : a.state ∈ [RecoveryState.approvalRequired, .actionQueued, .executing, .actionUncertain]) :
    a.activeActionKey ≠ none ∧ a.activeProposalId ≠ none ∧ a.activeInstrumentReference = none := by
  simp only [List.mem_cons, List.not_mem_nil, or_false] at hs
  unfold Remembers at h
  rcases hs with hs | hs | hs | hs <;> (rw [hs] at h; exact h)

theorem Remembers.active (h : Remembers a) (hs : a.state = .active) :
    a.activeActionKey ≠ none ∧ a.activeProposalId ≠ none ∧
      a.activeInstrumentReference ≠ none := by
  unfold Remembers at h
  rw [hs] at h
  exact h

/-- From a case without an active instrument, assessment starts with nothing on
record. -/
theorem Remembers.of_admits_assessing (h : Remembers a) (hadmits : Admits a.state .assessing)
    (hs : a.state ≠ .active) :
    a.activeActionKey = none ∧ a.activeProposalId = none ∧ a.activeInstrumentReference = none := by
  refine h.blank ?_
  revert hadmits hs
  cases a.state <;> decide

/-- A case has its key and its proposal on record before an instrument is. -/
theorem Remembers.of_admits_active (h : Remembers a) (hadmits : Admits a.state .active) :
    a.activeActionKey ≠ none ∧ a.activeProposalId ≠ none := by
  have hs : a.state = .active ∨
      a.state ∈ [RecoveryState.approvalRequired, .actionQueued, .executing, .actionUncertain] := by
    revert hadmits
    cases a.state <;> decide
  rcases hs with hs | hs
  · exact ⟨(h.active hs).1, (h.active hs).2.1⟩
  · exact ⟨(h.pending hs).1, (h.pending hs).2.1⟩

/-! ## One step -/

/-- Every other command keeps the record right. -/
theorem Remembers.step [Hashlib] (ha : Remembers a) (h : Effect a t command b moved)
    (hguard : ¬(a.state = .active ∧ command.Reassesses)) : Remembers b := by
  cases h with
  | observeFailure hsource =>
    refine ha.blank ?_
    rcases hsource with hs | hs <;> simp [hs]
  | reconcilePaymentTruth => exact ha
  | updateIncidentState => exact ha
  | markReadyForEvaluation hadmits =>
    exact ha.of_admits_assessing hadmits fun hs => hguard ⟨hs, .inl rfl⟩
  | wake hadmits =>
    exact ha.of_admits_assessing hadmits fun hs => hguard ⟨hs, .inr rfl⟩
  | wait hadmits =>
    refine ha.blank ?_
    revert hadmits
    cases a.state <;> decide
  | requestApproval hs =>
    have hblank := ha.blank (by simp [hs])
    exact ⟨by simp, by simp, hblank.2.2⟩
  | authorizeAction hsource =>
    have href : a.activeInstrumentReference = none := by
      rcases hsource with ⟨hs, -⟩ | ⟨hs, -⟩
      · exact (ha.blank (by simp [hs])).2.2
      · exact (ha.pending (by simp [hs])).2.2
    exact ⟨by simp, by simp, href⟩
  | @recordInternalDecision p d htype hdv hbound hadmits =>
    generalize hp : p.actionType = action at htype hadmits
    cases action with
    | wait =>
      refine ha.blank ?_
      revert hadmits
      simp only [RecoveryAggregate.internalTarget]
      cases a.state <;> decide
    | escalate => exact trivial
    | stop => exact trivial
    | _ => exact absurd htype (by decide)
  | beginExecution hs => exact ha.pending (by simp [hs])
  | recordActionActive _ hadmits =>
    have hset := ha.of_admits_active hadmits
    exact ⟨hset.1, hset.2, by simp⟩
  | recordActionUncertain _ hadmits =>
    refine ha.pending ?_
    revert hadmits
    cases a.state <;> decide
  | requeueAfterAbsenceProven hkey hadmits =>
    -- the edge from assessment is closed: there is no active key there
    have hs : a.state = .assessing ∨
        a.state ∈ [RecoveryState.approvalRequired, .actionQueued, .executing,
          .actionUncertain] := by
      revert hadmits
      cases a.state <;> decide
    rcases hs with hs | hs
    · have hnone := (ha.blank (by simp [hs])).1
      exact absurd (hnone.symm.trans hkey) (by simp)
    · exact ha.pending hs
  | escalateUncertainAction => exact trivial
  | recordActionFailedSafe => exact trivial
  | @recordActiveExpired budget target htarget =>
    cases budget with
    | true =>
      simp only [if_true] at htarget
      subst htarget
      exact ⟨rfl, rfl, rfl⟩
    | false =>
      simp only [Bool.false_eq_true, if_false] at htarget
      subst htarget
      exact trivial
  | originalPaidOpen => exact trivial
  | originalPaidClosed => exact ha
  | originalPaidTwice => exact trivial
  | recoveryPaid => exact trivial
  | recoveryPaidTwice => exact trivial
  | duplicateCollection => exact trivial

/-- An instrument becomes active through one command. -/
theorem Effect.active_cases [Hashlib] (h : Effect a t command b moved) (hb : b.state = .active) :
    a.state = .active ∨ ∃ key ref, command = .recordActionActive key ref := by
  cases h with
  | recordActionActive => exact .inr ⟨_, _, rfl⟩
  | reconcilePaymentTruth => exact .inl hb
  | updateIncidentState => exact .inl hb
  | originalPaidClosed => exact .inl hb
  | recordInternalDecision =>
    exact absurd hb (RecoveryAggregate.internalTarget_ne (by decide))
  | recordActiveExpired htarget => exact absurd hb (expiredTarget_ne htarget (by decide))
  | _ => exact absurd hb (by simp [AggregateFields.duplicated])

/-- A case leaves its active instrument for assessment by one of three commands. -/
theorem Effect.reassessed_cases [Hashlib] (h : Effect a t command b moved)
    (ha : a.state = .active) (hb : b.state = .assessing) :
    command.Reassesses ∨ ∃ budget, command = .recordActiveExpired budget := by
  cases h with
  | markReadyForEvaluation => exact .inl (.inl rfl)
  | wake => exact .inl (.inr rfl)
  | recordActiveExpired => exact .inr ⟨_, rfl⟩
  | reconcilePaymentTruth => exact absurd (ha.symm.trans hb) (by decide)
  | updateIncidentState => exact absurd (ha.symm.trans hb) (by decide)
  | originalPaidClosed => exact absurd (ha.symm.trans hb) (by decide)
  | recordInternalDecision =>
    exact absurd hb (RecoveryAggregate.internalTarget_ne (by decide))
  | _ => exact absurd hb (by simp [AggregateFields.duplicated])

end

/-! ## Along a run -/

/-- What the record guarantees at a step. -/
structure InstrumentLaw (s : CaseStep) : Prop where
  /-- The record is right afterwards. -/
  remembers : Remembers s.post.toAggregateFields
  /-- Only an expiry takes an active case back to assessment. -/
  reassessed : s.pre.state = .active → s.post.state = .assessing →
    ∃ budget, s.cmd.command = .recordActiveExpired budget
  /-- No decision is taken while an instrument is on record. -/
  decided : ∀ p d, s.cmd.command = .requestApproval p d ∨ s.cmd.command = .authorizeAction p d →
    s.pre.activeInstrumentReference = none

/-- `mark_ready_for_evaluation` or `wake`, applied to a case whose instrument is
active. -/
def ReassessesActive (s : CaseStep) : Prop := s.pre.state = .active ∧ s.cmd.command.Reassesses

theorem remembers_of_fresh {a : RecoveryAggregate} (h : Fresh a) :
    Remembers a.toAggregateFields := by
  obtain ⟨_, _, _, _, _, hfields⟩ := h.fields
  rw [hfields]
  exact ⟨rfl, rfl, rfl⟩

section

variable [Hashlib]

theorem remembers_step {s : CaseStep} (h : recovery.Takes s)
    (hpre : Remembers s.pre.toAggregateFields) (hguard : ¬ReassessesActive s) :
    Remembers s.post.toAggregateFields := by
  cases (takes_cases h).2 with
  | idle _ hpost => rwa [hpost]
  | effective _ heff => exact hpre.step heff hguard

/-- Reassessing leads to assessment. -/
theorem assessing_of_reassesses {s : CaseStep} (h : recovery.Takes s)
    (hcmd : s.cmd.command.Reassesses) : s.post.state = .assessing := by
  rcases hcmd with hcmd | hcmd
  · obtain ⟨t, b, moved, hpost, -, heff, -⟩ := exists_effect h hcmd nofun
    cases heff with
    | markReadyForEvaluation => rw [hpost]
  · obtain ⟨t, b, moved, hpost, -, heff, -⟩ := exists_effect h hcmd nofun
    cases heff with
    | wake => rw [hpost]

theorem not_instrumentLaw_of_reassesses {s : CaseStep} (h : recovery.Takes s)
    (hactive : ReassessesActive s) : ¬InstrumentLaw s := by
  intro hlaw
  obtain ⟨budget, hcmd⟩ := hlaw.reassessed hactive.1 (assessing_of_reassesses h hactive.2)
  rcases hactive.2 with he | he <;> (rw [hcmd] at he; exact nomatch he)

theorem instrumentLaw_step {s : CaseStep} (h : recovery.Takes s)
    (hpre : Remembers s.pre.toAggregateFields) : InstrumentLaw s ↔ ¬ReassessesActive s := by
  constructor
  · intro hlaw hactive
    exact not_instrumentLaw_of_reassesses h hactive hlaw
  · intro hguard
    refine ⟨remembers_step h hpre hguard, ?_, ?_⟩
    · intro hactive hassessing
      cases (takes_cases h).2 with
      | idle _ hpost =>
        rw [hpost, hactive] at hassessing
        exact absurd hassessing (by decide)
      | effective _ heff =>
        exact (heff.reassessed_cases hactive hassessing).resolve_left fun hcmd =>
          hguard ⟨hactive, hcmd⟩
    · intro p d hcmd
      rcases hcmd with hcmd | hcmd
      · obtain ⟨t, b, moved, -, -, heff, -⟩ := exists_effect h hcmd nofun
        cases heff with
        | requestApproval hs => exact (hpre.blank (by simp [hs])).2.2
      · obtain ⟨t, b, moved, -, -, heff, -⟩ := exists_effect h hcmd nofun
        cases heff with
        | authorizeAction hsource =>
          rcases hsource with ⟨hs, -⟩ | ⟨hs, -⟩
          · exact (hpre.blank (by simp [hs])).2.2
          · exact (hpre.pending (by simp [hs])).2.2

/-- **A live instrument is never forgotten, except by a reassessment of an
active case.** -/
theorem instrumentLaw_iff {a b : RecoveryAggregate} {steps : List CaseStep} (hfresh : Fresh a)
    (hrun : recovery.Run a steps b) :
    Remembers a.toAggregateFields ∧
      ((∀ s ∈ steps, InstrumentLaw s) ↔ ∀ s ∈ steps, ¬ReassessesActive s) := by
  refine ⟨remembers_of_fresh hfresh, ?_⟩
  rw [← along_iff_forall_mem, ← along_iff_forall_mem]
  exact hrun.along_iff (H := fun _ a => Remembers a.toAggregateFields) (remembers_of_fresh hfresh)
    (fun _ _ _ hpre h hguard => remembers_step h hpre hguard)
    (fun _ _ _ hpre h => instrumentLaw_step h hpre)

/-- An active case recorded its instrument earlier in the run. -/
theorem exists_recorded_of_active {a b : RecoveryAggregate} {steps : List CaseStep}
    (hfresh : Fresh a) (hrun : recovery.Run a steps b) (hb : b.state = .active) :
    ∃ s ∈ steps, ∃ key ref, s.cmd.command = .recordActionActive key ref := by
  have h := hrun.history (H := fun past c => c.state = .active →
    ∃ s ∈ past, ∃ key ref, s.cmd.command = .recordActionActive key ref) (G := fun _ _ => True)
    ?_ ?_ fun _ _ _ _ => trivial
  · exact h hb
  · obtain ⟨_, _, _, _, _, hfields⟩ := hfresh.fields
    intro hactive
    rw [hfields] at hactive
    exact nomatch hactive
  · intro past s _ hpast htakes _ hactive
    have hkept : s.pre.state = .active → ∃ e ∈ past ++ [s], ∃ key ref,
        e.cmd.command = .recordActionActive key ref := by
      intro hpre
      obtain ⟨e, hmem, he⟩ := hpast hpre
      exact ⟨e, List.mem_append_left _ hmem, he⟩
    cases (takes_cases htakes).2 with
    | idle _ hpost => exact hkept (hpost ▸ hactive)
    | effective _ heff =>
      rcases heff.active_cases hactive with hpre | ⟨key, ref, hcmd⟩
      · exact hkept hpre
      · exact ⟨s, by simp, key, ref, hcmd⟩

/-- An active unpaid instrument can be forgotten: the case is ready for a second
collection with the first one still on record. -/
theorem exists_run_forgotten {init : RecoveryAggregate} {sc : Scenario} (hfresh : Fresh init)
    (hsc : sc.Suits init.toAggregateFields) :
    ∃ (past : List CaseStep) (s : CaseStep), recovery.Run init (past ++ [s]) s.post ∧
      (past ++ [s]).map Step.cmd = sc.toActive ++ [sc.request 6 .markReadyForEvaluation] ∧
      recovery.Takes s ∧ ReassessesActive s ∧
      Stands init.toAggregateFields s.post.toAggregateFields sc.deadline 7 .assessing .unpaid 1
        (some sc.proposal.actionKey) (some sc.proposal.proposalId) (some sc.link) := by
  obtain ⟨steps, a, hrun, hcmds, ha⟩ := exists_run_active hfresh hsc
  have hadmits : Admits a.state .assessing := by rw [ha.state_eq]; decide
  obtain ⟨s, hpre, hcmd, hpost, htakes, hnext, hcmds'⟩ := ha.exists_next hrun hcmds
    (.markReadyForEvaluation hadmits ha.payment_eq ha.elapsed) (Command.wellFormed_nil rfl)
  have hactive : ReassessesActive s := ⟨by rw [hpre, ha.state_eq], .inl hcmd⟩
  refine ⟨steps, s, hnext, hcmds', htakes, hactive, ?_⟩
  rw [hpost]
  exact { ha.advanced with state_eq := rfl }

end

/-- The path to execution keeps the record right. -/
theorem instrumentLaw_toExecuting :
    ∃ steps b, recovery.Run sampleCase steps b ∧ steps.map Step.cmd = sampleScenario.toExecuting ∧
      Remembers sampleCase.toAggregateFields ∧ ∀ s ∈ steps, InstrumentLaw s := by
  obtain ⟨steps, b, hrun, hcmds, -⟩ := exists_run_executing fresh_sampleCase sampleScenario_suits
  obtain ⟨hinit, hiff⟩ := instrumentLaw_iff fresh_sampleCase hrun
  refine ⟨steps, b, hrun, hcmds, hinit, hiff.mpr ?_⟩
  intro s hs ⟨hactive, _⟩
  obtain ⟨past, rest, rfl, hpast, -⟩ := hrun.of_mem hs
  obtain ⟨e, he, key, ref, hcmd⟩ := exists_recorded_of_active fresh_sampleCase hpast hactive
  have hmem : e.cmd ∈ sampleScenario.toExecuting :=
    hcmds ▸ List.mem_map_of_mem (List.mem_append_left _ he)
  rcases Scenario.mem_toExecuting hmem with h | h | h | h | h <;>
    (rw [h] at hcmd; exact nomatch hcmd)

/-- The sample case reassessed with its link still active. -/
theorem instrumentLaw_broken :
    ∃ steps b, Fresh sampleCase ∧ recovery.Run sampleCase steps b ∧
      steps.map Step.cmd = sampleScenario.toActive ++
        [sampleScenario.request 6 .markReadyForEvaluation] ∧
      b.state = .assessing ∧ b.activeActionKey = some sampleProposal.actionKey ∧
      b.activeInstrumentReference = some "plink_1" ∧ ¬∀ s ∈ steps, InstrumentLaw s := by
  obtain ⟨past, s, hrun, hcmds, htakes, hactive, hs⟩ :=
    exists_run_forgotten fresh_sampleCase sampleScenario_suits
  refine ⟨_, _, fresh_sampleCase, hrun, hcmds, hs.state_eq, hs.key_eq, hs.ref_eq, fun hlaw => ?_⟩
  exact not_instrumentLaw_of_reassesses htakes hactive (hlaw s (by simp))

end Retrywise.Domain
