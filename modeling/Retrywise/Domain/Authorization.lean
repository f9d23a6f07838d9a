import Retrywise.Domain.Progress

/-!
# Who puts a case into the execution queue

Two commands lead to `ACTION_QUEUED`: `authorize_action`, which checks a policy
decision, and `requeue_after_absence_proven`, which checks that its key is the
active one. The second is safe as long as the active key was authorized before,
and that is an invariant of almost every state: a key becomes active through
`authorize_action`, or through `request_approval`, and then the case sits in
`APPROVAL_REQUIRED` until it is authorized or closed.

The exception is the requeue itself. The graph has an edge from
`APPROVAL_REQUIRED` to `ACTION_QUEUED`, drawn for the authorization, and the
validator does not know which command takes it. `authorizationLaw_iff` says that
the law about the queue holds along a run exactly when no step takes it that way.
-/

namespace Retrywise.Domain

open Retrywise.Foundation

/-! ## The branches that matter -/

/-- From a pending approval a case is queued, closed, or stays. -/
theorem Admits.approvalRequired {target : RecoveryState} (h : Admits .approvalRequired target) :
    target = .approvalRequired ∨ target = .actionQueued ∨ target ∈ collectionTerminalStates := by
  revert h
  cases target <;> decide

namespace Effect

variable [Hashlib] {a b : AggregateFields} {t : Timestamp} {command : Command}
  {moved : Option RecoveryState}

/-- Only two commands move a case into the execution queue. -/
theorem actionQueued_cases (h : Effect a t command b moved) (hb : b.state = .actionQueued)
    (henters : a.state ≠ .actionQueued ∨ moved = some .actionQueued) :
    (∃ p d, command = .authorizeAction p d ∧ Bound a p d .policy true ∧
        b.activeActionKey = some p.actionKey) ∨
      ∃ key, command = .requeueAfterAbsenceProven key ∧ a.activeActionKey = some key := by
  cases h with
  | authorizeAction _ _ hbound => exact .inl ⟨_, _, rfl, hbound, rfl⟩
  | requeueAfterAbsenceProven hkey => exact .inr ⟨_, rfl, hkey⟩
  | reconcilePaymentTruth => exact absurd hb (henters.resolve_right (by simp))
  | updateIncidentState => exact absurd hb (henters.resolve_right (by simp))
  | recordInternalDecision =>
    exact absurd hb (RecoveryAggregate.internalTarget_ne (by decide))
  | recordActiveExpired htarget => exact absurd hb (expiredTarget_ne htarget (by decide))
  | originalPaidClosed hclosed =>
    have hb : a.state = .actionQueued := hb
    rw [hb] at hclosed
    exact absurd hclosed (by decide)
  | _ => exact absurd hb (by simp [AggregateFields.duplicated])

end Effect

/-! ## The law -/

/-- An accepted `authorize_action` with an allowed policy decision bound to the
proposal whose key it makes active. -/
def AuthorizesAction [Hashlib] (key : String) (s : CaseStep) : Prop :=
  ∃ p d, s.cmd.command = .authorizeAction p d ∧ Bound s.pre.toAggregateFields p d .policy true ∧
    p.actionKey = key ∧ s.post.activeActionKey = some key

/-- A step into the execution queue is an authorization, or requeues a key
authorized before; out of a pending approval it is an authorization. -/
def AuthorizationLaw [Hashlib] (past : List CaseStep) (s : CaseStep) : Prop :=
  Enters .actionQueued s →
    ((∃ key, AuthorizesAction key s) ∨
      ∃ key, s.cmd.command = .requeueAfterAbsenceProven key ∧
        ∃ earlier ∈ past, AuthorizesAction key earlier) ∧
    (s.pre.state = .approvalRequired → ∃ key, AuthorizesAction key s)

/-- A requeue applied to a case that waits for approval. -/
def RequeuesPending (s : CaseStep) : Prop :=
  s.pre.state = .approvalRequired ∧ ∃ key, s.cmd.command = .requeueAfterAbsenceProven key

/-- Outside a pending approval, the active key of an open case was authorized. -/
def KeyAuthorized [Hashlib] (past : List CaseStep) (a : RecoveryAggregate) : Prop :=
  ∀ key, a.activeActionKey = some key → a.state ≠ .approvalRequired →
    a.state ∉ collectionTerminalStates → ∃ earlier ∈ past, AuthorizesAction key earlier

section

variable [Hashlib]

/-- An accepted requeue reports the queue as its target. -/
theorem enters_of_requeue {s : CaseStep} {key : String} (h : recovery.Takes s)
    (hcmd : s.cmd.command = .requeueAfterAbsenceProven key) : Enters .actionQueued s := by
  obtain ⟨t, b, moved, -, -, heff, henters⟩ := exists_effect h hcmd nofun
  cases heff with
  | requeueAfterAbsenceProven => exact henters _ rfl

theorem keyAuthorized_step {past : List CaseStep} {s : CaseStep} (h : recovery.Takes s)
    (hpast : KeyAuthorized past s.pre) (hguard : ¬RequeuesPending s) :
    KeyAuthorized (past ++ [s]) s.post := by
  intro key hkey happroval hopen
  cases (takes_cases h).2 with
  | idle _ hpost =>
    rw [hpost] at hkey happroval hopen
    obtain ⟨earlier, hmem, hauth⟩ := hpast key hkey happroval hopen
    exact ⟨earlier, List.mem_append_left _ hmem, hauth⟩
  | effective _ heff =>
    rcases heff.activeActionKey_cases hkey with
      ⟨_, _, _, _, hstate, -⟩ | ⟨p, d, hcmd, hbound, hp, -⟩ | hkept
    · exact absurd hstate happroval
    · exact ⟨s, by simp, p, d, hcmd, hbound, hp, hkey⟩
    · by_cases hpre : s.pre.state = .approvalRequired
      · -- out of a pending approval: only an authorization is left
        have hadmits := heff.state_admits
        rw [hpre] at hadmits
        have hqueued : s.post.state = .actionQueued :=
          (hadmits.approvalRequired.resolve_left happroval).resolve_right hopen
        have hne : s.pre.state ≠ .actionQueued := by rw [hpre]; decide
        rcases heff.actionQueued_cases hqueued (.inl hne) with
          ⟨p, d, hcmd, hbound, hp⟩ | ⟨key', hcmd, -⟩
        · have hsame : p.actionKey = key := Option.some.inj (hp.symm.trans hkey)
          exact ⟨s, by simp, p, d, hcmd, hbound, hsame, hkey⟩
        · exact absurd ⟨hpre, key', hcmd⟩ hguard
      · have hstill : s.pre.state ∉ collectionTerminalStates := by
          intro hclosed
          exact hopen (heff.state_admits.of_closed hclosed).1
        obtain ⟨earlier, hmem, hauth⟩ := hpast key hkept hpre hstill
        exact ⟨earlier, List.mem_append_left _ hmem, hauth⟩

/-- Requeueing a pending approval breaks the law, whatever came before. -/
theorem not_authorizationLaw_of_requeue {past : List CaseStep} {s : CaseStep}
    (h : recovery.Takes s) (hpending : RequeuesPending s) : ¬AuthorizationLaw past s := by
  intro hlaw
  obtain ⟨hpre, key, hcmd⟩ := hpending
  obtain ⟨_, p, d, hauth, -⟩ := (hlaw (enters_of_requeue h hcmd)).2 hpre
  rw [hcmd] at hauth
  exact nomatch hauth

theorem authorizationLaw_step {past : List CaseStep} {s : CaseStep} (h : recovery.Takes s)
    (hpast : KeyAuthorized past s.pre) : AuthorizationLaw past s ↔ ¬RequeuesPending s := by
  constructor
  · intro hlaw hpending
    exact not_authorizationLaw_of_requeue h hpending hlaw
  · intro hguard henters
    obtain ⟨hpost, t, moved, -, heff, hmoves⟩ := enters_cases h henters
    rcases heff.actionQueued_cases hpost hmoves with
      ⟨p, d, hcmd, hbound, hkey⟩ | ⟨key, hcmd, hkey⟩
    · have hauth : AuthorizesAction p.actionKey s := ⟨p, d, hcmd, hbound, rfl, hkey⟩
      exact ⟨.inl ⟨_, hauth⟩, fun _ => ⟨_, hauth⟩⟩
    · have hpre : s.pre.state ≠ .approvalRequired := fun hpre => hguard ⟨hpre, key, hcmd⟩
      have hstill : s.pre.state ∉ collectionTerminalStates := by
        intro hclosed
        have hstill := (heff.state_admits.of_closed hclosed).1
        rw [hpost] at hstill
        exact absurd hstill (by decide)
      exact ⟨.inr ⟨key, hcmd, hpast key hkey hpre hstill⟩, fun he => absurd he hpre⟩

/-- **Authorization is never bypassed, except by a requeue of a pending
approval.** -/
theorem authorizationLaw_iff {a b : RecoveryAggregate} {steps : List CaseStep} (hfresh : Fresh a)
    (hrun : recovery.Run a steps b) :
    Along AuthorizationLaw steps ↔ ∀ s ∈ steps, ¬RequeuesPending s := by
  rw [← along_iff_forall_mem]
  have h0 : KeyAuthorized [] a := by
    obtain ⟨_, _, _, _, _, hfields⟩ := hfresh.fields
    intro key hkey
    rw [hfields] at hkey
    exact absurd hkey (by simp)
  exact hrun.along_iff (H := KeyAuthorized) h0
    (fun _ _ _ hpast h hguard => keyAuthorized_step h hpast hguard)
    (fun _ _ _ hpast h => authorizationLaw_step h hpast)

/-- Any pending approval can be requeued: the case is in the queue then, and no
authorization has taken place. -/
theorem exists_run_requeued {init : RecoveryAggregate} {sc : Scenario} (hfresh : Fresh init)
    (hsc : sc.Suits init.toAggregateFields) :
    ∃ (past : List CaseStep) (s : CaseStep), recovery.Run init (past ++ [s]) s.post ∧
      (past ++ [s]).map Step.cmd = sc.toApprovalRequired ++
        [sc.request 4 (.requeueAfterAbsenceProven sc.proposal.actionKey)] ∧
      recovery.Takes s ∧ RequeuesPending s ∧ s.post.state = .actionQueued := by
  obtain ⟨steps, a, hrun, hcmds, ha⟩ := exists_run_approvalRequired hfresh hsc
  have hadmits : Admits a.state .actionQueued := by rw [ha.state_eq]; decide
  obtain ⟨s, hpre, hcmd, hpost, htakes, hnext, hcmds'⟩ := ha.exists_next hrun hcmds
    (.requeueAfterAbsenceProven ha.key_eq hadmits) (Command.wellFormed_nil rfl)
  have hpending : RequeuesPending s := ⟨by rw [hpre, ha.state_eq], _, hcmd⟩
  exact ⟨steps, s, hnext, hcmds', htakes, hpending, by rw [hpost]⟩

end

/-- The path to collection keeps the law. -/
theorem authorizationLaw_toActive :
    ∃ steps b, recovery.Run sampleCase steps b ∧ steps.map Step.cmd = sampleScenario.toActive ∧
      Along AuthorizationLaw steps := by
  obtain ⟨steps, b, hrun, hcmds, -⟩ := exists_run_active fresh_sampleCase sampleScenario_suits
  refine ⟨steps, b, hrun, hcmds, (authorizationLaw_iff fresh_sampleCase hrun).mpr ?_⟩
  intro s hs ⟨_, key, hcmd⟩
  have hmem : s.cmd ∈ sampleScenario.toActive := hcmds ▸ List.mem_map_of_mem hs
  -- no request of the path is a requeue
  rcases Scenario.mem_toActive hmem with hmem | h
  · rcases Scenario.mem_toExecuting hmem with h | h | h | h | h <;>
      (rw [h] at hcmd; exact nomatch hcmd)
  · rw [h] at hcmd
    exact nomatch hcmd

/-- A requeue of the pending proposal of the sample case puts it into the queue
against the law. -/
theorem authorizationLaw_broken :
    ∃ steps b, Fresh sampleCase ∧ recovery.Run sampleCase steps b ∧
      steps.map Step.cmd = sampleScenario.toApprovalRequired ++
        [sampleScenario.request 4 (.requeueAfterAbsenceProven sampleProposal.actionKey)] ∧
      b.state = .actionQueued ∧ ¬Along AuthorizationLaw steps := by
  obtain ⟨past, s, hrun, hcmds, htakes, hpending, hqueued⟩ :=
    exists_run_requeued fresh_sampleCase sampleScenario_suits
  refine ⟨_, _, fresh_sampleCase, hrun, hcmds, hqueued, fun hlaw => ?_⟩
  exact not_authorizationLaw_of_requeue htakes hpending (hlaw past s [] rfl)

end Retrywise.Domain
