import Retrywise.ControlPlane.LinkRuns

/-!
# Which results can be persisted

`persist_result` settles a result by the status it finds the action in. On the paths
deliveries reach, that covers what an effect can come to, with three exceptions:

> `resultMatches_iff_persistable`: under its fence a result finds its rows, unless it
> is a requery of an effect that was being reconciled, a suppression of one that was
> still executing, or over, or an escalation of one that was uncertain, or over.

The exceptions are all results of a delivery that took over from another one: from
one whose lookup was as incomplete as its own, or from one that had crashed.
-/

namespace Retrywise.ControlPlane

open Retrywise.Foundation Retrywise.Domain

/-- The statuses of an action in which a result of this kind finds its rows. -/
def Persistable (status : ActionStatus) : ExecutionDisposition → Prop
  | .requeryRequired => status ≠ .reconciling
  | .suppressed => status ∉ ActionStatus.executing :: completedStatuses
  | .escalated => status ∉ ActionStatus.uncertain :: completedStatuses
  | .created | .adopted | .requeued | .deadLetter => True

/-- On a staged path a result finds its rows in the accepting statuses, and in no other. -/
theorem resultMatches_iff_accepting {server : Server} {path : EffectPath}
    {result : ExecutionResult} (hstaged : path.Staged) (hlink : result.LinkGiven)
    (hwork : result.disposition ∈ [ExecutionDisposition.created, .adopted] →
      path.action.status ∈ [ActionStatus.executing, .reconciling]) :
    ResultMatches server path result ↔
      path.action.status ∈ acceptingStatuses result.disposition := by
  constructor
  · intro h
    by_cases hgiven : result.disposition ∈ [ExecutionDisposition.created, .adopted]
    · have hstatus := hwork hgiven
      simp only [List.mem_cons, List.not_mem_nil, or_false] at hgiven
      rcases hgiven with hd | hd
      · rw [hd]
        exact hstatus
      · rw [hd]
        exact hstatus
    · by_contra hnot
      exact not_resultMatches hgiven hnot h
  · intro h
    obtain ⟨updates, hupdates, final, happlied, -⟩ := leads_resultUpdates server hstaged hlink h
    exact ⟨updates, final, hupdates, happlied⟩

section

variable [Hashlib]

/-- A delivery has this result to persist, and its fence is held. -/
def CreateJob.Brings (state : CreateJob) (system : CreateSystem) (result : ExecutionResult) :
    Prop :=
  ∃ version claim job fencedAt,
    state.delivery version = some ⟨claim, .working job (.finished result)⟩ ∧
      lockFence state.row state.path job system.command (job.leaseOwner.getD "") fencedAt = true

/-- **Which results can be persisted.** In every state deliveries reach, and for every
result a delivery brings there under its fence. -/
theorem resultMatches_iff_persistable {system : CreateSystem} {init state : CreateJob}
    {steps : List CreateStep} {result : ExecutionResult} (hfresh : init.Fresh)
    (hrun : system.machine.Run init steps state) (hbrings : state.Brings system result) :
    ResultMatches system.server state.path result ↔
      Persistable state.path.action.status result.disposition := by
  obtain ⟨version, claim, job, fencedAt, hd, hfence⟩ := hbrings
  have hkept := kept_of_run hfresh hrun
  have hcurrent : state.row.Current version := hkept.jobVersion hd ▸ current_of_lockFence hfence
  obtain ⟨hlink, hwork, -⟩ := hkept.current version _ hcurrent hd
  have hworking : result.disposition ∈ authorizedDispositions →
      state.path.action.status = .executing ∨ state.path.action.status = .reconciling := by
    intro hauthorized
    rw [hwork hauthorized]
    cases job.retryMode <;> simp [RetryMode.workStatus]
  rw [resultMatches_iff_accepting hkept.staged hlink (by
    intro hgiven
    have hat := hworking (by
      simp only [List.mem_cons, List.not_mem_nil, or_false] at hgiven
      rcases hgiven with hg | hg <;> simp [authorizedDispositions, hg])
    simpa using hat)]
  have hstatus := hkept.staged.status
  cases hdisposition : result.disposition with
  | created | adopted | requeued =>
    have hat := hworking (by simp [hdisposition, authorizedDispositions])
    simpa [Persistable, acceptingStatuses] using hat
  | deadLetter =>
    have hat := hworking (by simp [hdisposition, authorizedDispositions])
    rcases hat with hat | hat <;> simp [Persistable, acceptingStatuses, hat]
  | requeryRequired =>
    have hat := hworking (by simp [hdisposition, authorizedDispositions])
    rcases hat with hat | hat <;> simp [Persistable, acceptingStatuses, hat]
  | suppressed =>
    simp only [List.mem_cons, List.not_mem_nil, or_false, completedStatuses] at hstatus
    rcases hstatus with (hat | hat | hat | hat) | hat | hat | hat | hat | hat <;>
      simp [Persistable, acceptingStatuses, completedStatuses, hat]
  | escalated =>
    simp only [List.mem_cons, List.not_mem_nil, or_false, completedStatuses] at hstatus
    rcases hstatus with (hat | hat | hat | hat) | hat | hat | hat | hat | hat <;>
      simp [Persistable, acceptingStatuses, completedStatuses, hat]

/-- A delivery of an offer that has its result holds its fence. -/
theorem LinkDelivery.At.brings {o : LinkOffer} {steps : List CreateStep} {state : CreateJob}
    {version : Nat} {mode : RetryMode} {now : Timestamp} {result : ExecutionResult}
    (h : LinkDelivery.At o steps state version mode now (.finished result)) :
    state.Brings (LinkDelivery.system o) result := by
  obtain ⟨claim, job, expiry, hexpiry, hd, hholds, -⟩ := h.works
  refine ⟨version, claim, job, now, hd, ?_⟩
  rw [hholds.lease.1]
  exact hholds.lockFence (LinkDelivery.lt_of_shift hexpiry)

end

/-- The first look at an effect nobody knows the outcome of is accepted. -/
theorem resultMatches_iff_persistable_first :
    ∃ (system : CreateSystem) (init state : CreateJob) (steps : List CreateStep)
      (result : ExecutionResult), system.machine.Run init steps state ∧
        state.Brings system result ∧ result.disposition = .requeryRequired ∧
        ResultMatches system.server state.path result := by
  let o : LinkOffer := ⟨⟨12500, "INR", rfl⟩, "upi", by decide, rfl⟩
  obtain ⟨_, _, _, hsent, htried, -⟩ := LinkDelivery.exists_sent o
  obtain ⟨_, hlostPath, hlost⟩ := hsent.answerLost
  obtain ⟨last, result, hresultPath, hrequery, hfinished⟩ := hlost.lookupBroken
  have hbrings := hfinished.brings
  refine ⟨_, _, last.post, _, result, hfinished.run, hbrings, hrequery, ?_⟩
  refine (resultMatches_iff_persistable (LinkDelivery.planned_job o).fresh hfinished.run
    hbrings).mpr ?_
  rw [hresultPath, hlostPath, htried.status, hrequery]
  exact ActionStatus.noConfusion

/-- The second look at an effect nobody knows the outcome of: the delivery before came
to nothing certain, persisted that, and crashed; the next one is as unlucky with its
lookup, and its result finds no row. -/
theorem not_results_accepted :
    ¬∀ (system : CreateSystem) (init state : CreateJob) (steps : List CreateStep)
      (result : ExecutionResult), init.Fresh → system.machine.Run init steps state →
        state.Brings system result → ResultMatches system.server state.path result := by
  intro h
  let o : LinkOffer := ⟨⟨12500, "INR", rfl⟩, "upi", by decide, rfl⟩
  obtain ⟨_, _, _, _, hcleared, huncertain⟩ := LinkDelivery.exists_takenOver o
  obtain ⟨_, -, hreconciling, hauthorized⟩ :=
    hcleared.startReconciling huncertain (by decide) (by decide)
  obtain ⟨_, -, hlookupPath, hlookingUp⟩ := hauthorized.sendLookup
  obtain ⟨last, result, hfinalPath, hdisposition, hfinal⟩ := hlookingUp.lookupBroken
  have hstatus : last.post.path.action.status = .reconciling := by
    rw [hfinalPath, hlookupPath]
    exact hreconciling.status
  have hmatches := h _ _ _ _ _ (LinkDelivery.planned_job o).fresh hfinal.run hfinal.brings
  exact not_resultMatches (by simp [hdisposition])
    (by simp [hdisposition, hstatus, acceptingStatuses]) hmatches

end Retrywise.ControlPlane
