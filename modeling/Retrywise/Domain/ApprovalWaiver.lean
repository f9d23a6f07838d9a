import Retrywise.Domain.GateSoundness

/-!
# What an approval waives

`_evaluate` run twice, without an approval and with one, on the same policy, stage,
proposal, plan and facts. Only one part of the list looks at the approval, and that part
has reasons of the approval's class and no others; every other part has none of them. So
the two lists can only differ inside the class.

> `evaluate_waiver`: outside the approval's class both runs have the same reasons in the
> same order, an approval brings no class with it that was not there, and one that is
> granted, runs and is bound takes the class away and nothing else.
-/

namespace Retrywise.Domain

open Retrywise.Foundation

/-! ## Two classes of reasons -/

/-- The reasons no approval clears, in their order. -/
def unwaivable (reasons : List GateReason) : List GateReason :=
  reasons.filter fun reason => reason ∉ approvalBlockingReasons

/-- No reason of the list is one an approval clears. -/
def Spared (reasons : List GateReason) : Prop :=
  ∀ reason ∈ reasons, reason ∉ approvalBlockingReasons

theorem unwaivable_append (left right : List GateReason) :
    unwaivable (left ++ right) = unwaivable left ++ unwaivable right := List.filter_append left right

theorem Spared.unwaivable_eq {reasons : List GateReason} (h : Spared reasons) :
    unwaivable reasons = reasons := by
  refine List.filter_eq_self.mpr fun reason hreason => ?_
  exact decide_eq_true (h reason hreason)

theorem unwaivable_eq_nil {reasons : List GateReason}
    (h : ∀ reason ∈ reasons, reason ∈ approvalBlockingReasons) : unwaivable reasons = [] := by
  refine List.filter_eq_nil_iff.mpr fun reason hreason => ?_
  simpa using h reason hreason

theorem Spared.append {left right : List GateReason} (hleft : Spared left)
    (hright : Spared right) : Spared (left ++ right) := by
  intro reason hreason
  rcases List.mem_append.mp hreason with hmem | hmem
  · exact hleft reason hmem
  · exact hright reason hmem

theorem spared_nil : Spared [] := fun _ hreason => absurd hreason List.not_mem_nil

theorem spared_singleton {reason : GateReason} (h : reason ∉ approvalBlockingReasons) :
    Spared [reason] := by
  intro other hother
  rw [List.mem_singleton.mp hother]
  exact h

theorem spared_reasonIf {c : Prop} [Decidable c] {reason : GateReason}
    (h : reason ∉ approvalBlockingReasons) : Spared (reasonIf c reason) := by
  unfold reasonIf
  split
  · exact spared_singleton h
  · exact spared_nil

/-- A reason of the class, where there is one. -/
theorem mem_of_mem_reasonIf {c : Prop} [Decidable c] {reason other : GateReason}
    (h : other ∈ reasonIf c reason) : other = reason := by
  unfold reasonIf at h
  split at h
  · exact List.mem_singleton.mp h
  · exact absurd h List.not_mem_nil

namespace DeterministicGate

section

variable {gate : DeterministicGate} {stage : GateStage} {p : ActionProposal} {c : GateContext}
  {horizon : Timestamp}

theorem spared_only {actions : List ActionType} {reasons : List GateReason}
    (h : Spared reasons) : Spared (only p actions reasons) := by
  unfold only
  split
  · exact h
  · exact spared_nil

/-! ## The parts that no approval clears -/

theorem spared_standingReasons : Spared (standingReasons gate p c horizon) :=
  ((((spared_reasonIf (by decide)).append (spared_reasonIf (by decide))).append
    (spared_reasonIf (by decide))).append (spared_reasonIf (by decide))).append
    (spared_reasonIf (by decide))

theorem spared_switchReasons : Spared (switchReasons p c) :=
  ((spared_reasonIf (by decide)).append (spared_reasonIf (by decide))).append
    (spared_reasonIf (by decide))

theorem spared_caseReasons : Spared (caseReasons stage p c) :=
  (spared_reasonIf (by decide)).append (spared_reasonIf (by decide))

theorem spared_windowReasons : Spared (windowReasons c) := by
  unfold windowReasons
  split
  · exact spared_singleton (by decide)
  · exact spared_reasonIf (by decide)

theorem spared_ageReasons {observedAt : Timestamp} {maxAge : Timedelta}
    {fromFuture stale : GateReason} (hfuture : fromFuture ∉ approvalBlockingReasons)
    (hstale : stale ∉ approvalBlockingReasons) :
    Spared (ageReasons c horizon observedAt maxAge fromFuture stale) := by
  unfold ageReasons
  split
  · exact spared_singleton hfuture
  · exact spared_reasonIf hstale

theorem spared_truthReasons : Spared (truthReasons gate c horizon) :=
  (spared_reasonIf (by decide)).append (spared_ageReasons (by decide) (by decide))

theorem spared_instrumentReasons : Spared (instrumentReasons p c) := by
  unfold instrumentReasons
  split
  · exact spared_reasonIf (by decide)
  · exact spared_reasonIf (by decide)

theorem spared_amountReasons {amount : Money} : Spared (amountReasons p c amount) := by
  refine Spared.append ?_ (spared_reasonIf (by decide))
  split
  · exact spared_singleton (by decide)
  · exact spared_reasonIf (by decide)

theorem spared_contactReasons : Spared (contactReasons gate c) :=
  ((((spared_reasonIf (by decide)).append (spared_reasonIf (by decide))).append
    (spared_reasonIf (by decide))).append (spared_reasonIf (by decide))).append
    (spared_reasonIf (by decide))

theorem spared_healthReasons : Spared (healthReasons gate c horizon) :=
  ((spared_ageReasons (by decide) (by decide)).append (spared_reasonIf (by decide))).append
    (spared_reasonIf (by decide))

end

variable [Hashlib] (gate : DeterministicGate) (stage : GateStage) (p : ActionProposal)
  (c : GateContext) (horizon : Timestamp) (priorPlan : Option GateDecision)

theorem spared_planReasons : Spared (planReasons gate p c priorPlan) := by
  refine Spared.append ?_ (spared_reasonIf (by decide))
  split
  · exact spared_singleton (by decide)
  · exact spared_reasonIf (by decide)

/-! ## The part that looks at the approval -/

/-- The evaluation up to the threshold's currency. -/
def leadReasons : List GateReason :=
  standingReasons gate p c horizon ++
  switchReasons p c ++
  caseReasons stage p c ++
  only p collectionActions (windowReasons c) ++
  only p collectionActions (truthReasons gate c horizon) ++
  instrumentReasons p c ++
  only p collectionActions
    (match p.amount with
      | none => []
      | some amount => amountReasons p c amount) ++
  only p contactActions (contactReasons gate c) ++
  only p collectionActions (healthReasons gate c horizon) ++
  only p collectionActions (reasonIf (p.amount.any fun amount =>
    amount.currency ≠ gate.policy.approvalThreshold.currency) .policyCurrencyMismatch)

/-- The causes with what is wrong with the approval, where one is needed and not there. -/
def askedReasons : List GateReason :=
  if p.requiresApproval ∨ approvalCauses gate p c ≠ [] then
    match approvalFailure p c with
    | none => []
    | some failure => approvalCauses gate p c ++ [failure]
  else []

/-- The evaluation behind the approval. -/
def trailReasons : List GateReason :=
  if stage = .effect then only p externalActions (planReasons gate p c priorPlan) else []

/-- The list is put together from the part that looks at the approval and the two around
it. -/
theorem reasons_eq :
    reasons gate stage p c horizon priorPlan =
      leadReasons gate stage p c horizon ++ only p collectionActions (askedReasons gate p c) ++
        trailReasons gate stage p c priorPlan := by
  have happroval : only p collectionActions (approvalReasons gate p c) =
      only p collectionActions (reasonIf (p.amount.any fun amount =>
        amount.currency ≠ gate.policy.approvalThreshold.currency) .policyCurrencyMismatch) ++
      only p collectionActions (askedReasons gate p c) := by
    unfold only
    split
    · rfl
    · rfl
  unfold reasons leadReasons trailReasons
  rw [happroval]
  simp only [List.append_assoc] <;> rfl

omit [Hashlib] in
theorem spared_leadReasons : Spared (leadReasons gate stage p c horizon) := by
  have hamount : Spared (match p.amount with
      | none => []
      | some amount => amountReasons p c amount) := by
    split
    · exact spared_nil
    · exact spared_amountReasons
  exact ((((((((spared_standingReasons.append spared_switchReasons).append
    spared_caseReasons).append (spared_only spared_windowReasons)).append
    (spared_only spared_truthReasons)).append spared_instrumentReasons).append
    (spared_only hamount)).append (spared_only spared_contactReasons)).append
    (spared_only spared_healthReasons)).append (spared_only (spared_reasonIf (by decide)))

theorem spared_trailReasons : Spared (trailReasons gate stage p c priorPlan) := by
  unfold trailReasons
  split
  · exact spared_only (spared_planReasons gate p c priorPlan)
  · exact spared_nil

omit [Hashlib] in
theorem waivable_of_approvalCauses :
    ∀ reason ∈ approvalCauses gate p c, reason ∈ approvalBlockingReasons := by
  intro reason hreason
  simp only [approvalCauses, List.mem_append] at hreason
  rcases hreason with ((hvalue | hconfidence) | habstains) | hreview
  · rw [mem_of_mem_reasonIf hvalue]
    decide
  · unfold confidenceCauses at hconfidence
    split at hconfidence
    · rw [List.mem_singleton.mp hconfidence]
      decide
    · rw [mem_of_mem_reasonIf hconfidence]
      decide
  · rw [mem_of_mem_reasonIf habstains]
    decide
  · rw [mem_of_mem_reasonIf hreview]
    decide

theorem waivable_of_approvalFailure {failure : GateReason}
    (h : approvalFailure p c = some failure) : failure ∈ approvalBlockingReasons := by
  unfold approvalFailure at h
  split at h
  · rw [← Option.some.inj h]
    decide
  · split_ifs at h
    all_goals
      rw [← Option.some.inj h]
      decide

theorem waivable_of_askedReasons :
    ∀ reason ∈ askedReasons gate p c, reason ∈ approvalBlockingReasons := by
  intro reason hreason
  unfold askedReasons at hreason
  split at hreason
  · split at hreason
    · exact absurd hreason List.not_mem_nil
    next failure hfailure =>
      rcases List.mem_append.mp hreason with hcause | hlast
      · exact waivable_of_approvalCauses gate p c reason hcause
      · rw [List.mem_singleton.mp hlast]
        exact waivable_of_approvalFailure p c hfailure
  · exact absurd hreason List.not_mem_nil

theorem waivable_of_only_asked :
    ∀ reason ∈ only p collectionActions (askedReasons gate p c),
      reason ∈ approvalBlockingReasons := by
  intro reason hreason
  unfold only at hreason
  split at hreason
  · exact waivable_of_askedReasons gate p c reason hreason
  · exact absurd hreason List.not_mem_nil

/-- Outside the approval's class the list is the two parts around the approval. -/
theorem unwaivable_reasons :
    unwaivable (reasons gate stage p c horizon priorPlan) =
      leadReasons gate stage p c horizon ++ trailReasons gate stage p c priorPlan := by
  rw [reasons_eq, unwaivable_append, unwaivable_append,
    (spared_leadReasons gate stage p c horizon).unwaivable_eq,
    unwaivable_eq_nil (waivable_of_only_asked gate p c), List.append_nil,
    (spared_trailReasons gate stage p c priorPlan).unwaivable_eq]

/-- A reason of the approval's class is one of the part that looks at it. -/
theorem mem_reasons_waivable_iff {reason : GateReason}
    (hclass : reason ∈ approvalBlockingReasons) :
    reason ∈ reasons gate stage p c horizon priorPlan ↔
      reason ∈ only p collectionActions (askedReasons gate p c) := by
  rw [reasons_eq, List.mem_append, List.mem_append]
  constructor
  · intro hmem
    rcases hmem with (hlead | hasked) | htrail
    · exact absurd hclass (spared_leadReasons gate stage p c horizon reason hlead)
    · exact hasked
    · exact absurd hclass (spared_trailReasons gate stage p c priorPlan reason htrail)
  · intro hasked
    exact .inl (.inr hasked)

end DeterministicGate

/-! ## Two runs -/

/-- The context with another approval, or none, and everything else as it is. -/
def GateContext.withApproval (c : GateContext) (approval : Option Approval) : GateContext where
  toGateContextFields := { c.toGateContextFields with approval }
  valid := c.valid

section

variable [Hashlib]

/-- The reasons of two runs, without an approval and with this one. -/
structure Waiver (p : ActionProposal) (c : GateContext) (approval : Approval)
    (without given : List GateReason) : Prop where
  outside : unwaivable given = unwaivable without
  inside : (∃ reason ∈ given, reason ∈ approvalBlockingReasons) →
    ∃ reason ∈ without, reason ∈ approvalBlockingReasons
  cleared : Approved p (c.withApproval (some approval)) approval → given = unwaivable without

namespace DeterministicGate

variable {gate : DeterministicGate} {stage : GateStage} {p : ActionProposal} {c : GateContext}
  {priorPlan : Option GateDecision} {approval : Approval} {without : GateDecision}

/-- Where an approval is asked for, it is asked for without one. -/
theorem exists_asked_without (h : askedReasons gate p (c.withApproval (some approval)) ≠ []) :
    askedReasons gate p (c.withApproval none) ≠ [] := by
  unfold askedReasons at h ⊢
  by_cases hneeded : p.requiresApproval ∨
      approvalCauses gate p (c.withApproval (some approval)) ≠ []
  · have hsame : p.requiresApproval ∨ approvalCauses gate p (c.withApproval none) ≠ [] := hneeded
    rw [if_pos hsame]
    exact List.append_ne_nil_of_right_ne_nil _ (List.cons_ne_nil _ _)
  · rw [if_neg hneeded] at h
    exact absurd rfl h

/-- An approval that is the one the proposal needs leaves nothing to ask for. -/
theorem askedReasons_of_approved (h : Approved p c approval) : askedReasons gate p c = [] := by
  unfold askedReasons
  rw [approvalFailure_eq_none_iff.mpr ⟨approval, h⟩]
  split
  · rfl
  · rfl

omit [Hashlib] in
theorem only_ne_nil_iff {actions : List ActionType} {reasons : List GateReason} :
    only p actions reasons ≠ [] ↔ p.actionType ∈ actions ∧ reasons ≠ [] := by
  rw [ne_eq, only_eq_nil_iff, Classical.not_imp]

/-- **An approval waives reasons of its own class and no others.** -/
theorem evaluate_waiver (approval : Approval)
    (h : gate.evaluate stage p (c.withApproval none) priorPlan = .ok without) :
    ∃ given, gate.evaluate stage p (c.withApproval (some approval)) priorPlan = .ok given ∧
      Waiver p c approval without.reasons given.reasons := by
  obtain ⟨horizon, hshift, h⟩ := bind_ok_iff.mp h
  -- the facts around the approval are the same ones in both runs
  have hlead : leadReasons gate stage p (c.withApproval (some approval)) horizon =
      leadReasons gate stage p (c.withApproval none) horizon := rfl
  have htrail : trailReasons gate stage p (c.withApproval (some approval)) priorPlan =
      trailReasons gate stage p (c.withApproval none) priorPlan := rfl
  refine ⟨_, bind_ok_iff.mpr ⟨horizon, hshift, rfl⟩, ?_⟩
  rw [← pure_ok_iff.mp h]
  constructor
  · show unwaivable (reasons _ _ _ _ _ _) = unwaivable (reasons _ _ _ _ _ _)
    rw [unwaivable_reasons, unwaivable_reasons, hlead, htrail]
  · intro hclass
    obtain ⟨reason, hreason, hin⟩ := hclass
    rw [mem_reasons_waivable_iff gate stage p _ horizon priorPlan hin] at hreason
    have hasked := only_ne_nil_iff.mp (List.ne_nil_of_mem hreason)
    have hwithout : only p collectionActions (askedReasons gate p (c.withApproval none)) ≠ [] :=
      only_ne_nil_iff.mpr ⟨hasked.1, exists_asked_without hasked.2⟩
    obtain ⟨first, hfirst⟩ := List.exists_mem_of_ne_nil _ hwithout
    have hfirstIn := waivable_of_only_asked gate p _ first hfirst
    exact ⟨first, (mem_reasons_waivable_iff gate stage p _ horizon priorPlan hfirstIn).mpr hfirst,
      hfirstIn⟩
  · intro happroved
    have hnothing : only p collectionActions
        (askedReasons gate p (c.withApproval (some approval))) = [] := by
      rw [askedReasons_of_approved happroved]
      exact only_eq_nil_iff.mpr fun _ => rfl
    show reasons _ _ _ _ _ _ = unwaivable (reasons _ _ _ _ _ _)
    rw [unwaivable_reasons, reasons_eq, hnothing, List.append_nil, hlead, htrail]

end DeterministicGate

end

namespace DeterministicGate

/-- The sample proposal asks for an approval, and with the sample approval nothing of its
class is left. -/
theorem evaluate_waiver_sample :
    ∃ without given,
      sampleGate.evaluate .policy gatedProposal ((sampleContext 0 .assessing).withApproval none)
        none = .ok without ∧
      sampleGate.evaluate .policy gatedProposal
        ((sampleContext 0 .assessing).withApproval (some sampleApproval)) none = .ok given ∧
      given.reasons = unwaivable without.reasons := by
  obtain ⟨horizon, hshift⟩ : ∃ horizon, shift sampleDeadline (seconds 5) = .ok horizon :=
    ⟨⟨63902736125000000, by decide, by decide⟩, shift_ok_iff.mpr rfl⟩
  have hwithout : sampleGate.evaluate .policy gatedProposal
      ((sampleContext 0 .assessing).withApproval none) none = .ok _ :=
    bind_ok_iff.mpr ⟨horizon, hshift, rfl⟩
  obtain ⟨given, hgiven, hwaiver⟩ := evaluate_waiver sampleApproval hwithout
  exact ⟨_, given, hwithout, hgiven, hwaiver.cleared (sampleApproval_approved 0 .assessing)⟩

end DeterministicGate

end Retrywise.Domain
