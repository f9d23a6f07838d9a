import Retrywise.Domain.Enabled

/-!
# The case over time

The aggregate as a command machine, the cases a run starts from, and what any
step does to the fields that all laws talk about: the version goes up by one,
the clock does not go back, the identity of the case is fixed, and each of the
two state machines moves along an edge of its graph.

`takes_cases` is the only way later modules look at a step: it was idle, or it
was one branch of `Effect`.
-/

namespace Retrywise.Domain

open Retrywise.Foundation

/-- One accepted request: the case before, the request, the case after, the
events. -/
abbrev CaseStep := Step RecoveryAggregate Request (List AggregateEvent)

/-- The aggregate as a command machine. -/
def recovery [Hashlib] : Machine RecoveryAggregate Request (List AggregateEvent) DomainError where
  exec a r := (a.execute r).map fun c => (c.aggregate, c.events)

/-- A case as the constructor makes it: dormant, nothing observed, version 0. -/
def Fresh (a : RecoveryAggregate) : Prop :=
  ∃ merchantId caseId logicalOrderId amountDue policy,
    RecoveryAggregate.new merchantId caseId logicalOrderId amountDue policy = .ok a

/-- A case some run of accepted commands leads to. -/
def Reachable [Hashlib] (b : RecoveryAggregate) : Prop :=
  ∃ a steps, Fresh a ∧ recovery.Run a steps b

variable {a b : AggregateFields} {t : Timestamp} {command : Command}
  {moved : Option RecoveryState}

theorem Fresh.fields {a : RecoveryAggregate} (h : Fresh a) :
    ∃ merchantId caseId logicalOrderId amountDue policy, a.toAggregateFields =
      { merchantId := merchantId
        caseId := caseId
        logicalOrderId := logicalOrderId
        amountDue := amountDue
        lateCapturePolicy := policy } := by
  obtain ⟨m, c, o, amount, policy, hnew⟩ := h
  exact ⟨m, c, o, amount, policy, RecoveryAggregate.build_ok_iff.mp hnew⟩

/-! ## Reading a step -/

/-- A step that left the case alone, or took one branch and emitted its event. -/
inductive Outcome [Hashlib] (s : CaseStep) : Prop
  | idle : Idle s.pre.toAggregateFields s.cmd.command → s.post = s.pre → s.out = [] → Outcome s
  | effective {t event moved} : s.pre.Timely s.cmd.atTime t →
      Effect s.pre.toAggregateFields t s.cmd.command s.post.toAggregateFields moved →
      s.out = [event] → event.version = s.pre.version + 1 → event.occurredAt = t →
      event.workflowTo = moved.map (fun target => Json.str target.value) → Outcome s

theorem takes_cases [Hashlib] {s : CaseStep} (h : recovery.Takes s) :
    s.cmd.expectedVersion = s.pre.version ∧ Outcome s := by
  obtain ⟨c, hexec, hc⟩ := map_ok_iff.mp h
  obtain ⟨hpost, hout⟩ := Prod.mk.inj hc
  cases execute_accepted hexec with
  | idle hv hidle => exact ⟨hv, .idle hidle hpost.symm hout.symm⟩
  | @effective t b event moved hv ht heff hversion hat hmoved =>
    rw [show b = s.post from hpost] at heff
    exact ⟨hv, .effective ht heff hout.symm hversion hat hmoved⟩

/-- The converse for one branch: an enabled branch extends a run. -/
theorem exists_run_next [Hashlib] {init a : RecoveryAggregate} {past : List CaseStep}
    {fields : AggregateFields} {atTime : Datetime} (hrun : recovery.Run init past a)
    (h : Effect a.toAggregateFields t command fields moved) (hargs : command.WellFormed)
    (ht : a.Timely atTime t) :
    ∃ s : CaseStep, s.pre = a ∧ s.cmd = ⟨a.version, atTime, command⟩ ∧
      s.post.toAggregateFields = fields ∧ recovery.Takes s ∧
      recovery.Run init (past ++ [s]) s.post := by
  obtain ⟨b, event, hb, hexec⟩ := exists_execute_of_effect h hargs ht
  let s : CaseStep := ⟨a, ⟨a.version, atTime, command⟩, b, [event]⟩
  have htakes : recovery.Takes s := map_ok_iff.mpr ⟨_, hexec, rfl⟩
  exact ⟨s, rfl, rfl, hb, htakes, .next hrun htakes⟩

/-- A branch that has nothing to do extends a run as well. -/
theorem run_next_idle [Hashlib] {init a : RecoveryAggregate} {past : List CaseStep}
    (atTime : Datetime) (hrun : recovery.Run init past a) (h : Idle a.toAggregateFields command)
    (hargs : command.WellFormed) :
    recovery.Run init (past ++ [⟨a, ⟨a.version, atTime, command⟩, a, []⟩]) a := by
  have htakes : recovery.Takes (⟨a, ⟨a.version, atTime, command⟩, a, []⟩ : CaseStep) :=
    map_ok_iff.mpr ⟨_, execute_of_idle atTime h hargs, rfl⟩
  exact .next hrun htakes

/-- An invariant of the record that every branch keeps holds in every case a
run leads to. -/
theorem run_invariant [Hashlib] {I : AggregateFields → Prop} {init final : RecoveryAggregate}
    {steps : List CaseStep} (h0 : I init.toAggregateFields)
    (hkeep : ∀ {a b t command moved}, I a → Effect a t command b moved →
      (∀ last, a.lastTransitionAt = some last → last ≤ t) → I b)
    (hrun : recovery.Run init steps final) : I final.toAggregateFields := by
  refine Machine.Run.invariant (I := fun a => I a.toAggregateFields) h0 ?_ hrun
  intro s hI htakes
  cases (takes_cases htakes).2 with
  | idle _ hpost => rwa [hpost]
  | effective ht heff => exact hkeep hI heff ht.2

/-! ## What every branch does -/

/-- What identifies a case, and the policy bound to it. -/
structure SameCase (a b : AggregateFields) : Prop where
  merchantId : b.merchantId = a.merchantId
  caseId : b.caseId = a.caseId
  logicalOrderId : b.logicalOrderId = a.logicalOrderId
  amountDue : b.amountDue = a.amountDue
  lateCapturePolicy : b.lateCapturePolicy = a.lateCapturePolicy

theorem SameCase.trans {a b c : AggregateFields} (h₁ : SameCase a b) (h₂ : SameCase b c) :
    SameCase a c where
  merchantId := h₂.merchantId.trans h₁.merchantId
  caseId := h₂.caseId.trans h₁.caseId
  logicalOrderId := h₂.logicalOrderId.trans h₁.logicalOrderId
  amountDue := h₂.amountDue.trans h₁.amountDue
  lateCapturePolicy := h₂.lateCapturePolicy.trans h₁.lateCapturePolicy

namespace Effect

variable [Hashlib]

theorem version_eq (h : Effect a t command b moved) : b.version = a.version + 1 := by
  cases h <;> rfl

theorem lastTransitionAt_eq (h : Effect a t command b moved) : b.lastTransitionAt = some t := by
  cases h <;> rfl

theorem sameCase (h : Effect a t command b moved) : SameCase a b := by
  cases h <;> exact ⟨rfl, rfl, rfl, rfl, rfl⟩

/-- Payment truth stays, or moves along an edge of its graph. -/
theorem payment_edge (h : Effect a t command b moved) :
    b.paymentState = a.paymentState ∨ b.paymentState ∈ paymentTransitions a.paymentState := by
  -- only the branches that write the payment state are of interest
  cases h with
  | reconcilePaymentTruth hedge => exact .inr hedge
  | originalPaidOpen _ _ hpay => exact hpay.imp_left Eq.symm
  | originalPaidClosed _ _ hedge => exact .inr hedge
  | originalPaidTwice _ hpay => exact hpay.imp_left Eq.symm
  | recoveryPaid _ hedge => exact .inr hedge
  | recoveryPaidTwice _ hpaid =>
    refine .inr ?_
    rw [hpaid]
    exact List.mem_cons_self
  | duplicateCollection _ hpay => exact hpay.imp_left Eq.symm
  | _ => exact .inl rfl

/-- The workflow only makes moves the validator admits. -/
theorem state_admits (h : Effect a t command b moved) : Admits a.state b.state := by
  -- a branch accepted in one state only goes along an edge of that state
  have hedge : ∀ {source target : RecoveryState}, a.state = source →
      target ∈ recoveryTransitions source → Admits a.state target := by
    intro source target hs htarget
    exact .inr (.inl (hs ▸ htarget))
  cases h with
  | observeFailure hsource =>
    rcases hsource with hs | hs
    · exact hedge hs (by simp [recoveryTransitions])
    · exact .inl hs
  | reconcilePaymentTruth => exact .inl rfl
  | updateIncidentState => exact .inl rfl
  | markReadyForEvaluation hadmits => exact hadmits
  | wait hadmits => exact hadmits
  | wake hadmits => exact hadmits
  | requestApproval hstate => exact hedge hstate (by simp [recoveryTransitions])
  | authorizeAction hsource =>
    rcases hsource with ⟨hs, -⟩ | ⟨hs, -⟩
    · exact hedge hs (by simp [recoveryTransitions])
    · exact hedge hs (by simp [recoveryTransitions])
  | recordInternalDecision _ _ _ hadmits => exact hadmits
  | beginExecution hstate => exact hedge hstate (by simp [recoveryTransitions])
  | recordActionActive _ hadmits => exact hadmits
  | recordActionUncertain _ hadmits => exact hadmits
  | requeueAfterAbsenceProven _ hadmits => exact hadmits
  | escalateUncertainAction _ hadmits => exact hadmits
  | recordActionFailedSafe _ hadmits => exact hadmits
  | recordActiveExpired _ hadmits => exact hadmits
  | originalPaidOpen hopen hstarted =>
    show Admits a.state .suppressedPaid
    revert hopen hstarted
    cases a.state <;> decide
  | originalPaidClosed => exact .inl rfl
  | originalPaidTwice hrecovered => exact .inr (.inr ⟨rfl, by rw [hrecovered]; decide⟩)
  | recoveryPaid hactive => exact hedge hactive (by simp [recoveryTransitions])
  | recoveryPaidTwice hactive => exact .inr (.inr ⟨rfl, by rw [hactive]; decide⟩)
  | duplicateCollection hstarted => exact .inr (.inr ⟨rfl, hstarted⟩)

/-- A decision is the next one, or the pending one again. -/
theorem decisionVersion_cases (h : Effect a t command b moved) :
    b.decisionVersion = a.decisionVersion ∨ b.decisionVersion = a.decisionVersion + 1 := by
  cases h with
  | requestApproval _ _ hdv => exact .inr hdv
  | authorizeAction hsource =>
    rcases hsource with ⟨-, hdv⟩ | ⟨-, hdv, -⟩
    · exact .inr hdv
    · exact .inl hdv
  | recordInternalDecision _ hdv => exact .inr hdv
  | _ => exact .inl rfl

/-- Where the active key comes from: a proposal held for approval, a proposal
authorized, or the version before. -/
theorem activeActionKey_cases {key : String} (h : Effect a t command b moved)
    (hkey : b.activeActionKey = some key) :
    (∃ p d, command = .requestApproval p d ∧ a.state = .assessing ∧ b.state = .approvalRequired ∧
        p.actionKey = key ∧ b.decisionVersion = p.decisionVersion) ∨
      (∃ p d, command = .authorizeAction p d ∧ Bound a p d .policy true ∧ p.actionKey = key ∧
        b.decisionVersion = p.decisionVersion ∧
        (a.state = .assessing ∨ a.activeActionKey = some key)) ∨
      a.activeActionKey = some key := by
  cases h with
  | requestApproval hstate =>
    exact .inl ⟨_, _, rfl, hstate, rfl, Option.some.inj hkey, rfl⟩
  | authorizeAction hsource _ hbound =>
    refine .inr (.inl ⟨_, _, rfl, hbound, Option.some.inj hkey, rfl, ?_⟩)
    rcases hsource with ⟨hstate, -⟩ | ⟨-, -, hpending, -⟩
    · exact .inl hstate
    · exact .inr (hpending.trans hkey)
  | recordActiveExpired => exact absurd hkey (by simp)
  | originalPaidOpen => exact absurd hkey (by simp)
  | originalPaidTwice => exact absurd hkey (by simp [AggregateFields.duplicated])
  | recoveryPaidTwice => exact absurd hkey (by simp [AggregateFields.duplicated])
  | duplicateCollection => exact absurd hkey (by simp [AggregateFields.duplicated])
  | _ => exact .inr (.inr hkey)

/-- The workflow target an event reports is where the case is afterwards. -/
theorem moved_eq {target : RecoveryState} (h : Effect a t command b (some target)) :
    b.state = target := by
  cases h <;> rfl

end Effect

/-- A run is about one case, under one policy. -/
theorem sameCase_of_run [Hashlib] {init final : RecoveryAggregate} {steps : List CaseStep}
    (hrun : recovery.Run init steps final) :
    SameCase init.toAggregateFields final.toAggregateFields := by
  refine run_invariant (I := SameCase init.toAggregateFields) ⟨rfl, rfl, rfl, rfl, rfl⟩ ?_ hrun
  intro a b t command moved ha heff _
  exact ha.trans heff.sameCase

/-- A case at version 0 has not been started. -/
theorem dormant_of_version_zero [Hashlib] {init final : RecoveryAggregate}
    {steps : List CaseStep} (hfresh : Fresh init) (hrun : recovery.Run init steps final)
    (hversion : final.version = 0) : final.state = .dormant := by
  have h0 : init.version = 0 → init.state = .dormant := by
    obtain ⟨_, _, _, _, _, hfields⟩ := hfresh.fields
    intro _
    rw [hfields]
  refine run_invariant (I := fun a => a.version = 0 → a.state = .dormant) h0 ?_ hrun hversion
  intro a b t command moved _ heff _ hzero
  have hnext := heff.version_eq
  omega

/-! ## Entering a state -/

/-- The step moves the case into `target`: it was elsewhere before and is there
after, or its event reports `target` as where the workflow went. -/
def Enters (target : RecoveryState) (s : CaseStep) : Prop :=
  (s.pre.state ≠ target ∧ s.post.state = target) ∨
    ∃ event ∈ s.out, event.workflowTo = some (.str target.value)

/-- An event that reports where the workflow went. -/
theorem enters_of_out {target : RecoveryState} {s : CaseStep} {event : AggregateEvent}
    (hout : s.out = [event]) (hto : event.workflowTo = some (.str target.value)) :
    Enters target s := by
  refine .inr ⟨event, ?_, hto⟩
  rw [hout]
  exact List.mem_singleton_self _

/-- An accepted request whose command is not idle took one of its branches. The
record afterwards is named, so that the branch can be read by cases. -/
theorem exists_effect [Hashlib] {s : CaseStep} (h : recovery.Takes s)
    (hcmd : s.cmd.command = command) (hbusy : ¬Idle s.pre.toAggregateFields command) :
    ∃ t b moved, s.post.toAggregateFields = b ∧ s.pre.Timely s.cmd.atTime t ∧
      Effect s.pre.toAggregateFields t command b moved ∧
      ∀ target, moved = some target → Enters target s := by
  cases (takes_cases h).2 with
  | idle hidle =>
    rw [hcmd] at hidle
    exact absurd hidle hbusy
  | @effective t event moved ht heff hout _ _ hmoved =>
    rw [hcmd] at heff
    refine ⟨t, _, moved, rfl, ht, heff, ?_⟩
    intro target htarget
    refine enters_of_out hout ?_
    rw [hmoved, htarget]
    rfl

theorem RecoveryState.value_injective {s s' : RecoveryState} (h : s.value = s'.value) : s = s' := by
  revert h
  cases s <;> cases s' <;> decide

/-- Entering, in terms of the branch taken. -/
theorem enters_cases [Hashlib] {target : RecoveryState} {s : CaseStep} (h : recovery.Takes s)
    (henters : Enters target s) :
    s.post.state = target ∧ ∃ t moved, s.pre.Timely s.cmd.atTime t ∧
      Effect s.pre.toAggregateFields t s.cmd.command s.post.toAggregateFields moved ∧
      (s.pre.state ≠ target ∨ moved = some target) := by
  cases (takes_cases h).2 with
  | idle hidle hpost hout =>
    -- an idle step neither moves the case nor emits an event
    rcases henters with ⟨hpre, htarget⟩ | ⟨event, hmem, -⟩
    · exact absurd (hpost ▸ htarget) hpre
    · rw [hout] at hmem
      exact absurd hmem (by simp)
  | @effective t event moved ht heff hout hversion hat hmoved =>
    rcases henters with ⟨hpre, htarget⟩ | ⟨event', hmem, hto⟩
    · exact ⟨htarget, t, moved, ht, heff, .inl hpre⟩
    · rw [hout, List.mem_singleton] at hmem
      rw [hmem, hmoved, Option.map_eq_some_iff] at hto
      obtain ⟨target', hsome, hvalue⟩ := hto
      obtain rfl := RecoveryState.value_injective (Json.str.inj hvalue)
      subst hsome
      exact ⟨heff.moved_eq, t, _, ht, heff, .inr rfl⟩

end Retrywise.Domain
