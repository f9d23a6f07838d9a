import Retrywise.Domain.Lifecycle

/-!
# The collection path is open

No law about runs says anything about a machine that refuses everything. This
file drives an arbitrary fresh case forwards: through its observation window to
assessment, with any collection proposal made for it to a pending approval or
into the execution queue, and with any link to an active instrument. Every
request after the first observation is sent at the deadline itself, the earliest
time the window allows.

A `Scenario` holds what the outside world contributes, and names the requests
that lead to each station; `Stands` is what is known of the case there.
-/

namespace Retrywise.Domain

open Retrywise.Foundation

/-- What the outside world contributes to a run. -/
structure Scenario where
  start : Timestamp
  deadline : Timestamp
  event : String
  evidence : String
  policyVersion : String
  proposal : ActionProposal
  reason : GateReason
  link : String

/-- The scenario is about this case, and its values are well formed. -/
structure Scenario.Suits (sc : Scenario) (c : AggregateFields) : Prop where
  deadline : sc.deadline.micros = sc.start.micros + c.lateCapturePolicy.minimumObservationWindow
  event : isIdentifier sc.event = true
  evidence : isIdentifier sc.evidence = true
  merchantId : sc.proposal.merchantId = c.merchantId
  caseId : sc.proposal.caseId = c.caseId
  decisionVersion : sc.proposal.decisionVersion = 1
  actionType : sc.proposal.actionType ∈ collectionActions
  reason : sc.reason ∈ approvalBlockingReasons
  link : isIdentifier sc.link = true

namespace Scenario

variable (sc : Scenario)

/-- A request at the deadline. -/
def request (version : Int) (command : Command) : Request :=
  ⟨version, sc.deadline.toDatetime, command⟩

/-- The decision a gate issues about the proposal at a version of the case. -/
def issued [Hashlib] (stage : GateStage) (version : Nat) (reasons : List GateReason) :
    GateDecision where
  stage := stage
  policyVersion := sc.policyVersion
  proposalId := sc.proposal.proposalId
  actionKey := sc.proposal.actionKey
  proposalDigest := sc.proposal.proposalDigest
  caseId := sc.proposal.caseId
  decisionVersion := sc.proposal.decisionVersion
  aggregateVersion := version
  evaluatedAt := sc.deadline
  reasons := reasons

def toObserving : List Request :=
  [⟨0, sc.start.toDatetime, .observeFailure sc.event none⟩]

def toReconciled (target : CanonicalPaymentState) : List Request :=
  sc.toObserving ++ [sc.request 1 (.reconcilePaymentTruth target sc.evidence)]

def toAssessing : List Request :=
  sc.toReconciled .unpaid ++ [sc.request 2 .markReadyForEvaluation]

def toApprovalRequired [Hashlib] : List Request :=
  sc.toAssessing ++
    [sc.request 3 (.requestApproval sc.proposal (sc.issued .policy 3 [sc.reason]))]

def toActionQueued [Hashlib] : List Request :=
  sc.toAssessing ++ [sc.request 3 (.authorizeAction sc.proposal (sc.issued .policy 3 []))]

def toExecuting [Hashlib] : List Request :=
  sc.toActionQueued ++ [sc.request 4 (.beginExecution sc.proposal (sc.issued .effect 4 []))]

def toActive [Hashlib] : List Request :=
  sc.toExecuting ++ [sc.request 5 (.recordActionActive sc.proposal.actionKey sc.link)]

variable {sc} [Hashlib] {r : Request}

/-- The requests that lead to execution. -/
theorem mem_toExecuting (h : r ∈ sc.toExecuting) :
    r = ⟨0, sc.start.toDatetime, .observeFailure sc.event none⟩ ∨
      r = sc.request 1 (.reconcilePaymentTruth .unpaid sc.evidence) ∨
      r = sc.request 2 .markReadyForEvaluation ∨
      r = sc.request 3 (.authorizeAction sc.proposal (sc.issued .policy 3 [])) ∨
      r = sc.request 4 (.beginExecution sc.proposal (sc.issued .effect 4 [])) := by
  simpa only [toExecuting, toActionQueued, toAssessing, toReconciled, toObserving,
    List.mem_append, List.mem_singleton, or_assoc] using h

theorem mem_toActive (h : r ∈ sc.toActive) :
    r ∈ sc.toExecuting ∨ r = sc.request 5 (.recordActionActive sc.proposal.actionKey sc.link) := by
  simpa only [toActive, List.mem_append, List.mem_singleton] using h

end Scenario

/-- Where the case that started as `c` stands at the deadline. -/
structure Stands (c b : AggregateFields) (deadline : Timestamp) (version : Nat)
    (state : RecoveryState) (paymentState : CanonicalPaymentState) (decisionVersion : Nat)
    (key id ref : Option String) : Prop where
  merchant_eq : b.merchantId = c.merchantId
  case_eq : b.caseId = c.caseId
  deadline_eq : b.observationDeadline = some deadline
  last_le : ∀ t, b.lastTransitionAt = some t → t ≤ deadline
  version_eq : b.version = version
  state_eq : b.state = state
  payment_eq : b.paymentState = paymentState
  decisionVersion_eq : b.decisionVersion = decisionVersion
  key_eq : b.activeActionKey = key
  id_eq : b.activeProposalId = id
  ref_eq : b.activeInstrumentReference = ref

namespace Stands

variable {c b : AggregateFields} {init a : RecoveryAggregate} {past : List CaseStep}
  {deadline : Timestamp} {version : Nat} {state : RecoveryState}
  {paymentState : CanonicalPaymentState} {dv : Nat} {key id ref : Option String}

theorem elapsed (h : Stands c b deadline version state paymentState dv key id ref) :
    b.Elapsed deadline := ⟨deadline, h.deadline_eq, le_refl _⟩

theorem timely
    (h : Stands c a.toAggregateFields deadline version state paymentState dv key id ref) :
    a.Timely deadline.toDatetime deadline := ⟨requireUtc_toDatetime _ _, h.last_le⟩

/-- A later version of the case at the same time. -/
theorem advanced (h : Stands c b deadline version state paymentState dv key id ref) :
    Stands c (b.advanced deadline) deadline (version + 1) state paymentState dv key id ref :=
  { h with
    last_le := by
      rintro t ⟨⟩
      exact le_refl _
    version_eq := by
      rw [← h.version_eq]
      rfl }

theorem issued_bound [Hashlib] {sc : Scenario} {stage : GateStage} {reasons : List GateReason}
    (h : Stands c b sc.deadline version state paymentState dv key id ref) (hsc : sc.Suits c) :
    Bound b sc.proposal (sc.issued stage version reasons) stage reasons.isEmpty where
  merchantId := hsc.merchantId.trans h.merchant_eq.symm
  proposalCase := hsc.caseId.trans h.case_eq.symm
  stage := rfl
  allowed := rfl
  proposalId := rfl
  actionKey := rfl
  proposalDigest := rfl
  decisionCase := hsc.caseId.trans h.case_eq.symm
  decisionVersion := rfl
  aggregateVersion := h.version_eq.symm

/-- One more branch, taken at the deadline. -/
theorem exists_next [Hashlib] {fields : AggregateFields} {command : Command}
    {moved : Option RecoveryState} {requests : List Request}
    (h : Stands c a.toAggregateFields deadline version state paymentState dv key id ref)
    (hrun : recovery.Run init past a) (hcmds : past.map Step.cmd = requests)
    (heff : Effect a.toAggregateFields deadline command fields moved)
    (hargs : command.WellFormed) :
    ∃ s : CaseStep, s.pre = a ∧ s.cmd.command = command ∧ s.post.toAggregateFields = fields ∧
      recovery.Takes s ∧ recovery.Run init (past ++ [s]) s.post ∧
      (past ++ [s]).map Step.cmd = requests ++ [⟨version, deadline.toDatetime, command⟩] := by
  obtain ⟨s, hpre, hcmd, hpost, htakes, hnext⟩ := exists_run_next hrun heff hargs h.timely
  have hrequest : s.cmd = ⟨version, deadline.toDatetime, command⟩ := by rw [hcmd, h.version_eq]
  exact ⟨s, hpre, by rw [hcmd], hpost, htakes, hnext, map_cmd_concat hcmds hrequest⟩

end Stands

theorem Command.wellFormed_nil {command : Command} (h : command.identifiers = []) :
    command.WellFormed := by
  simp [Command.WellFormed, h]

theorem Command.wellFormed_singleton {command : Command} {value : String}
    (h : command.identifiers = [value]) (hvalue : isIdentifier value = true) :
    command.WellFormed := by
  simpa [Command.WellFormed, h] using hvalue

theorem Scenario.Suits.observationDeadline {sc : Scenario} {c : AggregateFields}
    (hsc : sc.Suits c) :
    c.lateCapturePolicy.observationDeadline sc.start.toDatetime none = .ok sc.deadline :=
  LateCapturePolicy.observationDeadline_ok_iff.mpr ⟨_, hsc.deadline, .inl ⟨rfl, rfl⟩⟩

variable [Hashlib] {init : RecoveryAggregate} {sc : Scenario}

/-! ## Observation -/

/-- The first observation of a fresh case, with or without an extension. -/
theorem exists_run_first {extend : Option Datetime} {deadline : Timestamp} (hfresh : Fresh init)
    (hsc : sc.Suits init.toAggregateFields)
    (hdeadline : init.lateCapturePolicy.observationDeadline sc.start.toDatetime extend =
      .ok deadline) :
    ∃ s : CaseStep, s.cmd = ⟨0, sc.start.toDatetime, .observeFailure sc.event extend⟩ ∧
      s.post.toAggregateFields = { init.advanced sc.start with
        state := .observing
        observationStartedAt := some sc.start
        observationDeadline := some deadline } ∧
      recovery.Run init [s] s.post := by
  obtain ⟨m, c, o, amount, policy, hfields⟩ := hfresh.fields
  have hdormant : init.state = .dormant := by rw [hfields]
  have hversion : init.version = 0 := by rw [hfields]
  have ht : init.Timely sc.start.toDatetime sc.start :=
    ⟨requireUtc_toDatetime _ _, by simp [hfields]⟩
  obtain ⟨s, -, hcmd, hpost, -, hnext⟩ := exists_run_next
    (Machine.Run.start (M := recovery)) (.observeFailure (.inl hdormant) hdeadline)
    (Command.wellFormed_singleton rfl hsc.event) ht
  refine ⟨s, ?_, hpost, hnext⟩
  rw [hcmd, hversion]
  rfl

/-- The first observation, with the policy's own deadline. -/
theorem exists_run_observing (hfresh : Fresh init) (hsc : sc.Suits init.toAggregateFields) :
    ∃ steps b, recovery.Run init steps b ∧ steps.map Step.cmd = sc.toObserving ∧
      Stands init.toAggregateFields b.toAggregateFields sc.deadline 1 .observing .unknown 0 none
        none none := by
  obtain ⟨s, hcmd, hpost, hrun⟩ := exists_run_first hfresh hsc hsc.observationDeadline
  obtain ⟨m, c, o, amount, policy, hfields⟩ := hfresh.fields
  have hwindow : sc.start ≤ sc.deadline := by
    have hfloor : 0 ≤ init.lateCapturePolicy.minimumObservationWindow :=
      le_trans (by decide) init.lateCapturePolicy.aboveFloor
    rw [Timestamp.le_iff, hsc.deadline]
    exact Int.le_add_of_nonneg_right hfloor
  refine ⟨[s], s.post, hrun, by rw [List.map_singleton, hcmd]; rfl, ?_⟩
  rw [hpost, hfields]
  exact {
    merchant_eq := rfl
    case_eq := rfl
    deadline_eq := rfl
    last_le := by
      rintro t ⟨⟩
      exact hwindow
    version_eq := rfl
    state_eq := rfl
    payment_eq := rfl
    decisionVersion_eq := rfl
    key_eq := rfl
    id_eq := rfl
    ref_eq := rfl }

/-- The first reconciled truth of an observed case. -/
theorem exists_run_reconciled (hfresh : Fresh init) (hsc : sc.Suits init.toAggregateFields)
    (target : CanonicalPaymentState)
    (htarget : target ∈ [.unpaid, .authorized, .partiallyPaid, .exception]) :
    ∃ steps b, recovery.Run init steps b ∧ steps.map Step.cmd = sc.toReconciled target ∧
      Stands init.toAggregateFields b.toAggregateFields sc.deadline 2 .observing target 0 none
        none none := by
  obtain ⟨steps, a, hrun, hcmds, ha⟩ := exists_run_observing hfresh hsc
  have hedge : target ∈ paymentTransitions a.paymentState := by
    rw [ha.payment_eq]
    revert htarget
    cases target <;> decide
  have hpaid : target ≠ .paid ∧ target ≠ .overpaid := by
    revert htarget
    cases target <;> decide
  obtain ⟨s, -, -, hpost, -, hnext, hcmds'⟩ := ha.exists_next hrun hcmds
    (.reconcilePaymentTruth hedge hpaid.1 hpaid.2) (Command.wellFormed_singleton rfl hsc.evidence)
  refine ⟨_, s.post, hnext, hcmds', ?_⟩
  rw [hpost]
  exact { ha.advanced with payment_eq := rfl }

/-! ## Assessment and decisions -/

/-- A reconciled unpaid case is assessed at its deadline. -/
theorem exists_run_assessing (hfresh : Fresh init) (hsc : sc.Suits init.toAggregateFields) :
    ∃ steps b, recovery.Run init steps b ∧ steps.map Step.cmd = sc.toAssessing ∧
      Stands init.toAggregateFields b.toAggregateFields sc.deadline 3 .assessing .unpaid 0 none
        none none := by
  obtain ⟨steps, a, hrun, hcmds, ha⟩ :=
    exists_run_reconciled hfresh hsc .unpaid (by decide)
  have hadmits : Admits a.state .assessing := by rw [ha.state_eq]; decide
  obtain ⟨s, -, -, hpost, -, hnext, hcmds'⟩ := ha.exists_next hrun hcmds
    (.markReadyForEvaluation hadmits ha.payment_eq ha.elapsed) (Command.wellFormed_nil rfl)
  refine ⟨_, s.post, hnext, hcmds', ?_⟩
  rw [hpost]
  exact { ha.advanced with state_eq := rfl }

/-- The gate holds a proposal back for approval. -/
theorem exists_run_approvalRequired (hfresh : Fresh init)
    (hsc : sc.Suits init.toAggregateFields) :
    ∃ steps b, recovery.Run init steps b ∧ steps.map Step.cmd = sc.toApprovalRequired ∧
      Stands init.toAggregateFields b.toAggregateFields sc.deadline 4 .approvalRequired .unpaid 1
        (some sc.proposal.actionKey) (some sc.proposal.proposalId) none := by
  obtain ⟨steps, a, hrun, hcmds, ha⟩ := exists_run_assessing hfresh hsc
  have hdv : sc.proposal.decisionVersion = a.decisionVersion + 1 := by
    rw [ha.decisionVersion_eq, hsc.decisionVersion]
  have heff : Effect a.toAggregateFields sc.deadline
      (.requestApproval sc.proposal (sc.issued .policy 3 [sc.reason])) _ _ :=
    .requestApproval ha.state_eq ha.elapsed hdv (ha.issued_bound hsc) (by simp [Scenario.issued])
      (by simpa [Scenario.issued] using hsc.reason) hsc.actionType ha.payment_eq
  obtain ⟨s, -, -, hpost, -, hnext, hcmds'⟩ := ha.exists_next hrun hcmds heff
    (Command.wellFormed_nil rfl)
  refine ⟨_, s.post, hnext, hcmds', ?_⟩
  rw [hpost]
  exact { ha.advanced with
    state_eq := rfl
    decisionVersion_eq := hsc.decisionVersion
    key_eq := rfl
    id_eq := rfl }

/-- The gate allows a proposal at once. -/
theorem exists_run_actionQueued (hfresh : Fresh init) (hsc : sc.Suits init.toAggregateFields) :
    ∃ steps b, recovery.Run init steps b ∧ steps.map Step.cmd = sc.toActionQueued ∧
      Stands init.toAggregateFields b.toAggregateFields sc.deadline 4 .actionQueued .unpaid 1
        (some sc.proposal.actionKey) (some sc.proposal.proposalId) none := by
  obtain ⟨steps, a, hrun, hcmds, ha⟩ := exists_run_assessing hfresh hsc
  have hdv : sc.proposal.decisionVersion = a.decisionVersion + 1 := by
    rw [ha.decisionVersion_eq, hsc.decisionVersion]
  have heff : Effect a.toAggregateFields sc.deadline
      (.authorizeAction sc.proposal (sc.issued .policy 3 [])) _ _ :=
    .authorizeAction (.inl ⟨ha.state_eq, hdv⟩) ha.elapsed (ha.issued_bound hsc) hsc.actionType
      ha.payment_eq
  obtain ⟨s, -, -, hpost, -, hnext, hcmds'⟩ := ha.exists_next hrun hcmds heff
    (Command.wellFormed_nil rfl)
  refine ⟨_, s.post, hnext, hcmds', ?_⟩
  rw [hpost]
  exact { ha.advanced with
    state_eq := rfl
    decisionVersion_eq := hsc.decisionVersion
    key_eq := rfl
    id_eq := rfl }

/-! ## Execution -/

theorem exists_run_executing (hfresh : Fresh init) (hsc : sc.Suits init.toAggregateFields) :
    ∃ steps b, recovery.Run init steps b ∧ steps.map Step.cmd = sc.toExecuting ∧
      Stands init.toAggregateFields b.toAggregateFields sc.deadline 5 .executing .unpaid 1
        (some sc.proposal.actionKey) (some sc.proposal.proposalId) none := by
  obtain ⟨steps, a, hrun, hcmds, ha⟩ := exists_run_actionQueued hfresh hsc
  have hdv : sc.proposal.decisionVersion = a.decisionVersion := by
    rw [ha.decisionVersion_eq, hsc.decisionVersion]
  have heff : Effect a.toAggregateFields sc.deadline
      (.beginExecution sc.proposal (sc.issued .effect 4 [])) _ _ :=
    .beginExecution ha.state_eq hdv (ha.issued_bound hsc) ha.elapsed ha.key_eq ha.payment_eq
  obtain ⟨s, -, -, hpost, -, hnext, hcmds'⟩ := ha.exists_next hrun hcmds heff
    (Command.wellFormed_nil rfl)
  refine ⟨_, s.post, hnext, hcmds', ?_⟩
  rw [hpost]
  exact { ha.advanced with state_eq := rfl }

/-- **Every fresh case can be brought to collect**: an authorized proposal is
executed and its instrument recorded. -/
theorem exists_run_active (hfresh : Fresh init) (hsc : sc.Suits init.toAggregateFields) :
    ∃ steps b, recovery.Run init steps b ∧ steps.map Step.cmd = sc.toActive ∧
      Stands init.toAggregateFields b.toAggregateFields sc.deadline 6 .active .unpaid 1
        (some sc.proposal.actionKey) (some sc.proposal.proposalId) (some sc.link) := by
  obtain ⟨steps, a, hrun, hcmds, ha⟩ := exists_run_executing hfresh hsc
  have hadmits : Admits a.state .active := by rw [ha.state_eq]; decide
  have hnew : ¬(a.state = .active ∧ a.activeInstrumentReference = some sc.link) := by
    rw [ha.state_eq]
    simp
  obtain ⟨s, -, -, hpost, -, hnext, hcmds'⟩ := ha.exists_next hrun hcmds
    (.recordActionActive ha.key_eq hadmits hnew) (Command.wellFormed_singleton rfl hsc.link)
  refine ⟨_, s.post, hnext, hcmds', ?_⟩
  rw [hpost]
  exact { ha.advanced with state_eq := rfl, ref_eq := rfl }

omit [Hashlib]

/-! ## One case

A concrete case and a scenario for it. -/

def sampleCase : RecoveryAggregate where
  merchantId := "merchant_1"
  caseId := "case_1"
  logicalOrderId := "order_1"
  amountDue := ⟨12500, "INR", isCurrency_inr⟩
  valid := AggregateFields.postInit_ok_iff.mp rfl

def sampleStart : Timestamp := ⟨63902736000000000, by decide, by decide⟩

def sampleDeadline : Timestamp := ⟨63902736120000000, by decide, by decide⟩

def sampleProposal : ActionProposal where
  proposalId := "prop_1"
  merchantId := "merchant_1"
  caseId := "case_1"
  decisionVersion := 1
  actionType := .createStandardPaymentLink
  createdAt := sampleStart
  expiresAt := sampleDeadline
  amount := some ⟨12500, "INR", isCurrency_inr⟩
  paymentMethod := some "upi"
  valid := rfl

def sampleScenario : Scenario where
  start := sampleStart
  deadline := sampleDeadline
  event := "evt_1"
  evidence := "evd_1"
  policyVersion := "policy_1"
  proposal := sampleProposal
  reason := .approvalRequired
  link := "plink_1"

theorem fresh_sampleCase : Fresh sampleCase :=
  ⟨_, _, _, _, _, RecoveryAggregate.build_ok_iff.mpr rfl⟩

theorem sampleScenario_suits : sampleScenario.Suits sampleCase.toAggregateFields where
  deadline := by decide
  event := rfl
  evidence := rfl
  merchantId := rfl
  caseId := rfl
  decisionVersion := rfl
  actionType := by decide
  reason := by decide
  link := rfl

end Retrywise.Domain
