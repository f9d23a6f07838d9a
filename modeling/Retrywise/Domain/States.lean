import Retrywise.Domain.Errors

/-!
# Closed state vocabularies and transition graphs

`states.py`: the three independent truths of a case (canonical payment truth,
recovery workflow, incident state), the graph of each, and the validators.

A validator has three outcomes, not two: it raises on an edge the graph does
not have, returns `true` on an edge it has, and returns `false` on a
self-transition. `validateRecoveryTransition_ok_iff` says exactly which pairs
of states get past it; callers that only call it for the exception let every
self-transition through.
-/

namespace Retrywise.Domain

open Retrywise.Foundation

inductive CanonicalPaymentState where
  | unknown | unpaid | authorized | partiallyPaid | paid | overpaid | exception
deriving DecidableEq, Repr

inductive RecoveryState where
  | dormant | observing | assessing | waiting | approvalRequired | actionQueued | executing
  | actionUncertain | active | recovered | suppressedPaid | suppressedPolicy | exhausted
  | failedSafe | escalated | duplicateReview
deriving DecidableEq, Repr

inductive IncidentState where
  | normal | suspected | confirmed | cooling
deriving DecidableEq, Repr

def CanonicalPaymentState.value : CanonicalPaymentState → String
  | .unknown => "unknown"
  | .unpaid => "unpaid"
  | .authorized => "authorized"
  | .partiallyPaid => "partially_paid"
  | .paid => "paid"
  | .overpaid => "overpaid"
  | .exception => "exception"

def RecoveryState.value : RecoveryState → String
  | .dormant => "dormant"
  | .observing => "observing"
  | .assessing => "assessing"
  | .waiting => "waiting"
  | .approvalRequired => "approval_required"
  | .actionQueued => "action_queued"
  | .executing => "executing"
  | .actionUncertain => "action_uncertain"
  | .active => "active"
  | .recovered => "recovered"
  | .suppressedPaid => "suppressed_paid"
  | .suppressedPolicy => "suppressed_policy"
  | .exhausted => "exhausted"
  | .failedSafe => "failed_safe"
  | .escalated => "escalated"
  | .duplicateReview => "duplicate_review"

def IncidentState.value : IncidentState → String
  | .normal => "normal"
  | .suspected => "suspected"
  | .confirmed => "confirmed"
  | .cooling => "cooling"

def collectionTerminalStates : List RecoveryState :=
  [.recovered, .suppressedPaid, .suppressedPolicy, .exhausted, .failedSafe, .escalated,
    .duplicateReview]

/-- Every recovery state outside `collectionTerminalStates`. -/
def nonterminalRecoveryStates : List RecoveryState :=
  [.dormant, .observing, .assessing, .waiting, .approvalRequired, .actionQueued, .executing,
    .actionUncertain, .active]

/-! ## The graphs -/

def paymentTransitions : CanonicalPaymentState → List CanonicalPaymentState
  | .unknown => [.unpaid, .authorized, .partiallyPaid, .paid, .overpaid, .exception]
  | .unpaid => [.authorized, .partiallyPaid, .paid, .overpaid, .exception]
  | .authorized => [.partiallyPaid, .paid, .overpaid, .exception]
  | .partiallyPaid => [.paid, .overpaid, .exception]
  | .paid => [.overpaid, .exception]
  | .overpaid => [.exception]
  | .exception => []

def recoveryTransitions : RecoveryState → List RecoveryState
  | .dormant => [.observing]
  | .observing => [.assessing, .suppressedPaid]
  | .assessing =>
    [.waiting, .approvalRequired, .actionQueued, .exhausted, .suppressedPolicy, .suppressedPaid,
      .escalated]
  | .waiting => [.assessing, .suppressedPaid, .suppressedPolicy, .exhausted]
  | .approvalRequired => [.actionQueued, .suppressedPolicy, .suppressedPaid]
  | .actionQueued => [.executing, .suppressedPaid, .suppressedPolicy]
  | .executing => [.active, .actionUncertain, .failedSafe, .suppressedPaid]
  | .actionUncertain => [.active, .actionQueued, .escalated, .suppressedPaid]
  | .active => [.recovered, .suppressedPaid, .assessing, .exhausted]
  | .recovered => []
  | .suppressedPaid => []
  | .suppressedPolicy => []
  | .exhausted => []
  | .failedSafe => []
  | .escalated => []
  | .duplicateReview => []

def incidentTransitions : IncidentState → List IncidentState
  | .normal => [.suspected]
  | .suspected => [.confirmed, .normal]
  | .confirmed => [.cooling]
  | .cooling => [.confirmed, .normal]

/-! ## The validators -/

def validateTransition {S : Type} [DecidableEq S] (machine : String) (value : S → String)
    (graph : S → List S) (current target : S) : Except DomainError Bool :=
  if current = target then .ok false
  else if target ∉ graph current then
    .error (.invalidTransition machine (value current) (value target))
  else .ok true

def validatePaymentTransition (current target : CanonicalPaymentState) :
    Except DomainError Bool :=
  validateTransition "payment" CanonicalPaymentState.value paymentTransitions current target

def validateRecoveryTransition (current target : RecoveryState) : Except DomainError Bool :=
  if current = target then .ok false
  -- the wildcard edge of the diagram, before the table is read
  else if target = .duplicateReview ∧ current ≠ .dormant then .ok true
  else validateTransition "recovery" RecoveryState.value recoveryTransitions current target

def validateIncidentTransition (current target : IncidentState) : Except DomainError Bool :=
  validateTransition "incident" IncidentState.value incidentTransitions current target

theorem validateTransition_ok_iff {S : Type} [DecidableEq S] {machine : String}
    {value : S → String} {graph : S → List S} {current target : S} {changed : Bool} :
    validateTransition machine value graph current target = .ok changed ↔
      (current = target ∧ changed = false) ∨
        (current ≠ target ∧ target ∈ graph current ∧ changed = true) := by
  unfold validateTransition
  split
  next h => simp [h, eq_comm]
  next h =>
    split
    next hmem => simp [h, hmem]
    next hmem => simp_all [eq_comm]

theorem validateTransition_error {S : Type} [DecidableEq S] {machine : String}
    {value : S → String} {graph : S → List S} {current target : S}
    (hne : current ≠ target) (hmem : target ∉ graph current) :
    validateTransition machine value graph current target =
      .error (.invalidTransition machine (value current) (value target)) := by
  rw [validateTransition, if_neg hne, if_pos hmem]

/-- Payment truth only moves along an edge. -/
theorem validatePaymentTransition_ok_iff {current target : CanonicalPaymentState}
    {changed : Bool} :
    validatePaymentTransition current target = .ok changed ↔
      (current = target ∧ changed = false) ∨
        (current ≠ target ∧ target ∈ paymentTransitions current ∧ changed = true) :=
  validateTransition_ok_iff

theorem exists_validatePaymentTransition_ok_iff {current target : CanonicalPaymentState} :
    (∃ changed, validatePaymentTransition current target = .ok changed) ↔
      current = target ∨ target ∈ paymentTransitions current := by
  simp only [validatePaymentTransition_ok_iff]
  by_cases h : current = target
  · simp [h]
  · simp [h]

/-- The moves of the recovery workflow: an edge of the graph, or the wildcard
edge into duplicate review from every started case. -/
def RecoveryEdge (current target : RecoveryState) : Prop :=
  target ∈ recoveryTransitions current ∨ (target = .duplicateReview ∧ current ≠ .dormant)

instance (current target : RecoveryState) : Decidable (RecoveryEdge current target) :=
  inferInstanceAs (Decidable (_ ∨ _))

/-- What the recovery validator lets through: edges, and staying put. -/
theorem validateRecoveryTransition_ok_iff {current target : RecoveryState} {changed : Bool} :
    validateRecoveryTransition current target = .ok changed ↔
      (current = target ∧ changed = false) ∨
        (current ≠ target ∧ RecoveryEdge current target ∧ changed = true) := by
  unfold validateRecoveryTransition RecoveryEdge
  split
  next h => simp [h, eq_comm]
  next h =>
    split
    next hdup =>
      obtain ⟨rfl, hne⟩ := hdup
      simp [h, hne, eq_comm]
    next hdup => simp [validateTransition_ok_iff, h, hdup]

/-- The sources from which a command aimed at `target` gets past the validator. -/
def Admits (current target : RecoveryState) : Prop :=
  current = target ∨ RecoveryEdge current target

instance (current target : RecoveryState) : Decidable (Admits current target) :=
  inferInstanceAs (Decidable (_ ∨ _))

theorem exists_validateRecoveryTransition_ok_iff {current target : RecoveryState} :
    (∃ changed, validateRecoveryTransition current target = .ok changed) ↔
      Admits current target := by
  simp only [validateRecoveryTransition_ok_iff, Admits]
  by_cases h : current = target
  · simp [h]
  · simp [h]

/-- Out of a closed state there is only the edge into duplicate review. -/
theorem Admits.of_closed {current target : RecoveryState} (h : Admits current target)
    (hclosed : current ∈ collectionTerminalStates) :
    target ∈ collectionTerminalStates ∧ (target = current ∨ target = .duplicateReview) ∧
      (current = .duplicateReview → target = .duplicateReview) := by
  revert h hclosed
  cases current <;> cases target <;> decide

end Retrywise.Domain
