import Retrywise.Domain.Evaluation

/-!
# How many reasons a gate can have

Some of the reasons against an action exclude each other: a fact is from the future or
stale, a currency differs or an amount does, an approval fails in one way. Counted part by
part, a planning decision has at most thirty.

> `length_reasons_of_policy`: a planning decision has at most thirty reasons.
-/

namespace Retrywise.Domain

open Retrywise.Foundation

section

variable [Hashlib] {gate : DeterministicGate} {proposal : ActionProposal} {context : GateContext}
  {horizon : Timestamp}

omit [Hashlib] in
theorem length_reasonIf (c : Prop) [Decidable c] (reason : GateReason) :
    (reasonIf c reason).length ≤ 1 := by
  unfold reasonIf
  split
  · exact le_rfl
  · exact Nat.zero_le _

omit [Hashlib] in
theorem length_append_le {left right : List GateReason} {m n : Nat} (hleft : left.length ≤ m)
    (hright : right.length ≤ n) : (left ++ right).length ≤ m + n := by
  rw [List.length_append]
  exact Nat.add_le_add hleft hright

omit [Hashlib] in
theorem length_only {actions : List ActionType} {reasons : List GateReason} {n : Nat}
    (h : reasons.length ≤ n) : (DeterministicGate.only proposal actions reasons).length ≤ n := by
  unfold DeterministicGate.only
  split
  · exact h
  · exact Nat.zero_le _

omit [Hashlib] in
theorem length_ageReasons (observedAt : Timestamp) (maxAge : Timedelta)
    (fromFuture stale : GateReason) :
    (DeterministicGate.ageReasons context horizon observedAt maxAge fromFuture stale).length ≤ 1 := by
  unfold DeterministicGate.ageReasons
  split
  · exact le_rfl
  · exact length_reasonIf _ _

omit [Hashlib] in
theorem length_standingReasons :
    (DeterministicGate.standingReasons gate proposal context horizon).length ≤ 1 + 1 + 1 + 1 + 1 :=
  length_append_le (length_append_le (length_append_le (length_append_le (length_reasonIf _ _)
    (length_reasonIf _ _)) (length_reasonIf _ _)) (length_reasonIf _ _)) (length_reasonIf _ _)

omit [Hashlib] in
theorem length_switchReasons :
    (DeterministicGate.switchReasons proposal context).length ≤ 1 + 1 + 1 :=
  length_append_le (length_append_le (length_reasonIf _ _) (length_reasonIf _ _))
    (length_reasonIf _ _)

omit [Hashlib] in
theorem length_caseReasons (stage : GateStage) :
    (DeterministicGate.caseReasons stage proposal context).length ≤ 1 + 1 :=
  length_append_le (length_reasonIf _ _) (length_reasonIf _ _)

omit [Hashlib] in
theorem length_windowReasons : (DeterministicGate.windowReasons context).length ≤ 1 := by
  unfold DeterministicGate.windowReasons
  split
  · exact le_rfl
  · exact length_reasonIf _ _

omit [Hashlib] in
theorem length_truthReasons :
    (DeterministicGate.truthReasons gate context horizon).length ≤ 1 + 1 :=
  length_append_le (length_reasonIf _ _) (length_ageReasons _ _ _ _)

omit [Hashlib] in
theorem length_instrumentReasons :
    (DeterministicGate.instrumentReasons proposal context).length ≤ 1 := by
  unfold DeterministicGate.instrumentReasons
  split
  · exact length_reasonIf _ _
  · exact length_reasonIf _ _

omit [Hashlib] in
theorem length_amountReasons (amount : Money) :
    (DeterministicGate.amountReasons proposal context amount).length ≤ 1 + 1 := by
  refine length_append_le ?_ (length_reasonIf _ _)
  split
  · exact le_rfl
  · exact length_reasonIf _ _

omit [Hashlib] in
theorem length_contactReasons :
    (DeterministicGate.contactReasons gate context).length ≤ 1 + 1 + 1 + 1 + 1 :=
  length_append_le (length_append_le (length_append_le (length_append_le (length_reasonIf _ _)
    (length_reasonIf _ _)) (length_reasonIf _ _)) (length_reasonIf _ _)) (length_reasonIf _ _)

omit [Hashlib] in
theorem length_healthReasons :
    (DeterministicGate.healthReasons gate context horizon).length ≤ 1 + 1 + 1 :=
  length_append_le (length_append_le (length_ageReasons _ _ _ _) (length_reasonIf _ _))
    (length_reasonIf _ _)

omit [Hashlib] in
theorem length_approvalCauses :
    (DeterministicGate.approvalCauses gate proposal context).length ≤ 1 + 1 + 1 + 1 := by
  have hconfidence : (DeterministicGate.confidenceCauses gate proposal).length ≤ 1 := by
    unfold DeterministicGate.confidenceCauses
    split
    · exact le_rfl
    · exact length_reasonIf _ _
  exact length_append_le (length_append_le (length_append_le (length_reasonIf _ _) hconfidence)
    (length_reasonIf _ _)) (length_reasonIf _ _)

theorem length_approvalReasons :
    (DeterministicGate.approvalReasons gate proposal context).length ≤ 1 + (4 + 1) := by
  refine length_append_le (length_reasonIf _ _) ?_
  split
  · split
    · exact Nat.zero_le _
    · exact length_append_le length_approvalCauses le_rfl
  · exact Nat.zero_le _

/-- **A planning decision has at most thirty reasons.** -/
theorem length_reasons_of_policy {decision : GateDecision}
    (h : gate.evaluatePolicy proposal context = .ok decision) : decision.reasons.length ≤ 30 := by
  obtain ⟨horizon, -, h⟩ := bind_ok_iff.mp h
  rw [← pure_ok_iff.mp h]
  calc (gate.reasons .policy proposal context horizon none).length
      ≤ 5 + 3 + 2 + 1 + 2 + 1 + 2 + 5 + 3 + 6 + 0 := by
        unfold DeterministicGate.reasons
        refine length_append_le (length_append_le (length_append_le (length_append_le
          (length_append_le (length_append_le (length_append_le (length_append_le (length_append_le
            (length_append_le length_standingReasons length_switchReasons) (length_caseReasons _))
            (length_only length_windowReasons)) (length_only length_truthReasons))
            length_instrumentReasons) (length_only ?_)) (length_only length_contactReasons))
            (length_only length_healthReasons)) (length_only length_approvalReasons)) le_rfl
        split
        · exact Nat.zero_le _
        · exact length_amountReasons _
    _ = 30 := rfl

end

end Retrywise.Domain
