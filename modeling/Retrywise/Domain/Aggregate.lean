import Retrywise.Domain.States
import Retrywise.Domain.Gate

/-!
# The recovery-case aggregate

`aggregate.py`: the immutable, versioned case. A command checks its guards and
returns a new aggregate with at most one event, or raises and leaves nothing
behind. No command reads a clock; time comes in as an argument.

`AggregateFields` is the record; `RecoveryAggregate` is a record that passed the
constructor's checks (`AggregateFields.postInit`), which every new version goes
through again. An event carries its payload as the JSON value; its text is the
value's canonical text.
-/

namespace Retrywise.Domain

open Retrywise.Foundation

structure AggregateEvent where
  eventType : String
  caseId : String
  version : Nat
  occurredAt : Timestamp
  payload : Json

def AggregateEvent.payloadJson (e : AggregateEvent) : String := canonicalJson e.payload

structure AggregateFields where
  merchantId : String
  caseId : String
  logicalOrderId : String
  amountDue : Money
  state : RecoveryState := .dormant
  paymentState : CanonicalPaymentState := .unknown
  incidentState : IncidentState := .normal
  version : Nat := 0
  decisionVersion : Nat := 0
  activeActionKey : Option String := none
  activeProposalId : Option String := none
  activeInstrumentReference : Option String := none
  lastTransitionAt : Option Timestamp := none
  lateCapturePolicy : LateCapturePolicy := {}
  observationStartedAt : Option Timestamp := none
  observationDeadline : Option Timestamp := none

/-! ## The constructor's checks -/

/-- An identifier field that may be `None`. -/
def requireOptionalIdentifier (value : Option String) (field : String) :
    Except DomainError Unit :=
  match value with
  | none => .ok ()
  | some v => (requireIdentifier v field).map fun _ => ()

@[simp] theorem requireOptionalIdentifier_ok_iff {value : Option String} {field : String}
    {u : Unit} : requireOptionalIdentifier value field = .ok u ↔
      ∀ v, value = some v → isIdentifier v = true := by
  cases value <;> simp [requireOptionalIdentifier]

/-- `key.startswith("act_")`. -/
def isActionKey (key : String) : Bool := ['a', 'c', 't', '_'].isPrefixOf key.toList

theorem isActionKey_append (digest : String) : isActionKey ("act_" ++ digest) = true := by
  rw [isActionKey, String.toList_append]
  rfl

namespace AggregateFields

/-- A dormant case has no observation timing, a started one has all of it. -/
def requireTiming (a : AggregateFields) : Except DomainError Unit :=
  if a.state = .dormant then
    raiseIf (a.observationStartedAt ≠ none ∨ a.observationDeadline ≠ none)
      (.invalidValue "a dormant case cannot have observation timing")
  else do
    raiseIf (a.observationStartedAt = none ∨ a.observationDeadline = none)
      (.invalidValue "a started recovery case requires observation timing")
    raiseIf (a.lastTransitionAt = none)
      (.invalidValue "a started recovery case requires a last transition time")

/-- The deadline respects the policy floor, and observation started in the past. -/
def requireWindow (a : AggregateFields) : Except DomainError Unit :=
  match a.observationStartedAt, a.observationDeadline with
  | some started, some deadline => do
    let minimumDeadline ← shift started a.lateCapturePolicy.minimumObservationWindow
    raiseIf (deadline < minimumDeadline)
      (.invalidValue "observation deadline is below the bound policy floor")
    raiseIf (a.lastTransitionAt.any fun last => last < started)
      (.invalidValue "observation start cannot follow the last transition")
  | _, _ => .ok ()

/-- `RecoveryAggregate.__post_init__`. -/
def postInit (a : AggregateFields) : Except DomainError Unit := do
  let _ ← requireIdentifier a.merchantId "merchant_id"
  let _ ← requireIdentifier a.caseId "case_id"
  let _ ← requireIdentifier a.logicalOrderId "logical_order_id"
  -- the amount is a natural number here, so that not positive is zero
  raiseIf (a.amountDue.minorUnits = 0) (.invalidValue "recovery amount_due must be positive")
  raiseIf (a.version < a.decisionVersion)
    (.invalidValue "decision_version cannot exceed aggregate version")
  requireOptionalIdentifier a.activeActionKey "active_action_key"
  requireOptionalIdentifier a.activeProposalId "active_proposal_id"
  requireOptionalIdentifier a.activeInstrumentReference "active_instrument_reference"
  raiseIf (a.activeActionKey.any fun key => !isActionKey key)
    (.invalidValue "active_action_key has an invalid prefix")
  a.requireTiming
  a.requireWindow

/-- What the timing checks establish. -/
structure Timed (a : AggregateFields) : Prop where
  dormant : a.state = .dormant → a.observationStartedAt = none ∧ a.observationDeadline = none
  started : a.state ≠ .dormant → a.observationStartedAt ≠ none ∧ a.observationDeadline ≠ none ∧
    a.lastTransitionAt ≠ none
  floor : ∀ started deadline, a.observationStartedAt = some started →
    a.observationDeadline = some deadline →
    ∃ floor, shift started a.lateCapturePolicy.minimumObservationWindow = .ok floor ∧
      floor ≤ deadline
  past : ∀ started deadline last, a.observationStartedAt = some started →
    a.observationDeadline = some deadline → a.lastTransitionAt = some last → started ≤ last

/-- What the constructor's checks establish. -/
structure Valid (a : AggregateFields) : Prop extends a.Timed where
  merchantId : isIdentifier a.merchantId = true
  caseId : isIdentifier a.caseId = true
  logicalOrderId : isIdentifier a.logicalOrderId = true
  amountDue : a.amountDue.minorUnits ≠ 0
  decisionVersion : a.decisionVersion ≤ a.version
  actionKey : ∀ key, a.activeActionKey = some key →
    isIdentifier key = true ∧ isActionKey key = true
  proposalId : ∀ id, a.activeProposalId = some id → isIdentifier id = true
  reference : ∀ ref, a.activeInstrumentReference = some ref → isIdentifier ref = true

theorem requireTiming_ok_iff {a : AggregateFields} :
    a.requireTiming = .ok () ↔
      (a.state = .dormant → a.observationStartedAt = none ∧ a.observationDeadline = none) ∧
      (a.state ≠ .dormant → a.observationStartedAt ≠ none ∧ a.observationDeadline ≠ none ∧
        a.lastTransitionAt ≠ none) := by
  unfold requireTiming
  split
  next h => simp [h]
  next h => simp [h, and_assoc]

theorem requireWindow_ok_iff {a : AggregateFields} :
    a.requireWindow = .ok () ↔
      ∀ started deadline, a.observationStartedAt = some started →
        a.observationDeadline = some deadline →
        (∃ floor, shift started a.lateCapturePolicy.minimumObservationWindow = .ok floor ∧
          floor ≤ deadline) ∧
        ∀ last, a.lastTransitionAt = some last → started ≤ last := by
  unfold requireWindow
  split
  next started deadline hs hd =>
    simp only [bind_ok_iff, raiseIf_ok_iff, hs, hd, Option.some.injEq, not_lt]
    constructor
    · rintro ⟨floor, hfloor, _, hle, hpast⟩ _ _ rfl rfl
      refine ⟨⟨floor, hfloor, hle⟩, fun last hlast => ?_⟩
      simpa [hlast] using hpast
    · intro h
      obtain ⟨⟨floor, hfloor, hle⟩, hpast⟩ := h started deadline rfl rfl
      refine ⟨floor, hfloor, (), hle, ?_⟩
      cases hlast : a.lastTransitionAt with
      | none => simp
      | some last => simpa using hpast last hlast
  next hnone =>
    constructor
    · intro _ started deadline hs hd
      exact absurd hd (hnone started deadline hs)
    · intro _
      rfl

/-- The checks pass exactly on the valid records. -/
theorem postInit_ok_iff {a : AggregateFields} : a.postInit = .ok () ↔ a.Valid := by
  simp only [postInit, bind_ok_iff, requireIdentifier_ok_iff, raiseIf_ok_iff,
    requireOptionalIdentifier_ok_iff]
  constructor
  · rintro ⟨_, ⟨hm, -⟩, _, ⟨hc, -⟩, _, ⟨ho, -⟩, _, ha, _, hd, _, hk, _, hp, _, hr, _, hpre, _,
      htiming, hwindow⟩
    obtain ⟨hdormant, hstarted⟩ := requireTiming_ok_iff.mp htiming
    have hwin := requireWindow_ok_iff.mp hwindow
    exact {
      dormant := hdormant
      started := hstarted
      floor := fun s d hs hdl => (hwin s d hs hdl).1
      past := fun s d l hs hdl hl => (hwin s d hs hdl).2 l hl
      merchantId := hm
      caseId := hc
      logicalOrderId := ho
      amountDue := ha
      decisionVersion := not_lt.mp hd
      actionKey := fun key hkey => ⟨hk key hkey, by simpa [hkey] using hpre⟩
      proposalId := hp
      reference := hr }
  · intro h
    refine ⟨_, ⟨h.merchantId, rfl⟩, _, ⟨h.caseId, rfl⟩, _, ⟨h.logicalOrderId, rfl⟩, (),
      h.amountDue, (), not_lt.mpr h.decisionVersion, (), fun k hk => (h.actionKey k hk).1, (),
      h.proposalId, (), h.reference, (), ?_, (), ?_, ?_⟩
    · cases hkey : a.activeActionKey with
      | none => simp
      | some key => simpa using (h.actionKey key hkey).2
    · exact requireTiming_ok_iff.mpr ⟨h.dormant, h.started⟩
    · exact requireWindow_ok_iff.mpr fun s d hs hd =>
        ⟨h.floor s d hs hd, fun l hl => h.past s d l hs hd hl⟩

end AggregateFields

/-- A case record that passed the constructor. -/
structure RecoveryAggregate extends AggregateFields where
  valid : toAggregateFields.Valid

/-- A command's result: the new aggregate, and no event or one. -/
structure AggregateChange where
  aggregate : RecoveryAggregate
  events : List AggregateEvent

def AggregateChange.changed (c : AggregateChange) : Prop := c.events ≠ []

namespace RecoveryAggregate

/-- Construct an aggregate from its fields. -/
def build (fields : AggregateFields) : Except DomainError RecoveryAggregate :=
  match h : fields.postInit with
  | .error e => .error e
  | .ok () => .ok ⟨fields, AggregateFields.postInit_ok_iff.mp h⟩

theorem build_ok_iff {fields : AggregateFields} {a : RecoveryAggregate} :
    build fields = .ok a ↔ a.toAggregateFields = fields := by
  unfold build
  split
  next e he =>
    constructor
    · intro h
      exact absurd h (by simp)
    · rintro rfl
      rw [AggregateFields.postInit_ok_iff.mpr a.valid] at he
      exact absurd he (by simp)
  next h =>
    constructor
    · intro he
      rw [← Except.ok.inj he]
    · rintro rfl
      rfl

/-- The case a constructor call with no optional argument but the policy makes. -/
def new (merchantId caseId logicalOrderId : String) (amountDue : Money)
    (lateCapturePolicy : LateCapturePolicy) : Except DomainError RecoveryAggregate :=
  build { merchantId, caseId, logicalOrderId, amountDue, lateCapturePolicy }

/-- No collection command is accepted any more. -/
def collectionClosed (a : RecoveryAggregate) : Prop := a.state ∈ collectionTerminalStates

/-- The result of a command that has nothing to do. -/
def unchanged (a : RecoveryAggregate) : AggregateChange := ⟨a, []⟩

end RecoveryAggregate

end Retrywise.Domain
