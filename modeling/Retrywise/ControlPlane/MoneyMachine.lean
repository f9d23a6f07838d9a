import Retrywise.ControlPlane.FailedPayments
import Retrywise.ControlPlane.PaymentEnrichment
import Retrywise.Foundation.Run

/-!
# The machine of the money rows

The writers of the money rows as one command machine: an event arrives, a delivery of its
job projects it (`payment.failed` and all that is not supported by one projector, the money
events by the other), an enrichment persists what it has read, and the rest of the control
plane moves the cases. One command is one transaction; one that raises is no step.
-/

namespace Retrywise.ControlPlane

open Retrywise.Foundation Retrywise.Domain

/-! ## The two projectors -/

/-- A canonical event, as each of the decoders reads it. -/
structure CanonicalEvent where
  captured : Except ProjectionError CapturedPayment
  collection : Except ProjectionError PaymentLinkCollection
  failed : Except ProjectionError FailedPayment

abbrev MoneyBooks := Books CanonicalEvent

/-- `SUPPORTED_TERMINAL_EVENT_TYPES`. -/
def supportedTerminalEventTypes : List ProviderEventType :=
  [.paymentCaptured, .linkPaid, .linkPartiallyPaid]

/-- Ignored is what the plan says; the rest is work. -/
def TerminalPlan.prepared : TerminalPlan → Prepared TerminalPlan
  | .ignored reason => .ignored reason
  | plan => .work plan

/-- What the terminal projector prepares, by the type of the event. -/
def prepareTerminal (referenceIdOf : String → String) (d : EventDelivery) (ledger : Ledger)
    (event : ProviderEvent CanonicalEvent) (canonical : CanonicalEvent) :
    Except ProjectionError (Ledger × TerminalPlan) :=
  match event.eventType with
  | .paymentCaptured => do
    let payment ← canonical.captured
    prepareCapture ledger payment event.id d.newId event.providerOccurredAt
  | .linkPaid | .linkPartiallyPaid => do
    let collection ← canonical.collection
    let plan ← prepareLink referenceIdOf ledger collection
    return (ledger, plan)
  | .linkCancelled | .linkExpired =>
    .ok (ledger, .ignored "terminal_link_event_requires_case_policy_projection")
  | _ => .ok (ledger, .ignored "unsupported_terminal_event_type")

/-- Carrying out a terminal plan. -/
def carryOutTerminal (d : EventDelivery) (ledger : Ledger)
    (event : ProviderEvent CanonicalEvent) : TerminalPlan → Except ProjectionError Ledger
  | .capture plan => ledger.applyCapture plan event.id event.providerOccurredAt d.now
  | .link plan => ledger.applyLink plan event.providerOccurredAt d.now
  | .ignored _ => .error (.runtime "processed terminal event has no projection plan")

/-- `PostgresTerminalEventRepository`. -/
def terminalProjector (referenceIdOf : String → String) :
    Projector CanonicalEvent TerminalPlan where
  name := "terminal"
  notAcquired := "terminal event inbox processing claim was not acquired"
  exhausted := "terminal_event_attempts_exhausted"
  prepare d ledger event canonical := do
    let (prepared, plan) ← prepareTerminal referenceIdOf d ledger event canonical
    return (prepared, plan.prepared)
  carryOut d ledger event plan := do
    let moved ← carryOutTerminal d ledger event plan
    return (moved, { disposition := .processed })

/-- `PostgresNormalizedEventRepository`. -/
def normalizedProjector : Projector CanonicalEvent FailurePlan where
  name := "normalized"
  notAcquired := "inbox processing claim was not acquired"
  exhausted := "normalized_event_attempts_exhausted"
  prepare _ ledger event canonical :=
    if event.eventType ≠ .paymentFailed then .ok (ledger, .ignored "unsupported_event_type")
    else do
      let payment ← canonical.failed
      let prepared ← prepareFailure ledger payment event.providerOccurredAt
      return (ledger, prepared)
  carryOut d ledger event plan :=
    carryOutFailure ledger plan event.id d.newId event.providerOccurredAt

/-! ## The machine -/

inductive MoneyCommand where
  | store (event : ProviderEvent CanonicalEvent)
  | projectTerminal (delivery : EventDelivery)
  | projectNormalized (delivery : EventDelivery)
  | enrich (enrichment : Enrichment)
  | moveCase (id : String) (moved : CaseRow)

/-- Another writer moves a case; the triggers are all that is known of what it writes. -/
def Ledger.moveCase (ledger : Ledger) (id : String) (moved : CaseRow) :
    Except ProjectionError Ledger :=
  ledger.updateCase id (fun _ => true) (fun c => { c with toCaseRow := moved }) "case"

/-- One transaction. A projection returns its result, the other commands nothing. -/
def moneyExec (referenceIdOf : String → String) (books : MoneyBooks) :
    MoneyCommand → Except ProjectionError (MoneyBooks × Option ProjectionResult)
  | .store event => do
    let stored ← books.storeOnce event
    return (stored, none)
  | .projectTerminal d => do
    let (after, result) ← (terminalProjector referenceIdOf).project d books
    return (after, some result)
  | .projectNormalized d => do
    let (after, result) ← normalizedProjector.project d books
    return (after, some result)
  | .enrich e => do
    let ledger ← e.persist books.ledger
    return ({ books with ledger := ledger }, none)
  | .moveCase id moved => do
    let ledger ← books.ledger.moveCase id moved
    return ({ books with ledger := ledger }, none)

def moneyMachine (referenceIdOf : String → String) :
    Machine MoneyBooks MoneyCommand (Option ProjectionResult) ProjectionError where
  exec := moneyExec referenceIdOf

abbrev MoneyStep := Step MoneyBooks MoneyCommand (Option ProjectionResult)

end Retrywise.ControlPlane
