import Retrywise.Foundation.Raise
import Retrywise.Foundation.Run
import Retrywise.Foundation.Json
import Retrywise.Foundation.Datetime
import Retrywise.Domain.Commands
import Retrywise.Domain.Effect
import Retrywise.Domain.Accepted
import Retrywise.Domain.Enabled
import Retrywise.Domain.Lifecycle
import Retrywise.Foundation.Sha256
import Retrywise.Domain.Progress
import Retrywise.Domain.Authorization
import Retrywise.Domain.Instrument
import Retrywise.Domain.ActionKey
import Retrywise.Domain.LateCapture
import Retrywise.Domain.MoneyTruth
import Retrywise.Domain.Versioning
import Retrywise.Domain.Evaluation
import Retrywise.Domain.GateSoundness
import Retrywise.ControlPlane.Boundary
import Retrywise.ControlPlane.CreateOnce
import Retrywise.ControlPlane.LookupReached
import Retrywise.ControlPlane.ResultsAccepted
import Retrywise.ControlPlane.FailedPayments
import Retrywise.ControlPlane.MoneyMachine
import Retrywise.ControlPlane.MoneySteps
import Retrywise.ControlPlane.OneCase
import Retrywise.ControlPlane.PaidOrder
import Retrywise.ControlPlane.WritesAdmitted
import Retrywise.ControlPlane.CapturesTaken
import Retrywise.ControlPlane.LateFailures
import Retrywise.ControlPlane.MappedCaptures
import Retrywise.ControlPlane.AssessmentCommit
import Retrywise.ControlPlane.AssessmentOutcome
import Retrywise.ControlPlane.AssessmentRedelivery
import Retrywise.ControlPlane.ApprovalMaterialization
import Retrywise.ControlPlane.ApprovalStranded
import Retrywise.ControlPlane.Cancellation
import Retrywise.ControlPlane.DeliverySettles
import Retrywise.ControlPlane.CancellationMoney
import Retrywise.ControlPlane.RoutedAssessment
import Retrywise.ControlPlane.AssessmentScheduler
import Retrywise.ControlPlane.KillSwitchRuns
import Retrywise.ControlPlane.AuditHash
import Retrywise.ControlPlane.AuditAccepted
import Retrywise.ControlPlane.AuditRuns
import Retrywise.ControlPlane.AuditTampering
import Retrywise.Domain.ApprovalWaiver
import Retrywise.Domain.ProposalIdentity
import Retrywise.ControlPlane.LeaseFencing
import Retrywise.ControlPlane.OutboxPolling
import Retrywise.ControlPlane.OutboxTrigger
import Retrywise.Domain.DecisionLedger
import Retrywise.Domain.LedgerChain
import Retrywise.Domain.LedgerTampering
import Retrywise.ControlPlane.OutboxRefinement
import Retrywise.ControlPlane.BackoffSchedule
import Retrywise.ControlPlane.CancelCommandRoundTrip
import Retrywise.ControlPlane.DiagnosisCircuit
import Retrywise.ControlPlane.EffectCommandRoundTrip
import Retrywise.ControlPlane.IncidentHysteresis
import Retrywise.ControlPlane.MonotonicUlid
import Retrywise.ControlPlane.PaymentLinkAdapter
import Retrywise.ControlPlane.ProviderWrites
import Retrywise.ControlPlane.RecoveryReferences
import Retrywise.ControlPlane.WebhookNormalization
import Retrywise.Simulator.Engine
import Retrywise.Foundation.Binary64
import Retrywise.Simulator.Accounting
import Retrywise.Simulator.ExpectedValue
import Retrywise.Simulator.OracleCeiling
import Retrywise.ControlPlane.WebhookInbox
import Retrywise.ControlPlane.WebhookIngress
