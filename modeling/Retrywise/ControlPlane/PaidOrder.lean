import Retrywise.ControlPlane.LinkRuns

/-!
# A paid order

The repository's docs ask that a recovery is suppressed "when the original payment is
captured, the original order is paid, or any payment on the original order is captured".
The effect reads one payment: of those the database has for the order, the one with the
latest provider snapshot.

> `noCollection_iff`: with a captured payment of the order at the provider, no delivery
> asks for a create if and only if the payment that is read is not one of the order's
> that the provider has as created or failed.

The order itself, and its other payments, are not read.
-/

namespace Retrywise.ControlPlane

open Retrywise.Foundation Retrywise.Domain

/-- What the provider has, by payment id. -/
abbrev ProviderPayments := String → Option PaymentRecord

/-- Some payment of the order is captured, whichever id it has. -/
def ProviderPayments.HoldsCaptured (provider : ProviderPayments) (orderId : String) : Prop :=
  ∃ id record, provider id = some record ∧ record.orderId = orderId ∧ record.status = .captured

/-- An adapter reads what the provider has, or nothing. -/
def ProviderPayments.ReadBy (provider : ProviderPayments) (adapter : PaymentTruthAdapter) : Prop :=
  ∀ id record, adapter id = .ok record → provider id = some record

/-- The payment that is read is at the provider as the database has it, and created or
failed there. -/
def ProviderPayments.Collectable (provider : ProviderPayments)
    (payments : List ProviderPaymentRow) : Prop :=
  ∃ payment record, latestPayment payments = some payment ∧
    provider payment.providerPaymentId = some record ∧
    payment.RecordedAs record.toPaymentRecordFields ∧
    record.status ∈ [PaymentStatus.created, .failed] ∧ record.FactsCanonical

/-! ## A delivery -/

/-- All that one run of `execute` goes by, with `PostgresCreateEffectRepository` over
`RazorpayFreshProviderTruthReader`. The path is read once for the context and once more,
under its lock, for the authorization. -/
structure EffectDelivery where
  gate : DeterministicGate
  job : OutboxJob
  command : CreatePaymentLinkCommand
  workerId : String
  links : PaymentLinkProvider
  server : Server
  fenced : Bool
  policyVersion : String
  globalKillSwitch : Bool
  adapter : PaymentTruthAdapter
  observedAt : Timestamp
  methodHealth : MethodHealthQuery → Except ControlPlaneError FreshMethodHealthTruth
  intent : Except ControlPlaneError (Option DurableActionIntent)
  path : EffectPath
  columns : ContextColumns
  locked : EffectPath
  startedAt : Timestamp
  decidedAt : Timestamp
  writtenAt : Timestamp

namespace EffectDelivery

variable [Hashlib] (d : EffectDelivery)

def repository : EffectRepository where
  policyVersion := d.policyVersion
  globalKillSwitch := d.globalKillSwitch
  fetchFreshPaymentTruth := fetchFreshPaymentTruth d.adapter d.observedAt
  fetchFreshMethodHealth := d.methodHealth

def reads : EffectReads where
  startedAt := d.startedAt
  intent := d.intent
  context := loadFreshGateContext d.repository d.path d.columns d.command.proposal
    d.command.providerAccountId d.startedAt
  decidedAt := d.decidedAt

/-- What the delivery asks of the provider of links. -/
def calls : List ProviderCall :=
  (execute d.gate d.job d.command d.workerId d.links
    (fun effect context => (recordEffectAuthorization d.server d.fenced d.writtenAt d.locked d.job
      d.command effect context d.workerId (d.job.retryMode = .reconcileOnly)).map fun _ => ())
    d.reads).calls

/-- The delivery asks for its link. -/
def Collects : Prop := .create d.command.request d.command.providerAccountId ∈ d.calls

end EffectDelivery

section

variable [Hashlib]

/-- No delivery over this provider and these rows asks for a link. -/
def NoCollection (provider : ProviderPayments) (payments : List ProviderPaymentRow) : Prop :=
  ∀ d : EffectDelivery, provider.ReadBy d.adapter → d.columns.payments = payments → ¬d.Collects

variable {provider : ProviderPayments} {payments : List ProviderPaymentRow}

/-- What a delivery that asks for its link has read. -/
theorem collectable_of_collects {d : EffectDelivery} (hread : provider.ReadBy d.adapter)
    (hpayments : d.columns.payments = payments) (h : d.Collects) :
    provider.Collectable payments := by
  obtain ⟨effect, context, now, hdecided, -, -, -⟩ := create_mem_execute_iff.mp h
  obtain ⟨-, hallowed, -, ⟨fresh, hfresh, hcontext⟩, heffect, hcreate⟩ :=
    decideEffect_cleared hdecided
  have hcollection : d.command.proposal.actionType ∈ collectionActions := by
    rw [hcreate]
    decide
  obtain ⟨plan, _, hsafe⟩ := DeterministicGate.effectSafe_of_allowed heffect hallowed hcollection
  obtain ⟨-, payment, truth, hlatest, htruth, hstate⟩ :=
    freshGateContext_ok (loadFreshGateContext_ok_iff.mp hfresh)
  obtain ⟨query, record, -, hadapter, hrecorded, hfields⟩ := (readPaymentTruth_ok_iff rfl).mp htruth
  have hunpaid : truth.canonicalPaymentState = .unpaid := by
    rw [← hstate]
    have hsnapshot := hsafe.unpaid
    rw [hcontext] at hsnapshot
    exact hsnapshot
  refine ⟨payment, record, hpayments ▸ hlatest, hread _ _ hadapter, hrecorded, ?_, ?_⟩
  · have hstatus : truth.status = record.status := congrArg PaymentTruthFields.status hfields
    rw [← hstatus, List.mem_cons, List.mem_singleton]
    exact PaymentTruthFields.canonicalPaymentState_eq_unpaid_iff.mp hunpaid
  · exact postInit_truthFields_iff.mp (hfields ▸ truth.valid)

/-- An offer for the money of a payment, by the method it failed with. -/
def offerOf (record : PaymentRecord) : LinkOffer where
  amount := ⟨record.amountMinor, record.currency, record.consistent.currency⟩
  method := record.paymentMethod
  positive := record.consistent.positive
  methodOk := record.consistent.paymentMethod

/-- The first delivery of the offer's job, over this provider and these rows. -/
def firstDelivery (o : LinkOffer) (job : OutboxJob) (provider : ProviderPayments)
    (payments : List ProviderPaymentRow) : EffectDelivery where
  gate := o.gate
  job := job
  command := LinkDelivery.command o
  workerId := LinkDelivery.workerId
  links := ⟨fun _ _ => .ok LinkDelivery.failedOutcome, fun _ _ => .ok LinkDelivery.brokenLookup⟩
  server := schemaServer false
  fenced := true
  policyVersion := "policy-v1"
  globalKillSwitch := false
  adapter := fun id => someOr (provider id) (.invalidValue "no such payment")
  observedAt := LinkDelivery.firstTime
  methodHealth := fetchFreshMethodHealth ⟨[], none, List.nodup_nil⟩ LinkDelivery.firstTime
  intent := .ok (some (LinkDelivery.intent o))
  path := LinkDelivery.path o
  columns := LinkDelivery.columns o payments
  locked := LinkDelivery.path o
  startedAt := LinkDelivery.firstTime
  decidedAt := LinkDelivery.firstTime
  writtenAt := LinkDelivery.firstTime

theorem collects_of_collectable (h : provider.Collectable payments) :
    ∃ d : EffectDelivery, provider.ReadBy d.adapter ∧ d.columns.payments = payments ∧
      d.Collects := by
  obtain ⟨payment, record, hlatest, hheld, hrecorded, hstatus, hfacts⟩ := h
  let o := offerOf record
  let now := LinkDelivery.firstTime
  obtain ⟨s, hpath, hclaimed⟩ : ∃ s : CreateStep, s.post.path = LinkDelivery.path o ∧
      LinkDelivery.At o [s] s.post 1 .normal now .claimed :=
    LinkDelivery.exists_first ⟨le_refl _, by decide⟩
  obtain ⟨claim, job, expiry, hexpiry, hd, hholds, hmode⟩ := hclaimed.works
  have hlease := hholds.assertActiveLease (LinkDelivery.lt_of_shift hexpiry)
  let d := firstDelivery o job provider payments
  have hadapter : d.adapter payment.providerPaymentId = .ok record :=
    someOr_ok_iff.mpr hheld
  obtain ⟨truth, htruth, htold, hmethod, hobserved⟩ :=
    LinkDelivery.exists_truth o d.adapter now payments hadapter hrecorded hfacts
  have hunpaid : truth.canonicalPaymentState = .unpaid := by
    rw [PaymentTruthFields.canonicalPaymentState_eq_unpaid_iff, htold]
    simpa using hstatus
  have hstate : RecoveryState.actionQueued ∈
      effectActionableStates .createStandardPaymentLink := by decide
  obtain ⟨fresh, hfresh, hfits⟩ := LinkDelivery.exists_context (LinkDelivery.path o) now hlatest
    htruth hunpaid hmethod hobserved rfl hstate (le_refl _) (by decide)
  obtain ⟨effect, hdecided, hissued, hallowed⟩ := LinkDelivery.decideEffect_offer d.reads
    (by rw [hholds.jobFields]; rfl) (by rw [hholds.jobFields]; rfl) rfl
    (matchesCommand_intentFields _ _) hlease hlease hfresh hfits
  have hqueued := (LinkDelivery.planned_job o).queued
  have hexpires : job.leaseExpiresAt.isSome = true := by
    rw [hholds.lease.2.2.1]
    rfl
  obtain ⟨⟨hread, -, -, -⟩, -⟩ := freshGateContext_ok (loadFreshGateContext_ok_iff.mp hfresh)
  have hbound : (LinkDelivery.path o).Bound (LinkDelivery.command o)
      (refreshContext fresh now true) :=
    ⟨rfl, rfl, rfl, rfl, rfl, rfl, rfl, rfl, rfl, hread.symm, by simp [LinkDelivery.path]⟩
  obtain ⟨changed, hrecorded, -⟩ := LinkDelivery.exists_started now hqueued.journaled
    hqueued.staged rfl rfl hallowed hbound (hissued.aggregateVersion.trans hread) rfl
    (by decide : hasText (some LinkDelivery.workerId) = true) hexpires
  have hcreates : d.job.retryMode ≠ .reconcileOnly := by
    show job.retryMode ≠ _
    rw [hmode]
    exact RetryMode.noConfusion
  refine ⟨d, fun id found hfound => someOr_ok_iff.mp hfound, rfl, ?_⟩
  refine create_mem_execute_iff.mpr ⟨effect, _, now, hdecided, ?_, hcreates,
    LinkDelivery.validateExpiry_firstTime o⟩
  rw [decide_eq_false hcreates]
  exact map_ok_iff.mpr ⟨changed, hrecorded, rfl⟩

/-- **No collection on a paid order, but for the one payment that is read.** For every
state of the provider and every state the webhooks have left the rows in. -/
theorem noCollection_iff (provider : ProviderPayments) (payments : List ProviderPaymentRow)
    (orderId : String) :
    (provider.HoldsCaptured orderId → NoCollection provider payments) ↔
      (provider.HoldsCaptured orderId → ¬provider.Collectable payments) := by
  refine imp_congr_right fun _ => ?_
  constructor
  · intro h hcollectable
    obtain ⟨d, hread, hpayments, hcollects⟩ := collects_of_collectable hcollectable
    exact h d hread hpayments hcollects
  · intro h d hread hpayments hcollects
    exact h (collectable_of_collects hread hpayments hcollects)

end

/-- The second attempt, which was captured. -/
def capturedRecord : PaymentRecord where
  paymentId := "pay_2"
  orderId := "order_1"
  status := .captured
  amountMinor := 12500
  currency := "INR"
  capturedMinor := 12500
  refundedMinor := 0
  paymentMethod := "upi"
  errorSource := none
  errorStep := none
  errorReason := none
  valid := by decide

/-- Two attempts at one order: the first failed, the second was captured and its events
have not come yet. The delivery reads the first one, and asks for a link. -/
theorem not_noCollection :
    ¬∀ (provider : ProviderPayments) (payments : List ProviderPaymentRow) (orderId : String),
      (∀ payment ∈ payments, payment.providerOrderId = some orderId) →
        provider.HoldsCaptured orderId → NoCollection provider payments := by
  intro h
  let o : LinkOffer := ⟨⟨12500, "INR", rfl⟩, "upi", by decide, rfl⟩
  let provider : ProviderPayments := fun id =>
    if id = "pay_1" then some (LinkDelivery.paymentRecord o)
    else if id = "pay_2" then some capturedRecord else none
  have hcollectable : provider.Collectable [LinkDelivery.paymentRow o] :=
    ⟨_, LinkDelivery.paymentRecord o, rfl, rfl, LinkDelivery.recordedAs_paymentRecord o,
      by simp [LinkDelivery.paymentRecord], LinkDelivery.factsCanonical_paymentRecord o⟩
  obtain ⟨d, hread, hpayments, hcollects⟩ := collects_of_collectable hcollectable
  refine h provider _ "order_1" ?_ ⟨"pay_2", capturedRecord, rfl, rfl, rfl⟩ d hread hpayments
    hcollects
  intro payment hpayment
  rw [List.mem_singleton.mp hpayment]
  rfl

end Retrywise.ControlPlane
