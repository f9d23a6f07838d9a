import Retrywise.ControlPlane.DeliveryRecord
import Retrywise.ControlPlane.MethodHealth

/-!
# A delivery with nothing in its way

For every `LinkOffer`, a create job that runs through: the command, its intent, the
row and the path as they are queued, and what the reads of a delivery find. With it
a caller can show that a delivery really gets as far as some step, whatever the
money is and whatever the hash function.

> `decideEffect_offer`: a delivery that reads an unpaid payment of the offer, under a
> lease it still has, is cleared.
-/

namespace Retrywise.ControlPlane

open Retrywise.Foundation Retrywise.Domain

namespace LinkDelivery

/-! ## Ids -/

def providerAccountId : String := "01K0000000000000000000000A"

def actionId : String := "01K0000000000000000000000T"

def jobId : String := "01K0000000000000000000000J"

def referenceId : String := "rw-01K0000000000000000000000T"

def workerId : String := "worker-1"

section

variable (o : LinkOffer)

/-- Payable until an hour after the offer has expired. -/
def request : StandardPaymentLinkRequest where
  amountMinor := o.amount.minorUnits
  currency := o.amount.currency
  referenceId := referenceId
  description := "Payment"
  expireByEpoch := 1767146400
  valid := by
    have hcurrency : isCurrency o.amount.currency = true := o.amount.currencyOk
    have hamount : ¬o.amount.minorUnits = 0 := o.positive
    simp only [RequestFields.postInit, raiseIf_of_not _ hamount,
      raiseIf_of_not _ (not_not.mpr hcurrency)]
    rfl
  mapping := by exact List.nodup_nil

variable [Hashlib]

def command : CreatePaymentLinkCommand where
  proposal := o.proposal
  priorPlan := o.plan
  request := request o
  providerAccountId := providerAccountId
  valid := raiseIf_of_not _ (not_not.mpr (by decide : isCleanText 128 providerAccountId = true))

/-! ## Digests are clean -/

theorem isDigest_proposalDigest : isDigest o.proposal.proposalDigest = true :=
  Hashlib.isDigest_sha256Hexdigest _

theorem isDigest_payloadDigest : isDigest (command o).payloadDigest = true :=
  Hashlib.isDigest_sha256Hexdigest _

theorem isCleanText_actionKey {maximum : Nat} (hroom : 68 ≤ maximum) :
    isCleanText maximum o.proposal.actionKey = true := by
  show isCleanText maximum ("act_" ++ sha256Json o.proposal.keyMaterial) = true
  exact isCleanText_append_digest (by decide) (Hashlib.isDigest_sha256Hexdigest _) hroom

/-- The key of the outbox row. -/
def idempotencyKey : String := s!"create-standard-payment-link:{o.proposal.actionKey}"

theorem isCleanText_idempotencyKey : isCleanText 300 (idempotencyKey o) = true := by
  have hkey : idempotencyKey o = "create-standard-payment-link:act_" ++
      sha256Json o.proposal.keyMaterial := by
    show "create-standard-payment-link:" ++ ("act_" ++ _) = _
    rw [← String.append_assoc]
    rfl
  rw [hkey]
  exact isCleanText_append_digest (by decide) (Hashlib.isDigest_sha256Hexdigest _) (by decide)

/-! ## The intent -/

def intent : DurableActionIntent where
  toIntentFields := (command o).intentFields sampleStart
  valid := by
    simp only [IntentFields.postInit, requireText, bind_ok_iff, raiseIf_ok_iff, not_not]
    refine ⟨(), isCleanText_actionKey o (by decide : 68 ≤ 128), (), ?_, (), ?_, (), ?_, (), ?_,
      (), ?_, (), ?_, (), ?_, ?_⟩
    · show isCleanText 128 LinkOffer.merchantId = true
      decide
    · show isCleanText 128 providerAccountId = true
      decide
    · show isCleanText 40 referenceId = true
      decide
    · exact isDigest_proposalDigest o
    · exact Hashlib.isDigest_sha256Hexdigest _
    · exact Hashlib.isDigest_sha256Hexdigest _
    · exact isDigest_payloadDigest o
    · rfl

/-! ## What a delivery finds -/

omit [Hashlib] in
/-- No incident on the books, and the payments as the adapter has them. -/
def repository (adapter : PaymentTruthAdapter) (now : Timestamp) : EffectRepository where
  fetchFreshPaymentTruth := fetchFreshPaymentTruth adapter now
  fetchFreshMethodHealth := fetchFreshMethodHealth ⟨[], none, List.nodup_nil⟩ now

omit [Hashlib] in
def columns (payments : List ProviderPaymentRow) : ContextColumns where
  observationDeadline := some sampleDeadline
  attemptCount := 0
  contactCount := 0
  incidentId := none
  policyVersion := "policy-v1"
  providerAccountIdentifier := "acc_1"
  credentialBindingVersion := 1
  amountDueMinor := o.amount.minorUnits
  currency := o.amount.currency
  payments := payments
  otherInstruments := 0

omit [Hashlib] in
def around : Surroundings where
  orderTruth := .unpaid
  merchantStatus := .active
  merchantKillSwitch := false
  accountEnvironment := .test
  accountEnabled := true
  planningVerdict := .allowed
  approval := none
  otherLinks := []

variable {o} {adapter : PaymentTruthAdapter} {now : Timestamp} {payments : List ProviderPaymentRow}

omit [Hashlib] in
theorem exists_health (o : LinkOffer) (adapter : PaymentTruthAdapter) (now : Timestamp)
    (payments : List ProviderPaymentRow) :
    ∃ health, readMethodHealth (repository adapter now) (columns o payments) o.proposal
        providerAccountId o.method = .ok health ∧
      health.incidentState = .normal ∧ health.observedAt = now := by
  let fields : MethodHealthQueryFields := {
    merchantId := o.proposal.merchantId
    providerAccountId := providerAccountId
    paymentMethod := o.method
    incidentId := none }
  have hvalid : fields.postInit = .ok () := by
    simp only [MethodHealthQueryFields.postInit, bind_ok_iff, requireUlid_ok_iff,
      liftDomain_ok_iff]
    exact ⟨(), (by decide : isUlid LinkOffer.merchantId = true), (),
      (by decide : isUlid providerAccountId = true), o.method, if_pos o.methodOk, rfl⟩
  let query : MethodHealthQuery := ⟨fields, hvalid⟩
  refine ⟨⟨query.normalReading now, postInit_normalReading⟩, ?_, rfl, rfl⟩
  have hread : fetchFreshMethodHealth ⟨[], none, List.nodup_nil⟩ now query =
      .ok ⟨query.normalReading now, postInit_normalReading⟩ :=
    fetchFreshMethodHealth_ok_iff.mpr (.inl ⟨rfl, rfl⟩)
  exact bind_ok_iff.mpr ⟨query, construct_ok_iff.mpr ⟨hvalid, rfl⟩, hread⟩

omit [Hashlib] in
/-- A payment that is recorded at the provider as the row has it, with canonical facts,
is read. -/
theorem exists_truth (o : LinkOffer) (adapter : PaymentTruthAdapter) (now : Timestamp)
    (payments : List ProviderPaymentRow) {payment : ProviderPaymentRow} {record : PaymentRecord}
    (hadapter : adapter payment.providerPaymentId = .ok record)
    (hrecorded : payment.RecordedAs record.toPaymentRecordFields)
    (hfacts : record.FactsCanonical) :
    ∃ truth, readPaymentTruth (repository adapter now) (columns o payments) o.proposal
        providerAccountId payment = .ok truth ∧ truth.status = record.status ∧
      truth.paymentMethod = record.paymentMethod ∧ truth.observedAt = now := by
  have hrecord := record.consistent
  let fields := truthQueryFields (columns o payments) o.proposal providerAccountId payment
    record.orderId
  have hvalid : fields.postInit = .ok () := by
    simp only [ProviderTruthQueryFields.postInit, bind_ok_iff, requireUlid_ok_iff,
      requirePositive_ok_iff, requireProviderResourceId_ok_iff, raiseIf_ok_iff, not_not,
      exists_and_left, exists_const]
    refine ⟨(by decide : isUlid LinkOffer.merchantId = true),
      (by decide : isUlid providerAccountId = true), payment.idOk,
      (by decide : isProviderAccountIdentifier "acc_1" = true), Nat.one_ne_zero, ?_,
      isProviderResourceId_of_isOrderId hrecord.orderId⟩
    show isProviderResourceId payment.providerPaymentId = true
    rw [← hrecorded.paymentId]
    exact isProviderResourceId_of_isPaymentId hrecord.paymentId
  let query : ProviderTruthQuery := ⟨fields, hvalid⟩
  refine ⟨⟨record.truthFields query now, postInit_truthFields_iff.mpr hfacts⟩, ?_, rfl, rfl, rfl⟩
  exact (readPaymentTruth_ok_iff rfl).mpr ⟨query, record, rfl, hadapter, hrecorded, rfl⟩

/-- The context of an unpaid payment of the offer fits the offer. -/
theorem exists_context (path : EffectPath) {payment : ProviderPaymentRow}
    {truth : FreshProviderPaymentTruth} (startedAt : Timestamp)
    (hlatest : latestPayment payments = some payment)
    (htruth : readPaymentTruth (repository adapter now) (columns o payments) o.proposal
      providerAccountId payment = .ok truth)
    (hunpaid : truth.canonicalPaymentState = .unpaid) (hmethod : truth.paymentMethod = o.method)
    (hobserved : truth.observedAt = now) (haround : path.around = around)
    (hstate : path.recoveryCase.state ∈ effectActionableStates .createStandardPaymentLink)
    (hfrom : sampleDeadline ≤ now) (hto : now < sampleExpiry) :
    ∃ context, loadFreshGateContext (repository adapter now) path (columns o payments) o.proposal
        providerAccountId startedAt = .ok context ∧
      o.Fits (refreshContext context now true) := by
  obtain ⟨health, hhealth, hnormal, hhealthAt⟩ := exists_health o adapter now payments
  let snapshot : ProviderSnapshot := {
    paymentState := truth.canonicalPaymentState
    amountDue := o.amount
    paymentMethod := truth.paymentMethod
    observedAt := truth.observedAt
    activeInstrumentCount := 0
    incidentState := health.incidentState
    methodHealthObservedAt := health.observedAt
    paymentMethodOk := hmethod ▸ o.methodOk }
  have hsnapshot : snapshotOf (columns o payments) truth health = .ok snapshot := by
    have hcurrency : isCurrency (columns o payments).currency = true := o.amount.currencyOk
    have hmethodOk : isPaymentMethod truth.paymentMethod = true := hmethod ▸ o.methodOk
    rw [snapshotOf, dif_pos hcurrency, dif_pos hmethodOk]
    rfl
  let fields := contextFields (repository adapter now) path (columns o payments) o.proposal
    startedAt snapshot none
  have hvalid : fields.postInit = .ok () := by
    simp only [GateContextFields.postInit, bind_ok_iff, requireIdentifier_ok_iff]
    exact ⟨_, ⟨(by decide : isIdentifier LinkOffer.merchantId = true), rfl⟩, _,
      ⟨(by decide : isIdentifier LinkOffer.caseId = true), rfl⟩, rfl⟩
  refine ⟨⟨fields, hvalid⟩, loadFreshGateContext_ok_iff.mpr ?_, ?_⟩
  · refine bind_ok_iff.mpr ⟨payment, someOr_ok_iff.mpr hlatest, bind_ok_iff.mpr ⟨(), rfl, ?_⟩⟩
    refine bind_ok_iff.mpr ⟨truth, htruth, bind_ok_iff.mpr ⟨health, hmethod ▸ hhealth, ?_⟩⟩
    refine bind_ok_iff.mpr ⟨none, by rw [haround]; rfl, bind_ok_iff.mpr ⟨snapshot, hsnapshot, ?_⟩⟩
    exact liftDomain_ok_iff.mpr (construct_ok_iff.mpr ⟨hvalid, rfl⟩)
  · exact {
      merchantId := rfl
      caseId := rfl
      observable := hfrom
      running := hto
      version := rfl
      state := hstate
      effectsEnabled := by
        show (_ && _ && _) = true
        rw [haround]
        rfl
      globalSwitch := rfl
      merchantSwitch := by
        show path.around.merchantKillSwitch = false
        rw [haround]
        rfl
      observed := rfl
      unpaid := hunpaid
      truthObserved := hobserved
      noInstrument := rfl
      amount := rfl
      method := hmethod
      healthObserved := hhealthAt
      healthy := by
        show health.incidentState ≠ .confirmed
        rw [hnormal]
        simp
      attempts := rfl
      noAbstention := rfl
      noReview := rfl
      durableIntent := rfl }

/-! ## Up to the decision -/

/-- The job of the offer binds to its command. -/
theorem bindingFailure_offer {job : OutboxJob} {recorded : DurableActionIntent}
    (hkey : job.actionKey = o.proposal.actionKey)
    (hdigest : job.payloadDigest = (command o).payloadDigest)
    (hmatch : recorded.matchesCommand (command o).toCommandFields = true) :
    bindingFailure job (command o) (some recorded) = none := by
  have hcommandKey : job.actionKey = (command o).proposal.actionKey := hkey
  have hcreate : (command o).proposal.actionType = .createStandardPaymentLink := rfl
  have hamount : (command o).proposal.amount = some o.amount := rfl
  have hminor : o.amount.minorUnits = (command o).request.amountMinor := rfl
  have hcurrency : o.amount.currency = (command o).request.currency := rfl
  simp only [bindingFailure, ne_eq, hcommandKey, hdigest, hcreate, hamount, hminor, hcurrency,
    hmatch, not_true_eq_false, if_false, if_true]

/-- A delivery that reads an unpaid payment of the offer is cleared. -/
theorem decideEffect_offer {job : OutboxJob} {fresh : GateContext} (reads : EffectReads)
    {recorded : DurableActionIntent} (hkey : job.actionKey = o.proposal.actionKey)
    (hdigest : job.payloadDigest = (command o).payloadDigest)
    (hintent : reads.intent = .ok (some recorded))
    (hmatch : recorded.matchesCommand (command o).toCommandFields = true)
    (hstarted : job.assertActiveLease workerId job.tokenOrMissing reads.startedAt = .ok ())
    (hdecided : job.assertActiveLease workerId job.tokenOrMissing reads.decidedAt = .ok ())
    (hfresh : reads.context = .ok fresh)
    (hfits : o.Fits (refreshContext fresh reads.decidedAt true)) :
    ∃ effect, decideEffect o.gate job (command o) workerId reads =
        .ok (.cleared effect (refreshContext fresh reads.decidedAt true) reads.decidedAt) ∧
      DeterministicGate.Issued o.gate .effect o.proposal
        (refreshContext fresh reads.decidedAt true) effect ∧
      effect.allowed = true := by
  obtain ⟨effect, heffect, hissued, hallowed⟩ :=
    DeterministicGate.allowed_of_cleared (o.cleared hfits)
  have hbound := bindingFailure_offer hkey hdigest hmatch
  refine ⟨effect, ?_, hissued, hallowed⟩
  unfold decideEffect
  rw [bind_of_ok hstarted, bind_of_ok hintent, bind_of_ok hfresh, bind_of_ok hdecided]
  simp only [hbound, Option.isSome_some, Option.isNone_none, Bool.and_true]
  have hasked : liftDomain (o.gate.evaluateEffect (command o).proposal
      (refreshContext fresh reads.decidedAt true) (some (command o).priorPlan)) = .ok effect :=
    liftDomain_ok_iff.mpr heffect
  rw [bind_of_ok hasked, if_pos hallowed]

/-! ## The job -/

variable (o)

/-- The path as the approval of the offer left it. -/
def path : EffectPath where
  action := {
    id := actionId
    actionKey := o.proposal.actionKey
    externalReferenceId := some referenceId
    status := .queued
    attemptNumber := 0
    maxAttempts := 5
    leaseOwner := none
    leaseExpiresAt := none
    effectGateSnapshot := none
    effectGateVerdict := none
    effectGateReasonCodes := []
    responseMetadata := none
    providerStatus := none
    reconciliationStatus := .pending
    providerResourceId := none
    firstAttemptedAt := none
    lastAttemptedAt := none
    completedAt := none
    lastErrorCode := none
    deadLetteredAt := none
    deadLetterReason := none }
  recoveryCase := {
    state := .actionQueued
    version := 4
    observationContractVersion := 1
    lastActionId := some actionId
    terminalReasonCode := none
    terminalAt := none }
  instrument := {
    status := .creating
    referenceId := referenceId
    providerPaymentLinkId := none
    lastProviderStatus := none
    reconciliationStatus := .pending
    lastReconciledAt := none
    amountMinor := o.amount.minorUnits
    collectedMinor := 0 }
  around := around

def row : OutboxRow where
  id := jobId
  merchantId := LinkOffer.merchantId
  aggregateType := "ACTION"
  aggregateId := actionId
  commandType := "CREATE_STANDARD_PAYMENT_LINK"
  commandSchemaVersion := 1
  idempotencyKey := idempotencyKey o
  status := .pending
  attemptCount := 0
  maxAttempts := 8
  nextAttemptAt := sampleStart
  leaseOwner := none
  leaseToken := none
  leaseExpiresAt := none
  deliveryVersion := 0
  retryMode := .normal
  lastErrorCode := none
  lastErrorAt := none
  completionReference := none
  completedAt := none
  deadLetterReason := none
  deadLetteredAt := none
  createdAt := sampleStart
  updatedAt := sampleStart

def system : CreateSystem where
  server := schemaServer false
  gate := o.gate
  command := command o
  backoff := ⟨seconds 1, minutes 5, BackoffPolicy.positive_default, BackoffPolicy.bounded_default⟩

def job : CreateJob := ⟨row o, path o, fun _ => none⟩

theorem planned_job : (system o).Planned (job o) where
  fresh := ⟨rfl, rfl, rfl, rfl, ⟨rfl, rfl, rfl⟩, rfl, fun _ => rfl⟩
  queued := by constructor <;> first | rfl | exact Nat.succ_ne_zero 4
  reference := rfl

/-! ## A claim -/

/-- What no write of the row changes. -/
structure Carries (r : OutboxRow) : Prop where
  id : r.id = jobId
  merchantId : r.merchantId = LinkOffer.merchantId
  aggregateType : r.aggregateType = "ACTION"
  aggregateId : r.aggregateId = actionId
  commandType : r.commandType = "CREATE_STANDARD_PAYMENT_LINK"
  schemaVersion : r.commandSchemaVersion = 1
  idempotencyKey : r.idempotencyKey = idempotencyKey o
  createdAt : r.createdAt = sampleStart
  maxAttempts : r.maxAttempts = 8

theorem carries_row : Carries o (row o) := ⟨rfl, rfl, rfl, rfl, rfl, rfl, rfl, rfl, rfl⟩

variable {o}

theorem Carries.claimed {r : OutboxRow} (h : Carries o r) {terms : ClaimTerms}
    {claimedAt expiresAt : Timestamp} : Carries o (r.claimed terms claimedAt expiresAt) := by
  unfold OutboxRow.claimed
  split
  next => exact ⟨h.id, h.merchantId, h.aggregateType, h.aggregateId, h.commandType,
    h.schemaVersion, h.idempotencyKey, h.createdAt, h.maxAttempts⟩
  next => exact ⟨h.id, h.merchantId, h.aggregateType, h.aggregateId, h.commandType,
    h.schemaVersion, h.idempotencyKey, h.createdAt, h.maxAttempts⟩

omit [Hashlib] in
def terms : ClaimTerms where
  workerId := workerId
  leaseNonce := "nonce"

/-- The token of a claim of this version. -/
def leaseToken (version : Nat) : String := s!"{terms.leaseNonce}:{jobId}:{version}"

/-- The delivery of this version works on the row under a lease that runs to `expiry`. -/
structure Holds (o : LinkOffer) (state : CreateJob) (version : Nat) (claim : ClaimedOutboxCommand)
    (outboxJob : OutboxJob) (expiry : Timestamp) : Prop where
  claimFields : claim.toClaimFields = state.row.claimFields workerId (leaseToken version) expiry
  jobFields : outboxJob.toJobFields = jobFromClaim claim.toClaimFields (command o)
  carries : Carries o state.row
  attempts : state.row.attemptCount ≤ version
  early : version < 8
  clean : isCleanText 128 (leaseToken version) = true
  status : state.row.status = .inProgress
  current : state.row.deliveryVersion = version
  owner : state.row.leaseOwner = some workerId
  token : state.row.leaseToken = some (leaseToken version)
  expires : state.row.leaseExpiresAt = some expiry
  action : state.path.action.id = actionId ∧ state.path.action.actionKey = o.proposal.actionKey

/-- The command of a claimed row passes its check. -/
theorem postInit_claimFields {r : OutboxRow} {version : Nat} (expiry : Timestamp)
    (h : Carries o r) (hcurrent : r.deliveryVersion = version) (hversion : version ≠ 0)
    (hattempt : r.attemptCount ≠ 0) (hroom : r.attemptCount < 8)
    (hclean : isCleanText 128 (leaseToken version) = true) (hlater : sampleStart ≤ r.updatedAt)
    (hlease : r.updatedAt < expiry) :
    (r.claimFields workerId (leaseToken version) expiry).postInit = .ok () := by
  obtain ⟨hid, hmerchant, htype, haggregate, hcommand, hschema, hkey, hcreated, hmax⟩ := h
  simp only [ClaimFields.postInit, requireInternalUlid, requireCleanText, bind_ok_iff,
    raiseIf_ok_iff, not_not, requirePositive_ok_iff, exists_and_left, exists_const]
  simp only [OutboxRow.claimFields, hid, hmerchant, htype, haggregate, hcommand, hschema, hkey,
    hcreated, hmax, hcurrent]
  refine ⟨by decide, by decide, by decide, by decide, by decide, isCleanText_idempotencyKey o,
    by decide, isCleanText_mono (by decide) hclean, by decide, hattempt, by decide, hversion,
    by omega, not_lt.mpr hlater, not_le.mpr hlease⟩

/-- The job of a claim can be built. -/
theorem postInit_jobFromClaim (claim : ClaimFields) {version : Nat} {r : OutboxRow}
    {expiry : Timestamp} (h : Carries o r)
    (hfields : claim = r.claimFields workerId (leaseToken version) expiry)
    (hattempt : r.attemptCount ≠ 0) (hroom : r.attemptCount < 8)
    (hclean : isCleanText 128 (leaseToken version) = true) (hlater : sampleStart ≤ r.updatedAt)
    (hlease : r.updatedAt < expiry) :
    (jobFromClaim claim (command o)).postInit = .ok () := by
  simp only [JobFields.postInit, requireText, bind_ok_iff, raiseIf_ok_iff, not_not,
    exists_and_left, exists_const]
  subst hfields
  simp only [jobFromClaim, OutboxRow.claimFields, JobFields.optionalClean, JobFields.checkState,
    requireText, bind_ok_iff, raiseIf_ok_iff, not_not, exists_and_left, exists_const, h.id,
    h.createdAt, h.maxAttempts]
  refine ⟨by decide, isCleanText_actionKey o (by decide : 68 ≤ 128), isDigest_payloadDigest o,
    by decide, by omega, not_lt.mpr hlater, by decide, isCleanText_mono (by decide) hclean,
    trivial, trivial, trivial, by simp, by omega, ?_, by simp⟩
  simpa using hlease

/-- Claim a row that is due. -/
theorem exists_claim {state : CreateJob} {version : Nat} {claimedAt expiry : Timestamp}
    (hcarries : Carries o state.row) (hdue : state.row.claimable claimedAt = true)
    (hattempts : state.row.attemptCount ≤ state.row.deliveryVersion)
    (hversion : state.row.deliveryVersion + 1 = version) (hearly : version < 8)
    (hclean : isCleanText 128 (leaseToken version) = true) (hlater : sampleStart ≤ claimedAt)
    (hexpiry : shift claimedAt (seconds 30) = .ok expiry)
    (haction : state.path.action.id = actionId ∧
      state.path.action.actionKey = o.proposal.actionKey) :
    ∃ claim outboxJob final, (system o).machine.exec state (.claim terms claimedAt) =
        .ok (final, none) ∧
      final.path = state.path ∧
      final.delivery version = some ⟨claim, .working outboxJob .claimed⟩ ∧
      Holds o final version claim outboxJob expiry ∧ claim.claimedAt = claimedAt ∧
      outboxJob.retryMode =
        (if state.row.status = .inProgress then .reconcileOnly else state.row.retryMode) := by
  have hmax : ¬state.row.attemptCount ≥ state.row.maxAttempts := by
    have := hcarries.maxAttempts
    omega
  obtain ⟨r, hr⟩ : ∃ r, r = state.row.claimed terms claimedAt expiry := ⟨_, rfl⟩
  obtain ⟨hstatus, hattempt, hcurrent, howner, htoken, hexpires, hmode, hupdated⟩ :
      r.status = .inProgress ∧ r.attemptCount = state.row.attemptCount + 1 ∧
        r.deliveryVersion = version ∧ r.leaseOwner = some workerId ∧
        r.leaseToken = some (leaseToken version) ∧ r.leaseExpiresAt = some expiry ∧
        r.retryMode =
          (if state.row.status = .inProgress then .reconcileOnly else state.row.retryMode) ∧
        r.updatedAt = claimedAt := by
    rw [hr, OutboxRow.claimed, if_neg hmax]
    refine ⟨rfl, rfl, hversion, rfl, ?_, rfl, rfl, rfl⟩
    rw [leaseToken, ← hversion, hcarries.id]
  have hrCarries : Carries o r := hr ▸ hcarries.claimed
  have hlease : claimedAt < expiry := by
    have hmicros := shift_ok_iff.mp hexpiry
    have hthirty : (30000000 : Int) = seconds 30 := rfl
    rw [Timestamp.lt_iff]
    omega
  have hvalid := postInit_claimFields expiry hrCarries hcurrent (by omega) (by omega)
    (by omega) hclean (hupdated ▸ hlater) (hupdated ▸ hlease)
  let claim : ClaimedOutboxCommand := ⟨_, hvalid⟩
  have hjob := postInit_jobFromClaim claim.toClaimFields hrCarries rfl (by omega)
    (by omega) hclean (hupdated ▸ hlater) (hupdated ▸ hlease)
  let outboxJob : OutboxJob := ⟨_, hjob⟩
  have hcommand : r.claimedCommand = .ok claim := by
    simp only [OutboxRow.claimedCommand, howner, htoken, hexpires]
    exact construct_ok_iff.mpr ⟨hvalid, rfl⟩
  have hopening : opening (system o).command claim.toClaimFields = .working outboxJob .claimed := by
    have hhandles : handles (system o).command claim.toClaimFields = true := by
      simp only [handles, Bool.and_eq_true, decide_eq_true_eq]
      exact ⟨⟨⟨⟨hrCarries.commandType, hrCarries.schemaVersion⟩, hrCarries.aggregateType⟩,
        hrCarries.merchantId⟩, hrCarries.idempotencyKey⟩
    have hbuild : (jobFromClaim claim.toClaimFields (system o).command).build = .ok outboxJob :=
      JobFields.build_ok_iff.mpr rfl
    rw [opening, if_pos hhandles, hbuild]
  refine ⟨claim, outboxJob, ⟨r, state.path, CreateSystem.setDelivery state.delivery version
    ⟨claim, .working outboxJob .claimed⟩⟩, ?_, rfl, setDelivery_self, ?_, ?_, ?_⟩
  · have hterms : terms.check = .ok () := by decide
    show ((system o).claim state terms claimedAt).map (fun claimed => (claimed, none)) = _
    refine map_ok_iff.mpr ⟨_, ?_, rfl⟩
    have hshift : liftDomain (shift claimedAt terms.leaseDuration) = .ok expiry :=
      liftDomain_ok_iff.mpr hexpiry
    unfold CreateSystem.claim
    rw [bind_of_ok hterms, bind_of_ok (raiseIf_of_not _ (by simp [hdue])), bind_of_ok hshift]
    simp only [← hr, hstatus, if_true, hcommand, hopening, hcurrent]
    rfl
  · exact {
      claimFields := rfl
      jobFields := rfl
      carries := hrCarries
      attempts := by
        show r.attemptCount ≤ version
        omega
      early := hearly
      clean := hclean
      status := hstatus
      current := hcurrent
      owner := howner
      token := htoken
      expires := hexpires
      action := haction }
  · exact hupdated
  · exact hmode

/-! ## A delivery under its lease -/

section

variable {state : CreateJob} {version : Nat} {claim : ClaimedOutboxCommand}
  {outboxJob : OutboxJob} {expiry : Timestamp}

/-- The row stays held while another step changes neither it nor what the fence reads
of the path. -/
theorem Holds.congr {final : CreateJob} (h : Holds o state version claim outboxJob expiry)
    (hrow : final.row = state.row) (hid : final.path.action.id = state.path.action.id)
    (hkey : final.path.action.actionKey = state.path.action.actionKey) :
    Holds o final version claim outboxJob expiry where
  claimFields := hrow ▸ h.claimFields
  jobFields := h.jobFields
  carries := hrow ▸ h.carries
  attempts := hrow ▸ h.attempts
  early := h.early
  clean := h.clean
  status := hrow ▸ h.status
  current := hrow ▸ h.current
  owner := hrow ▸ h.owner
  token := hrow ▸ h.token
  expires := hrow ▸ h.expires
  action := ⟨hid.trans h.action.1, hkey.trans h.action.2⟩

/-- The lease of the job is that of the claim. -/
theorem Holds.lease (h : Holds o state version claim outboxJob expiry) :
    outboxJob.leaseOwner = some workerId ∧ outboxJob.leaseToken = some (leaseToken version) ∧
      outboxJob.leaseExpiresAt = some expiry ∧ outboxJob.state = .leased ∧
      outboxJob.tokenOrMissing = leaseToken version := by
  have htoken : outboxJob.leaseToken = some (leaseToken version) := by
    rw [h.jobFields, jobFromClaim, h.claimFields]
    rfl
  have hsome : leaseToken version ≠ "" := by
    intro hnone
    have hclean := h.clean
    rw [hnone] at hclean
    exact absurd hclean (by decide)
  refine ⟨?_, htoken, ?_, ?_, ?_⟩
  · rw [h.jobFields, jobFromClaim, h.claimFields]
    rfl
  · rw [h.jobFields, jobFromClaim, h.claimFields]
    rfl
  · rw [h.jobFields]
    rfl
  · rw [OutboxJob.tokenOrMissing, htoken]
    exact if_neg hsome

theorem Holds.workerId_eq (h : Holds o state version claim outboxJob expiry) :
    claim.workerId = workerId := by
  rw [h.claimFields]
  rfl

theorem Holds.lockFence (h : Holds o state version claim outboxJob expiry) {now : Timestamp}
    (hnow : now < expiry) :
    lockFence state.row state.path outboxJob (command o) workerId now = true := by
  have hjob : outboxJob.jobId = jobId ∧ outboxJob.version = version := by
    rw [h.jobFields, jobFromClaim, h.claimFields]
    exact ⟨h.carries.id, h.current⟩
  simp only [ControlPlane.lockFence, OutboxRow.heldBy, h.lease.2.1, hjob.1, hjob.2, h.status,
    h.current, h.owner, h.token, h.expires, h.carries.id, h.carries.merchantId,
    h.carries.aggregateType, h.carries.aggregateId, h.carries.commandType, h.action.1, h.action.2,
    Option.getD_some, Option.any_some, hnow]
  simp [command, LinkOffer.proposal]

theorem Holds.assertActiveLease (h : Holds o state version claim outboxJob expiry)
    {now : Timestamp} (hnow : now < expiry) :
    outboxJob.assertActiveLease workerId outboxJob.tokenOrMissing now = .ok () := by
  obtain ⟨howner, htoken, hexpires, hstate, hmissing⟩ := h.lease
  simp only [OutboxJob.assertActiveLease, requireText, bind_ok_iff, raiseIf_ok_iff, not_not,
    exists_and_left, exists_const, hmissing, howner, htoken, hexpires, hstate]
  refine ⟨by decide, h.clean, by simp, ?_⟩
  simpa using hnow

end

end

end LinkDelivery

end Retrywise.ControlPlane
