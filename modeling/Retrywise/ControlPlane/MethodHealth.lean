import Retrywise.ControlPlane.ProviderReaders
import Retrywise.Domain.GateClearance

/-!
# What the gate hears of an incident

An incident is in the database while its payment method is degraded, and the gate
denies every collection by a method whose reading is `CONFIRMED`. Between the two
stands the reader, and the reader only ever looks at the incident the case names.

> `heeded_iff`: whatever incidents are on the books, a reading is heeded exactly
> when the case names an incident and the row it names, where it can be read, is
> a confirmed one.

A case that names no incident is read as `NORMAL`, a case that names a suspected
or cooling incident as that one, and in both the confirmed incident of the same
method stays unheard.
-/

namespace Retrywise.ControlPlane

open Retrywise.Foundation Retrywise.Domain

/-! ## The gate's rule -/

section

variable [Hashlib] {gate : DeterministicGate} {stage : GateStage} {p : ActionProposal}
  {c : GateContext} {priorPlan : Option GateDecision} {d : GateDecision}

/-- A confirmed incident is a reason against every collection, at both stages. -/
theorem unhealthy_mem_reasons (hcreate : p.actionType = .createStandardPaymentLink)
    (hconfirmed : c.snapshot.incidentState = .confirmed)
    (h : gate.evaluate stage p c priorPlan = .ok d) :
    .paymentMethodUnhealthy ∈ d.reasons := by
  obtain ⟨horizon, -, -, hreasons⟩ := DeterministicGate.evaluate_ok_iff.mp h
  have hpart : .paymentMethodUnhealthy ∈ DeterministicGate.only p collectionActions
      (DeterministicGate.healthReasons gate c horizon) := by
    rw [DeterministicGate.only, hcreate, if_pos (by decide)]
    refine List.mem_append_left _ (List.mem_append_right _ ?_)
    exact mem_reasonIf hconfirmed
  rw [hreasons]
  exact List.mem_append_left _ (List.mem_append_left _ (List.mem_append_right _ hpart))

/-- A reading is heeded: it is not `NORMAL`, and every evaluation of a new link
that goes by it, at either stage, ends in a denial for the method's health. A read
that raises is no reading, and nothing goes by it. -/
def Heeded (outcome : Except ControlPlaneError FreshMethodHealthTruth) : Prop :=
  ∀ health, outcome = .ok health → health.incidentState ≠ .normal ∧
    ∀ (gate : DeterministicGate) (stage : GateStage) (p : ActionProposal) (c : GateContext)
      (priorPlan : Option GateDecision) (d : GateDecision),
      p.actionType = .createStandardPaymentLink →
      c.snapshot.incidentState = health.incidentState →
      gate.evaluate stage p c priorPlan = .ok d →
      d.allowed = false ∧ .paymentMethodUnhealthy ∈ d.reasons

end

/-! ## What is read -/

variable {incidents : IncidentTable} {now : Timestamp} {query : MethodHealthQuery}

/-- The labels of the row pass the check of a reading. -/
def IncidentRow.Readable (incident : IncidentRow) : Prop :=
  isIdentifier incident.detectorVersion = true ∧ isIdentifier incident.thresholdVersion = true

/-- A normal reading passes its check. -/
theorem postInit_normalReading : (query.normalReading now).postInit = .ok () := by
  have hvalid := query.valid
  simp only [MethodHealthQueryFields.postInit, bind_ok_iff, requireUlid_ok_iff,
    liftDomain_ok_iff] at hvalid
  obtain ⟨_, hm, _, ha, method, hmethod, -⟩ := hvalid
  simp only [MethodHealthFields.postInit, MethodHealthQuery.normalReading, bind_ok_iff,
    requireUlid_ok_iff, liftDomain_ok_iff, requireIdentifier_ok_iff]
  refine ⟨(), hm, (), ha, method, hmethod, _, ⟨rfl, rfl⟩, _, ⟨rfl, rfl⟩, ?_⟩
  exact raiseIf_of_not _ fun h => h.1 rfl

/-- The reading of a row passes its check exactly when the row's labels do. -/
theorem postInit_incidentReading_iff {incident : IncidentRow} {evidenceAt : Timestamp}
    (hbound : incident.Bound query) :
    (query.incidentReading now evidenceAt incident).postInit = .ok () ↔ incident.Readable := by
  obtain ⟨-, -, hid, -, hstate⟩ := hbound
  have hvalid := query.valid
  simp only [MethodHealthQueryFields.postInit, bind_ok_iff, requireUlid_ok_iff, hid,
    liftDomain_ok_iff] at hvalid
  obtain ⟨_, hm, _, ha, method, hmethod, hulid⟩ := hvalid
  simp only [MethodHealthFields.postInit, bind_ok_iff, requireUlid_ok_iff, liftDomain_ok_iff,
    requireIdentifier_ok_iff, MethodHealthQuery.incidentReading]
  constructor
  · intro h
    obtain ⟨_, -, _, -, _, -, _, ⟨hdetector, -⟩, _, ⟨hthreshold, -⟩, -⟩ := h
    exact ⟨hdetector, hthreshold⟩
  · intro h
    refine ⟨(), hm, (), ha, method, hmethod, _, ⟨h.1, rfl⟩, _, ⟨h.2, rfl⟩, (), hulid, ?_⟩
    exact raiseIf_of_not _ fun hnone => absurd hnone.2 (by simp)

/-- What a read can return: normal for a case without an incident, else the row
the case names. -/
theorem fetchFreshMethodHealth_ok_iff {health : FreshMethodHealthTruth} :
    fetchFreshMethodHealth incidents now query = .ok health ↔
      (query.incidentId = none ∧ health.toMethodHealthFields = query.normalReading now) ∨
      ∃ evidence incident, incidents.evidenceObservedAt = some evidence ∧
        incident ∈ incidents.rows ∧ incident.Bound query ∧
        health.toMethodHealthFields =
          query.incidentReading now (evidence incident) incident := by
  unfold fetchFreshMethodHealth
  cases hid : query.incidentId with
  | none =>
    rw [MethodHealthFields.reading_ok_iff]
    refine ⟨fun h => .inl ⟨rfl, h⟩, fun h => ?_⟩
    rcases h with h | ⟨_, incident, -, -, hbound, -⟩
    · exact h.2
    · exact absurd (hid.symm.trans hbound.2.2.1) (by simp)
  | some id =>
    cases hcolumn : incidents.evidenceObservedAt with
    | none => simp
    | some evidence =>
      cases hfind : incidents.rows.find? fun incident => incident.Bound query with
      | none =>
        refine ⟨fun h => absurd h (by simp), fun h => ?_⟩
        rcases h with h | ⟨_, incident, -, hmem, hbound, -⟩
        · exact absurd h.1 (by simp)
        · exact absurd hbound (by simpa using List.find?_eq_none.mp hfind incident hmem)
      | some found =>
        have hmem := List.mem_of_find?_eq_some hfind
        have hbound : found.Bound query := by simpa using List.find?_some hfind
        simp only [MethodHealthFields.reading_ok_iff]
        constructor
        · intro h
          exact .inr ⟨evidence, found, rfl, hmem, hbound, h⟩
        · intro h
          rcases h with h | ⟨evidence', incident, hsome, hmem', hbound', h⟩
          · exact absurd h.1 (by simp)
          · -- the id is the key of the table, so there is one such row
            obtain rfl := Option.some.inj hsome
            have hsame : incident.id = found.id :=
              Option.some.inj (hbound'.2.2.1.symm.trans hbound.2.2.1)
            obtain rfl := List.inj_on_of_nodup_map incidents.primaryKey hmem' hmem hsame
            exact h

/-! ## The exact condition -/

section

variable [Hashlib]

/-- A reading that is not `CONFIRMED` lets a link through. -/
theorem confirmed_of_heeded {outcome : Except ControlPlaneError FreshMethodHealthTruth}
    {health : FreshMethodHealthTruth} (h : Heeded outcome) (hread : outcome = .ok health) :
    health.incidentState = .confirmed := by
  by_contra hhealthy
  let o : LinkOffer := ⟨⟨12500, "INR", rfl⟩, "upi", by decide, rfl⟩
  let c : GateContext := {
    merchantId := LinkOffer.merchantId
    caseId := LinkOffer.caseId
    evaluatedAt := sampleDeadline
    aggregateVersion := 0
    expectedAggregateVersion := 0
    recoveryState := .actionQueued
    snapshot := {
      paymentState := .unpaid
      amountDue := o.amount
      paymentMethod := o.method
      observedAt := sampleDeadline
      activeInstrumentCount := 0
      incidentState := health.incidentState
      methodHealthObservedAt := sampleDeadline
      paymentMethodOk := o.methodOk }
    environmentEffectsEnabled := true
    observationDeadline := some sampleDeadline
    durableIntentRecorded := true
    valid := by simp only [GateContextFields.postInit]; rfl }
  have hfits : o.Fits c := {
    merchantId := rfl
    caseId := rfl
    observable := le_refl _
    running := (by decide : sampleDeadline < sampleExpiry)
    version := rfl
    state := List.mem_cons_self ..
    effectsEnabled := rfl
    globalSwitch := rfl
    merchantSwitch := rfl
    observed := rfl
    unpaid := rfl
    truthObserved := rfl
    noInstrument := rfl
    amount := rfl
    method := rfl
    healthObserved := rfl
    healthy := hhealthy
    attempts := rfl
    noAbstention := rfl
    noReview := rfl
    durableIntent := rfl }
  obtain ⟨d, heval, -, hallowed⟩ := DeterministicGate.allowed_of_cleared (o.cleared hfits)
  have hdenied := ((h health hread).2 o.gate .effect o.proposal c _ d rfl rfl heval).1
  exact absurd (hallowed.symm.trans hdenied) (by simp)

/-- **When an incident reaches the gate.** A reading of a method's health is
heeded exactly when the case names an incident, and the active incident of this
scope that it names, where the row can be read, is a confirmed one. -/
theorem heeded_iff :
    Heeded (fetchFreshMethodHealth incidents now query) ↔
      query.incidentId ≠ none ∧
        ∀ incident ∈ incidents.rows, incident.Bound query →
          incidents.evidenceObservedAt ≠ none → incident.Readable →
            incident.state = .confirmed := by
  constructor
  · intro h
    constructor
    · intro hnone
      have hread : fetchFreshMethodHealth incidents now query =
          .ok ⟨query.normalReading now, postInit_normalReading⟩ :=
        fetchFreshMethodHealth_ok_iff.mpr (.inl ⟨hnone, rfl⟩)
      exact (h _ hread).1 rfl
    · intro incident hmem hbound hcolumn hreadable
      obtain ⟨evidence, hevidence⟩ := Option.ne_none_iff_exists'.mp hcolumn
      have hread : fetchFreshMethodHealth incidents now query =
          .ok ⟨query.incidentReading now (evidence incident) incident,
            (postInit_incidentReading_iff hbound).mpr hreadable⟩ :=
        fetchFreshMethodHealth_ok_iff.mpr (.inr ⟨evidence, incident, hevidence, hmem, hbound, rfl⟩)
      exact confirmed_of_heeded h hread
  · rintro ⟨hnamed, hconfirmed⟩ health hread
    rcases fetchFreshMethodHealth_ok_iff.mp hread with
      ⟨hnone, -⟩ | ⟨evidence, incident, hcolumn, hmem, hbound, hfields⟩
    · exact absurd hnone hnamed
    · have hreadable : incident.Readable := by
        have hvalid : (query.incidentReading now (evidence incident) incident).postInit = .ok () := by
          rw [← hfields]
          exact health.valid
        exact (postInit_incidentReading_iff hbound).mp hvalid
      have hstate : health.incidentState = .confirmed := by
        rw [hfields]
        exact hconfirmed incident hmem hbound (by simp [hcolumn]) hreadable
      refine ⟨by rw [hstate]; simp, ?_⟩
      intro gate stage p c priorPlan d hcreate hsnapshot heval
      have hmem := unhealthy_mem_reasons hcreate (hsnapshot.trans hstate) heval
      refine ⟨?_, hmem⟩
      rw [GateDecision.allowed, List.isEmpty_eq_false_iff]
      exact List.ne_nil_of_mem hmem

end

/-! ## A confirmed incident nobody hears of -/

/-- A case that carries no incident. -/
def sampleHealthQuery : MethodHealthQuery where
  merchantId := LinkOffer.merchantId
  providerAccountId := "01K0000000000000000000000A"
  paymentMethod := "upi"
  incidentId := none
  valid := rfl

/-- A confirmed incident of the same method, an hour from its expiry. -/
def sampleIncident : IncidentRow where
  id := "01K0000000000000000000000B"
  merchantId := sampleHealthQuery.merchantId
  providerAccountId := sampleHealthQuery.providerAccountId
  paymentMethod := sampleHealthQuery.paymentMethod
  instrumentKey := "upi:all"
  state := .confirmed
  expiresAt := sampleExpiry
  detectorVersion := "incident-detector-v1"
  thresholdVersion := "incident-threshold-v1"

/-- The case without an incident is told `NORMAL` while the incident is confirmed. -/
theorem not_heeded_sampleIncident :
    ∃ incidents : IncidentTable, sampleIncident ∈ incidents.rows ∧
      sampleIncident.state = .confirmed ∧ sampleDeadline < sampleIncident.expiresAt ∧
      sampleIncident.merchantId = sampleHealthQuery.merchantId ∧
      sampleIncident.providerAccountId = sampleHealthQuery.providerAccountId ∧
      sampleIncident.paymentMethod = sampleHealthQuery.paymentMethod ∧
      ¬Heeded (fetchFreshMethodHealth incidents sampleDeadline sampleHealthQuery) := by
  refine ⟨⟨[sampleIncident], none, List.nodup_singleton _⟩, List.mem_singleton_self _, rfl,
    by decide, rfl, rfl, rfl, fun h => ?_⟩
  have hread : fetchFreshMethodHealth ⟨[sampleIncident], none, List.nodup_singleton _⟩
      sampleDeadline sampleHealthQuery =
        .ok ⟨sampleHealthQuery.normalReading sampleDeadline, postInit_normalReading⟩ :=
    fetchFreshMethodHealth_ok_iff.mpr (.inl ⟨rfl, rfl⟩)
  exact (h _ hread).1 rfl

end Retrywise.ControlPlane
