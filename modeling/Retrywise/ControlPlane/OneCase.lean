import Retrywise.ControlPlane.OpenCases

/-!
# One case for a failed payment

That a failure of a payment has been projected is remembered in one place, the marker in
the payment's own error facts. A failure that finds a failed payment with the marker of
another event opens no case.

> Where each failure that is projected behind an enrichment finds the payment still marked,
> or an open case, the failures of a payment open at most one case
> (`opens_at_most_one_case`).

An enrichment replaces the facts, marker and all, by what the provider says of the failure.
The next failure of the payment then finds none, and opens a second case once the first is
closed.
-/

namespace Retrywise.ControlPlane

open Retrywise.Foundation Retrywise.Domain

/-- The step projects a failure of the payment, and creates a case. -/
def OpensCaseOf (providerPaymentId : String) (s : MoneyStep) : Prop :=
  ∃ d stored payment result, s.cmd = .projectNormalized d ∧
    s.pre.storedEvent d.eventRecordId = some stored ∧ stored.event.Fails payment ∧
    payment.providerPaymentId = providerPaymentId ∧ s.out = some result ∧
    result.recoveryCaseCreated = true

/-- The step is an enrichment that replaces the facts of the payment. -/
def Rewrites (providerPaymentId : String) (s : MoneyStep) : Prop :=
  ∃ e p, s.cmd = .enrich e ∧ e.command.providerPaymentId = providerPaymentId ∧
    s.pre.ledger.payment providerPaymentId = some p ∧ e.appliesToPayment p = true

/-- An enrichment has replaced the facts since a failure of the payment opened a case. -/
def RewrittenSince (providerPaymentId : String) (past : List MoneyStep) : Prop :=
  ∃ before t after, past = before ++ t :: after ∧ OpensCaseOf providerPaymentId t ∧
    ∃ u ∈ after, Rewrites providerPaymentId u

/-- A failure of the payment that is projected behind such an enrichment finds the payment
in no state it may fail from, or failed and marked again, or its order with an open case. -/
def MarkedAgain (providerPaymentId : String) (past : List MoneyStep) (s : MoneyStep) : Prop :=
  ∀ d stored payment target, s.cmd = .projectNormalized d →
    s.pre.storedEvent d.eventRecordId = some stored → stored.event.Fails payment →
    payment.providerPaymentId = providerPaymentId → RewrittenSince providerPaymentId past →
    s.pre.ledger.captureTarget providerPaymentId = some target →
    target.payment.status ∉ safePreFailurePaymentStates ∨
      target.payment.status = .failed ∧ target.payment.marker ≠ .ok none ∨
      (s.pre.ledger.openCase target.order).isSome = true

/-- The event is stored, and no delivery projects it any more. -/
def Books.Settled (books : MoneyBooks) (eventRecordId : String) : Prop :=
  ∃ stored, books.storedEvent eventRecordId = some stored ∧ stored.inbox.status ∈ settledStatuses

theorem rewrittenSince_concat {providerPaymentId : String} {past : List MoneyStep}
    {s : MoneyStep} (h : RewrittenSince providerPaymentId past) :
    RewrittenSince providerPaymentId (past ++ [s]) := by
  obtain ⟨before, t, after, hsplit, hopens, u, hu, hrewrites⟩ := h
  refine ⟨before, t, after ++ [s], ?_, hopens, u, List.mem_append_left _ hu, hrewrites⟩
  rw [hsplit, List.append_assoc, List.cons_append]

theorem rewrittenSince_of_mem {providerPaymentId : String} {past : List MoneyStep}
    {s t : MoneyStep} (ht : t ∈ past) (hopens : OpensCaseOf providerPaymentId t)
    (hrewrites : Rewrites providerPaymentId s) :
    RewrittenSince providerPaymentId (past ++ [s]) := by
  obtain ⟨before, after, hsplit⟩ := List.append_of_mem ht
  refine ⟨before, t, after ++ [s], ?_, hopens, s, by simp, hrewrites⟩
  rw [hsplit, List.append_assoc, List.cons_append]

/-! ## Markers -/

/-- The marker a failure leaves is that of its event, when it is one. -/
theorem marker_fail {p : StoredPayment} {payment : FailedPayment} {eventRecordId : String}
    {occurredAt : Timestamp} {marker : Option String}
    (h : (p.fail payment eventRecordId occurredAt).marker = .ok marker) :
    marker = some eventRecordId := by
  have hlookup : (p.fail payment eventRecordId occurredAt).errorFacts.lookup markerKey =
      some (.str eventRecordId) := by
    simp [StoredPayment.fail, Facts.concat, markerKey, List.lookup_cons]
  unfold StoredPayment.marker at h
  rw [hlookup] at h
  dsimp only at h
  split_ifs at h
  exact (Except.ok.inj h).symm

/-- An enrichment leaves no marker. -/
theorem marker_observe {p : StoredPayment} {record : PaymentRecordFields}
    {observedAt : Timestamp} : (p.observe record observedAt).marker = .ok none := by
  have hlookup : (p.observe record observedAt).errorFacts.lookup markerKey = none := by
    show record.enrichmentFacts.lookup markerKey = none
    unfold PaymentRecordFields.enrichmentFacts
    split_ifs
    · rfl
    · simp [markerKey, List.lookup_cons]
  unfold StoredPayment.marker
  rw [hlookup]

/-- A payment whose failure has opened a case: it is in no state a failure accepts, or it
has failed and is marked, unless an enrichment came behind; and the event that marks it is
settled. -/
structure StoredPayment.Spent (p : StoredPayment) (rewritten : Prop) (books : MoneyBooks) :
    Prop where
  kept : rewritten ∨ p.status ∉ safePreFailurePaymentStates ∨
    p.status = .failed ∧ p.marker ≠ .ok none
  settled : p.status = .failed → ∀ id, p.marker = .ok (some id) → books.Settled id

/-! ## A failure that opens a case -/

section

variable {referenceIdOf : String → String} {s : MoneyStep} {providerPaymentId : String}

/-- A projection of a failure settles its event, or leaves the books. -/
theorem settled_or_same {d : EventDelivery} (htakes : (moneyMachine referenceIdOf).Takes s)
    (hcmd : s.cmd = .projectNormalized d) :
    s.post.ledger = s.pre.ledger ∨ s.post.Settled d.eventRecordId := by
  obtain ⟨pre, cmd, post, out⟩ := s
  obtain rfl : cmd = .projectNormalized d := hcmd
  obtain ⟨⟨books, result⟩, hbooks, hpure⟩ := bind_ok_iff.mp htakes
  obtain ⟨rfl, rfl⟩ := Prod.mk.inj (pure_ok_iff.mp hpure)
  have hleft : ∀ {stored : StoredEvent CanonicalEvent} {ledger : Ledger}
      {prepared : Prepared FailurePlan},
      normalizedProjector.plan d pre stored = .ok (ledger, prepared) → ledger = pre.ledger := by
    intro stored ledger prepared hplan
    rcases Projector.plan_ok hplan with ⟨-, rfl, -⟩ | ⟨-, canonical, -, hprepare⟩
    · rfl
    · unfold normalizedProjector at hprepare
      dsimp only at hprepare
      split_ifs at hprepare
      · exact (Prod.mk.inj (Except.ok.inj hprepare)).1.symm
      · obtain ⟨payment, -, hprepare⟩ := bind_ok_iff.mp hprepare
        obtain ⟨plan, -, hprepare⟩ := bind_ok_iff.mp hprepare
        exact (Prod.mk.inj (pure_ok_iff.mp hprepare)).1.symm
  have hproject : normalizedProjector.project d pre = .ok (books, result) := hbooks
  show books.ledger = pre.ledger ∨ books.Settled d.eventRecordId
  cases project_ok hproject with
  | settled stored hstored hsettled => exact .inr ⟨stored, hstored, hsettled⟩
  | exhausted stored ledger prepared inbox _ _ hplan _ => exact .inl (hleft hplan)
  | ignored stored ledger reason inbox _ _ hplan _ => exact .inl (hleft hplan)
  | deferred stored ledger reason enrichment inbox _ _ hplan _ => exact .inl (hleft hplan)
  | moved stored ledger moved plan inbox result hstored _ _ _ _ hinbox =>
    refine .inr ⟨{ stored with inbox := inbox }, ?_, by rw [hinbox]; decide⟩
    rw [Books.storedEvent_write hstored, if_pos rfl]

/-- The failure of a step that opens a case, and the rows it has found. -/
structure Opening (providerPaymentId : String) (s : MoneyStep) (d : EventDelivery)
    (stored : StoredEvent CanonicalEvent) (payment : FailedPayment) (target : CaptureTarget)
    (marker : Option String) : Prop where
  command : s.cmd = .projectNormalized d
  found : s.pre.storedEvent d.eventRecordId = some stored
  pending : s.pre.Open stored
  event : stored.event.Fails payment
  named : payment.providerPaymentId = providerPaymentId
  rows : s.pre.ledger.captureTarget providerPaymentId = some target
  read : target.payment.marker = .ok marker
  status : target.payment.status ∈ safePreFailurePaymentStates
  opens : OpensCase s.pre.ledger target marker stored.event.id d.newId
  created : s.post.ledger.recoveryCases =
    s.pre.ledger.recoveryCases ++ [observingCase d.newId target.order]
  marked : s.post.ledger.payment providerPaymentId = some
    (target.payment.afterFailure marker payment stored.event.id stored.event.providerOccurredAt)

theorem opensCaseOf_ok (hkeyed : s.pre.ledger.Keyed)
    (htakes : (moneyMachine referenceIdOf).Takes s) (hopens : OpensCaseOf providerPaymentId s) :
    ∃ d stored payment target marker,
      Opening providerPaymentId s d stored payment target marker := by
  obtain ⟨d, stored, payment, result, hcmd, hstored, hevent, hpaymentId, hout, hcreated⟩ := hopens
  obtain ⟨pre, cmd, post, out⟩ := s
  obtain rfl : cmd = .projectNormalized d := hcmd
  obtain ⟨⟨books, projected⟩, hbooks, hpure⟩ := bind_ok_iff.mp htakes
  obtain ⟨rfl, rfl⟩ := Prod.mk.inj (pure_ok_iff.mp hpure)
  obtain rfl := Option.some.inj hout
  obtain ⟨other, hother, houtcome⟩ := normalized_project_ok hbooks
  obtain rfl := Option.some.inj (hstored.symm.trans hother)
  generalize hledger : books.ledger = after at houtcome
  cases houtcome with
  | passed _ hnot =>
    rw [hcreated] at hnot
    exact absurd hnot (by simp)
  | failed payment' providerOrderId target after _ hopen hevent' _ htarget haccepted hcarried =>
    obtain rfl : payment' = payment := hevent'.unique hevent
    obtain ⟨hmem, htargetId, -, -⟩ := Ledger.captureTarget_rows htarget
    obtain ⟨marker, hmarker, -, -, hpayments, hcases⟩ := carryOutFailure_ok hkeyed hmem hcarried
    rcases hcases with ⟨-, hnot⟩ | ⟨hcase, hcreatedCase, -⟩
    · rw [hcreated] at hnot
      exact absurd hnot (by simp)
    · obtain ⟨hid, hproviderId, -⟩ := target.payment.afterFailure_terms marker payment'
        stored.event.id stored.event.providerOccurredAt
      refine ⟨d, stored, payment', target, marker, rfl, hstored, hopen, hevent, hpaymentId,
        hpaymentId ▸ htarget, hmarker, status_of_failureRefusal haccepted, hcase,
        hledger ▸ hcreatedCase, ?_⟩
      show books.ledger.payment providerPaymentId = _
      rw [hledger]
      unfold Ledger.payment
      rw [hpayments]
      exact (Ledger.payment_put hkeyed hmem hid hproviderId).trans
        (if_pos (hpaymentId.symm.trans htargetId.symm))

theorem settled_mono {id : String} (htakes : (moneyMachine referenceIdOf).Takes s)
    (h : s.pre.Settled id) : s.post.Settled id := by
  obtain ⟨stored, hstored, hstatus⟩ := h
  exact ⟨stored, storedEvent_of_settled htakes hstored hstatus, hstatus⟩

/-- A step that creates a case leaves its payment spent. -/
theorem Opening.spent {d : EventDelivery} {stored : StoredEvent CanonicalEvent}
    {payment : FailedPayment} {target : CaptureTarget} {marker : Option String}
    (h : Opening providerPaymentId s d stored payment target marker)
    (htakes : (moneyMachine referenceIdOf).Takes s) {rewritten : Prop} :
    (target.payment.afterFailure marker payment stored.event.id
      stored.event.providerOccurredAt).Spent rewritten s.post := by
  have hsettled : s.post.Settled stored.event.id := by
    have hrecord : stored.event.id = d.eventRecordId := Books.id_of_storedEvent h.found
    rcases settled_or_same htakes h.command with hledger | hsettled
    · have hcreated := h.created
      rw [hledger] at hcreated
      exact absurd hcreated (by simp)
    · rwa [hrecord]
  have hmarks : ∀ other, (target.payment.afterFailure marker payment stored.event.id
      stored.event.providerOccurredAt).marker = .ok other → other = some stored.event.id := by
    intro other hother
    unfold StoredPayment.afterFailure at hother
    by_cases hwrites : target.payment.status ≠ .failed ∨ marker = none
    · rw [if_pos hwrites] at hother
      exact marker_fail hother
    · rw [if_neg hwrites, h.read] at hother
      obtain ⟨hfailed, hmarked⟩ := not_or.mp hwrites
      have hown : marker = some stored.event.id :=
        by_contra fun hnot => h.opens.unmarked ⟨not_not.mp hfailed, hmarked, hnot⟩
      exact (Except.ok.inj hother).symm.trans hown
  refine ⟨.inr (.inr ⟨?_, ?_⟩), ?_⟩
  · unfold StoredPayment.afterFailure
    by_cases hwrites : target.payment.status ≠ .failed ∨ marker = none
    · rw [if_pos hwrites]
      rfl
    · rw [if_neg hwrites]
      exact not_not.mp (not_or.mp hwrites).1
  · intro hnone
    exact absurd (hmarks none hnone) (by simp)
  · intro _ id hid
    obtain rfl := Option.some.inj (hmarks (some id) hid)
    exact hsettled

/-- A spent payment stays spent, whatever is projected or persisted. -/
theorem spent_step {p : StoredPayment} {past : List MoneyStep} (hkeyed : s.pre.ledger.Keyed)
    (htakes : (moneyMachine referenceIdOf).Takes s)
    (hopened : ∃ t ∈ past, OpensCaseOf providerPaymentId t)
    (hp : s.pre.ledger.payment providerPaymentId = some p)
    (hspent : p.Spent (RewrittenSince providerPaymentId past) s.pre) :
    ∃ later, s.post.ledger.payment providerPaymentId = some later ∧
      later.Spent (RewrittenSince providerPaymentId (past ++ [s])) s.post := by
  have hpId : p.providerPaymentId = providerPaymentId := by simpa using List.find?_some hp
  have hsame : p.Spent (RewrittenSince providerPaymentId (past ++ [s])) s.post :=
    ⟨hspent.kept.imp_left rewrittenSince_concat,
      fun hfailed id hid => settled_mono htakes (hspent.settled hfailed id hid)⟩
  obtain ⟨later, hlater, hmove⟩ := (money_step hkeyed htakes).payment hkeyed hp
  refine ⟨later, hlater, ?_⟩
  generalize hcmd : s.cmd = cmd at hmove
  cases hmove with
  | same => exact hsame
  | captured => exact ⟨.inr (.inl (by simp [StoredPayment.capture, safePreFailurePaymentStates])),
      fun hfailed => absurd hfailed (by simp [StoredPayment.capture])⟩
  | failed d stored payment marker hstored hopen hevent hpayment hstatus hmarker =>
    by_cases hwrites : p.status ≠ .failed ∨ marker = none
    · -- the row is marked by this event, whose projection has settled it
      rcases settled_or_same htakes hcmd with hledger | hsettled
      · have heq : some p = some (p.afterFailure marker payment stored.event.id
            stored.event.providerOccurredAt) := by
          rw [← hp, ← hlater, hledger]
        rw [← Option.some.inj heq]
        exact hsame
      · have hrecord : stored.event.id = d.eventRecordId := Books.id_of_storedEvent hstored
        unfold StoredPayment.afterFailure
        rw [if_pos hwrites]
        refine ⟨.inr (.inr ⟨rfl, fun hnone => absurd (marker_fail hnone) (by simp)⟩), ?_⟩
        intro _ id hid
        obtain rfl := Option.some.inj (marker_fail hid)
        rw [hrecord]
        exact hsettled
    · unfold StoredPayment.afterFailure
      rw [if_neg hwrites]
      exact hsame
  | observed e hpayment happlies =>
    obtain ⟨t, ht, hopens⟩ := hopened
    refine ⟨.inl (rewrittenSince_of_mem ht hopens
      ⟨e, p, hcmd, hpayment.trans hpId, hp, happlies⟩), ?_⟩
    intro _ id hid
    rw [marker_observe] at hid
    exact absurd (Except.ok.inj hid) (by simp)

/-- No failure opens a case for a payment that is spent and marked. -/
theorem not_opening_of_spent {d : EventDelivery} {stored : StoredEvent CanonicalEvent}
    {payment : FailedPayment} {target : CaptureTarget} {marker : Option String}
    {past : List MoneyStep}
    (hspent : target.payment.Spent (RewrittenSince providerPaymentId past) s.pre)
    (hcondition : MarkedAgain providerPaymentId past s) :
    ¬Opening providerPaymentId s d stored payment target marker := by
  intro h
  have hunmarked : ¬(target.payment.status = .failed ∧ target.payment.marker ≠ .ok none) := by
    intro hfailed
    obtain ⟨hstatus, hmarked⟩ := hfailed
    have hsome : marker ≠ none := by
      intro hnone
      rw [h.read, hnone] at hmarked
      exact hmarked rfl
    have hown : marker = some stored.event.id :=
      by_contra fun hnot => h.opens.unmarked ⟨hstatus, hsome, hnot⟩
    obtain ⟨settled, hsettled, hsettledStatus⟩ := hspent.settled hstatus stored.event.id
      (h.read.trans (congrArg Except.ok hown))
    have hrecord : stored.event.id = d.eventRecordId := Books.id_of_storedEvent h.found
    rw [hrecord, h.found] at hsettled
    rw [← Option.some.inj hsettled] at hsettledStatus
    exact h.pending.unsettled hsettledStatus
  rcases hspent.kept with hrewritten | hstatus | hfailed
  · rcases hcondition d stored payment target h.command h.found h.event h.named hrewritten h.rows
      with hstatus | hfailed | hopen
    · exact hstatus h.status
    · exact hunmarked hfailed
    · rw [h.opens.none_open] at hopen
      exact absurd hopen (by simp)
  · exact hstatus h.status
  · exact hunmarked hfailed

end

/-! ## Runs -/

/-- At most one step opens a case of the payment. -/
def OpensOnce (providerPaymentId : String) (steps : List MoneyStep) : Prop :=
  steps.Pairwise fun a b => ¬(OpensCaseOf providerPaymentId a ∧ OpensCaseOf providerPaymentId b)

/-- What a run keeps of a payment: one case at most so far, and the payment spent once there
is one. -/
structure OpenedOnce (providerPaymentId : String) (past : List MoneyStep) (books : MoneyBooks) :
    Prop where
  keyed : books.ledger.Keyed
  once : OpensOnce providerPaymentId past
  spent : (∃ t ∈ past, OpensCaseOf providerPaymentId t) →
    ∃ p, books.ledger.payment providerPaymentId = some p ∧
      p.Spent (RewrittenSince providerPaymentId past) books

theorem openedOnce_step {referenceIdOf : String → String} {providerPaymentId : String}
    {past : List MoneyStep} {s : MoneyStep} (h : OpenedOnce providerPaymentId past s.pre)
    (htakes : (moneyMachine referenceIdOf).Takes s)
    (hcondition : MarkedAgain providerPaymentId past s) :
    OpenedOnce providerPaymentId (past ++ [s]) s.post := by
  have hkeyed := (money_step h.keyed htakes).keyed h.keyed
  by_cases hopens : OpensCaseOf providerPaymentId s
  · obtain ⟨d, stored, payment, target, marker, hopening⟩ := opensCaseOf_ok h.keyed htakes hopens
    have hpayment := (captureTarget_eq_some_iff.mp hopening.rows).1
    have hfirst : ¬∃ t ∈ past, OpensCaseOf providerPaymentId t := by
      intro hopened
      obtain ⟨p, hp, hspent⟩ := h.spent hopened
      obtain rfl := Option.some.inj (hpayment.symm.trans hp)
      exact not_opening_of_spent hspent hcondition hopening
    refine ⟨hkeyed, List.pairwise_append.mpr ⟨h.once, List.pairwise_singleton _ _, ?_⟩, fun _ =>
      ⟨_, hopening.marked, hopening.spent htakes⟩⟩
    intro t ht _ _ hboth
    exact hfirst ⟨t, ht, hboth.1⟩
  · refine ⟨hkeyed, List.pairwise_append.mpr ⟨h.once, List.pairwise_singleton _ _, ?_⟩, ?_⟩
    · intro t _ last hlast hboth
      rw [List.mem_singleton.mp hlast] at hboth
      exact hopens hboth.2
    · intro hopened
      obtain ⟨t, ht, htOpens⟩ := hopened
      have hpast : ∃ t ∈ past, OpensCaseOf providerPaymentId t := by
        rcases List.mem_append.mp ht with ht | ht
        · exact ⟨t, ht, htOpens⟩
        · rw [List.mem_singleton.mp ht] at htOpens
          exact absurd htOpens hopens
      obtain ⟨p, hp, hspent⟩ := h.spent hpast
      exact spent_step h.keyed htakes hpast hp hspent

/-- **One case for a failed payment.** Let events arrive, be projected and redelivered,
enrichments persist and cases be closed, in any order: where each failure of the payment
that is projected behind an enrichment of it finds it marked again, or its order with an
open case, at most one case is created for the payment. -/
theorem opens_at_most_one_case {referenceIdOf : String → String} {init final : MoneyBooks}
    {steps : List MoneyStep} {providerPaymentId : String}
    (hrun : (moneyMachine referenceIdOf).Run init steps final) (hkeyed : init.ledger.Keyed)
    (hcondition : Along (MarkedAgain providerPaymentId) steps) :
    OpensOnce providerPaymentId steps := by
  have hinit : OpenedOnce providerPaymentId [] init :=
    ⟨hkeyed, List.Pairwise.nil, fun h => by simp at h⟩
  exact (Machine.Run.history (H := OpenedOnce providerPaymentId) hinit
    (fun _ _ _ h htakes hg => openedOnce_step h htakes hg) hrun hcondition).once

/-! ## Two failures of one payment -/

/-- A failure of the payment under an event id of its own. -/
def firstFailureId : String := "01HZZZZZZZZZZZZZZZZZZZZZZ1"

def secondFailureId : String := "01HZZZZZZZZZZZZZZZZZZZZZZ2"

/-- The id of the case the first failure opens. -/
def firstCaseId : String := "01HZZZZZZZZZZZZZZZZZZZZZZC"

/-- The first failure opens a case. -/
def firstFailureCommands : List MoneyCommand :=
  [.store (failureEvent firstFailureId 1),
    .projectNormalized (sampleDelivery firstFailureId firstCaseId 2)]

/-- The case of the first failure, once it has been given up. -/
def exhaustedCase : CaseRow where
  state := .exhausted
  version := 2
  observationContractVersion := 1
  lastActionId := none
  terminalReasonCode := some "budget_exhausted"
  terminalAt := some (clock 4)

/-- The second failure comes behind the end of the case. -/
def secondFailureCommands : List MoneyCommand :=
  [.moveCase firstCaseId { exhaustedCase with
      state := .assessing, version := 1, terminalReasonCode := none, terminalAt := none },
    .moveCase firstCaseId exhaustedCase,
    .store (failureEvent secondFailureId 5),
    .projectNormalized (sampleDelivery secondFailureId "01HZZZZZZZZZZZZZZZZZZZZZZD" 6)]

def rewrittenCommands : List MoneyCommand :=
  firstFailureCommands ++ [.enrich (sampleEnrichment attemptedRecord 3)] ++ secondFailureCommands

/-- Where nothing rewrites the payment, its second failure finds it marked. -/
theorem opens_at_most_one_case_marked :
    let commands := firstFailureCommands ++ secondFailureCommands
    ((moneyMachine id).play attemptedBooks commands).2.ledger.recoveryCases.length = 1 ∧
      OpensOnce "pay_A" ((moneyMachine id).play attemptedBooks commands).1 := by
  refine ⟨by decide, opens_at_most_one_case (Machine.Run.of_play (moneyMachine id) attemptedBooks
    (firstFailureCommands ++ secondFailureCommands)) attemptedLedger_keyed ?_⟩
  intro past s rest hsplit d stored payment target _ _ _ _ hrewritten _
  obtain ⟨before, t, after, hpast, -, u, hu, e, p, hcmd, -⟩ := hrewritten
  have hmem := Machine.Run.cmd_mem_of_play u (by rw [hsplit, hpast]; simp [hu])
  rw [hcmd] at hmem
  exact absurd hmem (by simp [firstFailureCommands, secondFailureCommands])

/-- Behind an enrichment the second failure finds no marker, and opens a case of its own. -/
theorem opens_two_cases :
    ∃ (init final : MoneyBooks) (steps : List MoneyStep),
      (moneyMachine id).Run init steps final ∧ init.ledger.Keyed ∧ init.ledger.Related ∧
        (∀ s ∈ steps, (s.post.ledger.order "order").map LogicalOrder.canonicalTruth =
          some .unpaid) ∧ ¬OpensOnce "pay_A" steps := by
  refine ⟨_, _, _, Machine.Run.of_play (moneyMachine id) attemptedBooks rewrittenCommands,
    attemptedLedger_keyed, attemptedLedger_related, by decide, ?_⟩
  intro h
  refine List.pairwise_iff_getElem.mp h 1 6 (by decide) (by decide) (by decide) ⟨?_, ?_⟩
  · exact ⟨_, _, _, _, rfl, rfl, ⟨rfl, _, rfl, rfl⟩, rfl, rfl, rfl⟩
  · exact ⟨_, _, _, _, rfl, rfl, ⟨rfl, _, rfl, rfl⟩, rfl, rfl, rfl⟩

end Retrywise.ControlPlane
