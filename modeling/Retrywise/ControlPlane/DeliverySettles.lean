import Retrywise.ControlPlane.JobEnds
import Retrywise.ControlPlane.LinkRuns

/-!
# When a delivery settles its job

A delivery whose ports all answer is to leave a job that is no longer leased. What can
still keep it from that is one text and three dates: the denial codes of a delivery
whose plan does not match are written into the job with a prefix, and the job takes no
more than 512 characters; the horizon of the gate, the latest expiry of a request and
the time of the next attempt have to be on the calendar.

> `settles_iff`: a delivery under a lease it keeps settles its job exactly when its
> denial codes fit, where its plan does not match, and the dates it needs exist.
-/

namespace Retrywise.ControlPlane

open Retrywise.Foundation Retrywise.Domain

/-- The call returned, and left the job one version on and no longer leased. -/
def Settles (job : OutboxJob) (outcome : Except ControlPlaneError ExecutionResult) : Prop :=
  ∃ result, outcome = .ok result ∧
    result.job.state ∈ [OutboxState.completed, .pending, .deadLetter] ∧
    result.job.version = job.version + 1

/-! ## The length of a denial -/

/-- `",".join(reason.value for reason in effect.reasons)`. -/
def reasonValues (reasons : List GateReason) : String :=
  String.intercalate "," (reasons.map GateReason.value)

/-- The number of characters of the codes, with the commas between them. -/
def codesLength : List GateReason → Nat
  | [] => 0
  | [reason] => reason.value.toList.length
  | reason :: next :: rest => reason.value.toList.length + 1 + codesLength (next :: rest)

theorem length_reasonValues (reasons : List GateReason) :
    (reasonValues reasons).toList.length = codesLength reasons := by
  unfold reasonValues
  induction reasons with
  | nil => rfl
  | cons reason rest ih =>
    cases rest with
    | nil => rw [List.map_cons, List.map_nil, String.intercalate_singleton, codesLength]
    | cons next more =>
      rw [List.map_cons] at ih
      rw [List.map_cons, List.map_cons, String.intercalate_cons_cons, String.toList_append,
        String.toList_append, List.length_append, List.length_append, ih, codesLength]
      rfl

/-- A code is graphic, and of no more than 36 characters. -/
theorem value_graphic (reason : GateReason) :
    (reason.value.toList.all (fun c => decide (33 ≤ c.toNat) && decide (c.toNat < 127)) &&
      decide (reason.value.toList.length ≤ 36)) = true := by
  cases reason <;> decide +kernel

/-- Thirteen codes fit, whichever they are. -/
theorem codesLength_le (reasons : List GateReason) :
    codesLength reasons ≤ 37 * reasons.length := by
  induction reasons with
  | nil => exact Nat.le_refl _
  | cons reason rest ih =>
    have hfirst := value_graphic reason
    simp only [Bool.and_eq_true, decide_eq_true_eq] at hfirst
    cases rest with
    | nil =>
      show reason.value.toList.length ≤ 37 * 1
      omega
    | cons next more =>
      rw [List.length_cons, codesLength]
      omega

/-- Codes are graphic, and so are the commas. -/
theorem graphic_reasonValues (reasons : List GateReason) :
    ∀ c ∈ (reasonValues reasons).toList, 33 ≤ c.toNat ∧ c.toNat < 127 := by
  have hcode : ∀ reason : GateReason, ∀ c ∈ reason.value.toList,
      33 ≤ c.toNat ∧ c.toNat < 127 := by
    intro reason c hc
    have hgraphic := value_graphic reason
    rw [Bool.and_eq_true] at hgraphic
    simpa using List.all_eq_true.mp hgraphic.1 c hc
  unfold reasonValues
  induction reasons with
  | nil =>
    intro c hc
    exact absurd hc (by simp)
  | cons reason rest ih =>
    cases rest with
    | nil =>
      rw [List.map_cons, List.map_nil, String.intercalate_singleton]
      exact hcode reason
    | cons next more =>
      rw [List.map_cons] at ih
      rw [List.map_cons, List.map_cons, String.intercalate_cons_cons, String.toList_append,
        String.toList_append]
      intro c hc
      rcases List.mem_append.mp hc with hc | hc
      · rcases List.mem_append.mp hc with hc | hc
        · exact hcode reason c hc
        · rw [List.mem_singleton.mp (show c ∈ [','] from hc)]
          decide
      · exact ih c hc

/-- The reason of an authorization fault is one the job takes if its codes fit. -/
theorem isCleanText_fault_iff (reasons : List GateReason) :
    isCleanText 512 ("effect_authorization_fault:" ++ reasonValues reasons) = true ↔
      codesLength reasons ≤ 485 := by
  have hlead : "effect_authorization_fault:".toList.length = 27 := by decide
  have hgraphic : ∀ c ∈ "effect_authorization_fault:".toList, 33 ≤ c.toNat ∧ c.toNat < 127 :=
    graphic_of_all (by decide)
  rw [isCleanText_iff_of_graphic, String.toList_append, List.length_append, length_reasonValues,
    hlead]
  · omega
  · rw [String.toList_append]
    intro hnil
    exact absurd (List.append_eq_nil_iff.mp hnil).1 (by decide)
  · rw [String.toList_append]
    intro c hc
    rcases List.mem_append.mp hc with hc | hc
    · exact hgraphic c hc
    · exact graphic_reasonValues reasons c hc

/-! ## The request and its dates -/

/-- The sixth month from now is one of the calendar. -/
def SixMonthsOn (now : Timestamp) : Prop :=
  now.civilDate.1 + (now.civilDate.2.1 - 1 + 6) / 12 ≤ 9999

instance (now : Timestamp) : Decidable (SixMonthsOn now) := inferInstanceAs (Decidable (_ ≤ _))

theorem sixCalendarMonthsAfter_ok_iff {now : Timestamp} :
    (∃ latest, sixCalendarMonthsAfter now = .ok latest) ↔ SixMonthsOn now := by
  unfold sixCalendarMonthsAfter SixMonthsOn
  dsimp only
  by_cases hyear : now.civilDate.1 + (now.civilDate.2.1 - 1 + 6) / 12 > 9999
  · rw [if_pos hyear]
    exact ⟨fun h => absurd h (by simp), fun h => absurd hyear (not_lt.mpr h)⟩
  · rw [if_neg hyear]
    exact ⟨fun _ => not_lt.mp hyear, fun _ => ⟨_, rfl⟩⟩

/-- What `validate_expiry` can say against a request. -/
def expiryRefusals : List String :=
  ["now_epoch must be a non-negative integer epoch",
    "expire_by_epoch must be at least 15 minutes in the future",
    "expire_by_epoch cannot be more than six calendar months ahead"]

/-- The latest expiry of the request is looked up. -/
def AsksForMonth (r : RequestFields) (now : Timestamp) : Prop :=
  0 ≤ epochSeconds now ∧ epochSeconds now + minExpiryLeadSeconds ≤ r.expireByEpoch

/-- Where the latest expiry has a date, the expiry is accepted, or refused with one of
the texts. -/
theorem validateExpiry_cases {r : RequestFields} {now : Timestamp}
    (h : AsksForMonth r now → SixMonthsOn now) :
    r.validateExpiry now = .ok () ∨
      ∃ message ∈ expiryRefusals, r.validateExpiry now = .error (.paymentLink message) := by
  unfold RequestFields.validateExpiry
  by_cases hepoch : epochSeconds now < 0
  · exact .inr ⟨_, List.mem_cons_self .., bind_of_error (raiseIf_of _ hepoch) _⟩
  · by_cases hsoon : (r.expireByEpoch : Int) < epochSeconds now + minExpiryLeadSeconds
    · refine .inr ⟨_, List.mem_cons_of_mem _ (List.mem_cons_self ..), ?_⟩
      simp only [bind_of_ok (raiseIf_of_not _ hepoch)]
      exact bind_of_error (raiseIf_of _ hsoon) _
    · obtain ⟨latest, hlatest⟩ := sixCalendarMonthsAfter_ok_iff.mpr
        (h ⟨not_lt.mp hepoch, not_lt.mp hsoon⟩)
      simp only [bind_of_ok (raiseIf_of_not _ hepoch), bind_of_ok (raiseIf_of_not _ hsoon),
        bind_of_ok hlatest]
      by_cases hlate : (r.expireByEpoch : Int) > latest
      · exact .inr ⟨_, by simp [expiryRefusals], raiseIf_of _ hlate⟩
      · exact .inl (raiseIf_of_not _ hlate)

/-- Where it has none, that is what is raised. -/
theorem validateExpiry_of_no_month {r : RequestFields} {now : Timestamp}
    (hasks : AsksForMonth r now) (hmonth : ¬SixMonthsOn now) :
    ∃ message, r.validateExpiry now = .error (.invalidValue message) := by
  obtain ⟨hepoch, hsoon⟩ := hasks
  have hraises : ∃ message, sixCalendarMonthsAfter now = .error (.invalidValue message) := by
    unfold sixCalendarMonthsAfter
    dsimp only
    exact ⟨_, if_pos (not_le.mp hmonth)⟩
  obtain ⟨message, hmessage⟩ := hraises
  refine ⟨message, ?_⟩
  unfold RequestFields.validateExpiry
  simp only [bind_of_ok (raiseIf_of_not _ (not_lt.mpr hepoch)),
    bind_of_ok (raiseIf_of_not _ (not_lt.mpr hsoon))]
  exact bind_of_error hmessage _

/-! ## What a lookup leads to -/

/-- A clean Payment Link text is clean text. -/
theorem isCleanText_of_cleanLinkText {value field : String} {maximum : Nat} {u : Unit}
    (h : cleanLinkText value field maximum = .ok u) : isCleanText maximum value = true := by
  simp only [cleanLinkText, bind_ok_iff, raiseIf_ok_iff, not_or, not_lt, exists_and_left,
    exists_const] at h
  obtain ⟨⟨hsome, hhead, hlast⟩, hlen, hall⟩ := h
  simp only [isCleanText, Bool.and_eq_true, decide_eq_true_eq, Bool.not_eq_true']
  refine ⟨⟨⟨⟨hsome, by simpa using hhead⟩, by simpa using hlast⟩, hlen⟩, ?_⟩
  simpa [List.any_eq_true, List.all_eq_true, not_or, not_lt] using hall

/-- An id that is adopted was read as clean text. -/
theorem clean_of_fromMapping {candidate : Json} {snapshot : PaymentLinkSnapshot}
    (h : PaymentLinkSnapshot.fromMapping candidate = .ok snapshot) :
    isCleanText 128 snapshot.paymentLinkId = true := by
  obtain ⟨-, -, h⟩ := bind_ok_iff.mp h
  obtain ⟨id, hid, h⟩ := bind_ok_iff.mp h
  have hclean : isCleanText 128 id = true := by
    unfold candidateText at hid
    split at hid
    next value _ =>
      obtain ⟨u, hu, rfl⟩ := map_ok_iff.mp hid
      exact isCleanText_of_cleanLinkText hu
    next => exact absurd hid (by simp)
  obtain ⟨_, -, h⟩ := bind_ok_iff.mp h
  -- the other fields only decide whether the candidate is read at all
  dsimp only at h
  repeat' split at h
  all_goals first
    | (rw [← pure_ok_iff.mp h]; exact hclean)
    | exact nomatch h

/-- The reasons a reconciliation gives. -/
def reconciliationReasons : List String :=
  ["lookup_not_completed", "completed_lookup_found_no_link", "malformed_provider_candidate",
    "matching_link_proves_create_succeeded", "provider_candidate_conflicts_with_command",
    "multiple_links_found_for_unique_reference"]

/-- What a reconciliation says is one of its reasons, and what it adopts has a clean id. -/
theorem decideAmbiguousCreate_spec (r : RequestFields) (lookup : PaymentLinkLookupResult) :
    (decideAmbiguousCreate r lookup).reasonCode ∈ reconciliationReasons ∧
      ((decideAmbiguousCreate r lookup).action = .adoptExisting →
        ∃ id, (decideAmbiguousCreate r lookup).paymentLinkId = some id ∧
          isCleanText 128 id = true) := by
  unfold decideAmbiguousCreate
  by_cases hdone : lookup.completed = false
  · rw [if_pos hdone]
    exact ⟨by simp [reconciliationReasons], by simp⟩
  · rw [if_neg hdone]
    cases lookup.candidates with
    | nil => exact ⟨by simp [reconciliationReasons], by simp⟩
    | cons candidate more =>
      cases more with
      | cons second rest => exact ⟨by simp [reconciliationReasons], by simp⟩
      | nil =>
        dsimp only
        cases hread : PaymentLinkSnapshot.fromMapping candidate with
        | error e => exact ⟨by simp [adoptCandidate, reconciliationReasons], by simp [adoptCandidate]⟩
        | ok snapshot =>
          simp only [adoptCandidate]
          by_cases hmatch : snapshot.matchesRequest r = true
          · rw [if_pos hmatch]
            exact ⟨by simp [reconciliationReasons],
              fun _ => ⟨_, rfl, clean_of_fromMapping hread⟩⟩
          · rw [if_neg hmatch]
            exact ⟨by simp [reconciliationReasons], by simp⟩

/-- The reasons leave room for any prefix. -/
theorem clean_reconciliationReasons :
    ∀ reason ∈ reconciliationReasons, isCleanText 64 reason = true := by
  decide +kernel

/-! ## Authorization faults -/

/-- No reason of the list is an authorization fault. -/
def FaultFree (reasons : List GateReason) : Prop := ∀ reason ∈ reasons, reason ∉ authorizationFaults

theorem faultFree_append_iff {a b : List GateReason} :
    FaultFree (a ++ b) ↔ FaultFree a ∧ FaultFree b := List.forall_mem_append

theorem faultFree_append {a b : List GateReason} (ha : FaultFree a) (hb : FaultFree b) :
    FaultFree (a ++ b) := faultFree_append_iff.mpr ⟨ha, hb⟩

theorem faultFree_singleton {reason : GateReason} (h : reason ∉ authorizationFaults) :
    FaultFree [reason] := by
  intro other hother
  rw [List.mem_singleton.mp hother]
  exact h

theorem faultFree_nil : FaultFree [] := fun _ hreason => absurd hreason List.not_mem_nil

theorem faultFree_reasonIf {c : Prop} [Decidable c] {reason : GateReason}
    (h : reason ∉ authorizationFaults) : FaultFree (reasonIf c reason) := by
  by_cases hc : c
  · rw [reasonIf, if_pos hc]
    exact faultFree_singleton h
  · rw [reasonIf, if_neg hc]
    exact faultFree_nil

section

open DeterministicGate

variable [Hashlib] {gate : DeterministicGate} {p : ActionProposal} {c : GateContext}
  {horizon : Timestamp} {plan : GateDecision}

omit [Hashlib] in
theorem faultFree_only {actions : List ActionType} {reasons : List GateReason}
    (h : FaultFree reasons) : FaultFree (only p actions reasons) := by
  unfold only
  split
  next => exact h
  next => exact faultFree_nil

omit [Hashlib] in
theorem faultFree_standing : FaultFree (standingReasons gate p c horizon) := by
  unfold standingReasons
  repeat' apply faultFree_append
  all_goals exact faultFree_reasonIf (by decide)

omit [Hashlib] in
theorem faultFree_switch : FaultFree (switchReasons p c) := by
  unfold switchReasons
  repeat' apply faultFree_append
  all_goals exact faultFree_reasonIf (by decide)

omit [Hashlib] in
theorem faultFree_case {stage : GateStage} : FaultFree (caseReasons stage p c) :=
  faultFree_append (faultFree_reasonIf (by decide)) (faultFree_reasonIf (by decide))

omit [Hashlib] in
theorem faultFree_window : FaultFree (windowReasons c) := by
  unfold windowReasons
  split
  next => exact faultFree_singleton (by decide)
  next => exact faultFree_reasonIf (by decide)

omit [Hashlib] in
theorem faultFree_age {observedAt : Timestamp} {maxAge : Timedelta} {fromFuture stale : GateReason}
    (hfuture : fromFuture ∉ authorizationFaults) (hstale : stale ∉ authorizationFaults) :
    FaultFree (ageReasons c horizon observedAt maxAge fromFuture stale) := by
  unfold ageReasons
  split
  next => exact faultFree_singleton hfuture
  next => exact faultFree_reasonIf hstale

omit [Hashlib] in
theorem faultFree_truth : FaultFree (truthReasons gate c horizon) :=
  faultFree_append (faultFree_reasonIf (by decide)) (faultFree_age (by decide) (by decide))

omit [Hashlib] in
theorem faultFree_instrument : FaultFree (instrumentReasons p c) := by
  unfold instrumentReasons
  split
  next => exact faultFree_reasonIf (by decide)
  next => exact faultFree_reasonIf (by decide)

omit [Hashlib] in
theorem faultFree_amount {amount : Money} : FaultFree (amountReasons p c amount) := by
  refine faultFree_append ?_ (faultFree_reasonIf (by decide))
  split
  next => exact faultFree_singleton (by decide)
  next => exact faultFree_reasonIf (by decide)

omit [Hashlib] in
theorem faultFree_contact : FaultFree (contactReasons gate c) := by
  unfold contactReasons
  repeat' apply faultFree_append
  all_goals exact faultFree_reasonIf (by decide)

omit [Hashlib] in
theorem faultFree_health : FaultFree (healthReasons gate c horizon) := by
  unfold healthReasons
  repeat' apply faultFree_append
  · exact faultFree_age (by decide) (by decide)
  · exact faultFree_reasonIf (by decide)
  · exact faultFree_reasonIf (by decide)

omit [Hashlib] in
theorem faultFree_causes : FaultFree (approvalCauses gate p c) := by
  unfold approvalCauses confidenceCauses
  repeat' apply faultFree_append
  · exact faultFree_reasonIf (by decide)
  · split
    next => exact faultFree_singleton (by decide)
    next => exact faultFree_reasonIf (by decide)
  · exact faultFree_reasonIf (by decide)
  · exact faultFree_reasonIf (by decide)

theorem approvalFailure_not_fault {failure : GateReason}
    (h : approvalFailure p c = some failure) : failure ∉ authorizationFaults := by
  unfold approvalFailure at h
  split at h
  next =>
    rw [← Option.some.inj h]
    decide
  next =>
    split_ifs at h <;> (rw [← Option.some.inj h]; decide)

theorem faultFree_approval : FaultFree (approvalReasons gate p c) := by
  refine faultFree_append (faultFree_reasonIf (by decide)) ?_
  split
  next =>
    split
    next => exact faultFree_nil
    next failure hfailure =>
      exact faultFree_append faultFree_causes
        (faultFree_singleton (approvalFailure_not_fault hfailure))
  next => exact faultFree_nil

/-- Of a create with its intent on record, a fault is found exactly when the plan does
not match. -/
theorem exists_fault_iff (hcreate : p.actionType = .createStandardPaymentLink)
    (hintent : c.durableIntentRecorded = true) :
    (∃ reason ∈ reasons gate .effect p c horizon (some plan), reason ∈ authorizationFaults) ↔
      ¬PlanMatches gate p c plan := by
  have hplan : only p externalActions (planReasons gate p c (some plan)) =
      reasonIf (¬PlanMatches gate p c plan) .planBindingMismatch := by
    rw [only, if_pos (by rw [hcreate]; decide), planReasons]
    simp [reasonIf, hintent]
  unfold reasons
  rw [if_pos rfl, hplan]
  constructor
  · intro h hmatches
    obtain ⟨reason, hreason, hfault⟩ := h
    rcases List.mem_append.mp hreason with hreason | hreason
    · -- none of the other reasons is a fault
      refine (show FaultFree _ from ?_) reason hreason hfault
      simp only [faultFree_append_iff]
      refine ⟨⟨⟨⟨⟨⟨⟨⟨⟨faultFree_standing, faultFree_switch⟩, faultFree_case⟩,
        faultFree_only faultFree_window⟩, faultFree_only faultFree_truth⟩,
        faultFree_instrument⟩, faultFree_only ?_⟩, faultFree_only faultFree_contact⟩,
        faultFree_only faultFree_health⟩, faultFree_only faultFree_approval⟩
      split
      next => exact faultFree_nil
      next => exact faultFree_amount
    · rw [reasonIf, if_neg (not_not.mpr hmatches)] at hreason
      exact absurd hreason List.not_mem_nil
  · intro hmismatch
    exact ⟨.planBindingMismatch, List.mem_append_right _ (mem_reasonIf hmismatch), by decide⟩

end

/-! ## The ends of a delivery -/

section

variable [Hashlib] {job : OutboxJob} {command : CreatePaymentLinkCommand} {workerId : String}
  {now : Timestamp} {effect : GateDecision}

omit [Hashlib] in
theorem settles_escalate_iff (h : job.Held workerId now) {reason : String} :
    Settles job (escalate job command workerId now effect reason) ↔
      isCleanText 512 reason = true := by
  rw [← h.deadLetter_iff]
  constructor
  · intro hsettles
    obtain ⟨result, hresult, -⟩ := hsettles
    obtain ⟨_, hdead, -⟩ := bind_ok_iff.mp hresult
    exact h.deadLetter_iff.mpr (OutboxJob.Held.clean_of_deadLetter hdead)
  · intro hdead
    obtain ⟨dead, hdead, hstate, hversion⟩ := hdead
    refine ⟨_, bind_ok_iff.mpr ⟨dead, hdead, rfl⟩, ?_, hversion⟩
    show dead.state ∈ _
    rw [hstate]
    decide

omit [Hashlib] in
/-- A held job is completed with any clean id. -/
theorem settles_complete (h : job.Held workerId now) {id : String}
    (hclean : isCleanText 128 id = true) (disposition : ExecutionDisposition) (reason : String) :
    Settles job (do
      let completed ← job.complete workerId job.tokenOrMissing now job.version id
      return resultOf command effect disposition reason completed (some id)) := by
  obtain ⟨completed, hcompleted, hstate, hversion⟩ :=
    h.exists_complete (isCleanText_mono (by decide : 128 ≤ 512) hclean)
  refine ⟨_, bind_ok_iff.mpr ⟨completed, hcompleted, rfl⟩, ?_, hversion⟩
  show completed.state ∈ _
  rw [hstate]
  decide

/-- A suppression always settles. -/
theorem settles_suppress (h : job.Held workerId now) {reason : String} :
    Settles job (suppress job command workerId now effect reason) := by
  have hclean : isCleanText 512 ("suppressed_" ++ effect.decisionDigest) = true :=
    isCleanText_append_digest (by decide) (Hashlib.isDigest_sha256Hexdigest _) (by decide)
  obtain ⟨completed, hcompleted, hstate, hversion⟩ := h.exists_complete hclean
  refine ⟨_, bind_ok_iff.mpr ⟨completed, hcompleted, rfl⟩, ?_, hversion⟩
  show completed.state ∈ _
  rw [hstate]
  decide

omit [Hashlib] in
/-- A retry for a reason with room for the prefix settles when the next attempt has a
time. -/
theorem settles_requeue_iff (h : job.Held workerId now) {reason : String} {length : Nat}
    (hclean : isCleanText length reason = true) (hroom : length ≤ 489) {mode : RetryMode}
    {disposition : ExecutionDisposition} {backoff : BackoffPolicy} :
    Settles job (requeue job command workerId now effect reason mode disposition backoff) ↔
      (job.attempts < job.maxAttempts →
        now.micros + backoff.delayAfter job.attempts < calendarEnd) := by
  have hreason : isCleanText 512 reason = true :=
    isCleanText_mono (hroom.trans (by decide)) hclean
  have hlead : "max_attempts_exhausted:".toList.length = 23 := by decide
  have hlast : isCleanText 512 ("max_attempts_exhausted:" ++ reason) = true := by
    refine isCleanText_append (by decide) (by decide) hclean ?_
    rw [hlead]
    omega
  constructor
  · intro hsettles hmore
    obtain ⟨result, hresult, -⟩ := hsettles
    obtain ⟨updated, hupdated, -⟩ := bind_ok_iff.mp hresult
    have htime := (h.room_of_requeue hupdated).2
    rwa [if_neg (not_le.mpr hmore)] at htime
  · intro htime
    have hroom : if job.maxAttempts ≤ job.attempts then
          isCleanText 512 s!"max_attempts_exhausted:{reason}" = true
        else now.micros + backoff.delayAfter job.attempts < calendarEnd := by
      split
      next => exact hlast
      next hmore => exact htime (not_le.mp hmore)
    obtain ⟨updated, hupdated, hversion, hstate⟩ := h.requeue_iff.mpr ⟨hreason, hroom⟩
    refine ⟨_, bind_ok_iff.mpr ⟨updated, hupdated, rfl⟩, ?_, hversion⟩
    show updated.state ∈ _
    rw [hstate]
    split <;> decide

/-- A denial settles unless it is a fault whose codes do not fit. -/
theorem settles_denied_iff (h : job.Held workerId now) :
    Settles job (denied job command workerId now effect) ↔
      ((∃ reason ∈ effect.reasons, reason ∈ authorizationFaults) →
        codesLength effect.reasons ≤ 485) := by
  unfold denied
  dsimp only
  by_cases hfault : (effect.reasons.any fun reason => reason ∈ authorizationFaults) = true
  · have hexists : ∃ reason ∈ effect.reasons, reason ∈ authorizationFaults := by
      simpa using List.any_eq_true.mp hfault
    rw [if_pos hfault]
    have hiff : Settles job (escalate job command workerId now effect
        ("effect_authorization_fault:" ++ reasonValues effect.reasons)) ↔
          codesLength effect.reasons ≤ 485 :=
      (settles_escalate_iff h).trans (isCleanText_fault_iff effect.reasons)
    exact hiff.trans ⟨fun hfits _ => hfits, fun hfits => hfits hexists⟩
  · have hnone : ¬∃ reason ∈ effect.reasons, reason ∈ authorizationFaults := by
      intro hexists
      exact hfault (List.any_eq_true.mpr (by simpa using hexists))
    rw [if_neg hfault]
    refine ⟨fun _ hexists => absurd hexists hnone, fun _ => ?_⟩
    split
    next => exact settles_suppress h
    next => exact settles_suppress h

/-- The lookup asks for another delivery of the job. -/
def PutsBack (r : RequestFields) (lookup : PaymentLinkLookupResult) : Prop :=
  (decideAmbiguousCreate r lookup).action ∈
    [AmbiguousCreateAction.retryCreateSameReference, .requery]

omit [Hashlib] in
/-- A reconciliation settles unless it puts the job back and there is no time to. -/
theorem settles_reconcile_iff (h : job.Held workerId now) {lookup : PaymentLinkLookupResult}
    {backoff : BackoffPolicy} :
    Settles job (reconcile job command workerId now effect lookup backoff) ↔
      (PutsBack command.request.toRequestFields lookup → job.attempts < job.maxAttempts →
        now.micros + backoff.delayAfter job.attempts < calendarEnd) := by
  obtain ⟨hreason, hadopted⟩ := decideAmbiguousCreate_spec command.request.toRequestFields lookup
  have hclean := clean_reconciliationReasons _ hreason
  unfold reconcile PutsBack
  dsimp only
  cases haction : (decideAmbiguousCreate command.request.toRequestFields lookup).action with
  | adoptExisting =>
    obtain ⟨id, hid, hclean⟩ := hadopted haction
    simp only [hid]
    exact ⟨fun _ hback => absurd hback (by decide), fun _ => settles_complete h hclean _ _⟩
  | retryCreateSameReference =>
    simp only
    rw [settles_requeue_iff h hclean (by decide)]
    exact ⟨fun htime _ => htime, fun htime => htime (by decide)⟩
  | requery =>
    simp only
    rw [settles_requeue_iff h hclean (by decide)]
    exact ⟨fun htime _ => htime, fun htime => htime (by decide)⟩
  | escalate =>
    simp only
    refine ⟨fun _ hback => absurd hback (by decide), fun _ => ?_⟩
    exact (settles_escalate_iff h).mpr
      (isCleanText_append (by decide) (by decide) hclean (by decide))

/-- What fails to bind is one of a few short texts. -/
theorem clean_bindingFailure {intent : Option DurableActionIntent} {failure : String}
    (h : bindingFailure job command intent = some failure) :
    isCleanText 64 failure = true := by
  unfold bindingFailure at h
  repeat' split at h
  all_goals first
    | (obtain rfl := Option.some.inj h; decide +kernel)
    | exact nomatch h

omit [Hashlib] in
/-- The provider's classification comes with clean texts. -/
theorem ProviderCreateOutcome.clean (create : ProviderCreateOutcome) :
    isCleanText 256 create.reasonCode = true ∧
      (create.status = .certainSuccess →
        ∃ id, create.paymentLinkId = some id ∧ isCleanText 128 id = true) := by
  obtain ⟨_, hreason, hid⟩ := bind_ok_iff.mp create.valid
  refine ⟨not_not.mp (raiseIf_ok_iff.mp hreason), fun hstatus => ?_⟩
  rw [if_pos hstatus] at hid
  split at hid
  next => exact absurd hid (by simp)
  next id hsome => exact ⟨id, hsome, not_not.mp (raiseIf_ok_iff.mp hid)⟩

/-! ## A delivery whose ports answer -/

/-- What the ports of a delivery answer, and its clock before and after the reads. -/
structure PortAnswers where
  startedAt : Timestamp
  intent : Option DurableActionIntent
  context : GateContext
  decidedAt : Timestamp
  created : ProviderCreateOutcome
  lookup : PaymentLinkLookupResult

namespace PortAnswers

variable (answers : PortAnswers)

def reads : EffectReads where
  startedAt := answers.startedAt
  intent := .ok answers.intent
  context := .ok answers.context
  decidedAt := answers.decidedAt

def provider : PaymentLinkProvider where
  createStandardPaymentLink := fun _ _ => .ok answers.created
  lookupPaymentLinks := fun _ _ => .ok answers.lookup

variable (gate : DeterministicGate) (job : OutboxJob) (command : CreatePaymentLinkCommand)
  (workerId : String) (backoff : BackoffPolicy)

/-- `execute`, with these answers. -/
def delivery : Execution :=
  execute gate job command workerId answers.provider (fun _ _ => .ok ()) answers.reads backoff

/-- The context of the decision, where nothing fails to bind. -/
def boundContext : GateContext := refreshContext answers.context answers.decidedAt true

/-- The gate lets the delivery through. -/
def Reaches : Prop :=
  bindingFailure job command answers.intent = none ∧
    ∃ effect, gate.evaluateEffect command.proposal answers.boundContext
      (some command.priorPlan) = .ok effect ∧ effect.allowed = true

omit [Hashlib] in
/-- The answers of the provider put the job back. -/
def PutBack : Prop :=
  if job.retryMode = .reconcileOnly then
    PutsBack command.request.toRequestFields answers.lookup
  else
    command.request.validateExpiry answers.decidedAt = .ok () ∧
      (answers.created.status = .certainFailure ∨
        (answers.created.status = .ambiguous ∧
          PutsBack command.request.toRequestFields answers.lookup))

/-- What a delivery needs to settle: the horizon of the gate, codes that fit where the
plan does not match, and the dates of what it goes on to do. -/
structure Settleable : Prop where
  horizon : answers.decidedAt.micros + gate.policy.allowedClockSkew < calendarEnd
  codes : ∀ effect, bindingFailure job command answers.intent = none →
    gate.evaluateEffect command.proposal answers.boundContext (some command.priorPlan) =
      .ok effect →
    ¬gate.PlanMatches command.proposal answers.boundContext command.priorPlan →
    codesLength effect.reasons ≤ 485
  month : answers.Reaches gate job command → job.retryMode ≠ .reconcileOnly →
    AsksForMonth command.request.toRequestFields answers.decidedAt →
    SixMonthsOn answers.decidedAt
  attempt : answers.Reaches gate job command → answers.PutBack job command →
    job.attempts < job.maxAttempts →
    answers.decidedAt.micros + backoff.delayAfter job.attempts < calendarEnd

variable {answers gate job command workerId backoff}

omit [Hashlib] in
theorem settles_lookUp_iff {effect : GateDecision} (h : job.Held workerId answers.decidedAt)
    {calls : List ProviderCall} :
    Settles job (lookUp job command workerId answers.decidedAt effect answers.provider calls
        backoff).outcome ↔
      (PutsBack command.request.toRequestFields answers.lookup →
        job.attempts < job.maxAttempts →
        answers.decidedAt.micros + backoff.delayAfter job.attempts < calendarEnd) :=
  settles_reconcile_iff h

omit [Hashlib] in
theorem not_settles_error {e : ControlPlaneError} : ¬Settles job (.error e) := by
  intro h
  obtain ⟨_, hresult, -⟩ := h
  exact absurd hresult (by simp)

omit [Hashlib] in
/-- What the answer to a create leads to. -/
theorem settleCreate_cases (h : job.Held workerId now) (create : ProviderCreateOutcome) :
    (create.status = .certainSuccess ∧ ∃ result,
        settleCreate job command workerId now effect create backoff = .ok (some result) ∧
          Settles job (.ok result)) ∨
      (create.status = .certainFailure ∧ ∃ reason, isCleanText 272 reason = true ∧
        settleCreate job command workerId now effect create backoff =
          (requeue job command workerId now effect reason .retrySameEffect .requeued
            backoff).map some) ∨
      (create.status = .ambiguous ∧
        settleCreate job command workerId now effect create backoff = .ok none) := by
  obtain ⟨hreason, hsuccess⟩ := create.clean
  unfold settleCreate
  cases hstatus : create.status with
  | certainSuccess =>
    obtain ⟨id, hid, hclean⟩ := hsuccess hstatus
    obtain ⟨completed, hcompleted, hstate, hversion⟩ :=
      h.exists_complete (isCleanText_mono (by decide : 128 ≤ 512) hclean)
    refine .inl ⟨rfl, resultOf command effect .created create.reasonCode completed (some id), ?_,
      _, rfl, ?_, hversion⟩
    · simp only [hid]
      exact bind_ok_iff.mpr ⟨completed, hcompleted, rfl⟩
    · show completed.state ∈ _
      rw [hstate]
      decide
  | certainFailure =>
    exact .inr (.inl ⟨rfl, _, isCleanText_append (by decide) (by decide) hreason (by decide), rfl⟩)
  | ambiguous => exact .inr (.inr ⟨rfl, rfl⟩)

omit [Hashlib] in
/-- Behind the authorization, two dates are left. -/
theorem settles_carryOut_iff {effect : GateDecision} (h : job.Held workerId answers.decidedAt) :
    Settles job (carryOut job command workerId answers.decidedAt effect answers.provider
        backoff).outcome ↔
      (job.retryMode ≠ .reconcileOnly →
        AsksForMonth command.request.toRequestFields answers.decidedAt →
        SixMonthsOn answers.decidedAt) ∧
      (answers.PutBack job command → job.attempts < job.maxAttempts →
        answers.decidedAt.micros + backoff.delayAfter job.attempts < calendarEnd) := by
  unfold carryOut PutBack
  by_cases hmode : job.retryMode = .reconcileOnly
  · rw [beginEffect_of_reconcileOnly hmode, if_pos hmode]
    refine (settles_lookUp_iff h).trans ?_
    exact ⟨fun htime => ⟨fun hother => absurd hmode hother, htime⟩, fun hall => hall.2⟩
  · rw [if_neg hmode]
    unfold beginEffect
    rw [if_neg hmode]
    by_cases hdated : AsksForMonth command.request.toRequestFields answers.decidedAt →
        SixMonthsOn answers.decidedAt
    · rcases validateExpiry_cases hdated with hexpiry | ⟨message, hmessage, hexpiry⟩
      · rw [hexpiry]
        have hcreated : answers.provider.createStandardPaymentLink command.request
            command.providerAccountId = .ok answers.created := rfl
        rw [hcreated]
        dsimp only
        rcases settleCreate_cases h answers.created with
          ⟨hstatus, result, hsettled, hends⟩ | ⟨hstatus, reason, hclean, hsettled⟩ |
          ⟨hstatus, hsettled⟩
        · rw [hsettled, hstatus]
          exact ⟨fun _ => ⟨fun _ => hdated, fun hback => absurd hback.2 (by simp)⟩,
            fun _ => hends⟩
        · rw [hsettled, hstatus]
          have hrequeue : Settles job (requeue job command workerId answers.decidedAt effect
              reason .retrySameEffect .requeued backoff) ↔ (job.attempts < job.maxAttempts →
                answers.decidedAt.micros + backoff.delayAfter job.attempts < calendarEnd) :=
            settles_requeue_iff h hclean (by decide)
          cases hrequeued : requeue job command workerId answers.decidedAt effect reason
            .retrySameEffect .requeued backoff <;> rw [hrequeued] at hrequeue <;>
            refine hrequeue.trans ⟨fun htime => ⟨fun _ => hdated, fun _ => htime⟩, fun hall => ?_⟩
          · exact hall.2 ⟨rfl, .inl rfl⟩
          · exact hall.2 ⟨rfl, .inl rfl⟩
        · rw [hsettled, hstatus]
          refine (settles_lookUp_iff h).trans ?_
          exact ⟨fun htime => ⟨fun _ => hdated, fun hback => htime (by simpa using hback.2)⟩,
            fun hall hback => hall.2 ⟨rfl, .inr ⟨rfl, hback⟩⟩⟩
      · -- out of time: the request is escalated with one of the texts
        have hclean : isCleanText 512 ("request_not_effect_safe:" ++ message) = true := by
          have hshort : ∀ text ∈ expiryRefusals, isCleanText 64 text = true := by
            decide +kernel
          exact isCleanText_append (by decide) (by decide) (hshort message hmessage) (by decide)
        have hescalated : Settles job (escalate job command workerId answers.decidedAt effect
            s!"request_not_effect_safe:{message}") := (settles_escalate_iff h).mpr hclean
        obtain ⟨result, hresult, hends⟩ := hescalated
        rw [hexpiry]
        simp only [hresult, Except.map]
        exact ⟨fun _ => ⟨fun _ => hdated, fun hback => absurd hback.1 (by simp)⟩,
          fun _ => ⟨result, rfl, hends⟩⟩
    · obtain ⟨hasks, hmonth⟩ := Classical.not_imp.mp hdated
      obtain ⟨message, hexpiry⟩ := validateExpiry_of_no_month hasks hmonth
      rw [hexpiry]
      refine ⟨fun hsettles => absurd hsettles not_settles_error, fun hall => ?_⟩
      exact absurd (hall.1 hmode hasks) hmonth

/-- The gate answers as long as its horizon is on the calendar. -/
theorem exists_evaluateEffect_iff {context : GateContext} :
    (∃ effect, gate.evaluateEffect command.proposal context (some command.priorPlan) =
        .ok effect) ↔ context.evaluatedAt.micros + gate.policy.allowedClockSkew < calendarEnd := by
  constructor
  · intro h
    obtain ⟨effect, heffect⟩ := h
    obtain ⟨horizon, hshift, -⟩ := DeterministicGate.evaluate_ok_iff.mp heffect
    rw [← shift_ok_iff.mp hshift]
    exact horizon.inRange
  · intro h
    obtain ⟨horizon, hshift⟩ := DeterministicGate.exists_horizon h
    exact ⟨_, bind_ok_iff.mpr ⟨horizon, hshift, rfl⟩⟩

/-- Of a bound delivery that the gate answers, a fault is found exactly when the plan
does not match. -/
theorem fault_iff {effect : GateDecision}
    (hbound : bindingFailure job command answers.intent = none)
    (heffect : gate.evaluateEffect command.proposal answers.boundContext
      (some command.priorPlan) = .ok effect) :
    (∃ reason ∈ effect.reasons, reason ∈ authorizationFaults) ↔
      ¬gate.PlanMatches command.proposal answers.boundContext command.priorPlan := by
  obtain ⟨horizon, -, -, hreasons⟩ := DeterministicGate.evaluate_ok_iff.mp heffect
  rw [hreasons]
  exact exists_fault_iff (matches_of_bindingFailure_none hbound).1 rfl

/-- Where a delivery ends before its authorization, it settles as that end does. -/
theorem settles_finished_iff {call : Except ControlPlaneError ExecutionResult}
    (h : decideEffect gate job command workerId answers.reads = call.map .finished) :
    Settles job (answers.delivery gate job command workerId backoff).outcome ↔
      Settles job call := by
  unfold delivery execute
  rw [h]
  cases call with
  | error e => exact Iff.rfl
  | ok result => exact Iff.rfl

section

variable
  (hstarted : job.assertActiveLease workerId job.tokenOrMissing answers.startedAt = .ok ())
  (hdecided : job.assertActiveLease workerId job.tokenOrMissing answers.decidedAt = .ok ())
include hstarted hdecided

/-- Past the end of the calendar there is no decision. -/
theorem decideEffect_unanswered
    (hhorizon : ¬answers.decidedAt.micros + gate.policy.allowedClockSkew < calendarEnd) :
    ∃ e, decideEffect gate job command workerId answers.reads = .error e := by
  cases hdecision : decideEffect gate job command workerId answers.reads with
  | error e => exact ⟨e, rfl⟩
  | ok decided =>
    unfold decideEffect reads at hdecision
    dsimp only at hdecision
    rw [bind_of_ok hstarted, bind_of_ok rfl, bind_of_ok rfl, bind_of_ok hdecided] at hdecision
    obtain ⟨effect, heffect, -⟩ := bind_ok_iff.mp hdecision
    exact absurd (exists_evaluateEffect_iff.mp ⟨effect, liftDomain_ok_iff.mp heffect⟩) hhorizon

theorem decideEffect_unbound {failure : String}
    (hhorizon : answers.decidedAt.micros + gate.policy.allowedClockSkew < calendarEnd)
    (hfailure : bindingFailure job command answers.intent = some failure) :
    ∃ effect, decideEffect gate job command workerId answers.reads =
      (escalate job command workerId answers.decidedAt effect
        ("binding_failure:" ++ failure)).map .finished := by
  obtain ⟨effect, heffect⟩ : ∃ effect, gate.evaluateEffect command.proposal
      (refreshContext answers.context answers.decidedAt (answers.intent.isSome && false))
      (some command.priorPlan) = .ok effect := exists_evaluateEffect_iff.mpr hhorizon
  refine ⟨effect, ?_⟩
  unfold decideEffect reads
  dsimp only
  rw [bind_of_ok hstarted, bind_of_ok rfl, bind_of_ok rfl, bind_of_ok hdecided, hfailure]
  exact bind_of_ok (liftDomain_ok_iff.mpr heffect) _

theorem decideEffect_bound {effect : GateDecision}
    (hbound : bindingFailure job command answers.intent = none)
    (heffect : gate.evaluateEffect command.proposal answers.boundContext
      (some command.priorPlan) = .ok effect) :
    decideEffect gate job command workerId answers.reads =
      if effect.allowed then .ok (.cleared effect answers.boundContext answers.decidedAt)
      else (denied job command workerId answers.decidedAt effect).map .finished := by
  obtain ⟨-, recorded, hrecorded, -⟩ := matches_of_bindingFailure_none hbound
  have hproved : (answers.intent.isSome && (none : Option String).isNone) = true := by
    rw [hrecorded]
    rfl
  unfold decideEffect reads
  dsimp only
  rw [bind_of_ok hstarted, bind_of_ok rfl, bind_of_ok rfl, bind_of_ok hdecided, hbound, hproved]
  exact bind_of_ok (liftDomain_ok_iff.mpr heffect) _

end

/-- A bound delivery whose plan does not match settles only if its codes fit. -/
theorem settles_mismatch_iff {effect : GateDecision}
    (hstarted : job.assertActiveLease workerId job.tokenOrMissing answers.startedAt = .ok ())
    (hheld : job.Held workerId answers.decidedAt)
    (hbound : bindingFailure job command answers.intent = none)
    (heffect : gate.evaluateEffect command.proposal answers.boundContext
      (some command.priorPlan) = .ok effect) (hdenied : ¬effect.allowed = true) :
    Settles job (answers.delivery gate job command workerId backoff).outcome ↔
      (¬gate.PlanMatches command.proposal answers.boundContext command.priorPlan →
        codesLength effect.reasons ≤ 485) := by
  have hdecision := decideEffect_bound hstarted hheld.lease hbound heffect
  rw [if_neg hdenied] at hdecision
  rw [settles_finished_iff hdecision, settles_denied_iff hheld, fault_iff hbound heffect]

/-- **A delivery under a lease it keeps settles its job, if and only if its codes fit
where the plan does not match, and the dates it needs exist.** -/
theorem settles_iff
    (hstarted : job.assertActiveLease workerId job.tokenOrMissing answers.startedAt = .ok ())
    (hheld : job.Held workerId answers.decidedAt) :
    Settles job (answers.delivery gate job command workerId backoff).outcome ↔
      answers.Settleable gate job command backoff := by
  by_cases hhorizon : answers.decidedAt.micros + gate.policy.allowedClockSkew < calendarEnd
  · cases hfailure : bindingFailure job command answers.intent with
    | some failure =>
      have hunbound : bindingFailure job command answers.intent ≠ none := by
        rw [hfailure]
        simp
      obtain ⟨effect, hdecision⟩ := decideEffect_unbound hstarted hheld.lease hhorizon hfailure
      rw [settles_finished_iff hdecision, settles_escalate_iff hheld]
      constructor
      · intro _
        exact ⟨hhorizon, fun _ hbound => absurd hbound hunbound,
          fun hreaches => absurd hreaches.1 hunbound, fun hreaches => absurd hreaches.1 hunbound⟩
      · intro _
        exact isCleanText_append (by decide) (by decide) (clean_bindingFailure hfailure) (by decide)
    | none =>
      obtain ⟨effect, heffect⟩ : ∃ effect, gate.evaluateEffect command.proposal
          answers.boundContext (some command.priorPlan) = .ok effect :=
        exists_evaluateEffect_iff.mpr hhorizon
      by_cases hallowed : effect.allowed = true
      · -- cleared: no codes to write, and two dates are left
        have hdecision := decideEffect_bound hstarted hheld.lease hfailure heffect
        rw [if_pos hallowed] at hdecision
        have hreaches : answers.Reaches gate job command := ⟨hfailure, effect, heffect, hallowed⟩
        have hcarried : answers.delivery gate job command workerId backoff =
            carryOut job command workerId answers.decidedAt effect answers.provider backoff := by
          unfold delivery execute
          rw [hdecision]
        rw [hcarried, settles_carryOut_iff hheld]
        constructor
        · intro hdates
          refine ⟨hhorizon, fun other _ hother _ => ?_, fun _ => hdates.1, fun _ => hdates.2⟩
          obtain rfl := Except.ok.inj (heffect.symm.trans hother)
          rw [List.isEmpty_iff.mp hallowed]
          exact Nat.zero_le _
        · intro hsettleable
          exact ⟨hsettleable.month hreaches, hsettleable.attempt hreaches⟩
      · have hstays : ¬answers.Reaches gate job command := by
          intro hreaches
          obtain ⟨-, other, hother, hpasses⟩ := hreaches
          obtain rfl := Except.ok.inj (heffect.symm.trans hother)
          exact hallowed hpasses
        rw [settles_mismatch_iff hstarted hheld hfailure heffect hallowed]
        constructor
        · intro hcodes
          refine ⟨hhorizon, fun other _ hother hmismatch => ?_,
            fun hreaches => absurd hreaches hstays, fun hreaches => absurd hreaches hstays⟩
          obtain rfl := Except.ok.inj (heffect.symm.trans hother)
          exact hcodes hmismatch
        · intro hsettleable
          exact hsettleable.codes effect hfailure heffect
  · obtain ⟨e, hdecision⟩ : ∃ e, decideEffect gate job command workerId answers.reads = .error e :=
      decideEffect_unanswered hstarted hheld.lease hhorizon
    have herror : (answers.delivery gate job command workerId backoff).outcome = .error e := by
      unfold delivery execute
      rw [hdecision]
    rw [herror]
    exact ⟨fun hsettles => absurd hsettles not_settles_error,
      fun hsettleable => absurd hsettleable.horizon hhorizon⟩

end PortAnswers

end

/-! ## A denial that does not fit

The offer's job under a later policy, read when nearly everything speaks against it:
twenty codes, of 517 characters. -/

namespace DeniedDelivery

def offer : LinkOffer := ⟨⟨12400, "INR", isCurrency_inr⟩, "upi", by decide, isPaymentMethod_upi⟩

def laterGate : DeterministicGate where
  policy := {
    version := "policy-v2"
    allowedActions := [.notifyExistingLink]
    providerSnapshotMaxAge := seconds 30
    incidentHealthMaxAge := seconds 30
    maxAttempts := 1
    maxContactsInWindow := 1
    approvalThreshold := ⟨10000, "USD", rfl⟩
    minConfidence := LinkOffer.certain
    valid := by decide }

def context : GateContext where
  merchantId := LinkOffer.merchantId
  caseId := LinkOffer.caseId
  evaluatedAt := sampleStart
  aggregateVersion := 5
  expectedAggregateVersion := 4
  recoveryState := .escalated
  snapshot := {
    paymentState := .paid
    amountDue := ⟨12500, "USD", rfl⟩
    paymentMethod := "card"
    observedAt := sampleExpiry
    activeInstrumentCount := 1
    incidentState := .confirmed
    methodHealthObservedAt := sampleExpiry
    paymentMethodOk := rfl }
  environmentEffectsEnabled := false
  globalKillSwitch := true
  merchantKillSwitch := true
  attemptsUsed := 1
  abstentionRequired := true
  externalDiagnosisReviewRequired := true
  valid := by
    simp only [GateContextFields.postInit]
    rfl

/-- What the gate finds. -/
def denials : List GateReason :=
  [.actionNotAllowed, .environmentEffectsDisabled, .globalKillSwitchActive,
    .merchantKillSwitchActive, .aggregateVersionMismatch, .recoveryStateNotActionable,
    .observationDeadlineMissing, .paymentTruthNotUnpaid, .providerSnapshotFromFuture,
    .activeInstrumentExists, .currencyMismatch, .paymentMethodMismatch,
    .incidentHealthFromFuture, .paymentMethodUnhealthy, .attemptBudgetExhausted,
    .policyCurrencyMismatch, .abstentionRequiresApproval, .externalDiagnosisRequiresApproval,
    .approvalRequired, .planBindingMismatch]

section

variable [Hashlib]

def job : OutboxJob where
  jobId := LinkDelivery.jobId
  actionKey := offer.proposal.actionKey
  payloadDigest := (LinkDelivery.command offer).payloadDigest
  state := .leased
  version := 1
  attempts := 1
  maxAttempts := 8
  createdAt := sampleStart
  updatedAt := sampleStart
  availableAt := none
  leaseOwner := some LinkDelivery.workerId
  leaseToken := some "token-1"
  leaseExpiresAt := some sampleExpiry
  valid := by
    simp only [JobFields.postInit, JobFields.optionalClean_ok_iff, JobFields.checkState,
      requireText, bind_ok_iff, raiseIf_ok_iff, not_not, exists_and_left, exists_const]
    refine ⟨by decide, LinkDelivery.isCleanText_actionKey offer (by decide : 68 ≤ 128),
      LinkDelivery.isDigest_payloadDigest offer, by decide, by decide, by decide, by decide,
      by decide, rfl, rfl, rfl, by simp, by decide, ?_, by simp⟩
    show ¬(decide (sampleExpiry ≤ sampleStart) = true)
    decide

theorem lease {now : Timestamp} (h : now < sampleExpiry) :
    job.assertActiveLease LinkDelivery.workerId job.tokenOrMissing now = .ok () := by
  have howner : job.leaseOwner = some LinkDelivery.workerId := rfl
  have htoken : job.leaseToken = some "token-1" := rfl
  have hmissing : job.tokenOrMissing = "token-1" := rfl
  have hexpires : job.leaseExpiresAt = some sampleExpiry := rfl
  have hstate : job.state = .leased := rfl
  simp only [OutboxJob.assertActiveLease, requireText, bind_ok_iff, raiseIf_ok_iff, not_not,
    exists_and_left, exists_const, hmissing, howner, htoken, hexpires, hstate]
  refine ⟨by decide, by decide, by simp, ?_⟩
  simpa using h

theorem held : job.Held LinkDelivery.workerId sampleDeadline :=
  ⟨lease (by decide), (by decide : sampleStart ≤ sampleDeadline)⟩

/-- The ports of the denied delivery; with no intent nothing is proved to bind. -/
def answers (intent : Option DurableActionIntent) : PortAnswers where
  startedAt := sampleStart
  intent := intent
  context := context
  decidedAt := sampleDeadline
  created := LinkDelivery.lostOutcome
  lookup := LinkDelivery.brokenLookup

omit [Hashlib] in
/-- The model is as sure as the policy asks it to be. -/
theorem confident : DeterministicGate.confidenceCauses laterGate offer.proposal = [] :=
  reasonIf_eq_nil.mpr (lt_irrefl _)

theorem evaluated :
    ∃ effect, laterGate.evaluateEffect (LinkDelivery.command offer).proposal
        (refreshContext context sampleDeadline true)
        (some (LinkDelivery.command offer).priorPlan) = .ok effect ∧ effect.reasons = denials := by
  obtain ⟨horizon, hshift⟩ : ∃ horizon, shift sampleDeadline (seconds 5) = .ok horizon :=
    ⟨⟨63902736125000000, by decide, by decide⟩, shift_ok_iff.mpr rfl⟩
  have hlate : horizon.micros = 63902736125000000 := by
    rw [shift_ok_iff.mp hshift]
    decide
  obtain rfl : horizon = ⟨63902736125000000, by decide, by decide⟩ :=
    Timestamp.micros_injective hlate
  refine ⟨_, bind_ok_iff.mpr ⟨_, hshift, rfl⟩, ?_⟩
  show DeterministicGate.reasons _ _ offer.proposal _ _ _ = _
  simp only [DeterministicGate.reasons, DeterministicGate.approvalReasons,
    DeterministicGate.approvalCauses, confident]
  rfl

/-- The denial of the later gate does not fit. -/
theorem delivery_unsettled :
    ¬Settles job ((answers (some (LinkDelivery.intent offer))).delivery laterGate job
      (LinkDelivery.command offer) LinkDelivery.workerId {}).outcome := by
  obtain ⟨effect, heffect, hreasons⟩ := evaluated
  have hbound : bindingFailure job (LinkDelivery.command offer)
      (some (LinkDelivery.intent offer)) = none :=
    LinkDelivery.bindingFailure_offer rfl rfl (matchesCommand_intentFields _ _)
  have hdenied : ¬effect.allowed = true := by
    rw [GateDecision.allowed, hreasons]
    decide
  have hstarted := lease (by decide : sampleStart < sampleExpiry)
  have hlater : ¬"policy-v1" = laterGate.policy.version := by decide
  rw [PortAnswers.settles_mismatch_iff hstarted held hbound heffect hdenied, hreasons]
  intro hfits
  exact absurd (hfits fun hmatches => hlater hmatches.2.2.1) (by decide +kernel)

/-- Without an intent nothing binds. -/
theorem unbound : bindingFailure job (LinkDelivery.command offer) none ≠ none := by
  intro hbound
  obtain ⟨-, _, hrecorded, -⟩ := matches_of_bindingFailure_none hbound
  exact absurd hrecorded (by simp)

end

/-- Without its intent, the same delivery is escalated. -/
theorem settles_iff_unbound :
    Settles job ((answers none).delivery laterGate job (LinkDelivery.command offer)
      LinkDelivery.workerId {}).outcome :=
  (PortAnswers.settles_iff (lease (by decide : sampleStart < sampleExpiry)) held).mpr
    { horizon := by decide
      codes := fun _ hbound => absurd hbound unbound
      month := fun hreaches => absurd hreaches.1 unbound
      attempt := fun hreaches => absurd hreaches.1 unbound }

/-- **A delivery can leave its job leased**: with its intent, under its lease, on a clock
that does not move back. -/
theorem delivery_left_leased :
    job.assertActiveLease LinkDelivery.workerId job.tokenOrMissing sampleStart = .ok () ∧
      job.Held LinkDelivery.workerId sampleDeadline ∧ sampleStart ≤ sampleDeadline ∧
      ¬Settles job ((answers (some (LinkDelivery.intent offer))).delivery laterGate job
        (LinkDelivery.command offer) LinkDelivery.workerId {}).outcome :=
  ⟨lease (by decide), held, by decide, delivery_unsettled⟩

end DeniedDelivery

end Retrywise.ControlPlane
