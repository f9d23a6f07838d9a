import Retrywise.ControlPlane.AuditEvidence
import Retrywise.ControlPlane.CancelSettles
import Retrywise.Domain.GateReasons

/-!
# Evidence that the profile accepts

Every entry type, every actor, every key and every code that the services use is one of the
profile, and no evidence is too large. What is left is the spelling of identifiers, where one
made of digits alone looks like a number, and of the dispositions of a cancellation, which
are lowercase: those that are one word have none of the forms of a text.

> `audit_evidence_accepted_iff`: the profile accepts exactly the outcomes that are spelled
> as it asks.
-/

namespace Retrywise.ControlPlane.Audit

open Retrywise.Foundation Retrywise.Domain

/-! ## Who acted -/

theorem isOpaqueSubject_of_isDigest {actorType : AuditActorType} {lead digest : String}
    (hlead : lead.toList = actorType.lower.toList ++ [':']) (h : isDigest digest = true) :
    isOpaqueSubject actorType (lead ++ digest) = true := by
  unfold isOpaqueSubject
  dsimp only
  rw [String.toList_append, hlead, List.drop_left, String.ofList_toList, h, Bool.or_true,
    Bool.and_true, List.isPrefixOf_iff_prefix]
  exact List.prefix_append _ _

section

variable [Hashlib]

theorem isOpaqueSubject_workerSubject (name : String) :
    isOpaqueSubject .worker (workerSubject name) = true :=
  isOpaqueSubject_of_isDigest (by simp [AuditActorType.lower]) (Hashlib.isDigest_sha256Hexdigest _)

theorem isOpaqueSubject_hashedOperator (operatorSubject : String) :
    isOpaqueSubject .operator (hashedOperator operatorSubject) = true :=
  isOpaqueSubject_of_isDigest (by simp [AuditActorType.lower]) (Hashlib.isDigest_sha256Hexdigest _)

end

/-! ## Keys -/

/-- The keys of all evidence that hold no code. -/
def evidenceKeys : List String :=
  ["assessment_disposition", "decision_id", "model_version_sha256", "diagnosis_engine",
    "diagnosis_mode", "diagnosis_fallback_reason", "policy_version_sha256", "reason_codes",
    "action_id", "approval_id", "approval_verdict", "decision_digest", "reconciliation_only",
    "disposition", "reason_sha256", "instrument_id", "cancel_attempted"]

/-- All keys are lawful, and `reason_code` alone stands for a code. -/
theorem evidenceKeys_spec :
    (∀ k ∈ "reason_code" :: evidenceKeys, isFactKey k = true ∧ hasForbiddenPart k = false) ∧
      ∀ k ∈ evidenceKeys, "_code".toList.isSuffixOf k.toList = false := by
  decide +kernel

theorem isLawful_of_mem {key : String} {value : Json} (h : key ∈ evidenceKeys) :
    isLawful (key, value) = true := by
  obtain ⟨hkey, hpart⟩ := evidenceKeys_spec.1 key (List.mem_cons_of_mem _ h)
  have hcode := evidenceKeys_spec.2 key h
  have hdue : isCodeWhereDue key value = true := by
    unfold isCodeWhereDue
    rw [hcode]
    rfl
  rw [isLawful, hkey, hpart, hdue]
  rfl

theorem isLawful_reasonCode {code : String} (h : isMachineCode code = true) :
    isLawful ("reason_code", .str code) = true := by
  have hkey := evidenceKeys_spec.1 "reason_code" List.mem_cons_self
  simp [isLawful, isCodeWhereDue, hkey.1, hkey.2, h]

/-! ## Codes -/

theorem isMachineCode_of_isFallbackReasonCode {value : String}
    (h : isFallbackReasonCode value = true) : isMachineCode value = true := by
  unfold isFallbackReasonCode at h
  split at h
  next => exact absurd h (by simp)
  next c rest hchars =>
    unfold isMachineCode isCode
    rw [hchars]
    simp only [Bool.and_eq_true, decide_eq_true_eq] at h ⊢
    exact ⟨⟨h.1.1, by omega⟩, h.1.2⟩

/-- Capitals of the characters of a reason. -/
theorem toUpper_spec {c : Char} (h : c.isLower = true ∨ c.isDigit = true ∨ c = '_') :
    (c.isLower = true → c.toUpper.isUpper = true) ∧ (c.isLower = false → c.toUpper = c) := by
  have hascii : ∀ n < 128,
      ((Char.ofNat n).isLower = true → (Char.ofNat n).toUpper.isUpper = true) ∧
        ((Char.ofNat n).isLower = false → (Char.ofNat n).toUpper = Char.ofNat n) := by
    decide +kernel
  have hlt : c.toNat < 128 := by
    rcases h with h | h | rfl
    · have hrange := isLower_iff.mp h
      omega
    · simp only [Char.isDigit, Bool.and_eq_true, decide_eq_true_eq, UInt32.le_iff_toNat_le] at h
      exact Nat.lt_of_le_of_lt h.2 (by decide)
    · decide
  have hc := hascii c.toNat hlt
  rwa [Char.ofNat_toNat] at hc

/-- A reason in capitals is a code. -/
theorem isMachineCode_toUpper {value : String} (h : isReasonCode value = true) :
    isMachineCode value.toUpper = true := by
  unfold isReasonCode at h
  split at h
  next => exact absurd h (by simp)
  next c rest hchars =>
    simp only [Bool.and_eq_true, decide_eq_true_eq, List.all_eq_true, Bool.or_eq_true] at h
    obtain ⟨⟨hc, hrest⟩, hlen⟩ := h
    unfold isMachineCode isCode
    rw [String.toUpper, String.toList_map, hchars, List.map_cons]
    simp only [Bool.and_eq_true, decide_eq_true_eq, List.all_eq_true, Bool.or_eq_true,
      List.length_map]
    refine ⟨⟨(toUpper_spec (.inl hc)).1 hc, by omega⟩, ?_⟩
    intro d hd
    obtain ⟨e, he, rfl⟩ := List.mem_map.mp hd
    have hchar := or_assoc.mp (hrest e he)
    obtain ⟨hlower, hother⟩ := toUpper_spec hchar
    cases hcase : e.isLower with
    | true => exact .inl (.inl (hlower hcase))
    | false =>
      rw [hother hcase]
      rcases hchar with hchar | hdigit | hmark
      · exact absurd hchar (by simp [hcase])
      · exact .inl (.inr hdigit)
      · exact .inr hmark

theorem isMachineCode_gateReason (reason : GateReason) : isMachineCode reason.value = true := by
  cases reason <;> decide +kernel

theorem isFactText_disposition_iff (disposition : CancellationDisposition) :
    isFactText disposition.value = true ↔ disposition ∉ AuditedOutcome.unspelled := by
  cases disposition <;> decide +kernel

/-! ## The evidence of one writer -/

theorem isFactValue_str {text : String} : isFactValue 1 (.str text) = isFactText text := rfl

theorem isFactValue_bool {flag : Bool} : isFactValue 1 (.bool flag) = true := rfl

theorem isScalar_str {text : String} : isScalar (.str text) = true := rfl

theorem isScalar_bool {flag : Bool} : isScalar (.bool flag) = true := rfl

/-- Evidence of a lawful entry type and actor is accepted with its facts. -/
theorem accepted_iff {e : AuditEvidence} (hentry : isEntryType e.entryType = true)
    (hsubject : isOpaqueSubject e.actorType e.actorSubject = true) :
    e.Accepted ↔ isFacts (.obj e.facts) = true :=
  ⟨fun h => h.facts, fun h => ⟨hentry, hsubject, h⟩⟩

theorem forall_actionFact {p : String × Json → Prop} {actionId : Option String} :
    (∀ m ∈ actionFact actionId, p m) ↔ ∀ id ∈ actionId.toList, p ("action_id", .str id) := by
  simp [actionFact]

theorem length_actionFact (actionId : Option String) : (actionFact actionId).length ≤ 1 := by
  cases actionId with
  | none => exact Nat.zero_le _
  | some id => exact le_rfl

theorem isFactText_assessmentDisposition (disposition : AssessmentDisposition) :
    isFactText disposition.value = true := by
  refine isFactText_of_isMachineCode ?_
  cases disposition <;> decide

theorem isFactText_executionDisposition (disposition : ExecutionDisposition) :
    isFactText disposition.value.toUpper = true := by
  refine isFactText_of_isMachineCode (isMachineCode_toUpper ?_)
  cases disposition <;> decide

theorem isFactText_engine (engine : DiagnosisEngine) : isFactText engine.value = true := by
  refine isFactText_of_isMachineCode ?_
  cases engine <;> decide

theorem isFactText_mode (mode : DiagnosisMode) : isFactText mode.value = true := by
  refine isFactText_of_isMachineCode ?_
  cases mode <;> decide

theorem isFactText_verdict (verdict : ApprovalVerdict) : isFactText verdict.value = true := by
  refine isFactText_of_isMachineCode ?_
  cases verdict <;> decide

/-- A list of codes is a fact, if it is not long. -/
theorem isFactValue_texts {texts : List String} (hfew : texts.length ≤ 32)
    (h : ∀ text ∈ texts, isFactText text = true) :
    isFactValue 1 (.arr (texts.map .str)) = true := by
  have hitems : isFactItems 1 (texts.map .str) = true := isFactItems_texts (by omega) h
  simp [isFactValue, hitems, hfew]

section

variable [Hashlib]

/-- A digest is a fact unless it is a number. -/
theorem isFactText_hexdigest_iff (bytes : ByteArray) :
    isFactText (Hashlib.sha256Hexdigest bytes) = true ↔
      isNumber (Hashlib.sha256Hexdigest bytes) = false :=
  isFactText_digest_iff (Hashlib.isDigest_sha256Hexdigest bytes)

theorem accepted_assessment_iff {snapshot : AssessmentSnapshot} {diagnosis : DiagnosisResult}
    {disposition : AssessmentDisposition} {decisionId : String} {reasonCodes : List String}
    {actionId : Option String}
    (hfallback : diagnosis.provenance.fallbackReasonCode.all isFallbackReasonCode = true)
    (hdecision : isUlid decisionId = true) (hfew : reasonCodes.length ≤ 30)
    (hcodes : ∀ code ∈ reasonCodes, isMachineCode code = true)
    (haction : ∀ id ∈ actionId.toList, isUlid id = true) :
    (assessmentEvidence snapshot diagnosis disposition decisionId reasonCodes actionId).Accepted ↔
      ∀ id ∈ [decisionId, Hashlib.sha256Hexdigest diagnosis.artifactVersion.toUTF8,
        Hashlib.sha256Hexdigest snapshot.merchant.policyVersion.toUTF8] ++ actionId.toList,
        isNumber id = false := by
  have hoptional : isFactValue 1 (optionalText diagnosis.provenance.fallbackReasonCode) = true ∧
      isScalar (optionalText diagnosis.provenance.fallbackReasonCode) = true := by
    cases hcode : diagnosis.provenance.fallbackReasonCode with
    | none => exact ⟨rfl, rfl⟩
    | some code =>
      rw [hcode] at hfallback
      exact ⟨isFactText_of_isMachineCode (isMachineCode_of_isFallbackReasonCode hfallback), rfl⟩
  have htexts : ∀ code ∈ reasonCodes, isFactText code = true :=
    fun code hcode => isFactText_of_isMachineCode (hcodes code hcode)
  have hscalar : ∀ m ∈ assessmentFacts snapshot diagnosis disposition decisionId,
      isScalar m.2 = true := by
    simp [assessmentFacts, isScalar_str, hoptional.2]
  have hkeys : ∀ m ∈ assessmentFacts snapshot diagnosis disposition decisionId,
      m.1 ∈ evidenceKeys := by
    simp [assessmentFacts, evidenceKeys]
  have hreasons : "reason_codes" ∈ evidenceKeys ∧ "action_id" ∈ evidenceKeys := by decide
  have hentry : isEntryType "ASSESSMENT_COMMITTED" = true := by decide
  rw [accepted_iff (e := assessmentEvidence snapshot diagnosis disposition decisionId reasonCodes
    actionId) hentry (isOpaqueSubject_workerSubject _)]
  show isFacts (.obj (assessmentFacts snapshot diagnosis disposition decisionId ++
    ("reason_codes", .arr (reasonCodes.map .str)) :: actionFact actionId)) = true ↔ _
  have hfacts : (∀ m ∈ assessmentFacts snapshot diagnosis disposition decisionId,
      isFactValue 1 m.2 = true) ↔
      ∀ id ∈ [decisionId, Hashlib.sha256Hexdigest diagnosis.artifactVersion.toUTF8,
        Hashlib.sha256Hexdigest snapshot.merchant.policyVersion.toUTF8], isNumber id = false := by
    simp only [assessmentFacts, List.forall_mem_cons, List.not_mem_nil, isFactValue_str,
      isFactText_assessmentDisposition, isFactText_engine, isFactText_mode, hoptional.1,
      isFactText_ulid_iff hdecision, isFactText_hexdigest_iff, true_and, IsEmpty.forall_iff,
      implies_true]
  have hactions : (∀ id ∈ actionId.toList, isFactValue 1 (.str id) = true) ↔
      ∀ id ∈ actionId.toList, isNumber id = false :=
    forall₂_congr fun id hid => isFactText_ulid_iff (haction id hid)
  have hactionLength := length_actionFact actionId
  rw [isFacts_iff]
  · rw [List.forall_mem_append, List.forall_mem_cons, forall_actionFact, List.forall_mem_append,
      hfacts, hactions]
    exact and_congr_right' (and_iff_right (isFactValue_texts (by omega) htexts))
  · rw [List.length_append, List.length_cons]
    show 7 + _ ≤ 64
    omega
  · intro m hm
    rcases List.mem_append.mp hm with hm | hm
    · exact isLawful_of_mem (hkeys m hm)
    · rcases List.mem_cons.mp hm with rfl | hm
      · exact isLawful_of_mem hreasons.1
      · obtain ⟨id, -, rfl⟩ := List.mem_map.mp hm
        exact isLawful_of_mem hreasons.2
  · -- seven short facts, at most thirty codes and one identifier
    intro hall
    obtain ⟨hfirst, hrest⟩ := List.forall_mem_append.mp hall
    obtain ⟨-, hlast⟩ := List.forall_mem_cons.mp hrest
    have hseven := membersSize_scalars (fun m hm => isLawful_of_mem (hkeys m hm)) hscalar hfirst
    have hactionKeys : ∀ m ∈ actionFact actionId, isLawful m = true := by
      intro m hm
      obtain ⟨id, -, rfl⟩ := List.mem_map.mp hm
      exact isLawful_of_mem hreasons.2
    have hactionScalars : ∀ m ∈ actionFact actionId, isScalar m.2 = true := by
      intro m hm
      obtain ⟨id, -, rfl⟩ := List.mem_map.mp hm
      rfl
    have hone := membersSize_scalars hactionKeys hactionScalars hlast
    have hcodesSize := itemsSize_texts htexts
    have hsplit := membersSize_append (assessmentFacts snapshot diagnosis disposition decisionId)
      (("reason_codes", .arr (reasonCodes.map .str)) :: actionFact actionId)
    have hlength : (assessmentFacts snapshot diagnosis disposition decisionId).length = 7 := rfl
    have hkey : "reason_codes".toList.length = 12 := by decide
    rw [Json.membersSize, Json.textSize] at hsplit
    show _ < 16384
    omega

omit [Hashlib] in
/-- Evidence with nothing but short facts. -/
theorem accepted_scalars_iff {e : AuditEvidence} (hentry : isEntryType e.entryType = true)
    (hsubject : isOpaqueSubject e.actorType e.actorSubject = true) (hfew : e.facts.length ≤ 64)
    (hlawful : ∀ m ∈ e.facts, isLawful m = true) (hscalar : ∀ m ∈ e.facts, isScalar m.2 = true) :
    e.Accepted ↔ ∀ m ∈ e.facts, isFactValue 1 m.2 = true :=
  (accepted_iff hentry hsubject).trans (isFacts_iff_of_scalars hfew hlawful hscalar)

theorem accepted_approval_iff {approvalId operatorSubject reasonCode : String}
    {verdict : ApprovalVerdict} {actionId : Option String} (happroval : isUlid approvalId = true)
    (hreason : isReasonCode reasonCode = true)
    (haction : ∀ id ∈ actionId.toList, isUlid id = true) :
    (approvalEvidence approvalId operatorSubject verdict.value reasonCode actionId).Accepted ↔
      ∀ id ∈ approvalId :: actionId.toList, isNumber id = false := by
  have hcode := isMachineCode_toUpper hreason
  have hentry : isEntryType "APPROVAL_ACTED" = true := by decide
  have hkeys : "approval_id" ∈ evidenceKeys ∧ "approval_verdict" ∈ evidenceKeys ∧
      "action_id" ∈ evidenceKeys := by decide
  have hactions : (∀ id ∈ actionId.toList, isFactText id = true) ↔
      ∀ id ∈ actionId.toList, isNumber id = false :=
    forall₂_congr fun id hid => isFactText_ulid_iff (haction id hid)
  have hlength := length_actionFact actionId
  rw [accepted_scalars_iff (e := approvalEvidence approvalId operatorSubject verdict.value reasonCode
    actionId) hentry (isOpaqueSubject_hashedOperator _)]
  · simp only [approvalEvidence, List.forall_mem_append, forall_actionFact, List.forall_mem_cons,
      List.not_mem_nil, IsEmpty.forall_iff, implies_true, and_true, isFactValue_str, hactions,
      isFactText_ulid_iff happroval, isFactText_verdict, isFactText_of_isMachineCode hcode]
  · simp only [approvalEvidence, List.length_append, List.length_cons, List.length_nil]
    omega
  · simp only [approvalEvidence, List.forall_mem_append, forall_actionFact, List.forall_mem_cons,
      List.not_mem_nil, IsEmpty.forall_iff, implies_true, and_true, isLawful_of_mem hkeys.1,
      isLawful_of_mem hkeys.2.1, isLawful_of_mem hkeys.2.2, isLawful_reasonCode hcode]
  · simp only [approvalEvidence, List.forall_mem_append, forall_actionFact, List.forall_mem_cons,
      List.not_mem_nil, IsEmpty.forall_iff, implies_true, and_true, isScalar_str]

omit [Hashlib] in
theorem accepted_request_iff {approvalId operatorSubject verdict reasonCode : String}
    (happroval : isUlid approvalId = true) (hreason : isReasonCode reasonCode = true)
    (hverdict : isFactText verdict = true)
    (hsubject : isOpaqueSubject .operator operatorSubject = true) :
    (requestEvidence approvalId operatorSubject verdict reasonCode).Accepted ↔
      ∀ id ∈ [approvalId], isNumber id = false := by
  have hcode := isMachineCode_toUpper hreason
  have hentry : isEntryType (requestEvidence approvalId operatorSubject verdict reasonCode).entryType
      = true := by
    unfold requestEvidence
    dsimp only
    split
    · decide
    · decide
  have hkeys : "approval_id" ∈ evidenceKeys ∧ "approval_verdict" ∈ evidenceKeys := by decide
  rw [accepted_scalars_iff hentry hsubject]
  · simp only [requestEvidence, List.forall_mem_cons, List.not_mem_nil, IsEmpty.forall_iff,
      implies_true, and_true, isFactValue_str, isFactText_ulid_iff happroval, hverdict,
      isFactText_of_isMachineCode hcode]
  · exact Nat.le_of_ble_eq_true rfl
  · simp only [requestEvidence, List.forall_mem_cons, List.not_mem_nil, IsEmpty.forall_iff,
      implies_true, and_true, isLawful_of_mem hkeys.1, isLawful_of_mem hkeys.2,
      isLawful_reasonCode hcode]
  · simp only [requestEvidence, List.forall_mem_cons, List.not_mem_nil, IsEmpty.forall_iff,
      implies_true, and_true, isScalar_str]

/-- Evidence of a worker with short facts under keys that hold no code. -/
theorem accepted_worker_iff {entryType name : String} {facts : List (String × Json)}
    (hentry : isEntryType entryType = true) (hfew : facts.length ≤ 64)
    (hkeys : ∀ m ∈ facts, m.1 ∈ evidenceKeys) (hscalar : ∀ m ∈ facts, isScalar m.2 = true) :
    AuditEvidence.Accepted ⟨entryType, .worker, workerSubject name, facts⟩ ↔
      ∀ m ∈ facts, isFactValue 1 m.2 = true :=
  accepted_scalars_iff (e := ⟨entryType, .worker, workerSubject name, facts⟩) hentry
    (isOpaqueSubject_workerSubject name) hfew (fun m hm => isLawful_of_mem (hkeys m hm)) hscalar

/-! ## What the outcomes carry -/

omit [Hashlib] in
theorem checks_of_admitsDecision {books : CaseBooks} {d : DecisionRow}
    (h : books.admitsDecision d = true) :
    isUlid d.id = true ∧ d.diagnosisFallbackReasonCode.all isFallbackReasonCode = true := by
  simp only [CaseBooks.admitsDecision, DecisionRow.checks, Bool.and_eq_true] at h
  obtain ⟨⟨⟨⟨⟨⟨⟨⟨⟨hid, -⟩, -⟩, -⟩, -⟩, -⟩, -⟩, hfallback⟩, -⟩, -⟩ := h
  exact ⟨hid, hfallback⟩

omit [Hashlib] in
theorem isUlid_of_admitsAction {books : CaseBooks} {clock : Timestamp} {a : ActionRecord}
    (h : books.admitsAction clock a = true) : isUlid a.id = true := by
  simp only [CaseBooks.admitsAction, Bool.and_eq_true] at h
  obtain ⟨⟨⟨⟨⟨⟨⟨⟨-, hid⟩, -⟩, -⟩, -⟩, -⟩, -⟩, -⟩, -⟩ := h
  exact hid

theorem length_reasons_of_reviewed {planner : AssessmentPlanner} {s : AssessmentSnapshot}
    {truth : FreshProviderPaymentTruth} {health : FreshMethodHealthTruth}
    {diagnosis : DiagnosisResult} {proposal : ActionProposal} {decision : GateDecision}
    (h : Reviewed planner s truth health diagnosis proposal decision) :
    decision.reasons.length ≤ 30 := by
  have hdecided := h.decided
  unfold planningDecision at hdecided
  split at hdecided
  next =>
    split at hdecided
    next =>
      dsimp only at hdecided
      obtain ⟨_, -, hdecided⟩ := bind_ok_iff.mp hdecided
      obtain ⟨_, -, hdecided⟩ := bind_ok_iff.mp hdecided
      obtain ⟨_, -, hdecided⟩ := bind_ok_iff.mp hdecided
      obtain ⟨d, hgate, hdecided⟩ := bind_ok_iff.mp hdecided
      obtain ⟨-, rfl⟩ := Prod.mk.inj (pure_ok_iff.mp hdecided)
      exact length_reasons_of_policy (liftDomain_ok_iff.mp hgate)
    next => exact absurd hdecided (by simp)
  next => exact absurd hdecided (by simp)

/-- A plan without an effect that is persisted. -/
theorem sound_of_blocked {repository : AssessmentRepository} {readings : CommitReadings}
    {command : AssessRecoveryCaseCommand} {s : AssessmentSnapshot}
    {truth : FreshProviderPaymentTruth} {health : FreshMethodHealthTruth}
    {plan : BlockedAssessmentPlan} {policyVersion : String} {books after : CaseBooks}
    (h : persistBlocked repository readings command s truth health plan policyVersion books =
      .ok after) :
    isUlid readings.decisionId = true ∧
      plan.diagnosis.provenance.fallbackReasonCode.all isFallbackReasonCode = true := by
  obtain ⟨old, finish, approvals, -, -, -, -, hadmitted, -⟩ := persistBlocked_ok h
  exact checks_of_admitsDecision hadmitted.decision

/-- A committed assessment: its ids are ULIDs and its reasons are codes. -/
theorem AssessedCase.sound (a : AssessedCase) :
    a.diagnosis.provenance.fallbackReasonCode.all isFallbackReasonCode = true ∧
      isUlid a.result.decisionId = true ∧ a.result.reasonCodes.length ≤ 30 ∧
      (∀ code ∈ a.result.reasonCodes, isMachineCode code = true) ∧
      ∀ id ∈ (a.result.effect.map EffectReferences.actionId).toList, isUlid id = true := by
  have h := a.persisted
  unfold commitWork at h
  obtain ⟨_, -, h⟩ := bind_ok_iff.mp h
  obtain ⟨s, -, h⟩ := bind_ok_iff.mp h
  obtain ⟨_, -, h⟩ := bind_ok_iff.mp h
  obtain ⟨_, -, h⟩ := bind_ok_iff.mp h
  obtain ⟨_, -, h⟩ := bind_ok_iff.mp h
  obtain ⟨plan, hplan, h⟩ := bind_ok_iff.mp h
  obtain ⟨after, hafter, h⟩ := bind_ok_iff.mp h
  obtain ⟨-, hresult⟩ := Prod.mk.inj (pure_ok_iff.mp h)
  rw [← hresult]
  cases planned_of_ok hplan with
  | notFailed =>
    obtain ⟨hid, hfallback⟩ := sound_of_blocked hafter
    refine ⟨hfallback, hid, Nat.le_of_ble_eq_true rfl, ?_, nofun⟩
    intro code hcode
    rw [List.mem_singleton.mp hcode]
    decide
  | notEligible =>
    obtain ⟨hid, hfallback⟩ := sound_of_blocked hafter
    refine ⟨hfallback, hid, Nat.le_of_ble_eq_true rfl, ?_, nofun⟩
    intro code hcode
    rw [List.mem_singleton.mp hcode]
    decide
  | denied hreviewed =>
    obtain ⟨hid, hfallback⟩ := sound_of_blocked hafter
    refine ⟨hfallback, hid, ?_, ?_, nofun⟩
    · show (List.map _ _).length ≤ 30
      rw [List.length_map]
      exact length_reasons_of_reviewed hreviewed
    · intro code hcode
      obtain ⟨reason, -, rfl⟩ := List.mem_map.mp hcode
      exact isMachineCode_gateReason reason
  | authorized _ _ hauthorized =>
    obtain ⟨old, payload, -, -, -, hadmitted, -⟩ := persistAuthorized_ok hafter
    obtain ⟨hid, hfallback⟩ := checks_of_admitsDecision hadmitted.decision
    have haction := isUlid_of_admitsAction (hadmitted.inserted _ List.mem_cons_self)
    have hdiagnosis := (authorizedPlan_ok hauthorized).diagnosis
    refine ⟨?_, hid, Nat.zero_le _, nofun, ?_⟩
    · rw [← hdiagnosis]
      exact hfallback
    · intro id hmem
      rw [List.mem_singleton.mp hmem]
      exact haction

/-- The action of a verdict, if it has one, has a ULID. -/
theorem isUlid_of_work {service : ApprovalService} {call : ApprovalCall}
    {met : ApprovalCircumstances} {stale seen books after : CaseBooks}
    {result : ApprovalActionResult}
    (h : service.work call met stale seen books = .ok (after, result)) :
    ∀ id ∈ result.actionId.toList, isUlid id = true := by
  have hclosed : ∀ {loaded terms updateFailed caseFailed},
      closeApproval met stale loaded terms updateFailed caseFailed books = .ok (after, result) →
        ∀ id ∈ result.actionId.toList, isUlid id = true := by
    intro loaded terms updateFailed caseFailed hclose
    obtain ⟨-, _, _, -, -, -, rfl⟩ := closeApproval_ok hclose
    exact nofun
  unfold ApprovalService.work at h
  obtain ⟨_, -, h⟩ := bind_ok_iff.mp h
  obtain ⟨_, -, h⟩ := bind_ok_iff.mp h
  obtain ⟨loaded, -, h⟩ := bind_ok_iff.mp h
  split at h
  next =>
    unfold rejectApproval at h
    obtain ⟨proposal, -, h⟩ := bind_ok_iff.mp h
    obtain ⟨_, -, h⟩ := bind_ok_iff.mp h
    exact hclosed h
  next =>
    unfold approveProposal at h
    obtain ⟨proposal, -, h⟩ := bind_ok_iff.mp h
    obtain ⟨⟨truth, health⟩, -, h⟩ := bind_ok_iff.mp h
    dsimp only at h
    split at h
    next => exact hclosed h
    next =>
      obtain ⟨decision, -, h⟩ := bind_ok_iff.mp h
      split at h
      next => exact hclosed h
      next =>
        obtain ⟨effect, -, h⟩ := bind_ok_iff.mp h
        obtain ⟨_, _, _, -, -, -, -, haction, -, -, rfl⟩ := commitApproved_ok h
        intro id hmem
        rw [List.mem_singleton.mp hmem]
        exact isUlid_of_admitsAction haction

/-- A verdict that is written: its ids are ULIDs and its reason is one of the service. -/
theorem DecidedApproval.sound (a : DecidedApproval) :
    isUlid a.result.approvalId = true ∧ isReasonCode a.reasonCode = true ∧
      ∀ id ∈ a.result.actionId.toList, isUlid id = true := by
  have h := a.written
  obtain ⟨loaded, terms, approval, c, hgiven⟩ := work_ok h
  have hcheck : a.call.check = .ok () := by
    unfold ApprovalService.work at h
    obtain ⟨_, hcheck, -⟩ := bind_ok_iff.mp h
    exact called_ok_iff.mp hcheck
  unfold ApprovalCall.check at hcheck
  simp only [bind_ok_iff, raiseIf_ok_iff, not_not, exists_and_left, exists_const] at hcheck
  obtain ⟨-, happroval, -, hreason, -⟩ := hcheck
  refine ⟨hgiven.resultApproval ▸ happroval, ?_, ?_⟩
  · unfold DecidedApproval.reasonCode
    split
    · decide
    · decide
    · exact hreason
  · exact isUlid_of_work h

omit [Hashlib] in
theorem verdict_of_close {call : ApprovalRequestCall} {met : ApprovalRequestCircumstances}
    {c : CaseRecord} {verdict : ApprovalVerdict} {subject : Option String}
    {reasonCode updateFailed caseFailed : String} {books after : CaseBooks}
    {result : ApprovalRequestResult}
    (h : closeRequested call met c verdict subject reasonCode updateFailed caseFailed books =
      .ok (after, result)) : isFactText result.verdict = true := by
  unfold closeRequested at h
  obtain ⟨_, -, h⟩ := bind_ok_iff.mp h
  obtain ⟨_, -, h⟩ := bind_ok_iff.mp h
  obtain ⟨-, rfl⟩ := Prod.mk.inj (pure_ok_iff.mp h)
  exact isFactText_verdict verdict

/-- A request that is not refused: its id is a ULID, its reason and its verdict are codes. -/
theorem WrittenRequest.sound (r : WrittenRequest) :
    isUlid r.call.approvalId = true ∧ isReasonCode r.reasonCode = true ∧
      isFactText r.result.verdict = true := by
  have h := r.written
  unfold requestApprovalWork at h
  obtain ⟨_, hcheck, h⟩ := bind_ok_iff.mp h
  obtain ⟨_, -, h⟩ := bind_ok_iff.mp h
  obtain ⟨⟨approval, c⟩, -, h⟩ := bind_ok_iff.mp h
  obtain ⟨_, -, h⟩ := bind_ok_iff.mp h
  rw [called_ok_iff] at hcheck
  unfold ApprovalRequestCall.check at hcheck
  simp only [bind_ok_iff, raiseIf_ok_iff, not_not, exists_and_left, exists_const] at hcheck
  obtain ⟨-, happroval, -, hreason, -⟩ := hcheck
  refine ⟨happroval, ?_, ?_⟩
  · unfold WrittenRequest.reasonCode
    split
    · decide
    · exact hreason
  · unfold actRequested at h
    split_ifs at h with hpending hsame hstate hexpired hrejected
    · obtain ⟨-, hresult⟩ := Prod.mk.inj (Except.ok.inj h)
      rw [← hresult]
      exact isFactText_verdict _
    · exact verdict_of_close h
    · obtain ⟨_, -, h⟩ := bind_ok_iff.mp h
      exact verdict_of_close h
    · unfold queueRequested at h
      obtain ⟨_, -, h⟩ := bind_ok_iff.mp h
      obtain ⟨_, -, h⟩ := bind_ok_iff.mp h
      have hqueued : r.result.verdict = "APPROVAL_QUEUED" := by
        split at h
        next =>
          obtain ⟨_, -, h⟩ := bind_ok_iff.mp h
          obtain ⟨-, hresult⟩ := Prod.mk.inj (pure_ok_iff.mp h)
          rw [← hresult]
        next =>
          obtain ⟨_, -, h⟩ := bind_ok_iff.mp h
          obtain ⟨-, hresult⟩ := Prod.mk.inj (pure_ok_iff.mp h)
          rw [← hresult]
      rw [hqueued]
      decide +kernel

theorem isOpaqueSubject_derivedSubject (call : ApprovalRequestCall) :
    isOpaqueSubject .operator call.derivedSubject = true :=
  isOpaqueSubject_hashedOperator call.operatorSubject

/-! ## Every outcome -/

/-- Where no result of a cancellation is in question, the identifiers decide. -/
theorem spelled_iff {o : AuditedOutcome} (h : ∀ result, o ≠ .cancellationResult result) :
    o.Spelled ↔ ∀ id ∈ o.identifiers, isNumber id = false :=
  ⟨fun hspelled => hspelled.identifiers,
    fun hids => ⟨hids, fun result heq => absurd heq (h result)⟩⟩

/-- The profile accepts an outcome that is spelled as it asks, and no other. -/
theorem accepted_iff_spelled (o : AuditedOutcome) : o.evidence.Accepted ↔ o.Spelled := by
  cases o with
  | assessed a =>
    obtain ⟨hfallback, hdecision, hfew, hcodes, haction⟩ := a.sound
    rw [spelled_iff (o := .assessed a) (by simp)]
    exact accepted_assessment_iff hfallback hdecision hfew hcodes haction
  | decided a =>
    obtain ⟨happroval, hreason, haction⟩ := a.sound
    rw [spelled_iff (o := .decided a) (by simp)]
    exact accepted_approval_iff happroval hreason haction
  | requested r =>
    obtain ⟨happroval, hreason, hverdict⟩ := r.sound
    rw [spelled_iff (o := .requested r) (by simp)]
    exact accepted_request_iff happroval hreason hverdict (isOpaqueSubject_derivedSubject r.call)
  | effectAuthorized actionId decision reconciliationOnly =>
    have hdigest := isFactText_hexdigest_iff (canonicalJsonBytes decision.toPrimitive)
    have hentry : isEntryType "EFFECT_AUTHORIZED" = true := by decide
    rw [spelled_iff (o := .effectAuthorized actionId decision reconciliationOnly) (by simp)]
    refine (accepted_worker_iff hentry (Nat.le_of_ble_eq_true rfl) ?_ ?_).trans ?_
    · simp [evidenceKeys]
    · simp [isScalar_str, isScalar_bool]
    · simp only [AuditedOutcome.identifiers, List.forall_mem_cons, List.not_mem_nil,
        IsEmpty.forall_iff, implies_true, and_true, isFactValue_str, isFactValue_bool,
        isFactText_ulid_iff actionId.isUlid_value, GateDecision.decisionDigest, sha256Json, hdigest]
  | effectResult actionId result =>
    have hentry : isEntryType "EFFECT_RESULT_COMMITTED" = true := by decide
    rw [spelled_iff (o := .effectResult actionId result) (by simp)]
    refine (accepted_worker_iff hentry (Nat.le_of_ble_eq_true rfl) ?_ ?_).trans ?_
    · simp [resultAuditFacts, evidenceKeys]
    · simp [resultAuditFacts, isScalar_str]
    · simp only [resultAuditFacts, AuditedOutcome.identifiers, List.forall_mem_cons,
        List.not_mem_nil, IsEmpty.forall_iff, implies_true, and_true, true_and, isFactValue_str,
        isFactText_ulid_iff actionId.isUlid_value, isFactText_executionDisposition,
        isFactText_hexdigest_iff]
  | cancellationScheduled actionId instrumentId =>
    have hentry : isEntryType "CANCELLATION_SCHEDULED" = true := by decide
    rw [spelled_iff (o := .cancellationScheduled actionId instrumentId) (by simp)]
    refine (accepted_worker_iff hentry (Nat.le_of_ble_eq_true rfl) ?_ ?_).trans ?_
    · simp [evidenceKeys]
    · simp [isScalar_str]
    · simp only [AuditedOutcome.identifiers, List.forall_mem_cons, List.not_mem_nil,
        IsEmpty.forall_iff, implies_true, and_true, isFactValue_str,
        isFactText_ulid_iff actionId.isUlid_value, isFactText_ulid_iff instrumentId.isUlid_value]
  | cancellationAuthorized decision =>
    have hdigest := isFactText_hexdigest_iff (canonicalJsonBytes decision.toPrimitive)
    have hentry : isEntryType "CANCELLATION_AUTHORIZED" = true := by decide
    rw [spelled_iff (o := .cancellationAuthorized decision) (by simp)]
    refine (accepted_worker_iff hentry (Nat.le_of_ble_eq_true rfl) ?_ ?_).trans ?_
    · simp [evidenceKeys]
    · simp [isScalar_str]
    · simp only [AuditedOutcome.identifiers, List.forall_mem_cons, List.not_mem_nil,
        IsEmpty.forall_iff, implies_true, and_true, isFactValue_str, GateDecision.decisionDigest,
        sha256Json, hdigest]
  | cancellationResult result =>
    have hentry : isEntryType "CANCELLATION_RESULT_COMMITTED" = true := by decide
    refine (accepted_worker_iff hentry (Nat.le_of_ble_eq_true rfl) ?_ ?_).trans ?_
    · simp [evidenceKeys]
    · simp [isScalar_str, isScalar_bool]
    · simp only [List.forall_mem_cons, List.not_mem_nil, IsEmpty.forall_iff, implies_true, and_true,
        isFactValue_str, isFactValue_bool, true_and, isFactText_disposition_iff]
      constructor
      · intro hspelled
        refine ⟨nofun, ?_⟩
        rintro _ ⟨⟩
        exact hspelled
      · intro hspelled
        exact hspelled.disposition result rfl

/-- **The profile accepts what the services say exactly when it is spelled as it asks**, and
what it does not accept is refused on every chain. -/
theorem audit_evidence_accepted_iff (o : AuditedOutcome) :
    (o.evidence.Accepted ↔ o.Spelled) ∧
      ∀ (found : Bool) (elsewhere : List String) (table : AuditTable) (key : CaseKey)
        (auditEntryId : Ulid) (createdAt : Timestamp),
        append found elsewhere table (o.evidence.call key auditEntryId createdAt) =
            .error .input ↔ ¬o.Spelled := by
  refine ⟨accepted_iff_spelled o, ?_⟩
  intro found elsewhere table key auditEntryId createdAt
  rw [append_input_iff, accepted_iff_spelled o]

end

/-! ## A link that has expired -/

namespace ExpiredLink

open Cancellation Cancellation.ProtectedLink CancelPaymentLinkExecutor

section

variable [Hashlib]

/-- The provider shows the link as expired, and unpaid. -/
def truth : ProviderPaymentLinkTruth where
  paymentLinkId := paymentLinkId
  referenceId := target.referenceId
  amountMinor := 12500
  amountPaidMinor := 0
  currency := "INR"
  acceptPartial := false
  upiLink := false
  status := .expired
  valid := by
    obtain ⟨hreference, hshort⟩ := reference_ok LinkDelivery.providerAccountId LinkOffer.caseId
    simp only [TruthFields.postInit, bind_ok_iff, raiseIf_ok_iff, not_not, exists_and_left,
      exists_const]
    exact ⟨by decide, hreference, Nat.not_lt.mpr hshort, by decide, by decide, by decide, by simp⟩

def shown : CancelPorts := { ports with fetch := .ok (.truth truth) }

theorem matched : truth.matchesTarget command.target.toTargetFields = true := by
  simp only [TruthFields.matchesTarget, Bool.and_eq_true, decide_eq_true_eq, Bool.not_eq_true']
  exact ⟨⟨⟨⟨⟨rfl, rfl⟩, rfl⟩, rfl⟩, rfl⟩, rfl⟩

theorem resolved (effect : GateDecision) : ∃ result,
    executor.resolveWithoutCancel (job .normal) command LinkDelivery.workerId sampleDeadline
        effect .active .expired "pre_cancel" false = .ok (some result) ∧
      result.disposition = .expired := by
  have hreference : isCleanText 512 ("expired:" ++ command.target.targetDigest) = true :=
    isCleanText_append_digest (by decide) (Hashlib.isDigest_sha256Hexdigest _) (by decide)
  obtain ⟨completed, hcompleted, -⟩ := (held .normal).exists_complete hreference
  unfold resolveWithoutCancel
  rw [if_neg (by decide), if_neg (by decide), if_neg (by decide), if_pos rfl]
  refine ⟨_, map_ok_iff.mpr ⟨_, bind_ok_iff.mpr ⟨completed, hcompleted, rfl⟩, rfl⟩, rfl⟩

/-- The delivery completes its job. -/
theorem exists_expired : ∃ result,
    (executor.execute (job .normal) command LinkDelivery.workerId shown).result =
      .ok result ∧ result.disposition = .expired := by
  obtain ⟨effect, heffect, hallowed⟩ := evaluated
  obtain ⟨result, hresolved, hdisposition⟩ := resolved effect
  have hlease := (held .normal).lease
  have hasked : liftDomain (executor.gate.evaluateEffect command.proposal
      (refreshContext context sampleDeadline true) (some command.priorPlan)) = .ok effect :=
    liftDomain_ok_iff.mpr heffect
  have hlook : executor.look (job .normal) command LinkDelivery.workerId sampleDeadline
      sampleDeadline ports.binding ports.context (.ok truth) = .ok (.finished result) := by
    have hbinding : ports.binding = .ok (some ⟨target, target.targetDigest, .active, sampleStart⟩) :=
      rfl
    have hcontext : ports.context = .ok context := rfl
    unfold look
    rw [bind_of_ok hlease, bind_of_ok hbinding, bind_of_ok hcontext]
    simp only [bound, Option.isSome_some, Option.isNone_none, Bool.and_true]
    have hstatus : truth.status = .expired := rfl
    rw [bind_of_ok hasked, if_pos hallowed, if_pos matched, hstatus, bind_of_ok hresolved]
    rfl
  refine ⟨result, ?_, hdisposition⟩
  rw [result_execute]
  exact bind_ok_iff.mpr ⟨_, hlook, rfl⟩

end

/-- **A link that the provider shows as expired is never settled**: what the worker says of it
is refused on every chain. -/
theorem expired_link_is_refused : ∃ result : CancellationResult,
    (executor.execute (job .normal) command LinkDelivery.workerId shown).result =
      .ok result ∧
    ∀ (found : Bool) (elsewhere : List String) (table : AuditTable) (key : CaseKey)
      (auditEntryId : Ulid) (createdAt : Timestamp),
      append found elsewhere table ((AuditedOutcome.cancellationResult result).evidence.call key
        auditEntryId createdAt) = .error .input := by
  obtain ⟨result, hexecuted, hdisposition⟩ := exists_expired
  refine ⟨result, hexecuted, fun found elsewhere table key auditEntryId createdAt => ?_⟩
  rw [append_input_iff, accepted_iff_spelled]
  intro hspelled
  have hnot := hspelled.disposition result rfl
  rw [hdisposition] at hnot
  exact hnot (by decide)

end ExpiredLink
end Retrywise.ControlPlane.Audit
