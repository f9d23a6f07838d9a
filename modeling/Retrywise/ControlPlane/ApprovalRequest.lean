import Retrywise.ControlPlane.ApprovalOutcome

/-!
# Approvals: the operator's request

`approval_command.py` and `approval_request.py`: the operator's verdict as it comes in. A
rejection is written at once; an approval becomes one job for the worker, under a key that is
the approval's own.

> `request_blocked`: once an approval has a job, of whatever status, no request decides it and
> none queues another job, as long as it is pending, in time and its case awaits it.
-/

namespace Retrywise.ControlPlane

open Retrywise.Foundation Retrywise.Domain

/-! ## The command -/

structure MaterializeFields where
  merchantId : String
  approvalId : String
  operatorSubject : String
  reasonCode : String
  requestIdempotencySha256 : String
deriving DecidableEq

/-- `^operator:[0-9a-f]{64}$`. -/
def isOperatorSubject (value : String) : Bool :=
  value.toList.take 9 = "operator:".toList && isDigest (String.ofList (value.toList.drop 9))

/-- `MaterializeApprovedActionCommand.__post_init__`. -/
def MaterializeFields.postInit (c : MaterializeFields) : Except ControlPlaneError Unit := do
  raiseIf (¬isUlid c.merchantId) (.invalidValue "merchant_id is invalid")
  raiseIf (¬isUlid c.approvalId) (.invalidValue "approval_id is invalid")
  raiseIf (¬isOperatorSubject c.operatorSubject) (.invalidValue "operator_subject is invalid")
  raiseIf (¬isReasonCode c.reasonCode) (.invalidValue "reason_code is invalid")
  raiseIf (¬isDigest c.requestIdempotencySha256)
    (.invalidValue "request idempotency digest is invalid")

structure MaterializeApprovedActionCommand extends MaterializeFields where
  valid : toMaterializeFields.postInit = .ok ()

def materializeCommandType : String := "MATERIALIZE_APPROVED_ACTION"

def MaterializeFields.toPrimitive (c : MaterializeFields) : Json :=
  .obj [
    ("approval_id", .str c.approvalId),
    ("merchant_id", .str c.merchantId),
    ("operator_subject", .str c.operatorSubject),
    ("reason_code", .str c.reasonCode),
    ("request_idempotency_sha256", .str c.requestIdempotencySha256),
    ("schema", .str "retrywise-materialize-approved-action"),
    ("schema_version", .int 1)]

/-- The keys of the payload. -/
def materializeKeys : List String :=
  ["approval_id", "merchant_id", "operator_subject", "reason_code",
    "request_idempotency_sha256", "schema", "schema_version"]

/-- A member that is text; `_ulid` refuses any other and the rest take it for empty text. -/
def textMember (members : List (String × Json)) (name : String) : String :=
  match members.lookup name with
  | some (.str text) => text
  | _ => ""

/-- `value["schema_version"] == 1`, which `True` passes as well. -/
def isSchemaOne : Option Json → Bool
  | some (.int n) => n = 1
  | some (.bool flag) => flag
  | _ => false

/-- `decode_materialize_approved_action_command`. -/
def decodeMaterializeApprovedActionCommand (value : Json) (commandType : String)
    (schemaVersion : Nat) : Except ControlPlaneError MaterializeApprovedActionCommand := do
  raiseIf (commandType ≠ materializeCommandType) (.invalidValue "command type is invalid")
  raiseIf (schemaVersion ≠ 1) (.invalidValue "command schema version is invalid")
  match value with
  | .obj members => do
    raiseIf (¬((∀ key ∈ materializeKeys, key ∈ members.map Prod.fst) ∧
      ∀ key ∈ members.map Prod.fst, key ∈ materializeKeys))
      (.invalidValue "command payload fields are invalid")
    raiseIf (textMember members "schema" ≠ "retrywise-materialize-approved-action" ∨
      isSchemaOne (members.lookup "schema_version") = false)
      (.invalidValue "command payload schema is invalid")
    construct MaterializeFields.postInit MaterializeApprovedActionCommand.mk {
      merchantId := textMember members "merchant_id"
      approvalId := textMember members "approval_id"
      operatorSubject := textMember members "operator_subject"
      reasonCode := textMember members "reason_code"
      requestIdempotencySha256 := textMember members "request_idempotency_sha256" }
  | _ => .error (.invalidValue "command payload must be an object")

/-- A command that was stored is read back. -/
theorem decode_toPrimitive (c : MaterializeApprovedActionCommand) :
    decodeMaterializeApprovedActionCommand c.toPrimitive materializeCommandType 1 = .ok c := by
  unfold decodeMaterializeApprovedActionCommand
  rw [bind_of_ok (raiseIf_of_not _ (not_not.mpr rfl)),
    bind_of_ok (raiseIf_of_not _ (not_not.mpr rfl))]
  have hkeys : ¬¬((∀ key ∈ materializeKeys, key ∈ materializeKeys) ∧
      ∀ key ∈ materializeKeys, key ∈ materializeKeys) := not_not.mpr ⟨fun _ h => h, fun _ h => h⟩
  have hschema : ¬("retrywise-materialize-approved-action" ≠
      "retrywise-materialize-approved-action" ∨ isSchemaOne (some (.int 1)) = false) := by decide
  exact (bind_of_ok (raiseIf_of_not _ hkeys) _).trans
    ((bind_of_ok (raiseIf_of_not _ hschema) _).trans (construct_ok_iff.mpr ⟨c.valid, rfl⟩))

/-! ## The service -/

def ApprovalVerdict.value : ApprovalVerdict → String
  | .pending => "PENDING"
  | .approved => "APPROVED"
  | .rejected => "REJECTED"
  | .expired => "EXPIRED"
  | .cancelled => "CANCELLED"

/-- The arguments of `act`. -/
structure ApprovalRequestCall where
  merchantId : String
  approvalId : String
  operatorSubject : String
  verdict : String
  reasonCode : String
  idempotencyKey : String

/-- The checks of the arguments. -/
def ApprovalRequestCall.check (call : ApprovalRequestCall) : Except ControlPlaneError Unit := do
  raiseIf (¬isUlid call.merchantId) (.invalidValue "merchant_id is invalid")
  raiseIf (¬isUlid call.approvalId) (.invalidValue "approval_id is invalid")
  raiseIf (call.verdict ∉ ["APPROVED", "REJECTED"])
    (.invalidValue "verdict must be APPROVED or REJECTED")
  raiseIf (¬isReasonCode call.reasonCode) (.invalidValue "reason_code is invalid")
  raiseIf (call.operatorSubject = "" ∨ 200 < call.operatorSubject.toList.length)
    (.invalidValue "operator_subject is invalid")
  raiseIf (call.idempotencyKey.toList.head?.any isSpace ∨
      call.idempotencyKey.toList.getLast?.any isSpace ∨
      call.idempotencyKey.toList.length < 16 ∨ 128 < call.idempotencyKey.toList.length)
    (.invalidValue "idempotency_key is invalid")

/-- What a request meets: the clock of its transaction, the id of the job, and whether the
database is reached. -/
structure ApprovalRequestCircumstances where
  actedAt : Timestamp
  outboxJobId : String
  failure : Option ControlPlaneError

structure ApprovalRequestResult where
  approvalId : String
  verdict : String
  recoveryCaseId : String
  caseVersion : Nat
  outboxJobId : Option String := none
  commandStatus : Option String := none
deriving DecidableEq, Repr

/-- The idempotency key of the job of an approval. -/
def materializationKey (approvalId : String) : String :=
  "materialize-approved-action:" ++ approvalId

/-- The job is the approval's. -/
def JobRecord.Materializes (j : JobRecord) (merchantId approvalId : String) : Prop :=
  j.merchantId = merchantId ∧ j.idempotencyKey = materializationKey approvalId

instance (j : JobRecord) (merchantId approvalId : String) :
    Decidable (j.Materializes merchantId approvalId) := inferInstanceAs (Decidable (_ ∧ _))

namespace CaseBooks

variable (books : CaseBooks)

/-- `_LOCK_APPROVAL`. -/
def lockedApproval (merchantId approvalId : String) : Option (ApprovalRecord × CaseRecord) := do
  let a ← (Table.find ApprovalRecord.key approvalId books.approvals).filter fun a =>
    a.merchantId = merchantId
  let c ← (Table.find CaseRecord.key a.recoveryCaseId books.cases).filter fun c =>
    c.merchantId = merchantId
  return (a, c)

/-- `_EXISTING_COMMAND`. -/
def existingCommand (merchantId approvalId : String) : Option JobRecord :=
  books.jobs.find? fun j => decide (j.Materializes merchantId approvalId)

end CaseBooks

section

variable [Hashlib] (call : ApprovalRequestCall) (met : ApprovalRequestCircumstances)
  (a : ApprovalRecord) (c : CaseRecord)

/-- `derived_subject`. -/
def ApprovalRequestCall.derivedSubject : String :=
  "operator:" ++ Hashlib.sha256Hexdigest call.operatorSubject.toUTF8

/-- The command of an approval that is to be carried out. -/
def ApprovalRequestCall.commandFields : MaterializeFields where
  merchantId := call.merchantId
  approvalId := call.approvalId
  operatorSubject := call.derivedSubject
  reasonCode := call.reasonCode
  requestIdempotencySha256 := Hashlib.sha256Hexdigest call.idempotencyKey.toUTF8

/-- The row of `_INSERT_COMMAND`. -/
def materializationRow (command : MaterializeApprovedActionCommand) : JobRecord where
  id := met.outboxJobId
  merchantId := command.merchantId
  aggregateType := "APPROVAL"
  aggregateId := command.approvalId
  commandType := materializeCommandType
  commandSchemaVersion := 1
  idempotencyKey := materializationKey command.approvalId
  status := .pending
  attemptCount := 0
  maxAttempts := 8
  nextAttemptAt := met.actedAt
  leaseOwner := none
  leaseToken := none
  leaseExpiresAt := none
  deliveryVersion := 0
  retryMode := .normal
  lastErrorCode := none
  lastErrorAt := none
  completionReference := none
  completedAt := none
  deadLetterReason := none
  deadLetteredAt := none
  createdAt := met.actedAt
  updatedAt := met.actedAt
  commandPayload := command.toPrimitive

/-- `_REJECT_APPROVAL` and `_EXPIRE_APPROVAL`, with `_SUPPRESS_CASE`. -/
def closeRequested (verdict : ApprovalVerdict) (subject : Option String) (reasonCode : String)
    (updateFailed caseFailed : String) (books : CaseBooks) :
    Except ApprovalError (CaseBooks × ApprovalRequestResult) := do
  let books ← books.updateApproval (.conflict updateFailed) refusedVerdict call.approvalId
    (fun a => a.merchantId = call.merchantId && a.verdict = .pending) fun a => { a with
      verdict := verdict
      approverSubject := subject.or a.approverSubject
      reasonCode := some reasonCode
      actedAt := some met.actedAt }
  let books ← books.updateCase (.conflict caseFailed) refusedVerdict met.actedAt c.id
    (fun row => row.merchantId = call.merchantId && row.state = .approvalRequired &&
      row.version = c.version)
    fun row => row.suppressed reasonCode met.actedAt
  return (books, {
    approvalId := call.approvalId
    verdict := verdict.value
    recoveryCaseId := c.id
    caseVersion := c.version + 1 })

/-- A verdict of `APPROVED`: the job that is there, or a new one. -/
def queueRequested (books : CaseBooks) :
    Except ApprovalError (CaseBooks × ApprovalRequestResult) := do
  let command ← called (construct MaterializeFields.postInit MaterializeApprovedActionCommand.mk
    call.commandFields)
  raiseIf (¬isUlid met.outboxJobId) (.exception (.invalidValue "outbox_job_id is invalid"))
  match books.existingCommand call.merchantId call.approvalId with
  | some job => do
    raiseIf (job.commandPayload.canonicalText ≠ command.toPrimitive.canonicalText)
      (.conflict "approval_command_conflict")
    return (books, {
      approvalId := call.approvalId
      verdict := "APPROVAL_QUEUED"
      recoveryCaseId := c.id
      caseVersion := c.version
      outboxJobId := some job.id
      commandStatus := some job.status.value })
  | none => do
    let books ← books.insertJob refusedVerdict (materializationRow met command)
    return (books, {
      approvalId := call.approvalId
      verdict := "APPROVAL_QUEUED"
      recoveryCaseId := c.id
      caseVersion := c.version
      outboxJobId := some met.outboxJobId
      commandStatus := some OutboxStatus.pending.value })

/-- What a request does with the approval and the case it has locked. -/
def actRequested (books : CaseBooks) :
    Except ApprovalError (CaseBooks × ApprovalRequestResult) :=
  if a.verdict ≠ .pending then
    if a.verdict.value = call.verdict then
      .ok (books, {
        approvalId := call.approvalId
        verdict := a.verdict.value
        recoveryCaseId := c.id
        caseVersion := c.version })
    else .error (.conflict "approval_already_final")
  else if c.state ≠ .approvalRequired then .error (.conflict "approval_case_not_actionable")
  else if a.expiresAt ≤ met.actedAt then
    closeRequested call met c .expired none "approval_expired" "approval_expiry_failed"
      "approval_case_expiry_failed" books
  else if call.verdict = "REJECTED" then do
    raiseIf (books.existingCommand call.merchantId call.approvalId).isSome
      (.conflict "approval_materialization_already_queued")
    closeRequested call met c .rejected (some call.derivedSubject) call.reasonCode
      "approval_rejection_failed" "approval_case_rejection_failed" books
  else queueRequested call met c books

/-- `PostgresApprovalRequestService.act`, in its one transaction. -/
def requestApprovalWork (books : CaseBooks) :
    Except ApprovalError (CaseBooks × ApprovalRequestResult) := do
  called call.check
  connecting met.failure
  let (a, c) ← someOr (books.lockedApproval call.merchantId call.approvalId)
    (.notFound "approval_not_found")
  raiseIf (¬isUlid c.id) (.exception (.invalidValue "recovery_case_id is invalid"))
  actRequested call met a c books

/-- `act`: the books afterwards, and what it returns. -/
def actOnApproval (books : CaseBooks) :
    CaseBooks × Except ApprovalError ApprovalRequestResult :=
  match requestApprovalWork call met books with
  | .ok (after, result) => (after, .ok result)
  | .error e => (books, .error e)

end

/-! ## What a request does -/

namespace CaseBooks

variable {books : CaseBooks} {merchantId approvalId : String} {a : ApprovalRecord}
  {c : CaseRecord}

theorem lockedApproval_eq_some
    (h : books.lockedApproval merchantId approvalId = some (a, c)) :
    Table.find ApprovalRecord.key approvalId books.approvals = some a ∧
      a.merchantId = merchantId ∧
      Table.find CaseRecord.key a.recoveryCaseId books.cases = some c ∧
      c.merchantId = merchantId := by
  unfold CaseBooks.lockedApproval at h
  simp only [Option.bind_eq_bind, Option.bind_eq_some_iff, Option.filter_eq_some_iff,
    decide_eq_true_eq] at h
  obtain ⟨a', ⟨ha, hmerchant⟩, c', ⟨hc, hof⟩, heq⟩ := h
  obtain ⟨rfl, rfl⟩ := Prod.mk.inj (Option.some.inj heq)
  exact ⟨ha, hmerchant, hc, hof⟩

theorem existingCommand_isSome_iff :
    (books.existingCommand merchantId approvalId).isSome = true ↔
      ∃ j ∈ books.jobs, j.Materializes merchantId approvalId := by
  simp [CaseBooks.existingCommand, List.find?_isSome]

end CaseBooks

section

variable [Hashlib] {call : ApprovalRequestCall} {met : ApprovalRequestCircumstances}
  {books after : CaseBooks} {a : ApprovalRecord} {c : CaseRecord}
  {result : ApprovalRequestResult}

omit [Hashlib] in
theorem closeRequested_ok {verdict : ApprovalVerdict} {subject : Option String}
    {reasonCode updateFailed caseFailed : String}
    (h : closeRequested call met c verdict subject reasonCode updateFailed caseFailed books =
      .ok (after, result)) :
    ∃ old new oldCase newCase,
      Table.find ApprovalRecord.key call.approvalId books.approvals = some old ∧
      old.verdict = .pending ∧ new.verdict = verdict ∧ old.admits new = true ∧
      new.key = old.key ∧
      Table.find CaseRecord.key c.id books.cases = some oldCase ∧
      newCase.key = oldCase.key ∧ newCase.state = .suppressedPolicy ∧
      after = (books.setApprovals (Table.put ApprovalRecord.key new books.approvals)).setCases
        (Table.put CaseRecord.key newCase books.cases) := by
  unfold closeRequested at h
  obtain ⟨decided, hdecided, h⟩ := bind_ok_iff.mp h
  obtain ⟨closed, hclosed, h⟩ := bind_ok_iff.mp h
  obtain ⟨old, hold, happlies, hadmits, rfl⟩ := CaseBooks.updateApproval_ok_iff.mp hdecided
  obtain ⟨oldCase, hcase, -, -, rfl⟩ := CaseBooks.updateCase_ok_iff.mp hclosed
  obtain ⟨rfl, -⟩ := Prod.mk.inj (pure_ok_iff.mp h)
  simp only [Bool.and_eq_true, decide_eq_true_eq] at happlies
  exact ⟨old, _, oldCase, oldCase.suppressed reasonCode met.actedAt, hold, happlies.2, rfl, hadmits,
    rfl, hcase, rfl, rfl, rfl⟩

/-- A request that is not refused: nothing, a verdict that closes the case, or one new job of a
pending approval that has none. -/
inductive Requested (call : ApprovalRequestCall) (met : ApprovalRequestCircumstances)
    (books : CaseBooks) : CaseBooks → Prop
  | nothing : Requested call met books books
  | closed {old new : ApprovalRecord} {oldCase newCase : CaseRecord}
      (hold : Table.find ApprovalRecord.key new.key books.approvals = some old)
      (hadmits : old.admits new = true) (hdecided : new.verdict ≠ .pending)
      (hcase : Table.find CaseRecord.key newCase.key books.cases = some oldCase)
      (hstate : newCase.state = .suppressedPolicy) :
      Requested call met books
        ((books.setApprovals (Table.put ApprovalRecord.key new books.approvals)).setCases
          (Table.put CaseRecord.key newCase books.cases))
  | queued {pending : ApprovalRecord} {command : MaterializeApprovedActionCommand}
      (hfound : Table.find ApprovalRecord.key command.approvalId books.approvals = some pending)
      (hmerchant : pending.merchantId = command.merchantId)
      (hnone : ∀ j ∈ books.jobs, ¬j.Materializes command.merchantId command.approvalId)
      (hnew : ∀ old ∈ books.jobs, old.id ≠ met.outboxJobId) :
      Requested call met books (books.setJobs (books.jobs ++ [materializationRow met command]))

omit [Hashlib] in
/-- The jobs a request leaves: one more, of an approval that is there, or the same. -/
theorem Requested.jobs (h : Requested call met books after) :
    after.jobs = books.jobs ∨ ∃ command, after.jobs = books.jobs ++ [materializationRow met command] ∧
      (∀ old ∈ books.jobs, old.id ≠ met.outboxJobId) ∧
      ∃ a, Table.find ApprovalRecord.key command.approvalId after.approvals = some a ∧
        a.merchantId = command.merchantId := by
  cases h with
  | nothing => exact .inl rfl
  | closed => exact .inl rfl
  | @queued pending command hfound hmerchant hnone hnew =>
    exact .inr ⟨command, rfl, hnew, pending, hfound, hmerchant⟩

omit [Hashlib] in
theorem requested_of_close {verdict : ApprovalVerdict} {subject : Option String}
    {reasonCode updateFailed caseFailed : String} (hverdict : verdict ≠ .pending)
    (h : closeRequested call met c verdict subject reasonCode updateFailed caseFailed books =
      .ok (after, result)) : Requested call met books after := by
  obtain ⟨old, new, oldCase, newCase, hold, -, hnew, hadmits, hkey, hcase, hkeyCase, hstate,
    rfl⟩ := closeRequested_ok h
  have hid : new.key = call.approvalId := hkey.trans (Table.key_of_find hold)
  have hidCase : newCase.key = c.id := hkeyCase.trans (Table.key_of_find hcase)
  rw [← hid] at hold
  rw [← hidCase] at hcase
  exact .closed hold hadmits (hnew ▸ hverdict) hcase hstate

theorem requested_of_queue (hlocked : books.lockedApproval call.merchantId call.approvalId =
      some (a, c)) (h : queueRequested call met c books = .ok (after, result)) :
    Requested call met books after := by
  unfold queueRequested at h
  obtain ⟨command, hcommand, h⟩ := bind_ok_iff.mp h
  obtain ⟨_, -, h⟩ := bind_ok_iff.mp h
  obtain ⟨_, rfl⟩ := construct_ok_iff.mp (called_ok_iff.mp hcommand)
  obtain ⟨ha, hmerchant, -, -⟩ := CaseBooks.lockedApproval_eq_some hlocked
  split at h
  next job hjob =>
    obtain ⟨_, -, h⟩ := bind_ok_iff.mp h
    obtain ⟨rfl, -⟩ := Prod.mk.inj (pure_ok_iff.mp h)
    exact .nothing
  next hnone =>
    obtain ⟨inserted, hinserted, h⟩ := bind_ok_iff.mp h
    obtain ⟨hadmits, rfl⟩ := CaseBooks.insertJob_ok_iff.mp hinserted
    obtain ⟨rfl, -⟩ := Prod.mk.inj (pure_ok_iff.mp h)
    have hnew := CaseBooks.id_ne_of_admitsJob hadmits
    refine .queued ha hmerchant (fun j hj hmine => ?_) hnew
    have hsome : (books.existingCommand call.merchantId call.approvalId).isSome = true :=
      CaseBooks.existingCommand_isSome_iff.mpr ⟨j, hj, hmine⟩
    rw [hnone] at hsome
    exact absurd hsome (by simp)

theorem requested_of_act (h : (actOnApproval call met books).1 = after) :
    Requested call met books after := by
  unfold actOnApproval at h
  split at h
  next written result hwork =>
    obtain rfl := h
    unfold requestApprovalWork at hwork
    obtain ⟨_, -, hwork⟩ := bind_ok_iff.mp hwork
    obtain ⟨_, -, hwork⟩ := bind_ok_iff.mp hwork
    obtain ⟨⟨a, c⟩, hlocked, hwork⟩ := bind_ok_iff.mp hwork
    obtain ⟨_, -, hwork⟩ := bind_ok_iff.mp hwork
    rw [someOr_ok_iff] at hlocked
    unfold actRequested at hwork
    split at hwork
    next =>
      split at hwork
      next =>
        obtain ⟨rfl, -⟩ := Prod.mk.inj (Except.ok.inj hwork)
        exact .nothing
      next => exact absurd hwork (by simp)
    next =>
      split at hwork
      next => exact absurd hwork (by simp)
      next =>
        split at hwork
        next => exact requested_of_close (by simp) hwork
        next =>
          split at hwork
          next =>
            obtain ⟨_, -, hwork⟩ := bind_ok_iff.mp hwork
            exact requested_of_close (by simp) hwork
          next => exact requested_of_queue hlocked hwork
  next =>
    obtain rfl := h
    exact .nothing

/-- Whatever the status of the job, a request on a pending approval in time changes nothing. -/
theorem request_blocked
    (hfound : Table.find ApprovalRecord.key call.approvalId books.approvals = some a)
    (hpending : a.verdict = .pending)
    (hcase : Table.find CaseRecord.key a.recoveryCaseId books.cases = some c)
    (hawaits : c.state = .approvalRequired) (hintime : met.actedAt < a.expiresAt)
    (hjob : ∃ j ∈ books.jobs, j.Materializes a.merchantId call.approvalId) :
    (actOnApproval call met books).1 = books := by
  unfold actOnApproval
  split
  next written result hwork =>
    unfold requestApprovalWork at hwork
    obtain ⟨_, -, hwork⟩ := bind_ok_iff.mp hwork
    obtain ⟨_, -, hwork⟩ := bind_ok_iff.mp hwork
    obtain ⟨⟨b, d⟩, hlocked, hwork⟩ := bind_ok_iff.mp hwork
    obtain ⟨_, -, hwork⟩ := bind_ok_iff.mp hwork
    obtain ⟨hb, hmerchant, hd, -⟩ :=
      CaseBooks.lockedApproval_eq_some (someOr_ok_iff.mp hlocked)
    obtain rfl := Option.some.inj (hfound.symm.trans hb)
    obtain rfl := Option.some.inj (hcase.symm.trans hd)
    rw [hmerchant] at hjob
    have hsome := CaseBooks.existingCommand_isSome_iff.mpr hjob
    unfold actRequested at hwork
    rw [if_neg (not_not.mpr hpending), if_neg (not_not.mpr hawaits),
      if_neg (not_le.mpr hintime)] at hwork
    split at hwork
    next =>
      obtain ⟨_, hnone, -⟩ := bind_ok_iff.mp hwork
      exact absurd hsome (raiseIf_ok_iff.mp hnone)
    next =>
      unfold queueRequested at hwork
      obtain ⟨command, -, hwork⟩ := bind_ok_iff.mp hwork
      obtain ⟨_, -, hwork⟩ := bind_ok_iff.mp hwork
      split at hwork
      next job hjob =>
        obtain ⟨_, -, hwork⟩ := bind_ok_iff.mp hwork
        exact (Prod.mk.inj (pure_ok_iff.mp hwork)).1.symm
      next hnone => exact absurd hsome (by rw [hnone]; simp)
  next => rfl

end

end Retrywise.ControlPlane
