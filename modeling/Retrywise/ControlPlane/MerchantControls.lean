import Retrywise.ControlPlane.CaseBooks
import Retrywise.Foundation.CommandLog
import Retrywise.Foundation.Serialized

/-!
# Merchant controls

The operator's two controls of a merchant, from `merchant_controls.py` and
`diagnosis_controls.py`: the kill switch and the diagnosis mode. Each is a column of the
merchant's row with an append-only log of the commands that set it
(`merchant_control_events`, `diagnosis_mode_events`), and a call of either service holds the
merchant's row lock from its first statement to the end of its transaction.

The rows are those of one merchant. Nothing in the services updates or deletes a row of the
two logs, so the triggers that reject it have nothing to say here.

> `submit_refines`: a call that returns has submitted its request to a register with a log of
> idempotent commands.
-/

namespace Retrywise.ControlPlane

open Retrywise.Foundation Retrywise.Domain

/-! ## Rows and arguments -/

inductive MerchantControlError where
  | invalidValue (message : String)
  | notFound (message : String)
  | conflict (message : String)
  | database (message : String)
deriving DecidableEq, Repr

/-- A row of `merchant_control_events` (`setTo` is `enabled`) or of `diagnosis_mode_events`
(`setTo` is `diagnosis_mode`). -/
structure ControlEventRow (ν : Type) where
  id : String
  sequenceNumber : Nat
  setTo : ν
  reasonCode : String
  actorSubjectSha256 : String
  idempotencyKeySha256 : String
  createdAt : Timestamp

/-- A column of the merchant's row, and the events that set it. -/
structure MerchantControl (ν : Type) where
  current : ν
  events : List (ControlEventRow ν)

structure MerchantControlTables where
  merchant : MerchantRow
  killSwitchEvents : List (ControlEventRow Bool)
  diagnosisMode : DiagnosisMode
  diagnosisModeEvents : List (ControlEventRow DiagnosisMode)

/-- The parameters of the statements of a call. -/
structure ControlParams (ν : Type) where
  eventId : String
  setTo : ν
  reasonCode : String
  actorDigest : String
  keyDigest : String
  clock : Timestamp

structure ControlEventFacts where
  eventId : String
  sequenceNumber : Nat
  reasonCode : String
  changedAt : Timestamp
deriving DecidableEq

/-! ## Checks -/

/-- `_clean`. -/
def requireClean (value field : String) (minimum maximum : Nat) : Except MerchantControlError Unit :=
  raiseIf (¬(isCleanText maximum value ∧ minimum ≤ value.toList.length))
    (.invalidValue s!"{field} is invalid")

/-- `_ulid`. -/
def requireRetryWiseUlid (value field : String) : Except MerchantControlError Unit :=
  raiseIf (¬isUlid value) (.invalidValue s!"{field} must be a RetryWise ULID")

/-- `_digest`. -/
def subjectDigest [Hashlib] (value : String) : String := Hashlib.sha256Hexdigest value.toUTF8

/-- `^[a-z][a-z0-9_]{2,99}$`. -/
def isControlReason (value : String) : Bool :=
  match value.toList with
  | [] => false
  | c :: rest =>
    c.isLower && decide (2 ≤ rest.length) && decide (rest.length ≤ 99) &&
      rest.all fun d => d.isLower || d.isDigit || d = '_'

/-! ## Under the row lock -/

/-- `INSERT INTO .. SELECT COALESCE(max(sequence_number), 0) + 1`, with the keys of the
table. -/
def insertControlEvent {ν : Type} (events : List (ControlEventRow ν)) (params : ControlParams ν) :
    Except MerchantControlError (ControlEventRow ν) := do
  let event : ControlEventRow ν :=
    { id := params.eventId
      sequenceNumber := Register.nextNumber (events.map ControlEventRow.sequenceNumber)
      setTo := params.setTo
      reasonCode := params.reasonCode
      actorSubjectSha256 := params.actorDigest
      idempotencyKeySha256 := params.keyDigest
      createdAt := params.clock }
  raiseIf (events.any fun old =>
      old.id = event.id || old.sequenceNumber = event.sequenceNumber ||
        old.idempotencyKeySha256 = event.idempotencyKeySha256)
    (.database "duplicate key value violates unique constraint")
  return event

/-- The statements both services make once they have the row: a known key replays its event,
or conflicts with it; a new one sets the column and adds an event. -/
def MerchantControl.submit {ν : Type} [DecidableEq ν] (control : MerchantControl ν)
    (params : ControlParams ν) :
    Except MerchantControlError (MerchantControl ν × ControlEventRow ν × Bool) :=
  match control.events.find? fun event => event.idempotencyKeySha256 = params.keyDigest with
  | some previous => do
    raiseIf (previous.setTo ≠ params.setTo ∨ previous.reasonCode ≠ params.reasonCode ∨
        previous.actorSubjectSha256 ≠ params.actorDigest)
      (.conflict "idempotency_key_conflict")
    return (control, previous, true)
  | none => do
    let event ← insertControlEvent control.events params
    return (⟨params.setTo, control.events ++ [event]⟩, event, false)

def ControlEventRow.facts {ν : Type} (event : ControlEventRow ν) : ControlEventFacts :=
  ⟨event.id, event.sequenceNumber, event.reasonCode, event.createdAt⟩

/-! ## `set_kill_switch` -/

structure SetKillSwitch where
  merchantId : String
  enabled : Bool
  reasonCode : String
  operatorSubject : String
  idempotencyKey : String
  eventId : String
  clock : Timestamp

structure MerchantControlState where
  merchantId : String
  killSwitchEnabled : Bool
  policyVersion : String
  event : Option ControlEventFacts
  idempotentReplay : Bool
deriving DecidableEq

def enableReasons : List String := ["emergency_stop", "operator_safety_hold", "test_mode_hold"]

def disableReasons : List String := ["resume_after_verification", "enable_test_mode_effects"]

/-- `MerchantControlState.__post_init__`. -/
def MerchantControlState.postInit (state : MerchantControlState) :
    Except MerchantControlError Unit := do
  requireRetryWiseUlid state.merchantId "merchant_id"
  requireClean state.policyVersion "policy_version" 1 100
  match state.event with
  | none => return ()
  | some event => do
    requireRetryWiseUlid event.eventId "event_id"
    raiseIf (event.sequenceNumber = 0) (.invalidValue "sequence_number must be positive")
    raiseIf (¬isControlReason event.reasonCode) (.invalidValue "reason_code is invalid")

/-- What the call checks before it connects. -/
def SetKillSwitch.check (call : SetKillSwitch) : Except MerchantControlError Unit := do
  requireRetryWiseUlid call.merchantId "merchant_id"
  requireClean call.reasonCode "reason_code" 3 100
  raiseIf (call.reasonCode ∉ (if call.enabled then enableReasons else disableReasons))
    (.invalidValue "reason_code is not allowed for the requested state")
  requireClean call.operatorSubject "operator_subject" 1 200
  requireClean call.idempotencyKey "idempotency_key" 16 128
  requireRetryWiseUlid call.eventId "id_factory result"

section

variable [Hashlib]

def SetKillSwitch.params (call : SetKillSwitch) : ControlParams Bool where
  eventId := call.eventId
  setTo := call.enabled
  reasonCode := call.reasonCode
  actorDigest := subjectDigest call.operatorSubject
  keyDigest := subjectDigest call.idempotencyKey
  clock := call.clock

omit [Hashlib] in
def MerchantControlTables.killSwitch (tables : MerchantControlTables) : MerchantControl Bool :=
  ⟨tables.merchant.killSwitchEnabled, tables.killSwitchEvents⟩

omit [Hashlib] in
def MerchantControlTables.withKillSwitch (tables : MerchantControlTables)
    (control : MerchantControl Bool) : MerchantControlTables :=
  { tables with
    merchant := { tables.merchant with killSwitchEnabled := control.current }
    killSwitchEvents := control.events }

/-- `PostgresMerchantControlService.set_kill_switch`. -/
def setKillSwitch (tables : MerchantControlTables) (call : SetKillSwitch) :
    Except MerchantControlError (MerchantControlTables × MerchantControlState) := do
  call.check
  raiseIf (tables.merchant.id ≠ call.merchantId ∨ tables.merchant.status ≠ .active)
    (.notFound "merchant_control_not_found")
  let (control, event, replay) ← tables.killSwitch.submit call.params
  let state : MerchantControlState :=
    { merchantId := call.merchantId
      killSwitchEnabled := control.current
      policyVersion := tables.merchant.defaultPolicyVersion
      event := some event.facts
      idempotentReplay := replay }
  state.postInit
  return (tables.withKillSwitch control, state)

end

/-! ## `set_mode` -/

structure SetMode where
  merchantId : String
  mode : DiagnosisMode
  operatorSubject : String
  idempotencyKey : String
  eventId : String
  clock : Timestamp

structure DiagnosisControlState where
  merchantId : String
  mode : DiagnosisMode
  geminiConfigured : Bool
  event : Option ControlEventFacts
  idempotentReplay : Bool
deriving DecidableEq

/-- `_REASONS`. -/
def DiagnosisMode.reason : DiagnosisMode → String
  | .localMl => "operator_selected_local_ml"
  | .hybridGemini => "operator_selected_hybrid_gemini"
  | .shadow => "operator_selected_shadow"

/-- `DiagnosisControlState.__post_init__`. -/
def DiagnosisControlState.postInit (state : DiagnosisControlState) :
    Except MerchantControlError Unit := do
  requireRetryWiseUlid state.merchantId "merchant_id"
  match state.event with
  | none => return ()
  | some event => do
    requireRetryWiseUlid event.eventId "event_id"
    raiseIf (event.sequenceNumber = 0) (.invalidValue "sequence_number must be positive")
    raiseIf (event.reasonCode ∉ [DiagnosisMode.localMl, .hybridGemini, .shadow].map
        DiagnosisMode.reason)
      (.invalidValue "reason_code is invalid")

/-- What the call checks before it connects. -/
def SetMode.check (call : SetMode) : Except MerchantControlError Unit := do
  requireRetryWiseUlid call.merchantId "merchant_id"
  requireClean call.operatorSubject "operator_subject" 1 200
  requireClean call.idempotencyKey "idempotency_key" 16 128
  requireRetryWiseUlid call.eventId "id_factory result"

section

variable [Hashlib]

def SetMode.params (call : SetMode) : ControlParams DiagnosisMode where
  eventId := call.eventId
  setTo := call.mode
  reasonCode := call.mode.reason
  actorDigest := subjectDigest call.operatorSubject
  keyDigest := subjectDigest call.idempotencyKey
  clock := call.clock

omit [Hashlib] in
def MerchantControlTables.diagnosis (tables : MerchantControlTables) :
    MerchantControl DiagnosisMode :=
  ⟨tables.diagnosisMode, tables.diagnosisModeEvents⟩

omit [Hashlib] in
def MerchantControlTables.withDiagnosis (tables : MerchantControlTables)
    (control : MerchantControl DiagnosisMode) : MerchantControlTables :=
  { tables with
    diagnosisMode := control.current
    diagnosisModeEvents := control.events }

/-- `PostgresDiagnosisControlService.set_mode`. -/
def setMode (geminiConfigured : Bool) (tables : MerchantControlTables) (call : SetMode) :
    Except MerchantControlError (MerchantControlTables × DiagnosisControlState) := do
  call.check
  raiseIf (tables.merchant.id ≠ call.merchantId ∨ tables.merchant.status ≠ .active)
    (.notFound "diagnosis_control_not_found")
  let (control, event, replay) ← tables.diagnosis.submit call.params
  let state : DiagnosisControlState :=
    { merchantId := call.merchantId
      mode := control.current
      geminiConfigured := geminiConfigured
      event := some event.facts
      idempotentReplay := replay }
  state.postInit
  return (tables.withDiagnosis control, state)

end

/-! ## The services as one machine -/

inductive ControlCall where
  | killSwitch (call : SetKillSwitch)
  | mode (geminiConfigured : Bool) (call : SetMode)

inductive ControlReply where
  | killSwitch (state : MerchantControlState)
  | mode (state : DiagnosisControlState)

/-- One call under the row lock. -/
def merchantControls [Hashlib] :
    Machine MerchantControlTables ControlCall ControlReply MerchantControlError where
  exec tables
    | .killSwitch call => do
      let (next, state) ← setKillSwitch tables call
      return (next, .killSwitch state)
    | .mode geminiConfigured call => do
      let (next, state) ← setMode geminiConfigured tables call
      return (next, .mode state)

/-- The calls of a merchant by any callers: each takes the row lock, or waits for it, and its
transaction is committed or rolled back. -/
def lockedControls [Hashlib] :
    Machine (LockState MerchantControlTables ControlCall ControlReply Nat)
      (LockCommand ControlCall Nat) (LockOutput MerchantControlTables ControlCall ControlReply)
      MerchantControlError :=
  merchantControls.serialized (.database "waiting for the merchant's row")
    (.database "no transaction is open")

/-! ## One control -/

section

variable {ν : Type}

/-- An event, as a record of the command log: the request is the value with the reason and
the operator. -/
def ControlEventRow.record (event : ControlEventRow ν) :
    Record String (ν × String × String) (String × Timestamp) where
  number := event.sequenceNumber
  key := event.idempotencyKeySha256
  request := (event.setTo, event.reasonCode, event.actorSubjectSha256)
  mark := (event.id, event.createdAt)

def MerchantControl.register (control : MerchantControl ν) :
    Register ν String (ν × String × String) (String × Timestamp) :=
  ⟨control.current, control.events.map ControlEventRow.record⟩

def ControlParams.request (params : ControlParams ν) : ν × String × String :=
  (params.setTo, params.reasonCode, params.actorDigest)

/-- The events are numbered 1..n, the column is what event n says, and no idempotency key is
there twice. -/
structure MerchantControl.LogAgrees (control : MerchantControl ν) : Prop where
  numbers : control.events.map ControlEventRow.sequenceNumber =
    List.range' 1 control.events.length
  current : ∀ event, control.events.getLast? = some event → control.current = event.setTo
  keys : (control.events.map ControlEventRow.idempotencyKeySha256).Nodup

theorem ControlEventRow.record_injective :
    Function.Injective (ControlEventRow.record : ControlEventRow ν → _) := by
  intro a b h
  obtain ⟨i, n, v, r, actor, k, t⟩ := a
  obtain ⟨i', n', v', r', actor', k', t'⟩ := b
  simp only [ControlEventRow.record, Record.mk.injEq, Prod.mk.injEq] at h
  obtain ⟨rfl, rfl, ⟨rfl, rfl, rfl⟩, rfl, rfl⟩ := h
  rfl

/-- The agreement of a control is that of its register. -/
theorem MerchantControl.logAgrees_iff {control : MerchantControl ν} :
    control.LogAgrees ↔ control.register.Agrees Prod.fst := by
  constructor
  · intro h
    refine ⟨?_, ?_, ?_⟩
    · simpa [register, ControlEventRow.record, Function.comp_def] using h.numbers
    · simpa [register, ControlEventRow.record, Function.comp_def] using h.keys
    · intro e he
      rw [register, List.getLast?_map, Option.map_eq_some_iff] at he
      obtain ⟨event, hevent, rfl⟩ := he
      exact h.current event hevent
  · intro h
    refine ⟨?_, ?_, ?_⟩
    · simpa [register, ControlEventRow.record, Function.comp_def] using h.numbers
    · intro event hevent
      refine h.value event.record ?_
      rw [register, List.getLast?_map, hevent, Option.map_some]
    · simpa [register, ControlEventRow.record, Function.comp_def] using h.keys

variable [DecidableEq ν] {control next : MerchantControl ν} {params : ControlParams ν}
  {event : ControlEventRow ν} {replay : Bool}

omit [DecidableEq ν] in
/-- The row of a key is the record of that key. -/
theorem MerchantControl.find?_record {control : MerchantControl ν} {key : String} :
    (control.register.log.find? fun e => e.key = key) =
      (control.events.find? fun event => event.idempotencyKeySha256 = key).map
        ControlEventRow.record := by
  rw [register, List.find?_map]
  rfl

/-- A service submits a command to the register. -/
theorem MerchantControl.submit_refines (h : control.submit params = .ok (next, event, replay)) :
    Register.submit Prod.fst control.register params.keyDigest params.request
      (params.eventId, params.clock) = some (next.register, event.record) := by
  unfold MerchantControl.submit at h
  rw [Register.submit, find?_record]
  cases hfind : control.events.find? fun event => event.idempotencyKeySha256 = params.keyDigest with
  | some previous =>
    rw [hfind] at h
    obtain ⟨u, hsame, hout⟩ := bind_ok_iff.mp h
    rw [raiseIf_ok_iff] at hsame
    simp only [ne_eq, not_or, not_not] at hsame
    obtain ⟨hvalue, hreason, hactor⟩ := hsame
    rw [pure_ok_iff, Prod.mk.injEq, Prod.mk.injEq] at hout
    obtain ⟨rfl, rfl, -⟩ := hout
    refine if_pos ?_
    show (previous.setTo, previous.reasonCode, previous.actorSubjectSha256) = params.request
    rw [hvalue, hreason, hactor, ControlParams.request]
  | none =>
    rw [hfind] at h
    obtain ⟨added, hinsert, hout⟩ := bind_ok_iff.mp h
    rw [pure_ok_iff, Prod.mk.injEq, Prod.mk.injEq] at hout
    obtain ⟨rfl, rfl, -⟩ := hout
    obtain ⟨u, -, hadded⟩ := bind_ok_iff.mp hinsert
    rw [pure_ok_iff] at hadded
    have hnumbers : control.register.log.map Record.number =
        control.events.map ControlEventRow.sequenceNumber := by
      simp [register, ControlEventRow.record, Function.comp_def]
    show some ((⟨params.setTo, control.register.log ++ [_]⟩ : Register ν _ _ _), _) = _
    rw [hnumbers]
    simp only [register, List.map_append, List.map_singleton, ← hadded, ControlEventRow.record,
      ControlParams.request]

theorem MerchantControl.submit_agrees (h : control.submit params = .ok (next, event, replay))
    (hagrees : control.LogAgrees) : next.LogAgrees :=
  logAgrees_iff.mpr (Register.submit_agrees (logAgrees_iff.mp hagrees) (submit_refines h))

/-- What was recorded stays recorded. -/
theorem MerchantControl.submit_subset (h : control.submit params = .ok (next, event, replay)) :
    control.events ⊆ next.events := by
  intro old hold
  have hrecord : old.record ∈ next.register.log :=
    (Register.submit_grows (submit_refines h)).subset (List.mem_map_of_mem hold)
  exact (List.mem_map_of_injective ControlEventRow.record_injective).mp hrecord

/-- The event of an answer is recorded, and is what was asked for. -/
theorem MerchantControl.submit_mem (h : control.submit params = .ok (next, event, replay)) :
    event ∈ next.events ∧ event.idempotencyKeySha256 = params.keyDigest ∧
      event.record.request = params.request := by
  obtain ⟨hmem, hkey, hrequest⟩ := Register.submit_mem (submit_refines h)
  exact ⟨(List.mem_map_of_injective ControlEventRow.record_injective).mp hmem, hkey, hrequest⟩

omit [DecidableEq ν] in
/-- In an agreeing log a recorded event is found under its key. -/
theorem MerchantControl.find?_of_mem (hagrees : control.LogAgrees) (hmem : event ∈ control.events) :
    (control.events.find? fun old => old.idempotencyKeySha256 = event.idempotencyKeySha256) =
      some event := by
  have hrecord : event.record ∈ control.register.log := List.mem_map_of_mem hmem
  have hfound := Register.find?_of_mem (logAgrees_iff.mp hagrees).keys hrecord
  rw [find?_record, Option.map_eq_some_iff] at hfound
  obtain ⟨found, hfind, hsame⟩ := hfound
  obtain rfl := ControlEventRow.record_injective hsame
  exact hfind

/-- A repeated request gets the recorded event, and changes neither column nor log. -/
theorem MerchantControl.submit_again (hagrees : control.LogAgrees) (hmem : event ∈ control.events)
    (hkey : event.idempotencyKeySha256 = params.keyDigest)
    (hrequest : event.record.request = params.request) :
    control.submit params = .ok (control, event, true) := by
  rw [submit, ← hkey, find?_of_mem hagrees hmem]
  simp only [ControlEventRow.record, ControlParams.request, Prod.mk.injEq] at hrequest
  obtain ⟨hvalue, hreason, hactor⟩ := hrequest
  show (raiseIf _ _ >>= fun _ => _) = _
  rw [raiseIf_of_not]
  · rfl
  · rw [hvalue, hreason, hactor]
    simp

/-- Another request under the key of a recorded event raises. -/
theorem MerchantControl.submit_other (hagrees : control.LogAgrees) (hmem : event ∈ control.events)
    (hkey : event.idempotencyKeySha256 = params.keyDigest)
    (hrequest : event.record.request ≠ params.request) :
    control.submit params = .error (.conflict "idempotency_key_conflict") := by
  rw [submit, ← hkey, find?_of_mem hagrees hmem]
  show (raiseIf _ _ >>= fun _ => _) = _
  rw [raiseIf_of]
  · rfl
  · by_contra hnone
    simp only [ne_eq, not_or, not_not] at hnone
    obtain ⟨hvalue, hreason, hactor⟩ := hnone
    refine hrequest ?_
    show (event.setTo, event.reasonCode, event.actorSubjectSha256) = params.request
    rw [hvalue, hreason, hactor, ControlParams.request]

end

end Retrywise.ControlPlane
