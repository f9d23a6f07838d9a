import Retrywise.ControlPlane.MerchantControls

/-!
# Runs of the merchant controls

What the operator's calls leave behind, in whatever order they take the merchant's row:
calls of `set_kill_switch` and `set_mode` by any number of callers, committed, rolled back, or
sent again under their idempotency key.

The induction carries, beside the agreement of each log with its column, the answer of every
committed call: the event it got is recorded, under its key and for its request
(`SetKillSwitch.Answered`). Later calls add events and leave that as it is.

> `controls_agree`: the logs are numbered without gaps, each control is what its last event
> says, and every committed call has its answer for good.
-/

namespace Retrywise.ControlPlane

open Retrywise.Foundation Retrywise.Domain

/-! ## The same request again -/

/-- The arguments of the caller are the same. -/
def SetKillSwitch.SameRequest (a b : SetKillSwitch) : Prop :=
  a.merchantId = b.merchantId ∧ a.enabled = b.enabled ∧ a.reasonCode = b.reasonCode ∧
    a.operatorSubject = b.operatorSubject ∧ a.idempotencyKey = b.idempotencyKey

/-- The arguments of the caller are the same. -/
def SetMode.SameRequest (a b : SetMode) : Prop :=
  a.merchantId = b.merchantId ∧ a.mode = b.mode ∧ a.operatorSubject = b.operatorSubject ∧
    a.idempotencyKey = b.idempotencyKey

section

variable [Hashlib]

/-- Two operators the log cannot tell apart. -/
def SubjectCollision (a b : String) : Prop := a ≠ b ∧ subjectDigest a = subjectDigest b

/-- The call has its answer for good: its event is recorded; the same request is answered with
that event and changes nothing; another request under its key raises. -/
structure SetKillSwitch.Settled (tables : MerchantControlTables) (call : SetKillSwitch)
    (state : MerchantControlState) : Prop where
  recorded : ∃ event ∈ tables.killSwitchEvents, event.setTo = call.enabled ∧
    event.reasonCode = call.reasonCode ∧
    event.actorSubjectSha256 = subjectDigest call.operatorSubject ∧
    event.idempotencyKeySha256 = subjectDigest call.idempotencyKey ∧
    state.event = some event.facts
  retried : ∀ again : SetKillSwitch, again.SameRequest call → isUlid again.eventId →
    setKillSwitch tables again = .ok (tables,
      { merchantId := call.merchantId
        killSwitchEnabled := tables.merchant.killSwitchEnabled
        policyVersion := tables.merchant.defaultPolicyVersion
        event := state.event
        idempotentReplay := true })
  reused : ∀ other : SetKillSwitch, other.merchantId = call.merchantId →
    other.idempotencyKey = call.idempotencyKey → ¬other.SameRequest call →
    SubjectCollision other.operatorSubject call.operatorSubject ∨
      ∃ error, setKillSwitch tables other = .error error ∧
        (other.check = .ok () → error = .conflict "idempotency_key_conflict")

/-- The call has its answer for good, as with the kill switch. -/
structure SetMode.Settled (tables : MerchantControlTables) (call : SetMode)
    (state : DiagnosisControlState) : Prop where
  recorded : ∃ event ∈ tables.diagnosisModeEvents, event.setTo = call.mode ∧
    event.reasonCode = call.mode.reason ∧
    event.actorSubjectSha256 = subjectDigest call.operatorSubject ∧
    event.idempotencyKeySha256 = subjectDigest call.idempotencyKey ∧
    state.event = some event.facts
  retried : ∀ (geminiConfigured : Bool) (again : SetMode), again.SameRequest call →
    isUlid again.eventId →
    setMode geminiConfigured tables again = .ok (tables,
      { merchantId := call.merchantId
        mode := tables.diagnosisMode
        geminiConfigured := geminiConfigured
        event := state.event
        idempotentReplay := true })
  reused : ∀ (geminiConfigured : Bool) (other : SetMode), other.merchantId = call.merchantId →
    other.idempotencyKey = call.idempotencyKey → ¬other.SameRequest call →
    SubjectCollision other.operatorSubject call.operatorSubject ∨
      ∃ error, setMode geminiConfigured tables other = .error error ∧
        (other.check = .ok () → error = .conflict "idempotency_key_conflict")

/-! ## What a call leaves -/

/-- The merchant is the one the calls were made for, and what was recorded still is. -/
structure MerchantControlTables.Keeps (tables next : MerchantControlTables) : Prop where
  id : next.merchant.id = tables.merchant.id
  status : next.merchant.status = tables.merchant.status
  policy : next.merchant.defaultPolicyVersion = tables.merchant.defaultPolicyVersion
  killSwitchEvents : tables.killSwitchEvents ⊆ next.killSwitchEvents
  diagnosisModeEvents : tables.diagnosisModeEvents ⊆ next.diagnosisModeEvents

/-- Each log agrees with its column. -/
structure MerchantControlTables.Agree (tables : MerchantControlTables) : Prop where
  killSwitch : tables.killSwitch.LogAgrees
  diagnosis : tables.diagnosis.LogAgrees

/-- The call passed its checks and was answered with an event of the log. -/
structure SetKillSwitch.Answered (tables : MerchantControlTables) (call : SetKillSwitch)
    (state : MerchantControlState) : Prop where
  checked : call.check = .ok ()
  merchant : tables.merchant.id = call.merchantId
  active : tables.merchant.status = .active
  valid : state.postInit = .ok ()
  stateMerchant : state.merchantId = call.merchantId
  policy : state.policyVersion = tables.merchant.defaultPolicyVersion
  event : ∃ event ∈ tables.killSwitchEvents,
    event.idempotencyKeySha256 = call.params.keyDigest ∧
    event.record.request = call.params.request ∧ state.event = some event.facts

/-- The call passed its checks and was answered with an event of the log. -/
structure SetMode.Answered (tables : MerchantControlTables) (call : SetMode)
    (state : DiagnosisControlState) : Prop where
  checked : call.check = .ok ()
  merchant : tables.merchant.id = call.merchantId
  active : tables.merchant.status = .active
  valid : state.postInit = .ok ()
  stateMerchant : state.merchantId = call.merchantId
  event : ∃ event ∈ tables.diagnosisModeEvents,
    event.idempotencyKeySha256 = call.params.keyDigest ∧
    event.record.request = call.params.request ∧ state.event = some event.facts

variable {tables next : MerchantControlTables}

/-- A call that passes its checks and finds its merchant submits its request. -/
theorem setKillSwitch_found {call : SetKillSwitch} (hcheck : call.check = .ok ())
    (hid : tables.merchant.id = call.merchantId) (hactive : tables.merchant.status = .active) :
    setKillSwitch tables call = tables.killSwitch.submit call.params >>= fun reply => do
      let state : MerchantControlState :=
        ⟨call.merchantId, reply.1.current, tables.merchant.defaultPolicyVersion,
          some reply.2.1.facts, reply.2.2⟩
      state.postInit
      return (tables.withKillSwitch reply.1, state) := by
  have hlock : raiseIf (tables.merchant.id ≠ call.merchantId ∨ tables.merchant.status ≠ .active)
      (MerchantControlError.notFound "merchant_control_not_found") = .ok () :=
    raiseIf_of_not _ (by simp [hid, hactive])
  rw [setKillSwitch, bind_of_ok hcheck, bind_of_ok hlock]

theorem setMode_found {geminiConfigured : Bool} {call : SetMode} (hcheck : call.check = .ok ())
    (hid : tables.merchant.id = call.merchantId) (hactive : tables.merchant.status = .active) :
    setMode geminiConfigured tables call = tables.diagnosis.submit call.params >>= fun reply => do
      let state : DiagnosisControlState :=
        ⟨call.merchantId, reply.1.current, geminiConfigured, some reply.2.1.facts, reply.2.2⟩
      state.postInit
      return (tables.withDiagnosis reply.1, state) := by
  have hlock : raiseIf (tables.merchant.id ≠ call.merchantId ∨ tables.merchant.status ≠ .active)
      (MerchantControlError.notFound "diagnosis_control_not_found") = .ok () :=
    raiseIf_of_not _ (by simp [hid, hactive])
  rw [setMode, bind_of_ok hcheck, bind_of_ok hlock]

/-- A call that returns has submitted its request, and its state is well formed. -/
theorem setKillSwitch_ok {call : SetKillSwitch} {state : MerchantControlState}
    (h : setKillSwitch tables call = .ok (next, state)) :
    call.check = .ok () ∧ tables.merchant.id = call.merchantId ∧
      tables.merchant.status = .active ∧
      ∃ control event replay, tables.killSwitch.submit call.params = .ok (control, event, replay) ∧
        state = ⟨call.merchantId, control.current, tables.merchant.defaultPolicyVersion,
          some event.facts, replay⟩ ∧
        state.postInit = .ok () ∧ next = tables.withKillSwitch control := by
  obtain ⟨⟨⟩, hcheck, hrest⟩ := bind_ok_iff.mp h
  obtain ⟨⟨⟩, hlock, -⟩ := bind_ok_iff.mp hrest
  rw [raiseIf_ok_iff] at hlock
  simp only [ne_eq, not_or, not_not] at hlock
  obtain ⟨hid, hactive⟩ := hlock
  rw [setKillSwitch_found hcheck hid hactive] at h
  obtain ⟨⟨control, event, replay⟩, hsubmit, h⟩ := bind_ok_iff.mp h
  obtain ⟨⟨⟩, hvalid, h⟩ := bind_ok_iff.mp h
  rw [pure_ok_iff, Prod.mk.injEq] at h
  obtain ⟨rfl, rfl⟩ := h
  exact ⟨hcheck, hid, hactive, control, event, replay, hsubmit, rfl, hvalid, rfl⟩

theorem setMode_ok {geminiConfigured : Bool} {call : SetMode} {state : DiagnosisControlState}
    (h : setMode geminiConfigured tables call = .ok (next, state)) :
    call.check = .ok () ∧ tables.merchant.id = call.merchantId ∧
      tables.merchant.status = .active ∧
      ∃ control event replay, tables.diagnosis.submit call.params = .ok (control, event, replay) ∧
        state = ⟨call.merchantId, control.current, geminiConfigured, some event.facts, replay⟩ ∧
        state.postInit = .ok () ∧ next = tables.withDiagnosis control := by
  obtain ⟨⟨⟩, hcheck, hrest⟩ := bind_ok_iff.mp h
  obtain ⟨⟨⟩, hlock, -⟩ := bind_ok_iff.mp hrest
  rw [raiseIf_ok_iff] at hlock
  simp only [ne_eq, not_or, not_not] at hlock
  obtain ⟨hid, hactive⟩ := hlock
  rw [setMode_found hcheck hid hactive] at h
  obtain ⟨⟨control, event, replay⟩, hsubmit, h⟩ := bind_ok_iff.mp h
  obtain ⟨⟨⟩, hvalid, h⟩ := bind_ok_iff.mp h
  rw [pure_ok_iff, Prod.mk.injEq] at h
  obtain ⟨rfl, rfl⟩ := h
  exact ⟨hcheck, hid, hactive, control, event, replay, hsubmit, rfl, hvalid, rfl⟩

/-! ## One step -/

/-- A call keeps what was recorded, and the merchant. -/
theorem setKillSwitch_keeps {call : SetKillSwitch} {state : MerchantControlState}
    (h : setKillSwitch tables call = .ok (next, state)) : tables.Keeps next := by
  obtain ⟨-, -, -, control, event, replay, hsubmit, -, -, rfl⟩ := setKillSwitch_ok h
  exact ⟨rfl, rfl, rfl, MerchantControl.submit_subset hsubmit, List.Subset.refl _⟩

theorem setMode_keeps {geminiConfigured : Bool} {call : SetMode} {state : DiagnosisControlState}
    (h : setMode geminiConfigured tables call = .ok (next, state)) : tables.Keeps next := by
  obtain ⟨-, -, -, control, event, replay, hsubmit, -, -, rfl⟩ := setMode_ok h
  exact ⟨rfl, rfl, rfl, List.Subset.refl _, MerchantControl.submit_subset hsubmit⟩

theorem setKillSwitch_agree {call : SetKillSwitch} {state : MerchantControlState}
    (h : setKillSwitch tables call = .ok (next, state)) (hagree : tables.Agree) : next.Agree := by
  obtain ⟨-, -, -, control, event, replay, hsubmit, -, -, rfl⟩ := setKillSwitch_ok h
  exact ⟨MerchantControl.submit_agrees hsubmit hagree.killSwitch, hagree.diagnosis⟩

theorem setMode_agree {geminiConfigured : Bool} {call : SetMode} {state : DiagnosisControlState}
    (h : setMode geminiConfigured tables call = .ok (next, state)) (hagree : tables.Agree) :
    next.Agree := by
  obtain ⟨-, -, -, control, event, replay, hsubmit, -, -, rfl⟩ := setMode_ok h
  exact ⟨hagree.killSwitch, MerchantControl.submit_agrees hsubmit hagree.diagnosis⟩

/-- A call that returns is answered. -/
theorem setKillSwitch_answered {call : SetKillSwitch} {state : MerchantControlState}
    (h : setKillSwitch tables call = .ok (next, state)) : call.Answered next state := by
  obtain ⟨hcheck, hid, hactive, control, event, replay, hsubmit, hstate, hvalid, rfl⟩ :=
    setKillSwitch_ok h
  obtain ⟨hmem, hkey, hrequest⟩ := MerchantControl.submit_mem hsubmit
  subst hstate
  exact ⟨hcheck, hid, hactive, hvalid, rfl, rfl, event, hmem, hkey, hrequest, rfl⟩

theorem setMode_answered {geminiConfigured : Bool} {call : SetMode} {state : DiagnosisControlState}
    (h : setMode geminiConfigured tables call = .ok (next, state)) : call.Answered next state := by
  obtain ⟨hcheck, hid, hactive, control, event, replay, hsubmit, hstate, hvalid, rfl⟩ :=
    setMode_ok h
  obtain ⟨hmem, hkey, hrequest⟩ := MerchantControl.submit_mem hsubmit
  subst hstate
  exact ⟨hcheck, hid, hactive, hvalid, rfl, event, hmem, hkey, hrequest, rfl⟩

/-- An answer outlives what is done after it. -/
theorem SetKillSwitch.Answered.kept {call : SetKillSwitch} {state : MerchantControlState}
    (h : call.Answered tables state) (hkeeps : tables.Keeps next) : call.Answered next state := by
  obtain ⟨event, hmem, hevent⟩ := h.event
  exact ⟨h.checked, hkeeps.id.trans h.merchant, hkeeps.status.trans h.active, h.valid,
    h.stateMerchant, h.policy.trans hkeeps.policy.symm, event, hkeeps.killSwitchEvents hmem, hevent⟩

theorem SetMode.Answered.kept {call : SetMode} {state : DiagnosisControlState}
    (h : call.Answered tables state) (hkeeps : tables.Keeps next) : call.Answered next state := by
  obtain ⟨event, hmem, hevent⟩ := h.event
  exact ⟨h.checked, hkeeps.id.trans h.merchant, hkeeps.status.trans h.active, h.valid,
    h.stateMerchant, event, hkeeps.diagnosisModeEvents hmem, hevent⟩

/-! ## An answer is for good -/

omit [Hashlib] in
/-- The caller's own arguments decide the checks. -/
theorem SetKillSwitch.check_of_same {again call : SetKillSwitch} (hsame : again.SameRequest call)
    (hcheck : call.check = .ok ()) (hid : isUlid again.eventId) : again.check = .ok () := by
  obtain ⟨hmerchant, henabled, hreason, hsubject, hkey⟩ := hsame
  unfold SetKillSwitch.check at hcheck ⊢
  rw [hmerchant, henabled, hreason, hsubject, hkey]
  obtain ⟨⟨⟩, h₁, hcheck⟩ := bind_ok_iff.mp hcheck
  obtain ⟨⟨⟩, h₂, hcheck⟩ := bind_ok_iff.mp hcheck
  obtain ⟨⟨⟩, h₃, hcheck⟩ := bind_ok_iff.mp hcheck
  obtain ⟨⟨⟩, h₄, hcheck⟩ := bind_ok_iff.mp hcheck
  obtain ⟨⟨⟩, h₅, -⟩ := bind_ok_iff.mp hcheck
  rw [bind_of_ok h₁, bind_of_ok h₂, bind_of_ok h₃, bind_of_ok h₄, bind_of_ok h₅]
  exact raiseIf_of_not _ (not_not.mpr hid)

omit [Hashlib] in
theorem SetMode.check_of_same {again call : SetMode} (hsame : again.SameRequest call)
    (hcheck : call.check = .ok ()) (hid : isUlid again.eventId) : again.check = .ok () := by
  obtain ⟨hmerchant, -, hsubject, hkey⟩ := hsame
  unfold SetMode.check at hcheck ⊢
  rw [hmerchant, hsubject, hkey]
  obtain ⟨⟨⟩, h₁, hcheck⟩ := bind_ok_iff.mp hcheck
  obtain ⟨⟨⟩, h₂, hcheck⟩ := bind_ok_iff.mp hcheck
  obtain ⟨⟨⟩, h₃, -⟩ := bind_ok_iff.mp hcheck
  rw [bind_of_ok h₁, bind_of_ok h₂, bind_of_ok h₃]
  exact raiseIf_of_not _ (not_not.mpr hid)

/-- In agreeing tables an answered call is settled. -/
theorem SetKillSwitch.Answered.settled {call : SetKillSwitch} {state : MerchantControlState}
    (h : call.Answered tables state) (hagree : tables.Agree) : call.Settled tables state := by
  obtain ⟨event, hmem, hkey, hrequest, hevent⟩ := h.event
  have hmem' : event ∈ tables.killSwitch.events := hmem
  refine ⟨?_, ?_, ?_⟩
  · simp only [ControlEventRow.record, ControlParams.request, SetKillSwitch.params,
      Prod.mk.injEq] at hrequest
    exact ⟨event, hmem, hrequest.1, hrequest.2.1, hrequest.2.2, hkey, hevent⟩
  · intro again hsame hid
    have hcheck := SetKillSwitch.check_of_same hsame h.checked hid
    obtain ⟨hmerchant, henabled, hreason, hsubject, hidempotency⟩ := hsame
    have hsubmit : tables.killSwitch.submit again.params = .ok (tables.killSwitch, event, true) := by
      refine MerchantControl.submit_again hagree.killSwitch hmem' ?_ ?_
      · rw [hkey, SetKillSwitch.params, SetKillSwitch.params, hidempotency]
      · rw [hrequest, ControlParams.request, ControlParams.request, SetKillSwitch.params,
          SetKillSwitch.params, henabled, hreason, hsubject]
    rw [setKillSwitch_found hcheck (h.merchant.trans hmerchant.symm) h.active,
      bind_of_ok hsubmit, hevent, hmerchant]
    -- the checks of the state look at nothing that differs from the first answer
    have hvalid : MerchantControlState.postInit ⟨call.merchantId, tables.killSwitch.current,
        tables.merchant.defaultPolicyVersion, some event.facts, true⟩ = .ok () := by
      have hfirst := h.valid
      unfold MerchantControlState.postInit at hfirst ⊢
      rw [h.stateMerchant, h.policy, hevent] at hfirst
      exact hfirst
    exact bind_of_ok hvalid _
  · intro other hmerchant hidempotency hother
    by_cases hcollision : SubjectCollision other.operatorSubject call.operatorSubject
    · exact .inl hcollision
    right
    cases hcheck : other.check with
    | error e =>
      refine ⟨e, bind_of_error hcheck _, ?_⟩
      intro hok
      exact absurd hok (by simp)
    | ok u =>
      have hdiffers : event.record.request ≠ other.params.request := by
        intro heq
        rw [hrequest] at heq
        simp only [ControlParams.request, SetKillSwitch.params, Prod.mk.injEq] at heq
        obtain ⟨henabled, hreason, hdigest⟩ := heq
        refine hother ⟨hmerchant, henabled.symm, hreason.symm, ?_, hidempotency⟩
        by_contra hsubject
        exact hcollision ⟨hsubject, hdigest.symm⟩
      have hraise : tables.killSwitch.submit other.params =
          .error (.conflict "idempotency_key_conflict") := by
        refine MerchantControl.submit_other hagree.killSwitch hmem' ?_ hdiffers
        rw [hkey, SetKillSwitch.params, SetKillSwitch.params, hidempotency]
      refine ⟨_, ?_, fun _ => rfl⟩
      rw [setKillSwitch_found hcheck (h.merchant.trans hmerchant.symm) h.active]
      exact bind_of_error hraise _

theorem SetMode.Answered.settled {call : SetMode} {state : DiagnosisControlState}
    (h : call.Answered tables state) (hagree : tables.Agree) : call.Settled tables state := by
  obtain ⟨event, hmem, hkey, hrequest, hevent⟩ := h.event
  have hmem' : event ∈ tables.diagnosis.events := hmem
  refine ⟨?_, ?_, ?_⟩
  · simp only [ControlEventRow.record, ControlParams.request, SetMode.params,
      Prod.mk.injEq] at hrequest
    exact ⟨event, hmem, hrequest.1, hrequest.2.1, hrequest.2.2, hkey, hevent⟩
  · intro geminiConfigured again hsame hid
    have hcheck := SetMode.check_of_same hsame h.checked hid
    obtain ⟨hmerchant, hmode, hsubject, hidempotency⟩ := hsame
    have hsubmit : tables.diagnosis.submit again.params = .ok (tables.diagnosis, event, true) := by
      refine MerchantControl.submit_again hagree.diagnosis hmem' ?_ ?_
      · rw [hkey, SetMode.params, SetMode.params, hidempotency]
      · rw [hrequest, ControlParams.request, ControlParams.request, SetMode.params,
          SetMode.params, hmode, hsubject]
    rw [setMode_found hcheck (h.merchant.trans hmerchant.symm) h.active,
      bind_of_ok hsubmit, hevent, hmerchant]
    have hvalid : DiagnosisControlState.postInit ⟨call.merchantId, tables.diagnosis.current,
        geminiConfigured, some event.facts, true⟩ = .ok () := by
      have hfirst := h.valid
      unfold DiagnosisControlState.postInit at hfirst ⊢
      rw [h.stateMerchant, hevent] at hfirst
      exact hfirst
    exact bind_of_ok hvalid _
  · intro geminiConfigured other hmerchant hidempotency hother
    by_cases hcollision : SubjectCollision other.operatorSubject call.operatorSubject
    · exact .inl hcollision
    right
    cases hcheck : other.check with
    | error e =>
      refine ⟨e, bind_of_error hcheck _, ?_⟩
      intro hok
      exact absurd hok (by simp)
    | ok u =>
      have hdiffers : event.record.request ≠ other.params.request := by
        intro heq
        rw [hrequest] at heq
        simp only [ControlParams.request, SetMode.params, Prod.mk.injEq] at heq
        obtain ⟨hmode, -, hdigest⟩ := heq
        refine hother ⟨hmerchant, hmode.symm, ?_, hidempotency⟩
        by_contra hsubject
        exact hcollision ⟨hsubject, hdigest.symm⟩
      have hraise : tables.diagnosis.submit other.params =
          .error (.conflict "idempotency_key_conflict") := by
        refine MerchantControl.submit_other hagree.diagnosis hmem' ?_ hdiffers
        rw [hkey, SetMode.params, SetMode.params, hidempotency]
      refine ⟨_, ?_, fun _ => rfl⟩
      rw [setMode_found hcheck (h.merchant.trans hmerchant.symm) h.active]
      exact bind_of_error hraise _

/-! ## Runs -/

/-- What a committed call was answered. -/
def AnsweredIn (tables : MerchantControlTables) : ControlCall → ControlReply → Prop
  | .killSwitch call, .killSwitch state => call.Answered tables state
  | .mode _ call, .mode state => call.Answered tables state
  | _, _ => False

/-- The committed call has its answer for good. -/
def SettledIn (tables : MerchantControlTables) : ControlCall → ControlReply → Prop
  | .killSwitch call, .killSwitch state => call.Settled tables state
  | .mode _ call, .mode state => call.Settled tables state
  | _, _ => False

theorem AnsweredIn.kept {call : ControlCall} {reply : ControlReply}
    (h : AnsweredIn tables call reply) (hkeeps : tables.Keeps next) :
    AnsweredIn next call reply := by
  cases call with
  | killSwitch call =>
    cases reply with
    | killSwitch state => exact SetKillSwitch.Answered.kept h hkeeps
    | mode state => exact h
  | mode geminiConfigured call =>
    cases reply with
    | killSwitch state => exact h
    | mode state => exact SetMode.Answered.kept h hkeeps

theorem AnsweredIn.settled {call : ControlCall} {reply : ControlReply}
    (h : AnsweredIn tables call reply) (hagree : tables.Agree) :
    SettledIn tables call reply := by
  cases call with
  | killSwitch call =>
    cases reply with
    | killSwitch state => exact SetKillSwitch.Answered.settled h hagree
    | mode state => exact h
  | mode geminiConfigured call =>
    cases reply with
    | killSwitch state => exact h
    | mode state => exact SetMode.Answered.settled h hagree

/-- A call of the switch is answered by the switch, and a call of the mode by the mode. -/
theorem merchantControls_ok {call : ControlCall} {reply : ControlReply}
    (h : merchantControls.exec tables call = .ok (next, reply)) :
    (∃ switch state, call = .killSwitch switch ∧ reply = .killSwitch state ∧
      setKillSwitch tables switch = .ok (next, state)) ∨
    ∃ geminiConfigured mode state, call = .mode geminiConfigured mode ∧ reply = .mode state ∧
      setMode geminiConfigured tables mode = .ok (next, state) := by
  cases call with
  | killSwitch switch =>
    obtain ⟨⟨reached, state⟩, hcall, hreply⟩ := bind_ok_iff.mp h
    rw [pure_ok_iff, Prod.mk.injEq] at hreply
    obtain ⟨rfl, rfl⟩ := hreply
    exact .inl ⟨switch, state, rfl, rfl, hcall⟩
  | mode geminiConfigured mode =>
    obtain ⟨⟨reached, state⟩, hcall, hreply⟩ := bind_ok_iff.mp h
    rw [pure_ok_iff, Prod.mk.injEq] at hreply
    obtain ⟨rfl, rfl⟩ := hreply
    exact .inr ⟨geminiConfigured, mode, state, rfl, rfl, hcall⟩

/-- One call under the row lock: it keeps the agreement and what was recorded, and is
answered. -/
theorem merchantControls_step {call : ControlCall} {reply : ControlReply}
    (h : merchantControls.exec tables call = .ok (next, reply)) :
    (tables.Agree → next.Agree) ∧ tables.Keeps next ∧ AnsweredIn next call reply := by
  rcases merchantControls_ok h with
    ⟨switch, state, rfl, rfl, hcall⟩ | ⟨geminiConfigured, mode, state, rfl, rfl, hcall⟩
  · exact ⟨setKillSwitch_agree hcall, setKillSwitch_keeps hcall, setKillSwitch_answered hcall⟩
  · exact ⟨setMode_agree hcall, setMode_keeps hcall, setMode_answered hcall⟩

/-- Calls one after the other keep the agreement, and every one of them stays answered. -/
theorem merchantControls_run {init final : MerchantControlTables}
    {steps : List (Step MerchantControlTables ControlCall ControlReply)} (hinit : init.Agree)
    (hrun : merchantControls.Run init steps final) :
    final.Agree ∧ ∀ s ∈ steps, AnsweredIn final s.cmd s.out := by
  induction hrun with
  | start => exact ⟨hinit, fun s hs => absurd hs List.not_mem_nil⟩
  | @next past s hpast hstep ih =>
    obtain ⟨hagree, hanswered⟩ := ih
    obtain ⟨hkeepsAgreement, hkeeps, hanswers⟩ := merchantControls_step hstep
    refine ⟨hkeepsAgreement hagree, ?_⟩
    intro t ht
    rcases List.mem_append.mp ht with hbefore | hlast
    · exact (hanswered t hbefore).kept hkeeps
    · rw [List.mem_singleton.mp hlast]
      exact hanswers

/-- A merchant whose controls nobody has used yet. -/
structure MerchantControlTables.Fresh (tables : MerchantControlTables) : Prop where
  killSwitch : tables.killSwitchEvents = []
  diagnosis : tables.diagnosisModeEvents = []

omit [Hashlib] in
theorem MerchantControlTables.Fresh.agree (h : tables.Fresh) : tables.Agree := by
  obtain ⟨merchant, killSwitchEvents, mode, modeEvents⟩ := tables
  obtain ⟨rfl, rfl⟩ := h
  exact ⟨MerchantControl.logAgrees_iff.mpr Register.agrees_nil,
    MerchantControl.logAgrees_iff.mpr Register.agrees_nil⟩

/-- In every interleaving of the calls, each log agrees with its control, and every committed
call has its answer for good. -/
theorem controls_agree {init : MerchantControlTables}
    {final : LockState MerchantControlTables ControlCall ControlReply Nat}
    {steps : List (Step (LockState MerchantControlTables ControlCall ControlReply Nat)
      (LockCommand ControlCall Nat) (LockOutput MerchantControlTables ControlCall ControlReply))}
    (hfresh : init.Fresh) (hrun : lockedControls.Run (.idle init) steps final) :
    final.committed.killSwitch.LogAgrees ∧ final.committed.diagnosis.LogAgrees ∧
      ∀ s ∈ Machine.committedSteps steps, SettledIn final.committed s.cmd s.out := by
  obtain ⟨hagree, hanswered⟩ := merchantControls_run hfresh.agree (Machine.serialized_run hrun)
  exact ⟨hagree.killSwitch, hagree.diagnosis, fun s hs => (hanswered s hs).settled hagree⟩

end

/-! ## A hold and its release -/

def heldMerchant : MerchantControlTables where
  merchant :=
    { id := "01K0000000000000000000000M"
      status := .active
      killSwitchEnabled := false
      defaultPolicyVersion := "policy-2025-01" }
  killSwitchEvents := []
  diagnosisMode := .localMl
  diagnosisModeEvents := []

def holdCall (eventId : String) : SetKillSwitch where
  merchantId := "01K0000000000000000000000M"
  enabled := true
  reasonCode := "emergency_stop"
  operatorSubject := "operator-one"
  idempotencyKey := "hold-2025-01-01-a"
  eventId := eventId
  clock := sampleStart

def releaseCall : SetKillSwitch where
  merchantId := "01K0000000000000000000000M"
  enabled := false
  reasonCode := "resume_after_verification"
  operatorSubject := "operator-two"
  idempotencyKey := "release-2025-01-01"
  eventId := "01HZX3V5K7M9N1P3R5T7W9Y1B2"
  clock := sampleStart

def shadowCall : SetMode where
  merchantId := "01K0000000000000000000000M"
  mode := .shadow
  operatorSubject := "operator-two"
  idempotencyKey := "shadow-2025-01-01"
  eventId := "01HZX3V5K7M9N1P3R5T7W9Y1C1"
  clock := sampleStart

/-- The hold, its release, a change of the mode that is rolled back and then made, and the hold
sent again. -/
def holdAndRelease : List (LockCommand ControlCall Nat) :=
  [.perform 1 (.killSwitch (holdCall "01HZX3V5K7M9N1P3R5T7W9Y1B1")), .commit 1,
    .perform 2 (.killSwitch releaseCall), .commit 2, .perform 3 (.mode false shadowCall),
    .rollback 3, .perform 3 (.mode false shadowCall), .commit 3,
    .perform 1 (.killSwitch (holdCall "01HZX3V5K7M9N1P3R5T7W9Y1B3")), .commit 1]

/-- The hold that is sent again after its release is answered, and the switch stays off. -/
theorem hold_and_release_agree :
    let played := lockedControls.play (.idle heldMerchant) holdAndRelease
    (played.1.length = 10 ∧ played.2.committed.killSwitch.current = false ∧
      played.2.committed.killSwitchEvents.length = 2 ∧
      played.2.committed.diagnosisModeEvents.length = 1) ∧
    played.2.committed.killSwitch.LogAgrees ∧ played.2.committed.diagnosis.LogAgrees ∧
      ∀ s ∈ Machine.committedSteps played.1, SettledIn played.2.committed s.cmd s.out := by
  intro played
  exact ⟨by decide +kernel,
    controls_agree ⟨rfl, rfl⟩ (Machine.Run.of_play lockedControls (.idle heldMerchant) _)⟩

end Retrywise.ControlPlane
