import Retrywise.ControlPlane.CancelSettles
import Retrywise.ControlPlane.CancellationCommandCodec
import Retrywise.ControlPlane.CommandRoundTrip

/-!
# Stored cancellations are read back

The codec of the cancel command, on top of what it shares with the other one: only the target is
its own. A target is checked when it is built, so it is read back as itself, and the order of the
members is all that a stored envelope leaves open.

> `cancelCommand_roundTrip`: the two directions.
-/

namespace Retrywise.ControlPlane

open Retrywise.Foundation Retrywise.Domain

section

variable [Hashlib]

/-- `==` of commands, field by field. -/
structure CancelPaymentLinkCommand.Equals (c d : CancelPaymentLinkCommand) : Prop where
  proposal : c.proposal.Equals d.proposal
  priorPlan : c.priorPlan = d.priorPlan
  target : c.target = d.target

/-- A link is over a positive amount. -/
theorem CancellationTarget.positive (t : CancellationTarget) : 1 ≤ t.amountMinor := by
  have hvalid := t.valid
  simp only [TargetFields.postInit, bind_ok_iff, raiseIf_ok_iff, exists_and_left,
    exists_const] at hvalid
  obtain ⟨-, -, -, -, -, _, -, -, -, -, -, _, -, -, hamount, -⟩ := hvalid
  exact Nat.one_le_iff_ne_zero.mpr hamount

/-- The plan of a cancel command has been allowed. -/
theorem CancelPaymentLinkCommand.allowed (command : CancelPaymentLinkCommand) :
    command.priorPlan.allowed = true := by
  have hvalid := command.valid
  simp only [CancelCommandFields.postInit, bind_ok_iff, raiseIf_ok_iff, not_or, not_not,
    exists_and_left, exists_const] at hvalid
  exact hvalid.2.2.2.1.2

end

namespace CancellationCommandCodec

open EffectCommandCodec

section

variable [Hashlib] {command : CancelPaymentLinkCommand} {envelope : Json} {depth : Nat}
  {sum : String}

/-! ## The target -/

omit [Hashlib] in
theorem ownKeys_cancellation {fields : List String}
    (h : fields ∈ [targetFields, bindingFields, commandFields]) : OwnKeys fields := by
  have hall : ∀ fields ∈ [targetFields, bindingFields, commandFields], OwnKeys fields := by
    decide +kernel
  exact hall fields h

omit [Hashlib] in
theorem plain_target (t : TargetFields) : Plain t.toPrimitive := by
  refine Plain.obj rfl (ownKeys_cancellation (by simp) : OwnKeys targetFields) ?_
  simp only [List.map_cons, List.map_nil, List.forall_mem_cons]
  exact ⟨Plain.str _, Plain.str _, Plain.int _, Plain.str _, Plain.str _, Plain.str _, Plain.str _,
    Plain.str _, Plain.str _, Plain.str _, nofun⟩

/-- **A target is read back.** -/
theorem target_toPrimitive {t : CancellationTarget} (hfits : Fits depth t.toPrimitive) :
    target t.toPrimitive = .ok t := by
  obtain ⟨-, -, hamount, -⟩ := hfits.2.2
  refine bind_ok_iff.mpr ⟨_, exactObject_of_keys rfl, ?_⟩
  refine bind_ok_iff.mpr ⟨t.merchantId, rfl, ?_⟩
  refine bind_ok_iff.mpr ⟨t.caseId, rfl, ?_⟩
  refine bind_ok_iff.mpr ⟨t.actionId, rfl, ?_⟩
  refine bind_ok_iff.mpr ⟨t.actionKey, rfl, ?_⟩
  refine bind_ok_iff.mpr ⟨t.instrumentId, rfl, ?_⟩
  refine bind_ok_iff.mpr ⟨t.providerAccountId, rfl, ?_⟩
  refine bind_ok_iff.mpr ⟨t.paymentLinkId, rfl, ?_⟩
  refine bind_ok_iff.mpr ⟨t.referenceId, rfl, ?_⟩
  refine bind_ok_iff.mpr ⟨t.amountMinor, integer_ok hamount
    (forall_mem_some (Int.ofNat_le.mpr t.positive)), ?_⟩
  refine bind_ok_iff.mpr ⟨t.currency, rfl, ?_⟩
  refine bind_ok_iff.mpr ⟨t, mapError_ok_iff.mpr (construct_ok_iff.mpr ⟨t.valid, rfl⟩), ?_⟩
  exact bind_ok_iff.mpr ⟨(), passes_of_true (decide_eq_true rfl), rfl⟩

/-! ## What is encoded -/

/-- What a command is written as. -/
def commandDocument (c : CancelCommandFields) : Json :=
  .obj [
    ("prior_plan", c.priorPlan.toPrimitive),
    ("proposal", c.proposal.toPrimitive),
    ("target", c.target.toPrimitive)]

def bindingMembers (command : CancelPaymentLinkCommand) : List (String × Json) :=
  (bindings command).map fun binding => (binding.1, .str binding.2)

theorem plain_bindings (command : CancelPaymentLinkCommand) :
    Plain (.obj (bindingMembers command)) := by
  refine Plain.obj rfl (ownKeys_cancellation (by simp) : OwnKeys bindingFields) ?_
  intro value hvalue
  obtain ⟨member, hmember, rfl⟩ := List.mem_map.mp hvalue
  obtain ⟨binding, -, rfl⟩ := List.mem_map.mp hmember
  exact Plain.str _

theorem plain_command (command : CancelPaymentLinkCommand) :
    Plain (commandDocument command.toCancelCommandFields) := by
  refine Plain.obj rfl (ownKeys_cancellation (by simp) : OwnKeys commandFields) ?_
  simp only [List.map_cons, List.map_nil, List.forall_mem_cons]
  exact ⟨plain_plan (List.isEmpty_iff.mp command.allowed), plain_proposal _, plain_target _, nofun⟩

/-- A command and its checksum make one envelope. -/
def Encodes (command : CancelPaymentLinkCommand) (sum : String) : Prop :=
  Sealed cancelFormat (bindingMembers command) (commandDocument command.toCancelCommandFields) sum

theorem encode_ok_iff :
    encodeCancelPaymentLinkCommand command = .ok envelope ↔
      ∃ sum, Encodes command sum ∧
        envelope = .obj (sealedMembers cancelFormat (bindingMembers command)
          (commandDocument command.toCancelCommandFields) sum) := by
  unfold encodeCancelPaymentLinkCommand
  constructor
  · intro h
    obtain ⟨bytes, hbytes, h⟩ := bind_ok_iff.mp h
    obtain ⟨sealedBytes, hsealed, h⟩ := bind_ok_iff.mp h
    exact ⟨_, ⟨plain_bindings _, plain_command _, ⟨bytes, hbytes, rfl⟩, ⟨_, hsealed⟩⟩,
      (pure_ok_iff.mp h).symm⟩
  · rintro ⟨sum, h, rfl⟩
    obtain ⟨bytes, hbytes, rfl⟩ := h.summed
    obtain ⟨sealedBytes, hsealed⟩ := h.bounded
    exact bind_ok_iff.mpr ⟨bytes, hbytes, bind_ok_iff.mpr ⟨sealedBytes, hsealed, rfl⟩⟩

/-! ## What is read back -/

/-- A command made of the parts that were read. -/
structure ReadBack (decoded command : CancelPaymentLinkCommand) : Prop where
  equals : decoded.Equals command
  document : decoded.proposal.toPrimitive = command.proposal.toPrimitive

namespace ReadBack

variable {decoded : CancelPaymentLinkCommand}

theorem proposalDigest (h : ReadBack decoded command) :
    decoded.proposal.proposalDigest = command.proposal.proposalDigest :=
  congrArg sha256Json h.document

theorem payloadDigest (h : ReadBack decoded command) :
    decoded.payloadDigest = command.payloadDigest := by
  unfold CancelCommandFields.payloadDigest
  rw [actionKey_of_equals h.equals.proposal, h.equals.priorPlan, h.proposalDigest, h.equals.target]

theorem bindings_eq (h : ReadBack decoded command) : bindings decoded = bindings command := by
  unfold bindings
  rw [actionKey_of_equals h.equals.proposal, h.payloadDigest, h.equals.priorPlan, h.proposalDigest,
    h.equals.target]

/-- **A command that was read back is encoded as it was before.** -/
theorem encode_eq (h : ReadBack decoded command) :
    encodeCancelPaymentLinkCommand decoded = encodeCancelPaymentLinkCommand command := by
  unfold encodeCancelPaymentLinkCommand unsignedEnvelope
  rw [h.bindings_eq, h.equals.priorPlan, h.document, h.equals.target]

end ReadBack

/-- The parts of a command are read back, and the command of them. -/
theorem exists_commandOf (hplanned : Planned command.priorPlan)
    (hfits : Fits depth (commandDocument command.toCancelCommandFields)) :
    ∃ decoded, commandOf (commandDocument command.toCancelCommandFields) = .ok decoded ∧
      ReadBack decoded command := by
  obtain ⟨hplan, hproposal, htarget, -⟩ := hfits.2.2
  obtain ⟨proposal, hdecoded, hequal, hdocument⟩ :=
    exists_decodeActionProposal command.proposal hproposal
  have hdigest : proposal.proposalDigest = command.proposal.proposalDigest :=
    congrArg sha256Json hdocument
  have htype : proposal.actionType = command.proposal.actionType :=
    (congrArg ProposalFields.actionType hequal.1 :)
  have hinstrument : proposal.instrumentReference = command.proposal.instrumentReference :=
    (congrArg ProposalFields.instrumentReference hequal.1 :)
  have hmerchant : proposal.merchantId = command.proposal.merchantId :=
    (congrArg ProposalFields.merchantId hequal.1 :)
  have hcase : proposal.caseId = command.proposal.caseId :=
    (congrArg ProposalFields.caseId hequal.1 :)
  have hid : proposal.proposalId = command.proposal.proposalId :=
    (congrArg ProposalFields.proposalId hequal.1 :)
  have hversion : proposal.decisionVersion = command.proposal.decisionVersion :=
    (congrArg ProposalFields.decisionVersion hequal.1 :)
  have hvalid : (CancelCommandFields.mk proposal command.priorPlan command.target).postInit =
      .ok () := by
    refine Eq.trans ?_ command.valid
    simp only [CancelCommandFields.postInit, htype, hinstrument, hmerchant, hcase, hid, hversion,
      hdigest, actionKey_of_equals hequal]
  refine ⟨⟨_, hvalid⟩, ?_, ⟨hequal, rfl, rfl⟩, hdocument⟩
  refine bind_ok_iff.mpr ⟨_, exactObject_of_keys rfl, ?_⟩
  refine bind_ok_iff.mpr ⟨proposal, hdecoded, ?_⟩
  refine bind_ok_iff.mpr ⟨command.priorPlan, priorPlan_toPrimitive hplanned hplan, ?_⟩
  refine bind_ok_iff.mpr ⟨command.target, target_toPrimitive htarget, ?_⟩
  exact mapError_ok_iff.mpr (construct_ok_iff.mpr ⟨hvalid, rfl⟩)

/-- The bindings of the envelope are those of the command. -/
theorem checkBindings_self (command : CancelPaymentLinkCommand) :
    checkBindings cancelFormat (bindingMembers command) (bindings command) = .ok () := by
  have hdigest := fun bytes => ascii_of_isDigest (Hashlib.isDigest_sha256Hexdigest bytes)
  refine checkBindings_ok ?_
  simp only [bindings, List.forall_mem_cons]
  exact ⟨⟨rfl, ascii_actionKey _⟩, ⟨rfl, hdigest _⟩, ⟨rfl, hdigest _⟩, ⟨rfl, hdigest _⟩,
    ⟨rfl, hdigest _⟩, nofun⟩

theorem checkDigests_self (command : CancelPaymentLinkCommand) :
    checkDigests (bindingMembers command) (bindingFields.filter fun name => name ≠ "action_key") =
      .ok () := by
  have hdigest := Hashlib.isDigest_sha256Hexdigest
  refine checkDigests_ok ?_
  show ∀ name ∈ ["executor_payload_sha256", "prior_plan_sha256", "proposal_sha256",
    "target_sha256"], _
  simp only [List.forall_mem_cons]
  exact ⟨⟨_, rfl, hdigest _⟩, ⟨_, rfl, hdigest _⟩, ⟨_, rfl, hdigest _⟩, ⟨_, rfl, hdigest _⟩, nofun⟩

/-- **What is encoded is read back**, whatever it is stored as. -/
theorem exists_decode {payload : CommandPayload} (hplanned : Planned command.priorPlan)
    (h : encodeCancelPaymentLinkCommand command = .ok envelope)
    (hstores : Stores envelope payload) :
    ∃ decoded, decodeCancelPaymentLinkCommand payload = .ok decoded ∧ ReadBack decoded command := by
  obtain ⟨sum, hsealed, rfl⟩ := encode_ok_iff.mp h
  obtain ⟨decoded, hdecoded, hback⟩ := exists_commandOf hplanned hsealed.fits_command
  have hrebuilt := hback.encode_eq.trans h
  have hsame := hback.bindings_eq
  refine ⟨decoded, ?_, hback⟩
  refine bind_ok_iff.mpr ⟨_, hstores.coerce hsealed.storable hsealed.sorted, ?_⟩
  refine bind_ok_iff.mpr ⟨_, exactObject_of_keys rfl, ?_⟩
  refine bind_ok_iff.mpr ⟨(), checkSchema_stored, ?_⟩
  refine bind_ok_iff.mpr ⟨(), hsealed.checkIntegrity_stored, ?_⟩
  refine bind_ok_iff.mpr ⟨decoded, hdecoded, ?_⟩
  refine bind_ok_iff.mpr ⟨bindingMembers command, exactObject_of_keys rfl, ?_⟩
  refine bind_ok_iff.mpr ⟨(), checkDigests_self command, ?_⟩
  refine bind_ok_iff.mpr ⟨(), hsame ▸ checkBindings_self command, ?_⟩
  refine bind_ok_iff.mpr ⟨_, hrebuilt, ?_⟩
  refine bind_ok_iff.mpr ⟨_, hsealed.storable_stored.boundedBytes_toPy, ?_⟩
  refine bind_ok_iff.mpr ⟨_, hsealed.storable.boundedBytes_toPy, ?_⟩
  refine bind_ok_iff.mpr ⟨(), raiseIf_of_not _ (not_not.mpr ?_), rfl⟩
  rw [← hsealed.sorted, canonicalJsonBytes_sorted]

/-- The canonical bytes of an envelope are what the encoder of bytes returns. -/
theorem encodeJson_ok (h : encodeCancelPaymentLinkCommand command = .ok envelope) :
    encodeCancelPaymentLinkCommandJson command = .ok (canonicalJsonBytes envelope) := by
  obtain ⟨sum, hsealed, rfl⟩ := encode_ok_iff.mp h
  obtain ⟨bytes, hbytes⟩ := hsealed.bounded
  obtain ⟨-, rfl⟩ := storable_of_bounded hsealed.storable.distinct hsealed.storable.clean hbytes
  exact bind_ok_iff.mpr ⟨_, h, hbytes⟩

/-- **What is accepted is encoded to the text it came as.** -/
theorem encodeJson_of_decode {payload : CommandPayload} {commandType : String} {version : Int}
    (h : decodeCancelPaymentLinkCommand payload commandType version = .ok command) :
    ∃ bytes, encodeCancelPaymentLinkCommandJson command = .ok bytes ∧
      payload.canonicalBytes = some bytes ∧ ∀ raw ∈ payload.raw, raw = bytes := by
  unfold decodeCancelPaymentLinkCommand at h
  obtain ⟨members, hcoerce, h⟩ := bind_ok_iff.mp h
  obtain ⟨taken, htaken, h⟩ := bind_ok_iff.mp h
  obtain ⟨_, -, h⟩ := bind_ok_iff.mp h
  obtain ⟨_, -, h⟩ := bind_ok_iff.mp h
  obtain ⟨decoded, -, h⟩ := bind_ok_iff.mp h
  obtain ⟨_, -, h⟩ := bind_ok_iff.mp h
  obtain ⟨_, -, h⟩ := bind_ok_iff.mp h
  obtain ⟨_, -, h⟩ := bind_ok_iff.mp h
  obtain ⟨rebuilt, hrebuilt, h⟩ := bind_ok_iff.mp h
  obtain ⟨stored, hstored, h⟩ := bind_ok_iff.mp h
  obtain ⟨encoded, hencoded, h⟩ := bind_ok_iff.mp h
  obtain ⟨_, hsame, h⟩ := bind_ok_iff.mp h
  obtain rfl := pure_ok_iff.mp h
  obtain rfl : stored = encoded := not_not.mp (raiseIf_ok_iff.mp hsame)
  obtain rfl : taken = members := exactObject_eq htaken
  obtain ⟨sum, hsealed, rfl⟩ := encode_ok_iff.mp hrebuilt
  have hbytes := hsealed.storable.boundedBytes_toPy
  obtain rfl := Except.ok.inj (hencoded.symm.trans hbytes)
  exact ⟨_, encodeJson_ok hrebuilt, canonicalBytes_of_coerce hcoerce hstored⟩

end

end CancellationCommandCodec

section

variable [Hashlib]

/-- **The codec of the cancel command is a bijection with its image.** -/
theorem cancelCommand_roundTrip :
    (∀ (gate : DeterministicGate) (proposal : ActionProposal) (context : GateContext)
      (command : CancelPaymentLinkCommand) (envelope : Json),
      gate.evaluatePolicy proposal context = .ok command.priorPlan →
      encodeCancelPaymentLinkCommand command = .ok envelope →
      encodeCancelPaymentLinkCommandJson command = .ok (canonicalJsonBytes envelope) ∧
      ∀ payload, EffectCommandCodec.Stores envelope payload →
        ∃ decoded, decodeCancelPaymentLinkCommand payload = .ok decoded ∧
          decoded.Equals command ∧ decoded.payloadDigest = command.payloadDigest ∧
          decoded.target.targetDigest = command.target.targetDigest ∧
          decoded.proposal.proposalDigest = command.proposal.proposalDigest) ∧
    ∀ (payload : CommandPayload) (commandType : String) (version : Int)
      (command : CancelPaymentLinkCommand),
      decodeCancelPaymentLinkCommand payload commandType version = .ok command →
      ∃ bytes, encodeCancelPaymentLinkCommandJson command = .ok bytes ∧
        payload.canonicalBytes = some bytes ∧ ∀ raw ∈ payload.raw, raw = bytes := by
  refine ⟨fun gate proposal context command envelope hplan h => ?_,
    fun payload commandType version command h => CancellationCommandCodec.encodeJson_of_decode h⟩
  refine ⟨CancellationCommandCodec.encodeJson_ok h, fun payload hstores => ?_⟩
  have hplanned := EffectCommandCodec.planned_of_evaluatePolicy hplan command.allowed
  obtain ⟨decoded, hdecoded, hback⟩ :=
    CancellationCommandCodec.exists_decode hplanned h hstores
  refine ⟨decoded, hdecoded, hback.equals, hback.payloadDigest, ?_, hback.proposalDigest⟩
  rw [hback.equals.target]

end

/-! ## A cancellation that is stored -/

namespace CancellationCommandCodec.StoredCancellation

open EffectCommandCodec Cancellation

section

variable [Hashlib]

/-- What the gate says to the cancellation when the observation window ends. -/
def plan : GateDecision := { ProtectedLink.plan with evaluatedAt := sampleDeadline }

def command : CancelPaymentLinkCommand where
  proposal := ProtectedLink.proposal
  priorPlan := plan
  target := ProtectedLink.target
  valid := ProtectedLink.command.valid

/-- The gate has nothing against it. -/
theorem planned : ProtectedLink.gate.evaluatePolicy ProtectedLink.proposal ProtectedLink.context =
    .ok command.priorPlan := by
  have hshift : shift sampleDeadline ProtectedLink.gate.policy.allowedClockSkew =
      .ok ProtectedLink.horizon := shift_ok_iff.mpr (by decide)
  have hstanding : ProtectedLink.gate.standingReasons ProtectedLink.proposal ProtectedLink.context
      ProtectedLink.horizon = [] := by decide
  have hswitch : DeterministicGate.switchReasons ProtectedLink.proposal ProtectedLink.context =
      [] := by decide
  have hcase : DeterministicGate.caseReasons .policy ProtectedLink.proposal
      ProtectedLink.context = [] := by decide
  have hinstrument : DeterministicGate.instrumentReasons ProtectedLink.proposal
      ProtectedLink.context = [] := by decide
  have hreasons : ProtectedLink.gate.reasons .policy ProtectedLink.proposal ProtectedLink.context
      ProtectedLink.horizon none = [] := by
    have hcancel : ProtectedLink.proposal.actionType = .cancelPaymentLink := rfl
    have hcollects : ActionType.cancelPaymentLink ∉ collectionActions := by decide
    have hcontacts : ActionType.cancelPaymentLink ∉ contactActions := by decide
    unfold DeterministicGate.reasons
    simp only [only_of_cancel hcancel hcollects, only_of_cancel hcancel hcontacts, hstanding,
      hswitch, hcase, hinstrument, List.append_nil]
    -- the plan is asked for at the effect gate only
    rw [if_neg (nofun : ¬GateStage.policy = GateStage.effect), List.append_nil]
  refine bind_ok_iff.mpr ⟨ProtectedLink.horizon, hshift, ?_⟩
  rw [hreasons]
  rfl

/-- The command as it is written. -/
def document : Json := commandDocument command.toCancelCommandFields

theorem within_unsigned :
    within 0 (.obj (unsignedMembers cancelFormat (bindingMembers command) document)) = true := by
  simp only [unsignedMembers, bindingMembers, bindings, List.map_cons, List.map_nil, document,
    commandDocument, command, plan, ProtectedLink.plan, ProtectedLink.target,
    GateDecision.toPrimitive, ProposalFields.toPrimitive, TargetFields.toPrimitive, within,
    membersWithin, itemsWithin]
  decide +kernel

theorem plain_unsigned : (Json.obj (unsignedMembers cancelFormat (bindingMembers command)
    document)).allPlain = true := by
  have hkey : isPlain ProtectedLink.proposal.actionKey = true :=
    isPlain_of_isIdentifier (ProposalFields.isIdentifier_actionKey _)
  have hreference : isPlain (makeRecoveryReferenceId LinkDelivery.providerAccountId
      LinkOffer.caseId) = true := isPlain_of_isIdentifier (reference_ok _ _).1
  simp only [unsignedMembers, bindingMembers, bindings, List.map_cons, List.map_nil, document,
    commandDocument, command, plan, ProtectedLink.plan, ProtectedLink.target,
    GateDecision.toPrimitive, ProposalFields.toPrimitive, TargetFields.toPrimitive,
    ProposalFields.proposalDigest, GateDecision.decisionDigest, CancelCommandFields.payloadDigest,
    TargetFields.targetDigest, sha256Json, Json.allPlain, Json.membersPlain, Json.itemsPlain, hkey,
    hreference, isPlain_sha256Hexdigest]
  decide +kernel

theorem size_unsigned : (Json.obj (unsignedMembers cancelFormat (bindingMembers command)
    document)).textSize + 128 ≤ maxEffectCommandBytes := by
  have hkey : ProtectedLink.proposal.actionKey.toList.length = 68 := length_actionKey _
  have hreference := (reference_ok LinkDelivery.providerAccountId LinkOffer.caseId).2
  simp only [unsignedMembers, bindingMembers, bindings, List.map_cons, List.map_nil, document,
    commandDocument, command, plan, ProtectedLink.plan, ProtectedLink.target,
    GateDecision.toPrimitive, ProposalFields.toPrimitive, TargetFields.toPrimitive,
    ProposalFields.proposalDigest, GateDecision.decisionDigest, CancelCommandFields.payloadDigest,
    TargetFields.targetDigest, sha256Json, Json.textSize, Json.membersSize, Json.itemsSize, hkey,
    length_sha256Hexdigest]
  generalize (makeRecoveryReferenceId LinkDelivery.providerAccountId
    LinkOffer.caseId).toList.length = n at hreference ⊢
  revert n
  decide +kernel

theorem exists_envelope : ∃ envelope, encodeCancelPaymentLinkCommand command = .ok envelope := by
  obtain ⟨sum, hsummed, hbounded⟩ := exists_sum within_unsigned plain_unsigned size_unsigned
  exact ⟨_, encode_ok_iff.mpr ⟨sum, ⟨plain_bindings _, plain_command _, hsummed, hbounded⟩, rfl⟩⟩

end

/-- A cancellation is stored, and read back from its bytes. -/
theorem stored_cancellation : ∃ envelope decoded,
    encodeCancelPaymentLinkCommand command = .ok envelope ∧
      decodeCancelPaymentLinkCommand (.bytes (canonicalJsonBytes envelope)) = .ok decoded ∧
      decoded.Equals command := by
  obtain ⟨envelope, henvelope⟩ := exists_envelope
  obtain ⟨-, hread⟩ := cancelCommand_roundTrip.1 ProtectedLink.gate ProtectedLink.proposal
    ProtectedLink.context command envelope planned henvelope
  obtain ⟨decoded, hdecoded, hequal, -⟩ := hread _ .bytes
  exact ⟨envelope, decoded, henvelope, hdecoded, hequal⟩

end CancellationCommandCodec.StoredCancellation

end Retrywise.ControlPlane
