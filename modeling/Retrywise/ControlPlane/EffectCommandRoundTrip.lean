import Retrywise.ControlPlane.CommandRoundTrip
import Retrywise.Domain.GateSoundness

/-!
# Stored create commands are read back

The codec of the create command is one envelope for one command: what is encoded is read back
from the mapping in any order of its keys and from its canonical text, and what is accepted is
encoded to the text it came as.

> `createCommand_roundTrip`: the two directions.
-/

namespace Retrywise.ControlPlane

open Retrywise.Foundation Retrywise.Domain

/-! ## Equal commands -/

/-- `==` of requests: the order of notes does not count. -/
def StandardPaymentLinkRequest.Equals (r s : StandardPaymentLinkRequest) : Prop :=
  { r.toRequestFields with notes := [] } = { s.toRequestFields with notes := [] } ∧
    r.notes.Perm s.notes

/-- Amounts and epochs are positive. -/
theorem StandardPaymentLinkRequest.positive (r : StandardPaymentLinkRequest) :
    1 ≤ r.amountMinor ∧ 1 ≤ r.expireByEpoch := by
  have hvalid := r.valid
  unfold RequestFields.postInit at hvalid
  obtain ⟨_, hamount, hvalid⟩ := bind_ok_iff.mp hvalid
  obtain ⟨_, -, hvalid⟩ := bind_ok_iff.mp hvalid
  obtain ⟨_, -, hvalid⟩ := bind_ok_iff.mp hvalid
  obtain ⟨_, -, hvalid⟩ := bind_ok_iff.mp hvalid
  obtain ⟨_, hexpiry, -⟩ := bind_ok_iff.mp hvalid
  exact ⟨Nat.one_le_iff_ne_zero.mpr (raiseIf_ok_iff.mp hamount),
    Nat.one_le_iff_ne_zero.mpr (raiseIf_ok_iff.mp hexpiry)⟩

/-- `==` of commands, field by field. -/
structure CreatePaymentLinkCommand.Equals (c d : CreatePaymentLinkCommand) : Prop where
  proposal : c.proposal.Equals d.proposal
  priorPlan : c.priorPlan = d.priorPlan
  request : c.request.Equals d.request
  providerAccountId : c.providerAccountId = d.providerAccountId

namespace EffectCommandCodec

/-! ## The request -/

theorem checkNotes_ok_iff {notes : List (String × String)} :
    checkNotes notes = .ok () ↔ ∀ note ∈ notes,
      cleanLinkText note.1 "notes key" 256 = .ok () ∧
        cleanLinkText note.2 s!"notes[{note.1}]" 256 = .ok () := by
  induction notes with
  | nil => exact ⟨fun _ note h => absurd h List.not_mem_nil, fun _ => rfl⟩
  | cons note notes ih =>
    rw [List.forall_mem_cons, ← ih, checkNotes]
    constructor
    · intro h
      obtain ⟨_, hkey, h⟩ := bind_ok_iff.mp h
      obtain ⟨_, hvalue, h⟩ := bind_ok_iff.mp h
      exact ⟨⟨hkey, hvalue⟩, h⟩
    · rintro ⟨⟨hkey, hvalue⟩, h⟩
      exact bind_ok_iff.mpr ⟨_, hkey, bind_ok_iff.mpr ⟨_, hvalue, h⟩⟩

/-- The notes of the controller, in the order of their keys. -/
def ownNotes (orderId caseId : String) : List (String × String) :=
  [("merchant_order_id", orderId), ("recovery_case_id", caseId)]

/-- The notes that the codec takes are these two. -/
theorem notes_perm {notes : List (String × String)} {orderId caseId : String}
    (hmapping : (notes.map Prod.fst).Nodup)
    (h : controllerNotes notes = .ok (orderId, caseId)) :
    notes.Perm (ownNotes orderId caseId) ∧ isIdentifier orderId = true ∧
      isIdentifier caseId = true ∧ notes.lookup "recovery_case_id" = some caseId := by
  unfold controllerNotes at h
  obtain ⟨_, hknown, h⟩ := bind_ok_iff.mp h
  obtain ⟨order, horder, h⟩ := bind_ok_iff.mp h
  obtain ⟨case, hcase, h⟩ := bind_ok_iff.mp h
  obtain ⟨_, hidentifiers, h⟩ := bind_ok_iff.mp h
  obtain ⟨rfl, rfl⟩ := Prod.mk.inj (pure_ok_iff.mp h)
  rw [raiseIf_ok_iff, not_or, not_not, not_not] at hidentifiers
  refine ⟨?_, hidentifiers.1, hidentifiers.2, someOr_ok_iff.mp hcase⟩
  have hmem : ∀ {key value : String}, notes.lookup key = some value → (key, value) ∈ notes := by
    intro key value hlookup
    obtain ⟨front, back, rfl, -⟩ := List.lookup_eq_some_iff.mp hlookup
    exact List.mem_append_right _ List.mem_cons_self
  have horderIn := hmem (someOr_ok_iff.mp horder)
  have hcaseIn := hmem (someOr_ok_iff.mp hcase)
  refine (List.perm_ext_iff_of_nodup (List.Nodup.of_map _ hmapping) (by simp [ownNotes])).mpr ?_
  intro note
  constructor
  · intro hnote
    have hkey : note.1 ∈ ["merchant_order_id", "recovery_case_id"] := by
      by_contra hother
      exact raiseIf_ok_iff.mp hknown (List.any_eq_true.mpr ⟨note, hnote, by simpa using hother⟩)
    rcases List.mem_pair.mp hkey with hkey | hkey
    · have hsame := List.inj_on_of_nodup_map hmapping hnote horderIn hkey
      rw [hsame]
      exact List.mem_cons_self
    · have hsame := List.inj_on_of_nodup_map hmapping hnote hcaseIn hkey
      rw [hsame]
      exact List.mem_cons_of_mem _ List.mem_cons_self
  · intro hnote
    rcases List.mem_pair.mp hnote with rfl | rfl
    · exact horderIn
    · exact hcaseIn

/-- A request that the codec writes. -/
structure Templated (r : RequestFields) (orderId caseId : String) : Prop where
  customer : r.customer = none
  insensitive : rejectSensitiveDescription r.description = .ok ()
  notes : controllerNotes r.notes = .ok (orderId, caseId)
  template : r.description = "Retry payment for order " ++ orderId

/-- What a request is written as. -/
def requestDocument (r : RequestFields) (orderId caseId : String) : Json :=
  .obj [
    ("amount_minor", .int r.amountMinor),
    ("currency", .str r.currency),
    ("description", .str r.description),
    ("expire_by_epoch", .int r.expireByEpoch),
    ("notes", .obj [("merchant_order_id", .str orderId), ("recovery_case_id", .str caseId)]),
    ("reference_id", .str r.referenceId)]

theorem requestPrimitive_ok_iff {r : RequestFields} {document : Json} :
    requestPrimitive r = .ok document ↔
      ∃ orderId caseId, Templated r orderId caseId ∧ document = requestDocument r orderId caseId := by
  unfold requestPrimitive
  constructor
  · intro h
    obtain ⟨_, hcustomer, h⟩ := bind_ok_iff.mp h
    obtain ⟨_, hinsensitive, h⟩ := bind_ok_iff.mp h
    obtain ⟨⟨orderId, caseId⟩, hnotes, h⟩ := bind_ok_iff.mp h
    obtain ⟨_, htemplate, h⟩ := bind_ok_iff.mp h
    refine ⟨orderId, caseId, ⟨?_, hinsensitive, hnotes, not_not.mp (raiseIf_ok_iff.mp htemplate)⟩,
      (pure_ok_iff.mp h).symm⟩
    simpa using raiseIf_ok_iff.mp hcustomer
  · rintro ⟨orderId, caseId, h, rfl⟩
    refine bind_ok_iff.mpr ⟨(), raiseIf_of_not _ (by simp [h.customer]), ?_⟩
    refine bind_ok_iff.mpr ⟨(), h.insensitive, ?_⟩
    refine bind_ok_iff.mpr ⟨(orderId, caseId), h.notes, ?_⟩
    exact bind_ok_iff.mpr ⟨(), raiseIf_of_not _ (not_not.mpr h.template), rfl⟩

theorem ownKeys_creation {fields : List String}
    (h : fields ∈ [requiredNoteKeys, requestFields, bindingFields, commandFields]) :
    OwnKeys fields := by
  have hall : ∀ fields ∈ [requiredNoteKeys, requestFields, bindingFields, commandFields],
      OwnKeys fields := by decide +kernel
  exact hall fields h

theorem plain_request (r : RequestFields) (orderId caseId : String) :
    Plain (requestDocument r orderId caseId) := by
  have hnotes : Plain (.obj [("merchant_order_id", .str orderId),
      ("recovery_case_id", .str caseId)]) := by
    refine Plain.obj rfl (ownKeys_creation (by simp) : OwnKeys requiredNoteKeys) ?_
    simp only [List.map_cons, List.map_nil, List.forall_mem_cons]
    exact ⟨Plain.str _, Plain.str _, nofun⟩
  refine Plain.obj rfl (ownKeys_creation (by simp) : OwnKeys requestFields) ?_
  simp only [List.map_cons, List.map_nil, List.forall_mem_cons]
  exact ⟨Plain.int _, Plain.str _, Plain.str _, Plain.int _, hnotes, Plain.str _, nofun⟩

/-- The two notes are read back. -/
theorem notes_ok {orderId caseId : String} (horder : isIdentifier orderId = true)
    (hcase : isIdentifier caseId = true) :
    notes (.obj [("merchant_order_id", .str orderId), ("recovery_case_id", .str caseId)]) =
      .ok (ownNotes orderId caseId) := by
  refine bind_ok_iff.mpr ⟨(), raiseIf_of_not _ (by simp [requiredNoteKeys]), ?_⟩
  refine bind_ok_iff.mpr ⟨(), raiseIf_of_not _ (by simp [requiredNoteKeys]), ?_⟩
  refine bind_ok_iff.mpr ⟨orderId, rfl, ?_⟩
  refine bind_ok_iff.mpr ⟨(), raiseIf_of_not _ (not_not.mpr horder), ?_⟩
  refine bind_ok_iff.mpr ⟨caseId, rfl, ?_⟩
  exact bind_ok_iff.mpr ⟨(), raiseIf_of_not _ (not_not.mpr hcase), rfl⟩

/-- Clean text is clean text of a request. -/
theorem cleanLinkText_of_isCleanText {value field : String} {maximum : Nat}
    (h : isCleanText maximum value = true) : cleanLinkText value field maximum = .ok () := by
  simp only [isCleanText, Bool.and_eq_true, decide_eq_true_eq, Bool.not_eq_true'] at h
  obtain ⟨⟨⟨⟨hsome, hhead⟩, hlast⟩, hlen⟩, hall⟩ := h
  refine bind_ok_iff.mpr ⟨(), raiseIf_of_not _ ?_, ?_⟩
  · rintro (hnone | hblank | hblank)
    · exact hsome hnone
    · rw [hhead] at hblank
      exact absurd hblank (by simp)
    · rw [hlast] at hblank
      exact absurd hblank (by simp)
  refine bind_ok_iff.mpr ⟨(), raiseIf_of_not _ (not_lt.mpr hlen), raiseIf_of_not _ ?_⟩
  simpa [List.any_eq_true, List.all_eq_true, not_or, not_lt] using hall

/-- A request with its notes in order, and nothing of a customer, is one too. -/
theorem postInit_ownNotes {r : RequestFields} {orderId caseId : String}
    (hvalid : r.postInit = .ok ()) (hcustomer : r.customer = none)
    (hnotes : r.notes.Perm (ownNotes orderId caseId)) :
    { r with notes := ownNotes orderId caseId }.postInit = .ok () := by
  unfold RequestFields.postInit at hvalid ⊢
  obtain ⟨_, hamount, hvalid⟩ := bind_ok_iff.mp hvalid
  obtain ⟨_, hcurrency, hvalid⟩ := bind_ok_iff.mp hvalid
  obtain ⟨_, hreference, hvalid⟩ := bind_ok_iff.mp hvalid
  obtain ⟨_, hdescription, hvalid⟩ := bind_ok_iff.mp hvalid
  obtain ⟨_, hexpiry, hvalid⟩ := bind_ok_iff.mp hvalid
  obtain ⟨_, -, hvalid⟩ := bind_ok_iff.mp hvalid
  obtain ⟨_, hchecked, -⟩ := bind_ok_iff.mp hvalid
  have hown : checkNotes (ownNotes orderId caseId) = .ok () :=
    checkNotes_ok_iff.mpr fun note hnote =>
      checkNotes_ok_iff.mp hchecked note (hnotes.mem_iff.mpr hnote)
  refine bind_ok_iff.mpr ⟨(), hamount, bind_ok_iff.mpr ⟨(), hcurrency, ?_⟩⟩
  refine bind_ok_iff.mpr ⟨(), hreference, bind_ok_iff.mpr ⟨(), hdescription, ?_⟩⟩
  refine bind_ok_iff.mpr ⟨(), hexpiry, bind_ok_iff.mpr ⟨(), raiseIf_of_not _ (by simp [ownNotes]),
    ?_⟩⟩
  refine bind_ok_iff.mpr ⟨(), hown, ?_⟩
  rw [hcustomer]
  rfl

theorem linkRequest_ok {fields : RequestFields} (hvalid : fields.postInit = .ok ())
    (hmapping : (fields.notes.map Prod.fst).Nodup) :
    linkRequest fields = .ok ⟨fields, hvalid, hmapping⟩ := by
  unfold linkRequest
  split
  · exact dif_pos hmapping
  next raised hraised => exact nomatch hvalid.symm.trans hraised

/-- **A request is read back**, with its notes in order. -/
theorem exists_request {depth : Nat} {r : StandardPaymentLinkRequest} {orderId caseId : String}
    (h : Templated r.toRequestFields orderId caseId)
    (hfits : Fits depth (requestDocument r.toRequestFields orderId caseId)) :
    ∃ q : StandardPaymentLinkRequest,
      request (requestDocument r.toRequestFields orderId caseId) = .ok q ∧
        q.toRequestFields = { r.toRequestFields with notes := ownNotes orderId caseId } := by
  obtain ⟨hnotes, horder, hcase, -⟩ := notes_perm r.mapping h.notes
  have hvalid := postInit_ownNotes r.valid h.customer hnotes
  have hmapping : ((ownNotes orderId caseId).map Prod.fst).Nodup := by simp [ownNotes]
  refine ⟨⟨_, hvalid, hmapping⟩, ?_, rfl⟩
  obtain ⟨hamount, -, -, hexpiry, -⟩ := hfits.2.2
  obtain ⟨hpositive, hepoch⟩ := r.positive
  refine bind_ok_iff.mpr ⟨_, exactObject_of_keys rfl, ?_⟩
  refine bind_ok_iff.mpr ⟨r.description, rfl, ?_⟩
  refine bind_ok_iff.mpr ⟨(), h.insensitive, ?_⟩
  refine bind_ok_iff.mpr ⟨ownNotes orderId caseId, notes_ok horder hcase, ?_⟩
  refine bind_ok_iff.mpr ⟨(), bind_ok_iff.mpr ⟨(), h.insensitive,
    raiseIf_of_not _ (not_not.mpr h.template)⟩, ?_⟩
  refine bind_ok_iff.mpr ⟨r.amountMinor, integer_ok hamount
    (forall_mem_some (Int.ofNat_le.mpr hpositive)), ?_⟩
  refine bind_ok_iff.mpr ⟨r.currency, rfl, ?_⟩
  refine bind_ok_iff.mpr ⟨r.referenceId, rfl, ?_⟩
  refine bind_ok_iff.mpr ⟨r.expireByEpoch, integer_ok hexpiry
    (forall_mem_some (Int.ofNat_le.mpr hepoch)), ?_⟩
  refine mapError_ok_iff.mpr ?_
  have hfields : { r.toRequestFields with notes := ownNotes orderId caseId } =
      (⟨r.amountMinor, r.currency, r.referenceId, r.description, r.expireByEpoch,
        ownNotes orderId caseId, none⟩ : RequestFields) := by
    rw [← h.customer]
  exact (congrArg linkRequest hfields).symm.trans (linkRequest_ok hvalid hmapping)

/-! ## The digests -/

section

variable [Hashlib]

theorem sha256Json_of_sorted {a b : Json} (h : a.sorted = b.sorted) :
    sha256Json a = sha256Json b := by
  rw [sha256Json, sha256Json, ← canonicalJsonBytes_sorted a, h, canonicalJsonBytes_sorted]

/-- The order of notes does not count in the digest of a request. -/
theorem requestDigest_of_perm {r : RequestFields} {notes : List (String × String)}
    (hperm : r.notes.Perm notes) (hmapping : (notes.map Prod.fst).Nodup) :
    r.requestDigest = { r with notes := notes }.requestDigest := by
  have hnotes : (Json.obj (r.notes.map fun note => (note.1, .str note.2))).sorted =
      (Json.obj (notes.map fun note => (note.1, .str note.2))).sorted := by
    refine congrArg Json.obj (Json.sortedMembers_eq_of_perm (hperm.map _) ?_)
    rw [List.map_map]
    exact hmapping
  refine sha256Json_of_sorted (congrArg Json.obj ?_)
  simp only [List.cons_append, List.nil_append, Json.sortedMembers, hnotes]

/-! ## What is encoded -/

variable {command : CreatePaymentLinkCommand} {envelope : Json}

/-- What a command is written as. -/
def commandDocument (c : CommandFields) (request : Json) : Json :=
  .obj [
    ("prior_plan", c.priorPlan.toPrimitive),
    ("proposal", c.proposal.toPrimitive),
    ("provider_account_id", .str c.providerAccountId),
    ("request", request)]

def bindingMembers (command : CreatePaymentLinkCommand) : List (String × Json) :=
  (bindings command).map fun binding => (binding.1, .str binding.2)

theorem plain_bindings (command : CreatePaymentLinkCommand) :
    Plain (.obj (bindingMembers command)) := by
  refine Plain.obj rfl (ownKeys_creation (by simp) : OwnKeys bindingFields) ?_
  intro value hvalue
  obtain ⟨member, hmember, rfl⟩ := List.mem_map.mp hvalue
  obtain ⟨binding, -, rfl⟩ := List.mem_map.mp hmember
  exact Plain.str _

theorem plain_command {c : CommandFields} {request : Json} (hplan : c.priorPlan.reasons = [])
    (hrequest : Plain request) : Plain (commandDocument c request) := by
  refine Plain.obj rfl (ownKeys_creation (by simp) : OwnKeys commandFields) ?_
  simp only [List.map_cons, List.map_nil, List.forall_mem_cons]
  exact ⟨plain_plan hplan, plain_proposal _, Plain.str _, hrequest, nofun⟩

/-- A command, its notes and its checksum make one envelope. -/
structure Encodes (command : CreatePaymentLinkCommand) (orderId caseId sum : String) : Prop where
  templated : Templated command.request.toRequestFields orderId caseId
  bound : validateCommandBinding command = .ok ()
  summed : ∃ bytes, boundedCanonicalBytes (.obj (unsignedMembers createFormat
    (bindingMembers command) (commandDocument command.toCommandFields
      (requestDocument command.request.toRequestFields orderId caseId)))) = .ok bytes ∧
    sum = Hashlib.sha256Hexdigest bytes
  bounded : ∃ bytes, boundedCanonicalBytes (.obj (sealedMembers createFormat
    (bindingMembers command) (commandDocument command.toCommandFields
      (requestDocument command.request.toRequestFields orderId caseId)) sum)) = .ok bytes

theorem encode_ok_iff :
    encodeCreateStandardPaymentLinkCommand command = .ok envelope ↔
      ∃ orderId caseId sum, Encodes command orderId caseId sum ∧
        envelope = .obj (sealedMembers createFormat (bindingMembers command)
          (commandDocument command.toCommandFields
            (requestDocument command.request.toRequestFields orderId caseId)) sum) := by
  unfold encodeCreateStandardPaymentLinkCommand
  constructor
  · intro h
    obtain ⟨request, hrequest, h⟩ := bind_ok_iff.mp h
    obtain ⟨orderId, caseId, htemplated, rfl⟩ := requestPrimitive_ok_iff.mp hrequest
    obtain ⟨_, hbound, h⟩ := bind_ok_iff.mp h
    obtain ⟨bytes, hbytes, h⟩ := bind_ok_iff.mp h
    obtain ⟨sealedBytes, hsealed, h⟩ := bind_ok_iff.mp h
    exact ⟨orderId, caseId, _, ⟨htemplated, hbound, ⟨bytes, hbytes, rfl⟩, ⟨_, hsealed⟩⟩,
      (pure_ok_iff.mp h).symm⟩
  · rintro ⟨orderId, caseId, sum, h, rfl⟩
    obtain ⟨bytes, hbytes, rfl⟩ := h.summed
    obtain ⟨sealedBytes, hsealed⟩ := h.bounded
    refine bind_ok_iff.mpr ⟨_, requestPrimitive_ok_iff.mpr ⟨_, _, h.templated, rfl⟩, ?_⟩
    refine bind_ok_iff.mpr ⟨(), h.bound, ?_⟩
    refine bind_ok_iff.mpr ⟨bytes, hbytes, ?_⟩
    exact bind_ok_iff.mpr ⟨sealedBytes, hsealed, rfl⟩

/-! ## What is read back -/

/-- An allowed plan has no reasons, and was bound to the proposal. -/
theorem Encodes.plan {orderId caseId sum : String} (h : Encodes command orderId caseId sum) :
    command.priorPlan.allowed = true ∧ isIdentifier command.providerAccountId = true := by
  have hbound := h.bound
  unfold validateCommandBinding at hbound
  obtain ⟨_, haccount, hbound⟩ := bind_ok_iff.mp hbound
  obtain ⟨_, -, hbound⟩ := bind_ok_iff.mp hbound
  obtain ⟨_, hallowed, -⟩ := bind_ok_iff.mp hbound
  refine ⟨?_, not_not.mp (raiseIf_ok_iff.mp haccount)⟩
  by_contra hrefused
  exact raiseIf_ok_iff.mp hallowed (Or.inr (Bool.not_eq_true _ ▸ hrefused))

/-- A command made of the parts that were read. -/
structure ReadBack (decoded command : CreatePaymentLinkCommand) (orderId caseId : String) :
    Prop where
  proposal : decoded.proposal.Equals command.proposal
  document : decoded.proposal.toPrimitive = command.proposal.toPrimitive
  priorPlan : decoded.priorPlan = command.priorPlan
  request : decoded.request.toRequestFields =
    { command.request.toRequestFields with notes := ownNotes orderId caseId }
  providerAccountId : decoded.providerAccountId = command.providerAccountId

namespace ReadBack

variable {decoded : CreatePaymentLinkCommand} {orderId caseId sum : String}

theorem proposalDigest (h : ReadBack decoded command orderId caseId) :
    decoded.proposal.proposalDigest = command.proposal.proposalDigest :=
  congrArg sha256Json h.document

theorem requestDigest (h : ReadBack decoded command orderId caseId)
    (hencodes : Encodes command orderId caseId sum) :
    decoded.request.requestDigest = command.request.requestDigest := by
  obtain ⟨hperm, -⟩ := notes_perm command.request.mapping hencodes.templated.notes
  rw [h.request]
  exact (requestDigest_of_perm hperm (by simp [ownNotes])).symm

theorem payloadDigest (h : ReadBack decoded command orderId caseId)
    (hencodes : Encodes command orderId caseId sum) :
    decoded.payloadDigest = command.payloadDigest := by
  have hmerchant : decoded.proposal.merchantId = command.proposal.merchantId :=
    (congrArg ProposalFields.merchantId h.proposal.1 :)
  have hreference : decoded.request.referenceId = command.request.referenceId :=
    (congrArg RequestFields.referenceId h.request :)
  unfold CommandFields.payloadDigest
  rw [actionKey_of_equals h.proposal, hmerchant, h.priorPlan, h.proposalDigest,
    h.providerAccountId, hreference, h.requestDigest hencodes]

theorem bindings_eq (h : ReadBack decoded command orderId caseId)
    (hencodes : Encodes command orderId caseId sum) : bindings decoded = bindings command := by
  unfold bindings
  rw [actionKey_of_equals h.proposal, h.payloadDigest hencodes, h.priorPlan, h.proposalDigest,
    h.requestDigest hencodes]

theorem equals (h : ReadBack decoded command orderId caseId)
    (hencodes : Encodes command orderId caseId sum) : decoded.Equals command where
  proposal := h.proposal
  priorPlan := h.priorPlan
  request := by
    obtain ⟨hperm, -⟩ := notes_perm command.request.mapping hencodes.templated.notes
    refine ⟨?_, ?_⟩
    · rw [h.request]
    · rw [h.request]
      exact hperm.symm
  providerAccountId := h.providerAccountId

/-- The checks of the binding see no difference. -/
theorem validateCommandBinding_eq (h : ReadBack decoded command orderId caseId)
    (hencodes : Encodes command orderId caseId sum) :
    validateCommandBinding decoded = validateCommandBinding command := by
  obtain ⟨-, -, -, hcaseNote⟩ := notes_perm command.request.mapping hencodes.templated.notes
  have hproposal := h.proposal.1
  have htype : decoded.proposal.actionType = command.proposal.actionType :=
    (congrArg ProposalFields.actionType hproposal :)
  have hcase : decoded.proposal.caseId = command.proposal.caseId :=
    (congrArg ProposalFields.caseId hproposal :)
  have hamount : decoded.proposal.amount = command.proposal.amount :=
    (congrArg ProposalFields.amount hproposal :)
  have hid : decoded.proposal.proposalId = command.proposal.proposalId :=
    (congrArg ProposalFields.proposalId hproposal :)
  have hversion : decoded.proposal.decisionVersion = command.proposal.decisionVersion :=
    (congrArg ProposalFields.decisionVersion hproposal :)
  have hminor : decoded.request.amountMinor = command.request.amountMinor :=
    (congrArg RequestFields.amountMinor h.request :)
  have hcurrency : decoded.request.currency = command.request.currency :=
    (congrArg RequestFields.currency h.request :)
  have hreference : decoded.request.referenceId = command.request.referenceId :=
    (congrArg RequestFields.referenceId h.request :)
  have hnotes : decoded.request.notes = ownNotes orderId caseId :=
    (congrArg RequestFields.notes h.request :)
  have hlookup : decoded.request.notes.lookup "recovery_case_id" =
      command.request.notes.lookup "recovery_case_id" := by
    rw [hnotes, hcaseNote]
    rfl
  have hplan : decoded.PlanBound ↔ command.PlanBound := by
    unfold CommandFields.PlanBound
    rw [h.priorPlan, hid, actionKey_of_equals h.proposal, h.proposalDigest, hcase, hversion]
  unfold validateCommandBinding
  simp only [h.providerAccountId, htype, h.priorPlan, hplan, hamount, hminor, hcurrency, hcase,
    hreference, hlookup]

/-- **A command that was read back is encoded as it was before.** -/
theorem encodes (h : ReadBack decoded command orderId caseId)
    (hencodes : Encodes command orderId caseId sum) : Encodes decoded orderId caseId sum ∧
      bindingMembers decoded = bindingMembers command ∧
      commandDocument decoded.toCommandFields
          (requestDocument decoded.request.toRequestFields orderId caseId) =
        commandDocument command.toCommandFields
          (requestDocument command.request.toRequestFields orderId caseId) := by
  obtain ⟨-, horder, hcase, -⟩ := notes_perm command.request.mapping hencodes.templated.notes
  have hbindings : bindingMembers decoded = bindingMembers command := by
    unfold bindingMembers
    rw [h.bindings_eq hencodes]
  have hdocument : commandDocument decoded.toCommandFields
        (requestDocument decoded.request.toRequestFields orderId caseId) =
      commandDocument command.toCommandFields
        (requestDocument command.request.toRequestFields orderId caseId) := by
    unfold commandDocument
    rw [h.priorPlan, h.document, h.providerAccountId, h.request]
    rfl
  have hown : controllerNotes (ownNotes orderId caseId) = .ok (orderId, caseId) := by
    refine bind_ok_iff.mpr ⟨(), raiseIf_of_not _ (by simp [ownNotes]), ?_⟩
    refine bind_ok_iff.mpr ⟨orderId, rfl, bind_ok_iff.mpr ⟨caseId, rfl, ?_⟩⟩
    refine bind_ok_iff.mpr ⟨(), raiseIf_of_not _ ?_, rfl⟩
    rintro (hother | hother)
    · exact hother horder
    · exact hother hcase
  refine ⟨⟨?_, ?_, ?_, ?_⟩, hbindings, hdocument⟩
  · rw [h.request]
    exact ⟨hencodes.templated.customer, hencodes.templated.insensitive, hown,
      hencodes.templated.template⟩
  · rw [h.validateCommandBinding_eq hencodes]
    exact hencodes.bound
  · rw [hbindings, hdocument]
    exact hencodes.summed
  · rw [hbindings, hdocument]
    exact hencodes.bounded

end ReadBack

section

variable {orderId caseId sum : String}

/-- The parts of a command are read back, and the command of them. -/
theorem exists_commandOf {depth : Nat} (hplanned : Planned command.priorPlan)
    (h : Encodes command orderId caseId sum)
    (hfits : Fits depth (commandDocument command.toCommandFields
      (requestDocument command.request.toRequestFields orderId caseId))) :
    ∃ decoded, commandOf (commandDocument command.toCommandFields
        (requestDocument command.request.toRequestFields orderId caseId)) = .ok decoded ∧
      ReadBack decoded command orderId caseId := by
  obtain ⟨hplan, hproposal, -, hrequest, -⟩ := hfits.2.2
  obtain ⟨proposal, hdecoded, hequal, hdocument⟩ :=
    exists_decodeActionProposal command.proposal hproposal
  obtain ⟨request, hread, hfields⟩ := exists_request h.templated hrequest
  have hvalid : (CommandFields.mk proposal command.priorPlan request
      command.providerAccountId).postInit = .ok () := command.valid
  refine ⟨⟨_, hvalid⟩, ?_, ⟨hequal, hdocument, rfl, hfields, rfl⟩⟩
  refine bind_ok_iff.mpr ⟨_, exactObject_of_keys rfl, ?_⟩
  refine bind_ok_iff.mpr ⟨proposal, hdecoded, ?_⟩
  refine bind_ok_iff.mpr ⟨command.priorPlan, priorPlan_toPrimitive hplanned hplan, ?_⟩
  refine bind_ok_iff.mpr ⟨request, hread, ?_⟩
  refine bind_ok_iff.mpr ⟨command.providerAccountId, rfl, ?_⟩
  exact mapError_ok_iff.mpr (construct_ok_iff.mpr ⟨hvalid, rfl⟩)

/-- The bindings of the envelope are those of the command. -/
theorem checkBindings_self (command : CreatePaymentLinkCommand) :
    checkBindings createFormat (bindingMembers command) (bindings command) = .ok () := by
  have hdigest := fun bytes => ascii_of_isDigest (Hashlib.isDigest_sha256Hexdigest bytes)
  refine checkBindings_ok ?_
  simp only [bindings, List.forall_mem_cons]
  exact ⟨⟨rfl, ascii_actionKey _⟩, ⟨rfl, hdigest _⟩, ⟨rfl, hdigest _⟩, ⟨rfl, hdigest _⟩,
    ⟨rfl, hdigest _⟩, nofun⟩

theorem checkDigests_self (command : CreatePaymentLinkCommand) :
    checkDigests (bindingMembers command) (bindingFields.filter fun name => name ≠ "action_key") =
      .ok () := by
  have hdigest := Hashlib.isDigest_sha256Hexdigest
  refine checkDigests_ok ?_
  show ∀ name ∈ ["executor_payload_sha256", "prior_plan_sha256", "proposal_sha256",
    "provider_request_sha256"], _
  simp only [List.forall_mem_cons]
  exact ⟨⟨_, rfl, hdigest _⟩, ⟨_, rfl, hdigest _⟩, ⟨_, rfl, hdigest _⟩, ⟨_, rfl, hdigest _⟩, nofun⟩

theorem Encodes.sealed (h : Encodes command orderId caseId sum) :
    Sealed createFormat (bindingMembers command) (commandDocument command.toCommandFields
      (requestDocument command.request.toRequestFields orderId caseId)) sum where
  plainBindings := plain_bindings command
  plainCommand := plain_command (List.isEmpty_iff.mp h.plan.1) (plain_request _ _ _)
  summed := h.summed
  bounded := h.bounded

/-- **What is encoded is read back**, whatever it is stored as. -/
theorem exists_decode {payload : CommandPayload} (hplanned : Planned command.priorPlan)
    (h : encodeCreateStandardPaymentLinkCommand command = .ok envelope)
    (hstores : Stores envelope payload) :
    ∃ decoded, decodeCreateStandardPaymentLinkCommand payload = .ok decoded ∧
      decoded.Equals command ∧ decoded.payloadDigest = command.payloadDigest ∧
      decoded.proposal.proposalDigest = command.proposal.proposalDigest ∧
      decoded.request.requestDigest = command.request.requestDigest := by
  obtain ⟨orderId, caseId, sum, hencodes, rfl⟩ := encode_ok_iff.mp h
  have hsealed := hencodes.sealed
  obtain ⟨decoded, hdecoded, hback⟩ := exists_commandOf hplanned hencodes hsealed.fits_command
  obtain ⟨hagain, hbindings, hdocument⟩ := hback.encodes hencodes
  refine ⟨decoded, ?_, hback.equals hencodes, hback.payloadDigest hencodes, hback.proposalDigest,
    hback.requestDigest hencodes⟩
  have hrebuilt : encodeCreateStandardPaymentLinkCommand decoded = .ok (.obj (sealedMembers
      createFormat (bindingMembers command) (commandDocument command.toCommandFields
        (requestDocument command.request.toRequestFields orderId caseId)) sum)) := by
    refine encode_ok_iff.mpr ⟨orderId, caseId, sum, hagain, ?_⟩
    rw [hbindings, hdocument]
  have hsame := hback.bindings_eq hencodes
  refine bind_ok_iff.mpr ⟨_, hstores.coerce hsealed.storable hsealed.sorted, ?_⟩
  refine bind_ok_iff.mpr ⟨_, exactObject_of_keys rfl, ?_⟩
  refine bind_ok_iff.mpr ⟨(), checkSchema_stored, ?_⟩
  refine bind_ok_iff.mpr ⟨(), hsealed.checkIntegrity_stored, ?_⟩
  refine bind_ok_iff.mpr ⟨decoded, hdecoded, ?_⟩
  refine bind_ok_iff.mpr ⟨(), hagain.bound, ?_⟩
  refine bind_ok_iff.mpr ⟨bindingMembers command, exactObject_of_keys rfl, ?_⟩
  refine bind_ok_iff.mpr ⟨(), checkDigests_self command, ?_⟩
  refine bind_ok_iff.mpr ⟨(), hsame ▸ checkBindings_self command, ?_⟩
  refine bind_ok_iff.mpr ⟨_, hrebuilt, ?_⟩
  refine bind_ok_iff.mpr ⟨_, hsealed.storable_stored.boundedBytes_toPy, ?_⟩
  refine bind_ok_iff.mpr ⟨_, hsealed.storable.boundedBytes_toPy, ?_⟩
  refine bind_ok_iff.mpr ⟨(), raiseIf_of_not _ (not_not.mpr ?_), rfl⟩
  rw [← hsealed.sorted, canonicalJsonBytes_sorted]

/-- The canonical bytes of an envelope are what the encoder of bytes returns. -/
theorem encodeJson_ok (h : encodeCreateStandardPaymentLinkCommand command = .ok envelope) :
    encodeCreateStandardPaymentLinkCommandJson command = .ok (canonicalJsonBytes envelope) := by
  obtain ⟨orderId, caseId, sum, hencodes, rfl⟩ := encode_ok_iff.mp h
  have hsealed := hencodes.sealed
  obtain ⟨bytes, hbytes⟩ := hsealed.bounded
  obtain ⟨-, rfl⟩ := storable_of_bounded hsealed.storable.distinct hsealed.storable.clean hbytes
  exact bind_ok_iff.mpr ⟨_, h, hbytes⟩

/-- **What is accepted is encoded to the text it came as.** -/
theorem encodeJson_of_decode {payload : CommandPayload} {commandType : String} {version : Int}
    (h : decodeCreateStandardPaymentLinkCommand payload commandType version = .ok command) :
    ∃ bytes, encodeCreateStandardPaymentLinkCommandJson command = .ok bytes ∧
      payload.canonicalBytes = some bytes ∧ ∀ raw ∈ payload.raw, raw = bytes := by
  unfold decodeCreateStandardPaymentLinkCommand at h
  obtain ⟨members, hcoerce, h⟩ := bind_ok_iff.mp h
  obtain ⟨taken, htaken, h⟩ := bind_ok_iff.mp h
  obtain ⟨_, -, h⟩ := bind_ok_iff.mp h
  obtain ⟨_, -, h⟩ := bind_ok_iff.mp h
  obtain ⟨decoded, -, h⟩ := bind_ok_iff.mp h
  obtain ⟨_, -, h⟩ := bind_ok_iff.mp h
  obtain ⟨_, -, h⟩ := bind_ok_iff.mp h
  obtain ⟨_, -, h⟩ := bind_ok_iff.mp h
  obtain ⟨_, -, h⟩ := bind_ok_iff.mp h
  obtain ⟨rebuilt, hrebuilt, h⟩ := bind_ok_iff.mp h
  obtain ⟨stored, hstored, h⟩ := bind_ok_iff.mp h
  obtain ⟨encoded, hencoded, h⟩ := bind_ok_iff.mp h
  obtain ⟨_, hsame, h⟩ := bind_ok_iff.mp h
  obtain rfl := pure_ok_iff.mp h
  obtain rfl : stored = encoded := not_not.mp (raiseIf_ok_iff.mp hsame)
  obtain rfl : taken = members := exactObject_eq htaken
  obtain ⟨orderId, caseId, sum, hencodes, rfl⟩ := encode_ok_iff.mp hrebuilt
  have hbytes := hencodes.sealed.storable.boundedBytes_toPy
  obtain rfl := Except.ok.inj (hencoded.symm.trans hbytes)
  exact ⟨_, encodeJson_ok hrebuilt, canonicalBytes_of_coerce hcoerce hstored⟩

end

end

end EffectCommandCodec

section

variable [Hashlib]

/-- **The codec of the create command is a bijection with its image.** -/
theorem createCommand_roundTrip :
    (∀ (gate : DeterministicGate) (proposal : ActionProposal) (context : GateContext)
      (command : CreatePaymentLinkCommand) (envelope : Json),
      gate.evaluatePolicy proposal context = .ok command.priorPlan →
      encodeCreateStandardPaymentLinkCommand command = .ok envelope →
      encodeCreateStandardPaymentLinkCommandJson command = .ok (canonicalJsonBytes envelope) ∧
      ∀ payload, EffectCommandCodec.Stores envelope payload →
        ∃ decoded, decodeCreateStandardPaymentLinkCommand payload = .ok decoded ∧
          decoded.Equals command ∧ decoded.payloadDigest = command.payloadDigest ∧
          decoded.proposal.proposalDigest = command.proposal.proposalDigest ∧
          decoded.request.requestDigest = command.request.requestDigest) ∧
    ∀ (payload : CommandPayload) (commandType : String) (version : Int)
      (command : CreatePaymentLinkCommand),
      decodeCreateStandardPaymentLinkCommand payload commandType version = .ok command →
      ∃ bytes, encodeCreateStandardPaymentLinkCommandJson command = .ok bytes ∧
        payload.canonicalBytes = some bytes ∧ ∀ raw ∈ payload.raw, raw = bytes := by
  refine ⟨fun gate proposal context command envelope hplan h => ?_,
    fun payload commandType version command h => EffectCommandCodec.encodeJson_of_decode h⟩
  refine ⟨EffectCommandCodec.encodeJson_ok h, fun payload hstores => ?_⟩
  obtain ⟨orderId, caseId, sum, hencodes, -⟩ := EffectCommandCodec.encode_ok_iff.mp h
  have hplanned := EffectCommandCodec.planned_of_evaluatePolicy hplan hencodes.plan.1
  exact EffectCommandCodec.exists_decode hplanned h hstores

end

/-! ## A command that is stored -/

namespace StoredLink

open EffectCommandCodec

section

variable [Hashlib]

theorem reference_checked : checkedRecoveryReferenceId "case_1" "acc_1" =
    .ok (makeRecoveryReferenceId "acc_1" "case_1") := by
  have hcase : validatedIdentifier "case_1" "recovery_case_id" = .ok () := by decide
  have haccount : validatedIdentifier "acc_1" "provider_account_id" = .ok () := by decide
  exact bind_ok_iff.mpr ⟨(), hcase, bind_ok_iff.mpr ⟨(), haccount, rfl⟩⟩

def request : StandardPaymentLinkRequest where
  amountMinor := 12500
  currency := "INR"
  referenceId := makeRecoveryReferenceId "acc_1" "case_1"
  description := "Retry payment for order order_1"
  expireByEpoch := 1767146400
  notes := ownNotes "order_1" "case_1"
  valid := by
    obtain ⟨hreference, hshort⟩ := reference_ok "acc_1" "case_1"
    have hclean : cleanLinkText (makeRecoveryReferenceId "acc_1" "case_1") "reference_id" 40 =
        .ok () :=
      cleanLinkText_of_isCleanText (isCleanText_of_isIdentifier hreference hshort)
    have hcurrency : isCurrency "INR" = true := by decide
    have hdescription : cleanLinkText "Retry payment for order order_1" "description" 2048 =
        .ok () := by decide +kernel
    have hnotes : checkNotes (ownNotes "order_1" "case_1") = .ok () := by decide +kernel
    have hamount : ¬(12500 : Nat) = 0 := by decide
    have hexpiry : ¬(1767146400 : Nat) = 0 := by decide
    have hfew : ¬(2 : Nat) > 15 := by decide
    refine bind_ok_iff.mpr ⟨(), raiseIf_of_not _ hamount, ?_⟩
    refine bind_ok_iff.mpr ⟨(), raiseIf_of_not _ (not_not.mpr hcurrency), ?_⟩
    refine bind_ok_iff.mpr ⟨(), hclean, bind_ok_iff.mpr ⟨(), hdescription, ?_⟩⟩
    refine bind_ok_iff.mpr ⟨(), raiseIf_of_not _ hexpiry, ?_⟩
    exact bind_ok_iff.mpr ⟨(), raiseIf_of_not _ hfew, bind_ok_iff.mpr ⟨(), hnotes, rfl⟩⟩
  mapping := by decide

def command : CreatePaymentLinkCommand where
  proposal := gatedProposal
  priorPlan := gatedScenario.issued .policy 3 []
  request := request
  providerAccountId := "acc_1"
  valid := raiseIf_of_not _ (not_not.mpr (by decide : isCleanText 128 "acc_1" = true))

/-- The command as it is written. -/
def document : Json :=
  commandDocument command.toCommandFields
    (requestDocument request.toRequestFields "order_1" "case_1")

theorem within_unsigned :
    within 0 (.obj (unsignedMembers createFormat (bindingMembers command) document)) = true := by
  simp only [unsignedMembers, bindingMembers, bindings, List.map_cons, List.map_nil, document,
    commandDocument, requestDocument, command, request, GateDecision.toPrimitive,
    ProposalFields.toPrimitive, Scenario.issued, within, membersWithin, itemsWithin]
  decide +kernel

theorem plain_unsigned : (Json.obj (unsignedMembers createFormat (bindingMembers command)
    document)).allPlain = true := by
  have hproposal : gatedScenario.proposal = gatedProposal := rfl
  have hkey : isPlain gatedProposal.actionKey = true :=
    isPlain_of_isIdentifier (ProposalFields.isIdentifier_actionKey _)
  have hreference : isPlain (makeRecoveryReferenceId "acc_1" "case_1") = true :=
    isPlain_of_isIdentifier (reference_ok _ _).1
  simp only [unsignedMembers, bindingMembers, bindings, List.map_cons, List.map_nil, document,
    commandDocument, requestDocument, command, request, GateDecision.toPrimitive,
    ProposalFields.toPrimitive, Scenario.issued, ProposalFields.proposalDigest,
    GateDecision.decisionDigest, CommandFields.payloadDigest, RequestFields.requestDigest,
    sha256Json, Json.allPlain, Json.membersPlain, Json.itemsPlain, hproposal, hkey, hreference,
    isPlain_sha256Hexdigest]
  decide +kernel

theorem size_unsigned : (Json.obj (unsignedMembers createFormat (bindingMembers command)
    document)).textSize + 128 ≤ maxEffectCommandBytes := by
  have hproposal : gatedScenario.proposal = gatedProposal := rfl
  have hkey : gatedProposal.actionKey.toList.length = 68 := length_actionKey _
  have hreference := (reference_ok "acc_1" "case_1").2
  simp only [unsignedMembers, bindingMembers, bindings, List.map_cons, List.map_nil, document,
    commandDocument, requestDocument, command, request, GateDecision.toPrimitive,
    ProposalFields.toPrimitive, Scenario.issued, ProposalFields.proposalDigest,
    GateDecision.decisionDigest, CommandFields.payloadDigest, RequestFields.requestDigest,
    sha256Json, Json.textSize, Json.membersSize, Json.itemsSize, hproposal, hkey,
    length_sha256Hexdigest]
  generalize (makeRecoveryReferenceId "acc_1" "case_1").toList.length = n at hreference ⊢
  revert n
  decide +kernel

theorem bound : validateCommandBinding command = .ok () := by
  have haccount : isIdentifier "acc_1" = true := by decide
  have hplan : command.PlanBound := ⟨rfl, rfl, rfl, rfl, rfl⟩
  refine bind_ok_iff.mpr ⟨(), raiseIf_of_not _ (not_not.mpr haccount), ?_⟩
  refine bind_ok_iff.mpr ⟨(), raiseIf_of_not _ (not_not.mpr rfl), ?_⟩
  refine bind_ok_iff.mpr ⟨(), raiseIf_of_not _ ?_, ?_⟩
  · rintro (hstage | hrefused)
    · exact hstage rfl
    · exact nomatch hrefused
  refine bind_ok_iff.mpr ⟨(), raiseIf_of_not _ (not_not.mpr hplan), ?_⟩
  refine bind_ok_iff.mpr ⟨⟨12500, "INR", isCurrency_inr⟩, rfl, ?_⟩
  refine bind_ok_iff.mpr ⟨(), raiseIf_of_not _ (not_not.mpr rfl), ?_⟩
  refine bind_ok_iff.mpr ⟨(), raiseIf_of_not _ (not_not.mpr rfl), ?_⟩
  refine bind_ok_iff.mpr ⟨_, reference_checked, ?_⟩
  refine bind_ok_iff.mpr ⟨(), raiseIf_of_not _ (not_not.mpr rfl), ?_⟩
  exact raiseIf_of_not _ (not_not.mpr rfl)

theorem exists_envelope : ∃ envelope,
    encodeCreateStandardPaymentLinkCommand command = .ok envelope := by
  obtain ⟨sum, hsummed, hbounded⟩ := exists_sum within_unsigned plain_unsigned size_unsigned
  have hcontroller : controllerNotes (ownNotes "order_1" "case_1") = .ok ("order_1", "case_1") := by
    decide +kernel
  have hinsensitive : rejectSensitiveDescription "Retry payment for order order_1" = .ok () := by
    decide +kernel
  have htemplate : "Retry payment for order order_1" = "Retry payment for order " ++ "order_1" := by
    decide
  exact ⟨_, encode_ok_iff.mpr ⟨"order_1", "case_1", sum,
    ⟨⟨rfl, hinsensitive, hcontroller, htemplate⟩, bound, hsummed, hbounded⟩, rfl⟩⟩

end

theorem planned : sampleGate.evaluatePolicy gatedProposal (sampleContext 3 .assessing) =
    .ok command.priorPlan :=
  sample_evaluate .policy 3 .assessing none (by decide) nofun

/-- A command is stored, and read back from its bytes. -/
theorem stored_link : ∃ envelope decoded,
    encodeCreateStandardPaymentLinkCommand command = .ok envelope ∧
      decodeCreateStandardPaymentLinkCommand (.bytes (canonicalJsonBytes envelope)) = .ok decoded ∧
      decoded.Equals command := by
  obtain ⟨envelope, henvelope⟩ := exists_envelope
  obtain ⟨-, hread⟩ := createCommand_roundTrip.1 sampleGate gatedProposal
    (sampleContext 3 .assessing) command envelope planned henvelope
  obtain ⟨decoded, hdecoded, hequal, -⟩ := hread _ .bytes
  exact ⟨envelope, decoded, henvelope, hdecoded, hequal⟩

end StoredLink

end Retrywise.ControlPlane
