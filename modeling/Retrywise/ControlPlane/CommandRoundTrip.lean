import Retrywise.ControlPlane.CommandSize
import Retrywise.ControlPlane.EffectCommandDecoder
import Retrywise.Domain.Evaluation

/-!
# Stored commands are read back

The parts that the codecs of the two commands share: a proposal and an allowed plan are read back
from their documents, and an envelope with its checksum from whatever it is stored as.

> `exists_decodeActionProposal`: a proposal is read back, up to the digits of its confidence.
> `priorPlan_toPrimitive`: an allowed plan is read back.
> `Sealed.checkIntegrity_stored`: what an encoder sealed passes the check of the decoder.
-/

namespace Retrywise.Domain

open Retrywise.Foundation

/-- Versions and attempts are counted from one. -/
theorem ActionProposal.counted (p : ActionProposal) :
    1 ≤ p.decisionVersion ∧ 1 ≤ p.attemptOrdinal := by
  have h := p.valid
  simp only [ProposalFields.postInit, bind_ok_iff, raiseIf_ok_iff] at h
  obtain ⟨_, -, _, -, _, -, _, hversion, _, hordinal, -⟩ := h
  exact ⟨Nat.not_lt.mp hversion, Nat.not_lt.mp hordinal⟩

end Retrywise.Domain

namespace Retrywise.ControlPlane

open Retrywise.Foundation Retrywise.Domain

namespace EffectCommandCodec

/-! ## Parts that are read back -/

section

variable {path : String} {depth : Nat}

theorem exactObject_of_keys {members : List (String × Json)} {fields : List String}
    (h : members.map Prod.fst = fields) :
    exactObject (.obj members) fields path = .ok members := by
  have hmissing : fields.filter (fun name => name ∉ members.map Prod.fst) = [] := by
    rw [h]
    simp
  have hunknown : (members.map Prod.fst).filter (fun name => name ∉ fields) = [] := by
    rw [h]
    simp
  rw [exactObject, hmissing, hunknown, bind_of_ok (raiseIf_of_not _ (by simp))]
  rfl

/-- The fields are all that is looked at. -/
theorem exactObject_eq {members item : List (String × Json)} {fields : List String}
    (h : exactObject (.obj members) fields path = .ok item) : item = members := by
  obtain ⟨_, -, h⟩ := bind_ok_iff.mp h
  exact (pure_ok_iff.mp h).symm

theorem text_str (s path : String) : text (.str s) path = .ok s := rfl

theorem isText_str (s : String) : isText (.str s) s = true := decide_eq_true rfl

/-- A test that is asked for, and holds. -/
theorem passes_of_true {b : Bool} {e : ControlPlaneError} (h : b = true) :
    raiseIf (b = false) e = .ok () := by
  subst h
  rfl

theorem forall_mem_some {n least : Int} (h : least ≤ n) : ∀ bound ∈ some least, bound ≤ n := by
  intro bound hbound
  rw [← Option.some.inj hbound]
  exact h

theorem integer_ok {n : Int} {minimum : Option Int} (hfits : Fits depth (.int n))
    (hminimum : ∀ least ∈ minimum, least ≤ n) : integer (.int n) path minimum = .ok n := by
  have hrange : ¬(n < -9223372036854775808 ∨ 9223372036854775807 < n) := by
    have hbounds := hfits.2
    omega
  have hleast : ¬(minimum.any fun least => n < least) = true := by
    cases minimum with
    | none => simp
    | some least =>
      have hle := hminimum least rfl
      simpa using hle
  rw [integer, bind_of_ok (raiseIf_of_not _ hrange), bind_of_ok (raiseIf_of_not _ hleast)]
  rfl

theorem timestamp_canonicalTimestamp (t : Timestamp) :
    timestamp (.str (canonicalTimestamp t)) path = .ok t := by
  rw [timestamp, bind_of_ok (text_str _ _),
    parseCanonicalTimestamp_canonicalTimestamp]
  rfl

theorem digest_ok {value : String} (h : isDigest value = true) :
    digest (.str value) path = .ok value := by
  rw [digest, bind_of_ok (text_str _ _),
    bind_of_ok (raiseIf_of_not _ (not_not.mpr h))]
  rfl

theorem optionalText_ok (value : Option String) :
    optionalText (Domain.optionalText value) path = .ok value := by
  cases value with
  | none => rfl
  | some s => rfl

theorem money_toPrimitive {amount : Money} (h : Fits depth amount.toPrimitive) :
    money amount.toPrimitive path = .ok amount := by
  have hitem : exactObject amount.toPrimitive moneyFields path =
      .ok [("currency", .str amount.currency), ("minor_units", .int amount.minorUnits)] :=
    exactObject_of_keys rfl
  have hunits : integer (.int amount.minorUnits) s!"{path}.minor_units" (some 0) =
      .ok amount.minorUnits :=
    integer_ok h.2.2.2.1 (forall_mem_some (Int.natCast_nonneg _))
  rw [money, bind_of_ok hitem, mapError_ok_iff]
  refine bind_ok_iff.mpr ⟨amount.minorUnits, hunits, ?_⟩
  refine bind_ok_iff.mpr ⟨amount.currency, rfl, ?_⟩
  exact dif_pos amount.currencyOk

theorem optionalMoney_ok (amount : Option Money) :
    Fits depth (match amount with | none => .null | some amount => amount.toPrimitive) →
      optionalMoney (match amount with | none => .null | some amount => amount.toPrimitive) path =
        .ok amount := by
  intro h
  cases amount with
  | none => rfl
  | some amount => exact congrArg (Except.map some) (money_toPrimitive h)

theorem optionalInteger_ok (value : Option Int) :
    Fits depth (match value with | none => .null | some v => .int v) →
      optionalInteger (match value with | none => .null | some v => .int v) path = .ok value := by
  intro h
  cases value with
  | none => rfl
  | some v => exact congrArg (Except.map some) (integer_ok h (by simp))

/-- A confidence is read back as the number it is. -/
theorem probability_ok (path : String) (confidence : Option Probability) :
    ∃ read, probability (match confidence with | none => .null | some c => .str c.toPrimitive) path =
        .ok read ∧
      read.map (fun c => c.value.value) = confidence.map (fun c => c.value.value) ∧
      read.map Probability.toPrimitive = confidence.map Probability.toPrimitive := by
  cases confidence with
  | none => exact ⟨none, rfl, rfl, rfl⟩
  | some c =>
    obtain ⟨read, hread, hvalue, hnegative⟩ := exists_probabilityOf_toPrimitive c
    have hsame : read.toPrimitive = c.toPrimitive :=
      Probability.toPrimitive_eq_iff.mpr ⟨hvalue, hnegative⟩
    refine ⟨some read, ?_, congrArg some hvalue, congrArg some hsame⟩
    refine bind_ok_iff.mpr ⟨c.toPrimitive, rfl, ?_⟩
    refine bind_ok_iff.mpr ⟨read, raisedAs_ok_iff.mpr hread, ?_⟩
    exact bind_ok_iff.mpr ⟨(), raiseIf_of_not _ (not_not.mpr hsame), rfl⟩

end

end EffectCommandCodec

open EffectCommandCodec (exactObject field text boolean integer)

/-! ## The proposal -/

section

variable [Hashlib] {depth : Nat}

/-- Equal proposals have one action key. -/
theorem actionKey_of_equals {p q : ActionProposal} (h : p.Equals q) :
    p.actionKey = q.actionKey := by
  have hmaterial : p.keyMaterial = q.keyMaterial := (congrArg ProposalFields.keyMaterial h.1 :)
  rw [ProposalFields.actionKey, hmaterial]
  rfl

omit [Hashlib] in
theorem actionType_member (actionType : ActionType) :
    EffectCommandCodec.member EffectCommandCodec.actionTypes ActionType.value actionType.value =
      some actionType := by
  cases actionType with
  | wait => rfl
  | createStandardPaymentLink => rfl
  | notifyExistingLink => rfl
  | cancelPaymentLink => rfl
  | escalate => rfl
  | stop => rfl

/-- **A proposal is read back**, with a confidence of the same value and the same text. -/
theorem exists_decodeActionProposal (p : ActionProposal) (h : Fits depth p.toPrimitive) :
    ∃ q : ActionProposal, decodeActionProposal p.toPrimitive = .ok q ∧ q.Equals p ∧
      q.toPrimitive = p.toPrimitive := by
  obtain ⟨confidence, hconfidence, hvalue, htext⟩ := EffectCommandCodec.probability_ok
    "$.command.proposal.model_confidence" p.modelConfidence
  let q : ActionProposal := ⟨{ p.toProposalFields with modelConfidence := confidence }, p.valid⟩
  have hsame : q.toPrimitive = p.toPrimitive := by
    refine ActionProposal.toPrimitive_eq_iff.mpr ⟨rfl, ?_⟩
    show (match confidence with | none => Json.null | some c => .str c.toPrimitive) =
      match p.modelConfidence with | none => Json.null | some c => .str c.toPrimitive
    cases hp : p.modelConfidence with
    | none =>
      rw [hp] at htext
      rw [Option.map_eq_none_iff.mp htext]
    | some c =>
      rw [hp] at htext
      obtain ⟨read, hread, hcanonical⟩ := Option.map_eq_some_iff.mp htext
      rw [hread]
      exact congrArg Json.str hcanonical
  refine ⟨q, ?_, ⟨rfl, hvalue⟩, hsame⟩
  obtain ⟨hversion, hordinal⟩ := p.counted
  obtain ⟨hkey, htype, hamount, hattempt, hcase, hcreated, hdecision, hexpected, -⟩ := h.2.2
  refine bind_ok_iff.mpr ⟨_, EffectCommandCodec.exactObject_of_keys rfl, ?_⟩
  refine bind_ok_iff.mpr ⟨p.amount, EffectCommandCodec.optionalMoney_ok p.amount hamount, ?_⟩
  refine bind_ok_iff.mpr ⟨p.actionType.value, rfl, ?_⟩
  refine bind_ok_iff.mpr ⟨p.actionType, someOr_ok_iff.mpr (actionType_member _), ?_⟩
  refine bind_ok_iff.mpr ⟨p.proposalId, rfl, ?_⟩
  refine bind_ok_iff.mpr ⟨p.merchantId, rfl, ?_⟩
  refine bind_ok_iff.mpr ⟨p.caseId, rfl, ?_⟩
  refine bind_ok_iff.mpr ⟨p.decisionVersion, EffectCommandCodec.integer_ok hdecision
    (EffectCommandCodec.forall_mem_some (Int.ofNat_le.mpr hversion)), ?_⟩
  refine bind_ok_iff.mpr ⟨p.createdAt, EffectCommandCodec.timestamp_canonicalTimestamp _, ?_⟩
  refine bind_ok_iff.mpr ⟨p.expiresAt, EffectCommandCodec.timestamp_canonicalTimestamp _, ?_⟩
  refine bind_ok_iff.mpr ⟨p.attemptOrdinal, EffectCommandCodec.integer_ok hattempt
    (EffectCommandCodec.forall_mem_some (Int.ofNat_le.mpr hordinal)), ?_⟩
  refine bind_ok_iff.mpr ⟨p.paymentMethod, EffectCommandCodec.optionalText_ok _, ?_⟩
  refine bind_ok_iff.mpr ⟨p.expectedValueMinor, EffectCommandCodec.optionalInteger_ok _ hexpected,
    ?_⟩
  refine bind_ok_iff.mpr ⟨confidence, hconfidence, ?_⟩
  refine bind_ok_iff.mpr ⟨p.requiresApproval, rfl, ?_⟩
  refine bind_ok_iff.mpr ⟨p.instrumentReference, EffectCommandCodec.optionalText_ok _, ?_⟩
  refine bind_ok_iff.mpr ⟨q, raisedAs_ok_iff.mpr (construct_ok_iff.mpr ⟨q.valid, rfl⟩), ?_⟩
  refine bind_ok_iff.mpr ⟨(), EffectCommandCodec.passes_of_true ?_, rfl⟩
  rw [hsame]
  exact decide_eq_true rfl

end

namespace EffectCommandCodec

/-! ## The plan -/

/-- A plan that the gate allowed, as it is read back. -/
structure Planned (d : GateDecision) : Prop where
  reasons : d.reasons = []
  version : isIdentifier d.policyVersion = true
  proposal : isIdentifier d.proposalId = true
  case : isIdentifier d.caseId = true
  digest : isDigest d.proposalDigest = true
  counted : 1 ≤ d.decisionVersion

/-- What the gate allows is read back. -/
theorem planned_of_evaluatePolicy [Hashlib] {gate : DeterministicGate} {p : ActionProposal}
    {context : GateContext} {d : GateDecision} (h : gate.evaluatePolicy p context = .ok d)
    (hallowed : d.allowed = true) : Planned d := by
  obtain ⟨horizon, -, h⟩ := bind_ok_iff.mp h
  have hproposal := p.valid
  have hpolicy := gate.policy.valid
  obtain ⟨_, hid, hproposal⟩ := bind_ok_iff.mp hproposal
  obtain ⟨_, -, hproposal⟩ := bind_ok_iff.mp hproposal
  obtain ⟨_, hcase, -⟩ := bind_ok_iff.mp hproposal
  obtain ⟨_, hversion, -⟩ := bind_ok_iff.mp hpolicy
  obtain rfl := pure_ok_iff.mp h
  exact {
    reasons := List.isEmpty_iff.mp hallowed
    version := (requireIdentifier_ok_iff.mp hversion).1
    proposal := (requireIdentifier_ok_iff.mp hid).1
    case := (requireIdentifier_ok_iff.mp hcase).1
    digest := Hashlib.isDigest_sha256Hexdigest _
    counted := p.counted.1 }

theorem gateStage_member (stage : GateStage) :
    member gateStages GateStage.value stage.value = some stage := by
  cases stage with
  | policy => rfl
  | effect => rfl

/-- **An allowed plan is read back.** -/
theorem priorPlan_toPrimitive {depth : Nat} {d : GateDecision} (h : Planned d)
    (hfits : Fits depth d.toPrimitive) : priorPlan d.toPrimitive = .ok d := by
  obtain ⟨-, haggregate, -, -, hdecision, -⟩ := hfits.2.2
  have hreasons : reasonValues (d.reasons.map fun reason => .str reason.value) = .ok d.reasons := by
    rw [h.reasons]
    rfl
  have hunique : d.reasons.Nodup := h.reasons ▸ List.nodup_nil
  refine bind_ok_iff.mpr ⟨_, exactObject_of_keys rfl, ?_⟩
  refine bind_ok_iff.mpr ⟨d.reasons.map fun reason => .str reason.value, rfl, ?_⟩
  refine bind_ok_iff.mpr ⟨d.allowed, rfl, ?_⟩
  refine bind_ok_iff.mpr ⟨d.reasons, hreasons, ?_⟩
  refine bind_ok_iff.mpr ⟨(), raiseIf_of_not _ (not_not.mpr hunique), ?_⟩
  refine bind_ok_iff.mpr ⟨d.stage.value, rfl, ?_⟩
  refine bind_ok_iff.mpr ⟨d.stage, someOr_ok_iff.mpr (gateStage_member _), ?_⟩
  refine bind_ok_iff.mpr ⟨d.policyVersion, rfl, ?_⟩
  refine bind_ok_iff.mpr ⟨d.proposalId, rfl, ?_⟩
  refine bind_ok_iff.mpr ⟨d.actionKey, rfl, ?_⟩
  refine bind_ok_iff.mpr ⟨d.proposalDigest, digest_ok h.digest, ?_⟩
  refine bind_ok_iff.mpr ⟨d.caseId, rfl, ?_⟩
  refine bind_ok_iff.mpr ⟨d.decisionVersion, integer_ok hdecision
    (forall_mem_some (Int.ofNat_le.mpr h.counted)), ?_⟩
  refine bind_ok_iff.mpr ⟨d.aggregateVersion, integer_ok haggregate
    (forall_mem_some (Int.natCast_nonneg _)), ?_⟩
  refine bind_ok_iff.mpr ⟨d.evaluatedAt, timestamp_canonicalTimestamp _, ?_⟩
  have hidentifiers : (do
      let _ ← requireIdentifier d.policyVersion "policy_version"
      let _ ← requireIdentifier d.proposalId "proposal_id"
      let _ ← requireIdentifier d.caseId "case_id" : Except DomainError Unit) = .ok () := by
    refine bind_ok_iff.mpr ⟨_, requireIdentifier_ok_iff.mpr ⟨h.version, rfl⟩, ?_⟩
    refine bind_ok_iff.mpr ⟨_, requireIdentifier_ok_iff.mpr ⟨h.proposal, rfl⟩, ?_⟩
    exact bind_ok_iff.mpr ⟨_, requireIdentifier_ok_iff.mpr ⟨h.case, rfl⟩, rfl⟩
  refine bind_ok_iff.mpr ⟨(), raisedAs_ok_iff.mpr hidentifiers, ?_⟩
  have hsame : sameDocument d.toPrimitive d.toPrimitive = true := decide_eq_true rfl
  refine bind_ok_iff.mpr ⟨(), raiseIf_of_not _ ?_, rfl⟩
  rintro (hallowed | hother)
  · exact hallowed rfl
  · exact nomatch hsame.symm.trans hother

/-! ## Documents of the codec's own -/

/-- Keys in order, none of them twice and none sensitive. -/
def OwnKeys (fields : List String) : Prop :=
  fields.Pairwise (· < ·) ∧ ∀ key ∈ fields, sensitiveKey key = false

instance (fields : List String) : Decidable (OwnKeys fields) :=
  inferInstanceAs (Decidable (_ ∧ _))

/-- A document whose objects have such keys. -/
structure Plain (j : Json) : Prop where
  sorted : j.sorted = j
  distinct : j.Distinct
  clean : keysClean j = true

namespace Plain

theorem str (s : String) : Plain (.str s) := ⟨rfl, trivial, rfl⟩

theorem int (n : Int) : Plain (.int n) := ⟨rfl, trivial, rfl⟩

theorem bool (b : Bool) : Plain (.bool b) := ⟨rfl, trivial, rfl⟩

theorem null : Plain .null := ⟨rfl, trivial, rfl⟩

theorem obj {members : List (String × Json)} {fields : List String}
    (hfields : members.map Prod.fst = fields) (hkeys : OwnKeys fields)
    (hvalues : ∀ value ∈ members.map Prod.snd, Plain value) : Plain (.obj members) where
  sorted := by
    have horder : members.Pairwise Json.KeyLe := by
      have hpairs := hkeys.1
      rw [← hfields, List.pairwise_map] at hpairs
      exact hpairs.imp fun h => (String.le_total _ _).resolve_right (String.not_le.mpr h)
    rw [Json.sorted, Json.sortedMembers_of_pairwise horder fun m hm =>
      (hvalues _ (List.mem_map_of_mem hm)).sorted]
  distinct := by
    refine ⟨hfields ▸ hkeys.1.imp fun h => String.ne_of_lt h,
      Json.distinctMembers_iff.mpr fun m hm => ?_⟩
    exact (hvalues _ (List.mem_map_of_mem hm)).distinct
  clean := membersClean_iff.mpr fun m hm =>
    ⟨hkeys.2 _ (hfields ▸ List.mem_map_of_mem hm), (hvalues _ (List.mem_map_of_mem hm)).clean⟩

end Plain

/-- **The keys of the codec's documents** are in order, distinct and not sensitive. -/
theorem ownKeys_documents {fields : List String} (h : fields ∈
    [moneyFields, proposalFields, planFields, integrityFields, envelopeFields]) :
    OwnKeys fields := by
  have hall : ∀ fields ∈ [moneyFields, proposalFields, planFields, integrityFields,
      envelopeFields], OwnKeys fields := by decide +kernel
  exact hall fields h

theorem OwnKeys.filter {fields : List String} (h : OwnKeys fields) (keep : String → Bool) :
    OwnKeys (fields.filter keep) :=
  ⟨h.1.filter keep, fun key hkey => h.2 key (List.mem_of_mem_filter hkey)⟩

theorem plain_optionalText (value : Option String) : Plain (Domain.optionalText value) := by
  cases value with
  | none => exact Plain.null
  | some s => exact Plain.str s

theorem plain_money (amount : Money) : Plain amount.toPrimitive := by
  refine Plain.obj rfl (ownKeys_documents (by simp) : OwnKeys moneyFields) ?_
  simp only [List.map_cons, List.map_nil, List.forall_mem_cons]
  exact ⟨Plain.str _, Plain.int _, nofun⟩

theorem plain_proposal [Hashlib] (p : ActionProposal) : Plain p.toPrimitive := by
  refine Plain.obj rfl (ownKeys_documents (by simp) : OwnKeys proposalFields) ?_
  simp only [List.map_cons, List.map_nil, List.forall_mem_cons]
  refine ⟨Plain.str _, Plain.str _, ?_, Plain.int _, Plain.str _, Plain.str _, Plain.int _, ?_,
    Plain.str _, plain_optionalText _, Plain.str _, ?_, plain_optionalText _, Plain.str _,
    Plain.bool _, nofun⟩
  · cases p.amount with
    | none => exact Plain.null
    | some amount => exact plain_money amount
  · cases p.expectedValueMinor with
    | none => exact Plain.null
    | some value => exact Plain.int value
  · cases p.modelConfidence with
    | none => exact Plain.null
    | some confidence => exact Plain.str _

theorem plain_plan {d : GateDecision} (h : d.reasons = []) : Plain d.toPrimitive := by
  refine Plain.obj rfl (ownKeys_documents (by simp) : OwnKeys planFields) ?_
  simp only [List.map_cons, List.map_nil, List.forall_mem_cons, h]
  exact ⟨Plain.str _, Plain.int _, Plain.bool _, Plain.str _, Plain.int _, Plain.str _,
    Plain.str _, Plain.str _, Plain.str _, ⟨rfl, trivial, rfl⟩, Plain.str _, nofun⟩

/-! ## The envelope -/

section

variable {format : CommandFormat} {bindings : List (String × Json)} {command : Json}
  {sum : String}

/-- An envelope without its checksum. -/
def unsignedMembers (format : CommandFormat) (bindings : List (String × Json)) (command : Json) :
    List (String × Json) := [
  ("bindings", .obj bindings),
  ("command", command),
  ("command_type", .str format.commandType),
  ("schema", .str format.schema),
  ("version", .int 1)]

def checksum (sum : String) : Json := .obj [("algorithm", .str "sha256"), ("digest", .str sum)]

/-- An envelope as it is stored, its members in order. -/
def storedMembers (format : CommandFormat) (bindings : List (String × Json)) (command : Json)
    (sum : String) : List (String × Json) := [
  ("bindings", .obj bindings),
  ("command", command),
  ("command_type", .str format.commandType),
  ("integrity", checksum sum),
  ("schema", .str format.schema),
  ("version", .int 1)]

theorem plain_checksum (sum : String) : Plain (checksum sum) := by
  refine Plain.obj rfl (ownKeys_documents (by simp) : OwnKeys integrityFields) ?_
  simp only [List.map_cons, List.map_nil, List.forall_mem_cons]
  exact ⟨Plain.str _, Plain.str _, nofun⟩

theorem plain_stored (hbindings : Plain (.obj bindings)) (hcommand : Plain command) :
    Plain (.obj (storedMembers format bindings command sum)) := by
  refine Plain.obj rfl (ownKeys_documents (by simp) : OwnKeys envelopeFields) ?_
  simp only [storedMembers, List.map_cons, List.map_nil, List.forall_mem_cons]
  exact ⟨hbindings, hcommand, Plain.str _, plain_checksum _, Plain.str _, Plain.int _, nofun⟩

theorem plain_unsigned (hbindings : Plain (.obj bindings)) (hcommand : Plain command) :
    Plain (.obj (unsignedMembers format bindings command)) := by
  have hkeys : OwnKeys envelopeFields := ownKeys_documents (by simp)
  refine Plain.obj rfl (hkeys.filter fun name => name ≠ "integrity") ?_
  simp only [unsignedMembers, List.map_cons, List.map_nil, List.forall_mem_cons]
  exact ⟨hbindings, hcommand, Plain.str _, Plain.str _, Plain.int _, nofun⟩

/-- An envelope as it is made, its checksum at the end. -/
def sealedMembers (format : CommandFormat) (bindings : List (String × Json)) (command : Json)
    (sum : String) : List (String × Json) :=
  unsignedMembers format bindings command ++ [("integrity", checksum sum)]

/-- The checksum at the end goes between the others. -/
theorem sealed_perm : (sealedMembers format bindings command sum).Perm
    (storedMembers format bindings command sum) := by
  have hswap : ([("schema", Json.str format.schema), ("version", .int 1)] ++
      [("integrity", checksum sum)]).Perm ([("integrity", checksum sum)] ++
        [("schema", .str format.schema), ("version", .int 1)]) := List.perm_append_comm
  exact hswap.append_left [("bindings", .obj bindings), ("command", command),
    ("command_type", .str format.commandType)]

theorem sorted_sealed (hbindings : Plain (.obj bindings)) (hcommand : Plain command) :
    (Json.obj (sealedMembers format bindings command sum)).sorted =
      .obj (storedMembers format bindings command sum) := by
  have hplain : Plain (.obj (storedMembers format bindings command sum)) :=
    plain_stored hbindings hcommand
  have hstored := hplain.sorted
  rw [Json.sorted] at hstored ⊢
  rw [Json.sortedMembers_eq_of_perm sealed_perm hplain.distinct.1, hstored]

theorem distinct_sealed (hbindings : Plain (.obj bindings)) (hcommand : Plain command) :
    (Json.obj (sealedMembers format bindings command sum)).Distinct := by
  have hplain : Plain (.obj (storedMembers format bindings command sum)) :=
    plain_stored hbindings hcommand
  have hperm : (sealedMembers format bindings command sum).Perm
    (storedMembers format bindings command sum) := sealed_perm
  refine ⟨(hperm.map Prod.fst).nodup_iff.mpr hplain.distinct.1, ?_⟩
  exact Json.distinctMembers_iff.mpr fun m hm =>
    Json.distinctMembers_iff.mp hplain.distinct.2 m (hperm.mem_iff.mp hm)

/-- What passes the bounds of the encoder may be stored. -/
theorem storable_of_bounded {j : Json} {bytes : ByteArray} (hdistinct : j.Distinct)
    (hclean : keysClean j = true) (h : boundedCanonicalBytes j = .ok bytes) :
    Storable j ∧ bytes = canonicalJsonBytes j := by
  unfold boundedCanonicalBytes at h
  obtain ⟨size, hwalk, h⟩ := bind_ok_iff.mp h
  obtain ⟨_, hshort, h⟩ := bind_ok_iff.mp h
  exact ⟨⟨hdistinct, hclean, ((walkJson_ok_iff j).mp hwalk).1,
    Nat.not_lt.mp (raiseIf_ok_iff.mp hshort)⟩, (pure_ok_iff.mp h).symm⟩

/-- The payloads that an envelope is stored as: its mapping, with the members of its objects in
any order, and its canonical text. -/
inductive Stores (envelope : Json) : CommandPayload → Prop
  | mapping {members : List (String × Json)} (distinct : (Json.obj members).Distinct)
      (same : (Json.obj members).sorted = envelope.sorted) :
      Stores envelope
        (.mapping ((Json.membersToPy members).map fun member => (some member.1, member.2)))
  | text : Stores envelope (.text (canonicalJson envelope))
  | bytes : Stores envelope (.bytes (canonicalJsonBytes envelope))

/-- What an envelope is stored as is taken in as its members in order. -/
theorem Stores.coerce {members stored : List (String × Json)} {payload : CommandPayload}
    (h : Stores (.obj members) payload) (hstorable : Storable (.obj members))
    (hsorted : (Json.obj members).sorted = .obj stored) : coercePayload payload = .ok stored := by
  have hmembers : Json.sortedMembers members = stored := Json.obj.inj hsorted
  cases h with
  | mapping distinct same =>
    have hother : Storable (.obj _) := Storable.of_sorted (same ▸ hstorable.sorted) distinct
    rw [← hmembers, ← Json.obj.inj same]
    exact hother.coerceMapping
  | text =>
    rw [← hmembers]
    exact hstorable.coerceRaw
  | bytes =>
    rw [← hmembers]
    exact hstorable.coerceRaw

variable [Hashlib]

/-- What an encoder makes of the parts of a command: an envelope within the bounds, under the
checksum of its other members. -/
structure Sealed (format : CommandFormat) (bindings : List (String × Json)) (command : Json)
    (sum : String) : Prop where
  plainBindings : Plain (.obj bindings)
  plainCommand : Plain command
  summed : ∃ bytes, boundedCanonicalBytes (.obj (unsignedMembers format bindings command)) =
    .ok bytes ∧ sum = Hashlib.sha256Hexdigest bytes
  bounded : ∃ bytes, boundedCanonicalBytes
    (.obj (sealedMembers format bindings command sum)) = .ok bytes

namespace Sealed

theorem sorted (h : Sealed format bindings command sum) :
    (Json.obj (sealedMembers format bindings command sum)).sorted =
      .obj (storedMembers format bindings command sum) :=
  sorted_sealed h.plainBindings h.plainCommand

theorem storable (h : Sealed format bindings command sum) :
    Storable (.obj (sealedMembers format bindings command sum)) := by
  obtain ⟨bytes, hbytes⟩ := h.bounded
  have hplain : Plain (.obj (storedMembers format bindings command sum)) :=
    plain_stored h.plainBindings h.plainCommand
  refine (storable_of_bounded (distinct_sealed h.plainBindings h.plainCommand) ?_ hbytes).1
  refine keysClean_of_sorted _ ?_
  rw [h.sorted]
  exact hplain.clean

theorem storable_stored (h : Sealed format bindings command sum) :
    Storable (.obj (storedMembers format bindings command sum)) :=
  h.sorted ▸ h.storable.sorted

theorem storable_unsigned (h : Sealed format bindings command sum) :
    Storable (.obj (unsignedMembers format bindings command)) ∧
      sum = Hashlib.sha256Hexdigest
        (canonicalJsonBytes (.obj (unsignedMembers format bindings command))) := by
  obtain ⟨bytes, hbytes, hsum⟩ := h.summed
  have hplain : Plain (.obj (unsignedMembers format bindings command)) :=
    plain_unsigned h.plainBindings h.plainCommand
  obtain ⟨hstorable, rfl⟩ := storable_of_bounded hplain.distinct hplain.clean hbytes
  exact ⟨hstorable, hsum⟩

/-- The command is a level below the envelope. -/
theorem fits_command (h : Sealed format bindings command sum) : Fits 1 command :=
  h.storable_unsigned.1.fits.2.2.2.1

/-- The envelope is under its checksum. -/
theorem checkIntegrity_stored (h : Sealed format bindings command sum) :
    checkIntegrity format (storedMembers format bindings command sum) = .ok () := by
  obtain ⟨hstorable, hsum⟩ := h.storable_unsigned
  have hdigest : isDigest sum = true := hsum ▸ Hashlib.isDigest_sha256Hexdigest _
  have hunsigned : (storedMembers format bindings command sum).filter
      (fun m => m.1 ≠ "integrity") = unsignedMembers format bindings command := rfl
  have hexpected : integrityDigest (unsignedMembers format bindings command) = .ok sum := by
    rw [integrityDigest, bind_of_ok hstorable.boundedBytes_toPy, hsum]
    rfl
  refine bind_ok_iff.mpr ⟨_, exactObject_of_keys rfl, ?_⟩
  refine bind_ok_iff.mpr ⟨(), passes_of_true (isText_str "sha256"), ?_⟩
  refine bind_ok_iff.mpr ⟨sum, digest_ok hdigest, ?_⟩
  rw [hunsigned]
  refine bind_ok_iff.mpr ⟨sum, hexpected, ?_⟩
  exact raiseIf_of_not _ (not_not.mpr rfl)

end Sealed

/-- Room for the checksum. -/
theorem exists_sum (hwithin : within 0 (.obj (unsignedMembers format bindings command)) = true)
    (hplain : (Json.obj (unsignedMembers format bindings command)).allPlain = true)
    (hsize : (Json.obj (unsignedMembers format bindings command)).textSize + 128 ≤
      maxEffectCommandBytes) :
    ∃ sum, (∃ bytes, boundedCanonicalBytes (.obj (unsignedMembers format bindings command)) =
        .ok bytes ∧ sum = Hashlib.sha256Hexdigest bytes) ∧
      ∃ bytes, boundedCanonicalBytes (.obj (sealedMembers format bindings command sum)) =
        .ok bytes := by
  have hbytes := boundedCanonicalBytes_of_within hwithin hplain (by omega)
  refine ⟨_, ⟨_, hbytes, rfl⟩, _, boundedCanonicalBytes_of_within ?_ ?_ ?_⟩
  · rw [within, Bool.and_eq_true] at hwithin ⊢
    rw [sealedMembers, membersWithin_append, hwithin.2]
    exact ⟨hwithin.1, rfl⟩
  · have hkeys : ∀ s, Json.membersPlain [("integrity", checksum s)] = isPlain s := by
      intro s
      have hnames : isPlain "integrity" = true ∧ isPlain "algorithm" = true ∧
        isPlain "sha256" = true ∧ isPlain "digest" = true := by decide
      simp only [checksum, Json.membersPlain, Json.allPlain, hnames.1, hnames.2.1, hnames.2.2.1,
        hnames.2.2.2, Bool.true_and, Bool.and_true]
    rw [Json.allPlain] at hplain ⊢
    rw [sealedMembers, membersPlain_append, hplain, hkeys, isPlain_sha256Hexdigest]
    rfl
  · have happend := membersSize_append (unsignedMembers format bindings command)
      [("integrity", checksum (Hashlib.sha256Hexdigest
        (canonicalJsonBytes (.obj (unsignedMembers format bindings command)))))]
    have hchecksum : ∀ s, s.toList.length = 64 →
        Json.membersSize [("integrity", checksum s)] ≤ 128 := by
      intro s hs
      simp only [checksum, Json.membersSize, Json.textSize, hs]
      decide
    have hlast := hchecksum _ (length_sha256Hexdigest
      (canonicalJsonBytes (.obj (unsignedMembers format bindings command))))
    rw [Json.textSize] at hsize ⊢
    rw [sealedMembers]
    omega

omit [Hashlib] in
theorem checkSchema_stored :
    checkSchema format (storedMembers format bindings command sum) format.commandType 1 =
      .ok () := by
  refine bind_ok_iff.mpr ⟨(), raiseIf_of_not _ (not_not.mpr rfl), ?_⟩
  refine bind_ok_iff.mpr ⟨(), raiseIf_of_not _ (not_not.mpr rfl), ?_⟩
  refine bind_ok_iff.mpr ⟨(), passes_of_true (isText_str format.schema), ?_⟩
  refine bind_ok_iff.mpr ⟨(), passes_of_true rfl, ?_⟩
  exact passes_of_true (isText_str format.commandType)

/-! ## The bindings -/

/-- An identifier or a digest has ASCII characters only. -/
def Ascii (s : String) : Prop := ∀ c ∈ s.toList, c.toNat ≤ 127

omit [Hashlib] in
theorem ascii_of_isDigest {s : String} (h : isDigest s = true) : Ascii s := by
  intro c hc
  have hid : isIdChar c = true := by
    rw [isIdChar, isAlphanum_of_isDigest h c hc]
    rfl
  have hrange := isIdChar_toNat hid
  omega

theorem ascii_actionKey (p : ProposalFields) : Ascii p.actionKey := by
  intro c hc
  rw [ProposalFields.actionKey, String.toList_append, List.mem_append] at hc
  rcases hc with hlead | hdigest
  · have hgraphic : ∀ d ∈ "act_".toList, 33 ≤ d.toNat ∧ d.toNat < 127 := graphic_of_all (by decide)
    have hrange := hgraphic c hlead
    omega
  · exact ascii_of_isDigest (Hashlib.isDigest_sha256Hexdigest _) c hdigest

omit [Hashlib] in
theorem checkDigests_ok {supplied : List (String × Json)} : ∀ {names : List String},
    (∀ name ∈ names, ∃ value, field supplied name = .str value ∧ isDigest value = true) →
      checkDigests supplied names = .ok ()
  | [], _ => rfl
  | name :: names, h => by
    obtain ⟨⟨value, hfield, hdigest⟩, hrest⟩ := List.forall_mem_cons.mp h
    rw [checkDigests, hfield, bind_of_ok (digest_ok hdigest)]
    exact checkDigests_ok hrest

omit [Hashlib] in
theorem checkBindings_ok {supplied : List (String × Json)} :
    ∀ {expected : List (String × String)},
      (∀ b ∈ expected, field supplied b.1 = .str b.2 ∧ Ascii b.2) →
        checkBindings format supplied expected = .ok ()
  | [], _ => rfl
  | (name, value) :: expected, h => by
    obtain ⟨⟨hfield, hascii⟩, hrest⟩ := List.forall_mem_cons.mp h
    have hplain : ¬(value.toList.any (fun c => 127 < c.toNat) = true ∨
        value.toList.any (fun c => 127 < c.toNat) = true) := by
      rw [or_self, List.any_eq_true]
      rintro ⟨c, hc, hhigh⟩
      have := hascii c hc
      simp only [decide_eq_true_eq] at hhigh
      omega
    rw [checkBindings, hfield]
    dsimp only
    refine bind_ok_iff.mpr ⟨true, ?_, ?_⟩
    · exact bind_ok_iff.mpr ⟨(), raiseIf_of_not _ hplain, congrArg Except.ok (decide_eq_true rfl)⟩
    · exact bind_ok_iff.mpr ⟨(), raiseIf_of_not _ (by decide), checkBindings_ok hrest⟩

end

end EffectCommandCodec

end Retrywise.ControlPlane
