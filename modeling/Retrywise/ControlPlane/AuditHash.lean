import Retrywise.ControlPlane.AuditProfile

/-!
# The hash of an audit entry

`audit_entry_hash_v1`: the fields of an entry are checked against the profile, written down
as one canonical document, and hashed with the hash of the entry before it, or with the
genesis value where there is none.

> `auditEntryHashV1_ok_iff`: a hash is returned for the entries of the profile, and it is the
> digest of their material.
>
> `material_inj`: the hashed bytes determine the document and the hash they go on from.
-/

namespace Retrywise.ControlPlane.Audit

open Retrywise.Foundation Retrywise.Domain

/-- The arguments of `audit_entry_hash_v1`. -/
structure AuditEntryFields where
  auditEntryId : String
  merchantId : String
  recoveryCaseId : String
  sequenceNumber : Int
  entryType : String
  actorType : AuditActorType
  actorSubject : Option String
  facts : Json
  previousEntryHash : Option String
  createdAt : Timestamp

namespace AuditEntryFields

/-- `_hash_document`. -/
def hashDocument (e : AuditEntryFields) (payload : Json) : Json :=
  .obj [
    ("actor_subject", optionalText e.actorSubject),
    ("actor_type", .str e.actorType.value),
    ("audit_entry_id", .str e.auditEntryId),
    ("created_at", .str (canonicalTimestamp e.createdAt)),
    ("entry_type", .str e.entryType),
    ("hash_schema_version", .int hashSchemaVersion),
    ("merchant_id", .str e.merchantId),
    ("payload", payload),
    ("recovery_case_id", .str e.recoveryCaseId),
    ("sequence_number", .int e.sequenceNumber)]

/-- What is hashed of an entry. -/
def material (e : AuditEntryFields) (payload : Json) : ByteArray :=
  canonicalJsonBytes (e.hashDocument payload) ++ (e.previousEntryHash.getD genesisHash).toUTF8

variable [Hashlib]

def auditEntryHashV1 (e : AuditEntryFields) : Except AuditError String := do
  requireUlid e.auditEntryId
  requireUlid e.merchantId
  requireUlid e.recoveryCaseId
  raiseIf (e.sequenceNumber ≤ 0) .input
  requireEntryType e.entryType
  requireActorSubject e.actorSubject e.actorType
  let payload ← payloadEnvelope e.facts
  requirePreviousHash e.previousEntryHash
  return Hashlib.sha256Hexdigest (e.material payload)

/-- The digest of an entry of the profile. -/
def digest (e : AuditEntryFields) : String :=
  Hashlib.sha256Hexdigest (e.material (envelopeOf e.facts.sorted))

omit [Hashlib] in
/-- The entries of the profile. -/
structure InProfile (e : AuditEntryFields) : Prop where
  auditEntryId : isUlid e.auditEntryId = true
  merchantId : isUlid e.merchantId = true
  recoveryCaseId : isUlid e.recoveryCaseId = true
  sequenceNumber : 0 < e.sequenceNumber
  entryType : isEntryType e.entryType = true
  actorSubject : ∀ subject, e.actorSubject = some subject →
    isOpaqueSubject e.actorType subject = true
  facts : isFacts e.facts = true
  previousEntryHash : ∀ hash, e.previousEntryHash = some hash → isDigest hash = true

end AuditEntryFields

/-! ## The checks, one by one -/

@[simp] theorem requireUlid_ok_iff {value : String} {u : Unit} :
    requireUlid value = .ok u ↔ isUlid value = true := by
  rw [requireUlid, raiseIf_ok_iff, not_not]

@[simp] theorem requireEntryType_ok_iff {value : String} {u : Unit} :
    requireEntryType value = .ok u ↔ isEntryType value = true := by
  rw [requireEntryType, raiseIf_ok_iff, not_not]

@[simp] theorem requireActorSubject_ok_iff {value : Option String} {actorType : AuditActorType}
    {u : Unit} : requireActorSubject value actorType = .ok u ↔
      ∀ subject, value = some subject → isOpaqueSubject actorType subject = true := by
  cases value with
  | none => simp [requireActorSubject]
  | some subject => simp [requireActorSubject]

@[simp] theorem requirePreviousHash_ok_iff {value : Option String} {u : Unit} :
    requirePreviousHash value = .ok u ↔ ∀ hash, value = some hash → isDigest hash = true := by
  cases value with
  | none => simp [requirePreviousHash]
  | some hash => simp [requirePreviousHash]

theorem requireActorType_value (actorType : AuditActorType) :
    requireActorType actorType.value = .ok actorType := by
  cases actorType with
  | system => rfl
  | worker => rfl
  | operator => rfl
  | model => rfl
  | provider => rfl

/-- A text is the name of one kind of actor. -/
@[simp] theorem requireActorType_ok_iff {value : String} {actorType : AuditActorType} :
    requireActorType value = .ok actorType ↔ value = actorType.value := by
  constructor
  · intro h
    unfold requireActorType at h
    split_ifs at h with h₁ h₂ h₃ h₄ h₅
    · obtain rfl := Except.ok.inj h
      exact h₁
    · obtain rfl := Except.ok.inj h
      exact h₂
    · obtain rfl := Except.ok.inj h
      exact h₃
    · obtain rfl := Except.ok.inj h
      exact h₄
    · obtain rfl := Except.ok.inj h
      exact h₅
  · rintro rfl
    exact requireActorType_value actorType

@[simp] theorem payloadEnvelope_ok_iff {facts payload : Json} :
    payloadEnvelope facts = .ok payload ↔
      isFacts facts = true ∧ envelopeOf facts.sorted = payload := by
  simp only [payloadEnvelope, bind_ok_iff, normalizeFacts_ok_iff, pure_ok_iff]
  constructor
  · rintro ⟨_, ⟨hfacts, rfl⟩, hpayload⟩
    exact ⟨hfacts, hpayload⟩
  · intro h
    obtain ⟨hfacts, hpayload⟩ := h
    exact ⟨_, ⟨hfacts, rfl⟩, hpayload⟩

theorem isDigest_genesisHash : isDigest genesisHash = true := by decide +kernel

namespace AuditEntryFields

variable {e f : AuditEntryFields}

/-! ## What is hashed -/

/-- **A hash is returned for the entries of the profile, and it is the digest of their
material.** -/
theorem auditEntryHashV1_ok_iff [Hashlib] {hash : String} :
    e.auditEntryHashV1 = .ok hash ↔ e.InProfile ∧ e.digest = hash := by
  simp only [auditEntryHashV1, bind_ok_iff, requireUlid_ok_iff, raiseIf_ok_iff, not_le,
    requireEntryType_ok_iff, requireActorSubject_ok_iff, payloadEnvelope_ok_iff,
    requirePreviousHash_ok_iff, pure_ok_iff]
  constructor
  · intro h
    obtain ⟨-, hid, -, hmerchant, -, hcase, -, hseq, -, htype, -, hsubject, payload,
      ⟨hfacts, rfl⟩, -, hprevious, hhash⟩ := h
    exact ⟨⟨hid, hmerchant, hcase, hseq, htype, hsubject, hfacts, hprevious⟩, hhash⟩
  · intro h
    obtain ⟨⟨hid, hmerchant, hcase, hseq, htype, hsubject, hfacts, hprevious⟩, hhash⟩ := h
    exact ⟨(), hid, (), hmerchant, (), hcase, (), hseq, (), htype, (), hsubject, _,
      ⟨hfacts, rfl⟩, (), hprevious, hhash⟩

theorem isDigest_digest [Hashlib] : isDigest e.digest = true :=
  Hashlib.isDigest_sha256Hexdigest _

/-! ## The material is uniquely decodable -/

/-- What an entry goes on from is 64 characters of text. -/
theorem length_previous (h : e.InProfile) :
    (e.previousEntryHash.getD genesisHash).toList.length = 64 := by
  have hdigest : isDigest (e.previousEntryHash.getD genesisHash) = true := by
    cases hprevious : e.previousEntryHash with
    | none => exact isDigest_genesisHash
    | some hash => exact h.previousEntryHash hash hprevious
  rw [isDigest, Bool.and_eq_true, decide_eq_true_eq] at hdigest
  exact hdigest.1

/-- **The hashed bytes determine the document and the hash they go on from.** -/
theorem material_inj {p q : Json} (he : e.InProfile) (hf : f.InProfile)
    (h : e.material p = f.material q) :
    (e.hashDocument p).sorted = (f.hashDocument q).sorted ∧
      e.previousEntryHash.getD genesisHash = f.previousEntryHash.getD genesisHash := by
  have htext : canonicalJson (e.hashDocument p) ++ e.previousEntryHash.getD genesisHash =
      canonicalJson (f.hashDocument q) ++ f.previousEntryHash.getD genesisHash := by
    apply String.toByteArray_inj.mp
    rw [String.toByteArray_append, String.toByteArray_append]
    exact h
  have hchars := congrArg String.toList htext
  rw [String.toList_append, String.toList_append] at hchars
  -- the hash is the last 64 characters, whatever the document is
  obtain ⟨hdocument, hprevious⟩ := List.append_inj' hchars
    ((length_previous he).trans (length_previous hf).symm)
  exact ⟨canonicalText_inj (String.toList_inj.mp hdocument), String.toList_inj.mp hprevious⟩

/-- The document has each of its members once. -/
theorem nodup_keys_hashDocument (payload : Json) : (e.hashDocument payload).keys.Nodup := by
  simp [hashDocument, Json.keys]

/-- What two equal documents have under a key, in whatever order they were written. -/
theorem member_eq {p q : Json} (h : (e.hashDocument p).sorted = (f.hashDocument q).sorted)
    (key : String) : ((e.hashDocument p).get? key).map Json.sorted =
      ((f.hashDocument q).get? key).map Json.sorted := by
  rw [← Json.get?_sorted (nodup_keys_hashDocument p), h,
    Json.get?_sorted (nodup_keys_hashDocument q)]

theorem actorType_value_injective : Function.Injective AuditActorType.value := by
  intro a b h
  have ha := requireActorType_value a
  rw [h, requireActorType_value b] at ha
  exact (Except.ok.inj ha).symm

/-- **Equal documents are documents of one entry**, up to the order of the members of the
payload. -/
theorem hashDocument_inj {p q : Json}
    (h : (e.hashDocument p).sorted = (f.hashDocument q).sorted) :
    e.auditEntryId = f.auditEntryId ∧ e.merchantId = f.merchantId ∧
      e.recoveryCaseId = f.recoveryCaseId ∧ e.sequenceNumber = f.sequenceNumber ∧
      e.entryType = f.entryType ∧ e.actorType = f.actorType ∧
      e.actorSubject = f.actorSubject ∧ p.sorted = q.sorted ∧ e.createdAt = f.createdAt := by
  have hmember := member_eq h
  refine ⟨?_, ?_, ?_, ?_, ?_, ?_, ?_, ?_, ?_⟩
  · exact Json.str.inj (Option.some.inj (hmember "audit_entry_id"))
  · exact Json.str.inj (Option.some.inj (hmember "merchant_id"))
  · exact Json.str.inj (Option.some.inj (hmember "recovery_case_id"))
  · exact Json.int.inj (Option.some.inj (hmember "sequence_number"))
  · exact Json.str.inj (Option.some.inj (hmember "entry_type"))
  · exact actorType_value_injective (Json.str.inj (Option.some.inj (hmember "actor_type")))
  · have hsubject : (optionalText e.actorSubject).sorted = (optionalText f.actorSubject).sorted :=
      Option.some.inj (hmember "actor_subject")
    cases he : e.actorSubject with
    | none =>
      cases hf : f.actorSubject with
      | none => rfl
      | some _ => simp [he, hf, optionalText, Json.sorted] at hsubject
    | some _ =>
      cases hf : f.actorSubject with
      | none => simp [he, hf, optionalText, Json.sorted] at hsubject
      | some _ =>
        rw [he, hf] at hsubject
        exact congrArg some (Json.str.inj hsubject)
  · exact Option.some.inj (hmember "payload")
  · exact canonicalTimestamp_injective (Json.str.inj (Option.some.inj (hmember "created_at")))

end AuditEntryFields

end Retrywise.ControlPlane.Audit
