import Retrywise.Domain.Errors
import Retrywise.Foundation.JsonOrder
import Retrywise.Foundation.CalendarText
import Retrywise.Foundation.Datetime
import Retrywise.Foundation.Sha256

/-!
# Canonical evidence

`canonical.py`: timestamps are normalized to UTC before anything is compared or
hashed, and everything that is hashed is hashed as canonical JSON text.

`Hashlib` stands for the one library function the digests rest on. Nothing is
assumed of it beyond its documented output, 64 lowercase hexadecimal digits;
where an argument needs two digests to differ it says so about the documents it
hashed. `hashlib` is SHA-256 itself, for concrete cases.
-/

namespace Retrywise.Domain

open Retrywise.Foundation

/-- Normalize an aware timestamp to UTC; refuse a naive one. -/
def requireUtc (value : Datetime) (field : String) : Except DomainError Timestamp :=
  match value with
  | .naive _ => .error (.invalidValue s!"{field} must be timezone-aware")
  | .aware wall utcoffset =>
    -- `astimezone` subtracts the offset, which can leave the calendar
    match wall.add? (-utcoffset) with
    | none => .error .overflow
    | some utc => .ok utc

/-- A normalized timestamp normalizes to itself. -/
@[simp] theorem requireUtc_toDatetime (t : Timestamp) (field : String) :
    requireUtc t.toDatetime field = .ok t := by
  simp [requireUtc, Timestamp.toDatetime]

/-- Datetime addition: leaving the calendar raises. -/
def shift (t : Timestamp) (d : Timedelta) : Except DomainError Timestamp :=
  match t.add? d with
  | none => .error .overflow
  | some u => .ok u

@[simp] theorem shift_ok_iff {t u : Timestamp} {d : Timedelta} :
    shift t d = .ok u ↔ u.micros = t.micros + d := by
  rw [← Timestamp.add?_eq_some, shift]
  split
  next h => simp [h]
  next v h => simp [h]

/-- `%Y-%m-%dT%H:%M:%S.%fZ`. -/
def canonicalTimestamp (t : Timestamp) : String :=
  let (year, month, day) := t.civilDate
  let (hour, minute, second, micros) := t.clockTime
  zeroFilled 4 year ++ "-" ++ zeroFilled 2 month ++ "-" ++ zeroFilled 2 day ++ "T" ++
    zeroFilled 2 hour ++ ":" ++ zeroFilled 2 minute ++ ":" ++ zeroFilled 2 second ++ "." ++
    zeroFilled 6 micros ++ "Z"

/-- **A canonical timestamp is the text of one instant.** -/
theorem canonicalTimestamp_injective : Function.Injective canonicalTimestamp := by
  intro s t h
  obtain ⟨hyear, hmonth, hday⟩ := s.civilDate_lt
  obtain ⟨hyear', hmonth', hday'⟩ := t.civilDate_lt
  obtain ⟨hhour, hminute, hsecond, hmicro⟩ := s.clockTime_lt
  obtain ⟨hhour', hminute', hsecond', hmicro'⟩ := t.clockTime_lt
  have hchars := congrArg String.toList h
  simp only [canonicalTimestamp, String.toList_append, List.append_assoc] at hchars
  -- every number has its width, so the text can be read field by field
  obtain ⟨heqYear, hrest⟩ := append_zeroFilled_inj (by omega) hyear hyear' hchars
  obtain ⟨heqMonth, hrest⟩ :=
    append_zeroFilled_inj (by omega) hmonth hmonth' (List.append_cancel_left hrest)
  obtain ⟨heqDay, hrest⟩ :=
    append_zeroFilled_inj (by omega) hday hday' (List.append_cancel_left hrest)
  obtain ⟨heqHour, hrest⟩ :=
    append_zeroFilled_inj (by omega) hhour hhour' (List.append_cancel_left hrest)
  obtain ⟨heqMinute, hrest⟩ :=
    append_zeroFilled_inj (by omega) hminute hminute' (List.append_cancel_left hrest)
  obtain ⟨heqSecond, hrest⟩ :=
    append_zeroFilled_inj (by omega) hsecond hsecond' (List.append_cancel_left hrest)
  obtain ⟨heqMicro, -⟩ :=
    append_zeroFilled_inj (by omega) hmicro hmicro' (List.append_cancel_left hrest)
  apply Timestamp.eq_of_civilDate_of_clockTime
  · exact Prod.ext heqYear (Prod.ext heqMonth heqDay)
  · exact Prod.ext heqHour (Prod.ext heqMinute (Prod.ext heqSecond heqMicro))

def canonicalJson (value : Json) : String := value.canonicalText

def canonicalJsonBytes (value : Json) : ByteArray := (canonicalJson value).toUTF8

/-- The order of members is not in the bytes. -/
theorem canonicalJsonBytes_sorted (value : Json) :
    canonicalJsonBytes value.sorted = canonicalJsonBytes value := by
  rw [canonicalJsonBytes, canonicalJsonBytes, canonicalJson, canonicalJson,
    Json.canonicalText_sorted]

/-- Two documents with the same bytes are the same document, up to the order
their members were written down in. -/
theorem canonicalJsonBytes_inj {a b : Json} (h : canonicalJsonBytes a = canonicalJsonBytes b) :
    a.sorted = b.sorted :=
  canonicalText_inj (String.toByteArray_inj.mp h)

/-- `None` or a string. -/
def optionalText : Option String → Json
  | none => .null
  | some s => .str s

/-- 64 lowercase hexadecimal digits. -/
def isDigest (s : String) : Bool :=
  s.toList.length = 64 && s.toList.all fun c => c.isDigit || ('a' ≤ c && c ≤ 'f')

/-- `hashlib.sha256(..).hexdigest()`. -/
class Hashlib where
  sha256Hexdigest : ByteArray → String
  isDigest_sha256Hexdigest : ∀ bytes, isDigest (sha256Hexdigest bytes) = true

/-- SHA-256 itself. -/
instance hashlib : Hashlib where
  sha256Hexdigest := Sha256.hexdigest
  isDigest_sha256Hexdigest bytes := by
    simp only [isDigest, Sha256.length_hexdigest, Bool.and_eq_true, decide_eq_true_eq,
      List.all_eq_true, Bool.or_eq_true]
    exact ⟨trivial, fun c hc => Sha256.forall_mem_hexdigest hc⟩

/-- The digest of a document. -/
def sha256Json [Hashlib] (value : Json) : String :=
  Hashlib.sha256Hexdigest (canonicalJsonBytes value)

end Retrywise.Domain
