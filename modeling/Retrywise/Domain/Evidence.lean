import Retrywise.Domain.Values
import Retrywise.Foundation.JsonHooks
import Retrywise.Foundation.TimeRead

/-!
# Evidence of any value

`canonical.py` for the values a caller hands in: what can be written as deterministic JSON is
normalized, and floating point, infinite decimals, naive times and objects of other kinds are
refused. A canonical text is read back as a value with the same text, and a canonical time as
the same time.

> `loads_canonicalJson`: canonical text, read and written again, is the same text.
-/

namespace Retrywise.Domain

open Retrywise.Foundation

/-- A value, with its decimals; a decimal that is not finite is `none`. -/
abbrev Evidence := PyValue (Option Decimal)

/-- `_decimal_string`. -/
def decimalString (value : Option Decimal) : Except DomainError String :=
  match value with
  | none => .error (.invalidValue "non-finite Decimal is not canonical JSON evidence")
  | some decimal =>
    let rendered := decimal.formatF.toList
    let trimmed :=
      if '.' ∈ rendered then (rendered.rdropWhile (· = '0')).rdropWhile (· = '.') else rendered
    if trimmed = [] ∨ trimmed = ['-', '0'] then .ok "0" else .ok (String.ofList trimmed)

/-- `parse_canonical_timestamp`. -/
def parseCanonicalTimestamp (value : String) : Except DomainError Timestamp :=
  someOr (strptime value) (.invalidValue "timestamp is not in canonical UTC format")

/-- **A canonical timestamp is read back.** -/
theorem parseCanonicalTimestamp_canonicalTimestamp (t : Timestamp) :
    parseCanonicalTimestamp (canonicalTimestamp t) = .ok t :=
  someOr_ok_iff.mpr (strptime_zeroFilled t)

mutual

def toCanonicalPrimitive : Evidence → Except DomainError Json
  | .none => .ok .null
  | .str value => .ok (.str value)
  | .bool value => .ok (.bool value)
  | .int value => .ok (.int value)
  | .float => .error (.invalidValue "float values are forbidden in canonical evidence")
  | .decimal value => (decimalString value).map .str
  | .datetime value => (requireUtc value "timestamp").map fun t => .str (canonicalTimestamp t)
  | .standsFor value => toCanonicalPrimitive value
  | .mapping items => (canonicalMembers [] items).map .obj
  | .sequence items => (canonicalItems items).map .arr
  | .other typeName =>
    .error (.invalidValue s!"unsupported canonical JSON value type: {typeName}")

/-- The loop over the items of a mapping. -/
def canonicalMembers (normalized : List (String × Json)) :
    List (Option String × Evidence) → Except DomainError (List (String × Json))
  | [] => .ok normalized
  | (key, item) :: rest =>
    match key with
    | none => .error (.invalidValue "canonical JSON object keys must be strings")
    | some key => do
      let value ← toCanonicalPrimitive item
      canonicalMembers (assign key value normalized) rest

def canonicalItems : List Evidence → Except DomainError (List Json)
  | [] => .ok []
  | item :: rest => do
    let value ← toCanonicalPrimitive item
    let values ← canonicalItems rest
    return value :: values

end

/-- `canonical_json`, of any value. -/
def evidenceJson (value : Evidence) : Except DomainError String :=
  (toCanonicalPrimitive value).map canonicalJson

/-! ## Normalized values -/

mutual

/-- A normalized value has no key twice: a dictionary keeps one value for each. Mutual with the
items of a mapping and of a sequence. -/
theorem distinct_of_primitive : ∀ (value : Evidence) {j : Json},
    toCanonicalPrimitive value = .ok j → j.Distinct
  | .none, j, h => by
    rw [← Except.ok.inj h]
    trivial
  | .str _, j, h => by
    rw [← Except.ok.inj h]
    trivial
  | .bool _, j, h => by
    rw [← Except.ok.inj h]
    trivial
  | .int _, j, h => by
    rw [← Except.ok.inj h]
    trivial
  | .float, j, h => absurd h (by simp [toCanonicalPrimitive])
  | .decimal _, j, h => by
    obtain ⟨_, -, rfl⟩ := map_ok_iff.mp h
    trivial
  | .datetime _, j, h => by
    obtain ⟨_, -, rfl⟩ := map_ok_iff.mp h
    trivial
  | .standsFor value, j, h => distinct_of_primitive value h
  | .mapping items, j, h => by
    obtain ⟨ms, hms, rfl⟩ := map_ok_iff.mp h
    exact distinct_of_members items hms List.nodup_nil trivial
  | .sequence items, j, h => by
    obtain ⟨xs, hxs, rfl⟩ := map_ok_iff.mp h
    exact distinct_of_items items hxs
  | .other _, j, h => absurd h (by simp [toCanonicalPrimitive])

theorem distinct_of_members : ∀ (items : List (Option String × Evidence))
    {normalized ms : List (String × Json)}, canonicalMembers normalized items = .ok ms →
      (normalized.map Prod.fst).Nodup → Json.DistinctMembers normalized →
        (Json.obj ms).Distinct
  | [], normalized, ms, h, hkeys, hvalues => by
    rw [← Except.ok.inj h]
    exact ⟨hkeys, hvalues⟩
  | (none, _) :: _, normalized, ms, h, _, _ => absurd h (by simp [canonicalMembers])
  | (some key, item) :: rest, normalized, ms, h, hkeys, hvalues => by
    obtain ⟨value, hvalue, hrest⟩ := bind_ok_iff.mp h
    exact distinct_of_members rest hrest (nodup_keys_assign hkeys)
      (Json.distinctMembers_assign (distinct_of_primitive item hvalue) hvalues)

theorem distinct_of_items : ∀ (items : List Evidence) {xs : List Json},
    canonicalItems items = .ok xs → Json.DistinctItems xs
  | [], xs, h => by
    rw [← Except.ok.inj h]
    trivial
  | item :: rest, xs, h => by
    obtain ⟨x, hx, h⟩ := bind_ok_iff.mp h
    obtain ⟨more, hmore, h⟩ := bind_ok_iff.mp h
    rw [← pure_ok_iff.mp h]
    exact ⟨distinct_of_primitive item hx, distinct_of_items rest hmore⟩

end

mutual

/-- A JSON value that is read is normalized to itself. -/
theorem primitive_toPy : ∀ j : Json, j.Distinct → toCanonicalPrimitive j.toPy = .ok j
  | .null, _ => rfl
  | .bool _, _ => rfl
  | .int _, _ => rfl
  | .str _, _ => rfl
  | .arr xs, h => map_ok_iff.mpr ⟨xs, items_toPy xs h, rfl⟩
  | .obj ms, h => by
    have hmembers := members_toPy ms [] h.1 h.2
    rw [List.nil_append] at hmembers
    exact map_ok_iff.mpr ⟨ms, hmembers, rfl⟩

theorem items_toPy : ∀ xs : List Json, Json.DistinctItems xs →
    canonicalItems (Json.itemsToPy xs) = .ok xs
  | [], _ => rfl
  | x :: xs, h =>
    bind_ok_iff.mpr ⟨x, primitive_toPy x h.1, bind_ok_iff.mpr ⟨xs, items_toPy xs h.2, rfl⟩⟩

theorem members_toPy : ∀ (ms normalized : List (String × Json)),
    ((normalized ++ ms).map Prod.fst).Nodup → Json.DistinctMembers ms →
      canonicalMembers normalized ((Json.membersToPy ms).map fun m => (some m.1, m.2)) =
        .ok (normalized ++ ms)
  | [], normalized, _, _ => congrArg Except.ok (List.append_nil normalized).symm
  | (k, x) :: ms, normalized, hkeys, h => by
    have hfresh : k ∉ normalized.map Prod.fst := by
      intro hin
      rw [List.map_append, List.nodup_append] at hkeys
      exact hkeys.2.2 k hin k (by simp) rfl
    have hsplit : normalized ++ (k, x) :: ms = normalized ++ [(k, x)] ++ ms := by simp
    rw [hsplit] at hkeys ⊢
    refine bind_ok_iff.mpr ⟨x, primitive_toPy x h.1, ?_⟩
    rw [assign_of_not_mem hfresh]
    exact members_toPy ms (normalized ++ [(k, x)]) hkeys h.2

end

/-- **Canonical text, read and written again, is the same text.** -/
theorem loads_canonicalJson {value : Evidence} {j : Json} (h : toCanonicalPrimitive value = .ok j) :
    ∃ read, loads (canonicalJson j) = some read ∧ toCanonicalPrimitive read = .ok j.sorted ∧
      evidenceJson read = .ok (canonicalJson j) := by
  have hdistinct := distinct_of_primitive value h
  have hread := primitive_toPy j.sorted (j.distinct_sorted hdistinct)
  refine ⟨j.sorted.toPy, loads_canonicalText hdistinct, hread, ?_⟩
  rw [evidenceJson, hread, Except.map, canonicalJson, canonicalJson, Json.canonicalText_sorted]

end Retrywise.Domain
