import Retrywise.ControlPlane.EffectCommandCodec
import Retrywise.Domain.Evidence

/-!
# The payload of a stored command

`effect_command_codec.py`, how a payload is taken in: a mapping, a text or bytes become the
members of one JSON object, with no sensitive key, within bounds of depth and size, and, where
it was text, in its canonical spelling only. A list is a sequence here, and a member of an
enumeration of strings is a string; anything else that is no JSON is refused.

> `canonicalBytes_of_coerce`: what is taken in has the canonical bytes of the payload.
>
> `Storable.coerceMapping` and `Storable.coerceRaw`: an object within the bounds is taken in, as it
> is or as its canonical bytes.
-/

namespace Retrywise.ControlPlane

open Retrywise.Foundation Retrywise.Domain

/-! ## Sensitive keys -/

/-- What the letters outside ASCII with ASCII letters in their case folding are folded to; `_`
stands for every other character. -/
def foldings : List (Nat × List Char) := [
  (0xDF, ['s', 's']), (0x130, ['i', '_']), (0x149, ['_', 'n']), (0x17F, ['s']),
  (0x1F0, ['j', '_']), (0x1E96, ['h', '_']), (0x1E97, ['t', '_']), (0x1E98, ['w', '_']),
  (0x1E99, ['y', '_']), (0x1E9A, ['a', '_']), (0x1E9E, ['s', 's']), (0x212A, ['k']),
  (0xFB00, ['f', 'f']), (0xFB01, ['f', 'i']), (0xFB02, ['f', 'l']), (0xFB03, ['f', 'f', 'i']),
  (0xFB04, ['f', 'f', 'l']), (0xFB05, ['s', 't']), (0xFB06, ['s', 't'])]

/-- `key.casefold()`, as far as its ASCII letters and digits go. -/
def casefold (key : String) : List Char :=
  key.toList.flatMap fun c =>
    if c.isUpper then [c.toLower] else (foldings.lookup c.toNat).getD [c]

/-- The words of a key: the runs of lower-case letters and digits, as `re.sub`, `strip` and
`split` find them. -/
def keyWords (word : List Char) : List Char → List String
  | [] => if word = [] then [] else [String.ofList word.reverse]
  | c :: rest =>
    if c.isLower || c.isDigit then keyWords (c :: word) rest
    else if word = [] then keyWords [] rest
    else String.ofList word.reverse :: keyWords [] rest

def sensitiveKeyWords : List String := [
  "address", "authorization", "contact", "credential", "customer", "cvv", "email", "mobile",
  "pan", "password", "phone", "secret", "token", "vpa"]

/-- `api_key`, `card_number`, `key_secret` and `private_key`. -/
def sensitiveCompoundKeys : List (List String) := [
  ["api", "key"], ["card", "number"], ["key", "secret"], ["private", "key"]]

/-- `_sensitive_key`. -/
def sensitiveKey (key : String) : Bool :=
  let words := keyWords [] (casefold key)
  words ∈ sensitiveCompoundKeys || words.any (· ∈ sensitiveKeyWords)

/-! ## Any value -/

mutual

/-- `_walk_json`, of any value. -/
def walkValue (path : String) (depth : Nat) : Evidence → Except ControlPlaneError Nat
  | .none => walkDepth depth 4
  | .bool _ => walkDepth depth 4
  | .int n => do
    let size ← walkDepth depth n.repr.length
    raiseIf (n < -9223372036854775808 ∨ 9223372036854775807 < n)
      (.invalidValue "effect command integer exceeds signed 64-bit range")
    return size
  | .str s => do
    let size ← walkDepth depth (s.toUTF8.size + 2)
    raiseIf (size > maxEffectCommandBytes)
      (.invalidValue "effect command contains an oversized string")
    return size
  | .mapping items => do
    let total ← walkDepth depth 2
    walkEntries path (depth + 1) total items
  | .sequence items => do
    let total ← walkDepth depth 2
    walkElements path (depth + 1) 0 total items
  | .float => notJsonb path depth
  | .decimal _ => notJsonb path depth
  | .datetime _ => notJsonb path depth
  | .standsFor _ => notJsonb path depth
  | .other _ => notJsonb path depth

def notJsonb (path : String) (depth : Nat) : Except ControlPlaneError Nat := do
  let _ ← walkDepth depth 0
  .error (.invalidValue s!"{path} contains a non-JSONB value")

def walkEntries (path : String) (depth total : Nat) :
    List (Option String × Evidence) → Except ControlPlaneError Nat
  | [] => .ok total
  | (none, _) :: _ => .error (.invalidValue s!"{path} contains a non-string object key")
  | (some key, item) :: rest => do
    raiseIf (key.toUTF8.size > maxEffectCommandBytes)
      (.invalidValue "effect command contains an oversized object key")
    raiseIf (sensitiveKey key) (.invalidValue s!"{path} contains a prohibited sensitive field")
    let size ← walkValue s!"{path}.{key}" depth item
    let grown := total + (key.toUTF8.size + 3) + size
    raiseIf (grown > maxEffectCommandBytes)
      (.invalidValue "effect command exceeds the serialized size cap")
    walkEntries path depth grown rest

def walkElements (path : String) (depth index total : Nat) :
    List Evidence → Except ControlPlaneError Nat
  | [] => .ok total
  | item :: rest => do
    let size ← walkValue s!"{path}[{index}]" depth item
    let grown := total + (1 + size)
    raiseIf (grown > maxEffectCommandBytes)
      (.invalidValue "effect command exceeds the serialized size cap")
    walkElements path depth (index + 1) grown rest

end

/-- `except (TypeError, ValueError)` around a call of the domain. -/
def raisedAs {α : Type} (message : String) :
    Except DomainError α → Except ControlPlaneError α
  | .ok value => .ok value
  | .error _ => .error (.invalidValue message)

@[simp] theorem raisedAs_ok_iff {α : Type} {message : String} {call : Except DomainError α}
    {value : α} : raisedAs message call = .ok value ↔ call = .ok value := by
  cases call with
  | ok a => simp [raisedAs]
  | error e => simp [raisedAs]

/-- `_bounded_canonical_bytes`, of any value. -/
def boundedBytes (value : Evidence) : Except ControlPlaneError ByteArray := do
  let _ ← walkValue "$" 0 value
  let primitive ← raisedAs "effect command is not canonical JSON" (toCanonicalPrimitive value)
  raiseIf ((canonicalJsonBytes primitive).size > maxEffectCommandBytes)
    (.invalidValue "effect command exceeds the serialized size cap")
  return canonicalJsonBytes primitive

/-! ## Reading -/

/-- The values of JSON. A number with a fraction is none of them: the serializer, whose texts
are read with these hooks, writes no such number. -/
def jsonHooks : JsonHooks Unit Json where
  null := .null
  bool := .bool
  str := .str
  array := .arr
  objectPairs pairs := .ok (.obj (dictOf pairs))
  parseInt token := .ok (.int (JsonHooks.intOf token))
  parseFloat _ := .error ()
  parseConstant _ := .error ()

/-- `_parse_canonical_integer`. -/
def parseCanonicalInteger (token : List Char) : Except ControlPlaneError Json := do
  raiseIf (token = ['-', '0'])
    (.invalidValue "negative zero is not a canonical JSON integer")
  raiseIf ((token.dropWhile (· = '-')).length > 19)
    (.invalidValue "JSON integer exceeds signed 64-bit range")
  let parsed := JsonHooks.intOf token
  raiseIf (parsed < -9223372036854775808 ∨ 9223372036854775807 < parsed)
    (.invalidValue "JSON integer exceeds signed 64-bit range")
  return .int parsed

/-- The loop of `_object_without_duplicates`. -/
def withoutDuplicates (result : List (String × Json)) :
    List (String × Json) → Except ControlPlaneError (List (String × Json))
  | [] => .ok result
  | (key, value) :: pairs => do
    raiseIf (key ∈ result.map Prod.fst)
      (.invalidValue "duplicate JSON object keys are forbidden")
    withoutDuplicates (assign key value result) pairs

def commandHooks : JsonHooks ControlPlaneError Json where
  null := .null
  bool := .bool
  str := .str
  array := .arr
  objectPairs pairs := (withoutDuplicates [] pairs).map .obj
  parseInt := parseCanonicalInteger
  parseFloat _ := .error (.invalidValue "non-integer JSON numbers are forbidden")
  parseConstant _ := .error (.invalidValue "non-finite JSON numbers are forbidden")

/-- A document that has to be an object. -/
def asObject : Json → Except ControlPlaneError (List (String × Json))
  | .obj members => .ok members
  | _ => .error (.invalidValue "effect command payload must be a JSON object")

/-! ## Taking a payload in -/

inductive CommandPayload where
  | mapping (items : List (Option String × Evidence))
  | text (value : String)
  | bytes (value : ByteArray)
  | other

/-- `_coerce_payload`, of a mapping. -/
def coerceMapping (items : List (Option String × Evidence)) :
    Except ControlPlaneError (List (String × Json)) := do
  let _ ← walkValue "$" 0 (.mapping items)
  let canonical ← boundedBytes (.mapping items)
  match (String.fromUTF8? canonical).map jsonHooks.loads with
  | some (.ok copied) => asObject copied
  | _ => .error (.invalidValue "canonical serializer produced invalid JSON")

/-- Of the two ways to compare bytes, the one of the core library. -/
instance decidableEqBytes : DecidableEq ByteArray := ByteArray.instDecidableEq

/-- `_coerce_payload`, of bytes. -/
def coerceRaw (raw : ByteArray) : Except ControlPlaneError (List (String × Json)) := do
  raiseIf (raw.size > maxEffectCommandBytes)
    (.invalidValue "effect command exceeds the serialized size cap")
  let decoded ← someOr (String.fromUTF8? raw) (.invalidValue "effect command must be valid UTF-8")
  match commandHooks.loads decoded with
  | .error none => .error (.invalidValue "effect command is not valid JSON")
  | .error (some raised) => .error raised
  | .ok parsed => do
    let members ← asObject parsed
    let canonical ← boundedBytes (Json.obj members).toPy
    raiseIf (raw ≠ canonical)
      (.invalidValue "serialized effect command is not canonical JSON")
    return members

/-- `_coerce_payload`. -/
def coercePayload : CommandPayload → Except ControlPlaneError (List (String × Json))
  | .mapping items => coerceMapping items
  | .text value => coerceRaw value.toUTF8
  | .bytes value => coerceRaw value
  | .other =>
    .error (.invalidValue "payload must be a JSON object, canonical JSON text, or bytes")

/-! ## What is within the bounds -/

mutual

/-- What `_walk_json` adds up. -/
def walkSize : Json → Nat
  | .null => 4
  | .bool _ => 4
  | .int n => n.repr.length
  | .str s => s.toUTF8.size + 2
  | .arr items => 2 + itemsWalk items
  | .obj members => 2 + membersWalk members

def itemsWalk : List Json → Nat
  | [] => 0
  | x :: xs => 1 + walkSize x + itemsWalk xs

def membersWalk : List (String × Json) → Nat
  | [] => 0
  | (k, x) :: ms => k.toUTF8.size + 3 + walkSize x + membersWalk ms

end

mutual

/-- A value `_walk_json` lets pass, at a depth, whatever its keys are. -/
def Fits (depth : Nat) : Json → Prop
  | .null => depth ≤ 12
  | .bool _ => depth ≤ 12
  | .int n => depth ≤ 12 ∧ -9223372036854775808 ≤ n ∧ n ≤ 9223372036854775807
  | .str s => depth ≤ 12 ∧ s.toUTF8.size + 2 ≤ maxEffectCommandBytes
  | .arr items =>
    depth ≤ 12 ∧ 2 + itemsWalk items ≤ maxEffectCommandBytes ∧ FitsItems (depth + 1) items
  | .obj members =>
    depth ≤ 12 ∧ 2 + membersWalk members ≤ maxEffectCommandBytes ∧ FitsMembers (depth + 1) members

def FitsItems (depth : Nat) : List Json → Prop
  | [] => True
  | x :: xs => Fits depth x ∧ FitsItems depth xs

def FitsMembers (depth : Nat) : List (String × Json) → Prop
  | [] => True
  | (_, x) :: ms => Fits depth x ∧ FitsMembers depth ms

end

mutual

/-- No object of the value has a sensitive key. -/
def keysClean : Json → Bool
  | .arr items => itemsClean items
  | .obj members => membersClean members
  | .null => true
  | .bool _ => true
  | .int _ => true
  | .str _ => true

def itemsClean : List Json → Bool
  | [] => true
  | x :: xs => keysClean x && itemsClean xs

def membersClean : List (String × Json) → Bool
  | [] => true
  | (k, x) :: ms => !sensitiveKey k && keysClean x && membersClean ms

end

theorem fitsMembers_iff {depth : Nat} {ms : List (String × Json)} :
    FitsMembers depth ms ↔ ∀ m ∈ ms, Fits depth m.2 := by
  induction ms with
  | nil => exact ⟨fun _ m hm => absurd hm List.not_mem_nil, fun _ => trivial⟩
  | cons m ms ih =>
    obtain ⟨k, x⟩ := m
    rw [FitsMembers, ih, List.forall_mem_cons]

theorem membersClean_iff {ms : List (String × Json)} :
    membersClean ms = true ↔ ∀ m ∈ ms, sensitiveKey m.1 = false ∧ keysClean m.2 = true := by
  induction ms with
  | nil => exact ⟨fun _ m hm => absurd hm List.not_mem_nil, fun _ => rfl⟩
  | cons m ms ih =>
    obtain ⟨k, x⟩ := m
    rw [membersClean, Bool.and_eq_true, Bool.and_eq_true, Bool.not_eq_true', ih,
      List.forall_mem_cons]

theorem membersWalk_eq_sum (ms : List (String × Json)) :
    membersWalk ms = (ms.map fun m => m.1.toUTF8.size + 3 + walkSize m.2).sum := by
  induction ms with
  | nil => rfl
  | cons m ms ih =>
    obtain ⟨k, x⟩ := m
    rw [membersWalk, ih, List.map_cons, List.sum_cons]

/-! ### The order of members -/

theorem mem_sortedMembers_cons {k : String} {x : Json} {ms : List (String × Json)}
    {m : String × Json} (h : m ∈ Json.sortedMembers ((k, x) :: ms)) :
    m = (k, x.sorted) ∨ m ∈ Json.sortedMembers ms := by
  rw [Json.sortedMembers, List.mem_orderedInsert] at h
  exact h

mutual

/-- Mutual with the items of an array and the members of an object. -/
theorem walkSize_sorted : ∀ j : Json, walkSize j.sorted = walkSize j
  | .null => rfl
  | .bool _ => rfl
  | .int _ => rfl
  | .str _ => rfl
  | .arr items => by
    rw [Json.sorted, walkSize, walkSize, itemsWalk_sorted items]
  | .obj members => by
    rw [Json.sorted, walkSize, walkSize, membersWalk_sorted members]

theorem itemsWalk_sorted : ∀ xs : List Json, itemsWalk (Json.sortedItems xs) = itemsWalk xs
  | [] => rfl
  | x :: xs => by
    rw [Json.sortedItems, itemsWalk, itemsWalk, walkSize_sorted x, itemsWalk_sorted xs]

theorem membersWalk_sorted : ∀ ms : List (String × Json),
    membersWalk (Json.sortedMembers ms) = membersWalk ms
  | [] => rfl
  | (k, x) :: ms => by
    have hperm : (Json.sortedMembers ((k, x) :: ms)).Perm ((k, x.sorted) :: Json.sortedMembers ms) :=
      List.perm_orderedInsert _ _ _
    rw [membersWalk_eq_sum, (hperm.map _).sum_nat, List.map_cons, List.sum_cons,
      ← membersWalk_eq_sum, membersWalk_sorted ms, walkSize_sorted x, membersWalk]

end

mutual

/-- Mutual with the items of an array and the members of an object. -/
theorem fits_sorted : ∀ {depth : Nat} (j : Json), Fits depth j → Fits depth j.sorted
  | _, .null, h => h
  | _, .bool _, h => h
  | _, .int _, h => h
  | _, .str _, h => h
  | _, .arr items, h =>
    ⟨h.1, (itemsWalk_sorted items).symm ▸ h.2.1, fitsItems_sorted items h.2.2⟩
  | _, .obj members, h =>
    ⟨h.1, (membersWalk_sorted members).symm ▸ h.2.1, fitsMembers_iff.mpr
      (fitsMembers_sorted members h.2.2)⟩

theorem fitsItems_sorted : ∀ {depth : Nat} (xs : List Json), FitsItems depth xs →
    FitsItems depth (Json.sortedItems xs)
  | _, [], _ => trivial
  | _, x :: xs, h => ⟨fits_sorted x h.1, fitsItems_sorted xs h.2⟩

theorem fitsMembers_sorted : ∀ {depth : Nat} (ms : List (String × Json)), FitsMembers depth ms →
    ∀ m ∈ Json.sortedMembers ms, Fits depth m.2
  | _, [], _, m, hm => absurd hm List.not_mem_nil
  | _, (_, x) :: ms, h, m, hm => by
    rcases mem_sortedMembers_cons hm with rfl | hm
    · exact fits_sorted x h.1
    · exact fitsMembers_sorted ms h.2 m hm

end

mutual

/-- Mutual with the items of an array and the members of an object. -/
theorem keysClean_sorted : ∀ j : Json, keysClean j = true → keysClean j.sorted = true
  | .null, _ => rfl
  | .bool _, _ => rfl
  | .int _, _ => rfl
  | .str _, _ => rfl
  | .arr items, h => itemsClean_sorted items h
  | .obj members, h => membersClean_iff.mpr (membersClean_sorted members h)

theorem itemsClean_sorted : ∀ xs : List Json, itemsClean xs = true →
    itemsClean (Json.sortedItems xs) = true
  | [], _ => rfl
  | x :: xs, h => by
    rw [itemsClean, Bool.and_eq_true] at h
    rw [Json.sortedItems, itemsClean, keysClean_sorted x h.1, itemsClean_sorted xs h.2]
    rfl

theorem membersClean_sorted : ∀ ms : List (String × Json), membersClean ms = true →
    ∀ m ∈ Json.sortedMembers ms, sensitiveKey m.1 = false ∧ keysClean m.2 = true
  | [], _, m, hm => absurd hm List.not_mem_nil
  | (_, x) :: ms, h, m, hm => by
    rw [membersClean, Bool.and_eq_true, Bool.and_eq_true, Bool.not_eq_true'] at h
    rcases mem_sortedMembers_cons hm with rfl | hm
    · exact ⟨h.1.1, keysClean_sorted x h.1.2⟩
    · exact membersClean_sorted ms h.2 m hm

end

/-- A value stands among the members also when they are sorted. -/
theorem mem_sortedMembers {ms : List (String × Json)} {m : String × Json} (h : m ∈ ms) :
    (m.1, m.2.sorted) ∈ Json.sortedMembers ms :=
  (Json.sortedMembers_perm ms).mem_iff.mpr (List.mem_map.mpr ⟨m, h, rfl⟩)

mutual

/-- The bounds do not depend on the order. Mutual with the items of an array and the members of an
object. -/
theorem fits_of_sorted : ∀ {depth : Nat} (j : Json), Fits depth j.sorted → Fits depth j
  | _, .null, h => h
  | _, .bool _, h => h
  | _, .int _, h => h
  | _, .str _, h => h
  | _, .arr items, h => ⟨h.1, itemsWalk_sorted items ▸ h.2.1, fitsItems_of_sorted items h.2.2⟩
  | _, .obj members, h =>
    ⟨h.1, membersWalk_sorted members ▸ h.2.1, fitsMembers_of_sorted members
      fun _ hm => fitsMembers_iff.mp h.2.2 _ (mem_sortedMembers hm)⟩

theorem fitsItems_of_sorted : ∀ {depth : Nat} (xs : List Json),
    FitsItems depth (Json.sortedItems xs) → FitsItems depth xs
  | _, [], _ => trivial
  | _, x :: xs, h => ⟨fits_of_sorted x h.1, fitsItems_of_sorted xs h.2⟩

theorem fitsMembers_of_sorted : ∀ {depth : Nat} (ms : List (String × Json)),
    (∀ m ∈ ms, Fits depth m.2.sorted) → FitsMembers depth ms
  | _, [], _ => trivial
  | _, (k, x) :: ms, h =>
    ⟨fits_of_sorted x (h (k, x) List.mem_cons_self),
      fitsMembers_of_sorted ms fun m hm => h m (List.mem_cons_of_mem _ hm)⟩

end

mutual

/-- Mutual with the items of an array and the members of an object. -/
theorem keysClean_of_sorted : ∀ j : Json, keysClean j.sorted = true → keysClean j = true
  | .null, _ => rfl
  | .bool _, _ => rfl
  | .int _, _ => rfl
  | .str _, _ => rfl
  | .arr items, h => itemsClean_of_sorted items h
  | .obj members, h => membersClean_of_sorted members
      fun _ hm => membersClean_iff.mp h _ (mem_sortedMembers hm)

theorem itemsClean_of_sorted : ∀ xs : List Json, itemsClean (Json.sortedItems xs) = true →
    itemsClean xs = true
  | [], _ => rfl
  | x :: xs, h => by
    rw [Json.sortedItems, itemsClean, Bool.and_eq_true] at h
    rw [itemsClean, keysClean_of_sorted x h.1, itemsClean_of_sorted xs h.2]
    rfl

theorem membersClean_of_sorted : ∀ ms : List (String × Json),
    (∀ m ∈ ms, sensitiveKey m.1 = false ∧ keysClean m.2.sorted = true) → membersClean ms = true
  | [], _ => rfl
  | (k, x) :: ms, h => by
    obtain ⟨hkey, hvalue⟩ := h (k, x) List.mem_cons_self
    rw [membersClean, hkey, keysClean_of_sorted x hvalue,
      membersClean_of_sorted ms fun m hm => h m (List.mem_cons_of_mem _ hm)]
    rfl

end

/-! ### The walks -/

theorem walkDepth_ok_iff {depth size n : Nat} :
    walkDepth depth size = .ok n ↔ depth ≤ 12 ∧ size = n := by
  unfold walkDepth
  simp only [bind_ok_iff, raiseIf_ok_iff, exists_const, pure_ok_iff, Nat.not_lt]

mutual

/-- Mutual with the items of an array and the members of an object. -/
theorem walkJson_ok_iff : ∀ {depth n : Nat} (j : Json),
    walkJson depth j = .ok n ↔ Fits depth j ∧ walkSize j = n
  | _, _, .null => walkDepth_ok_iff
  | _, _, .bool _ => walkDepth_ok_iff
  | depth, n, .int i => by
    simp only [walkJson, bind_ok_iff, raiseIf_ok_iff, walkDepth_ok_iff, exists_const, Fits, walkSize]
    omega
  | depth, n, .str s => by
    simp only [walkJson, bind_ok_iff, raiseIf_ok_iff, walkDepth_ok_iff, exists_const, Fits, walkSize]
    omega
  | depth, n, .arr items => by
    simp only [walkJson, bind_ok_iff, walkDepth_ok_iff, Fits, walkSize]
    constructor
    · rintro ⟨_, ⟨hdepth, -⟩, h⟩
      obtain ⟨hsize, hfits, hn⟩ := (walkItems_ok_iff items (by decide)).mp h
      exact ⟨⟨hdepth, hsize, hfits⟩, hn⟩
    · rintro ⟨⟨hdepth, hsize, hfits⟩, hn⟩
      exact ⟨0, ⟨hdepth, rfl⟩, (walkItems_ok_iff items (by decide)).mpr ⟨hsize, hfits, hn⟩⟩
  | depth, n, .obj members => by
    simp only [walkJson, bind_ok_iff, walkDepth_ok_iff, Fits, walkSize]
    constructor
    · rintro ⟨_, ⟨hdepth, -⟩, h⟩
      obtain ⟨hsize, hfits, hn⟩ := (walkMembers_ok_iff members (by decide)).mp h
      exact ⟨⟨hdepth, hsize, hfits⟩, hn⟩
    · rintro ⟨⟨hdepth, hsize, hfits⟩, hn⟩
      exact ⟨0, ⟨hdepth, rfl⟩, (walkMembers_ok_iff members (by decide)).mpr ⟨hsize, hfits, hn⟩⟩

theorem walkItems_ok_iff : ∀ {depth total n : Nat} (items : List Json),
    total ≤ maxEffectCommandBytes →
      (walkItems depth total items = .ok n ↔
        total + itemsWalk items ≤ maxEffectCommandBytes ∧ FitsItems depth items ∧
          total + itemsWalk items = n)
  | _, total, n, [], htotal => by
    simp [walkItems, itemsWalk, FitsItems, htotal]
  | depth, total, n, x :: xs, htotal => by
    simp only [walkItems, bind_ok_iff, raiseIf_ok_iff, exists_const, itemsWalk, FitsItems]
    constructor
    · rintro ⟨size, hx, hgrown, hxs⟩
      obtain ⟨hfits, rfl⟩ := (walkJson_ok_iff x).mp hx
      obtain ⟨hsize, hrest, hn⟩ := (walkItems_ok_iff xs (by omega)).mp hxs
      exact ⟨by omega, ⟨hfits, hrest⟩, by omega⟩
    · rintro ⟨hsize, ⟨hfits, hrest⟩, hn⟩
      exact ⟨walkSize x, (walkJson_ok_iff x).mpr ⟨hfits, rfl⟩, by omega,
        (walkItems_ok_iff xs (by omega)).mpr ⟨by omega, hrest, by omega⟩⟩

theorem walkMembers_ok_iff : ∀ {depth total n : Nat} (members : List (String × Json)),
    total ≤ maxEffectCommandBytes →
      (walkMembers depth total members = .ok n ↔
        total + membersWalk members ≤ maxEffectCommandBytes ∧ FitsMembers depth members ∧
          total + membersWalk members = n)
  | _, total, n, [], htotal => by
    simp [walkMembers, membersWalk, FitsMembers, htotal]
  | depth, total, n, (k, x) :: ms, htotal => by
    simp only [walkMembers, bind_ok_iff, raiseIf_ok_iff, exists_const, membersWalk, FitsMembers]
    constructor
    · rintro ⟨-, size, hx, hgrown, hms⟩
      obtain ⟨hfits, rfl⟩ := (walkJson_ok_iff x).mp hx
      obtain ⟨hsize, hrest, hn⟩ := (walkMembers_ok_iff ms (by omega)).mp hms
      exact ⟨by omega, ⟨hfits, hrest⟩, by omega⟩
    · rintro ⟨hsize, ⟨hfits, hrest⟩, hn⟩
      exact ⟨by omega, walkSize x, (walkJson_ok_iff x).mpr ⟨hfits, rfl⟩, by omega,
        (walkMembers_ok_iff ms (by omega)).mpr ⟨by omega, hrest, by omega⟩⟩

end

mutual

/-- What fits and has no sensitive key is let pass. Mutual with the items of an array and the
members of an object. -/
theorem walkValue_of_fits : ∀ {depth : Nat} (path : String) (j : Json), Fits depth j →
    keysClean j = true → walkValue path depth j.toPy = .ok (walkSize j)
  | _, _, .null, h, _ => walkDepth_ok_iff.mpr ⟨h, rfl⟩
  | _, _, .bool _, h, _ => walkDepth_ok_iff.mpr ⟨h, rfl⟩
  | _, _, .int i, h, _ => by
    have hrange : ¬(i < -9223372036854775808 ∨ 9223372036854775807 < i) := by
      have hbounds := h.2
      omega
    rw [Json.toPy, walkValue, bind_of_ok (walkDepth_ok_iff.mpr ⟨h.1, rfl⟩),
      bind_of_ok (raiseIf_of_not _ hrange)]
    rfl
  | _, _, .str s, h, _ => by
    have hsize : ¬s.toUTF8.size + 2 > maxEffectCommandBytes := Nat.not_lt.mpr h.2
    rw [Json.toPy, walkValue, bind_of_ok (walkDepth_ok_iff.mpr ⟨h.1, rfl⟩),
      bind_of_ok (raiseIf_of_not _ hsize)]
    rfl
  | _, path, .arr items, h, hclean => by
    rw [Json.toPy, walkValue, bind_of_ok (walkDepth_ok_iff.mpr ⟨h.1, rfl⟩)]
    exact walkElements_of_fits path 0 2 items h.2.1 h.2.2 hclean
  | _, path, .obj members, h, hclean => by
    rw [Json.toPy, walkValue, bind_of_ok (walkDepth_ok_iff.mpr ⟨h.1, rfl⟩)]
    exact walkEntries_of_fits path 2 members h.2.1 h.2.2 hclean

theorem walkElements_of_fits : ∀ {depth : Nat} (path : String) (index total : Nat)
    (items : List Json), total + itemsWalk items ≤ maxEffectCommandBytes →
      FitsItems depth items → itemsClean items = true →
        walkElements path depth index total (Json.itemsToPy items) = .ok (total + itemsWalk items)
  | _, _, _, _, [], _, _, _ => rfl
  | _, path, index, total, x :: xs, hsize, hfits, hclean => by
    rw [itemsClean, Bool.and_eq_true] at hclean
    rw [itemsWalk] at hsize ⊢
    have hgrown : ¬total + (1 + walkSize x) > maxEffectCommandBytes := by omega
    have hrest := walkElements_of_fits path (index + 1) (total + (1 + walkSize x)) xs (by omega)
      hfits.2 hclean.2
    rw [Json.itemsToPy, walkElements,
      bind_of_ok (walkValue_of_fits s!"{path}[{index}]" x hfits.1 hclean.1)]
    dsimp only
    rw [bind_of_ok (raiseIf_of_not _ hgrown), hrest]
    congr 1
    omega

theorem walkEntries_of_fits : ∀ {depth : Nat} (path : String) (total : Nat)
    (members : List (String × Json)), total + membersWalk members ≤ maxEffectCommandBytes →
      FitsMembers depth members → membersClean members = true →
        walkEntries path depth total ((Json.membersToPy members).map fun m => (some m.1, m.2)) =
          .ok (total + membersWalk members)
  | _, _, _, [], _, _, _ => rfl
  | _, path, total, (k, x) :: ms, hsize, hfits, hclean => by
    rw [membersClean, Bool.and_eq_true, Bool.and_eq_true, Bool.not_eq_true'] at hclean
    rw [membersWalk] at hsize ⊢
    have hkey : ¬k.toUTF8.size > maxEffectCommandBytes := by omega
    have hinsensitive : ¬sensitiveKey k = true := by
      rw [hclean.1.1]
      decide
    have hgrown : ¬total + (k.toUTF8.size + 3) + walkSize x > maxEffectCommandBytes := by omega
    have hrest := walkEntries_of_fits path (total + (k.toUTF8.size + 3) + walkSize x) ms
      (by omega) hfits.2 hclean.2
    rw [Json.membersToPy, List.map_cons, walkEntries, bind_of_ok (raiseIf_of_not _ hkey),
      bind_of_ok (raiseIf_of_not _ hinsensitive),
      bind_of_ok (walkValue_of_fits s!"{path}.{k}" x hfits.1 hclean.1.2)]
    dsimp only
    rw [bind_of_ok (raiseIf_of_not _ hgrown), hrest]
    congr 1
    omega

end

/-! ## Canonical bytes are taken in -/

theorem fromUTF8_toUTF8 (text : String) : String.fromUTF8? text.toUTF8 = some text := by
  unfold String.fromUTF8?
  exact dif_pos text.isValidUTF8

/-- The digits of an integer, behind its sign. -/
theorem dropWhile_sign_repr (n : Int) :
    n.repr.toList.dropWhile (· = '-') = n.natAbs.repr.toList := by
  cases n with
  | ofNat m =>
    obtain ⟨c, tail, hdigits, hdigit⟩ := Loads.exists_repr m
    have hc : c ≠ '-' := by
      rintro rfl
      exact absurd hdigit (by decide)
    show m.repr.toList.dropWhile (· = '-') = m.repr.toList
    rw [hdigits, List.dropWhile_cons_of_neg (by simpa using hc)]
  | negSucc m =>
    obtain ⟨c, tail, hdigits, hdigit⟩ := Loads.exists_repr (m + 1)
    have hc : c ≠ '-' := by
      rintro rfl
      exact absurd hdigit (by decide)
    rw [Loads.toList_repr_negSucc, List.dropWhile_cons_of_pos (by decide)]
    show (m + 1).repr.toList.dropWhile (· = '-') = (m + 1).repr.toList
    rw [hdigits, List.dropWhile_cons_of_neg (by simpa using hc)]

/-- Minus zero is no way to write an integer. -/
theorem repr_ne_minus_zero (n : Int) : n.repr.toList ≠ ['-', '0'] := by
  intro h
  have hdigits := dropWhile_sign_repr n
  rw [h] at hdigits
  have hzero : n.natAbs = 0 := eq_of_toList_repr hdigits.symm
  rw [Int.natAbs_eq_zero.mp hzero] at h
  exact absurd h (by decide)

theorem parseCanonicalInteger_repr {n : Int}
    (h : -9223372036854775808 ≤ n ∧ n ≤ 9223372036854775807) :
    parseCanonicalInteger n.repr.toList = .ok (.int n) := by
  have hlength : ¬(n.repr.toList.dropWhile (· = '-')).length > 19 := by
    rw [dropWhile_sign_repr, String.length_toList, Nat.not_lt,
      Nat.length_repr_le_iff (by decide)]
    omega
  have hrange : ¬(n < -9223372036854775808 ∨ 9223372036854775807 < n) := by omega
  rw [parseCanonicalInteger, bind_of_ok (raiseIf_of_not _ (repr_ne_minus_zero n)),
    bind_of_ok (raiseIf_of_not _ hlength), JsonHooks.intOf_repr,
    bind_of_ok (raiseIf_of_not _ hrange)]
  rfl

theorem withoutDuplicates_of_nodup : ∀ (pairs result : List (String × Json)),
    ((result ++ pairs).map Prod.fst).Nodup →
      withoutDuplicates result pairs = .ok (result ++ pairs)
  | [], result, _ => congrArg Except.ok (List.append_nil result).symm
  | (key, value) :: pairs, result, h => by
    have hfresh : key ∉ result.map Prod.fst := by
      intro hin
      rw [List.map_append, List.nodup_append] at h
      exact h.2.2 key hin key (by simp) rfl
    have hsplit : result ++ (key, value) :: pairs = result ++ [(key, value)] ++ pairs := by simp
    rw [hsplit] at h ⊢
    rw [withoutDuplicates, bind_of_ok (raiseIf_of_not _ hfresh), assign_of_not_mem hfresh]
    exact withoutDuplicates_of_nodup pairs (result ++ [(key, value)]) h

mutual

/-- The hooks of the codec make a value within the bounds again. Mutual with the items of an array
and the members of an object. -/
theorem fold_commandHooks : ∀ {depth : Nat} (j : Json), Fits depth j → j.Distinct →
    commandHooks.fold j = .ok j
  | _, .null, _, _ => rfl
  | _, .bool _, _, _ => rfl
  | _, .int _, h, _ => parseCanonicalInteger_repr h.2
  | _, .str _, _, _ => rfl
  | _, .arr items, h, hdistinct =>
    map_ok_iff.mpr ⟨items, foldItems_commandHooks items h.2.2 hdistinct, rfl⟩
  | _, .obj members, h, hdistinct =>
    bind_ok_iff.mpr ⟨members, foldMembers_commandHooks members h.2.2 hdistinct.2,
      map_ok_iff.mpr ⟨members, withoutDuplicates_of_nodup members [] hdistinct.1, rfl⟩⟩

theorem foldItems_commandHooks : ∀ {depth : Nat} (items : List Json), FitsItems depth items →
    Json.DistinctItems items → commandHooks.foldItems items = .ok items
  | _, [], _, _ => rfl
  | _, x :: xs, h, hdistinct =>
    bind_ok_iff.mpr ⟨x, fold_commandHooks x h.1 hdistinct.1,
      bind_ok_iff.mpr ⟨xs, foldItems_commandHooks xs h.2 hdistinct.2, rfl⟩⟩

theorem foldMembers_commandHooks : ∀ {depth : Nat} (members : List (String × Json)),
    FitsMembers depth members → Json.DistinctMembers members →
      commandHooks.foldMembers members = .ok members
  | _, [], _, _ => rfl
  | _, (_, x) :: ms, h, hdistinct =>
    bind_ok_iff.mpr ⟨x, fold_commandHooks x h.1 hdistinct.1,
      bind_ok_iff.mpr ⟨ms, foldMembers_commandHooks ms h.2 hdistinct.2, rfl⟩⟩

end

mutual

/-- Mutual with the items of an array and the members of an object. -/
theorem fold_jsonHooks : ∀ j : Json, j.Distinct → jsonHooks.fold j = .ok j
  | .null, _ => rfl
  | .bool _, _ => rfl
  | .int n, _ => congrArg (fun i => Except.ok (Json.int i)) (JsonHooks.intOf_repr n)
  | .str _, _ => rfl
  | .arr items, h => map_ok_iff.mpr ⟨items, foldItems_jsonHooks items h, rfl⟩
  | .obj members, h =>
    bind_ok_iff.mpr ⟨members, foldMembers_jsonHooks members h.2,
      congrArg (fun ms => Except.ok (Json.obj ms)) (dictOf_of_nodup h.1)⟩

theorem foldItems_jsonHooks : ∀ items : List Json, Json.DistinctItems items →
    jsonHooks.foldItems items = .ok items
  | [], _ => rfl
  | x :: xs, h =>
    bind_ok_iff.mpr ⟨x, fold_jsonHooks x h.1,
      bind_ok_iff.mpr ⟨xs, foldItems_jsonHooks xs h.2, rfl⟩⟩

theorem foldMembers_jsonHooks : ∀ members : List (String × Json), Json.DistinctMembers members →
    jsonHooks.foldMembers members = .ok members
  | [], _ => rfl
  | (_, x) :: ms, h =>
    bind_ok_iff.mpr ⟨x, fold_jsonHooks x h.1,
      bind_ok_iff.mpr ⟨ms, foldMembers_jsonHooks ms h.2, rfl⟩⟩

end

/-- A document that the codec may store: its objects have no key twice and no sensitive one, and it
is within every bound. -/
structure Storable (j : Json) : Prop where
  distinct : j.Distinct
  clean : keysClean j = true
  fits : Fits 0 j
  short : (canonicalJsonBytes j).size ≤ maxEffectCommandBytes

namespace Storable

variable {j : Json} {members : List (String × Json)}

theorem sorted (h : Storable j) : Storable j.sorted where
  distinct := j.distinct_sorted h.distinct
  clean := keysClean_sorted j h.clean
  fits := fits_sorted j h.fits
  short := by
    rw [canonicalJsonBytes_sorted]
    exact h.short

/-- A document in another order may be stored as well. -/
theorem of_sorted (h : Storable j.sorted) (hdistinct : j.Distinct) : Storable j where
  distinct := hdistinct
  clean := keysClean_of_sorted j h.clean
  fits := fits_of_sorted j h.fits
  short := by
    rw [← canonicalJsonBytes_sorted]
    exact h.short

theorem boundedBytes_toPy (h : Storable j) : boundedBytes j.toPy = .ok (canonicalJsonBytes j) := by
  have hprimitive : raisedAs "effect command is not canonical JSON"
      (toCanonicalPrimitive j.toPy) = .ok j := raisedAs_ok_iff.mpr (primitive_toPy j h.distinct)
  rw [boundedBytes, bind_of_ok (walkValue_of_fits "$" j h.fits h.clean), bind_of_ok hprimitive,
    bind_of_ok (raiseIf_of_not _ (Nat.not_lt.mpr h.short))]
  rfl

/-- **A mapping within the bounds is taken in**, with its members in order. -/
theorem coerceMapping (h : Storable (.obj members)) :
    coerceMapping ((Json.membersToPy members).map fun m => (some m.1, m.2)) =
      .ok (Json.sortedMembers members) := by
  have hwalk := walkValue_of_fits "$" (.obj members) h.fits h.clean
  have hbytes := h.boundedBytes_toPy
  have hloads : jsonHooks.loads (canonicalJson (.obj members)) =
      .ok (Json.obj members).sorted :=
    JsonHooks.loads_render (fold_jsonHooks _ h.sorted.distinct)
  rw [Json.toPy] at hwalk hbytes
  rw [ControlPlane.coerceMapping, bind_of_ok hwalk, bind_of_ok hbytes, canonicalJsonBytes,
    fromUTF8_toUTF8, Option.map_some, hloads]
  rfl

/-- **The canonical bytes of an object within the bounds are taken in.** -/
theorem coerceRaw (h : Storable (.obj members)) :
    coerceRaw (canonicalJsonBytes (.obj members)) = .ok (Json.sortedMembers members) := by
  have hsize : ¬(canonicalJsonBytes (.obj members)).size > maxEffectCommandBytes :=
    Nat.not_lt.mpr h.short
  have hloads : commandHooks.loads (canonicalJson (.obj members)) =
      .ok (Json.obj members).sorted :=
    JsonHooks.loads_render (fold_commandHooks _ h.sorted.fits h.sorted.distinct)
  have hbytes : boundedBytes (Json.obj (Json.sortedMembers members)).toPy =
      .ok (canonicalJsonBytes (Json.obj members).sorted) := h.sorted.boundedBytes_toPy
  have hobject : asObject (Json.obj members).sorted = .ok (Json.sortedMembers members) := rfl
  have hcanonical : ¬canonicalJsonBytes (.obj members) ≠
      canonicalJsonBytes (Json.obj members).sorted := by
    rw [canonicalJsonBytes_sorted, not_not]
  rw [ControlPlane.coerceRaw, bind_of_ok (raiseIf_of_not _ hsize)]
  rw [show String.fromUTF8? (canonicalJsonBytes (.obj members)) = _ from fromUTF8_toUTF8 _,
    bind_of_ok (someOr_ok_iff.mpr rfl), hloads]
  dsimp only
  rw [bind_of_ok hobject, bind_of_ok hbytes, bind_of_ok (raiseIf_of_not _ hcanonical)]
  rfl

end Storable

/-! ## What is taken in -/

/-- The canonical bytes of a payload: those of the value it is, or is the text of. -/
def CommandPayload.canonicalBytes : CommandPayload → Option ByteArray
  | .mapping items => canonicalBytesOf (.mapping items)
  | .text value => (loads value).bind canonicalBytesOf
  | .bytes value => ((String.fromUTF8? value).bind loads).bind canonicalBytesOf
  | .other => none
where
  canonicalBytesOf (value : Evidence) : Option ByteArray :=
    ((toCanonicalPrimitive value).map canonicalJsonBytes).toOption

/-- The bytes of a payload that is text already. -/
def CommandPayload.raw : CommandPayload → Option ByteArray
  | .text value => some value.toUTF8
  | .bytes value => some value
  | _ => none

theorem boundedBytes_ok {value : Evidence} {bytes : ByteArray} (h : boundedBytes value = .ok bytes) :
    ∃ j, toCanonicalPrimitive value = .ok j ∧ canonicalJsonBytes j = bytes := by
  unfold boundedBytes at h
  obtain ⟨_, -, h⟩ := bind_ok_iff.mp h
  obtain ⟨j, hj, h⟩ := bind_ok_iff.mp h
  obtain ⟨_, -, h⟩ := bind_ok_iff.mp h
  exact ⟨j, raisedAs_ok_iff.mp hj, pure_ok_iff.mp h⟩

/-- Bytes that are taken in are the canonical bytes of what they are the text of. -/
theorem canonicalBytes_of_coerceRaw {raw bytes : ByteArray} {members : List (String × Json)}
    (h : coerceRaw raw = .ok members) (hbytes : boundedBytes (Json.obj members).toPy = .ok bytes) :
    raw = bytes ∧ ((String.fromUTF8? raw).bind loads).bind
      CommandPayload.canonicalBytes.canonicalBytesOf = some bytes := by
  unfold coerceRaw at h
  obtain ⟨_, -, h⟩ := bind_ok_iff.mp h
  obtain ⟨decoded, -, h⟩ := bind_ok_iff.mp h
  split at h
  · exact absurd h (by simp)
  · exact absurd h (by simp)
  next parsed hparsed =>
    obtain ⟨read, hread, h⟩ := bind_ok_iff.mp h
    obtain ⟨canonical, hcanonical, h⟩ := bind_ok_iff.mp h
    obtain ⟨_, hsame, h⟩ := bind_ok_iff.mp h
    obtain rfl : read = members := pure_ok_iff.mp h
    obtain rfl : canonical = bytes := Except.ok.inj (hcanonical.symm.trans hbytes)
    have hraw : raw = canonical := not_not.mp (raiseIf_ok_iff.mp hsame)
    refine ⟨hraw, ?_⟩
    obtain ⟨j, hj, rfl⟩ := boundedBytes_ok hcanonical
    obtain ⟨again, hloads, hagain, -⟩ := loads_canonicalJson hj
    rw [hraw, canonicalJsonBytes, fromUTF8_toUTF8, Option.bind_some, hloads, Option.bind_some,
      CommandPayload.canonicalBytes.canonicalBytesOf, hagain]
    exact congrArg some (canonicalJsonBytes_sorted j)

/-- **What is taken in has the canonical bytes of the payload.** -/
theorem canonicalBytes_of_coerce {payload : CommandPayload} {members : List (String × Json)}
    {bytes : ByteArray} (h : coercePayload payload = .ok members)
    (hbytes : boundedBytes (Json.obj members).toPy = .ok bytes) :
    payload.canonicalBytes = some bytes ∧ ∀ raw ∈ payload.raw, raw = bytes := by
  cases payload with
  | mapping items =>
    refine ⟨?_, fun raw hraw => absurd hraw (by simp [CommandPayload.raw])⟩
    have hcoerce : coerceMapping items = .ok members := h
    unfold coerceMapping at hcoerce
    obtain ⟨_, -, hcoerce⟩ := bind_ok_iff.mp hcoerce
    obtain ⟨canonical, hcanonical, hcoerce⟩ := bind_ok_iff.mp hcoerce
    obtain ⟨j, hj, rfl⟩ := boundedBytes_ok hcanonical
    have hdistinct := j.distinct_sorted (distinct_of_primitive _ hj)
    have hloads : jsonHooks.loads (canonicalJson j) = .ok j.sorted :=
      JsonHooks.loads_render (fold_jsonHooks _ hdistinct)
    rw [canonicalJsonBytes, fromUTF8_toUTF8, Option.map_some, hloads] at hcoerce
    have hobject : j.sorted = .obj members := by
      dsimp only at hcoerce
      unfold asObject at hcoerce
      split at hcoerce
      next heq => rw [heq, Except.ok.inj hcoerce]
      next => exact absurd hcoerce (by simp)
    obtain ⟨again, hagain, rfl⟩ := boundedBytes_ok hbytes
    rw [← hobject, primitive_toPy _ hdistinct] at hagain
    rw [← Except.ok.inj hagain, canonicalJsonBytes_sorted, CommandPayload.canonicalBytes,
      CommandPayload.canonicalBytes.canonicalBytesOf, hj]
    rfl
  | text value =>
    obtain ⟨hraw, hcanonical⟩ := canonicalBytes_of_coerceRaw h hbytes
    rw [fromUTF8_toUTF8, Option.bind_some] at hcanonical
    refine ⟨hcanonical, fun raw hin => ?_⟩
    rw [← Option.some.inj hin, hraw]
  | bytes value =>
    obtain ⟨hraw, hcanonical⟩ := canonicalBytes_of_coerceRaw h hbytes
    refine ⟨hcanonical, fun raw hin => ?_⟩
    rw [← Option.some.inj hin, hraw]
  | other => exact absurd h (by simp [coercePayload])

end Retrywise.ControlPlane
