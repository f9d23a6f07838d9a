import Retrywise.Foundation.JsonHooks

/-!
# Decoded JSON documents

What `json.loads` makes of a text when it is given no hooks, and what it raises: a text that is
no JSON, an integer of more digits than the interpreter converts, or arrays and objects nested
deeper than it recurses. The three are raised where the reader meets them, from left to right.
-/

namespace Retrywise.Foundation

/-- A decoded document. A number with a fraction or an exponent is kept as it was written. -/
inductive JsonDocument where
  | null
  | bool (value : Bool)
  | int (value : Int)
  | float (token : List Char)
  | str (value : String)
  | array (items : List JsonDocument)
  | object (members : List (String × JsonDocument))

/-- What the decoder raises. -/
inductive LoadsRaise where
  | decodeError | valueError | recursionError
deriving DecidableEq, Repr

namespace JsonDocument

/-- `value.get(key)`, of a value that is an object. -/
def get? : JsonDocument → String → Option JsonDocument
  | .object members, key => members.lookup key
  | _, _ => none

/-- Arrays and objects have no hash. -/
def hashable : JsonDocument → Bool
  | .array _ => false
  | .object _ => false
  | _ => true

mutual

/-- A document without floating point: `None` stands where a float stood. -/
def toJson : JsonDocument → Json
  | .null => .null
  | .bool value => .bool value
  | .int value => .int value
  | .float _ => .null
  | .str value => .str value
  | .array items => .arr (itemsToJson items)
  | .object members => .obj (membersToJson members)

def itemsToJson : List JsonDocument → List Json
  | [] => []
  | item :: items => item.toJson :: itemsToJson items

def membersToJson : List (String × JsonDocument) → List (String × Json)
  | [] => []
  | (key, value) :: members => (key, value.toJson) :: membersToJson members

end

theorem keys_membersToJson (members : List (String × JsonDocument)) :
    (membersToJson members).map Prod.fst = members.map Prod.fst := by
  induction members with
  | nil => rfl
  | cons member members ih => rw [membersToJson, List.map_cons, ih, List.map_cons]

theorem get?_membersToJson (members : List (String × JsonDocument)) (key : String) :
    (Json.obj (membersToJson members)).get? key = (members.lookup key).map toJson := by
  induction members with
  | nil => rfl
  | cons member members ih =>
    obtain ⟨name, value⟩ := member
    rw [Json.get?, membersToJson, List.lookup_cons]
    by_cases hkey : name = key
    · rw [List.find?_cons_of_pos (by simpa using hkey), hkey, beq_self_eq_true]
      rfl
    · rw [List.find?_cons_of_neg (by simpa using hkey),
        beq_eq_false_iff_ne.mpr fun h => hkey h.symm]
      exact ih

/-! ## The decoder -/

/-- `int(..)` of a literal: more than 4300 digits are not converted. -/
def parseInt (token : List Char) : Except LoadsRaise JsonDocument :=
  if (token.dropWhile (· = '-')).length > 4300 then .error .valueError
  else .ok (.int (JsonHooks.intOf token))

/-- The parts of a text, with the last value of a key. -/
def documentHooks : JsonHooks LoadsRaise JsonDocument where
  null := .null
  bool := .bool
  str := .str
  array := .array
  objectPairs pairs := .ok (.object (dictOf pairs))
  parseInt := parseInt
  parseFloat token := .ok (.float token)
  parseConstant token := .ok (.float token)

open Loads (skip string)

/-- What a hook raised, or what the text is not. -/
def raised {α : Type} (call : Except (Option LoadsRaise) α) : Except LoadsRaise α :=
  call.mapError fun e => e.getD .decodeError

mutual

/-- `scan_once`, with so many levels left to recurse into. -/
def value (depth : Nat) : Nat → List Char → Except LoadsRaise (JsonDocument × List Char)
  | 0, _ => .error .decodeError
  | fuel + 1, text =>
    match text with
    | '"' :: rest => do
      let (read, rest) ← someOr (string rest) .decodeError
      return (.str read, rest)
    | '[' :: rest =>
      match depth with
      | 0 => .error .recursionError
      | depth + 1 =>
        match skip rest with
        | ']' :: rest => return (.array [], rest)
        | rest => do
          let (read, rest) ← items depth fuel rest
          return (.array read, rest)
    | '{' :: rest =>
      match depth with
      | 0 => .error .recursionError
      | depth + 1 =>
        match skip rest with
        | '}' :: rest => return (.object [], rest)
        | rest => do
          let (read, rest) ← members depth fuel rest
          return (.object (dictOf read), rest)
    | _ => raised (documentHooks.scalar text)

/-- The items of an array, from the next one on. -/
def items (depth : Nat) : Nat → List Char → Except LoadsRaise (List JsonDocument × List Char)
  | 0, _ => .error .decodeError
  | fuel + 1, text => do
    let (read, rest) ← value depth fuel text
    match skip rest with
    | ',' :: rest =>
      let (more, rest) ← items depth fuel (skip rest)
      return (read :: more, rest)
    | ']' :: rest => return ([read], rest)
    | _ => .error .decodeError

/-- The members of an object, from the next key on. -/
def members (depth : Nat) :
    Nat → List Char → Except LoadsRaise (List (String × JsonDocument) × List Char)
  | 0, _ => .error .decodeError
  | fuel + 1, text =>
    match text with
    | '"' :: rest => do
      let (key, rest) ← someOr (string rest) .decodeError
      match skip rest with
      | ':' :: rest =>
        let (read, rest) ← value depth fuel (skip rest)
        match skip rest with
        | ',' :: rest =>
          let (more, rest) ← members depth fuel (skip rest)
          return ((key, read) :: more, rest)
        | '}' :: rest => return ([(key, read)], rest)
        | _ => .error .decodeError
      | _ => .error .decodeError
    | _ => .error .decodeError

end

/-- `json.loads`, of an interpreter that recurses so many levels deep. -/
def loads (recursionLimit : Nat) (text : String) : Except LoadsRaise JsonDocument := do
  let (read, rest) ← value recursionLimit (text.toList.length + 1) (skip text.toList)
  if skip rest = [] then .ok read else .error .decodeError

end JsonDocument

end Retrywise.Foundation
