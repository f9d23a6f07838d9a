import Retrywise.Foundation.CalendarText
import Retrywise.Foundation.JsonOrder

/-!
# Reading JSON

The values of a language with integers, floating point, decimals and dates, and the reader
that makes them of a JSON text: white space may stand between the parts, an object keeps the
last value of a key, and a number with a fraction or an exponent is floating point.

A text here is Unicode. An escape can name half of a surrogate pair, which no such text holds;
it is read as the replacement character. The limits an interpreter sets itself, on the depth
of a text and on the digits of a number, are not here.

> `string_quoteRest`: a quoted string is read back.
-/

namespace Retrywise.Foundation

/-! ## Values -/

/-- The values of the language, over its decimals. -/
inductive PyValue (δ : Type) where
  | none
  | bool (value : Bool)
  | int (value : Int)
  | float
  | str (value : String)
  | decimal (value : δ)
  | datetime (value : Datetime)
  /-- A member of an enumeration, or an object that gives a primitive of itself. -/
  | standsFor (value : PyValue δ)
  /-- A key that is no string is `none`. -/
  | mapping (items : List (Option String × PyValue δ))
  | sequence (items : List (PyValue δ))
  | other (typeName : String)

/-- `isinstance(value, Mapping)`. -/
def PyValue.isMapping {δ : Type} : PyValue δ → Bool
  | .mapping _ => true
  | _ => false

section

variable {α : Type}

/-- `d[key] = value`. -/
def assign (key : String) (value : α) : List (String × α) → List (String × α)
  | [] => [(key, value)]
  | (k, v) :: rest => if k = key then (k, value) :: rest else (k, v) :: assign key value rest

/-- `dict(pairs)`. -/
def dictOf (pairs : List (String × α)) : List (String × α) :=
  pairs.foldl (fun d pair => assign pair.1 pair.2 d) []

theorem keys_assign (key : String) (value : α) (d : List (String × α)) :
    (assign key value d).map Prod.fst =
      if key ∈ d.map Prod.fst then d.map Prod.fst else d.map Prod.fst ++ [key] := by
  induction d with
  | nil => rfl
  | cons m rest ih =>
    obtain ⟨k, v⟩ := m
    rw [assign]
    by_cases hk : k = key
    · rw [if_pos hk, if_pos (by simp [hk])]
      rfl
    · rw [if_neg hk, List.map_cons, ih, List.map_cons]
      have hne : ¬key = k := fun h => hk h.symm
      by_cases hin : key ∈ rest.map Prod.fst
      · rw [if_pos hin, if_pos (List.mem_cons_of_mem _ hin)]
      · rw [if_neg hin, if_neg (by simp [hne, hin])]
        rfl

theorem nodup_keys_assign {key : String} {value : α} {d : List (String × α)}
    (h : (d.map Prod.fst).Nodup) : ((assign key value d).map Prod.fst).Nodup := by
  rw [keys_assign]
  by_cases hin : key ∈ d.map Prod.fst
  · rw [if_pos hin]
    exact h
  · rw [if_neg hin]
    exact List.nodup_append.mpr ⟨h, List.nodup_singleton _, by
      intro a ha b hb hab
      rw [List.mem_singleton] at hb
      exact hin (hb ▸ hab ▸ ha)⟩

/-- A new key goes behind the others. -/
theorem assign_of_not_mem {key : String} {value : α} {d : List (String × α)}
    (h : key ∉ d.map Prod.fst) : assign key value d = d ++ [(key, value)] := by
  induction d with
  | nil => rfl
  | cons m rest ih =>
    obtain ⟨k, v⟩ := m
    have hk : ¬k = key := fun he => h (by simp [he])
    rw [assign, if_neg hk, ih fun hin => h (List.mem_cons_of_mem _ hin)]
    rfl

theorem foldl_assign {ms d : List (String × α)} (h : ((d ++ ms).map Prod.fst).Nodup) :
    ms.foldl (fun d pair => assign pair.1 pair.2 d) d = d ++ ms := by
  induction ms generalizing d with
  | nil => exact (List.append_nil d).symm
  | cons m ms ih =>
    have hfresh : m.1 ∉ d.map Prod.fst := by
      intro hin
      rw [List.map_append, List.nodup_append] at h
      exact h.2.2 m.1 hin m.1 (by simp) rfl
    rw [List.foldl_cons, assign_of_not_mem hfresh, ih]
    · rw [List.append_assoc]
      rfl
    · rw [List.append_assoc]
      exact h

/-- Members with different keys are a dictionary as they stand. -/
theorem dictOf_of_nodup {ms : List (String × α)} (h : (ms.map Prod.fst).Nodup) :
    dictOf ms = ms := foldl_assign h

end

namespace Json

mutual

/-- The value that a JSON value is read as. -/
def toPy {δ : Type} : Json → PyValue δ
  | .null => .none
  | .bool b => .bool b
  | .int n => .int n
  | .str s => .str s
  | .arr xs => .sequence (itemsToPy xs)
  | .obj ms => .mapping ((membersToPy ms).map fun m => (some m.1, m.2))

def itemsToPy {δ : Type} : List Json → List (PyValue δ)
  | [] => []
  | x :: xs => x.toPy :: itemsToPy xs

def membersToPy {δ : Type} : List (String × Json) → List (String × PyValue δ)
  | [] => []
  | (k, x) :: ms => (k, x.toPy) :: membersToPy ms

end

mutual

/-- No object of the value has a key twice. -/
def Distinct : Json → Prop
  | .arr xs => DistinctItems xs
  | .obj ms => (ms.map Prod.fst).Nodup ∧ DistinctMembers ms
  | .null => True
  | .bool _ => True
  | .int _ => True
  | .str _ => True

def DistinctItems : List Json → Prop
  | [] => True
  | x :: xs => x.Distinct ∧ DistinctItems xs

def DistinctMembers : List (String × Json) → Prop
  | [] => True
  | (_, x) :: ms => x.Distinct ∧ DistinctMembers ms

end

theorem keys_membersToPy {δ : Type} (ms : List (String × Json)) :
    (membersToPy (δ := δ) ms).map Prod.fst = ms.map Prod.fst := by
  induction ms with
  | nil => rfl
  | cons m ms ih =>
    obtain ⟨k, x⟩ := m
    rw [membersToPy, List.map_cons, List.map_cons, ih]

end Json

/-! ## Strings -/

namespace Loads

variable {δ : Type}

def isBlank (c : Char) : Bool := c = ' ' || c = '\t' || c = '\n' || c = '\r'

def skip (text : List Char) : List Char := text.dropWhile isBlank

def hexValue (c : Char) : Option Nat :=
  if c.isDigit then some (c.toNat - 48)
  else if 'a' ≤ c ∧ c ≤ 'f' then some (c.toNat - 87)
  else if 'A' ≤ c ∧ c ≤ 'F' then some (c.toNat - 55)
  else none

def hexValue4 (a b c d : Char) : Option Nat := do
  return ((← hexValue a) * 16 + (← hexValue b)) * 256 + ((← hexValue c) * 16 + (← hexValue d))

/-- The character behind a backslash that is no `u`. -/
def escaped (c : Char) : Option Char :=
  if c = '"' then some '"'
  else if c = '\\' then some '\\'
  else if c = '/' then some '/'
  else if c = 'b' then some '\x08'
  else if c = 'f' then some '\x0c'
  else if c = 'n' then some '\n'
  else if c = 'r' then some '\r'
  else if c = 't' then some '\t'
  else none

/-- The code units of a string up to its closing quote, and what stands behind it. -/
def units : List Char → Option (List Nat × List Char)
  | [] => none
  | '"' :: rest => some ([], rest)
  | '\\' :: 'u' :: a :: b :: c :: d :: rest => do
    let unit ← hexValue4 a b c d
    let (more, rest) ← units rest
    return (unit :: more, rest)
  | '\\' :: c :: rest => do
    let char ← escaped c
    let (more, rest) ← units rest
    return (char.toNat :: more, rest)
  | c :: rest => do
    guard (32 ≤ c.toNat)
    let (more, rest) ← units rest
    return (c.toNat :: more, rest)

def isHigh (unit : Nat) : Bool := 0xD800 ≤ unit && unit < 0xDC00

def isLow (unit : Nat) : Bool := 0xDC00 ≤ unit && unit < 0xE000

/-- The character of a code unit; half of a surrogate pair has none. -/
def charOf (unit : Nat) : Char := if unit.isValidChar then Char.ofNat unit else '\uFFFD'

/-- Two halves of a surrogate pair are one character. -/
def join : List Nat → List Char
  | high :: low :: rest =>
    if isHigh high && isLow low then
      Char.ofNat (0x10000 + (high - 0xD800) * 0x400 + (low - 0xDC00)) :: join rest
    else charOf high :: join (low :: rest)
  | [unit] => [charOf unit]
  | [] => []

/-- A string behind its opening quote. -/
def string (text : List Char) : Option (String × List Char) :=
  (units text).map fun (read, rest) => (String.ofList (join read), rest)

/-! ## Numbers -/

/-- `(\.\d+)?`. -/
def fraction : List Char → List Char
  | '.' :: c :: rest => if c.isDigit then rest.dropWhile Char.isDigit else '.' :: c :: rest
  | text => text

/-- `\d+` of an exponent, behind its sign. -/
def exponentDigits : List Char → Option (List Char)
  | c :: rest => if c.isDigit then some (rest.dropWhile Char.isDigit) else none
  | [] => none

/-- `([eE][-+]?\d+)?`. -/
def exponent (text : List Char) : List Char :=
  match text with
  | e :: rest =>
    if e = 'e' ∨ e = 'E' then
      match rest with
      | '-' :: digits => (exponentDigits digits).getD text
      | '+' :: digits => (exponentDigits digits).getD text
      | digits => (exponentDigits digits).getD text
    else text
  | [] => text

/-- The number with this integer part: floating point if more belongs to it. -/
def number (whole : Int) (rest : List Char) : PyValue δ × List Char :=
  let behind := exponent (fraction rest)
  if behind.length = rest.length then (.int whole, rest) else (.float, behind)

/-- `0|[1-9]\d*`, and the rest of the number. -/
def magnitude (sign : Int) : List Char → Option (PyValue δ × List Char)
  | [] => none
  | c :: rest =>
    if c = '0' then some (number 0 rest)
    else if c.isDigit then
      let digits := (c :: rest).takeWhile Char.isDigit
      some (number (sign * (Nat.ofDigitChars 10 digits 0 : Nat)) (rest.dropWhile Char.isDigit))
    else none

/-! ## Values -/

/-- What a word stands for, if the text starts with it. -/
def word (name : List Char) (value : PyValue δ) (text : List Char) :
    Option (PyValue δ × List Char) :=
  if name.isPrefixOf text then some (value, text.drop name.length) else none

/-- A value that is no string, array or object. -/
def scalar (text : List Char) : Option (PyValue δ × List Char) :=
  match text with
  | 'n' :: _ => word ['n', 'u', 'l', 'l'] .none text
  | 't' :: _ => word ['t', 'r', 'u', 'e'] (.bool true) text
  | 'f' :: _ => word ['f', 'a', 'l', 's', 'e'] (.bool false) text
  | 'N' :: _ => word ['N', 'a', 'N'] .float text
  | 'I' :: _ => word ['I', 'n', 'f', 'i', 'n', 'i', 't', 'y'] .float text
  | '-' :: 'I' :: _ => word ['-', 'I', 'n', 'f', 'i', 'n', 'i', 't', 'y'] .float text
  | '-' :: rest => magnitude (-1) rest
  | _ => magnitude 1 text

mutual

/-- `scan_once`. -/
def value : Nat → List Char → Option (PyValue δ × List Char)
  | 0, _ => none
  | fuel + 1, text =>
    match text with
    | '"' :: rest => (string rest).map fun (read, rest) => (.str read, rest)
    | '[' :: rest =>
      match skip rest with
      | ']' :: rest => some (.sequence [], rest)
      | rest => (items fuel rest).map fun (read, rest) => (.sequence read, rest)
    | '{' :: rest =>
      match skip rest with
      | '}' :: rest => some (.mapping [], rest)
      | rest => (members fuel rest).map fun (read, rest) =>
          (.mapping ((dictOf read).map fun m => (some m.1, m.2)), rest)
    | _ => scalar text

/-- The items of an array, from the next one on. -/
def items : Nat → List Char → Option (List (PyValue δ) × List Char)
  | 0, _ => none
  | fuel + 1, text => do
    let (read, rest) ← value fuel text
    match skip rest with
    | ',' :: rest =>
      let (more, rest) ← items fuel (skip rest)
      return (read :: more, rest)
    | ']' :: rest => return ([read], rest)
    | _ => none

/-- The members of an object, from the next key on. -/
def members : Nat → List Char → Option (List (String × PyValue δ) × List Char)
  | 0, _ => none
  | fuel + 1, text =>
    match text with
    | '"' :: rest => do
      let (key, rest) ← string rest
      match skip rest with
      | ':' :: rest =>
        let (read, rest) ← value fuel (skip rest)
        match skip rest with
        | ',' :: rest =>
          let (more, rest) ← members fuel (skip rest)
          return ((key, read) :: more, rest)
        | '}' :: rest => return ([(key, read)], rest)
        | _ => none
      | _ => none
    | _ => none

end

end Loads

/-- `json.loads`; `none` where it raises a decode error. -/
def loads {δ : Type} (text : String) : Option (PyValue δ) :=
  match Loads.value (text.toList.length + 1) (Loads.skip text.toList) with
  | some (read, rest) => if Loads.skip rest = [] then some read else none
  | none => none

/-! ## Strings are read back -/

namespace Loads

theorem hexValue_digitChar : ∀ n < 16, hexValue (Nat.digitChar n) = some n := by decide

/-- What is read in front of the rest of a string. -/
theorem units_of_escaped {c e : Char} {rest : List Char} (h : escaped e = some c) (hu : e ≠ 'u') :
    units ('\\' :: e :: rest) = (units rest).map fun read => (c.toNat :: read.1, read.2) := by
  cases hrest : units rest with
  | none => simp [units, h, hu, hrest]
  | some read => simp [units, h, hu, hrest]

theorem units_of_plain {c : Char} {rest : List Char} (hquote : c ≠ '"') (hslash : c ≠ '\\')
    (hcontrol : 32 ≤ c.toNat) :
    units (c :: rest) = (units rest).map fun read => (c.toNat :: read.1, read.2) := by
  cases hrest : units rest with
  | none => simp [units, hslash, hrest]
  | some read => simp [units, hslash, hcontrol, hrest]

theorem units_of_control {c : Char} {rest : List Char} (h : c.toNat < 32) :
    units ('\\' :: 'u' :: '0' :: '0' :: Nat.digitChar (c.toNat / 16) ::
        Nat.digitChar (c.toNat % 16) :: rest) =
      (units rest).map fun read => (c.toNat :: read.1, read.2) := by
  have hhi := hexValue_digitChar (c.toNat / 16) (by omega)
  have hlo := hexValue_digitChar (c.toNat % 16) (by omega)
  have hzero : hexValue '0' = some 0 := rfl
  have hunit : hexValue4 '0' '0' (Nat.digitChar (c.toNat / 16)) (Nat.digitChar (c.toNat % 16)) =
      some c.toNat := by
    simp only [hexValue4, hzero, hhi, hlo, bind, Option.bind, pure]
    congr 1
    omega
  cases hrest : units rest with
  | none => simp [units, hunit, hrest]
  | some read => simp [units, hunit, hrest]

/-- An escaped character is read as its code unit. -/
theorem units_escapeChar (c : Char) (rest : List Char) :
    units (escapeChar c ++ rest) = (units rest).map fun read => (c.toNat :: read.1, read.2) := by
  unfold escapeChar
  split_ifs with h₁ h₂ h₃ h₄ h₅ h₆ h₇ h₈
  · subst h₁
    exact units_of_escaped rfl (by decide)
  · subst h₂
    exact units_of_escaped rfl (by decide)
  · subst h₃
    exact units_of_escaped rfl (by decide)
  · subst h₄
    exact units_of_escaped rfl (by decide)
  · subst h₅
    exact units_of_escaped rfl (by decide)
  · subst h₆
    exact units_of_escaped rfl (by decide)
  · subst h₇
    exact units_of_escaped rfl (by decide)
  · exact units_of_control h₈
  · exact units_of_plain h₁ h₂ (by omega)

theorem units_quoteRest (cs rest : List Char) :
    units (quoteRest cs ++ rest) = some (cs.map Char.toNat, rest) := by
  induction cs with
  | nil => rfl
  | cons c cs ih =>
    rw [quoteRest, List.append_assoc, units_escapeChar, ih]
    rfl

/-- No character is half of a surrogate pair. -/
theorem isHigh_toNat (c : Char) : isHigh c.toNat = false := by
  have hvalid : c.toNat < 0xD800 ∨ 0xDFFF < c.toNat ∧ c.toNat < 0x110000 := c.valid
  simp only [isHigh, Bool.and_eq_false_iff, decide_eq_false_iff_not]
  omega

theorem charOf_toNat (c : Char) : charOf c.toNat = c := by
  have hvalid : c.toNat.isValidChar := c.valid
  rw [charOf, if_pos hvalid, Char.ofNat_toNat]

theorem join_map_toNat : ∀ cs : List Char, join (cs.map Char.toNat) = cs
  | [] => rfl
  | [c] => by
    show [charOf c.toNat] = [c]
    rw [charOf_toNat]
  | c :: d :: cs => by
    have hrest := join_map_toNat (d :: cs)
    show join (c.toNat :: d.toNat :: cs.map Char.toNat) = _
    rw [join, isHigh_toNat, Bool.false_and, if_neg (by decide), charOf_toNat]
    exact congrArg _ hrest

/-- **A quoted string is read back.** -/
theorem string_quoteRest (s : String) (rest : List Char) :
    string (quoteRest s.toList ++ rest) = some (s, rest) := by
  rw [string, units_quoteRest, Option.map_some]
  dsimp only
  rw [join_map_toNat, String.ofList_toList]

/-! ## What stands around a value -/

/-- What stands behind a value of a canonical text: nothing, or a comma or bracket. -/
def Closes (rest : List Char) : Prop :=
  ∀ c tail, rest = c :: tail → c = ',' ∨ c = ']' ∨ c = '}'

theorem closes_nil : Closes [] := fun _ _ h => absurd h (by simp)

theorem closes_cons {c : Char} {tail : List Char} (h : c = ',' ∨ c = ']' ∨ c = '}') :
    Closes (c :: tail) := by
  intro d rest he
  rw [← (List.cons.inj he).1]
  exact h

theorem fraction_of_closes {rest : List Char} (h : Closes rest) : fraction rest = rest := by
  unfold fraction
  split
  next c tail =>
    rcases h '.' (c :: tail) rfl with hc | hc | hc
    · exact absurd hc (by decide)
    · exact absurd hc (by decide)
    · exact absurd hc (by decide)
  next => rfl

theorem exponent_of_closes {rest : List Char} (h : Closes rest) : exponent rest = rest := by
  cases rest with
  | nil => rfl
  | cons c tail =>
    have hnot : ¬(c = 'e' ∨ c = 'E') := by
      rcases h c tail rfl with rfl | rfl | rfl
      · decide
      · decide
      · decide
    exact if_neg hnot

/-- No digit stands behind a value. -/
theorem dropWhile_of_closes {rest : List Char} (h : Closes rest) :
    rest.dropWhile Char.isDigit = rest := by
  cases rest with
  | nil => rfl
  | cons c tail =>
    have hnot : ¬c.isDigit = true := by
      rcases h c tail rfl with rfl | rfl | rfl
      · decide
      · decide
      · decide
    exact List.dropWhile_cons_of_neg hnot

/-- The digits of a positive number do not start with a zero. -/
theorem head_toDigits_ne_zero (n : Nat) (h : 0 < n) :
    ∀ c tail, Nat.toDigits 10 n = c :: tail → c ≠ '0' := by
  induction n using Nat.strongRecOn with
  | ind n ih =>
    intro c tail hdigits
    by_cases hsmall : n < 10
    · rw [Nat.toDigits_of_lt_base hsmall] at hdigits
      rw [← (List.cons.inj hdigits).1]
      revert hsmall h
      have hall : ∀ m < 10, 0 < m → Nat.digitChar m ≠ '0' := by decide
      exact fun hpos hlt => hall n hlt hpos
    · rw [Nat.toDigits_of_base_le (by decide) (by omega)] at hdigits
      -- the leading digit is that of the number without its last digit
      cases hfront : Nat.toDigits 10 (n / 10) with
      | nil => exact absurd hfront Nat.toDigits_ne_nil
      | cons d more =>
        rw [hfront, List.cons_append] at hdigits
        rw [← (List.cons.inj hdigits).1]
        exact ih (n / 10) (by omega) (by omega) d more hfront

/-- The digits of a number are some. -/
theorem exists_repr (n : Nat) :
    ∃ c tail, n.repr.toList = c :: tail ∧ c.isDigit = true := by
  cases hdigits : n.repr.toList with
  | nil =>
    rw [Nat.toList_repr] at hdigits
    exact absurd hdigits Nat.toDigits_ne_nil
  | cons c tail => exact ⟨c, tail, rfl, isDigit_of_mem_repr (by rw [hdigits]; exact .head _)⟩

theorem toList_repr_negSucc (m : Nat) :
    (Int.negSucc m).repr.toList = '-' :: (m + 1).repr.toList := by
  show ("-" ++ (m + 1).repr).toList = _
  rw [String.toList_append]
  rfl

theorem exists_repr_int (n : Int) :
    ∃ c tail, n.repr.toList = c :: tail ∧ (c.isDigit = true ∨ c = '-') := by
  cases n with
  | ofNat m =>
    obtain ⟨c, tail, hdigits, hdigit⟩ := exists_repr m
    exact ⟨c, tail, hdigits, .inl hdigit⟩
  | negSucc m => exact ⟨_, _, toList_repr_negSucc m, .inr rfl⟩

/-- What a value of a canonical text starts with. -/
def Leads (c : Char) : Prop :=
  c.isDigit = true ∨ c ∈ ['-', 'n', 't', 'f', '"', '[', '{']

theorem leads_ne {c d : Char} (h : Leads c) (hdigit : ¬d.isDigit = true)
    (hnot : d ∉ ['-', 'n', 't', 'f', '"', '[', '{']) : c ≠ d := by
  rintro rfl
  rcases h with h | h
  · exact hdigit h
  · exact hnot h

theorem skip_of_leads {c : Char} {tail : List Char} (h : Leads c) :
    skip (c :: tail) = c :: tail := by
  have hspace := leads_ne h (d := ' ') (by decide) (by decide)
  have htab := leads_ne h (d := '\t') (by decide) (by decide)
  have hline := leads_ne h (d := '\n') (by decide) (by decide)
  have hreturn := leads_ne h (d := '\r') (by decide) (by decide)
  rw [skip, List.dropWhile_cons_of_neg]
  simp [isBlank, hspace, htab, hline, hreturn]

theorem exists_render (j : Json) : ∃ c tail, j.render = c :: tail ∧ Leads c := by
  cases j with
  | null => exact ⟨_, _, rfl, .inr (by decide)⟩
  | bool b =>
    cases b with
    | false => exact ⟨_, _, rfl, .inr (by decide)⟩
    | true => exact ⟨_, _, rfl, .inr (by decide)⟩
  | str s => exact ⟨_, _, rfl, .inr (by decide)⟩
  | arr xs => exact ⟨_, _, rfl, .inr (by decide)⟩
  | obj ms => exact ⟨_, _, rfl, .inr (by decide)⟩
  | int n =>
    obtain ⟨c, tail, hrepr, hdigit | rfl⟩ := exists_repr_int n
    · exact ⟨c, tail, hrepr, .inl hdigit⟩
    · exact ⟨'-', tail, hrepr, .inr (by decide)⟩

/-- No white space stands in front of a value. -/
theorem skip_render (j : Json) (rest : List Char) :
    skip (j.render ++ rest) = j.render ++ rest := by
  obtain ⟨c, tail, hrender, hleads⟩ := exists_render j
  rw [hrender, List.cons_append, skip_of_leads hleads]

section

variable {rest : List Char}

theorem skip_comma : skip (',' :: rest) = ',' :: rest := List.dropWhile_cons_of_neg (by decide)

theorem skip_colon : skip (':' :: rest) = ':' :: rest := List.dropWhile_cons_of_neg (by decide)

theorem skip_bracket : skip (']' :: rest) = ']' :: rest := List.dropWhile_cons_of_neg (by decide)

theorem skip_brace : skip ('}' :: rest) = '}' :: rest := List.dropWhile_cons_of_neg (by decide)

end

/-- Fuel for a text that is not empty is left after one step. -/
theorem exists_fuel {n fuel : Nat} (h : n + 1 ≤ fuel) : ∃ left, fuel = left + 1 ∧ n ≤ left :=
  ⟨fuel - 1, by omega, by omega⟩

end Loads

/-! ## Distinct keys -/

namespace Json

theorem distinctMembers_iff {ms : List (String × Json)} :
    DistinctMembers ms ↔ ∀ m ∈ ms, m.2.Distinct := by
  induction ms with
  | nil => exact ⟨fun _ m hm => absurd hm List.not_mem_nil, fun _ => trivial⟩
  | cons m ms ih =>
    obtain ⟨k, x⟩ := m
    rw [DistinctMembers, ih, List.forall_mem_cons]

theorem distinctMembers_assign {key : String} {value : Json} {d : List (String × Json)}
    (hvalue : value.Distinct) (h : DistinctMembers d) : DistinctMembers (assign key value d) := by
  induction d with
  | nil => exact ⟨hvalue, trivial⟩
  | cons m rest ih =>
    obtain ⟨k, x⟩ := m
    rw [assign]
    by_cases hk : k = key
    · rw [if_pos hk]
      exact ⟨hvalue, h.2⟩
    · rw [if_neg hk]
      exact ⟨h.1, ih h.2⟩

mutual

/-- Mutual with the items of an array and the members of an object. -/
theorem distinct_sorted : ∀ j : Json, j.Distinct → j.sorted.Distinct
  | .null, _ => trivial
  | .bool _, _ => trivial
  | .int _, _ => trivial
  | .str _, _ => trivial
  | .arr xs, h => distinct_sortedItems xs h
  | .obj ms, h => by
    have hkeys : ((sortedMembers ms).map Prod.fst).Perm (ms.map Prod.fst) := by
      have hperm := (sortedMembers_perm ms).map Prod.fst
      rwa [List.map_map] at hperm
    refine ⟨hkeys.nodup_iff.mpr h.1, distinctMembers_iff.mpr fun m hm => ?_⟩
    obtain ⟨n, hn, rfl⟩ := List.mem_map.mp ((sortedMembers_perm ms).mem_iff.mp hm)
    exact distinct_sorted_member ms h.2 n hn

theorem distinct_sortedItems : ∀ xs : List Json, DistinctItems xs → DistinctItems (sortedItems xs)
  | [], _ => trivial
  | x :: xs, h => ⟨distinct_sorted x h.1, distinct_sortedItems xs h.2⟩

theorem distinct_sorted_member : ∀ ms : List (String × Json), DistinctMembers ms →
    ∀ m ∈ ms, m.2.sorted.Distinct
  | [], _, _, hm => absurd hm List.not_mem_nil
  | (k, x) :: ms, h, m, hm => by
    rcases List.mem_cons.mp hm with rfl | hm
    · exact distinct_sorted x h.1
    · exact distinct_sorted_member ms h.2 m hm

end

end Json

end Retrywise.Foundation
