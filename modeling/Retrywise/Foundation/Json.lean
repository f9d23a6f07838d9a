import Mathlib.Data.List.Sort
import Mathlib.Data.Prod.Lex
import Std.Data.String.ToInt

/-!
# Canonical JSON text

The JSON values without floating point, and their canonical text: keys sorted
by code point, no whitespace, non-ASCII characters left as they are, and the
escapes of a conforming serializer (two-character escapes where they exist,
`\u00xx` for the other control characters).

A hash of a canonical text is evidence about the *value* only because no two
different values share a text. That is `canonicalText_inj`. The proof reads a
text from the left: the first character names the constructor (`Json.kind`), a
quoted string ends at its first bare quote, and a number ends where the next
character could not continue it (`Stops`).
-/

namespace Retrywise.Foundation

inductive Json where
  | null
  | bool (value : Bool)
  | int (value : Int)
  | str (value : String)
  | arr (items : List Json)
  | obj (members : List (String × Json))

/-! ## Rendering -/

/-- One character inside a quoted string. -/
def escapeChar (c : Char) : List Char :=
  if c = '"' then ['\\', '"']
  else if c = '\\' then ['\\', '\\']
  else if c = '\n' then ['\\', 'n']
  else if c = '\r' then ['\\', 'r']
  else if c = '\t' then ['\\', 't']
  else if c = '\x08' then ['\\', 'b']
  else if c = '\x0c' then ['\\', 'f']
  else if c.toNat < 32 then
    ['\\', 'u', '0', '0', Nat.digitChar (c.toNat / 16), Nat.digitChar (c.toNat % 16)]
  else [c]

/-- The characters of a string up to and including its closing quote. -/
def quoteRest : List Char → List Char
  | [] => ['"']
  | c :: cs => escapeChar c ++ quoteRest cs

def quote (s : String) : List Char := '"' :: quoteRest s.toList

namespace Json

mutual

/-- The text of a value, members in the order given. -/
def render : Json → List Char
  | .null => ['n', 'u', 'l', 'l']
  | .bool true => ['t', 'r', 'u', 'e']
  | .bool false => ['f', 'a', 'l', 's', 'e']
  | .int n => n.repr.toList
  | .str s => quote s
  | .arr items => '[' :: renderItems items
  | .obj members => '{' :: renderMembers members

/-- The items of an array up to and including its closing bracket. -/
def renderItems : List Json → List Char
  | [] => [']']
  | x :: xs => x.render ++ renderMoreItems xs

def renderMoreItems : List Json → List Char
  | [] => [']']
  | x :: xs => ',' :: (x.render ++ renderMoreItems xs)

/-- The members of an object up to and including its closing brace. -/
def renderMembers : List (String × Json) → List Char
  | [] => ['}']
  | (k, x) :: ms => quote k ++ ':' :: (x.render ++ renderMoreMembers ms)

def renderMoreMembers : List (String × Json) → List Char
  | [] => ['}']
  | (k, x) :: ms => ',' :: (quote k ++ ':' :: (x.render ++ renderMoreMembers ms))

end

mutual

/-- The value with the members of every object sorted by key. -/
def sorted : Json → Json
  | .arr items => .arr (sortedItems items)
  | .obj members => .obj (sortedMembers members)
  | .null => .null
  | .bool b => .bool b
  | .int n => .int n
  | .str s => .str s

def sortedItems : List Json → List Json
  | [] => []
  | x :: xs => x.sorted :: sortedItems xs

def sortedMembers : List (String × Json) → List (String × Json)
  | [] => []
  | (k, x) :: ms => (sortedMembers ms).orderedInsert (fun m n => m.1 ≤ n.1) (k, x.sorted)

end

/-- The canonical text: keys sorted, no whitespace. -/
def canonicalText (value : Json) : String := String.ofList value.sorted.render

/-- The keys of an object, in the order given. -/
def keys : Json → List String
  | .obj members => members.map Prod.fst
  | _ => []

/-- The member of an object under a key. -/
def get? (key : String) : Json → Option Json
  | .obj members => (members.find? (fun m => m.1 = key)).map (·.2)
  | _ => none

end Json

/-! ## Quoted strings end at their first bare quote -/

private def hexVal (c : Char) : Nat :=
  if c.toNat < 58 then c.toNat - 48 else c.toNat - 87

private theorem hexVal_digitChar : ∀ n < 16, hexVal (Nat.digitChar n) = n := by decide

/-- Read one escaped character back. -/
private def unescape : List Char → Option (Char × List Char)
  | '\\' :: 'u' :: _ :: _ :: h :: l :: rest => some (Char.ofNat (16 * hexVal h + hexVal l), rest)
  | '\\' :: 'n' :: rest => some ('\n', rest)
  | '\\' :: 'r' :: rest => some ('\r', rest)
  | '\\' :: 't' :: rest => some ('\t', rest)
  | '\\' :: 'b' :: rest => some ('\x08', rest)
  | '\\' :: 'f' :: rest => some ('\x0c', rest)
  | '\\' :: c :: rest => some (c, rest)
  | c :: rest => some (c, rest)
  | [] => none

private theorem unescape_escapeChar (c : Char) (rest : List Char) :
    unescape (escapeChar c ++ rest) = some (c, rest) := by
  unfold escapeChar
  split_ifs with h₁ h₂ h₃ h₄ h₅ h₆ h₇ h₈
  -- the escapes of one named character compute
  all_goals try (subst_vars; simp [unescape])
  · have hhi := hexVal_digitChar (c.toNat / 16) (by omega)
    have hlo := hexVal_digitChar (c.toNat % 16) (by omega)
    rw [hhi, hlo, show 16 * (c.toNat / 16) + c.toNat % 16 = c.toNat from by omega]
    exact Char.ofNat_toNat c
  · split <;> simp_all

/-- An escaped character never starts with a bare quote. -/
private theorem escapeChar_ne_quote (c : Char) (rest tail : List Char) :
    escapeChar c ++ rest ≠ '"' :: tail := by
  unfold escapeChar
  split_ifs with h₁ <;> simp [h₁]

private theorem quoteRest_inj : ∀ (a b : List Char) {s t : List Char},
    quoteRest a ++ s = quoteRest b ++ t → a = b ∧ s = t
  | [], [], s, t, h => ⟨rfl, List.cons.inj h |>.2⟩
  | [], d :: b, s, t, h => by
    rw [quoteRest, quoteRest, List.append_assoc] at h
    exact absurd h.symm (escapeChar_ne_quote d _ _)
  | c :: a, [], s, t, h => by
    rw [quoteRest, quoteRest, List.append_assoc] at h
    exact absurd h (escapeChar_ne_quote c _ _)
  | c :: a, d :: b, s, t, h => by
    rw [quoteRest, quoteRest, List.append_assoc, List.append_assoc] at h
    -- both texts start with one escaped character: read it, and go on with the rest
    have hread := congrArg unescape h
    rw [unescape_escapeChar, unescape_escapeChar] at hread
    obtain ⟨rfl, hrest⟩ := Prod.mk.inj (Option.some.inj hread)
    obtain ⟨rfl, hst⟩ := quoteRest_inj a b hrest
    exact ⟨rfl, hst⟩

theorem quote_inj {a b : String} {s t : List Char} (h : quote a ++ s = quote b ++ t) :
    a = b ∧ s = t := by
  obtain ⟨hab, hst⟩ := quoteRest_inj a.toList b.toList (List.cons.inj h).2
  exact ⟨String.toList_inj.mp hab, hst⟩

/-! ## Numbers end where the text cannot continue them -/

private def numeric (c : Char) : Bool := c.isDigit || c = '-'

/-- The text that follows a value does not continue a number. -/
def Stops (rest : List Char) : Prop := ∀ c tail, rest = c :: tail → numeric c = false

theorem stops_nil : Stops [] := fun _ _ h => absurd h (by simp)

private theorem stops_cons {c : Char} {tail : List Char} (h : numeric c = false) :
    Stops (c :: tail) := by
  intro d tail' he
  exact (List.cons.inj he).1 ▸ h

private theorem numeric_repr (n : Int) : ∀ c ∈ n.repr.toList, numeric c = true := by
  have hdigits : ∀ (m : Nat), ∀ c ∈ m.repr.toList, c.isDigit = true := by
    intro m c hc
    rw [Nat.toList_repr] at hc
    exact Nat.isDigit_of_mem_toDigits (by decide) (by decide) hc
  intro c hc
  cases n with
  | ofNat m => simp [numeric, hdigits m c hc]
  | negSucc m =>
    rw [show (Int.negSucc m).repr = "-" ++ (m + 1).repr from rfl, String.toList_append] at hc
    rcases List.mem_append.mp hc with hsign | hm
    · simp_all [numeric]
    · simp [numeric, hdigits (m + 1) c hm]

private theorem takeWhile_stops {l rest : List Char} (hl : ∀ c ∈ l, numeric c = true)
    (hrest : Stops rest) : (l ++ rest).takeWhile numeric = l := by
  rw [List.takeWhile_append_of_pos hl]
  cases rest with
  | nil => simp
  | cons c tail => rw [List.takeWhile_cons_of_neg (by simp [hrest c tail rfl]), List.append_nil]

private theorem int_inj {m n : Int} {s t : List Char} (hs : Stops s) (ht : Stops t)
    (h : m.repr.toList ++ s = n.repr.toList ++ t) : m = n ∧ s = t := by
  -- the number is what stands before the first character that is not numeric
  have hw := congrArg (List.takeWhile numeric) h
  rw [takeWhile_stops (numeric_repr m) hs, takeWhile_stops (numeric_repr n) ht] at hw
  obtain rfl := Int.repr_injective (String.toList_inj.mp hw)
  exact ⟨rfl, List.append_cancel_left h⟩

/-! ## The first character names the constructor -/

private def leadKind (c : Char) : Nat :=
  if c = 'n' then 0 else if c = 't' then 1 else if c = 'f' then 2 else if c = '"' then 3
  else if c = '[' then 4 else if c = '{' then 5 else if numeric c then 6 else 7

private def Json.kind : Json → Nat
  | .null => 0
  | .bool true => 1
  | .bool false => 2
  | .str _ => 3
  | .arr _ => 4
  | .obj _ => 5
  | .int _ => 6

private theorem leadKind_numeric {c : Char} (h : numeric c = true) : leadKind c = 6 := by
  have hne : ∀ d, numeric d = false → c ≠ d := by
    rintro d hd rfl
    rw [h] at hd
    exact absurd hd (by simp)
  simp [leadKind, h, hne 'n' (by decide), hne 't' (by decide), hne 'f' (by decide),
    hne '"' (by decide), hne '[' (by decide), hne '{' (by decide)]

private theorem render_lead (value : Json) (rest : List Char) :
    ∃ c tail, value.render ++ rest = c :: tail ∧ leadKind c = value.kind := by
  cases value with
  | null => exact ⟨_, _, rfl, by decide⟩
  | bool b => cases b <;> exact ⟨_, _, rfl, by decide⟩
  | str s => exact ⟨_, _, rfl, rfl⟩
  | arr items => exact ⟨_, _, rfl, rfl⟩
  | obj members => exact ⟨_, _, rfl, rfl⟩
  | int n =>
    have hne : n.repr.toList ≠ [] := by
      cases n with
      | ofNat m =>
        rw [show (Int.ofNat m).repr = m.repr from rfl, Nat.toList_repr]
        exact Nat.toDigits_ne_nil
      | negSucc m =>
        rw [show (Int.negSucc m).repr = "-" ++ (m + 1).repr from rfl, String.toList_append]
        simp
    obtain ⟨c, tail, hrepr⟩ := List.exists_cons_of_ne_nil hne
    refine ⟨c, tail ++ rest, by rw [Json.render, hrepr, List.cons_append], ?_⟩
    exact leadKind_numeric (numeric_repr n c (by rw [hrepr]; exact List.mem_cons_self))

private theorem kind_eq {a b : Json} {s t : List Char} (h : a.render ++ s = b.render ++ t) :
    a.kind = b.kind := by
  obtain ⟨c, _, hc, hkc⟩ := render_lead a s
  obtain ⟨d, _, hd, hkd⟩ := render_lead b t
  rw [hc, hd] at h
  rw [← hkc, ← hkd, (List.cons.inj h).1]

/-- A value never starts with a character of kind 7, such as a closing bracket. -/
private theorem render_ne_of_leadKind {a : Json} {s t : List Char} {c : Char}
    (hc : leadKind c = 7) : a.render ++ s ≠ c :: t := by
  intro h
  obtain ⟨d, _, hd, hk⟩ := render_lead a s
  rw [hd] at h
  have h7 : a.kind = 7 := by rw [← hk, (List.cons.inj h).1, hc]
  cases a with
  | bool b => cases b <;> simp [Json.kind] at h7
  | _ => simp [Json.kind] at h7

private theorem stops_moreItems (xs : List Json) (s : List Char) :
    Stops (Json.renderMoreItems xs ++ s) := by
  cases xs <;> exact stops_cons (by decide)

private theorem stops_moreMembers (ms : List (String × Json)) (s : List Char) :
    Stops (Json.renderMoreMembers ms ++ s) := by
  rcases ms with _ | ⟨⟨k, x⟩, ms⟩ <;> exact stops_cons (by decide)

/-! ## No two values share a text -/

mutual

/-- Mutual with the four list renderers, by recursion on the left value. -/
private theorem render_inj : ∀ (a b : Json) {s t : List Char}, Stops s → Stops t →
    a.render ++ s = b.render ++ t → a = b ∧ s = t
  | .null, b, s, t, _, _, h => by
    have hk := kind_eq h
    cases b with
    | null => exact ⟨rfl, List.append_cancel_left h⟩
    | bool c => cases c <;> simp [Json.kind] at hk
    | _ => simp [Json.kind] at hk
  | .bool c, b, s, t, _, _, h => by
    have hk := kind_eq h
    cases b with
    | bool d =>
      cases c <;> cases d <;> first
        | exact ⟨rfl, List.append_cancel_left h⟩
        | simp [Json.kind] at hk
    | _ => cases c <;> simp [Json.kind] at hk
  | .int m, b, s, t, hs, ht, h => by
    have hk := kind_eq h
    cases b with
    | int n =>
      obtain ⟨rfl, hst⟩ := int_inj hs ht h
      exact ⟨rfl, hst⟩
    | bool c => cases c <;> simp [Json.kind] at hk
    | _ => simp [Json.kind] at hk
  | .str u, b, s, t, _, _, h => by
    have hk := kind_eq h
    cases b with
    | str v =>
      obtain ⟨rfl, hst⟩ := quote_inj h
      exact ⟨rfl, hst⟩
    | bool c => cases c <;> simp [Json.kind] at hk
    | _ => simp [Json.kind] at hk
  | .arr xs, b, s, t, _, _, h => by
    have hk := kind_eq h
    cases b with
    | arr ys =>
      obtain ⟨rfl, hst⟩ := renderItems_inj xs ys (List.cons.inj h).2
      exact ⟨rfl, hst⟩
    | bool c => cases c <;> simp [Json.kind] at hk
    | _ => simp [Json.kind] at hk
  | .obj ms, b, s, t, _, _, h => by
    have hk := kind_eq h
    cases b with
    | obj ns =>
      obtain ⟨rfl, hst⟩ := renderMembers_inj ms ns (List.cons.inj h).2
      exact ⟨rfl, hst⟩
    | bool c => cases c <;> simp [Json.kind] at hk
    | _ => simp [Json.kind] at hk

private theorem renderItems_inj : ∀ (xs ys : List Json) {s t : List Char},
    Json.renderItems xs ++ s = Json.renderItems ys ++ t → xs = ys ∧ s = t
  | [], [], s, t, h => ⟨rfl, (List.cons.inj h).2⟩
  | [], y :: ys, s, t, h => by
    rw [Json.renderItems, Json.renderItems, List.append_assoc] at h
    exact absurd h.symm (render_ne_of_leadKind (by decide))
  | x :: xs, [], s, t, h => by
    rw [Json.renderItems, Json.renderItems, List.append_assoc] at h
    exact absurd h (render_ne_of_leadKind (by decide))
  | x :: xs, y :: ys, s, t, h => by
    rw [Json.renderItems, Json.renderItems, List.append_assoc, List.append_assoc] at h
    obtain ⟨rfl, hmore⟩ := render_inj x y (stops_moreItems xs s) (stops_moreItems ys t) h
    obtain ⟨rfl, hst⟩ := renderMoreItems_inj xs ys hmore
    exact ⟨rfl, hst⟩

private theorem renderMoreItems_inj : ∀ (xs ys : List Json) {s t : List Char},
    Json.renderMoreItems xs ++ s = Json.renderMoreItems ys ++ t → xs = ys ∧ s = t
  | [], [], s, t, h => ⟨rfl, (List.cons.inj h).2⟩
  | [], y :: ys, s, t, h => absurd (List.cons.inj h).1 (by decide)
  | x :: xs, [], s, t, h => absurd (List.cons.inj h).1 (by decide)
  | x :: xs, y :: ys, s, t, h => by
    have h' := (List.cons.inj h).2
    rw [List.append_eq, List.append_eq, List.append_assoc, List.append_assoc] at h'
    obtain ⟨rfl, hmore⟩ := render_inj x y (stops_moreItems xs s) (stops_moreItems ys t) h'
    obtain ⟨rfl, hst⟩ := renderMoreItems_inj xs ys hmore
    exact ⟨rfl, hst⟩

private theorem renderMembers_inj : ∀ (ms ns : List (String × Json)) {s t : List Char},
    Json.renderMembers ms ++ s = Json.renderMembers ns ++ t → ms = ns ∧ s = t
  | [], [], s, t, h => ⟨rfl, (List.cons.inj h).2⟩
  | [], (l, y) :: ns, s, t, h => absurd (List.cons.inj h).1 (by decide)
  | (k, x) :: ms, [], s, t, h => absurd (List.cons.inj h).1 (by decide)
  | (k, x) :: ms, (l, y) :: ns, s, t, h => by
    rw [Json.renderMembers, Json.renderMembers, List.append_assoc, List.append_assoc] at h
    obtain ⟨rfl, hvalue⟩ := quote_inj h
    have h' := (List.cons.inj hvalue).2
    rw [List.append_eq, List.append_eq, List.append_assoc, List.append_assoc] at h'
    obtain ⟨rfl, hmore⟩ := render_inj x y (stops_moreMembers ms s) (stops_moreMembers ns t) h'
    obtain ⟨rfl, hst⟩ := renderMoreMembers_inj ms ns hmore
    exact ⟨rfl, hst⟩

private theorem renderMoreMembers_inj : ∀ (ms ns : List (String × Json)) {s t : List Char},
    Json.renderMoreMembers ms ++ s = Json.renderMoreMembers ns ++ t → ms = ns ∧ s = t
  | [], [], s, t, h => ⟨rfl, (List.cons.inj h).2⟩
  | [], (l, y) :: ns, s, t, h => absurd (List.cons.inj h).1 (by decide)
  | (k, x) :: ms, [], s, t, h => absurd (List.cons.inj h).1 (by decide)
  | (k, x) :: ms, (l, y) :: ns, s, t, h => by
    have h₁ := (List.cons.inj h).2
    rw [List.append_eq, List.append_eq, List.append_assoc, List.append_assoc] at h₁
    obtain ⟨rfl, hvalue⟩ := quote_inj h₁
    have h₂ := (List.cons.inj hvalue).2
    rw [List.append_eq, List.append_eq, List.append_assoc, List.append_assoc] at h₂
    obtain ⟨rfl, hmore⟩ := render_inj x y (stops_moreMembers ms s) (stops_moreMembers ns t) h₂
    obtain ⟨rfl, hst⟩ := renderMoreMembers_inj ms ns hmore
    exact ⟨rfl, hst⟩

end

/-- **Values with one canonical text are one value**, up to the order in which
the members of their objects were written down. -/
theorem canonicalText_inj {a b : Json} (h : a.canonicalText = b.canonicalText) :
    a.sorted = b.sorted := by
  have hchars : a.sorted.render ++ [] = b.sorted.render ++ [] := by
    rw [List.append_nil, List.append_nil]
    exact String.ofList_inj.mp h
  exact (render_inj _ _ stops_nil stops_nil hchars).1

/-! ## Reading a member -/

private theorem find?_orderedInsert {key : String} {m : String × Json} :
    ∀ {ms : List (String × Json)}, (∀ n ∈ ms, n.1 ≠ m.1) →
      (ms.orderedInsert (fun a b => a.1 ≤ b.1) m).find? (fun n => n.1 = key) =
        if m.1 = key then some m else ms.find? (fun n => n.1 = key)
  | [], _ => by
    by_cases h : m.1 = key
    · simp [h]
    · simp [h]
  | n :: ms, hne => by
    rw [List.orderedInsert]
    by_cases hle : m.1 ≤ n.1
    · rw [if_pos hle]
      by_cases h : m.1 = key
      · simp [h]
      · simp [h, List.find?_cons]
    · rw [if_neg hle, List.find?_cons, List.find?_cons,
        find?_orderedInsert fun n' hn' => hne n' (List.mem_cons_of_mem _ hn')]
      by_cases hn : n.1 = key
      · have hm : ¬m.1 = key := fun h => hne n List.mem_cons_self (hn.trans h.symm)
        simp [hn, hm]
      · simp [hn]

private theorem fst_mem_sortedMembers {n : String × Json} :
    ∀ {ms : List (String × Json)}, n ∈ Json.sortedMembers ms → n.1 ∈ ms.map Prod.fst
  | [], h => absurd h (by simp [Json.sortedMembers])
  | (k, x) :: ms, h => by
    rw [Json.sortedMembers, List.mem_orderedInsert] at h
    rcases h with rfl | h
    · exact List.mem_cons_self
    · exact List.mem_cons_of_mem _ (fst_mem_sortedMembers h)

private theorem find?_sortedMembers {key : String} :
    ∀ {ms : List (String × Json)}, (ms.map Prod.fst).Nodup →
      ((Json.sortedMembers ms).find? (fun n => n.1 = key)).map Prod.snd =
        ((ms.find? (fun n => n.1 = key)).map Prod.snd).map Json.sorted
  | [], _ => rfl
  | (k, x) :: ms, hnodup => by
    obtain ⟨hk, hms⟩ := List.nodup_cons.mp hnodup
    rw [Json.sortedMembers, find?_orderedInsert, List.find?_cons]
    · by_cases h : k = key
      · simp [h]
      · simp only [h, decide_false, if_false]
        exact find?_sortedMembers hms
    · intro n hn he
      exact hk (he ▸ fst_mem_sortedMembers hn)

/-- Sorting keeps what stands under a key, where no key occurs twice. -/
theorem Json.get?_sorted {value : Json} (h : value.keys.Nodup) (key : String) :
    value.sorted.get? key = (value.get? key).map Json.sorted := by
  cases value with
  | obj members => exact find?_sortedMembers h
  | null => rfl
  | bool _ => rfl
  | int _ => rfl
  | str _ => rfl
  | arr _ => rfl

end Retrywise.Foundation
