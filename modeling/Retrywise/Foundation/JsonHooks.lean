import Retrywise.Foundation.JsonRead
import Retrywise.Foundation.Raise

/-!
# Reading JSON with hooks

A reader that hands every part of a text to its caller: the pairs of an object and the
characters of a number go to a hook, which makes a value of them or raises. A reader that
raises nothing and keeps the last value of a key is the one that `loads` is.

> `value_render`: the text of a value is read as what the hooks make of the value.
>
> `loads_canonicalText`: a canonical text is read back as the value it was written from, with
> the members of its objects in order.
-/

namespace Retrywise.Foundation

/-- What a reader makes of the parts of a text. -/
structure JsonHooks (ε α : Type) where
  null : α
  bool : Bool → α
  str : String → α
  array : List α → α
  objectPairs : List (String × α) → Except ε α
  parseInt : List Char → Except ε α
  parseFloat : List Char → Except ε α
  parseConstant : List Char → Except ε α

namespace JsonHooks

open Loads (skip string fraction exponent Closes)

variable {ε α β : Type}

/-- A text that is no JSON raises `none`, a hook its own exception. -/
def raising (call : Except ε β) : Except (Option ε) β := call.mapError some

def malformed : Option β → Except (Option ε) β
  | none => .error none
  | some read => .ok read

/-- The characters of a text in front of what is left of it. -/
def token (text rest : List Char) : List Char := text.take (text.length - rest.length)

/-! ## The reader -/

section

variable (hooks : JsonHooks ε α)

/-- A number, from its digits on; `text` has its sign too. -/
def number (text : List Char) : List Char → Except (Option ε) (α × List Char)
  | [] => .error none
  | c :: rest =>
    if c.isDigit then
      let whole := if c = '0' then rest else rest.dropWhile Char.isDigit
      let behind := exponent (fraction whole)
      if behind.length = whole.length then
        (raising (hooks.parseInt (token text whole))).map fun read => (read, whole)
      else (raising (hooks.parseFloat (token text behind))).map fun read => (read, behind)
    else .error none

/-- What a word stands for, if the text starts with it. -/
def word (name : List Char) (meaning : Except ε α) (text : List Char) :
    Except (Option ε) (α × List Char) :=
  if name.isPrefixOf text then
    (raising meaning).map fun read => (read, text.drop name.length)
  else .error none

def constant (name text : List Char) : Except (Option ε) (α × List Char) :=
  word name (hooks.parseConstant name) text

/-- A value that is no string, array or object. -/
def scalar (text : List Char) : Except (Option ε) (α × List Char) :=
  match text with
  | 'n' :: _ => word ['n', 'u', 'l', 'l'] (.ok hooks.null) text
  | 't' :: _ => word ['t', 'r', 'u', 'e'] (.ok (hooks.bool true)) text
  | 'f' :: _ => word ['f', 'a', 'l', 's', 'e'] (.ok (hooks.bool false)) text
  | 'N' :: _ => hooks.constant ['N', 'a', 'N'] text
  | 'I' :: _ => hooks.constant ['I', 'n', 'f', 'i', 'n', 'i', 't', 'y'] text
  | '-' :: 'I' :: _ => hooks.constant ['-', 'I', 'n', 'f', 'i', 'n', 'i', 't', 'y'] text
  | '-' :: rest => hooks.number text rest
  | _ => hooks.number text text

mutual

/-- `scan_once`. -/
def value : Nat → List Char → Except (Option ε) (α × List Char)
  | 0, _ => .error none
  | fuel + 1, text =>
    match text with
    | '"' :: rest => (malformed (string rest)).map fun (read, rest) => (hooks.str read, rest)
    | '[' :: rest =>
      match skip rest with
      | ']' :: rest => .ok (hooks.array [], rest)
      | rest => (items fuel rest).map fun (read, rest) => (hooks.array read, rest)
    | '{' :: rest =>
      match skip rest with
      | '}' :: rest => (raising (hooks.objectPairs [])).map fun read => (read, rest)
      | rest => do
        let (pairs, rest) ← members fuel rest
        (raising (hooks.objectPairs pairs)).map fun read => (read, rest)
    | _ => hooks.scalar text

/-- The items of an array, from the next one on. -/
def items : Nat → List Char → Except (Option ε) (List α × List Char)
  | 0, _ => .error none
  | fuel + 1, text => do
    let (read, rest) ← value fuel text
    match skip rest with
    | ',' :: rest =>
      let (more, rest) ← items fuel (skip rest)
      return (read :: more, rest)
    | ']' :: rest => return ([read], rest)
    | _ => .error none

/-- The members of an object, from the next key on. -/
def members : Nat → List Char → Except (Option ε) (List (String × α) × List Char)
  | 0, _ => .error none
  | fuel + 1, text =>
    match text with
    | '"' :: rest => do
      let (key, rest) ← malformed (string rest)
      match skip rest with
      | ':' :: rest =>
        let (read, rest) ← value fuel (skip rest)
        match skip rest with
        | ',' :: rest =>
          let (more, rest) ← members fuel (skip rest)
          return ((key, read) :: more, rest)
        | '}' :: rest => return ([(key, read)], rest)
        | _ => .error none
      | _ => .error none
    | _ => .error none

end

/-- `json.loads` with these hooks; `none` is its decode error. -/
def loads (text : String) : Except (Option ε) α := do
  let (read, rest) ← hooks.value (text.toList.length + 1) (skip text.toList)
  if skip rest = [] then .ok read else .error none

/-! ## What the hooks make of a value -/

mutual

/-- The value that the text of a value is read as. -/
def fold : Json → Except ε α
  | .null => .ok hooks.null
  | .bool b => .ok (hooks.bool b)
  | .int n => hooks.parseInt n.repr.toList
  | .str s => .ok (hooks.str s)
  | .arr xs => (foldItems xs).map hooks.array
  | .obj ms => foldMembers ms >>= hooks.objectPairs

def foldItems : List Json → Except ε (List α)
  | [] => .ok []
  | x :: xs => do
    let read ← fold x
    let more ← foldItems xs
    return read :: more

def foldMembers : List (String × Json) → Except ε (List (String × α))
  | [] => .ok []
  | (key, x) :: ms => do
    let read ← fold x
    let more ← foldMembers ms
    return (key, read) :: more

end

end

/-! ## Numbers are read back -/

section

variable {hooks : JsonHooks ε α} {rest : List Char}

theorem token_append (front rest : List Char) : token (front ++ rest) rest = front := by
  rw [token, List.length_append, Nat.add_sub_cancel, List.take_left]

/-- In front of a comma or a bracket the digits are an integer. -/
theorem number_repr (front : List Char) (n : Nat) (h : Closes rest) :
    hooks.number (front ++ n.repr.toList ++ rest) (n.repr.toList ++ rest) =
      (raising (hooks.parseInt (front ++ n.repr.toList))).map fun read => (read, rest) := by
  obtain ⟨c, tail, hdigits, hdigit⟩ := Loads.exists_repr n
  have htail : ∀ d ∈ tail, d.isDigit = true := fun d hd =>
    isDigit_of_mem_repr (by rw [hdigits]; exact List.mem_cons_of_mem _ hd)
  have hwhole : (if c = '0' then tail ++ rest else (tail ++ rest).dropWhile Char.isDigit) =
      rest := by
    by_cases hzero : c = '0'
    · -- only zero starts with a zero
      have hn : n = 0 := by
        by_contra hpos
        rw [Nat.toList_repr] at hdigits
        exact Loads.head_toDigits_ne_zero n (Nat.pos_of_ne_zero hpos) c tail hdigits hzero
      subst hn
      have hnil : tail = [] := (List.cons.inj (hdigits.symm.trans rfl)).2
      rw [if_pos hzero, hnil, List.nil_append]
    · rw [if_neg hzero, List.dropWhile_append_of_pos htail]
      exact Loads.dropWhile_of_closes h
  have htoken := token_append (front ++ n.repr.toList) rest
  rw [hdigits] at htoken ⊢
  rw [List.cons_append, number, if_pos hdigit]
  dsimp only
  rw [hwhole, Loads.fraction_of_closes h, Loads.exponent_of_closes h, if_pos rfl, htoken]

theorem scalar_of_digit {c : Char} {tail : List Char} (h : c.isDigit = true) :
    hooks.scalar (c :: tail) = hooks.number (c :: tail) (c :: tail) := by
  unfold scalar
  split
  next hc => exact absurd ((List.cons.inj hc).1 ▸ h) (by decide)
  next hc => exact absurd ((List.cons.inj hc).1 ▸ h) (by decide)
  next hc => exact absurd ((List.cons.inj hc).1 ▸ h) (by decide)
  next hc => exact absurd ((List.cons.inj hc).1 ▸ h) (by decide)
  next hc => exact absurd ((List.cons.inj hc).1 ▸ h) (by decide)
  next hc => exact absurd ((List.cons.inj hc).1 ▸ h) (by decide)
  next hc => exact absurd ((List.cons.inj hc).1 ▸ h) (by decide)
  next => rfl

theorem scalar_of_minus {c : Char} {tail : List Char} (h : c.isDigit = true) :
    hooks.scalar ('-' :: c :: tail) = hooks.number ('-' :: c :: tail) (c :: tail) := by
  have hc : c ≠ 'I' := by
    rintro rfl
    exact absurd h (by decide)
  simp [scalar, hc]

theorem scalar_int (n : Int) (h : Closes rest) :
    hooks.scalar (n.repr.toList ++ rest) =
      (raising (hooks.parseInt n.repr.toList)).map fun read => (read, rest) := by
  cases n with
  | ofNat m =>
    obtain ⟨c, tail, hdigits, hdigit⟩ := Loads.exists_repr m
    have hread : hooks.number ([] ++ m.repr.toList ++ rest) (m.repr.toList ++ rest) = _ :=
      number_repr [] m h
    show hooks.scalar (m.repr.toList ++ rest) =
      (raising (hooks.parseInt m.repr.toList)).map fun read => (read, rest)
    rw [List.nil_append] at hread
    rw [← hread, hdigits, List.cons_append, scalar_of_digit hdigit]
  | negSucc m =>
    obtain ⟨c, tail, hdigits, hdigit⟩ := Loads.exists_repr (m + 1)
    have hread : hooks.number (['-'] ++ (m + 1).repr.toList ++ rest) _ = _ :=
      number_repr ['-'] (m + 1) h
    rw [Loads.toList_repr_negSucc]
    show hooks.scalar ('-' :: ((m + 1).repr.toList ++ rest)) = _
    refine Eq.trans ?_ hread
    rw [List.singleton_append, List.cons_append, hdigits, List.cons_append,
      scalar_of_minus hdigit]

end

/-! ## Values are read back -/

section

variable {hooks : JsonHooks ε α} {fuel : Nat} {c : Char} {tail rest : List Char}

theorem value_of_scalar (hquote : c ≠ '"') (harray : c ≠ '[') (hobject : c ≠ '{') :
    hooks.value (fuel + 1) (c :: tail) = hooks.scalar (c :: tail) := by
  simp [value, hquote, harray, hobject]

theorem value_of_items (hleads : Loads.Leads c) :
    hooks.value (fuel + 1) ('[' :: c :: tail) =
      (hooks.items fuel (c :: tail)).map fun read => (hooks.array read.1, read.2) := by
  have hend := Loads.leads_ne hleads (d := ']') (by decide) (by decide)
  simp [value, Loads.skip_of_leads hleads, hend]

theorem value_of_members (hleads : Loads.Leads c) :
    hooks.value (fuel + 1) ('{' :: c :: tail) =
      hooks.members fuel (c :: tail) >>= fun read =>
        (raising (hooks.objectPairs read.1)).map fun made => (made, read.2) := by
  have hbrace := Loads.leads_ne hleads (d := '}') (by decide) (by decide)
  simp [value, Loads.skip_of_leads hleads, hbrace]

variable {text more : List Char} {v : α} {vs : List α} {ms : List (String × α)} {key : String}

theorem items_last (h : hooks.value fuel text = .ok (v, ']' :: rest)) :
    hooks.items (fuel + 1) text = .ok ([v], rest) := by
  rw [items, bind_of_ok h]
  simp [Loads.skip_bracket, pure_eq_ok]

theorem items_more (h : hooks.value fuel text = .ok (v, ',' :: more)) (hskip : skip more = more)
    (hmore : hooks.items fuel more = .ok (vs, rest)) :
    hooks.items (fuel + 1) text = .ok (v :: vs, rest) := by
  rw [items, bind_of_ok h]
  simp only [Loads.skip_comma, hskip, bind_of_ok hmore]
  rfl

theorem members_last (hkey : string text = some (key, ':' :: more)) (hskip : skip more = more)
    (h : hooks.value fuel more = .ok (v, '}' :: rest)) :
    hooks.members (fuel + 1) ('"' :: text) = .ok ([(key, v)], rest) := by
  have hread : malformed (ε := ε) (string text) = .ok (key, ':' :: more) := by rw [hkey]; rfl
  simp only [members, bind_of_ok hread, Loads.skip_colon, hskip, bind_of_ok h, Loads.skip_brace]
  rfl

theorem members_more {next : List Char} (hkey : string text = some (key, ':' :: more))
    (hskip : skip more = more) (h : hooks.value fuel more = .ok (v, ',' :: next))
    (hnext : skip next = next) (hmore : hooks.members fuel next = .ok (ms, rest)) :
    hooks.members (fuel + 1) ('"' :: text) = .ok ((key, v) :: ms, rest) := by
  have hread : malformed (ε := ε) (string text) = .ok (key, ':' :: more) := by rw [hkey]; rfl
  simp only [members, bind_of_ok hread, Loads.skip_colon, hskip, bind_of_ok h, Loads.skip_comma,
    hnext, bind_of_ok hmore]
  rfl

end

section

variable {hooks : JsonHooks ε α}

/-- A hook that returns raises nothing. -/
theorem raising_of_ok {call : Except ε β} {read : β} (h : call = .ok read) :
    raising call = .ok read := by
  rw [h]
  rfl

mutual

/-- Mutual with the items of an array and the members of an object, by recursion on the value
that was written. -/
theorem value_render : ∀ (j : Json) {v : α} (fuel : Nat) (rest : List Char), hooks.fold j = .ok v →
    Closes rest → j.render.length ≤ fuel → hooks.value fuel (j.render ++ rest) = .ok (v, rest)
  | .null, v, fuel, rest, h, _, hfuel => by
    obtain ⟨fuel, rfl, -⟩ := Loads.exists_fuel hfuel
    rw [← Except.ok.inj h]
    exact value_of_scalar (by decide) (by decide) (by decide)
  | .bool true, v, fuel, rest, h, _, hfuel => by
    obtain ⟨fuel, rfl, -⟩ := Loads.exists_fuel hfuel
    rw [← Except.ok.inj h]
    exact value_of_scalar (by decide) (by decide) (by decide)
  | .bool false, v, fuel, rest, h, _, hfuel => by
    obtain ⟨fuel, rfl, -⟩ := Loads.exists_fuel hfuel
    rw [← Except.ok.inj h]
    exact value_of_scalar (by decide) (by decide) (by decide)
  | .int n, v, fuel, rest, h, hcloses, hfuel => by
    obtain ⟨c, tail, hrepr, hlead⟩ := Loads.exists_repr_int n
    have hmade : hooks.parseInt n.repr.toList = .ok v := h
    have hread : hooks.scalar (n.repr.toList ++ rest) = _ := scalar_int n hcloses
    rw [raising_of_ok hmade] at hread
    have hlength : (Json.int n).render.length = tail.length + 1 := congrArg List.length hrepr
    obtain ⟨fuel, rfl, -⟩ := Loads.exists_fuel (hlength ▸ hfuel)
    show hooks.value (fuel + 1) (n.repr.toList ++ rest) = _
    refine Eq.trans ?_ hread
    rw [hrepr, List.cons_append]
    rcases hlead with hdigit | rfl
    · refine value_of_scalar ?_ ?_ ?_
      · rintro rfl
        exact absurd hdigit (by decide)
      · rintro rfl
        exact absurd hdigit (by decide)
      · rintro rfl
        exact absurd hdigit (by decide)
    · exact value_of_scalar (by decide) (by decide) (by decide)
  | .str s, v, fuel, rest, h, _, hfuel => by
    obtain ⟨fuel, rfl, -⟩ := Loads.exists_fuel hfuel
    rw [← Except.ok.inj h]
    show hooks.value (fuel + 1) ('"' :: (quoteRest s.toList ++ rest)) = _
    rw [value, Loads.string_quoteRest]
    rfl
  | .arr [], v, fuel, rest, h, _, hfuel => by
    obtain ⟨fuel, rfl, -⟩ := Loads.exists_fuel hfuel
    rw [← Except.ok.inj h]
    show hooks.value (fuel + 1) ('[' :: ']' :: rest) = _
    simp [value, Loads.skip_bracket]
  | .arr (x :: xs), v, fuel, rest, h, _, hfuel => by
    obtain ⟨fuel, rfl, hleft⟩ := Loads.exists_fuel hfuel
    obtain ⟨c, tail, hrender, hleads⟩ := Loads.exists_render x
    obtain ⟨vs, hvs, rfl⟩ := map_ok_iff.mp h
    have hread := items_render (x :: xs) fuel rest (by simp) hvs hleft
    have htext : Json.renderItems (x :: xs) ++ rest =
        c :: (tail ++ Json.renderMoreItems xs ++ rest) := by
      rw [Json.renderItems, hrender]
      rfl
    show hooks.value (fuel + 1) ('[' :: (Json.renderItems (x :: xs) ++ rest)) = _
    rw [htext] at hread ⊢
    rw [value_of_items hleads, hread]
    rfl
  | .obj [], v, fuel, rest, h, _, hfuel => by
    obtain ⟨fuel, rfl, -⟩ := Loads.exists_fuel hfuel
    have hmade : hooks.objectPairs [] = .ok v := h
    show hooks.value (fuel + 1) ('{' :: '}' :: rest) = _
    simp [value, Loads.skip_brace, raising_of_ok hmade, Except.map]
  | .obj ((k, x) :: ms), v, fuel, rest, h, _, hfuel => by
    obtain ⟨fuel, rfl, hleft⟩ := Loads.exists_fuel hfuel
    obtain ⟨pairs, hpairs, hmade⟩ := bind_ok_iff.mp h
    have hread := members_render ((k, x) :: ms) fuel rest (by simp) hpairs hleft
    have htext : Json.renderMembers ((k, x) :: ms) ++ rest =
        '"' :: (quoteRest k.toList ++ ':' :: (x.render ++ Json.renderMoreMembers ms) ++ rest) := rfl
    show hooks.value (fuel + 1) ('{' :: (Json.renderMembers ((k, x) :: ms) ++ rest)) = _
    rw [htext] at hread ⊢
    rw [value_of_members (.inr (by decide)), bind_of_ok hread, raising_of_ok hmade]
    rfl

theorem items_render : ∀ (xs : List Json) {vs : List α} (fuel : Nat) (rest : List Char), xs ≠ [] →
    hooks.foldItems xs = .ok vs → (Json.renderItems xs).length ≤ fuel →
      hooks.items fuel (Json.renderItems xs ++ rest) = .ok (vs, rest)
  | [], _, _, _, hsome, _, _ => absurd rfl hsome
  | [x], vs, fuel, rest, _, h, hfuel => by
    obtain ⟨v, hv, h⟩ := bind_ok_iff.mp h
    obtain rfl : [v] = vs := Except.ok.inj h
    have htext : Json.renderItems [x] ++ rest = x.render ++ ']' :: rest := by
      rw [Json.renderItems, List.append_assoc]
      rfl
    have hlength : (Json.renderItems [x]).length = x.render.length + 1 := by
      rw [Json.renderItems, List.length_append]
      rfl
    obtain ⟨fuel, rfl, hleft⟩ := Loads.exists_fuel (hlength ▸ hfuel)
    rw [htext]
    exact items_last (value_render x fuel (']' :: rest) hv (Loads.closes_cons (by decide)) hleft)
  | x :: y :: ys, vs, fuel, rest, _, h, hfuel => by
    obtain ⟨v, hv, h⟩ := bind_ok_iff.mp h
    obtain ⟨more, hmore, h⟩ := bind_ok_iff.mp h
    obtain rfl : v :: more = vs := Except.ok.inj h
    have htext : Json.renderItems (x :: y :: ys) ++ rest =
        x.render ++ ',' :: (Json.renderItems (y :: ys) ++ rest) := by
      rw [Json.renderItems, List.append_assoc]
      rfl
    have hlength : (Json.renderItems (x :: y :: ys)).length =
        x.render.length + (Json.renderItems (y :: ys)).length + 1 := by
      rw [Json.renderItems, List.length_append]
      rfl
    obtain ⟨fuel, rfl, hleft⟩ := Loads.exists_fuel (hlength ▸ hfuel)
    have hskip : skip (Json.renderItems (y :: ys) ++ rest) =
        Json.renderItems (y :: ys) ++ rest := by
      rw [Json.renderItems, List.append_assoc]
      exact Loads.skip_render y _
    rw [htext]
    exact items_more (value_render x fuel _ hv (Loads.closes_cons (by decide)) (by omega)) hskip
      (items_render (y :: ys) fuel rest (by simp) hmore (by omega))

theorem members_render : ∀ (ms : List (String × Json)) {pairs : List (String × α)} (fuel : Nat)
    (rest : List Char), ms ≠ [] → hooks.foldMembers ms = .ok pairs →
      (Json.renderMembers ms).length ≤ fuel →
        hooks.members fuel (Json.renderMembers ms ++ rest) = .ok (pairs, rest)
  | [], _, _, _, hsome, _, _ => absurd rfl hsome
  | [(k, x)], pairs, fuel, rest, _, h, hfuel => by
    obtain ⟨v, hv, h⟩ := bind_ok_iff.mp h
    obtain rfl : [(k, v)] = pairs := Except.ok.inj h
    have htext : Json.renderMembers [(k, x)] ++ rest =
        '"' :: (quoteRest k.toList ++ ':' :: (x.render ++ '}' :: rest)) := by
      simp [Json.renderMembers, Json.renderMoreMembers, quote]
    have hlength : (Json.renderMembers [(k, x)]).length =
        (quote k).length + 1 + x.render.length + 1 := by
      simp [Json.renderMembers, Json.renderMoreMembers]
      omega
    obtain ⟨fuel, rfl, hleft⟩ := Loads.exists_fuel (hlength ▸ hfuel)
    rw [htext]
    exact members_last (Loads.string_quoteRest k _) (Loads.skip_render x _)
      (value_render x fuel _ hv (Loads.closes_cons (by decide)) (by omega))
  | (k, x) :: (l, y) :: ns, pairs, fuel, rest, _, h, hfuel => by
    obtain ⟨v, hv, h⟩ := bind_ok_iff.mp h
    obtain ⟨more, hmore, h⟩ := bind_ok_iff.mp h
    obtain rfl : (k, v) :: more = pairs := Except.ok.inj h
    have htext : Json.renderMembers ((k, x) :: (l, y) :: ns) ++ rest =
        '"' :: (quoteRest k.toList ++ ':' :: (x.render ++
          ',' :: (Json.renderMembers ((l, y) :: ns) ++ rest))) := by
      simp [Json.renderMembers, Json.renderMoreMembers, quote]
    have hlength : (Json.renderMembers ((k, x) :: (l, y) :: ns)).length =
        (quote k).length + 1 + x.render.length +
          (Json.renderMembers ((l, y) :: ns)).length + 1 := by
      simp [Json.renderMembers, Json.renderMoreMembers]
      omega
    obtain ⟨fuel, rfl, hleft⟩ := Loads.exists_fuel (hlength ▸ hfuel)
    have hskip : skip (Json.renderMembers ((l, y) :: ns) ++ rest) =
        Json.renderMembers ((l, y) :: ns) ++ rest := Loads.skip_of_leads (.inr (by decide))
    rw [htext]
    exact members_more (Loads.string_quoteRest k _) (Loads.skip_render x _)
      (value_render x fuel _ hv (Loads.closes_cons (by decide)) (by omega)) hskip
      (members_render ((l, y) :: ns) fuel rest (by simp) hmore (by omega))

end

/-- **The text of a value is read as what the hooks make of the value.** -/
theorem loads_render {j : Json} {v : α} (h : hooks.fold j = .ok v) :
    hooks.loads (String.ofList j.render) = .ok v := by
  have hskip := Loads.skip_render j []
  have hread := value_render j (j.render.length + 1) [] h Loads.closes_nil (by omega)
  rw [List.append_nil] at hskip hread
  rw [loads, String.toList_ofList, hskip, bind_of_ok hread]
  rfl

end

/-! ## A reader that raises nothing -/

section

variable {δ : Type}

/-- `int(token)`. -/
def intOf : List Char → Int
  | '-' :: digits => -(Nat.ofDigitChars 10 digits 0 : Nat)
  | digits => Nat.ofDigitChars 10 digits 0

/-- The hooks of a reader without hooks. -/
def plain : JsonHooks Empty (PyValue δ) where
  null := .none
  bool := .bool
  str := .str
  array := .sequence
  objectPairs pairs := .ok (.mapping ((dictOf pairs).map fun m => (some m.1, m.2)))
  parseInt token := .ok (.int (intOf token))
  parseFloat _ := .ok .float
  parseConstant _ := .ok .float

/-- The digits of a number, with the sign that stands in front of them. -/
theorem intOf_append {sign : Int} {digits : List Char} (front : List Char)
    (hsign : front = [] ∧ sign = 1 ∨ front = ['-'] ∧ sign = -1) (hne : digits ≠ [])
    (hdigits : ∀ d ∈ digits, d.isDigit = true) :
    intOf (front ++ digits) = sign * (Nat.ofDigitChars 10 digits 0 : Nat) := by
  obtain ⟨d, ds, rfl⟩ := List.exists_cons_of_ne_nil hne
  rcases hsign with ⟨rfl, rfl⟩ | ⟨rfl, rfl⟩
  · have hd : d ≠ '-' := by
      rintro rfl
      exact absurd (hdigits '-' List.mem_cons_self) (by decide)
    rw [List.nil_append, Int.one_mul]
    unfold intOf
    split
    next h => exact absurd (List.cons.inj h).1 hd
    next => rfl
  · rw [List.singleton_append, intOf]
    omega

theorem intOf_repr (n : Int) : intOf n.repr.toList = n := by
  cases n with
  | ofNat m =>
    have hdigits : ∀ d ∈ m.repr.toList, d.isDigit = true := fun d hd => isDigit_of_mem_repr hd
    obtain ⟨c, tail, hcons, -⟩ := Loads.exists_repr m
    have hread := intOf_append [] (.inl ⟨rfl, rfl⟩) (by rw [hcons]; simp) hdigits
    rw [List.nil_append, Int.one_mul, Nat.toList_repr, Nat.ofDigitChars_ten_toDigits] at hread
    show intOf m.repr.toList = m
    rw [Nat.toList_repr, hread]
  | negSucc m =>
    rw [Loads.toList_repr_negSucc, intOf, Nat.toList_repr, Nat.ofDigitChars_ten_toDigits]
    rfl

/-- The digits of the integer part, and what stands behind them. -/
theorem exists_whole {c : Char} {rest : List Char} (hdigit : c.isDigit = true) (sign : Int) :
    ∃ digits whole, c :: rest = digits ++ whole ∧ digits ≠ [] ∧
      (∀ d ∈ digits, d.isDigit = true) ∧
      (if c = '0' then rest else rest.dropWhile Char.isDigit) = whole ∧
      Loads.magnitude (δ := δ) sign (c :: rest) =
        some (Loads.number (sign * (Nat.ofDigitChars 10 digits 0 : Nat)) whole) := by
  by_cases hzero : c = '0'
  · have hdigits : ∀ d ∈ ['0'], d.isDigit = true := by
      intro d hd
      rw [List.mem_singleton.mp hd]
      rfl
    refine ⟨['0'], rest, by rw [hzero]; rfl, by simp, hdigits, if_pos hzero, ?_⟩
    rw [Loads.magnitude, if_pos hzero]
    simp [Nat.ofDigitChars]
  · refine ⟨(c :: rest).takeWhile Char.isDigit, rest.dropWhile Char.isDigit, ?_, ?_, ?_,
      if_neg hzero, ?_⟩
    · rw [List.takeWhile_cons_of_pos hdigit, List.cons_append, List.takeWhile_append_dropWhile]
    · rw [List.takeWhile_cons_of_pos hdigit]
      simp
    · exact fun d hd => List.all_eq_true.mp List.all_takeWhile d hd
    · rw [Loads.magnitude, if_neg hzero, if_pos hdigit]

theorem number_plain {sign : Int} (front digits : List Char)
    (hsign : front = [] ∧ sign = 1 ∨ front = ['-'] ∧ sign = -1) :
    Loads.magnitude (δ := δ) sign digits = (plain.number (front ++ digits) digits).toOption := by
  cases digits with
  | nil => rfl
  | cons c rest =>
    by_cases hdigit : c.isDigit = true
    · obtain ⟨ds, whole, htext, hne, hall, hwhole, hread⟩ := exists_whole (δ := δ) hdigit sign
      have htoken := token_append (front ++ ds) whole
      rw [List.append_assoc, ← htext] at htoken
      rw [hread, number, if_pos hdigit, Loads.number]
      dsimp only
      rw [hwhole, htoken]
      dsimp only [plain]
      rw [intOf_append front hsign hne hall]
      split
      · rfl
      · rfl
    · have hzero : ¬c = '0' := by
        rintro rfl
        exact hdigit (by decide)
      rw [Loads.magnitude, number, if_neg hzero, if_neg hdigit, if_neg hdigit]
      rfl

theorem word_plain (name text : List Char) (v : PyValue δ) :
    Loads.word name v text = (word (ε := Empty) name (.ok v) text).toOption := by
  rw [Loads.word, word]
  split
  · rfl
  · rfl

theorem scalar_plain (text : List Char) :
    Loads.scalar (δ := δ) text = (plain.scalar text).toOption := by
  unfold Loads.scalar
  split
  · exact word_plain _ _ _
  · exact word_plain _ _ _
  · exact word_plain _ _ _
  · exact word_plain _ _ _
  · exact word_plain _ _ _
  · exact word_plain _ _ _
  next rest hnot =>
    rw [scalar.eq_7 _ _ hnot]
    exact number_plain ['-'] rest (.inr ⟨rfl, rfl⟩)
  next =>
    rw [scalar.eq_8]
    · exact number_plain [] text (.inl ⟨rfl, rfl⟩)
    all_goals assumption

theorem toOption_bind {γ : Type} {call : Except ε β} {next : β → Except ε γ} :
    (call >>= next).toOption = call.toOption >>= fun read => (next read).toOption := by
  cases call with
  | error e => rfl
  | ok read => rfl

theorem toOption_map {γ : Type} {call : Except ε β} {f : β → γ} :
    (call.map f).toOption = call.toOption.map f := by
  cases call with
  | error e => rfl
  | ok read => rfl

theorem toOption_malformed (read : Option β) : (malformed (ε := ε) read).toOption = read := by
  cases read with
  | none => rfl
  | some b => rfl

variable {fuel : Nat}

theorem value_succ_plain
    (hitems : ∀ text, Loads.items (δ := δ) fuel text = (plain.items fuel text).toOption)
    (hmembers : ∀ text, Loads.members (δ := δ) fuel text = (plain.members fuel text).toOption)
    (text : List Char) :
    Loads.value (δ := δ) (fuel + 1) text = (plain.value (fuel + 1) text).toOption := by
  unfold Loads.value
  split
  next rest =>
    rw [value, toOption_map, toOption_malformed]
    rfl
  next rest =>
    rw [value]
    split
    next rest' hend =>
      try simp only [hend]
      rfl
    next hmore =>
      -- where the two readers share the match, the split above has settled both
      try (split; exact absurd (by assumption) (hmore _))
      rw [toOption_map, hitems]
      rfl
  next rest =>
    rw [value]
    split
    next rest' hend =>
      try simp only [hend]
      rfl
    next hmore =>
      try (split; exact absurd (by assumption) (hmore _))
      rw [hmembers, toOption_bind]
      cases (plain.members fuel _).toOption with
      | none => rfl
      | some read => rfl
  next =>
    rw [value]
    · exact scalar_plain _
    all_goals assumption

theorem items_succ_plain
    (hvalue : ∀ text, Loads.value (δ := δ) fuel text = (plain.value fuel text).toOption)
    (hitems : ∀ text, Loads.items (δ := δ) fuel text = (plain.items fuel text).toOption)
    (text : List Char) :
    Loads.items (δ := δ) (fuel + 1) text = (plain.items (fuel + 1) text).toOption := by
  rw [Loads.items, items, toOption_bind, hvalue]
  cases (plain.value fuel text).toOption with
  | none => rfl
  | some read =>
    obtain ⟨read, rest⟩ := read
    dsimp only [Option.bind_eq_bind, Option.bind_some]
    split
    next rest' hnext =>
      try simp only [hnext]
      rw [toOption_bind, hitems]
      cases (plain.items fuel (skip rest')).toOption with
      | none => rfl
      | some read => rfl
    next rest' hnext =>
      try simp only [hnext]
      rfl
    next hcomma hbracket =>
      try (split; exact absurd (by assumption) (hcomma _); exact absurd (by assumption) (hbracket _))
      rfl

theorem members_succ_plain
    (hvalue : ∀ text, Loads.value (δ := δ) fuel text = (plain.value fuel text).toOption)
    (hmembers : ∀ text, Loads.members (δ := δ) fuel text = (plain.members fuel text).toOption)
    (text : List Char) :
    Loads.members (δ := δ) (fuel + 1) text = (plain.members (fuel + 1) text).toOption := by
  unfold Loads.members
  split
  next rest =>
    rw [members, toOption_bind, toOption_malformed]
    cases string rest with
    | none => rfl
    | some read =>
      obtain ⟨key, rest⟩ := read
      dsimp only [Option.bind_eq_bind, Option.bind_some]
      split
      next rest' hcolon =>
        try simp only [hcolon]
        rw [toOption_bind, hvalue]
        cases (plain.value fuel (skip rest')).toOption with
        | none => rfl
        | some read =>
          obtain ⟨read, rest⟩ := read
          dsimp only [Option.bind_eq_bind, Option.bind_some]
          split
          next rest' hnext =>
            try simp only [hnext]
            rw [toOption_bind, hmembers]
            cases (plain.members fuel (skip rest')).toOption with
            | none => rfl
            | some read => rfl
          next rest' hnext =>
            try simp only [hnext]
            rfl
          next hcomma hbrace =>
            try (split; exact absurd (by assumption) (hcomma _);
                 exact absurd (by assumption) (hbrace _))
            rfl
      next hcolon =>
        try (split; exact absurd (by assumption) (hcolon _))
        rfl
  next =>
    rw [members]
    · rfl
    all_goals assumption

/-- The three readers go the same way, a step of fuel at a time. -/
theorem readers_plain (fuel : Nat) :
    (∀ text, Loads.value (δ := δ) fuel text = (plain.value fuel text).toOption) ∧
      (∀ text, Loads.items (δ := δ) fuel text = (plain.items fuel text).toOption) ∧
        ∀ text, Loads.members (δ := δ) fuel text = (plain.members fuel text).toOption := by
  induction fuel with
  | zero => exact ⟨fun _ => rfl, fun _ => rfl, fun _ => rfl⟩
  | succ fuel ih =>
    obtain ⟨hvalue, hitems, hmembers⟩ := ih
    exact ⟨value_succ_plain hitems hmembers, items_succ_plain hvalue hitems,
      members_succ_plain hvalue hmembers⟩

/-- **`loads` is the reader that raises nothing.** -/
theorem loads_plain (text : String) :
    Foundation.loads (δ := δ) text = (plain.loads text).toOption := by
  have hread := (readers_plain (δ := δ) (text.toList.length + 1)).1 (skip text.toList)
  rw [Foundation.loads, loads, toOption_bind, hread]
  cases (plain.value (text.toList.length + 1) (skip text.toList)).toOption with
  | none => rfl
  | some read =>
    dsimp only [Option.bind_eq_bind, Option.bind_some]
    split
    · rfl
    · rfl

/-! ## Canonical texts are read back -/

mutual

/-- Mutual with the items of an array and the members of an object. -/
theorem fold_plain : ∀ j : Json, j.Distinct → plain.fold j = .ok (j.toPy (δ := δ))
  | .null, _ => rfl
  | .bool _, _ => rfl
  | .int n, _ => congrArg (fun n => Except.ok (PyValue.int n)) (intOf_repr n)
  | .str _, _ => rfl
  | .arr xs, h => map_ok_iff.mpr ⟨_, foldItems_plain xs h, rfl⟩
  | .obj ms, h => by
    refine bind_ok_iff.mpr ⟨_, foldMembers_plain ms h.2, ?_⟩
    have hkeys : ((Json.membersToPy (δ := δ) ms).map Prod.fst).Nodup := by
      rw [Json.keys_membersToPy]
      exact h.1
    show Except.ok (PyValue.mapping ((dictOf (Json.membersToPy ms)).map _)) = _
    rw [dictOf_of_nodup hkeys]
    rfl

theorem foldItems_plain : ∀ xs : List Json, Json.DistinctItems xs →
    plain.foldItems xs = .ok (Json.itemsToPy (δ := δ) xs)
  | [], _ => rfl
  | x :: xs, h =>
    bind_ok_iff.mpr ⟨_, fold_plain x h.1, bind_ok_iff.mpr ⟨_, foldItems_plain xs h.2, rfl⟩⟩

theorem foldMembers_plain : ∀ ms : List (String × Json), Json.DistinctMembers ms →
    plain.foldMembers ms = .ok (Json.membersToPy (δ := δ) ms)
  | [], _ => rfl
  | (_, x) :: ms, h =>
    bind_ok_iff.mpr ⟨_, fold_plain x h.1, bind_ok_iff.mpr ⟨_, foldMembers_plain ms h.2, rfl⟩⟩

end

end

end JsonHooks

/-- **A canonical text is read back** as the value it was written from, with the members of its
objects in order. -/
theorem loads_canonicalText {δ : Type} {j : Json} (h : j.Distinct) :
    loads (δ := δ) j.canonicalText = some j.sorted.toPy := by
  rw [JsonHooks.loads_plain, Json.canonicalText,
    JsonHooks.loads_render (JsonHooks.fold_plain j.sorted (j.distinct_sorted h))]
  rfl

end Retrywise.Foundation
