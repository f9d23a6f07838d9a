import Mathlib.Algebra.GroupWithZero.Nat
import Retrywise.Foundation.JsonOrder

/-!
# How long a canonical text is

A value whose strings are printable ASCII without quotes and backslashes is written with
one byte for every character and no escapes. So the bytes of its canonical text are counted
before they are written, and no order of members changes the count.

> `utf8ByteSize_canonicalText_le`: the count is not less than the bytes.
-/

namespace Retrywise.Foundation

/-- Printable ASCII that a quoted string shows as it is. -/
def isPlainChar (c : Char) : Bool :=
  decide (32 ≤ c.toNat) && decide (c.toNat < 127) && c ≠ '"' && c ≠ '\\'

def isPlain (s : String) : Bool := s.toList.all isPlainChar

namespace Json

mutual

/-- Every key and every string is plain. -/
def allPlain : Json → Bool
  | .str s => isPlain s
  | .arr items => itemsPlain items
  | .obj members => membersPlain members
  | .null => true
  | .bool _ => true
  | .int _ => true

def itemsPlain : List Json → Bool
  | [] => true
  | x :: xs => x.allPlain && itemsPlain xs

def membersPlain : List (String × Json) → Bool
  | [] => true
  | (k, x) :: ms => (isPlain k && x.allPlain) && membersPlain ms

end

/-- The bytes of some characters. -/
def byteCount (cs : List Char) : Nat := (cs.map Char.utf8Size).sum

mutual

/-- What the text of a plain value takes, at most. -/
def textSize : Json → Nat
  | .null => 4
  | .bool _ => 5
  | .int n => byteCount n.repr.toList
  | .str s => s.toList.length + 2
  | .arr items => itemsSize items + 1
  | .obj members => membersSize members + 1

/-- With a comma or the closing bracket behind every item. -/
def itemsSize : List Json → Nat
  | [] => 1
  | x :: xs => x.textSize + 1 + itemsSize xs

def membersSize : List (String × Json) → Nat
  | [] => 1
  | (k, x) :: ms => k.toList.length + 4 + x.textSize + membersSize ms

end

/-! ## Counting bytes -/

@[simp] theorem byteCount_cons (c : Char) (cs : List Char) :
    byteCount (c :: cs) = c.utf8Size + byteCount cs := by
  rw [byteCount, List.map_cons, List.sum_cons, byteCount]

@[simp] theorem byteCount_append (cs ds : List Char) :
    byteCount (cs ++ ds) = byteCount cs + byteCount ds := by
  rw [byteCount, List.map_append, List.sum_append, byteCount, byteCount]

theorem utf8ByteSize_ofList (cs : List Char) : (String.ofList cs).utf8ByteSize = byteCount cs := by
  induction cs with
  | nil => rfl
  | cons c cs ih =>
    rw [String.ofList_cons, String.utf8ByteSize_append, String.utf8ByteSize_singleton, ih,
      byteCount_cons]

theorem utf8Size_of_isPlainChar {c : Char} (h : isPlainChar c = true) : c.utf8Size = 1 := by
  simp only [isPlainChar, Bool.and_eq_true, decide_eq_true_eq] at h
  have hlt : c.toNat < 127 := h.1.1.2
  rw [Char.utf8Size_eq_one_iff, UInt32.le_iff_toNat_le]
  exact Nat.le_of_lt hlt

theorem escapeChar_of_isPlainChar {c : Char} (h : isPlainChar c = true) : escapeChar c = [c] := by
  simp only [isPlainChar, Bool.and_eq_true, decide_eq_true_eq] at h
  obtain ⟨⟨⟨hprintable, -⟩, hquote⟩, hslash⟩ := h
  have hne : ∀ d : Char, d.toNat < 32 → c ≠ d := by
    rintro d hd rfl
    omega
  rw [escapeChar, if_neg hquote, if_neg hslash, if_neg (hne _ (by decide)),
    if_neg (hne _ (by decide)), if_neg (hne _ (by decide)), if_neg (hne _ (by decide)),
    if_neg (hne _ (by decide)), if_neg (by omega)]

theorem byteCount_quoteRest {cs : List Char} (h : cs.all isPlainChar = true) :
    byteCount (quoteRest cs) = cs.length + 1 := by
  induction cs with
  | nil => rfl
  | cons c cs ih =>
    rw [List.all_cons, Bool.and_eq_true] at h
    rw [quoteRest, escapeChar_of_isPlainChar h.1, List.singleton_append, byteCount_cons,
      utf8Size_of_isPlainChar h.1, ih h.2, List.length_cons]
    omega

theorem byteCount_quote {s : String} (h : isPlain s = true) :
    byteCount (quote s) = s.toList.length + 2 := by
  rw [quote, byteCount_cons, byteCount_quoteRest h]
  show 1 + _ = _
  omega

/-! ## Counting a text -/

theorem utf8Size_mark : Char.utf8Size ',' = 1 ∧ Char.utf8Size ':' = 1 ∧ Char.utf8Size '[' = 1 ∧
    Char.utf8Size '{' = 1 := by
  decide

mutual

/-- Mutual with items and members, by recursion on the value. -/
theorem byteCount_render_le : ∀ a : Json, a.allPlain = true → byteCount a.render ≤ a.textSize
  | .null, _ => by decide
  | .bool true, _ => by decide
  | .bool false, _ => by decide
  | .int _, _ => le_rfl
  | .str _, h => (byteCount_quote h).le
  | .arr items, h => by
    have hitems := byteCount_renderItems_le items h
    rw [render, textSize, byteCount_cons, utf8Size_mark.2.2.1]
    omega
  | .obj members, h => by
    have hmembers := byteCount_renderMembers_le members h
    rw [render, textSize, byteCount_cons, utf8Size_mark.2.2.2]
    omega

theorem byteCount_renderItems_le : ∀ xs : List Json, itemsPlain xs = true →
    byteCount (renderItems xs) ≤ itemsSize xs
  | [], _ => by decide
  | x :: xs, h => by
    rw [itemsPlain, Bool.and_eq_true] at h
    have hx := byteCount_render_le x h.1
    have hxs := byteCount_renderMoreItems_le xs h.2
    rw [renderItems, itemsSize, byteCount_append]
    omega

theorem byteCount_renderMoreItems_le : ∀ xs : List Json, itemsPlain xs = true →
    byteCount (renderMoreItems xs) ≤ itemsSize xs
  | [], _ => by decide
  | x :: xs, h => by
    rw [itemsPlain, Bool.and_eq_true] at h
    have hx := byteCount_render_le x h.1
    have hxs := byteCount_renderMoreItems_le xs h.2
    rw [renderMoreItems, itemsSize, byteCount_cons, byteCount_append, utf8Size_mark.1]
    omega

theorem byteCount_renderMembers_le : ∀ ms : List (String × Json), membersPlain ms = true →
    byteCount (renderMembers ms) ≤ membersSize ms
  | [], _ => by decide
  | (k, x) :: ms, h => by
    rw [membersPlain, Bool.and_eq_true, Bool.and_eq_true] at h
    have hx := byteCount_render_le x h.1.2
    have hms := byteCount_renderMoreMembers_le ms h.2
    rw [renderMembers, membersSize, byteCount_append, byteCount_quote h.1.1, byteCount_cons,
      byteCount_append, utf8Size_mark.2.1]
    omega

theorem byteCount_renderMoreMembers_le : ∀ ms : List (String × Json), membersPlain ms = true →
    byteCount (renderMoreMembers ms) ≤ membersSize ms
  | [], _ => by decide
  | (k, x) :: ms, h => by
    rw [membersPlain, Bool.and_eq_true, Bool.and_eq_true] at h
    have hx := byteCount_render_le x h.1.2
    have hms := byteCount_renderMoreMembers_le ms h.2
    rw [renderMoreMembers, membersSize, byteCount_cons, byteCount_append, byteCount_quote h.1.1,
      byteCount_cons, byteCount_append, utf8Size_mark.1, utf8Size_mark.2.1]
    omega

end

/-! ## Sorting does not change the count -/

theorem membersPlain_eq_all (ms : List (String × Json)) :
    membersPlain ms = ms.all fun m => isPlain m.1 && m.2.allPlain := by
  induction ms with
  | nil => rfl
  | cons m ms ih =>
    obtain ⟨k, x⟩ := m
    rw [membersPlain, List.all_cons, ih]

theorem membersSize_eq_sum (ms : List (String × Json)) :
    membersSize ms = (ms.map fun m => m.1.toList.length + 4 + m.2.textSize).sum + 1 := by
  induction ms with
  | nil => rfl
  | cons m ms ih =>
    obtain ⟨k, x⟩ := m
    rw [membersSize, List.map_cons, List.sum_cons, ih]
    exact (Nat.add_assoc _ _ _).symm

mutual

theorem counts_sorted : ∀ a : Json, a.sorted.allPlain = a.allPlain ∧ a.sorted.textSize = a.textSize
  | .null => ⟨rfl, rfl⟩
  | .bool _ => ⟨rfl, rfl⟩
  | .int _ => ⟨rfl, rfl⟩
  | .str _ => ⟨rfl, rfl⟩
  | .arr items => by
    obtain ⟨hplain, hsize⟩ := counts_sortedItems items
    rw [sorted, allPlain, allPlain, textSize, textSize, hplain, hsize]
    exact ⟨rfl, rfl⟩
  | .obj members => by
    obtain ⟨hplain, hsize⟩ := counts_members members
    have hperm := sortedMembers_perm members
    rw [sorted, allPlain, allPlain, textSize, textSize, membersPlain_eq_all, hperm.all_eq,
      membersSize_eq_sum, (hperm.map _).sum_nat, List.all_map, List.map_map]
    refine ⟨hplain, ?_⟩
    rw [← hsize]
    rfl

theorem counts_sortedItems : ∀ xs : List Json,
    itemsPlain (sortedItems xs) = itemsPlain xs ∧ itemsSize (sortedItems xs) = itemsSize xs
  | [] => ⟨rfl, rfl⟩
  | x :: xs => by
    obtain ⟨hx, hsize⟩ := counts_sorted x
    obtain ⟨hxs, hsizes⟩ := counts_sortedItems xs
    rw [sortedItems, itemsPlain, itemsPlain, itemsSize, itemsSize, hx, hsize, hxs, hsizes]
    exact ⟨rfl, rfl⟩

theorem counts_members : ∀ ms : List (String × Json),
    (ms.all ((fun m => isPlain m.1 && m.2.allPlain) ∘ fun m => (m.1, m.2.sorted))) =
        membersPlain ms ∧
      (ms.map fun m => m.1.toList.length + 4 + m.2.sorted.textSize).sum + 1 = membersSize ms
  | [] => ⟨rfl, rfl⟩
  | (k, x) :: ms => by
    obtain ⟨hx, hsize⟩ := counts_sorted x
    obtain ⟨hms, hsizes⟩ := counts_members ms
    rw [List.all_cons, List.map_cons, List.sum_cons, membersPlain, membersSize, hms, ← hsizes]
    refine ⟨?_, ?_⟩
    · rw [Function.comp_apply, hx]
    · rw [hsize]
      exact Nat.add_assoc _ _ _

end

/-- **The count of a plain value is not less than the bytes of its canonical text.** -/
theorem utf8ByteSize_canonicalText_le {a : Json} (h : a.allPlain = true) :
    a.canonicalText.utf8ByteSize ≤ a.textSize := by
  obtain ⟨hplain, hsize⟩ := counts_sorted a
  rw [canonicalText, utf8ByteSize_ofList, ← hsize]
  exact byteCount_render_le a.sorted (hplain.trans h)

end Json

end Retrywise.Foundation
