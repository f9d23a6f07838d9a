import Retrywise.ControlPlane.Boundary
import Retrywise.ControlPlane.CommandPayload
import Retrywise.Foundation.JsonSize

/-!
# Which documents fit

What `_walk_json` adds up is not more than the text of a document, as long as its strings are
printed as they are. So a shallow document of such strings, with integers of 64 bits, is within
every bound of the codec as soon as its text is.

> `boundedCanonicalBytes_of_within`: such a document passes the encoder's bounds.
-/

namespace Retrywise.ControlPlane

open Retrywise.Foundation Retrywise.Domain

mutual

/-- No deeper than the codec goes, and no integer of more than 64 bits. -/
def within (depth : Nat) : Json → Bool
  | .null => decide (depth ≤ 12)
  | .bool _ => decide (depth ≤ 12)
  | .int n => decide (depth ≤ 12) && decide (-9223372036854775808 ≤ n) &&
    decide (n ≤ 9223372036854775807)
  | .str _ => decide (depth ≤ 12)
  | .arr items => decide (depth ≤ 12) && itemsWithin (depth + 1) items
  | .obj members => decide (depth ≤ 12) && membersWithin (depth + 1) members

def itemsWithin (depth : Nat) : List Json → Bool
  | [] => true
  | x :: xs => within depth x && itemsWithin depth xs

def membersWithin (depth : Nat) : List (String × Json) → Bool
  | [] => true
  | (_, x) :: ms => within depth x && membersWithin depth ms

end

theorem size_toUTF8_of_isPlain {s : String} (h : isPlain s = true) :
    s.toUTF8.size = s.toList.length := by
  have hsum : ∀ cs : List Char, cs.all isPlainChar = true → Json.byteCount cs = cs.length := by
    intro cs
    induction cs with
    | nil => exact fun _ => rfl
    | cons c cs ih =>
      intro hall
      rw [List.all_cons, Bool.and_eq_true] at hall
      rw [Json.byteCount_cons, Json.utf8Size_of_isPlainChar hall.1, ih hall.2, List.length_cons,
        Nat.add_comm]
  have hbytes := Json.utf8ByteSize_ofList s.toList
  rw [String.ofList_toList] at hbytes
  exact hbytes.trans (hsum s.toList h)

theorem length_le_byteCount (cs : List Char) : cs.length ≤ Json.byteCount cs := by
  induction cs with
  | nil => exact Nat.zero_le _
  | cons c cs ih =>
    have hsize := c.utf8Size_pos
    rw [Json.byteCount_cons, List.length_cons]
    omega

mutual

/-- What is added up is not more than the text. Mutual with the items of an array and the members
of an object. -/
theorem walkSize_le : ∀ j : Json, j.allPlain = true → walkSize j ≤ j.textSize
  | .null, _ => le_rfl
  | .bool _, _ => by rw [walkSize, Json.textSize]; omega
  | .int n, _ => by
    rw [walkSize, Json.textSize, ← String.length_toList]
    exact length_le_byteCount _
  | .str s, h => by rw [walkSize, Json.textSize, size_toUTF8_of_isPlain h]
  | .arr items, h => by
    have hitems := itemsWalk_le items h
    rw [walkSize, Json.textSize]
    omega
  | .obj members, h => by
    have hmembers := membersWalk_le members h
    rw [walkSize, Json.textSize]
    omega

theorem itemsWalk_le : ∀ xs : List Json, Json.itemsPlain xs = true →
    itemsWalk xs + 1 ≤ Json.itemsSize xs
  | [], _ => le_rfl
  | x :: xs, h => by
    rw [Json.itemsPlain, Bool.and_eq_true] at h
    have hx := walkSize_le x h.1
    have hxs := itemsWalk_le xs h.2
    rw [itemsWalk, Json.itemsSize]
    omega

theorem membersWalk_le : ∀ ms : List (String × Json), Json.membersPlain ms = true →
    membersWalk ms + 1 ≤ Json.membersSize ms
  | [], _ => le_rfl
  | (k, x) :: ms, h => by
    rw [Json.membersPlain, Bool.and_eq_true, Bool.and_eq_true] at h
    have hx := walkSize_le x h.1.2
    have hms := membersWalk_le ms h.2
    rw [membersWalk, Json.membersSize, size_toUTF8_of_isPlain h.1.1]
    omega

end

mutual

/-- Mutual with the items of an array and the members of an object. -/
theorem fits_of_within : ∀ {depth : Nat} (j : Json), within depth j = true →
    j.allPlain = true → j.textSize ≤ maxEffectCommandBytes → Fits depth j
  | depth, .null, h, _, _ => (of_decide_eq_true h : depth ≤ 12)
  | depth, .bool _, h, _, _ => (of_decide_eq_true h : depth ≤ 12)
  | _, .int n, h, _, _ => by
    simp only [within, Bool.and_eq_true, decide_eq_true_eq] at h
    exact ⟨h.1.1, h.1.2, h.2⟩
  | _, .str s, h, hplain, hsize => by
    refine ⟨of_decide_eq_true h, ?_⟩
    rw [size_toUTF8_of_isPlain hplain]
    exact hsize
  | _, .arr items, h, hplain, hsize => by
    rw [within, Bool.and_eq_true, decide_eq_true_eq] at h
    have hwalk := itemsWalk_le items hplain
    rw [Json.textSize] at hsize
    exact ⟨h.1, by omega, fitsItems_of_within items h.2 hplain (by omega)⟩
  | _, .obj members, h, hplain, hsize => by
    rw [within, Bool.and_eq_true, decide_eq_true_eq] at h
    have hwalk := membersWalk_le members hplain
    rw [Json.textSize] at hsize
    exact ⟨h.1, by omega, fitsMembers_of_within members h.2 hplain (by omega)⟩

theorem fitsItems_of_within : ∀ {depth : Nat} (xs : List Json), itemsWithin depth xs = true →
    Json.itemsPlain xs = true → Json.itemsSize xs ≤ maxEffectCommandBytes → FitsItems depth xs
  | _, [], _, _, _ => trivial
  | _, x :: xs, h, hplain, hsize => by
    rw [itemsWithin, Bool.and_eq_true] at h
    rw [Json.itemsPlain, Bool.and_eq_true] at hplain
    rw [Json.itemsSize] at hsize
    exact ⟨fits_of_within x h.1 hplain.1 (by omega),
      fitsItems_of_within xs h.2 hplain.2 (by omega)⟩

theorem fitsMembers_of_within : ∀ {depth : Nat} (ms : List (String × Json)),
    membersWithin depth ms = true → Json.membersPlain ms = true →
      Json.membersSize ms ≤ maxEffectCommandBytes → FitsMembers depth ms
  | _, [], _, _, _ => trivial
  | _, (k, x) :: ms, h, hplain, hsize => by
    rw [membersWithin, Bool.and_eq_true] at h
    rw [Json.membersPlain, Bool.and_eq_true, Bool.and_eq_true] at hplain
    rw [Json.membersSize] at hsize
    exact ⟨fits_of_within x h.1 hplain.1.2 (by omega),
      fitsMembers_of_within ms h.2 hplain.2 (by omega)⟩

end

/-- **A shallow document of printable strings passes the bounds as its text does.** -/
theorem boundedCanonicalBytes_of_within {j : Json} (h : within 0 j = true)
    (hplain : j.allPlain = true) (hsize : j.textSize ≤ maxEffectCommandBytes) :
    boundedCanonicalBytes j = .ok (canonicalJsonBytes j) := by
  have hshort : (canonicalJsonBytes j).size ≤ maxEffectCommandBytes :=
    (Json.utf8ByteSize_canonicalText_le hplain).trans hsize
  unfold boundedCanonicalBytes
  rw [bind_of_ok ((walkJson_ok_iff j).mpr ⟨fits_of_within j h hplain hsize, rfl⟩)]
  dsimp only
  rw [bind_of_ok (raiseIf_of_not _ (Nat.not_lt.mpr hshort))]
  rfl

theorem membersWithin_append (depth : Nat) (ms ns : List (String × Json)) :
    membersWithin depth (ms ++ ns) = (membersWithin depth ms && membersWithin depth ns) := by
  induction ms with
  | nil => rfl
  | cons m ms ih =>
    obtain ⟨k, x⟩ := m
    rw [List.cons_append, membersWithin, ih, membersWithin, Bool.and_assoc]

theorem membersPlain_append (ms ns : List (String × Json)) :
    Json.membersPlain (ms ++ ns) = (Json.membersPlain ms && Json.membersPlain ns) := by
  rw [Json.membersPlain_eq_all, Json.membersPlain_eq_all, Json.membersPlain_eq_all,
    List.all_append]

theorem membersSize_append (ms ns : List (String × Json)) :
    Json.membersSize (ms ++ ns) + 1 = Json.membersSize ms + Json.membersSize ns := by
  rw [Json.membersSize_eq_sum, Json.membersSize_eq_sum, Json.membersSize_eq_sum, List.map_append,
    List.sum_append]
  omega

/-! ## Printable strings -/

theorem isPlainChar_of_isIdChar {c : Char} (h : isIdChar c = true) : isPlainChar c = true := by
  have hrange := isIdChar_toNat h
  have hquote : c ≠ '"' := by
    rintro rfl
    exact absurd h (by decide)
  have hslash : c ≠ '\\' := by
    rintro rfl
    exact absurd h (by decide)
  simp only [isPlainChar, Bool.and_eq_true, decide_eq_true_eq]
  exact ⟨⟨⟨by omega, by omega⟩, hquote⟩, hslash⟩

theorem isPlainChar_of_isAlphanum {c : Char} (h : c.isAlphanum = true) : isPlainChar c = true := by
  refine isPlainChar_of_isIdChar ?_
  rw [isIdChar, h]
  rfl

theorem isPlain_of_isDigest {s : String} (h : isDigest s = true) : isPlain s = true :=
  List.all_eq_true.mpr fun c hc => isPlainChar_of_isAlphanum (isAlphanum_of_isDigest h c hc)

theorem length_sha256Hexdigest [Hashlib] (bytes : ByteArray) :
    (Hashlib.sha256Hexdigest bytes).toList.length = 64 := by
  have hdigest := Hashlib.isDigest_sha256Hexdigest bytes
  simp only [isDigest, Bool.and_eq_true, decide_eq_true_eq] at hdigest
  exact hdigest.1

theorem length_actionKey [Hashlib] (p : ProposalFields) : p.actionKey.toList.length = 68 := by
  have hlead : "act_".toList.length = 4 := by decide
  rw [ProposalFields.actionKey, String.toList_append, List.length_append, hlead, sha256Json,
    length_sha256Hexdigest]

theorem isPlain_sha256Hexdigest [Hashlib] (bytes : ByteArray) :
    isPlain (Hashlib.sha256Hexdigest bytes) = true :=
  isPlain_of_isDigest (Hashlib.isDigest_sha256Hexdigest bytes)

/-- The characters of an identifier. -/
theorem chars_of_isIdentifier {s : String} (h : isIdentifier s = true) :
    s.toList ≠ [] ∧ ∀ c ∈ s.toList,
      (((c.isAlphanum = true ∨ c = '_') ∨ c = '.') ∨ c = ':') ∨ c = '-' := by
  unfold isIdentifier at h
  split at h
  next => exact nomatch h
  next c rest hchars =>
    simp only [Bool.and_eq_true, List.all_eq_true, Bool.or_eq_true, decide_eq_true_eq] at h
    obtain ⟨⟨hfirst, -⟩, hrest⟩ := h
    rw [hchars]
    refine ⟨List.cons_ne_nil _ _, fun d hd => ?_⟩
    rcases List.mem_cons.mp hd with rfl | hd
    · exact .inl (.inl (.inl (.inl hfirst)))
    · exact hrest d hd

theorem isPlain_of_isIdentifier {s : String} (h : isIdentifier s = true) : isPlain s = true := by
  rw [isPlain, List.all_eq_true]
  intro c hc
  rcases (chars_of_isIdentifier h).2 c hc with (((halnum | rfl) | rfl) | rfl) | rfl
  · exact isPlainChar_of_isAlphanum halnum
  · decide
  · decide
  · decide
  · decide

/-- An identifier is clean text. -/
theorem isCleanText_of_isIdentifier {maximum : Nat} {s : String} (h : isIdentifier s = true)
    (hshort : s.toList.length ≤ maximum) : isCleanText maximum s = true := by
  obtain ⟨hsome, hchars⟩ := chars_of_isIdentifier h
  refine isCleanText_of_graphic hsome hshort fun c hc => ?_
  rcases hchars c hc with (((halnum | rfl) | rfl) | rfl) | rfl
  · refine isIdChar_toNat ?_
    rw [isIdChar, halnum]
    rfl
  · decide
  · decide
  · decide
  · decide

end Retrywise.ControlPlane
