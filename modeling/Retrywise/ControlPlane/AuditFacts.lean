import Retrywise.ControlPlane.AuditHash
import Retrywise.Foundation.JsonSize

/-!
# Which facts pass

What the services put into the facts of an entry: machine codes, ULIDs, digests, flags, and
lists of codes. A code always passes. A ULID or a digest passes if it is not a number, that
is, if one of its characters is a letter. Facts that pass are plain text of bounded length,
so that a few of them are never too many bytes.

> `isFactText_ulid_iff`: a ULID is a fact unless it is a number.
>
> `isFacts_iff`: facts under lawful keys pass when every one of them does.
-/

namespace Retrywise.ControlPlane.Audit

open Retrywise.Foundation Retrywise.Domain

/-! ## The characters of a fact -/

/-- The characters that the four forms of a text are made of. -/
def isFactChar (c : Char) : Bool := c.isAlphanum || c = '_' || c = '.' || c = ':' || c = '-'

/-- Digits only. -/
def isNumber (value : String) : Bool := value.toList.all Char.isDigit

theorem isFactChar_of_isUpper {c : Char} (h : c.isUpper = true) : isFactChar c = true := by
  simp [isFactChar, Char.isAlphanum, isAlpha_eq, h]

theorem isFactChar_of_isLower {c : Char} (h : c.isLower = true) : isFactChar c = true := by
  simp [isFactChar, Char.isAlphanum, isAlpha_eq, h]

theorem isFactChar_of_isDigit {c : Char} (h : c.isDigit = true) : isFactChar c = true := by
  simp [isFactChar, Char.isAlphanum, h]

/-- A code: its characters and its length. -/
theorem code_chars {most : Nat} {value : String} (h : isCode most value = true) :
    (∀ c ∈ value.toList, c.isUpper = true ∨ c.isDigit = true ∨ c = '_') ∧
      (∃ c ∈ value.toList, c.isUpper = true) ∧ value.toList.length ≤ most + 1 := by
  unfold isCode at h
  split at h
  next => exact absurd h (by simp)
  next c rest hchars =>
    simp only [Bool.and_eq_true, decide_eq_true_eq, List.all_eq_true, Bool.or_eq_true] at h
    obtain ⟨⟨hc, hlen⟩, hrest⟩ := h
    rw [hchars]
    refine ⟨?_, ⟨c, List.mem_cons_self, hc⟩, Nat.succ_le_succ hlen⟩
    intro d hd
    rcases List.mem_cons.mp hd with rfl | hd
    · exact .inl hc
    · exact or_assoc.mp (hrest d hd)

theorem ulid_chars {value : String} (h : isUlid value = true) :
    (∀ c ∈ value.toList, c.isUpper = true ∨ c.isDigit = true) ∧ value.toList.length = 26 := by
  simp only [isUlid, Bool.and_eq_true, decide_eq_true_eq, List.all_eq_true, Bool.or_eq_true] at h
  exact ⟨fun c hc => (h.2 c hc).symm.imp (fun hup => hup.1.1.1.1) id, h.1⟩

theorem digest_chars {value : String} (h : isDigest value = true) :
    (∀ c ∈ value.toList, c.isLower = true ∨ c.isDigit = true) ∧ value.toList.length = 64 := by
  simp only [isDigest, Bool.and_eq_true, decide_eq_true_eq, List.all_eq_true, Bool.or_eq_true] at h
  refine ⟨?_, h.1⟩
  intro c hc
  rcases h.2 c hc with hdigit | ⟨ha, hf⟩
  · exact .inr hdigit
  · left
    have hle : 'f' ≤ 'z' := by decide
    exact isLower_iff.mpr ⟨UInt32.le_iff_toNat_le.mp ha,
      UInt32.le_iff_toNat_le.mp (Char.le_trans hf hle)⟩

theorem machineId_chars {value : String} (h : isMachineId value = true) :
    (∀ c ∈ value.toList, isFactChar c = true) ∧ value.toList.length ≤ 129 := by
  unfold isMachineId at h
  split at h
  next => exact absurd h (by simp)
  next c rest hchars =>
    obtain ⟨behind, hrest⟩ := List.takeWhile_prefix (fun d => d.isLower || d.isDigit) (l := rest)
    generalize hlead : rest.takeWhile (fun d => d.isLower || d.isDigit) = lead at h hrest
    have hsmall : ∀ d ∈ lead, isFactChar d = true := by
      intro d hd
      rw [← hlead] at hd
      have hkind : (d.isLower || d.isDigit) = true :=
        List.mem_takeWhile_imp (p := fun d : Char => d.isLower || d.isDigit) hd
      rcases Bool.or_eq_true_iff.mp hkind with hlower | hdigit
      · exact isFactChar_of_isLower hlower
      · exact isFactChar_of_isDigit hdigit
    dsimp only at h
    rw [← hrest, List.drop_left] at h
    simp only [Bool.and_eq_true, decide_eq_true_eq] at h
    obtain ⟨⟨hc, hlen⟩, h⟩ := h
    split at h
    next mark d tail =>
      simp only [Bool.and_eq_true, Bool.or_eq_true, decide_eq_true_eq, List.all_eq_true] at h
      obtain ⟨⟨⟨hmark, hd⟩, htail⟩, hall⟩ := h
      rw [hchars, ← hrest]
      constructor
      · intro e he
        simp only [List.mem_cons, List.mem_append] at he
        rcases he with rfl | he | rfl | rfl | he
        · exact isFactChar_of_isLower hc
        · exact hsmall e he
        · rcases hmark with rfl | rfl
          · rfl
          · rfl
        · simp [isFactChar, hd]
        · have hchar := hall e he
          simp only [isFactChar, Bool.or_eq_true, decide_eq_true_eq]
          tauto
      · simp only [List.length_cons, List.length_append]
        omega
    next => exact absurd h (by simp)

/-! ## Texts that are facts -/

/-- What is a fact is made of plain characters, and is not long. -/
theorem factText_chars {value : String} (h : isFactText value = true) :
    (∀ c ∈ value.toList, isFactChar c = true) ∧ value.toList.length ≤ 129 := by
  simp only [isFactText, Bool.and_eq_true, Bool.or_eq_true] at h
  rcases h.1.1.1 with ((hcode | hid) | hulid) | hdigest
  · obtain ⟨hchars, -, hlen⟩ := code_chars hcode
    refine ⟨?_, by omega⟩
    intro c hc
    rcases hchars c hc with hup | hdigit | rfl
    · exact isFactChar_of_isUpper hup
    · exact isFactChar_of_isDigit hdigit
    · rfl
  · exact machineId_chars hid
  · obtain ⟨hchars, hlen⟩ := ulid_chars hulid
    exact ⟨fun c hc => (hchars c hc).elim isFactChar_of_isUpper isFactChar_of_isDigit, by omega⟩
  · obtain ⟨hchars, hlen⟩ := digest_chars hdigest
    exact ⟨fun c hc => (hchars c hc).elim isFactChar_of_isLower isFactChar_of_isDigit, by omega⟩

/-- A text of one of the forms, with no colon and no dot, is a fact unless it is a number. -/
theorem isFactText_iff {value : String}
    (hform : (isMachineCode value || isMachineId value || isUlid value || isDigest value) = true)
    (hcolon : ':' ∉ value.toList) (hdot : '.' ∉ value.toList) (hlen : 7 ≤ value.toList.length) :
    isFactText value = true ↔ isNumber value = false := by
  have hscheme : ¬"://".toList <:+: value.toList := by
    intro hin
    exact hcolon (hin.subset (by decide))
  rw [isFactText, hform, isIpAddress_eq_false hcolon hdot, decide_eq_false hscheme,
    decide_eq_true hlen, isNumber]
  simp

/-- **A ULID is a fact unless it is a number.** -/
theorem isFactText_ulid_iff {value : String} (h : isUlid value = true) :
    isFactText value = true ↔ isNumber value = false := by
  obtain ⟨hchars, hlen⟩ := ulid_chars h
  refine isFactText_iff (by simp [h]) ?_ ?_ (by omega)
  · intro hmem
    exact absurd (hchars _ hmem) (by decide)
  · intro hmem
    exact absurd (hchars _ hmem) (by decide)

/-- A digest is a fact unless it is a number. -/
theorem isFactText_digest_iff {value : String} (h : isDigest value = true) :
    isFactText value = true ↔ isNumber value = false := by
  obtain ⟨hchars, hlen⟩ := digest_chars h
  refine isFactText_iff (by simp [h]) ?_ ?_ (by omega)
  · intro hmem
    exact absurd (hchars _ hmem) (by decide)
  · intro hmem
    exact absurd (hchars _ hmem) (by decide)

/-- A code is a fact: it starts with a letter. -/
theorem isFactText_of_isMachineCode {value : String} (h : isMachineCode value = true) :
    isFactText value = true := by
  obtain ⟨hchars, ⟨c, hc, hup⟩, -⟩ := code_chars h
  have hcolon : ':' ∉ value.toList := by
    intro hmem
    exact absurd (hchars _ hmem) (by decide)
  have hdot : '.' ∉ value.toList := by
    intro hmem
    exact absurd (hchars _ hmem) (by decide)
  have hscheme : ¬"://".toList <:+: value.toList := by
    intro hin
    exact hcolon (hin.subset (by decide))
  have hletter : value.toList.all Char.isDigit = false := by
    rw [List.all_eq_false]
    refine ⟨c, hc, ?_⟩
    have hbig : 65 ≤ c.toNat := (isUpper_iff.mp hup).1
    simp only [Char.isDigit, Bool.and_eq_true, decide_eq_true_eq, not_and,
      UInt32.le_iff_toNat_le, ge_iff_le]
    intro hlow hhigh
    have hnine : c.toNat ≤ 57 := hhigh
    omega
  rw [isFactText, h, isIpAddress_eq_false hcolon hdot, decide_eq_false hscheme, hletter]
  rfl

/-! ## How long facts are -/

theorem isPlainChar_of_isFactChar {c : Char} (h : isFactChar c = true) : isPlainChar c = true := by
  simp only [isFactChar, Char.isAlphanum, isAlpha_eq, isUpper_iff, isLower_iff, Char.isDigit,
    Bool.or_eq_true, Bool.and_eq_true, decide_eq_true_eq, UInt32.le_iff_toNat_le, ge_iff_le] at h
  change ((((((65 ≤ c.toNat ∧ c.toNat ≤ 90) ∨ (97 ≤ c.toNat ∧ c.toNat ≤ 122)) ∨
    (48 ≤ c.toNat ∧ c.toNat ≤ 57)) ∨ c = '_') ∨ c = '.') ∨ c = ':') ∨ c = '-' at h
  rcases h with (((h | rfl) | rfl) | rfl) | rfl
  · have hne : ∀ d : Char, (d.toNat = 34 ∨ d.toNat = 92) → c ≠ d := by
      rintro d hd rfl
      omega
    simp only [isPlainChar, Bool.and_eq_true, decide_eq_true_eq]
    exact ⟨⟨⟨by omega, by omega⟩, hne _ (.inl rfl)⟩, hne _ (.inr rfl)⟩
  all_goals rfl

theorem isPlain_of_isFactText {value : String} (h : isFactText value = true) :
    isPlain value = true := by
  rw [isPlain, List.all_eq_true]
  exact fun c hc => isPlainChar_of_isFactChar ((factText_chars h).1 c hc)

theorem factKey_chars {key : String} (h : isFactKey key = true) :
    isPlain key = true ∧ key.toList.length ≤ 64 := by
  unfold isFactKey isMachineFact at h
  split at h
  next => exact absurd h (by simp)
  next c rest hchars =>
    simp only [Bool.and_eq_true, decide_eq_true_eq, List.all_eq_true, Bool.or_eq_true] at h
    obtain ⟨⟨hc, hlen⟩, hrest⟩ := h
    rw [isPlain, hchars, List.all_eq_true]
    refine ⟨?_, Nat.succ_le_succ hlen⟩
    intro d hd
    apply isPlainChar_of_isFactChar
    rcases List.mem_cons.mp hd with rfl | hd
    · exact isFactChar_of_isLower hc
    · rcases hrest d hd with (hlower | hdigit) | rfl
      · exact isFactChar_of_isLower hlower
      · exact isFactChar_of_isDigit hdigit
      · rfl

mutual

/-- What passes is plain, by recursion on the value. -/
theorem allPlain_of_isFactValue (depth : Nat) : ∀ value : Json,
    isFactValue depth value = true → value.allPlain = true
  | .null, _ => rfl
  | .bool _, _ => rfl
  | .int _, _ => rfl
  | .str _, h => isPlain_of_isFactText (Bool.and_eq_true_iff.mp h).2
  | .obj members, h => membersPlain_of_isFactMembers depth members (Bool.and_eq_true_iff.mp h).2
  | .arr items, h => itemsPlain_of_isFactItems depth items (Bool.and_eq_true_iff.mp h).2

theorem membersPlain_of_isFactMembers (depth : Nat) : ∀ members : List (String × Json),
    isFactMembers depth members = true → Json.membersPlain members = true
  | [], _ => rfl
  | (key, item) :: rest, h => by
    simp only [isFactMembers, Bool.and_eq_true] at h
    rw [Json.membersPlain, (factKey_chars h.1.1.1.1).1, allPlain_of_isFactValue _ item h.1.2,
      membersPlain_of_isFactMembers depth rest h.2]
    rfl

theorem itemsPlain_of_isFactItems (depth : Nat) : ∀ items : List Json,
    isFactItems depth items = true → Json.itemsPlain items = true
  | [], _ => rfl
  | item :: rest, h => by
    simp only [isFactItems, Bool.and_eq_true] at h
    rw [Json.itemsPlain, allPlain_of_isFactValue _ item h.1,
      itemsPlain_of_isFactItems depth rest h.2]
    rfl

end

/-! ## Facts that are few -/

/-- A value with no value inside. -/
def isScalar : Json → Bool
  | .null => true
  | .bool _ => true
  | .str _ => true
  | _ => false

/-- The key is one of a fact. -/
def isLawful (m : String × Json) : Bool :=
  isFactKey m.1 && !hasForbiddenPart m.1 && isCodeWhereDue m.1 m.2

theorem isFactMember_iff {m : String × Json} (h : isLawful m = true) :
    isFactMember 0 m = true ↔ isFactValue 1 m.2 = true := by
  rw [isFactMember, show (isFactKey m.1 && !hasForbiddenPart m.1 && isCodeWhereDue m.1 m.2) = true
    from h, Bool.true_and]

theorem textSize_scalar {value : Json} (hscalar : isScalar value = true)
    (h : isFactValue 1 value = true) : value.textSize ≤ 131 := by
  cases value with
  | null => exact Nat.le_of_ble_eq_true rfl
  | bool flag => exact Nat.le_of_ble_eq_true rfl
  | str text =>
    have htext : isFactText text = true := h
    have hlen := (factText_chars htext).2
    rw [Json.textSize]
    omega
  | int n => exact absurd hscalar (by simp [isScalar])
  | obj members => exact absurd hscalar (by simp [isScalar])
  | arr items => exact absurd hscalar (by simp [isScalar])

theorem itemsSize_texts {texts : List String} (h : ∀ text ∈ texts, isFactText text = true) :
    Json.itemsSize (texts.map .str) ≤ 132 * texts.length + 1 := by
  induction texts with
  | nil => exact Nat.le_of_ble_eq_true rfl
  | cons text texts ih =>
    have hrest := ih fun t ht => h t (List.mem_cons_of_mem _ ht)
    have hlen := (factText_chars (h text List.mem_cons_self)).2
    rw [List.map_cons, Json.itemsSize, Json.textSize, List.length_cons]
    omega

theorem isFactItems_texts {depth : Nat} {texts : List String} (hdepth : depth < 4)
    (h : ∀ text ∈ texts, isFactText text = true) : isFactItems depth (texts.map .str) = true := by
  induction texts with
  | nil => rfl
  | cons text texts ih =>
    rw [List.map_cons, isFactItems, isFactValue, h text List.mem_cons_self,
      ih fun t ht => h t (List.mem_cons_of_mem _ ht), decide_eq_true (by omega)]
    rfl

theorem membersSize_append (ms ns : List (String × Json)) :
    Json.membersSize (ms ++ ns) + 1 = Json.membersSize ms + Json.membersSize ns := by
  rw [Json.membersSize_eq_sum, Json.membersSize_eq_sum, Json.membersSize_eq_sum, List.map_append,
    List.sum_append]
  omega

theorem membersSize_scalars {ms : List (String × Json)} (hlawful : ∀ m ∈ ms, isLawful m = true)
    (hscalar : ∀ m ∈ ms, isScalar m.2 = true) (h : ∀ m ∈ ms, isFactValue 1 m.2 = true) :
    Json.membersSize ms ≤ 200 * ms.length + 1 := by
  induction ms with
  | nil => exact Nat.le_of_ble_eq_true rfl
  | cons m ms ih =>
    obtain ⟨key, value⟩ := m
    have hrest := ih (fun n hn => hlawful n (List.mem_cons_of_mem _ hn))
      (fun n hn => hscalar n (List.mem_cons_of_mem _ hn))
      fun n hn => h n (List.mem_cons_of_mem _ hn)
    have hkey : isFactKey key = true := by
      have hfirst := hlawful _ List.mem_cons_self
      simp only [isLawful, Bool.and_eq_true] at hfirst
      exact hfirst.1.1
    have hlen := (factKey_chars hkey).2
    have hvalue : value.textSize ≤ 131 :=
      textSize_scalar (hscalar _ List.mem_cons_self) (h _ List.mem_cons_self)
    rw [Json.membersSize, List.length_cons]
    omega

/-- **Facts under lawful keys pass when every one of them does**, if they are few. -/
theorem isFacts_iff {ms : List (String × Json)} (hfew : ms.length ≤ 64)
    (hlawful : ∀ m ∈ ms, isLawful m = true)
    (hsize : (∀ m ∈ ms, isFactValue 1 m.2 = true) → Json.membersSize ms < maxFactBytes) :
    isFacts (.obj ms) = true ↔ ∀ m ∈ ms, isFactValue 1 m.2 = true := by
  have hmembers : isFactMembers 0 ms = true ↔ ∀ m ∈ ms, isFactValue 1 m.2 = true := by
    rw [isFactMembers_eq_all, List.all_eq_true]
    exact forall₂_congr fun m hm => isFactMember_iff (hlawful m hm)
  have hdepth : (decide (0 ≤ 4) && decide (ms.length ≤ 64)) = true := by simp [hfew]
  rw [isFacts, isFactValue, hdepth, Bool.true_and, Bool.and_eq_true, hmembers, decide_eq_true_eq]
  constructor
  · exact And.left
  · intro hall
    refine ⟨hall, ?_⟩
    have hplain := membersPlain_of_isFactMembers 0 ms (hmembers.mpr hall)
    have hbytes := Json.utf8ByteSize_canonicalText_le (a := .obj ms) hplain
    rw [Json.textSize] at hbytes
    exact hbytes.trans (hsize hall)

/-- A few facts with nothing inside are never too many bytes. -/
theorem isFacts_iff_of_scalars {ms : List (String × Json)} (hfew : ms.length ≤ 64)
    (hlawful : ∀ m ∈ ms, isLawful m = true) (hscalar : ∀ m ∈ ms, isScalar m.2 = true) :
    isFacts (.obj ms) = true ↔ ∀ m ∈ ms, isFactValue 1 m.2 = true := by
  refine isFacts_iff hfew hlawful ?_
  intro h
  have hsize := membersSize_scalars hlawful hscalar h
  show _ < 16384
  omega

end Retrywise.ControlPlane.Audit
