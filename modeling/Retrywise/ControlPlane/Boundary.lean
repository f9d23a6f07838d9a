import Retrywise.Domain.Values

/-!
# The control plane's boundary

What the services check of every value that enters them: ULIDs of RetryWise rows,
the opaque ids a provider hands out, and the closed facts of a failure. And the
exceptions a service call can end with, by class and text; `database` stands for
what the database driver raises.
-/

namespace Retrywise.ControlPlane

open Retrywise.Foundation Retrywise.Domain

inductive ControlPlaneError where
  | domain (error : DomainError)
  | invalidValue (message : String)
  | providerRead (reason : String)
  | providerTruth (reason : String)
  | methodHealth (reason : String)
  | persistence (operation : String)
  | outboxTransition (message : String)
  | outboxVersionConflict (expected actual : Nat)
  | outboxLease (message : String)
  | outboxNotReady (message : String)
  | outboxFenceLost (message : String)
  | paymentLink (message : String)
  | database (message : String)
deriving DecidableEq, Repr

/-- Inside a service, a domain exception is an exception like any other. -/
def liftDomain {α : Type} : Except DomainError α → Except ControlPlaneError α
  | .ok a => .ok a
  | .error e => .error (.domain e)

@[simp] theorem liftDomain_ok_iff {α : Type} {call : Except DomainError α} {a : α} :
    liftDomain call = .ok a ↔ call = .ok a := by
  cases call with
  | ok b => simp [liftDomain]
  | error e => simp [liftDomain]

/-! ## Identifiers -/

/-- `^[0-9A-HJKMNP-TV-Z]{26}$`. -/
def isUlid (value : String) : Bool :=
  value.toList.length = 26 && value.toList.all fun c =>
    c.isDigit || (c.isUpper && c ≠ 'I' && c ≠ 'L' && c ≠ 'O' && c ≠ 'U')

theorem isAlpha_eq (c : Char) : c.isAlpha = (c.isUpper || c.isLower) := rfl

theorem isUpper_iff {c : Char} : c.isUpper = true ↔ 65 ≤ c.toNat ∧ c.toNat ≤ 90 := by
  show decide (c.val ≥ 'A'.val ∧ c.val ≤ 'Z'.val) = true ↔ _
  rw [decide_eq_true_iff, ge_iff_le, UInt32.le_iff_toNat_le, UInt32.le_iff_toNat_le]
  exact Iff.rfl

theorem isLower_iff {c : Char} : c.isLower = true ↔ 97 ≤ c.toNat ∧ c.toNat ≤ 122 := by
  show (decide (c.val ≥ 'a'.val) && decide (c.val ≤ 'z'.val)) = true ↔ _
  rw [Bool.and_eq_true, decide_eq_true_iff, decide_eq_true_iff, ge_iff_le,
    UInt32.le_iff_toNat_le, UInt32.le_iff_toNat_le]
  exact Iff.rfl

/-- `[A-Za-z0-9_-]`. -/
def isIdChar (c : Char) : Bool := c.isAlphanum || c = '_' || c = '-'

/-- A fixed prefix, and then between one and `most` id characters. -/
def isPrefixedId (lead : String) (most : Nat) (value : String) : Bool :=
  let rest := value.toList.drop lead.length
  lead.toList.isPrefixOf value.toList && decide (1 ≤ rest.length) &&
    decide (rest.length ≤ most) && rest.all isIdChar

/-- `^pay_[A-Za-z0-9_-]{1,124}$`. -/
def isPaymentId : String → Bool := isPrefixedId "pay_" 124

/-- `^order_[A-Za-z0-9_-]{1,122}$`. -/
def isOrderId : String → Bool := isPrefixedId "order_" 122

/-- `^acc_[A-Za-z0-9_-]{1,124}$`. -/
def isProviderAccountIdentifier : String → Bool := isPrefixedId "acc_" 124

/-- `^[A-Za-z][A-Za-z0-9_-]{1,127}$`. -/
def isProviderResourceId (value : String) : Bool :=
  match value.toList with
  | [] => false
  | c :: rest =>
    c.isAlpha && decide (1 ≤ rest.length) && decide (rest.length ≤ 127) && rest.all isIdChar

/-- `^[a-z][a-z0-9_]{0,63}$`. -/
def isMachineFact (value : String) : Bool :=
  match value.toList with
  | [] => false
  | c :: rest =>
    c.isLower && decide (rest.length ≤ 63) &&
      rest.all fun d => d.isLower || d.isDigit || d = '_'

/-- Printable ASCII of bounded length with no blank at either end. -/
def isCleanAscii (maximum : Nat) (value : String) : Bool :=
  value.toList ≠ [] && value.toList.head? ≠ some ' ' && value.toList.getLast? ≠ some ' ' &&
    decide (value.toList.length ≤ maximum) &&
    value.toList.all fun c => decide (32 ≤ c.toNat) && decide (c.toNat < 127)

/-- What `str.strip` takes off. -/
def isSpace (c : Char) : Bool :=
  let n := c.toNat
  (decide (9 ≤ n) && decide (n ≤ 13)) || (decide (28 ≤ n) && decide (n ≤ 32)) ||
    n = 133 || n = 160 || n = 5760 || (decide (8192 ≤ n) && decide (n ≤ 8202)) ||
    n = 8232 || n = 8233 || n = 8239 || n = 8287 || n = 12288

/-- Text of bounded length with no blank at either end and no control character. -/
def isCleanText (maximum : Nat) (value : String) : Bool :=
  value.toList ≠ [] && !value.toList.head?.any isSpace && !value.toList.getLast?.any isSpace &&
    decide (value.toList.length ≤ maximum) &&
    value.toList.all fun c => decide (32 ≤ c.toNat) && c.toNat ≠ 127

/-! ## The checks -/

def requireUlid (value field : String) : Except ControlPlaneError Unit :=
  raiseIf (¬isUlid value) (.invalidValue s!"{field} must be an uppercase Crockford ULID")

def requirePositive (value : Nat) (field : String) : Except ControlPlaneError Unit :=
  raiseIf (value = 0) (.invalidValue s!"{field} must be a positive integer")

/-- `_require_text`. -/
def requireText (value field : String) (maximum : Nat := 512) : Except ControlPlaneError Unit :=
  raiseIf (¬isCleanText maximum value) (.invalidValue s!"{field} must be clean, non-empty text")

/-- `_provider_resource_id`. -/
def requireProviderResourceId (value field : String) : Except ControlPlaneError Unit := do
  raiseIf (¬isCleanAscii 128 value)
    (.invalidValue s!"{field} must be clean bounded ASCII text")
  raiseIf (¬isProviderResourceId value)
    (.invalidValue s!"{field} must be an opaque provider resource id")

/-- `_optional_machine_fact`. -/
def requireMachineFact (value : Option String) (field : String) : Except ControlPlaneError Unit :=
  raiseIf (value.any fun fact => ¬isMachineFact fact)
    (.invalidValue s!"{field} must be a canonical machine fact")

@[simp] theorem requireUlid_ok_iff {value field : String} {u : Unit} :
    requireUlid value field = .ok u ↔ isUlid value = true := by
  rw [requireUlid, raiseIf_ok_iff, not_not]

@[simp] theorem requirePositive_ok_iff {value : Nat} {field : String} {u : Unit} :
    requirePositive value field = .ok u ↔ value ≠ 0 := by
  rw [requirePositive, raiseIf_ok_iff]

@[simp] theorem requireMachineFact_ok_iff {value : Option String} {field : String} {u : Unit} :
    requireMachineFact value field = .ok u ↔ ∀ fact, value = some fact → isMachineFact fact := by
  cases value with
  | none => simp [requireMachineFact]
  | some fact => simp [requireMachineFact]

/-- The text has a first character, and it is no blank. -/
def StartsWithText (value : String) : Prop := ∃ c rest, value.toList = c :: rest ∧ c ≠ ' '

theorem startsWithText_of_requireText {value field : String} {maximum : Nat} {u : Unit}
    (h : requireText value field maximum = .ok u) : StartsWithText value := by
  rw [requireText, raiseIf_ok_iff, not_not] at h
  simp only [isCleanText, Bool.and_eq_true, decide_eq_true_eq, Bool.not_eq_true'] at h
  obtain ⟨⟨⟨⟨hsome, hhead⟩, -⟩, -⟩, -⟩ := h
  cases hchars : value.toList with
  | nil => exact absurd hchars hsome
  | cons c rest =>
    refine ⟨c, rest, hchars, ?_⟩
    intro hblank
    rw [hchars, hblank, List.head?_cons, Option.any_some] at hhead
    exact absurd hhead (by decide)

theorem isIdChar_toNat {c : Char} (h : isIdChar c = true) : 33 ≤ c.toNat ∧ c.toNat < 127 := by
  simp only [isIdChar, Bool.or_eq_true, decide_eq_true_eq] at h
  rcases h with (h | rfl) | rfl
  · -- `isAlphanum`, spelled out
    have h : ((decide (c.val ≥ 'A'.val ∧ c.val ≤ 'Z'.val) ||
        (decide (c.val ≥ 'a'.val) && decide (c.val ≤ 'z'.val))) ||
        (decide (c.val ≥ '0'.val) && decide (c.val ≤ '9'.val))) = true := h
    simp only [Bool.or_eq_true, Bool.and_eq_true, decide_eq_true_eq, UInt32.le_iff_toNat_le,
      ge_iff_le] at h
    have hnat : c.toNat = c.val.toNat := rfl
    have hA : 'A'.val.toNat = 65 := rfl
    have hZ : 'Z'.val.toNat = 90 := rfl
    have ha : 'a'.val.toNat = 97 := rfl
    have hz : 'z'.val.toNat = 122 := rfl
    have h0 : '0'.val.toNat = 48 := rfl
    have h9 : '9'.val.toNat = 57 := rfl
    omega
  · decide
  · decide

/-- Graphic ASCII is clean text. -/
theorem isCleanText_of_graphic {maximum : Nat} {value : String} (hsome : value.toList ≠ [])
    (hlen : value.toList.length ≤ maximum)
    (hall : ∀ c ∈ value.toList, 33 ≤ c.toNat ∧ c.toNat < 127) : isCleanText maximum value = true := by
  have hspace : ∀ c ∈ value.toList, isSpace c = false := by
    intro c hc
    obtain ⟨hlo, hhi⟩ := hall c hc
    simp only [isSpace, Bool.or_eq_false_iff, Bool.and_eq_false_iff, decide_eq_false_iff_not]
    omega
  simp only [isCleanText, Bool.and_eq_true, decide_eq_true_eq, List.all_eq_true,
    Bool.not_eq_true']
  refine ⟨⟨⟨⟨hsome, ?_⟩, ?_⟩, hlen⟩, ?_⟩
  · cases hhead : value.toList.head? with
    | none => rfl
    | some c => exact hspace c (List.mem_of_mem_head? hhead)
  · cases hlast : value.toList.getLast? with
    | none => rfl
    | some c => exact hspace c (List.mem_of_getLast? hlast)
  · intro c hc
    obtain ⟨hlo, hhi⟩ := hall c hc
    exact ⟨by omega, by omega⟩

theorem isCleanText_mono {maximum most : Nat} {value : String} (hroom : maximum ≤ most)
    (h : isCleanText maximum value = true) : isCleanText most value = true := by
  simp only [isCleanText, Bool.and_eq_true, decide_eq_true_eq] at h ⊢
  obtain ⟨⟨hends, hlen⟩, hall⟩ := h
  exact ⟨⟨hends, hlen.trans hroom⟩, hall⟩

theorem graphic_of_all {chars : List Char}
    (h : chars.all (fun c => decide (33 ≤ c.toNat) && decide (c.toNat < 127)) = true) :
    ∀ c ∈ chars, 33 ≤ c.toNat ∧ c.toNat < 127 := by
  intro c hc
  simpa using List.all_eq_true.mp h c hc

/-- A digest behind a graphic prefix is clean text. -/
theorem isCleanText_append_digest {maximum : Nat} {lead digest : String}
    (hlead : lead.toList.all (fun c => decide (33 ≤ c.toNat) && decide (c.toNat < 127)) = true)
    (hdigest : isDigest digest = true)
    (hroom : lead.toList.length + 64 ≤ maximum) : isCleanText maximum (lead ++ digest) = true := by
  have hsafe := isAlphanum_of_isDigest hdigest
  simp only [isDigest, Bool.and_eq_true, decide_eq_true_eq] at hdigest
  have hlen := hdigest.1
  have hchars : (lead ++ digest).toList = lead.toList ++ digest.toList := String.toList_append
  apply isCleanText_of_graphic
  · intro hnil
    have := congrArg List.length (hchars.symm.trans hnil)
    simp [hlen] at this
  · rw [hchars, List.length_append]
    omega
  · intro c hc
    rw [hchars] at hc
    rcases List.mem_append.mp hc with hc | hc
    · exact graphic_of_all hlead c hc
    · exact isIdChar_toNat (by simp [isIdChar, hsafe c hc])

/-- A resource id is clean text. -/
theorem isCleanAscii_of_isProviderResourceId {value : String}
    (h : isProviderResourceId value = true) : isCleanAscii 128 value = true := by
  have hids : value.toList ≠ [] ∧ value.toList.length ≤ 128 ∧ ∀ c ∈ value.toList, isIdChar c := by
    unfold isProviderResourceId at h
    split at h
    next => exact absurd h (by simp)
    next c rest hchars =>
      simp only [Bool.and_eq_true, decide_eq_true_eq, List.all_eq_true] at h
      obtain ⟨⟨⟨hc, -⟩, hlen⟩, hrest⟩ := h
      rw [hchars]
      refine ⟨by simp, ?_, ?_⟩
      · rw [List.length_cons]
        omega
      · intro d hd
        rcases List.mem_cons.mp hd with rfl | hd
        · simp [isIdChar, Char.isAlphanum, hc]
        · exact hrest d hd
  obtain ⟨hsome, hlen, hall⟩ := hids
  have hblank : ∀ c ∈ value.toList, c ≠ ' ' := by
    rintro c hc rfl
    have := (isIdChar_toNat (hall _ hc)).1
    exact absurd this (by decide)
  simp only [isCleanAscii, Bool.and_eq_true, decide_eq_true_eq, List.all_eq_true]
  refine ⟨⟨⟨⟨hsome, ?_⟩, ?_⟩, hlen⟩, ?_⟩
  · intro hhead
    exact hblank _ (List.mem_of_mem_head? hhead) rfl
  · intro hlast
    exact hblank _ (List.mem_of_getLast? hlast) rfl
  · intro c hc
    have := isIdChar_toNat (hall c hc)
    exact ⟨by omega, this.2⟩

@[simp] theorem requireProviderResourceId_ok_iff {value field : String} {u : Unit} :
    requireProviderResourceId value field = .ok u ↔ isProviderResourceId value = true := by
  simp only [requireProviderResourceId, bind_ok_iff, raiseIf_ok_iff, not_not, exists_and_left]
  constructor
  · intro h
    obtain ⟨-, -, hid⟩ := h
    exact hid
  · intro h
    exact ⟨isCleanAscii_of_isProviderResourceId h, (), h⟩

/-! ## Ids of two spellings -/

/-- A prefixed id is a resource id, if the prefix is one and there is room. -/
theorem isProviderResourceId_of_isPrefixedId {value : String} {most : Nat} {c : Char}
    (lead : String) (tail : List Char) (hlead : lead.toList = c :: tail) (hc : c.isAlpha = true)
    (htail : tail.all isIdChar = true) (hroom : tail.length + most ≤ 127)
    (h : isPrefixedId lead most value = true) : isProviderResourceId value = true := by
  simp only [isPrefixedId, Bool.and_eq_true, decide_eq_true_eq, List.isPrefixOf_iff_prefix] at h
  obtain ⟨⟨⟨hleads, hsome⟩, hmost⟩, hall⟩ := h
  obtain ⟨rest, hrest⟩ := hleads
  have hdrop : value.toList.drop lead.length = rest := by
    rw [← hrest, ← String.length_toList, List.drop_left]
  rw [hdrop] at hsome hmost hall
  have hchars : value.toList = c :: (tail ++ rest) := by
    rw [← hrest, hlead, List.cons_append]
  simp only [isProviderResourceId, hchars, Bool.and_eq_true, decide_eq_true_eq,
    List.length_append, List.all_append, htail, hall, hc, and_true, true_and]
  omega

theorem isProviderResourceId_of_isPaymentId {value : String} (h : isPaymentId value = true) :
    isProviderResourceId value = true :=
  isProviderResourceId_of_isPrefixedId "pay_" ['a', 'y', '_'] rfl rfl rfl (by decide) h

theorem isProviderResourceId_of_isOrderId {value : String} (h : isOrderId value = true) :
    isProviderResourceId value = true :=
  isProviderResourceId_of_isPrefixedId "order_" ['r', 'd', 'e', 'r', '_'] rfl rfl rfl (by decide) h

end Retrywise.ControlPlane
