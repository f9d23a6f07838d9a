import Retrywise.Foundation.FixedDigits
import Retrywise.Foundation.TimeRead
import Retrywise.ControlPlane.EffectCommandCodec

/-!
# References of recovery links

`references.py`: the reference a link is made under is a readable piece of the case id and a
truncated digest of the account and the case, joined by a null character. Neither id is asked
to be free of that character, so a pair is not always what the joined text says.

> `references_differ_iff`: of two accepted pairs, each gets a valid reference, and two
> different pairs get two references unless one account id continues the other behind a null
> character, the case ids make up for it, and their readable pieces agree. The truncated digest
> is assumed not to collide on the two joined texts.
-/

namespace Retrywise.ControlPlane.References

open Retrywise.Foundation Retrywise.Domain

/-- `unicodedata.normalize("NFKD", ..)`. The tables are not part of the repository; text in
ASCII is left as it is. -/
class Unicodedata where
  nfkd : String → String
  nfkd_ascii : ∀ text : String, (∀ c ∈ text.toList, c.toNat < 128) → nfkd text = text

/-- `encode("ascii", "ignore").decode("ascii")`. -/
def asciiOnly (text : String) : List Char := text.toList.filter fun c => decide (c.toNat < 128)

/-- `_NON_ALNUM.sub("", ascii_case)[:8] or "case"`. -/
def slug [Unicodedata] (caseId : String) : String :=
  let safe := (((asciiOnly (Unicodedata.nfkd caseId)).map Char.toLower).filter fun c =>
    c.isLower || c.isDigit).take 8
  if safe = [] then "case" else String.ofList safe

/-- `digest_input`, before it is encoded. -/
def digestInput (accountId caseId : String) : String :=
  s!"retrywise:razorpay:recovery-reference:v1\x00{accountId}\x00{caseId}"

/-- `hashlib.sha256(..).digest()[:16]`, in hexadecimal. -/
def truncatedDigest [Hashlib] (bytes : ByteArray) : List Char :=
  (Hashlib.sha256Hexdigest bytes).toList.take 32

/-- `make_recovery_reference_id`. -/
def makeRecoveryReferenceId [Hashlib] [Unicodedata] (recoveryCaseId providerAccountId : String) :
    Except ControlPlaneError String := do
  validatedIdentifier recoveryCaseId "recovery_case_id"
  validatedIdentifier providerAccountId "provider_account_id"
  let digestText := base32Digest
    (Hashlib.sha256Hexdigest (digestInput providerAccountId recoveryCaseId).toUTF8)
  let referenceId := s!"rtw_{slug recoveryCaseId}_{digestText}"
  -- the assertion around format changes
  raiseIf (referenceId.toList.length > 40)
    (.invalidValue "generated Razorpay reference_id exceeds 40 characters")
  return referenceId

/-! ## The digest in base 32 -/

/-- A hexadecimal digit. -/
def isHexDigit (c : Char) : Bool := c.isDigit || ('a' ≤ c && c ≤ 'f')

def nibble (c : Char) : Nat := if c.isDigit then c.toNat - 48 else c.toNat - 87

theorem toNat_of_isHexDigit {c : Char} (h : isHexDigit c = true) :
    (c.isDigit = true ∧ 48 ≤ c.toNat ∧ c.toNat ≤ 57) ∨
      (c.isDigit = false ∧ 97 ≤ c.toNat ∧ c.toNat ≤ 102) := by
  cases hdigit : c.isDigit with
  | true =>
    have hrange := TimeRead.toNat_of_isDigit hdigit
    exact Or.inl ⟨rfl, hrange.1, hrange.2⟩
  | false =>
    simp only [isHexDigit, hdigit, Bool.false_or, Bool.and_eq_true, decide_eq_true_eq] at h
    exact Or.inr ⟨rfl, h.1, h.2⟩

theorem nibble_lt {c : Char} (h : isHexDigit c = true) : nibble c < 16 := by
  rcases toNat_of_isHexDigit h with ⟨hdigit, hlo, hhi⟩ | ⟨hdigit, hlo, hhi⟩
  · rw [nibble, if_pos hdigit]; omega
  · rw [nibble, hdigit, if_neg (by decide)]; omega

theorem nibble_inj {c c' : Char} (h : isHexDigit c = true) (h' : isHexDigit c' = true)
    (heq : nibble c = nibble c') : c = c' := by
  apply Char.toNat_inj.mp
  unfold nibble at heq
  rcases toNat_of_isHexDigit h with ⟨hdigit, hlo, hhi⟩ | ⟨hdigit, hlo, hhi⟩ <;>
    rcases toNat_of_isHexDigit h' with ⟨hdigit', hlo', hhi'⟩ | ⟨hdigit', hlo', hhi'⟩ <;>
    simp only [hdigit, hdigit', if_true, Bool.false_eq_true, if_false] at heq <;> omega

/-- Hexadecimal text, read from the left. -/
def hexValue (text : List Char) (n : Nat) : Nat := text.foldl (fun n c => 16 * n + nibble c) n

theorem hexValue_lt {text : List Char} (hhex : ∀ c ∈ text, isHexDigit c = true) (n : Nat) :
    hexValue text n < (n + 1) * 16 ^ text.length := by
  induction text generalizing n with
  | nil => simp [hexValue]
  | cons c text ih =>
    have hc := nibble_lt (hhex c List.mem_cons_self)
    have hrest := ih (fun c hc => hhex c (List.mem_cons_of_mem _ hc)) (16 * n + nibble c)
    calc hexValue (c :: text) n = hexValue text (16 * n + nibble c) := rfl
      _ < (16 * n + nibble c + 1) * 16 ^ text.length := hrest
      _ ≤ (n + 1) * 16 * 16 ^ text.length := Nat.mul_le_mul_right _ (by omega)
      _ = (n + 1) * 16 ^ (c :: text).length := by
        rw [List.length_cons, Nat.pow_succ', Nat.mul_assoc]

/-- Texts of one length with one value are the same. -/
theorem hexValue_inj {text text' : List Char} (hlen : text.length = text'.length)
    (hhex : ∀ c ∈ text, isHexDigit c = true) (hhex' : ∀ c ∈ text', isHexDigit c = true)
    {n n' : Nat} (h : hexValue text n = hexValue text' n') : n = n' ∧ text = text' := by
  induction text generalizing text' n n' with
  | nil =>
    have hnil := List.length_eq_zero_iff.mp hlen.symm
    subst hnil
    exact ⟨h, rfl⟩
  | cons c text ih =>
    cases text' with
    | nil => exact absurd hlen (by simp)
    | cons c' text' =>
      have hc := hhex c List.mem_cons_self
      have hc' := hhex' c' List.mem_cons_self
      obtain ⟨hnext, rfl⟩ := ih (Nat.succ.inj hlen)
        (fun c hc => hhex c (List.mem_cons_of_mem _ hc))
        (fun c hc => hhex' c (List.mem_cons_of_mem _ hc)) h
      have hlt := nibble_lt hc
      have hlt' := nibble_lt hc'
      have hnext : 16 * n + nibble c = 16 * n' + nibble c' := hnext
      have hsame : c = c' := nibble_inj hc hc' (by omega)
      exact ⟨by omega, by rw [hsame]⟩

/-- `a` to `z`, then `2` to `7`. -/
def base32Digit (n : Nat) : Char := if n < 26 then Char.ofNat (97 + n) else Char.ofNat (24 + n)

theorem toNat_base32Digit :
    ∀ n < 32, (base32Digit n).toNat = if n < 26 then 97 + n else 24 + n := by decide

theorem base32Digit_inj {i j : Nat} (hi : i < 32) (hj : j < 32)
    (h : base32Digit i = base32Digit j) : i = j := by
  have hcodes := congrArg Char.toNat h
  rw [toNat_base32Digit i hi, toNat_base32Digit j hj] at hcodes
  split at hcodes <;> split at hcodes <;> omega

theorem isLower_or_isDigit_base32Digit :
    ∀ n < 32, ((base32Digit n).isLower || (base32Digit n).isDigit) = true := by decide

/-- The digest text is the digits of its bits, with two zeros behind them. -/
theorem toList_base32Digest (hexdigest : String) :
    (base32Digest hexdigest).toList =
      fixedDigits base32Digit 32 26 (4 * hexValue (hexdigest.toList.take 32) 0) := by
  rw [fixedDigits_eq_map_range]
  unfold base32Digest
  dsimp only
  rw [String.toList_ofList]
  refine List.map_congr_left fun i hi => ?_
  have hpow : (2 : Nat) ^ (5 * (25 - i)) = 32 ^ (26 - 1 - i) := by
    rw [Nat.pow_mul]
  rw [Nat.shiftRight_eq_div_pow, hpow]
  rfl

theorem forall_isHexDigit {hexdigest : String} (h : isDigest hexdigest = true) :
    hexdigest.toList.length = 64 ∧ ∀ c ∈ hexdigest.toList, isHexDigit c = true := by
  simp only [isDigest, Bool.and_eq_true, decide_eq_true_eq, List.all_eq_true] at h
  exact h

theorem length_base32Digest (hexdigest : String) : (base32Digest hexdigest).toList.length = 26 := by
  rw [toList_base32Digest, length_fixedDigits]

theorem hexValue_lt_of_isDigest {hexdigest : String} (h : isDigest hexdigest = true) :
    4 * hexValue (hexdigest.toList.take 32) 0 < 32 ^ 26 := by
  have hall : ∀ c ∈ hexdigest.toList.take 32, isHexDigit c = true := fun c hc =>
    (forall_isHexDigit h).2 c (List.mem_of_mem_take hc)
  have hlt := hexValue_lt hall 0
  have hlen : (hexdigest.toList.take 32).length ≤ 32 := List.length_take_le ..
  have hpow : 16 ^ (hexdigest.toList.take 32).length ≤ 16 ^ 32 :=
    Nat.pow_le_pow_right (by decide) hlen
  omega

/-- The base 32 text of a digest says what its first 16 bytes are. -/
theorem take_eq_of_base32Digest_eq {left right : String} (hleft : isDigest left = true)
    (hright : isDigest right = true) (h : base32Digest left = base32Digest right) :
    left.toList.take 32 = right.toList.take 32 := by
  have hwords := congrArg String.toList h
  rw [toList_base32Digest, toList_base32Digest] at hwords
  have hvalue := fixedDigits_inj (fun _ hi _ hj => base32Digit_inj hi hj) (by decide)
    (hexValue_lt_of_isDigest hleft) (hexValue_lt_of_isDigest hright) hwords
  have hsame : hexValue (left.toList.take 32) 0 = hexValue (right.toList.take 32) 0 := by omega
  refine (hexValue_inj ?_ (fun c hc => ?_) (fun c hc => ?_) hsame).2
  · rw [List.length_take, List.length_take, (forall_isHexDigit hleft).1,
      (forall_isHexDigit hright).1]
  · exact (forall_isHexDigit hleft).2 c (List.mem_of_mem_take hc)
  · exact (forall_isHexDigit hright).2 c (List.mem_of_mem_take hc)

/-! ## The joined text -/

/-- Two texts around a separator are others around the same one exactly when the separator
was found at another place. -/
theorem append_cons_eq_iff {α : Type} {separator : α} {left right left' right' : List α} :
    left ++ separator :: right = left' ++ separator :: right' ↔
      (left = left' ∧ right = right') ∨
      (∃ between, left' = left ++ separator :: between ∧
        right = between ++ separator :: right') ∨
      ∃ between, left = left' ++ separator :: between ∧
        right' = between ++ separator :: right := by
  constructor
  · intro h
    rcases List.append_eq_append_iff.mp h with ⟨more, hmore, hrest⟩ | ⟨more, hmore, hrest⟩
    · cases more with
      | nil =>
        rw [List.append_nil] at hmore
        exact Or.inl ⟨hmore.symm, (List.cons.inj hrest).2⟩
      | cons a between =>
        obtain ⟨rfl, hright⟩ := List.cons.inj hrest
        exact Or.inr (Or.inl ⟨between, hmore, hright⟩)
    · cases more with
      | nil =>
        rw [List.append_nil] at hmore
        exact Or.inl ⟨hmore, (List.cons.inj hrest).2.symm⟩
      | cons a between =>
        obtain ⟨rfl, hright⟩ := List.cons.inj hrest
        exact Or.inr (Or.inr ⟨between, hmore, hright⟩)
  · rintro (⟨rfl, rfl⟩ | ⟨between, rfl, rfl⟩ | ⟨between, rfl, rfl⟩)
    · rfl
    · rw [List.append_assoc, List.cons_append]
    · rw [List.append_assoc, List.cons_append]

/-- The account of one pair continues the other account behind a null character, and the case
of the other pair has what is missing. -/
def Continues (caseId accountId caseId' accountId' : String) : Prop :=
  ∃ between : List Char, accountId'.toList = accountId.toList ++ '\x00' :: between ∧
    caseId.toList = between ++ '\x00' :: caseId'.toList

theorem Continues.irrefl {caseId accountId : String} :
    ¬Continues caseId accountId caseId accountId := by
  rintro ⟨between, haccount, -⟩
  have hlen := congrArg List.length haccount
  rw [List.length_append, List.length_cons] at hlen
  omega

theorem toList_digestInput (accountId caseId : String) :
    (digestInput accountId caseId).toList =
      "retrywise:razorpay:recovery-reference:v1\x00".toList ++
        (accountId.toList ++ '\x00' :: caseId.toList) := by
  have hseparator : "\x00".toList = ['\x00'] := by decide
  show ("retrywise:razorpay:recovery-reference:v1\x00" ++ accountId ++ "\x00" ++ caseId).toList = _
  rw [String.toList_append, String.toList_append, String.toList_append, hseparator,
    List.append_assoc, List.append_assoc, List.singleton_append]

/-- **What the joined text does not tell apart.** -/
theorem digestInput_eq_iff {caseId accountId caseId' accountId' : String} :
    digestInput accountId caseId = digestInput accountId' caseId' ↔
      (caseId = caseId' ∧ accountId = accountId') ∨
        Continues caseId accountId caseId' accountId' ∨
        Continues caseId' accountId' caseId accountId := by
  rw [← String.toList_inj, toList_digestInput, toList_digestInput, List.append_cancel_left_eq,
    append_cons_eq_iff, String.toList_inj, String.toList_inj, and_comm (a := caseId = caseId')]
  rfl

/-! ## Accepted pairs -/

theorem graphic_of_safe {c : Char} (h : (c.isLower || c.isDigit || c = '_') = true) :
    33 ≤ c.toNat ∧ c.toNat < 127 := by
  simp only [Bool.or_eq_true, decide_eq_true_eq] at h
  rcases h with (hlower | hdigit) | rfl
  · have hrange := isLower_iff.mp hlower
    omega
  · have hrange := TimeRead.toNat_of_isDigit hdigit
    omega
  · decide

section

variable [Hashlib] [Unicodedata]

/-- What the reference of a pair is, once its checks are passed. -/
def referenceOf (caseId accountId : String) : String :=
  s!"rtw_{slug caseId}_{base32Digest (Hashlib.sha256Hexdigest (digestInput accountId caseId).toUTF8)}"

/-- Both ids are accepted. -/
def Accepted (caseId accountId : String) : Prop :=
  validatedIdentifier caseId "recovery_case_id" = .ok () ∧
    validatedIdentifier accountId "provider_account_id" = .ok ()

/-- A reference the provider takes: clean text of at most 40 lowercase characters. -/
structure ValidReference (reference : String) : Prop where
  clean : isCleanText 40 reference = true
  safe : ∀ c ∈ reference.toList, (c.isLower || c.isDigit || c = '_') = true

omit [Hashlib] in
theorem slug_spec (caseId : String) :
    (slug caseId).toList.length ≤ 8 ∧
      ∀ c ∈ (slug caseId).toList, (c.isLower || c.isDigit) = true := by
  unfold slug
  dsimp only
  split
  next =>
    exact ⟨by decide, List.all_eq_true.mp
      (by decide : ("case".toList.all fun c => c.isLower || c.isDigit) = true)⟩
  next =>
    rw [String.toList_ofList]
    refine ⟨List.length_take_le _ _, fun c hc => ?_⟩
    have hkept := List.of_mem_filter (List.mem_of_mem_take hc)
    exact hkept

theorem toList_referenceOf (caseId accountId : String) :
    (referenceOf caseId accountId).toList = ['r', 't', 'w', '_'] ++ ((slug caseId).toList ++
      '_' :: (base32Digest
        (Hashlib.sha256Hexdigest (digestInput accountId caseId).toUTF8)).toList) := by
  have hlead : "rtw_".toList = ['r', 't', 'w', '_'] := by decide
  have hbar : "_".toList = ['_'] := by decide
  show ("rtw_" ++ slug caseId ++ "_" ++ base32Digest _).toList = _
  rw [String.toList_append, String.toList_append, String.toList_append, hlead, hbar,
    List.append_assoc, List.append_assoc, List.singleton_append]

theorem length_referenceOf (caseId accountId : String) :
    (referenceOf caseId accountId).toList.length ≤ 40 := by
  have hslug := (slug_spec caseId).1
  rw [toList_referenceOf]
  simp only [List.length_append, List.length_cons, List.length_nil, length_base32Digest]
  omega

/-- The assertion never fails, so nothing but the checks of the ids can. -/
theorem makeRecoveryReferenceId_eq (caseId accountId : String) :
    makeRecoveryReferenceId caseId accountId = do
      validatedIdentifier caseId "recovery_case_id"
      validatedIdentifier accountId "provider_account_id"
      return referenceOf caseId accountId := by
  have hlen : ¬(referenceOf caseId accountId).toList.length > 40 := by
    have hle := length_referenceOf caseId accountId
    omega
  unfold makeRecoveryReferenceId
  show (validatedIdentifier caseId "recovery_case_id" >>= fun _ =>
    validatedIdentifier accountId "provider_account_id" >>= fun _ =>
    raiseIf ((referenceOf caseId accountId).toList.length > 40) _ >>= fun _ =>
    pure (referenceOf caseId accountId)) = _
  rw [raiseIf_of_not _ hlen]
  rfl

theorem makeRecoveryReferenceId_ok_iff {caseId accountId reference : String} :
    makeRecoveryReferenceId caseId accountId = .ok reference ↔
      Accepted caseId accountId ∧ reference = referenceOf caseId accountId := by
  rw [makeRecoveryReferenceId_eq]
  unfold Accepted
  simp only [bind_ok_iff, pure_ok_iff]
  constructor
  · rintro ⟨_, hcase, _, haccount, rfl⟩
    exact ⟨⟨hcase, haccount⟩, rfl⟩
  · rintro ⟨⟨hcase, haccount⟩, rfl⟩
    exact ⟨(), hcase, (), haccount, rfl⟩

/-- Of a case id in ASCII, as those of the database are, it is the reference that commands are
checked against. -/
theorem makeRecoveryReferenceId_of_ascii {caseId : String}
    (hascii : ∀ c ∈ caseId.toList, c.toNat < 128) (accountId : String) :
    makeRecoveryReferenceId caseId accountId = checkedRecoveryReferenceId caseId accountId := by
  have hkept : asciiOnly (Unicodedata.nfkd caseId) = caseId.toList := by
    rw [Unicodedata.nfkd_ascii caseId hascii]
    exact List.filter_eq_self.mpr fun c hc => decide_eq_true (hascii c hc)
  have hreference : referenceOf caseId accountId =
      ControlPlane.makeRecoveryReferenceId accountId caseId := by
    unfold referenceOf slug
    rw [hkept]
    rfl
  rw [makeRecoveryReferenceId_eq, hreference]
  rfl

theorem validReference_referenceOf (caseId accountId : String) :
    ValidReference (referenceOf caseId accountId) := by
  have hsafe : ∀ c ∈ (referenceOf caseId accountId).toList,
      (c.isLower || c.isDigit || c = '_') = true := by
    intro c hc
    rw [toList_referenceOf] at hc
    simp only [List.mem_append, List.mem_cons, List.not_mem_nil, or_false] at hc
    rcases hc with (rfl | rfl | rfl | rfl) | hc | rfl | hc
    · decide
    · decide
    · decide
    · decide
    · rw [(slug_spec caseId).2 c hc, Bool.true_or]
    · decide
    · rw [toList_base32Digest] at hc
      obtain ⟨d, hd, rfl⟩ := exists_of_mem_fixedDigits (by decide) hc
      rw [isLower_or_isDigit_base32Digit d hd, Bool.true_or]
  refine ⟨isCleanText_of_graphic ?_ (length_referenceOf caseId accountId) fun c hc => ?_, hsafe⟩
  · rw [toList_referenceOf]
    exact List.cons_ne_nil _ _
  · exact graphic_of_safe (hsafe c hc)

/-- References are equal exactly when their readable pieces and their digests are. -/
theorem referenceOf_eq_iff {caseId accountId caseId' accountId' : String} :
    referenceOf caseId accountId = referenceOf caseId' accountId' ↔
      slug caseId = slug caseId' ∧
        base32Digest (Hashlib.sha256Hexdigest (digestInput accountId caseId).toUTF8) =
          base32Digest (Hashlib.sha256Hexdigest (digestInput accountId' caseId').toUTF8) := by
  rw [← String.toList_inj, toList_referenceOf, toList_referenceOf, List.append_cancel_left_eq]
  constructor
  · intro h
    obtain ⟨hslug, hrest⟩ := List.append_inj' h (by
      rw [List.length_cons, List.length_cons, length_base32Digest, length_base32Digest])
    exact ⟨String.toList_inj.mp hslug, String.toList_inj.mp (List.cons.inj hrest).2⟩
  · rintro ⟨hslug, hdigest⟩
    rw [hslug, hdigest]

/-- **Two accepted pairs get two valid references**, exactly unless one account id continues
the other behind a null character, the case ids make up for it, and their readable pieces
agree. The truncated digest is assumed not to collide on the two texts. -/
theorem references_differ_iff {caseId accountId caseId' accountId' reference reference' : String}
    (hmade : makeRecoveryReferenceId caseId accountId = .ok reference)
    (hmade' : makeRecoveryReferenceId caseId' accountId' = .ok reference')
    (hinjective : truncatedDigest (digestInput accountId caseId).toUTF8 =
        truncatedDigest (digestInput accountId' caseId').toUTF8 →
      (digestInput accountId caseId).toUTF8 = (digestInput accountId' caseId').toUTF8) :
    (ValidReference reference ∧ ValidReference reference' ∧
      ((caseId, accountId) ≠ (caseId', accountId') → reference ≠ reference')) ↔
    ¬(slug caseId = slug caseId' ∧
      (Continues caseId accountId caseId' accountId' ∨
        Continues caseId' accountId' caseId accountId)) := by
  obtain ⟨-, rfl⟩ := makeRecoveryReferenceId_ok_iff.mp hmade
  obtain ⟨-, rfl⟩ := makeRecoveryReferenceId_ok_iff.mp hmade'
  constructor
  · rintro ⟨-, -, hdiffer⟩ ⟨hslug, hcontinues⟩
    have hinput : digestInput accountId caseId = digestInput accountId' caseId' :=
      digestInput_eq_iff.mpr (Or.inr hcontinues)
    refine hdiffer (fun hsame => ?_) (referenceOf_eq_iff.mpr ⟨hslug, by rw [hinput]⟩)
    obtain ⟨rfl, rfl⟩ := Prod.mk.inj hsame
    exact hcontinues.elim Continues.irrefl Continues.irrefl
  · intro hnot
    refine ⟨validReference_referenceOf _ _, validReference_referenceOf _ _, fun hne heq => ?_⟩
    obtain ⟨hslug, hdigest⟩ := referenceOf_eq_iff.mp heq
    have htruncated := take_eq_of_base32Digest_eq (Hashlib.isDigest_sha256Hexdigest _)
      (Hashlib.isDigest_sha256Hexdigest _) hdigest
    have hinput := String.toByteArray_inj.mp (hinjective htruncated)
    rcases digestInput_eq_iff.mp hinput with ⟨rfl, rfl⟩ | hcontinues
    · exact hne rfl
    · exact hnot ⟨hslug, hcontinues⟩

end

/-! ## Two pairs with one reference -/

/-- The tables, for text in ASCII. -/
@[reducible] def asciiTables : Unicodedata where
  nfkd text := text
  nfkd_ascii _ _ := rfl

theorem accepted_sample :
    Accepted "c" "a\x00!" ∧ Accepted "!\x00c" "a" := by
  unfold Accepted validatedIdentifier
  decide +kernel

theorem continues_sample : Continues "!\x00c" "a" "c" "a\x00!" := ⟨['!'], by decide, by decide⟩

theorem digestInput_sample : digestInput "a\x00!" "c" = digestInput "a" "!\x00c" :=
  digestInput_eq_iff.mpr (Or.inr (Or.inr continues_sample))

/-- The pair is told apart by nothing: the joined texts are the same, so the digest does not
collide on them. -/
theorem references_differ_sample :
    ¬(@ValidReference (@referenceOf hashlib asciiTables "c" "a\x00!") ∧
      ValidReference (@referenceOf hashlib asciiTables "!\x00c" "a") ∧
      (("c", "a\x00!") ≠ ("!\x00c", "a") →
        @referenceOf hashlib asciiTables "c" "a\x00!" ≠
          @referenceOf hashlib asciiTables "!\x00c" "a")) := by
  let _ := asciiTables
  intro h
  refine (references_differ_iff (makeRecoveryReferenceId_ok_iff.mpr ⟨accepted_sample.1, rfl⟩)
    (makeRecoveryReferenceId_ok_iff.mpr ⟨accepted_sample.2, rfl⟩) fun _ => ?_).mp h
    ⟨by decide +kernel, Or.inr continues_sample⟩
  rw [digestInput_sample]

/-- Two accepted pairs, with the real digest, and one reference for both. -/
theorem references_collide :
    ¬∀ (_ : Unicodedata) (caseId accountId caseId' accountId' reference reference' : String),
      makeRecoveryReferenceId caseId accountId = .ok reference →
      makeRecoveryReferenceId caseId' accountId' = .ok reference' →
      (truncatedDigest (digestInput accountId caseId).toUTF8 =
          truncatedDigest (digestInput accountId' caseId').toUTF8 →
        (digestInput accountId caseId).toUTF8 = (digestInput accountId' caseId').toUTF8) →
      ValidReference reference ∧ ValidReference reference' ∧
        ((caseId, accountId) ≠ (caseId', accountId') → reference ≠ reference') := by
  intro h
  let _ := asciiTables
  have hslug : slug "c" = slug "!\x00c" := by decide +kernel
  obtain ⟨-, -, hdiffer⟩ := h asciiTables "c" "a\x00!" "!\x00c" "a" _ _
    (makeRecoveryReferenceId_ok_iff.mpr ⟨accepted_sample.1, rfl⟩)
    (makeRecoveryReferenceId_ok_iff.mpr ⟨accepted_sample.2, rfl⟩)
    (fun _ => by rw [digestInput_sample])
  exact hdiffer (by decide) (referenceOf_eq_iff.mpr ⟨hslug, by rw [digestInput_sample]⟩)

end Retrywise.ControlPlane.References
