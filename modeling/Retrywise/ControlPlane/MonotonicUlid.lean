import Retrywise.Foundation.FixedDigits
import Retrywise.Foundation.Raise
import Retrywise.ControlPlane.Boundary

/-!
# Identifiers of the inbox

`_MonotonicUlidFactory` of `postgres_inbox.py`: a millisecond timestamp of 48 bits and 80
random bits, written in 26 digits of base 32. The clock may stall, jump or go back, and both
sources may hand over anything.

> `ulids_increase`: the identifiers of one factory strictly increase, a call that fails leaves
> the factory as it was, and a call of healthy sources fails only at the end of the range.

What carries it is one number, `State.number`: every call that returns moves it up, and the
text returned is that number in digits of one width (`Foundation.FixedDigits`).
-/

namespace Retrywise.ControlPlane.MonotonicUlid

open Retrywise.Foundation

/-! ## The digits -/

def maxUlidTimestamp : Nat := 2 ^ 48 - 1

def maxUlidRandomness : Nat := 2 ^ 80 - 1

def crockfordBase32 : List Char := "0123456789ABCDEFGHJKMNPQRSTVWXYZ".toList

/-- `_CROCKFORD_BASE32[..]`. -/
def crockford (digit : Nat) : Char := crockfordBase32.getD digit '0'

/-- The loop of `_encode_ulid`: `index` characters are still to be set. -/
def encodeFrom : Nat → Nat → List Char → List Char
  | 0, _, characters => characters
  | index + 1, value, characters =>
    encodeFrom index (value >>> 5) (crockford (value &&& 31) :: characters)

def encodeUlid (value : Nat) : String := String.ofList (encodeFrom 26 value [])

/-! ## The factory -/

/-- What a source hands over: an integer, a value of another type, or nothing, because it
raised. -/
inductive Drawn where
  | int (value : Int)
  | other
  | raised
deriving DecidableEq

inductive UlidError where
  | source
  | runtime (message : String)
deriving DecidableEq

/-- The call of a source. -/
def Drawn.read : Drawn → Except UlidError (Option Int)
  | .int value => .ok (some value)
  | .other => .ok none
  | .raised => .error .source

/-- `_last_timestamp_ms` and `_last_randomness`. -/
structure State where
  lastTimestampMs : Int := -1
  lastRandomness : Int := -1
deriving DecidableEq

/-- The timestamp and randomness of a call, before the randomness is checked. Within one
millisecond the last randomness is counted up, and past its end the timestamp is. -/
def State.advance (s : State) (timestampMs : Int) (randomBits : Drawn) :
    Except UlidError (Int × Option Int) :=
  if timestampMs = s.lastTimestampMs then
    if s.lastRandomness = maxUlidRandomness then do
      raiseIf (timestampMs + 1 > maxUlidTimestamp) (.runtime "ULID monotonic range is exhausted")
      let randomness ← randomBits.read
      return (timestampMs + 1, randomness)
    else .ok (timestampMs, some (s.lastRandomness + 1))
  else do
    let randomness ← randomBits.read
    return (timestampMs, randomness)

/-- `new`, up to the assignment of its fields: the pair that is assigned. -/
def State.draw (s : State) (clockMs randomBits : Drawn) : Except UlidError (Int × Int) := do
  let reading ← clockMs.read
  let clock ← someOr reading (.runtime "ULID clock returned an invalid millisecond timestamp")
  raiseIf (clock < 0) (.runtime "ULID clock returned an invalid millisecond timestamp")
  let timestampMs := max clock s.lastTimestampMs
  raiseIf (timestampMs > maxUlidTimestamp) (.runtime "ULID timestamp exceeds its 48-bit range")
  let advanced ← s.advance timestampMs randomBits
  let randomness ← someOr advanced.2 (.runtime "ULID entropy source returned an invalid value")
  raiseIf (randomness < 0 ∨ maxUlidRandomness < randomness)
    (.runtime "ULID entropy source returned an invalid value")
  return (advanced.1, randomness)

/-- `new`. The fields are assigned when nothing can raise any more. -/
def State.new (s : State) (clockMs randomBits : Drawn) : Except UlidError String × State :=
  match s.draw clockMs randomBits with
  | .error e => (.error e, s)
  | .ok (timestampMs, randomness) =>
    (.ok (encodeUlid ((timestampMs.toNat <<< 80) ||| randomness.toNat)),
      ⟨timestampMs, randomness⟩)

/-- The identifiers of the calls that return, one call after the other. -/
def State.issued (s : State) : List (Drawn × Drawn) → List String
  | [] => []
  | (clockMs, randomBits) :: calls =>
    match s.new clockMs randomBits with
    | (.error _, s') => s'.issued calls
    | (.ok ulid, s') => ulid :: s'.issued calls

/-- The state that calls leave behind. -/
def State.after (s : State) (calls : List (Drawn × Drawn)) : State :=
  calls.foldl (fun s call => (s.new call.1 call.2).2) s

/-! ## The text of a number -/

theorem length_crockfordBase32 : crockfordBase32.length = 32 := by decide

theorem pairwise_crockfordBase32 : crockfordBase32.Pairwise (· < ·) := by decide +kernel

theorem crockford_lt {i j : Nat} (hj : j < 32) (h : i < j) : crockford i < crockford j := by
  have hlen := length_crockfordBase32
  have hi : i < crockfordBase32.length := by omega
  have hj' : j < crockfordBase32.length := by omega
  unfold crockford
  rw [← List.getElem_eq_getD (h := hi), ← List.getElem_eq_getD (h := hj')]
  exact List.pairwise_iff_getElem.mp pairwise_crockfordBase32 i j hi hj' h

theorem crockford_lt_iff {i j : Nat} (hi : i < 32) (hj : j < 32) :
    crockford i < crockford j ↔ i < j := by
  constructor
  · intro h
    by_contra hnot
    rcases Nat.lt_or_eq_of_le (Nat.le_of_not_lt hnot) with hlt | rfl
    · exact absurd (Char.lt_trans h (crockford_lt hi hlt)) (Char.lt_irrefl _)
    · exact Char.lt_irrefl _ h
  · exact crockford_lt hj

theorem crockford_inj {i j : Nat} (hi : i < 32) (hj : j < 32) (h : crockford i = crockford j) :
    i = j := by
  have hij : ¬i < j := by
    rw [← crockford_lt_iff hi hj, h]
    exact Char.lt_irrefl _
  have hji : ¬j < i := by
    rw [← crockford_lt_iff hj hi, h]
    exact Char.lt_irrefl _
  omega

/-- The loop writes the lowest digits in front of what is there. -/
theorem encodeFrom_eq (index : Nat) :
    ∀ value characters, encodeFrom index value characters =
      fixedDigits crockford 32 index value ++ characters := by
  induction index with
  | zero => intro value characters; rfl
  | succ index ih =>
    intro value characters
    have hlow : value &&& 31 = value % 32 := Nat.and_two_pow_sub_one_eq_mod value 5
    have hrest : value >>> 5 = value / 32 := Nat.shiftRight_eq_div_pow value 5
    rw [encodeFrom, fixedDigits, ih, hlow, hrest, List.append_assoc, List.singleton_append]

theorem toList_encodeUlid (value : Nat) :
    (encodeUlid value).toList = fixedDigits crockford 32 26 value := by
  rw [encodeUlid, String.toList_ofList, encodeFrom_eq, List.append_nil]

theorem isUlid_encodeUlid (value : Nat) : isUlid (encodeUlid value) = true := by
  have hdigit : ∀ d < 32, ((crockford d).isDigit || ((crockford d).isUpper &&
      crockford d ≠ 'I' && crockford d ≠ 'L' && crockford d ≠ 'O' && crockford d ≠ 'U')) =
      true := by decide
  unfold isUlid
  rw [toList_encodeUlid, length_fixedDigits, decide_eq_true rfl, Bool.true_and, List.all_eq_true]
  intro c hc
  obtain ⟨d, hd, rfl⟩ := exists_of_mem_fixedDigits (by decide) hc
  exact hdigit d hd

theorem lt_pow_26 {value : Nat} (h : value < 2 ^ 128) : value < 32 ^ 26 :=
  Nat.lt_trans h (by decide)

/-- **Texts are ordered as the numbers they are written from.** -/
theorem encodeUlid_lt_iff {a b : Nat} (ha : a < 2 ^ 128) (hb : b < 2 ^ 128) :
    encodeUlid a < encodeUlid b ↔ a < b := by
  show (encodeUlid a).toList < (encodeUlid b).toList ↔ a < b
  rw [toList_encodeUlid, toList_encodeUlid]
  exact fixedDigits_lt_iff (fun _ hi _ hj => crockford_inj hi hj)
    (fun _ hi _ hj => crockford_lt_iff hi hj) (by decide) (lt_pow_26 ha) (lt_pow_26 hb)

theorem encodeUlid_inj {a b : Nat} (ha : a < 2 ^ 128) (hb : b < 2 ^ 128)
    (h : encodeUlid a = encodeUlid b) : a = b := by
  have hwords := congrArg String.toList h
  rw [toList_encodeUlid, toList_encodeUlid] at hwords
  exact fixedDigits_inj (fun _ hi _ hj => crockford_inj hi hj) (by decide) (lt_pow_26 ha)
    (lt_pow_26 hb) hwords

/-! ## One call -/

variable {s : State} {clockMs randomBits : Drawn} {timestampMs randomness : Int}

/-- The fields are in their ranges; both are `-1` before the first call that returns. -/
structure State.Sound (s : State) : Prop where
  timestamp_ge : -1 ≤ s.lastTimestampMs
  timestamp_le : s.lastTimestampMs ≤ maxUlidTimestamp
  randomness_ge : -1 ≤ s.lastRandomness
  randomness_le : s.lastRandomness ≤ maxUlidRandomness

theorem State.sound_fresh : ({} : State).Sound where
  timestamp_ge := by decide
  timestamp_le := by decide
  randomness_ge := by decide
  randomness_le := by decide

/-- How far a call can move, from the timestamp it reads. -/
theorem State.advance_ok {moved : Int} {drawn : Option Int}
    (h : s.advance timestampMs randomBits = .ok (moved, drawn)) :
    (timestampMs = s.lastTimestampMs ∧ moved = timestampMs ∧
      s.lastRandomness ≠ maxUlidRandomness ∧ drawn = some (s.lastRandomness + 1)) ∨
    (timestampMs = s.lastTimestampMs ∧ moved = timestampMs + 1 ∧
      timestampMs + 1 ≤ maxUlidTimestamp) ∨
    (timestampMs ≠ s.lastTimestampMs ∧ moved = timestampMs) := by
  unfold State.advance at h
  split at h
  next hsame =>
    split at h
    next hfull =>
      simp only [bind_ok_iff, raiseIf_ok_iff, pure_ok_iff, Prod.mk.injEq] at h
      obtain ⟨-, hrange, _, -, htimestamp, -⟩ := h
      exact Or.inr (Or.inl ⟨hsame, htimestamp.symm, by omega⟩)
    next hfull =>
      rw [Except.ok.injEq, Prod.mk.injEq] at h
      exact Or.inl ⟨hsame, h.1.symm, hfull, h.2.symm⟩
  next hother =>
    simp only [bind_ok_iff, pure_ok_iff, Prod.mk.injEq] at h
    obtain ⟨_, -, htimestamp, -⟩ := h
    exact Or.inr (Or.inr ⟨hother, htimestamp.symm⟩)

/-- **A call moves the pair of fields up**, and keeps both in their ranges. -/
theorem State.draw_ok (hs : s.Sound)
    (h : s.draw clockMs randomBits = .ok (timestampMs, randomness)) :
    (0 ≤ timestampMs ∧ timestampMs ≤ maxUlidTimestamp) ∧
      (0 ≤ randomness ∧ randomness ≤ maxUlidRandomness) ∧
      (s.lastTimestampMs < timestampMs ∨
        s.lastTimestampMs = timestampMs ∧ s.lastRandomness < randomness) := by
  unfold State.draw at h
  simp only [bind_ok_iff, raiseIf_ok_iff, someOr_ok_iff, pure_ok_iff, Prod.mk.injEq] at h
  obtain ⟨_, -, clock, -, -, hclock, -, hrange, ⟨moved, drawn⟩, hmoved, r, hdrawn, -, hsize,
    htimestamp, hrandomness⟩ := h
  subst htimestamp hrandomness
  have hlast := hs.timestamp_ge
  rcases State.advance_ok hmoved with ⟨hsame, hnow, -, hnext⟩ | ⟨hsame, hnow, hnext⟩ |
    ⟨hother, hnow⟩
  · -- the same millisecond, one further
    have hone : r = s.lastRandomness + 1 := Option.some.inj (hdrawn.symm.trans hnext)
    refine ⟨⟨?_, ?_⟩, ?_, Or.inr ⟨?_, ?_⟩⟩ <;> dsimp only at * <;> omega
  · -- the randomness is carried over into the next millisecond
    refine ⟨⟨?_, ?_⟩, ?_, Or.inl ?_⟩ <;> dsimp only at * <;> omega
  · -- a millisecond of its own
    refine ⟨⟨?_, ?_⟩, ?_, Or.inl ?_⟩ <;> dsimp only at * <;> omega

/-- The pair as one number: the timestamp above 80 bits of randomness. -/
def State.number (s : State) : Int := s.lastTimestampMs * 2 ^ 80 + s.lastRandomness

/-- What a call returns is its number written down. -/
theorem State.new_ok {ulid : String} {s' : State} (hs : s.Sound)
    (h : s.new clockMs randomBits = (.ok ulid, s')) :
    s'.Sound ∧ s.number < s'.number ∧ s'.number < 2 ^ 128 ∧
      ulid = encodeUlid s'.number.toNat ∧ 0 ≤ s'.number := by
  unfold State.new at h
  split at h
  next => exact absurd (Prod.mk.inj h).1 (by simp)
  next timestampMs randomness hdraw =>
    obtain ⟨hulid, rfl⟩ := Prod.mk.inj h
    obtain ⟨⟨ht, htmax⟩, ⟨hr, hrmax⟩, hup⟩ := State.draw_ok hs hdraw
    have hmaxT : (maxUlidTimestamp : Int) = 2 ^ 48 - 1 := by decide
    have hmaxR : (maxUlidRandomness : Int) = 2 ^ 80 - 1 := by decide
    have hlow := hs.randomness_le
    have hnumber : (timestampMs.toNat <<< 80) ||| randomness.toNat =
        (timestampMs * 2 ^ 80 + randomness).toNat := by
      rw [← Nat.shiftLeft_add_eq_or_of_lt (by omega), Nat.shiftLeft_eq]
      omega
    refine ⟨⟨by dsimp only; omega, htmax, by dsimp only; omega, hrmax⟩, ?_, ?_, ?_, ?_⟩
    · show s.lastTimestampMs * 2 ^ 80 + s.lastRandomness < timestampMs * 2 ^ 80 + randomness
      rcases hup with hup | ⟨hsame, hup⟩
      · omega
      · omega
    · show timestampMs * 2 ^ 80 + randomness < 2 ^ 128
      omega
    · rw [← Except.ok.inj hulid, hnumber]
      rfl
    · show 0 ≤ timestampMs * 2 ^ 80 + randomness
      omega

/-- A call that fails leaves the factory as it was. -/
theorem State.new_error {e : UlidError} {s' : State}
    (h : s.new clockMs randomBits = (.error e, s')) : s' = s := by
  unfold State.new at h
  split at h
  next => exact (Prod.mk.inj h).2.symm
  next => exact absurd (Prod.mk.inj h).1 (by simp)

theorem State.sound_new (hs : s.Sound) (clockMs randomBits : Drawn) :
    (s.new clockMs randomBits).2.Sound := by
  cases hcall : s.new clockMs randomBits with
  | mk answer s' =>
    cases answer with
    | error e => rw [State.new_error hcall]; exact hs
    | ok ulid => exact (State.new_ok hs hcall).1

/-! ## The end of the range -/

/-- The 48 bits of the timestamp are used up: the clock is past them, or the last identifier
is the very last one. -/
def State.Exhausted (s : State) (clock : Int) : Prop :=
  (maxUlidTimestamp : Int) < clock ∨
    clock ≤ maxUlidTimestamp ∧ s.lastTimestampMs = maxUlidTimestamp ∧
      s.lastRandomness = maxUlidRandomness

theorem State.exists_advance (hs : s.Sound) {bits : Int}
    (hbits : 0 ≤ bits ∧ bits ≤ maxUlidRandomness)
    (hroom : timestampMs = s.lastTimestampMs → s.lastRandomness = maxUlidRandomness →
      timestampMs + 1 ≤ maxUlidTimestamp) :
    ∃ moved randomness, s.advance timestampMs (.int bits) = .ok (moved, some randomness) ∧
      0 ≤ randomness ∧ randomness ≤ maxUlidRandomness := by
  have hlow := hs.randomness_ge
  have hhigh := hs.randomness_le
  unfold State.advance
  split
  next hsame =>
    split
    next hfull =>
      have hnext := hroom hsame hfull
      rw [raiseIf_of_not _ (by omega)]
      exact ⟨_, bits, rfl, hbits⟩
    next hfull => exact ⟨_, _, rfl, by omega, by omega⟩
  next hother => exact ⟨_, bits, rfl, hbits⟩

/-- **A call of healthy sources returns exactly until the range is used up.** -/
theorem State.exists_new_iff (hs : s.Sound) {clock bits : Int} (hclock : 0 ≤ clock)
    (hbits : 0 ≤ bits ∧ bits ≤ maxUlidRandomness) :
    (∃ ulid, (s.new (.int clock) (.int bits)).1 = .ok ulid) ↔ ¬s.Exhausted clock := by
  have hmade : (∃ ulid, (s.new (.int clock) (.int bits)).1 = .ok ulid) ↔
      ∃ pair, s.draw (.int clock) (.int bits) = .ok pair := by
    unfold State.new
    cases s.draw (.int clock) (.int bits) with
    | error e => simp
    | ok pair => simp
  have hlastT := hs.timestamp_le
  have hlastR := hs.randomness_le
  have hlastR' := hs.randomness_ge
  have hread : ∀ n : Int, (Drawn.int n).read = .ok (some n) := fun _ => rfl
  rw [hmade]
  unfold State.draw State.Exhausted
  simp only [hread, bind_ok_iff, raiseIf_ok_iff, someOr_ok_iff, pure_ok_iff, Except.ok.injEq,
    exists_eq_left', Option.some.injEq, exists_const]
  constructor
  · rintro ⟨_, -, hrange, ⟨moved, drawn⟩, hmoved, -⟩
    rcases State.advance_ok hmoved with ⟨hsame, -, hroom, -⟩ | ⟨hsame, -, hroom⟩ | ⟨hother, -⟩
    · omega
    · omega
    · omega
  · intro hroom
    have hlater : max clock s.lastTimestampMs = s.lastTimestampMs →
        s.lastRandomness = maxUlidRandomness →
          max clock s.lastTimestampMs + 1 ≤ maxUlidTimestamp := by omega
    obtain ⟨moved, randomness, hmoved, hlow, hhigh⟩ := State.exists_advance hs hbits hlater
    exact ⟨(moved, randomness), by omega, by omega, _, hmoved, _, rfl, by omega, rfl⟩

/-! ## A run of calls -/

theorem State.issued_cons_error {calls : List (Drawn × Drawn)} {e : UlidError} {s' : State}
    (h : s.new clockMs randomBits = (.error e, s')) :
    s.issued ((clockMs, randomBits) :: calls) = s'.issued calls := by
  rw [State.issued, h]

theorem State.issued_cons_ok {calls : List (Drawn × Drawn)} {ulid : String} {s' : State}
    (h : s.new clockMs randomBits = (.ok ulid, s')) :
    s.issued ((clockMs, randomBits) :: calls) = ulid :: s'.issued calls := by
  rw [State.issued, h]

/-- The identifiers of a run are increasing numbers above the one the run starts from. -/
theorem State.exists_numbers (calls : List (Drawn × Drawn)) :
    ∀ s : State, s.Sound → ∃ numbers : List Nat, s.issued calls = numbers.map encodeUlid ∧
      numbers.Pairwise (· < ·) ∧ ∀ n ∈ numbers, s.number < (n : Int) ∧ n < 2 ^ 128 := by
  induction calls with
  | nil => intro s _; exact ⟨[], rfl, List.Pairwise.nil, fun _ h => absurd h List.not_mem_nil⟩
  | cons call calls ih =>
    intro s hs
    cases hcall : s.new call.1 call.2 with
    | mk answer s' =>
      cases answer with
      | error e =>
        -- the run goes on from the same state
        rw [State.issued_cons_error hcall, State.new_error hcall]
        exact ih s hs
      | ok ulid =>
        obtain ⟨hs', hup, hbound, hulid, hpos⟩ := State.new_ok hs hcall
        obtain ⟨numbers, hissued, hpairs, habove⟩ := ih s' hs'
        refine ⟨s'.number.toNat :: numbers, ?_, List.pairwise_cons.mpr ⟨?_, hpairs⟩, ?_⟩
        · rw [State.issued_cons_ok hcall, hissued, hulid, List.map_cons]
        · intro n hn
          have hlt := (habove n hn).1
          omega
        · intro n hn
          rcases List.mem_cons.mp hn with rfl | hn
          · exact ⟨by omega, by omega⟩
          · exact ⟨Int.lt_trans hup (habove n hn).1, (habove n hn).2⟩

theorem State.sound_after (calls : List (Drawn × Drawn)) :
    ∀ s : State, s.Sound → (s.after calls).Sound := by
  induction calls with
  | nil => intro s hs; exact hs
  | cons call calls ih => intro s hs; exact ih _ (State.sound_new hs _ _)

theorem State.issued_increase (hs : s.Sound) (calls : List (Drawn × Drawn)) :
    (s.issued calls).Pairwise (· < ·) := by
  obtain ⟨numbers, hissued, hpairs, habove⟩ := State.exists_numbers calls s hs
  rw [hissued, List.pairwise_map]
  refine List.Pairwise.imp_of_mem ?_ hpairs
  intro m n hm hn hlt
  exact (encodeUlid_lt_iff (habove m hm).2 (habove n hn).2).mpr hlt

/-- **The identifiers of one factory strictly increase**, whatever its sources hand over. A
call that fails leaves the factory as it was, and with healthy sources it fails only when the
range is used up. The text of a number of 128 bits is its own, and texts are ordered as their
numbers. -/
theorem ulids_increase :
    (∀ calls : List (Drawn × Drawn), (({} : State).issued calls).Pairwise (· < ·) ∧
      ∀ ulid ∈ ({} : State).issued calls, ulid.toList.length = 26 ∧ isUlid ulid = true) ∧
    (∀ (s s' : State) (clockMs randomBits : Drawn) (e : UlidError),
      s.new clockMs randomBits = (.error e, s') → s' = s) ∧
    (∀ (calls : List (Drawn × Drawn)) (clock bits : Int), 0 ≤ clock →
      0 ≤ bits ∧ bits ≤ maxUlidRandomness →
      ((∃ ulid, ((({} : State).after calls).new (.int clock) (.int bits)).1 = .ok ulid) ↔
        ¬(({} : State).after calls).Exhausted clock)) ∧
    ∀ a b : Nat, a < 2 ^ 128 → b < 2 ^ 128 →
      (encodeUlid a < encodeUlid b ↔ a < b) ∧ (encodeUlid a = encodeUlid b → a = b) := by
  refine ⟨fun calls => ⟨State.issued_increase State.sound_fresh calls, fun ulid hulid => ?_⟩,
    fun s s' clockMs randomBits e => State.new_error, fun calls clock bits hclock hbits =>
      State.exists_new_iff (State.sound_after calls _ State.sound_fresh) hclock hbits,
    fun a b ha hb => ⟨encodeUlid_lt_iff ha hb, encodeUlid_inj ha hb⟩⟩
  obtain ⟨numbers, hissued, -, -⟩ := State.exists_numbers calls _ State.sound_fresh
  rw [hissued] at hulid
  obtain ⟨n, -, rfl⟩ := List.mem_map.mp hulid
  refine ⟨?_, isUlid_encodeUlid n⟩
  rw [toList_encodeUlid, length_fixedDigits]

end Retrywise.ControlPlane.MonotonicUlid
