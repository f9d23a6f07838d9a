import Mathlib.Data.List.Basic
import Mathlib.Tactic.Common

/-!
# SHA-256

The hash function as the standard defines it: the message is padded to whole
64-byte blocks, each block is expanded to 64 words and folded into eight working
words. `hexdigest` is the digest in lowercase hexadecimal.

Only the shape of the output is proved here (`length_hexdigest`,
`forall_mem_hexdigest`). Nothing else is true of a hash function without an
assumption.
-/

namespace Retrywise.Foundation.Sha256

/-- First 32 bits of the fractional parts of the cube roots of the first 64
primes. -/
def roundConstants : List UInt32 :=
  [
    0x428a2f98, 0x71374491, 0xb5c0fbcf, 0xe9b5dba5, 0x3956c25b, 0x59f111f1,
    0x923f82a4, 0xab1c5ed5, 0xd807aa98, 0x12835b01, 0x243185be, 0x550c7dc3,
    0x72be5d74, 0x80deb1fe, 0x9bdc06a7, 0xc19bf174, 0xe49b69c1, 0xefbe4786,
    0x0fc19dc6, 0x240ca1cc, 0x2de92c6f, 0x4a7484aa, 0x5cb0a9dc, 0x76f988da,
    0x983e5152, 0xa831c66d, 0xb00327c8, 0xbf597fc7, 0xc6e00bf3, 0xd5a79147,
    0x06ca6351, 0x14292967, 0x27b70a85, 0x2e1b2138, 0x4d2c6dfc, 0x53380d13,
    0x650a7354, 0x766a0abb, 0x81c2c92e, 0x92722c85, 0xa2bfe8a1, 0xa81a664b,
    0xc24b8b70, 0xc76c51a3, 0xd192e819, 0xd6990624, 0xf40e3585, 0x106aa070,
    0x19a4c116, 0x1e376c08, 0x2748774c, 0x34b0bcb5, 0x391c0cb3, 0x4ed8aa4a,
    0x5b9cca4f, 0x682e6ff3, 0x748f82ee, 0x78a5636f, 0x84c87814, 0x8cc70208,
    0x90befffa, 0xa4506ceb, 0xbef9a3f7, 0xc67178f2]

/-- The eight working words. -/
structure Working where
  a : UInt32
  b : UInt32
  c : UInt32
  d : UInt32
  e : UInt32
  f : UInt32
  g : UInt32
  h : UInt32

/-- First 32 bits of the fractional parts of the square roots of the first 8
primes. -/
def initial : Working :=
  ⟨0x6a09e667, 0xbb67ae85, 0x3c6ef372, 0xa54ff53a,
    0x510e527f, 0x9b05688c, 0x1f83d9ab, 0x5be0cd19⟩

def rotateRight (x n : UInt32) : UInt32 := (x >>> n) ||| (x <<< (32 - n))

/-! ## Padding -/

/-- `n` in `count` big-endian bytes. -/
def bigEndian (count n : Nat) : List UInt8 :=
  (List.range count).map fun i => UInt8.ofNat (n >>> (8 * (count - 1 - i)))

/-- A one bit, zeros up to eight bytes short of a block, the length in bits. -/
def padded (message : List UInt8) : List UInt8 :=
  let zeros := (119 - message.length % 64) % 64
  message ++ [0x80] ++ List.replicate zeros 0 ++ bigEndian 8 (8 * message.length)

/-- Big-endian words; a rest of less than four bytes is dropped. -/
def toWords : List UInt8 → List UInt32
  | b₀ :: b₁ :: b₂ :: b₃ :: rest =>
    (b₀.toUInt32 <<< 24 ||| b₁.toUInt32 <<< 16 ||| b₂.toUInt32 <<< 8 ||| b₃.toUInt32) ::
      toWords rest
  | _ => []

/-! ## Compression -/

/-- The message schedule: each word after the sixteenth from four before it. -/
def schedule (block : List UInt32) : List UInt32 :=
  let extend (w : Array UInt32) (i : Nat) : Array UInt32 :=
    let w₀ := w.getD (i + 1) 0
    let w₁ := w.getD (i + 14) 0
    let σ₀ := rotateRight w₀ 7 ^^^ rotateRight w₀ 18 ^^^ (w₀ >>> 3)
    let σ₁ := rotateRight w₁ 17 ^^^ rotateRight w₁ 19 ^^^ (w₁ >>> 10)
    w.push (w.getD i 0 + σ₀ + w.getD (i + 9) 0 + σ₁)
  ((List.range 48).foldl extend block.toArray).toList

def round (s : Working) (input : UInt32 × UInt32) : Working :=
  let sum₁ := rotateRight s.e 6 ^^^ rotateRight s.e 11 ^^^ rotateRight s.e 25
  let choice := (s.e &&& s.f) ^^^ (~~~s.e &&& s.g)
  let t₁ := s.h + sum₁ + choice + input.1 + input.2
  let sum₀ := rotateRight s.a 2 ^^^ rotateRight s.a 13 ^^^ rotateRight s.a 22
  let majority := (s.a &&& s.b) ^^^ (s.a &&& s.c) ^^^ (s.b &&& s.c)
  ⟨t₁ + sum₀ + majority, s.a, s.b, s.c, s.d + t₁, s.e, s.f, s.g⟩

def compress (s : Working) (block : List UInt32) : Working :=
  let r := (roundConstants.zip (schedule block)).foldl round s
  ⟨s.a + r.a, s.b + r.b, s.c + r.c, s.d + r.d, s.e + r.e, s.f + r.f, s.g + r.g, s.h + r.h⟩

/-- The words of the padded message, block by block. -/
def digest (message : List UInt8) : Working :=
  let words := toWords (padded message)
  (List.range (words.length / 16)).foldl
    (fun s i => compress s ((words.drop (16 * i)).take 16)) initial

/-! ## Hexadecimal output -/

def hexDigit (n : Nat) : Char := if n < 10 then Char.ofNat (48 + n) else Char.ofNat (87 + n)

def hexWord (w : UInt32) : List Char :=
  (List.range 8).map fun i => hexDigit ((w.toNat >>> (4 * (7 - i))) % 16)

/-- `hashlib.sha256(message).hexdigest()`. -/
def hexdigest (message : ByteArray) : String :=
  let s := digest message.toList
  String.ofList ([s.a, s.b, s.c, s.d, s.e, s.f, s.g, s.h].flatMap hexWord)

theorem length_hexdigest (message : ByteArray) : (hexdigest message).toList.length = 64 := by
  simp [hexdigest, hexWord]

theorem hexDigit_lowercase {n : Nat} (h : n < 16) :
    (hexDigit n).isDigit = true ∨ ('a' ≤ hexDigit n ∧ hexDigit n ≤ 'f') := by
  have hall : ∀ m : Fin 16, (hexDigit m).isDigit = true ∨
      ('a' ≤ hexDigit m ∧ hexDigit m ≤ 'f') := by decide
  exact hall ⟨n, h⟩

theorem forall_mem_hexdigest {message : ByteArray} {c : Char}
    (h : c ∈ (hexdigest message).toList) : c.isDigit = true ∨ ('a' ≤ c ∧ c ≤ 'f') := by
  simp only [hexdigest, String.toList_ofList, List.mem_flatMap, hexWord, List.mem_map] at h
  obtain ⟨w, -, i, -, rfl⟩ := h
  exact hexDigit_lowercase (Nat.mod_lt _ (by decide))

end Retrywise.Foundation.Sha256
