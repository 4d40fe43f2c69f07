/-
This file models the digest the event spine writes: SHA-256 as FIPS 180-4 defines it, in
lower-case hexadecimal.

No proof here or later looks inside SHA-256. It is a definition, and not a
parameter, so that every model function runs on concrete bytes and no theorem can
hold for a digest the program does not use.
-/

import Mathlib.Algebra.Group.Nat.Defs
import SeshatOps.Strings

namespace SeshatOps

namespace Sha256

/-! ### SHA-256 -/

/-- The eight words the state starts from. -/
def initial : List UInt32 :=
  [0x6a09e667, 0xbb67ae85, 0x3c6ef372, 0xa54ff53a, 0x510e527f, 0x9b05688c, 0x1f83d9ab,
    0x5be0cd19]

/-- The sixty-four round constants. -/
def constants : List UInt32 :=
  [0x428a2f98, 0x71374491, 0xb5c0fbcf, 0xe9b5dba5, 0x3956c25b, 0x59f111f1, 0x923f82a4,
    0xab1c5ed5, 0xd807aa98, 0x12835b01, 0x243185be, 0x550c7dc3, 0x72be5d74, 0x80deb1fe,
    0x9bdc06a7, 0xc19bf174, 0xe49b69c1, 0xefbe4786, 0x0fc19dc6, 0x240ca1cc, 0x2de92c6f,
    0x4a7484aa, 0x5cb0a9dc, 0x76f988da, 0x983e5152, 0xa831c66d, 0xb00327c8, 0xbf597fc7,
    0xc6e00bf3, 0xd5a79147, 0x06ca6351, 0x14292967, 0x27b70a85, 0x2e1b2138, 0x4d2c6dfc,
    0x53380d13, 0x650a7354, 0x766a0abb, 0x81c2c92e, 0x92722c85, 0xa2bfe8a1, 0xa81a664b,
    0xc24b8b70, 0xc76c51a3, 0xd192e819, 0xd6990624, 0xf40e3585, 0x106aa070, 0x19a4c116,
    0x1e376c08, 0x2748774c, 0x34b0bcb5, 0x391c0cb3, 0x4ed8aa4a, 0x5b9cca4f, 0x682e6ff3,
    0x748f82ee, 0x78a5636f, 0x84c87814, 0x8cc70208, 0x90befffa, 0xa4506ceb, 0xbef9a3f7,
    0xc67178f2]

/-- Rotate a word to the right. -/
def rotate (word : UInt32) (count : UInt32) : UInt32 :=
  (word >>> count) ||| (word <<< (32 - count))

/-- The padded message: the bytes, a one bit, zeros, and the length in bits. -/
def pad (message : Bytes) : Bytes :=
  message ++ 0x80 :: List.replicate ((119 - message.length % 64) % 64) 0 ++
    (List.range 8).map fun place => UInt8.ofNat (8 * message.length / 256 ^ (7 - place))

/-- The big-endian words of a byte sequence. -/
def words : Bytes → List UInt32
  | first :: second :: third :: fourth :: rest =>
      UInt32.ofNat (((first.toNat * 256 + second.toNat) * 256 + third.toNat) * 256 +
        fourth.toNat) :: words rest
  | _ => []

/-- The message schedule, latest word first, `count` words longer. -/
def extend : Nat → List UInt32 → List UInt32
  | 0, schedule => schedule
  | count + 1, schedule =>
      let back (distance : Nat) := schedule.getD (distance - 1) 0
      let small0 := rotate (back 15) 7 ^^^ rotate (back 15) 18 ^^^ (back 15 >>> 3)
      let small1 := rotate (back 2) 17 ^^^ rotate (back 2) 19 ^^^ (back 2 >>> 10)
      extend count ((small1 + back 7 + small0 + back 16) :: schedule)

/-- One round on the eight working words. -/
def round : List UInt32 → UInt32 × UInt32 → List UInt32
  | [a, b, c, d, e, f, g, h], (constant, word) =>
      let big1 := rotate e 6 ^^^ rotate e 11 ^^^ rotate e 25
      let chosen := (e &&& f) ^^^ (~~~e &&& g)
      let big0 := rotate a 2 ^^^ rotate a 13 ^^^ rotate a 22
      let majority := (a &&& b) ^^^ (a &&& c) ^^^ (b &&& c)
      let first := h + big1 + chosen + constant + word
      [first + (big0 + majority), a, b, c, d + first, e, f, g]
  | state, _ => state

/-- Mix one block of sixteen words into the state. -/
def compress (state block : List UInt32) : List UInt32 :=
  let schedule := (extend 48 block.reverse).reverse
  List.zipWith (· + ·) state ((List.zip constants schedule).foldl round state)

/-- Mix in every block. -/
def blocks : Nat → List UInt32 → List UInt32 → List UInt32
  | 0, state, _ => state
  | _ + 1, state, [] => state
  | fuel + 1, state, message => blocks fuel (compress state (message.take 16)) (message.drop 16)

/-- `sha256.Sum256`. -/
def sum256 (message : Bytes) : Bytes :=
  let padded := words (pad message)
  (blocks padded.length initial padded).flatMap fun word =>
    (List.range 4).map fun place => UInt8.ofNat (word.toNat / 256 ^ (3 - place))

end Sha256

namespace Hex

/-- A lower-case hexadecimal digit. -/
def digit (value : Nat) : UInt8 :=
  if value < 10 then UInt8.ofNat (0x30 + value) else UInt8.ofNat (0x57 + value)

/-- `hex.EncodeToString`. -/
def encodeToString (bytes : Bytes) : Bytes :=
  bytes.flatMap fun byte => [digit (byte.toNat / 16), digit (byte.toNat % 16)]

theorem digit_injective : ∀ first < 16, ∀ second < 16, digit first = digit second →
    first = second := by decide

/-- Different byte sequences have different hexadecimal texts. -/
theorem encodeToString_injective : Function.Injective encodeToString := by
  intro first
  induction first with
  | nil =>
    rintro (_ | ⟨byte, rest⟩) same
    · rfl
    · cases same
  | cons byte rest hypothesis =>
    rintro (_ | ⟨other, others⟩) same
    · cases same
    · simp only [encodeToString, List.flatMap_cons, List.cons_append, List.nil_append,
        List.cons.injEq] at same
      obtain ⟨high, low, later⟩ := same
      have bound := byte.toNat_lt
      have otherBound := other.toNat_lt
      have sameHigh := digit_injective _ (by omega) _ (by omega) high
      have sameLow := digit_injective _ (by omega) _ (by omega) low
      have sameByte : byte = other := UInt8.toNat_inj.mp (by omega)
      rw [sameByte, hypothesis later]

end Hex

/-- The lower-case hexadecimal SHA-256 of a byte sequence. -/
def digest (bytes : Bytes) : Bytes := Hex.encodeToString (Sha256.sum256 bytes)

end SeshatOps
