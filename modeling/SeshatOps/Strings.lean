/-
This file models the Go strings the event contract is written over: byte sequences that
may or may not be UTF-8, their runes, and the letter case and white space of
`unicode` and `strings`.

A Go string is a list of bytes. `validString` is the octet automaton of UTF-8;
`runes` is what `for _, r := range v` yields, with U+FFFD for a byte that starts no
character. The lower-case table is the simple case mapping of Unicode 15.0, which is
what `unicode.ToLower` reads.
-/

import Mathlib.Data.List.Basic

namespace SeshatOps

/-- A Go string or byte slice. -/
abbrev Bytes := List UInt8

/-- The bytes of a literal. -/
def ascii (text : String) : Bytes := text.toByteArray.data.toList

namespace Utf8

/-! ### Valid UTF-8 -/

/-- Where a reader of UTF-8 stands between two bytes: the continuation bytes it is owed, and
the bounds on the next one. -/
inductive State
  | ground
  | owed (more : Nat) (low high : UInt8)
  deriving DecidableEq

/-- The state after the first byte of a character. -/
def lead (byte : UInt8) : Option State :=
  if byte < 0x80 then some .ground
  else if byte < 0xC2 then none
  else if byte < 0xE0 then some (.owed 0 0x80 0xBF)
  else if byte = 0xE0 then some (.owed 1 0xA0 0xBF)
  else if byte = 0xED then some (.owed 1 0x80 0x9F)
  else if byte < 0xF0 then some (.owed 1 0x80 0xBF)
  else if byte = 0xF0 then some (.owed 2 0x90 0xBF)
  else if byte < 0xF4 then some (.owed 2 0x80 0xBF)
  else if byte = 0xF4 then some (.owed 2 0x80 0x8F)
  else none

/-- The state after one more byte, or none where UTF-8 has no such byte. -/
def step : State → UInt8 → Option State
  | .ground, byte => lead byte
  | .owed more low high, byte =>
      if low ≤ byte ∧ byte ≤ high then
        match more with
        | 0 => some .ground
        | rest + 1 => some (.owed rest 0x80 0xBF)
      else none

/-- Read a byte sequence from a state. -/
def scan : State → Bytes → Option State
  | state, [] => some state
  | state, byte :: rest =>
      match step state byte with
      | some next => scan next rest
      | none => none

/-- `utf8.ValidString`. -/
def validString (bytes : Bytes) : Bool := scan .ground bytes = some .ground

theorem scan_append (state : State) (first second : Bytes) :
    scan state (first ++ second) = (scan state first).bind fun next => scan next second := by
  induction first generalizing state with
  | nil => rfl
  | cons byte rest hypothesis =>
    simp only [List.cons_append, scan]
    cases step state byte with
    | none => rfl
    | some next => exact hypothesis next

/-- Reading ASCII between characters stays between characters. -/
theorem scan_ascii (bytes : Bytes) (plain : ∀ byte ∈ bytes, byte < 0x80) :
    scan .ground bytes = some .ground := by
  induction bytes with
  | nil => rfl
  | cons byte rest hypothesis =>
    have head : byte < 0x80 := plain byte List.mem_cons_self
    simp only [scan, step, lead, if_pos head]
    exact hypothesis fun other member => plain other (List.mem_cons_of_mem byte member)

theorem validString_append {first second : Bytes} (firstValid : validString first = true)
    (secondValid : validString second = true) : validString (first ++ second) = true := by
  simp only [validString, decide_eq_true_eq] at firstValid secondValid ⊢
  rw [scan_append, firstValid]
  exact secondValid

theorem validString_ascii {bytes : Bytes} (plain : ∀ byte ∈ bytes, byte < 0x80) :
    validString bytes = true := by
  simp only [validString, decide_eq_true_eq]
  exact scan_ascii bytes plain

/-- The states a reader can be in: continuation bytes are never ASCII. -/
def State.Sound : State → Prop
  | .ground => True
  | .owed _ low _ => 0x80 ≤ low

theorem step_sound {state next : State} {byte : UInt8} (stepped : step state byte = some next) :
    next.Sound := by
  cases state with
  | ground =>
    simp only [step, lead] at stepped
    split_ifs at stepped <;> cases stepped <;> simp only [State.Sound] <;> decide
  | owed more low high =>
    simp only [step] at stepped
    split_ifs at stepped
    cases more with
    | zero => cases stepped; trivial
    | succ rest => cases stepped; exact UInt8.le_refl 0x80

/-- An ASCII byte is a character of its own, between two others. -/
theorem step_ascii {state next : State} {byte : UInt8} (sound : state.Sound)
    (small : byte < 0x80) (stepped : step state byte = some next) :
    state = .ground ∧ next = .ground := by
  cases state with
  | ground =>
    simp only [step, lead, if_pos small, Option.some.injEq] at stepped
    exact ⟨rfl, stepped.symm⟩
  | owed more low high =>
    simp only [step] at stepped
    split_ifs at stepped with within
    exact absurd (UInt8.lt_of_le_of_lt (UInt8.le_trans sound within.1) small)
      (UInt8.lt_irrefl _)

/-! ### Runes -/

/-- `utf8.RuneError`. -/
def runeError : Nat := 0xFFFD

/-- The value of a continuation byte. -/
def tail (byte : UInt8) : Nat := byte.toNat % 0x40

/-- The first rune of a string and the number of bytes it takes, `utf8.DecodeRune`. A byte
that starts no character is U+FFFD and takes one byte. -/
def decodeRune : Bytes → Nat × Nat
  | [] => (runeError, 0)
  | first :: rest =>
      match lead first, rest with
      | some .ground, _ => (first.toNat, 1)
      | some (.owed 0 low high), second :: _ =>
          if low ≤ second ∧ second ≤ high then (first.toNat % 0x20 * 0x40 + tail second, 2)
          else (runeError, 1)
      | some (.owed 1 low high), second :: third :: _ =>
          if (low ≤ second ∧ second ≤ high) ∧ (0x80 ≤ third ∧ third ≤ 0xBF) then
            ((first.toNat % 0x10 * 0x40 + tail second) * 0x40 + tail third, 3)
          else (runeError, 1)
      | some (.owed _ low high), second :: third :: fourth :: _ =>
          if (low ≤ second ∧ second ≤ high) ∧ (0x80 ≤ third ∧ third ≤ 0xBF) ∧
              (0x80 ≤ fourth ∧ fourth ≤ 0xBF) then
            (((first.toNat % 0x08 * 0x40 + tail second) * 0x40 + tail third) * 0x40 +
              tail fourth, 4)
          else (runeError, 1)
      | _, _ => (runeError, 1)

/-- A continuation byte starts no character. -/
theorem lead_continuation {byte : UInt8} (low : 0x80 ≤ byte) (high : byte ≤ 0xBF) :
    lead byte = none := by
  rw [lead, if_neg (UInt8.not_lt.mpr low), if_pos (UInt8.lt_of_le_of_lt high (by decide))]

theorem lead_owed {byte : UInt8} {more : Nat} {low high : UInt8}
    (starts : lead byte = some (.owed more low high)) : 0x80 ≤ low ∧ high ≤ 0xBF := by
  unfold lead at starts
  split_ifs at starts <;> cases starts <;> decide

theorem decodeRune_continuation {byte : UInt8} (low : 0x80 ≤ byte) (high : byte ≤ 0xBF)
    (rest : Bytes) : (decodeRune (byte :: rest)).1 = runeError := by
  simp only [decodeRune, lead_continuation low high]

/-- Inside the first character of a string no other one starts. -/
theorem decodeRune_inside (bytes : Bytes) (index : Nat) (inside : 0 < index)
    (within : index < (decodeRune bytes).2) :
    (decodeRune (bytes.drop index)).1 = runeError := by
  match bytes with
  | [] => simp [decodeRune] at within
  | first :: rest =>
    simp only [decodeRune] at within
    split at within
    · omega
    · rename_i low high second others starts
      have bounds := lead_owed starts
      split_ifs at within with continued
      · obtain rfl : index = 1 := by omega
        exact decodeRune_continuation (UInt8.le_trans bounds.1 continued.1)
          (UInt8.le_trans continued.2 bounds.2) others
      · omega
    · rename_i low high second third others starts
      have bounds := lead_owed starts
      split_ifs at within with continued
      · rcases (by omega : index = 1 ∨ index = 2) with rfl | rfl
        · exact decodeRune_continuation (UInt8.le_trans bounds.1 continued.1.1)
            (UInt8.le_trans continued.1.2 bounds.2) _
        · exact decodeRune_continuation continued.2.1 continued.2.2 _
      · omega
    · rename_i more low high second third fourth others _ _ starts
      have bounds := lead_owed starts
      split_ifs at within with continued
      · rcases (by omega : index = 1 ∨ index = 2 ∨ index = 3) with rfl | rfl | rfl
        · exact decodeRune_continuation (UInt8.le_trans bounds.1 continued.1.1)
            (UInt8.le_trans continued.1.2 bounds.2) _
        · exact decodeRune_continuation continued.2.1.1 continued.2.1.2 _
        · exact decodeRune_continuation continued.2.2.1 continued.2.2.2 _
      · omega
    · omega

theorem decodeRune_pos (first : UInt8) (rest : Bytes) : 0 < (decodeRune (first :: rest)).2 := by
  simp only [decodeRune]
  split
  · exact Nat.one_pos
  · split_ifs <;> exact Nat.succ_pos _
  · split_ifs <;> exact Nat.succ_pos _
  · split_ifs <;> exact Nat.succ_pos _
  · exact Nat.one_pos

/-- The runes of a string that is at most `fuel` bytes long. -/
def runesWithin : Nat → Bytes → List Nat
  | 0, _ => []
  | _ + 1, [] => []
  | fuel + 1, bytes =>
      (decodeRune bytes).1 :: runesWithin fuel (bytes.drop (decodeRune bytes).2)

/-- What `for _, r := range v` yields. -/
def runes (bytes : Bytes) : List Nat := runesWithin bytes.length bytes

/-- `utf8.EncodeRune`. Surrogates and numbers above U+10FFFF are written as U+FFFD. -/
def encodeRune (rune : Nat) : Bytes :=
  if rune < 0x80 then [UInt8.ofNat rune]
  else if rune < 0x800 then
    [UInt8.ofNat (0xC0 + rune / 0x40), UInt8.ofNat (0x80 + rune % 0x40)]
  else if 0xD800 ≤ rune ∧ rune < 0xE000 ∨ 0x110000 ≤ rune then [0xEF, 0xBF, 0xBD]
  else if rune < 0x10000 then
    [UInt8.ofNat (0xE0 + rune / 0x1000), UInt8.ofNat (0x80 + rune / 0x40 % 0x40),
      UInt8.ofNat (0x80 + rune % 0x40)]
  else
    [UInt8.ofNat (0xF0 + rune / 0x40000), UInt8.ofNat (0x80 + rune / 0x1000 % 0x40),
      UInt8.ofNat (0x80 + rune / 0x40 % 0x40), UInt8.ofNat (0x80 + rune % 0x40)]

/-- A string with every byte that starts no character replaced by U+FFFD. -/
def toValid (bytes : Bytes) : Bytes :=
  if validString bytes then bytes else (runes bytes).flatMap encodeRune

end Utf8

namespace Unicode

/-! ### Letter case and white space -/

/-- The non-ASCII runes with a lower case of their own: from, to, stride, and the distance
to the lower case. -/
def lowerRanges : List (Nat × Nat × Nat × Int) :=
  [(0xc0, 0xd6, 1, 32), (0xd8, 0xde, 1, 32), (0x100, 0x12e, 2, 1), (0x130, 0x130, 1, -199),
    (0x132, 0x136, 2, 1), (0x139, 0x147, 2, 1), (0x14a, 0x176, 2, 1), (0x178, 0x178, 1, -121),
    (0x179, 0x17d, 2, 1), (0x181, 0x181, 1, 210), (0x182, 0x184, 2, 1), (0x186, 0x186, 1, 206),
    (0x187, 0x187, 1, 1), (0x189, 0x18a, 1, 205), (0x18b, 0x18b, 1, 1), (0x18e, 0x18e, 1, 79),
    (0x18f, 0x18f, 1, 202), (0x190, 0x190, 1, 203), (0x191, 0x191, 1, 1), (0x193, 0x193, 1, 205),
    (0x194, 0x194, 1, 207), (0x196, 0x196, 1, 211), (0x197, 0x197, 1, 209), (0x198, 0x198, 1, 1),
    (0x19c, 0x19c, 1, 211), (0x19d, 0x19d, 1, 213), (0x19f, 0x19f, 1, 214), (0x1a0, 0x1a4, 2, 1),
    (0x1a6, 0x1a6, 1, 218), (0x1a7, 0x1a7, 1, 1), (0x1a9, 0x1a9, 1, 218), (0x1ac, 0x1ac, 1, 1),
    (0x1ae, 0x1ae, 1, 218), (0x1af, 0x1af, 1, 1), (0x1b1, 0x1b2, 1, 217), (0x1b3, 0x1b5, 2, 1),
    (0x1b7, 0x1b7, 1, 219), (0x1b8, 0x1b8, 1, 1), (0x1bc, 0x1bc, 1, 1), (0x1c4, 0x1c4, 1, 2),
    (0x1c5, 0x1c5, 1, 1), (0x1c7, 0x1c7, 1, 2), (0x1c8, 0x1c8, 1, 1), (0x1ca, 0x1ca, 1, 2),
    (0x1cb, 0x1db, 2, 1), (0x1de, 0x1ee, 2, 1), (0x1f1, 0x1f1, 1, 2), (0x1f2, 0x1f4, 2, 1),
    (0x1f6, 0x1f6, 1, -97), (0x1f7, 0x1f7, 1, -56), (0x1f8, 0x21e, 2, 1),
    (0x220, 0x220, 1, -130), (0x222, 0x232, 2, 1), (0x23a, 0x23a, 1, 10795),
    (0x23b, 0x23b, 1, 1), (0x23d, 0x23d, 1, -163), (0x23e, 0x23e, 1, 10792),
    (0x241, 0x241, 1, 1), (0x243, 0x243, 1, -195), (0x244, 0x244, 1, 69), (0x245, 0x245, 1, 71),
    (0x246, 0x24e, 2, 1), (0x370, 0x372, 2, 1), (0x376, 0x376, 1, 1), (0x37f, 0x37f, 1, 116),
    (0x386, 0x386, 1, 38), (0x388, 0x38a, 1, 37), (0x38c, 0x38c, 1, 64), (0x38e, 0x38f, 1, 63),
    (0x391, 0x3a1, 1, 32), (0x3a3, 0x3ab, 1, 32), (0x3cf, 0x3cf, 1, 8), (0x3d8, 0x3ee, 2, 1),
    (0x3f4, 0x3f4, 1, -60), (0x3f7, 0x3f7, 1, 1), (0x3f9, 0x3f9, 1, -7), (0x3fa, 0x3fa, 1, 1),
    (0x3fd, 0x3ff, 1, -130), (0x400, 0x40f, 1, 80), (0x410, 0x42f, 1, 32), (0x460, 0x480, 2, 1),
    (0x48a, 0x4be, 2, 1), (0x4c0, 0x4c0, 1, 15), (0x4c1, 0x4cd, 2, 1), (0x4d0, 0x52e, 2, 1),
    (0x531, 0x556, 1, 48), (0x10a0, 0x10c5, 1, 7264), (0x10c7, 0x10c7, 1, 7264),
    (0x10cd, 0x10cd, 1, 7264), (0x13a0, 0x13ef, 1, 38864), (0x13f0, 0x13f5, 1, 8),
    (0x1c90, 0x1cba, 1, -3008), (0x1cbd, 0x1cbf, 1, -3008), (0x1e00, 0x1e94, 2, 1),
    (0x1e9e, 0x1e9e, 1, -7615), (0x1ea0, 0x1efe, 2, 1), (0x1f08, 0x1f0f, 1, -8),
    (0x1f18, 0x1f1d, 1, -8), (0x1f28, 0x1f2f, 1, -8), (0x1f38, 0x1f3f, 1, -8),
    (0x1f48, 0x1f4d, 1, -8), (0x1f59, 0x1f5f, 2, -8), (0x1f68, 0x1f6f, 1, -8),
    (0x1f88, 0x1f8f, 1, -8), (0x1f98, 0x1f9f, 1, -8), (0x1fa8, 0x1faf, 1, -8),
    (0x1fb8, 0x1fb9, 1, -8), (0x1fba, 0x1fbb, 1, -74), (0x1fbc, 0x1fbc, 1, -9),
    (0x1fc8, 0x1fcb, 1, -86), (0x1fcc, 0x1fcc, 1, -9), (0x1fd8, 0x1fd9, 1, -8),
    (0x1fda, 0x1fdb, 1, -100), (0x1fe8, 0x1fe9, 1, -8), (0x1fea, 0x1feb, 1, -112),
    (0x1fec, 0x1fec, 1, -7), (0x1ff8, 0x1ff9, 1, -128), (0x1ffa, 0x1ffb, 1, -126),
    (0x1ffc, 0x1ffc, 1, -9), (0x2126, 0x2126, 1, -7517), (0x212a, 0x212a, 1, -8383),
    (0x212b, 0x212b, 1, -8262), (0x2132, 0x2132, 1, 28), (0x2160, 0x216f, 1, 16),
    (0x2183, 0x2183, 1, 1), (0x24b6, 0x24cf, 1, 26), (0x2c00, 0x2c2f, 1, 48),
    (0x2c60, 0x2c60, 1, 1), (0x2c62, 0x2c62, 1, -10743), (0x2c63, 0x2c63, 1, -3814),
    (0x2c64, 0x2c64, 1, -10727), (0x2c67, 0x2c6b, 2, 1), (0x2c6d, 0x2c6d, 1, -10780),
    (0x2c6e, 0x2c6e, 1, -10749), (0x2c6f, 0x2c6f, 1, -10783), (0x2c70, 0x2c70, 1, -10782),
    (0x2c72, 0x2c72, 1, 1), (0x2c75, 0x2c75, 1, 1), (0x2c7e, 0x2c7f, 1, -10815),
    (0x2c80, 0x2ce2, 2, 1), (0x2ceb, 0x2ced, 2, 1), (0x2cf2, 0x2cf2, 1, 1),
    (0xa640, 0xa66c, 2, 1), (0xa680, 0xa69a, 2, 1), (0xa722, 0xa72e, 2, 1),
    (0xa732, 0xa76e, 2, 1), (0xa779, 0xa77b, 2, 1), (0xa77d, 0xa77d, 1, -35332),
    (0xa77e, 0xa786, 2, 1), (0xa78b, 0xa78b, 1, 1), (0xa78d, 0xa78d, 1, -42280),
    (0xa790, 0xa792, 2, 1), (0xa796, 0xa7a8, 2, 1), (0xa7aa, 0xa7aa, 1, -42308),
    (0xa7ab, 0xa7ab, 1, -42319), (0xa7ac, 0xa7ac, 1, -42315), (0xa7ad, 0xa7ad, 1, -42305),
    (0xa7ae, 0xa7ae, 1, -42308), (0xa7b0, 0xa7b0, 1, -42258), (0xa7b1, 0xa7b1, 1, -42282),
    (0xa7b2, 0xa7b2, 1, -42261), (0xa7b3, 0xa7b3, 1, 928), (0xa7b4, 0xa7c2, 2, 1),
    (0xa7c4, 0xa7c4, 1, -48), (0xa7c5, 0xa7c5, 1, -42307), (0xa7c6, 0xa7c6, 1, -35384),
    (0xa7c7, 0xa7c9, 2, 1), (0xa7d0, 0xa7d0, 1, 1), (0xa7d6, 0xa7d8, 2, 1),
    (0xa7f5, 0xa7f5, 1, 1), (0xff21, 0xff3a, 1, 32), (0x10400, 0x10427, 1, 40),
    (0x104b0, 0x104d3, 1, 40), (0x10570, 0x1057a, 1, 39), (0x1057c, 0x1058a, 1, 39),
    (0x1058c, 0x10592, 1, 39), (0x10594, 0x10595, 1, 39), (0x10c80, 0x10cb2, 1, 64),
    (0x118a0, 0x118bf, 1, 32), (0x16e40, 0x16e5f, 1, 32), (0x1e900, 0x1e921, 1, 34)]

/-- `unicode.ToLower`. -/
def toLower (rune : Nat) : Nat :=
  if rune < 0x80 then if 0x41 ≤ rune ∧ rune ≤ 0x5A then rune + 0x20 else rune
  else
    match lowerRanges.find? fun (low, high, stride, _) =>
        low ≤ rune && rune ≤ high && (rune - low) % stride == 0 with
    | some (_, _, _, distance) => ((rune : Int) + distance).toNat
    | none => rune

/-- `unicode.IsSpace`. -/
def isSpace (rune : Nat) : Bool :=
  (0x09 ≤ rune && rune ≤ 0x0D) || rune == 0x20 || rune == 0x85 || rune == 0xA0 ||
    rune == 0x1680 || (0x2000 ≤ rune && rune ≤ 0x200A) || rune == 0x2028 || rune == 0x2029 ||
    rune == 0x202F || rune == 0x205F || rune == 0x3000

end Unicode

namespace Strings

/-- `strings.ToLower`. -/
def toLower (bytes : Bytes) : Bytes :=
  (Utf8.runes bytes).flatMap fun rune => Utf8.encodeRune (Unicode.toLower rune)

/-- `strings.TrimSpace(v) == ""`: every rune of the string is white space. -/
def isBlank (bytes : Bytes) : Bool := (Utf8.runes bytes).all Unicode.isSpace

end Strings

end SeshatOps
