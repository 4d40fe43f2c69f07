/-
This file compares the two checks of an identifier: the one of the ERP source, which walks over
the runes of the lower-cased text and then reads two of its bytes, and the one of the event
contract, which matches a regular expression on the text as it stands.

Lower-casing does not keep the length of a text: U+0130 and U+212A are longer than the letters
they become, and the source tests the length before it lower-cases. A text with one of them
leaves an `i` or a `k` for the loop, which refuses both, and every other rune outside ASCII stays
outside it. So the loop passes ASCII alone, and there the two bytes are where the source reads
them.
-/

import Mathlib.Data.List.Enum
import SeshatOps.Checksum
import SeshatOps.Decide
import SeshatOps.Source

namespace SeshatOps

open Event

namespace Utf8

/-! ### Texts of ASCII runes -/

/-- A lead byte, with the bounds that it sets on the next one, leaves ASCII to single bytes. -/
def State.apart (value : Nat) : State → Bool
  | .ground => value < 0x80
  | .owed 0 _ _ => 2 ≤ value % 0x20
  | .owed 1 low _ => 1 ≤ value % 0x10 || 0xA0 ≤ low.toNat
  | .owed _ low _ => 1 ≤ value % 0x08 || 0x90 ≤ low.toNat

theorem lead_apart {byte : UInt8} {state : State} (starts : lead byte = some state) :
    state.apart byte.toNat = true := by
  have all : ∀ value < 256, (lead (UInt8.ofNat value)).all (State.apart value) = true := by
    decide +kernel
  have own := all byte.toNat byte.toNat_lt
  rwa [UInt8.ofNat_toNat, starts] at own

/-- Only an ASCII byte starts a rune below U+0080. -/
theorem decodeRune_low {byte : UInt8} {rest : Bytes}
    (low : (decodeRune (byte :: rest)).1 < 0x80) : byte < 0x80 := by
  have tail_of_le : ∀ least second : UInt8, 0x80 ≤ least → least ≤ second → second ≤ 0xBF →
      least.toNat - 0x80 ≤ tail second := by
    intro least second above atLeast atMost
    simp only [UInt8.le_iff_toNat_le] at above atLeast atMost
    have first : (0x80 : UInt8).toNat = 0x80 := rfl
    have last : (0xBF : UInt8).toNat = 0xBF := rfl
    unfold tail
    omega
  simp only [decodeRune] at low
  split at low
  · rename_i starts
    exact UInt8.lt_iff_toNat_lt.mpr (of_decide_eq_true (lead_apart starts))
  · rename_i starts
    have wide : 2 ≤ byte.toNat % 0x20 := of_decide_eq_true (lead_apart starts)
    split_ifs at low
    · omega
    · simp [runeError] at low
  · rename_i least most second third others starts
    have bounds := lead_owed starts
    have wide := lead_apart starts
    simp only [State.apart, Bool.or_eq_true, decide_eq_true_eq] at wide
    split_ifs at low with continued
    · have room := tail_of_le least second bounds.1 continued.1.1
        (UInt8.le_trans continued.1.2 bounds.2)
      omega
    · simp [runeError] at low
  · rename_i more least most second third fourth others notTwo notThree starts
    have bounds := lead_owed starts
    have wide := lead_apart starts
    split_ifs at low with continued
    · have room := tail_of_le least second bounds.1 continued.1.1
        (UInt8.le_trans continued.1.2 bounds.2)
      obtain _ | _ | more := more
      · exact (notTwo rfl).elim
      · exact (notThree rfl).elim
      · simp only [State.apart, Bool.or_eq_true, decide_eq_true_eq] at wide
        omega
    · simp [runeError] at low
  · simp [runeError] at low

theorem plain_of_runesWithin (fuel : Nat) (bytes : Bytes) (enough : bytes.length ≤ fuel)
    (low : ∀ rune ∈ runesWithin fuel bytes, rune < 0x80) : ∀ byte ∈ bytes, byte < 0x80 := by
  induction fuel generalizing bytes with
  | zero =>
    intro byte member
    rw [List.length_eq_zero_iff.mp (Nat.le_zero.mp enough)] at member
    cases member
  | succ fuel hypothesis =>
    cases bytes with
    | nil => simp
    | cons first rest =>
      have plain : first < 0x80 := decodeRune_low (low _ List.mem_cons_self)
      have width : (decodeRune (first :: rest)).2 = 1 := by
        simp only [decodeRune, lead, if_pos plain]
      have others : ∀ byte ∈ rest, byte < 0x80 := by
        refine hypothesis rest (Nat.le_of_succ_le_succ enough) fun rune member => ?_
        refine low rune (List.mem_cons_of_mem _ ?_)
        rwa [width]
      intro byte member
      rcases List.mem_cons.mp member with rfl | member
      · exact plain
      · exact others byte member

/-- A text of ASCII runes is a text of ASCII bytes. -/
theorem plain_of_runes {bytes : Bytes} (low : ∀ rune ∈ runes bytes, rune < 0x80) :
    ∀ byte ∈ bytes, byte < 0x80 :=
  plain_of_runesWithin bytes.length bytes le_rfl low

/-- ASCII alone is written in ASCII. -/
theorem encodeRune_low {rune : Nat} (low : ∀ byte ∈ encodeRune rune, byte < 0x80) :
    rune < 0x80 := by
  have first : ∀ value : Nat, 0x80 ≤ value → value < 256 → ¬ UInt8.ofNat value < 0x80 := by
    intro value above below
    rw [UInt8.lt_iff_toNat_lt, UInt8.toNat_ofNat_of_lt' below]
    exact Nat.not_lt.mpr above
  by_contra high
  unfold encodeRune at low
  split_ifs at low with small two invalid three
  · exact high small
  · exact first _ (by omega) (by omega) (low _ List.mem_cons_self)
  · exact absurd (low _ List.mem_cons_self) (by decide)
  · exact first _ (by omega) (by omega) (low _ List.mem_cons_self)
  · exact first _ (by omega) (by omega) (low _ List.mem_cons_self)

end Utf8

/-- Outside ASCII, only U+0130 and U+212A have a lower case inside it, `i` and `k`. -/
theorem Unicode.toLower_low {rune : Nat} (low : Unicode.toLower rune < 0x80) :
    rune < 0x80 ∨ Unicode.toLower rune = 0x69 ∨ Unicode.toLower rune = 0x6B := by
  have ranges : ∀ range ∈ lowerRanges, 0x80 ≤ (range.1 : Int) + range.2.2.2 ∨
      range.1 = range.2.1 ∧
        ((range.1 : Int) + range.2.2.2 = 0x69 ∨ (range.1 : Int) + range.2.2.2 = 0x6B) := by
    decide +kernel
  by_cases plain : rune < 0x80
  · exact Or.inl plain
  refine Or.inr ?_
  unfold Unicode.toLower at low ⊢
  rw [if_neg plain] at low ⊢
  split at low
  · rename_i first last stride distance found
    have inside := List.find?_some found
    have listed := List.mem_of_find?_eq_some found
    simp only [Bool.and_eq_true, decide_eq_true_eq] at inside
    rcases ranges _ listed with far | ⟨single, lower⟩
    · simp only at far
      omega
    · simp only at single lower
      omega
  · omega

namespace Source

/-! ### The loop -/

theorem uuidRunes_rune {runes : List Nat} {place : Nat} (passed : uuidRunes place runes = true) :
    ∀ rune ∈ runes, rune = 0x2D ∨ isHex rune = true := by
  induction runes generalizing place with
  | nil => simp
  | cons first rest hypothesis =>
    simp only [uuidRunes, Bool.and_eq_true] at passed
    intro rune member
    rcases List.mem_cons.mp member with rfl | member
    · by_cases dash : place = 8 ∨ place = 13 ∨ place = 18 ∨ place = 23
      · rw [if_pos dash] at passed
        exact Or.inl (beq_iff_eq.mp passed.1)
      · rw [if_neg dash] at passed
        exact Or.inr passed.1
    · exact hypothesis passed.2 rune member

theorem isHex_low {rune : Nat} (hex : isHex rune = true) : rune < 0x80 ∧ rune ≠ 0x69 ∧
    rune ≠ 0x6B := by
  simp only [isHex, Bool.or_eq_true, Bool.and_eq_true, decide_eq_true_eq] at hex
  omega

/-- The loop over the lower-cased text passes ASCII alone. -/
theorem plain_of_uuidRunes {value : Bytes}
    (passed : uuidRunes 0 (Utf8.runes (Strings.toLower value)) = true) :
    ∀ byte ∈ value, byte < 0x80 := by
  have each : ∀ rune ∈ Utf8.runes (Strings.toLower value),
      rune < 0x80 ∧ rune ≠ 0x69 ∧ rune ≠ 0x6B := by
    intro rune member
    rcases uuidRunes_rune passed rune member with rfl | hex
    · decide
    · exact isHex_low hex
  have lowerPlain : ∀ byte ∈ Strings.toLower value, byte < 0x80 :=
    Utf8.plain_of_runes fun rune member => (each rune member).1
  have runes : Utf8.runes (Strings.toLower value) = (Strings.toLower value).map UInt8.toNat :=
    Strings.runesWithin_ascii _ lowerPlain
  refine Utf8.plain_of_runes fun rune member => ?_
  have written : ∀ byte ∈ Utf8.encodeRune (Unicode.toLower rune), byte ∈ Strings.toLower value :=
    fun byte listed => List.mem_flatMap.mpr ⟨rune, member, listed⟩
  have lowered : Unicode.toLower rune < 0x80 :=
    Utf8.encodeRune_low fun byte listed => lowerPlain byte (written byte listed)
  rcases Unicode.toLower_low lowered with low | letter
  · exact low
  · have single : Utf8.encodeRune (Unicode.toLower rune) =
        [UInt8.ofNat (Unicode.toLower rune)] := by
      rw [Utf8.encodeRune, if_pos lowered]
    have listed : UInt8.ofNat (Unicode.toLower rune) ∈ Strings.toLower value :=
      written _ (by rw [single]; exact List.mem_singleton_self _)
    have refused := each (Unicode.toLower rune) (by
      rw [runes]
      refine List.mem_map.mpr ⟨_, listed, ?_⟩
      exact UInt8.toNat_ofNat_of_lt' (Nat.lt_trans lowered (by decide)))
    exact absurd letter (by tauto)

/-! ### The pattern -/

/-- The lower case of an ASCII byte. -/
def lowerByte (byte : UInt8) : UInt8 := UInt8.ofNat (Unicode.toLower byte.toNat)

theorem toLower_plain {value : Bytes} (plain : ∀ byte ∈ value, byte < 0x80) :
    Strings.toLower value = value.map lowerByte := by
  have small : ∀ rune < 0x80, Unicode.toLower rune < 0x80 := by decide +kernel
  rw [Strings.toLower, Utf8.runes, Strings.runesWithin_ascii value plain, List.flatMap_map,
    List.map_eq_flatMap]
  refine List.flatMap_congr fun byte member => ?_
  have low := small byte.toNat (UInt8.lt_iff_toNat_lt.mp (plain byte member))
  rw [Utf8.encodeRune, if_pos low]
  rfl

/-- What the loop of `requireUUID` asks of the byte at a place. -/
def loopPlace (byte : UInt8) (place : Nat) : Bool :=
  if place = 8 ∨ place = 13 ∨ place = 18 ∨ place = 23 then byte == 0x2D else isHex byte.toNat

theorem uuidRunes_plain (bytes : Bytes) (place : Nat) (plain : ∀ byte ∈ bytes, byte < 0x80) :
    uuidRunes place (bytes.map UInt8.toNat) =
      (bytes.zipIdx place).all fun entry => loopPlace entry.1 entry.2 := by
  induction bytes generalizing place with
  | nil => rfl
  | cons byte rest hypothesis =>
    have low : byte.toNat < 0x80 := UInt8.lt_iff_toNat_lt.mp (plain byte List.mem_cons_self)
    have width : (Utf8.encodeRune byte.toNat).length = 1 := by
      rw [Utf8.encodeRune, if_pos low, List.length_singleton]
    have dash : (byte.toNat == 0x2D) = (byte == 0x2D) := by
      rw [Bool.eq_iff_iff, beq_iff_eq, beq_iff_eq, ← UInt8.toNat_inj]
      rfl
    rw [List.map_cons, uuidRunes, width, List.zipIdx_cons, List.all_cons, loopPlace, dash,
      hypothesis _ fun other member => plain other (List.mem_cons_of_mem byte member)]

/-- The variant of a UUID, in lower case. -/
def isVariant (byte : UInt8) : Bool :=
  byte == 0x38 || byte == 0x39 || byte == 0x61 || byte == 0x62

/-- The pattern of the contract at a place, read from the lower-cased byte. -/
theorem uuidPlace_eq {byte : UInt8} (plain : byte < 0x80) (place : Nat) :
    uuidPlace byte place = (loopPlace (lowerByte byte) place &&
      (place != 14 || lowerByte byte == 0x34) && (place != 19 || isVariant (lowerByte byte))) := by
  have bytes : ∀ value < 0x80,
      ((UInt8.ofNat value == 0x2D) = (lowerByte (UInt8.ofNat value) == 0x2D)) ∧
      Event.isHex (UInt8.ofNat value) = isHex (lowerByte (UInt8.ofNat value)).toNat ∧
      ((UInt8.ofNat value == 0x34) = (isHex (lowerByte (UInt8.ofNat value)).toNat &&
        lowerByte (UInt8.ofNat value) == 0x34)) ∧
      uuidPlace (UInt8.ofNat value) 19 = (isHex (lowerByte (UInt8.ofNat value)).toNat &&
        isVariant (lowerByte (UInt8.ofNat value))) := by
    decide +kernel
  have own := bytes byte.toNat (UInt8.lt_iff_toNat_lt.mp plain)
  rw [UInt8.ofNat_toNat] at own
  obtain ⟨dash, hex, version, variant⟩ := own
  by_cases isDash : place = 8 ∨ place = 13 ∨ place = 18 ∨ place = 23
  · have notVersion : (place != 14) = true := by
      rw [bne_iff_ne]
      omega
    have notVariant : (place != 19) = true := by
      rw [bne_iff_ne]
      omega
    rw [uuidPlace, if_pos isDash, loopPlace, if_pos isDash, dash, notVersion, notVariant]
    simp
  · rw [loopPlace, if_neg isDash]
    by_cases isVersion : place = 14
    · subst isVersion
      rw [uuidPlace, if_neg isDash, if_pos rfl, version]
      simp
    · by_cases isVariantPlace : place = 19
      · subst isVariantPlace
        rw [variant, show (19 != 14) = true from rfl, show (19 != 19) = false from rfl,
          Bool.true_or, Bool.false_or, Bool.and_true]
      · rw [uuidPlace, if_neg isDash, if_neg isVersion, if_neg isVariantPlace, hex]
        have notVersion : (place != 14) = true := bne_iff_ne.mpr isVersion
        have notVariant : (place != 19) = true := bne_iff_ne.mpr isVariantPlace
        rw [notVersion, notVariant, Bool.true_or, Bool.true_or, Bool.and_true, Bool.and_true]

/-- On ASCII the two checks agree, once the bytes at their places are there. -/
theorem matchesUUID_plain {value : Bytes} (plain : ∀ byte ∈ value, byte < 0x80)
    (long : value.length = 36) :
    matchesUUID value = (uuidRunes 0 (Utf8.runes (Strings.toLower value)) &&
      (Strings.toLower value)[14]? == some 0x34 &&
      (Strings.toLower value)[19]?.any isVariant) := by
  have lowered := toLower_plain plain
  have lowPlain : ∀ byte ∈ value.map lowerByte, byte < 0x80 := by
    have small : ∀ rune < 0x80, lowerByte (UInt8.ofNat rune) < 0x80 := by decide +kernel
    intro byte member
    obtain ⟨source, listed, rfl⟩ := List.mem_map.mp member
    have own := small source.toNat (UInt8.lt_iff_toNat_lt.mp (plain source listed))
    rwa [UInt8.ofNat_toNat] at own
  have loop : uuidRunes 0 (Utf8.runes (Strings.toLower value)) =
      (value.zipIdx 0).all fun entry => loopPlace (lowerByte entry.1) entry.2 := by
    rw [lowered, Utf8.runes, Strings.runesWithin_ascii _ lowPlain, uuidRunes_plain _ 0 lowPlain,
      List.zipIdx_map, List.all_map]
    rfl
  have version : (Strings.toLower value)[14]? = some (lowerByte value[14]) := by
    rw [lowered, List.getElem?_map, List.getElem?_eq_getElem (by omega)]
    rfl
  have variant : (Strings.toLower value)[19]? = some (lowerByte value[19]) := by
    rw [lowered, List.getElem?_map, List.getElem?_eq_getElem (by omega)]
    rfl
  have each : ∀ place (inside : place < value.length), uuidPlace value[place] place = _ :=
    fun place inside => uuidPlace_eq (plain _ (List.getElem_mem inside)) place
  rw [loop, version, variant, Option.any_some, Bool.eq_iff_iff]
  simp only [matchesUUID, long, beq_self_eq_true, Bool.true_and, Bool.and_eq_true,
    List.all_eq_true, beq_iff_eq, Option.some.injEq, List.forall_mem_zipIdx', each]
  constructor
  · intro all
    refine ⟨⟨fun place inside => (all place inside).1.1, ?_⟩, ?_⟩
    · exact beq_iff_eq.mp (all 14 (by omega)).1.2
    · exact (all 19 (by omega)).2
  · rintro ⟨⟨places, isFour⟩, isVariant⟩ place inside
    refine ⟨⟨places place inside, ?_⟩, ?_⟩
    · by_cases isVersion : place = 14
      · subst isVersion
        exact beq_iff_eq.mpr isFour
      · rw [bne_iff_ne.mpr isVersion, Bool.true_or]
    · by_cases isVariantPlace : place = 19
      · subst isVariantPlace
        exact isVariant
      · rw [bne_iff_ne.mpr isVariantPlace, Bool.true_or]

/-- The source accepts the identifiers of the pattern. -/
theorem requireUUID_eq (value : Bytes) : requireUUID value = matchesUUID value := by
  have variant : ∀ byte : Option UInt8, (byte == some 0x38 || byte == some 0x39 ||
      byte == some 0x61 || byte == some 0x62) = byte.any isVariant := by
    intro byte
    cases byte with
    | none => rfl
    | some byte => rfl
  have split : requireUUID value = (Utf8.validString value && value.length == 36 &&
      (uuidRunes 0 (Utf8.runes (Strings.toLower value)) &&
        (Strings.toLower value)[14]? == some 0x34 &&
        (Strings.toLower value)[19]?.any isVariant)) := by
    rw [← variant, requireUUID]
    simp only [Bool.and_assoc]
  by_cases long : value.length = 36
  · by_cases plain : ∀ byte ∈ value, byte < 0x80
    · rw [split, matchesUUID_plain plain long, Utf8.validString_ascii plain, long]
      rfl
    · have refused : uuidRunes 0 (Utf8.runes (Strings.toLower value)) = false :=
        Bool.eq_false_iff.mpr fun passed => plain (plain_of_uuidRunes passed)
      have unmatched : matchesUUID value = false := by
        refine Bool.eq_false_iff.mpr fun matched => plain fun byte member => ?_
        exact (Event.visible_of_uuid matched byte member).2.1
      rw [split, refused, unmatched, Bool.false_and, Bool.false_and, Bool.and_false]
  · have short : (value.length == 36) = false := beq_eq_false_iff_ne.mpr long
    rw [split, matchesUUID, short, Bool.and_false, Bool.false_and, Bool.false_and]

/-! ### Reading bytes as Go does -/

/-- A panic of the Go runtime. -/
inductive Panic
  | indexOutOfRange
  deriving DecidableEq

/-- `text[place]`. -/
def byteAt (text : Bytes) (place : Nat) : Except Panic UInt8 :=
  match text[place]? with
  | some byte => .ok byte
  | none => .error .indexOutOfRange

/-- `requireUUID` with its two reads of the lower-cased text, which panic past its end. -/
def readUUID (value : Bytes) : Except Panic Bool :=
  let lower := Strings.toLower value
  if Utf8.validString value = false then .ok false
  else if value.length ≠ 36 then .ok false
  else if uuidRunes 0 (Utf8.runes lower) = false then .ok false
  else do
    let version ← byteAt lower 14
    if version ≠ 0x34 then return false
    let variant ← byteAt lower 19
    return isVariant variant

/-- A text that the loop passes has both bytes. -/
theorem readUUID_eq (value : Bytes) : readUUID value = .ok (requireUUID value) := by
  rw [requireUUID_eq, readUUID]
  by_cases valid : Utf8.validString value = false
  · rw [if_pos valid, ← requireUUID_eq, requireUUID, valid]
    rfl
  rw [if_neg valid]
  by_cases long : value.length ≠ 36
  · have short : (value.length == 36) = false := beq_eq_false_iff_ne.mpr long
    rw [if_pos long, matchesUUID, short, Bool.false_and]
  rw [if_neg long]
  rw [not_not] at long
  by_cases refused : uuidRunes 0 (Utf8.runes (Strings.toLower value)) = false
  · rw [if_pos refused, ← requireUUID_eq, requireUUID, refused]
    simp
  rw [if_neg refused]
  rw [Bool.not_eq_false] at refused
  have plain := plain_of_uuidRunes refused
  have kept : (Strings.toLower value).length = 36 := by
    rw [toLower_plain plain, List.length_map, long]
  have version : (Strings.toLower value)[14]? = some (Strings.toLower value)[14] :=
    List.getElem?_eq_getElem (by omega)
  have variant : (Strings.toLower value)[19]? = some (Strings.toLower value)[19] :=
    List.getElem?_eq_getElem (by omega)
  rw [matchesUUID_plain plain long, refused, version, variant]
  simp only [byteAt, version, variant]
  by_cases isFour : (Strings.toLower value)[14] = 0x34
  · simp [isFour, bind, Except.bind, pure, Except.pure]
  · simp [isFour, bind, Except.bind, pure, Except.pure]

/-! ### The two packages -/

/-- For every text: the check of a UUID in the source does not panic, and each check of the
source accepts what the contract's check of the same name accepts, identifiers in valid UTF-8
only. -/
theorem identifier_checks_agree (value : Bytes) (field : String) :
    readUUID value = .ok (requireUUID value) ∧
    (requireUUID value = true ↔ Event.requireUUID value field = .ok ()) ∧
    (requireLowerUUID value = true ↔ Event.requireLowerUUID value field = .ok ()) ∧
    (requireCanonicalID value = true ↔
      Utf8.validString value = true ∧ Event.requireCanonicalID value field = .ok ()) := by
  refine ⟨readUUID_eq value, ?_, ?_, ?_⟩
  · rw [requireUUID_eq, Event.requireUUID, demand_ok]
  · rw [requireLowerUUID, requireUUID_eq, Event.requireLowerUUID, check_then_ok,
      Event.requireUUID, demand_ok, demand_ok, Bool.and_eq_true]
  · simp only [requireCanonicalID, Event.requireCanonicalID, check_then_ok, demand_ok,
      Bool.and_eq_true]
    tauto

end Source

end SeshatOps
