/-
This file proves that `Parse` reads back what `CanonicalBytes` writes.

A transcript of a value is its canonical text together with what the strict decoder
returns on that text wherever it stands: in front of a comma, of a closing brace or
of the end. Strings, integers and null have themselves as transcript. An object of
transcribed members has the object with its members in canonical order. An envelope
is an object of strings and integers with one object inside, and the decoder finds
its members by name, so the order is of no consequence.
-/

import SeshatOps.Parse

namespace SeshatOps

namespace Event

/-! ### Strings -/

theorem hexDigit_digit (value : Nat) (small : value < 16) :
    Json.hexDigit (Hex.digit value) = some value := by
  interval_cases value <;> rfl

theorem hexUnit_low (value : Nat) (small : value < 256) (rest : Bytes) :
    Json.hexUnit (0x30 :: 0x30 :: Hex.digit (value / 16) :: Hex.digit (value % 16) :: rest) =
      some (value, rest) := by
  have zero : Json.hexDigit 0x30 = some 0 := rfl
  have sum : ((0 * 16 + 0) * 16 + value / 16) * 16 + value % 16 = value := by omega
  simp only [Json.hexUnit, zero, hexDigit_digit (value / 16) (by omega),
    hexDigit_digit (value % 16) (by omega), sum]

theorem unicodeEscape_low (value : Nat) (small : value < 256) (rest : Bytes) :
    Json.unicodeEscape
      (0x30 :: 0x30 :: Hex.digit (value / 16) :: Hex.digit (value % 16) :: rest) =
      some (value, rest) := by
  have notHigh : Json.isHighSurrogate value = false := by
    simp only [Json.isHighSurrogate, Bool.and_eq_false_iff, decide_eq_false_iff_not]
    omega
  have notLow : Json.isLowSurrogate value = false := by
    simp only [Json.isLowSurrogate, Bool.and_eq_false_iff, decide_eq_false_iff_not]
    omega
  simp [Json.unicodeEscape, hexUnit_low value small rest, notHigh, notLow]

/-- One written byte is read back as itself. -/
theorem stringBody_jcsByte (fuel : Nat) (byte : UInt8) (rest : Bytes) :
    Json.stringBody (fuel + 1) (jcsByte byte ++ rest) =
      (Json.stringBody fuel rest).map fun (content, last) => (byte :: content, last) := by
  unfold jcsByte
  split_ifs with quoted backspace formfeed newline carriage tab control
  · have meant : Json.shortEscape byte = some byte := by
      unfold Json.shortEscape
      rw [if_pos (by tauto)]
    have notUnicode : byte ≠ 0x75 := by
      rintro rfl
      revert quoted
      decide
    simp [Json.stringBody, Json.quote, Json.backslash, notUnicode, meant]
  · subst backspace; rfl
  · subst formfeed; rfl
  · subst newline; rfl
  · subst carriage; rfl
  · subst tab; rfl
  · have small : byte.toNat < 256 := byte.toNat_lt
    have plain : byte.toNat < 0x80 := by
      have bound : byte.toNat < 0x20 := control
      omega
    have encoded : Utf8.encodeRune byte.toNat = [byte] := by
      simp [Utf8.encodeRune, plain]
    simp only [Json.stringBody, Json.quote, Json.backslash, List.cons_append, List.nil_append,
      unicodeEscape_low byte.toNat small rest, encoded]
    rfl
  · have notQuote : byte ≠ Json.quote := fun same => quoted (Or.inl same)
    have notBackslash : byte ≠ Json.backslash := fun same => quoted (Or.inr same)
    simp [Json.stringBody, notQuote, notBackslash, control]

theorem stringBody_written (content rest : Bytes) (fuel : Nat) (enough : content.length < fuel) :
    Json.stringBody fuel (content.flatMap jcsByte ++ Json.quote :: rest) =
      some (content, rest) := by
  induction content generalizing fuel with
  | nil =>
    obtain ⟨more, rfl⟩ : ∃ more, fuel = more + 1 := ⟨fuel - 1, by simp at enough; omega⟩
    simp [Json.stringBody]
  | cons byte tail hypothesis =>
    obtain ⟨more, rfl⟩ : ∃ more, fuel = more + 1 := ⟨fuel - 1, by simp at enough; omega⟩
    have left : tail.length < more := by simp at enough; omega
    rw [List.flatMap_cons, List.append_assoc, stringBody_jcsByte,
      hypothesis more left]
    rfl

theorem length_le_written (content : Bytes) :
    content.length ≤ (content.flatMap jcsByte).length := by
  induction content with
  | nil => simp
  | cons byte rest hypothesis =>
    have positive : 1 ≤ (jcsByte byte).length := by
      unfold jcsByte
      split_ifs <;> simp
    simp only [List.flatMap_cons, List.length_append, List.length_cons]
    omega

/-- A written string is read back as its content. -/
theorem readString_written (content rest : Bytes) (valid : Utf8.validString content = true) :
    Json.readString (content.flatMap jcsByte ++ Json.quote :: rest) = some (content, rest) := by
  have enough : content.length <
      (content.flatMap jcsByte ++ Json.quote :: rest).length + 1 := by
    have bound := length_le_written content
    simp only [List.length_append, List.length_cons]
    omega
  rw [Json.readString, stringBody_written content rest _ enough]
  simp [Utf8.toValid, valid]

/-- What the writer makes of one byte moves a UTF-8 reader as the byte itself does. -/
theorem scan_jcsByte {start next : Utf8.State} {byte : UInt8} (sound : start.Sound)
    (stepped : Utf8.step start byte = some next) :
    Utf8.scan start (jcsByte byte) = some next := by
  by_cases small : byte < 0x80
  · obtain ⟨rfl, rfl⟩ := Utf8.step_ascii sound small stepped
    refine Utf8.scan_ascii _ fun written member => ?_
    have digit : ∀ value, Hex.digit (value % 16) < 0x80 := by
      intro value
      have bound := Nat.mod_lt value (by decide : 0 < 16)
      interval_cases value % 16 <;> decide
    have high : Hex.digit (byte.toNat / 16) < 0x80 := by
      have bound : byte.toNat / 16 % 16 = byte.toNat / 16 := by have := byte.toNat_lt; omega
      exact bound ▸ digit (byte.toNat / 16)
    unfold jcsByte at member
    split_ifs at member
    all_goals simp only [List.mem_cons, List.not_mem_nil, or_false] at member
    all_goals rcases member with rfl | rfl | rfl | rfl | rfl | rfl
    all_goals first | assumption | decide | exact digit _
  · have same : jcsByte byte = [byte] := by
      unfold jcsByte
      split_ifs with quoted backspace formfeed newline carriage tab control
      · rcases quoted with rfl | rfl <;> exact absurd (by decide) small
      · subst backspace; exact absurd (by decide) small
      · subst formfeed; exact absurd (by decide) small
      · subst newline; exact absurd (by decide) small
      · subst carriage; exact absurd (by decide) small
      · subst tab; exact absurd (by decide) small
      · exact absurd (UInt8.lt_trans control (by decide)) small
      · rfl
    rw [same, Utf8.scan, stepped]
    rfl

theorem scan_written (content : Bytes) (start final : Utf8.State) (sound : start.Sound)
    (scanned : Utf8.scan start content = some final) :
    Utf8.scan start (content.flatMap jcsByte) = some final := by
  induction content generalizing start with
  | nil => exact scanned
  | cons byte rest hypothesis =>
    simp only [Utf8.scan] at scanned
    cases stepped : Utf8.step start byte with
    | none => simp [stepped] at scanned
    | some next =>
      simp only [stepped] at scanned
      rw [List.flatMap_cons, Utf8.scan_append, scan_jcsByte sound stepped]
      exact hypothesis next (Utf8.step_sound stepped) scanned

theorem validString_written (content : Bytes) (valid : Utf8.validString content = true) :
    Utf8.validString (content.flatMap jcsByte) = true := by
  simp only [Utf8.validString, decide_eq_true_eq] at valid ⊢
  exact scan_written content _ _ trivial valid

/-! ### Integers -/

/-- What may follow a value: the end, a comma or a closing brace. -/
def Stops (rest : Bytes) : Prop :=
  ∀ byte ∈ rest.head?, byte = Json.comma ∨ byte = Json.closeBrace

/-- The digits of a positive number, most significant first. -/
def decimalDigits (value : Nat) : Bytes :=
  (Nat.digits 10 value).reverse.map fun digit => UInt8.ofNat (0x30 + digit)

theorem isDigit_ofNat (digit : Nat) (small : digit < 10) :
    Json.isDigit (UInt8.ofNat (0x30 + digit)) = true := by
  interval_cases digit <;> rfl

theorem toNat_ofNat_digit (digit : Nat) (small : digit < 10) :
    (UInt8.ofNat (0x30 + digit)).toNat - 0x30 = digit := by
  interval_cases digit <;> rfl

theorem isDigit_decimalDigits (value : Nat) :
    ∀ byte ∈ decimalDigits value, Json.isDigit byte = true := by
  intro byte member
  simp only [decimalDigits, List.mem_map, List.mem_reverse] at member
  obtain ⟨digit, digitMember, rfl⟩ := member
  exact isDigit_ofNat digit (Nat.digits_lt_base (by decide) digitMember)

theorem decimal_decimalDigits (value : Nat) : Json.decimal (decimalDigits value) = value := by
  have folded : ∀ digits : List Nat, (∀ digit ∈ digits, digit < 10) →
      Json.decimal (digits.reverse.map fun digit => UInt8.ofNat (0x30 + digit)) =
        Nat.ofDigits 10 digits := by
    intro digits
    induction digits with
    | nil => exact fun _ => rfl
    | cons digit rest hypothesis =>
      intro small
      have rest := hypothesis fun other member => small other (List.mem_cons_of_mem _ member)
      have head := toNat_ofNat_digit digit (small digit List.mem_cons_self)
      rw [Nat.ofDigits_cons, ← rest]
      simp only [Json.decimal, List.reverse_cons, List.map_append, List.map_cons, List.map_nil,
        List.foldl_append, List.foldl_cons, List.foldl_nil, head]
      rw [Nat.add_comm, Nat.mul_comm]
  rw [decimalDigits, folded _ fun digit member => Nat.digits_lt_base (by decide) member,
    Nat.ofDigits_digits]

/-- The digits of a positive number start with one that is not zero. -/
theorem decimalDigits_cons (value : Nat) (positive : value ≠ 0) :
    ∃ head rest, decimalDigits value = head :: rest ∧ head ≠ 0x30 ∧ Json.isDigit head = true := by
  have nonempty : Nat.digits 10 value ≠ [] := Nat.digits_ne_nil_iff_ne_zero.mpr positive
  have last := Nat.getLast_digit_ne_zero 10 positive
  have small : (Nat.digits 10 value).getLast nonempty < 10 :=
    Nat.digits_lt_base (by decide) (List.getLast_mem nonempty)
  refine ⟨UInt8.ofNat (0x30 + (Nat.digits 10 value).getLast nonempty),
    ((Nat.digits 10 value).dropLast.reverse.map fun digit => UInt8.ofNat (0x30 + digit)),
    ?_, ?_, isDigit_ofNat _ small⟩
  · conv_lhs => rw [decimalDigits, ← List.dropLast_append_getLast nonempty]
    simp
  · generalize (Nat.digits 10 value).getLast nonempty = digit at last small
    interval_cases digit
    · exact absurd rfl last
    all_goals decide

theorem readSign_cons (head : UInt8) (tail : Bytes) (isDigit : Json.isDigit head = true) :
    Json.readSign (head :: tail) = ([], head :: tail) := by
  unfold Json.readSign
  split
  · next same =>
    rw [(List.cons.inj same).1] at isDigit
    exact absurd isDigit (by decide)
  · rfl

theorem formatInt_natCast (value : Nat) :
    Json.formatInt value = if value = 0 then [0x30] else decimalDigits value := by
  have sign : ¬ ((value : Int) < 0) := by omega
  simp only [Json.formatInt, if_neg sign, decimalDigits, Int.natAbs_natCast,
    Int.natCast_eq_zero]

theorem decimal_formatInt (value : Nat) : Json.decimal (Json.formatInt value) = value := by
  rw [formatInt_natCast]
  split_ifs with zero
  · rw [zero]
    rfl
  · exact decimal_decimalDigits value

theorem span_digits (digits rest : Bytes) (all : ∀ byte ∈ digits, Json.isDigit byte = true)
    (stops : Stops rest) : (digits ++ rest).span Json.isDigit = (digits, rest) := by
  have stop : rest.takeWhile Json.isDigit = [] ∧ rest.dropWhile Json.isDigit = rest := by
    cases rest with
    | nil => exact ⟨rfl, rfl⟩
    | cons byte tail =>
      have other : Json.isDigit byte = false := by
        rcases stops byte rfl with rfl | rfl <;> rfl
      simp [other]
  rw [List.span_eq_takeWhile_dropWhile, List.takeWhile_append_of_pos all,
    List.dropWhile_append_of_pos all, stop.1, stop.2, List.append_nil]

/-- A written integer is read back as its text. -/
theorem readNumber_written (value : Nat) (rest : Bytes) (stops : Stops rest) :
    Json.readNumber (Json.formatInt value ++ rest) = some (Json.formatInt value, rest) := by
  have fraction : Json.readFraction rest = some ([], rest) := by
    cases rest with
    | nil => rfl
    | cons byte tail => rcases stops byte rfl with rfl | rfl <;> rfl
  have exponent : Json.readExponent rest = some ([], rest) := by
    cases rest with
    | nil => rfl
    | cons byte tail => rcases stops byte rfl with rfl | rfl <;> rfl
  rw [formatInt_natCast]
  split_ifs with zero
  · simp [Json.readNumber, readSign_cons 0x30 rest rfl, Json.readInteger, fraction, exponent]
  · obtain ⟨head, tail, digits, nonzero, isDigit⟩ := decimalDigits_cons value zero
    have whole : Json.readInteger (head :: (tail ++ rest)) = some (head :: tail, rest) := by
      have spanned := span_digits (decimalDigits value) rest (isDigit_decimalDigits value) stops
      rw [digits, List.cons_append] at spanned
      unfold Json.readInteger
      split
      · next same => exact absurd (List.cons.inj same).1 nonzero
      · simp only [Json.readDigits, spanned]
    rw [digits]
    simp [Json.readNumber, readSign_cons head _ isDigit, whole, fraction, exponent]

/-- The text of a safe integer is read back as the integer. -/
theorem parseIntegerNumber_written (value : Nat) (safe : (value : Int) ≤ maxSafeInt) :
    parseIntegerNumber (Json.formatInt value) = .ok value := by
  have range : ¬ ((value : Int) < 0 ∨ (value : Int) > maxSafeInt) := by omega
  have fits : -(2 ^ 63 : Int) ≤ value ∧ (value : Int) < 2 ^ 63 := by
    unfold maxSafeInt at safe
    omega
  rw [formatInt_natCast]
  split_ifs with zero
  · subst zero
    rfl
  · obtain ⟨head, tail, digits, nonzero, isDigit⟩ := decimalDigits_cons value zero
    have all := isDigit_decimalDigits value
    have noSign : head ≠ 0x2D := by
      rintro rfl
      exact absurd isDigit (by decide)
    have integer : (decimalDigits value).any
        (fun byte => byte == 0x2E || byte == 0x65 || byte == 0x45) = false := by
      rw [List.any_eq_false]
      intro byte member
      have digit := all byte member
      simp only [Bool.or_eq_true, beq_iff_eq]
      rintro ((rfl | rfl) | rfl) <;> exact absurd digit (by decide)
    have parsed : Json.parseInt64 (decimalDigits value) = some (value : Int) := by
      have allDigits : (decimalDigits value).all Json.isDigit = true := List.all_eq_true.mpr all
      have number := decimal_decimalDigits value
      rw [digits] at allDigits number ⊢
      unfold Json.parseInt64
      rw [readSign_cons head tail isDigit]
      simp only [List.isEmpty_cons, allDigits, Bool.not_true, Bool.or_self, Bool.false_eq_true,
        if_false, List.isEmpty_nil, if_true, number, if_pos fits]
    unfold parseIntegerNumber
    rw [integer, parsed]
    simp [digits, nonzero, noSign, range]

/-! ### The surrogate scan -/

/-- A text the surrogate scan passes over and leaves between literals. -/
def Clean (text : Bytes) : Prop :=
  ∀ rest, (∀ fuel, rejectUnpairedSurrogateEscapes fuel false rest = .ok ()) →
    ∀ fuel, rejectUnpairedSurrogateEscapes fuel false (text ++ rest) = .ok ()

theorem clean_nil : Clean [] := fun _ passed => passed

theorem Clean.append {first second : Bytes} (firstClean : Clean first)
    (secondClean : Clean second) : Clean (first ++ second) := by
  intro rest passed fuel
  rw [List.append_assoc]
  exact firstClean _ (secondClean rest passed) fuel

/-- Text without a quote is outside literals. -/
theorem clean_of_quoteless (text : Bytes) (quoteless : Json.quote ∉ text) : Clean text := by
  induction text with
  | nil => exact clean_nil
  | cons byte tail hypothesis =>
    intro rest passed fuel
    have other : (byte == Json.quote) = false :=
      beq_false_of_ne fun same => quoteless (same ▸ List.mem_cons_self)
    have tailClean := hypothesis fun member => quoteless (List.mem_cons_of_mem _ member)
    cases fuel with
    | zero => rfl
    | succ fuel =>
      simp only [List.cons_append, rejectUnpairedSurrogateEscapes, other]
      exact tailClean rest passed fuel

/-- Inside a literal, one written byte is passed over. -/
theorem reject_jcsByte (byte : UInt8) (rest : Bytes)
    (passed : ∀ fuel, rejectUnpairedSurrogateEscapes fuel true rest = .ok ()) (fuel : Nat) :
    rejectUnpairedSurrogateEscapes fuel true (jcsByte byte ++ rest) = .ok () := by
  cases fuel with
  | zero => rfl
  | succ fuel =>
    unfold jcsByte
    split_ifs with quoted backspace formfeed newline carriage tab control
    · have notUnicode : ¬ (byte = 0x75 ∨ byte = 0x55) := by
        rintro (rfl | rfl) <;> revert quoted <;> decide
      simp [rejectUnpairedSurrogateEscapes, Json.backslash, notUnicode, passed fuel]
    · exact passed fuel
    · exact passed fuel
    · exact passed fuel
    · exact passed fuel
    · exact passed fuel
    · have small : byte.toNat < 0x20 := control
      have unit : parseJSONUnicodeEscape (0x30 :: 0x30 :: Hex.digit (byte.toNat / 16) ::
          Hex.digit (byte.toNat % 16) :: rest) = .ok (byte.toNat, rest) := by
        simp [parseJSONUnicodeEscape, hexUnit_low byte.toNat (by omega) rest]
      have notHigh : Json.isHighSurrogate byte.toNat = false := by
        simp only [Json.isHighSurrogate, Bool.and_eq_false_iff, decide_eq_false_iff_not]
        omega
      have notLow : Json.isLowSurrogate byte.toNat = false := by
        simp only [Json.isLowSurrogate, Bool.and_eq_false_iff, decide_eq_false_iff_not]
        omega
      simp [rejectUnpairedSurrogateEscapes, Json.backslash, unit, notHigh, notLow, passed fuel,
        bind, Except.bind]
    · have notQuote : (byte != Json.quote) = true := by
        simpa [Json.quote] using fun same => quoted (Or.inl same)
      have notBackslash : byte ≠ Json.backslash := fun same => quoted (Or.inr same)
      simp [rejectUnpairedSurrogateEscapes, notBackslash, notQuote, passed fuel]

/-- The text of a string. -/
def stringText (content : Bytes) : Bytes :=
  [Json.quote] ++ content.flatMap jcsByte ++ [Json.quote]

theorem clean_stringText (content : Bytes) : Clean (stringText content) := by
  intro rest passed fuel
  have closing : ∀ fuel,
      rejectUnpairedSurrogateEscapes fuel true (Json.quote :: rest) = .ok () := by
    intro fuel
    cases fuel with
    | zero => rfl
    | succ fuel => exact passed fuel
  have inside : ∀ (content : Bytes) (fuel : Nat),
      rejectUnpairedSurrogateEscapes fuel true
        (content.flatMap jcsByte ++ Json.quote :: rest) = .ok () := by
    intro content
    induction content with
    | nil => exact closing
    | cons byte tail hypothesis =>
      rw [List.flatMap_cons, List.append_assoc]
      exact reject_jcsByte byte _ hypothesis
  have text : stringText content ++ rest =
      Json.quote :: (content.flatMap jcsByte ++ Json.quote :: rest) := by
    simp [stringText]
  rw [text]
  cases fuel with
  | zero => rfl
  | succ fuel => exact inside content fuel

/-! ### Transcripts of single values -/

/-- A text that the decoder reads as a value, wherever it stands. -/
def Reads (text : Bytes) (value : JValue) : Prop :=
  ∀ fuel rest, text.length < fuel → Stops rest →
    decodeValue fuel (text ++ rest) = .ok (value, rest)

/-- The canonical text of a value, with what the decoder makes of it. -/
structure Transcript (value : JValue) (text : Bytes) (decoded : JValue) : Prop where
  written : jcsValue value = .ok text
  reads : Reads text decoded
  utf8 : Utf8.validString text = true
  clean : Clean text

theorem jcsString_ok (content : Bytes) (valid : Utf8.validString content = true) :
    jcsString content = .ok (stringText content) := by
  simp [jcsString, demand, valid, stringText, bind, Except.bind, pure, Except.pure]

theorem transcript_string (content : Bytes) (valid : Utf8.validString content = true) :
    Transcript (.string content) (stringText content) (.string content) := by
  refine ⟨jcsString_ok content valid, ?_, ?_, clean_stringText content⟩
  · intro fuel rest enough _
    obtain ⟨more, rfl⟩ : ∃ more, fuel = more + 1 := ⟨fuel - 1, by omega⟩
    have text : stringText content ++ rest =
        Json.quote :: (content.flatMap jcsByte ++ Json.quote :: rest) := by
      simp [stringText]
    have opened : ∀ tail, Json.skipSpace (Json.quote :: tail) = Json.quote :: tail :=
      fun tail => rfl
    rw [text, decodeValue, opened]
    simp only [readString_written content rest valid]
    rfl
  · exact Utf8.validString_append
      (Utf8.validString_append rfl (validString_written content valid)) rfl

theorem transcript_null : Transcript .null (ascii "null") .null := by
  refine ⟨by rw [jcsValue], ?_, rfl, clean_of_quoteless _ (by decide)⟩
  intro fuel rest enough _
  obtain ⟨more, rfl⟩ : ∃ more, fuel = more + 1 := ⟨fuel - 1, by omega⟩
  rfl

theorem digit_plain (byte : UInt8) (isDigit : Json.isDigit byte = true) :
    Json.isSpace byte = false ∧ byte < 0x80 := by
  simp only [Json.isDigit, Bool.and_eq_true, decide_eq_true_eq] at isDigit
  have low : 0x30 ≤ byte.toNat := isDigit.1
  have high : byte.toNat ≤ 0x39 := isDigit.2
  refine ⟨?_, show byte.toNat < 0x80 by omega⟩
  simp only [Json.isSpace, Bool.or_eq_false_iff, beq_eq_false_iff_ne]
  refine ⟨⟨⟨?_, ?_⟩, ?_⟩, ?_⟩ <;> rintro rfl <;> exact absurd low (by decide)

/-- Every byte of a written integer is a digit. -/
theorem formatInt_plain (value : Nat) (byte : UInt8) (member : byte ∈ Json.formatInt value) :
    Json.isDigit byte = true := by
  rw [formatInt_natCast] at member
  split_ifs at member
  · rw [List.mem_singleton.mp member]
    rfl
  · exact isDigit_decimalDigits value byte member

/-- A written integer starts with a digit. -/
theorem formatInt_cons (value : Nat) :
    ∃ head tail, Json.formatInt value = head :: tail ∧ Json.isDigit head = true := by
  rw [formatInt_natCast]
  split_ifs with zero
  · exact ⟨0x30, [], rfl, rfl⟩
  · obtain ⟨head, tail, digits, _, isDigit⟩ := decimalDigits_cons value zero
    exact ⟨head, tail, digits, isDigit⟩

theorem transcript_integer (value : Int) (range : 0 ≤ value ∧ value ≤ maxSafeInt) :
    Transcript (.integer value) (Json.formatInt value) (.integer value) := by
  obtain ⟨number, rfl⟩ : ∃ number : Nat, value = number := ⟨value.toNat, by omega⟩
  have plain := formatInt_plain number
  refine ⟨by rw [jcsValue], ?_, ?_, ?_⟩
  · intro fuel rest enough stops
    obtain ⟨more, rfl⟩ : ∃ more, fuel = more + 1 := ⟨fuel - 1, by omega⟩
    have read := readNumber_written number rest stops
    have parsed := parseIntegerNumber_written number range.2
    obtain ⟨head, tail, text, isDigit⟩ := formatInt_cons number
    rw [text, List.cons_append] at read
    rw [text] at parsed ⊢
    -- A digit is none of the other bytes a value can start with.
    have notSpace := (digit_plain head isDigit).1
    have started : ∀ other : UInt8, Json.isDigit other = false → head ≠ other := by
      rintro other notDigit rfl
      rw [isDigit] at notDigit
      cases notDigit
    have opened : Json.skipSpace (head :: (tail ++ rest)) = head :: (tail ++ rest) := by
      simp [Json.skipSpace, notSpace]
    rw [List.cons_append, decodeValue, opened]
    simp only [started Json.openBrace rfl, started Json.openBracket rfl, started Json.quote rfl,
      started 0x74 rfl, started 0x66 rfl, started 0x6E rfl, if_false, read, orSyntaxError, parsed,
      bind, Except.bind, pure, Except.pure]
  · exact Utf8.validString_ascii fun byte member => (digit_plain byte (plain byte member)).2
  · refine clean_of_quoteless _ fun member => ?_
    exact absurd (plain _ member) (by decide)

/-! ### Transcripts of objects -/

/-- A member of an object: its name, the text of its value and what the text is read as. -/
structure Entry where
  name : Bytes
  text : Bytes
  value : JValue

def Entry.written (entry : Entry) : Bytes := stringText entry.name ++ [Json.colon] ++ entry.text

def Entry.decoded (entry : Entry) : Bytes × JValue := (entry.name, entry.value)

/-- What is asked of the members of an object. -/
structure Entry.Sound (entry : Entry) : Prop where
  name : Utf8.validString entry.name = true
  reads : Reads entry.text entry.value
  utf8 : Utf8.validString entry.text = true
  clean : Clean entry.text

/-- The members after the first, each behind its comma. -/
def laterText (entries : List Entry) : Bytes :=
  entries.flatMap fun entry => Json.comma :: entry.written

theorem intercalate_comma (first : Entry) (others : List Entry) :
    [Json.comma].intercalate ((first :: others).map Entry.written) =
      first.written ++ laterText others := by
  induction others generalizing first with
  | nil => simp [laterText]
  | cons second others hypothesis =>
    have step := hypothesis second
    simp only [List.map_cons, laterText, List.flatMap_cons] at step ⊢
    rw [List.intercalate_cons_cons, step]
    simp

/-- The opening of a member: nothing in front of the first, a comma in front of the others. -/
def opening (first : Bool) : Bytes := if first then [] else [Json.comma]

theorem decodeObject_member (entry : Entry) (sound : entry.Sound) (first : Bool)
    (out : List (Bytes × JValue)) (fresh : out.lookup entry.name = none) (fuel : Nat)
    (enough : entry.text.length < fuel) (more : Bytes) (stops : Stops more) :
    decodeObject (fuel + 1) first out (opening first ++ entry.written ++ more) =
      decodeObject fuel false (out ++ [entry.decoded]) more := by
  have opened : ∀ tail, Json.skipSpace (Json.quote :: tail) = Json.quote :: tail := fun _ => rfl
  have separated : ∀ tail, Json.skipSpace (Json.comma :: tail) = Json.comma :: tail :=
    fun _ => rfl
  have coloned : ∀ tail, Json.skipSpace (Json.colon :: tail) = Json.colon :: tail := fun _ => rfl
  have read := readString_written entry.name (Json.colon :: (entry.text ++ more)) sound.name
  have value := sound.reads fuel more enough stops
  have text : entry.written ++ more = Json.quote :: (entry.name.flatMap jcsByte ++
      Json.quote :: Json.colon :: (entry.text ++ more)) := by
    simp [Entry.written, stringText]
  have distinct : Json.quote ≠ Json.closeBrace ∧ Json.comma ≠ Json.closeBrace := by decide
  cases first with
  | true =>
    rw [opening, if_pos rfl, List.nil_append, text, decodeObject, opened]
    simp only [distinct.1, if_false, if_true, orSyntaxError, read, fresh, coloned, bind,
      Except.bind, demand, Option.isNone_none]
    rw [show Json.colon = 0x3A from rfl]
    simp only [value]
    rfl
  | false =>
    rw [opening, if_neg (by decide), List.append_assoc, text, List.singleton_append,
      decodeObject, separated]
    simp only [distinct.2, if_false, if_true, opened, Bool.false_eq_true]
    rw [show Json.quote = 0x22 from rfl] at read ⊢
    simp only [orSyntaxError, read, fresh, coloned, bind, Except.bind, demand,
      Option.isNone_none, if_true]
    rw [show Json.colon = 0x3A from rfl]
    simp only [value]
    rfl

theorem lookup_eq_none {Member : Type} (members : List (Bytes × Member)) (name : Bytes)
    (absent : name ∉ members.map Prod.fst) : members.lookup name = none := by
  rw [List.lookup_eq_none_iff]
  intro member present
  rw [bne_iff_ne]
  rintro rfl
  exact absent (List.mem_map_of_mem present)

theorem decodeObject_end (first : Bool) (out : List (Bytes × JValue)) (fuel : Nat)
    (rest : Bytes) :
    decodeObject (fuel + 1) first out (Json.closeBrace :: rest) = .ok (.object out, rest) := by
  have closed : Json.skipSpace (Json.closeBrace :: rest) = Json.closeBrace :: rest := rfl
  rw [decodeObject, closed]
  simp

theorem stops_later (entries : List Entry) (rest : Bytes) :
    Stops (laterText entries ++ Json.closeBrace :: rest) := by
  cases entries with
  | nil =>
    rintro byte ⟨⟩
    exact Or.inr rfl
  | cons entry others =>
    rintro byte ⟨⟩
    exact Or.inl rfl

theorem decodeObject_later (entries : List Entry) (sound : ∀ entry ∈ entries, entry.Sound)
    (out : List (Bytes × JValue))
    (distinct : (out.map Prod.fst ++ entries.map Entry.name).Nodup) (fuel : Nat)
    (enough : (laterText entries).length < fuel) (rest : Bytes) :
    decodeObject fuel false out (laterText entries ++ Json.closeBrace :: rest) =
      .ok (.object (out ++ entries.map Entry.decoded), rest) := by
  induction entries generalizing out fuel with
  | nil =>
    obtain ⟨more, rfl⟩ : ∃ more, fuel = more + 1 := ⟨fuel - 1, by omega⟩
    simpa [laterText] using decodeObject_end false out more rest
  | cons entry others hypothesis =>
    obtain ⟨more, rfl⟩ : ∃ more, fuel = more + 1 := ⟨fuel - 1, by omega⟩
    have fresh : out.lookup entry.name = none := by
      refine lookup_eq_none out entry.name fun present => ?_
      exact (List.nodup_append.mp distinct).2.2 _ present _ List.mem_cons_self rfl
    have size : (laterText (entry :: others)).length =
        1 + entry.written.length + (laterText others).length := by
      simp only [laterText, List.flatMap_cons, List.length_append, List.length_cons]
      omega
    have member : entry.text.length < entry.written.length := by
      simp only [Entry.written, List.length_append, List.length_singleton]
      omega
    have text : laterText (entry :: others) ++ Json.closeBrace :: rest =
        opening false ++ entry.written ++ (laterText others ++ Json.closeBrace :: rest) := by
      simp [laterText, opening]
    rw [text, decodeObject_member entry (sound entry List.mem_cons_self) false out fresh more
      (by omega) _ (stops_later others rest),
      hypothesis (fun other present => sound other (List.mem_cons_of_mem _ present))
        (out ++ [entry.decoded]) ?_ more (by omega)]
    · simp
    · simpa [Entry.decoded] using distinct

/-- The text of an object whose members are in order already. -/
def objectText (entries : List Entry) : Bytes :=
  [Json.openBrace] ++ [Json.comma].intercalate (entries.map Entry.written) ++ [Json.closeBrace]

theorem reads_objectText (entries : List Entry) (sound : ∀ entry ∈ entries, entry.Sound)
    (distinct : (entries.map Entry.name).Nodup) :
    Reads (objectText entries) (.object (entries.map Entry.decoded)) := by
  intro fuel rest enough _
  obtain ⟨more, rfl⟩ : ∃ more, fuel = more + 1 := ⟨fuel - 1, by omega⟩
  have opened : ∀ tail, Json.skipSpace (Json.openBrace :: tail) = Json.openBrace :: tail :=
    fun _ => rfl
  cases entries with
  | nil =>
    obtain ⟨less, rfl⟩ : ∃ less, more = less + 1 :=
      ⟨more - 1, by simp [objectText] at enough; omega⟩
    have text : objectText [] ++ rest = Json.openBrace :: Json.closeBrace :: rest := rfl
    rw [text, decodeValue, opened]
    simpa using decodeObject_end true [] less rest
  | cons entry others =>
    have text : objectText (entry :: others) ++ rest = Json.openBrace ::
        (opening true ++ entry.written ++ (laterText others ++ Json.closeBrace :: rest)) := by
      rw [objectText, intercalate_comma]
      simp [opening]
    have size : (objectText (entry :: others)).length =
        2 + entry.written.length + (laterText others).length := by
      rw [objectText, intercalate_comma]
      simp only [List.length_append, List.length_singleton]
      omega
    have member : entry.text.length < entry.written.length := by
      simp only [Entry.written, List.length_append, List.length_singleton]
      omega
    obtain ⟨less, rfl⟩ : ∃ less, more = less + 1 := ⟨more - 1, by omega⟩
    rw [text, decodeValue, opened]
    simp only [if_true]
    rw [decodeObject_member entry (sound entry List.mem_cons_self) true [] rfl less (by omega) _
      (stops_later others rest),
      decodeObject_later others (fun other present => sound other (List.mem_cons_of_mem _ present))
        _ ?_ less (by omega)]
    · simp
    · simpa [Entry.decoded] using distinct

/-- A property of texts that concatenation keeps holds of an object if it holds of its
members and of the punctuation. -/
theorem objectText_closed (property : Bytes → Prop) (empty : property [])
    (append : ∀ {first second}, property first → property second → property (first ++ second))
    (punctuation : property [Json.comma] ∧ property [Json.openBrace] ∧ property [Json.closeBrace])
    (entries : List Entry) (members : ∀ entry ∈ entries, property entry.written) :
    property (objectText entries) := by
  obtain ⟨comma, openBrace, closeBrace⟩ := punctuation
  refine append (append openBrace ?_) closeBrace
  cases entries with
  | nil => exact empty
  | cons first others =>
    rw [intercalate_comma]
    refine append (members first List.mem_cons_self) ?_
    have later : ∀ others : List Entry, (∀ entry ∈ others, property entry.written) →
        property (laterText others) := by
      intro others
      induction others with
      | nil => exact fun _ => empty
      | cons entry tail hypothesis =>
        intro valid
        have head := append comma (valid entry List.mem_cons_self)
        simpa [laterText] using append head
          (hypothesis fun other present => valid other (List.mem_cons_of_mem _ present))
    exact later others fun entry present => members entry (List.mem_cons_of_mem _ present)

theorem utf8_objectText (entries : List Entry) (sound : ∀ entry ∈ entries, entry.Sound) :
    Utf8.validString (objectText entries) = true := by
  refine objectText_closed (fun text => Utf8.validString text = true) rfl
    Utf8.validString_append ⟨rfl, rfl, rfl⟩ entries fun entry present => ?_
  refine Utf8.validString_append (Utf8.validString_append ?_ rfl) (sound entry present).utf8
  exact (transcript_string entry.name (sound entry present).name).utf8

theorem clean_objectText (entries : List Entry) (sound : ∀ entry ∈ entries, entry.Sound) :
    Clean (objectText entries) := by
  have single : ∀ byte, byte ≠ Json.quote → Clean [byte] := by
    intro byte other
    exact clean_of_quoteless _ (by simpa using other.symm)
  refine objectText_closed Clean clean_nil Clean.append
    ⟨single _ (by decide), single _ (by decide), single _ (by decide)⟩ entries ?_
  intro entry present
  exact ((clean_stringText entry.name).append (single Json.colon (by decide))).append
    (sound entry present).clean

/-- The entries of an object in the order they are written. -/
def sortEntries (entries : List Entry) : List Entry :=
  entries.insertionSort fun first second => lessUTF16 second.name first.name = false

theorem sortMembers_map {Member : Type} (entries : List Entry) (member : Entry → Member) :
    sortMembers (entries.map fun entry => (entry.name, member entry)) =
      (sortEntries entries).map fun entry => (entry.name, member entry) := by
  exact (List.map_insertionSort
    (fun first second : Entry => lessUTF16 second.name first.name = false)
    (fun first second : Bytes × Member => lessUTF16 second.1 first.1 = false)
    (fun entry => (entry.name, member entry)) entries fun _ _ _ _ => Iff.rfl).symm

/-- The members of an object are transcribed one by one. -/
def Transcribed (member : Bytes × JValue) (entry : Entry) : Prop :=
  entry.name = member.1 ∧ Utf8.validString member.1 = true ∧
    Transcript member.2 entry.text entry.value

theorem jcsMembers_ok (members : List (Bytes × JValue)) (entries : List Entry)
    (transcribed : List.Forall₂ Transcribed members entries) :
    jcsMembers members = .ok (entries.map fun entry => (entry.name, entry.written)) := by
  induction transcribed with
  | nil => rw [jcsMembers]; rfl
  | @cons member entry members entries head _ hypothesis =>
    obtain ⟨name, value⟩ := member
    obtain ⟨rfl, valid, transcript⟩ := head
    rw [jcsMembers, jcsString_ok _ valid, transcript.written, hypothesis]
    rfl

theorem transcribed_of_mem {members : List (Bytes × JValue)} {entries : List Entry}
    (transcribed : List.Forall₂ Transcribed members entries) {entry : Entry}
    (present : entry ∈ entries) : ∃ member, Transcribed member entry := by
  induction transcribed with
  | nil => cases present
  | cons head _ hypothesis =>
    rcases List.mem_cons.mp present with rfl | later
    · exact ⟨_, head⟩
    · exact hypothesis later

theorem transcript_object (members : List (Bytes × JValue)) (entries : List Entry)
    (transcribed : List.Forall₂ Transcribed members entries)
    (distinct : (members.map Prod.fst).Nodup) :
    Transcript (.object members) (objectText (sortEntries entries))
      (.object ((sortEntries entries).map Entry.decoded)) := by
  have names : entries.map Entry.name = members.map Prod.fst := by
    induction transcribed with
    | nil => rfl
    | cons head _ hypothesis =>
      simp only [List.map_cons, List.nodup_cons] at distinct ⊢
      rw [head.1, hypothesis distinct.2]
  have sound : ∀ entry ∈ sortEntries entries, entry.Sound := by
    intro entry present
    have original := (List.perm_insertionSort _ entries).mem_iff.mp present
    obtain ⟨member, same, valid, transcript⟩ := transcribed_of_mem transcribed original
    exact ⟨same ▸ valid, transcript.reads, transcript.utf8, transcript.clean⟩
  have sortedDistinct : ((sortEntries entries).map Entry.name).Nodup :=
    ((List.perm_insertionSort _ entries).map Entry.name).nodup_iff.mpr (names ▸ distinct)
  refine ⟨?_, reads_objectText _ sound sortedDistinct, utf8_objectText _ sound,
    clean_objectText _ sound⟩
  rw [jcsValue, jcsMembers_ok members entries transcribed]
  show Except.ok (jcsObject _) = _
  rw [jcsObject, sortMembers_map, List.map_map]
  rfl

/-! ### Transcripts of envelopes -/

/-- A value that is no object and that the contract permits. -/
def Scalar : JValue → Prop
  | .null => True
  | .string content => Utf8.validString content = true
  | .integer value => 0 ≤ value ∧ value ≤ maxSafeInt
  | .object _ => False

/-- The text of a value that is no object. -/
def scalarText : JValue → Bytes
  | .null => ascii "null"
  | .string content => stringText content
  | .integer value => Json.formatInt value
  | .object _ => []

theorem transcript_scalar (value : JValue) (scalar : Scalar value) :
    Transcript value (scalarText value) value := by
  cases value with
  | null => exact transcript_null
  | string content => exact transcript_string content scalar
  | integer value => exact transcript_integer value scalar
  | object members => exact scalar.elim

def scalarEntry (member : Bytes × JValue) : Entry := ⟨member.1, scalarText member.2, member.2⟩

theorem transcribed_scalars (members : List (Bytes × JValue))
    (names : ∀ member ∈ members, Utf8.validString member.1 = true)
    (scalars : ∀ member ∈ members, Scalar member.2) :
    List.Forall₂ Transcribed members (members.map scalarEntry) := by
  rw [List.forall₂_map_right_iff, List.forall₂_same]
  exact fun member present =>
    ⟨rfl, names member present, transcript_scalar _ (scalars member present)⟩

theorem lookup_of_mem {Member : Type} (members : List (Bytes × Member))
    (distinct : (members.map Prod.fst).Nodup) {name : Bytes} {value : Member}
    (present : (name, value) ∈ members) : members.lookup name = some value := by
  induction members with
  | nil => cases present
  | cons member rest hypothesis =>
    rw [List.map_cons, List.nodup_cons] at distinct
    rcases List.mem_cons.mp present with rfl | later
    · simp
    · have different : (name == member.1) = false := by
        refine beq_false_of_ne fun same => distinct.1 ?_
        exact same ▸ List.mem_map_of_mem (f := Prod.fst) later
      rw [List.lookup_cons, different]
      exact hypothesis distinct.2 later

/-- An object with the given members in some order: the decoder's view of a map. -/
structure Holds (object members : List (Bytes × JValue)) : Prop where
  perm : object.Perm members
  distinct : (members.map Prod.fst).Nodup

theorem Holds.lookup {object members : List (Bytes × JValue)} (holds : Holds object members) :
    ∀ member ∈ members, object.lookup member.1 = some member.2 :=
  fun _ present => lookup_of_mem object
    ((holds.perm.map Prod.fst).nodup_iff.mpr holds.distinct) (holds.perm.mem_iff.mpr present)

theorem Holds.requireKeys {object members : List (Bytes × JValue)} (holds : Holds object members)
    (keys : List String) (same : members.map Prod.fst = keys.map ascii)
    (missing : String → Reason) (unknown : Bytes → Reason) :
    requireKeys object keys missing unknown = .ok () := by
  have present : (keys.find? fun key => (object.lookup (ascii key)).isNone) = none := by
    rw [List.find?_eq_none]
    intro key member
    have named : ascii key ∈ members.map Prod.fst := same ▸ List.mem_map_of_mem member
    obtain ⟨found, foundMember, name⟩ := List.mem_map.mp named
    rw [← name, holds.lookup found foundMember]
    simp
  have known : (object.find? fun member => !(keys.map ascii).contains member.1) = none := by
    rw [List.find?_eq_none]
    intro member present
    have named : member.1 ∈ members.map Prod.fst :=
      List.mem_map_of_mem (holds.perm.mem_iff.mp present)
    rw [same] at named
    simpa using named
  rw [Event.requireKeys, present, known]

/-- The decoder's view of a transcribed object. -/
theorem holds_sortEntries (members : List (Bytes × JValue)) (entries : List Entry)
    (distinct : (members.map Prod.fst).Nodup) (same : entries.map Entry.decoded = members) :
    Holds ((sortEntries entries).map Entry.decoded) members :=
  ⟨same ▸ (List.perm_insertionSort _ entries).map Entry.decoded, distinct⟩

theorem payloadMap_names (payload : Payload) :
    (payload.payloadMap.map Prod.fst).Nodup ∧
      ∀ member ∈ payload.payloadMap, Utf8.validString member.1 = true := by
  cases payload <;> simp only [Payload.payloadMap, List.map_cons, List.map_nil,
    List.forall_mem_cons] <;> decide

theorem payloadMap_scalar (payload : Payload) (env : Envelope) (fits : payload.Fits env) :
    ∀ member ∈ payload.payloadMap, Scalar member.2 := by
  have texts := fits.texts
  have numbers := fits.numbers
  cases payload <;>
    simp only [Payload.payloadMap, Payload.texts, Payload.numbers, List.forall_mem_cons,
      Scalar] at texts numbers ⊢ <;> tauto

/-- The payload is read back from its own members. -/
theorem payloadFromObject_ok (payload : Payload) (object : List (Bytes × JValue))
    (holds : Holds object payload.payloadMap) :
    payloadFromObject payload.eventType schemaVersionV1 object = .ok payload := by
  have found := holds.lookup
  unfold payloadFromObject
  rw [familyAggregateType_payload, if_pos rfl]
  cases payload with
  | quantityDecremented quantity =>
    simp only [Payload.payloadMap, List.forall_mem_cons] at found
    obtain ⟨orderID, itemID, decremented, before, after, -⟩ := found
    have read : quantityDecrementedFromObject object = .ok quantity := by
      rw [quantityDecrementedFromObject, requirePayloadKeys, holds.requireKeys _ rfl, orderID,
        itemID, decremented, before, after]
      rfl
    simp only [Payload.eventType, if_true, read, bind, Except.bind]
    rfl
  | supplierRegistered supplier =>
    simp only [Payload.payloadMap, List.forall_mem_cons] at found
    have read : supplierRegisteredFromObject object = .ok supplier := by
      rw [supplierRegisteredFromObject, requirePayloadKeys, holds.requireKeys _ rfl, found.1]
      rfl
    have other : eventTypeSupplierRegistered ≠ eventTypeQuantityDecremented := by decide
    simp only [Payload.eventType, if_neg other, if_true, read, bind, Except.bind]
    rfl
  | ingredientLotReceived lot =>
    simp only [Payload.payloadMap, List.forall_mem_cons] at found
    obtain ⟨lotID, supplierID, itemID, -⟩ := found
    have read : ingredientLotReceivedFromObject object = .ok lot := by
      rw [ingredientLotReceivedFromObject, requirePayloadKeys, holds.requireKeys _ rfl, lotID,
        supplierID, itemID]
      rfl
    have others : eventTypeIngredientLotReceived ≠ eventTypeQuantityDecremented ∧
        eventTypeIngredientLotReceived ≠ eventTypeSupplierRegistered := by decide
    simp only [Payload.eventType, if_neg others.1, if_neg others.2, if_true, read, bind,
      Except.bind]
    rfl
  | productionBatchProduced batch =>
    simp only [Payload.payloadMap, List.forall_mem_cons] at found
    obtain ⟨batchID, lotID, -⟩ := found
    have read : productionBatchProducedFromObject object = .ok batch := by
      rw [productionBatchProducedFromObject, requirePayloadKeys, holds.requireKeys _ rfl, batchID,
        lotID]
      rfl
    have others : eventTypeProductionBatchProduced ≠ eventTypeQuantityDecremented ∧
        eventTypeProductionBatchProduced ≠ eventTypeSupplierRegistered ∧
        eventTypeProductionBatchProduced ≠ eventTypeIngredientLotReceived := by decide
    simp only [Payload.eventType, if_neg others.1, if_neg others.2.1, if_neg others.2.2, if_true,
      read, bind, Except.bind]
    rfl
  | shipmentDispatched shipment =>
    simp only [Payload.payloadMap, List.forall_mem_cons] at found
    obtain ⟨shipmentID, batchID, orderID, -⟩ := found
    have read : shipmentDispatchedFromObject object = .ok shipment := by
      rw [shipmentDispatchedFromObject, requirePayloadKeys, holds.requireKeys _ rfl, shipmentID,
        batchID, orderID]
      rfl
    have others : eventTypeShipmentDispatched ≠ eventTypeQuantityDecremented ∧
        eventTypeShipmentDispatched ≠ eventTypeSupplierRegistered ∧
        eventTypeShipmentDispatched ≠ eventTypeIngredientLotReceived ∧
        eventTypeShipmentDispatched ≠ eventTypeProductionBatchProduced := by decide
    simp only [Payload.eventType, if_neg others.1, if_neg others.2.1, if_neg others.2.2.1,
      if_neg others.2.2.2, if_true, read, bind, Except.bind]
    rfl

/-- The members of an envelope outside its payload. -/
def headerMap (env : Envelope) : List (Bytes × JValue) := (envelopeMap env).dropLast

theorem headerMap_scalar (env : Envelope) (payload : Payload) (valid : Valid env payload) :
    (∀ member ∈ headerMap env, Utf8.validString member.1 = true) ∧
      ∀ member ∈ headerMap env, Scalar member.2 := by
  have texts := valid.texts
  have schema : 0 ≤ env.eventSchemaVersion ∧ env.eventSchemaVersion ≤ maxSafeInt := by
    rw [valid.schema]
    decide
  have version : 0 ≤ env.aggregateVersion ∧ env.aggregateVersion ≤ maxSafeInt :=
    ⟨by have := valid.version.1; omega, valid.version.2⟩
  have causation : Scalar (nullable env.causationID) := by
    cases same : env.causationID with
    | none => trivial
    | some text => exact texts text (by simp [Envelope.texts, same])
  simp only [Envelope.texts, List.cons_append, List.forall_mem_cons] at texts
  simp only [headerMap, envelopeMap, List.dropLast_cons_cons, List.dropLast_singleton,
    List.forall_mem_cons]
  refine ⟨by decide, ?_⟩
  simp only [Scalar]
  tauto

/-- The decoder's view of an envelope: its header, and the payload object as decoded. -/
def decodedMap (env : Envelope) (payload : List (Bytes × JValue)) : List (Bytes × JValue) :=
  headerMap env ++ [(ascii "payload", .object payload)]

theorem envelopeMap_eq (env : Envelope) (payload : Payload) (carried : env.payload = some payload) :
    envelopeMap env = headerMap env ++ [(ascii "payload", .object payload.payloadMap)] := by
  simp [envelopeMap, headerMap, carried]

theorem decodedMap_names (env : Envelope) (payload : List (Bytes × JValue)) :
    (decodedMap env payload).map Prod.fst = envelopeKeys.map ascii := rfl

theorem envelopeKeys_nodup : (envelopeKeys.map ascii).Nodup := by decide

/-- An envelope is read back from its own members. -/
theorem envelopeFromObject_ok (env : Envelope) (payload : Payload) (valid : Valid env payload)
    (object members : List (Bytes × JValue)) (inner : Holds members payload.payloadMap)
    (outer : Holds object (decodedMap env members)) : envelopeFromObject object = .ok env := by
  have found := outer.lookup
  simp only [decodedMap, headerMap, envelopeMap, List.dropLast_cons_cons,
    List.dropLast_singleton, List.cons_append, List.nil_append, List.forall_mem_cons] at found
  obtain ⟨eventID, tenantID, eventType, schema, aggregateType, aggregateID, version, occurredAt,
    recordedAt, producer, correlationID, causationID, traceID, payloadObject, -⟩ := found
  have causation : asNullableString (some (nullable env.causationID)) "causation_id" =
      .ok env.causationID := by
    cases env.causationID <;> rfl
  have payloadRead : payloadFromObject env.eventType env.eventSchemaVersion members =
      .ok payload := by
    rw [valid.fits.eventType, valid.schema]
    exact payloadFromObject_ok payload members inner
  rw [envelopeFromObject, outer.requireKeys envelopeKeys (decodedMap_names env members), eventID,
    tenantID, eventType, schema, aggregateType, aggregateID, version, occurredAt, recordedAt,
    producer, correlationID, causationID, traceID, payloadObject, causation]
  simp only [asString, asInt, payloadRead, bind, Except.bind, pure, Except.pure,
    ← valid.carried]

/-- The canonical bytes of a valid envelope are read back as the envelope's members. -/
theorem transcript_envelope (env : Envelope) (payload : Payload) (valid : Valid env payload) :
    ∃ text object members, Transcript (.object (envelopeMap env)) text (.object object) ∧
      Holds members payload.payloadMap ∧ Holds object (decodedMap env members) := by
  obtain ⟨payloadNames, payloadUtf8⟩ := payloadMap_names payload
  obtain ⟨headerUtf8, headerScalar⟩ := headerMap_scalar env payload valid
  have innerEntries := transcribed_scalars payload.payloadMap payloadUtf8
    (payloadMap_scalar payload env valid.fits)
  have innerTranscript := transcript_object _ _ innerEntries payloadNames
  have inner : Holds _ payload.payloadMap :=
    holds_sortEntries payload.payloadMap (payload.payloadMap.map scalarEntry) payloadNames
      (by simp [scalarEntry, Entry.decoded, Function.comp_def])
  generalize ((sortEntries (payload.payloadMap.map scalarEntry)).map Entry.decoded) = members
    at innerTranscript inner
  generalize objectText (sortEntries (payload.payloadMap.map scalarEntry)) = payloadText
    at innerTranscript
  have outerEntries : List.Forall₂ Transcribed (envelopeMap env)
      ((headerMap env).map scalarEntry ++ [⟨ascii "payload", payloadText, .object members⟩]) := by
    rw [envelopeMap_eq env payload valid.carried]
    refine List.rel_append (transcribed_scalars _ headerUtf8 headerScalar) ?_
    exact .cons ⟨rfl, rfl, innerTranscript⟩ .nil
  have outerNames : ((envelopeMap env).map Prod.fst).Nodup := envelopeKeys_nodup
  refine ⟨_, _, members, transcript_object _ _ outerEntries outerNames, inner, ?_⟩
  refine holds_sortEntries _ _ (decodedMap_names env members ▸ envelopeKeys_nodup) ?_
  simp [decodedMap, scalarEntry, Entry.decoded, Function.comp_def]

/-- Every valid envelope has canonical bytes. -/
theorem canonicalBytes_total (env : Envelope) (passed : validate env = .ok ()) :
    ∃ bytes, canonicalBytes env = .ok bytes := by
  obtain ⟨payload, valid⟩ := validate_ok env passed
  obtain ⟨text, _, _, transcript, _, _⟩ := transcript_envelope env payload valid
  exact ⟨text, (check_then_ok _ _ _).mpr ⟨passed, transcript.written⟩⟩

/-- `Parse` reads back what `CanonicalBytes` writes. -/
theorem parse_canonicalBytes (env : Envelope) (bytes : Bytes)
    (canonical : canonicalBytes env = .ok bytes) : parse bytes = .ok env := by
  obtain ⟨passed, written⟩ := (check_then_ok _ _ _).mp canonical
  obtain ⟨payload, valid⟩ := validate_ok env passed
  obtain ⟨text, object, members, transcript, inner, outer⟩ :=
    transcript_envelope env payload valid
  obtain rfl : text = bytes := Except.ok.inj (transcript.written.symm.trans written)
  have compatible : ensureJCSCompatibleJSON text = .ok () := by
    have scan := transcript.clean [] (fun fuel => by cases fuel <;> rfl) (text.length + 1)
    rw [List.append_nil] at scan
    rw [ensureJCSCompatibleJSON, transcript.utf8, scan]
    rfl
  have decoded := transcript.reads (text.length + 1) [] (by omega) (by rintro byte ⟨⟩)
  rw [List.append_nil] at decoded
  have root : decodeStrict text = .ok (.object object) := by
    rw [decodeStrict, compatible, decoded]
    rfl
  rw [parse, root]
  simp only [bind, Except.bind, envelopeFromObject_ok env payload valid object members inner outer,
    passed]
  rfl

/-- Canonical bytes are never empty. -/
theorem canonicalBytes_ne_nil (env : Envelope) (bytes : Bytes)
    (canonical : canonicalBytes env = .ok bytes) : bytes ≠ [] := by
  rintro rfl
  have parsed := parse_canonicalBytes env [] canonical
  have refused : parse [] = .error (.malformed .json) := rfl
  rw [refused] at parsed
  cases parsed

/-- Canonical bytes tell valid envelopes apart. -/
theorem canonicalBytes_injective {first second : Envelope} {bytes : Bytes}
    (written : canonicalBytes first = .ok bytes) (rewritten : canonicalBytes second = .ok bytes) :
    first = second :=
  Except.ok.inj ((parse_canonicalBytes first bytes written).symm.trans
    (parse_canonicalBytes second bytes rewritten))

/-! ### The codec -/

/-- SHA-256 does not collide on the canonical bytes of two envelopes. -/
def Separated (first second : Envelope) : Prop :=
  ∀ bytes others, canonicalBytes first = .ok bytes → canonicalBytes second = .ok others →
    Sha256.sum256 bytes = Sha256.sum256 others → bytes = others

/-- The content hash of an envelope with canonical bytes is their digest. -/
theorem contentHash_of_canonical {env : Envelope} {bytes : Bytes}
    (written : canonicalBytes env = .ok bytes) : contentHash env = .ok (digest bytes) := by
  rw [contentHash_eq, written]
  rfl

/-- The codec: `Parse` inverts `CanonicalBytes` on every valid envelope; the canonical bytes of
whatever `Parse` accepts parse to the same envelope, which has no other canonical bytes;
so canonical bytes tell valid envelopes apart, and content hashes do as well unless
SHA-256 collides on them. -/
theorem codec_round_trip :
    (∀ env, validate env = .ok () →
      ∃ bytes, canonicalBytes env = .ok bytes ∧ parse bytes = .ok env) ∧
    (∀ raw env, parse raw = .ok env →
      ∃ bytes, canonicalBytes env = .ok bytes ∧ parse bytes = .ok env ∧
        (parse bytes >>= canonicalBytes) = .ok bytes) ∧
    (∀ first second, validate first = .ok () → validate second = .ok () →
      canonicalBytes first = canonicalBytes second → first = second) ∧
    (∀ first second, validate first = .ok () → validate second = .ok () →
      Separated first second → (contentHash first = contentHash second ↔ first = second)) := by
  have trip : ∀ env, validate env = .ok () →
      ∃ bytes, canonicalBytes env = .ok bytes ∧ parse bytes = .ok env := by
    intro env passed
    obtain ⟨bytes, written⟩ := canonicalBytes_total env passed
    exact ⟨bytes, written, parse_canonicalBytes env bytes written⟩
  refine ⟨trip, ?_, ?_, ?_⟩
  · intro raw env parsed
    obtain ⟨bytes, written, reread⟩ := trip env (parse_valid raw env parsed)
    refine ⟨bytes, written, reread, ?_⟩
    rw [reread]
    exact written
  · intro first second passed _ same
    obtain ⟨bytes, written, -⟩ := trip first passed
    exact canonicalBytes_injective written (same ▸ written)
  · intro first second passed otherPassed separated
    obtain ⟨bytes, written, -⟩ := trip first passed
    obtain ⟨others, otherWritten, -⟩ := trip second otherPassed
    refine ⟨fun same => ?_, fun same => by rw [same]⟩
    rw [contentHash_of_canonical written, contentHash_of_canonical otherWritten,
      Except.ok.injEq] at same
    have sameBytes := separated bytes others written otherWritten
      (Hex.encodeToString_injective same)
    exact canonicalBytes_injective written (sameBytes ▸ otherWritten)

end Event

end SeshatOps
