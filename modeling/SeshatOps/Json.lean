/-
This file models the lexical level of `encoding/json` and its lenient decoder.

The readers of strings, numbers and literals are the grammar of RFC 8259 as the
scanner of `encoding/json` reads it. They are shared by the strict decoder of the
event contract, which lives beside `Parse`, and by `Value.read`, the full value
reader behind `json.Unmarshal`. A reader returns what it read and the bytes after it.
Readers that loop take a fuel that the length of the input always covers.
-/

import Mathlib.Data.Nat.Digits.Lemmas
import SeshatOps.Strings

namespace SeshatOps

namespace Json

/-! ### Bytes and white space -/

def quote : UInt8 := 0x22
def backslash : UInt8 := 0x5C
def comma : UInt8 := 0x2C
def colon : UInt8 := 0x3A
def openBrace : UInt8 := 0x7B
def closeBrace : UInt8 := 0x7D
def openBracket : UInt8 := 0x5B
def closeBracket : UInt8 := 0x5D

/-- White space between tokens. -/
def isSpace (byte : UInt8) : Bool :=
  byte == 0x20 || byte == 0x09 || byte == 0x0A || byte == 0x0D

def skipSpace (bytes : Bytes) : Bytes := bytes.dropWhile isSpace

/-! ### Strings -/

/-- The value of a hexadecimal digit of either case. -/
def hexDigit (byte : UInt8) : Option Nat :=
  if 0x30 ≤ byte ∧ byte ≤ 0x39 then some (byte.toNat - 0x30)
  else if 0x61 ≤ byte ∧ byte ≤ 0x66 then some (byte.toNat - 0x57)
  else if 0x41 ≤ byte ∧ byte ≤ 0x46 then some (byte.toNat - 0x37)
  else none

/-- The UTF-16 unit of four hexadecimal digits. -/
def hexUnit : Bytes → Option (Nat × Bytes)
  | first :: second :: third :: fourth :: rest =>
      match hexDigit first, hexDigit second, hexDigit third, hexDigit fourth with
      | some a, some b, some c, some d => some (((a * 16 + b) * 16 + c) * 16 + d, rest)
      | _, _, _, _ => none
  | _ => none

def isHighSurrogate (unit : Nat) : Bool := 0xD800 ≤ unit && unit ≤ 0xDBFF
def isLowSurrogate (unit : Nat) : Bool := 0xDC00 ≤ unit && unit ≤ 0xDFFF

/-- The rune of a `\u` escape, given the bytes after the `u`. A surrogate takes the low half
that follows it as an escape of its own; a lone one becomes U+FFFD. -/
def unicodeEscape (bytes : Bytes) : Option (Nat × Bytes) :=
  match hexUnit bytes with
  | none => none
  | some (unit, rest) =>
      if isHighSurrogate unit then
        match rest with
        | 0x5C :: 0x75 :: after =>
            match hexUnit after with
            | some (low, tail) =>
                if isLowSurrogate low then
                  some (0x10000 + (unit - 0xD800) * 0x400 + (low - 0xDC00), tail)
                else some (Utf8.runeError, rest)
            | none => some (Utf8.runeError, rest)
        | _ => some (Utf8.runeError, rest)
      else if isLowSurrogate unit then some (Utf8.runeError, rest)
      else some (unit, rest)

/-- The byte a two-character escape stands for. -/
def shortEscape (byte : UInt8) : Option UInt8 :=
  if byte = 0x22 ∨ byte = 0x5C ∨ byte = 0x2F then some byte
  else if byte = 0x62 then some 0x08
  else if byte = 0x66 then some 0x0C
  else if byte = 0x6E then some 0x0A
  else if byte = 0x72 then some 0x0D
  else if byte = 0x74 then some 0x09
  else none

/-- The content of a string after its opening quote, with the escapes replaced. -/
def stringBody : Nat → Bytes → Option (Bytes × Bytes)
  | 0, _ => none
  | _ + 1, [] => none
  | fuel + 1, byte :: rest =>
      if byte = quote then some ([], rest)
      else if byte = backslash then
        match rest with
        | [] => none
        | escape :: after =>
            if escape = 0x75 then
              match unicodeEscape after with
              | none => none
              | some (rune, tail) =>
                  (stringBody fuel tail).map fun (content, last) =>
                    (Utf8.encodeRune rune ++ content, last)
            else
              match shortEscape escape with
              | none => none
              | some meant => (stringBody fuel after).map fun (content, last) =>
                  (meant :: content, last)
      else if byte < 0x20 then none
      else (stringBody fuel rest).map fun (content, last) => (byte :: content, last)

/-- A string after its opening quote. Bytes that are not UTF-8 become U+FFFD. -/
def readString (bytes : Bytes) : Option (Bytes × Bytes) :=
  (stringBody (bytes.length + 1) bytes).map fun (content, rest) => (Utf8.toValid content, rest)

/-! ### Numbers and literals -/

def isDigit (byte : UInt8) : Bool := 0x30 ≤ byte && byte ≤ 0x39

/-- One digit or more. -/
def readDigits (bytes : Bytes) : Option (Bytes × Bytes) :=
  match bytes.span isDigit with
  | ([], _) => none
  | (digits, rest) => some (digits, rest)

/-- The integer part of a number: `0`, or digits that do not start with it. -/
def readInteger : Bytes → Option (Bytes × Bytes)
  | 0x30 :: rest => some ([0x30], rest)
  | bytes => readDigits bytes

/-- A fraction, if there is one. -/
def readFraction : Bytes → Option (Bytes × Bytes)
  | 0x2E :: rest => (readDigits rest).map fun (digits, tail) => (0x2E :: digits, tail)
  | bytes => some ([], bytes)

/-- An exponent, if there is one. -/
def readExponent : Bytes → Option (Bytes × Bytes)
  | mark :: rest =>
      if mark = 0x65 ∨ mark = 0x45 then
        match rest with
        | sign :: after =>
            if sign = 0x2B ∨ sign = 0x2D then
              (readDigits after).map fun (digits, tail) => (mark :: sign :: digits, tail)
            else (readDigits rest).map fun (digits, tail) => (mark :: digits, tail)
        | [] => none
      else some ([], mark :: rest)
  | [] => some ([], [])

/-- A minus sign, if there is one. -/
def readSign : Bytes → Bytes × Bytes
  | 0x2D :: rest => ([0x2D], rest)
  | bytes => ([], bytes)

/-- The text of a number and the bytes after it. -/
def readNumber (bytes : Bytes) : Option (Bytes × Bytes) :=
  match readInteger (readSign bytes).2 with
  | none => none
  | some (whole, afterWhole) =>
      match readFraction afterWhole with
      | none => none
      | some (fraction, afterFraction) =>
          (readExponent afterFraction).map fun (exponent, rest) =>
            ((readSign bytes).1 ++ whole ++ fraction ++ exponent, rest)

/-- A literal name, if the input starts with it. -/
def readLiteral (name : Bytes) (bytes : Bytes) : Option Bytes :=
  if name.isPrefixOf bytes then some (bytes.drop name.length) else none

/-- The value of decimal digits. -/
def decimal (digits : Bytes) : Nat :=
  digits.foldl (fun value digit => value * 10 + (digit.toNat - 0x30)) 0

/-- `strconv.FormatInt(v, 10)`. -/
def formatInt (value : Int) : Bytes :=
  let digits : Bytes :=
    if value = 0 then [0x30]
    else (Nat.digits 10 value.natAbs).reverse.map fun digit => UInt8.ofNat (0x30 + digit)
  if value < 0 then 0x2D :: digits else digits

/-- `strconv.ParseInt(s, 10, 64)` on the text of a number. -/
def parseInt64 (text : Bytes) : Option Int :=
  let digits := (readSign text).2
  if digits.isEmpty || !digits.all isDigit then none
  else
    let value : Int :=
      if (readSign text).1.isEmpty then decimal digits else -(decimal digits : Int)
    if -(2 ^ 63 : Int) ≤ value ∧ value < 2 ^ 63 then some value else none

/-! ### The lenient reader behind `json.Unmarshal` -/

/-- A JSON value. Numbers keep their text. -/
inductive Value
  | null
  | bool (value : Bool)
  | number (text : Bytes)
  | string (content : Bytes)
  | array (items : List Value)
  | object (members : List (Bytes × Value))

/-- The nesting at which the scanner gives up. -/
def maxNestingDepth : Nat := 10000

mutual

/-- One value inside `depth` open containers. -/
def readValue : Nat → Nat → Bytes → Option (Value × Bytes)
  | 0, _, _ => none
  | fuel + 1, depth, bytes =>
      match skipSpace bytes with
      | [] => none
      | byte :: rest =>
          if byte = openBrace then
            if depth < maxNestingDepth then readMembers fuel (depth + 1) true [] rest else none
          else if byte = openBracket then
            if depth < maxNestingDepth then readItems fuel (depth + 1) true [] rest else none
          else if byte = quote then
            (readString rest).map fun (content, tail) => (.string content, tail)
          else if byte = 0x74 then
            (readLiteral (ascii "rue") rest).map fun tail => (.bool true, tail)
          else if byte = 0x66 then
            (readLiteral (ascii "alse") rest).map fun tail => (.bool false, tail)
          else if byte = 0x6E then
            (readLiteral (ascii "ull") rest).map fun tail => (.null, tail)
          else (readNumber (byte :: rest)).map fun (text, tail) => (.number text, tail)

/-- The members of an object after its brace, or after the members read so far. -/
def readMembers : Nat → Nat → Bool → List (Bytes × Value) → Bytes → Option (Value × Bytes)
  | 0, _, _, _, _ => none
  | fuel + 1, depth, first, seen, bytes =>
      match skipSpace bytes with
      | [] => none
      | byte :: rest =>
          if byte = closeBrace then some (.object seen.reverse, rest)
          else if byte = comma ∧ !first then
            match skipSpace rest with
            | 0x22 :: opened => readMember fuel depth seen opened
            | _ => none
          else if byte = quote ∧ first then readMember fuel depth seen rest
          else none

/-- One member after the opening quote of its name. -/
def readMember : Nat → Nat → List (Bytes × Value) → Bytes → Option (Value × Bytes)
  | 0, _, _, _ => none
  | fuel + 1, depth, seen, bytes =>
      match readString bytes with
      | none => none
      | some (name, afterName) =>
          match skipSpace afterName with
          | 0x3A :: afterColon =>
              match readValue fuel depth afterColon with
              | none => none
              | some (value, rest) => readMembers fuel depth false ((name, value) :: seen) rest
          | _ => none

/-- The items of an array after its bracket, or after the items read so far. -/
def readItems : Nat → Nat → Bool → List Value → Bytes → Option (Value × Bytes)
  | 0, _, _, _, _ => none
  | fuel + 1, depth, first, seen, bytes =>
      match skipSpace bytes with
      | [] => none
      | byte :: rest =>
          if byte = closeBracket then some (.array seen.reverse, rest)
          else if first then
            match readValue fuel depth (byte :: rest) with
            | none => none
            | some (value, tail) => readItems fuel depth false (value :: seen) tail
          else if byte = comma then
            match readValue fuel depth rest with
            | none => none
            | some (value, tail) => readItems fuel depth false (value :: seen) tail
          else none

end

/-- A whole text that is one value with white space around it. -/
def Value.read (bytes : Bytes) : Option Value :=
  match readValue (3 * bytes.length + 3) 0 bytes with
  | some (value, rest) => if (skipSpace rest).isEmpty then some value else none
  | none => none

end Json

end SeshatOps
