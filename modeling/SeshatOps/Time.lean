/-
This file models the timestamps of the event contract: `time.Parse(time.RFC3339Nano, v)`
on values that end in `Z`, and the strict pattern that `requireTimeZ` puts in front of it.

The two readers differ in what they let through. The pattern wants two digits for the
hour and a full stop before the fraction; `time.Parse` alone also takes an hour of one
digit and a comma. Both then check that the date is on the calendar.
-/

import SeshatOps.Json

namespace SeshatOps

namespace Time

/-! ### Reading the fields -/

/-- A date and a time of day. -/
structure Clock where
  year : Nat
  month : Nat
  day : Nat
  hour : Nat
  minute : Nat
  second : Nat
  nanosecond : Nat
  deriving DecidableEq, Repr

/-- Exactly `count` digits. -/
def readFixed (count : Nat) (bytes : Bytes) : Option (Nat × Bytes) :=
  let digits := bytes.take count
  if digits.length = count ∧ digits.all Json.isDigit then
    some (Json.decimal digits, bytes.drop count)
  else none

/-- One given byte. -/
def readByte (wanted : UInt8) : Bytes → Option Bytes
  | byte :: rest => if byte = wanted then some rest else none
  | [] => none

/-- The hour: two digits, or one where the reader is lenient. -/
def readHour (strict : Bool) (bytes : Bytes) : Option (Nat × Bytes) :=
  match readFixed 2 bytes with
  | some found => some found
  | none => if strict then none else readFixed 1 bytes

/-- The fraction of a second in nanoseconds, digits after the ninth dropped. -/
def nanoseconds (digits : Bytes) : Nat :=
  Json.decimal (digits.take 9) * 10 ^ (9 - (digits.take 9).length)

/-- A fraction, if there is one. A lenient reader also takes a comma. -/
def readFraction (strict : Bool) (bytes : Bytes) : Option (Nat × Bytes) :=
  match bytes with
  | mark :: rest =>
      if mark = 0x2E ∨ (mark = 0x2C ∧ !strict) then
        (Json.readDigits rest).map fun (digits, tail) => (nanoseconds digits, tail)
      else some (0, bytes)
  | [] => some (0, [])

/-- The fields of a value that ends in `Z`. -/
def readClock (strict : Bool) (bytes : Bytes) : Option Clock := do
  let (year, rest) ← readFixed 4 bytes
  let (month, rest) ← readFixed 2 (← readByte 0x2D rest)
  let (day, rest) ← readFixed 2 (← readByte 0x2D rest)
  let (hour, rest) ← readHour strict (← readByte 0x54 rest)
  let (minute, rest) ← readFixed 2 (← readByte 0x3A rest)
  let (second, rest) ← readFixed 2 (← readByte 0x3A rest)
  let (nanosecond, rest) ← readFraction strict rest
  if rest = [0x5A] then some ⟨year, month, day, hour, minute, second, nanosecond⟩ else none

/-! ### The calendar -/

def isLeap (year : Nat) : Bool := year % 4 == 0 && (year % 100 != 0 || year % 400 == 0)

/-- The days of a month. -/
def daysIn (month year : Nat) : Nat :=
  if month = 2 then if isLeap year then 29 else 28
  else if month = 4 ∨ month = 6 ∨ month = 9 ∨ month = 11 then 30
  else 31

/-- The range checks of `time.Parse`. -/
def Clock.inRange (clock : Clock) : Bool :=
  1 ≤ clock.month && clock.month ≤ 12 && 1 ≤ clock.day &&
    clock.day ≤ daysIn clock.month clock.year && clock.hour < 24 && clock.minute < 60 &&
    clock.second < 60

/-- Days since 1 January 1970. -/
def Clock.epochDays (clock : Clock) : Int :=
  let year : Int := if clock.month ≤ 2 then clock.year - 1 else clock.year
  let month : Int := if clock.month ≤ 2 then clock.month + 9 else clock.month - 3
  365 * year + year / 4 - year / 100 + year / 400 + (153 * month + 2) / 5 + clock.day - 719469

/-- The value of a `TIMESTAMPTZ` column: microseconds since 1 January 1970. -/
def Clock.microseconds (clock : Clock) : Int :=
  (((clock.epochDays * 24 + clock.hour) * 60 + clock.minute) * 60 + clock.second) * 1000000 +
    clock.nanosecond / 1000

/-! ### The two readers -/

/-- The pattern of `requireTimeZ` followed by `time.Parse`. -/
def matchesTimeZ (bytes : Bytes) : Bool :=
  match readClock true bytes with
  | some clock => clock.inRange
  | none => false

/-- `parseTimeZ` of the ERP: the instant of a value that `time.Parse` takes and that ends
in `Z`. -/
def parseTimeZ (bytes : Bytes) : Option Int :=
  if Utf8.validString bytes then
    match readClock false bytes with
    | some clock => if clock.inRange then some clock.microseconds else none
    | none => none
  else none

end Time

end SeshatOps
