/-
This file models the calendar that the forecasts count on: days without a time of day,
in the format `2006-01-02` and in UTC.

A `Date` carries the proof that it is on the calendar. The step to the next day is a
bijection, so `AddDate(0, 0, n)` is an action of the integers. Dates compare as their
texts do, by year, month and day, and the next day is always later. The reader takes the
years from 0 to 9999 only, so a day that is counted beyond them has a text that cannot be
read back.
-/

import Mathlib.Logic.Function.Iterate
import Mathlib.Order.Lattice
import SeshatOps.Time

namespace SeshatOps

namespace Calendar

/-! ### Days -/

def isLeap (year : Int) : Bool := year % 4 == 0 && (year % 100 != 0 || year % 400 == 0)

/-- The days of a month. -/
def daysIn (month : Nat) (year : Int) : Nat :=
  if month = 2 then if isLeap year then 29 else 28
  else if month = 4 ∨ month = 6 ∨ month = 9 ∨ month = 11 then 30
  else 31

theorem daysIn_ge (month : Nat) (year : Int) : 28 ≤ daysIn month year := by
  unfold daysIn
  split_ifs <;> omega

theorem daysIn_le (month : Nat) (year : Int) : daysIn month year ≤ 31 := by
  unfold daysIn
  split_ifs <;> omega

theorem daysIn_december (year : Int) : daysIn 12 year = 31 := rfl

/-- A day of the calendar, in any year. -/
structure Date where
  year : Int
  month : Nat
  day : Nat
  monthPos : 1 ≤ month
  monthLe : month ≤ 12
  dayPos : 1 ≤ day
  dayLe : day ≤ daysIn month year
  deriving DecidableEq

namespace Date

def next (date : Date) : Date :=
  if inside : date.day < daysIn date.month date.year then
    ⟨date.year, date.month, date.day + 1, date.monthPos, date.monthLe, by omega, inside⟩
  else if early : date.month < 12 then
    ⟨date.year, date.month + 1, 1, by omega, early, le_refl 1,
      le_trans (by omega) (daysIn_ge _ _)⟩
  else
    ⟨date.year + 1, 1, 1, le_refl 1, by omega, le_refl 1, le_trans (by omega) (daysIn_ge _ _)⟩

def prev (date : Date) : Date :=
  if inside : 1 < date.day then
    ⟨date.year, date.month, date.day - 1, date.monthPos, date.monthLe, by omega,
      le_trans (Nat.sub_le _ _) date.dayLe⟩
  else if late : 1 < date.month then
    ⟨date.year, date.month - 1, daysIn (date.month - 1) date.year, by omega,
      le_trans (Nat.sub_le _ _) date.monthLe, le_trans (by omega) (daysIn_ge _ _), le_refl _⟩
  else
    ⟨date.year - 1, 12, 31, by omega, le_refl _, by omega, (daysIn_december _).ge⟩

theorem prev_next (date : Date) : date.next.prev = date := by
  obtain ⟨year, month, day, monthPos, monthLe, dayPos, dayLe⟩ := date
  unfold next
  split_ifs with inside early
  · simp only [prev]
    rw [dif_pos (by omega)]
    simp
  · simp only [prev] at inside ⊢
    rw [dif_neg (by omega), dif_pos (by omega)]
    simp only [Date.mk.injEq, Nat.add_sub_cancel, true_and]
    exact le_antisymm (not_lt.mp inside) dayLe
  · simp only [prev] at inside early ⊢
    rw [dif_neg (by omega), dif_neg (by omega)]
    obtain rfl : month = 12 := by omega
    have december := daysIn_december year
    simp only [Date.mk.injEq]
    exact ⟨by omega, trivial, by omega⟩

theorem next_prev (date : Date) : date.prev.next = date := by
  obtain ⟨year, month, day, monthPos, monthLe, dayPos, dayLe⟩ := date
  unfold prev
  split_ifs with inside late
  · simp only [next] at inside ⊢
    rw [dif_pos (by omega)]
    simp only [Date.mk.injEq, true_and]
    omega
  · simp only [next] at inside late ⊢
    rw [dif_neg (by omega), dif_pos (by omega)]
    simp only [Date.mk.injEq, true_and]
    omega
  · simp only [next] at inside late ⊢
    have december := daysIn_december (year - 1)
    rw [dif_neg (by omega), dif_neg (by omega)]
    simp only [Date.mk.injEq]
    omega

/-- `AddDate(0, 0, days)`. -/
def plus (date : Date) : Int → Date
  | .ofNat count => next^[count] date
  | .negSucc count => prev^[count + 1] date

@[simp] theorem plus_zero (date : Date) : date.plus 0 = date := rfl

theorem plus_succ (date : Date) (days : Int) : date.plus (days + 1) = (date.plus days).next := by
  cases days with
  | ofNat count => exact Function.iterate_succ_apply' next count date
  | negSucc count =>
    have back : (Int.negSucc count + 1) = -(count : Int) := by omega
    have whole : date.plus (.negSucc count) = (prev^[count] date).prev :=
      Function.iterate_succ_apply' prev count date
    rw [back, whole, next_prev]
    cases count with
    | zero => rfl
    | succ less => rfl

theorem plus_pred (date : Date) (days : Int) : date.plus (days - 1) = (date.plus days).prev := by
  have step := plus_succ date (days - 1)
  rw [Int.sub_add_cancel] at step
  rw [step, prev_next]

/-- Days add up. -/
theorem plus_plus (date : Date) (first second : Int) :
    (date.plus first).plus second = date.plus (first + second) := by
  induction second with
  | zero => rw [plus_zero, Int.add_zero]
  | succ count hypothesis => rw [plus_succ, hypothesis, ← Int.add_assoc, plus_succ]
  | pred count hypothesis =>
    rw [plus_pred, hypothesis, ← plus_pred]
    congr 1
    omega

/-! ### Order -/

/-- Year, month and day in one number, which orders dates as their texts are ordered. -/
def code (date : Date) : Int := date.year * 512 + date.month * 32 + date.day

theorem code_injective : Function.Injective code := by
  intro first second same
  obtain ⟨year, month, day, monthPos, monthLe, dayPos, dayLe⟩ := first
  obtain ⟨year', month', day', monthPos', monthLe', dayPos', dayLe'⟩ := second
  have short := daysIn_le month year
  have short' := daysIn_le month' year'
  simp only [code] at same
  simp only [Date.mk.injEq]
  omega

instance : LinearOrder Date := LinearOrder.lift' code code_injective

theorem lt_iff (first second : Date) : first < second ↔ first.code < second.code := Iff.rfl

theorem lt_next (date : Date) : date < date.next := by
  obtain ⟨year, month, day, monthPos, monthLe, dayPos, dayLe⟩ := date
  have short := daysIn_le month year
  rw [lt_iff]
  unfold next
  split_ifs with inside early
  · simp only [code]
    omega
  · simp only [code]
    omega
  · simp only [code] at early ⊢
    omega

theorem plus_lt_plus (date : Date) {first second : Int} (less : first < second) :
    date.plus first < date.plus second := by
  obtain ⟨gap, rfl⟩ : ∃ gap : Nat, second = first + 1 + gap :=
    ⟨(second - first - 1).toNat, by omega⟩
  clear less
  induction gap with
  | zero =>
    rw [Int.natCast_zero, Int.add_zero, plus_succ]
    exact lt_next _
  | succ gap hypothesis =>
    rw [Int.natCast_succ, ← Int.add_assoc, plus_succ]
    exact lt_trans hypothesis (lt_next _)

theorem plus_injective (date : Date) : Function.Injective date.plus := by
  intro first second same
  by_contra differ
  rcases lt_or_gt_of_ne differ with less | more
  · exact absurd same (plus_lt_plus date less).ne
  · exact absurd same (plus_lt_plus date more).ne'

/-! ### Counting days -/

/-- Days since 1 January 1970. -/
def ordinal (date : Date) : Int :=
  let year : Int := if date.month ≤ 2 then date.year - 1 else date.year
  let month : Int := if date.month ≤ 2 then date.month + 9 else date.month - 3
  365 * year + year / 4 - year / 100 + year / 400 + (153 * month + 2) / 5 + date.day - 719469

theorem ordinal_next (date : Date) : date.next.ordinal = date.ordinal + 1 := by
  obtain ⟨year, month, day, monthPos, monthLe, dayPos, dayLe⟩ := date
  unfold next
  split_ifs with inside early
  · simp only [ordinal, Int.natCast_add, Int.natCast_one]
    omega
  · -- The last day of a month before December.
    simp only [ordinal] at inside early ⊢
    have last : day = daysIn month year := le_antisymm dayLe (not_lt.mp inside)
    subst last
    unfold daysIn isLeap
    interval_cases month <;> simp <;> (try split_ifs) <;> omega
  · simp only [ordinal] at inside early ⊢
    obtain rfl : month = 12 := by omega
    have december := daysIn_december year
    simp
    omega

theorem ordinal_plus (date : Date) (days : Int) :
    (date.plus days).ordinal = date.ordinal + days := by
  induction days with
  | zero => rw [plus_zero, Int.add_zero]
  | succ count hypothesis =>
    rw [plus_succ, ordinal_next, hypothesis, Int.add_assoc]
  | pred count hypothesis =>
    have step := ordinal_next (date.plus (-(count : Int) - 1))
    rw [plus_pred, next_prev] at step
    rw [plus_pred]
    omega

/-! ### Texts -/

/-- A number with leading zeros. -/
def padded (width : Nat) (value : Nat) : Bytes :=
  let digits := Json.formatInt value
  List.replicate (width - digits.length) 0x30 ++ digits

/-- `Format("2006-01-02")`. -/
def format (date : Date) : Bytes :=
  (if date.year < 0 then [0x2D] else []) ++ padded 4 date.year.natAbs ++ [0x2D] ++
    padded 2 date.month ++ [0x2D] ++ padded 2 date.day

/-- The date of a year, a month and a day, if there is one. -/
def of? (year : Int) (month day : Nat) : Option Date :=
  if fits : 1 ≤ month ∧ month ≤ 12 ∧ 1 ≤ day ∧ day ≤ daysIn month year then
    some ⟨year, month, day, fits.1, fits.2.1, fits.2.2.1, fits.2.2.2⟩
  else none

/-- The texts of these dates can be read back. -/
def readable (date : Date) : Bool := 0 ≤ date.year && date.year ≤ 9999

end Date

/-- `time.ParseInLocation("2006-01-02", text, time.UTC)`. -/
def readDate (text : Bytes) : Option Date := do
  let (year, rest) ← Time.readFixed 4 text
  let (month, rest) ← Time.readFixed 2 (← Time.readByte 0x2D rest)
  let (day, rest) ← Time.readFixed 2 (← Time.readByte 0x2D rest)
  if rest.isEmpty then Date.of? year month day else none

/-- `parseDate`, which also checks that the text is the date's own. -/
def parseDate (text : Bytes) : Option Date :=
  (readDate text).filter fun date => date.format = text

end Calendar

end SeshatOps
