/-
This file relates days and their texts. `parseDate` takes exactly the texts that `Format`
writes for the years from 0 to 9999, and such texts are ordered as their days are, so the
forecasts may sort and compare texts.

A number of fixed width is a row of digits; its text determines it, and texts of one width
compare as the numbers do.
-/

import SeshatOps.Calendar
import SeshatOps.Checksum
import SeshatOps.RoundTrip

namespace SeshatOps

open Event

/-! ### Digits -/

theorem Json.decimal_append (front back : Bytes) :
    Json.decimal (front ++ back) = Json.decimal front * 10 ^ back.length + Json.decimal back := by
  induction back using List.reverseRecOn with
  | nil => simp [Json.decimal]
  | append_singleton back digit hypothesis =>
    have last : ∀ digits : Bytes, Json.decimal (digits ++ [digit]) =
        Json.decimal digits * 10 + (digit.toNat - 0x30) := fun digits => by
      rw [Json.decimal, List.foldl_append]
      rfl
    rw [← List.append_assoc, last, last, hypothesis, List.length_append,
      List.length_singleton, pow_succ]
    ring

theorem Json.decimal_cons (digit : UInt8) (rest : Bytes) :
    Json.decimal (digit :: rest) =
      (digit.toNat - 0x30) * 10 ^ rest.length + Json.decimal rest := by
  have split := Json.decimal_append [digit] rest
  simpa [Json.decimal] using split

theorem Json.isDigit_iff (byte : UInt8) :
    Json.isDigit byte = true ↔ 0x30 ≤ byte.toNat ∧ byte.toNat ≤ 0x39 := by
  simp only [Json.isDigit, Bool.and_eq_true, decide_eq_true_eq, UInt8.le_iff_toNat_le]
  rfl

theorem Json.decimal_lt {digits : Bytes} (all : ∀ byte ∈ digits, Json.isDigit byte = true) :
    Json.decimal digits < 10 ^ digits.length := by
  induction digits with
  | nil => simp [Json.decimal]
  | cons digit rest hypothesis =>
    have small := (Json.isDigit_iff digit).mp (all digit (List.mem_cons_self ..))
    have below := hypothesis fun byte member => all byte (List.mem_cons_of_mem _ member)
    have head : (digit.toNat - 0x30) * 10 ^ rest.length ≤ 9 * 10 ^ rest.length :=
      Nat.mul_le_mul_right _ (by omega)
    rw [Json.decimal_cons, List.length_cons, pow_succ]
    omega

/-- Digits of one width compare as their numbers. -/
theorem Json.digits_lt_iff {first second : Bytes} (same : first.length = second.length)
    (firstDigits : ∀ byte ∈ first, Json.isDigit byte = true)
    (secondDigits : ∀ byte ∈ second, Json.isDigit byte = true) :
    first.map UInt8.toNat < second.map UInt8.toNat ↔
      Json.decimal first < Json.decimal second := by
  induction first generalizing second with
  | nil =>
    rw [List.length_nil] at same
    rw [List.length_eq_zero_iff.mp same.symm]
    simp
  | cons digit rest hypothesis =>
    cases second with
    | nil => cases same
    | cons other others =>
      have width : rest.length = others.length := Nat.succ.inj same
      have restDigits : ∀ byte ∈ rest, Json.isDigit byte = true :=
        fun byte member => firstDigits byte (List.mem_cons_of_mem _ member)
      have othersDigits : ∀ byte ∈ others, Json.isDigit byte = true :=
        fun byte member => secondDigits byte (List.mem_cons_of_mem _ member)
      have low := (Json.isDigit_iff digit).mp (firstDigits digit (List.mem_cons_self ..))
      have high := (Json.isDigit_iff other).mp (secondDigits other (List.mem_cons_self ..))
      have restBelow := Json.decimal_lt restDigits
      have othersBelow := Json.decimal_lt othersDigits
      rw [List.map_cons, List.map_cons, List.cons_lt_cons_iff,
        hypothesis width restDigits othersDigits, Json.decimal_cons, Json.decimal_cons,
        width]
      rw [width] at restBelow
      generalize 10 ^ others.length = scale at restBelow othersBelow ⊢
      obtain ⟨high', highEq⟩ : ∃ value, other.toNat - 0x30 = value := ⟨_, rfl⟩
      obtain ⟨low', lowEq⟩ : ∃ value, digit.toNat - 0x30 = value := ⟨_, rfl⟩
      rw [highEq, lowEq]
      rcases lt_trichotomy low' high' with less | tied | more
      · have gap : (low' + 1) * scale ≤ high' * scale := Nat.mul_le_mul_right _ less
        rw [Nat.succ_mul] at gap
        exact ⟨fun _ => by omega, fun _ => Or.inl (by omega)⟩
      · subst tied
        constructor
        · rintro (head | ⟨-, tail⟩)
          · omega
          · omega
        · exact fun below => Or.inr ⟨by omega, by omega⟩
      · have gap : (high' + 1) * scale ≤ low' * scale := Nat.mul_le_mul_right _ more
        rw [Nat.succ_mul] at gap
        constructor
        · rintro (head | ⟨tied, -⟩)
          · omega
          · omega
        · exact fun below => by omega

theorem Time.readFixed_lt {count value : Nat} {bytes rest : Bytes}
    (read : Time.readFixed count bytes = some (value, rest)) : value < 10 ^ count := by
  unfold Time.readFixed at read
  simp only [Option.ite_none_right_eq_some, Option.some.injEq, Prod.mk.injEq] at read
  obtain ⟨⟨length, digits⟩, number, -⟩ := read
  have below := Json.decimal_lt (List.all_eq_true.mp digits)
  rwa [length, number] at below

namespace Calendar

namespace Date

/-! ### Numbers of a fixed width -/

section Padded

variable {width value : Nat}

theorem length_padded (wide : 0 < width) (small : value < 10 ^ width) :
    (padded width value).length = width := by
  have short : (Json.formatInt value).length ≤ width := by
    rw [formatInt_natCast]
    split_ifs with zero
    · exact wide
    · rw [decimalDigits, List.length_map, List.length_reverse]
      exact (Nat.digits_length_le_iff (by decide) value).mpr small
  rw [padded, List.length_append, List.length_replicate]
  omega

theorem isDigit_padded (width value : Nat) :
    ∀ byte ∈ padded width value, Json.isDigit byte = true := by
  intro byte member
  rcases List.mem_append.mp member with zero | digit
  · rw [List.eq_of_mem_replicate zero]
    rfl
  · exact formatInt_plain value byte digit

theorem decimal_padded (width value : Nat) : Json.decimal (padded width value) = value := by
  have zeros : ∀ count : Nat, Json.decimal (List.replicate count 0x30) = 0 := by
    intro count
    induction count with
    | zero => rfl
    | succ count hypothesis =>
      rw [List.replicate_succ, Json.decimal_cons, hypothesis]
      simp
  rw [padded, Json.decimal_append, zeros, Nat.zero_mul, Nat.zero_add, decimal_formatInt]

theorem readFixed_padded (wide : 0 < width) (small : value < 10 ^ width) (rest : Bytes) :
    Time.readFixed width (padded width value ++ rest) = some (value, rest) := by
  have length := length_padded wide small
  have digits : (padded width value ++ rest).take width = padded width value := by
    rw [List.take_left' length]
  have after : (padded width value ++ rest).drop width = rest := List.drop_left' length
  rw [Time.readFixed, digits, after, decimal_padded]
  exact if_pos ⟨length, List.all_eq_true.mpr (isDigit_padded width value)⟩

theorem padded_lt_iff {other : Nat} (wide : 0 < width) (small : value < 10 ^ width)
    (otherSmall : other < 10 ^ width) :
    (padded width value).map UInt8.toNat < (padded width other).map UInt8.toNat ↔
      value < other := by
  rw [Json.digits_lt_iff ((length_padded wide small).trans (length_padded wide otherSmall).symm)
    (isDigit_padded width value) (isDigit_padded width other), decimal_padded, decimal_padded]

theorem padded_injective {other : Nat} (same : padded width value = padded width other) :
    value = other := by
  rw [← decimal_padded width value, same, decimal_padded]

end Padded

/-! ### The text of a day -/

section Format

variable {date : Date}

theorem readable_iff (date : Date) : date.readable = true ↔ 0 ≤ date.year ∧ date.year ≤ 9999 := by
  simp [readable]

theorem month_lt (date : Date) : date.month < 10 ^ 2 :=
  lt_of_le_of_lt date.monthLe (by decide)

theorem day_lt (date : Date) : date.day < 10 ^ 2 :=
  lt_of_le_of_lt (date.dayLe.trans (daysIn_le _ _)) (by decide)

theorem year_lt (readable : date.readable = true) : date.year.natAbs < 10 ^ 4 := by
  have range := (readable_iff date).mp readable
  omega

theorem format_eq (readable : date.readable = true) :
    date.format = padded 4 date.year.natAbs ++ 0x2D :: (padded 2 date.month ++
      0x2D :: padded 2 date.day) := by
  have positive : ¬date.year < 0 := not_lt.mpr ((readable_iff date).mp readable).1
  rw [format, if_neg positive]
  simp only [List.nil_append, List.append_assoc, List.cons_append]

theorem of?_self (date : Date) : of? date.year date.month date.day = some date :=
  dif_pos ⟨date.monthPos, date.monthLe, date.dayPos, date.dayLe⟩

theorem of?_eq_some {year : Int} {month day : Nat} (found : of? year month day = some date) :
    date.year = year ∧ date.month = month ∧ date.day = day := by
  unfold of? at found
  split_ifs at found
  rw [← Option.some.inj found]
  exact ⟨rfl, rfl, rfl⟩

theorem readDate_format (readable : date.readable = true) :
    readDate date.format = some date := by
  have year : ((date.year.natAbs : Nat) : Int) = date.year :=
    Int.natAbs_of_nonneg ((readable_iff date).mp readable).1
  have day := readFixed_padded (by decide) (day_lt date) []
  rw [List.append_nil] at day
  rw [readDate, format_eq readable, readFixed_padded (by decide) (year_lt readable)]
  simp only [Option.bind_eq_bind, Option.bind_some, Time.readByte, if_true,
    readFixed_padded (by decide) (month_lt date), day, List.isEmpty_nil, year, of?_self]

end Format

end Date

theorem readable_of_readDate {text : Bytes} {date : Date} (read : readDate text = some date) :
    date.readable = true := by
  unfold readDate at read
  simp only [Option.bind_eq_bind, Option.bind_eq_some_iff, Option.ite_none_right_eq_some] at read
  obtain ⟨⟨year, rest⟩, digits, afterYear, dash, ⟨month, monthRest⟩, monthRead, afterMonth, dash',
    ⟨day, dayRest⟩, dayRead, ended, found⟩ := read
  have small : year < 10 ^ 4 := Time.readFixed_lt digits
  have same := (Date.of?_eq_some found).1
  rw [Date.readable_iff]
  omega

/-- The texts that `parseDate` takes are those that are written for the years it reads. -/
theorem parseDate_eq_some_iff {text : Bytes} {date : Date} :
    parseDate text = some date ↔ date.readable = true ∧ date.format = text := by
  rw [parseDate, Option.filter_eq_some_iff, decide_eq_true_eq]
  constructor
  · rintro ⟨read, own⟩
    exact ⟨readable_of_readDate read, own⟩
  · rintro ⟨readable, rfl⟩
    exact ⟨Date.readDate_format readable, rfl⟩

theorem parseDate_format {date : Date} (readable : date.readable = true) :
    parseDate date.format = some date := parseDate_eq_some_iff.mpr ⟨readable, rfl⟩

theorem format_injective {first second : Date} (firstReadable : first.readable = true)
    (secondReadable : second.readable = true) (same : first.format = second.format) :
    first = second := by
  have read := parseDate_format firstReadable
  rw [same, parseDate_format secondReadable] at read
  exact (Option.some.inj read).symm

/-- The text of a year that is not read is longer or starts with a sign. -/
theorem readable_of_format {first second : Date} (same : first.format = second.format)
    (readable : first.readable = true) : second.readable = true := by
  have form := Date.format_eq readable
  have width := Date.length_padded (by decide) (Date.year_lt readable)
  rw [same] at form
  rw [Date.readable_iff]
  by_contra outside
  by_cases negative : second.year < 0
  · -- A sign stands where the year has a digit.
    have head := congrArg (fun text => text.head?) form
    simp only [Date.format, if_pos negative, List.append_assoc, List.singleton_append] at head
    cases year : Date.padded 4 first.year.natAbs with
    | nil =>
      rw [year] at width
      cases width
    | cons digit rest =>
      simp only [year, List.cons_append, List.head?_cons, Option.some.injEq] at head
      have isDigit := Date.isDigit_padded 4 first.year.natAbs digit (by simp [year])
      rw [← head] at isDigit
      exact absurd isDigit (by decide)
  · -- Five digits and more make the text longer.
    have large : 10 ^ 4 ≤ second.year.natAbs := by omega
    have long : 4 < (Date.padded 4 second.year.natAbs).length := by
      by_contra short
      have below := Json.decimal_lt (Date.isDigit_padded 4 second.year.natAbs)
      rw [Date.decimal_padded] at below
      have bound : 10 ^ (Date.padded 4 second.year.natAbs).length ≤ 10 ^ 4 :=
        Nat.pow_le_pow_right (by decide) (not_lt.mp short)
      omega
    have lengths := congrArg List.length form
    simp only [Date.format, if_neg negative, List.nil_append, List.length_append,
      List.length_cons, List.length_nil, width,
      Date.length_padded (by decide) (Date.month_lt first),
      Date.length_padded (by decide) (Date.day_lt first),
      Date.length_padded (by decide) (Date.month_lt second),
      Date.length_padded (by decide) (Date.day_lt second)] at lengths
    omega

/-- Pieces of one width are compared before what follows them. -/
theorem append_lt_append_iff {first second : List Nat} (same : first.length = second.length)
    (rest others : List Nat) :
    first ++ rest < second ++ others ↔ first < second ∨ first = second ∧ rest < others := by
  induction first generalizing second with
  | nil =>
    rw [List.length_nil] at same
    rw [List.length_eq_zero_iff.mp same.symm]
    simp
  | cons head tail hypothesis =>
    cases second with
    | nil => cases same
    | cons other tails =>
      rw [List.cons_append, List.cons_append, List.cons_lt_cons_iff, List.cons_lt_cons_iff,
        hypothesis (Nat.succ.inj same), List.cons.injEq]
      tauto

/-- The texts of days are ordered as the days. -/
theorem format_less_iff {first second : Date} (firstReadable : first.readable = true)
    (secondReadable : second.readable = true) :
    Strings.less first.format second.format = true ↔ first < second := by
  have years := Date.padded_lt_iff (by decide) (Date.year_lt firstReadable)
    (Date.year_lt secondReadable)
  have months := Date.padded_lt_iff (by decide) (Date.month_lt first) (Date.month_lt second)
  have days := Date.padded_lt_iff (by decide) (Date.day_lt first) (Date.day_lt second)
  have lengths : ∀ {width value other : Nat}, 0 < width → value < 10 ^ width →
      other < 10 ^ width → ((Date.padded width value).map UInt8.toNat).length =
        ((Date.padded width other).map UInt8.toNat).length := by
    intro width value other wide small otherSmall
    rw [List.length_map, List.length_map, Date.length_padded wide small,
      Date.length_padded wide otherSmall]
  have same : ∀ {width value other : Nat}, (Date.padded width value).map UInt8.toNat =
      (Date.padded width other).map UInt8.toNat ↔ value = other := by
    intro width value other
    refine ⟨fun equal => ?_, fun equal => by rw [equal]⟩
    have texts : Date.padded width value = Date.padded width other :=
      List.map_injective_iff.mpr (fun _ _ => UInt8.toNat_inj.mp) equal
    exact Date.padded_injective texts
  have firstRange := (Date.readable_iff first).mp firstReadable
  have secondRange := (Date.readable_iff second).mp secondReadable
  have firstDay := first.dayLe.trans (daysIn_le _ _)
  have secondDay := second.dayLe.trans (daysIn_le _ _)
  have firstMonth := first.monthLe
  have secondMonth := second.monthLe
  rw [Strings.less, decide_eq_true_eq, Date.format_eq firstReadable, Date.format_eq secondReadable,
    Date.lt_iff, Date.code, Date.code]
  simp only [List.map_append, List.map_cons]
  rw [append_lt_append_iff (lengths (by decide) (Date.year_lt firstReadable)
      (Date.year_lt secondReadable)), List.cons_lt_cons_iff,
    append_lt_append_iff (lengths (by decide) (Date.month_lt first) (Date.month_lt second)),
    List.cons_lt_cons_iff, years, months, days, same, same]
  omega

end Calendar

end SeshatOps
