import TaxGateway.Foundations.WrittenDates

/-!
Contract: what `createFromFormat` makes of dates that no calendar has.

Owns:
- the six numbers a text in the format `d/m/Y H:i:s` writes, before anything is
  carried;
- that whatever was carried is a day of the calendar and a time of day;
- dates told apart by what `format` writes for them, and so the texts whose date
  is kept.

Does not own: time zones.
-/

namespace TaxGateway.Php

/-! ## The size of read numbers -/

theorem digit_le_nine {c : Char} (digit : c.isDigit = true) : c.toNat - 48 ≤ 9 := by
  have range : 48 ≤ c.toNat ∧ c.toNat ≤ 57 := by
    simp only [Char.isDigit, Bool.and_eq_true, decide_eq_true_eq, ge_iff_le,
      UInt32.le_iff_toNat_le] at digit
    exact digit
  omega

/-- As many digits as were read bound the number. -/
theorem digitsValue_lt {digits : List Char} (allDigits : ∀ c ∈ digits, c.isDigit = true) :
    digitsValue digits < 10 ^ digits.length := by
  induction digits using List.reverseRecOn with
  | nil => simp [digitsValue]
  | append_singleton digits last inductionHypothesis =>
      have front : digitsValue digits < 10 ^ digits.length :=
        inductionHypothesis fun c member => allDigits c (List.mem_append_left _ member)
      have small := digit_le_nine (allDigits last (by simp))
      have single : digitsValue [last] = last.toNat - 48 := by simp [digitsValue]
      rw [digitsValue_append, single, List.length_append, List.length_singleton, pow_succ]
      omega

namespace DateTime

theorem readNumber_lt {least most value : Nat} {text rest : List Char}
    (read : readNumber least most text = some (value, rest)) : value < 10 ^ most := by
  simp only [readNumber] at read
  split at read
  next => contradiction
  next =>
    simp only [Option.some.injEq, Prod.mk.injEq] at read
    rw [← read.1]
    have digits : ∀ c ∈ (text.take most).takeWhile Char.isDigit, c.isDigit = true :=
      fun c member => List.mem_takeWhile_imp member
    have short : ((text.take most).takeWhile Char.isDigit).length ≤ most :=
      (List.takeWhile_prefix _).length_le.trans (by simp)
    exact (digitsValue_lt digits).trans_le (Nat.pow_le_pow_right (by omega) short)

/-! ## What is written -/

/-- The numbers in a text of the format `d/m/Y H:i:s`, with nothing carried. -/
def readWritten (text : String) : Option DateTime := do
  let (day, rest) ← readNumber 1 2 text.toList
  let rest ← readChar '/' rest
  let (month, rest) ← readNumber 1 2 rest
  let rest ← readChar '/' rest
  let (year, rest) ← readNumber 1 4 rest
  let rest := rest.dropWhile fun c => c = ' ' || c = '\t'
  let (hour, rest) ← readNumber 1 2 rest
  let rest ← readChar ':' rest
  let (minute, rest) ← readNumber 2 2 rest
  let rest ← readChar ':' rest
  let (second, rest) ← readNumber 2 2 rest
  if rest.isEmpty then some ⟨year, month, day, hour, minute, second⟩ else none

/-- What PHP makes of the numbers that were written. -/
def carried (written : DateTime) : DateTime :=
  ofFields written.year.toNat written.month written.day written.hour written.minute
    written.second

/-- `createFromFormat` reads the written numbers, and carries. -/
theorem createFromFormat_eq_map (text : String) :
    createFromFormat text = (readWritten text).map carried := by
  simp only [createFromFormat, readWritten, Option.bind_eq_bind, Option.map_bind,
    Function.comp_def, apply_ite (Option.map carried), Option.map_some, Option.map_none,
    carried, Int.toNat_natCast]

/-- Numbers of as many digits as the format has. -/
structure IsWritten (written : DateTime) : Prop where
  year : 0 ≤ written.year ∧ written.year < 10000
  month : written.month < 100
  day : written.day < 100
  hour : written.hour < 100
  minute : written.minute < 100
  second : written.second < 100

theorem isWritten_of_readWritten {text : String} {written : DateTime}
    (read : readWritten text = some written) : written.IsWritten := by
  simp only [readWritten, Option.bind_eq_bind, Option.bind_eq_some_iff] at read
  obtain ⟨⟨day, _⟩, readDay, _, -, ⟨month, _⟩, readMonth, _, -, ⟨year, _⟩, readYear,
    ⟨hour, _⟩, readHour, _, -, ⟨minute, _⟩, readMinute, _, -, ⟨second, _⟩, readSecond,
    returned⟩ := read
  split at returned
  next =>
    obtain rfl := Option.some.inj returned
    have yearSmall : ((year : Nat) : Int) < 10000 := by
      exact_mod_cast readNumber_lt readYear
    exact ⟨⟨Int.natCast_nonneg year, yearSmall⟩, readNumber_lt readMonth, readNumber_lt readDay,
      readNumber_lt readHour, readNumber_lt readMinute, readNumber_lt readSecond⟩
  next => contradiction

/-! ## What is carried -/

theorem daysInMonth_bounds (year : Int) (month : Nat) :
    28 ≤ daysInMonth year month ∧ daysInMonth year month ≤ 31 := by
  unfold daysInMonth
  split_ifs <;> omega

theorem carryMonths_month (year : Int) (month : Nat) :
    1 ≤ (carryMonths year month).2 ∧ (carryMonths year month).2 ≤ 12 := by
  unfold carryMonths
  split_ifs with zero
  · simp
  · constructor <;> simp only <;> omega

/-- A month of the year and a day of that month. -/
def IsDay (date : Int × Nat × Nat) : Prop :=
  (1 ≤ date.2.1 ∧ date.2.1 ≤ 12) ∧ 1 ≤ date.2.2 ∧ date.2.2 ≤ daysInMonth date.1 date.2.1

/-- Every month passed takes at least 28 days away. -/
theorem isDay_carryDays {fuel : Nat} {start : Int × Nat} {day : Nat}
    (month : 1 ≤ start.2 ∧ start.2 ≤ 12) (positive : 1 ≤ day)
    (enough : day ≤ 28 * (fuel + 1)) : IsDay (carryDays fuel start day) := by
  induction fuel generalizing start day with
  | zero =>
      have atLeast := (daysInMonth_bounds start.1 start.2).1
      exact ⟨month, positive, by simp only [carryDays]; omega⟩
  | succ fuel inductionHypothesis =>
      have atLeast := (daysInMonth_bounds start.1 start.2).1
      by_cases within : day ≤ daysInMonth start.1 start.2
      · rw [carryDays, if_pos within]
        exact ⟨month, positive, within⟩
      · rw [carryDays, if_neg within]
        apply inductionHypothesis
        · exact carryMonths_month start.1 (start.2 + 1)
        · omega
        · omega

theorem carryZeroDay_bounds (year : Int) {month day : Nat}
    (isMonth : 1 ≤ month ∧ month ≤ 12) (small : day < 100) :
    (1 ≤ (carryZeroDay year month day).1.2 ∧ (carryZeroDay year month day).1.2 ≤ 12) ∧
      1 ≤ (carryZeroDay year month day).2 ∧ (carryZeroDay year month day).2 < 100 := by
  unfold carryZeroDay
  split_ifs with zero
  · have before := carryMonths_month year (month - 1)
    have length := daysInMonth_bounds (carryMonths year (month - 1)).1
      (carryMonths year (month - 1)).2
    refine ⟨before, ?_, ?_⟩ <;> simp only <;> omega
  · refine ⟨isMonth, ?_, ?_⟩ <;> simp only <;> omega

/-- Whatever was written, what PHP makes of it is a day of the calendar and a time
of day. -/
theorem carried_isDay {written : DateTime} (isWritten : written.IsWritten) :
    IsDay (written.carried.year, written.carried.month, written.carried.day) ∧
      written.carried.hour < 24 ∧ written.carried.minute < 60 ∧
      written.carried.second < 60 := by
  have month := carryMonths_month written.year.toNat written.month
  have start := carryZeroDay_bounds (carryMonths written.year.toNat written.month).1 month
    isWritten.day
  have second := isWritten.second
  have minute := isWritten.minute
  have hour := isWritten.hour
  refine ⟨isDay_carryDays start.1 ?_ ?_, ?_, ?_, ?_⟩
  · omega
  · omega
  · exact Nat.mod_lt _ (by omega)
  · exact Nat.mod_lt _ (by omega)
  · exact Nat.mod_lt _ (by omega)

/-! ## Dates told apart by their texts -/

theorem paddedDigits_injective (width : Nat) : Function.Injective (paddedDigits width) := by
  intro value other same
  have values := congrArg digitsValue same
  rwa [digitsValue_paddedDigits, digitsValue_paddedDigits] at values

theorem pad2_injective : Function.Injective pad2 :=
  fun _ _ same => paddedDigits_injective 2 (String.ofList_injective same)

theorem toList_pad2 (value : Nat) : (pad2 value).toList = paddedDigits 2 value :=
  String.toList_ofList

theorem length_toList_pad2 {value : Nat} (small : value < 100) :
    (pad2 value).toList.length = 2 := by
  rw [toList_pad2]
  exact length_paddedDigits (by omega) small

/-- The first of two texts of a known length can be cut off. -/
theorem pad2_append_inj {value other : Nat} {rest otherRest : String} (small : value < 100)
    (otherSmall : other < 100) (same : pad2 value ++ rest = pad2 other ++ otherRest) :
    value = other ∧ rest = otherRest := by
  have texts := congrArg String.toList same
  rw [String.toList_append, String.toList_append] at texts
  have lengths : (pad2 value).toList.length = (pad2 other).toList.length := by
    rw [length_toList_pad2 small, length_toList_pad2 otherSmall]
  obtain ⟨front, back⟩ := List.append_inj texts lengths
  exact ⟨pad2_injective (String.toList_inj.mp front), String.toList_inj.mp back⟩

theorem toList_yearText (year : Int) :
    (yearText year).toList =
      (if year < 0 then ['-'] else []) ++ paddedDigits 4 year.natAbs := by
  rw [yearText, String.toList_append, String.toList_ofList]
  split_ifs <;> rfl

/-- A sign is no digit. -/
theorem sign_ne_paddedDigits (front : List Char) (width value : Nat) :
    '-' :: front ≠ paddedDigits width value := by
  intro same
  have digit : '-'.isDigit = true :=
    isDigit_of_mem_paddedDigits (same ▸ List.mem_cons_self : '-' ∈ paddedDigits width value)
  exact absurd digit (by decide)

theorem yearText_injective : Function.Injective yearText := by
  intro year other same
  have texts := congrArg String.toList same
  rw [toList_yearText, toList_yearText] at texts
  split_ifs at texts with negative otherNegative otherNegative
  · have absolute := paddedDigits_injective 4 (List.cons.inj texts).2
    omega
  · exact absurd texts (sign_ne_paddedDigits _ 4 _)
  · exact absurd texts.symm (sign_ne_paddedDigits _ 4 _)
  · have absolute := paddedDigits_injective 4 texts
    omega

theorem formatDate_inj {date other : DateTime} (day : date.day < 100) (month : date.month < 100)
    (otherDay : other.day < 100) (otherMonth : other.month < 100)
    (same : date.formatDate = other.formatDate) :
    date.year = other.year ∧ date.month = other.month ∧ date.day = other.day := by
  simp only [formatDate, String.append_assoc] at same
  obtain ⟨days, same⟩ := pad2_append_inj day otherDay same
  obtain ⟨months, same⟩ := pad2_append_inj month otherMonth ((String.append_right_inj _).mp same)
  exact ⟨yearText_injective ((String.append_right_inj _).mp same), months, days⟩

theorem formatTime_inj {date other : DateTime} (hour : date.hour < 100)
    (minute : date.minute < 100) (otherHour : other.hour < 100) (otherMinute : other.minute < 100)
    (same : date.formatTime = other.formatTime) :
    date.hour = other.hour ∧ date.minute = other.minute ∧ date.second = other.second := by
  simp only [formatTime, String.append_assoc] at same
  obtain ⟨hours, same⟩ := pad2_append_inj hour otherHour same
  obtain ⟨minutes, same⟩ := pad2_append_inj minute otherMinute ((String.append_right_inj _).mp same)
  exact ⟨hours, minutes, pad2_injective ((String.append_right_inj _).mp same)⟩

/-- What PHP makes of the numbers is written like them exactly when they are a day
of the calendar and a time of day; then it is what they say. -/
theorem carried_written_iff {written : DateTime} (isWritten : written.IsWritten) :
    (written.carried.formatDate = written.formatDate ∧
      written.carried.formatTime = written.formatTime) ↔ written.IsClockTime := by
  constructor
  · rintro ⟨dates, times⟩
    obtain ⟨⟨month, day⟩, hour, minute, second⟩ := carried_isDay isWritten
    have length := (daysInMonth_bounds written.carried.year written.carried.month).2
    simp only at month day
    obtain ⟨years, months, days⟩ := formatDate_inj (by omega) (by omega) isWritten.day
      isWritten.month dates
    obtain ⟨hours, minutes, seconds⟩ := formatTime_inj (by omega) (by omega) isWritten.hour
      isWritten.minute times
    rw [years, months, days] at day
    rw [months] at month
    exact ⟨isWritten.year, month, day, hours ▸ hour, minutes ▸ minute, seconds ▸ second⟩
  · intro clock
    rw [carried, ofFields_of_isClockTime clock]
    exact ⟨rfl, rfl⟩

end DateTime

end TaxGateway.Php
