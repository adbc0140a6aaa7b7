import TaxGateway.Foundations.Decimals

/-!
Contract: dates that are written and read back.

Owns:
- what a clock shows: a day of the calendar and a time of day;
- the reading of padded digits;
- the round trip of `d/m/Y H:i:s`.

Does not own: dates that overflow, which `createFromFormat` carries.
-/

namespace TaxGateway.Php.DateTime

/-- A day of the calendar, in a year of four digits, and a time of day. -/
structure IsClockTime (date : DateTime) : Prop where
  year : 0 ≤ date.year ∧ date.year < 10000
  month : 1 ≤ date.month ∧ date.month ≤ 12
  day : 1 ≤ date.day ∧ date.day ≤ daysInMonth date.year date.month
  time : date.hour < 24 ∧ date.minute < 60 ∧ date.second < 60

/-! ## Digits -/

/-- As many digits as may be read are read, whatever follows. -/
theorem readNumber_paddedDigits {least most value : Nat} (enough : least ≤ most)
    (positive : 0 < most) (fits : value < 10 ^ most) (rest : List Char) :
    readNumber least most (paddedDigits most value ++ rest) = some (value, rest) := by
  have width := length_paddedDigits positive fits
  have taken : (paddedDigits most value ++ rest).take most = paddedDigits most value :=
    List.take_left' width
  have digits : (paddedDigits most value).takeWhile Char.isDigit = paddedDigits most value :=
    List.takeWhile_eq_self_iff.mpr fun c member => isDigit_of_mem_paddedDigits member
  have dropped : (paddedDigits most value ++ rest).drop most = rest := List.drop_left' width
  simp only [readNumber, taken, digits, width, dropped, digitsValue_paddedDigits]
  rw [if_neg (by omega)]

/-- Blanks before a padded number are skipped, and nothing of the number is. -/
theorem dropWhile_blank_paddedDigits {width value : Nat} (positive : 0 < width)
    (fits : value < 10 ^ width) (rest : List Char) :
    (' ' :: (paddedDigits width value ++ rest)).dropWhile (fun c => c = ' ' || c = '\t') =
      paddedDigits width value ++ rest := by
  rw [List.dropWhile_cons_of_pos (by simp)]
  cases written : paddedDigits width value with
  | nil =>
      have length := length_paddedDigits positive fits
      rw [written, List.length_nil] at length
      omega
  | cons digit others =>
      have isDigit : digit.isDigit = true :=
        isDigit_of_mem_paddedDigits
          (written ▸ List.mem_cons_self : digit ∈ paddedDigits width value)
      rw [List.cons_append, List.dropWhile_cons_of_neg]
      rintro blank
      simp only [Bool.or_eq_true, decide_eq_true_eq] at blank
      rcases blank with rfl | rfl
      · exact absurd isDigit (by decide)
      · exact absurd isDigit (by decide)

/-! ## The round trip -/

/-- Nothing of a clock time is carried. -/
theorem ofFields_of_isClockTime {date : DateTime} (clock : date.IsClockTime) :
    ofFields date.year.toNat date.month date.day date.hour date.minute date.second = date := by
  obtain ⟨⟨fromZero, -⟩, ⟨fromOne, toTwelve⟩, ⟨fromFirst, toLast⟩, hour, minute, second⟩ := clock
  have year : (date.year.toNat : Int) = date.year := Int.toNat_of_nonneg fromZero
  have months : carryMonths date.year.toNat date.month = (date.year, date.month) := by
    rw [carryMonths, if_neg (by omega), year, Nat.div_eq_of_lt (by omega),
      Nat.mod_eq_of_lt (by omega)]
    simp only [Nat.cast_zero, add_zero, Prod.mk.injEq, true_and]
    omega
  have start : carryZeroDay date.year date.month date.day =
      ((date.year, date.month), date.day) := by
    rw [carryZeroDay, if_neg (by omega)]
  have days : carryDays 6 (date.year, date.month) date.day =
      (date.year, date.month, date.day) := by
    rw [carryDays, if_pos toLast]
  simp only [ofFields, Nat.div_eq_of_lt second, Nat.mod_eq_of_lt second, Nat.add_zero,
    Nat.div_eq_of_lt minute, Nat.mod_eq_of_lt minute, Nat.div_eq_of_lt hour,
    Nat.mod_eq_of_lt hour, months, start, days]

/-- The characters of a clock time in the format `d/m/Y H:i:s`. -/
theorem toList_formatDate_formatTime {date : DateTime} (clock : date.IsClockTime) :
    (date.formatDate ++ " " ++ date.formatTime).toList =
      paddedDigits 2 date.day ++ '/' :: (paddedDigits 2 date.month ++ '/' ::
        (paddedDigits 4 date.year.toNat ++ ' ' :: (paddedDigits 2 date.hour ++ ':' ::
          (paddedDigits 2 date.minute ++ ':' :: (paddedDigits 2 date.second ++ []))))) := by
  have positive : ¬ date.year < 0 := by
    have fromZero := clock.year.1
    omega
  have absolute : date.year.natAbs = date.year.toNat := by omega
  simp only [formatDate, formatTime, pad2, yearText, if_neg positive, absolute,
    String.toList_append, String.toList_ofList, List.append_assoc, List.append_nil]
  rfl

/-- A clock time is read back as it was written. -/
theorem createFromFormat_formatDate_formatTime {date : DateTime} (clock : date.IsClockTime) :
    createFromFormat (date.formatDate ++ " " ++ date.formatTime) = some date := by
  have day : date.day < 10 ^ 2 := by
    have toLast := clock.day.2
    have atMost : daysInMonth date.year date.month ≤ 31 := by
      unfold daysInMonth
      split_ifs <;> omega
    omega
  have month : date.month < 10 ^ 2 := by
    have toTwelve := clock.month.2
    omega
  have year : date.year.toNat < 10 ^ 4 := by
    have ofYear := clock.year
    omega
  obtain ⟨hour, minute, second⟩ := clock.time
  simp only [createFromFormat, toList_formatDate_formatTime clock]
  rw [readNumber_paddedDigits (by omega) (by omega) day]
  simp only [Option.bind_eq_bind, Option.bind_some, readChar, if_true]
  rw [readNumber_paddedDigits (by omega) (by omega) month]
  simp only [Option.bind_some, if_true]
  rw [readNumber_paddedDigits (by omega) (by omega) year]
  simp only [Option.bind_some]
  rw [dropWhile_blank_paddedDigits (by omega) (by omega),
    readNumber_paddedDigits (by omega) (by omega) (by omega)]
  simp only [Option.bind_some, if_true]
  rw [readNumber_paddedDigits (by omega) (by omega) (by omega)]
  simp only [Option.bind_some, if_true]
  rw [readNumber_paddedDigits (by omega) (by omega) (by omega)]
  simp only [Option.bind_some, List.isEmpty_nil, if_true]
  rw [ofFields_of_isClockTime clock]

end TaxGateway.Php.DateTime
