import TaxGateway.Foundations.Formats

/-!
Contract: how far a written decimal is from the number it was written for.

Owns:
- the error of `round()`, at most half a unit of the last place;
- `number_format` read back: the text of a number is a numeric string whose
  value is the rounded number;
- the error of a sum whose members are each off by a bounded amount.

Does not own: floating-point error; numbers here are rational.
-/

namespace TaxGateway.Php

/-! ## Rounding -/

theorem abs_roundHalfAway_sub_le (value : ℚ) :
    |(roundHalfAway value : ℚ) - value| ≤ 1 / 2 := by
  unfold roundHalfAway
  split
  next =>
    have below := Int.floor_le (value + 1 / 2)
    have above := Int.lt_floor_add_one (value + 1 / 2)
    rw [abs_le]
    constructor <;> linarith
  next =>
    have below := Int.floor_le (-value + 1 / 2)
    have above := Int.lt_floor_add_one (-value + 1 / 2)
    rw [abs_le]
    push_cast
    constructor <;> linarith

/-- `round($value, $places)` moves a number by at most half a unit of its last
place. -/
theorem abs_roundTo_sub_le (places : Nat) (value : ℚ) :
    |roundTo places value - value| ≤ 1 / 2 / 10 ^ places := by
  have scale : (0 : ℚ) < 10 ^ places := by positivity
  have moved := abs_roundHalfAway_sub_le (value * 10 ^ places)
  have scaled : roundTo places value - value =
      ((roundHalfAway (value * 10 ^ places) : ℚ) - value * 10 ^ places) / 10 ^ places := by
    rw [roundTo]
    field_simp
  rw [scaled, abs_div, abs_of_pos scale]
  exact div_le_div_of_nonneg_right moved scale.le

/-- A cent amount is at most half a cent away. -/
theorem abs_roundTo_two_sub_le (value : ℚ) : |roundTo 2 value - value| ≤ 5 / 1000 := by
  have moved := abs_roundTo_sub_le 2 value
  norm_num at moved
  linarith

/-! ## Sums of approximations -/

/-- Errors add up. -/
theorem abs_sum_map_sub_le {α : Type} {exact approximate : α → ℚ} {bound : ℚ}
    {members : List α} (near : ∀ member ∈ members, |approximate member - exact member| ≤ bound) :
    |(members.map approximate).sum - (members.map exact).sum| ≤ members.length * bound := by
  induction members with
  | nil => simp
  | cons head tail inductionHypothesis =>
      have headNear := near head (by simp)
      have tailNear := inductionHypothesis fun member isMember =>
        near member (List.mem_cons_of_mem head isMember)
      have regrouped :
          ((head :: tail).map approximate).sum - ((head :: tail).map exact).sum =
            (approximate head - exact head) +
              ((tail.map approximate).sum - (tail.map exact).sum) := by
        simp only [List.map_cons, List.sum_cons]
        ring
      have lengths : (((head :: tail).length : ℕ) : ℚ) * bound =
          bound + tail.length * bound := by
        push_cast [List.length_cons]
        ring
      rw [regrouped, lengths]
      exact (abs_add_le _ _).trans (add_le_add headNear tailNear)

/-! ## Digits -/

theorem digitsValue_eq_ofDigitChars (digits : List Char) :
    digitsValue digits = Nat.ofDigitChars 10 digits 0 := by
  simp only [digitsValue, Nat.ofDigitChars_eq_foldl, Nat.mul_comm 10]
  rfl

theorem digitsValue_append (front back : List Char) :
    digitsValue (front ++ back) = 10 ^ back.length * digitsValue front + digitsValue back := by
  simp only [digitsValue_eq_ofDigitChars]
  rw [Nat.ofDigitChars_append, Nat.ofDigitChars_eq_ofDigitChars_zero]

theorem digitsValue_toDigits (value : Nat) : digitsValue (Nat.toDigits 10 value) = value := by
  rw [digitsValue_eq_ofDigitChars, Nat.ofDigitChars_ten_toDigits]

theorem digitsValue_paddedDigits (width value : Nat) :
    digitsValue (paddedDigits width value) = value := by
  simp only [paddedDigits]
  rw [digitsValue_append, digitsValue_toDigits, digitsValue_eq_ofDigitChars,
    Nat.ofDigitChars_replicate_zero]
  omega

theorem length_paddedDigits {width value : Nat} (positive : 0 < width)
    (fits : value < 10 ^ width) : (paddedDigits width value).length = width := by
  have short := Nat.toDigits_length 10 value width positive fits
  simp only [paddedDigits, List.length_append, List.length_replicate]
  omega

theorem isDigit_of_mem_toDigits {value : Nat} {c : Char}
    (member : c ∈ Nat.toDigits 10 value) : c.isDigit = true :=
  Nat.isDigit_of_mem_toDigits (by omega) (by omega) member

theorem isDigit_of_mem_paddedDigits {width value : Nat} {c : Char}
    (member : c ∈ paddedDigits width value) : c.isDigit = true := by
  simp only [paddedDigits, List.mem_append, List.mem_replicate] at member
  rcases member with ⟨-, rfl⟩ | digit
  · rfl
  · exact isDigit_of_mem_toDigits digit

theorem isSpace_eq_false_of_isDigit {c : Char} (digit : c.isDigit = true) :
    isSpace c = false := by
  have range : 48 ≤ c.toNat ∧ c.toNat ≤ 57 := by
    simp only [Char.isDigit, Bool.and_eq_true, decide_eq_true_eq, ge_iff_le,
      UInt32.le_iff_toNat_le] at digit
    exact digit
  simp only [isSpace, List.contains_eq_mem, List.mem_cons, List.not_mem_nil, or_false,
    decide_eq_false_iff_not]
  omega

theorem takeWhile_isDigit_append {digits : List Char} (rest : List Char)
    (allDigits : ∀ c ∈ digits, c.isDigit = true)
    (stops : rest.head?.all fun c => !c.isDigit) :
    (digits ++ rest).takeWhile Char.isDigit = digits ∧
      (digits ++ rest).dropWhile Char.isDigit = rest := by
  have restStops : rest.takeWhile Char.isDigit = [] ∧ rest.dropWhile Char.isDigit = rest := by
    cases rest with
    | nil => exact ⟨rfl, rfl⟩
    | cons head tail =>
        have notDigit : head.isDigit = false := by simpa using stops
        simp [notDigit]
  rw [List.takeWhile_append_of_pos allDigits, List.dropWhile_append_of_pos allDigits,
    restStops.1, restStops.2, List.append_nil]
  exact ⟨rfl, rfl⟩

/-! ## Reading a written number back -/

/-- The characters of a written number after its sign. -/
def magnitudeText (places units : Nat) : List Char :=
  Nat.toDigits 10 (units / 10 ^ places) ++
    if places = 0 then [] else '.' :: paddedDigits places (units % 10 ^ places)

theorem toList_decimalText (places : Nat) (units : Int) :
    (decimalText places units).toList =
      (if units < 0 then ['-'] else []) ++ magnitudeText places units.natAbs := by
  simp only [decimalText, magnitudeText, String.toList_ofList, List.append_assoc]

/-- A number that starts with a digit has no sign. -/
theorem splitSign_of_isDigit {head : Char} (digit : head.isDigit = true) (rest : List Char) :
    splitSign ((head :: rest).dropWhile isSpace) = (1, head :: rest) := by
  have notMinus : head ≠ '-' := by
    rintro rfl
    exact absurd digit (by decide)
  have notPlus : head ≠ '+' := by
    rintro rfl
    exact absurd digit (by decide)
  rw [List.dropWhile_cons, if_neg (by simp [isSpace_eq_false_of_isDigit digit])]
  unfold splitSign
  split
  next isMinus => exact absurd (List.cons.inj isMinus).1 notMinus
  next isPlus => exact absurd (List.cons.inj isPlus).1 notPlus
  next => rfl

/-- The sign is read off, and the first digit is neither a space nor a sign. -/
theorem splitSign_decimalText (places : Nat) (units : Int) :
    splitSign ((decimalText places units).toList.dropWhile isSpace) =
      (if units < 0 then -1 else 1, magnitudeText places units.natAbs) := by
  obtain ⟨head, tail, digits⟩ :=
    List.exists_cons_of_ne_nil (@Nat.toDigits_ne_nil (units.natAbs / 10 ^ places) 10)
  have digit : head.isDigit = true := isDigit_of_mem_toDigits (by rw [digits]; simp)
  rw [toList_decimalText]
  by_cases negative : units < 0
  · rw [if_pos negative, if_pos negative]
    rfl
  · rw [if_neg negative, if_neg negative, List.nil_append, magnitudeText, digits,
      List.cons_append]
    exact splitSign_of_isDigit digit _

/-- What follows the integer digits of a written number. -/
theorem magnitudeText_parts (places units : Nat) :
    (magnitudeText places units).takeWhile Char.isDigit =
        Nat.toDigits 10 (units / 10 ^ places) ∧
      splitFraction ((magnitudeText places units).dropWhile Char.isDigit) =
        (if places = 0 then [] else paddedDigits places (units % 10 ^ places), []) := by
  have whole : ∀ c ∈ Nat.toDigits 10 (units / 10 ^ places), c.isDigit = true :=
    fun c => isDigit_of_mem_toDigits
  by_cases noPlaces : places = 0
  · subst noPlaces
    obtain ⟨taken, dropped⟩ := takeWhile_isDigit_append [] whole rfl
    exact ⟨by simpa [magnitudeText] using taken, by
      simp only [magnitudeText, if_true, dropped, splitFraction]⟩
  · have fraction : ∀ c ∈ paddedDigits places (units % 10 ^ places), c.isDigit = true :=
      fun c => isDigit_of_mem_paddedDigits
    obtain ⟨taken, dropped⟩ := takeWhile_isDigit_append
      ('.' :: paddedDigits places (units % 10 ^ places)) whole rfl
    obtain ⟨digits, nothing⟩ := takeWhile_isDigit_append [] fraction rfl
    rw [List.append_nil] at digits nothing
    refine ⟨by simpa only [magnitudeText, if_neg noPlaces] using taken, ?_⟩
    simp only [magnitudeText, if_neg noPlaces, dropped, splitFraction, digits, nothing]

/-- The digits of a written number, its point left out, are its units. -/
theorem digitsValue_magnitude (places units : Nat) :
    digitsValue (Nat.toDigits 10 (units / 10 ^ places) ++
        if places = 0 then [] else paddedDigits places (units % 10 ^ places)) = units := by
  by_cases noPlaces : places = 0
  · subst noPlaces
    simp [digitsValue_toDigits]
  · have positive : 0 < places := Nat.pos_of_ne_zero noPlaces
    have small : units % 10 ^ places < 10 ^ places := Nat.mod_lt _ (by positivity)
    rw [if_neg noPlaces, digitsValue_append, digitsValue_toDigits, digitsValue_paddedDigits,
      length_paddedDigits positive small]
    exact Nat.div_add_mod units (10 ^ places)

/-- A written number is a numeric string, and is worth what was written. -/
theorem numericString_decimalText (places : Nat) (units : Int) :
    numericString (decimalText places units) = some ((units : ℚ) / 10 ^ places) := by
  obtain ⟨taken, fraction⟩ := magnitudeText_parts places units.natAbs
  have fractionLength :
      (if places = 0 then [] else paddedDigits places (units.natAbs % 10 ^ places)).length =
        places := by
    by_cases noPlaces : places = 0
    · simp [noPlaces]
    · rw [if_neg noPlaces]
      exact length_paddedDigits (Nat.pos_of_ne_zero noPlaces) (Nat.mod_lt _ (by positivity))
  have signed : (((if units < 0 then -1 else 1 : Int) : ℚ)) * (units.natAbs : ℚ) = units := by
    have whole : (if units < 0 then -1 else 1 : Int) * (units.natAbs : Int) = units := by
      split <;> omega
    calc ((if units < 0 then -1 else 1 : Int) : ℚ) * (units.natAbs : ℚ)
        = (((if units < 0 then -1 else 1 : Int) * (units.natAbs : Int) : Int) : ℚ) := by
          rw [Int.cast_mul, Int.cast_natCast]
      _ = units := by rw [whole]
  have prefixed : numericPrefix (decimalText places units) =
      some ((units : ℚ) / 10 ^ places, []) := by
    simp only [numericPrefix, splitSign_decimalText, taken, fraction, splitExponent,
      digitsValue_magnitude, fractionLength]
    rw [if_neg (by simp [Nat.toDigits_ne_nil])]
    simp only [zpow_zero, mul_one, ← mul_div_assoc, signed]
  rw [numericString, prefixed]
  rfl

/-- `number_format`, read back as a number. -/
theorem numericString_numberFormat (places : Nat) (value : ℚ) :
    numericString (numberFormat places value) = some (roundTo places value) :=
  numericString_decimalText places (roundHalfAway (value * 10 ^ places))

theorem toNumber_numberFormat (places : Nat) (value : ℚ) :
    (Value.str (numberFormat places value)).toNumber = .ok (roundTo places value) := by
  simp only [Value.toNumber, stringToNumber, numericString_numberFormat]

end TaxGateway.Php
