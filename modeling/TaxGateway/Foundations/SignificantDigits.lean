import TaxGateway.Foundations.Decimals

/-!
Contract: what PHP reads of the text of a `float`.

Owns:
- rounding to a number of significant digits, and which numbers it keeps;
- that `(float)` reads the rounded number back of the text, and the number itself exactly
  when that has no more digits;
- the characters of such texts.

Does not own: binary fractions (numbers here are rational), infinities, the sign of zero.
-/

namespace TaxGateway.Php

/-! ## Rounding -/

/-- `-1` below zero, else `1`. -/
def signOf (value : ℚ) : ℚ := if value < 0 then -1 else 1

/-- A number rounded to `count` significant digits. -/
def roundSignificant (count : Nat) (value : ℚ) : ℚ :=
  signOf value * significand count value * 10 ^ lastPlace count value

/-- A number with no more than `count` significant digits. -/
def HasDigits (count : Nat) (value : ℚ) : Prop :=
  ∃ digits exponent : Int, |digits| < 10 ^ count ∧ value = digits * 10 ^ exponent

section Rounding

variable {count : Nat} {value : ℚ}

@[simp] theorem roundHalfEven_intCast (n : Int) : roundHalfEven n = n := by
  simp [roundHalfEven]

theorem floor_le_roundHalfEven (value : ℚ) :
    ⌊value⌋ ≤ roundHalfEven value ∧ roundHalfEven value ≤ ⌊value⌋ + 1 := by
  unfold roundHalfEven
  dsimp only
  split_ifs
  · omega
  · omega
  · omega
  · omega

theorem signOf_mul_abs (value : ℚ) : signOf value * |value| = value := by
  unfold signOf
  split
  next negative => rw [abs_of_neg negative, neg_one_mul, neg_neg]
  next notNegative => rw [abs_of_nonneg (not_lt.mp notNegative), one_mul]

/-- Counted in the last place, a number other than zero has `count` digits. -/
theorem scaled_bounds (positive : 0 < count) (nonzero : value ≠ 0) :
    (10 : ℚ) ^ (count - 1) ≤ |value| / 10 ^ lastPlace count value ∧
      |value| / 10 ^ lastPlace count value < 10 ^ count := by
  have ten : (10 : ℚ) ≠ 0 := by norm_num
  have size : 0 < |value| := abs_pos.mpr nonzero
  have place : (0 : ℚ) < 10 ^ lastPlace count value := by positivity
  have low := Int.zpow_log_le_self (b := 10) (by norm_num) size
  have high := Int.lt_zpow_succ_log_self (b := 10) (by norm_num) |value|
  push_cast at low high
  rw [le_div_iff₀ place, div_lt_iff₀ place, ← zpow_natCast, ← zpow_natCast, ← zpow_add₀ ten,
    ← zpow_add₀ ten]
  constructor
  · convert low using 2
    rw [lastPlace]
    omega
  · convert high using 2
    rw [lastPlace]
    omega

theorem significand_bounds (positive : 0 < count) (nonzero : value ≠ 0) :
    (10 : Int) ^ (count - 1) ≤ significand count value ∧
      significand count value ≤ 10 ^ count := by
  obtain ⟨low, high⟩ := scaled_bounds positive nonzero
  obtain ⟨above, below⟩ := floor_le_roundHalfEven (|value| / 10 ^ lastPlace count value)
  have floorLow : (10 : Int) ^ (count - 1) ≤ ⌊|value| / 10 ^ lastPlace count value⌋ := by
    rw [Int.le_floor]
    exact_mod_cast low
  have floorHigh : ⌊|value| / 10 ^ lastPlace count value⌋ < (10 : Int) ^ count := by
    rw [Int.floor_lt]
    exact_mod_cast high
  exact ⟨floorLow.trans above, below.trans floorHigh⟩

theorem significand_zero (count : Nat) : significand count 0 = 0 := by
  have zero := roundHalfEven_intCast 0
  simpa [significand] using zero

/-- The digits of a number that has no more of them fill whole places. -/
theorem lastPlace_le_of_hasDigits (positive : 0 < count) {digits exponent : Int}
    (few : |digits| < 10 ^ count) (nonzero : (digits : ℚ) * 10 ^ exponent ≠ 0) :
    lastPlace count (digits * 10 ^ exponent) ≤ exponent := by
  by_contra! finer
  have ten : (10 : ℚ) ≠ 0 := by norm_num
  obtain ⟨low, -⟩ := scaled_bounds positive nonzero
  generalize lastPlace count (digits * 10 ^ exponent) = place at low finer
  -- A place finer than the last one leaves one digit less.
  have few' : |(digits : ℚ)| < 10 ^ count := by exact_mod_cast few
  have scaled : |(digits : ℚ) * 10 ^ exponent| / 10 ^ place =
      |(digits : ℚ)| * 10 ^ (exponent - place) := by
    rw [abs_mul, abs_of_pos (by positivity : (0 : ℚ) < 10 ^ exponent), zpow_sub₀ ten,
      mul_div_assoc]
  have tenth : (10 : ℚ) ^ (exponent - place) ≤ 10 ^ (-1 : Int) :=
    zpow_le_zpow_right₀ (by norm_num) (by omega)
  have least : (10 : ℚ) ^ (count - 1) * 10 = 10 ^ count := by
    rw [← pow_succ, Nat.sub_add_cancel positive]
  rw [scaled] at low
  have smaller := mul_le_mul_of_nonneg_left tenth (abs_nonneg (digits : ℚ))
  rw [zpow_neg_one] at smaller
  linarith

/-- A sign is no digit. -/
theorem HasDigits.signed (has : HasDigits count value) (signed : ℚ) :
    HasDigits count (signOf signed * value) := by
  obtain ⟨digits, exponent, few, rfl⟩ := has
  unfold signOf
  split
  · refine ⟨-digits, exponent, ?_, ?_⟩
    · rwa [abs_neg]
    · push_cast
      ring
  · exact ⟨digits, exponent, few, one_mul _⟩

/-- A rounded number has no more digits than it is rounded to. -/
theorem hasDigits_roundSignificant (positive : 0 < count) (value : ℚ) :
    HasDigits count (roundSignificant count value) := by
  have ten : (10 : ℚ) ≠ 0 := by norm_num
  by_cases zero : value = 0
  · subst zero
    exact ⟨0, 0, by simp, by simp [roundSignificant, significand_zero]⟩
  obtain ⟨low, high⟩ := significand_bounds positive zero
  have least : (0 : Int) < 10 ^ (count - 1) := by positivity
  rw [roundSignificant, mul_assoc]
  apply HasDigits.signed
  rcases high.lt_or_eq with fewer | carried
  · refine ⟨significand count value, lastPlace count value, ?_, rfl⟩
    rwa [abs_of_pos (least.trans_le low)]
  · -- Rounded up to the next power of ten, it is that one digit.
    refine ⟨1, count + lastPlace count value, ?_, ?_⟩
    · rw [abs_one]
      exact one_lt_pow₀ (by norm_num) positive.ne'
    · rw [carried, zpow_add₀ ten, zpow_natCast]
      push_cast
      ring

theorem roundSignificant_of_hasDigits (positive : 0 < count) (has : HasDigits count value) :
    roundSignificant count value = value := by
  have ten : (10 : ℚ) ≠ 0 := by norm_num
  by_cases zero : value = 0
  · subst zero
    simp [roundSignificant, significand_zero]
  obtain ⟨digits, exponent, few, rfl⟩ := has
  have coarser := lastPlace_le_of_hasDigits positive few zero
  have whole : |(digits : ℚ) * 10 ^ exponent| / 10 ^ lastPlace count (digits * 10 ^ exponent) =
      ((|digits| * 10 ^ (exponent - lastPlace count (digits * 10 ^ exponent)).toNat : Int) : ℚ)
      := by
    have exponents : ((exponent - lastPlace count (digits * 10 ^ exponent)).toNat : Int) =
        exponent - lastPlace count (digits * 10 ^ exponent) := by omega
    push_cast
    rw [← zpow_natCast, exponents, zpow_sub₀ ten, abs_mul,
      abs_of_pos (by positivity : (0 : ℚ) < 10 ^ exponent), mul_div_assoc]
  rw [roundSignificant, significand, whole, roundHalfEven_intCast, ← whole, mul_assoc,
    div_mul_cancel₀ _ (by positivity), signOf_mul_abs]

/-- Rounding keeps exactly the numbers with no more digits. -/
theorem roundSignificant_eq_self_iff (positive : 0 < count) :
    roundSignificant count value = value ↔ HasDigits count value := by
  constructor
  · intro same
    rw [← same]
    exact hasDigits_roundSignificant positive value
  · exact roundSignificant_of_hasDigits positive

end Rounding

/-! ## Written numbers -/

namespace NumberParts

/-- The number that is written. -/
def value (parts : NumberParts) : ℚ :=
  (digitsValue (parts.whole ++ parts.fraction) : ℚ) / 10 ^ parts.fraction.length *
    10 ^ parts.exponent.getD 0

theorem value_eq (parts : NumberParts) :
    parts.value = digitsValue (parts.whole ++ parts.fraction) *
      10 ^ (parts.exponent.getD 0 - parts.fraction.length) := by
  rw [value, zpow_sub₀ (by norm_num), zpow_natCast, mul_div_assoc', div_mul_eq_mul_div]

/-- There is a digit before the point, and digits only. -/
structure IsWritten (parts : NumberParts) : Prop where
  starts : parts.whole ≠ []
  whole : ∀ c ∈ parts.whole, c.isDigit = true
  fraction : ∀ c ∈ parts.fraction, c.isDigit = true

end NumberParts

open NumberParts

/-! ## Reading -/

section Reading

theorem splitExponent_exponentText (exponent : Option Int) :
    splitExponent (exponentText exponent) = (exponent.getD 0, []) := by
  cases exponent with
  | none => rfl
  | some exponent =>
      have digits : ∀ c ∈ Nat.toDigits 10 exponent.natAbs, c.isDigit = true :=
        fun c => isDigit_of_mem_toDigits
      obtain ⟨taken, dropped⟩ := takeWhile_isDigit_append [] digits rfl
      rw [List.append_nil] at taken dropped
      have signed : splitSign ((if exponent < 0 then '-' else '+') ::
          Nat.toDigits 10 exponent.natAbs) =
            (if exponent < 0 then -1 else 1, Nat.toDigits 10 exponent.natAbs) := by
        split <;> rfl
      have size : (if exponent < 0 then -1 else 1) * (exponent.natAbs : Int) = exponent := by
        split <;> omega
      rw [exponentText, splitExponent, if_pos (.inr rfl)]
      simp only [signed, taken, dropped, List.isEmpty_iff, Nat.toDigits_ne_nil, if_false,
        digitsValue_toDigits, size, Option.getD_some]

theorem exponentText_stops (exponent : Option Int) :
    (exponentText exponent).head?.all fun c => !c.isDigit := by
  cases exponent <;> rfl

theorem splitFraction_text {fraction : List Char} (digits : ∀ c ∈ fraction, c.isDigit = true)
    (exponent : Option Int) :
    splitFraction (fractionText fraction ++ exponentText exponent) =
      (fraction, exponentText exponent) := by
  cases fraction with
  | nil => cases exponent <;> rfl
  | cons first others =>
      obtain ⟨taken, dropped⟩ :=
        takeWhile_isDigit_append (exponentText exponent) digits (exponentText_stops exponent)
      rw [fractionText, if_neg (by simp), List.cons_append, splitFraction, taken, dropped]

theorem fractionText_stops (fraction : List Char) (exponent : Option Int) :
    (fractionText fraction ++ exponentText exponent).head?.all fun c => !c.isDigit := by
  cases fraction with
  | nil => exact exponentText_stops exponent
  | cons first others => rfl

/-- A written number is read as itself. -/
theorem floatval_text {parts : NumberParts} (isWritten : parts.IsWritten) (negative : Prop)
    [Decidable negative] :
    floatval (String.ofList ((if negative then ['-'] else []) ++ parts.text)) =
      (if negative then -1 else 1) * parts.value := by
  obtain ⟨whole, fraction, exponent⟩ := parts
  obtain ⟨starts, wholeDigits, fractionDigits⟩ := isWritten
  dsimp only at starts wholeDigits fractionDigits
  obtain ⟨taken, dropped⟩ := takeWhile_isDigit_append
    (fractionText fraction ++ exponentText exponent) wholeDigits
    (fractionText_stops fraction exponent)
  have signed : splitSign (((if negative then ['-'] else []) ++
      NumberParts.text ⟨whole, fraction, exponent⟩).dropWhile isSpace) =
        (if negative then -1 else 1,
          whole ++ (fractionText fraction ++ exponentText exponent)) := by
    obtain ⟨head, tail, rfl⟩ := List.exists_cons_of_ne_nil starts
    rw [NumberParts.text, List.append_assoc]
    split
    · rfl
    · exact splitSign_of_isDigit (wholeDigits head List.mem_cons_self) _
  have isNumber : (whole.isEmpty && fraction.isEmpty) = false := by simp [starts]
  simp only [floatval, numericPrefix, String.toList_ofList, signed, taken, dropped,
    splitFraction_text fractionDigits, isNumber, Bool.false_eq_true, if_false,
    splitExponent_exponentText, Option.map_some, Option.getD_some, NumberParts.value]
  split <;> push_cast <;> ring

/-! ## Reading a `float` back -/

theorem digitsValue_replicate_zero (count : Nat) : digitsValue (List.replicate count '0') = 0 := by
  rw [digitsValue_eq_ofDigitChars, Nat.ofDigitChars_replicate_zero]
  simp

variable {precision : Nat} {digits : List Char} {point : Int}

theorem isWritten_gcvt (notEmpty : digits ≠ []) (areDigits : ∀ c ∈ digits, c.isDigit = true) :
    (gcvt precision digits point).IsWritten := by
  have taken : ∀ count, ∀ c ∈ digits.take count, c.isDigit = true :=
    fun _ c member => areDigits c (List.mem_of_mem_take member)
  have left : ∀ count, ∀ c ∈ digits.drop count, c.isDigit = true :=
    fun _ c member => areDigits c (List.mem_of_mem_drop member)
  have zeros : ∀ count, ∀ c ∈ List.replicate count '0', c.isDigit = true := by
    intro count c member
    rw [(List.mem_replicate.mp member).2]
    rfl
  unfold gcvt
  split_ifs with isFar single isSmall
  · exact ⟨by simpa using notEmpty, taken 1, zeros 1⟩
  · exact ⟨by simpa using notEmpty, taken 1, left 1⟩
  · exact ⟨by simp, zeros 1, List.forall_mem_append.mpr ⟨zeros _, areDigits⟩⟩
  · have some : point.toNat ≠ 0 := by omega
    refine ⟨?_, List.forall_mem_append.mpr ⟨taken _, zeros _⟩, left _⟩
    simp [some, notEmpty]

/-- Wherever the point is put, the number is the same. -/
theorem value_gcvt (notEmpty : digits ≠ []) :
    (gcvt precision digits point).value = digitsValue digits * 10 ^ (point - digits.length) := by
  have ten : (10 : ℚ) ≠ 0 := by norm_num
  have positive : 0 < digits.length := List.length_pos_of_ne_nil notEmpty
  unfold gcvt
  split_ifs with isFar single isSmall
  · -- One digit, and a zero behind the point.
    have isAll : digits.take 1 = digits := List.take_of_length_le single
    have one : digits.length = 1 := by omega
    have appended : digitsValue (digits ++ ['0']) = 10 * digitsValue digits := by
      rw [digitsValue_append]
      rfl
    rw [NumberParts.value_eq, isAll, appended, one]
    push_cast
    rw [mul_comm 10, mul_assoc, ← zpow_one_add₀ ten]
    congr 2
    simp
  · rw [NumberParts.value_eq, List.take_append_drop, List.length_drop, Option.getD_some]
    congr 2
    omega
  · have leading : digitsValue (['0'] ++ (List.replicate point.natAbs '0' ++ digits)) =
        digitsValue digits := by
      rw [digitsValue_append, digitsValue_append, digitsValue_replicate_zero]
      simp [digitsValue]
    rw [NumberParts.value_eq, leading, List.length_append, List.length_replicate,
      Option.getD_none]
    congr 2
    omega
  · rcases Nat.lt_or_ge point.toNat digits.length with within | beyond
    · have noZeros : point.toNat - digits.length = 0 := by omega
      rw [NumberParts.value_eq, noZeros, List.replicate_zero, List.append_nil,
        List.take_append_drop, List.length_drop, Option.getD_none]
      congr 2
      omega
    · have exponents : point - digits.length = (point.toNat - digits.length : Nat) := by omega
      rw [NumberParts.value, List.take_of_length_le beyond, List.drop_of_length_le beyond,
        List.append_nil, digitsValue_append, digitsValue_replicate_zero, List.length_replicate,
        exponents, zpow_natCast]
      simp [mul_comm]

/-- The zeros that digits end in count for nothing but their places. -/
theorem digitsValue_rdropWhile_zero (digits : List Char) :
    (digitsValue digits : ℚ) = digitsValue (digits.rdropWhile (· = '0')) *
      10 ^ (digits.length - (digits.rdropWhile (· = '0')).length) := by
  have whole := List.rdropWhile_append_rtakeWhile (p := (· = '0')) (l := digits)
  have zeros : digits.rtakeWhile (· = '0') =
      List.replicate (digits.rtakeWhile (· = '0')).length '0' := by
    rw [List.eq_replicate_iff]
    exact ⟨rfl, fun c member => by simpa using List.mem_rtakeWhile_imp member⟩
  have length : digits.length - (digits.rdropWhile (· = '0')).length =
      (digits.rtakeWhile (· = '0')).length := by
    have sum := congrArg List.length whole
    rw [List.length_append] at sum
    omega
  have value : digitsValue digits =
      10 ^ (digits.rtakeWhile (· = '0')).length * digitsValue (digits.rdropWhile (· = '0')) := by
    conv_lhs => rw [← whole, zeros]
    rw [digitsValue_append, digitsValue_replicate_zero, List.length_replicate, Nat.add_zero]
  rw [length, value]
  push_cast
  ring

/-- The parts that a `float` other than zero is written in. -/
theorem exists_parts_of_ne_zero {value : ℚ} (nonzero : value ≠ 0) :
    ∃ parts : NumberParts, parts.IsWritten ∧
      floatText value = String.ofList ((if value < 0 then ['-'] else []) ++ parts.text) ∧
      parts.value = significand 14 value * 10 ^ lastPlace 14 value := by
  have ten : (10 : ℚ) ≠ 0 := by norm_num
  have positive : 0 < significand 14 value := by
    obtain ⟨low, -⟩ := significand_bounds (by norm_num : 0 < 14) nonzero
    exact lt_of_lt_of_le (by norm_num) low
  rw [floatText, if_neg nonzero]
  dsimp only
  generalize isDigits : Nat.toDigits 10 (significand 14 value).toNat = digits
  have worth : (digitsValue digits : ℚ) = significand 14 value := by
    rw [← isDigits, digitsValue_toDigits]
    exact_mod_cast Int.toNat_of_nonneg positive.le
  have areDigits : ∀ c ∈ digits, c.isDigit = true := by
    rw [← isDigits]
    exact fun c => isDigit_of_mem_toDigits
  have trimmed := digitsValue_rdropWhile_zero digits
  have front := List.rdropWhile_prefix (· = '0') (l := digits)
  generalize digits.rdropWhile (· = '0') = kept at trimmed front
  have notEmpty : kept ≠ [] := by
    rintro rfl
    have none : (significand 14 value : ℚ) = 0 := by
      rw [← worth, trimmed]
      simp [digitsValue]
    exact positive.ne' (by exact_mod_cast none)
  have places : (digits.length : Int) + lastPlace 14 value - kept.length =
      (digits.length - kept.length : Nat) + lastPlace 14 value := by
    have shorter := front.length_le
    omega
  refine ⟨_, isWritten_gcvt notEmpty fun c member => areDigits c (front.subset member), rfl, ?_⟩
  rw [value_gcvt notEmpty, places, zpow_add₀ ten, zpow_natCast, ← mul_assoc, ← trimmed, worth]

/-- `(float)` reads of a written `float` its fourteen significant digits. -/
theorem floatval_floatText (value : ℚ) :
    floatval (floatText value) = roundSignificant 14 value := by
  by_cases zero : value = 0
  · subst zero
    have read : floatval "0" = 0 := by decide +kernel
    simp [floatText, read, roundSignificant, significand_zero]
  · obtain ⟨parts, isWritten, isText, worth⟩ := exists_parts_of_ne_zero zero
    rw [isText, floatval_text isWritten, worth, ← mul_assoc]
    rfl

/-- So it reads the number itself exactly when that has no more digits. -/
theorem floatval_floatText_eq_iff {value : ℚ} :
    floatval (floatText value) = value ↔ HasDigits 14 value := by
  rw [floatval_floatText, roundSignificant_eq_self_iff (by norm_num)]

/-! ## Characters -/

/-- The characters of a written number. -/
def isNumberChar (c : Char) : Bool :=
  c.isDigit || ['-', '+', '.', 'E'].contains c

theorem isNumberChar_of_isDigit {c : Char} (digit : c.isDigit = true) : isNumberChar c = true := by
  simp [isNumberChar, digit]

theorem isNumberChar_of_mem_text {parts : NumberParts} (isWritten : parts.IsWritten) :
    ∀ c ∈ parts.text, isNumberChar c = true := by
  have fraction : ∀ c ∈ fractionText parts.fraction, isNumberChar c = true := by
    unfold fractionText
    split
    · simp
    · refine List.forall_mem_cons.mpr ⟨rfl, fun c member => ?_⟩
      exact isNumberChar_of_isDigit (isWritten.fraction c member)
  have exponent : ∀ c ∈ exponentText parts.exponent, isNumberChar c = true := by
    unfold exponentText
    split
    next => simp
    next exponent isExponent =>
      refine List.forall_mem_cons.mpr ⟨rfl, List.forall_mem_cons.mpr ⟨?_, fun c member => ?_⟩⟩
      · split <;> rfl
      · exact isNumberChar_of_isDigit (isDigit_of_mem_toDigits member)
  refine List.forall_mem_append.mpr ⟨List.forall_mem_append.mpr ⟨fun c member => ?_, fraction⟩,
    exponent⟩
  exact isNumberChar_of_isDigit (isWritten.whole c member)

theorem isNumberChar_of_mem_signed {parts : NumberParts} (isWritten : parts.IsWritten)
    (negative : Prop) [Decidable negative] :
    ∀ c ∈ (String.ofList ((if negative then ['-'] else []) ++ parts.text)).toList,
      isNumberChar c = true := by
  rw [String.toList_ofList]
  refine List.forall_mem_append.mpr ⟨?_, isNumberChar_of_mem_text isWritten⟩
  split
  · simp [isNumberChar]
  · simp

theorem isNumberChar_floatText (value : ℚ) :
    ∀ c ∈ (floatText value).toList, isNumberChar c = true := by
  by_cases zero : value = 0
  · have isText : (floatText value).toList = ['0'] := by
      rw [floatText, if_pos zero]
      rfl
    rw [isText]
    exact List.forall_mem_singleton.mpr rfl
  · obtain ⟨parts, isWritten, isText, -⟩ := exists_parts_of_ne_zero zero
    rw [isText]
    exact isNumberChar_of_mem_signed isWritten _

/-! ## Integers -/

/-- An integer is written in full. -/
theorem toString_eq_text (n : Int) :
    toString n = String.ofList ((if n < 0 then ['-'] else []) ++
      NumberParts.text ⟨Nat.toDigits 10 n.natAbs, [], none⟩) := by
  apply String.toList_injective
  rw [String.toList_ofList]
  cases n with
  | ofNat n =>
      show (Nat.repr n).toList = _
      rw [Nat.toList_repr, if_neg (by simp)]
      simp [NumberParts.text, fractionText, exponentText]
  | negSucc n =>
      show ("-" ++ Nat.repr (n + 1)).toList = _
      rw [String.toList_append, Nat.toList_repr, if_pos (Int.negSucc_lt_zero n)]
      simp [NumberParts.text, fractionText, exponentText]

theorem isWritten_toDigits (n : Nat) : NumberParts.IsWritten ⟨Nat.toDigits 10 n, [], none⟩ :=
  ⟨Nat.toDigits_ne_nil, fun _ => isDigit_of_mem_toDigits, by simp⟩

/-- And read back. -/
theorem floatval_toString (n : Int) : floatval (toString n) = n := by
  have size : (if n < 0 then -1 else 1 : ℚ) * n.natAbs = n := by
    have whole : (if n < 0 then -1 else 1 : Int) * n.natAbs = n := by
      split <;> omega
    conv_rhs => rw [← whole]
    rw [Int.cast_mul, Int.cast_natCast]
    split <;> simp
  rw [toString_eq_text, floatval_text (isWritten_toDigits n.natAbs)]
  simp only [NumberParts.value, List.append_nil, digitsValue_toDigits, List.length_nil, pow_zero,
    div_one, Option.getD_none, zpow_zero, mul_one, size]

theorem isNumberChar_toString (n : Int) : ∀ c ∈ (toString n).toList, isNumberChar c = true := by
  rw [toString_eq_text]
  exact isNumberChar_of_mem_signed (isWritten_toDigits n.natAbs) _

end Reading

end TaxGateway.Php
