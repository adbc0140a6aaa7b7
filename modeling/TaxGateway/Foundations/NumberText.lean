import TaxGateway.Foundations.Php

/-!
Contract: the texts that PHP writes its numbers as.

Owns:
- the rounding of halves to the even neighbour;
- the double nearest to a decimal;
- the text of a `float`, plain or with an exponent, as the `precision` of fourteen
  digits has it;
- the text of a decoded number: an `int` in full, any other as that of its double.

Does not own: `number_format`, or how texts are read back.
-/

namespace TaxGateway.Php

/-- Nearest integer, halves to the even neighbour. -/
def roundHalfEven (value : ℚ) : Int :=
  let below := ⌊value⌋
  let fraction := value - below
  if fraction < 1 / 2 then below
  else if 1 / 2 < fraction then below + 1
  else if below % 2 = 0 then below
  else below + 1

/-! ## Doubles -/

/-- A binary64 number. Its zero has no sign, as `==` does not see it. -/
inductive Double where
  | finite (value : ℚ)
  | infinite (negative : Bool)
deriving DecidableEq, Repr

/-- The double nearest to a decimal: 53 binary digits, down to `2 ^ -1074`. -/
def Double.ofRat (value : ℚ) : Double :=
  let exponent := max (Int.log 2 |value|) (-1022)
  let unit : ℚ := 2 ^ (exponent - 52)
  let rounded := (roundHalfEven (value / unit) : ℚ) * unit
  if 2 ^ (1024 : Int) ≤ |rounded| then .infinite (rounded < 0) else .finite rounded

def Double.isInfinite : Double → Bool
  | .finite _ => false
  | .infinite _ => true

/-! ## Floats -/

/-- The power of ten that the last of `count` significant digits counts. -/
def lastPlace (count : Nat) (value : ℚ) : Int :=
  Int.log 10 |value| + 1 - count

/-- The first `count` digits of a number, rounded. -/
def significand (count : Nat) (value : ℚ) : Int :=
  roundHalfEven (|value| / 10 ^ lastPlace count value)

/-- The parts of a written number: the digits before and behind its point, and the
exponent, if it has one. -/
structure NumberParts where
  whole : List Char
  fraction : List Char
  exponent : Option Int

namespace NumberParts

def exponentText : Option Int → List Char
  | none => []
  | some exponent =>
      'E' :: (if exponent < 0 then '-' else '+') :: Nat.toDigits 10 exponent.natAbs

def fractionText (fraction : List Char) : List Char :=
  if fraction.isEmpty then [] else '.' :: fraction

def text (parts : NumberParts) : List Char :=
  parts.whole ++ fractionText parts.fraction ++ exponentText parts.exponent

end NumberParts

/-- `php_gcvt`, for the number `0.digits * 10 ^ point`: with an exponent if the point is
far from the digits. -/
def gcvt (precision : Nat) (digits : List Char) (point : Int) : NumberParts :=
  if point < -3 ∨ precision < point then
    ⟨digits.take 1, if digits.length ≤ 1 then ['0'] else digits.drop 1, some (point - 1)⟩
  else if point ≤ 0 then ⟨['0'], List.replicate point.natAbs '0' ++ digits, none⟩
  else
    ⟨digits.take point.toNat ++ List.replicate (point.toNat - digits.length) '0',
      digits.drop point.toNat, none⟩

/-- `(string) $value` of a `float`: fourteen significant digits, without the zeros they
end in. -/
def floatText (value : ℚ) : String :=
  if value = 0 then "0"
  else
    let digits := Nat.toDigits 10 (significand 14 value).toNat
    let parts := gcvt 14 (digits.rdropWhile (· = '0')) (digits.length + lastPlace 14 value)
    String.ofList ((if value < 0 then ['-'] else []) ++ parts.text)

example : ["0", "16", "-500", "5800.5", "0.3333333333333", "1.0E-5", "1.0E+25"] =
    [0, 16, -500, 58005 / 10, 3333333333333 / 10 ^ 13, 1 / 10 ^ 5, 10 ^ 25].map floatText := by
  decide +kernel

/-! ## Decoded numbers -/

/-- A number that is held as an `int`. -/
abbrev FitsInt (value : ℚ) : Prop :=
  value.den = 1 ∧ -2 ^ 63 ≤ value ∧ value < 2 ^ 63

/-- `(string)` of a decoded number. An integral one is taken for an `int`, however it was
written. -/
def numberText (value : ℚ) : String :=
  if FitsInt value then toString value.num
  else
    match Double.ofRat value with
    | .infinite negative => if negative then "-INF" else "INF"
    -- Only the text shows the sign of a zero.
    | .finite rounded => if rounded = 0 ∧ value < 0 then "-0" else floatText rounded

example : ["1.0E-20", "123456789012.35", "-0.5", "9.2233720368548E+18", "0", "-INF"] =
    [1 / 10 ^ 20, 123456789012345 / 1000, -1 / 2, 2 ^ 63, 1 / 10 ^ 400, -10 ^ 400].map
      numberText := by
  decide +kernel

end TaxGateway.Php
