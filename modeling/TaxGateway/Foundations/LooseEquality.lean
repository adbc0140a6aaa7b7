import TaxGateway.Foundations.Formats

/-!
Contract: PHP's `==` between a decoded value and a text, and the non-strict
`in_array` made of it.

Owns:
- how a numeric string is held: a 64-bit integer, or a double;
- `==` between two strings, which compares numbers when both are numeric;
- `==` between another value and a string;
- when `==` is plain equality: as soon as one of two strings is not numeric.

Does not own: `==` between other kinds of values.
-/

namespace TaxGateway.Php

/-! ## Numeric strings -/

/-- How PHP holds the number a numeric string spells. An integer outside of the
64-bit range becomes a double, and is remembered as such. -/
inductive NumericString where
  | int (value : Int)
  | overflow (value : ℚ)
  | float (value : ℚ)
deriving DecidableEq, Repr

/-- What follows the sign and the first digits of a text. -/
def afterDigits (text : String) : List Char :=
  (splitSign (text.toList.dropWhile isSpace)).2.dropWhile Char.isDigit

/-- The number of a numeric string. `-9223372036854775808` is in range only with
nothing behind it. -/
def numericKind (text : String) : Option NumericString :=
  (numericString text).map fun value =>
    let rest := afterDigits text
    if rest.all isSpace then
      if -2 ^ 63 < value ∧ value < 2 ^ 63 ∨ value = -2 ^ 63 ∧ rest = [] then .int value.num
      else .overflow value
    else .float value

def NumericString.toDouble : NumericString → Double
  | .int value => .ofRat value
  | .overflow value | .float value => .ofRat value

def NumericString.isInt : NumericString → Bool
  | .int _ => true
  | .overflow _ | .float _ => false

def NumericString.isOverflow : NumericString → Bool
  | .overflow _ => true
  | .int _ | .float _ => false

/-- `==` between the numbers of two numeric strings; `none` when PHP falls back
to comparing the texts: two doubles that overflowed the same way. -/
def NumericString.compare (left right : NumericString) : Option Bool :=
  if left.isInt && right.isInt then some (left = right)
  else if left.isInt && right.isOverflow || left.isOverflow && right.isInt then some false
  else if left.isOverflow && right.isOverflow && left.toDouble = right.toDouble then none
  else if left.toDouble = right.toDouble && left.toDouble.isInfinite then none
  else some (left.toDouble = right.toDouble)

/-- `$left == $right` for two strings. -/
def looseEqText (left right : String) : Bool :=
  match numericKind left, numericKind right with
  | some leftNumber, some rightNumber =>
      (leftNumber.compare rightNumber).getD (left = right)
  | _, _ => left = right

/-- A text that spells no number is loosely equal to itself only. -/
theorem looseEqText_of_not_numeric {left right : String} (plain : numericString left = none) :
    looseEqText left right = (left = right : Bool) := by
  simp [looseEqText, numericKind, plain]

theorem looseEqText_self (text : String) : looseEqText text text = true := by
  unfold looseEqText
  cases kind : numericKind text with
  | none => simp
  | some number =>
      cases number with
      | int value => simp [NumericString.compare, NumericString.isInt]
      | overflow value | float value =>
          by_cases infinite : (Double.ofRat value).isInfinite <;>
            simp [NumericString.compare, NumericString.isInt, NumericString.isOverflow,
              NumericString.toDouble, infinite]

/-! ## Other values -/

/-- The number of a JSON number: an `int` when it is one and fits. -/
def numberKind (value : ℚ) : NumericString :=
  if FitsInt value then .int value.num else .float value

/-- `$value == $text`. A number is compared as a number with a numeric string,
else as a text. -/
def looseEq (value : Value) (text : String) : Bool :=
  match value with
  | .null => text = ""
  | .bool flag => flag = !(Value.str text).isEmpty
  | .num number =>
      match numericKind text with
      | some textNumber =>
          if (numberKind number).isInt && textNumber.isInt then numberKind number = textNumber
          else (numberKind number).toDouble = textNumber.toDouble
      | none => numberText number = text
  | .str other => looseEqText other text
  | .arr _ => false

/-- `in_array($value, $texts)`. -/
def inArray (value : Value) (texts : List String) : Bool :=
  texts.any (looseEq value)

theorem inArray_of_mem {text : String} {texts : List String} (member : text ∈ texts) :
    inArray (.str text) texts = true :=
  List.any_eq_true.mpr ⟨text, member, looseEqText_self text⟩

example : looseEqText "1000" "1e3" = true := by decide +kernel

example : looseEqText "9007199254740993" "9007199254740992.0" = true := by decide +kernel

example : looseEqText "9223372036854775808" "9223372036854775809" = false := by
  decide +kernel

/-- `explode($separator, $text)`. -/
def explode (separator : Char) (text : String) : List String :=
  (text.toList.splitOn separator).map String.ofList

end TaxGateway.Php
