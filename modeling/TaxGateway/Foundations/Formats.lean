import TaxGateway.Foundations.NumberText

/-!
Contract: the text formats of PHP's standard library that PHP web code writes
and reads.

Owns:
- the rounding of halves away from zero;
- `number_format` with a dot and no thousands separator, rounding half away
  from zero;
- `urlencode`;
- `DateTime::createFromFormat` for `d/m/Y H:i:s`, `Y-m-d`, `Ymd` and `YmdHis`, with
  its overflow rule, and the `format` patterns written from such a date;
- the element reads of SimpleXML (first child of a name, its text).

Does not own: XML parsing, locales, or time zones.
-/

namespace TaxGateway.Php

/-! ## Decimals -/

/-- Nearest integer, halves away from zero: the rounding of `round()` and
`number_format`. -/
def roundHalfAway (value : ℚ) : Int :=
  if 0 ≤ value then ⌊value + 1 / 2⌋ else -⌊-value + 1 / 2⌋

/-- `round($value, $places)`. -/
def roundTo (places : Nat) (value : ℚ) : ℚ :=
  (roundHalfAway (value * 10 ^ places) : ℚ) / 10 ^ places

/-- Decimal digits, padded with zeros on the left. -/
def paddedDigits (width value : Nat) : List Char :=
  let digits := Nat.toDigits 10 value
  List.replicate (width - digits.length) '0' ++ digits

/-- The text of `units / 10 ^ places`. A value that rounds to zero has no
sign. -/
def decimalText (places : Nat) (units : Int) : String :=
  let sign : List Char := if units < 0 then ['-'] else []
  let whole := Nat.toDigits 10 (units.natAbs / 10 ^ places)
  let fraction := paddedDigits places (units.natAbs % 10 ^ places)
  String.ofList (sign ++ whole ++ if places = 0 then [] else '.' :: fraction)

/-- `number_format($value, $places, '.', '')`. -/
def numberFormat (places : Nat) (value : ℚ) : String :=
  decimalText places (roundHalfAway (value * 10 ^ places))

/-- `(float) $text`: the leading number, `0` when there is none. -/
def floatval (text : String) : ℚ :=
  ((numericPrefix text).map Prod.fst).getD 0

/-- A value passed to a `string` parameter, or put into a string. -/
def Value.toText : Value → Except Throwable String
  | .str text => .ok text
  | .num value => .ok (numberText value)
  | .bool flag => .ok (if flag then "1" else "")
  | .null => .error (.error "Argument must be of type string, null given")
  | .arr _ => .error (.error "Argument must be of type string, array given")

/-- Commas between groups of three digits, the digits given last first. -/
def groupThousands : List Char → List Char
  | a :: b :: c :: d :: rest => a :: b :: c :: ',' :: groupThousands (d :: rest)
  | digits => digits

/-- `number_format($value, 2)`, with the default separators. -/
def numberFormatGrouped (value : ℚ) : String :=
  let text := (numberFormat 2 value).toList
  let sign := text.takeWhile (· = '-')
  let whole := (text.dropWhile (· = '-')).takeWhile (· ≠ '.')
  let fraction := text.dropWhile (· ≠ '.')
  String.ofList (sign ++ (groupThousands whole.reverse).reverse ++ fraction)

/-! ## URLs -/

/-- Upper-case hexadecimal digit. -/
def hexDigit (value : Nat) : Char :=
  if value < 10 then Char.ofNat (48 + value) else Char.ofNat (55 + value)

/-- Bytes `urlencode` leaves alone: letters, digits, `-`, `_` and `.`. -/
def isUrlSafe (byte : UInt8) : Bool :=
  let c := Char.ofNat byte.toNat
  c.isAlphanum && byte.toNat < 128 || [45, 46, 95].contains byte.toNat

def urlencodeByte (byte : UInt8) : List Char :=
  if isUrlSafe byte then [Char.ofNat byte.toNat]
  else if byte.toNat = 32 then ['+']
  else ['%', hexDigit (byte.toNat / 16), hexDigit (byte.toNat % 16)]

/-- `urlencode($text)`, byte by byte over the UTF-8 form. -/
def urlencode (text : String) : String :=
  String.ofList ((text.toList.flatMap String.utf8EncodeChar).flatMap urlencodeByte)

/-! ## Dates -/

/-- A calendar date and time of day. -/
structure DateTime where
  year : Int
  month : Nat
  day : Nat
  hour : Nat
  minute : Nat
  second : Nat
deriving DecidableEq, Repr

namespace DateTime

def isLeap (year : Int) : Bool :=
  year % 4 = 0 && (year % 100 ≠ 0 || year % 400 = 0)

def daysInMonth (year : Int) (month : Nat) : Nat :=
  if month = 2 then (if isLeap year then 29 else 28)
  else if [4, 6, 9, 11].contains month then 30
  else 31

/-- Move whole months that overflow into the year; month `0` is the December
before. -/
def carryMonths (year : Int) (month : Nat) : Int × Nat :=
  if month = 0 then (year - 1, 12)
  else (year + ((month - 1) / 12 : Nat), (month - 1) % 12 + 1)

/-- Move days past the end of the month into the months after it. Two written
digits and the hours carried over never pass more than four month ends. -/
def carryDays : Nat → Int × Nat → Nat → Int × Nat × Nat
  | 0, (year, month), day => (year, month, day)
  | fuel + 1, (year, month), day =>
      if day ≤ daysInMonth year month then (year, month, day)
      else
        carryDays fuel (carryMonths year (month + 1)) (day - daysInMonth year month)

/-- Day `0` is the last day of the month before. -/
def carryZeroDay (year : Int) (month day : Nat) : (Int × Nat) × Nat :=
  if day = 0 then
    let before := carryMonths year (month - 1)
    (before, daysInMonth before.1 before.2)
  else ((year, month), day)

/-- The date PHP makes of the numbers it read: what exceeds its unit is carried
into the next one, never refused. -/
def ofFields (year month day hour minute second : Nat) : DateTime :=
  let minutes := minute + second / 60
  let hours := hour + minutes / 60
  let calendar := carryMonths year month
  let start := carryZeroDay calendar.1 calendar.2 day
  let date := carryDays 6 start.1 (start.2 + hours / 24)
  ⟨date.1, date.2.1, date.2.2, hours % 24, minutes % 60, second % 60⟩

/-- A number of at least `least` and at most `most` digits at the front. -/
def readNumber (least most : Nat) (text : List Char) : Option (Nat × List Char) :=
  let digits := (text.take most).takeWhile Char.isDigit
  if digits.length < least then none
  else some (digitsValue digits, text.drop digits.length)

def readChar (expected : Char) : List Char → Option (List Char)
  | [] => none
  | c :: rest => if c = expected then some rest else none

/-- `DateTime::createFromFormat('d/m/Y H:i:s', $text)`; `none` is PHP's
`false`. -/
def createFromFormat (text : String) : Option DateTime := do
  let (day, rest) ← readNumber 1 2 text.toList
  let rest ← readChar '/' rest
  let (month, rest) ← readNumber 1 2 rest
  let rest ← readChar '/' rest
  let (year, rest) ← readNumber 1 4 rest
  let rest := rest.dropWhile fun c => c = ' ' || c = '\t'
  let (hour, rest) ← readNumber 1 2 rest
  let rest ← readChar ':' rest
  let (minute, rest) ← readNumber 2 2 rest
  let rest ← readChar ':' rest
  let (second, rest) ← readNumber 2 2 rest
  if rest.isEmpty then some (ofFields year month day hour minute second) else none

/-- `DateTime::createFromFormat('Y-m-d', $text)`. The time of day, which the
source never writes, is set to midnight. -/
def createFromYmd (text : String) : Option DateTime := do
  let (year, rest) ← readNumber 1 4 text.toList
  let rest ← readChar '-' rest
  let (month, rest) ← readNumber 1 2 rest
  let rest ← readChar '-' rest
  let (day, rest) ← readNumber 1 2 rest
  if rest.isEmpty then some (ofFields year month day 0 0 0) else none

/-- `DateTime::createFromFormat('!Ymd', $text)`. -/
def createFromYmdDigits (text : String) : Option DateTime := do
  let (year, rest) ← readNumber 1 4 text.toList
  let (month, rest) ← readNumber 1 2 rest
  let (day, rest) ← readNumber 1 2 rest
  if rest.isEmpty then some (ofFields year month day 0 0 0) else none

/-- `DateTime::createFromFormat('!YmdHis', $text)`. -/
def createFromYmdHisDigits (text : String) : Option DateTime := do
  let (year, rest) ← readNumber 1 4 text.toList
  let (month, rest) ← readNumber 1 2 rest
  let (day, rest) ← readNumber 1 2 rest
  let (hour, rest) ← readNumber 1 2 rest
  let (minute, rest) ← readNumber 2 2 rest
  let (second, rest) ← readNumber 2 2 rest
  if rest.isEmpty then some (ofFields year month day hour minute second) else none

/-- Two digits of a date part. -/
def pad2 (value : Nat) : String := String.ofList (paddedDigits 2 value)

/-- The `Y` pattern. -/
def yearText (year : Int) : String :=
  (if year < 0 then "-" else "") ++ String.ofList (paddedDigits 4 year.natAbs)

/-- `format('d/m/Y')`. -/
def formatDate (date : DateTime) : String :=
  pad2 date.day ++ "/" ++ pad2 date.month ++ "/" ++ yearText date.year

/-- `format('H:i:s')`. -/
def formatTime (date : DateTime) : String :=
  pad2 date.hour ++ ":" ++ pad2 date.minute ++ ":" ++ pad2 date.second

/-- `format('dmY')`. -/
def formatCompactDate (date : DateTime) : String :=
  pad2 date.day ++ pad2 date.month ++ yearText date.year

/-- `format('Ymd')`. -/
def formatYmd (date : DateTime) : String :=
  yearText date.year ++ pad2 date.month ++ pad2 date.day

/-- `format('Y-m-d')`. -/
def formatDashedDate (date : DateTime) : String :=
  yearText date.year ++ "-" ++ pad2 date.month ++ "-" ++ pad2 date.day

/-- `format('YmdHis')`. -/
def formatYmdHis (date : DateTime) : String :=
  date.formatYmd ++ pad2 date.hour ++ pad2 date.minute ++ pad2 date.second

/-- `format('Hi')`. -/
def formatHourMinute (date : DateTime) : String :=
  pad2 date.hour ++ pad2 date.minute

example : createFromFormat "31/04/2024 14:30:25" = some ⟨2024, 5, 1, 14, 30, 25⟩ := by
  decide

end DateTime

/-! ## XML elements -/

/-- A parsed element: its name, the text directly inside it, and its child
elements in document order. -/
inductive Xml where
  | element (name text : String) (children : List Xml)
deriving Repr

namespace Xml

def name : Xml → String
  | .element name _ _ => name

/-- `(string) $element`. -/
def text : Xml → String
  | .element _ text _ => text

def children : Xml → List Xml
  | .element _ _ children => children

/-- `$element->name`, `none` when there is no such child. -/
def child? (element : Xml) (name : String) : Option Xml :=
  element.children.find? fun child => child.name = name

/-- `(string) ($element->name ?? null)`. -/
def childText (element : Xml) (name : String) : String :=
  ((element.child? name).map Xml.text).getD ""

/-- `(string) ($element->name ?? fallback)`. -/
def childTextOr (element : Xml) (name fallback : String) : String :=
  ((element.child? name).map Xml.text).getD fallback

/-- `(int) ($element->name ?? 0)`. -/
def childInt (element : Xml) (name : String) : Int :=
  ((element.child? name).map fun child => intval child.text).getD 0

/-- `(float) ($element->name ?? 0.0)`. -/
def childFloat (element : Xml) (name : String) : ℚ :=
  ((element.child? name).map fun child => floatval child.text).getD 0

end Xml

end TaxGateway.Php
