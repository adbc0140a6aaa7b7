import Mathlib

/-!
Contract: the PHP values a JSON document decodes to, and the coercions PHP code
applies to them.

Owns:
- thrown values, split as PHP splits them into `\Exception` and `\Error`;
- array reads (`$a[k]`, `$a[k] ?? d`), `empty`, `is_numeric`;
- numeric strings, and the weak-mode coercions to a number and to an `int`.

Does not own: floating-point rounding. `int` and `float` are one constructor
over the rationals, so a JSON round trip (which turns `10.0` into `10`) is the
identity on values.
-/

namespace TaxGateway.Php

/-- What a PHP statement can throw. `catch (\Exception $e)` takes the first
kind only; `TypeError` and failed method calls are of the second. -/
inductive Throwable where
  | exception (message : String)
  | error (message : String)
deriving DecidableEq, Repr

/-- `Throwable::getMessage()`. -/
def Throwable.message : Throwable → String
  | .exception message => message
  | .error message => message

/-- The test made by `catch (\Exception $e)`. -/
def Throwable.isException : Throwable → Bool
  | .exception _ => true
  | .error _ => false

@[simp] theorem ok_bind {ε α β : Type} (value : α) (next : α → Except ε β) :
    ((.ok value : Except ε α) >>= next) = next value := rfl

/-- Sequenced code returns exactly when both parts do. -/
theorem bind_eq_ok {ε α β : Type} {first : Except ε α} {next : α → Except ε β}
    {result : β} :
    (first >>= next) = .ok result ↔
      ∃ value, first = .ok value ∧ next value = .ok result := by
  cases first with
  | error thrown => simp [bind, Except.bind]
  | ok value => simp [bind, Except.bind]

@[simp] theorem mapError_eq_ok_iff {ε ε' α : Type} {change : ε → ε'} {outcome : Except ε α}
    {result : α} : outcome.mapError change = .ok result ↔ outcome = .ok result := by
  cases outcome <;> simp [Except.mapError]

theorem eq_ok_of_returns {ε α : Type} {outcome : Except ε α}
    (returns : outcome.toOption.isSome = true) :
    outcome = .ok (outcome.toOption.get returns) := by
  cases outcome with
  | error thrown => contradiction
  | ok value => rfl

/-- A test on what is returned, where it can be evaluated. -/
theorem exists_ok_of_any {ε α : Type} {outcome : Except ε α} {P : α → Prop} [DecidablePred P]
    (passes : (outcome.toOption.any fun value => P value) = true) :
    ∃ value, outcome = .ok value ∧ P value := by
  cases outcome with
  | error thrown => cases passes
  | ok value => exact ⟨value, rfl, of_decide_eq_true passes⟩

/-- A mapping that returns has returned for each member, in order. -/
theorem mapM_eq_ok {ε α β : Type} {transform : α → Except ε β} {members : List α}
    {results : List β} (mapped : members.mapM transform = .ok results) :
    List.Forall₂ (fun member result => transform member = .ok result) members results := by
  induction members generalizing results with
  | nil =>
      obtain rfl := Except.ok.inj mapped
      exact .nil
  | cons head tail inductionHypothesis =>
      rw [List.mapM_cons] at mapped
      obtain ⟨first, firstOk, mapped⟩ := bind_eq_ok.mp mapped
      obtain ⟨others, othersOk, returned⟩ := bind_eq_ok.mp mapped
      obtain rfl := Except.ok.inj returned
      exact .cons firstOk (inductionHypothesis othersOk)

theorem exists_of_mapM_eq_ok {ε α β : Type} {transform : α → Except ε β}
    {members : List α} {results : List β} (mapped : members.mapM transform = .ok results)
    {member : α} (isMember : member ∈ members) :
    ∃ result ∈ results, transform member = .ok result := by
  have pairs := mapM_eq_ok mapped
  induction pairs with
  | nil => simp at isMember
  | cons first others inductionHypothesis =>
      rw [List.mapM_cons, first, ok_bind] at mapped
      obtain ⟨_, othersOk, returned⟩ := bind_eq_ok.mp mapped
      obtain ⟨-, rfl⟩ := List.cons.inj (Except.ok.inj returned)
      rcases List.mem_cons.mp isMember with rfl | inTail
      · exact ⟨_, by simp, first⟩
      · obtain ⟨result, isResult, same⟩ := inductionHypothesis othersOk inTail
        exact ⟨result, List.mem_cons_of_mem _ isResult, same⟩

/-- Every result of a mapping is that of a member. -/
theorem exists_source_of_mapM_eq_ok {ε α β : Type} {transform : α → Except ε β}
    {members : List α} {results : List β} (mapped : members.mapM transform = .ok results)
    {result : β} (isResult : result ∈ results) :
    ∃ member ∈ members, transform member = .ok result := by
  have pairs := mapM_eq_ok mapped
  clear mapped
  induction pairs with
  | nil => simp at isResult
  | cons first others inductionHypothesis =>
      rcases List.mem_cons.mp isResult with rfl | inTail
      · exact ⟨_, by simp, first⟩
      · obtain ⟨member, isMember, same⟩ := inductionHypothesis inTail
        exact ⟨member, List.mem_cons_of_mem _ isMember, same⟩

/-- A mapping returns exactly when it returns for each member. -/
theorem mapM_returns_iff {ε α β : Type} {transform : α → Except ε β} {members : List α} :
    (∃ results, members.mapM transform = .ok results) ↔
      ∀ member ∈ members, ∃ result, transform member = .ok result := by
  constructor
  · rintro ⟨results, mapped⟩ member isMember
    obtain ⟨result, -, returned⟩ := exists_of_mapM_eq_ok mapped isMember
    exact ⟨result, returned⟩
  · intro each
    induction members with
    | nil => exact ⟨[], rfl⟩
    | cons head tail inductionHypothesis =>
        obtain ⟨first, firstOk⟩ := each head (by simp)
        obtain ⟨others, othersOk⟩ := inductionHypothesis fun member isMember =>
          each member (List.mem_cons_of_mem head isMember)
        refine ⟨first :: others, ?_⟩
        rw [List.mapM_cons, firstOk, ok_bind, othersOk]
        rfl

/-- What every round of a loop keeps, the loop keeps. -/
theorem foldlM_invariant {ε α σ : Type} {round : σ → α → Except ε σ} {Invariant : σ → Prop}
    (keeps : ∀ state member state', Invariant state → round state member = .ok state' →
      Invariant state')
    {members : List α} {state state' : σ} (initially : Invariant state)
    (ran : members.foldlM round state = .ok state') : Invariant state' := by
  induction members generalizing state with
  | nil =>
      obtain rfl := Except.ok.inj ran
      exact initially
  | cons head tail inductionHypothesis =>
      rw [List.foldlM_cons] at ran
      obtain ⟨between, first, others⟩ := bind_eq_ok.mp ran
      exact inductionHypothesis (keeps state head between initially first) others

section Fields

variable {α β : Type} [BEq α] [LawfulBEq α] {fields : List (α × β)} {key : α} {value : β}

theorem lookup_eq_none_of_notMem (absent : key ∉ fields.map Prod.fst) :
    fields.lookup key = none := by
  rw [List.lookup_eq_none_iff]
  intro field member
  have different : key ≠ field.1 := fun same =>
    absent (same ▸ List.mem_map_of_mem member)
  simpa using different

theorem mem_of_lookup_eq_some (found : fields.lookup key = some value) :
    (key, value) ∈ fields := by
  obtain ⟨front, back, split, -⟩ := List.lookup_eq_some_iff.mp found
  rw [split]
  simp

/-- A key that is there is looked up with success. -/
theorem exists_lookup_of_named (named : key ∈ fields.map Prod.fst) :
    ∃ value, fields.lookup key = some value ∧ (key, value) ∈ fields := by
  cases found : fields.lookup key with
  | some value => exact ⟨value, rfl, mem_of_lookup_eq_some found⟩
  | none =>
      rw [List.lookup_eq_none_iff] at found
      obtain ⟨field, member, rfl⟩ := List.mem_map.mp named
      simpa using found field member

/-- Where no key is repeated, every field is found under its key. -/
theorem lookup_eq_some_of_mem (distinct : (fields.map Prod.fst).Nodup)
    (member : (key, value) ∈ fields) : fields.lookup key = some value := by
  obtain ⟨front, back, rfl⟩ := List.append_of_mem member
  rw [List.map_append, List.map_cons, List.nodup_append] at distinct
  refine List.lookup_eq_some_iff.mpr ⟨front, back, rfl, ?_⟩
  intro earlier isEarlier
  have different := distinct.2.2 earlier.1 (List.mem_map_of_mem isEarlier) key (by simp)
  simpa using different.symm

end Fields

/-- An array key. A string that spells a canonical integer is an `int` key. -/
inductive Key where
  | int (value : Int)
  | str (text : String)
deriving DecidableEq, Repr

inductive Value where
  | null
  | bool (flag : Bool)
  | num (value : ℚ)
  | str (text : String)
  | arr (entries : List (Key × Value))
deriving Repr

/-- The entries of an array, in order. -/
abbrev Entries := List (Key × Value)

namespace Value

/-- `isset`-style read of a string key: only arrays have entries. -/
def index (value : Value) (key : String) : Option Value :=
  match value with
  | .arr entries => entries.lookup (.str key)
  | _ => none

/-- `$value[key] ?? fallback`: a missing key and a `null` both give the
fallback, silently. -/
def coalesce (value : Value) (key : String) (fallback : Value) : Value :=
  match value.index key with
  | none => fallback
  | some .null => fallback
  | some found => found

theorem coalesce_of_index_none {value fallback : Value} {key : String}
    (missing : value.index key = none) :
    value.coalesce key fallback = fallback := by
  simp [coalesce, missing]

theorem coalesce_of_index_some {value found fallback : Value} {key : String}
    (present : value.index key = some found) (notNull : found ≠ .null) :
    value.coalesce key fallback = found := by
  unfold coalesce
  rw [present]
  cases found with
  | null => exact absurd rfl notNull
  | bool _ | num _ | str _ | arr _ => rfl

/-- `empty($value)`. -/
def isEmpty : Value → Bool
  | .null => true
  | .bool flag => !flag
  | .num value => value = 0
  | .str text => text = "" || text = "0"
  | .arr entries => entries.isEmpty

def isArray : Value → Bool
  | .arr _ => true
  | _ => false

/-- `$entries[$key] = $value` on a text key. -/
def assignKey : Entries → String → Value → Entries
  | [], key, value => [(.str key, value)]
  | entry :: rest, key, value =>
      if entry.1 = .str key then (entry.1, value) :: rest else entry :: assignKey rest key value

/-- `array_merge`: a later value replaces an earlier one under the same text key;
integer keys are numbered anew. -/
def arrayMerge (first second : Entries) : Entries :=
  (first ++ second).foldl
    (fun merged entry =>
      match entry.1 with
      | .str key => assignKey merged key entry.2
      | .int _ =>
          let numbered := merged.filter fun earlier => earlier.1 matches .int _
          merged ++ [(.int numbered.length, entry.2)])
    []

theorem arr_ne_null (entries : Entries) : Value.arr entries ≠ .null := by
  simp

@[simp] theorem isArray_str (text : String) : (Value.str text).isArray = false := rfl

@[simp] theorem isArray_num (value : ℚ) : (Value.num value).isArray = false := rfl

end Value

/-! ## Numeric strings -/

/-- Whitespace a numeric string may start and end with. -/
def isSpace (c : Char) : Bool :=
  [9, 10, 11, 12, 13, 32].contains c.toNat

def digitsValue (digits : List Char) : Nat :=
  digits.foldl (fun acc digit => acc * 10 + (digit.toNat - 48)) 0

/-- An optional sign. -/
def splitSign : List Char → Int × List Char
  | '-' :: rest => (-1, rest)
  | '+' :: rest => (1, rest)
  | rest => (1, rest)

/-- An optional exponent. It is read only if a digit follows. -/
def splitExponent : List Char → Int × List Char
  | [] => (0, [])
  | c :: rest =>
      if c = 'e' ∨ c = 'E' then
        let signed := splitSign rest
        let digits := signed.2.takeWhile Char.isDigit
        if digits.isEmpty then (0, c :: rest)
        else (signed.1 * digitsValue digits, signed.2.dropWhile Char.isDigit)
      else (0, c :: rest)

/-- The part after the decimal point, if there is one. -/
def splitFraction : List Char → List Char × List Char
  | '.' :: rest => (rest.takeWhile Char.isDigit, rest.dropWhile Char.isDigit)
  | rest => ([], rest)

/-- The number a string starts with, and what follows it. -/
def numericPrefix (text : String) : Option (ℚ × List Char) :=
  let signed := splitSign (text.toList.dropWhile isSpace)
  let whole := signed.2.takeWhile Char.isDigit
  let fractional := splitFraction (signed.2.dropWhile Char.isDigit)
  if whole.isEmpty && fractional.1.isEmpty then none
  else
    let exponent := splitExponent fractional.2
    let magnitude : ℚ :=
      (digitsValue (whole ++ fractional.1) : ℚ) / 10 ^ fractional.1.length
    some ((signed.1 : ℚ) * magnitude * (10 : ℚ) ^ exponent.1, exponent.2)

/-- `is_numeric` on strings: nothing but whitespace after the number. -/
def numericString (text : String) : Option ℚ :=
  match numericPrefix text with
  | some (value, rest) => if rest.all isSpace then some value else none
  | none => none

/-- `is_numeric($value)`. -/
def Value.isNumeric : Value → Bool
  | .num _ => true
  | .str text => (numericString text).isSome
  | _ => false

/-- A string used as a number: a leading number raises a warning (which the
framework turns into an exception), anything else a `TypeError`. -/
def stringToNumber (text : String) : Except Throwable ℚ :=
  match numericString text, numericPrefix text with
  | some value, _ => .ok value
  | none, some _ => .error (.exception "A non-numeric value encountered")
  | none, none => .error (.error "Unsupported operand types: string")

/-- A value used as a number: an arithmetic operand, or the argument of a
`float` parameter of an internal function. -/
def Value.toNumber : Value → Except Throwable ℚ
  | .null => .ok 0
  | .bool flag => .ok (if flag then 1 else 0)
  | .num value => .ok value
  | .str text => stringToNumber text
  | .arr _ => .error (.error "Unsupported operand types: array")

theorem Value.toNumber_ok_of_isNumeric {value : Value}
    (numeric : value.isNumeric = true) : ∃ number, value.toNumber = .ok number := by
  cases value with
  | num number => exact ⟨number, rfl⟩
  | str text =>
      obtain ⟨number, parsed⟩ := Option.isSome_iff_exists.mp numeric
      exact ⟨number, by simp [toNumber, stringToNumber, parsed]⟩
  | null | bool _ | arr _ => simp [isNumeric] at numeric

/-- A value that can stand for an amount: a number, a numeric text, a truth value or
`null`. -/
def Value.IsAmount (value : Value) : Prop :=
  value = .null ∨ (∃ flag, value = .bool flag) ∨ value.isNumeric = true

theorem Value.toNumber_returns_iff {value : Value} :
    (∃ number, value.toNumber = .ok number) ↔ value.IsAmount := by
  cases value with
  | null => simp [toNumber, IsAmount]
  | bool flag => simp [toNumber, IsAmount]
  | num number => simp [toNumber, IsAmount, isNumeric]
  | arr entries => simp [toNumber, IsAmount, isNumeric]
  | str text =>
      simp only [toNumber, stringToNumber, IsAmount, isNumeric, reduceCtorEq, exists_false,
        false_or]
      cases numericString text with
      | some number => simp
      | none => cases numericPrefix text <;> simp

/-- A value that is `empty` is zero whenever it is a number at all. -/
theorem Value.eq_zero_of_isEmpty {value : Value} {number : ℚ}
    (isNumber : value.toNumber = .ok number) (empty : value.isEmpty = true) :
    number = 0 := by
  cases value with
  | null => simpa [toNumber] using isNumber.symm
  | bool flag =>
      cases flag with
      | false => simpa [toNumber] using isNumber.symm
      | true => simp [isEmpty] at empty
  | num value =>
      have zero : value = 0 := by simpa [isEmpty] using empty
      simpa [toNumber, zero] using isNumber.symm
  | str text =>
      have blankOrZero : text = "" ∨ text = "0" := by simpa [isEmpty] using empty
      rcases blankOrZero with rfl | rfl
      · simp [toNumber, stringToNumber, numericString, numericPrefix, splitSign,
          splitFraction] at isNumber
      · simpa [toNumber, stringToNumber, numericString, numericPrefix, splitSign,
          splitFraction, splitExponent, isSpace, digitsValue] using isNumber.symm
  | arr entries => simp [toNumber] at isNumber

/-- `(int) $text`: the leading number cut at the decimal point and held in the
64-bit range, `0` when there is none. -/
def intval (text : String) : Int :=
  match numericPrefix text with
  | some (value, _) =>
      max (-2 ^ 63) (min (2 ^ 63 - 1) (value.num.tdiv value.den))
  | none => 0

/-- A number cut at the decimal point, if that is a 64-bit integer. -/
def truncate? (value : ℚ) : Option Int :=
  let whole := value.num.tdiv value.den
  if -2 ^ 63 ≤ whole ∧ whole < 2 ^ 63 then some whole else none

/-- An array key passed to an `int` parameter. A numeric string is converted
(a fraction is cut off with a deprecation notice, which is only logged). -/
def Key.toInt (parameter : String) : Key → Except Throwable Int
  | .int value => .ok value
  | .str text =>
      match (numericString text).bind truncate?, numericPrefix text with
      | some whole, _ => .ok whole
      | none, some (_, rest) =>
          if rest.all isSpace then
            .error (.error (parameter ++ " must be of type int, string given"))
          else .error (.exception "A non-numeric value encountered")
      | none, none => .error (.error (parameter ++ " must be of type int, string given"))

end TaxGateway.Php
