import TaxGateway.Foundations.Formats

/-!
Contract: the request validation of the web framework, over decoded JSON.

Owns:
- `TrimStrings` and `ConvertEmptyStringsToNull`, applied where a field is read;
- the rules the request classes use, with the framework's treatment of absent
  fields, `null` and `nullable`;
- `validated()`: the fields named by a rule, a nested array reduced to its
  named children and dropped when none of them was given.

Does not own: error messages, or the rules of any one request.
-/

namespace TaxGateway.Validation

open TaxGateway.Php

/-! ## Reading a field -/

/-- Characters `TrimStrings` strips: ASCII whitespace, `NUL`, and the
invisible characters of the framework's list. -/
def isTrimmed (c : Char) : Bool :=
  let n := c.toNat
  [0, 9, 10, 11, 12, 13, 32, 0xA0, 0xAD, 0x34F, 0x61C, 0x115F, 0x1160, 0x17B4,
    0x17B5, 0x180E, 0x202F, 0x205F, 0x2800, 0x3000, 0x3164, 0xFEFF, 0xFFA0,
    0x1D159, 0xE0020].contains n ||
  (0x2000 ≤ n && n ≤ 0x200F) || (0x2060 ≤ n && n ≤ 0x2064) ||
  (0x206A ≤ n && n ≤ 0x206F) || (0x1D173 ≤ n && n ≤ 0x1D17A)

def trim (text : String) : String :=
  String.ofList
    ((text.toList.dropWhile isTrimmed).reverse.dropWhile isTrimmed).reverse

/-- The middleware's effect on one value. Arrays are cleaned where their own
fields are read. -/
def clean : Value → Value
  | .str text => if trim text = "" then .null else .str (trim text)
  | value => value

/-- `$request->input(name)`, `none` when the key is absent. -/
def read (entries : Entries) (name : String) : Option Value :=
  (entries.lookup (.str name)).map clean

/-- The entries under which the children of a value are validated. -/
def fieldsOf : Value → Entries
  | .arr entries => entries
  | _ => []

/-! ## Rules -/

inductive Rule where
  | required
  | nullable
  | string
  | numeric
  | integer
  | boolean
  | array
  | max (bound : ℚ)
  | min (bound : ℚ)
  | oneOf (options : List String)
  /-- `uuid` and the database lookups of `exists`. -/
  | matching (test : String → Bool)
  /-- `date_format`: what is read of the text is written as that text again. -/
  | dateFormat (createFromFormat : String → Option DateTime) (format : DateTime → String)

def Rule.isRequired : Rule → Bool
  | .required => true
  | _ => false

def Rule.isNullable : Rule → Bool
  | .nullable => true
  | _ => false

def Rule.isNumeric : Rule → Bool
  | .numeric | .integer => true
  | _ => false

/-- Rules that no array passes. -/
def Rule.isScalar : Rule → Bool
  | .string | .numeric | .integer | .boolean | .oneOf _ | .matching _ | .dateFormat _ _ => true
  | .required | .nullable | .array | .max _ | .min _ => false

/-- `filter_var($value, FILTER_VALIDATE_INT) !== false`. -/
def isInteger : Value → Bool
  | .num value => value.den = 1 && (truncate? value).isSome
  | .bool flag => flag
  | .str text =>
      let digits := (splitSign text.toList).2
      !digits.isEmpty && digits.all Char.isDigit && (digits.head? ≠ some '0' || digits = ['0']) &&
        ((numericString text).bind truncate?).isSome
  | .null | .arr _ => false

/-- `in_array($value, [true, false, 0, 1, '0', '1'], true)`. -/
def isBoolean : Value → Bool
  | .bool _ => true
  | .num value => value = 0 || value = 1
  | .str text => text = "0" || text = "1"
  | .null | .arr _ => false

def hasDateFormat (createFromFormat : String → Option DateTime) (format : DateTime → String)
    (text : String) : Bool :=
  match createFromFormat text with
  | some date => format date = text
  | none => false

/-- What `min` and `max` measure: the number itself for a numeric field, else
the count of an array or the length of a string. -/
def size (rules : List Rule) : Value → ℚ
  | .arr entries => entries.length
  | .num value => value
  | .str text =>
      if rules.any Rule.isNumeric then (numericString text).getD text.length
      else text.length
  | _ => 0

def Rule.holds (rules : List Rule) (value : Value) : Rule → Bool
  | .required =>
      match value with
      | .null => false
      | .arr entries => !entries.isEmpty
      | _ => true
  | .nullable => true
  | .string =>
      match value with
      | .str _ => true
      | _ => false
  | .numeric => value.isNumeric
  | .integer => isInteger value
  | .boolean => isBoolean value
  | .array => value.isArray
  | .max bound => size rules value ≤ bound
  | .min bound => bound ≤ size rules value
  | .oneOf options =>
      match value with
      | .str text => options.contains text
      | _ => false
  | .matching test =>
      match value with
      | .str text => test text
      | _ => false
  | .dateFormat createFromFormat format =>
      match value with
      | .str text => hasDateFormat createFromFormat format text
      | .num number => hasDateFormat createFromFormat format (numberText number)
      | _ => false

/-- The rules of one attribute against the value read for it. -/
def passes (rules : List Rule) : Option Value → Bool
  | none => !rules.any Rule.isRequired
  | some .null =>
      !rules.any Rule.isRequired &&
        (rules.any Rule.isNullable || rules.all (Rule.holds rules .null))
  | some value => rules.all (Rule.holds rules value)

theorem any_isRequired_iff {rules : List Rule} :
    rules.any Rule.isRequired = true ↔ Rule.required ∈ rules := by
  constructor
  · intro isAny
    obtain ⟨rule, member, isRequired⟩ := List.any_eq_true.mp isAny
    cases rule with
    | required => exact member
    | _ => contradiction
  · intro required
    exact List.any_eq_true.mpr ⟨.required, required, rfl⟩

theorem holds_of_passes {rules : List Rule} {value : Value} {rule : Rule}
    (accepted : passes rules (some value) = true) (notNull : value ≠ .null)
    (member : rule ∈ rules) : rule.holds rules value = true := by
  unfold passes at accepted
  split at accepted
  next absent => contradiction
  next isNull => exact absurd (Option.some.inj isNull) notNull
  next other _ given =>
    obtain rfl := Option.some.inj given
    exact List.all_eq_true.mp accepted rule member

/-- A required attribute that passes was given, and is not `null`. -/
theorem exists_of_passes_required {rules : List Rule} {value : Option Value}
    (accepted : passes rules value = true) (required : Rule.required ∈ rules) :
    ∃ given, value = some given ∧ given ≠ .null := by
  have any : rules.any Rule.isRequired = true := any_isRequired_iff.mpr required
  cases value with
  | none => simp [passes, any] at accepted
  | some given =>
      refine ⟨given, rfl, ?_⟩
      rintro rfl
      simp [passes, any] at accepted

/-- A required string attribute that passes holds a string. -/
theorem str_of_passes_required {rules : List Rule} {value : Option Value}
    (accepted : passes rules value = true) (required : Rule.required ∈ rules)
    (string : Rule.string ∈ rules) : ∃ text, value = some (.str text) := by
  obtain ⟨given, rfl, notNull⟩ := exists_of_passes_required accepted required
  have holds := holds_of_passes accepted notNull string
  cases given with
  | str text => exact ⟨text, rfl⟩
  | null | bool _ | num _ | arr _ => simp [Rule.holds] at holds

/-- No array passes a rule on texts or numbers. -/
theorem isArray_of_passes {rules : List Rule} {value : Value}
    (accepted : passes rules (some value) = true) (scalar : rules.any Rule.isScalar = true) :
    value.isArray = false := by
  obtain ⟨rule, member, isScalar⟩ := List.any_eq_true.mp scalar
  cases value with
  | arr entries =>
      have holds := holds_of_passes accepted (Value.arr_ne_null entries) member
      cases rule <;> simp_all [Rule.isScalar, Rule.holds, Value.isNumeric, isInteger, isBoolean]
  | null | bool _ | num _ | str _ => rfl

/-- A numeric attribute that passes and is neither absent nor `null` is a
number. -/
theorem isNumeric_of_passes {rules : List Rule} {value : Value}
    (accepted : passes rules (some value) = true) (notNull : value ≠ .null)
    (numeric : Rule.numeric ∈ rules) : value.isNumeric = true :=
  holds_of_passes accepted notNull numeric

/-! ## Attributes -/

/-- One attribute with its rules. -/
structure Field where
  name : String
  rules : List Rule

def fieldsPass (fields : List Field) (entries : Entries) : Bool :=
  fields.all fun field => passes field.rules (read entries field.name)

/-- The part of `validated()` that comes from leaf attributes. -/
def validatedFields (fields : List Field) (entries : Entries) : Entries :=
  fields.filterMap fun field =>
    (read entries field.name).map fun value => (.str field.name, value)

/-- A top-level attribute: a leaf, an array with named children (`name.child`),
or an array of such arrays (`name.*.child`). -/
inductive Attribute where
  | leaf (field : Field)
  | keyed (field : Field) (children : List Field)
  | each (field : Field) (children : List Field)

namespace Attribute

def field : Attribute → Field
  | .leaf field | .keyed field _ | .each field _ => field

def name (attr : Attribute) : String := attr.field.name

/-- Do the attribute and its children pass? -/
def accepts (attr : Attribute) (entries : Entries) : Bool :=
  let given := read entries attr.name
  passes attr.field.rules given &&
    match attr with
    | .leaf _ => true
    | .keyed _ children => fieldsPass children (fieldsOf (given.getD .null))
    | .each _ children =>
        (fieldsOf (given.getD .null)).all fun item =>
          fieldsPass children (fieldsOf item.2)

/-- `validated()` on the elements of a `name.*` array. -/
def validatedEach (children : List Field) (items : Entries) : Entries :=
  items.filterMap fun item =>
    let kept := validatedFields children (fieldsOf item.2)
    if kept.isEmpty then none else some (item.1, .arr kept)

/-- An array none of whose named children was given is left out. -/
def arrayOf (entries : Entries) : Option Value :=
  if entries.isEmpty then none else some (.arr entries)

/-- What `validated()` holds under the attribute's name. -/
def validated (attr : Attribute) (entries : Entries) : Option Value :=
  let given := read entries attr.name
  match attr with
  | .leaf _ => given
  | .keyed _ children =>
      arrayOf (validatedFields children (fieldsOf (given.getD .null)))
  | .each _ children =>
      arrayOf (validatedEach children (fieldsOf (given.getD .null)))

end Attribute

/-- All rules of a request. -/
def schemaPasses (schema : List Attribute) (entries : Entries) : Bool :=
  schema.all fun attr => attr.accepts entries

/-- `$request->validated()`. -/
def validatedSchema (schema : List Attribute) (entries : Entries) : Entries :=
  schema.filterMap fun attr =>
    (attr.validated entries).map fun value => (.str attr.name, value)

/-! ## What survives -/

section Named

universe u

variable {α : Type u} (name : α → String) (value : α → Option Value)

private theorem lookup_named_of_notMem {key : String} {members : List α}
    (unnamed : key ∉ members.map name) :
    (members.filterMap fun member =>
      (value member).map fun given => (Key.str (name member), given)).lookup
        (.str key) = none := by
  induction members with
  | nil => rfl
  | cons head tail inductionHypothesis =>
      simp only [List.map_cons, List.mem_cons, not_or] at unnamed
      have tailNone := inductionHypothesis unnamed.2
      have different : (Key.str key == Key.str (name head)) = false := by
        simpa using unnamed.1
      cases given : value head with
      | none => simpa [List.filterMap_cons, given] using tailNone
      | some found =>
          simpa [List.filterMap_cons, given, List.lookup_cons, different] using tailNone

private theorem lookup_named_of_mem {member : α} {members : List α}
    (distinct : (members.map name).Nodup) (isMember : member ∈ members) :
    (members.filterMap fun other =>
      (value other).map fun given => (Key.str (name other), given)).lookup
        (.str (name member)) = value member := by
  induction members with
  | nil => simp at isMember
  | cons head tail inductionHypothesis =>
      rw [List.map_cons, List.nodup_cons] at distinct
      rcases List.mem_cons.mp isMember with rfl | inTail
      · cases given : value member with
        | none =>
            simpa [List.filterMap_cons, given] using
              lookup_named_of_notMem name value distinct.1
        | some found => simp [given]
      · have fromTail := inductionHypothesis distinct.2 inTail
        have different : (Key.str (name member) == Key.str (name head)) = false := by
          have notHead : name member ≠ name head := fun same =>
            distinct.1 (same ▸ List.mem_map_of_mem inTail)
          simpa using notHead
        cases given : value head with
        | none => simpa [List.filterMap_cons, given] using fromTail
        | some found =>
            simpa [List.filterMap_cons, given, List.lookup_cons, different] using fromTail

end Named

/-- A key without a rule does not survive validation. -/
theorem lookup_validatedFields_of_notMem {fields : List Field} {key : String}
    (unnamed : key ∉ fields.map Field.name) (entries : Entries) :
    (validatedFields fields entries).lookup (.str key) = none :=
  lookup_named_of_notMem Field.name (fun field => read entries field.name) unnamed

/-- A key with a rule survives with the value read for it. -/
theorem lookup_validatedFields_of_mem {fields : List Field} {field : Field}
    (distinct : (fields.map Field.name).Nodup) (member : field ∈ fields)
    (entries : Entries) :
    (validatedFields fields entries).lookup (.str field.name) =
      read entries field.name :=
  lookup_named_of_mem Field.name (fun field => read entries field.name) distinct member

theorem lookup_validatedSchema_of_mem {schema : List Attribute}
    {attr : Attribute} (distinct : (schema.map Attribute.name).Nodup)
    (member : attr ∈ schema) (entries : Entries) :
    (validatedSchema schema entries).lookup (.str attr.name) =
      attr.validated entries :=
  lookup_named_of_mem Attribute.name (fun other => other.validated entries)
    distinct member

theorem passes_of_fieldsPass {fields : List Field} {field : Field}
    {entries : Entries} (accepted : fieldsPass fields entries = true)
    (member : field ∈ fields) :
    passes field.rules (read entries field.name) = true :=
  List.all_eq_true.mp accepted field member

/-- Data whose fields pass their rules. -/
def FieldsHold (fields : List Field) (data : Value) : Prop :=
  ∀ field ∈ fields, passes field.rules (data.index field.name) = true

/-- Validated children pass the rules they were validated by. -/
theorem fieldsHold_validatedFields {fields : List Field} {entries : Entries}
    (distinct : (fields.map Field.name).Nodup) (accepted : fieldsPass fields entries = true) :
    FieldsHold fields (.arr (validatedFields fields entries)) := by
  intro field member
  rw [Value.index, lookup_validatedFields_of_mem distinct member]
  exact passes_of_fieldsPass accepted member

/-- So do the leaves of a schema. -/
theorem fieldsHold_validatedSchema {schema : List Attribute} {fields : List Field}
    {entries : Entries} (distinct : (schema.map Attribute.name).Nodup)
    (accepted : schemaPasses schema entries = true)
    (leaves : ∀ field ∈ fields, .leaf field ∈ schema) :
    FieldsHold fields (.arr (validatedSchema schema entries)) := by
  intro field member
  have kept := lookup_validatedSchema_of_mem distinct (leaves field member) entries
  have passing : (Attribute.leaf field).accepts entries = true :=
    List.all_eq_true.mp accepted _ (leaves field member)
  rw [Attribute.accepts, Bool.and_eq_true] at passing
  rw [Value.index, show field.name = (Attribute.leaf field).name from rfl, kept]
  exact passing.1

/-- A required child keeps its array alive. -/
theorem validatedFields_ne_nil {fields : List Field} {field : Field}
    {entries : Entries} (accepted : fieldsPass fields entries = true)
    (member : field ∈ fields) (required : Rule.required ∈ field.rules) :
    validatedFields fields entries ≠ [] := by
  obtain ⟨given, found, -⟩ :=
    exists_of_passes_required (passes_of_fieldsPass accepted member) required
  have kept : (Key.str field.name, given) ∈ validatedFields fields entries :=
    List.mem_filterMap.mpr ⟨field, member, by rw [found]; rfl⟩
  exact List.ne_nil_of_mem kept

/-- Every element of a validated `name.*` array is one of the given elements,
reduced to its named children. -/
theorem mem_validatedEach {children : List Field} {items : Entries}
    {entry : Key × Value} (member : entry ∈ Attribute.validatedEach children items) :
    ∃ item ∈ items,
      entry = (item.1, .arr (validatedFields children (fieldsOf item.2))) := by
  obtain ⟨item, isItem, kept⟩ := List.mem_filterMap.mp member
  refine ⟨item, isItem, ?_⟩
  dsimp only at kept
  split at kept
  next => contradiction
  next => exact (Option.some.inj kept).symm

/-- Elements with a required child all survive, reduced to their named children. -/
theorem validatedEach_eq_map {children : List Field} {required : Field} {items : Entries}
    (isChild : required ∈ children) (childRequired : Rule.required ∈ required.rules)
    (pass : ∀ item ∈ items, fieldsPass children (fieldsOf item.2) = true) :
    Attribute.validatedEach children items = items.map fun item =>
      (item.1, .arr (validatedFields children (fieldsOf item.2))) := by
  rw [Attribute.validatedEach, ← List.filterMap_eq_map]
  apply List.filterMap_congr
  intro item member
  have kept := validatedFields_ne_nil (pass item member) isChild childRequired
  simp [kept]

/-- A required array of items with a required child survives with all its items, and so
do the children's rules. -/
theorem exists_validated_each {field required : Field} {children : List Field}
    {entries : Entries} (accepted : (Attribute.each field children).accepts entries = true)
    (isRequired : Rule.required ∈ field.rules) (isArray : Rule.array ∈ field.rules)
    (isChild : required ∈ children) (childRequired : Rule.required ∈ required.rules) :
    ∃ items, read entries field.name = some (.arr items) ∧
      (Attribute.each field children).validated entries =
        some (.arr (items.map fun item =>
          (item.1, .arr (validatedFields children (fieldsOf item.2))))) ∧
      ∀ item ∈ items, fieldsPass children (fieldsOf item.2) = true := by
  simp only [Attribute.accepts, Attribute.name, Attribute.field, Bool.and_eq_true] at accepted
  obtain ⟨passing, each⟩ := accepted
  obtain ⟨given, found, notNull⟩ := exists_of_passes_required passing isRequired
  rw [found] at passing each
  have nonempty : Rule.required.holds _ given = true := holds_of_passes passing notNull isRequired
  have holdsArray : Rule.array.holds _ given = true := holds_of_passes passing notNull isArray
  cases given with
  | null | bool _ | num _ | str _ => simp [Rule.holds, Value.isArray] at holdsArray
  | arr items =>
      have each : ∀ item ∈ items, fieldsPass children (fieldsOf item.2) = true :=
        List.all_eq_true.mp each
      have kept := validatedEach_eq_map isChild childRequired each
      refine ⟨items, found, ?_, each⟩
      cases items with
      | nil => simp [Rule.holds] at nonempty
      | cons head tail =>
          simp only [Attribute.validated, Attribute.name, Attribute.field, found,
            Option.getD_some, fieldsOf, kept, Attribute.arrayOf, List.map_cons, List.isEmpty_cons]
          rfl

end TaxGateway.Validation
