import TaxGateway.Foundations.Validation

/-!
Contract: what `POST /transactions` accepts.

Owns:
- `rules()`, attribute by attribute;
- the after-hook of `withValidator()`, which recomputes the totals from the
  items and compares them with the provided ones;
- `AcceptedRequest`, a request that passed both, and what its validated data
  is known to hold.

Does not own: `authorize()`, or how the data is used.
-/

namespace TaxGateway.Http

open TaxGateway.Php
open TaxGateway.Validation

namespace ProcessTransactionRequest

/-! ## Rules -/

/-- The database lookups behind `Rule::exists`. -/
structure Lookups where
  deviceExists : String → Bool
  pinExists : String → Bool

def isHex (c : Char) : Bool :=
  c.isDigit || ('a' ≤ c && c ≤ 'f') || ('A' ≤ c && c ≤ 'F')

/-- The `uuid` rule: hexadecimal groups of 8, 4, 4, 4 and 12 digits. -/
def isUuid (text : String) : Bool :=
  let groups := text.toList.splitOn '-'
  groups.map List.length = [8, 4, 4, 4, 12] && groups.all fun group => group.all isHex

def itemFields : List Field :=
  [⟨"description", [.required, .string, .max 255]⟩,
    ⟨"quantity", [.required, .numeric]⟩,
    ⟨"unitPrice", [.required, .numeric]⟩,
    ⟨"taxDesignationCode", [.required, .string, .max 5]⟩,
    ⟨"discountAmount", [.nullable, .numeric]⟩,
    ⟨"packagingUnitCode", [.nullable, .string, .max 10]⟩,
    ⟨"packagingQuantity", [.nullable, .numeric]⟩,
    ⟨"quantityUnitCode", [.nullable, .string, .max 10]⟩,
    ⟨"supplierPrice", [.nullable, .numeric]⟩,
    ⟨"discountRate", [.nullable, .numeric, .min 0, .max 100]⟩,
    ⟨"taxableAmount", [.nullable, .numeric]⟩,
    ⟨"taxAmount", [.nullable, .numeric]⟩,
    ⟨"totalAmount", [.nullable, .numeric]⟩]

/-- The tax labels. -/
def labels : List String := ["A", "B", "C", "D", "E"]

/-- One field for each tax label, all with the same rules. -/
def labelFields (rules : List Rule) : List Field :=
  labels.map fun label => ⟨label, rules⟩

def isCreditNote (input : Entries) : Bool :=
  match read input "transactionType" with
  | some (.str text) => text = "CREDIT_NOTE"
  | _ => false

/-- `Rule::requiredIf($this->input('transactionType') === 'CREDIT_NOTE')`. -/
def requiredForCreditNote (input : Entries) : List Rule :=
  if isCreditNote input then [.required] else []

def rules (lookups : Lookups) (input : Entries) : List Attribute :=
  [.leaf ⟨"gatewayDeviceId", [.required, .matching isUuid, .matching lookups.deviceExists]⟩,
    .leaf ⟨"taxpayerPin", [.required, .string, .max 20, .matching lookups.pinExists]⟩,
    .leaf ⟨"receiptType",
      [.required, .string, .oneOf ["NORMAL", "COPY", "TRAINING", "PROFORMA"]]⟩,
    .leaf ⟨"transactionType",
      [.required, .string, .oneOf ["SALE", "CREDIT_NOTE", "DEBIT_NOTE"]]⟩,
    .leaf ⟨"internalReceiptNumber", [.required, .string, .max 50]⟩,
    .leaf ⟨"buyerPin", [.nullable, .string, .max 20]⟩,
    .leaf ⟨"buyerPhone", [.nullable, .string, .max 20]⟩,
    .leaf ⟨"saleLocationAddress", [.nullable, .string, .max 255]⟩,
    .each ⟨"items", [.required, .array, .min 1]⟩ itemFields,
    .leaf ⟨"totalAmount", [.required, .numeric]⟩,
    .leaf ⟨"paymentMethod", [.required, .string, .max 50]⟩,
    .keyed ⟨"taxRates", [.required, .array]⟩
      (labelFields [.nullable, .numeric, .min 0, .max 100]),
    .keyed ⟨"taxableAmounts", [.required, .array]⟩ (labelFields [.nullable, .numeric]),
    .keyed ⟨"calculatedTaxes", [.required, .array]⟩ (labelFields [.nullable, .numeric]),
    .leaf ⟨"originalInvoiceScuId",
      [.nullable, .string, .max 50] ++ requiredForCreditNote input⟩,
    .leaf ⟨"originalInvoiceInternalReceiptNumber",
      [.nullable, .string, .max 50] ++ requiredForCreditNote input⟩,
    .leaf ⟨"creditNoteReason",
      [.nullable, .string, .max 255] ++ requiredForCreditNote input⟩]

/-! ## The after-hook -/

/-- A number read from the input; an absent or `null` optional is zero. -/
def numberAt (entries : Entries) (name : String) : Except Throwable ℚ :=
  ((read entries name).getD .null).toNumber

/-- A nested array of the input. -/
def arrayAt (entries : Entries) (name : String) : Entries :=
  fieldsOf ((read entries name).getD .null)

/-- `($item['quantity'] * $item['unitPrice']) - ($item['discountAmount'] ?? 0)`. -/
def itemTotalBeforeTax (item : Entries) : Except Throwable ℚ := do
  let quantity ← numberAt item "quantity"
  let unitPrice ← numberAt item "unitPrice"
  let discountAmount ← numberAt item "discountAmount"
  return quantity * unitPrice - discountAmount

/-- The sums the hook accumulates, in total and by label. -/
structure Expected where
  totalAmount : ℚ
  taxableAmounts : List (String × ℚ)
  calculatedTaxes : List (String × ℚ)

/-- `array_fill_keys(['A', 'B', 'C', 'D', 'E'], 0.00)`, twice. -/
def Expected.zero : Expected :=
  ⟨0, labels.map fun label => (label, 0), labels.map fun label => (label, 0)⟩

/-- `$sums[$label] += $amount`. An unknown label raises a warning, hence an
exception. -/
def addTo (sums : List (String × ℚ)) (label : String) (amount : ℚ) :
    Except Throwable (List (String × ℚ)) :=
  if sums.any fun sum => sum.1 = label then
    .ok (sums.map fun sum => if sum.1 = label then (sum.1, sum.2 + amount) else sum)
  else .error (.exception ("Undefined array key " ++ label))

def taxType (item : Entries) : String :=
  match read item "taxDesignationCode" with
  | some (.str text) => text
  | _ => ""

def addItem (providedTaxRates : Entries) (expected : Expected) (item : Key × Value) :
    Except Throwable Expected := do
  let fields := fieldsOf item.2
  let itemTaxableAmount ← itemTotalBeforeTax fields
  let taxRate ← numberAt providedTaxRates (taxType fields)
  let itemCalculatedTax := roundTo 2 (itemTaxableAmount * (taxRate / 100))
  let taxableAmounts ← addTo expected.taxableAmounts (taxType fields) itemTaxableAmount
  let calculatedTaxes ← addTo expected.calculatedTaxes (taxType fields) itemCalculatedTax
  return ⟨expected.totalAmount + itemTaxableAmount + itemCalculatedTax,
    taxableAmounts, calculatedTaxes⟩

/-- A validation error: the field path and the message. -/
abbrev FieldError := String × String

def epsilon : ℚ := 1 / 100

def totalError (expected : Expected) (totalAmount : ℚ) : List FieldError :=
  if epsilon < |expected.totalAmount - totalAmount| then
    [("totalAmount",
      "Calculated total amount does not match provided total. Expected: " ++
        numberFormatGrouped expected.totalAmount ++ ", Provided: " ++
        numberFormatGrouped totalAmount)]
  else []

/-- One per-label comparison of the hook. -/
def labelError (field what label : String) (sums : List (String × ℚ))
    (provided : Entries) : Except Throwable (List FieldError) := do
  let amount ← numberAt provided label
  if epsilon < |(sums.lookup label).getD 0 - amount| then
    return [(field ++ "." ++ label,
      "Calculated " ++ what ++ " for " ++ label ++ " does not match provided.")]
  else return []

def labelErrors (input : Entries) (expected : Expected) (label : String) :
    Except Throwable (List FieldError) := do
  let taxable ← labelError "taxableAmounts" "taxable amount" label
    expected.taxableAmounts (arrayAt input "taxableAmounts")
  let taxes ← labelError "calculatedTaxes" "tax" label
    expected.calculatedTaxes (arrayAt input "calculatedTaxes")
  return taxable ++ taxes

def keyText : Key → String
  | .int value => toString value
  | .str text => text

def creditItemError (item : Key × Value) : Except Throwable (List FieldError) := do
  let itemTotal ← itemTotalBeforeTax (fieldsOf item.2)
  if 0 ≤ itemTotal then
    return [("items." ++ keyText item.1 ++ ".quantity",
      "For credit notes, the total item amount must be negative (either negative " ++
        "quantity or negative unit price).")]
  else return []

def creditErrors (items : Entries) (totalAmount : ℚ) :
    Except Throwable (List FieldError) := do
  let itemErrors ← items.mapM creditItemError
  let totalErrors : List FieldError :=
    if 0 < totalAmount then
      [("totalAmount", "For credit notes, total amount must be negative.")]
    else []
  return itemErrors.flatten ++ totalErrors

/-- The after-hook: the validation errors it adds, or what it throws. -/
def afterHook (input : Entries) : Except Throwable (List FieldError) := do
  let items := arrayAt input "items"
  let expected ← items.foldlM (addItem (arrayAt input "taxRates")) Expected.zero
  let totalAmount ← numberAt input "totalAmount"
  let perLabel ← labels.mapM (labelErrors input expected)
  let credit ← if isCreditNote input then creditErrors items totalAmount else pure []
  return totalError expected totalAmount ++ perLabel.flatten ++ credit

/-- Rules and hook together. The hook does nothing when a rule failed. -/
def accepts (lookups : Lookups) (input : Entries) : Bool :=
  schemaPasses (rules lookups input) input &&
    match afterHook input with
    | .ok [] => true
    | _ => false

end ProcessTransactionRequest

open ProcessTransactionRequest

/-! ## Accepted requests -/

/-- A request that reached the controller. -/
structure AcceptedRequest where
  lookups : Lookups
  input : Entries
  accepted : accepts lookups input = true

namespace AcceptedRequest

variable (request : AcceptedRequest)

/-- `$request->validated()`. -/
def validated : Value :=
  .arr (validatedSchema (rules request.lookups request.input) request.input)

/-- The items as they were given. -/
def givenItems : Entries := arrayAt request.input "items"

/-- The validated items, with their keys. -/
def items : Entries := Attribute.validatedEach itemFields request.givenItems

theorem attribute_accepts {attr : Attribute}
    (member : attr ∈ rules request.lookups request.input) :
    attr.accepts request.input = true := by
  have both := request.accepted
  simp only [accepts, Bool.and_eq_true] at both
  exact List.all_eq_true.mp both.1 attr member

theorem validated_index {attr : Attribute}
    (member : attr ∈ rules request.lookups request.input) :
    request.validated.index attr.name = attr.validated request.input :=
  lookup_validatedSchema_of_mem (by simp [rules, Attribute.name, Attribute.field])
    member request.input

/-- A leaf attribute keeps the value read for it, and its rules hold of it. -/
theorem leaf {field : Field}
    (member : Attribute.leaf field ∈ rules request.lookups request.input) :
    request.validated.index field.name = read request.input field.name ∧
      passes field.rules (read request.input field.name) = true := by
  refine ⟨request.validated_index member, ?_⟩
  have accepted := request.attribute_accepts member
  simp only [Attribute.accepts, Bool.and_eq_true] at accepted
  exact accepted.1

/-- A required string attribute with a list of options is one of them. -/
theorem option_of_leaf {name : String} {options : List String}
    (member : Attribute.leaf ⟨name, [.required, .string, .oneOf options]⟩ ∈
      rules request.lookups request.input) :
    ∃ text ∈ options, request.validated.index name = some (.str text) := by
  obtain ⟨kept, passing⟩ := request.leaf member
  obtain ⟨text, given⟩ := str_of_passes_required passing (by simp) (by simp)
  rw [given] at kept passing
  have isOption : (Rule.oneOf options).holds _ (.str text) = true :=
    holds_of_passes passing (by simp) (by simp)
  exact ⟨text, by simpa [Rule.holds] using isOption, kept⟩

theorem receiptType :
    ∃ text ∈ ["NORMAL", "COPY", "TRAINING", "PROFORMA"],
      request.validated.index "receiptType" = some (.str text) :=
  request.option_of_leaf (by simp [rules])

theorem transactionType :
    ∃ text ∈ ["SALE", "CREDIT_NOTE", "DEBIT_NOTE"],
      request.validated.index "transactionType" = some (.str text) :=
  request.option_of_leaf (by simp [rules])

theorem internalReceiptNumber :
    ∃ text, request.validated.index "internalReceiptNumber" = some (.str text) := by
  have isRule : Attribute.leaf ⟨"internalReceiptNumber", [.required, .string, .max 50]⟩ ∈
      rules request.lookups request.input := by simp [rules]
  obtain ⟨kept, passing⟩ := request.leaf isRule
  obtain ⟨text, given⟩ := str_of_passes_required passing (by simp) (by simp)
  exact ⟨text, kept.trans given⟩

/-- The text under a name, when there is one. -/
def text (name : String) : String :=
  match request.validated.index name with
  | some (.str text) => text
  | _ => ""

/-- The attributes a receipt is known by. -/
def keyNames : List String := ["internalReceiptNumber", "receiptType", "transactionType"]

theorem index_text {name : String} (isKey : name ∈ keyNames) :
    request.validated.index name = some (.str (request.text name)) := by
  have held : ∃ text, request.validated.index name = some (.str text) := by
    simp only [keyNames, List.mem_cons, List.not_mem_nil, or_false] at isKey
    rcases isKey with rfl | rfl | rfl
    · exact request.internalReceiptNumber
    · obtain ⟨text, -, kept⟩ := request.receiptType
      exact ⟨text, kept⟩
    · obtain ⟨text, -, kept⟩ := request.transactionType
      exact ⟨text, kept⟩
  obtain ⟨text, kept⟩ := held
  rw [AcceptedRequest.text, kept]

/-- What survives of a map of per-label amounts is an array whose labels hold
numbers or `null`. -/
theorem keyed_numeric {field : Field} {rules' : List Rule}
    (member : Attribute.keyed field (labelFields rules') ∈
      rules request.lookups request.input)
    (numeric : Rule.numeric ∈ rules') {amounts : Value}
    (kept : request.validated.index field.name = some amounts) :
    amounts.isArray = true ∧
      ∀ label ∈ labels, ∀ value, amounts.index label = some value →
        value ≠ .null → value.isNumeric = true := by
  have validatedAs := (request.validated_index member).symm.trans kept
  have accepted := request.attribute_accepts member
  simp only [Attribute.accepts, Bool.and_eq_true] at accepted
  simp only [Attribute.validated, Attribute.arrayOf] at validatedAs
  split at validatedAs
  next => contradiction
  next nonempty =>
    obtain rfl := Option.some.inj validatedAs
    refine ⟨rfl, ?_⟩
    intro label isLabel value present notNull
    have isField : (⟨label, rules'⟩ : Field) ∈ labelFields rules' :=
      List.mem_map_of_mem isLabel
    have distinct : ((labelFields rules').map Field.name).Nodup := by
      simp [labelFields, labels]
    have given : read (fieldsOf ((read request.input field.name).getD .null)) label =
        some value :=
      (lookup_validatedFields_of_mem distinct isField _).symm.trans present
    have passing : passes rules'
        (read (fieldsOf ((read request.input field.name).getD .null)) label) = true :=
      passes_of_fieldsPass accepted.2 isField
    rw [given] at passing
    exact isNumeric_of_passes passing notNull numeric

/-! ### Items -/

/-- Every given item passes the item rules. -/
theorem givenItems_pass {item : Key × Value} (member : item ∈ request.givenItems) :
    fieldsPass itemFields (fieldsOf item.2) = true := by
  have isRule : Attribute.each ⟨"items", [.required, .array, .min 1]⟩ itemFields ∈
      rules request.lookups request.input := by simp [rules]
  have accepted := request.attribute_accepts isRule
  simp only [Attribute.accepts, Bool.and_eq_true] at accepted
  exact List.all_eq_true.mp accepted.2 item member

theorem givenItems_ne_nil : request.givenItems ≠ [] := by
  have isRule : Attribute.each ⟨"items", [.required, .array, .min 1]⟩ itemFields ∈
      rules request.lookups request.input := by simp [rules]
  have accepted := request.attribute_accepts isRule
  simp only [Attribute.accepts, Bool.and_eq_true] at accepted
  obtain ⟨given, found, notNull⟩ :=
    exists_of_passes_required accepted.1 (by simp [Attribute.field])
  have passing := accepted.1
  rw [found] at passing
  have isRequired : Rule.required.holds _ given = true :=
    holds_of_passes passing notNull (by simp [Attribute.field])
  have isArray : Rule.array.holds _ given = true :=
    holds_of_passes passing notNull (by simp [Attribute.field])
  cases given with
  | arr entries =>
      have givenItems : request.givenItems = entries := by
        simp only [AcceptedRequest.givenItems, arrayAt]
        rw [show read request.input "items" = some (.arr entries) from found]
        rfl
      rw [givenItems]
      simpa [Rule.holds] using isRequired
  | null | bool _ | num _ | str _ => simp [Rule.holds, Value.isArray] at isArray

/-- An item that survives is one of the given ones, reduced to its fields. -/
theorem mem_items {entry : Key × Value} (member : entry ∈ request.items) :
    ∃ fields, fieldsPass itemFields fields = true ∧
      entry.2 = .arr (validatedFields itemFields fields) := by
  obtain ⟨item, isItem, rfl⟩ := mem_validatedEach member
  exact ⟨fieldsOf item.2, request.givenItems_pass isItem, rfl⟩

theorem item_isArray {entry : Key × Value} (member : entry ∈ request.items) :
    entry.2.isArray = true := by
  obtain ⟨fields, -, reduced⟩ := request.mem_items member
  rw [reduced]
  rfl

/-- A field with rules passes them in every item that survives. -/
theorem item_passes {entry : Key × Value} (member : entry ∈ request.items)
    {field : Field} (isField : field ∈ itemFields) :
    passes field.rules (entry.2.index field.name) = true := by
  obtain ⟨fields, accepted, reduced⟩ := request.mem_items member
  have kept : entry.2.index field.name = read fields field.name := by
    rw [reduced]
    exact lookup_validatedFields_of_mem (by simp [itemFields]) isField fields
  rw [kept]
  exact passes_of_fieldsPass accepted isField

/-- A key without rules is gone from every item that survives. -/
theorem item_index_of_notMem {entry : Key × Value} (member : entry ∈ request.items)
    {key : String} (unnamed : key ∉ itemFields.map Field.name) :
    entry.2.index key = none := by
  obtain ⟨fields, -, reduced⟩ := request.mem_items member
  rw [reduced]
  exact lookup_validatedFields_of_notMem unnamed fields

/-- Every given item survives, reduced to its named fields. -/
theorem items_eq_map : request.items = request.givenItems.map fun item =>
    (item.1, .arr (validatedFields itemFields (fieldsOf item.2))) := by
  have isField : (⟨"description", [.required, .string, .max 255]⟩ : Field) ∈ itemFields := by
    simp [itemFields]
  exact validatedEach_eq_map isField (by simp) fun item => request.givenItems_pass

theorem items_ne_nil : request.items ≠ [] := by
  rw [items_eq_map, ne_eq, List.map_eq_nil_iff]
  exact request.givenItems_ne_nil

theorem validated_items : request.validated.index "items" = some (.arr request.items) := by
  have isRule : Attribute.each ⟨"items", [.required, .array, .min 1]⟩ itemFields ∈
      rules request.lookups request.input := by simp [rules]
  have notEmpty : ¬ request.items.isEmpty = true := by
    simpa using request.items_ne_nil
  exact (request.validated_index isRule).trans (if_neg notEmpty)

/-! ## A sale -/

/-- The input of a sale of one untaxed article for a hundred shillings. -/
def cashSaleInput (itemKey : Key) (description : String) : Entries :=
  [(.str "gatewayDeviceId", .str "0f8fad5b-d9cb-469f-a165-70867728950e"),
    (.str "taxpayerPin", .str "P051234567X"),
    (.str "receiptType", .str "NORMAL"),
    (.str "transactionType", .str "SALE"),
    (.str "internalReceiptNumber", .str "INV-1"),
    (.str "items", .arr [(itemKey, .arr
      [(.str "description", .str description), (.str "quantity", .num 1),
        (.str "unitPrice", .num 100), (.str "taxDesignationCode", .str "A")])]),
    (.str "totalAmount", .num 100),
    (.str "paymentMethod", .str "CASH"),
    (.str "taxRates", .arr [(.str "A", .num 0)]),
    (.str "taxableAmounts", .arr [(.str "A", .num 100)]),
    (.str "calculatedTaxes", .arr [(.str "A", .num 0)])]

def anyLookup : Lookups := ⟨fun _ => true, fun _ => true⟩

def breadSale : AcceptedRequest :=
  ⟨anyLookup, cashSaleInput (.int 0) "Bread", by decide +kernel⟩

/-- The same sale, its `items` a JSON object with one key. -/
def keyedBreadSale : AcceptedRequest :=
  ⟨anyLookup, cashSaleInput (.str "first") "Bread", by decide +kernel⟩

end AcceptedRequest

end TaxGateway.Http
