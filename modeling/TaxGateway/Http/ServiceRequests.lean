import TaxGateway.Foundations.ArrayMerge
import TaxGateway.Http.InitializeKraDeviceRequest
import TaxGateway.Http.ProcessTransactionRequest

/-!
Contract: what the item, purchase, inventory and report endpoints accept.

Owns:
- `rules()` of the four requests whose data a service sends to KRA, with the
  `validated()` of the one that overrides it;
- the rules of the PLU report, and the filter of the stock query, which has none;
- that validated data passes the rules of its fields.

Does not own: `authorize()`, or what the services make of the data.
-/

namespace TaxGateway.Http

open TaxGateway.Php
open TaxGateway.Validation
open TaxGateway.Database

/-- The two fields every endpoint checks. -/
def tenantRules (database : Tenants) : List Attribute :=
  [.leaf ⟨"gatewayDeviceId",
      [.required, .matching ProcessTransactionRequest.isUuid,
        .matching fun id => database.kraDevices.any fun device => device.id = id]⟩,
    .leaf ⟨"taxpayerPin",
      [.required, .string, .max 20,
        .matching (InitializeKraDeviceRequest.pinExists database)]⟩]

/-- `date_format:Ymd`. -/
def ymd : Rule := .dateFormat DateTime.createFromYmdDigits DateTime.formatYmd

/-- `date_format:YmdHis`. -/
def ymdHis : Rule := .dateFormat DateTime.createFromYmdHisDigits DateTime.formatYmdHis

/-- `date_format:Y-m-d`. -/
def dashedDate : Rule := .dateFormat DateTime.createFromYmd DateTime.formatDashedDate

section Leaves

variable {database : Tenants} {fields : List Field} {others : List Attribute}

/-- The names of a schema, taken apart. -/
theorem attributeNames_nodup
    (distinct : (["gatewayDeviceId", "taxpayerPin"] ++ fields.map Field.name ++
      others.map Attribute.name).Nodup) :
    ((tenantRules database ++ fields.map Attribute.leaf ++ others).map Attribute.name).Nodup := by
  have names : (fields.map Attribute.leaf).map Attribute.name = fields.map Field.name := by
    rw [List.map_map]
    rfl
  rw [List.map_append, List.map_append, names]
  exact distinct

/-- The leaves behind the two fields pass their rules in `validated()`. -/
theorem fieldsHold_of_accepted {input : Entries}
    (distinct : (["gatewayDeviceId", "taxpayerPin"] ++ fields.map Field.name ++
      others.map Attribute.name).Nodup)
    (accepted : schemaPasses (tenantRules database ++ fields.map .leaf ++ others) input = true) :
    FieldsHold fields
      (.arr (validatedSchema (tenantRules database ++ fields.map .leaf ++ others) input)) :=
  fieldsHold_validatedSchema (attributeNames_nodup distinct) accepted fun field member => by
    simp [member]

/-- They are in `validated()` as they were given. -/
theorem index_validated_leaf
    (distinct : (["gatewayDeviceId", "taxpayerPin"] ++ fields.map Field.name ++
      others.map Attribute.name).Nodup) {field : Field} (member : field ∈ fields)
    (input : Entries) :
    (Value.arr (validatedSchema (tenantRules database ++ fields.map .leaf ++ others)
      input)).index field.name = read input field.name := by
  have isRule : Attribute.leaf field ∈ tenantRules database ++ fields.map .leaf ++ others := by
    simp [member]
  exact lookup_validatedSchema_of_mem (attributeNames_nodup distinct) isRule input

end Leaves

namespace RegisterKraItemRequest

def fields : List Field :=
  [⟨"itemCode", [.required, .string, .max 50]⟩,
    ⟨"itemClassificationCode", [.required, .string, .max 50]⟩,
    ⟨"itemName", [.required, .string, .max 255]⟩,
    ⟨"itemTypeCode", [.nullable, .string, .max 10]⟩,
    ⟨"itemStandard", [.nullable, .string, .max 255]⟩,
    ⟨"originCountryCode", [.nullable, .string, .max 5]⟩,
    ⟨"packagingUnitCode", [.required, .string, .max 10]⟩,
    ⟨"quantityUnitCode", [.required, .string, .max 10]⟩,
    ⟨"additionalInfo", [.nullable, .string, .max 255]⟩,
    ⟨"initialWholesaleUnitPrice", [.required, .numeric, .min 0]⟩,
    ⟨"initialQuantity", [.required, .numeric, .min 0]⟩,
    ⟨"averageWholesaleUnitPrice", [.nullable, .numeric, .min 0]⟩,
    ⟨"defaultSellingUnitPrice", [.required, .numeric, .min 0]⟩,
    ⟨"taxType", [.required, .string, .max 5]⟩,
    ⟨"remark", [.nullable, .string, .max 255]⟩,
    ⟨"inUse", [.required, .boolean]⟩,
    ⟨"registerUserId", [.nullable, .string, .max 50]⟩,
    ⟨"registerDate", [.nullable, ymdHis]⟩,
    ⟨"updateUserId", [.nullable, .string, .max 50]⟩,
    ⟨"updateDate", [.nullable, ymdHis]⟩,
    ⟨"safetyQuantity", [.nullable, .numeric, .min 0]⟩,
    ⟨"useBarcode", [.nullable, .boolean]⟩,
    ⟨"changeAllowed", [.nullable, .boolean]⟩,
    ⟨"useAdditionalInfoAllowed", [.nullable, .boolean]⟩]

def rules (database : Tenants) : List Attribute :=
  tenantRules database ++ fields.map .leaf ++ []

end RegisterKraItemRequest

namespace SendKraInventoryMovementRequest

def fields : List Field :=
  [⟨"branchId", [.required, .string, .max 10]⟩,
    ⟨"itemClassificationCode", [.required, .string, .max 50]⟩,
    ⟨"itemCode", [.required, .string, .max 50]⟩,
    ⟨"quantity", [.required, .numeric]⟩,
    ⟨"updateDate", [.required, ymdHis]⟩]

def rules (database : Tenants) : List Attribute :=
  tenantRules database ++ fields.map .leaf ++ []

end SendKraInventoryMovementRequest

namespace SendKraInventoryRequest

def fields : List Field :=
  [⟨"branchId", [.required, .string, .max 10]⟩,
    ⟨"itemClassificationCode", [.required, .string, .max 50]⟩,
    ⟨"itemCode", [.required, .string, .max 50]⟩,
    ⟨"quantity", [.required, .numeric]⟩,
    ⟨"updateDate", [.required, ymdHis]⟩,
    ⟨"movementType", [.required, .string, .oneOf ["IN", "OUT"]]⟩,
    ⟨"reason", [.nullable, .string, .max 255]⟩,
    ⟨"referenceId", [.nullable, .string, .max 50]⟩]

def rules (database : Tenants) : List Attribute :=
  tenantRules database ++ fields.map .leaf ++ []

/-- `(float) $value`. -/
def toFloat : Value → ℚ
  | .null => 0
  | .bool flag => if flag then 1 else 0
  | .num value => value
  | .str text => floatval text
  | .arr entries => if entries.isEmpty then 0 else 1

/-- `date('YmdHis', strtotime($value))` of a text in that format. What `strtotime`
refuses is the date of `false`, which is the first second there is. -/
def reformat (value : Value) : Value :=
  match value.toText with
  | .ok text =>
      match DateTime.createFromYmdHisDigits text with
      | some date => .str date.formatYmdHis
      | none => .str "19700101000000"
  | .error _ => value

/-- `if (isset($validated[$key])) { $validated[$key] = …; }`. -/
def reassign (validated : Entries) (key : String) (change : Value → Value) : Entries :=
  match (Value.arr validated).index key with
  | none | some .null => validated
  | some value => Value.assignKey validated key (change value)

def validated (database : Tenants) (input : Entries) : Entries :=
  let validated := validatedSchema (rules database) input
  let validated := reassign validated "quantity" fun value => .num (toFloat value)
  reassign validated "updateDate" reformat

end SendKraInventoryRequest

namespace SendKraPurchaseRequest

/-- `totalTaxableAmountA` to `totalTaxableAmountE`, or `totalTaxA` to `totalTaxE`. -/
def totalFields (total : String) : List Field :=
  ProcessTransactionRequest.labels.map fun label =>
    ⟨total ++ label, [.nullable, .numeric, .min 0]⟩

def headerFields : List Field :=
  [⟨"invoiceId", [.required, .string, .max 50]⟩,
    ⟨"branchId", [.required, .string, .max 10]⟩,
    ⟨"supplierPin", [.required, .string, .max 20]⟩,
    ⟨"supplierName", [.required, .string, .max 255]⟩,
    ⟨"supplierCuId", [.required, .string, .max 50]⟩,
    ⟨"registrationTypeCode", [.required, .string, .oneOf ["M", "A"]]⟩,
    ⟨"referenceId", [.required, .string, .max 50]⟩,
    ⟨"paymentTypeCode", [.required, .string, .max 10]⟩,
    ⟨"invoiceStatusCode", [.required, .string, .max 10]⟩,
    ⟨"transactionDate", [.required, .string, ymd]⟩,
    ⟨"validDate", [.nullable, ymd]⟩,
    ⟨"cancelRequestDate", [.nullable, ymdHis]⟩,
    ⟨"cancelDate", [.nullable, ymdHis]⟩,
    ⟨"refundDate", [.nullable, ymdHis]⟩,
    ⟨"cancelTypeCode", [.nullable, .string, .max 10]⟩] ++
  totalFields "totalTaxableAmount" ++ totalFields "totalTax" ++
  [⟨"totalSupplierPrice", [.required, .numeric, .min 0]⟩,
    ⟨"totalTax", [.required, .numeric, .min 0]⟩,
    ⟨"totalAmount", [.required, .numeric, .min 0]⟩,
    ⟨"remark", [.nullable, .string, .max 255]⟩,
    ⟨"registerUserId", [.required, .string, .max 50]⟩,
    ⟨"registerDate", [.required, .string, ymdHis]⟩]

def itemFields : List Field :=
  [⟨"sequence", [.required, .integer, .min 1]⟩,
    ⟨"itemClassificationCode", [.required, .string, .max 50]⟩,
    ⟨"itemCode", [.required, .string, .max 50]⟩,
    ⟨"itemName", [.required, .string, .max 255]⟩,
    ⟨"supplierItemClassificationCode", [.required, .string, .max 50]⟩,
    ⟨"supplierItemCode", [.required, .string, .max 50]⟩,
    ⟨"supplierItemName", [.required, .string, .max 255]⟩,
    ⟨"packagingUnitCode", [.required, .string, .max 10]⟩,
    ⟨"packagingQuantity", [.required, .numeric, .min 0]⟩,
    ⟨"quantityUnitCode", [.required, .string, .max 10]⟩,
    ⟨"quantity", [.required, .numeric, .min 0]⟩,
    ⟨"expiryDate", [.nullable, ymd]⟩,
    ⟨"unitPrice", [.required, .numeric, .min 0]⟩,
    ⟨"supplierPrice", [.required, .numeric, .min 0]⟩,
    ⟨"discountRate", [.required, .numeric, .min 0, .max 100]⟩,
    ⟨"discountAmount", [.required, .numeric, .min 0]⟩,
    ⟨"taxableAmount", [.required, .numeric]⟩,
    ⟨"taxType", [.required, .string, .max 10]⟩,
    ⟨"taxAmount", [.required, .numeric]⟩]

def itemsRule : Attribute := .each ⟨"items", [.required, .array, .min 1]⟩ itemFields

def rules (database : Tenants) : List Attribute :=
  tenantRules database ++ headerFields.map .leaf ++ [itemsRule]

end SendKraPurchaseRequest

/-! ## What accepted data holds -/

section Accepted

variable {database : Tenants} {input : Entries}

namespace RegisterKraItemRequest

theorem names_nodup :
    (["gatewayDeviceId", "taxpayerPin"] ++ fields.map Field.name ++
      ([] : List Attribute).map Attribute.name).Nodup := by
  decide +kernel

theorem fieldsHold (accepted : schemaPasses (rules database) input = true) :
    FieldsHold fields (.arr (validatedSchema (rules database) input)) :=
  fieldsHold_of_accepted names_nodup accepted

end RegisterKraItemRequest

theorem SendKraInventoryMovementRequest.fieldsHold
    (accepted : schemaPasses (rules database) input = true) :
    FieldsHold fields (.arr (validatedSchema (rules database) input)) :=
  fieldsHold_of_accepted (by decide +kernel) accepted

namespace SendKraInventoryRequest

theorem names_nodup :
    (["gatewayDeviceId", "taxpayerPin"] ++ fields.map Field.name ++
      ([] : List Attribute).map Attribute.name).Nodup := by
  decide +kernel

theorem fieldsHold (accepted : schemaPasses (rules database) input = true) :
    FieldsHold fields (.arr (validatedSchema (rules database) input)) :=
  fieldsHold_of_accepted names_nodup accepted

section Reassign

variable {data : Entries} {key : String} {change : Value → Value}

theorem index_reassign_of_ne {other : String} (different : other ≠ key) :
    (Value.arr (reassign data key change)).index other = (Value.arr data).index other := by
  have isOther : Key.str other ≠ Key.str key := fun same => different (Key.str.inj same)
  unfold reassign
  split
  next => rfl
  next => rfl
  next => exact Value.lookup_assignKey_of_ne isOther

theorem index_reassign_self {value : Value} (given : (Value.arr data).index key = some value)
    (notNull : value ≠ .null) :
    (Value.arr (reassign data key change)).index key = some (change value) := by
  unfold reassign
  split
  next absent => rw [given] at absent; cases absent
  next isNull => rw [given] at isNull; exact absurd (Option.some.inj isNull) notNull
  next found _ isFound =>
    rw [given] at isFound
    obtain rfl := Option.some.inj isFound
    exact Value.lookup_assignKey_self _ _ _

end Reassign

/-- A required field of an accepted request is given. -/
theorem exists_given (accepted : schemaPasses (rules database) input = true) {field : Field}
    (member : field ∈ fields) (required : Rule.required ∈ field.rules) :
    ∃ value, read input field.name = some value ∧ value ≠ .null ∧
      passes field.rules (some value) = true := by
  have passing := fieldsHold accepted field member
  rw [rules, index_validated_leaf names_nodup member] at passing
  obtain ⟨value, given, notNull⟩ := exists_of_passes_required passing required
  exact ⟨value, given, notNull, given ▸ passing⟩

/-- What `validated()` makes of the value of a field. -/
def changed (key : String) (value : Value) : Value :=
  if key = "quantity" then .num (toFloat value)
  else if key = "updateDate" then reformat value
  else value

/-- A field that is given is in `validated()`, changed as its key asks. -/
theorem index_validated {field : Field} (member : field ∈ fields) {value : Value}
    (given : read input field.name = some value) (notNull : value ≠ .null) :
    (Value.arr (validated database input)).index field.name =
      some (changed field.name value) := by
  have kept : (Value.arr (validatedSchema (rules database) input)).index field.name =
      some value := by
    rw [rules, index_validated_leaf names_nodup member, given]
  unfold validated changed
  by_cases isQuantity : field.name = "quantity"
  · rw [if_pos isQuantity, isQuantity, index_reassign_of_ne (by decide)]
    rw [isQuantity] at kept
    exact index_reassign_self kept notNull
  · rw [if_neg isQuantity]
    have behind : (Value.arr (reassign (validatedSchema (rules database) input) "quantity"
        fun value => .num (toFloat value))).index field.name = some value := by
      rw [index_reassign_of_ne isQuantity, kept]
    by_cases isDate : field.name = "updateDate"
    · rw [if_pos isDate, isDate]
      rw [isDate] at behind
      exact index_reassign_self behind notNull
    · rw [if_neg isDate, index_reassign_of_ne isDate]
      exact behind

/-- The cast keeps the number of a numeric value. -/
theorem toNumber_eq_toFloat {value : Value} (numeric : value.isNumeric = true) :
    value.toNumber = .ok (toFloat value) := by
  cases value with
  | num number => rfl
  | str text =>
      obtain ⟨number, isNumber⟩ := Option.isSome_iff_exists.mp numeric
      have isFloat : floatval text = number := by
        unfold numericString at isNumber
        split at isNumber
        next value rest isPrefix =>
          split at isNumber
          next =>
            obtain rfl := Option.some.inj isNumber
            rw [floatval, isPrefix]
            rfl
          next => cases isNumber
        next => cases isNumber
      rw [toFloat, isFloat, Value.toNumber, stringToNumber, isNumber]
  | null | bool _ | arr _ => simp [Value.isNumeric] at numeric

end SendKraInventoryRequest

namespace SendKraPurchaseRequest

theorem names_nodup :
    (["gatewayDeviceId", "taxpayerPin"] ++ headerFields.map Field.name ++
      [itemsRule].map Attribute.name).Nodup := by
  decide +kernel

theorem fieldsHold (accepted : schemaPasses (rules database) input = true) :
    FieldsHold headerFields (.arr (validatedSchema (rules database) input)) :=
  fieldsHold_of_accepted names_nodup accepted

/-- The items of an accepted purchase are there, each passes the item rules, and
`validated()` holds them all, in order and with the fields that the rules name. -/
theorem exists_items (accepted : schemaPasses (rules database) input = true) :
    ∃ items, read input "items" = some (.arr items) ∧
      (Value.arr (validatedSchema (rules database) input)).index "items" =
        some (.arr (items.map fun item =>
          (item.1, .arr (validatedFields itemFields (fieldsOf item.2))))) ∧
      ∀ item ∈ items, fieldsPass itemFields (fieldsOf item.2) = true := by
  have isRule : itemsRule ∈ rules database := by simp [rules]
  have distinct : ((rules database).map Attribute.name).Nodup := attributeNames_nodup names_nodup
  have passing : itemsRule.accepts input = true := List.all_eq_true.mp accepted _ isRule
  obtain ⟨items, found, kept, pass⟩ := exists_validated_each passing (by simp) (by simp)
    (List.mem_cons_self : _ ∈ itemFields) (by simp)
  refine ⟨items, found, ?_, pass⟩
  rw [← kept]
  exact lookup_validatedSchema_of_mem distinct isRule input

theorem itemNames_nodup : (itemFields.map Field.name).Nodup := by
  decide +kernel

/-- A validated item passes the rules it was validated by. -/
theorem fieldsHold_item {item : Key × Value}
    (pass : fieldsPass itemFields (fieldsOf item.2) = true) :
    FieldsHold itemFields (.arr (validatedFields itemFields (fieldsOf item.2))) :=
  fieldsHold_validatedFields itemNames_nodup pass

end SendKraPurchaseRequest

end Accepted

/-! ## Queries -/

namespace PluReportQuery

def fields : List Field :=
  [⟨"startDate", [.nullable, dashedDate]⟩, ⟨"endDate", [.nullable, dashedDate]⟩]

/-- `after_or_equal:startDate`. Dates of that format are ordered as their texts are. -/
def endsAfterStart (input : Entries) : Bool :=
  match read input "startDate", read input "endDate" with
  | some (.str startDate), some (.str endDate) => startDate ≤ endDate
  | _, _ => true

def accepts (database : Tenants) (input : Entries) : Bool :=
  schemaPasses (tenantRules database ++ fields.map .leaf) input && endsAfterStart input

/-- `$request->query($key)`. -/
def query (input : Entries) (key : String) : Option String :=
  match read input key with
  | some (.str text) => some text
  | _ => none

/-- A bound that is given is a date. -/
theorem exists_date_of_accepts {database : Tenants} {input : Entries}
    (accepted : accepts database input = true) {key text : String}
    (isBound : key ∈ fields.map Field.name) (given : query input key = some text) :
    ∃ date, DateTime.createFromYmd text = some date := by
  obtain ⟨⟨name, rules⟩, member, rfl⟩ := List.mem_map.mp isBound
  rw [accepts, Bool.and_eq_true] at accepted
  have passing : (Attribute.leaf ⟨name, rules⟩).accepts input = true :=
    List.all_eq_true.mp accepted.1 _
      (List.mem_append_right _ (List.mem_map_of_mem member))
  have isRead : read input name = some (.str text) := by
    unfold query at given
    split at given
    next other isText =>
      obtain rfl := Option.some.inj given
      exact isText
    next => cases given
  simp only [Attribute.accepts, Attribute.name, Attribute.field, Bool.and_true, isRead] at passing
  have isDate : dashedDate ∈ rules := by
    simp only [fields, List.mem_cons, List.not_mem_nil, or_false, Field.mk.injEq] at member
    rcases member with ⟨-, rfl⟩ | ⟨-, rfl⟩ <;> simp
  have holds : dashedDate.holds rules (.str text) = true :=
    holds_of_passes passing (by simp) isDate
  cases found : DateTime.createFromYmd text with
  | some date => exact ⟨date, rfl⟩
  | none => simp [dashedDate, Rule.holds, hasDateFormat, found] at holds

end PluReportQuery

namespace StockQuery

/-- The filter of `getInventoryData`. No rule names its keys. -/
def filterKeys : List String := ["branchId", "itemCode", "startDate", "endDate"]

/-- `$request->only([...])`. -/
def filterData (input : Entries) : Entries :=
  filterKeys.filterMap fun key => (read input key).map fun value => (.str key, value)

end StockQuery

end TaxGateway.Http
