import TaxGateway.Http.ProcessTransactionRequest
import TaxGateway.Jobs.ProcessKraJournalingJob

/-!
Contract: what the item lines of a journal say about the goods.

Owns:
- `Describes`, a line that carries its item's description, quantity, price and
  tax;
- the fields of a built `SEND_RECEIPTITEM`, for any stored item;
- the exact condition under which the journal of an accepted request describes
  its items, and the independence of the lines from the descriptions.

Does not own: whether the lines reach KRA.
-/

namespace TaxGateway.Jobs.ProcessKraJournalingJob

open TaxGateway.Php
open TaxGateway.Validation
open TaxGateway.Database
open TaxGateway.Http
open TaxGateway.Http.ProcessTransactionRequest
open TaxGateway.Services

/-! ## The fields of a line -/

theorem optionalAmount_eq_ok {item : Value} {key field : String}
    {fields : List (String × Value)} (built : optionalAmount item key field = .ok fields) :
    (item.coalesce key .null).isEmpty = true ∧ fields = [] ∨
      ∃ number, (item.coalesce key .null).toNumber = .ok number ∧
        fields = [(field, .str (numberFormat 2 number))] := by
  simp only [optionalAmount] at built
  split at built
  next empty => exact .inl ⟨empty, (Except.ok.inj built).symm⟩
  next =>
    obtain ⟨number, isNumber, returned⟩ := bind_eq_ok.mp built
    exact .inr ⟨number, isNumber, (Except.ok.inj returned).symm⟩

section Lines

variable {transaction : Transaction} {item : Value} {itemIndex : Int}
  {data : List (String × Value)}

theorem lookup_itemName (built : receiptItemPayload transaction item itemIndex = .ok data) :
    data.lookup "ItemName" = some (item.coalesce "name" (.str "Unknown Item")) := by
  obtain ⟨_, _, _, _, -, -, -, -, rfl⟩ := receiptItemPayload_eq_ok built
  exact lookup_of_fields (lookup_of_fields rfl)

theorem lookup_itemQuantity
    (built : receiptItemPayload transaction item itemIndex = .ok data) :
    data.lookup "ItemQuantity" = some (item.coalesce "quantity" (.num 1)) := by
  obtain ⟨_, _, _, _, -, -, -, -, rfl⟩ := receiptItemPayload_eq_ok built
  exact lookup_of_fields (lookup_of_fields rfl)

theorem lookup_itemPrice (built : receiptItemPayload transaction item itemIndex = .ok data)
    {number : ℚ} (price : (item.coalesce "unitPrice" (.num 0)).toNumber = .ok number) :
    data.lookup "ItemPrice" = some (.str (numberFormat 2 number)) := by
  obtain ⟨itemPrice, _, _, _, priced, -, -, -, rfl⟩ := receiptItemPayload_eq_ok built
  obtain rfl := Except.ok.inj (priced.symm.trans price)
  exact lookup_of_fields (lookup_of_fields rfl)

theorem lookup_itemTotal (built : receiptItemPayload transaction item itemIndex = .ok data)
    {number : ℚ} (total : (item.coalesce "totalAmount" (.num 0)).toNumber = .ok number) :
    data.lookup "ItemTotal" = some (.str (numberFormat 2 number)) := by
  obtain ⟨_, itemTotal, _, _, -, totalled, -, -, rfl⟩ := receiptItemPayload_eq_ok built
  obtain rfl := Except.ok.inj (totalled.symm.trans total)
  exact lookup_of_fields (lookup_of_fields rfl)

/-- The tax of an item is on its line unless it is zero. -/
theorem lookup_itemTaxAmount
    (built : receiptItemPayload transaction item itemIndex = .ok data)
    {number : ℚ} (tax : (item.coalesce "taxAmount" .null).toNumber = .ok number)
    (nonzero : number ≠ 0) :
    data.lookup "ItemTaxAmount" = some (.str (numberFormat 2 number)) := by
  obtain ⟨_, _, taxRate, taxAmount, -, -, rate, amount, rfl⟩ :=
    receiptItemPayload_eq_ok built
  have noRate : taxRate.lookup "ItemTaxAmount" = none := by
    rcases optionalAmount_eq_ok rate with ⟨-, rfl⟩ | ⟨_, -, rfl⟩ <;> rfl
  have written : taxAmount = [("ItemTaxAmount", .str (numberFormat 2 number))] := by
    rcases optionalAmount_eq_ok amount with ⟨empty, -⟩ | ⟨other, isNumber, rfl⟩
    · exact absurd (Value.eq_zero_of_isEmpty tax empty) nonzero
    · obtain rfl := Except.ok.inj (isNumber.symm.trans tax)
      rfl
  have noField : ∀ itemPrice itemTotal,
      (receiptItemFields transaction item itemIndex itemPrice itemTotal).lookup
        "ItemTaxAmount" = none := fun _ _ => rfl
  rw [List.lookup_append, List.lookup_append, noField, noRate, written]
  rfl

end Lines

/-! ## Lines that describe their items -/

/-- A line of the journal says what the item says. -/
structure Describes (item : Value) (line : List (String × Value)) : Prop where
  name : line.lookup "ItemName" = item.index "description"
  quantity : line.lookup "ItemQuantity" = item.index "quantity"
  price : ∃ unitPrice number, item.index "unitPrice" = some unitPrice ∧
    unitPrice.toNumber = .ok number ∧
    line.lookup "ItemPrice" = some (.str (numberFormat 2 number))
  tax : ∀ taxAmount number, item.index "taxAmount" = some taxAmount →
    taxAmount.toNumber = .ok number → number ≠ 0 →
    line.lookup "ItemTaxAmount" = some (.str (numberFormat 2 number))

/-- Line by line, an attempt's plan describes the items. -/
def JournalDescribes (device : KraDevice) (transaction : Transaction)
    (items : Entries) : Prop :=
  ∀ (k : Nat) (entry : Key × Value), items[k]? = some entry →
    ∃ command : KraCommand,
      (journalPlan device transaction)[k]? = some (Except.ok command) ∧
      command.xml.command = "SEND_RECEIPTITEM" ∧ Describes entry.2 command.xml.data

/-! ## Items of an accepted request -/

section Accepted

variable {request : AcceptedRequest} {entry : Key × Value}

/-- A numeric field of an accepted item is a number, its default included. -/
theorem toNumber_coalesce {rules : List Rule} {item fallback : Value} {key : String}
    (accepted : passes rules (item.index key) = true) (numeric : Rule.numeric ∈ rules)
    (default : ∃ number, fallback.toNumber = .ok number) :
    ∃ number, (item.coalesce key fallback).toNumber = .ok number := by
  cases present : item.index key with
  | none => rwa [Value.coalesce_of_index_none present]
  | some value =>
      by_cases isNull : value = .null
      · subst isNull
        simpa [Value.coalesce, present] using default
      · rw [Value.coalesce_of_index_some present isNull]
        rw [present] at accepted
        exact Value.toNumber_ok_of_isNumeric (isNumeric_of_passes accepted isNull numeric)

/-- A required numeric field of an accepted item. -/
theorem required_number (member : entry ∈ request.items) {field : String}
    (isField : (⟨field, [.required, .numeric]⟩ : Field) ∈ itemFields) :
    ∃ value number, entry.2.index field = some value ∧ value ≠ .null ∧
      value.isNumeric = true ∧ value.toNumber = .ok number := by
  have passing := request.item_passes member isField
  obtain ⟨value, found, notNull⟩ := exists_of_passes_required passing (by simp)
  rw [found] at passing
  have numeric := isNumeric_of_passes passing notNull (by simp)
  obtain ⟨number, isNumber⟩ := Value.toNumber_ok_of_isNumeric numeric
  exact ⟨value, number, found, notNull, numeric, isNumber⟩

theorem item_quantity (member : entry ∈ request.items) :
    ∃ quantity, entry.2.index "quantity" = some quantity ∧
      entry.2.coalesce "quantity" (.num 1) = quantity ∧ quantity.isArray = false := by
  obtain ⟨quantity, _, found, notNull, numeric, -⟩ :=
    required_number member (by simp [itemFields] :
      (⟨"quantity", [.required, .numeric]⟩ : Field) ∈ itemFields)
  refine ⟨quantity, found, Value.coalesce_of_index_some found notNull, ?_⟩
  cases quantity with
  | arr entries => simp [Value.isNumeric] at numeric
  | null | bool _ | num _ | str _ => rfl

/-- The job reads the name and the code of an item under keys that no accepted
item has. -/
theorem item_unread (member : entry ∈ request.items) {key : String}
    (drifted : key ∈ ["name", "code", "taxRate"]) (fallback : Value) :
    entry.2.coalesce key fallback = fallback := by
  apply Value.coalesce_of_index_none
  apply request.item_index_of_notMem member
  simp only [List.mem_cons, List.not_mem_nil, or_false] at drifted
  rcases drifted with rfl | rfl | rfl <;> simp [itemFields]

/-- A numeric field of an accepted item can be read with a numeric default. -/
theorem item_number (member : entry ∈ request.items) {key : String} {rules : List Rule}
    (isField : (⟨key, rules⟩ : Field) ∈ itemFields) (numeric : Rule.numeric ∈ rules)
    {fallback : Value} (default : ∃ number, fallback.toNumber = .ok number) :
    ∃ number, (entry.2.coalesce key fallback).toNumber = .ok number :=
  toNumber_coalesce (request.item_passes member isField) numeric default

theorem optionalAmount_ok {item : Value} {key : String} (field : String) {number : ℚ}
    (isNumber : (item.coalesce key .null).toNumber = .ok number) :
    ∃ fields, optionalAmount item key field = .ok fields ∧
      (fields.any fun child => child.2.isArray) = false := by
  simp only [optionalAmount, isNumber]
  split
  · exact ⟨[], rfl, rfl⟩
  · exact ⟨[(field, .str (numberFormat 2 number))], rfl, rfl⟩

/-- The payload of an accepted item can be built, and holds scalars only. -/
theorem receiptItemPayload_ok (member : entry ∈ request.items) (transaction : Transaction)
    (itemIndex : Int) :
    ∃ data, receiptItemPayload transaction entry.2 itemIndex = .ok data ∧
      (data.any fun child => child.2.isArray) = false := by
  have zero : ∃ number, (Value.num 0).toNumber = .ok number := ⟨0, rfl⟩
  have nothing : ∃ number, Value.null.toNumber = .ok number := ⟨0, rfl⟩
  have isPrice : (⟨"unitPrice", [.required, .numeric]⟩ : Field) ∈ itemFields := by
    simp [itemFields]
  have isTotal : (⟨"totalAmount", [.nullable, .numeric]⟩ : Field) ∈ itemFields := by
    simp [itemFields]
  have isTax : (⟨"taxAmount", [.nullable, .numeric]⟩ : Field) ∈ itemFields := by
    simp [itemFields]
  obtain ⟨price, priced⟩ := item_number member isPrice (by simp) zero
  obtain ⟨total, totalled⟩ := item_number member isTotal (by simp) zero
  obtain ⟨tax, taxed⟩ := item_number member isTax (by simp) nothing
  have noName : "name" ∈ ["name", "code", "taxRate"] := by simp
  have noCode : "code" ∈ ["name", "code", "taxRate"] := by simp
  have noRate : "taxRate" ∈ ["name", "code", "taxRate"] := by simp
  have rate : optionalAmount entry.2 "taxRate" "ItemTaxRate" = .ok [] := by
    simp only [optionalAmount, item_unread member noRate .null]
    rfl
  obtain ⟨taxFields, taxBuilt, taxScalars⟩ := optionalAmount_ok "ItemTaxAmount" taxed
  obtain ⟨quantity, -, read, quantityScalar⟩ := item_quantity member
  refine ⟨receiptItemFields transaction entry.2 itemIndex price total ++ [] ++ taxFields,
    ?_, ?_⟩
  · simp only [receiptItemPayload, priced, totalled, rate, taxBuilt]
    rfl
  · rw [List.append_nil, List.any_append, taxScalars, Bool.or_false]
    simp [receiptItemFields, item_unread member noName, item_unread member noCode, read,
      quantityScalar]

/-- The line of an accepted item can be built once its key is a number. -/
theorem sendReceiptItem_ok (member : entry ∈ request.items) {itemIndex : Int}
    (converted : entry.1.toInt "sendReceiptItem(): Argument #5 ($itemIndex)" =
      .ok itemIndex) (pin : String) (transaction : Transaction) :
    ∃ command, sendReceiptItem pin transaction entry = .ok command := by
  obtain ⟨data, payload, scalars⟩ := receiptItemPayload_ok member transaction itemIndex
  refine ⟨⟨"/api/journal/receipt-item", ⟨pin, "SEND_RECEIPTITEM", data⟩⟩, ?_⟩
  rw [sendReceiptItem, if_pos (request.item_isArray member)]
  refine bind_eq_ok.mpr ⟨itemIndex, converted, bind_eq_ok.mpr ⟨data, payload, ?_⟩⟩
  exact bind_eq_ok.mpr ⟨_, buildKraXml_eq_ok.mpr ⟨scalars, rfl⟩, rfl⟩

/-- Quantity, price and tax are always right; the name only by coincidence. -/
theorem describes_iff (member : entry ∈ request.items) {transaction : Transaction}
    {itemIndex : Int} {line : List (String × Value)}
    (built : receiptItemPayload transaction entry.2 itemIndex = .ok line) :
    Describes entry.2 line ↔
      entry.2.index "description" = some (.str "Unknown Item") := by
  have noName : "name" ∈ ["name", "code", "taxRate"] := by simp
  have named : line.lookup "ItemName" = some (.str "Unknown Item") := by
    rw [lookup_itemName built, item_unread member noName]
  constructor
  · intro describes
    rw [← describes.name, named]
  · intro unknown
    have isPrice : (⟨"unitPrice", [.required, .numeric]⟩ : Field) ∈ itemFields := by
      simp [itemFields]
    obtain ⟨quantity, found, read, -⟩ := item_quantity member
    obtain ⟨unitPrice, number, priced, notNull, -, isNumber⟩ :=
      required_number member isPrice
    refine ⟨named.trans unknown.symm, ?_, ⟨unitPrice, number, priced, isNumber, ?_⟩, ?_⟩
    · rw [lookup_itemQuantity built, read, found]
    · apply lookup_itemPrice built
      rwa [Value.coalesce_of_index_some priced notNull]
    · intro taxAmount tax present taxed nonzero
      have notNull : taxAmount ≠ .null := by
        rintro rfl
        exact nonzero (Except.ok.inj taxed).symm
      apply lookup_itemTaxAmount built _ nonzero
      rwa [Value.coalesce_of_index_some present notNull]

end Accepted

/-! ## Journals of accepted requests -/

theorem itemEntries_of_validated (request : AcceptedRequest) :
    itemEntries request.validated = .ok request.items := by
  have read : request.validated.coalesce "items" .null = .arr request.items :=
    Value.coalesce_of_index_some request.validated_items (Value.arr_ne_null _)
  have notEmpty : ¬ (Value.arr request.items).isEmpty = true := by
    simpa [Value.isEmpty] using request.items_ne_nil
  simp only [itemEntries, read]
  exact if_neg notEmpty

/-- Step `k` of the plan is the line of item `k`. -/
theorem journalPlan_of_validated {request : AcceptedRequest} {device : KraDevice}
    {transaction : Transaction} {pin : String} (hasPin : device.pin = .ok pin)
    (stored : transaction.requestPayload = request.validated) :
    journalPlan device transaction =
      request.items.map (sendReceiptItem pin transaction) ++
        [sendReceiptJournal pin transaction] := by
  simp only [journalPlan, hasPin, stored, itemEntries_of_validated]

/-- The condition, from one line to all of them. -/
theorem journalDescribes_iff {request : AcceptedRequest} {device : KraDevice}
    {transaction : Transaction} {pin : String} (hasPin : device.pin = .ok pin)
    (stored : transaction.requestPayload = request.validated) :
    JournalDescribes device transaction request.items ↔
      ∀ entry ∈ request.items,
        (∃ itemIndex,
          entry.1.toInt "sendReceiptItem(): Argument #5 ($itemIndex)" = .ok itemIndex) ∧
        entry.2.index "description" = some (.str "Unknown Item") := by
  have lineAt : ∀ (k : Nat) (entry : Key × Value), request.items[k]? = some entry →
      (journalPlan device transaction)[k]? = some (sendReceiptItem pin transaction entry) := by
    intro k entry atK
    obtain ⟨below, -⟩ := List.getElem?_eq_some_iff.mp atK
    rw [journalPlan_of_validated hasPin stored,
      List.getElem?_append_left (by simpa using below), List.getElem?_map, atK]
    rfl
  constructor
  · intro describes entry member
    obtain ⟨k, atK⟩ := List.mem_iff_getElem?.mp member
    obtain ⟨command, planned, -, described⟩ := describes k entry atK
    have built := Option.some.inj ((lineAt k entry atK).symm.trans planned)
    obtain ⟨-, itemIndex, data, converted, payload, rfl⟩ := sendReceiptItem_eq_ok built
    exact ⟨⟨itemIndex, converted⟩, (describes_iff member payload).mp described⟩
  · intro coincidence k entry atK
    have member := List.mem_of_getElem? atK
    obtain ⟨⟨itemIndex, converted⟩, unknown⟩ := coincidence entry member
    obtain ⟨command, built⟩ := sendReceiptItem_ok member converted pin transaction
    obtain ⟨-, _, data, -, payload, rfl⟩ := sendReceiptItem_eq_ok built
    exact ⟨_, (lineAt k entry atK).trans (congrArg some built), rfl,
      (describes_iff member payload).mpr unknown⟩

/-- Two stored items that differ at most in their descriptions. -/
def SameButDescription (first second : Key × Value) : Prop :=
  first.1 = second.1 ∧ first.2.isArray = second.2.isArray ∧
    ∀ key, key ≠ "description" → first.2.index key = second.2.index key

/-- The line of an item does not depend on its description. -/
theorem sendReceiptItem_congr {first second : Key × Value} {one other : Transaction}
    (same : SameButDescription first second)
    (receipt : one.internalReceiptNumber = other.internalReceiptNumber) (pin : String) :
    sendReceiptItem pin one first = sendReceiptItem pin other second := by
  obtain ⟨keys, arrays, fields⟩ := same
  have read : ∀ key, key ≠ "description" → ∀ fallback,
      first.2.coalesce key fallback = second.2.coalesce key fallback := by
    intro key notDescription fallback
    rw [Value.coalesce, Value.coalesce, fields key notDescription]
  have payload : ∀ itemIndex,
      receiptItemPayload one first.2 itemIndex =
        receiptItemPayload other second.2 itemIndex := by
    intro itemIndex
    simp only [receiptItemPayload, receiptItemFields, optionalAmount, receipt,
      read "unitPrice" (by decide), read "totalAmount" (by decide),
      read "taxRate" (by decide), read "taxAmount" (by decide), read "name" (by decide),
      read "code" (by decide), read "quantity" (by decide)]
  simp only [sendReceiptItem, keys, arrays, payload]

theorem map_sendReceiptItem_congr {first second : Entries} {one other : Transaction}
    (same : List.Forall₂ SameButDescription first second)
    (receipt : one.internalReceiptNumber = other.internalReceiptNumber) (pin : String) :
    first.map (sendReceiptItem pin one) = second.map (sendReceiptItem pin other) := by
  induction same with
  | nil => rfl
  | cons heads _ inductionHypothesis =>
      rw [List.map_cons, List.map_cons, sendReceiptItem_congr heads receipt pin,
        inductionHypothesis]

/-- The journal of an accepted request describes its items exactly when every
item key is a number and every item is called `Unknown Item`. Two requests whose
items differ in nothing but descriptions have the same item lines. -/
theorem journal_describes_iff {request : AcceptedRequest} {device : KraDevice}
    {transaction : Transaction} {pin : String} (hasPin : device.pin = .ok pin)
    (stored : transaction.requestPayload = request.validated) :
    (JournalDescribes device transaction request.items ↔
      ∀ entry ∈ request.items,
        (∃ itemIndex,
          entry.1.toInt "sendReceiptItem(): Argument #5 ($itemIndex)" = .ok itemIndex) ∧
        entry.2.index "description" = some (.str "Unknown Item")) ∧
    ∀ (other : AcceptedRequest) (transaction' : Transaction),
      transaction'.requestPayload = other.validated →
      transaction'.internalReceiptNumber = transaction.internalReceiptNumber →
      List.Forall₂ SameButDescription request.items other.items →
      (journalPlan device transaction).dropLast =
        (journalPlan device transaction').dropLast := by
  refine ⟨journalDescribes_iff hasPin stored, ?_⟩
  intro other transaction' stored' receipt same
  rw [journalPlan_of_validated hasPin stored, journalPlan_of_validated hasPin stored',
    List.dropLast_concat, List.dropLast_concat,
    map_sendReceiptItem_congr same receipt.symm]

/-- The theorem at a sale of bread. -/
theorem journal_describes_iff_breadSale :
    JournalDescribes shopDevice (breadTransaction AcceptedRequest.breadSale.validated)
        AcceptedRequest.breadSale.items ↔
      ∀ entry ∈ AcceptedRequest.breadSale.items,
        (∃ itemIndex,
          entry.1.toInt "sendReceiptItem(): Argument #5 ($itemIndex)" = .ok itemIndex) ∧
        entry.2.index "description" = some (.str "Unknown Item") :=
  (journal_describes_iff (show shopDevice.pin = .ok "P051234567X" from rfl) rfl).1

/-- The bread on the receipt is an `Unknown Item` in the journal. -/
theorem breadSale_not_described :
    ¬ JournalDescribes shopDevice (breadTransaction AcceptedRequest.breadSale.validated)
        AcceptedRequest.breadSale.items := by
  intro describes
  have hasPin : shopDevice.pin = .ok "P051234567X" := rfl
  obtain ⟨entry, others, items⟩ :=
    List.exists_cons_of_ne_nil AcceptedRequest.breadSale.items_ne_nil
  have unknown := ((journalDescribes_iff hasPin rfl).mp describes entry (by simp [items])).2
  have bread : AcceptedRequest.breadSale.items.head?.bind
      (fun item => item.2.index "description") = some (.str "Bread") := rfl
  simp [items, unknown] at bread

end TaxGateway.Jobs.ProcessKraJournalingJob
