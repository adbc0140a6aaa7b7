import TaxGateway.Foundations.ArrayMerge
import TaxGateway.Sales.TaxFields
import TaxGateway.Services.Signable

/-!
Contract: the client's tax tables in the payload that `processTransaction` signs.

Owns:
- the three tax maps, with the names their fields are written under and the names the
  comment of `processTransaction` gives them;
- that merging the formatted maps into the header overwrites no field;
- that every table is read under the names it is written under, and the amounts and
  taxes of no payload under the documented ones.

Does not own: which data is accepted, or the journaled payload.
-/

namespace TaxGateway.Sales

open TaxGateway.Php
open TaxGateway.Http
open TaxGateway.Services
open TaxGateway.Services.KraSalesService

/-! ## Tables -/

/-- A tax map of the transaction data, the suffix its fields are formatted with, and
what their names start with in "tax rates (TaxRate1-4) and amounts (Amount1-4,
Tax1-4)". -/
structure SignedTable where
  name : String
  typeSuffix : String
  documented : String

def signedTables : List SignedTable :=
  [⟨"taxRates", "Rate", "TaxRate"⟩, ⟨"taxableAmounts", "Amount", "Amount"⟩,
    ⟨"calculatedTaxes", "Tax", "Tax"⟩]

namespace SignedTable

/-- `$transactionData[$name] ?? []`. -/
def taxData (table : SignedTable) (transactionData : Value) : Value :=
  transactionData.coalesce table.name (.arr [])

/-- The documented name of the field of a label: they are numbered from one. -/
def documentedKey (table : SignedTable) (index : Nat) : String :=
  table.documented ++ toString (index + 1)

/-- The name of the field as it is written. -/
def writtenKey (table : SignedTable) (index : Nat) : String :=
  KraFields.taxKey table.typeSuffix index

/-- What the client gave for a label, `0` when it is absent, rounded to two decimals. -/
def rounded (table : SignedTable) (transactionData : Value) (label : String) : ℚ :=
  roundTo 2 (KraFields.amountOf (table.taxData transactionData) label)

end SignedTable

/-! ## Merging -/

/-- Fields as an array. -/
def asEntries (fields : List (String × Value)) : Entries :=
  fields.map fun field => (.str field.1, field.2)

/-- `$kraReceiptPayload`, its parts put together by `array_merge` and by the assignment
of `ClientsPin`. -/
def mergedPayload (sale : Sale) : Except Throwable Entries := do
  let taxRates ← formatTaxDataForKraXml
    (sale.transactionData.coalesce "taxRates" (.arr [])) "Rate"
  let taxableAmounts ← formatTaxDataForKraXml
    (sale.transactionData.coalesce "taxableAmounts" (.arr [])) "Amount"
  let calculatedTaxes ← formatTaxDataForKraXml
    (sale.transactionData.coalesce "calculatedTaxes" (.arr [])) "Tax"
  let rtype ← getKraReceiptType (← textAt sale.transactionData "receiptType")
  let ttype ← getKraTransactionType (← textAt sale.transactionData "transactionType")
  let rnum ← valueAt sale.transactionData "internalReceiptNumber"
  let merged := [taxRates, taxableAmounts, calculatedTaxes].foldl
    (fun merged fields => Value.arrayMerge merged (asEntries fields))
    (asEntries (receiptHeader sale.now rtype ttype rnum))
  return (clientsPin sale.transactionData).foldl
    (fun merged field => Value.assignKey merged field.1 field.2) merged

/-- The signed payload holds, under the documented names, the client's three tables, and
no field of it was overwritten. -/
structure DecodesTaxTables (sale : Sale) (payload : List (String × Value)) : Prop where
  reads : ∀ table ∈ signedTables, ∀ entry ∈ KraFields.taxLabels.zipIdx,
    KraFields.fieldNumber payload (table.documentedKey entry.2) =
      some (table.rounded sale.transactionData entry.1)
  overwritesNone : mergedPayload sale = .ok (asEntries payload)

section Merging

variable {first second : List (String × Value)}

theorem asEntries_append (first second : List (String × Value)) :
    asEntries (first ++ second) = asEntries first ++ asEntries second :=
  List.map_append

theorem keys_asEntries (fields : List (String × Value)) :
    (asEntries fields).map Prod.fst = (fields.map Prod.fst).map Key.str := by
  rw [asEntries, List.map_map, List.map_map]
  rfl

theorem nodup_asEntries (distinct : (first.map Prod.fst).Nodup) :
    ((asEntries first).map Prod.fst).Nodup := by
  rw [keys_asEntries]
  exact distinct.map fun _ _ same => Key.str.inj same

/-- Fields of different names are merged one behind the other. -/
theorem arrayMerge_asEntries (distinct : ((first ++ second).map Prod.fst).Nodup) :
    Value.arrayMerge (asEntries first) (asEntries second) = asEntries (first ++ second) := by
  have keys := nodup_asEntries distinct
  rw [asEntries_append] at keys ⊢
  apply Value.arrayMerge_eq_append keys
  intro key member
  rw [← asEntries_append, keys_asEntries] at member
  obtain ⟨name, -, rfl⟩ := List.mem_map.mp member
  exact ⟨name, rfl⟩

/-- A field of a new name is added last. -/
theorem assignKey_asEntries {name : String} (isNew : name ∉ first.map Prod.fst) (value : Value) :
    Value.assignKey (asEntries first) name value = asEntries (first ++ [(name, value)]) := by
  rw [asEntries_append]
  apply Value.assignKey_of_notMem
  rw [keys_asEntries]
  intro isThere
  obtain ⟨other, member, same⟩ := List.mem_map.mp isThere
  obtain rfl := Key.str.inj same
  exact isNew member

end Merging

/-! ## Names -/

section Assembled

variable {sale : Sale} {payload : List (String × Value)}

/-- The fields of the three tables. -/
def tableFields (transactionData : Value) : List (String × Value) :=
  signedTables.flatMap fun table =>
    KraFields.taxFields (table.taxData transactionData) table.typeSuffix

theorem map_fst_tableFields (transactionData : Value) :
    (tableFields transactionData).map Prod.fst = allTaxKeys := by
  simp only [tableFields, signedTables, List.flatMap_cons, List.flatMap_nil, List.append_nil,
    List.map_append, KraFields.map_fst_taxFields, allTaxKeys, List.append_assoc]

theorem map_fst_clientsPin (transactionData : Value) :
    List.Sublist ((clientsPin transactionData).map Prod.fst) ["ClientsPin"] := by
  unfold clientsPin
  dsimp only
  split
  next => exact List.nil_sublist _
  next => exact List.Sublist.refl _

/-- No two fields of a payload have the same name. -/
theorem nodup_fieldNames (now : DateTime) (rtype ttype : String) (rnum transactionData : Value) :
    ((receiptHeader now rtype ttype rnum ++ tableFields transactionData ++
      clientsPin transactionData).map Prod.fst).Nodup := by
  have all : (signingNames ++ allTaxKeys ++ ["ClientsPin"]).Nodup := by decide
  rw [List.map_append, List.map_append, map_fst_tableFields]
  exact all.sublist ((List.Sublist.refl _).append (map_fst_clientsPin transactionData))

/-- The names under which the amounts and taxes are documented are none of them. -/
theorem documentedKey_notMem {table : SignedTable} (member : table ∈ signedTables.tail)
    {index : Nat} (isLabel : index < KraFields.taxLabels.length) :
    table.documentedKey index ∉ signingNames ++ allTaxKeys ++ ["ClientsPin"] := by
  have apart : ∀ table ∈ signedTables.tail, ∀ index < KraFields.taxLabels.length,
      table.documentedKey index ∉ signingNames ++ allTaxKeys ++ ["ClientsPin"] := by
    decide
  exact apart table member index isLabel

/-- Assigning the buyer's PIN adds it. -/
theorem foldl_clientsPin {fields : List (String × Value)} {transactionData : Value}
    (distinct : ((fields ++ clientsPin transactionData).map Prod.fst).Nodup) :
    (clientsPin transactionData).foldl
        (fun merged field => Value.assignKey merged field.1 field.2) (asEntries fields) =
      asEntries (fields ++ clientsPin transactionData) := by
  unfold clientsPin at distinct ⊢
  dsimp only at distinct ⊢
  split at distinct
  next empty => rw [if_pos empty, List.foldl_nil, List.append_nil]
  next filled =>
    rw [if_neg filled, List.foldl_cons, List.foldl_nil]
    rw [List.map_append, List.nodup_append] at distinct
    apply assignKey_asEntries
    intro isThere
    exact distinct.2.2 "ClientsPin" isThere "ClientsPin" (by simp) rfl

/-! ## Assembling -/

/-- Whatever is formatted is a tax map's five fields. -/
theorem eq_taxFields_of_formatted {taxData : Value} {typeSuffix : String}
    {fields : List (String × Value)}
    (formatted : formatTaxDataForKraXml taxData typeSuffix = .ok fields) :
    fields = KraFields.taxFields taxData typeSuffix := by
  unfold formatTaxDataForKraXml KraFields.formatTaxDataForKraXml at formatted
  split at formatted
  next =>
    unfold KraFields.taxFields
    generalize KraFields.taxLabels.zipIdx = entries at formatted ⊢
    have written := mapM_eq_ok formatted
    clear formatted
    induction written with
    | nil => rfl
    | cons first _ inductionHypothesis =>
        obtain ⟨number, isNumber, same⟩ := bind_eq_ok.mp first
        rw [List.map_cons, ← inductionHypothesis, ← Except.ok.inj same, KraFields.amountOf,
          isNumber]
        rfl
  next => cases formatted

/-- What an assembled payload is made of, and that merging makes the same of it. -/
theorem exists_assembled (assembled : receiptPayload sale = .ok payload) :
    ∃ rtype ttype rnum,
      payload = receiptHeader sale.now rtype ttype rnum ++ tableFields sale.transactionData ++
        clientsPin sale.transactionData ∧
      mergedPayload sale = .ok (asEntries payload) := by
  obtain ⟨rates, amounts, taxes, receiptType, rtype, transactionType, ttype, rnum, ratesOk,
    amountsOk, taxesOk, receiptOk, rtypeOk, transactionOk, ttypeOk, rnumOk, rfl⟩ :=
    receiptPayload_eq_ok.mp assembled
  have fields : rates ++ (amounts ++ taxes) = tableFields sale.transactionData := by
    rw [eq_taxFields_of_formatted ratesOk, eq_taxFields_of_formatted amountsOk,
      eq_taxFields_of_formatted taxesOk]
    simp [tableFields, signedTables, SignedTable.taxData]
  have distinct := nodup_fieldNames sale.now rtype ttype rnum sale.transactionData
  rw [← fields] at distinct
  simp only [← List.append_assoc] at distinct
  generalize isHeader : receiptHeader sale.now rtype ttype rnum = header at distinct
  have merged : [rates, amounts, taxes].foldl
      (fun merged fields => Value.arrayMerge merged (asEntries fields)) (asEntries header) =
        asEntries (header ++ rates ++ amounts ++ taxes) := by
    have all := distinct.sublist ((List.sublist_append_left _ _).map Prod.fst)
    have two := all.sublist ((List.sublist_append_left _ taxes).map Prod.fst)
    have one := two.sublist ((List.sublist_append_left _ amounts).map Prod.fst)
    simp only [List.foldl_cons, List.foldl_nil]
    rw [arrayMerge_asEntries one, arrayMerge_asEntries two, arrayMerge_asEntries all]
  refine ⟨rtype, ttype, rnum, ?_, ?_⟩
  · simp only [← fields, isHeader, List.append_assoc]
  · simp only [mergedPayload, ratesOk, amountsOk, taxesOk, receiptOk, rtypeOk, transactionOk,
      ttypeOk, rnumOk, ok_bind, isHeader, merged]
    exact congrArg Except.ok (foldl_clientsPin distinct)

/-! ## Reading -/

/-- Every table is read under the names it is written under. -/
theorem fieldNumber_writtenKey (assembled : receiptPayload sale = .ok payload)
    {table : SignedTable} (member : table ∈ signedTables) {entry : String × Nat}
    (isLabel : entry ∈ KraFields.taxLabels.zipIdx) :
    KraFields.fieldNumber payload (table.writtenKey entry.2) =
      some (table.rounded sale.transactionData entry.1) := by
  obtain ⟨rtype, ttype, rnum, rfl, -⟩ := exists_assembled assembled
  apply KraFields.fieldNumber_of_lookup
  apply lookup_eq_some_of_mem (nodup_fieldNames _ _ _ _ _)
  apply List.mem_append_left
  apply List.mem_append_right
  exact List.mem_flatMap.mpr ⟨table, member, List.mem_map_of_mem isLabel⟩

/-- Nothing is found under the documented names of the amounts and the taxes. -/
theorem fieldNumber_documentedKey (assembled : receiptPayload sale = .ok payload)
    {table : SignedTable} (member : table ∈ signedTables.tail) {index : Nat}
    (isLabel : index < KraFields.taxLabels.length) :
    KraFields.fieldNumber payload (table.documentedKey index) = none := by
  obtain ⟨rtype, ttype, rnum, rfl, -⟩ := exists_assembled assembled
  have notNamed := documentedKey_notMem member isLabel
  have absent : table.documentedKey index ∉ (receiptHeader sale.now rtype ttype rnum ++
      tableFields sale.transactionData ++ clientsPin sale.transactionData).map Prod.fst := by
    intro named
    rw [List.map_append, List.map_append, map_fst_tableFields] at named
    have names := (List.Sublist.refl (signingNames ++ allTaxKeys)).append
      (map_fst_clientsPin sale.transactionData)
    exact notNamed (names.subset named)
  rw [KraFields.fieldNumber, lookup_eq_none_of_notMem absent, Option.bind_none]

/-- The documented name of a rate is the one it is written under. -/
theorem documentedKey_of_taxRates {table : SignedTable} (member : table ∈ signedTables)
    (isRates : table.name = "taxRates") (index : Nat) :
    table.documentedKey index = table.writtenKey index := by
  simp only [signedTables, List.mem_cons, List.not_mem_nil, or_false] at member
  rcases member with rfl | rfl | rfl
  · rfl
  · exact absurd isRates (by decide)
  · exact absurd isRates (by decide)

theorem mem_tail_signedTables {table : SignedTable} (member : table ∈ signedTables)
    (notRates : table.name ≠ "taxRates") : table ∈ signedTables.tail := by
  rcases List.mem_cons.mp member with rfl | isLater
  · exact absurd rfl notRates
  · exact isLater

/-- A table is found under its documented names exactly when it is that of the rates. -/
theorem fieldNumber_documentedKey_iff (assembled : receiptPayload sale = .ok payload)
    {table : SignedTable} (member : table ∈ signedTables) {entry : String × Nat}
    (isLabel : entry ∈ KraFields.taxLabels.zipIdx) :
    KraFields.fieldNumber payload (table.documentedKey entry.2) =
        some (table.rounded sale.transactionData entry.1) ↔
      table.name = "taxRates" := by
  constructor
  · intro read
    by_contra notRates
    have small : entry.2 < KraFields.taxLabels.length :=
      (List.mem_zipIdx' isLabel).1
    rw [fieldNumber_documentedKey assembled (mem_tail_signedTables member notRates) small] at read
    contradiction
  · intro isRates
    rw [documentedKey_of_taxRates member isRates]
    exact fieldNumber_writtenKey assembled member isLabel

theorem not_decodesTaxTables (assembled : receiptPayload sale = .ok payload) :
    ¬ DecodesTaxTables sale payload := by
  intro decodes
  have isTable : (⟨"taxableAmounts", "Amount", "Amount"⟩ : SignedTable) ∈ signedTables := by
    simp [signedTables]
  have isLabel : ("A", 0) ∈ KraFields.taxLabels.zipIdx := by decide
  have isRates := (fieldNumber_documentedKey_iff assembled isTable isLabel).mp
    (decodes.reads _ isTable _ isLabel)
  exact absurd isRates (by decide)

/-- No payload decodes to the client's tax tables under the documented names: merging
overwrites no field and every table is written, but of the three only the rates under
the names of the comment. -/
theorem tax_tables_misnamed (assembled : receiptPayload sale = .ok payload) :
    ¬ DecodesTaxTables sale payload ∧
      mergedPayload sale = .ok (asEntries payload) ∧
      ∀ table ∈ signedTables, ∀ entry ∈ KraFields.taxLabels.zipIdx,
        KraFields.fieldNumber payload (table.writtenKey entry.2) =
            some (table.rounded sale.transactionData entry.1) ∧
          (KraFields.fieldNumber payload (table.documentedKey entry.2) =
              some (table.rounded sale.transactionData entry.1) ↔
            table.name = "taxRates") := by
  obtain ⟨-, -, -, -, merged⟩ := exists_assembled assembled
  refine ⟨not_decodesTaxTables assembled, merged, ?_⟩
  intro table member entry isLabel
  exact ⟨fieldNumber_writtenKey assembled member isLabel,
    fieldNumber_documentedKey_iff assembled member isLabel⟩

end Assembled

/-! ## The sale of bread -/

theorem receiptPayload_breadSale_returns :
    (receiptPayload (breadSale "1")).toOption.isSome = true := by decide +kernel

theorem tax_tables_misnamed_breadSale :
    ∃ payload, receiptPayload (breadSale "1") = .ok payload ∧
      ¬ DecodesTaxTables (breadSale "1") payload ∧
      mergedPayload (breadSale "1") = .ok (asEntries payload) := by
  have assembled := eq_ok_of_returns receiptPayload_breadSale_returns
  obtain ⟨misread, merged, -⟩ := tax_tables_misnamed assembled
  exact ⟨_, assembled, misread, merged⟩

/-- Its taxable amount of 100 is signed as `TaxAmount1`, and there is no `Amount1`. -/
theorem breadSale_amount_misnamed :
    ∃ payload, receiptPayload (breadSale "1") = .ok payload ∧
      KraFields.fieldNumber payload "TaxAmount1" = some 100 ∧
      payload.lookup "Amount1" = none ∧ payload.lookup "Tax1" = none ∧
      ¬ DecodesTaxTables (breadSale "1") payload := by
  have assembled := eq_ok_of_returns receiptPayload_breadSale_returns
  refine ⟨_, assembled, ?_, ?_, ?_, not_decodesTaxTables assembled⟩
  · decide +kernel
  · decide +kernel
  · decide +kernel

end TaxGateway.Sales
