import TaxGateway.Jobs.ProcessKraJournalingJob
import TaxGateway.Sales.Recording

/-!
Contract: the tax fields of the two `SEND_RECEIPT` payloads of an accepted
request, the signed one and the journaled one.

Owns:
- the signed amounts as numbers, and how far they are from the receipt total;
- the tax fields of the journal, map by map;
- the exact condition under which both payloads report the same tax data.

Does not own: the item lines, or the receipt's other fields.
-/

namespace TaxGateway.Sales

open TaxGateway.Php
open TaxGateway.Validation
open TaxGateway.Database
open TaxGateway.Http
open TaxGateway.Http.ProcessTransactionRequest
open TaxGateway.Services
open TaxGateway.Services.KraSalesService

/-! ## Field names -/

/-- The names of the fifteen tax fields. -/
def allTaxKeys : List String :=
  KraFields.taxKeys "Rate" ++ KraFields.taxKeys "Amount" ++ KraFields.taxKeys "Tax"

/-- Tax fields are told from the others by how their names start. -/
def isTaxKey (key : String) : Bool := key.toList.take 3 = ['T', 'a', 'x']

theorem map_fst_acceptedTaxFields (request : AcceptedRequest) :
    (acceptedTaxFields request).map Prod.fst = allTaxKeys := by
  simp only [acceptedTaxFields, allTaxKeys, List.map_append, KraFields.map_fst_taxFields]

/-- Every tax key has a field with a two-decimal text. -/
theorem exists_lookup_acceptedTaxFields (request : AcceptedRequest) {key : String}
    (isTax : key ∈ allTaxKeys) :
    ∃ number, (acceptedTaxFields request).lookup key =
      some (.str (numberFormat 2 number)) := by
  have named : key ∈ (acceptedTaxFields request).map Prod.fst := by
    rwa [map_fst_acceptedTaxFields]
  obtain ⟨value, found, member⟩ := exists_lookup_of_named named
  have written : ∃ number, value = .str (numberFormat 2 number) := by
    simp only [acceptedTaxFields, List.mem_append] at member
    rcases member with (rate | amount) | tax
    · exact KraFields.eq_numberFormat_of_mem_taxFields rate
    · exact KraFields.eq_numberFormat_of_mem_taxFields amount
    · exact KraFields.eq_numberFormat_of_mem_taxFields tax
  obtain ⟨number, rfl⟩ := written
  exact ⟨number, found⟩

/-! ## The signed amounts -/

/-- The five amounts of a tax map, as they are written. -/
def roundedAmounts (taxData : Value) : List ℚ :=
  labels.map fun label => roundTo 2 (KraFields.amountOf taxData label)

/-- Reading the five fields of a tax map gives its rounded amounts. -/
theorem map_fieldNumber_taxFields (taxData : Value) {typeSuffix : String}
    {front : List (String × Value)} (back : List (String × Value))
    (unnamed : ∀ key ∈ KraFields.taxKeys typeSuffix, key ∉ front.map Prod.fst)
    (distinct : (KraFields.taxKeys typeSuffix).Nodup) :
    (KraFields.taxKeys typeSuffix).map
        (KraFields.fieldNumber (front ++ KraFields.taxFields taxData typeSuffix ++ back)) =
      (roundedAmounts taxData).map some := by
  have found : ∀ entry ∈ KraFields.taxLabels.zipIdx,
      KraFields.fieldNumber (front ++ KraFields.taxFields taxData typeSuffix ++ back)
          (KraFields.taxKey typeSuffix entry.2) =
        some (roundTo 2 (KraFields.amountOf taxData entry.1)) := by
    intro entry member
    have isField : (KraFields.taxKey typeSuffix entry.2,
        Value.str (numberFormat 2 (KraFields.amountOf taxData entry.1))) ∈
          KraFields.taxFields taxData typeSuffix :=
      List.mem_map_of_mem member
    have isKey : KraFields.taxKey typeSuffix entry.2 ∈ KraFields.taxKeys typeSuffix := by
      rw [← KraFields.map_fst_taxFields taxData]
      exact List.mem_map_of_mem isField
    have written : (KraFields.taxFields taxData typeSuffix).lookup
        (KraFields.taxKey typeSuffix entry.2) =
          some (.str (numberFormat 2 (KraFields.amountOf taxData entry.1))) :=
      lookup_eq_some_of_mem (by rwa [KraFields.map_fst_taxFields]) isField
    apply KraFields.fieldNumber_of_lookup
    rw [List.lookup_append, List.lookup_append, lookup_eq_none_of_notMem (unnamed _ isKey),
      written]
    rfl
  have keys : KraFields.taxKeys typeSuffix =
      KraFields.taxLabels.zipIdx.map fun entry => KraFields.taxKey typeSuffix entry.2 := rfl
  have amounts : roundedAmounts taxData =
      KraFields.taxLabels.zipIdx.map fun entry =>
        roundTo 2 (KraFields.amountOf taxData entry.1) := rfl
  rw [keys, amounts, List.map_map, List.map_map]
  exact List.map_congr_left found

/-- The tax maps whose values are amounts of money. -/
theorem amountOf_accepted (request : AcceptedRequest) {name : String}
    (isAmount : name ∈ ["taxableAmounts", "calculatedTaxes"]) {label : String}
    (isLabel : label ∈ labels) :
    KraFields.amountOf (request.amounts name) label =
      numberOf (arrayAt request.input name) label := by
  have isRule : Attribute.keyed ⟨name, [.required, .array]⟩
      (labelFields [.nullable, .numeric]) ∈ rules request.lookups request.input := by
    simp only [List.mem_cons, List.not_mem_nil, or_false] at isAmount
    rcases isAmount with rfl | rfl <;> simp [rules]
  rw [KraFields.amountOf, request.toNumber_amounts isRule (by simp) isLabel]
  rfl

/-- Rounding the five amounts of a map to cents moves their sum by two and a half
cents at most. -/
theorem abs_sum_rounded_sub_labelSum_le (request : AcceptedRequest) {name : String}
    (isAmount : name ∈ ["taxableAmounts", "calculatedTaxes"]) :
    |(roundedAmounts (request.amounts name)).sum - labelSum request.input name| ≤
      25 / 1000 := by
  have near : ∀ label ∈ labels,
      |roundTo 2 (KraFields.amountOf (request.amounts name) label) -
        numberOf (arrayAt request.input name) label| ≤ 5 / 1000 := by
    intro label isLabel
    rw [amountOf_accepted request isAmount isLabel]
    exact abs_roundTo_two_sub_le _
  have summed := abs_sum_map_sub_le near
  have count : (labels.length : ℚ) * (5 / 1000) = 25 / 1000 := by norm_num [labels]
  rwa [count] at summed

/-- For every accepted request, the ten amounts signed for the five labels add
up to the receipt total, up to sixteen cents. -/
theorem signed_amounts_near_total (request : AcceptedRequest) (device : KraDevice)
    (uuid : String) (now : DateTime) :
    ∃ (payload : List (String × Value)) (amounts taxes : List ℚ),
      receiptPayload ⟨device, request.validated, uuid, now⟩ = .ok payload ∧
      (KraFields.taxKeys "Amount").map (KraFields.fieldNumber payload) = amounts.map some ∧
      (KraFields.taxKeys "Tax").map (KraFields.fieldNumber payload) = taxes.map some ∧
      |amounts.sum + taxes.sum - request.totalAmount| ≤ 16 / 100 := by
  let sale : Sale := ⟨device, request.validated, uuid, now⟩
  have isRequest : sale.transactionData = request.validated := rfl
  obtain ⟨rtype, ttype, -, -, built⟩ := receiptPayload_of_accepted isRequest
  obtain ⟨expected, reconciled⟩ := request.exists_reconciled
  let header := receiptHeader sale.now rtype ttype
    (.str (request.text "internalReceiptNumber"))
  let rates := KraFields.taxFields (request.amounts "taxRates") "Rate"
  let taxable := KraFields.taxFields (request.amounts "taxableAmounts") "Amount"
  let taxes := KraFields.taxFields (request.amounts "calculatedTaxes") "Tax"
  have headerNames : header.map Prod.fst = ["Rtype", "TType", "Date", "Time", "RNum"] := rfl
  have unnamedTaxable : ∀ key ∈ KraFields.taxKeys "Amount",
      key ∉ (header ++ rates).map Prod.fst := by
    rw [List.map_append, headerNames, KraFields.map_fst_taxFields]
    decide
  have unnamedTaxes : ∀ key ∈ KraFields.taxKeys "Tax",
      key ∉ (header ++ rates ++ taxable).map Prod.fst := by
    rw [List.map_append, List.map_append, headerNames, KraFields.map_fst_taxFields,
      KraFields.map_fst_taxFields]
    decide
  have readTaxable := map_fieldNumber_taxFields (request.amounts "taxableAmounts")
    (taxes ++ clientsPin sale.transactionData) unnamedTaxable (by decide)
  have readTaxes := map_fieldNumber_taxFields (request.amounts "calculatedTaxes")
    (clientsPin sale.transactionData) unnamedTaxes (by decide)
  refine ⟨_, roundedAmounts (request.amounts "taxableAmounts"),
    roundedAmounts (request.amounts "calculatedTaxes"), built, ?_, ?_, ?_⟩
  · rw [← readTaxable]
    simp only [acceptedTaxFields, List.append_assoc, header, rates, taxes]
  · rw [← readTaxes]
    simp only [acceptedTaxFields, List.append_assoc, header, rates, taxable]
  · have taxableNear := abs_sum_rounded_sub_labelSum_le request
      (show "taxableAmounts" ∈ ["taxableAmounts", "calculatedTaxes"] by simp)
    have taxesNear := abs_sum_rounded_sub_labelSum_le request
      (show "calculatedTaxes" ∈ ["taxableAmounts", "calculatedTaxes"] by simp)
    have totals := reconciled.abs_labelSums_sub_total_le
    simp only [epsilon] at totals
    rw [AcceptedRequest.totalAmount]
    rw [abs_le] at *
    constructor <;> linarith

/-! ## The journaled tax fields -/

/-- A tax map of the request, the suffix of its fields, the rules of its labels. -/
structure TaxMap where
  name : String
  typeSuffix : String
  labelRules : List Rule

def taxMaps : List TaxMap :=
  [⟨"taxRates", "Rate", [.nullable, .numeric, .min 0, .max 100]⟩,
    ⟨"taxableAmounts", "Amount", [.nullable, .numeric]⟩,
    ⟨"calculatedTaxes", "Tax", [.nullable, .numeric]⟩]

/-- The request gives at least one of the five labels in a map, be it as `null`. -/
def givesLabel (input : Entries) (name : String) : Bool :=
  labels.any fun label => (read (arrayAt input name) label).isSome

theorem taxMap_rules (request : AcceptedRequest) {map : TaxMap} (member : map ∈ taxMaps) :
    Attribute.keyed ⟨map.name, [.required, .array]⟩ (labelFields map.labelRules) ∈
        rules request.lookups request.input ∧ Rule.numeric ∈ map.labelRules := by
  simp only [taxMaps, List.mem_cons, List.not_mem_nil, or_false] at member
  rcases member with rfl | rfl | rfl <;> simp [rules]

/-- Validation keeps a tax map exactly when it gives a label. -/
theorem isEmpty_validated_taxMap (input : Entries) (map : TaxMap) :
    (validatedFields (labelFields map.labelRules) (arrayAt input map.name)).isEmpty =
      !givesLabel input map.name := by
  rw [Bool.eq_iff_iff, List.isEmpty_iff, validatedFields, List.filterMap_eq_nil_iff,
    Bool.not_eq_true', givesLabel, List.any_eq_false]
  simp only [labelFields, List.mem_map, forall_exists_index, and_imp,
    forall_apply_eq_imp_iff₂, Option.map_eq_none_iff, Option.not_isSome_iff_eq_none]

/-- The fields the job writes for a map: none when the map was dropped. -/
def journaledFields (request : AcceptedRequest) (map : TaxMap) : List (String × Value) :=
  if givesLabel request.input map.name then
    KraFields.taxFields (request.amounts map.name) map.typeSuffix
  else []

theorem taxTotals_of_accepted (request : AcceptedRequest) {map : TaxMap}
    (member : map ∈ taxMaps) :
    Jobs.ProcessKraJournalingJob.taxTotals request.validated map.name map.typeSuffix =
      .ok (journaledFields request map) := by
  obtain ⟨isRule, numeric⟩ := taxMap_rules request member
  have kept : request.validated.index map.name = Attribute.arrayOf
      (validatedFields (labelFields map.labelRules) (arrayAt request.input map.name)) :=
    request.validated_index isRule
  rw [Attribute.arrayOf, isEmpty_validated_taxMap] at kept
  unfold journaledFields
  cases given : givesLabel request.input map.name with
  | false =>
      rw [given, Bool.not_false, if_pos rfl] at kept
      rw [Jobs.ProcessKraJournalingJob.taxTotals, Value.coalesce_of_index_none kept]
      rfl
  | true =>
      rw [given, Bool.not_true, if_neg Bool.false_ne_true] at kept
      have same : request.validated.coalesce map.name .null = request.amounts map.name := by
        rw [AcceptedRequest.amounts, Value.coalesce_of_index_some kept (Value.arr_ne_null _),
          Value.coalesce_of_index_some kept (Value.arr_ne_null _)]
      have notEmpty : (request.amounts map.name).isEmpty = false := by
        rw [AcceptedRequest.amounts, Value.coalesce_of_index_some kept (Value.arr_ne_null _),
          Value.isEmpty, isEmpty_validated_taxMap, given]
        rfl
      rw [Jobs.ProcessKraJournalingJob.taxTotals, same]
      simp only [notEmpty, Bool.false_eq_true, if_false, if_true]
      exact KraFields.formatTaxDataForKraXml_eq (isTaxMap_of_accepted isRule numeric)
        map.typeSuffix

/-! ## Both payloads -/

/-- Both payloads carry the fifteen tax fields, with the same two-decimal texts,
and the journal carries no other tax field. -/
structure TaxFieldsAgree (signing journal : List (String × Value)) : Prop where
  carried : ∀ key ∈ allTaxKeys, ∃ number,
    signing.lookup key = some (.str (numberFormat 2 number)) ∧
      journal.lookup key = some (.str (numberFormat 2 number))
  noOther : ∀ field ∈ journal, isTaxKey field.1 = true → field.1 ∈ allTaxKeys

/-- The names of a signed payload's fields before the tax fields. -/
def signingNames : List String := ["Rtype", "TType", "Date", "Time", "RNum"]

/-- The names of a journal's fields before the tax fields. -/
def journalNames : List String :=
  ["RNum", "Rtype", "TType", "Date", "Time", "SNumber", "Signature", "InternalData"]

/-- The journal's fields before the tax fields. -/
def journalHeader (transaction : Transaction) (rtype ttype : String) :
    List (String × Value) :=
  [("RNum", .str transaction.internalReceiptNumber), ("Rtype", .str rtype),
    ("TType", .str ttype), ("Date", .str transaction.kraTimestamp.formatDate),
    ("Time", .str transaction.kraTimestamp.formatTime),
    ("SNumber", .str transaction.kraScuId),
    ("Signature", .str transaction.kraDigitalSignature),
    ("InternalData", .str transaction.kraInternalData)]

/-- The journal payload of an accepted request, its tax fields map by map. -/
theorem journalPayload_of_accepted {request : AcceptedRequest} {transaction : Transaction}
    (stored : transaction.requestPayload = request.validated)
    (receipt : transaction.receiptType = request.text "receiptType")
    (kind : transaction.transactionType = request.text "transactionType") :
    ∃ rtype ttype, Jobs.ProcessKraJournalingJob.journalPayload transaction =
      .ok (journalHeader transaction rtype ttype ++
        taxMaps.flatMap (journaledFields request)) := by
  let sale : Sale := ⟨shopDevice, request.validated, "", transaction.kraTimestamp⟩
  obtain ⟨rtype, ttype, rtypeOk, ttypeOk, -⟩ :=
    receiptPayload_of_accepted (show sale.transactionData = request.validated from rfl)
  have rtypeRead : Jobs.ProcessKraJournalingJob.getKraReceiptType
      (request.text "receiptType") = .ok rtype := rtypeOk
  have ttypeRead : Jobs.ProcessKraJournalingJob.getKraTransactionType
      (request.text "transactionType") = .ok ttype := ttypeOk
  have rates := taxTotals_of_accepted request (List.mem_of_getElem? (i := 0) rfl)
  have amounts := taxTotals_of_accepted request (List.mem_of_getElem? (i := 1) rfl)
  have taxes := taxTotals_of_accepted request (List.mem_of_getElem? (i := 2) rfl)
  refine ⟨rtype, ttype, ?_⟩
  simp only [Jobs.ProcessKraJournalingJob.journalPayload, receipt, kind, rtypeRead,
    ttypeRead, stored, rates, amounts, taxes, ok_bind, List.append_assoc]
  simp only [taxMaps, List.flatMap_cons, List.flatMap_nil, List.append_nil]
  rfl

/-- A tax key is neither a field of the signed payload's header nor of the
journal's. -/
theorem taxKey_apart {key : String} (isTax : key ∈ allTaxKeys) :
    key ∉ signingNames ∧ key ∉ journalNames := by
  have apart : ∀ key ∈ allTaxKeys, key ∉ signingNames ∧ key ∉ journalNames := by decide
  exact apart key isTax

/-- The keys of a map that gives no label are missing from the journal. -/
theorem notMem_journaledFields {request : AcceptedRequest} {map : TaxMap}
    (member : map ∈ taxMaps) (dropped : givesLabel request.input map.name = false) :
    KraFields.taxKey map.typeSuffix 0 ∉
      (taxMaps.flatMap (journaledFields request)).map Prod.fst := by
  intro named
  obtain ⟨field, isField, same⟩ := List.mem_map.mp named
  obtain ⟨other, isMap, written⟩ := List.mem_flatMap.mp isField
  unfold journaledFields at written
  split at written
  next given =>
    have isKey : KraFields.taxKey map.typeSuffix 0 ∈ KraFields.taxKeys other.typeSuffix := by
      rw [← same, ← KraFields.map_fst_taxFields (request.amounts other.name)]
      exact List.mem_map_of_mem written
    have sameName : ∀ map ∈ taxMaps, ∀ other ∈ taxMaps,
        KraFields.taxKey map.typeSuffix 0 ∈ KraFields.taxKeys other.typeSuffix →
          other.name = map.name := by decide
    rw [sameName map member other isMap isKey, dropped] at given
    exact Bool.false_ne_true given
  next => simp at written

/-- The journal's tax fields are those signed when no map was dropped. -/
theorem flatMap_journaledFields {request : AcceptedRequest}
    (given : ∀ map ∈ taxMaps, givesLabel request.input map.name = true) :
    taxMaps.flatMap (journaledFields request) = acceptedTaxFields request := by
  have kept : ∀ map ∈ taxMaps, journaledFields request map =
      KraFields.taxFields (request.amounts map.name) map.typeSuffix := by
    intro map member
    rw [journaledFields, if_pos (given map member)]
  rw [List.flatMap_congr kept]
  simp [taxMaps, acceptedTaxFields, List.append_assoc]

/-- Both payloads agree exactly when no map was dropped. -/
theorem taxFieldsAgree_iff (request : AcceptedRequest) (now : DateTime)
    (transaction : Transaction) (rtype ttype rtype' ttype' : String) (rnum : Value)
    {back : List (String × Value)} :
    TaxFieldsAgree
        (receiptHeader now rtype ttype rnum ++ acceptedTaxFields request ++ back)
        (journalHeader transaction rtype' ttype' ++
          taxMaps.flatMap (journaledFields request)) ↔
      ∀ map ∈ taxMaps, givesLabel request.input map.name = true := by
  have signingNamed : (receiptHeader now rtype ttype rnum).map Prod.fst = signingNames := rfl
  have journalNamed : (journalHeader transaction rtype' ttype').map Prod.fst =
      journalNames := rfl
  constructor
  · intro agree map member
    rw [← Bool.not_eq_false]
    intro dropped
    have isTax : KraFields.taxKey map.typeSuffix 0 ∈ allTaxKeys := by
      have known : ∀ map ∈ taxMaps, KraFields.taxKey map.typeSuffix 0 ∈ allTaxKeys := by
        decide
      exact known map member
    obtain ⟨number, -, journaled⟩ := agree.carried _ isTax
    have absent : (journalHeader transaction rtype' ttype' ++
        taxMaps.flatMap (journaledFields request)).lookup
          (KraFields.taxKey map.typeSuffix 0) = none := by
      apply lookup_eq_none_of_notMem
      rw [List.map_append, List.mem_append, journalNamed, not_or]
      exact ⟨(taxKey_apart isTax).2, notMem_journaledFields member dropped⟩
    rw [absent] at journaled
    contradiction
  · intro given
    rw [flatMap_journaledFields given]
    refine ⟨?_, ?_⟩
    · intro key isTax
      obtain ⟨apartSigning, apartJournal⟩ := taxKey_apart isTax
      obtain ⟨number, found⟩ := exists_lookup_acceptedTaxFields request isTax
      refine ⟨number, ?_, ?_⟩
      · rw [List.lookup_append, List.lookup_append,
          lookup_eq_none_of_notMem (signingNamed ▸ apartSigning), found]
        rfl
      · rw [List.lookup_append, lookup_eq_none_of_notMem (journalNamed ▸ apartJournal), found]
        rfl
    · intro field member isTax
      rcases List.mem_append.mp member with header | tax
      · have name : field.1 ∈ journalNames := by
          rw [← journalNamed]
          exact List.mem_map_of_mem header
        have plain : ∀ name ∈ journalNames, isTaxKey name = false := by decide
        rw [plain field.1 name] at isTax
        contradiction
      · rw [← map_fst_acceptedTaxFields request]
        exact List.mem_map_of_mem tax

/-- For every accepted request, both payloads report the same tax data exactly
when each of the three maps gives at least one of the five labels. -/
theorem tax_fields_agree_iff (request : AcceptedRequest) (platform : Platform)
    (config : KraConfig) (device : KraDevice) (uuid : String) (now : DateTime)
    (xmlPayload : KraXml) (response : HttpResponse) (dataNode : Xml)
    (kraTimestamp : DateTime) :
    let sale : Sale := ⟨device, request.validated, uuid, now⟩
    let transaction := signedTransaction config sale dataNode kraTimestamp
      (receiptTexts platform request xmlPayload response)
    ∃ signing journal, receiptPayload sale = .ok signing ∧
      Jobs.ProcessKraJournalingJob.journalPayload transaction = .ok journal ∧
      (TaxFieldsAgree signing journal ↔
        ∀ map ∈ taxMaps, givesLabel request.input map.name = true) := by
  intro sale transaction
  obtain ⟨rtype, ttype, -, -, signed⟩ :=
    receiptPayload_of_accepted (show sale.transactionData = request.validated from rfl)
  obtain ⟨rtype', ttype', journaled⟩ := journalPayload_of_accepted
    (show transaction.requestPayload = request.validated from rfl) rfl rfl
  exact ⟨_, _, signed, journaled,
    taxFieldsAgree_iff request now transaction rtype ttype rtype' ttype' _⟩

/-! ## A map without a known label -/

/-- The sale of bread, its only tax rate under a label there is not. -/
def mislabelledInput : Entries :=
  (AcceptedRequest.cashSaleInput (.int 0) "Bread").map fun entry =>
    if entry.1 = .str "taxRates" then (entry.1, .arr [(.str "X", .num 1)]) else entry

def mislabelledSale : AcceptedRequest :=
  ⟨AcceptedRequest.anyLookup, mislabelledInput, by decide +kernel⟩

/-- Its rates are signed as zeros, and are missing from its journal. -/
theorem mislabelledSale_disagrees :
    ∃ signing journal,
      receiptPayload ⟨shopDevice, mislabelledSale.validated, "1", ⟨2025, 7, 3, 13, 8, 10⟩⟩ =
        .ok signing ∧
      Jobs.ProcessKraJournalingJob.journalPayload
        (signedTransaction shopConfig
          ⟨shopDevice, mislabelledSale.validated, "1", ⟨2025, 7, 3, 13, 8, 10⟩⟩
          (signedNode "KRACU1") ⟨2025, 7, 3, 13, 8, 19⟩
          (receiptTexts (shopPlatform "P" "KRACU1") mislabelledSale breadPayload
            ⟨200, signedBody "P" "KRACU1"⟩)) = .ok journal ∧
      ¬ TaxFieldsAgree signing journal := by
  have noLabel : givesLabel mislabelledSale.input "taxRates" = false := by decide +kernel
  have isMap : (⟨"taxRates", "Rate", [.nullable, .numeric, .min 0, .max 100]⟩ : TaxMap) ∈
      taxMaps := by simp [taxMaps]
  let sale : Sale := ⟨shopDevice, mislabelledSale.validated, "1", ⟨2025, 7, 3, 13, 8, 10⟩⟩
  obtain ⟨rtype, ttype, -, -, signed⟩ :=
    receiptPayload_of_accepted (show sale.transactionData = mislabelledSale.validated from rfl)
  let transaction := signedTransaction shopConfig sale (signedNode "KRACU1")
    ⟨2025, 7, 3, 13, 8, 19⟩
    (receiptTexts (shopPlatform "P" "KRACU1") mislabelledSale breadPayload
      ⟨200, signedBody "P" "KRACU1"⟩)
  obtain ⟨rtype', ttype', journaled⟩ := journalPayload_of_accepted
    (show transaction.requestPayload = mislabelledSale.validated from rfl) rfl rfl
  refine ⟨_, _, signed, journaled, ?_⟩
  rw [taxFieldsAgree_iff]
  intro given
  have labelled := given _ isMap
  rw [noLabel] at labelled
  exact Bool.false_ne_true labelled

end TaxGateway.Sales
