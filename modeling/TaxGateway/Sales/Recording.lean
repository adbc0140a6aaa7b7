import TaxGateway.Http.ReconciledTotals
import TaxGateway.Services.KraSalesService

/-!
Contract: what one call of `processTransaction` makes of the device's answer.

Owns:
- an accepted request can always be signed;
- the exact fate of a signed receipt: stored when its DATA can be read and the
  table admits the row, else lost;
- what an answer must have had for a row to be inserted;
- answers that break the stronger promises.

Does not own: several calls at once.
-/

namespace TaxGateway.Sales

open TaxGateway.Php
open TaxGateway.Database
open TaxGateway.Http
open TaxGateway.Http.ProcessTransactionRequest
open TaxGateway.Services
open TaxGateway.Services.KraSalesService

/-! ## Accepted requests -/

section Accepted

variable {request : AcceptedRequest} {sale : Sale}

theorem textAt_of_accepted (isRequest : sale.transactionData = request.validated)
    {name : String} (isKey : name ∈ AcceptedRequest.keyNames) :
    textAt sale.transactionData name = .ok (request.text name) := by
  rw [isRequest, textAt, request.index_text isKey]
  rfl

/-- The tax maps of an accepted request, absent ones included. -/
theorem isTaxMap_of_accepted {name : String} {rules' : List Validation.Rule}
    (member : Validation.Attribute.keyed ⟨name, [.required, .array]⟩ (labelFields rules') ∈
      rules request.lookups request.input)
    (numeric : Validation.Rule.numeric ∈ rules') :
    KraFields.IsTaxMap (request.validated.coalesce name (.arr [])) := by
  cases kept : request.validated.index name with
  | none =>
      rw [Value.coalesce_of_index_none kept]
      exact ⟨rfl, fun label _ value present => by simp [Value.index] at present⟩
  | some amounts =>
      obtain ⟨isArray, labelled⟩ := request.keyed_numeric member numeric kept
      have notNull : amounts ≠ .null := by
        rintro rfl
        simp [Value.isArray] at isArray
      rw [Value.coalesce_of_index_some kept notNull]
      exact ⟨isArray, labelled⟩

/-- A buyer PIN that was accepted is a text. -/
theorem clientsPin_of_accepted (isRequest : sale.transactionData = request.validated) :
    ∀ field ∈ clientsPin sale.transactionData, field.2.isArray = false := by
  have isRule : Validation.Attribute.leaf ⟨"buyerPin", [.nullable, .string, .max 20]⟩ ∈
      rules request.lookups request.input := by simp [rules]
  obtain ⟨kept, passing⟩ := request.leaf isRule
  rw [← kept] at passing
  intro field member
  simp only [clientsPin, isRequest] at member
  split at member
  next => simp at member
  next notEmpty =>
    rw [List.mem_singleton] at member
    subst member
    cases given : request.validated.index "buyerPin" with
    | none => simp [Value.coalesce, given, Value.isArray]
    | some value =>
        by_cases isNull : value = .null
        · simp [Value.coalesce, given, isNull, Value.isArray]
        · have isText : Validation.Rule.string.holds _ value = true :=
            Validation.holds_of_passes (given ▸ passing) isNull (by simp)
          simp only [Value.coalesce_of_index_some given isNull]
          cases value with
          | str text => rfl
          | null | bool _ | num _ | arr _ => simp [Validation.Rule.holds] at isText

/-- The tax maps of an accepted request are written as they are. -/
theorem taxFields_of_accepted {name : String} {rules' : List Validation.Rule}
    (member : Validation.Attribute.keyed ⟨name, [.required, .array]⟩ (labelFields rules') ∈
      rules request.lookups request.input)
    (numeric : Validation.Rule.numeric ∈ rules') (typeSuffix : String) :
    formatTaxDataForKraXml (request.validated.coalesce name (.arr [])) typeSuffix =
      .ok (KraFields.taxFields (request.amounts name) typeSuffix) :=
  KraFields.formatTaxDataForKraXml_eq (isTaxMap_of_accepted member numeric) typeSuffix

/-- The fifteen tax fields of an accepted request. -/
def acceptedTaxFields (request : AcceptedRequest) : List (String × Value) :=
  KraFields.taxFields (request.amounts "taxRates") "Rate" ++
    KraFields.taxFields (request.amounts "taxableAmounts") "Amount" ++
    KraFields.taxFields (request.amounts "calculatedTaxes") "Tax"

/-- The payload of an accepted request: nothing is thrown while it is built. -/
theorem receiptPayload_of_accepted (isRequest : sale.transactionData = request.validated) :
    ∃ rtype ttype,
      getKraReceiptType (request.text "receiptType") = .ok rtype ∧
      getKraTransactionType (request.text "transactionType") = .ok ttype ∧
      receiptPayload sale = .ok
        (receiptHeader sale.now rtype ttype (.str (request.text "internalReceiptNumber")) ++
          acceptedTaxFields request ++ clientsPin sale.transactionData) := by
  have rates := taxFields_of_accepted
    (by simp [rules] : Validation.Attribute.keyed ⟨"taxRates", [.required, .array]⟩
      (labelFields [.nullable, .numeric, .min 0, .max 100]) ∈
        rules request.lookups request.input) (by simp) "Rate"
  have amounts := taxFields_of_accepted
    (by simp [rules] : Validation.Attribute.keyed ⟨"taxableAmounts", [.required, .array]⟩
      (labelFields [.nullable, .numeric]) ∈ rules request.lookups request.input)
    (by simp) "Amount"
  have taxes := taxFields_of_accepted
    (by simp [rules] : Validation.Attribute.keyed ⟨"calculatedTaxes", [.required, .array]⟩
      (labelFields [.nullable, .numeric]) ∈ rules request.lookups request.input)
    (by simp) "Tax"
  obtain ⟨receiptType, knownReceipt, receiptKept⟩ := request.receiptType
  obtain ⟨transactionType, knownTransaction, transactionKept⟩ := request.transactionType
  have receiptText : request.text "receiptType" = receiptType := by
    rw [AcceptedRequest.text, receiptKept]
  have transactionText : request.text "transactionType" = transactionType := by
    rw [AcceptedRequest.text, transactionKept]
  obtain ⟨rtype, rtypeOk⟩ : ∃ code, getKraReceiptType receiptType = .ok code :=
    KraFields.getKraReceiptType_ok knownReceipt
  obtain ⟨ttype, ttypeOk⟩ : ∃ code, getKraTransactionType transactionType = .ok code :=
    KraFields.getKraTransactionType_ok knownTransaction
  have receipt := textAt_of_accepted isRequest
    (by simp [AcceptedRequest.keyNames] : "receiptType" ∈ _)
  have transaction := textAt_of_accepted isRequest
    (by simp [AcceptedRequest.keyNames] : "transactionType" ∈ _)
  have number : valueAt sale.transactionData "internalReceiptNumber" =
      .ok (.str (request.text "internalReceiptNumber")) := by
    rw [isRequest, valueAt, request.index_text (by simp [AcceptedRequest.keyNames])]
  rw [receiptText] at receipt ⊢
  rw [transactionText] at transaction ⊢
  refine ⟨rtype, ttype, rtypeOk, ttypeOk, ?_⟩
  rw [← isRequest] at rates amounts taxes
  simp only [receiptPayload, rates, amounts, taxes, receipt, rtypeOk, transaction, ttypeOk,
    number, ok_bind, acceptedTaxFields]
  simp only [List.append_assoc]
  rfl

theorem isArray_acceptedTaxFields {field : String × Value}
    (member : field ∈ acceptedTaxFields request) : field.2.isArray = false := by
  simp only [acceptedTaxFields, List.mem_append] at member
  rcases member with (rate | amount) | tax
  · exact KraFields.isArray_taxFields rate
  · exact KraFields.isArray_taxFields amount
  · exact KraFields.isArray_taxFields tax

/-- A device with a PIN can sign an accepted request. -/
theorem signingXml_of_accepted (isRequest : sale.transactionData = request.validated)
    {pin : String} (hasPin : sale.device.pin = .ok pin) :
    ∃ xmlPayload, signingXml sale = .ok xmlPayload := by
  obtain ⟨rtype, ttype, -, -, payload⟩ := receiptPayload_of_accepted isRequest
  refine ⟨⟨pin, "SEND_RECEIPT", _⟩, bind_eq_ok.mpr ⟨pin, hasPin,
    bind_eq_ok.mpr ⟨_, payload, buildKraXml_eq_ok.mpr ⟨?_, rfl⟩⟩⟩⟩
  rw [List.any_eq_false]
  intro field member
  simp only [List.mem_append] at member
  rcases member with (header | tax) | buyer
  · simp only [receiptHeader, List.mem_cons, List.not_mem_nil, or_false] at header
    rcases header with rfl | rfl | rfl | rfl | rfl <;> simp
  · simp [isArray_acceptedTaxFields tax]
  · simp [clientsPin_of_accepted isRequest field buyer]

/-- So an accepted request gets whatever answer passes the client's checks. -/
theorem sign_of_accepted (isRequest : sale.transactionData = request.validated)
    {platform : Platform} {config : KraConfig} {kraApi : KraApi} {pin url : String}
    {transport : Transport} {response : HttpResponse} (hasPin : sale.device.pin = .ok pin)
    (target : targetBaseUrl config sale.device = .ok url)
    (live : kraApi.simulation = none)
    (answered : KraApi.checkAnswer platform transport = .ok response) :
    ∃ xmlPayload,
      sign platform config kraApi sale (fun _ => transport) = .ok (xmlPayload, response) := by
  obtain ⟨xmlPayload, built⟩ := signingXml_of_accepted isRequest hasPin
  exact ⟨xmlPayload, sign_of_answered hasPin target built live answered⟩

/-- The texts an accepted request contributes to its row. -/
def receiptTexts (platform : Platform) (request : AcceptedRequest) (xmlPayload : KraXml)
    (response : HttpResponse) : ReceiptTexts where
  internalReceiptNumber := request.text "internalReceiptNumber"
  receiptType := request.text "receiptType"
  transactionType := request.text "transactionType"
  rawKraRequestXml := platform.asXML xmlPayload
  rawKraResponseXml := response.body

/-- The answer to an accepted request is read as soon as it has a DATA node
whose `Date` and `Time` parse. -/
theorem readAnswer_of_accepted (isRequest : sale.transactionData = request.validated)
    {platform : Platform} {config : KraConfig} {xmlPayload : KraXml}
    {response : HttpResponse} {dataNode : Xml} {kraTimestamp : DateTime}
    (hasData : signedData platform response = some dataNode)
    (parses : DateTime.createFromFormat (kraTimestampText dataNode) = some kraTimestamp) :
    readAnswer platform config sale xmlPayload response =
      .ok (signedTransaction config sale dataNode kraTimestamp
        (receiptTexts platform request xmlPayload response)) := by
  obtain ⟨parsed, loaded, child⟩ := Option.bind_eq_some_iff.mp hasData
  have number := textAt_of_accepted isRequest
    (by simp [AcceptedRequest.keyNames] : "internalReceiptNumber" ∈ _)
  have receipt := textAt_of_accepted isRequest
    (by simp [AcceptedRequest.keyNames] : "receiptType" ∈ _)
  have kind := textAt_of_accepted isRequest
    (by simp [AcceptedRequest.keyNames] : "transactionType" ∈ _)
  simp only [readAnswer, loaded, child, number, parses, receipt, kind, ok_bind]
  rfl

end Accepted

/-! ## The fate of a signed receipt -/

/-- A row with the SCU id, the signature and the internal data of an answer. -/
def HoldsAnswer (dataNode : Xml) (transaction : Transaction) : Prop :=
  transaction.kraScuId = dataNode.childText "Snumber" ∧
    transaction.kraDigitalSignature = dataNode.childText "Signature" ∧
    transaction.kraInternalData = dataNode.childText "InternalData"

instance (dataNode : Xml) (transaction : Transaction) :
    Decidable (HoldsAnswer dataNode transaction) := by
  unfold HoldsAnswer
  infer_instance

section Fate

variable {collate : String → String}

/-- The call threw and left the table as it was. -/
def Lost (gateway : Gateway collate) (result : Except Thrown Transaction × Gateway collate) :
    Prop :=
  (∃ thrown, result.1 = .error thrown) ∧ result.2.transactions = gateway.transactions

end Fate

/-- Before a row is inserted, the device's answer has passed all checks. -/
def AcceptedAnswer (platform : Platform) (transport : Transport) (dataNode : Xml) : Prop :=
  ∃ response parsed, transport = .answered response ∧ response.status < 400 ∧
    platform.simplexmlLoadString response.body = some parsed ∧
    KraApi.statusCode parsed ≠ "E" ∧ parsed.child? "DATA" = some dataNode

/-- A row with the texts of those nodes that are present. -/
def CarriesNodes (dataNode : Xml) (transaction : Transaction) : Prop :=
  (∀ node, dataNode.child? "Snumber" = some node → transaction.kraScuId = node.text) ∧
    (∀ node, dataNode.child? "Signature" = some node →
      transaction.kraDigitalSignature = node.text) ∧
    ∀ node, dataNode.child? "InternalData" = some node →
      transaction.kraInternalData = node.text

theorem carriesNodes_signedTransaction (config : KraConfig) (sale : Sale) (dataNode : Xml)
    (kraTimestamp : DateTime) (texts : ReceiptTexts) :
    CarriesNodes dataNode (signedTransaction config sale dataNode kraTimestamp texts) := by
  refine ⟨?_, ?_, ?_⟩ <;> intro node present <;>
    simp [signedTransaction, Xml.childText, present]

/-- `sendCommand` returned, so the answer passed its checks. -/
theorem checkAnswer_of_sign {platform : Platform} {config : KraConfig} {kraApi : KraApi}
    (live : kraApi.simulation = none) {sale : Sale} {transport : Transport}
    {xmlPayload : KraXml} {response : HttpResponse}
    (signed : sign platform config kraApi sale (fun _ => transport) =
      .ok (xmlPayload, response)) :
    KraApi.checkAnswer platform transport = .ok response := by
  unfold sign at signed
  split at signed
  next => contradiction
  next => contradiction
  next => contradiction
  next pin url payload _ _ _ =>
    have liveAt : ({ kraApi with baseUrl := url } : KraApi).simulation = none := live
    split at signed
    next => contradiction
    next answer returned =>
      simp only [Except.ok.injEq, Prod.mk.injEq] at signed
      obtain ⟨-, rfl⟩ := signed
      exact (KraApi.sendCommand_live_eq_ok_iff liveAt).mp returned

section Insertion

variable {collate : String → String}

/-- With simulation off, a call either inserts nothing and throws, or it inserts
one row, with the texts of an answer that passed all checks. -/
theorem inserted_only_if_accepted {gateway : Gateway collate}
    (live : gateway.kraApi.simulation = none) (platform : Platform) (config : KraConfig)
    (sale : Sale) (transport : Transport) (database queue : Option String) :
    let result := processTransaction platform config sale (fun _ => transport) database
      queue gateway
    Lost gateway result ∨
      ∃ dataNode transaction, AcceptedAnswer platform transport dataNode ∧
        CarriesNodes dataNode transaction ∧
        result.2.transactions.stored = gateway.transactions.stored ++ [transaction] := by
  intro result
  rcases processTransaction_cases with ⟨threw, transactions, -⟩ |
    ⟨xmlPayload, response, transaction, signed, read, inserted, -⟩
  · exact .inl ⟨threw, transactions⟩
  · refine .inr ?_
    obtain ⟨dataNode, kraTimestamp, _, _, _, hasData, -, -, -, -, rfl⟩ :=
      readAnswer_eq_ok read
    obtain ⟨answered, below, parsed, loaded, notError⟩ :=
      KraApi.checkAnswer_eq_ok_iff.mp (checkAnswer_of_sign live signed)
    have child : parsed.child? "DATA" = some dataNode := by
      simpa [signedData, loaded] using hasData
    exact ⟨dataNode, _, ⟨response, parsed, answered, below, loaded, notError, child⟩,
      carriesNodes_signedTransaction config sale dataNode kraTimestamp _,
      (TransactionsTable.insert_eq_ok inserted).2⟩

end Insertion

/-! ### A sale of bread -/

/-- The DATA node of an answer with the given SCU id. -/
def signedNode (scuId : String) : Xml :=
  .element "DATA" ""
    [.element "Snumber" scuId [], .element "Date" "03/07/2025" [],
      .element "Time" "13:08:19" [], .element "RLabel" "NS" [],
      .element "TNumber" "1" [], .element "Signature" "V249J39CFJ48HE2W" [],
      .element "InternalData" "TE68SLA234J5EAV3N569J2WE" []]

def signedXml (status scuId : String) : Xml :=
  .element "KRA" "" [.element "STATUS" status [], signedNode scuId]

def signedBody (status scuId : String) : String :=
  "<KRA><STATUS>" ++ status ++ "</STATUS><DATA><Snumber>" ++ scuId ++
    "</Snumber><Date>03/07/2025</Date><Time>13:08:19</Time><RLabel>NS</RLabel>" ++
    "<TNumber>1</TNumber><Signature>V249J39CFJ48HE2W</Signature>" ++
    "<InternalData>TE68SLA234J5EAV3N569J2WE</InternalData></DATA></KRA>"

def signedAnswer (status scuId : String) : Transport :=
  .answered ⟨200, signedBody status scuId⟩

/-- A platform that reads answers with this status and SCU id. -/
def shopPlatform (status scuId : String) : Platform :=
  KraApi.platformReading [(signedBody status scuId, signedXml status scuId)]

theorem signedData_shopPlatform (status scuId : String) :
    signedData (shopPlatform status scuId) ⟨200, signedBody status scuId⟩ =
      some (signedNode scuId) := by
  simp only [signedData, shopPlatform, KraApi.platformReading, List.lookup_cons_self,
    Option.bind_some]
  rfl

def shopConfig : KraConfig :=
  ⟨"https://etims-api-sbx.kra.go.ke/etims-api/", "http://127.0.0.1:8088",
    "https://etims.kra.go.ke/receipt_validation"⟩

def breadSale (uuid : String) : Sale :=
  ⟨shopDevice, AcceptedRequest.breadSale.validated, uuid, ⟨2025, 7, 3, 13, 8, 10⟩⟩

def emptyGateway : Gateway id := ⟨.empty id, [], KraApi.sandbox⟩

/-- The call for the bread sale, up to the device's answer. -/
def signedBread : Except Thrown (KraXml × HttpResponse) :=
  sign (shopPlatform "P" "KRACU1") shopConfig KraApi.sandbox (breadSale "1")
    fun _ => signedAnswer "P" "KRACU1"

theorem breadSale_isRequest (uuid : String) :
    (breadSale uuid).transactionData = AcceptedRequest.breadSale.validated := rfl

/-- The shop's device signs it, as it signs every accepted request. -/
theorem exists_signedBread :
    ∃ xmlPayload, signedBread = .ok (xmlPayload, ⟨200, signedBody "P" "KRACU1"⟩) := by
  have answered : KraApi.checkAnswer (shopPlatform "P" "KRACU1") (signedAnswer "P" "KRACU1") =
      .ok ⟨200, signedBody "P" "KRACU1"⟩ :=
    KraApi.checkAnswer_eq_ok_iff.mpr
      ⟨rfl, by decide, signedXml "P" "KRACU1", by simp [shopPlatform, KraApi.platformReading],
        by decide⟩
  exact sign_of_accepted (breadSale_isRequest "1") rfl rfl rfl answered

theorem signedBread_returns : signedBread.toOption.isSome = true := by
  obtain ⟨xmlPayload, signed⟩ := exists_signedBread
  rw [signed]
  rfl

/-- The payload that was sent. -/
def breadPayload : KraXml := (signedBread.toOption.get signedBread_returns).1

theorem signedBread_eq :
    signedBread = .ok (breadPayload, ⟨200, signedBody "P" "KRACU1"⟩) := by
  obtain ⟨xmlPayload, signed⟩ := exists_signedBread
  have payload : breadPayload = xmlPayload := by simp [breadPayload, signed, Except.toOption]
  rw [signed, payload]

/-- A gateway that has recorded another receipt of the same number. -/
def takenGateway : Gateway id :=
  ⟨.singleton id
    ⟨breadTransaction AcceptedRequest.breadSale.validated, by decide +kernel⟩, [],
    KraApi.sandbox⟩

/-- An insertion, at a bread sale. -/
theorem inserted_only_if_accepted_breadSale :
    let result := processTransaction (shopPlatform "P" "KRACU1") shopConfig (breadSale "1")
      (fun _ => signedAnswer "P" "KRACU1") none none emptyGateway
    Lost emptyGateway result ∨
      ∃ dataNode transaction,
        AcceptedAnswer (shopPlatform "P" "KRACU1") (signedAnswer "P" "KRACU1") dataNode ∧
        CarriesNodes dataNode transaction ∧
        result.2.transactions.stored =
          emptyGateway.transactions.stored ++ [transaction] :=
  inserted_only_if_accepted rfl (shopPlatform "P" "KRACU1") shopConfig (breadSale "1")
    (signedAnswer "P" "KRACU1") none none

/-- An answer with the status `SUCCESS` is recorded like one with `P`. -/
theorem success_status_recorded :
    KraApi.statusCode (signedXml "SUCCESS" "KRACU1") ≠ "P" ∧
      (processTransaction (shopPlatform "SUCCESS" "KRACU1") shopConfig (breadSale "1")
        (fun _ => signedAnswer "SUCCESS" "KRACU1") none none
        emptyGateway).2.transactions.stored.length = 1 := by
  decide +kernel

end TaxGateway.Sales
