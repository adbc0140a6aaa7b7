import TaxGateway.Database.Schema
import TaxGateway.Http.ProcessTransactionRequest
import TaxGateway.Services.KraApi
import TaxGateway.Services.KraFields

/-!
Contract: `KraSalesService::processTransaction`, the synchronous half of a
sale: sign on the device, store the signed receipt, queue its journaling.

Owns:
- the payload signed by the device and the row built from its answer;
- the order of the effects: base URL, command, insert, dispatch, base URL;
- what each failure leaves behind.

Does not own: concurrency (one call runs to its end here), or the validity of
the transaction data, which the service does not check.
-/

namespace TaxGateway.Services

open TaxGateway.Php
open TaxGateway.Database

/-- The configuration the service reads. -/
structure KraConfig where
  apiSandboxBaseUrl : String
  vscuJarBaseUrl : String
  qrCodeBaseUrl : String

/-- What one call is about. `uuid` is the value `Str::uuid()` returns to it and
`now` the time it is made. -/
structure Sale where
  device : KraDevice
  transactionData : Value
  uuid : String
  now : DateTime

/-- The state the service works on: the table, the ids in the queue's
`ProcessKraJournalingJob` payloads, and the shared client. -/
structure Gateway (collate : String → String) where
  transactions : TransactionsTable collate
  jobs : List String
  kraApi : KraApi

namespace KraSalesService

def getKraReceiptType : String → Except Throwable String :=
  KraFields.getKraReceiptType

def getKraTransactionType : String → Except Throwable String :=
  KraFields.getKraTransactionType

def formatTaxDataForKraXml : Value → String → Except Throwable (List (String × Value)) :=
  KraFields.formatTaxDataForKraXml

/-- `$transactionData[key]`. -/
def valueAt (transactionData : Value) (key : String) : Except Throwable Value :=
  match transactionData.index key with
  | some value => .ok value
  | none => .error (.exception ("Undefined array key " ++ key))

/-- `$transactionData[key]`, used as a string. -/
def textAt (transactionData : Value) (key : String) : Except Throwable String :=
  match transactionData.index key with
  | some value => value.toText
  | none => .error (.exception ("Undefined array key " ++ key))

/-! ## Before signing -/

def targetBaseUrl (config : KraConfig) (device : KraDevice) : Except Throwable String :=
  if device.deviceType = "VSCU" then
    (device.config.coalesce "vscu_jar_url" (.str config.vscuJarBaseUrl)).toText
  else .ok config.apiSandboxBaseUrl

/-- `ClientsPin`, when the data has a buyer PIN. -/
def clientsPin (transactionData : Value) : List (String × Value) :=
  let buyerPin := transactionData.coalesce "buyerPin" .null
  if buyerPin.isEmpty then [] else [("ClientsPin", buyerPin)]

/-- The fields before the tax fields. -/
def receiptHeader (now : DateTime) (rtype ttype : String) (rnum : Value) :
    List (String × Value) :=
  [("Rtype", .str rtype), ("TType", .str ttype), ("Date", .str now.formatDate),
    ("Time", .str now.formatTime), ("RNum", rnum)]

/-- `$kraReceiptPayload`. -/
def receiptPayload (sale : Sale) : Except Throwable (List (String × Value)) := do
  let taxRates ← formatTaxDataForKraXml
    (sale.transactionData.coalesce "taxRates" (.arr [])) "Rate"
  let taxableAmounts ← formatTaxDataForKraXml
    (sale.transactionData.coalesce "taxableAmounts" (.arr [])) "Amount"
  let calculatedTaxes ← formatTaxDataForKraXml
    (sale.transactionData.coalesce "calculatedTaxes" (.arr [])) "Tax"
  let rtype ← getKraReceiptType (← textAt sale.transactionData "receiptType")
  let ttype ← getKraTransactionType (← textAt sale.transactionData "transactionType")
  let rnum ← valueAt sale.transactionData "internalReceiptNumber"
  return receiptHeader sale.now rtype ttype rnum ++ taxRates ++ taxableAmounts ++
    calculatedTaxes ++ clientsPin sale.transactionData

/-- `$xmlPayload`. -/
def signingXml (sale : Sale) : Except Throwable KraXml := do
  let pin ← sale.device.pin
  buildKraXml pin "SEND_RECEIPT" (← receiptPayload sale)

/-! ## After signing -/

/-- The text the receipt's time is read from. -/
def kraTimestampText (dataNode : Xml) : String :=
  dataNode.childText "Date" ++ " " ++ dataNode.childText "Time"

/-- `$kraQrCodeUrl`. -/
def qrCodeUrl (config : KraConfig) (dataNode : Xml) (kraTimestamp : DateTime) : String :=
  let qrCodeData := String.intercalate "#"
    [kraTimestamp.formatCompactDate, kraTimestamp.formatHourMinute,
      dataNode.childText "Snumber", toString (intval (dataNode.childText "TNumber")),
      dataNode.childText "InternalData", dataNode.childText "Signature"]
  config.qrCodeBaseUrl ++ "?data=" ++ urlencode qrCodeData

/-- What the row takes from the call, next to the answer's `DATA` node. -/
structure ReceiptTexts where
  internalReceiptNumber : String
  receiptType : String
  transactionType : String
  rawKraRequestXml : String
  rawKraResponseXml : String

/-- The attributes passed to `Transaction::create`. -/
def signedTransaction (config : KraConfig) (sale : Sale) (dataNode : Xml)
    (kraTimestamp : DateTime) (texts : ReceiptTexts) : Transaction where
  id := sale.uuid
  kraDeviceId := sale.device.id
  taxpayerPinId := sale.device.taxpayerPinId
  internalReceiptNumber := texts.internalReceiptNumber
  receiptType := texts.receiptType
  transactionType := texts.transactionType
  kraScuId := dataNode.childText "Snumber"
  kraReceiptLabel := dataNode.childText "RLabel"
  kraCuInvoiceNumber := dataNode.childText "Snumber" ++ "/" ++ texts.internalReceiptNumber
  kraDigitalSignature := dataNode.childText "Signature"
  kraInternalData := dataNode.childText "InternalData"
  kraQrCodeUrl := qrCodeUrl config dataNode kraTimestamp
  requestPayload := sale.transactionData
  rawKraRequestXml := texts.rawKraRequestXml
  rawKraResponseXml := texts.rawKraResponseXml
  kraTimestamp := kraTimestamp
  journal := .created

/-- From the answer to the attributes of the row. A `DATA` node without any
content passes the first test but has no `Date` to read. -/
def readAnswer (platform : Platform) (config : KraConfig) (sale : Sale)
    (xmlPayload : KraXml) (response : HttpResponse) : Except Throwable Transaction :=
  match platform.simplexmlLoadString response.body with
  | none => .error (.exception "simplexml_load_string(): parser error")
  | some parsedXml =>
      match parsedXml.child? "DATA" with
      | none =>
          .error (.exception
            ("KRA SEND_RECEIPT response missing DATA node: " ++ response.body))
      | some dataNode => do
          let rnum ← textAt sale.transactionData "internalReceiptNumber"
          match DateTime.createFromFormat (kraTimestampText dataNode) with
          | none => .error (.error "Call to a member function format() on false")
          | some kraTimestamp =>
              let receiptType ← textAt sale.transactionData "receiptType"
              let transactionType ← textAt sale.transactionData "transactionType"
              return signedTransaction config sale dataNode kraTimestamp
                ⟨rnum, receiptType, transactionType, platform.asXML xmlPayload,
                  response.body⟩

/-! ## Effects -/

section Effects

variable {collate : String → String}

/-- `Transaction::create`. `database` is a failure of the database itself. -/
def create (database : Option String) (gateway : Gateway collate)
    (transaction : Transaction) : Except Throwable (Gateway collate) :=
  match database with
  | some message => .error (.exception message)
  | none =>
      (gateway.transactions.insert transaction).map fun transactions =>
        { gateway with transactions := transactions }

/-- `ProcessKraJournalingJob::dispatch`. `queue` is a failure of the queue. -/
def dispatch (queue : Option String) (gateway : Gateway collate) (id : String) :
    Except Throwable (Gateway collate) :=
  match queue with
  | some message => .error (.exception message)
  | none => .ok { gateway with jobs := gateway.jobs ++ [id] }

/-- What follows a signed answer: read it, insert the row, dispatch the job. -/
def record (platform : Platform) (config : KraConfig) (sale : Sale)
    (xmlPayload : KraXml) (database queue : Option String) (gateway : Gateway collate)
    (response : HttpResponse) : Except Thrown Transaction × Gateway collate :=
  match readAnswer platform config sale xmlPayload response with
  | .error thrown => (.error (.php thrown), gateway)
  | .ok transaction =>
      match create database gateway transaction with
      | .error thrown => (.error (.php thrown), gateway)
      | .ok stored =>
          match dispatch queue stored transaction.id with
          | .error thrown => (.error (.php thrown), stored)
          | .ok queued => (.ok transaction, queued)

def setBaseUrl (gateway : Gateway collate) (url : String) : Gateway collate :=
  { gateway with kraApi := { gateway.kraApi with baseUrl := url } }

/-- The call up to the device's answer: what it throws, or the payload that was
sent and the answer `sendCommand` returned. -/
def sign (platform : Platform) (config : KraConfig) (kraApi : KraApi) (sale : Sale)
    (network : Outgoing → Transport) : Except Thrown (KraXml × HttpResponse) :=
  match sale.device.pin, targetBaseUrl config sale.device, signingXml sale with
  | .error thrown, _, _ => .error (.php thrown)
  | .ok _, .error thrown, _ => .error (.php thrown)
  | .ok _, .ok _, .error thrown => .error (.php thrown)
  | .ok _, .ok url, .ok xmlPayload =>
      match KraApi.sendCommand platform { kraApi with baseUrl := url } "" xmlPayload true
          network with
      | .error thrown => .error thrown
      | .ok response => .ok (xmlPayload, response)

/-- `processTransaction`. What is thrown before the `try` block leaves the
target base URL set; what is thrown inside it does not. -/
def processTransaction (platform : Platform) (config : KraConfig) (sale : Sale)
    (network : Outgoing → Transport) (database queue : Option String)
    (gateway : Gateway collate) : Except Thrown Transaction × Gateway collate :=
  match sale.device.pin, targetBaseUrl config sale.device with
  | .error thrown, _ => (.error (.php thrown), gateway)
  | .ok _, .error thrown => (.error (.php thrown), gateway)
  | .ok _, .ok url =>
      let originalBaseUrl := gateway.kraApi.baseUrl
      let gateway := setBaseUrl gateway url
      match signingXml sale with
      | .error thrown => (.error (.php thrown), gateway)
      | .ok xmlPayload =>
          let (result, gateway) :=
            match KraApi.sendCommand platform gateway.kraApi "" xmlPayload true network with
            | .error thrown => (.error thrown, gateway)
            | .ok response =>
                record platform config sale xmlPayload database queue gateway response
          (result, setBaseUrl gateway originalBaseUrl)

/-! ## What a call leaves -/

section Outcome

variable {platform : Platform} {config : KraConfig} {sale : Sale}
  {network : Outgoing → Transport} {database queue : Option String}
  {gateway : Gateway collate}

theorem record_setBaseUrl (xmlPayload : KraXml) (response : HttpResponse) (url : String) :
    record platform config sale xmlPayload database queue (setBaseUrl gateway url) response =
      ((record platform config sale xmlPayload database queue gateway response).1,
        setBaseUrl
          (record platform config sale xmlPayload database queue gateway response).2 url) := by
  unfold record
  cases readAnswer platform config sale xmlPayload response with
  | error thrown => rfl
  | ok transaction =>
      cases database with
      | some message => rfl
      | none =>
          simp only [create, setBaseUrl]
          cases gateway.transactions.insert transaction with
          | error thrown => rfl
          | ok transactions =>
              cases queue with
              | some message => rfl
              | none => rfl

/-- A command that can be sent gets whatever answer passes the client's checks. -/
theorem sign_of_answered {kraApi : KraApi} {pin url : String} {xmlPayload : KraXml}
    (hasPin : sale.device.pin = .ok pin) (target : targetBaseUrl config sale.device = .ok url)
    (built : signingXml sale = .ok xmlPayload) (live : kraApi.simulation = none)
    {transport : Transport} {response : HttpResponse}
    (answered : KraApi.checkAnswer platform transport = .ok response) :
    sign platform config kraApi sale (fun _ => transport) = .ok (xmlPayload, response) := by
  have liveAt : ({ kraApi with baseUrl := url } : KraApi).simulation = none := live
  have returned : KraApi.sendCommand platform { kraApi with baseUrl := url } "" xmlPayload
      true (fun _ => transport) = .ok response :=
    (KraApi.sendCommand_live_eq_ok_iff liveAt).mpr answered
  simp only [sign, hasPin, target, built, returned]

/-- A call that gets no answer from the device throws, and leaves table and
queue alone. -/
theorem processTransaction_of_sign_error {thrown : Thrown}
    (unsigned : sign platform config gateway.kraApi sale network = .error thrown) :
    let result := processTransaction platform config sale network database queue gateway
    result.1 = .error thrown ∧ result.2.transactions = gateway.transactions ∧
      result.2.jobs = gateway.jobs := by
  unfold sign at unsigned
  unfold processTransaction
  cases hasPin : sale.device.pin with
  | error other =>
      simp only [hasPin] at unsigned
      obtain rfl := Except.error.inj unsigned
      exact ⟨rfl, rfl, rfl⟩
  | ok pin =>
      cases target : targetBaseUrl config sale.device with
      | error other =>
          simp only [hasPin, target] at unsigned
          obtain rfl := Except.error.inj unsigned
          exact ⟨rfl, rfl, rfl⟩
      | ok url =>
          cases built : signingXml sale with
          | error other =>
              simp only [hasPin, target, built] at unsigned
              obtain rfl := Except.error.inj unsigned
              exact ⟨rfl, rfl, rfl⟩
          | ok xmlPayload =>
              simp only [hasPin, target, built] at unsigned
              split at unsigned
              next exception failed =>
                obtain rfl := Except.error.inj unsigned
                simp [setBaseUrl, failed]
              next => contradiction

/-- A call that gets an answer does with table and queue what `record` does. -/
theorem processTransaction_of_sign_ok {xmlPayload : KraXml} {response : HttpResponse}
    (signed : sign platform config gateway.kraApi sale network =
      .ok (xmlPayload, response)) :
    let result := processTransaction platform config sale network database queue gateway
    let recorded := record platform config sale xmlPayload database queue gateway response
    result.1 = recorded.1 ∧ result.2.transactions = recorded.2.transactions ∧
      result.2.jobs = recorded.2.jobs := by
  unfold sign at signed
  unfold processTransaction
  cases hasPin : sale.device.pin with
  | error other => simp [hasPin] at signed
  | ok pin =>
      cases target : targetBaseUrl config sale.device with
      | error other => simp [hasPin, target] at signed
      | ok url =>
          cases built : signingXml sale with
          | error other => simp [hasPin, target, built] at signed
          | ok payload =>
              simp only [hasPin, target, built] at signed
              split at signed
              next => contradiction
              next answer returned =>
                simp only [Except.ok.injEq, Prod.mk.injEq] at signed
                obtain ⟨rfl, rfl⟩ := signed
                have returned' : KraApi.sendCommand platform (setBaseUrl gateway url).kraApi
                    "" payload true network = .ok answer := returned
                simp only [returned', record_setBaseUrl]
                exact ⟨trivial, rfl, rfl⟩

/-- The DATA node of an answer. -/
def signedData (platform : Platform) (response : HttpResponse) : Option Xml :=
  (platform.simplexmlLoadString response.body).bind fun parsed => parsed.child? "DATA"

/-- An answer without DATA is not read. -/
theorem readAnswer_of_no_data {xmlPayload : KraXml} {response : HttpResponse}
    (noData : signedData platform response = none) :
    ∃ thrown, readAnswer platform config sale xmlPayload response = .error thrown := by
  unfold signedData at noData
  unfold readAnswer
  cases loaded : platform.simplexmlLoadString response.body with
  | none => exact ⟨_, rfl⟩
  | some parsed =>
      rw [loaded, Option.bind_some] at noData
      simp only [noData]
      exact ⟨_, rfl⟩

/-- What the row is made of, once an answer has been read. -/
theorem readAnswer_eq_ok {xmlPayload : KraXml} {response : HttpResponse}
    {transaction : Transaction}
    (read : readAnswer platform config sale xmlPayload response = .ok transaction) :
    ∃ dataNode kraTimestamp rnum receiptType transactionType,
      signedData platform response = some dataNode ∧
      DateTime.createFromFormat (kraTimestampText dataNode) = some kraTimestamp ∧
      textAt sale.transactionData "internalReceiptNumber" = .ok rnum ∧
      textAt sale.transactionData "receiptType" = .ok receiptType ∧
      textAt sale.transactionData "transactionType" = .ok transactionType ∧
      transaction = signedTransaction config sale dataNode kraTimestamp
        ⟨rnum, receiptType, transactionType, platform.asXML xmlPayload,
          response.body⟩ := by
  unfold readAnswer at read
  split at read
  next => contradiction
  next parsed loaded =>
    split at read
    next => contradiction
    next dataNode hasData =>
      obtain ⟨rnum, number, read⟩ := bind_eq_ok.mp read
      split at read
      next => contradiction
      next kraTimestamp parses =>
        obtain ⟨receiptType, receipt, read⟩ := bind_eq_ok.mp read
        obtain ⟨transactionType, kind, returned⟩ := bind_eq_ok.mp read
        refine ⟨dataNode, kraTimestamp, rnum, receiptType, transactionType, ?_, parses,
          number, receipt, kind, (Except.ok.inj returned).symm⟩
        rw [signedData, loaded]
        exact hasData

/-- Everything that can become of an answer. -/
theorem record_cases (xmlPayload : KraXml) (response : HttpResponse) :
    let result := record platform config sale xmlPayload database queue gateway response
    ((∃ thrown, result.1 = .error thrown) ∧
      result.2.transactions = gateway.transactions ∧ result.2.jobs = gateway.jobs) ∨
    ∃ transaction,
      readAnswer platform config sale xmlPayload response = .ok transaction ∧
      gateway.transactions.insert transaction = .ok result.2.transactions ∧
      (queue = none ∧ result.1 = .ok transaction ∧
          result.2.jobs = gateway.jobs ++ [transaction.id] ∨
        queue ≠ none ∧ (∃ thrown, result.1 = .error thrown) ∧
          result.2.jobs = gateway.jobs) := by
  unfold record
  cases read : readAnswer platform config sale xmlPayload response with
  | error thrown => exact .inl ⟨⟨_, rfl⟩, rfl, rfl⟩
  | ok transaction =>
      cases database with
      | some message => exact .inl ⟨⟨_, rfl⟩, rfl, rfl⟩
      | none =>
          simp only [create]
          cases inserted : gateway.transactions.insert transaction with
          | error thrown => exact .inl ⟨⟨_, rfl⟩, rfl, rfl⟩
          | ok transactions =>
              refine .inr ⟨transaction, rfl, ?_⟩
              cases queue with
              | none => exact ⟨inserted, .inl ⟨rfl, rfl, rfl⟩⟩
              | some message => exact ⟨inserted, .inr ⟨nofun, ⟨_, rfl⟩, rfl⟩⟩

/-- Everything that can become of a call. -/
theorem processTransaction_cases :
    let result := processTransaction platform config sale network database queue gateway
    ((∃ thrown, result.1 = .error thrown) ∧
      result.2.transactions = gateway.transactions ∧ result.2.jobs = gateway.jobs) ∨
    ∃ xmlPayload response transaction,
      sign platform config gateway.kraApi sale network = .ok (xmlPayload, response) ∧
      readAnswer platform config sale xmlPayload response = .ok transaction ∧
      gateway.transactions.insert transaction = .ok result.2.transactions ∧
      (queue = none ∧ result.1 = .ok transaction ∧
          result.2.jobs = gateway.jobs ++ [transaction.id] ∨
        queue ≠ none ∧ (∃ thrown, result.1 = .error thrown) ∧
          result.2.jobs = gateway.jobs) := by
  intro result
  cases signed : sign platform config gateway.kraApi sale network with
  | error thrown =>
      obtain ⟨threw, transactions, jobs⟩ := processTransaction_of_sign_error signed
      exact .inl ⟨⟨thrown, threw⟩, transactions, jobs⟩
  | ok answer =>
      obtain ⟨xmlPayload, response⟩ := answer
      obtain ⟨outcome, transactions, jobs⟩ := processTransaction_of_sign_ok signed
      rw [outcome, transactions, jobs]
      rcases record_cases xmlPayload response with unchanged | ⟨transaction, stored⟩
      · exact .inl unchanged
      · exact .inr ⟨xmlPayload, response, transaction, rfl, stored⟩

end Outcome

end Effects

end KraSalesService

end TaxGateway.Services
