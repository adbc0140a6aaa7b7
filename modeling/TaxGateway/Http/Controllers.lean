import TaxGateway.Client.Calls
import TaxGateway.Http.Pipeline
import TaxGateway.Http.ServiceRequests

/-!
Contract: the controllers under `/api/v1`, from an admitted request to the body they
answer with.

Owns:
- the data each controller passes to its service;
- the JSON of what the services return;
- one action for each endpoint, on the session the services share.

Does not own: which requests are admitted, or how exceptions are rendered. The `catch`
blocks of the controllers write to the log and throw again.
-/

namespace TaxGateway.Http

open TaxGateway.Php
open TaxGateway.Validation
open TaxGateway.Database
open TaxGateway.Effects
open TaxGateway.Services
open TaxGateway.Services.Session
open TaxGateway.Exceptions

/-! ## JSON -/

/-- `response()->json([…])`. -/
def jsonResponse (fields : List (String × Value)) : ApiResponse :=
  ⟨200, some (.arr (fields.map fun field => (.str field.1, field.2)))⟩

/-- A PHP list. -/
def jsonList (values : List Value) : Value :=
  .arr (values.zipIdx.map fun entry => (.int entry.2, entry.1))

/-- A record of texts, by its keys. -/
def jsonRecord (fields : List (String × String)) : Value :=
  .arr (fields.map fun field => (.str field.1, .str field.2))

/-- `$date->toISOString()` of a time in UTC without fractions of a second. -/
def isoText (date : DateTime) : String :=
  date.formatDashedDate ++ "T" ++ date.formatTime ++ ".000000Z"

def statusText : DeviceStatus → String
  | .PENDING => "PENDING"
  | .ACTIVATED => "ACTIVATED"
  | .UNAVAILABLE => "UNAVAILABLE"
  | .ERROR => "ERROR"

def journalText : JournalStatus → String
  | .PENDING => "PENDING"
  | .QUEUED => "QUEUED"
  | .COMPLETED => "COMPLETED"
  | .FAILED => "FAILED"

section Reports

open KraReportService

def dailyReportJson (report : DailyReport) : Value :=
  .arr [(.str "tradeName", .str report.tradeName),
    (.str "taxpayerPin", .str report.taxpayerPin),
    (.str "reportDate", .str report.reportDate),
    (.str "reportTime", .str report.reportTime),
    (.str "reportType", .str report.reportType),
    (.str "totalSalesAmountNS", .num report.totalSalesAmountNS),
    (.str "numberOfSalesReceiptsNS", .num report.numberOfSalesReceiptsNS),
    (.str "totalCreditNoteAmountNC", .num report.totalCreditNoteAmountNC),
    (.str "numberOfCreditNotesNC", .num report.numberOfCreditNotesNC)]

def pluItemJson (item : PluItem) : Value :=
  .arr [(.str "itemCode", .str item.itemCode), (.str "itemName", .str item.itemName),
    (.str "unitPrice", .num item.unitPrice), (.str "taxRate", .num item.taxRate),
    (.str "quantitySold", .num item.quantitySold),
    (.str "amountCollected", .num item.amountCollected),
    (.str "remainingQuantityInStock", .num item.remainingQuantityInStock)]

def pluReportJson (report : PluReport) : Value :=
  .arr [(.str "companyName", .str report.companyName),
    (.str "taxIdentificationNumber", .str report.taxIdentificationNumber),
    (.str "intervalDate", .str report.intervalDate),
    (.str "intervalTime", .str report.intervalTime),
    (.str "reportType", .str report.reportType),
    (.str "items", jsonList (report.items.map pluItemJson))]

/-- `response()->json($response)` of a report. -/
def retrievedResponse {ρ : Type} (reportJson : ρ → Value) (retrieved : Retrieved ρ) :
    ApiResponse :=
  jsonResponse [("message", .str retrieved.message), ("report", reportJson retrieved.report),
    ("kraResponse", .str retrieved.kraResponse)]

end Reports

/-- A listed item. `arrayOf` is what PHP's JSON encoder makes of `(array) $node`. -/
def listedItemJson (arrayOf : Xml → Value) : KraItemService.ListedItem → Value
  | .record fields => jsonRecord fields
  | .data node => arrayOf node

/-! ## Controllers -/

section Controllers

variable {collate : String → String} (world : World)

namespace KraSalesController

/-- The lookups of the rules of a sale. -/
def lookups (database : Tenants) : ProcessTransactionRequest.Lookups where
  deviceExists id := database.kraDevices.any fun device => device.id = id
  pinExists := InitializeKraDeviceRequest.pinExists database

/-- The answer to a signed sale. -/
def signedResponse (transaction : Transaction) : ApiResponse :=
  jsonResponse
    [("message", .str "Transaction processed and signed successfully."),
      ("gatewayTransactionId", .str transaction.id),
      ("kra", .arr
        [(.str "scuId", .str transaction.kraScuId),
          (.str "scuTimestamp", .str (isoText transaction.kraTimestamp)),
          (.str "receiptLabel", .str transaction.kraReceiptLabel),
          (.str "digitalSignature", .str transaction.kraDigitalSignature),
          (.str "internalData", .str transaction.kraInternalData),
          (.str "cuInvoiceNumber", .str transaction.kraCuInvoiceNumber),
          (.str "qrCodeUrl", .str transaction.kraQrCodeUrl)]),
      ("journalStatus", .str (journalText transaction.journal.status))]

/-- `KraSalesController::process`. A hook of the validator that throws does so before
the controller is called. -/
def process (kraDevice : KraDeviceRow) (input : Entries) : Service collate ApiResponse := do
  let session ← get
  let _ ← raise (ProcessTransactionRequest.afterHook input)
  let transactionData := validatedSchema
    (ProcessTransactionRequest.rules (lookups session.tenants) input) input
  let transaction ←
    Client.processTransaction world (session.tenants.kraDevice kraDevice) transactionData
  return signedResponse transaction

end KraSalesController

namespace KraItemController

/-- `KraItemController::registerItem`. -/
def registerItem (kraDevice : KraDeviceRow) (input : Entries) : Service collate ApiResponse := do
  let session ← get
  let itemData := validatedSchema (RegisterKraItemRequest.rules session.tenants) input
  let response ←
    KraItemService.registerItem world (session.tenants.kraDevice kraDevice) itemData
  return jsonResponse
    [("message", .str "Item registration process initiated."),
      ("status", .str response.status), ("details", .str response.message)]

/-- `KraItemController::getItems`. -/
def getItems (arrayOf : Xml → Value) (kraDevice : KraDeviceRow) :
    Service collate ApiResponse := do
  let session ← get
  let response ← KraItemService.getItems world (session.tenants.kraDevice kraDevice)
  return jsonResponse
    [("message", .str response.message),
      ("items", jsonList (response.items.map (listedItemJson arrayOf))),
      ("kraResponse", .str response.kraResponse)]

end KraItemController

namespace KraPurchaseController

/-- `KraPurchaseController::sendPurchase`. -/
def sendPurchase (kraDevice : KraDeviceRow) (input : Entries) : Service collate ApiResponse := do
  let session ← get
  let purchaseData := validatedSchema (SendKraPurchaseRequest.rules session.tenants) input
  let message ←
    KraPurchaseService.sendPurchase world (session.tenants.kraDevice kraDevice) purchaseData
  return jsonResponse
    [("message", .str "Purchase data sent to KRA successfully."), ("details", .str message)]

/-- `KraPurchaseController::getPurchases`. -/
def getPurchases (kraDevice : KraDeviceRow) : Service collate ApiResponse := do
  let session ← get
  let response ← KraPurchaseService.getPurchases world (session.tenants.kraDevice kraDevice)
  return jsonResponse
    [("message", .str response.message),
      ("purchases", jsonList (response.purchases.map jsonRecord)),
      ("purchaseItems", jsonList (response.purchaseItems.map jsonRecord)),
      ("kraResponsePurchases", .str response.kraResponsePurchases),
      ("kraResponsePurchaseItems", .str response.kraResponsePurchaseItems)]

end KraPurchaseController

namespace KraInventoryController

/-- `KraInventoryController::sendMovement`. -/
def sendMovement (kraDevice : KraDeviceRow) (input : Entries) : Service collate ApiResponse := do
  let session ← get
  let inventoryData :=
    validatedSchema (SendKraInventoryMovementRequest.rules session.tenants) input
  let response ← KraInventoryService.sendInventoryMovement world
    (session.tenants.kraDevice kraDevice) inventoryData
  return jsonResponse
    [("message", .str "Inventory movement data sent to KRA successfully."),
      ("status", .str response.status), ("details", .str response.message)]

end KraInventoryController

namespace KraReportController

/-- `KraReportController::getXDailyReport`. -/
def getXDailyReport (kraDevice : KraDeviceRow) : Service collate ApiResponse := do
  let session ← get
  let response ← KraReportService.getXDailyReport world (session.tenants.kraDevice kraDevice)
  return retrievedResponse dailyReportJson response

/-- `KraReportController::generateZDailyReport`. -/
def generateZDailyReport (kraDevice : KraDeviceRow) : Service collate ApiResponse := do
  let session ← get
  let response ←
    KraReportService.generateZDailyReport world (session.tenants.kraDevice kraDevice)
  return retrievedResponse dailyReportJson response

/-- `KraReportController::getPLUReport`. -/
def getPLUReport (kraDevice : KraDeviceRow) (input : Entries) : Service collate ApiResponse := do
  let session ← get
  let response ← KraReportService.getPLUReport world (session.tenants.kraDevice kraDevice)
    (PluReportQuery.query input "startDate") (PluReportQuery.query input "endDate")
  return retrievedResponse pluReportJson response

end KraReportController

namespace KraDeviceController

/-- `$data`: what was validated, its PIN written once more. -/
def initializeData (database : Tenants) (input : Entries) : Entries :=
  Value.assignKey (validatedSchema (InitializeKraDeviceRequest.rules database) input)
    "taxpayerPin" ((read input "taxpayerPin").getD .null)

/-- The answer to an activation. -/
def activatedResponse (kraDevice : KraDeviceRow) : ApiResponse :=
  jsonResponse
    [("message", .str "KRA device initialized successfully."),
      ("gatewayDeviceId", .str kraDevice.id), ("kraScuId", .str kraDevice.kraScuId),
      ("deviceType", .str kraDevice.deviceType), ("status", .str (statusText kraDevice.status))]

/-- `KraDeviceController::initialize`. -/
def initializeKraDevice (input : Entries) : Service collate ApiResponse := do
  let session ← get
  let kraDevice ←
    KraDeviceService.initializeDevice world (initializeData session.tenants input)
  return activatedResponse kraDevice

/-- The answer to a status check. -/
def statusResponse (kraDevice : KraDeviceRow) (statusData : KraDeviceService.StatusReport) :
    ApiResponse :=
  jsonResponse
    [("message", .str "KRA device status retrieved successfully."),
      ("gatewayDeviceId", .str kraDevice.id), ("kraScuId", .str statusData.kraScuId),
      ("firmwareVersion", .str statusData.firmwareVersion),
      ("hardwareRevision", .str statusData.hardwareRevision),
      ("currentZReportCount", .num statusData.currentZReportCount),
      ("lastRemoteAuditDate", .str statusData.lastRemoteAuditDate),
      ("lastLocalAuditDate", .str statusData.lastLocalAuditDate),
      ("operationalStatus", .str statusData.operationalStatus),
      ("errorMessage", optionalText statusData.errorMessage)]

/-- `KraDeviceController::getStatus`, on the device it has found. -/
def getStatus (kraDevice : KraDeviceRow) : Service collate ApiResponse := do
  let statusData ← KraDeviceService.getDeviceStatus world kraDevice
  return statusResponse kraDevice statusData

end KraDeviceController

/-! ## Endpoints -/

/-- What an endpoint does on the device it has found. -/
def serve (arrayOf : Xml → Value) (endpoint : Endpoint) (kraDevice : KraDeviceRow)
    (request : ApiRequest) : Service collate ApiResponse :=
  match endpoint with
  | .deviceStatus => KraDeviceController.getStatus world kraDevice
  | .registerItem => KraItemController.registerItem world kraDevice request.input
  | .getItems => KraItemController.getItems world arrayOf kraDevice
  | .sendPurchase => KraPurchaseController.sendPurchase world kraDevice request.input
  | .getPurchases => KraPurchaseController.getPurchases world kraDevice
  | .sendMovement => KraInventoryController.sendMovement world kraDevice request.input
  | .processTransaction => KraSalesController.process world kraDevice request.input
  | .xDailyReport => KraReportController.getXDailyReport world kraDevice
  | .zDailyReport => KraReportController.generateZDailyReport world kraDevice
  | .pluReport => KraReportController.getPLUReport world kraDevice request.input

end Controllers

end TaxGateway.Http
