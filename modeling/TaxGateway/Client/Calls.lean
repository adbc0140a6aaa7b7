import TaxGateway.Services.KraDeviceService
import TaxGateway.Services.KraInventoryService
import TaxGateway.Services.KraItemService
import TaxGateway.Services.KraPurchaseService
import TaxGateway.Services.KraReportService

/-!
Contract: the calls of the KRA services, and sessions in which they follow one
another.

Owns:
- `processTransaction` as an action on a session, and its agreement with
  `KraSalesService.processTransaction`;
- the twelve public methods of the six services as one kind of call;
- the session a call leaves.

Does not own: what the calls return, or which of them an endpoint makes.
-/

namespace TaxGateway.Client

open TaxGateway.Php
open TaxGateway.Database
open TaxGateway.Effects
open TaxGateway.Services
open TaxGateway.Services.Session

variable {collate : String → String}

/-! ## The sale -/

/-- What follows a signed answer. -/
def recordSale (world : World) (sale : Sale) (xmlPayload : KraXml) (response : HttpResponse) :
    Service collate Transaction := do
  let session ← get
  let recorded := KraSalesService.record world.platform world.config sale xmlPayload
    world.database world.queue session.gateway response
  modify fun session => { session with gateway := recorded.2 }
  ofExcept recorded.1

/-- One call of `processTransaction`. -/
def saleOf (world : World) (kraDevice : KraDevice) (transactionData : Entries) : Sale :=
  ⟨kraDevice, .arr transactionData, world.uuid, world.now⟩

/-- `KraSalesService::processTransaction`. The payload is built with the target URL
already set, but before the `try` whose `finally` puts the old one back. -/
def processTransaction (world : World) (kraDevice : KraDevice) (transactionData : Entries) :
    Service collate Transaction := do
  let sale := saleOf world kraDevice transactionData
  let _ ← raise kraDevice.pin
  let originalBaseUrl ← baseUrl.read
  setBaseUrl (KraSalesService.targetBaseUrl world.config kraDevice)
  let xmlPayload ← raise (KraSalesService.signingXml sale)
  tryFinally
    (do
      let response ← sendCommand world "" xmlPayload true
      recordSale world sale xmlPayload response)
    (baseUrl.write originalBaseUrl : Service collate Unit)

section Sale

variable {world : World} {kraDevice : KraDevice} {transactionData : Entries}
  {session : Session collate}

theorem exec_recordSale (sale : Sale) (xmlPayload : KraXml) (response : HttpResponse) :
    exec (recordSale world sale xmlPayload response) session =
      let recorded := KraSalesService.record world.platform world.config sale xmlPayload
        world.database world.queue session.gateway response
      (recorded.1, { session with gateway := recorded.2 }) := by
  simp [recordSale, exec_bind]

/-- Recording a sale does not touch the client. -/
theorem kraApi_record (sale : Sale) (xmlPayload : KraXml) (response : HttpResponse)
    (gateway : Gateway collate) :
    (KraSalesService.record world.platform world.config sale xmlPayload world.database
      world.queue gateway response).2.kraApi = gateway.kraApi := by
  unfold KraSalesService.record KraSalesService.create KraSalesService.dispatch
  cases KraSalesService.readAnswer world.platform world.config sale xmlPayload response with
  | error thrown => rfl
  | ok transaction =>
      cases world.database with
      | some message => rfl
      | none =>
          dsimp only
          cases gateway.transactions.insert transaction with
          | error thrown => rfl
          | ok transactions => cases world.queue <;> rfl

theorem follows_recordSale (sale : Sale) (xmlPayload : KraXml) (response : HttpResponse) :
    Follows Within (recordSale world sale xmlPayload response : Service collate Transaction) := by
  intro session
  rw [exec_recordSale]
  exact within_of_same (kraApi_record sale xmlPayload response session.gateway) rfl

theorem exec_processTransaction_of_noPin {thrown : Throwable}
    (noPin : kraDevice.pin = .error thrown) :
    exec (processTransaction world kraDevice transactionData) session =
      (.error (.php thrown), session) := by
  simp only [processTransaction, noPin, exec_raise_bind_error]

theorem exec_processTransaction_of_noTarget {pin : String} {thrown : Throwable}
    (hasPin : kraDevice.pin = .ok pin)
    (noTarget : KraSalesService.targetBaseUrl world.config kraDevice = .error thrown) :
    exec (processTransaction world kraDevice transactionData) session =
      (.error (.php thrown), session) := by
  simp only [processTransaction, hasPin, exec_raise_bind_ok, noTarget]
  rfl

/-- A payload that cannot be built leaves the target URL set. -/
theorem exec_processTransaction_of_unsigned {pin url : String} {thrown : Throwable}
    (hasPin : kraDevice.pin = .ok pin)
    (target : KraSalesService.targetBaseUrl world.config kraDevice = .ok url)
    (unsigned : KraSalesService.signingXml (saleOf world kraDevice transactionData) =
      .error thrown) :
    exec (processTransaction world kraDevice transactionData) session =
      (.error (.php thrown), baseUrl.put url session) := by
  simp only [processTransaction, hasPin, exec_raise_bind_ok, target, unsigned]
  rfl

/-- A payload that is built is sent to the target, and the old URL is put back. -/
theorem exec_processTransaction_of_signed {pin url : String} {xmlPayload : KraXml}
    (hasPin : kraDevice.pin = .ok pin)
    (target : KraSalesService.targetBaseUrl world.config kraDevice = .ok url)
    (signed : KraSalesService.signingXml (saleOf world kraDevice transactionData) =
      .ok xmlPayload) :
    exec (processTransaction world kraDevice transactionData) session =
      let sent := exec
        (do
          let response ← sendCommand world "" xmlPayload true
          recordSale world (saleOf world kraDevice transactionData) xmlPayload response)
        (baseUrl.put url session)
      (sent.1, baseUrl.put (baseUrl.get session) sent.2) := by
  simp only [processTransaction, hasPin, exec_raise_bind_ok, target, signed]
  rw [exec_bind_ok (baseUrl.exec_read session), exec_bind_ok (exec_setBaseUrl_ok url session)]
  exact exec_tryFinally _ _ _

/-- What a sale sends goes to its target, also when the target stays set. -/
theorem exists_sent_processTransaction (session : Session collate) :
    ∃ sent, (exec (processTransaction world kraDevice transactionData) session).2.calls =
        session.calls ++ sent ∧
      ∀ call ∈ sent, .ok call.baseUrl = KraSalesService.targetBaseUrl world.config kraDevice := by
  cases hasPin : kraDevice.pin with
  | error thrown =>
      rw [exec_processTransaction_of_noPin hasPin]
      exact ⟨[], (List.append_nil _).symm, by simp⟩
  | ok pin =>
      cases target : KraSalesService.targetBaseUrl world.config kraDevice with
      | error thrown =>
          rw [exec_processTransaction_of_noTarget hasPin target]
          exact ⟨[], (List.append_nil _).symm, by simp⟩
      | ok url =>
          cases signed : KraSalesService.signingXml (saleOf world kraDevice transactionData) with
          | error thrown =>
              rw [exec_processTransaction_of_unsigned hasPin target signed]
              exact ⟨[], (List.append_nil _).symm, by simp⟩
          | ok xmlPayload =>
              rw [exec_processTransaction_of_signed hasPin target signed]
              have body : Follows Within (do
                  let response ← sendCommand world "" xmlPayload true
                  recordSale world (saleOf world kraDevice transactionData) xmlPayload response :
                    Service collate Transaction) :=
                (follows_sendCommand _ _ _ _).bind fun _ => follows_recordSale _ _ _
              obtain ⟨-, sent, calls, there⟩ := body (baseUrl.put url session)
              exact ⟨sent, calls, fun call member => congrArg Except.ok (there call member)⟩

/-- On a session the sale ends as `KraSalesService.processTransaction` does, and
leaves the same tables, queue and client. -/
theorem exec_processTransaction_eq :
    let result := KraSalesService.processTransaction world.platform world.config
      (saleOf world kraDevice transactionData) (fun _ => world.transport session.calls.length)
      world.database world.queue session.gateway
    let ended := exec (processTransaction world kraDevice transactionData) session
    ended.1 = result.1 ∧ ended.2.gateway = result.2 := by
  have samePin : (saleOf world kraDevice transactionData).device = kraDevice := rfl
  dsimp only
  unfold KraSalesService.processTransaction
  rw [samePin]
  cases hasPin : kraDevice.pin with
  | error thrown =>
      rw [exec_processTransaction_of_noPin hasPin]
      exact ⟨rfl, rfl⟩
  | ok pin =>
      cases target : KraSalesService.targetBaseUrl world.config kraDevice with
      | error thrown =>
          rw [exec_processTransaction_of_noTarget hasPin target]
          exact ⟨rfl, rfl⟩
      | ok url =>
          cases signed : KraSalesService.signingXml (saleOf world kraDevice transactionData) with
          | error thrown =>
              rw [exec_processTransaction_of_unsigned hasPin target signed]
              exact ⟨rfl, rfl⟩
          | ok xmlPayload =>
              rw [exec_processTransaction_of_signed hasPin target signed]
              dsimp only
              rw [exec_bind, sendCommand, exec_transmit, KraClient.sendCommand_eq]
              have switched : (baseUrl.put url session).gateway =
                KraSalesService.setBaseUrl session.gateway url := rfl
              have sameCalls : (baseUrl.put url session).calls = session.calls := rfl
              rw [switched, sameCalls]
              cases KraApi.sendCommand world.platform
                  (KraSalesService.setBaseUrl session.gateway url).kraApi "" xmlPayload true
                  fun _ => world.transport session.calls.length with
              | error exception => exact ⟨rfl, rfl⟩
              | ok response =>
                  simp only [exec_recordSale]
                  exact ⟨trivial, rfl⟩

end Sale

/-! ## Calls -/

/-- A call of a public method of one of the services. -/
inductive ServiceCall where
  | processTransaction (kraDevice : KraDevice) (transactionData : Entries)
  | sendPurchase (kraDevice : KraDevice) (purchaseData : Entries)
  | getPurchases (kraDevice : KraDevice)
  | sendInventoryMovement (kraDevice : KraDevice) (inventoryData : Entries)
  | getInventoryData (kraDevice : KraDevice) (filterData : Entries)
  | registerItem (kraDevice : KraDevice) (itemData : Entries)
  | getItems (kraDevice : KraDevice)
  | getXDailyReport (kraDevice : KraDevice)
  | generateZDailyReport (kraDevice : KraDevice)
  | getPLUReport (kraDevice : KraDevice) (startDate endDate : Option String)
  | initializeDevice (data : Entries)
  | getDeviceStatus (kraDevice : KraDeviceRow)

/-- The session a call leaves, whether it returns or throws. -/
def leaves (world : World) (session : Session collate) : ServiceCall → Session collate
  | .processTransaction kraDevice transactionData =>
      (exec (processTransaction world kraDevice transactionData) session).2
  | .sendPurchase kraDevice purchaseData =>
      (exec (KraPurchaseService.sendPurchase world kraDevice purchaseData) session).2
  | .getPurchases kraDevice =>
      (exec (KraPurchaseService.getPurchases world kraDevice) session).2
  | .sendInventoryMovement kraDevice inventoryData =>
      (exec (KraInventoryService.sendInventoryMovement world kraDevice inventoryData) session).2
  | .getInventoryData kraDevice filterData =>
      (exec (KraInventoryService.getInventoryData world kraDevice filterData) session).2
  | .registerItem kraDevice itemData =>
      (exec (KraItemService.registerItem world kraDevice itemData) session).2
  | .getItems kraDevice => (exec (KraItemService.getItems world kraDevice) session).2
  | .getXDailyReport kraDevice =>
      (exec (KraReportService.getXDailyReport world kraDevice) session).2
  | .generateZDailyReport kraDevice =>
      (exec (KraReportService.generateZDailyReport world kraDevice) session).2
  | .getPLUReport kraDevice startDate endDate =>
      (exec (KraReportService.getPLUReport world kraDevice startDate endDate) session).2
  | .initializeDevice data => (exec (KraDeviceService.initializeDevice world data) session).2
  | .getDeviceStatus kraDevice =>
      (exec (KraDeviceService.getDeviceStatus world kraDevice) session).2

/-- The device of a call whose `try` statement is entered with the target URL set, and
nothing in between: neither a sale nor the methods of `KraDeviceService`. -/
def ServiceCall.switchedFor : ServiceCall → Option KraDevice
  | .processTransaction _ _ | .initializeDevice _ | .getDeviceStatus _ => none
  | .sendPurchase kraDevice _ | .getPurchases kraDevice
  | .sendInventoryMovement kraDevice _ | .getInventoryData kraDevice _
  | .registerItem kraDevice _ | .getItems kraDevice | .getXDailyReport kraDevice
  | .generateZDailyReport kraDevice | .getPLUReport kraDevice _ _ => some kraDevice

theorem leaves_sendsTo (world : World) (session : Session collate) {call : ServiceCall}
    {kraDevice : KraDevice} (switched : call.switchedFor = some kraDevice) :
    SendsTo (KraSalesService.targetBaseUrl world.config kraDevice) session
      (leaves world session call) := by
  cases call with
  | processTransaction | initializeDevice | getDeviceStatus => cases switched
  | sendPurchase _ purchaseData =>
      cases switched
      exact KraPurchaseService.follows_sendPurchase world kraDevice purchaseData session
  | getPurchases =>
      cases switched
      exact KraPurchaseService.follows_getPurchases world kraDevice session
  | sendInventoryMovement _ inventoryData =>
      cases switched
      exact KraInventoryService.follows_sendInventoryMovement world kraDevice inventoryData session
  | getInventoryData _ filterData =>
      cases switched
      exact KraInventoryService.follows_getInventoryData world kraDevice filterData session
  | registerItem _ itemData =>
      cases switched
      exact KraItemService.follows_registerItem world kraDevice itemData session
  | getItems =>
      cases switched
      exact KraItemService.follows_getItems world kraDevice session
  | getXDailyReport =>
      cases switched
      exact KraReportService.follows_getXDailyReport world kraDevice session
  | generateZDailyReport =>
      cases switched
      exact KraReportService.follows_generateZDailyReport world kraDevice session
  | getPLUReport _ startDate endDate =>
      cases switched
      exact KraReportService.follows_getPLUReport world kraDevice startDate endDate session

/-- One call of a session, each in a world of its own. Every call is enabled. -/
def step (session : Session collate) (label : World × ServiceCall) : Option (Session collate) :=
  some (leaves label.1 session label.2)

/-- The configuration as shipped, and nobody to answer. -/
def offlineWorld : World where
  platform := KraApi.platformReading []
  jsonDecode _ := none
  simulateJson _ _ := .ok ⟨200, ""⟩
  config := ⟨"https://etims-api-sbx.kra.go.ke/etims-api/", "http://127.0.0.1:8088",
    "https://etims.kra.go.ke/receipt_validation"⟩
  now := ⟨2025, 7, 3, 13, 8, 10⟩
  uuid := "1"
  transport _ := .failed "Connection refused"
  database := none
  queue := none

end TaxGateway.Client
