import TaxGateway.Client.SimulatedMethods
import TaxGateway.Devices.ActivationRecovery

/-!
Contract: which calls simulation mode covers.

Owns:
- the calls the endpoints make: on a stored device, with validated data;
- the exact condition under which a call returns;
- activations, which never do.

Does not own: the answers themselves, or what the other methods make of them.
-/

namespace TaxGateway.Client

open TaxGateway.Php
open TaxGateway.Validation
open TaxGateway.Database
open TaxGateway.Effects
open TaxGateway.Http
open TaxGateway.Services
open TaxGateway.Services.KraApi
open TaxGateway.Services.Session

/-! ## Calls of endpoints -/

/-- The calls the endpoints make, the device being any that is stored. -/
inductive Accepted (tenants : Tenants) : ServiceCall → Prop
  /-- The controller sets the PIN once more, from the input. -/
  | initializeDevice {input : Entries}
      (accepted : schemaPasses (InitializeKraDeviceRequest.rules tenants) input = true) :
      Accepted tenants (.initializeDevice
        (Value.assignKey (validatedSchema (InitializeKraDeviceRequest.rules tenants) input)
          "taxpayerPin" ((read input "taxpayerPin").getD .null)))
  | getDeviceStatus {row : KraDeviceRow} (stored : row ∈ tenants.kraDevices) :
      Accepted tenants (.getDeviceStatus row)
  | registerItem {row : KraDeviceRow} {input : Entries} (stored : row ∈ tenants.kraDevices)
      (accepted : schemaPasses (RegisterKraItemRequest.rules tenants) input = true) :
      Accepted tenants (.registerItem (tenants.kraDevice row)
        (validatedSchema (RegisterKraItemRequest.rules tenants) input))
  | getItems {row : KraDeviceRow} (stored : row ∈ tenants.kraDevices) :
      Accepted tenants (.getItems (tenants.kraDevice row))
  | sendPurchase {row : KraDeviceRow} {input : Entries} (stored : row ∈ tenants.kraDevices)
      (accepted : schemaPasses (SendKraPurchaseRequest.rules tenants) input = true) :
      Accepted tenants (.sendPurchase (tenants.kraDevice row)
        (validatedSchema (SendKraPurchaseRequest.rules tenants) input))
  | getPurchases {row : KraDeviceRow} (stored : row ∈ tenants.kraDevices) :
      Accepted tenants (.getPurchases (tenants.kraDevice row))
  | sendInventoryMovement {row : KraDeviceRow} {input : Entries}
      (stored : row ∈ tenants.kraDevices)
      (accepted : schemaPasses (SendKraInventoryMovementRequest.rules tenants) input = true) :
      Accepted tenants (.sendInventoryMovement (tenants.kraDevice row)
        (validatedSchema (SendKraInventoryMovementRequest.rules tenants) input))
  | getInventoryData {row : KraDeviceRow} {input : Entries} (stored : row ∈ tenants.kraDevices)
      (accepted : schemaPasses (tenantRules tenants) input = true) :
      Accepted tenants (.getInventoryData (tenants.kraDevice row) (StockQuery.filterData input))
  | processTransaction {row : KraDeviceRow} (stored : row ∈ tenants.kraDevices)
      (request : AcceptedRequest) :
      Accepted tenants (.processTransaction (tenants.kraDevice row)
        (validatedSchema (ProcessTransactionRequest.rules request.lookups request.input)
          request.input))
  | getXDailyReport {row : KraDeviceRow} (stored : row ∈ tenants.kraDevices) :
      Accepted tenants (.getXDailyReport (tenants.kraDevice row))
  | generateZDailyReport {row : KraDeviceRow} (stored : row ∈ tenants.kraDevices) :
      Accepted tenants (.generateZDailyReport (tenants.kraDevice row))
  | getPLUReport {row : KraDeviceRow} {input : Entries} (stored : row ∈ tenants.kraDevices)
      (accepted : PluReportQuery.accepts tenants input = true) :
      Accepted tenants (.getPLUReport (tenants.kraDevice row)
        (PluReportQuery.query input "startDate") (PluReportQuery.query input "endDate"))

/-- The device of a call that sends XML. -/
def deviceOf (tenants : Tenants) : ServiceCall → Option KraDevice
  | .initializeDevice _ => none
  | .getDeviceStatus row => some (tenants.kraDevice row)
  | .processTransaction kraDevice _ | .sendPurchase kraDevice _ | .getPurchases kraDevice
  | .sendInventoryMovement kraDevice _ | .getInventoryData kraDevice _
  | .registerItem kraDevice _ | .getItems kraDevice | .getXDailyReport kraDevice
  | .generateZDailyReport kraDevice | .getPLUReport kraDevice _ _ => some kraDevice

/-! ## Simulation mode -/

/-- `json_decode` of the one mock answer in JSON. -/
def mockInitJson : Value :=
  .arr [(.str "resultCd", .str "000"), (.str "resultMsg", .str "SUCCESS"),
    (.str "data", .arr
      [(.str "branchOfficeId", .str "00"), (.str "deviceType", .str "VSCU"),
        (.str "deviceStatus", .str "ACTIVE"), (.str "lastSyncTime", .str "20250704120000"),
        (.str "SCU_ID", .str "KRACU000000001")])]

/-- Simulation mode is on: the client makes the answers up, the clock shows a time, and
JSON is decoded as JSON, which does not start like a document. -/
structure Simulates {collate : String → String} (world : World) (session : Session collate) :
    Prop where
  answersXml : IsSimulated (getSimulatedResponse world.now) session
  answersJson : world.simulateJson = getSimulatedJsonResponse world.now
  clock : world.now.IsClockTime
  refusesOthers : ∀ text, text.toList.head? = some '<' → world.jsonDecode text = none
  decodesInit : world.jsonDecode getMockInitResponseJson = some mockInitJson

section Property

variable {collate : String → String} (world : World) (session : Session collate)

/-- The call returns; an activation with an active device that has an SCU id. -/
def Covered : ServiceCall → Prop
  | .initializeDevice data =>
      ∃ row, (exec (KraDeviceService.initializeDevice world data) session).1 = .ok row ∧
        row.status = .ACTIVATED ∧ row.kraScuId ≠ ""
  | .getDeviceStatus row => Returns (KraDeviceService.getDeviceStatus world row) session
  | .registerItem kraDevice itemData =>
      Returns (KraItemService.registerItem world kraDevice itemData) session
  | .getItems kraDevice => Returns (KraItemService.getItems world kraDevice) session
  | .sendPurchase kraDevice purchaseData =>
      Returns (KraPurchaseService.sendPurchase world kraDevice purchaseData) session
  | .getPurchases kraDevice => Returns (KraPurchaseService.getPurchases world kraDevice) session
  | .sendInventoryMovement kraDevice inventoryData =>
      Returns (KraInventoryService.sendInventoryMovement world kraDevice inventoryData) session
  | .getInventoryData kraDevice filterData =>
      Returns (KraInventoryService.getInventoryData world kraDevice filterData) session
  | .processTransaction kraDevice transactionData =>
      Returns (processTransaction world kraDevice transactionData) session
  | .getXDailyReport kraDevice =>
      Returns (KraReportService.getXDailyReport world kraDevice) session
  | .generateZDailyReport kraDevice =>
      Returns (KraReportService.generateZDailyReport world kraDevice) session
  | .getPLUReport kraDevice startDate endDate =>
      Returns (KraReportService.getPLUReport world kraDevice startDate endDate) session

/-! ## The condition -/

/-- The calls that simulation mode reaches. -/
def WithinReach : ServiceCall → Prop
  | .initializeDevice _ | .getItems _ => False
  | .getDeviceStatus row =>
      HasBaseUrl (session.tenants.kraDevice row) ∧ world.database = none
  | .registerItem kraDevice itemData =>
      HasBaseUrl kraDevice ∧
        ∀ key ∈ flagKeys, ((Value.arr itemData).index key).isSome = true
  | .sendPurchase kraDevice _ | .getPurchases kraDevice | .sendInventoryMovement kraDevice _ =>
      HasBaseUrl kraDevice
  | .getInventoryData kraDevice filterData =>
      HasBaseUrl kraDevice ∧ ∀ key ∈ StockQuery.filterKeys,
        ((Value.arr filterData).coalesce key .null).isArray = false
  | .processTransaction kraDevice transactionData =>
      HasBaseUrl kraDevice ∧ TakesReceipt world session kraDevice transactionData
  | .getXDailyReport kraDevice | .generateZDailyReport kraDevice
  | .getPLUReport kraDevice _ _ => HasBaseUrl kraDevice ∧ HasReportPin kraDevice

end Property

/-! ## Activations -/

section Activations

variable {collate : String → String} {world : World} {session : Session collate}

/-- No simulated answer to an activation has an SCU id. -/
theorem coalesce_sdcId (simulates : Simulates world session) {command pin body : String}
    (answers : generateMockResponse world.now command pin = .ok body) :
    ((world.jsonDecode body).getD .null).coalesce "sdcId" .null = .null := by
  rcases head?_of_mock answers with isInit | starts
  · rw [isInit, simulates.decodesInit]
    rfl
  · rw [simulates.refusesOthers _ starts]
    rfl

/-- So every activation ends in an exception that the `catch` clause lets pass. -/
theorem exec_activate_simulated (simulates : Simulates world session)
    (activation : KraDeviceService.Activation) :
    ∃ thrown after, exec (KraDeviceService.activate world activation) session =
      (.error (.php thrown), after) := by
  have answered : session.gateway.kraApi.simulation =
      some (getSimulatedResponse world.now) := simulates.answersXml
  let jsonPayload : List (String × Value) :=
    [("tin", .str activation.taxpayerPin.pin), ("bhfId", activation.branchOfficeId),
      ("dvcTy", activation.deviceType), ("dvcSrlNo", activation.dvcSrlNo)]
  have sent : ∃ after, exec (Session.sendJsonCommand world "/initiolises" jsonPayload true)
      session = ((getSimulatedJsonResponse world.now "/initiolises" jsonPayload).mapError .php,
        after) := by
    rw [Session.sendJsonCommand, exec_transmit]
    simp only [KraClient.sendJsonCommand, answered, Option.isSome_some, if_true,
      simulates.answersJson]
    exact ⟨_, rfl⟩
  obtain ⟨after, sent⟩ := sent
  unfold getSimulatedJsonResponse at sent
  cases answers : generateMockResponse world.now
      (firstText jsonPayload "UNKNOWN" ["CMD", "command", "tin"])
      (firstText jsonPayload "" ["PIN", "tin"]) with
  | error thrown =>
      rw [answers] at sent
      exact ⟨thrown, after, exec_bind_error sent⟩
  | ok body =>
      rw [answers] at sent
      refine ⟨.exception ("KRA initialization response missing sdcId: " ++ body), after, ?_⟩
      refine (exec_bind_ok sent).trans ?_
      change exec (if (((world.jsonDecode body).getD .null).coalesce "sdcId"
        .null).isEmpty = true then _ else _) after = _
      rw [coalesce_sdcId simulates answers]
      rfl

theorem not_returns_initializeDevice (simulates : Simulates world session) (data : Entries) :
    ¬ Returns (KraDeviceService.initializeDevice world data) session := by
  rw [KraDeviceService.initializeDevice, returns_bind_iff_of_ok (exec_get session),
    returns_raise_bind_iff]
  rintro ⟨activation, -, returned⟩
  obtain ⟨between, switched, sameSimulation, -⟩ :=
    Devices.exec_switchIf (KraDeviceService.isVscu activation.deviceType)
      world.config.vscuJarBaseUrl session
  have simulates' : Simulates world between :=
    ⟨sameSimulation.trans simulates.answersXml, simulates.answersJson, simulates.clock,
      simulates.refusesOthers, simulates.decodesInit⟩
  obtain ⟨thrown, after, activating⟩ := exec_activate_simulated simulates' activation
  have tried := (Cell.returns_restoring_iff_of_ok switched).mp returned
  obtain ⟨row, ended⟩ := tried
  rw [exec_tryCatch, activating] at ended
  cases ended

end Activations

/-! ## What simulation mode covers -/

section Coverage

variable {collate : String → String} {world : World} {session : Session collate}

/-- In simulation mode a call of an endpoint returns exactly when it is within reach. -/
theorem covered_iff_withinReach (simulates : Simulates world session) {call : ServiceCall}
    (accepted : Accepted session.tenants call)
    (parses : ∀ kraDevice pin, deviceOf session.tenants call = some kraDevice →
      kraDevice.pin = .ok pin → ParsesMocks world.platform world.now pin) :
    Covered world session call ↔ WithinReach world session call := by
  have simulated := simulates.answersXml
  cases accepted with
  | initializeDevice accepted =>
      refine iff_of_false ?_ not_false
      rintro ⟨row, returned, -⟩
      exact not_returns_initializeDevice simulates _ ⟨row, returned⟩
  | getDeviceStatus stored =>
      obtain ⟨pin, hasPin⟩ := exists_pin stored
      exact returns_getDeviceStatus_iff simulated hasPin (parses _ _ rfl hasPin) rfl
  | registerItem stored accepted =>
      obtain ⟨pin, hasPin⟩ := exists_pin stored
      exact returns_registerItem_iff simulated hasPin (parses _ _ rfl hasPin)
        (RegisterKraItemRequest.fieldsHold accepted)
  | getItems stored =>
      obtain ⟨pin, hasPin⟩ := exists_pin stored
      exact iff_of_false (not_returns_getItems simulated hasPin (parses _ _ rfl hasPin)) not_false
  | sendPurchase stored accepted =>
      obtain ⟨pin, hasPin⟩ := exists_pin stored
      exact returns_sendPurchase_iff simulated hasPin accepted
  | getPurchases stored =>
      obtain ⟨pin, hasPin⟩ := exists_pin stored
      exact returns_getPurchases_iff simulated hasPin (parses _ _ rfl hasPin)
  | sendInventoryMovement stored accepted =>
      obtain ⟨pin, hasPin⟩ := exists_pin stored
      exact returns_sendInventoryMovement_iff simulated hasPin (parses _ _ rfl hasPin)
        (SendKraInventoryMovementRequest.fieldsHold accepted)
  | getInventoryData stored accepted =>
      obtain ⟨pin, hasPin⟩ := exists_pin stored
      exact returns_getInventoryData_iff simulated hasPin (parses _ _ rfl hasPin)
  | processTransaction stored request =>
      obtain ⟨pin, hasPin⟩ := exists_pin stored
      exact returns_processTransaction_iff simulated hasPin (parses _ _ rfl hasPin)
        simulates.clock request rfl
  | getXDailyReport stored =>
      obtain ⟨pin, hasPin⟩ := exists_pin stored
      exact returns_getXDailyReport_iff simulated hasPin (parses _ _ rfl hasPin)
  | generateZDailyReport stored =>
      obtain ⟨pin, hasPin⟩ := exists_pin stored
      exact returns_generateZDailyReport_iff simulated hasPin (parses _ _ rfl hasPin)
  | getPLUReport stored accepted =>
      obtain ⟨pin, hasPin⟩ := exists_pin stored
      exact returns_getPLUReport_iff simulated hasPin (parses _ _ rfl hasPin)
        (fun text given => PluReportQuery.exists_date_of_accepts accepted (by decide) given)
        (fun text given => PluReportQuery.exists_date_of_accepts accepted (by decide) given)

end Coverage

/-! ## The first shop -/

/-- Simulation mode, on the day of the first sale. -/
def simulatedWorld : World :=
  { offlineWorld with
    platform := mockReader offlineWorld.now Access.shopOwner.pin.toList
    jsonDecode := fun body => if body = getMockInitResponseJson then some mockInitJson else none
    simulateJson := getSimulatedJsonResponse offlineWorld.now }

def simulatedSession : Session id :=
  { Devices.shopSession with
    gateway := { Devices.shopSession.gateway with
      kraApi := { Devices.shopSession.gateway.kraApi with
        simulation := some (getSimulatedResponse offlineWorld.now) } } }

theorem simulatedWorld_simulates : Simulates simulatedWorld simulatedSession where
  answersXml := rfl
  answersJson := rfl
  clock := ⟨by decide, by decide, by decide, by decide⟩
  refusesOthers := by
    intro text starts
    have isJson : getMockInitResponseJson.toList.head? = some '\x7b' := by decide +kernel
    have isOther : text ≠ getMockInitResponseJson := by
      rintro rfl
      exact absurd (isJson.symm.trans starts) (by decide)
    simp [simulatedWorld, isOther]
  decodesInit := by simp [simulatedWorld]

theorem simulatedWorld_parses :
    ParsesMocks simulatedWorld.platform simulatedWorld.now Access.shopOwner.pin := by
  refine mockReader_parses (by decide +kernel) ?distinct ?legal
  case distinct =>
    apply List.Nodup.of_map String.toList
    simp only [mockDocuments, mockTrees, reportTrees, List.map_cons, List.map_nil,
      List.cons_append, List.nil_append, toList_mockBody, toList_asXML]
    decide +kernel
  case legal =>
    have legal : ∀ tree ∈ (mockDocuments simulatedWorld.now Access.shopOwner.pin.toList).map
        Prod.snd, tree.isLegal = true := by
      simp only [mockDocuments, mockTrees, reportTrees, List.map_cons, List.map_nil,
        List.cons_append, List.nil_append]
      decide +kernel
    exact fun document member => legal _ (List.mem_map_of_mem member)

/-- The till of the first shop can be asked for its status. -/
theorem covered_iff_withinReach_shopTill :
    Accepted simulatedSession.tenants (.getDeviceStatus Access.shopTill) ∧
      (Covered simulatedWorld simulatedSession (.getDeviceStatus Access.shopTill) ↔
        WithinReach simulatedWorld simulatedSession (.getDeviceStatus Access.shopTill)) := by
  have accepted : Accepted simulatedSession.tenants (.getDeviceStatus Access.shopTill) :=
    .getDeviceStatus Access.shopTill_owned.isDevice
  refine ⟨accepted, covered_iff_withinReach simulatedWorld_simulates accepted ?_⟩
  intro kraDevice pin isDevice hasPin
  obtain rfl := Option.some.inj isDevice
  obtain rfl : "P051234567X" = pin := Except.ok.inj hasPin
  exact simulatedWorld_parses

/-- Nor is every call covered: the till cannot be activated. -/
theorem shopTill_not_activated :
    Simulates simulatedWorld simulatedSession ∧
      ParsesMocks simulatedWorld.platform simulatedWorld.now Access.shopOwner.pin ∧
      Accepted simulatedSession.tenants (.initializeDevice Devices.tillActivation) ∧
      ¬ Covered simulatedWorld simulatedSession (.initializeDevice Devices.tillActivation) := by
  refine ⟨simulatedWorld_simulates, simulatedWorld_parses, ?_, ?_⟩
  · exact .initializeDevice (by decide +kernel : schemaPasses
      (InitializeKraDeviceRequest.rules simulatedSession.tenants) Devices.tillActivation = true)
  · rintro ⟨row, returned, -⟩
    exact not_returns_initializeDevice simulatedWorld_simulates _ ⟨row, returned⟩

end TaxGateway.Client
