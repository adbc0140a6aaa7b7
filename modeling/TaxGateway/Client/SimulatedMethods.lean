import TaxGateway.Client.SentCommands
import TaxGateway.Foundations.WrittenDates
import TaxGateway.Sales.Recording
import TaxGateway.Services.Simulation

/-!
Contract: the methods that send XML, on the answers of simulation mode.

Owns:
- what a method asks for besides validated data: a base URL, flags, a PIN that
  can be written, a table that takes the receipt;
- for each method, that it returns exactly when it gets that, and that the list of
  items never returns.

Does not own: activations, and the calls the endpoints make.
-/

namespace TaxGateway.Client

open TaxGateway.Php
open TaxGateway.Validation
open TaxGateway.Database
open TaxGateway.Effects
open TaxGateway.Http
open TaxGateway.Services
open TaxGateway.Services.KraApi
open TaxGateway.Services.KraMockServerService
open TaxGateway.Services.Payloads
open TaxGateway.Services.Session

/-! ## What they ask for -/

/-- A PIN the mock server can write and the parser can read. -/
def HasReportPin (kraDevice : KraDevice) : Prop :=
  ∃ pin text, kraDevice.taxpayerPin = some pin ∧ pinText pin = some text

section Receipt

variable {collate : String → String} (world : World) (session : Session collate)

/-- The row of a simulated receipt. -/
def simulatedReceipt (kraDevice : KraDevice) (transactionData : Entries)
    (xmlPayload : KraXml) : Transaction :=
  let text (key : String) : String :=
    match (Value.arr transactionData).index key with
    | some (.str text) => text
    | _ => ""
  let qrCodeData := String.intercalate "#"
    [world.now.formatCompactDate, world.now.formatHourMinute, "KRACU000000001", "152",
      "INTDATA123456", "ABC123SIGNATUREXYZ"]
  { id := world.uuid
    kraDeviceId := kraDevice.id
    taxpayerPinId := kraDevice.taxpayerPinId
    internalReceiptNumber := text "internalReceiptNumber"
    receiptType := text "receiptType"
    transactionType := text "transactionType"
    kraScuId := "KRACU000000001"
    kraReceiptLabel := "NS"
    kraCuInvoiceNumber := "KRACU000000001" ++ "/" ++ text "internalReceiptNumber"
    kraDigitalSignature := "ABC123SIGNATUREXYZ"
    kraInternalData := "INTDATA123456"
    kraQrCodeUrl := world.config.qrCodeBaseUrl ++ "?data=" ++ urlencode qrCodeData
    requestPayload := .arr transactionData
    rawKraRequestXml := world.platform.asXML xmlPayload
    rawKraResponseXml := mockBody (mockSendReceipt world.now)
    kraTimestamp := world.now
    journal := .created }

/-- Database and queue work, and the table can take the receipt. -/
structure TakesReceipt (kraDevice : KraDevice) (transactionData : Entries) : Prop where
  databaseWorks : world.database = none
  queueWorks : world.queue = none
  admits : ∀ xmlPayload,
    KraSalesService.signingXml (saleOf world kraDevice transactionData) = .ok xmlPayload →
      session.gateway.transactions.Admits
        (simulatedReceipt world kraDevice transactionData xmlPayload)

end Receipt

/-! ## What the methods have in common -/

section Methods

variable {collate : String → String} {world : World} {session : Session collate}
  {kraDevice : KraDevice} {pin : String}

theorem taxpayerPin_of_pin (hasPin : kraDevice.pin = .ok pin) :
    kraDevice.taxpayerPin = some pin := by
  unfold KraDevice.pin at hasPin
  split at hasPin
  next other given =>
    obtain rfl := Except.ok.inj hasPin
    exact given
  next => cases hasPin

/-- A body that does not depend on the base URL decides once there is one. -/
theorem returns_withBaseUrl_iff_of_body {α : Type} {body : Service collate α}
    {answer : String → KraXml → Except Throwable HttpResponse} (decides : Prop)
    (simulated : IsSimulated answer session)
    (decided : ∀ between, IsSimulated answer between → (Returns body between ↔ decides)) :
    Returns (withBaseUrl (KraSalesService.targetBaseUrl world.config kraDevice) body) session ↔
      HasBaseUrl kraDevice ∧ decides := by
  rw [returns_withBaseUrl_iff, ← targetBaseUrl_returns_iff]
  constructor
  · rintro ⟨url, target, returned⟩
    exact ⟨⟨url, target⟩, (decided _ (isSimulated_put simulated)).mp returned⟩
  · rintro ⟨⟨url, target⟩, holds⟩
    exact ⟨url, target, (decided _ (isSimulated_put simulated)).mpr holds⟩

/-- The switch of the device service, for which only a VSCU needs a base URL. -/
theorem returns_switchIf_iff_of_body {α : Type} {body : Service collate α} {isVscu : Bool}
    {answer : String → KraXml → Except Throwable HttpResponse} (decides : Prop)
    (simulated : IsSimulated answer session)
    (decided : ∀ between, IsSimulated answer between → (Returns body between ↔ decides)) :
    Returns (baseUrl.restoring (KraDeviceService.switchIf isVscu
        (KraSalesService.targetBaseUrl world.config kraDevice)) body) session ↔
      (isVscu = true → HasBaseUrl kraDevice) ∧ decides := by
  cases isVscu with
  | true =>
      rw [eq_self, true_implies]
      exact returns_withBaseUrl_iff_of_body decides simulated decided
  | false =>
      refine (Cell.returns_restoring_iff_of_ok (exec_pure _ session)).trans ?_
      rw [decided session simulated]
      simp

/-- A method that starts with the PIN of its device. -/
theorem returns_pin_bind_iff {α : Type} {next : String → Service collate α}
    (hasPin : kraDevice.pin = .ok pin) :
    Returns (raise kraDevice.pin >>= next) session ↔ Returns (next pin) session := by
  rw [returns_raise_bind_iff, hasPin]
  simp

/-- Building a command without an array in its data cannot fail. -/
theorem returns_buildKraXml_bind_iff {α : Type} {command : String} {data : List (String × Value)}
    {next : KraXml → Service collate α} :
    Returns (raise (buildKraXml pin command data) >>= next) session ↔
      (data.any fun child => child.2.isArray) = false ∧
        Returns (next ⟨pin, command, data⟩) session := by
  rw [returns_raise_bind_iff]
  simp only [buildKraXml_eq_ok]
  constructor
  · rintro ⟨xmlPayload, ⟨noArrays, rfl⟩, returned⟩
    exact ⟨noArrays, returned⟩
  · rintro ⟨noArrays, returned⟩
    exact ⟨_, ⟨noArrays, rfl⟩, returned⟩

/-- A mock answer of a command is read. -/
theorem exists_read_of_command (parses : ParsesMocks world.platform world.now pin)
    (command : String) {data : List XmlDocuments.Node}
    (isMock : MockTree.root data ∈ mockTrees world.now)
    (answers : generateMockResponse world.now command pin = .ok (mockBody (MockTree.root data)))
    (endpoint : String) (values : List (String × Value)) :
    getSimulatedResponse world.now endpoint ⟨pin, command, values⟩ =
        .ok (mockAnswer (mockBody (MockTree.root data))) ∧
      ∃ parsed dataNode,
        world.platform.simplexmlLoadString (mockBody (MockTree.root data)) = some parsed ∧
        parsed.childTextOr "STATUS" "UNKNOWN" = "P" ∧ parsed.child? "DATA" = some dataNode ∧
        dataNode.children = MockTree.elementsOf (MockTree.indented 2 data) := by
  refine ⟨?_, exists_read_of_mock parses isMock⟩
  rw [getSimulatedResponse, answers]
  rfl

/-- So a command that is only acknowledged returns. -/
theorem returns_acknowledged (simulated : IsSimulated (getSimulatedResponse world.now) session)
    (parses : ParsesMocks world.platform world.now pin)
    {command : String} {data : List XmlDocuments.Node}
    (isMock : MockTree.root data ∈ mockTrees world.now)
    (answers : generateMockResponse world.now command pin = .ok (mockBody (MockTree.root data)))
    (endpointPath message : String) (values : List (String × Value)) :
    Returns (acknowledged world endpointPath message ⟨pin, command, values⟩) session := by
  obtain ⟨answered, parsed, -, read, -⟩ :=
    exists_read_of_command parses command isMock answers endpointPath values
  refine (returns_sendCommand_bind True simulated answered fun after _ => ?_).mpr trivial
  rw [returns_parseXml_bind_iff, iff_true]
  exact ⟨parsed, read, returns_pure _ _⟩

end Methods

/-! ## The methods -/

section Services

variable {collate : String → String} {world : World} {session : Session collate}
  {kraDevice : KraDevice} {pin : String}
  (simulated : IsSimulated (getSimulatedResponse world.now) session)
  (hasPin : kraDevice.pin = .ok pin)
  (parses : ParsesMocks world.platform world.now pin)

include simulated hasPin parses

/-! ### Items -/

/-- The list of items cannot be parsed. -/
theorem not_returns_getItems : ¬ Returns (KraItemService.getItems world kraDevice) session := by
  rw [KraItemService.getItems, returns_pin_bind_iff hasPin, returns_buildKraXml_bind_iff,
    returns_withBaseUrl_iff_of_body False simulated]
  · exact fun reached => reached.2.2
  · intro between simulated
    have answered : getSimulatedResponse world.now "/api/recvItem" ⟨pin, "RECV_ITEM", []⟩ =
        .ok (mockAnswer getMockRecvItemResponse) := rfl
    refine returns_sendCommand_bind _ simulated answered fun after _ => ?_
    rw [returns_parseXml_bind_iff, mockAnswer, unread_getMockRecvItemResponse parses]
    simp

/-- An item is sent when the three flags are there. -/
theorem returns_registerItem_iff {itemData : Entries}
    (hold : FieldsHold RegisterKraItemRequest.fields (.arr itemData)) :
    Returns (KraItemService.registerItem world kraDevice itemData) session ↔
      HasBaseUrl kraDevice ∧
        ∀ key ∈ flagKeys, ((Value.arr itemData).index key).isSome = true := by
  have sent : ∀ values, Returns
      (withBaseUrl (KraSalesService.targetBaseUrl world.config kraDevice)
        (acknowledged world "/api/sendItem" "Item registration command sent to KRA."
          ⟨pin, "SEND_ITEM", values⟩)) session ↔ HasBaseUrl kraDevice ∧ True := by
    intro values
    refine returns_withBaseUrl_iff_of_body True simulated fun between simulated => ?_
    rw [iff_true]
    exact returns_acknowledged simulated parses (by simp [mockTrees] : mockSendItem ∈ _)
      (by rfl) _ _ values
  rw [KraItemService.registerItem, returns_raise_bind_iff,
    ← writes_kraItemPayload_iff hold world.now, ← payload_returns_iff]
  simp only [returns_pin_bind_iff hasPin, returns_buildKraXml_bind_iff, sent, and_true]
  constructor
  · rintro ⟨values, read, noArrays, hasUrl⟩
    exact ⟨hasUrl, values, read, noArrays⟩
  · rintro ⟨hasUrl, values, read, noArrays⟩
    exact ⟨values, read, noArrays, hasUrl⟩

/-! ### Stock -/

theorem returns_sendInventoryMovement_iff {inventoryData : Entries}
    (hold : FieldsHold SendKraInventoryMovementRequest.fields (.arr inventoryData)) :
    Returns (KraInventoryService.sendInventoryMovement world kraDevice inventoryData) session ↔
      HasBaseUrl kraDevice := by
  have vouched : ∀ field ∈ KraInventoryService.inventoryPayload,
      field.2.isVouched SendKraInventoryMovementRequest.fields = true := by
    decide +kernel
  obtain ⟨values, read, noArrays⟩ := payload_returns_iff.mpr fun field member =>
    writes_of_isVouched hold (vouched field member)
  rw [KraInventoryService.sendInventoryMovement, returns_pin_bind_iff hasPin,
    returns_withBaseUrl_iff_of_body True simulated, and_true]
  intro between simulated
  rw [read, returns_raise_ok_bind_iff, returns_buildKraXml_bind_iff]
  refine (and_iff_right noArrays).trans ?_
  rw [iff_true]
  exact returns_acknowledged simulated parses
    (by simp [mockTrees] : mockSendInventory world.now ∈ _) (by rfl) _ _ values

omit simulated hasPin parses in
/-- A filter reaches the payload unless it is absent or `null`. -/
theorem any_isArray_filterPayload (filterData : Value) :
    ((KraInventoryService.filterPayload filterData).any fun child => child.2.isArray) = false ↔
      ∀ key ∈ StockQuery.filterKeys, (filterData.coalesce key .null).isArray = false := by
  rw [KraInventoryService.filterPayload, List.any_filterMap, List.any_eq_false]
  simp only [StockQuery.filterKeys, List.forall_mem_cons, List.not_mem_nil, false_implies,
    implies_true, and_true, Bool.not_eq_true]
  refine and_congr ?_ (and_congr ?_ (and_congr ?_ ?_))
  · cases filterData.coalesce "branchId" .null <;> rfl
  · cases filterData.coalesce "itemCode" .null <;> rfl
  · cases filterData.coalesce "startDate" .null <;> rfl
  · cases filterData.coalesce "endDate" .null <;> rfl

/-- The stock is listed when no filter is an array. -/
theorem returns_getInventoryData_iff {filterData : Entries} :
    Returns (KraInventoryService.getInventoryData world kraDevice filterData) session ↔
      HasBaseUrl kraDevice ∧ ∀ key ∈ StockQuery.filterKeys,
        ((Value.arr filterData).coalesce key .null).isArray = false := by
  rw [KraInventoryService.getInventoryData, returns_pin_bind_iff hasPin,
    ← any_isArray_filterPayload, returns_withBaseUrl_iff_of_body _ simulated]
  intro between simulated
  rw [returns_buildKraXml_bind_iff]
  refine and_iff_left ?_
  obtain ⟨answered, parsed, dataNode, read, status, -⟩ := exists_read_of_command parses
    "RECV_INVENTORY" (by simp [mockTrees] : mockRecvInventory ∈ _) (by rfl) "/api/recvInventory"
    (KraInventoryService.filterPayload (.arr filterData))
  refine (returns_sendCommand_bind True simulated answered fun after _ => ?_).mpr trivial
  rw [returns_parseXml_bind_iff, iff_true]
  refine ⟨parsed, read, ?_⟩
  simp only [status, if_true]
  exact returns_pure _ _

/-! ### Purchases -/

theorem returns_getPurchases_iff :
    Returns (KraPurchaseService.getPurchases world kraDevice) session ↔
      HasBaseUrl kraDevice := by
  rw [KraPurchaseService.getPurchases, returns_pin_bind_iff hasPin,
    returns_withBaseUrl_iff_of_body True simulated, and_true]
  intro between simulated
  obtain ⟨answered, parsed, -, read, -⟩ := exists_read_of_command parses "RECV_PURCHASE"
    (by simp [mockTrees] : mockRecvPurchase ∈ _) (by rfl) "/api/recvPurchase" []
  obtain ⟨answeredItems, parsedItems, -, readItems, -⟩ := exists_read_of_command parses
    "RECV_PURCHASEITEM" (by simp [mockTrees] : mockGeneric world.now "RECV_PURCHASEITEM" ∈ _)
    (by rfl) "/api/recvPurchaseItem" []
  rw [returns_buildKraXml_bind_iff]
  refine (and_iff_right (by rfl)).trans ?_
  refine returns_sendCommand_bind True simulated answered fun after simulated => ?_
  rw [returns_parseXml_bind_iff, iff_true]
  refine ⟨parsed, read, ?_⟩
  rw [returns_buildKraXml_bind_iff]
  refine ⟨by rfl,
    (returns_sendCommand_bind True simulated answeredItems fun last _ => ?_).mpr trivial⟩
  rw [returns_parseXml_bind_iff, iff_true]
  exact ⟨parsedItems, readItems, returns_pure _ _⟩

omit parses in
/-- A purchase is sent with all its items. -/
theorem returns_sendPurchase_iff {database : Tenants} {input : Entries}
    (accepted : schemaPasses (SendKraPurchaseRequest.rules database) input = true) :
    Returns (KraPurchaseService.sendPurchase world kraDevice
        (validatedSchema (SendKraPurchaseRequest.rules database) input)) session ↔
      HasBaseUrl kraDevice := by
  obtain ⟨items, isRead, -⟩ := SendKraPurchaseRequest.exists_items accepted
  rw [sendPurchase_eq_plan hasPin accepted isRead, returns_withBaseUrl_iff_of_body True simulated,
    and_true]
  intro between simulated
  rw [iff_true]
  have rounds : ∀ command ∈ purchasePlan pin input items, ∀ state : Session collate,
      IsSimulated (getSimulatedResponse world.now) state →
      ∃ after, exec (submit world command) state = (.ok ⟨⟩, after) ∧
        IsSimulated (getSimulatedResponse world.now) after := by
    intro command planned state still
    have noReport : command.2.command ∉ ["X_REPORT", "Z_REPORT", "PLU_REPORT"] := by
      rcases List.mem_cons.mp planned with rfl | isItem
      · exact (by decide : "SEND_PURCHASE" ∉ ["X_REPORT", "Z_REPORT", "PLU_REPORT"])
      · obtain ⟨item, -, rfl⟩ := List.mem_map.mp isItem
        exact (by decide : "SEND_PURCHASEITEM" ∉ ["X_REPORT", "Z_REPORT", "PLU_REPORT"])
    obtain ⟨body, answers⟩ :=
      @generateMockResponse_ok world.now command.2.command noReport command.2.pin
    have answered : getSimulatedResponse world.now command.1 command.2 = .ok (mockAnswer body) := by
      rw [getSimulatedResponse, answers]
      rfl
    obtain ⟨after, sent, stillAfter, -⟩ :=
      exec_sendCommand_of_isSimulated still world command.1 command.2 false
    rw [answered] at sent
    exact ⟨after, exec_bind_ok sent, stillAfter⟩
  obtain ⟨last, sent, -⟩ := exec_forM_ok rounds simulated
  exact (returns_bind_iff_of_ok sent).mpr (returns_pure _ _)

/-! ### Reports -/

/-- A report is read when the PIN could be written into it. -/
theorem returns_retrieve_iff {ρ : Type} {tree : List Char → XmlDocuments.Node}
    (isReport : tree ∈ reportTrees) {command : String}
    (answers : generateMockResponse world.now command pin = generateReport tree pin)
    (endpointPath missing message : String) (read : Xml → ρ) (values : List (String × Value)) :
    Returns (KraReportService.retrieve world kraDevice endpointPath missing message read
        ⟨pin, command, values⟩) session ↔
      HasBaseUrl kraDevice ∧ HasReportPin kraDevice := by
  refine returns_withBaseUrl_iff_of_body _ simulated fun between simulated => ?_
  have samePin : HasReportPin kraDevice ↔ ∃ text, pinText pin = some text := by
    unfold HasReportPin
    rw [taxpayerPin_of_pin hasPin]
    simp
  rw [samePin]
  have answered : getSimulatedResponse world.now endpointPath ⟨pin, command, values⟩ =
      (generateReport tree pin).map mockAnswer := by
    rw [getSimulatedResponse, answers]
  unfold generateReport at answered
  cases isText : pinText pin with
  | none =>
      rw [isText] at answered
      exact iff_of_false (not_returns_sendCommand_bind simulated answered) (by simp)
  | some text =>
      rw [isText] at answered
      refine (returns_sendCommand_bind True simulated answered fun after _ => ?_).trans (by simp)
      obtain ⟨parsed, dataNode, loaded, child⟩ := exists_read_of_report parses isReport isText
      rw [returns_parseXml_bind_iff, mockAnswer]
      simp only [loaded, Option.some.injEq, exists_eq_left', child, iff_true]
      exact returns_pure _ _

theorem returns_getXDailyReport_iff :
    Returns (KraReportService.getXDailyReport world kraDevice) session ↔
      HasBaseUrl kraDevice ∧ HasReportPin kraDevice := by
  rw [KraReportService.getXDailyReport, returns_pin_bind_iff hasPin, returns_buildKraXml_bind_iff]
  refine (and_iff_right (by rfl)).trans ?_
  exact returns_retrieve_iff simulated hasPin parses
    (by simp [reportTrees] : xReport ∈ reportTrees) (by rfl) _ _ _ _ _

theorem returns_generateZDailyReport_iff :
    Returns (KraReportService.generateZDailyReport world kraDevice) session ↔
      HasBaseUrl kraDevice ∧ HasReportPin kraDevice := by
  rw [KraReportService.generateZDailyReport, returns_pin_bind_iff hasPin,
    returns_buildKraXml_bind_iff]
  refine (and_iff_right (by rfl)).trans ?_
  exact returns_retrieve_iff simulated hasPin parses
    (by simp [reportTrees] : zReport ∈ reportTrees) (by rfl) _ _ _ _ _

omit simulated hasPin parses in
/-- A bound that is a date, or none at all, is written. -/
theorem exists_dateBound (key : String) {date : Option String}
    (isDate : ∀ text, date = some text → ∃ day, DateTime.createFromYmd text = some day) :
    ∃ bound, KraReportService.dateBound key date = .ok bound ∧
      (bound.any fun child => child.2.isArray) = false := by
  cases date with
  | none => exact ⟨[], rfl, rfl⟩
  | some text =>
      obtain ⟨day, read⟩ := isDate text rfl
      unfold KraReportService.dateBound
      by_cases isEmpty : (Value.str text).isEmpty = true
      · exact ⟨[], by simp only [isEmpty, if_true], rfl⟩
      · exact ⟨[(key, .str day.formatYmd)], by simp only [isEmpty, read]; rfl, rfl⟩

theorem returns_getPLUReport_iff {startDate endDate : Option String}
    (isStart : ∀ text, startDate = some text → ∃ day, DateTime.createFromYmd text = some day)
    (isEnd : ∀ text, endDate = some text → ∃ day, DateTime.createFromYmd text = some day) :
    Returns (KraReportService.getPLUReport world kraDevice startDate endDate) session ↔
      HasBaseUrl kraDevice ∧ HasReportPin kraDevice := by
  obtain ⟨startBound, startOk, startArrays⟩ := exists_dateBound "startDate" isStart
  obtain ⟨endBound, endOk, endArrays⟩ := exists_dateBound "endDate" isEnd
  have noArrays : ((startBound ++ endBound).any fun child => child.2.isArray) = false := by
    rw [List.any_append, startArrays, endArrays]
    rfl
  rw [KraReportService.getPLUReport, returns_pin_bind_iff hasPin, startOk,
    returns_raise_ok_bind_iff, endOk, returns_raise_ok_bind_iff, returns_buildKraXml_bind_iff]
  refine (and_iff_right noArrays).trans ?_
  exact returns_retrieve_iff simulated hasPin parses
    (by simp [reportTrees] : pluReport ∈ reportTrees) (by rfl) _ _ _ _ _

/-! ### Devices -/

omit hasPin in
/-- A status check returns when the row can be saved. -/
theorem returns_checkStatus_iff {row : KraDeviceRow} :
    Returns (KraDeviceService.checkStatus world row ⟨pin, "STATUS", []⟩) session ↔
      world.database = none := by
  obtain ⟨answered, parsed, dataNode, read, -, child, -⟩ := exists_read_of_command parses
    "STATUS" (by simp [mockTrees] : mockGeneric world.now "STATUS" ∈ _) (by rfl) "" []
  refine returns_sendCommand_bind _ simulated answered fun after _ => ?_
  rw [returns_parseXml_bind_iff, mockAnswer, read]
  simp only [Option.some.injEq, exists_eq_left', child]
  unfold KraDeviceService.saveStatus KraDeviceService.updateDevice
  cases world.database with
  | none =>
      refine iff_of_true ?_ rfl
      exact (returns_bind_iff_of_ok (exec_modify _ _)).mpr (returns_pure _ _)
  | some message =>
      rw [returns_raise_bind_iff]
      simp

theorem returns_getDeviceStatus_iff {row : KraDeviceRow}
    (sameDevice : session.tenants.kraDevice row = kraDevice) :
    Returns (KraDeviceService.getDeviceStatus world row) session ↔
      HasBaseUrl kraDevice ∧ world.database = none := by
  have noData : buildKraXml pin "STATUS" [] = .ok ⟨pin, "STATUS", []⟩ := rfl
  have sameType : kraDevice.deviceType = row.deviceType := by
    rw [← sameDevice]
    rfl
  have needsUrl : (decide (row.deviceType = "VSCU") = true → HasBaseUrl kraDevice) ↔
      HasBaseUrl kraDevice := by
    rw [decide_eq_true_eq, ← sameType]
    exact ⟨fun hasUrl vscu => hasUrl vscu vscu, fun hasUrl _ => hasUrl⟩
  rw [KraDeviceService.getDeviceStatus, returns_bind_iff_of_ok (exec_get session)]
  dsimp only
  rw [sameDevice, returns_pin_bind_iff hasPin, noData, returns_raise_ok_bind_iff, ← needsUrl]
  refine returns_switchIf_iff_of_body _ simulated fun between simulated => ?_
  refine (returns_tryCatch_iff fun thrown state => ?_).trans
    (returns_checkStatus_iff simulated parses)
  -- Whatever is thrown is thrown again.
  cases thrown with
  | kraApi e => exact not_returns_bind_of_next fun _ _ => not_returns_throw _ _
  | php other => exact not_returns_throw _ _

/-! ### Sales -/

omit simulated hasPin parses in
/-- An answer that is read is recorded when database, queue and table take it. -/
theorem returns_record_iff {sale : Sale} {xmlPayload : KraXml} {response : HttpResponse}
    {transaction : Transaction} (gateway : Gateway collate)
    (read : KraSalesService.readAnswer world.platform world.config sale xmlPayload response =
      .ok transaction) :
    (∃ stored, (KraSalesService.record world.platform world.config sale xmlPayload
        world.database world.queue gateway response).1 = .ok stored) ↔
      world.database = none ∧ world.queue = none ∧ gateway.transactions.Admits transaction := by
  simp only [KraSalesService.record, read, KraSalesService.create]
  cases world.database with
  | some message => simp
  | none =>
      by_cases admitted : gateway.transactions.Admits transaction
      · obtain ⟨table, inserted⟩ := TransactionsTable.insert_ok_of_admits admitted
        cases world.queue with
        | none => simp [inserted, Except.map, KraSalesService.dispatch, admitted]
        | some message => simp [inserted, Except.map, KraSalesService.dispatch]
      · obtain ⟨thrown, refused⟩ := TransactionsTable.insert_error_of_not_admits admitted
        simp [refused, Except.map, admitted]

omit simulated parses in
/-- The command to sign a sale is answered with a receipt. -/
theorem getSimulatedResponse_signing {transactionData : Entries} {xmlPayload : KraXml}
    (signed : KraSalesService.signingXml (saleOf world kraDevice transactionData) =
      .ok xmlPayload) :
    getSimulatedResponse world.now "" xmlPayload =
      .ok (mockAnswer (mockBody (mockSendReceipt world.now))) := by
  obtain ⟨other, samePin, built⟩ := bind_eq_ok.mp signed
  obtain ⟨values, -, made⟩ := bind_eq_ok.mp built
  obtain rfl := Except.ok.inj (hasPin.symm.trans samePin)
  rw [(buildKraXml_eq_ok.mp made).2]
  rfl

omit simulated hasPin in
/-- The simulated receipt is read into its row. -/
theorem readAnswer_simulated (clock : world.now.IsClockTime) (request : AcceptedRequest)
    {transactionData : Entries} (isRequest : Value.arr transactionData = request.validated)
    {xmlPayload : KraXml} :
    KraSalesService.readAnswer world.platform world.config
        (saleOf world kraDevice transactionData) xmlPayload
        (mockAnswer (mockBody (mockSendReceipt world.now))) =
      .ok (simulatedReceipt world kraDevice transactionData xmlPayload) := by
  obtain ⟨parsed, dataNode, read, -, child, children⟩ := exists_read_of_mock parses
    (by simp [mockTrees] : mockSendReceipt world.now ∈ _)
  have hasData : KraSalesService.signedData world.platform
      (mockAnswer (mockBody (mockSendReceipt world.now))) = some dataNode := by
    have loaded : world.platform.simplexmlLoadString
        (mockAnswer (mockBody (mockSendReceipt world.now))).body = some parsed := read
    rw [KraSalesService.signedData, loaded]
    exact child
  let fields : List (String × String) :=
    [("Snumber", "KRACU000000001"), ("Date", world.now.formatDate),
      ("Time", world.now.formatTime), ("RLabel", "NS"), ("TNumber", "152"),
      ("GNumber", "1001"), ("Signature", "ABC123SIGNATUREXYZ"), ("InternalData", "INTDATA123456")]
  have text : ∀ {name text : String}, fields.lookup name = some text →
      dataNode.childText name = text := fun found => MockTree.childText_of_fields children found
  have timestamp : DateTime.createFromFormat (KraSalesService.kraTimestampText dataNode) =
      some world.now := by
    rw [KraSalesService.kraTimestampText, text (by rfl : _ = some world.now.formatDate),
      text (by rfl : _ = some world.now.formatTime)]
    exact DateTime.createFromFormat_formatDate_formatTime clock
  have number : toString (intval "152") = "152" := by decide +kernel
  rw [Sales.readAnswer_of_accepted isRequest hasData timestamp]
  simp only [KraSalesService.signedTransaction, KraSalesService.qrCodeUrl,
    text (by rfl : fields.lookup "Snumber" = some "KRACU000000001"),
    text (by rfl : fields.lookup "TNumber" = some "152"),
    text (by rfl : fields.lookup "RLabel" = some "NS"),
    text (by rfl : fields.lookup "Signature" = some "ABC123SIGNATUREXYZ"),
    text (by rfl : fields.lookup "InternalData" = some "INTDATA123456"), number]
  obtain rfl := Value.arr.inj isRequest
  rfl

/-- A sale is signed, stored and queued when everything takes the simulated receipt. -/
theorem returns_processTransaction_iff (clock : world.now.IsClockTime) (request : AcceptedRequest)
    {transactionData : Entries} (isRequest : Value.arr transactionData = request.validated) :
    Returns (processTransaction world kraDevice transactionData) session ↔
      HasBaseUrl kraDevice ∧ TakesReceipt world session kraDevice transactionData := by
  obtain ⟨xmlPayload, signed⟩ := Sales.signingXml_of_accepted
    (show (saleOf world kraDevice transactionData).transactionData = request.validated from
      isRequest) hasPin
  have takes : TakesReceipt world session kraDevice transactionData ↔
      world.database = none ∧ world.queue = none ∧ session.gateway.transactions.Admits
        (simulatedReceipt world kraDevice transactionData xmlPayload) := by
    constructor
    · rintro ⟨databaseWorks, queueWorks, admits⟩
      exact ⟨databaseWorks, queueWorks, admits xmlPayload signed⟩
    · rintro ⟨databaseWorks, queueWorks, admitted⟩
      refine ⟨databaseWorks, queueWorks, fun other signedToo => ?_⟩
      rwa [← Except.ok.inj (signed.symm.trans signedToo)]
  rw [takes, ← targetBaseUrl_returns_iff]
  cases target : KraSalesService.targetBaseUrl world.config kraDevice with
  | error thrown =>
      have throws : exec (processTransaction world kraDevice transactionData) session =
          (.error (.php thrown), session) := exec_processTransaction_of_noTarget hasPin target
      simp [Returns, throws]
  | ok url =>
      obtain ⟨after, sent, -, sameGateway, -⟩ := exec_sendCommand_of_isSimulated
        (@isSimulated_put _ _ _ url simulated) world "" xmlPayload true
      rw [getSimulatedResponse_signing hasPin signed] at sent
      have read := @readAnswer_simulated world kraDevice pin parses clock request _ isRequest
        xmlPayload
      rw [Returns, exec_processTransaction_of_signed hasPin target signed]
      dsimp only
      rw [exec_bind_ok sent, exec_recordSale]
      dsimp only
      rw [returns_record_iff after.gateway read, sameGateway]
      simp only [Except.ok.injEq, exists_eq', true_and]
      rfl

end Services

end TaxGateway.Client
