import TaxGateway.Services.Payloads
import TaxGateway.Services.Session

/-!
Contract: `KraDeviceService`.

Owns: the activation of a device, with its recovery from KRA's error `41`, and the
status check; what both write to the device's row and what they do to the base URL.
-/

namespace TaxGateway.Services.KraDeviceService

open TaxGateway.Php
open TaxGateway.Database
open TaxGateway.Effects
open Payloads Session

/-! ## Lookups -/

/-- `TaxpayerPin::where('pin', $pin)->firstOrFail()`. -/
def taxpayerOfPin (tenants : Tenants) (pin : Value) : Except Throwable TaxpayerPin :=
  match tenants.taxpayerPins.find? fun taxpayer => bindingText pin = some taxpayer.pin with
  | some taxpayer => .ok taxpayer
  | none => .error (.exception "No query results for model [App\\Models\\TaxpayerPin].")

/-- `KraDevice::where('kra_scu_id', …)->where('taxpayer_pin_id', …)->first()`. -/
def deviceOfScu (tenants : Tenants) (kraScuId : Option String) (taxpayer : TaxpayerPin) :
    Option KraDeviceRow :=
  tenants.kraDevices.find? fun device =>
    kraScuId = some device.kraScuId && device.taxpayerPinId = taxpayer.id

/-! ## Error 41 -/

/-- A match of `/Device ([A-Z0-9]+) is already activated/` at the front. -/
def activatedAt (text : List Char) : Option String :=
  if "Device ".toList.isPrefixOf text then
    let rest := text.drop "Device ".length
    let id := rest.takeWhile fun c => c.isUpper || c.isDigit
    if !id.isEmpty && " is already activated".toList.isPrefixOf (rest.drop id.length) then
      some (String.ofList id)
    else none
  else none

/-- `$matches[1]` of the first match. -/
def activatedScuId : List Char → Option String
  | [] => none
  | c :: rest => (activatedAt (c :: rest)).or (activatedScuId rest)

/-! ## Status -/

/-- What `getDeviceStatus` returns. -/
structure StatusReport where
  kraScuId : String
  firmwareVersion : String
  hardwareRevision : String
  currentZReportCount : Int
  lastRemoteAuditDate : String
  lastLocalAuditDate : String
  operationalStatus : String
  errorMessage : Option String

def statusReport (parsedXml dataNode : Xml) : StatusReport where
  kraScuId := dataNode.childText "Snumber"
  firmwareVersion := dataNode.childText "FWver"
  hardwareRevision := dataNode.childText "HWrev"
  currentZReportCount := dataNode.childInt "CurrentZ"
  lastRemoteAuditDate := dataNode.childText "LastRemoteDate"
  lastLocalAuditDate := dataNode.childText "LastLocalDate"
  operationalStatus :=
    if parsedXml.childTextOr "STATUS" "UNKNOWN" = "P" then "OPERATIONAL" else "ERROR"
  errorMessage :=
    if parsedXml.childTextOr "STATUS" "UNKNOWN" = "E" then
      some (dataNode.childTextOr "ErrorCode" "Unknown KRA error detail.")
    else none

/-! ## Writes -/

section Methods

variable {collate : String → String} (world : World)

/-- `$this->save()` of a device that is in the table, after `change`. -/
def updateDevice (id : String) (change : KraDeviceRow → KraDeviceRow)
    (keepsKeys : ∀ row, (change row).id = row.id ∧ (change row).kraScuId = row.kraScuId ∧
      (change row).taxpayerPinId = row.taxpayerPinId) : Service collate Unit :=
  match world.database with
  | some message => raise (.error (.exception message))
  | none => modify fun session =>
      { session with tenants := session.tenants.updateDevice id change keepsKeys }

/-- `$this->save()` of a new device. -/
def insertDevice (device : KraDeviceRow) : Service collate Unit := do
  match world.database with
  | some message => raise (.error (.exception message))
  | none =>
      let session ← get
      let tenants ← raise (session.tenants.insertDevice device)
      modify fun session => { session with tenants := tenants }

/-- The status of the check written to the row of the loaded model: only what
differs from the values it was loaded with. -/
def saveStatus (kraDevice : KraDeviceRow) (status : DeviceStatus) : Service collate Unit :=
  updateDevice world kraDevice.id
    (fun row =>
      { row with
        status := if kraDevice.status = status then row.status else status
        lastStatusCheckAt :=
          if kraDevice.lastStatusCheckAt = some world.now then row.lastStatusCheckAt
          else some world.now })
    fun _ => ⟨rfl, rfl, rfl⟩

/-- The switch of both methods: only a VSCU has one. -/
def switchIf (isVscu : Bool) (url : Except Throwable String) : Service collate Unit :=
  if isVscu then setBaseUrl url else pure ()

/-! ## Activation -/

/-- `$data['deviceType'] === 'VSCU'`. -/
def isVscu : Value → Bool
  | .str text => text = "VSCU"
  | _ => false

/-- A value stored in a text column. -/
def columnText : Value → Except Throwable String
  | .arr _ => .error (.exception "Array to string conversion")
  | value =>
      match scalarText value with
      | some text => .ok text
      | none => .error (.exception "SQLSTATE[23000]: Column cannot be null")

/-- `array_merge($kraDevice->config ?? [], […])`. -/
def mergedConfig (config branchOfficeId vscuJarUrlUsed : Value) (rawResponse : String) :
    Except Throwable Value :=
  let added : Entries :=
    [(.str "branch_office_id", branchOfficeId),
      (.str "initial_activation_raw_response", .str rawResponse),
      (.str "vscu_jar_url_used", vscuJarUrlUsed)]
  match config with
  | .null => .ok (.arr (Value.arrayMerge [] added))
  | .arr entries => .ok (.arr (Value.arrayMerge entries added))
  | _ => .error (.error "array_merge(): Argument #1 must be of type array")

/-- What is read of the input of an activation. -/
structure Activation where
  taxpayerPin : TaxpayerPin
  branchOfficeId : Value
  deviceType : Value
  dvcSrlNo : Value

def readActivation (tenants : Tenants) (data : Value) : Except Throwable Activation := do
  let taxpayerPin ← taxpayerOfPin tenants (← offset data "taxpayerPin")
  let branchOfficeId ← offset data "branchOfficeId"
  let deviceType ← offset data "deviceType"
  let dvcSrlNo ← offset data "dvcSrlNo"
  return ⟨taxpayerPin, branchOfficeId, deviceType, dvcSrlNo⟩

/-- The row of an activated device, made from the row found or from a new one. -/
def activatedRow (uuid : String) (activation : Activation) (kraScuId : Value)
    (baseUrl rawResponse : String) (found : Option KraDeviceRow) :
    Except Throwable KraDeviceRow := do
  let vscuJarUrlUsed := if isVscu activation.deviceType then .str baseUrl else .null
  let config ← mergedConfig ((found.map KraDeviceRow.config).getD .null)
    activation.branchOfficeId vscuJarUrlUsed rawResponse
  let kraScuId ← columnText kraScuId
  let deviceType ← columnText activation.deviceType
  if ["OSCU", "VSCU"].contains deviceType then
    return {
      id := (found.map KraDeviceRow.id).getD uuid
      taxpayerPinId := activation.taxpayerPin.id
      kraScuId := kraScuId
      deviceType := deviceType
      status := .ACTIVATED
      config := config
      lastStatusCheckAt := found.bind KraDeviceRow.lastStatusCheckAt }
  else .error (.exception "SQLSTATE[01000]: Data truncated for column device_type")

/-- The `try` block of `initializeDevice`. -/
def activate (activation : Activation) : Service collate KraDeviceRow := do
  let jsonPayload : List (String × Value) :=
    [("tin", .str activation.taxpayerPin.pin), ("bhfId", activation.branchOfficeId),
      ("dvcTy", activation.deviceType), ("dvcSrlNo", activation.dvcSrlNo)]
  let response ← sendJsonCommand world "/initiolises" jsonPayload true
  let kraScuId := ((world.jsonDecode response.body).getD .null).coalesce "sdcId" .null
  if kraScuId.isEmpty then
    raise (.error (.exception ("KRA initialization response missing sdcId: " ++ response.body)))
  else
    let session ← get
    let found := deviceOfScu session.tenants (bindingText kraScuId) activation.taxpayerPin
    let row ← raise
      (activatedRow world.uuid activation kraScuId (baseUrl.get session) response.body found)
    match found with
    | none => insertDevice world row
    | some device =>
        updateDevice world device.id
          (fun stored =>
            { stored with
              deviceType := row.deviceType, status := row.status, config := row.config })
          fun _ => ⟨rfl, rfl, rfl⟩
    return row

/-- `extractKraScuIdFromErrorResponse`. Its `catch (Throwable $e)` names a class of
the service's own namespace, which catches nothing. -/
def extractKraScuIdFromErrorResponse (rawResponse : Option String) :
    Service collate (Option String) :=
  match rawResponse with
  | none => raise (.error (.error "Argument #1 ($rawResponse) must be of type string, null given"))
  | some text => do
      let _ ← parseXml world text
      return activatedScuId text.toList

/-- The first `catch` clause of `initializeDevice`. -/
def recover (activation : Activation) (e : KraApiException) : Service collate KraDeviceRow := do
  if e.kraErrorCode = some "41" then
    let existingKraScuId ← extractKraScuIdFromErrorResponse world e.kraRawResponse
    let session ← get
    let named := existingKraScuId.filter fun text => !(Value.str text).isEmpty
    match named.bind fun text => deviceOfScu session.tenants (some text) activation.taxpayerPin with
    | some device =>
        if device.status ≠ .ACTIVATED then
          updateDevice world device.id (fun row => { row with status := .ACTIVATED })
            fun _ => ⟨rfl, rfl, rfl⟩
        return { device with status := .ACTIVATED }
    | none => throw (.kraApi e)
  else throw (.kraApi e)

/-- `KraDeviceService::initializeDevice`. The result is the row of the model
returned. -/
def initializeDevice (data : Entries) : Service collate KraDeviceRow := do
  let session ← get
  let activation ← raise (readActivation session.tenants (.arr data))
  let switch := switchIf (isVscu activation.deviceType) (.ok world.config.vscuJarBaseUrl)
  baseUrl.restoring switch <| tryCatch (activate world activation) fun thrown =>
    match thrown with
    | .kraApi e => recover world activation e
    | .php other => throw (.php other)

/-! ## Status check -/

/-- The `try` block of `getDeviceStatus`. -/
def checkStatus (kraDevice : KraDeviceRow) (xmlPayload : KraXml) :
    Service collate StatusReport := do
  let response ← sendCommand world "" xmlPayload false
  let parsedXml ← parseXml world response.body
  match parsedXml.child? "DATA" with
  | none => raise (.error (.exception ("KRA status response missing DATA node: " ++ response.body)))
  | some dataNode =>
      let report := statusReport parsedXml dataNode
      saveStatus world kraDevice
        (if report.operationalStatus = "OPERATIONAL" then .ACTIVATED else .ERROR)
      return report

/-- `KraDeviceService::getDeviceStatus`, on a model with the attributes of
`kraDevice`. -/
def getDeviceStatus (kraDevice : KraDeviceRow) : Service collate StatusReport := do
  let session ← get
  let device := session.tenants.kraDevice kraDevice
  let pin ← raise device.pin
  let xmlPayload ← raise (buildKraXml pin "STATUS" [])
  let switch := switchIf (kraDevice.deviceType = "VSCU")
    (KraSalesService.targetBaseUrl world.config device)
  baseUrl.restoring switch <| tryCatch (checkStatus world kraDevice xmlPayload) fun thrown =>
    match thrown with
    | .kraApi e => do
        saveStatus world kraDevice .ERROR
        throw (.kraApi e)
    | .php other => throw (.php other)

/-! ## The base URL -/

theorem follows_updateDevice (id : String) (change : KraDeviceRow → KraDeviceRow)
    (keepsKeys : ∀ row, (change row).id = row.id ∧ (change row).kraScuId = row.kraScuId ∧
      (change row).taxpayerPinId = row.taxpayerPinId) :
    Follows Within (updateDevice world id change keepsKeys : Service collate Unit) := by
  unfold updateDevice
  cases world.database with
  | some message => exact follows_raise _
  | none => exact follows_modify fun _ => within_of_same rfl rfl

theorem follows_saveStatus (kraDevice : KraDeviceRow) (status : DeviceStatus) :
    Follows Within (saveStatus world kraDevice status : Service collate Unit) :=
  follows_updateDevice world _ _ _

theorem follows_checkStatus (kraDevice : KraDeviceRow) (xmlPayload : KraXml) :
    Follows Within (checkStatus world kraDevice xmlPayload : Service collate StatusReport) := by
  refine (follows_sendCommand _ _ _ _).bind fun response => ?_
  refine (follows_parseXml _ _).bind fun parsedXml => ?_
  cases parsedXml.child? "DATA" with
  | none => exact follows_raise _
  | some dataNode => exact (follows_saveStatus _ _ _).bind fun _ => follows_pure _

/-- Where the status check of a device sends its command: nothing is switched for an
OSCU. -/
def statusBaseUrl (kraDevice : KraDeviceRow) (session : Session collate) :
    Except Throwable String :=
  if kraDevice.deviceType = "VSCU" then
    KraSalesService.targetBaseUrl world.config (session.tenants.kraDevice kraDevice)
  else .ok (baseUrl.get session)

theorem getDeviceStatus_sendsTo (kraDevice : KraDeviceRow) (session : Session collate) :
    SendsTo (statusBaseUrl world kraDevice session) session
      (exec (getDeviceStatus world kraDevice) session).2 := by
  have within : ∀ xmlPayload, Follows Within
      (tryCatch (checkStatus world kraDevice xmlPayload) fun thrown =>
        match thrown with
        | .kraApi e => do
            saveStatus world kraDevice .ERROR
            throw (.kraApi e)
        | .php other => throw (.php other) : Service collate StatusReport) := by
    intro xmlPayload
    refine (follows_checkStatus world kraDevice xmlPayload).tryCatch fun thrown => ?_
    cases thrown with
    | kraApi e => exact (follows_saveStatus _ _ _).bind fun _ => follows_throw _
    | php other => exact follows_throw _
  rw [getDeviceStatus, exec_bind_ok (exec_get session)]
  dsimp only
  cases (session.tenants.kraDevice kraDevice).pin with
  | error thrown =>
      rw [exec_raise_bind_error]
      exact Std.Refl.refl session
  | ok pin =>
      have noData : buildKraXml pin "STATUS" [] = .ok ⟨pin, "STATUS", []⟩ := rfl
      rw [exec_raise_bind_ok, noData, exec_raise_bind_ok]
      unfold statusBaseUrl switchIf
      by_cases isVscu : kraDevice.deviceType = "VSCU"
      · simp only [isVscu, decide_true, if_true]
        exact follows_withBaseUrl (within _) session
      · simp only [isVscu, decide_false, if_false]
        exact sendsTo_restoring (exec_pure _ session) rfl (within _)

/-- A switch that throws leaves the session alone. -/
theorem eq_of_switchIf_throws {isVscu : Bool} {url : Except Throwable String}
    {thrown : Thrown} {session between : Session collate}
    (threw : exec (switchIf isVscu url) session = (.error thrown, between)) :
    between = session := by
  cases isVscu with
  | false => cases threw
  | true =>
      cases url with
      | error refused => exact (Prod.mk.inj threw).2.symm
      | ok text => cases threw

/-- `initializeDevice` hands the client back with its base URL. -/
theorem baseUrl_initializeDevice (data : Entries) (session : Session collate) :
    baseUrl.get (exec (initializeDevice world data) session).2 = baseUrl.get session := by
  rw [initializeDevice, exec_bind_ok (exec_get session)]
  cases readActivation session.tenants (.arr data) with
  | error thrown => rfl
  | ok activation =>
      rw [exec_raise_bind_ok]
      refine Cell.get_exec_restoring fun thrown between threw => ?_
      rw [eq_of_switchIf_throws threw]

end Methods

end TaxGateway.Services.KraDeviceService
