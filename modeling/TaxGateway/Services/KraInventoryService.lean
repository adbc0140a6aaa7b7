import TaxGateway.Services.Payloads
import TaxGateway.Services.Session

/-!
Contract: `KraInventoryService`.

Owns: sending a stock movement and reading the stock, with the base URL each call
sends to. Here the payload is built with the target URL already set, inside `try`.
-/

namespace TaxGateway.Services.KraInventoryService

open TaxGateway.Php
open TaxGateway.Database
open TaxGateway.Effects
open Payloads Session

/-- `$inventoryPayload` of a movement. -/
def inventoryPayload : List (String × Source) :=
  [("bhfId", .required "branchId"),
    ("itemClsCd", .required "itemClassificationCode"),
    ("itemCd", .required "itemCode"),
    ("qty", .required "quantity"),
    ("updDt", .required "updateDate")]

/-- `$inventoryPayload` of a query: the filters that are set. -/
def filterPayload (filterData : Value) : List (String × Value) :=
  [("bhfId", "branchId"), ("itemCd", "itemCode"), ("startDt", "startDate"),
    ("endDt", "endDate")].filterMap fun field =>
      match filterData.coalesce field.2 .null with
      | .null => none
      | value => some (field.1, value)

structure StockLine where
  branchId : String
  itemClassificationCode : String
  itemCode : String
  itemName : String
  quantity : ℚ
  updateDate : String
  lastSyncTime : String

def stockLine (item : Xml) : StockLine where
  branchId := item.childText "bhfId"
  itemClassificationCode := item.childText "itemClsCd"
  itemCode := item.childText "itemCd"
  itemName := item.childText "itemNm"
  quantity := item.childFloat "qty"
  updateDate := item.childText "updDt"
  lastSyncTime := item.childText "lastSyncTime"

structure StockList where
  status : String
  message : String
  inventory : List StockLine
  kraResponse : String

/-- `$parsedXml->DATA->inventory`: every child of that name. -/
def inventoryNodes (parsedXml : Xml) : List Xml :=
  match parsedXml.child? "DATA" with
  | none => []
  | some data => data.children.filter fun child => child.name = "inventory"

section Methods

variable {collate : String → String} (world : World) (kraDevice : KraDevice)

/-- `KraInventoryService::sendInventoryMovement`. -/
def sendInventoryMovement (inventoryData : Entries) : Service collate Acknowledgement := do
  let pin ← raise kraDevice.pin
  withBaseUrl (KraSalesService.targetBaseUrl world.config kraDevice) do
    let inventoryPayload ← raise (payload inventoryPayload (.arr inventoryData))
    let xmlPayload ← raise (buildKraXml pin "SEND_INVENTORY" inventoryPayload)
    acknowledged world "/api/sendInventory" "Inventory movement data sent to KRA." xmlPayload

/-- `KraInventoryService::getInventoryData`. -/
def getInventoryData (filterData : Entries) : Service collate StockList := do
  let pin ← raise kraDevice.pin
  withBaseUrl (KraSalesService.targetBaseUrl world.config kraDevice) do
    let xmlPayload ← raise (buildKraXml pin "RECV_INVENTORY" (filterPayload (.arr filterData)))
    let response ← sendCommand world "/api/recvInventory" xmlPayload false
    let parsedXml ← parseXml world response.body
    let status := parsedXml.childTextOr "STATUS" "UNKNOWN"
    if status = "P" then
      return ⟨status, "Inventory data retrieved successfully.",
        (inventoryNodes parsedXml).map stockLine, response.body⟩
    else
      return ⟨status, "Failed to retrieve inventory data.", [], response.body⟩

theorem follows_sendInventoryMovement (inventoryData : Entries) :
    Follows (SendsTo (KraSalesService.targetBaseUrl world.config kraDevice))
      (sendInventoryMovement world kraDevice inventoryData : Service collate Acknowledgement) :=
  (follows_raise _).bind fun _ => follows_withBaseUrl <|
    (follows_raise _).bind fun _ => (follows_raise _).bind fun _ =>
      follows_acknowledged _ _ _ _

theorem follows_getInventoryData (filterData : Entries) :
    Follows (SendsTo (KraSalesService.targetBaseUrl world.config kraDevice))
      (getInventoryData world kraDevice filterData : Service collate StockList) := by
  refine (follows_raise _).bind fun _ => follows_withBaseUrl ?_
  refine (follows_raise _).bind fun _ => (follows_sendCommand _ _ _ _).bind fun _ => ?_
  refine (follows_parseXml _ _).bind fun parsedXml => ?_
  dsimp only
  split <;> exact follows_pure _

end Methods

end TaxGateway.Services.KraInventoryService
