import TaxGateway.Services.Payloads
import TaxGateway.Services.Session

/-!
Contract: `KraItemService`.

Owns: the registration of an item and the list of items, with the base URL each
call sends to.
-/

namespace TaxGateway.Services

open TaxGateway.Php
open TaxGateway.Database
open TaxGateway.Effects
open Payloads Session

namespace KraItemService

/-- `$kraItemPayload`. -/
def kraItemPayload (now : DateTime) : List (String × Source) :=
  [("itemCd", .required "itemCode"),
    ("itemClsCd", .required "itemClassificationCode"),
    ("itemNm", .required "itemName"),
    ("itemTyCd", .optional "itemTypeCode" (.str "2")),
    ("itemStd", .optional "itemStandard" (.str "")),
    ("OrgplceCd", .optional "originCountryCode" (.str "KE")),
    ("PkgUnitCd", .required "packagingUnitCode"),
    ("QtyUnitCd", .required "quantityUnitCode"),
    ("AdiInfo", .optional "additionalInfo" (.str "0001")),
    ("InitlWhUntpc", .required "initialWholesaleUnitPrice"),
    ("InitlQty", .required "initialQuantity"),
    ("AvgWhUntpc", .either "averageWholesaleUnitPrice" "initialWholesaleUnitPrice"),
    ("dfltDlUntpc", .required "defaultSellingUnitPrice"),
    ("taxTyCd", .required "taxType"),
    ("rm", .optional "remark" (.str "[FREE TEXT]")),
    ("useYn", .flag "inUse"),
    ("regusrId", .optional "registerUserId" (.str "GatewaySystem")),
    ("regDt", .optional "registerDate" (.str now.formatYmdHis)),
    ("updusrId", .optional "updateUserId" (.str "GatewaySystem")),
    ("updDt", .optional "updateDate" (.str now.formatYmdHis)),
    ("safetyQty", .optional "safetyQuantity" (.num 0)),
    ("useBarcode", .flag "useBarcode"),
    ("changeYn", .flag "changeAllowed"),
    ("useAdiYn", .flag "useAdditionalInfoAllowed")]

/-- A member of `items`: the fields of a record, or `(array) $parsedXml->DATA`. -/
inductive ListedItem where
  | record (fields : List (String × String))
  | data (node : Xml)

/-- `Str::endsWith($name, 'Record') || $name === 'Item'`. -/
def isRecord (name : String) : Bool :=
  "Record".toList.isSuffixOf name.toList || name = "Item"

/-- `$items`. Only a `DATA` node without children leaves the loop with none, and
then it has no fields to make a single item of. -/
def listedItems (parsedXml : Xml) : List ListedItem :=
  match parsedXml.child? "DATA" with
  | none => []
  | some data =>
      let items := listing isRecord (fun child => .record (fieldTexts child)) [.data data]
        data.children
      let singleItem := fieldTexts data
      if items.isEmpty && !singleItem.isEmpty then [.record singleItem] else items

structure ItemList where
  message : String
  items : List ListedItem
  kraResponse : String

section Methods

variable {collate : String → String} (world : World) (kraDevice : KraDevice)

/-- `KraItemService::registerItem`. -/
def registerItem (itemData : Entries) : Service collate Acknowledgement := do
  let kraItemPayload ← raise (payload (kraItemPayload world.now) (.arr itemData))
  let pin ← raise kraDevice.pin
  let xmlPayload ← raise (buildKraXml pin "SEND_ITEM" kraItemPayload)
  withBaseUrl (KraSalesService.targetBaseUrl world.config kraDevice) do
    acknowledged world "/api/sendItem" "Item registration command sent to KRA." xmlPayload

/-- `KraItemService::getItems`. -/
def getItems : Service collate ItemList := do
  let pin ← raise kraDevice.pin
  let xmlPayload ← raise (buildKraXml pin "RECV_ITEM" [])
  withBaseUrl (KraSalesService.targetBaseUrl world.config kraDevice) do
    let response ← sendCommand world "/api/recvItem" xmlPayload false
    let parsedXml ← parseXml world response.body
    return ⟨"Item list retrieved successfully.", listedItems parsedXml, response.body⟩

theorem follows_registerItem (itemData : Entries) :
    Follows (SendsTo (KraSalesService.targetBaseUrl world.config kraDevice))
      (registerItem world kraDevice itemData : Service collate Acknowledgement) :=
  (follows_raise _).bind fun _ => (follows_raise _).bind fun _ =>
    (follows_raise _).bind fun _ => follows_withBaseUrl (follows_acknowledged _ _ _ _)

theorem follows_getItems :
    Follows (SendsTo (KraSalesService.targetBaseUrl world.config kraDevice))
      (getItems world kraDevice : Service collate ItemList) :=
  (follows_raise _).bind fun _ => (follows_raise _).bind fun _ =>
    follows_withBaseUrl <| (follows_sendCommand _ _ _ _).bind fun _ =>
      (follows_parseXml _ _).bind fun _ => follows_pure _

end Methods

end KraItemService

end TaxGateway.Services
