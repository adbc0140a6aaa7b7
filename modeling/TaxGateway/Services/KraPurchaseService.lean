import TaxGateway.Services.Payloads
import TaxGateway.Services.Session

/-!
Contract: `KraPurchaseService`.

Owns: sending a purchase (its header, then each item) and reading the purchases back,
with the base URL each call sends to. The payloads are built with the target URL
already set, inside `try`.
-/

namespace TaxGateway.Services.KraPurchaseService

open TaxGateway.Php
open TaxGateway.Database
open TaxGateway.Effects
open Payloads Session

/-- `$purchaseHeaderPayload`. -/
def purchaseHeaderPayload : List (String × Source) :=
  [("InvId", .required "invoiceId"),
    ("bhfId", .required "branchId"),
    ("bcncId", .required "supplierPin"),
    ("bcncNm", .required "supplierName"),
    ("spplrSdcId", .required "supplierCuId"),
    ("regTyCd", .required "registrationTypeCode"),
    ("refId", .required "referenceId"),
    ("payTyCd", .required "paymentTypeCode"),
    ("invStatusCd", .required "invoiceStatusCode"),
    ("ocde", .required "transactionDate"),
    ("validDt", .either "validDate" "transactionDate"),
    ("cancelReqDt", .optional "cancelRequestDate" .null),
    ("cancelDt", .optional "cancelDate" .null),
    ("refundDt", .optional "refundDate" .null),
    ("cancelTyCd", .optional "cancelTypeCode" .null),
    ("totNumItem", .count "items"),
    ("totTaxablAmtA", .optional "totalTaxableAmountA" (.num 0)),
    ("totTaxablAmtB", .optional "totalTaxableAmountB" (.num 0)),
    ("totTaxablAmtC", .optional "totalTaxableAmountC" (.num 0)),
    ("totTaxablAmtD", .optional "totalTaxableAmountD" (.num 0)),
    ("totTaxablAmtE", .optional "totalTaxableAmountE" (.num 0)),
    ("totTaxA", .optional "totalTaxA" (.num 0)),
    ("totTaxB", .optional "totalTaxB" (.num 0)),
    ("totTaxC", .optional "totalTaxC" (.num 0)),
    ("totTaxD", .optional "totalTaxD" (.num 0)),
    ("totTaxE", .optional "totalTaxE" (.num 0)),
    ("totSplpc", .required "totalSupplierPrice"),
    ("totTax", .required "totalTax"),
    ("totAmt", .required "totalAmount"),
    ("remark", .optional "remark" (.str "[FREE TEXT]")),
    ("regusrId", .required "registerUserId"),
    ("regDt", .required "registerDate")]

/-- The fields of `$purchaseItemPayload` that link the item to its header. -/
def purchaseLinkPayload : List (String × Source) :=
  [("invId", .required "invoiceId"), ("bhfId", .required "branchId")]

/-- The fields of `$purchaseItemPayload` read from the item. -/
def purchaseItemPayload : List (String × Source) :=
  [("itemSeq", .required "sequence"),
    ("itemClsCd", .required "itemClassificationCode"),
    ("itemCd", .required "itemCode"),
    ("itemNm", .required "itemName"),
    ("bcncItemClsCd", .required "supplierItemClassificationCode"),
    ("bcncItemCd", .required "supplierItemCode"),
    ("bcncItemNm", .required "supplierItemName"),
    ("pkgUnitCd", .required "packagingUnitCode"),
    ("pkgQty", .required "packagingQuantity"),
    ("qtyUnitCd", .required "quantityUnitCode"),
    ("qty", .required "quantity"),
    ("expirDt", .optional "expiryDate" .null),
    ("untpc", .required "unitPrice"),
    ("splpc", .required "supplierPrice"),
    ("dcRate", .required "discountRate"),
    ("dcAmt", .required "discountAmount"),
    ("taxablAmt", .required "taxableAmount"),
    ("taxTyCd", .required "taxType"),
    ("tax", .required "taxAmount")]

/-- The values a `foreach` goes through. -/
def members : Value → List Value
  | .arr entries => entries.map Prod.snd
  | _ => []

/-- `$child->getName() === 'Record' || $child->getName() === $tag`. -/
def isRecord (tag name : String) : Bool :=
  name = "Record" || name = tag

/-- The records of an answer. An element that is no record makes one record of all
children of `DATA` and ends the loop. -/
def records (tag : String) (parsedXml : Xml) : List (List (String × String)) :=
  match parsedXml.child? "DATA" with
  | none => []
  | some data =>
      let single := fieldTexts data
      listing (isRecord tag) fieldTexts (if single.isEmpty then [] else [single]) data.children

structure PurchaseList where
  message : String
  purchases : List (List (String × String))
  purchaseItems : List (List (String × String))
  kraResponsePurchases : String
  kraResponsePurchaseItems : String

section Methods

variable {collate : String → String} (world : World) (kraDevice : KraDevice)

/-- One round of the loop over the items. -/
def sendPurchaseItem (pin : String) (purchaseData item : Value) : Service collate Unit := do
  let link ← raise (payload purchaseLinkPayload purchaseData)
  let fields ← raise (payload purchaseItemPayload item)
  let purchaseItemXml ← raise (buildKraXml pin "SEND_PURCHASEITEM" (link ++ fields))
  let _ ← sendCommand world "/api/sendPurchaseItem" purchaseItemXml false

/-- `KraPurchaseService::sendPurchase`. The result is its message. -/
def sendPurchase (purchaseData : Entries) : Service collate String := do
  let pin ← raise kraDevice.pin
  withBaseUrl (KraSalesService.targetBaseUrl world.config kraDevice) do
    let header ← raise (payload purchaseHeaderPayload (.arr purchaseData))
    let purchaseHeaderXml ← raise (buildKraXml pin "SEND_PURCHASE" header)
    let _ ← sendCommand world "/api/sendPurchase" purchaseHeaderXml false
    let items ← raise (offset (.arr purchaseData) "items")
    (members items).forM (sendPurchaseItem world pin (.arr purchaseData))
    return "Purchase data sent to KRA successfully."

/-- `KraPurchaseService::getPurchases`. Its filter is not used. -/
def getPurchases : Service collate PurchaseList := do
  let pin ← raise kraDevice.pin
  withBaseUrl (KraSalesService.targetBaseUrl world.config kraDevice) do
    let purchaseRecvXml ← raise (buildKraXml pin "RECV_PURCHASE" [])
    let response ← sendCommand world "/api/recvPurchase" purchaseRecvXml false
    let parsedPurchaseXml ← parseXml world response.body
    let purchaseItemsRecvXml ← raise (buildKraXml pin "RECV_PURCHASEITEM" [])
    let responseItems ← sendCommand world "/api/recvPurchaseItem" purchaseItemsRecvXml false
    let parsedPurchaseItemsXml ← parseXml world responseItems.body
    return ⟨"Purchase data retrieved successfully.", records "Purchase" parsedPurchaseXml,
      records "PurchaseItem" parsedPurchaseItemsXml, response.body, responseItems.body⟩

theorem follows_sendPurchaseItem (pin : String) (purchaseData item : Value) :
    Follows Within (sendPurchaseItem world pin purchaseData item : Service collate Unit) :=
  (follows_raise _).bind fun _ => (follows_raise _).bind fun _ =>
    (follows_raise _).bind fun _ => (follows_sendCommand _ _ _ _).bind fun _ => follows_pure _

theorem follows_sendPurchase (purchaseData : Entries) :
    Follows (SendsTo (KraSalesService.targetBaseUrl world.config kraDevice))
      (sendPurchase world kraDevice purchaseData : Service collate String) := by
  refine (follows_raise _).bind fun pin => follows_withBaseUrl ?_
  refine (follows_raise _).bind fun _ => (follows_raise _).bind fun _ => ?_
  refine (follows_sendCommand _ _ _ _).bind fun _ => (follows_raise _).bind fun items => ?_
  refine Follows.bind ?_ fun _ => follows_pure _
  exact Follows.forM fun item _ => follows_sendPurchaseItem world pin _ item

theorem follows_getPurchases :
    Follows (SendsTo (KraSalesService.targetBaseUrl world.config kraDevice))
      (getPurchases world kraDevice : Service collate PurchaseList) := by
  refine (follows_raise _).bind fun _ => follows_withBaseUrl ?_
  refine (follows_raise _).bind fun _ => (follows_sendCommand _ _ _ _).bind fun _ => ?_
  refine (follows_parseXml _ _).bind fun _ => (follows_raise _).bind fun _ => ?_
  refine (follows_sendCommand _ _ _ _).bind fun _ => (follows_parseXml _ _).bind fun _ => ?_
  exact follows_pure _

end Methods

end TaxGateway.Services.KraPurchaseService
