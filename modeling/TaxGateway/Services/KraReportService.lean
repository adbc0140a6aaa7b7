import TaxGateway.Services.Session

/-!
Contract: `KraReportService`.

Owns: the X and Z daily reports and the PLU report, with the base URL each call
sends to.
-/

namespace TaxGateway.Services.KraReportService

open TaxGateway.Php
open TaxGateway.Database
open TaxGateway.Effects
open Session

/-- `$report` of both daily reports. -/
structure DailyReport where
  tradeName : String
  taxpayerPin : String
  reportDate : String
  reportTime : String
  reportType : String
  totalSalesAmountNS : ℚ
  numberOfSalesReceiptsNS : Int
  totalCreditNoteAmountNC : ℚ
  numberOfCreditNotesNC : Int

def readDailyReport (reportType : String) (dataNode : Xml) : DailyReport where
  tradeName := dataNode.childText "tradeName"
  taxpayerPin := dataNode.childText "PIN"
  reportDate := dataNode.childText "date"
  reportTime := dataNode.childText "time"
  reportType := dataNode.childTextOr "reportType" reportType
  totalSalesAmountNS := dataNode.childFloat "totalSalesAmountNS"
  numberOfSalesReceiptsNS := dataNode.childInt "numberOfSalesReceiptsNS"
  totalCreditNoteAmountNC := dataNode.childFloat "totalCreditNoteAmountNC"
  numberOfCreditNotesNC := dataNode.childInt "numberOfCreditNotesNC"

structure PluItem where
  itemCode : String
  itemName : String
  unitPrice : ℚ
  taxRate : ℚ
  quantitySold : ℚ
  amountCollected : ℚ
  remainingQuantityInStock : ℚ

def readPluItem (itemNode : Xml) : PluItem where
  itemCode := itemNode.childText "itemCode"
  itemName := itemNode.childText "itemName"
  unitPrice := itemNode.childFloat "unitPrice"
  taxRate := itemNode.childFloat "taxRate"
  quantitySold := itemNode.childFloat "quantitySold"
  amountCollected := itemNode.childFloat "amountCollected"
  remainingQuantityInStock := itemNode.childFloat "remainQuantityInStock"

structure PluReport where
  companyName : String
  taxIdentificationNumber : String
  intervalDate : String
  intervalTime : String
  reportType : String
  items : List PluItem

/-- The items of a PLU report: nested, or else one item written directly under
`DATA`. -/
def pluItems (dataNode : Xml) : List PluItem :=
  let nested := ((dataNode.child? "items").map Xml.children).getD []
  let singleItem := readPluItem dataNode
  if !nested.isEmpty then nested.map readPluItem
  else if (Value.str singleItem.itemCode).isEmpty then [] else [singleItem]

def readPluReport (dataNode : Xml) : PluReport where
  companyName := dataNode.childText "companyName"
  taxIdentificationNumber := dataNode.childText "taxIdentificationNumber"
  intervalDate := dataNode.childText "intervalDate"
  intervalTime := dataNode.childText "intervalTime"
  reportType := dataNode.childTextOr "reportType" "PLU_REPORT"
  items := pluItems dataNode

/-- What a report method returns. -/
structure Retrieved (ρ : Type) where
  message : String
  report : ρ
  kraResponse : String

/-- An optional bound of the PLU report, in KRA's format. A date that cannot be read
is `false`, which has no `format`. -/
def dateBound (key : String) (date : Option String) :
    Except Throwable (List (String × Value)) :=
  match date with
  | none => .ok []
  | some text =>
      if (Value.str text).isEmpty then .ok []
      else
        match DateTime.createFromYmd text with
        | some day => .ok [(key, .str day.formatYmd)]
        | none => .error (.error "Call to a member function format() on false")

section Methods

variable {collate : String → String} {ρ : Type} (world : World) (kraDevice : KraDevice)

/-- What the three methods do once their payload is built. -/
def retrieve (endpointPath missing message : String) (read : Xml → ρ) (xmlPayload : KraXml) :
    Service collate (Retrieved ρ) :=
  withBaseUrl (KraSalesService.targetBaseUrl world.config kraDevice) do
    let response ← sendCommand world endpointPath xmlPayload false
    let parsedXml ← parseXml world response.body
    match parsedXml.child? "DATA" with
    | none => raise (.error (.exception (missing ++ response.body)))
    | some dataNode => return ⟨message, read dataNode, response.body⟩

/-- `KraReportService::getXDailyReport`. -/
def getXDailyReport : Service collate (Retrieved DailyReport) := do
  let pin ← raise kraDevice.pin
  let xmlPayload ← raise (buildKraXml pin "X_REPORT" [])
  retrieve world kraDevice "/api/getXReport" "KRA X Report response missing DATA node: "
    "X Daily Report retrieved successfully." (readDailyReport "X_DAILY_REPORT") xmlPayload

/-- `KraReportService::generateZDailyReport`. -/
def generateZDailyReport : Service collate (Retrieved DailyReport) := do
  let pin ← raise kraDevice.pin
  let xmlPayload ← raise (buildKraXml pin "Z_REPORT" [])
  retrieve world kraDevice "/api/generateZReport" "KRA Z Report response missing DATA node: "
    "Z Daily Report generated and retrieved successfully."
    (readDailyReport "Z_DAILY_REPORT") xmlPayload

/-- `KraReportService::getPLUReport`. -/
def getPLUReport (startDate endDate : Option String) : Service collate (Retrieved PluReport) := do
  let pin ← raise kraDevice.pin
  let startBound ← raise (dateBound "startDate" startDate)
  let endBound ← raise (dateBound "endDate" endDate)
  let xmlPayload ← raise (buildKraXml pin "PLU_REPORT" (startBound ++ endBound))
  retrieve world kraDevice "/api/getPLUReport" "KRA PLU Report response missing DATA node: "
    "PLU Report retrieved successfully." readPluReport xmlPayload

theorem follows_retrieve (endpointPath missing message : String) (read : Xml → ρ)
    (xmlPayload : KraXml) :
    Follows (SendsTo (KraSalesService.targetBaseUrl world.config kraDevice))
      (retrieve world kraDevice endpointPath missing message read xmlPayload :
        Service collate (Retrieved ρ)) := by
  refine follows_withBaseUrl ((follows_sendCommand _ _ _ _).bind fun response => ?_)
  refine (follows_parseXml _ _).bind fun parsedXml => ?_
  cases parsedXml.child? "DATA" with
  | none => exact follows_raise _
  | some dataNode => exact follows_pure _

theorem follows_getXDailyReport :
    Follows (SendsTo (KraSalesService.targetBaseUrl world.config kraDevice))
      (getXDailyReport world kraDevice : Service collate (Retrieved DailyReport)) :=
  (follows_raise _).bind fun _ => (follows_raise _).bind fun _ => follows_retrieve _ _ _ _ _ _ _

theorem follows_generateZDailyReport :
    Follows (SendsTo (KraSalesService.targetBaseUrl world.config kraDevice))
      (generateZDailyReport world kraDevice : Service collate (Retrieved DailyReport)) :=
  (follows_raise _).bind fun _ => (follows_raise _).bind fun _ => follows_retrieve _ _ _ _ _ _ _

theorem follows_getPLUReport (startDate endDate : Option String) :
    Follows (SendsTo (KraSalesService.targetBaseUrl world.config kraDevice))
      (getPLUReport world kraDevice startDate endDate :
        Service collate (Retrieved PluReport)) :=
  (follows_raise _).bind fun _ => (follows_raise _).bind fun _ =>
    (follows_raise _).bind fun _ => (follows_raise _).bind fun _ => follows_retrieve _ _ _ _ _ _ _

end Methods

end TaxGateway.Services.KraReportService
