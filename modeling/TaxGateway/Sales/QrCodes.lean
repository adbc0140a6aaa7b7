import TaxGateway.Foundations.CarriedDates
import TaxGateway.Foundations.PercentEncoding
import TaxGateway.Sales.Recording

/-!
Contract: the QR code of a recorded receipt, read back.

Owns:
- the row a call records, from the answer it was given;
- the six fields behind the `data` parameter of `kra_qr_code_url`;
- that the second of them is the hour and the minute, never the documented
  `hhmmss`, and the receipts that share a code for it.

Does not own: the base URL of the validation page.
-/

namespace TaxGateway.Sales

open TaxGateway.Php
open TaxGateway.Database
open TaxGateway.Http
open TaxGateway.Services
open TaxGateway.Services.KraSalesService

/-! ## The row a call records -/

section Recorded

variable {collate : String → String} {platform : Platform} {config : KraConfig} {sale : Sale}
  {network : Outgoing → Transport} {database queue : Option String}
  {gateway : Gateway collate} {xmlPayload : KraXml} {response : HttpResponse}
  {transaction : Transaction}

/-- What the call adds to the table is what it read in the answer. -/
theorem readAnswer_of_recorded
    (signed : sign platform config gateway.kraApi sale network = .ok (xmlPayload, response))
    (recorded : (processTransaction platform config sale network database queue
      gateway).2.transactions.stored = gateway.transactions.stored ++ [transaction]) :
    readAnswer platform config sale xmlPayload response = .ok transaction := by
  rcases processTransaction_cases with ⟨-, unchanged, -⟩ |
    ⟨_, _, row, signedAs, read, inserted, -⟩
  · have lengths := congrArg List.length recorded
    rw [unchanged, List.length_append, List.length_singleton] at lengths
    omega
  · obtain ⟨rfl, rfl⟩ := Prod.mk.inj (Except.ok.inj (signed.symm.trans signedAs))
    have rows := (TransactionsTable.insert_eq_ok inserted).2.symm.trans recorded
    obtain rfl := List.singleton_inj.mp (List.append_cancel_left rows)
    exact read

/-- The row an answer is read into is recorded, if the table admits it. -/
theorem recorded_of_readAnswer
    (signed : sign platform config gateway.kraApi sale network = .ok (xmlPayload, response))
    (read : readAnswer platform config sale xmlPayload response = .ok transaction)
    (admitted : gateway.transactions.Admits transaction) :
    (processTransaction platform config sale network none queue
      gateway).2.transactions.stored = gateway.transactions.stored ++ [transaction] := by
  obtain ⟨stored, inserted⟩ := TransactionsTable.insert_ok_of_admits admitted
  have rows := (TransactionsTable.insert_eq_ok inserted).2
  rw [(processTransaction_of_sign_ok signed).2.1]
  simp only [record, read, create, inserted, Except.map]
  cases queue with
  | none => exact rows
  | some message => exact rows

end Recorded

/-! ## The fields of a code -/

/-- What a reader finds in a QR code: its `data` parameter, decoded and split. -/
def qrFields (url : String) : Option (List String) :=
  ((queryParameter "data" url).bind urldecode).map (explode '#')

/-- The fields of an answer's code, with the date and the time as written. -/
def receiptFields (dataNode : Xml) (date time : String) : List String :=
  [date, time, dataNode.childText "Snumber",
    toString (intval (dataNode.childText "TNumber")), dataNode.childText "InternalData",
    dataNode.childText "Signature"]

/-- The texts of the answer have no separator in them. -/
structure HasPlainTexts (dataNode : Xml) : Prop where
  scuId : '#' ∉ (dataNode.childText "Snumber").toList
  internalData : '#' ∉ (dataNode.childText "InternalData").toList
  signature : '#' ∉ (dataNode.childText "Signature").toList

theorem hash_not_mem_paddedDigits (width value : Nat) : '#' ∉ paddedDigits width value := by
  intro member
  exact absurd (isDigit_of_mem_paddedDigits member) (by decide)

theorem hash_not_mem_pad2 (value : Nat) : '#' ∉ (DateTime.pad2 value).toList := by
  rw [DateTime.toList_pad2]
  exact hash_not_mem_paddedDigits 2 value

theorem hash_not_mem_compactDate (date : DateTime) : '#' ∉ date.formatCompactDate.toList := by
  simp only [DateTime.formatCompactDate, String.toList_append, List.mem_append, not_or,
    DateTime.toList_yearText]
  refine ⟨⟨hash_not_mem_pad2 date.day, hash_not_mem_pad2 date.month⟩, ?_,
    hash_not_mem_paddedDigits 4 _⟩
  split_ifs <;> decide

theorem hash_not_mem_hourMinute (date : DateTime) : '#' ∉ date.formatHourMinute.toList := by
  simp only [DateTime.formatHourMinute, String.toList_append, List.mem_append, not_or]
  exact ⟨hash_not_mem_pad2 date.hour, hash_not_mem_pad2 date.minute⟩

theorem hash_not_mem_toString (value : Int) : '#' ∉ (toString value).toList := by
  have digits : ∀ number : Nat, '#' ∉ (Nat.repr number).toList := by
    intro number member
    rw [Nat.toList_repr] at member
    exact absurd (isDigit_of_mem_toDigits member) (by decide)
  cases value with
  | ofNat number => exact digits number
  | negSucc number =>
      show '#' ∉ ("-" ++ Nat.repr (number + 1)).toList
      rw [String.toList_append, List.mem_append, not_or]
      exact ⟨by decide, digits (number + 1)⟩

/-- The decoded data of a code. -/
theorem urldecode_qrCodeUrl (config : KraConfig) (dataNode : Xml) (kraTimestamp : DateTime) :
    (queryParameter "data" (qrCodeUrl config dataNode kraTimestamp)).bind urldecode =
      some (String.intercalate "#" (receiptFields dataNode kraTimestamp.formatCompactDate
        kraTimestamp.formatHourMinute)) := by
  have url : qrCodeUrl config dataNode kraTimestamp =
      config.qrCodeBaseUrl ++ "?" ++ ("data" ++ "=" ++ urlencode (String.intercalate "#"
        (receiptFields dataNode kraTimestamp.formatCompactDate
          kraTimestamp.formatHourMinute))) := by
    have parameter : "?data=" = "?" ++ ("data" ++ "=") := rfl
    simp only [qrCodeUrl, receiptFields, parameter, String.append_assoc]
  rw [url, queryParameter_urlencode (by decide), Option.bind_some, urldecode_urlencode]

/-- The fields that are in the code of an answer. -/
theorem qrFields_qrCodeUrl {dataNode : Xml} (plain : HasPlainTexts dataNode)
    (config : KraConfig) (kraTimestamp : DateTime) :
    qrFields (qrCodeUrl config dataNode kraTimestamp) =
      some (receiptFields dataNode kraTimestamp.formatCompactDate
        kraTimestamp.formatHourMinute) := by
  rw [qrFields, urldecode_qrCodeUrl, Option.map_some]
  apply congrArg some
  apply explode_intercalate (by simp [receiptFields])
  intro part member
  simp only [receiptFields, List.mem_cons, List.not_mem_nil, or_false] at member
  rcases member with rfl | rfl | rfl | rfl | rfl | rfl
  · exact hash_not_mem_compactDate kraTimestamp
  · exact hash_not_mem_hourMinute kraTimestamp
  · exact plain.scuId
  · exact hash_not_mem_toString _
  · exact plain.internalData
  · exact plain.signature

/-- The date of a code is found whatever the answer's texts are. -/
theorem head?_qrFields (config : KraConfig) (dataNode : Xml) (kraTimestamp : DateTime) :
    (qrFields (qrCodeUrl config dataNode kraTimestamp)).bind List.head? =
      some kraTimestamp.formatCompactDate := by
  rw [qrFields, urldecode_qrCodeUrl, Option.map_some, Option.bind_some, receiptFields]
  exact head?_explode_intercalate (hash_not_mem_compactDate kraTimestamp)

/-! ## The documented time -/

/-- `time(hhmmss)`. -/
def documentedTime (date : DateTime) : String := date.formatHourMinute ++ DateTime.pad2 date.second

/-- A code that has the documented fields of an answer. -/
def ReadsBack (url : String) (dataNode : Xml) (receipt : DateTime) : Prop :=
  qrFields url =
    some (receiptFields dataNode receipt.formatCompactDate (documentedTime receipt))

theorem two_le_length_pad2 (value : Nat) : 2 ≤ (DateTime.pad2 value).toList.length := by
  rw [DateTime.toList_pad2]
  simp only [paddedDigits, List.length_append, List.length_replicate]
  omega

/-- Six digits are needed for the documented time. -/
theorem six_le_length_documentedTime (date : DateTime) :
    6 ≤ (documentedTime date).toList.length := by
  have hour := two_le_length_pad2 date.hour
  have minute := two_le_length_pad2 date.minute
  have second := two_le_length_pad2 date.second
  simp only [documentedTime, DateTime.formatHourMinute, String.toList_append,
    List.length_append]
  omega

/-- Four are written. -/
theorem length_hourMinute {date : DateTime} (hour : date.hour < 100)
    (minute : date.minute < 100) : date.formatHourMinute.toList.length = 4 := by
  rw [DateTime.formatHourMinute, String.toList_append, List.length_append,
    DateTime.length_toList_pad2 hour, DateTime.length_toList_pad2 minute]

/-- A time that was read is a time of day. -/
theorem time_of_createFromFormat {text : String} {date : DateTime}
    (parses : DateTime.createFromFormat text = some date) :
    date.hour < 24 ∧ date.minute < 60 ∧ date.second < 60 := by
  rw [DateTime.createFromFormat_eq_map, Option.map_eq_some_iff] at parses
  obtain ⟨written, read, rfl⟩ := parses
  exact (DateTime.carried_isDay (DateTime.isWritten_of_readWritten read)).2

theorem not_readsBack {dataNode : Xml} (plain : HasPlainTexts dataNode) (config : KraConfig)
    {kraTimestamp : DateTime} {text : String}
    (parses : DateTime.createFromFormat text = some kraTimestamp) (receipt : DateTime) :
    ¬ ReadsBack (qrCodeUrl config dataNode kraTimestamp) dataNode receipt := by
  intro readsBack
  obtain ⟨hour, minute, -⟩ := time_of_createFromFormat parses
  have written := length_hourMinute (hour.trans (by omega)) (minute.trans (by omega))
  have needed := six_le_length_documentedTime receipt
  rw [ReadsBack, qrFields_qrCodeUrl plain] at readsBack
  have times : kraTimestamp.formatHourMinute = documentedTime receipt :=
    (List.cons.inj (List.cons.inj (Option.some.inj readsBack)).2).1
  rw [times] at written
  omega

section Codes

variable {collate : String → String} {platform : Platform} {config : KraConfig} {sale : Sale}
  {network : Outgoing → Transport} {database queue : Option String}
  {gateway : Gateway collate} {xmlPayload : KraXml} {response : HttpResponse}
  {dataNode : Xml} {transaction : Transaction}

/-- The code of a recorded receipt has six fields, with the hour and the minute
where the documented format has `hhmmss`: it never reads back as documented. -/
theorem recorded_qrCode_lacks_seconds
    (signed : sign platform config gateway.kraApi sale network = .ok (xmlPayload, response))
    (hasData : signedData platform response = some dataNode) (plain : HasPlainTexts dataNode)
    (recorded : (processTransaction platform config sale network database queue
      gateway).2.transactions.stored = gateway.transactions.stored ++ [transaction]) :
    (∃ receipt, DateTime.createFromFormat (kraTimestampText dataNode) = some receipt ∧
      qrFields transaction.kraQrCodeUrl = some (receiptFields dataNode
        receipt.formatCompactDate receipt.formatHourMinute)) ∧
    ∀ receipt, ¬ ReadsBack transaction.kraQrCodeUrl dataNode receipt := by
  obtain ⟨data, kraTimestamp, _, _, _, isData, parses, -, -, -, rfl⟩ :=
    readAnswer_eq_ok (readAnswer_of_recorded signed recorded)
  obtain rfl := Option.some.inj (hasData.symm.trans isData)
  exact ⟨⟨kraTimestamp, parses, qrFields_qrCodeUrl plain config kraTimestamp⟩,
    not_readsBack plain config parses⟩

end Codes

/-! ### The sale of bread -/

/-- The row of the bread sale. -/
def signedBreadRow : Transaction :=
  signedTransaction shopConfig (breadSale "1") (signedNode "KRACU1") ⟨2025, 7, 3, 13, 8, 19⟩
    (receiptTexts (shopPlatform "P" "KRACU1") AcceptedRequest.breadSale breadPayload
      ⟨200, signedBody "P" "KRACU1"⟩)

theorem sign_breadSale :
    sign (shopPlatform "P" "KRACU1") shopConfig emptyGateway.kraApi (breadSale "1")
        (fun _ => signedAnswer "P" "KRACU1") =
      .ok (breadPayload, ⟨200, signedBody "P" "KRACU1"⟩) := signedBread_eq

theorem recorded_breadSale :
    (processTransaction (shopPlatform "P" "KRACU1") shopConfig (breadSale "1")
      (fun _ => signedAnswer "P" "KRACU1") none none emptyGateway).2.transactions.stored =
        emptyGateway.transactions.stored ++ [signedBreadRow] := by
  have parses : DateTime.createFromFormat (kraTimestampText (signedNode "KRACU1")) =
      some ⟨2025, 7, 3, 13, 8, 19⟩ := by decide +kernel
  have read : readAnswer (shopPlatform "P" "KRACU1") shopConfig (breadSale "1") breadPayload
      ⟨200, signedBody "P" "KRACU1"⟩ = .ok signedBreadRow :=
    readAnswer_of_accepted (breadSale_isRequest "1") (signedData_shopPlatform "P" "KRACU1")
      parses
  have admitted : emptyGateway.transactions.Admits signedBreadRow := by decide +kernel
  exact recorded_of_readAnswer sign_breadSale read admitted

theorem hasPlainTexts_signedNode : HasPlainTexts (signedNode "KRACU1") :=
  ⟨by decide +kernel, by decide +kernel, by decide +kernel⟩

/-- The theorem at the bread sale. -/
theorem recorded_qrCode_lacks_seconds_breadSale :
    (∃ receipt, DateTime.createFromFormat (kraTimestampText (signedNode "KRACU1")) =
        some receipt ∧
      qrFields signedBreadRow.kraQrCodeUrl = some (receiptFields (signedNode "KRACU1")
        receipt.formatCompactDate receipt.formatHourMinute)) ∧
    ∀ receipt, ¬ ReadsBack signedBreadRow.kraQrCodeUrl (signedNode "KRACU1") receipt :=
  recorded_qrCode_lacks_seconds sign_breadSale (signedData_shopPlatform "P" "KRACU1")
    hasPlainTexts_signedNode recorded_breadSale

/-- Signed at 13:08:19, the bread sale is recorded with `1308` in its code. -/
theorem breadSale_not_readsBack :
    sign (shopPlatform "P" "KRACU1") shopConfig emptyGateway.kraApi (breadSale "1")
        (fun _ => signedAnswer "P" "KRACU1") =
      .ok (breadPayload, ⟨200, signedBody "P" "KRACU1"⟩) ∧
    signedData (shopPlatform "P" "KRACU1") ⟨200, signedBody "P" "KRACU1"⟩ =
      some (signedNode "KRACU1") ∧
    HasPlainTexts (signedNode "KRACU1") ∧
    (processTransaction (shopPlatform "P" "KRACU1") shopConfig (breadSale "1")
      (fun _ => signedAnswer "P" "KRACU1") none none emptyGateway).2.transactions.stored =
        emptyGateway.transactions.stored ++ [signedBreadRow] ∧
    DateTime.createFromFormat (kraTimestampText (signedNode "KRACU1")) =
      some ⟨2025, 7, 3, 13, 8, 19⟩ ∧
    documentedTime ⟨2025, 7, 3, 13, 8, 19⟩ = "130819" ∧
    qrFields signedBreadRow.kraQrCodeUrl =
      some ["03072025", "1308", "KRACU1", "1", "TE68SLA234J5EAV3N569J2WE",
        "V249J39CFJ48HE2W"] ∧
    ¬ ReadsBack signedBreadRow.kraQrCodeUrl (signedNode "KRACU1")
      ⟨2025, 7, 3, 13, 8, 19⟩ := by
  have parses : DateTime.createFromFormat (kraTimestampText (signedNode "KRACU1")) =
      some ⟨2025, 7, 3, 13, 8, 19⟩ := by decide +kernel
  have fields : qrFields signedBreadRow.kraQrCodeUrl =
      some (receiptFields (signedNode "KRACU1") "03072025" "1308") :=
    qrFields_qrCodeUrl hasPlainTexts_signedNode shopConfig ⟨2025, 7, 3, 13, 8, 19⟩
  have written : receiptFields (signedNode "KRACU1") "03072025" "1308" =
      ["03072025", "1308", "KRACU1", "1", "TE68SLA234J5EAV3N569J2WE", "V249J39CFJ48HE2W"] := by
    decide +kernel
  exact ⟨sign_breadSale, signedData_shopPlatform "P" "KRACU1", hasPlainTexts_signedNode,
    recorded_breadSale, parses, rfl, fields.trans (congrArg some written),
    not_readsBack hasPlainTexts_signedNode shopConfig parses _⟩

end TaxGateway.Sales
