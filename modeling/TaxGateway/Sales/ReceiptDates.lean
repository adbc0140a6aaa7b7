import TaxGateway.Jobs.ProcessKraJournalingJob
import TaxGateway.Sales.QrCodes
import TaxGateway.Services.Signable

/-!
Contract: the date a device writes into its answer, in the QR code and in the
journal of the recorded receipt.

Owns:
- that what could be signed can be journaled;
- the date and the time of a journal command;
- the exact texts whose date is kept: those of a day of the calendar and a time
  of day, as the parser carries every other one into the next month, day or hour.

Does not own: how the database stores the second.
-/

namespace TaxGateway.Sales

open TaxGateway.Php
open TaxGateway.Database
open TaxGateway.Http
open TaxGateway.Services
open TaxGateway.Services.KraSalesService
open TaxGateway.Jobs.ProcessKraJournalingJob (taxTotals journalPayload sendReceiptJournal
  sendReceiptJournal_eq_ok lookup_of_fields)

/-! ## The journal of a signed receipt -/

/-- A map the service could format, the job can. -/
theorem taxTotals_of_formatsTaxes {requestPayload : Value} {key : String}
    (formats : KraFields.FormatsTaxes (requestPayload.coalesce key (.arr [])))
    (typeSuffix : String) :
    ∃ fields, taxTotals requestPayload key typeSuffix = .ok fields ∧
      (fields.any fun child => child.2.isArray) = false := by
  by_cases isEmpty : (requestPayload.coalesce key .null).isEmpty = true
  · exact ⟨[], by simp [taxTotals, isEmpty], rfl⟩
  · have same : requestPayload.coalesce key .null = requestPayload.coalesce key (.arr []) := by
      unfold Value.coalesce at isEmpty ⊢
      split at isEmpty
      next => exact absurd rfl isEmpty
      next => exact absurd rfl isEmpty
      next => simp only
    obtain ⟨fields, formatted⟩ : ∃ fields, KraFields.formatTaxDataForKraXml
        (requestPayload.coalesce key (.arr [])) typeSuffix = .ok fields :=
      KraFields.formatTaxDataForKraXml_returns_iff.mpr formats
    refine ⟨fields, ?_, ?_⟩
    · simp only [taxTotals, if_neg isEmpty]
      rw [same]
      exact formatted
    · rw [List.any_eq_false]
      intro field member
      rw [KraFields.isArray_of_formatted formatted field member]
      exact Bool.false_ne_true

section Journal

variable {transaction : Transaction}

theorem journalPayload_eq_ok {data : List (String × Value)}
    (built : journalPayload transaction = .ok data) :
    data.lookup "Date" = some (.str transaction.kraTimestamp.formatDate) ∧
      data.lookup "Time" = some (.str transaction.kraTimestamp.formatTime) := by
  obtain ⟨rtype, -, built⟩ := bind_eq_ok.mp built
  obtain ⟨ttype, -, built⟩ := bind_eq_ok.mp built
  obtain ⟨taxRates, -, built⟩ := bind_eq_ok.mp built
  obtain ⟨taxableAmounts, -, built⟩ := bind_eq_ok.mp built
  obtain ⟨calculatedTaxes, -, returned⟩ := bind_eq_ok.mp built
  rw [← Except.ok.inj returned]
  constructor
  · exact lookup_of_fields (lookup_of_fields (lookup_of_fields rfl))
  · exact lookup_of_fields (lookup_of_fields (lookup_of_fields rfl))

/-- The date and the time of a journal command are those of the row. -/
theorem journal_date_time {pin : String} {command : Jobs.KraCommand}
    (built : sendReceiptJournal pin transaction = .ok command) :
    command.xml.data.lookup "Date" = some (.str transaction.kraTimestamp.formatDate) ∧
      command.xml.data.lookup "Time" = some (.str transaction.kraTimestamp.formatTime) := by
  obtain ⟨data, payload, rfl⟩ := sendReceiptJournal_eq_ok built
  exact journalPayload_eq_ok payload

/-- The journal of a row can be built whenever its data could be signed. -/
theorem exists_journal_of_signable (signable : Signable transaction.requestPayload)
    (receiptType : textAt transaction.requestPayload "receiptType" =
      .ok transaction.receiptType)
    (transactionType : textAt transaction.requestPayload "transactionType" =
      .ok transaction.transactionType) (pin : String) :
    ∃ command, sendReceiptJournal pin transaction = .ok command := by
  obtain ⟨receipt, receiptText, isReceipt, readReceipt, knownReceipt⟩ := signable.receiptType
  obtain ⟨kind, kindText, isKind, readKind, knownKind⟩ := signable.transactionType
  have sameReceipt : receiptText = transaction.receiptType := Except.ok.inj
    ((textAt_eq_ok.mpr ⟨receipt, isReceipt, readReceipt⟩).symm.trans receiptType)
  have sameKind : kindText = transaction.transactionType := Except.ok.inj
    ((textAt_eq_ok.mpr ⟨kind, isKind, readKind⟩).symm.trans transactionType)
  rw [sameReceipt] at knownReceipt
  rw [sameKind] at knownKind
  obtain ⟨rtype, rtypeOk⟩ := KraFields.getKraReceiptType_returns_iff.mpr knownReceipt
  obtain ⟨ttype, ttypeOk⟩ := KraFields.getKraTransactionType_returns_iff.mpr knownKind
  obtain ⟨taxRates, ratesOk, ratesPlain⟩ :=
    taxTotals_of_formatsTaxes (signable.taxMaps "taxRates" (by simp)) "Rate"
  obtain ⟨taxableAmounts, amountsOk, amountsPlain⟩ :=
    taxTotals_of_formatsTaxes (signable.taxMaps "taxableAmounts" (by simp)) "Amount"
  obtain ⟨calculatedTaxes, taxesOk, taxesPlain⟩ :=
    taxTotals_of_formatsTaxes (signable.taxMaps "calculatedTaxes" (by simp)) "Tax"
  have payload : ∃ data, journalPayload transaction = .ok data ∧
      (data.any fun child => child.2.isArray) = false := by
    refine ⟨_, bind_eq_ok.mpr ⟨rtype, rtypeOk, bind_eq_ok.mpr ⟨ttype, ttypeOk,
      bind_eq_ok.mpr ⟨taxRates, ratesOk, bind_eq_ok.mpr ⟨taxableAmounts, amountsOk,
        bind_eq_ok.mpr ⟨calculatedTaxes, taxesOk, rfl⟩⟩⟩⟩⟩, ?_⟩
    simp only [List.any_append, ratesPlain, amountsPlain, taxesPlain, Bool.or_false]
    rfl
  obtain ⟨data, built, plain⟩ := payload
  exact ⟨_, bind_eq_ok.mpr ⟨data, built,
    bind_eq_ok.mpr ⟨_, buildKraXml_eq_ok.mpr ⟨plain, rfl⟩, rfl⟩⟩⟩

end Journal

section Signing

variable {platform : Platform} {config : KraConfig} {kraApi : KraApi} {sale : Sale}
  {network : Outgoing → Transport} {xmlPayload : KraXml} {response : HttpResponse}

/-- What was sent for signing was built of the sale, for a device that has a target. -/
theorem signingXml_of_sign
    (signed : sign platform config kraApi sale network = .ok (xmlPayload, response)) :
    (∃ pin, sale.device.pin = .ok pin) ∧ (∃ url, targetBaseUrl config sale.device = .ok url) ∧
      signingXml sale = .ok xmlPayload := by
  unfold sign at signed
  split at signed
  next => contradiction
  next => contradiction
  next => contradiction
  next pin url payload hasPin target built =>
    split at signed
    next => contradiction
    next =>
      obtain ⟨rfl, -⟩ := Prod.mk.inj (Except.ok.inj signed)
      exact ⟨⟨pin, hasPin⟩, ⟨url, target⟩, built⟩

theorem signable_of_sign
    (signed : sign platform config kraApi sale network = .ok (xmlPayload, response)) :
    Signable sale.transactionData := by
  obtain ⟨⟨pin, hasPin⟩, -, built⟩ := signingXml_of_sign signed
  exact (signingXml_returns_iff hasPin).mp ⟨xmlPayload, built⟩

/-- What is sent does not depend on what is answered. -/
theorem sign_of_other_answer
    (signed : sign platform config kraApi sale network = .ok (xmlPayload, response))
    (live : kraApi.simulation = none) {platform' : Platform} {transport : Transport}
    {answer : HttpResponse} (answered : KraApi.checkAnswer platform' transport = .ok answer) :
    sign platform' config kraApi sale (fun _ => transport) = .ok (xmlPayload, answer) := by
  obtain ⟨⟨pin, hasPin⟩, ⟨url, target⟩, built⟩ := signingXml_of_sign signed
  exact sign_of_answered hasPin target built live answered

end Signing

/-! ## The date of a receipt -/

/-- The QR code has the date that was written, and the journal the date and the
time. -/
structure KeepsDate (transaction : Transaction) (written : DateTime) : Prop where
  qrCode : (qrFields transaction.kraQrCodeUrl).bind List.head? =
    some written.formatCompactDate
  journal : ∀ pin command, sendReceiptJournal pin transaction = .ok command →
    command.xml.data.lookup "Date" = some (.str written.formatDate) ∧
      command.xml.data.lookup "Time" = some (.str written.formatTime)

/-- A row of a carried date keeps what was written when nothing was carried. -/
theorem keepsDate_iff {transaction : Transaction} {written : DateTime}
    (isWritten : written.IsWritten) (timestamp : transaction.kraTimestamp = written.carried)
    (qrDate : (qrFields transaction.kraQrCodeUrl).bind List.head? =
      some transaction.kraTimestamp.formatCompactDate)
    (journaled : ∃ pin command, sendReceiptJournal pin transaction = .ok command) :
    KeepsDate transaction written ↔ written.IsClockTime := by
  rw [← DateTime.carried_written_iff isWritten]
  constructor
  · intro keeps
    obtain ⟨pin, command, built⟩ := journaled
    obtain ⟨date, time⟩ := journal_date_time built
    obtain ⟨writtenDate, writtenTime⟩ := keeps.journal pin command built
    rw [date, timestamp] at writtenDate
    rw [time, timestamp] at writtenTime
    exact ⟨Value.str.inj (Option.some.inj writtenDate),
      Value.str.inj (Option.some.inj writtenTime)⟩
  · intro same
    have clock : written.IsClockTime := (DateTime.carried_written_iff isWritten).mp same
    have kept : transaction.kraTimestamp = written :=
      timestamp.trans (DateTime.ofFields_of_isClockTime clock)
    refine ⟨?_, ?_⟩
    · rw [qrDate, kept]
    · intro pin command built
      rw [← kept]
      exact journal_date_time built

section Recorded

variable {collate : String → String} {platform : Platform} {config : KraConfig} {sale : Sale}
  {network : Outgoing → Transport} {database queue : Option String}
  {gateway : Gateway collate} {xmlPayload : KraXml} {response : HttpResponse}
  {transaction : Transaction}

/-- Every answer a receipt is recorded for has six written numbers in its `Date` and
`Time`, and the receipt keeps them exactly when they are a day of the calendar and a
time of day. -/
theorem recorded_date_kept_iff
    (signed : sign platform config gateway.kraApi sale network = .ok (xmlPayload, response))
    (recorded : (processTransaction platform config sale network database queue
      gateway).2.transactions.stored = gateway.transactions.stored ++ [transaction]) :
    ∃ dataNode written, signedData platform response = some dataNode ∧
      DateTime.readWritten (kraTimestampText dataNode) = some written ∧
      (KeepsDate transaction written ↔ written.IsClockTime) := by
  obtain ⟨dataNode, kraTimestamp, rnum, receiptType, transactionType, hasData, parses, -,
    receipt, kind, rfl⟩ := readAnswer_eq_ok (readAnswer_of_recorded signed recorded)
  rw [DateTime.createFromFormat_eq_map, Option.map_eq_some_iff] at parses
  obtain ⟨written, read, rfl⟩ := parses
  refine ⟨dataNode, written, hasData, read, ?_⟩
  apply keepsDate_iff (DateTime.isWritten_of_readWritten read) rfl
  · exact head?_qrFields config dataNode written.carried
  · obtain ⟨command, built⟩ : ∃ command, sendReceiptJournal "" (signedTransaction config sale
        dataNode written.carried ⟨rnum, receiptType, transactionType,
          platform.asXML xmlPayload, response.body⟩) = .ok command :=
      exists_journal_of_signable (signable_of_sign signed) receipt kind ""
    exact ⟨"", command, built⟩

end Recorded

/-! ### Sales of bread -/

/-- The theorem at the bread sale, whose date is kept. -/
theorem recorded_date_kept_iff_breadSale :
    ∃ written, DateTime.readWritten (kraTimestampText (signedNode "KRACU1")) = some written ∧
      KeepsDate signedBreadRow written := by
  obtain ⟨dataNode, written, hasData, read, kept⟩ :=
    recorded_date_kept_iff sign_breadSale recorded_breadSale
  obtain rfl := Option.some.inj (hasData.symm.trans (signedData_shopPlatform "P" "KRACU1"))
  refine ⟨written, read, kept.mpr ?_⟩
  have parsed : DateTime.readWritten (kraTimestampText (signedNode "KRACU1")) =
      some ⟨2025, 7, 3, 13, 8, 19⟩ := by decide +kernel
  obtain rfl := Option.some.inj (read.symm.trans parsed)
  exact ⟨by decide, by decide, by decide, by decide⟩

/-- An answer of the 31st of April. -/
def aprilNode : Xml :=
  .element "DATA" ""
    [.element "Snumber" "KRACU1" [], .element "Date" "31/04/2024" [],
      .element "Time" "14:30:25" [], .element "RLabel" "NS" [], .element "TNumber" "1" [],
      .element "Signature" "V249J39CFJ48HE2W" [],
      .element "InternalData" "TE68SLA234J5EAV3N569J2WE" []]

def aprilXml : Xml := .element "KRA" "" [.element "STATUS" "P" [], aprilNode]

def aprilBody : String :=
  "<KRA><STATUS>P</STATUS><DATA><Snumber>KRACU1</Snumber><Date>31/04/2024</Date>" ++
    "<Time>14:30:25</Time><RLabel>NS</RLabel><TNumber>1</TNumber>" ++
    "<Signature>V249J39CFJ48HE2W</Signature>" ++
    "<InternalData>TE68SLA234J5EAV3N569J2WE</InternalData></DATA></KRA>"

def aprilPlatform : Platform := KraApi.platformReading [(aprilBody, aprilXml)]

/-- Its row, of the first of May. -/
def aprilRow : Transaction :=
  signedTransaction shopConfig (breadSale "1") aprilNode ⟨2024, 5, 1, 14, 30, 25⟩
    (receiptTexts aprilPlatform AcceptedRequest.breadSale breadPayload ⟨200, aprilBody⟩)

theorem sign_april :
    sign aprilPlatform shopConfig emptyGateway.kraApi (breadSale "1")
        (fun _ => .answered ⟨200, aprilBody⟩) = .ok (breadPayload, ⟨200, aprilBody⟩) := by
  apply sign_of_other_answer sign_breadSale rfl
  exact KraApi.checkAnswer_eq_ok_iff.mpr ⟨rfl, by decide, aprilXml,
    by simp [aprilPlatform, KraApi.platformReading], by decide⟩

/-- The 31st of April is recorded as the first of May. -/
theorem april_not_kept :
    sign aprilPlatform shopConfig emptyGateway.kraApi (breadSale "1")
        (fun _ => .answered ⟨200, aprilBody⟩) = .ok (breadPayload, ⟨200, aprilBody⟩) ∧
    signedData aprilPlatform ⟨200, aprilBody⟩ = some aprilNode ∧
    DateTime.readWritten (kraTimestampText aprilNode) = some ⟨2024, 4, 31, 14, 30, 25⟩ ∧
    (processTransaction aprilPlatform shopConfig (breadSale "1")
      (fun _ => .answered ⟨200, aprilBody⟩) none none
      emptyGateway).2.transactions.stored = emptyGateway.transactions.stored ++ [aprilRow] ∧
    (qrFields aprilRow.kraQrCodeUrl).bind List.head? = some "01052024" ∧
    ¬ KeepsDate aprilRow ⟨2024, 4, 31, 14, 30, 25⟩ := by
  have hasData : signedData aprilPlatform ⟨200, aprilBody⟩ = some aprilNode := by
    simp only [signedData, aprilPlatform, KraApi.platformReading, List.lookup_cons_self,
      Option.bind_some]
    rfl
  have parses : DateTime.createFromFormat (kraTimestampText aprilNode) =
      some ⟨2024, 5, 1, 14, 30, 25⟩ := by decide +kernel
  have read : readAnswer aprilPlatform shopConfig (breadSale "1") breadPayload
      ⟨200, aprilBody⟩ = .ok aprilRow :=
    readAnswer_of_accepted (breadSale_isRequest "1") hasData parses
  have admitted : emptyGateway.transactions.Admits aprilRow := by decide +kernel
  have code : (qrFields aprilRow.kraQrCodeUrl).bind List.head? = some "01052024" :=
    head?_qrFields shopConfig aprilNode ⟨2024, 5, 1, 14, 30, 25⟩
  refine ⟨sign_april, hasData, by decide +kernel,
    recorded_of_readAnswer sign_april read admitted, code, ?_⟩
  intro keeps
  have other : some "01052024" = some "31042024" := code.symm.trans keeps.qrCode
  exact absurd other (by decide)

end TaxGateway.Sales
