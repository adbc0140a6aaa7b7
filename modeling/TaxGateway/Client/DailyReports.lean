import TaxGateway.Client.PluReports

/-!
Contract: the X and Z reports of the mock server, from the figures of the configuration to
the report that `getXDailyReport` and `generateZDailyReport` return.

Owns:
- the reports that are written for any configuration, and that they are those of
  simulation mode for the shipped one;
- which configurations are read as they were put in.

Does not own: the commands, or how they are answered.
-/

namespace TaxGateway.Client

open TaxGateway.Php
open TaxGateway.Services
open TaxGateway.Services.KraMockServerService
open TaxGateway.Services.KraReportService
open TaxGateway.XmlDocuments

/-! ## The configuration -/

/-- Keys that are written and not read. -/
def unreadKeys : List String :=
  ["taxableAmountA", "taxableAmountB", "taxAmountA", "taxAmountB", "openingDeposit",
    "numberOfItemsSold", "numberOfReceiptCopies", "totalReceiptCopiesAmount",
    "numberOfTrainingReceipts", "totalTrainingReceiptsAmount", "numberOfProformaReceipts",
    "totalProformaReceiptsAmount", "allDiscounts", "otherReductionsAmount",
    "numberOfIncompleteSales"]

/-- `config('kra.simulation_responses.x_report')` or `…z_report`. `unread` are the figures
under the other keys. -/
structure DailyData where
  tradeName : String
  taxpayerPin : String
  date : String
  time : String
  reportType : String
  totalSalesAmountNS : Figure
  numberOfSalesReceiptsNS : Int
  totalCreditNoteAmountNC : Figure
  numberOfCreditNotesNC : Int
  unread : String → Figure

namespace DailyData

/-- The figures under their keys, as they are added. -/
def figures (data : DailyData) : List (String × Figure) :=
  [("totalSalesAmountNS", data.totalSalesAmountNS),
    ("numberOfSalesReceiptsNS", .int data.numberOfSalesReceiptsNS),
    ("totalCreditNoteAmountNC", data.totalCreditNoteAmountNC),
    ("numberOfCreditNotesNC", .int data.numberOfCreditNotesNC)] ++
    unreadKeys.map fun key => (key, data.unread key)

/-- The children that are added to `DATA`. -/
def fields (data : DailyData) : List (String × String) :=
  [("tradeName", data.tradeName), ("PIN", data.taxpayerPin), ("date", data.date),
    ("time", data.time), ("reportType", data.reportType)] ++
    data.figures.map fun figure => (figure.1, figure.2.text)

/-- The report as it should be returned. -/
def configured (data : DailyData) : DailyReport where
  tradeName := data.tradeName
  taxpayerPin := data.taxpayerPin
  reportDate := data.date
  reportTime := data.time
  reportType := data.reportType
  totalSalesAmountNS := data.totalSalesAmountNS.value
  numberOfSalesReceiptsNS := data.numberOfSalesReceiptsNS
  totalCreditNoteAmountNC := data.totalCreditNoteAmountNC.value
  numberOfCreditNotesNC := data.numberOfCreditNotesNC

/-- The report as it is read: figures are the numbers that their texts start with. -/
def read (data : DailyData) : DailyReport where
  tradeName := data.tradeName
  taxpayerPin := data.taxpayerPin
  reportDate := data.date
  reportTime := data.time
  reportType := data.reportType
  totalSalesAmountNS := floatval data.totalSalesAmountNS.text
  numberOfSalesReceiptsNS := intval (toString data.numberOfSalesReceiptsNS)
  totalCreditNoteAmountNC := floatval data.totalCreditNoteAmountNC.text
  numberOfCreditNotesNC := intval (toString data.numberOfCreditNotesNC)

def texts (data : DailyData) : List String :=
  [data.tradeName, data.taxpayerPin, data.date, data.time, data.reportType]

/-- Texts are legal XML characters, and counts are PHP integers. -/
structure IsLegal (data : DailyData) : Prop where
  texts : ∀ text ∈ data.texts, text.toList.all isChar = true
  sales : -2 ^ 63 ≤ data.numberOfSalesReceiptsNS ∧ data.numberOfSalesReceiptsNS < 2 ^ 63
  creditNotes : -2 ^ 63 ≤ data.numberOfCreditNotesNC ∧ data.numberOfCreditNotesNC < 2 ^ 63

/-- No `&` in a text, and two amounts that are written without a loss. -/
def IsKept (data : DailyData) : Prop :=
  (∀ text ∈ data.texts, '&' ∉ text.toList) ∧ data.totalSalesAmountNS.IsKept ∧
    data.totalCreditNoteAmountNC.IsKept

end DailyData

/-- A 64-bit integer is read back as it was written. -/
theorem intval_toString {n : Int} (low : -2 ^ 63 ≤ n) (high : n < 2 ^ 63) :
    intval (toString n) = n := by
  have read := floatval_toString n
  unfold floatval at read
  unfold intval
  cases leading : numericPrefix (toString n) with
  | none =>
      rw [leading] at read
      have isZero : (n : ℚ) = 0 := read.symm
      exact (Int.cast_eq_zero.mp isZero).symm
  | some number =>
      rw [leading] at read
      have isNumber : number.1 = (n : ℚ) := read
      have whole : number.1.num.tdiv number.1.den = n := by
        rw [isNumber]
        simp
      dsimp only
      rw [whole]
      omega

/-! ## The reports -/

/-- The document, as it is built for a PIN. -/
def dailyTree (command : String) (data : DailyData) (pin : String) : Option Node := do
  let text ← pinText pin
  let dataNodes ← data.fields.mapM fun child => addChild child.1 child.2
  return report command text dataNodes

def generateDailyReport (command : String) (data : DailyData) (pin : String) :
    Except Throwable String :=
  match dailyTree command data pin with
  | none =>
      .error (.exception "SimpleXMLElement::addChild(): unterminated entity reference")
  | some tree => .ok (asXML tree)

/-- `KraMockServerService::generateXReportResponse`, for any configuration. -/
def generateXReportResponse : DailyData → String → Except Throwable String :=
  generateDailyReport "X_REPORT"

/-- `KraMockServerService::generateZReportResponse`, for any configuration. -/
def generateZReportResponse : DailyData → String → Except Throwable String :=
  generateDailyReport "Z_REPORT"

/-! ## What is written -/

namespace DailyData

variable {data written : DailyData}

/-- The configuration with its texts as `addChild` makes them. -/
def decoded (data : DailyData) : Option DailyData := do
  let tradeName ← decodedText data.tradeName
  let taxpayerPin ← decodedText data.taxpayerPin
  let date ← decodedText data.date
  let time ← decodedText data.time
  let reportType ← decodedText data.reportType
  return { data with tradeName, taxpayerPin, date, time, reportType }

/-- The children that are written. -/
def elements (written : DailyData) : List Node :=
  written.fields.map fun child => childNode child.1 child.2

theorem mapM_addChild_figures (figures : List (String × Figure)) :
    (figures.map fun figure => (figure.1, figure.2.text)).mapM
        (fun child => addChild child.1 child.2) =
      some ((figures.map fun figure => (figure.1, figure.2.text)).map fun child =>
        childNode child.1 child.2) := by
  rw [mapM_eq_some_map_iff]
  intro child member
  obtain ⟨figure, -, rfl⟩ := List.mem_map.mp member
  rw [addChild_eq, decodedText_figure]
  rfl

theorem mapM_addChild_fields (data : DailyData) :
    data.fields.mapM (fun child => addChild child.1 child.2) = data.decoded.map elements := by
  rw [fields, List.mapM_append, mapM_addChild_figures]
  simp only [List.mapM_cons, List.mapM_nil, addChild_eq, decoded]
  cases decodedText data.tradeName with
  | none => rfl
  | some tradeName =>
    cases decodedText data.taxpayerPin with
    | none => rfl
    | some taxpayerPin =>
      cases decodedText data.date with
      | none => rfl
      | some date =>
        cases decodedText data.time with
        | none => rfl
        | some time => cases decodedText data.reportType <;> rfl

/-- The texts that are written are legal. -/
theorem all_isChar_of_decoded (isDecoded : data.decoded = some written) :
    ∀ child ∈ written.fields, child.2.toList.all isChar = true := by
  obtain ⟨tradeName, isName, isDecoded⟩ := Option.bind_eq_some_iff.mp isDecoded
  obtain ⟨taxpayerPin, isPin, isDecoded⟩ := Option.bind_eq_some_iff.mp isDecoded
  obtain ⟨date, isDate, isDecoded⟩ := Option.bind_eq_some_iff.mp isDecoded
  obtain ⟨time, isTime, isDecoded⟩ := Option.bind_eq_some_iff.mp isDecoded
  obtain ⟨reportType, isType, isDecoded⟩ := Option.bind_eq_some_iff.mp isDecoded
  obtain rfl := Option.some.inj isDecoded
  intro child member
  rw [fields] at member
  rcases List.mem_append.mp member with isText | isFigure
  · have legal := isText
    simp only [List.mem_cons, List.not_mem_nil, or_false] at legal
    rcases legal with rfl | rfl | rfl | rfl | rfl
    · exact all_isChar_of_decodedText isName
    · exact all_isChar_of_decodedText isPin
    · exact all_isChar_of_decodedText isDate
    · exact all_isChar_of_decodedText isTime
    · exact all_isChar_of_decodedText isType
  · obtain ⟨figure, -, rfl⟩ := List.mem_map.mp isFigure
    exact all_isChar_of_decodedText (decodedText_figure figure.2)

theorem isPlainName_fields (data : DailyData) :
    ∀ child ∈ data.fields, isPlainName child.1.toList = true := by
  have names : ∀ name ∈ data.fields.map Prod.fst, isPlainName name.toList = true := by
    have areNames : data.fields.map Prod.fst =
        ["tradeName", "PIN", "date", "time", "reportType", "totalSalesAmountNS",
          "numberOfSalesReceiptsNS", "totalCreditNoteAmountNC", "numberOfCreditNotesNC"] ++
          unreadKeys := rfl
    rw [areNames]
    decide
  exact fun child member => names child.1 (List.mem_map_of_mem member)

/-- `DATA`, as it is read. -/
def xml (written : DailyData) : Xml :=
  .element "DATA" "" (written.fields.map fun child => .element child.1 child.2 [])

theorem readDailyReport_xml (written : DailyData) (reportType : String) :
    readDailyReport reportType written.xml = written.read := rfl

/-- Of the figures, the counts are always read as they should be returned. -/
theorem read_eq_configured_iff (legal : data.IsLegal) :
    data.read = data.configured ↔
      data.totalSalesAmountNS.IsKept ∧ data.totalCreditNoteAmountNC.IsKept := by
  have sales := intval_toString legal.sales.1 legal.sales.2
  have creditNotes := intval_toString legal.creditNotes.1 legal.creditNotes.2
  simp only [read, configured, DailyReport.mk.injEq, sales, creditNotes, true_and, and_true,
    Figure.floatval_text_eq_iff]

theorem isKept_iff (legal : data.IsLegal) :
    data.IsKept ↔ (∀ text ∈ data.texts, decodedText text = some text) ∧
      data.read = data.configured := by
  have texts : (∀ text ∈ data.texts, decodedText text = some text) ↔
      ∀ text ∈ data.texts, '&' ∉ text.toList :=
    forall₂_congr fun text member => decodedText_eq_self_iff (legal.texts text member)
  rw [IsKept, texts, read_eq_configured_iff legal]

theorem decoded_of_texts (same : ∀ text ∈ data.texts, decodedText text = some text) :
    data.decoded = some data := by
  rw [decoded, same _ (by simp [texts]), same _ (by simp [texts]), same _ (by simp [texts]),
    same _ (by simp [texts]), same _ (by simp [texts])]
  rfl

/-- A configuration is kept exactly when it is read as it should be returned. -/
theorem map_read_decoded_iff (legal : data.IsLegal) :
    data.decoded.map read = some data.configured ↔ data.IsKept := by
  rw [isKept_iff legal]
  constructor
  · intro same
    obtain ⟨written, isWritten, isConfigured⟩ := Option.map_eq_some_iff.mp same
    obtain ⟨tradeName, isName, isWritten⟩ := Option.bind_eq_some_iff.mp isWritten
    obtain ⟨taxpayerPin, isPin, isWritten⟩ := Option.bind_eq_some_iff.mp isWritten
    obtain ⟨date, isDate, isWritten⟩ := Option.bind_eq_some_iff.mp isWritten
    obtain ⟨time, isTime, isWritten⟩ := Option.bind_eq_some_iff.mp isWritten
    obtain ⟨reportType, isType, isWritten⟩ := Option.bind_eq_some_iff.mp isWritten
    obtain rfl := Option.some.inj isWritten
    have sameName : tradeName = data.tradeName := congrArg DailyReport.tradeName isConfigured
    have samePin : taxpayerPin = data.taxpayerPin :=
      congrArg DailyReport.taxpayerPin isConfigured
    have sameDate : date = data.date := congrArg DailyReport.reportDate isConfigured
    have sameTime : time = data.time := congrArg DailyReport.reportTime isConfigured
    have sameType : reportType = data.reportType := congrArg DailyReport.reportType isConfigured
    subst sameName samePin sameDate sameTime sameType
    refine ⟨?_, isConfigured⟩
    simp [texts, isName, isPin, isDate, isTime, isType]
  · rintro ⟨same, isConfigured⟩
    rw [decoded_of_texts same, Option.map_some, isConfigured]

end DailyData

section Reports

variable {command pin : String} {data written : DailyData} {text : List Char}

/-- A report is written when the PIN and the texts can be added. -/
theorem dailyTree_eq (command : String) (data : DailyData) (pin : String) :
    dailyTree command data pin = (pinText pin).bind fun text =>
      data.decoded.map fun written => report command text written.elements := by
  rw [dailyTree, data.mapM_addChild_fields]
  cases pinText pin with
  | none => rfl
  | some text => cases data.decoded <;> rfl

/-- A report that is written is read, with its data. -/
theorem exists_read_of_dailyReport (legal : command.toList.all isChar = true)
    (isText : pinText pin = some text) (isDecoded : data.decoded = some written) :
    ∃ parsed, readDeclaredXml (asXML (report command text written.elements)) = some parsed ∧
      parsed.child? "DATA" = some written.xml := by
  have children : allPlain written.elements = true :=
    allPlain_children fun child member =>
      ⟨written.isPlainName_fields child member,
        DailyData.all_isChar_of_decoded isDecoded child member⟩
  have plain : (report command text written.elements).isPlain = true := by
    simp only [report, MockTree.field, Node.isPlain, allPlain, legal, children,
      all_isChar_of_addedText isText]
    decide
  refine ⟨_, readDeclaredXml_asXML plain, ?_⟩
  have data : MockTree.elementsOf written.elements = written.xml.children :=
    elementsOf_children written.isPlainName_fields
  have noText : MockTree.directText written.elements = [] := directText_children written.fields
  simp only [MockTree.elementsOf, MockTree.elements, MockTree.field, data, noText]
  rfl

/-- The report is parsed, and says what the configuration says. -/
def IsReadBack (platform : Platform) (generated : Except Throwable String) (reportType : String)
    (data : DailyData) : Prop :=
  ∃ body parsed dataNode, generated = .ok body ∧
    platform.simplexmlLoadString body = some parsed ∧
    parsed.child? "DATA" = some dataNode ∧
    readDailyReport reportType dataNode = data.configured

variable {platform : Platform} {reportType : String}

theorem isReadBack_iff (legalCommand : command.toList.all isChar = true)
    (reads : ∀ text xml, readDeclaredXml text = some xml →
      platform.simplexmlLoadString text = some xml)
    (legal : data.IsLegal) (pin reportType : String) :
    IsReadBack platform (generateDailyReport command data pin) reportType data ↔
      (pinText pin).isSome = true ∧ data.IsKept := by
  rw [← DailyData.map_read_decoded_iff legal]
  constructor
  · rintro ⟨body, parsed, dataNode, isBody, isParsed, isData, same⟩
    unfold generateDailyReport at isBody
    split at isBody
    next => cases isBody
    next tree isTree =>
      obtain rfl := Except.ok.inj isBody
      rw [dailyTree_eq] at isTree
      obtain ⟨text, isText, isTree⟩ := Option.bind_eq_some_iff.mp isTree
      obtain ⟨written, isDecoded, rfl⟩ := Option.map_eq_some_iff.mp isTree
      obtain ⟨other, isRead, isOther⟩ := exists_read_of_dailyReport legalCommand isText isDecoded
      obtain rfl := Option.some.inj ((reads _ _ isRead).symm.trans isParsed)
      obtain rfl := Option.some.inj (isOther.symm.trans isData)
      rw [isText, isDecoded, Option.map_some, ← same, DailyData.readDailyReport_xml]
      exact ⟨rfl, rfl⟩
  · rintro ⟨hasText, isConfigured⟩
    obtain ⟨text, isText⟩ := Option.isSome_iff_exists.mp hasText
    obtain ⟨written, isDecoded, same⟩ := Option.map_eq_some_iff.mp isConfigured
    obtain ⟨parsed, isRead, isData⟩ := exists_read_of_dailyReport legalCommand isText isDecoded
    refine ⟨_, parsed, _, ?_, reads _ _ isRead, isData, ?_⟩
    · rw [generateDailyReport, dailyTree_eq, isText, Option.bind_some, isDecoded]
      rfl
    · rw [DailyData.readDailyReport_xml, same]

/-- Both reports say what the configuration says if `addChild` takes the PIN, no text has an
`&`, and neither amount that is read has too many digits. The other figures are written, and
cannot fail. -/
theorem daily_reports_read_back_iff
    (reads : ∀ text xml, readDeclaredXml text = some xml →
      platform.simplexmlLoadString text = some xml)
    (legal : data.IsLegal) (pin : String) :
    (IsReadBack platform (generateXReportResponse data pin) "X_DAILY_REPORT" data ↔
        (pinText pin).isSome = true ∧ data.IsKept) ∧
      (IsReadBack platform (generateZReportResponse data pin) "Z_DAILY_REPORT" data ↔
        (pinText pin).isSome = true ∧ data.IsKept) :=
  ⟨isReadBack_iff (by decide) reads legal pin _, isReadBack_iff (by decide) reads legal pin _⟩

end Reports

/-! ## The shipped configuration -/

/-- `config('kra.simulation_responses.x_report')` as it is shipped, and `…z_report` with
another time and type. -/
def shippedDaily (time reportType : String) : DailyData where
  tradeName := "ICORE Test Business"
  taxpayerPin := "P123456789Z"
  date := "05/01/2025"
  time := time
  reportType := reportType
  totalSalesAmountNS := .float 15000
  numberOfSalesReceiptsNS := 25
  totalCreditNoteAmountNC := .float (-500)
  numberOfCreditNotesNC := 2
  unread key :=
    (([("taxableAmountA", .float 0), ("taxableAmountB", .float 12000), ("taxAmountA", .float 0),
      ("taxAmountB", .float 1920), ("openingDeposit", .float 1000),
      ("numberOfItemsSold", .int 150), ("numberOfReceiptCopies", .int 5),
      ("totalReceiptCopiesAmount", .float 250), ("numberOfTrainingReceipts", .int 3),
      ("totalTrainingReceiptsAmount", .float 750), ("numberOfProformaReceipts", .int 2),
      ("totalProformaReceiptsAmount", .float 500), ("allDiscounts", .float 300),
      ("otherReductionsAmount", .float 0), ("numberOfIncompleteSales", .int 1)] :
        List (String × Figure)).lookup key).getD (.int 0)

def shippedXReport : DailyData := shippedDaily "14:30:00" "X_DAILY_REPORT"

def shippedZReport : DailyData := shippedDaily "23:59:59" "Z_DAILY_REPORT"

/-- Its figures, as they are written. -/
theorem fields_shipped :
    shippedXReport.fields = dailyData "14:30:00" "X_DAILY_REPORT" ∧
      shippedZReport.fields = dailyData "23:59:59" "Z_DAILY_REPORT" := by
  decide +kernel

theorem isLegal_shipped : ∀ data ∈ [shippedXReport, shippedZReport], data.IsLegal := by
  have texts : ∀ data ∈ [shippedXReport, shippedZReport], ∀ text ∈ data.texts,
      text.toList.all isChar = true := by
    decide +kernel
  have counts : ∀ data ∈ [shippedXReport, shippedZReport],
      data.numberOfSalesReceiptsNS = 25 ∧ data.numberOfCreditNotesNC = 2 := by
    decide +kernel
  intro data member
  obtain ⟨sales, creditNotes⟩ := counts data member
  exact ⟨texts data member, by omega, by omega⟩

theorem isKept_shipped : ∀ data ∈ [shippedXReport, shippedZReport], data.IsKept := by
  have texts : ∀ data ∈ [shippedXReport, shippedZReport], ∀ text ∈ data.texts,
      '&' ∉ text.toList := by
    decide +kernel
  have amounts : ∀ data ∈ [shippedXReport, shippedZReport],
      floatval data.totalSalesAmountNS.text = data.totalSalesAmountNS.value ∧
        floatval data.totalCreditNoteAmountNC.text = data.totalCreditNoteAmountNC.value := by
    decide +kernel
  intro data member
  obtain ⟨sales, creditNotes⟩ := amounts data member
  exact ⟨texts data member, Figure.floatval_text_eq_iff.mp sales,
    Figure.floatval_text_eq_iff.mp creditNotes⟩

/-- A configuration that is kept is written as it is. -/
theorem generateDailyReport_of_isKept {command : String} {data : DailyData}
    (legal : data.IsLegal) (isKept : data.IsKept) (pin : String) :
    generateDailyReport command data pin =
      generateReport (fun text => report command text data.elements) pin := by
  have same := ((DailyData.isKept_iff legal).mp isKept).1
  rw [generateDailyReport, generateReport, dailyTree_eq, DailyData.decoded_of_texts same]
  cases pinText pin <;> rfl

/-- For the shipped configuration they are the reports that simulation mode answers with. -/
theorem generateDailyReport_shipped (pin : String) :
    generateXReportResponse shippedXReport pin = generateReport xReport pin ∧
      generateZReportResponse shippedZReport pin = generateReport zReport pin := by
  have x := @generateDailyReport_of_isKept "X_REPORT" _
    (isLegal_shipped shippedXReport (by simp)) (isKept_shipped shippedXReport (by simp)) pin
  have z := @generateDailyReport_of_isKept "Z_REPORT" _
    (isLegal_shipped shippedZReport (by simp)) (isKept_shipped shippedZReport (by simp)) pin
  rw [DailyData.elements, fields_shipped.1] at x
  rw [DailyData.elements, fields_shipped.2] at z
  exact ⟨x, z⟩

theorem daily_reports_read_back_iff_shipped :
    IsReadBack declaredReader (generateXReportResponse shippedXReport "P051234567X")
      "X_DAILY_REPORT" shippedXReport :=
  (daily_reports_read_back_iff (fun _ _ read => (declaredReader_reads _).trans read)
    (isLegal_shipped shippedXReport (by simp)) "P051234567X").1.mpr
      ⟨pinText_shop, isKept_shipped shippedXReport (by simp)⟩

end TaxGateway.Client
