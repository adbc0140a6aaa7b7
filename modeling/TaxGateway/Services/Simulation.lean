import TaxGateway.Foundations.XmlDocuments
import TaxGateway.Services.Payloads
import TaxGateway.Services.Session

/-!
Contract: the answers of simulation mode.

Owns:
- the trees of the mock answers and the bodies made of them, with the one whose end
  tag is cut;
- the reports of `KraMockServerService`, which add the PIN unescaped;
- which answer a command gets, from an XML and from a JSON payload;
- what a parser has to read of them.

Does not own: what the services make of an answer.
-/

namespace TaxGateway.Services

open TaxGateway.Php
open TaxGateway.XmlDocuments

/-! ## Trees -/

namespace MockTree

/-- An element with a text. -/
def field (name text : String) : Node :=
  .element name.toList [.text text.toList]

/-- Children on lines of their own, indented by steps of four. -/
def indented (depth : Nat) (children : List Node) : List Node :=
  (children.flatMap fun child =>
      [.text ('\n' :: List.replicate (4 * depth) ' '), child]) ++
    [.text ('\n' :: List.replicate (4 * (depth - 1)) ' ')]

def group (depth : Nat) (name : String) (children : List Node) : Node :=
  .element name.toList (indented depth children)

/-- The frame of every mock answer. -/
def root (data : List Node) : Node :=
  group 1 "root" [field "STATUS" "P", group 2 "DATA" data]

/-- The text directly below an element. -/
def directText (children : List Node) : List Char :=
  children.flatMap fun child =>
    match child with
    | .text characters => characters
    | .element _ _ => []

mutual

/-- What a parser reads of a node. -/
def elements : Node → List Xml
  | .text _ => []
  | .element name children =>
      [.element (String.ofList name) (String.ofList (directText children)) (elementsOf children)]

def elementsOf : List Node → List Xml
  | [] => []
  | node :: rest => elements node ++ elementsOf rest

end

/-- The texts between fields make no element. -/
theorem elementsOf_indented_fields (depth : Nat) (fields : List (String × String)) :
    elementsOf (indented depth (fields.map fun entry => field entry.1 entry.2)) =
      fields.map fun entry => .element entry.1 entry.2 [] := by
  induction fields with
  | nil => rfl
  | cons entry rest inductionHypothesis =>
      have first : elements (field entry.1 entry.2) = [.element entry.1 entry.2 []] := by
        simp [field, elements, elementsOf, directText]
      have behind : indented depth ((entry :: rest).map fun entry => field entry.1 entry.2) =
          .text ('\n' :: List.replicate (4 * depth) ' ') :: field entry.1 entry.2 ::
            indented depth (rest.map fun entry => field entry.1 entry.2) := rfl
      rw [behind, elementsOf, elementsOf, first, inductionHypothesis]
      rfl

/-- A field is read by its name. -/
theorem childText_of_fields {element : Xml} {depth : Nat} {fields : List (String × String)}
    (children : element.children =
      elementsOf (indented depth (fields.map fun entry => field entry.1 entry.2)))
    {name text : String} (found : fields.lookup name = some text) :
    element.childText name = text := by
  rw [elementsOf_indented_fields] at children
  rw [Xml.childText, Xml.child?, children]
  clear children
  induction fields with
  | nil => cases found
  | cons entry rest inductionHypothesis =>
      by_cases same : entry.1 = name
      · have isText : entry.2 = text := by
          rw [List.lookup_cons, same, beq_self_eq_true] at found
          exact Option.some.inj found
        simp [Xml.name, Xml.text, same, isText]
      · have different : (name == entry.1) = false := by simpa using Ne.symm same
        rw [List.lookup_cons, different] at found
        simpa [Xml.name, same] using inductionHypothesis found

end MockTree

open MockTree

/-! ## Bodies -/

def htmlspecialchars (c : Char) : List Char :=
  if c = '&' then "&amp;".toList
  else if c = '<' then "&lt;".toList
  else if c = '>' then "&gt;".toList
  else if c = '\x22' then "&quot;".toList
  else if c = '\x27' then "&#039;".toList
  else [c]

def declaration : String := "<?xml version=\"1.0\" encoding=\"UTF-8\"?>\n"

/-- A mock answer as its literal has it. -/
def mockBody (tree : Node) : String :=
  declaration ++ String.ofList (tree.write htmlspecialchars)

/-- `SimpleXMLElement::asXML` of a document made from that declaration. -/
def asXML (tree : Node) : String :=
  declaration ++ String.ofList (tree.write (escapeChar true)) ++ "\n"

namespace KraApi

def mockInit : Node :=
  root
    [field "branchOfficeId" "00", field "deviceType" "VSCU", field "deviceStatus" "ACTIVE",
      field "lastSyncTime" "20250704120000", field "SCU_ID" "KRACU000000001"]

def getMockInitResponseJson : String :=
  "\x7b\"resultCd\":\"000\",\"resultMsg\":\"SUCCESS\",\"data\":\x7b\"branchOfficeId\":\"00\"," ++
    "\"deviceType\":\"VSCU\",\"deviceStatus\":\"ACTIVE\",\"lastSyncTime\":\"20250704120000\"," ++
    "\"SCU_ID\":\"KRACU000000001\"\x7d\x7d"

def mockSendItem : Node :=
  root
    [field "message" "Item registered successfully", field "itemCode" "ITEM001",
      field "registrationDate" "20250704120000"]

def mockRecvItem : Node :=
  root
    [field "itemCd" "ITEM001", field "itemClsCd" "CLS001", field "itemNm" "Sample Item",
      field "itemTyCd" "2", field "taxTyCd" "B", field "InitlWhUntpc" "100.00",
      field "dfltDlUntpc" "120.00", field "useYn" "Y"]

/-- Its last end tag lacks the `>`. -/
def getMockRecvItemResponse : String :=
  String.ofList (mockBody mockRecvItem).toList.dropLast

def mockSendPurchase (now : DateTime) : Node :=
  root
    [field "message" "Purchase data sent successfully",
      field "invoiceId" ("INV" ++ now.formatYmdHis), field "registrationDate" now.formatYmdHis,
      field "status" "SUCCESS"]

def mockRecvPurchase : Node :=
  root
    [group 3 "purchases"
      [group 4 "purchase"
        [field "invoiceId" "INV20250704120000", field "invoiceDate" "20250704",
          field "customerName" "John Doe", field "customerPin" "A123456789B",
          field "totalAmount" "1500.00", field "taxAmount" "225.00",
          group 5 "items"
            [group 6 "item"
              [field "itemCode" "ITEM001", field "itemName" "Sample Product",
                field "quantity" "2", field "unitPrice" "750.00", field "totalPrice" "1500.00",
                field "taxRate" "15.00", field "taxAmount" "225.00"]]]]]

def mockSendInventory (now : DateTime) : Node :=
  root
    [field "message" "Inventory movement data sent successfully", field "itemCode" "ITEM001",
      field "branchId" "00", field "quantity" "100", field "updateDate" now.formatYmdHis,
      field "status" "SUCCESS"]

/-- An `item` of the stock. -/
def mockStockItem (bhfId itemClsCd itemCd itemNm qty : String) : Node :=
  group 4 "item"
    [field "bhfId" bhfId, field "itemClsCd" itemClsCd, field "itemCd" itemCd,
      field "itemNm" itemNm, field "qty" qty, field "updDt" "20250705120000",
      field "lastSyncTime" "20250705120000"]

def mockRecvInventory : Node :=
  root
    [group 3 "inventory"
      [mockStockItem "00" "3026530000" "ITEM001" "Sample Product" "150",
        mockStockItem "01" "3026530001" "ITEM002" "Another Product" "75"]]

def mockSendReceipt (now : DateTime) : Node :=
  root
    [field "Snumber" "KRACU000000001", field "Date" now.formatDate, field "Time" now.formatTime,
      field "RLabel" "NS", field "TNumber" "152", field "GNumber" "1001",
      field "Signature" "ABC123SIGNATUREXYZ", field "InternalData" "INTDATA123456"]

def mockSendReceiptItem : Node :=
  root [field "message" "Receipt item journaled successfully", field "status" "SUCCESS"]

def mockGeneric (now : DateTime) (command : String) : Node :=
  root
    [field "message" "Command executed successfully", field "command" command,
      field "timestamp" now.formatYmdHis]

end KraApi

/-! ## Reports -/

namespace KraMockServerService

/-- A reference that `addChild` drops: without a name, or to the character zero. -/
def refersToNothing : List Char → Bool
  | [] => true
  | '#' :: 'x' :: digits => digits.all (· = '0')
  | '#' :: digits => digits.all (· = '0')
  | _ => false

/-- The text of a child that `addChild` adds with the value unescaped: references are
resolved. `none` when that raises a warning, for an `&` that starts no reference, or
when what is written then is refused by every parser, for an entity that is not
declared or an illegal character. -/
def addedText : List Char → Nat → Option (List Char)
  | _, 0 => none
  | [], _ + 1 => some []
  | c :: rest, fuel + 1 =>
      if c = '&' then do
        let inner := rest.takeWhile (· ≠ ';')
        let _ ← (rest.drop inner.length).head?
        let others ← addedText (rest.drop (inner.length + 1)) fuel
        if refersToNothing inner then return others
        else return (← referredChar inner) :: others
      else if isChar c then (addedText rest fuel).map (c :: ·)
      else none

/-- The PIN as the reports hold it. The library ends a text at `NUL`. -/
def pinText (pin : String) : Option (List Char) :=
  addedText (pin.toList.takeWhile (· ≠ '\x00')) (pin.length + 1)

/-- The frame of a report. -/
def report (command : String) (pin : List Char) (data : List Node) : Node :=
  .element "KRA".toList
    [field "CMD" command, .element "PIN".toList [.text pin], .element "DATA".toList data]

/-- `config('kra.simulation_responses.x_report')` and `…z_report`, which differ in
their time and type. -/
def dailyData (time reportType : String) : List (String × String) :=
  [("tradeName", "ICORE Test Business"), ("PIN", "P123456789Z"), ("date", "05/01/2025"),
    ("time", time), ("reportType", reportType), ("totalSalesAmountNS", "15000"),
    ("numberOfSalesReceiptsNS", "25"), ("totalCreditNoteAmountNC", "-500"),
    ("numberOfCreditNotesNC", "2"), ("taxableAmountA", "0"), ("taxableAmountB", "12000"),
    ("taxAmountA", "0"), ("taxAmountB", "1920"), ("openingDeposit", "1000"),
    ("numberOfItemsSold", "150"), ("numberOfReceiptCopies", "5"),
    ("totalReceiptCopiesAmount", "250"), ("numberOfTrainingReceipts", "3"),
    ("totalTrainingReceiptsAmount", "750"), ("numberOfProformaReceipts", "2"),
    ("totalProformaReceiptsAmount", "500"), ("allDiscounts", "300"),
    ("otherReductionsAmount", "0"), ("numberOfIncompleteSales", "1")]

def dailyReport (command time reportType : String) (pin : List Char) : Node :=
  report command pin ((dailyData time reportType).map fun entry => field entry.1 entry.2)

def xReport : List Char → Node := dailyReport "X_REPORT" "14:30:00" "X_DAILY_REPORT"

def zReport : List Char → Node := dailyReport "Z_REPORT" "23:59:59" "Z_DAILY_REPORT"

/-- An entry of `config('kra.simulation_responses.plu_report.items')`. -/
def pluItem (itemCode itemName unitPrice taxRate quantitySold amountCollected
    remainQuantityInStock : String) : Node :=
  .element "item".toList
    [field "itemCode" itemCode, field "itemName" itemName, field "unitPrice" unitPrice,
      field "taxRate" taxRate, field "quantitySold" quantitySold,
      field "amountCollected" amountCollected,
      field "remainQuantityInStock" remainQuantityInStock]

def pluReport (pin : List Char) : Node :=
  report "PLU_REPORT" pin
    [field "companyName" "ICORE Test Business", field "taxIdentificationNumber" "P123456789Z",
      field "intervalDate" "20250105", field "intervalTime" "143000",
      field "reportType" "PLU_REPORT",
      .element "items".toList
        [pluItem "ITEM001" "Test Product 1" "100" "16" "50" "5800" "150",
          pluItem "ITEM002" "Test Product 2" "75" "16" "30" "2610" "70",
          pluItem "ITEM003" "Test Product 3" "200" "0" "25" "5000" "75"]]

/-- The report for a PIN, written with it. -/
def generateReport (tree : List Char → Node) (pin : String) : Except Throwable String :=
  match pinText pin with
  | none =>
      .error (.exception "SimpleXMLElement::addChild(): unterminated entity reference")
  | some text => .ok (asXML (tree text))

end KraMockServerService

/-! ## Commands -/

namespace KraApi

open KraMockServerService

/-- `generateMockResponse($command, $payload)`; `pin` is the PIN read from the
payload. -/
def generateMockResponse (now : DateTime) (command pin : String) : Except Throwable String :=
  if command = "X_REPORT" then generateReport xReport pin
  else if command = "Z_REPORT" then generateReport zReport pin
  else if command = "PLU_REPORT" then generateReport pluReport pin
  else if command = "selectInitOsdcInfo" then .ok (mockBody mockInit)
  else if command = "selectInitInfo" then .ok getMockInitResponseJson
  else if command = "SEND_ITEM" then .ok (mockBody mockSendItem)
  else if command = "RECV_ITEM" then .ok getMockRecvItemResponse
  else if command = "SEND_PURCHASE" then .ok (mockBody (mockSendPurchase now))
  else if command = "RECV_PURCHASE" then .ok (mockBody mockRecvPurchase)
  else if command = "SEND_INVENTORY" then .ok (mockBody (mockSendInventory now))
  else if command = "RECV_INVENTORY" then .ok (mockBody mockRecvInventory)
  else if command = "SEND_RECEIPT" then .ok (mockBody (mockSendReceipt now))
  else if command = "SEND_RECEIPTITEM" then .ok (mockBody mockSendReceiptItem)
  else .ok (mockBody (mockGeneric now command))

/-- The answer made of a mock response. -/
def mockAnswer (body : String) : HttpResponse := ⟨200, body⟩

/-- `getSimulatedResponse($endpoint, $payload)` of an XML payload. -/
def getSimulatedResponse (now : DateTime) (_endpoint : String) (payload : KraXml) :
    Except Throwable HttpResponse :=
  (generateMockResponse now payload.command payload.pin).map mockAnswer

/-- `$decodedPayload[$first] ?? $decodedPayload[$second] ?? … ?? $fallback`. -/
def firstText (payload : List (String × Value)) (fallback : String) :
    List String → String
  | [] => fallback
  | key :: rest =>
      match payload.lookup key with
      | some (.str text) => text
      | _ => firstText payload fallback rest

/-- `getSimulatedResponse` of a JSON payload. -/
def getSimulatedJsonResponse (now : DateTime) (_endpoint : String)
    (payload : List (String × Value)) : Except Throwable HttpResponse :=
  (generateMockResponse now (firstText payload "UNKNOWN" ["CMD", "command", "tin"])
    (firstText payload "" ["PIN", "tin"])).map mockAnswer

end KraApi

/-! ## Where answers start and end -/

namespace KraApi

theorem toList_mockBody (tree : Node) :
    (mockBody tree).toList = declaration.toList ++ tree.write htmlspecialchars := by
  rw [mockBody, String.toList_append, String.toList_ofList]

theorem toList_asXML (tree : Node) :
    (asXML tree).toList = declaration.toList ++ tree.write (escapeChar true) ++ ['\n'] := by
  rw [asXML, String.toList_append, String.toList_append, String.toList_ofList]
  rfl

theorem head?_mockBody (tree : Node) : (mockBody tree).toList.head? = some '<' := by
  rw [toList_mockBody]
  rfl

theorem head?_asXML (tree : Node) : (asXML tree).toList.head? = some '<' := by
  rw [toList_asXML]
  rfl

theorem exists_write_eq (escape : Char → List Char) (name : List Char) (first : Node)
    (children : List Node) :
    ∃ front, (Node.element name (first :: children)).write escape =
      front ++ '<' :: '/' :: (name ++ ['>']) :=
  ⟨'<' :: (name ++ '>' :: (first.write escape ++ writeAll escape children)), by simp [Node.write]⟩

/-- The list of items is cut off in its last end tag. -/
theorem toList_getMockRecvItemResponse :
    ∃ front, getMockRecvItemResponse.toList = '<' :: front ++ "</root".toList := by
  obtain ⟨front, written⟩ := exists_write_eq htmlspecialchars "root".toList _ _
  have whole : (mockBody mockRecvItem).toList =
      (declaration.toList ++ front ++ "</root".toList) ++ ['>'] := by
    rw [toList_mockBody, mockRecvItem, root, group, indented, List.flatMap_cons,
      List.cons_append, List.cons_append, written]
    simp
  refine ⟨declaration.toList.tail ++ front, ?_⟩
  rw [getMockRecvItemResponse, String.toList_ofList, whole, List.dropLast_concat]
  rfl

/-- What a mock response can be. -/
theorem generateMockResponse_cases {now : DateTime} {pin : String}
    {Allowed : Except Throwable String → Prop} (command : String)
    (report : ∀ tree, Allowed (KraMockServerService.generateReport tree pin))
    (document : ∀ tree, Allowed (.ok (mockBody tree)))
    (json : Allowed (.ok getMockInitResponseJson))
    (cut : Allowed (.ok getMockRecvItemResponse)) :
    Allowed (generateMockResponse now command pin) := by
  unfold generateMockResponse
  apply iteInduction (fun _ => report _) fun _ => ?_
  apply iteInduction (fun _ => report _) fun _ => ?_
  apply iteInduction (fun _ => report _) fun _ => ?_
  apply iteInduction (fun _ => document _) fun _ => ?_
  apply iteInduction (fun _ => json) fun _ => ?_
  apply iteInduction (fun _ => document _) fun _ => ?_
  apply iteInduction (fun _ => cut) fun _ => ?_
  apply iteInduction (fun _ => document _) fun _ => ?_
  apply iteInduction (fun _ => document _) fun _ => ?_
  apply iteInduction (fun _ => document _) fun _ => ?_
  apply iteInduction (fun _ => document _) fun _ => ?_
  apply iteInduction (fun _ => document _) fun _ => ?_
  exact iteInduction (fun _ => document _) fun _ => document _

/-- Every body but one starts like a document, and so like no JSON. -/
theorem head?_of_mock {now : DateTime} {command pin body : String}
    (answers : generateMockResponse now command pin = .ok body) :
    body = getMockInitResponseJson ∨ body.toList.head? = some '<' := by
  refine @generateMockResponse_cases now pin (fun response => response = .ok body →
    body = getMockInitResponseJson ∨ body.toList.head? = some '<') command ?_ ?_ ?_ ?_ answers
  · intro tree reported
    unfold KraMockServerService.generateReport at reported
    split at reported
    next => cases reported
    next text _ =>
      obtain rfl := Except.ok.inj reported
      exact .inr (head?_asXML (tree text))
  · intro tree written
    obtain rfl := Except.ok.inj written
    exact .inr (head?_mockBody tree)
  · intro isJson
    exact .inl (Except.ok.inj isJson).symm
  · intro isCut
    obtain rfl := Except.ok.inj isCut
    obtain ⟨front, cut⟩ := toList_getMockRecvItemResponse
    rw [cut]
    exact .inr rfl

/-- Only a report can fail. -/
theorem generateMockResponse_ok {now : DateTime} {command : String}
    (noReport : command ∉ ["X_REPORT", "Z_REPORT", "PLU_REPORT"]) (pin : String) :
    ∃ body, generateMockResponse now command pin = .ok body := by
  simp only [List.mem_cons, List.not_mem_nil, or_false, not_or] at noReport
  obtain ⟨notX, notZ, notPlu⟩ := noReport
  unfold generateMockResponse
  rw [if_neg notX, if_neg notZ, if_neg notPlu]
  split_ifs <;> exact ⟨_, rfl⟩

end KraApi

/-! ## Legal trees -/

open KraApi KraMockServerService

/-- Before a root there may be the declaration. -/
theorem isMisc_declaration : IsMisc declaration.toList := by
  let body := "xml version=\"1.0\" encoding=\"UTF-8\"".toList
  have areChars : body.all isChar = true := by decide +kernel
  have noEnd : '>' ∉ body := by decide +kernel
  have isInstruction : IsInstruction ('<' :: '?' :: (body ++ ['?', '>'])) :=
    ⟨body, rfl, List.all_eq_true.mp areChars, fun ends => noEnd (ends.subset (by simp))⟩
  exact .instruction isInstruction (.space (by decide) .nil)

theorem isPiece_htmlspecialchars {declares : Bool} {c : Char} (legal : isChar c = true) :
    IsPiece declares (htmlspecialchars c) := by
  unfold htmlspecialchars
  split_ifs with isAmp isLt isGt isQuote isApostrophe
  · exact .reference ⟨"amp".toList, rfl, .inl rfl⟩
  · exact .reference ⟨"lt".toList, rfl, .inl rfl⟩
  · exact .reference ⟨"gt".toList, rfl, .inl rfl⟩
  · exact .reference ⟨"quot".toList, rfl, .inl rfl⟩
  · exact .reference ⟨"#039".toList, rfl, .inl (by decide)⟩
  · exact .char legal isLt isAmp

/-- A mock answer with a legal tree is a document. -/
theorem isDocument_mockBody {name : List Char} {children : List Node}
    (legal : (Node.element name children).isLegal = true) :
    IsDocument (mockBody (.element name children)).toList := by
  rw [toList_mockBody]
  simpa using isDocument_write (fun _ => isPiece_htmlspecialchars) isMisc_declaration .nil legal

/-- So is a report. -/
theorem isDocument_asXML {name : List Char} {children : List Node}
    (legal : (Node.element name children).isLegal = true) :
    IsDocument (asXML (.element name children)).toList := by
  rw [toList_asXML]
  exact isDocument_write (fun _ => isPiece_escapeChar true) isMisc_declaration
    (.space (by decide) .nil) legal

/-! ## The parser -/

/-- The trees of the answers that services parse. -/
def mockTrees (now : DateTime) : List Node :=
  [mockSendItem, mockRecvPurchase, mockSendInventory now, mockRecvInventory,
    mockSendReceipt now, mockGeneric now "STATUS", mockGeneric now "RECV_PURCHASEITEM"]

def reportTrees : List (List Char → Node) := [xReport, zReport, pluReport]

/-- What simulation mode relies on: the parser takes documents only, and reads the
trees of the mock answers, of the reports for one PIN among them. -/
structure ParsesMocks (platform : Platform) (now : DateTime) (pin : String) : Prop where
  acceptsOnly : ∀ text xml, platform.simplexmlLoadString text = some xml →
    IsDocument text.toList
  readsMock : ∀ tree ∈ mockTrees now,
    (platform.simplexmlLoadString (mockBody tree)).toList = elements tree
  readsReport : ∀ tree ∈ reportTrees, ∀ text, pinText pin = some text →
    (platform.simplexmlLoadString (asXML (tree text))).toList = elements (tree text)

theorem eq_some_of_toList {α : Type} {value : Option α} {member : α}
    (same : value.toList = [member]) : value = some member := by
  cases value with
  | none => contradiction
  | some other => rw [List.singleton_inj.mp same]

section Parser

variable {platform : Platform} {now : DateTime} {pin : String}

/-- A mock answer is read as its frame says. -/
theorem exists_read_of_mock (parses : ParsesMocks platform now pin) {data : List Node}
    (isMock : root data ∈ mockTrees now) :
    ∃ parsed dataNode, platform.simplexmlLoadString (mockBody (root data)) = some parsed ∧
      parsed.childTextOr "STATUS" "UNKNOWN" = "P" ∧ parsed.child? "DATA" = some dataNode ∧
      dataNode.children = elementsOf (indented 2 data) := by
  exact ⟨_, _, eq_some_of_toList (parses.readsMock _ isMock), rfl, rfl, rfl⟩

/-- So is a report. -/
theorem exists_read_of_report (parses : ParsesMocks platform now pin)
    {tree : List Char → Node} (isReport : tree ∈ reportTrees) {text : List Char}
    (isText : pinText pin = some text) :
    ∃ parsed dataNode, platform.simplexmlLoadString (asXML (tree text)) = some parsed ∧
      parsed.child? "DATA" = some dataNode := by
  have reads := parses.readsReport tree isReport text isText
  simp only [reportTrees, List.mem_cons, List.not_mem_nil, or_false] at isReport
  rcases isReport with rfl | rfl | rfl
  · exact ⟨_, _, eq_some_of_toList reads, rfl⟩
  · exact ⟨_, _, eq_some_of_toList reads, rfl⟩
  · exact ⟨_, _, eq_some_of_toList reads, rfl⟩

/-- The list of items is no document. -/
theorem unread_getMockRecvItemResponse (parses : ParsesMocks platform now pin) :
    platform.simplexmlLoadString getMockRecvItemResponse = none := by
  cases read : platform.simplexmlLoadString getMockRecvItemResponse with
  | none => rfl
  | some parsed =>
      obtain ⟨-, ends⟩ := starts_ends_document (parses.acceptsOnly _ parsed read)
      obtain ⟨front, cut⟩ := toList_getMockRecvItemResponse
      have last : getMockRecvItemResponse.toList.getLast? = some 't' := by
        rw [cut, List.getLast?_append_of_ne_nil _ (by decide)]
        rfl
      exact absurd (ends 't' last) (by decide)

end Parser

/-! ## A parser of the mock answers -/

/-- The documents that the mock server writes, with their trees. -/
def mockDocuments (now : DateTime) (pin : List Char) : List (String × Node) :=
  ((mockTrees now).map fun tree => (mockBody tree, tree)) ++
    reportTrees.map fun tree => (asXML (tree pin), tree pin)

/-- A parser of these. -/
def mockReader (now : DateTime) (pin : List Char) : Platform :=
  { KraApi.platformReading [] with
    simplexmlLoadString := fun body =>
      ((mockDocuments now pin).lookup body).bind fun tree => (MockTree.elements tree).head? }

section Reader

variable {now : DateTime} {text : List Char}

theorem mockReader_reads (distinct : ((mockDocuments now text).map Prod.fst).Nodup)
    {body : String} {tree : Node} (member : (body, tree) ∈ mockDocuments now text) :
    ((mockReader now text).simplexmlLoadString body).toList = MockTree.elements tree := by
  have found : (mockDocuments now text).lookup body = some tree :=
    lookup_eq_some_of_mem distinct member
  have reads : (mockReader now text).simplexmlLoadString body = (MockTree.elements tree).head? := by
    simp [mockReader, found]
  rw [reads]
  cases tree with
  | text characters => simp [MockTree.elements]
  | element name children => simp [MockTree.elements]

theorem mockReader_acceptsOnly
    (legal : ∀ document ∈ mockDocuments now text, document.2.isLegal = true)
    {body : String} {xml : Xml}
    (read : (mockReader now text).simplexmlLoadString body = some xml) :
    IsDocument body.toList := by
  obtain ⟨tree, found, isRoot⟩ := Option.bind_eq_some_iff.mp read
  have member := mem_of_lookup_eq_some found
  have isLegal := legal _ member
  cases tree with
  | text characters => simp [MockTree.elements] at isRoot
  | element name children =>
      rcases List.mem_append.mp member with isMock | isReport
      · obtain ⟨other, -, same⟩ := List.mem_map.mp isMock
        obtain ⟨rfl, rfl⟩ := Prod.mk.inj same
        exact isDocument_mockBody isLegal
      · obtain ⟨other, -, same⟩ := List.mem_map.mp isReport
        obtain ⟨rfl, isTree⟩ := Prod.mk.inj same
        rw [isTree]
        exact isDocument_asXML isLegal

theorem mockReader_parses {pin : String} (isText : pinText pin = some text)
    (distinct : ((mockDocuments now text).map Prod.fst).Nodup)
    (legal : ∀ document ∈ mockDocuments now text, document.2.isLegal = true) :
    ParsesMocks (mockReader now text) now pin where
  acceptsOnly _ _ := mockReader_acceptsOnly legal
  readsMock tree isMock :=
    mockReader_reads distinct (List.mem_append_left _ (List.mem_map.mpr ⟨tree, isMock, rfl⟩))
  readsReport tree isReport other isOther := by
    obtain rfl := Option.some.inj (isText.symm.trans isOther)
    exact mockReader_reads distinct
      (List.mem_append_right _ (List.mem_map.mpr ⟨tree, isReport, rfl⟩))

end Reader

end TaxGateway.Services
