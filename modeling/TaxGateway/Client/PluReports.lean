import TaxGateway.Client.XmlRoundTrip
import TaxGateway.Foundations.SignificantDigits
import TaxGateway.Services.KraReportService

/-!
Contract: the PLU report of simulation mode, from the items of the configuration to the
items that `getPLUReport` lists.

Owns:
- the report that `generatePLUReportResponse` writes for any items, and that it is the
  configured one for the configured items;
- what `addChild` keeps of a text that is not escaped;
- what is read of the report: its items, the texts decoded and the figures as they are
  written, and the exact items that are read as they were put in.

Does not own: the payload of the command, or the reports without items.
-/

namespace TaxGateway.Client

open TaxGateway.Php
open TaxGateway.Services
open TaxGateway.Services.KraMockServerService
open TaxGateway.Services.KraReportService
open TaxGateway.XmlDocuments

/-! ## Items -/

/-- A figure of the configuration. -/
inductive Figure where
  | int (value : Int)
  | float (value : ℚ)

namespace Figure

def value : Figure → ℚ
  | .int value => value
  | .float value => value

/-- `(string) $figure`. -/
def text : Figure → String
  | .int value => toString value
  | .float value => floatText value

/-- An `int`, or a `float` of fourteen significant digits. -/
def IsKept : Figure → Prop
  | .int _ => True
  | .float value => HasDigits 14 value

theorem floatval_text_eq_iff {figure : Figure} :
    floatval figure.text = figure.value ↔ figure.IsKept := by
  cases figure with
  | int value => exact iff_of_true (floatval_toString value) trivial
  | float value => exact floatval_floatText_eq_iff

theorem isNumberChar_text (figure : Figure) :
    ∀ c ∈ figure.text.toList, isNumberChar c = true := by
  cases figure with
  | int value => exact isNumberChar_toString value
  | float value => exact isNumberChar_floatText value

end Figure

/-- `$itemData`, an entry of `config('kra.simulation_responses.plu_report.items')`. -/
structure ItemData where
  itemCode : String
  itemName : String
  unitPrice : Figure
  taxRate : Figure
  quantitySold : Figure
  amountCollected : Figure
  remainQuantityInStock : Figure

namespace ItemData

/-- The children that are added for an item. -/
def fields (itemData : ItemData) : List (String × String) :=
  [("itemCode", itemData.itemCode), ("itemName", itemData.itemName),
    ("unitPrice", itemData.unitPrice.text), ("taxRate", itemData.taxRate.text),
    ("quantitySold", itemData.quantitySold.text),
    ("amountCollected", itemData.amountCollected.text),
    ("remainQuantityInStock", itemData.remainQuantityInStock.text)]

/-- The item as the report should list it. -/
def listed (itemData : ItemData) : PluItem where
  itemCode := itemData.itemCode
  itemName := itemData.itemName
  unitPrice := itemData.unitPrice.value
  taxRate := itemData.taxRate.value
  quantitySold := itemData.quantitySold.value
  amountCollected := itemData.amountCollected.value
  remainingQuantityInStock := itemData.remainQuantityInStock.value

/-- The item as it is read: figures are the numbers that their texts start with. -/
def read (itemData : ItemData) : PluItem where
  itemCode := itemData.itemCode
  itemName := itemData.itemName
  unitPrice := floatval itemData.unitPrice.text
  taxRate := floatval itemData.taxRate.text
  quantitySold := floatval itemData.quantitySold.text
  amountCollected := floatval itemData.amountCollected.text
  remainingQuantityInStock := floatval itemData.remainQuantityInStock.text

/-- Code and name are legal XML characters. -/
def IsLegal (itemData : ItemData) : Prop :=
  itemData.itemCode.toList.all isChar = true ∧ itemData.itemName.toList.all isChar = true

def figures (itemData : ItemData) : List Figure :=
  [itemData.unitPrice, itemData.taxRate, itemData.quantitySold, itemData.amountCollected,
    itemData.remainQuantityInStock]

/-- No `&` in code and name, and figures that are written without a loss. -/
def IsKept (itemData : ItemData) : Prop :=
  '&' ∉ itemData.itemCode.toList ∧ '&' ∉ itemData.itemName.toList ∧
    ∀ figure ∈ itemData.figures, figure.IsKept

theorem read_eq_listed_iff {itemData : ItemData} :
    itemData.read = itemData.listed ↔ ∀ figure ∈ itemData.figures, figure.IsKept := by
  simp only [figures, List.forall_mem_cons, List.not_mem_nil, false_implies, implies_true,
    and_true, ← Figure.floatval_text_eq_iff, read, listed, PluItem.mk.injEq, true_and]

end ItemData

/-! ## The report -/

/-- The `item` element that is added for an item. -/
def itemNode (itemData : ItemData) : Option Node := do
  let children ← itemData.fields.mapM fun child => addChild child.1 child.2
  return .element "item".toList children

/-- The children of `DATA`: `config('kra.simulation_responses.plu_report')` as it is, but
for its items. -/
def pluData (itemNodes : List Node) : List Node :=
  [MockTree.field "companyName" "ICORE Test Business",
    MockTree.field "taxIdentificationNumber" "P123456789Z",
    MockTree.field "intervalDate" "20250105", MockTree.field "intervalTime" "143000",
    MockTree.field "reportType" "PLU_REPORT", .element "items".toList itemNodes]

/-- The document, as it is built for a PIN. -/
def pluTree (items : List ItemData) (pin : String) : Option Node := do
  let text ← pinText pin
  let itemNodes ← items.mapM itemNode
  return report "PLU_REPORT" text (pluData itemNodes)

/-- `KraMockServerService::generatePLUReportResponse`, for the items of the configuration.
The dates are not used. -/
def generatePLUReportResponse (items : List ItemData) (pin : String)
    (_startDate _endDate : Option String) : Except Throwable String :=
  match pluTree items pin with
  | none =>
      .error (.exception "SimpleXMLElement::addChild(): unterminated entity reference")
  | some tree => .ok (asXML tree)

/-! ## Texts that are not escaped -/

section Texts

variable {text added : List Char} {fuel : Nat}

/-- A reference is longer than the character it stands for. -/
theorem length_of_addedText (isAdded : addedText text fuel = some added) :
    added.length ≤ text.length ∧ ('&' ∈ text → added.length < text.length) := by
  induction fuel generalizing text added with
  | zero => cases isAdded
  | succ fuel inductionHypothesis =>
      cases text with
      | nil =>
          obtain rfl := Option.some.inj isAdded
          simp
      | cons c rest =>
          rw [addedText] at isAdded
          split_ifs at isAdded with isAmp legal
          · obtain ⟨closing, isClosing, isAdded⟩ := Option.bind_eq_some_iff.mp isAdded
            obtain ⟨others, areOthers, isAdded⟩ := Option.bind_eq_some_iff.mp isAdded
            have shorter := (inductionHypothesis areOthers).1
            have behind : (rest.takeWhile (· ≠ ';')).length < rest.length := by
              by_contra! ends
              rw [List.drop_of_length_le ends] at isClosing
              cases isClosing
            have atMost : added.length ≤ others.length + 1 := by
              split_ifs at isAdded
              · obtain rfl := Option.some.inj isAdded
                omega
              · obtain ⟨referred, -, isAdded⟩ := Option.bind_eq_some_iff.mp isAdded
                obtain rfl := Option.some.inj isAdded
                simp
            simp only [List.length_drop] at shorter
            simp only [List.length_cons]
            constructor
            · omega
            · intro _
              omega
          · obtain ⟨others, areOthers, rfl⟩ := Option.map_eq_some_iff.mp isAdded
            obtain ⟨shorter, strictly⟩ := inductionHypothesis areOthers
            simp only [List.length_cons, List.mem_cons, Ne.symm isAmp, false_or]
            constructor
            · omega
            · intro member
              have less := strictly member
              omega

theorem isChar_of_charOfCode {code : Nat} {c : Char} (isCode : charOfCode code = some c) :
    isChar c = true := by
  unfold charOfCode at isCode
  split_ifs at isCode
  exact (Option.filter_eq_some_iff.mp isCode).2

theorem isChar_of_referredChar {inner : List Char} {c : Char}
    (refers : referredChar inner = some c) : isChar c = true := by
  unfold referredChar at refers
  split at refers
  next =>
    obtain ⟨code, -, isCode⟩ := Option.bind_eq_some_iff.mp refers
    exact isChar_of_charOfCode isCode
  next =>
    obtain ⟨code, -, isCode⟩ := Option.bind_eq_some_iff.mp refers
    exact isChar_of_charOfCode isCode
  next => obtain rfl := Option.some.inj refers; rfl
  next => obtain rfl := Option.some.inj refers; rfl
  next => obtain rfl := Option.some.inj refers; rfl
  next => obtain rfl := Option.some.inj refers; rfl
  next => obtain rfl := Option.some.inj refers; rfl
  next => cases refers

/-- What is added is legal. -/
theorem all_isChar_of_addedText (isAdded : addedText text fuel = some added) :
    added.all isChar = true := by
  induction fuel generalizing text added with
  | zero => cases isAdded
  | succ fuel inductionHypothesis =>
      cases text with
      | nil =>
          obtain rfl := Option.some.inj isAdded
          rfl
      | cons c rest =>
          rw [addedText] at isAdded
          split_ifs at isAdded with isAmp legal
          · obtain ⟨closing, -, isAdded⟩ := Option.bind_eq_some_iff.mp isAdded
            obtain ⟨others, areOthers, isAdded⟩ := Option.bind_eq_some_iff.mp isAdded
            have legalOthers := inductionHypothesis areOthers
            split_ifs at isAdded
            · obtain rfl := Option.some.inj isAdded
              exact legalOthers
            · obtain ⟨referred, refers, isAdded⟩ := Option.bind_eq_some_iff.mp isAdded
              obtain rfl := Option.some.inj isAdded
              exact Bool.and_eq_true_iff.mpr ⟨isChar_of_referredChar refers, legalOthers⟩
          · obtain ⟨others, areOthers, rfl⟩ := Option.map_eq_some_iff.mp isAdded
            exact Bool.and_eq_true_iff.mpr ⟨legal, inductionHypothesis areOthers⟩

end Texts

/-- The text that `addChild` makes of a value. -/
def decodedText (value : String) : Option String :=
  (addedText (value.toList.takeWhile (· ≠ '\x00')) (value.length + 1)).map String.ofList

theorem addChild_eq (name value : String) :
    addChild name value = (decodedText value).map (childNode name) := by
  rw [addChild, decodedText, Option.map_map]
  refine congrArg (Option.map · _) (funext fun added => ?_)
  rw [Function.comp_apply, childNode, String.toList_ofList]

theorem all_isChar_of_decodedText {value text : String} (decoded : decodedText value = some text) :
    text.toList.all isChar = true := by
  obtain ⟨added, isAdded, rfl⟩ := Option.map_eq_some_iff.mp decoded
  rw [String.toList_ofList]
  exact all_isChar_of_addedText isAdded

/-- A legal value is its own text exactly when it has no `&`. -/
theorem decodedText_eq_self_iff {value : String} (legal : value.toList.all isChar = true) :
    decodedText value = some value ↔ '&' ∉ value.toList := by
  have whole : value.toList.takeWhile (· ≠ '\x00') = value.toList := by
    apply List.takeWhile_eq_self_iff.mpr
    intro c member
    refine decide_eq_true ?_
    rintro rfl
    exact absurd (List.all_eq_true.mp legal _ member) (by decide)
  rw [decodedText, whole]
  constructor
  · intro same member
    obtain ⟨added, isAdded, isValue⟩ := Option.map_eq_some_iff.mp same
    have shorter := (length_of_addedText isAdded).2 member
    rw [← isValue, String.toList_ofList] at shorter
    omega
  · intro noAmp
    have enough : value.toList.length < value.length + 1 := by
      rw [String.length_toList]
      omega
    rw [addedText_of_notMem legal noAmp enough, Option.map_some, String.ofList_toList]

theorem ne_amp_and_isChar_of_isNumberChar {c : Char} (isNumber : isNumberChar c = true) :
    c ≠ '&' ∧ isChar c = true := by
  constructor
  · rintro rfl
    cases isNumber
  · rw [isNumberChar, Bool.or_eq_true] at isNumber
    rcases isNumber with isDigit | isSign
    · simp only [Char.isDigit, Bool.and_eq_true, decide_eq_true_eq, ge_iff_le,
        UInt32.le_iff_toNat_le] at isDigit
      have range : 48 ≤ c.toNat ∧ c.toNat ≤ 57 := isDigit
      have legal : 0x20 ≤ c.toNat ∧ c.toNat ≠ 0xFFFE ∧ c.toNat ≠ 0xFFFF := by omega
      simp [isChar, legal]
    · simp only [List.contains_eq_mem, List.mem_cons, List.not_mem_nil, or_false,
        decide_eq_true_eq] at isSign
      rcases isSign with rfl | rfl | rfl | rfl <;> rfl

/-- A figure is added as it is written. -/
theorem decodedText_figure (figure : Figure) : decodedText figure.text = some figure.text := by
  have legal : figure.text.toList.all isChar = true :=
    List.all_eq_true.mpr fun c member =>
      (ne_amp_and_isChar_of_isNumberChar (figure.isNumberChar_text c member)).2
  rw [decodedText_eq_self_iff legal]
  intro member
  exact (ne_amp_and_isChar_of_isNumberChar (figure.isNumberChar_text _ member)).1 rfl

/-! ## What is written -/

namespace ItemData

/-- The item with its texts as `addChild` makes them. -/
def decoded (itemData : ItemData) : Option ItemData := do
  let itemCode ← decodedText itemData.itemCode
  let itemName ← decodedText itemData.itemName
  return { itemData with itemCode, itemName }

/-- An item is kept exactly when it is read as it should be listed. -/
theorem map_read_decoded_iff {itemData : ItemData} (legal : itemData.IsLegal) :
    itemData.decoded.map read = some itemData.listed ↔ itemData.IsKept := by
  rw [IsKept, ← decodedText_eq_self_iff legal.1, ← decodedText_eq_self_iff legal.2,
    ← read_eq_listed_iff]
  constructor
  · intro same
    obtain ⟨written, isWritten, isListed⟩ := Option.map_eq_some_iff.mp same
    obtain ⟨itemCode, isCode, isWritten⟩ := Option.bind_eq_some_iff.mp isWritten
    obtain ⟨itemName, isName, isWritten⟩ := Option.bind_eq_some_iff.mp isWritten
    obtain rfl := Option.some.inj isWritten
    have sameCode : itemCode = itemData.itemCode := congrArg PluItem.itemCode isListed
    have sameName : itemName = itemData.itemName := congrArg PluItem.itemName isListed
    subst sameCode sameName
    exact ⟨isCode, isName, isListed⟩
  · rintro ⟨isCode, isName, isListed⟩
    rw [decoded, isCode, isName, ← isListed]
    rfl

/-- The element that is written. -/
def element (written : ItemData) : Node :=
  .element "item".toList (written.fields.map fun child => childNode child.1 child.2)

end ItemData

theorem itemNode_eq (itemData : ItemData) :
    itemNode itemData = itemData.decoded.map ItemData.element := by
  simp only [itemNode, ItemData.fields, ItemData.decoded, List.mapM_cons, List.mapM_nil,
    addChild_eq, decodedText_figure]
  cases decodedText itemData.itemCode with
  | none => rfl
  | some itemCode => cases decodedText itemData.itemName <;> rfl

section Mapped

variable {α β γ : Type} {f : α → Option β} {members : List α}

theorem mapM_map (g : β → γ) :
    members.mapM (fun member => (f member).map g) = (members.mapM f).map (List.map g) := by
  induction members with
  | nil => rfl
  | cons head tail inductionHypothesis =>
      rw [List.mapM_cons, List.mapM_cons, inductionHypothesis]
      cases f head with
      | none => rfl
      | some first => cases tail.mapM f <;> rfl

theorem mapM_eq_some_map_iff {g : α → β} :
    members.mapM f = some (members.map g) ↔ ∀ member ∈ members, f member = some (g member) := by
  induction members with
  | nil => simp
  | cons head tail inductionHypothesis =>
      rw [List.forall_mem_cons, ← inductionHypothesis, List.mapM_cons, List.map_cons]
      cases f head with
      | none => simp
      | some first => cases tail.mapM f <;> simp

end Mapped

/-! ## What is read -/

/-- The tree of a document with that declaration and without attributes, namespaces and
other markup, as `simplexml_load_string` reads it. -/
def readDeclaredXml (text : String) : Option Xml :=
  (readDeclared declaration.toList text.toList).bind fun node => (MockTree.elements node).head?

/-- A report is read as its tree says. -/
theorem readDeclaredXml_asXML {name : List Char} {children : List Node}
    (plain : (Node.element name children).isPlain = true) :
    readDeclaredXml (asXML (.element name children)) =
      some (.element (String.ofList name) (String.ofList (MockTree.directText children))
        (MockTree.elementsOf children)) := by
  rw [readDeclaredXml, KraApi.toList_asXML,
    readDeclared_write (isUndone_escapeChar true) plain _ (by decide), Option.bind_some,
    MockTree.elements, directText_spreadAll, elementsOf_spreadAll]
  rfl

namespace ItemData

variable {itemData written : ItemData}

/-- The element that is read. -/
def xml (written : ItemData) : Xml :=
  .element "item" "" (written.fields.map fun child => .element child.1 child.2 [])

theorem readPluItem_xml (written : ItemData) : readPluItem written.xml = written.read := rfl

theorem isPlainName_fields (written : ItemData) :
    ∀ child ∈ written.fields, isPlainName child.1.toList = true := by
  have names : ∀ name ∈ written.fields.map Prod.fst, isPlainName name.toList = true := by
    have areNames : written.fields.map Prod.fst =
        ["itemCode", "itemName", "unitPrice", "taxRate", "quantitySold", "amountCollected",
          "remainQuantityInStock"] := rfl
    rw [areNames]
    decide
  exact fun child member => names child.1 (List.mem_map_of_mem member)

theorem elements_element (written : ItemData) :
    MockTree.elements written.element = [written.xml] := by
  rw [element, MockTree.elements, elementsOf_children written.isPlainName_fields,
    directText_children]
  rfl

/-- The texts of an item that is written are legal. -/
theorem isLegal_of_decoded (isDecoded : itemData.decoded = some written) :
    ∀ child ∈ written.fields, child.2.toList.all isChar = true := by
  obtain ⟨itemCode, isCode, isDecoded⟩ := Option.bind_eq_some_iff.mp isDecoded
  obtain ⟨itemName, isName, isDecoded⟩ := Option.bind_eq_some_iff.mp isDecoded
  obtain rfl := Option.some.inj isDecoded
  have figure (figure : Figure) : figure.text.toList.all isChar = true :=
    all_isChar_of_decodedText (decodedText_figure figure)
  simp only [fields, List.forall_mem_cons, List.not_mem_nil, false_implies, implies_true,
    and_true, figure, all_isChar_of_decodedText isCode, all_isChar_of_decodedText isName]

theorem isPlain_element (isDecoded : itemData.decoded = some written) :
    written.element.isPlain = true := by
  have children := allPlain_children fun child member =>
    ⟨written.isPlainName_fields child member, isLegal_of_decoded isDecoded child member⟩
  rw [element, Node.isPlain, children]
  decide

end ItemData

theorem elementsOf_items (written : List ItemData) :
    MockTree.elementsOf (written.map ItemData.element) = written.map ItemData.xml := by
  induction written with
  | nil => rfl
  | cons first others inductionHypothesis =>
      rw [List.map_cons, MockTree.elementsOf, ItemData.elements_element, inductionHypothesis]
      rfl

theorem allPlain_items {items written : List ItemData}
    (areDecoded : items.mapM ItemData.decoded = some written) :
    allPlain (written.map ItemData.element) = true := by
  induction items generalizing written with
  | nil =>
      obtain rfl := Option.some.inj areDecoded
      rfl
  | cons itemData items inductionHypothesis =>
      rw [List.mapM_cons] at areDecoded
      obtain ⟨first, isFirst, areDecoded⟩ := Option.bind_eq_some_iff.mp areDecoded
      obtain ⟨others, areOthers, areDecoded⟩ := Option.bind_eq_some_iff.mp areDecoded
      obtain rfl := Option.some.inj areDecoded
      rw [List.map_cons, allPlain, ItemData.isPlain_element isFirst,
        inductionHypothesis areOthers]
      rfl

section Report

variable {items written : List ItemData} {pin : String} {text : List Char}

/-- A report is written when the PIN and the texts of all items can be added. -/
theorem pluTree_eq (items : List ItemData) (pin : String) :
    pluTree items pin = (pinText pin).bind fun text =>
      (items.mapM ItemData.decoded).map fun written =>
        report "PLU_REPORT" text (pluData (written.map ItemData.element)) := by
  have nodes : items.mapM itemNode =
      (items.mapM ItemData.decoded).map (List.map ItemData.element) := by
    rw [← mapM_map, funext itemNode_eq]
  rw [pluTree, nodes]
  cases pinText pin with
  | none => rfl
  | some text => cases items.mapM ItemData.decoded <;> rfl

theorem isPlain_report (isText : pinText pin = some text)
    (areDecoded : items.mapM ItemData.decoded = some written) :
    (report "PLU_REPORT" text (pluData (written.map ItemData.element))).isPlain = true := by
  have legal : text.all isChar = true := all_isChar_of_addedText isText
  have itemsPlain := allPlain_items areDecoded
  have fields : allPlain (pluData (written.map ItemData.element)) = true := by
    simp only [pluData, allPlain, Node.isPlain, itemsPlain]
    decide
  simp only [report, Node.isPlain, allPlain, legal, fields]
  decide

/-- `DATA`, as it is read. -/
def pluDataXml (written : List ItemData) : Xml :=
  .element "DATA" ""
    [.element "companyName" "ICORE Test Business" [],
      .element "taxIdentificationNumber" "P123456789Z" [], .element "intervalDate" "20250105" [],
      .element "intervalTime" "143000" [], .element "reportType" "PLU_REPORT" [],
      .element "items" "" (written.map ItemData.xml)]

theorem directText_items (written : List ItemData) :
    MockTree.directText (written.map ItemData.element) = [] := by
  rw [MockTree.directText, List.flatMap_map]
  exact List.flatMap_eq_nil_iff.mpr fun _ _ => rfl

/-- A report that is written is read, with its items. -/
theorem exists_read_of_report (isText : pinText pin = some text)
    (areDecoded : items.mapM ItemData.decoded = some written) :
    ∃ parsed, readDeclaredXml
        (asXML (report "PLU_REPORT" text (pluData (written.map ItemData.element)))) =
          some parsed ∧
      parsed.child? "DATA" = some (pluDataXml written) := by
  refine ⟨_, readDeclaredXml_asXML (isPlain_report isText areDecoded), ?_⟩
  have data : MockTree.elementsOf (pluData (written.map ItemData.element)) =
      (pluDataXml written).children := by
    simp only [pluData, MockTree.elementsOf, MockTree.elements, MockTree.field,
      elementsOf_items, directText_items]
    rfl
  simp only [MockTree.elementsOf, MockTree.elements, data]
  rfl

/-- The items are listed as they are read. Of none, the flat shape has no code. -/
theorem pluItems_pluDataXml (written : List ItemData) :
    pluItems (pluDataXml written) = written.map ItemData.read := by
  have nested : ((((pluDataXml written).child? "items").map Xml.children).getD []) =
      written.map ItemData.xml := rfl
  have noCode : (readPluItem (pluDataXml written)).itemCode = "" := rfl
  unfold pluItems
  dsimp only
  rw [nested, noCode]
  cases written with
  | nil => rfl
  | cons first others =>
      rw [List.map_map]
      exact List.map_congr_left fun itemData _ => itemData.readPluItem_xml

/-- The body of the report is parsed, and exactly the items of the configuration are
listed, in order. -/
def ListsItems (platform : Platform) (items : List ItemData) (pin : String)
    (startDate endDate : Option String) : Prop :=
  ∃ body parsed dataNode,
    generatePLUReportResponse items pin startDate endDate = .ok body ∧
      platform.simplexmlLoadString body = some parsed ∧
      parsed.child? "DATA" = some dataNode ∧
      (readPluReport dataNode).items = items.map ItemData.listed

variable {platform : Platform} {startDate endDate : Option String}

theorem listsItems_iff_of_decoded
    (reads : ∀ text xml, readDeclaredXml text = some xml →
      platform.simplexmlLoadString text = some xml) :
    ListsItems platform items pin startDate endDate ↔
      (pinText pin).isSome = true ∧
        items.mapM (fun itemData => itemData.decoded.map ItemData.read) =
          some (items.map ItemData.listed) := by
  rw [mapM_map]
  constructor
  · rintro ⟨body, parsed, dataNode, isBody, isParsed, isData, same⟩
    unfold generatePLUReportResponse at isBody
    split at isBody
    next => cases isBody
    next tree isTree =>
      obtain rfl := Except.ok.inj isBody
      rw [pluTree_eq] at isTree
      obtain ⟨text, isText, isTree⟩ := Option.bind_eq_some_iff.mp isTree
      obtain ⟨written, areDecoded, rfl⟩ := Option.map_eq_some_iff.mp isTree
      obtain ⟨other, isRead, isOther⟩ := exists_read_of_report isText areDecoded
      obtain rfl := Option.some.inj ((reads _ _ isRead).symm.trans isParsed)
      obtain rfl := Option.some.inj (isOther.symm.trans isData)
      have listed : written.map ItemData.read = items.map ItemData.listed :=
        (pluItems_pluDataXml written).symm.trans same
      rw [isText, areDecoded, Option.map_some, listed]
      exact ⟨rfl, rfl⟩
  · rintro ⟨hasText, areListed⟩
    obtain ⟨text, isText⟩ := Option.isSome_iff_exists.mp hasText
    obtain ⟨written, areDecoded, same⟩ := Option.map_eq_some_iff.mp areListed
    obtain ⟨parsed, isRead, isData⟩ := exists_read_of_report isText areDecoded
    refine ⟨_, parsed, _, ?_, reads _ _ isRead, isData, ?_⟩
    · rw [generatePLUReportResponse, pluTree_eq, isText, Option.bind_some, areDecoded]
      rfl
    · exact (pluItems_pluDataXml written).trans same

/-- Exactly the items are listed again if `addChild` takes the PIN, no code or name has
an `&`, and no figure has too many digits. -/
theorem plu_items_listed_iff
    (reads : ∀ text xml, readDeclaredXml text = some xml →
      platform.simplexmlLoadString text = some xml)
    (legal : ∀ itemData ∈ items, itemData.IsLegal) (pin : String)
    (startDate endDate : Option String) :
    ListsItems platform items pin startDate endDate ↔
      (pinText pin).isSome = true ∧ ∀ itemData ∈ items, itemData.IsKept := by
  rw [listsItems_iff_of_decoded reads, mapM_eq_some_map_iff]
  refine and_congr_right fun _ => forall₂_congr fun itemData member => ?_
  exact ItemData.map_read_decoded_iff (legal itemData member)

end Report

/-! ## The configured items -/

/-- `config('kra.simulation_responses.plu_report.items')`. -/
def configuredItems : List ItemData :=
  [⟨"ITEM001", "Test Product 1", .float 100, .float 16, .float 50, .float 5800, .float 150⟩,
    ⟨"ITEM002", "Test Product 2", .float 75, .float 16, .float 30, .float 2610, .float 70⟩,
    ⟨"ITEM003", "Test Product 3", .float 200, .float 0, .float 25, .float 5000, .float 75⟩]

theorem fields_configuredItems : configuredItems.map ItemData.fields =
    [[("itemCode", "ITEM001"), ("itemName", "Test Product 1"), ("unitPrice", "100"),
        ("taxRate", "16"), ("quantitySold", "50"), ("amountCollected", "5800"),
        ("remainQuantityInStock", "150")],
      [("itemCode", "ITEM002"), ("itemName", "Test Product 2"), ("unitPrice", "75"),
        ("taxRate", "16"), ("quantitySold", "30"), ("amountCollected", "2610"),
        ("remainQuantityInStock", "70")],
      [("itemCode", "ITEM003"), ("itemName", "Test Product 3"), ("unitPrice", "200"),
        ("taxRate", "0"), ("quantitySold", "25"), ("amountCollected", "5000"),
        ("remainQuantityInStock", "75")]] := by
  decide +kernel

theorem isLegal_configuredItems : ∀ itemData ∈ configuredItems, itemData.IsLegal := by
  have legal : (configuredItems.all fun itemData =>
      itemData.itemCode.toList.all isChar && itemData.itemName.toList.all isChar) = true := by
    decide +kernel
  exact fun itemData member => Bool.and_eq_true_iff.mp (List.all_eq_true.mp legal itemData member)

theorem isKept_configuredItems : ∀ itemData ∈ configuredItems, itemData.IsKept := by
  have texts : ∀ itemData ∈ configuredItems,
      '&' ∉ itemData.itemCode.toList ∧ '&' ∉ itemData.itemName.toList := by
    decide +kernel
  have figures : ∀ itemData ∈ configuredItems, ∀ figure ∈ itemData.figures,
      floatval figure.text = figure.value := by
    decide +kernel
  intro itemData member
  obtain ⟨code, name⟩ := texts itemData member
  exact ⟨code, name, fun figure isFigure =>
    Figure.floatval_text_eq_iff.mp (figures itemData member figure isFigure)⟩

/-- For the configured items it is the report that simulation mode answers with. -/
theorem generatePLUReportResponse_configuredItems (pin : String)
    (startDate endDate : Option String) :
    generatePLUReportResponse configuredItems pin startDate endDate =
      generateReport pluReport pin := by
  have isDecoded : ∀ itemData ∈ configuredItems, itemData.decoded = some (id itemData) := by
    intro itemData member
    obtain ⟨legalCode, legalName⟩ := isLegal_configuredItems itemData member
    obtain ⟨code, name, -⟩ := isKept_configuredItems itemData member
    rw [ItemData.decoded, (decodedText_eq_self_iff legalCode).mpr code,
      (decodedText_eq_self_iff legalName).mpr name]
    rfl
  have areDecoded := mapM_eq_some_map_iff.mpr isDecoded
  rw [List.map_id] at areDecoded
  have elements : configuredItems.map ItemData.element =
      (configuredItems.map ItemData.fields).map fun fields =>
        .element "item".toList (fields.map fun child => childNode child.1 child.2) := by
    rw [List.map_map]
    rfl
  rw [fields_configuredItems] at elements
  rw [generatePLUReportResponse, generateReport, pluTree_eq, areDecoded]
  simp only [Option.map_some, elements]
  cases pinText pin <;> rfl

/-- A parser of documents with the declaration. -/
def declaredReader : Platform := { xmlReader with simplexmlLoadString := readDeclaredXml }

theorem declaredReader_reads (text : String) :
    declaredReader.simplexmlLoadString text = readDeclaredXml text := rfl

theorem pinText_shop : (pinText "P051234567X").isSome = true := by decide +kernel

theorem plu_items_listed_iff_configured :
    ListsItems declaredReader configuredItems "P051234567X" none none :=
  (plu_items_listed_iff (fun _ _ read => (declaredReader_reads _).trans read)
    isLegal_configuredItems "P051234567X" none none).mpr ⟨pinText_shop, isKept_configuredItems⟩

/-! ## An ampersand -/

def breadAndButter : ItemData :=
  ⟨"ITEM004", "Bread & Butter", .float 100, .float 16, .float 50, .float 5800, .float 150⟩

/-- Its name is no text for `addChild`: there is no report. -/
theorem breadAndButter_not_listed :
    breadAndButter.IsLegal ∧
      generatePLUReportResponse [breadAndButter] "P051234567X" none none =
        .error (.exception "SimpleXMLElement::addChild(): unterminated entity reference") ∧
      ¬ ListsItems declaredReader [breadAndButter] "P051234567X" none none := by
  have legal : breadAndButter.IsLegal := by
    constructor <;> decide +kernel
  have notWritten : generatePLUReportResponse [breadAndButter] "P051234567X" none none =
      .error (.exception "SimpleXMLElement::addChild(): unterminated entity reference") := by
    rfl
  refine ⟨legal, notWritten, ?_⟩
  rintro ⟨body, parsed, dataNode, isBody, -⟩
  rw [notWritten] at isBody
  cases isBody

end TaxGateway.Client
