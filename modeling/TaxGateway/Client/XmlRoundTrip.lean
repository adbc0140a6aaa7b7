import TaxGateway.Client.WireFormat
import TaxGateway.Foundations.XmlReading
import TaxGateway.Services.Simulation

/-!
Contract: what is read of a body the client transmits, once it has a root.

Owns:
- the children that `buildKraXml` adds, by `htmlspecialchars` and then `addChild`;
- that the references written by the one are resolved by the other;
- that a body within a root element is read as the PIN, the command and the data it
  was made of, that no other payload has the same body, and that without a root nothing
  is read;
- which keys are not read back.

Does not own: what the mock server does with a body.
-/

namespace TaxGateway.Client

open TaxGateway.Php
open TaxGateway.Services
open TaxGateway.Services.KraMockServerService
open TaxGateway.XmlDocuments

/-! ## The children of the temporary root -/

/-- `htmlspecialchars($text)`. -/
def escapedText (text : String) : String :=
  String.ofList (text.toList.flatMap htmlspecialchars)

/-- The element that `addChild($name, $value)` adds. The library ends a value at `NUL`. -/
def addChild (name value : String) : Option Node :=
  (addedText (value.toList.takeWhile (· ≠ '\x00')) (value.length + 1)).map fun text =>
    .element (localName name.toList) [.text text]

/-- What `buildKraXml` adds to the temporary root. -/
def addedChildren (pin command : String) (data : List (String × String)) :
    Option (List Node) := do
  let pinNode ← addChild "PIN" (escapedText pin)
  let commandNode ← addChild "CMD" (escapedText command)
  let dataNodes ← data.mapM fun child => addChild child.1 (escapedText child.2)
  return [pinNode, commandNode, .element "DATA".toList dataNodes]

section Escaped

variable {fuel : Nat} {rest : List Char}

theorem addedText_plain {c : Char} (legal : isChar c = true) (notAmp : c ≠ '&') :
    addedText (c :: rest) (fuel + 1) = (addedText rest fuel).map (c :: ·) := by
  rw [addedText, if_neg notAmp, if_pos legal]

theorem addedText_reference {inner : List Char} {c : Char} (closed : ';' ∉ inner)
    (refers : referredChar inner = some c)
    (kept : refersToNothing inner = false) :
    addedText ('&' :: (inner ++ ';' :: rest)) (fuel + 1) =
      (addedText rest fuel).map (c :: ·) := by
  have inside : ∀ d ∈ inner, decide (d ≠ ';') = true := by
    intro d member
    exact decide_eq_true (ne_of_mem_of_not_mem member closed)
  have taken := (span_stop inside (by decide : decide (';' ≠ ';') = false) rest).1
  have behind : (inner ++ ';' :: rest).drop (inner.length + 1) = rest := by
    rw [← List.drop_drop, List.drop_left]
    rfl
  rw [addedText, if_pos rfl]
  simp only [taken, List.drop_left, behind, kept, refers]
  cases addedText rest fuel <;> rfl

/-- `addChild` resolves what `htmlspecialchars` writes for a character. -/
theorem addedText_htmlspecialchars {c : Char} (legal : isChar c = true) :
    addedText (htmlspecialchars c ++ rest) (fuel + 1) = (addedText rest fuel).map (c :: ·) := by
  unfold htmlspecialchars
  split_ifs with isAmp isLt isGt isQuote isApostrophe
  · rw [isAmp]
    exact addedText_reference (by decide : ';' ∉ "amp".toList) rfl rfl
  · rw [isLt]
    exact addedText_reference (by decide : ';' ∉ "lt".toList) rfl rfl
  · rw [isGt]
    exact addedText_reference (by decide : ';' ∉ "gt".toList) rfl rfl
  · rw [isQuote]
    exact addedText_reference (by decide : ';' ∉ "quot".toList) rfl rfl
  · rw [isApostrophe]
    exact addedText_reference (by decide : ';' ∉ "#039".toList) (by decide) rfl
  · exact addedText_plain legal isAmp

/-- A text whose characters are each taken back is taken back. -/
theorem addedText_flatMap {text : List Char} {escape : Char → List Char}
    (resolved : ∀ c ∈ text, ∀ rest fuel,
      addedText (escape c ++ rest) (fuel + 1) = (addedText rest fuel).map (c :: ·))
    (enough : text.length < fuel) : addedText (text.flatMap escape) fuel = some text := by
  induction text generalizing fuel with
  | nil =>
      cases fuel with
      | zero => omega
      | succ fuel => rfl
  | cons c text inductionHypothesis =>
      obtain ⟨first, others⟩ := List.forall_mem_cons.mp resolved
      rw [List.length_cons] at enough
      cases fuel with
      | zero => omega
      | succ fuel =>
          rw [List.flatMap_cons, first, inductionHypothesis others (by omega)]
          rfl

theorem addedText_flatMap_htmlspecialchars {text : List Char} (legal : text.all isChar = true)
    (enough : text.length < fuel) :
    addedText (text.flatMap htmlspecialchars) fuel = some text := by
  apply addedText_flatMap _ enough
  intro c member rest fuel
  exact addedText_htmlspecialchars (List.all_eq_true.mp legal c member)

/-- Without an `&` a legal text is added as it is. -/
theorem addedText_of_notMem {text : List Char} (legal : text.all isChar = true)
    (noAmp : '&' ∉ text) (enough : text.length < fuel) : addedText text fuel = some text := by
  have resolved : ∀ c ∈ text, ∀ rest fuel,
      addedText ([c] ++ rest) (fuel + 1) = (addedText rest fuel).map (c :: ·) := by
    intro c member rest fuel
    exact addedText_plain (List.all_eq_true.mp legal c member)
      (ne_of_mem_of_not_mem member noAmp)
  have plain := addedText_flatMap resolved enough
  rwa [List.flatMap_singleton'] at plain

theorem isChar_htmlspecialchars {c : Char} (legal : isChar c = true) :
    ∀ d ∈ htmlspecialchars c, isChar d = true := by
  intro d member
  unfold htmlspecialchars at member
  split_ifs at member with isAmp isLt isGt isQuote isApostrophe
  · exact List.all_eq_true.mp (by decide : "&amp;".toList.all isChar = true) d member
  · exact List.all_eq_true.mp (by decide : "&lt;".toList.all isChar = true) d member
  · exact List.all_eq_true.mp (by decide : "&gt;".toList.all isChar = true) d member
  · exact List.all_eq_true.mp (by decide : "&quot;".toList.all isChar = true) d member
  · exact List.all_eq_true.mp (by decide : "&#039;".toList.all isChar = true) d member
  · rw [List.mem_singleton.mp member]
    exact legal

theorem length_le_flatMap (text : List Char) :
    text.length ≤ (text.flatMap htmlspecialchars).length := by
  induction text with
  | nil => simp
  | cons c text inductionHypothesis =>
      have atLeastOne : 1 ≤ (htmlspecialchars c).length := by
        unfold htmlspecialchars
        split_ifs <;> simp
      rw [List.flatMap_cons, List.length_append, List.length_cons]
      omega

end Escaped

/-- The two together add the text itself. -/
theorem addChild_escapedText (name : String) {text : String}
    (legal : text.toList.all isChar = true) :
    addChild name (escapedText text) = some (childNode name text) := by
  have whole : (text.toList.flatMap htmlspecialchars).takeWhile (· ≠ '\x00') =
      text.toList.flatMap htmlspecialchars := by
    apply List.takeWhile_eq_self_iff.mpr
    intro d member
    obtain ⟨c, isIn, isPart⟩ := List.mem_flatMap.mp member
    have isLegal := isChar_htmlspecialchars (List.all_eq_true.mp legal c isIn) d isPart
    refine decide_eq_true ?_
    rintro rfl
    exact absurd isLegal (by decide)
  have enough := length_le_flatMap text.toList
  rw [addChild, escapedText, String.length_ofList, String.toList_ofList, whole,
    addedText_flatMap_htmlspecialchars legal (by omega)]
  rfl

/-- Strings as the values of a payload. -/
def asValues (data : List (String × String)) : List (String × Value) :=
  data.map fun child => (child.1, .str child.2)

theorem buildKraXml_asValues (pin command : String) (data : List (String × String)) :
    buildKraXml pin command (asValues data) = .ok ⟨pin, command, asValues data⟩ := by
  rw [buildKraXml_eq_ok]
  refine ⟨?_, rfl⟩
  rw [asValues, List.any_map]
  exact List.any_eq_false.mpr fun child _ => Bool.false_ne_true

theorem addedChildren_eq_some {pin command : String} {data : List (String × String)}
    (pinLegal : pin.toList.all isChar = true) (commandLegal : command.toList.all isChar = true)
    (legal : ∀ child ∈ data, child.2.toList.all isChar = true) :
    addedChildren pin command data = some (payloadNodes ⟨pin, command, asValues data⟩) := by
  have areAdded : data.mapM (fun child => addChild child.1 (escapedText child.2)) =
      some (data.map fun child => childNode child.1 child.2) := by
    induction data with
    | nil => rfl
    | cons child data inductionHypothesis =>
        have others := inductionHypothesis fun other member => legal other (by simp [member])
        rw [List.mapM_cons, addChild_escapedText child.1 (legal child (by simp)), others]
        rfl
  have sameData : (asValues data).map
      (fun child => childNode child.1 (child.2.toText.toOption.getD "")) =
        data.map fun child => childNode child.1 child.2 := by
    rw [asValues, List.map_map]
    rfl
  rw [addedChildren, addChild_escapedText "PIN" pinLegal, addChild_escapedText "CMD" commandLegal,
    areAdded, payloadNodes, sameData]
  rfl

/-! ## Reading -/

/-- The tree of a document without attributes, namespaces and other markup, as
`simplexml_load_string` reads it. -/
def readXml (text : String) : Option Xml :=
  (readDocument text.toList).bind fun node => (MockTree.elements node).head?

theorem directText_append (front back : List Node) :
    MockTree.directText (front ++ back) =
      MockTree.directText front ++ MockTree.directText back :=
  List.flatMap_append

theorem elementsOf_append (front back : List Node) :
    MockTree.elementsOf (front ++ back) =
      MockTree.elementsOf front ++ MockTree.elementsOf back := by
  induction front with
  | nil => rfl
  | cons node front inductionHypothesis =>
      rw [List.cons_append, MockTree.elementsOf, MockTree.elementsOf, inductionHypothesis,
        List.append_assoc]

/-- Texts say the same in one piece or in many. -/
theorem directText_spreadAll (nodes : List Node) :
    MockTree.directText (spreadAll nodes) = MockTree.directText nodes := by
  induction nodes with
  | nil => rfl
  | cons node nodes inductionHypothesis =>
      have first : MockTree.directText node.spread = MockTree.directText [node] := by
        cases node with
        | text characters =>
            rw [Node.spread, MockTree.directText, List.flatMap_map]
            simp [MockTree.directText]
        | element name children => rfl
      rw [spreadAll, directText_append, first, inductionHypothesis, ← directText_append]
      rfl

theorem elementsOf_spreadAll (nodes : List Node) :
    MockTree.elementsOf (spreadAll nodes) = MockTree.elementsOf nodes := by
  refine @Node.rec_1
    (fun node => MockTree.elementsOf node.spread = MockTree.elements node)
    (fun nodes => MockTree.elementsOf (spreadAll nodes) = MockTree.elementsOf nodes)
    ?text ?element ?nil ?cons nodes
  case text =>
    intro characters
    induction characters with
    | nil => rfl
    | cons c characters inductionHypothesis => exact inductionHypothesis
  case element =>
    intro name children areChildren
    rw [Node.spread, MockTree.elementsOf, MockTree.elements, areChildren, directText_spreadAll]
    exact List.append_nil _
  case nil => rfl
  case cons =>
    intro node nodes isFirst areNodes
    rw [spreadAll, elementsOf_append, isFirst, areNodes]
    rfl

/-- A written element is read as what it says. -/
theorem readXml_write {name : List Char} {children : List Node}
    (plain : (Node.element name children).isPlain = true) {text : String}
    (written : text.toList = (Node.element name children).write (escapeChar false)) :
    readXml text =
      some (.element (String.ofList name) (String.ofList (MockTree.directText children))
        (MockTree.elementsOf children)) := by
  rw [readXml, written, readDocument_write (isUndone_escapeChar false) plain, Option.bind_some,
    MockTree.elements, directText_spreadAll, elementsOf_spreadAll]
  rfl

/-! ## A body with a root -/

/-- A payload of legal characters, whose keys have no prefix. -/
structure IsPayload (pin command : String) (data : List (String × String)) : Prop where
  pinLegal : pin.toList.all isChar = true
  commandLegal : command.toList.all isChar = true
  legal : ∀ child ∈ data, isPlainName child.1.toList = true ∧ child.2.toList.all isChar = true

section Payload

variable {pin command : String} {data : List (String × String)}

/-- A name without a colon is kept. -/
theorem localName_of_isPlainName {name : List Char} (plain : isPlainName name = true) :
    localName name = name := by
  have noColon : ':' ∉ name := by
    have isPlain := (Bool.and_eq_true_iff.mp plain).2
    simpa using isPlain
  have kept : name.dropWhile (· ≠ ':') = [] := by
    apply List.dropWhile_eq_nil_iff.mpr
    intro c member
    exact decide_eq_true (ne_of_mem_of_not_mem member noColon)
  rw [localName, kept]
  exact ite_self name

theorem elements_childNode {name text : String} (plain : isPlainName name.toList = true) :
    MockTree.elements (childNode name text) = [.element name text []] := by
  rw [childNode, MockTree.elements, localName_of_isPlainName plain]
  simp [MockTree.directText, MockTree.elementsOf, MockTree.elements]

theorem isPlain_childNode {name text : String} (plain : isPlainName name.toList = true)
    (legal : text.toList.all isChar = true) : (childNode name text).isPlain = true := by
  rw [childNode, Node.isPlain, localName_of_isPlainName plain, plain]
  simp [allPlain, Node.isPlain, legal]

theorem elementsOf_children (plain : ∀ child ∈ data, isPlainName child.1.toList = true) :
    MockTree.elementsOf (data.map fun child => childNode child.1 child.2) =
      data.map fun child => .element child.1 child.2 [] := by
  induction data with
  | nil => rfl
  | cons child data inductionHypothesis =>
      have others := inductionHypothesis fun other member => plain other (by simp [member])
      rw [List.map_cons, MockTree.elementsOf, elements_childNode (plain child (by simp)), others]
      rfl

theorem directText_children (data : List (String × String)) :
    MockTree.directText (data.map fun child => childNode child.1 child.2) = [] := by
  rw [MockTree.directText, List.flatMap_map]
  exact List.flatMap_eq_nil_iff.mpr fun _ _ => rfl

theorem allPlain_children
    (legal : ∀ child ∈ data,
      isPlainName child.1.toList = true ∧ child.2.toList.all isChar = true) :
    allPlain (data.map fun child => childNode child.1 child.2) = true := by
  induction data with
  | nil => rfl
  | cons child data inductionHypothesis =>
      obtain ⟨isPlain, isLegal⟩ := legal child (by simp)
      have others := inductionHypothesis fun other member => legal other (by simp [member])
      rw [List.map_cons, allPlain, isPlain_childNode isPlain isLegal, others]
      rfl

theorem payloadNodes_asValues (pin command : String) (data : List (String × String)) :
    payloadNodes ⟨pin, command, asValues data⟩ =
      [childNode "PIN" pin, childNode "CMD" command,
        .element "DATA".toList (data.map fun child => childNode child.1 child.2)] := by
  rw [payloadNodes, asValues, List.map_map]
  rfl

theorem isPlainName_pin : isPlainName "PIN".toList = true := by decide

theorem isPlainName_command : isPlainName "CMD".toList = true := by decide

/-- What a body within a root says. -/
theorem readXml_elementText (payload : IsPayload pin command data) {root : String}
    (plain : isPlainName root.toList = true) :
    readXml (KraApi.elementText root (kraPayloadElements ⟨pin, command, asValues data⟩)) =
      some (.element root "" (rootXml pin command data).children) := by
  have nodes := payloadNodes_asValues pin command data
  have arePlain : (Node.element root.toList
      (payloadNodes ⟨pin, command, asValues data⟩)).isPlain = true := by
    rw [nodes, Node.isPlain, plain]
    simp only [allPlain, Node.isPlain, isPlain_childNode isPlainName_pin payload.pinLegal,
      isPlain_childNode isPlainName_command payload.commandLegal,
      allPlain_children payload.legal]
    decide
  have written : (KraApi.elementText root
      (kraPayloadElements ⟨pin, command, asValues data⟩)).toList =
      (Node.element root.toList (payloadNodes ⟨pin, command, asValues data⟩)).write
        (escapeChar false) := by
    simp [KraApi.elementText, kraPayloadElements, nodes, Node.write, writeAll]
  have noText : MockTree.directText (payloadNodes ⟨pin, command, asValues data⟩) = [] := by
    rw [nodes]
    rfl
  have children : MockTree.elementsOf (payloadNodes ⟨pin, command, asValues data⟩) =
      (rootXml pin command data).children := by
    have areChildren := elementsOf_children fun child member => (payload.legal child member).1
    rw [nodes]
    simp only [MockTree.elementsOf, elements_childNode isPlainName_pin,
      elements_childNode isPlainName_command, MockTree.elements, areChildren,
      directText_children]
    rfl
  rw [readXml_write arePlain written, noText, children, String.ofList_toList]

theorem rootXml_children_eq_iff {pin' command' : String} {data' : List (String × String)} :
    (rootXml pin' command' data').children = (rootXml pin command data).children ↔
      pin' = pin ∧ command' = command ∧ data' = data := by
  have injective : Function.Injective
      fun child : String × String => Xml.element child.1 child.2 [] := by
    intro child child' same
    obtain ⟨sameKey, sameText, -⟩ := Xml.element.inj same
    exact Prod.ext sameKey sameText
  simp [rootXml, Xml.children, (List.map_injective_iff.mpr injective).eq_iff]

/-- Without a root nothing is read of it. -/
theorem readXml_kraPayloadElements (xml : KraXml) : readXml (kraPayloadElements xml) = none := by
  have unread : readDocument (kraPayloadElements xml).toList = none := by
    cases read : readDocument (kraPayloadElements xml).toList with
    | none => rfl
    | some node =>
        exact absurd (isDocument_of_readDocument read) (not_isDocument_kraPayloadElements xml)
  rw [readXml, unread]
  rfl

end Payload

/-! ## Round trip -/

/-- The body that `sendCommand` transmits for what `buildKraXml` makes of a payload. -/
def sentBody (pin command : String) (data : List (String × String)) : Except Throwable String :=
  (buildKraXml pin command (asValues data)).map kraPayloadElements

/-- The children are added as they are, and within whatever root the body is read as
the PIN, the command and the data, in their order. -/
def ReadsBack (platform : Platform) (pin command : String) (data : List (String × String)) :
    Prop :=
  ∃ xml, buildKraXml pin command (asValues data) = .ok xml ∧
    addedChildren pin command data = some (payloadNodes xml) ∧
    ∀ root : String, isPlainName root.toList = true →
      platform.simplexmlLoadString (KraApi.elementText root (kraPayloadElements xml)) =
        some (.element root "" (rootXml pin command data).children)

section RoundTrip

variable {platform : Platform} {pin command : String} {data : List (String × String)}

theorem readsBack_of_isPayload
    (reads : ∀ text xml, readXml text = some xml →
      platform.simplexmlLoadString text = some xml)
    (payload : IsPayload pin command data) : ReadsBack platform pin command data := by
  refine ⟨_, buildKraXml_asValues pin command data, ?_, ?_⟩
  · exact addedChildren_eq_some payload.pinLegal payload.commandLegal
      fun child member => (payload.legal child member).2
  · intro root plain
    exact reads _ _ (readXml_elementText payload plain)

theorem sentBody_injective {pin' command' : String} {data' : List (String × String)}
    (payload : IsPayload pin command data) (payload' : IsPayload pin' command' data')
    (same : sentBody pin' command' data' = sentBody pin command data) :
    pin' = pin ∧ command' = command ∧ data' = data := by
  have sameBody : kraPayloadElements ⟨pin', command', asValues data'⟩ =
      kraPayloadElements ⟨pin, command, asValues data⟩ := by
    rw [sentBody, sentBody, buildKraXml_asValues, buildKraXml_asValues] at same
    exact Except.ok.inj same
  have isRoot : isPlainName "root".toList = true := by decide
  have read := readXml_elementText payload isRoot
  rw [← sameBody, readXml_elementText payload' isRoot] at read
  obtain ⟨-, -, sameChildren⟩ := Xml.element.inj (Option.some.inj read)
  exact rootXml_children_eq_iff.mp sameChildren

/-- A payload of legal characters with keys that have no prefix is read back, and no
other one has the same body. -/
theorem payload_read_back
    (reads : ∀ text xml, readXml text = some xml →
      platform.simplexmlLoadString text = some xml)
    (payload : IsPayload pin command data) :
    ReadsBack platform pin command data ∧
      ∀ pin' command' data', IsPayload pin' command' data' →
        sentBody pin' command' data' = sentBody pin command data →
        pin' = pin ∧ command' = command ∧ data' = data :=
  ⟨readsBack_of_isPayload reads payload,
    fun _ _ _ payload' same => sentBody_injective payload payload' same⟩

end RoundTrip

/-! ## Special characters -/

/-- A parser that reads documents without attributes. -/
def xmlReader : Platform where
  simplexmlLoadString := readXml
  asXML := tempRoot
  requestExceptionMessage response := toString response.status

theorem xmlReader_reads (text : String) : xmlReader.simplexmlLoadString text = readXml text := rfl

/-- The item of the unit test of `buildKraXml`. -/
def specialItem : List (String × String) :=
  [("ItemName", "Test & Item <with> special \"characters\""), ("ItemCode", "ITEM&001")]

def encodedItem : List (String × String) :=
  [("ItemName", "Test & Item <with> special \"characters\""), ("ItemCode", "ITEM&amp;001")]

theorem isPayload_specialItem : IsPayload "A123456789B" "SEND_ITEM" specialItem := by
  constructor <;> decide +kernel

theorem isPayload_encodedItem : IsPayload "A123456789B" "SEND_ITEM" encodedItem := by
  constructor <;> decide +kernel

/-- Neither is the item confused with one whose code looks like an entity. -/
theorem payload_read_back_specialItem :
    ReadsBack xmlReader "A123456789B" "SEND_ITEM" specialItem ∧
      sentBody "A123456789B" "SEND_ITEM" encodedItem ≠
        sentBody "A123456789B" "SEND_ITEM" specialItem := by
  obtain ⟨readsBack, onlyOne⟩ :=
    payload_read_back (fun _ _ read => (xmlReader_reads _).trans read) isPayload_specialItem
  refine ⟨readsBack, ?_⟩
  intro same
  have sameData := (onlyOne _ _ _ isPayload_encodedItem same).2.2
  simp [encodedItem, specialItem] at sameData

theorem localName_prefixed : localName "kra:ItemCode".toList = localName "ItemCode".toList := by
  decide +kernel

theorem kraPayloadElements_prefixed :
    kraPayloadElements ⟨"A123456789B", "SEND_ITEM", asValues [("kra:ItemCode", "ITEM001")]⟩ =
      kraPayloadElements ⟨"A123456789B", "SEND_ITEM", asValues [("ItemCode", "ITEM001")]⟩ := by
  rw [kraPayloadElements, kraPayloadElements, payloadNodes_asValues, payloadNodes_asValues]
  simp only [List.map_cons, List.map_nil, childNode, localName_prefixed]

/-- A key with a prefix is read without it, as another payload is. -/
theorem prefixed_key_lost :
    sentBody "A123456789B" "SEND_ITEM" [("kra:ItemCode", "ITEM001")] =
        sentBody "A123456789B" "SEND_ITEM" [("ItemCode", "ITEM001")] ∧
      ¬ ∀ (pin command : String) (data : List (String × String)),
        (data.map Prod.fst).Nodup → pin.toList.all isChar = true →
        command.toList.all isChar = true →
        (∀ child ∈ data, isName child.1.toList = true ∧ child.2.toList.all isChar = true) →
        ReadsBack xmlReader pin command data := by
  constructor
  · rw [sentBody, sentBody, buildKraXml_asValues, buildKraXml_asValues]
    exact congrArg Except.ok kraPayloadElements_prefixed
  intro readBack
  obtain ⟨xml, isBuilt, -, reads⟩ := readBack "A123456789B" "SEND_ITEM"
    [("kra:ItemCode", "ITEM001")] (by decide) (by decide +kernel) (by decide +kernel)
    (by decide +kernel)
  have isXml : xml = ⟨"A123456789B", "SEND_ITEM", asValues [("kra:ItemCode", "ITEM001")]⟩ := by
    rw [buildKraXml_asValues] at isBuilt
    exact (Except.ok.inj isBuilt).symm
  have payload : IsPayload "A123456789B" "SEND_ITEM" [("ItemCode", "ITEM001")] := by
    constructor <;> decide +kernel
  have isRoot : isPlainName "root".toList = true := by decide
  have read := reads "root" isRoot
  rw [isXml, kraPayloadElements_prefixed, xmlReader_reads, readXml_elementText payload isRoot]
    at read
  obtain ⟨-, -, sameChildren⟩ := Xml.element.inj (Option.some.inj read)
  have sameData := (rootXml_children_eq_iff.mp sameChildren).2.2
  simp at sameData

end TaxGateway.Client
