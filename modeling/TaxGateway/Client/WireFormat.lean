import TaxGateway.Foundations.XmlDocuments
import TaxGateway.Services.Payloads
import TaxGateway.Services.Session

/-!
Contract: the wire format between the client and the mock server.

Owns:
- the body `sendCommand` transmits, and the document it is taken from;
- what `MockServerController` reads from a body;
- that the mock server takes no body the client transmits, and that it would read
  back the command, the PIN and the data if the body kept its root.

Does not own: what the mock server answers.
-/

namespace TaxGateway.Client

open TaxGateway.Php
open TaxGateway.Services
open TaxGateway.Services.Payloads
open TaxGateway.XmlDocuments

/-! ## The client -/

/-- The name under which `addChild` adds a child of no namespace: without its
prefix. -/
def localName (key : List Char) : List Char :=
  if key.head? = some ':' then key
  else
    match key.dropWhile (· ≠ ':') with
    | [] => key
    | _ :: unprefixed => unprefixed

/-- `addChild($name, htmlspecialchars($text))`. -/
def childNode (name text : String) : Node :=
  .element (localName name.toList) [.text text.toList]

/-- The children of the temporary root of `buildKraXml`. -/
def payloadNodes (xml : KraXml) : List Node :=
  [childNode "PIN" xml.pin, childNode "CMD" xml.command,
    .element "DATA".toList
      (xml.data.map fun child => childNode child.1 (child.2.toText.toOption.getD ""))]

/-- The body `sendCommand` sends: the children of the temporary root, one behind the
other. -/
def kraPayloadElements (xml : KraXml) : String :=
  String.ofList (writeAll (escapeChar false) (payloadNodes xml))

/-- The temporary root with them. -/
def tempRoot (xml : KraXml) : String :=
  String.ofList ((Node.element "root".toList (payloadNodes xml)).write (escapeChar false))

/-! ## The mock server -/

/-- The arguments of `KraMockServerService::processCommand`. -/
structure MockCall where
  command : String
  pin : String
  dataPayload : List (String × String)
deriving DecidableEq, Repr

/-- What `handleKraRequest` reads from a parsed body. -/
def mockCall (xml : Xml) : MockCall where
  command := xml.childText "CMD"
  pin := xml.childText "PIN"
  dataPayload := ((xml.child? "DATA").map fieldTexts).getD []

/-- `MockServerController::handleKraRequest`: the call it makes of `processCommand`, if
any, and its answer. -/
def handleKraRequest (platform : Platform) (processCommand : MockCall → Except Throwable String)
    (xmlContent : String) : Option MockCall × Except Throwable HttpResponse :=
  let failed (e : Throwable) : Except Throwable HttpResponse :=
    if e.isException then .ok ⟨500, "Error processing request: " ++ e.message⟩ else .error e
  if (Value.str xmlContent).isEmpty then (none, .ok ⟨400, "Empty request body"⟩)
  else
    match platform.simplexmlLoadString xmlContent with
    | none => (none, failed (.exception "simplexml_load_string(): parser error"))
    | some xml =>
        let call := mockCall xml
        match processCommand call with
        | .ok response => (some call, .ok ⟨200, response⟩)
        | .error e => (some call, failed e)

/-! ## Between them -/

section Between

variable {platform : Platform} {processCommand : MockCall → Except Throwable String}

/-- The body made of a command reaches `processCommand` as that command. -/
def Understood (platform : Platform) (processCommand : MockCall → Except Throwable String)
    (pin command : String) (data : List (String × String)) : Prop :=
  ∃ xml, buildKraXml pin command (data.map fun child => (child.1, .str child.2)) = .ok xml ∧
    (handleKraRequest platform processCommand (kraPayloadElements xml)).1 =
      some ⟨command, pin, data⟩

/-- A transmitted body starts with the PIN's element, and another one behind it. -/
theorem kraPayloadElements_starts (xml : KraXml) :
    ∃ rest, (kraPayloadElements xml).toList =
      '<' :: ("PIN".toList ++ '>' :: (xml.pin.toList.flatMap (escapeChar false) ++ '<' :: '/' ::
        ("PIN".toList ++ '>' :: ('<' :: 'C' :: rest)))) := by
  have isPin : (childNode "PIN" xml.pin).write (escapeChar false) =
      '<' :: ("PIN".toList ++ '>' :: (xml.pin.toList.flatMap (escapeChar false) ++ '<' :: '/' ::
        ("PIN".toList ++ ['>']))) := by
    simp [childNode, localName, Node.write, writeAll]
  have opens : ∃ rest, (childNode "CMD" xml.command).write (escapeChar false) =
      '<' :: 'C' :: rest := ⟨_, rfl⟩
  obtain ⟨rest, isCommand⟩ := opens
  rw [kraPayloadElements, String.toList_ofList, payloadNodes, writeAll, writeAll, isPin, isCommand]
  exact ⟨_, by simp only [List.cons_append, List.append_assoc, List.nil_append]; rfl⟩

/-- So it is no document. -/
theorem not_isDocument_kraPayloadElements (xml : KraXml) :
    ¬ IsDocument (kraPayloadElements xml).toList := by
  obtain ⟨rest, starts⟩ := kraPayloadElements_starts xml
  rw [starts]
  exact not_isDocument_of_siblings (by decide)
    (noAngle_flatMap (noAngle_escapeChar false) xml.pin.toList) (by decide) (by decide)

/-- No text that opens a tag is empty. -/
theorem isEmpty_of_opens {text : String} {rest : List Char} (opens : text.toList = '<' :: rest) :
    (Value.str text).isEmpty = false := by
  simp only [Value.isEmpty, Bool.or_eq_false_iff, decide_eq_false_iff_not]
  constructor
  · intro isEmpty
    rw [isEmpty] at opens
    contradiction
  · intro isZero
    rw [isZero] at opens
    exact absurd (List.cons.inj opens).1 (by decide)

/-- The mock server's parser refuses it. -/
theorem handleKraRequest_kraPayloadElements
    (acceptsOnly : ∀ text xml, platform.simplexmlLoadString text = some xml →
      IsDocument text.toList) (xml : KraXml) :
    handleKraRequest platform processCommand (kraPayloadElements xml) =
      (none, .ok ⟨500, "Error processing request: simplexml_load_string(): parser error"⟩) := by
  have notEmpty : (Value.str (kraPayloadElements xml)).isEmpty = false := by
    obtain ⟨rest, starts⟩ := kraPayloadElements_starts xml
    exact isEmpty_of_opens starts
  have refused : platform.simplexmlLoadString (kraPayloadElements xml) = none := by
    cases read : platform.simplexmlLoadString (kraPayloadElements xml) with
    | none => rfl
    | some parsed =>
        exact absurd (acceptsOnly _ parsed read) (not_isDocument_kraPayloadElements xml)
  simp only [handleKraRequest, notEmpty, refused]
  rfl

/-- No command that the client transmits is understood, if the parser takes nothing but
documents. -/
theorem payload_never_understood
    (acceptsOnly : ∀ text xml, platform.simplexmlLoadString text = some xml →
      IsDocument text.toList) (pin command : String) (data : List (String × String)) :
    ¬ Understood platform processCommand pin command data := by
  rintro ⟨xml, -, calls⟩
  rw [handleKraRequest_kraPayloadElements acceptsOnly] at calls
  contradiction

/-! ## With its root -/

/-- What the temporary root's document says. -/
def rootXml (pin command : String) (data : List (String × String)) : Xml :=
  .element "root" ""
    [.element "PIN" pin [], .element "CMD" command [],
      .element "DATA" "" (data.map fun child => .element child.1 child.2 [])]

/-- Children of distinct names are read back as they are. -/
theorem fieldTexts_of_distinct {data : List (String × String)}
    (distinct : (data.map Prod.fst).Nodup) (name text : String) :
    fieldTexts (.element name text (data.map fun child => .element child.1 child.2 [])) = data := by
  have pairs : (data.map fun child => Xml.element child.1 child.2 []).map
      (fun child => (child.name, child.text)) = data := by
    rw [List.map_map]
    exact List.map_id data
  have named : ((([] : List (String × String)) ++
      (data.map fun child => Xml.element child.1 child.2 []).map
        fun child => (child.name, child.text)).map Prod.fst).Nodup := by
    rw [pairs]
    exact distinct
  have read := foldl_assign_of_distinct named
  rwa [pairs] at read

/-- With its root around it, the same body is understood. -/
theorem tempRoot_understood {xml : KraXml} {pin command : String} {data : List (String × String)}
    (distinct : (data.map Prod.fst).Nodup)
    (reads : platform.simplexmlLoadString (tempRoot xml) = some (rootXml pin command data)) :
    (handleKraRequest platform processCommand (tempRoot xml)).1 = some ⟨command, pin, data⟩ := by
  have notEmpty : (Value.str (tempRoot xml)).isEmpty = false :=
    isEmpty_of_opens (String.toList_ofList)
  have call : mockCall (rootXml pin command data) = ⟨command, pin, data⟩ :=
    congrArg (MockCall.mk command pin) (fieldTexts_of_distinct distinct "DATA" "")
  simp only [handleKraRequest, notEmpty, reads, call, Bool.false_eq_true, if_false]
  cases processCommand ⟨command, pin, data⟩ <;> rfl

end Between

/-! ## A status check -/

/-- A parser that reads the status command of the first shop, if it has its root. -/
def statusReader : Platform :=
  KraApi.platformReading
    [(tempRoot ⟨"P051234567X", "STATUS", []⟩, rootXml "P051234567X" "STATUS" [])]

theorem statusReader_acceptsOnly (text : String) (xml : Xml)
    (read : statusReader.simplexmlLoadString text = some xml) : IsDocument text.toList := by
  have isRoot : text = tempRoot ⟨"P051234567X", "STATUS", []⟩ := by
    by_contra different
    have unread : statusReader.simplexmlLoadString text = none := by
      simp [statusReader, KraApi.platformReading, different]
    rw [unread] at read
    contradiction
  have legal : (Node.element "root".toList
      (payloadNodes ⟨"P051234567X", "STATUS", []⟩)).isLegal = true := by decide +kernel
  rw [isRoot, tempRoot, String.toList_ofList]
  simpa using isDocument_write (fun _ => isPiece_escapeChar false) .nil .nil legal

theorem payload_never_understood_status :
    ¬ Understood statusReader (fun _ => .ok "<KRA/>") "P051234567X" "STATUS" [] :=
  payload_never_understood statusReader_acceptsOnly "P051234567X" "STATUS" []

/-- Its body is refused where the document with the root is understood. -/
theorem status_not_understood :
    (handleKraRequest statusReader (fun _ => .ok "<KRA/>")
        (tempRoot ⟨"P051234567X", "STATUS", []⟩)).1 = some ⟨"STATUS", "P051234567X", []⟩ ∧
      ¬ ∀ (pin command : String) (data : List (String × String)),
        (data.map Prod.fst).Nodup →
        (∀ child ∈ data, isName child.1.toList = true ∧ child.2.toList.all isChar = true) →
        Understood statusReader (fun _ => .ok "<KRA/>") pin command data := by
  constructor
  · apply tempRoot_understood (by simp)
    simp [statusReader, KraApi.platformReading]
  · intro understood
    obtain ⟨xml, -, calls⟩ := understood "P051234567X" "STATUS" [] (by simp) (by simp)
    rw [handleKraRequest_kraPayloadElements statusReader_acceptsOnly] at calls
    contradiction

end TaxGateway.Client
