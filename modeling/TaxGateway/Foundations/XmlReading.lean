import TaxGateway.Foundations.XmlDocuments

/-!
Contract: reading documents that have neither attributes nor namespaces.

Owns:
- a reader of elements, characters and references, which refuses all other markup but
  a declaration it is given;
- that what it reads is a document;
- that it reads back every tree written with a way of writing characters that it
  undoes, up to how text is cut in pieces.

Does not own: comments, sections, instructions, other declarations, or what a tree means.
-/

namespace TaxGateway.XmlDocuments

/-! ## The reader -/

/-- A name without a prefix. -/
def isPlainName (name : List Char) : Bool :=
  isName name && !name.contains ':'

/-- A character of text, or a reference to one. -/
def readChar : List Char → Option (Char × List Char)
  | [] => none
  | c :: rest =>
      if c = '&' then
        match rest.dropWhile (· ≠ ';') with
        | ';' :: behind =>
            (referredChar (rest.takeWhile (· ≠ ';'))).map fun referred => (referred, behind)
        | _ => none
      else if isChar c && c ≠ '<' && c ≠ '>' && c ≠ '\r' then some (c, rest)
      else none

/-- An element, given how content is read. -/
def readElement (readInner : List Char → Option (List Node × List Char)) (text : List Char) :
    Option (Node × List Char) :=
  match text with
  | '<' :: opened =>
      let name := opened.takeWhile isNameChar
      if isPlainName name then
        match opened.dropWhile isNameChar with
        | '/' :: '>' :: behind => some (.element name [], behind)
        | '>' :: inner =>
            (readInner inner).bind fun (children, closing) =>
              (closing.dropPrefix? ('<' :: '/' :: (name ++ ['>']))).map fun behind =>
                (.element name children, behind)
        | _ => none
      else none
  | _ => none

/-- An element or a character. -/
def readNode (readInner : List Char → Option (List Node × List Char)) (text : List Char) :
    Option (Node × List Char) :=
  if text.head? = some '<' then readElement readInner text
  else (readChar text).map fun (c, behind) => (.text [c], behind)

/-- Content ends with the text or with an end tag. -/
def stops (text : List Char) : Bool :=
  text.isEmpty || ['<', '/'].isPrefixOf text

/-- The content before an end tag, and what is left. Text is read a character at a
time. -/
def readContent : Nat → List Char → Option (List Node × List Char)
  | 0, _ => none
  | fuel + 1, text =>
      if stops text then some ([], text)
      else
        (readNode (readContent fuel) text).bind fun (node, behind) =>
          (readContent fuel behind).map fun (others, rest) => (node :: others, rest)

/-- One element and nothing behind it. -/
def readDocument (text : List Char) : Option Node :=
  match readElement (readContent text.length) text with
  | some (node, []) => some node
  | _ => none

/-- One element behind a declaration, and blanks behind it. -/
def readDeclared (declaration text : List Char) : Option Node :=
  (text.dropPrefix? declaration).bind fun behind =>
    match readElement (readContent behind.length) behind with
    | some (node, rest) => if rest.all isSpace then some node else none
    | none => none

mutual

/-- A node with its text cut into characters. -/
def Node.spread : Node → List Node
  | .text characters => characters.map fun c => .text [c]
  | .element name children => [.element name (spreadAll children)]

def spreadAll : List Node → List Node
  | [] => []
  | node :: rest => node.spread ++ spreadAll rest

end

mutual

/-- Names have no prefix and characters are legal. -/
def Node.isPlain : Node → Bool
  | .text characters => characters.all isChar
  | .element name children => isPlainName name && allPlain children

def allPlain : List Node → Bool
  | [] => true
  | node :: rest => node.isPlain && allPlain rest

end

/-! ## Characters -/

/-- Where a run is taken up to the first character of another kind. -/
theorem span_stop {p : Char → Bool} {front : List Char} {d : Char}
    (inside : ∀ c ∈ front, p c = true) (stop : p d = false) (rest : List Char) :
    (front ++ d :: rest).takeWhile p = front ∧ (front ++ d :: rest).dropWhile p = d :: rest := by
  constructor
  · rw [List.takeWhile_append_of_pos inside]
    simp [stop]
  · rw [List.dropWhile_append_of_pos inside]
    simp [stop]

theorem isName_of_isPlainName {name : List Char} (plain : isPlainName name = true) :
    isName name = true :=
  (Bool.and_eq_true_iff.mp plain).1

theorem readChar_plain {c : Char} (legal : isChar c = true) (notAmp : c ≠ '&') (notLt : c ≠ '<')
    (notGt : c ≠ '>') (notReturn : c ≠ '\r') (rest : List Char) :
    readChar (c :: rest) = some (c, rest) := by
  simp [readChar, legal, notAmp, notLt, notGt, notReturn]

theorem readChar_reference {inner : List Char} (closed : ';' ∉ inner) (behind : List Char) :
    readChar ('&' :: (inner ++ ';' :: behind)) =
      (referredChar inner).map fun referred => (referred, behind) := by
  have inside : ∀ c ∈ inner, decide (c ≠ ';') = true := by
    intro c member
    exact decide_eq_true (ne_of_mem_of_not_mem member closed)
  obtain ⟨taken, left⟩ := span_stop inside (by decide : decide (';' ≠ ';') = false) behind
  simp only [readChar, if_true, left, taken]

/-- What is read is a piece of content, and no tag. -/
theorem exists_piece_of_readChar (declares : Bool) {text behind : List Char} {c : Char}
    (read : readChar text = some (c, behind)) :
    ∃ first others, text = first :: (others ++ behind) ∧ first ≠ '<' ∧
      IsPiece declares (first :: others) := by
  cases text with
  | nil => contradiction
  | cons first rest =>
      rw [readChar] at read
      split_ifs at read with isAmp isPlain
      · have whole := List.takeWhile_append_dropWhile (p := (· ≠ ';')) (l := rest)
        split at read
        next left isLeft =>
          obtain ⟨referred, refers, same⟩ := Option.map_eq_some_iff.mp read
          obtain ⟨-, rfl⟩ := Prod.mk.inj same
          rw [isLeft] at whole
          refine ⟨first, rest.takeWhile (· ≠ ';') ++ [';'], ?_, ?_, ?_⟩
          · rw [List.append_assoc]
            exact congrArg (first :: ·) whole.symm
          · rw [isAmp]
            decide
          · rw [isAmp]
            exact .reference ⟨_, rfl, .inl (by rw [refers]; rfl)⟩
        next => contradiction
      · simp only [Bool.and_eq_true, decide_eq_true_eq] at isPlain
        obtain ⟨⟨⟨legal, notLt⟩, -⟩, -⟩ := isPlain
        obtain ⟨-, rfl⟩ := Prod.mk.inj (Option.some.inj read)
        exact ⟨first, [], rfl, notLt, .char legal notLt isAmp⟩

/-- A way of writing characters that the reader undoes. -/
def IsUndone (escape : Char → List Char) : Prop :=
  ∀ c, isChar c = true → ∀ rest, readChar (escape c ++ rest) = some (c, rest)

theorem semicolon_notMem_hexDigits (value : Nat) : ';' ∉ hexDigits value := by
  intro member
  obtain ⟨digit, small, isDigit⟩ := mem_hexDigits member
  have notDigit : digitValue ';' = 16 := rfl
  rw [isDigit, digitValue_hexDigit small] at notDigit
  omega

/-- With an encoding declared, only the carriage return is a reference. -/
theorem isUndone_escapeChar (encoded : Bool) : IsUndone (escapeChar encoded) := by
  intro c legal rest
  unfold escapeChar
  split_ifs with isLt isGt isAmp isPlain isEncoded
  · rw [isLt]
    exact readChar_reference (by decide : ';' ∉ "lt".toList) rest
  · rw [isGt]
    exact readChar_reference (by decide : ';' ∉ "gt".toList) rest
  · rw [isAmp]
    exact readChar_reference (by decide : ';' ∉ "amp".toList) rest
  · have notReturn : c ≠ '\r' := by
      rintro rfl
      cases encoded <;> exact absurd isPlain (by decide)
    exact readChar_plain legal isAmp isLt isGt notReturn rest
  · have isReturn : c = '\r' := by
      by_contra other
      simp [isEncoded, other] at isPlain
    rw [isReturn]
    exact readChar_reference (by decide : ';' ∉ "#13".toList) rest
  · have closed : ';' ∉ '#' :: 'x' :: hexDigits c.toNat := by
      simpa using semicolon_notMem_hexDigits c.toNat
    have read := readChar_reference closed rest
    rw [referredChar_hexDigits legal] at read
    simpa using read

/-! ## What is read -/

section Sound

variable {declares : Bool}

/-- What is taken from the front of a text is content. -/
def TakesContent (declares : Bool) (readInner : List Char → Option (List Node × List Char)) :
    Prop :=
  ∀ {text nodes rest}, readInner text = some (nodes, rest) →
    ∃ content, text = content ++ rest ∧ IsContent declares content

variable {readInner : List Char → Option (List Node × List Char)} {text behind : List Char}
  {node : Node}

theorem exists_element_of_readElement (takes : TakesContent declares readInner)
    (read : readElement readInner text = some (node, behind)) :
    ∃ element, text = element ++ behind ∧ IsElement declares element := by
  unfold readElement at read
  split at read
  next opened =>
    have whole := List.takeWhile_append_dropWhile (p := isNameChar) (l := opened)
    generalize opened.takeWhile isNameChar = name at read whole
    dsimp only at read
    split_ifs at read with plain
    have legal := isName_of_isPlainName plain
    split at read
    next left isLeft =>
      obtain ⟨-, rfl⟩ := Prod.mk.inj (Option.some.inj read)
      rw [isLeft] at whole
      refine ⟨'<' :: (name ++ [] ++ ['/', '>']), ?_, .empty legal (.blank (by simp))⟩
      rw [← whole]
      simp
    next inner isLeft =>
      obtain ⟨⟨children, closing⟩, isInner, closes⟩ := Option.bind_eq_some_iff.mp read
      obtain ⟨left, isClosed, same⟩ := Option.map_eq_some_iff.mp closes
      obtain ⟨-, rfl⟩ := Prod.mk.inj same
      obtain ⟨content, rfl, isContent⟩ := takes isInner
      obtain ⟨endTag, rfl, isEndTag⟩ := List.dropPrefix?_eq_some_iff.mp isClosed
      rw [isLeft] at whole
      refine ⟨_, ?_, isElement_of_content legal isContent⟩
      rw [← whole, eq_of_beq isEndTag]
      simp
    next => contradiction
  next => contradiction

/-- A node that is read is a piece of content or an element. -/
theorem exists_part_of_readNode (takes : TakesContent declares readInner)
    (read : readNode readInner text = some (node, behind)) :
    ∃ part, text = part ++ behind ∧ IsContent declares part := by
  unfold readNode at read
  split_ifs at read with isTag
  · obtain ⟨element, rfl, isElement⟩ := exists_element_of_readElement takes read
    exact ⟨element, rfl, isContent_of_isElement isElement⟩
  · obtain ⟨⟨c, left⟩, isChar, same⟩ := Option.map_eq_some_iff.mp read
    obtain ⟨-, rfl⟩ := Prod.mk.inj same
    obtain ⟨first, others, rfl, -, isPiece⟩ := exists_piece_of_readChar declares isChar
    refine ⟨first :: others, rfl, [first :: others], by simp, ?_⟩
    intro part member notPiece
    rw [List.mem_singleton.mp member] at notPiece
    exact absurd isPiece notPiece

theorem takesContent_readContent (fuel : Nat) : TakesContent declares (readContent fuel) := by
  induction fuel with
  | zero =>
      intro text nodes rest read
      contradiction
  | succ fuel inductionHypothesis =>
      intro text nodes rest read
      rw [readContent] at read
      split_ifs at read with isEnd
      · obtain ⟨-, rfl⟩ := Prod.mk.inj (Option.some.inj read)
        exact ⟨[], rfl, [], rfl, by simp⟩
      · obtain ⟨⟨node, behind⟩, isNode, others⟩ := Option.bind_eq_some_iff.mp read
        obtain ⟨⟨later, left⟩, areOthers, same⟩ := Option.map_eq_some_iff.mp others
        obtain ⟨-, rfl⟩ := Prod.mk.inj same
        obtain ⟨part, rfl, isPart⟩ := exists_part_of_readNode inductionHypothesis isNode
        obtain ⟨content, rfl, isContent⟩ := inductionHypothesis areOthers
        exact ⟨part ++ content, by rw [List.append_assoc], isContent_append isPart isContent⟩

/-- What is read is a document. -/
theorem isDocument_of_readDocument (read : readDocument text = some node) :
    IsDocument text := by
  unfold readDocument at read
  split at read
  next element isElement =>
    obtain ⟨root, isText, isRoot⟩ :=
      exists_element_of_readElement (takesContent_readContent _) isElement
    have isDocument := IsDocument.plain .nil isRoot .nil
    rwa [List.nil_append, ← isText] at isDocument
  next => contradiction

end Sound

/-! ## Written trees -/

/-- With enough fuel the content before the rest is read as these nodes. -/
def Reads (text : List Char) (nodes : List Node) (rest : List Char) : Prop :=
  ∀ fuel, text.length < fuel → readContent fuel text = some (nodes, rest)

theorem reads_nil {rest : List Char} (stop : stops rest = true) : Reads rest [] rest := by
  intro fuel enough
  cases fuel with
  | zero => omega
  | succ fuel => rw [readContent, if_pos stop]

/-- A node in front of content that is read. -/
theorem reads_cons {text behind rest : List Char} {node : Node} {nodes : List Node}
    (goesOn : stops text = false) (shorter : behind.length < text.length)
    (read : ∀ fuel, text.length ≤ fuel → readNode (readContent fuel) text = some (node, behind))
    (others : Reads behind nodes rest) : Reads text (node :: nodes) rest := by
  intro fuel enough
  cases fuel with
  | zero => omega
  | succ fuel =>
      have areOthers := others fuel (by omega)
      rw [readContent, goesOn, read fuel (by omega)]
      simp [areOthers]

variable {escape : Char → List Char}

theorem readChar_eq_some {text behind : List Char} {c : Char}
    (read : readChar text = some (c, behind)) :
    stops text = false ∧ text.head? ≠ some '<' ∧ behind.length < text.length := by
  obtain ⟨first, others, rfl, notTag, -⟩ := exists_piece_of_readChar false read
  refine ⟨?_, ?_, ?_⟩
  · simp [stops, List.isPrefixOf, Ne.symm notTag]
  · simpa using notTag
  · simp only [List.length_cons, List.length_append]
    omega

/-- A character in front of content that is read. -/
theorem reads_char (undone : IsUndone escape) {c : Char} (legal : isChar c = true)
    {behind rest : List Char} {nodes : List Node} (others : Reads behind nodes rest) :
    Reads (escape c ++ behind) (.text [c] :: nodes) rest := by
  have read := undone c legal behind
  obtain ⟨goesOn, notTag, shorter⟩ := readChar_eq_some read
  refine reads_cons goesOn shorter ?_ others
  intro fuel _
  rw [readNode, if_neg notTag, read]
  rfl

theorem reads_text (undone : IsUndone escape) {behind rest : List Char} {nodes : List Node}
    (others : Reads behind nodes rest) (characters : List Char)
    (legal : characters.all isChar = true) :
    Reads (characters.flatMap escape ++ behind)
      (characters.map (fun c => .text [c]) ++ nodes) rest := by
  induction characters with
  | nil => exact others
  | cons c characters inductionHypothesis =>
      obtain ⟨isLegal, areLegal⟩ := Bool.and_eq_true_iff.mp legal
      rw [List.flatMap_cons, List.append_assoc]
      exact reads_char undone isLegal (inductionHypothesis areLegal)

section Tags

variable {name : List Char} {readInner : List Char → Option (List Node × List Char)}

theorem isNameChar_of_isPlainName (plain : isPlainName name = true) :
    ∀ c ∈ name, isNameChar c = true :=
  fun _ member => isNameChar_of_isName (isName_of_isPlainName plain) member

theorem readElement_empty (plain : isPlainName name = true) (behind : List Char) :
    readElement readInner ('<' :: (name ++ '/' :: '>' :: behind)) =
      some (.element name [], behind) := by
  obtain ⟨taken, left⟩ := span_stop (isNameChar_of_isPlainName plain) isNameChar_slash
    ('>' :: behind)
  simp only [readElement, taken, left, plain, if_true]

theorem readElement_tags (plain : isPlainName name = true) {inner behind : List Char}
    {children : List Node}
    (read : readInner inner = some (children, '<' :: '/' :: (name ++ '>' :: behind))) :
    readElement readInner ('<' :: (name ++ '>' :: inner)) =
      some (.element name children, behind) := by
  obtain ⟨taken, left⟩ := span_stop (isNameChar_of_isPlainName plain) isNameChar_gt inner
  have closes : ('<' :: '/' :: (name ++ '>' :: behind)).dropPrefix?
      ('<' :: '/' :: (name ++ ['>'])) = some behind := by
    rw [List.dropPrefix?_eq_some_iff]
    exact ⟨'<' :: '/' :: (name ++ ['>']), by simp, by simp⟩
  simp only [readElement, taken, left, plain, if_true, read, Option.bind_some, closes,
    Option.map_some]

theorem stops_tag (plain : isPlainName name = true) (behind : List Char) :
    stops ('<' :: (name ++ behind)) = false := by
  obtain ⟨first, others, rfl, start⟩ := exists_start_of_isName (isName_of_isPlainName plain)
  have notSlash := (isNameStartChar_aside start).2.2
  simp [stops, List.isPrefixOf, Ne.symm notSlash]

variable {children nodes : List Node}

/-- What children are read as, in front of what ends the content. -/
def ReadInside (escape : Char → List Char) (children nodes : List Node) : Prop :=
  ∀ closing, stops closing = true → Reads (writeAll escape children ++ closing) nodes closing

theorem readElement_write (plain : isPlainName name = true)
    (inside : ReadInside escape children nodes) (behind : List Char) (fuel : Nat)
    (enough : ((Node.element name children).write escape ++ behind).length ≤ fuel) :
    readElement (readContent fuel) ((Node.element name children).write escape ++ behind) =
      some (.element name nodes, behind) := by
  cases children with
  | nil =>
      have isEmpty : nodes = [] := by
        have read := inside [] rfl 1 Nat.one_pos
        exact (Prod.mk.inj (Option.some.inj read)).1.symm
      have written : (Node.element name []).write escape ++ behind =
          '<' :: (name ++ '/' :: '>' :: behind) := by
        simp [Node.write]
      rw [written, isEmpty]
      exact readElement_empty plain behind
  | cons first children =>
      have written : (Node.element name (first :: children)).write escape ++ behind =
          '<' :: (name ++ '>' :: (writeAll escape (first :: children) ++
            '<' :: '/' :: (name ++ '>' :: behind))) := by
        simp [Node.write, writeAll]
      rw [written] at enough ⊢
      apply readElement_tags plain
      apply inside _ rfl
      simp only [List.length_cons, List.length_append] at enough ⊢
      omega

theorem write_element_opens (escape : Char → List Char) (name : List Char)
    (children : List Node) :
    ∃ tail, (Node.element name children).write escape = '<' :: (name ++ tail) := by
  cases children with
  | nil => exact ⟨_, rfl⟩
  | cons first children => exact ⟨_, rfl⟩

/-- An element in front of content that is read, if its children are. -/
theorem reads_element (plain : isPlainName name = true)
    (inside : ReadInside escape children nodes) {behind rest : List Char} {later : List Node}
    (others : Reads behind later rest) :
    Reads ((Node.element name children).write escape ++ behind)
      (.element name nodes :: later) rest := by
  obtain ⟨tail, opens⟩ := write_element_opens escape name children
  refine reads_cons ?_ ?_ ?_ others
  · rw [opens, List.cons_append, List.append_assoc]
    exact stops_tag plain _
  · rw [opens]
    simp only [List.length_cons, List.length_append]
    omega
  · intro fuel enough
    have read := readElement_write plain inside behind fuel enough
    rw [readNode, if_pos (by rw [opens]; rfl), read]

end Tags

/-- What is written for plain nodes is read as them, in front of whatever is read. -/
theorem reads_writeAll (undone : IsUndone escape) (nodes : List Node) :
    allPlain nodes = true → ∀ {behind later rest}, Reads behind later rest →
      Reads (writeAll escape nodes ++ behind) (spreadAll nodes ++ later) rest := by
  refine @Node.rec_1
    (fun node => node.isPlain = true → ∀ {behind later rest}, Reads behind later rest →
      Reads (node.write escape ++ behind) (node.spread ++ later) rest)
    (fun nodes => allPlain nodes = true → ∀ {behind later rest}, Reads behind later rest →
      Reads (writeAll escape nodes ++ behind) (spreadAll nodes ++ later) rest)
    ?text ?element ?nil ?cons nodes
  case text =>
    intro characters legal behind later rest others
    exact reads_text undone others characters legal
  case element =>
    intro name children areChildren legal behind later rest others
    obtain ⟨isPlain, arePlain⟩ := Bool.and_eq_true_iff.mp legal
    refine reads_element isPlain ?_ others
    intro closing stop
    have inside := areChildren arePlain (reads_nil stop)
    rwa [List.append_nil] at inside
  case nil =>
    intro _ behind later rest others
    exact others
  case cons =>
    intro first nodes isFirst areNodes legal behind later rest others
    obtain ⟨isPlain, arePlain⟩ := Bool.and_eq_true_iff.mp legal
    rw [writeAll, spreadAll, List.append_assoc, List.append_assoc]
    exact isFirst isPlain (areNodes arePlain others)

theorem readInside_spreadAll (undone : IsUndone escape) {children : List Node}
    (plain : allPlain children = true) : ReadInside escape children (spreadAll children) := by
  intro closing stop
  have read := reads_writeAll undone children plain (reads_nil stop)
  rwa [List.append_nil] at read

/-- An element that is written is read back. -/
theorem readDocument_write (undone : IsUndone escape) {name : List Char} {children : List Node}
    (plain : (Node.element name children).isPlain = true) :
    readDocument ((Node.element name children).write escape) =
      some (.element name (spreadAll children)) := by
  obtain ⟨isPlain, arePlain⟩ := Bool.and_eq_true_iff.mp plain
  have inside := readInside_spreadAll undone arePlain
  have read := readElement_write isPlain inside [] _ (Nat.le_refl _)
  rw [List.append_nil] at read
  rw [readDocument, read]

/-- So is one that is written behind a declaration. -/
theorem readDeclared_write (undone : IsUndone escape) {name : List Char} {children : List Node}
    (plain : (Node.element name children).isPlain = true) (declaration : List Char)
    {blanks : List Char} (blank : blanks.all isSpace = true) :
    readDeclared declaration
        (declaration ++ (Node.element name children).write escape ++ blanks) =
      some (.element name (spreadAll children)) := by
  obtain ⟨isPlain, arePlain⟩ := Bool.and_eq_true_iff.mp plain
  have inside := readInside_spreadAll undone arePlain
  have read := readElement_write isPlain inside blanks _ (Nat.le_refl _)
  have behind : (declaration ++ (Node.element name children).write escape ++ blanks).dropPrefix?
      declaration = some ((Node.element name children).write escape ++ blanks) := by
    rw [List.dropPrefix?_eq_some_iff, List.append_assoc]
    exact ⟨declaration, rfl, beq_self_eq_true declaration⟩
  rw [readDeclared, behind, Option.bind_some, read]
  exact if_pos blank

end TaxGateway.XmlDocuments
