import Mathlib

/-!
Contract: which texts are XML documents, and the texts written for trees without
attributes.

Owns:
- the productions of XML 1.0 from `Char` to `document`, with the rule that a
  reference names a declared entity; a document type declaration is taken as it is,
  and attributes may repeat;
- trees of elements and text, and the text `libxml` writes for them;
- that a legal tree is written as an element, and what an element is that begins
  like a written one;
- that two elements in a row are no document.

Does not own: what a document means.
-/

namespace TaxGateway.XmlDocuments

/-! ## Characters -/

/-- Production `Char`. -/
def isChar (c : Char) : Bool :=
  c = '\t' || c = '\n' || c = '\r' || (0x20 ≤ c.toNat && c.toNat ≠ 0xFFFE && c.toNat ≠ 0xFFFF)

/-- Production `S`, one character of it. -/
def isSpace (c : Char) : Bool :=
  c = ' ' || c = '\t' || c = '\n' || c = '\r'

/-- Beyond the Latin letters, the ranges of `NameStartChar`. -/
def nameStartRanges : List (Nat × Nat) :=
  [(0xC0, 0xD6), (0xD8, 0xF6), (0xF8, 0x2FF), (0x370, 0x37D), (0x37F, 0x1FFF),
    (0x200C, 0x200D), (0x2070, 0x218F), (0x2C00, 0x2FEF), (0x3001, 0xD7FF), (0xF900, 0xFDCF),
    (0xFDF0, 0xFFFD), (0x10000, 0xEFFFF)]

/-- Production `NameStartChar`. -/
def isNameStartChar (c : Char) : Bool :=
  c = ':' || c = '_' || c.isAlpha ||
    nameStartRanges.any fun range => range.1 ≤ c.toNat && c.toNat ≤ range.2

/-- Production `NameChar`. -/
def isNameChar (c : Char) : Bool :=
  isNameStartChar c || c = '-' || c = '.' || c.isDigit || c.toNat = 0xB7 ||
    (0x300 ≤ c.toNat && c.toNat ≤ 0x36F) || (0x203F ≤ c.toNat && c.toNat ≤ 0x2040)

/-- Production `Name`. -/
def isName : List Char → Bool
  | [] => false
  | first :: rest => isNameStartChar first && rest.all isNameChar

theorem isNameChar_of_isName {name : List Char} (legal : isName name = true) {c : Char}
    (member : c ∈ name) : isNameChar c = true := by
  cases name with
  | nil => contradiction
  | cons first rest =>
      obtain ⟨start, others⟩ := Bool.and_eq_true_iff.mp legal
      rcases List.mem_cons.mp member with rfl | isRest
      · simp [isNameChar, start]
      · exact List.all_eq_true.mp others c isRest

/-- No name starts with what follows `<` in an end tag, a comment, a section or an
instruction. -/
theorem exists_start_of_isName {name : List Char} (legal : isName name = true) :
    ∃ first rest, name = first :: rest ∧ isNameStartChar first = true := by
  cases name with
  | nil => contradiction
  | cons first rest => exact ⟨first, rest, rfl, (Bool.and_eq_true_iff.mp legal).1⟩

/-! ## References -/

/-- The value of a hexadecimal digit, and of anything else one that no base has. -/
def digitValue (digit : Char) : Nat :=
  if digit.isDigit then digit.toNat - '0'.toNat
  else if 'a' ≤ digit ∧ digit ≤ 'f' then digit.toNat - 'a'.toNat + 10
  else if 'A' ≤ digit ∧ digit ≤ 'F' then digit.toNat - 'A'.toNat + 10
  else 16

/-- The value of digits in a base, if all are digits. -/
def digitsValue (base : Nat) (digits : List Char) : Option Nat :=
  if digits.all fun digit => digitValue digit < base then
    some (digits.foldl (fun value digit => value * base + digitValue digit) 0)
  else none

/-- The character of a code point, if it is a legal one. -/
def charOfCode (code : Nat) : Option Char :=
  if code.isValidChar then (some (Char.ofNat code)).filter isChar else none

/-- The character that a reference stands for, read from what is between `&` and
`;`. -/
def referredChar : List Char → Option Char
  | '#' :: 'x' :: first :: digits => digitsValue 16 (first :: digits) >>= charOfCode
  | '#' :: first :: digits => digitsValue 10 (first :: digits) >>= charOfCode
  | ['l', 't'] => some '<'
  | ['g', 't'] => some '>'
  | ['a', 'm', 'p'] => some '&'
  | ['a', 'p', 'o', 's'] => some '\x27'
  | ['q', 'u', 'o', 't'] => some '\x22'
  | _ => none

/-- Production `Reference`, in a document that declares entities of its own or not. -/
def IsReference (declares : Bool) (text : List Char) : Prop :=
  ∃ inner, text = '&' :: (inner ++ [';']) ∧
    ((referredChar inner).isSome = true ∨ declares = true ∧ isName inner = true)

/-! ## Markup -/

/-- Production `Comment`. -/
def IsComment (text : List Char) : Prop :=
  ∃ body, text = '<' :: '!' :: '-' :: '-' :: (body ++ ['-', '-', '>']) ∧
    (∀ c ∈ body, isChar c = true) ∧ ¬ ['-', '-'] <:+: body ++ ['-']

/-- Production `PI`, and the XML declaration. -/
def IsInstruction (text : List Char) : Prop :=
  ∃ body, text = '<' :: '?' :: (body ++ ['?', '>']) ∧
    (∀ c ∈ body, isChar c = true) ∧ ¬ ['?', '>'] <:+: body

/-- Production `CDSect`. -/
def IsSection (text : List Char) : Prop :=
  ∃ body, text = '<' :: '!' :: ("[CDATA[".toList ++ body ++ "]]>".toList) ∧
    (∀ c ∈ body, isChar c = true) ∧ ¬ "]]>".toList <:+: body

/-- A document type declaration. -/
def IsDoctype (text : List Char) : Prop :=
  ∃ body, text = '<' :: '!' :: ("DOCTYPE".toList ++ body ++ ['>']) ∧
    ∀ c ∈ body, isChar c = true

/-- Characters, none of which is excluded, and references. -/
inductive IsRun (declares : Bool) (excluded : Char → Bool) : List Char → Prop where
  | nil : IsRun declares excluded []
  | char {c : Char} {rest : List Char} : isChar c = true → c ≠ '<' → c ≠ '&' →
      excluded c = false → IsRun declares excluded rest → IsRun declares excluded (c :: rest)
  | reference {reference rest : List Char} : IsReference declares reference →
      IsRun declares excluded rest → IsRun declares excluded (reference ++ rest)

/-- The attributes of a tag, with the blanks around them. -/
inductive IsAttributes (declares : Bool) : List Char → Prop where
  | blank {blank : List Char} : (∀ c ∈ blank, isSpace c = true) → IsAttributes declares blank
  | pair {blank name left right value rest : List Char} {quote : Char} :
      blank ≠ [] → (∀ c ∈ blank, isSpace c = true) → isName name = true →
      (∀ c ∈ left, isSpace c = true) → (∀ c ∈ right, isSpace c = true) →
      quote = '\x22' ∨ quote = '\x27' → IsRun declares (fun c => c = quote) value →
      IsAttributes declares rest →
      IsAttributes declares
        (blank ++ name ++ left ++ '=' :: right ++ quote :: value ++ quote :: rest)

/-- A piece of content that has no parts: a character, a reference, or markup. -/
inductive IsPiece (declares : Bool) : List Char → Prop where
  | char {c : Char} : isChar c = true → c ≠ '<' → c ≠ '&' → IsPiece declares [c]
  | reference {text : List Char} : IsReference declares text → IsPiece declares text
  | comment {text : List Char} : IsComment text → IsPiece declares text
  | instruction {text : List Char} : IsInstruction text → IsPiece declares text
  | cdata {text : List Char} : IsSection text → IsPiece declares text

/-- Production `element`. Content is pieces and elements in any order. -/
inductive IsElement (declares : Bool) : List Char → Prop where
  | empty {name attributes : List Char} : isName name = true →
      IsAttributes declares attributes →
      IsElement declares ('<' :: (name ++ attributes ++ ['/', '>']))
  | tags {name attributes blank : List Char} {content : List (List Char)} :
      isName name = true → IsAttributes declares attributes →
      (∀ part ∈ content, ¬ IsPiece declares part → IsElement declares part) →
      (∀ c ∈ blank, isSpace c = true) →
      IsElement declares
        ('<' :: (name ++ attributes ++ '>' :: (content.flatten ++
          '<' :: '/' :: (name ++ blank ++ ['>']))))

/-- What may stand around the root element and the document type declaration. -/
inductive IsMisc : List Char → Prop where
  | nil : IsMisc []
  | space {c : Char} {rest : List Char} : isSpace c = true → IsMisc rest → IsMisc (c :: rest)
  | comment {text rest : List Char} : IsComment text → IsMisc rest → IsMisc (text ++ rest)
  | instruction {text rest : List Char} : IsInstruction text → IsMisc rest →
      IsMisc (text ++ rest)

/-- Production `document`: one root element, and a byte order mark before it all. -/
inductive IsDocument : List Char → Prop where
  | marked {text : List Char} : IsDocument text → IsDocument ('\uFEFF' :: text)
  | plain {before root after : List Char} : IsMisc before → IsElement false root →
      IsMisc after → IsDocument (before ++ root ++ after)
  | declared {before doctype between root after : List Char} : IsMisc before →
      IsDoctype doctype → IsMisc between → IsElement true root → IsMisc after →
      IsDocument (before ++ doctype ++ between ++ root ++ after)

/-! ## Reading from the front -/

/-- Where a run of one kind ends is decided by the text. -/
theorem split_unique {α : Type} {Kind : α → Prop} {left left' rest rest' : List α} {d d' : α}
    (all : ∀ c ∈ left, Kind c) (all' : ∀ c ∈ left', Kind c) (stop : ¬ Kind d)
    (stop' : ¬ Kind d') (same : left ++ d :: rest = left' ++ d' :: rest') :
    left = left' ∧ d = d' ∧ rest = rest' := by
  induction left generalizing left' with
  | nil =>
      cases left' with
      | nil =>
          obtain ⟨sameHead, sameRest⟩ := List.cons.inj same
          exact ⟨rfl, sameHead, sameRest⟩
      | cons first others =>
          obtain ⟨rfl, -⟩ := List.cons.inj same
          exact absurd (all' d (by simp)) stop
  | cons first others inductionHypothesis =>
      cases left' with
      | nil =>
          obtain ⟨rfl, -⟩ := List.cons.inj same
          exact absurd (all first (by simp)) stop'
      | cons first' others' =>
          obtain ⟨rfl, sameRest⟩ := List.cons.inj same
          have split := inductionHypothesis (fun c member => all c (by simp [member]))
            (fun c member => all' c (by simp [member])) sameRest
          exact ⟨by rw [split.1], split.2⟩

section Reading

variable {declares : Bool}

theorem not_isSpace_angle : isSpace '<' = false := by decide

theorem isNameChar_gt : isNameChar '>' = false := by decide

theorem isNameChar_slash : isNameChar '/' = false := by decide

theorem isNameStartChar_aside {c : Char} (start : isNameStartChar c = true) :
    c ≠ '!' ∧ c ≠ '?' ∧ c ≠ '/' := by
  refine ⟨?_, ?_, ?_⟩ <;> rintro rfl <;> exact absurd start (by decide)

theorem isNameChar_of_isSpace {c : Char} (space : isSpace c = true) : isNameChar c = false := by
  simp only [isSpace, Bool.or_eq_true, decide_eq_true_eq] at space
  rcases space with ((rfl | rfl) | rfl) | rfl <;> decide

/-- What stands aside of the root element opens like no element. -/
theorem eq_nil_of_isMisc {text tail rest : List Char} {c : Char} (misc : IsMisc text)
    (opens : text ++ tail = '<' :: c :: rest) (notBang : c ≠ '!') (notQuestion : c ≠ '?') :
    text = [] := by
  cases misc with
  | nil => rfl
  | space isBlank _ =>
      obtain ⟨rfl, -⟩ := List.cons.inj opens
      rw [not_isSpace_angle] at isBlank
      contradiction
  | comment isComment _ =>
      obtain ⟨body, rfl, -⟩ := isComment
      exact absurd (List.cons.inj (List.cons.inj opens).2).1.symm notBang
  | instruction isInstruction _ =>
      obtain ⟨body, rfl, -⟩ := isInstruction
      exact absurd (List.cons.inj (List.cons.inj opens).2).1.symm notQuestion

/-- Attributes start with a blank. -/
theorem isAttributes_cases {attributes : List Char} (legal : IsAttributes declares attributes) :
    attributes = [] ∨ ∃ c rest, attributes = c :: rest ∧ isSpace c = true := by
  cases legal with
  | blank spaces =>
      cases attributes with
      | nil => exact .inl rfl
      | cons c rest => exact .inr ⟨c, rest, rfl, spaces c (by simp)⟩
  | @pair blank name left right value rest quote notEmpty spaces _ _ _ _ _ _ =>
      cases blank with
      | nil => contradiction
      | cons c others => exact .inr ⟨c, _, rfl, spaces c (by simp)⟩

/-- So the name of a tag that closes right behind it is known. -/
theorem name_of_tag {name name' attributes rest rest' : List Char} {d : Char}
    (legal : isName name = true) (legal' : isName name' = true)
    (areAttributes : IsAttributes declares attributes) (stop : isNameChar d = false)
    (same : name' ++ (attributes ++ d :: rest) = name ++ '>' :: rest') :
    name' = name ∧ attributes = [] ∧ d = '>' ∧ rest = rest' := by
  have inName {text : List Char} (isLegal : isName text = true) :
      ∀ c ∈ text, isNameChar c = true := fun c => isNameChar_of_isName isLegal
  rcases isAttributes_cases areAttributes with rfl | ⟨c, others, rfl, isBlank⟩
  · obtain ⟨sameName, sameEnd, sameRest⟩ := split_unique (inName legal') (inName legal)
      (by simp [stop]) (by simp [isNameChar_gt]) same
    exact ⟨sameName, rfl, sameEnd, sameRest⟩
  · obtain ⟨-, rfl, -⟩ := split_unique (inName legal') (inName legal)
      (by simp [isNameChar_of_isSpace isBlank]) (by simp [isNameChar_gt]) same
    exact absurd isBlank (by decide)

/-- Text that is taken before the first `<` is taken from the text there. -/
theorem exists_text_of_append {part text rest rest' : List Char} (noAngle : '<' ∉ part)
    (same : part ++ rest = text ++ '<' :: rest') :
    ∃ remaining, text = part ++ remaining ∧ rest = remaining ++ '<' :: rest' := by
  induction part generalizing text with
  | nil => exact ⟨text, rfl, same⟩
  | cons c others inductionHypothesis =>
      cases text with
      | nil =>
          obtain ⟨rfl, -⟩ := List.cons.inj same
          exact absurd (List.mem_cons_self) noAngle
      | cons c' text' =>
          obtain ⟨rfl, sameRest⟩ := List.cons.inj same
          obtain ⟨remaining, isText, isRest⟩ := inductionHypothesis
            (fun member => noAngle (List.mem_cons_of_mem _ member)) sameRest
          exact ⟨remaining, by rw [isText]; rfl, isRest⟩

theorem digits_of_digitsValue {base : Nat} {digits : List Char} (small : base ≤ 16)
    (isNumber : (digitsValue base digits).isSome = true) : '<' ∉ digits := by
  intro member
  unfold digitsValue at isNumber
  split at isNumber
  next areDigits =>
    have isDigit := List.all_eq_true.mp areDigits '<' member
    rw [decide_eq_true_eq, show digitValue '<' = 16 from rfl] at isDigit
    omega
  next => contradiction

theorem isSome_of_bind {α β : Type} {value : Option α} {f : α → Option β}
    (isSome : (value >>= f).isSome = true) : value.isSome = true := by
  cases value with
  | none => contradiction
  | some _ => rfl

theorem noAngle_of_referredChar {inner : List Char} (refers : (referredChar inner).isSome = true) :
    '<' ∉ inner := by
  unfold referredChar at refers
  split at refers
  next first digits =>
    have noAngle := digits_of_digitsValue (Nat.le_refl 16) (isSome_of_bind refers)
    simpa using noAngle
  next first digits _ =>
    have noAngle := digits_of_digitsValue (by omega : 10 ≤ 16) (isSome_of_bind refers)
    simpa using noAngle
  all_goals first | decide | contradiction

theorem noAngle_of_isReference {text : List Char} (isReference : IsReference declares text) :
    '<' ∉ text := by
  obtain ⟨inner, rfl, refers | ⟨-, legal⟩⟩ := isReference
  · simpa using noAngle_of_referredChar refers
  · have noAngle : '<' ∉ inner := fun member =>
      absurd (isNameChar_of_isName legal member) (by decide)
    simpa using noAngle

/-- The pieces of content before an end tag are what is written there, if that holds
no `<`. -/
theorem content_of_endTag {content : List (List Char)} {text rest rest' : List Char}
    (parts : ∀ part ∈ content, ¬ IsPiece declares part → IsElement declares part)
    (noAngle : '<' ∉ text)
    (same : content.flatten ++ '<' :: '/' :: rest = text ++ '<' :: '/' :: rest') :
    content.flatten = text ∧ rest = rest' := by
  induction content generalizing text with
  | nil =>
      have isEmpty : text = [] := by
        cases text with
        | nil => rfl
        | cons c others =>
            obtain ⟨rfl, -⟩ := List.cons.inj same
            exact absurd List.mem_cons_self noAngle
      subst isEmpty
      exact ⟨rfl, (List.cons.inj (List.cons.inj same).2).2⟩
  | cons part content inductionHypothesis =>
      rw [List.flatten_cons, List.append_assoc] at same
      have others := fun other member =>
        parts other (List.mem_cons_of_mem part member)
      have taken (plain : '<' ∉ part) :
          (part :: content).flatten = text ∧ rest = rest' := by
        obtain ⟨remaining, rfl, sameRest⟩ := exists_text_of_append plain same
        have noAngle' : '<' ∉ remaining := fun member => noAngle (by simp [member])
        obtain ⟨rfl, isRest⟩ := inductionHypothesis others noAngle' sameRest
        exact ⟨rfl, isRest⟩
      have opens {c : Char} {tail : List Char} (isPart : part = '<' :: c :: tail)
          (notSlash : c ≠ '/') : False := by
        subst isPart
        cases text with
        | nil => exact notSlash (List.cons.inj (List.cons.inj same).2).1
        | cons c' text' =>
            obtain ⟨rfl, -⟩ := List.cons.inj same
            exact noAngle List.mem_cons_self
      by_cases isPiece : IsPiece declares part
      · cases isPiece with
        | char _ notAngle _ => exact taken (by simpa using Ne.symm notAngle)
        | reference isReference => exact taken (noAngle_of_isReference isReference)
        | comment isComment =>
            obtain ⟨body, isPart, -⟩ := isComment
            exact (opens isPart (by decide)).elim
        | instruction isInstruction =>
            obtain ⟨body, isPart, -⟩ := isInstruction
            exact (opens isPart (by decide)).elim
        | cdata isSection =>
            obtain ⟨body, isPart, -⟩ := isSection
            exact (opens isPart (by decide)).elim
      · have named {name tail : List Char} (legal : isName name = true)
            (isPart : part = '<' :: (name ++ tail)) : False := by
          obtain ⟨first, others, rfl, start⟩ := exists_start_of_isName legal
          exact opens isPart (isNameStartChar_aside start).2.2
        cases parts part List.mem_cons_self isPiece with
        | empty legal _ => exact (named legal (by rw [List.append_assoc])).elim
        | tags legal _ _ _ => exact (named legal (by rw [List.append_assoc])).elim

/-- An element that opens like a written one without parts is that one. -/
theorem rest_of_element {element rest rest' name text : List Char} (legal : isName name = true)
    (noAngle : '<' ∉ text) (isElement : IsElement declares element)
    (same : element ++ rest =
      '<' :: (name ++ '>' :: (text ++ '<' :: '/' :: (name ++ '>' :: rest')))) :
    rest = rest' := by
  cases isElement with
  | @empty name' attributes legal' areAttributes =>
      have tag : name' ++ (attributes ++ '/' :: ('>' :: rest)) =
          name ++ '>' :: (text ++ '<' :: '/' :: (name ++ '>' :: rest')) := by
        simpa using same
      obtain ⟨-, -, isSlash, -⟩ :=
        name_of_tag legal legal' areAttributes isNameChar_slash tag
      exact absurd isSlash (by decide)
  | @tags name' attributes blank content legal' areAttributes parts spaces =>
      have tag : name' ++ (attributes ++ '>' :: (content.flatten ++
            '<' :: '/' :: (name' ++ (blank ++ '>' :: rest)))) =
          name ++ '>' :: (text ++ '<' :: '/' :: (name ++ '>' :: rest')) := by
        simpa using same
      obtain ⟨rfl, rfl, -, inside⟩ := name_of_tag legal legal' areAttributes isNameChar_gt tag
      obtain ⟨-, closes⟩ := content_of_endTag parts noAngle inside
      have gap : blank ++ '>' :: rest = [] ++ '>' :: rest' := List.append_cancel_left closes
      exact (split_unique spaces (by simp) (by decide) (by decide) gap).2.2

/-- Two elements in a row are no document. -/
theorem not_isDocument_of_siblings {name text rest : List Char} {c : Char}
    (legal : isName name = true) (noAngle : '<' ∉ text) (notBang : c ≠ '!')
    (notQuestion : c ≠ '?') :
    ¬ IsDocument ('<' :: (name ++ '>' :: (text ++ '<' :: '/' :: (name ++ '>' ::
      ('<' :: c :: rest))))) := by
  obtain ⟨first, others, rfl, start⟩ := exists_start_of_isName legal
  obtain ⟨notBang', notQuestion', -⟩ := isNameStartChar_aside start
  intro isDocument
  generalize same : '<' :: (first :: others ++ '>' :: (text ++ '<' :: '/' ::
    (first :: others ++ '>' :: ('<' :: c :: rest)))) = document at isDocument
  cases isDocument with
  | marked _ => exact absurd (List.cons.inj same).1 (by decide)
  | @plain before root after misc isRoot misc' =>
      rw [List.append_assoc] at same
      obtain rfl := eq_nil_of_isMisc misc same.symm notBang' notQuestion'
      have outside := rest_of_element legal noAngle isRoot same.symm
      have isEmpty := eq_nil_of_isMisc misc' ((List.append_nil after).trans outside) notBang
        notQuestion
      rw [isEmpty] at outside
      contradiction
  | @declared before doctype between root after misc isDoctype _ _ _ =>
      simp only [List.append_assoc] at same
      obtain rfl := eq_nil_of_isMisc misc same.symm notBang' notQuestion'
      obtain ⟨body, rfl, -⟩ := isDoctype
      exact absurd (List.cons.inj (List.cons.inj same).2).1 notBang'

/-! ## First and last characters -/

/-- What a document and its parts may start with. -/
def Starts (text : List Char) : Prop :=
  ∀ c, text.head? = some c → c = '<' ∨ isSpace c = true ∨ c = '\uFEFF'

/-- What they may end with. -/
def Ends (text : List Char) : Prop :=
  ∀ c, text.getLast? = some c → c = '>' ∨ isSpace c = true

theorem starts_append {front back : List Char} (first : Starts front) (second : Starts back) :
    Starts (front ++ back) := by
  intro c isHead
  rw [List.head?_append] at isHead
  cases front with
  | nil => exact second c isHead
  | cons d rest => exact first c isHead

theorem ends_append {front back : List Char} (first : Ends front) (second : Ends back) :
    Ends (front ++ back) := by
  intro c isLast
  rw [List.getLast?_append] at isLast
  cases last : back.getLast? with
  | none =>
      rw [last] at isLast
      exact first c isLast
  | some d =>
      rw [last] at isLast
      exact second c (last.trans isLast)

theorem starts_angle (rest : List Char) : Starts ('<' :: rest) := by
  intro c isHead
  exact .inl (Option.some.inj isHead).symm

theorem ends_angle (front : List Char) : Ends (front ++ ['>']) := by
  intro c isLast
  rw [List.getLast?_append] at isLast
  exact .inl (Option.some.inj isLast).symm

theorem starts_ends_space {c : Char} (isBlank : isSpace c = true) : Starts [c] ∧ Ends [c] := by
  constructor
  · intro d isHead
    exact .inr (.inl (Option.some.inj isHead ▸ isBlank))
  · intro d isLast
    exact .inr (Option.some.inj isLast ▸ isBlank)

theorem starts_ends_comment {text : List Char} (isComment : IsComment text) :
    Starts text ∧ Ends text := by
  obtain ⟨body, rfl, -⟩ := isComment
  refine ⟨starts_angle _, ?_⟩
  simpa using ends_angle ('<' :: '!' :: '-' :: '-' :: (body ++ ['-', '-']))

theorem starts_ends_instruction {text : List Char} (isInstruction : IsInstruction text) :
    Starts text ∧ Ends text := by
  obtain ⟨body, rfl, -⟩ := isInstruction
  refine ⟨starts_angle _, ?_⟩
  simpa using ends_angle ('<' :: '?' :: (body ++ ['?']))

theorem starts_ends_misc {text : List Char} (misc : IsMisc text) : Starts text ∧ Ends text := by
  induction misc with
  | nil => simp [Starts, Ends]
  | space isBlank _ inductionHypothesis =>
      obtain ⟨starts, ends⟩ := starts_ends_space isBlank
      exact ⟨starts_append starts inductionHypothesis.1, ends_append ends inductionHypothesis.2⟩
  | comment isComment _ inductionHypothesis =>
      obtain ⟨starts, ends⟩ := starts_ends_comment isComment
      exact ⟨starts_append starts inductionHypothesis.1, ends_append ends inductionHypothesis.2⟩
  | instruction isInstruction _ inductionHypothesis =>
      obtain ⟨starts, ends⟩ := starts_ends_instruction isInstruction
      exact ⟨starts_append starts inductionHypothesis.1, ends_append ends inductionHypothesis.2⟩

theorem starts_ends_element {text : List Char} (isElement : IsElement declares text) :
    Starts text ∧ Ends text := by
  cases isElement with
  | @empty name attributes _ _ =>
      refine ⟨starts_angle _, ?_⟩
      simpa using ends_angle ('<' :: (name ++ attributes ++ ['/']))
  | @tags name attributes blank content _ _ _ _ =>
      refine ⟨starts_angle _, ?_⟩
      simpa using ends_angle ('<' :: (name ++ attributes ++ '>' :: (content.flatten ++
        '<' :: '/' :: (name ++ blank))))

theorem starts_ends_doctype {text : List Char} (isDoctype : IsDoctype text) :
    Starts text ∧ Ends text := by
  obtain ⟨body, rfl, -⟩ := isDoctype
  refine ⟨starts_angle _, ?_⟩
  simpa using ends_angle ('<' :: '!' :: ("DOCTYPE".toList ++ body))

theorem ne_nil_of_isElement {text : List Char} (isElement : IsElement declares text) :
    text ≠ [] := by
  cases isElement <;> simp

theorem ne_nil_of_isDocument {text : List Char} (isDocument : IsDocument text) : text ≠ [] := by
  cases isDocument with
  | marked _ => simp
  | plain _ isRoot _ => simp [ne_nil_of_isElement isRoot]
  | declared _ _ _ isRoot _ => simp [ne_nil_of_isElement isRoot]

/-- A document starts with a tag or with what may stand before it, and ends alike. -/
theorem starts_ends_document {text : List Char} (isDocument : IsDocument text) :
    Starts text ∧ Ends text := by
  induction isDocument with
  | @marked text isDocument inductionHypothesis =>
      constructor
      · intro c isHead
        exact .inr (.inr (Option.some.inj isHead).symm)
      · intro c isLast
        rw [List.getLast?_cons_of_ne_nil (ne_nil_of_isDocument isDocument)] at isLast
        exact inductionHypothesis.2 c isLast
  | plain misc isRoot misc' =>
      obtain ⟨starts, ends⟩ := starts_ends_misc misc
      obtain ⟨starts', ends'⟩ := starts_ends_element isRoot
      obtain ⟨starts'', ends''⟩ := starts_ends_misc misc'
      exact ⟨starts_append (starts_append starts starts') starts'',
        ends_append (ends_append ends ends') ends''⟩
  | declared misc isDoctype misc' isRoot misc'' =>
      obtain ⟨starts, ends⟩ := starts_ends_misc misc
      obtain ⟨starts', ends'⟩ := starts_ends_doctype isDoctype
      obtain ⟨starts'', ends''⟩ := starts_ends_misc misc'
      obtain ⟨starts₃, ends₃⟩ := starts_ends_element isRoot
      obtain ⟨starts₄, ends₄⟩ := starts_ends_misc misc''
      exact ⟨starts_append (starts_append (starts_append (starts_append starts starts') starts'')
          starts₃) starts₄,
        ends_append (ends_append (ends_append (ends_append ends ends') ends'') ends₃) ends₄⟩

end Reading

/-! ## Written trees -/

/-- Elements without attributes, and text. -/
inductive Node where
  | text (characters : List Char)
  | element (name : List Char) (children : List Node)

def hexDigit (value : Nat) : Char :=
  if value < 10 then Char.ofNat (48 + value) else Char.ofNat (55 + value)

def hexDigits (value : Nat) : List Char :=
  (Nat.digits 16 value).reverse.map hexDigit

/-- A character of text as `libxml` writes it: without an encoding declared all that
is not ASCII is a reference. -/
def escapeChar (encoded : Bool) (c : Char) : List Char :=
  if c = '<' then "&lt;".toList
  else if c = '>' then "&gt;".toList
  else if c = '&' then "&amp;".toList
  else if encoded && c ≠ '\r' || c = '\n' || c = '\t' || 0x20 ≤ c.toNat && c.toNat < 0x80 then [c]
  else if encoded then "&#13;".toList
  else '&' :: ('#' :: 'x' :: hexDigits c.toNat ++ [';'])

mutual

/-- The text of a node, given how its characters are written. -/
def Node.write (escape : Char → List Char) : Node → List Char
  | .text characters => characters.flatMap escape
  | .element name [] => '<' :: (name ++ ['/', '>'])
  | .element name (first :: children) =>
      '<' :: (name ++ '>' :: (first.write escape ++ writeAll escape children ++
        '<' :: '/' :: (name ++ ['>'])))

def writeAll (escape : Char → List Char) : List Node → List Char
  | [] => []
  | node :: rest => node.write escape ++ writeAll escape rest

end

theorem digitValue_hexDigit {value : Nat} (small : value < 16) :
    digitValue (hexDigit value) = value := by
  interval_cases value <;> decide

theorem mem_hexDigits {value : Nat} {c : Char} (member : c ∈ hexDigits value) :
    ∃ digit, digit < 16 ∧ c = hexDigit digit := by
  obtain ⟨digit, isDigit, rfl⟩ := List.mem_map.mp member
  exact ⟨digit, Nat.digits_lt_base (by omega) (List.mem_reverse.mp isDigit), rfl⟩

/-- Hexadecimal digits are read back. -/
theorem digitsValue_hexDigits (value : Nat) : digitsValue 16 (hexDigits value) = some value := by
  have areDigits : (hexDigits value).all (fun digit => digitValue digit < 16) = true := by
    apply List.all_eq_true.mpr
    intro c member
    obtain ⟨digit, small, rfl⟩ := mem_hexDigits member
    rw [digitValue_hexDigit small]
    exact decide_eq_true small
  have reads : ∀ digits : List Nat, (∀ digit ∈ digits, digit < 16) →
      (digits.reverse.map hexDigit).foldl (fun read digit => read * 16 + digitValue digit) 0 =
        Nat.ofDigits 16 digits := by
    intro digits small
    induction digits with
    | nil => rfl
    | cons digit digits inductionHypothesis =>
        have earlier := inductionHypothesis fun other member => small other (by simp [member])
        rw [List.reverse_cons, List.map_append, List.foldl_append, earlier, Nat.ofDigits_cons]
        simp only [List.map_cons, List.map_nil, List.foldl_cons, List.foldl_nil,
          digitValue_hexDigit (small digit (by simp))]
        ring
  rw [digitsValue, if_pos areDigits, hexDigits,
    reads _ fun digit member => Nat.digits_lt_base (by omega) member, Nat.ofDigits_digits]

theorem noAngle_escapeChar (encoded : Bool) (c : Char) : '<' ∉ escapeChar encoded c := by
  unfold escapeChar
  split_ifs with isLt isGt isAmp isPlain isEncoded
  · decide
  · decide
  · decide
  · simpa using Ne.symm isLt
  · decide
  · have noAngle : '<' ∉ hexDigits c.toNat := by
      intro member
      obtain ⟨digit, small, isDigit⟩ := mem_hexDigits member
      have notDigit : digitValue '<' = 16 := rfl
      rw [isDigit, digitValue_hexDigit small] at notDigit
      omega
    simpa using noAngle

theorem noAngle_flatMap {escape : Char → List Char} (noAngle : ∀ c, '<' ∉ escape c)
    (text : List Char) : '<' ∉ text.flatMap escape := by
  intro member
  obtain ⟨c, -, isIn⟩ := List.mem_flatMap.mp member
  exact noAngle c isIn

mutual

/-- Names are names and characters are legal. -/
def Node.isLegal : Node → Bool
  | .text characters => characters.all isChar
  | .element name children => isName name && allLegal children

def allLegal : List Node → Bool
  | [] => true
  | node :: rest => node.isLegal && allLegal rest

end

section Written

variable {declares : Bool}

theorem charOfCode_toNat {c : Char} (legal : isChar c = true) :
    charOfCode c.toNat = some c := by
  have isValid : c.toNat.isValidChar := c.valid
  rw [charOfCode, if_pos isValid, Char.ofNat_toNat, Option.filter_some, if_pos legal]

theorem toNat_ne_zero_of_isChar {c : Char} (legal : isChar c = true) : c.toNat ≠ 0 := by
  intro isZero
  have isNul : c = '\x00' := Char.ext (UInt32.toNat_inj.mp isZero)
  subst isNul
  exact absurd legal (by decide)

theorem referredChar_hexDigits {c : Char} (legal : isChar c = true) :
    referredChar ('#' :: 'x' :: hexDigits c.toNat) = some c := by
  have reads := digitsValue_hexDigits c.toNat
  cases digits : hexDigits c.toNat with
  | nil =>
      have isEmpty : Nat.digits 16 c.toNat = [] := by simpa [hexDigits] using digits
      exact absurd (Nat.digits_eq_nil_iff_eq_zero.mp isEmpty) (toNat_ne_zero_of_isChar legal)
  | cons first rest =>
      rw [digits] at reads
      rw [referredChar, reads]
      exact charOfCode_toNat legal

theorem isPiece_escapeChar (encoded : Bool) {c : Char} (legal : isChar c = true) :
    IsPiece declares (escapeChar encoded c) := by
  unfold escapeChar
  split_ifs with isLt isGt isAmp isPlain isEncoded
  · exact .reference ⟨"lt".toList, rfl, .inl rfl⟩
  · exact .reference ⟨"gt".toList, rfl, .inl rfl⟩
  · exact .reference ⟨"amp".toList, rfl, .inl rfl⟩
  · exact .char legal isLt isAmp
  · exact .reference ⟨"#13".toList, rfl, .inl (by decide)⟩
  · refine .reference ⟨'#' :: 'x' :: hexDigits c.toNat, rfl, .inl ?_⟩
    rw [referredChar_hexDigits legal]
    rfl

/-- The text is pieces and elements in a row. -/
def IsContent (declares : Bool) (text : List Char) : Prop :=
  ∃ content : List (List Char), content.flatten = text ∧
    ∀ part ∈ content, ¬ IsPiece declares part → IsElement declares part

theorem isContent_append {first second : List Char} (isFirst : IsContent declares first)
    (isSecond : IsContent declares second) : IsContent declares (first ++ second) := by
  obtain ⟨parts, rfl, legal⟩ := isFirst
  obtain ⟨parts', rfl, legal'⟩ := isSecond
  refine ⟨parts ++ parts', List.flatten_append, ?_⟩
  intro part member
  rcases List.mem_append.mp member with isIn | isIn
  · exact legal part isIn
  · exact legal' part isIn

/-- A way of writing characters that makes pieces of the legal ones. -/
def Escapes (declares : Bool) (escape : Char → List Char) : Prop :=
  ∀ c, isChar c = true → IsPiece declares (escape c)

variable {escape : Char → List Char}

theorem isContent_flatMap (escapes : Escapes declares escape) {text : List Char}
    (legal : ∀ c ∈ text, isChar c = true) : IsContent declares (text.flatMap escape) := by
  refine ⟨text.map escape, rfl, ?_⟩
  intro part member notPiece
  obtain ⟨c, isIn, rfl⟩ := List.mem_map.mp member
  exact absurd (escapes c (legal c isIn)) notPiece

theorem isContent_of_isElement {text : List Char} (isElement : IsElement declares text) :
    IsContent declares text :=
  ⟨[text], by simp, by simpa using fun _ => isElement⟩

theorem isElement_of_content {name text : List Char} (legal : isName name = true)
    (isContent : IsContent declares text) :
    IsElement declares ('<' :: (name ++ '>' :: (text ++ '<' :: '/' :: (name ++ ['>'])))) := by
  obtain ⟨parts, rfl, areParts⟩ := isContent
  have noBlank : ∀ c ∈ ([] : List Char), isSpace c = true := by simp
  simpa using IsElement.tags legal (.blank noBlank) areParts noBlank

/-- The children decide whether an element is written as one. -/
theorem isElement_of_children {name : List Char} {children : List Node}
    (legal : isName name = true) (areChildren : IsContent declares (writeAll escape children)) :
    IsElement declares ((Node.element name children).write escape) := by
  cases children with
  | nil =>
      have noBlank : ∀ c ∈ ([] : List Char), isSpace c = true := by simp
      simpa [Node.write] using IsElement.empty legal (.blank noBlank)
  | cons first rest => exact isElement_of_content legal areChildren

/-- What is written for legal nodes is content. -/
theorem isContent_writeAll (escapes : Escapes declares escape) (nodes : List Node) :
    allLegal nodes = true → IsContent declares (writeAll escape nodes) := by
  refine @Node.rec_1 (fun node => node.isLegal = true → IsContent declares (node.write escape))
    (fun nodes => allLegal nodes = true → IsContent declares (writeAll escape nodes)) ?text
    ?element ?nil ?cons nodes
  case text =>
    intro characters legal
    exact isContent_flatMap escapes (List.all_eq_true.mp legal)
  case element =>
    intro name children areChildren legal
    obtain ⟨isLegalName, areLegal⟩ := Bool.and_eq_true_iff.mp legal
    exact isContent_of_isElement (isElement_of_children isLegalName (areChildren areLegal))
  case nil =>
    intro _
    exact ⟨[], rfl, by simp⟩
  case cons =>
    intro first rest isFirst areRest legal
    obtain ⟨isLegalFirst, areLegal⟩ := Bool.and_eq_true_iff.mp legal
    exact isContent_append (isFirst isLegalFirst) (areRest areLegal)

/-- A legal element is written as a document, between what may stand there. -/
theorem isDocument_write (escapes : Escapes false escape) {before after : List Char}
    (misc : IsMisc before) (misc' : IsMisc after) {name : List Char} {children : List Node}
    (legal : (Node.element name children).isLegal = true) :
    IsDocument (before ++ (Node.element name children).write escape ++ after) := by
  obtain ⟨isLegalName, areLegal⟩ := Bool.and_eq_true_iff.mp legal
  have isRoot : IsElement false ((Node.element name children).write escape) :=
    isElement_of_children isLegalName (isContent_writeAll escapes children areLegal)
  exact .plain misc isRoot misc'

end Written

end TaxGateway.XmlDocuments
