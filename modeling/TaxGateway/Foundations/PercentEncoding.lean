import TaxGateway.Foundations.LooseEquality

/-!
Contract: reading back what `urlencode` wrote, and what was joined with a
separator.

Owns:
- `urldecode`, and that it undoes `urlencode`, byte by byte;
- which characters an encoded text has;
- that `explode` undoes a join with a separator that no part has;
- the parameter behind the last `?` of a URL.

Does not own: the URL before that `?`, or URLs with several parameters.
-/

namespace TaxGateway.Php

/-! ## Decoding -/

/-- The value of a hexadecimal digit, in either case. -/
def hexValue (c : Char) : Option Nat :=
  if 48 ≤ c.toNat ∧ c.toNat ≤ 57 then some (c.toNat - 48)
  else if 65 ≤ c.toNat ∧ c.toNat ≤ 70 then some (c.toNat - 55)
  else if 97 ≤ c.toNat ∧ c.toNat ≤ 102 then some (c.toNat - 87)
  else none

/-- The byte that two characters behind a `%` stand for. -/
def escapedByte (high low : Char) : Option UInt8 := do
  let highValue ← hexValue high
  let lowValue ← hexValue low
  return UInt8.ofNat (16 * highValue + lowValue)

/-- A character outside an escape: `+` is a space, the others are themselves. -/
def plainBytes (c : Char) : List UInt8 :=
  if c = '+' then [32] else String.utf8EncodeChar c

/-- `urldecode`, from characters to bytes. A `%` without two digits behind it
stays a `%`. -/
def urldecodeBytes : List Char → List UInt8
  | [] => []
  | [c] => plainBytes c
  | [c, d] => plainBytes c ++ plainBytes d
  | c :: high :: low :: rest =>
      if c = '%' then
        match escapedByte high low with
        | some byte => byte :: urldecodeBytes rest
        | none => plainBytes c ++ urldecodeBytes (high :: low :: rest)
      else plainBytes c ++ urldecodeBytes (high :: low :: rest)

/-- `urldecode($text)`, `none` when the bytes are no UTF-8. -/
def urldecode (text : String) : Option String :=
  String.fromUTF8? (urldecodeBytes text.toList).toByteArray

/-! ## One byte -/

/-- The bytes that `urlencode` leaves alone are single ASCII characters other
than the two that `urldecode` treats specially. -/
theorem isUrlSafe_spec :
    ∀ value < 256, isUrlSafe (UInt8.ofNat value) = true →
      Char.ofNat value ≠ '+' ∧ Char.ofNat value ≠ '%' ∧
        String.utf8EncodeChar (Char.ofNat value) = [UInt8.ofNat value] := by
  decide +kernel

theorem hexValue_hexDigit : ∀ value < 16, hexValue (hexDigit value) = some value := by
  decide

theorem escapedByte_hexDigit (byte : UInt8) :
    escapedByte (hexDigit (byte.toNat / 16)) (hexDigit (byte.toNat % 16)) = some byte := by
  have small : byte.toNat < 256 := byte.toNat_lt
  have high : hexValue (hexDigit (byte.toNat / 16)) = some (byte.toNat / 16) :=
    hexValue_hexDigit _ (by omega)
  have low : hexValue (hexDigit (byte.toNat % 16)) = some (byte.toNat % 16) :=
    hexValue_hexDigit _ (by omega)
  have whole : 16 * (byte.toNat / 16) + byte.toNat % 16 = byte.toNat := by omega
  simp only [escapedByte, high, low, Option.bind_eq_bind, Option.bind_some, Option.pure_def,
    whole, UInt8.ofNat_toNat]

/-- A character other than `%` is decoded by itself, whatever follows. -/
theorem urldecodeBytes_cons {c : Char} (notEscape : c ≠ '%') (rest : List Char) :
    urldecodeBytes (c :: rest) = plainBytes c ++ urldecodeBytes rest := by
  match rest with
  | [] => simp [urldecodeBytes]
  | [d] => simp [urldecodeBytes]
  | high :: low :: rest => rw [urldecodeBytes, if_neg notEscape]

theorem urldecodeBytes_escape (byte : UInt8) (rest : List Char) :
    urldecodeBytes ('%' :: hexDigit (byte.toNat / 16) :: hexDigit (byte.toNat % 16) :: rest) =
      byte :: urldecodeBytes rest := by
  simp only [urldecodeBytes, if_true, escapedByte_hexDigit]

/-- One encoded byte is read back, whatever follows it. -/
theorem urldecodeBytes_urlencodeByte (byte : UInt8) (rest : List Char) :
    urldecodeBytes (urlencodeByte byte ++ rest) = byte :: urldecodeBytes rest := by
  unfold urlencodeByte
  split_ifs with safe blank
  · have small : byte.toNat < 256 := byte.toNat_lt
    have known : isUrlSafe (UInt8.ofNat byte.toNat) = true := by
      rw [UInt8.ofNat_toNat]
      exact safe
    obtain ⟨notPlus, notEscape, single⟩ := isUrlSafe_spec byte.toNat small known
    show urldecodeBytes (Char.ofNat byte.toNat :: rest) = byte :: urldecodeBytes rest
    rw [urldecodeBytes_cons notEscape, plainBytes, if_neg notPlus, single, UInt8.ofNat_toNat,
      List.singleton_append]
  · have isBlank : byte = 32 := UInt8.toNat_inj.mp blank
    show urldecodeBytes ('+' :: rest) = byte :: urldecodeBytes rest
    rw [urldecodeBytes_cons (by decide), isBlank]
    rfl
  · exact urldecodeBytes_escape byte rest

/-! ## The round trip -/

theorem urldecodeBytes_flatMap (bytes : List UInt8) :
    urldecodeBytes (bytes.flatMap urlencodeByte) = bytes := by
  induction bytes with
  | nil => rfl
  | cons byte bytes decoded =>
      rw [List.flatMap_cons, urldecodeBytes_urlencodeByte, decoded]

/-- The bytes of a text are valid, and are that text's. -/
theorem fromUTF8?_utf8Encode (text : String) :
    String.fromUTF8? (text.toList.flatMap String.utf8EncodeChar).toByteArray = some text := by
  have bytes : (text.toList.flatMap String.utf8EncodeChar).toByteArray = text.toByteArray :=
    String.utf8Encode_toList
  rw [bytes, String.fromUTF8?, dif_pos text.isValidUTF8]
  rfl

/-- `urldecode` undoes `urlencode`, for every text. -/
theorem urldecode_urlencode (text : String) : urldecode (urlencode text) = some text := by
  rw [urldecode, urlencode, String.toList_ofList, urldecodeBytes_flatMap,
    fromUTF8?_utf8Encode]

/-! ## The characters of an encoded text -/

/-- A character that can stand in an encoded text. -/
def isEncodedChar (c : Char) : Bool :=
  c.isAlphanum || ['-', '.', '_', '+', '%'].contains c

theorem isEncodedChar_urlencodeByte :
    ∀ value < 256, (urlencodeByte (UInt8.ofNat value)).all isEncodedChar = true := by
  decide +kernel

theorem isEncodedChar_of_mem_urlencode {text : String} {c : Char}
    (written : c ∈ (urlencode text).toList) : isEncodedChar c = true := by
  rw [urlencode, String.toList_ofList] at written
  obtain ⟨byte, -, inByte⟩ := List.mem_flatMap.mp written
  have small : byte.toNat < 256 := byte.toNat_lt
  have all := isEncodedChar_urlencodeByte byte.toNat small
  rw [UInt8.ofNat_toNat] at all
  exact List.all_eq_true.mp all c inByte

/-- No reserved character of a URL stands in an encoded text. -/
theorem not_mem_urlencode {c : Char} (reserved : isEncodedChar c = false) (text : String) :
    c ∉ (urlencode text).toList := by
  intro written
  rw [isEncodedChar_of_mem_urlencode written] at reserved
  contradiction

/-! ## Joined parts -/

/-- Parts without the separator are the parts of their join. -/
theorem explode_intercalate {separator : Char} {parts : List String} (inhabited : parts ≠ [])
    (without : ∀ part ∈ parts, separator ∉ part.toList) :
    explode separator (String.intercalate (String.singleton separator) parts) = parts := by
  have split : List.splitOn separator
      ([separator].intercalate (parts.map String.toList)) = parts.map String.toList := by
    apply List.splitOn_intercalate
    · intro part member
      obtain ⟨text, isPart, rfl⟩ := List.mem_map.mp member
      exact without text isPart
    · simpa using inhabited
  rw [explode, String.toList_intercalate, String.toList_singleton, split, List.map_map]
  have same : String.ofList ∘ String.toList = id := funext fun part => String.ofList_toList
  rw [same, List.map_id]

/-- The first part is found whatever the others have. -/
theorem head?_explode_intercalate {separator : Char} {first second : String}
    {parts : List String} (without : separator ∉ first.toList) :
    (explode separator (String.intercalate (String.singleton separator)
      (first :: second :: parts))).head? = some first := by
  have joined : (String.intercalate (String.singleton separator)
      (first :: second :: parts)).toList = first.toList ++ separator ::
        (String.intercalate (String.singleton separator) (second :: parts)).toList := by
    rw [String.intercalate_cons_cons]
    simp
  have notIn : ∀ c ∈ first.toList, (c == separator) = false := by
    intro c member
    have other : c ≠ separator := fun same => without (same ▸ member)
    simpa using other
  rw [explode, joined, List.splitOn_eq_splitOnP,
    List.splitOnP_append_cons_of_forall_mem notIn separator (by simp)]
  simp

/-! ## A parameter at the end of a URL -/

/-- What stands behind the last `?` of a URL. -/
def lastQuery (url : String) : String :=
  String.ofList ((url.toList.reverse.takeWhile (· ≠ '?')).reverse)

/-- The value of a parameter that is all of the query, still encoded. -/
def queryParameter (name url : String) : Option String :=
  let query := (lastQuery url).toList
  let front := (name ++ "=").toList
  if front.isPrefixOf query then some (String.ofList (query.drop front.length)) else none

theorem lastQuery_append {base query : String} (plain : '?' ∉ query.toList) :
    lastQuery (base ++ "?" ++ query) = query := by
  have behind : (query.toList.reverse ++ '?' :: base.toList.reverse).takeWhile (· ≠ '?') =
      query.toList.reverse := by
    rw [List.takeWhile_append_of_pos, List.takeWhile_cons_of_neg (by simp), List.append_nil]
    intro c member
    have other : c ≠ '?' := fun same => plain (same ▸ List.mem_reverse.mp member)
    simpa using other
  have reversed : (base ++ "?" ++ query).toList.reverse =
      query.toList.reverse ++ '?' :: base.toList.reverse := by
    rw [String.toList_append, String.toList_append]
    simp
  rw [lastQuery, reversed, behind, List.reverse_reverse, String.ofList_toList]

/-- An encoded text that is all of the query is found under its name. -/
theorem queryParameter_urlencode {name : String} (plain : '?' ∉ name.toList)
    (base text : String) :
    queryParameter name (base ++ "?" ++ (name ++ "=" ++ urlencode text)) =
      some (urlencode text) := by
  have noMark : '?' ∉ (name ++ "=" ++ urlencode text).toList := by
    simp only [String.toList_append, List.mem_append, not_or]
    exact ⟨⟨plain, by decide⟩, not_mem_urlencode (by decide) text⟩
  have named : (name ++ "=" ++ urlencode text).toList =
      (name ++ "=").toList ++ (urlencode text).toList := String.toList_append
  rw [queryParameter, lastQuery_append noMark, named,
    if_pos (List.isPrefixOf_iff_prefix.mpr (List.prefix_append _ _)), List.drop_left,
    String.ofList_toList]

end TaxGateway.Php
