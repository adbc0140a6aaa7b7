import TaxGateway.Foundations.Validation
import TaxGateway.Services.KraApi

/-!
Contract: what the item, purchase, inventory and report services have in common.

Owns:
- payloads as tables: for each field its name and where its value comes from;
- when a payload can be written, which rules make sure of it, and what it then holds;
- the loop over the records of an answer.

Does not own: the tables themselves, or the answer when it is no list of records.
-/

namespace TaxGateway.Services.Payloads

open TaxGateway.Php
open TaxGateway.Validation

/-! ## Payloads -/

/-- `$value[key]`. -/
def offset (value : Value) (key : String) : Except Throwable Value :=
  match value with
  | .arr entries =>
      match entries.lookup (.str key) with
      | some found => .ok found
      | none => .error (.exception ("Undefined array key " ++ key))
  | .str _ => .error (.error "Cannot access offset of type string on string")
  | .null | .bool _ | .num _ =>
      .error (.exception "Trying to access array offset on a value that has none")

/-- Where the value of a field comes from. -/
inductive Source where
  /-- `$data[key]` -/
  | required (key : String)
  /-- `$data[key] ?? fallback` -/
  | optional (key : String) (fallback : Value)
  /-- `$data[key] ?? $data[otherwise]` -/
  | either (key otherwise : String)
  /-- `$data[key] ? 'Y' : 'N'` -/
  | flag (key : String)
  /-- `count($data[key])` -/
  | count (key : String)

def Source.read (data : Value) : Source → Except Throwable Value
  | .required key => offset data key
  | .optional key fallback => .ok (data.coalesce key fallback)
  | .either key otherwise =>
      match data.coalesce key .null with
      | .null => offset data otherwise
      | found => .ok found
  | .flag key => do return .str (if (← offset data key).isEmpty then "N" else "Y")
  | .count key => do
      match ← offset data key with
      | .arr entries => return .num entries.length
      | _ => .error (.error "count(): Argument #1 ($value) must be of type Countable|array")

/-- The fields of a table, read in order. -/
def payload (fields : List (String × Source)) (data : Value) :
    Except Throwable (List (String × Value)) :=
  fields.mapM fun field => do return (field.1, ← field.2.read data)

/-! ## What can be written -/

/-- The field can be read, and is no array. -/
def Source.Writes (data : Value) (source : Source) : Prop :=
  ∃ value, source.read data = .ok value ∧ value.isArray = false

/-- A payload is read without an array exactly when each of its fields is. -/
theorem payload_returns_iff {fields : List (String × Source)} {data : Value} :
    (∃ values, payload fields data = .ok values ∧
        (values.any fun child => child.2.isArray) = false) ↔
      ∀ field ∈ fields, field.2.Writes data := by
  have entry_eq_ok : ∀ (field : String × Source) (written : String × Value),
      (do return (field.1, ← field.2.read data) : Except Throwable (String × Value)) =
        .ok written ↔ ∃ value, field.2.read data = .ok value ∧ (field.1, value) = written := by
    intro field written
    rw [bind_eq_ok]
    simp only [pure, Except.pure, Except.ok.injEq]
  constructor
  · rintro ⟨values, read, noArrays⟩ field member
    obtain ⟨written, isWritten, returned⟩ := exists_of_mapM_eq_ok read member
    obtain ⟨value, found, rfl⟩ := (entry_eq_ok field written).mp returned
    have noArray := List.any_eq_false.mp noArrays _ isWritten
    exact ⟨value, found, by simpa using noArray⟩
  · intro writes
    obtain ⟨values, read⟩ : ∃ values, payload fields data = .ok values := by
      refine mapM_returns_iff.mpr fun field member => ?_
      obtain ⟨value, found, -⟩ := writes field member
      exact ⟨_, (entry_eq_ok field _).mpr ⟨value, found, rfl⟩⟩
    refine ⟨values, read, List.any_eq_false.mpr fun written isWritten => ?_⟩
    obtain ⟨field, member, returned⟩ := exists_source_of_mapM_eq_ok read isWritten
    obtain ⟨value, found, rfl⟩ := (entry_eq_ok field written).mp returned
    obtain ⟨other, foundToo, notArray⟩ := writes field member
    obtain rfl := Except.ok.inj (found.symm.trans foundToo)
    simp [notArray]

/-- Do the rules name the key, with a rule of each kind asked for? -/
def isRuled (fields : List Field) (key : String) (kinds : List (Rule → Bool)) : Bool :=
  fields.any fun field => field.name = key && kinds.all fun kind => field.rules.any kind

/-- Do the rules make sure that the field can be written? -/
def Source.isVouched (fields : List Field) : Source → Bool
  | .required key => isRuled fields key [Rule.isRequired, Rule.isScalar]
  | .optional key fallback => isRuled fields key [Rule.isScalar] && !fallback.isArray
  | .either key otherwise =>
      isRuled fields key [Rule.isScalar] &&
        isRuled fields otherwise [Rule.isRequired, Rule.isScalar]
  | .flag key => isRuled fields key [Rule.isRequired]
  | .count _ => false

section Vouched

variable {fields : List Field} {data : Value}

theorem exists_field_of_isRuled {key : String} {kinds : List (Rule → Bool)}
    (ruled : isRuled fields key kinds = true) :
    ∃ rules, (⟨key, rules⟩ : Field) ∈ fields ∧ ∀ kind ∈ kinds, rules.any kind = true := by
  obtain ⟨⟨name, rules⟩, member, isKind⟩ := List.any_eq_true.mp ruled
  rw [Bool.and_eq_true, decide_eq_true_eq] at isKind
  obtain ⟨rfl, kinds⟩ := isKind
  exact ⟨rules, member, List.all_eq_true.mp kinds⟩

/-- A field with a rule on texts or numbers holds no array. -/
theorem isArray_of_isRuled (hold : FieldsHold fields data) {key : String} {value : Value}
    (ruled : isRuled fields key [Rule.isScalar] = true) (given : data.index key = some value) :
    value.isArray = false := by
  obtain ⟨rules, member, kinds⟩ := exists_field_of_isRuled ruled
  have passing := hold _ member
  rw [given] at passing
  exact isArray_of_passes passing (kinds _ (by simp))

/-- A required field is there. -/
theorem exists_index_of_isRuled (hold : FieldsHold fields data) {key : String}
    {kinds : List (Rule → Bool)} (ruled : isRuled fields key kinds = true)
    (required : Rule.isRequired ∈ kinds) :
    ∃ value, data.index key = some value ∧ value ≠ .null := by
  obtain ⟨rules, member, isKind⟩ := exists_field_of_isRuled ruled
  exact exists_of_passes_required (hold _ member) (any_isRequired_iff.mp (isKind _ required))

theorem offset_eq_ok_of_index {key : String} {value : Value}
    (given : data.index key = some value) : offset data key = .ok value := by
  cases data with
  | arr entries => simp only [offset, show entries.lookup (.str key) = some value from given]
  | null | bool _ | num _ | str _ => cases given

/-- What the rules vouch for is written. -/
theorem writes_of_isVouched (hold : FieldsHold fields data) {source : Source}
    (vouched : source.isVouched fields = true) : source.Writes data := by
  have required : ∀ key, isRuled fields key [Rule.isRequired, Rule.isScalar] = true →
      (Source.required key).Writes data := by
    intro key ruled
    obtain ⟨value, given, -⟩ := exists_index_of_isRuled hold ruled (by simp)
    obtain ⟨rules, member, kinds⟩ := exists_field_of_isRuled ruled
    have passing := hold _ member
    rw [given] at passing
    exact ⟨value, offset_eq_ok_of_index given, isArray_of_passes passing (kinds _ (by simp))⟩
  have coalesced : ∀ key fallback, isRuled fields key [Rule.isScalar] = true →
      (data.coalesce key fallback).isArray = false ∨ data.coalesce key fallback = fallback := by
    intro key fallback ruled
    cases given : data.index key with
    | none => exact .inr (Value.coalesce_of_index_none given)
    | some value =>
        by_cases isNull : value = .null
        · subst isNull
          exact .inr (by simp [Value.coalesce, given])
        · rw [Value.coalesce_of_index_some given isNull]
          exact .inl (isArray_of_isRuled hold ruled given)
  cases source with
  | required key => exact required key vouched
  | optional key fallback =>
      rw [Source.isVouched, Bool.and_eq_true, Bool.not_eq_true'] at vouched
      refine ⟨_, rfl, ?_⟩
      rcases coalesced key fallback vouched.1 with scalar | isFallback
      · exact scalar
      · rw [isFallback]
        exact vouched.2
  | either key otherwise =>
      rw [Source.isVouched, Bool.and_eq_true] at vouched
      obtain ⟨value, found, scalar⟩ := required otherwise vouched.2
      have given := coalesced key .null vouched.1
      generalize same : data.coalesce key .null = first at given
      cases first with
      | null => exact ⟨value, by simpa only [Source.read, same] using found, scalar⟩
      | bool _ | num _ | str _ | arr _ =>
          refine ⟨_, by simp only [Source.read, same]; rfl, ?_⟩
          rcases given with scalar | isNull
          · exact scalar
          · cases isNull
  | flag key =>
      obtain ⟨value, given, -⟩ := exists_index_of_isRuled hold vouched (by simp)
      refine ⟨_, by rw [Source.read, offset_eq_ok_of_index given]; rfl, rfl⟩
  | count key => cases vouched

end Vouched

/-- A flag is written exactly when its key is there. -/
theorem writes_flag_iff {entries : Entries} {key : String} :
    (Source.flag key).Writes (.arr entries) ↔
      ((Value.arr entries).index key).isSome = true := by
  cases given : (Value.arr entries).index key with
  | none =>
      have missing : offset (.arr entries) key =
          .error (.exception ("Undefined array key " ++ key)) := by
        simp only [offset, show entries.lookup (.str key) = none from given]
      simp [Source.Writes, Source.read, missing, bind, Except.bind]
  | some value =>
      simp [Source.Writes, Source.read, offset_eq_ok_of_index given, pure, Except.pure]

/-! ## What is written -/

/-- The value of a field that can be read. What is absent is given as `null`. -/
def Source.written (given : String → Value) : Source → Value
  | .required key => given key
  | .optional key fallback =>
      match given key with
      | .null => fallback
      | found => found
  | .either key otherwise =>
      match given key with
      | .null => given otherwise
      | found => found
  | .flag key => .str (if (given key).isEmpty then "N" else "Y")
  | .count key =>
      match given key with
      | .arr entries => .num entries.length
      | _ => .null

/-- The fields of a table, all of which can be read. -/
def writtenFields (table : List (String × Source)) (given : String → Value) :
    List (String × Value) :=
  table.map fun field => (field.1, field.2.written given)

section Written

variable {fields : List Field} {data : Value} {given : String → Value}

theorem coalesce_eq_of_given {key : String} (same : (data.index key).getD .null = given key)
    (fallback : Value) :
    data.coalesce key fallback =
      match given key with
      | .null => fallback
      | found => found := by
  rw [← same, Value.coalesce]
  cases data.index key with
  | none => rfl
  | some value => cases value <;> rfl

theorem offset_eq_ok_of_given {key : String} (same : (data.index key).getD .null = given key)
    (isThere : ∃ value, data.index key = some value) : offset data key = .ok (given key) := by
  obtain ⟨value, found⟩ := isThere
  rw [offset_eq_ok_of_index found, ← same, found]
  rfl

/-- A field that the rules vouch for holds what the data gives. -/
theorem read_eq_written_of_isVouched (hold : FieldsHold fields data)
    (same : ∀ field ∈ fields, (data.index field.name).getD .null = given field.name)
    {source : Source} (vouched : source.isVouched fields = true) :
    source.read data = .ok (source.written given) := by
  have given_of_isRuled : ∀ key kinds, isRuled fields key kinds = true →
      (data.index key).getD .null = given key := by
    intro key kinds ruled
    obtain ⟨rules, member, -⟩ := exists_field_of_isRuled ruled
    exact same _ member
  have required : ∀ key kinds, isRuled fields key kinds = true → Rule.isRequired ∈ kinds →
      offset data key = .ok (given key) := by
    intro key kinds ruled isRequired
    obtain ⟨value, found, -⟩ := exists_index_of_isRuled hold ruled isRequired
    exact offset_eq_ok_of_given (given_of_isRuled key kinds ruled) ⟨value, found⟩
  cases source with
  | required key => exact required key _ vouched (by simp)
  | optional key fallback =>
      rw [Source.isVouched, Bool.and_eq_true] at vouched
      rw [Source.read, Source.written, coalesce_eq_of_given (given_of_isRuled key _ vouched.1)]
  | either key otherwise =>
      rw [Source.isVouched, Bool.and_eq_true] at vouched
      rw [Source.read, Source.written, coalesce_eq_of_given (given_of_isRuled key _ vouched.1)]
      cases given key with
      | null => exact required otherwise _ vouched.2 (by simp)
      | bool _ | num _ | str _ | arr _ => rfl
  | flag key =>
      rw [Source.read, required key _ vouched (by simp)]
      rfl
  | count key => cases vouched

/-- A payload whose fields can be read holds their values, in order. -/
theorem payload_eq_ok {table : List (String × Source)}
    (reads : ∀ field ∈ table, field.2.read data = .ok (field.2.written given)) :
    payload table data = .ok (writtenFields table given) := by
  unfold payload writtenFields
  induction table with
  | nil => rfl
  | cons field rest inductionHypothesis =>
      have others := inductionHypothesis fun other member =>
        reads other (List.mem_cons_of_mem field member)
      rw [List.mapM_cons, reads field List.mem_cons_self, others]
      rfl

/-- A payload without an array in the fields it is read from holds none. -/
theorem any_isArray_of_payload {table : List (String × Source)} {values : List (String × Value)}
    (read : payload table data = .ok values) (writes : ∀ field ∈ table, field.2.Writes data) :
    (values.any fun child => child.2.isArray) = false := by
  obtain ⟨others, readToo, noArrays⟩ := payload_returns_iff.mpr writes
  obtain rfl := Except.ok.inj (read.symm.trans readToo)
  exact noArrays

end Written

/-! ## Records -/

/-- `$fields[$name] = $text`. -/
def assign : List (String × String) → String → String → List (String × String)
  | [], name, text => [(name, text)]
  | field :: rest, name, text =>
      if field.1 = name then (name, text) :: rest else field :: assign rest name text

/-- The children of an element as an array, `$fields[$field->getName()] = (string) $field`. -/
def fieldTexts (element : Xml) : List (String × String) :=
  element.children.foldl (fun fields field => assign fields field.name field.text) []

section Records

variable {fields : List (String × String)} {name : String}

theorem assign_of_notMem (isNew : name ∉ fields.map Prod.fst) (text : String) :
    assign fields name text = fields ++ [(name, text)] := by
  induction fields with
  | nil => rfl
  | cons field fields inductionHypothesis =>
      rw [List.map_cons, List.mem_cons, not_or] at isNew
      rw [assign, if_neg (Ne.symm isNew.1), inductionHypothesis isNew.2, List.cons_append]

/-- A name that is there keeps its place. -/
theorem map_fst_assign_of_mem (isOld : name ∈ fields.map Prod.fst) (text : String) :
    (assign fields name text).map Prod.fst = fields.map Prod.fst := by
  induction fields with
  | nil => cases isOld
  | cons field fields inductionHypothesis =>
      by_cases same : field.1 = name
      · rw [assign, if_pos same, List.map_cons, List.map_cons, same]
      · have behind : name ∈ fields.map Prod.fst :=
          (List.mem_cons.mp isOld).resolve_left (Ne.symm same)
        rw [assign, if_neg same, List.map_cons, List.map_cons, inductionHypothesis behind]

theorem nodup_assign (distinct : (fields.map Prod.fst).Nodup) (name text : String) :
    ((assign fields name text).map Prod.fst).Nodup := by
  by_cases isOld : name ∈ fields.map Prod.fst
  · rw [map_fst_assign_of_mem isOld]
    exact distinct
  · rw [assign_of_notMem isOld, List.map_append, List.nodup_append]
    refine ⟨distinct, by simp, ?_⟩
    intro other isField single isSingle
    have isNamed : single = name := by simpa using isSingle
    intro same
    exact isOld (isNamed ▸ same ▸ isField)

/-- An array has each name once. -/
theorem nodup_fieldTexts (element : Xml) : ((fieldTexts element).map Prod.fst).Nodup := by
  have keeps : ∀ (children : List Xml) (fields : List (String × String)),
      (fields.map Prod.fst).Nodup →
      ((children.foldl (fun fields field => assign fields field.name field.text)
        fields).map Prod.fst).Nodup := by
    intro children
    induction children with
    | nil => exact fun fields distinct => distinct
    | cons child children inductionHypothesis =>
        intro fields distinct
        exact inductionHypothesis _ (nodup_assign distinct child.name child.text)
  exact keeps element.children [] List.nodup_nil

/-- Children of distinct names become fields of their own. -/
theorem foldl_assign_of_distinct {children : List Xml}
    (distinct : ((fields ++ children.map fun child => (child.name, child.text)).map
      Prod.fst).Nodup) :
    children.foldl (fun fields field => assign fields field.name field.text) fields =
      fields ++ children.map fun child => (child.name, child.text) := by
  induction children generalizing fields with
  | nil => simp
  | cons child children inductionHypothesis =>
      have isNew : child.name ∉ fields.map Prod.fst := by
        intro member
        rw [List.map_append, List.nodup_append] at distinct
        exact distinct.2.2 child.name member child.name (by simp) rfl
      rw [List.foldl_cons, assign_of_notMem isNew, inductionHypothesis (by simpa using distinct)]
      simp

end Records

/-- The loop over the children of `DATA`: a record is an entry, anything else ends
the loop with entries of its own. -/
def listing {β : Type} (isRecord : String → Bool) (entry : Xml → β) (otherwise : List β) :
    List Xml → List β
  | [] => []
  | child :: rest =>
      if isRecord child.name then entry child :: listing isRecord entry otherwise rest
      else otherwise

end TaxGateway.Services.Payloads
