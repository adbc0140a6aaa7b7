import TaxGateway.Foundations.Decimals

/-!
Contract: the three private helpers that `KraSalesService` and
`ProcessKraJournalingJob` each carry a copy of.

Owns: the code maps for receipt and transaction types, and the formatter of
the per-label tax amounts, with what they throw.
-/

namespace TaxGateway.Services.KraFields

open TaxGateway.Php

/-- `strtoupper`, which changes ASCII letters only. -/
def strtoupper (text : String) : String :=
  String.ofList (text.toList.map Char.toUpper)

def getKraReceiptType (type : String) : Except Throwable String :=
  match strtoupper type with
  | "NORMAL" => .ok "N"
  | "COPY" => .ok "C"
  | "TRAINING" => .ok "T"
  | "PROFORMA" => .ok "P"
  | _ => .error (.exception ("Invalid receipt type: " ++ type))

def getKraTransactionType (type : String) : Except Throwable String :=
  match strtoupper type with
  | "SALE" => .ok "S"
  | "CREDIT_NOTE" => .ok "NC"
  | "DEBIT_NOTE" => .ok "ND"
  | _ => .error (.exception ("Invalid transaction type: " ++ type))

theorem getKraReceiptType_ok {type : String}
    (known : type ∈ ["NORMAL", "COPY", "TRAINING", "PROFORMA"]) :
    ∃ code, getKraReceiptType type = .ok code := by
  simp only [List.mem_cons, List.not_mem_nil, or_false] at known
  rcases known with rfl | rfl | rfl | rfl
  · exact ⟨"N", rfl⟩
  · exact ⟨"C", rfl⟩
  · exact ⟨"T", rfl⟩
  · exact ⟨"P", rfl⟩

theorem getKraTransactionType_ok {type : String}
    (known : type ∈ ["SALE", "CREDIT_NOTE", "DEBIT_NOTE"]) :
    ∃ code, getKraTransactionType type = .ok code := by
  simp only [List.mem_cons, List.not_mem_nil, or_false] at known
  rcases known with rfl | rfl | rfl
  · exact ⟨"S", rfl⟩
  · exact ⟨"NC", rfl⟩
  · exact ⟨"ND", rfl⟩

theorem getKraReceiptType_returns_iff {type : String} :
    (∃ code, getKraReceiptType type = .ok code) ↔
      strtoupper type ∈ ["NORMAL", "COPY", "TRAINING", "PROFORMA"] := by
  unfold getKraReceiptType
  split <;> simp_all

theorem getKraTransactionType_returns_iff {type : String} :
    (∃ code, getKraTransactionType type = .ok code) ↔
      strtoupper type ∈ ["SALE", "CREDIT_NOTE", "DEBIT_NOTE"] := by
  unfold getKraTransactionType
  split <;> simp_all

/-! ## Tax amounts -/

/-- `['A', 'B', 'C', 'D', 'E']`. -/
def taxLabels : List String := ["A", "B", "C", "D", "E"]

/-- One formatted entry: the label's amount, `0.00` when it is absent. -/
def formatTaxEntry (taxData : Value) (typeSuffix : String) (entry : String × Nat) :
    Except Throwable (String × Value) := do
  let value ← (taxData.coalesce entry.1 (.num 0)).toNumber
  return ("Tax" ++ typeSuffix ++ toString (entry.2 + 1), .str (numberFormat 2 value))

/-- `formatTaxDataForKraXml(array $taxData, string $typeSuffix)`. -/
def formatTaxDataForKraXml (taxData : Value) (typeSuffix : String) :
    Except Throwable (List (String × Value)) :=
  if taxData.isArray then taxLabels.zipIdx.mapM (formatTaxEntry taxData typeSuffix)
  else .error (.error "formatTaxDataForKraXml(): Argument #1 must be of type array")

/-- An array whose labels, where they are set, hold amounts. -/
def FormatsTaxes (taxData : Value) : Prop :=
  taxData.isArray = true ∧
    ∀ label ∈ taxLabels, (taxData.coalesce label (.num 0)).IsAmount

theorem formatTaxEntry_returns_iff {taxData : Value} {typeSuffix : String}
    {entry : String × Nat} :
    (∃ field, formatTaxEntry taxData typeSuffix entry = .ok field) ↔
      (taxData.coalesce entry.1 (.num 0)).IsAmount := by
  rw [← Value.toNumber_returns_iff, formatTaxEntry]
  cases (taxData.coalesce entry.1 (.num 0)).toNumber with
  | error thrown => simp [bind, Except.bind]
  | ok number => simp [pure, Except.pure]

theorem formatTaxDataForKraXml_returns_iff {taxData : Value} {typeSuffix : String} :
    (∃ fields, formatTaxDataForKraXml taxData typeSuffix = .ok fields) ↔
      FormatsTaxes taxData := by
  unfold formatTaxDataForKraXml FormatsTaxes
  by_cases isArray : taxData.isArray = true
  · rw [if_pos isArray, mapM_returns_iff]
    simp only [formatTaxEntry_returns_iff, isArray, true_and]
    conv_rhs => rw [← List.zipIdx_map_fst 0 taxLabels]
    simp only [List.forall_mem_map]
  · simp [isArray]

/-- Whatever is formatted is a text. -/
theorem isArray_of_formatted {taxData : Value} {typeSuffix : String}
    {fields : List (String × Value)}
    (formatted : formatTaxDataForKraXml taxData typeSuffix = .ok fields) :
    ∀ field ∈ fields, field.2.isArray = false := by
  unfold formatTaxDataForKraXml at formatted
  split at formatted
  next =>
    generalize taxLabels.zipIdx = entries at formatted
    have written := mapM_eq_ok formatted
    clear formatted
    induction written with
    | nil => simp
    | @cons entry field _ _ first _ inductionHypothesis =>
        obtain ⟨number, -, written⟩ := bind_eq_ok.mp first
        intro member isMember
        rcases List.mem_cons.mp isMember with rfl | inOthers
        · rw [← Except.ok.inj written]
          rfl
        · exact inductionHypothesis member inOthers
  next => cases formatted

/-- A map whose labels hold numbers, `null` or nothing. -/
def IsTaxMap (taxData : Value) : Prop :=
  taxData.isArray = true ∧
    ∀ label ∈ taxLabels, ∀ value, taxData.index label = some value →
      value ≠ .null → value.isNumeric = true

/-- The amount of a label of a tax map is a number. -/
theorem toNumber_coalesce_of_isTaxMap {taxData : Value} (taxMap : IsTaxMap taxData)
    {label : String} (isLabel : label ∈ taxLabels) :
    ∃ number, (taxData.coalesce label (.num 0)).toNumber = .ok number := by
  cases present : taxData.index label with
  | none => exact ⟨0, by rw [Value.coalesce_of_index_none present]; rfl⟩
  | some value =>
      by_cases isNull : value = .null
      · subst isNull
        exact ⟨0, by simp [Value.coalesce, present, Value.toNumber]⟩
      · rw [Value.coalesce_of_index_some present isNull]
        exact Value.toNumber_ok_of_isNumeric
          (taxMap.2 label isLabel value present isNull)

/-- The number a label's field is written for. -/
def amountOf (taxData : Value) (label : String) : ℚ :=
  (taxData.coalesce label (.num 0)).toNumber.toOption.getD 0

/-- The name of the field of a label: they are numbered from one. -/
def taxKey (typeSuffix : String) (index : Nat) : String :=
  "Tax" ++ typeSuffix ++ toString (index + 1)

/-- The five fields written for a tax map. -/
def taxFields (taxData : Value) (typeSuffix : String) : List (String × Value) :=
  taxLabels.zipIdx.map fun entry =>
    (taxKey typeSuffix entry.2, .str (numberFormat 2 (amountOf taxData entry.1)))

private theorem mapM_eq_map {α β : Type} {transform : α → Except Throwable β}
    {result : α → β} {members : List α}
    (each : ∀ member ∈ members, transform member = .ok (result member)) :
    members.mapM transform = .ok (members.map result) := by
  induction members with
  | nil => rfl
  | cons head tail inductionHypothesis =>
      have others := inductionHypothesis fun member isMember =>
        each member (List.mem_cons_of_mem head isMember)
      rw [List.mapM_cons, each head (by simp), others]
      rfl

/-- Formatting a tax map cannot fail, and writes five texts. -/
theorem formatTaxDataForKraXml_eq {taxData : Value} (taxMap : IsTaxMap taxData)
    (typeSuffix : String) :
    formatTaxDataForKraXml taxData typeSuffix = .ok (taxFields taxData typeSuffix) := by
  unfold formatTaxDataForKraXml
  rw [if_pos taxMap.1]
  apply mapM_eq_map
  intro entry member
  have isLabel : entry.1 ∈ taxLabels := by
    have labelled : entry.1 ∈ taxLabels.zipIdx.map Prod.fst :=
      List.mem_map_of_mem member
    rwa [List.zipIdx_map_fst] at labelled
  obtain ⟨number, isNumber⟩ := toNumber_coalesce_of_isTaxMap taxMap isLabel
  rw [formatTaxEntry, amountOf, isNumber]
  rfl

/-- Every tax field is an amount with two decimals. -/
theorem eq_numberFormat_of_mem_taxFields {taxData : Value} {typeSuffix : String}
    {field : String × Value} (member : field ∈ taxFields taxData typeSuffix) :
    ∃ number, field.2 = .str (numberFormat 2 number) := by
  obtain ⟨entry, -, rfl⟩ := List.mem_map.mp member
  exact ⟨_, rfl⟩

theorem isArray_taxFields {taxData : Value} {typeSuffix : String} {field : String × Value}
    (member : field ∈ taxFields taxData typeSuffix) : field.2.isArray = false := by
  obtain ⟨number, written⟩ := eq_numberFormat_of_mem_taxFields member
  rw [written]
  rfl

/-- The number in a field of a payload. -/
def fieldNumber (payload : List (String × Value)) (key : String) : Option ℚ :=
  (payload.lookup key).bind fun value => value.toNumber.toOption

/-- A field written for a number is worth that number, rounded to cents. -/
theorem fieldNumber_of_lookup {payload : List (String × Value)} {key : String} {number : ℚ}
    (written : payload.lookup key = some (.str (numberFormat 2 number))) :
    fieldNumber payload key = some (roundTo 2 number) := by
  rw [fieldNumber, written, Option.bind_some, toNumber_numberFormat]
  rfl

/-! ## Field names -/

/-- The names of the fields with one suffix. -/
def taxKeys (typeSuffix : String) : List String :=
  (List.range taxLabels.length).map (taxKey typeSuffix)

theorem map_fst_taxFields (taxData : Value) (typeSuffix : String) :
    (taxFields taxData typeSuffix).map Prod.fst = taxKeys typeSuffix := by
  simp only [taxFields, taxKeys, List.map_map]
  rfl

end TaxGateway.Services.KraFields
