import TaxGateway.Foundations.Decimals
import TaxGateway.Http.ProcessTransactionRequest

/-!
Contract: what the after-hook of an accepted request guarantees about its
amounts.

Owns:
- the amounts of a request as numbers, nothing given counting as zero;
- `Reconciled`, the eleven comparisons the hook makes, each passed;
- the regrouping of the item loop: the expected total is the sum of the
  per-label sums, and the sum of the item totals.

Does not own: where the amounts are written afterwards.
-/

namespace TaxGateway.Http

open TaxGateway.Php
open TaxGateway.Validation

namespace ProcessTransactionRequest

/-- The number `numberAt` reads, zero where it throws. -/
def numberOf (entries : Entries) (name : String) : ℚ :=
  (numberAt entries name).toOption.getD 0

theorem numberOf_of_ok {entries : Entries} {name : String} {number : ℚ}
    (isNumber : numberAt entries name = .ok number) : numberOf entries name = number := by
  simp [numberOf, isNumber, Except.toOption]

/-- A numeric field that survived validation is worth what the hook read. -/
theorem toNumber_of_kept {kept : Value} {entries : Entries} {name : String}
    {rules' : List Rule} (survives : kept.index name = read entries name)
    (passing : passes rules' (read entries name) = true) (numeric : Rule.numeric ∈ rules') :
    (kept.coalesce name (.num 0)).toNumber = .ok (numberOf entries name) := by
  cases given : read entries name with
  | none =>
      rw [Value.coalesce_of_index_none (survives.trans given)]
      simp [numberOf, numberAt, given, Value.toNumber, Except.toOption]
  | some value =>
      by_cases isNull : value = .null
      · subst isNull
        simp [Value.coalesce, survives.trans given, numberOf, numberAt, given,
          Value.toNumber, Except.toOption]
      · rw [Value.coalesce_of_index_some (survives.trans given) isNull]
        rw [given] at passing
        obtain ⟨number, isNumber⟩ :=
          Value.toNumber_ok_of_isNumeric (isNumeric_of_passes passing isNull numeric)
        rw [isNumber, numberOf_of_ok (by rw [numberAt, given]; exact isNumber)]

/-- An item's total as the hook computes it: the amount before tax, and the tax
on it rounded to cents. -/
def itemTotal (providedTaxRates : Entries) (item : Key × Value) : Except Throwable ℚ := do
  let fields := fieldsOf item.2
  let itemTaxableAmount ← itemTotalBeforeTax fields
  let taxRate ← numberAt providedTaxRates (taxType fields)
  return itemTaxableAmount + roundTo 2 (itemTaxableAmount * (taxRate / 100))

/-! ## One round of the item loop -/

theorem addTo_eq_ok {sums sums' : List (String × ℚ)} {label : String} {amount : ℚ}
    (added : addTo sums label amount = .ok sums') :
    label ∈ sums.map Prod.fst ∧
      sums' = sums.map fun sum => if sum.1 = label then (sum.1, sum.2 + amount) else sum := by
  unfold addTo at added
  split at added
  next known =>
    obtain ⟨sum, member, same⟩ := List.any_eq_true.mp known
    exact ⟨List.mem_map.mpr ⟨sum, member, by simpa using same⟩, (Except.ok.inj added).symm⟩
  next => contradiction

/-- Adding to a label that is not there changes nothing. -/
theorem map_addTo_of_notMem {sums : List (String × ℚ)} {label : String} (amount : ℚ)
    (unknown : label ∉ sums.map Prod.fst) :
    (sums.map fun sum => if sum.1 = label then (sum.1, sum.2 + amount) else sum) = sums := by
  conv_rhs => rw [← List.map_id sums]
  apply List.map_congr_left
  intro sum member
  have different : sum.1 ≠ label := by
    intro same
    exact unknown (same ▸ List.mem_map_of_mem member)
  rw [if_neg different]
  rfl

/-- Adding to one label keeps the labels, and adds to the sum over them. -/
theorem sum_addTo {sums : List (String × ℚ)} {label : String} (amount : ℚ)
    (distinct : (sums.map Prod.fst).Nodup) (known : label ∈ sums.map Prod.fst) :
    let added := sums.map fun sum =>
      if sum.1 = label then (sum.1, sum.2 + amount) else sum
    added.map Prod.fst = sums.map Prod.fst ∧
      (added.map Prod.snd).sum = (sums.map Prod.snd).sum + amount := by
  intro added
  have keys : ∀ others : List (String × ℚ),
      (others.map fun sum => if sum.1 = label then (sum.1, sum.2 + amount) else sum).map
        Prod.fst = others.map Prod.fst := by
    intro others
    rw [List.map_map]
    apply List.map_congr_left
    intro sum _
    simp only [Function.comp_apply]
    split <;> rfl
  refine ⟨keys sums, ?_⟩
  show ((sums.map _).map Prod.snd).sum = _
  clear added
  induction sums with
  | nil => simp at known
  | cons head tail inductionHypothesis =>
      rw [List.map_cons, List.nodup_cons] at distinct
      simp only [List.map_cons, List.sum_cons]
      by_cases here : head.1 = label
      · rw [if_pos here, map_addTo_of_notMem amount (here ▸ distinct.1)]
        ring
      · have inTail : label ∈ tail.map Prod.fst := by
          rw [List.map_cons] at known
          rcases List.mem_cons.mp known with same | later
          · exact absurd same.symm here
          · exact later
        rw [if_neg here, inductionHypothesis distinct.2 inTail]
        ring

/-- Sums kept for the labels, whose total is the running total. -/
structure Expected.Balanced (expected : Expected) : Prop where
  taxableLabels : expected.taxableAmounts.map Prod.fst = labels
  taxLabels : expected.calculatedTaxes.map Prod.fst = labels
  total : expected.totalAmount =
    (expected.taxableAmounts.map Prod.snd).sum + (expected.calculatedTaxes.map Prod.snd).sum

theorem balanced_zero : Expected.zero.Balanced :=
  ⟨by decide, by decide, by decide +kernel⟩

/-- What a round of the loop has done when it returns. -/
theorem addItem_eq_ok {providedTaxRates : Entries} {expected expected' : Expected}
    {item : Key × Value} (added : addItem providedTaxRates expected item = .ok expected') :
    ∃ itemTaxableAmount taxRate,
      itemTotalBeforeTax (fieldsOf item.2) = .ok itemTaxableAmount ∧
      numberAt providedTaxRates (taxType (fieldsOf item.2)) = .ok taxRate ∧
      addTo expected.taxableAmounts (taxType (fieldsOf item.2)) itemTaxableAmount =
        .ok expected'.taxableAmounts ∧
      addTo expected.calculatedTaxes (taxType (fieldsOf item.2))
          (roundTo 2 (itemTaxableAmount * (taxRate / 100))) =
        .ok expected'.calculatedTaxes ∧
      expected'.totalAmount = expected.totalAmount + itemTaxableAmount +
        roundTo 2 (itemTaxableAmount * (taxRate / 100)) := by
  obtain ⟨itemTaxableAmount, beforeTax, added⟩ := bind_eq_ok.mp added
  obtain ⟨taxRate, rate, added⟩ := bind_eq_ok.mp added
  obtain ⟨taxableAmounts, taxable, added⟩ := bind_eq_ok.mp added
  obtain ⟨calculatedTaxes, taxes, returned⟩ := bind_eq_ok.mp added
  obtain rfl := Except.ok.inj returned
  exact ⟨itemTaxableAmount, taxRate, beforeTax, rate, taxable, taxes, rfl⟩

theorem addItem_balanced {providedTaxRates : Entries} {expected expected' : Expected}
    {item : Key × Value} (balanced : expected.Balanced)
    (added : addItem providedTaxRates expected item = .ok expected') :
    expected'.Balanced := by
  obtain ⟨itemTaxableAmount, taxRate, -, -, taxable, taxes, total⟩ := addItem_eq_ok added
  obtain ⟨knownTaxable, taxableAmounts⟩ := addTo_eq_ok taxable
  obtain ⟨knownTax, calculatedTaxes⟩ := addTo_eq_ok taxes
  have distinct : labels.Nodup := by decide
  obtain ⟨taxableLabels, taxableSum⟩ :=
    sum_addTo itemTaxableAmount (balanced.taxableLabels ▸ distinct) knownTaxable
  obtain ⟨taxLabels, taxSum⟩ :=
    sum_addTo (roundTo 2 (itemTaxableAmount * (taxRate / 100)))
      (balanced.taxLabels ▸ distinct) knownTax
  refine ⟨?_, ?_, ?_⟩
  · rw [taxableAmounts, taxableLabels, balanced.taxableLabels]
  · rw [calculatedTaxes, taxLabels, balanced.taxLabels]
  · rw [total, balanced.total, taxableAmounts, calculatedTaxes, taxableSum, taxSum]
    ring

/-! ## The whole loop -/

/-- The loop regroups: its total is the sum over the labels. -/
theorem foldlM_addItem_balanced {providedTaxRates items : Entries} {expected : Expected}
    (ran : items.foldlM (addItem providedTaxRates) Expected.zero = .ok expected) :
    expected.Balanced :=
  foldlM_invariant (fun _ _ _ => addItem_balanced) balanced_zero ran

/-- The loop's total is the sum of the item totals, each of which it computed. -/
theorem foldlM_addItem_total {providedTaxRates items : Entries} {start expected : Expected}
    (ran : items.foldlM (addItem providedTaxRates) start = .ok expected) :
    ∃ totals : List ℚ,
      List.Forall₂ (fun item total => itemTotal providedTaxRates item = .ok total) items
        totals ∧
      expected.totalAmount = start.totalAmount + totals.sum := by
  induction items generalizing start with
  | nil =>
      obtain rfl := Except.ok.inj ran
      exact ⟨[], .nil, by simp⟩
  | cons head tail inductionHypothesis =>
      rw [List.foldlM_cons] at ran
      obtain ⟨between, first, others⟩ := bind_eq_ok.mp ran
      obtain ⟨itemTaxableAmount, taxRate, beforeTax, rate, -, -, total⟩ := addItem_eq_ok first
      obtain ⟨totals, computed, sum⟩ := inductionHypothesis others
      refine ⟨(itemTaxableAmount + roundTo 2 (itemTaxableAmount * (taxRate / 100))) :: totals,
        .cons ?_ computed, ?_⟩
      · simp only [itemTotal, beforeTax, rate, ok_bind]
        rfl
      · rw [sum, total, List.sum_cons]
        ring

/-! ## The comparisons -/

theorem labelError_eq_nil {field what label : String} {sums : List (String × ℚ)}
    {provided : Entries} (silent : labelError field what label sums provided = .ok []) :
    |(sums.lookup label).getD 0 - numberOf provided label| ≤ epsilon := by
  obtain ⟨amount, isNumber, compared⟩ := bind_eq_ok.mp silent
  rw [numberOf_of_ok isNumber]
  split at compared
  next => exact absurd (Except.ok.inj compared) (by simp)
  next within => exact not_lt.mp within

theorem totalError_eq_nil {expected : Expected} {totalAmount : ℚ}
    (silent : totalError expected totalAmount = []) :
    |expected.totalAmount - totalAmount| ≤ epsilon := by
  unfold totalError at silent
  split at silent
  next => contradiction
  next within => exact not_lt.mp within

/-- The item loop has run to its end, and its sums agree with the provided
amounts up to `epsilon` in all eleven comparisons. -/
structure Reconciled (input : Entries) (expected : Expected) : Prop where
  loop : (arrayAt input "items").foldlM (addItem (arrayAt input "taxRates"))
    Expected.zero = .ok expected
  isNumber : numberAt input "totalAmount" = .ok (numberOf input "totalAmount")
  total : |expected.totalAmount - numberOf input "totalAmount"| ≤ epsilon
  taxable : ∀ label ∈ labels, |(expected.taxableAmounts.lookup label).getD 0 -
    numberOf (arrayAt input "taxableAmounts") label| ≤ epsilon
  taxes : ∀ label ∈ labels, |(expected.calculatedTaxes.lookup label).getD 0 -
    numberOf (arrayAt input "calculatedTaxes") label| ≤ epsilon

/-- What the hook has run when it returns, and the errors it then adds. -/
theorem afterHook_eq_ok {input : Entries} {errors : List FieldError}
    (returned : afterHook input = .ok errors) :
    ∃ expected totalAmount perLabel credit,
      (arrayAt input "items").foldlM (addItem (arrayAt input "taxRates")) Expected.zero =
          .ok expected ∧
        numberAt input "totalAmount" = .ok totalAmount ∧
        labels.mapM (labelErrors input expected) = .ok perLabel ∧
        (if isCreditNote input then creditErrors (arrayAt input "items") totalAmount
          else .ok []) = .ok credit ∧
        errors = totalError expected totalAmount ++ perLabel.flatten ++ credit := by
  obtain ⟨expected, loop, returned⟩ := bind_eq_ok.mp returned
  obtain ⟨totalAmount, isNumber, returned⟩ := bind_eq_ok.mp returned
  obtain ⟨perLabel, compared, returned⟩ := bind_eq_ok.mp returned
  dsimp only at returned
  split at returned
  next creditNote =>
    obtain ⟨credit, checked, returned⟩ := bind_eq_ok.mp returned
    exact ⟨expected, totalAmount, perLabel, credit, loop, isNumber, compared,
      (if_pos creditNote).trans checked, (Except.ok.inj returned).symm⟩
  next other =>
    exact ⟨expected, totalAmount, perLabel, [], loop, isNumber, compared, if_neg other,
      (Except.ok.inj returned).symm⟩

/-- A hook that adds no error has made all its comparisons. -/
theorem reconciled_of_afterHook {input : Entries} (silent : afterHook input = .ok []) :
    ∃ expected, Reconciled input expected := by
  obtain ⟨expected, totalAmount, perLabel, credit, loop, isNumber, compared, -, nothing⟩ :=
    afterHook_eq_ok silent
  have noErrors : (totalError expected totalAmount = [] ∧ perLabel.flatten = []) ∧
      credit = [] := by
    simpa only [List.append_eq_nil_iff] using nothing.symm
  have number := numberOf_of_ok isNumber
  have silentLabel : ∀ label ∈ labels,
      labelError "taxableAmounts" "taxable amount" label expected.taxableAmounts
          (arrayAt input "taxableAmounts") = .ok [] ∧
        labelError "calculatedTaxes" "tax" label expected.calculatedTaxes
          (arrayAt input "calculatedTaxes") = .ok [] := by
    intro label isLabel
    obtain ⟨errors, member, ran⟩ := exists_of_mapM_eq_ok compared isLabel
    have none := List.flatten_eq_nil_iff.mp noErrors.1.2 errors member
    subst none
    obtain ⟨taxable, taxableOk, ran⟩ := bind_eq_ok.mp ran
    obtain ⟨taxes, taxesOk, both⟩ := bind_eq_ok.mp ran
    obtain ⟨noTaxable, noTaxes⟩ := List.append_eq_nil_iff.mp (Except.ok.inj both)
    exact ⟨noTaxable ▸ taxableOk, noTaxes ▸ taxesOk⟩
  refine ⟨expected, loop, number ▸ isNumber, ?_, ?_, ?_⟩
  · rw [number]
    exact totalError_eq_nil noErrors.1.1
  · intro label isLabel
    exact labelError_eq_nil (silentLabel label isLabel).1
  · intro label isLabel
    exact labelError_eq_nil (silentLabel label isLabel).2

/-! ## Sums over the labels -/

/-- Looking each key up gives the values back. -/
theorem map_lookup_keys {sums : List (String × ℚ)} (distinct : (sums.map Prod.fst).Nodup) :
    ((sums.map Prod.fst).map fun label => (sums.lookup label).getD 0) =
      sums.map Prod.snd := by
  induction sums with
  | nil => rfl
  | cons head tail inductionHypothesis =>
      rw [List.map_cons, List.nodup_cons] at distinct
      have later : ((tail.map Prod.fst).map fun label =>
          ((head :: tail).lookup label).getD 0) =
            (tail.map Prod.fst).map fun label => (tail.lookup label).getD 0 := by
        apply List.map_congr_left
        intro label member
        have different : (label == head.1) = false := by
          have notHead : label ≠ head.1 := fun same => distinct.1 (same ▸ member)
          simpa using notHead
        rw [List.lookup_cons, different]
      rw [List.map_cons, List.map_cons, later, inductionHypothesis distinct.2,
        List.lookup_cons_self, List.map_cons]
      rfl

/-- The provided amounts of the five labels. -/
def labelSum (input : Entries) (name : String) : ℚ :=
  (labels.map fun label => numberOf (arrayAt input name) label).sum

/-- The provided per-label amounts add up to the provided total, up to the
eleven tolerances. -/
theorem Reconciled.abs_labelSums_sub_total_le {input : Entries} {expected : Expected}
    (reconciled : Reconciled input expected) :
    |labelSum input "taxableAmounts" + labelSum input "calculatedTaxes" -
      numberOf input "totalAmount"| ≤ 11 * epsilon := by
  have balanced := foldlM_addItem_balanced reconciled.loop
  have distinct : labels.Nodup := by decide
  have taxableSum : (labels.map fun label =>
      (expected.taxableAmounts.lookup label).getD 0).sum =
        (expected.taxableAmounts.map Prod.snd).sum := by
    rw [← map_lookup_keys (balanced.taxableLabels ▸ distinct), balanced.taxableLabels]
  have taxSum : (labels.map fun label =>
      (expected.calculatedTaxes.lookup label).getD 0).sum =
        (expected.calculatedTaxes.map Prod.snd).sum := by
    rw [← map_lookup_keys (balanced.taxLabels ▸ distinct), balanced.taxLabels]
  have taxableNear := abs_sum_map_sub_le reconciled.taxable
  have taxNear := abs_sum_map_sub_le reconciled.taxes
  have count : (labels.length : ℚ) = 5 := by simp [labels]
  rw [taxableSum, count] at taxableNear
  rw [taxSum, count] at taxNear
  have total := reconciled.total
  rw [balanced.total] at total
  simp only [labelSum]
  rw [abs_le] at *
  constructor <;> linarith

end ProcessTransactionRequest

open ProcessTransactionRequest

/-! ## Accepted requests -/

namespace AcceptedRequest

variable (request : AcceptedRequest)

/-- `$this->input('totalAmount')`, as a number. -/
def totalAmount : ℚ := numberOf request.input "totalAmount"

theorem exists_reconciled : ∃ expected, Reconciled request.input expected := by
  have both := request.accepted
  simp only [ProcessTransactionRequest.accepts, Bool.and_eq_true] at both
  obtain ⟨-, silent⟩ := both
  split at silent
  next none => exact reconciled_of_afterHook none
  next => contradiction

/-- What is left of a map of per-label amounts, or `[]` when nothing is. -/
def amounts (name : String) : Value := request.validated.coalesce name (.arr [])

/-- The amount of a label survives validation as the number the hook compared. -/
theorem toNumber_amounts {name : String} {rules' : List Rule}
    (member : Attribute.keyed ⟨name, [.required, .array]⟩ (labelFields rules') ∈
      rules request.lookups request.input) (numeric : Rule.numeric ∈ rules')
    {label : String} (isLabel : label ∈ labels) :
    ((request.amounts name).coalesce label (.num 0)).toNumber =
      .ok (numberOf (arrayAt request.input name) label) := by
  have isField : (⟨label, rules'⟩ : Field) ∈ labelFields rules' :=
    List.mem_map_of_mem isLabel
  have distinct : ((labelFields rules').map Field.name).Nodup := by
    simp [labelFields, labels]
  have survives : (request.amounts name).index label =
      read (arrayAt request.input name) label := by
    have fields := lookup_validatedFields_of_mem distinct isField
      (arrayAt request.input name)
    have kept : request.validated.index name = Attribute.arrayOf
        (validatedFields (labelFields rules') (arrayAt request.input name)) :=
      request.validated_index member
    rw [Attribute.arrayOf] at kept
    by_cases nothing :
        (validatedFields (labelFields rules') (arrayAt request.input name)).isEmpty = true
    · rw [if_pos nothing] at kept
      rw [List.isEmpty_iff.mp nothing] at fields
      rw [amounts, Value.coalesce_of_index_none kept]
      exact fields
    · rw [if_neg nothing] at kept
      rw [amounts, Value.coalesce_of_index_some kept (Value.arr_ne_null _)]
      exact fields
  have accepted := request.attribute_accepts member
  simp only [Attribute.accepts, Bool.and_eq_true] at accepted
  have passing : passes rules' (read (arrayAt request.input name) label) = true :=
    passes_of_fieldsPass accepted.2 isField
  exact toNumber_of_kept survives passing numeric

end AcceptedRequest

end TaxGateway.Http
